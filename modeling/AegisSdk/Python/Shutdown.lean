import AegisSdk.Python.Course

/-!
Whether a SHUTDOWN is final. It ends the message loop and the component shuts down, but `run`
does not tell the return of the loop from the loss of a connection: it goes on to the next
attempt whenever the configuration asks for one.
-/

set_option autoImplicit false
set_option relaxedAutoImplicit false

namespace AegisSdk.Python

open AegisSdk.Protocol AegisSdk.Library

def isShutdown (envelope : Json) : Bool :=
  keyIs envelope "type" MessageType.lifecycle.value &&
    keyIs envelope "command" Command.shutdown.value

def Event.isShutdown : Event → Bool
  | .dispatch envelope => Python.isShutdown envelope
  | _ => false

def Event.attempts : Event → Bool
  | .connect _ | .connectFailed => true
  | _ => false

def Event.isOnShutdown : Event → Bool
  | .onShutdown => true
  | _ => false

/-- There is no other connection, the hook is called once, and the state is assigned once more. -/
structure Closing (post : List Event) : Prop where
  attempts : ∀ e ∈ post, e.attempts = false
  hook : post.countP Event.isOnShutdown = 1
  states : ∀ s, Event.state s ∈ post ↔ s = .shutdown

structure Final (post : List Event) (result : Option Outcome × World) : Prop extends
    Closing post where
  state : result.2.state = .shutdown
  returns : result.1.any Outcome.isReturn = true

/-- No SHUTDOWN is followed by another connection, and `run` returns after it. -/
def ShutdownFinal (result : Option Outcome × World) : Prop :=
  ∀ pre e post, result.2.trace = pre ++ e :: post → e.isShutdown = true → Final post result

def Event.hasId : Event → Bool
  | .dispatch envelope => hasKey envelope "message_id"
  | _ => false

def Last (cfg : Config) (past : List Event) (e : Event) : Prop :=
  e.isShutdown = true → e.hasId = true ∧ ¬cfg.retries (past.countP Event.attempts)

instance (cfg : Config) (past : List Event) (e : Event) : Decidable (Last cfg past e) :=
  inferInstanceAs (Decidable (_ → _))

def Event.plain (e : Event) : Bool := !e.isShutdown && !e.attempts

theorem plain_of_inner {e : Event} (h : e.inner = true) : e.plain = true := by
  cases e <;> first | rfl | cases h

inductive Told (es : List Event) : EStateM.Result Exn World Unit → Prop
  | quiet {r : EStateM.Result Exn World Unit} : (∀ e ∈ es, e.plain = true) → Told es r
  | shut {pre : List Event} {envelope ack bye : Json} {w : World} :
      es = pre ++ [.dispatch envelope, .write ack true, .write bye true, .onShutdown,
        .state .shutdown] →
      (∀ e ∈ pre, e.plain = true) → isShutdown envelope = true →
      hasKey envelope "message_id" = true → w.state = .shutdown → Told es (.ok () w)
  | noId {pre : List Event} {envelope : Json} {w : World} :
      es = pre ++ [.dispatch envelope] → (∀ e ∈ pre, e.plain = true) →
      isShutdown envelope = true → hasKey envelope "message_id" = false →
      Told es (.error (.keyError "message_id") w)

theorem Told.prepend {xs es : List Event} {r : EStateM.Result Exn World Unit}
    (hxs : ∀ e ∈ xs, e.plain = true) (h : Told es r) : Told (xs ++ es) r := by
  cases h with
  | quiet hes => exact .quiet (List.forall_mem_append.mpr ⟨hxs, hes⟩)
  | shut heq hpre hshut hid hstate =>
    exact .shut (by rw [heq, List.append_assoc]) (List.forall_mem_append.mpr ⟨hxs, hpre⟩) hshut
      hid hstate
  | noId heq hpre hshut hid =>
    exact .noId (by rw [heq, List.append_assoc]) (List.forall_mem_append.mpr ⟨hxs, hpre⟩) hshut
      hid

def Tells (x : Task Unit) (w : World) : Prop :=
  ∃ es, (final (x w)).trace = w.trace ++ es ∧ Told es (x w)

section Loop

variable {rt : Runtime} {cfg : Config} {w : World}

theorem tells_of_records {x : Task Unit} (h : (records Event.plain).Of x) (w : World) :
    Tells x w := by
  obtain ⟨es, hes⟩ := h w
  exact ⟨es, hes.trace, .quiet hes.kinds⟩

theorem tells_bind {α : Type} {x : Task α} {f : α → Task Unit}
    (hx : (records Event.plain).Of x) (hw : w.Reliable)
    (hf : ∀ a w', w'.Reliable → Tells (f a) w') : Tells (x >>= f) w := by
  cases h : x w with
  | error exn w' =>
    obtain ⟨es, hes⟩ := hx.error h
    unfold Tells
    rw [bind_error h]
    exact ⟨es, hes.trace, .quiet hes.kinds⟩
  | ok a w' =>
    obtain ⟨es, hes⟩ := hx.ok h
    obtain ⟨es', htrace, htold⟩ := hf a w' (hes.reliable hw)
    unfold Tells
    rw [bind_ok h]
    refine ⟨es ++ es', ?_, htold.prepend hes.kinds⟩
    rw [htrace, hes.trace, List.append_assoc]

theorem gracefulShutdown_ok (rt : Runtime) (cfg : Config) (hw : w.Reliable) : ∃ bye w',
    gracefulShutdown rt cfg w = .ok () w' ∧
    w'.trace = w.trace ++ [.write bye true, .onShutdown, .state .shutdown] ∧
    w'.state = .shutdown := by
  let bye := newEnvelope (rt.stamp w.created) .lifecycle .shutdown (source cfg) (.obj []) .null
  have hsend : send bye { w with created := w.created + 1 } =
      .ok () ({ w with created := w.created + 1 }.wrote bye) := send_ok bye hw
  have hrun : gracefulShutdown rt cfg w = (do
      ignore (send bye)
      emit .onShutdown
      setState .shutdown : Task Unit) { w with created := w.created + 1 } := rfl
  refine ⟨bye, _, (hrun.trans (bind_ok (ignore_ok hsend))).trans rfl, ?_, rfl⟩
  simp [World.record, World.wrote]

theorem messageLoop_stopped (rt : Runtime) (cfg : Config) (h : w.running = false)
    (reads : List Read) : messageLoop rt cfg reads w = gracefulShutdown rt cfg w := by
  have hget : (get : Task World) w = .ok w w := rfl
  cases reads <;> rw [messageLoop, bind_ok hget, h] <;> rfl

theorem process_shutdown {envelope : Json} (h : isShutdown envelope = true) :
    process rt cfg envelope w = (do
      sendAck rt cfg (← ofExcept (dictItem envelope "message_id"))
      stopRunning : Task Unit) (w.record (.dispatch envelope)) := by
  rw [isShutdown, Bool.and_eq_true] at h
  obtain ⟨t, ht, htype⟩ := keyIs_eq_true h.1
  obtain ⟨c, hc, hcommand⟩ := keyIs_eq_true h.2
  have hprocess : process rt cfg envelope w = handle rt cfg t envelope
      (w.record (.dispatch envelope)) := by
    rw [process, ht, hc]
    rfl
  obtain rfl := equals_iff.mp htype
  have hhandle : handle rt cfg (.str MessageType.lifecycle.value) envelope =
      handleLifecycle rt cfg envelope := rfl
  rw [hprocess, hhandle, handleLifecycle, hc]
  show (if equals c Command.shutdown.value = true then _ else _ : Task Unit) _ = _
  rw [if_pos hcommand]

theorem sendAck_ok (rt : Runtime) (cfg : Config) (id : Json) (hw : w.Reliable) :
    ∃ ack w', sendAck rt cfg id w = .ok () w' ∧ w'.trace = w.trace ++ [.write ack true] ∧
      w'.Reliable := by
  let ack := newEnvelope (rt.stamp w.created) .control .ack (source cfg)
    (.obj [("status", .str "ok")]) id
  have hsend : send ack { w with created := w.created + 1 } =
      .ok () ({ w with created := w.created + 1 }.wrote ack) := send_ok ack hw
  exact ⟨ack, _, hsend, rfl, wrote_reliable ack hw⟩

theorem process_plain {envelope : Json} (h : isShutdown envelope = false) :
    (records Event.plain).Of (process rt cfg envelope) := by
  refine (ofExcept_records _).bind fun t => (ofExcept_records _).bind fun _ =>
    (emit_records ?_).bind fun _ => records_widen (handle_records t envelope) fun _ => plain_of_inner
  simp [Event.plain, Event.isShutdown, Event.attempts, h]

theorem gracefulShutdown_plain : (records Event.plain).Of (gracefulShutdown rt cfg) :=
  records_widen gracefulShutdown_records fun _ => plain_of_inner

theorem tells_shutdown {envelope : Json} (h : isShutdown envelope = true) (hw : w.Reliable)
    (rest : List Read) :
    Tells (do process rt cfg envelope; messageLoop rt cfg rest) w := by
  have hprocess : process rt cfg envelope w = _ := process_shutdown h
  cases hid : hasKey envelope "message_id" with
  | true =>
    obtain ⟨id, hitem⟩ := hasKey_iff.mp hid
    obtain ⟨ack, w₁, hack, htrace₁, hw₁⟩ := sendAck_ok rt cfg id
      (w := w.record (.dispatch envelope)) hw
    have hstop : process rt cfg envelope w = .ok () { w₁ with running := false } := by
      rw [hprocess, hitem]
      exact (bind_ok hack).trans rfl
    obtain ⟨bye, w₂, hbye, htrace₂, hstate⟩ := gracefulShutdown_ok rt cfg
      (w := { w₁ with running := false }) hw₁
    have hloop := messageLoop_stopped rt cfg (w := { w₁ with running := false }) rfl rest
    unfold Tells
    rw [bind_ok hstop, hloop, hbye]
    refine ⟨[.dispatch envelope, .write ack true, .write bye true, .onShutdown,
      .state .shutdown], ?_, .shut (List.nil_append _).symm (List.forall_mem_nil _) h hid hstate⟩
    show w₂.trace = _
    rw [htrace₂]
    show w₁.trace ++ _ = _
    rw [htrace₁]
    simp [World.record]
  | false =>
    have hmissing : dictItem envelope "message_id" = .error (.keyError "message_id") := by
      rw [isShutdown, Bool.and_eq_true] at h
      obtain ⟨t, ht, -⟩ := keyIs_eq_true h.1
      obtain ⟨members, rfl⟩ := exists_members ht
      exact dictItem_of_not_hasKey hid
    have hfails : process rt cfg envelope w =
        .error (.keyError "message_id") (w.record (.dispatch envelope)) := by
      rw [hprocess, hmissing]
      rfl
    unfold Tells
    rw [bind_error hfails]
    exact ⟨[.dispatch envelope], rfl, .noId (List.nil_append _).symm (List.forall_mem_nil _) h hid⟩

theorem messageLoop_tells (reads : List Read) (hw : w.Reliable) :
    Tells (messageLoop rt cfg reads) w := by
  induction reads generalizing w with
  | nil =>
    apply tells_of_records
    refine Journal.of_get.bind fun w' => ?_
    dsimp only
    split
    · exact (emit_records rfl).bind fun _ => gracefulShutdown_plain
    · exact gracefulShutdown_plain
  | cons read rest ih =>
    refine tells_bind Journal.of_get hw fun w₀ w₁ hw₁ => ?_
    split
    case isFalse => exact tells_of_records gracefulShutdown_plain w₁
    split
    case isTrue =>
      exact tells_of_records ((emit_records rfl).bind fun _ => gracefulShutdown_plain) w₁
    refine tells_bind (emit_records rfl) hw₁ fun _ w₂ hw₂ => ?_
    split
    case h_1 => exact tells_of_records gracefulShutdown_plain w₂
    case h_2 exn _ _ => exact tells_of_records (Journal.of_throw exn) w₂
    case h_3 envelope _ =>
      cases hshut : isShutdown envelope with
      | true => exact tells_shutdown hshut hw₂ rest
      | false => exact tells_bind (process_plain hshut) hw₂ fun _ w₃ hw₃ => ih hw₃

theorem await_plain (stage : Stage) (read : Read) :
    (records Event.plain).Of (await rt stage read) :=
  (emit_records rfl).bind fun _ => ofExcept_records _

theorem register_plain (read : Read) : (records Event.plain).Of (register rt cfg read) :=
  (create_records _ _ _ _).bind fun _ =>
    (records_widen (send_records _) fun _ => plain_of_inner).bind fun _ =>
      (await_plain _ read).bind fun response =>
        records_widen (accept_records response) fun _ => plain_of_inner

theorem signalReady_plain (read : Read) : (records Event.plain).Of (signalReady rt cfg read) := by
  have update : ∀ s, (records Event.plain).Of (sendStateUpdate rt cfg s) :=
    fun s => records_widen (sendStateUpdate_records s) fun _ => plain_of_inner
  exact (update _).bind fun _ => (await_plain _ read).bind fun _ =>
    (ofExcept_records _).bind fun _ => update _

theorem session_tells (rt : Runtime) (cfg : Config) (reads : List Read) (hw : w.Reliable) :
    Tells (session rt cfg reads) w := by
  refine tells_bind (register_plain _) hw fun _ w₁ hw₁ => ?_
  refine tells_bind (signalReady_plain _) hw₁ fun _ w₂ hw₂ => ?_
  refine tells_bind (modify_records (fun _ => rfl) fun _ => rfl) hw₂ fun _ w₃ hw₃ => ?_
  exact messageLoop_tells _ hw₃

theorem connection_tells (rt : Runtime) (cfg : Config) {link : Link}
    (hlink : ∀ ok ∈ link.writes, ok = true) (w : World) :
    ∃ e es, e.attempts = true ∧ (final (connection rt cfg link w)).trace = w.trace ++ e :: es ∧
      Told es (connection rt cfg link w) := by
  unfold connection
  cases link.connect with
  | false => exact ⟨.connectFailed, [], rfl, rfl, .quiet (List.forall_mem_nil _)⟩
  | true =>
    let w₁ : World := { w.record (.connect link) with writer := true, writes := link.writes }
    obtain ⟨es, htrace, htold⟩ := session_tells rt cfg link.reads (w := w₁) hlink
    refine ⟨.connect link, es, rfl, ?_, htold⟩
    show (final (session rt cfg link.reads w₁)).trace = _
    rw [htrace]
    exact List.append_assoc _ _ _

theorem turn_ends (rt : Runtime) (cfg : Config) (attempts : Nat) (link : Link) (w : World) :
    ∃ es, (turn rt cfg attempts link w).2.trace =
        (final (connection rt cfg link w)).trace ++ es ∧
      (∀ e ∈ es, e.tail = true) ∧
      (turn rt cfg attempts link w).2.state = (final (connection rt cfg link w)).state ∧
      (∀ w', connection rt cfg link w = .ok () w' →
        ((turn rt cfg attempts link w).1 = none ↔ cfg.retries (attempts + 1)) ∧
        ∀ o, (turn rt cfg attempts link w).1 = some o → o.isReturn = true) ∧
      ∀ key w', connection rt cfg link w = .error (.keyError key) w' →
        (turn rt cfg attempts link w).1 = some (.escaped (.keyError key)) := by
  have goes_on : ∀ w' : World, ∃ es,
      (turn.again cfg attempts w'.leave).2.trace = w'.trace ++ es ∧ (∀ e ∈ es, e.tail = true) ∧
      (turn.again cfg attempts w'.leave).2.state = w'.state ∧
      ((turn.again cfg attempts w'.leave).1 = none ↔ cfg.retries (attempts + 1)) ∧
      ∀ o, (turn.again cfg attempts w'.leave).1 = some o → o.isReturn = true := by
    intro w'
    obtain ⟨es, htrace, htail, hstate⟩ := leave_records w'
    rcases again_cases cfg attempts w'.leave with ⟨o, hagain, hreturn, hno⟩ | ⟨hagain, hyes⟩
    · rw [hagain]
      refine ⟨es, htrace, htail, hstate, by simpa using hno, ?_⟩
      intro o' ho'
      cases ho'
      exact hreturn
    · rw [hagain]
      refine ⟨es ++ [.sleep (attempts + 1)], ?_, ?_, hstate, by simpa using hyes, by simp⟩
      · show w'.leave.trace ++ _ = _
        rw [htrace, List.append_assoc]
      · exact List.forall_mem_append.mpr ⟨htail, by simp [Event.tail]⟩
  unfold turn
  cases h : connection rt cfg link w with
  | ok _ w' =>
    obtain ⟨es, htrace, htail, hstate, hnone, hreturn⟩ := goes_on w'
    refine ⟨es, htrace, htail, hstate, fun _ _ => ⟨hnone, hreturn⟩, ?_⟩
    intro key w' h
    cases h
  | error exn w' =>
    cases exn with
    | osError =>
      obtain ⟨es, htrace, htail, hstate, -⟩ := goes_on w'
      refine ⟨es, htrace, htail, hstate, ?_, ?_⟩ <;> simp
    | keyError key =>
      obtain ⟨es, htrace, htail, hstate⟩ := leave_records w'
      refine ⟨es, htrace, htail, hstate, by simp, ?_⟩
      rintro key' w₁ h
      cases h
      rfl
    | _ =>
      obtain ⟨es, htrace, htail, hstate⟩ := leave_records w'
      refine ⟨es, htrace, htail, hstate, ?_, ?_⟩ <;> simp

end Loop

inductive Course (cfg : Config) (n : Nat) (es : List Event) : Option Outcome → World → Prop
  | quiet {o : Option Outcome} {w : World} : (∀ e ∈ es, e.isShutdown = false) →
      Course cfg n es o w
  | shut {pre post : List Event} {e : Event} {o : Option Outcome} {w : World} :
      es = pre ++ e :: post → e.isShutdown = true → e.hasId = true →
      (∀ e ∈ pre, e.isShutdown = false) → (∀ e ∈ post, e.isShutdown = false) →
      Closing post → w.state = .shutdown → (o = none ↔ cfg.retries (n + 1)) →
      (∀ o', o = some o' → o'.isReturn = true) → Course cfg n es o w
  | noId {pre post : List Event} {e : Event} {exn : Exn} {w : World} :
      es = pre ++ e :: post → e.isShutdown = true → e.hasId = false →
      Course cfg n es (some (.escaped exn)) w

structure Turn (cfg : Config) (n : Nat) (w : World) (es : List Event) (o : Option Outcome)
    (w' : World) : Prop where
  trace : w'.trace = w.trace ++ es
  opens : ∃ e rest, es = e :: rest ∧ e.attempts = true ∧ ∀ e ∈ rest, e.attempts = false
  course : Course cfg n es o w'

section Run

variable {rt : Runtime} {cfg : Config}

theorem plain_iff {e : Event} :
    e.plain = true ↔ e.isShutdown = false ∧ e.attempts = false := by
  simp [Event.plain]

theorem plain_of_tail {e : Event} (h : e.tail = true) : e.plain = true := by
  cases e <;> first | rfl | cases h

theorem Told.attempts {es : List Event} {r : EStateM.Result Exn World Unit} (h : Told es r) :
    ∀ e ∈ es, e.attempts = false := by
  have of_plain : ∀ {xs : List Event}, (∀ e ∈ xs, e.plain = true) →
      ∀ e ∈ xs, e.attempts = false := fun hxs e he => (plain_iff.mp (hxs e he)).2
  cases h with
  | quiet hes => exact of_plain hes
  | shut heq hpre _ _ _ =>
    rw [heq]
    exact List.forall_mem_append.mpr ⟨of_plain hpre, by simp [Event.attempts]⟩
  | noId heq hpre _ _ =>
    rw [heq]
    exact List.forall_mem_append.mpr ⟨of_plain hpre, by simp [Event.attempts]⟩

theorem closing_tail {ack bye : Json} {es : List Event} (h : ∀ e ∈ es, e.tail = true) :
    Closing (.write ack true :: .write bye true :: .onShutdown :: .state .shutdown :: es) := by
  constructor
  case attempts =>
    simp only [List.forall_mem_cons]
    exact ⟨rfl, rfl, rfl, rfl, fun e he => (plain_iff.mp (plain_of_tail (h e he))).2⟩
  case hook =>
    have hnone : es.countP Event.isOnShutdown = 0 := by
      rw [List.countP_eq_zero]
      intro e he
      have htail := h e he
      cases e <;> first | exact Bool.false_ne_true | cases htail
    simp [List.countP_cons, Event.isOnShutdown, hnone]
  case states =>
    intro s
    have hnone : Event.state s ∉ es := fun hs => by cases h _ hs
    simp [hnone]

theorem turn_course (rt : Runtime) (cfg : Config) (n : Nat) {link : Link}
    (hlink : ∀ ok ∈ link.writes, ok = true) (w : World) :
    ∃ es, Turn cfg n w es (turn rt cfg n link w).1 (turn rt cfg n link w).2 := by
  obtain ⟨e, es, hopens, htrace, htold⟩ := connection_tells rt cfg hlink w
  obtain ⟨rest, htrace', htail, hstate, hok, hkey⟩ := turn_ends rt cfg n link w
  have hplain : ∀ e ∈ rest, e.isShutdown = false :=
    fun e he => (plain_iff.mp (plain_of_tail (htail e he))).1
  have hfirst : e.isShutdown = false := by
    cases e <;> first | rfl | cases hopens
  refine ⟨e :: es ++ rest, ?_, ⟨e, es ++ rest, rfl, hopens, ?_⟩, ?_⟩
  · rw [htrace', htrace, List.append_assoc]
  · exact List.forall_mem_append.mpr ⟨htold.attempts,
      fun e he => (plain_iff.mp (plain_of_tail (htail e he))).2⟩
  generalize hresult : connection rt cfg link w = result at *
  cases htold with
  | quiet hes =>
    apply Course.quiet
    rw [List.cons_append, List.forall_mem_cons]
    exact ⟨hfirst, List.forall_mem_append.mpr ⟨fun e he => (plain_iff.mp (hes e he)).1, hplain⟩⟩
  | @shut pre envelope ack bye w' heq hpre hshut hid hstate' =>
    obtain ⟨hnone, hreturn⟩ := hok _ rfl
    have hsplit : e :: es ++ rest = (e :: pre) ++ .dispatch envelope :: (.write ack true ::
        .write bye true :: .onShutdown :: .state .shutdown :: rest) := by simp [heq]
    refine .shut hsplit hshut hid ?_ ?_ ?_ ?_ hnone hreturn
    · rw [List.forall_mem_cons]
      exact ⟨hfirst, fun e he => (plain_iff.mp (hpre e he)).1⟩
    · simp only [List.forall_mem_cons]
      exact ⟨rfl, rfl, rfl, rfl, hplain⟩
    · exact closing_tail htail
    · rw [hstate]
      exact hstate'
  | @noId pre envelope w' heq hpre hshut hid =>
    rw [hkey _ _ rfl]
    have hsplit : e :: es ++ rest = (e :: pre) ++ .dispatch envelope :: rest := by simp [heq]
    exact .noId hsplit hshut hid

theorem everywhere_last {es : List Event} (h : ∀ e ∈ es, e.isShutdown = false)
    (past : List Event) : Everywhere (Last cfg) past es :=
  everywhere_of_forall (fun e he _ hshut => by cases (h e he).symm.trans hshut) past

theorem opens_of_history {n : Nat} {w w' : World} {es : List Event} {o : Option Outcome}
    (h : Loop.History (Turn cfg) n w es o w') (ho : o ≠ none) : ∃ e ∈ es, e.attempts = true := by
  cases h with
  | waits => exact absurd rfl ho
  | ends turn =>
    obtain ⟨e, rest, rfl, hopens, -⟩ := turn.opens
    exact ⟨e, List.mem_cons_self, hopens⟩
  | again turn _ =>
    obtain ⟨e, rest, rfl, hopens, -⟩ := turn.opens
    exact ⟨e, by simp, hopens⟩

theorem Turn.countP_append {n : Nat} {w w' : World} {es past : List Event} {o : Option Outcome}
    (h : Turn cfg n w es o w') (hpast : past.countP Event.attempts = n) :
    (past ++ es).countP Event.attempts = n + 1 := by
  obtain ⟨e, rest, rfl, hopens, hrest⟩ := h.opens
  have hnone : rest.countP Event.attempts = 0 := by
    rw [List.countP_eq_zero]
    intro e he
    simp [hrest e he]
  rw [List.countP_append, hpast, List.countP_cons_of_pos hopens, hnone]

theorem Turn.countP_before {n : Nat} {w w' : World} {es past pre post : List Event}
    {o : Option Outcome} {e : Event} (h : Turn cfg n w es o w') (heq : es = pre ++ e :: post)
    (hshut : e.isShutdown = true) (hpast : past.countP Event.attempts = n) :
    (past ++ pre).countP Event.attempts = n + 1 := by
  have htotal := h.countP_append hpast
  obtain ⟨first, rest, hes, hopens, hrest⟩ := h.opens
  cases pre with
  | nil =>
    obtain ⟨rfl, -⟩ := List.cons.inj (hes.symm.trans heq)
    cases first <;> cases hopens <;> cases hshut
  | cons first' pre =>
    obtain ⟨rfl, rfl⟩ := List.cons.inj (hes.symm.trans heq)
    have hnone : (e :: post).countP Event.attempts = 0 := by
      rw [List.countP_eq_zero]
      intro e' he'
      simp [hrest e' (List.mem_append_right _ he')]
    rw [heq, ← List.append_assoc, List.countP_append, hnone] at htotal
    exact htotal

theorem final_iff_of_history {n : Nat} {w w' : World} {es : List Event} {o : Option Outcome}
    (h : Loop.History (Turn cfg) n w es o w') {past : List Event}
    (hpast : past.countP Event.attempts = n) :
    Everywhere (Last cfg) past es ↔
      ∀ pre e post, es = pre ++ e :: post → e.isShutdown = true → Final post (o, w') := by
  induction h generalizing past with
  | waits n w => simp
  | @ends n w w' es o turn =>
    have hcourse := turn.course
    generalize ho : some o = o' at hcourse
    cases hcourse with
    | quiet hes =>
      refine iff_of_true (everywhere_last hes past) ?_
      intro pre e post heq hshut
      cases (hes e (by simp [heq])).symm.trans hshut
    | @shut pre post e _ _ heq hshut hid hpre hpost hclosing hstate hnone hreturn =>
      subst ho
      have hlast : ¬cfg.retries (n + 1) := fun hretries => by cases hnone.mpr hretries
      have hcount := turn.countP_before heq hshut hpast
      refine iff_of_true ?_ ?_
      · rw [heq, everywhere_append, everywhere_cons]
        refine ⟨everywhere_last hpre past, fun _ => ⟨hid, ?_⟩, everywhere_last hpost _⟩
        rwa [hcount]
      · intro pre' e' post' heq' hshut'
        obtain ⟨rfl, rfl, rfl⟩ := split_unique (heq.symm.trans heq') hpre hpost hshut'
        exact ⟨hclosing, hstate, hreturn o rfl⟩
    | @noId pre post e exn _ heq hshut hid =>
      refine iff_of_false ?_ ?_
      · intro hlast
        have hnow := hlast pre e post heq hshut
        cases hid.symm.trans hnow.1
      · intro hfinal
        have hreturns := (hfinal pre e post heq hshut).returns
        cases ho
        cases hreturns
  | @again n w w' w'' es rest o turn hrest ih =>
    have hcount := turn.countP_append hpast
    have hih := ih hcount
    have hcourse := turn.course
    generalize ho : (none : Option Outcome) = o' at hcourse
    cases hcourse with
    | quiet hes =>
      rw [everywhere_append, hih, and_iff_right (everywhere_last hes past)]
      constructor
      · intro hfinal pre e post heq hshut
        obtain ⟨pre', -, hpost⟩ := split_after heq hes hshut
        exact hfinal pre' e post hpost hshut
      · intro hfinal pre e post heq hshut
        exact hfinal (es ++ pre) e post (by rw [heq, List.append_assoc]) hshut
    | @shut pre post e _ _ heq hshut hid hpre hpost hclosing hstate hnone hreturn =>
      have hretries : cfg.retries (n + 1) := hnone.mp ho.symm
      refine iff_of_false ?_ ?_
      · intro hlast
        have hnow := hlast pre e (post ++ rest) (by simp [heq]) hshut
        rw [turn.countP_before heq hshut hpast] at hnow
        exact hnow.2 hretries
      · intro hfinal
        have hend := hfinal pre e (post ++ rest) (by simp [heq]) hshut
        have hsome : o ≠ none := by
          rintro rfl
          cases hend.returns
        obtain ⟨e', he', hopens⟩ := opens_of_history hrest hsome
        cases (hend.attempts e' (List.mem_append_right _ he')).symm.trans hopens
    | noId => cases ho

def appends : Journal World Event where
  rel w es w' := w'.trace = w.trace ++ es
  refl w := (List.append_nil w.trace).symm
  trans h h' := by rw [h', h, List.append_assoc]

/-- With writes that succeed, a SHUTDOWN is final exactly if each one that is looked up has an id
and comes in the last turn that the configuration allows. -/
theorem shutdown_final_iff (rt : Runtime) (cfg : Config) (links : List Link)
    (hwrites : ∀ link ∈ links, ∀ ok ∈ link.writes, ok = true) :
    ShutdownFinal (run rt cfg links) ↔
      Everywhere (Last cfg) [] (run rt cfg links).2.trace := by
  obtain ⟨es, history⟩ := Loop.run_history { turn := turn rt cfg } 0 links {}
    (fun n link hlink w => turn_course rt cfg n (hwrites link hlink) w)
  have htrace : (run rt cfg links).2.trace = [] ++ es :=
    history.journal (J := appends) fun turn => turn.trace
  rw [List.nil_append] at htrace
  have hiff : Everywhere (Last cfg) [] es ↔ _ := final_iff_of_history history rfl
  rw [htrace, hiff, ShutdownFinal, htrace]
  exact Iff.rfl

end Run

theorem shutdown_final_iff_sample :
    ShutdownFinal (run Sample.runtime { Sample.config with maxReconnectAttempts := 1 }
      [Sample.session]) :=
  (shutdown_final_iff Sample.runtime { Sample.config with maxReconnectAttempts := 1 }
    [Sample.session] (by decide)).mpr (by decide +kernel)

def Event.isConnect : Event → Bool
  | .connect _ => true
  | _ => false

theorem Sample.shutdown_tenth :
    ((run Sample.runtime Sample.config [Sample.session, Sample.session]).2.trace[10]?).any
      Event.isShutdown = true := by
  decide +kernel

/-- After a SHUTDOWN that has come while the component may reconnect, another connection is
opened. -/
theorem shutdown_retried : ¬ ∀ (rt : Runtime) (cfg : Config) (links : List Link),
    (∀ link ∈ links, ∀ ok ∈ link.writes, ok = true) → ∀ pre e post,
      (run rt cfg links).2.trace = pre ++ e :: post → e.isShutdown = true →
        post.any Event.isConnect = false := by
  intro h
  obtain ⟨e, hshut, hsplit⟩ := split_of_any Sample.shutdown_tenth
  have hnone := h _ _ _ (by decide) _ e _ hsplit hshut
  have hconnect : ((run Sample.runtime Sample.config [Sample.session, Sample.session]).2.trace.drop
      11).any Event.isConnect = true := by decide +kernel
  cases hnone.symm.trans hconnect

end AegisSdk.Python
