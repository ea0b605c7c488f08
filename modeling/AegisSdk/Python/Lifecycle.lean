import AegisSdk.Python.Malformed
import AegisSdk.Protocol.Lifecycle

/-!
The lifecycle that the Python component shows on each of its connections, and its replies. An
`OSError` of a handler leaves the connection, so that nothing follows a lost line but the next
connection; that of the closing notice is dropped.
-/

set_option autoImplicit false
set_option relaxedAutoImplicit false

namespace AegisSdk.Python

open AegisSdk.Protocol AegisSdk.Library AegisSdk.Library.Monitor

def lineSeen (envelope : Json) : Line where
  command := match dictItem envelope "command" with
    | .ok (.str command) => command
    | _ => ""
  state := match dictItem envelope "payload" with
    | .ok (.obj members) => Payload.get members "state"
    | _ => none
  correlation := match dictItem envelope "correlation_id" with
    | .ok id => id
    | .error _ => .null

def Event.signal : Event → Option (Signal Json)
  | .connect _ => some .connect
  | .write envelope ok => some (.line (lineSeen envelope) ok)
  | .dispatch envelope => some (.asked envelope)
  | .close => some .settled
  | .state s => some (.holds s.value)
  -- the answer to REGISTER is awaited by a component that is not registered
  | .recv .register _ => none
  | .recv _ _ => some .awaits
  | .timeout => some .awaits
  | _ => none

def signals (es : List Event) : List (Signal Json) := es.filterMap Event.signal

def conduct : Conduct where
  opens := true
  repeats := false
  halts := true

def names (envelope : Json) (msgType : MessageType) (command : Command) : Bool :=
  keyIs envelope "type" msgType.value && keyIs envelope "command" command.value

/-- The replies that a message is owed. One without an id has none, and a CONFIGURE is not
acknowledged if its payload is no dictionary. -/
def owed (envelope : Json) : List (String × Json) :=
  match dictItem envelope "message_id" with
  | .error _ => []
  | .ok id =>
    if names envelope .heartbeat .ping then [("PONG", id)]
    else if names envelope .config .configure then
      if (configuration envelope).isOk then [("ACK", id)] else []
    else if names envelope .lifecycle .shutdown then [("ACK", id)]
    else []

def watch : Watch World Event (Signal Json) (Standing × Debt) where
  trace := World.trace
  view := Event.signal
  monitor := conduct.talk owed
  start := ({}, {})

def stateOf : Option Reported → ComponentState
  | none => .registered
  | some .initializing => .initializing
  | some .ready => .ready
  | some .configured => .configured
  | some .running => .running

theorem value_stateOf (told : Option Reported) : (stateOf told).value = Reported.shown told := by
  cases told with
  | none => rfl
  | some s => cases s <;> rfl

structure Knows (p : Standing × Debt) (s : ComponentState) (w : World) : Prop where
  seen : watch.At p w
  state : w.state = s

def Owing (told : Option Reported) (due : List (String × Json)) : World → Prop :=
  Knows (account told due) (stateOf told)

def Quits (w : World) : Prop := ∃ p, watch.At p w ∧ Settles p

section Steps

variable {rt : Runtime} {cfg : Config} {p q : Standing × Debt} {s : ComponentState}
  {told : Option Reported} {due : List (String × Json)} {w : World}
  {E : Exn → World → Prop}

theorem Owing.quits (h : Owing told [] w) : Quits w := ⟨_, h.seen, .inl rfl⟩

theorem seen_record {e : Event} {k : Signal Json} (h : watch.At p w) (hview : e.signal = some k)
    (hallows : (conduct.talk owed).allows p k) :
    watch.At ((conduct.talk owed).step p k) (w.record e) :=
  h.record rfl hview hallows

theorem seen_skip {e : Event} (h : watch.At p w) (hview : e.signal = none) :
    watch.At p (w.record e) :=
  h.skip rfl (List.forall_mem_singleton.mpr hview)

theorem emit_knows {e : Event} (h : e.signal = none) :
    Triple (Knows p s) (emit e) (fun _ => Knows p s) E :=
  fun _ hw => ⟨seen_skip hw.seen h, hw.state⟩

theorem modify_knows {f : World → World} (htrace : ∀ w, (f w).trace = w.trace)
    (hstate : ∀ w, (f w).state = w.state) :
    Triple (Knows p s) (modify f : Task Unit) (fun _ => Knows p s) E :=
  fun w hw => ⟨hw.seen.same (htrace w), (hstate w).trans hw.state⟩

theorem create_knows (t : MessageType) (c : Command) (payload id : Json) :
    Triple (Knows p s) (create rt cfg t c payload id)
      (fun envelope w => (∃ stamp, envelope = newEnvelope stamp t c (source cfg) payload id) ∧
        Knows p s w) E :=
  fun _ hw => ⟨⟨_, rfl⟩, hw.seen.same rfl, hw.state⟩

theorem send_knows {envelope : Json} {l : Line} (hline : lineSeen envelope = l)
    (hallows : ∀ ok, (conduct.talk owed).allows p (.line l ok))
    (hstep : (conduct.talk owed).step p (.line l true) = q) :
    Triple (Knows p s) (send envelope) (fun _ => Knows q s) (fun _ => Quits) := by
  subst hline
  intro w hw
  obtain ⟨w', rfl, ⟨hsend, hok⟩ | ⟨hsend, hok⟩⟩ := send_cases envelope w
  · rw [hsend, hok]
    refine ⟨?_, hw.state⟩
    have hseen : watch.At p { w with writes := w.writes.tail } := hw.seen.same rfl
    rw [← hstep]
    exact seen_record hseen rfl (hallows true)
  · rw [hsend, hok]
    have hseen : watch.At p { w with writes := w.writes.tail } := hw.seen.same rfl
    exact ⟨_, seen_record hseen rfl (hallows false), settles_of_lost _⟩

theorem setState_knows {s' : ComponentState}
    (hallows : (conduct.talk owed).allows p (.holds s'.value))
    (hstep : (conduct.talk owed).step p (.holds s'.value) = q) :
    Triple (Knows p s) (setState s') (fun _ => Knows q s') E := by
  intro w hw
  have hnext := seen_record hw.seen (e := .state s') rfl hallows
  rw [hstep] at hnext
  exact ⟨hnext.same rfl, rfl⟩

theorem setState_told {old : Option Reported} {r : Reported} :
    Triple (Knows (telling old (some r) due) s) (setState (stateOf (some r)))
      (fun _ => Owing (some r) due) E := by
  refine setState_knows ?_ ?_ <;> rw [value_stateOf]
  · exact talk_holds
  · exact step_holds

theorem emit_awaits {e : Event} (h : e.signal = some .awaits) :
    Triple (Owing told []) (emit e) (fun _ => Owing told []) E :=
  fun _ hw => ⟨seen_record hw.seen h talk_awaits, hw.state⟩

theorem newLine_knows {t : MessageType} {c : Command} {payload id : Json} {l : Line}
    (hline : ∀ stamp, lineSeen (newEnvelope stamp t c (source cfg) payload id) = l)
    (hallows : ∀ ok, (conduct.talk owed).allows p (.line l ok))
    (hstep : (conduct.talk owed).step p (.line l true) = q) :
    Triple (Knows p s) (create rt cfg t c payload id >>= send) (fun _ => Knows q s)
      (fun _ => Quits) := by
  refine (create_knows t c payload id).bind fun envelope => ?_
  rintro w ⟨⟨stamp, rfl⟩, hw⟩
  exact send_knows (hline stamp) hallows hstep w hw

theorem sendStateUpdate_owing {r : Reported} (hr : r ∈ conduct.next told) :
    Triple (Owing told due) (sendStateUpdate rt cfg (stateOf (some r)))
      (fun _ => Owing (some r) due) (fun _ => Quits) := by
  have hline : ∀ stamp, lineSeen (newEnvelope stamp .lifecycle .stateUpdate (source cfg)
      (.obj [("state", .str (stateOf (some r)).value)]) .null) = .update r.name := by
    intro stamp
    rw [value_stateOf]
    rfl
  have hsplit : sendStateUpdate rt cfg (stateOf (some r)) =
      (create rt cfg .lifecycle .stateUpdate
        (.obj [("state", .str (stateOf (some r)).value)]) .null >>= send) >>=
      fun _ => setState (stateOf (some r)) := by
    rw [bind_assoc]
    rfl
  rw [hsplit]
  exact (newLine_knows hline (talk_update hr) (step_update r)).bind fun _ => setState_told

theorem sendAck_owing (id : Json) :
    Triple (Owing told (("ACK", id) :: due)) (sendAck rt cfg id) (fun _ => Owing told due)
      (fun _ => Quits) :=
  newLine_knows (fun _ => rfl) (talk_ack id) (step_ack id)

end Steps

section Owed

variable {envelope : Json}

theorem keyIs_of_missing {key : String} {exn : Exn} (h : dictItem envelope key = .error exn)
    (s : String) : keyIs envelope key s = false := by
  cases envelope with
  | obj members =>
    cases hget : Payload.get members key with
    | none => simp [keyIs, dictGet, hget, equals, Json.asStr]
    | some v => simp [dictItem, hget] at h
  | _ => rfl

theorem names_eq {msgType : Json} (h : dictGet envelope "type" .null = .ok msgType)
    (t : MessageType) (c : Command) :
    names envelope t c = (equals msgType t.value && keyIs envelope "command" c.value) := by
  rw [names, keyIs_of_get h]

theorem owed_of_noId {exn : Exn} (h : dictItem envelope "message_id" = .error exn) :
    owed envelope = [] := by
  rw [owed, h]

theorem owed_heartbeat (ht : dictGet envelope "type" .null = .ok (.str "HEARTBEAT")) {id : Json}
    (hid : dictItem envelope "message_id" = .ok id) :
    owed envelope = if keyIs envelope "command" Command.ping.value then [("PONG", id)] else [] := by
  simp [owed, hid, names_eq ht, equals, MessageType.value]

theorem owed_config (ht : dictGet envelope "type" .null = .ok (.str "CONFIG")) {id : Json}
    (hid : dictItem envelope "message_id" = .ok id) :
    owed envelope = if keyIs envelope "command" Command.configure.value ∧
      (configuration envelope).isOk then [("ACK", id)] else [] := by
  simp [owed, hid, names_eq ht, equals, MessageType.value, ite_and]

theorem owed_lifecycle (ht : dictGet envelope "type" .null = .ok (.str "LIFECYCLE")) {id : Json}
    (hid : dictItem envelope "message_id" = .ok id) :
    owed envelope =
      if keyIs envelope "command" Command.shutdown.value then [("ACK", id)] else [] := by
  simp [owed, hid, names_eq ht, equals, MessageType.value]

theorem owed_other {msgType : Json} (ht : dictGet envelope "type" .null = .ok msgType)
    (hheartbeat : equals msgType MessageType.heartbeat.value = false)
    (hconfig : equals msgType MessageType.config.value = false)
    (hlifecycle : equals msgType MessageType.lifecycle.value = false) : owed envelope = [] := by
  unfold owed
  split
  · rfl
  · simp [names_eq ht, hheartbeat, hconfig, hlifecycle]

end Owed

/-- At the head of the message loop: whatever was asked is answered. -/
def Idle (w : World) : Prop := ∃ told, .configured ∈ conduct.next told ∧ Owing told [] w

def Asked (envelope : Json) (w : World) : Prop :=
  ∃ told, .configured ∈ conduct.next told ∧ Owing told (owed envelope) w

section Handlers

variable {rt : Runtime} {cfg : Config} {told : Option Reported} {envelope : Json}
  {P : World → Prop} {Q : Unit → World → Prop} {E : Exn → World → Prop}

theorem Idle.quits {w : World} (h : Idle w) : Quits w := by
  obtain ⟨told, -, howing⟩ := h
  exact howing.quits

theorem Asked.idle {w : World} (h : Asked envelope w) (howed : owed envelope = []) : Idle w := by
  obtain ⟨told, hnext, howing⟩ := h
  exact ⟨told, hnext, howed ▸ howing⟩

theorem lookup_triple {α : Type} {x : Except Exn α} {f : α → Task Unit}
    (herror : ∀ exn, x = .error exn → ∀ w, P w → E exn w)
    (hok : ∀ a, x = .ok a → Triple P (f a) Q E) : Triple P (ofExcept x >>= f) Q E := by
  cases x with
  | error exn => exact fun w hw => herror exn rfl w hw
  | ok a => exact fun w hw => hok a rfl w hw

theorem handleHeartbeat_owing (ht : dictGet envelope "type" .null = .ok (.str "HEARTBEAT")) :
    Triple (Asked envelope) (handleHeartbeat rt cfg envelope) (fun _ => Idle)
      (fun _ => Quits) := by
  have unasked : keyIs envelope "command" Command.ping.value = false → owed envelope = [] := by
    intro hping
    cases hid : dictItem envelope "message_id" with
    | error exn => exact owed_of_noId hid
    | ok id => simp [owed_heartbeat ht hid, hping]
  unfold handleHeartbeat
  apply lookup_triple
  case herror =>
    intro exn hcommand w hw
    exact (hw.idle (unasked (keyIs_of_missing hcommand _))).quits
  case hok =>
    intro command hcommand
    have hkey := keyIs_of_item (s := Command.ping.value) hcommand
    cases hping : equals command Command.ping.value with
    | false => exact fun w hw => hw.idle (unasked (hkey.trans hping))
    | true =>
      rintro w ⟨told, hnext, howing⟩
      have hcall : Owing told (owed envelope) (w.record .onPing) :=
        ⟨seen_skip howing.seen rfl, howing.state⟩
      have hrun : Triple (Owing told (owed envelope)) (do
          let w ← get
          let correlationId ← ofExcept (dictItem envelope "message_id")
          let pong ← create rt cfg .heartbeat .pong (.obj [
            ("state", .str w.state.value),
            ("uptime_seconds", .num (toString (rt.uptime w.created)))]) correlationId
          send pong) (fun _ => Owing told []) (fun _ => Quits) := by
        refine Triple.get.bind fun w₀ => ?_
        rintro _ ⟨rfl, hw₀⟩
        refine lookup_triple (P := Owing told (owed envelope)) ?_ ?_ _ hw₀
        · intro exn hid w hw
          rw [owed_of_noId hid] at hw
          exact hw.quits
        · intro id hid
          rw [owed_heartbeat ht hid, hkey, hping, if_pos rfl]
          refine newLine_knows (fun stamp => ?_) (talk_pong id) (step_pong (Reported.shown told) id)
          rw [hw₀.state, value_stateOf]
          rfl
      exact (hrun.weaken (fun _ h => h) (fun _ _ h => ⟨told, hnext, h⟩) fun _ _ h => h) _ hcall

theorem sendAck_asked (id : Json) :
    Triple (fun w => ∃ told, .configured ∈ conduct.next told ∧ Owing told [("ACK", id)] w)
      (sendAck rt cfg id) (fun _ => Idle) (fun _ => Quits) := by
  rintro w ⟨told, hnext, howing⟩
  exact ((sendAck_owing id).weaken (fun _ h => h) (fun _ _ h => ⟨told, hnext, h⟩)
    fun _ _ h => h) w howing

theorem settle_owing (sockPath topics : Json) :
    Triple Idle (do
      sendStateUpdate rt cfg .configured
      emit (.onConfigure sockPath topics)
      sendStateUpdate rt cfg .running
      emit .onRunning) (fun _ => Idle) (fun _ => Quits) := by
  rintro w ⟨told, hnext, howing⟩
  have hrunning : Reported.running ∈ conduct.next (some .configured) := by decide
  have hagain : Reported.configured ∈ conduct.next (some .running) := by decide
  refine ((sendStateUpdate_owing hnext).bind fun _ => (emit_knows rfl).bind fun _ =>
    (sendStateUpdate_owing hrunning).bind fun _ => ?_) w howing
  exact (emit_knows rfl).weaken (fun _ h => h) (fun _ _ h => ⟨some .running, hagain, h⟩)
    fun _ _ h => h

theorem handleConfig_owing (ht : dictGet envelope "type" .null = .ok (.str "CONFIG")) :
    Triple (Asked envelope) (handleConfig rt cfg envelope) (fun _ => Idle)
      (fun _ => Quits) := by
  have unasked : (keyIs envelope "command" Command.configure.value = false ∨
      (configuration envelope).isOk = false) → owed envelope = [] := by
    intro hno
    cases hid : dictItem envelope "message_id" with
    | error exn => exact owed_of_noId hid
    | ok id => rcases hno with hno | hno <;> simp [owed_config ht hid, hno]
  unfold handleConfig
  apply lookup_triple
  case herror =>
    intro exn hcommand w hw
    exact (hw.idle (unasked (.inl (keyIs_of_missing hcommand _)))).quits
  case hok =>
    intro command hcommand
    have hkey := keyIs_of_item (s := Command.configure.value) hcommand
    cases hconfigure : equals command Command.configure.value with
    | false => exact fun w hw => hw.idle (unasked (.inl (hkey.trans hconfigure)))
    | true =>
      apply lookup_triple
      case herror =>
        intro exn hfound w hw
        exact (hw.idle (unasked (.inr (by rw [hfound]; rfl)))).quits
      case hok =>
        rintro ⟨sockPath, topics, id⟩ hfound
        have hid : dictItem envelope "message_id" = .ok id := by
          obtain ⟨_, _, hfound⟩ := except_bind_eq_ok.mp hfound
          obtain ⟨_, _, hfound⟩ := except_bind_eq_ok.mp hfound
          obtain ⟨_, _, hfound⟩ := except_bind_eq_ok.mp hfound
          obtain ⟨_, hid, hfound⟩ := except_bind_eq_ok.mp hfound
          cases hfound
          exact hid
        have howed : owed envelope = [("ACK", id)] := by
          rw [owed_config ht hid, hkey, hconfigure, hfound]
          rfl
        unfold Asked
        rw [howed]
        exact (sendAck_asked id).bind fun _ => settle_owing sockPath topics

theorem stopRunning_idle : Triple Idle stopRunning (fun _ => Idle) E := by
  rintro w ⟨told, hnext, howing⟩
  exact ⟨told, hnext, howing.seen.same rfl, howing.state⟩

theorem handleLifecycle_owing (ht : dictGet envelope "type" .null = .ok (.str "LIFECYCLE")) :
    Triple (Asked envelope) (handleLifecycle rt cfg envelope) (fun _ => Idle)
      (fun _ => Quits) := by
  have unasked : keyIs envelope "command" Command.shutdown.value = false → owed envelope = [] := by
    intro hshutdown
    cases hid : dictItem envelope "message_id" with
    | error exn => exact owed_of_noId hid
    | ok id => simp [owed_lifecycle ht hid, hshutdown]
  unfold handleLifecycle
  apply lookup_triple
  case herror =>
    intro exn hcommand w hw
    refine (hw.idle (unasked ?_)).quits
    simp only [keyIs, hcommand]
  case hok =>
    intro command hcommand
    have hkey := keyIs_of_get (s := Command.shutdown.value) hcommand
    cases hshutdown : equals command Command.shutdown.value with
    | false => exact fun w hw => hw.idle (unasked (hkey.trans hshutdown))
    | true =>
      apply lookup_triple
      case herror =>
        intro exn hid w hw
        exact (hw.idle (owed_of_noId hid)).quits
      case hok =>
        intro id hid
        have howed : owed envelope = [("ACK", id)] := by
          rw [owed_lifecycle ht hid, hkey, hshutdown, if_pos rfl]
        unfold Asked
        rw [howed]
        exact (sendAck_asked id).bind fun _ => stopRunning_idle

theorem quiet_idle {x : Task Unit} (h : ∀ told, Triple (Owing told []) x
    (fun _ => Owing told []) (fun _ => Owing told [])) :
    Triple Idle x (fun _ => Idle) (fun _ => Quits) := by
  rintro w ⟨told, hnext, howing⟩
  exact ((h told).weaken (fun _ h => h) (fun _ _ h => ⟨told, hnext, h⟩)
    fun _ _ h => h.quits) w howing

theorem handleControl_idle :
    Triple Idle (handleControl envelope) (fun _ => Idle) (fun _ => Quits) := by
  refine quiet_idle fun told => lookup_triple (fun _ _ _ hw => hw) fun command _ => ?_
  split
  · exact fun _ hw => hw
  · split
    · exact lookup_triple (fun _ _ _ hw => hw) fun _ _ =>
        lookup_triple (fun _ _ _ hw => hw) fun _ _ => modify_knows (fun _ => rfl) fun _ => rfl
    · exact fun _ hw => hw

theorem handleErrorMsg_idle :
    Triple Idle (handleErrorMsg rt envelope) (fun _ => Idle) (fun _ => Quits) := by
  refine quiet_idle fun told => ?_
  refine lookup_triple (fun _ _ _ hw => hw) fun _ _ => lookup_triple (fun _ _ _ hw => hw) fun _ _ =>
    lookup_triple (fun _ _ _ hw => hw) fun _ _ => (emit_knows rfl).bind fun _ =>
      lookup_triple (fun _ _ _ hw => hw) fun recoverable _ => ?_
  split
  · exact modify_knows (fun _ => rfl) fun _ => rfl
  · exact fun _ hw => hw

theorem handle_owing {msgType : Json} (ht : dictGet envelope "type" .null = .ok msgType) :
    Triple (Asked envelope) (handle rt cfg msgType envelope) (fun _ => Idle)
      (fun _ => Quits) := by
  unfold handle
  split
  case isTrue heq =>
    rw [equals_iff.mp heq] at ht
    exact handleHeartbeat_owing ht
  case isFalse hheartbeat =>
    split
    case isTrue heq =>
      rw [equals_iff.mp heq] at ht
      exact handleConfig_owing ht
    case isFalse hconfig =>
      split
      case isTrue heq =>
        rw [equals_iff.mp heq] at ht
        exact handleLifecycle_owing ht
      case isFalse hlifecycle =>
        have howed : owed envelope = [] := owed_other ht (by simpa using hheartbeat)
          (by simpa using hconfig) (by simpa using hlifecycle)
        have hidle : ∀ {x : Task Unit}, Triple Idle x (fun _ => Idle) (fun _ => Quits) →
            Triple (Asked envelope) x (fun _ => Idle) (fun _ => Quits) :=
          fun h => h.weaken (fun _ hw => hw.idle howed) (fun _ _ h => h) fun _ _ h => h
        split
        · exact hidle handleControl_idle
        · split
          · exact hidle handleErrorMsg_idle
          · exact hidle (fun _ hw => hw)

theorem process_idle (envelope : Json) :
    Triple Idle (process rt cfg envelope) (fun _ => Idle) (fun _ => Quits) := by
  refine lookup_triple (fun _ _ _ hw => hw.quits) fun msgType ht =>
    lookup_triple (fun _ _ _ hw => hw.quits) fun _ _ => ?_
  refine Triple.bind (Q := fun _ => Asked envelope) ?_ fun _ => handle_owing ht
  rintro w ⟨told, hnext, howing⟩
  refine ⟨told, hnext, ?_, howing.state⟩
  exact seen_record howing.seen rfl (talk_asked envelope)

theorem gracefulShutdown_quits :
    Triple Idle (gracefulShutdown rt cfg) (fun _ => Quits) E := by
  rintro w ⟨told, -, howing⟩
  have hclosed : Triple (Owing told []) (gracefulShutdown rt cfg) (fun _ => Quits) E := by
    refine (create_knows _ _ _ _).bind fun envelope => Triple.bind
      (Q := fun _ w => ∃ ok, Knows (parted told ok) (stateOf told) w) ?_ fun _ => ?_
    · rintro w ⟨⟨stamp, rfl⟩, hw⟩
      have hseen : watch.At (account told []) { w with writes := w.writes.tail } := hw.seen.same rfl
      obtain ⟨w', hw', hsend⟩ := send_cases
        (newEnvelope stamp .lifecycle .shutdown (source cfg) (.obj []) .null) w
      have hparted : watch.At (parted told (w.writes.headD true)) w' := by
        rw [hw', ← step_notice (c := conduct)]
        exact seen_record hseen rfl (talk_notice _)
      have hstate : w'.state = stateOf told := hw' ▸ hw.state
      rcases hsend with ⟨hsend, -⟩ | ⟨hsend, -⟩
      · rw [ignore_ok hsend]
        exact ⟨_, hparted, hstate⟩
      · rw [ignore_error hsend]
        exact ⟨_, hparted, hstate⟩
    · refine Triple.exists fun ok => ?_
      have hend : Triple (Knows (parted told ok) (stateOf told)) (do
          emit .onShutdown
          setState .shutdown)
          (fun _ => Knows ((conduct.talk owed).step (parted told ok) (.holds "SHUTDOWN"))
            .shutdown) E :=
        (emit_knows rfl).bind fun _ => setState_knows (talk_parted ok) rfl
      exact hend.weaken (fun _ h => h) (fun _ _ h => ⟨_, h.seen, settles_parted ok⟩)
        fun _ _ h => h
  exact hclosed w howing

theorem awaits_idle {e : Event} (h : e.signal = some .awaits) :
    Triple Idle (emit e) (fun _ => Idle) E := by
  refine Triple.exists fun told => ?_
  rintro w ⟨hnext, howing⟩
  exact ⟨told, hnext, emit_awaits (E := fun _ _ => True) h w howing⟩

theorem messageLoop_quits (reads : List Read) :
    Triple Idle (messageLoop rt cfg reads) (fun _ => Quits) (fun _ => Quits) := by
  have look : ∀ {f : World → Task Unit},
      (∀ w, Triple Idle (f w) (fun _ => Quits) (fun _ => Quits)) →
      Triple Idle (get >>= f) (fun _ => Quits) (fun _ => Quits) :=
    fun hf => Triple.get.bind fun w =>
      (hf w).weaken (fun _ h => h.2) (fun _ _ h => h) fun _ _ h => h
  induction reads with
  | nil =>
    refine look fun w => ?_
    split
    · exact (awaits_idle rfl).bind fun _ => gracefulShutdown_quits
    · exact gracefulShutdown_quits
  | cons read rest ih =>
    refine look fun w => ?_
    split
    · split
      · exact (awaits_idle rfl).bind fun _ => gracefulShutdown_quits
      · refine (awaits_idle rfl).bind fun _ => ?_
        split
        · exact gracefulShutdown_quits
        · exact fun w hw => hw.quits
        · exact (process_idle _).bind fun _ => ih
    · exact gracefulShutdown_quits

theorem await_owing (read : Read) :
    Triple (Owing told []) (await rt .ready read) (fun _ => Owing told []) (fun _ => Quits) := by
  refine Triple.bind (emit_awaits rfl) fun _ => ?_
  cases recv rt read with
  | error exn => exact fun w hw => Owing.quits hw
  | ok v => exact fun w hw => hw

/-- Until the answer to REGISTER is taken the component is in the state that its last connection
has left. -/
def Registering (p : Standing × Debt) (w : World) : Prop := ∃ s, Knows p s w

theorem register_owing (read : Read) :
    Triple (Registering ({}, {})) (register rt cfg read) (fun _ => Owing none [])
      (fun _ => Quits) := by
  refine Triple.exists fun s => ?_
  have hsplit : register rt cfg read =
      (create rt cfg .lifecycle .register (registerPayload cfg) .null >>= send) >>= fun _ =>
        await rt .register read >>= accept := by
    rw [bind_assoc]
    rfl
  have hregister : ∀ stamp, lineSeen (newEnvelope stamp .lifecycle .register (source cfg)
      (registerPayload cfg) .null) = .register := by
    intro stamp
    unfold registerPayload
    dsimp only
    split <;> rfl
  rw [hsplit]
  refine (newLine_knows hregister talk_register step_register).bind fun _ => ?_
  have quits : ∀ {w : World}, Knows enrolled s w → Quits w :=
    fun hw => ⟨_, hw.seen, .inl rfl⟩
  refine Triple.bind (Q := fun _ => Knows enrolled s) ?_ fun response => ?_
  · refine Triple.bind (emit_knows rfl) fun _ => ?_
    cases recv rt read with
    | error exn => exact fun w hw => quits hw
    | ok v => exact fun w hw => hw
  · refine lookup_triple (fun _ _ _ hw => quits hw) fun msgType _ => ?_
    split
    · exact lookup_triple (fun _ _ _ hw => quits hw) fun _ _ =>
        lookup_triple (fun _ _ _ hw => quits hw) fun _ _ => fun w hw => quits hw
    · refine lookup_triple (fun _ _ _ hw => quits hw) fun command _ => ?_
      split
      · exact fun w hw => quits hw
      · refine lookup_triple (fun _ _ _ hw => quits hw) fun payload _ => ?_
        refine lookup_triple (fun _ _ _ hw => quits hw) fun id _ => ?_
        refine Triple.bind (modify_knows ?component ?_) fun _ => ?_
        case component => exact fun _ => rfl
        · exact fun _ => rfl
        refine lookup_triple (fun _ _ _ hw => quits hw) fun id' _ => ?_
        refine Triple.bind (modify_knows ?session ?_) fun _ => ?_
        case session => exact fun _ => rfl
        · exact fun _ => rfl
        exact setState_knows talk_enrolled step_enrolled

theorem signalReady_owing (read : Read) :
    Triple (Owing none []) (signalReady rt cfg read) (fun _ => Owing (some .ready) [])
      (fun _ => Quits) := by
  have hinitializing : Reported.initializing ∈ conduct.next none := by decide
  have hready : Reported.ready ∈ conduct.next (some .initializing) := by decide
  exact (sendStateUpdate_owing hinitializing).bind fun _ => (await_owing read).bind fun _ =>
    lookup_triple (fun _ _ _ hw => Owing.quits hw) fun _ _ => sendStateUpdate_owing hready

theorem session_quits (reads : List Read) :
    Triple (Registering ({}, {})) (session rt cfg reads) (fun _ => Quits) (fun _ => Quits) := by
  have hready : Reported.configured ∈ conduct.next (some .ready) := by decide
  refine (register_owing _).bind fun _ => (signalReady_owing _).bind fun _ =>
    Triple.bind (Q := fun _ => Idle) ?_ fun _ => messageLoop_quits _
  intro w hw
  exact ⟨some .ready, hready, hw.seen.same rfl, hw.state⟩

end Handlers

section Runs

variable (rt : Runtime) (cfg : Config)

theorem connection_quits (link : Link) :
    Triple Quits (connection rt cfg link) (fun _ => Quits) (fun _ => Quits) := by
  unfold connection
  split
  · rintro w ⟨p, hseen, -⟩
    have hopened : watch.At ({}, {}) (w.record (.connect link)) := by
      rw [← step_connect (p := p)]
      exact seen_record hseen rfl talk_connect
    exact session_quits link.reads _ ⟨w.state, hopened.same rfl, rfl⟩
  · rintro w ⟨p, hseen, hsettles⟩
    exact ⟨p, seen_skip hseen rfl, hsettles⟩

theorem leave_quits {w : World} (h : Quits w) : Quits w.leave := by
  obtain ⟨p, hseen, hsettles⟩ := h
  have hstop : stopRunning w = .ok () { w with running := false } := rfl
  have hstopped : watch.At p { w with running := false } := hseen.same rfl
  rw [World.leave, bind_ok hstop, closeConnection_eq]
  show Quits (if w.writer then _ else _)
  split
  · have hclosed : watch.At p ({ w with running := false }.record .close) :=
      seen_record hstopped rfl (talk_settled hsettles)
    exact ⟨p, hclosed.same rfl, hsettles⟩
  · exact ⟨p, hstopped, hsettles⟩

theorem turn_quits (attempts : Nat) (link : Link) {w : World} (h : Quits w) :
    Quits (turn rt cfg attempts link w).2 := by
  have hleave : Quits (final (connection rt cfg link w)).leave := by
    apply leave_quits
    have hconnection := connection_quits rt cfg link w h
    cases heq : connection rt cfg link w <;> rw [heq] at hconnection <;> exact hconnection
  have hagain : ∀ {w : World}, Quits w → Quits (turn.again cfg attempts w).2 := by
    rintro w ⟨p, hseen, hsettles⟩
    obtain ⟨o, heq, -⟩ | ⟨heq, -⟩ := again_cases cfg attempts w <;> rw [heq]
    · exact ⟨p, hseen, hsettles⟩
    · exact ⟨p, seen_skip hseen rfl, hsettles⟩
  unfold turn
  cases heq : connection rt cfg link w with
  | ok _ w' =>
    rw [heq] at hleave
    exact hagain hleave
  | error exn w' =>
    rw [heq] at hleave
    cases exn with
    | osError => exact hagain hleave
    | _ => exact hleave

theorem run_quits (links : List Link) : Quits (run rt cfg links).2 := by
  have hstart : Quits {} := ⟨({}, {}), takes_nil _, settles_start⟩
  have hturn : ∀ n link w, Quits w → Quits (turn rt cfg n link w).2 :=
    fun n link _ h => turn_quits rt cfg n link h
  exact Loop.run_preserves { turn := turn rt cfg } hturn 0 links hstart

/-- What is seen up to a moment of a run is accepted. -/
theorem run_talks (links : List Link) (k : Nat) :
    (conduct.talk owed).Accepts ({}, {}) (signals ((run rt cfg links).2.trace.take k)) := by
  obtain ⟨p, hseen, -⟩ := run_quits rt cfg links
  exact hseen.accepted.initial (List.take_prefix _ _)

/-- At every moment of every run the component keeps the lifecycle on the connection that it has,
and has told INITIALIZING and READY and then CONFIGURED and RUNNING in turn. -/
theorem connection_lifecycle (links : List Link) (k : Nat) :
    let seen := Signal.current (signals ((run rt cfg links).2.trace.take k))
    conduct.Lifecycle seen ∧
      ∃ n, Line.told (Signal.lines seen) <+: [.initializing, .ready] ++ rounds n := by
  have accepted := (accepts_both _ _ _ _).mp (run_talks rt cfg links k)
  have lifecycle := Conduct.lifecycle_of_accepts accepted.1
  exact ⟨lifecycle, lifecycle.rounds rfl⟩

end Runs

end AegisSdk.Python
