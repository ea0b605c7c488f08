import AegisSdk.OCaml.Client

/-!
What the functions of `client.ml` record. The helpers and most handlers only write, receive and
call handlers; `handle_config` creates a reference for the worker and `graceful_shutdown` sets
one. The recorder says which writes succeed.
-/

set_option autoImplicit false
set_option relaxedAutoImplicit false

namespace AegisSdk.OCaml

open AegisSdk.Protocol AegisSdk.Library

/-- The outcomes of the next writes on the current connection. -/
def storeStep (writes : List Bool) : Event → List Bool
  | .connect _ link => link.writes
  | .write _ _ => writes.tail
  | _ => writes

def storeAllows (writes : List Bool) : Event → Prop
  | .write _ ok => ok = writes.headD true
  | _ => True

def recorder : Recorder World Event (List Bool) where
  trace := World.trace
  store := World.writes
  monitor := { step := storeStep, allows := storeAllows }

/-- An event that no worker, no descriptor and no dispatch has a part in. -/
def Event.inner : Event → Bool
  | .write _ _ | .state _ | .awaits | .recv _ | .recvFailed _ | .onConfigure _ _ | .onPing
  | .onShutdown
  | .onError _ _ => true
  | _ => false

def Event.quiet : Event → Bool
  | .connect _ _ | .write _ _ => false
  | _ => true

def World.record (w : World) (e : Event) : World := { w with trace := w.trace ++ [e] }

@[simp] theorem World.record_trace (w : World) (e : Event) :
    (w.record e).trace = w.trace ++ [e] := rfl

@[simp] theorem World.record_client (w : World) (e : Event) :
    (w.record e).client = w.client := rfl

theorem emit_ok (e : Event) (w : World) : emit e w = .ok () (w.record e) := rfl

/-- The counts and the reference that most functions leave alone. -/
def World.marks (w : World) : Nat × Nat × Nat := (w.sockets, w.refs, w.client.stopFlag)

/-- Only inner events are recorded, and descriptors and references stay as they are. -/
structure Inner (w : World) (es : List Event) (w' : World) : Prop where
  leads : recorder.Leads w es w'
  marks : w'.marks = w.marks
  inner : ∀ e ∈ es, e.inner = true

def innerJournal : Journal World Event where
  rel := Inner
  refl _ := ⟨Recorder.leads_nil rfl rfl, rfl, List.forall_mem_nil _⟩
  trans h h' := ⟨h.leads.trans h'.leads, h'.marks.trans h.marks,
    List.forall_mem_append.mpr ⟨h.inner, h'.inner⟩⟩

theorem leads_record {w : World} {e : Event} (h : e.quiet = true) :
    recorder.Leads w [e] (w.record e) := by
  constructor
  case trace => rfl
  case supplied => cases e <;> first | exact ⟨trivial, trivial⟩ | cases h
  case left => cases e <;> first | rfl | cases h

section Functions

variable (rt : Runtime) (cfg : Config) (handlers : Handlers)

theorem inner_nil {w w' : World} (htrace : w'.trace = w.trace) (hwrites : w'.writes = w.writes)
    (hmarks : w'.marks = w.marks) : Inner w [] w' :=
  ⟨Recorder.leads_nil htrace hwrites, hmarks, List.forall_mem_nil _⟩

theorem of_modify {f : World → World} (h : ∀ w, Inner w [] (f w)) :
    innerJournal.Of (modify f : Task Unit) := fun w => ⟨[], h w⟩

theorem emit_inner {e : Event} (hquiet : e.quiet = true) (hinner : e.inner = true) :
    innerJournal.Of (emit e) := by
  intro w
  exact ⟨[e], leads_record hquiet, rfl, by simp [hinner]⟩

theorem ofExcept_inner {α : Type} (x : Except Exn α) : innerJournal.Of (ofExcept x) := by
  cases x with
  | error exn => exact Journal.of_throw exn
  | ok a => exact Journal.of_pure a

theorem call_inner {isSet : Bool} {e : Event} {raises : Option Exn} (hquiet : e.quiet = true)
    (hinner : e.inner = true) : innerJournal.Of (call isSet e raises) := by
  unfold call
  cases isSet with
  | false => exact Journal.of_pure ()
  | true =>
    refine (emit_inner hquiet hinner).bind fun _ => ?_
    cases raises with
    | none => exact Journal.of_pure ()
    | some exn => exact Journal.of_throw exn

theorem setState_inner (s : ComponentState) : innerJournal.Of (setState s) :=
  fun w => ⟨[.state s], ⟨rfl, ⟨trivial, trivial⟩, rfl⟩, rfl, by simp [Event.inner]⟩

theorem create_inner (t : MessageType) (c : Command) (payload : Json) :
    innerJournal.Of (create rt cfg t c payload) :=
  fun _ => ⟨[], inner_nil rfl rfl rfl⟩

theorem sendLine_cases (env : Envelope) (w : World) :
    ∃ w', Inner w [.write env (w.writes.headD true)] w' ∧ w'.writes = w.writes.tail ∧
      (sendLine env w = .ok () w' ∧ w.writes.headD true = true ∨
        sendLine env w = .error (.other "Sys_error") w' ∧ w.writes.headD true = false) := by
  obtain ⟨client, writes, created, refs, sockets, trace⟩ := w
  refine ⟨{ client, writes := writes.tail, created, refs, sockets,
            trace := trace ++ [.write env (writes.headD true)] },
    ⟨⟨rfl, ⟨rfl, trivial⟩, rfl⟩, rfl, by simp [Event.inner]⟩, rfl, ?_⟩
  match writes with
  | [] => exact .inl ⟨rfl, rfl⟩
  | true :: rest => exact .inl ⟨rfl, rfl⟩
  | false :: rest => exact .inr ⟨rfl, rfl⟩

theorem sendLine_inner (env : Envelope) : innerJournal.Of (sendLine env) := by
  intro w
  obtain ⟨w', h, -, ⟨hok, -⟩ | ⟨herr, -⟩⟩ := sendLine_cases env w
  · exact ⟨_, by rw [hok]; exact h⟩
  · exact ⟨_, by rw [herr]; exact h⟩

theorem recvLine_inner (reads : List Read) : innerJournal.Of (recvLine rt reads) := by
  cases reads with
  | nil => exact (emit_inner rfl rfl).bind fun _ => Journal.of_throw _
  | cons read rest =>
    rw [recvLine]
    cases read.decode rt with
    | error exn => exact (emit_inner rfl rfl).bind fun _ => Journal.of_throw _
    | ok env => exact (emit_inner rfl rfl).bind fun _ => Journal.of_pure _

theorem awaitLine_inner (reads : List Read) : innerJournal.Of (awaitLine rt reads) :=
  (emit_inner rfl rfl).bind fun _ => recvLine_inner rt reads

theorem sendAck_inner (id : String) : innerJournal.Of (sendAck rt cfg id) :=
  (create_inner rt cfg _ _ _).bind fun _ => sendLine_inner _

theorem storeIdentity_inner (payload : Json) : innerJournal.Of (storeIdentity payload) := by
  unfold storeIdentity
  refine (ofExcept_inner _).bind fun id => Journal.Of.bind ?component fun _ =>
    (ofExcept_inner _).bind fun id' => Journal.Of.bind ?session fun _ => setState_inner _
  case component =>
    exact of_modify fun w => inner_nil rfl rfl rfl
  case session =>
    exact of_modify fun w => inner_nil rfl rfl rfl

theorem doRegister_inner (reads : List Read) : innerJournal.Of (doRegister rt cfg reads) := by
  refine (create_inner rt cfg _ _ _).bind fun _ => (sendLine_inner _).bind fun _ =>
    (recvLine_inner rt reads).bind fun answer => ?_
  obtain ⟨resp, rest⟩ := answer
  simp only
  split
  · exact Journal.of_throw _
  · exact (storeIdentity_inner _).bind fun _ => Journal.of_pure rest

theorem handleHeartbeat_inner (env : Envelope) (raises : Option Exn) :
    innerJournal.Of (handleHeartbeat rt cfg handlers env raises) := by
  unfold handleHeartbeat
  split
  · exact (call_inner rfl rfl).bind fun _ => Journal.of_get.bind fun _ =>
      (create_inner rt cfg _ _ _).bind fun _ => sendLine_inner _
  · exact Journal.of_pure ()

theorem handleLifecycle_inner (env : Envelope) :
    innerJournal.Of (handleLifecycle rt cfg env) := by
  unfold handleLifecycle
  split
  · exact (sendAck_inner rt cfg _).bind fun _ => Journal.of_pure true
  · exact Journal.of_pure false
  · exact Journal.of_pure false

theorem handleErrorMsg_inner (env : Envelope) (raises : Option Exn) :
    innerJournal.Of (handleErrorMsg handlers env raises) := by
  refine (ofExcept_inner _).bind fun report => ?_
  obtain ⟨code, message, recoverable⟩ := report
  exact (call_inner rfl rfl).bind fun _ => Journal.of_pure _

theorem dispatch_inner {env : Envelope} (h : env.msgType ≠ .config) (raises : Option Exn) :
    innerJournal.Of (dispatch rt cfg handlers env raises) := by
  unfold dispatch
  split
  case h_1 =>
    exact (handleHeartbeat_inner rt cfg handlers env raises).bind fun _ => Journal.of_pure false
  case h_2 ht => exact absurd ht h
  case h_3 => exact handleLifecycle_inner rt cfg env
  case h_4 =>
    refine (handleErrorMsg_inner handlers env raises).bind fun fatal => ?_
    cases fatal with
    | true => exact Journal.of_throw _
    | false => exact Journal.of_pure false
  case h_5 => exact Journal.of_pure false

theorem final_dispatch {env : Envelope} (h : env.msgType = .config) (raises : Option Exn)
    (w : World) : final (dispatch rt cfg handlers env raises w) =
      final (handleConfig rt cfg handlers env raises w) := by
  have hrun : dispatch rt cfg handlers env raises =
      (do handleConfig rt cfg handlers env raises; return false) := by
    unfold dispatch
    simp only [h]
  rw [hrun]
  cases hconfig : handleConfig rt cfg handlers env raises w with
  | ok a w' =>
    rw [bind_ok hconfig]
    rfl
  | error exn w' =>
    rw [bind_error hconfig]
    rfl

theorem shutdownRest_inner (raises : Option Exn) :
    innerJournal.Of (do
      call handlers.onShutdown .onShutdown raises
      ignore do
        let env ← create rt cfg .lifecycle .shutdown (.obj [])
        sendLine env
      setState .shutdown) :=
  (call_inner rfl rfl).bind fun _ =>
    (Journal.Of.ignore ((create_inner rt cfg _ _ _).bind fun _ => sendLine_inner _)).bind fun _ =>
      setState_inner .shutdown

theorem protect_ok {e : Event} {x : Task Unit} {w w' : World} (h : x w = .ok () w') :
    protect e x w = .ok () (w'.record e) := by
  simp only [protect, h]
  rfl

theorem protect_error {e : Event} {x : Task Unit} {w w' : World} {exn : Exn}
    (h : x w = .error exn w') : protect e x w = .error exn (w'.record e) := by
  simp only [protect, h]
  rfl

theorem final_protect (e : Event) (x : Task Unit) (w : World) :
    final (protect e x w) = (final (x w)).record e := by
  cases h : x w with
  | ok a w' =>
    rw [protect_ok h]
    rfl
  | error exn w' =>
    rw [protect_error h]
    rfl

def World.opened (w : World) : World :=
  { w.record (.socket w.sockets) with sockets := w.sockets + 1 }

def World.connected (w : World) (link : Link) : World :=
  { w.opened.record (.connect w.sockets link) with writes := link.writes }

theorem opened_leads (w : World) : recorder.Leads w [.socket w.sockets] w.opened :=
  (leads_record rfl).trans (Recorder.leads_nil rfl rfl)

theorem connected_leads (w : World) (link : Link) :
    recorder.Leads w [.socket w.sockets, .connect w.sockets link] (w.connected link) :=
  (opened_leads w).trans ⟨rfl, ⟨trivial, trivial⟩, rfl⟩

def session (link : Link) : Task Unit := do
  let rest ← doRegister rt cfg link.reads
  messageLoop rt cfg handlers rest

theorem runOnce_cases (link : Link) (w : World) :
    (∃ exn, runOnce rt cfg handlers link w = .error exn (w.record .socketFailed)) ∨
    (∃ exn, runOnce rt cfg handlers link w =
      .error exn (w.opened.record (.connectFailed w.sockets))) ∨
    runOnce rt cfg handlers link w =
      protect (.close w.sockets) (session rt cfg handlers link) (w.connected link) := by
  unfold runOnce
  cases link.socket with
  | false => exact .inl ⟨_, rfl⟩
  | true =>
    cases link.connect with
    | false => exact .inr (.inl ⟨_, rfl⟩)
    | true => exact .inr (.inr rfl)

theorem turn_cases (attempts : Nat) (link : Link) (w : World) :
    (∃ o, turn rt cfg handlers attempts link w =
        (some o, (final (runOnce rt cfg handlers link w)).record .left) ∧
      (o = .clean → ∃ w', runOnce rt cfg handlers link w = .ok () w')) ∨
    turn rt cfg handlers attempts link w =
      (none, ((final (runOnce rt cfg handlers link w)).record .left).record
        (.sleep (attempts + 1))) := by
  unfold turn
  cases h : runOnce rt cfg handlers link w with
  | ok a w' =>
    rw [protect_ok h]
    exact .inl ⟨.clean, rfl, fun _ => ⟨w', rfl⟩⟩
  | error exn w' =>
    rw [protect_error h]
    cases exn with
    | registrationError msg => exact .inl ⟨.rejected msg, rfl, by simp⟩
    | other text =>
      simp only
      split
      · exact .inl ⟨.reconnectDisabled, rfl, by simp⟩
      · split
        · exact .inl ⟨.attemptsExhausted, rfl, by simp⟩
        · exact .inr rfl

end Functions

end AegisSdk.OCaml
