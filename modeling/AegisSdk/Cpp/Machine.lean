import AegisSdk.Cpp.Client

/-!
The client as a machine over what it records. The machine knows where in `run`, `run_once` and
`message_loop` the thread is, the flag, the stop states and the losses so far, and says which
event may come next. What the messages lead to are pure functions of the envelopes. Every run
of the client is accepted.
-/

set_option autoImplicit false
set_option relaxedAutoImplicit false

namespace AegisSdk.Cpp

open AegisSdk.Protocol AegisSdk.Library

/-- The ids of an answer to REGISTER, or the exception with which `do_register` is left. -/
def registration (resp : Envelope) : Except Exception (String × String) :=
  if resp.command ≠ .registered then
    .error (.runtimeError ("REGISTRATION_FAILED: unexpected command " ++ resp.command.toString))
  else do
    let componentId ← value Json.asStr resp.payload "component_id" ""
    let sessionId ← value Json.asStr resp.payload "session_id" ""
    return (componentId, sessionId)

/-- Whether a message of the loop leads to a shutdown, or the exception with which
`message_loop` is left. -/
def reaction (env : Envelope) : Except Exception Bool :=
  match env.msgType with
  | .config =>
    if env.command = .configure then (configuration env).map fun _ => false else .ok false
  | .lifecycle => .ok (decide (env.command = .shutdown))
  | .error => do
    let (_, _, recoverable) ← errorReport env
    if recoverable then return false
    else .error (.runtimeError "non-recoverable error from Aegis")
  | _ => .ok false

inductive Phase where
  /-- before a turn -/
  | due
  | opened (fd : Nat)
  | refused (fd : Nat)
  | connected (fd : Nat)
  /-- the answer to REGISTER is accepted -/
  | accepted (fd : Nat)
  /-- in the loop, before `running_` is read again -/
  | looping (fd : Nat)
  | reading (fd : Nat)
  | received (fd : Nat) (env : Envelope)
  /-- in `graceful_shutdown` or about to enter it -/
  | ending (fd : Nat)
  /-- waiting for the worker -/
  | joining (fd : Nat)
  /-- in `graceful_shutdown` from `on_shutdown` on -/
  | shut (fd : Nat)
  | closed
  /-- `run_once` is being left by an exception, with the descriptor that is open, if any -/
  | thrown (e : Exception) (fd : Option Nat)
  | failed (what : String)
  | lost
  /-- `run` is over -/
  | returned
  | rejected (what : String)
  | escaped (id : Nat)

structure Control where
  phase : Phase := .due
  running : Bool := false
  source : Nat := 0
  worker : Option Nat := none
  states : Nat := 1
  sockets : Nat := 0
  calls : Nat := 0
  losses : Nat := 0

def Phase.answered (fd : Nat) (result : Except Exception Envelope) : Phase :=
  match result >>= registration with
  | .ok _ => .accepted fd
  | .error e => .thrown e (some fd)

def Phase.dispatched (fd : Nat) (env : Envelope) : Phase :=
  match reaction env with
  | .ok true => .ending fd
  | .ok false => .looping fd
  | .error e => .thrown e (some fd)

def Phase.caught : Exception → Phase
  | .json id => .escaped id
  | .runtimeError what => if isRejection what then .rejected what else .failed what

def Phase.next : Phase → Event → Phase
  | .due, .socket fd => .opened fd
  | .due, .socketFailed => .thrown (.runtimeError "socket() failed") none
  | .opened fd, .connect _ _ => .connected fd
  | .opened fd, .connectFailed _ => .refused fd
  | .refused _, .close _ => .thrown (.runtimeError "connect() failed") none
  | .connected fd, .reply result => .answered fd result
  | .accepted fd, .setRunning => .looping fd
  | .looping fd, .head true => .reading fd
  | .looping fd, .head false => .ending fd
  | .reading fd, .recv (.ok env) => .received fd env
  | .reading fd, .recv (.error _) => .ending fd
  | .received fd _, .dispatch env => .dispatched fd env
  | .ending fd, .join _ => .joining fd
  | .joining fd, .joined _ => .ending fd
  | .ending fd, .onShutdown => .shut fd
  | .shut _, .close _ => .closed
  | .closed, .left => .returned
  | .thrown e _, .left => .caught e
  | .failed _, .lost _ => .lost
  | .lost, .sleep _ => .due
  | p, _ => p

def Control.step (c : Control) (e : Event) : Control :=
  let c := { c with phase := c.phase.next e }
  match e with
  | .socket _ => { c with sockets := c.sockets + 1 }
  | .setRunning => { c with running := true }
  | .stopClears => { c with running := false, calls := c.calls + 1 }
  | .stopRequests _ => { c with calls := c.calls - 1 }
  | .newSource s => { c with source := s, states := c.states + 1 }
  | .spawn t => { c with worker := some t, states := c.states + 1 }
  | .joined _ => { c with worker := none }
  | .lost _ => { c with losses := c.losses + 1 }
  | _ => c

def Config.retries (cfg : Config) (losses : Nat) : Prop :=
  cfg.reconnect = true ∧
    ¬(cfg.maxReconnectAttempts > 0 ∧ (losses : Int) ≥ cfg.maxReconnectAttempts)

def Control.allows (cfg : Config) (c : Control) : Event → Prop
  | .socket fd => c.phase = .due ∧ fd = c.sockets
  | .socketFailed => c.phase = .due
  | .connect fd _ => c.phase = .opened fd
  | .connectFailed fd => c.phase = .opened fd
  | .close fd => c.phase = .refused fd ∨ c.phase = .shut fd
  | .reply _ => ∃ fd, c.phase = .connected fd
  | .setRunning => ∃ fd, c.phase = .accepted fd
  | .head running => (∃ fd, c.phase = .looping fd) ∧ running = c.running
  | .recv _ => ∃ fd, c.phase = .reading fd
  | .dispatch env => ∃ fd, c.phase = .received fd env
  | .onShutdown => (∃ fd, c.phase = .ending fd) ∧ c.worker = none
  | .newSource s => (∃ fd, c.phase = .looping fd) ∧ s = c.states
  | .spawn t => (∃ fd, c.phase = .looping fd) ∧ t = c.states
  | .destroy t => (∃ fd, c.phase = .looping fd) ∧ t < c.states ∧ c.worker ≠ some t
  | .requestStop s => s = c.source
  | .join t => (∃ fd, c.phase = .ending fd) ∧ c.worker = some t
  | .joined t => (∃ fd, c.phase = .joining fd) ∧ c.worker = some t
  | .left => c.phase = .closed ∨ ∃ e fd, c.phase = .thrown e fd
  | .lost what => c.phase = .failed what
  | .sleep _ => c.phase = .lost ∧ cfg.retries c.losses
  | .stopRequests s => s = c.source ∧ 0 < c.calls
  | _ => True

def machine (cfg : Config) : Monitor Control Event where
  step := Control.step
  allows := Control.allows cfg

/-- What the machine knows of a client that is in a phase after so many losses. -/
def World.seen (w : World) (p : Phase) (n : Nat) : Control where
  phase := p
  running := w.running
  source := w.source
  worker := w.worker
  states := w.states
  sockets := w.sockets
  calls := w.calls
  losses := n

/-- The trace is accepted, and the machine is where the client is. -/
structure At (cfg : Config) (p : Phase) (n : Nat) (w : World) : Prop where
  accepted : (machine cfg).Accepts {} w.trace
  control : (machine cfg).after {} w.trace = w.seen p n
  /-- a worker has a stop state of its own -/
  placed : ∀ t, w.worker = some t → t < w.states

section Steps

variable {cfg : Config} {th : Threads} {p q : Phase} {n m : Nat} {w w' : World} {e : Event}

theorem At.next (h : At cfg p n w) (htrace : w'.trace = w.trace ++ [e])
    (hallows : (w.seen p n).allows cfg e) (hstep : (w.seen p n).step e = w'.seen q m)
    (hplaced : ∀ t, w'.worker = some t → t < w'.states) : At cfg q m w' where
  accepted := by
    rw [htrace, Monitor.accepts_append, h.control]
    exact ⟨h.accepted, hallows, trivial⟩
  control := by
    rw [htrace, Monitor.after_append, h.control]
    exact hstep
  placed := hplaced

theorem At.same (h : At cfg p n w) (htrace : w'.trace = w.trace) (hseen : w'.seen = w.seen) :
    At cfg p n w' := by
  have hp := congrFun (congrFun hseen p) n
  simp only [World.seen, Control.mk.injEq, true_and, and_true] at hp
  obtain ⟨-, -, hworker, hstates, -⟩ := hp
  refine ⟨htrace ▸ h.accepted, ?_, ?_⟩
  · rw [htrace, h.control, hseen]
  · rw [hworker, hstates]
    exact h.placed

theorem At.stop (h : At cfg p n w) (s : StopStep) : At cfg p n (w.stop s) := by
  cases s with
  | clear => exact h.next rfl trivial (by cases p <;> rfl) h.placed
  | request =>
    unfold World.stop
    dsimp only
    split
    case isTrue => exact h
    case isFalse hcalls =>
      exact h.next rfl ⟨rfl, Nat.pos_of_ne_zero hcalls⟩ (by cases p <;> rfl) h.placed

theorem interfere_induction {I : World → Prop} (hstep : ∀ w s, I w → I (w.stop s))
    (hw : I w) : I (w.interfere th) := by
  unfold World.interfere
  generalize th.stops w.steps = steps
  induction steps generalizing w with
  | nil => exact hw
  | cons s rest ih => exact ih (hstep w s hw)

theorem At.interfere (h : At cfg p n w) : At cfg p n (w.interfere th) :=
  interfere_induction (fun _ s hw => hw.stop s) h

structure World.Kept (w w' : World) : Prop where
  worker : w'.worker = w.worker
  source : w'.source = w.source
  states : w'.states = w.states
  sockets : w'.sockets = w.sockets
  trace : w.trace <+: w'.trace

theorem stop_kept (w : World) (s : StopStep) : w.Kept (w.stop s) := by
  cases s with
  | clear => exact ⟨rfl, rfl, rfl, rfl, List.prefix_append _ _⟩
  | request =>
    unfold World.stop
    dsimp only
    split
    · exact ⟨rfl, rfl, rfl, rfl, List.prefix_refl _⟩
    · exact ⟨rfl, rfl, rfl, rfl, List.prefix_append _ _⟩

theorem interfere_kept (th : Threads) (w : World) : w.Kept (w.interfere th) := by
  refine interfere_induction (I := fun w' => w.Kept w') (fun w' s h => ?_)
    ⟨rfl, rfl, rfl, rfl, List.prefix_refl _⟩
  have hs := stop_kept w' s
  exact ⟨hs.worker.trans h.worker, hs.source.trans h.source, hs.states.trans h.states,
    hs.sockets.trans h.sockets, h.trace.trans hs.trace⟩

@[simp] theorem interfere_worker (w : World) : (w.interfere th).worker = w.worker :=
  (interfere_kept th w).worker

@[simp] theorem interfere_source (w : World) : (w.interfere th).source = w.source :=
  (interfere_kept th w).source

@[simp] theorem interfere_states (w : World) : (w.interfere th).states = w.states :=
  (interfere_kept th w).states

@[simp] theorem interfere_sockets (w : World) : (w.interfere th).sockets = w.sockets :=
  (interfere_kept th w).sockets

@[simp] theorem act_worker (w : World) : (w.act th e).worker = w.worker := interfere_worker w

@[simp] theorem act_states (w : World) : (w.act th e).states = w.states := interfere_states w

theorem mem_interfere (h : e ∈ w.trace) : e ∈ (w.interfere th).trace :=
  (interfere_kept th w).trace.subset h

def Event.moves : Event → Bool
  | .socket _ | .socketFailed | .connect _ _ | .connectFailed _ | .close _ | .reply _
  | .setRunning | .head _ | .recv _ | .dispatch _ | .join _ | .joined _ | .onShutdown | .left
  | .lost _ | .sleep _ => true
  | _ => false

theorem next_of_not_moves (h : e.moves = false) (p : Phase) : p.next e = p := by
  cases e <;> first | (cases p <;> rfl) | cases h

theorem step_phase (c : Control) (e : Event) : (c.step e).phase = c.phase.next e := by
  cases e <;> rfl

theorem phase_of_not_moves (h : e.moves = false) (c : Control) : (c.step e).phase = c.phase := by
  rw [step_phase, next_of_not_moves h]

theorem ending_of_next {fd : Nat} (h : p.next e = .ending fd) : p = .ending fd ∨
    (p = .looping fd ∧ e = .head false) ∨ (p = .reading fd ∧ ∃ ex, e = .recv (.error ex)) ∨
    (∃ env, e = .dispatch env ∧ reaction env = .ok true) ∨ ∃ t, e = .joined t := by
  unfold Phase.next at h
  split at h
  case h_6 fd' result =>
    unfold Phase.answered at h
    split at h <;> cases h
  case h_12 fd' env' env =>
    unfold Phase.dispatched at h
    split at h
    case h_1 hreaction => exact .inr (.inr (.inr (.inl ⟨env, rfl, hreaction⟩)))
    case h_2 => cases h
    case h_3 => cases h
  case h_18 ex fd' =>
    unfold Phase.caught at h
    split at h
    · cases h
    · split at h <;> cases h
  all_goals cases h <;> simp

def Event.idle : Event → Bool
  | .write _ _ | .store _ | .onPing | .onConfigure _ _ | .onError _ _ => true
  | _ => false

theorem Event.idle.not_moves (h : e.idle = true) : e.moves = false := by
  cases e <;> trivial

theorem step_idle (h : e.idle = true) (c : Control) : c.step e = c := by
  have hnext := next_of_not_moves (Event.idle.not_moves h) c.phase
  cases e <;> first | (simp only [Control.step, hnext]; done) | cases h

theorem allows_idle (h : e.idle = true) (c : Control) : c.allows cfg e := by
  cases e <;> trivial

theorem At.act (h : At cfg p n w) (hallows : ∀ w : World, (w.seen p n).allows cfg e)
    (hstep : ∀ w : World, (w.seen p n).step e = w.seen q m) : At cfg q m (w.act th e) :=
  h.interfere.next rfl (hallows _) (hstep _) h.interfere.placed

end Steps

inductive Phase.Goes : Phase → Event → Phase → Prop
  | socket (fd : Nat) : Goes .due (.socket fd) (.opened fd)
  | socketFailed : Goes .due .socketFailed (.thrown (.runtimeError "socket() failed") none)
  | connect (fd : Nat) (link : Link) : Goes (.opened fd) (.connect fd link) (.connected fd)
  | connectFailed (fd : Nat) : Goes (.opened fd) (.connectFailed fd) (.refused fd)
  | closeRefused (fd : Nat) :
      Goes (.refused fd) (.close fd) (.thrown (.runtimeError "connect() failed") none)
  | reply (fd : Nat) (result : Except Exception Envelope) :
      Goes (.connected fd) (.reply result) (.answered fd result)
  | setRunning (fd : Nat) : Goes (.accepted fd) .setRunning (.looping fd)
  | goesOn (fd : Nat) : Goes (.looping fd) (.head true) (.reading fd)
  | stopped (fd : Nat) : Goes (.looping fd) (.head false) (.ending fd)
  | read (fd : Nat) (env : Envelope) : Goes (.reading fd) (.recv (.ok env)) (.received fd env)
  | unread (fd : Nat) (e : Exception) : Goes (.reading fd) (.recv (.error e)) (.ending fd)
  | dispatch (fd : Nat) (env : Envelope) :
      Goes (.received fd env) (.dispatch env) (.dispatched fd env)
  | join (fd t : Nat) : Goes (.ending fd) (.join t) (.joining fd)
  | joined (fd t : Nat) : Goes (.joining fd) (.joined t) (.ending fd)
  | onShutdown (fd : Nat) : Goes (.ending fd) .onShutdown (.shut fd)
  | close (fd : Nat) : Goes (.shut fd) (.close fd) .closed
  | returns : Goes .closed .left .returned
  | throws (e : Exception) (fd : Option Nat) : Goes (.thrown e fd) .left (.caught e)
  | lost (what : String) : Goes (.failed what) (.lost what) .lost
  | sleep (attempts : Nat) : Goes .lost (.sleep attempts) .due

section Moves

variable {cfg : Config} {c : Control} {e : Event}

theorem goes_of_allows (hm : e.moves = true) (h : c.allows cfg e) :
    Phase.Goes c.phase e (c.step e).phase := by
  rw [step_phase]
  obtain ⟨phase, running, source, worker, states, sockets, calls, losses⟩ := c
  cases e with
  | socket fd =>
    obtain ⟨rfl, -⟩ := h
    exact .socket fd
  | socketFailed =>
    obtain rfl : phase = .due := h
    exact .socketFailed
  | connect fd link =>
    obtain rfl : phase = .opened fd := h
    exact .connect fd link
  | connectFailed fd =>
    obtain rfl : phase = .opened fd := h
    exact .connectFailed fd
  | close fd =>
    obtain rfl | rfl : phase = .refused fd ∨ phase = .shut fd := h
    · exact .closeRefused fd
    · exact .close fd
  | reply result =>
    obtain ⟨fd, rfl⟩ : ∃ fd, phase = .connected fd := h
    exact .reply fd result
  | setRunning =>
    obtain ⟨fd, rfl⟩ : ∃ fd, phase = .accepted fd := h
    exact .setRunning fd
  | head running =>
    obtain ⟨⟨fd, rfl⟩, -⟩ := h
    cases running with
    | true => exact .goesOn fd
    | false => exact .stopped fd
  | recv result =>
    obtain ⟨fd, rfl⟩ : ∃ fd, phase = .reading fd := h
    cases result with
    | ok env => exact .read fd env
    | error e => exact .unread fd e
  | dispatch env =>
    obtain ⟨fd, rfl⟩ : ∃ fd, phase = .received fd env := h
    exact .dispatch fd env
  | join t =>
    obtain ⟨⟨fd, rfl⟩, -⟩ := h
    exact .join fd t
  | joined t =>
    obtain ⟨⟨fd, rfl⟩, -⟩ := h
    exact .joined fd t
  | onShutdown =>
    obtain ⟨⟨fd, rfl⟩, -⟩ := h
    exact .onShutdown fd
  | left =>
    obtain rfl | ⟨e, fd, rfl⟩ : phase = .closed ∨ ∃ e fd, phase = .thrown e fd := h
    · exact .returns
    · exact .throws e fd
  | lost what =>
    obtain rfl : phase = .failed what := h
    exact .lost what
  | sleep attempts =>
    obtain ⟨rfl, -⟩ := h
    exact .sleep attempts
  | _ => cases hm

end Moves

inductive Stuck (cfg : Config) (th : Threads) (fd n : Nat) (w : World) : Prop
  | join (t : Nat) : At cfg (.joining fd) n w → w.worker = some t → Event.join t ∈ w.trace →
      (∀ step, th.fate t ≠ .returns step) → Stuck cfg th fd n w
  | destroy (t : Nat) : At cfg (.looping fd) n w → Event.destroy t ∈ w.trace →
      th.fate t = .never → Stuck cfg th fd n w

/-- How a function may end that is called on a connection, other than by returning. -/
def Escapes (cfg : Config) (th : Threads) (fd n : Nat) : Fault → World → Prop
  | .exception e, w => At cfg (.thrown e (some fd)) n w
  | .hang, w => Stuck cfg th fd n w

section Functions

variable {rt : Runtime} {cfg : Config} {th : Threads} {p q : Phase} {n m fd : Nat}
  {E : Fault → World → Prop}

theorem emit_at {e : Event} (hallows : ∀ w : World, (w.seen p n).allows cfg e)
    (hstep : ∀ w : World, (w.seen p n).step e = w.seen q m) :
    Triple (At cfg p n) (emit th e) (fun _ => At cfg q m) E :=
  fun _ hw => hw.act hallows hstep

theorem emit_idle {e : Event} (h : e.idle = true) :
    Triple (At cfg p n) (emit th e) (fun _ => At cfg p n) E :=
  emit_at (fun _ => allows_idle h _) (fun _ => step_idle h _)

theorem update_at {f : World → World} (htrace : ∀ w, (f w).trace = w.trace)
    (hseen : ∀ w, (f w).seen = w.seen) :
    Triple (At cfg p n) (modify f : Task Unit) (fun _ => At cfg p n) E :=
  fun w hw => hw.same (htrace w) (hseen w)

theorem make_at (type : MessageType) (cmd : Command) (payload : Json) :
    Triple (At cfg p n) (make rt cfg type cmd payload) (fun _ => At cfg p n) E :=
  fun _ hw => hw.same rfl rfl

theorem sendEnvelope_at (env : Envelope) :
    Triple (At cfg p n) (sendEnvelope th env) (fun _ => At cfg p n) E := by
  intro w hw
  have h : At cfg p n { w with writes := w.writes.tail } := hw.same rfl rfl
  exact emit_idle (E := E) rfl _ h

theorem store_at (s : ComponentState) :
    Triple (At cfg p n) (store th s) (fun _ => At cfg p n) E :=
  (emit_idle rfl).bind fun _ => update_at (fun _ => rfl) (fun _ => rfl)

theorem sendStateUpdate_at (s : ComponentState) :
    Triple (At cfg p n) (sendStateUpdate rt cfg th s) (fun _ => At cfg p n) E :=
  (make_at _ _ _).bind fun _ => (sendEnvelope_at _).bind fun _ => store_at s

theorem sendAck_at (id : String) :
    Triple (At cfg p n) (sendAck rt cfg th id) (fun _ => At cfg p n) E :=
  (make_at _ _ _).bind fun _ => sendEnvelope_at _

theorem accept_at (resp : Envelope) :
    Triple (At cfg (.answered fd (.ok resp)) n) (accept th resp)
      (fun _ => At cfg (.accepted fd) n) (Escapes cfg th fd n) := by
  unfold accept
  intro w hw
  by_cases hc : resp.command ≠ .registered
  · have hphase : Phase.answered fd (.ok resp) = .thrown (.runtimeError
        ("REGISTRATION_FAILED: unexpected command " ++ resp.command.toString)) (some fd) := by
      simp [Phase.answered, registration, hc, bind, Except.bind]
    rw [if_pos hc]
    rw [hphase] at hw
    exact hw
  rw [if_neg hc]
  cases ha : value Json.asStr resp.payload "component_id" "" with
  | error e =>
    have hphase : Phase.answered fd (.ok resp) = .thrown e (some fd) := by
      simp [Phase.answered, registration, hc, ha, bind, Except.bind]
    rw [hphase] at hw
    exact hw
  | ok a =>
    have hw₁ : At cfg (.answered fd (.ok resp)) n { w with componentId := a } := hw.same rfl rfl
    cases hb : value Json.asStr resp.payload "session_id" "" with
    | error e =>
      have hphase : Phase.answered fd (.ok resp) = .thrown e (some fd) := by
        simp [Phase.answered, registration, hc, ha, hb, bind, Except.bind]
      rw [hphase] at hw₁
      exact hw₁
    | ok b =>
      have hphase : Phase.answered fd (.ok resp) = .accepted fd := by
        simp [Phase.answered, registration, hc, ha, hb, bind, Except.bind, pure, Except.pure]
      have hw₂ : At cfg (.answered fd (.ok resp)) n { w with componentId := a, sessionId := b } :=
        hw₁.same rfl rfl
      rw [hphase] at hw₂
      exact store_at (E := Escapes cfg th fd n) .registered _ hw₂

theorem emit_reply (result : Except Exception Envelope) :
    Triple (At cfg (.connected fd) n) (emit th (.reply result))
      (fun _ => At cfg (.answered fd result) n) E :=
  emit_at (fun _ => ⟨fd, rfl⟩) fun _ => rfl

theorem doRegister_at (lines : List (List UInt8)) :
    Triple (At cfg (.connected fd) n) (doRegister rt cfg th lines)
      (fun _ => At cfg (.accepted fd) n) (Escapes cfg th fd n) := by
  refine (make_at _ _ _).bind fun env => (sendEnvelope_at env).bind fun _ => ?_
  refine (emit_reply _).bind fun _ => ?_
  cases recvEnvelope rt (lines.headD []) with
  | error e => exact fun w hw => hw
  | ok resp => exact accept_at resp

theorem waitFor_cases (th : Threads) (t : Nat) (w : World) :
    waitFor th t w = .ok () w ∨
    waitFor th t w = .error .hang (w.interfere th) ∧ (∀ step, th.fate t ≠ .returns step) ∧
      (t ∈ w.requested → th.fate t = .never) := by
  unfold waitFor
  cases h : th.fate t with
  | returns step => exact .inl rfl
  | whenTold =>
    change (if t ∈ w.requested then pure () else hang th : Task Unit) w = _ ∨
      (if t ∈ w.requested then pure () else hang th : Task Unit) w = _ ∧ _
    by_cases ht : t ∈ w.requested
    · rw [if_pos ht]
      exact .inl rfl
    · rw [if_neg ht]
      exact .inr ⟨rfl, by simp, fun ht' => absurd ht' ht⟩
  | never => exact .inr ⟨rfl, by simp, fun _ => rfl⟩

theorem renewSource_at :
    Triple (At cfg (.looping fd) n) (renewSource th) (fun _ => At cfg (.looping fd) n) E := by
  intro w hw
  refine hw.interfere.next (e := .newSource w.states) rfl ⟨⟨fd, rfl⟩, ?_⟩ ?_ fun t ht => ?_
  · exact (interfere_states w).symm
  · simp [World.seen, Control.step, Phase.next, World.act, World.record]
  · have hlt : t < w.states := hw.placed t (by simpa using ht)
    show t < (w.act th (.newSource w.states)).states + 1
    rw [act_states]
    exact Nat.lt_succ_of_lt hlt

theorem requestStop_at :
    Triple (At cfg p n) (requestStop th) (fun _ => At cfg p n) E := by
  intro w hw
  refine hw.interfere.next (e := .requestStop w.source) rfl ?_ ?_ hw.interfere.placed
  · exact (interfere_source w).symm
  · cases p <;> rfl

theorem destroyWorker_at {old : Nat} :
    Triple (fun w => At cfg (.looping fd) n w ∧ old < w.states ∧ w.worker ≠ some old)
      (destroyWorker th (some old)) (fun _ => At cfg (.looping fd) n) (Escapes cfg th fd n) := by
  rintro w ⟨hw, hlt, hne⟩
  let w₁ : World :=
    { w.act th (.destroy old) with requested := (w.act th (.destroy old)).requested ++ [old] }
  have hw₁ : At cfg (.looping fd) n w₁ := by
    refine hw.interfere.next (e := .destroy old) rfl ⟨⟨fd, rfl⟩, ?_, ?_⟩ rfl hw.interfere.placed
    · show old < (w.interfere th).states
      rwa [interfere_states]
    · show (w.interfere th).worker ≠ some old
      rwa [interfere_worker]
  have hrun : destroyWorker th (some old) w = waitFor th old w₁ := rfl
  rw [hrun]
  obtain hok | ⟨hhang, -, hfate⟩ := waitFor_cases th old w₁
  · rw [hok]
    exact hw₁
  · rw [hhang]
    refine .destroy old hw₁.interfere (mem_interfere ?_) (hfate ?_)
    · exact List.mem_append_right _ (List.mem_singleton_self _)
    · exact List.mem_append_right _ (List.mem_singleton_self _)

theorem startWorker_at :
    Triple (At cfg (.looping fd) n) (startWorker th) (fun _ => At cfg (.looping fd) n)
      (Escapes cfg th fd n) := by
  intro w hw
  let w₁ := w.act th (.spawn w.states)
  let w₂ : World := { w₁ with worker := some w₁.states, states := w₁.states + 1 }
  have hstates : w₁.states = w.states := act_states w
  have hw₂ : At cfg (.looping fd) n w₂ := by
    refine hw.interfere.next (e := .spawn w.states) rfl ⟨⟨fd, rfl⟩, ?_⟩ ?_ fun t ht => ?_
    · exact (interfere_states w).symm
    · simp [w₂, w₁, World.seen, Control.step, Phase.next, World.act, World.record]
    · cases ht
      exact Nat.lt_succ_self _
  have hrun : startWorker th w = destroyWorker th w.worker w₂ := rfl
  rw [hrun]
  cases hold : w.worker with
  | none => exact hw₂
  | some old =>
    have hlt : old < w₁.states := hstates ▸ hw.placed old hold
    refine destroyWorker_at w₂ ⟨hw₂, Nat.lt_succ_of_lt hlt, fun heq => ?_⟩
    exact Nat.ne_of_gt hlt (Option.some.inj heq)

theorem joinWorker_at {t : Nat} :
    Triple (fun w => At cfg (.ending fd) n w ∧ w.worker = some t) (joinWorker th (some t))
      (fun _ w => At cfg (.ending fd) n w ∧ w.worker = none) (Escapes cfg th fd n) := by
  rintro w ⟨hw, ht⟩
  let w₀ := w.act th (.requestStop w.source)
  let w₁ : World := { w₀ with requested := w₀.requested ++ [w₀.source] }
  let w₂ := w₁.act th (.join t)
  have hw₁ : At cfg (.ending fd) n w₁ :=
    Triple.ok (x := requestStop th) (a := ()) (requestStop_at (E := Escapes cfg th fd n)) hw rfl
  have ht₀ : w₀.worker = some t := by
    rw [act_worker]
    exact ht
  have ht₁ : (w₁.interfere th).worker = some t := by
    rw [interfere_worker]
    exact ht₀
  have hw₂ : At cfg (.joining fd) n w₂ :=
    hw₁.interfere.next (e := .join t) rfl ⟨⟨fd, rfl⟩, ht₁⟩ rfl hw₁.interfere.placed
  have hrun : joinWorker th (some t) w = (do
      waitFor th t
      emit th (.joined t)
      modify fun w => { w with worker := none } : Task Unit) w₂ := rfl
  rw [hrun]
  have ht₂ : (w₂.interfere th).worker = some t := by
    rw [interfere_worker]
    exact ht₁
  obtain hok | ⟨hhang, hfate, -⟩ := waitFor_cases th t w₂
  · rw [bind_ok hok]
    exact ⟨hw₂.interfere.next (e := .joined t) rfl ⟨⟨fd, rfl⟩, ht₂⟩ rfl (fun _ h => by cases h),
      rfl⟩
  · rw [bind_error hhang]
    refine .join t hw₂.interfere ht₂ (mem_interfere ?_) hfate
    exact List.mem_append_right _ (List.mem_singleton_self _)

theorem onShutdown_at :
    Triple (fun w => At cfg (.ending fd) n w ∧ w.worker = none) (emit th .onShutdown)
      (fun _ => At cfg (.shut fd) n) E := by
  rintro w ⟨hw, hnone⟩
  refine hw.interfere.next (e := .onShutdown) rfl ⟨⟨fd, rfl⟩, ?_⟩ rfl hw.interfere.placed
  show (w.interfere th).worker = none
  rwa [interfere_worker]

theorem gracefulShutdown_at :
    Triple (At cfg (.ending fd) n) (gracefulShutdown rt cfg th) (fun _ => At cfg (.shut fd) n)
      (Escapes cfg th fd n) := by
  refine Triple.get.bind fun w₀ => Triple.bind
    (Q := fun _ w => At cfg (.ending fd) n w ∧ w.worker = none) ?_ fun _ =>
    onShutdown_at.bind fun _ => (make_at _ _ _).bind fun _ => (sendEnvelope_at _).bind fun _ =>
      store_at _
  rintro w ⟨rfl, hw⟩
  cases hworker : w₀.worker with
  | none => exact ⟨hw, hworker⟩
  | some t => exact joinWorker_at w₀ ⟨hw, hworker⟩

theorem handleHeartbeat_at (env : Envelope) :
    Triple (At cfg p n) (handleHeartbeat rt cfg th env) (fun _ => At cfg p n) E := by
  unfold handleHeartbeat
  split
  · exact (emit_idle rfl).bind fun _ => Triple.get.bind fun _ => Triple.weaken
      ((make_at _ _ _).bind fun _ => sendEnvelope_at _) (fun _ h => h.2) (fun _ _ h => h)
        fun _ _ h => h
  · exact fun _ hw => hw

theorem handleConfig_at {env : Envelope} (ht : env.msgType = .config) :
    Triple (At cfg (.dispatched fd env) n) (handleConfig rt cfg th env)
      (fun _ => At cfg (.looping fd) n) (Escapes cfg th fd n) := by
  unfold handleConfig
  by_cases hc : env.command = .configure
  case neg =>
    have hphase : Phase.dispatched fd env = .looping fd := by
      simp [Phase.dispatched, reaction, ht, hc]
    rw [if_neg hc, hphase]
    exact fun _ hw => hw
  rw [if_pos hc]
  cases hconf : configuration env with
  | error e =>
    have hphase : Phase.dispatched fd env = .thrown e (some fd) := by
      simp [Phase.dispatched, reaction, ht, hc, hconf, Except.map]
    rw [hphase]
    exact fun _ hw => hw
  | ok found =>
    have hphase : Phase.dispatched fd env = .looping fd := by
      simp [Phase.dispatched, reaction, ht, hc, hconf, Except.map]
    obtain ⟨sock, topics⟩ := found
    have found : ofExcept (.ok (sock, topics)) = (pure (sock, topics) : Task _) := rfl
    rw [hphase, found, pure_bind]
    exact (emit_idle rfl).bind fun _ => (sendAck_at _).bind fun _ =>
      (sendStateUpdate_at _).bind fun _ => (sendStateUpdate_at _).bind fun _ =>
        renewSource_at.bind fun _ => startWorker_at

/-- After a message the thread is in the loop or has shut down. -/
def Phase.resumed (fd : Nat) (stop : Bool) : Phase := if stop then .shut fd else .looping fd

theorem handleLifecycle_at {env : Envelope} (ht : env.msgType = .lifecycle) :
    Triple (At cfg (.dispatched fd env) n) (handleLifecycle rt cfg th env)
      (fun stop => At cfg (.resumed fd stop) n) (Escapes cfg th fd n) := by
  unfold handleLifecycle
  by_cases hc : env.command = .shutdown
  · have hphase : Phase.dispatched fd env = .ending fd := by
      simp [Phase.dispatched, reaction, ht, hc]
    rw [if_pos hc, hphase]
    exact (sendAck_at _).bind fun _ => gracefulShutdown_at.bind fun _ _ hw => hw
  · have hphase : Phase.dispatched fd env = .looping fd := by
      simp [Phase.dispatched, reaction, ht, hc]
    rw [if_neg hc, hphase]
    exact fun _ hw => hw

theorem handleErrorMsg_at {env : Envelope} (ht : env.msgType = .error) :
    Triple (At cfg (.dispatched fd env) n) (do
      if ← handleErrorMsg th env then
        raise (.runtimeError "non-recoverable error from Aegis")
      else return false)
      (fun stop => At cfg (.resumed fd stop) n) (Escapes cfg th fd n) := by
  unfold handleErrorMsg
  intro w hw
  cases hreport : errorReport env with
  | error e =>
    have hphase : Phase.dispatched fd env = .thrown e (some fd) := by
      simp [Phase.dispatched, reaction, ht, hreport, bind, Except.bind]
    rw [hphase] at hw
    exact hw
  | ok report =>
    obtain ⟨code, message, recoverable⟩ := report
    have hw₁ : At cfg (.dispatched fd env) n (w.act th (.onError code message)) :=
      Triple.ok (x := emit th (.onError code message))
        (emit_idle (E := Escapes cfg th fd n) rfl) hw rfl
    cases recoverable with
    | false =>
      have hphase : Phase.dispatched fd env =
          .thrown (.runtimeError "non-recoverable error from Aegis") (some fd) := by
        simp [Phase.dispatched, reaction, ht, hreport, bind, Except.bind]
      rw [hphase] at hw₁
      exact hw₁
    | true =>
      have hphase : Phase.dispatched fd env = .looping fd := by
        simp [Phase.dispatched, reaction, ht, hreport, bind, Except.bind, pure, Except.pure]
      rw [hphase] at hw₁
      exact hw₁

theorem dispatch_at (env : Envelope) :
    Triple (At cfg (.dispatched fd env) n) (dispatch rt cfg th env)
      (fun stop => At cfg (.resumed fd stop) n) (Escapes cfg th fd n) := by
  unfold dispatch
  split
  case h_1 ht =>
    have hphase : Phase.dispatched fd env = .looping fd := by
      simp [Phase.dispatched, reaction, ht]
    rw [hphase]
    exact (handleHeartbeat_at env).bind fun _ _ hw => hw
  case h_2 ht => exact (handleConfig_at ht).bind fun _ _ hw => hw
  case h_3 ht => exact handleLifecycle_at ht
  case h_4 ht => exact handleErrorMsg_at ht
  case h_5 h₁ h₂ h₃ h₄ =>
    have hphase : Phase.dispatched fd env = .looping fd := by
      unfold Phase.dispatched reaction
      cases ht : env.msgType <;> simp_all
    rw [hphase]
    exact fun _ hw => hw

theorem emit_recv (result : Except Exception Envelope) :
    Triple (At cfg (.reading fd) n) (emit th (.recv result))
      (fun _ => At cfg (match result with
        | .ok env => .received fd env
        | .error _ => .ending fd) n) E :=
  emit_at (fun _ => ⟨fd, rfl⟩) fun _ => by cases result <;> rfl

theorem emit_dispatch (env : Envelope) :
    Triple (At cfg (.received fd env) n) (emit th (.dispatch env))
      (fun _ => At cfg (.dispatched fd env) n) E :=
  emit_at (fun _ => ⟨fd, rfl⟩) fun _ => rfl

theorem loopHead_at :
    Triple (At cfg (.looping fd) n) (loopHead th)
      (fun running => At cfg (if running then .reading fd else .ending fd) n) E := by
  intro w hw
  refine hw.interfere.next (e := .head (w.interfere th).running) rfl ⟨⟨fd, rfl⟩, rfl⟩ ?_
    hw.interfere.placed
  cases (w.interfere th).running <;> rfl

theorem messageLoop_at (lines : List (List UInt8)) :
    Triple (At cfg (.looping fd) n) (messageLoop rt cfg th lines)
      (fun _ => At cfg (.shut fd) n) (Escapes cfg th fd n) := by
  induction lines with
  | nil =>
    refine loopHead_at.bind fun running => ?_
    cases running with
    | true => exact (emit_recv _).bind fun _ => gracefulShutdown_at
    | false => exact gracefulShutdown_at
  | cons line rest ih =>
    refine loopHead_at.bind fun running => ?_
    cases running with
    | false => exact gracefulShutdown_at
    | true =>
      refine (emit_recv _).bind fun _ => ?_
      cases recvEnvelope rt line with
      | error e => exact gracefulShutdown_at
      | ok env =>
        refine (emit_dispatch env).bind fun _ => (dispatch_at env).bind fun stop => ?_
        cases stop with
        | true => exact fun _ hw => hw
        | false => exact ih

def Lost (cfg : Config) (th : Threads) (n : Nat) : Fault → World → Prop
  | .exception e, w => ∃ fd, At cfg (.thrown e fd) n w
  | .hang, w => ∃ fd, Stuck cfg th fd n w

theorem lost_of_escapes {f : Fault} {w : World} (h : Escapes cfg th fd n f w) :
    Lost cfg th n f w := by
  cases f with
  | exception e => exact ⟨some fd, h⟩
  | hang => exact ⟨fd, h⟩

theorem openSocket_at :
    Triple (At cfg .due n) (openSocket th) (fun fd => At cfg (.opened fd) n) E := by
  intro w hw
  refine hw.interfere.next (e := .socket w.sockets) rfl ⟨rfl, ?_⟩ ?_ hw.interfere.placed
  · exact (interfere_sockets w).symm
  · simp [World.seen, Control.step, Phase.next, World.act, World.record]

theorem emit_connect (link : Link) :
    Triple (At cfg (.opened fd) n) (emit th (.connect fd link))
      (fun _ => At cfg (.connected fd) n) E :=
  emit_at (fun _ => rfl) fun _ => rfl

theorem setRunning_at :
    Triple (At cfg (.accepted fd) n) (setRunning th) (fun _ => At cfg (.looping fd) n) E :=
  fun _ hw => hw.interfere.next (e := .setRunning) rfl ⟨fd, rfl⟩ rfl hw.interfere.placed

theorem emit_socketFailed :
    Triple (At cfg .due n) (emit th .socketFailed)
      (fun _ => At cfg (.thrown (.runtimeError "socket() failed") none) n) E :=
  emit_at (fun _ => rfl) fun _ => rfl

theorem emit_connectFailed :
    Triple (At cfg (.opened fd) n) (emit th (.connectFailed fd))
      (fun _ => At cfg (.refused fd) n) E :=
  emit_at (fun _ => rfl) fun _ => rfl

theorem emit_closeRefused :
    Triple (At cfg (.refused fd) n) (emit th (.close fd))
      (fun _ => At cfg (.thrown (.runtimeError "connect() failed") none) n) E :=
  emit_at (fun _ => .inl rfl) fun _ => rfl

theorem emit_close :
    Triple (At cfg (.shut fd) n) (emit th (.close fd)) (fun _ => At cfg .closed n) E :=
  emit_at (fun _ => .inr rfl) fun _ => rfl

theorem session_at (lines : List (List UInt8)) :
    Triple (At cfg (.connected fd) n) (do
      doRegister rt cfg th lines
      setRunning th
      messageLoop rt cfg th lines.tail
      emit th (.close fd)) (fun _ => At cfg .closed n) (Escapes cfg th fd n) :=
  (doRegister_at _).bind fun _ => setRunning_at.bind fun _ =>
    (messageLoop_at lines.tail).bind fun _ => emit_close

theorem runOnce_at (link : Link) :
    Triple (At cfg .due n) (runOnce rt cfg th link) (fun _ => At cfg .closed n)
      (Lost cfg th n) := by
  unfold runOnce
  split
  · refine openSocket_at.bind fun fd => ?_
    split
    · refine (emit_connect link).bind fun _ => Triple.bind (update_at (fun _ => rfl) fun _ => rfl)
        fun _ => ?_
      exact (session_at _).weaken (fun _ h => h) (fun _ _ h => h) fun _ _ => lost_of_escapes
    · refine (emit_connectFailed).bind fun _ => emit_closeRefused.bind fun _ w hw => ?_
      exact ⟨none, hw⟩
  · exact emit_socketFailed.bind fun _ w hw => ⟨none, hw⟩

/-- Where the machine is when `run` has ended so, or has used up what the environment has in
store. -/
inductive Ended (cfg : Config) (th : Threads) : Option Outcome → World → Prop
  | waits {n : Nat} {w : World} : At cfg .due n w → Ended cfg th none w
  | returned {n : Nat} {w : World} : At cfg .returned n w → Ended cfg th (some .returned) w
  | rejected {what : String} {n : Nat} {w : World} : At cfg (.rejected what) n w →
      Ended cfg th (some (.rejected what)) w
  | reconnectDisabled {n : Nat} {w : World} : At cfg .lost n w → cfg.reconnect = false →
      Ended cfg th (some .reconnectDisabled) w
  | attemptsExhausted {n : Nat} {w : World} : At cfg .lost n w → cfg.reconnect = true ∧
      cfg.maxReconnectAttempts > 0 ∧ (n : Int) ≥ cfg.maxReconnectAttempts →
      Ended cfg th (some .attemptsExhausted) w
  | escaped {id n : Nat} {w : World} : At cfg (.escaped id) n w →
      Ended cfg th (some (.escaped id)) w
  | hung {fd n : Nat} {w : World} : Stuck cfg th fd n w → Ended cfg th (some .hung) w

theorem Ended.accepted {o : Option Outcome} {w : World} (h : Ended cfg th o w) :
    (machine cfg).Accepts {} w.trace := by
  cases h with
  | waits h => exact h.accepted
  | returned h => exact h.accepted
  | rejected h => exact h.accepted
  | reconnectDisabled h _ => exact h.accepted
  | attemptsExhausted h _ => exact h.accepted
  | escaped h => exact h.accepted
  | hung h =>
    cases h with
    | join t h _ _ _ => exact h.accepted
    | destroy t h _ _ => exact h.accepted

theorem turn_at (link : Link) {w : World} (hw : At cfg .due n w) :
    ((turn rt cfg th n link w).1 = none → At cfg .due (n + 1) (turn rt cfg th n link w).2) ∧
    ((turn rt cfg th n link w).1 ≠ none →
      Ended cfg th (turn rt cfg th n link w).1 (turn rt cfg th n link w).2) := by
  have once : Triple (At cfg .due n) (runOnce rt cfg th link) (fun _ => At cfg .closed n)
      (Lost cfg th n) := runOnce_at link
  unfold turn
  cases h : runOnce rt cfg th link w with
  | ok _ w' =>
    have closed : At cfg .closed n w' := once.ok hw h
    refine ⟨by simp, fun _ => .returned (closed.act (fun _ => .inl rfl) fun _ => rfl)⟩
  | error f w' =>
    have lost : Lost cfg th n f w' := once.error hw h
    cases f with
    | hang =>
      obtain ⟨fd, stuck⟩ := lost
      exact ⟨by simp, fun _ => .hung stuck⟩
    | exception e =>
      obtain ⟨fd, thrown⟩ := lost
      have left : At cfg (.caught e) n (w'.act th .left) :=
        thrown.act (fun _ => .inr ⟨e, fd, rfl⟩) fun _ => rfl
      cases e with
      | json id => exact ⟨by simp, fun _ => .escaped left⟩
      | runtimeError what =>
        by_cases hrej : isRejection what = true
        · rw [Phase.caught, if_pos hrej] at left
          simp only [if_pos hrej]
          exact ⟨by simp, fun _ => .rejected left⟩
        rw [Phase.caught, if_neg hrej] at left
        have lost : At cfg .lost (n + 1) ((w'.act th .left).act th (.lost what)) :=
          left.act (fun _ => rfl) fun _ => rfl
        simp only [if_neg hrej]
        cases hrec : cfg.reconnect with
        | false => exact ⟨by simp, fun _ => .reconnectDisabled lost hrec⟩
        | true =>
          simp only [Bool.not_true, Bool.false_eq_true, if_false]
          split
          case isTrue hmax =>
            exact ⟨by simp, fun _ => .attemptsExhausted lost ⟨hrec, hmax⟩⟩
          case isFalse hmax =>
            exact ⟨fun _ => lost.act (fun _ => ⟨rfl, hrec, hmax⟩) fun _ => rfl, by simp⟩

/-- Every run is accepted and ends where the machine says. -/
theorem run_at (links : List Link) :
    Ended cfg th (run rt cfg th links).1 (run rt cfg th links).2 := by
  apply Loop.run_induction (I := fun n w => At cfg .due n w)
  case hagain => exact fun _ link _ hw hnone => (turn_at link hw).1 hnone
  case hends => exact fun _ link _ hw hsome => (turn_at link hw).2 hsome
  case hwaits => exact fun _ _ hw => .waits hw
  case hs => exact ⟨trivial, rfl, by simp⟩

theorem run_accepted (links : List Link) :
    (machine cfg).Accepts {} (run rt cfg th links).2.trace :=
  (run_at links).accepted

end Functions

end AegisSdk.Cpp
