import AegisSdk.Cpp.Ends
import AegisSdk.Cpp.Workers

/-!
A SHUTDOWN is final. What the thread in `run` does after it is settled but for the worker: it
acknowledges the message, waits for the worker, calls `on_shutdown`, says goodbye, closes the
connection and returns, or it waits for a worker that does not return. `on_shutdown` is called
once by a run that returns and never by any other.
-/

set_option autoImplicit false
set_option relaxedAutoImplicit false

namespace AegisSdk.Cpp

open AegisSdk.Protocol AegisSdk.Library

/-- The thread has nothing before it but the end of the run. -/
def Phase.isLast : Phase → Bool
  | .ending _ | .joining _ | .shut _ | .closed | .returned => true
  | _ => false

/-- Another attempt, another look at the flag or another message begins. -/
def Event.isNew : Event → Bool
  | .socket _ | .socketFailed | .connect _ _ | .connectFailed _ | .reply _ | .setRunning
  | .head _ | .recv _ | .dispatch _ | .newSource _ | .spawn _ | .destroy _ | .lost _
  | .sleep _ => true
  | _ => false

def Event.isOnShutdown : Event → Bool
  | .onShutdown => true
  | _ => false

section Machine

variable {cfg : Config} {c : Control} {e : Event} {log rest : List Event}

theorem not_last_of_loop (hm : e.moves = false) (hnew : e.isNew = true) (h : c.allows cfg e) :
    c.phase.isLast = false := by
  obtain ⟨phase, running, source, worker, states, sockets, calls, losses⟩ := c
  cases e with
  | newSource s =>
    obtain ⟨⟨fd, rfl⟩, -⟩ := h
    rfl
  | spawn t =>
    obtain ⟨⟨fd, rfl⟩, -⟩ := h
    rfl
  | destroy t =>
    obtain ⟨⟨fd, rfl⟩, -⟩ := h
    rfl
  | _ => first | (cases hm; done) | cases hnew

theorem isLast_step (h : c.phase.isLast = true) (hallows : c.allows cfg e) :
    e.isNew = false ∧ (c.step e).phase.isLast = true := by
  cases hm : e.moves with
  | false =>
    rw [phase_of_not_moves hm]
    refine ⟨?_, h⟩
    cases hnew : e.isNew with
    | false => rfl
    | true =>
      rw [not_last_of_loop hm hnew hallows] at h
      cases h
  | true =>
    have goes := goes_of_allows hm hallows
    generalize c.phase = p at goes h
    generalize (c.step e).phase = q at goes
    cases goes <;> first | exact ⟨rfl, rfl⟩ | cases h

theorem isLast_after (h : c.phase.isLast = true) (haccepts : (machine cfg).Accepts c rest) :
    (∀ e ∈ rest, e.isNew = false) ∧ ((machine cfg).after c rest).phase.isLast = true := by
  induction rest generalizing c with
  | nil => exact ⟨List.forall_mem_nil _, h⟩
  | cons e rest ih =>
    obtain ⟨hallows, hrest⟩ := haccepts
    obtain ⟨hnew, hlast⟩ := isLast_step h hallows
    obtain ⟨hall, hend⟩ := ih hlast hrest
    exact ⟨List.forall_mem_cons.mpr ⟨hnew, hall⟩, hend⟩

theorem isLast_of_shutdown {past : List Event} (hs : e.isShutdown = true)
    (h : (machine cfg).Accepts {} (past ++ e :: rest)) :
    (∀ e ∈ rest, e.isNew = false) ∧
      ((machine cfg).after {} (past ++ e :: rest)).phase.isLast = true := by
  cases e with
  | dispatch env =>
    obtain ⟨ht, hc⟩ : env.msgType = .lifecycle ∧ env.command = .shutdown := of_decide_eq_true hs
    rw [Monitor.accepts_append] at h
    obtain ⟨-, ⟨fd, hphase⟩, hrest⟩ := h
    rw [Monitor.after_append, Monitor.after_cons]
    refine isLast_after ?_ hrest
    have hreaction : reaction env = .ok true := by simp [reaction, ht, hc]
    show (Control.step _ (.dispatch env)).phase.isLast = true
    rw [step_phase, hphase]
    show (Phase.dispatched fd env).isLast = true
    rw [Phase.dispatched, hreaction]
    rfl
  | _ => cases hs

def Event.renew (source : Nat) : Event → Nat
  | .newSource s => s
  | _ => source

def stopSource (log : List Event) : Nat := log.foldl Event.renew 0

/-- What an event makes of the descriptor of the last connection. -/
def Event.link (fd : Option Nat) : Event → Option Nat
  | .connect fd' _ => some fd'
  | _ => fd

def connection (log : List Event) : Option Nat := log.foldl Event.link none

def Phase.talks : Phase → Option Nat
  | .connected fd | .accepted fd | .looping fd | .reading fd | .received fd _ | .ending fd
  | .joining fd | .shut fd => some fd
  | _ => none

theorem talks_step (hallows : c.allows cfg e) {fd : Nat} (h : (c.step e).phase.talks = some fd) :
    e.link c.phase.talks = some fd := by
  cases hm : e.moves with
  | false =>
    rw [phase_of_not_moves hm] at h
    cases e <;> first | exact h | cases hm
  | true =>
    have goes := goes_of_allows hm hallows
    generalize c.phase = p at goes
    generalize (c.step e).phase = q at goes h
    cases goes with
    | reply fd' result =>
      unfold Phase.answered at h
      split at h
      · exact h
      · cases h
    | dispatch fd' env =>
      unfold Phase.dispatched at h
      split at h <;> first | exact h | cases h
    | throws ex fd' =>
      have hleft := left_caught ex
      generalize Phase.caught ex = q at hleft h
      cases hleft <;> cases h
    | _ => first | exact h | cases h

structure Recalled (log : List Event) (c : Control) : Prop where
  worker : c.worker = placed log
  source : c.source = stopSource log
  connection : ∀ fd, c.phase.talks = some fd → connection log = some fd

theorem Recalled.next (h : Recalled log c) (hallows : c.allows cfg e) :
    Recalled (log ++ [e]) (c.step e) where
  worker := by rw [step_worker, placed_concat, h.worker]
  source := by
    rw [stopSource, List.foldl_append, ← stopSource, ← h.source]
    cases e <;> rfl
  connection := by
    intro fd hfd
    have hlink := talks_step hallows hfd
    rw [Cpp.connection, List.foldl_append, ← Cpp.connection]
    cases e with
    | connect fd' link => exact hlink
    | _ => exact h.connection fd hlink

theorem recalled (h : (machine cfg).Accepts {} log) :
    Recalled log ((machine cfg).after {} log) := by
  apply h.induction Recalled
  case start => exact ⟨rfl, rfl, fun _ h => by cases h⟩
  case next => exact fun _ _ _ ih hallows => ih.next hallows

end Machine

def own (log : List Event) : List Event := log.filter fun e => !e.foreign

@[simp] theorem own_append (log log' : List Event) : own (log ++ log') = own log ++ own log' :=
  List.filter_append log log'

theorem own_stop (w : World) (s : StopStep) : own (w.stop s).trace = own w.trace := by
  cases s with
  | clear =>
    show own (w.trace ++ [.stopClears]) = own w.trace
    rw [own_append]
    exact List.append_nil _
  | request =>
    unfold World.stop
    dsimp only
    split
    · rfl
    · show own (w.trace ++ [.stopRequests w.source]) = own w.trace
      rw [own_append]
      exact List.append_nil _

theorem own_interfere (th : Threads) (w : World) : own (w.interfere th).trace = own w.trace :=
  interfere_induction (I := fun w' => own w'.trace = own w.trace)
    (fun w' s h => (own_stop w' s).trans h) rfl

theorem own_act {e : Event} (h : e.foreign = false) (th : Threads) (w : World) :
    own (w.act th e).trace = own w.trace ++ [e] := by
  have hone : own [e] = [e] := by simp [own, h]
  show own ((w.interfere th).trace ++ [e]) = own w.trace ++ [e]
  rw [own_append, own_interfere, hone]

structure Control.Same (c d : Control) : Prop where
  phase : d.phase = c.phase
  source : d.source = c.source
  worker : d.worker = c.worker

theorem Control.Same.allows {cfg : Config} {c d : Control} {e : Event} (hsame : c.Same d)
    (hnew : e.isNew = false) (hforeign : e.foreign = false) (h : c.allows cfg e) :
    d.allows cfg e := by
  obtain ⟨hphase, hsource, hworker⟩ := hsame
  cases e <;> first
    | (cases hnew; done)
    | (cases hforeign; done)
    | trivial
    | (simp only [Control.allows, hphase, hsource, hworker] at h ⊢; exact h)

theorem Control.Same.step {c d : Control} {e : Event} (hsame : c.Same d) :
    (c.step e).Same (d.step e) where
  phase := by rw [step_phase, step_phase, hsame.phase]
  source := by cases e <;> first | rfl | exact hsame.source
  worker := by rw [step_worker, step_worker, hsame.worker]

theorem Control.Same.foreign {c d : Control} {e : Event} (hsame : c.Same d)
    (h : e.foreign = true) : (c.step e).Same d := by
  have hm : e.moves = false := by cases e <;> first | rfl | cases h
  refine ⟨by rw [phase_of_not_moves hm, hsame.phase], ?_, ?_⟩
  · cases e <;> first | exact hsame.source | cases h
  · cases e <;> first | exact hsame.worker | cases h

theorem own_accepts {cfg : Config} {c d : Control} {rest : List Event} (hsame : c.Same d)
    (h : (machine cfg).Accepts c rest) (hnew : ∀ e ∈ rest, e.isNew = false) :
    (machine cfg).Accepts d (own rest) := by
  induction rest generalizing c d with
  | nil => trivial
  | cons e rest ih =>
    obtain ⟨hallows, hrest⟩ := h
    obtain ⟨hnow, hnew⟩ := List.forall_mem_cons.mp hnew
    cases hforeign : e.foreign with
    | true =>
      have hskip : own (e :: rest) = own rest := List.filter_cons_of_neg (by simp [hforeign])
      rw [hskip]
      exact ih (hsame.foreign hforeign) hrest hnew
    | false =>
      have hkeep : own (e :: rest) = e :: own rest := List.filter_cons_of_pos (by simp [hforeign])
      rw [hkeep]
      exact ⟨hsame.allows hnow hforeign hallows, ih hsame.step hrest hnew⟩

/-- What the wait for a worker leaves, which there may be none of. -/
def joins (source : Nat) : Option Nat → List Event
  | none => []
  | some t => [.requestStop source, .join t, .joined t]

def closing (source : Nat) (worker : Option Nat) (notice : Envelope) (result : WriteResult) :
    List Event :=
  joins source worker ++ [.onShutdown, .write notice result, .store .shutdown]

/-- The event that leads to a shutdown, and what is written before it. -/
inductive Leads : Event → List Event → Prop
  | stopped : Leads (.head false) []
  | unread (e : Exception) : Leads (.recv (.error e)) []
  | shutdown (env ack : Envelope) (result : WriteResult) :
      env.msgType = .lifecycle → env.command = .shutdown →
      ack.msgType = .control → ack.command = .ack → ack.correlationId = some env.messageId →
      Leads (.dispatch env) [.write ack result]

def Shut (es : List Event) (w : World) : Prop :=
  w.state = .shutdown ∧ ∃ (source : Nat) (worker : Option Nat) (notice : Envelope)
    (result : WriteResult), notice.msgType = .lifecycle ∧ notice.command = .shutdown ∧
      own w.trace = es ++ closing source worker notice result

/-- After `es` the shutdown waits for a worker that does not return. -/
def Waits (th : Threads) (es : List Event) (w : World) : Prop :=
  ∃ source t, own w.trace = es ++ [.requestStop source, .join t] ∧
    ∀ step, th.fate t ≠ .returns step

/-- After `es` the event `lead` leads to a shutdown that is complete. -/
def Closed (es : List Event) (lead : Event) (w : World) : Prop :=
  ∃ ws, Leads lead ws ∧ Shut (es ++ lead :: ws) w

/-- After `es` the event `lead` leads to a shutdown that hangs. -/
def Stalled (th : Threads) (es : List Event) (lead : Event) (w : World) : Prop :=
  ∃ ws, Leads lead ws ∧ Waits th (es ++ lead :: ws) w

def Destroys (w : World) : Prop := ∃ xs t, own w.trace = xs ++ [.destroy t]

def Sticks (th : Threads) (w : World) : Prop := (∃ xs lead, Stalled th xs lead w) ∨ Destroys w

/-- What is said of a message after `es` is how it stops the loop. -/
def Stops (es : List Event) (env : Envelope) (stop : Bool) (w : World) : Prop :=
  stop = true → Closed es (.dispatch env) w

def OnHang (P : World → Prop) : Fault → World → Prop
  | .exception _, _ => True
  | .hang, w => P w

section Functions

variable {rt : Runtime} {cfg : Config} {th : Threads} {es : List Event}
  {P : World → Prop} {E : Fault → World → Prop}

theorem emit_own {e : Event} (h : e.foreign = false) :
    Triple (fun w => own w.trace = es) (emit th e) (fun _ w => own w.trace = es ++ [e]) E := by
  intro w hw
  show own (w.act th e).trace = es ++ [e]
  rw [own_act h, hw]

theorem make_own (type : MessageType) (cmd : Command) (payload : Json) :
    Triple (fun w => own w.trace = es) (make rt cfg type cmd payload)
      (fun env w => own w.trace = es ∧ env.msgType = type ∧ env.command = cmd) E :=
  fun _ hw => ⟨hw, rfl, rfl⟩

theorem sendEnvelope_own (env : Envelope) :
    Triple (fun w => own w.trace = es) (sendEnvelope th env)
      (fun _ w => ∃ result, own w.trace = es ++ [.write env result]) E := by
  intro w hw
  refine ⟨w.writes.headD .complete, ?_⟩
  have hown : own ({ w with writes := w.writes.tail } : World).trace = es := hw
  exact (own_act rfl th _).trans (by rw [hown])

theorem waitFor_own (t : Nat) :
    Triple (fun w => own w.trace = es) (waitFor th t) (fun _ w => own w.trace = es)
      (OnHang fun w => own w.trace = es ∧ ∀ step, th.fate t ≠ .returns step) := by
  intro w hw
  obtain hok | ⟨hhang, hfate, -⟩ := waitFor_cases th t w
  · rw [hok]
    exact hw
  · rw [hhang]
    exact ⟨(own_interfere th w).trans hw, hfate⟩

theorem requestStop_own :
    Triple (fun w => own w.trace = es) (requestStop th)
      (fun _ w => ∃ source, own w.trace = es ++ [.requestStop source]) E := by
  intro w hw
  exact ⟨w.source, (own_act rfl th w).trans (by rw [hw])⟩

theorem joinWorker_own (worker : Option Nat) :
    Triple (fun w => own w.trace = es) (joinWorker th worker)
      (fun _ w => ∃ source, own w.trace = es ++ joins source worker)
      (OnHang (Waits th es)) := by
  cases worker with
  | none =>
    intro w hw
    exact ⟨0, hw.trans (List.append_nil _).symm⟩
  | some t =>
    refine requestStop_own.bind fun _ => Triple.exists fun source => ?_
    refine (emit_own rfl).bind fun _ => ?_
    have waited : Triple (fun w => own w.trace = es ++ [.requestStop source] ++ [.join t])
        (waitFor th t) (fun _ w => own w.trace = es ++ [.requestStop source] ++ [.join t])
        (OnHang (Waits th es)) := by
      refine (waitFor_own t).weaken (fun _ hw => hw) (fun _ _ hw => hw) fun f w h => ?_
      cases f with
      | exception e => trivial
      | hang =>
        obtain ⟨hown, hfate⟩ := h
        exact ⟨source, t, by rw [hown, List.append_assoc]; rfl, hfate⟩
    refine waited.bind fun _ => (emit_own rfl).bind fun _ w hw => ⟨source, ?_⟩
    show own w.trace = es ++ joins source (some t)
    rw [hw, List.append_assoc, List.append_assoc]
    rfl

theorem store_own (s : ComponentState) :
    Triple (fun w => own w.trace = es) (store th s)
      (fun _ w => w.state = s ∧ own w.trace = es ++ [.store s]) E :=
  (emit_own rfl).bind fun _ _ hw => ⟨rfl, hw⟩

theorem gracefulShutdown_own :
    Triple (fun w => own w.trace = es) (gracefulShutdown rt cfg th) (fun _ => Shut es)
      (OnHang (Waits th es)) := by
  refine Triple.get.bind fun w₀ => ?_
  have joined : Triple (fun w => w₀ = w ∧ own w.trace = es) (joinWorker th w₀.worker)
      (fun _ w => ∃ source, own w.trace = es ++ joins source w₀.worker) (OnHang (Waits th es)) :=
    (joinWorker_own w₀.worker).weaken (fun _ hw => hw.2) (fun _ _ hw => hw) fun _ _ hw => hw
  refine joined.bind fun _ => Triple.exists fun source => (emit_own rfl).bind fun _ =>
    (make_own _ _ _).bind fun notice => Triple.assume fun hnotice => ?_
  refine (sendEnvelope_own notice).bind fun _ => Triple.exists fun result => ?_
  refine (store_own .shutdown).weaken (fun _ h => h) (fun _ w h => ?_) fun _ _ h => h
  obtain ⟨hstate, hown⟩ := h
  refine ⟨hstate, source, w₀.worker, notice, result, hnotice.1, hnotice.2, ?_⟩
  rw [hown]
  simp only [closing, List.append_assoc]
  rfl

theorem sendAck_own {env : Envelope} (ht : env.msgType = .lifecycle)
    (hc : env.command = .shutdown) :
    Triple (fun w => own w.trace = es) (sendAck rt cfg th env.messageId)
      (fun _ w => ∃ ws, own w.trace = es ++ ws ∧ Leads (.dispatch env) ws) E := by
  refine (make_own _ _ _).bind fun ack => Triple.assume fun hack => ?_
  refine (sendEnvelope_own _).weaken (fun _ h => h) (fun _ w h => ?_) fun _ _ h => h
  obtain ⟨result, hown⟩ := h
  exact ⟨_, hown, .shutdown env _ result ht hc hack.1 hack.2 rfl⟩

theorem gracefulShutdown_led {lead : Event} {ws : List Event} (h : Leads lead ws) :
    Triple (fun w => own w.trace = es ++ lead :: ws) (gracefulShutdown rt cfg th)
      (fun _ => Closed es lead) (OnHang (Stalled th es lead)) := by
  refine gracefulShutdown_own.weaken (fun _ hw => hw) (fun _ _ hw => ⟨ws, h, hw⟩) fun f _ hf => ?_
  cases f with
  | exception e => trivial
  | hang => exact ⟨ws, h, hf⟩

theorem handleLifecycle_own {env : Envelope} (ht : env.msgType = .lifecycle) :
    Triple (fun w => own w.trace = es ++ [.dispatch env]) (handleLifecycle rt cfg th env)
      (Stops es env) (OnHang fun w => Stalled th es (.dispatch env) w ∨ Destroys w) := by
  unfold handleLifecycle
  by_cases hc : env.command = .shutdown
  case neg =>
    rw [if_neg hc]
    intro w _ h
    cases h
  rw [if_pos hc]
  refine (sendAck_own ht hc).bind fun _ => Triple.exists fun ws => Triple.assume fun hleads => ?_
  refine Triple.bind (Q := fun _ => Closed es (.dispatch env)) ?_ fun _ _ h _ => h
  refine (gracefulShutdown_led hleads).weaken (fun w hw => ?_) (fun _ _ h => h) fun f _ hf => ?_
  · rw [hw, List.append_assoc]
    rfl
  · cases f with
    | exception e => trivial
    | hang => exact .inl hf

def Quiet {α : Type} (x : Task α) : Prop :=
  Triple (fun _ => True) x (fun _ _ => True)
    (OnHang Destroys)

theorem quiet_of_ok {α : Type} {x : Task α} (h : ∀ w, ∃ a w', x w = .ok a w') : Quiet x := by
  intro w _
  obtain ⟨a, w', hx⟩ := h w
  rw [hx]
  trivial

theorem Quiet.bind {α β : Type} {x : Task α} {f : α → Task β} (hx : Quiet x)
    (hf : ∀ a, Quiet (f a)) : Quiet (x >>= f) :=
  Triple.bind hx hf

theorem quiet_emit (e : Event) : Quiet (emit th e) := quiet_of_ok fun _ => ⟨_, _, rfl⟩

theorem quiet_make (type : MessageType) (cmd : Command) (payload : Json) :
    Quiet (make rt cfg type cmd payload) :=
  quiet_of_ok fun _ => ⟨_, _, rfl⟩

theorem quiet_sendEnvelope (env : Envelope) : Quiet (sendEnvelope th env) :=
  quiet_of_ok fun _ => ⟨_, _, rfl⟩

theorem quiet_modify (f : World → World) : Quiet (modify f : Task Unit) :=
  quiet_of_ok fun _ => ⟨_, _, rfl⟩

theorem quiet_pure {α : Type} (a : α) : Quiet (pure a : Task α) :=
  quiet_of_ok fun _ => ⟨_, _, rfl⟩

theorem quiet_get : Quiet (get : Task World) := quiet_of_ok fun _ => ⟨_, _, rfl⟩

theorem quiet_ofExcept {α : Type} (x : Except Exception α) : Quiet (ofExcept x) := by
  cases x with
  | ok a => exact quiet_pure a
  | error e => exact fun _ _ => trivial

theorem quiet_sendStateUpdate (s : ComponentState) : Quiet (sendStateUpdate rt cfg th s) :=
  (quiet_make _ _ _).bind fun _ => (quiet_sendEnvelope _).bind fun _ =>
    (quiet_emit _).bind fun _ => quiet_modify _

theorem quiet_destroyWorker (worker : Option Nat) : Quiet (destroyWorker th worker) := by
  cases worker with
  | none => exact quiet_pure ()
  | some t =>
    intro w _
    have recorded : own (w.act th (.destroy t)).trace = own w.trace ++ [.destroy t] :=
      own_act rfl th w
    have waited : Triple (fun w' => own w'.trace = own w.trace ++ [.destroy t]) (waitFor th t)
        (fun _ w' => own w'.trace = own w.trace ++ [.destroy t])
        (OnHang fun w' => own w'.trace = own w.trace ++ [.destroy t] ∧
          ∀ step, th.fate t ≠ .returns step) := waitFor_own t
    refine waited.weaken (fun _ h => h) (fun _ _ _ => trivial) (fun f _ hf => ?_) _ recorded
    cases f with
    | exception e => trivial
    | hang => exact ⟨_, t, hf.1⟩

theorem quiet_handleConfig (env : Envelope) : Quiet (handleConfig rt cfg th env) := by
  unfold handleConfig
  split
  case isFalse => exact quiet_pure ()
  refine (quiet_ofExcept _).bind fun found => (quiet_emit _).bind fun _ => ?_
  refine ((quiet_make _ _ _).bind fun _ => quiet_sendEnvelope _).bind fun _ => ?_
  refine (quiet_sendStateUpdate _).bind fun _ => (quiet_sendStateUpdate _).bind fun _ => ?_
  refine (quiet_get.bind fun _ => (quiet_emit _).bind fun _ => quiet_modify _).bind fun _ => ?_
  exact quiet_get.bind fun _ => (quiet_emit _).bind fun _ => (quiet_modify _).bind fun _ =>
    quiet_destroyWorker _

theorem quiet_handleHeartbeat (env : Envelope) : Quiet (handleHeartbeat rt cfg th env) := by
  unfold handleHeartbeat
  split
  · exact (quiet_emit _).bind fun _ => quiet_get.bind fun _ => (quiet_make _ _ _).bind fun _ =>
      quiet_sendEnvelope _
  · exact quiet_pure ()

theorem quiet_handleErrorMsg (env : Envelope) : Quiet (handleErrorMsg th env) :=
  (quiet_ofExcept _).bind fun _ => (quiet_emit _).bind fun _ => quiet_pure _

theorem stops_of_not {x : Task Bool} (hx : Triple (fun _ => True) x (fun stop _ => stop = false)
    (OnHang Destroys)) (es : List Event) (env : Envelope) :
    Triple P x (Stops es env)
      (OnHang fun w => Stalled th es (.dispatch env) w ∨ Destroys w) := by
  refine hx.weaken (fun _ _ => trivial) (fun stop w hstop h => ?_) fun f _ hf => ?_
  · rw [hstop] at h
    cases h
  · cases f with
    | exception e => trivial
    | hang => exact .inr hf

theorem dispatch_own (env : Envelope) :
    Triple (fun w => own w.trace = es ++ [.dispatch env]) (dispatch rt cfg th env)
      (Stops es env) (OnHang fun w => Stalled th es (.dispatch env) w ∨ Destroys w) := by
  unfold dispatch
  split
  case h_1 => exact stops_of_not (Triple.bind (quiet_handleHeartbeat env) fun _ _ _ => rfl) es env
  case h_2 => exact stops_of_not (Triple.bind (quiet_handleConfig env) fun _ _ _ => rfl) es env
  case h_3 ht => exact handleLifecycle_own ht
  case h_4 =>
    refine stops_of_not (Triple.bind (quiet_handleErrorMsg env) fun fatal => ?_) es env
    cases fatal with
    | true => exact fun _ _ => trivial
    | false => exact fun _ _ => rfl
  case h_5 => exact stops_of_not (fun _ _ => rfl) es env

theorem loopHead_own :
    Triple (fun w => own w.trace = es) (loopHead th)
      (fun running w => own w.trace = es ++ [.head running]) E := by
  intro w hw
  have recorded : own (w.act th (.head (w.interfere th).running)).trace =
      own w.trace ++ [.head (w.interfere th).running] := own_act rfl th w
  rw [hw] at recorded
  exact recorded

theorem messageLoop_own (lines : List (List UInt8)) :
    Triple (fun w => own w.trace = es) (messageLoop rt cfg th lines)
      (fun _ w => ∃ xs lead, Closed xs lead w)
      (OnHang (Sticks th)) := by
  have shuts {es : List Event} {lead : Event} (h : Leads lead []) :
      Triple (fun w => own w.trace = es ++ [lead]) (gracefulShutdown rt cfg th)
        (fun _ w => ∃ xs lead, Closed xs lead w)
        (OnHang (Sticks th)) := by
    refine (gracefulShutdown_led h).weaken (fun _ hw => hw) (fun _ _ hw => ⟨es, lead, hw⟩)
      fun f _ hf => ?_
    cases f with
    | exception e => trivial
    | hang => exact .inl ⟨es, lead, hf⟩
  induction lines generalizing es with
  | nil =>
    refine loopHead_own.bind fun running => ?_
    cases running with
    | true => exact (emit_own rfl).bind fun _ => shuts (.unread _)
    | false => exact shuts .stopped
  | cons line rest ih =>
    refine loopHead_own.bind fun running => ?_
    cases running with
    | false => exact shuts .stopped
    | true =>
      refine (emit_own rfl).bind fun _ => ?_
      cases recvEnvelope rt line with
      | error e => exact shuts (.unread e)
      | ok env =>
        refine (emit_own rfl).bind fun _ => ?_
        have dispatched : Triple
            (fun w => own w.trace = es ++ [.head true] ++ [.recv (.ok env)] ++ [.dispatch env])
            (dispatch rt cfg th env) (Stops (es ++ [.head true] ++ [.recv (.ok env)]) env)
            (OnHang (Sticks th)) := by
          refine (dispatch_own env).weaken (fun _ h => h) (fun _ _ h => h) fun f _ hf => ?_
          cases f with
          | exception e => trivial
          | hang => exact hf.imp_left fun h => ⟨_, _, h⟩
        refine dispatched.bind fun stop => ?_
        cases stop with
        | true => exact fun w hw => ⟨_, _, hw rfl⟩
        | false => exact fun w _ => ih w rfl

/-- After `es` the event `lead` has led to a shutdown, and `run` returns. -/
structure Finished (es : List Event) (lead : Event) (ws : List Event) (w : World) : Prop where
  leads : Leads lead ws
  state : w.state = .shutdown
  trace : ∃ (source : Nat) (worker : Option Nat) (notice : Envelope) (result : WriteResult)
    (fd : Nat), notice.msgType = .lifecycle ∧ notice.command = .shutdown ∧
      own w.trace =
        es ++ lead :: (ws ++ closing source worker notice result ++ [.close fd, .left])

theorem interfere_state (th : Threads) (w : World) : (w.interfere th).state = w.state := by
  refine interfere_induction (I := fun w' => w'.state = w.state) (fun w' s h => ?_) rfl
  rw [← h]
  cases s with
  | clear => rfl
  | request =>
    unfold World.stop
    dsimp only
    split <;> rfl

theorem Closed.left {lead : Event} {w : World} (h : Closed es lead w) (fd : Nat) :
    ∃ ws, Finished es lead ws ((w.act th (.close fd)).act th .left) := by
  obtain ⟨ws, hleads, hstate, source, worker, notice, result, ht, hc, hown⟩ := h
  refine ⟨ws, hleads, ?_, source, worker, notice, result, fd, ht, hc, ?_⟩
  · show ((w.act th (.close fd)).interfere th).state = .shutdown
    rw [interfere_state]
    show (w.interfere th).state = .shutdown
    rw [interfere_state, hstate]
  · rw [own_act rfl, own_act rfl, hown]
    simp

theorem Quiet.next {α β : Type} {x : Task α} {f : α → Task β} {Q : β → World → Prop}
    (hx : Quiet x) (hf : ∀ a, Triple (fun _ => True) (f a) Q (OnHang (Sticks th))) :
    Triple (fun _ => True) (x >>= f) Q (OnHang (Sticks th)) := by
  refine Triple.bind (Triple.weaken hx (fun _ h => h) (fun _ _ h => h) fun f _ hf => ?_) hf
  cases f with
  | exception e => trivial
  | hang => exact .inr hf

theorem quiet_accept (resp : Envelope) : Quiet (accept th resp) := by
  unfold accept
  split
  · exact fun _ _ => trivial
  · exact (quiet_ofExcept _).bind fun _ => (quiet_modify _).bind fun _ =>
      (quiet_ofExcept _).bind fun _ => (quiet_modify _).bind fun _ => (quiet_emit _).bind fun _ =>
        quiet_modify _

theorem quiet_doRegister (lines : List (List UInt8)) : Quiet (doRegister rt cfg th lines) :=
  (quiet_make _ _ _).bind fun _ => (quiet_sendEnvelope _).bind fun _ => (quiet_emit _).bind fun _ =>
    (quiet_ofExcept _).bind fun _ => quiet_accept _

theorem runOnce_own (link : Link) :
    Triple (fun _ => True) (runOnce rt cfg th link)
      (fun _ w => ∃ xs lead fd w', Closed xs lead w' ∧ w = w'.act th (.close fd))
      (OnHang (Sticks th)) := by
  unfold runOnce
  split
  case isFalse => exact (quiet_emit _).next fun _ _ _ => trivial
  refine Quiet.next (quiet_get.bind fun _ => (quiet_emit _).bind fun _ =>
    (quiet_modify _).bind fun _ => quiet_pure _) fun fd => ?_
  split
  case isFalse => exact (quiet_emit _).next fun _ => (quiet_emit _).next fun _ _ _ => trivial
  refine (quiet_emit _).next fun _ => (quiet_modify _).next fun _ => (quiet_doRegister _).next
    fun _ => ((quiet_emit _).bind fun _ => quiet_modify _).next fun _ => ?_
  have looped : Triple (fun _ => True) (messageLoop rt cfg th (received [] link.reads).tail)
      (fun _ w => ∃ xs lead, Closed xs lead w) (OnHang (Sticks th)) :=
    fun w _ => messageLoop_own _ w rfl
  refine looped.bind fun _ w h => ?_
  obtain ⟨xs, lead, hclosed⟩ := h
  exact ⟨xs, lead, fd, w, hclosed, rfl⟩

theorem turn_own (n : Nat) (link : Link) (w : World) :
    ((turn rt cfg th n link w).1 = some .returned →
      ∃ xs lead ws, Finished xs lead ws (turn rt cfg th n link w).2) ∧
    ((turn rt cfg th n link w).1 = some .hung → Sticks th (turn rt cfg th n link w).2) := by
  have once : Triple (fun _ => True) (runOnce rt cfg th link)
      (fun _ w => ∃ xs lead fd w', Closed xs lead w' ∧ w = w'.act th (.close fd))
      (OnHang (Sticks th)) := runOnce_own link
  unfold turn
  cases h : runOnce rt cfg th link w with
  | ok _ w' =>
    obtain ⟨xs, lead, fd, w', hclosed, rfl⟩ := once.ok trivial h
    obtain ⟨ws, finished⟩ := hclosed.left fd
    exact ⟨fun _ => ⟨xs, lead, ws, finished⟩, by simp⟩
  | error f w' =>
    cases f with
    | hang => exact ⟨by simp, fun _ => once.error trivial h⟩
    | exception e =>
      cases e with
      | json id => exact ⟨by simp, by simp⟩
      | runtimeError what =>
        dsimp only
        split
        · exact ⟨by simp, by simp⟩
        · split
          · exact ⟨by simp, by simp⟩
          · split <;> exact ⟨by simp, by simp⟩

variable (rt cfg th) in
/-- How a run that returns has ended, and where one that hangs does. -/
theorem run_own (links : List Link) :
    ((run rt cfg th links).1 = some .returned →
      ∃ xs lead ws, Finished xs lead ws (run rt cfg th links).2) ∧
    ((run rt cfg th links).1 = some .hung → Sticks th (run rt cfg th links).2) := by
  refine Loop.run_induction (I := fun _ _ => True)
    (Q := fun o w => (o = some Outcome.returned → ∃ xs lead ws, Finished xs lead ws w) ∧
      (o = some Outcome.hung → Sticks th w)) _ ?_ ?_ ?_ links trivial
  · exact fun _ _ _ _ _ => trivial
  · exact fun n link w _ _ => turn_own n link w
  · exact fun _ _ _ => ⟨by simp, by simp⟩

end Functions

/-- What is left of a run after a SHUTDOWN that comes after `past`, and how the run ends. The
worker in place, the source and the connection are those of `past`. -/
inductive Rest (th : Threads) (past : List Event) (env : Envelope) :
    Option Outcome → List Event → Prop
  | returns {ack notice : Envelope} (result result' : WriteResult) {fd : Nat} :
      connection past = some fd →
      ack.msgType = .control → ack.command = .ack → ack.correlationId = some env.messageId →
      notice.msgType = .lifecycle → notice.command = .shutdown →
      Rest th past env (some .returned) (.write ack result ::
        (closing (stopSource past) (placed past) notice result' ++ [.close fd, .left]))
  | hangs {ack : Envelope} (result : WriteResult) {t : Nat} : placed past = some t →
      ack.msgType = .control → ack.command = .ack → ack.correlationId = some env.messageId →
      (∀ step, th.fate t ≠ .returns step) →
      Rest th past env (some .hung) [.write ack result, .requestStop (stopSource past), .join t]

/-- A shutdown waits for the worker in place and closes the connection that is open. -/
theorem closing_accepts {cfg : Config} {c : Control} {fd fd' source : Nat}
    {worker : Option Nat} {ack notice : Envelope} {result result' : WriteResult}
    (hphase : c.phase = .ending fd)
    (h : (machine cfg).Accepts c (.write ack result ::
      (closing source worker notice result' ++ [.close fd', .left]))) :
    fd' = fd ∧ closing source worker notice result' = closing c.source c.worker notice result' := by
  obtain ⟨phase, running, source', worker', states, sockets, calls, losses⟩ := c
  obtain rfl : phase = .ending fd := hphase
  cases worker with
  | none =>
    obtain ⟨-, ⟨-, hnone⟩, -, -, hclose, -⟩ := h
    obtain hclose | hclose : Phase.shut fd = .refused fd' ∨ Phase.shut fd = .shut fd' := hclose
    · cases hclose
    · obtain rfl : worker' = none := hnone
      exact ⟨(Phase.shut.inj hclose).symm, rfl⟩
  | some t =>
    obtain ⟨-, hsource, ⟨-, hjoin⟩, -, -, -, -, hclose, -⟩ := h
    obtain hclose | hclose : Phase.shut fd = .refused fd' ∨ Phase.shut fd = .shut fd' := hclose
    · cases hclose
    · obtain rfl : source = source' := hsource
      obtain rfl : worker' = some t := hjoin
      exact ⟨(Phase.shut.inj hclose).symm, rfl⟩

theorem Leads.isNew {lead : Event} {ws : List Event} (h : Leads lead ws) :
    lead.isNew = true ∧ ∀ e ∈ ws, e.isNew = false := by
  cases h with
  | stopped => exact ⟨rfl, List.forall_mem_nil _⟩
  | unread e => exact ⟨rfl, List.forall_mem_nil _⟩
  | shutdown env ack result => exact ⟨rfl, List.forall_mem_singleton.mpr rfl⟩

theorem closing_not_new (source : Nat) (worker : Option Nat) (notice : Envelope)
    (result : WriteResult) : ∀ e ∈ closing source worker notice result, e.isNew = false := by
  cases worker <;> simp [closing, joins, Event.isNew]

/-- Where SIGPIPE is ignored, what a run does after a SHUTDOWN is settled: it acknowledges the
message, waits for the worker in place, calls `on_shutdown`, says goodbye, closes the connection
and returns, or it waits for a worker that does not return. -/
theorem shutdown_final (rt : Runtime) (cfg : Config) (th : Threads) (links : List Link)
    {past rest : List Event} {env : Envelope} (ht : env.msgType = .lifecycle)
    (hc : env.command = .shutdown)
    (htrace : (run rt cfg th links).2.trace = past ++ .dispatch env :: rest) :
    Rest th past env (run rt cfg th links).1 (own rest) := by
  have ended : Ended cfg th (run rt cfg th links).1 (run rt cfg th links).2 := run_at links
  have hs : (Event.dispatch env).isShutdown = true := decide_eq_true ⟨ht, hc⟩
  obtain ⟨hreturned, hhung⟩ := run_own rt cfg th links
  generalize (run rt cfg th links).1 = o at ended hreturned hhung ⊢
  generalize (run rt cfg th links).2 = w at ended hreturned hhung htrace
  obtain ⟨hrest, hlast⟩ := isLast_of_shutdown hs (htrace ▸ ended.accepted)
  rw [← htrace] at hlast
  have hown : own w.trace = own past ++ .dispatch env :: own rest := by
    rw [htrace, own_append]
    rfl
  have hquiet : ∀ e ∈ own rest, e.isNew = false := fun e he => hrest e (List.mem_filter.mp he).1
  obtain ⟨hpast, ⟨fd, hphase⟩, haccepts⟩ :=
    ((machine cfg).accepts_append {} past (.dispatch env :: rest)).mp (htrace ▸ ended.accepted)
  have known := recalled hpast
  have hfd : connection past = some fd := known.connection fd (by rw [hphase]; rfl)
  have hending : (((machine cfg).after {} past).step (.dispatch env)).phase = .ending fd := by
    rw [step_phase, hphase]
    show Phase.dispatched fd env = .ending fd
    simp [Phase.dispatched, reaction, ht, hc]
  have hrecorded := own_accepts ⟨rfl, rfl, rfl⟩ haccepts hrest
  cases ended with
  | waits hat => rw [hat.control] at hlast; cases hlast
  | rejected hat => rw [hat.control] at hlast; cases hlast
  | reconnectDisabled hat _ => rw [hat.control] at hlast; cases hlast
  | attemptsExhausted hat _ => rw [hat.control] at hlast; cases hlast
  | escaped hat => rw [hat.control] at hlast; cases hlast
  | returned hat =>
    obtain ⟨xs, lead, ws, hleads, -, source, worker, notice, result, fd, htype, hcommand, hend⟩ :=
      hreturned rfl
    obtain ⟨hnew, hws⟩ := hleads.isNew
    have htail : ∀ e ∈ ws ++ closing source worker notice result ++ [.close fd, .left],
        e.isNew = false := by
      refine List.forall_mem_append.mpr ⟨?_, by simp [Event.isNew]⟩
      exact List.forall_mem_append.mpr ⟨hws, closing_not_new source worker notice result⟩
    obtain ⟨rfl, hys⟩ := split_last (hend.symm.trans hown) hnew rfl htail hquiet
    rw [← hys] at hrecorded ⊢
    cases hleads with
    | shutdown env ack result' _ _ hack hack' hid =>
      obtain ⟨rfl, hclosing⟩ := closing_accepts hending hrecorded
      have hsame : closing source worker notice result =
          closing (stopSource past) (placed past) notice result := by
        rw [hclosing, ← known.source, ← known.worker]
        rfl
      show Rest th past env _ (.write ack result' ::
        (closing source worker notice result ++ [.close _, .left]))
      rw [hsame]
      exact .returns result' result hfd hack hack' hid htype hcommand
  | hung stuck =>
    rcases hhung rfl with ⟨xs, lead, ws, hleads, source, t, hend, hfate⟩ | ⟨xs, t, hend⟩
    · obtain ⟨hnew, hws⟩ := hleads.isNew
      have htail : ∀ e ∈ ws ++ [.requestStop source, .join t], e.isNew = false :=
        List.forall_mem_append.mpr ⟨hws, by simp [Event.isNew]⟩
      rw [List.append_assoc] at hend
      obtain ⟨rfl, hys⟩ := split_last (hend.symm.trans hown) hnew rfl htail hquiet
      rw [← hys] at hrecorded ⊢
      cases hleads with
      | shutdown env ack result _ _ hack hack' hid =>
        obtain ⟨-, hsource, ⟨-, hworker⟩, -⟩ := hrecorded
        obtain rfl : source = stopSource past := hsource.trans known.source
        exact .hangs result (known.worker.symm.trans hworker) hack hack' hid hfate
    · obtain ⟨heq, -⟩ := split_last (hend.symm.trans hown) rfl rfl (List.forall_mem_nil _) hquiet
      cases heq

theorem shutdown_final_sample :
    ∃ past rest env, (run Sample.runtime Sample.config {} Sample.orderly).2.trace =
      past ++ .dispatch env :: rest ∧ Rest {} past env (some .returned) (own rest) := by
  have hk : ((run Sample.runtime Sample.config {} Sample.orderly).2.trace[8]?).any
      Event.isShutdown = true := by decide +kernel
  have houtcome : (run Sample.runtime Sample.config {} Sample.orderly).1 = some .returned := by
    decide +kernel
  obtain ⟨e, he, hsplit⟩ := split_of_any hk
  cases e with
  | dispatch env =>
    obtain ⟨ht, hc⟩ : env.msgType = .lifecycle ∧ env.command = .shutdown := of_decide_eq_true he
    have final := shutdown_final Sample.runtime Sample.config {} Sample.orderly ht hc hsplit
    rw [houtcome] at final
    exact ⟨_, _, env, hsplit, final⟩
  | _ => cases he

end AegisSdk.Cpp
