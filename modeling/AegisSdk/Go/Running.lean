import AegisSdk.Go.Configuring

/-!
RUNNING and the worker. `SendStateUpdate` stores the state before the ACK comes, and
`handleConfig` starts `OnRunning` only after the last ACK, so that a failure between the two
leaves one without the other.
-/

set_option autoImplicit false
set_option relaxedAutoImplicit false

namespace AegisSdk.Go

open AegisSdk.Protocol AegisSdk.Library

def Event.found : Event → Option ComponentState
  | .await st _ => some st
  | _ => none

/-- An iteration of `messageLoop` finds the state RUNNING exactly if `OnRunning` has been
started before. -/
def AwaitAgrees (pre : List Event) (e : Event) : Prop :=
  ∀ st ∈ e.found, (st = State.running ↔ pre.any Event.starts = true)

/-- At every iteration of `messageLoop` the state is RUNNING exactly if `OnRunning` has been
started. -/
def RunningMeansStarted (es : List Event) : Prop := Everywhere AwaitAgrees [] es

/-- A CONFIGURE that gets so far leaves the state in agreement with the worker: without a
worker it does not stop at RUNNING, with a worker it does not stop at CONFIGURED. -/
def Completes (started : Bool) : Stage → Prop
  | .nothing => True
  | .configured => started = false
  | .running => started = true
  | .started => True

/-- An accepted CONFIGURE that is dispatched gets so far with what is in store by then. -/
def ConfigureCompletes (handlers : Handlers) (s : Supply) (pre : List Event) (e : Event) : Prop :=
  ∀ m ∈ e.dispatched pre, Accepted handlers m →
    Completes (pre.any Event.starts) (supply.after s pre).stage

/-- Every accepted CONFIGURE of the connection gets to where state and worker agree. -/
def ConfiguresComplete (handlers : Handlers) (link : Link) (es : List Event) : Prop :=
  Everywhere (ConfigureCompletes handlers (store [link])) [] es

instance (pre : List Event) (e : Event) : Decidable (AwaitAgrees pre e) :=
  inferInstanceAs (Decidable (∀ st ∈ e.found, _))
instance (started : Bool) : (p : Stage) → Decidable (Completes started p)
  | .nothing => isTrue trivial
  | .configured => inferInstanceAs (Decidable (_ = _))
  | .running => inferInstanceAs (Decidable (_ = _))
  | .started => isTrue trivial
instance (handlers : Handlers) (s : Supply) (pre : List Event) (e : Event) :
    Decidable (ConfigureCompletes handlers s pre e) :=
  inferInstanceAs (Decidable (∀ m ∈ e.dispatched pre, _ → _))

theorem completes_iff {st : ComponentState} {started : Bool}
    (h : st = State.running ↔ started = true) (p : Stage) :
    Completes started p ↔
      (p.state st = State.running ↔ (started || decide (p = .started)) = true) := by
  have hne : State.configured ≠ State.running := by simp [State.configured, State.running]
  cases p with
  | nothing => simpa [Completes, Stage.state] using h
  | configured => cases started <;> simp [Completes, Stage.state, hne]
  | running => cases started <;> simp [Completes, Stage.state]
  | started => simp [Completes, Stage.state]

section Connection

variable {rt : Runtime} {cfg : Config} {handlers : Handlers} {s : Supply} {c c' : Component}
  {past es : List Event} {v : Verdict}

theorem awaitAgrees_await (st : ComponentState) (ctx : Option CtxErr) :
    AwaitAgrees past (.await st ctx) ↔ (st = State.running ↔ past.any Event.starts = true) := by
  simp [AwaitAgrees, Event.found]

theorem awaitAgrees_of_inner {e : Event} (h : e.outer = false) (pre : List Event) :
    AwaitAgrees pre e := by
  cases e with
  | await => simp [Event.outer] at h
  | _ => simp [AwaitAgrees, Event.found]

theorem configureCompletes_of_inner {e : Event} (h : e.outer = false) (pre : List Event) :
    ConfigureCompletes handlers s pre e := by
  cases e with
  | dispatch => simp [Event.outer] at h
  | _ => simp [ConfigureCompletes, Event.dispatched]

theorem configureCompletes_dispatch (m : Message) :
    ConfigureCompletes handlers s (past ++ [.recv m]) (.dispatch m.env) ↔
      (Accepted handlers m → Completes (past.any Event.starts)
        (supply.after s (past ++ [.recv m])).stage) := by
  simp [ConfigureCompletes, Event.dispatched, Event.received, Event.starts]

variable (handlers s) in
/-- What one message changes: with the events of its reaction nothing is claimed but at its
dispatch. -/
theorem running_iff_step (m : Message) (rest : List Event)
    (inner : ∀ e ∈ es, e.outer = false)
    (hc : c.state = State.running ↔ past.any Event.starts = true) :
    let now := past ++ [.await c.state none]
    let next := now ++ [.recv m] ++ [.dispatch m.env] ++ es
    (Everywhere AwaitAgrees past (.await c.state none :: .recv m :: .dispatch m.env :: (es ++ rest))
      ↔ Everywhere AwaitAgrees next rest) ∧
    (Everywhere (ConfigureCompletes handlers s) past
        (.await c.state none :: .recv m :: .dispatch m.env :: (es ++ rest)) ↔
      (Accepted handlers m → Completes (past.any Event.starts)
        (supply.after s (now ++ [.recv m])).stage) ∧
      Everywhere (ConfigureCompletes handlers s) next rest) := by
  intro now next
  have quiet : now.any Event.starts = past.any Event.starts := by simp [now, Event.starts]
  have received : (Event.recv m).outer = false := rfl
  constructor
  · have dispatched : ∀ pre, AwaitAgrees pre (.dispatch m.env) := by simp [AwaitAgrees, Event.found]
    rw [everywhere_cons, everywhere_cons, everywhere_cons,
      everywhere_skip fun e he => awaitAgrees_of_inner (inner e he), awaitAgrees_await,
      and_iff_right hc, and_iff_right (awaitAgrees_of_inner received _),
      and_iff_right (dispatched _)]
  · have awaited : ∀ pre, ConfigureCompletes handlers s pre (.await c.state none) := by
      simp [ConfigureCompletes, Event.dispatched]
    rw [everywhere_cons, everywhere_cons, everywhere_cons, configureCompletes_dispatch, quiet,
      everywhere_skip fun e he => configureCompletes_of_inner (inner e he),
      and_iff_right (awaited _), and_iff_right (configureCompletes_of_inner received _)]

theorem Session.running_iff (h : Session cfg handlers c es c' v)
    (hrun : handlers.onRunning = true) (ha : supply.Accepts (supply.after s past) es)
    (hc : c.state = State.running ↔ past.any Event.starts = true) :
    Everywhere AwaitAgrees past es ↔ Everywhere (ConfigureCompletes handlers s) past es := by
  induction h generalizing past with
  | cancelled c err stamp ok =>
    refine iff_of_true ?_ ?_
    · cases handlers.onShutdown <;> simpa [opt, AwaitAgrees, Event.found] using hc
    · cases handlers.onShutdown <;> simp [opt, ConfigureCompletes, Event.dispatched]
  | lost c text err plain =>
    refine iff_of_true ?_ ?_
    · simpa [AwaitAgrees, Event.found] using hc
    · simp [ConfigureCompletes, Event.dispatched]
  | @last c c' m es v reaction hv =>
    have step := running_iff_step handlers s m [] reaction.inner hc
    rw [List.append_nil] at step
    have idle : ¬ Accepted handlers m := fun h => (isConfigure_not h.1).2 (reaction.ends hv)
    rw [step.1, step.2]
    exact iff_of_true (everywhere_nil _) ⟨fun h => absurd h idle, everywhere_nil _⟩
  | @next c c' c'' m es rest v reaction session ih =>
    obtain ⟨agrees, completes⟩ := running_iff_step handlers s m rest reaction.inner hc
    rw [agrees, completes]
    have taken : supply.Accepts (supply.after s (past ++ [.await c.state none] ++ [.recv m] ++
        [.dispatch m.env])) (es ++ rest) := by
      rw [supply.after_append, supply.after_append, supply.after_append]
      exact ha.2.2.2
    obtain ⟨hes, hrest⟩ := (supply.accepts_append _ _ _).mp taken
    rw [← supply.after_append] at hrest
    by_cases acc : Accepted handlers m
    case neg =>
      obtain ⟨rfl, minor⟩ := reaction.minor acc fun h => reaction.not_ends (.inl h)
      have quiet := any_starts_of_minor minor
      rw [ih hrest (by simpa [Event.starts, List.any_append, quiet] using hc)]
      exact (and_iff_right fun h => absurd h acc).symm
    obtain ⟨hstate, xs, rfl, minor, -⟩ := reaction.stage acc hes
    have same : supply.after s (past ++ [.await c.state none] ++ [.recv m] ++ [.dispatch m.env]) =
        supply.after s (past ++ [.await c.state none] ++ [.recv m]) := supply.after_append _ _ _
    have starts : ∀ s : Supply, s.startsWorker handlers = decide (s.stage = .started) := by
      simp [Supply.startsWorker, hrun]
    rw [starts] at hrest ⊢
    rw [same] at hstate hrest ⊢
    generalize (supply.after s (past ++ [.await c.state none] ++ [.recv m])).stage = p
      at hstate hrest ⊢
    have quiet : (past ++ [Event.await c.state none] ++ [Event.recv m] ++
        [Event.dispatch m.env]).any Event.starts = past.any Event.starts := by
      simp [List.any_append, Event.starts]
    have started := any_starts_stage minor
      (past ++ [.await c.state none] ++ [.recv m] ++ [.dispatch m.env]) (decide (p = .started))
    rw [quiet] at started
    have comp := completes_iff hc p
    rw [← hstate, ← started] at comp
    by_cases hp : Completes (past.any Event.starts) p
    · rw [ih hrest (comp.mp hp)]
      exact (and_iff_right fun _ => hp).symm
    · -- the next iteration finds state and worker in disagreement
      refine iff_of_false (fun agrees => ?_) fun h => hp (h.1 acc)
      obtain ⟨ctx, tail, rfl⟩ := session.head
      rw [everywhere_cons, awaitAgrees_await] at agrees
      exact hp (comp.mpr agrees.1)

theorem Attempt.running_iff {res : Option GoError} (h : Attempt rt cfg handlers c es c' res)
    (hrun : handlers.onRunning = true) (ha : supply.Accepts s es) :
    Everywhere AwaitAgrees [] es ↔ Everywhere (ConfigureCompletes handlers s) [] es := by
  have idle : ∀ past {xs : List Event}, (∀ e ∈ xs, e.outer = false) →
      (Everywhere AwaitAgrees past xs ↔ Everywhere (ConfigureCompletes handlers s) past xs) :=
    by
      intro past xs h
      apply iff_of_true
      · apply everywhere_of_forall
        intro e he
        exact awaitAgrees_of_inner (h e he)
      · apply everywhere_of_forall
        intro e he
        exact configureCompletes_of_inner (h e he)
  rcases h.parts with minor | ⟨opening, loop, c₁, v, rfl, -, minor, hready, session, -, -⟩
  · exact idle _ fun e he => Event.outer_of_minor (minor e he)
  · obtain ⟨-, hloop⟩ := (supply.accepts_append _ _ _).mp ha
    have accepted := ((supply.accepts_append _ _ _).mp hloop).1
    have ready : c₁.state = State.running ↔ opening.any Event.starts = true := by
      rw [hready, any_starts_of_minor minor]
      simp [State.ready, State.running]
    have opens := idle [] fun e he => Event.outer_of_minor (minor e he)
    have closes := idle (opening ++ loop)
      (by simp [Event.outer] : ∀ e ∈ [Event.close], e.outer = false)
    rw [everywhere_append, everywhere_append, everywhere_append, everywhere_append,
      List.nil_append, opens, session.running_iff hrun accepted ready, closes]

end Connection

/-- On a connection, state and worker agree at every iteration of `messageLoop` exactly if
every accepted CONFIGURE completes. -/
theorem runningMeansStarted_iff (rt : Runtime) (cfg : Config) (handlers : Handlers) (link : Link)
    (c : Component) (hrun : handlers.onRunning = true) :
    RunningMeansStarted (turn rt cfg handlers link c).1 ↔
      ConfiguresComplete handlers link (turn rt cfg handlers link c).1 := by
  obtain ⟨es, res, w', h, attempt, trace, supplied, _⟩ :=
    runOnce_attempt rt cfg handlers link { component := c }
  have result : (turn rt cfg handlers link c).1 = es := by
    rw [turn, h]
    cases res <;> exact trace
  rw [result]
  exact attempt.running_iff hrun (supplied [])

theorem runningMeansStarted_iff_sample :
    RunningMeansStarted (turn Sample.runtime Sample.config { onRunning := true }
      (Sample.link (Sample.handshake ++
        [.message Sample.configure, .message Sample.ack, .message Sample.ack])) {}).1 := by
  apply (runningMeansStarted_iff Sample.runtime Sample.config { onRunning := true } _ {} rfl).mpr
  unfold ConfiguresComplete
  decide +kernel

/-- The ACK of RUNNING cannot be read: the state is RUNNING without a worker. -/
theorem running_without_worker : ¬ ∀ (rt : Runtime) (cfg : Config) (handlers : Handlers)
    (link : Link) (c : Component), handlers.onRunning = true →
      RunningMeansStarted (turn rt cfg handlers link c).1 := by
  intro h
  have agrees := h Sample.runtime Sample.config { onRunning := true }
    (Sample.link (Sample.handshake ++
      [.message Sample.configure, .message Sample.ack, .failure "i/o timeout",
        .message Sample.ping])) {} rfl
  unfold RunningMeansStarted at agrees
  revert agrees
  decide +kernel

end AegisSdk.Go
