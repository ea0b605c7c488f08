import AegisSdk.Rust.Lifecycle

/-!
The workers of a run: which `on_running` tasks are spawned, with which token, and which
tokens are cancelled. `Roster` is the account of a trace, `workers` the monitor that
says what the component may do next by that account.
-/

set_option autoImplicit false
set_option relaxedAutoImplicit false

namespace AegisSdk.Rust

open AegisSdk.Protocol AegisSdk.Library AegisSdk.Library.Monitor

def Envelope.tellsRunning (env : Envelope) : Bool :=
  env.command == .stateUpdate && env.reported == some .running

structure Roster where
  /-- the token of the current connection -/
  token : Option Nat := none
  /-- for each CONFIGURE completed with RUNNING written, the connection -/
  configured : List Nat := []
  /-- the token of each `on_running` task -/
  spawned : List Nat := []
  /-- the connections on which a SHUTDOWN was dispatched -/
  dismissed : List Nat := []
  /-- the tokens cancelled -/
  cancelled : List Nat := []

def Roster.step (r : Roster) : Event → Roster
  | .connect _ => { r with token := none }
  | .token t => { r with token := some t }
  | .write env =>
    if env.tellsRunning then { r with configured := r.configured ++ r.token.toList } else r
  | .dispatch env =>
    if IsShutdown env then { r with dismissed := r.dismissed ++ r.token.toList } else r
  | .cancel t => { r with cancelled := r.cancelled ++ [t] }
  | .onRunning t => { r with spawned := r.spawned ++ [t] }
  | _ => r

/-- Every RUNNING has its task and every SHUTDOWN its cancellation. -/
structure Roster.Settled (r : Roster) : Prop where
  tasks : r.spawned = r.configured
  cancels : r.cancelled = r.dismissed

/-- A cancellation or a task comes when it is the only thing missing, everything else
when nothing is. -/
def Roster.allows (r : Roster) : Event → Prop
  | .cancel t => r.spawned = r.configured ∧ r.dismissed = r.cancelled ++ [t]
  | .onRunning t => r.configured = r.spawned ++ [t] ∧ r.cancelled = r.dismissed
  | _ => r.Settled

def workers : Monitor Roster Event where
  step := Roster.step
  allows := Roster.allows

def roster (trace : List Event) : Roster := workers.after {} trace

section Lines

variable (cfg : Config) (stamp : Stamp)

@[simp] theorem registerLine_tellsRunning (id : String) :
    (registerLine cfg stamp id).tellsRunning = false := rfl
@[simp] theorem ackLine_tellsRunning (id : String) :
    (ackLine cfg stamp id).tellsRunning = false := rfl
@[simp] theorem pongLine_tellsRunning (s : ComponentState) (secs : Nat) (id : String) :
    (pongLine cfg stamp s secs id).tellsRunning = false := rfl
@[simp] theorem errorLine_tellsRunning (code message : String) (recoverable : Bool) :
    (errorLine cfg stamp code message recoverable).tellsRunning = false := rfl
@[simp] theorem stateLine_tellsRunning (s : ComponentState) :
    (stateLine cfg stamp s).tellsRunning = (s == .running) := by
  cases s <;> simp [Envelope.tellsRunning]

end Lines

theorem Roster.settled_iff (r : Roster) :
    r.Settled ↔ r.spawned = r.configured ∧ r.cancelled = r.dismissed :=
  ⟨fun h => ⟨h.tasks, h.cancels⟩, fun h => ⟨h.1, h.2⟩⟩

theorem Reaction.workers {cfg : Config} {token : Nat} {env : Envelope}
    {answer : Except AegisError Unit} {st st' : ComponentState} {es : List Event}
    {v : Verdict} (h : Reaction cfg token env answer st es st' v) {r : Roster}
    (hr : r.Settled) (ht : r.token = some token) :
    workers.Accepts r (.dispatch env :: es) ∧
      (workers.after r (.dispatch env :: es)).Settled ∧
      (workers.after r (.dispatch env :: es)).token = some token := by
  obtain ⟨tok, configured, spawned, dismissed, cancelled⟩ := r
  obtain ⟨rfl, rfl⟩ : spawned = configured ∧ cancelled = dismissed := ⟨hr.tasks, hr.cancels⟩
  obtain rfl : tok = some token := ht
  have others : IsPing env ∨ IsConfigure env ∨ IsReborn env ∨ IsError env ∨ Ignored env →
      ¬ IsShutdown env := by
    rintro hm ⟨ht, hc⟩
    simp [IsPing, IsConfigure, IsReborn, IsShutdown, IsError, Ignored, ht, hc] at hm
  cases h with
  | shutdown _ hm | shutdownLost _ hm =>
    simp [Rust.workers, Roster.step, Roster.allows, Roster.settled_iff, hm]
  | ignored hm | pong _ _ hm | pongLost _ _ hm | refused _ _ hm | refusedLost _ _ hm
  | ackLost _ hm | configuredLost _ _ hm | runningLost _ _ _ hm | running _ _ _ hm
  | reborn _ hm | rebornLost _ hm | recoverable _ _ hm | fatal _ _ hm =>
    have := others (by simp [hm])
    simp [Rust.workers, Roster.step, Roster.allows, Roster.settled_iff, this]

theorem Session.workers {cfg : Config} {token : Nat} {st st' : ComponentState}
    {es : List Event} {v : Verdict} (h : Session cfg token st es st' v) {r : Roster}
    (hr : r.Settled) (ht : r.token = some token) :
    workers.Accepts r es ∧ (workers.after r es).Settled := by
  induction h generalizing r with
  | lost st e => exact ⟨⟨hr, trivial⟩, hr⟩
  | last reaction _ =>
    obtain ⟨accepts, settled, _⟩ := reaction.workers hr ht
    exact ⟨⟨hr, accepts⟩, settled⟩
  | @next _ _ _ env _ es rest _ reaction _ ih =>
    obtain ⟨accepts, settled, token⟩ := reaction.workers hr ht
    obtain ⟨accepts', settled'⟩ := ih settled token
    refine ⟨⟨hr, (accepts_append _ _ (.dispatch env :: es) rest).mpr ⟨accepts, accepts'⟩⟩, ?_⟩
    rw [← after_append] at settled'
    exact settled'

theorem Attempt.workers {cfg : Config} {token : Nat} {st st' : ComponentState}
    {es : List Event} {ending : Ending} (h : Attempt cfg token st es st' ending) {r : Roster}
    (hr : r.Settled) : workers.Accepts r es ∧ (workers.after r es).Settled := by
  have ⟨tasks, cancels⟩ := hr
  cases h with
  | session r' i d id session =>
    rw [accepts_append, after_append]
    obtain ⟨accepts, settled⟩ := session.workers
      (r := { r with token := some token }) ⟨tasks, cancels⟩ rfl
    refine ⟨⟨?_, ?_⟩, ?_⟩
    · simp [Rust.workers, Roster.step, Roster.allows, Roster.settled_iff, tasks, cancels]
    · simpa [Rust.workers, Roster.step] using accepts
    · simpa [Rust.workers, Roster.step] using settled
  | _ => simp [Rust.workers, Roster.step, Roster.allows, Roster.settled_iff, tasks, cancels]

theorem History.workers {cfg : Config} {token : Nat} {st st' : ComponentState}
    {es : List Event} {o : Outcome} (h : History cfg token st es st' o) {r : Roster}
    (hr : r.Settled) : workers.Accepts r es ∧ (workers.after r es).Settled := by
  induction h generalizing r with
  | «open» token st => exact ⟨trivial, hr⟩
  | finished attempt | gaveUp _ attempt | crashed attempt => exact attempt.workers hr
  | overflowed delay msg attempt =>
    obtain ⟨accepts, settled⟩ := attempt.workers hr
    rw [accepts_append, after_append]
    exact ⟨⟨accepts, settled, trivial⟩, settled⟩
  | again delay attempt _ ih =>
    obtain ⟨accepts, settled⟩ := attempt.workers hr
    obtain ⟨accepts', settled'⟩ := ih settled
    rw [accepts_append, after_append]
    exact ⟨⟨accepts, settled, accepts'⟩, settled'⟩

/-- Every run keeps the account in order and ends with it settled. -/
theorem run_workers (rt : Runtime) (cfg : Config) (links : List Link) :
    workers.Accepts {} (run rt cfg links).2.trace ∧
      (roster (run rt cfg links).2.trace).Settled := by
  obtain ⟨es, trace, history, _⟩ := runLoop_history rt cfg 0 cfg.reconnectDelay links {}
  rw [run, trace]
  exact history.workers ⟨rfl, rfl⟩

/-- A SHUTDOWN was dispatched on the connection with the token `t`. -/
def ShutdownOn (trace : List Event) (t : Nat) : Prop :=
  ∃ q env, q ++ [.dispatch env] <+: trace ∧ IsShutdown env ∧ (roster q).token = some t

theorem roster_concat (q : List Event) (e : Event) : roster (q ++ [e]) = (roster q).step e :=
  workers.after_append _ _ _

theorem mem_dismissed (p : List Event) (t : Nat) :
    t ∈ (roster p).dismissed ↔ ShutdownOn p t := by
  induction p using List.reverseRecOn with
  | nil =>
    refine ⟨nofun, ?_⟩
    rintro ⟨q, env, hq, _⟩
    simp at hq
  | append_singleton p e ih =>
    -- a SHUTDOWN dispatched so far, or the event that comes now
    have split : ShutdownOn (p ++ [e]) t ↔ ShutdownOn p t ∨
        ∃ env, e = .dispatch env ∧ IsShutdown env ∧ (roster p).token = some t := by
      constructor
      · rintro ⟨q, env, hq, hs, ht⟩
        rcases List.prefix_concat_iff.mp hq with h | h
        · obtain ⟨rfl, he⟩ := List.append_inj' h rfl
          exact .inr ⟨env, (List.singleton_inj.mp he).symm, hs, ht⟩
        · exact .inl ⟨q, env, h, hs, ht⟩
      · rintro (⟨q, env, hq, hs, ht⟩ | ⟨env, rfl, hs, ht⟩)
        · exact ⟨q, env, hq.trans (List.prefix_append p [e]), hs, ht⟩
        · exact ⟨p, env, List.prefix_refl _, hs, ht⟩
    rw [split, ← ih, roster_concat]
    cases e with
    | dispatch env =>
      by_cases hs : IsShutdown env <;> simp [Roster.step, hs]
    | write env =>
      by_cases hr : env.tellsRunning <;> simp [Roster.step, hr]
    | _ => simp [Roster.step]

/-- When `run` is over, the token of a task is cancelled exactly if a SHUTDOWN was
dispatched on its connection. -/
theorem cancelled_iff_shutdown (rt : Runtime) (cfg : Config) (links : List Link) (t : Nat)
    (_ : t ∈ (roster (run rt cfg links).2.trace).spawned) :
    t ∈ (roster (run rt cfg links).2.trace).cancelled ↔
      ShutdownOn (run rt cfg links).2.trace t := by
  rw [(run_workers rt cfg links).2.cancels, mem_dismissed]

theorem cancelled_iff_shutdown_sample :
    0 ∈ (roster (run Sample.runtime Sample.config
        [Sample.link [Sample.registered, Sample.configure, Sample.shutdown] []]).2.trace).cancelled ↔
      ShutdownOn (run Sample.runtime Sample.config
        [Sample.link [Sample.registered, Sample.configure, Sample.shutdown] []]).2.trace 0 :=
  cancelled_iff_shutdown Sample.runtime Sample.config _ 0 (by decide +kernel)

/-- The daemon closes the connection of a running component that does not reconnect. -/
theorem orphaned_worker : ¬ ∀ (rt : Runtime) (cfg : Config) (links : List Link) (r : _),
    (run rt cfg links).1 = .returned r →
      ∀ t ∈ (roster (run rt cfg links).2.trace).spawned,
        t ∈ (roster (run rt cfg links).2.trace).cancelled := by
  intro h
  -- one evaluation of the run for what is asked of it
  have run_left : (run Sample.runtime Sample.config
      [Sample.link [Sample.registered, Sample.configure] []]).1 =
        .returned (.error (.connection "reconnect disabled")) ∧
      0 ∈ (roster (run Sample.runtime Sample.config
        [Sample.link [Sample.registered, Sample.configure] []]).2.trace).spawned ∧
      0 ∉ (roster (run Sample.runtime Sample.config
        [Sample.link [Sample.registered, Sample.configure] []]).2.trace).cancelled := by
    decide +kernel
  obtain ⟨returned, spawned, standing⟩ := run_left
  exact standing (h _ _ _ _ returned 0 spawned)

def Roster.live (r : Roster) : List Nat := r.spawned.filter (· ∉ r.cancelled)

/-- The completed CONFIGUREs of the connections whose token is not cancelled. -/
def Roster.standing (r : Roster) : List Nat := r.configured.filter (· ∉ r.cancelled)

/-- At every moment at most one completed CONFIGURE lacks its task, and only a dismissed
connection has its token cancelled. -/
structure Roster.Orderly (r : Roster) : Prop where
  tasks : ∃ late, r.configured = r.spawned ++ late ∧ late.length ≤ 1
  cancels : r.cancelled <+: r.dismissed

theorem Roster.Settled.orderly {r : Roster} (h : r.Settled) : r.Orderly :=
  ⟨⟨[], by simp [h.tasks], by simp⟩, h.cancels ▸ List.prefix_refl _⟩

theorem Roster.Orderly.next {r : Roster} {e : Event} (ha : r.allows e) : (r.step e).Orderly := by
  have one : r.token.toList.length ≤ 1 := by cases r.token <;> simp
  cases e with
  | write env =>
    have ⟨tasks, cancels⟩ := ha
    by_cases hr : env.tellsRunning
    · simp only [Roster.step, hr, if_true]
      exact ⟨⟨r.token.toList, by simp [tasks], one⟩, cancels ▸ List.prefix_refl _⟩
    · have unchanged : r.step (.write env) = r := by simp [Roster.step, hr]
      rw [unchanged]
      exact ha.orderly
  | dispatch env =>
    have ⟨tasks, cancels⟩ := ha
    by_cases hs : IsShutdown env
    · simp only [Roster.step, hs, if_true]
      exact ⟨⟨[], by simp [tasks], by simp⟩, cancels ▸ List.prefix_append _ _⟩
    · have unchanged : r.step (.dispatch env) = r := by simp [Roster.step, hs]
      rw [unchanged]
      exact ha.orderly
  | cancel t =>
    obtain ⟨tasks, dismissed⟩ := ha
    exact ⟨⟨[], by simp [Roster.step, tasks], by simp⟩,
      by simp [Roster.step, dismissed]⟩
  | onRunning t =>
    obtain ⟨configured, cancels⟩ := ha
    exact ⟨⟨[], by simp [Roster.step, configured], by simp⟩, by simp [Roster.step, cancels]⟩
  | _ =>
    have ⟨tasks, cancels⟩ := ha
    exact ⟨⟨[], by simp [Roster.step, tasks], by simp⟩, by simp [Roster.step, cancels]⟩

theorem roster_orderly {p : List Event} (h : workers.Accepts {} p) : (roster p).Orderly :=
  h.induction (fun _ r => r.Orderly) (Roster.Settled.orderly ⟨rfl, rfl⟩)
    (fun _ _ _ _ ha => Roster.Orderly.next ha)

/-- At every moment the live tasks are at most the completed CONFIGUREs of connections
not cancelled, and all of them whenever `message_loop` waits. -/
theorem live_workers (rt : Runtime) (cfg : Config) (links : List Link) :
    ∀ p, p <+: (run rt cfg links).2.trace →
      (roster p).live <+: (roster p).standing ∧
        (roster p).standing.length ≤ (roster p).live.length + 1 ∧
        (roster p).cancelled <+: (roster p).dismissed ∧
        ∀ q s, p = q ++ [.await s] → (roster p).live = (roster p).standing := by
  intro p hp
  have accepts := (run_workers rt cfg links).1.initial hp
  obtain ⟨⟨late, configured, short⟩, cancels⟩ := roster_orderly accepts
  have split : (roster p).standing =
      (roster p).live ++ late.filter (· ∉ (roster p).cancelled) := by
    simp only [Roster.standing, Roster.live, configured, List.filter_append]
  refine ⟨⟨_, split.symm⟩, ?_, cancels, ?_⟩
  · have := List.length_filter_le (· ∉ (roster p).cancelled) late
    rw [split, List.length_append]
    omega
  · rintro q s rfl
    have settled : (roster q).Settled := accepts.allowed
    have same : roster (q ++ [.await s]) = roster q := roster_concat q _
    rw [same, Roster.live, Roster.standing, settled.tasks]

theorem live_workers_sample :
    ∃ p, p <+: (run Sample.runtime Sample.config
        [Sample.link [Sample.registered, Sample.configure] []]).2.trace ∧
      (roster p).live = [0] ∧ (roster p).live <+: (roster p).standing := by
  have h := live_workers Sample.runtime Sample.config
    [Sample.link [Sample.registered, Sample.configure] []] _ (List.prefix_refl _)
  exact ⟨_, List.prefix_refl _, by decide +kernel, h.1⟩

/-- A CONFIGURE repeated on one connection. -/
theorem second_worker : ¬ ∀ (rt : Runtime) (cfg : Config) (links : List Link) (p : List Event),
    p <+: (run rt cfg links).2.trace → (roster p).live.length ≤ 1 := by
  intro h
  have := h Sample.runtime Sample.config
    [Sample.link [Sample.registered, Sample.configure, Sample.configure] []] _
    (List.prefix_refl _)
  revert this
  decide +kernel

end AegisSdk.Rust
