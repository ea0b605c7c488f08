import AegisSdk.Rust.Lifecycle

/-!
What follows the dispatch of a SHUTDOWN. `closing` is the path through
`handle_lifecycle` and `graceful_shutdown` as a monitor: the token is cancelled, the ACK
is written, `on_shutdown` is called and the run is over. A failed write of the ACK
leaves that path and the run goes on to the next connection.
-/

set_option autoImplicit false
set_option relaxedAutoImplicit false

namespace AegisSdk.Rust

open AegisSdk.Protocol AegisSdk.Library AegisSdk.Library.Monitor

inductive Phase where
  | open
  | asked
  | cancelled
  | acked
  | done
  /-- the ACK could not be written -/
  | lost
  deriving DecidableEq

def Phase.step : Phase → Event → Phase
  | .open, .dispatch env => if IsShutdown env then .asked else .open
  | .asked, .cancel _ => .cancelled
  | .cancelled, .write _ => .acked
  | .cancelled, .writeFailed _ => .lost
  | .acked, .onShutdown => .done
  | .lost, .connect _ => .open
  | .lost, .connectFailed _ => .open
  | phase, _ => phase

def Phase.allows : Phase → Event → Prop
  | .open, e => e ≠ .onShutdown
  | .asked, e => ∃ t, e = .cancel t
  | .cancelled, e => ∃ env, env.command = .ack ∧ (e = .write env ∨ e = .writeFailed env)
  | .acked, e => e = .onShutdown
  | .done, _ => False
  | .lost, .sleep _ => True
  | .lost, .connect _ => True
  | .lost, .connectFailed _ => True
  | .lost, _ => False

def closing : Monitor Phase Event where
  step := Phase.step
  allows := Phase.allows

def Phase.Idle (phase : Phase) : Prop := phase = .open ∨ phase = .lost

theorem Phase.Idle.sleeps {phase : Phase} (h : phase.Idle) (delay : Duration) :
    phase.allows (.sleep delay) ∧ phase.step (.sleep delay) = phase := by
  rcases h with rfl | rfl
  · exact ⟨nofun, rfl⟩
  · exact ⟨trivial, rfl⟩

def Ending.leaves (phase : Phase) (st : ComponentState) : Ending → Prop
  | .finished => phase = .done ∧ st = .shutdown
  | .failed _ => phase.Idle
  | .panicked _ => phase.Idle

def Verdict.leaves (phase : Phase) (st : ComponentState) : Verdict → Prop
  | .continue => phase = .open
  | .stop => phase = .done ∧ st = .shutdown
  | .error _ => phase.Idle

theorem Reaction.closing {cfg : Config} {token : Nat} {env : Envelope}
    {answer : Except AegisError Unit} {st st' : ComponentState} {es : List Event}
    {v : Verdict} (h : Reaction cfg token env answer st es st' v) :
    closing.Accepts .open (.dispatch env :: es) ∧
      v.leaves (closing.after .open (.dispatch env :: es)) st' := by
  have others : IsPing env ∨ IsConfigure env ∨ IsReborn env ∨ IsError env ∨ Ignored env →
      ¬ IsShutdown env := by
    rintro hm ⟨ht, hc⟩
    simp [IsPing, IsConfigure, IsReborn, IsShutdown, IsError, Ignored, ht, hc] at hm
  cases h with
  | shutdown _ hm | shutdownLost _ hm =>
    simp [Rust.closing, Phase.step, Phase.allows, Verdict.leaves, Phase.Idle, hm]
  | ignored hm | pong _ _ hm | pongLost _ _ hm | refused _ _ hm | refusedLost _ _ hm
  | ackLost _ hm | configuredLost _ _ hm | runningLost _ _ _ hm | running _ _ _ hm
  | reborn _ hm | rebornLost _ hm | recoverable _ _ hm | fatal _ _ hm =>
    have := others (by simp [hm])
    simp [Rust.closing, Phase.step, Phase.allows, Verdict.leaves, Phase.Idle, this]

theorem Session.closing {cfg : Config} {token : Nat} {st st' : ComponentState}
    {es : List Event} {v : Verdict} (h : Session cfg token st es st' v) :
    closing.Accepts .open es ∧ v.ending.leaves (closing.after .open es) st' := by
  induction h with
  | lost st e => exact ⟨⟨nofun, trivial⟩, .inl rfl⟩
  | @last _ _ _ _ _ v reaction hv =>
    obtain ⟨accepts, ends⟩ := reaction.closing
    refine ⟨⟨nofun, accepts⟩, ?_⟩
    cases v with
    | «continue» => exact absurd rfl hv
    | stop => exact ends
    | error e => exact ends
  | @next _ _ _ env _ es rest v reaction _ ih =>
    obtain ⟨accepts, onward⟩ := reaction.closing
    obtain ⟨accepts', ends⟩ := ih
    have onward : Rust.closing.after .open (.dispatch env :: es) = .open := onward
    have split : Rust.closing.after .open (.dispatch env :: es ++ rest) =
        Rust.closing.after .open rest := by
      rw [after_append, onward]
    refine ⟨⟨nofun, (accepts_append _ _ (.dispatch env :: es) rest).mpr ⟨accepts, ?_⟩⟩, ?_⟩
    · rwa [onward]
    · change v.ending.leaves (Rust.closing.after .open (.dispatch env :: es ++ rest)) _
      rwa [split]

theorem Attempt.closing {cfg : Config} {token : Nat} {st st' : ComponentState}
    {es : List Event} {ending : Ending} (h : Attempt cfg token st es st' ending)
    {phase : Phase} (hp : phase.Idle) :
    closing.Accepts phase es ∧ ending.leaves (closing.after phase es) st' := by
  cases h with
  | @session r i d id es st' v session =>
    have opened : Rust.closing.after phase [.connect cfg.socketPath, .write (registerLine cfg r id),
        .write (stateLine cfg i .initializing), .write (stateLine cfg d .ready),
        .token token] = .open := by
      rcases hp with rfl | rfl <;> rfl
    obtain ⟨accepts, ends⟩ := session.closing
    rw [accepts_append, after_append, opened]
    refine ⟨⟨?_, accepts⟩, ends⟩
    rcases hp with rfl | rfl <;> simp [Rust.closing, Phase.step, Phase.allows]
  | _ =>
    rcases hp with rfl | rfl <;>
      simp [Rust.closing, Phase.step, Phase.allows, Ending.leaves, Phase.Idle]

theorem History.closing {cfg : Config} {token : Nat} {st st' : ComponentState}
    {es : List Event} {o : Outcome} (h : History cfg token st es st' o)
    {phase : Phase} (hp : phase.Idle) :
    closing.Accepts phase es ∧
      ((closing.after phase es).Idle ∨
        closing.after phase es = .done ∧ st' = .shutdown ∧ o = .returned (.ok ())) := by
  induction h generalizing phase with
  | «open» token st => exact ⟨trivial, .inl hp⟩
  | finished attempt =>
    obtain ⟨accepts, done, stopped⟩ := attempt.closing hp
    exact ⟨accepts, .inr ⟨done, stopped, rfl⟩⟩
  | gaveUp _ attempt | crashed attempt =>
    obtain ⟨accepts, idle⟩ := attempt.closing hp
    exact ⟨accepts, .inl idle⟩
  | overflowed delay msg attempt =>
    obtain ⟨accepts, idle⟩ := attempt.closing hp
    obtain ⟨allowed, same⟩ := Phase.Idle.sleeps idle delay
    rw [accepts_append, after_append]
    refine ⟨⟨accepts, allowed, trivial⟩, .inl ?_⟩
    change (Phase.step _ _).Idle
    rw [same]
    exact idle
  | again delay attempt _ ih =>
    obtain ⟨accepts, idle⟩ := attempt.closing hp
    obtain ⟨allowed, same⟩ := Phase.Idle.sleeps idle delay
    obtain ⟨accepts', ends⟩ := ih idle
    rw [← same] at accepts' ends
    rw [accepts_append, after_append]
    exact ⟨⟨accepts, allowed, accepts'⟩, ends⟩

/-- Every run follows the path, and one that has taken it to the end has returned. -/
theorem run_closing (rt : Runtime) (cfg : Config) (links : List Link) :
    closing.Accepts .open (run rt cfg links).2.trace ∧
      ((closing.after .open (run rt cfg links).2.trace).Idle ∨
        closing.after .open (run rt cfg links).2.trace = .done ∧
          (run rt cfg links).2.component.state = .shutdown ∧
          (run rt cfg links).1 = .returned (.ok ())) := by
  obtain ⟨es, trace, history, _⟩ := runLoop_history rt cfg 0 cfg.reconnectDelay links {}
  rw [run, trace]
  exact history.closing (.inl rfl)

def Event.reopens : Event → Bool
  | .connect _ => true
  | .connectFailed _ => true
  | .write env => env.command == .register
  | .writeFailed env => env.command == .register
  | _ => false

def Event.stops : Event → Bool
  | .onShutdown => true
  | _ => false

theorem countP_stops {p : List Event} (h : closing.Accepts .open p) :
    p.countP Event.stops = if closing.after .open p = .done then 1 else 0 := by
  refine h.induction (fun q phase => q.countP Event.stops = if phase = .done then 1 else 0) rfl ?_
  intro q phase e hq ha
  rw [List.countP_append, hq]
  cases phase with
  | done => exact ha.elim
  | asked =>
    obtain ⟨t, rfl⟩ := ha
    simp [closing, Phase.step, Event.stops]
  | cancelled =>
    obtain ⟨env, _, rfl | rfl⟩ := ha <;> simp [closing, Phase.step, Event.stops]
  | acked =>
    obtain rfl : e = .onShutdown := ha
    simp [closing, Phase.step, Event.stops]
  | «open» =>
    have hs : Event.stops e = false := by cases e <;> first | rfl | exact absurd rfl ha
    have : closing.step .open e ≠ .done := by
      cases e with
      | dispatch env => by_cases h : IsShutdown env <;> simp [closing, Phase.step, h]
      | _ => simp [closing, Phase.step]
    simp [hs, this]
  | lost =>
    cases e with
    | sleep | connect | connectFailed => simp [closing, Phase.step, Event.stops]
    | _ => exact ha.elim

theorem lost_stays {rest : List Event} (h : closing.Accepts .lost rest)
    (hr : ∀ e ∈ rest, e.reopens = false) : closing.after .lost rest = .lost := by
  induction rest with
  | nil => rfl
  | cons e rest ih =>
    have he := hr e List.mem_cons_self
    obtain ⟨ha, haccepts⟩ := h
    cases e with
    | sleep delay => exact ih haccepts fun e he => hr e (List.mem_cons_of_mem _ he)
    | connect path => simp [Event.reopens] at he
    | connectFailed path => simp [Event.reopens] at he
    | _ => exact ha.elim

theorem shutdown_tail {pre post : List Event} {env : Envelope}
    (h : closing.Accepts .open (pre ++ .dispatch env :: post))
    (hend : (closing.after .open (pre ++ .dispatch env :: post)).Idle ∨
      closing.after .open (pre ++ .dispatch env :: post) = .done)
    (hs : IsShutdown env) :
    (∃ t a, post = [.cancel t, .write a, .onShutdown] ∧ a.command = .ack ∧
      closing.after .open (pre ++ .dispatch env :: post) = .done) ∨
      ∃ t a rest, post = .cancel t :: .writeFailed a :: rest ∧ closing.Accepts .lost rest ∧
        closing.after .open (pre ++ .dispatch env :: post) = closing.after .lost rest := by
  rw [accepts_append] at h
  rw [after_append] at hend ⊢
  obtain ⟨_, ha, haccepts⟩ := h
  have asked : closing.step (closing.after .open pre) (.dispatch env) = .asked := by
    generalize closing.after .open pre = phase at ha
    cases phase with
    | «open» => simp [closing, Phase.step, hs]
    | asked => obtain ⟨t, h⟩ := ha; contradiction
    | cancelled => obtain ⟨e, _, h | h⟩ := ha <;> contradiction
    | acked => exact absurd ha nofun
    | done => exact ha.elim
    | lost => exact ha.elim
  rw [after_cons] at hend ⊢
  rw [asked] at haccepts hend ⊢
  match post, haccepts, hend with
  | [], _, hend => rcases hend with (h | h) | h <;> cases h
  | [e], h, hend =>
    obtain ⟨⟨t, rfl⟩, _⟩ := h
    rcases hend with (h | h) | h <;> cases h
  | e :: e' :: rest, h, hend =>
    obtain ⟨⟨t, rfl⟩, ⟨a, hack, rfl | rfl⟩, haccepts⟩ := h
    · match rest, haccepts, hend with
      | [], _, hend => rcases hend with (h | h) | h <;> cases h
      | [e], h, _ =>
        obtain rfl : e = .onShutdown := h.1
        exact .inl ⟨t, a, rfl, hack, rfl⟩
      | e :: e' :: _, h, _ =>
        obtain rfl : e = .onShutdown := h.1
        exact h.2.1.elim
    · exact .inr ⟨t, a, rest, rfl, haccepts, rfl⟩

/-- Once `message_loop` dispatches a SHUTDOWN, `on_shutdown` is called exactly once in
the run, the state becomes `Shutdown`, `run` returns, and until then no connection is
opened and no REGISTER is sent. -/
def ShutdownFinal (rt : Runtime) (cfg : Config) (links : List Link) : Prop :=
  ∀ pre env post, (run rt cfg links).2.trace = pre ++ .dispatch env :: post → IsShutdown env →
    (run rt cfg links).2.trace.countP Event.stops = 1 ∧
      (run rt cfg links).2.component.state = .shutdown ∧
      (∃ result, (run rt cfg links).1 = .returned result) ∧
      ∀ e ∈ post, e.reopens = false

/-- When a SHUTDOWN is dispatched, the next write on that connection is in store to
succeed. -/
def ShutdownWritable (rt : Runtime) (cfg : Config) (links : List Link) : Prop :=
  ∀ pre env, pre ++ [.dispatch env] <+: (run rt cfg links).2.trace → IsShutdown env →
    (supply.after ⟨links, []⟩ pre).writes.headD true = true

theorem run_supply (rt : Runtime) (cfg : Config) (links : List Link) :
    supply.Accepts ⟨links, []⟩ (run rt cfg links).2.trace := by
  obtain ⟨es, trace, _, supplied⟩ := runLoop_history rt cfg 0 cfg.reconnectDelay links {}
  rw [run, trace]
  exact supplied

/-- SHUTDOWN is final in a run exactly if the write of the ACK of a dispatched SHUTDOWN
does not fail. -/
theorem shutdownFinal_iff (rt : Runtime) (cfg : Config) (links : List Link) :
    ShutdownFinal rt cfg links ↔ ShutdownWritable rt cfg links := by
  obtain ⟨accepts, ends⟩ := run_closing rt cfg links
  have hsupply := run_supply rt cfg links
  have count := countP_stops accepts
  constructor
  · rintro final pre env ⟨post, htrace⟩ hs
    rw [List.append_assoc, List.singleton_append] at htrace
    obtain ⟨once, _, _, quiet⟩ := final pre env post htrace.symm hs
    rw [← htrace] at accepts hsupply count once
    have hend := ends.imp_right And.left
    rw [← htrace] at hend
    rcases shutdown_tail accepts hend hs with ⟨t, a, rfl, _, _⟩ | ⟨t, a, rest, rfl, hrest, hlost⟩
    · rw [accepts_append] at hsupply
      obtain ⟨_, _, _, hwrite, _⟩ := hsupply
      exact hwrite
    · -- the ACK was not written, so the call that counted came on a later connection
      have lost := lost_stays hrest fun e he => quiet e (by simp [he])
      rw [once, hlost, lost] at count
      simp at count
  · intro writable pre env post htrace hs
    have hw := writable pre env ⟨post, by simp [htrace]⟩ hs
    have hend := ends.imp_right And.left
    rw [htrace] at accepts hsupply hend
    rcases shutdown_tail accepts hend hs with ⟨t, a, rfl, hack, hdone⟩ | ⟨t, a, rest, rfl, _, _⟩
    · rw [← htrace] at hdone
      obtain ⟨_, state, outcome⟩ := ends.resolve_left (by simp [hdone, Phase.Idle])
      refine ⟨by simp [count, hdone], state, ⟨_, outcome⟩, ?_⟩
      simp [Event.reopens, hack]
    · rw [accepts_append] at hsupply
      obtain ⟨_, _, _, hwrite, _⟩ := hsupply
      exact absurd (hwrite.symm.trans hw) nofun

def Event.asksShutdown : Event → Bool
  | .dispatch env => IsShutdown env
  | _ => false

/-- The daemon closes its end right after sending SHUTDOWN: the fourth write, the ACK,
fails, and `run` goes on to reconnect. -/
theorem shutdown_not_final : ¬ ∀ (rt : Runtime) (cfg : Config) (links : List Link),
    ShutdownFinal rt cfg links := by
  intro h
  let cfg : Config := { Sample.config with reconnect := true }
  let links := [Sample.link [Sample.registered, Sample.shutdown] [true, true, true, false]]
  have unheard : (run Sample.runtime cfg links).2.trace.any Event.asksShutdown = true ∧
      (run Sample.runtime cfg links).2.trace.countP Event.stops = 0 := by
    decide +kernel
  obtain ⟨asked, silent⟩ := unheard
  obtain ⟨e, he, hs⟩ := List.any_eq_true.mp asked
  obtain ⟨pre, post, htrace⟩ := List.append_of_mem he
  cases e with
  | dispatch env =>
    obtain ⟨once, _⟩ := h Sample.runtime cfg links pre env post htrace (of_decide_eq_true hs)
    omega
  | _ => simp [Event.asksShutdown] at hs

end AegisSdk.Rust
