import AegisSdk.Cpp.Machine

/-!
How `run` may end. A read that fails in the message loop leaves it as a SHUTDOWN does, and an
exception of `nlohmann::json` is not one that `run` catches; without these a run ends after a
SHUTDOWN or a `stop()`, after a rejected registration, or when it gives up.
-/

set_option autoImplicit false
set_option relaxedAutoImplicit false

namespace AegisSdk.Cpp

open AegisSdk.Protocol AegisSdk.Library

def Event.isShutdown : Event → Bool
  | .dispatch env => decide (env.msgType = .lifecycle ∧ env.command = .shutdown)
  | _ => false

def Event.isStop : Event → Bool
  | .stopClears => true
  | _ => false

/-- `run` is left without a connection by an exception that it retries after. -/
def Event.isLoss : Event → Bool
  | .lost _ => true
  | _ => false

def losses (log : List Event) : Nat := log.countP Event.isLoss

def lastMove (log : List Event) : Option Event := (log.filter Event.moves).getLast?

/-- After these `run_once` is left: there is no socket, the descriptor is closed, or an answer
or a message throws. -/
def Event.breaks : Event → Bool
  | .socketFailed => true
  | .close _ => true
  | .reply result => !(result >>= registration).isOk
  | .dispatch env => !(reaction env).isOk
  | _ => false

/-- What the thread does next when it has lost a connection: `run_once` is left, `run` notes the
loss unless it is over, and if another attempt is due it sleeps and opens a socket. -/
structure FollowsUp (cfg : Config) (past : List Event) (e : Event) : Prop where
  leaves : ∀ b, lastMove past = some b → b.breaks = true → e.moves = true → e = .left
  notes : lastMove past = some .left → e.moves = true → ∃ what, e = .lost what
  waits : ∀ what, lastMove past = some (.lost what) → e.moves = true →
    cfg.retries (losses past) ∧ ∃ attempts, e = .sleep attempts
  tries : ∀ attempts, lastMove past = some (.sleep attempts) → e.moves = true →
    e = .socketFailed ∨ ∃ fd, e = .socket fd

/-- How a run may have ended, or where it is otherwise: it waits for a join that does not
return, or the next attempt is due, `turns` of them having been lost. -/
inductive Ends (cfg : Config) (th : Threads) (turns : Nat) (trace : List Event) :
    Option Outcome → Prop
  | shutdown : lastMove trace = some .left → trace.any Event.isShutdown = true →
      Ends cfg th turns trace (some .returned)
  | stopped : lastMove trace = some .left → trace.any Event.isStop = true →
      Ends cfg th turns trace (some .returned)
  | rejected (what : String) : lastMove trace = some .left → isRejection what = true →
      Ends cfg th turns trace (some (.rejected what))
  | reconnectDisabled (what : String) : lastMove trace = some (.lost what) →
      cfg.reconnect = false → losses trace = 1 →
      Ends cfg th turns trace (some .reconnectDisabled)
  | attemptsExhausted (what : String) : lastMove trace = some (.lost what) →
      cfg.reconnect = true → 0 < cfg.maxReconnectAttempts →
      (losses trace : Int) = cfg.maxReconnectAttempts →
      Ends cfg th turns trace (some .attemptsExhausted)
  | joins (t : Nat) : lastMove trace = some (.join t) → (∀ step, th.fate t ≠ .returns step) →
      Ends cfg th turns trace (some .hung)
  | destroys (t : Nat) : Event.destroy t ∈ trace → th.fate t = .never →
      Ends cfg th turns trace (some .hung)
  | due : (∀ e, lastMove trace = some e → ∃ attempts, e = .sleep attempts) →
      losses trace = turns → Ends cfg th turns trace none

def Exception.isJson : Exception → Bool
  | .json _ => true
  | .runtimeError _ => false

def throwsJson {α : Type} : Except Exception α → Bool
  | .ok _ => false
  | .error e => e.isJson

/-- An answer to REGISTER or a message that `nlohmann::json` does not read. -/
def Event.unreadable : Event → Bool
  | .reply result => throwsJson (result >>= registration)
  | .dispatch env => throwsJson (reaction env)
  | _ => false

def Event.readFails : Event → Bool
  | .recv result => !result.isOk
  | _ => false

/-- Every message can be read, and the message loop reads one each time, unless `stop()` has
been called. -/
def Survivable (past : List Event) (e : Event) : Prop :=
  e.unreadable = false ∧ (e.readFails = true → past.any Event.isStop = true)

instance (past : List Event) (e : Event) : Decidable (Survivable past e) :=
  inferInstanceAs (Decidable (_ ∧ (_ → _)))

def Phase.inLoop : Phase → Bool
  | .looping _ | .reading _ | .received _ _ => true
  | _ => false

/-- On the way out of the message loop, other than by an exception. -/
def Phase.atEnd : Phase → Bool
  | .ending _ | .joining _ | .shut _ | .closed | .returned => true
  | _ => false

/-- An exception of `nlohmann::json` is passing or has passed. -/
def Phase.escapes : Phase → Bool
  | .thrown e _ => e.isJson
  | .escaped _ => true
  | _ => false

theorem reaction_stop {env : Envelope} (h : reaction env = .ok true) :
    env.msgType = .lifecycle ∧ env.command = .shutdown := by
  unfold reaction at h
  split at h
  case h_1 =>
    split at h
    · cases hc : configuration env with
      | ok found => simp [hc, Except.map] at h
      | error e => simp [hc, Except.map] at h
    · cases h
  case h_2 ht => exact ⟨ht, by simpa using h⟩
  case h_3 =>
    cases hr : errorReport env with
    | ok report =>
      obtain ⟨code, message, recoverable⟩ := report
      cases recoverable <;> simp [hr, bind, Except.bind, pure, Except.pure] at h
    | error e => simp [hr, bind, Except.bind] at h
  case h_4 => cases h

structure Excused (log : List Event) (c : Control) : Prop where
  inLoop : c.phase.inLoop = true → c.running = false → log.any Event.isStop = true
  atEnd : c.phase.atEnd = true →
    log.any Event.isShutdown = true ∨ log.any Event.isStop = true
  escapes : c.phase.escapes = false

section Log

variable {cfg : Config} {log : List Event} {c : Control} {e : Event}

theorem any_concat {p : Event → Bool} (h : log.any p = true) : (log ++ [e]).any p = true := by
  rw [List.any_append, h, Bool.true_or]

theorem any_last {p : Event → Bool} (h : p e = true) : (log ++ [e]).any p = true := by
  simp [h]

theorem Excused.elsewhere (hloop : c.phase.inLoop = false) (hend : c.phase.atEnd = false)
    (hescapes : c.phase.escapes = false) : Excused log c :=
  ⟨by simp [hloop], by simp [hend], hescapes⟩

theorem Excused.of_loop (hend : c.phase.atEnd = false) (hescapes : c.phase.escapes = false)
    (h : c.running = false → log.any Event.isStop = true) : Excused log c :=
  ⟨fun _ => h, by simp [hend], hescapes⟩

theorem Excused.of_end (hloop : c.phase.inLoop = false) (hescapes : c.phase.escapes = false)
    (h : log.any Event.isShutdown = true ∨ log.any Event.isStop = true) : Excused log c :=
  ⟨by simp [hloop], fun _ => h, hescapes⟩

theorem Excused.next (h : Excused log c) (hallows : c.allows cfg e) (hs : Survivable log e) :
    Excused (log ++ [e]) (c.step e) := by
  have stays : ∀ {p : Event → Bool}, log.any p = true → (log ++ [e]).any p = true := any_concat
  by_cases hm : e.moves = false
  · constructor
    case inLoop =>
      rw [phase_of_not_moves hm]
      intro hphase hrunning
      cases e with
      | stopClears => exact any_last rfl
      | setRunning => cases hm
      | _ => exact stays (h.inLoop hphase hrunning)
    case atEnd =>
      rw [phase_of_not_moves hm]
      exact fun hphase => (h.atEnd hphase).imp stays stays
    case escapes =>
      rw [phase_of_not_moves hm]
      exact h.escapes
  obtain ⟨phase, running, source, worker, states, sockets, calls, losses⟩ := c
  cases e with
  | socket fd =>
    obtain ⟨rfl, -⟩ := hallows
    exact .elsewhere rfl rfl rfl
  | socketFailed =>
    obtain rfl : phase = .due := hallows
    exact .elsewhere rfl rfl rfl
  | connect fd link =>
    obtain rfl : phase = .opened fd := hallows
    exact .elsewhere rfl rfl rfl
  | connectFailed fd =>
    obtain rfl : phase = .opened fd := hallows
    exact .elsewhere rfl rfl rfl
  | close fd =>
    obtain rfl | rfl : phase = .refused fd ∨ phase = .shut fd := hallows
    · exact .elsewhere rfl rfl rfl
    · exact .of_end rfl rfl ((h.atEnd rfl).imp stays stays)
  | reply result =>
    obtain ⟨fd, rfl⟩ : ∃ fd, phase = .connected fd := hallows
    have hread : throwsJson (result >>= registration) = false := hs.1
    simp only [Control.step, Phase.next, Phase.answered]
    cases hresult : result >>= registration with
    | ok ids => exact .elsewhere rfl rfl rfl
    | error ex =>
      rw [hresult] at hread
      exact .elsewhere rfl rfl hread
  | setRunning =>
    obtain ⟨fd, rfl⟩ : ∃ fd, phase = .accepted fd := hallows
    exact .of_loop rfl rfl fun hrunning => by cases hrunning
  | head b =>
    obtain ⟨⟨fd, rfl⟩, hb⟩ := hallows
    cases b with
    | true =>
      exact .of_loop rfl rfl fun hrunning => stays (h.inLoop rfl hrunning)
    | false =>
      exact .of_end rfl rfl (.inr (stays (h.inLoop rfl hb.symm)))
  | recv result =>
    obtain ⟨fd, rfl⟩ : ∃ fd, phase = .reading fd := hallows
    cases result with
    | ok env =>
      exact .of_loop rfl rfl fun hrunning => stays (h.inLoop rfl hrunning)
    | error ex =>
      exact .of_end rfl rfl (.inr (stays (hs.2 rfl)))
  | dispatch env =>
    obtain ⟨fd, rfl⟩ : ∃ fd, phase = .received fd env := hallows
    have hread : throwsJson (reaction env) = false := hs.1
    have hstep : (Control.step ⟨.received fd env, running, source, worker, states, sockets, calls,
        losses⟩ (.dispatch env)).phase = .dispatched fd env := rfl
    rcases hreaction : reaction env with ex | (_ | _)
    · rw [Phase.dispatched, hreaction] at hstep
      rw [hreaction] at hread
      exact .elsewhere (by rw [hstep]; rfl) (by rw [hstep]; rfl) (by rw [hstep]; exact hread)
    · rw [Phase.dispatched, hreaction] at hstep
      exact .of_loop (by rw [hstep]; rfl) (by rw [hstep]; rfl) fun hrunning =>
        stays (h.inLoop rfl hrunning)
    · rw [Phase.dispatched, hreaction] at hstep
      refine .of_end (by rw [hstep]; rfl) (by rw [hstep]; rfl) (.inl (any_last ?_))
      exact decide_eq_true (reaction_stop hreaction)
  | join t =>
    obtain ⟨⟨fd, rfl⟩, -⟩ := hallows
    exact .of_end rfl rfl ((h.atEnd rfl).imp stays stays)
  | joined t =>
    obtain ⟨⟨fd, rfl⟩, -⟩ := hallows
    exact .of_end rfl rfl ((h.atEnd rfl).imp stays stays)
  | onShutdown =>
    obtain ⟨⟨fd, rfl⟩, -⟩ := hallows
    exact .of_end rfl rfl ((h.atEnd rfl).imp stays stays)
  | left =>
    obtain rfl | ⟨ex, fd, rfl⟩ : phase = .closed ∨ ∃ ex fd, phase = .thrown ex fd := hallows
    · exact .of_end rfl rfl ((h.atEnd rfl).imp stays stays)
    · cases ex with
      | json id => cases h.escapes
      | runtimeError what =>
        simp only [Control.step, Phase.next, Phase.caught]
        split <;> exact .elsewhere rfl rfl rfl
  | lost what =>
    obtain rfl : phase = .failed what := hallows
    exact .elsewhere rfl rfl rfl
  | sleep attempts =>
    obtain ⟨rfl, -⟩ := hallows
    exact .elsewhere rfl rfl rfl
  | _ => exact absurd rfl hm

end Log

section Losses

variable {cfg : Config} {log : List Event} {c : Control} {e : Event}

theorem lastMove_moves (h : e.moves = true) : lastMove (log ++ [e]) = some e := by
  simp [lastMove, List.filter_append, h]

theorem lastMove_stays (h : e.moves = false) : lastMove (log ++ [e]) = lastMove log := by
  simp [lastMove, List.filter_append, h]

theorem losses_concat : losses (log ++ [e]) = losses log + if e.isLoss then 1 else 0 := by
  cases h : e.isLoss <;> simp [losses, List.countP_append, h]

theorem losses_pos {what : String} (h : lastMove log = some (.lost what)) : 0 < losses log := by
  refine List.countP_pos_iff.mpr ⟨.lost what, ?_, rfl⟩
  exact (List.mem_filter.mp (List.mem_of_getLast? h)).1

theorem step_losses (c : Control) (e : Event) :
    (c.step e).losses = c.losses + if e.isLoss then 1 else 0 := by
  cases e <;> rfl

def Came (last : Option Event) (p : Phase) : Prop :=
  match last with
  | none => p = .due
  | some e => ∃ q, Phase.Goes q e p

def Phase.leaving (p : Phase) : Prop := p = .closed ∨ ∃ ex fd, p = .thrown ex fd

theorem only_left (hp : c.phase.leaving) (hallows : c.allows cfg e) (hm : e.moves = true) :
    e = .left := by
  have goes := goes_of_allows hm hallows
  generalize (c.step e).phase = q at goes
  rcases hp with hp | ⟨ex, fd, hp⟩
  all_goals
    rw [hp] at goes
    cases goes
    rfl

/-- The phases of a run that is over, and that of a loss that is to be noted. -/
inductive Phase.Left : Phase → Prop
  | returned : Left .returned
  | rejected (what : String) : isRejection what = true → Left (.rejected what)
  | escaped (id : Nat) : Left (.escaped id)
  | failed (what : String) : Left (.failed what)

theorem left_caught (ex : Exception) : (Phase.caught ex).Left := by
  cases ex with
  | json id => exact .escaped id
  | runtimeError what =>
    rw [Phase.caught]
    by_cases h : isRejection what = true
    · rw [if_pos h]
      exact .rejected what h
    · rw [if_neg h]
      exact .failed what

theorem only_lost (hp : c.phase.Left) (hallows : c.allows cfg e) (hm : e.moves = true) :
    ∃ what, e = .lost what := by
  have goes := goes_of_allows hm hallows
  generalize c.phase = p at goes hp
  generalize (c.step e).phase = q at goes
  cases hp <;> cases goes
  exact ⟨_, rfl⟩

theorem Came.broken {b : Event} {p : Phase} (h : Came (some b) p) (hb : b.breaks = true) :
    p.leaving := by
  obtain ⟨q, goes⟩ := h
  cases goes with
  | socketFailed => exact .inr ⟨_, _, rfl⟩
  | closeRefused fd => exact .inr ⟨_, _, rfl⟩
  | close fd => exact .inl rfl
  | reply fd result =>
    unfold Phase.answered
    rw [Event.breaks] at hb
    cases hresult : result >>= registration with
    | ok ids =>
      rw [hresult] at hb
      cases hb
    | error ex => exact .inr ⟨_, _, rfl⟩
  | dispatch fd env =>
    unfold Phase.dispatched
    rw [Event.breaks] at hb
    rcases hreaction : reaction env with ex | (_ | _)
    · exact .inr ⟨_, _, rfl⟩
    · rw [hreaction] at hb
      cases hb
    · rw [hreaction] at hb
      cases hb
  | _ => cases hb

theorem Came.left {p : Phase} (h : Came (some .left) p) : p.Left := by
  obtain ⟨q, goes⟩ := h
  cases goes with
  | returns => exact .returned
  | throws ex fd => exact left_caught ex

theorem Came.lost {what : String} {p : Phase} (h : Came (some (.lost what)) p) : p = .lost := by
  obtain ⟨q, goes⟩ := h
  cases goes
  rfl

theorem Came.slept {attempts : Nat} {p : Phase} (h : Came (some (.sleep attempts)) p) :
    p = .due := by
  obtain ⟨q, goes⟩ := h
  cases goes
  rfl

/-- The event by which the thread comes where a run may end or wait; elsewhere any. -/
def Phase.entered : Phase → Event → Bool
  | .due, .sleep _ | .lost, .lost _ | .joining _, .join _ | .returned, .left
  | .rejected _, .left => true
  | .due, _ | .lost, _ | .joining _, _ | .returned, _ | .rejected _, _ => false
  | _, _ => true

theorem Came.entered {p : Phase} (h : Came (some e) p) : p.entered e = true := by
  obtain ⟨q, goes⟩ := h
  cases goes with
  | reply fd result =>
    unfold Phase.answered
    split <;> rfl
  | dispatch fd env =>
    unfold Phase.dispatched
    split <;> rfl
  | throws ex fd =>
    have hleft := left_caught ex
    generalize Phase.caught ex = p at hleft
    cases hleft <;> rfl
  | _ => rfl

/-- The losses are counted, and there was to be another attempt after each but the last one. -/
structure Counted (cfg : Config) (log : List Event) (c : Control) : Prop where
  came : Came (lastMove log) c.phase
  count : c.losses = losses log
  earlier : ∀ k, 0 < k → k < c.losses → cfg.retries k
  again : c.phase ≠ .lost → 0 < c.losses → cfg.retries c.losses
  joining : ∀ fd t, c.phase = .joining fd → c.worker = some t → lastMove log = some (.join t)

theorem Counted.followsUp (h : Counted cfg log c) (hallows : c.allows cfg e) :
    FollowsUp cfg log e := by
  have hcame := h.came
  constructor
  case leaves =>
    intro b hb hbreaks hm
    rw [hb] at hcame
    exact only_left (hcame.broken hbreaks) hallows hm
  case notes =>
    intro hb hm
    rw [hb] at hcame
    exact only_lost hcame.left hallows hm
  case waits =>
    intro what hb hm
    rw [hb] at hcame
    have goes := goes_of_allows hm hallows
    rw [hcame.lost] at goes
    generalize (c.step e).phase = q at goes
    cases goes with
    | sleep attempts => exact ⟨h.count ▸ hallows.2, attempts, rfl⟩
  case tries =>
    intro attempts hb hm
    rw [hb] at hcame
    have goes := goes_of_allows hm hallows
    rw [hcame.slept] at goes
    generalize (c.step e).phase = q at goes
    cases goes with
    | socketFailed => exact .inl rfl
    | socket fd => exact .inr ⟨fd, rfl⟩

theorem Counted.next (h : Counted cfg log c) (hallows : c.allows cfg e) :
    Counted cfg (log ++ [e]) (c.step e) := by
  constructor
  case came =>
    rw [step_phase]
    cases hm : e.moves with
    | false =>
      rw [lastMove_stays hm, next_of_not_moves hm]
      exact h.came
    | true =>
      rw [lastMove_moves hm, ← step_phase]
      exact ⟨c.phase, goes_of_allows hm hallows⟩
  case count => rw [step_losses, losses_concat, h.count]
  case earlier =>
    rw [step_losses]
    intro k hpos hk
    cases hloss : e.isLoss with
    | false => exact h.earlier k hpos (by simpa [hloss] using hk)
    | true =>
      obtain ⟨what, rfl⟩ : ∃ what, e = .lost what := by
        cases e <;> first | exact ⟨_, rfl⟩ | cases hloss
      have hfailed : c.phase = .failed what := hallows
      rcases Nat.lt_succ_iff_lt_or_eq.mp (by simpa [hloss] using hk) with hk | rfl
      · exact h.earlier k hpos hk
      · exact h.again (by rw [hfailed]; simp) hpos
  case again =>
    rw [step_losses, step_phase]
    intro hphase hpos
    cases e with
    | lost what =>
      have hfailed : c.phase = .failed what := hallows
      rw [hfailed] at hphase
      exact absurd rfl hphase
    | sleep attempts => exact hallows.2
    | _ =>
      refine h.again (fun hlost => ?_) hpos
      rw [hlost] at hphase
      exact hphase rfl
  case joining =>
    rw [step_phase]
    intro fd t hphase hworker
    cases hm : e.moves with
    | false =>
      rw [next_of_not_moves hm] at hphase
      rw [lastMove_stays hm]
      refine h.joining fd t hphase ?_
      cases e with
      | spawn t' =>
        obtain ⟨⟨fd', hlooping⟩, -⟩ := hallows
        rw [hlooping] at hphase
        cases hphase
      | joined t' => cases hm
      | _ => exact hworker
    | true =>
      rw [lastMove_moves hm]
      have hentered : (Phase.joining fd).entered e = true := by
        rw [← hphase, ← step_phase]
        exact Came.entered ⟨c.phase, goes_of_allows hm hallows⟩
      cases e with
      | join t' => rw [Option.some.inj (hallows.2.symm.trans hworker)]
      | _ => cases hentered

theorem Counted.entered (h : Counted cfg log c) (he : lastMove log = some e) :
    c.phase.entered e = true := by
  have hcame := h.came
  rw [he] at hcame
  exact hcame.entered

theorem Counted.moved (h : Counted cfg log c) (hphase : c.phase ≠ .due) :
    ∃ e, lastMove log = some e ∧ c.phase.entered e = true := by
  cases hlast : lastMove log with
  | none =>
    have hcame := h.came
    rw [hlast] at hcame
    exact absurd hcame hphase
  | some e => exact ⟨e, rfl, h.entered hlast⟩

theorem Counted.due (h : Counted cfg log c) (hphase : c.phase = .due)
    (he : lastMove log = some e) : ∃ attempts, e = .sleep attempts := by
  have hentered := h.entered he
  rw [hphase] at hentered
  cases e with
  | sleep attempts => exact ⟨attempts, rfl⟩
  | _ => cases hentered

theorem Counted.lost (h : Counted cfg log c) (hphase : c.phase = .lost) :
    ∃ what, lastMove log = some (.lost what) ∧ 0 < losses log := by
  obtain ⟨e, hlast, hentered⟩ := h.moved (by rw [hphase]; simp)
  rw [hphase] at hentered
  cases e with
  | lost what => exact ⟨what, hlast, losses_pos hlast⟩
  | _ => cases hentered

theorem counted (h : (machine cfg).Accepts {} log) :
    Counted cfg log ((machine cfg).after {} log) ∧ Everywhere (FollowsUp cfg) [] log := by
  apply h.induction fun log c => Counted cfg log c ∧ Everywhere (FollowsUp cfg) [] log
  case start =>
    refine ⟨⟨rfl, rfl, fun k _ hk => absurd hk (Nat.not_lt_zero k), fun _ h => ?_, ?_⟩,
      everywhere_nil _⟩
    · exact absurd h (Nat.lt_irrefl 0)
    · exact fun _ _ h => by cases h
  case next =>
    intro log c e ⟨hcounted, hlog⟩ hallows
    exact ⟨hcounted.next hallows,
      (everywhere_concat _ _ _).mpr ⟨hlog, hcounted.followsUp hallows⟩⟩

end Losses

namespace Sample

def orderly : List Link := [link [Daemon.registered, Daemon.shutdown]]

def dropped : List Link := [link [Daemon.registered]]

end Sample

end AegisSdk.Cpp
