import AegisSdk.Cpp.Ends

/-!
Whether a `stop()` is heeded. It clears the flag that `run_once` sets when the registration is
over and that the message loop reads; between the loss of a connection and the next message
loop nothing reads it, and the next message loop begins by setting it.
-/

set_option autoImplicit false
set_option relaxedAutoImplicit false

namespace AegisSdk.Cpp

open AegisSdk.Protocol AegisSdk.Library

def Event.opens : Event → Bool
  | .socket _ | .connect _ _ => true
  | _ => false

def Event.isDispatch : Event → Bool
  | .dispatch _ => true
  | _ => false

/-- Whether a read of the message loop is in progress, or its message still to be handled. -/
def Event.pend (pending : Bool) : Event → Bool
  | .head running => running
  | .recv result => result.isOk
  | .dispatch _ => false
  | _ => pending

def pending (log : List Event) : Bool := log.foldl Event.pend false

/-- After a `stop()` has returned no connection is opened, no message is dispatched but the one
whose read was in progress, and the run ends. -/
def Heeded (outcome : Option Outcome) (trace : List Event) : Prop :=
  ∀ pre s post, trace = pre ++ .stopRequests s :: post →
    (∀ e ∈ post, e.opens = false) ∧
    post.countP Event.isDispatch ≤ (if pending pre then 1 else 0) ∧
    ∃ o, outcome = some o ∧ o ≠ .hung

structure Seen where
  /-- the attempt to connect of this turn is made, and its connection not lost -/
  attempted : Bool := false
  losses : Nat := 0
  /-- `stop()` has cleared the flag -/
  stopped : Bool := false
  /-- the message loop was entered after that -/
  late : Bool := false

def Seen.step (s : Seen) : Event → Seen
  | .connect _ _ | .connectFailed _ | .socketFailed => { s with attempted := true }
  | .lost _ => { s with attempted := false, losses := s.losses + 1 }
  | .stopClears => { s with stopped := true }
  | .setRunning => { s with late := s.stopped }
  | _ => s

def seen (log : List Event) : Seen := log.foldl Seen.step {}

instance (cfg : Config) (losses : Nat) : Decidable (cfg.retries losses) :=
  inferInstanceAs (Decidable (_ ∧ ¬_))

def Fate.isReturn : Fate → Bool
  | .returns _ => true
  | _ => false

/-- A `stop()` comes when the attempt to connect is made; after it no loss is followed by another
attempt and no message comes in a loop that is entered later; no join waits for ever. -/
def Event.timely (cfg : Config) (th : Threads) (s : Seen) : Event → Bool
  | .stopClears => s.attempted
  | .lost _ => !(s.stopped && decide (cfg.retries (s.losses + 1)))
  | .recv result => !(s.late && result.isOk)
  | .join t => (th.fate t).isReturn
  | .destroy t => decide (th.fate t ≠ .never)
  | _ => true

def Timely (cfg : Config) (th : Threads) (past : List Event) (e : Event) : Prop :=
  e.timely cfg th (seen past) = true

instance (cfg : Config) (th : Threads) (past : List Event) (e : Event) :
    Decidable (Timely cfg th past e) :=
  inferInstanceAs (Decidable (_ = true))

def Phase.attempted : Phase → Bool
  | .due | .opened _ | .lost => false
  | _ => true

/-- A message may be dispatched without another look at the flag. -/
def Phase.inHand : Phase → Bool
  | .reading _ | .received _ _ => true
  | _ => false

section Log

variable {cfg : Config} {th : Threads} {log : List Event} {c : Control} {e : Event}

theorem seen_concat : seen (log ++ [e]) = (seen log).step e := List.foldl_append

theorem pending_concat : pending (log ++ [e]) = e.pend (pending log) := List.foldl_append

/-- What is known at a place of the machine if every `stop()` was timely. -/
structure Halting (cfg : Config) (log : List Event) (c : Control) : Prop where
  attempted : (seen log).attempted = c.phase.attempted
  losses : (seen log).losses = c.losses
  calls : 0 < c.calls → (seen log).stopped = true
  settled : (seen log).stopped = true →
    c.phase.attempted = true ∨ (c.phase = .lost ∧ ¬cfg.retries c.losses)
  quiet : (seen log).stopped = true → (seen log).late = false → c.phase.inLoop = true →
    c.running = false
  late : (seen log).late = true → ∀ fd env, c.phase ≠ .received fd env
  inHand : c.phase.inHand = true → pending log = true

theorem Halting.start : Halting cfg [] {} :=
  ⟨rfl, rfl, by simp, by simp [seen], by simp [seen], by simp [seen], by simp [Phase.inHand]⟩

theorem Halting.outside (hattempted : (seen log).attempted = c.phase.attempted)
    (hlosses : (seen log).losses = c.losses) (hcalls : 0 < c.calls → (seen log).stopped = true)
    (hsettled : (seen log).stopped = true →
      c.phase.attempted = true ∨ (c.phase = .lost ∧ ¬cfg.retries c.losses))
    (hloop : c.phase.inLoop = false) : Halting cfg log c := by
  refine ⟨hattempted, hlosses, hcalls, hsettled, by simp [hloop], ?_, ?_⟩
  · rintro - fd env hphase
    rw [hphase] at hloop
    cases hloop
  · intro hhand
    cases hphase : c.phase <;> simp_all [Phase.inLoop, Phase.inHand]

theorem Halting.goes (h : Halting cfg log c) (hseen : (seen log).step e = seen log)
    (hlosses : (c.step e).losses = c.losses) (hcalls : (c.step e).calls = c.calls)
    (hbefore : c.phase.attempted = true) (hafter : (c.step e).phase.attempted = true)
    (hloop : (c.step e).phase.inLoop = false) : Halting cfg (log ++ [e]) (c.step e) := by
  refine .outside ?_ ?_ ?_ (fun _ => .inl hafter) hloop <;> rw [seen_concat, hseen]
  · rw [h.attempted, hbefore, hafter]
  · rw [h.losses, hlosses]
  · rw [hcalls]
    exact h.calls

theorem Halting.tries (h : Halting cfg log c)
    (hseen : (seen log).step e = { seen log with attempted := true })
    (hlosses : (c.step e).losses = c.losses) (hcalls : (c.step e).calls = c.calls)
    (hafter : (c.step e).phase.attempted = true) (hloop : (c.step e).phase.inLoop = false) :
    Halting cfg (log ++ [e]) (c.step e) := by
  refine .outside ?_ ?_ ?_ (fun _ => .inl hafter) hloop <;> rw [seen_concat, hseen]
  · exact hafter.symm
  · rw [hlosses]
    exact h.losses
  · rw [hcalls]
    exact h.calls

theorem Halting.loops (h : Halting cfg log c) (hseen : (seen log).step e = seen log)
    (hlosses : (c.step e).losses = c.losses) (hcalls : (c.step e).calls = c.calls)
    (hrunning : (c.step e).running = c.running) (hbefore : c.phase.inLoop = true)
    (hafter : (c.step e).phase.attempted = true)
    (hlate : (seen log).late = true → ∀ fd env, (c.step e).phase ≠ .received fd env)
    (hhand : (c.step e).phase.inHand = true → e.pend (pending log) = true) :
    Halting cfg (log ++ [e]) (c.step e) := by
  have hattempted : c.phase.attempted = true := by
    cases hphase : c.phase <;> simp_all [Phase.inLoop, Phase.attempted]
  constructor
  case attempted => rw [seen_concat, hseen, h.attempted, hattempted, hafter]
  case losses => rw [seen_concat, hseen, h.losses, hlosses]
  case calls =>
    rw [seen_concat, hseen, hcalls]
    exact h.calls
  case settled => exact fun _ => .inl hafter
  case quiet =>
    rw [seen_concat, hseen, hrunning]
    exact fun hstopped hnot _ => h.quiet hstopped hnot hbefore
  case late =>
    rw [seen_concat, hseen]
    exact hlate
  case inHand =>
    rw [pending_concat]
    exact hhand

theorem seen_of_not_moves (hm : e.moves = false) (hstop : e ≠ .stopClears) (s : Seen) :
    s.step e = s := by
  cases e <;> first | rfl | exact absurd rfl hstop | cases hm

theorem pend_of_not_moves (hm : e.moves = false) (b : Bool) : e.pend b = b := by
  cases e <;> first | rfl | cases hm

theorem running_of_not_moves (hm : e.moves = false) (hstop : e ≠ .stopClears) (c : Control) :
    (c.step e).running = c.running := by
  cases e <;> first | rfl | exact absurd rfl hstop | cases hm

theorem calls_le (hstop : e ≠ .stopClears) (c : Control) : (c.step e).calls ≤ c.calls := by
  cases e <;> first | exact Nat.le_refl _ | exact Nat.sub_le _ _ | exact absurd rfl hstop

theorem losses_of_not_moves (hm : e.moves = false) (c : Control) :
    (c.step e).losses = c.losses := by
  cases e <;> first | rfl | cases hm

theorem Halting.stays (h : Halting cfg log c) (hm : e.moves = false) (hs : Timely cfg th log e) :
    Halting cfg (log ++ [e]) (c.step e) := by
  by_cases hstop : e = .stopClears
  · subst hstop
    have hattempted : c.phase.attempted = true := h.attempted ▸ hs
    constructor
    case attempted => rw [seen_concat, phase_of_not_moves hm]; exact h.attempted
    case losses => rw [seen_concat]; exact h.losses
    case calls => rw [seen_concat]; exact fun _ => rfl
    case settled => rw [phase_of_not_moves hm]; exact fun _ => .inl hattempted
    case quiet => exact fun _ _ _ => rfl
    case late => rw [seen_concat, phase_of_not_moves hm]; exact h.late
    case inHand => rw [pending_concat, phase_of_not_moves hm]; exact h.inHand
  · have hseen := seen_of_not_moves hm hstop (seen log)
    constructor
    case attempted => rw [seen_concat, hseen, phase_of_not_moves hm]; exact h.attempted
    case losses => rw [seen_concat, hseen, losses_of_not_moves hm]; exact h.losses
    case calls =>
      rw [seen_concat, hseen]
      exact fun hcalls => h.calls (Nat.lt_of_lt_of_le hcalls (calls_le hstop c))
    case settled =>
      rw [seen_concat, hseen, phase_of_not_moves hm, losses_of_not_moves hm]
      exact h.settled
    case quiet =>
      rw [seen_concat, hseen, phase_of_not_moves hm, running_of_not_moves hm hstop]
      exact h.quiet
    case late => rw [seen_concat, hseen, phase_of_not_moves hm]; exact h.late
    case inHand =>
      rw [pending_concat, pend_of_not_moves hm, phase_of_not_moves hm]
      exact h.inHand

theorem answered_outside (fd : Nat) (result : Except Exception Envelope) :
    (Phase.answered fd result).attempted = true ∧ (Phase.answered fd result).inLoop = false := by
  unfold Phase.answered
  split <;> exact ⟨rfl, rfl⟩

theorem dispatched_attempted (fd : Nat) (env : Envelope) :
    (Phase.dispatched fd env).attempted = true ∧ (Phase.dispatched fd env).inHand = false := by
  unfold Phase.dispatched
  split <;> exact ⟨rfl, rfl⟩

theorem caught_outside (ex : Exception) :
    (Phase.caught ex).attempted = true ∧ (Phase.caught ex).inLoop = false := by
  unfold Phase.caught
  split
  · exact ⟨rfl, rfl⟩
  · split <;> exact ⟨rfl, rfl⟩

theorem Halting.next (h : Halting cfg log c) (hallows : c.allows cfg e)
    (hs : Timely cfg th log e) : Halting cfg (log ++ [e]) (c.step e) := by
  by_cases hm : e.moves = false
  · exact h.stays hm hs
  obtain ⟨phase, running, source, worker, states, sockets, calls, losses⟩ := c
  have hseen : seen (log ++ [e]) = (seen log).step e := seen_concat
  cases e with
  | socket fd =>
    obtain ⟨rfl, -⟩ := hallows
    refine .outside ?_ ?_ ?_ ?_ rfl <;> rw [hseen]
    · exact h.attempted
    · exact h.losses
    · exact h.calls
    · intro hstopped
      rcases h.settled hstopped with hattempted | ⟨hphase, -⟩
      · cases hattempted
      · cases hphase
  | socketFailed =>
    obtain rfl : phase = .due := hallows
    exact h.tries rfl rfl rfl rfl rfl
  | connect fd link =>
    obtain rfl : phase = .opened fd := hallows
    exact h.tries rfl rfl rfl rfl rfl
  | connectFailed fd =>
    obtain rfl : phase = .opened fd := hallows
    exact h.tries rfl rfl rfl rfl rfl
  | close fd =>
    obtain rfl | rfl : phase = .refused fd ∨ phase = .shut fd := hallows
    all_goals exact h.goes rfl rfl rfl rfl rfl rfl
  | reply result =>
    obtain ⟨fd, rfl⟩ : ∃ fd, phase = .connected fd := hallows
    have hphase := answered_outside fd result
    exact h.goes rfl rfl rfl rfl hphase.1 hphase.2
  | setRunning =>
    obtain ⟨fd, rfl⟩ : ∃ fd, phase = .accepted fd := hallows
    constructor
    case attempted => rw [hseen]; exact h.attempted
    case losses => rw [hseen]; exact h.losses
    case calls => rw [hseen]; exact h.calls
    case settled => exact fun _ => .inl rfl
    case quiet =>
      rw [hseen]
      intro hstopped hlate
      cases hstopped.symm.trans hlate
    case late => exact fun _ fd env hphase => by cases hphase
    case inHand => exact fun hhand => by cases hhand
  | head b =>
    obtain ⟨⟨fd, rfl⟩, hb⟩ := hallows
    cases b with
    | false =>
      exact h.goes rfl rfl rfl rfl rfl rfl
    | true =>
      exact h.loops rfl rfl rfl rfl rfl rfl (fun _ fd env hphase => by cases hphase) fun _ => rfl
  | recv result =>
    obtain ⟨fd, rfl⟩ : ∃ fd, phase = .reading fd := hallows
    cases result with
    | error ex =>
      exact h.goes rfl rfl rfl rfl rfl rfl
    | ok env =>
      have hlate : (seen log).late = false := by
        simpa [Timely, Event.timely, Except.isOk, Except.toBool] using hs
      refine h.loops rfl rfl rfl rfl rfl rfl ?_ fun _ => rfl
      exact fun h => by cases hlate.symm.trans h
  | dispatch env =>
    obtain ⟨fd, rfl⟩ : ∃ fd, phase = .received fd env := hallows
    have hphase := dispatched_attempted fd env
    refine h.loops rfl rfl rfl rfl rfl hphase.1 ?_ ?_
    · exact fun hlate => absurd rfl (h.late hlate fd env)
    · exact fun hhand => by cases hphase.2.symm.trans hhand
  | join t =>
    obtain ⟨⟨fd, rfl⟩, -⟩ := hallows
    exact h.goes rfl rfl rfl rfl rfl rfl
  | joined t =>
    obtain ⟨⟨fd, rfl⟩, -⟩ := hallows
    exact h.goes rfl rfl rfl rfl rfl rfl
  | onShutdown =>
    obtain ⟨⟨fd, rfl⟩, -⟩ := hallows
    exact h.goes rfl rfl rfl rfl rfl rfl
  | left =>
    obtain rfl | ⟨ex, fd, rfl⟩ : phase = .closed ∨ ∃ ex fd, phase = .thrown ex fd := hallows
    · exact h.goes rfl rfl rfl rfl rfl rfl
    · have hphase := caught_outside ex
      exact h.goes rfl rfl rfl rfl hphase.1 hphase.2
  | lost what =>
    obtain rfl : phase = .failed what := hallows
    refine .outside ?_ ?_ ?_ ?_ rfl <;> rw [hseen]
    · rfl
    · exact congrArg (· + 1) h.losses
    · exact h.calls
    · intro hstopped
      refine .inr ⟨rfl, fun hretries => ?_⟩
      have hlosses : (seen log).losses = losses := h.losses
      have hstopped : (seen log).stopped = true := hstopped
      have hretries : cfg.retries (losses + 1) := hretries
      simp [Timely, Event.timely, hstopped, hlosses, hretries] at hs
  | sleep attempts =>
    obtain ⟨rfl, hretries⟩ := hallows
    refine .outside ?_ ?_ ?_ ?_ rfl <;> rw [hseen]
    · exact h.attempted
    · exact h.losses
    · exact h.calls
    · intro hstopped
      rcases h.settled hstopped with hattempted | ⟨-, hno⟩
      · cases hattempted
      · exact absurd hretries hno
  | _ => exact absurd rfl hm

theorem halting (h : (machine cfg).Accepts {} log) (hs : Everywhere (Timely cfg th) [] log) :
    Halting cfg log ((machine cfg).after {} log) := by
  apply h.induction_everywhere hs (Halting cfg)
  case start => exact .start
  case next => exact fun _ _ _ ih hallows hnow => ih.next hallows hnow

theorem stopped_step (s : Seen) (h : s.stopped = true) (e : Event) :
    (s.step e).stopped = true := by
  cases e <;> first | exact h | rfl

theorem stopped_append {rest : List Event} (h : (seen log).stopped = true) :
    (seen (log ++ rest)).stopped = true := by
  induction rest generalizing log with
  | nil => simpa using h
  | cons e rest ih =>
    rw [List.append_cons]
    apply ih
    rw [seen_concat]
    exact stopped_step _ h e

/-- How many messages may still be dispatched after a `stop()`. -/
def budget (s : Seen) : Phase → Nat
  | .reading _ => if s.late then 0 else 1
  | .received _ _ => 1
  | _ => 0

theorem budget_of_not_inHand {p : Phase} (h : p.inHand = false) (s : Seen) : budget s p = 0 := by
  cases p <;> first | rfl | cases h

theorem budget_le (p : Phase) (s : Seen) : budget s p ≤ if p.inHand then 1 else 0 := by
  cases p with
  | reading fd =>
    show (if s.late then 0 else 1) ≤ 1
    split <;> omega
  | received fd env => exact Nat.le_refl 1
  | _ => exact Nat.zero_le _

theorem inHand_of_next {p : Phase} (h : (p.next e).inHand = true) : p.next e = p ∨
    (∃ fd, p = .looping fd ∧ e = .head true) ∨
    ∃ fd env, p = .reading fd ∧ e = .recv (.ok env) := by
  unfold Phase.next at h ⊢
  split at h
  case h_6 fd result =>
    unfold Phase.answered at h
    split at h <;> cases h
  case h_8 fd => exact .inr (.inl ⟨fd, rfl, rfl⟩)
  case h_10 fd env => exact .inr (.inr ⟨fd, env, rfl, rfl⟩)
  case h_12 fd env' env => cases (dispatched_attempted fd env).2.symm.trans h
  case h_18 ex fd =>
    unfold Phase.caught at h
    split at h
    · cases h
    · split at h <;> cases h
  case h_21 => exact .inl (by simp [*])
  all_goals cases h

/-- After a `stop()` no connection is opened. -/
theorem Halting.opens (h : Halting cfg log c) (hallows : c.allows cfg e)
    (hstopped : (seen log).stopped = true) : e.opens = false := by
  have hsettled := h.settled hstopped
  cases e with
  | socket fd =>
    obtain ⟨hphase, -⟩ := hallows
    rw [hphase] at hsettled
    rcases hsettled with hattempted | ⟨hlost, -⟩
    · cases hattempted
    · cases hlost
  | connect fd link =>
    have hphase : c.phase = .opened fd := hallows
    rw [hphase] at hsettled
    rcases hsettled with hattempted | ⟨hlost, -⟩
    · cases hattempted
    · cases hlost
  | _ => rfl

/-- After a `stop()` a dispatch is paid for. -/
theorem Halting.pays (h : Halting cfg log c) (hallows : c.allows cfg e)
    (hs : Timely cfg th log e) (hstopped : (seen log).stopped = true) :
    (if e.isDispatch then 1 else 0) + budget ((seen log).step e) (c.step e).phase ≤
      budget (seen log) c.phase := by
  rw [step_phase]
  cases hhand : (c.phase.next e).inHand with
  | false =>
    rw [budget_of_not_inHand hhand]
    cases e with
    | dispatch env =>
      obtain ⟨fd, hphase⟩ : ∃ fd, c.phase = .received fd env := hallows
      rw [hphase]
      exact Nat.le_refl 1
    | _ => exact Nat.zero_le _
  | true =>
    rcases inHand_of_next hhand with hsame | ⟨fd, hphase, rfl⟩ | ⟨fd, env, hphase, rfl⟩
    · cases e with
      | dispatch env =>
        obtain ⟨fd, hphase⟩ : ∃ fd, c.phase = .received fd env := hallows
        rw [hphase] at hhand
        cases (dispatched_attempted fd env).2.symm.trans hhand
      | setRunning =>
        obtain ⟨fd, hphase⟩ : ∃ fd, c.phase = .accepted fd := hallows
        rw [hphase] at hhand
        cases hhand
      | _ =>
        rw [hsame]
        exact Nat.le_of_eq (Nat.zero_add _)
    · have hrunning : c.running = true := hallows.2.symm
      have hlate : (seen log).late = true := by
        by_contra hlate
        have hquiet := h.quiet hstopped (by simpa using hlate) (by rw [hphase]; rfl)
        cases hrunning.symm.trans hquiet
      rw [hphase]
      show 0 + (if (seen log).late = true then 0 else 1) ≤ 0
      simp [hlate]
    · have hlate : (seen log).late = false := by
        simpa [Timely, Event.timely, Except.isOk, Except.toBool] using hs
      rw [hphase]
      show 0 + 1 ≤ if (seen log).late = true then 0 else 1
      simp [hlate]

theorem dispatches_le {rest : List Event} (h : Halting cfg log c)
    (haccepts : (machine cfg).Accepts c rest) (hs : Everywhere (Timely cfg th) log rest)
    (hstopped : (seen log).stopped = true) : (∀ e ∈ rest, e.opens = false) ∧
      rest.countP Event.isDispatch ≤ budget (seen log) c.phase := by
  induction rest generalizing log c with
  | nil => exact ⟨by simp, Nat.zero_le _⟩
  | cons e rest ih =>
    obtain ⟨hallows, hrest⟩ := haccepts
    obtain ⟨hnow, hlater⟩ := (everywhere_cons _ _ _).mp hs
    have hnext := h.next hallows hnow
    have hstep : (seen (log ++ [e])).stopped = true := stopped_append hstopped
    obtain ⟨hopens, hcount⟩ := ih hnext hrest hlater hstep
    have hpays := h.pays hallows hnow hstopped
    rw [seen_concat] at hcount
    constructor
    · intro e' he'
      rcases List.mem_cons.mp he' with rfl | he'
      · exact h.opens hallows hstopped
      · exact hopens e' he'
    · rw [List.countP_cons]
      omega

theorem dispatches_after {pre post : List Event} {s : Nat}
    (haccepts : (machine cfg).Accepts {} (pre ++ .stopRequests s :: post))
    (hs : Everywhere (Timely cfg th) [] (pre ++ .stopRequests s :: post)) :
    (seen (pre ++ .stopRequests s :: post)).stopped = true ∧
    (∀ e ∈ post, e.opens = false) ∧
    post.countP Event.isDispatch ≤ if pending pre then 1 else 0 := by
  obtain ⟨hpre, hstop, hpost⟩ := (Monitor.accepts_append _ _ _ _).mp haccepts
  obtain ⟨hspre, hsrest⟩ := (everywhere_append _ _ _).mp hs
  obtain ⟨hsstop, hspost⟩ := (everywhere_cons _ _ _).mp hsrest
  have hat := halting hpre hspre
  have hstopped : (seen pre).stopped = true := hat.calls hstop.2
  have hnext := hat.next (e := .stopRequests s) hstop hsstop
  obtain ⟨hopens, hcount⟩ := dispatches_le hnext hpost hspost (stopped_append hstopped)
  refine ⟨stopped_append hstopped, hopens, ?_⟩
  have hphase : (((machine cfg).after {} pre).step (.stopRequests s)).phase =
      ((machine cfg).after {} pre).phase := phase_of_not_moves rfl _
  rw [hphase] at hcount
  apply Nat.le_trans hcount
  apply Nat.le_trans (budget_le _ _)
  by_cases hhand : ((machine cfg).after {} pre).phase.inHand = true
  · rw [if_pos hhand, if_pos (hat.inHand hhand)]
  · rw [if_neg hhand]
    exact Nat.zero_le _

end Log

section Run

variable {rt : Runtime} {cfg : Config} {th : Threads}

theorem Stuck.not_timely {fd n : Nat} {w : World} (h : Stuck cfg th fd n w)
    (hs : Everywhere (Timely cfg th) [] w.trace) : False := by
  cases h with
  | join t hat _ hjoin hfate =>
    obtain ⟨pre, post, htrace⟩ := List.append_of_mem hjoin
    have hreturn : (th.fate t).isReturn = true := hs pre _ post htrace
    cases hf : th.fate t with
    | returns step => exact hfate step hf
    | whenTold => cases (hf ▸ hreturn)
    | never => cases (hf ▸ hreturn)
  | destroy t hat hdestroy hfate =>
    obtain ⟨pre, post, htrace⟩ := List.append_of_mem hdestroy
    have htimely : decide (th.fate t ≠ .never) = true := hs pre _ post htrace
    exact of_decide_eq_true htimely hfate

/-- A run with a `stop()` ends. -/
theorem ends_of_stopped {outcome : Option Outcome} {w : World} (h : Ended cfg th outcome w)
    (hs : Everywhere (Timely cfg th) [] w.trace) (hstopped : (seen w.trace).stopped = true) :
    ∃ o, outcome = some o ∧ o ≠ .hung := by
  have hat := halting h.accepted hs
  cases h with
  | waits hdue =>
    rw [hdue.control] at hat
    rcases hat.settled hstopped with hattempted | ⟨hlost, -⟩
    · cases hattempted
    · cases hlost
  | hung hstuck => exact absurd hs hstuck.not_timely
  | _ => exact ⟨_, rfl, Outcome.noConfusion⟩

/-- A run in which every `stop()` is timely heeds it. -/
theorem stop_heeded (rt : Runtime) (cfg : Config) (th : Threads) (links : List Link)
    (hs : Everywhere (Timely cfg th) [] (run rt cfg th links).2.trace) :
    Heeded (run rt cfg th links).1 (run rt cfg th links).2.trace := by
  have ended : Ended cfg th (run rt cfg th links).1 (run rt cfg th links).2 := run_at links
  intro pre s post htrace
  have haccepts := ended.accepted
  have hs' := hs
  rw [htrace] at haccepts hs'
  obtain ⟨hstopped, hopens, hcount⟩ := dispatches_after haccepts hs'
  exact ⟨hopens, hcount, ends_of_stopped ended hs (htrace ▸ hstopped)⟩

end Run

namespace Sample

/-- One call of `stop()` before this step of the thread in `run`. -/
def stopsAt (step : Nat) : Threads where
  stops n := if n = step then [.clear, .request] else []

end Sample

theorem stop_heeded_sample :
    Heeded (run Sample.runtime Sample.config (Sample.stopsAt 7) Sample.orderly).1
      (run Sample.runtime Sample.config (Sample.stopsAt 7) Sample.orderly).2.trace :=
  stop_heeded Sample.runtime Sample.config (Sample.stopsAt 7) Sample.orderly (by decide +kernel)

def Event.isReturn : Event → Bool
  | .stopRequests _ => true
  | _ => false

theorem not_heeded {outcome : Option Outcome} {log : List Event} {k : Nat}
    (hreturn : (log[k]?).any Event.isReturn = true) (hpending : pending (log.take k) = false)
    (hdispatch : (log.drop (k + 1)).any Event.isDispatch = true) : ¬Heeded outcome log := by
  intro h
  obtain ⟨e, hkind, hsplit⟩ := split_of_any hreturn
  cases e with
  | stopRequests s =>
    have hbound := (h _ s _ hsplit).2.1
    rw [hpending] at hbound
    obtain ⟨e, he, hdisp⟩ := List.any_eq_true.mp hdispatch
    have hpos : 0 < (log.drop (k + 1)).countP Event.isDispatch :=
      List.countP_pos_iff.mpr ⟨e, he, hdisp⟩
    exact absurd (Nat.lt_of_lt_of_le hpos hbound) (by decide)
  | _ => cases hkind

/-- A `stop()` is lost while the client registers. -/
theorem stop_lost : ¬ ∀ (rt : Runtime) (cfg : Config) (th : Threads) (links : List Link),
    Heeded (run rt cfg th links).1 (run rt cfg th links).2.trace := by
  intro h
  let log := (run Sample.runtime Sample.config (Sample.stopsAt 3) Sample.orderly).2.trace
  have overridden : (log[4]?).any Event.isReturn = true ∧ pending (log.take 4) = false ∧
      (log.drop 5).any Event.isDispatch = true := by
    decide +kernel
  obtain ⟨returned, idle, dispatched⟩ := overridden
  exact not_heeded returned idle dispatched
    (h Sample.runtime Sample.config (Sample.stopsAt 3) Sample.orderly)

end AegisSdk.Cpp
