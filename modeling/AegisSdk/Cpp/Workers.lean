import AegisSdk.Cpp.Machine

/-!
Which worker is told to stop. `graceful_shutdown` and `stop()` request the stop of
`stop_source_`, while the worker holds the token of the state that its `jthread` has of its
own; only the destructor of the `jthread` requests that one.
-/

set_option autoImplicit false
set_option relaxedAutoImplicit false

namespace AegisSdk.Cpp

open AegisSdk.Protocol AegisSdk.Library

def Event.request : Event → Option Nat
  | .destroy t => some t
  | .requestStop s => some s
  | .stopRequests s => some s
  | _ => none

/-- The token of the worker is in the state that a stop is requested. -/
def Requested (log : List Event) (t : Nat) : Prop := ∃ e ∈ log, e.request = some t

def Event.place (worker : Option Nat) : Event → Option Nat
  | .spawn t => some t
  | .joined _ => none
  | _ => worker

def placed (log : List Event) : Option Nat := log.foldl Event.place none

def Event.foreign : Event → Bool
  | .stopClears => true
  | .stopRequests _ => true
  | _ => false

def Alive (th : Threads) (log : List Event) (t : Nat) : Prop :=
  ∀ step, th.fate t = .returns step → log.countP (fun e => !e.foreign) < step

/-- Where `join` is reached the token of the worker is told, and where `stop()` has returned
that of the live worker. -/
def WorkerTold (th : Threads) (past : List Event) : Event → Prop
  | .join t => Requested past t
  | .stopRequests s => ∀ t, placed past = some t → Alive th past t →
      Requested (past ++ [.stopRequests s]) t
  | _ => True

/-- A shutdown finds no worker in place, and a `stop()` none that is alive. -/
def NoWorker (th : Threads) (past : List Event) : Event → Prop
  | .head running => running = false → placed past = none
  | .recv result => result.isOk = false → placed past = none
  | .dispatch env => reaction env = .ok true → placed past = none
  | .stopRequests _ => ∀ t, placed past = some t → ¬Alive th past t
  | _ => True

section Log

variable {cfg : Config} {th : Threads} {log : List Event} {c : Control} {e : Event} {t : Nat}

theorem placed_concat : placed (log ++ [e]) = e.place (placed log) :=
  List.foldl_append

theorem requested_concat : Requested (log ++ [e]) t ↔ Requested log t ∨ e.request = some t := by
  simp [Requested, or_and_right, exists_or]

theorem step_worker (c : Control) (e : Event) : (c.step e).worker = e.place c.worker := by
  cases e <;> rfl

/-- A worker has a state of its own, in which no stop is requested while it is in place. -/
structure Owned (log : List Event) (c : Control) : Prop where
  worker : placed log = c.worker
  source : c.source < c.states
  requested : ∀ t, Requested log t → t < c.states
  own : ∀ t, c.worker = some t → t < c.states ∧ t ≠ c.source ∧ ¬Requested log t

/-- The state that an event requests is an old one, and not that of the worker in place. -/
theorem Owned.request (h : Owned log c) (hallows : c.allows cfg e) {t : Nat}
    (ht : e.request = some t) : t < c.states ∧ c.worker ≠ some t := by
  cases e with
  | destroy t' =>
    cases ht
    exact hallows.2
  | requestStop s =>
    cases ht
    obtain rfl : t = c.source := hallows
    exact ⟨h.source, fun hworker => (h.own _ hworker).2.1 rfl⟩
  | stopRequests s =>
    cases ht
    obtain ⟨rfl, -⟩ := hallows
    exact ⟨h.source, fun hworker => (h.own _ hworker).2.1 rfl⟩
  | _ => cases ht

theorem states_le (c : Control) (e : Event) : c.states ≤ (c.step e).states := by
  cases e <;> first | exact Nat.le_refl _ | exact Nat.le_succ _

theorem Owned.next (h : Owned log c) (hallows : c.allows cfg e) :
    Owned (log ++ [e]) (c.step e) where
  worker := by rw [placed_concat, h.worker, step_worker]
  source := by
    cases e with
    | newSource s =>
      obtain ⟨-, rfl⟩ := hallows
      exact Nat.lt_succ_self _
    | spawn t => exact Nat.lt_succ_of_lt h.source
    | _ => exact h.source
  requested := by
    intro t ht
    refine Nat.lt_of_lt_of_le ?_ (states_le c e)
    rcases requested_concat.mp ht with ht | ht
    · exact h.requested t ht
    · exact (h.request hallows ht).1
  own := by
    intro t ht
    rw [step_worker] at ht
    rw [requested_concat]
    cases e with
    | spawn t' =>
      cases ht
      obtain ⟨-, rfl⟩ := hallows
      refine ⟨Nat.lt_succ_self _, Nat.ne_of_gt h.source, ?_⟩
      rintro (hlog | hnow)
      · exact Nat.lt_irrefl _ (h.requested _ hlog)
      · cases hnow
    | joined t' => cases ht
    | newSource s =>
      obtain ⟨-, rfl⟩ := hallows
      obtain ⟨hlt, -, hnot⟩ := h.own t ht
      refine ⟨Nat.lt_succ_of_lt hlt, Nat.ne_of_lt hlt, ?_⟩
      rintro (hlog | hnow)
      · exact hnot hlog
      · cases hnow
    | _ =>
      obtain ⟨hlt, hne, hnot⟩ := h.own t ht
      refine ⟨hlt, hne, ?_⟩
      rintro (hlog | hnow)
      · exact hnot hlog
      · exact (h.request hallows hnow).2 ht

def Control.joins (c : Control) : Prop := (∃ fd, c.phase = .ending fd) ∧ c.worker ≠ none

theorem Owned.enters (h : Owned log c) (hallows : c.allows cfg e) (htold : WorkerTold th log e)
    (hnot : ¬NoWorker th log e) : (c.step e).joins := by
  obtain ⟨phase, running, source, worker, states, sockets, calls, losses⟩ := c
  have hplaced : placed log = worker := h.worker
  cases e with
  | head running =>
    obtain ⟨⟨fd, rfl⟩, -⟩ := hallows
    obtain ⟨rfl, hworker⟩ := Classical.not_imp.mp hnot
    exact ⟨⟨fd, rfl⟩, hplaced ▸ hworker⟩
  | recv result =>
    obtain ⟨fd, rfl⟩ : ∃ fd, phase = .reading fd := hallows
    obtain ⟨herr, hworker⟩ := Classical.not_imp.mp hnot
    cases result with
    | ok env => cases herr
    | error e => exact ⟨⟨fd, rfl⟩, hplaced ▸ hworker⟩
  | dispatch env =>
    obtain ⟨fd, rfl⟩ : ∃ fd, phase = .received fd env := hallows
    obtain ⟨hstop, hworker⟩ := Classical.not_imp.mp hnot
    refine ⟨⟨fd, ?_⟩, hplaced ▸ hworker⟩
    simp [Control.step, Phase.next, Phase.dispatched, hstop]
  | stopRequests s =>
    refine absurd (fun t ht halive => ?_) hnot
    obtain ⟨-, -, hfree⟩ := h.own t (hplaced ▸ ht)
    rcases requested_concat.mp (htold t ht halive) with hlog | hnow
    · exact hfree hlog
    · exact (h.request hallows hnow).2 (hplaced ▸ ht)
  | _ => exact absurd trivial hnot

theorem Owned.waits (h : Owned log c) (hallows : c.allows cfg e) (htold : WorkerTold th log e)
    (hjoins : c.joins) : (c.step e).joins := by
  obtain ⟨phase, running, source, worker, states, sockets, calls, losses⟩ := c
  obtain ⟨⟨fd, rfl⟩, hworker⟩ := hjoins
  cases e with
  | join t => exact absurd htold (h.own t hallows.2).2.2
  | onShutdown => exact absurd hallows.2 hworker
  | _ =>
    first
    | exact ⟨⟨fd, rfl⟩, hworker⟩
    | simp [Control.allows] at hallows

theorem told_of_noWorker (hallows : c.allows cfg e) (hnone : NoWorker th log e)
    (hends : ¬c.joins) : WorkerTold th log e := by
  cases e with
  | join t => exact absurd ⟨hallows.1, by simp [hallows.2]⟩ hends
  | stopRequests s => exact fun t ht halive => absurd halive (hnone t ht)
  | _ => trivial

theorem Owned.not_joins (h : Owned log c) (hallows : c.allows cfg e) (hnone : NoWorker th log e)
    (hends : ¬c.joins) : ¬(c.step e).joins := by
  rintro ⟨⟨fd, hphase⟩, hworker⟩
  rw [step_phase] at hphase
  rw [step_worker] at hworker
  obtain hending | ⟨-, rfl⟩ | ⟨-, ex, rfl⟩ | ⟨env, rfl, hreaction⟩ | ⟨t, rfl⟩ :=
    ending_of_next hphase
  · have hnot : c.worker = none := by
      by_contra hsome
      exact hends ⟨⟨fd, hending⟩, hsome⟩
    cases e with
    | spawn t =>
      obtain ⟨⟨fd', hlooping⟩, -⟩ := hallows
      cases hending.symm.trans hlooping
    | joined t => exact hworker rfl
    | _ => exact hworker hnot
  · exact hworker (h.worker ▸ hnone rfl)
  · exact hworker (h.worker ▸ hnone rfl)
  · exact hworker (h.worker ▸ hnone hreaction)
  · exact hworker rfl

theorem Owned.start : Owned [] {} :=
  ⟨rfl, Nat.zero_lt_one, by simp [Requested], by simp⟩

/-- As long as every worker was told no shutdown has found one, unless its join is to come. -/
structure Answered (th : Threads) (log : List Event) (c : Control) : Prop where
  owned : Owned log c
  told : Everywhere (WorkerTold th) [] log → Everywhere (NoWorker th) [] log ∨ c.joins
  none : Everywhere (NoWorker th) [] log → Everywhere (WorkerTold th) [] log ∧ ¬c.joins

theorem Answered.next (h : Answered th log c) (hallows : c.allows cfg e) :
    Answered th (log ++ [e]) (c.step e) where
  owned := h.owned.next hallows
  told := by
    rw [everywhere_concat, everywhere_concat, List.nil_append]
    rintro ⟨hlog, hnow⟩
    rcases h.told hlog with hnone | hjoins
    · by_cases hnot : NoWorker th log e
      · exact .inl ⟨hnone, hnot⟩
      · exact .inr (h.owned.enters hallows hnow hnot)
    · exact .inr (h.owned.waits hallows hnow hjoins)
  none := by
    rw [everywhere_concat, everywhere_concat, List.nil_append]
    rintro ⟨hlog, hnow⟩
    obtain ⟨htold, hends⟩ := h.none hlog
    exact ⟨⟨htold, told_of_noWorker hallows hnow hends⟩, h.owned.not_joins hallows hnow hends⟩

/-- No join finds the worker told. -/
theorem join_untold (h : (machine cfg).Accepts {} log) (ht : Event.join t ∈ log) :
    ¬Everywhere (WorkerTold th) [] log := by
  intro htold
  obtain ⟨pre, post, rfl⟩ := List.mem_iff_append.mp ht
  have hpre : (machine cfg).Accepts {} pre := h.initial (List.prefix_append _ _)
  have howned : Owned pre ((machine cfg).after {} pre) :=
    hpre.induction Owned .start fun _ _ _ hlog hallows => hlog.next hallows
  have hallows := ((Monitor.accepts_append _ _ _ _).mp h).2.1
  exact (howned.own t hallows.2).2.2 (htold pre _ post rfl)

theorem answered (h : (machine cfg).Accepts {} log) :
    Answered th log ((machine cfg).after {} log) := by
  apply h.induction (Answered th)
  case start =>
    refine ⟨.start, fun _ => .inl (everywhere_nil _), fun _ => ⟨everywhere_nil _, ?_⟩⟩
    rintro ⟨⟨fd, hphase⟩, -⟩
    cases hphase
  case next => exact fun _ _ _ hlog hallows => hlog.next hallows

end Log

theorem Ended.not_joins {cfg : Config} {th : Threads} {o : Option Outcome} {w : World}
    (h : Ended cfg th o w) : ¬((machine cfg).after {} w.trace).joins := by
  have elsewhere : ∀ {p n}, At cfg p n w → (∀ fd, p ≠ .ending fd) →
      ¬((machine cfg).after {} w.trace).joins := by
    rintro p n h hp ⟨⟨fd, hphase⟩, -⟩
    rw [h.control] at hphase
    exact hp fd hphase
  cases h with
  | waits h => exact elsewhere h (by simp)
  | returned h => exact elsewhere h (by simp)
  | rejected h => exact elsewhere h (by simp)
  | reconnectDisabled h _ => exact elsewhere h (by simp)
  | attemptsExhausted h _ => exact elsewhere h (by simp)
  | escaped h => exact elsewhere h (by simp)
  | hung h => cases h with
    | join t h _ _ _ => exact elsewhere h (by simp)
    | destroy t h _ _ => exact elsewhere h (by simp)

/-- The worker is told wherever it has to be exactly if no shutdown finds a worker in place and
no `stop()` one that is alive. -/
theorem workerTold_iff (rt : Runtime) (cfg : Config) (th : Threads) (links : List Link) :
    Everywhere (WorkerTold th) [] (run rt cfg th links).2.trace ↔
      Everywhere (NoWorker th) [] (run rt cfg th links).2.trace := by
  have ended : Ended cfg th (run rt cfg th links).1 (run rt cfg th links).2 := run_at links
  have h : Answered th _ _ := answered ended.accepted
  constructor
  · intro htold
    exact (h.told htold).resolve_right ended.not_joins
  · intro hnone
    exact (h.none hnone).1

def Event.isJoin : Event → Bool
  | .join _ => true
  | _ => false

def Sample.shutdownLinks : List Link :=
  [Sample.link [Daemon.registered, Daemon.configure, Daemon.shutdown]]

theorem Sample.some_join :
    (run Sample.runtime Sample.config {} Sample.shutdownLinks).2.trace.any Event.isJoin = true := by
  decide +kernel

theorem worker_untold : ¬ ∀ (rt : Runtime) (cfg : Config) (th : Threads) (links : List Link),
    Everywhere (WorkerTold th) [] (run rt cfg th links).2.trace := by
  intro h
  have told := h Sample.runtime Sample.config {} Sample.shutdownLinks
  obtain ⟨e, he, hjoin⟩ := List.any_eq_true.mp Sample.some_join
  cases e with
  | join t => exact join_untold (run_accepted _) he told
  | _ => cases hjoin

end AegisSdk.Cpp
