import AegisSdk.Go.History

/-!
How many workers stand at a time. `OnRunning` gets the context of the whole run, and
`handleConfig` starts it for every CONFIGURE that completes; only `gracefulShutdown` tells the
application to stop a worker, and a lost connection does not get there.
-/

set_option autoImplicit false
set_option relaxedAutoImplicit false

namespace AegisSdk.Go

open AegisSdk.Protocol AegisSdk.Library

/-- `OnRunning` has been started, and `OnShutdown` has not been called since. -/
def standing (pre : List Event) : Bool := (since Event.stops pre).any Event.starts

/-- The context is done after `k` events; `doneAt` is the number of events before it gets
done, none if it never does. -/
def ContextDone (doneAt : Option Nat) (k : Nat) : Prop := ∃ t ∈ doneAt, t ≤ k

/-- If the event starts `OnRunning`, no worker stands or its context is done. -/
def StartsAlone (doneAt : Option Nat) (pre : List Event) (e : Event) : Prop :=
  e.starts = true → standing pre = true → ContextDone doneAt pre.length

/-- `OnRunning` is not started while an earlier worker stands whose context is not done. -/
def SingleWorker (doneAt : Option Nat) (es : List Event) : Prop :=
  Everywhere (StartsAlone doneAt) [] es

/-- The number of events from the dispatch of a CONFIGURE up to the start of `OnRunning`. -/
def configureLength (handlers : Handlers) : Nat := 8 + if handlers.onConfigure then 1 else 0

/-- An accepted CONFIGURE that starts `OnRunning` is not dispatched while a worker stands
whose context stays alive until then. -/
def ConfigureAlone (handlers : Handlers) (s : Supply) (doneAt : Option Nat) (pre : List Event)
    (e : Event) : Prop :=
  ∀ m ∈ e.dispatched pre, Accepted handlers m → standing pre = true →
    (supply.after s pre).startsWorker handlers = true →
      ContextDone doneAt (pre.length + configureLength handlers)

/-- No CONFIGURE of the run starts `OnRunning` beside a worker that stands. -/
def ConfiguresAlone (handlers : Handlers) (links : List Link) (doneAt : Option Nat)
    (es : List Event) : Prop :=
  Everywhere (ConfigureAlone handlers (store links) doneAt) [] es

instance (doneAt : Option Nat) (k : Nat) : Decidable (ContextDone doneAt k) :=
  inferInstanceAs (Decidable (∃ t ∈ doneAt, _))
instance (doneAt : Option Nat) (pre : List Event) (e : Event) :
    Decidable (StartsAlone doneAt pre e) := inferInstanceAs (Decidable (_ → _ → _))

theorem standing_concat (pre : List Event) (e : Event) :
    standing (pre ++ [e]) = (!e.stops && (standing pre || e.starts)) := by
  unfold standing
  rw [since_concat]
  cases e.stops <;> simp [List.any_append]

theorem Event.stops_of_minor {e : Event} (h : e.minor = true) : e.stops = false := by
  cases e <;> first | rfl | simp [Event.minor] at h

theorem standing_append {xs : List Event} (h : ∀ e ∈ xs, e.minor = true) (pre : List Event) :
    standing (pre ++ xs) = standing pre := by
  induction xs generalizing pre with
  | nil => simp
  | cons e xs ih =>
    obtain ⟨he, hxs⟩ := List.forall_mem_cons.mp h
    rw [List.append_cons, ih hxs, standing_concat, Event.stops_of_minor he,
      Event.starts_of_minor he]
    simp

section Pieces

variable {rt : Runtime} {cfg : Config} {handlers : Handlers} {s : Supply} {doneAt : Option Nat}
  {c c' : Component} {past es es' : List Event} {v : Verdict}

def WorkersAgree (handlers : Handlers) (s : Supply) (doneAt : Option Nat) (past es : List Event) :
    Prop :=
  Everywhere (StartsAlone doneAt) past es ↔ Everywhere (ConfigureAlone handlers s doneAt) past es

theorem WorkersAgree.append (h : WorkersAgree handlers s doneAt past es)
    (h' : WorkersAgree handlers s doneAt (past ++ es) es') :
    WorkersAgree handlers s doneAt past (es ++ es') := by
  unfold WorkersAgree at *
  rw [everywhere_append, everywhere_append, h, h']

theorem startsAlone_of_not {e : Event} (h : e.starts = false) (pre : List Event) :
    StartsAlone doneAt pre e := by
  simp [StartsAlone, h]

theorem configureAlone_of_inner {e : Event} (h : e.outer = false) (pre : List Event) :
    ConfigureAlone handlers s doneAt pre e := by
  cases e with
  | dispatch => simp [Event.outer] at h
  | _ => simp [ConfigureAlone, Event.dispatched]

theorem workersAgree_of_idle (h : ∀ e ∈ es, e.starts = false ∧ e.outer = false)
    (past : List Event) : WorkersAgree handlers s doneAt past es := by
  apply iff_of_true
  · apply everywhere_of_forall
    intro e he
    exact startsAlone_of_not (h e he).1
  · apply everywhere_of_forall
    intro e he
    exact configureAlone_of_inner (h e he).2

theorem Event.idle_of_minor {e : Event} (h : e.minor = true) :
    e.starts = false ∧ e.outer = false :=
  ⟨Event.starts_of_minor h, Event.outer_of_minor h⟩

theorem Reaction.starts_not {m : Message} (h : Reaction cfg handlers m c es c' v)
    (hm : ¬ Accepted handlers m) : ∀ e ∈ es, e.starts = false := by
  by_cases hs : IsShutdown m.env
  · obtain ⟨-, ⟨ack, notice, ok, ok', -, -, rfl⟩, -⟩ := h.shutdownTail hs
    cases handlers.onShutdown <;> simp [opt, Event.starts]
  · exact fun e he => Event.starts_of_minor ((h.minor hm hs).2 e he)

theorem configureAlone_dispatch (m : Message) :
    ConfigureAlone handlers s doneAt (past ++ [.recv m]) (.dispatch m.env) ↔
      (Accepted handlers m → standing (past ++ [.recv m]) = true →
        (supply.after s (past ++ [.recv m])).startsWorker handlers = true →
          ContextDone doneAt (past.length + 1 + configureLength handlers)) := by
  simp [ConfigureAlone, Event.dispatched, Event.received]

theorem Reaction.workersAgree {m : Message} (h : Reaction cfg handlers m c es c' v)
    (ha : supply.Accepts (supply.after s (past ++ [.recv m])) es) :
    WorkersAgree handlers s doneAt (past ++ [.recv m]) (.dispatch m.env :: es) := by
  have idle : ∀ pre, StartsAlone doneAt pre (.dispatch m.env) := startsAlone_of_not rfl
  have inner : ∀ pre, Everywhere (ConfigureAlone handlers s doneAt) pre es := by
    apply everywhere_of_forall
    intro e he
    exact configureAlone_of_inner (h.inner e he)
  unfold WorkersAgree
  rw [everywhere_cons, everywhere_cons, configureAlone_dispatch, and_iff_right (idle _),
    and_iff_left (inner _)]
  by_cases acc : Accepted handlers m
  case neg =>
    apply iff_of_true
    · apply everywhere_of_forall
      intro e he
      exact startsAlone_of_not (h.starts_not acc e he)
    · intro hacc
      exact absurd hacc acc
  obtain ⟨-, xs, rfl, minor, hlength⟩ := h.stage acc ha
  rw [everywhere_skip fun e he => startsAlone_of_not (Event.starts_of_minor (minor e he))]
  have dispatched : standing (past ++ [Event.recv m] ++ [Event.dispatch m.env]) =
      standing (past ++ [Event.recv m]) := by
    rw [standing_concat]
    simp [Event.stops, Event.starts]
  cases hstart : (supply.after s (past ++ [.recv m])).startsWorker handlers with
  | false => simp [opt]
  | true =>
    have started : (supply.after s (past ++ [.recv m])).stage = .started := by
      simp only [Supply.startsWorker, Bool.and_eq_true, decide_eq_true_eq] at hstart
      exact hstart.2
    have place : (past ++ [Event.recv m] ++ [Event.dispatch m.env] ++ xs).length =
        past.length + 1 + configureLength handlers := by
      simp only [List.length_append, List.length_singleton, hlength started, configureLength]
      omega
    simp only [opt, if_true, everywhere_cons, everywhere_nil, and_true, StartsAlone, Event.starts,
      forall_const, standing_append minor, dispatched, place, acc]

theorem Session.workersAgree (h : Session cfg handlers c es c' v)
    (ha : supply.Accepts (supply.after s past) es) :
    WorkersAgree handlers s doneAt past es := by
  induction h generalizing past with
  | cancelled c err stamp ok =>
    have head : WorkersAgree handlers s doneAt past [.await c.state (some err)] := by
      simp [WorkersAgree, StartsAlone, ConfigureAlone, Event.starts, Event.dispatched]
    refine head.append (workersAgree_of_idle ?_ _)
    cases handlers.onShutdown <;> simp [opt, Event.starts, Event.outer]
  | lost c text err plain =>
    simp [WorkersAgree, StartsAlone, ConfigureAlone, Event.starts, Event.dispatched]
  | @last c c' m es v reaction hv =>
    have head : WorkersAgree handlers s doneAt past ([.await c.state none] ++ [.recv m]) := by
      simp [WorkersAgree, StartsAlone, ConfigureAlone, Event.starts, Event.dispatched]
    refine head.append ?_
    rw [← List.append_assoc]
    refine reaction.workersAgree ?_
    rw [supply.after_append, supply.after_append]
    exact ha.2.2.2
  | @next c c' c'' m es rest v reaction session ih =>
    have head : WorkersAgree handlers s doneAt past ([.await c.state none] ++ [.recv m]) := by
      simp [WorkersAgree, StartsAlone, ConfigureAlone, Event.starts, Event.dispatched]
    have taken : supply.Accepts (supply.after s (past ++ [.await c.state none] ++ [.recv m]))
        (es ++ rest) := by
      rw [supply.after_append, supply.after_append]
      exact ha.2.2.2
    obtain ⟨hes, hrest⟩ := (supply.accepts_append _ _ _).mp taken
    have dispatched : WorkersAgree handlers s doneAt
        (past ++ [.await c.state none] ++ [.recv m]) (.dispatch m.env :: es) :=
      reaction.workersAgree hes
    refine head.append ?_
    rw [← List.append_assoc]
    refine dispatched.append (ih ?_)
    rw [supply.after_append]
    exact hrest

theorem Attempt.workersAgree {res : Option GoError} (h : Attempt rt cfg handlers c es c' res)
    (ha : supply.Accepts (supply.after s past) es) :
    WorkersAgree handlers s doneAt past es := by
  rcases h.parts with minor | ⟨opening, loop, c₁, v, rfl, -, minor, -, session, -, -⟩
  · exact workersAgree_of_idle (fun e he => Event.idle_of_minor (minor e he)) past
  · obtain ⟨-, hloop⟩ := (supply.accepts_append _ _ _).mp ha
    have accepted := ((supply.accepts_append _ _ _).mp hloop).1
    rw [← supply.after_append] at accepted
    refine (workersAgree_of_idle (fun e he => Event.idle_of_minor (minor e he)) past).append
      ((session.workersAgree accepted).append ?_)
    exact workersAgree_of_idle (by simp [Event.starts, Event.outer]) _

theorem History.workersAgree {n : Nat} {delay : Duration} {links : List Link} {o : Outcome}
    (h : History rt cfg handlers n delay c links es o)
    (ha : supply.Accepts (supply.after s past) es) :
    WorkersAgree handlers s doneAt past es := by
  have waited : ∀ past delay, WorkersAgree handlers s doneAt past [.wait delay] := fun past _ =>
    workersAgree_of_idle (by simp [Event.starts, Event.outer]) past
  induction h generalizing past with
  | paused | done => exact workersAgree_of_idle (by simp) past
  | last _ _ _ attempt _ => exact attempt.workersAgree ha
  | stopped _ _ _ attempt _ _ =>
    exact (attempt.workersAgree ((supply.accepts_append _ _ _).mp ha).1).append (waited _ _)
  | @again n delay c c' link links es rest res o _ attempt _ _ history ih =>
    obtain ⟨hes, hrest⟩ := (supply.accepts_append _ _ _).mp ha
    refine (attempt.workersAgree hes).append ?_
    refine (waited _ delay).append (ih ?_)
    rw [supply.after_append, supply.after_append]
    exact hrest.2

end Pieces

/-- In a run, no worker is started beside another one whose context is alive exactly if no
CONFIGURE that completes is dispatched while such a worker stands. -/
theorem singleWorker_iff (rt : Runtime) (cfg : Config) (handlers : Handlers) (links : List Link)
    (doneAt : Option Nat) :
    SingleWorker doneAt (run rt cfg handlers links).2.trace ↔
      ConfiguresAlone handlers links doneAt (run rt cfg handlers links).2.trace := by
  obtain ⟨supplied, history⟩ := run_history rt cfg handlers links
  have agree : WorkersAgree handlers (store links) doneAt []
      (run rt cfg handlers links).2.trace := history.workersAgree supplied
  exact agree

/-- The daemon configures a component that is running once more. -/
theorem two_workers : ¬ ∀ (rt : Runtime) (cfg : Config) (handlers : Handlers)
    (links : List Link) (doneAt : Option Nat),
    SingleWorker doneAt (run rt cfg handlers links).2.trace := by
  intro h
  let configured : List Delivery :=
    [.message Sample.configure, .message Sample.ack, .message Sample.ack]
  have single := h Sample.runtime Sample.config { onRunning := true }
    [Sample.link (Sample.handshake ++ configured ++ configured)] none
  unfold SingleWorker at single
  revert single
  decide +kernel

end AegisSdk.Go
