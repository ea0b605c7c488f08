import AegisSdk.Cpp.Machine
import AegisSdk.Library.Resource
import AegisSdk.OCaml.Workers

/-!
The descriptors of the C++ and of the OCaml client. `run_once` opens one socket. In C++ it is
closed on the way out of the message loop and after a refused connect, but not when an
exception passes; in OCaml it is closed however the connection ends, but not when the connect
is refused.
-/

set_option autoImplicit false
set_option relaxedAutoImplicit false

namespace AegisSdk

open AegisSdk.Protocol AegisSdk.Library

namespace Cpp

/-- What an event does to the descriptors; none may be open when `run_once` is left. -/
def Event.use : Event → Option (Use Nat)
  | .socket fd => some (.acquire fd)
  | .close fd => some (.release fd)
  | .left => some .checkpoint
  | _ => none

/-- An answer to REGISTER or a message for which an exception passes out of `run_once`. -/
def Event.abandons : Event → Bool
  | .reply result => !(result >>= registration).isOk
  | .dispatch env => !(reaction env).isOk
  | _ => false

def Phase.held : Phase → List Nat
  | .opened fd | .refused fd | .connected fd | .accepted fd | .looping fd | .reading fd
  | .received fd _ | .ending fd | .joining fd | .shut fd => [fd]
  | .thrown _ fd => fd.toList
  | _ => []

def Phase.abandoned : Phase → Bool
  | .thrown _ (some _) => true
  | _ => false

def uses (log : List Event) : List (Use Nat) := log.filterMap Event.use

theorem uses_concat (log : List Event) (e : Event) :
    uses (log ++ [e]) = uses log ++ e.use.toList := by
  unfold uses
  rw [List.filterMap_append]
  cases h : e.use <;> simp [h]

section Account

variable {cfg : Config} {c : Control} {e : Event}

theorem answered_held (fd : Nat) (result : Except Exception Envelope) :
    (Phase.answered fd result).held = [fd] ∧
      (Phase.answered fd result).abandoned = !(result >>= registration).isOk := by
  unfold Phase.answered
  cases result >>= registration <;> exact ⟨rfl, rfl⟩

theorem dispatched_held (fd : Nat) (env : Envelope) :
    (Phase.dispatched fd env).held = [fd] ∧
      (Phase.dispatched fd env).abandoned = !(reaction env).isOk := by
  unfold Phase.dispatched
  rcases reaction env with _ | (_ | _) <;> exact ⟨rfl, rfl⟩

theorem caught_held (e : Exception) : (Phase.caught e).held = [] ∧
    (Phase.caught e).abandoned = false := by
  unfold Phase.caught
  cases e with
  | json id => exact ⟨rfl, rfl⟩
  | runtimeError what =>
    dsimp only
    split <;> exact ⟨rfl, rfl⟩

theorem not_moves_account (h : e.moves = false) : e.use = none ∧ e.abandons = false := by
  cases e <;> first | exact ⟨rfl, rfl⟩ | cases h

theorem step_account (h : c.allows cfg e) (hleft : e ≠ .left) :
    Use.account.Accepts c.phase.held e.use.toList ∧
      (c.step e).phase.held = e.use.toList.foldl Use.step c.phase.held ∧
      (c.step e).phase.abandoned = (c.phase.abandoned || e.abandons) := by
  by_cases hm : e.moves = false
  · obtain ⟨huse, habandons⟩ := not_moves_account hm
    rw [phase_of_not_moves hm, huse, habandons, Bool.or_false]
    exact ⟨trivial, rfl, rfl⟩
  obtain ⟨phase, running, source, worker, states, sockets, calls, losses⟩ := c
  cases e with
  | socket fd =>
    obtain ⟨rfl, -⟩ := h
    exact ⟨⟨rfl, trivial⟩, rfl, rfl⟩
  | socketFailed =>
    obtain rfl : phase = .due := h
    exact ⟨trivial, rfl, rfl⟩
  | connect fd link =>
    obtain rfl : phase = .opened fd := h
    exact ⟨trivial, rfl, rfl⟩
  | connectFailed fd =>
    obtain rfl : phase = .opened fd := h
    exact ⟨trivial, rfl, rfl⟩
  | close fd =>
    obtain rfl | rfl : phase = .refused fd ∨ phase = .shut fd := h
    all_goals
      refine ⟨⟨trivial, trivial⟩, ?_, rfl⟩
      simp [Control.step, Phase.next, Phase.held, Event.use, Use.step]
  | reply result =>
    obtain ⟨fd, rfl⟩ : ∃ fd, phase = .connected fd := h
    obtain ⟨hheld, habandoned⟩ := answered_held fd result
    exact ⟨trivial, hheld, habandoned⟩
  | setRunning =>
    obtain ⟨fd, rfl⟩ : ∃ fd, phase = .accepted fd := h
    exact ⟨trivial, rfl, rfl⟩
  | head running =>
    obtain ⟨⟨fd, rfl⟩, -⟩ := h
    cases running <;> exact ⟨trivial, rfl, rfl⟩
  | recv result =>
    obtain ⟨fd, rfl⟩ : ∃ fd, phase = .reading fd := h
    cases result <;> exact ⟨trivial, rfl, rfl⟩
  | dispatch env =>
    obtain ⟨fd, rfl⟩ : ∃ fd, phase = .received fd env := h
    obtain ⟨hheld, habandoned⟩ := dispatched_held fd env
    exact ⟨trivial, hheld, habandoned⟩
  | join t =>
    obtain ⟨⟨fd, rfl⟩, -⟩ := h
    exact ⟨trivial, rfl, rfl⟩
  | joined t =>
    obtain ⟨⟨fd, rfl⟩, -⟩ := h
    exact ⟨trivial, rfl, rfl⟩
  | onShutdown =>
    obtain ⟨⟨fd, rfl⟩, -⟩ := h
    exact ⟨trivial, rfl, rfl⟩
  | left => exact absurd rfl hleft
  | lost what =>
    obtain rfl : phase = .failed what := h
    exact ⟨trivial, rfl, rfl⟩
  | sleep attempts =>
    obtain ⟨rfl, -⟩ := h
    exact ⟨trivial, rfl, rfl⟩
  | _ => exact absurd rfl hm

theorem left_account (h : c.allows cfg .left) :
    (Use.account.Accepts c.phase.held [Use.checkpoint] ↔ c.phase.abandoned = false) ∧
      (c.step .left).phase.held = [] ∧ (c.step .left).phase.abandoned = false := by
  obtain ⟨phase, running, source, worker, states, sockets, calls, losses⟩ := c
  obtain rfl | ⟨e, fd, rfl⟩ : phase = .closed ∨ ∃ e fd, phase = .thrown e fd := h
  · exact ⟨iff_of_true ⟨rfl, trivial⟩ rfl, rfl, rfl⟩
  · refine ⟨?_, caught_held e⟩
    cases fd with
    | none => exact iff_of_true ⟨rfl, trivial⟩ rfl
    | some fd => exact iff_of_false (fun h => by cases h.1) (by simp [Phase.abandoned])

end Account

/-- While nothing has leaked the account knows what is open, and whether an exception is
passing a connection. -/
structure Accounted (log : List Event) (c : Control) : Prop where
  known : Use.account.Accepts [] (uses log) → Use.held (uses log) = c.phase.held ∧
    (c.phase.abandoned = true ↔ ∃ e ∈ log, e.abandons = true)
  fine : (∀ e ∈ log, e.abandons = false) → Use.account.Accepts [] (uses log)

theorem Accounted.next {cfg : Config} {log : List Event} {c : Control} {e : Event}
    (h : Accounted log c) (hallows : c.allows cfg e) : Accounted (log ++ [e]) (c.step e) := by
  have split : Use.account.Accepts [] (uses (log ++ [e])) ↔
      Use.account.Accepts [] (uses log) ∧
        Use.account.Accepts (Use.held (uses log)) e.use.toList := by
    rw [uses_concat, Monitor.accepts_append, Use.after_account]
  have whether : (∃ e' ∈ log ++ [e], e'.abandons = true) ↔
      (∃ e' ∈ log, e'.abandons = true) ∨ e.abandons = true := by
    simp [or_and_right, exists_or]
  by_cases hleft : e = .left
  · subst hleft
    obtain ⟨hpoint, hheld, habandoned⟩ := left_account hallows
    constructor
    case known =>
      intro haccepts
      obtain ⟨hlog, hnow⟩ := split.mp haccepts
      obtain ⟨hknown, hiff⟩ := h.known hlog
      rw [hknown] at hnow
      have hnone : c.phase.abandoned = false := hpoint.mp hnow
      refine ⟨?_, ?_⟩
      · rw [uses_concat, Use.held_append, hknown, hheld]
        exact hnow.1
      · rw [habandoned, whether, ← hiff, hnone]
        simp [Event.abandons]
    case fine =>
      intro hall
      have hbefore : ∀ e ∈ log, e.abandons = false := fun e he => hall e (List.mem_append_left _ he)
      have hlog := h.fine hbefore
      obtain ⟨hknown, hiff⟩ := h.known hlog
      refine split.mpr ⟨hlog, ?_⟩
      rw [hknown]
      refine hpoint.mpr (Bool.eq_false_iff.mpr fun habandoned => ?_)
      obtain ⟨e, he, hab⟩ := hiff.mp habandoned
      rw [hbefore e he] at hab
      cases hab
  · obtain ⟨hnow, hheld, habandoned⟩ := step_account hallows hleft
    constructor
    case known =>
      intro haccepts
      obtain ⟨hlog, -⟩ := split.mp haccepts
      obtain ⟨hknown, hiff⟩ := h.known hlog
      refine ⟨?_, ?_⟩
      · rw [uses_concat, Use.held_append, hknown, hheld]
      · rw [habandoned, whether, ← hiff, Bool.or_eq_true]
    case fine =>
      intro hall
      have hlog := h.fine fun e he => hall e (List.mem_append_left _ he)
      refine split.mpr ⟨hlog, ?_⟩
      rw [(h.known hlog).1]
      exact hnow

theorem accounted {cfg : Config} {log : List Event} (h : (machine cfg).Accepts {} log) :
    Accounted log ((machine cfg).after {} log) := by
  apply h.induction Accounted
  case start => exact ⟨fun _ => ⟨rfl, by simp [Phase.abandoned]⟩, fun _ => trivial⟩
  case next => exact fun _ _ _ hlog hallows => hlog.next hallows

theorem Ended.not_abandoned {cfg : Config} {th : Threads} {o : Option Outcome} {w : World}
    (h : Ended cfg th o w) : ((machine cfg).after {} w.trace).phase.abandoned = false := by
  cases h with
  | waits h => rw [h.control]; rfl
  | returned h => rw [h.control]; rfl
  | rejected h => rw [h.control]; rfl
  | reconnectDisabled h _ => rw [h.control]; rfl
  | attemptsExhausted h _ => rw [h.control]; rfl
  | escaped h => rw [h.control]; rfl
  | hung h => cases h with
    | join t h _ _ _ => rw [h.control]; rfl
    | destroy t h _ _ => rw [h.control]; rfl

/-- No run leaks a descriptor exactly if no exception passes a connection. -/
theorem tidy_iff (rt : Runtime) (cfg : Config) (th : Threads) (links : List Link) :
    Use.Tidy (uses (run rt cfg th links).2.trace) ↔
      ∀ e ∈ (run rt cfg th links).2.trace, e.abandons = false := by
  have ended : Ended cfg th (run rt cfg th links).1 (run rt cfg th links).2 := run_at links
  have kept := accounted ended.accepted
  rw [Use.tidy_iff]
  constructor
  · intro haccepts e he
    have hnone := ended.not_abandoned
    refine Bool.eq_false_iff.mpr fun hab => ?_
    rw [(kept.known haccepts).2.mpr ⟨e, he, hab⟩] at hnone
    cases hnone
  · exact kept.fine

end Cpp

namespace OCaml

/-- What an event does to the descriptors; none may be open when `run_once` is left. -/
def Event.use : Event → Option (Use Nat)
  | .socket fd => some (.acquire fd)
  | .close fd => some (.release fd)
  | .left => some .checkpoint
  | _ => none

def Event.refused : Event → Bool
  | .connectFailed _ => true
  | _ => false

def uses (log : List Event) : List (Use Nat) := log.filterMap Event.use

def Event.dry (e : Event) : Prop := e.use = none ∧ e.refused = false

theorem dry_of_inner {e : Event} (h : e.inner = true) : e.dry := by
  cases e <;> first | exact ⟨rfl, rfl⟩ | cases h

structure Level (u : List (Use Nat)) (refused : Bool) (w : World) : Prop where
  uses : uses w.trace = u
  refused : w.trace.any Event.refused = refused

section Level

variable {rt : Runtime} {cfg : Config} {handlers : Handlers} {u : List (Use Nat)}
  {refused : Bool} {w w' : World} {es : List Event}

theorem Level.append (h : Level u refused w) (es : List Event) (htrace : w'.trace = w.trace ++ es) :
    Level (u ++ OCaml.uses es) (refused || es.any Event.refused) w' where
  uses := by rw [htrace, OCaml.uses, List.filterMap_append, ← h.uses]; rfl
  refused := by rw [htrace, List.any_append, h.refused]

theorem Level.dry (h : Level u refused w) (htrace : w'.trace = w.trace ++ es)
    (hdry : ∀ e ∈ es, e.dry) : Level u refused w' := by
  have huses : OCaml.uses es = [] := List.filterMap_eq_nil_iff.mpr fun e he => (hdry e he).1
  have hrefused : es.any Event.refused = false := by
    rw [List.any_eq_false]
    intro e he
    simp [(hdry e he).2]
  have happend := h.append es htrace
  rwa [huses, List.append_nil, hrefused, Bool.or_false] at happend

theorem Level.record (h : Level u refused w) {e : Event} (hdry : e.dry) :
    Level u refused (w.record e) :=
  h.dry rfl (List.forall_mem_singleton.mpr hdry)

theorem Level.inner (h : Level u refused w) (hinner : Inner w es w') : Level u refused w' :=
  h.dry hinner.leads.trace fun e he => dry_of_inner (hinner.inner e he)

theorem Level.handOut (h : Level u refused w) : Level u refused (w.handOut handlers) := by
  have htrace : (w.handOut handlers).trace = w.trace ++ w.handed handlers := rfl
  refine h.dry htrace fun e he => ?_
  rw [mem_handed he]
  exact ⟨rfl, rfl⟩

theorem dispatch_level (env : Envelope) (raises : Option Exn) :
    Preserves (Level u refused) (dispatch rt cfg handlers env raises) := by
  intro w h
  by_cases ht : env.msgType = .config
  case neg =>
    exact (dispatch_inner rt cfg handlers ht raises).preserves (fun hi h => h.inner hi) w h
  obtain ⟨es, w', hinner, hcases⟩ := handleConfig_cases rt cfg handlers ht raises w
  rw [final_dispatch rt cfg handlers ht]
  obtain ⟨heq, -⟩ | ⟨heq, -⟩ := hcases
  · rw [heq]
    exact h.inner hinner
  · rw [heq]
    exact (h.inner hinner).handOut

theorem gracefulShutdown_level (raises : Option Exn) :
    Preserves (Level u refused) (gracefulShutdown rt cfg handlers raises) := by
  intro w h
  obtain ⟨es, hinner⟩ :=
    shutdownRest_inner rt cfg handlers raises (w.record (.stop w.client.stopFlag))
  exact Level.inner (h.record (e := .stop _) ⟨rfl, rfl⟩) hinner

theorem messageLoop_level (reads : List Read) :
    Preserves (Level u refused) (messageLoop rt cfg handlers reads) := by
  have received : ∀ reads, Preserves (Level u refused) (awaitLine rt reads) := fun reads =>
    (awaitLine_inner rt reads).preserves fun hi h => h.inner hi
  induction reads with
  | nil => exact (received []).bind fun _ _ h => h
  | cons read rest ih =>
    rw [messageLoop]
    refine (received _).bind fun answer => Preserves.bind (fun w h => h.record ⟨rfl, rfl⟩) fun _ =>
      (dispatch_level _ _).bind fun stop => ?_
    cases stop with
    | true => exact gracefulShutdown_level read.raises
    | false => exact ih

theorem session_level (link : Link) :
    Preserves (Level u refused) (session rt cfg handlers link) :=
  ((doRegister_inner rt cfg link.reads).preserves fun hi h => h.inner hi).bind
    messageLoop_level

end Level

/-- What `run_once` is to the account: a connect that is refused leaves its socket open. -/
inductive Attempt : Bool → List (Use Nat) → Prop
  | unopened : Attempt false []
  | refused (fd : Nat) : Attempt true [.acquire fd]
  | closed (fd : Nat) : Attempt false [.acquire fd, .release fd]

section Turns

variable {rt : Runtime} {cfg : Config} {handlers : Handlers} {u : List (Use Nat)}
  {refused : Bool} {w w' : World}

theorem runOnce_level (link : Link) (h : Level u refused w) :
    ∃ r k, Attempt r k ∧
      Level (u ++ k) (refused || r) (final (runOnce rt cfg handlers link w)) := by
  obtain ⟨exn, heq⟩ | ⟨exn, heq⟩ | heq := runOnce_cases rt cfg handlers link w
  · rw [heq]
    exact ⟨false, [], .unopened, h.append [.socketFailed] rfl⟩
  · rw [heq]
    refine ⟨true, [.acquire w.sockets], .refused _, ?_⟩
    apply h.append [.socket w.sockets, .connectFailed w.sockets]
    simp [World.opened, final]
  · rw [heq, final_protect]
    refine ⟨false, [.acquire w.sockets, .release w.sockets], .closed _, ?_⟩
    have connected : Level (u ++ [.acquire w.sockets]) (refused || false) (w.connected link) :=
      h.append [.socket w.sockets, .connect w.sockets link] (connected_leads w link).trace
    have done : Level _ _ (final (session rt cfg handlers link (w.connected link))) :=
      session_level link _ connected
    have closed : Level _ _ ((final (session rt cfg handlers link (w.connected link))).record
        (.close w.sockets)) := done.append [.close w.sockets] rfl
    simpa [uses, Event.use, Event.refused] using closed

/-- Nothing has leaked exactly if no connect was refused, and then nothing is open. -/
structure Accounted (u : List (Use Nat)) (refused : Bool) : Prop where
  iff : Use.account.Accepts [] u ↔ refused = false
  closed : Use.account.Accepts [] u → Use.held u = []

theorem Accounted.next {r : Bool} {k : List (Use Nat)} (h : Accounted u refused)
    (hk : Attempt r k) : Accounted (u ++ (k ++ [.checkpoint])) (refused || r) := by
  have split : Use.account.Accepts [] (u ++ (k ++ [.checkpoint])) ↔
      refused = false ∧ Use.account.Accepts [] (k ++ [.checkpoint]) := by
    rw [Monitor.accepts_append, Use.after_account, ← h.iff]
    exact and_congr_right fun hu => by rw [h.closed hu]
  have after : Use.account.Accepts [] u →
      Use.held (u ++ (k ++ [.checkpoint])) = Use.held (k ++ [.checkpoint]) := by
    intro hu
    rw [Use.held_append, h.closed hu]
    rfl
  constructor
  case iff =>
    rw [split, Bool.or_eq_false_iff]
    refine and_congr_right fun _ => ?_
    cases hk with
    | unopened => exact iff_of_true ⟨rfl, trivial⟩ rfl
    | refused fd => exact iff_of_false (fun haccepts => by cases haccepts.2.1) (by simp)
    | closed fd => exact iff_of_true ⟨rfl, trivial, by simp [Use.account, Use.step], trivial⟩ rfl
  case closed =>
    intro haccepts
    obtain ⟨hrefused, hnow⟩ := split.mp haccepts
    rw [after (h.iff.mpr hrefused)]
    cases hk with
    | unopened => rfl
    | refused fd => cases hnow.2.1
    | closed fd => simp [Use.held, Use.step]

theorem turn_accounted (attempts : Nat) (link : Link)
    (hw : Accounted (uses w.trace) (w.trace.any Event.refused)) :
    Accounted (uses (turn rt cfg handlers attempts link w).2.trace)
      ((turn rt cfg handlers attempts link w).2.trace.any Event.refused) := by
  obtain ⟨r, k, hk, hlevel⟩ : ∃ r k, Attempt r k ∧ Level (uses w.trace ++ k)
      (w.trace.any Event.refused || r) (final (runOnce rt cfg handlers link w)) :=
    runOnce_level link ⟨rfl, rfl⟩
  have hleft : Level _ _ ((final (runOnce rt cfg handlers link w)).record .left) :=
    hlevel.append [.left] rfl
  have hturn : Level (uses w.trace ++ (k ++ [.checkpoint])) (w.trace.any Event.refused || r)
      (turn rt cfg handlers attempts link w).2 := by
    have heq : uses [.left] = [.checkpoint] := rfl
    rw [heq, List.append_assoc] at hleft
    simp only [List.any_cons, List.any_nil, Event.refused, Bool.or_false] at hleft
    obtain ⟨o, h, -⟩ | h := turn_cases rt cfg handlers attempts link w
    · rw [h]
      exact hleft
    · rw [h]
      exact hleft.record ⟨rfl, rfl⟩
  rw [hturn.uses, hturn.refused]
  exact hw.next hk

end Turns

theorem tidy_iff (rt : Runtime) (cfg : Config) (handlers : Handlers) (links : List Link) :
    Use.Tidy (uses (run rt cfg handlers links).2.trace) ↔
      ∀ e ∈ (run rt cfg handlers links).2.trace, e.refused = false := by
  have kept : Accounted (uses (run rt cfg handlers links).2.trace)
      ((run rt cfg handlers links).2.trace.any Event.refused) := by
    refine Loop.run_preserves (I := fun w : World => Accounted (uses w.trace)
      (w.trace.any Event.refused)) _ ?_ 0 links ?_
    · exact fun attempts link w hw => turn_accounted attempts link hw
    · exact ⟨iff_of_true trivial rfl, fun _ => rfl⟩
  rw [Use.tidy_iff, kept.iff, List.any_eq_false]
  simp

end OCaml

/-- No run of the C++ client leaks a descriptor exactly if no exception passes a connection, and
no run of the OCaml client exactly if no connect is refused. -/
theorem no_leak_iff (rt : Cpp.Runtime) (cfg : Cpp.Config) (th : Cpp.Threads)
    (links : List Cpp.Link) (rt' : OCaml.Runtime) (cfg' : OCaml.Config)
    (handlers : OCaml.Handlers) (links' : List OCaml.Link) :
    (Use.Tidy (Cpp.uses (Cpp.run rt cfg th links).2.trace) ↔
      ∀ e ∈ (Cpp.run rt cfg th links).2.trace, e.abandons = false) ∧
    (Use.Tidy (OCaml.uses (OCaml.run rt' cfg' handlers links').2.trace) ↔
      ∀ e ∈ (OCaml.run rt' cfg' handlers links').2.trace, e.refused = false) :=
  ⟨Cpp.tidy_iff rt cfg th links, OCaml.tidy_iff rt' cfg' handlers links'⟩

/-- The end of the stream comes in place of the answer to REGISTER, and a connect is refused. -/
theorem descriptor_leaks :
    (¬ ∀ (rt : Cpp.Runtime) (cfg : Cpp.Config) (th : Cpp.Threads) (links : List Cpp.Link),
      Use.Tidy (Cpp.uses (Cpp.run rt cfg th links).2.trace)) ∧
    ¬ ∀ (rt : OCaml.Runtime) (cfg : OCaml.Config) (handlers : OCaml.Handlers)
      (links : List OCaml.Link),
      Use.Tidy (OCaml.uses (OCaml.run rt cfg handlers links).2.trace) := by
  have open_at_end : ¬Use.Tidy [Use.acquire 0, .checkpoint] := by
    intro tidy
    have none_held := (tidy _ (List.prefix_refl _)).2 rfl
    cases none_held
  constructor
  · intro h
    have uses : Cpp.uses (Cpp.run Cpp.Sample.runtime Cpp.Sample.config {} [{}]).2.trace =
        [.acquire 0, .checkpoint] := by decide +kernel
    exact open_at_end (uses ▸ h Cpp.Sample.runtime Cpp.Sample.config {} [{}])
  · intro h
    have uses : OCaml.uses (OCaml.run OCaml.Sample.runtime OCaml.Sample.config
        OCaml.Sample.handlers [{ connect := false }]).2.trace =
          [.acquire 0, .checkpoint] := by decide +kernel
    exact open_at_end (uses ▸ h OCaml.Sample.runtime OCaml.Sample.config OCaml.Sample.handlers
      [{ connect := false }])

end AegisSdk
