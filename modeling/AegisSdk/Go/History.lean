import AegisSdk.Go.Configuring
import AegisSdk.Go.Shutdown

/-!
Whole runs of `Run`, said once: `History` lists every way the loop goes on after a turn, and
the inversion theorem shows that `runLoop` does nothing else.
-/

set_option autoImplicit false
set_option relaxedAutoImplicit false

namespace AegisSdk.Go

open AegisSdk.Protocol AegisSdk.Library

def Event.dials : Event → Bool
  | .dial _ _ => true
  | _ => false

section History

variable (rt : Runtime) (cfg : Config) (handlers : Handlers)

/-- The course of `Run` from the turn number `n` on, with the component `c` and the delay
`delay`: the events recorded and the outcome. -/
inductive History : Nat → Duration → Component → List Link → List Event → Outcome → Prop
  | paused (n : Nat) (delay : Duration) (c : Component) : History n delay c [] [] .running
  | done (n : Nat) (delay : Duration) (c : Component) {link : Link} (links : List Link)
      {err : CtxErr} : link.ctx = some err →
      History n delay c (link :: links) [] (.returned (some (.ctx err)))
  | last {n : Nat} (delay : Duration) {c c' : Component} {link : Link} (links : List Link)
      {es : List Event} {res err : Option GoError} : link.ctx = none →
      Attempt rt cfg handlers c es c' res → returnErr cfg n res = some err →
      History n delay c (link :: links) es (.returned err)
  | stopped {n : Nat} (delay : Duration) {c c' : Component} {link : Link} (links : List Link)
      {es : List Event} {res : Option GoError} {err : CtxErr} : link.ctx = none →
      Attempt rt cfg handlers c es c' res → returnErr cfg n res = none → link.wait = some err →
      History n delay c (link :: links) (es ++ [.wait delay]) (.returned (some (.ctx err)))
  | again {n : Nat} {delay : Duration} {c c' : Component} {link : Link} {links : List Link}
      {es rest : List Event} {res : Option GoError} {o : Outcome} : link.ctx = none →
      Attempt rt cfg handlers c es c' res → returnErr cfg n res = none → link.wait = none →
      History (n + 1) (minDuration (delay * 2) cfg.maxReconnectDelay) c' links rest o →
      History n delay c (link :: links) (es ++ .wait delay :: rest) o

theorem runLoop_history (n : Nat) (delay : Duration) (links : List Link) (w : World) :
    let r := runLoop rt cfg handlers n delay links w
    ∃ es, r.2.trace = w.trace ++ es ∧ supply.Accepts (w.supply links) es ∧
      History rt cfg handlers n delay w.component links es r.1 := by
  induction links generalizing n delay w with
  | nil => exact ⟨[], by simp [runLoop], trivial, .paused n delay w.component⟩
  | cons link links ih =>
    cases hctx : link.ctx with
    | some err =>
      rw [runLoop_done rt cfg handlers n delay link links w hctx]
      exact ⟨[], by simp, trivial, .done n delay w.component links hctx⟩
    | none =>
      obtain ⟨es, res, w', hrun, attempt, trace, supplied, left⟩ :=
        runOnce_attempt rt cfg handlers link w
      rw [runLoop_cons rt cfg handlers n delay link links w hctx hrun, endTurn]
      cases hret : returnErr cfg n res with
      | some err => exact ⟨es, trace, supplied links, .last delay links hctx attempt hret⟩
      | none =>
        -- the wait is no affair of the environment's
        have accepted : ∀ rest, supply.Accepts (w'.supply links) rest →
            supply.Accepts (w.supply (link :: links)) (es ++ .wait delay :: rest) := by
          intro rest h
          rw [supply.accepts_append, left]
          exact ⟨supplied links, trivial, h⟩
        cases hwait : link.wait with
        | some err =>
          refine ⟨es ++ [.wait delay], by simp [trace], accepted [] trivial, ?_⟩
          exact .stopped delay links hctx attempt hret hwait
        | none =>
          obtain ⟨rest, htrace, hrest, history⟩ := ih (n + 1)
            (minDuration (delay * 2) cfg.maxReconnectDelay)
            { w' with trace := w'.trace ++ [.wait delay] }
          refine ⟨es ++ .wait delay :: rest, ?_, accepted rest hrest, ?_⟩
          · simp only
            rw [htrace]
            simp [trace]
          · exact .again hctx attempt hret hwait history

/-- Every run is a `History` of a new component. -/
theorem run_history (links : List Link) :
    let r := run rt cfg handlers links
    supply.Accepts (store links) r.2.trace ∧
      History rt cfg handlers 0 cfg.reconnectDelay {} links r.2.trace r.1 := by
  obtain ⟨es, trace, supplied, history⟩ :=
    runLoop_history rt cfg handlers 0 cfg.reconnectDelay links {}
  have htrace : (run rt cfg handlers links).2.trace = es := trace
  simp only [htrace]
  exact ⟨supplied, history⟩

end History

end AegisSdk.Go
