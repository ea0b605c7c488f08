import AegisSdk.Go.Reaction
import AegisSdk.Go.Sends

/-!
Does `CurrentState` agree with the connection? `SendStateUpdate` writes under the mutex and
stores after it, so the goroutine that stores last need not be the one that wrote last.
-/

set_option autoImplicit false
set_option relaxedAutoImplicit false

namespace AegisSdk.Go

open AegisSdk.Protocol AegisSdk.Library

variable {γ : Type} (rt : Runtime) (cfg : Config)

def Request.update : Request → Option ComponentState
  | .stateUpdate state _ => some state
  | _ => none

def carried (env : Envelope) : Option ComponentState :=
  if env.command = Command.stateUpdate then (env.payload.get "state").bind Json.asStr else none

def lastUpdate (lines : List Envelope) : Option Envelope :=
  (lines.filter fun env => env.command = Command.stateUpdate).getLast?

namespace Shared

/-- No `SendStateUpdate` is in progress, except for the goroutine `g`. -/
def QuietBut (s : Shared γ) (g : γ) : Prop :=
  ∀ g' ≠ g, (s.pending g').bind Request.update = none

def Quiet (s : Shared γ) : Prop := ∀ g, (s.pending g).bind Request.update = none

/-- While no `SendStateUpdate` is in progress, the state is that of the last STATE_UPDATE
line on the connection. -/
def Agrees (s : Shared γ) : Prop :=
  s.Quiet → ∀ line ∈ lastUpdate (s.lines s.conn), carried line = some s.component.state

/-- The Stores come in the order of the writes as far as it matters: the call that stores last in
a time with `SendStateUpdate` calls in progress is for the same state as the one that wrote last,
such as the same call. -/
def StoresInOrder (s : Shared γ) : SendAction γ → Prop
  | .finish g => ∀ call state, s.calls g = some call → call.request.update = some state →
      s.QuietBut g → ∀ written ∈ lastUpdate (s.lines s.conn), carried written = some state
  | _ => True

/-- The component when it has got REGISTERED, and `before` that. -/
def registered (before c : Component) (created : Nat) : Shared γ :=
  { component := { c with state := State.registered }
    conn := 1
    lines := fun conn => if conn = 1 then [Request.register.envelope rt cfg before created] else []
    created := created + 1 }

end Shared

/-- Goroutines that send on one registered component, and all sends succeed. -/
def Sending : SendAction γ → Bool
  | .enter _ .register => false
  | .enter _ .shutdown => false
  | .write _ ok => ok
  | _ => true

def senders [DecidableEq γ] : System (Shared γ) (SendAction γ) where
  step s a := if Sending a then (sends rt cfg).step s a else none

theorem carried_stateUpdate (c : Component) (n : Nat) (state : ComponentState)
    (message : String) :
    carried ((Request.stateUpdate state message).envelope rt cfg c n) = some state := by
  have : (statePayload state message).get "state" = some (.str state) := by
    unfold statePayload
    by_cases h : message = "" <;> simp [h]
  simp [carried, Request.envelope, newEnvelope, this]

theorem carried_envelope {r : Request} {state : ComponentState} (h : r.update = some state)
    (c : Component) (n : Nat) : carried (r.envelope rt cfg c n) = some state := by
  cases r with
  | stateUpdate state' message =>
    obtain rfl : state' = state := Option.some.inj h
    exact carried_stateUpdate rt cfg c n state' message
  | _ => cases h

theorem command_envelope {r : Request} (h : r.update = none) (c : Component) (n : Nat) :
    (r.envelope rt cfg c n).command ≠ Command.stateUpdate := by
  cases r with
  | stateUpdate state message => cases h
  | _ => simp [Request.envelope, newEnvelope, Envelope.withCorrelation, Command.stateUpdate,
      Command.register, Command.runtimeError, Command.ack, Command.pong, Command.shutdown]

theorem lastUpdate_concat_of_ne {env : Envelope} (h : env.command ≠ Command.stateUpdate)
    (lines : List Envelope) : lastUpdate (lines ++ [env]) = lastUpdate lines := by
  simp [lastUpdate, h]

section Step

variable [DecidableEq γ] {rt cfg} {s t : Shared γ}

theorem senders_step {a : SendAction γ} (h : (senders rt cfg).step s a = some t) :
    Sending a = true ∧ SendStep rt cfg s a t := by
  simp only [senders, Option.ite_none_right_eq_some] at h
  exact ⟨h.1, sends_step rt cfg h.2⟩

structure Succeeding (call : Call) : Prop where
  request : call.request ≠ .shutdown
  written : ∀ ok, call.phase = .written ok → ok = true
  returned : ∀ ok, call.phase = .returned ok → ok = true

theorem succeeding_step {a : SendAction γ} (hsend : Sending a = true)
    (h : SendStep rt cfg s a t) (hs : ∀ g call, s.calls g = some call → Succeeding call) :
    ∀ g call, t.calls g = some call → Succeeding call := by
  refine h.calls _ _ (fun _ => Succeeding) hs (fun g request ha _ => ?_)
    fun g call phase _ hcall hnext => ?_
  · subst ha
    refine ⟨fun hr => ?_, nofun, nofun⟩
    change request = .shutdown at hr
    subst hr
    cases hsend
  · obtain ⟨hrequest, hwritten, hreturned⟩ := hs g call hcall
    cases a with
    | enter g request => exact hnext.elim
    | lock g => cases hnext; exact ⟨hrequest, nofun, nofun⟩
    | encode g => cases hnext; exact ⟨hrequest, nofun, nofun⟩
    | write g ok =>
      obtain ⟨rfl, _⟩ := hnext
      refine ⟨hrequest, fun ok' h => ?_, nofun⟩
      cases h
      exact hsend
    | unlock g =>
      obtain ⟨ok, hold, rfl⟩ := hnext
      refine ⟨hrequest, nofun, fun ok' h => ?_⟩
      cases h
      exact hwritten ok hold
    | finish g => exact hnext.elim

theorem stored_eq_update {call : Call} (h : Succeeding call) {ok : Bool}
    (hphase : call.phase = .returned ok) :
    call.request.stored ok = call.request.update := by
  obtain rfl := h.returned ok hphase
  have := h.request
  cases hr : call.request with
  | shutdown => exact absurd hr this
  | _ => rfl

theorem agrees_step {a : SendAction γ} (h : SendStep rt cfg s a t) (hmade : s.Made rt cfg)
    (hs : ∀ g call, s.calls g = some call → Succeeding call) (hagrees : s.Agrees)
    (horder : s.StoresInOrder a) : t.Agrees := by
  intro hquiet
  have hpending := h.pending
  rw [Shared.Quiet, hpending] at hquiet
  cases h with
  | @enter g request hcall =>
    -- the goroutine had nothing pending before
    refine hagrees fun g' => ?_
    by_cases hg : g' = g
    · subst hg
      simp [Shared.pending, hcall]
    · simpa [pendingAfter, hg] using hquiet g'
  | lock hcall => exact hagrees hquiet
  | encode hcall => exact hagrees hquiet
  | @write g call conn hcall hphase hopen =>
    have hupdate : call.request.update = none := by
      simpa [pendingAfter, Shared.pending, hcall] using hquiet g
    obtain ⟨c, n, henv⟩ := hmade g call hcall
    have hline : call.env.command ≠ Command.stateUpdate :=
      henv ▸ command_envelope rt cfg hupdate c n
    intro line hlast
    refine hagrees hquiet line ?_
    by_cases hconn : s.conn = conn
    · subst hconn
      simpa [Shared.setPhase, Shared.setCall, Shared.appendLine,
        lastUpdate_concat_of_ne hline] using hlast
    · simpa [Shared.setPhase, Shared.setCall, Shared.appendLine, hconn] using hlast
  | writeFailed hcall => exact hagrees hquiet
  | unlock hcall => exact hagrees hquiet
  | @finish g call ok hcall hphase =>
    have hstored := stored_eq_update (hs g call hcall) hphase
    have hbut : s.QuietBut g := fun g' hg => by simpa [pendingAfter, hg] using hquiet g'
    cases hupdate : call.request.update with
    | none =>
      have hsame : s.storeState (call.request.stored ok) = s := by rw [hstored, hupdate]; rfl
      rw [hsame]
      refine hagrees fun g' => ?_
      by_cases hg : g' = g
      · subst hg
        simp [Shared.pending, hcall, hupdate]
      · exact hbut g' hg
    | some state =>
      intro line hlast
      have hstate : ((s.storeState (call.request.stored ok)).setCall g none).component.state =
          state := by
        rw [hstored, hupdate]
        rfl
      rw [hstate]
      have hlast : line ∈ lastUpdate (s.lines s.conn) := by
        simpa [Shared.setCall] using hlast
      exact horder call state hcall hupdate hbut line hlast

omit [DecidableEq γ] in
/-- A call whose own line was written last stores in order. -/
theorem storesInOrder_of_wrote {g : γ} {call : Call} (hmade : s.Made rt cfg)
    (hcall : s.calls g = some call) (hlast : lastUpdate (s.lines s.conn) = some call.env) :
    s.StoresInOrder (.finish g) := by
  intro call' state hcall' hupdate _ written hwritten
  obtain rfl : call' = call := Option.some.inj (hcall'.symm.trans hcall)
  obtain rfl : call'.env = written := Option.some.inj (hlast.symm.trans hwritten)
  obtain ⟨c, n, henv⟩ := hmade g call' hcall
  rw [henv, carried_envelope rt cfg hupdate]

theorem storesInOrder_of_agrees {a : SendAction γ} (h : SendStep rt cfg s a t)
    (hs : ∀ g call, s.calls g = some call → Succeeding call) (hagrees : t.Agrees) :
    s.StoresInOrder a := by
  cases h with
  | @finish g call ok hcall hphase =>
    intro call' state hcall' hupdate hbut line hlast
    obtain rfl : call' = call := Option.some.inj (hcall'.symm.trans hcall)
    have hstored := stored_eq_update (hs g call' hcall) hphase
    have hquiet : ((s.storeState (call'.request.stored ok)).setCall g none).Quiet := by
      intro g'
      by_cases hg : g' = g
      · subst hg
        simp [Shared.pending, Shared.setCall]
      · simpa [Shared.pending, Shared.setCall, hg] using hbut g' hg
    rw [hagrees hquiet line (by simpa [Shared.setCall] using hlast), hstored, hupdate]
    rfl
  | _ => trivial

end Step

section Main

theorem registered_agrees (before c : Component) (created : Nat) :
    (Shared.registered (γ := γ) rt cfg before c created).Agrees := by
  intro _ line hlast
  have : lastUpdate [Request.register.envelope rt cfg before created] = none := by
    simp [lastUpdate, command_envelope rt cfg (r := .register) rfl]
  change line ∈ lastUpdate [Request.register.envelope rt cfg before created] at hlast
  rw [this] at hlast
  cases hlast

structure Shared.Sound (s : Shared γ) : Prop where
  made : s.Made rt cfg
  calls : ∀ g call, s.calls g = some call → Succeeding call

theorem sound_step [DecidableEq γ] {s t : Shared γ} {a : SendAction γ} (hs : s.Sound rt cfg)
    (h : (senders rt cfg).step s a = some t) : t.Sound rt cfg := by
  obtain ⟨hsend, hstep⟩ := senders_step h
  exact ⟨hstep.made rt cfg hs.made, succeeding_step hsend hstep hs.calls⟩

theorem registered_sound (before c : Component) (created : Nat) :
    (Shared.registered (γ := γ) rt cfg before c created).Sound rt cfg :=
  ⟨nofun, nofun⟩

/-- In every order of the steps of any number of goroutines: the state agrees with the
connection whenever no `SendStateUpdate` is in progress, exactly if each time the call that
stores last is for the same state as the one that wrote last. -/
theorem state_agrees_iff [DecidableEq γ] (before c : Component) (created : Nat)
    (run : List (SendAction γ)) :
    (senders rt cfg).Always Shared.Agrees (.registered rt cfg before c created) run ↔
      (senders rt cfg).Along Shared.StoresInOrder (.registered rt cfg before c created) run := by
  have start := registered_sound (γ := γ) rt cfg before c created
  constructor
  · refine System.along_of_always (J := fun s => s.Sound rt cfg)
      (System.always_of_step start fun s a t hs h => sound_step rt cfg hs h)
      fun s a t hs h hagrees => ?_
    exact storesInOrder_of_agrees (senders_step h).2 hs.calls hagrees
  · intro horder
    have always : (senders rt cfg).Always (fun s => s.Sound rt cfg ∧ s.Agrees)
        (.registered rt cfg before c created) run := by
      refine System.always_of_along ⟨start, registered_agrees rt cfg before c created⟩
        (fun s a t hs hin h => ⟨sound_step rt cfg hs.1 h, ?_⟩) horder
      exact agrees_step (senders_step h).2 hs.1.made hs.1.calls hs.2 hin
    exact always.imp fun _ hs => hs.2

end Main

namespace Sample

/-- The message loop (`false`) and a goroutine of the user: the user's line is written
first and its state stored last. -/
def crossedUpdates : List (SendAction Bool) :=
  [.enter true (.stateUpdate State.waiting ""), .lock true, .encode true, .write true true,
    .unlock true,
    .enter false (.stateUpdate State.running ""), .lock false, .encode false, .write false true,
    .unlock false, .finish false, .finish true]

end Sample

/-- RUNNING was written last, and the component stays in WAITING. -/
theorem state_stale : ¬ ∀ (rt : Runtime) (cfg : Config) (before c : Component) (created : Nat)
    (run : List (SendAction Bool)),
    (senders rt cfg).Always Shared.Agrees (.registered rt cfg before c created) run := by
  intro h
  have always := h Sample.runtime Sample.config {} {} 0 Sample.crossedUpdates
  have final : (((senders Sample.runtime Sample.config).exec
      (.registered Sample.runtime Sample.config {} {} 0) Sample.crossedUpdates).map fun t =>
        ((t.calls false).isNone, (t.calls true).isNone, t.component.state,
          (lastUpdate (t.lines t.conn)).map carried)) =
      some (true, true, State.waiting, some (some State.running)) := by
    decide +kernel
  obtain ⟨t, ht, hfinal⟩ := Option.map_eq_some_iff.mp final
  simp only [Prod.mk.injEq, Option.isNone_iff_eq_none] at hfinal
  obtain ⟨hmain, huser, hstate, hline⟩ := hfinal
  obtain ⟨line, hlast, hcarried⟩ := Option.map_eq_some_iff.mp hline
  have agrees := always _ t List.prefix_rfl ht
    (fun g => by cases g <;> simp [Shared.pending, hmain, huser]) line hlast
  rw [hcarried, hstate] at agrees
  exact absurd agrees (by decide)

end AegisSdk.Go
