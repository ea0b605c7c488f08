import AegisSdk.Go.Component
import AegisSdk.Library.Interleaving
import Mathlib.Logic.Function.Basic

/-!
`SendStateUpdate`, `SendError` and the other senders as any number of goroutines run them
at the same time: `send` holds `sendMu` while it reads `c.conn` and writes to it, and
`SendStateUpdate` stores the state after that, without the mutex.
-/

set_option autoImplicit false
set_option relaxedAutoImplicit false

namespace AegisSdk.Go

open AegisSdk.Protocol AegisSdk.Library

inductive Request where
  | register
  | stateUpdate (state : ComponentState) (message : String)
  | error (code message : String) (recoverable : Bool)
  | ack (correlationID : String)
  | pong (correlationID : String)
  | shutdown
  deriving DecidableEq

inductive Phase where
  /-- the envelope is made -/
  | entered
  /-- `sendMu` is taken -/
  | locked
  /-- the encoder has got `c.conn` -/
  | encoding (conn : Nat)
  | written (ok : Bool)
  /-- `sendMu` is released -/
  | returned (ok : Bool)
  deriving DecidableEq

structure Call where
  request : Request
  env : Envelope
  phase : Phase

/-- The component as the goroutines `γ` share it. Connections are numbered by the dials
from 1 on. -/
structure Shared (γ : Type) where
  component : Component := {}
  /-- `c.conn` -/
  conn : Nat := 0
  /-- the envelopes written to each connection -/
  lines : Nat → List Envelope := fun _ => []
  closed : Nat → Bool := fun _ => false
  /-- the holder of `sendMu` -/
  holder : Option γ := none
  calls : γ → Option Call := fun _ => none
  /-- envelopes created so far -/
  created : Nat := 0

inductive SendAction (γ : Type) where
  | enter (g : γ) (request : Request)
  | lock (g : γ)
  /-- `json.NewEncoder(c.conn)` -/
  | encode (g : γ)
  /-- the one write of `Encode` -/
  | write (g : γ) (ok : Bool)
  | unlock (g : γ)
  /-- the rest of the call -/
  | finish (g : γ)

variable {γ : Type} (rt : Runtime) (cfg : Config)

def statePayload (state : ComponentState) (message : String) : Payload :=
  let payload := Payload.insert [] "state" (.str state)
  if message ≠ "" then payload.insert "message" (.str message) else payload

def errorPayload (code message : String) (recoverable : Bool) : Payload :=
  ((Payload.insert [] "code" (.str code)).insert "message" (.str message)).insert
    "recoverable" (.bool recoverable)

/-- The envelope of a request, made from the component as it is then. -/
def Request.envelope (c : Component) (created : Nat) : Request → Envelope
  | .register => newEnvelope (rt.stamp created) MessageType.lifecycle Command.register
      (source cfg c) (registerPayload cfg)
  | .stateUpdate state message => newEnvelope (rt.stamp created) MessageType.lifecycle
      Command.stateUpdate (source cfg c) (statePayload state message)
  | .error code message recoverable => newEnvelope (rt.stamp created) MessageType.error
      Command.runtimeError (source cfg c) (errorPayload code message recoverable)
  | .ack correlationID => (newEnvelope (rt.stamp created) MessageType.control Command.ack
      (source cfg c) (Payload.insert [] "status" (.str "ok"))).withCorrelation correlationID
  | .pong correlationID => (newEnvelope (rt.stamp created) MessageType.heartbeat Command.pong
      (source cfg c) ((Payload.insert [] "state" (.str c.state)).insert
        "uptime_seconds" (.num (toString (rt.uptime created))))).withCorrelation correlationID
  | .shutdown => newEnvelope (rt.stamp created) MessageType.lifecycle Command.shutdown
      (source cfg c) []

/-- The state that the caller stores when its send has ended. `gracefulShutdown` ignores
the error of the send. -/
def Request.stored (ok : Bool) : Request → Option ComponentState
  | .stateUpdate state _ => if ok then some state else none
  | .shutdown => some State.shutdown
  | _ => none

namespace Shared

variable (s : Shared γ)

def storeState : Option ComponentState → Shared γ
  | some state => { s with component := { s.component with state := state } }
  | none => s

@[simp] theorem storeState_calls (state : Option ComponentState) :
    (s.storeState state).calls = s.calls := by
  cases state <;> rfl

@[simp] theorem storeState_lines (state : Option ComponentState) :
    (s.storeState state).lines = s.lines := by
  cases state <;> rfl

@[simp] theorem storeState_conn (state : Option ComponentState) :
    (s.storeState state).conn = s.conn := by
  cases state <;> rfl

@[simp] theorem storeState_closed (state : Option ComponentState) :
    (s.storeState state).closed = s.closed := by
  cases state <;> rfl

variable [DecidableEq γ]

def setCall (g : γ) (call : Option Call) : Shared γ :=
  { s with calls := Function.update s.calls g call }

def setPhase (g : γ) (call : Call) (phase : Phase) : Shared γ :=
  s.setCall g (some { call with phase := phase })

@[simp] theorem setCall_self (g : γ) (call : Option Call) : (s.setCall g call).calls g = call :=
  Function.update_self _ _ _

@[simp] theorem setPhase_self (g : γ) (call : Call) (phase : Phase) :
    (s.setPhase g call phase).calls g = some { call with phase := phase } :=
  Function.update_self _ _ _

def appendLine (conn : Nat) (env : Envelope) : Shared γ :=
  { s with lines := Function.update s.lines conn (s.lines conn ++ [env]) }

/-- One step of a call. A write to a closed connection fails. -/
def advance (g : γ) (call : Call) : SendAction γ → Option (Shared γ)
  | .lock _ =>
    if call.phase = .entered ∧ s.holder.isNone then
      some ({ s with holder := some g }.setPhase g call .locked)
    else none
  | .encode _ =>
    if call.phase = .locked then some (s.setPhase g call (.encoding s.conn)) else none
  | .write _ ok =>
    match call.phase with
    | .encoding conn =>
      if ok then
        if s.closed conn then none
        else some ((s.appendLine conn call.env).setPhase g call (.written true))
      else some (s.setPhase g call (.written false))
    | _ => none
  | .unlock _ =>
    match call.phase with
    | .written ok => some ({ s with holder := none }.setPhase g call (.returned ok))
    | _ => none
  | .finish _ =>
    match call.phase with
    | .returned ok => some ((s.storeState (call.request.stored ok)).setCall g none)
    | _ => none
  | .enter _ _ => none

end Shared

def SendAction.goroutine : SendAction γ → γ
  | .enter g _ => g
  | .lock g => g
  | .encode g => g
  | .write g _ => g
  | .unlock g => g
  | .finish g => g

def sends [DecidableEq γ] : System (Shared γ) (SendAction γ) where
  step s a :=
    match s.calls a.goroutine, a with
    | none, .enter g request =>
      some ({ s with created := s.created + 1 }.setCall g
        (some { request := request, env := request.envelope rt cfg s.component s.created,
                phase := .entered }))
    | none, _ => none
    | some call, a => s.advance a.goroutine call a

section Step

variable [DecidableEq γ]

inductive SendStep : Shared γ → SendAction γ → Shared γ → Prop
  | enter {s : Shared γ} {g : γ} (request : Request) : s.calls g = none →
      SendStep s (.enter g request) ({ s with created := s.created + 1 }.setCall g
        (some { request := request, env := request.envelope rt cfg s.component s.created,
                phase := .entered }))
  | lock {s : Shared γ} {g : γ} {call : Call} : s.calls g = some call →
      call.phase = .entered → s.holder = none →
      SendStep s (.lock g) ({ s with holder := some g }.setPhase g call .locked)
  | encode {s : Shared γ} {g : γ} {call : Call} : s.calls g = some call →
      call.phase = .locked →
      SendStep s (.encode g) (s.setPhase g call (.encoding s.conn))
  | write {s : Shared γ} {g : γ} {call : Call} {conn : Nat} : s.calls g = some call →
      call.phase = .encoding conn → s.closed conn = false →
      SendStep s (.write g true) ((s.appendLine conn call.env).setPhase g call (.written true))
  | writeFailed {s : Shared γ} {g : γ} {call : Call} {conn : Nat} : s.calls g = some call →
      call.phase = .encoding conn →
      SendStep s (.write g false) (s.setPhase g call (.written false))
  | unlock {s : Shared γ} {g : γ} {call : Call} {ok : Bool} : s.calls g = some call →
      call.phase = .written ok →
      SendStep s (.unlock g) ({ s with holder := none }.setPhase g call (.returned ok))
  | finish {s : Shared γ} {g : γ} {call : Call} {ok : Bool} : s.calls g = some call →
      call.phase = .returned ok →
      SendStep s (.finish g) ((s.storeState (call.request.stored ok)).setCall g none)

theorem advance_step {s t : Shared γ} {a : SendAction γ} {call : Call}
    (hcall : s.calls a.goroutine = some call) (h : s.advance a.goroutine call a = some t) :
    SendStep rt cfg s a t := by
  cases a with
  | enter g request => exact nomatch h
  | lock g =>
    simp only [Shared.advance, Option.ite_none_right_eq_some, Option.some.injEq] at h
    obtain ⟨⟨hphase, hholder⟩, rfl⟩ := h
    exact .lock hcall hphase (Option.isNone_iff_eq_none.mp hholder)
  | encode g =>
    simp only [Shared.advance, Option.ite_none_right_eq_some, Option.some.injEq] at h
    obtain ⟨hphase, rfl⟩ := h
    exact .encode hcall hphase
  | write g ok =>
    simp only [Shared.advance] at h
    split at h
    · rename_i conn hphase
      cases ok with
      | true =>
        simp only [if_true, Option.ite_none_left_eq_some, Option.some.injEq] at h
        obtain ⟨hopen, rfl⟩ := h
        exact .write hcall hphase (by simpa using hopen)
      | false =>
        simp only [Bool.false_eq_true, if_false, Option.some.injEq] at h
        subst h
        exact .writeFailed hcall hphase
    · exact nomatch h
  | unlock g =>
    simp only [Shared.advance] at h
    split at h
    · cases h
      exact .unlock hcall ‹_›
    · exact nomatch h
  | finish g =>
    simp only [Shared.advance] at h
    split at h
    · cases h
      exact .finish hcall ‹_›
    · exact nomatch h

theorem sends_step {s t : Shared γ} {a : SendAction γ} (h : (sends rt cfg).step s a = some t) :
    SendStep rt cfg s a t := by
  simp only [sends] at h
  split at h
  · rename_i g request hcall
    cases h
    exact .enter request hcall
  · exact nomatch h
  · rename_i call a hcall
    exact advance_step rt cfg hcall h

def Shared.pending (s : Shared γ) (g : γ) : Option Request := (s.calls g).map Call.request

def pendingAfter (p : γ → Option Request) : SendAction γ → γ → Option Request
  | .enter g request => Function.update p g (some request)
  | .finish g => Function.update p g none
  | _ => p

theorem SendStep.pending {s t : Shared γ} {a : SendAction γ} (h : SendStep rt cfg s a t) :
    t.pending = pendingAfter s.pending a := by
  have same {s' : Shared γ} {g : γ} {call : Call} (phase : Phase) (hcalls : s'.calls = s.calls)
      (hcall : s.calls g = some call) : (s'.setPhase g call phase).pending = s.pending := by
    funext g'
    by_cases hg : g' = g
    · subst hg
      simp [Shared.pending, Shared.setPhase, Shared.setCall, hcall]
    · simp [Shared.pending, Shared.setPhase, Shared.setCall, hg, hcalls]
  have changed {s' : Shared γ} {g : γ} (call : Option Call) (hcalls : s'.calls = s.calls) :
      (s'.setCall g call).pending = Function.update s.pending g (call.map Call.request) := by
    funext g'
    by_cases hg : g' = g
    · subst hg
      simp [Shared.pending, Shared.setCall]
    · simp [Shared.pending, Shared.setCall, hg, hcalls]
  cases h with
  | enter request hcall => exact changed _ rfl
  | lock hcall => exact same _ rfl hcall
  | encode hcall => exact same _ rfl hcall
  | write hcall => exact same _ rfl hcall
  | writeFailed hcall => exact same _ rfl hcall
  | unlock hcall => exact same _ rfl hcall
  | finish hcall => exact changed _ (Shared.storeState_calls _ _)

def Phase.Next (s : Shared γ) : SendAction γ → Phase → Phase → Prop
  | .enter _ _, _, _ => False
  | .lock _, _, new => new = .locked
  | .encode _, _, new => new = .encoding s.conn
  | .write _ ok, old, new =>
    new = .written ok ∧ ∃ conn, old = .encoding conn ∧ (ok = true → s.closed conn = false)
  | .unlock _, old, new => ∃ ok, old = .written ok ∧ new = .returned ok
  | .finish _, _, _ => False

/-- The rule for what holds of every call: it holds of a new call, and of one that goes on. -/
theorem SendStep.calls {s t : Shared γ} {a : SendAction γ} (h : SendStep rt cfg s a t)
    (P : γ → Call → Prop) (old : ∀ g call, s.calls g = some call → P g call)
    (new : ∀ g request, a = .enter g request → s.calls g = none → P g
      { request := request, env := request.envelope rt cfg s.component s.created,
        phase := .entered })
    (next : ∀ g call phase, a.goroutine = g → s.calls g = some call →
      Phase.Next s a call.phase phase → P g { call with phase := phase }) :
    ∀ g call, t.calls g = some call → P g call := by
  have set {s' : Shared γ} {g : γ} {call : Option Call} (hcalls : s'.calls = s.calls)
      (hcall : ∀ c ∈ call, P g c) : ∀ g' c, (s'.setCall g call).calls g' = some c → P g' c := by
    intro g' c hc
    by_cases hg : g' = g
    · subst hg
      exact hcall c (by simpa [Shared.setCall] using hc)
    · exact old g' c (by simpa [Shared.setCall, hg, hcalls] using hc)
  have goes {s' : Shared γ} {g : γ} {call : Call} {phase : Phase} (hcalls : s'.calls = s.calls)
      (hcall : s.calls g = some call) (hg : a.goroutine = g)
      (hnext : Phase.Next s a call.phase phase) :
      ∀ g' c, (s'.setPhase g call phase).calls g' = some c → P g' c := by
    refine set hcalls fun c hc => ?_
    cases hc
    exact next g call phase hg hcall hnext
  cases h with
  | enter request hcall =>
    refine set rfl fun c hc => ?_
    cases hc
    exact new _ request rfl hcall
  | lock hcall _ _ => exact goes rfl hcall rfl rfl
  | encode hcall _ => exact goes rfl hcall rfl rfl
  | write hcall hphase hopen => exact goes rfl hcall rfl ⟨rfl, _, hphase, fun _ => hopen⟩
  | writeFailed hcall hphase => exact goes rfl hcall rfl ⟨rfl, _, hphase, nofun⟩
  | unlock hcall hphase => exact goes rfl hcall rfl ⟨_, hphase, rfl⟩
  | finish hcall _ => exact set (Shared.storeState_calls _ _) nofun

theorem SendStep.calls_of_ne {s t : Shared γ} {a : SendAction γ} (h : SendStep rt cfg s a t)
    {g : γ} (hg : g ≠ a.goroutine) : t.calls g = s.calls g := by
  cases h with
  | finish hcall hphase =>
    exact (Function.update_of_ne hg _ _).trans (congrFun (Shared.storeState_calls _ _) g)
  | _ => exact Function.update_of_ne hg _ _

theorem SendStep.conn {s t : Shared γ} {a : SendAction γ} (h : SendStep rt cfg s a t) :
    t.conn = s.conn := by
  cases h with
  | finish hcall hphase => exact Shared.storeState_conn _ _
  | _ => rfl

theorem SendStep.lines {s t : Shared γ} {a : SendAction γ} (h : SendStep rt cfg s a t) :
    t.lines = s.lines ∨ ∃ g call conn, a = .write g true ∧ s.calls g = some call ∧
      call.phase = .encoding conn ∧
      t.lines = Function.update s.lines conn (s.lines conn ++ [call.env]) := by
  cases h with
  | write hcall hphase hopen => exact .inr ⟨_, _, _, rfl, hcall, hphase, rfl⟩
  | finish hcall hphase => exact .inl (Shared.storeState_lines _ _)
  | _ => exact .inl rfl

def Shared.Made (s : Shared γ) : Prop :=
  ∀ g call, s.calls g = some call → ∃ c n, call.env = call.request.envelope rt cfg c n

theorem SendStep.made {s t : Shared γ} {a : SendAction γ} (h : SendStep rt cfg s a t)
    (hs : s.Made rt cfg) : t.Made rt cfg :=
  h.calls _ _ _ hs (fun _ _ _ _ => ⟨_, _, rfl⟩) fun g call _ _ hcall _ => hs g call hcall

def callSteps (g : γ) (request : Request) (ok : Bool) : List (SendAction γ) :=
  [.enter g request, .lock g, .encode g, .write g ok, .unlock g, .finish g]

def Shared.afterCall (s : Shared γ) (request : Request) (ok : Bool) : Shared γ :=
  let env := request.envelope rt cfg s.component s.created
  let sent := if ok then s.appendLine s.conn env else s
  { sent.storeState (request.stored ok) with created := s.created + 1 }

theorem exec_callSteps {s : Shared γ} {g : γ} (request : Request) {ok : Bool}
    (hcall : s.calls g = none) (hholder : s.holder = none)
    (hopen : ok = true → s.closed s.conn = false) :
    (sends rt cfg).exec s (callSteps g request ok) = some (s.afterCall rt cfg request ok) := by
  have hcalls : Function.update s.calls g none = s.calls := by
    rw [← hcall, Function.update_eq_self]
  cases hstored : request.stored ok <;> cases ok <;>
    simp [callSteps, System.exec, sends, SendAction.goroutine, Shared.advance, Shared.setPhase,
      Shared.setCall, Shared.afterCall, Shared.appendLine, Shared.storeState, *]

end Step

theorem sendStateUpdate_eq (state : ComponentState) (message : String) (w : World) :
    sendStateUpdate rt cfg state message w =
      (do
        send ((Request.stateUpdate state message).envelope rt cfg w.component w.created)
        storeState state : Task Unit) { w with created := w.created + 1 } :=
  rfl

theorem sendError_eq (code message : String) (recoverable : Bool) (w : World) :
    sendError rt cfg code message recoverable w =
      send ((Request.error code message recoverable).envelope rt cfg w.component w.created)
        { w with created := w.created + 1 } :=
  rfl

theorem sendACK_eq (correlationID : String) (w : World) :
    sendACK rt cfg correlationID w =
      send ((Request.ack correlationID).envelope rt cfg w.component w.created)
        { w with created := w.created + 1 } :=
  rfl

/-- `SendStateUpdate` by one goroutine is a call that nothing comes into. -/
theorem sendStateUpdate_afterCall [DecidableEq γ] (state : ComponentState) (message : String)
    {w : World} {s : Shared γ} (hcomponent : w.component = s.component)
    (hcreated : w.created = s.created) {ok : Bool} (hok : w.writes.headD true = ok) :
    ∃ w', (sendStateUpdate rt cfg state message w = .ok () w' ∨
        ∃ err, sendStateUpdate rt cfg state message w = .error err w') ∧
      w'.component = (s.afterCall rt cfg (.stateUpdate state message) ok).component ∧
      w'.trace = w.trace ++
        .send ((Request.stateUpdate state message).envelope rt cfg s.component s.created) ok ::
          (if ok then [.state state] else []) := by
  obtain ⟨component, inbox, writes, created, trace⟩ := w
  cases hcomponent
  cases hcreated
  match writes, hok with
  | [], rfl => exact ⟨_, .inl rfl, rfl, List.append_assoc _ _ _⟩
  | true :: rest, rfl => exact ⟨_, .inl rfl, rfl, List.append_assoc _ _ _⟩
  | false :: rest, rfl => exact ⟨_, .inr ⟨_, rfl⟩, rfl, rfl⟩

end AegisSdk.Go
