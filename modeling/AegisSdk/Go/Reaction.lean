import AegisSdk.Go.Component
import AegisSdk.Library.Monitor

/-!
What one step of the component can do, said once. `Reaction` lists every way the
component answers one dispatched message, `Session` every course of `messageLoop`,
`Handshake` every course of `register` and `Attempt` every course of `runOnce`. The
inversion theorems show that the functions of `client.go` do nothing else.
-/

set_option autoImplicit false
set_option relaxedAutoImplicit false

namespace AegisSdk.Go

open AegisSdk.Protocol AegisSdk.Library

section Lines

variable (cfg : Config) (stamp : Stamp) (c : Component)

def registerLine : Envelope :=
  newEnvelope stamp MessageType.lifecycle Command.register (source cfg c) (registerPayload cfg)

def stateLine (s : ComponentState) : Envelope :=
  newEnvelope stamp MessageType.lifecycle Command.stateUpdate (source cfg c)
    (Payload.insert [] "state" (.str s))

def ackLine (id : String) : Envelope :=
  (newEnvelope stamp MessageType.control Command.ack (source cfg c)
    (Payload.insert [] "status" (.str "ok"))).withCorrelation id

def pongLine (uptime : Int) (id : String) : Envelope :=
  (newEnvelope stamp MessageType.heartbeat Command.pong (source cfg c)
    ((Payload.insert [] "state" (.str c.state)).insert
      "uptime_seconds" (.num (toString uptime)))).withCorrelation id

def errorLine (code message : String) (recoverable : Bool) : Envelope :=
  newEnvelope stamp MessageType.error Command.runtimeError (source cfg c)
    (((Payload.insert [] "code" (.str code)).insert "message" (.str message)).insert
      "recoverable" (.bool recoverable))

def shutdownLine : Envelope :=
  newEnvelope stamp MessageType.lifecycle Command.shutdown (source cfg c) []

end Lines

def IsPing (env : Envelope) : Prop :=
  env.type = MessageType.heartbeat ∧ env.command = Command.ping
def IsConfigure (env : Envelope) : Prop :=
  env.type = MessageType.config ∧ env.command = Command.configure
def IsShutdown (env : Envelope) : Prop :=
  env.type = MessageType.lifecycle ∧ env.command = Command.shutdown
def IsError (env : Envelope) : Prop := env.type = MessageType.error

instance (env : Envelope) : Decidable (IsPing env) := inferInstanceAs (Decidable (_ ∧ _))
instance (env : Envelope) : Decidable (IsConfigure env) := inferInstanceAs (Decidable (_ ∧ _))
instance (env : Envelope) : Decidable (IsShutdown env) := inferInstanceAs (Decidable (_ ∧ _))
instance (env : Envelope) : Decidable (IsError env) := inferInstanceAs (Decidable (_ = _))

def Ignored (env : Envelope) : Prop :=
  ¬ IsPing env ∧ ¬ IsConfigure env ∧ ¬ IsShutdown env ∧ ¬ IsError env

def Message.refusal (handlers : Handlers) (m : Message) : Option GoError :=
  if handlers.onConfigure then m.onConfigure else none

def GoError.Plain (err : GoError) : Prop := err.isContext = false ∧ err.isRegistration = false

inductive Verdict where
  | continue
  | stop
  | error (err : GoError)

def opt (isSet : Bool) (e : Event) : List Event := if isSet then [e] else []

section Steps

variable (rt : Runtime) (cfg : Config) (handlers : Handlers)

/-- A STATE_UPDATE and the wait for the reply; `true` if both succeed. -/
inductive Advance (c : Component) (s : ComponentState) : List Event → Component → Bool → Prop
  | lost (stamp : Stamp) :
      Advance c s [.send (stateLine cfg stamp c s) false] c false
  | unanswered (stamp : Stamp) (text : String) :
      Advance c s [.send (stateLine cfg stamp c s) true, .state s, .recvFailed text]
        { c with state := s } false
  | done (stamp : Stamp) (m : Message) :
      Advance c s [.send (stateLine cfg stamp c s) true, .state s, .recv m]
        { c with state := s } true

/-- The part of `handleConfig` after the ACK of the CONFIGURE. -/
inductive Settling (c : Component) : List Event → Component → Prop
  | unconfigured {es : List Event} {c' : Component} :
      Advance cfg c State.configured es c' false → Settling c es c'
  | stopped {es es' : List Event} {c' c'' : Component} :
      Advance cfg c State.configured es c' true →
      Advance cfg c' State.running es' c'' false → Settling c (es ++ es') c''
  | running {es es' : List Event} {c' c'' : Component} :
      Advance cfg c State.configured es c' true →
      Advance cfg c' State.running es' c'' true →
      Settling c (es ++ (es' ++ opt handlers.onRunning .onRunning)) c''

/-- One dispatched message: the events recorded, the component left and the verdict. -/
inductive Reaction (m : Message) (c : Component) : List Event → Component → Verdict → Prop
  | ignored : Ignored m.env → Reaction m c [] c .continue
  | pong (stamp : Stamp) (uptime : Int) (ok : Bool) : IsPing m.env →
      Reaction m c (opt handlers.onPing .onPing ++
        [.send (pongLine cfg stamp c uptime m.env.messageId) ok]) c .continue
  | refused (stamp : Stamp) (err : GoError) (ok : Bool) : IsConfigure m.env →
      m.refusal handlers = some err →
      Reaction m c (opt handlers.onConfigure
        (.onConfigure (configureSocket m.env) (configureTopics m.env)) ++
        [.send (errorLine cfg stamp c "CONFIGURE_FAILED" err.error true) ok]) c .continue
  | accepted (stamp : Stamp) (ok : Bool) {es : List Event} {c' : Component} :
      IsConfigure m.env → m.refusal handlers = none → Settling cfg handlers c es c' →
      Reaction m c (opt handlers.onConfigure
        (.onConfigure (configureSocket m.env) (configureTopics m.env)) ++
        .send (ackLine cfg stamp c m.env.messageId) ok :: es) c' .continue
  | shutdown (a n : Stamp) (ok ok' : Bool) : IsShutdown m.env →
      Reaction m c (.send (ackLine cfg a c m.env.messageId) ok ::
        (opt handlers.onShutdown .onShutdown ++
          [.send (shutdownLine cfg n c) ok', .state State.shutdown]))
        { c with state := State.shutdown } .stop
  | recoverable (code message : String) : IsError m.env → errorRecoverable m.env = true →
      Reaction m c (opt handlers.onError (.onError code message)) c .continue
  | fatal (code message : String) (err : GoError) : IsError m.env →
      errorRecoverable m.env = false → err.Plain →
      Reaction m c (opt handlers.onError (.onError code message)) c (.error err)

inductive Session : Component → List Event → Component → Verdict → Prop
  | cancelled (c : Component) (err : CtxErr) (stamp : Stamp) (ok : Bool) :
      Session c (.await c.state (some err) :: (opt handlers.onShutdown .onShutdown ++
        [.send (shutdownLine cfg stamp c) ok, .state State.shutdown]))
        { c with state := State.shutdown }
        (.error (.ctx err))
  | lost (c : Component) (text : String) (err : GoError) : err.Plain →
      Session c [.await c.state none, .recvFailed text] c (.error err)
  | last {c c' : Component} {m : Message} {es : List Event} {v : Verdict} :
      Reaction cfg handlers m c es c' v → v ≠ .continue →
      Session c (.await c.state none :: .recv m :: .dispatch m.env :: es) c' v
  | next {c c' c'' : Component} {m : Message} {es rest : List Event} {v : Verdict} :
      Reaction cfg handlers m c es c' .continue → Session c' rest c'' v →
      Session c (.await c.state none :: .recv m :: .dispatch m.env :: (es ++ rest)) c'' v

/-- The component that `register` makes of a REGISTERED payload. -/
def identified (payload : Payload) : Component where
  componentID := sprintV rt (payload.get "component_id")
  sessionID := sprintV rt (payload.get "session_id")
  state := State.registered

inductive Handshake (c : Component) : List Event → Component → Option GoError → Prop
  | registerLost (r : Stamp) (err : GoError) : err.Plain →
      Handshake c [.send (registerLine cfg r c) false] c (some err)
  | unanswered (r : Stamp) (text : String) (err : GoError) : err.Plain →
      Handshake c [.send (registerLine cfg r c) true, .recvFailed text] c (some err)
  | rejected (r : Stamp) (m : Message) (msg : String) : m.env.command ≠ Command.registered →
      Handshake c [.send (registerLine cfg r c) true, .recv m] c (some (.registration msg))
  | notInitializing (r : Stamp) (m : Message) {es : List Event} {c' : Component}
      (err : GoError) : m.env.command = Command.registered → err.Plain →
      Advance cfg (identified rt m.env.payload) State.initializing es c' false →
      Handshake c (.send (registerLine cfg r c) true :: .recv m :: .state State.registered :: es)
        c' (some err)
  | notReady (r : Stamp) (m : Message) {es es' : List Event} {c' c'' : Component}
      (err : GoError) : m.env.command = Command.registered → err.Plain →
      Advance cfg (identified rt m.env.payload) State.initializing es c' true →
      Advance cfg c' State.ready es' c'' false →
      Handshake c (.send (registerLine cfg r c) true :: .recv m :: .state State.registered ::
        (es ++ es')) c'' (some err)
  | ready (r : Stamp) (m : Message) {es es' : List Event} {c' c'' : Component} :
      m.env.command = Command.registered →
      Advance cfg (identified rt m.env.payload) State.initializing es c' true →
      Advance cfg c' State.ready es' c'' true →
      Handshake c (.send (registerLine cfg r c) true :: .recv m :: .state State.registered ::
        (es ++ es')) c'' none

def Verdict.err : Verdict → Option GoError
  | .continue => none
  | .stop => none
  | .error err => some err

inductive Attempt (c : Component) : List Event → Component → Option GoError → Prop
  | refused (err : GoError) : err.Plain →
      Attempt c [.dial cfg.socketPath false] c (some err)
  | unready {es : List Event} {c' : Component} {err : GoError} :
      Handshake rt cfg c es c' (some err) →
      Attempt c (.dial cfg.socketPath true :: (es ++ [.close])) c' (some err)
  | session {es es' : List Event} {c' c'' : Component} {v : Verdict} :
      Handshake rt cfg c es c' none → Session cfg handlers c' es' c'' v → v ≠ .continue →
      Attempt c (.dial cfg.socketPath true :: (es ++ es' ++ [.close])) c'' v.err

end Steps

/-- The turns of `Run` to come, the deliveries and the outcomes of the next writes on the
current connection. -/
structure Supply where
  links : List Link
  inbox : List Incoming
  writes : List Bool

def Supply.step (s : Supply) : Event → Supply
  | .dial _ true =>
    { links := s.links.tail, inbox := (s.links.head?.map Link.inbox).getD [],
      writes := (s.links.head?.map Link.writes).getD [] }
  | .dial _ false => { s with links := s.links.tail }
  | .send _ _ => { s with writes := s.writes.tail }
  | .recv _ => { s with inbox := s.inbox.tail }
  | .recvFailed _ => { s with inbox := s.inbox.tail }
  | _ => s

def Supply.allows (s : Supply) : Event → Prop
  | .dial _ ok => s.links.head?.map Link.dial = some ok
  | .send _ ok => ok = s.writes.headD true
  | .recv m => s.inbox.head?.map Incoming.delivery = some (.message m)
  | .recvFailed text => s.inbox.head?.map Incoming.delivery = some (.failure text) ∨
      s.inbox = [] ∧ text = "EOF"
  | .await _ ctx => ctx = s.inbox.head?.bind Incoming.ctx
  | _ => True

/-- The environment as a monitor: every dial, write, delivery and look at the context
comes out as it has in store. -/
def supply : Monitor Supply Event where
  step := Supply.step
  allows := Supply.allows

def Event.quiet : Event → Bool
  | .dial _ _ | .send _ _ | .recv _ | .recvFailed _ | .await _ _ => false
  | _ => true

def World.supply (w : World) (links : List Link) : Supply :=
  { links := links, inbox := w.inbox, writes := w.writes }

/-- From `w` to `w'` the events `es` are recorded and nothing else. -/
structure Leads (w w' : World) (es : List Event) : Prop where
  trace : w'.trace = w.trace ++ es
  supplied : ∀ links, supply.Accepts (w.supply links) es
  left : ∀ links, supply.after (w.supply links) es = w'.supply links
  shrinks : w'.inbox <:+ w.inbox

theorem Leads.refl (w : World) : Leads w w [] :=
  ⟨by simp, fun _ => trivial, fun _ => rfl, List.suffix_refl _⟩

theorem Leads.trans {w w' w'' : World} {es es' : List Event}
    (h : Leads w w' es) (h' : Leads w' w'' es') : Leads w w'' (es ++ es') where
  trace := by rw [h'.trace, h.trace, List.append_assoc]
  supplied links := by
    rw [supply.accepts_append, h.left]
    exact ⟨h.supplied links, h'.supplied links⟩
  left links := by rw [supply.after_append, h.left, h'.left]
  shrinks := h'.shrinks.trans h.shrinks

theorem Leads.component (w : World) (c : Component) (n : Nat) :
    Leads w { w with component := c, created := n } [] :=
  ⟨by simp, fun _ => trivial, fun _ => rfl, List.suffix_refl _⟩

theorem emit_ok (e : Event) (w : World) (h : e.quiet = true) :
    ∃ w', emit e w = .ok () w' ∧ Leads w w' [e] ∧ w'.component = w.component := by
  refine ⟨_, rfl, ⟨rfl, fun links => ?_, fun links => ?_, List.suffix_refl _⟩, rfl⟩ <;>
    cases e <;> first | rfl | exact ⟨trivial, trivial⟩ | simp [Event.quiet] at h

theorem call_ok (isSet : Bool) (e : Event) (w : World) (h : e.quiet = true) :
    ∃ w', call isSet e w = .ok () w' ∧ Leads w w' (opt isSet e) ∧
      w'.component = w.component := by
  cases isSet with
  | false => exact ⟨w, rfl, Leads.refl w, rfl⟩
  | true => exact emit_ok e w h

theorem storeState_ok (s : ComponentState) (w : World) :
    ∃ w', storeState s w = .ok () w' ∧ Leads w w' [.state s] ∧
      w'.component = { w.component with state := s } :=
  ⟨_, rfl, ⟨rfl, fun _ => ⟨trivial, trivial⟩, fun _ => rfl, List.suffix_refl _⟩, rfl⟩

def writeError : GoError := .other "write"

/-- A sender's outcome: the flag of its `.send` event decides the result. -/
def Sends (x : Task Unit) (w : World) (line : Envelope) : Prop :=
  (∃ w', x w = .ok () w' ∧ Leads w w' [.send line true] ∧ w'.component = w.component) ∨
  (∃ w', x w = .error writeError w' ∧ Leads w w' [.send line false] ∧
    w'.component = w.component)

theorem send_cases (env : Envelope) (w : World) : Sends (send env) w env := by
  obtain ⟨component, inbox, writes, created, trace⟩ := w
  match writes with
  | [] => exact .inl ⟨_, rfl, ⟨rfl, fun _ => ⟨rfl, trivial⟩, fun _ => rfl, List.suffix_refl _⟩, rfl⟩
  | true :: rest =>
    exact .inl ⟨_, rfl, ⟨rfl, fun _ => ⟨rfl, trivial⟩, fun _ => rfl, List.suffix_refl _⟩, rfl⟩
  | false :: rest =>
    exact .inr ⟨_, rfl, ⟨rfl, fun _ => ⟨rfl, trivial⟩, fun _ => rfl, List.suffix_refl _⟩, rfl⟩

theorem Sends.ignore {x : Task Unit} {w : World} {line : Envelope}
    (h : Sends x w line) :
    ∃ ok w', Library.ignore x w = .ok () w' ∧ Leads w w' [.send line ok] ∧
      w'.component = w.component := by
  rcases h with ⟨w', h, l, c⟩ | ⟨w', h, l, c⟩
  · exact ⟨true, w', ignore_ok h, l, c⟩
  · exact ⟨false, w', ignore_error h, l, c⟩

theorem recv_cases (w : World) :
    (∃ m w', recv w = .ok m w' ∧ Leads w w' [.recv m] ∧ w'.component = w.component) ∨
    (∃ text w', recv w = .error (.other text) w' ∧ Leads w w' [.recvFailed text] ∧
      w'.component = w.component) := by
  obtain ⟨component, inbox, writes, created, trace⟩ := w
  match inbox with
  | [] =>
    exact .inr ⟨"EOF", _, rfl, ⟨rfl, fun _ => ⟨.inr ⟨rfl, rfl⟩, trivial⟩, fun _ => rfl,
      List.suffix_refl _⟩, rfl⟩
  | ⟨ctx, .failure text⟩ :: rest =>
    exact .inr ⟨text, _, rfl, ⟨rfl, fun _ => ⟨.inl rfl, trivial⟩, fun _ => rfl,
      List.suffix_cons _ _⟩, rfl⟩
  | ⟨ctx, .message m⟩ :: rest =>
    exact .inl ⟨m, _, rfl, ⟨rfl, fun _ => ⟨rfl, trivial⟩, fun _ => rfl,
      List.suffix_cons _ _⟩, rfl⟩

section Senders

variable (rt : Runtime) (cfg : Config)

theorem create_ok (t : MessageType) (cmd : Command) (p : Payload) (w : World) :
    ∃ w', create rt cfg t cmd p w =
        .ok (newEnvelope (rt.stamp w.created) t cmd (source cfg w.component) p) w' ∧
      Leads w w' [] ∧ w'.component = w.component :=
  ⟨_, rfl, Leads.component w _ _, rfl⟩

theorem newLine_sends (t : MessageType) (cmd : Command) (p : Payload)
    (g : Envelope → Envelope) (w : World) :
    Sends (create rt cfg t cmd p >>= fun env => send (g env)) w
      (g (newEnvelope (rt.stamp w.created) t cmd (source cfg w.component) p)) := by
  obtain ⟨w₁, h₁, l₁, c₁⟩ := create_ok rt cfg t cmd p w
  rcases send_cases (g (newEnvelope (rt.stamp w.created) t cmd (source cfg w.component) p)) w₁ with
    ⟨w₂, h₂, l₂, c₂⟩ | ⟨w₂, h₂, l₂, c₂⟩
  · exact .inl ⟨w₂, (bind_ok h₁).trans h₂, l₁.trans l₂, c₂.trans c₁⟩
  · exact .inr ⟨w₂, (bind_ok h₁).trans h₂, l₁.trans l₂, c₂.trans c₁⟩

theorem sendACK_sends (id : String) (w : World) :
    ∃ stamp, Sends (sendACK rt cfg id) w (ackLine cfg stamp w.component id) :=
  ⟨_, newLine_sends rt cfg _ _ _ (fun env => env.withCorrelation id) w⟩

theorem sendError_sends (code message : String) (recoverable : Bool) (w : World) :
    ∃ stamp, Sends (sendError rt cfg code message recoverable) w
      (errorLine cfg stamp w.component code message recoverable) :=
  ⟨_, newLine_sends rt cfg _ _ _ id w⟩

/-- The state changes only after the line was written. -/
theorem sendStateUpdate_cases (s : ComponentState) (w : World) :
    ∃ stamp,
      (∃ w', sendStateUpdate rt cfg s "" w = .ok () w' ∧
        Leads w w' [.send (stateLine cfg stamp w.component s) true, .state s] ∧
        w'.component = { w.component with state := s }) ∨
      (∃ w', sendStateUpdate rt cfg s "" w = .error writeError w' ∧
        Leads w w' [.send (stateLine cfg stamp w.component s) false] ∧
        w'.component = w.component) := by
  have split : sendStateUpdate rt cfg s "" =
      (create rt cfg MessageType.lifecycle Command.stateUpdate
        (Payload.insert [] "state" (.str s)) >>= fun env => send env) >>=
        fun _ => storeState s := by
    rw [bind_assoc]
    rfl
  refine ⟨rt.stamp w.created, ?_⟩
  rw [split]
  rcases newLine_sends rt cfg MessageType.lifecycle Command.stateUpdate
      (Payload.insert [] "state" (.str s)) id w with ⟨w₁, h₁, l₁, c₁⟩ | ⟨w₁, h₁, l₁, c₁⟩
  · obtain ⟨w₂, h₂, l₂, c₂⟩ := storeState_ok s w₁
    exact .inl ⟨w₂, (bind_ok h₁).trans h₂, l₁.trans l₂, by rw [c₂, c₁]⟩
  · exact .inr ⟨w₁, bind_error h₁, l₁, c₁⟩

theorem advance_cases (f g : GoError → GoError) (hf : ∀ text, (f (.other text)).Plain)
    (hg : ∀ text, (g (.other text)).Plain) (s : ComponentState) {α : Type} (k : Task α)
    (w : World) :
    let x := mapError f (sendStateUpdate rt cfg s "") >>= fun _ => mapError g recv >>= fun _ => k
    (∃ es w', x w = k w' ∧ Leads w w' es ∧ Advance cfg w.component s es w'.component true) ∨
    (∃ es w' err, x w = .error err w' ∧ err.Plain ∧ Leads w w' es ∧
      Advance cfg w.component s es w'.component false) := by
  intro x
  obtain ⟨stamp, ⟨w₁, h₁, l₁, c₁⟩ | ⟨w₁, h₁, l₁, c₁⟩⟩ := sendStateUpdate_cases rt cfg s w
  case inr =>
    exact .inr ⟨_, w₁, _, bind_error (mapError_error h₁), hf _, l₁, c₁ ▸ .lost stamp⟩
  rcases recv_cases w₁ with ⟨m, w₂, h₂, l₂, c₂⟩ | ⟨text, w₂, h₂, l₂, c₂⟩
  · refine .inl ⟨_, w₂, (bind_ok (mapError_ok h₁)).trans (bind_ok (mapError_ok h₂)),
      l₁.trans l₂, ?_⟩
    rw [c₂, c₁]
    exact .done stamp m
  · refine .inr ⟨_, w₂, _, (bind_ok (mapError_ok h₁)).trans (bind_error (mapError_error h₂)),
      hg _, l₁.trans l₂, ?_⟩
    rw [c₂, c₁]
    exact .unanswered stamp text

end Senders

section Handlers

variable (rt : Runtime) (cfg : Config) (handlers : Handlers) (m : Message)

theorem gracefulShutdown_ok (w : World) :
    ∃ stamp ok w', gracefulShutdown rt cfg handlers w = .ok () w' ∧
      Leads w w' (opt handlers.onShutdown .onShutdown ++
        [.send (shutdownLine cfg stamp w.component) ok, .state State.shutdown]) ∧
      w'.component = { w.component with state := State.shutdown } := by
  obtain ⟨w₁, h₁, l₁, c₁⟩ := call_ok handlers.onShutdown .onShutdown w rfl
  obtain ⟨w₂, h₂, l₂, c₂⟩ := create_ok rt cfg MessageType.lifecycle Command.shutdown [] w₁
  obtain ⟨ok, w₃, h₃, l₃, c₃⟩ := (send_cases (newEnvelope (rt.stamp w₁.created)
    MessageType.lifecycle Command.shutdown (source cfg w₁.component) []) w₂).ignore
  obtain ⟨w₄, h₄, l₄, c₄⟩ := storeState_ok State.shutdown w₃
  refine ⟨rt.stamp w₁.created, ok, w₄, ?_, ?_, by rw [c₄, c₃, c₂, c₁]⟩
  · unfold gracefulShutdown
    rw [bind_ok h₁, bind_ok h₂, bind_ok h₃, h₄]
  · have := l₁.trans ((l₂.trans l₃).trans l₄)
    rw [c₁] at this
    exact this

def Verdict.result : Verdict → World → EStateM.Result GoError World Bool
  | .continue, w => .ok false w
  | .stop, w => .ok true w
  | .error err, w => .error err w

/-- `r` answers the message in one of the ways of `Reaction`. -/
def Reacts (w : World) (r : EStateM.Result GoError World Bool) : Prop :=
  ∃ es v w', r = v.result w' ∧ Leads w w' es ∧
    Reaction cfg handlers m w.component es w'.component v

theorem Reacts.idle (w : World) (h : Ignored m.env) : Reacts cfg handlers m w (.ok false w) :=
  ⟨[], .continue, w, rfl, Leads.refl w, .ignored h⟩

theorem handleHeartbeat_reacts (ht : m.env.type = MessageType.heartbeat) (w : World) :
    Reacts cfg handlers m w
      ((handleHeartbeat rt cfg handlers m.env >>= fun _ => pure false) w) := by
  by_cases hc : m.env.command = Command.ping
  case neg =>
    have : (handleHeartbeat rt cfg handlers m.env >>= fun _ => pure false) w = .ok false w := by
      simp only [handleHeartbeat, if_pos hc]
      rfl
    rw [this]
    exact Reacts.idle cfg handlers m w
      (by simp [Ignored, IsPing, IsConfigure, IsShutdown, IsError, ht, hc, MessageType.heartbeat,
        MessageType.config, MessageType.lifecycle, MessageType.error])
  obtain ⟨w₁, h₁, l₁, c₁⟩ := call_ok handlers.onPing .onPing w rfl
  obtain ⟨w₂, h₂, l₂, c₂⟩ := create_ok rt cfg MessageType.heartbeat Command.pong
    ((Payload.insert [] "state" (.str w₁.component.state)).insert
      "uptime_seconds" (.num (toString (rt.uptime w₁.created)))) w₁
  obtain ⟨ok, w₃, h₃, l₃, c₃⟩ := (send_cases (pongLine cfg (rt.stamp w₁.created) w₁.component
    (rt.uptime w₁.created) m.env.messageId) w₂).ignore
  refine ⟨_, .continue, w₃, ?_, l₁.trans (l₂.trans l₃), ?_⟩
  · have split : handleHeartbeat rt cfg handlers m.env w = .ok () w₃ := by
      unfold handleHeartbeat
      rw [if_neg (by simp [hc]), bind_ok h₁]
      change (create rt cfg _ _ _ >>= fun pong =>
        ignore (send (pong.withCorrelation m.env.messageId))) w₁ = _
      rw [bind_ok h₂]
      exact h₃
    exact bind_ok split
  · rw [c₃, c₂, c₁]
    exact .pong _ _ ok ⟨ht, hc⟩

theorem settling_cases (w : World) :
    ∃ es w', ignore (do
        advance rt cfg State.configured
        advance rt cfg State.running
        call handlers.onRunning .onRunning) w = .ok () w' ∧ Leads w w' es ∧
      Settling cfg handlers w.component es w'.component := by
  have plain : ∀ text, (id (GoError.other text)).Plain := fun _ => ⟨rfl, rfl⟩
  have split : (do
      advance rt cfg State.configured
      advance rt cfg State.running
      call handlers.onRunning .onRunning) =
      mapError id (sendStateUpdate rt cfg State.configured "") >>= fun _ =>
        mapError id recv >>= fun _ =>
          (mapError id (sendStateUpdate rt cfg State.running "") >>= fun _ =>
            mapError id recv >>= fun _ => call handlers.onRunning .onRunning) := by
    simp only [mapError_id, advance, bind_assoc, pure_bind]
  rw [split]
  rcases advance_cases rt cfg id id plain plain State.configured (mapError id
      (sendStateUpdate rt cfg State.running "") >>= fun _ => mapError id recv >>= fun _ =>
        call handlers.onRunning .onRunning) w with
    ⟨es, w₁, h₁, l₁, a₁⟩ | ⟨es, w₁, err, h₁, _, l₁, a₁⟩
  case inr => exact ⟨es, w₁, ignore_error h₁, l₁, .unconfigured a₁⟩
  rcases advance_cases rt cfg id id plain plain State.running
      (call handlers.onRunning .onRunning) w₁ with
    ⟨es', w₂, h₂, l₂, a₂⟩ | ⟨es', w₂, err, h₂, _, l₂, a₂⟩
  case inr => exact ⟨_, w₂, ignore_error (h₁.trans h₂), l₁.trans l₂, .stopped a₁ a₂⟩
  obtain ⟨w₃, h₃, l₃, c₃⟩ := call_ok handlers.onRunning .onRunning w₂ rfl
  exact ⟨_, w₃, ignore_ok ((h₁.trans h₂).trans h₃), l₁.trans (l₂.trans l₃),
    c₃ ▸ .running a₁ a₂⟩

theorem handleConfig_reacts (ht : m.env.type = MessageType.config) (w : World) :
    Reacts cfg handlers m w
      ((handleConfig rt cfg handlers m.env m.onConfigure >>= fun _ => pure false) w) := by
  by_cases hc : m.env.command = Command.configure
  case neg =>
    have : (handleConfig rt cfg handlers m.env m.onConfigure >>= fun _ => pure false) w =
        .ok false w := by
      simp only [handleConfig, if_pos hc]
      rfl
    rw [this]
    exact Reacts.idle cfg handlers m w
      (by simp [Ignored, IsPing, IsConfigure, IsShutdown, IsError, ht, hc, MessageType.heartbeat,
        MessageType.config, MessageType.lifecycle, MessageType.error])
  have hm : IsConfigure m.env := ⟨ht, hc⟩
  obtain ⟨w₁, h₁, l₁, c₁⟩ := call_ok handlers.onConfigure
    (.onConfigure (configureSocket m.env) (configureTopics m.env)) w rfl
  cases hr : m.refusal handlers with
  | some err =>
    obtain ⟨stamp, sends⟩ := sendError_sends rt cfg "CONFIGURE_FAILED" err.error true w₁
    obtain ⟨ok, w₂, h₂, l₂, c₂⟩ := sends.ignore
    refine ⟨_, .continue, w₂, ?_, l₁.trans l₂, ?_⟩
    · have split : handleConfig rt cfg handlers m.env m.onConfigure w = .ok () w₂ := by
        unfold handleConfig
        rw [if_neg (by simp [hc]), bind_ok h₁]
        rw [Message.refusal] at hr
        rw [hr]
        exact h₂
      exact bind_ok split
    · rw [c₂, c₁]
      exact .refused stamp err ok hm hr
  | none =>
    obtain ⟨stamp, sends⟩ := sendACK_sends rt cfg m.env.messageId w₁
    obtain ⟨ok, w₂, h₂, l₂, c₂⟩ := sends.ignore
    obtain ⟨es, w₃, h₃, l₃, settling⟩ := settling_cases rt cfg handlers w₂
    refine ⟨_, .continue, w₃, ?_, l₁.trans (l₂.trans l₃), ?_⟩
    · have split : handleConfig rt cfg handlers m.env m.onConfigure w = .ok () w₃ := by
        unfold handleConfig
        rw [if_neg (by simp [hc]), bind_ok h₁]
        rw [Message.refusal] at hr
        rw [hr]
        exact (bind_ok h₂).trans h₃
      exact bind_ok split
    · rw [c₂, c₁] at settling
      rw [c₁]
      exact .accepted stamp ok hm hr settling

theorem handleLifecycle_reacts (ht : m.env.type = MessageType.lifecycle) (w : World) :
    Reacts cfg handlers m w (handleLifecycle rt cfg handlers m.env w) := by
  unfold handleLifecycle
  by_cases hc : m.env.command = Command.shutdown
  case neg =>
    rw [if_neg hc]
    exact Reacts.idle cfg handlers m w
      (by simp [Ignored, IsPing, IsConfigure, IsShutdown, IsError, ht, hc, MessageType.heartbeat,
        MessageType.config, MessageType.lifecycle, MessageType.error])
  rw [if_pos hc]
  obtain ⟨a, sends⟩ := sendACK_sends rt cfg m.env.messageId w
  obtain ⟨ok, w₁, h₁, l₁, c₁⟩ := sends.ignore
  obtain ⟨n, ok', w₂, h₂, l₂, c₂⟩ := gracefulShutdown_ok rt cfg handlers w₁
  refine ⟨_, .stop, w₂, (bind_ok h₁).trans (bind_ok h₂), l₁.trans l₂, ?_⟩
  rw [c₂, c₁]
  exact .shutdown a n ok ok' ⟨ht, hc⟩

theorem handleErrorMsg_reacts (ht : m.env.type = MessageType.error) (w : World) :
    Reacts cfg handlers m w
      ((handleErrorMsg handlers m.env >>= fun fatal =>
        if fatal then throw (.other ("non-recoverable error from Aegis: " ++
          sprintS rt (m.env.payload.get "code"))) else pure false) w) := by
  obtain ⟨w₁, h₁, l₁, c₁⟩ := call_ok handlers.onError
    (.onError (((m.env.payload.get "code").bind Json.asStr).getD "")
      (((m.env.payload.get "message").bind Json.asStr).getD "")) w rfl
  have hb : handleErrorMsg handlers m.env w = .ok (!errorRecoverable m.env) w₁ := by
    unfold handleErrorMsg
    rw [bind_ok h₁]
    rfl
  rw [bind_ok hb]
  cases hr : errorRecoverable m.env with
  | true => exact ⟨_, .continue, w₁, rfl, l₁, c₁ ▸ .recoverable _ _ ht hr⟩
  | false =>
    exact ⟨_, .error (.other ("non-recoverable error from Aegis: " ++
      sprintS rt (m.env.payload.get "code"))), w₁, rfl, l₁, c₁ ▸ .fatal _ _ _ ht hr ⟨rfl, rfl⟩⟩

theorem dispatch_reacts (w : World) :
    Reacts cfg handlers m w (dispatch rt cfg handlers m w) := by
  unfold dispatch
  split
  case isTrue ht => exact handleHeartbeat_reacts rt cfg handlers m ht w
  split
  case isTrue ht => exact handleConfig_reacts rt cfg handlers m ht w
  split
  case isTrue ht => exact handleLifecycle_reacts rt cfg handlers m ht w
  split
  case isTrue ht => exact handleErrorMsg_reacts rt cfg handlers m ht w
  case isFalse h₁ h₂ h₃ h₄ =>
    exact Reacts.idle cfg handlers m w
      (by simp [Ignored, IsPing, IsConfigure, IsShutdown, IsError, h₁, h₂, h₃, h₄])

end Handlers

section Loops

variable (rt : Runtime) (cfg : Config) (handlers : Handlers)

section Errorf

variable {α : Type} {x : Task α} {w w' : World} (text : String)

theorem errorf_ok {a : α} (h : x w = .ok a w') : errorf text x w = .ok a w' := mapError_ok h

theorem errorf_error {err : GoError} (h : x w = .error err w') :
    errorf text x w = .error (.wrap text (some err)) w' := mapError_error h

end Errorf

theorem Leads.recv_lt {w w' : World} {m : Message} (l : Leads w w' [.recv m]) :
    w'.inbox.length < w.inbox.length := by
  have allowed := (l.supplied []).1
  have left : w.inbox.tail = w'.inbox := congrArg Supply.inbox (l.left [])
  rw [← left, List.length_tail]
  cases h : w.inbox with
  | nil => simp [supply, Supply.allows, World.supply, h] at allowed
  | cons incoming rest => simp

def Verdict.loopResult : Verdict → World → EStateM.Result GoError World Unit
  | .continue, w => .ok () w
  | .stop, w => .ok () w
  | .error err, w => .error err w

/-- The world after `messageLoop` has looked at the context. -/
def World.awaited (w : World) : World :=
  { w with trace := w.trace ++ [.await w.component.state w.ctx] }

theorem get_ok (w : World) : (get : Task World) w = .ok w w := rfl

theorem emit_awaited (w : World) : emit (.await w.component.state w.ctx) w = .ok () w.awaited :=
  rfl

theorem Leads.awaited (w : World) : Leads w w.awaited [.await w.component.state w.ctx] :=
  ⟨rfl, fun _ => ⟨rfl, trivial⟩, fun _ => rfl, List.suffix_refl _⟩

theorem messageLoop_done (fuel : Nat) {w : World} {err : CtxErr} (h : w.ctx = some err) :
    messageLoop rt cfg handlers (fuel + 1) w =
      (gracefulShutdown rt cfg handlers >>= fun _ => throw (.ctx err)) w.awaited := by
  rw [messageLoop, bind_ok (get_ok w), bind_ok (emit_awaited w), h]

theorem messageLoop_live (fuel : Nat) {w : World} (h : w.ctx = none) :
    messageLoop rt cfg handlers (fuel + 1) w =
      (errorf "recv" recv >>= fun m => emit (.dispatch m.env) >>= fun _ =>
        dispatch rt cfg handlers m >>= fun stop =>
          if stop then pure () else messageLoop rt cfg handlers fuel) w.awaited := by
  rw [messageLoop, bind_ok (get_ok w), bind_ok (emit_awaited w), h]

/-- Every course of `messageLoop` is a `Session`. -/
theorem messageLoop_session (fuel : Nat) (w : World) (h : w.inbox.length < fuel) :
    ∃ es v w', messageLoop rt cfg handlers fuel w = v.loopResult w' ∧ Leads w w' es ∧
      Session cfg handlers w.component es w'.component v ∧ v ≠ .continue := by
  induction fuel generalizing w with
  | zero => omega
  | succ fuel ih =>
    have l₁ := Leads.awaited w
    cases hctx : w.ctx with
    | some err =>
      obtain ⟨stamp, ok, w₂, h₂, l₂, c₂⟩ := gracefulShutdown_ok rt cfg handlers w.awaited
      rw [hctx] at l₁
      rw [messageLoop_done rt cfg handlers fuel hctx, bind_ok h₂]
      refine ⟨_, .error (.ctx err), w₂, rfl, l₁.trans l₂, ?_, nofun⟩
      rw [c₂]
      exact .cancelled w.component err stamp ok
    | none =>
      rw [hctx] at l₁
      rw [messageLoop_live rt cfg handlers fuel hctx]
      rcases recv_cases w.awaited with ⟨m, w₂, h₂, l₂, c₂⟩ | ⟨text, w₂, h₂, l₂, c₂⟩
      case inr =>
        refine ⟨_, .error (.wrap "recv" (some (.other text))), w₂, bind_error (errorf_error _ h₂),
          l₁.trans l₂, ?_, nofun⟩
        rw [c₂]
        exact .lost w.component text _ ⟨rfl, rfl⟩
      obtain ⟨w₃, h₃, l₃, c₃⟩ := emit_ok (.dispatch m.env) w₂ rfl
      obtain ⟨es, v, w₄, h₄, l₄, reaction⟩ := dispatch_reacts rt cfg handlers m w₃
      rw [c₃.trans c₂] at reaction
      have leads := (l₁.trans l₂).trans (l₃.trans l₄)
      rw [bind_ok (errorf_ok "recv" h₂), bind_ok h₃]
      cases v with
      | «continue» =>
        have shorter : w₄.inbox.length < fuel := by
          have h₂ : w₂.inbox.length < w.inbox.length := l₂.recv_lt
          have h₄ := (l₃.trans l₄).shrinks.length_le
          omega
        obtain ⟨es', v', w₅, h₅, l₅, session, hv⟩ := ih w₄ shorter
        refine ⟨_, v', w₅, ?_, leads.trans l₅, .next reaction session, hv⟩
        rw [bind_ok h₄]
        exact h₅
      | stop =>
        refine ⟨_, .stop, w₄, ?_, leads, .last reaction nofun, nofun⟩
        rw [bind_ok h₄]
        rfl
      | error err =>
        exact ⟨_, .error err, w₄, bind_error h₄, leads, .last reaction nofun, nofun⟩

theorem register_handshake (w : World) :
    (∃ es w', register rt cfg w = .ok () w' ∧ Leads w w' es ∧
      Handshake rt cfg w.component es w'.component none) ∨
    (∃ es w' err, register rt cfg w = .error err w' ∧ Leads w w' es ∧
      Handshake rt cfg w.component es w'.component (some err)) := by
  have plain : ∀ text text', (GoError.wrap text (some (.other text'))).Plain :=
    fun _ _ => ⟨rfl, rfl⟩
  let k₂ : Task Unit := errorf "send STATE_UPDATE(READY)" (sendStateUpdate rt cfg State.ready "")
    >>= fun _ => errorf "recv ACK(READY)" recv >>= fun _ => pure ()
  let k₁ : Message → Task Unit := fun resp =>
    if resp.env.command ≠ Command.registered then
      throw (.registration ("unexpected response: " ++ resp.env.command))
    else storeIdentity rt resp.env.payload >>= fun _ =>
      errorf "send STATE_UPDATE(INITIALIZING)" (sendStateUpdate rt cfg State.initializing "")
        >>= fun _ => errorf "recv ACK(INITIALIZING)" recv >>= fun _ => k₂
  have split : register rt cfg = create rt cfg MessageType.lifecycle Command.register
      (registerPayload cfg) >>= fun env => errorf "send register" (send env) >>= fun _ =>
        errorf "recv registered" recv >>= k₁ := rfl
  obtain ⟨w₁, h₁, l₁, c₁⟩ := create_ok rt cfg MessageType.lifecycle Command.register
    (registerPayload cfg) w
  rw [split, bind_ok h₁]
  rcases send_cases (registerLine cfg (rt.stamp w.created) w.component) w₁ with
    ⟨w₂, h₂, l₂, c₂⟩ | ⟨w₂, h₂, l₂, c₂⟩
  case inr =>
    refine .inr ⟨_, w₂, _, bind_error (errorf_error _ h₂), l₁.trans l₂, ?_⟩
    rw [c₂, c₁]
    exact .registerLost _ _ (plain _ _)
  have sent := l₁.trans l₂
  rcases recv_cases w₂ with ⟨m, w₃, h₃, l₃, c₃⟩ | ⟨text, w₃, h₃, l₃, c₃⟩
  case inr =>
    refine .inr ⟨_, w₃, _, (bind_ok (errorf_ok _ h₂)).trans (bind_error (errorf_error _ h₃)),
      sent.trans l₃, ?_⟩
    rw [c₃, c₂, c₁]
    exact .unanswered _ text _ (plain _ _)
  have received := sent.trans l₃
  have reached := (bind_ok (f := fun _ => errorf "recv registered" recv >>= k₁)
    (errorf_ok "send register" h₂)).trans (bind_ok (f := k₁) (errorf_ok "recv registered" h₃))
  by_cases hc : m.env.command = Command.registered
  case neg =>
    refine .inr ⟨_, w₃, .registration ("unexpected response: " ++ m.env.command), ?_, received, ?_⟩
    · refine reached.trans ?_
      simp only [k₁, ne_eq, hc, not_false_eq_true, if_true]
      rfl
    · rw [c₃, c₂, c₁]
      exact .rejected _ m _ hc
  let w₄ : World := { w₃ with component := identified rt m.env.payload,
                              trace := w₃.trace ++ [.state State.registered] }
  have l₄ : Leads w₃ w₄ [.state State.registered] :=
    ⟨rfl, fun _ => ⟨trivial, trivial⟩, fun _ => rfl, List.suffix_refl _⟩
  have stored : k₁ m w₃ = (errorf "send STATE_UPDATE(INITIALIZING)"
      (sendStateUpdate rt cfg State.initializing "") >>= fun _ =>
        errorf "recv ACK(INITIALIZING)" recv >>= fun _ => k₂) w₄ := by
    simp only [k₁, ne_eq, hc, not_true_eq_false, if_false]
    rfl
  rcases advance_cases rt cfg (fun err => .wrap "send STATE_UPDATE(INITIALIZING)" (some err))
      (fun err => .wrap "recv ACK(INITIALIZING)" (some err)) (plain _) (plain _)
      State.initializing k₂ w₄ with
    ⟨es, w₅, h₅, l₅, a₅⟩ | ⟨es, w₅, err, h₅, hp, l₅, a₅⟩
  case inr =>
    exact .inr ⟨_, w₅, err, (reached.trans stored).trans h₅, received.trans (l₄.trans l₅),
      .notInitializing _ m err hc hp a₅⟩
  rcases advance_cases rt cfg (fun err => .wrap "send STATE_UPDATE(READY)" (some err))
      (fun err => .wrap "recv ACK(READY)" (some err)) (plain _) (plain _)
      State.ready (pure ()) w₅ with
    ⟨es', w₆, h₆, l₆, a₆⟩ | ⟨es', w₆, err, h₆, hp, l₆, a₆⟩
  case inr =>
    have handshake : Handshake rt cfg w.component (.send (registerLine cfg (rt.stamp w.created)
        w.component) true :: .recv m :: .state State.registered :: (es ++ es')) w₆.component
        (some err) :=
      .notReady _ m err hc hp a₅ a₆
    exact .inr ⟨_, w₆, err, ((reached.trans stored).trans h₅).trans h₆,
      received.trans (l₄.trans (l₅.trans l₆)), handshake⟩
  have handshake : Handshake rt cfg w.component (.send (registerLine cfg (rt.stamp w.created)
      w.component) true :: .recv m :: .state State.registered :: (es ++ es')) w₆.component none :=
    .ready _ m hc a₅ a₆
  exact .inl ⟨_, w₆, ((reached.trans stored).trans h₅).trans h₆,
    received.trans (l₄.trans (l₅.trans l₆)), handshake⟩

theorem deferClose_ok {x : Task Unit} {w w' : World} (h : x w = .ok () w') :
    deferClose x w = .ok () { w' with trace := w'.trace ++ [.close] } := by
  simp only [deferClose, h]
  rfl

theorem deferClose_error {x : Task Unit} {w w' : World} {err : GoError}
    (h : x w = .error err w') :
    deferClose x w = .error err { w' with trace := w'.trace ++ [.close] } := by
  simp only [deferClose, h]

/-- The result of `runOnce` that goes with an error or none. -/
def onceResult : Option GoError → World → EStateM.Result GoError World Unit
  | none, w => .ok () w
  | some err, w => .error err w

/-- Every course of `runOnce` is an `Attempt`, with what the environment has in store for
its link. -/
theorem runOnce_attempt (link : Link) (w : World) :
    ∃ es res w', runOnce rt cfg handlers link w = onceResult res w' ∧
      Attempt rt cfg handlers w.component es w'.component res ∧
      w'.trace = w.trace ++ es ∧
      (∀ links, supply.Accepts (w.supply (link :: links)) es) ∧
      ∀ links, supply.after (w.supply (link :: links)) es = w'.supply links := by
  cases hdial : link.dial with
  | false =>
    refine ⟨_, _, { w with trace := w.trace ++ [.dial cfg.socketPath false] }, ?_,
      .refused (.wrap "connect" (some (.other "dial"))) ⟨rfl, rfl⟩, rfl, fun links => ?_,
      fun links => rfl⟩
    · simp only [runOnce, hdial]
      rfl
    · exact ⟨congrArg some hdial, trivial⟩
  | true =>
    let w₀ : World := { w with inbox := link.inbox, writes := link.writes,
                               trace := w.trace ++ [.dial cfg.socketPath true] }
    have split : runOnce rt cfg handlers link w = deferClose (do
        register rt cfg
        messageLoop rt cfg handlers ((← get).inbox.length + 1)) w₀ := by
      simp only [runOnce, hdial, if_true]
      rfl
    rw [split]
    -- the events between the dial and the close are those of the world they leave
    have closed : ∀ {w' es}, Leads w₀ w' es →
        w'.trace ++ [.close] = w.trace ++ .dial cfg.socketPath true :: (es ++ [.close]) ∧
        (∀ links, supply.Accepts (w.supply (link :: links))
          (.dial cfg.socketPath true :: (es ++ [.close]))) ∧
        ∀ links, supply.after (w.supply (link :: links))
          (.dial cfg.socketPath true :: (es ++ [.close])) = w'.supply links := by
      intro w' es l
      refine ⟨by simp [l.trace, w₀], fun links => ⟨congrArg some hdial, ?_⟩, fun links => ?_⟩
      · exact (supply.accepts_append _ _ _).mpr ⟨l.supplied links, trivial, trivial⟩
      · rw [supply.after_cons, supply.after_append]
        exact l.left links
    rcases register_handshake rt cfg w₀ with
      ⟨es, w₁, h₁, l₁, handshake⟩ | ⟨es, w₁, err, h₁, l₁, handshake⟩
    case inr =>
      obtain ⟨trace, supplied, left⟩ := closed l₁
      exact ⟨_, some err, _, deferClose_error (bind_error h₁), .unready handshake, trace,
        supplied, left⟩
    obtain ⟨es', v, w₂, h₂, l₂, session, hv⟩ :=
      messageLoop_session rt cfg handlers (w₁.inbox.length + 1) w₁ (Nat.lt_succ_self _)
    obtain ⟨trace, supplied, left⟩ := closed (l₁.trans l₂)
    refine ⟨_, v.err, { w₂ with trace := w₂.trace ++ [.close] }, ?_,
      .session handshake session hv, trace, supplied, left⟩
    have reached := (bind_ok (f := fun _ => get >>= fun w =>
      messageLoop rt cfg handlers (w.inbox.length + 1)) h₁).trans h₂
    cases v with
    | «continue» => exact absurd rfl hv
    | stop => exact deferClose_ok reached
    | error err => exact deferClose_error reached

end Loops

namespace Sample

def runtime : Runtime where
  stamp n := { messageId := toString n, timestamp := "" }
  uptime _ := 0
  sprint _ _ := "0"

def config : Config := { socketPath := "aegis.sock", componentName := "c" }

def message (id : String) (type : MessageType) (cmd : Command) (payload : Payload) : Message :=
  { env := { protocolVersion := "0.1", messageId := id, correlationId := none,
             timestamp := "t", source := "aegis", target := "component:c", type := type,
             command := cmd, payload := payload } }

def registered : Message := message "m1" MessageType.lifecycle Command.registered
  [("component_id", .str "c1"), ("session_id", .str "s1")]
def ack : Message := message "m2" MessageType.control Command.ack []
def ping : Message := message "m3" MessageType.heartbeat Command.ping []
def shutdown : Message := message "m4" MessageType.lifecycle Command.shutdown []

end Sample

end AegisSdk.Go
