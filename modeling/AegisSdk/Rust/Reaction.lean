import AegisSdk.Library.Monitor
import AegisSdk.Library.Task
import AegisSdk.Rust.Component

/-!
What one step of the component can do, said once. `Reaction` lists every way the
component answers one dispatched message, `Session` every course of `message_loop`,
`Attempt` every course of `run_once` and `History` every course of `run`, each by the
events it records, the state it leaves and the way it ends. The inversion theorems
show that the functions of `component.rs` do nothing else.
-/

set_option autoImplicit false
set_option relaxedAutoImplicit false

namespace AegisSdk.Rust

open AegisSdk.Protocol AegisSdk.Library

section Lines

variable (cfg : Config) (stamp : Stamp)

def registerLine (componentId : String) : Envelope :=
  .new stamp .lifecycle .register (source cfg) (registerPayload cfg componentId)

def stateLine (s : ComponentState) : Envelope :=
  .new stamp .lifecycle .stateUpdate (source cfg) (Payload.insert [] "state" (.str s.display))

def ackLine (id : String) : Envelope :=
  (Envelope.new stamp .control .ack (source cfg)
    (Payload.insert [] "status" (.str "ok"))).withCorrelation id

def pongLine (s : ComponentState) (secs : Nat) (id : String) : Envelope :=
  (Envelope.new stamp .heartbeat .pong (source cfg)
    ((Payload.insert [] "state" (.str s.display)).insert
      "uptime_seconds" (.num (toString secs)))).withCorrelation id

def errorLine (code message : String) (recoverable : Bool) : Envelope :=
  .new stamp .error .runtimeError (source cfg)
    (((Payload.insert [] "code" (.str code)).insert "message" (.str message)).insert
      "recoverable" (.bool recoverable))

end Lines

def IsPing (env : Envelope) : Prop := env.msgType = .heartbeat ∧ env.command = .ping
def IsConfigure (env : Envelope) : Prop := env.msgType = .config ∧ env.command = .configure
def IsReborn (env : Envelope) : Prop := env.msgType = .lifecycle ∧ env.command = .reborn
def IsShutdown (env : Envelope) : Prop := env.msgType = .lifecycle ∧ env.command = .shutdown
def IsError (env : Envelope) : Prop := env.msgType = .error

instance (env : Envelope) : Decidable (IsPing env) := inferInstanceAs (Decidable (_ ∧ _))
instance (env : Envelope) : Decidable (IsConfigure env) := inferInstanceAs (Decidable (_ ∧ _))
instance (env : Envelope) : Decidable (IsReborn env) := inferInstanceAs (Decidable (_ ∧ _))
instance (env : Envelope) : Decidable (IsShutdown env) := inferInstanceAs (Decidable (_ ∧ _))
instance (env : Envelope) : Decidable (IsError env) := inferInstanceAs (Decidable (_ = _))

def Ignored (env : Envelope) : Prop :=
  ¬ IsPing env ∧ ¬ IsConfigure env ∧ ¬ IsReborn env ∧ ¬ IsShutdown env ∧ ¬ IsError env

inductive Verdict where
  | continue
  | stop
  | error (e : AegisError)

def writeError : AegisError := .io "write_all"

/-- One dispatched message: the events recorded, the state left and the verdict, for
the state `st` before it. A name ending in `Lost` is a write that failed. -/
inductive Reaction (cfg : Config) (token : Nat) (env : Envelope)
    (answer : Except AegisError Unit) (st : ComponentState) :
    List Event → ComponentState → Verdict → Prop
  | ignored : Ignored env → Reaction cfg token env answer st [] st .continue
  | pong (stamp : Stamp) (secs : Nat) : IsPing env →
      Reaction cfg token env answer st
        [.onPing, .write (pongLine cfg stamp st secs env.messageId)] st .continue
  | pongLost (stamp : Stamp) (secs : Nat) : IsPing env →
      Reaction cfg token env answer st
        [.onPing, .writeFailed (pongLine cfg stamp st secs env.messageId)] st (.error writeError)
  | refused (stamp : Stamp) (e : AegisError) : IsConfigure env → answer = .error e →
      Reaction cfg token env answer st
        [.onConfigure (configureSocket env) (configureTopics env),
          .write (errorLine cfg stamp "CONFIGURE_FAILED" e.display true)] st .continue
  | refusedLost (stamp : Stamp) (e : AegisError) : IsConfigure env → answer = .error e →
      Reaction cfg token env answer st
        [.onConfigure (configureSocket env) (configureTopics env),
          .writeFailed (errorLine cfg stamp "CONFIGURE_FAILED" e.display true)] st
        (.error writeError)
  | ackLost (a : Stamp) : IsConfigure env → answer = .ok () →
      Reaction cfg token env answer st
        [.onConfigure (configureSocket env) (configureTopics env),
          .writeFailed (ackLine cfg a env.messageId)] st (.error writeError)
  | configuredLost (a c : Stamp) : IsConfigure env → answer = .ok () →
      Reaction cfg token env answer st
        [.onConfigure (configureSocket env) (configureTopics env),
          .write (ackLine cfg a env.messageId), .writeFailed (stateLine cfg c .configured)] st
        (.error writeError)
  | runningLost (a c r : Stamp) : IsConfigure env → answer = .ok () →
      Reaction cfg token env answer st
        [.onConfigure (configureSocket env) (configureTopics env),
          .write (ackLine cfg a env.messageId), .write (stateLine cfg c .configured),
          .writeFailed (stateLine cfg r .running)] .configured (.error writeError)
  | running (a c r : Stamp) : IsConfigure env → answer = .ok () →
      Reaction cfg token env answer st
        [.onConfigure (configureSocket env) (configureTopics env),
          .write (ackLine cfg a env.messageId), .write (stateLine cfg c .configured),
          .write (stateLine cfg r .running), .onRunning token] .running .continue
  | reborn (stamp : Stamp) : IsReborn env →
      Reaction cfg token env answer st
        [.onReborn, .write (ackLine cfg stamp env.messageId)] st .continue
  | rebornLost (stamp : Stamp) : IsReborn env →
      Reaction cfg token env answer st
        [.onReborn, .writeFailed (ackLine cfg stamp env.messageId)] st (.error writeError)
  | shutdown (stamp : Stamp) : IsShutdown env →
      Reaction cfg token env answer st
        [.cancel token, .write (ackLine cfg stamp env.messageId), .onShutdown] .shutdown .stop
  | shutdownLost (stamp : Stamp) : IsShutdown env →
      Reaction cfg token env answer st
        [.cancel token, .writeFailed (ackLine cfg stamp env.messageId)] st (.error writeError)
  | recoverable (code message : String) : IsError env → errorRecoverable env = true →
      Reaction cfg token env answer st [.onError code message] st .continue
  | fatal (code message : String) : IsError env → errorRecoverable env = false →
      Reaction cfg token env answer st [.onError code message] st
        (.error (.connection "non-recoverable error"))

inductive Session (cfg : Config) (token : Nat) :
    ComponentState → List Event → ComponentState → Verdict → Prop
  | lost (st : ComponentState) (e : AegisError) :
      Session cfg token st [.await st] st (.error e)
  | last {st st' : ComponentState} {env : Envelope} {answer : Except AegisError Unit}
      {es : List Event} {v : Verdict} :
      Reaction cfg token env answer st es st' v → v ≠ .continue →
      Session cfg token st (.await st :: .dispatch env :: es) st' v
  | next {st st' st'' : ComponentState} {env : Envelope} {answer : Except AegisError Unit}
      {es rest : List Event} {v : Verdict} :
      Reaction cfg token env answer st es st' .continue →
      Session cfg token st' rest st'' v →
      Session cfg token st (.await st :: .dispatch env :: (es ++ rest)) st'' v

inductive Ending where
  | finished
  | failed (e : AegisError)
  | panicked (msg : String)

def Verdict.ending : Verdict → Ending
  | .continue => .finished
  | .stop => .finished
  | .error e => .failed e

/-- The course of `run_once`; a session uses the token numbered `token`. -/
inductive Attempt (cfg : Config) (token : Nat) (st : ComponentState) :
    List Event → ComponentState → Ending → Prop
  | refused : Attempt cfg token st [.connectFailed cfg.socketPath] st (.failed (.io "connect"))
  | registerLost (r : Stamp) (id : String) :
      Attempt cfg token st [.connect cfg.socketPath, .writeFailed (registerLine cfg r id)] st
        (.failed writeError)
  | unanswered (r : Stamp) (id : String) (e : AegisError) :
      Attempt cfg token st [.connect cfg.socketPath, .write (registerLine cfg r id)] st (.failed e)
  | panicked (r : Stamp) (id msg : String) :
      Attempt cfg token st [.connect cfg.socketPath, .write (registerLine cfg r id)] st
        (.panicked msg)
  | initializingLost (r i : Stamp) (id : String) :
      Attempt cfg token st
        [.connect cfg.socketPath, .write (registerLine cfg r id),
          .writeFailed (stateLine cfg i .initializing)] .registered (.failed writeError)
  | readyLost (r i d : Stamp) (id : String) :
      Attempt cfg token st
        [.connect cfg.socketPath, .write (registerLine cfg r id),
          .write (stateLine cfg i .initializing), .writeFailed (stateLine cfg d .ready)]
        .initializing (.failed writeError)
  | session (r i d : Stamp) (id : String) {es : List Event} {st' : ComponentState}
      {v : Verdict} : Session cfg token .ready es st' v →
      Attempt cfg token st
        ([.connect cfg.socketPath, .write (registerLine cfg r id),
          .write (stateLine cfg i .initializing), .write (stateLine cfg d .ready),
          .token token] ++ es) st' v.ending

def tokensIn (es : List Event) : Nat :=
  es.countP fun e => match e with
    | .token _ => true
    | _ => false

/-- The course of `run` from its next connection attempt on. -/
inductive History (cfg : Config) :
    Nat → ComponentState → List Event → ComponentState → Outcome → Prop
  | open (token : Nat) (st : ComponentState) : History cfg token st [] st .running
  | finished {token : Nat} {st st' : ComponentState} {es : List Event} :
      Attempt cfg token st es st' .finished →
      History cfg token st es st' (.returned (.ok ()))
  | gaveUp {token : Nat} {st st' : ComponentState} {es : List Event} {e : AegisError}
      (e' : AegisError) :
      Attempt cfg token st es st' (.failed e) →
      History cfg token st es st' (.returned (.error e'))
  | crashed {token : Nat} {st st' : ComponentState} {es : List Event} {msg : String} :
      Attempt cfg token st es st' (.panicked msg) →
      History cfg token st es st' (.panicked msg)
  | overflowed {token : Nat} {st st' : ComponentState} {es : List Event} {e : AegisError}
      (delay : Duration) (msg : String) :
      Attempt cfg token st es st' (.failed e) →
      History cfg token st (es ++ [.sleep delay]) st' (.panicked msg)
  | again {token : Nat} {st st' st'' : ComponentState} {es rest : List Event}
      {e : AegisError} {o : Outcome} (delay : Duration) :
      Attempt cfg token st es st' (.failed e) →
      History cfg (token + tokensIn es) st' rest st'' o →
      History cfg token st (es ++ .sleep delay :: rest) st'' o

/-- The connection attempts to come and the outcomes of the next writes on the current
connection. -/
structure Supply where
  links : List Link
  writes : List Bool

def Supply.step (s : Supply) : Event → Supply
  | .connect _ =>
    { links := s.links.tail, writes := (s.links.head?.map Link.writes).getD [] }
  | .connectFailed _ => { s with links := s.links.tail }
  | .write _ => { s with writes := s.writes.tail }
  | .writeFailed _ => { s with writes := s.writes.tail }
  | _ => s

def Supply.allows (s : Supply) : Event → Prop
  | .connect _ => s.links.head?.map Link.connected = some true
  | .connectFailed _ => s.links.head?.map Link.connected = some false
  | .write _ => s.writes.headD true = true
  | .writeFailed _ => s.writes.headD true = false
  | _ => True

/-- The environment as a monitor: an attempt and a write end as it has in store. -/
def supply : Monitor Supply Event where
  step := Supply.step
  allows := Supply.allows

/-- Neither the environment nor the count of tokens has a part in the event. -/
def Event.quiet : Event → Bool
  | .connect _ | .connectFailed _ | .write _ | .writeFailed _ | .token _ => false
  | _ => true

/-- From `w` to `w'` the events `es` are recorded and nothing else. -/
structure Leads (w w' : World) (es : List Event) : Prop where
  trace : w'.trace = w.trace ++ es
  tokens : w'.tokens = w.tokens + tokensIn es
  supplied : ∀ links, supply.Accepts ⟨links, w.writes⟩ es
  left : ∀ links, supply.after ⟨links, w.writes⟩ es = ⟨links, w'.writes⟩

theorem tokensIn_append (es es' : List Event) :
    tokensIn (es ++ es') = tokensIn es + tokensIn es' :=
  List.countP_append

theorem Leads.refl (w : World) : Leads w w [] :=
  ⟨by simp, by simp [tokensIn], fun _ => trivial, fun _ => rfl⟩

theorem Leads.trans {w w' w'' : World} {es es' : List Event}
    (h : Leads w w' es) (h' : Leads w' w'' es') : Leads w w'' (es ++ es') where
  trace := by rw [h'.trace, h.trace, List.append_assoc]
  tokens := by rw [h'.tokens, h.tokens, tokensIn_append, Nat.add_assoc]
  supplied links := by
    rw [supply.accepts_append, h.left]
    exact ⟨h.supplied links, h'.supplied links⟩
  left links := by rw [supply.after_append, h.left, h'.left]

theorem Leads.component (w : World) (c : Component) (n : Nat) :
    Leads w { w with component := c, created := n } [] :=
  ⟨by simp, by simp [tokensIn], fun _ => trivial, fun _ => rfl⟩

theorem emit_ok (e : Event) (w : World) (h : e.quiet = true) :
    ∃ w', emit e w = .ok () w' ∧ Leads w w' [e] ∧ w'.component = w.component := by
  refine ⟨_, rfl, ⟨rfl, ?_, fun links => ?_, fun links => ?_⟩, rfl⟩ <;>
    cases e <;> first | rfl | exact ⟨trivial, trivial⟩ | simp [Event.quiet] at h

theorem setState_ok (s : ComponentState) (w : World) :
    ∃ w', setState s w = .ok () w' ∧ Leads w w' [] ∧ w'.component.state = s :=
  ⟨_, rfl, Leads.component w _ _, rfl⟩

theorem newEnvelope_ok (rt : Runtime) (cfg : Config) (t : MessageType) (c : Command)
    (p : Payload) (w : World) :
    ∃ w', newEnvelope rt cfg t c p w = .ok (.new (rt.stamp w.created) t c (source cfg) p) w' ∧
      Leads w w' [] ∧ w'.component = w.component :=
  ⟨_, rfl, Leads.component w _ _, rfl⟩

theorem sendEnvelope_cases (env : Envelope) (w : World) :
    (∃ w', sendEnvelope env w = .ok () w' ∧ Leads w w' [.write env] ∧
      w'.component = w.component) ∨
    (∃ w', sendEnvelope env w = .error (.error writeError) w' ∧ Leads w w' [.writeFailed env] ∧
      w'.component = w.component) := by
  obtain ⟨component, writes, created, tokens, trace⟩ := w
  match writes with
  | [] => exact .inl ⟨_, rfl, ⟨rfl, rfl, fun _ => ⟨rfl, trivial⟩, fun _ => rfl⟩, rfl⟩
  | true :: rest => exact .inl ⟨_, rfl, ⟨rfl, rfl, fun _ => ⟨rfl, trivial⟩, fun _ => rfl⟩, rfl⟩
  | false :: rest => exact .inr ⟨_, rfl, ⟨rfl, rfl, fun _ => ⟨rfl, trivial⟩, fun _ => rfl⟩, rfl⟩

section Senders

variable (rt : Runtime) (cfg : Config)

theorem newLine_cases (t : MessageType) (c : Command) (p : Payload)
    (g : Envelope → Envelope) (w : World) :
    let line := g (.new (rt.stamp w.created) t c (source cfg) p)
    (∃ w', (newEnvelope rt cfg t c p >>= fun env => sendEnvelope (g env)) w = .ok () w' ∧
      Leads w w' [.write line] ∧ w'.component = w.component) ∨
    (∃ w', (newEnvelope rt cfg t c p >>= fun env => sendEnvelope (g env)) w =
        .error (.error writeError) w' ∧
      Leads w w' [.writeFailed line] ∧ w'.component = w.component) := by
  intro line
  obtain ⟨w₁, h₁, l₁, c₁⟩ := newEnvelope_ok rt cfg t c p w
  rw [bind_ok h₁]
  rcases sendEnvelope_cases line w₁ with ⟨w₂, h₂, l₂, c₂⟩ | ⟨w₂, h₂, l₂, c₂⟩
  · exact .inl ⟨w₂, h₂, l₁.trans l₂, c₂.trans c₁⟩
  · exact .inr ⟨w₂, h₂, l₁.trans l₂, c₂.trans c₁⟩

theorem sendAck_cases (id : String) (w : World) :
    ∃ stamp, (∃ w', sendAck rt cfg id w = .ok () w' ∧
        Leads w w' [.write (ackLine cfg stamp id)] ∧ w'.component = w.component) ∨
      (∃ w', sendAck rt cfg id w = .error (.error writeError) w' ∧
        Leads w w' [.writeFailed (ackLine cfg stamp id)] ∧ w'.component = w.component) :=
  ⟨_, newLine_cases rt cfg .control .ack _ (fun env => env.withCorrelation id) w⟩

theorem sendError_cases (code message : String) (recoverable : Bool) (w : World) :
    ∃ stamp, (∃ w', sendError rt cfg code message recoverable w = .ok () w' ∧
        Leads w w' [.write (errorLine cfg stamp code message recoverable)] ∧
        w'.component = w.component) ∨
      (∃ w', sendError rt cfg code message recoverable w = .error (.error writeError) w' ∧
        Leads w w' [.writeFailed (errorLine cfg stamp code message recoverable)] ∧
        w'.component = w.component) :=
  ⟨_, newLine_cases rt cfg .error .runtimeError _ id w⟩

theorem sendStateUpdate_cases (s : ComponentState) (w : World) :
    ∃ stamp, (∃ w', sendStateUpdate rt cfg s none w = .ok () w' ∧
        Leads w w' [.write (stateLine cfg stamp s)] ∧ w'.component.state = s) ∨
      (∃ w', sendStateUpdate rt cfg s none w = .error (.error writeError) w' ∧
        Leads w w' [.writeFailed (stateLine cfg stamp s)] ∧ w'.component = w.component) := by
  have split : sendStateUpdate rt cfg s none =
      (newEnvelope rt cfg .lifecycle .stateUpdate (Payload.insert [] "state" (.str s.display)) >>=
        fun env => sendEnvelope env) >>= fun _ => setState s := by
    rw [bind_assoc]
    rfl
  refine ⟨rt.stamp w.created, ?_⟩
  rw [split]
  rcases newLine_cases rt cfg .lifecycle .stateUpdate
      (Payload.insert [] "state" (.str s.display)) id w with ⟨w₁, h₁, l₁, _⟩ | ⟨w₁, h₁, l₁, c₁⟩
  · obtain ⟨w₂, h₂, l₂, c₂⟩ := setState_ok s w₁
    exact .inl ⟨w₂, (bind_ok h₁).trans h₂, l₁.trans l₂, c₂⟩
  · exact .inr ⟨w₁, bind_error h₁, l₁, c₁⟩

end Senders

section Handlers

variable (rt : Runtime) (cfg : Config) (env : Envelope)

theorem handleHeartbeat_cases (h : env.command = .ping) (w : World) :
    ∃ stamp secs,
      (∃ w', handleHeartbeat rt cfg env w = .ok () w' ∧ w'.component = w.component ∧
        Leads w w'
          [.onPing, .write (pongLine cfg stamp w.component.state secs env.messageId)]) ∨
      (∃ w', handleHeartbeat rt cfg env w = .error (.error writeError) w' ∧
        w'.component = w.component ∧
        Leads w w'
          [.onPing, .writeFailed (pongLine cfg stamp w.component.state secs env.messageId)]) := by
  obtain ⟨w₁, h₁, l₁, c₁⟩ := emit_ok .onPing w rfl
  have split : handleHeartbeat rt cfg env w =
      (newEnvelope rt cfg .heartbeat .pong
        ((Payload.insert [] "state" (.str w₁.component.state.display)).insert
          "uptime_seconds" (.num (toString (rt.elapsedSecs w₁.created)))) >>=
        fun pong => sendEnvelope (pong.withCorrelation env.messageId)) w₁ := by
    unfold handleHeartbeat
    rw [if_neg (by simp [h])]
    rw [bind_ok h₁]
    rfl
  refine ⟨rt.stamp w₁.created, rt.elapsedSecs w₁.created, ?_⟩
  rw [split, ← c₁]
  rcases newLine_cases rt cfg .heartbeat .pong
      ((Payload.insert [] "state" (.str w₁.component.state.display)).insert
        "uptime_seconds" (.num (toString (rt.elapsedSecs w₁.created))))
      (fun pong => pong.withCorrelation env.messageId) w₁ with
    ⟨w₂, h₂, l₂, c₂⟩ | ⟨w₂, h₂, l₂, c₂⟩
  · exact .inl ⟨w₂, h₂, c₂, l₁.trans l₂⟩
  · exact .inr ⟨w₂, h₂, c₂, l₁.trans l₂⟩

def Verdict.result : Verdict → World → EStateM.Result Fault World LifecycleOutcome
  | .continue, w => .ok .continue w
  | .stop, w => .ok .stop w
  | .error e, w => .error (.error e) w

/-- `w` answers the message in one of the ways of `Reaction`. -/
def Reacts (token : Nat) (answer : Except AegisError Unit) (w : World)
    (r : EStateM.Result Fault World LifecycleOutcome) : Prop :=
  ∃ es v w', r = v.result w' ∧ Leads w w' es ∧
    Reaction cfg token env answer w.component.state es w'.component.state v

theorem handleHeartbeat_reacts (token : Nat) (answer : Except AegisError Unit)
    (ht : env.msgType = .heartbeat) (w : World) :
    Reacts cfg env token answer w
      ((handleHeartbeat rt cfg env >>= fun _ => pure .continue) w) := by
  by_cases hc : env.command = .ping
  · obtain ⟨stamp, secs, ⟨w', h, c, l⟩ | ⟨w', h, c, l⟩⟩ := handleHeartbeat_cases rt cfg env hc w
    · exact ⟨_, .continue, w', bind_ok h, l, c ▸ .pong stamp secs ⟨ht, hc⟩⟩
    · exact ⟨_, .error writeError, w', bind_error h, l, c ▸ .pongLost stamp secs ⟨ht, hc⟩⟩
  · refine ⟨[], .continue, w, ?_, Leads.refl w, .ignored ?_⟩
    · simp only [handleHeartbeat, if_pos hc]
      rfl
    · simp [Ignored, IsPing, IsConfigure, IsReborn, IsShutdown, IsError, ht, hc]

theorem handleConfig_reacts (token : Nat) (answer : Except AegisError Unit)
    (ht : env.msgType = .config) (w : World) :
    Reacts cfg env token answer w
      ((handleConfig rt cfg env answer token >>= fun _ => pure .continue) w) := by
  by_cases hc : env.command = .configure
  · have hm : IsConfigure env := ⟨ht, hc⟩
    obtain ⟨w₁, h₁, l₁, c₁⟩ :=
      emit_ok (.onConfigure (configureSocket env) (configureTopics env)) w rfl
    unfold handleConfig
    rw [if_neg (by simp [hc])]
    simp only [bind_assoc]
    rw [bind_ok h₁]
    cases answer with
    | error e =>
      obtain ⟨stamp, ⟨w₂, h₂, l₂, c₂⟩ | ⟨w₂, h₂, l₂, c₂⟩⟩ :=
        sendError_cases rt cfg "CONFIGURE_FAILED" e.display true w₁
      · exact ⟨_, .continue, w₂, bind_ok h₂, l₁.trans l₂,
          (c₂.trans c₁) ▸ .refused stamp e hm rfl⟩
      · exact ⟨_, .error writeError, w₂, bind_error h₂, l₁.trans l₂,
          (c₂.trans c₁) ▸ .refusedLost stamp e hm rfl⟩
    | ok u =>
      simp only [bind_assoc]
      obtain ⟨a, ⟨w₂, h₂, l₂, c₂⟩ | ⟨w₂, h₂, l₂, c₂⟩⟩ := sendAck_cases rt cfg env.messageId w₁
      case inr =>
        exact ⟨_, .error writeError, w₂, bind_error h₂, l₁.trans l₂,
          (c₂.trans c₁) ▸ .ackLost a hm rfl⟩
      rw [bind_ok h₂]
      obtain ⟨c, ⟨w₃, h₃, l₃, c₃⟩ | ⟨w₃, h₃, l₃, c₃⟩⟩ :=
        sendStateUpdate_cases rt cfg .configured w₂
      case inr =>
        exact ⟨_, .error writeError, w₃, bind_error h₃, (l₁.trans l₂).trans l₃,
          (c₃.trans (c₂.trans c₁)) ▸ .configuredLost a c hm rfl⟩
      rw [bind_ok h₃]
      obtain ⟨r, ⟨w₄, h₄, l₄, c₄⟩ | ⟨w₄, h₄, l₄, c₄⟩⟩ :=
        sendStateUpdate_cases rt cfg .running w₃
      case inr =>
        refine ⟨_, .error writeError, w₄, bind_error h₄, ((l₁.trans l₂).trans l₃).trans l₄, ?_⟩
        rw [c₄, c₃]
        exact .runningLost a c r hm rfl
      rw [bind_ok h₄]
      obtain ⟨w₅, h₅, l₅, c₅⟩ := emit_ok (.onRunning token) w₄ rfl
      refine ⟨_, .continue, w₅, bind_ok h₅, (((l₁.trans l₂).trans l₃).trans l₄).trans l₅, ?_⟩
      rw [c₅, c₄]
      exact .running a c r hm rfl
  · refine ⟨[], .continue, w, ?_, Leads.refl w, .ignored ?_⟩
    · simp only [handleConfig, if_pos hc]
      rfl
    · simp [Ignored, IsPing, IsConfigure, IsReborn, IsShutdown, IsError, ht, hc]

theorem handleLifecycle_reacts (token : Nat) (answer : Except AegisError Unit)
    (ht : env.msgType = .lifecycle) (w : World) :
    Reacts cfg env token answer w (handleLifecycle rt cfg env token w) := by
  unfold handleLifecycle
  have idle : ∀ c : Command, c ≠ .reborn → c ≠ .shutdown → env.command = c →
      Reacts cfg env token answer w (.ok .continue w) := by
    intro c hr hs hc
    refine ⟨[], .continue, w, rfl, Leads.refl w, .ignored ?_⟩
    simp [Ignored, IsPing, IsConfigure, IsReborn, IsShutdown, IsError, ht, hc, hr, hs]
  cases hc : env.command with
  | reborn =>
    have hm : IsReborn env := ⟨ht, hc⟩
    obtain ⟨w₁, h₁, l₁, c₁⟩ := emit_ok .onReborn w rfl
    simp only
    rw [bind_ok h₁]
    obtain ⟨a, ⟨w₂, h₂, l₂, c₂⟩ | ⟨w₂, h₂, l₂, c₂⟩⟩ := sendAck_cases rt cfg env.messageId w₁
    · exact ⟨_, .continue, w₂, bind_ok h₂, l₁.trans l₂, (c₂.trans c₁) ▸ .reborn a hm⟩
    · exact ⟨_, .error writeError, w₂, bind_error h₂, l₁.trans l₂,
        (c₂.trans c₁) ▸ .rebornLost a hm⟩
  | shutdown =>
    have hm : IsShutdown env := ⟨ht, hc⟩
    obtain ⟨w₁, h₁, l₁, c₁⟩ := emit_ok (.cancel token) w rfl
    simp only
    rw [bind_ok h₁]
    obtain ⟨a, ⟨w₂, h₂, l₂, c₂⟩ | ⟨w₂, h₂, l₂, c₂⟩⟩ := sendAck_cases rt cfg env.messageId w₁
    · obtain ⟨w₃, h₃, l₃, c₃⟩ := emit_ok .onShutdown w₂ rfl
      obtain ⟨w₄, h₄, l₄, c₄⟩ := setState_ok .shutdown w₃
      refine ⟨_, .stop, w₄, ?_, ((l₁.trans l₂).trans l₃).trans l₄, ?_⟩
      · have hg : gracefulShutdown w₂ = .ok () w₄ := (bind_ok h₃).trans h₄
        rw [bind_ok h₂, bind_ok hg]
        rfl
      · rw [c₄]
        exact .shutdown a hm
    · exact ⟨_, .error writeError, w₂, bind_error h₂, l₁.trans l₂,
        (c₂.trans c₁) ▸ .shutdownLost a hm⟩
  | _ => exact idle _ (by simp) (by simp) hc

theorem handleErrorMsg_reacts (token : Nat) (answer : Except AegisError Unit)
    (ht : env.msgType = .error) (w : World) :
    Reacts cfg env token answer w
      ((handleErrorMsg env >>= fun fatal =>
        if fatal then fail (.connection "non-recoverable error") else pure .continue) w) := by
  obtain ⟨w₁, h₁, l₁, c₁⟩ := emit_ok
    (.onError (((env.payload.get "code").bind Json.asStr).getD "UNKNOWN")
      (((env.payload.get "message").bind Json.asStr).getD "")) w rfl
  have hb : handleErrorMsg env w = .ok (!errorRecoverable env) w₁ := by
    unfold handleErrorMsg
    rw [bind_ok h₁]
    rfl
  rw [bind_ok hb]
  cases hr : errorRecoverable env with
  | true =>
    exact ⟨_, .continue, w₁, rfl, l₁, c₁ ▸ .recoverable _ _ ht hr⟩
  | false =>
    exact ⟨_, .error (.connection "non-recoverable error"), w₁, rfl, l₁, c₁ ▸ .fatal _ _ ht hr⟩

theorem dispatch_reacts (token : Nat) (answer : Except AegisError Unit) (w : World) :
    Reacts cfg env token answer w (dispatch rt cfg env answer token w) := by
  unfold dispatch
  have idle : ∀ t : MessageType, t = .control ∨ t = .data → env.msgType = t →
      Reacts cfg env token answer w (.ok .continue w) := by
    intro t hd ht
    refine ⟨[], .continue, w, rfl, Leads.refl w, .ignored ?_⟩
    rcases hd with rfl | rfl <;>
      simp [Ignored, IsPing, IsConfigure, IsReborn, IsShutdown, IsError, ht]
  cases ht : env.msgType with
  | heartbeat => exact handleHeartbeat_reacts rt cfg env token answer ht w
  | config => exact handleConfig_reacts rt cfg env token answer ht w
  | lifecycle => exact handleLifecycle_reacts rt cfg env token answer ht w
  | error => exact handleErrorMsg_reacts cfg env token answer ht w
  | control => exact idle _ (.inl rfl) ht
  | data => exact idle _ (.inr rfl) ht

end Handlers

section Loops

variable (rt : Runtime) (cfg : Config)

theorem recvWithin_cases (event : ReadEvent) (w : World) :
    (∃ env, recvWithin rt event w = .ok env w) ∨
      (∃ e, recvWithin rt event w = .error (.error e) w) := by
  cases event with
  | silence => exact .inr ⟨_, rfl⟩
  | ioError msg => exact .inr ⟨_, rfl⟩
  | line bytes =>
    cases h : decodeLine rt bytes with
    | error e => exact .inr ⟨e, by simp only [recvWithin, h]; rfl⟩
    | ok env => exact .inl ⟨env, by simp only [recvWithin, h]; rfl⟩

theorem recvEnvelope_cases (reads : List Read) (w : World) :
    (∃ env rest, recvEnvelope rt reads w = .ok (env, rest) w) ∨
      (∃ e, recvEnvelope rt reads w = .error (.error e) w) := by
  induction reads with
  | nil => exact .inr ⟨_, rfl⟩
  | cons read rest ih =>
    unfold recvEnvelope
    cases read.event with
    | silence => exact ih
    | ioError msg => exact .inr ⟨_, rfl⟩
    | line bytes =>
      cases h : decodeLine rt bytes with
      | error e => exact .inr ⟨e, by simp only [h]; rfl⟩
      | ok env => exact .inl ⟨env, rest, by simp only [h]; rfl⟩

def Verdict.loopResult : Verdict → World → EStateM.Result Fault World Unit
  | .continue, w => .ok () w
  | .stop, w => .ok () w
  | .error e, w => .error (.error e) w

theorem awaitMessage_ok (w : World) :
    ∃ w', awaitMessage w = .ok () w' ∧ Leads w w' [.await w.component.state] ∧
      w'.component = w.component :=
  emit_ok (.await w.component.state) w rfl

theorem messageLoop_session (token : Nat) (reads : List Read) (w : World) :
    ∃ es v w', messageLoop rt cfg token reads w = v.loopResult w' ∧ Leads w w' es ∧
      Session cfg token w.component.state es w'.component.state v := by
  induction reads generalizing w with
  | nil =>
    obtain ⟨w₁, h₁, l₁, c₁⟩ := awaitMessage_ok w
    exact ⟨_, .error (.connection "connection closed"), w₁, bind_ok h₁, l₁, c₁ ▸ .lost _ _⟩
  | cons read rest ih =>
    obtain ⟨w₁, h₁, l₁, c₁⟩ := awaitMessage_ok w
    rw [messageLoop, bind_ok h₁]
    obtain ⟨env, h₂⟩ | ⟨e, h₂⟩ := recvWithin_cases rt read.event w₁
    case inr => exact ⟨_, .error e, w₁, bind_error h₂, l₁, c₁ ▸ .lost _ _⟩
    obtain ⟨w₃, h₃, l₃, c₃⟩ := emit_ok (.dispatch env) w₁ rfl
    rw [bind_ok h₂, bind_ok h₃]
    obtain ⟨es, v, w₄, h₄, l₄, reaction⟩ :=
      dispatch_reacts rt cfg env token read.onConfigure w₃
    rw [c₃.trans c₁] at reaction
    have leads := (l₁.trans l₃).trans l₄
    cases v with
    | «continue» =>
      obtain ⟨es', v', w₅, h₅, l₅, session⟩ := ih w₄
      refine ⟨_, v', w₅, ?_, leads.trans l₅, .next reaction session⟩
      rw [bind_ok h₄]
      exact h₅
    | stop =>
      refine ⟨_, .stop, w₄, ?_, leads, .last reaction nofun⟩
      rw [bind_ok h₄]
      rfl
    | error e => exact ⟨_, .error e, w₄, bind_error h₄, leads, .last reaction nofun⟩

def Fault.ending : Fault → Ending
  | .error e => .failed e
  | .panic msg => .panicked msg

theorem storeIdentity_cases (payload : Payload) (w : World) :
    (∃ w', storeIdentity payload w = .ok () w' ∧ Leads w w' [] ∧
      w'.component.state = .registered) ∨
    (∃ msg w', storeIdentity payload w = .error (.panic msg) w' ∧ Leads w w' [] ∧
      w'.component.state = w.component.state) := by
  unfold storeIdentity indexPayload
  cases payload.get "component_id" with
  | none => exact .inr ⟨_, w, rfl, Leads.refl w, rfl⟩
  | some c =>
    cases payload.get "session_id" with
    | none => exact .inr ⟨_, _, rfl, Leads.component w _ _, rfl⟩
    | some s => exact .inl ⟨_, rfl, Leads.component w _ _, rfl⟩

def answered (reply : Envelope × List Read) : Task (List Read) :=
  if reply.1.command ≠ .registered then
    fail (.registration ("unexpected response: " ++ reply.1.command.debug))
  else do
    storeIdentity reply.1.payload
    sendStateUpdate rt cfg .initializing none
    sendStateUpdate rt cfg .ready none
    return reply.2

theorem register_cases (token : Nat) (reads : List Read) (w : World) :
    (∃ f es w', register rt cfg reads w = .error f w' ∧ Leads w w' es ∧
      Attempt cfg token w.component.state (.connect cfg.socketPath :: es)
        w'.component.state f.ending) ∨
    (∃ rest r i d id w', register rt cfg reads w = .ok rest w' ∧
      Leads w w' [.write (registerLine cfg r id), .write (stateLine cfg i .initializing),
        .write (stateLine cfg d .ready)] ∧
      w'.component.state = .ready) := by
  let id := if w.component.componentId.isEmpty then rt.envComponentId
    else w.component.componentId
  have split : register rt cfg reads w =
      ((newEnvelope rt cfg .lifecycle .register (registerPayload cfg id) >>=
        fun env => sendEnvelope env) >>= fun _ =>
          recvEnvelope rt reads >>= answered rt cfg) w := by
    rw [bind_assoc]
    rfl
  rw [split]
  rcases newLine_cases rt cfg .lifecycle .register (registerPayload cfg id) (fun env => env) w with
    ⟨w₁, h₁, l₁, c₁⟩ | ⟨w₁, h₁, l₁, c₁⟩
  case inr =>
    exact .inl ⟨_, _, w₁, bind_error h₁, l₁, c₁ ▸ .registerLost (rt.stamp w.created) id⟩
  rw [bind_ok h₁]
  obtain ⟨resp, rest, h₂⟩ | ⟨e, h₂⟩ := recvEnvelope_cases rt reads w₁
  case inr =>
    exact .inl ⟨_, _, w₁, bind_error h₂, l₁, c₁ ▸ .unanswered (rt.stamp w.created) id e⟩
  rw [bind_ok h₂]
  by_cases hc : resp.command = .registered
  case neg =>
    rw [answered, if_pos (show resp.command ≠ .registered from hc)]
    exact .inl ⟨_, _, w₁, rfl, l₁, c₁ ▸ .unanswered (rt.stamp w.created) id _⟩
  rw [answered, if_neg (show ¬ resp.command ≠ .registered from not_not_intro hc)]
  rcases storeIdentity_cases resp.payload w₁ with ⟨w₂, h₃, l₂, c₂⟩ | ⟨msg, w₂, h₃, l₂, c₂⟩
  case inr =>
    refine .inl ⟨_, _, w₂, bind_error h₃, l₁.trans l₂, ?_⟩
    rw [c₂, c₁]
    exact .panicked (rt.stamp w.created) id msg
  rw [bind_ok h₃]
  obtain ⟨i, ⟨w₃, h₄, l₃, c₃⟩ | ⟨w₃, h₄, l₃, c₃⟩⟩ :=
    sendStateUpdate_cases rt cfg .initializing w₂
  case inr =>
    refine .inl ⟨_, _, w₃, bind_error h₄, (l₁.trans l₂).trans l₃, ?_⟩
    rw [c₃, c₂]
    exact .initializingLost (rt.stamp w.created) i id
  rw [bind_ok h₄]
  obtain ⟨d, ⟨w₄, h₅, l₄, c₄⟩ | ⟨w₄, h₅, l₄, c₄⟩⟩ := sendStateUpdate_cases rt cfg .ready w₃
  case inr =>
    refine .inl ⟨_, _, w₄, bind_error h₅, ((l₁.trans l₂).trans l₃).trans l₄, ?_⟩
    rw [c₄, c₃]
    exact .readyLost (rt.stamp w.created) i d id
  refine .inr ⟨rest, rt.stamp w.created, i, d, id, w₄, ?_, ((l₁.trans l₂).trans l₃).trans l₄, c₄⟩
  rw [bind_ok h₅]
  rfl

def World.connect (w : World) (link : Link) : World :=
  { w with writes := link.writes, trace := w.trace ++ [.connect cfg.socketPath] }

theorem runOnce_connected (link : Link) (w : World) (h : link.connected = true) :
    runOnce rt cfg link w = (register rt cfg link.reads >>= fun rest =>
      newToken >>= fun token => messageLoop rt cfg token rest) (w.connect cfg link) := by
  simp only [runOnce, h, if_true]
  rfl

/-- Every course of `run_once` is an `Attempt`, with what the environment has in store
for its link. -/
theorem runOnce_attempt (link : Link) (w : World) :
    ∃ es w', ((runOnce rt cfg link w = .ok () w' ∧
        Attempt cfg w.tokens w.component.state es w'.component.state .finished) ∨
      ∃ f, runOnce rt cfg link w = .error f w' ∧
        Attempt cfg w.tokens w.component.state es w'.component.state f.ending) ∧
      w'.trace = w.trace ++ es ∧ w'.tokens = w.tokens + tokensIn es ∧
      (∀ links, supply.Accepts ⟨link :: links, w.writes⟩ es) ∧
      ∀ links, supply.after ⟨link :: links, w.writes⟩ es = ⟨links, w'.writes⟩ := by
  cases hconn : link.connected with
  | false =>
    refine ⟨_, { w with trace := w.trace ++ [.connectFailed cfg.socketPath] },
      .inr ⟨.error (.io "connect"), ?_, .refused⟩, rfl, rfl, fun links => ?_, fun links => rfl⟩
    · simp only [runOnce, hconn]
      rfl
    · exact ⟨congrArg some hconn, trivial⟩
  | true =>
    rw [runOnce_connected rt cfg link w hconn]
    let w₀ := w.connect cfg link
    -- the events after the connect are those of the world it leaves
    have opened : ∀ {w' es}, Leads w₀ w' es →
        w'.trace = w.trace ++ .connect cfg.socketPath :: es ∧
        w'.tokens = w.tokens + tokensIn (.connect cfg.socketPath :: es) ∧
        (∀ links, supply.Accepts ⟨link :: links, w.writes⟩ (.connect cfg.socketPath :: es)) ∧
        ∀ links, supply.after ⟨link :: links, w.writes⟩ (.connect cfg.socketPath :: es) =
          ⟨links, w'.writes⟩ := by
      intro w' es l
      refine ⟨?_, ?_, fun links => ⟨congrArg some hconn, l.supplied links⟩, l.left⟩
      · rw [l.trace]
        simp [w₀, World.connect]
      · rw [l.tokens]
        simp [w₀, World.connect, tokensIn]
    rcases register_cases rt cfg w.tokens link.reads w₀ with
      ⟨f, es, w₁, h₁, l₁, attempt⟩ | ⟨rest, r, i, d, id, w₁, h₁, l₁, c₁⟩
    · exact ⟨_, w₁, .inr ⟨f, bind_error h₁, attempt⟩, opened l₁⟩
    · let w₂ : World := { w₁ with tokens := w₁.tokens + 1, trace := w₁.trace ++ [.token w₁.tokens] }
      have h₂ : newToken w₁ = .ok w₁.tokens w₂ := rfl
      have l₂ : Leads w₁ w₂ [.token w₁.tokens] :=
        ⟨rfl, rfl, fun _ => ⟨trivial, trivial⟩, fun _ => rfl⟩
      have ht : w₁.tokens = w.tokens := by
        rw [l₁.tokens]
        simp [w₀, World.connect, tokensIn]
      rw [bind_ok h₁, bind_ok h₂]
      obtain ⟨es, v, w₃, h₃, l₃, session⟩ := messageLoop_session rt cfg w₁.tokens rest w₂
      have leads := (l₁.trans l₂).trans l₃
      rw [show w₂.component.state = .ready from c₁, ht] at session
      rw [ht] at leads
      have attempt : Attempt cfg w.tokens w.component.state ([.connect cfg.socketPath,
          .write (registerLine cfg r id), .write (stateLine cfg i .initializing),
          .write (stateLine cfg d .ready), .token w.tokens] ++ es) w₃.component.state v.ending :=
        .session r i d id session
      refine ⟨[.connect cfg.socketPath, .write (registerLine cfg r id),
        .write (stateLine cfg i .initializing), .write (stateLine cfg d .ready),
        .token w.tokens] ++ es, w₃, ?_, opened leads⟩
      rw [h₃]
      cases v with
      | «continue» => exact .inl ⟨rfl, attempt⟩
      | stop => exact .inl ⟨rfl, attempt⟩
      | error e => exact .inr ⟨.error e, rfl, attempt⟩

/-- What `run` does after a `run_once` that failed with an error other than
`Registration`; `next` is the loop from its next connection attempt on. -/
def retry (attempts : UInt32) (delay : Duration) (next : UInt32 → Duration → World → Outcome × World)
    (w : World) : Outcome × World :=
  if !cfg.reconnect then (.returned (.error (.connection "reconnect disabled")), w)
  else if cfg.maxReconnectAttempts > 0 ∧ attempts + 1 ≥ cfg.maxReconnectAttempts then
    (.returned (.error (.connection
      ("max reconnect attempts (" ++ toString (attempts + 1) ++ ") reached"))), w)
  else
    match rt.mulF32Two delay with
    | none => (.panicked "mul_f32", { w with trace := w.trace ++ [.sleep delay] })
    | some doubled => next (attempts + 1) (min doubled cfg.maxReconnectDelay)
        { w with trace := w.trace ++ [.sleep delay] }

def AegisError.isRegistration : AegisError → Bool
  | .registration _ => true
  | _ => false

section Turn

variable (attempts : UInt32) (delay : Duration) (link : Link) (links : List Link) {w w' : World}

theorem runLoop_ok (h : runOnce rt cfg link w = .ok () w') :
    runLoop rt cfg attempts delay (link :: links) w = (.returned (.ok ()), w') := by
  rw [runLoop, h]

theorem runLoop_panic {msg : String} (h : runOnce rt cfg link w = .error (.panic msg) w') :
    runLoop rt cfg attempts delay (link :: links) w = (.panicked msg, w') := by
  rw [runLoop, h]

theorem runLoop_registration {msg : String}
    (h : runOnce rt cfg link w = .error (.error (.registration msg)) w') :
    runLoop rt cfg attempts delay (link :: links) w =
      (.returned (.error (.registration msg)), w') := by
  rw [runLoop, h]

theorem runLoop_retry {e : AegisError} (h : runOnce rt cfg link w = .error (.error e) w')
    (he : e.isRegistration = false) :
    runLoop rt cfg attempts delay (link :: links) w = retry rt cfg attempts delay
      (fun attempts delay w => runLoop rt cfg attempts delay links w) w' := by
  rw [runLoop, h]
  cases e with
  | registration msg => cases he
  | _ => rfl

end Turn

/-- Every course of `run` is a `History`, with what the environment has in store. -/
theorem runLoop_history (attempts : UInt32) (delay : Duration) (links : List Link) (w : World) :
    ∃ es, (runLoop rt cfg attempts delay links w).2.trace = w.trace ++ es ∧
      History cfg w.tokens w.component.state es
        (runLoop rt cfg attempts delay links w).2.component.state
        (runLoop rt cfg attempts delay links w).1 ∧
      supply.Accepts ⟨links, w.writes⟩ es := by
  induction links generalizing attempts delay w with
  | nil => exact ⟨[], by simp [runLoop], .open _ _, trivial⟩
  | cons link links ih =>
    obtain ⟨es, w₁, result, trace, tokens, supplied, left⟩ := runOnce_attempt rt cfg link w
    rcases result with ⟨h, attempt⟩ | ⟨f, h, attempt⟩
    · rw [runLoop_ok rt cfg attempts delay link links h]
      exact ⟨es, trace, .finished attempt, supplied links⟩
    cases f with
    | panic msg =>
      rw [runLoop_panic rt cfg attempts delay link links h]
      exact ⟨es, trace, .crashed attempt, supplied links⟩
    | error e =>
      cases he : e.isRegistration with
      | true =>
        cases e with
        | registration msg =>
          rw [runLoop_registration rt cfg attempts delay link links h]
          exact ⟨es, trace, .gaveUp _ attempt, supplied links⟩
        | _ => cases he
      | false =>
        rw [runLoop_retry rt cfg attempts delay link links h he]
        unfold retry
        split
        · exact ⟨es, trace, .gaveUp _ attempt, supplied links⟩
        split
        · exact ⟨es, trace, .gaveUp _ attempt, supplied links⟩
        cases rt.mulF32Two delay with
        | none =>
          exact ⟨_, by simp only [trace, List.append_assoc], .overflowed delay "mul_f32" attempt,
            (supply.accepts_append _ _ _).mpr ⟨supplied links, trivial, trivial⟩⟩
        | some doubled =>
          obtain ⟨rest, htrace, history, more⟩ := ih (attempts + 1)
            (min doubled cfg.maxReconnectDelay) { w₁ with trace := w₁.trace ++ [.sleep delay] }
          refine ⟨es ++ .sleep delay :: rest, ?_, .again delay attempt ?_, ?_⟩
          · simp only
            rw [htrace]
            simp [trace]
          · rw [← tokens]
            exact history
          · refine (supply.accepts_append _ _ _).mpr ⟨supplied links, trivial, ?_⟩
            rw [left]
            exact more

end Loops

end AegisSdk.Rust
