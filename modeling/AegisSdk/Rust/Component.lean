import AegisSdk.Rust.Protocol

/-!
`component.rs`: the component with its connection loop, registration, message loop
and handlers. What happens outside the process is an input of the model: one `Link`
for each connection attempt says whether the connect succeeds, what the reads give
and how each `write_all` ends. Every effect an observer could record is appended to
the trace of the `World`.
-/

set_option autoImplicit false
set_option relaxedAutoImplicit false

namespace AegisSdk.Rust

open AegisSdk.Protocol

/-- What the libraries and the process environment provide. Generated values are
indexed by the number of envelopes created so far. -/
structure Runtime where
  stamp : Nat → Stamp
  /-- `started_at.elapsed().as_secs()` -/
  elapsedSecs : Nat → Nat
  /-- `std::env::var("AEGIS_COMPONENT_ID").unwrap_or_default()` -/
  envComponentId : String
  /-- the JSON text of a line, if it is one -/
  parse : List UInt8 → Option Json
  /-- `Duration::mul_f32(2.0)`, which panics when the product does not fit -/
  mulF32Two : Duration → Option Duration

inductive ReadEvent where
  | line (bytes : List UInt8)
  | ioError (msg : String)
  /-- 35 seconds pass without a complete line -/
  | silence

/-- A read, with the result `on_configure` would give if the line leads to that call. -/
structure Read where
  event : ReadEvent
  onConfigure : Except AegisError Unit := .ok ()

/-- One connection attempt. When the reads are used up the peer has closed; writes
beyond the listed outcomes succeed. -/
structure Link where
  connected : Bool := true
  reads : List Read
  writes : List Bool := []

inductive Event where
  | connect (socketPath : String)
  | connectFailed (socketPath : String)
  /-- a line was written completely -/
  | write (env : Envelope)
  /-- `write_all` failed on this line, part of which may have been written -/
  | writeFailed (env : Envelope)
  /-- `CancellationToken::new()` in `message_loop` -/
  | token (id : Nat)
  | cancel (id : Nat)
  /-- `message_loop` waits for the next message while `self.state` is `state` -/
  | await (state : ComponentState)
  | dispatch (env : Envelope)
  | onConfigure (socketPath : String) (topics : List String)
  /-- `on_running` is spawned with a clone of the token -/
  | onRunning (token : Nat)
  | onReborn
  | onPing
  | onShutdown
  | onError (code message : String)
  | sleep (delay : Duration)

/-- The public fields of a `Component`. -/
structure Component where
  componentId : String := ""
  sessionId : String := ""
  state : ComponentState := .init

structure World where
  component : Component := {}
  /-- how the next writes on the current connection end -/
  writes : List Bool := []
  /-- envelopes created so far -/
  created : Nat := 0
  /-- tokens created so far -/
  tokens : Nat := 0
  trace : List Event := []

/-- A panic is not an `AegisError`: no `?` and no match arm of `run` catches it. -/
inductive Fault where
  | error (e : AegisError)
  | panic (msg : String)

abbrev Task := EStateM Fault World

inductive LifecycleOutcome where
  | continue
  | stop

def fail {α : Type} (e : AegisError) : Task α := throw (.error e)

def emit (e : Event) : Task Unit :=
  modify fun w => { w with trace := w.trace ++ [e] }

def setState (s : ComponentState) : Task Unit :=
  modify fun w => { w with component := { w.component with state := s } }

variable (rt : Runtime) (cfg : Config)

def source : String := "component:" ++ cfg.componentName

/-- `Envelope::new` with the next generated id and time. -/
def newEnvelope (msgType : MessageType) (command : Command) (payload : Payload) :
    Task Envelope := do
  let w ← get
  set { w with created := w.created + 1 }
  return .new (rt.stamp w.created) msgType command (source cfg) payload

/-- The line is serialized and handed to one `write_all`. -/
def sendEnvelope (env : Envelope) : Task Unit := do
  let w ← get
  match w.writes with
  | false :: rest => do
    set { w with writes := rest, trace := w.trace ++ [Event.writeFailed env] }
    fail (.io "write_all")
  | writes =>
    set { w with writes := writes.tail, trace := w.trace ++ [Event.write env] }

def sendStateUpdate (newState : ComponentState) (message : Option String) : Task Unit := do
  let payload := Payload.insert [] "state" (.str newState.display)
  let payload := match message with
    | some msg => payload.insert "message" (.str msg)
    | none => payload
  let env ← newEnvelope rt cfg .lifecycle .stateUpdate payload
  sendEnvelope env
  setState newState

def sendError (code message : String) (recoverable : Bool) : Task Unit := do
  let payload := ((Payload.insert [] "code" (.str code)).insert "message" (.str message)).insert
    "recoverable" (.bool recoverable)
  let env ← newEnvelope rt cfg .error .runtimeError payload
  sendEnvelope env

def sendAck (correlationId : String) : Task Unit := do
  let payload := Payload.insert [] "status" (.str "ok")
  let env ← newEnvelope rt cfg .control .ack payload
  sendEnvelope (env.withCorrelation correlationId)

/-- `serde_json::from_str`, after `read_line` has checked that the line is UTF-8. -/
def decodeLine (bytes : List UInt8) : Except AegisError Envelope :=
  match String.fromUTF8? ⟨bytes.toArray⟩ with
  | none => .error (.io "stream did not contain valid UTF-8")
  | some _ =>
    match (rt.parse bytes).bind Envelope.deserialize with
    | none => .error (.json "decode")
    | some env => .ok env

/-- `recv_envelope` has no time limit of its own: silences pass by. -/
def recvEnvelope : List Read → Task (Envelope × List Read)
  | [] => fail (.connection "connection closed")
  | read :: rest =>
    match read.event with
    | .silence => recvEnvelope rest
    | .ioError msg => fail (.io msg)
    | .line bytes =>
      match decodeLine rt bytes with
      | .error e => fail e
      | .ok env => return (env, rest)

/-- `recv_envelope` under the 35 s limit of `message_loop`. -/
def recvWithin : ReadEvent → Task Envelope
  | .silence => fail .timeout
  | .ioError msg => fail (.io msg)
  | .line bytes =>
    match decodeLine rt bytes with
    | .error e => fail e
    | .ok env => return env

/-- `payload[key]` of a `HashMap`, which panics on a missing key. -/
def indexPayload (payload : Payload) (key : String) : Task Json :=
  match payload.get key with
  | some value => return value
  | none => throw (.panic key)

def registerPayload (componentId : String) : Payload :=
  let payload := ((Payload.insert [] "session_token" (.str cfg.sessionToken)).insert
    "component_name" (.str cfg.componentName)).insert "version" (.str cfg.version)
  let payload := if componentId.isEmpty then payload
    else payload.insert "component_id" (.str componentId)
  payload.insert "capabilities" (.obj [
    ("supported_symbols", .ofStrings cfg.supportedSymbols),
    ("supported_timeframes", .ofStrings cfg.supportedTimeframes),
    ("requires_streams", .ofStrings cfg.requiresStreams)])

/-- The part of `register` that takes the ids from the REGISTERED payload. -/
def storeIdentity (payload : Payload) : Task Unit := do
  let id ← indexPayload payload "component_id"
  modify fun w =>
    { w with component := { w.component with componentId := id.asStr.getD "" } }
  let id ← indexPayload payload "session_id"
  modify fun w =>
    { w with component := { w.component with sessionId := id.asStr.getD "" } }
  setState .registered

def register (reads : List Read) : Task (List Read) := do
  -- the stored id is preferred, the environment is the fallback of the first connect
  let storedId := (← get).component.componentId
  let componentId := if storedId.isEmpty then rt.envComponentId else storedId
  let env ← newEnvelope rt cfg .lifecycle .register (registerPayload cfg componentId)
  sendEnvelope env
  let (resp, rest) ← recvEnvelope rt reads
  if resp.command ≠ .registered then
    fail (.registration ("unexpected response: " ++ resp.command.debug))
  else
    storeIdentity resp.payload
    sendStateUpdate rt cfg .initializing none
    sendStateUpdate rt cfg .ready none
    return rest

def handleHeartbeat (env : Envelope) : Task Unit := do
  if env.command ≠ .ping then return
  emit .onPing
  let w ← get
  let payload := (Payload.insert [] "state" (.str w.component.state.display)).insert
    "uptime_seconds" (.num (toString (rt.elapsedSecs w.created)))
  let pong ← newEnvelope rt cfg .heartbeat .pong payload
  sendEnvelope (pong.withCorrelation env.messageId)

def configureSocket (env : Envelope) : String :=
  ((env.payload.get "data_stream_socket").bind Json.asStr).getD ""

def configureTopics (env : Envelope) : List String :=
  (((env.payload.get "topics").bind Json.asArray).map Json.strings).getD []

def handleConfig (env : Envelope) (onConfigure : Except AegisError Unit)
    (shutdownToken : Nat) : Task Unit := do
  if env.command ≠ .configure then return
  emit (.onConfigure (configureSocket env) (configureTopics env))
  match onConfigure with
  | .error e => sendError rt cfg "CONFIGURE_FAILED" e.display true
  | .ok () => do
    sendAck rt cfg env.messageId
    sendStateUpdate rt cfg .configured none
    sendStateUpdate rt cfg .running none
    emit (.onRunning shutdownToken)

def gracefulShutdown : Task Unit := do
  emit .onShutdown
  setState .shutdown

def handleLifecycle (env : Envelope) (shutdownToken : Nat) : Task LifecycleOutcome :=
  match env.command with
  | .reborn => do
    emit .onReborn
    sendAck rt cfg env.messageId
    return .continue
  | .shutdown => do
    emit (.cancel shutdownToken)
    sendAck rt cfg env.messageId
    gracefulShutdown
    return .stop
  | .ack => return .continue
  | _ => return .continue

def errorRecoverable (env : Envelope) : Bool :=
  ((env.payload.get "recoverable").bind Json.asBool).getD false

def handleErrorMsg (env : Envelope) : Task Bool := do
  let code := ((env.payload.get "code").bind Json.asStr).getD "UNKNOWN"
  let message := ((env.payload.get "message").bind Json.asStr).getD ""
  emit (.onError code message)
  return !errorRecoverable env

/-- The `match env.msg_type` of `message_loop`. -/
def dispatch (env : Envelope) (onConfigure : Except AegisError Unit) (shutdownToken : Nat) :
    Task LifecycleOutcome :=
  match env.msgType with
  | .heartbeat => do
    handleHeartbeat rt cfg env
    return .continue
  | .config => do
    handleConfig rt cfg env onConfigure shutdownToken
    return .continue
  | .lifecycle => handleLifecycle rt cfg env shutdownToken
  | .error => do
    if ← handleErrorMsg env then fail (.connection "non-recoverable error")
    else return .continue
  | .control => return .continue
  | .data => return .continue

def awaitMessage : Task Unit := do
  emit (.await (← get).component.state)

/-- The loop of `message_loop`, one read for each iteration. -/
def messageLoop (shutdownToken : Nat) : List Read → Task Unit
  | [] => do
    awaitMessage
    fail (.connection "connection closed")
  | read :: rest => do
    awaitMessage
    let env ← recvWithin rt read.event
    emit (.dispatch env)
    match ← dispatch rt cfg env read.onConfigure shutdownToken with
    | .continue => messageLoop shutdownToken rest
    | .stop => return ()

def newToken : Task Nat := do
  let w ← get
  set { w with tokens := w.tokens + 1, trace := w.trace ++ [Event.token w.tokens] }
  return w.tokens

def runOnce (link : Link) : Task Unit := do
  if link.connected then
    modify fun w =>
      { w with writes := link.writes, trace := w.trace ++ [.connect cfg.socketPath] }
    let rest ← register rt cfg link.reads
    let shutdownToken ← newToken
    messageLoop rt cfg shutdownToken rest
  else
    emit (.connectFailed cfg.socketPath)
    fail (.io "connect")

inductive Outcome where
  | returned (result : Except AegisError Unit)
  | panicked (msg : String)
  /-- the listed connection attempts are over and `run` goes on to the next one -/
  | running
  deriving DecidableEq

/-- The loop of `run` over the connection attempts the environment has in store. -/
def runLoop (attempts : UInt32) (delay : Duration) : List Link → World → Outcome × World
  | [], w => (.running, w)
  | link :: links, w =>
    match runOnce rt cfg link w with
    | .ok () w => (.returned (.ok ()), w)
    | .error (.panic msg) w => (.panicked msg, w)
    | .error (.error (.registration msg)) w => (.returned (.error (.registration msg)), w)
    | .error (.error _) w =>
      if !cfg.reconnect then (.returned (.error (.connection "reconnect disabled")), w)
      else
        let attempts := attempts + 1
        if cfg.maxReconnectAttempts > 0 ∧ attempts ≥ cfg.maxReconnectAttempts then
          (.returned (.error (.connection
            ("max reconnect attempts (" ++ toString attempts ++ ") reached"))), w)
        else
          let w := { w with trace := w.trace ++ [.sleep delay] }
          match rt.mulF32Two delay with
          | none => (.panicked "mul_f32", w)
          | some doubled => runLoop attempts (min doubled cfg.maxReconnectDelay) links w

/-- `Component::run` on a new component. -/
def run (links : List Link) : Outcome × World :=
  runLoop rt cfg 0 cfg.reconnectDelay links {}

end AegisSdk.Rust
