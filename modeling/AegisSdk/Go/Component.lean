import AegisSdk.Go.Protocol
import AegisSdk.Library.Task

/-!
`client.go`: the component with its connection loop, handshake, message loop and
handlers, run by one goroutine. What happens outside is an input of the model: one
`Link` for each turn of `Run` says how the dial ends, what `recv` delivers, how each
write ends and where the context turns out to be done. Every effect an observer could
record is appended to the trace of the `World`.
-/

set_option autoImplicit false
set_option relaxedAutoImplicit false

namespace AegisSdk.Go

open AegisSdk.Protocol AegisSdk.Library

/-- What the libraries provide. Generated values are indexed by the number of envelopes
created so far. -/
structure Runtime where
  stamp : Nat → Stamp
  /-- `int64(time.Since(c.startedAt).Seconds())` -/
  uptime : Nat → Int
  /-- `fmt.Sprintf(verb, v)` of a number, an array or an object -/
  sprint : String → Json → String

/-- An envelope with the result `OnConfigure` gives if the envelope leads to that call. -/
structure Message where
  env : Envelope
  onConfigure : Option GoError := none

/-- What one `recv` gives. -/
inductive Delivery where
  | message (m : Message)
  /-- a read error, the end of the stream, the read deadline or a JSON error -/
  | failure (text : String)

/-- A `recv` to come, with the state of the context if `messageLoop` looks at it right
before. -/
structure Incoming where
  ctx : Option CtxErr := none
  delivery : Delivery

/-- One turn of `Run`. When the deliveries are used up the stream has ended; writes
beyond the listed outcomes succeed. -/
structure Link where
  /-- the context at the head of the loop of `Run` -/
  ctx : Option CtxErr := none
  dial : Bool := true
  inbox : List Incoming := []
  writes : List Bool := []
  /-- the context during the wait before the next turn -/
  wait : Option CtxErr := none

inductive Event where
  | dial (socketPath : String) (ok : Bool)
  | close
  /-- one `Encode` to the connection, complete if `ok` -/
  | send (env : Envelope) (ok : Bool)
  /-- the state is set -/
  | state (s : ComponentState)
  | recv (m : Message)
  | recvFailed (text : String)
  /-- `messageLoop` is at its head: the state and the context it finds -/
  | await (state : ComponentState) (ctx : Option CtxErr)
  | dispatch (env : Envelope)
  | onConfigure (socket : String) (topics : List String)
  /-- the goroutine of `OnRunning` is started -/
  | onRunning
  | onPing
  | onShutdown
  | onError (code message : String)
  /-- the backoff before the next turn -/
  | wait (delay : Duration)

/-- The public fields of a `Component`. -/
structure Component where
  componentID : String := ""
  sessionID : String := ""
  state : ComponentState := State.init

structure World where
  component : Component := {}
  /-- what the next calls of `recv` give -/
  inbox : List Incoming := []
  /-- how the next writes on the current connection end -/
  writes : List Bool := []
  /-- envelopes created so far -/
  created : Nat := 0
  trace : List Event := []

abbrev Task := EStateM GoError World

def emit (e : Event) : Task Unit :=
  modify fun w => { w with trace := w.trace ++ [e] }

def call (isSet : Bool) (e : Event) : Task Unit :=
  if isSet then emit e else pure ()

def storeState (s : ComponentState) : Task Unit :=
  modify fun w => { w with component := { w.component with state := s },
                           trace := w.trace ++ [.state s] }

/-- `fmt.Errorf("text: %w", err)` around the error of a task. -/
def errorf {α : Type} (text : String) (x : Task α) : Task α :=
  mapError (fun err => .wrap text (some err)) x

variable (rt : Runtime) (cfg : Config) (handlers : Handlers)

/-- `fmt.Sprintf("%v", m[key])` of a map entry that may be missing. -/
def sprintV : Option Json → String
  | none => "<nil>"
  | some .null => "<nil>"
  | some (.str s) => s
  | some (.bool b) => toString b
  | some v => rt.sprint "%v" v

/-- `fmt.Sprintf("%s", m[key])` -/
def sprintS : Option Json → String
  | none => "%!s(<nil>)"
  | some .null => "%!s(<nil>)"
  | some (.str s) => s
  | some (.bool b) => "%!s(bool=" ++ toString b ++ ")"
  | some v => rt.sprint "%s" v

def source (c : Component) : String :=
  if c.componentID ≠ "" then "component:" ++ c.componentID
  else "component:" ++ cfg.componentName

/-- `newEnvelope` with the next generated id and time and the present source. -/
def create (msgType : MessageType) (cmd : Command) (payload : Payload) : Task Envelope := do
  let w ← get
  set { w with created := w.created + 1 }
  return newEnvelope (rt.stamp w.created) msgType cmd (source cfg w.component) payload

def send (env : Envelope) : Task Unit := do
  let w ← get
  set { w with writes := w.writes.tail,
               trace := w.trace ++ [Event.send env (w.writes.headD true)] }
  if w.writes.headD true then return () else throw (.other "write")

def recv : Task Message := do
  let w ← get
  match w.inbox with
  | [] => do
    emit (.recvFailed "EOF")
    throw (.other "EOF")
  | incoming :: rest =>
    match incoming.delivery with
    | .failure text => do
      set { w with inbox := rest, trace := w.trace ++ [Event.recvFailed text] }
      throw (.other text)
    | .message m => do
      set { w with inbox := rest, trace := w.trace ++ [Event.recv m] }
      return m

def sendStateUpdate (state : ComponentState) (message : String) : Task Unit := do
  let payload := Payload.insert [] "state" (.str state)
  let payload := if message ≠ "" then payload.insert "message" (.str message) else payload
  let env ← create rt cfg MessageType.lifecycle Command.stateUpdate payload
  send env
  storeState state

def sendError (code message : String) (recoverable : Bool) : Task Unit := do
  let env ← create rt cfg MessageType.error Command.runtimeError
    (((Payload.insert [] "code" (.str code)).insert "message" (.str message)).insert
      "recoverable" (.bool recoverable))
  send env

def sendACK (correlationID : String) : Task Unit := do
  let ack ← create rt cfg MessageType.control Command.ack (Payload.insert [] "status" (.str "ok"))
  send (ack.withCorrelation correlationID)

/-- A `[]string` in a payload, nil as `null`. -/
def stringsJson : Option (List String) → Json
  | none => .null
  | some ss => .ofStrings ss

def registerPayload : Payload :=
  ((((Payload.insert [] "session_token" (.str cfg.sessionToken)).insert
    "component_name" (.str cfg.componentName)).insert
    "component_id" (.str cfg.componentID)).insert
    "version" (.str cfg.version)).insert
    "capabilities" (.obj [
      ("supported_symbols", stringsJson cfg.supportedSymbols),
      ("supported_timeframes", stringsJson cfg.supportedTimeframes),
      ("requires_streams", stringsJson cfg.requiresStreams)])

/-- The part of `register` that takes the ids from the REGISTERED payload. -/
def storeIdentity (payload : Payload) : Task Unit :=
  modify fun w => { w with
    component :=
      { componentID := sprintV rt (payload.get "component_id")
        sessionID := sprintV rt (payload.get "session_id")
        state := State.registered }
    trace := w.trace ++ [.state State.registered] }

def register : Task Unit := do
  let env ← create rt cfg MessageType.lifecycle Command.register (registerPayload cfg)
  errorf "send register" (send env)
  let resp ← errorf "recv registered" recv
  if resp.env.command ≠ Command.registered then
    throw (.registration ("unexpected response: " ++ resp.env.command))
  else
    storeIdentity rt resp.env.payload
    errorf "send STATE_UPDATE(INITIALIZING)" (sendStateUpdate rt cfg State.initializing "")
    -- the reply is taken for the ACK whatever it is
    let _ ← errorf "recv ACK(INITIALIZING)" recv
    errorf "send STATE_UPDATE(READY)" (sendStateUpdate rt cfg State.ready "")
    let _ ← errorf "recv ACK(READY)" recv

def handleHeartbeat (env : Envelope) : Task Unit := do
  if env.command ≠ Command.ping then return
  call handlers.onPing .onPing
  let w ← get
  let pong ← create rt cfg MessageType.heartbeat Command.pong
    ((Payload.insert [] "state" (.str w.component.state)).insert
      "uptime_seconds" (.num (toString (rt.uptime w.created))))
  ignore (send (pong.withCorrelation env.messageId))

def configureSocket (env : Envelope) : String :=
  ((env.payload.get "data_stream_socket").bind Json.asStr).getD ""

def configureTopics (env : Envelope) : List String :=
  (((env.payload.get "topics").bind Json.asArray).map Json.strings).getD []

/-- `STATE_UPDATE(state)` and the wait for its ACK. -/
def advance (state : ComponentState) : Task Unit := do
  sendStateUpdate rt cfg state ""
  let _ ← recv

def handleConfig (env : Envelope) (onConfigure : Option GoError) : Task Unit := do
  if env.command ≠ Command.configure then return
  call handlers.onConfigure (.onConfigure (configureSocket env) (configureTopics env))
  match if handlers.onConfigure then onConfigure else none with
  | some err => ignore (sendError rt cfg "CONFIGURE_FAILED" err.error true)
  | none => do
    ignore (sendACK rt cfg env.messageId)
    -- an error is logged and ends the function
    ignore (do
      advance rt cfg State.configured
      advance rt cfg State.running
      call handlers.onRunning .onRunning)

def gracefulShutdown : Task Unit := do
  call handlers.onShutdown .onShutdown
  let env ← create rt cfg MessageType.lifecycle Command.shutdown []
  ignore (send env)
  storeState State.shutdown

def handleLifecycle (env : Envelope) : Task Bool := do
  if env.command = Command.shutdown then
    ignore (sendACK rt cfg env.messageId)
    gracefulShutdown rt cfg handlers
    return true
  else
    return false

def errorRecoverable (env : Envelope) : Bool :=
  ((env.payload.get "recoverable").bind Json.asBool).getD false

def handleErrorMsg (env : Envelope) : Task Bool := do
  let code := ((env.payload.get "code").bind Json.asStr).getD ""
  let message := ((env.payload.get "message").bind Json.asStr).getD ""
  call handlers.onError (.onError code message)
  return !errorRecoverable env

/-- The `switch env.Type` of `messageLoop`; true ends the loop with a nil error. -/
def dispatch (m : Message) : Task Bool := do
  if m.env.type = MessageType.heartbeat then
    handleHeartbeat rt cfg handlers m.env
    return false
  else if m.env.type = MessageType.config then
    handleConfig rt cfg handlers m.env m.onConfigure
    return false
  else if m.env.type = MessageType.lifecycle then
    handleLifecycle rt cfg handlers m.env
  else if m.env.type = MessageType.error then
    if ← handleErrorMsg handlers m.env then
      throw (.other ("non-recoverable error from Aegis: " ++
        sprintS rt (m.env.payload.get "code")))
    else return false
  else return false

/-- The context that the next look of `messageLoop` finds. -/
def World.ctx (w : World) : Option CtxErr := w.inbox.head?.bind Incoming.ctx

/-- The loop of `messageLoop`. Each turn uses up a delivery or ends the loop, so that the
fuel, one more than the deliveries, is never used up. -/
def messageLoop : Nat → Task Unit
  | 0 => throw (.other "EOF")
  | fuel + 1 => do
    let w ← get
    emit (.await w.component.state w.ctx)
    match w.ctx with
    | some err => do
      gracefulShutdown rt cfg handlers
      throw (.ctx err)
    | none => do
      let m ← errorf "recv" recv
      emit (.dispatch m.env)
      if ← dispatch rt cfg handlers m then return () else messageLoop fuel

/-- `defer c.closeConn()` -/
def deferClose (x : Task Unit) : Task Unit := fun w =>
  match x w with
  | .ok _ w' => emit .close w'
  | .error err w' => .error err { w' with trace := w'.trace ++ [.close] }

def runOnce (link : Link) : Task Unit := do
  emit (.dial cfg.socketPath link.dial)
  if link.dial then
    modify fun w => { w with inbox := link.inbox, writes := link.writes }
    deferClose do
      register rt cfg
      messageLoop rt cfg handlers ((← get).inbox.length + 1)
  else throw (.wrap "connect" (some (.other "dial")))

inductive Outcome where
  | returned (err : Option GoError)
  /-- the listed turns are over and `Run` goes on to the next one -/
  | running

def minDuration (a b : Duration) : Duration := if a < b then a else b

/-- What `Run` returns after a turn that ended with `runErr`, if it returns. -/
def returnErr (attempts : Nat) (runErr : Option GoError) : Option (Option GoError) :=
  if (runErr.map GoError.isContext).getD false then some runErr
  else if (runErr.map GoError.isRegistration).getD false then some runErr
  else if !cfg.reconnect then some runErr
  else if cfg.maxReconnectAttempts > 0 ∧ ((attempts + 1 : Nat) : Int) ≥ cfg.maxReconnectAttempts
  then some (some (.wrap
    ("max reconnect attempts (" ++ toString (attempts + 1) ++ ") reached") runErr))
  else none

/-- The end of a turn: `Run` returns, or waits and goes on with `next`. -/
def endTurn (attempts : Nat) (delay : Duration) (link : Link) (runErr : Option GoError)
    (next : World → Outcome × World) (w : World) : Outcome × World :=
  match returnErr cfg attempts runErr with
  | some err => (.returned err, w)
  | none =>
    let w := { w with trace := w.trace ++ [Event.wait delay] }
    match link.wait with
    | some err => (.returned (some (.ctx err)), w)
    | none => next w

/-- The loop of `Run` over the turns the environment has in store. -/
def runLoop (attempts : Nat) (delay : Duration) : List Link → World → Outcome × World
  | [], w => (.running, w)
  | link :: links, w =>
    match link.ctx with
    | some err => (.returned (some (.ctx err)), w)
    | none =>
      let next := runLoop (attempts + 1) (minDuration (delay * 2) cfg.maxReconnectDelay) links
      match runOnce rt cfg handlers link w with
      | .ok _ w => endTurn cfg attempts delay link none next w
      | .error err w => endTurn cfg attempts delay link (some err) next w

/-- `Component.Run` on a new component. -/
def run (links : List Link) : Outcome × World :=
  runLoop rt cfg handlers 0 cfg.reconnectDelay links {}

end AegisSdk.Go
