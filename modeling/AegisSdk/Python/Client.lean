import AegisSdk.Library.Journal
import AegisSdk.Python.Protocol

/-!
`client.py`: the component with its connection loop, registration, message loop and handlers.
What happens outside the process is an input of the model: one `Link` for each turn of `run`
says how the connect comes out, what `readline` gives and how each write ends. The hooks return
and leave the component alone; that they are called is recorded with every other effect in the
trace of the `World`.
-/

set_option autoImplicit false
set_option relaxedAutoImplicit false

namespace AegisSdk.Python

open AegisSdk.Protocol AegisSdk.Library

/-- What the libraries provide. Generated values are indexed by the number of envelopes
created so far. -/
structure Runtime where
  stamp : Nat → Stamp
  /-- `int(time.monotonic() - self._started_at)` -/
  uptime : Nat → Int
  /-- `json.loads`, unless it raises an exception -/
  loads : List UInt8 → Option Json
  /-- the number that `json.loads` makes of the literal is zero -/
  zero : String → Bool

/-- What one `readline` gives. -/
inductive ReadEvent where
  /-- not empty, and without a newline only at the end of the stream -/
  | line (bytes : List UInt8)
  /-- an empty line -/
  | eof
  /-- an `OSError` -/
  | failure
  /-- the line is longer than the reader allows -/
  | overlong

/-- A read, and whether it takes longer than `read_timeout`. -/
structure Read where
  event : ReadEvent
  late : Bool := false

/-- One turn of `run`. When the reads are used up the stream has ended; writes beyond the
listed outcomes succeed. -/
structure Link where
  connect : Bool := true
  reads : List Read := []
  writes : List Bool := []

inductive Stage where
  | register | ready | loop
  deriving DecidableEq

inductive Event where
  | connect (link : Link)
  | connectFailed
  | close
  /-- one `write` and `drain`, complete if `ok` -/
  | write (envelope : Json) (ok : Bool)
  /-- what `_recv` gives -/
  | recv (stage : Stage) (result : Except Exn Json)
  | timeout
  /-- the type and the command of the message are looked up -/
  | dispatch (envelope : Json)
  /-- `self.state` is assigned -/
  | state (s : ComponentState)
  | onConfigure (socketPath topics : Json)
  | onRunning
  | onPing
  | onShutdown
  | onError (code message : Json)
  /-- `asyncio.sleep` before the next attempt -/
  | sleep (attempts : Nat)

structure World where
  componentId : Option Json := none
  sessionId : Option Json := none
  state : ComponentState := .init
  running : Bool := false
  /-- `self._writer` is set -/
  writer : Bool := false
  /-- how the next writes on the current connection end -/
  writes : List Bool := []
  /-- envelopes created so far -/
  created : Nat := 0
  trace : List Event := []

abbrev Task := EStateM Exn World

def World.record (w : World) (e : Event) : World := { w with trace := w.trace ++ [e] }

def emit (e : Event) : Task Unit := modify fun w => w.record e

def raise {α : Type} (exn : Exn) : Task α := throw exn

def ofExcept {α : Type} : Except Exn α → Task α
  | .ok a => pure a
  | .error exn => raise exn

def setState (s : ComponentState) : Task Unit := do
  emit (.state s)
  modify fun w => { w with state := s }

section Client

variable (rt : Runtime) (cfg : Config)

def source : String := "component:" ++ cfg.componentName

/-- `new_envelope` with the next generated id and time. -/
def create (msgType : MessageType) (command : Command) (payload correlationId : Json) :
    Task Json := do
  let w ← get
  set { w with created := w.created + 1 }
  return newEnvelope (rt.stamp w.created) msgType command (source cfg) payload correlationId

def send (envelope : Json) : Task Unit := do
  let w ← get
  set ({ w with writes := w.writes.tail }.record (.write envelope (w.writes.headD true)))
  if w.writes.headD true then pure () else raise .osError

/-- What `_recv` makes of a read. -/
def recv (read : Read) : Except Exn Json :=
  match read.event with
  | .eof => .error .osError
  | .failure => .error .osError
  | .overlong => .error .overlong
  | .line bytes =>
    match rt.loads bytes with
    | some v => .ok v
    | none => .error .loads

/-- Outside of the message loop `_recv` is awaited as long as it takes. -/
def await (stage : Stage) (read : Read) : Task Json := do
  emit (.recv stage (recv rt read))
  ofExcept (recv rt read)

def sendStateUpdate (newState : ComponentState) : Task Unit := do
  let env ← create rt cfg .lifecycle .stateUpdate (.obj [("state", .str newState.value)]) .null
  send env
  setState newState

def sendAck (correlationId : Json) : Task Unit := do
  let ack ← create rt cfg .control .ack (.obj [("status", .str "ok")]) correlationId
  send ack

def registerPayload : Json :=
  let payload := [
    ("session_token", .str cfg.sessionToken),
    ("component_name", .str cfg.componentName),
    ("version", .str cfg.version),
    ("capabilities", .obj [
      ("supported_symbols", .ofStrings cfg.supportedSymbols),
      ("supported_timeframes", .ofStrings cfg.supportedTimeframes),
      ("requires_streams", .ofStrings cfg.requiresStreams)])]
  if cfg.componentId.isEmpty then .obj payload
  else .obj (payload ++ [("component_id", .str cfg.componentId)])

/-- The part of `_register` that takes the ids from the payload. -/
def storeIdentity (payload : Json) : Task Unit := do
  let id ← ofExcept (dictItem payload "component_id")
  modify fun w => { w with componentId := some id }
  let id ← ofExcept (dictItem payload "session_id")
  modify fun w => { w with sessionId := some id }
  setState .registered

/-- `_register` from the answer on. -/
def accept (response : Json) : Task Unit := do
  if equals (← ofExcept (dictGet response "type" .null)) MessageType.error.value then
    let payload ← ofExcept (dictGet response "payload" (.obj []))
    raise (.registrationError (.server (← ofExcept (dictGet payload "reason" payload))))
  else if !equals (← ofExcept (dictGet response "command" .null)) Command.registered.value then
    raise (.registrationError (.unexpected response))
  else
    storeIdentity (← ofExcept (dictItem response "payload"))

def register (read : Read) : Task Unit := do
  let envelope ← create rt cfg .lifecycle .register (registerPayload cfg) .null
  send envelope
  let response ← await rt .register read
  accept response

def signalReady (read : Read) : Task Unit := do
  sendStateUpdate rt cfg .initializing
  let ack ← await rt .ready read
  let _ ← ofExcept (dictGet ack "command" .null)
  sendStateUpdate rt cfg .ready

def handleHeartbeat (envelope : Json) : Task Unit := do
  if equals (← ofExcept (dictItem envelope "command")) Command.ping.value then
    emit .onPing
    let w ← get
    let correlationId ← ofExcept (dictItem envelope "message_id")
    let pong ← create rt cfg .heartbeat .pong (.obj [
      ("state", .str w.state.value),
      ("uptime_seconds", .num (toString (rt.uptime w.created)))]) correlationId
    send pong

/-- `self._running = False` -/
def stopRunning : Task Unit := modify fun w => { w with running := false }

def handleControl (envelope : Json) : Task Unit := do
  let command ← ofExcept (dictGet envelope "command" .null)
  if equals command Command.ack.value then pure ()
  else if equals command Command.nack.value then
    let payload ← ofExcept (dictGet envelope "payload" (.obj []))
    let _ ← ofExcept (dictGet payload "message" (.str "unknown"))
    stopRunning

def configuration (envelope : Json) : Except Exn (Json × Json × Json) := do
  let payload ← dictGet envelope "payload" (.obj [])
  let sockPath ← dictGet payload "data_stream_socket" (.str "")
  let topics ← dictGet payload "topics" (.arr [])
  let messageId ← dictItem envelope "message_id"
  return (sockPath, topics, messageId)

def handleConfig (envelope : Json) : Task Unit := do
  if equals (← ofExcept (dictItem envelope "command")) Command.configure.value then
    let (sockPath, topics, messageId) ← ofExcept (configuration envelope)
    sendAck rt cfg messageId
    sendStateUpdate rt cfg .configured
    emit (.onConfigure sockPath topics)
    sendStateUpdate rt cfg .running
    emit .onRunning

def handleLifecycle (envelope : Json) : Task Unit := do
  let command ← ofExcept (dictGet envelope "command" .null)
  if equals command Command.shutdown.value then
    sendAck rt cfg (← ofExcept (dictItem envelope "message_id"))
    stopRunning

def handleErrorMsg (envelope : Json) : Task Unit := do
  let payload ← ofExcept (dictGet envelope "payload" (.obj []))
  let code ← ofExcept (dictGet payload "code" (.str "UNKNOWN"))
  let message ← ofExcept (dictGet payload "message" (.str ""))
  emit (.onError code message)
  let recoverable ← ofExcept (dictGet payload "recoverable" (.bool false))
  if !truthy rt.zero recoverable then stopRunning

/-- The chain of comparisons in `_message_loop`. -/
def handle (msgType envelope : Json) : Task Unit :=
  if equals msgType MessageType.heartbeat.value then handleHeartbeat rt cfg envelope
  else if equals msgType MessageType.config.value then handleConfig rt cfg envelope
  else if equals msgType MessageType.lifecycle.value then handleLifecycle rt cfg envelope
  else if equals msgType MessageType.control.value then handleControl envelope
  else if equals msgType MessageType.error.value then handleErrorMsg rt envelope
  else pure ()

/-- An `OSError` of the last write is dropped. -/
def gracefulShutdown : Task Unit := do
  let envelope ← create rt cfg .lifecycle .shutdown (.obj []) .null
  ignore (send envelope)
  emit .onShutdown
  setState .shutdown

def process (envelope : Json) : Task Unit := do
  let msgType ← ofExcept (dictGet envelope "type" .null)
  let _ ← ofExcept (dictGet envelope "command" .null)
  emit (.dispatch envelope)
  handle rt cfg msgType envelope

/-- One read for each turn of the `while`; `gracefulShutdown` follows the last one. -/
def messageLoop : List Read → Task Unit
  | [] => do
    if (← get).running then emit (.recv .loop (.error .osError))
    gracefulShutdown rt cfg
  | read :: rest => do
    if (← get).running then
      if read.late then
        emit .timeout
        gracefulShutdown rt cfg
      else
        emit (.recv .loop (recv rt read))
        match recv rt read with
        | .error .osError => gracefulShutdown rt cfg
        | .error exn => raise exn
        | .ok envelope =>
          process rt cfg envelope
          messageLoop rest
    else gracefulShutdown rt cfg

/-- An `OSError` of `wait_closed` is dropped. -/
def closeConnection : Task Unit := do
  if (← get).writer then
    emit .close
    modify fun w => { w with writer := false }

def eof : Read := { event := .eof }

def session (reads : List Read) : Task Unit := do
  register rt cfg (reads.headD eof)
  signalReady rt cfg (reads.tail.headD eof)
  modify fun w => { w with running := true }
  messageLoop rt cfg reads.tail.tail

/-- The `try` in `run`. -/
def connection (link : Link) : Task Unit :=
  if link.connect then do
    emit (.connect link)
    modify fun w => { w with writer := true, writes := link.writes }
    session rt cfg link.reads
  else do
    emit .connectFailed
    raise .osError

/-- The `finally` in `run`. -/
def World.leave (w : World) : World := final ((do stopRunning; closeConnection : Task Unit) w)

/-- How `run` ends. -/
inductive Outcome where
  | registrationFailed (cause : Rejection)
  | reconnectDisabled
  | attemptsExhausted
  /-- an exception is let through -/
  | escaped (exn : Exn)

/-- One turn of the loop of `run`, `attempts` being those before it. -/
def turn (attempts : Nat) (link : Link) (w : World) : Option Outcome × World :=
  match connection rt cfg link w with
  | .error (.registrationError cause) w => (some (.registrationFailed cause), w.leave)
  | .error .osError w => again w.leave
  | .error exn w => (some (.escaped exn), w.leave)
  | .ok _ w => again w.leave
where
  again (w : World) : Option Outcome × World :=
    if !cfg.reconnect then (some .reconnectDisabled, w)
    else
      let attempts := attempts + 1
      if cfg.maxReconnectAttempts ≠ 0 ∧ (attempts : Int) ≥ cfg.maxReconnectAttempts then
        (some .attemptsExhausted, w)
      else (none, w.record (.sleep attempts))

/-- `AegisComponent.run` of a new component, over the turns the environment has in store; no
outcome means that it goes on to the next turn. -/
def run (links : List Link) : Option Outcome × World :=
  Loop.run { turn := turn rt cfg } 0 links {}

end Client

namespace Sample

def runtime : Runtime where
  stamp n := { messageId := toString n, timestamp := "" }
  uptime _ := 0
  loads bytes := Daemon.parse [Daemon.registered, Daemon.shutdown]
    (if bytes.getLast? = some 10 then bytes.dropLast else bytes)
  zero literal := literal == "0"

def config : Config :=
  { socketPath := "aegis.sock", sessionToken := "t", componentName := "c" }

def link (messages : List Json) : Link where
  reads := messages.map fun v => { event := .line (Daemon.line v ++ [10]) }

/-- The component is registered, its state update is answered, and it is shut down. -/
def session : Link := link [Daemon.registered, Daemon.registered, Daemon.shutdown]

end Sample

end AegisSdk.Python
