import AegisSdk.Library.Journal
import AegisSdk.OCaml.Protocol

/-!
`client.ml`: the client with its connection loop, registration, message loop and handlers.
What happens outside the process is an input of the model: one `Link` for each turn of `run`
says how the socket and the connect come out, what `input_line` gives, which exception a
handler raises and how each write ends. Every effect an observer could record is appended to
the trace of the `World`.
-/

set_option autoImplicit false
set_option relaxedAutoImplicit false

namespace AegisSdk.OCaml

open AegisSdk.Protocol AegisSdk.Library

/-- What the libraries provide. Generated values are indexed by the number of envelopes
created so far. -/
structure Runtime where
  stamp : Nat → Stamp
  /-- `int_of_float (Unix.gettimeofday () -. t.started_at)` -/
  uptime : Nat → Int
  /-- `Yojson.Safe.from_string`, if the line is a JSON text -/
  fromString : List UInt8 → Option Json

/-- What one `input_line` gives. -/
inductive ReadEvent where
  | line (bytes : List UInt8)
  /-- `End_of_file` or `Sys_error` -/
  | failure (text : String)

/-- A read, with the exception that the handler raises to which the line leads, if any. -/
structure Read where
  event : ReadEvent
  raises : Option Exn := none

/-- One turn of `run`. When the reads are used up the stream has ended; writes beyond the
listed outcomes succeed. -/
structure Link where
  socket : Bool := true
  connect : Bool := true
  reads : List Read := []
  writes : List Bool := []

inductive Event where
  /-- `Unix.socket` gives a new descriptor -/
  | socket (fd : Nat)
  | socketFailed
  | connect (fd : Nat) (link : Link)
  | connectFailed (fd : Nat)
  | close (fd : Nat)
  /-- `run_once` is left, normally or by an exception -/
  | left
  /-- one `output_string` and `flush`, complete if `ok` -/
  | write (env : Envelope) (ok : Bool)
  /-- `t.state` is set -/
  | state (s : ComponentState)
  /-- `loop` waits for the next line -/
  | awaits
  | recv (env : Envelope)
  | recvFailed (exn : Exn)
  /-- the handler to which the message leads raises `raises` -/
  | dispatch (env : Envelope) (raises : Option Exn)
  | onConfigure (socket : String) (topics : List String)
  /-- `on_running` is called in a new thread with the reference `stop` -/
  | onRunning (stop : Nat)
  | onPing
  | onShutdown
  | onError (code message : String)
  /-- the reference is set to true -/
  | stop (ref : Nat)
  /-- `Unix.sleepf` before the next attempt -/
  | sleep (attempts : Nat)

/-- The mutable fields of a client. The references for `stop_flag` are numbered; the first one
is the one that `create` makes. -/
structure Client where
  componentId : String := ""
  sessionId : String := ""
  state : ComponentState := .init
  stopFlag : Nat := 0

structure World where
  client : Client := {}
  /-- how the next writes on the current connection end -/
  writes : List Bool := []
  /-- envelopes created so far -/
  created : Nat := 0
  /-- references created so far -/
  refs : Nat := 1
  /-- descriptors opened so far -/
  sockets : Nat := 0
  trace : List Event := []

abbrev Task := EStateM Exn World

def emit (e : Event) : Task Unit :=
  modify fun w => { w with trace := w.trace ++ [e] }

def raise {α : Type} (exn : Exn) : Task α := throw exn

def ofExcept {α : Type} : Except Exn α → Task α
  | .ok a => pure a
  | .error exn => raise exn

/-- `Option.iter` over a handler, which may raise an exception. -/
def call (isSet : Bool) (e : Event) (raises : Option Exn) : Task Unit :=
  if isSet then do
    emit e
    match raises with
    | some exn => raise exn
    | none => pure ()
  else pure ()

def setState (s : ComponentState) : Task Unit :=
  modify fun w => { w with client := { w.client with state := s }, trace := w.trace ++ [.state s] }

/-- `Fun.protect ~finally:(fun () -> emits e)` -/
def protect (e : Event) (x : Task Unit) : Task Unit := fun w =>
  match x w with
  | .ok _ w' => .ok () { w' with trace := w'.trace ++ [e] }
  | .error exn w' => .error exn { w' with trace := w'.trace ++ [e] }

variable (rt : Runtime) (cfg : Config) (handlers : Handlers)

def source : String := "component:" ++ cfg.componentName

/-- `make_envelope` with the next generated id and time. -/
def create (msgType : MessageType) (command : Command) (payload : Json) : Task Envelope := do
  let w ← get
  set { w with created := w.created + 1 }
  return makeEnvelope (rt.stamp w.created) msgType command (source cfg) payload

/-- The process ignores SIGPIPE: a write to a daemon that has gone raises an exception. -/
def sendLine (env : Envelope) : Task Unit := do
  let w ← get
  set { w with writes := w.writes.tail,
               trace := w.trace ++ [Event.write env (w.writes.headD true)] }
  if w.writes.headD true then pure () else raise (.other "Sys_error")

/-- What `recv_line` makes of a read. -/
def Read.decode (read : Read) : Except Exn Envelope :=
  match read.event with
  | .failure text => .error (.other text)
  | .line bytes =>
    match rt.fromString bytes with
    | none => .error (.other "Json_error")
    | some json => envelopeOfJson json

def recvLine : List Read → Task (Envelope × List Read)
  | [] => do
    emit (.recvFailed (.other "End_of_file"))
    raise (.other "End_of_file")
  | read :: rest =>
    match read.decode rt with
    | .error exn => do
      emit (.recvFailed exn)
      raise exn
    | .ok env => do
      emit (.recv env)
      return (env, rest)

def sendStateUpdate (newState : ComponentState) : Task Unit := do
  let env ← create rt cfg .lifecycle .stateUpdate (.obj [("state", .str (stringOfState newState))])
  sendLine env
  setState newState

def sendAck (correlationId : String) : Task Unit := do
  let env ← create rt cfg .control .ack (.obj [("status", .str "ok")])
  sendLine (withCorrelation env correlationId)

def registerPayload : Json :=
  .obj [
    ("session_token", .str cfg.sessionToken),
    ("component_name", .str cfg.componentName),
    ("version", .str cfg.version),
    ("capabilities", .obj [
      ("supported_symbols", .ofStrings cfg.supportedSymbols),
      ("supported_timeframes", .ofStrings cfg.supportedTimeframes),
      ("requires_streams", .ofStrings cfg.requiresStreams)])]

/-- The part of `do_register` that takes the ids from the REGISTERED payload. -/
def storeIdentity (payload : Json) : Task Unit := do
  let id ← ofExcept (do toString (← member "component_id" payload))
  modify fun w => { w with client := { w.client with componentId := id } }
  let id ← ofExcept (do toString (← member "session_id" payload))
  modify fun w => { w with client := { w.client with sessionId := id } }
  setState .registered

def doRegister (reads : List Read) : Task (List Read) := do
  let env ← create rt cfg .lifecycle .register (registerPayload cfg)
  sendLine env
  let (resp, rest) ← recvLine rt reads
  if resp.command ≠ .registered then
    raise (.registrationError ("unexpected response: " ++ stringOfCommand resp.command))
  else
    storeIdentity resp.payload
    return rest

def handleHeartbeat (env : Envelope) (raises : Option Exn) : Task Unit := do
  if env.command = .ping then
    call handlers.onPing .onPing raises
    let w ← get
    let pong ← create rt cfg .heartbeat .pong (.obj [
      ("state", .str (stringOfState w.client.state)),
      ("uptime_seconds", .num (ToString.toString (rt.uptime w.created)))])
    sendLine (withCorrelation pong env.messageId)

def configuration (env : Envelope) : Except Exn (String × List String) := do
  let sock ← toStringOption (← member "data_stream_socket" env.payload)
  let topics ← (← toList (← member "topics" env.payload)).mapM toString
  return (sock.getD "", topics)

/-- `ref false`, put into `t.stop_flag`. -/
def newStopFlag : Task Nat := do
  let w ← get
  set { w with refs := w.refs + 1, client := { w.client with stopFlag := w.refs } }
  return w.refs

def handleConfig (env : Envelope) (raises : Option Exn) : Task Unit := do
  if env.command = .configure then
    let (sock, topics) ← ofExcept (configuration env)
    call handlers.onConfigure (.onConfigure sock topics) raises
    sendAck rt cfg env.messageId
    sendStateUpdate rt cfg .configured
    sendStateUpdate rt cfg .running
    let stop ← newStopFlag
    call handlers.onRunning (.onRunning stop) none

def handleLifecycle (env : Envelope) : Task Bool :=
  match env.command with
  | .shutdown => do
    sendAck rt cfg env.messageId
    return true
  | .ack => return false
  | _ => return false

def errorReport (env : Envelope) : Except Exn (String × String × Bool) := do
  let code ← toStringOption (← member "code" env.payload)
  let message ← toStringOption (← member "message" env.payload)
  let recoverable ← toBoolOption (← member "recoverable" env.payload)
  return (code.getD "UNKNOWN", message.getD "", recoverable.getD false)

def handleErrorMsg (env : Envelope) (raises : Option Exn) : Task Bool := do
  let (code, message, recoverable) ← ofExcept (errorReport env)
  call handlers.onError (.onError code message) raises
  return !recoverable

def gracefulShutdown (raises : Option Exn) : Task Unit := do
  emit (.stop (← get).client.stopFlag)
  call handlers.onShutdown .onShutdown raises
  ignore do
    let env ← create rt cfg .lifecycle .shutdown (.obj [])
    sendLine env
  setState .shutdown

/-- The match on `env.msg_type`; true ends the loop. -/
def dispatch (env : Envelope) (raises : Option Exn) : Task Bool := do
  match env.msgType with
  | .heartbeat =>
    handleHeartbeat rt cfg handlers env raises
    return false
  | .config =>
    handleConfig rt cfg handlers env raises
    return false
  | .lifecycle => handleLifecycle rt cfg env
  | .error =>
    if ← handleErrorMsg handlers env raises then
      raise (.other "Failure: non-recoverable error from Aegis")
    else return false
  | _ => return false

/-- `recv_line` in `loop`. -/
def awaitLine (reads : List Read) : Task (Envelope × List Read) := do
  emit .awaits
  recvLine rt reads

/-- One read for each turn of `loop`; `gracefulShutdown` follows the last one. -/
def messageLoop : List Read → Task Unit
  | [] => do
    let _ ← awaitLine rt []
  | read :: rest => do
    let (env, _) ← awaitLine rt (read :: rest)
    emit (.dispatch env read.raises)
    if ← dispatch rt cfg handlers env read.raises then
      gracefulShutdown rt cfg handlers read.raises
    else messageLoop rest

def openSocket : Task Nat := do
  let w ← get
  set { w with sockets := w.sockets + 1, trace := w.trace ++ [Event.socket w.sockets] }
  return w.sockets

def runOnce (link : Link) : Task Unit := do
  if link.socket then
    let fd ← openSocket
    if link.connect then
      modify fun w => { w with writes := link.writes, trace := w.trace ++ [.connect fd link] }
      protect (.close fd) do
        let rest ← doRegister rt cfg link.reads
        messageLoop rt cfg handlers rest
    else
      emit (.connectFailed fd)
      raise (.other "Unix_error")
  else
    emit .socketFailed
    raise (.other "Unix_error")

/-- How `run` comes to return. -/
inductive Outcome where
  /-- `run_once` has returned -/
  | clean
  | rejected (msg : String)
  | reconnectDisabled
  | attemptsExhausted
  deriving DecidableEq

/-- One turn of the loop of `run`, `attempts` being those before it that failed. -/
def turn (attempts : Nat) (link : Link) (w : World) : Option Outcome × World :=
  match protect .left (runOnce rt cfg handlers link) w with
  | .ok _ w => (some .clean, w)
  | .error (.registrationError msg) w => (some (.rejected msg), w)
  | .error (.other _) w =>
    if !cfg.reconnect then (some .reconnectDisabled, w)
    else
      let attempts := attempts + 1
      if cfg.maxReconnectAttempts > 0 ∧ (attempts : Int) ≥ cfg.maxReconnectAttempts then
        (some .attemptsExhausted, w)
      else (none, { w with trace := w.trace ++ [.sleep attempts] })

/-- `Client.run` on a new client, over the turns the environment has in store; no outcome means
that it goes on to the next turn. -/
def run (links : List Link) : Option Outcome × World :=
  Loop.run { turn := turn rt cfg handlers } 0 links {}

end AegisSdk.OCaml
