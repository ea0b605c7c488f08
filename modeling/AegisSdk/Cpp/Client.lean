import AegisSdk.Cpp.Protocol
import AegisSdk.Library.Journal

/-!
`client.cpp`: the client with its connection loop, registration, message loop and handlers,
next to other threads that call `stop()` and the workers that run `on_running`. The steps of
the thread in `run` are numbered; which steps of `stop()` come before which of them is an input
of the model, as are the outcomes of the calls to the system. The process ignores SIGPIPE.
Every effect an observer could record is appended to the trace of the `World`.
-/

set_option autoImplicit false
set_option relaxedAutoImplicit false

namespace AegisSdk.Cpp

open AegisSdk.Protocol AegisSdk.Library

/-- What the libraries provide. Generated values are indexed by the number of envelopes
created so far. -/
structure Runtime where
  stamp : Nat → Stamp
  /-- the seconds since `started_at_` -/
  uptime : Nat → Int
  /-- `json::parse`, if the line is a JSON text -/
  parse : List UInt8 → Option Json

/-- What a `::write` of a line gives in a process that ignores SIGPIPE, which would otherwise end
it where the daemon has gone. -/
inductive WriteResult where
  | complete
  | short (count : Nat)
  /-- -1 -/
  | failed
  deriving DecidableEq

/-- One turn of the loop of `run`. A `::read` of one byte that gives 0 or -1 is none, and so is
every one after the listed ones; writes beyond the listed ones are complete. -/
structure Link where
  socket : Bool := true
  connect : Bool := true
  reads : List (Option UInt8) := []
  writes : List WriteResult := []

/-- The two steps of `stop()`. -/
inductive StopStep where
  /-- a call begins: `running_ = false` -/
  | clear
  /-- a call ends: `stop_source_.request_stop()` -/
  | request
  deriving DecidableEq

/-- When the `on_running` of a worker returns. -/
inductive Fate where
  /-- by itself, at the latest when it is waited for; `step` is the next of the thread in `run` -/
  | returns (step : Nat)
  /-- once its token is in the state that a stop is requested -/
  | whenTold
  | never
  deriving DecidableEq

structure Threads where
  /-- the steps of `stop()` before each step of the thread in `run` -/
  stops : Nat → List StopStep := fun _ => []
  /-- the worker with each stop state -/
  fate : Nat → Fate := fun _ => .whenTold

inductive Event where
  /-- `socket()` gives a new descriptor -/
  | socket (fd : Nat)
  | socketFailed
  | connect (fd : Nat) (link : Link)
  | connectFailed (fd : Nat)
  | close (fd : Nat)
  | write (env : Envelope) (result : WriteResult)
  /-- `state_` is stored -/
  | store (state : ComponentState)
  /-- what the read of the answer to REGISTER gives -/
  | reply (result : Except Exception Envelope)
  /-- `running_ = true` -/
  | setRunning
  /-- `running_` is read at the head of the message loop -/
  | head (running : Bool)
  /-- what a read of the message loop gives -/
  | recv (result : Except Exception Envelope)
  | dispatch (env : Envelope)
  | onPing
  | onConfigure (socket : String) (topics : List String)
  | onError (code message : String)
  | onShutdown
  /-- `stop_source_` is replaced -/
  | newSource (source : Nat)
  /-- a thread with its own stop state is started; it calls `on_running` with its token -/
  | spawn (worker : Nat)
  /-- the destructor of the `jthread` requests its stop and joins it -/
  | destroy (worker : Nat)
  /-- `stop_source_.request_stop()` in `graceful_shutdown` -/
  | requestStop (source : Nat)
  /-- `worker_thread_->join()` is reached -/
  | join (worker : Nat)
  /-- it returns, and `worker_thread_` is reset -/
  | joined (worker : Nat)
  /-- `run_once` is left, normally or by an exception -/
  | left
  /-- the exception is caught in `run` -/
  | lost (what : String)
  /-- the wait before the next attempt -/
  | sleep (attempts : Nat)
  /-- another thread in `stop()`: `running_ = false` -/
  | stopClears
  /-- another thread in `stop()`: `stop_source_.request_stop()` -/
  | stopRequests (source : Nat)

/-- Stop states are numbered; the first is the one that the constructor makes. -/
structure World where
  running : Bool := false
  /-- the state of `stop_source_` -/
  source : Nat := 0
  /-- the state of `worker_thread_` -/
  worker : Option Nat := none
  /-- the states in which a stop is requested -/
  requested : List Nat := []
  /-- states created so far -/
  states : Nat := 1
  componentId : String := ""
  sessionId : String := ""
  state : ComponentState := .init
  /-- how the next writes on the current connection end -/
  writes : List WriteResult := []
  /-- envelopes created so far -/
  created : Nat := 0
  /-- descriptors opened so far -/
  sockets : Nat := 0
  /-- calls of `stop()` that have begun and not ended -/
  calls : Nat := 0
  /-- steps of the thread in `run` so far -/
  steps : Nat := 0
  trace : List Event := []

inductive Fault where
  | exception (e : Exception)
  /-- a `join` that does not return -/
  | hang

abbrev Task := EStateM Fault World

def World.stop (w : World) : StopStep → World
  | .clear =>
    { w with running := false, calls := w.calls + 1, trace := w.trace ++ [.stopClears] }
  | .request =>
    if w.calls = 0 then w
    else
      { w with
        requested := w.requested ++ [w.source]
        calls := w.calls - 1
        trace := w.trace ++ [.stopRequests w.source] }

/-- The steps of other threads before the next one of the thread in `run`. -/
def World.interfere (w : World) (th : Threads) : World := (th.stops w.steps).foldl World.stop w

def World.record (w : World) (e : Event) : World :=
  { w with steps := w.steps + 1, trace := w.trace ++ [e] }

/-- A step of the thread in `run`. -/
def World.act (w : World) (th : Threads) (e : Event) : World := (w.interfere th).record e

def raise {α : Type} (e : Exception) : Task α := throw (.exception e)

def ofExcept {α : Type} : Except Exception α → Task α
  | .ok a => pure a
  | .error e => raise e

section Client

variable (rt : Runtime) (cfg : Config) (th : Threads)

def emit (e : Event) : Task Unit := modify fun w => w.act th e

/-- A join whose thread does not return, while other threads go on. -/
def hang : Task Unit := do
  modify fun w => w.interfere th
  throw .hang

def waitFor (worker : Nat) : Task Unit := do
  match th.fate worker with
  | .returns _ => pure ()
  | .whenTold => if worker ∈ (← get).requested then pure () else hang th
  | .never => hang th

def source : String := "component:" ++ cfg.componentName

/-- `Envelope::make` with the next generated id and time. -/
def make (type : MessageType) (cmd : Command) (payload : Json) : Task Envelope := do
  let w ← get
  set { w with created := w.created + 1 }
  return Envelope.make (rt.stamp w.created) type cmd (source cfg) payload

/-- What the `::write` gives is not looked at. SIGPIPE is ignored. -/
def sendEnvelope (env : Envelope) : Task Unit := do
  let w ← get
  set { w with writes := w.writes.tail }
  emit th (.write env (w.writes.headD .complete))

/-- What successive calls of `recv_envelope` read, each up to a newline or a read that gives
nothing. -/
def received (line : List UInt8) : List (Option UInt8) → List (List UInt8)
  | [] => [line]
  | none :: rest => line :: received [] rest
  | some ch :: rest => if ch = 10 then line :: received [] rest else received (line ++ [ch]) rest

/-- What `recv_envelope` makes of what it has read. -/
def recvEnvelope (line : List UInt8) : Except Exception Envelope :=
  if line.isEmpty then .error (.runtimeError "connection closed")
  else match rt.parse line with
    | none => .error (.json 101)
    | some j => Envelope.fromJson j

def store (s : ComponentState) : Task Unit := do
  emit th (.store s)
  modify fun w => { w with state := s }

def sendStateUpdate (s : ComponentState) : Task Unit := do
  let env ← make rt cfg .lifecycle .stateUpdate (.obj [("state", .str s.toString)])
  sendEnvelope th env
  store th s

def sendAck (correlationId : String) : Task Unit := do
  let env ← make rt cfg .control .ack (.obj [("status", .str "ok")])
  sendEnvelope th (env.withCorrelation correlationId)

def registerPayload : Json :=
  .obj [
    ("session_token", .str cfg.sessionToken),
    ("component_name", .str cfg.componentName),
    ("version", .str cfg.version),
    ("capabilities", .obj [
      ("supported_symbols", .ofStrings cfg.supportedSymbols),
      ("supported_timeframes", .ofStrings cfg.supportedTimeframes),
      ("requires_streams", .ofStrings cfg.requiresStreams)])]

/-- `do_register` from the answer on. -/
def accept (resp : Envelope) : Task Unit := do
  if resp.command ≠ .registered then
    raise (.runtimeError ("REGISTRATION_FAILED: unexpected command " ++ resp.command.toString))
  else
    let id ← ofExcept (value Json.asStr resp.payload "component_id" "")
    modify fun w => { w with componentId := id }
    let id ← ofExcept (value Json.asStr resp.payload "session_id" "")
    modify fun w => { w with sessionId := id }
    store th .registered

def doRegister (lines : List (List UInt8)) : Task Unit := do
  let env ← make rt cfg .lifecycle .register (registerPayload cfg)
  sendEnvelope th env
  let resp := recvEnvelope rt (lines.headD [])
  emit th (.reply resp)
  accept th (← ofExcept resp)

def handleHeartbeat (env : Envelope) : Task Unit := do
  if env.command = .ping then
    emit th .onPing
    let w ← get
    let pong ← make rt cfg .heartbeat .pong (.obj [
      ("state", .str w.state.toString),
      ("uptime_seconds", .num (toString (rt.uptime w.created)))])
    sendEnvelope th (pong.withCorrelation env.messageId)

def topics (payload : Json) : Except Exception (List String) :=
  match contained payload "topics" with
  | some (.arr items) => items.mapM (getAs Json.asStr)
  | _ => .ok []

def configuration (env : Envelope) : Except Exception (String × List String) := do
  let sock ← value Json.asStr env.payload "data_stream_socket" ""
  let topics ← topics env.payload
  return (sock, topics)

/-- `stop_source_ = std::stop_source{}` -/
def renewSource : Task Unit := do
  let w ← get
  emit th (.newSource w.states)
  modify fun w => { w with source := w.states, states := w.states + 1 }

/-- The destructor of a `jthread` requests its stop and joins it. -/
def destroyWorker : Option Nat → Task Unit
  | none => pure ()
  | some worker => do
    emit th (.destroy worker)
    modify fun w => { w with requested := w.requested ++ [worker] }
    waitFor th worker

/-- `worker_thread_ = std::make_unique<std::jthread>(..)`: the new thread is started before the
old one is destroyed. -/
def startWorker : Task Unit := do
  let w ← get
  emit th (.spawn w.states)
  modify fun w => { w with worker := some w.states, states := w.states + 1 }
  destroyWorker th w.worker

def handleConfig (env : Envelope) : Task Unit := do
  if env.command = .configure then
    let (sock, topics) ← ofExcept (configuration env)
    emit th (.onConfigure sock topics)
    sendAck rt cfg th env.messageId
    sendStateUpdate rt cfg th .configured
    sendStateUpdate rt cfg th .running
    renewSource th
    startWorker th

/-- `stop_source_.request_stop()` -/
def requestStop : Task Unit := do
  let w ← get
  emit th (.requestStop w.source)
  modify fun w => { w with requested := w.requested ++ [w.source] }

/-- `if (worker_thread_)` and what follows it in `graceful_shutdown` -/
def joinWorker : Option Nat → Task Unit
  | none => pure ()
  | some worker => do
    requestStop th
    emit th (.join worker)
    waitFor th worker
    emit th (.joined worker)
    modify fun w => { w with worker := none }

def gracefulShutdown : Task Unit := do
  joinWorker th (← get).worker
  emit th .onShutdown
  let env ← make rt cfg .lifecycle .shutdown (.obj [])
  sendEnvelope th env
  store th .shutdown

def handleLifecycle (env : Envelope) : Task Bool := do
  if env.command = .shutdown then
    sendAck rt cfg th env.messageId
    gracefulShutdown rt cfg th
    return true
  else return false

def errorReport (env : Envelope) : Except Exception (String × String × Bool) := do
  let code ← value Json.asStr env.payload "code" "UNKNOWN"
  let message ← value Json.asStr env.payload "message" ""
  let recoverable ← value Json.asBool env.payload "recoverable" false
  return (code, message, recoverable)

def handleErrorMsg (env : Envelope) : Task Bool := do
  let (code, message, recoverable) ← ofExcept (errorReport env)
  emit th (.onError code message)
  return !recoverable

/-- The switch on `env.msg_type`; true leaves the loop without a further shutdown. -/
def dispatch (env : Envelope) : Task Bool := do
  match env.msgType with
  | .heartbeat =>
    handleHeartbeat rt cfg th env
    return false
  | .config =>
    handleConfig rt cfg th env
    return false
  | .lifecycle => handleLifecycle rt cfg th env
  | .error =>
    if ← handleErrorMsg th env then
      raise (.runtimeError "non-recoverable error from Aegis")
    else return false
  | _ => return false

/-- `running_` is read. -/
def loopHead : Task Bool := do
  modify fun w => w.interfere th
  let w ← get
  set (w.record (.head w.running))
  return w.running

/-- The lines that come after the answer to REGISTER; a read beyond them gives nothing. -/
def messageLoop : List (List UInt8) → Task Unit
  | [] => do
    if ← loopHead th then emit th (.recv (recvEnvelope rt []))
    gracefulShutdown rt cfg th
  | line :: rest => do
    if ← loopHead th then
      emit th (.recv (recvEnvelope rt line))
      match recvEnvelope rt line with
      | .error _ => gracefulShutdown rt cfg th
      | .ok env =>
        emit th (.dispatch env)
        if ← dispatch rt cfg th env then pure () else messageLoop rest
    else gracefulShutdown rt cfg th

def openSocket : Task Nat := do
  let w ← get
  emit th (.socket w.sockets)
  modify fun w => { w with sockets := w.sockets + 1 }
  return w.sockets

def setRunning : Task Unit := do
  emit th .setRunning
  modify fun w => { w with running := true }

def runOnce (link : Link) : Task Unit := do
  if link.socket then
    let fd ← openSocket th
    if link.connect then
      emit th (.connect fd link)
      modify fun w => { w with writes := link.writes }
      let lines := received [] link.reads
      doRegister rt cfg th lines
      setRunning th
      messageLoop rt cfg th lines.tail
      emit th (.close fd)
    else
      emit th (.connectFailed fd)
      emit th (.close fd)
      raise (.runtimeError "connect() failed")
  else
    emit th .socketFailed
    raise (.runtimeError "socket() failed")

/-- How `run` ends. -/
inductive Outcome where
  /-- `run_once` has returned -/
  | returned
  | rejected (what : String)
  | reconnectDisabled
  | attemptsExhausted
  /-- an exception of `nlohmann::json` is let through -/
  | escaped (id : Nat)
  /-- a `join` does not return -/
  | hung
  deriving DecidableEq

/-- `what.rfind("REGISTRATION_FAILED", 0) == 0` -/
def isRejection (what : String) : Bool := "REGISTRATION_FAILED".toList.isPrefixOf what.toList

/-- The loss of a connection is followed by another attempt, `attempts` being those before it
that failed. -/
def retries (attempts : Nat) : Bool :=
  cfg.reconnect && !decide (cfg.maxReconnectAttempts > 0 ∧
    ((attempts + 1 : Nat) : Int) ≥ cfg.maxReconnectAttempts)

/-- One turn of the loop of `run`, `attempts` being those before it that failed. -/
def turn (attempts : Nat) (link : Link) (w : World) : Option Outcome × World :=
  match runOnce rt cfg th link w with
  | .ok _ w => (some .returned, w.act th .left)
  | .error .hang w => (some .hung, w)
  | .error (.exception (.json id)) w => (some (.escaped id), w.act th .left)
  | .error (.exception (.runtimeError what)) w =>
    if isRejection what then (some (.rejected what), w.act th .left)
    else
      let w := (w.act th .left).act th (.lost what)
      if !cfg.reconnect then (some .reconnectDisabled, w)
      else
        let attempts := attempts + 1
        if cfg.maxReconnectAttempts > 0 ∧ (attempts : Int) ≥ cfg.maxReconnectAttempts then
          (some .attemptsExhausted, w)
        else (none, w.act th (.sleep attempts))

/-- `Client::run` on a new client, over the turns the environment has in store; no outcome
means that it goes on to the next turn. -/
def run (links : List Link) : Option Outcome × World :=
  Loop.run { turn := turn rt cfg th } 0 links {}

end Client

namespace Sample

def runtime : Runtime where
  stamp n := { messageId := toString n, timestamp := "" }
  uptime _ := 0
  parse := Daemon.parse [Daemon.registered, Daemon.configure, Daemon.shutdown]

def config : Config :=
  { socketPath := "aegis.sock", sessionToken := "t", componentName := "c", reconnect := false }

def link (messages : List Json) : Link where
  reads := messages.flatMap fun v => (Daemon.line v ++ [10]).map some

end Sample

end AegisSdk.Cpp
