import AegisSdk.Protocol.Json

/-!
`protocol.ml` and `config.ml`: the variants with their wire names, the envelope with its
hand-written conversion from and to JSON, the configuration, the handlers and the exceptions
that `run` tells apart.
-/

set_option autoImplicit false
set_option relaxedAutoImplicit false

namespace AegisSdk.OCaml

open AegisSdk.Protocol

def protocolVersion : String := "0.1"

inductive MessageType where
  | control | lifecycle | config | error | heartbeat | data
  deriving DecidableEq, Repr

inductive Command where
  | register | registered | stateUpdate | shutdown | ack | nack | configure | configured
  | ping | pong | runtimeError | registrationFailed
  deriving DecidableEq, Repr

inductive ComponentState where
  | init | registered | initializing | ready | configured | running | waiting | error
  | finished | shutdown
  deriving DecidableEq, Repr

def stringOfMessageType : MessageType → String
  | .control => "CONTROL"
  | .lifecycle => "LIFECYCLE"
  | .config => "CONFIG"
  | .error => "ERROR"
  | .heartbeat => "HEARTBEAT"
  | .data => "DATA"

def stringOfCommand : Command → String
  | .register => "REGISTER"
  | .registered => "REGISTERED"
  | .stateUpdate => "STATE_UPDATE"
  | .shutdown => "SHUTDOWN"
  | .ack => "ACK"
  | .nack => "NACK"
  | .configure => "CONFIGURE"
  | .configured => "CONFIGURED"
  | .ping => "PING"
  | .pong => "PONG"
  | .runtimeError => "RUNTIME_ERROR"
  | .registrationFailed => "REGISTRATION_FAILED"

def stringOfState : ComponentState → String
  | .init => "INIT"
  | .registered => "REGISTERED"
  | .initializing => "INITIALIZING"
  | .ready => "READY"
  | .configured => "CONFIGURED"
  | .running => "RUNNING"
  | .waiting => "WAITING"
  | .error => "ERROR"
  | .finished => "FINISHED"
  | .shutdown => "SHUTDOWN"

inductive Exn where
  | registrationError (msg : String)
  /-- any other exception, by its text -/
  | other (text : String)
  deriving DecidableEq, Repr

def failwith {α : Type} (text : String) : Except Exn α :=
  .error (.other ("Failure: " ++ text))

def typeError {α : Type} (text : String) : Except Exn α :=
  .error (.other ("Type_error: " ++ text))

def commandOfString : String → Except Exn Command
  | "REGISTER" => .ok .register
  | "REGISTERED" => .ok .registered
  | "STATE_UPDATE" => .ok .stateUpdate
  | "SHUTDOWN" => .ok .shutdown
  | "ACK" => .ok .ack
  | "NACK" => .ok .nack
  | "CONFIGURE" => .ok .configure
  | "CONFIGURED" => .ok .configured
  | "PING" => .ok .ping
  | "PONG" => .ok .pong
  | "RUNTIME_ERROR" => .ok .runtimeError
  | "REGISTRATION_FAILED" => .ok .registrationFailed
  | s => failwith ("Unknown command: " ++ s)

def messageTypeOfString : String → Except Exn MessageType
  | "CONTROL" => .ok .control
  | "LIFECYCLE" => .ok .lifecycle
  | "CONFIG" => .ok .config
  | "ERROR" => .ok .error
  | "HEARTBEAT" => .ok .heartbeat
  | "DATA" => .ok .data
  | s => failwith ("Unknown message type: " ++ s)

@[simp] theorem messageTypeOfString_stringOf (t : MessageType) :
    messageTypeOfString (stringOfMessageType t) = .ok t := by
  cases t <;> rfl

@[simp] theorem commandOfString_stringOf (c : Command) :
    commandOfString (stringOfCommand c) = .ok c := by
  cases c <;> rfl

/-- The first value of a key, `null` if there is none. -/
def member (key : String) : Json → Except Exn Json
  | .obj members => .ok (((members.find? fun m => m.1 == key).map Prod.snd).getD .null)
  | _ => typeError ("Can't get member '" ++ key ++ "' of non-object type")

def toString : Json → Except Exn String
  | .str s => .ok s
  | _ => typeError "Expected string"

def toStringOption : Json → Except Exn (Option String)
  | .str s => .ok (some s)
  | .null => .ok none
  | _ => typeError "Expected string or null"

def toBoolOption : Json → Except Exn (Option Bool)
  | .bool b => .ok (some b)
  | .null => .ok none
  | _ => typeError "Expected bool or null"

def toList : Json → Except Exn (List Json)
  | .arr items => .ok items
  | _ => typeError "Expected array"

theorem toString_eq_ok {json : Json} {s : String} : toString json = .ok s ↔ json = .str s := by
  cases json <;> simp [toString, typeError]

def ofStringOption : Option String → Json
  | some s => .str s
  | none => .null

theorem toStringOption_eq_ok {json : Json} {s : Option String} :
    toStringOption json = .ok s ↔ json = ofStringOption s := by
  cases json <;> cases s <;> simp [toStringOption, ofStringOption, typeError]

theorem messageTypeOfString_eq_ok {s : String} {t : MessageType} :
    messageTypeOfString s = .ok t ↔ s = stringOfMessageType t := by
  constructor
  · intro h
    unfold messageTypeOfString at h
    split at h <;> cases h <;> rfl
  · rintro rfl
    exact messageTypeOfString_stringOf t

theorem commandOfString_eq_ok {s : String} {c : Command} :
    commandOfString s = .ok c ↔ s = stringOfCommand c := by
  constructor
  · intro h
    unfold commandOfString at h
    split at h <;> cases h <;> rfl
  · rintro rfl
    exact commandOfString_stringOf c

structure Envelope where
  protocolVersion : String
  messageId : String
  correlationId : Option String
  timestamp : String
  source : String
  target : String
  msgType : MessageType
  command : Command
  payload : Json

/-- The values `Uuidm.v4_gen` and `utc_now` give one new envelope. -/
structure Stamp where
  messageId : String
  timestamp : String

def makeEnvelope (stamp : Stamp) (msgType : MessageType) (command : Command) (source : String)
    (payload : Json) : Envelope where
  protocolVersion := OCaml.protocolVersion
  messageId := stamp.messageId
  correlationId := none
  timestamp := stamp.timestamp
  source := source
  target := "aegis"
  msgType := msgType
  command := command
  payload := payload

def withCorrelation (env : Envelope) (id : String) : Envelope :=
  { env with correlationId := some id }

def envelopeToJson (env : Envelope) : Json :=
  let corr := match env.correlationId with
    | some id => Json.str id
    | none => .null
  .obj [
    ("protocol_version", .str env.protocolVersion),
    ("message_id", .str env.messageId),
    ("correlation_id", corr),
    ("timestamp", .str env.timestamp),
    ("source", .str env.source),
    ("target", .str env.target),
    ("type", .str (stringOfMessageType env.msgType)),
    ("command", .str (stringOfCommand env.command)),
    ("payload", env.payload)]

def envelopeOfJson (json : Json) : Except Exn Envelope := do
  let protocolVersion ← toString (← member "protocol_version" json)
  let messageId ← toString (← member "message_id" json)
  let correlationId ← toStringOption (← member "correlation_id" json)
  let timestamp ← toString (← member "timestamp" json)
  let source ← toString (← member "source" json)
  let target ← toString (← member "target" json)
  let msgType ← messageTypeOfString (← toString (← member "type" json))
  let command ← commandOfString (← toString (← member "command" json))
  let payload ← member "payload" json
  return { protocolVersion, messageId, correlationId, timestamp, source, target, msgType,
           command, payload }

structure Config where
  socketPath : String
  sessionToken : String
  componentName : String
  version : String := "0.1.0"
  supportedSymbols : List String := []
  supportedTimeframes : List String := []
  requiresStreams : List String := []
  reconnect : Bool := true
  /-- 0 = unlimited -/
  maxReconnectAttempts : Int := 0

structure Handlers where
  onConfigure : Bool := false
  onRunning : Bool := false
  onPing : Bool := false
  onShutdown : Bool := false
  onError : Bool := false

end AegisSdk.OCaml
