import AegisSdk.Protocol.Json

/-!
`protocol.py` and the first part of `client.py`: the enumerations with their values, the
dictionaries that stand for messages, the exceptions and the configuration. A message that has
been received is whatever `json.loads` makes of a line.
-/

set_option autoImplicit false
set_option relaxedAutoImplicit false

namespace AegisSdk.Python

open AegisSdk.Protocol

def protocolVersion : String := "0.1.0"

inductive MessageType where
  | control | lifecycle | config | error | heartbeat | data
  deriving DecidableEq, Repr

inductive Command where
  | register | registered | stateUpdate | shutdown | ack | nack | configure | configured
  | ping | pong | runtimeError | registrationFailed
  deriving DecidableEq, Repr

inductive ComponentState where
  | init | registered | initializing | ready | configured | running | waiting | error
  | finished | shutdown
  deriving DecidableEq, Repr

def MessageType.value : MessageType → String
  | .control => "CONTROL"
  | .lifecycle => "LIFECYCLE"
  | .config => "CONFIG"
  | .error => "ERROR"
  | .heartbeat => "HEARTBEAT"
  | .data => "DATA"

def Command.value : Command → String
  | .register => "REGISTER"
  | .registered => "REGISTERED"
  | .stateUpdate => "STATE_UPDATE"
  | .shutdown => "SHUTDOWN"
  | .ack => "ACK"
  | .nack => "NACK"
  | .configure => "CONFIGURE"
  | .configured => "CONFIGURED"
  | .ping => "PING"
  | .pong => "PONG"
  | .runtimeError => "RUNTIME_ERROR"
  | .registrationFailed => "REGISTRATION_FAILED"

def ComponentState.value : ComponentState → String
  | .init => "INIT"
  | .registered => "REGISTERED"
  | .initializing => "INITIALIZING"
  | .ready => "READY"
  | .configured => "CONFIGURED"
  | .running => "RUNNING"
  | .waiting => "WAITING"
  | .error => "ERROR"
  | .finished => "FINISHED"
  | .shutdown => "SHUTDOWN"

/-- What a `RegistrationError` tells. -/
inductive Rejection where
  /-- `f"Server rejected registration: …"` with the reason, or the payload without one -/
  | server (reason : Json)
  /-- `f"Unexpected response to REGISTER: …"` -/
  | unexpected (response : Json)

inductive Exn where
  /-- `OSError` and its subclasses -/
  | osError
  | registrationError (cause : Rejection)
  /-- one that `json.loads` raises: the line is no text, no JSON, or nested too deeply -/
  | loads
  /-- the `ValueError` of `readline` for a line beyond the limit of the reader -/
  | overlong
  | keyError (key : String)
  /-- `get` of a value that is no dictionary -/
  | attributeError
  /-- a key of a value that is no dictionary -/
  | typeError

/-- `value.get(key, default)` -/
def dictGet (value : Json) (key : String) (default : Json) : Except Exn Json :=
  match value with
  | .obj members => .ok ((Payload.get members key).getD default)
  | _ => .error .attributeError

/-- `value[key]` -/
def dictItem (value : Json) (key : String) : Except Exn Json :=
  match value with
  | .obj members =>
    match Payload.get members key with
    | some v => .ok v
    | none => .error (.keyError key)
  | _ => .error .typeError

/-- `value == s` for a string `s` -/
def equals (value : Json) (s : String) : Bool := value.asStr == some s

/-- Whether a value counts as true; `zero` says which numbers are zero. -/
def truthy (zero : String → Bool) : Json → Bool
  | .null => false
  | .bool b => b
  | .num literal => !zero literal
  | .str s => !s.isEmpty
  | .arr items => !items.isEmpty
  | .obj members => !members.isEmpty

/-- The values `uuid.uuid4` and `time.strftime` give one new envelope. -/
structure Stamp where
  messageId : String
  timestamp : String

def newEnvelope (stamp : Stamp) (msgType : MessageType) (command : Command) (source : String)
    (payload correlationId : Json) : Json :=
  .obj [
    ("protocol_version", .str protocolVersion),
    ("message_id", .str stamp.messageId),
    ("correlation_id", correlationId),
    ("timestamp", .str stamp.timestamp),
    ("source", .str source),
    ("target", .str "aegis"),
    ("type", .str msgType.value),
    ("command", .str command.value),
    ("payload", payload)]

structure Config where
  socketPath : String
  sessionToken : String
  componentName : String
  componentId : String := ""
  version : String := "0.1.0"
  supportedSymbols : List String := []
  supportedTimeframes : List String := []
  requiresStreams : List String := []
  reconnect : Bool := true
  /-- 0 = unlimited -/
  maxReconnectAttempts : Int := 0

end AegisSdk.Python
