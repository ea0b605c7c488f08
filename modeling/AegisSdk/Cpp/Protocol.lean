import AegisSdk.Protocol.Json

/-!
`protocol.hpp`, `protocol.cpp` and `component.hpp`: the enumerations with their wire names,
the envelope with its hand-written conversion from and to JSON, the configuration and the
exceptions that rise in it.
-/

set_option autoImplicit false
set_option relaxedAutoImplicit false

namespace AegisSdk.Cpp

open AegisSdk.Protocol

def protocolVersion : String := "0.1"

inductive MessageType where
  | control | lifecycle | config | error | heartbeat | data
  deriving DecidableEq, Repr

inductive Command where
  | register | registered | stateUpdate | shutdown | ack | nack | configure | configured
  | ping | pong | runtimeError | registrationFailed
  deriving DecidableEq, Repr

inductive ComponentState where
  | init | registered | initializing | ready | configured | running | waiting | error
  | finished | shutdown
  deriving DecidableEq, Repr

-- `to_string`
def MessageType.toString : MessageType → String
  | .control => "CONTROL"
  | .lifecycle => "LIFECYCLE"
  | .config => "CONFIG"
  | .error => "ERROR"
  | .heartbeat => "HEARTBEAT"
  | .data => "DATA"

def Command.toString : Command → String
  | .register => "REGISTER"
  | .registered => "REGISTERED"
  | .stateUpdate => "STATE_UPDATE"
  | .shutdown => "SHUTDOWN"
  | .ack => "ACK"
  | .nack => "NACK"
  | .configure => "CONFIGURE"
  | .configured => "CONFIGURED"
  | .ping => "PING"
  | .pong => "PONG"
  | .runtimeError => "RUNTIME_ERROR"
  | .registrationFailed => "REGISTRATION_FAILED"

def ComponentState.toString : ComponentState → String
  | .init => "INIT"
  | .registered => "REGISTERED"
  | .initializing => "INITIALIZING"
  | .ready => "READY"
  | .configured => "CONFIGURED"
  | .running => "RUNNING"
  | .waiting => "WAITING"
  | .error => "ERROR"
  | .finished => "FINISHED"
  | .shutdown => "SHUTDOWN"

inductive Exception where
  /-- `std::runtime_error` -/
  | runtimeError (what : String)
  /-- an exception of `nlohmann::json` with its id, which derives from `std::exception` alone -/
  | json (id : Nat)
  deriving DecidableEq, Repr

def msgTypeFromString (s : String) : Except Exception MessageType :=
  if s = "CONTROL" then .ok .control
  else if s = "LIFECYCLE" then .ok .lifecycle
  else if s = "CONFIG" then .ok .config
  else if s = "ERROR" then .ok .error
  else if s = "HEARTBEAT" then .ok .heartbeat
  else if s = "DATA" then .ok .data
  else .error (.runtimeError ("Unknown message type: " ++ s))

def commandFromString (s : String) : Except Exception Command :=
  if s = "REGISTER" then .ok .register
  else if s = "REGISTERED" then .ok .registered
  else if s = "STATE_UPDATE" then .ok .stateUpdate
  else if s = "SHUTDOWN" then .ok .shutdown
  else if s = "ACK" then .ok .ack
  else if s = "NACK" then .ok .nack
  else if s = "CONFIGURE" then .ok .configure
  else if s = "CONFIGURED" then .ok .configured
  else if s = "PING" then .ok .ping
  else if s = "PONG" then .ok .pong
  else if s = "RUNTIME_ERROR" then .ok .runtimeError
  else if s = "REGISTRATION_FAILED" then .ok .registrationFailed
  else .error (.runtimeError ("Unknown command: " ++ s))

@[simp] theorem msgTypeFromString_toString (t : MessageType) :
    msgTypeFromString t.toString = .ok t := by
  cases t <;> simp [msgTypeFromString, MessageType.toString]

@[simp] theorem commandFromString_toString (c : Command) :
    commandFromString c.toString = .ok c := by
  cases c <;> simp [commandFromString, Command.toString]

/-- `find` in an object, whose keys are unique. -/
def find (members : List (String × Json)) (key : String) : Option Json :=
  Payload.get members key

/-- `j.get<T>()`, `cast` being the conversion to `T`. -/
def getAs {α : Type} (cast : Json → Option α) (j : Json) : Except Exception α :=
  match cast j with
  | some a => .ok a
  | none => .error (.json 302)

/-- `j.value(key, default)` -/
def value {α : Type} (cast : Json → Option α) (j : Json) (key : String) (default : α) :
    Except Exception α :=
  match j with
  | .obj members =>
    match find members key with
    | some v => getAs cast v
    | none => .ok default
  | _ => .error (.json 306)

/-- `j[key]` where `j.contains(key)`. -/
def contained (j : Json) (key : String) : Option Json :=
  match j with
  | .obj members => find members key
  | _ => none

structure Envelope where
  protocolVersion : String
  messageId : String
  correlationId : Option String
  timestamp : String
  source : String
  target : String
  msgType : MessageType
  command : Command
  payload : Json

/-- The values `generate_uuid` and `utc_now` give one new envelope. -/
structure Stamp where
  messageId : String
  timestamp : String

def Envelope.make (stamp : Stamp) (type : MessageType) (cmd : Command) (src : String)
    (payload : Json) : Envelope where
  protocolVersion := Cpp.protocolVersion
  messageId := stamp.messageId
  correlationId := none
  timestamp := stamp.timestamp
  source := src
  target := "aegis"
  msgType := type
  command := cmd
  payload := payload

def Envelope.withCorrelation (e : Envelope) (id : String) : Envelope :=
  { e with correlationId := some id }

def Envelope.toJson (e : Envelope) : Json :=
  .obj [
    ("protocol_version", .str e.protocolVersion),
    ("message_id", .str e.messageId),
    ("correlation_id", match e.correlationId with
      | some id => .str id
      | none => .null),
    ("timestamp", .str e.timestamp),
    ("source", .str e.source),
    ("target", .str e.target),
    ("type", .str e.msgType.toString),
    ("command", .str e.command.toString),
    ("payload", e.payload)]

def correlationFromJson (j : Json) : Except Exception (Option String) :=
  match contained j "correlation_id" with
  | none => .ok none
  | some .null => .ok none
  | some v => (getAs Json.asStr v).map some

def Envelope.fromJson (j : Json) : Except Exception Envelope := do
  let protocolVersion ← value Json.asStr j "protocol_version" ""
  let messageId ← value Json.asStr j "message_id" ""
  let correlationId ← correlationFromJson j
  let timestamp ← value Json.asStr j "timestamp" ""
  let source ← value Json.asStr j "source" ""
  let target ← value Json.asStr j "target" ""
  let msgType ← msgTypeFromString (← value Json.asStr j "type" "")
  let command ← commandFromString (← value Json.asStr j "command" "")
  let payload ← value some j "payload" (.obj [])
  return { protocolVersion, messageId, correlationId, timestamp, source, target, msgType,
           command, payload }

structure Config where
  socketPath : String
  sessionToken : String
  componentName : String
  version : String := "0.1.0"
  supportedSymbols : List String := []
  supportedTimeframes : List String := []
  requiresStreams : List String := []
  reconnect : Bool := true
  /-- 0 = unlimited -/
  maxReconnectAttempts : Int := 0

end AegisSdk.Cpp
