import AegisSdk.Protocol.Json

/-!
`protocol.rs`, `config.rs` and `error.rs`: the enumerations with their wire names,
the envelope with the decoder serde derives for it, the configuration and the
errors of the Rust SDK.
-/

set_option autoImplicit false
set_option relaxedAutoImplicit false

namespace AegisSdk.Rust

open AegisSdk.Protocol

def protocolVersion : String := "0.1"

inductive MessageType where
  | control | lifecycle | config | error | heartbeat | data
  deriving DecidableEq, Repr

inductive Command where
  | register | registered | stateUpdate | shutdown | reborn | ack | nack
  | configure | configured | ping | pong | runtimeError | registrationFailed
  deriving DecidableEq, Repr

inductive ComponentState where
  | init | registered | initializing | ready | configured | running
  | waiting | error | finished | shutdown
  deriving DecidableEq, Repr

-- `#[serde(rename_all = "SCREAMING_SNAKE_CASE")]`
def MessageType.name : MessageType → String
  | .control => "CONTROL"
  | .lifecycle => "LIFECYCLE"
  | .config => "CONFIG"
  | .error => "ERROR"
  | .heartbeat => "HEARTBEAT"
  | .data => "DATA"

def MessageType.all : List MessageType :=
  [.control, .lifecycle, .config, .error, .heartbeat, .data]

def Command.name : Command → String
  | .register => "REGISTER"
  | .registered => "REGISTERED"
  | .stateUpdate => "STATE_UPDATE"
  | .shutdown => "SHUTDOWN"
  | .reborn => "REBORN"
  | .ack => "ACK"
  | .nack => "NACK"
  | .configure => "CONFIGURE"
  | .configured => "CONFIGURED"
  | .ping => "PING"
  | .pong => "PONG"
  | .runtimeError => "RUNTIME_ERROR"
  | .registrationFailed => "REGISTRATION_FAILED"

def Command.all : List Command :=
  [.register, .registered, .stateUpdate, .shutdown, .reborn, .ack, .nack,
    .configure, .configured, .ping, .pong, .runtimeError, .registrationFailed]

/-- `{:?}` of a command, the name of the variant. -/
def Command.debug : Command → String
  | .register => "Register"
  | .registered => "Registered"
  | .stateUpdate => "StateUpdate"
  | .shutdown => "Shutdown"
  | .reborn => "Reborn"
  | .ack => "Ack"
  | .nack => "Nack"
  | .configure => "Configure"
  | .configured => "Configured"
  | .ping => "Ping"
  | .pong => "Pong"
  | .runtimeError => "RuntimeError"
  | .registrationFailed => "RegistrationFailed"

/-- `impl Display for ComponentState`. -/
def ComponentState.display : ComponentState → String
  | .init => "INIT"
  | .registered => "REGISTERED"
  | .initializing => "INITIALIZING"
  | .ready => "READY"
  | .configured => "CONFIGURED"
  | .running => "RUNNING"
  | .waiting => "WAITING"
  | .error => "ERROR"
  | .finished => "FINISHED"
  | .shutdown => "SHUTDOWN"

def ComponentState.all : List ComponentState :=
  [.init, .registered, .initializing, .ready, .configured, .running,
    .waiting, .error, .finished, .shutdown]

def ComponentState.ofName (name : String) : Option ComponentState :=
  ComponentState.all.find? (fun s => s.display == name)

@[simp] theorem ComponentState.ofName_display (s : ComponentState) :
    ComponentState.ofName s.display = some s := by
  cases s <;> rfl

structure Envelope where
  protocolVersion : String
  messageId : String
  correlationId : Option String
  timestamp : String
  source : String
  target : String
  msgType : MessageType
  command : Command
  payload : Payload

/-- The values `Uuid::new_v4` and `Utc::now` give one new envelope. -/
structure Stamp where
  messageId : String
  timestamp : String

def Envelope.new (stamp : Stamp) (msgType : MessageType) (command : Command)
    (source : String) (payload : Payload) : Envelope where
  protocolVersion := Rust.protocolVersion
  messageId := stamp.messageId
  correlationId := none
  timestamp := stamp.timestamp
  source := source
  target := "aegis"
  msgType := msgType
  command := command
  payload := payload

def Envelope.withCorrelation (env : Envelope) (id : String) : Envelope :=
  { env with correlationId := some id }

/-! The derived `Deserialize`: serde_json reads a derived struct from an object, where an unknown key is skipped
and a repeated field is an error, or from an array of exactly its fields in order.
A unit variant is its name, or an object of one member from its name to `null`. -/

def field (members : List (String × Json)) (key : String) : Option Json :=
  match members.filter (fun m => m.1 == key) with
  | [m] => some m.2
  | _ => none

def optionalString : Json → Option (Option String)
  | .null => some none
  | .str s => some (some s)
  | _ => none

/-- An `Option<String>` field may be missing. -/
def optionalField (members : List (String × Json)) (key : String) : Option (Option String) :=
  match members.filter (fun m => m.1 == key) with
  | [] => some none
  | [m] => optionalString m.2
  | _ => none

def variantName : Json → Option String
  | .str s => some s
  | .obj [(s, .null)] => some s
  | _ => none

def MessageType.deserialize (value : Json) : Option MessageType := do
  let name ← variantName value
  MessageType.all.find? (fun t => t.name == name)

def Command.deserialize (value : Json) : Option Command := do
  let name ← variantName value
  Command.all.find? (fun c => c.name == name)

def payloadMap : Json → Option Payload
  | .obj members => some members
  | _ => none

def Envelope.deserialize : Json → Option Envelope
  | .obj members => do
    let protocolVersion ← (← field members "protocol_version").asStr
    let messageId ← (← field members "message_id").asStr
    let correlationId ← optionalField members "correlation_id"
    let timestamp ← (← field members "timestamp").asStr
    let source ← (← field members "source").asStr
    let target ← (← field members "target").asStr
    let msgType ← MessageType.deserialize (← field members "type")
    let command ← Command.deserialize (← field members "command")
    let payload ← payloadMap (← field members "payload")
    some { protocolVersion, messageId, correlationId, timestamp, source, target, msgType,
           command, payload }
  | .arr [v, id, corr, ts, src, tgt, typ, cmd, pl] => do
    let protocolVersion ← v.asStr
    let messageId ← id.asStr
    let correlationId ← optionalString corr
    let timestamp ← ts.asStr
    let source ← src.asStr
    let target ← tgt.asStr
    let msgType ← MessageType.deserialize typ
    let command ← Command.deserialize cmd
    let payload ← payloadMap pl
    some { protocolVersion, messageId, correlationId, timestamp, source, target, msgType,
           command, payload }
  | _ => none

/-- Nanoseconds of a `std::time::Duration`. -/
abbrev Duration := Nat

structure Config where
  socketPath : String
  sessionToken : String
  componentName : String
  version : String := "0.1.0"
  supportedSymbols : List String := []
  supportedTimeframes : List String := []
  requiresStreams : List String := []
  reconnect : Bool := true
  reconnectDelay : Duration := 3000000000
  maxReconnectDelay : Duration := 60000000000
  /-- 0 = unlimited -/
  maxReconnectAttempts : UInt32 := 0

/-- `AegisError`, the texts of `std::io::Error` and `serde_json::Error` being opaque. -/
inductive AegisError where
  | connection (msg : String)
  | registration (msg : String)
  | io (msg : String)
  | json (msg : String)
  | timeout
  deriving DecidableEq, Repr

/-- The `#[error(...)]` texts. -/
def AegisError.display : AegisError → String
  | .connection msg => "connection error: " ++ msg
  | .registration msg => "registration error: " ++ msg
  | .io msg => "I/O error: " ++ msg
  | .json msg => "JSON error: " ++ msg
  | .timeout => "read timeout"

end AegisSdk.Rust
