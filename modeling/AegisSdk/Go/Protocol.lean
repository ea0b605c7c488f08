import AegisSdk.Protocol.Json

/-!
`protocol.go` and `config.go`: the wire names, which Go keeps as strings, the envelope,
the configuration, the handler set and the errors that `Run` classifies.
-/

set_option autoImplicit false
set_option relaxedAutoImplicit false

namespace AegisSdk.Go

open AegisSdk.Protocol

def protocolVersion : String := "0.1"

abbrev MessageType := String

namespace MessageType

def control : MessageType := "CONTROL"
def lifecycle : MessageType := "LIFECYCLE"
def config : MessageType := "CONFIG"
def error : MessageType := "ERROR"
def heartbeat : MessageType := "HEARTBEAT"
def data : MessageType := "DATA"

end MessageType

abbrev Command := String

namespace Command

def register : Command := "REGISTER"
def registered : Command := "REGISTERED"
def stateUpdate : Command := "STATE_UPDATE"
def shutdown : Command := "SHUTDOWN"
def ack : Command := "ACK"
def nack : Command := "NACK"
def configure : Command := "CONFIGURE"
def configured : Command := "CONFIGURED"
def ping : Command := "PING"
def pong : Command := "PONG"
def runtimeError : Command := "RUNTIME_ERROR"
def registrationFailed : Command := "REGISTRATION_FAILED"

end Command

abbrev ComponentState := String

namespace State

def init : ComponentState := "INIT"
def registered : ComponentState := "REGISTERED"
def initializing : ComponentState := "INITIALIZING"
def ready : ComponentState := "READY"
def configured : ComponentState := "CONFIGURED"
def running : ComponentState := "RUNNING"
def waiting : ComponentState := "WAITING"
def error : ComponentState := "ERROR"
def finished : ComponentState := "FINISHED"
def shutdown : ComponentState := "SHUTDOWN"

end State

structure Envelope where
  protocolVersion : String
  messageId : String
  correlationId : Option String
  timestamp : String
  source : String
  target : String
  type : MessageType
  command : Command
  payload : Payload

/-- The values `uuid.New` and `time.Now` give one new envelope. -/
structure Stamp where
  messageId : String
  timestamp : String

def newEnvelope (stamp : Stamp) (msgType : MessageType) (cmd : Command) (source : String)
    (payload : Payload) : Envelope where
  protocolVersion := Go.protocolVersion
  messageId := stamp.messageId
  correlationId := none
  timestamp := stamp.timestamp
  source := source
  target := "aegis"
  type := msgType
  command := cmd
  payload := payload

def Envelope.withCorrelation (e : Envelope) (id : String) : Envelope :=
  { e with correlationId := some id }

/-- Nanoseconds, an `int64` that wraps. -/
abbrev Duration := Int64

/-- A nil slice is `none`. -/
structure Config where
  socketPath : String
  sessionToken : String := ""
  componentID : String := ""
  componentName : String
  version : String := ""
  supportedSymbols : Option (List String) := none
  supportedTimeframes : Option (List String) := none
  requiresStreams : Option (List String) := none
  reconnect : Bool := false
  reconnectDelay : Duration := 0
  maxReconnectDelay : Duration := 0
  /-- 0 = unlimited -/
  maxReconnectAttempts : Int := 0

structure Handlers where
  onConfigure : Bool := true
  onRunning : Bool := true
  onPing : Bool := true
  onShutdown : Bool := true
  onError : Bool := true

/-- What `ctx.Err()` gives once the context is done. -/
inductive CtxErr where
  | canceled
  | deadlineExceeded
  deriving DecidableEq

inductive GoError where
  | ctx (err : CtxErr)
  /-- `*RegistrationError` -/
  | registration (msg : String)
  /-- any other error, by its text -/
  | other (text : String)
  /-- `fmt.Errorf("text: %w", err)`, where `err` may be nil -/
  | wrap (text : String) (err : Option GoError)

/-- `errors.Is(err, context.Canceled) || errors.Is(err, context.DeadlineExceeded)` -/
def GoError.isContext : GoError → Bool
  | .ctx _ => true
  | .wrap _ (some err) => err.isContext
  | _ => false

/-- `errors.As(err, &regErr)` -/
def GoError.isRegistration : GoError → Bool
  | .registration _ => true
  | .wrap _ (some err) => err.isRegistration
  | _ => false

def GoError.error : GoError → String
  | .ctx .canceled => "context canceled"
  | .ctx .deadlineExceeded => "context deadline exceeded"
  | .registration msg => "registration error: " ++ msg
  | .other text => text
  | .wrap text none => text ++ ": %!w(<nil>)"
  | .wrap text (some err) => text ++ ": " ++ err.error

end AegisSdk.Go
