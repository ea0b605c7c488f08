import AegisSdk.OCaml.Workers
import AegisSdk.Codecs
import AegisSdk.Agreement
import AegisSdk.Rust.Erasure
import AegisSdk.Rust.Replies
import AegisSdk.Rust.Outcome
import AegisSdk.Rust.Identity
import AegisSdk.Rust.Turn
import AegisSdk.Rust.Timeouts
import AegisSdk.Rust.Registering
import AegisSdk.Go.Identity
import AegisSdk.Go.Cancellation
import AegisSdk.Go.Worker
import AegisSdk.Go.Running
import AegisSdk.Go.Handshake
import AegisSdk.Rust.Lifecycle
import AegisSdk.Rust.Workers
import AegisSdk.Go.Recv
import AegisSdk.Go.Stream
import AegisSdk.Go.Reconnect
import AegisSdk.Rust.Shutdown
import AegisSdk.Sockets
import AegisSdk.Cpp.Workers
import AegisSdk.Cpp.Ends
import AegisSdk.Cpp.Stop
import AegisSdk.Python.Malformed
import AegisSdk.Python.Shutdown
import AegisSdk.Go.Backoff
import AegisSdk.Go.StreamGuard
import AegisSdk.Rust.Unhandled
import AegisSdk.Rust.Budget
import AegisSdk.Cpp.Sends
import AegisSdk.Python.Senders
import AegisSdk.Go.Lifecycle
import AegisSdk.Python.Lifecycle
import AegisSdk.OCaml.Lifecycle
import AegisSdk.Cpp.Lifecycle
import AegisSdk.Interop
import AegisSdk.Cpp.Shutdown
import AegisSdk.OCaml.Shutdown
import AegisSdk.Encoders
import AegisSdk.Cpp.SendOrder
