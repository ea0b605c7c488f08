import AegisSdk.Library.Lines
import AegisSdk.Rust.Component

/-!
The bytes of a connection. `run_once` and `DataStream::connect` put one `BufReader` over
their socket and read it line by line; the pieces in which the bytes arrive are an input.
-/

set_option autoImplicit false
set_option relaxedAutoImplicit false

namespace AegisSdk.Rust

open AegisSdk.Library

def newline : UInt8 := 10

instance bufReaderCapacity_pos : Fact (0 < 8192) := ⟨by decide⟩

/-- A `tokio::io::BufReader` of the default capacity over a socket. -/
abbrev BufReader := Buffered 8192 (Pieces UInt8) UInt8

/-- `BufReader::new`, where the reads of the socket give the pieces. -/
def newBufReader (pieces : List (List UInt8)) : BufReader := { src := ⟨pieces⟩ }

@[simp] theorem content_newBufReader (pieces : List (List UInt8)) :
    BlockReader.content (newBufReader pieces) = pieces.flatten := rfl

/-- What successive calls of `read_line` take from a connection. -/
def socketLines (pieces : List (List UInt8)) : List (List UInt8) :=
  (newBufReader pieces).takeLines newline (pieces.flatten.length + 1)

/-- The calls of `recv_envelope` on one connection meet its lines, `onConfigure` being the
result of `on_configure` for each of them. -/
def socketReads (onConfigure : Nat → Except AegisError Unit) (pieces : List (List UInt8)) :
    List Read :=
  (socketLines pieces).mapIdx fun k line => { event := .line line, onConfigure := onConfigure k }

/-- However the bytes are split into reads of the socket, `read_line` takes their lines. -/
theorem socketLines_eq (pieces : List (List UInt8)) :
    socketLines pieces = lines newline pieces.flatten := by
  have h : (newBufReader pieces).takeLines newline (pieces.flatten.length + 1) =
      lines newline pieces.flatten := Buffered.takeLines_eq (Nat.lt_succ_self _)
  exact h

end AegisSdk.Rust
