import AegisSdk.Go.Decoder
import AegisSdk.Go.Handshake

/-!
`Component.recv` over the bytes of the connection. Each call makes a new decoder on the
one `c.reader`, and what the decoder has read beyond its envelope goes with it. So the
envelopes arrive exactly as long as no decoder is given bytes of the next envelope.
-/

set_option autoImplicit false
set_option relaxedAutoImplicit false

namespace AegisSdk.Go

open AegisSdk.Library

-- how the block of a decoder grows
variable (G : Growth)

section Recv

variable {α : Type} (unmarshal : List UInt8 → Except String α)

/-- `json.NewDecoder(c.reader).Decode(&env)` -/
def Reader.recv (r : Reader) : Except DecodeError α × Reader :=
  match decode G json r with
  | .value text _ r => (unmarshalText unmarshal (json.strip text), r)
  | .failed why r => (.error (.decoder why), r)

/-- What `n` calls of `recv` in succession give. -/
def Reader.recvs : Nat → Reader → List (Except DecodeError α)
  | 0, _ => []
  | n + 1, r => (r.recv G unmarshal).1 :: recvs n (r.recv G unmarshal).2

def ofText : Except Failure (List UInt8) → Except DecodeError α
  | .ok text => unmarshalText unmarshal text
  | .error why => .error (.decoder why)

theorem recv_eq (r : Reader) :
    r.recv G unmarshal =
      (ofText unmarshal (receive G json r).1, (receive G json r).2) := by
  rw [Reader.recv, receive]
  cases decode G json r with
  | value text surplus r => rfl
  | failed why r => rfl

theorem recvs_eq (n : Nat) (r : Reader) :
    Reader.recvs G unmarshal n r = (receives G json n r).map (ofText unmarshal) := by
  induction n generalizing r with
  | zero => rfl
  | succ n ih => rw [Reader.recvs, receives, List.map_cons, recv_eq, ih]

end Recv

def written (msgs : List Text) : List UInt8 := json.wire newline msgs

/-- Whatever an envelope is unmarshalled to, `recv` returns the envelopes one by one, and
then the end of the stream. -/
def NoLoss (msgs : List Text) (pieces : List (List UInt8)) : Prop :=
  ∀ (α : Type) (unmarshal : List UInt8 → Except String α),
    Reader.recvs G unmarshal (msgs.length + 1) (newReader pieces) =
      msgs.map (fun m => unmarshalText unmarshal m.text) ++ [.error .eof]

/-- No block that the decoder of an envelope is given reaches past the newline after the
envelope. -/
def BlocksEndWithEnvelopes (msgs : List Text) (pieces : List (List UInt8)) : Prop :=
  Aligned G json 0 (newReader pieces) msgs

theorem isSpace_newline : isSpace newline = true := rfl

theorem content_newReader (pieces : List (List UInt8)) :
    BlockReader.content (newReader pieces) = pieces.flatten := rfl

private theorem recvs_of_receives {α : Type} (unmarshal : List UInt8 → Except String α)
    {msgs : List Text} {n : Nat} {r : Reader}
    (h : receives G json n r = msgs.map (fun m => .ok m.text) ++ [.error .eof]) :
    Reader.recvs G unmarshal n r =
      msgs.map (fun m => unmarshalText unmarshal m.text) ++ [.error .eof] := by
  rw [recvs_eq, h, List.map_append, List.map_map]
  rfl

private theorem receives_of_recvs {msgs : List Text} {n : Nat} {r : Reader}
    (h : Reader.recvs (α := List UInt8) G .ok n r =
      msgs.map (fun m => unmarshalText .ok m.text) ++ [.error .eof]) :
    receives G json n r = msgs.map (fun m => .ok m.text) ++ [.error .eof] := by
  have hinj : Function.Injective (ofText (.ok : List UInt8 → Except String (List UInt8))) := by
    intro x y hxy
    cases x <;> cases y <;> cases hxy <;> rfl
  refine List.map_injective_iff.mpr hinj ?_
  rw [← recvs_eq, h, List.map_append, List.map_map]
  rfl

private theorem texts_iff {msgs : List Text} {pieces : List (List UInt8)}
    (h : pieces.flatten = written msgs) :
    receives G json (msgs.length + 1) (newReader pieces) =
        msgs.map (fun m => .ok m.text) ++ [.error .eof] ↔
      BlocksEndWithEnvelopes G msgs pieces :=
  receives_iff isSpace_newline 0 (Nat.zero_le 1) msgs (by rw [content_newReader, h]; rfl)

theorem noLoss_of_blocks {msgs : List Text} {pieces : List (List UInt8)}
    (h : pieces.flatten = written msgs) (hblocks : BlocksEndWithEnvelopes G msgs pieces) :
    NoLoss G msgs pieces :=
  fun _ unmarshal => recvs_of_receives G unmarshal ((texts_iff G h).mpr hblocks)

/-- However the blocks of a decoder grow, the envelopes arrive exactly if the decoders are given
no bytes of the envelope after their own. -/
theorem noLoss_iff (msgs : List Text) (pieces : List (List UInt8))
    (h : pieces.flatten = written msgs) :
    NoLoss G msgs pieces ↔ BlocksEndWithEnvelopes G msgs pieces := by
  constructor
  · intro hloss
    exact (texts_iff G h).mp (receives_of_recvs G (hloss (List UInt8) .ok))
  · exact noLoss_of_blocks G h

/-- It is enough that no read of the socket reaches past the end of a line. -/
theorem blocksEndWithEnvelopes_of_cuts {msgs : List Text} (cuts : List (List (List UInt8)))
    (h : cuts.map List.flatten = msgs.map fun m => m.text ++ [newline]) :
    BlocksEndWithEnvelopes G msgs cuts.flatten :=
  aligned_of_cuts [] rfl rfl h

/-- What one `recv` hands to the component. -/
def delivery : Except DecodeError Message → Delivery
  | .ok m => .message m
  | .error err => .failure err.error

/-- The deliveries of `n` calls of `recv`, while the context is not done. -/
def inbox (unmarshal : List UInt8 → Except String Message) (n : Nat)
    (pieces : List (List UInt8)) : List Incoming :=
  ((newReader pieces).recvs G unmarshal n).map fun result => { delivery := delivery result }

/-- Under the condition the component is handed the messages of the daemon. -/
theorem inbox_eq {unmarshal : List UInt8 → Except String Message} {message : Text → Message}
    {msgs : List Text} {pieces : List (List UInt8)} (h : pieces.flatten = written msgs)
    (hblocks : BlocksEndWithEnvelopes G msgs pieces)
    (hmessage : ∀ m ∈ msgs, unmarshal m.text = .ok (message m)) :
    inbox G unmarshal (msgs.length + 1) pieces =
      (msgs.map message).map incoming ++ [{ delivery := .failure "EOF" }] := by
  have arrived := noLoss_of_blocks G h hblocks Message unmarshal
  rw [inbox, arrived, List.map_append, List.map_map, List.map_map]
  refine congrArg (· ++ _) (List.map_congr_left fun m hm => ?_)
  simp only [Function.comp_apply, unmarshalText, hmessage m hm]
  rfl

namespace Sample

def ackText : Text where
  text := ascii "\x7b\"command\":\"ACK\"\x7d"
  whole := by decide +kernel
  opens := by decide +kernel

def configureText : Text where
  text := ascii "\x7b\"command\":\"CONFIGURE\",\"payload\":\x7b\x7d\x7d"
  whole := by decide +kernel
  opens := by decide +kernel

end Sample

theorem noLoss_iff_sample : NoLoss growBuf [Sample.ackText, Sample.configureText]
    [Sample.ackText.text, [newline], Sample.configureText.text ++ [newline]] :=
  (noLoss_iff growBuf _ _ (by decide +kernel)).mpr (blocksEndWithEnvelopes_of_cuts growBuf
    [[Sample.ackText.text, [newline]], [Sample.configureText.text ++ [newline]]] rfl)

/-- The CONFIGURE that comes in one read with the ACK before it is lost. -/
theorem configure_lost : ¬ ∀ (msgs : List Text) (pieces : List (List UInt8)),
    pieces.flatten = written msgs → NoLoss growBuf msgs pieces := by
  intro h
  have noLoss := h [Sample.ackText, Sample.configureText]
    [written [Sample.ackText, Sample.configureText]] (by decide +kernel) Unit fun _ => .ok ()
  have arrived := congrArg (fun results => results.map Except.isOk) noLoss
  revert arrived
  decide +kernel

end AegisSdk.Go
