import AegisSdk.Go.Protocol
import AegisSdk.Protocol.Reading
import AegisSdk.Protocol.Wire

/-!
What `encoding/json` makes of a value that is decoded into an `Envelope`: keys are compared
without regard to case, the last value of a field stays, null leaves a string as it was and
makes the pointer and the map nil, and a value of another type is an error. The numbers of the
payload become `float64`.
-/

set_option autoImplicit false
set_option relaxedAutoImplicit false

namespace AegisSdk.Go

open AegisSdk.Protocol

/-- The smallest rune that differs from this one in case only, among those that occur in the
names of fields. -/
def foldRune (c : Char) : Char :=
  if 'a' ≤ c ∧ c ≤ 'z' then c.toUpper
  else if c = 'ſ' then 'S'
  else if c = 'K' then 'K'
  else c

def foldName (key : String) : List Char := key.toList.map foldRune

def occurrences (ms : Payload) (name : String) : List Json :=
  (ms.filter fun m => foldName m.1 == foldName name).map Prod.snd

def storeString (old : String) : Json → Option String
  | .null => some old
  | .str s => some s
  | _ => none

def storePointer : Json → Option (Option String)
  | .null => some none
  | .str s => some (some s)
  | _ => none

section Decode

-- the `float64` nearest to a number, unless the number is out of range
variable (float : String → Option String)

def storeMap (old : Payload) : Json → Option Payload
  | .null => some []
  | .obj ms => (holdMembers float ms).map (old ++ ·)
  | _ => none

def stringField (ms : Payload) (name : String) : Option String :=
  (occurrences ms name).foldlM storeString ""

/-- `json.Decoder.Decode` of a value into an `Envelope`, unless it gives an error. -/
def unmarshal : Json → Option Envelope
  | .null => some
    { protocolVersion := "", messageId := "", correlationId := none, timestamp := "", source := "",
      target := "", type := "", command := "", payload := [] }
  | .obj ms => do
    let protocolVersion ← stringField ms "protocol_version"
    let messageId ← stringField ms "message_id"
    let correlationId ← (occurrences ms "correlation_id").foldlM (fun _ v => storePointer v) none
    let timestamp ← stringField ms "timestamp"
    let source ← stringField ms "source"
    let target ← stringField ms "target"
    let type ← stringField ms "type"
    let command ← stringField ms "command"
    let payload ← (occurrences ms "payload").foldlM (storeMap float) []
    some { protocolVersion, messageId, correlationId, timestamp, source, target, type, command,
           payload }
  | _ => none

def ofWire (x : Wire) (payload : Payload) : Envelope where
  protocolVersion := x.protocolVersion
  messageId := x.messageId
  correlationId := x.correlationId
  timestamp := x.timestamp
  source := x.source
  target := x.target
  type := x.type
  command := x.command
  payload := payload

variable {x : Wire} {ms payload held : Payload}

theorem foldName_eq_iff {name key : String} (hname : name ∈ x.members.map Prod.fst)
    (hkey : key ∈ x.members.map Prod.fst) : foldName name = foldName key ↔ name = key := by
  have apart : ∀ a ∈ ["protocol_version", "message_id", "correlation_id", "timestamp", "source",
      "target", "type", "command", "payload"], ∀ b ∈ ["protocol_version", "message_id",
      "correlation_id", "timestamp", "source", "target", "type", "command", "payload"],
      foldName a = foldName b ↔ a = b := by
    decide +kernel
  exact apart name hname key hkey

theorem occurrences_wire (h : x.Of ms) {name : String} {v : Json} (hmem : (name, v) ∈ x.members) :
    occurrences ms name = [v] := by
  have hnames : ms.filter (fun m => foldName m.1 == foldName name) =
      ms.filter fun m => m.1 == name := by
    apply List.filter_congr
    intro m hm
    have hkey : m.1 ∈ x.members.map Prod.fst := List.mem_map_of_mem (h.mem_iff.mp hm)
    have hname : name ∈ x.members.map Prod.fst := List.mem_map_of_mem hmem
    rw [Bool.eq_iff_iff, beq_iff_eq, beq_iff_eq]
    exact foldName_eq_iff hkey hname
  rw [occurrences, hnames, h.only hmem]
  rfl

/-- An envelope whose payload is an object is decoded as it is, but for its numbers. -/
theorem unmarshal_wire (h : x.Of ms) (hpayload : x.payload = .obj payload)
    (hheld : holdMembers float payload = some held) :
    unmarshal float (.obj ms) = some (ofWire x held) := by
  have text : ∀ {name s : String}, (name, Json.str s) ∈ x.members →
      stringField ms name = some s := by
    intro name s hmem
    rw [stringField, occurrences_wire h hmem]
    rfl
  have hcorrelation : (occurrences ms "correlation_id").foldlM (fun _ v => storePointer v) none =
      some x.correlationId := by
    have hmem : ("correlation_id", Wire.optional x.correlationId) ∈ x.members := by
      simp [Wire.members]
    rw [occurrences_wire h hmem]
    cases x.correlationId <;> rfl
  have hmap : (occurrences ms "payload").foldlM (storeMap float) [] = some held := by
    have hmem : ("payload", Json.obj payload) ∈ x.members := by simp [Wire.members, hpayload]
    rw [occurrences_wire h hmem]
    simp [storeMap, hheld]
  have member : ∀ m ∈ x.members, m ∈ x.members := fun _ hm => hm
  simp only [Wire.members, List.forall_mem_cons] at member
  obtain ⟨h₁, h₂, -, h₄, h₅, h₆, h₇, h₈, -⟩ := member
  unfold unmarshal
  dsimp only
  rw [text h₁, text h₂, hcorrelation, text h₄, text h₅, text h₆, text h₇, text h₈, hmap]
  rfl

theorem eq_of_unmarshal (h : x.Of ms) (hpayload : x.payload = .obj payload) {g : Envelope}
    (hg : unmarshal float (.obj ms) = some g) :
    ∃ held, holdMembers float payload = some held ∧ g = ofWire x held := by
  have hheld : ∃ held, holdMembers float payload = some held := by
    simp only [unmarshal, Option.bind_eq_bind, Option.bind_eq_some_iff] at hg
    obtain ⟨_, -, _, -, _, -, _, -, _, -, _, -, _, -, _, -, p, hp, -⟩ := hg
    have hmem : ("payload", Json.obj payload) ∈ x.members := by simp [Wire.members, hpayload]
    rw [occurrences_wire h hmem] at hp
    cases hheld : holdMembers float payload with
    | some held => exact ⟨held, rfl⟩
    | none => simp [storeMap, hheld] at hp
  obtain ⟨held, hheld⟩ := hheld
  exact ⟨held, hheld, Option.some.inj (hg.symm.trans (unmarshal_wire float h hpayload hheld))⟩

end Decode

end AegisSdk.Go
