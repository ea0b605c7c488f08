import AegisSdk.Cpp.Dialogue
import AegisSdk.Go.Unmarshal
import AegisSdk.OCaml.Dialogue
import AegisSdk.Python.Dialogue
import AegisSdk.Rust.Unhandled

/-!
The five decoders on an object of the nine keys of an envelope. They differ in what they accept:
Rust and Go want an object as the payload, Go takes null for a string and any name for a type
or a command, Rust takes a variant as an object, and only Rust knows REBORN. What all of them
accept they read alike, unless an object repeats a key, of which OCaml reads the first value and
the others the last, or a library rounds a number.
-/

set_option autoImplicit false
set_option relaxedAutoImplicit false

namespace AegisSdk

open Protocol Library

namespace Rust

/-- An envelope of a known type and command as it is decoded. -/
def ofWire (x : Wire) (t : MessageType) (c : Command) (payload : Payload) : Envelope where
  protocolVersion := x.protocolVersion
  messageId := x.messageId
  correlationId := x.correlationId
  timestamp := x.timestamp
  source := x.source
  target := x.target
  msgType := t
  command := c
  payload := payload

variable {x : Wire} {ms payload : Payload}

theorem field_wire (h : x.Of ms) {key : String} {v : Json} (hmem : (key, v) ∈ x.members) :
    field ms key = some v := by
  rw [field, h.only hmem]

theorem deserialize_wire (h : x.Of ms) (hpayload : x.payload = .obj payload) {t : MessageType}
    {c : Command} (ht : x.type = t.name) (hc : x.command = c.name) :
    Envelope.deserialize (.obj ms) = some (ofWire x t c payload) := by
  have hcorrelation : optionalField ms "correlation_id" = some x.correlationId := by
    have hmem : ("correlation_id", Wire.optional x.correlationId) ∈ x.members := by
      simp [Wire.members]
    rw [optionalField, h.only hmem]
    cases x.correlationId <;> rfl
  have htype : MessageType.deserialize (.str x.type) = some t :=
    MessageType.deserialize_str.mpr ht.symm
  have hcommand : Command.deserialize (.str x.command) = some c :=
    Command.deserialize_str.mpr hc.symm
  have member : ∀ m ∈ x.members, m ∈ x.members := fun _ hm => hm
  simp only [Wire.members, List.forall_mem_cons] at member
  obtain ⟨h₁, h₂, -, h₄, h₅, h₆, h₇, h₈, h₉, -⟩ := member
  rw [Envelope.deserialize, field_wire h h₁, field_wire h h₂, hcorrelation, field_wire h h₄,
    field_wire h h₅, field_wire h h₆, field_wire h h₇, field_wire h h₈, field_wire h h₉, hpayload]
  simp only [Option.bind_eq_bind, Option.bind_some, Json.asStr_str, htype, hcommand, payloadMap]
  rfl

theorem type_known {name : String} (h : name ∈ Wire.types) : ∃ t : MessageType, name = t.name := by
  simp only [Wire.types, List.mem_cons, List.not_mem_nil, or_false] at h
  rcases h with rfl | rfl | rfl | rfl | rfl | rfl
  exacts [⟨.control, rfl⟩, ⟨.lifecycle, rfl⟩, ⟨.config, rfl⟩, ⟨.error, rfl⟩, ⟨.heartbeat, rfl⟩,
    ⟨.data, rfl⟩]

theorem command_known {name : String} (h : name ∈ Wire.commands) :
    ∃ c : Command, name = c.name := by
  simp only [Wire.commands, List.mem_cons, List.not_mem_nil, or_false] at h
  rcases h with rfl | rfl | rfl | rfl | rfl | rfl | rfl | rfl | rfl | rfl | rfl | rfl
  exacts [⟨.register, rfl⟩, ⟨.registered, rfl⟩, ⟨.stateUpdate, rfl⟩, ⟨.shutdown, rfl⟩, ⟨.ack, rfl⟩,
    ⟨.nack, rfl⟩, ⟨.configure, rfl⟩, ⟨.configured, rfl⟩, ⟨.ping, rfl⟩, ⟨.pong, rfl⟩,
    ⟨.runtimeError, rfl⟩, ⟨.registrationFailed, rfl⟩]

theorem deserialize_eq_none {v : Option Json} (hv : field ms "payload" = v)
    (h : v.bind payloadMap = none) : Envelope.deserialize (.obj ms) = none := by
  cases v with
  | none =>
    simp only [Envelope.deserialize, hv, Option.bind_eq_bind, Option.bind_none,
      Option.bind_fun_none]
  | some v =>
    rw [Option.bind_some] at h
    simp only [Envelope.deserialize, hv, h, Option.bind_eq_bind, Option.bind_some,
      Option.bind_none, Option.bind_fun_none]

theorem payload_of_deserialize {r : Envelope} (h : Envelope.deserialize (.obj ms) = some r) :
    ∃ payload, field ms "payload" = some (.obj payload) := by
  cases hv : field ms "payload" with
  | none =>
    rw [deserialize_eq_none hv rfl] at h
    cases h
  | some v =>
    cases v with
    | obj members => exact ⟨members, rfl⟩
    | _ =>
      rw [deserialize_eq_none hv rfl] at h
      cases h

end Rust

def Rust.Envelope.toWire (env : Rust.Envelope) : Wire where
  protocolVersion := env.protocolVersion
  messageId := env.messageId
  correlationId := env.correlationId
  timestamp := env.timestamp
  source := env.source
  target := env.target
  type := env.msgType.name
  command := env.command.name
  payload := .obj env.payload

def Go.Envelope.toWire (env : Go.Envelope) : Wire where
  protocolVersion := env.protocolVersion
  messageId := env.messageId
  correlationId := env.correlationId
  timestamp := env.timestamp
  source := env.source
  target := env.target
  type := env.type
  command := env.command
  payload := .obj env.payload

def Cpp.Envelope.toWire (env : Cpp.Envelope) : Wire where
  protocolVersion := env.protocolVersion
  messageId := env.messageId
  correlationId := env.correlationId
  timestamp := env.timestamp
  source := env.source
  target := env.target
  type := env.msgType.toString
  command := env.command.toString
  payload := env.payload

def OCaml.Envelope.toWire (env : OCaml.Envelope) : Wire where
  protocolVersion := env.protocolVersion
  messageId := env.messageId
  correlationId := env.correlationId
  timestamp := env.timestamp
  source := env.source
  target := env.target
  type := OCaml.stringOfMessageType env.msgType
  command := OCaml.stringOfCommand env.command
  payload := env.payload

/-- The names are known to every SDK, and the payload is an object. -/
def Protocol.Wire.Legible (x : Wire) : Prop :=
  x.type ∈ Wire.types ∧ x.command ∈ Wire.commands ∧ ∃ payload, x.payload = .obj payload

structure Numbers where
  rust : String → Option String
  go : String → Option String
  python : String → Option String
  ocaml : String → Option String
  cpp : String → Option String

def Numbers.keep (n : Numbers) (literal : String) : Bool :=
  [n.rust, n.go, n.python, n.ocaml, n.cpp].all fun number => number literal == some literal

theorem Numbers.keeps (n : Numbers) {number : String → Option String}
    (h : number ∈ [n.rust, n.go, n.python, n.ocaml, n.cpp]) : Keeps number n.keep := by
  intro literal hkept
  exact beq_iff_eq.mp (List.all_eq_true.mp hkept number h)

def Rust.Envelope.read (number : String → Option String) (v : Json) : Option Rust.Envelope :=
  (v.hold number).bind Rust.Envelope.deserialize

def Cpp.Envelope.read (number : String → Option String) (v : Json) : Option Cpp.Envelope :=
  (v.hold number).bind fun v => (Cpp.Envelope.fromJson v).toOption

def OCaml.Envelope.read (number : String → Option String) (v : Json) : Option OCaml.Envelope :=
  (v.hold number).bind fun v => (OCaml.envelopeOfJson v).toOption

def Python.lookup (number : String → Option String) (v : Json) (key : String) : Option Json :=
  (v.hold number).bind fun v => (Python.dictItem v key).toOption

structure Accepted (n : Numbers) (ms : Payload) (r : Rust.Envelope) (g : Go.Envelope)
    (c : Cpp.Envelope) (o : OCaml.Envelope) : Prop where
  rust : Rust.Envelope.read n.rust (.obj ms) = some r
  go : Go.unmarshal n.go (.obj ms) = some g
  cpp : Cpp.Envelope.read n.cpp (.obj ms) = some c
  ocaml : OCaml.Envelope.read n.ocaml (.obj ms) = some o

section Agree

variable {n : Numbers} {x : Wire} {ms : Payload}

theorem except_ok_of_toOption {ε α : Type} {r : Except ε α} {a : α} (h : r.toOption = some a) :
    r = .ok a := by
  cases r with
  | ok b => exact congrArg Except.ok (Option.some.inj h)
  | error e => cases h

theorem payload_plain (hplain : (Json.obj ms).plain n.keep = true) (h : x.Of ms)
    {payload : Payload} (hpayload : x.payload = .obj payload) :
    plainMembers n.keep payload = true := by
  have hmem : ("payload", Json.obj payload) ∈ ms := by
    rw [h.mem_iff, ← hpayload]
    simp [Wire.members]
  exact (plain_obj.mp (plainMembers_iff.mp (plain_obj.mp hplain).2 _ hmem)).2

theorem hold_plain (hplain : (Json.obj ms).plain n.keep = true)
    {number : String → Option String} (h : number ∈ [n.rust, n.go, n.python, n.ocaml, n.cpp]) :
    (Json.obj ms).hold number = some (.obj ms) :=
  hold_of_plain (n.keeps h) _ hplain

/-- A legible envelope is accepted by all, and read as it is. -/
theorem accepted_of_legible (hplain : (Json.obj ms).plain n.keep = true) (h : x.Of ms)
    (hlegible : x.Legible) :
    ∃ r g c o, Accepted n ms r g c o ∧ r.toWire = x ∧ g.toWire = x ∧ c.toWire = x ∧
      o.toWire = x := by
  obtain ⟨htype, hcommand, payload, hpayload⟩ := hlegible
  obtain ⟨t, ht⟩ := Rust.type_known htype
  obtain ⟨t', ht'⟩ := Cpp.type_known htype
  obtain ⟨t'', ht''⟩ := OCaml.type_known htype
  obtain ⟨c, hc⟩ := Rust.command_known hcommand
  obtain ⟨c', hc'⟩ := Cpp.command_known hcommand
  obtain ⟨c'', hc''⟩ := OCaml.command_known hcommand
  have hheld : holdMembers n.go payload = some payload :=
    holdMembers_of_plain (n.keeps (by simp)) payload (payload_plain hplain h hpayload)
  refine ⟨Rust.ofWire x t c payload, Go.ofWire x payload, Cpp.ofWire x t' c',
    OCaml.ofWire x t'' c'', ⟨?_, Go.unmarshal_wire n.go h hpayload hheld, ?_, ?_⟩, ?_, ?_, ?_, ?_⟩
  · rw [Rust.Envelope.read, hold_plain hplain (by simp)]
    exact Rust.deserialize_wire h hpayload ht hc
  · rw [Cpp.Envelope.read, hold_plain hplain (by simp), Option.bind_some,
      Cpp.fromJson_wire h ht' hc']
    rfl
  · rw [OCaml.Envelope.read, hold_plain hplain (by simp), Option.bind_some,
      OCaml.envelopeOfJson_wire h ht'' hc'']
    rfl
  all_goals obtain ⟨version, id, corr, ts, src, tgt, type, command, value⟩ := x
  · simp only [Rust.Envelope.toWire, Rust.ofWire, ← hpayload, ← ht, ← hc]
  · simp only [Go.Envelope.toWire, Go.ofWire, ← hpayload]
  · simp only [Cpp.Envelope.toWire, Cpp.ofWire, ← ht', ← hc']
  · simp only [OCaml.Envelope.toWire, OCaml.ofWire, ← ht'', ← hc'']

/-- What all accept is a legible envelope. -/
theorem legible_of_accepted (hplain : (Json.obj ms).plain n.keep = true) (hkeys : EnvelopeKeys ms)
    {r : Rust.Envelope} {g : Go.Envelope} {c : Cpp.Envelope} {o : OCaml.Envelope}
    (h : Accepted n ms r g c o) : ∃ x : Wire, x.Of ms ∧ x.Legible := by
  have hocaml := h.ocaml
  rw [OCaml.Envelope.read, hold_plain hplain (by simp), Option.bind_some] at hocaml
  have hrust := h.rust
  rw [Rust.Envelope.read, hold_plain hplain (by simp), Option.bind_some] at hrust
  obtain ⟨ms', hjson, hperm⟩ := envelopeOfJson_members hkeys (except_ok_of_toOption hocaml)
  have hmembers : OCaml.envelopeToJson o = .obj o.toWire.members := by
    cases hcorr : o.correlationId <;>
      simp [OCaml.envelopeToJson, OCaml.Envelope.toWire, Wire.members, Wire.optional, hcorr]
  have hof : o.toWire.Of ms := by
    rw [hjson] at hmembers
    rwa [Json.obj.inj hmembers] at hperm
  refine ⟨o.toWire, hof, ?_, ?_, ?_⟩
  · show OCaml.stringOfMessageType o.msgType ∈ _
    cases o.msgType <;> decide
  · show OCaml.stringOfCommand o.command ∈ _
    cases o.command <;> decide
  · obtain ⟨payload, hfield⟩ := Rust.payload_of_deserialize hrust
    have hmem : ("payload", o.toWire.payload) ∈ o.toWire.members := by simp [Wire.members]
    rw [Rust.field_wire hof hmem] at hfield
    exact ⟨payload, Option.some.inj hfield⟩

theorem lookup_iff (hplain : (Json.obj ms).plain n.keep = true) (h : x.Of ms) (key : String)
    (v : Json) : (key, v) ∈ x.members ↔ Python.lookup n.python (.obj ms) key = some v := by
  rw [← h.mem_iff, ← Payload.get_eq_some_iff h.nodup, Python.lookup,
    hold_plain hplain (by simp), Option.bind_some, Python.dictItem]
  cases Payload.get ms key <;> simp [Except.toOption]

end Agree

/-- On an object of the nine keys in any order, in which no object repeats a key and every number
is held as it is: all decoders accept it exactly if it is an envelope whose names every SDK knows
and whose payload is an object, and then they all read the same, Python in its lookups too. -/
theorem decoders_agree (n : Numbers) {ms : Payload} (hkeys : EnvelopeKeys ms)
    (hplain : (Json.obj ms).plain n.keep = true) :
    (∀ r g c o, Accepted n ms r g c o → ∃ x : Wire, x.Of ms ∧ x.Legible ∧
      r.toWire = x ∧ g.toWire = x ∧ c.toWire = x ∧ o.toWire = x ∧
      ∀ key v, (key, v) ∈ x.members ↔ Python.lookup n.python (.obj ms) key = some v) ∧
    ∀ x : Wire, x.Of ms → x.Legible → ∃ r g c o, Accepted n ms r g c o := by
  constructor
  · intro r g c o h
    obtain ⟨x, hof, hlegible⟩ := legible_of_accepted hplain hkeys h
    obtain ⟨r', g', c', o', h', hr, hg, hc, ho⟩ := accepted_of_legible hplain hof hlegible
    obtain rfl := Option.some.inj (h.rust.symm.trans h'.rust)
    obtain rfl := Option.some.inj (h.go.symm.trans h'.go)
    obtain rfl := Option.some.inj (h.cpp.symm.trans h'.cpp)
    obtain rfl := Option.some.inj (h.ocaml.symm.trans h'.ocaml)
    exact ⟨x, hof, hlegible, hr, hg, hc, ho, lookup_iff hplain hof⟩
  · intro x hof hlegible
    obtain ⟨r, g, c, o, h, -⟩ := accepted_of_legible hplain hof hlegible
    exact ⟨r, g, c, o, h⟩

def Sample.configureWire : Wire where
  protocolVersion := "0.1"
  messageId := "m2"
  correlationId := none
  timestamp := "t"
  source := "aegis"
  target := "component:c"
  type := "CONFIG"
  command := "CONFIGURE"
  payload := .obj [("data_stream_socket", .str "data.sock"), ("topics", .arr [.str "klines"])]

def Sample.numbers : Numbers where
  rust := some
  go := some
  python := some
  ocaml := some
  cpp := some

theorem decoders_agree_sample :
    ∃ r g c o, Accepted Sample.numbers Sample.configureWire.members.reverse r g c o ∧
      r.toWire = g.toWire ∧ g.toWire = c.toWire ∧ c.toWire = o.toWire := by
  have hof : Sample.configureWire.Of Sample.configureWire.members.reverse :=
    List.reverse_perm _
  have hkeys : EnvelopeKeys Sample.configureWire.members.reverse := hof.map Prod.fst
  have hplain : (Json.obj Sample.configureWire.members.reverse).plain Sample.numbers.keep = true :=
    by decide
  have hlegible : Sample.configureWire.Legible := ⟨by decide, by decide, _, rfl⟩
  obtain ⟨hread, haccept⟩ := decoders_agree Sample.numbers hkeys hplain
  obtain ⟨r, g, c, o, h⟩ := haccept _ hof hlegible
  obtain ⟨x, -, -, hr, hg, hc, ho, -⟩ := hread r g c o h
  exact ⟨r, g, c, o, h, hr.trans hg.symm, hg.trans hc.symm, hc.trans ho.symm⟩

end AegisSdk
