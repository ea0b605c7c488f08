import AegisSdk.Cpp.Protocol
import AegisSdk.Library.Task
import AegisSdk.OCaml.Protocol
import Mathlib.Data.List.Perm.Basic

/-!
The hand-written envelope codecs of the C++ and the OCaml SDK. Either decoder reads an
object of the nine keys by its members alone, so that what the one accepts the other one
reads the same way, and encoding gives the members back.
-/

set_option autoImplicit false
set_option relaxedAutoImplicit false

namespace AegisSdk

open AegisSdk.Protocol AegisSdk.Library

def Cpp.MessageType.toOCaml : Cpp.MessageType → OCaml.MessageType
  | .control => .control
  | .lifecycle => .lifecycle
  | .config => .config
  | .error => .error
  | .heartbeat => .heartbeat
  | .data => .data

def Cpp.Command.toOCaml : Cpp.Command → OCaml.Command
  | .register => .register
  | .registered => .registered
  | .stateUpdate => .stateUpdate
  | .shutdown => .shutdown
  | .ack => .ack
  | .nack => .nack
  | .configure => .configure
  | .configured => .configured
  | .ping => .ping
  | .pong => .pong
  | .runtimeError => .runtimeError
  | .registrationFailed => .registrationFailed

def Cpp.Envelope.toOCaml (e : Cpp.Envelope) : OCaml.Envelope where
  protocolVersion := e.protocolVersion
  messageId := e.messageId
  correlationId := e.correlationId
  timestamp := e.timestamp
  source := e.source
  target := e.target
  msgType := e.msgType.toOCaml
  command := e.command.toOCaml
  payload := e.payload

theorem toOCaml_surjective (e : OCaml.Envelope) : ∃ e' : Cpp.Envelope, e'.toOCaml = e := by
  have types : ∀ t : OCaml.MessageType, ∃ t' : Cpp.MessageType, t'.toOCaml = t := by
    intro t
    cases t
    exacts [⟨.control, rfl⟩, ⟨.lifecycle, rfl⟩, ⟨.config, rfl⟩, ⟨.error, rfl⟩, ⟨.heartbeat, rfl⟩,
      ⟨.data, rfl⟩]
  have commands : ∀ c : OCaml.Command, ∃ c' : Cpp.Command, c'.toOCaml = c := by
    intro c
    cases c
    exacts [⟨.register, rfl⟩, ⟨.registered, rfl⟩, ⟨.stateUpdate, rfl⟩, ⟨.shutdown, rfl⟩,
      ⟨.ack, rfl⟩, ⟨.nack, rfl⟩, ⟨.configure, rfl⟩, ⟨.configured, rfl⟩, ⟨.ping, rfl⟩,
      ⟨.pong, rfl⟩, ⟨.runtimeError, rfl⟩, ⟨.registrationFailed, rfl⟩]
  obtain ⟨t, ht⟩ := types e.msgType
  obtain ⟨c, hc⟩ := commands e.command
  refine ⟨⟨e.protocolVersion, e.messageId, e.correlationId, e.timestamp, e.source, e.target, t, c,
    e.payload⟩, ?_⟩
  simp only [Cpp.Envelope.toOCaml, ht, hc]

theorem toJson_eq (e : Cpp.Envelope) : e.toJson = OCaml.envelopeToJson e.toOCaml := by
  have type : e.msgType.toString = OCaml.stringOfMessageType e.msgType.toOCaml := by
    cases e.msgType <;> rfl
  have command : e.command.toString = OCaml.stringOfCommand e.command.toOCaml := by
    cases e.command <;> rfl
  cases hcorr : e.correlationId <;>
    simp only [Cpp.Envelope.toJson, OCaml.envelopeToJson, Cpp.Envelope.toOCaml, type, command,
      hcorr]

theorem fromJson_toJson (e : Cpp.Envelope) : Cpp.Envelope.fromJson e.toJson = .ok e := by
  obtain ⟨v, id, corr, ts, src, tgt, type, cmd, payload⟩ := e
  cases corr <;>
    simp [Cpp.Envelope.fromJson, Cpp.Envelope.toJson, Cpp.value, Cpp.find, Payload.get, Cpp.getAs,
      Cpp.correlationFromJson, Cpp.contained, bind, Except.bind, pure, Except.pure, Except.map]

theorem envelopeOfJson_toJson (e : OCaml.Envelope) :
    OCaml.envelopeOfJson (OCaml.envelopeToJson e) = .ok e := by
  obtain ⟨v, id, corr, ts, src, tgt, type, cmd, payload⟩ := e
  cases corr <;>
    simp [OCaml.envelopeOfJson, OCaml.envelopeToJson, OCaml.member, OCaml.toString,
      OCaml.toStringOption, bind, Except.bind, pure, Except.pure]

def envelopeKeys : List String :=
  ["protocol_version", "message_id", "correlation_id", "timestamp", "source", "target", "type",
    "command", "payload"]

/-- The members have exactly the keys of an envelope, each once. -/
def EnvelopeKeys (members : Payload) : Prop := (members.map Prod.fst).Perm envelopeKeys

theorem EnvelopeKeys.nodup {members : Payload} (h : EnvelopeKeys members) :
    (members.map Prod.fst).Nodup :=
  h.nodup_iff.mpr (by decide)

theorem member_of_key {members : Payload} (h : EnvelopeKeys members) {key : String}
    (hkey : key ∈ envelopeKeys) : ∃ v, (key, v) ∈ members := by
  obtain ⟨m, hm, rfl⟩ := List.mem_map.mp (h.mem_iff.mpr hkey)
  exact ⟨m.2, hm⟩

theorem member_eq_ok {members : Payload} (h : EnvelopeKeys members) {key : String}
    (hkey : key ∈ envelopeKeys) {v : Json} :
    OCaml.member key (.obj members) = .ok v ↔ (key, v) ∈ members := by
  obtain ⟨v', hv'⟩ := member_of_key h hkey
  have first := (Payload.find?_eq_some_iff h.nodup).mpr hv'
  rw [OCaml.member, first, Option.getD_some, Except.ok.injEq]
  constructor
  · rintro rfl
    exact hv'
  · intro hv
    exact Option.some.inj (first.symm.trans ((Payload.find?_eq_some_iff h.nodup).mpr hv))

theorem EnvelopeKeys.perm {members ms : Payload} (h : EnvelopeKeys members) (hms : EnvelopeKeys ms)
    (hsub : ∀ m ∈ ms, m ∈ members) : members.Perm ms := by
  have length : members.length = ms.length := by
    have := (h.trans hms.symm).length_eq
    simpa using this
  have nodup : ms.Nodup := List.Nodup.of_map Prod.fst hms.nodup
  exact ((List.subperm_of_subset nodup hsub).perm_of_length_le (Nat.le_of_eq length)).symm

theorem envelopeOfJson_members {members : Payload} (h : EnvelopeKeys members) {e : OCaml.Envelope}
    (hok : OCaml.envelopeOfJson (.obj members) = .ok e) :
    ∃ ms, OCaml.envelopeToJson e = .obj ms ∧ members.Perm ms := by
  unfold OCaml.envelopeOfJson at hok
  simp only [except_bind_eq_ok, OCaml.toString_eq_ok, OCaml.toStringOption_eq_ok,
    OCaml.messageTypeOfString_eq_ok, OCaml.commandOfString_eq_ok] at hok
  obtain ⟨_, h₁, v, rfl, _, h₂, id, rfl, _, h₃, corr, rfl, _, h₄, ts, rfl, _, h₅, src, rfl,
    _, h₆, tgt, rfl, _, h₇, _, rfl, type, rfl, _, h₈, _, rfl, cmd, rfl, payload, h₉, hok⟩ := hok
  obtain rfl := Except.ok.inj hok
  refine ⟨_, rfl, h.perm (List.Perm.refl _) ?_⟩
  simp only [List.forall_mem_cons]
  exact ⟨(member_eq_ok h (by decide)).mp h₁, (member_eq_ok h (by decide)).mp h₂,
    (member_eq_ok h (by decide)).mp h₃, (member_eq_ok h (by decide)).mp h₄,
    (member_eq_ok h (by decide)).mp h₅, (member_eq_ok h (by decide)).mp h₆,
    (member_eq_ok h (by decide)).mp h₇, (member_eq_ok h (by decide)).mp h₈,
    (member_eq_ok h (by decide)).mp h₉, List.forall_mem_nil _⟩

theorem fromJson_perm {members ms : Payload} (h : members.Perm ms)
    (hnodup : (members.map Prod.fst).Nodup) :
    Cpp.Envelope.fromJson (.obj members) = Cpp.Envelope.fromJson (.obj ms) := by
  have same : ∀ key, Cpp.find members key = Cpp.find ms key := by
    intro key
    have hms : (ms.map Prod.fst).Nodup := (h.map Prod.fst).nodup_iff.mp hnodup
    apply Option.ext
    intro v
    unfold Cpp.find
    rw [Payload.get_eq_some_iff hnodup, Payload.get_eq_some_iff hms, h.mem_iff]
  simp only [Cpp.Envelope.fromJson, Cpp.value, Cpp.correlationFromJson, Cpp.contained, same]

def SameObject (a b : Json) : Prop :=
  ∃ members ms, a = .obj members ∧ b = .obj ms ∧ members.Perm ms

theorem sameObject_toJson (e : Cpp.Envelope) : SameObject e.toJson e.toJson :=
  ⟨_, _, rfl, rfl, List.Perm.refl _⟩

/-- Either codec is invertible, the encoders write the same object, and what the OCaml decoder
accepts among the objects of the nine keys the C++ decoder reads alike and either encoder
reproduces. -/
theorem codecs_agree :
    (∀ e : Cpp.Envelope, Cpp.Envelope.fromJson e.toJson = .ok e) ∧
    (∀ e : OCaml.Envelope, OCaml.envelopeOfJson (OCaml.envelopeToJson e) = .ok e) ∧
    (∀ e : Cpp.Envelope, SameObject e.toJson (OCaml.envelopeToJson e.toOCaml) ∧
      OCaml.envelopeOfJson e.toJson = .ok e.toOCaml ∧
      Cpp.Envelope.fromJson (OCaml.envelopeToJson e.toOCaml) = .ok e) ∧
    (∀ e : OCaml.Envelope, ∃ e' : Cpp.Envelope, e'.toOCaml = e) ∧
    ∀ (members : Payload) (e : OCaml.Envelope), EnvelopeKeys members →
      OCaml.envelopeOfJson (.obj members) = .ok e →
        ∃ e' : Cpp.Envelope, Cpp.Envelope.fromJson (.obj members) = .ok e' ∧ e'.toOCaml = e ∧
          SameObject e'.toJson (.obj members) ∧
          SameObject (OCaml.envelopeToJson e) (.obj members) := by
  refine ⟨fromJson_toJson, envelopeOfJson_toJson, ?_, toOCaml_surjective, ?_⟩
  · intro e
    rw [← toJson_eq]
    refine ⟨sameObject_toJson e, ?_, fromJson_toJson e⟩
    rw [toJson_eq]
    exact envelopeOfJson_toJson e.toOCaml
  · intro members e hkeys hok
    obtain ⟨ms, hms, hperm⟩ := envelopeOfJson_members hkeys hok
    obtain ⟨e', rfl⟩ := toOCaml_surjective e
    have encoded : e'.toJson = .obj ms := (toJson_eq e').trans hms
    refine ⟨e', ?_, rfl, ⟨ms, members, encoded, rfl, hperm.symm⟩, ⟨ms, members, hms, rfl,
      hperm.symm⟩⟩
    rw [fromJson_perm hperm hkeys.nodup, ← encoded]
    exact fromJson_toJson e'

end AegisSdk
