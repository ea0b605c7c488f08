import AegisSdk.Protocol.Dialogue
import Mathlib.Data.List.Forall2
import Mathlib.Data.List.Perm.Basic

/-!
Envelopes on the wire, apart from any SDK: a JSON object of nine keys in any order, and what a
daemon puts into its orders.
-/

set_option autoImplicit false
set_option relaxedAutoImplicit false

namespace AegisSdk.Protocol

open AegisSdk.Library

theorem Payload.filter_eq_singleton {ms : Payload} (h : (ms.map Prod.fst).Nodup) {key : String}
    {value : Json} (hmem : (key, value) ∈ ms) :
    ms.filter (fun m => m.1 == key) = [(key, value)] := by
  induction ms with
  | nil => cases hmem
  | cons m ms ih =>
    obtain ⟨hm, hnodup⟩ := List.nodup_cons.mp h
    rcases List.mem_cons.mp hmem with rfl | hmem
    · have hnone : ms.filter (fun m => m.1 == key) = [] := by
        rw [List.filter_eq_nil_iff]
        intro m' hm' hkey
        have heq : m'.1 = key := by simpa using hkey
        exact hm (List.mem_map.mpr ⟨m', hm', heq⟩)
      rw [List.filter_cons_of_pos (by simp), hnone]
    · have hne : m.1 ≠ key := by
        intro heq
        exact hm (List.mem_map.mpr ⟨_, hmem, heq.symm⟩)
      rw [List.filter_cons_of_neg (by simpa using hne)]
      exact ih hnodup hmem

structure Wire where
  protocolVersion : String
  messageId : String
  correlationId : Option String
  timestamp : String
  source : String
  target : String
  type : String
  command : String
  payload : Json

namespace Wire

def optional : Option String → Json
  | some s => .str s
  | none => .null

def members (x : Wire) : Payload := [
  ("protocol_version", .str x.protocolVersion),
  ("message_id", .str x.messageId),
  ("correlation_id", optional x.correlationId),
  ("timestamp", .str x.timestamp),
  ("source", .str x.source),
  ("target", .str x.target),
  ("type", .str x.type),
  ("command", .str x.command),
  ("payload", x.payload)]

theorem nodup_members (x : Wire) : (x.members.map Prod.fst).Nodup := by
  show ["protocol_version", "message_id", "correlation_id", "timestamp", "source", "target", "type",
    "command", "payload"].Nodup
  decide

def Of (x : Wire) (ms : Payload) : Prop := ms.Perm x.members

section Lookups

variable {x : Wire} {ms : Payload} {key : String} {value : Json}

theorem Of.nodup (h : x.Of ms) : (ms.map Prod.fst).Nodup :=
  (h.map Prod.fst).nodup_iff.mpr x.nodup_members

theorem Of.get (h : x.Of ms) (hmem : (key, value) ∈ x.members) :
    Payload.get ms key = some value :=
  (Payload.get_eq_some_iff h.nodup).mpr (h.mem_iff.mpr hmem)

theorem Of.first (h : x.Of ms) (hmem : (key, value) ∈ x.members) :
    (ms.find? fun m => m.1 == key).map Prod.snd = some value :=
  (Payload.find?_eq_some_iff h.nodup).mpr (h.mem_iff.mpr hmem)

theorem Of.only (h : x.Of ms) (hmem : (key, value) ∈ x.members) :
    ms.filter (fun m => m.1 == key) = [(key, value)] :=
  Payload.filter_eq_singleton h.nodup (h.mem_iff.mpr hmem)

end Lookups

def types : List String := ["CONTROL", "LIFECYCLE", "CONFIG", "ERROR", "HEARTBEAT", "DATA"]

def commands : List String := ["REGISTER", "REGISTERED", "STATE_UPDATE", "SHUTDOWN", "ACK", "NACK",
  "CONFIGURE", "CONFIGURED", "PING", "PONG", "RUNTIME_ERROR", "REGISTRATION_FAILED"]

/-- The payload is this object, in which no key is repeated. -/
structure Holds (x : Wire) (ms : Payload) : Prop where
  object : x.payload = .obj ms
  nodup : (ms.map Prod.fst).Nodup

theorem Holds.get {x : Wire} {ms : Payload} (h : x.Holds ms) {key : String} {value : Json}
    (hmem : (key, value) ∈ ms) : Payload.get ms key = some value :=
  (Payload.get_eq_some_iff h.nodup).mpr hmem

theorem Holds.first {x : Wire} {ms : Payload} (h : x.Holds ms) {key : String} {value : Json}
    (hmem : (key, value) ∈ ms) : (ms.find? fun m => m.1 == key).map Prod.snd = some value :=
  (Payload.find?_eq_some_iff h.nodup).mpr hmem

/-- The type and the command of an order, and what its payload has. -/
inductive Bears (x : Wire) (ms : Payload) : Kind → Prop
  | ping : x.type = "HEARTBEAT" → x.command = "PING" → Bears x ms .ping
  | configure (socket : String) (topics : List String) :
      x.type = "CONFIG" → x.command = "CONFIGURE" →
      ("data_stream_socket", Json.str socket) ∈ ms → ("topics", Json.ofStrings topics) ∈ ms →
      Bears x ms .configure
  | reborn : x.type = "LIFECYCLE" → x.command = "REBORN" → Bears x ms .reborn
  | recoverableError (code message : String) : x.type = "ERROR" → x.command ∈ commands →
      ("code", Json.str code) ∈ ms → ("message", Json.str message) ∈ ms →
      ("recoverable", Json.bool true) ∈ ms → Bears x ms .recoverableError
  | shutdown : x.type = "LIFECYCLE" → x.command = "SHUTDOWN" → Bears x ms .shutdown

def Conveys (v : Json) (o : Order) : Prop :=
  ∃ (x : Wire) (ms payload : Payload), v = .obj ms ∧ x.Of ms ∧ x.Holds payload ∧
    x.messageId = o.id ∧ x.Bears payload o.kind

def Acks (v : Json) : Prop :=
  ∃ (x : Wire) (ms payload : Payload), v = .obj ms ∧ x.Of ms ∧ x.Holds payload ∧
    x.type = "CONTROL" ∧ x.command = "ACK"

def Registers (v : Json) : Prop :=
  ∃ (x : Wire) (ms payload : Payload) (id id' : String), v = .obj ms ∧ x.Of ms ∧ x.Holds payload ∧
    x.type = "LIFECYCLE" ∧ x.command = "REGISTERED" ∧
    ("component_id", Json.str id) ∈ payload ∧ ("session_id", Json.str id') ∈ payload

end Wire

/-- What is said after the first line, up to a closing notice. -/
def dialogueOf (lines : List Said) : List Said := (lines.drop 1).takeWhile fun s => !s.isNotice

def Closing (lines : List Said) : Prop := ∀ s, lines.head? = some s → s.isNotice = true

def readable (os : List Order) : List Order := os.takeWhile fun o => !o.isReborn

theorem closing_nil : Closing [] := by simp [Closing]

def Said.register : Said := ⟨"LIFECYCLE", "REGISTER", none, none⟩

def Said.notice : Said := ⟨"LIFECYCLE", "SHUTDOWN", none, none⟩

theorem closing_notice : Closing [.notice] := by
  rintro s ⟨⟩
  rfl

theorem dialogueOf_closing {register : Said} {lines tail : List Said}
    (hlines : ∀ s ∈ lines, s.isNotice = false) (htail : Closing tail) :
    dialogueOf (register :: (lines ++ tail)) = lines := by
  have hnone : tail.takeWhile (fun s => !s.isNotice) = [] := by
    cases tail with
    | nil => rfl
    | cons s tail =>
      have hs : s.isNotice = true := htail s rfl
      simp [hs]
  have hall : ∀ s ∈ lines, (!s.isNotice) = true := by
    intro s hs
    rw [hlines s hs]
    rfl
  show (lines ++ tail).takeWhile _ = lines
  rw [List.takeWhile_append_of_pos hall, hnone, List.append_nil]

/-- What a component that does not know REBORN says of orders, and a closing notice. -/
def Tells (state : String) (os : List Order) (out : List Said) : Prop :=
  ∃ tail, out = said false state os ++ tail ∧ Closing tail

section Tells

variable {state : String} {o : Order} {os : List Order} {out : List Said}

theorem tells_nil (h : Closing out) : Tells state [] out := ⟨out, rfl, h⟩

theorem tells_next (hs : o.isShutdown = false) (h : Tells (o.following state) os out) :
    Tells state (o :: os) (o.answers false state ++ out) := by
  obtain ⟨tail, rfl, htail⟩ := h
  refine ⟨tail, ?_, htail⟩
  rw [said_cons, hs, if_neg Bool.false_ne_true, List.append_assoc]

theorem tells_last (hs : o.isShutdown = true) (h : Closing out) :
    Tells state (o :: os) (o.answers false state ++ out) := by
  refine ⟨out, ?_, h⟩
  rw [said_cons, hs, if_pos rfl, List.append_nil]

theorem readable_reborn (hr : o.isReborn = true) : readable (o :: os) = [] := by
  simp [readable, hr]

theorem readable_cons (hr : o.isReborn = false) : readable (o :: os) = o :: readable os := by
  simp [readable, hr]

theorem dialogueOf_tells {register : Said} (first : List Said)
    (hfirst : ∀ s ∈ first, s.isNotice = false) (h : Tells state os out) :
    dialogueOf (register :: (first ++ out)) = first ++ said false state os := by
  obtain ⟨tail, rfl, htail⟩ := h
  have hlines : ∀ s ∈ first ++ said false state os, s.isNotice = false := by
    intro s hs
    rcases List.mem_append.mp hs with hs | hs
    · exact hfirst s hs
    · exact said_isNotice s hs
  rw [← List.append_assoc]
  exact dialogueOf_closing hlines htail

end Tells

/-- The orders before the first CONFIGURE, up to the first SHUTDOWN. -/
def early (os : List Order) : List Order :=
  (upTo Order.isShutdown os).takeWhile fun o => decide (o.kind ≠ .configure)

theorem said_readable {state : String} {os : List Order}
    (h : ∀ o ∈ upTo Order.isShutdown os, o.isReborn = false) :
    said false state (readable os) = said false state os := by
  induction os generalizing state with
  | nil => rfl
  | cons o os ih =>
    rw [upTo] at h
    obtain ⟨ho, hos⟩ := List.forall_mem_cons.mp h
    rw [readable_cons ho, said_cons, said_cons]
    cases hs : o.isShutdown with
    | true => rfl
    | false =>
      rw [hs] at hos
      rw [if_neg Bool.false_ne_true, if_neg Bool.false_ne_true, ih hos]

theorem said_state_iff {knowsReborn : Bool} {state state' : String} (hne : state ≠ state')
    (os : List Order) :
    said knowsReborn state os = said knowsReborn state' os ↔ ∀ o ∈ early os, o.kind ≠ .ping := by
  induction os with
  | nil => simp [early, upTo, said, dialogue]
  | cons o os ih =>
    obtain ⟨kind, id⟩ := o
    rw [said_cons, said_cons]
    cases kind with
    | ping =>
      have hpong : Said.pong state id ≠ Said.pong state' id := by
        intro h
        exact hne (by simpa [Said.pong] using h)
      have hearly : (⟨.ping, id⟩ : Order) ∈ early (⟨.ping, id⟩ :: os) := by simp [early, upTo]
      constructor
      · intro h
        exact absurd (List.cons.inj h).1 hpong
      · intro h
        exact absurd rfl (h _ hearly)
    | configure =>
      have hearly : early (⟨.configure, id⟩ :: os) = [] := by simp [early, upTo]
      simp [hearly, Order.answers, Order.following]
    | shutdown =>
      have hearly : early (⟨.shutdown, id⟩ :: os) = [⟨.shutdown, id⟩] := by
        simp [early, upTo, Order.isShutdown]
      simp [hearly, Order.answers, Order.isShutdown]
    | reborn =>
      have hearly : early (⟨.reborn, id⟩ :: os) = ⟨.reborn, id⟩ :: early os := by
        simp [early, upTo, Order.isShutdown]
      simp [hearly, Order.answers, Order.isShutdown, Order.following, ih]
    | recoverableError =>
      have hearly : early (⟨.recoverableError, id⟩ :: os) =
          ⟨.recoverableError, id⟩ :: early os := by
        simp [early, upTo, Order.isShutdown]
      simp [hearly, Order.answers, Order.isShutdown, Order.following, ih]

/-- What a component says that knows REBORN, one that does not and is READY, and one that does
not read it and is REGISTERED: it is the same exactly if there is no REBORN up to the first
SHUTDOWN, and no PING before the first CONFIGURE. -/
theorem said_alike_iff (os : List Order) :
    (said true "READY" os = said false "READY" os ∧
      said false "READY" os = said false "REGISTERED" (readable os)) ↔
      (∀ o ∈ upTo Order.isShutdown os, o.isReborn = false) ∧
        ∀ o ∈ early os, o.kind ≠ .ping := by
  have hne : "READY" ≠ "REGISTERED" := by decide
  rw [said_eq_iff]
  constructor
  · rintro ⟨hreborn, hstate⟩
    rw [said_readable hreborn] at hstate
    exact ⟨hreborn, (said_state_iff hne os).mp hstate⟩
  · rintro ⟨hreborn, hping⟩
    refine ⟨hreborn, ?_⟩
    rw [said_readable hreborn]
    exact (said_state_iff hne os).mpr hping

theorem forall₂_split {α β : Type} {R : α → β → Prop} {l : List α} {l₁ l₂ : List β}
    (h : List.Forall₂ R l (l₁ ++ l₂)) :
    ∃ m₁ m₂, l = m₁ ++ m₂ ∧ List.Forall₂ R m₁ l₁ ∧ List.Forall₂ R m₂ l₂ :=
  ⟨_, _, (List.take_append_drop l₁.length l).symm, List.forall₂_take_append l l₁ l₂ h,
    List.forall₂_drop_append l l₁ l₂ h⟩

end AegisSdk.Protocol
