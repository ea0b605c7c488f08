import AegisSdk.Protocol.Json

/-!
What a JSON library makes of a value: a number is held as well as the types of the language
allow. A value whose numbers are held as they are, and in which no object repeats a key, is the
same to every library.
-/

set_option autoImplicit false
set_option relaxedAutoImplicit false

namespace AegisSdk.Protocol

mutual

/-- The value with its numbers as a library holds them; `number` gives what is held for a
literal, as a literal again, unless the library refuses the text. -/
def Json.hold (number : String → Option String) : Json → Option Json
  | .num literal => (number literal).map .num
  | .arr items => (holdItems number items).map .arr
  | .obj members => (holdMembers number members).map .obj
  | v => some v

def holdItems (number : String → Option String) : List Json → Option (List Json)
  | [] => some []
  | v :: items => do
    let v ← v.hold number
    let items ← holdItems number items
    return v :: items

def holdMembers (number : String → Option String) :
    List (String × Json) → Option (List (String × Json))
  | [] => some []
  | (key, v) :: members => do
    let v ← v.hold number
    let members ← holdMembers number members
    return (key, v) :: members

end

mutual

def Json.plain (kept : String → Bool) : Json → Bool
  | .num literal => kept literal
  | .arr items => plainItems kept items
  | .obj members => decide (members.map Prod.fst).Nodup && plainMembers kept members
  | _ => true

def plainItems (kept : String → Bool) : List Json → Bool
  | [] => true
  | v :: items => v.plain kept && plainItems kept items

def plainMembers (kept : String → Bool) : List (String × Json) → Bool
  | [] => true
  | m :: members => m.2.plain kept && plainMembers kept members

end

section Plain

variable {kept : String → Bool} {number : String → Option String}

theorem plain_obj {members : Payload} : (Json.obj members).plain kept = true ↔
    (members.map Prod.fst).Nodup ∧ plainMembers kept members = true := by
  rw [Json.plain, Bool.and_eq_true, decide_eq_true_iff]

theorem plainMembers_iff {members : Payload} :
    plainMembers kept members = true ↔ ∀ m ∈ members, m.2.plain kept = true := by
  induction members with
  | nil => simp [plainMembers]
  | cons m members ih => simp [plainMembers, ih]

theorem plain_ofStrings (ss : List String) : (Json.ofStrings ss).plain kept = true := by
  show plainItems kept (ss.map Json.str) = true
  induction ss with
  | nil => rfl
  | cons s ss ih => exact ih

/-- A library with this `number` holds the numbers that are `kept` as they are. -/
def Keeps (number : String → Option String) (kept : String → Bool) : Prop :=
  ∀ literal, kept literal = true → number literal = some literal

mutual

/-- A library that holds the numbers as they are holds the value as it is. -/
theorem hold_of_plain (h : Keeps number kept) :
    ∀ v : Json, v.plain kept = true → v.hold number = some v
  | .num literal, hv => by rw [Json.hold, h literal hv, Option.map_some]
  | .arr items, hv => by rw [Json.hold, holdItems_of_plain h items hv, Option.map_some]
  | .obj members, hv => by
    rw [Json.hold, holdMembers_of_plain h members (plain_obj.mp hv).2, Option.map_some]
  | .null, _ | .bool _, _ | .str _, _ => rfl

theorem holdItems_of_plain (h : Keeps number kept) :
    ∀ items : List Json, plainItems kept items = true → holdItems number items = some items
  | [], _ => rfl
  | v :: items, hv => by
    obtain ⟨hfirst, hrest⟩ := Bool.and_eq_true_iff.mp hv
    rw [holdItems, hold_of_plain h v hfirst, holdItems_of_plain h items hrest]
    rfl

theorem holdMembers_of_plain (h : Keeps number kept) : ∀ members : List (String × Json),
    plainMembers kept members = true → holdMembers number members = some members
  | [], _ => rfl
  | (key, v) :: members, hv => by
    obtain ⟨hfirst, hrest⟩ := Bool.and_eq_true_iff.mp hv
    rw [holdMembers, hold_of_plain h v hfirst, holdMembers_of_plain h members hrest]
    rfl

end

end Plain

section Hold

variable {number : String → Option String} {members held : Payload}

theorem holdMembers_cons {key : String} {v : Json} :
    holdMembers number ((key, v) :: members) = some held ↔
      ∃ w rest, v.hold number = some w ∧ holdMembers number members = some rest ∧
        held = (key, w) :: rest := by
  simp only [holdMembers, Option.bind_eq_bind, Option.bind_eq_some_iff, Option.pure_def,
    Option.some_inj]
  constructor
  · rintro ⟨w, hw, rest, hrest, rfl⟩
    exact ⟨w, rest, hw, hrest, rfl⟩
  · rintro ⟨w, rest, hw, hrest, rfl⟩
    exact ⟨w, hw, rest, hrest, rfl⟩

theorem keys_of_hold (h : holdMembers number members = some held) :
    held.map Prod.fst = members.map Prod.fst := by
  induction members generalizing held with
  | nil =>
    obtain rfl := Option.some.inj h
    rfl
  | cons m members ih =>
    obtain ⟨w, rest, -, hrest, rfl⟩ := holdMembers_cons.mp h
    rw [List.map_cons, List.map_cons, ih hrest]

theorem mem_of_hold (h : holdMembers number members = some held) {key : String} {v : Json}
    (hmem : (key, v) ∈ members) : ∃ w, v.hold number = some w ∧ (key, w) ∈ held := by
  induction members generalizing held with
  | nil => cases hmem
  | cons m members ih =>
    obtain ⟨w, rest, hw, hrest, rfl⟩ := holdMembers_cons.mp h
    rcases List.mem_cons.mp hmem with rfl | hmem
    · exact ⟨w, hw, List.mem_cons_self⟩
    · obtain ⟨w', hw', hin⟩ := ih hrest hmem
      exact ⟨w', hw', List.mem_cons_of_mem _ hin⟩

end Hold

end AegisSdk.Protocol
