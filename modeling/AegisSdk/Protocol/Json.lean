import Mathlib.Data.List.Nodup

/-!
The JSON values the SDKs exchange with the daemon. An object keeps its members
in the order of the text, repeated keys included, because the decoders of the
five languages treat repetitions differently. Strings are sequences of Unicode
scalar values, without the lone surrogates that Python knows.
-/

set_option autoImplicit false
set_option relaxedAutoImplicit false

namespace AegisSdk.Protocol

inductive Json where
  | null
  | bool (b : Bool)
  | num (literal : String)
  | str (s : String)
  | arr (items : List Json)
  | obj (members : List (String × Json))
  deriving Repr

abbrev Payload := List (String × Json)

namespace Json

def asStr : Json → Option String
  | .str s => some s
  | _ => none

def asBool : Json → Option Bool
  | .bool b => some b
  | _ => none

def asArray : Json → Option (List Json)
  | .arr items => some items
  | _ => none

def strings (items : List Json) : List String := items.filterMap asStr

def ofStrings (ss : List String) : Json := .arr (ss.map .str)

@[simp] theorem asStr_str (s : String) : asStr (.str s) = some s := rfl

end Json

namespace Payload

/-- A map built from the members in order keeps the last value of a repeated key. -/
def get (payload : Payload) (key : String) : Option Json :=
  (payload.reverse.find? (fun m => m.1 == key)).map Prod.snd

def insert (payload : Payload) (key : String) (value : Json) : Payload :=
  payload ++ [(key, value)]

@[simp] theorem get_nil (key : String) : get [] key = none := rfl

@[simp] theorem get_insert (payload : Payload) (key key' : String) (value : Json) :
    get (insert payload key value) key' =
      if key = key' then some value else get payload key' := by
  by_cases h : key = key' <;> simp [get, insert, h]

theorem find?_eq_some_iff {payload : Payload} (h : (payload.map Prod.fst).Nodup) {key : String}
    {value : Json} :
    (payload.find? fun m => m.1 == key).map Prod.snd = some value ↔ (key, value) ∈ payload := by
  induction payload with
  | nil => simp
  | cons m payload ih =>
    obtain ⟨k, v⟩ := m
    obtain ⟨hk, hnodup⟩ := List.nodup_cons.mp h
    by_cases heq : k = key
    · subst heq
      have hnot : (k, value) ∉ payload := fun hm =>
        hk (List.mem_map.mpr ⟨_, hm, rfl⟩)
      simp [hnot, eq_comm]
    · have hne : ¬ key = k := fun h => heq h.symm
      simp [heq, hne, ih hnodup]

theorem get_eq_some_iff {payload : Payload} (h : (payload.map Prod.fst).Nodup) {key : String}
    {value : Json} : get payload key = some value ↔ (key, value) ∈ payload := by
  have hrev : (payload.reverse.map Prod.fst).Nodup := by
    rw [List.map_reverse]
    exact List.nodup_reverse.mpr h
  rw [get, find?_eq_some_iff hrev, List.mem_reverse]

theorem get_filter (payload : Payload) {key : String} {p : String × Json → Bool}
    (h : ∀ m, m.1 = key → p m = true) : get (payload.filter p) key = get payload key := by
  have same : (fun m => decide (p m = true ∧ (m.1 == key) = true)) =
      fun m : String × Json => m.1 == key := by
    funext m
    by_cases hm : m.1 = key <;> simp [hm, h m]
  rw [get, get, ← List.filter_reverse, List.find?_filter, same]

end Payload
mutual

/-- The text of a value whose strings hold no character that a text has to escape. -/
def Json.text : Json → String
  | .null => "null"
  | .bool b => if b then "true" else "false"
  | .num literal => literal
  | .str s => "\"" ++ s ++ "\""
  | .arr items => "[" ++ itemsText items ++ "]"
  | .obj members => "\x7b" ++ membersText members ++ "\x7d"

def itemsText : List Json → String
  | [] => ""
  | [v] => v.text
  | v :: w :: rest => v.text ++ "," ++ itemsText (w :: rest)

def membersText : List (String × Json) → String
  | [] => ""
  | [(key, v)] => "\"" ++ key ++ "\":" ++ v.text
  | (key, v) :: m :: rest => "\"" ++ key ++ "\":" ++ v.text ++ "," ++ membersText (m :: rest)

end

namespace Daemon

def message (id type command : String) (payload : Json) : Json :=
  .obj [("protocol_version", .str "0.1"), ("message_id", .str id), ("correlation_id", .null),
    ("timestamp", .str "t"), ("source", .str "aegis"), ("target", .str "component:c"),
    ("type", .str type), ("command", .str command), ("payload", payload)]

def line (v : Json) : List UInt8 := v.text.toByteArray.data.toList

def parse (values : List Json) (bytes : List UInt8) : Option Json :=
  values.find? fun v => line v == bytes

def registered : Json := message "m1" "LIFECYCLE" "REGISTERED"
  (.obj [("component_id", .str "c1"), ("session_id", .str "s1")])
def configure : Json := message "m2" "CONFIG" "CONFIGURE"
  (.obj [("data_stream_socket", .str "data.sock"), ("topics", .arr [.str "klines"])])
def shutdown : Json := message "m3" "LIFECYCLE" "SHUTDOWN" (.obj [])

end Daemon

end AegisSdk.Protocol
