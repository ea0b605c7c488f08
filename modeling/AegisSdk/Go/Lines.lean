import AegisSdk.Go.Component
import AegisSdk.Utterances

/-!
The lines of a run: whatever happens, each of them is a message of a component, and the state
of the component is always one that the protocol names.
-/

set_option autoImplicit false
set_option relaxedAutoImplicit false

namespace AegisSdk.Go

open AegisSdk.Protocol AegisSdk.Library AegisSdk.Library.Output

def Event.line : Event → Option Envelope
  | .send env _ => some env
  | _ => none

def lines : Output World Event Wire where
  trace := World.trace
  view e := e.line.map Envelope.toWire

def World.Known (w : World) : Prop := w.component.state ∈ Wire.states

/-- Only messages of a component are written, and the state has a known name. -/
def Speaks {α : Type} (kept : String → Bool) (x : Task α) : Prop :=
  lines.Only World.Known (Wire.Uttered kept) x

section Lines

variable {rt : Runtime} {cfg : Config} {handlers : Handlers} {kept : String → Bool} {α β : Type}

theorem Speaks.bind {x : Task α} {f : α → Task β} (hx : Speaks kept x)
    (hf : ∀ a, Speaks kept (f a)) : Speaks kept (x >>= f) :=
  Only.bind hx hf

theorem Speaks.ignore {x : Task Unit} (h : Speaks kept x) : Speaks kept (Library.ignore x) :=
  Only.ignore h

theorem Speaks.errorf {x : Task α} (h : Speaks kept x) (text : String) :
    Speaks kept (errorf text x) :=
  Only.mapError h

theorem speaks_pure (a : α) : Speaks kept (pure a : Task α) := Only.pure a

theorem speaks_emit {e : Event} (h : e.line = none) : Speaks kept (emit e) :=
  Only.log (fun _ => rfl) (congrArg (Option.map Envelope.toWire) h) fun _ h => h

theorem registration : Wire.Registration kept (registerPayload cfg) := by
  have strings : ∀ ss : Option (List String), (stringsJson ss).plain kept = true := by
    intro ss
    cases ss with
    | none => rfl
    | some ss => exact plain_ofStrings ss
  exact Wire.registration (by simp [registerPayload, Payload.insert])
    (plain_obj.mpr ⟨by simp, by simp [plainMembers, strings]⟩)
    (by simp [registerPayload, Payload.insert]) (.head _)
    (.tail _ (.head _)) (.tail _ (.tail _ (.tail _ (.head _))))
    (.tail _ (.tail _ (.tail _ (.tail _ (.head _)))))

theorem Speaks.deferClose {x : Task Unit} (h : Speaks kept x) :
    Speaks kept (deferClose x) := by
  intro w hw
  have after := h w hw
  have hheard : ∀ w' : World, lines.heard { w' with trace := w'.trace ++ [.close] } =
      lines.heard w' := fun _ => heard_silent (e := Event.close) rfl rfl
  unfold Go.deferClose
  cases hx : x w with
  | ok a w' =>
    rw [hx] at after
    exact ⟨after.1, (hheard w').symm ▸ after.2⟩
  | error err w' =>
    rw [hx] at after
    exact ⟨after.1, (hheard w').symm ▸ after.2⟩

variable (hkept : ∀ n, kept (toString (rt.uptime n)) = true)
include hkept

def World.Spoke (kept : String → Bool) (w : World) : Prop :=
  w.Known ∧ ∀ x ∈ lines.heard w, Wire.Uttered kept x

end Lines

end AegisSdk.Go
