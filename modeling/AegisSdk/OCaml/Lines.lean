import AegisSdk.OCaml.Client
import AegisSdk.Utterances

/-!
The lines of a run: whatever happens, each of them is a message of a component.
-/

set_option autoImplicit false
set_option relaxedAutoImplicit false

namespace AegisSdk.OCaml

open AegisSdk.Protocol AegisSdk.Library AegisSdk.Library.Output

def Event.line : Event → Option Envelope
  | .write env _ => some env
  | _ => none

def lines : Output World Event Wire where
  trace := World.trace
  view e := e.line.map Envelope.toWire

def Speaks {α : Type} (kept : String → Bool) (x : Task α) : Prop :=
  lines.Only (fun _ => True) (Wire.Uttered kept) x

section Lines

variable {rt : Runtime} {cfg : Config} {handlers : Handlers} {kept : String → Bool} {α β : Type}

theorem Speaks.bind {x : Task α} {f : α → Task β} (hx : Speaks kept x)
    (hf : ∀ a, Speaks kept (f a)) : Speaks kept (x >>= f) :=
  Only.bind hx hf

theorem speaks_pure (a : α) : Speaks kept (pure a : Task α) := Only.pure a

theorem speaks_emit {e : Event} (h : e.line = none) : Speaks kept (emit e) :=
  Only.log (fun _ => rfl) (congrArg (Option.map Envelope.toWire) h) fun _ h => h

theorem speaks_modify {f : World → World} (h : ∀ w, (f w).trace = w.trace) :
    Speaks kept (modify f : Task Unit) :=
  Only.update (fun w => heard_same (h w)) fun _ h => h

theorem Speaks.protect {x : Task Unit} (h : Speaks kept x) {e : Event} (he : e.line = none) :
    Speaks kept (protect e x) := by
  intro w hw
  have after := h w hw
  have hheard : ∀ w' : World, lines.heard { w' with trace := w'.trace ++ [e] } =
      lines.heard w' := fun _ => heard_silent rfl (congrArg (Option.map Envelope.toWire) he)
  unfold OCaml.protect
  cases hx : x w with
  | ok a w' =>
    rw [hx] at after
    exact ⟨trivial, (hheard w').symm ▸ after.2⟩
  | error exn w' =>
    rw [hx] at after
    exact ⟨trivial, (hheard w').symm ▸ after.2⟩

theorem source_cfg : ∃ name, source cfg = "component:" ++ name := ⟨cfg.componentName, rfl⟩

theorem uttered_register (stamp : Stamp) :
    Wire.Uttered kept
      (makeEnvelope stamp .lifecycle .register (source cfg) (registerPayload cfg)).toWire :=
  Wire.uttered_register source_cfg (Wire.registration_plain _ _ _ _ _ _)

variable (hkept : ∀ n, kept (ToString.toString (rt.uptime n)) = true)
include hkept

def World.Spoke (kept : String → Bool) (w : World) : Prop :=
  ∀ x ∈ lines.heard w, Wire.Uttered kept x

end Lines

end AegisSdk.OCaml
