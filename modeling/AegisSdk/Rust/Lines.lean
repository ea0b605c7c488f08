import AegisSdk.Rust.Reaction
import AegisSdk.Utterances

/-!
The lines of a run: whatever happens, each of them is a message of a component.
-/

set_option autoImplicit false
set_option relaxedAutoImplicit false

namespace AegisSdk.Rust

open AegisSdk.Protocol AegisSdk.Library AegisSdk.Library.Output

def Event.line : Event → Option Envelope
  | .write env | .writeFailed env => some env
  | _ => none

def lines : Output World Event Wire where
  trace := World.trace
  view e := e.line.map Envelope.toWire

def Speaks {α : Type} (kept : String → Bool) (x : Task α) : Prop :=
  lines.Only (fun _ => True) (Wire.Uttered kept) x

section Lines

variable {rt : Runtime} {cfg : Config} {kept : String → Bool} {α β : Type}

theorem Speaks.bind {x : Task α} {f : α → Task β} (hx : Speaks kept x)
    (hf : ∀ a, Speaks kept (f a)) : Speaks kept (x >>= f) :=
  Only.bind hx hf

theorem speaks_pure (a : α) : Speaks kept (pure a : Task α) := Only.pure a

theorem speaks_emit {e : Event} (h : e.line = none) : Speaks kept (emit e) :=
  Only.log (fun _ => rfl) (congrArg (Option.map Envelope.toWire) h) fun _ h => h

theorem speaks_modify {f : World → World} (h : ∀ w, (f w).trace = w.trace) :
    Speaks kept (modify f : Task Unit) :=
  Only.update (fun w => heard_same (h w)) fun _ h => h

theorem source_cfg : ∃ name, source cfg = "component:" ++ name := ⟨cfg.componentName, rfl⟩

theorem registerPayload_eq (componentId : String) :
    registerPayload cfg componentId = [
      ("session_token", .str cfg.sessionToken),
      ("component_name", .str cfg.componentName),
      ("version", .str cfg.version)] ++
      (if componentId.isEmpty then [] else [("component_id", .str componentId)]) ++
      [("capabilities", .obj (Wire.capabilities cfg.supportedSymbols cfg.supportedTimeframes
        cfg.requiresStreams))] := by
  unfold registerPayload
  cases componentId.isEmpty <;> rfl

theorem registration (componentId : String) :
    Wire.Registration kept (registerPayload cfg componentId) := by
  rw [registerPayload_eq]
  split
  · exact Wire.registration_plain _ _ _ _ _ _
  · exact Wire.registration (by simp) (Wire.plain_capabilities _ _ _) (by simp) (.head _)
      (.tail _ (.head _)) (.tail _ (.tail _ (.head _)))
      (.tail _ (.tail _ (.tail _ (.tail _ (.head _)))))

variable (hkept : ∀ n, kept (toString (rt.elapsedSecs n)) = true)
include hkept

def World.Spoke (kept : String → Bool) (w : World) : Prop :=
  ∀ x ∈ lines.heard w, Wire.Uttered kept x

omit hkept in
theorem World.Spoke.sleep {w : World} (h : w.Spoke kept) (delay : Duration) :
    World.Spoke kept { w with trace := w.trace ++ [.sleep delay] } := by
  have hheard : lines.heard { w with trace := w.trace ++ [.sleep delay] } = lines.heard w :=
    heard_silent (e := Event.sleep delay) rfl rfl
  rw [World.Spoke, hheard]
  exact h

end Lines

end AegisSdk.Rust
