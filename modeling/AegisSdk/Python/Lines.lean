import AegisSdk.Python.Client
import AegisSdk.Utterances

/-!
The lines of a run: whatever happens, each of them is a message of a component but for its
correlation id, which is whatever the message that it answers has for an id.
-/

set_option autoImplicit false
set_option relaxedAutoImplicit false

namespace AegisSdk.Python

open AegisSdk.Protocol AegisSdk.Library AegisSdk.Library.Output

/-- An envelope that is a message of a component if its correlation id is a string or null. -/
inductive Uttered (kept : String → Bool) : Json → Prop
  | envelope (stamp : Stamp) (t : MessageType) (c : Command) (source : String) (payload : Payload)
      (correlationId : Json) :
      (∀ id, correlationId = Wire.optional id → Wire.Uttered kept
        (Wire.sent protocolVersion stamp.messageId stamp.timestamp source id t.value c.value
          payload)) →
      Uttered kept (newEnvelope stamp t c source (.obj payload) correlationId)

def Event.line : Event → Option Json
  | .write envelope _ => some envelope
  | _ => none

def lines : Output World Event Json where
  trace := World.trace
  view := Event.line

def Speaks {α : Type} (kept : String → Bool) (x : Task α) : Prop :=
  lines.Only (fun _ => True) (Uttered kept) x

section Lines

variable {rt : Runtime} {cfg : Config} {kept : String → Bool} {α β : Type}

theorem Speaks.bind {x : Task α} {f : α → Task β} (hx : Speaks kept x)
    (hf : ∀ a, Speaks kept (f a)) : Speaks kept (x >>= f) :=
  Only.bind hx hf

theorem speaks_pure (a : α) : Speaks kept (pure a : Task α) := Only.pure a

theorem speaks_emit {e : Event} (h : e.line = none) : Speaks kept (emit e) :=
  Only.log (fun _ => rfl) h fun _ h => h

theorem speaks_modify {f : World → World} (h : ∀ w, (f w).trace = w.trace) :
    Speaks kept (modify f : Task Unit) :=
  Only.update (fun w => heard_same (h w)) fun _ h => h

theorem source_cfg : ∃ name, source cfg = "component:" ++ name := ⟨cfg.componentName, rfl⟩

theorem none_of_null {id : Option String} (h : Json.null = Wire.optional id) : id = none := by
  cases id with
  | none => rfl
  | some id => cases h

theorem registerPayload_eq (kept : String → Bool) (cfg : Config) :
    ∃ payload, registerPayload cfg = .obj payload ∧ Wire.Registration kept payload := by
  unfold registerPayload
  split
  · exact ⟨_, rfl, Wire.registration_plain _ _ _ _ _ _⟩
  · refine ⟨_, rfl, ?_⟩
    exact Wire.registration (by simp) (Wire.plain_capabilities _ _ _) (by simp [Wire.capabilities])
      (.head _) (.tail _ (.head _)) (.tail _ (.tail _ (.head _)))
      (.tail _ (.tail _ (.tail _ (.head _))))

theorem uttered_register (stamp : Stamp) :
    Uttered kept
      (newEnvelope stamp .lifecycle .register (source cfg) (registerPayload cfg) .null) := by
  obtain ⟨payload, hpayload, hregistration⟩ := registerPayload_eq kept cfg
  rw [hpayload]
  refine .envelope _ _ _ _ _ _ fun id hid => ?_
  rw [none_of_null hid]
  exact Wire.uttered_register source_cfg hregistration

theorem speaks_stopRunning : Speaks kept stopRunning := speaks_modify fun _ => rfl

theorem speaks_closeConnection : Speaks kept closeConnection := by
  refine Only.get fun w _ => ?_
  split
  · exact Speaks.bind (speaks_emit rfl) fun _ => speaks_modify fun _ => rfl
  · exact speaks_pure ()

variable (hkept : ∀ n, kept (toString (rt.uptime n)) = true)
include hkept

def World.Spoke (kept : String → Bool) (w : World) : Prop :=
  ∀ v ∈ lines.heard w, Uttered kept v

omit hkept in
theorem World.Spoke.leave {w : World} (h : w.Spoke kept) : w.leave.Spoke kept := by
  have left : Speaks kept (do stopRunning; closeConnection : Task Unit) :=
    speaks_stopRunning.bind fun _ => speaks_closeConnection
  exact (left w ⟨trivial, h⟩).2

end Lines

end AegisSdk.Python
