import AegisSdk.Cpp.Client
import AegisSdk.Utterances

/-!
The lines of a run: whatever happens and whatever other threads do, each of them is a message of
a component.
-/

set_option autoImplicit false
set_option relaxedAutoImplicit false

namespace AegisSdk.Cpp

open AegisSdk.Protocol AegisSdk.Library AegisSdk.Library.Output

def Event.line : Event → Option Envelope
  | .write env _ => some env
  | _ => none

def lines : Output World Event Wire where
  trace := World.trace
  view e := e.line.map Envelope.toWire

def Speaks {α : Type} (kept : String → Bool) (x : Task α) : Prop :=
  lines.Only (fun _ => True) (Wire.Uttered kept) x

section Lines

variable {rt : Runtime} {cfg : Config} {th : Threads} {kept : String → Bool} {α β : Type}

theorem heard_stop (w : World) (step : StopStep) : lines.heard (w.stop step) = lines.heard w := by
  cases step with
  | clear => exact heard_silent (e := Event.stopClears) rfl rfl
  | request =>
    rw [World.stop]
    split
    · rfl
    · exact heard_silent (e := Event.stopRequests w.source) rfl rfl

theorem heard_interfere (th : Threads) (w : World) :
    lines.heard (w.interfere th) = lines.heard w := by
  unfold World.interfere
  induction th.stops w.steps generalizing w with
  | nil => rfl
  | cons step steps ih =>
    rw [List.foldl_cons, ih, heard_stop]

theorem heard_act (th : Threads) (w : World) (e : Event) :
    lines.heard (w.act th e) = lines.heard w ++ (lines.view e).toList := by
  rw [← heard_interfere th w]
  exact heard_record rfl

theorem heard_act_silent {e : Event} (h : e.line = none) (th : Threads) (w : World) :
    lines.heard (w.act th e) = lines.heard w := by
  have hview : lines.view e = none := congrArg (Option.map Envelope.toWire) h
  rw [heard_act, hview, Option.toList_none, List.append_nil]

theorem Speaks.bind {x : Task α} {f : α → Task β} (hx : Speaks kept x)
    (hf : ∀ a, Speaks kept (f a)) : Speaks kept (x >>= f) :=
  Only.bind hx hf

theorem speaks_pure (a : α) : Speaks kept (pure a : Task α) := Only.pure a

theorem speaks_emit {e : Event} (h : e.line = none) : Speaks kept (emit th e) :=
  Only.update (heard_act_silent h th) fun _ h => h

theorem speaks_modify {f : World → World} (h : ∀ w, (f w).trace = w.trace) :
    Speaks kept (modify f : Task Unit) :=
  Only.update (fun w => heard_same (h w)) fun _ h => h

theorem source_cfg : ∃ name, source cfg = "component:" ++ name := ⟨cfg.componentName, rfl⟩

theorem uttered_register (stamp : Stamp) :
    Wire.Uttered kept
      (Envelope.make stamp .lifecycle .register (source cfg) (registerPayload cfg)).toWire :=
  Wire.uttered_register source_cfg (Wire.registration_plain _ _ _ _ _ _)

variable (hkept : ∀ n, kept (ToString.toString (rt.uptime n)) = true)
include hkept

def World.Spoke (kept : String → Bool) (w : World) : Prop :=
  ∀ x ∈ lines.heard w, Wire.Uttered kept x

omit hkept in
theorem World.Spoke.act {w : World} (h : w.Spoke kept) {e : Event} (he : e.line = none) :
    (w.act th e).Spoke kept := by
  rw [World.Spoke, heard_act_silent he]
  exact h

end Lines

end AegisSdk.Cpp
