import AegisSdk.Library.Task

/-!
Two runs of tasks side by side, from states that are related. They are coupled if they end the
same way, with related results or with the same error, and in related states.
-/

set_option autoImplicit false
set_option relaxedAutoImplicit false

namespace AegisSdk.Library

variable {ε σ α β α' β' : Type}

inductive Together (R : σ → σ → Prop) (Q : α → β → Prop) :
    EStateM.Result ε σ α → EStateM.Result ε σ β → Prop
  | ok {a : α} {b : β} {s t : σ} : Q a b → R s t → Together R Q (.ok a s) (.ok b t)
  | error {e : ε} {s t : σ} : R s t → Together R Q (.error e s) (.error e t)

def Coupled (R : σ → σ → Prop) (Q : α → β → Prop) (x : EStateM ε σ α) (y : EStateM ε σ β) : Prop :=
  ∀ s t, R s t → Together R Q (x s) (y t)

namespace Coupled

variable {R : σ → σ → Prop} {Q Q' : α → β → Prop} {Q₂ : α' → β' → Prop} {x : EStateM ε σ α}
  {y : EStateM ε σ β} {f : α → EStateM ε σ α'} {g : β → EStateM ε σ β'}

theorem pure {a : α} {b : β} (h : Q a b) :
    Coupled R Q (Pure.pure a : EStateM ε σ α) (Pure.pure b) :=
  fun _ _ hR => .ok h hR

theorem throw (e : ε) :
    Coupled R Q (MonadExcept.throw e : EStateM ε σ α) (MonadExcept.throw e) :=
  fun _ _ hR => .error hR

theorem get : Coupled R R (MonadState.get : EStateM ε σ σ) MonadState.get :=
  fun _ _ hR => .ok hR hR

theorem set {s t : σ} {Q : PUnit → PUnit → Prop} (hR : R s t) (hQ : Q ⟨⟩ ⟨⟩) :
    Coupled R Q (MonadStateOf.set s : EStateM ε σ PUnit) (MonadStateOf.set t) :=
  fun _ _ _ => .ok hQ hR

theorem update {f : σ → σ} {g : σ → σ} {Q : PUnit → PUnit → Prop}
    (hR : ∀ s t, R s t → R (f s) (g t)) (hQ : Q ⟨⟩ ⟨⟩) :
    Coupled R Q (modify f : EStateM ε σ PUnit) (modify g) :=
  fun s t h => .ok hQ (hR s t h)

theorem bind (hx : Coupled R Q x y) (hf : ∀ a b, Q a b → Coupled R Q₂ (f a) (g b)) :
    Coupled R Q₂ (x >>= f) (y >>= g) := by
  intro s t hR
  have ends := hx s t hR
  cases hxs : x s with
  | ok a s' =>
    rw [hxs] at ends
    cases hyt : y t with
    | ok b t' =>
      rw [hyt] at ends
      obtain ⟨hQ, hR'⟩ := ends
      rw [bind_ok hxs, bind_ok hyt]
      exact hf a b hQ s' t' hR'
    | error e t' =>
      rw [hyt] at ends
      cases ends
  | error e s' =>
    rw [hxs] at ends
    cases hyt : y t with
    | ok b t' =>
      rw [hyt] at ends
      cases ends
    | error e' t' =>
      rw [hyt] at ends
      obtain - | hR' := ends
      rw [bind_error hxs, bind_error hyt]
      exact .error hR'

theorem weaken (hx : Coupled R Q x y) (h : ∀ a b, Q a b → Q' a b) : Coupled R Q' x y := by
  intro s t hR
  have ends := hx s t hR
  cases hxs : x s <;> cases hyt : y t <;> rw [hxs, hyt] at ends <;> cases ends
  case ok.ok.ok hQ hR' => exact .ok (h _ _ hQ) hR'
  case error.error.error hR' => exact .error hR'

end Coupled

end AegisSdk.Library
