/-!
Tasks that fail with an error and keep the state they reached. `bind_ok` and
`bind_error` run a sequence up to its next effect; `ignore` drops an error. `Keeps` says
which part of the state a task never touches and which errors it may end with.
-/

set_option autoImplicit false
set_option relaxedAutoImplicit false

namespace AegisSdk.Library

variable {ε σ α β : Type} {x : EStateM ε σ α} {f : α → EStateM ε σ β} {s s' : σ}

theorem bind_ok {a : α} (h : x s = .ok a s') : (x >>= f) s = f a s' := by
  simp only [bind, EStateM.bind, h]

theorem bind_error {e : ε} (h : x s = .error e s') : (x >>= f) s = .error e s' := by
  simp only [bind, EStateM.bind, h]

theorem bind_eq_ok {b : β} :
    (x >>= f) s = .ok b s' ↔ ∃ a s₁, x s = .ok a s₁ ∧ f a s₁ = .ok b s' := by
  cases h : x s with
  | ok a s₁ =>
    rw [bind_ok h]
    constructor
    · intro hf
      exact ⟨a, s₁, rfl, hf⟩
    · rintro ⟨a', s', heq, hf⟩
      cases heq
      exact hf
  | error e s₁ => simp [bind_error h]

theorem except_bind_eq_ok {x : Except ε α} {f : α → Except ε β} {b : β} :
    (x >>= f) = .ok b ↔ ∃ a, x = .ok a ∧ f a = .ok b := by
  cases x with
  | error e => simp [bind, Except.bind]
  | ok a => simp [bind, Except.bind]

def final : EStateM.Result ε σ α → σ
  | .ok _ s => s
  | .error _ s => s

/-- The error of the task is dropped, what it did to the state is not. -/
def ignore (x : EStateM ε σ Unit) : EStateM ε σ Unit := fun s =>
  match x s with
  | .ok _ s' => .ok () s'
  | .error _ s' => .ok () s'

theorem ignore_ok {x : EStateM ε σ Unit} (h : x s = .ok () s') : ignore x s = .ok () s' := by
  simp only [ignore, h]

theorem ignore_error {x : EStateM ε σ Unit} {e : ε} (h : x s = .error e s') :
    ignore x s = .ok () s' := by
  simp only [ignore, h]

def mapError (g : ε → ε) (x : EStateM ε σ α) : EStateM ε σ α := fun s =>
  match x s with
  | .ok a s' => .ok a s'
  | .error e s' => .error (g e) s'

theorem mapError_ok {g : ε → ε} {a : α} (h : x s = .ok a s') :
    mapError g x s = .ok a s' := by
  simp only [mapError, h]

theorem mapError_error {g : ε → ε} {e : ε} (h : x s = .error e s') :
    mapError g x s = .error (g e) s' := by
  simp only [mapError, h]

theorem mapError_id (x : EStateM ε σ α) : mapError id x = x := by
  funext s
  unfold mapError
  split <;> simp_all

/-- However the task ends, the part `f` of the state is the one it started with, and an error
is of the kind `P`. -/
def Keeps {γ : Type} (f : σ → γ) (P : ε → Prop) (x : EStateM ε σ α) : Prop :=
  ∀ s, match x s with
    | .ok _ s' => f s' = f s
    | .error e s' => f s' = f s ∧ P e

section Keeps

variable {γ : Type} {g : σ → γ} {P : ε → Prop}

theorem Keeps.ok {a : α} (h : Keeps g P x) (hx : x s = .ok a s') : g s' = g s := by
  have := h s
  rwa [hx] at this

theorem Keeps.error {e : ε} (h : Keeps g P x) (hx : x s = .error e s') : g s' = g s ∧ P e := by
  have := h s
  rwa [hx] at this

theorem Keeps.pure (a : α) : Keeps g P (Pure.pure a : EStateM ε σ α) := fun _ => rfl

theorem Keeps.throw {e : ε} (h : P e) : Keeps g P (MonadExcept.throw e : EStateM ε σ α) :=
  fun _ => ⟨rfl, h⟩

theorem Keeps.bind (hx : Keeps g P x) (hf : ∀ a, Keeps g P (f a)) : Keeps g P (x >>= f) := by
  intro s
  cases h : x s with
  | ok a s' =>
    rw [bind_ok h]
    have hs := hx.ok h
    have hfa := hf a s'
    rw [hs] at hfa
    exact hfa
  | error e s' =>
    rw [bind_error h]
    exact hx.error h

end Keeps

def Preserves (I : σ → Prop) (x : EStateM ε σ α) : Prop := ∀ s, I s → I (final (x s))

section Preserves

variable {I : σ → Prop}

theorem Preserves.ok {a : α} (h : Preserves I x) (hx : x s = .ok a s') (hs : I s) : I s' := by
  have := h s hs
  rwa [hx] at this

theorem Preserves.error {e : ε} (h : Preserves I x) (hx : x s = .error e s') (hs : I s) :
    I s' := by
  have := h s hs
  rwa [hx] at this

theorem Preserves.bind (hx : Preserves I x) (hf : ∀ a, Preserves I (f a)) :
    Preserves I (x >>= f) := by
  intro s hs
  cases h : x s with
  | ok a s' =>
    rw [bind_ok h]
    exact hf a s' (hx.ok h hs)
  | error e s' =>
    rw [bind_error h]
    exact hx.error h hs

end Preserves

/-- From a state in `P` the task ends in `Q`, or with an error in `E`. -/
def Triple (P : σ → Prop) (x : EStateM ε σ α) (Q : α → σ → Prop) (E : ε → σ → Prop) : Prop :=
  ∀ s, P s → match x s with
    | .ok a s' => Q a s'
    | .error e s' => E e s'

section Triple

variable {P P' : σ → Prop} {Q Q' : α → σ → Prop} {R : β → σ → Prop} {E E' : ε → σ → Prop}

theorem Triple.ok {a : α} (h : Triple P x Q E) (hs : P s) (hx : x s = .ok a s') : Q a s' := by
  have := h s hs
  rwa [hx] at this

theorem Triple.error {e : ε} (h : Triple P x Q E) (hs : P s) (hx : x s = .error e s') :
    E e s' := by
  have := h s hs
  rwa [hx] at this

theorem Triple.pure (a : α) : Triple (Q a) (Pure.pure a) Q E := fun _ hs => hs

theorem Triple.throw (e : ε) : Triple (E e) (MonadExcept.throw e : EStateM ε σ α) Q E :=
  fun _ hs => hs

theorem Triple.get : Triple P (MonadState.get : EStateM ε σ σ) (fun a s => a = s ∧ P s) E :=
  fun _ hs => ⟨rfl, hs⟩

theorem Triple.update {g : σ → σ} {Q : Unit → σ → Prop} (h : ∀ s, P s → Q () (g s)) :
    Triple P (modify g : EStateM ε σ Unit) Q E :=
  h

theorem Triple.bind (hx : Triple P x Q E) (hf : ∀ a, Triple (Q a) (f a) R E) :
    Triple P (x >>= f) R E := by
  intro s hs
  cases h : x s with
  | ok a s' =>
    rw [bind_ok h]
    exact hf a s' (hx.ok hs h)
  | error e s' =>
    rw [bind_error h]
    exact hx.error hs h

theorem Triple.weaken (h : Triple P x Q E) (hP : ∀ s, P' s → P s) (hQ : ∀ a s, Q a s → Q' a s)
    (hE : ∀ e s, E e s → E' e s) : Triple P' x Q' E' := by
  intro s hs
  have hx := h s (hP s hs)
  cases heq : x s with
  | ok a s' =>
    rw [heq] at hx
    exact hQ a s' hx
  | error e s' =>
    rw [heq] at hx
    exact hE e s' hx

theorem Triple.ignore {x : EStateM ε σ Unit} {Q R : σ → Prop}
    (h : Triple P x (fun _ => Q) fun _ => R) :
    Triple P (Library.ignore x) (fun _ s => Q s ∨ R s) E := by
  intro s hs
  cases hx : x s with
  | ok a s' =>
    rw [ignore_ok hx]
    exact .inl (h.ok hs hx)
  | error e s' =>
    rw [ignore_error hx]
    exact .inr (h.error hs hx)

theorem Triple.exists {ι : Type} {P : ι → σ → Prop} (h : ∀ i, Triple (P i) x Q E) :
    Triple (fun s => ∃ i, P i s) x Q E := by
  rintro s ⟨i, hs⟩
  exact h i s hs

theorem Triple.assume {p : Prop} (h : p → Triple P x Q E) : Triple (fun s => P s ∧ p) x Q E :=
  fun s hs => h hs.2 s hs.1

end Triple

end AegisSdk.Library
