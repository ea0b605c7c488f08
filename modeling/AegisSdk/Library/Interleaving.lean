import Mathlib.Data.List.Induction

/-!
Interleavings of the steps of several parties: a guarded step function, the schedules that
order its actions, and two ways to speak of a whole run: every state it reaches, every step
it takes.
-/

set_option autoImplicit false
set_option relaxedAutoImplicit false

namespace AegisSdk.Library

universe u v

/-- `none` is a step that the action cannot take in the state. -/
structure System (σ : Type u) (α : Type v) where
  step : σ → α → Option σ

namespace System

variable {σ : Type u} {α : Type v} (m : System σ α)

def exec : σ → List α → Option σ
  | s, [] => some s
  | s, a :: run => (m.step s a).bind fun s => exec s run

def Always (I : σ → Prop) (s : σ) (run : List α) : Prop :=
  ∀ p t, p <+: run → m.exec s p = some t → I t

/-- `C` holds of every step the run takes, in the state before it. -/
def Along (C : σ → α → Prop) (s : σ) (run : List α) : Prop :=
  ∀ p a t t', p ++ [a] <+: run → m.exec s p = some t → m.step t a = some t' → C t a

variable {m} {I : σ → Prop} {C : σ → α → Prop} {s : σ}

theorem exec_append (p q : List α) : m.exec s (p ++ q) = (m.exec s p).bind (m.exec · q) := by
  induction p generalizing s with
  | nil => rfl
  | cons a p ih =>
    rw [List.cons_append, exec, exec]
    cases m.step s a with
    | none => rfl
    | some t => exact ih

theorem exec_concat {p : List α} {a : α} {t t' : σ} (h : m.exec s p = some t)
    (ht : m.step t a = some t') : m.exec s (p ++ [a]) = some t' := by
  rw [exec_append, h, Option.bind_some, exec, ht]
  rfl

/-- What holds at the start and is kept by every step the run takes holds always. -/
theorem always_of_along {run : List α} (start : I s)
    (next : ∀ t a t', I t → C t a → m.step t a = some t' → I t') (h : m.Along C s run) :
    m.Always I s run := by
  intro p
  induction p using List.reverseRecOn with
  | nil =>
    rintro t - ht
    cases ht
    exact start
  | append_singleton p a ih =>
    intro t' hp ht'
    rw [exec_append] at ht'
    cases ht : m.exec s p with
    | none => simp [ht] at ht'
    | some t =>
      rw [ht, Option.bind_some, exec] at ht'
      cases hstep : m.step t a with
      | none => simp [hstep] at ht'
      | some t'' =>
        rw [hstep] at ht'
        cases ht'
        exact next t a t' (ih t ((List.prefix_append p [a]).trans hp) ht)
          (h p a t t' hp ht hstep) hstep

theorem always_of_step {run : List α} (start : I s)
    (next : ∀ t a t', I t → m.step t a = some t' → I t') : m.Always I s run :=
  always_of_along (C := fun _ _ => True) start (fun t a t' ht _ => next t a t' ht)
    fun _ _ _ _ _ _ _ => trivial

theorem along_of_always {J : σ → Prop} {run : List α} (hJ : m.Always J s run)
    (back : ∀ t a t', J t → m.step t a = some t' → I t' → C t a) (h : m.Always I s run) :
    m.Along C s run := by
  intro p a t t' hp ht hstep
  exact back t a t' (hJ p t ((List.prefix_append p [a]).trans hp) ht) hstep
    (h (p ++ [a]) t' hp (exec_concat ht hstep))

theorem along_nil : m.Along C s [] := fun _ _ _ _ hp => absurd hp.length_le (by simp)

theorem along_cons {a : α} {run : List α} :
    m.Along C s (a :: run) ↔ ∀ t, m.step s a = some t → C s a ∧ m.Along C t run := by
  constructor
  · intro h t ht
    refine ⟨h [] a s t ⟨run, rfl⟩ rfl ht, fun p b u u' hp hu hstep => ?_⟩
    refine h (a :: p) b u u' ((List.prefix_cons_inj a).mpr hp) ?_ hstep
    rw [exec, ht, Option.bind_some, hu]
  · intro h p b u u' hp hu hstep
    cases p with
    | nil =>
      obtain ⟨rfl, _⟩ := List.cons_prefix_cons.mp hp
      cases hu
      exact (h u' hstep).1
    | cons a' p =>
      obtain ⟨rfl, hrest⟩ := List.cons_prefix_cons.mp hp
      rw [exec] at hu
      obtain ⟨t, ht, hu⟩ := Option.bind_eq_some_iff.mp hu
      exact (h t ht).2 p b u u' hrest hu hstep

instance decidableAlong [∀ s a, Decidable (C s a)] :
    ∀ (s : σ) (run : List α), Decidable (m.Along C s run)
  | _, [] => isTrue along_nil
  | s, a :: run =>
    match hstep : m.step s a with
    | none => isTrue (along_cons.mpr (by simp [hstep]))
    | some t =>
      have := decidableAlong t run
      decidable_of_iff (C s a ∧ m.Along C t run) (by rw [along_cons]; simp [hstep])

theorem Always.imp {J : σ → Prop} {run : List α} (h : m.Always I s run)
    (hIJ : ∀ t, I t → J t) : m.Always J s run :=
  fun p t hp ht => hIJ t (h p t hp ht)

end System
end AegisSdk.Library
