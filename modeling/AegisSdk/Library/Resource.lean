import AegisSdk.Library.Monitor

/-!
Accounts of resources. A log says which resources are acquired and released, and where none
may be held. A log is tidy if none is held at these points and never more than one at a time.
-/

set_option autoImplicit false
set_option relaxedAutoImplicit false

namespace AegisSdk.Library

inductive Use (α : Type) where
  | acquire (a : α)
  | release (a : α)
  /-- nothing may be held here -/
  | checkpoint
  deriving DecidableEq

namespace Use

variable {α : Type} [DecidableEq α]

def step (held : List α) : Use α → List α
  | .acquire a => held ++ [a]
  | .release a => held.erase a
  | .checkpoint => held

def held (log : List (Use α)) : List α := log.foldl step []

/-- No resource is held at a checkpoint, and never more than one. -/
def Tidy (log : List (Use α)) : Prop :=
  ∀ p, p <+: log → (held p).length ≤ 1 ∧ (p.getLast? = some .checkpoint → held p = [])

/-- The monitor that allows an acquisition or a checkpoint when nothing is held. -/
def account : Monitor (List α) (Use α) where
  step := step
  allows held
    | .acquire _ => held = []
    | .release _ => True
    | .checkpoint => held = []

theorem held_append (xs ys : List (Use α)) : held (xs ++ ys) = ys.foldl step (held xs) :=
  List.foldl_append

theorem after_account (log : List (Use α)) : account.after [] log = held log := rfl

theorem held_concat (xs : List (Use α)) (u : Use α) : held (xs ++ [u]) = step (held xs) u :=
  held_append xs [u]

theorem tidy_concat (xs : List (Use α)) (u : Use α) : Tidy (xs ++ [u]) ↔
    Tidy xs ∧ (step (held xs) u).length ≤ 1 ∧ (u = .checkpoint → held xs = []) := by
  constructor
  · intro h
    obtain ⟨hlength, hpoint⟩ := h _ (List.prefix_refl _)
    rw [held_concat] at hlength hpoint
    refine ⟨fun p hp => h p (hp.trans (List.prefix_append _ _)), hlength, ?_⟩
    rintro rfl
    exact hpoint (by simp)
  · rintro ⟨hxs, hlength, hpoint⟩ p hp
    rcases List.prefix_concat_iff.mp hp with rfl | hp
    · rw [held_concat]
      refine ⟨hlength, fun hlast => ?_⟩
      have hu : u = .checkpoint := by simpa using hlast
      subst hu
      exact hpoint rfl
    · exact hxs p hp

theorem tidy_iff (log : List (Use α)) : Tidy log ↔ account.Accepts [] log := by
  induction log using List.reverseRecOn with
  | nil =>
    refine iff_of_true (fun p hp => ?_) trivial
    rw [List.prefix_nil.mp hp]
    simp [held]
  | append_singleton xs u ih =>
    have hstep : Tidy xs →
        ((step (held xs) u).length ≤ 1 ∧ (u = .checkpoint → held xs = []) ↔
          account.allows (held xs) u) := by
      intro hxs
      have hone : (held xs).length ≤ 1 := (hxs xs (List.prefix_refl _)).1
      cases u with
      | acquire a => simp [step, account]
      | release a =>
        have hle : ((held xs).erase a).length ≤ (held xs).length := List.length_erase_le
        simp only [step, account, reduceCtorEq, false_implies, and_true, iff_true]
        omega
      | checkpoint =>
        simp only [step, account, forall_const]
        exact and_iff_right hone
    rw [tidy_concat, Monitor.accepts_append, ← ih]
    refine and_congr_right fun hxs => (hstep hxs).trans ?_
    exact (and_iff_left trivial).symm

end Use

end AegisSdk.Library
