import Mathlib.Data.List.Basic

/-!
Machines that answer. A responder takes its inputs one by one, gives a list of outputs for
each and may end its run with a result. What it does with one input is a matter of its
state and the input alone, so that inputs which leave the state as it was can be left out
of a run without a trace beyond their own outputs.
-/

set_option autoImplicit false
set_option relaxedAutoImplicit false

namespace AegisSdk.Library

universe u v w x

structure Responder (σ : Type u) (ι : Type v) (ο : Type w) (ρ : Type x) where
  output : σ → ι → List ο
  next : σ → ι → σ
  /-- the result of the run, if it ends with this input -/
  stop : σ → ι → Option ρ

def upTo {ι : Type v} (ends : ι → Bool) : List ι → List ι
  | [] => []
  | i :: is => i :: if ends i then [] else upTo ends is

/-- The inputs taken, each with the outputs it got, the state left and the result, if an
input ended the run. -/
structure Transcript (σ : Type u) (ι : Type v) (ο : Type w) (ρ : Type x) where
  exchanges : List (ι × List ο)
  final : σ
  result : Option ρ

namespace Responder

variable {σ : Type u} {ι : Type v} {ο : Type w} {ρ : Type x} (m : Responder σ ι ο ρ)

def run : σ → List ι → Transcript σ ι ο ρ
  | s, [] => { exchanges := [], final := s, result := none }
  | s, i :: is =>
    match m.stop s i with
    | some r => { exchanges := [(i, m.output s i)], final := m.next s i, result := some r }
    | none =>
      let rest := run (m.next s i) is
      { rest with exchanges := (i, m.output s i) :: rest.exchanges }

@[simp] theorem run_nil (s : σ) :
    m.run s [] = { exchanges := [], final := s, result := none } := rfl

theorem run_last {s : σ} {i : ι} {r : ρ} (is : List ι) (h : m.stop s i = some r) :
    m.run s (i :: is) =
      { exchanges := [(i, m.output s i)], final := m.next s i, result := some r } := by
  rw [run, h]

theorem run_next {s : σ} {i : ι} (is : List ι) (h : m.stop s i = none) :
    m.run s (i :: is) =
      { m.run (m.next s i) is with
        exchanges := (i, m.output s i) :: (m.run (m.next s i) is).exchanges } := by
  rw [run, h]

/-- The inputs of a kind leave the state as it is and let the run go on. -/
def Inert (kind : ι → Bool) : Prop :=
  ∀ s i, kind i = true → m.next s i = s ∧ m.stop s i = none

/-- Without the inert inputs the run is the same but for their exchanges. -/
theorem run_erase {kind : ι → Bool} (h : m.Inert kind) (s : σ) (is : List ι) :
    m.run s (is.filter fun i => !kind i) =
      { m.run s is with exchanges := (m.run s is).exchanges.filter fun x => !kind x.1 } := by
  induction is generalizing s with
  | nil => rfl
  | cons i is ih =>
    cases hk : kind i with
    | true =>
      obtain ⟨hnext, hstop⟩ := h s i hk
      have ih := ih s
      rw [run_next m is hstop, hnext]
      simpa [hk] using ih
    | false =>
      have hkeep : (i :: is).filter (fun i => !kind i) = i :: is.filter fun i => !kind i := by
        simp [hk]
      rw [hkeep]
      cases hstop : m.stop s i with
      | some r =>
        rw [run_last m _ hstop, run_last m _ hstop]
        simp [hk]
      | none =>
        rw [run_next m _ hstop, run_next m _ hstop, ih]
        simp [hk]

theorem run_inputs {ends : ι → Bool} (h : ∀ s i, (m.stop s i).isSome = ends i) (s : σ)
    (is : List ι) : (m.run s is).exchanges.map Prod.fst = upTo ends is := by
  induction is generalizing s with
  | nil => rfl
  | cons i is ih =>
    have hends := h s i
    rw [upTo, ← hends]
    cases hstop : m.stop s i with
    | some r => simp [run_last m _ hstop]
    | none => simp [run_next m _ hstop, ih]

theorem run_prefix (s : σ) (is : List ι) :
    ∃ rest, (m.run s is).exchanges.map Prod.fst ++ rest = is ∧
      ((m.run s is).result = none → rest = []) := by
  induction is generalizing s with
  | nil => exact ⟨[], rfl, fun _ => rfl⟩
  | cons i is ih =>
    cases hstop : m.stop s i with
    | some r => exact ⟨is, by simp [run_last m _ hstop], by simp [run_last m _ hstop]⟩
    | none =>
      obtain ⟨rest, hrest, hnone⟩ := ih (m.next s i)
      refine ⟨rest, ?_, ?_⟩
      · simp [run_next m _ hstop, hrest]
      · simpa [run_next m _ hstop] using hnone

theorem run_result {f : ι → Option ρ} (h : ∀ s i, m.stop s i = f i) (s : σ) (is : List ι) :
    (m.run s is).result = is.findSome? f := by
  induction is generalizing s with
  | nil => rfl
  | cons i is ih =>
    have hi := h s i
    rw [List.findSome?_cons, ← hi]
    cases hstop : m.stop s i with
    | some r => rw [run_last m _ hstop]
    | none => simpa [run_next m _ hstop] using ih (m.next s i)

/-- Each exchange is what the machine gives for its input in some state. -/
theorem run_outputs {s : σ} {is : List ι} {x : ι × List ο} (h : x ∈ (m.run s is).exchanges) :
    ∃ s', x.2 = m.output s' x.1 := by
  induction is generalizing s with
  | nil => cases h
  | cons i is ih =>
    cases hstop : m.stop s i with
    | some r =>
      rw [run_last m _ hstop] at h
      obtain rfl := List.mem_singleton.mp h
      exact ⟨s, rfl⟩
    | none =>
      rw [run_next m _ hstop] at h
      rcases List.mem_cons.mp h with rfl | h
      · exact ⟨s, rfl⟩
      · exact ih h

end Responder
end AegisSdk.Library
