import Mathlib.Data.List.Basic

/-!
Records that are written to one stream, each by one call that may take a part of it only. A
stream is orderly if it is made of whole records and at most one torn one, after which nothing
is taken.
-/

set_option autoImplicit false
set_option relaxedAutoImplicit false

namespace AegisSdk.Library

universe u

variable {β : Type u}

structure Piece (β : Type u) where
  record : List β
  taken : List β
  part : taken <+: record

namespace Piece

def Whole (p : Piece β) : Prop := p.taken = p.record

def Nothing (p : Piece β) : Prop := p.taken = []

def Torn (p : Piece β) : Prop := ¬ p.Whole ∧ ¬ p.Nothing

end Piece

def stream (ps : List (Piece β)) : List β := ps.flatMap Piece.taken

def Orderly (ps : List (Piece β)) : Prop :=
  ∃ before last after, ps = before ++ last ++ after ∧ last.length ≤ 1 ∧
    (∀ p ∈ before, p.Whole ∨ p.Nothing) ∧ ∀ p ∈ after, p.Nothing

variable {p : Piece β} {ps : List (Piece β)}

theorem orderly_nil : Orderly ([] : List (Piece β)) := ⟨[], [], [], rfl, by simp, by simp, by simp⟩

theorem orderly_cons :
    Orderly (p :: ps) ↔ ((p.Whole ∨ p.Nothing) ∧ Orderly ps) ∨ ∀ q ∈ ps, q.Nothing := by
  constructor
  · rintro ⟨before, last, after, heq, hlast, hbefore, hafter⟩
    cases before with
    | cons q before =>
      obtain ⟨rfl, rfl⟩ := List.cons.inj heq
      obtain ⟨hq, hbefore⟩ := List.forall_mem_cons.mp hbefore
      exact .inl ⟨hq, before, last, after, rfl, hlast, hbefore, hafter⟩
    | nil =>
      cases last with
      | nil =>
        -- nothing is taken at all
        rw [List.nil_append, List.nil_append] at heq
        subst heq
        exact .inr (List.forall_mem_cons.mp hafter).2
      | cons q last =>
        obtain ⟨rfl, rfl⟩ := List.cons.inj heq
        have hnil : last = [] := by
          rw [List.length_cons] at hlast
          exact List.length_eq_zero_iff.mp (by omega)
        subst hnil
        exact .inr hafter
  · rintro (⟨hp, before, last, after, rfl, hlast, hbefore, hafter⟩ | hafter)
    · exact ⟨p :: before, last, after, rfl, hlast, List.forall_mem_cons.mpr ⟨hp, hbefore⟩, hafter⟩
    · exact ⟨[], [p], ps, rfl, by simp, by simp, hafter⟩

theorem orderly_iff : Orderly ps ↔ ps.Pairwise fun p q => p.Torn → q.Nothing := by
  induction ps with
  | nil => exact iff_of_true orderly_nil .nil
  | cons p ps ih =>
    rw [orderly_cons, List.pairwise_cons, ih]
    constructor
    · rintro (⟨hp, hps⟩ | hps)
      · refine ⟨?_, hps⟩
        intro q _ htorn
        rcases hp with hwhole | hnothing
        · exact absurd hwhole htorn.1
        · exact absurd hnothing htorn.2
      · exact ⟨fun q hq _ => hps q hq, List.pairwise_of_forall_mem_list fun _ _ q hq _ => hps q hq⟩
    · rintro ⟨hp, hps⟩
      by_cases htorn : p.Torn
      · exact .inr fun q hq => hp q hq htorn
      · refine .inl ⟨?_, hps⟩
        by_contra hno
        exact htorn (not_or.mp hno)

theorem stream_nothing (h : ∀ p ∈ ps, p.Nothing) : stream ps = [] := by
  rw [stream, List.flatMap_eq_nil_iff]
  exact h

/-- An orderly stream carries whole records, in the order in which they were written, and then at
most a part of one. -/
theorem Orderly.stream_eq (h : Orderly ps) :
    ∃ (whole : List (Piece β)) (part : List β),
      stream ps = whole.flatMap Piece.record ++ part ∧ whole.Sublist ps ∧
        (part = [] ∨ ∃ p ∈ ps, part <+: p.record) := by
  induction ps with
  | nil => exact ⟨[], [], rfl, .slnil, .inl rfl⟩
  | cons p ps ih =>
    have hcons : stream (p :: ps) = p.taken ++ stream ps := rfl
    rcases orderly_cons.mp h with ⟨hp, hps⟩ | hps
    · obtain ⟨whole, part, hstream, hsub, hpart⟩ := ih hps
      have hpart : part = [] ∨ ∃ q ∈ p :: ps, part <+: q.record := by
        rcases hpart with hnil | ⟨q, hq, hprefix⟩
        · exact .inl hnil
        · exact .inr ⟨q, List.mem_cons_of_mem _ hq, hprefix⟩
      rcases hp with hwhole | hnothing
      · refine ⟨p :: whole, part, ?_, hsub.cons_cons p, hpart⟩
        rw [hcons, hwhole, hstream, List.flatMap_cons, List.append_assoc]
      · refine ⟨whole, part, ?_, hsub.cons p, hpart⟩
        rw [hcons, hnothing, hstream, List.nil_append]
    · refine ⟨[], p.taken, ?_, List.nil_sublist _, .inr ⟨p, List.mem_cons_self, p.part⟩⟩
      rw [hcons, stream_nothing hps, List.append_nil]
      rfl

end AegisSdk.Library
