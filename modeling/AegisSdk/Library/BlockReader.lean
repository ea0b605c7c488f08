import Mathlib.Data.List.Basic
import Mathlib.Logic.Basic

/-!
Readers that hand out a stream in blocks. A connection gives the pieces its reads meet;
a buffered reader over another reader asks it for blocks of its own size and keeps what
its caller did not take. What a reader will still give is its content, and no operation
loses a part of it.
-/

set_option autoImplicit false
set_option relaxedAutoImplicit false

namespace AegisSdk.Library

universe u v

class BlockReader (ρ : Type u) (β : outParam (Type v)) where
  /-- One read of at most `n` units; the empty block means the end of the stream. -/
  read : Nat → ρ → List β × ρ
  /-- What reads will give from here to the end. -/
  content : ρ → List β
  read_append (n : Nat) (r : ρ) : (read n r).1 ++ content (read n r).2 = content r
  length_read_le (n : Nat) (r : ρ) : (read n r).1.length ≤ n
  read_ne_nil (n : Nat) (r : ρ) : 0 < n → content r ≠ [] → (read n r).1 ≠ []

namespace BlockReader

variable {ρ : Type u} {β : Type v} [BlockReader ρ β]

theorem length_content (n : Nat) (r : ρ) :
    (read n r).1.length + (content (read n r).2).length = (content r).length := by
  rw [← List.length_append, read_append]

theorem read_eq_nil {n : Nat} {r : ρ} (h : content r = []) : (read n r).1 = [] := by
  have := read_append n r
  rw [h] at this
  exact (List.append_eq_nil_iff.mp this).1

theorem read_eq_nil_iff {n : Nat} {r : ρ} (hn : 0 < n) : (read n r).1 = [] ↔ content r = [] :=
  ⟨fun h => by_contra fun hc => read_ne_nil n r hn hc h, read_eq_nil⟩

theorem length_read_pos {n : Nat} {r : ρ} (hn : 0 < n) (h : content r ≠ []) :
    0 < (read n r).1.length :=
  List.length_pos_of_ne_nil (read_ne_nil n r hn h)

end BlockReader

/-- A connection by the pieces that arrive: a read takes from the first piece that is left
and never from two of them. -/
structure Pieces (β : Type v) where
  list : List (List β)

namespace Pieces

variable {β : Type v}

def readList (n : Nat) : List (List β) → List β × List (List β)
  | [] => ([], [])
  | [] :: ps => readList n ps
  | (b :: bs) :: ps => ((b :: bs).take n, (b :: bs).drop n :: ps)

def read (n : Nat) (r : Pieces β) : List β × Pieces β :=
  ((readList n r.list).1, ⟨(readList n r.list).2⟩)

theorem readList_append (n : Nat) (ps : List (List β)) :
    (readList n ps).1 ++ (readList n ps).2.flatten = ps.flatten := by
  induction ps with
  | nil => rfl
  | cons p ps ih =>
    cases p with
    | nil => exact ih
    | cons b bs =>
      simp only [readList, List.flatten_cons, ← List.append_assoc, List.take_append_drop]

theorem length_readList_le (n : Nat) (ps : List (List β)) : (readList n ps).1.length ≤ n := by
  induction ps with
  | nil => exact Nat.zero_le n
  | cons p ps ih =>
    cases p with
    | nil => exact ih
    | cons b bs => exact List.length_take_le n _

theorem readList_ne_nil (n : Nat) (ps : List (List β)) (hn : 0 < n) (h : ps.flatten ≠ []) :
    (readList n ps).1 ≠ [] := by
  induction ps with
  | nil => exact absurd rfl h
  | cons p ps ih =>
    cases p with
    | nil => exact ih h
    | cons b bs =>
      simp [readList, List.take_eq_nil_iff, Nat.ne_of_gt hn]

instance : BlockReader (Pieces β) β where
  read := read
  content r := r.list.flatten
  read_append n r := readList_append n r.list
  length_read_le n r := length_readList_le n r.list
  read_ne_nil n r := readList_ne_nil n r.list

@[simp] theorem content_mk (ps : List (List β)) :
    BlockReader.content (Pieces.mk ps) = ps.flatten := rfl

theorem read_within (n : Nat) {r : Pieces β} {ps later : List (List β)}
    (hr : r.list = ps ++ later) (hne : ps.flatten ≠ []) :
    ∃ ps', (BlockReader.read n r).2.list = ps' ++ later ∧
      (BlockReader.read n r).1 ++ ps'.flatten = ps.flatten := by
  suffices h : ∃ ps', (readList n (ps ++ later)).2 = ps' ++ later ∧
      (readList n (ps ++ later)).1 ++ ps'.flatten = ps.flatten by
    rw [← hr] at h
    exact h
  clear hr
  induction ps with
  | nil => exact absurd rfl hne
  | cons p ps ih =>
    cases p with
    | nil => exact ih hne
    | cons b bs =>
      refine ⟨(b :: bs).drop n :: ps, rfl, ?_⟩
      simp only [List.cons_append, readList, List.flatten_cons, ← List.append_assoc,
        List.take_append_drop]

end Pieces

structure Buffered (size : Nat) (ρ : Type u) (β : Type v) where
  buf : List β := []
  src : ρ

namespace Buffered

variable {ρ : Type u} {β : Type v} [BlockReader ρ β] {size : Nat}

/-- What is buffered is given first. With an empty buffer one block is read, past the
buffer if the caller has room for a whole one. -/
def read (n : Nat) (r : Buffered size ρ β) : List β × Buffered size ρ β :=
  match r.buf with
  | [] =>
    if size ≤ n then ((BlockReader.read n r.src).1, ⟨[], (BlockReader.read n r.src).2⟩)
    else ((BlockReader.read size r.src).1.take n,
      ⟨(BlockReader.read size r.src).1.drop n, (BlockReader.read size r.src).2⟩)
  | b :: bs => ((b :: bs).take n, ⟨(b :: bs).drop n, r.src⟩)

theorem read_append (n : Nat) (r : Buffered size ρ β) :
    (r.read n).1 ++ ((r.read n).2.buf ++ BlockReader.content (r.read n).2.src) =
      r.buf ++ BlockReader.content r.src := by
  unfold read
  split
  · split
    · simpa [*] using BlockReader.read_append n r.src
    · rw [← List.append_assoc, List.take_append_drop]
      simpa [*] using BlockReader.read_append size r.src
  · simp [*, ← List.append_assoc, List.take_append_drop]

theorem length_read_le (n : Nat) (r : Buffered size ρ β) : (r.read n).1.length ≤ n := by
  unfold read
  split
  · split
    · exact BlockReader.length_read_le n r.src
    · exact List.length_take_le n _
  · exact List.length_take_le n _

theorem read_ne_nil [Fact (0 < size)] (n : Nat) (r : Buffered size ρ β) (hn : 0 < n)
    (h : r.buf ++ BlockReader.content r.src ≠ []) : (r.read n).1 ≠ [] := by
  have take : ∀ {l : List β}, l ≠ [] → l.take n ≠ [] := by
    intro l hl
    simp [List.take_eq_nil_iff, Nat.ne_of_gt hn, hl]
  unfold read
  split
  · rename_i hbuf
    rw [hbuf, List.nil_append] at h
    split
    · exact BlockReader.read_ne_nil n r.src hn h
    · exact take (BlockReader.read_ne_nil size r.src Fact.out h)
  · exact take (by simp)

instance [Fact (0 < size)] : BlockReader (Buffered size ρ β) β where
  read := read
  content r := r.buf ++ BlockReader.content r.src
  read_append := read_append
  length_read_le := length_read_le
  read_ne_nil := read_ne_nil

theorem content_eq [Fact (0 < size)] (r : Buffered size ρ β) :
    BlockReader.content r = r.buf ++ BlockReader.content r.src := rfl

theorem read_within [Fact (0 < size)] (n : Nat) {r : Buffered size (Pieces β) β}
    {ps later : List (List β)} (hr : r.src.list = ps ++ later)
    (hne : r.buf ++ ps.flatten ≠ []) :
    ∃ ps', (BlockReader.read n r).2.src.list = ps' ++ later ∧
      (BlockReader.read n r).1 ++ ((BlockReader.read n r).2.buf ++ ps'.flatten) =
        r.buf ++ ps.flatten := by
  change ∃ ps', (r.read n).2.src.list = ps' ++ later ∧
    (r.read n).1 ++ ((r.read n).2.buf ++ ps'.flatten) = r.buf ++ ps.flatten
  unfold read
  split
  · rename_i hbuf
    rw [hbuf, List.nil_append] at hne ⊢
    split
    · exact Pieces.read_within n hr hne
    · obtain ⟨ps', hlist, hflatten⟩ := Pieces.read_within size hr hne
      refine ⟨ps', hlist, ?_⟩
      rw [← List.append_assoc, List.take_append_drop, hflatten]
  · rename_i b bs hbuf
    refine ⟨ps, hr, ?_⟩
    rw [← List.append_assoc, List.take_append_drop, hbuf]

variable [DecidableEq β]

/-- The text up to and including the delimiter, or the rest of the stream if there is
none. A full buffer without the delimiter is set aside; otherwise the buffer is filled up. -/
def readBytes (delim : β) : Nat → List β → Buffered size ρ β →
    Except (List β) (List β) × Buffered size ρ β
  | 0, full, r => (.error full, r)
  | fuel + 1, full, r =>
    if delim ∈ r.buf then
      (.ok (full ++ r.buf.takeWhile (· ≠ delim) ++ [delim]),
        ⟨(r.buf.dropWhile (· ≠ delim)).tail, r.src⟩)
    else if size ≤ r.buf.length then readBytes delim fuel (full ++ r.buf) ⟨[], r.src⟩
    else
      match BlockReader.read (size - r.buf.length) r.src with
      | ([], src) => (.error (full ++ r.buf), ⟨[], src⟩)
      | (b :: bs, src) => readBytes delim fuel full ⟨r.buf ++ b :: bs, src⟩

/-- With a positive `size` the fuel is never used up: each step shortens the content or
the content of the source. -/
def readLine (delim : β) (r : Buffered size ρ β) :
    Except (List β) (List β) × Buffered size ρ β :=
  readBytes delim
    ((r.buf ++ BlockReader.content r.src).length + (BlockReader.content r.src).length + 1) [] r

theorem takeWhile_ne_append (delim : β) (line rest : List β) (h : delim ∉ line) :
    (line ++ delim :: rest).takeWhile (· ≠ delim) = line := by
  have hall : ∀ b ∈ line, decide (b ≠ delim) = true := fun b hb =>
    decide_eq_true (ne_of_mem_of_not_mem hb h)
  rw [List.takeWhile_append_of_pos hall, List.takeWhile_cons_of_neg (by simp), List.append_nil]

theorem dropWhile_ne_append (delim : β) (line rest : List β) (h : delim ∉ line) :
    (line ++ delim :: rest).dropWhile (· ≠ delim) = delim :: rest := by
  have hall : ∀ b ∈ line, decide (b ≠ delim) = true := fun b hb =>
    decide_eq_true (ne_of_mem_of_not_mem hb h)
  rw [List.dropWhile_append_of_pos hall, List.dropWhile_cons_of_neg (by simp)]

omit [DecidableEq β] in
private theorem split_at_delim {delim : β} {xs ys line rest : List β} (hmem : delim ∈ xs)
    (hline : delim ∉ line) (h : xs ++ ys = line ++ delim :: rest) :
    ∃ rest', xs = line ++ delim :: rest' ∧ rest = rest' ++ ys := by
  rcases List.append_eq_append_iff.mp h with ⟨a, rfl, hys⟩ | ⟨a, rfl, hrest⟩
  · exact absurd (List.mem_append_left a hmem) hline
  · cases a with
    | nil => exact absurd (by simpa using hmem) hline
    | cons b a =>
      obtain ⟨rfl, rfl⟩ := List.cons.inj hrest
      exact ⟨a, rfl, rfl⟩

omit [DecidableEq β] in
private theorem split_before_delim {delim : β} {xs ys line rest : List β} (hmem : delim ∉ xs)
    (h : xs ++ ys = line ++ delim :: rest) :
    ∃ line', line = xs ++ line' ∧ ys = line' ++ delim :: rest := by
  rcases List.append_eq_append_iff.mp h with ⟨a, rfl, hys⟩ | ⟨a, rfl, hrest⟩
  · exact ⟨a, rfl, hys⟩
  · cases a with
    | nil => exact ⟨[], by simp, hrest.symm⟩
    | cons b a =>
      obtain ⟨rfl, rfl⟩ := List.cons.inj hrest
      simp at hmem

variable [Fact (0 < size)]

/-- The line is taken whatever the blocks are, and nothing after its delimiter. -/
theorem readBytes_line {delim : β} {line rest : List β} (hline : delim ∉ line) {fuel : Nat}
    (full : List β) {r : Buffered size ρ β}
    (h : BlockReader.content r = line ++ delim :: rest)
    (hfuel : (BlockReader.content r).length + (BlockReader.content r.src).length < fuel) :
    ∃ r', readBytes delim fuel full r = (.ok (full ++ line ++ [delim]), r') ∧
      BlockReader.content r' = rest := by
  induction fuel generalizing full r line with
  | zero => exact absurd hfuel (Nat.not_lt_zero _)
  | succ fuel ih =>
    rw [readBytes]
    rw [content_eq] at h hfuel
    by_cases hmem : delim ∈ r.buf
    · obtain ⟨rest', hbuf, hrest⟩ := split_at_delim hmem hline h
      rw [if_pos hmem, hbuf, takeWhile_ne_append _ _ _ hline, dropWhile_ne_append _ _ _ hline]
      exact ⟨_, rfl, by rw [content_eq, hrest, List.tail_cons]⟩
    · rw [if_neg hmem]
      obtain ⟨line', rfl, hsrc⟩ := split_before_delim hmem h
      rw [List.length_append] at hfuel
      by_cases hfull : size ≤ r.buf.length
      · have hpos := (Fact.out : 0 < size)
        rw [if_pos hfull, ← List.append_assoc full]
        exact ih (fun hm => hline (List.mem_append_right _ hm)) _ hsrc
          (show (BlockReader.content r.src).length + (BlockReader.content r.src).length < fuel by
            omega)
      · rw [if_neg hfull]
        have hroom : 0 < size - r.buf.length := by omega
        have hblock := BlockReader.read_ne_nil _ r.src hroom (by simp [hsrc])
        have happend := BlockReader.read_append (size - r.buf.length) r.src
        match hread : BlockReader.read (size - r.buf.length) r.src with
        | ([], src) => exact absurd (by rw [hread]) hblock
        | (b :: bs, src) =>
          rw [hread] at happend
          have hlen := congrArg List.length happend
          simp only [List.length_append, List.length_cons] at hlen
          refine ih hline _ ?_ ?_
          · rw [content_eq, List.append_assoc, happend]
            exact h
          · simp only [content_eq, List.length_append, List.length_cons]
            omega

theorem readBytes_end {delim : β} {fuel : Nat} (full : List β) {r : Buffered size ρ β}
    (hline : delim ∉ BlockReader.content r)
    (hfuel : (BlockReader.content r).length + (BlockReader.content r.src).length < fuel) :
    ∃ r', readBytes delim fuel full r = (.error (full ++ BlockReader.content r), r') ∧
      BlockReader.content r' = [] := by
  induction fuel generalizing full r with
  | zero => exact absurd hfuel (Nat.not_lt_zero _)
  | succ fuel ih =>
    rw [readBytes]
    rw [content_eq] at hline hfuel
    rw [if_neg (fun hm => hline (List.mem_append_left _ hm)), content_eq]
    rw [List.length_append] at hfuel
    by_cases hfull : size ≤ r.buf.length
    · have hpos := (Fact.out : 0 < size)
      rw [if_pos hfull, ← List.append_assoc]
      exact ih _ (fun hm => hline (List.mem_append_right _ hm))
        (show (BlockReader.content r.src).length + (BlockReader.content r.src).length < fuel by
          omega)
    · rw [if_neg hfull]
      have hroom : 0 < size - r.buf.length := by omega
      have happend := BlockReader.read_append (size - r.buf.length) r.src
      have hnil := BlockReader.read_eq_nil_iff (r := r.src) hroom
      match hread : BlockReader.read (size - r.buf.length) r.src with
      | ([], src) =>
        rw [hread] at happend hnil
        have hsrc := hnil.mp rfl
        refine ⟨⟨[], src⟩, by simp only [hsrc, List.append_nil], ?_⟩
        simpa [content_eq, hsrc] using happend
      | (b :: bs, src) =>
        rw [hread] at happend
        have hlen := congrArg List.length happend
        simp only [List.length_append, List.length_cons] at hlen
        have hcontent : BlockReader.content (⟨r.buf ++ b :: bs, src⟩ : Buffered size ρ β) =
            r.buf ++ BlockReader.content r.src := by
          rw [content_eq, List.append_assoc, happend]
        rw [← hcontent] at hline ⊢
        refine ih _ hline ?_
        simp only [content_eq, List.length_append, List.length_cons]
        omega

theorem readLine_line {delim : β} {line rest : List β} (hline : delim ∉ line)
    {r : Buffered size ρ β} (h : BlockReader.content r = line ++ delim :: rest) :
    ∃ r', r.readLine delim = (.ok (line ++ [delim]), r') ∧ BlockReader.content r' = rest := by
  exact readBytes_line hline [] h (Nat.lt_succ_self _)

theorem readLine_end {delim : β} {r : Buffered size ρ β}
    (hline : delim ∉ BlockReader.content r) :
    ∃ r', r.readLine delim = (.error (BlockReader.content r), r') ∧
      BlockReader.content r' = [] := by
  exact readBytes_end [] hline (Nat.lt_succ_self _)

theorem readLine_ok {delim : β} {text : List β} {r : Buffered size ρ β}
    (h : (r.readLine delim).1 = .ok text) :
    text ++ BlockReader.content (r.readLine delim).2 = BlockReader.content r := by
  by_cases hmem : delim ∈ BlockReader.content r
  · obtain ⟨line, rest, hcontent, hline⟩ := List.eq_append_cons_of_mem hmem
    obtain ⟨r', hread, hrest⟩ := readLine_line hline hcontent
    rw [hread] at h ⊢
    cases h
    simp [hrest, hcontent]
  · obtain ⟨r', hread, _⟩ := readLine_end hmem
    rw [hread] at h
    exact nomatch h

end Buffered
end AegisSdk.Library
