import AegisSdk.Library.Lines

/-!
Callers that do not wait forever. What a reader still has to give is what is buffered and
the blocks that are to come, one for each read of its source. A call that waits for some of
them is in time if they show the end of its line or the end of the stream; otherwise it takes
along what has come, and the next call begins after it.
-/

set_option autoImplicit false
set_option relaxedAutoImplicit false

namespace AegisSdk.Library

universe u v

namespace BlockReader

variable {ρ : Type u} {β : Type v} [BlockReader ρ β]

/-- The blocks of at most `n` reads, up to the end of the stream. -/
def blocks (size : Nat) : Nat → ρ → List (List β)
  | 0, _ => []
  | n + 1, r =>
    match read size r with
    | ([], _) => []
    | (b :: bs, r') => (b :: bs) :: blocks size n r'

/-- The blocks that are to come; each has one unit at least. -/
def coming (size : Nat) (r : ρ) : List (List β) :=
  blocks size (content r).length r

theorem blocks_end {size : Nat} (n : Nat) {r : ρ} (h : content r = []) :
    blocks size n r = [] := by
  have hread := read_eq_nil (n := size) h
  cases n with
  | zero => rfl
  | succ n =>
    unfold blocks
    split
    · rfl
    · rename_i heq
      rw [heq] at hread
      cases hread

theorem length_rest {size : Nat} {r r' : ρ} {b : β} {bs : List β}
    (h : read size r = (b :: bs, r')) : (content r').length < (content r).length := by
  have hsplit := length_content size r
  rw [h] at hsplit
  simp only [List.length_cons] at hsplit
  omega

theorem blocks_fuel {size n m : Nat} {r : ρ} (hn : (content r).length ≤ n)
    (hm : (content r).length ≤ m) : blocks size n r = blocks size m r := by
  induction n generalizing m r with
  | zero =>
    have hend := List.length_eq_zero_iff.mp (Nat.le_zero.mp hn)
    rw [blocks_end 0 hend, blocks_end m hend]
  | succ n ih =>
    cases m with
    | zero =>
      have hend := List.length_eq_zero_iff.mp (Nat.le_zero.mp hm)
      rw [blocks_end 0 hend, blocks_end (n + 1) hend]
    | succ m =>
      rcases hread : read size r with ⟨_ | ⟨b, bs⟩, r'⟩
      · rw [blocks, blocks, hread]
      · have hlt := length_rest hread
        rw [blocks, blocks, hread]
        simp only
        rw [ih (m := m) (by omega) (by omega)]

theorem coming_nil {size : Nat} {r r' : ρ} (h : read size r = ([], r')) :
    coming size r = [] := by
  rw [coming, blocks_fuel (Nat.le_refl _) (Nat.le_succ _), blocks, h]

theorem coming_cons {size : Nat} {r r' : ρ} {b : β} {bs : List β}
    (h : read size r = (b :: bs, r')) : coming size r = (b :: bs) :: coming size r' := by
  have hlt := length_rest h
  rw [coming, blocks_fuel (Nat.le_refl _) (Nat.le_succ _), blocks, h]
  simp only
  rw [coming, blocks_fuel (Nat.le_of_lt hlt) (Nat.le_refl _)]

theorem flatten_blocks {size n : Nat} (hsize : 0 < size) {r : ρ}
    (h : (content r).length ≤ n) : (blocks size n r).flatten = content r := by
  induction n generalizing r with
  | zero => rw [blocks, List.length_eq_zero_iff.mp (Nat.le_zero.mp h), List.flatten_nil]
  | succ n ih =>
    have happend := read_append size r
    rcases hread : read size r with ⟨_ | ⟨b, bs⟩, r'⟩
    · rw [blocks, hread, (read_eq_nil_iff hsize).mp (by rw [hread]), List.flatten_nil]
    · have hlt := length_rest hread
      rw [hread] at happend
      rw [blocks, hread, List.flatten_cons, ih (by omega), happend]

theorem length_blocks_le (size n : Nat) (r : ρ) :
    (blocks size n r).length ≤ (content r).length := by
  induction n generalizing r with
  | zero => exact Nat.zero_le _
  | succ n ih =>
    rcases hread : read size r with ⟨_ | ⟨b, bs⟩, r'⟩
    · rw [blocks, hread]
      exact Nat.zero_le _
    · rw [blocks, hread]
      exact Nat.lt_of_le_of_lt (ih r') (length_rest hread)

theorem flatten_coming {size : Nat} (hsize : 0 < size) (r : ρ) :
    (coming size r).flatten = content r :=
  flatten_blocks hsize (Nat.le_refl _)

end BlockReader

/-- What has come and is not taken, and the blocks that are to come. -/
structure Arrivals (β : Type v) where
  here : List β
  coming : List (List β)

namespace Arrivals

variable {β : Type v}

def content (a : Arrivals β) : List β := a.here ++ a.coming.flatten

def heard (patience : Nat) (a : Arrivals β) : List β :=
  a.here ++ (a.coming.take patience).flatten

def later (patience : Nat) (a : Arrivals β) : Arrivals β := ⟨[], a.coming.drop patience⟩

theorem heard_later (patience : Nat) (a : Arrivals β) :
    a.heard patience ++ (a.later patience).content = a.content := by
  simp [heard, later, content, List.append_assoc, ← List.flatten_append]

variable [DecidableEq β] (delim : β)

/-- How many blocks a call has to wait for, the end of the stream being the last. -/
def needed (a : Arrivals β) : Nat :=
  if delim ∈ a.here then 0
  else (a.coming.takeWhile (delim ∉ ·)).length + 1

/-- The line a call has to give, empty at the end of the stream. -/
def line (a : Arrivals β) : List β := (lines delim a.content).headD []

/-- What a call in time leaves: the line is taken off, and with it the blocks it waited
for. -/
def next (a : Arrivals β) : Arrivals β where
  here := (a.heard (a.needed delim)).drop (a.line delim).length
  coming := a.coming.drop (a.needed delim)

def InTime : List Nat → Arrivals β → Prop
  | [], _ => True
  | patience :: more, a => a.needed delim ≤ patience ∧ InTime more (a.next delim)

/-- For each call in time: what the late calls since the last one in time took, `lost` at
first, and its line. -/
def met (lost : List β) : List Nat → Arrivals β → List (List β × List β)
  | [], _ => []
  | patience :: more, a =>
    if a.needed delim ≤ patience then (lost, a.line delim) :: met [] more (a.next delim)
    else met (lost ++ a.heard patience) more (a.later patience)

@[simp] theorem needed_here {a : Arrivals β} (h : delim ∈ a.here) : a.needed delim = 0 := by
  simp [needed, h]

variable {delim}

theorem needed_cons {here block : List β} {coming : List (List β)} (h : delim ∉ here) :
    needed delim ⟨here, block :: coming⟩ = needed delim ⟨block, coming⟩ + 1 := by
  by_cases hblock : delim ∈ block <;> simp [needed, h, hblock]

theorem headD_lines_append {text : List β} (pre : List β) (h : delim ∉ pre) :
    (lines delim (pre ++ text)).headD [] = pre ++ (lines delim text).headD [] := by
  induction pre with
  | nil => rfl
  | cons b bs ih =>
    have hb : b ≠ delim := fun heq => h (by simp [heq])
    have hbs := ih fun hm => h (List.mem_cons_of_mem _ hm)
    rw [List.cons_append, lines, if_neg hb, List.cons_append, ← hbs]
    cases lines delim (bs ++ text) <;> rfl

theorem tail_lines_append {text : List β} (pre : List β) (h : delim ∉ pre) :
    (lines delim (pre ++ text)).tail = (lines delim text).tail := by
  induction pre with
  | nil => rfl
  | cons b bs ih =>
    have hb : b ≠ delim := fun heq => h (by simp [heq])
    rw [List.cons_append, lines, if_neg hb, ← ih fun hm => h (List.mem_cons_of_mem _ hm)]
    cases lines delim (bs ++ text) <;> rfl

theorem next_cons {here block : List β} {coming : List (List β)} (h : delim ∉ here) :
    next delim ⟨here, block :: coming⟩ = next delim ⟨block, coming⟩ := by
  have hline : line delim ⟨here, block :: coming⟩ = here ++ line delim ⟨block, coming⟩ :=
    headD_lines_append here h
  simp [next, needed_cons h, hline, heard]

theorem next_end {here : List β} (h : delim ∉ here) : next delim ⟨here, []⟩ = ⟨[], []⟩ := by
  have hline : line delim ⟨here, []⟩ = here := by
    have : (lines delim (here ++ [])).headD [] = here ++ (lines delim []).headD [] :=
      headD_lines_append here h
    simpa [line, content] using this
  simp [next, hline, heard]

theorem lines_here {body rest : List β} {coming : List (List β)} (h : delim ∉ body) :
    lines delim (content ⟨body ++ delim :: rest, coming⟩) =
      (body ++ [delim]) :: lines delim (content ⟨rest, coming⟩) := by
  rw [content, List.append_assoc, List.cons_append, lines_delim h, content]

theorem next_here {body rest : List β} {coming : List (List β)} (h : delim ∉ body) :
    next delim ⟨body ++ delim :: rest, coming⟩ = ⟨rest, coming⟩ := by
  have hline : line delim ⟨body ++ delim :: rest, coming⟩ = body ++ [delim] := by
    rw [line, lines_here h, List.headD_cons]
  simp [next, hline, heard]

theorem lines_next (a : Arrivals β) :
    lines delim (a.next delim).content = (lines delim a.content).tail := by
  obtain ⟨here, coming⟩ := a
  induction coming generalizing here with
  | nil =>
    by_cases h : delim ∈ here
    · obtain ⟨body, rest, rfl, hbody⟩ := List.eq_append_cons_of_mem h
      rw [next_here hbody, lines_here hbody, List.tail_cons]
    · have : (lines delim (here ++ [])).tail = (lines delim []).tail := tail_lines_append here h
      simpa [next_end h, content] using this.symm
  | cons block coming ih =>
    by_cases h : delim ∈ here
    · obtain ⟨body, rest, rfl, hbody⟩ := List.eq_append_cons_of_mem h
      rw [next_here hbody, lines_here hbody, List.tail_cons]
    · rw [next_cons h, ih]
      exact (tail_lines_append here h).symm

theorem not_mem_heard {patience : Nat} {a : Arrivals β} (h : patience < a.needed delim) :
    delim ∉ a.heard patience := by
  obtain ⟨here, coming⟩ := a
  induction patience generalizing here coming with
  | zero =>
    have hmem : delim ∉ here := fun hmem => by simp [hmem] at h
    simpa [heard] using hmem
  | succ patience ih =>
    have hmem : delim ∉ here := fun hmem => by simp [hmem] at h
    cases coming with
    | nil => simp [needed, hmem] at h
    | cons block coming =>
      rw [needed_cons hmem] at h
      have := ih block coming (Nat.lt_of_succ_lt_succ h)
      simp only [heard, List.take_succ_cons, List.flatten_cons, List.mem_append] at this ⊢
      tauto

variable (delim) in
theorem needed_le (a : Arrivals β) : a.needed delim ≤ a.coming.length + 1 := by
  have := (List.takeWhile_sublist (delim ∉ ·) (l := a.coming)).length_le
  unfold needed
  split <;> omega

theorem inTime_of_lt {patiences : List Nat} {a : Arrivals β}
    (h : ∀ patience ∈ patiences, a.coming.length < patience) : a.InTime delim patiences := by
  induction patiences generalizing a with
  | nil => trivial
  | cons patience more ih =>
    obtain ⟨hfirst, hmore⟩ := List.forall_mem_cons.mp h
    refine ⟨Nat.le_trans (a.needed_le delim) hfirst, ih fun p hp => ?_⟩
    exact Nat.lt_of_le_of_lt (by simp [next]) (hmore p hp)

end Arrivals

namespace Buffered

variable {ρ : Type u} {β : Type v} [BlockReader ρ β] {size : Nat}

def arrivals (r : Buffered size ρ β) : Arrivals β := ⟨r.buf, BlockReader.coming size r.src⟩

theorem content_arrivals [Fact (0 < size)] (r : Buffered size ρ β) :
    r.arrivals.content = BlockReader.content r := by
  rw [arrivals, Arrivals.content, BlockReader.flatten_coming Fact.out, content_eq]

variable [DecidableEq β] {delim : β}

theorem readUntil_here {patience : Nat} (taken : List β) {r : Buffered size ρ β}
    (h : delim ∈ r.buf) :
    (readUntil delim patience taken r).1 ≠ none ∧
      (readUntil delim patience taken r).2.arrivals = r.arrivals.next delim := by
  obtain ⟨body, rest, hbuf, hbody⟩ := List.eq_append_cons_of_mem h
  rw [readUntil.eq_def, if_pos h, arrivals, arrivals, hbuf, Arrivals.next_here hbody,
    dropWhile_ne_append delim body rest hbody]
  exact ⟨Option.some_ne_none _, rfl⟩

section Block

variable {patience : Nat} {taken : List β} {r : Buffered size ρ β} {src : ρ}

theorem readUntil_cons {b : β} {bs : List β} (h : delim ∉ r.buf)
    (hread : BlockReader.read size r.src = (b :: bs, src)) :
    readUntil delim (patience + 1) taken r =
      readUntil delim patience (taken ++ r.buf) ⟨b :: bs, src⟩ := by
  rw [readUntil, if_neg h, hread]

omit [DecidableEq β] in
theorem arrivals_cons {b : β} {bs : List β}
    (hread : BlockReader.read size r.src = (b :: bs, src)) :
    r.arrivals = ⟨r.buf, (b :: bs) :: BlockReader.coming size src⟩ := by
  rw [arrivals, BlockReader.coming_cons hread]

end Block

theorem readUntil_late {patience : Nat} (taken : List β) {r : Buffered size ρ β}
    (h : patience < r.arrivals.needed delim) :
    (readUntil delim patience taken r).1 = none ∧
      (readUntil delim patience taken r).2.arrivals = r.arrivals.later patience := by
  have hmem : delim ∉ r.buf := fun hmem => by simp [arrivals, hmem] at h
  induction patience generalizing taken r with
  | zero =>
    rw [readUntil, if_neg hmem]
    exact ⟨rfl, rfl⟩
  | succ patience ih =>
    rcases hread : BlockReader.read size r.src with ⟨_ | ⟨b, bs⟩, src⟩
    · rw [arrivals, BlockReader.coming_nil hread] at h
      simp [Arrivals.needed, hmem] at h
    · rw [arrivals_cons hread, Arrivals.needed_cons hmem] at h
      have hlt := Nat.lt_of_succ_lt_succ h
      rw [readUntil_cons hmem hread, arrivals_cons hread]
      exact ih _ hlt fun hb => by simp [hb] at hlt

variable [Fact (0 < size)]

theorem readUntil_end {patience : Nat} {taken : List β} {r : Buffered size ρ β} {src : ρ}
    (h : delim ∉ r.buf) (hread : BlockReader.read size r.src = ([], src)) :
    (readUntil delim (patience + 1) taken r).1 ≠ none ∧
      (readUntil delim (patience + 1) taken r).2.arrivals = r.arrivals.next delim := by
  have hsrc : BlockReader.content r.src = [] :=
    (BlockReader.read_eq_nil_iff Fact.out).mp (congrArg Prod.fst hread)
  have happend := BlockReader.read_append size r.src
  rw [hread, hsrc] at happend
  have hend : BlockReader.coming size src = [] := BlockReader.blocks_end _ happend
  rw [readUntil, if_neg h, hread, arrivals, arrivals, BlockReader.coming_nil hread,
    Arrivals.next_end h]
  exact ⟨Option.some_ne_none _, by rw [hend]⟩

theorem readUntil_inTime {patience : Nat} (taken : List β) {r : Buffered size ρ β}
    (h : r.arrivals.needed delim ≤ patience) :
    (readUntil delim patience taken r).1 ≠ none ∧
      (readUntil delim patience taken r).2.arrivals = r.arrivals.next delim := by
  induction patience generalizing taken r with
  | zero =>
    by_cases hmem : delim ∈ r.buf
    · exact readUntil_here taken hmem
    · simp [Arrivals.needed, arrivals, hmem] at h
  | succ patience ih =>
    by_cases hmem : delim ∈ r.buf
    · exact readUntil_here taken hmem
    rcases hread : BlockReader.read size r.src with ⟨_ | ⟨b, bs⟩, src⟩
    · exact readUntil_end hmem hread
    · rw [readUntil_cons hmem hread, arrivals_cons hread, Arrivals.next_cons hmem]
      rw [arrivals_cons hread, Arrivals.needed_cons hmem] at h
      exact ih _ (Nat.le_of_succ_le_succ h)

theorem readUntil_line {patience : Nat} {r : Buffered size ρ β}
    (h : r.arrivals.needed delim ≤ patience) :
    ∃ r', readUntil delim patience [] r = (some (r.arrivals.line delim), r') ∧
      r'.arrivals = r.arrivals.next delim := by
  obtain ⟨hsome, hnext⟩ := readUntil_inTime [] h
  rcases hread : readUntil delim patience [] r with ⟨_ | line, r'⟩
  · rw [hread] at hsome
    exact absurd rfl hsome
  · rw [hread] at hnext
    refine ⟨r', ?_, hnext⟩
    rw [Arrivals.line, content_arrivals]
    rcases readUntil_lines hread with ⟨rfl, hlines, _⟩ | ⟨_, hlines⟩ <;> rw [hlines] <;> rfl

end Buffered
end AegisSdk.Library
