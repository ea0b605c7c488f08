import AegisSdk.Library.BlockReader

/-!
Lines. A text falls into lines that end with a delimiter, the last one perhaps without.
A buffered reader that is asked for a line hands over what it has and takes blocks from
its source until one shows the delimiter; whatever the blocks are, it takes the first
line of its content.
-/

set_option autoImplicit false
set_option relaxedAutoImplicit false

namespace AegisSdk.Library

universe u v

section Lines

variable {β : Type v} [DecidableEq β]

def lines (delim : β) : List β → List (List β)
  | [] => []
  | b :: bs =>
    if b = delim then [b] :: lines delim bs
    else match lines delim bs with
      | [] => [[b]]
      | line :: rest => (b :: line) :: rest

@[simp] theorem lines_nil (delim : β) : lines delim [] = [] := rfl

theorem lines_cons (delim b : β) (bs : List β) :
    ∃ line rest, lines delim (b :: bs) = (b :: line) :: rest := by
  unfold lines
  split
  · exact ⟨[], _, rfl⟩
  · split
    · exact ⟨[], [], rfl⟩
    · exact ⟨_, _, rfl⟩

theorem lines_delim {delim : β} {line : List β} (h : delim ∉ line) (rest : List β) :
    lines delim (line ++ delim :: rest) = (line ++ [delim]) :: lines delim rest := by
  induction line with
  | nil => simp [lines]
  | cons b bs ih =>
    have hb : b ≠ delim := fun heq => h (by simp [heq])
    have hbs : delim ∉ bs := fun hm => h (List.mem_cons_of_mem _ hm)
    simp [lines, hb, ih hbs]

theorem lines_last {delim : β} {text : List β} (h : delim ∉ text) (hne : text ≠ []) :
    lines delim text = [text] := by
  induction text with
  | nil => exact absurd rfl hne
  | cons b bs ih =>
    have hb : b ≠ delim := fun heq => h (by simp [heq])
    have hbs : delim ∉ bs := fun hm => h (List.mem_cons_of_mem _ hm)
    cases bs with
    | nil => simp [lines, hb]
    | cons b' bs =>
      rw [lines, if_neg hb, ih hbs (by simp)]

end Lines

namespace Buffered

variable {ρ : Type u} {β : Type v} [BlockReader ρ β] [DecidableEq β] {size : Nat}

/-- The reader hands over its buffer up to the delimiter; while there is none it hands over
everything and asks the source for the next block. `none` means that the caller gave up
after `patience` blocks: what was handed over to it by then is gone. -/
def readUntil (delim : β) (patience : Nat) (taken : List β) (r : Buffered size ρ β) :
    Option (List β) × Buffered size ρ β :=
  if delim ∈ r.buf then
    (some (taken ++ r.buf.takeWhile (· ≠ delim) ++ [delim]),
      ⟨(r.buf.dropWhile (· ≠ delim)).tail, r.src⟩)
  else
    match patience with
    | 0 => (none, ⟨[], r.src⟩)
    | patience + 1 =>
      match BlockReader.read size r.src with
      | ([], src) => (some (taken ++ r.buf), ⟨[], src⟩)
      | (b :: bs, src) => readUntil delim patience (taken ++ r.buf) ⟨b :: bs, src⟩

/-- What has been read up to a delimiter or to the end of the stream. -/
def IsLine (delim : β) (line : List β) (r : Buffered size ρ β) : Prop :=
  (∃ body, line = body ++ [delim] ∧ delim ∉ body) ∨
    delim ∉ line ∧ r.buf ++ BlockReader.content r.src = []

variable [Fact (0 < size)]

theorem readUntil_buffered {delim : β} {patience : Nat} {taken line : List β}
    {r r' : Buffered size ρ β} (ht : delim ∉ taken) (hmem : delim ∈ r.buf)
    (h : readUntil delim patience taken r = (some line, r')) :
    taken ++ BlockReader.content r = line ++ BlockReader.content r' ∧ IsLine delim line r' := by
  obtain ⟨body, rest, hbuf, hbody⟩ := List.eq_append_cons_of_mem hmem
  have hfound : readUntil delim patience taken r =
      (some (taken ++ body ++ [delim]), ⟨rest, r.src⟩) := by
    cases patience <;>
      rw [readUntil, if_pos hmem, hbuf, takeWhile_ne_append delim body rest hbody,
        dropWhile_ne_append delim body rest hbody, List.tail_cons]
  rw [hfound] at h
  cases h
  rw [content_eq, content_eq, hbuf]
  exact ⟨by simp, .inl ⟨taken ++ body, rfl, by simp [ht, hbody]⟩⟩

theorem readUntil_some {delim : β} {patience : Nat} {taken line : List β}
    {r r' : Buffered size ρ β} (ht : delim ∉ taken)
    (h : readUntil delim patience taken r = (some line, r')) :
    taken ++ BlockReader.content r = line ++ BlockReader.content r' ∧ IsLine delim line r' := by
  induction patience generalizing taken r with
  | zero =>
    by_cases hmem : delim ∈ r.buf
    · exact readUntil_buffered ht hmem h
    · rw [readUntil, if_neg hmem] at h
      cases h
  | succ patience ih =>
    by_cases hmem : delim ∈ r.buf
    · exact readUntil_buffered ht hmem h
    · rw [readUntil, if_neg hmem] at h
      have happend := BlockReader.read_append size r.src
      have htaken : delim ∉ taken ++ r.buf := by simp [ht, hmem]
      split at h
      · rename_i src hread
        cases h
        rw [hread] at happend
        have hsrc : BlockReader.content r.src = [] :=
          (BlockReader.read_eq_nil_iff Fact.out).mp (by rw [hread])
        have hrest : BlockReader.content src = [] := by simpa [hsrc] using happend
        refine ⟨?_, .inr ⟨htaken, by simpa using hrest⟩⟩
        rw [content_eq, content_eq, hsrc, hrest]
        simp
      · rename_i b bs src hread
        rw [hread] at happend
        obtain ⟨hcontent, hline⟩ := ih htaken h
        refine ⟨?_, hline⟩
        rw [← hcontent, content_eq, content_eq, ← happend]
        simp

omit [Fact (0 < size)] in
theorem readUntil_ne_none {delim : β} {patience : Nat} (taken : List β) {r : Buffered size ρ β}
    (h : (BlockReader.content r.src).length < patience) :
    (readUntil delim patience taken r).1 ≠ none := by
  induction patience generalizing taken r with
  | zero => omega
  | succ patience ih =>
    rw [readUntil]
    split
    · exact nofun
    · have happend := BlockReader.read_append size r.src
      split
      · exact nofun
      · rename_i b bs src hread
        rw [hread] at happend
        have hlen := congrArg List.length happend
        simp only [List.length_append, List.length_cons] at hlen
        exact ih _ (by simp only; omega)

theorem IsLine.first {delim : β} {line : List β} {r : Buffered size ρ β} (h : IsLine delim line r) :
    (line = [] ∧ lines delim (line ++ BlockReader.content r) = [] ∧ BlockReader.content r = []) ∨
      line ≠ [] ∧ lines delim (line ++ BlockReader.content r) =
        line :: lines delim (BlockReader.content r) := by
  rcases h with ⟨body, rfl, hbody⟩ | ⟨hnot, hend⟩
  · refine .inr ⟨by simp, ?_⟩
    rw [List.append_assoc, List.singleton_append, lines_delim hbody]
  · have hend : BlockReader.content r = [] := hend
    rw [hend, List.append_nil]
    by_cases hne : line = []
    · exact .inl ⟨hne, by rw [hne, lines_nil], rfl⟩
    · exact .inr ⟨hne, by rw [lines_last hnot hne, lines_nil]⟩

theorem readUntil_lines {delim : β} {patience : Nat} {line : List β} {r r' : Buffered size ρ β}
    (h : readUntil delim patience [] r = (some line, r')) :
    (line = [] ∧ lines delim (BlockReader.content r) = [] ∧ BlockReader.content r' = []) ∨
      line ≠ [] ∧ lines delim (BlockReader.content r) =
        line :: lines delim (BlockReader.content r') := by
  obtain ⟨hcontent, hline⟩ := readUntil_some (by simp) h
  rw [List.nil_append] at hcontent
  rw [hcontent]
  exact hline.first

/-- The lines that successive reads take, up to the one that finds the end of the stream. -/
def takeLines (delim : β) : Nat → Buffered size ρ β → List (List β)
  | 0, _ => []
  | fuel + 1, r =>
    match readUntil delim ((BlockReader.content r.src).length + 1) [] r with
    | (some (b :: bs), r') => (b :: bs) :: takeLines delim fuel r'
    | _ => []

theorem takeLines_eq {delim : β} {fuel : Nat} {r : Buffered size ρ β}
    (h : (BlockReader.content r).length < fuel) :
    takeLines delim fuel r = lines delim (BlockReader.content r) := by
  induction fuel generalizing r with
  | zero => omega
  | succ fuel ih =>
    have hsome : (readUntil delim ((BlockReader.content r.src).length + 1) [] r).1 ≠ none :=
      readUntil_ne_none [] (Nat.lt_succ_self _)
    rw [takeLines]
    split
    · rename_i b bs r' hread
      rcases readUntil_lines hread with ⟨hnil, _⟩ | ⟨_, hlines⟩
      · cases hnil
      · have hlen := congrArg List.length (readUntil_some (by simp) hread).1
        simp only [List.nil_append, List.length_append, List.length_cons] at hlen
        rw [hlines, ih (by omega)]
    · rename_i hread
      rcases hline : readUntil delim ((BlockReader.content r.src).length + 1) [] r with
        ⟨line | line, r'⟩
      · rw [hline] at hsome
        exact absurd rfl hsome
      · rcases readUntil_lines hline with ⟨_, hlines, _⟩ | ⟨hne, _⟩
        · exact hlines.symm
        · cases line with
          | nil => exact absurd rfl hne
          | cons b bs => exact absurd hline (hread b bs r')

end Buffered
end AegisSdk.Library
