import AegisSdk.Library.BlockReader
import Mathlib.Data.List.DropRight
import Mathlib.Data.List.TakeWhile

/-!
Values that delimit themselves, taken from a stream by decoders that read it in blocks. A
scanner says where a value ends. A decoder reads blocks until its scanner has found the
end and keeps what it read beyond it; a new decoder starts from the reader, so that what
the one before kept is lost to it.
-/

set_option autoImplicit false
set_option relaxedAutoImplicit false

namespace AegisSdk.Library

open BlockReader

universe u v w

inductive Step (σ : Type u) where
  | more (s : σ)
  /-- the value ends with this unit -/
  | last
  /-- the value has ended before this unit -/
  | past
  | error

structure Scanner (σ : Type u) (β : Type v) where
  start : σ
  step : σ → β → Step σ
  /-- the value is whole if the stream ends here -/
  complete : σ → Bool
  space : β → Bool
  step_space (b : β) : space b = true → step start b = .more start
  not_complete_start : complete start = false
  last_not_space (s : σ) (b : β) : step s b = .last → space b = false

inductive Scanned (σ : Type u) (β : Type v) where
  | more (s : σ)
  /-- the value has ended, `rest` is what follows it -/
  | done (rest : List β)
  | error
  deriving DecidableEq

namespace Scanner

variable {σ : Type u} {β : Type v} (S : Scanner σ β)

def scan : σ → List β → Scanned σ β
  | s, [] => .more s
  | s, b :: bs =>
    match S.step s b with
    | .more s => scan s bs
    | .last => .done bs
    | .past => .done (b :: bs)
    | .error => .error

theorem scan_append (s : σ) (xs ys : List β) :
    S.scan s (xs ++ ys) =
      match S.scan s xs with
      | .more s => S.scan s ys
      | .done rest => .done (rest ++ ys)
      | .error => .error := by
  induction xs generalizing s with
  | nil => rfl
  | cons x xs ih =>
    rw [List.cons_append, scan, scan]
    cases S.step s x with
    | more s' => exact ih s'
    | last => rfl
    | past => rfl
    | error => rfl

theorem scan_append_of_done {s : σ} {xs rest : List β} (h : S.scan s xs = .done rest)
    (ys : List β) : S.scan s (xs ++ ys) = .done (rest ++ ys) := by
  simp only [scan_append, h]

theorem scan_append_of_more {s s' : σ} {xs : List β} (h : S.scan s xs = .more s')
    (ys : List β) : S.scan s (xs ++ ys) = S.scan s' ys := by
  simp only [scan_append, h]

theorem scan_done_suffix {s : σ} {xs rest : List β} (h : S.scan s xs = .done rest) :
    rest <:+ xs := by
  induction xs generalizing s with
  | nil => exact nomatch h
  | cons x xs ih =>
    rw [scan] at h
    split at h
    · exact (ih h).trans (List.suffix_cons x xs)
    · cases h
      exact List.suffix_cons x _
    · cases h
      exact List.suffix_refl _
    · exact nomatch h

theorem scan_spaces {xs : List β} (h : ∀ b ∈ xs, S.space b = true) :
    S.scan S.start xs = .more S.start := by
  induction xs with
  | nil => rfl
  | cons x xs ih =>
    obtain ⟨hx, hxs⟩ := List.forall_mem_cons.mp h
    rw [scan, S.step_space x hx]
    exact ih hxs

theorem scan_part {s : σ} {xs ys : List β} (h : S.scan s (xs ++ ys) = .done [])
    (hy : ys ≠ []) : ∃ s', S.scan s xs = .more s' ∧ S.scan s' ys = .done [] := by
  cases hxs : S.scan s xs with
  | more s' => exact ⟨s', rfl, by rwa [S.scan_append_of_more hxs] at h⟩
  | done rest =>
    rw [S.scan_append_of_done hxs] at h
    exact absurd (List.append_eq_nil_iff.mp (Scanned.done.inj h)).2 hy
  | error =>
    rw [scan_append, hxs] at h
    exact nomatch h

theorem scan_whole {s : σ} {xs : List β} (h : S.scan s xs = .done []) :
    ∃ init b s', xs = init ++ [b] ∧ S.step s' b = .last := by
  induction xs generalizing s with
  | nil => exact nomatch h
  | cons x xs ih =>
    rw [scan] at h
    split at h
    · obtain ⟨init, b, s', rfl, hlast⟩ := ih h
      exact ⟨x :: init, b, s', rfl, hlast⟩
    · rename_i hlast
      cases h
      exact ⟨[], x, s, rfl, hlast⟩
    · exact nomatch h
    · exact nomatch h

/-- A value that ends with its last unit and does not start with space. -/
structure Frame where
  text : List β
  whole : S.scan S.start text = .done []
  opens : ∀ b ∈ text.head?, S.space b = false

namespace Frame

variable {S}

theorem text_ne_nil (f : S.Frame) : f.text ≠ [] := by
  intro h
  have := f.whole
  rw [h] at this
  cases this

end Frame

theorem scan_lead (lead : List β) (h : ∀ b ∈ lead, S.space b = true) (f : S.Frame) :
    S.scan S.start (lead ++ f.text) = .done [] := by
  rw [S.scan_append_of_more (S.scan_spaces h)]
  exact f.whole

def strip (text : List β) : List β := text.dropWhile S.space

theorem strip_lead (lead : List β) (h : ∀ b ∈ lead, S.space b = true) (f : S.Frame) :
    S.strip (lead ++ f.text) = f.text := by
  rw [strip, List.dropWhile_append_of_pos h]
  cases htext : f.text with
  | nil => rfl
  | cons b bs =>
    have := f.opens b (by rw [htext]; rfl)
    rw [List.dropWhile_cons_of_neg (by simp [this])]

def trim (text : List β) : List β := (S.strip text).rdropWhile S.space

theorem trim_line {sep : β} (hsep : S.space sep = true) (f : S.Frame) :
    S.trim (f.text ++ [sep]) = f.text := by
  obtain ⟨init, b, s, htext, hlast⟩ := S.scan_whole f.whole
  have hb : ¬ S.space b = true := by simp [S.last_not_space s b hlast]
  have hstrip : S.strip (f.text ++ [sep]) = f.text ++ [sep] := by
    cases h : f.text with
    | nil => exact absurd h f.text_ne_nil
    | cons c cs =>
      have := f.opens c (by rw [h]; rfl)
      exact List.dropWhile_cons_of_neg (by simp [this])
  rw [trim, hstrip, List.rdropWhile_concat_pos _ _ _ hsep, htext,
    List.rdropWhile_concat_neg _ _ _ hb]

def solid (bs : List β) : Nat := bs.countP fun b => !S.space b

@[simp] theorem solid_nil : S.solid [] = 0 := rfl

@[simp] theorem solid_append (xs ys : List β) :
    S.solid (xs ++ ys) = S.solid xs + S.solid ys := List.countP_append

theorem solid_strip_le (text : List β) : S.solid (S.strip text) ≤ S.solid text :=
  (List.dropWhile_suffix _).sublist.countP_le

theorem solid_trim_le (text : List β) : S.solid (S.trim text) ≤ S.solid text :=
  ((List.rdropWhile_prefix _ _).sublist.trans (List.dropWhile_suffix _).sublist).countP_le

theorem solid_pos {bs : List β} (hne : bs ≠ []) (h : ∀ b ∈ bs.head?, S.space b = false) :
    0 < S.solid bs := by
  cases bs with
  | nil => exact absurd rfl hne
  | cons b bs =>
    refine List.countP_pos_iff.mpr ⟨b, List.mem_cons_self, ?_⟩
    simp [h b rfl]

/-- The stream of the frames, a separator after each of them. -/
def wire (sep : β) (fs : List S.Frame) : List β := fs.flatMap fun f => f.text ++ [sep]

@[simp] theorem wire_nil (sep : β) : S.wire sep [] = [] := rfl

@[simp] theorem wire_cons (sep : β) (f : S.Frame) (fs : List S.Frame) :
    S.wire sep (f :: fs) = f.text ++ sep :: S.wire sep fs := by
  simp [wire]

theorem wire_opens (sep : β) (fs : List S.Frame) :
    ∀ b ∈ (S.wire sep fs).head?, S.space b = false := by
  cases fs with
  | nil => simp
  | cons f fs =>
    intro b hb
    rw [wire_cons, List.head?_append_of_ne_nil _ f.text_ne_nil] at hb
    exact f.opens b hb

theorem solid_wire {sep : β} (hsep : S.space sep = true) (fs : List S.Frame) :
    S.solid (S.wire sep fs) = S.solid (fs.flatMap Frame.text) := by
  induction fs with
  | nil => rfl
  | cons f fs ih =>
    have hcons : S.solid (sep :: S.wire sep fs) = S.solid (S.wire sep fs) := by
      simp [solid, hsep]
    rw [wire_cons, List.flatMap_cons, solid_append, solid_append, hcons, ih]

theorem solid_lt_of_lost {sep : β} (hsep : S.space sep = true) {lost rest : List β}
    {fs : List S.Frame} (hlost : lost ≠ []) (h : lost ++ rest = S.wire sep fs) :
    S.solid rest < S.solid (fs.flatMap Frame.text) := by
  have hpos : 0 < S.solid lost := by
    refine S.solid_pos hlost fun b hb => S.wire_opens sep fs b ?_
    rwa [← h, List.head?_append_of_ne_nil _ hlost]
  rw [← S.solid_wire hsep, ← h, S.solid_append]
  omega

end Scanner

/-- How a decoder makes room: the new capacity from the old one and the units held. -/
structure Growth where
  grow : Nat → Nat → Nat
  room {cap len : Nat} : len ≤ cap → len < grow cap len

inductive Failure where
  /-- the stream ended before a value began -/
  | eof
  /-- the stream ended inside a value -/
  | unexpectedEOF
  | malformed
  deriving DecidableEq

inductive Decoded (ρ : Type u) (β : Type v) where
  /-- `surplus` is what the decoder has read beyond the value -/
  | value (text surplus : List β) (r : ρ)
  | failed (why : Failure) (r : ρ)

section Decode

variable {ρ : Type u} {β : Type v} {σ : Type w} [BlockReader ρ β] (G : Growth)
  (S : Scanner σ β)

/-- Blocks are read into a buffer that grows and scanned until the value ends. -/
def readValue : Nat → Nat → List β → σ → ρ → Decoded ρ β
  | 0, _, _, _, r => .failed .unexpectedEOF r
  | fuel + 1, cap, buf, s, r =>
    match read (G.grow cap buf.length - buf.length) r with
    | ([], r) =>
      if S.complete s then .value buf [] r
      else .failed (if buf.all S.space then .eof else .unexpectedEOF) r
    | (b :: bs, r) =>
      match S.scan s (b :: bs) with
      | .more s => readValue fuel (G.grow cap buf.length) (buf ++ b :: bs) s r
      | .done rest => .value ((buf ++ b :: bs).take ((buf ++ b :: bs).length - rest.length)) rest r
      | .error => .failed .malformed r

/-- A new decoder decodes one value. Every block but the last is not empty, so the fuel is
never used up. -/
def decode (r : ρ) : Decoded ρ β := readValue G S ((content r).length + 1) 0 [] S.start r

/-- The units that a decoder takes from the reader, in blocks of the sizes it asks for,
until it has got `need` of them. -/
def fetchMore : Nat → Nat → Nat → Nat → ρ → List β × ρ
  | 0, _, _, _, r => ([], r)
  | fuel + 1, cap, len, need, r =>
    let block := read (G.grow cap len - len) r
    if need ≤ block.1.length then block
    else
      let more := fetchMore fuel (G.grow cap len) (len + block.1.length)
        (need - block.1.length) block.2
      (block.1 ++ more.1, more.2)

/-- The units a new decoder takes until it has got `need` of them, with the reader
after that. -/
def fetch (need : Nat) (r : ρ) : List β × ρ := fetchMore G need 0 0 need r

/-- One `decode` by a new decoder, the space before the value left out. -/
def receive (r : ρ) : Except Failure (List β) × ρ :=
  match decode G S r with
  | .value text _ r => (.ok (S.strip text), r)
  | .failed why r => (.error why, r)

def receives : Nat → ρ → List (Except Failure (List β))
  | 0, _ => []
  | n + 1, r => (receive G S r).1 :: receives n (receive G S r).2

/-- While `lead` separators and the frames are still to come, what the decoder of each
frame takes from the reader ends with that frame or with the separator after it. -/
def Aligned : Nat → ρ → List S.Frame → Prop
  | _, _, [] => True
  | lead, r, f :: fs =>
    let taken := fetch G (lead + f.text.length) r
    taken.1.length ≤ lead + f.text.length + 1 ∧
      Aligned (lead + f.text.length + 1 - taken.1.length) taken.2 fs

variable {G S}

theorem fetchMore_append (fuel cap len need : Nat) (r : ρ) :
    (fetchMore G fuel cap len need r).1 ++ content (fetchMore G fuel cap len need r).2 =
      content r := by
  induction fuel generalizing cap len need r with
  | zero => rfl
  | succ fuel ih =>
    simp only [fetchMore]
    split
    · exact read_append _ r
    · rw [List.append_assoc, ih, read_append]

theorem fetch_append (need : Nat) (r : ρ) :
    (fetch G need r).1 ++ content (fetch G need r).2 = content r :=
  fetchMore_append need 0 0 need r

theorem length_fetchMore (fuel cap len need : Nat) (r : ρ) (hcap : len ≤ cap)
    (hfuel : need ≤ fuel) (h : need ≤ (content r).length) :
    need ≤ (fetchMore G fuel cap len need r).1.length := by
  induction fuel generalizing cap len need r with
  | zero => exact hfuel
  | succ fuel ih =>
    simp only [fetchMore]
    split
    · assumption
    · have hroom : len < G.grow cap len := G.room hcap
      have hblock := length_read_le (G.grow cap len - len) r
      have hlen := length_content (G.grow cap len - len) r
      have hpos : 0 < (read (G.grow cap len - len) r).1.length :=
        length_read_pos (by omega) fun h0 => by simp [h0] at h; omega
      have := ih (G.grow cap len) (len + (read (G.grow cap len - len) r).1.length)
        (need - (read (G.grow cap len - len) r).1.length) (read (G.grow cap len - len) r).2
        (by omega) (by omega) (by omega)
      rw [List.length_append]
      omega

/-- A frame is decoded whatever the blocks are, and the surplus is what the blocks hold
beyond it. -/
theorem readValue_frame (fuel fuel' cap : Nat) (buf : List β) {text tail : List β} {s : σ}
    {r : ρ} (hscan : S.scan s text = .done []) (h : content r = text ++ tail)
    (hcap : buf.length ≤ cap) (hfuel : text.length ≤ fuel) (hfuel' : text.length ≤ fuel') :
    readValue G S fuel cap buf s r =
      .value (buf ++ text) ((fetchMore G fuel' cap buf.length text.length r).1.drop text.length)
        (fetchMore G fuel' cap buf.length text.length r).2 := by
  have hne : text ≠ [] := by
    rintro rfl
    cases hscan
  have hpos := List.length_pos_of_ne_nil hne
  induction fuel generalizing fuel' cap buf text s r with
  | zero => omega
  | succ fuel ih =>
    obtain _ | fuel' := fuel'
    · omega
    have hroom : buf.length < G.grow cap buf.length := G.room hcap
    have hblock := length_read_le (G.grow cap buf.length - buf.length) r
    have happend := read_append (G.grow cap buf.length - buf.length) r
    have hnil := read_ne_nil (G.grow cap buf.length - buf.length) r (by omega) (by simp [h, hne])
    simp only [readValue, fetchMore]
    match hread : read (G.grow cap buf.length - buf.length) r with
    | ([], r') => exact absurd (by rw [hread]) hnil
    | (b :: bs, r') =>
      simp only [hread] at hblock happend ⊢
      have hbpos : 0 < (b :: bs).length := Nat.succ_pos _
      generalize b :: bs = block at *
      have htext : text <+: content r := ⟨tail, h.symm⟩
      have hprefix : block <+: content r := ⟨_, happend⟩
      by_cases hle : text.length ≤ block.length
      · obtain ⟨rest, rfl⟩ := List.prefix_of_prefix_length_le htext hprefix hle
        simp only [S.scan_append_of_done hscan, if_pos hle]
        simp [← List.append_assoc]
      · obtain ⟨more, rfl⟩ :=
          List.prefix_of_prefix_length_le hprefix htext (Nat.le_of_not_le hle)
        have hmne : more ≠ [] := fun h0 => hle (by simp [h0])
        obtain ⟨s', hs', hscan'⟩ := S.scan_part hscan hmne
        have hrest : content r' = more ++ tail := by
          rw [← List.append_right_inj block, happend, h, List.append_assoc]
        have hlen : (block ++ more).length - block.length = more.length := by simp
        rw [List.length_append] at hfuel hfuel'
        have decoded := ih fuel' (G.grow cap buf.length) (buf ++ block) hscan' hrest
          (by rw [List.length_append]; omega) (by omega) (by omega) hmne
          (List.length_pos_of_ne_nil hmne)
        simp only [hs', if_neg hle, hlen, decoded]
        simp

theorem readValue_spaces (fuel cap : Nat) (buf : List β) {r : ρ}
    (h : ∀ b ∈ buf ++ content r, S.space b = true) (hcap : buf.length ≤ cap)
    (hfuel : (content r).length < fuel) :
    ∃ r', readValue G S fuel cap buf S.start r = .failed .eof r' := by
  induction fuel generalizing cap buf r with
  | zero => omega
  | succ fuel ih =>
    have hroom : buf.length < G.grow cap buf.length := G.room hcap
    have hblock := length_read_le (G.grow cap buf.length - buf.length) r
    have happend := read_append (G.grow cap buf.length - buf.length) r
    simp only [readValue]
    match hread : read (G.grow cap buf.length - buf.length) r with
    | ([], r') =>
      have hbuf : buf.all S.space = true :=
        List.all_eq_true.mpr fun b hb => h b (List.mem_append_left _ hb)
      exact ⟨r', by simp [S.not_complete_start, hbuf]⟩
    | (b :: bs, r') =>
      simp only [hread] at hblock happend ⊢
      rw [← happend] at h hfuel
      have hscan : S.scan S.start (b :: bs) = .more S.start :=
        S.scan_spaces fun c hc => h c (List.mem_append_right _ (List.mem_append_left _ hc))
      simp only [hscan]
      rw [List.length_append, List.length_cons] at hfuel
      rw [List.length_cons] at hblock
      refine ih _ _ (by rwa [List.append_assoc]) ?_ (by omega)
      simp only [List.length_append, List.length_cons]
      omega

theorem readValue_value {fuel cap : Nat} {buf text surplus : List β} {s : σ} {r r' : ρ}
    (h : readValue G S fuel cap buf s r = .value text surplus r') :
    text ++ surplus ++ content r' = buf ++ content r := by
  induction fuel generalizing cap buf s r with
  | zero => exact nomatch h
  | succ fuel ih =>
    have happend := read_append (G.grow cap buf.length - buf.length) r
    simp only [readValue] at h
    match hread : read (G.grow cap buf.length - buf.length) r with
    | ([], r₁) =>
      simp only [hread] at h happend
      split at h
      · cases h
        rw [← happend]
        simp
      · exact nomatch h
    | (b :: bs, r₁) =>
      simp only [hread] at h happend
      generalize b :: bs = block at *
      rw [← happend, ← List.append_assoc]
      split at h
      · exact ih h
      · rename_i rest hscan
        cases h
        obtain ⟨used, rfl⟩ := S.scan_done_suffix hscan
        simp [← List.append_assoc]
      · exact nomatch h

end Decode

section Succession

variable {ρ : Type u} {β : Type v} {σ : Type w} [BlockReader ρ β] {G : Growth}
  {S : Scanner σ β}

theorem decode_frame (lead : List β) {tail : List β} (hlead : ∀ b ∈ lead, S.space b = true)
    (f : S.Frame) {r : ρ} (h : content r = lead ++ f.text ++ tail) :
    decode G S r = .value (lead ++ f.text)
      ((fetch G (lead ++ f.text).length r).1.drop (lead ++ f.text).length)
      (fetch G (lead ++ f.text).length r).2 := by
  have hlen : (lead ++ f.text).length ≤ (content r).length + 1 := by
    rw [h]
    simp only [List.length_append]
    omega
  exact readValue_frame _ _ _ _ (S.scan_lead lead hlead f) h (Nat.le_refl 0) hlen (Nat.le_refl _)

theorem receive_frame (lead : List β) {tail : List β} (hlead : ∀ b ∈ lead, S.space b = true)
    (f : S.Frame) {r : ρ} (h : content r = lead ++ f.text ++ tail) :
    receive G S r = (.ok f.text, (fetch G (lead ++ f.text).length r).2) := by
  rw [receive, decode_frame lead hlead f h]
  exact congrArg (fun t => (Except.ok t, _)) (S.strip_lead lead hlead f)

theorem receive_spaces {r : ρ} (h : ∀ b ∈ content r, S.space b = true) :
    (receive G S r).1 = .error .eof := by
  obtain ⟨r', h'⟩ := readValue_spaces (G := G) (S := S) ((content r).length + 1) 0 [] (r := r)
    (by simpa using h) (Nat.le_refl 0) (Nat.lt_succ_self _)
  rw [receive, decode, h']

theorem solid_receive {r : ρ} {text : List β} (h : (receive G S r).1 = .ok text) :
    S.solid text + S.solid (content (receive G S r).2) ≤ S.solid (content r) := by
  rw [receive] at h ⊢
  cases hd : decode G S r with
  | value text' surplus r' =>
    simp only [hd, Except.ok.injEq] at h ⊢
    subst h
    have hcontent := readValue_value hd
    rw [List.nil_append] at hcontent
    have := S.solid_strip_le text'
    rw [← hcontent, S.solid_append, S.solid_append]
    omega
  | failed why r' => simp [hd] at h

theorem solid_receives {n : Nat} {r : ρ} {texts : List (List β)} {others : List _}
    (h : receives G S n r = texts.map .ok ++ others) :
    S.solid texts.flatten ≤ S.solid (content r) := by
  induction texts generalizing n r with
  | nil => exact Nat.zero_le _
  | cons text texts ih =>
    obtain _ | n := n
    · simp [receives] at h
    rw [receives, List.map_cons, List.cons_append, List.cons.injEq] at h
    have hfirst := solid_receive h.1
    have hothers := ih h.2
    rw [List.flatten_cons, S.solid_append]
    omega

theorem not_receives {sep : β} (hsep : S.space sep = true) {extra : List β}
    (hextra : extra ≠ []) {fs : List S.Frame} {r : ρ} (h : extra ++ content r = S.wire sep fs)
    {n : Nat} {others : List _} :
    receives G S n r ≠ fs.map (fun f => .ok f.text) ++ others := by
  intro hall
  rw [show fs.map (fun f => (.ok f.text : Except Failure (List β))) =
    (fs.map Scanner.Frame.text).map .ok by rw [List.map_map]; rfl] at hall
  have hsolid := solid_receives hall
  have hlost := S.solid_lt_of_lost hsep hextra h
  rw [List.flatMap_def] at hlost
  omega

/-- All frames are received, and then the end of the stream, exactly if the blocks are
aligned with the frames. -/
theorem receives_iff {sep : β} (hsep : S.space sep = true) (lead : Nat) (hlead : lead ≤ 1)
    (fs : List S.Frame) {r : ρ} (h : content r = List.replicate lead sep ++ S.wire sep fs) :
    receives G S (fs.length + 1) r = fs.map (fun f => .ok f.text) ++ [.error .eof] ↔
      Aligned G S lead r fs := by
  have hspace (k : Nat) : ∀ b ∈ List.replicate k sep, S.space b = true := by
    intro b hb
    rw [List.eq_of_mem_replicate hb, hsep]
  induction fs generalizing lead r with
  | nil =>
    have : (receive G S r).1 = .error .eof :=
      receive_spaces (by rw [h]; simpa using hspace lead)
    simp [receives, Aligned, this]
  | cons f fs ih =>
    rw [S.wire_cons, ← List.append_assoc] at h
    have hlen : (List.replicate lead sep ++ f.text).length = lead + f.text.length := by simp
    have hfirst := receive_frame (G := G) _ (hspace lead) f h
    have htaken := fetch_append (G := G) (lead + f.text.length) r
    have hneed : lead + f.text.length ≤ (fetch G (lead + f.text.length) r).1.length :=
      length_fetchMore _ _ _ _ _ (Nat.le_refl 0) (Nat.le_refl _)
        (by rw [h, List.length_append, hlen]; omega)
    rw [hlen] at hfirst
    simp only [List.length_cons, receives, Aligned, hfirst, List.map_cons, List.cons_append,
      List.cons.injEq, true_and]
    generalize fetch G (lead + f.text.length) r = taken at *
    -- what was taken is the frame and some more, the frame's own separator first
    obtain ⟨extra, hextra⟩ : List.replicate lead sep ++ f.text <+: taken.1 :=
      List.prefix_of_prefix_length_le ⟨_, h.symm⟩ ⟨_, htaken⟩ (by rwa [hlen])
    have hrest : extra ++ content taken.2 = sep :: S.wire sep fs := by
      rw [← List.append_right_inj (List.replicate lead sep ++ f.text), ← List.append_assoc, hextra,
        htaken, h]
    rw [← hextra, List.length_append, hlen, Nat.add_sub_add_left]
    match extra with
    | [] =>
      exact (ih 1 (Nat.le_refl 1) hrest).trans
        (iff_and_self.mpr fun _ => Nat.le_succ _)
    | [b] =>
      exact (ih 0 (Nat.zero_le 1) (List.cons.inj hrest).2).trans
        (iff_and_self.mpr fun _ => Nat.le_refl _)
    | b :: c :: cs =>
      refine iff_of_false (not_receives (n := fs.length + 1) hsep (by simp)
        (List.cons.inj hrest).2) fun haligned => ?_
      have := haligned.1
      simp only [List.length_cons] at this
      omega

end Succession

section Cuts

variable {β : Type v} {σ : Type w} {G : Growth} {S : Scanner σ β} {size : Nat} [Fact (0 < size)]

theorem fetchMore_within (fuel cap len need : Nat) {r : Buffered size (Pieces β) β}
    {ps later : List (List β)} (hr : r.src.list = ps ++ later) (hcap : len ≤ cap)
    (hneed : need ≤ (r.buf ++ ps.flatten).length) (hpos : 0 < need) :
    ∃ ps', (fetchMore G fuel cap len need r).2.src.list = ps' ++ later ∧
      (fetchMore G fuel cap len need r).1 ++
        ((fetchMore G fuel cap len need r).2.buf ++ ps'.flatten) = r.buf ++ ps.flatten := by
  induction fuel generalizing cap len need r ps with
  | zero => exact ⟨ps, hr, rfl⟩
  | succ fuel ih =>
    have hroom : len < G.grow cap len := G.room hcap
    have hblock := length_read_le (G.grow cap len - len) r
    obtain ⟨ps', hlist, happend⟩ := Buffered.read_within (G.grow cap len - len) hr
      (List.ne_nil_of_length_pos (by omega))
    simp only [fetchMore]
    split
    · exact ⟨ps', hlist, happend⟩
    · have hlen := congrArg List.length happend
      rw [List.length_append] at hlen
      obtain ⟨ps'', hlist', happend'⟩ := ih (G.grow cap len)
        (len + (read (G.grow cap len - len) r).1.length)
        (need - (read (G.grow cap len - len) r).1.length) hlist
        (by omega) (by omega) (by omega)
      refine ⟨ps'', hlist', ?_⟩
      rw [List.append_assoc, happend']
      exact happend

theorem aligned_of_cuts {sep : β} {fs : List S.Frame} {lead : Nat}
    {r : Buffered size (Pieces β) β} (ps : List (List β)) {cuts : List (List (List β))}
    (hr : r.src.list = ps ++ cuts.flatten) (hps : r.buf ++ ps.flatten = List.replicate lead sep)
    (hcuts : cuts.map List.flatten = fs.map fun f => f.text ++ [sep]) :
    Aligned G S lead r fs := by
  induction fs generalizing lead r ps cuts with
  | nil => trivial
  | cons f fs ih =>
    obtain _ | ⟨cut, cuts⟩ := cuts
    · cases hcuts
    obtain ⟨hcut, hcuts⟩ := List.cons.inj hcuts
    rw [List.flatten_cons, ← List.append_assoc] at hr
    have hline : r.buf ++ (ps ++ cut).flatten = List.replicate lead sep ++ f.text ++ [sep] := by
      rw [List.flatten_append, ← List.append_assoc, hps, hcut, List.append_assoc]
    have hpos := List.length_pos_of_ne_nil f.text_ne_nil
    have hlen : (r.buf ++ (ps ++ cut).flatten).length = lead + f.text.length + 1 := by
      rw [hline]
      simp [Nat.add_assoc]
    obtain ⟨ps', hlist, happend⟩ := fetchMore_within (G := G) (lead + f.text.length) 0 0
      (lead + f.text.length) hr (Nat.le_refl 0) (by omega) (by omega)
    have hneed : lead + f.text.length ≤ (fetch G (lead + f.text.length) r).1.length := by
      refine length_fetchMore _ _ _ _ _ (Nat.le_refl 0) (Nat.le_refl _) ?_
      change _ ≤ (r.buf ++ r.src.list.flatten).length
      rw [hr, List.flatten_append, ← List.append_assoc, List.length_append, hlen]
      omega
    change (fetch G (lead + f.text.length) r).2.src.list = _ at hlist
    change (fetch G (lead + f.text.length) r).1 ++
      ((fetch G (lead + f.text.length) r).2.buf ++ _) = _ at happend
    simp only [Aligned]
    generalize fetch G (lead + f.text.length) r = taken at *
    have hsum := congrArg List.length happend
    rw [List.length_append, hlen] at hsum
    refine ⟨by omega, ih ps' hlist ?_ hcuts⟩
    calc taken.2.buf ++ ps'.flatten
        = (List.replicate lead sep ++ f.text ++ List.replicate 1 sep).drop taken.1.length := by
          rw [List.replicate_one, ← hline, ← happend, List.drop_left]
      _ = List.replicate (lead + f.text.length + 1 - taken.1.length) sep := by
          rw [List.drop_append, List.drop_eq_nil_of_le (by simpa using hneed), List.nil_append,
            List.drop_replicate]
          congr 1
          simp only [List.length_append, List.length_replicate]
          omega

end Cuts
end AegisSdk.Library
