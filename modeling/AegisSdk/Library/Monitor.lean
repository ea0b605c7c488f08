import Mathlib.Data.List.DropRight

/-!
Monitors over event logs. A monitor reads a log event by event, keeps a summary of
what it has read and says which event it allows next. That a program's log is
accepted is proved piece by piece along the program; what acceptance means for every
prefix of the log is proved once, by induction on the log.
-/

set_option autoImplicit false
set_option relaxedAutoImplicit false

namespace AegisSdk.Library

universe u v

structure Monitor (σ : Type u) (ε : Type v) where
  step : σ → ε → σ
  allows : σ → ε → Prop

namespace Monitor

variable {σ : Type u} {ε : Type v} (m : Monitor σ ε)

def after (s : σ) (log : List ε) : σ := log.foldl m.step s

def Accepts : σ → List ε → Prop
  | _, [] => True
  | s, e :: log => m.allows s e ∧ Accepts (m.step s e) log

@[simp] theorem after_nil (s : σ) : m.after s [] = s := rfl

@[simp] theorem after_cons (s : σ) (e : ε) (log : List ε) :
    m.after s (e :: log) = m.after (m.step s e) log := rfl

@[simp] theorem after_append (s : σ) (xs ys : List ε) :
    m.after s (xs ++ ys) = m.after (m.after s xs) ys :=
  List.foldl_append

@[simp] theorem accepts_nil (s : σ) : m.Accepts s [] := trivial

@[simp] theorem accepts_cons (s : σ) (e : ε) (log : List ε) :
    m.Accepts s (e :: log) ↔ m.allows s e ∧ m.Accepts (m.step s e) log := Iff.rfl

theorem accepts_append (s : σ) (xs ys : List ε) :
    m.Accepts s (xs ++ ys) ↔ m.Accepts s xs ∧ m.Accepts (m.after s xs) ys := by
  induction xs generalizing s with
  | nil => simp
  | cons e xs ih => simp [ih, and_assoc]

theorem Accepts.initial {m : Monitor σ ε} {s : σ} {p log : List ε}
    (h : m.Accepts s log) (hp : p <+: log) : m.Accepts s p := by
  obtain ⟨rest, rfl⟩ := hp
  exact ((m.accepts_append s p rest).mp h).1

/-- History induction: what allowed events preserve holds of the whole log. -/
theorem Accepts.induction {m : Monitor σ ε} {s : σ} {log : List ε} (h : m.Accepts s log)
    (I : List ε → σ → Prop) (start : I [] s)
    (next : ∀ q t e, I q t → m.allows t e → I (q ++ [e]) (m.step t e)) :
    I log (m.after s log) := by
  induction log using List.reverseRecOn with
  | nil => exact start
  | append_singleton q e ih =>
    obtain ⟨hq, he⟩ := (m.accepts_append s q [e]).mp h
    rw [after_append]
    exact next q _ e (ih hq) he.1

/-- The event after an accepted prefix is one the summary of that prefix allows. -/
theorem Accepts.allowed {m : Monitor σ ε} {s : σ} {q : List ε} {e : ε}
    (h : m.Accepts s (q ++ [e])) : m.allows (m.after s q) e :=
  ((m.accepts_append s q [e]).mp h).2.1

end Monitor

section Everywhere

variable {ε : Type v} {P : List ε → ε → Prop}

/-- `P` holds of every event of the log with what came before it, `past` being what came
before the log. -/
def Everywhere (P : List ε → ε → Prop) (past log : List ε) : Prop :=
  ∀ pre e post, log = pre ++ e :: post → P (past ++ pre) e

@[simp] theorem everywhere_nil (past : List ε) : Everywhere P past [] := by
  intro pre e post h
  simp at h

@[simp] theorem everywhere_cons (past : List ε) (e : ε) (log : List ε) :
    Everywhere P past (e :: log) ↔ P past e ∧ Everywhere P (past ++ [e]) log := by
  constructor
  · intro h
    refine ⟨by simpa using h [] e log rfl, ?_⟩
    rintro pre e' post rfl
    simpa using h (e :: pre) e' post rfl
  · rintro ⟨he, hlog⟩ pre e' post heq
    cases pre with
    | nil =>
      obtain ⟨rfl, -⟩ := List.cons.inj heq
      simpa using he
    | cons x pre =>
      obtain ⟨rfl, rfl⟩ := List.cons.inj heq
      simpa using hlog pre e' post rfl

instance decidableEverywhere [∀ pre e, Decidable (P pre e)] :
    ∀ past log : List ε, Decidable (Everywhere P past log)
  | past, [] => isTrue (everywhere_nil past)
  | past, e :: log =>
    have := decidableEverywhere (past ++ [e]) log
    decidable_of_iff (P past e ∧ Everywhere P (past ++ [e]) log) (everywhere_cons past e log).symm

theorem Everywhere.at {past log : List ε} (h : Everywhere P past log) {k : Nat} {e : ε}
    (he : log[k]? = some e) : P (past ++ log.take k) e := by
  obtain ⟨hk, rfl⟩ := List.getElem?_eq_some_iff.mp he
  refine h (log.take k) log[k] (log.drop (k + 1)) ?_
  rw [List.getElem_cons_drop, List.take_append_drop]

theorem everywhere_append (past xs ys : List ε) :
    Everywhere P past (xs ++ ys) ↔ Everywhere P past xs ∧ Everywhere P (past ++ xs) ys := by
  induction xs generalizing past with
  | nil => simp
  | cons e xs ih => simp [ih, and_assoc]

theorem everywhere_concat (past xs : List ε) (e : ε) :
    Everywhere P past (xs ++ [e]) ↔ Everywhere P past xs ∧ P (past ++ xs) e := by
  simp [everywhere_append]

theorem Monitor.Accepts.induction_everywhere {σ : Type u} {m : Monitor σ ε} {s : σ} {log : List ε}
    (h : m.Accepts s log) (hP : Everywhere P [] log) (I : List ε → σ → Prop) (start : I [] s)
    (next : ∀ q t e, I q t → m.allows t e → P q e → I (q ++ [e]) (m.step t e)) :
    I log (m.after s log) := by
  refine h.induction (fun log t => Everywhere P [] log → I log t) (fun _ => start) ?_ hP
  intro q t e ih hallows hlog
  obtain ⟨hq, hnow⟩ := (everywhere_concat _ _ _).mp hlog
  exact next q t e (ih hq) hallows hnow

theorem everywhere_of_forall {log : List ε} (h : ∀ e ∈ log, ∀ pre, P pre e) (past : List ε) :
    Everywhere P past log := by
  rintro pre e post rfl
  exact h e (by simp) _

theorem everywhere_skip {xs : List ε} (h : ∀ e ∈ xs, ∀ pre, P pre e) (past ys : List ε) :
    Everywhere P past (xs ++ ys) ↔ Everywhere P (past ++ xs) ys := by
  rw [everywhere_append]
  exact and_iff_right (everywhere_of_forall h past)

end Everywhere

section Since

variable {ε : Type v} (opens : ε → Bool)

def since (log : List ε) : List ε := log.rtakeWhile fun e => !opens e

@[simp] theorem since_nil : since opens [] = [] := rfl

theorem since_concat (log : List ε) (e : ε) :
    since opens (log ++ [e]) = if opens e then [] else since opens log ++ [e] := by
  unfold since
  rw [List.rtakeWhile_concat]
  cases opens e <;> simp

theorem since_concat_of_not {e : ε} (h : opens e = false) (log : List ε) :
    since opens (log ++ [e]) = since opens log ++ [e] := by
  simp [since_concat, h]

theorem since_concat_of_opens {e : ε} (h : opens e = true) (log : List ε) :
    since opens (log ++ [e]) = [] := by
  simp [since_concat, h]

theorem since_append_of_not {xs : List ε} (h : ∀ x ∈ xs, opens x = false) (log : List ε) :
    since opens (log ++ xs) = since opens log ++ xs := by
  induction xs generalizing log with
  | nil => simp
  | cons x xs ih =>
    obtain ⟨hx, hxs⟩ := List.forall_mem_cons.mp h
    rw [List.append_cons, ih hxs, since_concat_of_not opens hx, List.append_assoc]
    rfl

theorem since_append_of_mem {x : ε} {xs : List ε} (hx : x ∈ xs) (h : opens x = true)
    (log : List ε) : since opens (log ++ xs) = since opens xs := by
  induction xs using List.reverseRecOn with
  | nil => simp at hx
  | append_singleton ys y ih =>
    rw [← List.append_assoc, since_concat, since_concat]
    cases hy : opens y with
    | true => rfl
    | false =>
      have hmem : x ∈ ys := by
        rcases List.mem_append.mp hx with hx | hx
        · exact hx
        · rw [List.mem_singleton.mp hx, hy] at h
          cases h
      simp [ih hmem]

theorem since_suffix (log : List ε) : since opens log <:+ log :=
  List.rtakeWhile_suffix _ _

end Since

section Parts

variable {ε : Type v} (opens : ε → Bool)

/-- What stands before the first opening event belongs to no part. -/
def parts : List ε → List (List ε)
  | [] => []
  | e :: log => if opens e then (e :: log.takeWhile fun e => !opens e) :: parts log else parts log

@[simp] theorem parts_nil : parts opens [] = [] := rfl

theorem parts_skip {xs : List ε} (h : ∀ x ∈ xs, opens x = false) (log : List ε) :
    parts opens (xs ++ log) = parts opens log := by
  induction xs with
  | nil => rfl
  | cons x xs ih =>
    have hx : opens x = false := h x (by simp)
    rw [List.cons_append, parts, hx]
    exact ih fun y hy => h y (by simp [hy])

theorem parts_next {e : ε} {xs : List ε} (he : opens e = true) (hx : ∀ x ∈ xs, opens x = false)
    {log : List ε} (hlog : ∀ y, log.head? = some y → opens y = true) :
    parts opens (e :: (xs ++ log)) = (e :: xs) :: parts opens log := by
  have hquiet : xs.takeWhile (fun e => !opens e) = xs := by
    rw [List.takeWhile_eq_self_iff]
    intro x hxs
    simp [hx x hxs]
  have hstop : log.takeWhile (fun e => !opens e) = [] := by
    cases log with
    | nil => rfl
    | cons y log =>
      have hy : opens y = true := hlog y rfl
      simp [hy]
  have hpart : (xs ++ log).takeWhile (fun e => !opens e) = xs := by
    rw [List.takeWhile_append_of_pos (fun x h => by simp [hx x h]), hstop, List.append_nil]
  rw [parts, if_pos he, hpart, parts_skip opens hx]

theorem parts_last {e : ε} {xs : List ε} (he : opens e = true) (hx : ∀ x ∈ xs, opens x = false) :
    parts opens (e :: xs) = [e :: xs] := by
  have h : parts opens (e :: (xs ++ [])) = (e :: xs) :: parts opens [] :=
    parts_next opens he hx (by simp)
  rwa [List.append_nil] at h

theorem flatten_parts {log : List ε} (h : ∀ y, log.head? = some y → opens y = true) :
    (parts opens log).flatten = log := by
  have whole : ∀ log : List ε,
      (log.takeWhile fun e => !opens e) ++ (parts opens log).flatten = log := by
    intro log
    induction log with
    | nil => rfl
    | cons e log ih => cases he : opens e <;> simp [parts, he, ih]
  have hnone : (log.takeWhile fun e => !opens e) = [] := by
    cases log with
    | nil => rfl
    | cons y log =>
      have hy : opens y = true := h y rfl
      simp [hy]
  have hwhole := whole log
  rwa [hnone] at hwhole

end Parts

section Find

variable {ε : Type v} {kind : ε → Bool}

theorem split_after {xs ys pre post : List ε} {e : ε} (h : xs ++ ys = pre ++ e :: post)
    (hx : ∀ x ∈ xs, kind x = false) (he : kind e = true) :
    ∃ pre', pre = xs ++ pre' ∧ ys = pre' ++ e :: post := by
  rcases List.append_eq_append_iff.mp h with ⟨pre', hpre, hys⟩ | ⟨rest, hxs, hpost⟩
  · exact ⟨pre', hpre, hys⟩
  · cases rest with
    | nil => exact ⟨[], by simpa using hxs.symm, by simpa using hpost.symm⟩
    | cons e' rest =>
      obtain ⟨rfl, _⟩ := List.cons.inj hpost
      have := hx e (by simp [hxs])
      simp [he] at this

theorem take_concat_initial {log : List ε} {k : Nat} {e : ε} (h : log[k]? = some e) :
    log.take k ++ [e] <+: log := by
  obtain ⟨hk, rfl⟩ := List.getElem?_eq_some_iff.mp h
  rw [List.take_append_getElem hk]
  exact List.take_prefix _ _

theorem split_of_any {log : List ε} {k : Nat} (h : (log[k]?).any kind = true) :
    ∃ e, kind e = true ∧ log = log.take k ++ e :: log.drop (k + 1) := by
  cases hk : log[k]? with
  | none => simp [hk] at h
  | some e =>
    rw [hk] at h
    obtain ⟨hlt, rfl⟩ := List.getElem?_eq_some_iff.mp hk
    refine ⟨log[k], h, ?_⟩
    rw [List.getElem_cons_drop, List.take_append_drop]

theorem split_unique {xs ys pre post : List ε} {e e' : ε}
    (h : xs ++ e :: ys = pre ++ e' :: post) (hx : ∀ x ∈ xs, kind x = false)
    (hy : ∀ y ∈ ys, kind y = false) (he : kind e' = true) :
    pre = xs ∧ e' = e ∧ post = ys := by
  have notin : ∀ l : List ε, (∀ x ∈ l, kind x = false) → e' ∉ l := by
    intro l hl hm
    simp [hl e' hm] at he
  obtain ⟨rfl, rfl, rfl⟩ :=
    (List.append_cons_inj_of_notMem (notin xs hx) (notin ys hy)).mp h
  exact ⟨rfl, rfl, rfl⟩

theorem split_last {xs ys pre post : List ε} {e e' : ε} (h : xs ++ e :: ys = pre ++ e' :: post)
    (he : kind e = true) (he' : kind e' = true) (hy : ∀ y ∈ ys, kind y = false)
    (hpost : ∀ y ∈ post, kind y = false) : e = e' ∧ ys = post := by
  rcases List.append_eq_append_iff.mp h with ⟨rest, -, hys⟩ | ⟨rest, -, hrest⟩
  · cases rest with
    | nil => exact List.cons.inj hys
    | cons x rest =>
      have hmem : e' ∈ ys := by
        rw [(List.cons.inj hys).2]
        exact List.mem_append_right _ List.mem_cons_self
      rw [hy e' hmem] at he'
      cases he'
  · cases rest with
    | nil =>
      obtain ⟨rfl, rfl⟩ := List.cons.inj hrest
      exact ⟨rfl, rfl⟩
    | cons x rest =>
      have hmem : e ∈ post := by
        rw [(List.cons.inj hrest).2]
        exact List.mem_append_right _ List.mem_cons_self
      rw [hpost e hmem] at he
      cases he

end Find
end AegisSdk.Library
