import AegisSdk.Library.Task

/-!
What tasks say. A state keeps a log of its events, and an observer hears some of them. `Says`
names what a task says when it gives a result, and bounds what it says when it fails; `Ends`
bounds what it says either way. Outputs are appended where tasks are put in a row.
-/

set_option autoImplicit false
set_option relaxedAutoImplicit false

namespace AegisSdk.Library

structure Output (σ δ κ : Type) where
  trace : σ → List δ
  /-- what is heard of an event -/
  view : δ → Option κ

namespace Output

variable {ε σ δ κ α β : Type} (O : Output σ δ κ)

def heard (s : σ) : List κ := (O.trace s).filterMap O.view

def since (s s' : σ) : List κ := (O.heard s').drop (O.heard s).length

def After (P : σ → Prop) (l : List κ) (s : σ) : Prop := P s ∧ O.heard s = l

/-- From a state in `P` the task gives a result and a state in `Q` and says `out`, or it fails
and says something of `F`. -/
def Says (P : σ → Prop) (x : EStateM ε σ α) (out : List κ) (Q : α → σ → Prop)
    (F : List κ → Prop) : Prop :=
  ∀ l, Triple (O.After P l) x (fun a => O.After (Q a) (l ++ out))
    fun _ s => ∃ t, F t ∧ O.heard s = l ++ t

/-- From a state in `P` the task says something of `K`, however it ends. -/
def Ends (P : σ → Prop) (x : EStateM ε σ α) (K : List κ → Prop) : Prop :=
  ∀ l, Triple (O.After P l) x (fun _ s => ∃ t, K t ∧ O.heard s = l ++ t)
    fun _ s => ∃ t, K t ∧ O.heard s = l ++ t

variable {O} {P P' : σ → Prop} {x : EStateM ε σ α} {f : α → EStateM ε σ β}
  {out out' : List κ} {Q Q' : α → σ → Prop} {R : β → σ → Prop} {F F' K K' : List κ → Prop}
  {s s' : σ} {e : δ} {l : List κ}

theorem heard_same (h : O.trace s' = O.trace s) : O.heard s' = O.heard s := by
  unfold heard
  rw [h]

theorem heard_record (h : O.trace s' = O.trace s ++ [e]) :
    O.heard s' = O.heard s ++ (O.view e).toList := by
  unfold heard
  rw [h, List.filterMap_append]
  cases hview : O.view e <;> simp [hview]

theorem heard_silent (h : O.trace s' = O.trace s ++ [e]) (he : O.view e = none) :
    O.heard s' = O.heard s := by
  rw [heard_record h, he, Option.toList_none, List.append_nil]

theorem since_eq (h : O.heard s' = O.heard s ++ l) : O.since s s' = l := by
  rw [since, h, List.drop_left]

theorem Says.run (h : ∀ s, P s → ∃ a s', x s = .ok a s' ∧ Q a s' ∧ O.heard s' = O.heard s ++ out) :
    O.Says P x out Q F := by
  rintro l s ⟨hs, hl⟩
  obtain ⟨a, s', hrun, hq, hheard⟩ := h s hs
  rw [hrun]
  exact ⟨hq, by rw [hheard, hl]⟩

theorem Says.log {g : σ → σ} {Q : Unit → σ → Prop}
    (htrace : ∀ s, P s → ∃ e, O.trace (g s) = O.trace s ++ [e] ∧ (O.view e).toList = out)
    (h : ∀ s, P s → Q () (g s)) : O.Says P (modify g : EStateM ε σ Unit) out Q F := by
  refine Says.run fun s hs => ⟨(), g s, rfl, h s hs, ?_⟩
  obtain ⟨e, hrecord, rfl⟩ := htrace s hs
  exact heard_record hrecord

theorem Says.pure {a : α} (h : ∀ s, P s → Q a s) :
    O.Says P (Pure.pure a : EStateM ε σ α) [] Q F := by
  rintro l s ⟨hs, hl⟩
  exact ⟨h s hs, hl.trans (List.append_nil l).symm⟩

theorem Says.throw {err : ε} (h : F []) :
    O.Says P (MonadExcept.throw err : EStateM ε σ α) out Q F := by
  rintro l s ⟨-, hl⟩
  exact ⟨[], h, hl.trans (List.append_nil l).symm⟩

theorem Says.get {f : σ → EStateM ε σ β} (h : ∀ a, P a → O.Says P (f a) out R F) :
    O.Says P (MonadState.get >>= f) out R F := by
  rintro l s ⟨hs, hl⟩
  exact h s hs l s ⟨hs, hl⟩

theorem Says.update {g : σ → σ} {Q : Unit → σ → Prop} (htrace : ∀ s, O.trace (g s) = O.trace s)
    (h : ∀ s, P s → Q () (g s)) : O.Says P (modify g : EStateM ε σ Unit) [] Q F := by
  rintro l s ⟨hs, hl⟩
  refine ⟨h s hs, ?_⟩
  show O.heard (g s) = l ++ []
  rw [heard_same (htrace s), hl, List.append_nil]

theorem Says.bind (hx : O.Says P x out Q F) (hf : ∀ a, O.Says (Q a) (f a) out' R F')
    (hF : ∀ t, F' t → F (out ++ t)) : O.Says P (x >>= f) (out ++ out') R F := by
  intro l
  refine (hx l).bind fun a => ((hf a) (l ++ out)).weaken (fun _ h => h) ?_ ?_
  · rintro b s ⟨hr, hl⟩
    exact ⟨hr, hl.trans (List.append_assoc l out out')⟩
  · rintro _ s ⟨t, ht, hl⟩
    exact ⟨out ++ t, hF t ht, hl.trans (List.append_assoc l out t)⟩

theorem Says.seq (hx : O.Says P x out Q F)
    (hf : ∀ a, O.Says (Q a) (f a) out' R fun _ => False) :
    O.Says P (x >>= f) (out ++ out') R F :=
  hx.bind hf fun _ h => h.elim

theorem Says.after (hx : O.Says P x [] Q F) (hf : ∀ a, O.Says (Q a) (f a) out R F) :
    O.Says P (x >>= f) out R F :=
  hx.bind hf fun _ h => h

theorem Says.before (hx : O.Says P x out Q F)
    (hf : ∀ a, O.Says (Q a) (f a) [] R fun _ => False) : O.Says P (x >>= f) out R F := by
  have h := hx.seq hf
  rwa [List.append_nil] at h

theorem Says.weaken (h : O.Says P x out Q F) (hP : ∀ s, P' s → P s)
    (hQ : ∀ a s, Q a s → Q' a s) (hF : ∀ t, F t → F' t) : O.Says P' x out Q' F' := by
  intro l
  refine (h l).weaken ?_ ?_ ?_
  · rintro s ⟨hs, hl⟩
    exact ⟨hP s hs, hl⟩
  · rintro a s ⟨hs, hl⟩
    exact ⟨hQ a s hs, hl⟩
  · rintro _ s ⟨t, ht, hl⟩
    exact ⟨t, hF t ht, hl⟩

theorem Says.assume {p : Prop} (h : p → O.Says P x out Q F) :
    O.Says (fun s => p ∧ P s) x out Q F := by
  rintro l s ⟨⟨hp, hs⟩, hl⟩
  exact h hp l s ⟨hs, hl⟩

theorem Says.ignore {x : EStateM ε σ Unit} {Q : Unit → σ → Prop}
    (h : O.Says P x out Q fun _ => False) : O.Says P (Library.ignore x) out Q F := by
  intro l s hs
  cases hx : x s with
  | ok a s' =>
    rw [ignore_ok hx]
    exact (h l).ok hs hx
  | error err s' =>
    obtain ⟨t, hfalse, -⟩ := (h l).error hs hx
    exact hfalse.elim

theorem Says.ends (h : O.Says P x out Q F) (hout : K out) (hF : ∀ t, F t → K t) :
    O.Ends P x K := by
  intro l
  refine (h l).weaken (fun _ hs => hs) ?_ ?_
  · rintro a s ⟨-, hl⟩
    exact ⟨out, hout, hl⟩
  · rintro _ s ⟨t, ht, hl⟩
    exact ⟨t, hF t ht, hl⟩

theorem Ends.assume {p : Prop} (h : p → O.Ends P x K) : O.Ends (fun s => p ∧ P s) x K := by
  rintro l s ⟨⟨hp, hs⟩, hl⟩
  exact h hp l s ⟨hs, hl⟩

theorem Ends.weaken (h : O.Ends P x K) (hP : ∀ s, P' s → P s) (hK : ∀ t, K t → K' t) :
    O.Ends P' x K' := by
  rintro l s ⟨hs, hl⟩
  refine (h l).weaken (fun _ hs => hs) ?_ ?_ s ⟨hP s hs, hl⟩
  all_goals
    rintro _ s' ⟨t, ht, hl'⟩
    exact ⟨t, hK t ht, hl'⟩

theorem Ends.get {f : σ → EStateM ε σ β} (h : ∀ a, P a → O.Ends P (f a) K) :
    O.Ends P (MonadState.get >>= f) K := by
  rintro l s ⟨hs, hl⟩
  exact h s hs l s ⟨hs, hl⟩

theorem Says.bind_ends (hx : O.Says P x out Q F) (hf : ∀ a, O.Ends (Q a) (f a) K')
    (hF : ∀ t, F t → K t) (hK : ∀ t, K' t → K (out ++ t)) : O.Ends P (x >>= f) K := by
  intro l s hs
  cases hrun : x s with
  | error err s' =>
    obtain ⟨t, ht, hl⟩ := (hx l).error hs hrun
    rw [bind_error hrun]
    exact ⟨t, hF t ht, hl⟩
  | ok a s' =>
    have hs' := (hx l).ok hs hrun
    rw [bind_ok hrun]
    refine (((hf a) (l ++ out)).weaken (fun _ h => h) ?_ ?_) s' hs'
    all_goals
      rintro _ s'' ⟨t, ht, hl⟩
      exact ⟨out ++ t, hK t ht, hl.trans (List.append_assoc l out t)⟩

theorem Says.seq_ends (hx : O.Says P x out Q fun _ => False) (hf : ∀ a, O.Ends (Q a) (f a) K')
    (hK : ∀ t, K' t → K (out ++ t)) : O.Ends P (x >>= f) K :=
  hx.bind_ends hf (fun _ h => h.elim) hK

theorem Says.after_ends (hx : O.Says P x [] Q fun _ => False) (hf : ∀ a, O.Ends (Q a) (f a) K) :
    O.Ends P (x >>= f) K :=
  hx.seq_ends hf fun _ h => h

theorem Says.stop (hx : O.Says P x out (fun _ _ => False) F) (hF : ∀ t, F t → K t) :
    O.Ends P (x >>= f) K := by
  intro l s hs
  cases hrun : x s with
  | error err s' =>
    obtain ⟨t, ht, hl⟩ := (hx l).error hs hrun
    rw [bind_error hrun]
    exact ⟨t, hF t ht, hl⟩
  | ok a s' =>
    obtain ⟨hfalse, -⟩ := (hx l).ok hs hrun
    exact hfalse.elim

theorem Ends.before (hx : O.Ends P x K) (hf : ∀ a, O.Ends (fun _ => True) (f a) (· = [])) :
    O.Ends P (x >>= f) K := by
  intro l s hs
  have hrun := hx l s hs
  cases heq : x s with
  | error err s' =>
    rw [heq] at hrun
    rw [bind_error heq]
    exact hrun
  | ok a s' =>
    rw [heq] at hrun
    obtain ⟨t, ht, hl⟩ := hrun
    rw [bind_ok heq]
    refine ((hf a (l ++ t)).weaken (fun _ h => h) ?_ ?_) s' ⟨trivial, hl⟩
    all_goals
      rintro _ s'' ⟨t', rfl, hl'⟩
      exact ⟨t, ht, hl'.trans (List.append_nil _)⟩

theorem Ends.final (h : O.Ends P x K) (hs : P s) :
    ∃ t, K t ∧ O.heard (final (x s)) = O.heard s ++ t := by
  have hx := h (O.heard s) s ⟨hs, rfl⟩
  cases hrun : x s with
  | ok a s' =>
    rw [hrun] at hx
    exact hx
  | error err s' =>
    rw [hrun] at hx
    exact hx

/-- However the task ends, `S` holds of the state again, and what is heard is in `P`. -/
def Only (S : σ → Prop) (P : κ → Prop) (x : EStateM ε σ α) : Prop :=
  Preserves (fun s => S s ∧ ∀ k ∈ O.heard s, P k) x

section Only

variable {S : σ → Prop} {P : κ → Prop}

theorem Only.pure (a : α) : O.Only S P (Pure.pure a : EStateM ε σ α) := fun _ h => h

theorem Only.throw (err : ε) : O.Only S P (MonadExcept.throw err : EStateM ε σ α) := fun _ h => h

theorem Only.bind (hx : O.Only S P x) (hf : ∀ a, O.Only S P (f a)) : O.Only S P (x >>= f) :=
  Preserves.bind hx hf

theorem Only.of_heard (h : ∀ s, S s → S (final (x s)) ∧
    ∃ ks, O.heard (final (x s)) = O.heard s ++ ks ∧ ∀ k ∈ ks, P k) : O.Only S P x := by
  rintro s ⟨hs, hall⟩
  obtain ⟨hs', ks, hheard, hks⟩ := h s hs
  refine ⟨hs', ?_⟩
  rw [hheard]
  exact List.forall_mem_append.mpr ⟨hall, hks⟩

theorem Only.step (h : ∀ s, S s → ∃ a s', x s = .ok a s' ∧ S s' ∧ O.heard s' = O.heard s ∧
    O.Only S P (f a)) : O.Only S P (x >>= f) := by
  rintro s ⟨hs, hall⟩
  obtain ⟨a, s', hx, hs', hheard, hf⟩ := h s hs
  rw [bind_ok hx]
  exact hf s' ⟨hs', hheard ▸ hall⟩

theorem Only.get {f : σ → EStateM ε σ β} (h : ∀ s, S s → O.Only S P (f s)) :
    O.Only S P (MonadState.get >>= f) :=
  Only.step fun s hs => ⟨s, s, rfl, hs, rfl, h s hs⟩

theorem Only.update {g : σ → σ} (hheard : ∀ s, O.heard (g s) = O.heard s)
    (hS : ∀ s, S s → S (g s)) : O.Only S P (modify g : EStateM ε σ Unit) :=
  Only.of_heard fun s hs => ⟨hS s hs, [], (hheard s).trans (List.append_nil _).symm,
    List.forall_mem_nil _⟩

theorem Only.log {g : σ → σ} (htrace : ∀ s, O.trace (g s) = O.trace s ++ [e]) (he : O.view e = none)
    (hS : ∀ s, S s → S (g s)) : O.Only S P (modify g : EStateM ε σ Unit) :=
  Only.update (fun s => heard_silent (htrace s) he) hS

theorem Only.ignore {x : EStateM ε σ Unit} (h : O.Only S P x) :
    O.Only S P (Library.ignore x) := by
  intro s hs
  have kept := h s hs
  cases hx : x s with
  | ok a s' =>
    rw [ignore_ok hx]
    rwa [hx] at kept
  | error err s' =>
    rw [ignore_error hx]
    rwa [hx] at kept

theorem Only.mapError {g : ε → ε} (h : O.Only S P x) : O.Only S P (Library.mapError g x) := by
  intro s hs
  have kept := h s hs
  cases hx : x s with
  | ok a s' =>
    rw [mapError_ok hx]
    rwa [hx] at kept
  | error err s' =>
    rw [mapError_error hx]
    rwa [hx] at kept

end Only

end Output

end AegisSdk.Library
