import AegisSdk.Library.Monitor
import AegisSdk.Library.Task

/-!
Tasks that keep a journal. What a task does between two states is a list of events together
with the change of the state; a relation on such pieces that holds of nothing and of two
pieces one after the other holds of every task put together from parts of which it holds. The
last section is a loop of turns that ends with the first turn that gives an outcome.
-/

set_option autoImplicit false
set_option relaxedAutoImplicit false

namespace AegisSdk.Library

/-- A relation between two states and what is recorded in between that composes. -/
structure Journal (σ δ : Type) where
  rel : σ → List δ → σ → Prop
  refl : ∀ s, rel s [] s
  trans : ∀ {s s' s'' : σ} {es es' : List δ},
    rel s es s' → rel s' es' s'' → rel s (es ++ es') s''

namespace Journal

variable {ε σ δ α β : Type} (J : Journal σ δ) {x : EStateM ε σ α} {f : α → EStateM ε σ β}

/-- However the task ends, the relation holds of what it has done. -/
def Of (x : EStateM ε σ α) : Prop := ∀ s, ∃ es, J.rel s es (final (x s))

variable {J}

theorem Of.ok (h : J.Of x) {s s' : σ} {a : α} (hx : x s = .ok a s') : ∃ es, J.rel s es s' := by
  obtain ⟨es, hes⟩ := h s
  rw [hx] at hes
  exact ⟨es, hes⟩

theorem Of.error (h : J.Of x) {s s' : σ} {e : ε} (hx : x s = .error e s') :
    ∃ es, J.rel s es s' := by
  obtain ⟨es, hes⟩ := h s
  rw [hx] at hes
  exact ⟨es, hes⟩

theorem of_pure (a : α) : J.Of (Pure.pure a : EStateM ε σ α) := fun s => ⟨[], J.refl s⟩

theorem of_throw (e : ε) : J.Of (MonadExcept.throw e : EStateM ε σ α) := fun s => ⟨[], J.refl s⟩

theorem of_get : J.Of (MonadState.get : EStateM ε σ σ) := fun s => ⟨[], J.refl s⟩

theorem Of.bind (hx : J.Of x) (hf : ∀ a, J.Of (f a)) : J.Of (x >>= f) := by
  intro s
  cases h : x s with
  | ok a s' =>
    rw [bind_ok h]
    obtain ⟨es, hes⟩ := hx.ok h
    obtain ⟨es', hes'⟩ := hf a s'
    exact ⟨es ++ es', J.trans hes hes'⟩
  | error e s' =>
    rw [bind_error h]
    exact hx.error h

theorem Of.ignore {x : EStateM ε σ Unit} (hx : J.Of x) : J.Of (Library.ignore x) := by
  intro s
  cases h : x s with
  | ok a s' =>
    rw [ignore_ok h]
    exact hx.ok h
  | error e s' =>
    rw [ignore_error h]
    exact hx.error h

theorem Of.preserves (h : J.Of x) {I : σ → Prop}
    (hI : ∀ {s es s'}, J.rel s es s' → I s → I s') : Preserves I x := by
  intro s hs
  obtain ⟨es, hes⟩ := h s
  exact hI hes hs

end Journal

/-- Where a state keeps the log of what happened and what the environment has in store, with
the monitor that says what the environment allows. -/
structure Recorder (σ δ μ : Type) where
  trace : σ → List δ
  store : σ → μ
  monitor : Monitor μ δ

namespace Recorder

variable {σ δ μ : Type} (R : Recorder σ δ μ)

/-- From `s` to `s'` the events `es` are recorded, each as the environment has it in store. -/
structure Leads (s : σ) (es : List δ) (s' : σ) : Prop where
  trace : R.trace s' = R.trace s ++ es
  supplied : R.monitor.Accepts (R.store s) es
  left : R.monitor.after (R.store s) es = R.store s'

variable {R}

theorem leads_nil {s s' : σ} (htrace : R.trace s' = R.trace s) (hstore : R.store s' = R.store s) :
    R.Leads s [] s' :=
  ⟨by simp [htrace], trivial, hstore.symm⟩

theorem Leads.trans {s s' s'' : σ} {es es' : List δ} (h : R.Leads s es s')
    (h' : R.Leads s' es' s'') : R.Leads s (es ++ es') s'' where
  trace := by rw [h'.trace, h.trace, List.append_assoc]
  supplied := by
    rw [Monitor.accepts_append, h.left]
    exact ⟨h.supplied, h'.supplied⟩
  left := by rw [Monitor.after_append, h.left, h'.left]

end Recorder

/-- A loop that makes one turn for each input until a turn gives an outcome; a turn is told how
many came before it. -/
structure Loop (ι σ ο : Type) where
  turn : Nat → ι → σ → Option ο × σ

namespace Loop

variable {ι σ δ ο : Type}

/-- No outcome means that the inputs are used up and the loop goes on. -/
def run (L : Loop ι σ ο) : Nat → List ι → σ → Option ο × σ
  | _, [], s => (none, s)
  | n, i :: rest, s =>
    match L.turn n i s with
    | (some o, s') => (some o, s')
    | (none, s') => run L (n + 1) rest s'

theorem run_preserves (L : Loop ι σ ο) {I : σ → Prop} (h : ∀ n i s, I s → I (L.turn n i s).2)
    (n : Nat) (inputs : List ι) {s : σ} (hs : I s) : I (L.run n inputs s).2 := by
  induction inputs generalizing n s with
  | nil => exact hs
  | cons i rest ih =>
    have hturn := h n i s hs
    rw [run]
    rcases heq : L.turn n i s with ⟨_ | o, s'⟩ <;> rw [heq] at hturn
    · exact ih (n + 1) hturn
    · exact hturn

/-- What holds at the start of every turn, and what the last turn makes of it. -/
theorem run_induction (L : Loop ι σ ο) {I : Nat → σ → Prop} {Q : Option ο → σ → Prop}
    (hagain : ∀ n i s, I n s → (L.turn n i s).1 = none → I (n + 1) (L.turn n i s).2)
    (hends : ∀ n i s, I n s → (L.turn n i s).1 ≠ none → Q (L.turn n i s).1 (L.turn n i s).2)
    (hwaits : ∀ n s, I n s → Q none s) {n : Nat} (inputs : List ι) {s : σ} (hs : I n s) :
    Q (L.run n inputs s).1 (L.run n inputs s).2 := by
  induction inputs generalizing n s with
  | nil => exact hwaits n s hs
  | cons i rest ih =>
    have again := hagain n i s hs
    have ends := hends n i s hs
    rw [run]
    rcases heq : L.turn n i s with ⟨_ | o, s'⟩ <;> rw [heq] at again ends
    · exact ih (again rfl)
    · exact ends (by simp)

theorem run_eq_some (L : Loop ι σ ο) {n : Nat} {inputs : List ι} {s : σ} {o : ο}
    (h : (L.run n inputs s).1 = some o) :
    ∃ n' i s', L.turn n' i s' = (some o, (L.run n inputs s).2) := by
  induction inputs generalizing n s with
  | nil => cases h
  | cons i rest ih =>
    rw [run] at h ⊢
    rcases hturn : L.turn n i s with ⟨_ | o', s'⟩
    · rw [hturn] at h
      exact ih h
    · rw [hturn] at h
      cases h
      exact ⟨n, i, s, hturn⟩

inductive History (T : Nat → σ → List δ → Option ο → σ → Prop) :
    Nat → σ → List δ → Option ο → σ → Prop
  | waits (n : Nat) (s : σ) : History T n s [] none s
  | ends {n : Nat} {s s' : σ} {es : List δ} {o : ο} : T n s es (some o) s' →
      History T n s es (some o) s'
  | again {n : Nat} {s s' s'' : σ} {es rest : List δ} {o : Option ο} : T n s es none s' →
      History T (n + 1) s' rest o s'' → History T n s (es ++ rest) o s''

/-- If every turn has a course, so has every run. -/
theorem run_history (L : Loop ι σ ο) {T : Nat → σ → List δ → Option ο → σ → Prop} (n : Nat)
    (inputs : List ι) (s : σ)
    (h : ∀ n, ∀ i ∈ inputs, ∀ s, ∃ es, T n s es (L.turn n i s).1 (L.turn n i s).2) :
    ∃ es, History T n s es (L.run n inputs s).1 (L.run n inputs s).2 := by
  induction inputs generalizing n s with
  | nil => exact ⟨[], .waits n s⟩
  | cons i rest ih =>
    obtain ⟨es, hes⟩ := h n i List.mem_cons_self s
    have hrest : ∀ n, ∀ i ∈ rest, ∀ s, ∃ es, T n s es (L.turn n i s).1 (L.turn n i s).2 :=
      fun n i hi => h n i (List.mem_cons_of_mem _ hi)
    rw [run]
    rcases hturn : L.turn n i s with ⟨_ | o, s'⟩
    · rw [hturn] at hes
      obtain ⟨es', hes'⟩ := ih (n + 1) s' hrest
      exact ⟨es ++ es', .again hes hes'⟩
    · rw [hturn] at hes
      exact ⟨es, .ends hes⟩

theorem History.journal {T : Nat → σ → List δ → Option ο → σ → Prop} {J : Journal σ δ}
    {n : Nat} {s s' : σ} {es : List δ} {o : Option ο} (h : History T n s es o s')
    (hT : ∀ {n s es o s'}, T n s es o s' → J.rel s es s') : J.rel s es s' := by
  induction h with
  | waits n s => exact J.refl s
  | ends turn => exact hT turn
  | again turn _ ih => exact J.trans (hT turn) ih

end Loop
end AegisSdk.Library
