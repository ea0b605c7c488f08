import AegisSdk.Go.History
import Mathlib.Data.List.Iterate
import Mathlib.Tactic.Linarith
import Mathlib.Tactic.Ring

/-!
The waits of `Run` between its connections. The first wait is the configured delay as it
stands; after each wait the delay is doubled, in 64 bits that wrap, and held to the maximum.
-/

set_option autoImplicit false
set_option relaxedAutoImplicit false

namespace AegisSdk.Go

open AegisSdk.Library

def Event.waited : Event → Option Duration
  | .wait delay => some delay
  | _ => none

def waits (es : List Event) : List Duration := es.filterMap Event.waited

/-- No wait is longer than the maximum, and none is shorter than the one before it. -/
structure BackoffLaw (longest : Duration) (ws : List Duration) : Prop where
  bounded : ∀ d ∈ ws, d ≤ longest
  grows : ws.Pairwise (· ≤ ·)

def nextDelay (longest delay : Duration) : Duration := minDuration (delay * 2) longest

/-- None of the first `k` waits is computed by a product that wraps: there is nothing to
double, the maximum lies below 2^62, or the doublings before the last one stay below it. -/
def DoublesExactly (longest delay : Duration) (k : Nat) : Prop :=
  delay = 0 ∨ longest.toInt < 2 ^ 62 ∨ delay.toInt * 2 ^ (k - 2) < 2 ^ 62

def Obeys (longest delay : Duration) (k : Nat) : Prop :=
  k = 0 ∨ delay ≤ longest ∧ (k = 1 ∨ DoublesExactly longest delay k)

/-- The number of waits that `n` failed connections lead to. -/
def waitLimit (cfg : Config) (n : Nat) : Nat :=
  if !cfg.reconnect then 0
  else if cfg.maxReconnectAttempts > 0 then min n (cfg.maxReconnectAttempts.toNat - 1)
  else n

section Doubling

variable {longest delay : Duration}

theorem zero_le_iff {d : Duration} : 0 ≤ d ↔ 0 ≤ d.toInt := Int64.le_iff_toInt_le

theorem toInt_double (h₀ : 0 ≤ delay) (h : delay.toInt < 2 ^ 62) :
    (delay * 2).toInt = 2 * delay.toInt := by
  have hnonneg := zero_le_iff.mp h₀
  have htwo : (2 : Int64).toInt = 2 := rfl
  rw [Int64.toInt_mul, htwo, Int.bmod_eq_of_le] <;> omega

theorem toInt_double_neg (h : 2 ^ 62 ≤ delay.toInt) : (delay * 2).toInt < 0 := by
  have hlt := delay.toInt_lt
  have htwo : (2 : Int64).toInt = 2 := rfl
  have hwrap : (delay * 2).toInt = 2 * delay.toInt - 2 ^ 64 := by
    rw [Int64.toInt_mul, htwo, Int.bmod_def]
    omega
  omega

theorem nextDelay_le : nextDelay longest delay ≤ longest := by
  unfold nextDelay minDuration
  split
  · exact Int64.le_of_lt ‹_›
  · exact Int64.le_refl longest

theorem toInt_nextDelay (longest : Duration) (h₀ : 0 ≤ delay) (h : delay.toInt < 2 ^ 62) :
    (nextDelay longest delay).toInt = min (2 * delay.toInt) longest.toInt := by
  have hdouble := toInt_double h₀ h
  unfold nextDelay minDuration
  split
  · rename_i hlt
    have hlt := Int64.lt_iff_toInt_lt.mp hlt
    omega
  · rename_i hlt
    have hlt := mt Int64.lt_iff_toInt_lt.mpr hlt
    omega

theorem nextDelay_neg (h : 2 ^ 62 ≤ delay.toInt) (hlongest : 0 ≤ longest) :
    nextDelay longest delay < 0 := by
  have hdouble := toInt_double_neg h
  have hzero : (0 : Int64).toInt = 0 := rfl
  have hbelow : delay * 2 < longest := by
    have := zero_le_iff.mp hlongest
    exact Int64.lt_iff_toInt_lt.mpr (by omega)
  rw [nextDelay, minDuration, if_pos hbelow, Int64.lt_iff_toInt_lt]
  omega

end Doubling

section Waits

variable {longest delay : Duration}

theorem law_nil : BackoffLaw longest [] := ⟨by simp, .nil⟩

theorem law_single : BackoffLaw longest [delay] ↔ delay ≤ longest := by
  constructor
  · intro law
    exact law.bounded delay (by simp)
  · intro h
    exact ⟨by simp [h], List.pairwise_singleton _ _⟩

theorem law_cons_cons {second : Duration} {ws : List Duration} :
    BackoffLaw longest (delay :: second :: ws) ↔
      delay ≤ longest ∧ delay ≤ second ∧ BackoffLaw longest (second :: ws) := by
  constructor
  · rintro ⟨bounded, grows⟩
    obtain ⟨hfirst, hrest⟩ := List.pairwise_cons.mp grows
    refine ⟨bounded delay (by simp), hfirst second (by simp), ?_, hrest⟩
    intro d hd
    exact bounded d (List.mem_cons_of_mem _ hd)
  · rintro ⟨hdelay, hsecond, bounded, grows⟩
    refine ⟨List.forall_mem_cons.mpr ⟨hdelay, bounded⟩, List.pairwise_cons.mpr ⟨?_, grows⟩⟩
    obtain ⟨hrest, -⟩ := List.pairwise_cons.mp grows
    refine List.forall_mem_cons.mpr ⟨hsecond, ?_⟩
    intro d hd
    exact Int64.le_trans hsecond (hrest d hd)

theorem doublesExactly_next {j : Nat} (h₀ : 0 ≤ delay) (h : delay.toInt < 2 ^ 62) :
    DoublesExactly longest (nextDelay longest delay) (j + 2) ↔
      DoublesExactly longest delay (j + 3) := by
  have hnext := toInt_nextDelay longest h₀ h
  have hnonneg := zero_le_iff.mp h₀
  have hzero : ∀ d : Duration, d = 0 ↔ d.toInt = 0 := fun d => (Int64.toInt_inj (y := 0)).symm
  have hpow : (1 : Int) ≤ 2 ^ j := one_le_pow₀ (by norm_num)
  have hsucc : delay.toInt * 2 ^ (j + 1) = 2 * delay.toInt * 2 ^ j := by ring
  unfold DoublesExactly
  simp only [hzero, Nat.add_sub_cancel, show j + 3 - 2 = j + 1 from rfl, hsucc, hnext]
  by_cases hlongest : longest.toInt < 2 ^ 62
  · exact iff_of_true (.inr (.inl hlongest)) (.inr (.inl hlongest))
  · by_cases hle : 2 * delay.toInt ≤ longest.toInt
    · rw [min_eq_left hle]
      simp only [hlongest, false_or]
      omega
    · -- the maximum itself is beyond 2^62
      rw [min_eq_right (by omega)]
      have hmax : 2 ^ 62 ≤ longest.toInt * 2 ^ j := by nlinarith
      have hdouble : 2 ^ 62 ≤ 2 * delay.toInt * 2 ^ j := by nlinarith
      omega

theorem law_iterate_iff (hlongest : 0 ≤ longest) (k : Nat) (h₀ : 0 ≤ delay) :
    BackoffLaw longest (List.iterate (nextDelay longest) delay k) ↔ Obeys longest delay k := by
  induction k generalizing delay with
  | zero => exact iff_of_true law_nil (.inl rfl)
  | succ k ih =>
    cases k with
    | zero =>
      rw [show List.iterate (nextDelay longest) delay (0 + 1) = [delay] from rfl, law_single]
      simp [Obeys]
    | succ k =>
      rw [show List.iterate (nextDelay longest) delay (k + 1 + 1) =
        delay :: nextDelay longest delay ::
          List.iterate (nextDelay longest) (nextDelay longest (nextDelay longest delay)) k from rfl,
        law_cons_cons]
      by_cases hsmall : delay.toInt < 2 ^ 62
      · have hnext := toInt_nextDelay longest h₀ hsmall
        have hnonneg := zero_le_iff.mp h₀
        have hlongest' := zero_le_iff.mp hlongest
        have h₁ : 0 ≤ nextDelay longest delay := zero_le_iff.mpr (by omega)
        have grows : delay ≤ longest → delay ≤ nextDelay longest delay := by
          intro hle
          have hle := Int64.le_iff_toInt_le.mp hle
          exact Int64.le_iff_toInt_le.mpr (by omega)
        have rest := ih h₁
        rw [show List.iterate (nextDelay longest) (nextDelay longest delay) (k + 1) =
          nextDelay longest delay ::
            List.iterate (nextDelay longest) (nextDelay longest (nextDelay longest delay)) k
          from rfl] at rest
        rw [rest, Obeys, Obeys]
        have exact : (k + 1 = 1 ∨ DoublesExactly longest (nextDelay longest delay) (k + 1)) ↔
            DoublesExactly longest delay (k + 1 + 1) := by
          cases k with
          | zero => exact iff_of_true (.inl rfl) (.inr (.inr (by simpa using hsmall)))
          | succ j =>
            rw [doublesExactly_next h₀ hsmall]
            simp
        rw [exact]
        have hle : nextDelay longest delay ≤ longest := nextDelay_le
        have hmore : k + 1 + 1 ≠ 1 := by omega
        simp only [Nat.succ_ne_zero, hmore, false_or, hle, true_and]
        constructor
        · rintro ⟨hdelay, -, hexact⟩
          exact ⟨hdelay, hexact⟩
        · rintro ⟨hdelay, hexact⟩
          exact ⟨hdelay, grows hdelay, hexact⟩
      · -- the next wait is negative
        have hbig : 2 ^ 62 ≤ delay.toInt := by omega
        have hneg := nextDelay_neg hbig hlongest
        refine iff_of_false ?_ ?_
        · rintro ⟨-, hle, -⟩
          have := Int64.lt_iff_toInt_lt.mp (Int64.lt_of_lt_of_le hneg h₀)
          have := Int64.le_iff_toInt_le.mp hle
          omega
        · have hpow : (1 : Int) ≤ 2 ^ k := one_le_pow₀ (by norm_num)
          have hprod : 2 ^ 62 ≤ delay.toInt * 2 ^ k := by nlinarith
          rintro (hk | ⟨hdelay, hk | rfl | hlt | hlt⟩)
          · cases hk
          · simp at hk
          · simp at hbig
          · have := Int64.le_iff_toInt_le.mp hdelay
            omega
          · rw [show k + 1 + 1 - 2 = k from rfl] at hlt
            omega

end Waits

section Turns

variable {rt : Runtime} {cfg : Config} {handlers : Handlers} {c c' : Component} {es : List Event}

theorem Advance.never_waits {st : ComponentState} {b : Bool} (h : Advance cfg c st es c' b) :
    ∀ e ∈ es, e.waits = false := by
  cases h <;> simp [Event.waits]

theorem opt_never_waits {isSet : Bool} {e : Event} (h : e.waits = false) :
    ∀ e' ∈ opt isSet e, e'.waits = false := by
  cases isSet <;> simp [opt, h]

theorem Settling.never_waits (h : Settling cfg handlers c es c') :
    ∀ e ∈ es, e.waits = false := by
  cases h with
  | unconfigured a => exact a.never_waits
  | stopped a b => exact List.forall_mem_append.mpr ⟨a.never_waits, b.never_waits⟩
  | running a b =>
    exact List.forall_mem_append.mpr ⟨a.never_waits, List.forall_mem_append.mpr
      ⟨b.never_waits, opt_never_waits rfl⟩⟩

theorem Reaction.never_waits {m : Message} {v : Verdict} (h : Reaction cfg handlers m c es c' v) :
    ∀ e ∈ es, e.waits = false := by
  have line : ∀ env ok, ∀ e ∈ [Event.send env ok], e.waits = false := by simp [Event.waits]
  cases h with
  | ignored => simp
  | pong stamp uptime ok =>
    exact List.forall_mem_append.mpr ⟨opt_never_waits rfl, line _ ok⟩
  | refused stamp err ok =>
    exact List.forall_mem_append.mpr ⟨opt_never_waits rfl, line _ ok⟩
  | accepted stamp ok _ _ settling =>
    exact List.forall_mem_append.mpr ⟨opt_never_waits rfl,
      List.forall_mem_cons.mpr ⟨rfl, settling.never_waits⟩⟩
  | shutdown a n ok ok' =>
    exact List.forall_mem_cons.mpr ⟨rfl, List.forall_mem_append.mpr
      ⟨opt_never_waits rfl, by simp [Event.waits]⟩⟩
  | recoverable | fatal => exact opt_never_waits rfl

theorem Session.never_waits {v : Verdict} (h : Session cfg handlers c es c' v) :
    ∀ e ∈ es, e.waits = false := by
  induction h with
  | cancelled c err stamp ok =>
    exact List.forall_mem_cons.mpr ⟨rfl, List.forall_mem_append.mpr
      ⟨opt_never_waits rfl, by simp [Event.waits]⟩⟩
  | lost => simp [Event.waits]
  | last reaction _ =>
    have := reaction.never_waits
    simpa [Event.waits] using this
  | next reaction _ ih =>
    have := List.forall_mem_append.mpr ⟨reaction.never_waits, ih⟩
    simpa [Event.waits] using this

theorem Handshake.never_waits {res : Option GoError} (h : Handshake rt cfg c es c' res) :
    ∀ e ∈ es, e.waits = false := by
  cases h with
  | registerLost | unanswered | rejected => simp [Event.waits]
  | notInitializing _ _ _ _ _ a => simpa [Event.waits] using a.never_waits
  | notReady _ _ _ _ _ a b | ready _ _ _ a b =>
    have := List.forall_mem_append.mpr ⟨a.never_waits, b.never_waits⟩
    simpa [Event.waits] using this

theorem waits_append (es es' : List Event) : waits (es ++ es') = waits es ++ waits es' :=
  List.filterMap_append

theorem waits_eq_nil (h : ∀ e ∈ es, e.waits = false) : waits es = [] := by
  rw [waits, List.filterMap_eq_nil_iff]
  intro e he
  have := h e he
  cases e <;> simp_all [Event.waits, Event.waited]

theorem Attempt.waits_eq {res : Option GoError} (h : Attempt rt cfg handlers c es c' res) :
    waits es = [] := by
  apply waits_eq_nil
  cases h with
  | refused => simp [Event.waits]
  | unready handshake => simpa [Event.waits, or_imp, forall_and] using handshake.never_waits
  | session handshake session =>
    have := List.forall_mem_append.mpr ⟨handshake.never_waits, session.never_waits⟩
    simpa [Event.waits, or_imp, forall_and] using this

end Turns

section Runs

variable {rt : Runtime} {cfg : Config} {handlers : Handlers}

theorem not_exhausted_of_returnErr {n : Nat} {res : Option GoError}
    (h : returnErr cfg n res = none) : ¬ Exhausted cfg n := by
  unfold returnErr at h
  split at h
  · cases h
  split at h
  · cases h
  split at h
  · cases h
  rename_i hreconnect
  split at h
  · cases h
  rename_i hmax
  rintro (hno | hspent)
  · simp [hno] at hreconnect
  · exact hmax hspent

/-- The waits of a run are the first delays of the doubling, one for each turn after which
`Run` goes on. -/
theorem History.waits_eq {n : Nat} {delay : Duration} {c : Component} {links : List Link}
    {es : List Event} {o : Outcome} (h : History rt cfg handlers n delay c links es o) :
    ∃ k ≤ links.length, waits es = List.iterate (nextDelay cfg.maxReconnectDelay) delay k ∧
      ∀ i < k, ¬ Exhausted cfg (n + i) := by
  induction h with
  | paused | done => exact ⟨0, Nat.zero_le _, rfl, by simp⟩
  | last delay links _ attempt _ => exact ⟨0, Nat.zero_le _, attempt.waits_eq, by simp⟩
  | stopped delay links _ attempt hret _ =>
    refine ⟨1, by simp, ?_, ?_⟩
    · rw [waits_append, attempt.waits_eq]
      rfl
    · intro i hi
      obtain rfl : i = 0 := by omega
      exact not_exhausted_of_returnErr hret
  | @again n delay c c' link links es rest res o _ attempt hret _ _ ih =>
    obtain ⟨k, hk, hwaits, goes⟩ := ih
    refine ⟨k + 1, by simp [hk], ?_, ?_⟩
    · rw [← List.singleton_append, waits_append, waits_append, attempt.waits_eq, hwaits]
      rfl
    · intro i hi
      cases i with
      | zero => exact not_exhausted_of_returnErr hret
      | succ i =>
        have := goes i (by omega)
        rwa [show n + (i + 1) = n + 1 + i by omega]

theorem waitLimit_spec {n k : Nat} : k ≤ waitLimit cfg n ↔ k ≤ n ∧ ∀ i < k, ¬ Exhausted cfg i := by
  have last : (∀ i < k, ¬ Exhausted cfg i) ↔ k = 0 ∨ ¬ Exhausted cfg (k - 1) := by
    constructor
    · intro h
      rcases Nat.eq_zero_or_pos k with hk | hk
      · exact .inl hk
      · exact .inr (h (k - 1) (by omega))
    · rintro (hk | h) i hi
      · omega
      · rintro (hno | ⟨hpos, hge⟩)
        · exact h (.inl hno)
        · exact h (.inr ⟨hpos, by omega⟩)
  rw [last]
  unfold waitLimit Exhausted
  cases cfg.reconnect with
  | false =>
    simp
    omega
  | true =>
    simp only [Bool.not_true, Bool.false_eq_true, if_false]
    split
    · simp
      omega
    · simp
      omega

def unreachable : Link := { dial := false }

theorem unreachable_waits (rt : Runtime) (cfg : Config) (handlers : Handlers) (a : Nat)
    (delay : Duration) (n : Nat) (w : World) :
    ∃ k ≤ n, waits (runLoop rt cfg handlers a delay (.replicate n unreachable) w).2.trace =
        waits w.trace ++ List.iterate (nextDelay cfg.maxReconnectDelay) delay k ∧
      (k = n ∨ Exhausted cfg (a + k)) := by
  induction n generalizing a delay w with
  | zero => exact ⟨0, le_rfl, (List.append_nil _).symm, .inl rfl⟩
  | succ n ih =>
    rw [List.replicate_succ, runLoop_cons rt cfg handlers a delay unreachable _ w rfl
      (runOnce_refused rt cfg handlers unreachable w rfl), endTurn]
    rcases returnErr_cases cfg a _ connectError_lost with ⟨err, hret, spent⟩ | ⟨hret, -⟩
    · rw [hret]
      refine ⟨0, Nat.zero_le _, ?_, .inr spent⟩
      simp [waits, List.iterate, Event.waited]
    · rw [hret]
      obtain ⟨k, hk, hwaits, ends⟩ := ih (a + 1) (nextDelay cfg.maxReconnectDelay delay)
        { w with trace := w.trace ++ [.dial cfg.socketPath false] ++ [.wait delay] }
      refine ⟨k + 1, Nat.succ_le_succ hk, ?_, ?_⟩
      · refine hwaits.trans ?_
        simp only [waits, List.filterMap_append, List.append_assoc]
        rfl
      · rcases ends with rfl | spent
        · exact .inl rfl
        · exact .inr (by rwa [show a + (k + 1) = a + 1 + k by omega])

end Runs

theorem BackoffLaw.of_prefix {longest : Duration} {ws ws' : List Duration}
    (h : BackoffLaw longest ws) (hp : ws' <+: ws) : BackoffLaw longest ws' where
  bounded d hd := h.bounded d (hp.subset hd)
  grows := h.grows.sublist hp.sublist

/-- Whatever `n` connections in a row come to, the waits between them obey the law exactly if
as many waits as `Run` may make there stay within the maximum and within 64 bits. -/
theorem backoffLaw_iff (cfg : Config) (n : Nat) (hdelay : 0 ≤ cfg.reconnectDelay)
    (hlongest : 0 ≤ cfg.maxReconnectDelay) :
    (∀ (rt : Runtime) (handlers : Handlers) (links : List Link), links.length = n →
        BackoffLaw cfg.maxReconnectDelay (waits (run rt cfg handlers links).2.trace)) ↔
      Obeys cfg.maxReconnectDelay cfg.reconnectDelay (waitLimit cfg n) := by
  rw [← law_iterate_iff hlongest (waitLimit cfg n) hdelay]
  constructor
  · intro h
    let rt : Runtime :=
      { stamp := fun _ => ⟨"", ""⟩, uptime := fun _ => 0, sprint := fun _ _ => "" }
    have law := h rt {} (.replicate n unreachable) List.length_replicate
    obtain ⟨k, -, hwaits, ends⟩ :=
      unreachable_waits rt cfg {} 0 cfg.reconnectDelay n {}
    have hwaits : waits (run rt cfg {} (.replicate n unreachable)).2.trace =
        List.iterate (nextDelay cfg.maxReconnectDelay) cfg.reconnectDelay k := hwaits
    rw [hwaits] at law
    have hle : waitLimit cfg n ≤ k := by
      by_contra hlt
      obtain ⟨hn, goes⟩ := waitLimit_spec.mp (le_refl (waitLimit cfg n))
      rcases ends with rfl | spent
      · omega
      · rw [Nat.zero_add] at spent
        exact goes k (by omega) spent
    refine law.of_prefix ?_
    rw [← Nat.add_sub_cancel' hle, List.iterate_add]
    exact List.prefix_append _ _
  · intro law rt handlers links hn
    obtain ⟨-, history⟩ := run_history rt cfg handlers links
    obtain ⟨k, hk, hwaits, goes⟩ := history.waits_eq
    have hle : k ≤ waitLimit cfg n := by
      refine waitLimit_spec.mpr ⟨hn ▸ hk, ?_⟩
      intro i hi
      have := goes i hi
      rwa [Nat.zero_add] at this
    rw [hwaits]
    refine law.of_prefix ?_
    rw [← Nat.add_sub_cancel' hle, List.iterate_add]
    exact List.prefix_append _ _

namespace Sample

def patient : Config :=
  { config with reconnect := true, reconnectDelay := 3000000000, maxReconnectDelay := 60000000000 }

def hasty : Config := { config with reconnect := true, reconnectDelay := 3000000000 }

end Sample

theorem backoffLaw_iff_sample : BackoffLaw Sample.patient.maxReconnectDelay
    (waits (run Sample.runtime Sample.patient {} [unreachable, unreachable, {}]).2.trace) :=
  (backoffLaw_iff Sample.patient 3 (by decide) (by decide)).mpr
    (.inr ⟨by decide, .inr (.inr (.inl (by decide)))⟩) Sample.runtime {} _ rfl

/-- The first wait is held to no maximum, and the ones after it are shorter. -/
theorem backoff_collapses : ¬ ∀ (rt : Runtime) (cfg : Config) (handlers : Handlers)
    (links : List Link), 0 ≤ cfg.reconnectDelay → 0 ≤ cfg.maxReconnectDelay →
    BackoffLaw cfg.maxReconnectDelay (waits (run rt cfg handlers links).2.trace) := by
  intro h
  have law := h Sample.runtime Sample.hasty {} [unreachable, unreachable] (by decide) (by decide)
  have made : waits (run Sample.runtime Sample.hasty {} [unreachable, unreachable]).2.trace =
      [3000000000, 0] := by decide +kernel
  rw [made] at law
  exact absurd (law.bounded 3000000000 (by simp)) (by decide)

end AegisSdk.Go
