import AegisSdk.Rust.Fate
import AegisSdk.Rust.Outcome

/-!
What `run` does after a connection is lost. The attempts and the delay that the loop carries are
never set back, so both depend on every connection that was lost before, also on those that had
completed their registration.
-/

set_option autoImplicit false
set_option relaxedAutoImplicit false

namespace AegisSdk.Rust

open AegisSdk.Protocol AegisSdk.Library

@[ext]
structure Conduct where
  waits : List Duration
  /-- the connections that are made -/
  made : Nat
  outcome : Outcome
  deriving DecidableEq

def waitsAfter : Nat → List Event → List Duration
  | 0, es => es.filterMap Event.slept
  | _ + 1, [] => []
  | n + 1, e :: es => if e.opens then waitsAfter n es else waitsAfter (n + 1) es

def conduct (n : Nat) (r : Outcome × World) : Conduct where
  waits := waitsAfter n r.2.trace
  made := attempts r.2.trace - n
  outcome := r.1

def Fate.isLost : Fate → Bool
  | .lost _ => true
  | _ => false

section Course

variable (rt : Runtime) (cfg : Config)

/-- What `run` does from its next connection on, by the fates of the connections to come. -/
def course (attempts : Nat) (delay : Duration) : List Fate → Conduct
  | [] => ⟨[], 0, .running⟩
  | .closed :: _ => ⟨[], 1, .returned (.ok ())⟩
  | .rejected msg :: _ => ⟨[], 1, .returned (.error (.registration msg))⟩
  | .panicked msg :: _ => ⟨[], 1, .panicked msg⟩
  | .lost _ :: fates =>
    if 0 < cfg.maxReconnectAttempts.toNat ∧ cfg.maxReconnectAttempts.toNat ≤ attempts + 1 then
      ⟨[], 1, .returned (.error (.connection
        ("max reconnect attempts (" ++ toString cfg.maxReconnectAttempts ++ ") reached")))⟩
    else match rt.mulF32Two delay with
      | none => ⟨[delay], 1, .panicked "mul_f32"⟩
      | some doubled =>
        let rest := course (attempts + 1) (min doubled cfg.maxReconnectDelay) fates
        ⟨delay :: rest.waits, rest.made + 1, rest.outcome⟩

def delayAfter : Nat → Duration → Option Duration
  | 0, delay => some delay
  | n + 1, delay => (rt.mulF32Two delay).bind fun doubled =>
    delayAfter n (min doubled cfg.maxReconnectDelay)

structure Reaches (past : List Link) : Prop where
  lost : ∀ link ∈ past, (link.fate rt cfg).isLost = true
  few : GoesOn cfg past.length
  fits : (delayAfter rt cfg past.length cfg.reconnectDelay).isSome

/-- As many connections as `run` allows are lost, from the first one on. -/
structure Exhausts (links : List Link) : Prop where
  limited : 0 < cfg.maxReconnectAttempts.toNat
  enough : cfg.maxReconnectAttempts.toNat ≤ links.length
  lost : ∀ link ∈ links.take cfg.maxReconnectAttempts.toNat, (link.fate rt cfg).isLost = true
  fits : (delayAfter rt cfg (cfg.maxReconnectAttempts.toNat - 1) cfg.reconnectDelay).isSome

/-- The connections that a run has made, up to this number of them from the end. -/
def lastMade (n : Nat) (links : List Link) (es : List Event) : List Link :=
  (links.take (attempts es)).drop (attempts es - n)

/-- After a connection that was registered and is then lost `run` does what it does if that is
its first one, and it gives up only after so many connections in a row that never registered. -/
structure CountsConsecutive (links : List Link) : Prop where
  fresh : ∀ past link rest, links = past ++ link :: rest →
    past.length < attempts (run rt cfg links).2.trace → link.fate rt cfg = .lost true →
    ∀ future, conduct (past.length + 1) (run rt cfg (past ++ link :: future)) =
      conduct 1 (run rt cfg (link :: future))
  consecutive : (run rt cfg links).1.IsConnection →
    cfg.maxReconnectAttempts.toNat ≤ attempts (run rt cfg links).2.trace ∧
      ∀ link ∈ lastMade cfg.maxReconnectAttempts.toNat links (run rt cfg links).2.trace,
        link.fate rt cfg ≠ .lost true

/-- A connection that was registered and is then lost is the first one, or there is no limit and
the delay has come back to the first one; none is among the connections that use up the limit. -/
structure Spared (links : List Link) : Prop where
  later : ∀ past link rest, links = past ++ link :: rest → past ≠ [] → Reaches rt cfg past →
    link.fate rt cfg = .lost true → cfg.maxReconnectAttempts.toNat = 0 ∧
      delayAfter rt cfg past.length cfg.reconnectDelay = some cfg.reconnectDelay
  exhausted : Exhausts rt cfg links →
    ∀ link ∈ links.take cfg.maxReconnectAttempts.toNat, link.fate rt cfg ≠ .lost true

end Course

section Waits

variable {rest : List Event} {waits : List Duration} {made : Nat}

theorem waitsAfter_idle {pre : List Event} (h : attempts pre = 0) (es : List Event) (n : Nat) :
    waitsAfter (n + 1) (pre ++ es) = waitsAfter (n + 1) es := by
  induction pre with
  | nil => rfl
  | cons e pre ih =>
    rw [attempts_cons] at h
    have he : e.opens = false := by
      by_contra hopens
      rw [Bool.not_eq_false] at hopens
      rw [hopens] at h
      simp at h
    rw [List.cons_append, waitsAfter, he, if_neg Bool.false_ne_true]
    exact ih (by omega)

/-- What the loop has done so far: in every connection one attempt, and the sleeps between the
connections. -/
structure Paced (es : List Event) (waits : List Duration) (made : Nat) : Prop where
  all : es.filterMap Event.slept = waits
  after : ∀ n, waitsAfter (n + 1) es = waits.drop n
  made : attempts es = made

theorem Paced.nil : Paced [] [] 0 := ⟨rfl, fun n => by simp [waitsAfter], rfl⟩

theorem Paced.last {e : Event} (hopens : e.opens = true) (hrest : attempts rest = 0)
    (hawake : ∀ e' ∈ e :: rest, e'.slept = none) : Paced (e :: rest) [] 1 := by
  have hnone : (e :: rest).filterMap Event.slept = [] := List.filterMap_eq_nil_iff.mpr hawake
  have hnone' : waitsAfter 0 rest = [] := by
    rw [waitsAfter]
    exact List.filterMap_eq_nil_iff.mpr fun e' he' => hawake e' (List.mem_cons_of_mem _ he')
  refine ⟨hnone, ?_, ?_⟩
  · intro n
    rw [waitsAfter, if_pos hopens, List.drop_nil]
    cases n with
    | zero => exact hnone'
    | succ n =>
      have hidle := waitsAfter_idle hrest [] n
      rw [List.append_nil] at hidle
      rw [hidle]
      rfl
  · rw [attempts_cons, hrest, hopens]
    rfl

theorem Paced.again {e : Event} {pre : List Event} (hopens : e.opens = true)
    (hpre : attempts pre = 0) (hawake : ∀ e' ∈ e :: pre, e'.slept = none) (delay : Duration)
    (h : Paced rest waits made) :
    Paced (e :: pre ++ .sleep delay :: rest) (delay :: waits) (made + 1) := by
  have hnone : (e :: pre).filterMap Event.slept = [] := List.filterMap_eq_nil_iff.mpr hawake
  have hnone' : pre.filterMap Event.slept = [] :=
    List.filterMap_eq_nil_iff.mpr fun e' he' => hawake e' (List.mem_cons_of_mem _ he')
  have hsleep : (Event.sleep delay :: rest).filterMap Event.slept = delay :: waits := by
    rw [← h.all]
    rfl
  refine ⟨?_, ?_, ?_⟩
  · rw [List.filterMap_append, hnone, hsleep, List.nil_append]
  · intro n
    rw [List.cons_append, waitsAfter, if_pos hopens]
    cases n with
    | zero =>
      rw [waitsAfter, List.filterMap_append, hnone', hsleep]
      rfl
    | succ n =>
      have hidle := waitsAfter_idle (show attempts [.sleep delay] = 0 from rfl) rest n
      rw [waitsAfter_idle hpre, List.drop_succ_cons, ← h.after n]
      exact hidle
  · have hsleep' : attempts (.sleep delay :: rest) = made := by
      rw [attempts_cons, h.made]
      rfl
    rw [List.cons_append, attempts_cons, attempts_append, hpre, hsleep', hopens]
    simp

end Waits

section Loop

variable {rt : Runtime} {cfg : Config}

theorem fateOf_lost {e : AegisError} (he : e.isRegistration = false) (tokens : Nat) (w : World) :
    (fateOf tokens (.error (.error e) w)).isLost = true := by
  cases e with
  | registration msg => cases he
  | _ => rfl

theorem course_lost {k : Nat} {delay : Duration} {fate : Fate} (h : fate.isLost = true)
    (fates : List Fate) : course rt cfg k delay (fate :: fates) =
      course rt cfg k delay (.lost true :: fates) := by
  cases fate with
  | lost registered => rfl
  | _ => cases h

/-- The counter of attempts is exact as long as it can make a difference. -/
def Counts (cfg : Config) (attempts : UInt32) (k : Nat) : Prop :=
  cfg.maxReconnectAttempts.toNat = 0 ∨
    attempts.toNat = k ∧ k < cfg.maxReconnectAttempts.toNat

section Counts

variable {attempts : UInt32} {k : Nat}

theorem Counts.exact (h : Counts cfg attempts k) (hpos : 0 < cfg.maxReconnectAttempts.toNat) :
    (attempts + 1).toNat = k + 1 ∧ k < cfg.maxReconnectAttempts.toNat := by
  rcases h with hzero | ⟨hk, hlt⟩
  · omega
  · have hsize := cfg.maxReconnectAttempts.toNat_lt
    have few : attempts.toNat + 1 < UInt32.size := by
      rw [hk]
      simp only [UInt32.size]
      omega
    rw [toNat_succ few Nat.one_pos, hk]
    exact ⟨rfl, hlt⟩

theorem Counts.limit_iff (h : Counts cfg attempts k) :
    (cfg.maxReconnectAttempts > 0 ∧ attempts + 1 ≥ cfg.maxReconnectAttempts) ↔
      (0 < cfg.maxReconnectAttempts.toNat ∧ cfg.maxReconnectAttempts.toNat ≤ k + 1) := by
  have hpos : cfg.maxReconnectAttempts > 0 ↔ 0 < cfg.maxReconnectAttempts.toNat :=
    UInt32.lt_iff_toNat_lt
  rw [hpos]
  refine and_congr_right fun hpos => ?_
  rw [ge_iff_le, UInt32.le_iff_toNat_le, (h.exact hpos).1]

theorem Counts.spent (h : Counts cfg attempts k)
    (hspent : 0 < cfg.maxReconnectAttempts.toNat ∧ cfg.maxReconnectAttempts.toNat ≤ k + 1) :
    attempts + 1 = cfg.maxReconnectAttempts := by
  obtain ⟨hsucc, hlt⟩ := h.exact hspent.1
  have heq : cfg.maxReconnectAttempts.toNat = k + 1 := by omega
  exact UInt32.toNat_inj.mp (hsucc.trans heq.symm)

theorem Counts.succ (h : Counts cfg attempts k)
    (hspent : ¬(0 < cfg.maxReconnectAttempts.toNat ∧ cfg.maxReconnectAttempts.toNat ≤ k + 1)) :
    Counts cfg (attempts + 1) (k + 1) := by
  rcases Nat.eq_zero_or_pos cfg.maxReconnectAttempts.toNat with hzero | hpos
  · exact .inl hzero
  · exact .inr ⟨(h.exact hpos).1, by omega⟩

end Counts

/-- The loop does what the fates of its connections say. -/
theorem runLoop_course (hreconnect : cfg.reconnect = true) (links : List Link)
    {attempts : UInt32} {k : Nat} (h : Counts cfg attempts k) (delay : Duration) (w : World) :
    ∃ es, (runLoop rt cfg attempts delay links w).2.trace = w.trace ++ es ∧
      Paced es (course rt cfg k delay (links.map (Link.fate rt cfg))).waits
        (course rt cfg k delay (links.map (Link.fate rt cfg))).made ∧
      (runLoop rt cfg attempts delay links w).1 =
        (course rt cfg k delay (links.map (Link.fate rt cfg))).outcome := by
  induction links generalizing attempts k delay w with
  | nil => exact ⟨[], (List.append_nil _).symm, Paced.nil, rfl⟩
  | cons link links ih =>
    obtain ⟨es, w₁, res, token, hrun, turn, trace, -, -⟩ := runOnce_turn rt cfg link w
    obtain ⟨e, pre, rfl, hopens, hpre⟩ := turn.opens_once
    have hawake := turn.awake
    have hlast := Paced.last hopens hpre hawake
    have hfate := runOnce_fate rt cfg link w
    rw [hrun] at hfate
    rw [List.map_cons]
    cases res with
    | ok u =>
      rw [← hfate, runLoop_ok rt cfg attempts delay link links hrun]
      exact ⟨e :: pre, trace, hlast, rfl⟩
    | error f =>
      cases f with
      | panic msg =>
        rw [← hfate, runLoop_panic rt cfg attempts delay link links hrun]
        exact ⟨e :: pre, trace, hlast, rfl⟩
      | error err =>
        cases herr : err.isRegistration with
        | true =>
          cases err with
          | registration msg =>
            rw [← hfate, runLoop_registration rt cfg attempts delay link links hrun]
            exact ⟨e :: pre, trace, hlast, rfl⟩
          | _ => cases herr
        | false =>
          have hlost : (link.fate rt cfg).isLost = true := by
            rw [← hfate]
            exact fateOf_lost herr _ _
          rw [course_lost hlost, runLoop_retry rt cfg attempts delay link links hrun herr, retry,
            hreconnect, if_neg (by simp), course]
          by_cases hspent : 0 < cfg.maxReconnectAttempts.toNat ∧
              cfg.maxReconnectAttempts.toNat ≤ k + 1
          · rw [if_pos hspent, if_pos (h.limit_iff.mpr hspent), h.spent hspent]
            exact ⟨e :: pre, trace, hlast, rfl⟩
          · rw [if_neg hspent, if_neg (mt h.limit_iff.mp hspent)]
            cases hdouble : rt.mulF32Two delay with
            | none =>
              have paced := Paced.again hopens hpre hawake delay Paced.nil
              refine ⟨e :: pre ++ [.sleep delay], ?_, paced, rfl⟩
              show w₁.trace ++ [.sleep delay] = _
              rw [trace, List.append_assoc]
            | some doubled =>
              obtain ⟨rest, htrace, hpaced, houtcome⟩ := ih (h.succ hspent)
                (min doubled cfg.maxReconnectDelay) { w₁ with trace := w₁.trace ++ [.sleep delay] }
              refine ⟨e :: pre ++ .sleep delay :: rest, ?_, hpaced.again hopens hpre hawake delay,
                houtcome⟩
              show (runLoop rt cfg _ _ _ _).2.trace = _
              rw [htrace, trace, List.append_assoc, List.append_assoc]
              rfl

theorem goesOn_zero (cfg : Config) : GoesOn cfg 0 := Nat.eq_zero_or_pos _

/-- A run does what the fates of its connections say. -/
theorem run_course (rt : Runtime) (hreconnect : cfg.reconnect = true) (links : List Link) :
    attempts (run rt cfg links).2.trace =
        (course rt cfg 0 cfg.reconnectDelay (links.map (Link.fate rt cfg))).made ∧
      (run rt cfg links).1 =
        (course rt cfg 0 cfg.reconnectDelay (links.map (Link.fate rt cfg))).outcome ∧
      ∀ n, waitsAfter (n + 1) (run rt cfg links).2.trace =
        (course rt cfg 0 cfg.reconnectDelay (links.map (Link.fate rt cfg))).waits.drop n := by
  have counts : Counts cfg 0 0 := by
    rcases goesOn_zero cfg with hzero | hpos
    · exact .inl hzero
    · exact .inr ⟨rfl, hpos⟩
  obtain ⟨es, htrace, paced, houtcome⟩ :=
    runLoop_course hreconnect links counts cfg.reconnectDelay {}
  have htrace : (run rt cfg links).2.trace = es := htrace
  rw [htrace]
  exact ⟨paced.made, houtcome, paced.after⟩

end Loop

section Fates

variable {rt : Runtime} {cfg : Config} {k : Nat} {delay delay' : Duration} {fate : Fate}
  {past fates : List Fate}

theorem GoesOn.spent_iff : GoesOn cfg (k + 1) ↔
    ¬(0 < cfg.maxReconnectAttempts.toNat ∧ cfg.maxReconnectAttempts.toNat ≤ k + 1) := by
  unfold GoesOn
  omega

theorem GoesOn.le {m : Nat} (h : GoesOn cfg m) (hle : k ≤ m) : GoesOn cfg k := by
  rcases h with hzero | hlt
  · exact .inl hzero
  · exact .inr (by omega)

theorem course_made_pos (rt : Runtime) (cfg : Config) (k : Nat) (delay : Duration) (fate : Fate)
    (fates : List Fate) : 0 < (course rt cfg k delay (fate :: fates)).made := by
  cases fate with
  | lost registered =>
    rw [course]
    split
    · exact Nat.one_pos
    · cases rt.mulF32Two delay with
      | none => exact Nat.one_pos
      | some doubled => exact Nat.succ_pos _
  | _ => exact Nat.one_pos

theorem course_goes_on {doubled : Duration} (hlost : fate.isLost = true) (hon : GoesOn cfg (k + 1))
    (hdouble : rt.mulF32Two delay = some doubled) :
    course rt cfg k delay (fate :: fates) =
      let rest := course rt cfg (k + 1) (min doubled cfg.maxReconnectDelay) fates
      ⟨delay :: rest.waits, rest.made + 1, rest.outcome⟩ := by
  rw [course_lost hlost, course, if_neg (GoesOn.spent_iff.mp hon), hdouble]

theorem course_past (hlost : ∀ fate ∈ past, fate.isLost = true) (hon : GoesOn cfg (k + past.length))
    (hdelay : delayAfter rt cfg past.length delay = some delay') (fates : List Fate) :
    ∃ waits, waits.length = past.length ∧ course rt cfg k delay (past ++ fates) =
      let rest := course rt cfg (k + past.length) delay' fates
      ⟨waits ++ rest.waits, rest.made + past.length, rest.outcome⟩ := by
  induction past generalizing k delay with
  | nil =>
    obtain rfl := Option.some.inj hdelay
    exact ⟨[], rfl, rfl⟩
  | cons fate past ih =>
    obtain ⟨hfate, hpast⟩ := List.forall_mem_cons.mp hlost
    rw [List.length_cons] at hon hdelay
    obtain ⟨doubled, hdouble, hdelay⟩ := Option.bind_eq_some_iff.mp hdelay
    have hcount : k + (past.length + 1) = k + 1 + past.length := by omega
    rw [hcount] at hon
    obtain ⟨waits, hlength, hcourse⟩ := ih hpast hon hdelay
    refine ⟨delay :: waits, by rw [List.length_cons, hlength, List.length_cons], ?_⟩
    rw [List.cons_append, course_goes_on hfate (hon.le (by omega)) hdouble, hcourse,
      List.length_cons, hcount]
    rfl

theorem course_reaches (rt : Runtime) (hon : GoesOn cfg k) (delay : Duration) (past : List Fate)
    (fate : Fate) (fates : List Fate) :
    past.length < (course rt cfg k delay (past ++ fate :: fates)).made ↔
      (∀ fate ∈ past, fate.isLost = true) ∧ GoesOn cfg (k + past.length) ∧
        (delayAfter rt cfg past.length delay).isSome := by
  constructor
  · intro hmade
    induction past generalizing k delay with
    | nil => exact ⟨by simp, hon, rfl⟩
    | cons first past ih =>
      rw [List.cons_append, List.length_cons] at hmade
      have hlost : first.isLost = true := by
        cases first with
        | lost registered => rfl
        | _ => exact absurd hmade (by simp [course])
      rw [course_lost hlost, course] at hmade
      split at hmade
      · exact absurd hmade (by simp)
      · rename_i hspent
        cases hdouble : rt.mulF32Two delay with
        | none =>
          rw [hdouble] at hmade
          exact absurd hmade (by simp)
        | some doubled =>
          rw [hdouble] at hmade
          obtain ⟨hpast, hon', hfits⟩ :=
            ih (GoesOn.spent_iff.mpr hspent) _ (Nat.lt_of_succ_lt_succ hmade)
          refine ⟨List.forall_mem_cons.mpr ⟨hlost, hpast⟩, ?_, ?_⟩
          · rw [List.length_cons, show k + (past.length + 1) = k + 1 + past.length by omega]
            exact hon'
          · rw [List.length_cons, delayAfter, hdouble]
            exact hfits
  · rintro ⟨hlost, hon', hfits⟩
    obtain ⟨delay', hdelay⟩ := Option.isSome_iff_exists.mp hfits
    obtain ⟨waits, -, hcourse⟩ := course_past hlost hon' hdelay (fate :: fates)
    have hpos := course_made_pos rt cfg (k + past.length) delay' fate fates
    rw [hcourse]
    show past.length < _ + past.length
    omega

theorem course_unlimited (hzero : cfg.maxReconnectAttempts.toNat = 0) (k' : Nat) :
    course rt cfg k delay fates = course rt cfg k' delay fates := by
  have hspent (k : Nat) :
      ¬(0 < cfg.maxReconnectAttempts.toNat ∧ cfg.maxReconnectAttempts.toNat ≤ k + 1) := by omega
  induction fates generalizing k k' delay with
  | nil => rfl
  | cons fate fates ih =>
    cases fate with
    | lost registered =>
      rw [course, course, if_neg (hspent k), if_neg (hspent k')]
      cases rt.mulF32Two delay with
      | none => rfl
      | some doubled =>
        have hrest : course rt cfg (k + 1) (min doubled cfg.maxReconnectDelay) fates =
            course rt cfg (k' + 1) (min doubled cfg.maxReconnectDelay) fates := ih (k' + 1)
        simp only [hrest]
    | _ => rfl

theorem not_isConnection_running : ¬Outcome.running.IsConnection := by
  rintro ⟨msg, h⟩
  cases h

theorem not_isConnection_panicked {msg : String} : ¬(Outcome.panicked msg).IsConnection := by
  rintro ⟨msg, h⟩
  cases h

theorem lost_of_gives_up (h : (course rt cfg k delay (fate :: fates)).outcome.IsConnection) :
    fate.isLost = true := by
  cases fate with
  | lost registered => rfl
  | _ =>
    obtain ⟨msg, h⟩ := h
    cases h

theorem course_never (hzero : cfg.maxReconnectAttempts.toNat = 0) :
    ¬(course rt cfg k delay fates).outcome.IsConnection := by
  induction fates generalizing k delay with
  | nil => exact not_isConnection_running
  | cons fate fates ih =>
    intro h
    rw [course_lost (lost_of_gives_up h), course, if_neg (by omega)] at h
    cases hdouble : rt.mulF32Two delay with
    | none =>
      rw [hdouble] at h
      exact not_isConnection_panicked h
    | some doubled =>
      rw [hdouble] at h
      exact ih h

theorem course_gives_up (hlt : k < cfg.maxReconnectAttempts.toNat) :
    (course rt cfg k delay fates).outcome.IsConnection ↔
      (∀ fate ∈ fates.take (cfg.maxReconnectAttempts.toNat - k), fate.isLost = true) ∧
        cfg.maxReconnectAttempts.toNat - k ≤ fates.length ∧
        (delayAfter rt cfg (cfg.maxReconnectAttempts.toNat - k - 1) delay).isSome := by
  obtain ⟨left, hleft⟩ : ∃ left, cfg.maxReconnectAttempts.toNat - k = left + 1 :=
    ⟨cfg.maxReconnectAttempts.toNat - k - 1, by omega⟩
  rw [hleft, Nat.add_sub_cancel]
  induction fates generalizing k delay left with
  | nil => exact iff_of_false not_isConnection_running (by simp)
  | cons fate fates ih =>
    rw [List.take_succ_cons, List.forall_mem_cons, List.length_cons, Nat.add_le_add_iff_right]
    by_cases hlost : fate.isLost = true
    · rw [course_lost hlost, course]
      cases left with
      | zero =>
        rw [if_pos ⟨by omega, by omega⟩]
        exact iff_of_true ⟨_, rfl⟩ ⟨⟨hlost, by simp⟩, Nat.zero_le _, rfl⟩
      | succ left =>
        rw [if_neg (by omega), delayAfter]
        cases hdouble : rt.mulF32Two delay with
        | none => exact iff_of_false not_isConnection_panicked (by simp)
        | some doubled =>
          rw [Option.bind_some]
          refine (ih (by omega) left (by omega)).trans ?_
          simp [hlost]
    · exact iff_of_false (mt lost_of_gives_up hlost) fun h => hlost h.1.1

theorem course_spends (hlt : k < cfg.maxReconnectAttempts.toNat)
    (h : (course rt cfg k delay fates).outcome.IsConnection) :
    (course rt cfg k delay fates).made = cfg.maxReconnectAttempts.toNat - k := by
  induction fates generalizing k delay with
  | nil => exact absurd h not_isConnection_running
  | cons fate fates ih =>
    have hlost := lost_of_gives_up h
    rw [course_lost hlost, course] at h ⊢
    by_cases hspent : 0 < cfg.maxReconnectAttempts.toNat ∧ cfg.maxReconnectAttempts.toNat ≤ k + 1
    · rw [if_pos hspent]
      show 1 = _
      omega
    · rw [if_neg hspent] at h ⊢
      cases hdouble : rt.mulF32Two delay with
      | none =>
        rw [hdouble] at h
        exact absurd h not_isConnection_panicked
      | some doubled =>
        rw [hdouble] at h
        have hmade := ih (by omega) h
        show _ + 1 = _
        rw [hmade]
        omega

theorem delayAfter_add (rt : Runtime) (cfg : Config) (delay : Duration) (m n : Nat) :
    delayAfter rt cfg (m + n) delay = (delayAfter rt cfg m delay).bind (delayAfter rt cfg n) := by
  induction m generalizing delay with
  | zero => rw [Nat.zero_add, delayAfter, Option.bind_some]
  | succ m ih =>
    rw [Nat.add_right_comm, delayAfter, delayAfter, Option.bind_assoc]
    simp only [ih]

theorem delayAfter_periodic {p : Nat} (hpos : 0 < p)
    (h : delayAfter rt cfg p delay = some delay) (n : Nat) :
    (delayAfter rt cfg n delay).isSome := by
  induction n using Nat.strong_induction_on with
  | _ n ih =>
    rcases Nat.lt_or_ge n p with hlt | hge
    · have hsplit := delayAfter_add rt cfg delay n (p - n)
      rw [Nat.add_sub_cancel' (by omega), h] at hsplit
      exact Option.isSome_of_isSome_bind (by rw [← hsplit]; rfl)
    · have hsplit := delayAfter_add rt cfg delay p (n - p)
      rw [Nat.add_sub_cancel' hge, h, Option.bind_some] at hsplit
      rw [hsplit]
      exact ih (n - p) (by omega)

theorem course_waits (hlost : fate.isLost = true) (hon : GoesOn cfg (k + 1)) :
    (course rt cfg k delay [fate]).waits = [delay] := by
  rw [course_lost hlost, course, if_neg (GoesOn.spent_iff.mp hon)]
  cases rt.mulF32Two delay with
  | none => rfl
  | some doubled => rfl

theorem course_fresh (hpos : 0 < k) (hon : GoesOn cfg k)
    (hdelay : delayAfter rt cfg k delay = some delay')
    (hsame : ∀ n, course rt cfg k delay' (.lost true :: List.replicate n (.lost false)) =
      course rt cfg 0 delay (.lost true :: List.replicate n (.lost false))) :
    cfg.maxReconnectAttempts.toNat = 0 ∧ delay' = delay := by
  have head (h : GoesOn cfg (k + 1)) : delay' = delay := by
    have heq := congrArg Conduct.waits (hsame 0)
    rw [List.replicate_zero, course_waits rfl h, course_waits rfl (h.le (by omega))] at heq
    exact (List.cons.inj heq).1
  rcases hon with hzero | hlt
  · exact ⟨hzero, head (.inl hzero)⟩
  · -- the last attempt that is left would be given up after some losses, but not after none
    exfalso
    let left := cfg.maxReconnectAttempts.toNat - k - 1
    have hfits : (delayAfter rt cfg left delay').isSome := by
      rcases Nat.eq_or_lt_of_le (Nat.succ_le_of_lt hlt) with hlast | hmore
      · have hnone : left = 0 := by omega
        rw [hnone]
        rfl
      · obtain rfl := head (.inr hmore)
        exact delayAfter_periodic hpos hdelay left
    have hall : ∀ fate ∈ Fate.lost true :: List.replicate left (.lost false),
        fate.isLost = true := by
      intro fate hfate
      rcases List.mem_cons.mp hfate with rfl | hfate
      · rfl
      · rw [List.eq_of_mem_replicate hfate]
        rfl
    have hlength : (Fate.lost true :: List.replicate left (.lost false)).length = left + 1 := by
      rw [List.length_cons, List.length_replicate]
    have hgives : (course rt cfg k delay'
        (.lost true :: List.replicate left (.lost false))).outcome.IsConnection :=
      (course_gives_up hlt).mpr
        ⟨fun fate hfate => hall fate (List.mem_of_mem_take hfate), by omega, hfits⟩
    rw [hsame left, course_gives_up (by omega)] at hgives
    have henough := hgives.2.1
    omega

end Fates

section Budget

variable {rt : Runtime} {cfg : Config} {past : List Link} {link : Link} {delay : Duration}

def refused : Link where
  connected := false
  reads := []

theorem refused_fate : refused.fate rt cfg = .lost false := rfl

theorem fates_lost (hlost : ∀ link ∈ past, (link.fate rt cfg).isLost = true) :
    ∀ fate ∈ past.map (Link.fate rt cfg), fate.isLost = true := by
  intro fate hfate
  obtain ⟨link, hlink, rfl⟩ := List.mem_map.mp hfate
  exact hlost link hlink

theorem conduct_past (hreconnect : cfg.reconnect = true) (hreaches : Reaches rt cfg past)
    (hdelay : delayAfter rt cfg past.length cfg.reconnectDelay = some delay)
    (link : Link) (future : List Link) :
    conduct (past.length + 1) (run rt cfg (past ++ link :: future)) =
      let rest := course rt cfg past.length delay
        (link.fate rt cfg :: future.map (Link.fate rt cfg))
      ⟨rest.waits, rest.made - 1, rest.outcome⟩ := by
  have hon : GoesOn cfg (0 + (past.map (Link.fate rt cfg)).length) := by
    rw [List.length_map, Nat.zero_add]
    exact hreaches.few
  obtain ⟨waits, hlength, hcourse⟩ := course_past (fates_lost hreaches.lost) hon
    (by rw [List.length_map]; exact hdelay)
    (link.fate rt cfg :: future.map (Link.fate rt cfg))
  obtain ⟨hmade, houtcome, hwaits⟩ :=
    run_course rt hreconnect (past ++ link :: future)
  rw [List.map_append, List.map_cons, hcourse] at hmade houtcome hwaits
  rw [List.length_map, Nat.zero_add] at hmade houtcome hwaits
  rw [List.length_map] at hlength
  rw [conduct, hmade, houtcome, hwaits, ← hlength, List.drop_left]
  simp only [Conduct.mk.injEq, true_and, and_true]
  omega

theorem reaches_nil (rt : Runtime) : Reaches rt cfg [] := ⟨by simp, goesOn_zero cfg, rfl⟩

theorem reached_iff (hreconnect : cfg.reconnect = true) (link : Link) (rest : List Link) :
    past.length < attempts (run rt cfg (past ++ link :: rest)).2.trace ↔ Reaches rt cfg past := by
  obtain ⟨hmade, -, -⟩ := run_course rt hreconnect (past ++ link :: rest)
  have hreaches := course_reaches rt (goesOn_zero cfg) cfg.reconnectDelay
    (past.map (Link.fate rt cfg)) (link.fate rt cfg) (rest.map (Link.fate rt cfg))
  rw [List.length_map, Nat.zero_add] at hreaches
  rw [hmade, List.map_append, List.map_cons, hreaches]
  constructor
  · rintro ⟨hlost, hon, hfits⟩
    exact ⟨fun link hlink => hlost _ (List.mem_map_of_mem hlink), hon, hfits⟩
  · rintro ⟨hlost, hon, hfits⟩
    exact ⟨fates_lost hlost, hon, hfits⟩

theorem fresh_iff (hreconnect : cfg.reconnect = true) (hreaches : Reaches rt cfg past)
    (hfate : link.fate rt cfg = .lost true) :
    (∀ future, conduct (past.length + 1) (run rt cfg (past ++ link :: future)) =
      conduct 1 (run rt cfg (link :: future))) ↔
    (past ≠ [] → cfg.maxReconnectAttempts.toNat = 0 ∧
      delayAfter rt cfg past.length cfg.reconnectDelay = some cfg.reconnectDelay) := by
  obtain ⟨delay, hdelay⟩ := Option.isSome_iff_exists.mp hreaches.fits
  have here (future : List Link) := conduct_past hreconnect hreaches hdelay link future
  have first (future : List Link) :=
    conduct_past hreconnect (reaches_nil rt) rfl link future
  simp only [List.nil_append, List.length_nil, Nat.zero_add, hfate] at first
  constructor
  · intro hsame hne
    have hcourses : ∀ n, course rt cfg past.length delay
        (.lost true :: List.replicate n (.lost false)) =
          course rt cfg 0 cfg.reconnectDelay (.lost true :: List.replicate n (.lost false)) := by
      intro n
      have heq := hsame (List.replicate n refused)
      rw [here, first, hfate, List.map_replicate, refused_fate] at heq
      obtain ⟨hwaits, hmade, houtcome⟩ := Conduct.mk.inj heq
      have hpos := course_made_pos rt cfg past.length delay (.lost true)
        (List.replicate n (.lost false))
      have hpos' := course_made_pos rt cfg 0 cfg.reconnectDelay (.lost true)
        (List.replicate n (.lost false))
      ext1
      · exact hwaits
      · omega
      · exact houtcome
    obtain ⟨hzero, rfl⟩ :=
      course_fresh (List.length_pos_of_ne_nil hne) hreaches.few hdelay hcourses
    exact ⟨hzero, hdelay⟩
  · intro hback future
    rw [here, first, hfate]
    by_cases hnil : past = []
    · subst hnil
      obtain rfl := Option.some.inj hdelay
      rfl
    · obtain ⟨hzero, hdelay'⟩ := hback hnil
      obtain rfl := Option.some.inj (hdelay.symm.trans hdelay')
      rw [course_unlimited hzero 0]

theorem exhausts_iff (hreconnect : cfg.reconnect = true) (links : List Link) :
    (run rt cfg links).1.IsConnection ↔ Exhausts rt cfg links := by
  obtain ⟨-, houtcome, -⟩ := run_course rt hreconnect links
  rw [houtcome]
  rcases goesOn_zero cfg with hzero | hpos
  · exact iff_of_false (course_never hzero) fun h => by
      have hlimited := h.limited
      omega
  · rw [course_gives_up hpos, Nat.sub_zero, List.length_map, ← List.map_take]
    constructor
    · rintro ⟨hlost, henough, hfits⟩
      exact ⟨hpos, henough, fun link hlink => hlost _ (List.mem_map_of_mem hlink), hfits⟩
    · rintro ⟨-, henough, hlost, hfits⟩
      exact ⟨fates_lost hlost, henough, hfits⟩

theorem countsConsecutive_iff (rt : Runtime) (cfg : Config) (links : List Link)
    (hreconnect : cfg.reconnect = true) :
    CountsConsecutive rt cfg links ↔ Spared rt cfg links := by
  have hlast (h : Exhausts rt cfg links) :
      attempts (run rt cfg links).2.trace = cfg.maxReconnectAttempts.toNat ∧
        lastMade cfg.maxReconnectAttempts.toNat links (run rt cfg links).2.trace =
          links.take cfg.maxReconnectAttempts.toNat := by
    obtain ⟨hmade, houtcome, -⟩ := run_course rt hreconnect links
    have hgives := (exhausts_iff hreconnect links).mpr h
    rw [houtcome] at hgives
    have hspends := course_spends h.limited hgives
    rw [← hmade, Nat.sub_zero] at hspends
    refine ⟨hspends, ?_⟩
    rw [lastMade, hspends, Nat.sub_self, List.drop_zero]
  constructor
  · rintro ⟨fresh, consecutive⟩
    refine ⟨?_, ?_⟩
    · rintro past link rest rfl hne hreaches hfate
      have hmade := (reached_iff hreconnect link rest).mpr hreaches
      exact (fresh_iff hreconnect hreaches hfate).mp (fresh past link rest rfl hmade hfate) hne
    · intro hexhausts
      have hnone := (consecutive ((exhausts_iff hreconnect links).mpr hexhausts)).2
      rw [(hlast hexhausts).2] at hnone
      exact hnone
  · rintro ⟨later, exhausted⟩
    refine ⟨?_, ?_⟩
    · rintro past link rest rfl hmade hfate
      have hreaches := (reached_iff hreconnect link rest).mp hmade
      exact (fresh_iff hreconnect hreaches hfate).mpr fun hne =>
        later past link rest rfl hne hreaches hfate
    · intro hgives
      have hexhausts := (exhausts_iff hreconnect links).mp hgives
      obtain ⟨hmade, hmembers⟩ := hlast hexhausts
      rw [hmade, hmembers]
      exact ⟨le_rfl, exhausted hexhausts⟩

end Budget

section Delays

variable {rt : Runtime} {cfg : Config} {n : Nat} {delay delay' : Duration}

theorem delayAfter_le (h : delayAfter rt cfg (n + 1) delay = some delay') :
    delay' ≤ cfg.maxReconnectDelay := by
  induction n generalizing delay with
  | zero =>
    obtain ⟨doubled, -, hdelay⟩ := Option.bind_eq_some_iff.mp h
    obtain rfl := Option.some.inj hdelay
    exact min_le_right _ _
  | succ n ih =>
    obtain ⟨doubled, -, hdelay⟩ := Option.bind_eq_some_iff.mp h
    exact ih hdelay

theorem delayAfter_grows
    (grows : ∀ delay doubled, 0 < delay → rt.mulF32Two delay = some doubled → delay < doubled)
    {low : Duration} (hlow : 0 < low) (hmax : low < cfg.maxReconnectDelay) (hle : low ≤ delay)
    (h : delayAfter rt cfg (n + 1) delay = some delay') : low < delay' := by
  induction n generalizing delay with
  | zero =>
    obtain ⟨doubled, hdouble, hdelay⟩ := Option.bind_eq_some_iff.mp h
    obtain rfl := Option.some.inj hdelay
    have hgrows := grows delay doubled (hlow.trans_le hle) hdouble
    exact lt_min (hle.trans_lt hgrows) hmax
  | succ n ih =>
    obtain ⟨doubled, hdouble, hdelay⟩ := Option.bind_eq_some_iff.mp h
    have hgrows := grows delay doubled (hlow.trans_le hle) hdouble
    exact ih (le_min (hle.trans hgrows.le) hmax.le) hdelay

theorem delayAfter_returns
    (grows : ∀ delay doubled, 0 < delay → rt.mulF32Two delay = some doubled → delay < doubled)
    (h : delayAfter rt cfg (n + 1) delay = some delay) :
    delay = 0 ∨ delay = cfg.maxReconnectDelay := by
  rcases Nat.eq_zero_or_pos delay with hzero | hpos
  · exact .inl hzero
  · rcases (delayAfter_le h).eq_or_lt with hmax | hlt
    · exact .inr hmax
    · exact absurd (delayAfter_grows grows hpos hlt le_rfl h) (lt_irrefl _)

end Delays

namespace Sample

def dropped : Link := link [registered] []

def limited : Config := { config with reconnect := true, maxReconnectAttempts := 3 }

end Sample

theorem countsConsecutive_iff_sample :
    CountsConsecutive Sample.runtime Sample.limited [Sample.dropped, refused] := by
  refine (countsConsecutive_iff Sample.runtime Sample.limited [Sample.dropped, refused] rfl).mpr
    ⟨?_, ?_⟩
  · intro past link rest heq hne _ hfate
    obtain ⟨first, past, rfl⟩ := List.exists_cons_of_ne_nil hne
    obtain ⟨-, heq⟩ := List.cons.inj heq
    have hmem : link ∈ [refused] := by
      rw [heq]
      exact List.mem_append_right _ List.mem_cons_self
    obtain rfl := List.mem_singleton.mp hmem
    rw [refused_fate] at hfate
    cases hfate
  · intro hexhausts
    exact absurd hexhausts.enough (by decide)

/-- Three connections that were registered use up the limit. -/
theorem registered_spends_budget : ¬ ∀ (rt : Runtime) (cfg : Config) (links : List Link),
    cfg.reconnect = true → CountsConsecutive rt cfg links := by
  intro h
  have counts := h Sample.runtime Sample.limited
    [Sample.dropped, Sample.dropped, Sample.dropped] rfl
  have ends : ((run Sample.runtime Sample.limited
      [Sample.dropped, Sample.dropped, Sample.dropped]).1, attempts (run Sample.runtime
        Sample.limited [Sample.dropped, Sample.dropped, Sample.dropped]).2.trace) =
      (.returned (.error (.connection "max reconnect attempts (3) reached")), 3) := by
    decide +kernel
  obtain ⟨gives, made⟩ := Prod.mk.inj ends
  have fate : Sample.dropped.fate Sample.runtime Sample.limited = .lost true := by
    decide +kernel
  have none_registered := (counts.consecutive ⟨_, gives⟩).2 Sample.dropped
  rw [lastMade, made] at none_registered
  exact none_registered List.mem_cons_self fate

end AegisSdk.Rust
