import AegisSdk.Rust.Turn

/-!
How `run` ends. Each turn ends in one of three ways that `run` tells apart: cleanly, with a
`Registration` error or with a lost connection. The loop returns at once in the first two
and counts the third against the limit of attempts.
-/

set_option autoImplicit false
set_option relaxedAutoImplicit false

namespace AegisSdk.Rust

open AegisSdk.Protocol AegisSdk.Library AegisSdk.Library.Monitor

section Turn

variable {rt : Runtime} {cfg : Config}

/-- The REGISTERED reply that a link may have in store carries both ids. -/
def Link.Complete (rt : Runtime) (link : Link) : Prop :=
  ∀ env, link.answer rt = some env → env.command = .registered →
    (env.payload.get "component_id").isSome ∧ (env.payload.get "session_id").isSome

inductive TurnEnds (rt : Runtime) (link : Link) : Except Fault Unit → Prop
  | cleanly : ¬ link.Rejects rt → TurnEnds rt link (.ok ())
  | rejected (msg : String) : link.Rejects rt →
      TurnEnds rt link (.error (.error (.registration msg)))
  | lost {e : AegisError} : ¬ link.Rejects rt → e.isRegistration = false →
      TurnEnds rt link (.error (.error e))

theorem not_rejects_of_answer {link : Link} (h : link.answer rt = none) : ¬ link.Rejects rt := by
  rintro ⟨env, henv, _⟩
  rw [h] at henv
  cases henv

theorem not_rejects_of_registers {link : Link} (hconn : link.connected = true)
    (hwrite : link.writes.headD true = true) {a b : Json} {rest : List Read}
    (h : Registers rt link.reads a b rest) : ¬ link.Rejects rt := by
  obtain ⟨env, hreply, hc, _⟩ := h
  rintro ⟨env', henv', hne⟩
  rw [Link.answer_some hconn hwrite hreply] at henv'
  cases henv'
  exact hne hc

theorem Registration.ends {link : Link} {c c' : Component} {es : List Event} {f : Fault}
    (h : Registration rt cfg link.reads c es c' (.error f)) (hconn : link.connected = true)
    (complete : link.Complete rt) {links : List Link}
    (supplied : supply.Accepts ⟨links, link.writes⟩ es) : TurnEnds rt link (.error f) := by
  cases h with
  | lost r =>
    have hanswer : link.answer rt = none := Link.answer_unsent (.inr supplied.1)
    exact .lost (not_rejects_of_answer hanswer) rfl
  | unanswered r hreply =>
    exact .lost (not_rejects_of_answer (Link.answer_error hreply)) (reply_lost rt hreply)
  | rejected r hreply hc =>
    exact .rejected _ ⟨_, Link.answer_some hconn supplied.1 hreply, hc⟩
  | noComponentId r hreply hc ha =>
    have both := complete _ (Link.answer_some hconn supplied.1 hreply) hc
    simp [ha] at both
  | noSessionId r hreply hc ha hb =>
    have both := complete _ (Link.answer_some hconn supplied.1 hreply) hc
    simp [hb] at both
  | initializingLost r i hr | readyLost r i d hr =>
    exact .lost (not_rejects_of_registers hconn supplied.1 hr) rfl

theorem Registration.registered {reads rest : List Read} {c c' : Component} {es : List Event}
    (h : Registration rt cfg reads c es c' (.ok rest)) :
    ∃ a b r es', Registers rt reads a b rest ∧
      es = .write (registerLine cfg r (registerId rt c)) :: es' := by
  cases h with
  | ready r i d hr => exact ⟨_, _, r, _, hr, rfl⟩

theorem Turn.ends {link : Link} {token : Nat} {c c' : Component} {es : List Event}
    {res : Except Fault Unit} (h : Turn rt cfg link token c es c' res)
    (complete : link.Complete rt) {writes : List Bool}
    (supplied : supply.Accepts ⟨[link], writes⟩ es) : TurnEnds rt link res := by
  cases h with
  | refused hconn =>
    exact .lost (not_rejects_of_answer (Link.answer_unsent (.inl hconn))) rfl
  | unregistered hconn registration => exact registration.ends hconn complete supplied.2
  | @session es es' c' c'' rest v hconn registration session _ _ hlost =>
    obtain ⟨a, b, r, rest', hr, rfl⟩ := registration.registered
    have accepted : ¬ link.Rejects rt := not_rejects_of_registers hconn supplied.2.1 hr
    cases v with
    | «continue» => exact .cleanly accepted
    | stop => exact .cleanly accepted
    | error e => exact .lost accepted (hlost e rfl)

end Turn

variable (rt : Runtime) (cfg : Config)

def lastLink (links : List Link) (es : List Event) : Option Link :=
  (links.take (attempts es)).getLast?

/-- `run` gives up after the attempts `n` before and the attempts of `es`. -/
def GivesUp (n : Nat) (es : List Event) : Prop :=
  (cfg.reconnect = false ∧ attempts es = 1) ∨
    cfg.reconnect = true ∧ 0 < cfg.maxReconnectAttempts.toNat ∧
      n + attempts es = cfg.maxReconnectAttempts.toNat

def GoesOn (n : Nat) : Prop :=
  cfg.maxReconnectAttempts.toNat = 0 ∨ n < cfg.maxReconnectAttempts.toNat

/-- How the loop ends over the connection attempts in store. -/
inductive LoopEnds (n : Nat) (links : List Link) (es : List Event) : Outcome → Prop
  | cleanly {link : Link} : lastLink links es = some link → ¬ link.Rejects rt →
      LoopEnds n links es (.returned (.ok ()))
  | rejected {link : Link} (msg : String) : lastLink links es = some link → link.Rejects rt →
      LoopEnds n links es (.returned (.error (.registration msg)))
  | gaveUp {link : Link} (msg : String) : lastLink links es = some link → ¬ link.Rejects rt →
      GivesUp cfg n es → LoopEnds n links es (.returned (.error (.connection msg)))
  | running : (∀ link, lastLink links es = some link → ¬ link.Rejects rt) →
      attempts es = links.length → (links = [] ∨ cfg.reconnect = true) →
      GoesOn cfg (n + attempts es) → LoopEnds n links es .running

theorem lastLink_single {link : Link} {links : List Link} {es : List Event}
    (h : attempts es = 1) : lastLink (link :: links) es = some link := by
  simp [lastLink, h]

theorem lastLink_cons {link : Link} {links : List Link} {es rest : List Event}
    (h : attempts es = 1) {link' : Link} (hrest : lastLink links rest = some link') :
    lastLink (link :: links) (es ++ rest) = some link' := by
  have hpos : attempts (es ++ rest) = attempts rest + 1 := by
    rw [attempts_append, h, Nat.add_comm]
  rw [lastLink, hpos, List.take_succ_cons]
  rw [lastLink] at hrest
  rw [List.getLast?_cons, hrest]
  rfl

theorem LoopEnds.cons {n : Nat} {link : Link} {links : List Link} {es rest : List Event}
    {o : Outcome} (hes : attempts es = 1) (hlink : ¬ link.Rejects rt)
    (hreconnect : cfg.reconnect = true) (h : LoopEnds rt cfg (n + 1) links rest o) :
    LoopEnds rt cfg n (link :: links) (es ++ rest) o := by
  have hsum : n + attempts (es ++ rest) = n + 1 + attempts rest := by
    rw [attempts_append, hes]
    omega
  cases h with
  | cleanly hlast hno => exact .cleanly (lastLink_cons hes hlast) hno
  | rejected msg hlast hrejects => exact .rejected msg (lastLink_cons hes hlast) hrejects
  | gaveUp msg hlast hno gives =>
    refine .gaveUp msg (lastLink_cons hes hlast) hno (.inr ?_)
    rcases gives with ⟨hno', _⟩ | ⟨_, hpos, heq⟩
    · rw [hreconnect] at hno'
      cases hno'
    · exact ⟨hreconnect, hpos, hsum.trans heq⟩
  | running hno hlen _ goes =>
    refine .running ?_ ?_ (.inr hreconnect) (by rwa [hsum])
    · intro link' hlast
      cases hrest : lastLink links rest with
      | none =>
        have hnil : links = [] := by
          rw [lastLink, hlen, List.take_length] at hrest
          exact List.getLast?_eq_none_iff.mp hrest
        subst hnil
        have hone : attempts (es ++ rest) = 1 := by simp [hes, hlen]
        rw [lastLink_single hone] at hlast
        cases hlast
        exact hlink
      | some link'' =>
        rw [lastLink_cons hes hrest] at hlast
        cases hlast
        exact hno _ hrest
    · rw [attempts_append, hes, hlen, List.length_cons, Nat.add_comm]

theorem toNat_succ {n : UInt32} {k : Nat} (h : n.toNat + k < UInt32.size) (hk : 0 < k) :
    (n + 1).toNat = n.toNat + 1 := by
  have hsize : UInt32.size = 4294967296 := rfl
  rw [UInt32.toNat_add]
  simp only [UInt32.reduceToNat]
  omega

theorem GoesOn.succ {n : UInt32} (h : GoesOn cfg n.toNat) (hsucc : (n + 1).toNat = n.toNat + 1)
    (hmax : ¬ (cfg.maxReconnectAttempts > 0 ∧ n + 1 ≥ cfg.maxReconnectAttempts)) :
    GoesOn cfg (n + 1).toNat := by
  rw [hsucc]
  rcases h with hzero | hlt
  · exact .inl hzero
  · refine .inr ?_
    by_contra hge
    refine hmax ⟨UInt32.lt_iff_toNat_lt.mpr (show 0 < _ by omega), ?_⟩
    exact UInt32.le_iff_toNat_le.mpr (by omega)

/-- Every run of the loop ends in one of these ways, if no reply lacks an id, no delay that it
sleeps overflows and the count of attempts does not wrap. -/
theorem runLoop_ends (n : UInt32) (delay : Duration) (links : List Link) (w : World)
    (complete : ∀ link ∈ links, link.Complete rt)
    (doubles : ∀ d, .sleep d ∈ (runLoop rt cfg n delay links w).2.trace →
      (rt.mulF32Two d).isSome)
    (few : n.toNat + links.length < UInt32.size) (goes : GoesOn cfg n.toNat) :
    ∃ es, (runLoop rt cfg n delay links w).2.trace = w.trace ++ es ∧
      LoopEnds rt cfg n.toNat links es (runLoop rt cfg n delay links w).1 ∧
      attempts es ≤ links.length := by
  induction links generalizing n delay w with
  | nil =>
    refine ⟨[], by simp [runLoop], .running ?_ rfl (.inl rfl) goes, le_rfl⟩
    intro link hlast
    simp [lastLink] at hlast
  | cons link links ih =>
    obtain ⟨es, w₁, res, token, h, turn, trace, supplied, _⟩ := runOnce_turn rt cfg link w
    have hone := turn.attempts_eq
    have hlast : lastLink (link :: links) es = some link := lastLink_single hone
    have hle : attempts es ≤ (link :: links).length := by simp [hone]
    have ends := turn.ends (complete link List.mem_cons_self) (supplied [])
    cases ends with
    | cleanly hno =>
      rw [runLoop_ok rt cfg n delay link links h]
      exact ⟨es, trace, .cleanly hlast hno, hle⟩
    | rejected msg hrejects =>
      rw [runLoop_registration rt cfg n delay link links h]
      exact ⟨es, trace, .rejected msg hlast hrejects, hle⟩
    | lost hno he =>
      rw [runLoop_retry rt cfg n delay link links h he] at doubles ⊢
      have hsucc := toNat_succ few (by simp)
      unfold retry at doubles ⊢
      split
      · rename_i hreconnect
        have hreconnect : cfg.reconnect = false := by simpa using hreconnect
        exact ⟨es, trace, .gaveUp _ hlast hno (.inl ⟨hreconnect, hone⟩), hle⟩
      rename_i hreconnect
      have hreconnect : cfg.reconnect = true := by simpa using hreconnect
      split
      · rename_i hmax
        obtain ⟨hpos, hge⟩ := hmax
        have hpos : 0 < cfg.maxReconnectAttempts.toNat := UInt32.lt_iff_toNat_lt.mp hpos
        have hge := UInt32.le_iff_toNat_le.mp hge
        rw [hsucc] at hge
        refine ⟨es, trace, .gaveUp _ hlast hno (.inr ⟨hreconnect, hpos, ?_⟩), hle⟩
        rcases goes with hzero | hlt
        · omega
        · omega
      rename_i hmax
      have goes' : GoesOn cfg (n + 1).toNat := goes.succ cfg hsucc hmax
      rw [if_neg ‹_›, if_neg hmax] at doubles
      cases hdoubled : rt.mulF32Two delay with
      | none =>
        -- the run sleeps for a delay before it doubles it
        rw [hdoubled] at doubles
        have slept := doubles delay (List.mem_append_right _ (List.mem_singleton_self _))
        rw [hdoubled] at slept
        cases slept
      | some doubled =>
      rw [hdoubled] at doubles
      simp only at doubles ⊢
      obtain ⟨rest, htrace, hends, hle'⟩ := ih (n + 1) (min doubled cfg.maxReconnectDelay)
        { w₁ with trace := w₁.trace ++ [.sleep delay] }
        (fun link hm => complete link (List.mem_cons_of_mem _ hm)) doubles
        (by rw [hsucc]; simp only [List.length_cons] at few; omega) goes'
      rw [hsucc] at hends
      have hasleep : attempts (es ++ [.sleep delay]) = 1 := by
        simp [hone, attempts_cons, Event.opens]
      refine ⟨es ++ [.sleep delay] ++ rest, ?_, LoopEnds.cons rt cfg hasleep hno hreconnect hends,
        ?_⟩
      · rw [htrace]
        simp [trace]
      · rw [attempts_append, hasleep, List.length_cons]
        omega

section Clean

variable {cfg}

theorem History.closing_done {token : Nat} {st st' : ComponentState} {es : List Event}
    {o : Outcome} (h : History cfg token st es st' o) (ho : o = .returned (.ok ()))
    {phase : Phase} (hp : phase.Idle) : Rust.closing.after phase es = .done := by
  induction h generalizing phase with
  | «open» | crashed | overflowed => cases ho
  | finished attempt => exact (attempt.closing hp).2.1
  | gaveUp e' => cases ho
  | again delay attempt _ ih =>
    obtain ⟨_, idle⟩ := attempt.closing hp
    obtain ⟨_, same⟩ := Phase.Idle.sleeps idle delay
    have last := ih ho idle
    rw [after_append, after_cons]
    change Rust.closing.after (Phase.step _ (.sleep delay)) _ = _
    rw [same]
    exact last

theorem stops_last {pre post : List Event}
    (h : Rust.closing.Accepts .open (pre ++ .onShutdown :: post)) : post = [] := by
  rw [accepts_append] at h
  obtain ⟨_, allowed, hpost⟩ := h
  generalize Rust.closing.after .open pre = phase at allowed hpost
  cases phase with
  | acked =>
    cases post with
    | nil => rfl
    | cons e post => exact hpost.1.elim
  | «open» => exact absurd rfl allowed
  | asked =>
    obtain ⟨t, h⟩ := allowed
    cases h
  | cancelled =>
    obtain ⟨env, _, h | h⟩ := allowed <;> cases h
  | done => exact allowed.elim
  | lost => exact allowed.elim

end Clean

def Outcome.Neither (o : Outcome) : Prop :=
  o ≠ .returned (.ok ()) ∧ ∀ msg, o ≠ .returned (.error (.registration msg))

def Outcome.IsConnection (o : Outcome) : Prop :=
  ∃ msg, o = .returned (.error (.connection msg))

/-- How a run over the connection attempts in store may end. -/
structure RunEnds (links : List Link) (r : Outcome × World) : Prop where
  once : r.2.trace.countP Event.stops ≤ 1
  ok_iff : r.1 = .returned (.ok ()) ↔ r.2.trace.countP Event.stops = 1
  stopped : r.1 = .returned (.ok ()) → r.2.component.state = .shutdown ∧
    ∀ pre post, r.2.trace = pre ++ .onShutdown :: post → attempts post = 0
  registration_iff : (∃ msg, r.1 = .returned (.error (.registration msg))) ↔
    ∃ link, lastLink links r.2.trace = some link ∧ link.Rejects rt
  single : cfg.reconnect = false → r.1.Neither → links ≠ [] →
    r.1.IsConnection ∧ attempts r.2.trace = 1
  limited : cfg.reconnect = true → r.1.Neither → 0 < cfg.maxReconnectAttempts.toNat →
    if cfg.maxReconnectAttempts.toNat ≤ links.length then
      r.1.IsConnection ∧ attempts r.2.trace = cfg.maxReconnectAttempts.toNat
    else r.1 = .running ∧ attempts r.2.trace = links.length
  unlimited : cfg.reconnect = true → r.1.Neither → cfg.maxReconnectAttempts.toNat = 0 →
    r.1 = .running ∧ attempts r.2.trace = links.length

section Ends

variable {rt cfg} {n : Nat} {links : List Link} {es : List Event} {o : Outcome}

theorem LoopEnds.registration_iff (h : LoopEnds rt cfg n links es o) :
    (∃ msg, o = .returned (.error (.registration msg))) ↔
      ∃ link, lastLink links es = some link ∧ link.Rejects rt := by
  have accepted : ∀ {link}, lastLink links es = some link → ¬ link.Rejects rt →
      ¬ ∃ link, lastLink links es = some link ∧ link.Rejects rt := by
    rintro link hlast hno ⟨link', hlink, hrejects⟩
    rw [hlast] at hlink
    cases hlink
    exact hno hrejects
  cases h with
  | cleanly hlast hno => exact iff_of_false (by rintro ⟨msg, h⟩; cases h) (accepted hlast hno)
  | rejected msg hlast hrejects => exact iff_of_true ⟨msg, rfl⟩ ⟨_, hlast, hrejects⟩
  | gaveUp msg hlast hno => exact iff_of_false (by rintro ⟨msg, h⟩; cases h) (accepted hlast hno)
  | running hno =>
    refine iff_of_false (by rintro ⟨msg, h⟩; cases h) ?_
    rintro ⟨link, hlink, hrejects⟩
    exact hno link hlink hrejects

theorem LoopEnds.of_neither (h : LoopEnds rt cfg n links es o) (neither : o.Neither) :
    (o.IsConnection ∧ GivesUp cfg n es) ∨
      o = .running ∧ attempts es = links.length ∧ (links = [] ∨ cfg.reconnect = true) ∧
        GoesOn cfg (n + attempts es) := by
  cases h with
  | cleanly => exact absurd rfl neither.1
  | rejected msg => exact absurd rfl (neither.2 msg)
  | gaveUp msg _ _ gives => exact .inl ⟨⟨msg, rfl⟩, gives⟩
  | running _ hlen hr goes => exact .inr ⟨rfl, hlen, hr, goes⟩

end Ends

theorem run_ok_iff (links : List Link) :
    (run rt cfg links).1 = .returned (.ok ()) ↔
      closing.after .open (run rt cfg links).2.trace = .done := by
  obtain ⟨_, phases⟩ := run_closing rt cfg links
  obtain ⟨es, trace, history, _⟩ := runLoop_history rt cfg 0 cfg.reconnectDelay links {}
  have htrace : (run rt cfg links).2.trace = es := trace
  constructor
  · intro ho
    rw [htrace]
    exact history.closing_done ho (.inl rfl)
  · intro hd
    rcases phases with idle | ⟨_, _, ok⟩
    · rw [hd] at idle
      rcases idle with h | h <;> cases h
    · exact ok

/-- A run of fewer than 2^32 connection attempts in which every REGISTERED reply carries
both ids and no delay that it sleeps overflows ends in one of these ways. -/
theorem run_ends (links : List Link) (complete : ∀ link ∈ links, link.Complete rt)
    (doubles : ∀ d, .sleep d ∈ (run rt cfg links).2.trace → (rt.mulF32Two d).isSome)
    (few : links.length < UInt32.size) : RunEnds rt cfg links (run rt cfg links) := by
  obtain ⟨accepts, phases⟩ := run_closing rt cfg links
  have count := countP_stops accepts
  have done := run_ok_iff rt cfg links
  have goes : GoesOn cfg (0 : UInt32).toNat := by
    rcases Nat.eq_zero_or_pos cfg.maxReconnectAttempts.toNat with h | h
    · exact .inl h
    · exact .inr h
  obtain ⟨es, trace, ends, le⟩ := runLoop_ends rt cfg 0 cfg.reconnectDelay links {} complete
    doubles (by simpa using few) goes
  have trace : (run rt cfg links).2.trace = es := trace
  have ends : LoopEnds rt cfg 0 links es (run rt cfg links).1 := ends
  constructor
  case once =>
    rw [count]
    split <;> omega
  case ok_iff =>
    rw [done, count]
    split <;> simp_all
  case stopped =>
    intro ho
    constructor
    · rcases phases with idle | ⟨_, state, _⟩
      · rw [done.mp ho] at idle
        rcases idle with h | h <;> cases h
      · exact state
    · intro pre post hsplit
      rw [hsplit] at accepts
      rw [stops_last accepts]
      rfl
  case registration_iff =>
    rw [trace]
    exact ends.registration_iff
  case single =>
    intro hreconnect neither hne
    rw [trace]
    rcases ends.of_neither neither with ⟨connection, gives⟩ | ⟨_, _, h, _⟩
    · rcases gives with ⟨_, hone⟩ | ⟨h, _⟩
      · exact ⟨connection, hone⟩
      · simp [hreconnect] at h
    · simp [hreconnect, hne] at h
  case limited =>
    intro hreconnect neither hpos
    rw [trace]
    rcases ends.of_neither neither with ⟨connection, gives⟩ | ⟨running, hlen, _, goes⟩
    · rcases gives with ⟨h, _⟩ | ⟨_, _, heq⟩
      · simp [hreconnect] at h
      · rw [if_pos (by omega)]
        exact ⟨connection, by omega⟩
    · have hlt : ¬ cfg.maxReconnectAttempts.toNat ≤ links.length := by
        rcases goes with h | h <;> omega
      rw [if_neg hlt]
      exact ⟨running, hlen⟩
  case unlimited =>
    intro hreconnect neither hzero
    rw [trace]
    rcases ends.of_neither neither with ⟨_, gives⟩ | ⟨running, hlen, _⟩
    · rcases gives with ⟨h, _⟩ | ⟨_, hpos, _⟩
      · simp [hreconnect] at h
      · omega
    · exact ⟨running, hlen⟩

theorem run_ends_sample : RunEnds Sample.runtime { Sample.config with reconnect := true }
    [Sample.link [] [], Sample.link [Sample.registered, Sample.shutdown] []]
    (run Sample.runtime { Sample.config with reconnect := true }
      [Sample.link [] [], Sample.link [Sample.registered, Sample.shutdown] []]) := by
  refine run_ends Sample.runtime _ _ ?_ (fun d _ => rfl) (by decide)
  intro link hlink env henv _
  have both : (link.answer Sample.runtime).all (fun env =>
      (env.payload.get "component_id").isSome && (env.payload.get "session_id").isSome) = true := by
    rcases List.mem_cons.mp hlink with rfl | hlink
    · decide +kernel
    · obtain rfl := List.mem_singleton.mp hlink
      decide +kernel
  rw [henv] at both
  simpa using both

end AegisSdk.Rust
