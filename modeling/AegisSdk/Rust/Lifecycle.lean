import AegisSdk.Library.Monitor
import AegisSdk.Rust.Reaction

/-!
The lifecycle a connection shows to the daemon. `lifecycle` is the protocol as a
monitor: REGISTER first, INITIALIZING, READY, then rounds of CONFIGURED and RUNNING,
nothing after a failed write, one worker token for each connection. The component's
trace is accepted by it, and acceptance gives the invariant at every moment.
-/

set_option autoImplicit false
set_option relaxedAutoImplicit false

namespace AegisSdk.Rust

open AegisSdk.Protocol AegisSdk.Library AegisSdk.Library.Monitor

def Event.isConnect : Event → Bool
  | .connect _ => true
  | _ => false

def current (trace : List Event) : List Event := since Event.isConnect trace

def Event.tried : Event → Option Envelope
  | .write env => some env
  | .writeFailed env => some env
  | _ => none

def Event.written : Event → Option Envelope
  | .write env => some env
  | _ => none

theorem Event.written_of_tried {e : Event} (h : e.tried = none) : e.written = none := by
  cases e <;> first | rfl | nomatch h

def Envelope.reported (env : Envelope) : Option ComponentState :=
  ((env.payload.get "state").bind Json.asStr).bind ComponentState.ofName

def updates (es : List Event) : List (Option ComponentState) :=
  ((es.filterMap Event.written).filter (·.command = .stateUpdate)).map Envelope.reported

/-- INITIALIZING, READY and `n` rounds of CONFIGURED, RUNNING. -/
def rounds (n : Nat) : List ComponentState :=
  .initializing :: .ready :: (List.replicate n [.configured, .running]).flatten

def Event.isLoss : Event → Bool
  | .writeFailed _ => true
  | _ => false

def Event.spawns : Event → Bool
  | .onRunning _ => true
  | _ => false

inductive Told where
  | nothing
  | registered
  | state (s : ComponentState)
  deriving DecidableEq

def Told.next : Told → Option ComponentState
  | .registered => some .initializing
  | .state .initializing => some .ready
  | .state .ready => some .configured
  | .state .configured => some .running
  | .state .running => some .configured
  | _ => none

/-- The lines that may be sent once the daemon has been told `told`. -/
def Told.admits (told : Told) (env : Envelope) : Prop :=
  if told = .nothing then env.command = .register
  else env.command ≠ .register ∧
    (env.command = .stateUpdate → ∃ s, env.reported = some s ∧ told.next = some s) ∧
    (env.command = .pong → ∃ s, env.reported = some s ∧ told = .state s)

def Told.after (told : Told) (env : Envelope) : Told :=
  if told = .nothing then .registered
  else match told.next with
    | some s => if env.command = .stateUpdate then .state s else told
    | none => told

/-- What the daemon has been told on the current connection and what the component
has done about its worker. -/
structure Ledger where
  told : Told := .nothing
  broken : Bool := false
  token : Option Nat := none
  stopped : Bool := false
  spawned : Bool := false
  /-- tokens created in the whole run -/
  tokens : Nat := 0

def Ledger.step (l : Ledger) : Event → Ledger
  | .connect _ => { tokens := l.tokens }
  | .write env => { l with told := l.told.after env }
  | .writeFailed _ => { l with broken := true }
  | .token t => { l with token := some t, tokens := l.tokens + 1 }
  | .cancel _ => { l with stopped := true }
  | .onRunning _ => { l with spawned := true }
  | _ => l

def Ledger.allows (l : Ledger) : Event → Prop
  | .write env => l.broken = false ∧ l.told.admits env
  | .writeFailed env => l.broken = false ∧ l.told.admits env
  | .token t => t = l.tokens ∧ l.token = none
  | .cancel t => l.token = some t
  | .onRunning t => l.token = some t ∧ l.told = .state .running
  | .await s => l.told = .state s ∧ l.broken = false ∧ l.stopped = false ∧ l.token.isSome ∧
      ((s = .ready ∧ l.spawned = false) ∨ (s = .running ∧ l.spawned = true))
  | _ => True

def lifecycle : Monitor Ledger Event where
  step := Ledger.step
  allows := Ledger.allows

section Lines

variable (cfg : Config) (stamp : Stamp)

@[simp] theorem registerLine_command (id : String) :
    (registerLine cfg stamp id).command = .register := rfl
@[simp] theorem stateLine_command (s : ComponentState) :
    (stateLine cfg stamp s).command = .stateUpdate := rfl
@[simp] theorem ackLine_command (id : String) : (ackLine cfg stamp id).command = .ack := rfl
@[simp] theorem pongLine_command (s : ComponentState) (secs : Nat) (id : String) :
    (pongLine cfg stamp s secs id).command = .pong := rfl
@[simp] theorem errorLine_command (code message : String) (recoverable : Bool) :
    (errorLine cfg stamp code message recoverable).command = .runtimeError := rfl

@[simp] theorem stateLine_reported (s : ComponentState) :
    (stateLine cfg stamp s).reported = some s := by
  simp [Envelope.reported, stateLine, Envelope.new]

@[simp] theorem pongLine_reported (s : ComponentState) (secs : Nat) (id : String) :
    (pongLine cfg stamp s secs id).reported = some s := by
  simp [Envelope.reported, pongLine, Envelope.withCorrelation, Envelope.new]

end Lines

/-- `message_loop` is at its head in state `st` with the token `token`. -/
structure AtHead (token : Nat) (st : ComponentState) (l : Ledger) : Prop where
  told : l.told = .state st
  intact : l.broken = false
  live : l.stopped = false
  token : l.token = some token
  worker : (st = .ready ∧ l.spawned = false) ∨ (st = .running ∧ l.spawned = true)

theorem Reaction.lifecycle {cfg : Config} {token : Nat} {env : Envelope}
    {answer : Except AegisError Unit} {st st' : ComponentState} {es : List Event}
    {v : Verdict} (h : Reaction cfg token env answer st es st' v) {l : Ledger}
    (hl : AtHead token st l) :
    lifecycle.Accepts l es ∧ (v = .continue → AtHead token st' (lifecycle.after l es)) := by
  obtain ⟨told, intact, live, htoken, worker⟩ := hl
  obtain ⟨t, broken, tok, stopped, spawned, tokens⟩ := l
  simp only at told intact live htoken worker
  subst told intact live htoken
  -- in either state every reaction is a fixed list of events the monitor can run through
  rcases worker with ⟨rfl, rfl⟩ | ⟨rfl, rfl⟩ <;> cases h <;>
    simp [Rust.lifecycle, Ledger.step, Ledger.allows, Told.admits, Told.after, Told.next] <;>
    constructor <;> simp

theorem Session.lifecycle {cfg : Config} {token : Nat} {st st' : ComponentState}
    {es : List Event} {v : Verdict} (h : Session cfg token st es st' v) {l : Ledger}
    (hl : AtHead token st l) : lifecycle.Accepts l es := by
  have waits : ∀ {st : ComponentState} {l : Ledger}, AtHead token st l →
      l.allows (.await st) := fun hl =>
    ⟨hl.told, hl.intact, hl.live, by simp [hl.token], hl.worker⟩
  induction h generalizing l with
  | lost st e => exact ⟨waits hl, trivial⟩
  | last reaction _ => exact ⟨waits hl, trivial, (reaction.lifecycle hl).1⟩
  | next reaction _ ih =>
    obtain ⟨accepts, onward⟩ := reaction.lifecycle hl
    exact ⟨waits hl, trivial, (accepts_append _ _ _ _).mpr ⟨accepts, ih (onward rfl)⟩⟩

theorem Attempt.lifecycle {cfg : Config} {token : Nat} {st st' : ComponentState}
    {es : List Event} {ending : Ending} (h : Attempt cfg token st es st' ending) {l : Ledger}
    (hl : l.tokens = token) : lifecycle.Accepts l es := by
  subst hl
  cases h with
  | session r i d id session =>
    refine (accepts_append _ _ _ _).mpr ⟨?_, session.lifecycle ?_⟩
    · simp [Rust.lifecycle, Ledger.step, Ledger.allows, Told.admits, Told.after, Told.next]
    · constructor <;> simp [Rust.lifecycle, Ledger.step, Told.after, Told.next]
  | _ => simp [Rust.lifecycle, Ledger.step, Ledger.allows, Told.admits, Told.after, Told.next]

theorem lifecycle_tokens (l : Ledger) (es : List Event) :
    (lifecycle.after l es).tokens = l.tokens + tokensIn es := by
  induction es generalizing l with
  | nil => simp [tokensIn]
  | cons e es ih =>
    rw [after_cons, ih]
    cases e <;> simp [Rust.lifecycle, Ledger.step, tokensIn]
    omega

theorem History.lifecycle {cfg : Config} {token : Nat} {st st' : ComponentState}
    {es : List Event} {o : Outcome} (h : History cfg token st es st' o) {l : Ledger}
    (hl : l.tokens = token) : lifecycle.Accepts l es := by
  induction h generalizing l with
  | «open» token st => trivial
  | finished attempt => exact attempt.lifecycle hl
  | gaveUp _ attempt => exact attempt.lifecycle hl
  | crashed attempt => exact attempt.lifecycle hl
  | overflowed delay msg attempt =>
    exact (accepts_append _ _ _ _).mpr ⟨attempt.lifecycle hl, trivial, trivial⟩
  | again delay attempt _ ih =>
    refine (accepts_append _ _ _ _).mpr ⟨attempt.lifecycle hl, trivial, ih ?_⟩
    change (Rust.lifecycle.after l _).tokens = _
    rw [lifecycle_tokens, hl]

/-- The trace of every run is accepted by the protocol monitor. -/
theorem run_lifecycle (rt : Runtime) (cfg : Config) (links : List Link) :
    lifecycle.Accepts {} (run rt cfg links).2.trace := by
  obtain ⟨es, trace, history, _⟩ := runLoop_history rt cfg 0 cfg.reconnectDelay links {}
  rw [run, trace]
  exact history.lifecycle rfl

inductive Told.Explains : Told → List (Option ComponentState) → Prop
  | nothing : Explains .nothing []
  | registered : Explains .registered []
  | initializing : Explains (.state .initializing) [some .initializing]
  | settled (n : Nat) (s : ComponentState) (h : s = if n = 0 then .ready else .running) :
      Explains (.state s) ((rounds n).map some)
  | configured (n : Nat) : Explains (.state .configured) ((rounds n).map some ++ [some .configured])

theorem rounds_succ (n : Nat) : rounds (n + 1) = rounds n ++ [.configured, .running] := by
  simp [rounds, List.replicate_succ', List.flatten_append]

theorem Told.Explains.rounds {told : Told} {us : List (Option ComponentState)}
    (h : told.Explains us) : ∃ n, us <+: (rounds n).map some := by
  cases h with
  | nothing => exact ⟨0, List.nil_prefix⟩
  | registered => exact ⟨0, List.nil_prefix⟩
  | initializing => exact ⟨0, by simp [Rust.rounds]⟩
  | settled n s => exact ⟨n, List.prefix_refl _⟩
  | configured n => exact ⟨n + 1, ⟨[some .running], by simp [rounds_succ]⟩⟩

theorem Told.Explains.write {told : Told} {us : List (Option ComponentState)}
    (h : told.Explains us) {env : Envelope} (ha : told.admits env) :
    (told.after env).Explains
      (us ++ if env.command = .stateUpdate then [env.reported] else []) := by
  by_cases hn : told = .nothing
  · subst hn
    cases h
    have hc : env.command = .register := by simpa [Told.admits] using ha
    simpa [Told.after, hc] using Told.Explains.registered
  simp only [Told.admits, hn, if_false] at ha
  simp only [Told.after, hn, if_false]
  by_cases hs : env.command = .stateUpdate
  case neg =>
    simp only [hs, if_false, List.append_nil]
    cases told.next <;> exact h
  obtain ⟨s, hr, hnext⟩ := ha.2.1 hs
  simp only [hs, if_true, hr, hnext]
  cases h with
  | nothing => exact absurd rfl hn
  | registered =>
    obtain rfl : ComponentState.initializing = s := Option.some.inj hnext
    exact .initializing
  | initializing =>
    obtain rfl : ComponentState.ready = s := Option.some.inj hnext
    exact .settled 0 .ready rfl
  | settled n s' hs' =>
    have : s = .configured := by
      subst hs'
      split at hnext <;> exact (Option.some.inj hnext).symm
    subst this
    exact .configured n
  | configured n =>
    obtain rfl : ComponentState.running = s := Option.some.inj hnext
    have := Told.Explains.settled (n + 1) .running (by simp)
    simpa [rounds_succ] using this

theorem Told.after_ne_nothing (told : Told) (env : Envelope) : told.after env ≠ .nothing := by
  unfold Told.after
  split
  · nofun
  split
  · split
    · nofun
    · assumption
  · assumption

theorem current_concat (q : List Event) (e : Event) :
    current (q ++ [e]) = if e.isConnect then [] else current q ++ [e] :=
  since_concat _ q e

theorem current_concat_of_not {e : Event} (h : e.isConnect = false) (q : List Event) :
    current (q ++ [e]) = current q ++ [e] :=
  since_concat_of_not _ h q

theorem updates_concat {e : Event} (h : e.written = none) (es : List Event) :
    updates (es ++ [e]) = updates es := by
  simp [updates, List.filterMap_cons_none h]

theorem tried_concat {e : Event} (h : e.tried = none) (es : List Event) :
    (es ++ [e]).filterMap Event.tried = es.filterMap Event.tried := by
  simp [List.filterMap_cons_none h]

theorem ledger_broken (q : List Event) :
    (lifecycle.after {} q).broken = (current q).any Event.isLoss := by
  induction q using List.reverseRecOn with
  | nil => rfl
  | append_singleton q e ih =>
    rw [after_append, current_concat]
    cases e <;> simp [lifecycle, Ledger.step, Event.isConnect, Event.isLoss] <;> exact ih

theorem ledger_spawned (q : List Event) :
    (lifecycle.after {} q).spawned = (current q).any Event.spawns := by
  induction q using List.reverseRecOn with
  | nil => rfl
  | append_singleton q e ih =>
    rw [after_append, current_concat]
    cases e <;> simp [lifecycle, Ledger.step, Event.isConnect, Event.spawns] <;> exact ih

theorem ledger_token (q : List Event) (t : Nat)
    (h : (lifecycle.after {} q).token = some t) : .token t ∈ current q := by
  induction q using List.reverseRecOn with
  | nil => simp [lifecycle, Monitor.after] at h
  | append_singleton q e ih =>
    rw [after_append] at h
    rw [current_concat]
    cases e with
    | connect path => simp [lifecycle, Ledger.step] at h
    | token t' =>
      obtain rfl : t' = t := by simpa [lifecycle, Ledger.step] using h
      simp [Event.isConnect]
    | _ => exact List.mem_append_left _ (ih h)

/-- The lines tried on a connection: none yet, or REGISTER and then no other REGISTER. -/
def Opening (l : Ledger) (lines : List Envelope) : Prop :=
  (lines = [] ∧ l.told = .nothing) ∨
    ∃ env rest, lines = env :: rest ∧ env.command = .register ∧
      (∀ env' ∈ rest, env'.command ≠ .register) ∧ (l.told ≠ .nothing ∨ l.broken = true)

theorem Opening.concat {l l' : Ledger} {lines : List Envelope} (h : Opening l lines)
    {env : Envelope} (intact : l.broken = false) (ha : l.told.admits env)
    (hl : l'.told ≠ .nothing ∨ l'.broken = true) : Opening l' (lines ++ [env]) := by
  rcases h with ⟨rfl, hn⟩ | ⟨first, rest, rfl, hf, hrest, hn⟩
  · exact .inr ⟨env, [], rfl, by simpa [Told.admits, hn] using ha, by simp, hl⟩
  · have told : l.told ≠ .nothing := by simpa [intact] using hn
    have later : env.command ≠ .register := by
      simp only [Told.admits, told, if_false] at ha
      exact ha.1
    refine .inr ⟨first, rest ++ [env], rfl, hf, fun env' hm => ?_, hl⟩
    rcases List.mem_append.mp hm with hm | hm
    · exact hrest env' hm
    · rwa [List.mem_singleton.mp hm]

structure Ledger.Sums (q : List Event) (l : Ledger) : Prop where
  updates : l.told.Explains (updates (current q))
  opening : Opening l ((current q).filterMap Event.tried)
  older : ∀ t, .token t ∈ q ∨ .cancel t ∈ q → t < l.tokens
  known : ∀ t, l.token = some t → t < l.tokens
  stopped : l.stopped = false → ∀ t, l.token = some t → .cancel t ∉ q

theorem Ledger.Sums.next (q : List Event) (l : Ledger) (e : Event) (h : Ledger.Sums q l)
    (ha : l.allows e) : Ledger.Sums (q ++ [e]) (l.step e) := by
  obtain ⟨updates, opening, older, known, stopped⟩ := h
  -- an event without a line leaves what the ledger knows of the lines
  have kept : e.isConnect = false → e.tried = none → (l.step e).told = l.told →
      (l.step e).broken = l.broken →
      (l.step e).told.Explains (Rust.updates (current (q ++ [e]))) ∧
        Opening (l.step e) ((current (q ++ [e])).filterMap Event.tried) := by
    intro hc ht told broken
    rw [current_concat_of_not hc, updates_concat (Event.written_of_tried ht), tried_concat ht,
      Opening, told, broken]
    exact ⟨updates, opening⟩
  cases e with
  | connect path =>
    have emptied : current (q ++ [.connect path]) = [] := since_concat_of_opens _ rfl q
    refine ⟨?_, ?_, by simpa [Ledger.step] using older, nofun, nofun⟩ <;> rw [emptied]
    · exact .nothing
    · exact .inl ⟨rfl, rfl⟩
  | write env =>
    refine ⟨?_, ?_, by simpa [Ledger.step] using older, known,
      by simpa [Ledger.step] using stopped⟩ <;> rw [current_concat_of_not rfl]
    · have := updates.write ha.2
      by_cases hs : env.command = .stateUpdate <;>
        simpa [Ledger.step, Rust.updates, Event.written, hs] using this
    · simpa [Event.tried] using
        opening.concat ha.1 ha.2 (.inl (Told.after_ne_nothing l.told env))
  | writeFailed env =>
    refine ⟨?_, ?_, by simpa [Ledger.step] using older, known,
      by simpa [Ledger.step] using stopped⟩ <;> rw [current_concat_of_not rfl]
    · rw [updates_concat rfl]
      exact updates
    · simpa [Event.tried] using opening.concat ha.1 ha.2 (.inr rfl)
  | token t =>
    obtain ⟨rfl, _⟩ := ha
    obtain ⟨updates, opening⟩ := kept rfl rfl rfl rfl
    refine ⟨updates, opening, ?_, by simp [Ledger.step], ?_⟩
    · intro t ht
      have := older t
      simp only [List.mem_append, List.mem_singleton, Event.token.injEq, reduceCtorEq,
        or_false] at ht
      grind [Ledger.step]
    · intro _ t ht
      have := older l.tokens
      obtain rfl : l.tokens = t := Option.some.inj ht
      simp only [List.mem_append, List.mem_singleton, reduceCtorEq, or_false]
      grind
  | cancel t =>
    have := known t ha
    obtain ⟨updates, opening⟩ := kept rfl rfl rfl rfl
    refine ⟨updates, opening, ?_, known, nofun⟩
    intro t' ht
    have := older t'
    simp only [List.mem_append, List.mem_singleton, Event.cancel.injEq, reduceCtorEq,
      or_false] at ht
    grind [Ledger.step]
  | _ =>
    obtain ⟨updates, opening⟩ := kept rfl rfl rfl rfl
    exact ⟨updates, opening, by simpa [Ledger.step] using older, known,
      by simpa [Ledger.step] using stopped⟩

/-- The invariant of the lifecycle at the moment when exactly the events `p` have
happened. -/
structure LifecycleInvariant (p : List Event) : Prop where
  /-- The states told on this connection come in rounds. -/
  updates : ∃ n, updates (current p) <+: (rounds n).map some
  /-- REGISTER is the first line, and there is no second one. -/
  register : ∀ env rest, (current p).filterMap Event.tried = env :: rest →
    env.command = .register ∧ ∀ env' ∈ rest, env'.command ≠ .register
  /-- A line is sent only while no write on this connection has failed. -/
  silence : ∀ q e env, p = q ++ [e] → e.tried = some env →
    ∀ e' ∈ current q, e'.isLoss = false
  /-- A PONG carries the state told last. -/
  pong : ∀ q e env, p = q ++ [e] → e.tried = some env → env.command = .pong →
    ∃ s, env.reported = some s ∧ (Rust.updates (current q)).getLast? = some (some s)
  /-- Whenever `message_loop` waits, the state is the one told last, it is RUNNING
  exactly if `on_running` was spawned on this connection, and the token is live. -/
  waiting : ∀ q s, p = q ++ [.await s] →
    (Rust.updates (current q)).getLast? = some (some s) ∧ (s = .ready ∨ s = .running) ∧
    (s = .running ↔ ∃ e ∈ current q, e.spawns = true) ∧
    ∃ t, .token t ∈ current q ∧ .cancel t ∉ q

theorem Told.Explains.last {s : ComponentState} {us : List (Option ComponentState)}
    (h : (Told.state s).Explains us) : us.getLast? = some (some s) := by
  cases h with
  | initializing => rfl
  | settled n s hs =>
    subst hs
    cases n with
    | zero => rfl
    | succ n => simp [rounds_succ]
  | configured n => simp

theorem sums_of_accepts {p : List Event} (h : lifecycle.Accepts {} p) :
    Ledger.Sums p (lifecycle.after {} p) :=
  h.induction Ledger.Sums
    ⟨.nothing, .inl ⟨rfl, rfl⟩, by simp, by simp, by simp⟩
    (fun q l e hq ha => Ledger.Sums.next q l e hq ha)

theorem allows_of_tried {l : Ledger} {e : Event} {env : Envelope} (h : l.allows e)
    (he : e.tried = some env) : l.broken = false ∧ l.told.admits env := by
  cases e with
  | write env' =>
    obtain rfl := Option.some.inj he
    exact h
  | writeFailed env' =>
    obtain rfl := Option.some.inj he
    exact h
  | _ => cases he

theorem lifecycleInvariant_of_accepts {p : List Event} (h : lifecycle.Accepts {} p) :
    LifecycleInvariant p := by
  have sums := sums_of_accepts h
  refine ⟨sums.updates.rounds, ?_, ?_, ?_, ?_⟩
  · intro env rest hl
    rcases sums.opening with ⟨hn, _⟩ | ⟨first, more, hc, hf, hm, _⟩
    · simp [hl] at hn
    · obtain ⟨rfl, rfl⟩ : first = env ∧ more = rest := by simpa [hc] using hl
      exact ⟨hf, hm⟩
  · rintro q e env rfl he e' he'
    obtain ⟨intact, -⟩ := allows_of_tried h.allowed he
    rw [ledger_broken, List.any_eq_false] at intact
    simpa using intact e' he'
  · rintro q e env rfl he hc
    obtain ⟨-, admits⟩ := allows_of_tried h.allowed he
    have started : (lifecycle.after {} q).told ≠ .nothing := by
      intro hn
      rw [Told.admits, if_pos hn, hc] at admits
      cases admits
    rw [Told.admits, if_neg started] at admits
    obtain ⟨s, hs, told⟩ := admits.2.2 hc
    have updates := (sums_of_accepts (h.initial (List.prefix_append q _))).updates
    rw [told] at updates
    exact ⟨s, hs, updates.last⟩
  · rintro q s rfl
    have sums := sums_of_accepts (h.initial (List.prefix_append q _))
    obtain ⟨told, _, live, htoken, worker⟩ := h.allowed
    obtain ⟨t, ht⟩ := Option.isSome_iff_exists.mp htoken
    have updates := sums.updates
    rw [told] at updates
    refine ⟨updates.last, ?_, ?_, t, ledger_token q t ht, sums.stopped live t ht⟩
    · rcases worker with ⟨hs, _⟩ | ⟨hs, _⟩ <;> simp [hs]
    · rw [ledger_spawned, ← Bool.not_eq_true, List.any_eq_true] at worker
      rcases worker with ⟨rfl, hw⟩ | ⟨rfl, hw⟩
      · exact ⟨nofun, fun hw' => absurd hw' hw⟩
      · exact ⟨fun _ => hw, fun _ => rfl⟩

/-- At every moment of every run the lifecycle invariant holds on the current
connection. -/
theorem lifecycle_invariant (rt : Runtime) (cfg : Config) (links : List Link) :
    ∀ p, p <+: (run rt cfg links).2.trace → LifecycleInvariant p := by
  intro p hp
  exact lifecycleInvariant_of_accepts ((run_lifecycle rt cfg links).initial hp)

namespace Sample

def line (id type command payload : String) : List UInt8 :=
  ("\x7b\"protocol_version\":\"0.1\",\"message_id\":\"" ++ id ++
    "\",\"timestamp\":\"t\",\"source\":\"aegis\",\"target\":\"component:c\",\"type\":\"" ++
    type ++ "\",\"command\":\"" ++ command ++ "\",\"payload\":" ++ payload ++
    "\x7d\n").toByteArray.data.toList

def value (id type command : String) (payload : Payload) : Json :=
  .obj [("protocol_version", .str "0.1"), ("message_id", .str id), ("timestamp", .str "t"),
    ("source", .str "aegis"), ("target", .str "component:c"), ("type", .str type),
    ("command", .str command), ("payload", .obj payload)]

def registered : List UInt8 := line "m1" "LIFECYCLE" "REGISTERED"
  "\x7b\"component_id\":\"c1\",\"session_id\":\"s1\"\x7d"
def configure : List UInt8 := line "m2" "CONFIG" "CONFIGURE" "\x7b\x7d"
def shutdown : List UInt8 := line "m3" "LIFECYCLE" "SHUTDOWN" "\x7b\x7d"

def parse (text : List UInt8) : Option Json :=
  if text = registered then
    some (value "m1" "LIFECYCLE" "REGISTERED"
      [("component_id", .str "c1"), ("session_id", .str "s1")])
  else if text = configure then some (value "m2" "CONFIG" "CONFIGURE" [])
  else if text = shutdown then some (value "m3" "LIFECYCLE" "SHUTDOWN" [])
  else none

def runtime : Runtime where
  stamp n := { messageId := toString n, timestamp := "" }
  elapsedSecs _ := 0
  envComponentId := ""
  parse := parse
  mulF32Two d := some (2 * d)

def config : Config :=
  { socketPath := "aegis.sock", sessionToken := "t", componentName := "c", reconnect := false }

def link (lines : List (List UInt8)) (writes : List Bool) : Link :=
  { reads := lines.map fun l => { event := .line l }, writes := writes }

end Sample

theorem lifecycle_invariant_sample :
    (∃ p, p <+: (run Sample.runtime Sample.config
        [Sample.link [Sample.registered, Sample.configure] []]).2.trace ∧
      updates (current p) = (rounds 1).map some ∧ LifecycleInvariant p) :=
  ⟨_, List.prefix_refl _, by decide +kernel,
    lifecycle_invariant Sample.runtime Sample.config _ _ (List.prefix_refl _)⟩

end AegisSdk.Rust
