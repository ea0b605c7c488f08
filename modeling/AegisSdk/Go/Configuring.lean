import AegisSdk.Go.Handshake

/-!
How far an accepted CONFIGURE gets. `handleConfig` tells CONFIGURED and RUNNING and waits for
an ACK after each, giving up at the first failure; what the environment has in store when
the CONFIGURE is dispatched settles where it ends.
-/

set_option autoImplicit false
set_option relaxedAutoImplicit false

namespace AegisSdk.Go

open AegisSdk.Protocol AegisSdk.Library

def Delivery.isMessage : Delivery → Bool
  | .message _ => true
  | .failure _ => false

def Supply.sends (s : Supply) (k : Nat) : Bool := (s.writes.drop k).headD true

def Supply.gives (s : Supply) (k : Nat) : Bool :=
  ((s.inbox.drop k).head?.map fun incoming => incoming.delivery.isMessage).getD false

/-- What is in store after `i` deliveries and `j` writes more. -/
def Supply.skip (s : Supply) (i j : Nat) : Supply :=
  { s with inbox := s.inbox.drop i, writes := s.writes.drop j }

@[simp] theorem sends_skip (s : Supply) (i j k : Nat) :
    (s.skip i j).sends k = s.sends (j + k) := by
  simp [Supply.sends, Supply.skip]

@[simp] theorem gives_skip (s : Supply) (i j k : Nat) :
    (s.skip i j).gives k = s.gives (i + k) := by
  simp [Supply.gives, Supply.skip]

@[simp] theorem skip_skip (s : Supply) (i j k l : Nat) :
    (s.skip i j).skip k l = s.skip (i + k) (j + l) := by
  simp [Supply.skip]

/-- What the environment has in store before the first of these turns. -/
def store (links : List Link) : Supply := { links := links, inbox := [], writes := [] }

/-- How far `handleConfig` gets after it has accepted a CONFIGURE. -/
inductive Stage where
  /-- CONFIGURED is not sent -/
  | nothing
  /-- CONFIGURED is sent, RUNNING is not -/
  | configured
  /-- RUNNING is sent, its ACK does not come -/
  | running
  /-- `OnRunning` is started -/
  | started
  deriving DecidableEq

/-- The stage of an accepted CONFIGURE that is dispatched while this is in store. The
first write is its ACK, whose error is dropped. -/
def Supply.stage (s : Supply) : Stage :=
  if !s.sends 1 then .nothing
  else if !(s.gives 0 && s.sends 2) then .configured
  else if !s.gives 1 then .running
  else .started

def Supply.startsWorker (handlers : Handlers) (s : Supply) : Bool :=
  handlers.onRunning && decide (s.stage = .started)

def Event.starts : Event → Bool
  | .onRunning => true
  | _ => false

/-- The event neither starts a worker nor stops one, and it is no event of `messageLoop`
itself. -/
def Event.minor : Event → Bool
  | .await _ _ | .dispatch _ | .onRunning | .onShutdown => false
  | _ => true

def Event.received : Event → Option Message
  | .recv m => some m
  | _ => none

/-- The message that the event dispatches, the one received right before. -/
def Event.dispatched (pre : List Event) : Event → Option Message
  | .dispatch _ => pre.getLast?.bind Event.received
  | _ => none

variable {cfg : Config} {handlers : Handlers} {s : Supply} {c c' : Component} {es : List Event}

theorem gives_of_recv {s : Supply} {m : Message} (h : supply.allows s (.recv m)) :
    s.gives 0 = true := by
  have hrecv : s.inbox.head?.map Incoming.delivery = some (.message m) := h
  cases hinbox : s.inbox with
  | nil => simp [hinbox] at hrecv
  | cons incoming rest =>
    simp [hinbox] at hrecv
    simp [Supply.gives, hinbox, hrecv, Delivery.isMessage]

theorem gives_of_recvFailed {s : Supply} {text : String}
    (h : supply.allows s (.recvFailed text)) : s.gives 0 = false := by
  have hrecv : s.inbox.head?.map Incoming.delivery = some (.failure text) ∨
    s.inbox = [] ∧ text = "EOF" := h
  rcases hrecv with hrecv | ⟨hrecv, -⟩
  · cases hinbox : s.inbox with
    | nil => simp [hinbox] at hrecv
    | cons incoming rest =>
      simp [hinbox] at hrecv
      simp [Supply.gives, hinbox, hrecv, Delivery.isMessage]
  · simp [Supply.gives, hrecv]

theorem Advance.stage {st : ComponentState} {b : Bool} (h : Advance cfg c st es c' b)
    (ha : supply.Accepts s es) :
    b = (s.sends 0 && s.gives 0) ∧ c'.state = (if s.sends 0 then st else c.state) ∧
      (b = true → supply.after s es = s.skip 1 1) := by
  cases h with
  | lost stamp =>
    have hsend : false = s.sends 0 := ha.1
    rw [← hsend]
    exact ⟨rfl, rfl, nofun⟩
  | unanswered stamp text =>
    have hsend : true = s.sends 0 := ha.1
    have hgives : s.gives 0 = false := gives_of_recvFailed ha.2.2.1
    rw [← hsend, hgives]
    exact ⟨rfl, rfl, nofun⟩
  | done stamp m =>
    have hsend : true = s.sends 0 := ha.1
    have hgives : s.gives 0 = true := gives_of_recv ha.2.2.1
    rw [← hsend, hgives]
    refine ⟨rfl, rfl, fun _ => ?_⟩
    simp [supply, Supply.step, Supply.skip]

theorem Advance.minor {st : ComponentState} {b : Bool} (h : Advance cfg c st es c' b) :
    (∀ e ∈ es, e.minor = true) ∧ (b = true → es.length = 3) := by
  cases h <;> simp [Event.minor]

def Stage.state (st : ComponentState) : Stage → ComponentState
  | .nothing => st
  | .configured => State.configured
  | .running => State.running
  | .started => State.running

theorem Settling.stage (h : Settling cfg handlers c es c')
    (ha : supply.Accepts (s.skip 0 1) es) :
    c'.state = s.stage.state c.state ∧
      ∃ xs, es = xs ++ opt (s.startsWorker handlers) .onRunning ∧
        (∀ e ∈ xs, e.minor = true) ∧ (s.stage = .started → xs.length = 6) := by
  cases h with
  | unconfigured a =>
    have first := a.stage ha
    simp only [sends_skip, gives_skip, skip_skip, Nat.add_zero] at first
    obtain ⟨hb, hstate, -⟩ := first
    have hstop : s.stage ≠ .started ∧ c'.state = s.stage.state c.state := by
      cases hs : s.sends 1 with
      | false => simp [Supply.stage, Stage.state, hs, hstate]
      | true =>
        have hg : s.gives 0 = false := by simpa [hs] using hb.symm
        simp [Supply.stage, Stage.state, hs, hg, hstate]
    refine ⟨hstop.2, es, by simp [Supply.startsWorker, hstop.1, opt], a.minor.1, ?_⟩
    intro h
    exact absurd h hstop.1
  | @stopped es es' c₁ _ a b =>
    rw [supply.accepts_append] at ha
    have first := a.stage ha.1
    rw [first.2.2 rfl] at ha
    have second := b.stage ha.2
    simp only [sends_skip, gives_skip, skip_skip, Nat.add_zero, Nat.zero_add, Nat.reduceAdd]
      at first second
    obtain ⟨hs, hg⟩ : s.sends 1 = true ∧ s.gives 0 = true := by simpa using first.1.symm
    have hconfigured : c₁.state = State.configured := by simpa [hs] using first.2.1
    have hstop : s.stage ≠ .started ∧ c'.state = s.stage.state c.state := by
      obtain ⟨hb, hstate, -⟩ := second
      cases hs₂ : s.sends 2 with
      | false => simp [Supply.stage, Stage.state, hs, hg, hs₂, hconfigured, hstate]
      | true =>
        have hg₂ : s.gives 1 = false := by simpa [hs₂] using hb.symm
        simp [Supply.stage, Stage.state, hs, hg, hs₂, hg₂, hstate]
    refine ⟨hstop.2, es ++ es', by simp [Supply.startsWorker, hstop.1, opt], ?_, ?_⟩
    · exact List.forall_mem_append.mpr ⟨a.minor.1, b.minor.1⟩
    · intro h
      exact absurd h hstop.1
  | @running es es' c₁ _ a b =>
    rw [supply.accepts_append, supply.accepts_append] at ha
    have first := a.stage ha.1
    rw [first.2.2 rfl] at ha
    have second := b.stage ha.2.1
    simp only [sends_skip, gives_skip, skip_skip, Nat.add_zero, Nat.zero_add, Nat.reduceAdd]
      at first second
    obtain ⟨hs, hg⟩ : s.sends 1 = true ∧ s.gives 0 = true := by simpa using first.1.symm
    obtain ⟨hs₂, hg₂⟩ : s.sends 2 = true ∧ s.gives 1 = true := by simpa using second.1.symm
    have started : s.stage = .started := by simp [Supply.stage, hs, hg, hs₂, hg₂]
    refine ⟨?_, es ++ es', by simp [Supply.startsWorker, started], ?_, ?_⟩
    · rw [second.2.1, hs₂, started]
      rfl
    · exact List.forall_mem_append.mpr ⟨a.minor.1, b.minor.1⟩
    · intro _
      rw [List.length_append, a.minor.2 rfl, b.minor.2 rfl]

theorem Reaction.stage {m : Message} {v : Verdict} (h : Reaction cfg handlers m c es c' v)
    (hm : Accepted handlers m) (ha : supply.Accepts s es) :
    c'.state = s.stage.state c.state ∧
      ∃ xs, es = xs ++ opt (s.startsWorker handlers) .onRunning ∧
        (∀ e ∈ xs, e.minor = true) ∧
        (s.stage = .started → xs.length = 7 + if handlers.onConfigure then 1 else 0) := by
  obtain ⟨hc, hr⟩ := hm
  obtain ⟨np, ne⟩ := isConfigure_not hc
  cases h with
  | @accepted stamp ok es c' _ _ settling =>
    have split : opt handlers.onConfigure (.onConfigure (configureSocket m.env)
        (configureTopics m.env)) ++ .send (ackLine cfg stamp c m.env.messageId) ok :: es =
        opt handlers.onConfigure (.onConfigure (configureSocket m.env) (configureTopics m.env)) ++
          ([.send (ackLine cfg stamp c m.env.messageId) ok] ++ es) := rfl
    rw [split] at ha ⊢
    have answered := accepts_opt rfl ha
    rw [supply.accepts_append] at answered
    have left : supply.after s [.send (ackLine cfg stamp c m.env.messageId) ok] = s.skip 0 1 := by
      simp [supply, Supply.step, Supply.skip]
    rw [left] at answered
    obtain ⟨hstate, xs, rfl, minor, hlength⟩ := settling.stage answered.2
    refine ⟨hstate, opt handlers.onConfigure (.onConfigure (configureSocket m.env)
      (configureTopics m.env)) ++ ([.send (ackLine cfg stamp c m.env.messageId) ok] ++ xs),
      by simp, ?_, fun h => ?_⟩
    · cases handlers.onConfigure <;> simpa [opt, Event.minor] using minor
    · have hxs := hlength h
      cases handlers.onConfigure <;> simp [opt, hxs]
  | ignored hi => exact absurd hc hi.2.1
  | pong _ _ _ hp => exact absurd hp np
  | refused _ err _ _ hrefused =>
    rw [hr] at hrefused
    cases hrefused
  | shutdown _ _ _ _ hs => exact absurd (.inl hs) ne
  | recoverable _ _ he | fatal _ _ _ he => exact absurd hc (isError_not he).2.1

theorem Reaction.minor {m : Message} {v : Verdict} (h : Reaction cfg handlers m c es c' v)
    (hm : ¬ Accepted handlers m) (hs : ¬ IsShutdown m.env) :
    c' = c ∧ ∀ e ∈ es, e.minor = true := by
  cases h with
  | accepted _ _ hc hr => exact absurd ⟨hc, hr⟩ hm
  | shutdown _ _ _ _ h => exact absurd h hs
  | ignored => exact ⟨rfl, by simp⟩
  | pong => cases handlers.onPing <;> simp [opt, Event.minor]
  | refused => cases handlers.onConfigure <;> simp [opt, Event.minor]
  | recoverable | fatal => cases handlers.onError <;> simp [opt, Event.minor]

/-- `messageLoop` itself records the event: an iteration or a dispatch. -/
def Event.outer : Event → Bool
  | .await _ _ | .dispatch _ => true
  | _ => false

theorem Event.outer_of_minor {e : Event} (h : e.minor = true) : e.outer = false := by
  cases e <;> first | rfl | simp [Event.minor] at h

theorem Event.starts_of_minor {e : Event} (h : e.minor = true) : e.starts = false := by
  cases e <;> first | rfl | simp [Event.minor] at h

theorem any_starts_of_minor {es : List Event} (h : ∀ e ∈ es, e.minor = true) :
    es.any Event.starts = false := by
  rw [List.any_eq_false]
  intro e he
  simp [Event.starts_of_minor (h e he)]

theorem any_starts_stage {xs : List Event} (h : ∀ e ∈ xs, e.minor = true) (past : List Event)
    (started : Bool) :
    (past ++ (xs ++ opt started .onRunning)).any Event.starts =
      (past.any Event.starts || started) := by
  have quiet := any_starts_of_minor h
  cases started <;> simp only [opt, List.any_append, quiet] <;> simp [Event.starts]

theorem Session.head {v : Verdict} (h : Session cfg handlers c es c' v) :
    ∃ ctx tail, es = .await c.state ctx :: tail := by
  cases h <;> exact ⟨_, _, rfl⟩

theorem Reaction.ends {m : Message} {v : Verdict} (h : Reaction cfg handlers m c es c' v)
    (hv : v ≠ .continue) : Ends m := by
  cases h with
  | shutdown _ _ _ _ hs => exact .inl hs
  | fatal _ _ _ he hr => exact .inr ⟨he, hr⟩
  | _ => exact absurd rfl hv

theorem Reaction.not_ends {m : Message} (h : Reaction cfg handlers m c es c' .continue) :
    ¬ Ends m := by
  cases h with
  | ignored hi =>
    rintro (hs | hf)
    · exact hi.2.2.1 hs
    · exact hi.2.2.2 hf.1
  | pong _ _ _ hp => exact isPing_not hp
  | refused _ _ _ hc | accepted _ _ hc => exact (isConfigure_not hc).2
  | recoverable _ _ he hr =>
    rintro (hs | hf)
    · exact (isError_not he).2.2 hs
    · have := hr.symm.trans hf.2
      cases this

theorem Settling.inner (h : Settling cfg handlers c es c') : ∀ e ∈ es, e.outer = false := by
  have inner : ∀ {es : List Event}, (∀ e ∈ es, e.minor = true) → ∀ e ∈ es, e.outer = false :=
    fun h e he => Event.outer_of_minor (h e he)
  cases h with
  | unconfigured a => exact inner a.minor.1
  | stopped a b => exact List.forall_mem_append.mpr ⟨inner a.minor.1, inner b.minor.1⟩
  | running a b =>
    refine List.forall_mem_append.mpr ⟨inner a.minor.1, List.forall_mem_append.mpr
      ⟨inner b.minor.1, ?_⟩⟩
    cases handlers.onRunning <;> simp [opt, Event.outer]

theorem Reaction.inner {m : Message} {v : Verdict} (h : Reaction cfg handlers m c es c' v) :
    ∀ e ∈ es, e.outer = false := by
  cases h with
  | accepted _ _ _ _ settling =>
    have inner := settling.inner
    cases handlers.onConfigure <;> simpa [opt, Event.outer] using inner
  | shutdown => cases handlers.onShutdown <;> simp [opt, Event.outer]
  | ignored => simp
  | pong => cases handlers.onPing <;> simp [opt, Event.outer]
  | refused => cases handlers.onConfigure <;> simp [opt, Event.outer]
  | recoverable | fatal => cases handlers.onError <;> simp [opt, Event.outer]

theorem Handshake.minor {rt : Runtime} {res : Option GoError}
    (h : Handshake rt cfg c es c' res) : ∀ e ∈ es, e.minor = true := by
  cases h with
  | notInitializing _ _ _ _ _ a => simpa [Event.minor] using a.minor.1
  | notReady _ _ _ _ _ a b | ready _ _ _ a b =>
    have both := List.forall_mem_append.mpr ⟨a.minor.1, b.minor.1⟩
    simpa [Event.minor] using both
  | _ => simp [Event.minor]

theorem minor_opened {path : String} (h : ∀ e ∈ es, e.minor = true) :
    ∀ e ∈ Event.dial path true :: es, e.minor = true :=
  List.forall_mem_cons.mpr ⟨rfl, h⟩

theorem Handshake.state {rt : Runtime} (h : Handshake rt cfg c es c' none) :
    c'.state = State.ready := by
  cases h with
  | ready _ _ _ a b =>
    cases b
    rfl

theorem Attempt.parts {rt : Runtime} {res : Option GoError}
    (h : Attempt rt cfg handlers c es c' res) :
    (∀ e ∈ es, e.minor = true) ∨ ∃ opening loop c₁ v, es = opening ++ (loop ++ [.close]) ∧
      opening ≠ [] ∧ (∀ e ∈ opening, e.minor = true) ∧ c₁.state = State.ready ∧
        Session cfg handlers c₁ loop c' v ∧ v ≠ .continue ∧ res = v.err := by
  cases h with
  | refused => exact .inl (by simp [Event.minor])
  | @unready es _ _ handshake =>
    refine .inl ?_
    rw [← List.cons_append]
    exact List.forall_mem_append.mpr ⟨minor_opened handshake.minor, by simp [Event.minor]⟩
  | @session es es' c₁ _ v handshake session hv =>
    refine .inr ⟨.dial cfg.socketPath true :: es, es', c₁, v, by simp, by simp,
      minor_opened handshake.minor, handshake.state, session, hv, rfl⟩

namespace Sample

def configure : Message := message "m5" MessageType.config Command.configure []

/-- The daemon's messages and what ends a `recv` in between. -/
def link (deliveries : List Delivery) : Link :=
  { inbox := deliveries.map fun delivery => { delivery := delivery } }

def handshake : List Delivery := [.message registered, .message ack, .message ack]

end Sample

end AegisSdk.Go
