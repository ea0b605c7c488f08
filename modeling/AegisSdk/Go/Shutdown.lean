import AegisSdk.Go.Reaction

/-!
What follows the dispatch of a SHUTDOWN. `messageLoop` and `runOnce` return nil, and
`Run` takes nil like a lost connection: the run is over only if it gives up anyway
before the next connection.
-/

set_option autoImplicit false
set_option relaxedAutoImplicit false

namespace AegisSdk.Go

open AegisSdk.Protocol AegisSdk.Library

def Event.asksShutdown : Event → Bool
  | .dispatch env => IsShutdown env
  | _ => false

def Event.stops : Event → Bool
  | .onShutdown => true
  | _ => false

def Event.waits : Event → Bool
  | .wait _ => true
  | _ => false

def Event.reopens : Event → Bool
  | .dial _ ok => ok
  | .send env _ => env.command == Command.register
  | _ => false

/-- Nothing is said or done about a SHUTDOWN, and the turn goes on. -/
def Event.calm (e : Event) : Bool := !e.asksShutdown && !e.stops && !e.waits

section Calm

variable (env : Envelope) (ok : Bool) (m : Message) (text path : String) (topics : List String)

@[simp] theorem Event.calm_dial : (Event.dial path ok).calm = true := rfl
@[simp] theorem Event.calm_send : (Event.send env ok).calm = true := rfl
@[simp] theorem Event.calm_recv : (Event.recv m).calm = true := rfl
@[simp] theorem Event.calm_recvFailed : (Event.recvFailed text).calm = true := rfl
@[simp] theorem Event.calm_state : (Event.state text).calm = true := rfl
@[simp] theorem Event.calm_await (ctx : Option CtxErr) : (Event.await text ctx).calm = true := rfl
@[simp] theorem Event.calm_onConfigure : (Event.onConfigure text topics).calm = true := rfl
@[simp] theorem Event.calm_onRunning : Event.onRunning.calm = true := rfl
@[simp] theorem Event.calm_onPing : Event.onPing.calm = true := rfl
@[simp] theorem Event.calm_onError (code message : String) :
    (Event.onError code message).calm = true := rfl

end Calm

def Calm (es : List Event) : Prop := ∀ e ∈ es, e.calm = true

@[simp] theorem calm_nil : Calm [] := by simp [Calm]

@[simp] theorem calm_cons (e : Event) (es : List Event) :
    Calm (e :: es) ↔ e.calm = true ∧ Calm es := List.forall_mem_cons

@[simp] theorem calm_append (es es' : List Event) : Calm (es ++ es') ↔ Calm es ∧ Calm es' :=
  List.forall_mem_append

@[simp] theorem calm_opt (isSet : Bool) (e : Event) :
    Calm (opt isSet e) ↔ (isSet = true → e.calm = true) := by
  cases isSet <;> simp [opt]

theorem Calm.asks {es : List Event} (h : Calm es) : ∀ e ∈ es, e.asksShutdown = false := by
  intro e he
  have := h e he
  simp only [Event.calm, Bool.and_eq_true, Bool.not_eq_true'] at this
  exact this.1.1

theorem Calm.stops {es : List Event} (h : Calm es) : ∀ e ∈ es, e.stops = false := by
  intro e he
  have := h e he
  simp only [Event.calm, Bool.and_eq_true, Bool.not_eq_true'] at this
  exact this.1.2

theorem Calm.waits {es : List Event} (h : Calm es) : ∀ e ∈ es, e.waits = false := by
  intro e he
  have := h e he
  simp only [Event.calm, Bool.and_eq_true, Bool.not_eq_true'] at this
  exact this.2

section Turn

variable {rt : Runtime} {cfg : Config} {handlers : Handlers}

theorem Advance.calm {c c' : Component} {s : ComponentState} {es : List Event} {b : Bool}
    (h : Advance cfg c s es c' b) : Calm es := by
  cases h <;> simp

theorem Settling.calm {c c' : Component} {es : List Event}
    (h : Settling cfg handlers c es c') : Calm es := by
  cases h with
  | unconfigured a => exact a.calm
  | stopped a b => simp [a.calm, b.calm]
  | running a b => simp [a.calm, b.calm]

theorem Handshake.calm {c c' : Component} {es : List Event} {res : Option GoError}
    (h : Handshake rt cfg c es c' res) : Calm es := by
  cases h with
  | notInitializing _ _ _ _ _ a => simp [a.calm]
  | notReady _ _ _ _ _ a b | ready _ _ _ a b => simp [a.calm, b.calm]
  | _ => simp

theorem Event.calm_dispatch {env : Envelope} (h : ¬ IsShutdown env) :
    (Event.dispatch env).calm = true := by
  simp [Event.calm, Event.asksShutdown, Event.stops, Event.waits, h]

theorem Reaction.calm {m : Message} {c c' : Component} {es : List Event} {v : Verdict}
    (h : Reaction cfg handlers m c es c' v) (hm : ¬ IsShutdown m.env) : Calm es := by
  cases h with
  | accepted _ _ _ _ settling => simp [settling.calm]
  | shutdown _ _ _ _ hs => exact absurd hs hm
  | _ => simp

/-- The events from the dispatch of a SHUTDOWN to the end of `messageLoop`. -/
def ShutdownTail (handlers : Handlers) (tail : List Event) : Prop :=
  ∃ ack notice ok ok', ack.command = Command.ack ∧ notice.command = Command.shutdown ∧
    tail = .send ack ok ::
      (opt handlers.onShutdown .onShutdown ++ [.send notice ok', .state State.shutdown])

theorem isShutdown_not {env : Envelope} (h : IsShutdown env) :
    ¬ IsPing env ∧ ¬ IsConfigure env ∧ ¬ IsError env ∧ ¬ Ignored env := by
  obtain ⟨ht, hc⟩ := h
  simp [IsPing, IsConfigure, IsError, Ignored, IsShutdown, ht, hc, MessageType.lifecycle,
    MessageType.heartbeat, MessageType.config, MessageType.error]

theorem Reaction.shutdownTail {m : Message} {c c' : Component} {es : List Event} {v : Verdict}
    (h : Reaction cfg handlers m c es c' v) (hm : IsShutdown m.env) :
    v = .stop ∧ ShutdownTail handlers es ∧ c'.state = State.shutdown := by
  obtain ⟨np, nc, ne, ni⟩ := isShutdown_not hm
  cases h with
  | shutdown a n ok ok' _ => exact ⟨rfl, ⟨_, _, ok, ok', rfl, rfl, rfl⟩, rfl⟩
  | ignored h => exact absurd h ni
  | pong _ _ _ h => exact absurd h np
  | refused _ _ _ h | accepted _ _ h => exact absurd h nc
  | recoverable _ _ h | fatal _ _ _ h => exact absurd h ne

theorem Reaction.plain {m : Message} {c c' : Component} {es : List Event} {v : Verdict}
    (h : Reaction cfg handlers m c es c' v) (hm : ¬ IsShutdown m.env) (hv : v ≠ .continue) :
    ∃ err, v = .error err ∧ err.Plain := by
  cases h with
  | shutdown _ _ _ _ hs => exact absurd hs hm
  | fatal _ _ err _ _ plain => exact ⟨err, rfl, plain⟩
  | _ => exact absurd rfl hv

/-- A clean stop dispatches one SHUTDOWN and does what `handleLifecycle` does then. -/
structure CleanStop (handlers : Handlers) (es : List Event) (c' : Component) : Prop where
  shape : ∃ pre env tail, es = pre ++ .dispatch env :: tail ∧ Calm pre ∧ IsShutdown env ∧
    ShutdownTail handlers tail
  state : c'.state = State.shutdown

def Leaves (handlers : Handlers) (es : List Event) (c' : Component) : Option GoError → Prop
  | none => CleanStop handlers es c'
  | some err => (∀ e ∈ es, e.asksShutdown = false) ∧ (err.isContext = false → Calm es)

theorem Leaves.calm_append {es pre : List Event} {c' : Component} {res : Option GoError}
    (h : Leaves handlers es c' res) (hpre : Calm pre) : Leaves handlers (pre ++ es) c' res := by
  cases res with
  | none =>
    obtain ⟨⟨pre', env, tail, rfl, hpre', hs, htail⟩, state⟩ := h
    exact ⟨⟨pre ++ pre', env, tail, by simp, by simp [hpre, hpre'], hs, htail⟩, state⟩
  | some err =>
    refine ⟨?_, fun hc => by simp [hpre, h.2 hc]⟩
    exact List.forall_mem_append.mpr ⟨hpre.asks, h.1⟩

theorem Session.leaves {c c' : Component} {es : List Event} {v : Verdict}
    (h : Session cfg handlers c es c' v) (hv : v ≠ .continue) :
    Leaves handlers es c' v.err := by
  induction h with
  | cancelled c err stamp ok =>
    refine ⟨?_, nofun⟩
    cases hs : handlers.onShutdown <;> simp [opt, Event.asksShutdown]
  | lost c text err plain =>
    exact ⟨by simp [Event.asksShutdown], fun _ => by simp⟩
  | @last c c' m es v reaction _ =>
    by_cases hm : IsShutdown m.env
    · obtain ⟨rfl, tail, state⟩ := reaction.shutdownTail hm
      exact ⟨⟨[.await c.state none, .recv m], m.env, es, rfl, by simp, hm, tail⟩, state⟩
    · obtain ⟨err, rfl, plain⟩ := reaction.plain hm hv
      have calm : Calm (.await c.state none :: .recv m :: .dispatch m.env :: es) := by
        simp [Event.calm_dispatch hm, reaction.calm hm]
      exact ⟨calm.asks, fun _ => calm⟩
  | @next c c' c'' m es rest v reaction _ ih =>
    have hm : ¬ IsShutdown m.env := fun hm => nomatch (reaction.shutdownTail hm).1
    have calm : Calm (.await c.state none :: .recv m :: .dispatch m.env :: es) := by
      simp [Event.calm_dispatch hm, reaction.calm hm]
    exact (ih hv).calm_append calm

/-- A turn of `Run` that ends in nil is a clean stop and a closed connection; one that
ends in an error dispatches no SHUTDOWN. -/
theorem Attempt.leaves {c c' : Component} {es : List Event} {res : Option GoError}
    (h : Attempt rt cfg handlers c es c' res) :
    match res with
    | none => ∃ es', es = es' ++ [.close] ∧ CleanStop handlers es' c'
    | some err => (∀ e ∈ es, e.asksShutdown = false) ∧ (err.isContext = false → Calm es) := by
  have close : (Event.close).calm = true := rfl
  cases h with
  | refused err plain => exact ⟨by simp [Event.asksShutdown], fun _ => by simp⟩
  | @unready es c' err handshake =>
    have calm : Calm (.dial cfg.socketPath true :: (es ++ [.close])) := by
      simp only [calm_cons, calm_append]
      exact ⟨rfl, handshake.calm, close, calm_nil⟩
    exact ⟨calm.asks, fun _ => calm⟩
  | @session es es' c₁ c' v handshake session hv =>
    have calm : Calm (.dial cfg.socketPath true :: es) := by simp [handshake.calm]
    have leaves := (session.leaves hv).calm_append calm
    cases v with
    | «continue» => exact absurd rfl hv
    | stop => exact ⟨_, rfl, leaves⟩
    | error err =>
      obtain ⟨asks, calm⟩ := leaves
      refine ⟨?_, fun hc => ?_⟩
      · simpa [or_imp, forall_and, Event.asksShutdown] using asks
      · simpa [close] using calm hc

theorem Attempt.dials {c c' : Component} {es : List Event} {res : Option GoError}
    (h : Attempt rt cfg handlers c es c' res) :
    es = [.dial cfg.socketPath false] ∨ ∃ rest, es = .dial cfg.socketPath true :: rest := by
  cases h with
  | refused => exact .inl rfl
  | unready | session => exact .inr ⟨_, rfl⟩

end Turn

section Run

variable (rt : Runtime) (cfg : Config) (handlers : Handlers)

/-- After the turn number `attempts` no further one is made: `Run` does not reconnect or
its attempts are used up. -/
def Exhausted (attempts : Nat) : Prop :=
  cfg.reconnect = false ∨
    (cfg.maxReconnectAttempts > 0 ∧ ((attempts + 1 : Nat) : Int) ≥ cfg.maxReconnectAttempts)

/-- After the turn number `attempts` on `link`, `Run` returns before it opens another
connection: the turns are exhausted, the context is done, or the dials fail until one of
these holds. -/
def GivesUp (attempts : Nat) (link : Link) : List Link → Prop
  | [] => Exhausted cfg attempts ∨ link.wait.isSome
  | next :: links => Exhausted cfg attempts ∨ link.wait.isSome ∨ next.ctx.isSome ∨
      (next.dial = false ∧ GivesUp (attempts + 1) next links)

/-- Run has returned, and since `w` it has opened nothing, sent no REGISTER, called no
callback and left the component alone. -/
structure Quiet (w : World) (r : Outcome × World) : Prop where
  returned : ∃ err, r.1 = .returned err
  component : r.2.component = w.component
  events : ∃ es, r.2.trace = w.trace ++ es ∧ ∀ e ∈ es,
    e.reopens = false ∧ e.asksShutdown = false ∧ e.stops = false

theorem Quiet.refl (w : World) (err : Option GoError) : Quiet w (.returned err, w) :=
  ⟨⟨err, rfl⟩, rfl, [], by simp, by simp⟩

theorem Quiet.after {w w' : World} {r : Outcome × World} {es : List Event} (h : Quiet w' r)
    (hc : w'.component = w.component) (ht : w'.trace = w.trace ++ es)
    (he : ∀ e ∈ es, e.reopens = false ∧ e.asksShutdown = false ∧ e.stops = false) :
    Quiet w r := by
  obtain ⟨returned, component, es', ht', he'⟩ := h
  refine ⟨returned, component.trans hc, es ++ es', by rw [ht', ht, List.append_assoc], ?_⟩
  exact List.forall_mem_append.mpr ⟨he, he'⟩

theorem returnErr_cases (attempts : Nat) (res : Option GoError)
    (hres : ∀ err, res = some err → err.Plain) :
    (∃ err, returnErr cfg attempts res = some err ∧ Exhausted cfg attempts) ∨
    (returnErr cfg attempts res = none ∧ ¬ Exhausted cfg attempts) := by
  have hc : (res.map GoError.isContext).getD false = false := by
    cases res with
    | none => rfl
    | some err => exact (hres err rfl).1
  have hr : (res.map GoError.isRegistration).getD false = false := by
    cases res with
    | none => rfl
    | some err => exact (hres err rfl).2
  unfold returnErr
  rw [hc, hr]
  simp only [Bool.false_eq_true, if_false]
  split
  case isTrue h => exact .inl ⟨_, rfl, .inl (by simpa using h)⟩
  case isFalse hrec =>
  split
  case isTrue h => exact .inl ⟨_, rfl, .inr h⟩
  case isFalse hmax =>
    refine .inr ⟨rfl, ?_⟩
    rintro (h | h)
    · simp [h] at hrec
    · exact hmax h

def LostOrNil (res : Option GoError) : Prop := ∀ err, res = some err → err.Plain

theorem connectError_lost : LostOrNil (some (.wrap "connect" (some (.other "dial")))) := by
  rintro err ⟨⟩
  exact ⟨rfl, rfl⟩

theorem runLoop_cons (attempts : Nat) (delay : Duration) (link : Link) (links : List Link)
    (w : World) (h : link.ctx = none) {res : Option GoError} {w' : World}
    (hr : runOnce rt cfg handlers link w = onceResult res w') :
    runLoop rt cfg handlers attempts delay (link :: links) w =
      endTurn cfg attempts delay link res (runLoop rt cfg handlers (attempts + 1)
        (minDuration (delay * 2) cfg.maxReconnectDelay) links) w' := by
  rw [runLoop, h]
  simp only [hr]
  cases res <;> rfl

theorem runLoop_done (attempts : Nat) (delay : Duration) (link : Link) (links : List Link)
    (w : World) {err : CtxErr} (h : link.ctx = some err) :
    runLoop rt cfg handlers attempts delay (link :: links) w =
      (.returned (some (.ctx err)), w) := by
  rw [runLoop, h]

theorem runLoop_trace (attempts : Nat) (delay : Duration) (links : List Link) (w : World) :
    ∃ es, (runLoop rt cfg handlers attempts delay links w).2.trace = w.trace ++ es := by
  induction links generalizing attempts delay w with
  | nil => exact ⟨[], by simp [runLoop]⟩
  | cons link links ih =>
    cases hctx : link.ctx with
    | some err => exact ⟨[], by rw [runLoop_done rt cfg handlers _ _ _ _ _ hctx]; simp⟩
    | none =>
      obtain ⟨es, res, w', h, _, trace, _⟩ := runOnce_attempt rt cfg handlers link w
      rw [runLoop_cons rt cfg handlers attempts delay link links w hctx h, endTurn]
      cases returnErr cfg attempts res with
      | some err => exact ⟨es, trace⟩
      | none =>
        cases link.wait with
        | some err => exact ⟨es ++ [.wait delay], by simp [trace]⟩
        | none =>
          obtain ⟨rest, hrest⟩ := ih (attempts + 1) (minDuration (delay * 2) cfg.maxReconnectDelay)
            { w' with trace := w'.trace ++ [.wait delay] }
          exact ⟨es ++ .wait delay :: rest, by rw [hrest]; simp [trace]⟩

theorem endTurn_trace (attempts : Nat) (delay : Duration) (link : Link) (links : List Link)
    (res : Option GoError) (w : World) :
    ∃ es, (endTurn cfg attempts delay link res (runLoop rt cfg handlers (attempts + 1)
      (minDuration (delay * 2) cfg.maxReconnectDelay) links) w).2.trace = w.trace ++ es := by
  unfold endTurn
  cases returnErr cfg attempts res with
  | some err => exact ⟨[], by simp⟩
  | none =>
    cases link.wait with
    | some err => exact ⟨[.wait delay], rfl⟩
    | none =>
      obtain ⟨rest, hrest⟩ := runLoop_trace rt cfg handlers (attempts + 1)
        (minDuration (delay * 2) cfg.maxReconnectDelay) links
        { w with trace := w.trace ++ [.wait delay] }
      exact ⟨.wait delay :: rest, by rw [hrest]; simp⟩

theorem runOnce_refused (link : Link) (w : World) (h : link.dial = false) :
    runOnce rt cfg handlers link w =
      onceResult (some (.wrap "connect" (some (.other "dial"))))
        { w with trace := w.trace ++ [.dial cfg.socketPath false] } := by
  simp only [runOnce, h]
  rfl

theorem endTurn_quiet (attempts : Nat) (delay : Duration) (link : Link) (links : List Link)
    {res : Option GoError} (hres : LostOrNil res) (w : World)
    (h : GivesUp cfg attempts link links) :
    Quiet w (endTurn cfg attempts delay link res (runLoop rt cfg handlers (attempts + 1)
      (minDuration (delay * 2) cfg.maxReconnectDelay) links) w) := by
  induction links generalizing attempts delay link res w with
  | nil =>
    unfold endTurn
    rcases returnErr_cases cfg attempts res hres with ⟨err, hr, _⟩ | ⟨hr, hne⟩
    · rw [hr]
      exact Quiet.refl w err
    · obtain ⟨err, hw⟩ := Option.isSome_iff_exists.mp (h.resolve_left hne)
      rw [hr, hw]
      exact (Quiet.refl _ _).after rfl rfl
        (by simp [Event.reopens, Event.asksShutdown, Event.stops])
  | cons next links ih =>
    unfold endTurn
    rcases returnErr_cases cfg attempts res hres with ⟨err, hr, _⟩ | ⟨hr, hne⟩
    · rw [hr]
      exact Quiet.refl w err
    rw [hr]
    cases hw : link.wait with
    | some err =>
      exact (Quiet.refl _ _).after rfl rfl
        (by simp [Event.reopens, Event.asksShutdown, Event.stops])
    | none =>
      have goes := (h.resolve_left hne).resolve_left (by simp [hw])
      have waited : ∀ e ∈ [Event.wait delay],
          e.reopens = false ∧ e.asksShutdown = false ∧ e.stops = false := by
        simp [Event.reopens, Event.asksShutdown, Event.stops]
      cases hctx : next.ctx with
      | some err =>
        simp only
        rw [runLoop_done rt cfg handlers _ _ _ _ _ hctx]
        exact (Quiet.refl _ _).after rfl rfl waited
      | none =>
        obtain ⟨hdial, more⟩ := goes.resolve_left (by simp [hctx])
        simp only
        rw [runLoop_cons rt cfg handlers _ _ next links _ hctx
          (runOnce_refused rt cfg handlers next _ hdial)]
        have refused : ∀ e ∈ [Event.wait delay, .dial cfg.socketPath false],
            e.reopens = false ∧ e.asksShutdown = false ∧ e.stops = false := by
          simp [Event.reopens, Event.asksShutdown, Event.stops]
        exact (ih (attempts + 1) (minDuration (delay * 2) cfg.maxReconnectDelay) next
          connectError_lost _ more).after rfl (by simp) refused

theorem endTurn_reopens (attempts : Nat) (delay : Duration) (link : Link) (links : List Link)
    {res : Option GoError} (hres : LostOrNil res) (w : World)
    (h : ¬ GivesUp cfg attempts link links) :
    let r := endTurn cfg attempts delay link res (runLoop rt cfg handlers (attempts + 1)
      (minDuration (delay * 2) cfg.maxReconnectDelay) links) w
    r.1 = .running ∨ ∃ es, r.2.trace = w.trace ++ es ∧ ∃ e ∈ es, e.reopens = true := by
  induction links generalizing attempts delay link res w with
  | nil =>
    unfold endTurn
    simp only [GivesUp, not_or] at h
    rcases returnErr_cases cfg attempts res hres with ⟨_, _, hex⟩ | ⟨hr, _⟩
    · exact absurd hex h.1
    · rw [hr, Option.not_isSome_iff_eq_none.mp h.2]
      exact .inl rfl
  | cons next links ih =>
    unfold endTurn
    simp only [GivesUp, not_or, Option.not_isSome_iff_eq_none] at h
    obtain ⟨hne, hw, hctx, hgo⟩ := h
    rcases returnErr_cases cfg attempts res hres with ⟨_, _, hex⟩ | ⟨hr, _⟩
    · exact absurd hex hne
    rw [hr, hw]
    simp only
    let w₁ : World := { w with trace := w.trace ++ [.wait delay] }
    cases hdial : next.dial with
    | true =>
      -- the dial succeeds: its event is in the trace whatever follows
      obtain ⟨es, res', w₂, hrun, attempt, trace, supplied, _⟩ :=
        runOnce_attempt rt cfg handlers next w₁
      have opened : ∃ e ∈ es, e.reopens = true := by
        have ok := supplied []
        rcases attempt.dials with rfl | ⟨rest, rfl⟩
        · simp [supply, Supply.allows, World.supply, hdial] at ok
        · exact ⟨_, List.mem_cons_self, rfl⟩
      obtain ⟨e, he, hre⟩ := opened
      obtain ⟨rest, hrest⟩ := endTurn_trace rt cfg handlers (attempts + 1)
        (minDuration (delay * 2) cfg.maxReconnectDelay) next links res' w₂
      refine .inr ⟨.wait delay :: (es ++ rest), ?_, e, by simp [he], hre⟩
      rw [runLoop_cons rt cfg handlers _ _ next links w₁ hctx hrun, hrest, trace]
      simp [w₁]
    | false =>
      rw [runLoop_cons rt cfg handlers _ _ next links w₁ hctx
        (runOnce_refused rt cfg handlers next _ hdial)]
      rcases ih (attempts + 1) (minDuration (delay * 2) cfg.maxReconnectDelay) next
          connectError_lost { w₁ with trace := w₁.trace ++ [.dial cfg.socketPath false] }
          (fun more => hgo ⟨hdial, more⟩) with running | ⟨es, trace, e, he, hre⟩
      · exact .inl running
      · refine .inr ⟨.wait delay :: .dial cfg.socketPath false :: es, ?_, e, by simp [he], hre⟩
        rw [trace]
        simp [w₁]

/-- `Run` is over after the SHUTDOWN whose dispatch `post` follows in `es`: nothing is
opened, no REGISTER is sent, `OnShutdown` is called once if it is set, the state stays
SHUTDOWN and `Run` returns. -/
structure Over (es post : List Event) (r : Outcome × World) : Prop where
  quiet : ∀ e ∈ post, e.reopens = false
  once : es.countP Event.stops = if handlers.onShutdown then 1 else 0
  state : r.2.component.state = State.shutdown
  returned : ∃ err, r.1 = .returned err

def LastTurn (attempts : Nat) (links : List Link) (n : Nat) : Prop :=
  ∃ link rest, links.drop n = link :: rest ∧ GivesUp cfg (attempts + n) link rest

/-- Wherever a SHUTDOWN is dispatched in `es`, `Fact` holds of what came before and what
comes after. -/
def AtShutdown (es : List Event) (Fact : List Event → List Event → Prop) : Prop :=
  ∀ pre env post, es = pre ++ .dispatch env :: post → IsShutdown env → Fact pre post

theorem atShutdown_of_none {es : List Event} {Fact : List Event → List Event → Prop}
    (h : ∀ e ∈ es, e.asksShutdown = false) : AtShutdown es Fact := by
  rintro pre env post rfl hs
  have := h (.dispatch env) (by simp)
  simp [Event.asksShutdown, hs] at this

theorem atShutdown_append {xs es : List Event} {Fact : List Event → List Event → Prop}
    (h : ∀ e ∈ xs, e.asksShutdown = false) :
    AtShutdown (xs ++ es) Fact ↔ AtShutdown es fun pre post => Fact (xs ++ pre) post := by
  constructor
  · rintro hf pre env post rfl hs
    exact hf (xs ++ pre) env post (by simp) hs
  · intro hf pre env post heq hs
    obtain ⟨pre', rfl, rfl⟩ := split_after heq h (by simp [Event.asksShutdown, hs])
    exact hf pre' env post rfl hs

theorem atShutdown_single {pre post : List Event} {env : Envelope}
    {Fact : List Event → List Event → Prop} (hpre : ∀ e ∈ pre, e.asksShutdown = false)
    (hpost : ∀ e ∈ post, e.asksShutdown = false) (hs : IsShutdown env) :
    AtShutdown (pre ++ .dispatch env :: post) Fact ↔ Fact pre post := by
  constructor
  · intro hf
    exact hf pre env post rfl hs
  · intro hf pre' env' post' heq hs'
    obtain ⟨rfl, _, rfl⟩ := split_unique heq hpre hpost (by simp [Event.asksShutdown, hs'])
    exact hf

theorem AtShutdown.congr {es : List Event} {Fact Fact' : List Event → List Event → Prop}
    (h : ∀ pre post, Fact pre post ↔ Fact' pre post) :
    AtShutdown es Fact ↔ AtShutdown es Fact' := by
  simp only [AtShutdown, h]

theorem lastTurn_succ (attempts : Nat) (link : Link) (links : List Link) (n : Nat) :
    LastTurn cfg attempts (link :: links) (1 + n) ↔ LastTurn cfg (attempts + 1) links n := by
  unfold LastTurn
  rw [Nat.add_comm 1 n, List.drop_succ_cons, Nat.add_right_comm, Nat.add_assoc attempts n 1]

theorem ShutdownTail.reopens {tail : List Event} (h : ShutdownTail handlers tail) :
    ∀ e ∈ tail ++ [.close], e.reopens = false := by
  obtain ⟨ack, notice, ok, ok', hack, hnotice, rfl⟩ := h
  cases handlers.onShutdown <;>
    simp [opt, Event.reopens, hack, hnotice, Command.ack, Command.shutdown, Command.register]

theorem ShutdownTail.asks {tail : List Event} (h : ShutdownTail handlers tail) :
    ∀ e ∈ tail ++ [.close], e.asksShutdown = false := by
  obtain ⟨ack, notice, ok, ok', _, _, rfl⟩ := h
  cases handlers.onShutdown <;> simp [opt, Event.asksShutdown]

theorem ShutdownTail.once {tail : List Event} (h : ShutdownTail handlers tail) :
    (tail ++ [Event.close]).countP Event.stops = if handlers.onShutdown then 1 else 0 := by
  obtain ⟨ack, notice, ok, ok', _, _, rfl⟩ := h
  cases handlers.onShutdown <;> simp [opt, Event.stops, List.countP_cons]

theorem Calm.countP_stops {es : List Event} (h : Calm es) : es.countP Event.stops = 0 := by
  rw [List.countP_eq_zero]
  intro e he
  simp [h.stops e he]

theorem Calm.countP_waits {es : List Event} (h : Calm es) : es.countP Event.waits = 0 := by
  rw [List.countP_eq_zero]
  intro e he
  simp [h.waits e he]

theorem cleanStop_final (attempts : Nat) (delay : Duration) (link : Link) (links : List Link)
    (w : World) {es₁ : List Event} (stop : CleanStop handlers es₁ w.component) :
    let r := endTurn cfg attempts delay link none (runLoop rt cfg handlers (attempts + 1)
      (minDuration (delay * 2) cfg.maxReconnectDelay) links) w
    ∀ es₂, r.2.trace = w.trace ++ es₂ →
      (AtShutdown (es₁ ++ [.close] ++ es₂)
          (fun _ post => Over handlers (es₁ ++ [.close] ++ es₂) post r) ↔
        AtShutdown (es₁ ++ [.close] ++ es₂)
          fun pre _ => LastTurn cfg attempts (link :: links) (pre.countP Event.waits)) := by
  intro r es₂ trace
  obtain ⟨⟨pre, env, tail, rfl, hpre, hs, htail⟩, state⟩ := stop
  have noErr : LostOrNil none := nofun
  have split : pre ++ .dispatch env :: tail ++ [.close] ++ es₂ =
      pre ++ .dispatch env :: (tail ++ [.close] ++ es₂) := by simp
  have zero : LastTurn cfg attempts (link :: links) (pre.countP Event.waits) ↔
      GivesUp cfg attempts link links := by
    rw [hpre.countP_waits]
    constructor
    · rintro ⟨l, rest, hl, gives⟩
      obtain ⟨rfl, rfl⟩ := List.cons.inj hl
      exact gives
    · exact fun gives => ⟨link, links, rfl, gives⟩
  rw [split]
  by_cases gives : GivesUp cfg attempts link links
  · obtain ⟨returned, component, es', htrace, quiet⟩ :=
      endTurn_quiet rt cfg handlers attempts delay link links noErr w gives
    obtain rfl : es' = es₂ := List.append_cancel_left (htrace.symm.trans trace)
    have post : ∀ e ∈ tail ++ [.close] ++ es', e.asksShutdown = false :=
      List.forall_mem_append.mpr ⟨htail.asks, fun e he => (quiet e he).2.1⟩
    rw [atShutdown_single hpre.asks post hs, atShutdown_single hpre.asks post hs, zero]
    refine iff_of_true ⟨?_, ?_, ?_, returned⟩ gives
    · exact List.forall_mem_append.mpr ⟨htail.reopens, fun e he => (quiet e he).1⟩
    · have silent : es'.countP Event.stops = 0 := by
        rw [List.countP_eq_zero]
        intro e he
        simp [(quiet e he).2.2]
      rw [List.countP_append, List.countP_cons, List.countP_append, hpre.countP_stops,
        htail.once, silent]
      simp [Event.stops]
    · exact (congrArg Component.state component).trans state
  · refine iff_of_false (fun hf => ?_) fun hf => gives (zero.mp (hf pre env _ rfl hs))
    obtain ⟨quiet, _, _, err, returned⟩ := hf pre env _ rfl hs
    rcases endTurn_reopens rt cfg handlers attempts delay link links noErr w gives with
      running | ⟨es', htrace, e, he, hre⟩
    · rw [running] at returned
      cases returned
    · obtain rfl : es' = es₂ := List.append_cancel_left (htrace.symm.trans trace)
      have := quiet e (by simp [he])
      simp [hre] at this

/-- SHUTDOWN is final in a run of the loop exactly if it comes in a last turn. -/
theorem runLoop_final (attempts : Nat) (delay : Duration) (links : List Link) (w : World) :
    let r := runLoop rt cfg handlers attempts delay links w
    ∃ es, r.2.trace = w.trace ++ es ∧
      (AtShutdown es (fun _ post => Over handlers es post r) ↔
        AtShutdown es fun pre _ => LastTurn cfg attempts links (pre.countP Event.waits)) := by
  induction links generalizing attempts delay w with
  | nil =>
    exact ⟨[], by simp [runLoop],
      iff_of_true (atShutdown_of_none (by simp)) (atShutdown_of_none (by simp))⟩
  | cons link links ih =>
    intro r
    -- no SHUTDOWN is dispatched: nothing is claimed
    have vacuous : ∀ es, r.2.trace = w.trace ++ es → (∀ e ∈ es, e.asksShutdown = false) →
        ∃ es, r.2.trace = w.trace ++ es ∧
          (AtShutdown es (fun _ post => Over handlers es post r) ↔
            AtShutdown es fun pre _ =>
              LastTurn cfg attempts (link :: links) (pre.countP Event.waits)) :=
      fun es trace asks =>
        ⟨es, trace, iff_of_true (atShutdown_of_none asks) (atShutdown_of_none asks)⟩
    cases hctx : link.ctx with
    | some err =>
      refine vacuous [] ?_ (by simp)
      simp only [r]
      rw [runLoop_done rt cfg handlers _ _ _ _ _ hctx]
      simp
    | none =>
      obtain ⟨es₁, res, w₁, hrun, attempt, trace, _⟩ := runOnce_attempt rt cfg handlers link w
      have turn : r = endTurn cfg attempts delay link res (runLoop rt cfg handlers (attempts + 1)
          (minDuration (delay * 2) cfg.maxReconnectDelay) links) w₁ :=
        runLoop_cons rt cfg handlers attempts delay link links w hctx hrun
      have leaves := attempt.leaves
      cases res with
      | none =>
        obtain ⟨es', rfl, stop⟩ := leaves
        obtain ⟨es₂, htrace⟩ := endTurn_trace rt cfg handlers attempts delay link links none w₁
        have final := cleanStop_final rt cfg handlers attempts delay link links w₁ stop es₂ htrace
        rw [← turn] at htrace final
        exact ⟨es' ++ [.close] ++ es₂, by rw [htrace, trace, List.append_assoc], final⟩
      | some err =>
        obtain ⟨asks, calm⟩ := leaves
        unfold endTurn at turn
        cases hret : returnErr cfg attempts (some err) with
        | some err' =>
          rw [hret] at turn
          exact vacuous es₁ (by rw [turn]; exact trace) asks
        | none =>
          have asks' : ∀ e ∈ es₁ ++ [.wait delay], e.asksShutdown = false :=
            List.forall_mem_append.mpr ⟨asks, by simp [Event.asksShutdown]⟩
          rw [hret] at turn
          cases hwait : link.wait with
          | some err' =>
            rw [hwait] at turn
            exact vacuous _ (by rw [turn]; simp [trace]) asks'
          | none =>
            rw [hwait] at turn
            have notCtx : err.isContext = false := by
              cases h : err.isContext with
              | false => rfl
              | true => simp [returnErr, h] at hret
            obtain ⟨es₂, htrace, final⟩ := ih (attempts + 1)
              (minDuration (delay * 2) cfg.maxReconnectDelay)
              { w₁ with trace := w₁.trace ++ [.wait delay] }
            rw [show runLoop rt cfg handlers (attempts + 1) _ links _ = r from turn.symm]
              at htrace final
            refine ⟨es₁ ++ [.wait delay] ++ es₂, by rw [htrace, trace]; simp, ?_⟩
            rw [atShutdown_append asks', atShutdown_append asks']
            have stops : (es₁ ++ [Event.wait delay] ++ es₂).countP Event.stops =
                es₂.countP Event.stops := by
              rw [List.countP_append, List.countP_append, (calm notCtx).countP_stops]
              simp [Event.stops]
            have waits : ∀ pre, (es₁ ++ [Event.wait delay] ++ pre).countP Event.waits =
                1 + pre.countP Event.waits := by
              intro pre
              rw [List.countP_append, List.countP_append, (calm notCtx).countP_waits]
              simp [Event.waits]
            simp only [waits, lastTurn_succ]
            rw [← final]
            refine AtShutdown.congr fun pre post => ⟨fun h => ?_, fun h => ?_⟩
            · exact ⟨h.quiet, stops.symm.trans h.once, h.state, h.returned⟩
            · exact ⟨h.quiet, stops.trans h.once, h.state, h.returned⟩

/-- Once `messageLoop` dispatches a SHUTDOWN, `Run` opens no further connection and sends
no further REGISTER, `OnShutdown` has been called exactly once in the whole run if it is
set, the state stays SHUTDOWN and `Run` returns. -/
def ShutdownFinal (links : List Link) : Prop :=
  AtShutdown (run rt cfg handlers links).2.trace fun _ post =>
    Over handlers (run rt cfg handlers links).2.trace post (run rt cfg handlers links)

/-- A SHUTDOWN is dispatched only in a turn after which `Run` gives up. -/
def ShutdownInLastTurn (links : List Link) : Prop :=
  AtShutdown (run rt cfg handlers links).2.trace fun pre _ =>
    LastTurn cfg 0 links (pre.countP Event.waits)

/-- SHUTDOWN is final in a run exactly if it is dispatched only where `Run` would have
given up anyway. -/
theorem run_shutdownFinal_iff (links : List Link) :
    ShutdownFinal rt cfg handlers links ↔ ShutdownInLastTurn rt cfg handlers links := by
  obtain ⟨es, trace, final⟩ := runLoop_final rt cfg handlers 0 cfg.reconnectDelay links {}
  have htrace : (run rt cfg handlers links).2.trace = es := trace
  unfold ShutdownFinal ShutdownInLastTurn
  rw [htrace]
  exact final

end Run

/-- The daemon shuts a component down that reconnects, and accepts its next
connection. -/
theorem reconnects_after_shutdown : ¬ ∀ (rt : Runtime) (cfg : Config) (handlers : Handlers)
    (links : List Link), ShutdownFinal rt cfg handlers links := by
  intro h
  let cfg : Config := { Sample.config with reconnect := true }
  let incoming := fun m : Message => ({ delivery := .message m } : Incoming)
  let links : List Link := [
    { inbox := [Sample.registered, Sample.ack, Sample.ack, Sample.shutdown].map incoming },
    { inbox := [Sample.registered].map incoming }]
  have asked : (run Sample.runtime cfg {} links).2.trace.any Event.asksShutdown = true := by
    decide +kernel
  have state : (run Sample.runtime cfg {} links).2.component.state = State.initializing := by
    decide +kernel
  obtain ⟨e, he, hs⟩ := List.any_eq_true.mp asked
  obtain ⟨pre, post, htrace⟩ := List.append_of_mem he
  cases e with
  | dispatch env =>
    have ended := h Sample.runtime cfg {} links pre env post htrace (of_decide_eq_true hs)
    have := state.symm.trans ended.state
    simp [State.initializing, State.shutdown] at this
  | _ => simp [Event.asksShutdown] at hs

end AegisSdk.Go
