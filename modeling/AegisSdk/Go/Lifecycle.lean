import AegisSdk.Go.History
import AegisSdk.Protocol.Lifecycle

/-!
The lifecycle that the Go component shows on each of its connections. The senders of the message
loop log their errors, so that lines may follow a lost one, and a CONFIGURE whose ACKs do not
come leaves the component CONFIGURED.
-/

set_option autoImplicit false
set_option relaxedAutoImplicit false

namespace AegisSdk.Go

open AegisSdk.Protocol AegisSdk.Library AegisSdk.Library.Monitor

def Envelope.lineSeen (env : Envelope) : Line where
  command := env.command
  state := env.payload.get "state"
  correlation := (env.correlationId.map Json.str).getD .null

def Event.signal : Event → Option (Signal Empty)
  | .dial _ true => some .connect
  | .send env ok => some (.line env.lineSeen ok)
  | .state st => some (.holds st)
  | .await st _ => some (.holds st)
  | _ => none

def signals (es : List Event) : List (Signal Empty) := es.filterMap Event.signal

def conduct : Conduct where
  opens := true
  repeats := true
  halts := false

section Lines

variable (cfg : Config) (stamp : Stamp) (c : Component)

@[simp] theorem lineSeen_registerLine : (registerLine cfg stamp c).lineSeen = .register := rfl

@[simp] theorem lineSeen_stateLine (s : ComponentState) :
    (stateLine cfg stamp c s).lineSeen = .update s := rfl

@[simp] theorem lineSeen_ackLine (id : String) :
    (ackLine cfg stamp c id).lineSeen = .ack (.str id) := rfl

@[simp] theorem lineSeen_pongLine (uptime : Int) (id : String) :
    (pongLine cfg stamp c uptime id).lineSeen = .pong c.state (.str id) := rfl

@[simp] theorem lineSeen_errorLine (code message : String) (recoverable : Bool) :
    (errorLine cfg stamp c code message recoverable).lineSeen = .report := rfl

@[simp] theorem lineSeen_shutdownLine : (shutdownLine cfg stamp c).lineSeen = .notice := rfl

end Lines

theorem signals_append (xs ys : List Event) : signals (xs ++ ys) = signals xs ++ signals ys :=
  List.filterMap_append

theorem signals_cons (e : Event) (es : List Event) :
    signals (e :: es) = e.signal.toList ++ signals es := by
  cases h : e.signal <;> simp [signals, h]

theorem signals_opt {e : Event} (h : e.signal = none) (isSet : Bool) :
    signals (opt isSet e) = [] := by
  cases isSet <;> simp [opt, signals, h]

/-- From `t` to `t'` the monitor accepts what is seen of the events. -/
def Shows (t : Standing) (es : List Event) (t' : Standing) : Prop :=
  (conduct.monitor Empty).Takes t (signals es) t'

structure Shown (t : Standing) (c : Component) : Prop extends conduct.Live t where
  state : c.state = Reported.shown t.told

structure AtHead (t : Standing) (c : Component) : Prop extends Shown t c where
  settled : t.told = some .ready ∨ t.told = some .configured ∨ t.told = some .running

section Connection

variable {rt : Runtime} {cfg : Config} {handlers : Handlers} {c c' : Component} {m : Message}
  {es es' : List Event} {e : Event} {t t' t'' : Standing} {v : Verdict}

theorem live (hregistered : t.registered = true) (hopen : t.open = true) :
    conduct.Live t :=
  ⟨hregistered, hopen, nofun⟩

theorem Shows.refl (t : Standing) : Shows t [] t := takes_nil t

theorem Shows.append (h : Shows t es t') (h' : Shows t' es' t'') : Shows t (es ++ es') t'' := by
  rw [Shows, signals_append]
  exact Takes.append h h'

theorem Shows.quiet (he : e.signal = none) (h : Shows t es t') : Shows t (e :: es) t' := by
  rw [Shows, signals_cons, he]
  exact h

theorem Shows.opt (he : e.signal = none) (isSet : Bool) (h : Shows t es t') :
    Shows t (opt isSet e ++ es) t' := by
  rw [Shows, signals_append, signals_opt he]
  exact h

theorem Shows.send {env : Envelope} {ok : Bool} (hadmits : conduct.Admits t env.lineSeen)
    (h : Shows (t.after env.lineSeen ok) es t') : Shows t (.send env ok :: es) t' := by
  rw [Shows, signals_cons]
  exact Takes.cons hadmits h

theorem Shown.held (h : Shown t c) : c.state = t.held := by
  rw [Standing.held, h.open, h.state]
  rfl

theorem Shown.stored (h : Shown t c) (st : Option String) : Shown { t with state := st } c :=
  ⟨⟨h.registered, h.open, h.intact⟩, h.state⟩

theorem AtHead.stored (h : AtHead t c) (st : Option String) : AtHead { t with state := st } c :=
  ⟨h.toShown.stored st, h.settled⟩

theorem Shows.state {st : ComponentState} (hheld : st = t.held)
    (h : Shows { t with state := some st } es t') : Shows t (.state st :: es) t' := by
  rw [Shows, signals_cons]
  exact Takes.cons hheld h

theorem Shown.after (h : Shown t c) {l : Line} (hopen : l.isNotice = false)
    (htold : l.isUpdate = false) (ok : Bool) : Shown (t.after l ok) c where
  registered := rfl
  «open» := by simp [Standing.after, h.open, hopen]
  intact := nofun
  state := by simp [Standing.after, Line.tells_of_not_update htold, h.state]

theorem AtHead.after (h : AtHead t c) {l : Line} (hopen : l.isNotice = false)
    (htold : l.isUpdate = false) (ok : Bool) : AtHead (t.after l ok) c where
  toShown := h.toShown.after hopen htold ok
  settled := by simpa [Standing.after, Line.tells_of_not_update htold] using h.settled

theorem AtHead.next (h : AtHead t c) : .configured ∈ conduct.next t.told := by
  rcases h.settled with told | told | told <;> rw [told] <;> decide

theorem Advance.shows {s : Reported} {b : Bool} (h : Advance cfg c s.name es c' b)
    (hc : Shown t c) (hs : s ∈ conduct.next t.told) :
    ∃ t', Shows t es t' ∧ Shown t' c' ∧ (t'.told = some s ∨ b = false ∧ t'.told = t.told) := by
  have admits : ∀ stamp, conduct.Admits t (stateLine cfg stamp c s.name).lineSeen :=
    fun stamp => hc.update hs
  have told : ∀ stamp, Shown (t.after (stateLine cfg stamp c s.name).lineSeen true)
      { c with state := s.name } := by
    intro stamp
    exact ⟨live rfl (by simp [hc.open]), by simp [Reported.shown]⟩
  cases h with
  | lost stamp =>
    refine ⟨_, .send (admits stamp) (.refl _), ⟨?_, ?_⟩, .inr ⟨rfl, ?_⟩⟩
    · exact live rfl (by simp [hc.open])
    · simp [hc.state]
    · simp
  | unanswered stamp text =>
    exact ⟨_, .send (admits stamp) (.state (told stamp).held (.quiet rfl (.refl _))),
      (told stamp).stored _, .inl (by simp)⟩
  | done stamp m =>
    exact ⟨_, .send (admits stamp) (.state (told stamp).held (.quiet rfl (.refl _))),
      (told stamp).stored _, .inl (by simp)⟩

theorem Advance.atHead {s : Reported} {b : Bool} (h : Advance cfg c s.name es c' b)
    (hc : AtHead t c) (hs : s ∈ conduct.next t.told) (htold : s = .configured ∨ s = .running) :
    ∃ t', Shows t es t' ∧ AtHead t' c' ∧ (b = true → t'.told = some s) := by
  obtain ⟨t', hshows, hshown, htold'⟩ := h.shows hc.toShown hs
  refine ⟨t', hshows, ⟨hshown, ?_⟩, ?_⟩
  · rcases htold' with told | ⟨-, told⟩
    · rcases htold with rfl | rfl
      · exact .inr (.inl told)
      · exact .inr (.inr told)
    · rw [told]
      exact hc.settled
  · rintro rfl
    rcases htold' with told | ⟨hb, -⟩
    · exact told
    · cases hb

theorem Settling.shows (h : Settling cfg handlers c es c') (hc : AtHead t c) :
    ∃ t', Shows t es t' ∧ AtHead t' c' := by
  have toRunning : ∀ {t' : Standing}, t'.told = some .configured →
      .running ∈ conduct.next t'.told := by
    intro t' told
    rw [told]
    decide
  cases h with
  | unconfigured configured =>
    obtain ⟨t', hshows, hhead, -⟩ :=
      Advance.atHead (s := .configured) configured hc hc.next (.inl rfl)
    exact ⟨t', hshows, hhead⟩
  | stopped configured running =>
    obtain ⟨t₁, hshows₁, hhead₁, told⟩ :=
      Advance.atHead (s := .configured) configured hc hc.next (.inl rfl)
    obtain ⟨t₂, hshows₂, hhead₂, -⟩ :=
      Advance.atHead (s := .running) running hhead₁ (toRunning (told rfl)) (.inr rfl)
    exact ⟨t₂, hshows₁.append hshows₂, hhead₂⟩
  | running configured running =>
    obtain ⟨t₁, hshows₁, hhead₁, told⟩ :=
      Advance.atHead (s := .configured) configured hc hc.next (.inl rfl)
    obtain ⟨t₂, hshows₂, hhead₂, -⟩ :=
      Advance.atHead (s := .running) running hhead₁ (toRunning (told rfl)) (.inr rfl)
    have hcallback : Shows t₂ (Go.opt handlers.onRunning .onRunning) t₂ := by
      simpa using Shows.opt rfl handlers.onRunning (Shows.refl t₂)
    exact ⟨t₂, hshows₁.append (hshows₂.append hcallback), hhead₂⟩

theorem closed {ok : Bool} : State.shutdown = (t.after .notice ok).held := by
  rw [Standing.after_notice]
  rfl

/-- Every answer to a message keeps the lifecycle, and the loop goes on from its head. -/
theorem Reaction.shows (h : Reaction cfg handlers m c es c' v) (hc : AtHead t c) :
    ∃ t', Shows t es t' ∧ (v = .continue → AtHead t' c') := by
  have callback : ∀ {e : Event} (isSet : Bool), e.signal = none → Shows t (Go.opt isSet e) t := by
    intro e isSet he
    simpa using Shows.opt he isSet (Shows.refl t)
  cases h with
  | ignored _ => exact ⟨t, .refl t, fun _ => hc⟩
  | pong stamp uptime ok _ =>
    refine ⟨_, .opt rfl _ (.send ?_ (.refl _)), fun _ => hc.after rfl rfl ok⟩
    rw [lineSeen_pongLine, hc.state]
    exact hc.pong _
  | refused stamp err ok _ _ =>
    exact ⟨_, .opt rfl _ (.send hc.report (.refl _)), fun _ => hc.after rfl rfl ok⟩
  | accepted stamp ok _ _ settling =>
    obtain ⟨t', hshows, hhead⟩ := settling.shows (hc.after (l := .ack _) rfl rfl ok)
    exact ⟨t', .opt rfl _ (.send (hc.ack _) hshows), fun _ => hhead⟩
  | shutdown a n ok ok' _ =>
    have live := hc.after (l := .ack (.str m.env.messageId)) rfl rfl ok
    exact ⟨_, .send (hc.ack _) (.opt rfl _ (.send live.notice (.state closed (.refl _)))), nofun⟩
  | recoverable code message _ _ => exact ⟨t, callback _ rfl, fun _ => hc⟩
  | fatal code message err _ _ _ => exact ⟨t, callback _ rfl, nofun⟩

theorem Shows.await (hc : AtHead t c) (ctx : Option CtxErr)
    (h : Shows { t with state := some c.state } es t') :
    Shows t (.await c.state ctx :: es) t' := by
  rw [Shows, signals_cons]
  exact Takes.cons hc.held h

theorem Session.shows (h : Session cfg handlers c es c' v) (hc : AtHead t c) :
    ∃ t', Shows t es t' := by
  induction h generalizing t with
  | cancelled c err stamp ok =>
    have live := hc.stored (some c.state)
    exact ⟨_, .await hc _ (.opt rfl _ (.send live.notice (.state closed (.refl _))))⟩
  | lost c text err _ => exact ⟨_, .await hc _ (.quiet rfl (.refl _))⟩
  | last reaction _ =>
    obtain ⟨t', hshows, -⟩ := reaction.shows (hc.stored _)
    exact ⟨t', .await hc _ (.quiet rfl (.quiet rfl hshows))⟩
  | next reaction _ ih =>
    obtain ⟨t', hshows, hhead⟩ := reaction.shows (hc.stored _)
    obtain ⟨t'', hrest⟩ := ih (hhead rfl)
    exact ⟨t'', .await hc _ (.quiet rfl (.quiet rfl (hshows.append hrest)))⟩

theorem Handshake.shows {err : Option GoError} (h : Handshake rt cfg c es c' err) :
    ∃ t', Shows {} es t' ∧ (err = none → AtHead t' c') := by
  have registers : ∀ stamp, conduct.Admits {} (registerLine cfg stamp c).lineSeen :=
    fun stamp => Conduct.admits_register conduct
  have identified : ∀ m : Message, Shown (({} : Standing).after Line.register true)
      (identified rt m.env.payload) := by
    intro m
    refine ⟨live rfl (by simp), ?_⟩
    simp [Go.identified, Reported.shown, State.registered]
  have toInitializing : .initializing ∈
      conduct.next (({} : Standing).after Line.register true).told := by
    rw [Standing.after_register]
    decide
  have toReady : ∀ {t' : Standing}, t'.told = some .initializing →
      .ready ∈ conduct.next t'.told := by
    intro t' told
    rw [told]
    decide
  have registered : ∀ (r : Stamp) (m : Message) {es : List Event} {t' : Standing},
      Shows { ({} : Standing).after Line.register true with state := some State.registered }
        es t' →
      Shows {} (.send (registerLine cfg r c) true :: .recv m :: .state State.registered :: es) t' :=
    fun r m _ _ h => .send (registers r) (.quiet rfl (.state (identified m).held h))
  cases h with
  | registerLost r err _ => exact ⟨_, .send (registers r) (.refl _), nofun⟩
  | unanswered r text err _ => exact ⟨_, .send (registers r) (.quiet rfl (.refl _)), nofun⟩
  | rejected r m msg _ => exact ⟨_, .send (registers r) (.quiet rfl (.refl _)), nofun⟩
  | notInitializing r m err _ _ initializing =>
    obtain ⟨t₁, hshows₁, -⟩ :=
      Advance.shows (s := .initializing) initializing
        ((identified m).stored (some State.registered))
        toInitializing
    exact ⟨t₁, registered r m hshows₁, nofun⟩
  | notReady r m err _ _ initializing ready =>
    obtain ⟨t₁, hshows₁, hshown₁, told | ⟨hb, -⟩⟩ :=
      Advance.shows (s := .initializing) initializing
        ((identified m).stored (some State.registered))
        toInitializing
    case inr => cases hb
    obtain ⟨t₂, hshows₂, -⟩ := Advance.shows (s := .ready) ready hshown₁ (toReady told)
    exact ⟨t₂, registered r m (hshows₁.append hshows₂), nofun⟩
  | ready r m _ initializing ready =>
    obtain ⟨t₁, hshows₁, hshown₁, told₁ | ⟨hb, -⟩⟩ :=
      Advance.shows (s := .initializing) initializing
        ((identified m).stored (some State.registered))
        toInitializing
    case inr => cases hb
    obtain ⟨t₂, hshows₂, hshown₂, told₂ | ⟨hb, -⟩⟩ :=
      Advance.shows (s := .ready) ready hshown₁ (toReady told₁)
    case inr => cases hb
    exact ⟨t₂, registered r m (hshows₁.append hshows₂), fun _ => ⟨hshown₂, .inl told₂⟩⟩

end Connection

section Runs

variable {rt : Runtime} {cfg : Config} {handlers : Handlers} {c c' : Component} {es : List Event}

theorem Shows.connect {t t' : Standing} {path : String} (h : Shows {} es t') :
    Shows t (.dial path true :: es) t' := by
  rw [Shows, signals_cons]
  exact Takes.cons trivial h

theorem Shows.closed {t t' : Standing} (h : Shows t es t') : Shows t (es ++ [.close]) t' :=
  h.append (.quiet rfl (.refl t'))

theorem Attempt.shows {res : Option GoError} (h : Attempt rt cfg handlers c es c' res)
    (t : Standing) : ∃ t', Shows t es t' := by
  cases h with
  | refused err _ => exact ⟨t, .quiet rfl (.refl t)⟩
  | unready handshake =>
    obtain ⟨t', hshows, -⟩ := handshake.shows
    exact ⟨t', .connect hshows.closed⟩
  | session handshake session _ =>
    obtain ⟨t₁, hshows₁, hhead⟩ := handshake.shows
    obtain ⟨t₂, hshows₂⟩ := session.shows (hhead rfl)
    exact ⟨t₂, .connect (hshows₁.append hshows₂).closed⟩

theorem History.shows {n : Nat} {delay : Duration} {links : List Link} {o : Outcome}
    (h : History rt cfg handlers n delay c links es o) (t : Standing) : ∃ t', Shows t es t' := by
  induction h generalizing t with
  | paused n delay c => exact ⟨t, .refl t⟩
  | done n delay c links _ => exact ⟨t, .refl t⟩
  | last delay links _ attempt _ => exact attempt.shows t
  | stopped delay links _ attempt _ _ =>
    obtain ⟨t', hshows⟩ := attempt.shows t
    exact ⟨t', hshows.append (.quiet rfl (.refl t'))⟩
  | again _ attempt _ _ _ ih =>
    obtain ⟨t', hshows⟩ := attempt.shows t
    obtain ⟨t'', hrest⟩ := ih t'
    exact ⟨t'', hshows.append (.quiet rfl hrest)⟩

end Runs

/-- At every moment of every run of `Run` the component keeps the lifecycle on the connection
that it has: its lines, the states that it stores and those that `messageLoop` finds. -/
theorem component_lifecycle (rt : Runtime) (cfg : Config) (handlers : Handlers) (links : List Link)
    (k : Nat) :
    conduct.Lifecycle (Signal.current (signals ((run rt cfg handlers links).2.trace.take k))) := by
  obtain ⟨-, history⟩ := run_history rt cfg handlers links
  obtain ⟨t', hshows⟩ := history.shows {}
  apply Conduct.lifecycle_of_accepts
  have initial : signals ((run rt cfg handlers links).2.trace.take k) <+:
      signals (run rt cfg handlers links).2.trace :=
    (List.take_prefix _ _).filterMap _
  exact hshows.accepts.initial initial

end AegisSdk.Go
