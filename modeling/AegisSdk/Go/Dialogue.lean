import AegisSdk.Go.Handshake
import AegisSdk.Protocol.Dialogue

/-!
The Go component in the dialogue with the daemon: `register` and `handleConfig` take the
ACKs of the daemon where they wait for them, and over its orders the component says what a
component does that does not know REBORN.
-/

set_option autoImplicit false
set_option relaxedAutoImplicit false

namespace AegisSdk.Go

open AegisSdk.Protocol AegisSdk.Library

def Envelope.said (env : Envelope) : Said where
  type := env.type
  command := env.command
  state := env.payload.get "state"
  correlationId := env.correlationId

def Event.sent : Event → Option Envelope
  | .send env true => some env
  | _ => none

def told (es : List Event) : List Said := (es.filterMap Event.sent).map Envelope.said

/-- what a piece of a trace says after REGISTER, up to a closing notice. -/
def dialogueOf (es : List Event) : List Said :=
  ((told es).drop 1).takeWhile fun s => !s.isNotice

section Spoken

variable (rt : Runtime) (cfg : Config) (handlers : Handlers)

def spoken (link : Link) (w : World) : List Said :=
  dialogueOf ((final (runOnce rt cfg handlers link w)).trace.drop w.trace.length)

end Spoken

def IsAck (env : Envelope) : Prop :=
  env.type = MessageType.control ∧ env.command = Command.ack

/-- The envelope is the order. `protocol.go` has no name for REBORN. -/
def Carries (env : Envelope) (o : Order) : Prop :=
  env.messageId = o.id ∧ match o.kind with
    | .ping => IsPing env
    | .configure => IsConfigure env
    | .reborn => env.type = MessageType.lifecycle ∧ env.command = "REBORN"
    | .recoverableError => IsError env ∧ errorRecoverable env = true
    | .shutdown => IsShutdown env

def heard (envs : List Envelope) : List Message := envs.map fun env => { env := env }

@[simp] theorem told_nil : told [] = [] := rfl

@[simp] theorem told_append (es es' : List Event) : told (es ++ es') = told es ++ told es' := by
  simp [told]

@[simp] theorem told_opt {isSet : Bool} {e : Event} (h : e.sent = none) :
    told (opt isSet e) = [] := by
  cases isSet <;> simp [opt, told, h]

section Follow

variable {cfg : Config} {handlers : Handlers} {s : Supply} {ms : List Message} {c c' : Component}
  {es : List Event}

theorem Advance.heard {st : ComponentState} {m : Message} {b : Bool}
    (h : Advance cfg c st es c' b) (hs : Expecting s (m :: ms)) (ha : supply.Accepts s es) :
    b = true ∧ c' = { c with state := st } ∧ told es = [.update st] ∧
      Expecting (supply.after s es) ms := by
  cases h with
  | lost stamp =>
    obtain ⟨hok, _⟩ := hs.send ha.1
    cases hok
  | unanswered stamp text =>
    obtain ⟨hsend, -, hrecv, _⟩ := ha
    obtain ⟨hnil, _⟩ := ((hs.send hsend).2.state st).recvFailed hrecv
    cases hnil
  | done stamp m' =>
    obtain ⟨hsend, -, hrecv, _⟩ := ha
    obtain ⟨ms', heq, hs'⟩ := ((hs.send hsend).2.state st).recv hrecv
    obtain ⟨rfl, rfl⟩ := List.cons.inj heq
    exact ⟨rfl, rfl, rfl, hs'⟩

theorem Settling.heard {m m' : Message} (h : Settling cfg handlers c es c')
    (hs : Expecting s (m :: m' :: ms)) (ha : supply.Accepts s es) :
    c'.state = State.running ∧ told es = [.update State.configured, .update State.running] ∧
      Expecting (supply.after s es) ms := by
  cases h with
  | unconfigured a =>
    obtain ⟨hfalse, _⟩ := a.heard hs ha
    cases hfalse
  | @stopped es es' _ _ a b =>
    obtain ⟨ha₁, ha₂⟩ := (supply.accepts_append _ _ _).mp ha
    obtain ⟨_, _, _, hs'⟩ := a.heard hs ha₁
    obtain ⟨hfalse, _⟩ := b.heard hs' ha₂
    cases hfalse
  | @running es es' _ _ a b =>
    obtain ⟨ha₁, ha₂⟩ := (supply.accepts_append _ _ _).mp ha
    obtain ⟨ha₂, ha₃⟩ := (supply.accepts_append _ _ _).mp ha₂
    obtain ⟨_, rfl, htold₁, hs₁⟩ := a.heard hs ha₁
    obtain ⟨_, rfl, htold₂, hs₂⟩ := b.heard hs₁ ha₂
    refine ⟨rfl, ?_, ?_⟩
    · rw [told_append, told_append, htold₁, htold₂, told_opt rfl]
      rfl
    · rw [supply.after_append, supply.after_append]
      cases handlers.onRunning <;> exact hs₂

structure Is (env : Envelope) (kind : Kind) : Prop where
  ping : IsPing env ↔ kind = .ping
  configure : IsConfigure env ↔ kind = .configure
  shutdown : IsShutdown env ↔ kind = .shutdown
  error : IsError env ↔ kind = .recoverableError
  recoverable : IsError env → errorRecoverable env = true

theorem Carries.is {env : Envelope} {o : Order} (h : Carries env o) : Is env o.kind := by
  obtain ⟨kind, id⟩ := o
  obtain ⟨-, hkind⟩ := h
  cases kind with
  | recoverableError =>
    obtain ⟨he, hr⟩ := hkind
    obtain ⟨hp, hc, hs⟩ := isError_not he
    constructor <;> simp [he, hr, hp, hc, hs]
  | _ =>
    obtain ⟨ht, hc⟩ := hkind
    constructor <;>
      simp [IsPing, IsConfigure, IsShutdown, IsError, ht, hc, MessageType.heartbeat,
        MessageType.config, MessageType.lifecycle, MessageType.error, Command.ping,
        Command.configure, Command.shutdown]

/-- The order is answered, and the daemon's ACKs for it are taken. -/
structure Answered (o : Order) (s : Supply) (ms : List Message) (c : Component)
    (es : List Event) (c' : Component) : Prop where
  told : told es = o.answers false c.state
  state : c'.state = o.following c.state
  expecting : Expecting (supply.after s es) ms

def Closed (o : Order) (c : Component) (es : List Event) : Prop :=
  ∃ tail, told es = o.answers false c.state ++ tail ∧
    ∀ x, tail.head? = some x → x.isNotice = true

theorem Reaction.heard {env : Envelope} {o : Order} {acks : List Message} {v : Verdict}
    (hcarries : Carries env o) (hacks : acks.length = acksFor (o.answers true ""))
    (h : Reaction cfg handlers { env := env } c es c' v) (hs : Expecting s (acks ++ ms))
    (ha : supply.Accepts s es) :
    o.isShutdown = false ∧ v = .continue ∧ Answered o s ms c es c' ∨
      o.isShutdown = true ∧ v = .stop ∧ Closed o c es := by
  have his := hcarries.is
  obtain ⟨hid, -⟩ := hcarries
  obtain ⟨kind, id⟩ := o
  obtain rfl : env.messageId = id := hid
  cases h with
  | ignored hi =>
    obtain ⟨hp, hc, hsd, he⟩ := hi
    rw [his.ping] at hp
    rw [his.configure] at hc
    rw [his.shutdown] at hsd
    rw [his.error] at he
    obtain rfl : kind = .reborn := by cases kind <;> simp_all
    obtain rfl : acks = [] := List.length_eq_zero_iff.mp hacks
    exact .inl ⟨rfl, rfl, rfl, rfl, hs⟩
  | pong stamp uptime ok hp =>
    obtain rfl : kind = .ping := his.ping.mp hp
    obtain rfl : acks = [] := List.length_eq_zero_iff.mp hacks
    obtain ⟨rfl, hs'⟩ := hs.send (accepts_opt rfl ha).1
    refine .inl ⟨rfl, rfl, ?_, rfl, ?_⟩
    · rw [told_append, told_opt rfl]
      rfl
    · rw [supply.after_append, after_opt rfl]
      exact hs'
  | refused stamp err ok hc hr => simp [Message.refusal] at hr
  | @accepted stamp ok es c' hc hr settling =>
    obtain rfl : kind = .configure := his.configure.mp hc
    obtain ⟨m, m', rfl⟩ : ∃ m m', acks = [m, m'] := List.length_eq_two.mp hacks
    obtain ⟨hsend, hrest⟩ := accepts_opt rfl ha
    obtain ⟨rfl, hs'⟩ := hs.send hsend
    obtain ⟨hstate, htold, hs''⟩ := settling.heard hs' hrest
    refine .inl ⟨rfl, rfl, ?_, hstate, ?_⟩
    · rw [told_append, told_opt rfl]
      change Said.ack env.messageId :: told es = _
      rw [htold]
      rfl
    · rw [supply.after_append, after_opt rfl]
      exact hs''
  | shutdown a n ok ok' hsd =>
    obtain rfl : kind = .shutdown := his.shutdown.mp hsd
    obtain ⟨hsend, hrest⟩ := ha
    obtain ⟨rfl, hs'⟩ := hs.send hsend
    obtain ⟨rfl, -⟩ := hs'.send (accepts_opt rfl hrest).1
    refine .inr ⟨rfl, rfl, [(shutdownLine cfg n c).said], ?_, ?_⟩
    · change Said.ack env.messageId :: told (opt handlers.onShutdown .onShutdown ++ _) = _
      rw [told_append, told_opt rfl]
      rfl
    · intro x hx
      cases hx
      rfl
  | recoverable code message he hr =>
    obtain rfl : kind = .recoverableError := his.error.mp he
    obtain rfl : acks = [] := List.length_eq_zero_iff.mp hacks
    refine .inl ⟨rfl, rfl, told_opt rfl, rfl, ?_⟩
    rw [after_opt rfl]
    exact hs
  | fatal code message err he hr plain =>
    have hrecoverable := his.recoverable he
    exact absurd hrecoverable (by simp [hr])

/-- Over the messages of a daemon the component is one that does not know REBORN. -/
theorem Session.heard {os : List Order} {envs : List Envelope}
    (hscript : Script Carries IsAck os envs) {v : Verdict}
    (h : Session cfg handlers c es c' v) (hs : Expecting s (Go.heard envs))
    (ha : supply.Accepts s es) :
    ∃ tail, told es = said false c.state os ++ tail ∧
      ∀ x, tail.head? = some x → x.isNotice = true := by
  induction hscript generalizing s c es with
  | done =>
    cases h with
    | cancelled c err stamp ok => cases hs.await ha.1
    | lost c text err plain => exact ⟨[], rfl, by simp⟩
    | last reaction hv =>
      obtain ⟨ms, hnil, -⟩ := hs.recv ha.2.1
      cases hnil
    | next reaction session =>
      obtain ⟨ms, hnil, -⟩ := hs.recv ha.2.1
      cases hnil
  | @order o env acks os envs hcarries hlength hacks _ ih =>
    have hheard : Go.heard (env :: (acks ++ envs)) =
        { env := env } :: (Go.heard acks ++ Go.heard envs) := by
      simp [Go.heard]
    rw [hheard] at hs
    have hacks' : (Go.heard acks).length = acksFor (o.answers true "") := by
      rw [Go.heard, List.length_map, hlength]
    cases h with
    | cancelled c err stamp ok => cases hs.await ha.1
    | lost c text err plain =>
      obtain ⟨hnil, -⟩ := hs.recvFailed ha.2.1
      cases hnil
    | @last _ _ m es v reaction hv =>
      obtain ⟨-, hrecv, -, hrest⟩ := ha
      obtain ⟨ms, heq, hs'⟩ := hs.recv hrecv
      obtain ⟨rfl, rfl⟩ := List.cons.inj heq
      rcases reaction.heard hcarries hacks' hs' hrest with ⟨-, rfl, -⟩ | ⟨hsd, -, tail, htold, hx⟩
      · exact absurd rfl hv
      · refine ⟨tail, ?_, hx⟩
        change told es = _
        rw [htold, said_cons, hsd, if_pos rfl, List.append_nil]
    | @next _ c₁ _ m es rest v reaction session =>
      obtain ⟨-, hrecv, -, hrest⟩ := ha
      obtain ⟨ms, heq, hs'⟩ := hs.recv hrecv
      obtain ⟨rfl, rfl⟩ := List.cons.inj heq
      obtain ⟨ha₁, ha₂⟩ := (supply.accepts_append _ es rest).mp hrest
      rcases reaction.heard hcarries hacks' hs' ha₁ with ⟨hsd, -, answered⟩ | ⟨-, hstop, -⟩
      · obtain ⟨tail, htold, hx⟩ := ih session answered.expecting ha₂
        refine ⟨tail, ?_, hx⟩
        change told (es ++ rest) = _
        rw [told_append, answered.told, htold, answered.state, said_cons, hsd,
          if_neg Bool.false_ne_true, List.append_assoc]
      · cases hstop

theorem Handshake.heard {rt : Runtime} {m a a' : Message} {res : Option GoError}
    (h : Handshake rt cfg c es c' res) (hm : m.env.command = Command.registered)
    (hs : Expecting s (m :: a :: a' :: ms)) (ha : supply.Accepts s es) :
    res = none ∧ c'.state = State.ready ∧
      (∃ r, told es = (registerLine cfg r c).said :: opening) ∧
      Expecting (supply.after s es) ms := by
  cases h with
  | registerLost r err _ =>
    obtain ⟨hok, -⟩ := hs.send ha.1
    cases hok
  | unanswered r text err _ =>
    obtain ⟨hnil, -⟩ := (hs.send ha.1).2.recvFailed ha.2.1
    cases hnil
  | rejected r m' msg hne =>
    obtain ⟨_, heq, _⟩ := (hs.send ha.1).2.recv ha.2.1
    obtain ⟨rfl, rfl⟩ := List.cons.inj heq
    exact absurd hm hne
  | notInitializing r m' err _ _ advance =>
    obtain ⟨hsend, hrecv, -, hrest⟩ := ha
    obtain ⟨_, heq, hs'⟩ := (hs.send hsend).2.recv hrecv
    obtain ⟨rfl, rfl⟩ := List.cons.inj heq
    obtain ⟨hfalse, -⟩ := advance.heard (hs'.state _) hrest
    cases hfalse
  | @notReady r m' es₁ es₂ _ _ err _ _ advance advance' =>
    obtain ⟨hsend, hrecv, -, hrest⟩ := ha
    obtain ⟨_, heq, hs'⟩ := (hs.send hsend).2.recv hrecv
    obtain ⟨rfl, rfl⟩ := List.cons.inj heq
    obtain ⟨ha₁, ha₂⟩ := (supply.accepts_append _ es₁ es₂).mp hrest
    obtain ⟨-, -, -, hs''⟩ := advance.heard (hs'.state _) ha₁
    obtain ⟨hfalse, -⟩ := advance'.heard hs'' ha₂
    cases hfalse
  | @ready r m' es₁ es₂ _ _ _ advance advance' =>
    obtain ⟨hsend, hrecv, -, hrest⟩ := ha
    obtain ⟨_, heq, hs'⟩ := (hs.send hsend).2.recv hrecv
    obtain ⟨rfl, rfl⟩ := List.cons.inj heq
    obtain ⟨ha₁, ha₂⟩ := (supply.accepts_append _ es₁ es₂).mp hrest
    obtain ⟨-, rfl, htold₁, hs''⟩ := advance.heard (hs'.state _) ha₁
    obtain ⟨-, rfl, htold₂, hs₃⟩ := advance'.heard hs'' ha₂
    refine ⟨rfl, rfl, ⟨r, ?_⟩, ?_⟩
    · change (registerLine cfg r c).said :: told (es₁ ++ es₂) = _
      rw [told_append, htold₁, htold₂]
      rfl
    · rw [supply.after_cons, supply.after_cons, supply.after_cons, supply.after_append]
      exact hs₃

end Follow

/-- On a connection that registers, against a daemon that ACKs every STATE_UPDATE, the
component says what a component does that does not know REBORN. -/
theorem spoken_eq (rt : Runtime) (cfg : Config) (handlers : Handlers) {registered : Envelope}
    (hreg : registered.command = Command.registered) {acks envs : List Envelope}
    (hlength : acks.length = acksFor opening) {os : List Order}
    (hscript : Script Carries IsAck os envs) {writes : List Bool}
    (hwrites : ∀ b ∈ writes, b = true) (w : World) :
    spoken rt cfg handlers
      (conversation { env := registered } (heard (acks ++ envs)) writes) w =
        opening ++ said false State.ready os := by
  obtain ⟨a, a', rfl⟩ : ∃ a a', acks = [a, a'] := List.length_eq_two.mp hlength
  let link := conversation { env := registered } (heard ([a, a'] ++ envs)) writes
  obtain ⟨es, res, w', h, attempt, trace, supplied, -⟩ :=
    runOnce_attempt rt cfg handlers link w
  have hs : Expecting (supply.step (w.supply [link]) (.dial cfg.socketPath true))
      ({ env := registered } :: { env := a } :: { env := a' } :: heard envs) := ⟨rfl, hwrites⟩
  have ha := supplied []
  generalize w'.component = c' at attempt
  cases attempt with
  | refused err plain => cases Option.some.inj ha.1
  | unready handshake =>
    obtain ⟨hnone, -⟩ := handshake.heard hreg hs ((supply.accepts_append _ _ _).mp ha.2).1
    cases hnone
  | @session es es' _ _ v handshake session hv =>
    have hwhole : supply.Accepts _ (es ++ es' ++ [.close]) := ha.2
    rw [List.append_assoc] at hwhole
    obtain ⟨ha₁, hrest⟩ := (supply.accepts_append _ es _).mp hwhole
    obtain ⟨ha₂, -⟩ := (supply.accepts_append _ es' _).mp hrest
    obtain ⟨-, hready, ⟨r, htold⟩, hs'⟩ := handshake.heard hreg hs ha₁
    obtain ⟨tail, htold', htail⟩ := session.heard hscript hs' ha₂
    have hfinal : final (runOnce rt cfg handlers link w) = w' := by
      rw [h]
      generalize v.err = res
      cases res <;> rfl
    rw [spoken, hfinal, trace, List.drop_left, dialogueOf]
    change ((told (es ++ es' ++ [.close])).drop 1).takeWhile _ = _
    rw [told_append, told_append, htold, htold', hready]
    have hclose : told [.close] = [] := rfl
    rw [hclose, List.append_nil]
    exact said_takeWhile false State.ready os htail

end AegisSdk.Go
