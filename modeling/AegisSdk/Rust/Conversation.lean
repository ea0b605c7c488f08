import Mathlib.Data.List.Forall2
import AegisSdk.Library.Responder
import AegisSdk.Rust.Turn

/-!
The message loop as a machine that answers messages. For a connection whose lines decode
and whose writes succeed, what `message_loop` sends, spawns and cancels for a message is a
function of that message and the state; `messageLoop_conversation` shows it for whole runs
of the loop.
-/

set_option autoImplicit false
set_option relaxedAutoImplicit false

namespace AegisSdk.Rust

open AegisSdk.Protocol AegisSdk.Library

/-- A message with the result that `on_configure` would give for it. -/
structure Inbound where
  env : Envelope
  onConfigure : Except AegisError Unit

/-- The envelope without its generated id, its time and an uptime. -/
def Envelope.plain (env : Envelope) : Envelope :=
  { env with
    messageId := ""
    timestamp := ""
    payload := env.payload.filter fun m => m.1 != "uptime_seconds" }

inductive Effect where
  | sent (line : Envelope)
  | spawned (token : Nat)
  | cancelled (token : Nat)

def unstamped : Stamp := ⟨"", ""⟩

section Machine

variable (cfg : Config) (token : Nat)

def sentAck (id : String) : Effect := .sent (ackLine cfg unstamped id).plain

def sentState (s : ComponentState) : Effect := .sent (stateLine cfg unstamped s).plain

def sentPong (s : ComponentState) (id : String) : Effect :=
  .sent (pongLine cfg unstamped s 0 id).plain

def sentRefusal (e : AegisError) : Effect :=
  .sent (errorLine cfg unstamped "CONFIGURE_FAILED" e.display true).plain

def replies (st : ComponentState) (i : Inbound) : List Effect :=
  if IsPing i.env then [sentPong cfg st i.env.messageId]
  else if IsConfigure i.env then
    match i.onConfigure with
    | .error e => [sentRefusal cfg e]
    | .ok () => [sentAck cfg i.env.messageId, sentState cfg .configured,
        sentState cfg .running, .spawned token]
  else if IsReborn i.env then [sentAck cfg i.env.messageId]
  else if IsShutdown i.env then [.cancelled token, sentAck cfg i.env.messageId]
  else []

def Inbound.configures (i : Inbound) : Bool :=
  decide (IsConfigure i.env) && i.onConfigure.isOk

/-- The ERROR messages after which the connection is given up. -/
def Inbound.fatal (i : Inbound) : Bool := decide (IsError i.env) && !errorRecoverable i.env

def Inbound.ends (i : Inbound) : Bool := decide (IsShutdown i.env) || i.fatal

def following (st : ComponentState) (i : Inbound) : ComponentState :=
  if i.configures then .running else if IsShutdown i.env then .shutdown else st

def ending (i : Inbound) : Option (Except AegisError Unit) :=
  if IsShutdown i.env then some (.ok ())
  else if i.fatal then some (.error (.connection "non-recoverable error"))
  else none

def conversation : Responder ComponentState Inbound Effect (Except AegisError Unit) where
  output := replies cfg token
  next := following
  stop _ := ending

end Machine

theorem ending_isSome (i : Inbound) : (ending i).isSome = i.ends := by
  unfold ending Inbound.ends
  by_cases hs : IsShutdown i.env
  · simp [hs]
  · cases i.fatal <;> simp [hs]

/-- What an event does beyond the component, generated values aside. -/
def Event.effect : Event → Option Effect
  | .write env => some (.sent env.plain)
  | .onRunning t => some (.spawned t)
  | .cancel t => some (.cancelled t)
  | _ => none

def Event.dispatched : Event → Option Envelope
  | .dispatch env => some env
  | _ => none

def Event.awaits : Event → Bool
  | .await _ => true
  | _ => false

/-- The parts of a trace of `message_loop`, one for each iteration. -/
def turns (es : List Event) : List (List Event) := parts Event.awaits es

/-- The events of one iteration show an exchange of the machine. -/
def Shows (es : List Event) (x : Inbound × List Effect) : Prop :=
  es.filterMap Event.dispatched = [x.1.env] ∧ es.filterMap Event.effect = x.2

def World.Writable (w : World) : Prop := ∀ b ∈ w.writes, b = true

theorem supply_writable {writes : List Bool} (hw : ∀ b ∈ writes, b = true) {es : List Event}
    (h : supply.Accepts ⟨[], writes⟩ es) :
    (∀ e ∈ es, e.isLoss = false) ∧
      ∃ left, supply.after ⟨[], writes⟩ es = ⟨[], left⟩ ∧ ∀ b ∈ left, b = true := by
  induction es generalizing writes with
  | nil => exact ⟨by simp, writes, rfl, hw⟩
  | cons e es ih =>
    obtain ⟨allowed, rest⟩ := h
    have htail : ∀ b ∈ writes.tail, b = true := fun b hb => hw b (List.mem_of_mem_tail hb)
    have step : e.isLoss = false ∧ ∃ next, Supply.step ⟨[], writes⟩ e = ⟨[], next⟩ ∧
        ∀ b ∈ next, b = true := by
      cases e with
      | connect path => simp [supply, Supply.allows] at allowed
      | connectFailed path => simp [supply, Supply.allows] at allowed
      | write env => exact ⟨rfl, writes.tail, rfl, htail⟩
      | writeFailed env =>
        cases writes with
        | nil => simp [supply, Supply.allows] at allowed
        | cons b writes =>
          have hb : b = true := hw b (by simp)
          simp [supply, Supply.allows, hb] at allowed
      | _ => exact ⟨rfl, writes, rfl, hw⟩
    obtain ⟨hloss, next, hstep, hnext⟩ := step
    change supply.Accepts (Supply.step ⟨[], writes⟩ e) es at rest
    rw [hstep] at rest
    obtain ⟨hrest, left, hafter, hleft⟩ := ih hnext rest
    refine ⟨?_, left, ?_, hleft⟩
    · intro e' he'
      rcases List.mem_cons.mp he' with rfl | he'
      · exact hloss
      · exact hrest e' he'
    · rw [Monitor.after_cons]
      change supply.after (Supply.step ⟨[], writes⟩ e) es = ⟨[], left⟩
      rw [hstep, hafter]

theorem Leads.writable {w w' : World} {es : List Event} (l : Leads w w' es) (hw : w.Writable) :
    (∀ e ∈ es, e.isLoss = false) ∧ w'.Writable := by
  obtain ⟨hloss, left, hafter, hleft⟩ := supply_writable hw (l.supplied [])
  rw [l.left [], Supply.mk.injEq] at hafter
  refine ⟨hloss, ?_⟩
  intro b hb
  exact hleft b (hafter.2 ▸ hb)

def verdict (i : Inbound) : Verdict :=
  match ending i with
  | none => .continue
  | some (.ok ()) => .stop
  | some (.error e) => .error e

theorem ending_eq_none {i : Inbound} (h : verdict i = .continue) : ending i = none := by
  unfold verdict at h
  split at h
  · assumption
  · cases h
  · cases h

section Machine

variable (cfg : Config) (token : Nat) (st : ComponentState) {i : Inbound}

def Does (i : Inbound) (effects : List Effect) (st' : ComponentState) (v : Verdict) : Prop :=
  replies cfg token st i = effects ∧ following st i = st' ∧ verdict i = v

theorem does_ping (h : IsPing i.env) :
    Does cfg token st i [sentPong cfg st i.env.messageId] st .continue := by
  obtain ⟨ht, hc⟩ := h
  simp [Does, replies, following, verdict, ending, Inbound.configures, Inbound.fatal, IsPing,
    IsConfigure, IsShutdown, IsError, ht, hc]

theorem does_refuse (h : IsConfigure i.env) {e : AegisError} (he : i.onConfigure = .error e) :
    Does cfg token st i [sentRefusal cfg e] st .continue := by
  obtain ⟨ht, hc⟩ := h
  simp [Does, replies, following, verdict, ending, Inbound.configures, Inbound.fatal, IsPing,
    IsConfigure, IsShutdown, IsError, ht, hc, he, Except.isOk, Except.toBool]

theorem does_configure (h : IsConfigure i.env) (hok : i.onConfigure = .ok ()) :
    Does cfg token st i [sentAck cfg i.env.messageId, sentState cfg .configured,
      sentState cfg .running, .spawned token] .running .continue := by
  obtain ⟨ht, hc⟩ := h
  simp [Does, replies, following, verdict, ending, Inbound.configures, Inbound.fatal, IsPing,
    IsConfigure, IsShutdown, IsError, ht, hc, hok, Except.isOk, Except.toBool]

theorem does_reborn (h : IsReborn i.env) :
    Does cfg token st i [sentAck cfg i.env.messageId] st .continue := by
  obtain ⟨ht, hc⟩ := h
  simp [Does, replies, following, verdict, ending, Inbound.configures, Inbound.fatal, IsPing,
    IsConfigure, IsReborn, IsShutdown, IsError, ht, hc]

theorem does_shutdown (h : IsShutdown i.env) :
    Does cfg token st i [.cancelled token, sentAck cfg i.env.messageId] .shutdown .stop := by
  obtain ⟨ht, hc⟩ := h
  simp [Does, replies, following, verdict, ending, Inbound.configures, IsPing, IsConfigure,
    IsReborn, IsShutdown, ht, hc]

theorem does_error (h : IsError i.env) : Does cfg token st i [] st
    (if errorRecoverable i.env then .continue
      else .error (.connection "non-recoverable error")) := by
  have ht : i.env.msgType = .error := h
  cases hr : errorRecoverable i.env <;>
    simp [Does, replies, following, verdict, ending, Inbound.configures, Inbound.fatal, IsPing,
      IsConfigure, IsReborn, IsShutdown, IsError, ht, hr]

theorem does_nothing (h : Ignored i.env) : Does cfg token st i [] st .continue := by
  obtain ⟨hp, hc, hr, hs, he⟩ := h
  simp [Does, replies, following, verdict, ending, Inbound.configures, Inbound.fatal, hp, hc, hr,
    hs, he]

end Machine

theorem Reaction.answers {cfg : Config} {token : Nat} {i : Inbound} {st st' : ComponentState}
    {es : List Event} {v : Verdict} (h : Reaction cfg token i.env i.onConfigure st es st' v)
    (hloss : ∀ e ∈ es, e.isLoss = false) :
    Does cfg token st i (es.filterMap Event.effect) st' v ∧
      es.filterMap Event.dispatched = [] ∧ ∀ e ∈ es, e.awaits = false := by
  cases h with
  | ignored hi => exact ⟨does_nothing cfg token st hi, rfl, by simp⟩
  | pong stamp secs hp => exact ⟨does_ping cfg token st hp, rfl, by simp [Event.awaits]⟩
  | refused stamp e hc he => exact ⟨does_refuse cfg token st hc he, rfl, by simp [Event.awaits]⟩
  | running a c r hc hok => exact ⟨does_configure cfg token st hc hok, rfl, by simp [Event.awaits]⟩
  | reborn stamp hr => exact ⟨does_reborn cfg token st hr, rfl, by simp [Event.awaits]⟩
  | shutdown stamp hs => exact ⟨does_shutdown cfg token st hs, rfl, by simp [Event.awaits]⟩
  | recoverable code message he hr =>
    have hdoes := does_error cfg token st he
    rw [hr] at hdoes
    exact ⟨hdoes, rfl, by simp [Event.awaits]⟩
  | fatal code message he hr =>
    have hdoes := does_error cfg token st he
    rw [hr] at hdoes
    exact ⟨hdoes, rfl, by simp [Event.awaits]⟩
  | pongLost | refusedLost | ackLost | configuredLost | runningLost | rebornLost | shutdownLost =>
    simp [Event.isLoss] at hloss

section Loop

open List (Forall₂)

variable (rt : Runtime) (cfg : Config) (token : Nat)

def Gives (read : Read) (i : Inbound) : Prop :=
  ∃ bytes, read.event = .line bytes ∧ decodeLine rt bytes = .ok i.env ∧
    read.onConfigure = i.onConfigure

/-- How `message_loop` ends for the result of the machine. Without one the connection ends
after the last message. -/
def loopOutcome : Option (Except AegisError Unit) → Except Fault Unit
  | some (.ok ()) => .ok ()
  | some (.error e) => .error (.error e)
  | none => .error (.error (.connection "connection closed"))

/-- The iterations in a trace of `message_loop` show the exchanges of a transcript one by
one; without a result there is one more, which waits for the end of the connection. -/
structure Records (es : List Event)
    (t : Transcript ComponentState Inbound Effect (Except AegisError Unit)) : Prop where
  opens : ∀ e, es.head? = some e → e.awaits = true
  iterations : ∃ shown, Forall₂ Shows shown t.exchanges ∧
    turns es = shown ++ if t.result.isSome then [] else [[.await t.final]]

theorem Gives.recv {read : Read} {i : Inbound} (h : Gives rt read i) (w : World) :
    recvWithin rt read.event w = .ok i.env w := by
  obtain ⟨bytes, hevent, hdecode, -⟩ := h
  rw [hevent, recvWithin, hdecode]
  rfl

theorem dispatch_answers (i : Inbound) {w : World} (hw : w.Writable) :
    ∃ es w', dispatch rt cfg i.env i.onConfigure token w = (verdict i).result w' ∧
      Leads w w' es ∧ w'.Writable ∧
      w'.component = { w.component with state := following w.component.state i } ∧
      es.filterMap Event.effect = replies cfg token w.component.state i ∧
      es.filterMap Event.dispatched = [] ∧ ∀ e ∈ es, e.awaits = false := by
  obtain ⟨es, v, w', h, leads, reaction⟩ :=
    dispatch_reacts rt cfg i.env token i.onConfigure w
  obtain ⟨hloss, hw'⟩ := leads.writable hw
  obtain ⟨⟨heffects, hstate, hverdict⟩, hdispatched, hawaits⟩ := reaction.answers hloss
  have ids : w'.ids = w.ids := by
    have keeps := dispatch_keeps rt cfg i.env token i.onConfigure
    cases v with
    | «continue» => exact keeps.ok h
    | stop => exact keeps.ok h
    | error e => exact (keeps.error h).1
  obtain ⟨hid, hsession⟩ := Prod.mk.inj ids
  have fields : w'.component =
      ⟨w'.component.componentId, w'.component.sessionId, w'.component.state⟩ := rfl
  refine ⟨es, w', ?_, leads, hw', ?_, heffects.symm, hdispatched, hawaits⟩
  · rw [hverdict]
    exact h
  · rw [fields, hid, hsession, hstate]

theorem Gives.answer {read : Read} {i : Inbound} (h : Gives rt read i) :
    i.onConfigure = read.onConfigure := by
  obtain ⟨bytes, -, -, hanswer⟩ := h
  exact hanswer.symm

/-- What `message_loop` does after a verdict; `next` is its next iteration. -/
def Verdict.proceed (next : Task Unit) : Verdict → World → EStateM.Result Fault World Unit
  | .continue, w => next w
  | .stop, w => .ok () w
  | .error e, w => .error (.error e) w

theorem messageLoop_answered {read : Read} (reads : List Read) {env : Envelope} {v : Verdict}
    {w w₁ w₂ w₃ : World} (h₁ : awaitMessage w = .ok () w₁)
    (h₂ : recvWithin rt read.event w₁ = .ok env w₁) (h₃ : emit (.dispatch env) w₁ = .ok () w₂)
    (h₄ : dispatch rt cfg env read.onConfigure token w₂ = v.result w₃) :
    messageLoop rt cfg token (read :: reads) w =
      v.proceed (messageLoop rt cfg token reads) w₃ := by
  rw [messageLoop, bind_ok h₁, bind_ok h₂, bind_ok h₃]
  cases v with
  | «continue» => exact bind_ok h₄
  | stop => exact bind_ok h₄
  | error e => exact bind_error h₄

/-- On a connection whose lines decode and whose writes succeed, `message_loop` runs as the
machine does. -/
theorem messageLoop_conversation {reads : List Read} {inputs : List Inbound}
    (gives : Forall₂ (Gives rt) reads inputs) {w : World} (hw : w.Writable) :
    let t := (conversation cfg token).run w.component.state inputs
    ∃ es w', messageLoop rt cfg token reads w = onceResult (loopOutcome t.result) w' ∧
      Leads w w' es ∧ w'.component = { w.component with state := t.final } ∧ Records es t := by
  induction gives generalizing w with
  | nil =>
    obtain ⟨w₁, h₁, l₁, c₁⟩ := awaitMessage_ok w
    refine ⟨_, w₁, bind_ok h₁, l₁, c₁, ?_, [], .nil, ?_⟩
    · simp [Event.awaits]
    · exact parts_last Event.awaits rfl (by simp)
  | @cons read i reads inputs hread gives ih =>
    obtain ⟨w₁, h₁, l₁, c₁⟩ := awaitMessage_ok w
    obtain ⟨w₂, h₂, l₂, c₂⟩ := emit_ok (.dispatch i.env) w₁ rfl
    have l := l₁.trans l₂
    have hw₂ : w₂.Writable := (l.writable hw).2
    obtain ⟨es, w₃, h₃, l₃, hw₃, c₃, heffects, hdispatched, hawaits⟩ :=
      dispatch_answers rt cfg token i hw₂
    have hstate : w₂.component = w.component := c₂.trans c₁
    rw [hstate] at c₃ heffects
    have hshows : Shows (.await w.component.state :: .dispatch i.env :: es)
        (i, replies cfg token w.component.state i) := by
      constructor
      · have hmessage : Event.dispatched (.dispatch i.env) = some i.env := rfl
        rw [List.filterMap_cons_none rfl, List.filterMap_cons_some hmessage, hdispatched]
      · rw [List.filterMap_cons_none rfl, List.filterMap_cons_none rfl, heffects]
    have hquiet : ∀ e ∈ Event.dispatch i.env :: es, e.awaits = false := by
      intro e he
      rcases List.mem_cons.mp he with rfl | he
      · rfl
      · exact hawaits e he
    have loop := messageLoop_answered rt cfg token reads h₁ (hread.recv rt w₁) h₂
      (hread.answer ▸ h₃)
    rw [loop]
    have leads := l.trans l₃
    cases hending : ending i with
    | some result =>
      rw [Responder.run_last (conversation cfg token) inputs (s := w.component.state) hending]
      refine ⟨_, w₃, ?_, leads, c₃, by simp [Event.awaits], [_], .cons hshows .nil, ?_⟩
      · rw [verdict, hending]
        cases result <;> rfl
      · exact parts_last Event.awaits rfl hquiet
    | none =>
      rw [Responder.run_next (conversation cfg token) inputs (s := w.component.state) hending]
      obtain ⟨es', w₄, h₄, l₄, c₄, opens, shown, hshown, hturns⟩ := ih hw₃
      rw [c₃] at h₄ c₄ hshown hturns
      refine ⟨_, w₄, ?_, leads.trans l₄, c₄, by simp [Event.awaits], _ :: shown,
        .cons hshows hshown, ?_⟩
      · rw [verdict, hending]
        exact h₄
      · change parts Event.awaits (.await w.component.state :: (.dispatch i.env :: es ++ es')) = _
        rw [parts_next Event.awaits rfl hquiet opens]
        change _ :: turns es' = _
        rw [hturns]
        rfl

theorem Registration.ready_of {reads rest : List Read} {c c' : Component} {es : List Event}
    {res : Except Fault (List Read)} {a b : Json} (h : Registration rt cfg reads c es c' res)
    (hreg : Registers rt reads a b rest) (hloss : ∀ e ∈ es, e.isLoss = false) :
    res = .ok rest ∧ c' = identified a b .ready ∧ ∃ r i d,
      es = [.write (registerLine cfg r (registerId rt c)), .write (stateLine cfg i .initializing),
        .write (stateLine cfg d .ready)] := by
  obtain ⟨env, hreply, hcommand, ha, hb⟩ := hreg
  cases h with
  | lost r => simp [Event.isLoss] at hloss
  | unanswered r hnone => simp [hreply] at hnone
  | rejected r hother hne =>
    obtain ⟨rfl, rfl⟩ : env = _ ∧ rest = _ := by simpa [hreply] using hother
    exact absurd hcommand hne
  | noComponentId r hother _ hnone =>
    obtain ⟨rfl, rfl⟩ : env = _ ∧ rest = _ := by simpa [hreply] using hother
    simp [ha] at hnone
  | noSessionId r hother _ _ hnone =>
    obtain ⟨rfl, rfl⟩ : env = _ ∧ rest = _ := by simpa [hreply] using hother
    simp [hb] at hnone
  | initializingLost r i other => simp [Event.isLoss] at hloss
  | readyLost r i d other => simp [Event.isLoss] at hloss
  | ready r i d other =>
    obtain ⟨env', hother, _, ha', hb'⟩ := other
    obtain ⟨rfl, rfl⟩ : env = env' ∧ rest = _ := by simpa [hreply] using hother
    obtain rfl : a = _ := by simpa [ha] using ha'
    obtain rfl : b = _ := by simpa [hb] using hb'
    exact ⟨rfl, rfl, r, i, d, rfl⟩

/-- The events of a connection that registers, up to the first iteration of `message_loop`. -/
def registering (c : Component) (r i d : Stamp) : List Event :=
  [.connect cfg.socketPath, .write (registerLine cfg r (registerId rt c)),
    .write (stateLine cfg i .initializing), .write (stateLine cfg d .ready), .token token]

/-- A connection with a REGISTERED reply, whose further lines decode and whose writes
succeed, runs as the machine does from READY on. -/
theorem runOnce_conversation {link : Link} (hconn : link.connected = true)
    (hwrites : ∀ b ∈ link.writes, b = true) {a b : Json} {rest : List Read}
    (hreg : Registers rt link.reads a b rest) {inputs : List Inbound}
    (gives : Forall₂ (Gives rt) rest inputs) (w : World) :
    ∃ token r i d es w', runOnce rt cfg link w =
        onceResult (loopOutcome ((conversation cfg token).run .ready inputs).result) w' ∧
      w'.trace = w.trace ++ (registering rt cfg token w.component r i d ++ es) ∧
      w'.component = identified a b ((conversation cfg token).run .ready inputs).final ∧
      Records es ((conversation cfg token).run .ready inputs) := by
  rw [runOnce_connected rt cfg link w hconn]
  have hw : (w.connect cfg link).Writable := hwrites
  obtain ⟨es₁, w₁, res, h₁, l₁, registration⟩ :=
    register_course rt cfg link.reads (w.connect cfg link)
  obtain ⟨hloss, hw₁⟩ := l₁.writable hw
  obtain ⟨rfl, c₁, r, i, d, rfl⟩ := registration.ready_of rt cfg hreg hloss
  let w₂ : World :=
    { w₁ with tokens := w₁.tokens + 1, trace := w₁.trace ++ [.token w₁.tokens] }
  have h₂ : newToken w₁ = .ok w₁.tokens w₂ := rfl
  have l₂ : Leads w₁ w₂ [.token w₁.tokens] := Leads.newToken w₁
  have hw₂ : w₂.Writable := hw₁
  obtain ⟨es, w₃, h₃, l₃, c₃, records⟩ :=
    messageLoop_conversation rt cfg w₁.tokens gives hw₂
  have hready : w₂.component = identified a b .ready := c₁
  rw [hready] at h₃ c₃ records
  refine ⟨w₁.tokens, r, i, d, es, w₃, ?_, ?_, c₃, records⟩
  · rw [bind_ok h₁, bind_ok h₂]
    exact h₃
  · obtain ⟨trace, -, -⟩ := ((l₁.trans l₂).trans l₃).connect cfg hconn
    rw [trace]
    rfl

end Loop

theorem flatMap_eq {α β γ : Type} {R : α → β → Prop} {xs : List α} {ys : List β}
    (h : List.Forall₂ R xs ys) {f : α → List γ} {g : β → List γ}
    (hfg : ∀ x y, R x y → f x = g y) : xs.flatMap f = ys.flatMap g := by
  have related : ∀ x y, R x y → List.Forall₂ Eq (f x) (g y) := by
    intro x y hxy
    rw [hfg x y hxy]
    exact List.forall₂_refl _
  have same : List.Forall₂ Eq (xs.flatMap f) (ys.flatMap g) := List.rel_flatMap h related
  rwa [List.forall₂_eq_eq_eq] at same

theorem Records.filterMap {β : Type} {es : List Event}
    {t : Transcript ComponentState Inbound Effect (Except AegisError Unit)} (h : Records es t)
    (f : Event → Option β) (g : Inbound × List Effect → List β)
    (hawait : ∀ st, f (.await st) = none)
    (hshows : ∀ part x, Shows part x → part.filterMap f = g x) :
    es.filterMap f = t.exchanges.flatMap g := by
  obtain ⟨opens, shown, hshown, hturns⟩ := h
  have hwhole : (turns es).flatten = es := flatten_parts Event.awaits opens
  rw [← hwhole, hturns, List.flatten_append, List.filterMap_append, List.filterMap_flatten,
    ← List.flatMap_def, flatMap_eq hshown hshows]
  split <;> simp [hawait]

theorem Records.dispatched {es : List Event}
    {t : Transcript ComponentState Inbound Effect (Except AegisError Unit)} (h : Records es t) :
    es.filterMap Event.dispatched = (t.exchanges.map Prod.fst).map Inbound.env := by
  rw [h.filterMap Event.dispatched (fun x => [x.1.env]) (fun _ => rfl) fun _ _ hx => hx.1]
  rw [List.map_map, List.map_eq_flatMap]
  rfl

theorem Records.effects {es : List Event}
    {t : Transcript ComponentState Inbound Effect (Except AegisError Unit)} (h : Records es t) :
    es.filterMap Event.effect = t.exchanges.flatMap Prod.snd :=
  h.filterMap Event.effect Prod.snd (fun _ => rfl) fun _ _ hx => hx.2

theorem decodeLine_ok (rt : Runtime) {bytes : List UInt8} {value : Json} {env : Envelope}
    (hutf8 : (String.fromUTF8? ⟨bytes.toArray⟩).isSome = true) (hparse : rt.parse bytes = some value)
    (hvalue : Envelope.deserialize value = some env) : decodeLine rt bytes = .ok env := by
  obtain ⟨text, htext⟩ := Option.isSome_iff_exists.mp hutf8
  simp [decodeLine, htext, hparse, hvalue]

namespace Sample

def envelope (id : String) (msgType : MessageType) (command : Command) (payload : Payload) :
    Envelope where
  protocolVersion := "0.1"
  messageId := id
  correlationId := none
  timestamp := "t"
  source := "aegis"
  target := "component:c"
  msgType := msgType
  command := command
  payload := payload

def registeredEnvelope : Envelope := envelope "m1" .lifecycle .registered
  [("component_id", .str "c1"), ("session_id", .str "s1")]
def configureEnvelope : Envelope := envelope "m2" .config .configure []
def shutdownEnvelope : Envelope := envelope "m3" .lifecycle .shutdown []

theorem runtime_parse : runtime.parse = parse := rfl

theorem decodes_registered : decodeLine runtime registered = .ok registeredEnvelope := by
  have hutf8 : (String.fromUTF8? ⟨registered.toArray⟩).isSome = true := by decide +kernel
  have hparse : runtime.parse registered = some (value "m1" "LIFECYCLE" "REGISTERED"
      [("component_id", .str "c1"), ("session_id", .str "s1")]) := by
    rw [runtime_parse, parse, if_pos rfl]
  exact decodeLine_ok runtime hutf8 hparse rfl

theorem decodes_configure : decodeLine runtime configure = .ok configureEnvelope := by
  have hutf8 : (String.fromUTF8? ⟨configure.toArray⟩).isSome = true := by decide +kernel
  have hne : configure ≠ registered := by decide +kernel
  have hparse : runtime.parse configure = some (value "m2" "CONFIG" "CONFIGURE" []) := by
    rw [runtime_parse, parse, if_neg hne, if_pos rfl]
  exact decodeLine_ok runtime hutf8 hparse rfl

theorem decodes_shutdown : decodeLine runtime shutdown = .ok shutdownEnvelope := by
  have hutf8 : (String.fromUTF8? ⟨shutdown.toArray⟩).isSome = true := by decide +kernel
  have hne : shutdown ≠ registered := by decide +kernel
  have hne' : shutdown ≠ configure := by decide +kernel
  have hparse : runtime.parse shutdown = some (value "m3" "LIFECYCLE" "SHUTDOWN" []) := by
    rw [runtime_parse, parse, if_neg hne, if_neg hne', if_pos rfl]
  exact decodeLine_ok runtime hutf8 hparse rfl

end Sample

end AegisSdk.Rust
