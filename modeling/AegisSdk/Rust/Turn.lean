import AegisSdk.Rust.Lifecycle
import AegisSdk.Rust.Registration
import AegisSdk.Rust.Shutdown

/-!
One turn of the loop of `run`, by the link it is given: what REGISTER carries, which reply
the connection has in store for it, what the turn stores and how it ends.
-/

set_option autoImplicit false
set_option relaxedAutoImplicit false

namespace AegisSdk.Rust

open AegisSdk.Protocol AegisSdk.Library

def Event.opens : Event → Bool
  | .connect _ => true
  | .connectFailed _ => true
  | _ => false

def attempts (es : List Event) : Nat := es.countP Event.opens

@[simp] theorem attempts_nil : attempts [] = 0 := rfl

@[simp] theorem attempts_append (es es' : List Event) :
    attempts (es ++ es') = attempts es + attempts es' := List.countP_append

theorem attempts_cons (e : Event) (es : List Event) :
    attempts (e :: es) = attempts es + if e.opens then 1 else 0 := List.countP_cons

theorem attempts_quiet {es : List Event} (h : ∀ e ∈ es, e.reopens = false) : attempts es = 0 := by
  rw [attempts, List.countP_eq_zero]
  intro e he
  have := h e he
  cases e <;> simp_all [Event.reopens, Event.opens]

variable (rt : Runtime) (cfg : Config)

/-- The envelope that the connection has in store for its REGISTER, if the connection is
made and the REGISTER can be written. -/
def Link.answer (link : Link) : Option Envelope :=
  if link.connected && link.writes.headD true then
    match reply rt link.reads with
    | .ok (env, _) => some env
    | .error _ => none
  else none

/-- The `component_id` of the REGISTERED reply that the connection has in store. -/
def Link.assigned (link : Link) : Option Json :=
  (link.answer rt).bind fun env =>
    if env.command = .registered then env.payload.get "component_id" else none

/-- The connection has a reply in store that is no REGISTERED. -/
def Link.Rejects (link : Link) : Prop :=
  ∃ env, link.answer rt = some env ∧ env.command ≠ .registered

/-- The result of `run_once` for a verdict of `message_loop`. -/
def Verdict.outcome : Verdict → Except Fault Unit
  | .continue => .ok ()
  | .stop => .ok ()
  | .error e => .error (.error e)

inductive Turn (link : Link) (token : Nat) (c : Component) :
    List Event → Component → Except Fault Unit → Prop
  | refused : link.connected = false →
      Turn link token c [.connectFailed cfg.socketPath] c (.error (.error (.io "connect")))
  | unregistered {es : List Event} {c' : Component} {f : Fault} : link.connected = true →
      Registration rt cfg link.reads c es c' (.error f) →
      Turn link token c (.connect cfg.socketPath :: es) c' (.error f)
  | session {es es' : List Event} {c' c'' : Component} {rest : List Read} {v : Verdict} :
      link.connected = true → Registration rt cfg link.reads c es c' (.ok rest) →
      Session cfg token c'.state es' c''.state v →
      c''.componentId = c'.componentId → c''.sessionId = c'.sessionId →
      (∀ e, v = .error e → e.isRegistration = false) →
      Turn link token c (.connect cfg.socketPath :: (es ++ .token token :: es')) c'' v.outcome

def onceResult : Except Fault Unit → World → EStateM.Result Fault World Unit
  | .ok (), w => .ok () w
  | .error f, w => .error f w

theorem Leads.newToken (w : World) :
    Leads w { w with tokens := w.tokens + 1, trace := w.trace ++ [.token w.tokens] }
      [.token w.tokens] :=
  ⟨rfl, rfl, fun _ => ⟨trivial, trivial⟩, fun _ => rfl⟩

theorem Leads.connect {link : Link} {w w' : World} {es : List Event}
    (hconn : link.connected = true) (l : Leads (w.connect cfg link) w' es) :
    w'.trace = w.trace ++ .connect cfg.socketPath :: es ∧
      (∀ links, supply.Accepts ⟨link :: links, w.writes⟩ (.connect cfg.socketPath :: es)) ∧
      ∀ links, supply.after ⟨link :: links, w.writes⟩ (.connect cfg.socketPath :: es) =
        ⟨links, w'.writes⟩ := by
  refine ⟨?_, fun links => ⟨congrArg some hconn, l.supplied links⟩, l.left⟩
  rw [l.trace]
  simp [World.connect]

theorem runOnce_turn (link : Link) (w : World) :
    ∃ es w' res token, runOnce rt cfg link w = onceResult res w' ∧
      Turn rt cfg link token w.component es w'.component res ∧
      w'.trace = w.trace ++ es ∧
      (∀ links, supply.Accepts ⟨link :: links, w.writes⟩ es) ∧
      ∀ links, supply.after ⟨link :: links, w.writes⟩ es = ⟨links, w'.writes⟩ := by
  cases hconn : link.connected with
  | false =>
    refine ⟨_, { w with trace := w.trace ++ [.connectFailed cfg.socketPath] },
      .error (.error (.io "connect")), 0, ?_, .refused hconn, rfl, fun links => ?_, fun links => rfl⟩
    · simp only [runOnce, hconn]
      rfl
    · exact ⟨congrArg some hconn, trivial⟩
  | true =>
    rw [runOnce_connected rt cfg link w hconn]
    obtain ⟨es, w₁, res, h₁, l₁, registration⟩ :=
      register_course rt cfg link.reads (w.connect cfg link)
    cases res with
    | error f =>
      obtain ⟨trace, supplied, left⟩ := l₁.connect cfg hconn
      exact ⟨_, w₁, .error f, 0, bind_error h₁, .unregistered hconn registration, trace, supplied,
        left⟩
    | ok rest =>
      have h₂ : newToken w₁ = .ok w₁.tokens { w₁ with
        tokens := w₁.tokens + 1, trace := w₁.trace ++ [.token w₁.tokens] } := rfl
      have l₂ := Leads.newToken w₁
      obtain ⟨es', v, w₃, h₃, l₃, session⟩ := messageLoop_session rt cfg w₁.tokens rest
        { w₁ with tokens := w₁.tokens + 1, trace := w₁.trace ++ [.token w₁.tokens] }
      obtain ⟨trace, supplied, left⟩ := ((l₁.trans l₂).trans l₃).connect cfg hconn
      rw [List.append_assoc] at trace supplied left
      have reached := (bind_ok (f := fun rest => newToken >>= fun token =>
        messageLoop rt cfg token rest) h₁).trans
          ((bind_ok (f := fun token => messageLoop rt cfg token rest) h₂).trans h₃)
      have keeps := messageLoop_keeps rt cfg w₁.tokens rest
      have ended : w₃.ids = w₁.ids ∧ ∀ e, v = .error e → e.isRegistration = false := by
        cases v with
        | «continue» =>
          have ids := keeps.ok h₃
          refine ⟨ids, ?_⟩
          intro e h
          cases h
        | stop =>
          have ids := keeps.ok h₃
          refine ⟨ids, ?_⟩
          intro e h
          cases h
        | error e =>
          obtain ⟨ids, e', he, hlost⟩ := keeps.error h₃
          refine ⟨ids, fun e'' heq => ?_⟩
          cases he
          cases heq
          exact hlost
      obtain ⟨ids, hlost⟩ := ended
      obtain ⟨hid, hsession⟩ := Prod.mk.inj ids
      have turn := Turn.session hconn registration session hid hsession hlost
      refine ⟨_, w₃, v.outcome, w₁.tokens, reached.trans ?_, turn, trace, supplied, left⟩
      cases v <;> rfl

variable {rt cfg}

theorem Link.answer_some {link : Link} (hconn : link.connected = true)
    (hwrite : link.writes.headD true = true) {env : Envelope} {rest : List Read}
    (hreply : reply rt link.reads = .ok (env, rest)) : link.answer rt = some env := by
  simp only [Link.answer, hconn, hwrite, hreply, Bool.and_self, if_true]

theorem Link.answer_error {link : Link} {e : AegisError}
    (hreply : reply rt link.reads = .error e) : link.answer rt = none := by
  simp only [Link.answer, hreply]
  split <;> rfl

theorem Link.answer_unsent {link : Link}
    (h : link.connected = false ∨ link.writes.headD true = false) : link.answer rt = none := by
  rw [Link.answer, if_neg]
  rcases h with h | h <;> rw [h] <;> simp

theorem Reaction.quiet {token : Nat} {env : Envelope} {answer : Except AegisError Unit}
    {st st' : ComponentState} {es : List Event} {v : Verdict}
    (h : Reaction cfg token env answer st es st' v) : ∀ e ∈ es, e.reopens = false := by
  cases h <;> simp [Event.reopens]

theorem Session.quiet {token : Nat} {st st' : ComponentState} {es : List Event} {v : Verdict}
    (h : Session cfg token st es st' v) : ∀ e ∈ es, e.reopens = false := by
  induction h with
  | lost st e => simp [Event.reopens]
  | last reaction _ =>
    have := reaction.quiet
    simpa [Event.reopens] using this
  | next reaction _ ih =>
    have := reaction.quiet
    simp only [List.mem_cons, List.mem_append, forall_eq_or_imp]
    refine ⟨rfl, rfl, ?_⟩
    rintro e (he | he)
    · exact this e he
    · exact ih e he

theorem Registration.opening {reads : List Read} {c c' : Component} {es : List Event}
    {res : Except Fault (List Read)} (h : Registration rt cfg reads c es c' res) :
    ∃ e r rest, es = e :: rest ∧ e.tried = some (registerLine cfg r (registerId rt c)) ∧
      ∀ e ∈ rest, e.reopens = false := by
  cases h with
  | lost r | unanswered r | rejected r | noComponentId r | noSessionId r =>
    exact ⟨_, r, _, rfl, rfl, by simp⟩
  | initializingLost r | readyLost r | ready r =>
    refine ⟨_, r, _, rfl, rfl, ?_⟩
    simp [Event.reopens]

theorem Turn.opening {link : Link} {token : Nat} {c c' : Component} {es : List Event}
    {res : Except Fault Unit} (h : Turn rt cfg link token c es c' res) :
    es = [.connectFailed cfg.socketPath] ∨
      ∃ e r rest, es = .connect cfg.socketPath :: e :: rest ∧
        e.tried = some (registerLine cfg r (registerId rt c)) ∧
        ∀ e ∈ rest, e.reopens = false := by
  cases h with
  | refused => exact .inl rfl
  | unregistered _ registration =>
    obtain ⟨e, r, rest, rfl, tried, quiet⟩ := registration.opening
    exact .inr ⟨e, r, rest, rfl, tried, quiet⟩
  | session _ registration session =>
    obtain ⟨e, r, rest, rfl, tried, quiet⟩ := registration.opening
    refine .inr ⟨e, r, _, by rw [List.cons_append], tried, ?_⟩
    intro e he
    rcases List.mem_append.mp he with he | he
    · exact quiet e he
    · rcases List.mem_cons.mp he with rfl | he
      · rfl
      · exact session.quiet e he

theorem Turn.attempts_eq {link : Link} {token : Nat} {c c' : Component} {es : List Event}
    {res : Except Fault Unit} (h : Turn rt cfg link token c es c' res) : attempts es = 1 := by
  rcases h.opening with rfl | ⟨e, r, rest, rfl, tried, quiet⟩
  · simp [attempts_cons, Event.opens]
  · have hrest := attempts_quiet quiet
    have he : e.opens = false := by
      cases e with
      | connect | connectFailed => simp [Event.tried] at tried
      | _ => rfl
    simp [attempts_cons, hrest, he]
    rfl

end AegisSdk.Rust
