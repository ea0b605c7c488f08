import AegisSdk.Library.Coupling
import AegisSdk.Rust.Turn

/-!
How a connection ends does not depend on what came before it: neither the ids and the state of
the component nor the envelopes and tokens created so far have a part in the course of
`run_once`, only the link has.
-/

set_option autoImplicit false
set_option relaxedAutoImplicit false

namespace AegisSdk.Rust

open AegisSdk.Protocol AegisSdk.Library

/-- The worlds have the same writes ahead, and the first is `n` tokens ahead of the second. -/
def Alike (n : Nat) (s t : World) : Prop := s.writes = t.writes ∧ s.tokens = t.tokens + n

def Any {α β : Type} (_ : α) (_ : β) : Prop := True

inductive Fate where
  | closed
  | rejected (msg : String)
  | panicked (msg : String)
  /-- with an error that `run` retries, after `register` has returned or before -/
  | lost (registered : Bool)
  deriving DecidableEq

/-- The end of a run of `run_once` from a world with that many tokens; `message_loop` is entered
with one more. -/
def fateOf (tokens : Nat) : EStateM.Result Fault World Unit → Fate
  | .ok () _ => .closed
  | .error (.panic msg) _ => .panicked msg
  | .error (.error (.registration msg)) _ => .rejected msg
  | .error (.error _) w => .lost (decide (tokens < w.tokens))

def Link.fate (rt : Runtime) (cfg : Config) (link : Link) : Fate :=
  fateOf 0 (runOnce rt cfg link {})

section Alike

variable {rt : Runtime} {cfg : Config} {n : Nat} {env env' : Envelope}

theorem emit_alike (e e' : Event) : Coupled (Alike n) Any (emit e) (emit e') :=
  Coupled.update (fun _ _ h => h) trivial

theorem component_alike (f f' : World → Component) :
    Coupled (Alike n) Any (modify fun w => { w with component := f w } : Task Unit)
      (modify fun w => { w with component := f' w }) :=
  Coupled.update (fun _ _ h => h) trivial

theorem setState_alike (s s' : ComponentState) : Coupled (Alike n) Any (setState s) (setState s') :=
  component_alike _ _

theorem fail_alike {α β : Type} {Q : α → β → Prop} (e : AegisError) :
    Coupled (Alike n) Q (fail e : Task α) (fail e) := Coupled.throw _

theorem newEnvelope_alike (t : MessageType) (c : Command) (p p' : Payload) :
    Coupled (Alike n) Any (newEnvelope rt cfg t c p) (newEnvelope rt cfg t c p') :=
  fun _ _ h => .ok trivial h

theorem sendEnvelope_alike : Coupled (Alike n) Any (sendEnvelope env) (sendEnvelope env') := by
  rintro ⟨c, writes, created, tokens, trace⟩ ⟨c', writes', created', tokens', trace'⟩ ⟨heq, htokens⟩
  obtain rfl : writes = writes' := heq
  match writes with
  | [] => exact .ok trivial ⟨rfl, htokens⟩
  | true :: rest => exact .ok trivial ⟨rfl, htokens⟩
  | false :: rest => exact .error ⟨rfl, htokens⟩

theorem sendStateUpdate_alike (s : ComponentState) (message : Option String) :
    Coupled (Alike n) Any (sendStateUpdate rt cfg s message) (sendStateUpdate rt cfg s message) :=
  (newEnvelope_alike _ _ _ _).bind fun _ _ _ =>
    sendEnvelope_alike.bind fun _ _ _ => setState_alike s s

theorem sendError_alike (code message : String) (recoverable : Bool) :
    Coupled (Alike n) Any (sendError rt cfg code message recoverable)
      (sendError rt cfg code message recoverable) :=
  (newEnvelope_alike _ _ _ _).bind fun _ _ _ => sendEnvelope_alike

theorem sendAck_alike (id : String) :
    Coupled (Alike n) Any (sendAck rt cfg id) (sendAck rt cfg id) :=
  (newEnvelope_alike _ _ _ _).bind fun _ _ _ => sendEnvelope_alike

theorem handleHeartbeat_alike :
    Coupled (Alike n) Any (handleHeartbeat rt cfg env) (handleHeartbeat rt cfg env) := by
  unfold handleHeartbeat
  split
  · exact Coupled.pure trivial
  · exact (emit_alike _ _).bind fun _ _ _ => Coupled.get.bind fun _ _ _ =>
      (newEnvelope_alike _ _ _ _).bind fun _ _ _ => sendEnvelope_alike

theorem handleConfig_alike (answer : Except AegisError Unit) (token token' : Nat) :
    Coupled (Alike n) Any (handleConfig rt cfg env answer token)
      (handleConfig rt cfg env answer token') := by
  unfold handleConfig
  split
  · exact Coupled.pure trivial
  · refine (emit_alike _ _).bind fun _ _ _ => ?_
    cases answer with
    | error e => exact sendError_alike _ _ _
    | ok u =>
      exact (sendAck_alike _).bind fun _ _ _ => (sendStateUpdate_alike _ _).bind fun _ _ _ =>
        (sendStateUpdate_alike _ _).bind fun _ _ _ => emit_alike _ _

theorem gracefulShutdown_alike : Coupled (Alike n) Any gracefulShutdown gracefulShutdown :=
  (emit_alike _ _).bind fun _ _ _ => setState_alike _ _

theorem handleLifecycle_alike (token token' : Nat) :
    Coupled (Alike n) Eq (handleLifecycle rt cfg env token)
      (handleLifecycle rt cfg env token') := by
  unfold handleLifecycle
  split
  · exact (emit_alike _ _).bind fun _ _ _ => (sendAck_alike _).bind fun _ _ _ => Coupled.pure rfl
  · exact (emit_alike _ _).bind fun _ _ _ => (sendAck_alike _).bind fun _ _ _ =>
      gracefulShutdown_alike.bind fun _ _ _ => Coupled.pure rfl
  · exact Coupled.pure rfl
  · exact Coupled.pure rfl

theorem handleErrorMsg_alike :
    Coupled (Alike n) Eq (handleErrorMsg env) (handleErrorMsg env) :=
  (emit_alike _ _).bind fun _ _ _ => Coupled.pure rfl

theorem dispatch_alike (answer : Except AegisError Unit) (token token' : Nat) :
    Coupled (Alike n) Eq (dispatch rt cfg env answer token)
      (dispatch rt cfg env answer token') := by
  unfold dispatch
  split
  · exact handleHeartbeat_alike.bind fun _ _ _ => Coupled.pure rfl
  · exact (handleConfig_alike answer token token').bind fun _ _ _ => Coupled.pure rfl
  · exact handleLifecycle_alike token token'
  · refine handleErrorMsg_alike.bind fun fatal fatal' heq => ?_
    subst heq
    cases fatal with
    | true => exact fail_alike _
    | false => exact Coupled.pure rfl
  · exact Coupled.pure rfl
  · exact Coupled.pure rfl

theorem recvWithin_alike (event : ReadEvent) :
    Coupled (Alike n) Eq (recvWithin rt event) (recvWithin rt event) := by
  unfold recvWithin
  split
  · exact fail_alike _
  · exact fail_alike _
  · split
    · exact fail_alike _
    · exact Coupled.pure rfl

theorem awaitMessage_alike : Coupled (Alike n) Any awaitMessage awaitMessage :=
  Coupled.get.bind fun _ _ _ => emit_alike _ _

theorem messageLoop_alike (token token' : Nat) (reads : List Read) :
    Coupled (Alike n) Any (messageLoop rt cfg token reads) (messageLoop rt cfg token' reads) := by
  induction reads with
  | nil => exact awaitMessage_alike.bind fun _ _ _ => fail_alike _
  | cons read rest ih =>
    rw [messageLoop, messageLoop]
    refine awaitMessage_alike.bind fun _ _ _ => (recvWithin_alike _).bind fun env env' heq => ?_
    subst heq
    refine (emit_alike _ _).bind fun _ _ _ =>
      (dispatch_alike _ token token').bind fun outcome outcome' heq => ?_
    subst heq
    cases outcome with
    | «continue» => exact ih
    | stop => exact Coupled.pure trivial

theorem recvEnvelope_alike (reads : List Read) :
    Coupled (Alike n) Eq (recvEnvelope rt reads) (recvEnvelope rt reads) := by
  induction reads with
  | nil => exact fail_alike _
  | cons read rest ih =>
    rw [recvEnvelope]
    split
    · exact ih
    · exact fail_alike _
    · split
      · exact fail_alike _
      · exact Coupled.pure rfl

theorem indexPayload_alike (payload : Payload) (key : String) :
    Coupled (Alike n) Eq (indexPayload payload key) (indexPayload payload key) := by
  unfold indexPayload
  split
  · exact Coupled.pure rfl
  · exact Coupled.throw _

theorem storeIdentity_alike (payload : Payload) :
    Coupled (Alike n) Any (storeIdentity payload) (storeIdentity payload) := by
  unfold storeIdentity
  refine (indexPayload_alike _ _).bind fun _ _ _ => (component_alike _ _).bind fun _ _ _ => ?_
  refine (indexPayload_alike _ _).bind fun _ _ _ => (component_alike _ _).bind fun _ _ _ => ?_
  exact setState_alike _ _

theorem register_alike (reads : List Read) :
    Coupled (Alike n) Eq (register rt cfg reads) (register rt cfg reads) := by
  unfold register
  refine Coupled.get.bind fun _ _ _ => (newEnvelope_alike _ _ _ _).bind fun _ _ _ =>
    sendEnvelope_alike.bind fun _ _ _ =>
      (recvEnvelope_alike reads).bind fun received received' heq => ?_
  subst heq
  obtain ⟨resp, rest⟩ := received
  dsimp only
  split
  · exact fail_alike _
  · exact (storeIdentity_alike _).bind fun _ _ _ => (sendStateUpdate_alike _ _).bind fun _ _ _ =>
      (sendStateUpdate_alike _ _).bind fun _ _ _ => Coupled.pure rfl

theorem newToken_alike : Coupled (Alike n) Any newToken newToken := by
  rintro s t ⟨hwrites, htokens⟩
  exact .ok trivial ⟨hwrites, by simp only [htokens]; omega⟩

theorem fateOf_together {r r' : EStateM.Result Fault World Unit}
    (h : Together (Alike n) Any r r') (tokens : Nat) :
    fateOf (tokens + n) r = fateOf tokens r' := by
  cases h with
  | ok _ _ => rfl
  | @error f s t alike =>
    have hlt : decide (tokens + n < s.tokens) = decide (tokens < t.tokens) := by
      rw [alike.2]
      exact decide_eq_decide.mpr Nat.add_lt_add_iff_right
    cases f with
    | panic msg => rfl
    | error e =>
      cases e with
      | registration msg => rfl
      | _ => exact congrArg Fate.lost hlt

/-- The world in which a connection is made has no part in its fate. -/
theorem runOnce_fate (rt : Runtime) (cfg : Config) (link : Link) (w : World) :
    fateOf w.tokens (runOnce rt cfg link w) = link.fate rt cfg := by
  cases hconn : link.connected with
  | false =>
    have hlost (w : World) : fateOf w.tokens (runOnce rt cfg link w) = .lost false := by
      have hrun : runOnce rt cfg link w = .error (.error (.io "connect"))
          { w with trace := w.trace ++ [.connectFailed cfg.socketPath] } := by
        simp only [runOnce, hconn]
        rfl
      rw [hrun]
      exact congrArg Fate.lost (decide_eq_false (Nat.lt_irrefl _))
    exact (hlost w).trans (hlost {}).symm
  | true =>
    have hsession : Coupled (Alike w.tokens) Any
        (register rt cfg link.reads >>= fun rest =>
          newToken >>= fun token => messageLoop rt cfg token rest)
        (register rt cfg link.reads >>= fun rest =>
          newToken >>= fun token => messageLoop rt cfg token rest) := by
      refine (register_alike _).bind fun rest rest' heq => ?_
      subst heq
      exact newToken_alike.bind fun _ _ _ => messageLoop_alike _ _ rest
    have ends := hsession (w.connect cfg link) (World.connect cfg {} link)
      ⟨rfl, (Nat.zero_add _).symm⟩
    rw [← runOnce_connected rt cfg link w hconn, ← runOnce_connected rt cfg link {} hconn] at ends
    have hfate := fateOf_together ends 0
    rw [Nat.zero_add] at hfate
    exact hfate

end Alike

def Event.slept : Event → Option Duration
  | .sleep delay => some delay
  | _ => none

section Trace

variable {rt : Runtime} {cfg : Config} {token : Nat} {es : List Event}

theorem Reaction.awake {env : Envelope} {answer : Except AegisError Unit} {st st' : ComponentState}
    {v : Verdict} (h : Reaction cfg token env answer st es st' v) : ∀ e ∈ es, e.slept = none := by
  cases h <;> simp [Event.slept]

theorem Session.awake {st st' : ComponentState} {v : Verdict}
    (h : Session cfg token st es st' v) : ∀ e ∈ es, e.slept = none := by
  induction h with
  | lost st e => simp [Event.slept]
  | last reaction _ =>
    have awake := reaction.awake
    simpa [Event.slept] using awake
  | next reaction _ ih =>
    have awake := reaction.awake
    simp only [List.mem_cons, List.mem_append, forall_eq_or_imp]
    refine ⟨rfl, rfl, ?_⟩
    rintro e (he | he)
    · exact awake e he
    · exact ih e he

theorem Registration.awake {reads : List Read} {c c' : Component} {res : Except Fault (List Read)}
    (h : Registration rt cfg reads c es c' res) : ∀ e ∈ es, e.slept = none := by
  cases h <;> simp [Event.slept]

theorem Turn.awake {link : Link} {c c' : Component} {res : Except Fault Unit}
    (h : Turn rt cfg link token c es c' res) : ∀ e ∈ es, e.slept = none := by
  cases h with
  | refused => simp [Event.slept]
  | unregistered _ registration =>
    have awake := registration.awake
    simpa [Event.slept] using awake
  | session _ registration session =>
    have awake := registration.awake
    have awake' := session.awake
    simp only [List.mem_cons, List.mem_append, forall_eq_or_imp]
    refine ⟨rfl, ?_⟩
    rintro e (he | rfl | he)
    · exact awake e he
    · rfl
    · exact awake' e he

theorem Turn.opens_once {link : Link} {c c' : Component} {res : Except Fault Unit}
    (h : Turn rt cfg link token c es c' res) :
    ∃ e rest, es = e :: rest ∧ e.opens = true ∧ attempts rest = 0 := by
  have hone := h.attempts_eq
  rcases h.opening with rfl | ⟨e, r, rest, rfl, -, -⟩
  · exact ⟨_, _, rfl, rfl, rfl⟩
  · refine ⟨_, _, rfl, rfl, ?_⟩
    rw [attempts_cons] at hone
    simpa [Event.opens] using hone

end Trace

end AegisSdk.Rust
