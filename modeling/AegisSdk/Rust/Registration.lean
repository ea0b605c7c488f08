import AegisSdk.Rust.Reaction

/-!
Registration in full: what `register` makes of the reply that a connection has in store,
with the ids it stores and the error it ends with. `message_loop` leaves the ids alone and
never ends with a `Registration` error.
-/

set_option autoImplicit false
set_option relaxedAutoImplicit false

namespace AegisSdk.Rust

open AegisSdk.Protocol AegisSdk.Library

def World.ids (w : World) : String × String := (w.component.componentId, w.component.sessionId)

def Fault.Lost (f : Fault) : Prop := ∃ e, f = .error e ∧ e.isRegistration = false

variable (rt : Runtime) (cfg : Config)

def reply : List Read → Except AegisError (Envelope × List Read)
  | [] => .error (.connection "connection closed")
  | read :: rest =>
    match read.event with
    | .silence => reply rest
    | .ioError msg => .error (.io msg)
    | .line bytes =>
      match decodeLine rt bytes with
      | .error e => .error e
      | .ok env => .ok (env, rest)

theorem decodeLine_lost {bytes : List UInt8} {e : AegisError}
    (h : decodeLine rt bytes = .error e) : e.isRegistration = false := by
  unfold decodeLine at h
  split at h
  · cases h
    rfl
  · split at h
    · cases h
      rfl
    · cases h

theorem reply_lost {reads : List Read} {e : AegisError} (h : reply rt reads = .error e) :
    e.isRegistration = false := by
  induction reads with
  | nil =>
    cases h
    rfl
  | cons read rest ih =>
    rw [reply] at h
    split at h
    · exact ih h
    · cases h
      rfl
    · split at h
      · rename_i hdecode
        cases h
        exact decodeLine_lost rt hdecode
      · cases h

def unchanged {α : Type} : Except AegisError α → World → EStateM.Result Fault World α
  | .ok a, w => .ok a w
  | .error e, w => .error (.error e) w

theorem recvEnvelope_eq (reads : List Read) (w : World) :
    recvEnvelope rt reads w = unchanged (reply rt reads) w := by
  induction reads with
  | nil => rfl
  | cons read rest ih =>
    rw [recvEnvelope, reply]
    cases read.event with
    | silence => exact ih
    | ioError msg => rfl
    | line bytes =>
      simp only
      cases decodeLine rt bytes with
      | error e => rfl
      | ok env => rfl

section Keep

variable (env : Envelope) (token : Nat)

theorem emit_keeps (e : Event) : Keeps World.ids Fault.Lost (emit e) := fun _ => rfl

theorem setState_keeps (s : ComponentState) : Keeps World.ids Fault.Lost (setState s) :=
  fun _ => rfl

theorem fail_keeps {α : Type} {e : AegisError} (h : e.isRegistration = false) :
    Keeps World.ids Fault.Lost (fail e : Task α) :=
  Keeps.throw ⟨e, rfl, h⟩

theorem newEnvelope_keeps (t : MessageType) (c : Command) (p : Payload) :
    Keeps World.ids Fault.Lost (newEnvelope rt cfg t c p) := fun _ => rfl

theorem sendEnvelope_keeps : Keeps World.ids Fault.Lost (sendEnvelope env) := by
  intro w
  rcases sendEnvelope_cases env w with ⟨w', h, _, c⟩ | ⟨w', h, _, c⟩
  · rw [h]
    simp only [World.ids, c]
  · rw [h]
    exact ⟨by simp only [World.ids, c], writeError, rfl, rfl⟩

theorem sendStateUpdate_keeps (s : ComponentState) (message : Option String) :
    Keeps World.ids Fault.Lost (sendStateUpdate rt cfg s message) :=
  (newEnvelope_keeps rt cfg _ _ _).bind fun _ =>
    (sendEnvelope_keeps _).bind fun _ => setState_keeps s

theorem sendError_keeps (code message : String) (recoverable : Bool) :
    Keeps World.ids Fault.Lost (sendError rt cfg code message recoverable) :=
  (newEnvelope_keeps rt cfg _ _ _).bind fun _ => sendEnvelope_keeps _

theorem sendAck_keeps (id : String) : Keeps World.ids Fault.Lost (sendAck rt cfg id) :=
  (newEnvelope_keeps rt cfg _ _ _).bind fun _ => sendEnvelope_keeps _

theorem get_keeps : Keeps World.ids Fault.Lost (get : Task World) := fun _ => rfl

theorem handleHeartbeat_keeps : Keeps World.ids Fault.Lost (handleHeartbeat rt cfg env) := by
  unfold handleHeartbeat
  split
  · exact Keeps.pure ()
  · exact (emit_keeps _).bind fun _ => get_keeps.bind fun _ =>
      (newEnvelope_keeps rt cfg _ _ _).bind fun _ => sendEnvelope_keeps _

theorem handleConfig_keeps (answer : Except AegisError Unit) :
    Keeps World.ids Fault.Lost (handleConfig rt cfg env answer token) := by
  unfold handleConfig
  split
  · exact Keeps.pure ()
  · refine (emit_keeps _).bind fun _ => ?_
    cases answer with
    | error e => exact sendError_keeps rt cfg _ _ _
    | ok u =>
      exact (sendAck_keeps rt cfg _).bind fun _ => (sendStateUpdate_keeps rt cfg _ _).bind fun _ =>
        (sendStateUpdate_keeps rt cfg _ _).bind fun _ => emit_keeps _

theorem gracefulShutdown_keeps : Keeps World.ids Fault.Lost gracefulShutdown :=
  (emit_keeps _).bind fun _ => setState_keeps _

theorem handleLifecycle_keeps :
    Keeps World.ids Fault.Lost (handleLifecycle rt cfg env token) := by
  unfold handleLifecycle
  split
  · exact (emit_keeps _).bind fun _ => (sendAck_keeps rt cfg _).bind fun _ => Keeps.pure _
  · exact (emit_keeps _).bind fun _ => (sendAck_keeps rt cfg _).bind fun _ =>
      gracefulShutdown_keeps.bind fun _ => Keeps.pure _
  · exact Keeps.pure _
  · exact Keeps.pure _

theorem handleErrorMsg_keeps : Keeps World.ids Fault.Lost (handleErrorMsg env) :=
  (emit_keeps _).bind fun _ => Keeps.pure _

theorem dispatch_keeps (answer : Except AegisError Unit) :
    Keeps World.ids Fault.Lost (dispatch rt cfg env answer token) := by
  unfold dispatch
  split
  · exact (handleHeartbeat_keeps rt cfg env).bind fun _ => Keeps.pure _
  · exact (handleConfig_keeps rt cfg env token answer).bind fun _ => Keeps.pure _
  · exact handleLifecycle_keeps rt cfg env token
  · refine (handleErrorMsg_keeps env).bind fun fatal => ?_
    cases fatal with
    | true => exact fail_keeps rfl
    | false => exact Keeps.pure _
  · exact Keeps.pure _
  · exact Keeps.pure _

theorem recvWithin_keeps (event : ReadEvent) :
    Keeps World.ids Fault.Lost (recvWithin rt event) := by
  unfold recvWithin
  split
  · exact fail_keeps rfl
  · exact fail_keeps rfl
  · split
    · rename_i hdecode
      exact fail_keeps (decodeLine_lost rt hdecode)
    · exact Keeps.pure _

theorem awaitMessage_keeps : Keeps World.ids Fault.Lost awaitMessage :=
  get_keeps.bind fun _ => emit_keeps _

theorem messageLoop_keeps (reads : List Read) :
    Keeps World.ids Fault.Lost (messageLoop rt cfg token reads) := by
  induction reads with
  | nil => exact awaitMessage_keeps.bind fun _ => fail_keeps rfl
  | cons read rest ih =>
    rw [messageLoop]
    refine awaitMessage_keeps.bind fun _ => (recvWithin_keeps rt _).bind fun env =>
      (emit_keeps _).bind fun _ => (dispatch_keeps rt cfg env token _).bind fun outcome => ?_
    cases outcome with
    | «continue» => exact ih
    | stop => exact Keeps.pure _

end Keep

/-- The id that the next REGISTER carries, if it is not empty. -/
def registerId (c : Component) : String :=
  if c.componentId.isEmpty then rt.envComponentId else c.componentId

def idFrom (value : Json) : String := value.asStr.getD ""

/-- The component that `register` makes of the two ids of a REGISTERED payload. -/
def identified (componentId sessionId : Json) (s : ComponentState) : Component where
  componentId := idFrom componentId
  sessionId := idFrom sessionId
  state := s

def Registers (reads : List Read) (componentId sessionId : Json) (rest : List Read) : Prop :=
  ∃ env, reply rt reads = .ok (env, rest) ∧ env.command = .registered ∧
    env.payload.get "component_id" = some componentId ∧
    env.payload.get "session_id" = some sessionId

/-- The course of `register` on a component `c` by the reply that the reads have in store. -/
inductive Registration (reads : List Read) (c : Component) :
    List Event → Component → Except Fault (List Read) → Prop
  | lost (r : Stamp) :
      Registration reads c [.writeFailed (registerLine cfg r (registerId rt c))] c
        (.error (.error writeError))
  | unanswered (r : Stamp) {e : AegisError} : reply rt reads = .error e →
      Registration reads c [.write (registerLine cfg r (registerId rt c))] c
        (.error (.error e))
  | rejected (r : Stamp) {env : Envelope} {rest : List Read} :
      reply rt reads = .ok (env, rest) → env.command ≠ .registered →
      Registration reads c [.write (registerLine cfg r (registerId rt c))] c
        (.error (.error (.registration ("unexpected response: " ++ env.command.debug))))
  | noComponentId (r : Stamp) {env : Envelope} {rest : List Read} :
      reply rt reads = .ok (env, rest) → env.command = .registered →
      env.payload.get "component_id" = none →
      Registration reads c [.write (registerLine cfg r (registerId rt c))] c
        (.error (.panic "component_id"))
  | noSessionId (r : Stamp) {env : Envelope} {rest : List Read} {a : Json} :
      reply rt reads = .ok (env, rest) → env.command = .registered →
      env.payload.get "component_id" = some a → env.payload.get "session_id" = none →
      Registration reads c [.write (registerLine cfg r (registerId rt c))]
        { c with componentId := idFrom a } (.error (.panic "session_id"))
  | initializingLost (r i : Stamp) {a b : Json} {rest : List Read} :
      Registers rt reads a b rest →
      Registration reads c [.write (registerLine cfg r (registerId rt c)),
        .writeFailed (stateLine cfg i .initializing)] (identified a b .registered)
        (.error (.error writeError))
  | readyLost (r i d : Stamp) {a b : Json} {rest : List Read} : Registers rt reads a b rest →
      Registration reads c [.write (registerLine cfg r (registerId rt c)),
        .write (stateLine cfg i .initializing), .writeFailed (stateLine cfg d .ready)]
        (identified a b .initializing) (.error (.error writeError))
  | ready (r i d : Stamp) {a b : Json} {rest : List Read} : Registers rt reads a b rest →
      Registration reads c [.write (registerLine cfg r (registerId rt c)),
        .write (stateLine cfg i .initializing), .write (stateLine cfg d .ready)]
        (identified a b .ready) (.ok rest)

theorem sendStateUpdate_changes (s : ComponentState) (w : World) :
    ∃ stamp, (∃ w', sendStateUpdate rt cfg s none w = .ok () w' ∧
        Leads w w' [.write (stateLine cfg stamp s)] ∧
        w'.component = { w.component with state := s }) ∨
      (∃ w', sendStateUpdate rt cfg s none w = .error (.error writeError) w' ∧
        Leads w w' [.writeFailed (stateLine cfg stamp s)] ∧ w'.component = w.component) := by
  obtain ⟨stamp, ⟨w', h, l, c⟩ | lost⟩ := sendStateUpdate_cases rt cfg s w
  · refine ⟨stamp, .inl ⟨w', h, l, ?_⟩⟩
    have kept := (sendStateUpdate_keeps rt cfg s none).ok h
    obtain ⟨hid, hsession⟩ := Prod.mk.inj kept
    have fields : w'.component =
        ⟨w'.component.componentId, w'.component.sessionId, w'.component.state⟩ := rfl
    rw [fields, hid, hsession, c]
  · exact ⟨stamp, .inr lost⟩

def World.identify (w : World) (a b : Json) : World :=
  { w with component := identified a b .registered }

theorem storeIdentity_ok {payload : Payload} {a b : Json}
    (ha : payload.get "component_id" = some a) (hb : payload.get "session_id" = some b)
    (w : World) : storeIdentity payload w = .ok () (w.identify a b) := by
  unfold storeIdentity indexPayload
  rw [ha, hb]
  rfl

theorem storeIdentity_noComponentId {payload : Payload}
    (ha : payload.get "component_id" = none) (w : World) :
    storeIdentity payload w = .error (.panic "component_id") w := by
  unfold storeIdentity indexPayload
  rw [ha]
  rfl

theorem storeIdentity_noSessionId {payload : Payload} {a : Json}
    (ha : payload.get "component_id" = some a) (hb : payload.get "session_id" = none)
    (w : World) :
    storeIdentity payload w = .error (.panic "session_id")
      { w with component := { w.component with componentId := idFrom a } } := by
  unfold storeIdentity indexPayload
  rw [ha, hb]
  rfl

def registerResult : Except Fault (List Read) → World → EStateM.Result Fault World (List Read)
  | .ok rest, w => .ok rest w
  | .error f, w => .error f w

theorem settle_course (reads rest : List Read) (c : Component) (r : Stamp) {a b : Json}
    (hr : Registers rt reads a b rest) (w : World) (hw : w.component = identified a b .registered) :
    ∃ es w' res, (do
        sendStateUpdate rt cfg .initializing none
        sendStateUpdate rt cfg .ready none
        return rest : Task (List Read)) w = registerResult res w' ∧ Leads w w' es ∧
      Registration rt cfg reads c (.write (registerLine cfg r (registerId rt c)) :: es)
        w'.component res := by
  obtain ⟨i, ⟨w₁, h₁, l₁, c₁⟩ | ⟨w₁, h₁, l₁, c₁⟩⟩ :=
    sendStateUpdate_changes rt cfg .initializing w
  case inr =>
    refine ⟨_, w₁, .error (.error writeError), bind_error h₁, l₁, ?_⟩
    rw [c₁, hw]
    exact .initializingLost r i hr
  obtain ⟨d, ⟨w₂, h₂, l₂, c₂⟩ | ⟨w₂, h₂, l₂, c₂⟩⟩ := sendStateUpdate_changes rt cfg .ready w₁
  case inr =>
    refine ⟨_, w₂, .error (.error writeError), (bind_ok h₁).trans (bind_error h₂),
      l₁.trans l₂, ?_⟩
    rw [c₂, c₁, hw]
    exact .readyLost r i d hr
  refine ⟨_, w₂, .ok rest, (bind_ok h₁).trans (bind_ok h₂), l₁.trans l₂, ?_⟩
  rw [c₂, c₁, hw]
  exact .ready r i d hr

theorem register_course (reads : List Read) (w : World) :
    ∃ es w' res, register rt cfg reads w = registerResult res w' ∧ Leads w w' es ∧
      Registration rt cfg reads w.component es w'.component res := by
  let id := registerId rt w.component
  have split : register rt cfg reads w =
      ((newEnvelope rt cfg .lifecycle .register (registerPayload cfg id) >>=
        fun env => sendEnvelope env) >>= fun _ =>
          recvEnvelope rt reads >>= answered rt cfg) w := by
    rw [bind_assoc]
    rfl
  rw [split]
  rcases newLine_cases rt cfg .lifecycle .register (registerPayload cfg id) (fun env => env) w with
    ⟨w₁, h₁, l₁, c₁⟩ | ⟨w₁, h₁, l₁, c₁⟩
  case inr =>
    refine ⟨_, w₁, .error (.error writeError), bind_error h₁, l₁, ?_⟩
    rw [c₁]
    exact .lost (rt.stamp w.created)
  rw [bind_ok h₁]
  have received := recvEnvelope_eq rt reads w₁
  cases hreply : reply rt reads with
  | error e =>
    rw [hreply] at received
    refine ⟨_, w₁, .error (.error e), bind_error received, l₁, ?_⟩
    rw [c₁]
    exact .unanswered (rt.stamp w.created) hreply
  | ok answer =>
    obtain ⟨env, rest⟩ := answer
    rw [hreply] at received
    rw [bind_ok received]
    by_cases hc : env.command = .registered
    case neg =>
      rw [answered, if_pos (show env.command ≠ .registered from hc)]
      refine ⟨_, w₁, .error (.error (.registration _)), rfl, l₁, ?_⟩
      rw [c₁]
      exact .rejected (rt.stamp w.created) hreply hc
    rw [answered, if_neg (show ¬ env.command ≠ .registered from not_not_intro hc)]
    cases ha : env.payload.get "component_id" with
    | none =>
      refine ⟨_, w₁, .error (.panic "component_id"),
        bind_error (storeIdentity_noComponentId ha w₁), l₁, ?_⟩
      rw [c₁]
      exact .noComponentId (rt.stamp w.created) hreply hc ha
    | some a =>
      cases hb : env.payload.get "session_id" with
      | none =>
        refine ⟨_, { w₁ with component := { w₁.component with componentId := idFrom a } },
          .error (.panic "session_id"),
          bind_error (storeIdentity_noSessionId ha hb w₁), l₁.trans (Leads.component w₁ _ _), ?_⟩
        simp only [List.append_nil]
        rw [c₁]
        exact .noSessionId (rt.stamp w.created) hreply hc ha hb
      | some b =>
        obtain ⟨es, w₂, res, h₂, l₂, registration⟩ := settle_course rt cfg reads rest w.component
          (rt.stamp w.created) ⟨env, hreply, hc, ha, hb⟩ (w₁.identify a b) rfl
        exact ⟨_, w₂, res, (bind_ok (storeIdentity_ok ha hb w₁)).trans h₂,
          l₁.trans ((Leads.component w₁ _ _).trans l₂), registration⟩

end AegisSdk.Rust
