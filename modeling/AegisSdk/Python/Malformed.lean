import AegisSdk.Python.Course

/-!
Which lines a component survives. The handlers look keys up in what the daemon has sent; where
one is missing or a value is no dictionary, the exception is none that `_message_loop` or `run`
catches.
-/

set_option autoImplicit false
set_option relaxedAutoImplicit false

namespace AegisSdk.Python

open AegisSdk.Protocol AegisSdk.Library

def isDict : Json → Bool
  | .obj _ => true
  | _ => false

def payloadIsDict (envelope : Json) : Bool :=
  match dictGet envelope "payload" (.obj []) with
  | .ok payload => isDict payload
  | .error _ => false

def payloadHasKey (envelope : Json) (key : String) : Bool :=
  match dictItem envelope "payload" with
  | .ok payload => hasKey payload key
  | .error _ => false

/-- An answer to REGISTER that is an error has a readable payload, and one that is a REGISTERED has
both ids. -/
def answerReadable (response : Json) : Bool :=
  isDict response &&
    if keyIs response "type" MessageType.error.value then payloadIsDict response
    else if keyIs response "command" Command.registered.value then
      payloadHasKey response "component_id" && payloadHasKey response "session_id"
    else true

def messageReadable (envelope : Json) : Bool :=
  isDict envelope &&
    if keyIs envelope "type" MessageType.heartbeat.value then
      hasKey envelope "command" &&
        (!keyIs envelope "command" Command.ping.value || hasKey envelope "message_id")
    else if keyIs envelope "type" MessageType.config.value then
      hasKey envelope "command" &&
        (!keyIs envelope "command" Command.configure.value ||
          (payloadIsDict envelope && hasKey envelope "message_id"))
    else if keyIs envelope "type" MessageType.lifecycle.value then
      !keyIs envelope "command" Command.shutdown.value || hasKey envelope "message_id"
    else if keyIs envelope "type" MessageType.control.value then
      !keyIs envelope "command" Command.nack.value || payloadIsDict envelope
    else if keyIs envelope "type" MessageType.error.value then payloadIsDict envelope
    else true

def Exn.escapes : Exn → Bool
  | .osError | .registrationError _ => false
  | _ => true

def Event.malformed : Event → Bool
  | .recv _ (.error exn) => exn.escapes
  | .recv .register (.ok response) => !answerReadable response
  | .recv .ready (.ok ack) => !isDict ack
  | .recv .loop (.ok envelope) => !messageReadable envelope
  | _ => false

def rejects (response : Json) : Bool :=
  keyIs response "type" MessageType.error.value ||
    !keyIs response "command" Command.registered.value

/-- The run goes on, or it has ended with a registration that was rejected. -/
inductive Survives (trace : List Event) : Option Outcome → Prop
  | goesOn : Survives trace none
  | rejected {pre post : List Event} {response : Json} {cause : Rejection} :
      trace = pre ++ .recv .register (.ok response) :: post → rejects response = true →
      (∀ e ∈ post, e.tail = true) → Survives trace (some (.registrationFailed cause))

/-- Whatever the state is, the task ends with an exception that escapes, if `bad`, and otherwise
at most with an `OSError`. -/
def Raises {α : Type} (bad : Bool) (x : Task α) : Prop :=
  ∀ w, match x w with
    | .ok _ _ => bad = false
    | .error exn _ => if bad then exn.escapes = true else exn = .osError

section Handlers

variable {rt : Runtime} {cfg : Config} {α β : Type} {bad : Bool}

theorem Raises.pure (a : α) : Raises false (Pure.pure a : Task α) := fun _ => rfl

theorem raises_raise {exn : Exn} (h : exn.escapes = true) : Raises true (raise exn : Task α) :=
  fun _ => h

theorem Raises.bind {x : Task α} {f : α → Task β} (hx : Raises false x)
    (hf : ∀ a, Raises false (f a)) : Raises false (x >>= f) := by
  intro w
  have h := hx w
  cases heq : x w with
  | ok a w' =>
    rw [bind_ok heq]
    exact hf a w'
  | error exn w' =>
    rw [heq] at h
    rw [bind_error heq]
    exact h

theorem Raises.after {x : Task α} {f : α → Task β} (hx : ∀ w, ∃ a w', x w = .ok a w')
    (hf : ∀ a, Raises bad (f a)) : Raises bad (x >>= f) := by
  intro w
  obtain ⟨a, w', hok⟩ := hx w
  rw [bind_ok hok]
  exact hf a w'

theorem raises_lookup_ok {x : Except Exn α} {a : α} {f : α → Task β} (hx : x = .ok a)
    (hf : Raises bad (f a)) : Raises bad (ofExcept x >>= f) := by
  subst hx
  exact hf

theorem raises_lookup_error {x : Except Exn α} {exn : Exn} {f : α → Task β}
    (hx : x = .error exn) (hexn : exn.escapes = true) : Raises true (ofExcept x >>= f) := by
  subst hx
  exact fun _ => hexn

theorem emit_total (e : Event) (w : World) : ∃ a w', emit e w = .ok a w' := ⟨_, _, rfl⟩

theorem modify_total (f : World → World) (w : World) :
    ∃ a w', (modify f : Task Unit) w = .ok a w' := ⟨_, _, rfl⟩

theorem get_total (w : World) : ∃ a w', (get : Task World) w = .ok a w' := ⟨_, _, rfl⟩

theorem create_total (t : MessageType) (c : Command) (payload id : Json) (w : World) :
    ∃ a w', create rt cfg t c payload id w = .ok a w' := ⟨_, _, rfl⟩

theorem raises_emit (e : Event) : Raises false (emit e) := fun _ => rfl

theorem raises_stopRunning : Raises false stopRunning := fun _ => rfl

theorem raises_setState (s : ComponentState) : Raises false (setState s) := fun _ => rfl

theorem raises_send (envelope : Json) : Raises false (send envelope) := by
  intro w
  obtain ⟨w', -, ⟨hok, -⟩ | ⟨herr, -⟩⟩ := send_cases envelope w
  · rw [hok]
  · rw [herr]
    rfl

theorem raises_sendStateUpdate (s : ComponentState) :
    Raises false (sendStateUpdate rt cfg s) :=
  Raises.after (create_total _ _ _ _) fun _ => (raises_send _).bind fun _ => raises_setState s

theorem raises_sendAck (id : Json) : Raises false (sendAck rt cfg id) :=
  Raises.after (create_total _ _ _ _) fun _ => raises_send _

theorem keyIs_of_get {envelope v : Json} {key s : String}
    (h : dictGet envelope key .null = .ok v) : keyIs envelope key s = equals v s := by
  simp only [keyIs, h]

theorem dictGet_of_item {envelope v default : Json} {key : String}
    (h : dictItem envelope key = .ok v) : dictGet envelope key default = .ok v := by
  cases envelope with
  | obj members =>
    cases hget : Payload.get members key with
    | none => simp [dictItem, hget] at h
    | some v' =>
      simp only [dictItem, hget] at h
      simp only [dictGet, hget, Option.getD_some, h]
  | _ => cases h

theorem keyIs_of_item {envelope v : Json} {key s : String} (h : dictItem envelope key = .ok v) :
    keyIs envelope key s = equals v s :=
  keyIs_of_get (dictGet_of_item h)

theorem dictItem_error {value : Json} {key : String} {exn : Exn}
    (h : dictItem value key = .error exn) : exn.escapes = true := by
  unfold dictItem at h
  split at h
  · split at h <;> cases h
    rfl
  · cases h
    rfl

theorem dictItem_cases (value : Json) (key : String) :
    (∃ v, dictItem value key = .ok v ∧ hasKey value key = true) ∨
    ∃ exn, dictItem value key = .error exn ∧ exn.escapes = true ∧ hasKey value key = false := by
  unfold hasKey
  cases h : dictItem value key with
  | ok v => exact .inl ⟨v, rfl, rfl⟩
  | error exn => exact .inr ⟨exn, rfl, dictItem_error h, rfl⟩

theorem dictGet_cases (value default : Json) (key : String) :
    (∃ v, dictGet value key default = .ok v ∧ isDict value = true) ∨
    (dictGet value key default = .error .attributeError ∧ isDict value = false) := by
  cases value with
  | obj members => exact .inl ⟨_, rfl, rfl⟩
  | _ => exact .inr ⟨rfl, rfl⟩

theorem dictGet_of_isDict {value : Json} (h : isDict value = true) (key : String)
    (default : Json) : ∃ v, dictGet value key default = .ok v := by
  rcases dictGet_cases value default key with ⟨v, hv, -⟩ | ⟨-, hno⟩
  · exact ⟨v, hv⟩
  · cases h.symm.trans hno

theorem payload_cases {envelope : Json} (h : isDict envelope = true) :
    ∃ payload, dictGet envelope "payload" (.obj []) = .ok payload ∧
      payloadIsDict envelope = isDict payload := by
  obtain ⟨payload, hpayload⟩ := dictGet_of_isDict h "payload" (.obj [])
  refine ⟨payload, hpayload, ?_⟩
  simp only [payloadIsDict, hpayload]

theorem raises_handleHeartbeat (envelope : Json) :
    Raises (!(hasKey envelope "command" &&
      (!keyIs envelope "command" Command.ping.value || hasKey envelope "message_id")))
      (handleHeartbeat rt cfg envelope) := by
  unfold handleHeartbeat
  rcases dictItem_cases envelope "command" with ⟨c, hc, hkey⟩ | ⟨exn, hexn, hescapes, hkey⟩
  · apply raises_lookup_ok hc
    rw [hkey, keyIs_of_item hc]
    cases hping : equals c Command.ping.value with
    | false => exact Raises.pure ()
    | true =>
      refine Raises.after (emit_total _) fun _ => Raises.after get_total fun w => ?_
      rcases dictItem_cases envelope "message_id" with ⟨id, hid, hhas⟩ | ⟨exn, hexn, hescapes, hhas⟩
      · rw [hhas]
        exact raises_lookup_ok hid (Raises.after (create_total _ _ _ _) fun _ => raises_send _)
      · rw [hhas]
        exact raises_lookup_error hexn hescapes
  · rw [hkey]
    exact raises_lookup_error hexn hescapes

theorem raises_handleConfig {envelope : Json} (h : isDict envelope = true) :
    Raises (!(hasKey envelope "command" &&
      (!keyIs envelope "command" Command.configure.value ||
        (payloadIsDict envelope && hasKey envelope "message_id"))))
      (handleConfig rt cfg envelope) := by
  unfold handleConfig
  rcases dictItem_cases envelope "command" with ⟨c, hc, hkey⟩ | ⟨exn, hexn, hescapes, hkey⟩
  case inr =>
    rw [hkey]
    exact raises_lookup_error hexn hescapes
  apply raises_lookup_ok hc
  rw [hkey, keyIs_of_item hc]
  cases equals c Command.configure.value with
  | false => exact Raises.pure ()
  | true =>
    obtain ⟨payload, hpayload, hread⟩ := payload_cases h
    rw [hread]
    cases hdict : isDict payload with
    | false =>
      have hconf : configuration envelope = .error .attributeError := by
        rcases dictGet_cases payload (.str "") "data_stream_socket" with ⟨_, -, hyes⟩ | ⟨herr, -⟩
        · cases hdict.symm.trans hyes
        · simp [configuration, hpayload, herr, Bind.bind, Except.bind]
      exact raises_lookup_error hconf rfl
    | true =>
      obtain ⟨sock, hsock⟩ := dictGet_of_isDict hdict "data_stream_socket" (.str "")
      obtain ⟨topics, htopics⟩ := dictGet_of_isDict hdict "topics" (.arr [])
      rcases dictItem_cases envelope "message_id" with ⟨id, hid, hhas⟩ | ⟨exn, hexn, hescapes, hhas⟩
      · have hconf : configuration envelope = .ok (sock, topics, id) := by
          simp [configuration, hpayload, hsock, htopics, hid, Bind.bind, Except.bind, Pure.pure,
            Except.pure]
        rw [hhas]
        apply raises_lookup_ok hconf
        exact (raises_sendAck _).bind fun _ => (raises_sendStateUpdate _).bind fun _ =>
          (raises_emit _).bind fun _ => (raises_sendStateUpdate _).bind fun _ => raises_emit _
      · have hconf : configuration envelope = .error exn := by
          simp [configuration, hpayload, hsock, htopics, hexn, Bind.bind, Except.bind]
        rw [hhas]
        exact raises_lookup_error hconf hescapes

theorem raises_handleLifecycle {envelope : Json} (h : isDict envelope = true) :
    Raises (!(!keyIs envelope "command" Command.shutdown.value || hasKey envelope "message_id"))
      (handleLifecycle rt cfg envelope) := by
  obtain ⟨c, hc⟩ := dictGet_of_isDict h "command" .null
  unfold handleLifecycle
  apply raises_lookup_ok hc
  rw [keyIs_of_get hc]
  cases equals c Command.shutdown.value with
  | false => exact Raises.pure ()
  | true =>
    rcases dictItem_cases envelope "message_id" with ⟨id, hid, hhas⟩ | ⟨exn, hexn, hescapes, hhas⟩
    · rw [hhas]
      exact raises_lookup_ok hid ((raises_sendAck id).bind fun _ => raises_stopRunning)
    · rw [hhas]
      exact raises_lookup_error hexn hescapes

theorem raises_handleControl {envelope : Json} (h : isDict envelope = true) :
    Raises (!(!keyIs envelope "command" Command.nack.value || payloadIsDict envelope))
      (handleControl envelope) := by
  obtain ⟨c, hc⟩ := dictGet_of_isDict h "command" .null
  unfold handleControl
  apply raises_lookup_ok hc
  rw [keyIs_of_get hc]
  cases hack : equals c Command.ack.value with
  | true =>
    obtain rfl := equals_iff.mp hack
    exact Raises.pure ()
  | false =>
    cases equals c Command.nack.value with
    | false => exact Raises.pure ()
    | true =>
      obtain ⟨payload, hpayload, hread⟩ := payload_cases h
      rw [hread]
      apply raises_lookup_ok hpayload
      rcases dictGet_cases payload (.str "unknown") "message" with ⟨_, hv, hdict⟩ | ⟨herr, hdict⟩
      · rw [hdict]
        exact raises_lookup_ok hv raises_stopRunning
      · rw [hdict]
        exact raises_lookup_error herr rfl

theorem raises_handleErrorMsg {envelope : Json} (h : isDict envelope = true) :
    Raises (!payloadIsDict envelope) (handleErrorMsg rt envelope) := by
  obtain ⟨payload, hpayload, hread⟩ := payload_cases h
  unfold handleErrorMsg
  apply raises_lookup_ok hpayload
  rw [hread]
  cases hdict : isDict payload with
  | false =>
    rcases dictGet_cases payload (.str "UNKNOWN") "code" with ⟨_, -, hyes⟩ | ⟨herr, -⟩
    · cases hdict.symm.trans hyes
    · exact raises_lookup_error herr rfl
  | true =>
    obtain ⟨code, hcode⟩ := dictGet_of_isDict hdict "code" (.str "UNKNOWN")
    obtain ⟨message, hmessage⟩ := dictGet_of_isDict hdict "message" (.str "")
    obtain ⟨recoverable, hrecoverable⟩ := dictGet_of_isDict hdict "recoverable" (.bool false)
    apply raises_lookup_ok hcode
    apply raises_lookup_ok hmessage
    refine Raises.after (emit_total _) fun _ => raises_lookup_ok hrecoverable ?_
    cases truthy rt.zero recoverable with
    | true => exact Raises.pure ()
    | false => exact raises_stopRunning

/-- What the loop does with a message fails exactly if the message cannot be read. -/
theorem raises_process (envelope : Json) :
    Raises (!messageReadable envelope) (process rt cfg envelope) := by
  unfold process
  rcases dictGet_cases envelope .null "type" with ⟨t, ht, hdict⟩ | ⟨herr, hdict⟩
  case inr =>
    rw [messageReadable, hdict]
    exact raises_lookup_error herr rfl
  obtain ⟨c, hc⟩ := dictGet_of_isDict hdict "command" .null
  apply raises_lookup_ok ht
  apply raises_lookup_ok hc
  refine Raises.after (emit_total _) fun _ => ?_
  simp only [messageReadable, hdict, Bool.true_and, keyIs_of_get ht, handle]
  by_cases h₁ : equals t MessageType.heartbeat.value = true
  · rw [if_pos h₁, if_pos h₁]
    exact raises_handleHeartbeat envelope
  rw [if_neg h₁, if_neg h₁]
  by_cases h₂ : equals t MessageType.config.value = true
  · rw [if_pos h₂, if_pos h₂]
    exact raises_handleConfig hdict
  rw [if_neg h₂, if_neg h₂]
  by_cases h₃ : equals t MessageType.lifecycle.value = true
  · rw [if_pos h₃, if_pos h₃]
    exact raises_handleLifecycle hdict
  rw [if_neg h₃, if_neg h₃]
  by_cases h₄ : equals t MessageType.control.value = true
  · rw [if_pos h₄, if_pos h₄]
    exact raises_handleControl hdict
  rw [if_neg h₄, if_neg h₄]
  by_cases h₅ : equals t MessageType.error.value = true
  · rw [if_pos h₅, if_pos h₅]
    exact raises_handleErrorMsg hdict
  rw [if_neg h₅, if_neg h₅]
  exact Raises.pure ()

theorem payloadHasKey_of_item {envelope payload : Json} {key : String}
    (h : dictItem envelope "payload" = .ok payload) :
    payloadHasKey envelope key = hasKey payload key := by
  simp only [payloadHasKey, h]

theorem raises_storeIdentity (payload : Json) :
    Raises (!(hasKey payload "component_id" && hasKey payload "session_id"))
      (storeIdentity payload) := by
  unfold storeIdentity
  rcases dictItem_cases payload "component_id" with ⟨id, hid, hhas⟩ | ⟨exn, hexn, hescapes, hhas⟩
  case inr =>
    rw [hhas]
    exact raises_lookup_error hexn hescapes
  rw [hhas]
  apply raises_lookup_ok hid
  refine Raises.after (modify_total _) fun _ => ?_
  rcases dictItem_cases payload "session_id" with ⟨id, hid, hhas⟩ | ⟨exn, hexn, hescapes, hhas⟩
  · rw [hhas]
    exact raises_lookup_ok hid (Raises.after (modify_total _) fun _ => raises_setState _)
  · rw [hhas]
    exact raises_lookup_error hexn hescapes

theorem accept_cases (response : Json) :
    (rejects response = true ∧ answerReadable response = true ∧
      ∃ cause, accept response = raise (.registrationError cause)) ∨
    Raises (!answerReadable response) (accept response) := by
  rcases dictGet_cases response .null "type" with ⟨t, ht, hdict⟩ | ⟨herr, hdict⟩
  case inr =>
    right
    rw [answerReadable, hdict]
    exact raises_lookup_error herr rfl
  simp only [answerReadable, rejects, hdict, Bool.true_and, keyIs_of_get ht]
  cases herror : equals t MessageType.error.value with
  | true =>
    obtain ⟨payload, hpayload, hisDict⟩ := payload_cases hdict
    rw [if_pos rfl, hisDict]
    rcases dictGet_cases payload payload "reason" with ⟨reason, hreason, hyes⟩ | ⟨hfail, hno⟩
    · refine .inl ⟨rfl, hyes, .server reason, ?_⟩
      simp [accept, ht, hpayload, hreason, herror, ofExcept]
    · right
      rw [hno]
      apply raises_lookup_ok ht
      rw [if_pos herror]
      exact raises_lookup_ok hpayload (raises_lookup_error hfail rfl)
  | false =>
    obtain ⟨c, hc⟩ := dictGet_of_isDict hdict "command" .null
    rw [if_neg Bool.false_ne_true, keyIs_of_get hc, Bool.false_or]
    cases hregistered : equals c Command.registered.value with
    | false =>
      refine .inl ⟨rfl, rfl, .unexpected response, ?_⟩
      simp [accept, ht, hc, herror, hregistered, ofExcept]
    | true =>
      right
      rw [if_pos rfl]
      apply raises_lookup_ok ht
      rw [if_neg (Bool.eq_false_iff.mp herror)]
      apply raises_lookup_ok hc
      rw [hregistered]
      cases hitem : dictItem response "payload" with
      | error exn =>
        have hnone : payloadHasKey response "component_id" = false := by
          simp only [payloadHasKey, hitem]
        rw [hnone]
        exact raises_lookup_error rfl (dictItem_error hitem)
      | ok payload =>
        rw [payloadHasKey_of_item hitem, payloadHasKey_of_item hitem]
        exact raises_lookup_ok rfl (raises_storeIdentity payload)

end Handlers

def Spoilt (bad : Bool) (w : World) : Prop := w.trace.any Event.malformed = bad

/-- An exception escapes exactly if a malformed line has been read, and a registration fails by an
answer that rejects the component. -/
structure Judged (exn : Exn) (w : World) : Prop where
  spoilt : Spoilt exn.escapes w
  rejected : ∀ cause, exn = .registrationError cause → ∃ pre response,
    w.trace = pre ++ [.recv .register (.ok response)] ∧ rejects response = true

def Event.sound (e : Event) : Bool := !e.malformed

theorem sound_of_inner {e : Event} (h : e.inner = true) : e.sound = true := by
  cases e <;> first | rfl | cases h

theorem sound_of_tail {e : Event} (h : e.tail = true) : e.sound = true := by
  cases e <;> first | rfl | cases h

theorem any_malformed_append {xs es : List Event} (h : ∀ e ∈ es, e.sound = true) :
    (xs ++ es).any Event.malformed = xs.any Event.malformed := by
  have hnone : es.any Event.malformed = false := by
    rw [List.any_eq_false]
    intro e he
    have hsound := h e he
    simpa [Event.sound] using hsound
  rw [List.any_append, hnone, Bool.or_false]

section Run

variable {rt : Runtime} {cfg : Config} {α : Type} {bad : Bool}

theorem Records.spoilt {w w' : World} {es : List Event} (h : Records Event.sound w es w')
    (hw : Spoilt bad w) : Spoilt bad w' := by
  unfold Spoilt
  rw [h.trace, any_malformed_append h.kinds]
  exact hw

theorem judged_osError {w : World} (hw : Spoilt false w) : Judged .osError w :=
  ⟨hw, fun _ h => by cases h⟩

theorem judged_of_escapes {exn : Exn} (h : exn.escapes = true) {w : World} (hw : Spoilt true w) :
    Judged exn w := by
  refine ⟨h ▸ hw, ?_⟩
  rintro cause rfl
  cases h

theorem triple_of_raises {x : Task α} (hrec : (records Event.sound).Of x) (hx : Raises bad x) :
    Triple (Spoilt bad) x (fun _ => Spoilt false) Judged := by
  intro w hw
  have hend := hx w
  cases heq : x w with
  | ok a w' =>
    rw [heq] at hend
    obtain ⟨es, hes⟩ := hrec.ok heq
    subst hend
    exact hes.spoilt hw
  | error exn w' =>
    rw [heq] at hend
    obtain ⟨es, hes⟩ := hrec.error heq
    have hw' := hes.spoilt hw
    cases bad with
    | false =>
      obtain rfl : exn = .osError := hend
      exact judged_osError hw'
    | true => exact judged_of_escapes hend hw'

theorem recv_error {read : Read} {exn : Exn} (h : recv rt read = .error exn) :
    exn.escapes = true ∨ exn = .osError := by
  unfold recv at h
  split at h
  · cases h
    exact .inr rfl
  · cases h
    exact .inr rfl
  · cases h
    exact .inl rfl
  · split at h <;> cases h
    exact .inl rfl

theorem judged_recv {read : Read} {exn : Exn} (h : recv rt read = .error exn) {w : World}
    (hw : Spoilt exn.escapes w) : Judged exn w := by
  rcases recv_error h with hescapes | rfl
  · rw [hescapes] at hw
    exact judged_of_escapes hescapes hw
  · exact judged_osError hw

theorem spoilt_record {w : World} (hw : Spoilt false w) (e : Event) :
    Spoilt e.malformed (w.record e) := by
  have hnone : w.trace.any Event.malformed = false := hw
  show (w.trace ++ [e]).any Event.malformed = e.malformed
  rw [List.any_append, hnone, Bool.false_or, List.any_cons, List.any_nil, Bool.or_false]

theorem await_triple (stage : Stage) (read : Read) :
    Triple (Spoilt false) (await rt stage read)
      (fun v w => Spoilt (Event.recv stage (.ok v)).malformed w ∧
        ∃ pre, w.trace = pre ++ [.recv stage (.ok v)]) Judged := by
  intro w hw
  have hnext := spoilt_record hw (.recv stage (recv rt read))
  have hawait : await rt stage read w = (ofExcept (recv rt read) : Task Json)
      (w.record (.recv stage (recv rt read))) := rfl
  rw [hawait]
  cases h : recv rt read with
  | error exn =>
    rw [h] at hnext
    have hmalformed : (Event.recv stage (.error exn)).malformed = exn.escapes := by
      cases stage <;> rfl
    rw [hmalformed] at hnext
    exact judged_recv h hnext
  | ok v =>
    rw [h] at hnext
    exact ⟨hnext, w.trace, rfl⟩

theorem accept_triple (response : Json) :
    Triple (fun w => Spoilt (!answerReadable response) w ∧
      ∃ pre, w.trace = pre ++ [.recv .register (.ok response)]) (accept response)
      (fun _ => Spoilt false) Judged := by
  rintro w ⟨hw, pre, htrace⟩
  rcases accept_cases response with ⟨hrejects, hread, cause, hraise⟩ | hraises
  · rw [hraise]
    rw [hread] at hw
    exact ⟨hw, fun _ _ => ⟨pre, response, htrace, hrejects⟩⟩
  · have hrec : (records Event.sound).Of (accept response) :=
      records_widen (accept_records response) fun _ => sound_of_inner
    exact triple_of_raises hrec hraises w hw

theorem register_triple (read : Read) :
    Triple (Spoilt false) (register rt cfg read) (fun _ => Spoilt false) Judged := by
  refine Triple.bind (triple_of_raises (create_records _ _ _ _)
    fun w => rfl) fun envelope => ?_
  refine Triple.bind (triple_of_raises (records_widen (send_records envelope) fun _ => sound_of_inner)
    (raises_send envelope)) fun _ => ?_
  exact (await_triple .register read).bind accept_triple

theorem sendStateUpdate_triple (s : ComponentState) :
    Triple (Spoilt false) (sendStateUpdate rt cfg s) (fun _ => Spoilt false) Judged :=
  triple_of_raises (records_widen (sendStateUpdate_records s) fun _ => sound_of_inner)
    (raises_sendStateUpdate s)

theorem signalReady_triple (read : Read) :
    Triple (Spoilt false) (signalReady rt cfg read) (fun _ => Spoilt false) Judged := by
  refine (sendStateUpdate_triple _).bind fun _ => (await_triple .ready read).bind fun ack => ?_
  refine Triple.bind (Q := fun _ => Spoilt false) ?_ fun _ => sendStateUpdate_triple _
  rintro w ⟨hw, -⟩
  have hlookup : Raises (!isDict ack) (ofExcept (dictGet ack "command" .null)) := by
    rcases dictGet_cases ack .null "command" with ⟨c, hc, hdict⟩ | ⟨herr, hdict⟩
    · rw [hc, hdict]
      exact Raises.pure c
    · rw [herr, hdict]
      exact raises_raise rfl
  exact triple_of_raises (ofExcept_records _) hlookup w hw

theorem process_records (envelope : Json) :
    (records Event.sound).Of (process rt cfg envelope) :=
  (ofExcept_records _).bind fun t => (ofExcept_records _).bind fun _ =>
    (emit_records rfl).bind fun _ => records_widen (handle_records t envelope) fun _ => sound_of_inner

theorem gracefulShutdown_triple :
    Triple (Spoilt false) (gracefulShutdown rt cfg) (fun _ => Spoilt false) Judged := by
  apply triple_of_raises (records_widen gracefulShutdown_records fun _ => sound_of_inner)
  refine Raises.after (create_total _ _ _ _) fun envelope => Raises.after ?_ fun _ =>
    (raises_emit _).bind fun _ => raises_setState _
  intro w
  obtain ⟨w', -, ⟨hok, -⟩ | ⟨herr, -⟩⟩ := send_cases envelope w
  · exact ⟨(), w', ignore_ok hok⟩
  · exact ⟨(), w', ignore_error herr⟩

theorem emit_triple {e : Event} (h : e.sound = true) :
    Triple (Spoilt false) (emit e) (fun _ => Spoilt false) Judged :=
  triple_of_raises (emit_records h) (raises_emit e)

theorem emit_recv_triple (e : Event) :
    Triple (Spoilt false) (emit e) (fun _ => Spoilt e.malformed) Judged :=
  fun _ hw => spoilt_record hw e

theorem messageLoop_triple (reads : List Read) :
    Triple (Spoilt false) (messageLoop rt cfg reads) (fun _ => Spoilt false) Judged := by
  have look : Triple (Spoilt false) (get : Task World) (fun _ => Spoilt false) Judged :=
    triple_of_raises Journal.of_get fun _ => rfl
  induction reads with
  | nil =>
    refine look.bind fun w => ?_
    dsimp only
    split
    · exact (emit_triple rfl).bind fun _ => gracefulShutdown_triple
    · exact gracefulShutdown_triple
  | cons read rest ih =>
    refine look.bind fun w => ?_
    split
    case isFalse => exact gracefulShutdown_triple
    split
    case isTrue => exact (emit_triple rfl).bind fun _ => gracefulShutdown_triple
    refine (emit_recv_triple _).bind fun _ => ?_
    split
    case h_1 h =>
      rw [h]
      exact gracefulShutdown_triple
    case h_2 exn _ h =>
      rw [h]
      exact fun w hw => judged_recv h hw
    case h_3 envelope h =>
      rw [h]
      exact (triple_of_raises (process_records envelope) (raises_process envelope)).bind fun _ => ih

theorem connection_triple (link : Link) :
    Triple (Spoilt false) (connection rt cfg link) (fun _ => Spoilt false) Judged := by
  unfold connection
  cases link.connect with
  | false => exact (emit_triple rfl).bind fun _ w hw => judged_osError hw
  | true =>
    refine (emit_triple rfl).bind fun _ => Triple.bind (Q := fun _ => Spoilt false)
      (Triple.update fun _ hw => hw) fun _ => ?_
    exact (register_triple _).bind fun _ => (signalReady_triple _).bind fun _ =>
      Triple.bind (Q := fun _ => Spoilt false) (Triple.update fun _ hw => hw) fun _ =>
        messageLoop_triple _

theorem leave_spoilt {w : World} (h : Spoilt bad w) : Spoilt bad w.leave := by
  obtain ⟨es, htrace, htail, -⟩ := leave_records w
  unfold Spoilt
  rw [htrace, any_malformed_append fun e he => sound_of_tail (htail e he)]
  exact h

/-- How a turn ends that a malformed line has ended, or none. -/
theorem turn_judged (hreconnect : cfg.reconnect = true) (hmax : cfg.maxReconnectAttempts = 0)
    (n : Nat) (link : Link) {w : World} (hw : Spoilt false w) :
    ((turn rt cfg n link w).1 = none → Spoilt false (turn rt cfg n link w).2) ∧
    ((turn rt cfg n link w).1 ≠ none →
      (Survives (turn rt cfg n link w).2.trace (turn rt cfg n link w).1 ↔
        Spoilt false (turn rt cfg n link w).2)) := by
  have hconnection : Triple (Spoilt false) (connection rt cfg link) (fun _ => Spoilt false)
      Judged := connection_triple link
  have goes_on : ∀ w' : World, Spoilt false w' →
      turn.again cfg n w' = (none, w'.record (.sleep (n + 1))) ∧
        Spoilt false (w'.record (.sleep (n + 1))) := by
    intro w' hw'
    refine ⟨?_, spoilt_record hw' _⟩
    simp [turn.again, hreconnect, hmax]
  unfold turn
  cases h : connection rt cfg link w with
  | ok _ w' =>
    obtain ⟨hagain, hspoilt⟩ := goes_on w'.leave (leave_spoilt (hconnection.ok hw h))
    simp only [hagain]
    exact ⟨fun _ => hspoilt, fun hsome => absurd rfl hsome⟩
  | error exn w' =>
    have hjudged := hconnection.error hw h
    cases exn with
    | osError =>
      obtain ⟨hagain, hspoilt⟩ := goes_on w'.leave (leave_spoilt hjudged.spoilt)
      simp only [hagain]
      exact ⟨fun _ => hspoilt, fun hsome => absurd rfl hsome⟩
    | registrationError cause =>
      obtain ⟨pre, response, htrace, hrejects⟩ := hjudged.rejected cause rfl
      obtain ⟨es, hleave, htail, -⟩ := leave_records w'
      refine ⟨by simp, fun _ => iff_of_true ?_ (leave_spoilt hjudged.spoilt)⟩
      have hend : w'.leave.trace = pre ++ .recv .register (.ok response) :: es := by
        rw [hleave, htrace, List.append_assoc]
        rfl
      exact .rejected hend hrejects htail
    | _ =>
      refine ⟨by simp, fun _ => iff_of_false (by rintro ⟨⟩) fun hspoilt => ?_⟩
      have hbad : Spoilt true w'.leave := leave_spoilt hjudged.spoilt
      cases hbad.symm.trans hspoilt

end Run

/-- A component that may reconnect without end lets an exception through exactly if it has read a
line that does not suit the place where it is read. -/
theorem survives_iff (rt : Runtime) (cfg : Config) (links : List Link)
    (hreconnect : cfg.reconnect = true) (hmax : cfg.maxReconnectAttempts = 0) :
    Survives (run rt cfg links).2.trace (run rt cfg links).1 ↔
      (run rt cfg links).2.trace.any Event.malformed = false := by
  apply Loop.run_induction (I := fun _ w => Spoilt false w)
    (Q := fun o w => Survives w.trace o ↔ Spoilt false w)
  case hagain =>
    intro n link w hw hnone
    exact (turn_judged hreconnect hmax n link hw).1 hnone
  case hends =>
    intro n link w hw hsome
    exact (turn_judged hreconnect hmax n link hw).2 hsome
  case hwaits => exact fun _ w hw => iff_of_true .goesOn hw
  case hs => rfl

theorem survives_iff_sample :
    Survives (run Sample.runtime Sample.config [Sample.session]).2.trace
      (run Sample.runtime Sample.config [Sample.session]).1 :=
  (survives_iff Sample.runtime Sample.config [Sample.session] rfl rfl).mpr (by decide +kernel)

/-- A line that is no JSON in place of the answer to REGISTER ends the run with an exception. -/
theorem run_escapes : ¬ ∀ (rt : Runtime) (cfg : Config) (links : List Link),
    cfg.reconnect = true → cfg.maxReconnectAttempts = 0 →
      Survives (run rt cfg links).2.trace (run rt cfg links).1 := by
  intro h
  have survives := h Sample.runtime Sample.config [{ reads := [{ event := .line [10] }] }] rfl rfl
  have outcome : (run Sample.runtime Sample.config [{ reads := [{ event := .line [10] }] }]).1 =
      some (.escaped .loads) := by rfl
  rw [outcome] at survives
  cases survives

end AegisSdk.Python
