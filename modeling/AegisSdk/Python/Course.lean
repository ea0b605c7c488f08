import AegisSdk.Python.Client

/-!
What the functions of `client.py` record. The handlers write, assign the state and call hooks;
only `run` connects and closes, and only the loop looks a message up.
-/

set_option autoImplicit false
set_option relaxedAutoImplicit false

namespace AegisSdk.Python

open AegisSdk.Protocol AegisSdk.Library

def keyIs (envelope : Json) (key s : String) : Bool :=
  match dictGet envelope key .null with
  | .ok v => equals v s
  | .error _ => false

def hasKey (value : Json) (key : String) : Bool := (dictItem value key).isOk

theorem keyIs_eq_true {envelope : Json} {key s : String} (h : keyIs envelope key s = true) :
    ∃ v, dictGet envelope key .null = .ok v ∧ equals v s = true := by
  unfold keyIs at h
  split at h
  case h_1 v hv => exact ⟨v, hv, h⟩
  case h_2 => cases h

theorem equals_iff {v : Json} {s : String} : equals v s = true ↔ v = .str s := by
  cases v <;> simp [equals, Json.asStr]

theorem hasKey_iff {value : Json} {key : String} :
    hasKey value key = true ↔ ∃ v, dictItem value key = .ok v := by
  unfold hasKey
  cases dictItem value key <;> simp [Except.isOk, Except.toBool]

theorem dictItem_of_not_hasKey {members : Payload} {key : String}
    (h : hasKey (.obj members) key = false) :
    dictItem (.obj members) key = .error (.keyError key) := by
  cases hget : Payload.get members key with
  | none => simp only [dictItem, hget]
  | some v => simp [hasKey, dictItem, hget, Except.isOk, Except.toBool] at h

theorem exists_members {envelope v default : Json} {key : String}
    (h : dictGet envelope key default = .ok v) : ∃ members, envelope = .obj members := by
  cases envelope with
  | obj members => exact ⟨members, rfl⟩
  | _ => cases h

def Config.retries (cfg : Config) (attempts : Nat) : Prop :=
  cfg.reconnect = true ∧
    ¬(cfg.maxReconnectAttempts ≠ 0 ∧ (attempts : Int) ≥ cfg.maxReconnectAttempts)

instance (cfg : Config) (attempts : Nat) : Decidable (cfg.retries attempts) :=
  inferInstanceAs (Decidable (_ ∧ ¬_))

def Outcome.isReturn : Outcome → Bool
  | .escaped _ => false
  | _ => true

def Event.inner : Event → Bool
  | .write _ _ | .state _ | .onConfigure _ _ | .onRunning | .onPing | .onShutdown
  | .onError _ _ => true
  | _ => false

/-- The events are of these kinds, and the writes are those that the environment has in store. -/
structure Records (kind : Event → Bool) (w : World) (es : List Event) (w' : World) : Prop where
  trace : w'.trace = w.trace ++ es
  kinds : ∀ e ∈ es, kind e = true
  writes : w'.writes <:+ w.writes

def records (kind : Event → Bool) : Journal World Event where
  rel := Records kind
  refl _ := ⟨by simp, List.forall_mem_nil _, List.suffix_refl _⟩
  trans h h' := ⟨by rw [h'.trace, h.trace, List.append_assoc],
    List.forall_mem_append.mpr ⟨h.kinds, h'.kinds⟩, h'.writes.trans h.writes⟩

def World.Reliable (w : World) : Prop := ∀ ok ∈ w.writes, ok = true

theorem Records.reliable {kind : Event → Bool} {w w' : World} {es : List Event}
    (h : Records kind w es w') (hw : w.Reliable) : w'.Reliable :=
  fun ok hok => hw ok (h.writes.subset hok)

section Functions

variable {rt : Runtime} {cfg : Config} {kind : Event → Bool}

theorem records_widen {α : Type} {kind' : Event → Bool} {x : Task α} (h : (records kind).Of x)
    (hkind : ∀ e, kind e = true → kind' e = true) : (records kind').Of x := by
  intro w
  obtain ⟨es, hes⟩ := h w
  exact ⟨es, hes.trace, fun e he => hkind e (hes.kinds e he), hes.writes⟩

theorem emit_records {e : Event} (h : kind e = true) : (records kind).Of (emit e) := by
  intro w
  exact ⟨[e], rfl, by simp [h], List.suffix_refl _⟩

theorem modify_records {f : World → World} (htrace : ∀ w, (f w).trace = w.trace)
    (hwrites : ∀ w, (f w).writes = w.writes) : (records kind).Of (modify f : Task Unit) := by
  intro w
  refine ⟨[], ?_, List.forall_mem_nil _, ?_⟩
  · show (f w).trace = w.trace ++ []
    rw [htrace, List.append_nil]
  · have hsame : (f w).writes = w.writes := hwrites w
    exact hsame ▸ List.suffix_refl _

theorem ofExcept_records {α : Type} (x : Except Exn α) : (records kind).Of (ofExcept x) := by
  cases x with
  | error exn => exact Journal.of_throw exn
  | ok a => exact Journal.of_pure a

theorem create_records (t : MessageType) (c : Command) (payload id : Json) :
    (records kind).Of (create rt cfg t c payload id) :=
  fun w => ⟨[], (List.append_nil w.trace).symm, List.forall_mem_nil _, List.suffix_refl _⟩

theorem send_cases (envelope : Json) (w : World) :
    ∃ w', w' = { w with writes := w.writes.tail }.record
        (.write envelope (w.writes.headD true)) ∧
      (send envelope w = .ok () w' ∧ w.writes.headD true = true ∨
        send envelope w = .error .osError w' ∧ w.writes.headD true = false) := by
  obtain ⟨componentId, sessionId, state, running, writer, writes, created, trace⟩ := w
  refine ⟨_, rfl, ?_⟩
  match writes with
  | [] => exact .inl ⟨rfl, rfl⟩
  | true :: rest => exact .inl ⟨rfl, rfl⟩
  | false :: rest => exact .inr ⟨rfl, rfl⟩

def World.wrote (w : World) (envelope : Json) : World :=
  { w with writes := w.writes.tail }.record (.write envelope true)

theorem send_ok (envelope : Json) {w : World} (hw : w.Reliable) :
    send envelope w = .ok () (w.wrote envelope) := by
  have hnext : w.writes.headD true = true := by
    cases h : w.writes with
    | nil => rfl
    | cons ok rest => exact hw ok (by simp [h])
  obtain ⟨w', hw', ⟨hok, -⟩ | ⟨-, hfail⟩⟩ := send_cases envelope w
  · rw [hok, hw', hnext]
    rfl
  · cases hnext.symm.trans hfail

theorem wrote_reliable (envelope : Json) {w : World} (hw : w.Reliable) :
    (w.wrote envelope).Reliable :=
  fun ok hok => hw ok (List.mem_of_mem_tail hok)

theorem send_records (envelope : Json) : (records Event.inner).Of (send envelope) := by
  intro w
  obtain ⟨w', rfl, ⟨hok, -⟩ | ⟨herr, -⟩⟩ := send_cases envelope w
  · rw [hok]
    exact ⟨[_], rfl, by simp [Event.inner], List.tail_suffix _⟩
  · rw [herr]
    exact ⟨[_], rfl, by simp [Event.inner], List.tail_suffix _⟩

theorem setState_records (s : ComponentState) : (records Event.inner).Of (setState s) :=
  (emit_records rfl).bind fun _ => modify_records (fun _ => rfl) fun _ => rfl

theorem sendStateUpdate_records (s : ComponentState) :
    (records Event.inner).Of (sendStateUpdate rt cfg s) :=
  (create_records _ _ _ _).bind fun _ => (send_records _).bind fun _ => setState_records s

theorem sendAck_records (id : Json) : (records Event.inner).Of (sendAck rt cfg id) :=
  (create_records _ _ _ _).bind fun _ => send_records _

theorem stopRunning_records : (records kind).Of stopRunning :=
  modify_records (fun _ => rfl) fun _ => rfl

theorem storeIdentity_records (payload : Json) :
    (records Event.inner).Of (storeIdentity payload) := by
  unfold storeIdentity
  refine (ofExcept_records _).bind fun id => Journal.Of.bind ?component fun _ =>
    (ofExcept_records _).bind fun id' => Journal.Of.bind ?session fun _ => setState_records _
  case component => exact modify_records (fun _ => rfl) fun _ => rfl
  case session => exact modify_records (fun _ => rfl) fun _ => rfl

theorem accept_records (response : Json) : (records Event.inner).Of (accept response) := by
  refine (ofExcept_records _).bind fun t => ?_
  split
  · exact (ofExcept_records _).bind fun _ => (ofExcept_records _).bind fun _ => Journal.of_throw _
  · refine (ofExcept_records _).bind fun c => ?_
    split
    · exact Journal.of_throw _
    · exact (ofExcept_records _).bind fun payload => storeIdentity_records payload

theorem handleHeartbeat_records (envelope : Json) :
    (records Event.inner).Of (handleHeartbeat rt cfg envelope) := by
  refine (ofExcept_records _).bind fun command => ?_
  split
  · exact (emit_records rfl).bind fun _ => Journal.of_get.bind fun _ =>
      (ofExcept_records _).bind fun _ => (create_records _ _ _ _).bind fun _ => send_records _
  · exact Journal.of_pure ()

theorem handleControl_records (envelope : Json) :
    (records Event.inner).Of (handleControl envelope) := by
  refine (ofExcept_records _).bind fun command => ?_
  split
  · exact Journal.of_pure ()
  · split
    · exact (ofExcept_records _).bind fun _ => (ofExcept_records _).bind fun _ =>
        stopRunning_records
    · exact Journal.of_pure ()

theorem handleConfig_records (envelope : Json) :
    (records Event.inner).Of (handleConfig rt cfg envelope) := by
  refine (ofExcept_records _).bind fun command => ?_
  split
  · refine (ofExcept_records _).bind fun found => ?_
    obtain ⟨sockPath, topics, messageId⟩ := found
    exact (sendAck_records _).bind fun _ => (sendStateUpdate_records _).bind fun _ =>
      (emit_records rfl).bind fun _ => (sendStateUpdate_records _).bind fun _ => emit_records rfl
  · exact Journal.of_pure ()

theorem handleLifecycle_records (envelope : Json) :
    (records Event.inner).Of (handleLifecycle rt cfg envelope) := by
  refine (ofExcept_records _).bind fun command => ?_
  split
  · exact (ofExcept_records _).bind fun _ => (sendAck_records _).bind fun _ =>
      stopRunning_records
  · exact Journal.of_pure ()

theorem handleErrorMsg_records (envelope : Json) :
    (records Event.inner).Of (handleErrorMsg rt envelope) := by
  refine (ofExcept_records _).bind fun _ => (ofExcept_records _).bind fun _ =>
    (ofExcept_records _).bind fun _ => (emit_records rfl).bind fun _ =>
      (ofExcept_records _).bind fun recoverable => ?_
  split
  · exact stopRunning_records
  · exact Journal.of_pure ()

theorem handle_records (msgType envelope : Json) :
    (records Event.inner).Of (handle rt cfg msgType envelope) := by
  unfold handle
  split
  · exact handleHeartbeat_records envelope
  · split
    · exact handleConfig_records envelope
    · split
      · exact handleLifecycle_records envelope
      · split
        · exact handleControl_records envelope
        · split
          · exact handleErrorMsg_records envelope
          · exact Journal.of_pure ()

theorem gracefulShutdown_records : (records Event.inner).Of (gracefulShutdown rt cfg) :=
  (create_records _ _ _ _).bind fun _ => (Journal.Of.ignore (send_records _)).bind fun _ =>
    (emit_records rfl).bind fun _ => setState_records _

def Event.tail : Event → Bool
  | .close | .sleep _ => true
  | _ => false

theorem closeConnection_eq (w : World) : closeConnection w =
    .ok () (if w.writer then { w.record .close with writer := false } else w) := by
  have hget : (get : Task World) w = .ok w w := rfl
  rw [closeConnection, bind_ok hget]
  cases w.writer <;> rfl

theorem leave_records (w : World) : ∃ es, w.leave.trace = w.trace ++ es ∧
    (∀ e ∈ es, e.tail = true) ∧ w.leave.state = w.state := by
  have hleave : w.leave = if w.writer then
      { { w with running := false }.record .close with writer := false }
      else { w with running := false } := by
    have hstop : stopRunning w = .ok () { w with running := false } := rfl
    rw [World.leave, bind_ok hstop, closeConnection_eq]
    rfl
  rw [hleave]
  cases w.writer with
  | false => exact ⟨[], (List.append_nil _).symm, List.forall_mem_nil _, rfl⟩
  | true => exact ⟨[.close], rfl, List.forall_mem_singleton.mpr rfl, rfl⟩

theorem again_cases (cfg : Config) (attempts : Nat) (w : World) :
    (∃ o, turn.again cfg attempts w = (some o, w) ∧ o.isReturn = true ∧
      ¬cfg.retries (attempts + 1)) ∨
    turn.again cfg attempts w = (none, w.record (.sleep (attempts + 1))) ∧
      cfg.retries (attempts + 1) := by
  unfold turn.again
  cases hreconnect : cfg.reconnect with
  | false =>
    refine .inl ⟨.reconnectDisabled, rfl, rfl, fun h => ?_⟩
    cases hreconnect.symm.trans h.1
  | true =>
    simp only [Bool.not_true, Bool.false_eq_true, if_false]
    split
    case isTrue hmax => exact .inl ⟨.attemptsExhausted, rfl, rfl, fun h => h.2 hmax⟩
    case isFalse hmax => exact .inr ⟨rfl, hreconnect, hmax⟩

end Functions

end AegisSdk.Python
