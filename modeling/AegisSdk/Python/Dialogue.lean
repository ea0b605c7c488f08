import AegisSdk.Library.Output
import AegisSdk.Protocol.Wire
import AegisSdk.Python.Client

/-!
The Python component in a conversation with the daemon: it waits for the ACK of INITIALIZING,
and the messages that it has no branch for, REBORN among them, pass through its handlers.
-/

set_option autoImplicit false
set_option relaxedAutoImplicit false

namespace AegisSdk.Python

open AegisSdk.Protocol AegisSdk.Library AegisSdk.Library.Output
open List (Forall₂)

def text (envelope : Json) (key : String) : Option String :=
  match dictItem envelope key with
  | .ok (.str s) => some s
  | _ => none

def saidOf (envelope : Json) : Said where
  type := (text envelope "type").getD ""
  command := (text envelope "command").getD ""
  state := match dictItem envelope "payload" with
    | .ok (.obj ms) => Payload.get ms "state"
    | _ => none
  correlationId := text envelope "correlation_id"

def Event.said : Event → Option Said
  | .write envelope true => some (saidOf envelope)
  | _ => none

def output : Output World Event Said where
  trace := World.trace
  view := Event.said

/-- Writes succeed, and the component is in the state of this name and runs or not. -/
def Stands (running : Bool) (name : String) (w : World) : Prop :=
  (∀ ok ∈ w.writes, ok = true) ∧ w.state.value = name ∧ w.running = running

section Steps

variable {rt : Runtime} {cfg : Config} {b : Bool} {name : String} {F : List Said → Prop}

theorem emit_output {e : Event} (h : e.said = none) :
    output.Says (Stands b name) (emit e) [] (fun _ => Stands b name) F :=
  Says.log (fun _ _ => ⟨e, rfl, congrArg Option.toList h⟩) fun _ hw => hw

theorem modify_output {f : World → World} (htrace : ∀ w, (f w).trace = w.trace)
    (h : ∀ w, Stands b name w → Stands b name (f w)) :
    output.Says (Stands b name) (modify f : Task Unit) [] (fun _ => Stands b name) F :=
  Says.update htrace h

theorem setState_output (s : ComponentState) :
    output.Says (Stands b name) (setState s) [] (fun _ => Stands b s.value) F :=
  (emit_output rfl).after fun _ => Says.update (fun _ => rfl) fun _ hw => ⟨hw.1, rfl, hw.2.2⟩

theorem ofExcept_output {α : Type} {x : Except Exn α} {a : α} (h : x = .ok a) :
    output.Says (Stands b name) (ofExcept x) [] (fun r w => r = a ∧ Stands b name w) F := by
  subst h
  exact Says.pure fun _ hw => ⟨rfl, hw⟩

theorem send_output {envelope : Json} {l : Said} (henvelope : saidOf envelope = l) :
    output.Says (Stands b name) (send envelope) [l] (fun _ => Stands b name) F := by
  refine Says.run fun w ⟨hwrites, hstands⟩ => ?_
  have hhead : w.writes.headD true = true := by
    cases heq : w.writes with
    | nil => rfl
    | cons ok rest => exact hwrites ok (heq ▸ List.mem_cons_self)
  have hrun : send envelope w = (if w.writes.headD true then pure () else raise .osError
      : Task Unit) ({ w with writes := w.writes.tail }.record
        (.write envelope (w.writes.headD true))) := rfl
  rw [hhead] at hrun
  have hrest : ∀ ok ∈ w.writes.tail, ok = true := fun ok h => hwrites ok (List.mem_of_mem_tail h)
  have hheard : output.heard ({ w with writes := w.writes.tail }.record (.write envelope true)) =
      output.heard w ++ [saidOf envelope] := heard_record (e := Event.write envelope true) rfl
  exact ⟨(), _, hrun, ⟨hrest, hstands⟩, hheard.trans (by rw [henvelope])⟩

theorem create_output (t : MessageType) (c : Command) (payload id : Json) :
    output.Says (Stands b name) (create rt cfg t c payload id) []
      (fun envelope w =>
        (∃ stamp, envelope = newEnvelope stamp t c (source cfg) payload id) ∧ Stands b name w)
      F :=
  Says.run fun _ hw => ⟨_, _, rfl, ⟨⟨_, rfl⟩, hw⟩, (List.append_nil _).symm⟩

theorem newLine_output {t : MessageType} {c : Command} {payload id : Json} {l : Said}
    (hline : ∀ stamp, saidOf (newEnvelope stamp t c (source cfg) payload id) = l) :
    output.Says (Stands b name) (create rt cfg t c payload id >>= send) [l]
      (fun _ => Stands b name) F := by
  refine (create_output t c payload id).after fun envelope => Says.assume ?_
  rintro ⟨stamp, rfl⟩
  exact send_output (hline stamp)

theorem sendStateUpdate_output (s : ComponentState) :
    output.Says (Stands b name) (sendStateUpdate rt cfg s) [.update s.value]
      (fun _ => Stands b s.value) F := by
  have hsplit : sendStateUpdate rt cfg s =
      (create rt cfg .lifecycle .stateUpdate (.obj [("state", .str s.value)]) .null >>= send) >>=
        fun _ => setState s := by
    rw [bind_assoc]
    rfl
  have hline : output.Says (Stands b name)
      (create rt cfg .lifecycle .stateUpdate (.obj [("state", .str s.value)]) .null >>= send)
      [.update s.value] (fun _ => Stands b name) F :=
    newLine_output fun _ => rfl
  rw [hsplit]
  exact hline.before fun _ => setState_output s

theorem sendAck_output (id : String) :
    output.Says (Stands b name) (sendAck rt cfg (.str id)) [.ack id] (fun _ => Stands b name) F :=
  newLine_output fun _ => rfl

end Steps

section Messages

variable {x : Wire} {ms payload : Payload}

theorem dictItem_wire (h : x.Of ms) {key : String} {v : Json} (hmem : (key, v) ∈ x.members) :
    dictItem (.obj ms) key = .ok v := by
  rw [dictItem, h.get hmem]

theorem dictGet_wire (h : x.Of ms) {key : String} {v default : Json}
    (hmem : (key, v) ∈ x.members) : dictGet (.obj ms) key default = .ok v := by
  rw [dictGet, h.get hmem]
  rfl

theorem dictGet_payload (h : x.Holds payload) {key : String} {v default : Json}
    (hmem : (key, v) ∈ payload) : dictGet x.payload key default = .ok v := by
  rw [h.object, dictGet, h.get hmem]
  rfl

structure Reads (v : Json) (x : Wire) : Prop where
  type : dictGet v "type" .null = .ok (.str x.type)
  command : dictGet v "command" .null = .ok (.str x.command)
  item : dictItem v "command" = .ok (.str x.command)
  id : dictItem v "message_id" = .ok (.str x.messageId)
  payload : ∀ default, dictGet v "payload" default = .ok x.payload
  payloadItem : dictItem v "payload" = .ok x.payload

theorem Reads.of_wire (h : x.Of ms) : Reads (.obj ms) x where
  type := dictGet_wire h (by simp [Wire.members])
  command := dictGet_wire h (by simp [Wire.members])
  item := dictItem_wire h (by simp [Wire.members])
  id := dictItem_wire h (by simp [Wire.members])
  payload _ := dictGet_wire h (by simp [Wire.members])
  payloadItem := dictItem_wire h (by simp [Wire.members])

theorem equals_str (s t : String) : equals (.str s) t = decide (s = t) := by
  show (some s == some t) = decide (s = t)
  by_cases h : s = t <;> simp [h]

variable {rt : Runtime} {cfg : Config} {v : Json} {name : String} {F : List Said → Prop}

theorem process_output (h : Reads v x) {b : Bool} {name' : String} {out : List Said}
    (hhandle : output.Says (Stands true name) (handle rt cfg (.str x.type) v) out
      (fun _ => Stands b name') F) :
    output.Says (Stands true name) (process rt cfg v) out (fun _ => Stands b name') F := by
  unfold process
  refine (ofExcept_output h.type).after fun _ => Says.assume ?_
  rintro rfl
  refine (ofExcept_output h.command).after fun _ => Says.assume fun _ => ?_
  exact (emit_output rfl).after fun _ => hhandle

theorem handleHeartbeat_output (h : Reads v x) (hc : x.command = Command.ping.value) :
    output.Says (Stands true name) (handleHeartbeat rt cfg v) [.pong name x.messageId]
      (fun _ => Stands true name) F := by
  unfold handleHeartbeat
  refine (ofExcept_output h.item).after fun _ => Says.assume ?_
  rintro rfl
  rw [equals_str, if_pos (decide_eq_true hc)]
  refine (emit_output rfl).after fun _ => Says.get fun w hw => ?_
  obtain ⟨-, rfl, -⟩ := hw
  refine (ofExcept_output h.id).after fun _ => Says.assume ?_
  rintro rfl
  exact newLine_output fun _ => rfl

theorem configuration_eq (h : Reads v x) (hpayload : x.Holds payload) :
    ∃ socket topics, configuration v = .ok (socket, topics, .str x.messageId) := by
  unfold configuration
  rw [h.payload, h.id, hpayload.object]
  exact ⟨_, _, rfl⟩

theorem handleConfig_output (h : Reads v x) (hpayload : x.Holds payload)
    (hc : x.command = Command.configure.value) :
    output.Says (Stands true name) (handleConfig rt cfg v)
      [.ack x.messageId, .update "CONFIGURED", .update "RUNNING"]
      (fun _ => Stands true "RUNNING") F := by
  obtain ⟨socket, topics, hgiven⟩ := configuration_eq h hpayload
  unfold handleConfig
  refine (ofExcept_output h.item).after fun _ => Says.assume ?_
  rintro rfl
  rw [equals_str, if_pos (decide_eq_true hc)]
  refine (ofExcept_output hgiven).after fun _ => Says.assume ?_
  rintro rfl
  exact (sendAck_output _).seq fun _ => (sendStateUpdate_output .configured).seq fun _ =>
    (emit_output rfl).after fun _ =>
      (sendStateUpdate_output .running).before fun _ => emit_output rfl

theorem stopRunning_output :
    output.Says (Stands true name) stopRunning [] (fun _ => Stands false name) F :=
  Says.update (fun _ => rfl) fun _ hw => ⟨hw.1, hw.2.1, rfl⟩

theorem handleLifecycle_shutdown (h : Reads v x) (hc : x.command = Command.shutdown.value) :
    output.Says (Stands true name) (handleLifecycle rt cfg v) [.ack x.messageId]
      (fun _ => Stands false name) F := by
  unfold handleLifecycle
  refine (ofExcept_output h.command).after fun _ => Says.assume ?_
  rintro rfl
  rw [equals_str, if_pos (decide_eq_true hc)]
  refine (ofExcept_output h.id).after fun _ => Says.assume ?_
  rintro rfl
  exact (sendAck_output _).before fun _ => stopRunning_output

theorem handleLifecycle_passes (h : Reads v x) (hc : x.command ≠ Command.shutdown.value) :
    output.Says (Stands true name) (handleLifecycle rt cfg v) [] (fun _ => Stands true name) F := by
  unfold handleLifecycle
  refine (ofExcept_output h.command).after fun _ => Says.assume ?_
  rintro rfl
  rw [equals_str, if_neg (by simpa using hc)]
  exact Says.pure fun _ hw => hw

theorem handleControl_ack (h : Reads v x) (hc : x.command = Command.ack.value) :
    output.Says (Stands true name) (handleControl v) [] (fun _ => Stands true name) F := by
  unfold handleControl
  refine (ofExcept_output h.command).after fun _ => Says.assume ?_
  rintro rfl
  rw [equals_str, if_pos (decide_eq_true hc)]
  exact Says.pure fun _ hw => hw

theorem handleErrorMsg_output (h : Reads v x) (hpayload : x.Holds payload)
    (hrecoverable : ("recoverable", Json.bool true) ∈ payload) :
    output.Says (Stands true name) (handleErrorMsg rt v) [] (fun _ => Stands true name) F := by
  have look : ∀ key default, ∃ value, dictGet x.payload key default = .ok value := by
    intro key default
    rw [hpayload.object]
    exact ⟨_, rfl⟩
  obtain ⟨code, hcode⟩ := look "code" (.str "UNKNOWN")
  obtain ⟨message, hmessage⟩ := look "message" (.str "")
  unfold handleErrorMsg
  refine (ofExcept_output (h.payload _)).after fun _ => Says.assume ?_
  rintro rfl
  refine (ofExcept_output hcode).after fun _ => Says.assume fun _ => ?_
  refine (ofExcept_output hmessage).after fun _ => Says.assume fun _ => ?_
  refine (emit_output rfl).after fun _ => ?_
  refine (ofExcept_output (dictGet_payload hpayload hrecoverable)).after fun _ => Says.assume ?_
  rintro rfl
  exact Says.pure fun _ hw => hw

theorem process_order {o : Order} (h : Wire.Conveys v o) :
    output.Says (Stands true name) (process rt cfg v) (o.answers false name)
      (fun _ => Stands (!o.isShutdown) (if o.isShutdown then name else o.following name)) F := by
  obtain ⟨kind, id⟩ := o
  obtain ⟨x, ms, payload, rfl, hof, hpayload, hid, hbears⟩ := h
  obtain rfl : x.messageId = id := hid
  have hreads := Reads.of_wire hof
  cases hbears with
  | ping ht hc =>
    refine process_output hreads ?_
    rw [ht]
    exact handleHeartbeat_output hreads hc
  | configure socket topics ht hc =>
    refine process_output hreads ?_
    rw [ht]
    exact handleConfig_output hreads hpayload hc
  | reborn ht hc =>
    refine process_output hreads ?_
    rw [ht]
    exact handleLifecycle_passes hreads (by rw [hc]; decide)
  | recoverableError code message ht hc hcode hmessage hrecoverable =>
    refine process_output hreads ?_
    rw [ht]
    exact handleErrorMsg_output hreads hpayload hrecoverable
  | shutdown ht hc =>
    refine process_output hreads ?_
    rw [ht]
    exact handleLifecycle_shutdown hreads hc

theorem process_ack (h : Wire.Acks v) :
    output.Says (Stands true name) (process rt cfg v) [] (fun _ => Stands true name) F := by
  obtain ⟨x, ms, payload, rfl, hof, -, ht, hc⟩ := h
  have hreads := Reads.of_wire hof
  refine process_output hreads ?_
  rw [ht]
  exact handleControl_ack hreads hc

def Gives (rt : Runtime) (read : Read) (v : Json) : Prop :=
  read.late = false ∧ ∃ bytes, read.event = .line bytes ∧ rt.loads bytes = some v

theorem recv_of_gives {read : Read} (h : Gives rt read v) : recv rt read = .ok v := by
  obtain ⟨-, bytes, hevent, hloads⟩ := h
  unfold recv
  simp only [hevent, hloads]

theorem gracefulShutdown_output {b : Bool} :
    output.Says (Stands b name) (gracefulShutdown rt cfg) [.notice]
      (fun _ => Stands b "SHUTDOWN") F := by
  unfold gracefulShutdown
  refine (create_output _ _ _ _).after fun envelope => Says.assume ?_
  rintro ⟨stamp, rfl⟩
  exact (Says.ignore (send_output rfl)).before fun _ => (emit_output rfl).after fun _ =>
    setState_output .shutdown

theorem gracefulShutdown_closing {b : Bool} :
    output.Ends (Stands b name) (gracefulShutdown rt cfg) Closing :=
  gracefulShutdown_output.ends (F := fun _ => False) closing_notice fun _ h => h.elim

theorem messageLoop_halted (reads : List Read) :
    output.Ends (Stands false name) (messageLoop rt cfg reads) Closing := by
  have look : ∀ {x : Task Unit}, output.Ends (Stands false name)
      (do if (← get).running then x else gracefulShutdown rt cfg) Closing := by
    intro x
    refine Ends.get fun w hw => ?_
    rw [hw.2.2]
    exact gracefulShutdown_closing
  cases reads with
  | cons read rest => exact look
  | nil =>
    refine Ends.get fun w hw => ?_
    rw [hw.2.2]
    exact gracefulShutdown_closing

theorem messageLoop_next {read : Read} (hread : Gives rt read v) {out : List Said} {b : Bool}
    {name' : String} (hprocess : output.Says (Stands true name) (process rt cfg v) out
      (fun _ => Stands b name') fun _ => False) {rest : List Read} {K K' : List Said → Prop}
    (hrest : output.Ends (Stands b name') (messageLoop rt cfg rest) K')
    (hK : ∀ t, K' t → K (out ++ t)) :
    output.Ends (Stands true name) (messageLoop rt cfg (read :: rest)) K := by
  unfold messageLoop
  rw [hread.1, recv_of_gives hread]
  refine Ends.get fun w hw => ?_
  rw [hw.2.2]
  exact (emit_output rfl).after_ends fun _ => hprocess.seq_ends (fun _ => hrest) hK

theorem messageLoop_acks {acks : List Json} (hacks : ∀ v ∈ acks, Wire.Acks v) {reads : List Read}
    (hreads : Forall₂ (Gives rt) reads acks) {rest : List Read} {K : List Said → Prop}
    (h : output.Ends (Stands true name) (messageLoop rt cfg rest) K) :
    output.Ends (Stands true name) (messageLoop rt cfg (reads ++ rest)) K := by
  induction hreads with
  | nil => exact h
  | @cons read v reads acks hread _ ih =>
    obtain ⟨hack, hacks'⟩ := List.forall_mem_cons.mp hacks
    exact messageLoop_next hread (process_ack hack) (ih hacks') fun _ ht => ht

theorem messageLoop_ends {os : List Order} {vs : List Json}
    (hscript : Script Wire.Conveys Wire.Acks os vs) {reads : List Read}
    (hreads : Forall₂ (Gives rt) reads vs) :
    output.Ends (Stands true name) (messageLoop rt cfg reads) (Tells name os) := by
  induction hscript generalizing reads name with
  | done =>
    cases hreads
    refine Ends.get fun w hw => ?_
    rw [hw.2.2]
    refine (emit_output rfl).after_ends fun _ => ?_
    exact gracefulShutdown_closing.weaken (fun _ h => h) fun _ h => tells_nil h
  | @order o v acks os vs hconveys hlength hacks _ ih =>
    obtain ⟨read, reads', hread, hreads', rfl⟩ := List.forall₂_cons_right_iff.mp hreads
    obtain ⟨ackReads, rest, rfl, hackReads, hrest⟩ := forall₂_split hreads'
    have hprocess : output.Says (Stands true name) (process rt cfg v) (o.answers false name)
        (fun _ => Stands (!o.isShutdown) (if o.isShutdown then name else o.following name))
        fun _ => False := process_order hconveys
    cases hs : o.isShutdown with
    | true =>
      rw [hs] at hprocess
      exact messageLoop_next hread hprocess (messageLoop_halted _) fun t ht => tells_last hs ht
    | false =>
      rw [hs] at hprocess
      have hgoes : output.Ends (Stands true (o.following name))
          (messageLoop rt cfg (ackReads ++ rest)) (Tells (o.following name) os) :=
        messageLoop_acks hacks hackReads (ih hrest)
      exact messageLoop_next hread hprocess hgoes fun t ht => tells_next hs ht

theorem await_output {stage : Stage} {b : Bool} {read : Read} (h : Gives rt read v) :
    output.Says (Stands b name) (await rt stage read) []
      (fun r w => r = v ∧ Stands b name w) F := by
  unfold await
  exact (emit_output rfl).after fun _ => ofExcept_output (recv_of_gives h)

theorem storeIdentity_output {b : Bool} (h : x.Holds payload) {id id' : Json}
    (hid : ("component_id", id) ∈ payload) (hid' : ("session_id", id') ∈ payload) :
    output.Says (Stands b name) (storeIdentity x.payload) []
      (fun _ => Stands b "REGISTERED") F := by
  have look : ∀ {key : String} {id : Json}, (key, id) ∈ payload →
      dictItem x.payload key = .ok id := by
    intro key id hmem
    rw [h.object, dictItem, h.get hmem]
  unfold storeIdentity
  refine (ofExcept_output (look hid)).after fun _ => Says.assume fun _ =>
    Says.after (modify_output ?_ ?_) fun _ =>
      (ofExcept_output (look hid')).after fun _ => Says.assume fun _ =>
        Says.after (modify_output ?_ ?_) fun _ => setState_output .registered
  · exact fun _ => rfl
  · exact fun _ hw => hw
  · exact fun _ => rfl
  · exact fun _ hw => hw

theorem accept_output {b : Bool} (hv : Wire.Registers v) :
    output.Says (Stands b name) (accept v) [] (fun _ => Stands b "REGISTERED") F := by
  obtain ⟨x, ms, payload, i, i', rfl, hof, hpayload, ht, hc, hi, hi'⟩ := hv
  have hreads := Reads.of_wire hof
  have hother : equals (.str x.type) MessageType.error.value = false := by
    rw [equals_str, ht]
    decide
  have hregistered : (!equals (.str x.command) Command.registered.value) = false := by
    rw [equals_str, hc]
    decide
  unfold accept
  refine (ofExcept_output hreads.type).after fun _ => Says.assume ?_
  rintro rfl
  rw [hother]
  refine (ofExcept_output hreads.command).after fun _ => Says.assume ?_
  rintro rfl
  rw [hregistered]
  refine (ofExcept_output hreads.payloadItem).after fun _ => Says.assume ?_
  rintro rfl
  exact storeIdentity_output hpayload hi hi'

theorem register_output {b : Bool} (hv : Wire.Registers v) {read : Read} (h : Gives rt read v) :
    output.Says (Stands b name) (register rt cfg read) [.register]
      (fun _ => Stands b "REGISTERED") F := by
  have hline : output.Says (Stands b name)
      (create rt cfg .lifecycle .register (registerPayload cfg) .null >>= send) [.register]
      (fun _ => Stands b name) F := by
    refine newLine_output fun _ => ?_
    unfold registerPayload
    split <;> rfl
  have hsplit : register rt cfg read =
      (create rt cfg .lifecycle .register (registerPayload cfg) .null >>= send) >>= fun _ =>
        await rt .register read >>= accept := by
    rw [bind_assoc]
    rfl
  rw [hsplit]
  refine hline.before fun _ => (await_output h).after fun _ => Says.assume ?_
  rintro rfl
  exact accept_output hv

theorem signalReady_output {b : Bool} (hv : Wire.Acks v) {read : Read} (h : Gives rt read v) :
    output.Says (Stands b name) (signalReady rt cfg read) opening
      (fun _ => Stands b "READY") F := by
  obtain ⟨x, ms, payload, rfl, hof, -⟩ := hv
  unfold signalReady
  refine (sendStateUpdate_output .initializing).seq fun _ => (await_output h).after fun _ =>
    Says.assume ?_
  rintro rfl
  exact (ofExcept_output (Reads.of_wire hof).command).after fun _ => Says.assume fun _ =>
    sendStateUpdate_output .ready

end Messages

/-- A connection on which these messages come, where nothing fails. -/
structure Hears (rt : Runtime) (link : Link) (vs : List Json) : Prop where
  connect : link.connect = true
  reads : Forall₂ (Gives rt) link.reads vs
  writes : ∀ ok ∈ link.writes, ok = true

section Connections

variable (rt : Runtime) (cfg : Config)

/-- What the component says on a connection after REGISTER, up to a closing notice. -/
def spoken (link : Link) (w : World) : List Said :=
  dialogueOf (output.since w (final (connection rt cfg link w)))

theorem session_ends {registered : Json} (hregistered : Wire.Registers registered)
    {acks vs : List Json} (hlength : acks.length = acksFor opening)
    (hacks : ∀ v ∈ acks, Wire.Acks v) {os : List Order}
    (hscript : Script Wire.Conveys Wire.Acks os vs) {reads : List Read}
    (hreads : Forall₂ (Gives rt) reads (registered :: (acks ++ vs))) {b : Bool} {name : String} :
    output.Ends (Stands b name) (session rt cfg reads) fun out =>
      ∃ rest, out = .register :: (opening ++ rest) ∧ Tells "READY" os rest := by
  obtain ⟨ack, ack', rfl⟩ : ∃ ack ack', acks = [ack, ack'] := List.length_eq_two.mp hlength
  obtain ⟨read, l, hread, hl, rfl⟩ := List.forall₂_cons_right_iff.mp hreads
  obtain ⟨read', l', hread', hl', rfl⟩ := List.forall₂_cons_right_iff.mp hl
  obtain ⟨read'', rest, hread'', hrest, rfl⟩ := List.forall₂_cons_right_iff.mp hl'
  have hrunning : output.Says (Stands b "READY")
      (modify fun w => { w with running := true } : Task Unit) []
      (fun _ => Stands true "READY") fun _ => False :=
    Says.update (fun _ => rfl) fun _ hw => ⟨hw.1, hw.2.1, rfl⟩
  have hloop : output.Ends (Stands true "READY") (messageLoop rt cfg (read'' :: rest))
      (Tells "READY" os) :=
    messageLoop_acks (List.forall_mem_singleton.mpr (hacks ack' (by simp)))
      (.cons hread'' .nil) (messageLoop_ends hscript hrest)
  have hready : output.Ends (Stands b "REGISTERED") (do
      signalReady rt cfg read'
      modify fun w => { w with running := true }
      messageLoop rt cfg (read'' :: rest)) fun out =>
        ∃ rest, out = opening ++ rest ∧ Tells "READY" os rest :=
    (signalReady_output (hacks ack (by simp)) hread').seq_ends
      (fun _ => hrunning.after_ends fun _ => hloop) fun t ht => ⟨t, rfl, ht⟩
  refine (register_output hregistered hread).seq_ends (fun _ => hready) fun t ht => ?_
  obtain ⟨rest, rfl, htells⟩ := ht
  exact ⟨rest, rfl, htells⟩

/-- In a conversation with a daemon the component says what one does that does not know
REBORN. -/
theorem spoken_eq {registered : Json} (hregistered : Wire.Registers registered)
    {acks vs : List Json} (hlength : acks.length = acksFor opening)
    (hacks : ∀ v ∈ acks, Wire.Acks v) {os : List Order}
    (hscript : Script Wire.Conveys Wire.Acks os vs) {link : Link}
    (h : Hears rt link (registered :: (acks ++ vs))) (w : World) :
    spoken rt cfg link w = opening ++ said false "READY" os := by
  have hrun : connection rt cfg link w = session rt cfg link.reads
      { w.record (.connect link) with writer := true, writes := link.writes } := by
    unfold connection
    rw [h.connect]
    rfl
  have hstands : Stands w.running w.state.value
      { w.record (.connect link) with writer := true, writes := link.writes } :=
    ⟨h.writes, rfl, rfl⟩
  obtain ⟨t, ⟨rest, rfl, htells⟩, hheard⟩ :=
    (session_ends rt cfg hregistered hlength hacks hscript h.reads).final hstands
  have hopened : output.heard
      { w.record (.connect link) with writer := true, writes := link.writes } = output.heard w :=
    (heard_record (e := Event.connect link) rfl).trans (List.append_nil _)
  have hclosed : output.heard (final (connection rt cfg link w)) =
      output.heard w ++ .register :: (opening ++ rest) := by
    rw [hrun, hheard, hopened]
  have hopening : ∀ s ∈ opening, s.isNotice = false := by
    simp [opening, Said.update, Said.isNotice]
  rw [spoken, since_eq hclosed]
  exact dialogueOf_tells opening hopening htells

end Connections

end AegisSdk.Python
