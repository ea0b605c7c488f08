import AegisSdk.Codecs
import AegisSdk.Library.Output
import AegisSdk.OCaml.Course
import AegisSdk.Protocol.Wire

/-!
The OCaml client in a conversation with the daemon: it says nothing between REGISTERED and the
orders of the daemon, is REGISTERED until the first CONFIGURE, and loses the connection at a
REBORN, which its decoder does not know.
-/

set_option autoImplicit false
set_option relaxedAutoImplicit false

namespace AegisSdk.OCaml

open AegisSdk.Protocol AegisSdk.Library AegisSdk.Library.Output
open List (Forall₂)

def Envelope.said (env : Envelope) : Said where
  type := stringOfMessageType env.msgType
  command := stringOfCommand env.command
  state := match env.payload with
    | .obj ms => Payload.get ms "state"
    | _ => none
  correlationId := env.correlationId

def Event.said : Event → Option Said
  | .write env true => some env.said
  | _ => none

def output : Output World Event Said where
  trace := World.trace
  view := Event.said

section Decoding

variable {x : Wire} {ms payload : Payload}

/-- An envelope of a known type and command as it is decoded. -/
def ofWire (x : Wire) (t : MessageType) (c : Command) : Envelope where
  protocolVersion := x.protocolVersion
  messageId := x.messageId
  correlationId := x.correlationId
  timestamp := x.timestamp
  source := x.source
  target := x.target
  msgType := t
  command := c
  payload := x.payload

theorem member_payload (h : x.Holds payload) {key : String} {v : Json} (hmem : (key, v) ∈ payload) :
    member key x.payload = .ok v := by
  rw [h.object, member, h.first hmem]
  rfl

theorem envelopeOfJson_perm (h : x.Of ms) :
    envelopeOfJson (.obj ms) = envelopeOfJson (.obj x.members) := by
  have same : ∀ key, member key (.obj ms) = member key (.obj x.members) := by
    intro key
    have hfind : (ms.find? fun m => m.1 == key).map Prod.snd =
        (x.members.find? fun m => m.1 == key).map Prod.snd := by
      apply Option.ext
      intro v
      rw [Payload.find?_eq_some_iff h.nodup, Payload.find?_eq_some_iff x.nodup_members, h.mem_iff]
    rw [member, member, hfind]
  simp only [envelopeOfJson, same]

theorem envelopeToJson_ofWire {t : MessageType} {c : Command} (ht : x.type = stringOfMessageType t)
    (hc : x.command = stringOfCommand c) : envelopeToJson (ofWire x t c) = .obj x.members := by
  unfold Wire.members
  rw [ht, hc]
  rfl

theorem envelopeOfJson_wire (h : x.Of ms) {t : MessageType} {c : Command}
    (ht : x.type = stringOfMessageType t) (hc : x.command = stringOfCommand c) :
    envelopeOfJson (.obj ms) = .ok (ofWire x t c) := by
  rw [envelopeOfJson_perm h, ← envelopeToJson_ofWire ht hc, envelopeOfJson_toJson]

theorem envelopeOfJson_reborn (h : x.Of ms) (hc : x.command = "REBORN") :
    ∃ exn, envelopeOfJson (.obj ms) = .error exn := by
  cases heq : envelopeOfJson (.obj ms) with
  | error exn => exact ⟨exn, rfl⟩
  | ok env =>
    obtain ⟨ms', hjson, hperm⟩ := envelopeOfJson_members (h.map Prod.fst) heq
    have hcommand : ("command", Json.str (stringOfCommand env.command)) ∈ x.members := by
      have hmem : ("command", Json.str (stringOfCommand env.command)) ∈ ms' := by
        rw [← Json.obj.inj hjson]
        simp
      exact h.mem_iff.mp (hperm.mem_iff.mpr hmem)
    have hname : stringOfCommand env.command = "REBORN" := by
      simpa [Wire.members, hc, eq_comm] using hcommand
    cases hcmd : env.command <;> simp [hcmd, stringOfCommand] at hname

theorem type_known {name : String} (h : name ∈ Wire.types) :
    ∃ t : MessageType, name = stringOfMessageType t := by
  simp only [Wire.types, List.mem_cons, List.not_mem_nil, or_false] at h
  rcases h with rfl | rfl | rfl | rfl | rfl | rfl
  exacts [⟨.control, rfl⟩, ⟨.lifecycle, rfl⟩, ⟨.config, rfl⟩, ⟨.error, rfl⟩, ⟨.heartbeat, rfl⟩,
    ⟨.data, rfl⟩]

theorem command_known {name : String} (h : name ∈ Wire.commands) :
    ∃ c, name = stringOfCommand c := by
  simp only [Wire.commands, List.mem_cons, List.not_mem_nil, or_false] at h
  rcases h with rfl | rfl | rfl | rfl | rfl | rfl | rfl | rfl | rfl | rfl | rfl | rfl
  exacts [⟨.register, rfl⟩, ⟨.registered, rfl⟩, ⟨.stateUpdate, rfl⟩, ⟨.shutdown, rfl⟩, ⟨.ack, rfl⟩,
    ⟨.nack, rfl⟩, ⟨.configure, rfl⟩, ⟨.configured, rfl⟩, ⟨.ping, rfl⟩, ⟨.pong, rfl⟩,
    ⟨.runtimeError, rfl⟩, ⟨.registrationFailed, rfl⟩]

end Decoding

structure Is (env : Envelope) (o : Order) : Prop where
  id : env.messageId = o.id
  kind : match o.kind with
    | .ping => env.msgType = .heartbeat ∧ env.command = .ping
    | .configure => env.msgType = .config ∧ env.command = .configure ∧
      ∃ given, configuration env = .ok given
    | .reborn => False
    | .recoverableError => env.msgType = .error ∧
      ∃ code message, errorReport env = .ok (code, message, true)
    | .shutdown => env.msgType = .lifecycle ∧ env.command = .shutdown

theorem mapM_toString (topics : List String) :
    (topics.map Json.str).mapM toString = .ok topics := by
  induction topics with
  | nil => rfl
  | cons topic topics ih =>
    rw [List.map_cons, List.mapM_cons, ih]
    rfl

theorem Is.of_conveys {v : Json} {o : Order} (h : Wire.Conveys v o) (hr : o.isReborn = false) :
    ∃ env, envelopeOfJson v = .ok env ∧ Is env o := by
  obtain ⟨kind, id⟩ := o
  obtain ⟨x, ms, payload, rfl, hof, hpayload, hid, hbears⟩ := h
  cases hbears with
  | reborn => cases hr
  | ping ht hc =>
    have hdecode := envelopeOfJson_wire hof (t := .heartbeat) (c := .ping) ht hc
    exact ⟨_, hdecode, hid, rfl, rfl⟩
  | shutdown ht hc =>
    have hdecode := envelopeOfJson_wire hof (t := .lifecycle) (c := .shutdown) ht hc
    exact ⟨_, hdecode, hid, rfl, rfl⟩
  | configure socket topics ht hc hsocket htopics =>
    have hdecode := envelopeOfJson_wire hof (t := .config) (c := .configure) ht hc
    refine ⟨_, hdecode, hid, rfl, rfl, (socket, topics), ?_⟩
    show (do
      let sock ← toStringOption (← member "data_stream_socket" x.payload)
      let topics ← (← toList (← member "topics" x.payload)).mapM toString
      return (sock.getD "", topics)) = _
    rw [member_payload hpayload hsocket, member_payload hpayload htopics]
    show (do
      let topics ← (topics.map Json.str).mapM toString
      return (socket, topics)) = _
    rw [mapM_toString]
    rfl
  | recoverableError code message ht hc hcode hmessage hrecoverable =>
    obtain ⟨c, hc⟩ := command_known hc
    have hdecode := envelopeOfJson_wire hof (t := .error) (c := c) ht hc
    refine ⟨_, hdecode, hid, rfl, code, message, ?_⟩
    show (do
      let code ← toStringOption (← member "code" x.payload)
      let message ← toStringOption (← member "message" x.payload)
      let recoverable ← toBoolOption (← member "recoverable" x.payload)
      return (code.getD "UNKNOWN", message.getD "", recoverable.getD false)) = _
    rw [member_payload hpayload hcode, member_payload hpayload hmessage,
      member_payload hpayload hrecoverable]
    rfl

theorem decode_reborn {v : Json} {o : Order} (h : Wire.Conveys v o) (hr : o.isReborn = true) :
    ∃ exn, envelopeOfJson v = .error exn := by
  have hkind : o.kind = .reborn := of_decide_eq_true hr
  obtain ⟨x, ms, payload, rfl, hof, -, -, hbears⟩ := h
  rw [hkind] at hbears
  cases hbears with
  | reborn ht hc => exact envelopeOfJson_reborn hof hc

/-- Writes succeed, and the client is in the state of this name. -/
def Stands (name : String) (w : World) : Prop :=
  (∀ ok ∈ w.writes, ok = true) ∧ stringOfState w.client.state = name

section Orders

variable {rt : Runtime} {cfg : Config} {handlers : Handlers} {name : String}
  {F : List Said → Prop}

theorem emit_output {e : Event} (h : e.said = none) :
    output.Says (Stands name) (emit e) [] (fun _ => Stands name) F :=
  Says.log (fun _ _ => ⟨e, rfl, congrArg Option.toList h⟩) fun _ hw => hw

theorem call_output (isSet : Bool) {e : Event} (h : e.said = none) :
    output.Says (Stands name) (call isSet e none) [] (fun _ => Stands name) F := by
  unfold call
  split
  · exact (emit_output h).after fun _ => Says.pure fun _ hw => hw
  · exact Says.pure fun _ hw => hw

theorem modify_output {f : World → World} (htrace : ∀ w, (f w).trace = w.trace)
    (h : ∀ w, Stands name w → Stands name (f w)) :
    output.Says (Stands name) (modify f : Task Unit) [] (fun _ => Stands name) F :=
  Says.update htrace h

theorem setState_output (s : ComponentState) :
    output.Says (Stands name) (setState s) [] (fun _ => Stands (stringOfState s)) F :=
  Says.log (fun _ _ => ⟨.state s, rfl, rfl⟩) fun _ hw => ⟨hw.1, rfl⟩

theorem ofExcept_output {α : Type} {x : Except Exn α} {a : α} (h : x = .ok a) :
    output.Says (Stands name) (ofExcept x) [] (fun b w => b = a ∧ Stands name w) F := by
  subst h
  exact Says.pure fun _ hw => ⟨rfl, hw⟩

theorem sendLine_output {env : Envelope} {l : Said} (henv : env.said = l) :
    output.Says (Stands name) (sendLine env) [l] (fun _ => Stands name) F := by
  refine Says.run fun w ⟨hwrites, hname⟩ => ?_
  have hhead : w.writes.headD true = true := by
    cases heq : w.writes with
    | nil => rfl
    | cons ok rest => exact hwrites ok (heq ▸ List.mem_cons_self)
  have hrun : sendLine env w = (if w.writes.headD true then pure () else raise (.other "Sys_error")
      : Task Unit) ({ w with writes := w.writes.tail }.record
        (.write env (w.writes.headD true))) := rfl
  rw [hhead] at hrun
  have hrest : ∀ ok ∈ w.writes.tail, ok = true := fun ok h => hwrites ok (List.mem_of_mem_tail h)
  have hheard : output.heard ({ w with writes := w.writes.tail }.record (.write env true)) =
      output.heard w ++ [env.said] := heard_record (e := Event.write env true) rfl
  exact ⟨(), _, hrun, ⟨hrest, hname⟩, hheard.trans (by rw [henv])⟩

theorem newLine_output {t : MessageType} {c : Command} {payload : Json} {g : Envelope → Envelope}
    {l : Said} (henv : ∀ stamp, (g (makeEnvelope stamp t c (source cfg) payload)).said = l) :
    output.Says (Stands name) (create rt cfg t c payload >>= fun env => sendLine (g env)) [l]
      (fun _ => Stands name) F := by
  have hcreate : output.Says (Stands name) (create rt cfg t c payload) []
      (fun env w => (∃ stamp, env = makeEnvelope stamp t c (source cfg) payload) ∧ Stands name w)
      F :=
    Says.run fun w hw => ⟨_, _, rfl, ⟨⟨_, rfl⟩, hw⟩, (List.append_nil _).symm⟩
  refine hcreate.after fun env => Says.assume ?_
  rintro ⟨stamp, rfl⟩
  exact sendLine_output (henv stamp)

theorem sendStateUpdate_output (s : ComponentState) :
    output.Says (Stands name) (sendStateUpdate rt cfg s) [.update (stringOfState s)]
      (fun _ => Stands (stringOfState s)) F := by
  have hsplit : sendStateUpdate rt cfg s =
      (create rt cfg .lifecycle .stateUpdate (.obj [("state", .str (stringOfState s))]) >>=
        fun env => sendLine env) >>= fun _ => setState s := by
    rw [bind_assoc]
    rfl
  have hline : output.Says (Stands name)
      (create rt cfg .lifecycle .stateUpdate (.obj [("state", .str (stringOfState s))]) >>=
        fun env => sendLine env) [.update (stringOfState s)] (fun _ => Stands name) F :=
    newLine_output (g := id) fun _ => rfl
  rw [hsplit]
  exact hline.before fun _ => setState_output s

theorem sendAck_output (id : String) :
    output.Says (Stands name) (sendAck rt cfg id) [.ack id] (fun _ => Stands name) F :=
  newLine_output (g := (withCorrelation · id)) fun _ => rfl

theorem handleHeartbeat_output {env : Envelope} (hc : env.command = .ping) :
    output.Says (Stands name) (handleHeartbeat rt cfg handlers env none)
      [.pong name env.messageId] (fun _ => Stands name) F := by
  unfold handleHeartbeat
  rw [if_pos hc]
  refine (call_output _ rfl).after fun _ => Says.get fun w hw => ?_
  obtain ⟨-, rfl⟩ := hw
  exact newLine_output (g := (withCorrelation · env.messageId)) fun _ => rfl

theorem handleConfig_output {env : Envelope} (hc : env.command = .configure)
    {given : String × List String} (hgiven : configuration env = .ok given) :
    output.Says (Stands name) (handleConfig rt cfg handlers env none)
      [.ack env.messageId, .update "CONFIGURED", .update "RUNNING"]
      (fun _ => Stands "RUNNING") F := by
  have hflag : output.Says (Stands "RUNNING") newStopFlag [] (fun _ => Stands "RUNNING")
      fun _ => False :=
    Says.run fun w hw => ⟨_, _, rfl, hw, (List.append_nil _).symm⟩
  unfold handleConfig
  rw [if_pos hc]
  refine (ofExcept_output hgiven).after fun _ => Says.assume ?_
  rintro rfl
  exact (call_output _ rfl).after fun _ => (sendAck_output _).seq fun _ =>
    (sendStateUpdate_output .configured).seq fun _ => (sendStateUpdate_output .running).before
      fun _ => hflag.after fun _ => call_output _ rfl

theorem handleErrorMsg_output {env : Envelope} {code message : String} {recoverable : Bool}
    (h : errorReport env = .ok (code, message, recoverable)) :
    output.Says (Stands name) (handleErrorMsg handlers env none) []
      (fun fatal w => fatal = !recoverable ∧ Stands name w) F := by
  unfold handleErrorMsg
  refine (ofExcept_output h).after fun _ => Says.assume ?_
  rintro rfl
  exact (call_output _ rfl).after fun _ => Says.pure fun _ hw => ⟨rfl, hw⟩

theorem dispatch_output {env : Envelope} {o : Order} (h : Is env o) (hs : o.isShutdown = false) :
    output.Says (Stands name) (dispatch rt cfg handlers env none) (o.answers false name)
      (fun stops w => stops = false ∧ Stands (o.following name) w) F := by
  have again : ∀ {x : Task Unit} {out : List Said} {name' : String},
      output.Says (Stands name) x out (fun _ => Stands name') F →
      output.Says (Stands name) (do x; return false) out
        (fun stops w => stops = false ∧ Stands name' w) F :=
    fun hx => hx.before fun _ => Says.pure fun _ hw => ⟨rfl, hw⟩
  obtain ⟨kind, id⟩ := o
  obtain ⟨hid, hkind⟩ := h
  obtain rfl : env.messageId = id := hid
  unfold dispatch
  cases kind with
  | reborn => exact hkind.elim
  | shutdown => cases hs
  | ping =>
    obtain ⟨ht, hc⟩ := hkind
    rw [ht]
    exact again (handleHeartbeat_output hc)
  | configure =>
    obtain ⟨ht, hc, given, hgiven⟩ := hkind
    rw [ht]
    exact again (handleConfig_output hc hgiven)
  | recoverableError =>
    obtain ⟨ht, code, message, hreport⟩ := hkind
    rw [ht]
    refine (handleErrorMsg_output hreport).after fun fatal => Says.assume ?_
    rintro rfl
    exact Says.pure fun _ hw => ⟨rfl, hw⟩

theorem dispatch_shutdown {env : Envelope} {o : Order} (h : Is env o) (hs : o.isShutdown = true) :
    output.Says (Stands name) (dispatch rt cfg handlers env none) (o.answers false name)
      (fun stops w => stops = true ∧ Stands name w) F := by
  obtain ⟨kind, id⟩ := o
  obtain rfl : kind = .shutdown := of_decide_eq_true hs
  obtain ⟨hid, ht, hc⟩ := h
  obtain rfl : env.messageId = id := hid
  unfold dispatch handleLifecycle
  rw [ht, hc]
  exact (sendAck_output _).before fun _ => Says.pure fun _ hw => ⟨rfl, hw⟩

theorem gracefulShutdown_output :
    output.Says (Stands name) (gracefulShutdown rt cfg handlers none) [.notice]
      (fun _ => Stands "SHUTDOWN") F := by
  have hnotice : output.Says (Stands name) (ignore do
      let env ← create rt cfg .lifecycle .shutdown (.obj [])
      sendLine env) [.notice] (fun _ => Stands name) F :=
    Says.ignore (newLine_output (g := id) fun _ => rfl)
  unfold gracefulShutdown
  exact Says.get fun w _ => (emit_output rfl).after fun _ => (call_output _ rfl).after fun _ =>
    hnotice.before fun _ => setState_output .shutdown

/-- A read gives the message, and the handler to which it leads returns. -/
def Gives (rt : Runtime) (read : Read) (v : Json) : Prop :=
  read.raises = none ∧ ∃ bytes, read.event = .line bytes ∧ rt.fromString bytes = some v

theorem decode_of_gives {read : Read} {v : Json} (h : Gives rt read v) :
    read.decode rt = envelopeOfJson v := by
  obtain ⟨-, bytes, hevent, hparse⟩ := h
  unfold Read.decode
  simp only [hevent, hparse]

theorem recvLine_output {read : Read} {v : Json} (h : Gives rt read v) {env : Envelope}
    (henv : envelopeOfJson v = .ok env) (rest : List Read) :
    output.Says (Stands name) (recvLine rt (read :: rest)) []
      (fun r w => r = (env, rest) ∧ Stands name w) F := by
  rw [recvLine, decode_of_gives h, henv]
  exact (emit_output rfl).after fun _ => Says.pure fun _ hw => ⟨rfl, hw⟩

theorem awaitLine_output {read : Read} {v : Json} (h : Gives rt read v) {env : Envelope}
    (henv : envelopeOfJson v = .ok env) (rest : List Read) :
    output.Says (Stands name) (awaitLine rt (read :: rest)) []
      (fun r w => r = (env, rest) ∧ Stands name w) F :=
  (emit_output rfl).after fun _ => recvLine_output h henv rest

theorem messageLoop_next {read : Read} {v : Json} (hread : Gives rt read v) {env : Envelope}
    (henv : envelopeOfJson v = .ok env) {out : List Said} {name' : String} {stop : Bool}
    (hdispatch : output.Says (Stands name) (dispatch rt cfg handlers env none) out
      (fun stops w => stops = stop ∧ Stands name' w) fun _ => False) {rest : List Read}
    {K K' : List Said → Prop}
    (hrest : output.Ends (Stands name') (if stop then gracefulShutdown rt cfg handlers none
      else messageLoop rt cfg handlers rest) K') (hK : ∀ t, K' t → K (out ++ t)) :
    output.Ends (Stands name) (messageLoop rt cfg handlers (read :: rest)) K := by
  unfold messageLoop
  refine (awaitLine_output hread henv rest).after_ends fun r => Ends.assume ?_
  rintro rfl
  refine (emit_output rfl).after_ends fun _ => ?_
  rw [hread.1]
  refine hdispatch.seq_ends (fun stops => Ends.assume ?_) hK
  rintro rfl
  exact hrest

theorem messageLoop_acks {acks : List Json} (hacks : ∀ v ∈ acks, Wire.Acks v) {reads : List Read}
    (hreads : Forall₂ (Gives rt) reads acks) {rest : List Read} {K : List Said → Prop}
    (h : output.Ends (Stands name) (messageLoop rt cfg handlers rest) K) :
    output.Ends (Stands name) (messageLoop rt cfg handlers (reads ++ rest)) K := by
  induction hreads with
  | nil => exact h
  | @cons read v reads acks hread _ ih =>
    obtain ⟨hack, hacks'⟩ := List.forall_mem_cons.mp hacks
    obtain ⟨x, ms, payload, rfl, hof, -, ht, hc⟩ := hack
    have hdecode := envelopeOfJson_wire hof (t := .control) (c := .ack) ht hc
    have hdispatch : output.Says (Stands name)
        (dispatch rt cfg handlers (ofWire x .control .ack) none) []
        (fun stops w => stops = false ∧ Stands name w) fun _ => False :=
      Says.pure fun _ hw => ⟨rfl, hw⟩
    exact messageLoop_next hread hdecode hdispatch (ih hacks') fun _ ht => ht

theorem messageLoop_lost {reads : List Read} (exn : Exn)
    (h : ∀ read ∈ reads.head?, read.decode rt = .error exn) {K : List Said → Prop} (hK : K []) :
    output.Ends (Stands name) (messageLoop rt cfg handlers reads) K := by
  have hnil : ∀ t : List Said, t = [] → K t := fun _ ht => ht ▸ hK
  have hfail : ∀ exn, output.Says (Stands name)
      (do emit .awaits; emit (.recvFailed exn); raise exn : Task (Envelope × List Read)) []
      (fun _ _ => False) (· = []) :=
    fun exn => (emit_output rfl).after fun _ => (emit_output rfl).after fun _ => Says.throw rfl
  cases reads with
  | nil => exact (hfail _).stop hnil
  | cons read rest =>
    have hdecode : read.decode rt = .error exn := h read rfl
    unfold messageLoop awaitLine
    rw [recvLine, hdecode]
    exact (hfail exn).stop hnil

theorem messageLoop_ends {os : List Order} {vs : List Json}
    (hscript : Script Wire.Conveys Wire.Acks os vs) {reads : List Read}
    (hreads : Forall₂ (Gives rt) reads vs) :
    output.Ends (Stands name) (messageLoop rt cfg handlers reads) (Tells name (readable os)) := by
  induction hscript generalizing reads name with
  | done =>
    cases hreads
    exact messageLoop_lost (.other "End_of_file") (by simp) (tells_nil closing_nil)
  | @order o v acks os vs hconveys hlength hacks _ ih =>
    obtain ⟨read, reads', hread, hreads', rfl⟩ := List.forall₂_cons_right_iff.mp hreads
    cases hr : o.isReborn with
    | true =>
      obtain ⟨exn, hlost⟩ := decode_reborn hconveys hr
      rw [readable_reborn hr]
      refine messageLoop_lost exn (fun r hr => ?_) (tells_nil closing_nil)
      obtain rfl := Option.some.inj hr
      rw [decode_of_gives hread, hlost]
    | false =>
      obtain ⟨env, henv, his⟩ := Is.of_conveys hconveys hr
      obtain ⟨ackReads, rest, rfl, hackReads, hrest⟩ := forall₂_split hreads'
      rw [readable_cons hr]
      cases hs : o.isShutdown with
      | true =>
        have hclose : output.Ends (Stands name) (gracefulShutdown rt cfg handlers none) Closing :=
          gracefulShutdown_output.ends (F := fun _ => False) closing_notice fun _ h => h.elim
        exact messageLoop_next hread henv (dispatch_shutdown his hs) hclose
          fun t ht => tells_last hs ht
      | false =>
        have hgoes : output.Ends (Stands (o.following name))
            (messageLoop rt cfg handlers (ackReads ++ rest))
            (Tells (o.following name) (readable os)) :=
          messageLoop_acks hacks hackReads (ih hrest)
        exact messageLoop_next hread henv (dispatch_output his hs) hgoes
          fun t ht => tells_next hs ht

theorem storeIdentity_output {payload : Payload} {x : Wire} (h : x.Holds payload) {id id' : String}
    (hid : ("component_id", Json.str id) ∈ payload)
    (hid' : ("session_id", Json.str id') ∈ payload) :
    output.Says (Stands name) (storeIdentity x.payload) [] (fun _ => Stands "REGISTERED") F := by
  have look : ∀ {key : String} {id : String}, (key, Json.str id) ∈ payload →
      (do toString (← member key x.payload) : Except Exn String) = .ok id := by
    intro key id hmem
    rw [member_payload h hmem]
    rfl
  have ok : ∀ i : String,
      output.Says (Stands name) (ofExcept (.ok i)) [] (fun _ => Stands name) F :=
    fun _ => Says.pure fun _ hw => hw
  unfold storeIdentity
  rw [look hid, look hid']
  exact (ok id).after fun _ => (modify_output (fun _ => rfl) fun _ hw => hw).after fun _ =>
    (ok id').after fun _ => (modify_output (fun _ => rfl) fun _ hw => hw).after fun _ =>
    setState_output .registered

theorem doRegister_output {v : Json} (hv : Wire.Registers v) {read : Read} (hread : Gives rt read v)
    (rest : List Read) :
    output.Says (Stands name) (doRegister rt cfg (read :: rest)) [.register]
      (fun r w => r = rest ∧ Stands "REGISTERED" w) F := by
  obtain ⟨x, ms, payload, i, i', rfl, hof, hpayload, ht, hc, hi, hi'⟩ := hv
  have hdecode := envelopeOfJson_wire hof (t := .lifecycle) (c := .registered) ht hc
  have hline : output.Says (Stands name)
      (create rt cfg .lifecycle .register (registerPayload cfg) >>= fun env => sendLine env)
      [.register] (fun _ => Stands name) F :=
    newLine_output (g := id) fun _ => rfl
  have hsplit : doRegister rt cfg (read :: rest) =
      (create rt cfg .lifecycle .register (registerPayload cfg) >>= fun env => sendLine env) >>=
      fun _ => recvLine rt (read :: rest) >>= fun answer => do
        if answer.1.command ≠ .registered then
          raise (.registrationError
            ("unexpected response: " ++ stringOfCommand answer.1.command))
        else
          storeIdentity answer.1.payload
          return answer.2 := by
    rw [bind_assoc]
    rfl
  rw [hsplit]
  refine hline.before fun _ => (recvLine_output hread hdecode rest).after fun answer =>
    Says.assume ?_
  rintro rfl
  exact (storeIdentity_output hpayload hi hi').before fun _ => Says.pure fun _ hw => ⟨rfl, hw⟩

end Orders

/-- A connection on which these messages come, where nothing fails. -/
structure Hears (rt : Runtime) (link : Link) (vs : List Json) : Prop where
  socket : link.socket = true
  connect : link.connect = true
  reads : Forall₂ (Gives rt) link.reads vs
  writes : ∀ ok ∈ link.writes, ok = true

section Connections

variable (rt : Runtime) (cfg : Config) (handlers : Handlers)

/-- What the client says on a connection after REGISTER, up to a closing notice. -/
def spoken (link : Link) (w : World) : List Said :=
  dialogueOf (output.since w (final (runOnce rt cfg handlers link w)))

theorem session_ends {registered : Json} (hregistered : Wire.Registers registered)
    {acks vs : List Json} (hacks : ∀ v ∈ acks, Wire.Acks v) {os : List Order}
    (hscript : Script Wire.Conveys Wire.Acks os vs) {link : Link}
    (h : Hears rt link (registered :: (acks ++ vs))) {name : String} :
    output.Ends (Stands name) (session rt cfg handlers link) fun out =>
      ∃ rest, out = .register :: rest ∧ Tells "REGISTERED" (readable os) rest := by
  obtain ⟨read, reads, hread, hreads, hsplit⟩ := List.forall₂_cons_right_iff.mp h.reads
  obtain ⟨ackReads, rest, rfl, hackReads, hrest⟩ := forall₂_split hreads
  unfold session
  rw [hsplit]
  refine (doRegister_output hregistered hread _).seq_ends (fun r => Ends.assume ?_)
    fun t ht => ⟨t, rfl, ht⟩
  rintro rfl
  exact messageLoop_acks hacks hackReads (messageLoop_ends hscript hrest)

/-- In a conversation with a daemon the client says what one does that is REGISTERED and does
not know REBORN, up to the first REBORN. -/
theorem spoken_eq {registered : Json} (hregistered : Wire.Registers registered)
    {acks vs : List Json} (hacks : ∀ v ∈ acks, Wire.Acks v) {os : List Order}
    (hscript : Script Wire.Conveys Wire.Acks os vs) {link : Link}
    (h : Hears rt link (registered :: (acks ++ vs))) (w : World) :
    spoken rt cfg handlers link w = said false "REGISTERED" (readable os) := by
  have hrun : runOnce rt cfg handlers link w =
      protect (.close w.sockets) (session rt cfg handlers link) (w.connected link) := by
    unfold runOnce
    rw [h.socket, h.connect]
    rfl
  have hstands : Stands (stringOfState w.client.state) (w.connected link) := ⟨h.writes, rfl⟩
  obtain ⟨t, ⟨rest, rfl, htells⟩, hheard⟩ :=
    (session_ends rt cfg handlers hregistered hacks hscript h).final hstands
  have hopened : output.heard (w.connected link) = output.heard w := by
    simp [heard, output, World.connected, World.opened, Event.said]
  have hclosed : output.heard (final (runOnce rt cfg handlers link w)) =
      output.heard w ++ .register :: rest := by
    rw [hrun, final_protect, ← hopened, ← hheard]
    exact (heard_record rfl).trans (List.append_nil _)
  rw [spoken, since_eq hclosed]
  exact dialogueOf_tells [] (List.forall_mem_nil _) htells

end Connections

end AegisSdk.OCaml
