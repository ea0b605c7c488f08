import AegisSdk.Codecs
import AegisSdk.Cpp.Client
import AegisSdk.Library.Output
import AegisSdk.Protocol.Wire

/-!
The C++ client in a conversation with the daemon, while no other thread calls `stop()` and
every worker returns once it is told: it is REGISTERED until the first CONFIGURE, and shuts
down at a REBORN, which its decoder does not know. After the ACK of a SHUTDOWN it may wait for
a worker that has not been told.
-/

set_option autoImplicit false
set_option relaxedAutoImplicit false

namespace AegisSdk.Cpp

open AegisSdk.Protocol AegisSdk.Library AegisSdk.Library.Output
open List (Forall₂)

def Envelope.said (env : Envelope) : Said where
  type := env.msgType.toString
  command := env.command.toString
  state := contained env.payload "state"
  correlationId := env.correlationId

def Event.said : Event → Option Said
  | .write env .complete => some env.said
  | _ => none

def output : Output World Event Said where
  trace := World.trace
  view := Event.said

/-- No thread calls `stop()`, and no worker ignores its token. -/
structure Threads.Calm (th : Threads) : Prop where
  stops : ∀ step, th.stops step = []
  returns : ∀ worker, th.fate worker ≠ .never

section Decoding

variable {x : Wire} {ms payload : Payload}

/-- An envelope of a known type and command as it is decoded. -/
def ofWire (x : Wire) (t : MessageType) (c : Command) : Envelope where
  protocolVersion := x.protocolVersion
  messageId := x.messageId
  correlationId := x.correlationId
  timestamp := x.timestamp
  source := x.source
  target := x.target
  msgType := t
  command := c
  payload := x.payload

theorem toJson_ofWire {t : MessageType} {c : Command} (ht : x.type = t.toString)
    (hc : x.command = c.toString) : (ofWire x t c).toJson = .obj x.members := by
  unfold Wire.members
  rw [ht, hc]
  rfl

theorem fromJson_wire (h : x.Of ms) {t : MessageType} {c : Command} (ht : x.type = t.toString)
    (hc : x.command = c.toString) : Envelope.fromJson (.obj ms) = .ok (ofWire x t c) := by
  rw [fromJson_perm h h.nodup, ← toJson_ofWire ht hc, fromJson_toJson]

theorem value_payload {α : Type} (h : x.Holds payload) {cast : Json → Option α} {key : String}
    {v : Json} {a default : α} (hmem : (key, v) ∈ payload) (hcast : cast v = some a) :
    value cast x.payload key default = .ok a := by
  unfold value find getAs
  rw [h.object]
  dsimp only
  rw [h.get hmem]
  dsimp only
  rw [hcast]

theorem fromJson_reborn (h : x.Of ms) {t : MessageType} (ht : x.type = t.toString)
    (hc : x.command = "REBORN") : ∃ e, Envelope.fromJson (.obj ms) = .error e := by
  have hcommand : commandFromString "REBORN" =
      .error (.runtimeError ("Unknown command: " ++ "REBORN")) := by
    simp [commandFromString]
  rw [fromJson_perm h h.nodup]
  refine ⟨.runtimeError ("Unknown command: " ++ "REBORN"), ?_⟩
  cases hcorr : x.correlationId <;>
    simp [Envelope.fromJson, Wire.members, Wire.optional, value, find, Payload.get, getAs,
      correlationFromJson, contained, ht, hc, hcorr, hcommand, bind, Except.bind, Except.map]

theorem type_known {name : String} (h : name ∈ Wire.types) :
    ∃ t : MessageType, name = t.toString := by
  simp only [Wire.types, List.mem_cons, List.not_mem_nil, or_false] at h
  rcases h with rfl | rfl | rfl | rfl | rfl | rfl
  exacts [⟨.control, rfl⟩, ⟨.lifecycle, rfl⟩, ⟨.config, rfl⟩, ⟨.error, rfl⟩, ⟨.heartbeat, rfl⟩,
    ⟨.data, rfl⟩]

theorem command_known {name : String} (h : name ∈ Wire.commands) :
    ∃ c : Command, name = c.toString := by
  simp only [Wire.commands, List.mem_cons, List.not_mem_nil, or_false] at h
  rcases h with rfl | rfl | rfl | rfl | rfl | rfl | rfl | rfl | rfl | rfl | rfl | rfl
  exacts [⟨.register, rfl⟩, ⟨.registered, rfl⟩, ⟨.stateUpdate, rfl⟩, ⟨.shutdown, rfl⟩, ⟨.ack, rfl⟩,
    ⟨.nack, rfl⟩, ⟨.configure, rfl⟩, ⟨.configured, rfl⟩, ⟨.ping, rfl⟩, ⟨.pong, rfl⟩,
    ⟨.runtimeError, rfl⟩, ⟨.registrationFailed, rfl⟩]

end Decoding

structure Is (env : Envelope) (o : Order) : Prop where
  id : env.messageId = o.id
  kind : match o.kind with
    | .ping => env.msgType = .heartbeat ∧ env.command = .ping
    | .configure => env.msgType = .config ∧ env.command = .configure ∧
      ∃ given, configuration env = .ok given
    | .reborn => False
    | .recoverableError => env.msgType = .error ∧
      ∃ code message, errorReport env = .ok (code, message, true)
    | .shutdown => env.msgType = .lifecycle ∧ env.command = .shutdown

theorem mapM_getAs (topics : List String) :
    (topics.map Json.str).mapM (getAs Json.asStr) = .ok topics := by
  induction topics with
  | nil => rfl
  | cons topic topics ih =>
    rw [List.map_cons, List.mapM_cons, ih]
    rfl

theorem Is.of_conveys {v : Json} {o : Order} (h : Wire.Conveys v o) (hr : o.isReborn = false) :
    ∃ env, Envelope.fromJson v = .ok env ∧ Is env o := by
  obtain ⟨kind, id⟩ := o
  obtain ⟨x, ms, payload, rfl, hof, hpayload, hid, hbears⟩ := h
  cases hbears with
  | reborn => cases hr
  | ping ht hc =>
    have hdecode := fromJson_wire hof (t := .heartbeat) (c := .ping) ht hc
    exact ⟨_, hdecode, hid, rfl, rfl⟩
  | shutdown ht hc =>
    have hdecode := fromJson_wire hof (t := .lifecycle) (c := .shutdown) ht hc
    exact ⟨_, hdecode, hid, rfl, rfl⟩
  | configure socket topics ht hc hsocket htopics =>
    have hdecode := fromJson_wire hof (t := .config) (c := .configure) ht hc
    have hgiven : Cpp.topics x.payload = .ok topics := by
      unfold Cpp.topics contained find
      rw [hpayload.object]
      dsimp only
      rw [hpayload.get htopics]
      exact mapM_getAs topics
    refine ⟨_, hdecode, hid, rfl, rfl, (socket, topics), ?_⟩
    show (do
      let sock ← value Json.asStr x.payload "data_stream_socket" ""
      let topics ← Cpp.topics x.payload
      return (sock, topics)) = _
    rw [value_payload hpayload hsocket (Json.asStr_str socket), hgiven]
    rfl
  | recoverableError code message ht hc hcode hmessage hrecoverable =>
    obtain ⟨c, hc⟩ := command_known hc
    have hdecode := fromJson_wire hof (t := .error) (c := c) ht hc
    refine ⟨_, hdecode, hid, rfl, code, message, ?_⟩
    show (do
      let code ← value Json.asStr x.payload "code" "UNKNOWN"
      let message ← value Json.asStr x.payload "message" ""
      let recoverable ← value Json.asBool x.payload "recoverable" false
      return (code, message, recoverable)) = _
    have hflag : Json.asBool (.bool true) = some true := rfl
    rw [value_payload hpayload hcode (Json.asStr_str code),
      value_payload hpayload hmessage (Json.asStr_str message),
      value_payload hpayload hrecoverable hflag]
    rfl

theorem fromJson_conveys_reborn {v : Json} {o : Order} (h : Wire.Conveys v o)
    (hr : o.isReborn = true) : ∃ e, Envelope.fromJson v = .error e := by
  have hkind : o.kind = .reborn := of_decide_eq_true hr
  obtain ⟨x, ms, payload, rfl, hof, -, -, hbears⟩ := h
  rw [hkind] at hbears
  cases hbears with
  | reborn ht hc => exact fromJson_reborn hof (t := .lifecycle) ht hc

/-- Writes are complete, and the client is in the state of this name and running or not. -/
structure Stands (running : Bool) (name : String) (w : World) : Prop where
  writes : ∀ result ∈ w.writes, result = .complete
  state : w.state.toString = name
  running : w.running = running

section Orders

variable {rt : Runtime} {cfg : Config} {th : Threads} {b : Bool} {name : String}
  {F : List Said → Prop}

theorem interfere_calm (hth : th.Calm) (w : World) : w.interfere th = w := by
  unfold World.interfere
  rw [hth.stops]
  rfl

theorem act_calm (hth : th.Calm) (w : World) (e : Event) : w.act th e = w.record e := by
  unfold World.act
  rw [interfere_calm hth]

theorem emit_output (hth : th.Calm) {e : Event} (h : e.said = none) :
    output.Says (Stands b name) (emit th e) [] (fun _ => Stands b name) F := by
  refine Says.log (fun w _ => ⟨e, ?_, congrArg Option.toList h⟩) fun w hw => ?_
  · rw [act_calm hth]
    rfl
  · rw [act_calm hth]
    exact ⟨hw.writes, hw.state, hw.running⟩

theorem ofExcept_output {α : Type} {x : Except Exception α} {a : α} (h : x = .ok a) :
    output.Says (Stands b name) (ofExcept x) [] (fun r w => r = a ∧ Stands b name w) F := by
  subst h
  exact Says.pure fun _ hw => ⟨rfl, hw⟩

theorem modify_output {f : World → World} (htrace : ∀ w, (f w).trace = w.trace)
    (h : ∀ w, Stands b name w → Stands b name (f w)) :
    output.Says (Stands b name) (modify f : Task Unit) [] (fun _ => Stands b name) F :=
  Says.update htrace h

theorem store_output (hth : th.Calm) (s : ComponentState) :
    output.Says (Stands b name) (store th s) [] (fun _ => Stands b s.toString) F :=
  (emit_output hth rfl).after fun _ =>
    Says.update (fun _ => rfl) fun _ hw => ⟨hw.writes, rfl, hw.running⟩

theorem sendEnvelope_output (hth : th.Calm) {env : Envelope} {l : Said} (henv : env.said = l) :
    output.Says (Stands b name) (sendEnvelope th env) [l] (fun _ => Stands b name) F := by
  refine Says.run fun w hw => ?_
  have hhead : w.writes.headD .complete = .complete := by
    cases heq : w.writes with
    | nil => rfl
    | cons result rest => exact hw.writes result (heq ▸ List.mem_cons_self)
  have hrun : sendEnvelope th env w = .ok () ({ w with writes := w.writes.tail }.act th
      (.write env (w.writes.headD .complete))) := rfl
  rw [hhead, act_calm hth] at hrun
  have hrest : ∀ result ∈ w.writes.tail, result = .complete :=
    fun result h => hw.writes result (List.mem_of_mem_tail h)
  have hheard : output.heard ({ w with writes := w.writes.tail }.record (.write env .complete)) =
      output.heard w ++ [env.said] := heard_record (e := Event.write env .complete) rfl
  exact ⟨(), _, hrun, ⟨hrest, hw.state, hw.running⟩, hheard.trans (by rw [henv])⟩

theorem newLine_output (hth : th.Calm) {t : MessageType} {c : Command} {payload : Json}
    {g : Envelope → Envelope} {l : Said}
    (henv : ∀ stamp, (g (Envelope.make stamp t c (source cfg) payload)).said = l) :
    output.Says (Stands b name) (make rt cfg t c payload >>= fun env => sendEnvelope th (g env)) [l]
      (fun _ => Stands b name) F := by
  have hmake : output.Says (Stands b name) (make rt cfg t c payload) []
      (fun env w => (∃ stamp, env = Envelope.make stamp t c (source cfg) payload) ∧ Stands b name w)
      F :=
    Says.run fun _ hw => ⟨_, _, rfl, ⟨⟨_, rfl⟩, ⟨hw.writes, hw.state, hw.running⟩⟩,
      (List.append_nil _).symm⟩
  refine hmake.after fun env => Says.assume ?_
  rintro ⟨stamp, rfl⟩
  exact sendEnvelope_output hth (henv stamp)

theorem sendStateUpdate_output (hth : th.Calm) (s : ComponentState) :
    output.Says (Stands b name) (sendStateUpdate rt cfg th s) [.update s.toString]
      (fun _ => Stands b s.toString) F := by
  have hsplit : sendStateUpdate rt cfg th s =
      (make rt cfg .lifecycle .stateUpdate (.obj [("state", .str s.toString)]) >>=
        fun env => sendEnvelope th env) >>= fun _ => store th s := by
    rw [bind_assoc]
    rfl
  have hline : output.Says (Stands b name)
      (make rt cfg .lifecycle .stateUpdate (.obj [("state", .str s.toString)]) >>=
        fun env => sendEnvelope th env) [.update s.toString] (fun _ => Stands b name) F :=
    newLine_output hth (g := id) fun _ => rfl
  rw [hsplit]
  exact hline.before fun _ => store_output hth s

theorem sendAck_output (hth : th.Calm) (id : String) :
    output.Says (Stands b name) (sendAck rt cfg th id) [.ack id] (fun _ => Stands b name) F :=
  newLine_output hth (g := (Envelope.withCorrelation · id)) fun _ => rfl

theorem handleHeartbeat_output (hth : th.Calm) {env : Envelope} (hc : env.command = .ping) :
    output.Says (Stands b name) (handleHeartbeat rt cfg th env) [.pong name env.messageId]
      (fun _ => Stands b name) F := by
  unfold handleHeartbeat
  rw [if_pos hc]
  refine (emit_output hth rfl).after fun _ => Says.get fun w hw => ?_
  obtain ⟨-, rfl, -⟩ := hw
  exact newLine_output hth (g := (Envelope.withCorrelation · env.messageId)) fun _ => rfl

theorem waitFor_told (hth : th.Calm) {worker : Nat} :
    output.Says (fun w => worker ∈ w.requested ∧ Stands b name w) (waitFor th worker) []
      (fun _ => Stands b name) F := by
  unfold waitFor
  cases hfate : th.fate worker with
  | never => exact absurd hfate (hth.returns worker)
  | returns step => exact Says.pure fun _ hw => hw.2
  | whenTold =>
    refine Says.get fun w hw => ?_
    rw [if_pos hw.1]
    exact Says.pure fun _ hw => hw.2

theorem destroyWorker_output (hth : th.Calm) (worker : Option Nat) :
    output.Says (Stands b name) (destroyWorker th worker) [] (fun _ => Stands b name) F := by
  cases worker with
  | none => exact Says.pure fun _ hw => hw
  | some worker =>
    have htold : output.Says (Stands b name)
        (modify fun w => { w with requested := w.requested ++ [worker] } : Task Unit) []
        (fun _ w => worker ∈ w.requested ∧ Stands b name w) F :=
      Says.update (fun _ => rfl) fun _ hw => ⟨by simp, hw.writes, hw.state, hw.running⟩
    exact (emit_output hth rfl).after fun _ => htold.after fun _ => waitFor_told hth

theorem renewSource_output (hth : th.Calm) :
    output.Says (Stands b name) (renewSource th) [] (fun _ => Stands b name) F := by
  unfold renewSource
  refine Says.get fun w _ => (emit_output hth rfl).after fun _ => modify_output ?_ ?_
  · exact fun _ => rfl
  · exact fun _ hw => ⟨hw.writes, hw.state, hw.running⟩

theorem startWorker_output (hth : th.Calm) :
    output.Says (Stands b name) (startWorker th) [] (fun _ => Stands b name) F := by
  unfold startWorker
  refine Says.get fun w _ => (emit_output hth rfl).after fun _ => Says.after (modify_output ?_ ?_)
    fun _ => destroyWorker_output hth w.worker
  · exact fun _ => rfl
  · exact fun _ hw => ⟨hw.writes, hw.state, hw.running⟩

theorem handleConfig_output (hth : th.Calm) {env : Envelope} (hc : env.command = .configure)
    {given : String × List String} (hgiven : configuration env = .ok given) :
    output.Says (Stands b name) (handleConfig rt cfg th env)
      [.ack env.messageId, .update "CONFIGURED", .update "RUNNING"]
      (fun _ => Stands b "RUNNING") F := by
  unfold handleConfig
  rw [if_pos hc]
  refine (ofExcept_output hgiven).after fun _ => Says.assume ?_
  rintro rfl
  exact (emit_output hth rfl).after fun _ => (sendAck_output hth _).seq fun _ =>
    (sendStateUpdate_output hth .configured).seq fun _ =>
    (sendStateUpdate_output hth .running).before fun _ =>
    (renewSource_output hth).after fun _ => startWorker_output hth

theorem handleErrorMsg_output (hth : th.Calm) {env : Envelope} {code message : String}
    {recoverable : Bool} (h : errorReport env = .ok (code, message, recoverable)) :
    output.Says (Stands b name) (handleErrorMsg th env) []
      (fun fatal w => fatal = !recoverable ∧ Stands b name w) F := by
  unfold handleErrorMsg
  refine (ofExcept_output h).after fun _ => Says.assume ?_
  rintro rfl
  exact (emit_output hth rfl).after fun _ => Says.pure fun _ hw => ⟨rfl, hw⟩

theorem dispatch_output (hth : th.Calm) {env : Envelope} {o : Order} (h : Is env o)
    (hs : o.isShutdown = false) :
    output.Says (Stands b name) (dispatch rt cfg th env) (o.answers false name)
      (fun stops w => stops = false ∧ Stands b (o.following name) w) F := by
  have again : ∀ {x : Task Unit} {out : List Said} {name' : String},
      output.Says (Stands b name) x out (fun _ => Stands b name') F →
      output.Says (Stands b name) (do x; return false) out
        (fun stops w => stops = false ∧ Stands b name' w) F :=
    fun hx => hx.before fun _ => Says.pure fun _ hw => ⟨rfl, hw⟩
  obtain ⟨kind, id⟩ := o
  obtain ⟨hid, hkind⟩ := h
  obtain rfl : env.messageId = id := hid
  unfold dispatch
  cases kind with
  | reborn => exact hkind.elim
  | shutdown => cases hs
  | ping =>
    obtain ⟨ht, hc⟩ := hkind
    rw [ht]
    exact again (handleHeartbeat_output hth hc)
  | configure =>
    obtain ⟨ht, hc, given, hgiven⟩ := hkind
    rw [ht]
    exact again (handleConfig_output hth hc hgiven)
  | recoverableError =>
    obtain ⟨ht, code, message, hreport⟩ := hkind
    rw [ht]
    refine (handleErrorMsg_output hth hreport).after fun fatal => Says.assume ?_
    rintro rfl
    exact Says.pure fun _ hw => ⟨rfl, hw⟩

theorem hang_output (hth : th.Calm) :
    output.Says (Stands b name) (hang th) [] (fun _ => Stands b name) (· = []) := by
  have hsame : output.Says (Stands b name) (modify fun w => w.interfere th : Task Unit) []
      (fun _ => Stands b name) (· = []) := by
    refine modify_output (fun w => ?_) fun w hw => ?_
    · rw [interfere_calm hth]
    · rwa [interfere_calm hth]
  exact hsame.after fun _ => Says.throw rfl

theorem waitFor_output (hth : th.Calm) (worker : Nat) :
    output.Says (Stands b name) (waitFor th worker) [] (fun _ => Stands b name) (· = []) := by
  unfold waitFor
  cases th.fate worker with
  | never => exact hang_output hth
  | returns step => exact Says.pure fun _ hw => hw
  | whenTold =>
    refine Says.get fun w _ => ?_
    split
    · exact Says.pure fun _ hw => hw
    · exact hang_output hth

theorem requestStop_output (hth : th.Calm) :
    output.Says (Stands b name) (requestStop th) [] (fun _ => Stands b name) F := by
  unfold requestStop
  refine Says.get fun w _ => (emit_output hth rfl).after fun _ => modify_output ?_ ?_
  · exact fun _ => rfl
  · exact fun _ hw => ⟨hw.writes, hw.state, hw.running⟩

theorem joinWorker_output (hth : th.Calm) (worker : Option Nat) :
    output.Says (Stands b name) (joinWorker th worker) [] (fun _ => Stands b name) (· = []) := by
  cases worker with
  | none => exact Says.pure fun _ hw => hw
  | some worker =>
    refine (requestStop_output hth).after fun _ => (emit_output hth rfl).after fun _ =>
      (waitFor_output hth worker).after fun _ => (emit_output hth rfl).after fun _ =>
        modify_output ?_ ?_
    · exact fun _ => rfl
    · exact fun _ hw => ⟨hw.writes, hw.state, hw.running⟩

theorem gracefulShutdown_output (hth : th.Calm) :
    output.Says (Stands b name) (gracefulShutdown rt cfg th) [.notice]
      (fun _ => Stands b "SHUTDOWN") (· = []) := by
  have hline : output.Says (Stands b name)
      (make rt cfg .lifecycle .shutdown (.obj []) >>= fun env => sendEnvelope th env) [.notice]
      (fun _ => Stands b name) (· = []) :=
    newLine_output hth (g := id) fun _ => rfl
  have hrest : output.Says (Stands b name) (do
      let env ← make rt cfg .lifecycle .shutdown (.obj [])
      sendEnvelope th env
      store th .shutdown) [.notice] (fun _ => Stands b "SHUTDOWN") (· = []) := by
    have hsplit : (do
        let env ← make rt cfg .lifecycle .shutdown (.obj [])
        sendEnvelope th env
        store th .shutdown : Task Unit) =
        (make rt cfg .lifecycle .shutdown (.obj []) >>= fun env => sendEnvelope th env) >>=
          fun _ => store th .shutdown := by
      rw [bind_assoc]
    rw [hsplit]
    exact hline.before fun _ => store_output hth .shutdown
  unfold gracefulShutdown
  exact Says.get fun w _ => (joinWorker_output hth w.worker).after fun _ =>
    (emit_output hth rfl).after fun _ => hrest

theorem gracefulShutdown_closing (hth : th.Calm) :
    output.Ends (Stands b name) (gracefulShutdown rt cfg th) Closing :=
  (gracefulShutdown_output hth).ends closing_notice fun _ ht => ht ▸ closing_nil

theorem dispatch_shutdown (hth : th.Calm) {env : Envelope} {o : Order} (h : Is env o)
    (hs : o.isShutdown = true) :
    output.Says (Stands b name) (dispatch rt cfg th env) (o.answers false name ++ [.notice])
      (fun stops w => stops = true ∧ Stands b "SHUTDOWN" w) (· = o.answers false name) := by
  obtain ⟨kind, id⟩ := o
  obtain rfl : kind = .shutdown := of_decide_eq_true hs
  obtain ⟨hid, ht, hc⟩ := h
  obtain rfl : env.messageId = id := hid
  unfold dispatch handleLifecycle
  rw [ht]
  dsimp only
  rw [if_pos hc]
  refine (sendAck_output hth _).bind (fun _ => (gracefulShutdown_output hth).before fun _ =>
    Says.pure fun _ hw => ⟨rfl, hw⟩) fun t ht => ?_
  rw [ht]
  rfl

theorem loopHead_output (hth : th.Calm) :
    output.Says (Stands true name) (loopHead th) []
      (fun goes w => goes = true ∧ Stands true name w) F := by
  refine Says.run fun w hw => ?_
  have hrun : loopHead th w = .ok (w.interfere th).running
      ((w.interfere th).record (.head (w.interfere th).running)) := rfl
  rw [interfere_calm hth] at hrun
  exact ⟨_, _, hrun, ⟨hw.running, hw.writes, hw.state, hw.running⟩,
    heard_record (e := Event.head w.running) rfl⟩

def Gives (rt : Runtime) (line : List UInt8) (v : Json) : Prop :=
  line ≠ [] ∧ (10 : UInt8) ∉ line ∧ rt.parse line = some v

theorem recvEnvelope_of_gives {line : List UInt8} {v : Json} (h : Gives rt line v) :
    recvEnvelope rt line = Envelope.fromJson v := by
  obtain ⟨hne, -, hparse⟩ := h
  have hempty : line.isEmpty = false := by simpa using hne
  unfold recvEnvelope
  rw [hempty, hparse]
  rfl

theorem messageLoop_next (hth : th.Calm) {line : List UInt8} {v : Json} (hline : Gives rt line v)
    {env : Envelope} (henv : Envelope.fromJson v = .ok env) {out : List Said} {name' : String}
    {stop : Bool}
    (hdispatch : output.Says (Stands true name) (dispatch rt cfg th env) out
      (fun stops w => stops = stop ∧ Stands true name' w) F) {rest : List (List UInt8)}
    {K K' : List Said → Prop}
    (hrest : output.Ends (Stands true name')
      (if stop then pure () else messageLoop rt cfg th rest) K')
    (hF : ∀ t, F t → K t) (hK : ∀ t, K' t → K (out ++ t)) :
    output.Ends (Stands true name) (messageLoop rt cfg th (line :: rest)) K := by
  unfold messageLoop
  refine (loopHead_output hth).after_ends fun goes => Ends.assume ?_
  rintro rfl
  rw [if_pos rfl, recvEnvelope_of_gives hline, henv]
  refine (emit_output hth rfl).after_ends fun _ => (emit_output hth rfl).after_ends fun _ =>
    hdispatch.bind_ends (fun stops => Ends.assume ?_) hF hK
  rintro rfl
  exact hrest

theorem messageLoop_acks (hth : th.Calm) {acks : List Json} (hacks : ∀ v ∈ acks, Wire.Acks v)
    {lines : List (List UInt8)} (hlines : Forall₂ (Gives rt) lines acks)
    {rest : List (List UInt8)} {K : List Said → Prop}
    (h : output.Ends (Stands true name) (messageLoop rt cfg th rest) K) :
    output.Ends (Stands true name) (messageLoop rt cfg th (lines ++ rest)) K := by
  induction hlines with
  | nil => exact h
  | @cons line v lines acks hline _ ih =>
    obtain ⟨hack, hacks'⟩ := List.forall_mem_cons.mp hacks
    obtain ⟨x, ms, payload, rfl, hof, -, ht, hc⟩ := hack
    have hdecode := fromJson_wire hof (t := .control) (c := .ack) ht hc
    have hdispatch : output.Says (Stands true name)
        (dispatch rt cfg th (ofWire x .control .ack)) []
        (fun stops w => stops = false ∧ Stands true name w) fun _ => False :=
      Says.pure fun _ hw => ⟨rfl, hw⟩
    exact messageLoop_next hth hline hdecode hdispatch (ih hacks') (fun _ h => h.elim)
      fun _ ht => ht

theorem messageLoop_lost (hth : th.Calm) {line : List UInt8} {e : Exception}
    (h : recvEnvelope rt line = .error e) (rest : List (List UInt8)) :
    output.Ends (Stands true name) (messageLoop rt cfg th (line :: rest)) Closing := by
  unfold messageLoop
  refine (loopHead_output hth).after_ends fun goes => Ends.assume ?_
  rintro rfl
  rw [if_pos rfl, h]
  exact (emit_output hth rfl).after_ends fun _ => gracefulShutdown_closing hth

theorem messageLoop_ends (hth : th.Calm) {os : List Order} {vs : List Json}
    (hscript : Script Wire.Conveys Wire.Acks os vs) {lines : List (List UInt8)}
    (hlines : Forall₂ (Gives rt) lines vs) :
    output.Ends (Stands true name) (messageLoop rt cfg th (lines ++ [[]]))
      (Tells name (readable os)) := by
  induction hscript generalizing lines name with
  | done =>
    cases hlines
    have hend : recvEnvelope rt [] = .error (.runtimeError "connection closed") := rfl
    exact (messageLoop_lost hth hend []).weaken (fun _ h => h) fun _ h => tells_nil h
  | @order o v acks os vs hconveys hlength hacks _ ih =>
    obtain ⟨line, l, hline, hl, rfl⟩ := List.forall₂_cons_right_iff.mp hlines
    cases hr : o.isReborn with
    | true =>
      obtain ⟨e, hlost⟩ := fromJson_conveys_reborn hconveys hr
      have herror : recvEnvelope rt line = .error e := (recvEnvelope_of_gives hline).trans hlost
      rw [readable_reborn hr]
      exact (messageLoop_lost hth herror _).weaken (fun _ h => h) fun _ h => tells_nil h
    | false =>
      obtain ⟨env, henv, his⟩ := Is.of_conveys hconveys hr
      obtain ⟨ackLines, rest, rfl, hackLines, hrest⟩ := forall₂_split hl
      rw [readable_cons hr]
      cases hs : o.isShutdown with
      | true =>
        have hdone : output.Ends (Stands true "SHUTDOWN") (pure () : Task Unit) (· = []) :=
          (Says.pure (F := fun _ => False) (Q := fun _ _ => True) fun _ _ => trivial).ends rfl
            fun _ h => h.elim
        refine messageLoop_next hth hline henv (dispatch_shutdown hth his hs) hdone ?_ ?_
        · rintro t rfl
          have h : Tells name (o :: readable os) (o.answers false name ++ []) :=
            tells_last hs closing_nil
          rwa [List.append_nil] at h
        · rintro t rfl
          have h : Tells name (o :: readable os) (o.answers false name ++ ([.notice] ++ [])) :=
            tells_last hs closing_notice
          rwa [List.append_nil]
      | false =>
        have hgoes : output.Ends (Stands true (o.following name))
            (messageLoop rt cfg th (ackLines ++ (rest ++ [[]])))
            (Tells (o.following name) (readable os)) :=
          messageLoop_acks hth hacks hackLines (ih hrest)
        rw [List.cons_append, List.append_assoc]
        exact messageLoop_next (F := fun _ => False) hth hline henv
          (dispatch_output hth his hs) hgoes (fun _ h => h.elim) fun t ht => tells_next hs ht

theorem accept_output (hth : th.Calm) {x : Wire} {payload : Payload} (h : x.Holds payload)
    {i i' : String} (hi : ("component_id", Json.str i) ∈ payload)
    (hi' : ("session_id", Json.str i') ∈ payload) :
    output.Says (Stands b name) (accept th (ofWire x .lifecycle .registered)) []
      (fun _ => Stands b "REGISTERED") F := by
  have hid : value Json.asStr x.payload "component_id" "" = .ok i :=
    value_payload h hi (Json.asStr_str i)
  have hid' : value Json.asStr x.payload "session_id" "" = .ok i' :=
    value_payload h hi' (Json.asStr_str i')
  have hregistered : ¬ (ofWire x .lifecycle .registered).command ≠ .registered := fun h => h rfl
  unfold accept
  rw [if_neg hregistered]
  refine (ofExcept_output hid).after fun _ => Says.assume fun _ => Says.after (modify_output ?_ ?_)
    fun _ => (ofExcept_output hid').after fun _ => Says.assume fun _ =>
      Says.after (modify_output ?_ ?_) fun _ => store_output hth .registered
  · exact fun _ => rfl
  · exact fun _ hw => ⟨hw.writes, hw.state, hw.running⟩
  · exact fun _ => rfl
  · exact fun _ hw => ⟨hw.writes, hw.state, hw.running⟩

theorem doRegister_output (hth : th.Calm) {v : Json} (hv : Wire.Registers v) {line : List UInt8}
    (hline : Gives rt line v) (rest : List (List UInt8)) :
    output.Says (Stands b name) (doRegister rt cfg th (line :: rest)) [.register]
      (fun _ => Stands b "REGISTERED") F := by
  obtain ⟨x, ms, payload, i, i', rfl, hof, hpayload, ht, hc, hi, hi'⟩ := hv
  have hresp : recvEnvelope rt line = .ok (ofWire x .lifecycle .registered) :=
    (recvEnvelope_of_gives hline).trans
      (fromJson_wire hof (t := .lifecycle) (c := .registered) ht hc)
  have hregister : output.Says (Stands b name)
      (make rt cfg .lifecycle .register (registerPayload cfg) >>= fun env => sendEnvelope th env)
      [.register] (fun _ => Stands b name) F :=
    newLine_output hth (g := id) fun _ => rfl
  have hsplit : doRegister rt cfg th (line :: rest) =
      (make rt cfg .lifecycle .register (registerPayload cfg) >>= fun env =>
        sendEnvelope th env) >>= fun _ => (do
          emit th (.reply (recvEnvelope rt line))
          accept th (← ofExcept (recvEnvelope rt line))) := by
    rw [bind_assoc]
    rfl
  rw [hsplit, hresp]
  refine hregister.before fun _ => (emit_output hth rfl).after fun _ =>
    (ofExcept_output rfl).after fun _ => Says.assume ?_
  rintro rfl
  exact accept_output hth hpayload hi hi'

end Orders

/-- A connection on which these messages come as lines, where nothing fails. -/
structure Hears (rt : Runtime) (link : Link) (vs : List Json) : Prop where
  socket : link.socket = true
  connect : link.connect = true
  reads : ∃ lines, Forall₂ (Gives rt) lines vs ∧
    link.reads = lines.flatMap fun line => (line ++ [10]).map some
  writes : ∀ result ∈ link.writes, result = .complete

theorem received_line (line : List UInt8) (hline : (10 : UInt8) ∉ line) (taken : List UInt8)
    (rest : List (Option UInt8)) :
    received taken ((line ++ [10]).map some ++ rest) = (taken ++ line) :: received [] rest := by
  induction line generalizing taken with
  | nil => simp [received]
  | cons ch line ih =>
    obtain ⟨hch, hline'⟩ := not_or.mp (List.mem_cons.not.mp hline)
    have hne : ¬ ch = 10 := fun h => hch h.symm
    have hnext := ih hline' (taken ++ [ch])
    rw [List.append_assoc] at hnext
    simpa [received, hne] using hnext

theorem received_lines {rt : Runtime} {lines : List (List UInt8)} {vs : List Json}
    (h : Forall₂ (Gives rt) lines vs) :
    received [] (lines.flatMap fun line => (line ++ [10]).map some) = lines ++ [[]] := by
  induction h with
  | nil => rfl
  | @cons line v lines vs hline _ ih =>
    rw [List.flatMap_cons, received_line line hline.2.1, ih]
    rfl

section Connections

variable (rt : Runtime) (cfg : Config) {th : Threads}

/-- What the client says on a connection after REGISTER, up to a closing notice. -/
def spoken (th : Threads) (link : Link) (w : World) : List Said :=
  dialogueOf (output.since w (final (runOnce rt cfg th link w)))

theorem session_ends (hth : th.Calm) {registered : Json} (hregistered : Wire.Registers registered)
    {acks vs : List Json} (hacks : ∀ v ∈ acks, Wire.Acks v) {os : List Order}
    (hscript : Script Wire.Conveys Wire.Acks os vs) {lines : List (List UInt8)}
    (hlines : Forall₂ (Gives rt) lines (registered :: (acks ++ vs))) (fd : Nat) {b : Bool}
    {name : String} :
    output.Ends (Stands b name) (do
      doRegister rt cfg th (lines ++ [[]])
      setRunning th
      messageLoop rt cfg th (lines ++ [[]]).tail
      emit th (.close fd)) fun out =>
        ∃ rest, out = .register :: rest ∧ Tells "REGISTERED" (readable os) rest := by
  obtain ⟨line, l, hline, hl, rfl⟩ := List.forall₂_cons_right_iff.mp hlines
  obtain ⟨ackLines, rest, rfl, hackLines, hrest⟩ := forall₂_split hl
  have hrunning : output.Says (Stands b "REGISTERED") (setRunning th) []
      (fun _ => Stands true "REGISTERED") fun _ => False :=
    (emit_output hth rfl).after fun _ =>
      Says.update (fun _ => rfl) fun _ hw => ⟨hw.writes, hw.state, rfl⟩
  have hloop : output.Ends (Stands true "REGISTERED")
      (messageLoop rt cfg th (ackLines ++ (rest ++ [[]])))
      (Tells "REGISTERED" (readable os)) :=
    messageLoop_acks hth hacks hackLines (messageLoop_ends hth hscript hrest)
  have hclose : output.Ends (fun _ => True) (emit th (.close fd)) (· = []) := by
    have hlog : output.Says (fun _ => True) (emit th (.close fd)) [] (fun _ _ => True)
        fun _ => False :=
      Says.log (fun w _ => ⟨.close fd, by rw [act_calm hth]; rfl, rfl⟩) fun _ _ => trivial
    exact hlog.ends rfl fun _ h => h.elim
  rw [List.cons_append, List.append_assoc]
  refine (doRegister_output hth hregistered hline _).seq_ends (fun _ =>
    hrunning.after_ends fun _ => hloop.before fun _ => hclose) fun t ht => ⟨t, rfl, ht⟩

/-- In a conversation with a daemon the client says what one does that is REGISTERED and does
not know REBORN, up to the first REBORN. -/
theorem spoken_eq (hth : th.Calm) {registered : Json} (hregistered : Wire.Registers registered)
    {acks vs : List Json} (hacks : ∀ v ∈ acks, Wire.Acks v) {os : List Order}
    (hscript : Script Wire.Conveys Wire.Acks os vs) {link : Link}
    (h : Hears rt link (registered :: (acks ++ vs))) (w : World) :
    spoken rt cfg th link w = said false "REGISTERED" (readable os) := by
  obtain ⟨lines, hlines, hreads⟩ := h.reads
  let opened : World := { w.record (.socket w.sockets) with sockets := w.sockets + 1 }
  let connected : World := { opened.record (.connect w.sockets link) with writes := link.writes }
  have hrun : runOnce rt cfg th link w = (do
      doRegister rt cfg th (lines ++ [[]])
      setRunning th
      messageLoop rt cfg th (lines ++ [[]]).tail
      emit th (.close w.sockets) : Task Unit) connected := by
    have hsocket : emit th (.socket w.sockets) w = .ok () (w.record (.socket w.sockets)) :=
      congrArg (EStateM.Result.ok ()) (act_calm hth w _)
    have hconnect : emit th (.connect w.sockets link) opened =
        .ok () (opened.record (.connect w.sockets link)) :=
      congrArg (EStateM.Result.ok ()) (act_calm hth opened _)
    have hopen : openSocket th w = .ok w.sockets opened := by
      have hget : (get : Task World) w = .ok w w := rfl
      unfold openSocket
      exact (bind_ok hget).trans (bind_ok hsocket)
    unfold runOnce
    rw [h.socket, h.connect, hreads, received_lines hlines, if_pos rfl]
    refine (bind_ok hopen).trans ?_
    rw [if_pos rfl]
    exact bind_ok hconnect
  have hstands : Stands w.running w.state.toString connected := ⟨h.writes, rfl, rfl⟩
  obtain ⟨t, ⟨rest, rfl, htells⟩, hheard⟩ :=
    (session_ends rt cfg hth hregistered hacks hscript hlines w.sockets).final hstands
  have hopened : output.heard connected = output.heard w := by
    simp [connected, opened, heard, output, World.record, Event.said]
  have hclosed : output.heard (final (runOnce rt cfg th link w)) =
      output.heard w ++ .register :: rest := by
    rw [hrun, hheard, hopened]
  rw [spoken, since_eq hclosed]
  exact dialogueOf_tells [] (List.forall_mem_nil _) htells

end Connections

end AegisSdk.Cpp
