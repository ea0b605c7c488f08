import AegisSdk.Cpp.Machine
import AegisSdk.Library.Records
import Mathlib.Data.List.TakeDrop

/-!
What the sends of a connection leave on the wire. `send_envelope` hands each line to one
`::write` and does not look at the result; `send_state_update` stores its state either way.
-/

set_option autoImplicit false
set_option relaxedAutoImplicit false

namespace AegisSdk.Cpp

open AegisSdk.Protocol AegisSdk.Library

inductive Send where
  | stateUpdate (s : ComponentState) (message : String)
  | error (code message : String) (recoverable : Bool)
  | ack (correlationId : String)
  /-- REGISTER, PONG and SHUTDOWN go to `send_envelope` -/
  | other (type : MessageType) (cmd : Command) (payload : Json) (correlationId : Option String)

section Sends

variable (rt : Runtime) (cfg : Config) (th : Threads)

/-- `send_state_update` with a message, which is left out when it is empty. -/
def sendStateUpdateWith (s : ComponentState) (message : String) : Task Unit := do
  let payload := [("state", .str s.toString)]
  let payload := if message.isEmpty then payload else payload ++ [("message", .str message)]
  let env ← make rt cfg .lifecycle .stateUpdate (.obj payload)
  sendEnvelope th env
  store th s

def sendError (code message : String) (recoverable : Bool) : Task Unit := do
  let env ← make rt cfg .error .runtimeError
    (.obj [("code", .str code), ("message", .str message), ("recoverable", .bool recoverable)])
  sendEnvelope th env

def Send.perform : Send → Task Unit
  | .stateUpdate s message => sendStateUpdateWith rt cfg th s message
  | .error code message recoverable => sendError rt cfg th code message recoverable
  | .ack id => sendAck rt cfg th id
  | .other type cmd payload id => do
    let env ← make rt cfg type cmd payload
    sendEnvelope th { env with correlationId := id }

def performAll : List Send → Task Unit
  | [] => pure ()
  | send :: sends => do
    send.perform rt cfg th
    performAll sends

/-- The envelope that a send makes as the one number `n` of the process. -/
def Send.envelope (n : Nat) : Send → Envelope
  | .stateUpdate s message => .make (rt.stamp n) .lifecycle .stateUpdate (source cfg)
    (.obj (if message.isEmpty then [("state", .str s.toString)]
      else [("state", .str s.toString), ("message", .str message)]))
  | .error code message recoverable => .make (rt.stamp n) .error .runtimeError (source cfg)
    (.obj [("code", .str code), ("message", .str message), ("recoverable", .bool recoverable)])
  | .ack id => (Envelope.make (rt.stamp n) .control .ack (source cfg)
    (.obj [("status", .str "ok")])).withCorrelation id
  | .other type cmd payload id =>
    { Envelope.make (rt.stamp n) type cmd (source cfg) payload with correlationId := id }

/-- The envelopes of these sends, the first one numbered `n`, each with what its `::write`
gives. -/
def planned : Nat → List WriteResult → List Send → List (Envelope × WriteResult)
  | _, _, [] => []
  | n, results, send :: sends =>
    (send.envelope rt cfg n, results.headD .complete) :: planned (n + 1) results.tail sends

def after (sends : List Send) (w : World) : World := final (performAll rt cfg th sends w)

end Sends

def Envelope.line (dump : Json → List UInt8) (env : Envelope) : List UInt8 :=
  dump env.toJson ++ [10]

def WriteResult.taken (line : List UInt8) : WriteResult → List UInt8
  | .complete => line
  | .short count => line.take count
  | .failed => []

def WriteResult.whole (size : Nat) : WriteResult → Bool
  | .complete => true
  | .short count => decide (size ≤ count)
  | .failed => false

def WriteResult.nothing : WriteResult → Bool
  | .complete => false
  | .short count => count == 0
  | .failed => true

def piece (dump : Json → List UInt8) (written : Envelope × WriteResult) : Piece UInt8 where
  record := written.1.line dump
  taken := written.2.taken (written.1.line dump)
  part := by
    cases written.2 with
    | complete => exact List.prefix_refl _
    | short count => exact List.take_prefix _ _
    | failed => exact List.nil_prefix

def Event.written : Event → Option (Envelope × WriteResult)
  | .write env result => some (env, result)
  | _ => none

/-- The lines in a piece of a trace, with the results of their writes. -/
def written (es : List Event) : List (Envelope × WriteResult) := es.filterMap Event.written

def Envelope.Reports (env : Envelope) (s : ComponentState) : Prop :=
  env.msgType = .lifecycle ∧ env.command = .stateUpdate ∧
    contained env.payload "state" = some (.str s.toString)

def Send.target : Send → Option ComponentState
  | .stateUpdate s _ => some s
  | _ => none

def current (st : ComponentState) : List Send → ComponentState
  | [] => st
  | send :: sends => current (send.target.getD st) sends

section Conditions

variable (rt : Runtime) (cfg : Config) (th : Threads) (dump : Json → List UInt8)
  (sends : List Send) (w : World)

/-- The sends leave whole lines on the wire and at most one torn line at its end, and a state is
taken on only after the whole line that reports it. -/
structure Faithful : Prop where
  lines : Orderly (((written (after rt cfg th sends w).trace).drop (written w.trace).length).map
    (piece dump))
  states : ∀ n s message, sends[n]? = some (.stateUpdate s message) →
    (after rt cfg th (sends.take (n + 1)) w).state ≠ (after rt cfg th (sends.take n) w).state →
    (after rt cfg th (sends.take (n + 1)) w).state = s ∧
      ∃ last, (written (after rt cfg th (sends.take (n + 1)) w).trace).getLast? = some last ∧
        last.1.Reports s ∧ (piece dump last).Whole

/-- After a line that is written in part nothing more can be written, and a report of a state
other than the present one is written whole. -/
structure Undamaged : Prop where
  torn : (planned rt cfg w.created w.writes sends).Pairwise fun a b =>
    a.2.whole (a.1.line dump).length ∨ a.2.nothing ∨ b.2.nothing
  updates : ∀ n s message, sends[n]? = some (.stateUpdate s message) →
    current w.state (sends.take n) ≠ s →
    ∀ a, (planned rt cfg w.created w.writes sends)[n]? = some a →
      a.2.whole (a.1.line dump).length

end Conditions

section Pieces

variable {dump : Json → List UInt8} {a b : Envelope × WriteResult}

theorem line_ne_nil (dump : Json → List UInt8) (env : Envelope) : env.line dump ≠ [] := by
  simp [Envelope.line]

theorem piece_whole : (piece dump a).Whole ↔ a.2.whole (a.1.line dump).length := by
  have hne := line_ne_nil dump a.1
  obtain ⟨env, result⟩ := a
  cases result with
  | complete => exact iff_of_true rfl rfl
  | short count =>
    show (env.line dump).take count = env.line dump ↔ _
    rw [List.take_eq_self_iff, WriteResult.whole, decide_eq_true_iff]
  | failed => exact iff_of_false hne.symm Bool.false_ne_true

theorem piece_nothing : (piece dump a).Nothing ↔ a.2.nothing := by
  have hne := line_ne_nil dump a.1
  obtain ⟨env, result⟩ := a
  cases result with
  | complete => exact iff_of_false hne Bool.false_ne_true
  | short count =>
    show (env.line dump).take count = [] ↔ _
    rw [List.take_eq_nil_iff, WriteResult.nothing, beq_iff_eq]
    exact or_iff_left hne
  | failed => exact iff_of_true rfl rfl

theorem orderly_pieces {log : List (Envelope × WriteResult)} :
    Orderly (log.map (piece dump)) ↔ log.Pairwise fun a b =>
      a.2.whole (a.1.line dump).length ∨ a.2.nothing ∨ b.2.nothing := by
  have torn (a b : Envelope × WriteResult) :
      ((piece dump a).Torn → (piece dump b).Nothing) ↔
        (a.2.whole (a.1.line dump).length ∨ a.2.nothing ∨ b.2.nothing) := by
    rw [Piece.Torn, piece_whole, piece_nothing, piece_nothing]
    tauto
  rw [orderly_iff, List.pairwise_map]
  constructor
  · intro h
    exact h.imp fun {a b} => (torn a b).mp
  · intro h
    exact h.imp fun {a b} => (torn a b).mpr

end Pieces

section Sent

variable {rt : Runtime} {cfg : Config} {th : Threads} {w : World}

theorem stop_sent (w : World) (s : StopStep) : (w.stop s).writes = w.writes ∧
    (w.stop s).created = w.created ∧ (w.stop s).state = w.state ∧
    written (w.stop s).trace = written w.trace := by
  cases s with
  | clear => simp [World.stop, written, Event.written]
  | request =>
    unfold World.stop
    dsimp only
    split <;> simp [written, Event.written]

theorem act_sent (th : Threads) (w : World) (e : Event) : (w.act th e).writes = w.writes ∧
    (w.act th e).created = w.created ∧ (w.act th e).state = w.state ∧
    written (w.act th e).trace = written w.trace ++ e.written.toList := by
  have kept : (w.interfere th).writes = w.writes ∧ (w.interfere th).created = w.created ∧
      (w.interfere th).state = w.state ∧ written (w.interfere th).trace = written w.trace := by
    refine interfere_induction (I := fun w' => w'.writes = w.writes ∧ w'.created = w.created ∧
      w'.state = w.state ∧ written w'.trace = written w.trace) ?_ ⟨rfl, rfl, rfl, rfl⟩
    rintro w' s ⟨hwrites, hcreated, hstate, hwritten⟩
    obtain ⟨hwrites', hcreated', hstate', hwritten'⟩ := stop_sent w' s
    exact ⟨hwrites'.trans hwrites, hcreated'.trans hcreated, hstate'.trans hstate,
      hwritten'.trans hwritten⟩
  obtain ⟨hwrites, hcreated, hstate, hwritten⟩ := kept
  refine ⟨hwrites, hcreated, hstate, ?_⟩
  have hrecord : (w.act th e).trace = (w.interfere th).trace ++ [e] := rfl
  rw [hrecord, written, List.filterMap_append, ← written, hwritten]
  cases he : e.written <;> simp [he]

/-- What a send leaves: a line with the next result, and the state that it stores. -/
structure Sent (rt : Runtime) (cfg : Config) (send : Send) (w w' : World) : Prop where
  created : w'.created = w.created + 1
  writes : w'.writes = w.writes.tail
  state : w'.state = send.target.getD w.state
  line : written w'.trace = written w.trace ++
    [(send.envelope rt cfg w.created, w.writes.headD .complete)]

theorem sendEnvelope_sent (th : Threads) (env : Envelope) (w : World) :
    ∃ w', sendEnvelope th env w = .ok () w' ∧ w'.created = w.created ∧
      w'.writes = w.writes.tail ∧ w'.state = w.state ∧
      written w'.trace = written w.trace ++ [(env, w.writes.headD .complete)] := by
  obtain ⟨hwrites, hcreated, hstate, hwritten⟩ := act_sent th
    { w with writes := w.writes.tail } (.write env (w.writes.headD .complete))
  exact ⟨_, rfl, hcreated, hwrites, hstate, hwritten⟩

theorem store_sent (th : Threads) (s : ComponentState) (w : World) :
    ∃ w', store th s w = .ok () w' ∧ w'.created = w.created ∧ w'.writes = w.writes ∧
      w'.state = s ∧ written w'.trace = written w.trace := by
  obtain ⟨hwrites, hcreated, -, hwritten⟩ := act_sent th w (.store s)
  refine ⟨_, rfl, hcreated, hwrites, rfl, ?_⟩
  rw [show (Event.store s).written.toList = [] from rfl, List.append_nil] at hwritten
  exact hwritten

theorem perform_sent (rt : Runtime) (cfg : Config) (th : Threads) (send : Send) (w : World) :
    ∃ w', send.perform rt cfg th w = .ok () w' ∧ Sent rt cfg send w w' := by
  let w₁ : World := { w with created := w.created + 1 }
  obtain ⟨w₂, hsend, hcreated, hwrites, hstate, hwritten⟩ :=
    sendEnvelope_sent th (send.envelope rt cfg w.created) w₁
  cases send with
  | stateUpdate s message =>
    obtain ⟨w₃, hstore, hcreated', hwrites', hstate', hwritten'⟩ := store_sent th s w₂
    refine ⟨w₃, ?_, hcreated'.trans hcreated, hwrites'.trans hwrites, hstate',
      hwritten'.trans hwritten⟩
    have hmake : make rt cfg .lifecycle .stateUpdate (.obj
        (if message.isEmpty then [("state", .str s.toString)]
          else [("state", .str s.toString)] ++ [("message", .str message)])) w =
        .ok ((Send.stateUpdate s message).envelope rt cfg w.created) w₁ := rfl
    exact (bind_ok hmake).trans ((bind_ok hsend).trans hstore)
  | error code message recoverable => exact ⟨w₂, hsend, hcreated, hwrites, hstate, hwritten⟩
  | ack id => exact ⟨w₂, hsend, hcreated, hwrites, hstate, hwritten⟩
  | other type cmd payload id => exact ⟨w₂, hsend, hcreated, hwrites, hstate, hwritten⟩

end Sent

section Run

variable {rt : Runtime} {cfg : Config} {th : Threads} {dump : Json → List UInt8}
  {sends : List Send} {w : World}

/-- Every send of the run is performed, with one line each. -/
theorem performAll_sent (rt : Runtime) (cfg : Config) (th : Threads) (sends : List Send)
    (w : World) : ∃ w', performAll rt cfg th sends w = .ok () w' ∧
    w'.state = current w.state sends ∧
    written w'.trace = written w.trace ++ planned rt cfg w.created w.writes sends := by
  induction sends generalizing w with
  | nil => exact ⟨w, rfl, rfl, (List.append_nil _).symm⟩
  | cons send sends ih =>
    obtain ⟨w₁, hsend, hsent⟩ := perform_sent rt cfg th send w
    obtain ⟨w₂, hrun, hstate, hwritten⟩ := ih w₁
    refine ⟨w₂, (bind_ok hsend).trans hrun, ?_, ?_⟩
    · rw [hstate, hsent.state, current]
    · rw [hwritten, hsent.line, hsent.created, hsent.writes, List.append_assoc]
      rfl

theorem after_state : (after rt cfg th sends w).state = current w.state sends := by
  obtain ⟨w', hrun, hstate, -⟩ := performAll_sent rt cfg th sends w
  rw [after, hrun]
  exact hstate

theorem after_written : written (after rt cfg th sends w).trace =
    written w.trace ++ planned rt cfg w.created w.writes sends := by
  obtain ⟨w', hrun, -, hwritten⟩ := performAll_sent rt cfg th sends w
  rw [after, hrun]
  exact hwritten

theorem current_take {st : ComponentState} {n : Nat} {send : Send} (h : sends[n]? = some send) :
    current st (sends.take (n + 1)) = send.target.getD (current st (sends.take n)) := by
  induction sends generalizing n st with
  | nil => exact absurd h (by simp)
  | cons head sends ih =>
    cases n with
    | zero =>
      obtain rfl : head = send := by simpa using h
      rfl
    | succ n => exact ih h

theorem planned_getElem? (rt : Runtime) (cfg : Config) (k : Nat) (results : List WriteResult)
    {n : Nat} {send : Send} (h : sends[n]? = some send) : (planned rt cfg k results sends)[n]? =
      some (send.envelope rt cfg (k + n), results.getD n .complete) := by
  induction sends generalizing k n results with
  | nil => exact absurd h (by simp)
  | cons head sends ih =>
    cases n with
    | zero =>
      obtain rfl : head = send := by simpa using h
      cases results <;> rfl
    | succ n =>
      have hrest := ih (k + 1) results.tail h
      rw [planned, List.getElem?_cons_succ, hrest, Nat.add_right_comm k 1 n, Nat.add_assoc]
      cases results <;> rfl

theorem planned_take {k n : Nat} {results : List WriteResult} :
    planned rt cfg k results (sends.take n) = (planned rt cfg k results sends).take n := by
  induction sends generalizing k n results with
  | nil => simp [planned]
  | cons head sends ih =>
    cases n with
    | zero => rfl
    | succ n =>
      rw [List.take_succ_cons, planned, planned, List.take_succ_cons, ih]

theorem last_written {n : Nat} {send : Send} (h : sends[n]? = some send) :
    (written (after rt cfg th (sends.take (n + 1)) w).trace).getLast? =
      some (send.envelope rt cfg (w.created + n), w.writes.getD n .complete) := by
  have hline := planned_getElem? rt cfg w.created w.writes h
  rw [after_written, planned_take, List.getLast?_append, List.getLast?_take, if_neg (by omega),
    Nat.add_sub_cancel, hline]
  rfl

theorem stateUpdate_reports {n : Nat} {s : ComponentState} {message : String} :
    ((Send.stateUpdate s message).envelope rt cfg n).Reports s := by
  refine ⟨rfl, rfl, ?_⟩
  by_cases h : message.isEmpty = true
  · simp [Send.envelope, Envelope.make, contained, h, find, Payload.get]
  · simp [Send.envelope, Envelope.make, contained, h, find, Payload.get]

/-- What is kept of the state: a state that is taken on has been reported by a whole line. -/
theorem states_iff {n : Nat} {s : ComponentState} {message : String}
    (h : sends[n]? = some (.stateUpdate s message)) :
    ((after rt cfg th (sends.take (n + 1)) w).state ≠ (after rt cfg th (sends.take n) w).state →
      (after rt cfg th (sends.take (n + 1)) w).state = s ∧
        ∃ last, (written (after rt cfg th (sends.take (n + 1)) w).trace).getLast? = some last ∧
          last.1.Reports s ∧ (piece dump last).Whole) ↔
    (current w.state (sends.take n) ≠ s →
      ∀ a, (planned rt cfg w.created w.writes sends)[n]? = some a →
        a.2.whole (a.1.line dump).length) := by
  have hnew : (after rt cfg th (sends.take (n + 1)) w).state = s := by
    rw [after_state, current_take h]
    rfl
  have hold : (after rt cfg th (sends.take n) w).state = current w.state (sends.take n) :=
    after_state
  have hline := planned_getElem? rt cfg w.created w.writes h
  rw [hnew, hold, last_written h, hline]
  constructor
  · intro hstates hother a ha
    obtain ⟨-, last, hlast, -, hwhole⟩ := hstates (Ne.symm hother)
    obtain rfl := Option.some.inj (hlast.symm.trans ha)
    exact piece_whole.mp hwhole
  · intro hupdates hchanged
    have hwhole := hupdates (Ne.symm hchanged) _ rfl
    exact ⟨rfl, _, rfl, stateUpdate_reports, piece_whole.mpr hwhole⟩

theorem written_since : (written (after rt cfg th sends w).trace).drop (written w.trace).length =
    planned rt cfg w.created w.writes sends := by
  rw [after_written, List.drop_left]

/-- On an orderly connection the daemon gets whole lines, in the order in which they were sent,
and then at most a part of one. -/
theorem wire_orderly (h : Undamaged rt cfg dump sends w) :
    ∃ (whole : List (Piece UInt8)) (part : List UInt8),
      stream (((written (after rt cfg th sends w).trace).drop (written w.trace).length).map
        (piece dump)) = whole.flatMap Piece.record ++ part ∧
      whole.Sublist ((planned rt cfg w.created w.writes sends).map (piece dump)) := by
  rw [written_since]
  obtain ⟨whole, part, hstream, hsub, -⟩ := (orderly_pieces.mpr h.torn).stream_eq
  exact ⟨whole, part, hstream, hsub⟩

theorem faithful_iff (rt : Runtime) (cfg : Config) (th : Threads) (dump : Json → List UInt8)
    (sends : List Send) (w : World) :
    Faithful rt cfg th dump sends w ↔ Undamaged rt cfg dump sends w := by
  constructor
  · rintro ⟨lines, states⟩
    rw [written_since, orderly_pieces] at lines
    refine ⟨lines, ?_⟩
    intro n s message h
    exact (states_iff h).mp (states n s message h)
  · rintro ⟨torn, updates⟩
    refine ⟨?_, ?_⟩
    · rw [written_since]
      exact orderly_pieces.mpr torn
    · intro n s message h
      exact (states_iff h).mpr (updates n s message h)

end Run

section Client

variable {rt : Runtime} {cfg : Config} {th : Threads} {env : Envelope}

theorem sendStateUpdate_eq (s : ComponentState) :
    sendStateUpdate rt cfg th s = (Send.stateUpdate s "").perform rt cfg th := rfl

theorem handleConfig_sends {sock : String} {topics : List String}
    (hcommand : env.command = .configure) (hconfig : configuration env = .ok (sock, topics)) :
    handleConfig rt cfg th env = (do
      emit th (.onConfigure sock topics)
      performAll rt cfg th
        [.ack env.messageId, .stateUpdate .configured "", .stateUpdate .running ""]
      renewSource th
      startWorker th) := by
  rw [handleConfig, if_pos hcommand, hconfig]
  simp only [performAll, Send.perform, sendStateUpdate_eq, ofExcept, pure_bind, bind_assoc]

theorem gracefulShutdown_sends : gracefulShutdown rt cfg th = (do
    joinWorker th (← get).worker
    emit th .onShutdown
    performAll rt cfg th [.other .lifecycle .shutdown (.obj []) none]
    store th .shutdown) := by
  simp only [gracefulShutdown, performAll, Send.perform, pure_bind, bind_assoc]
  rfl

end Client

namespace Sample

def configuring : List Send :=
  [.ack "m2", .stateUpdate .configured "", .stateUpdate .running ""]

def tornSecond : World where
  state := .registered
  writes := [.complete, .short 20, .complete]

end Sample

/-- A line that is torn runs into the next one, and its state is taken on. -/
theorem torn_state_update : ¬ ∀ (rt : Runtime) (cfg : Config) (th : Threads)
    (dump : Json → List UInt8) (sends : List Send) (w : World),
    Faithful rt cfg th dump sends w := by
  intro h
  have faithful := h Sample.runtime Sample.config {} Daemon.line Sample.configuring
    Sample.tornSecond
  have lines := faithful.lines
  rw [written_since, orderly_pieces] at lines
  revert lines
  decide +kernel

end AegisSdk.Cpp
