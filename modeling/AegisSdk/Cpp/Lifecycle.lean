import AegisSdk.Cpp.Machine
import AegisSdk.Protocol.Lifecycle

/-!
The lifecycle that the C++ client shows on each of its connections, and its replies, whatever
other threads do. What a `::write` gives is not looked at, so that every line counts as told.
-/

set_option autoImplicit false
set_option relaxedAutoImplicit false

namespace AegisSdk.Cpp

open AegisSdk.Protocol AegisSdk.Library AegisSdk.Library.Monitor

def Envelope.lineSeen (env : Envelope) : Line where
  command := env.command.toString
  state := contained env.payload "state"
  correlation := (env.correlationId.map Json.str).getD .null

def Event.signal : Event → Option (Signal Envelope)
  | .connect _ _ => some .connect
  | .write env _ => some (.line env.lineSeen true)
  | .dispatch env => some (.asked env)
  | .left => some .settled
  | .store s => some (.holds s.toString)
  | .recv _ => some .awaits
  | _ => none

def signals (es : List Event) : List (Signal Envelope) := es.filterMap Event.signal

/-- INITIALIZING and READY are never told, and lines may follow one that was not written. -/
def conduct : Conduct where
  opens := false
  repeats := false
  halts := false

def owed (env : Envelope) : List (String × Json) :=
  match env.msgType with
  | .heartbeat => if env.command = .ping then [("PONG", .str env.messageId)] else []
  | .config =>
    if env.command = .configure ∧ (configuration env).isOk then [("ACK", .str env.messageId)]
    else []
  | .lifecycle => if env.command = .shutdown then [("ACK", .str env.messageId)] else []
  | _ => []

def watch : Watch World Event (Signal Envelope) (Standing × Debt) where
  trace := World.trace
  view := Event.signal
  monitor := conduct.talk owed
  start := ({}, {})

def stateOf : Option Reported → ComponentState
  | none => .registered
  | some .initializing => .initializing
  | some .ready => .ready
  | some .configured => .configured
  | some .running => .running

theorem toString_stateOf (told : Option Reported) :
    (stateOf told).toString = Reported.shown told := by
  cases told with
  | none => rfl
  | some s => cases s <;> rfl

structure Knows (p : Standing × Debt) (s : ComponentState) (w : World) : Prop where
  seen : watch.At p w
  state : w.state = s

def Owing (told : Option Reported) (due : List (String × Json)) : World → Prop :=
  Knows (account told due) (stateOf told)

def Quits (w : World) : Prop := ∃ p, watch.At p w ∧ Settles p

section Steps

variable {rt : Runtime} {cfg : Config} {th : Threads} {p q : Standing × Debt} {s : ComponentState}
  {told : Option Reported} {due : List (String × Json)} {w : World} {E : Fault → World → Prop}

theorem Knows.quits (h : Knows p s w) (hp : p.2.owed = []) : Quits w := ⟨p, h.seen, .inl hp⟩

theorem Owing.quits (h : Owing told [] w) : Quits w := Knows.quits h rfl

theorem Knows.stop (h : Knows p s w) (step : StopStep) : Knows p s (w.stop step) := by
  have unseen : ∀ {e : Event}, e.signal = none → ∀ {w' : World}, w'.trace = w.trace ++ [e] →
      w'.state = w.state → Knows p s w' :=
    fun he _ htrace hstate =>
      ⟨h.seen.skip htrace (List.forall_mem_singleton.mpr he), hstate.trans h.state⟩
  cases step with
  | clear =>
    have hclear : Event.stopClears.signal = none := rfl
    exact unseen hclear rfl rfl
  | request =>
    unfold World.stop
    dsimp only
    split
    · exact h
    · have hrequest : (Event.stopRequests w.source).signal = none := rfl
      exact unseen hrequest rfl rfl

theorem Knows.interfere (h : Knows p s w) : Knows p s (w.interfere th) :=
  interfere_induction (fun _ step hw => hw.stop step) h

theorem Knows.record {e : Event} {k : Signal Envelope} (h : Knows p s w)
    (hview : e.signal = some k) (hallows : (conduct.talk owed).allows p k) :
    Knows ((conduct.talk owed).step p k) s (w.record e) :=
  ⟨h.seen.record rfl hview hallows, h.state⟩

theorem Knows.skip {e : Event} (h : Knows p s w) (hview : e.signal = none) :
    Knows p s (w.record e) :=
  ⟨h.seen.skip rfl (List.forall_mem_singleton.mpr hview), h.state⟩

theorem emit_knows {e : Event} (h : e.signal = none) :
    Triple (Knows p s) (emit th e) (fun _ => Knows p s) E :=
  fun _ hw => hw.interfere.skip h

theorem modify_knows {f : World → World} (htrace : ∀ w, (f w).trace = w.trace)
    (hstate : ∀ w, (f w).state = w.state) :
    Triple (Knows p s) (modify f : Task Unit) (fun _ => Knows p s) E :=
  fun w hw => ⟨hw.seen.same (htrace w), (hstate w).trans hw.state⟩

theorem ofExcept_knows {α : Type} (x : Except Exception α) :
    Triple (Knows p s) (ofExcept x) (fun _ => Knows p s) (fun _ => Knows p s) := by
  cases x with
  | error e => exact fun _ hw => hw
  | ok a => exact fun _ hw => hw

theorem make_knows (t : MessageType) (c : Command) (payload : Json) :
    Triple (Knows p s) (make rt cfg t c payload)
      (fun env w => (∃ stamp, env = Envelope.make stamp t c (source cfg) payload) ∧
        Knows p s w) E :=
  fun _ hw => ⟨⟨_, rfl⟩, hw.seen.same rfl, hw.state⟩

theorem sendEnvelope_knows {env : Envelope} {l : Line} (hline : env.lineSeen = l)
    (hallows : (conduct.talk owed).allows p (.line l true))
    (hstep : (conduct.talk owed).step p (.line l true) = q) :
    Triple (Knows p s) (sendEnvelope th env) (fun _ => Knows q s) E := by
  subst hline
  intro w hw
  have hw' : Knows p s { w with writes := w.writes.tail } := ⟨hw.seen.same rfl, hw.state⟩
  have hseen : (Event.write env (w.writes.headD .complete)).signal =
      some (.line env.lineSeen true) := rfl
  have hnext : Knows ((conduct.talk owed).step p (.line env.lineSeen true)) s
      (final (sendEnvelope th env w)) := hw'.interfere.record hseen hallows
  rwa [hstep] at hnext

theorem newLine_knows {t : MessageType} {c : Command} {payload : Json} {g : Envelope → Envelope}
    {l : Line} (hline : ∀ stamp, (g (Envelope.make stamp t c (source cfg) payload)).lineSeen = l)
    (hallows : (conduct.talk owed).allows p (.line l true))
    (hstep : (conduct.talk owed).step p (.line l true) = q) :
    Triple (Knows p s) (make rt cfg t c payload >>= fun env => sendEnvelope th (g env))
      (fun _ => Knows q s) E := by
  refine (make_knows t c payload).bind fun env => ?_
  rintro w ⟨⟨stamp, rfl⟩, hw⟩
  exact sendEnvelope_knows (E := E) (hline stamp) hallows hstep w hw

theorem store_knows {s' : ComponentState}
    (hallows : (conduct.talk owed).allows p (.holds s'.toString))
    (hstep : (conduct.talk owed).step p (.holds s'.toString) = q) :
    Triple (Knows p s) (store th s') (fun _ => Knows q s') E := by
  intro w hw
  have hbetween : Knows p s (w.interfere th) := hw.interfere
  have hnext := hbetween.record (e := .store s') rfl hallows
  rw [hstep] at hnext
  exact ⟨hnext.seen.same rfl, rfl⟩

theorem store_told {old : Option Reported} {r : Reported} :
    Triple (Knows (telling old (some r) due) s) (store th (stateOf (some r)))
      (fun _ => Owing (some r) due) E := by
  refine store_knows ?_ ?_ <;> rw [toString_stateOf]
  · exact talk_holds
  · exact step_holds

theorem emit_recv_owing (result : Except Exception Envelope) :
    Triple (Owing told []) (emit th (.recv result)) (fun _ => Owing told []) E :=
  fun _ hw => Knows.record (Knows.interfere hw) rfl talk_awaits

theorem sendStateUpdate_owing {r : Reported} (hr : r ∈ conduct.next told) :
    Triple (Owing told due) (sendStateUpdate rt cfg th (stateOf (some r)))
      (fun _ => Owing (some r) due) E := by
  have hline : ∀ stamp, (Envelope.make stamp .lifecycle .stateUpdate (source cfg)
      (.obj [("state", .str (stateOf (some r)).toString)])).lineSeen = .update r.name := by
    intro stamp
    rw [toString_stateOf]
    rfl
  have hsplit : sendStateUpdate rt cfg th (stateOf (some r)) =
      (make rt cfg .lifecycle .stateUpdate
        (.obj [("state", .str (stateOf (some r)).toString)]) >>= fun env => sendEnvelope th env) >>=
      fun _ => store th (stateOf (some r)) := by
    rw [bind_assoc]
    rfl
  rw [hsplit]
  exact (newLine_knows (g := id) hline (talk_update hr true) (step_update r)).bind fun _ =>
    store_told

theorem sendAck_owing (id : String) :
    Triple (Owing told (("ACK", .str id) :: due)) (sendAck rt cfg th id)
      (fun _ => Owing told due) E :=
  newLine_knows (fun _ => rfl) (talk_ack (.str id) true) (step_ack (.str id))

theorem waitFor_knows (worker : Nat) :
    Triple (Knows p s) (waitFor th worker) (fun _ => Knows p s) (fun _ => Knows p s) := by
  intro w hw
  obtain hok | ⟨hhang, -, -⟩ := waitFor_cases th worker w
  · rw [hok]
    exact hw
  · rw [hhang]
    exact hw.interfere

def Silent {α : Type} (x : Task α) : Prop :=
  ∀ p s, Triple (Knows p s) x (fun _ => Knows p s) (fun _ => Knows p s)

theorem renewSource_silent : Silent (renewSource th) := by
  intro p s
  unfold renewSource
  refine Triple.get.bind fun w₀ => Triple.bind (Q := fun _ => Knows p s) ?_ fun _ =>
    modify_knows ?_ ?_
  · exact fun w hw => emit_knows (E := fun _ => Knows p s) rfl w hw.2
  · exact fun _ => rfl
  · exact fun _ => rfl

theorem destroyWorker_silent (worker : Option Nat) : Silent (destroyWorker th worker) := by
  intro p s
  cases worker with
  | none => exact fun _ hw => hw
  | some worker =>
    refine (emit_knows rfl).bind fun _ => Triple.bind (modify_knows ?requested ?_) fun _ =>
      waitFor_knows worker
    case requested => exact fun _ => rfl
    · exact fun _ => rfl

theorem startWorker_silent : Silent (startWorker th) := by
  intro p s
  unfold startWorker
  refine Triple.get.bind fun w₀ => Triple.bind (Q := fun _ => Knows p s) ?_ fun _ =>
    Triple.bind (modify_knows ?worker ?_) fun _ => destroyWorker_silent w₀.worker p s
  · exact fun w hw => emit_knows (E := fun _ => Knows p s) rfl w hw.2
  case worker => exact fun _ => rfl
  · exact fun _ => rfl

theorem requestStop_silent : Silent (requestStop th) := by
  intro p s
  unfold requestStop
  refine Triple.get.bind fun w₀ => Triple.bind (Q := fun _ => Knows p s) ?_ fun _ =>
    modify_knows ?_ ?_
  · exact fun w hw => emit_knows (E := fun _ => Knows p s) rfl w hw.2
  · exact fun _ => rfl
  · exact fun _ => rfl

theorem joinWorker_silent (worker : Option Nat) : Silent (joinWorker th worker) := by
  intro p s
  cases worker with
  | none => exact fun _ hw => hw
  | some worker =>
    refine (requestStop_silent p s).bind fun _ => (emit_knows rfl).bind fun _ =>
      (waitFor_knows worker).bind fun _ => (emit_knows rfl).bind fun _ => modify_knows ?_ ?_
    · exact fun _ => rfl
    · exact fun _ => rfl

end Steps

/-- At the head of the message loop: whatever was asked is answered. -/
def Idle (w : World) : Prop := ∃ told, .configured ∈ conduct.next told ∧ Owing told [] w

def Asked (env : Envelope) (w : World) : Prop :=
  ∃ told, .configured ∈ conduct.next told ∧ Owing told (owed env) w

section Handlers

variable {rt : Runtime} {cfg : Config} {th : Threads} {told : Option Reported} {env : Envelope}

theorem Idle.quits {w : World} (h : Idle w) : Quits w := by
  obtain ⟨told, -, howing⟩ := h
  exact howing.quits

theorem asked_triple {α : Type} {x : Task α} {Q : α → World → Prop} {E : Fault → World → Prop}
    (h : ∀ told, .configured ∈ conduct.next told → Triple (Owing told (owed env)) x Q E) :
    Triple (Asked env) x Q E := by
  rintro w ⟨told, hnext, howing⟩
  exact h told hnext w howing

theorem Silent.idle {α : Type} {x : Task α} (h : Silent x) :
    Triple Idle x (fun _ => Idle) (fun _ => Quits) := by
  rintro w ⟨told, hnext, howing⟩
  exact ((h _ _).weaken (fun _ h => h) (fun _ _ h => ⟨told, hnext, h⟩)
    fun _ _ h => Owing.quits h) w howing

theorem handleHeartbeat_owing (ht : env.msgType = .heartbeat) :
    Triple (Asked env) (handleHeartbeat rt cfg th env) (fun _ => Idle) (fun _ => Quits) := by
  unfold handleHeartbeat
  refine asked_triple fun told hnext => ?_
  by_cases hping : env.command = .ping
  case neg =>
    have howed : owed env = [] := by simp [owed, ht, hping]
    rw [if_neg hping, howed]
    exact fun w hw => ⟨told, hnext, hw⟩
  have howed : owed env = [("PONG", .str env.messageId)] := by simp [owed, ht, hping]
  rw [if_pos hping, howed]
  refine (emit_knows rfl).bind fun _ => Triple.get.bind fun w₀ => ?_
  rintro w ⟨rfl, hw⟩
  have hsend : Triple (Owing told [("PONG", .str env.messageId)]) (do
      let pong ← make rt cfg .heartbeat .pong (.obj [
        ("state", .str w₀.state.toString),
        ("uptime_seconds", .num (toString (rt.uptime w₀.created)))])
      sendEnvelope th (pong.withCorrelation env.messageId)) (fun _ => Idle) (fun _ => Quits) := by
    refine Triple.weaken (Q := fun _ => Owing told []) (E := fun _ => Quits) ?_ (fun _ h => h)
      (fun _ _ h => ⟨told, hnext, h⟩) fun _ _ h => h
    refine newLine_knows (g := fun pong => pong.withCorrelation env.messageId) (fun stamp => ?_)
      (talk_pong (.str env.messageId) true) (step_pong (Reported.shown told) (.str env.messageId))
    rw [hw.state, toString_stateOf]
    rfl
  exact hsend w₀ hw

theorem settle_owing (hnext : .configured ∈ conduct.next told) :
    Triple (Owing told []) (do
      sendStateUpdate rt cfg th .configured
      sendStateUpdate rt cfg th .running
      renewSource th
      startWorker th) (fun _ => Idle) (fun _ => Quits) := by
  have hrunning : Reported.running ∈ conduct.next (some .configured) := by decide
  have hagain : Reported.configured ∈ conduct.next (some .running) := by decide
  refine (sendStateUpdate_owing hnext).bind fun _ => ?_
  refine (sendStateUpdate_owing hrunning).bind fun _ => ?_
  refine Triple.weaken (P := Idle) ?_ (fun w hw => ⟨some .running, hagain, hw⟩) (fun _ _ h => h)
    fun _ _ h => h
  exact renewSource_silent.idle.bind fun _ => startWorker_silent.idle

theorem handleConfig_owing (ht : env.msgType = .config) :
    Triple (Asked env) (handleConfig rt cfg th env) (fun _ => Idle) (fun _ => Quits) := by
  unfold handleConfig
  refine asked_triple fun told hnext => ?_
  by_cases hconfigure : env.command = .configure
  case neg =>
    have howed : owed env = [] := by simp [owed, ht, hconfigure]
    rw [if_neg hconfigure, howed]
    exact fun w hw => ⟨told, hnext, hw⟩
  rw [if_pos hconfigure]
  cases hfound : configuration env with
  | error e =>
    have howed : owed env = [] := by
      simp [owed, ht, hconfigure, hfound, Except.isOk, Except.toBool]
    rw [howed]
    exact fun w hw => hw.quits
  | ok found =>
    obtain ⟨sock, topics⟩ := found
    have howed : owed env = [("ACK", .str env.messageId)] := by
      simp [owed, ht, hconfigure, hfound, Except.isOk, Except.toBool]
    have hpure : ofExcept (.ok (sock, topics)) = (pure (sock, topics) : Task _) := rfl
    rw [hpure, pure_bind, howed]
    exact (emit_knows rfl).bind fun _ => (sendAck_owing _).bind fun _ => settle_owing hnext

theorem gracefulShutdown_quits :
    Triple Idle (gracefulShutdown rt cfg th) (fun _ => Quits) (fun _ => Quits) := by
  refine Triple.exists fun told => ?_
  rintro w ⟨-, hw⟩
  have hquits : Triple (Owing told []) (gracefulShutdown rt cfg th) (fun _ => Quits)
      (fun _ => Quits) := by
    refine Triple.get.bind fun w₀ => Triple.bind (Q := fun _ => Owing told []) ?_ fun _ => ?_
    · rintro w ⟨-, hw⟩
      exact ((joinWorker_silent _ _ _).weaken (fun _ h => h) (fun _ _ h => h)
        fun _ _ h => Owing.quits h) w hw
    · have hsplit : (do
          emit th .onShutdown
          let env ← make rt cfg .lifecycle .shutdown (.obj [])
          sendEnvelope th env
          store th .shutdown) = (emit th .onShutdown >>= fun _ =>
          (make rt cfg .lifecycle .shutdown (.obj []) >>= fun env => sendEnvelope th env) >>=
            fun _ => store th .shutdown) := by
        simp only [bind_assoc]
      rw [hsplit]
      refine (emit_knows rfl).bind fun _ => (newLine_knows (g := id) (fun _ => rfl)
        (talk_notice true) (step_notice true)).bind fun _ => ?_
      exact (store_knows (talk_parted true) rfl).weaken (fun _ h => h)
        (fun _ _ h => h.quits rfl) fun _ _ h => h
  exact hquits w hw

/-- After a message the thread is in the loop or has shut down. -/
def Resumed (stop : Bool) (w : World) : Prop := if stop then Quits w else Idle w

theorem handleLifecycle_owing (ht : env.msgType = .lifecycle) :
    Triple (Asked env) (handleLifecycle rt cfg th env) Resumed (fun _ => Quits) := by
  unfold handleLifecycle
  refine asked_triple fun told hnext => ?_
  by_cases hshutdown : env.command = .shutdown
  · have howed : owed env = [("ACK", .str env.messageId)] := by simp [owed, ht, hshutdown]
    rw [if_pos hshutdown, howed]
    refine (sendAck_owing _).bind fun _ => Triple.bind (Q := fun _ => Quits) ?_ fun _ _ hw => hw
    exact gracefulShutdown_quits.weaken (fun w hw => ⟨told, hnext, hw⟩) (fun _ _ h => h)
      fun _ _ h => h
  · have howed : owed env = [] := by simp [owed, ht, hshutdown]
    rw [if_neg hshutdown, howed]
    exact fun w hw => ⟨told, hnext, hw⟩

theorem handleErrorMsg_owing (ht : env.msgType = .error) :
    Triple (Asked env) (handleErrorMsg th env) (fun _ => Idle) (fun _ => Quits) := by
  have howed : owed env = [] := by simp [owed, ht]
  have hidle : Triple Idle (handleErrorMsg th env) (fun _ => Idle) (fun _ => Quits) := by
    refine Silent.idle fun p s => (ofExcept_knows _).bind fun report => ?_
    exact (emit_knows rfl).bind fun _ _ hw => hw
  refine asked_triple fun told hnext => ?_
  rw [howed]
  exact hidle.weaken (fun w hw => ⟨told, hnext, hw⟩) (fun _ _ h => h) fun _ _ h => h

theorem dispatch_owing (env : Envelope) :
    Triple (Asked env) (dispatch rt cfg th env) Resumed (fun _ => Quits) := by
  unfold dispatch
  split
  case h_1 ht => exact (handleHeartbeat_owing ht).bind fun _ _ hw => hw
  case h_2 ht => exact (handleConfig_owing ht).bind fun _ _ hw => hw
  case h_3 ht => exact handleLifecycle_owing ht
  case h_4 ht =>
    refine (handleErrorMsg_owing ht).bind fun fatal => ?_
    split
    · exact fun w hw => hw.quits
    · exact fun w hw => hw
  case h_5 h₁ h₂ h₃ h₄ =>
    have howed : owed env = [] := by
      unfold owed
      cases ht : env.msgType <;> simp_all
    refine asked_triple fun told hnext => ?_
    rw [howed]
    exact fun w hw => ⟨told, hnext, hw⟩

theorem loopHead_silent : Silent (loopHead th) := by
  intro p s w hw
  exact hw.interfere.skip (e := .head (w.interfere th).running) rfl

theorem messageLoop_quits (lines : List (List UInt8)) :
    Triple Idle (messageLoop rt cfg th lines) (fun _ => Quits) (fun _ => Quits) := by
  have hrecv : ∀ result, Triple Idle (emit th (.recv result)) (fun _ => Idle) (fun _ => Quits) := by
    rintro result w ⟨told, hnext, hw⟩
    exact ⟨told, hnext, emit_recv_owing (E := fun _ _ => True) result w hw⟩
  induction lines with
  | nil =>
    refine loopHead_silent.idle.bind fun running => ?_
    split
    · exact (hrecv _).bind fun _ => gracefulShutdown_quits
    · exact gracefulShutdown_quits
  | cons line rest ih =>
    refine loopHead_silent.idle.bind fun running => ?_
    split
    · refine (hrecv _).bind fun _ => ?_
      split
      · exact gracefulShutdown_quits
      · rename_i env _
        refine Triple.bind (Q := fun _ => Asked env) ?_ fun _ =>
          (dispatch_owing env).bind fun stop => ?_
        · rintro w ⟨told, hnext, hw⟩
          exact ⟨told, hnext, Knows.record (Knows.interfere hw) rfl (talk_asked env)⟩
        · cases stop with
          | true => exact fun w hw => hw
          | false => exact ih
    · exact gracefulShutdown_quits

theorem doRegister_owing (lines : List (List UInt8)) :
    Triple (fun w => ∃ s, Knows ({}, {}) s w) (doRegister rt cfg th lines)
      (fun _ => Owing none []) (fun _ => Quits) := by
  refine Triple.exists fun s => ?_
  have hquits : ∀ w, Knows enrolled s w → Quits w := fun w hw => hw.quits rfl
  have haccept : ∀ resp, Triple (Knows enrolled s) (accept th resp)
      (fun _ => Owing none []) (fun _ => Knows enrolled s) := by
    intro resp
    unfold accept
    split
    · exact fun w hw => hw
    · refine (ofExcept_knows _).bind fun id => Triple.bind (modify_knows ?component ?_) fun _ =>
        (ofExcept_knows _).bind fun id' => Triple.bind (modify_knows ?session ?_) fun _ =>
          store_knows talk_enrolled step_enrolled
      case component => exact fun _ => rfl
      case session => exact fun _ => rfl
      all_goals exact fun _ => rfl
  have hsplit : doRegister rt cfg th lines =
      (make rt cfg .lifecycle .register (registerPayload cfg) >>= fun env =>
        sendEnvelope th env) >>= fun _ => (do
          emit th (.reply (recvEnvelope rt (lines.headD [])))
          accept th (← ofExcept (recvEnvelope rt (lines.headD [])))) := by
    rw [bind_assoc]
    rfl
  rw [hsplit]
  refine (newLine_knows (g := id) (fun _ => rfl) (talk_register true) step_register).bind fun _ =>
    Triple.weaken ((emit_knows rfl).bind fun _ => (ofExcept_knows _).bind haccept)
      (fun _ h => h) (fun _ _ h => h) fun _ w h => hquits w h

theorem session_quits (fd : Nat) (lines : List (List UInt8)) :
    Triple (fun w => ∃ s, Knows ({}, {}) s w) (do
      doRegister rt cfg th lines
      setRunning th
      messageLoop rt cfg th lines.tail
      emit th (.close fd)) (fun _ => Quits) (fun _ => Quits) := by
  have hnext : Reported.configured ∈ conduct.next none := by decide
  have hrunning : Silent (setRunning th) := by
    intro p s
    refine (emit_knows rfl).bind fun _ => modify_knows ?_ ?_
    · exact fun _ => rfl
    · exact fun _ => rfl
  refine (doRegister_owing lines).bind fun _ => Triple.bind (Q := fun _ => Idle)
    (hrunning.idle.weaken (fun w hw => ⟨none, hnext, hw⟩) (fun _ _ h => h) fun _ _ h => h)
    fun _ => (messageLoop_quits _).bind fun _ => ?_
  rintro w ⟨p, hseen, hsettles⟩
  have hw : Knows p w.state w := ⟨hseen, rfl⟩
  exact ⟨p, (hw.interfere.skip rfl).seen, hsettles⟩

end Handlers

section Runs

variable (rt : Runtime) (cfg : Config) (th : Threads)

theorem Quits.act {w : World} {e : Event} (h : Quits w) (he : e.signal = none) :
    Quits (w.act th e) := by
  obtain ⟨p, hseen, hsettles⟩ := h
  have hw : Knows p w.state w := ⟨hseen, rfl⟩
  exact ⟨p, (hw.interfere.skip he).seen, hsettles⟩

theorem emit_quits {e : Event} (he : e.signal = none) {E : Fault → World → Prop} :
    Triple Quits (emit th e) (fun _ => Quits) E :=
  fun _ hw => hw.act th he

theorem runOnce_quits (link : Link) :
    Triple Quits (runOnce rt cfg th link) (fun _ => Quits) (fun _ => Quits) := by
  have hopen : Triple Quits (openSocket th) (fun _ => Quits) (fun _ => Quits) := by
    unfold openSocket
    refine Triple.get.bind fun w₀ => Triple.bind (Q := fun _ => Quits) ?_ fun _ => ?_
    · exact fun w hw => emit_quits th (E := fun _ => Quits) rfl w hw.2
    · rintro w ⟨p, hseen, hsettles⟩
      exact ⟨p, hseen.same rfl, hsettles⟩
  unfold runOnce
  split
  · refine hopen.bind fun fd => ?_
    split
    · rintro w ⟨p, hseen, -⟩
      have hw : Knows p w.state w := ⟨hseen, rfl⟩
      have hconnected : Knows ({}, {}) w.state (w.act th (.connect fd link)) := by
        rw [← step_connect (p := p)]
        exact hw.interfere.record rfl talk_connect
      exact session_quits fd (received [] link.reads) _ ⟨_, hconnected.seen.same rfl, rfl⟩
    · exact (emit_quits th rfl).bind fun _ => (emit_quits th rfl).bind fun _ _ hw => hw
  · exact (emit_quits th rfl).bind fun _ _ hw => hw

theorem turn_quits (attempts : Nat) (link : Link) {w : World} (h : Quits w) :
    Quits (turn rt cfg th attempts link w).2 := by
  have hleft : ∀ {w : World}, Quits w → Quits (w.act th .left) := by
    rintro w ⟨p, hseen, hsettles⟩
    have hw : Knows p w.state w := ⟨hseen, rfl⟩
    have hnext : Knows p w.state (w.act th .left) :=
      hw.interfere.record rfl (talk_settled hsettles)
    exact ⟨p, hnext.seen, hsettles⟩
  have hrun := runOnce_quits rt cfg th link w h
  unfold turn
  cases heq : runOnce rt cfg th link w with
  | ok a w' =>
    rw [heq] at hrun
    exact hleft hrun
  | error f w' =>
    rw [heq] at hrun
    cases f with
    | hang => exact hrun
    | exception e =>
      cases e with
      | json id => exact hleft hrun
      | runtimeError what =>
        have hlost : Quits ((w'.act th .left).act th (.lost what)) := (hleft hrun).act th rfl
        dsimp only
        split
        · exact hleft hrun
        · split
          · exact hlost
          · split
            · exact hlost
            · exact hlost.act th rfl

theorem run_quits (links : List Link) : Quits (run rt cfg th links).2 := by
  have hstart : Quits {} := ⟨({}, {}), takes_nil _, settles_start⟩
  have hturn : ∀ n link w, Quits w → Quits (turn rt cfg th n link w).2 :=
    fun n link _ h => turn_quits rt cfg th n link h
  exact Loop.run_preserves { turn := turn rt cfg th } hturn 0 links hstart

/-- What is seen up to a moment of a run is accepted. -/
theorem run_talks (links : List Link) (k : Nat) : (conduct.talk owed).Accepts ({}, {})
    (signals ((run rt cfg th links).2.trace.take k)) := by
  obtain ⟨p, hseen, -⟩ := run_quits rt cfg th links
  exact hseen.accepted.initial (List.take_prefix _ _)

/-- At every moment of every run, whatever other threads do, the client keeps the lifecycle on the
connection that it has, and has told CONFIGURED and RUNNING in turn. -/
theorem lifecycle_shown (links : List Link) (k : Nat) :
    let seen := Signal.current (signals ((run rt cfg th links).2.trace.take k))
    conduct.Lifecycle seen ∧ ∃ n, Line.told (Signal.lines seen) <+: rounds n := by
  have accepted := (accepts_both _ _ _ _).mp (run_talks rt cfg th links k)
  have lifecycle := Conduct.lifecycle_of_accepts accepted.1
  exact ⟨lifecycle, lifecycle.rounds rfl⟩

end Runs

end AegisSdk.Cpp
