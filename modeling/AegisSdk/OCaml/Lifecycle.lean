import AegisSdk.OCaml.Course
import AegisSdk.Protocol.Lifecycle

/-!
The lifecycle that the OCaml client shows on each of its connections, and its replies. A failed
write raises an exception that leaves `run_once`, unless it is that of the closing notice; so
does an exception of a handler, before the reply to its message.
-/

set_option autoImplicit false
set_option relaxedAutoImplicit false

namespace AegisSdk.OCaml

open AegisSdk.Protocol AegisSdk.Library AegisSdk.Library.Monitor

abbrev Request := Envelope × Option Exn

def Envelope.lineSeen (env : Envelope) : Line where
  command := stringOfCommand env.command
  state := match env.payload with
    | .obj members => Payload.get members "state"
    | _ => none
  correlation := ofStringOption env.correlationId

def Event.signal : Event → Option (Signal Request)
  | .connect _ _ => some .connect
  | .write env ok => some (.line env.lineSeen ok)
  | .dispatch env raises => some (.asked (env, raises))
  | .close _ => some .settled
  | .state s => some (.holds (stringOfState s))
  | .awaits => some .awaits
  | _ => none

def signals (es : List Event) : List (Signal Request) := es.filterMap Event.signal

def conduct : Conduct where
  opens := false
  repeats := false
  halts := true

section Owed

variable (handlers : Handlers)

def returns (isSet : Bool) (raises : Option Exn) : Bool := !isSet || raises.isNone

def owed (m : Request) : List (String × Json) :=
  match m.1.msgType with
  | .heartbeat =>
    if m.1.command = .ping ∧ returns handlers.onPing m.2 then [("PONG", .str m.1.messageId)]
    else []
  | .config =>
    if m.1.command = .configure ∧ (configuration m.1).isOk ∧ returns handlers.onConfigure m.2
    then [("ACK", .str m.1.messageId)] else []
  | .lifecycle => if m.1.command = .shutdown then [("ACK", .str m.1.messageId)] else []
  | _ => []

def watch : Watch World Event (Signal Request) (Standing × Debt) where
  trace := World.trace
  view := Event.signal
  monitor := conduct.talk (owed handlers)
  start := ({}, {})

end Owed

def stateOf : Option Reported → ComponentState
  | none => .registered
  | some .initializing => .initializing
  | some .ready => .ready
  | some .configured => .configured
  | some .running => .running

theorem stringOfState_stateOf (told : Option Reported) :
    stringOfState (stateOf told) = Reported.shown told := by
  cases told with
  | none => rfl
  | some s => cases s <;> rfl

section Steps

variable {rt : Runtime} {cfg : Config} {handlers : Handlers} {p q : Standing × Debt}
  {s : ComponentState} {told : Option Reported} {due : List (String × Json)} {w : World}
  {E : Exn → World → Prop}

structure Knows (handlers : Handlers) (p : Standing × Debt) (s : ComponentState) (w : World) :
    Prop where
  seen : (watch handlers).At p w
  state : w.client.state = s

def Owing (handlers : Handlers) (told : Option Reported) (due : List (String × Json)) :
    World → Prop :=
  Knows handlers (account told due) (stateOf told)

def Quits (handlers : Handlers) (w : World) : Prop := ∃ p, (watch handlers).At p w ∧ Settles p

theorem Knows.quits (h : Knows handlers p s w) (hp : p.2.owed = []) : Quits handlers w :=
  ⟨p, h.seen, .inl hp⟩

theorem Owing.quits (h : Owing handlers told [] w) : Quits handlers w := Knows.quits h rfl

theorem seen_record {e : Event} {k : Signal Request} (h : (watch handlers).At p w)
    (hview : e.signal = some k) (hallows : (conduct.talk (owed handlers)).allows p k) :
    (watch handlers).At ((conduct.talk (owed handlers)).step p k) (w.record e) :=
  h.record rfl hview hallows

theorem seen_skip {e : Event} (h : (watch handlers).At p w) (hview : e.signal = none) :
    (watch handlers).At p (w.record e) :=
  h.skip rfl (List.forall_mem_singleton.mpr hview)

theorem emit_knows {e : Event} (h : e.signal = none) :
    Triple (Knows handlers p s) (emit e) (fun _ => Knows handlers p s) E :=
  fun _ hw => ⟨seen_skip hw.seen h, hw.state⟩

theorem call_knows {e : Event} (h : e.signal = none) (isSet : Bool) (raises : Option Exn) :
    Triple (Knows handlers p s) (call isSet e raises)
      (fun _ w => returns isSet raises = true ∧ Knows handlers p s w)
      (fun _ w => returns isSet raises = false ∧ Knows handlers p s w) := by
  unfold call
  cases isSet with
  | false => exact fun w hw => ⟨rfl, hw⟩
  | true =>
    refine (emit_knows h).bind fun _ => ?_
    cases raises with
    | none => exact fun w hw => ⟨rfl, hw⟩
    | some exn => exact fun w hw => ⟨rfl, hw⟩

theorem modify_knows {f : World → World} (htrace : ∀ w, (f w).trace = w.trace)
    (hstate : ∀ w, (f w).client.state = w.client.state) :
    Triple (Knows handlers p s) (modify f : Task Unit) (fun _ => Knows handlers p s) E :=
  fun w hw => ⟨hw.seen.same (htrace w), (hstate w).trans hw.state⟩

theorem setState_knows {s' : ComponentState}
    (hallows : (conduct.talk (owed handlers)).allows p (.holds (stringOfState s')))
    (hstep : (conduct.talk (owed handlers)).step p (.holds (stringOfState s')) = q) :
    Triple (Knows handlers p s) (setState s') (fun _ => Knows handlers q s') E := by
  intro w hw
  have hnext := seen_record hw.seen (e := .state s') rfl hallows
  rw [hstep] at hnext
  exact ⟨hnext.same rfl, rfl⟩

theorem setState_told {old : Option Reported} {r : Reported} :
    Triple (Knows handlers (telling old (some r) due) s) (setState (stateOf (some r)))
      (fun _ => Owing handlers (some r) due) E := by
  refine setState_knows ?_ ?_ <;> rw [stringOfState_stateOf]
  · exact talk_holds
  · exact step_holds

theorem emit_awaits :
    Triple (Owing handlers told []) (emit .awaits) (fun _ => Owing handlers told []) E :=
  fun _ hw => ⟨seen_record hw.seen rfl talk_awaits, hw.state⟩

theorem create_knows (t : MessageType) (c : Command) (payload : Json) :
    Triple (Knows handlers p s) (create rt cfg t c payload)
      (fun env w => (∃ stamp, env = makeEnvelope stamp t c (source cfg) payload) ∧
        Knows handlers p s w) E :=
  fun _ hw => ⟨⟨_, rfl⟩, hw.seen.same rfl, hw.state⟩

theorem sendLine_knows {env : Envelope} {l : Line} (hline : env.lineSeen = l)
    (hallows : ∀ ok, (conduct.talk (owed handlers)).allows p (.line l ok)) :
    Triple (Knows handlers p s) (sendLine env)
      (fun _ => Knows handlers ((conduct.talk (owed handlers)).step p (.line l true)) s)
      (fun _ => Knows handlers ((conduct.talk (owed handlers)).step p (.line l false)) s) := by
  subst hline
  intro w hw
  have hwrite : ∀ ok, Knows handlers
      ((conduct.talk (owed handlers)).step p (.line env.lineSeen ok)) s
      ({ w with writes := w.writes.tail }.record (.write env ok)) := by
    intro ok
    have hseen : (watch handlers).At p { w with writes := w.writes.tail } := hw.seen.same rfl
    exact ⟨seen_record hseen rfl (hallows ok), hw.state⟩
  obtain ⟨client, writes, created, refs, sockets, trace⟩ := w
  match writes with
  | [] => exact hwrite true
  | true :: rest => exact hwrite true
  | false :: rest => exact hwrite false

theorem newLine_knows {t : MessageType} {c : Command} {payload : Json} {g : Envelope → Envelope}
    {l : Line} (hline : ∀ stamp, (g (makeEnvelope stamp t c (source cfg) payload)).lineSeen = l)
    (hallows : ∀ ok, (conduct.talk (owed handlers)).allows p (.line l ok)) :
    Triple (Knows handlers p s) (create rt cfg t c payload >>= fun env => sendLine (g env))
      (fun _ => Knows handlers ((conduct.talk (owed handlers)).step p (.line l true)) s)
      (fun _ => Knows handlers ((conduct.talk (owed handlers)).step p (.line l false)) s) := by
  refine (create_knows t c payload).bind fun env => ?_
  rintro w ⟨⟨stamp, rfl⟩, hw⟩
  exact sendLine_knows (hline stamp) hallows w hw

theorem newLine_owing {t : MessageType} {c : Command} {payload : Json} {g : Envelope → Envelope}
    {l : Line} (hline : ∀ stamp, (g (makeEnvelope stamp t c (source cfg) payload)).lineSeen = l)
    (hallows : ∀ ok, (conduct.talk (owed handlers)).allows p (.line l ok))
    (hstep : (conduct.talk (owed handlers)).step p (.line l true) = q) :
    Triple (Knows handlers p s) (create rt cfg t c payload >>= fun env => sendLine (g env))
      (fun _ => Knows handlers q s) (fun _ => Quits handlers) := by
  refine (newLine_knows hline hallows).weaken (fun _ h => h) (fun _ _ h => ?_) fun _ _ h => ?_
  · exact hstep ▸ h
  · exact ⟨_, h.seen, settles_of_lost l⟩

theorem sendStateUpdate_owing {r : Reported} (hr : r ∈ conduct.next told) :
    Triple (Owing handlers told due) (sendStateUpdate rt cfg (stateOf (some r)))
      (fun _ => Owing handlers (some r) due) (fun _ => Quits handlers) := by
  have hline : ∀ stamp, (makeEnvelope stamp .lifecycle .stateUpdate (source cfg)
      (.obj [("state", .str (stringOfState (stateOf (some r))))])).lineSeen = .update r.name := by
    intro stamp
    rw [stringOfState_stateOf]
    rfl
  have hsplit : sendStateUpdate rt cfg (stateOf (some r)) =
      (create rt cfg .lifecycle .stateUpdate
        (.obj [("state", .str (stringOfState (stateOf (some r))))]) >>= fun env => sendLine env) >>=
      fun _ => setState (stateOf (some r)) := by
    rw [bind_assoc]
    rfl
  rw [hsplit]
  exact (newLine_owing (g := id) hline (talk_update hr) (step_update r)).bind fun _ =>
    setState_told

theorem sendAck_owing (id : String) :
    Triple (Owing handlers told (("ACK", .str id) :: due)) (sendAck rt cfg id)
      (fun _ => Owing handlers told due) (fun _ => Quits handlers) :=
  newLine_owing (fun _ => rfl) (talk_ack (.str id)) (step_ack (.str id))

end Steps

section Handlers

variable {rt : Runtime} {cfg : Config} {handlers : Handlers} {told : Option Reported}
  {env : Envelope} {raises : Option Exn}

/-- At the head of the message loop: whatever was asked is answered. -/
def Idle (handlers : Handlers) (w : World) : Prop :=
  ∃ told, .configured ∈ conduct.next told ∧ Owing handlers told [] w

def Asked (handlers : Handlers) (m : Request) (w : World) : Prop :=
  ∃ told, .configured ∈ conduct.next told ∧ Owing handlers told (owed handlers m) w

theorem Idle.quits {w : World} (h : Idle handlers w) : Quits handlers w := by
  obtain ⟨told, -, howing⟩ := h
  exact howing.quits

theorem asked_triple {α : Type} {m : Request} {x : Task α} {Q : α → World → Prop}
    {E : Exn → World → Prop}
    (h : ∀ told, .configured ∈ conduct.next told →
      Triple (Owing handlers told (owed handlers m)) x Q E) :
    Triple (Asked handlers m) x Q E := by
  rintro w ⟨told, hnext, howing⟩
  exact h told hnext w howing

theorem handleHeartbeat_owing (ht : env.msgType = .heartbeat) :
    Triple (Asked handlers (env, raises)) (handleHeartbeat rt cfg handlers env raises)
      (fun _ => Idle handlers) (fun _ => Quits handlers) := by
  unfold handleHeartbeat
  refine asked_triple fun told hnext => ?_
  by_cases hping : env.command = .ping
  case neg =>
    have howed : owed handlers (env, raises) = [] := by simp [owed, ht, hping]
    rw [if_neg hping, howed]
    exact fun w hw => ⟨told, hnext, hw⟩
  rw [if_pos hping]
  have howed : owed handlers (env, raises) =
      if returns handlers.onPing raises then [("PONG", .str env.messageId)] else [] := by
    simp [owed, ht, hping]
  refine Triple.bind ((call_knows rfl _ _).weaken (fun _ h => h) (fun _ _ h => h) ?_) fun _ => ?_
  · rintro _ w ⟨hraises, hw⟩
    rw [howed, hraises] at hw
    exact hw.quits rfl
  · rintro w ⟨hreturns, hw⟩
    rw [howed, hreturns, if_pos rfl] at hw
    have hsend : Triple (Owing handlers told [("PONG", .str env.messageId)]) (do
        let pong ← create rt cfg .heartbeat .pong (.obj [
          ("state", .str (stringOfState w.client.state)),
          ("uptime_seconds", .num (ToString.toString (rt.uptime w.created)))])
        sendLine (withCorrelation pong env.messageId)) (fun _ => Owing handlers told [])
        (fun _ => Quits handlers) := by
      refine newLine_owing (g := fun pong => withCorrelation pong env.messageId) (fun stamp => ?_)
        (talk_pong (.str env.messageId)) (step_pong (Reported.shown told) (.str env.messageId))
      rw [hw.state, stringOfState_stateOf]
      rfl
    exact (hsend.weaken (fun _ h => h) (fun _ _ h => ⟨told, hnext, h⟩) fun _ _ h => h) w hw

theorem settle_owing (hnext : .configured ∈ conduct.next told) :
    Triple (Owing handlers told []) (do
      sendStateUpdate rt cfg .configured
      sendStateUpdate rt cfg .running
      let stop ← newStopFlag
      call handlers.onRunning (.onRunning stop) none) (fun _ => Idle handlers)
      (fun _ => Quits handlers) := by
  have hrunning : Reported.running ∈ conduct.next (some .configured) := by decide
  have hagain : Reported.configured ∈ conduct.next (some .running) := by decide
  refine (sendStateUpdate_owing hnext).bind fun _ => ?_
  refine (sendStateUpdate_owing hrunning).bind fun _ => ?_
  refine Triple.bind (Q := fun _ => Owing handlers (some .running) []) ?_ fun stop => ?_
  · exact fun w hw => ⟨hw.seen.same rfl, hw.state⟩
  · refine (call_knows rfl _ _).weaken (fun _ h => h) (fun _ _ h => ⟨_, hagain, h.2⟩) ?_
    rintro _ w ⟨hraises, hw⟩
    exact hw.quits rfl

theorem handleConfig_owing (ht : env.msgType = .config) :
    Triple (Asked handlers (env, raises)) (handleConfig rt cfg handlers env raises)
      (fun _ => Idle handlers) (fun _ => Quits handlers) := by
  unfold handleConfig
  refine asked_triple fun told hnext => ?_
  by_cases hconfigure : env.command = .configure
  case neg =>
    have howed : owed handlers (env, raises) = [] := by simp [owed, ht, hconfigure]
    rw [if_neg hconfigure, howed]
    exact fun w hw => ⟨told, hnext, hw⟩
  rw [if_pos hconfigure]
  cases hfound : configuration env with
  | error exn =>
    have howed : owed handlers (env, raises) = [] := by
      simp [owed, ht, hconfigure, hfound, Except.isOk, Except.toBool]
    rw [howed]
    exact fun w hw => hw.quits
  | ok found =>
    obtain ⟨sock, topics⟩ := found
    have howed : owed handlers (env, raises) =
        if returns handlers.onConfigure raises then [("ACK", .str env.messageId)] else [] := by
      simp [owed, ht, hconfigure, hfound, Except.isOk, Except.toBool]
    have hpure : ofExcept (.ok (sock, topics)) = (pure (sock, topics) : Task _) := rfl
    rw [hpure, pure_bind]
    refine Triple.bind ((call_knows rfl _ _).weaken (fun _ h => h) (fun _ _ h => h) ?_)
      fun _ => ?_
    · rintro _ w ⟨hraises, hw⟩
      rw [howed, hraises] at hw
      exact hw.quits rfl
    · rintro w ⟨hreturns, hw⟩
      rw [howed, hreturns, if_pos rfl] at hw
      exact ((sendAck_owing _).bind fun _ => settle_owing hnext) w hw

theorem handleLifecycle_owing (ht : env.msgType = .lifecycle) :
    Triple (Asked handlers (env, raises)) (handleLifecycle rt cfg env)
      (fun _ => Idle handlers) (fun _ => Quits handlers) := by
  have quiet : env.command ≠ .shutdown → owed handlers (env, raises) = [] := by
    intro hcommand
    simp [owed, ht, hcommand]
  unfold handleLifecycle
  refine asked_triple fun told hnext => ?_
  split
  case h_1 hshutdown =>
    have howed : owed handlers (env, raises) = [("ACK", .str env.messageId)] := by
      simp [owed, ht, hshutdown]
    rw [howed]
    exact (sendAck_owing _).bind fun _ w hw => ⟨told, hnext, hw⟩
  case h_2 hack =>
    rw [quiet (by simp [hack])]
    exact fun w hw => ⟨told, hnext, hw⟩
  case h_3 hshutdown _ =>
    rw [quiet hshutdown]
    exact fun w hw => ⟨told, hnext, hw⟩

theorem handleErrorMsg_owing (ht : env.msgType = .error) :
    Triple (Asked handlers (env, raises)) (handleErrorMsg handlers env raises)
      (fun _ => Idle handlers) (fun _ => Quits handlers) := by
  unfold handleErrorMsg
  refine asked_triple fun told hnext => ?_
  have howed : owed handlers (env, raises) = [] := by simp [owed, ht]
  rw [howed]
  cases errorReport env with
  | error exn => exact fun w hw => hw.quits
  | ok report =>
    obtain ⟨code, message, recoverable⟩ := report
    have hpure : ofExcept (.ok (code, message, recoverable)) =
        (pure (code, message, recoverable) : Task _) := rfl
    rw [hpure, pure_bind]
    refine Triple.bind ((call_knows rfl _ _).weaken (fun _ h => h) (fun _ _ h => h) ?_)
      fun _ w hw => ⟨told, hnext, hw.2⟩
    rintro _ w ⟨-, hw⟩
    exact hw.quits rfl

theorem dispatch_owing (env : Envelope) (raises : Option Exn) :
    Triple (Asked handlers (env, raises)) (dispatch rt cfg handlers env raises)
      (fun _ => Idle handlers) (fun _ => Quits handlers) := by
  unfold dispatch
  split
  case h_1 ht => exact (handleHeartbeat_owing ht).bind fun _ _ hw => hw
  case h_2 ht => exact (handleConfig_owing ht).bind fun _ _ hw => hw
  case h_3 ht => exact handleLifecycle_owing ht
  case h_4 ht =>
    refine (handleErrorMsg_owing ht).bind fun fatal => ?_
    split
    · exact fun w hw => hw.quits
    · exact fun w hw => hw
  case h_5 h₁ h₂ h₃ h₄ =>
    have howed : owed handlers (env, raises) = [] := by
      unfold owed
      cases ht : env.msgType <;> simp_all
    refine asked_triple fun told hnext => ?_
    rw [howed]
    exact fun w hw => ⟨told, hnext, hw⟩

theorem gracefulShutdown_quits (raises : Option Exn) :
    Triple (Idle handlers) (gracefulShutdown rt cfg handlers raises) (fun _ => Quits handlers)
      (fun _ => Quits handlers) := by
  refine Triple.exists fun told => ?_
  rintro w ⟨-, hw⟩
  have hquits : Triple (Owing handlers told []) (gracefulShutdown rt cfg handlers raises)
      (fun _ => Quits handlers) (fun _ => Quits handlers) := by
    unfold gracefulShutdown
    refine Triple.get.bind fun w₀ => ?_
    refine Triple.bind (Q := fun _ => Owing handlers told []) ?_ fun _ => ?_
    · rintro _ ⟨rfl, hw₀⟩
      exact emit_knows (E := fun _ => Quits handlers) rfl _ hw₀
    · refine Triple.bind ((call_knows rfl _ _).weaken (fun _ h => h) (fun _ _ h => h.2) ?_)
        fun _ => ?_
      · rintro _ w ⟨-, hw⟩
        exact hw.quits rfl
      refine Triple.bind
        (Q := fun _ w => ∃ ok, Knows handlers (parted told ok) (stateOf told) w) ?_ fun _ => ?_
      · have hnotice : Triple (Owing handlers told [])
            (create rt cfg .lifecycle .shutdown (.obj []) >>= fun env => sendLine env)
            (fun _ => Knows handlers (parted told true) (stateOf told))
            (fun _ => Knows handlers (parted told false) (stateOf told)) := by
          rw [← step_notice (c := conduct), ← step_notice (c := conduct)]
          exact newLine_knows (g := id) (fun _ => rfl) talk_notice
        exact hnotice.ignore.weaken (fun _ h => h)
          (fun _ _ h => h.elim (fun h => ⟨_, h⟩) fun h => ⟨_, h⟩) fun _ _ h => h
      · refine Triple.exists fun ok => ?_
        exact (setState_knows (talk_parted ok) rfl).weaken (fun _ h => h)
          (fun _ _ h => ⟨_, h.seen, settles_parted ok⟩) fun _ _ h => h
  exact hquits w hw

theorem recvLine_knows {p : Standing × Debt} {s : ComponentState} (reads : List Read) :
    Triple (Knows handlers p s) (recvLine rt reads) (fun _ => Knows handlers p s)
      (fun _ => Knows handlers p s) := by
  cases reads with
  | nil => exact (emit_knows rfl).bind fun _ _ hw => hw
  | cons read rest =>
    rw [recvLine]
    cases read.decode rt with
    | error exn => exact (emit_knows rfl).bind fun _ _ hw => hw
    | ok env => exact (emit_knows rfl).bind fun _ _ hw => hw

theorem awaitLine_idle (reads : List Read) :
    Triple (Idle handlers) (awaitLine rt reads) (fun _ => Idle handlers)
      (fun _ => Quits handlers) := by
  refine Triple.exists fun told => ?_
  rintro w ⟨hnext, hw⟩
  exact (emit_awaits.bind fun _ => (recvLine_knows reads).weaken (fun _ h => h)
    (fun _ _ h => ⟨told, hnext, h⟩) fun _ _ h => h.quits rfl) w hw

theorem messageLoop_quits (reads : List Read) :
    Triple (Idle handlers) (messageLoop rt cfg handlers reads) (fun _ => Quits handlers)
      (fun _ => Quits handlers) := by
  induction reads with
  | nil => exact (awaitLine_idle []).bind fun _ _ hw => hw.quits
  | cons read rest ih =>
    refine (awaitLine_idle (read :: rest)).bind fun received => ?_
    obtain ⟨env, _⟩ := received
    refine Triple.bind (Q := fun _ => Asked handlers (env, read.raises)) ?_ fun _ =>
      (dispatch_owing env read.raises).bind fun stop => ?_
    · rintro w ⟨told, hnext, hw⟩
      exact ⟨told, hnext, seen_record hw.seen rfl (talk_asked _), hw.state⟩
    · split
      · exact gracefulShutdown_quits read.raises
      · exact ih

theorem ofExcept_knows {α : Type} {p : Standing × Debt} {s : ComponentState} (x : Except Exn α) :
    Triple (Knows handlers p s) (ofExcept x) (fun _ => Knows handlers p s)
      (fun _ => Knows handlers p s) := by
  cases x with
  | error exn => exact fun _ hw => hw
  | ok a => exact fun _ hw => hw

theorem doRegister_owing (reads : List Read) :
    Triple (fun w => ∃ s, Knows handlers ({}, {}) s w) (doRegister rt cfg reads)
      (fun _ => Owing handlers none []) (fun _ => Quits handlers) := by
  refine Triple.exists fun s => ?_
  have hsplit : doRegister rt cfg reads =
      (create rt cfg .lifecycle .register (registerPayload cfg) >>= fun env => sendLine env) >>=
      fun _ => recvLine rt reads >>= fun answer => do
        if answer.1.command ≠ .registered then
          raise (.registrationError
            ("unexpected response: " ++ stringOfCommand answer.1.command))
        else
          storeIdentity answer.1.payload
          return answer.2 := by
    rw [bind_assoc]
    rfl
  have hstore : ∀ payload, Triple (Knows handlers enrolled s) (storeIdentity payload)
      (fun _ => Owing handlers none []) (fun _ => Knows handlers enrolled s) := by
    intro payload
    unfold storeIdentity
    refine (ofExcept_knows _).bind fun id => Triple.bind (modify_knows ?component ?_) fun _ =>
      (ofExcept_knows _).bind fun id' => Triple.bind (modify_knows ?session ?_) fun _ =>
        setState_knows talk_enrolled step_enrolled
    case component => exact fun _ => rfl
    case session => exact fun _ => rfl
    all_goals exact fun _ => rfl
  rw [hsplit]
  refine (newLine_owing (g := id) (fun _ => rfl) talk_register step_register).bind fun _ => ?_
  have hquits : ∀ w, Knows handlers enrolled s w → Quits handlers w :=
    fun w hw => hw.quits rfl
  refine Triple.bind ((recvLine_knows reads).weaken (fun _ h => h) (fun _ _ h => h)
    fun _ w h => hquits w h) fun answer => ?_
  obtain ⟨resp, rest⟩ := answer
  dsimp only
  split
  · exact fun w hw => hquits w hw
  · exact Triple.bind ((hstore resp.payload).weaken (fun _ h => h) (fun _ _ h => h)
      fun _ w h => hquits w h) fun _ _ hw => hw

theorem session_quits (link : Link) :
    Triple (fun w => ∃ s, Knows handlers ({}, {}) s w) (session rt cfg handlers link)
      (fun _ => Quits handlers) (fun _ => Quits handlers) := by
  have hnext : Reported.configured ∈ conduct.next none := by decide
  exact (doRegister_owing link.reads).bind fun rest => (messageLoop_quits rest).weaken
    (fun _ hw => ⟨none, hnext, hw⟩) (fun _ _ h => h) fun _ _ h => h

end Handlers

section Runs

variable (rt : Runtime) (cfg : Config) (handlers : Handlers)

theorem quits_skip {w : World} {e : Event} (h : Quits handlers w) (he : e.signal = none) :
    Quits handlers (w.record e) := by
  obtain ⟨p, hseen, hsettles⟩ := h
  exact ⟨p, seen_skip hseen he, hsettles⟩

theorem runOnce_quits (link : Link) {w : World} (h : Quits handlers w) :
    Quits handlers (final (runOnce rt cfg handlers link w)) := by
  have hopened : Quits handlers w.opened := by
    obtain ⟨p, hseen, hsettles⟩ := quits_skip handlers h (e := .socket w.sockets) rfl
    exact ⟨p, hseen.same rfl, hsettles⟩
  obtain ⟨exn, hrun⟩ | ⟨exn, hrun⟩ | hrun := runOnce_cases rt cfg handlers link w <;> rw [hrun]
  · exact quits_skip handlers h rfl
  · exact quits_skip handlers hopened rfl
  · obtain ⟨p, hseen, -⟩ := hopened
    have hconnected : (watch handlers).At ({}, {}) (w.opened.record (.connect w.sockets link)) := by
      rw [← step_connect (p := p)]
      exact seen_record hseen rfl talk_connect
    have hsession : Quits handlers (final (session rt cfg handlers link (w.connected link))) := by
      have hlaw : Triple _ (session rt cfg handlers link) _ _ := session_quits link
      have hrun := hlaw (w.connected link) ⟨_, hconnected.same rfl, rfl⟩
      cases heq : session rt cfg handlers link (w.connected link) <;>
        rw [heq] at hrun <;> exact hrun
    obtain ⟨p, hseen, hsettles⟩ := hsession
    rw [final_protect]
    exact ⟨p, seen_record hseen rfl (talk_settled hsettles), hsettles⟩

theorem turn_quits (attempts : Nat) (link : Link) {w : World} (h : Quits handlers w) :
    Quits handlers (turn rt cfg handlers attempts link w).2 := by
  have hleft := quits_skip handlers (runOnce_quits rt cfg handlers link h) (e := .left) rfl
  obtain ⟨o, hturn, -⟩ | hturn := turn_cases rt cfg handlers attempts link w <;> rw [hturn]
  · exact hleft
  · exact quits_skip handlers hleft rfl

theorem run_quits (links : List Link) : Quits handlers (run rt cfg handlers links).2 := by
  have hstart : Quits handlers {} := ⟨({}, {}), takes_nil _, settles_start⟩
  have hturn : ∀ n link w, Quits handlers w → Quits handlers (turn rt cfg handlers n link w).2 :=
    fun n link _ h => turn_quits rt cfg handlers n link h
  exact Loop.run_preserves { turn := turn rt cfg handlers } hturn 0 links hstart

/-- What is seen up to a moment of a run is accepted. -/
theorem run_talks (links : List Link) (k : Nat) : (conduct.talk (owed handlers)).Accepts ({}, {})
    (signals ((run rt cfg handlers links).2.trace.take k)) := by
  obtain ⟨p, hseen, -⟩ := run_quits rt cfg handlers links
  exact hseen.accepted.initial (List.take_prefix _ _)

/-- At every moment of every run the client keeps the lifecycle on the connection that it has, and
has told CONFIGURED and RUNNING in turn. -/
theorem client_lifecycle (links : List Link) (k : Nat) :
    let seen := Signal.current (signals ((run rt cfg handlers links).2.trace.take k))
    conduct.Lifecycle seen ∧ ∃ n, Line.told (Signal.lines seen) <+: rounds n := by
  have accepted := (accepts_both _ _ _ _).mp (run_talks rt cfg handlers links k)
  have lifecycle := Conduct.lifecycle_of_accepts accepted.1
  exact ⟨lifecycle, lifecycle.rounds rfl⟩

/-- At every moment of every run the replies on the connection are those that the messages are
owed, once and in order; all of them are there when the next message is awaited and, unless a
line was lost, when the connection is closed. -/
theorem client_answers (links : List Link) (k : Nat) :
    Everywhere (Answers (owed handlers)) []
      (Signal.current (signals ((run rt cfg handlers links).2.trace.take k))) :=
  answers_of_accepts ((accepts_both _ _ _ _).mp (run_talks rt cfg handlers links k)).2

end Runs

end AegisSdk.OCaml
