import AegisSdk.OCaml.Course

/-!
The references for the workers. A CONFIGURE that completes puts a new reference in the place
of the one that the last worker was given, and `graceful_shutdown` sets the one in place; the
one that was replaced is never set.
-/

set_option autoImplicit false
set_option relaxedAutoImplicit false

namespace AegisSdk.OCaml

open AegisSdk.Protocol AegisSdk.Library

def AllTold (trace : List Event) : Prop :=
  ∀ r, Event.onRunning r ∈ trace → Event.stop r ∈ trace

/-- A CONFIGURE whose handling reaches its end: the payload can be read, `on_configure` does
not raise, and the next three writes succeed. -/
structure Completes (handlers : Handlers) (env : Envelope) (raises : Option Exn)
    (writes : List Bool) : Prop where
  msgType : env.msgType = .config
  command : env.command = .configure
  readable : (configuration env).isOk = true
  calm : handlers.onConfigure = true → raises = none
  sent : ∀ ok ∈ writes.take 3, ok = true

/-- A CONFIGURE that completes finds no worker that is not told to stop. -/
def ConfigureAlone (handlers : Handlers) (past : List Event) : Event → Prop
  | .dispatch env raises =>
    Completes handlers env raises (recorder.monitor.after [] past) → AllTold past
  | _ => True

/-- The task reaches its end exactly if `good` holds of the writes in store, of which it then
has made `k`. -/
def Reaches (good : List Bool → Prop) (k : Nat) (x : Task Unit) : Prop :=
  ∀ w, ∃ es w', Inner w es w' ∧
    (x w = .ok () w' ∧ good w.writes ∧ w'.writes = w.writes.drop k ∨
      (∃ exn, x w = .error exn w') ∧ ¬good w.writes)

section Reaches

variable {x y : Task Unit} {p q : List Bool → Prop} {k l : Nat}

theorem Reaches.bind (hx : Reaches p k x) (hy : Reaches q l y) :
    Reaches (fun writes => p writes ∧ q (writes.drop k)) (k + l) (x >>= fun _ => y) := by
  intro w
  obtain ⟨es, w₁, h, ⟨hok, hp, hdrop⟩ | ⟨⟨exn, herr⟩, hp⟩⟩ := hx w
  · obtain ⟨es', w₂, h', ⟨hok', hq, hdrop'⟩ | ⟨⟨exn, herr'⟩, hq⟩⟩ := hy w₁
    · refine ⟨es ++ es', w₂, innerJournal.trans h h', .inl ⟨?_, ⟨hp, hdrop ▸ hq⟩, ?_⟩⟩
      · rw [bind_ok hok, hok']
      · rw [hdrop', hdrop, List.drop_drop]
    · refine ⟨es ++ es', w₂, innerJournal.trans h h', .inr ⟨⟨exn, ?_⟩, ?_⟩⟩
      · rw [bind_ok hok, herr']
      · intro both
        exact hq (hdrop ▸ both.2)
  · exact ⟨es, w₁, h, .inr ⟨⟨exn, bind_error herr⟩, fun both => hp both.1⟩⟩

theorem Reaches.congr (hx : Reaches p k x) (h : ∀ writes, p writes ↔ q writes) :
    Reaches q k x := by
  have same : p = q := funext fun writes => propext (h writes)
  exact same ▸ hx

theorem Reaches.after_create {rt : Runtime} {cfg : Config} {f : Envelope → Task Unit}
    (h : ∀ env, Reaches p k (f env)) (t : MessageType) (c : Command) (payload : Json) :
    Reaches p k (create rt cfg t c payload >>= f) := by
  intro w
  let w₁ := { w with created := w.created + 1 }
  have skip : Inner w [] w₁ := inner_nil rfl rfl rfl
  obtain ⟨es, w', hinner, hrest⟩ := h
    (makeEnvelope (rt.stamp w.created) t c (source cfg) payload) w₁
  exact ⟨[] ++ es, w', innerJournal.trans skip hinner, hrest⟩

end Reaches

section Functions

variable (rt : Runtime) (cfg : Config) (handlers : Handlers)

theorem sendLine_reaches (env : Envelope) :
    Reaches (fun writes => writes.headD true = true) 1 (sendLine env) := by
  intro w
  obtain ⟨w', h, htail, ⟨hok, hsent⟩ | ⟨herr, hlost⟩⟩ := sendLine_cases env w
  · exact ⟨_, w', h, .inl ⟨hok, hsent, by rw [htail, List.drop_one]⟩⟩
  · exact ⟨_, w', h, .inr ⟨⟨_, herr⟩, fun sent => by cases hlost.symm.trans sent⟩⟩

theorem sendAck_reaches (id : String) :
    Reaches (fun writes => writes.headD true = true) 1 (sendAck rt cfg id) :=
  .after_create (fun _ => sendLine_reaches _) _ _ _

theorem setState_reaches (s : ComponentState) : Reaches (fun _ => True) 0 (setState s) :=
  fun w => ⟨[.state s], { w.record (.state s) with client := { w.client with state := s } },
    ⟨⟨rfl, ⟨trivial, trivial⟩, rfl⟩, rfl, by simp [Event.inner]⟩, .inl ⟨rfl, trivial, rfl⟩⟩

theorem sendStateUpdate_reaches (s : ComponentState) :
    Reaches (fun writes => writes.headD true = true ∧ True) 1 (sendStateUpdate rt cfg s) :=
  .after_create (fun env => (sendLine_reaches env).bind (setState_reaches s)) _ _ _

theorem call_reaches (isSet : Bool) (e : Event) (raises : Option Exn) (hquiet : e.quiet = true)
    (hinner : e.inner = true) :
    Reaches (fun _ => isSet = true → raises = none) 0 (call isSet e raises) := by
  intro w
  cases isSet with
  | false => exact ⟨[], w, innerJournal.refl w, .inl ⟨rfl, by simp, rfl⟩⟩
  | true =>
    refine ⟨[e], w.record e, ⟨leads_record hquiet, rfl, by simp [hinner]⟩, ?_⟩
    cases raises with
    | none => exact .inl ⟨rfl, by simp, rfl⟩
    | some exn => exact .inr ⟨⟨exn, rfl⟩, by simp⟩

def World.handed (w : World) : List Event :=
  if handlers.onRunning then [.onRunning w.refs] else []

/-- A new reference is put in place and handed to `on_running`. -/
def World.handOut (w : World) : World :=
  { w with
    refs := w.refs + 1
    client := { w.client with stopFlag := w.refs }
    trace := w.trace ++ w.handed handlers }

def startWorker : Task Unit := do
  let stop ← newStopFlag
  call handlers.onRunning (.onRunning stop) none

theorem startWorker_ok (w : World) :
    startWorker handlers w = .ok () (w.handOut handlers) := by
  unfold startWorker World.handOut World.handed
  cases handlers.onRunning <;> simp [newStopFlag, call] <;> rfl

/-- `handle_config` after the payload is read, up to the new reference. -/
def configureWith (sock : String) (topics : List String) (id : String) (raises : Option Exn) :
    Task Unit := do
  call handlers.onConfigure (.onConfigure sock topics) raises
  sendAck rt cfg id
  sendStateUpdate rt cfg .configured
  sendStateUpdate rt cfg .running

theorem configureWith_reaches (sock : String) (topics : List String) (id : String)
    (raises : Option Exn) :
    Reaches (fun writes => (handlers.onConfigure = true → raises = none) ∧
      ∀ ok ∈ writes.take 3, ok = true) 3
      (configureWith rt cfg handlers sock topics id raises) := by
  have chain := (call_reaches handlers.onConfigure (.onConfigure sock topics) raises rfl rfl).bind
    ((sendAck_reaches rt cfg id).bind ((sendStateUpdate_reaches rt cfg .configured).bind
      (sendStateUpdate_reaches rt cfg .running)))
  refine chain.congr fun writes => and_congr_right fun _ => ?_
  rcases writes with _ | ⟨a, _ | ⟨b, _ | ⟨c, rest⟩⟩⟩ <;> simp

theorem handleConfig_configure {env : Envelope} (hc : env.command = .configure)
    {sock : String} {topics : List String} (hconf : configuration env = .ok (sock, topics))
    (raises : Option Exn) :
    handleConfig rt cfg handlers env raises =
      (configureWith rt cfg handlers sock topics env.messageId raises >>= fun _ =>
        startWorker handlers) := by
  unfold handleConfig configureWith startWorker
  have found : ofExcept (.ok (sock, topics)) = (pure (sock, topics) : Task _) := rfl
  rw [if_pos hc, hconf, found, pure_bind]
  simp only [bind_assoc]

theorem handleConfig_cases {env : Envelope} (ht : env.msgType = .config) (raises : Option Exn)
    (w : World) : ∃ es w', Inner w es w' ∧
      (final (handleConfig rt cfg handlers env raises w) = w' ∧
          ¬Completes handlers env raises w.writes ∨
        final (handleConfig rt cfg handlers env raises w) = w'.handOut handlers ∧
          Completes handlers env raises w.writes) := by
  by_cases hc : env.command = .configure
  case neg =>
    unfold handleConfig
    rw [if_neg hc]
    exact ⟨[], w, innerJournal.refl w, .inl ⟨rfl, fun complete => hc complete.command⟩⟩
  cases hconf : configuration env with
  | error exn =>
    unfold handleConfig
    rw [if_pos hc, hconf]
    refine ⟨[], w, innerJournal.refl w, .inl ⟨rfl, fun complete => ?_⟩⟩
    simpa [hconf, Except.isOk, Except.toBool] using complete.readable
  | ok found =>
    obtain ⟨sock, topics⟩ := found
    rw [handleConfig_configure rt cfg handlers hc hconf]
    obtain ⟨es, w', h, ⟨hok, good, -⟩ | ⟨⟨exn, herr⟩, bad⟩⟩ :=
      configureWith_reaches rt cfg handlers sock topics env.messageId raises w
    · refine ⟨es, w', h, .inr ⟨?_, ht, hc, by rw [hconf]; rfl, good.1, good.2⟩⟩
      rw [bind_ok hok, startWorker_ok]
      rfl
    · refine ⟨es, w', h, .inl ⟨?_, fun complete => bad ⟨complete.calm, complete.sent⟩⟩⟩
      rw [bind_error herr]
      rfl

end Functions

/-- Every worker that is not told to stop was given the reference in place. -/
def Settled (w : World) : Prop :=
  ∀ r, Event.onRunning r ∈ w.trace → r ≠ w.client.stopFlag → Event.stop r ∈ w.trace

/-- No worker has lost its reference exactly if every CONFIGURE that completed came alone. -/
structure Sound (handlers : Handlers) (w : World) : Prop where
  stored : recorder.monitor.after [] w.trace = w.writes
  fresh : ∀ r, Event.onRunning r ∈ w.trace → r < w.refs
  settled : Everywhere (ConfigureAlone handlers) [] w.trace ↔ Settled w

/-- An event by which no worker comes or loses its reference. -/
def Plain (flag : Nat) : Event → Prop
  | .dispatch _ _ => False
  | .onRunning _ => False
  | .stop r => r = flag
  | _ => True

theorem plain_of_inner {flag : Nat} {e : Event} (h : e.inner = true) : Plain flag e := by
  cases e <;> trivial

section Invariant

variable {handlers : Handlers} {w w' : World} {es : List Event} {flag : Nat}

theorem onRunning_not_plain {r : Nat} (h : ∀ e ∈ es, Plain flag e) : Event.onRunning r ∉ es :=
  fun hr => h _ hr

theorem everywhere_plain (h : ∀ e ∈ es, Plain flag e) (past : List Event) :
    Everywhere (ConfigureAlone handlers) past es := by
  refine everywhere_of_forall (fun e he pre => ?_) past
  cases e with
  | dispatch env raises => exact (h _ he).elim
  | _ => trivial

theorem Sound.extend (hw : Sound handlers w) (hleads : recorder.Leads w es w')
    (hrefs : w'.refs = w.refs) (hflag : w'.client.stopFlag = w.client.stopFlag)
    (hplain : ∀ e ∈ es, Plain w.client.stopFlag e) : Sound handlers w' where
  stored := by
    have htrace : w'.trace = w.trace ++ es := hleads.trace
    rw [htrace, Monitor.after_append, hw.stored]
    exact hleads.left
  fresh r hr := by
    have htrace : w'.trace = w.trace ++ es := hleads.trace
    rw [htrace, List.mem_append, or_iff_left (onRunning_not_plain hplain)] at hr
    rw [hrefs]
    exact hw.fresh r hr
  settled := by
    have htrace : w'.trace = w.trace ++ es := hleads.trace
    rw [htrace, everywhere_append, and_iff_left (everywhere_plain hplain _), hw.settled]
    unfold Settled
    rw [htrace, hflag]
    refine forall_congr' fun r => ?_
    rw [List.mem_append, or_iff_left (onRunning_not_plain hplain), List.mem_append]
    refine imp_congr_right fun _ => imp_congr_right fun hr => (or_iff_left ?_).symm
    intro hstop
    exact hr (hplain _ hstop)

theorem Sound.inner (hw : Sound handlers w) (h : Inner w es w') : Sound handlers w' := by
  have hmarks := h.marks
  simp only [World.marks, Prod.mk.injEq] at hmarks
  exact hw.extend h.leads hmarks.2.1 hmarks.2.2 fun e he => plain_of_inner (h.inner e he)

theorem Sound.record (hw : Sound handlers w) {e : Event} (hquiet : e.quiet = true)
    (hplain : Plain w.client.stopFlag e) : Sound handlers (w.record e) :=
  hw.extend (leads_record hquiet) rfl rfl (by simpa using hplain)

theorem Sound.dispatch (hw : Sound handlers w) {env : Envelope} {raises : Option Exn}
    (h : ¬Completes handlers env raises w.writes) :
    Sound handlers (w.record (.dispatch env raises)) where
  stored := by
    rw [World.record_trace, Monitor.after_append, hw.stored]
    rfl
  fresh r hr := hw.fresh r (by simpa using hr)
  settled := by
    have alone : ConfigureAlone handlers ([] ++ w.trace) (.dispatch env raises) := by
      intro complete
      rw [List.nil_append, hw.stored] at complete
      exact absurd complete h
    rw [World.record_trace, everywhere_append, everywhere_cons]
    simp only [alone, everywhere_nil, and_true, hw.settled]
    simp [Settled]

theorem mem_handed {e : Event} (h : e ∈ w.handed handlers) : e = .onRunning w.refs := by
  unfold World.handed at h
  split at h
  · exact List.mem_singleton.mp h
  · cases h

theorem Sound.handOut (hw : Sound handlers w) {env : Envelope} {raises : Option Exn}
    (h : Completes handlers env raises w.writes)
    (hinner : Inner (w.record (.dispatch env raises)) es w') :
    Sound handlers (w'.handOut handlers) := by
  have hrefs : w'.refs = w.refs := by
    have hmarks := hinner.marks
    simp only [World.marks, Prod.mk.injEq] at hmarks
    exact hmarks.2.1
  have hplain : ∀ e ∈ es, Plain 0 e := fun e he => plain_of_inner (hinner.inner e he)
  have htrace : (w'.handOut handlers).trace =
      w.trace ++ .dispatch env raises :: (es ++ w'.handed handlers) := by
    have before : w'.trace = w.trace ++ [.dispatch env raises] ++ es := hinner.leads.trace
    change w'.trace ++ w'.handed handlers = _
    rw [before]
    simp
  have handed : ∀ r, Event.onRunning r ∈ (w'.handOut handlers).trace →
      Event.onRunning r ∈ w.trace ∨ r = w.refs := by
    intro r hr
    rw [htrace, List.mem_append, List.mem_cons, List.mem_append] at hr
    obtain hr | hr | hr | hr := hr
    · exact .inl hr
    · cases hr
    · exact absurd hr (onRunning_not_plain hplain)
    · cases mem_handed hr
      exact .inr hrefs
  have told : ∀ r, Event.stop r ∈ (w'.handOut handlers).trace → Event.stop r ∈ w.trace := by
    intro r hr
    rw [htrace, List.mem_append, List.mem_cons, List.mem_append] at hr
    obtain hr | hr | hr | hr := hr
    · exact hr
    · cases hr
    · cases hinner.inner _ hr
    · cases mem_handed hr
  constructor
  case stored =>
    have hleft := hinner.leads.left
    change recorder.monitor.after w.writes es = w'.writes at hleft
    rw [htrace, Monitor.after_append, hw.stored, Monitor.after_cons, Monitor.after_append]
    change recorder.monitor.after (recorder.monitor.after w.writes es) _ = w'.writes
    rw [hleft]
    unfold World.handed
    split <;> rfl
  case fresh =>
    intro r hr
    change r < w'.refs + 1
    rw [hrefs]
    obtain hr | rfl := handed r hr
    · exact Nat.lt_succ_of_lt (hw.fresh r hr)
    · exact Nat.lt_succ_self _
  case settled =>
    have rest : ∀ past, Everywhere (ConfigureAlone handlers) past (es ++ w'.handed handlers) := by
      intro past
      rw [everywhere_append]
      refine ⟨everywhere_plain hplain _, everywhere_of_forall (fun e he pre => ?_) _⟩
      rw [mem_handed he]
      trivial
    have alone : ConfigureAlone handlers w.trace (.dispatch env raises) ↔ AllTold w.trace := by
      unfold ConfigureAlone
      rw [hw.stored]
      exact ⟨fun all => all h, fun all _ => all⟩
    rw [htrace, everywhere_append, everywhere_cons, and_iff_left (rest _), hw.settled,
      List.nil_append, alone]
    constructor
    · rintro ⟨-, all⟩ r hr hne
      obtain hr | rfl := handed r hr
      · rw [htrace]
        exact List.mem_append_left _ (all r hr)
      · exact absurd hrefs.symm hne
    · intro settled
      have all : AllTold w.trace := by
        intro r hr
        refine told r (settled r ?_ ?_)
        · rw [htrace]
          exact List.mem_append_left _ hr
        · change r ≠ w'.refs
          rw [hrefs]
          exact Nat.ne_of_lt (hw.fresh r hr)
      exact ⟨fun r hr _ => all r hr, all⟩

end Invariant

section Run

variable (rt : Runtime) (cfg : Config) (handlers : Handlers)

theorem dispatch_sound (env : Envelope) (raises : Option Exn) {w : World}
    (hw : Sound handlers w) : Sound handlers
      (final (dispatch rt cfg handlers env raises (w.record (.dispatch env raises)))) := by
  by_cases ht : env.msgType = .config
  case neg =>
    obtain ⟨es, h⟩ := dispatch_inner rt cfg handlers ht raises (w.record (.dispatch env raises))
    exact (hw.dispatch fun complete => ht complete.msgType).inner h
  obtain ⟨es, w', h, hcases⟩ :=
    handleConfig_cases rt cfg handlers ht raises (w.record (.dispatch env raises))
  rw [final_dispatch rt cfg handlers ht]
  obtain ⟨heq, hnot⟩ | ⟨heq, hcomplete⟩ := hcases
  · rw [heq]
    exact (hw.dispatch hnot).inner h
  · rw [heq]
    exact hw.handOut hcomplete h

theorem gracefulShutdown_sound (raises : Option Exn) :
    Preserves (Sound handlers) (gracefulShutdown rt cfg handlers raises) := by
  intro w hw
  obtain ⟨es, h⟩ := shutdownRest_inner rt cfg handlers raises (w.record (.stop w.client.stopFlag))
  exact Sound.inner (hw.record (e := .stop _) rfl rfl) h

theorem messageLoop_sound (reads : List Read) :
    Preserves (Sound handlers) (messageLoop rt cfg handlers reads) := by
  have received : ∀ reads, Preserves (Sound handlers) (awaitLine rt reads) := fun reads =>
    (awaitLine_inner rt reads).preserves fun h hw => hw.inner h
  induction reads with
  | nil => exact (received []).bind fun _ w hw => hw
  | cons read rest ih =>
    rw [messageLoop]
    refine (received _).bind fun answer w hw => ?_
    have hdispatch := dispatch_sound rt cfg handlers answer.1 read.raises hw
    simp only [bind_ok (emit_ok _ w)]
    cases hd : dispatch rt cfg handlers answer.1 read.raises
        (w.record (.dispatch answer.1 read.raises)) with
    | error exn w₁ =>
      rw [hd] at hdispatch
      rw [bind_error hd]
      exact hdispatch
    | ok stop w₁ =>
      rw [hd] at hdispatch
      rw [bind_ok hd]
      cases stop with
      | true => exact gracefulShutdown_sound rt cfg handlers read.raises w₁ hdispatch
      | false => exact ih w₁ hdispatch

theorem session_sound (link : Link) :
    Preserves (Sound handlers) (session rt cfg handlers link) :=
  ((doRegister_inner rt cfg link.reads).preserves fun h hw => hw.inner h).bind
    (messageLoop_sound rt cfg handlers)

theorem runOnce_sound (link : Link) :
    Preserves (Sound handlers) (runOnce rt cfg handlers link) := by
  intro w hw
  have opened : Sound handlers w.opened :=
    hw.extend (opened_leads w) rfl rfl (List.forall_mem_singleton.mpr trivial)
  obtain ⟨exn, h⟩ | ⟨exn, h⟩ | h := runOnce_cases rt cfg handlers link w
  · rw [h]
    exact hw.record rfl trivial
  · rw [h]
    exact opened.record rfl trivial
  · have connected : Sound handlers (w.connected link) := by
      refine hw.extend (connected_leads w link) rfl rfl fun e he => ?_
      rcases List.mem_pair.mp he with rfl | rfl <;> trivial
    rw [h, final_protect]
    exact (session_sound rt cfg handlers link _ connected).record rfl trivial

theorem turn_sound (attempts : Nat) (link : Link) {w : World} (hw : Sound handlers w) :
    Sound handlers (turn rt cfg handlers attempts link w).2 := by
  have left := (runOnce_sound rt cfg handlers link w hw).record (e := .left) rfl trivial
  obtain ⟨o, h, -⟩ | h := turn_cases rt cfg handlers attempts link w
  · rw [h]
    exact left
  · rw [h]
    exact left.record rfl trivial

theorem run_sound (links : List Link) : Sound handlers (run rt cfg handlers links).2 := by
  apply Loop.run_preserves
  · intro attempts link w hw
    exact turn_sound rt cfg handlers attempts link hw
  · exact ⟨rfl, by simp, by simp [Settled]⟩

def FlagSet (w : World) : Prop := Event.stop w.client.stopFlag ∈ w.trace

theorem FlagSet.record {w : World} (h : FlagSet w) (e : Event) : FlagSet (w.record e) :=
  List.mem_append_left _ h

theorem gracefulShutdown_sets (raises : Option Exn) (w : World) :
    FlagSet (final (gracefulShutdown rt cfg handlers raises w)) := by
  obtain ⟨es, h⟩ := shutdownRest_inner rt cfg handlers raises (w.record (.stop w.client.stopFlag))
  have hmarks := h.marks
  simp only [World.marks, Prod.mk.injEq] at hmarks
  have hset : Event.stop w.client.stopFlag ∈
      (final (gracefulShutdown rt cfg handlers raises w)).trace := by
    have htrace := h.leads.trace
    change (final (gracefulShutdown rt cfg handlers raises w)).trace = _ at htrace
    rw [htrace]
    exact List.mem_append_left _ (List.mem_append_right _ (List.mem_singleton_self _))
  unfold FlagSet
  have hflag : (final (gracefulShutdown rt cfg handlers raises w)).client.stopFlag =
      w.client.stopFlag := hmarks.2.2
  rwa [hflag]

theorem messageLoop_sets {reads : List Read} {w w' : World}
    (h : messageLoop rt cfg handlers reads w = .ok () w') : FlagSet w' := by
  induction reads generalizing w with
  | nil => cases h
  | cons read rest ih =>
    rw [messageLoop] at h
    obtain ⟨answer, w₁, -, h⟩ := bind_eq_ok.mp h
    obtain ⟨_, w₂, -, h⟩ := bind_eq_ok.mp h
    obtain ⟨stop, w₃, -, h⟩ := bind_eq_ok.mp h
    cases stop with
    | true =>
      have hset := gracefulShutdown_sets rt cfg handlers read.raises w₃
      change gracefulShutdown rt cfg handlers read.raises w₃ = .ok () w' at h
      rwa [h] at hset
    | false => exact ih h

theorem runOnce_sets {link : Link} {w w' : World}
    (h : runOnce rt cfg handlers link w = .ok () w') : FlagSet w' := by
  obtain ⟨exn, heq⟩ | ⟨exn, heq⟩ | heq := runOnce_cases rt cfg handlers link w
  · cases heq.symm.trans h
  · cases heq.symm.trans h
  · cases hs : session rt cfg handlers link (w.connected link) with
    | error exn w₁ =>
      rw [heq, protect_error hs] at h
      cases h
    | ok _ w₁ =>
      rw [heq, protect_ok hs] at h
      cases h
      obtain ⟨rest, w₂, -, hloop⟩ := bind_eq_ok.mp hs
      exact (messageLoop_sets rt cfg handlers hloop).record _

theorem run_sets {links : List Link} (h : (run rt cfg handlers links).1 = some .clean) :
    FlagSet (run rt cfg handlers links).2 := by
  obtain ⟨attempts, link, w, hturn⟩ := Loop.run_eq_some _ h
  change turn rt cfg handlers attempts link w =
    (some .clean, (run rt cfg handlers links).2) at hturn
  obtain ⟨o, heq, hclean⟩ | heq := turn_cases rt cfg handlers attempts link w
  · rw [heq, Prod.mk.injEq, Option.some.injEq] at hturn
    obtain ⟨w', hw'⟩ := hclean hturn.1
    rw [← hturn.2, hw']
    exact (runOnce_sets rt cfg handlers hw').record _
  · rw [heq] at hturn
    cases hturn

/-- When `run` returns after a SHUTDOWN every worker has been told to stop exactly if no
CONFIGURE completed while a worker was not told to stop. -/
theorem allTold_iff {links : List Link} (h : (run rt cfg handlers links).1 = some .clean) :
    AllTold (run rt cfg handlers links).2.trace ↔
      Everywhere (ConfigureAlone handlers) [] (run rt cfg handlers links).2.trace := by
  rw [(run_sound rt cfg handlers links).settled]
  constructor
  · intro all r hr _
    exact all r hr
  · intro settled r hr
    by_cases hflag : r = (run rt cfg handlers links).2.client.stopFlag
    · rw [hflag]
      exact run_sets rt cfg handlers h
    · exact settled r hr hflag

end Run

def Event.handedRef : Event → Option Nat
  | .onRunning r => some r
  | _ => none

def Event.toldRef : Event → Option Nat
  | .stop r => some r
  | _ => none

theorem allTold_iff_refs {trace : List Event} : AllTold trace ↔
    ∀ r ∈ trace.filterMap Event.handedRef, r ∈ trace.filterMap Event.toldRef := by
  have handed : ∀ r, r ∈ trace.filterMap Event.handedRef ↔ Event.onRunning r ∈ trace := by
    intro r
    rw [List.mem_filterMap]
    constructor
    · rintro ⟨e, he, heq⟩
      cases e <;> cases heq
      exact he
    · intro h
      exact ⟨_, h, rfl⟩
  have told : ∀ r, r ∈ trace.filterMap Event.toldRef ↔ Event.stop r ∈ trace := by
    intro r
    rw [List.mem_filterMap]
    constructor
    · rintro ⟨e, he, heq⟩
      cases e <;> cases heq
      exact he
    · intro h
      exact ⟨_, h, rfl⟩
  simp only [AllTold, handed, told]

instance (trace : List Event) : Decidable (AllTold trace) :=
  decidable_of_iff _ allTold_iff_refs.symm

namespace Sample

def runtime : Runtime where
  stamp n := { messageId := ToString.toString n, timestamp := "" }
  uptime _ := 0
  fromString := Daemon.parse [Daemon.registered, Daemon.configure, Daemon.shutdown]

def config : Config :=
  { socketPath := "aegis.sock", sessionToken := "t", componentName := "c", reconnect := false }

def handlers : Handlers := { onRunning := true }

def link (messages : List Json) : Link :=
  { reads := messages.map fun v => { event := .line (Daemon.line v) } }

def one : List Link := [link [Daemon.registered, Daemon.configure, Daemon.shutdown]]

def two : List Link :=
  [link [Daemon.registered, Daemon.configure, Daemon.configure, Daemon.shutdown]]

end Sample

theorem allTold_iff_sample :
    AllTold (run Sample.runtime Sample.config Sample.handlers Sample.one).2.trace ↔
      Everywhere (ConfigureAlone Sample.handlers) []
        (run Sample.runtime Sample.config Sample.handlers Sample.one).2.trace :=
  allTold_iff Sample.runtime Sample.config Sample.handlers (by decide +kernel)

/-- The second CONFIGURE takes the reference of the first worker away. -/
theorem first_worker_untold : ¬ ∀ (rt : Runtime) (cfg : Config) (handlers : Handlers)
    (links : List Link), (run rt cfg handlers links).1 = some .clean →
      AllTold (run rt cfg handlers links).2.trace := by
  intro h
  have clean : (run Sample.runtime Sample.config Sample.handlers Sample.two).1 = some .clean := by
    decide +kernel
  have told := h Sample.runtime Sample.config Sample.handlers Sample.two clean
  revert told
  decide +kernel

end AegisSdk.OCaml
