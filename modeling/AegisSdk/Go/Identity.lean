import AegisSdk.Go.History

/-!
Which id a REGISTER carries. `register` stores the id of the REGISTERED reply in
`ComponentID`, which `source` reads, but puts `cfg.ComponentID` into the payload of the next
REGISTER.
-/

set_option autoImplicit false
set_option relaxedAutoImplicit false

namespace AegisSdk.Go

open AegisSdk.Protocol AegisSdk.Library

def Delivery.given : Delivery → Option Message
  | .message m => some m
  | .failure _ => none

/-- The `component_id` of the REGISTERED reply that a link has in store, if its REGISTER gets
that far. -/
def Link.assigned (link : Link) : Option (Option Json) :=
  if link.dial && link.writes.headD true then
    (link.inbox.head?.bind fun incoming => incoming.delivery.given).bind fun m =>
      if m.env.command = Command.registered then some (m.env.payload.get "component_id") else none
  else none

def assignments (links : List Link) : List (Option Json) := links.filterMap Link.assigned

def nonEmptyId : Option Json → Option String
  | some (.str id) => if id = "" then none else some id
  | _ => none

/-- The non-empty string among the assigned ids that was assigned last. -/
def latestId (assigned : List (Option Json)) : Option String :=
  (assigned.filterMap nonEmptyId).getLast?

def storedId (rt : Runtime) (assigned : List (Option Json)) : String :=
  (assigned.getLast?.map (sprintV rt)).getD ""

def assignedBefore (links : List Link) (pre : List Event) : List (Option Json) :=
  assignments (links.take (pre.countP Event.dials - 1))

def Event.registers : Event → Option Envelope
  | .send env _ => if env.command = Command.register then some env else none
  | _ => none

/-- The REGISTER carries the id assigned last, in its payload as well as in its source. -/
def CarriesLatest (links : List Link) (pre : List Event) (e : Event) : Prop :=
  ∀ env ∈ e.registers, ∀ id ∈ latestId (assignedBefore links pre),
    env.payload.get "component_id" = some (.str id) ∧ env.source = "component:" ++ id

/-- Every REGISTER sent after a REGISTERED has assigned a non-empty string carries the one
assigned last. -/
def KeepsIdentity (links : List Link) (es : List Event) : Prop :=
  Everywhere (CarriesLatest links) [] es

/-- When a REGISTER is sent after such an assignment, the configuration names the same id, and
so does what is left of the last reply: its `component_id` as text or, if that is empty, the
component's name. -/
def ConfiguredLatest (rt : Runtime) (cfg : Config) (links : List Link) (pre : List Event)
    (e : Event) : Prop :=
  e.registers.isSome = true → ∀ id ∈ latestId (assignedBefore links pre),
    cfg.componentID = id ∧ (storedId rt (assignedBefore links pre) = id ∨
      storedId rt (assignedBefore links pre) = "" ∧ cfg.componentName = id)

def ConfiguresIdentity (rt : Runtime) (cfg : Config) (links : List Link) (es : List Event) :
    Prop :=
  Everywhere (ConfiguredLatest rt cfg links) [] es

section Stored

variable {rt : Runtime} {cfg : Config} {handlers : Handlers} {c c' : Component}
  {es : List Event}

theorem Advance.keeps_id {st : ComponentState} {b : Bool} (h : Advance cfg c st es c' b) :
    c'.componentID = c.componentID := by
  cases h <;> rfl

theorem Settling.keeps_id (h : Settling cfg handlers c es c') :
    c'.componentID = c.componentID := by
  cases h with
  | unconfigured a => exact a.keeps_id
  | stopped a b | running a b => exact b.keeps_id.trans a.keeps_id

theorem Reaction.keeps_id {m : Message} {v : Verdict} (h : Reaction cfg handlers m c es c' v) :
    c'.componentID = c.componentID := by
  cases h with
  | accepted _ _ _ _ settling => exact settling.keeps_id
  | _ => rfl

theorem Session.keeps_id {v : Verdict} (h : Session cfg handlers c es c' v) :
    c'.componentID = c.componentID := by
  induction h with
  | cancelled | lost => rfl
  | last reaction _ => exact reaction.keeps_id
  | next reaction _ ih => exact ih.trans reaction.keeps_id

theorem Handshake.stores {res : Option GoError} {link : Link} {links : List Link}
    (h : Handshake rt cfg c es c' res) (hdial : link.dial = true)
    (ha : supply.Accepts { links := links, inbox := link.inbox, writes := link.writes } es) :
    c'.componentID = (link.assigned.map (sprintV rt)).getD c.componentID := by
  -- the reply that a REGISTER sent completely gets
  have replied : ∀ {m : Message}, true = link.writes.headD true →
      link.inbox.head?.map Incoming.delivery = some (.message m) →
      link.assigned = if m.env.command = Command.registered then
        some (m.env.payload.get "component_id") else none := by
    intro m hwrite hrecv
    cases hinbox : link.inbox with
    | nil => simp [hinbox] at hrecv
    | cons incoming rest =>
      simp only [hinbox, List.head?_cons, Option.map_some, Option.some.injEq] at hrecv
      rw [Link.assigned, hdial, ← hwrite, hinbox]
      simp [hrecv, Delivery.given]
  cases h with
  | registerLost r err _ =>
    have hwrite : false = link.writes.headD true := ha.1
    rw [Link.assigned, ← hwrite]
    simp
  | unanswered r text err _ =>
    have hwrite : true = link.writes.headD true := ha.1
    have hrecv : link.inbox.head?.map Incoming.delivery = some (.failure text) ∨
      link.inbox = [] ∧ text = "EOF" := ha.2.1
    have hnone : link.assigned = none := by
      rcases hrecv with hrecv | ⟨hrecv, -⟩
      · cases hinbox : link.inbox with
        | nil => simp [hinbox] at hrecv
        | cons incoming rest =>
          simp only [hinbox, List.head?_cons, Option.map_some, Option.some.injEq] at hrecv
          simp [Link.assigned, hinbox, hrecv, Delivery.given]
      · simp [Link.assigned, hrecv]
    simp [hnone]
  | rejected r m msg hne =>
    rw [replied ha.1 ha.2.1, if_neg hne]
    rfl
  | notInitializing r m err hreg _ a =>
    rw [replied ha.1 ha.2.1, if_pos hreg, a.keeps_id]
    rfl
  | notReady r m err hreg _ a b =>
    rw [replied ha.1 ha.2.1, if_pos hreg, b.keeps_id, a.keeps_id]
    rfl
  | ready r m hreg a b =>
    rw [replied ha.1 ha.2.1, if_pos hreg, b.keeps_id, a.keeps_id]
    rfl

theorem Attempt.stores {res : Option GoError} {s : Supply} {link : Link} {links : List Link}
    (h : Attempt rt cfg handlers c es c' res) (hs : s.links = link :: links)
    (ha : supply.Accepts s es) :
    c'.componentID = (link.assigned.map (sprintV rt)).getD c.componentID := by
  have dialled : ∀ {ok : Bool}, s.links.head?.map Link.dial = some ok → link.dial = ok := by
    simp [hs]
  have opened : Supply.step s (.dial cfg.socketPath true) =
      { links := links, inbox := link.inbox, writes := link.writes } := by
    simp [Supply.step, hs]
  cases h with
  | refused =>
    have hdial := dialled ha.1
    simp [Link.assigned, hdial]
  | unready handshake =>
    have hhand : supply.Accepts (Supply.step s (.dial cfg.socketPath true)) _ := ha.2
    rw [opened] at hhand
    exact handshake.stores (dialled ha.1) ((supply.accepts_append _ _ _).mp hhand).1
  | session handshake session _ =>
    have hhand : supply.Accepts (Supply.step s (.dial cfg.socketPath true)) _ := ha.2
    rw [opened, List.append_assoc] at hhand
    rw [session.keeps_id]
    exact handshake.stores (dialled ha.1) ((supply.accepts_append _ _ _).mp hhand).1

end Stored

def Event.Within (e : Event) : Prop := e.dials = false ∧ e.registers = none

section Sent

variable {rt : Runtime} {cfg : Config} {handlers : Handlers} {c c' : Component}
  {es : List Event}

theorem within_send {env : Envelope} (h : env.command ≠ Command.register) (ok : Bool) :
    (Event.send env ok).Within := by
  simp [Event.Within, Event.dials, Event.registers, h]

theorem within_opt {isSet : Bool} {e : Event} (h : e.Within) :
    ∀ e' ∈ opt isSet e, e'.Within := by
  cases isSet <;> simp [opt, h]

theorem within_notice (stamp : Stamp) (ok : Bool) :
    ∀ e ∈ [Event.send (shutdownLine cfg stamp c) ok, .state State.shutdown], e.Within := by
  refine List.forall_mem_cons.mpr ⟨within_send ?_ ok, List.forall_mem_singleton.mpr ⟨rfl, rfl⟩⟩
  simp [shutdownLine, newEnvelope, Command.shutdown, Command.register]

theorem Advance.within {st : ComponentState} {b : Bool} (h : Advance cfg c st es c' b) :
    ∀ e ∈ es, e.Within := by
  have line : ∀ stamp ok, (Event.send (stateLine cfg stamp c st) ok).Within := fun _ ok =>
    within_send (by simp [stateLine, newEnvelope, Command.stateUpdate, Command.register]) ok
  cases h with
  | lost stamp => exact List.forall_mem_singleton.mpr (line stamp false)
  | unanswered stamp text | done stamp m =>
    exact List.forall_mem_cons.mpr ⟨line stamp true, List.forall_mem_cons.mpr
      ⟨⟨rfl, rfl⟩, List.forall_mem_singleton.mpr ⟨rfl, rfl⟩⟩⟩

theorem Settling.within (h : Settling cfg handlers c es c') : ∀ e ∈ es, e.Within := by
  cases h with
  | unconfigured a => exact a.within
  | stopped a b => exact List.forall_mem_append.mpr ⟨a.within, b.within⟩
  | running a b =>
    exact List.forall_mem_append.mpr ⟨a.within, List.forall_mem_append.mpr
      ⟨b.within, within_opt ⟨rfl, rfl⟩⟩⟩

theorem Reaction.within {m : Message} {v : Verdict} (h : Reaction cfg handlers m c es c' v) :
    ∀ e ∈ es, e.Within := by
  cases h with
  | ignored => simp
  | pong stamp uptime ok =>
    refine List.forall_mem_append.mpr ⟨within_opt ⟨rfl, rfl⟩, ?_⟩
    refine List.forall_mem_singleton.mpr (within_send ?_ ok)
    simp [pongLine, newEnvelope, Envelope.withCorrelation, Command.pong, Command.register]
  | refused stamp err ok =>
    refine List.forall_mem_append.mpr ⟨within_opt ⟨rfl, rfl⟩, ?_⟩
    refine List.forall_mem_singleton.mpr (within_send ?_ ok)
    simp [errorLine, newEnvelope, Command.runtimeError, Command.register]
  | accepted stamp ok _ _ settling =>
    refine List.forall_mem_append.mpr ⟨within_opt ⟨rfl, rfl⟩, ?_⟩
    refine List.forall_mem_cons.mpr ⟨within_send ?_ ok, settling.within⟩
    simp [ackLine, newEnvelope, Envelope.withCorrelation, Command.ack, Command.register]
  | shutdown a n ok ok' =>
    refine List.forall_mem_cons.mpr ⟨within_send ?_ ok, List.forall_mem_append.mpr
      ⟨within_opt ⟨rfl, rfl⟩, within_notice n ok'⟩⟩
    simp [ackLine, newEnvelope, Envelope.withCorrelation, Command.ack, Command.register]
  | recoverable | fatal => exact within_opt ⟨rfl, rfl⟩

theorem Session.within {v : Verdict} (h : Session cfg handlers c es c' v) :
    ∀ e ∈ es, e.Within := by
  have head : ∀ {st : ComponentState} {m : Message} {xs : List Event}, (∀ e ∈ xs, e.Within) →
      ∀ e ∈ Event.await st none :: .recv m :: .dispatch m.env :: xs, e.Within := fun h =>
    List.forall_mem_cons.mpr ⟨⟨rfl, rfl⟩, List.forall_mem_cons.mpr ⟨⟨rfl, rfl⟩,
      List.forall_mem_cons.mpr ⟨⟨rfl, rfl⟩, h⟩⟩⟩
  induction h with
  | cancelled c err stamp ok =>
    exact List.forall_mem_cons.mpr ⟨⟨rfl, rfl⟩, List.forall_mem_append.mpr
      ⟨within_opt ⟨rfl, rfl⟩, within_notice stamp ok⟩⟩
  | lost c text err _ =>
    exact List.forall_mem_cons.mpr ⟨⟨rfl, rfl⟩, List.forall_mem_singleton.mpr ⟨rfl, rfl⟩⟩
  | last reaction _ => exact head reaction.within
  | next reaction _ ih => exact head (List.forall_mem_append.mpr ⟨reaction.within, ih⟩)

theorem Handshake.registers_first {res : Option GoError} (h : Handshake rt cfg c es c' res) :
    ∃ r ok rest, es = .send (registerLine cfg r c) ok :: rest ∧ ∀ e ∈ rest, e.Within := by
  have received : ∀ m, (Event.recv m).Within := fun _ => ⟨rfl, rfl⟩
  cases h with
  | registerLost r => exact ⟨r, false, [], rfl, by simp⟩
  | unanswered r text => exact ⟨r, true, _, rfl, List.forall_mem_singleton.mpr ⟨rfl, rfl⟩⟩
  | rejected r m => exact ⟨r, true, _, rfl, List.forall_mem_singleton.mpr (received m)⟩
  | notInitializing r m _ _ _ a =>
    exact ⟨r, true, _, rfl, List.forall_mem_cons.mpr
      ⟨received m, List.forall_mem_cons.mpr ⟨⟨rfl, rfl⟩, a.within⟩⟩⟩
  | notReady r m _ _ _ a b | ready r m _ a b =>
    exact ⟨r, true, _, rfl, List.forall_mem_cons.mpr ⟨received m, List.forall_mem_cons.mpr
      ⟨⟨rfl, rfl⟩, List.forall_mem_append.mpr ⟨a.within, b.within⟩⟩⟩⟩

theorem Attempt.registers_first {res : Option GoError} (h : Attempt rt cfg handlers c es c' res) :
    es = [.dial cfg.socketPath false] ∨
      ∃ r ok rest, es = .dial cfg.socketPath true :: .send (registerLine cfg r c) ok :: rest ∧
        ∀ e ∈ rest, e.Within := by
  cases h with
  | refused => exact .inl rfl
  | unready handshake =>
    obtain ⟨r, ok, rest, rfl, within⟩ := handshake.registers_first
    exact .inr ⟨r, ok, _, rfl, List.forall_mem_append.mpr
      ⟨within, List.forall_mem_singleton.mpr ⟨rfl, rfl⟩⟩⟩
  | session handshake session _ =>
    obtain ⟨r, ok, rest, rfl, within⟩ := handshake.registers_first
    exact .inr ⟨r, ok, _, rfl, List.forall_mem_append.mpr ⟨List.forall_mem_append.mpr
      ⟨within, session.within⟩, List.forall_mem_singleton.mpr ⟨rfl, rfl⟩⟩⟩

/-- The REGISTER that the event sends carries the id stored by the turns before. -/
def RegistersStored (rt : Runtime) (cfg : Config) (links : List Link) (pre : List Event)
    (e : Event) : Prop :=
  ∀ env ∈ e.registers, ∃ stamp c,
    c.componentID = storedId rt (assignedBefore links pre) ∧ env = registerLine cfg stamp c

theorem registersStored_of_none {links : List Link} {e : Event} (h : e.registers = none)
    (pre : List Event) : RegistersStored rt cfg links pre e := by
  simp [RegistersStored, h]

theorem countP_dials_of_within (h : ∀ e ∈ es, e.Within) : es.countP Event.dials = 0 := by
  rw [List.countP_eq_zero]
  intro e he
  simp [(h e he).1]

theorem Attempt.countP_dials {res : Option GoError} (h : Attempt rt cfg handlers c es c' res) :
    es.countP Event.dials = 1 := by
  rcases h.registers_first with rfl | ⟨r, ok, rest, rfl, within⟩
  · rfl
  · rw [List.countP_cons, List.countP_cons, countP_dials_of_within within]
    rfl

theorem Attempt.registers {res : Option GoError} {links : List Link} {past : List Event}
    (h : Attempt rt cfg handlers c es c' res)
    (hc : c.componentID = storedId rt (assignments (links.take (past.countP Event.dials)))) :
    Everywhere (RegistersStored rt cfg links) past es := by
  rcases h.registers_first with rfl | ⟨r, ok, rest, rfl, within⟩
  · exact everywhere_of_forall (List.forall_mem_singleton.mpr (registersStored_of_none rfl)) past
  · rw [everywhere_cons, everywhere_cons]
    refine ⟨registersStored_of_none rfl past, ?_,
      everywhere_of_forall (fun e he => registersStored_of_none (within e he).2) _⟩
    have before : assignedBefore links (past ++ [.dial cfg.socketPath true]) =
        assignments (links.take (past.countP Event.dials)) := by
      rw [assignedBefore, List.countP_append]
      rfl
    intro env henv
    obtain rfl : registerLine cfg r c = env := by
      simpa [Event.registers, registerLine, newEnvelope] using henv
    exact ⟨r, c, hc.trans (by rw [before]), rfl⟩

theorem supply_links (s : Supply) (es : List Event) :
    (supply.after s es).links = s.links.drop (es.countP Event.dials) := by
  induction es generalizing s with
  | nil => rfl
  | cons e es ih =>
    rw [supply.after_cons, ih, List.countP_cons]
    cases e with
    | dial path ok =>
      cases ok <;> simp [supply, Supply.step, Event.dials]
    | _ => rfl

theorem storedId_append (past : List (Option Json)) (value : Option (Option Json)) :
    storedId rt (past ++ value.toList) = (value.map (sprintV rt)).getD (storedId rt past) := by
  cases value <;> simp [storedId]

/-- Every REGISTER of a run carries the id stored by the turns before. -/
theorem History.registers {n : Nat} {delay : Duration} {links all : List Link} {o : Outcome}
    {past : List Event} (h : History rt cfg handlers n delay c links es o)
    (hlinks : all.drop (past.countP Event.dials) = links)
    (hc : c.componentID = storedId rt (assignments (all.take (past.countP Event.dials))))
    (ha : supply.Accepts (supply.after (store all) past) es) :
    Everywhere (RegistersStored rt cfg all) past es := by
  have waited : ∀ past delay, Everywhere (RegistersStored rt cfg all) past [.wait delay] :=
    fun past _ =>
      everywhere_of_forall (List.forall_mem_singleton.mpr (registersStored_of_none rfl)) past
  induction h generalizing past with
  | paused | done => exact everywhere_nil past
  | last _ _ _ attempt _ => exact attempt.registers hc
  | stopped _ _ _ attempt _ _ =>
    exact (everywhere_append _ _ _).mpr ⟨attempt.registers hc, waited _ _⟩
  | @again n delay c c' link links es rest res o _ attempt _ _ history ih =>
    obtain ⟨hes, hrest⟩ := (supply.accepts_append _ _ _).mp ha
    have hs : (supply.after (store all) past).links = link :: links := by
      rw [supply_links]
      exact hlinks
    have dials : (past ++ es ++ [Event.wait delay]).countP Event.dials =
        past.countP Event.dials + 1 := by
      rw [List.countP_append, List.countP_append, attempt.countP_dials]
      rfl
    have taken : all.take (past.countP Event.dials + 1) =
        all.take (past.countP Event.dials) ++ [link] := by
      rw [List.take_add, hlinks]
      rfl
    have dropped : all.drop ((past ++ es ++ [Event.wait delay]).countP Event.dials) = links := by
      rw [dials, ← List.drop_drop, hlinks]
      rfl
    have stored : c'.componentID = storedId rt (assignments
        (all.take ((past ++ es ++ [Event.wait delay]).countP Event.dials))) := by
      have split : assignments (all.take (past.countP Event.dials) ++ [link]) =
          assignments (all.take (past.countP Event.dials)) ++ link.assigned.toList := by
        cases hassigned : link.assigned <;> simp [assignments, hassigned]
      rw [dials, taken, split, storedId_append, attempt.stores hs hes, hc]
    have accepted : supply.Accepts (supply.after (store all) (past ++ es ++ [.wait delay]))
        rest := by
      rw [supply.after_append, supply.after_append]
      exact hrest.2
    have next := ih dropped stored accepted
    rw [everywhere_append]
    refine ⟨attempt.registers hc, ?_⟩
    rw [← List.singleton_append, everywhere_append]
    exact ⟨waited _ _, next⟩

end Sent

section Kept

variable {rt : Runtime} {cfg : Config}

theorem registerLine_componentID (stamp : Stamp) (c : Component) :
    (registerLine cfg stamp c).payload.get "component_id" = some (.str cfg.componentID) := by
  simp [registerLine, newEnvelope, registerPayload]

theorem registerLine_source (stamp : Stamp) (c : Component) (id : String) :
    (registerLine cfg stamp c).source = "component:" ++ id ↔
      (if c.componentID = "" then cfg.componentName else c.componentID) = id := by
  by_cases h : c.componentID = "" <;> simp [registerLine, newEnvelope, source, h]

theorem latestId_ne_empty {assigned : List (Option Json)} {id : String}
    (h : id ∈ latestId assigned) : id ≠ "" := by
  have hmem := List.mem_of_getLast? h
  obtain ⟨value, _, hvalue⟩ := List.mem_filterMap.mp hmem
  unfold nonEmptyId at hvalue
  split at hvalue
  · split at hvalue
    · cases hvalue
    · rename_i hne
      cases hvalue
      exact hne
  · cases hvalue

theorem registerLine_carries {stamp : Stamp} {c : Component} {id : String} (hid : id ≠ "") :
    ((registerLine cfg stamp c).payload.get "component_id" = some (.str id) ∧
        (registerLine cfg stamp c).source = "component:" ++ id) ↔
      cfg.componentID = id ∧ (c.componentID = id ∨ c.componentID = "" ∧ cfg.componentName = id) := by
  rw [registerLine_componentID, registerLine_source, Option.some.injEq, Json.str.injEq]
  by_cases h : c.componentID = ""
  · simp [h, Ne.symm hid]
  · simp [h]

theorem carriesLatest_iff {links : List Link} {pre : List Event} {e : Event}
    (h : RegistersStored rt cfg links pre e) :
    CarriesLatest links pre e ↔ ConfiguredLatest rt cfg links pre e := by
  unfold CarriesLatest ConfiguredLatest
  cases hreg : e.registers with
  | none => simp
  | some env =>
    obtain ⟨stamp, c, hc, rfl⟩ := h env hreg
    rw [← hc]
    constructor
    · intro carries _ id hid
      exact (registerLine_carries (latestId_ne_empty hid)).mp (carries _ rfl id hid)
    · rintro configured _ ⟨⟩ id hid
      exact (registerLine_carries (latestId_ne_empty hid)).mpr (configured rfl id hid)

end Kept

/-- In a run, every REGISTER carries the id assigned last exactly if the configuration names
that id and the last reply has left it. -/
theorem keepsIdentity_iff (rt : Runtime) (cfg : Config) (handlers : Handlers)
    (links : List Link) :
    KeepsIdentity links (run rt cfg handlers links).2.trace ↔
      ConfiguresIdentity rt cfg links (run rt cfg handlers links).2.trace := by
  obtain ⟨supplied, history⟩ := run_history rt cfg handlers links
  have stored : Everywhere (RegistersStored rt cfg links) [] (run rt cfg handlers links).2.trace :=
    history.registers rfl rfl supplied
  constructor
  · intro keeps pre e post heq
    exact (carriesLatest_iff (stored pre e post heq)).mp (keeps pre e post heq)
  · intro configured pre e post heq
    exact (carriesLatest_iff (stored pre e post heq)).mpr (configured pre e post heq)

/-- The daemon names a component that has no configured id: the next REGISTER leaves the id
out. -/
theorem identity_not_registered : ¬ ∀ (rt : Runtime) (cfg : Config) (handlers : Handlers)
    (links : List Link), KeepsIdentity links (run rt cfg handlers links).2.trace := by
  intro h
  let cfg : Config := { Sample.config with reconnect := true }
  let links : List Link := [Sample.link [.message Sample.registered], {}]
  let es := (run Sample.runtime cfg {} links).2.trace
  have second : ((es[10]?.bind Event.registers).map fun env =>
      (env.payload.get "component_id").bind Json.asStr) = some (some "") := by decide +kernel
  have latest : latestId (assignedBefore links (es.take 10)) = some "c1" := by decide +kernel
  obtain ⟨env, hsecond, hid⟩ := Option.map_eq_some_iff.mp second
  obtain ⟨e, he, hreg⟩ := Option.bind_eq_some_iff.mp hsecond
  have carries := (h Sample.runtime cfg {} links).at he env hreg "c1" latest
  rw [carries.1] at hid
  simp [Json.asStr] at hid

end AegisSdk.Go
