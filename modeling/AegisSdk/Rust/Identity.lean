import AegisSdk.Rust.Turn

/-!
Which id a REGISTER carries. `register` overwrites the stored id with what the reply gives,
the empty string if that is no string, and reads it back on the next connection with the
environment as a fallback.
-/

set_option autoImplicit false
set_option relaxedAutoImplicit false

namespace AegisSdk.Rust

open AegisSdk.Protocol AegisSdk.Library

section Stored

variable {rt : Runtime} {cfg : Config}

theorem Link.assigned_of_registers {link : Link} (hconn : link.connected = true)
    (hwrite : link.writes.headD true = true) {a b : Json} {rest : List Read}
    (h : Registers rt link.reads a b rest) : link.assigned rt = some a := by
  obtain ⟨env, hreply, hc, ha, _⟩ := h
  have hanswer := Link.answer_some hconn hwrite hreply
  simp only [Link.assigned, hanswer, Option.bind_some, if_pos hc, ha]

theorem Registration.stores {link : Link} {c c' : Component} {es : List Event}
    {res : Except Fault (List Read)} (h : Registration rt cfg link.reads c es c' res)
    (hconn : link.connected = true) {links : List Link}
    (supplied : supply.Accepts ⟨links, link.writes⟩ es) :
    c'.componentId = ((link.assigned rt).map idFrom).getD c.componentId := by
  cases h with
  | lost r =>
    have hanswer : link.answer rt = none := Link.answer_unsent (.inr supplied.1)
    simp [Link.assigned, hanswer]
  | unanswered r hreply =>
    simp [Link.assigned, Link.answer_error hreply]
  | rejected r hreply hc =>
    have hanswer := Link.answer_some hconn supplied.1 hreply
    simp [Link.assigned, hanswer, hc]
  | noComponentId r hreply hc ha =>
    have hanswer := Link.answer_some hconn supplied.1 hreply
    simp [Link.assigned, hanswer, hc, ha]
  | noSessionId r hreply hc ha hb =>
    have hanswer := Link.answer_some hconn supplied.1 hreply
    simp [Link.assigned, hanswer, hc, ha]
  | initializingLost r i hr | readyLost r i d hr | ready r i d hr =>
    simp [Link.assigned_of_registers hconn supplied.1 hr, identified]

theorem Turn.stores {link : Link} {token : Nat} {c c' : Component} {es : List Event}
    {res : Except Fault Unit} (h : Turn rt cfg link token c es c' res) {writes : List Bool}
    (supplied : supply.Accepts ⟨[link], writes⟩ es) :
    c'.componentId = ((link.assigned rt).map idFrom).getD c.componentId := by
  cases h with
  | refused hconn =>
    simp [Link.assigned, Link.answer_unsent (.inl hconn)]
  | unregistered hconn registration => exact registration.stores hconn supplied.2
  | session hconn registration _ hid =>
    rw [hid]
    exact registration.stores hconn ((supply.accepts_append _ _ _).mp supplied.2).1

end Stored

def storedId (assigned : List Json) : String := (assigned.getLast?.map idFrom).getD ""

theorem storedId_append (past : List Json) (value : Option Json) :
    storedId (past ++ value.toList) = (value.map idFrom).getD (storedId past) := by
  cases value <;> simp [storedId]

variable (rt : Runtime) (cfg : Config)

/-- The component ids of the REGISTERED replies that these links have in store. -/
def assignments (links : List Link) : List Json := links.filterMap (Link.assigned rt)

def Event.Registers (e : Event) (env : Envelope) : Prop :=
  e.tried = some env ∧ env.command = .register

def Event.registers (e : Event) : Bool := e.reopens && !e.opens

theorem Event.Registers.registers {e : Event} {env : Envelope} (h : e.Registers env) :
    e.registers = true := by
  obtain ⟨tried, hc⟩ := h
  cases e with
  | write | writeFailed =>
    cases tried
    simp [Event.registers, Event.reopens, Event.opens, hc]
  | _ => simp [Event.tried] at tried

theorem Event.registers_of_quiet {e : Event} (h : e.reopens = false) : e.registers = false := by
  simp [Event.registers, h]

/-- Whenever `es` shows a REGISTER, it comes after a connection attempt and carries the id
stored by then, `past` being what was assigned before `es`. -/
def RegistersStored (past : List Json) (links : List Link) (es : List Event) : Prop :=
  ∀ p e env, p ++ [e] <+: es → e.Registers env → 0 < attempts p ∧
    ∃ stamp c, c.componentId = storedId (past ++ assignments rt (links.take (attempts p - 1))) ∧
      env = registerLine cfg stamp (registerId rt c)

theorem RegistersStored.turn {past : List Json} {link : Link} {links : List Link} {token : Nat}
    {c c' : Component} {es tail : List Event} {res : Except Fault Unit}
    (h : Turn rt cfg link token c es c' res) (hc : c.componentId = storedId past)
    (htail : ∀ e ∈ tail, e.reopens = false) :
    RegistersStored rt cfg past (link :: links) (es ++ tail) := by
  rintro p e env ⟨post, hp⟩ hreg
  rw [List.append_assoc, List.singleton_append] at hp
  have htail' : ∀ x ∈ tail, x.registers = false := fun x hx =>
    Event.registers_of_quiet (htail x hx)
  rcases h.opening with rfl | ⟨e', r, rest, rfl, tried, quiet⟩
  · -- a refused connection shows no REGISTER
    have he : e ∈ .connectFailed cfg.socketPath :: tail := by
      rw [← List.singleton_append, ← hp]
      simp
    have none : e.registers = false := by
      rcases List.mem_cons.mp he with rfl | he
      · rfl
      · exact htail' e he
    rw [hreg.registers] at none
    cases none
  · have later : ∀ x ∈ rest ++ tail, x.registers = false := by
      intro x hx
      rcases List.mem_append.mp hx with hx | hx
      · exact Event.registers_of_quiet (quiet x hx)
      · exact htail' x hx
    have shape : [Event.connect cfg.socketPath] ++ e' :: (rest ++ tail) = p ++ e :: post :=
      hp.symm
    have first : ∀ x ∈ [Event.connect cfg.socketPath], x.registers = false := by
      simp [Event.registers, Event.opens]
    obtain ⟨rfl, rfl, _⟩ := split_unique shape first later hreg.registers
    have hsame := hreg.1.symm.trans tried
    refine ⟨by simp [attempts_cons, Event.opens], r, c, ?_, Option.some.inj hsame⟩
    simpa [attempts_cons, Event.opens, assignments] using hc

theorem RegistersStored.next {past : List Json} {link : Link} {links : List Link} {token : Nat}
    {c c' : Component} {es rest : List Event} {res : Except Fault Unit} {delay : Duration}
    (h : Turn rt cfg link token c es c' res) (hc : c.componentId = storedId past)
    (hrest : RegistersStored rt cfg (past ++ (link.assigned rt).toList) links rest) :
    RegistersStored rt cfg past (link :: links) (es ++ .sleep delay :: rest) := by
  rintro p e env ⟨post, hp⟩ hreg
  rw [List.append_assoc, List.singleton_append] at hp
  have split : es ++ .sleep delay :: rest = (es ++ [.sleep delay]) ++ rest := by simp
  have opened : attempts (es ++ [.sleep delay]) = 1 := by
    simp [h.attempts_eq, attempts_cons, Event.opens]
  rcases List.append_eq_append_iff.mp (hp.trans split) with ⟨p', hes, hpost⟩ | ⟨p', rfl, hpost⟩
  · -- the REGISTER stands in the turn or behind it
    cases p' with
    | nil =>
      have hp' : p = es ++ [.sleep delay] := by simpa using hes.symm
      obtain ⟨stamp, rfl⟩ : ∃ q, rest = e :: q := ⟨post, by simpa using hpost.symm⟩
      have here := (hrest [] e env ⟨stamp, rfl⟩ hreg).1
      simp at here
    | cons x p' =>
      obtain ⟨rfl, hpost⟩ := List.cons.inj hpost
      have turn : RegistersStored rt cfg past (link :: links) (es ++ [.sleep delay]) :=
        RegistersStored.turn rt cfg h hc (by simp [Event.reopens])
      refine turn p e env ⟨p', ?_⟩ hreg
      rw [hes]
      simp
  · obtain ⟨hpos, stamp, c₁, hc₁, henv⟩ := hrest p' e env ⟨post, by simp [hpost]⟩ hreg
    refine ⟨by rw [attempts_append, opened]; omega, stamp, c₁, ?_, henv⟩
    have shift : attempts (es ++ [.sleep delay] ++ p') - 1 = (attempts p' - 1) + 1 := by
      rw [attempts_append, opened]
      omega
    rw [hc₁, shift, List.take_succ_cons]
    cases hassigned : link.assigned rt <;> simp [assignments, hassigned]

theorem runLoop_registers (n : UInt32) (delay : Duration) (links : List Link) (w : World)
    (past : List Json) (hw : w.component.componentId = storedId past) :
    ∃ es, (runLoop rt cfg n delay links w).2.trace = w.trace ++ es ∧
      RegistersStored rt cfg past links es := by
  induction links generalizing n delay w past with
  | nil =>
    refine ⟨[], by simp [runLoop], ?_⟩
    intro p e env hp
    simp at hp
  | cons link links ih =>
    obtain ⟨es, w₁, res, token, h, turn, trace, supplied, _⟩ := runOnce_turn rt cfg link w
    have alone : RegistersStored rt cfg past (link :: links) (es ++ []) :=
      RegistersStored.turn rt cfg turn hw (by simp)
    rw [List.append_nil] at alone
    have asleep : ∀ d, RegistersStored rt cfg past (link :: links) (es ++ [.sleep d]) := fun d =>
      RegistersStored.turn rt cfg turn hw (by simp [Event.reopens])
    cases res with
    | ok u =>
      rw [runLoop_ok rt cfg n delay link links h]
      exact ⟨es, trace, alone⟩
    | error f =>
      cases f with
      | panic msg =>
        rw [runLoop_panic rt cfg n delay link links h]
        exact ⟨es, trace, alone⟩
      | error e =>
        cases he : e.isRegistration with
        | true =>
          cases e with
          | registration msg =>
            rw [runLoop_registration rt cfg n delay link links h]
            exact ⟨es, trace, alone⟩
          | _ => cases he
        | false =>
          rw [runLoop_retry rt cfg n delay link links h he]
          unfold retry
          split
          · exact ⟨es, trace, alone⟩
          split
          · exact ⟨es, trace, alone⟩
          cases rt.mulF32Two delay with
          | none => exact ⟨_, by simp only [trace, List.append_assoc], asleep delay⟩
          | some doubled =>
            have stored : w₁.component.componentId =
                storedId (past ++ (link.assigned rt).toList) := by
              rw [turn.stores (supplied []), storedId_append, hw]
            obtain ⟨rest, htrace, hrest⟩ := ih (n + 1) (min doubled cfg.maxReconnectDelay)
              { w₁ with trace := w₁.trace ++ [.sleep delay] } _ stored
            refine ⟨es ++ .sleep delay :: rest, ?_, RegistersStored.next rt cfg turn hw hrest⟩
            simp only
            rw [htrace]
            simp [trace]

theorem run_registers (links : List Link) :
    RegistersStored rt cfg [] links (run rt cfg links).2.trace := by
  obtain ⟨es, trace, stored⟩ := runLoop_registers rt cfg 0 cfg.reconnectDelay links {} [] rfl
  have htrace : (run rt cfg links).2.trace = es := trace
  rw [htrace]
  exact stored

def nonEmptyId (value : Json) : Option String :=
  if idFrom value = "" then none else some (idFrom value)

/-- The non-empty string among the assigned ids that was assigned last. -/
def latestId (assigned : List Json) : Option String := (assigned.filterMap nonEmptyId).getLast?

theorem latestId_concat (past : List Json) (value : Json) :
    latestId (past ++ [value]) =
      if idFrom value = "" then latestId past else some (idFrom value) := by
  by_cases h : idFrom value = "" <;> simp [latestId, nonEmptyId, h]

theorem latestId_ne_empty {assigned : List Json} {id : String} (h : latestId assigned = some id) :
    id ≠ "" := by
  have hmem := List.mem_of_getLast? h
  obtain ⟨value, _, hvalue⟩ := List.mem_filterMap.mp hmem
  rw [nonEmptyId] at hvalue
  split at hvalue
  · cases hvalue
  · rename_i hne
    cases hvalue
    exact hne

/-- What the attempts before the one that sends this REGISTER were assigned. -/
def assignedBefore (links : List Link) (p : List Event) : List Json :=
  assignments rt (links.take (attempts p - 1))

/-- Every REGISTER sent after a REGISTERED has assigned a non-empty string carries the one
assigned last. -/
def StableIdentity (links : List Link) : Prop :=
  ∀ p e env, p ++ [e] <+: (run rt cfg links).2.trace → e.Registers env →
    ∀ id, latestId (assignedBefore rt links p) = some id →
      env.payload.get "component_id" = some (.str id)

/-- Whenever a REGISTER is sent after such an assignment, the reply before it has assigned a
non-empty string too, or the environment happens to give the id. -/
def AssignsAgain (links : List Link) : Prop :=
  ∀ p e env, p ++ [e] <+: (run rt cfg links).2.trace → e.Registers env →
    ∀ id, latestId (assignedBefore rt links p) = some id →
      storedId (assignedBefore rt links p) ≠ "" ∨ rt.envComponentId = id

variable {rt cfg}

theorem registerLine_componentId (stamp : Stamp) (id : String) :
    (registerLine cfg stamp id).payload.get "component_id" =
      if id = "" then none else some (.str id) := by
  by_cases h : id = "" <;> simp [registerLine, Envelope.new, registerPayload, h]

theorem registerLine_stable {assigned : List Json} {id : String} {c : Component} {stamp : Stamp}
    (hc : c.componentId = storedId assigned) (hid : latestId assigned = some id) :
    (registerLine cfg stamp (registerId rt c)).payload.get "component_id" = some (.str id) ↔
      storedId assigned ≠ "" ∨ rt.envComponentId = id := by
  have hne := latestId_ne_empty hid
  rw [registerLine_componentId, registerId, hc]
  induction assigned using List.reverseRecOn with
  | nil => cases hid
  | append_singleton past value =>
    have stored : storedId (past ++ [value]) = idFrom value := by simp [storedId]
    rw [latestId_concat] at hid
    rw [stored]
    by_cases hv : idFrom value = ""
    · by_cases henv : rt.envComponentId = ""
      · simp [hv, henv, Ne.symm hne]
      · simp [hv, henv]
    · rw [if_neg hv] at hid
      cases hid
      simp [hv]

variable (rt cfg)

/-- The identity is stable in a run exactly if no REGISTERED takes an id back that a later
REGISTER needs. -/
theorem stableIdentity_iff (links : List Link) :
    StableIdentity rt cfg links ↔ AssignsAgain rt cfg links := by
  have registers := run_registers rt cfg links
  constructor
  · intro stable p e env hp hreg id hid
    obtain ⟨_, stamp, c, hc, rfl⟩ := registers p e env hp hreg
    rw [List.nil_append] at hc
    exact (registerLine_stable hc hid).mp (stable p e _ hp hreg id hid)
  · intro again p e env hp hreg id hid
    obtain ⟨_, stamp, c, hc, rfl⟩ := registers p e env hp hreg
    rw [List.nil_append] at hc
    exact (registerLine_stable hc hid).mpr (again p e _ hp hreg id hid)

namespace Sample

def unnamed : List UInt8 := line "m4" "LIFECYCLE" "REGISTERED"
  "\x7b\"component_id\":null,\"session_id\":\"s2\"\x7d"

/-- The sample runtime with one more line that the daemon may send. -/
def forgetful : Runtime :=
  { runtime with
    parse := fun text =>
      if text = unnamed then
        some (value "m4" "LIFECYCLE" "REGISTERED"
          [("component_id", .null), ("session_id", .str "s2")])
      else parse text }

end Sample

/-- The second reply has no string for the id: the third REGISTER carries none. -/
theorem identity_forgotten : ¬ ∀ (rt : Runtime) (cfg : Config) (links : List Link),
    StableIdentity rt cfg links := by
  intro h
  let cfg : Config := { Sample.config with reconnect := true }
  let links : List Link := [Sample.link [Sample.registered] [], Sample.link [Sample.unnamed] [],
    Sample.link [] []]
  let es := (run Sample.forgetful cfg links).2.trace
  have third : ((es[15]?.bind Event.tried).map fun env =>
      (env.command, (env.payload.get "component_id").isNone)) = some (.register, true) ∧
      latestId (assignedBefore Sample.forgetful links (es.take 15)) = some "c1" := by
    decide +kernel
  obtain ⟨unnamed, latest⟩ := third
  obtain ⟨env, hthird, heq⟩ := Option.map_eq_some_iff.mp unnamed
  obtain ⟨e, he, tried⟩ := Option.bind_eq_some_iff.mp hthird
  obtain ⟨hc, hnone⟩ := Prod.mk.inj heq
  have stable := h Sample.forgetful cfg links _ e env (take_concat_initial he) ⟨tried, hc⟩ "c1"
    latest
  rw [stable] at hnone
  cases hnone

end AegisSdk.Rust
