import AegisSdk.Go.Identity
import AegisSdk.Go.Stream

/-!
When `OpenStream` goes past its guard. The guard looks for empty ids, but `register` stores
the text that `%v` makes of whatever the REGISTERED payload holds, a missing value included.
-/

set_option autoImplicit false
set_option relaxedAutoImplicit false

namespace AegisSdk.Go

open AegisSdk.Protocol AegisSdk.Library

def Event.registered : Event → Option Payload
  | .recv m => if m.env.command = Command.registered then some m.env.payload else none
  | _ => none

def Event.asks : Event → Bool
  | .send env ok => ok && env.command == Command.register
  | _ => false

/-- The payloads of the REGISTERED replies in a piece of a trace, each read right after a
REGISTER; `asked` says that one stands right before the piece. -/
def registrations (asked : Bool) : List Event → List Payload
  | [] => []
  | e :: es => (if asked then e.registered.toList else []) ++ registrations e.asks es

def latestRegistration (es : List Event) : Option Payload := (registrations false es).getLast?

/-- `OpenStream` goes past its guard only if the latest REGISTERED names a component and a
session by strings that are not empty, and its handshake carries those. -/
def GuardsStream (latest : Option Payload) (c : Component) : Prop :=
  ∀ G unmarshal socketPath link, (openStream G unmarshal c socketPath link).2 ≠ [] →
    ∃ payload id session, latest = some payload ∧
      payload.get "component_id" = some (.str id) ∧ id ≠ "" ∧
      payload.get "session_id" = some (.str session) ∧ session ≠ "" ∧
      ∀ hs ok, .send hs ok ∈ (openStream G unmarshal c socketPath link).2 →
        hs = { componentID := id, sessionToken := session }

/-- The REGISTERED gives both ids as strings, or one of them as the empty string. -/
def NamesIds (payload : Payload) : Prop :=
  (∃ id session, payload.get "component_id" = some (.str id) ∧
      payload.get "session_id" = some (.str session)) ∨
    payload.get "component_id" = some (.str "") ∨ payload.get "session_id" = some (.str "")

section Guard

variable {G : Growth} {unmarshal : List UInt8 → Except String StreamHandshakeResponse}
  {c : Component} {socketPath : String} {link : StreamLink}

theorem openStream_refused (h : c.componentID = "" ∨ c.sessionID = "") :
    (openStream G unmarshal c socketPath link).2 = [] := by
  rw [openStream, if_pos h]

theorem openStream_passed (G : Growth)
    (unmarshal : List UInt8 → Except String StreamHandshakeResponse) (socketPath : String)
    (link : StreamLink) (h : ¬ (c.componentID = "" ∨ c.sessionID = "")) :
    (openStream G unmarshal c socketPath link).2 ≠ [] ∧
      ∀ hs ok, .send hs ok ∈ (openStream G unmarshal c socketPath link).2 →
        hs = { componentID := c.componentID, sessionToken := c.sessionID } := by
  have handshake : ∀ hs ok ok' tail, (∀ e ∈ tail, e = StreamEvent.close) →
      StreamEvent.send hs ok ∈ StreamEvent.dial socketPath true ::
        StreamEvent.send { componentID := c.componentID, sessionToken := c.sessionID } ok' :: tail →
      hs = { componentID := c.componentID, sessionToken := c.sessionID } := by
    intro hs ok ok' tail closes hmem
    rcases List.mem_cons.mp hmem with heq | hmem
    · cases heq
    rcases List.mem_cons.mp hmem with heq | hmem
    · cases heq
      rfl
    · cases closes _ hmem
  rw [openStream, if_neg h]
  split
  · exact ⟨by simp, by simp⟩
  split
  · exact ⟨by simp, fun hs ok => handshake hs ok false [.close] (by simp)⟩
  simp only
  split
  · exact ⟨by simp, fun hs ok => handshake hs ok true [.close] (by simp)⟩
  split
  · exact ⟨by simp, fun hs ok => handshake hs ok true [.close] (by simp)⟩
  split
  · exact ⟨by simp, fun hs ok => handshake hs ok true [.close] (by simp)⟩
  · exact ⟨by simp, fun hs ok => handshake hs ok true [] (by simp)⟩

end Guard

section Print

variable {rt : Runtime} {value : Option Json}

theorem sprintV_eq_empty (hsprint : ∀ v, rt.sprint "%v" v ≠ "") (value : Option Json) :
    sprintV rt value = "" ↔ value = some (.str "") := by
  have hbool : ∀ b : Bool, toString b ≠ "" := by decide
  unfold sprintV
  split
  · simp
  · simp
  · simp
  · simp [hbool]
  · rename_i v _ hstr _
    refine iff_of_false (hsprint v) ?_
    intro h
    exact hstr "" (Option.some.inj h)

/-- The ids of a REGISTERED satisfy the guard exactly if none is the empty string. -/
theorem guardsStream_identified (hsprint : ∀ v, rt.sprint "%v" v ≠ "") (payload : Payload)
    {c : Component} (hid : c.componentID = sprintV rt (payload.get "component_id"))
    (hsession : c.sessionID = sprintV rt (payload.get "session_id")) :
    GuardsStream (some payload) c ↔ NamesIds payload := by
  have hfirst := sprintV_eq_empty hsprint (payload.get "component_id")
  have hsecond := sprintV_eq_empty hsprint (payload.get "session_id")
  rw [← hid] at hfirst
  rw [← hsession] at hsecond
  by_cases hempty : c.componentID = "" ∨ c.sessionID = ""
  · refine iff_of_true ?_ (.inr (by rwa [hfirst, hsecond] at hempty))
    intro G unmarshal socketPath link hpast
    exact absurd (openStream_refused hempty) hpast
  · constructor
    · intro guarded
      obtain ⟨hpast, -⟩ := openStream_passed growBuf (fun _ => .error "") "" { pieces := [] } hempty
      obtain ⟨payload', id, session, hlatest, hgetid, -, hgetsession, -, -⟩ :=
        guarded _ _ _ _ hpast
      cases hlatest
      exact .inl ⟨id, session, hgetid, hgetsession⟩
    · rintro (⟨id, session, hgetid, hgetsession⟩ | hnone)
      · intro G unmarshal socketPath link hpast
        obtain ⟨-, carries⟩ := openStream_passed G unmarshal socketPath link hempty
        have hid : c.componentID = id := by rw [hid, hgetid, sprintV]
        have hsession : c.sessionID = session := by rw [hsession, hgetsession, sprintV]
        rw [not_or, hid, hsession] at hempty
        rw [hid, hsession] at carries
        exact ⟨payload, id, session, rfl, hgetid, hempty.1, hgetsession, hempty.2, carries⟩
      · rw [← hfirst, ← hsecond] at hnone
        exact absurd hnone hempty

end Print

def Component.ids (c : Component) : String × String := (c.componentID, c.sessionID)

def payloadIds (rt : Runtime) (payload : Payload) : String × String :=
  (sprintV rt (payload.get "component_id"), sprintV rt (payload.get "session_id"))

def idsAfter (rt : Runtime) (ids : String × String) (payloads : List Payload) : String × String :=
  (payloads.getLast?.map (payloadIds rt)).getD ids

section Stored

variable {rt : Runtime} {cfg : Config} {handlers : Handlers} {c c' : Component}
  {es : List Event}

theorem Advance.keeps_ids {st : ComponentState} {b : Bool} (h : Advance cfg c st es c' b) :
    c'.ids = c.ids := by
  cases h <;> rfl

theorem Settling.keeps_ids (h : Settling cfg handlers c es c') : c'.ids = c.ids := by
  cases h with
  | unconfigured a => exact a.keeps_ids
  | stopped a b | running a b => exact b.keeps_ids.trans a.keeps_ids

theorem Reaction.keeps_ids {m : Message} {v : Verdict} (h : Reaction cfg handlers m c es c' v) :
    c'.ids = c.ids := by
  cases h with
  | accepted _ _ _ _ settling => exact settling.keeps_ids
  | _ => rfl

theorem Session.keeps_ids {v : Verdict} (h : Session cfg handlers c es c' v) :
    c'.ids = c.ids := by
  induction h with
  | cancelled | lost => rfl
  | last reaction _ => exact reaction.keeps_ids
  | next reaction _ ih => exact ih.trans reaction.keeps_ids

theorem Event.Within.asks {e : Event} (h : e.Within) : e.asks = false := by
  cases e with
  | send env ok =>
    have hcommand : ¬ env.command = Command.register := by
      intro heq
      simp [Event.Within, Event.registers, heq] at h
    simp [Event.asks, hcommand]
  | _ => rfl

theorem registrations_within (h : ∀ e ∈ es, e.Within) (rest : List Event) :
    registrations false (es ++ rest) = registrations false rest := by
  induction es with
  | nil => rfl
  | cons e es ih =>
    obtain ⟨he, hes⟩ := List.forall_mem_cons.mp h
    rw [List.cons_append, registrations, he.asks]
    exact ih hes

theorem idsAfter_append (ids : String × String) (ps qs : List Payload) :
    idsAfter rt ids (ps ++ qs) = idsAfter rt (idsAfter rt ids ps) qs := by
  simp only [idsAfter, List.getLast?_append]
  cases qs.getLast? <;> simp

theorem Handshake.stores_ids {res : Option GoError} (h : Handshake rt cfg c es c' res)
    (rest : List Event) : ∃ ps, registrations false (es ++ rest) = ps ++ registrations false rest ∧
      c'.ids = idsAfter rt c.ids ps := by
  have lost : ∀ r xs, registrations false (.send (registerLine cfg r c) false :: xs) =
      registrations false xs := fun _ _ => rfl
  have asked : ∀ r xs, registrations false (.send (registerLine cfg r c) true :: xs) =
      registrations true xs := fun _ _ => rfl
  have answered : ∀ (m : Message) xs, m.env.command = Command.registered →
      registrations true (.recv m :: .state State.registered :: xs) =
        m.env.payload :: registrations false xs := by
    intro m xs hm
    rw [registrations, Event.registered, if_pos hm]
    rfl
  cases h with
  | registerLost r err => exact ⟨[], lost r rest, rfl⟩
  | unanswered r text err =>
    refine ⟨[], ?_, rfl⟩
    rw [List.cons_append, asked]
    rfl
  | rejected r m msg hne =>
    refine ⟨[], ?_, rfl⟩
    rw [List.cons_append, asked, List.cons_append, registrations, Event.registered, if_neg hne]
    rfl
  | notInitializing r m err hreg _ a =>
    refine ⟨[m.env.payload], ?_, ?_⟩
    · rw [List.cons_append, asked, List.cons_append, List.cons_append, answered m _ hreg,
        registrations_within a.within]
      rfl
    · rw [a.keeps_ids]
      rfl
  | notReady r m err hreg _ a b | ready r m hreg a b =>
    refine ⟨[m.env.payload], ?_, ?_⟩
    · rw [List.cons_append, asked, List.cons_append, List.cons_append, answered m _ hreg,
        List.append_assoc, registrations_within a.within, registrations_within b.within]
      rfl
    · rw [b.keeps_ids, a.keeps_ids]
      rfl

theorem Attempt.stores_ids {res : Option GoError} (h : Attempt rt cfg handlers c es c' res)
    (rest : List Event) : ∃ ps, registrations false (es ++ rest) = ps ++ registrations false rest ∧
      c'.ids = idsAfter rt c.ids ps := by
  have closed : registrations false (.close :: rest) = registrations false rest := rfl
  have opened : ∀ xs, registrations false (.dial cfg.socketPath true :: xs) =
      registrations false xs := fun _ => rfl
  cases h with
  | refused => exact ⟨[], rfl, rfl⟩
  | unready handshake =>
    obtain ⟨ps, hps, hids⟩ := handshake.stores_ids (.close :: rest)
    refine ⟨ps, ?_, hids⟩
    rw [List.cons_append, opened, List.append_assoc, List.singleton_append, hps, closed]
  | @session es es' c₁ c₂ v handshake session _ =>
    obtain ⟨ps, hps, hids⟩ := handshake.stores_ids (es' ++ .close :: rest)
    refine ⟨ps, ?_, session.keeps_ids.trans hids⟩
    rw [List.cons_append, opened, List.append_assoc, List.append_assoc, List.singleton_append, hps,
      registrations_within session.within, closed]

end Stored

section Runs

variable (rt : Runtime) (cfg : Config) (handlers : Handlers)

theorem runLoop_ids (n : Nat) (delay : Duration) (links : List Link) (w : World) :
    let r := runLoop rt cfg handlers n delay links w
    ∃ es, r.2.trace = w.trace ++ es ∧
      r.2.component.ids = idsAfter rt w.component.ids (registrations false es) := by
  induction links generalizing n delay w with
  | nil => exact ⟨[], by simp [runLoop], rfl⟩
  | cons link links ih =>
    cases hctx : link.ctx with
    | some err =>
      rw [runLoop_done rt cfg handlers n delay link links w hctx]
      exact ⟨[], by simp, rfl⟩
    | none =>
      obtain ⟨es, res, w', hrun, attempt, trace, -⟩ := runOnce_attempt rt cfg handlers link w
      rw [runLoop_cons rt cfg handlers n delay link links w hctx hrun, endTurn]
      cases hret : returnErr cfg n res with
      | some err =>
        obtain ⟨ps, hps, hids⟩ := attempt.stores_ids []
        rw [List.append_nil, registrations, List.append_nil] at hps
        exact ⟨es, trace, by rw [hps]; exact hids⟩
      | none =>
        cases hwait : link.wait with
        | some err =>
          obtain ⟨ps, hps, hids⟩ := attempt.stores_ids [.wait delay]
          refine ⟨es ++ [.wait delay], by simp [trace], ?_⟩
          rw [hps, idsAfter_append, ← hids]
          rfl
        | none =>
          obtain ⟨rest, htrace, hrest⟩ := ih (n + 1)
            (minDuration (delay * 2) cfg.maxReconnectDelay)
            { w' with trace := w'.trace ++ [.wait delay] }
          obtain ⟨ps, hps, hids⟩ := attempt.stores_ids (.wait delay :: rest)
          refine ⟨es ++ .wait delay :: rest, ?_, ?_⟩
          · simp only
            rw [htrace]
            simp [trace]
          · rw [hps, idsAfter_append, ← hids]
            exact hrest

/-- In a run up to any point, `OpenStream` goes past its guard only with the ids of the latest
REGISTERED exactly if there was none, or it names both ids, or one of them is empty. -/
theorem guardsStream_iff (links : List Link) (hsprint : ∀ v, rt.sprint "%v" v ≠ "") :
    let r := run rt cfg handlers links
    GuardsStream (latestRegistration r.2.trace) r.2.component ↔
      ∀ payload, latestRegistration r.2.trace = some payload → NamesIds payload := by
  intro r
  obtain ⟨es, htrace, hids⟩ := runLoop_ids rt cfg handlers 0 cfg.reconnectDelay links {}
  have htrace : r.2.trace = es := htrace
  have hids : r.2.component.ids = idsAfter rt ("", "") (registrations false r.2.trace) := by
    rw [htrace]
    exact hids
  unfold latestRegistration
  rw [idsAfter] at hids
  cases hlatest : (registrations false r.2.trace).getLast? with
  | none =>
    rw [hlatest] at hids
    obtain ⟨hid, -⟩ := Prod.mk.inj hids
    refine iff_of_true ?_ (by simp)
    intro G unmarshal socketPath link hpast
    exact absurd (openStream_refused (.inl hid)) hpast
  | some payload =>
    rw [hlatest] at hids
    obtain ⟨hid, hsession⟩ := Prod.mk.inj hids
    rw [guardsStream_identified hsprint payload hid hsession]
    simp

end Runs

namespace Sample

/-- A REGISTERED that names neither a component nor a session. -/
def anonymous : Message := message "m1" MessageType.lifecycle Command.registered []

def opened : Link := link handshake

def unnamed : Link := link [.message anonymous, .message ack, .message ack]

end Sample

theorem asStr_eq_some {v : Json} {s : String} (h : v.asStr = some s) : v = .str s := by
  cases v <;> simp_all [Json.asStr]

theorem guardsStream_iff_sample :
    GuardsStream (latestRegistration (run Sample.runtime Sample.config {} [Sample.opened]).2.trace)
      (run Sample.runtime Sample.config {} [Sample.opened]).2.component := by
  refine (guardsStream_iff Sample.runtime Sample.config {} [Sample.opened]
    (fun _ => show "0" ≠ "" by decide)).mpr ?_
  intro payload hlatest
  have hids : ((latestRegistration
      (run Sample.runtime Sample.config {} [Sample.opened]).2.trace).map fun payload =>
        ((payload.get "component_id").bind Json.asStr,
          (payload.get "session_id").bind Json.asStr)) = some (some "c1", some "s1") := by
    decide +kernel
  rw [hlatest] at hids
  obtain ⟨hid, hsession⟩ := Prod.mk.inj (Option.some.inj hids)
  obtain ⟨v, hget, hv⟩ := Option.bind_eq_some_iff.mp hid
  obtain ⟨v', hget', hv'⟩ := Option.bind_eq_some_iff.mp hsession
  exact .inl ⟨"c1", "s1", hget.trans (congrArg some (asStr_eq_some hv)),
    hget'.trans (congrArg some (asStr_eq_some hv'))⟩

/-- Ids that are missing are stored as `<nil>`, with which `OpenStream` goes on. -/
theorem nil_opens_stream : ¬ ∀ (rt : Runtime) (cfg : Config) (handlers : Handlers)
    (links : List Link), (∀ v, rt.sprint "%v" v ≠ "") →
    GuardsStream (latestRegistration (run rt cfg handlers links).2.trace)
      (run rt cfg handlers links).2.component := by
  intro h
  have guarded := h Sample.runtime Sample.config {} [Sample.unnamed]
    (fun _ => show "0" ≠ "" by decide)
  have hstored : ¬ ((run Sample.runtime Sample.config {} [Sample.unnamed]).2.component.componentID =
      "" ∨ (run Sample.runtime Sample.config {} [Sample.unnamed]).2.component.sessionID = "") := by
    decide +kernel
  obtain ⟨hpast, -⟩ :=
    openStream_passed growBuf (fun _ => .error "") "data.sock" { pieces := [] } hstored
  obtain ⟨payload, id, session, hlatest, hid, -⟩ := guarded _ _ _ _ hpast
  have hmissing : ((latestRegistration
      (run Sample.runtime Sample.config {} [Sample.unnamed]).2.trace).bind fun payload =>
        payload.get "component_id").isNone = true := by
    decide +kernel
  rw [hlatest, Option.bind_some, hid] at hmissing
  cases hmissing

end AegisSdk.Go
