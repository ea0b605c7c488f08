import AegisSdk.Go.SendOrder

/-!
`Run` with the workers that `OnRunning` started on earlier connections. The goroutine of
`Run` assigns `c.conn` and does the handshake; a worker's `send` goes to whatever `c.conn`
is when it gets the mutex, so that its line can come into the handshake.
-/

set_option autoImplicit false
set_option relaxedAutoImplicit false

namespace AegisSdk.Go

open AegisSdk.Protocol AegisSdk.Library

inductive Goroutine (γ : Type) where
  /-- the goroutine of `Run` -/
  | main
  | worker (w : γ)
  deriving DecidableEq

inductive Pc where
  /-- between two connections -/
  | idle
  /-- in `register`, at the send of a line of the handshake -/
  | handshake (line : Nat)
  /-- in `register`, at the `recv` after that line -/
  | waiting (line : Nat)
  | loop
  /-- at the deferred `closeConn` -/
  | closing
  deriving DecidableEq

/-- `register` goes on when its call has returned, or returns its error. -/
def Pc.afterCall (ok : Bool) : Pc → Pc
  | .handshake line => if ok then .waiting line else .closing
  | pc => pc

structure Reconnecting (γ : Type) where
  shared : Shared (Goroutine γ) := {}
  pc : Pc := .idle
  /-- the goroutines started so far -/
  workers : List γ := []

inductive RunAction (γ : Type) where
  /-- `c.conn = conn` after a dial that succeeded -/
  | connect
  /-- a step of a call of any goroutine -/
  | call (a : SendAction (Goroutine γ))
  /-- `register` receives REGISTERED -/
  | registered (payload : Payload)
  /-- `register` receives what it takes for an ACK -/
  | reply
  /-- a `recv` of `register` fails, or gives something else than REGISTERED -/
  | failed
  | onRunning (w : γ)
  /-- `messageLoop` returns -/
  | leave
  | close

variable {γ : Type} [DecidableEq γ] (rt : Runtime) (cfg : Config)

def handshakeRequest : Nat → Option Request
  | 0 => some .register
  | 1 => some (.stateUpdate State.initializing "")
  | 2 => some (.stateUpdate State.ready "")
  | _ => none

def Request.isPublic : Request → Bool
  | .stateUpdate _ _ => true
  | .error _ _ _ => true
  | _ => false

namespace Reconnecting

variable (s : Reconnecting γ)

/-- Which calls a goroutine begins: `register` its own, the message loop any other, and a
worker those of the public methods. -/
def begins (request : Request) : Goroutine γ → Bool
  | .main =>
    match s.pc with
    | .handshake line => handshakeRequest line = some request
    | .loop => request ≠ .register
    | _ => false
  | .worker w => w ∈ s.workers && request.isPublic

def mayTake : SendAction (Goroutine γ) → Bool
  | .enter g request => s.begins request g
  | _ => true

def pcAfter : SendAction (Goroutine γ) → Pc
  | .finish .main =>
    s.pc.afterCall ((s.shared.calls .main).map Call.phase = some (.returned true))
  | _ => s.pc

def mainIsFree : Bool := (s.shared.calls .main).isNone

end Reconnecting

def reconnects : System (Reconnecting γ) (RunAction γ) where
  step s
    | .connect =>
      if s.pc = .idle then
        some { s with shared := { s.shared with conn := s.shared.conn + 1 }, pc := .handshake 0 }
      else none
    | .call a =>
      if s.mayTake a then
        ((sends rt cfg).step s.shared a).map fun shared =>
          { s with shared := shared, pc := s.pcAfter a }
      else none
    | .registered payload =>
      if s.pc = .waiting 0 then
        some { s with
          shared := { s.shared with component :=
            { componentID := sprintV rt (payload.get "component_id")
              sessionID := sprintV rt (payload.get "session_id")
              state := State.registered } }
          pc := .handshake 1 }
      else none
    | .reply =>
      match s.pc with
      | .waiting 1 => some { s with pc := .handshake 2 }
      | .waiting 2 => some { s with pc := .loop }
      | _ => none
    | .failed =>
      match s.pc with
      | .waiting _ => some { s with pc := .closing }
      | _ => none
    | .onRunning w =>
      if s.pc = .loop ∧ s.mainIsFree then some { s with workers := w :: s.workers } else none
    | .leave => if s.pc = .loop ∧ s.mainIsFree then some { s with pc := .closing } else none
    | .close =>
      if s.pc = .closing then
        some { s with
          shared := { s.shared with
            closed := Function.update s.shared.closed s.shared.conn true }
          pc := .idle }
      else none

/-- The command of a line, with the state if it is a STATE_UPDATE. -/
def kind (env : Envelope) : Command × Option ComponentState := (env.command, carried env)

def handshakeKinds : List (Command × Option ComponentState) :=
  [(Command.register, none), (Command.stateUpdate, some State.initializing),
    (Command.stateUpdate, some State.ready)]

/-- The lines begin with the handshake, or are a first part of it. -/
def StartsWithHandshake (lines : List Envelope) : Prop :=
  lines.map kind <+: handshakeKinds ∨ handshakeKinds <+: lines.map kind

/-- Every connection starts with the handshake, nothing before or between its lines. -/
def Reconnecting.Isolated (s : Reconnecting γ) : Prop :=
  ∀ conn, StartsWithHandshake (s.shared.lines conn)

/-- A worker's write lands on a connection that does not have the three lines of its
handshake yet. -/
def Reconnecting.disturbs (s : Reconnecting γ) : RunAction γ → Bool
  | .call (.write (.worker w) true) =>
    match (s.shared.calls (.worker w)).map Call.phase with
    | some (.encoding conn) => (s.shared.lines conn).length < 3
    | _ => false
  | _ => false

/-- So many lines of the handshake are written. Before the third there is nothing else. -/
structure Reached (n : Nat) (lines : List Envelope) : Prop where
  part : n < 3 → lines.map kind = handshakeKinds.take n
  whole : 3 ≤ n → handshakeKinds <+: lines.map kind

theorem Reached.starts {n : Nat} {lines : List Envelope} (h : Reached n lines) :
    StartsWithHandshake lines := by
  rcases Nat.lt_or_ge n 3 with hn | hn
  · exact .inl (h.part hn ▸ List.take_prefix n _)
  · exact .inr (h.whole hn)

theorem StartsWithHandshake.whole {lines : List Envelope} (h : StartsWithHandshake lines)
    (hlen : 3 ≤ lines.length) : handshakeKinds <+: lines.map kind := by
  rcases h with h | h
  · exact (h.eq_of_length_le (by simpa [handshakeKinds] using hlen)).symm ▸ List.prefix_rfl
  · exact h

theorem Reached.length_le {lines : List Envelope} (h : Reached 3 lines) : 3 ≤ lines.length := by
  simpa [handshakeKinds] using (h.whole (Nat.le_refl 3)).length_le

theorem Reached.append {n : Nat} {lines : List Envelope} (h : Reached n lines)
    (hlen : 3 ≤ lines.length) (env : Envelope) : Reached n (lines ++ [env]) := by
  have hwhole := h.starts.whole hlen
  refine ⟨fun hn => ?_, fun _ => ?_⟩
  · have := congrArg List.length (h.part hn)
    simp [handshakeKinds] at this
    omega
  · rw [List.map_append]
    exact hwhole.trans (List.prefix_append _ _)

theorem StartsWithHandshake.append {lines : List Envelope} (h : StartsWithHandshake lines)
    (hlen : 3 ≤ lines.length) (env : Envelope) : StartsWithHandshake (lines ++ [env]) := by
  rw [StartsWithHandshake, List.map_append]
  exact .inr ((h.whole hlen).trans (List.prefix_append _ _))

theorem take_handshakeKinds {n : Nat} {request : Request}
    (h : handshakeRequest n = some request) (c : Component) (created : Nat) :
    handshakeKinds.take (n + 1) =
      handshakeKinds.take n ++ [kind (request.envelope rt cfg c created)] := by
  match n, h with
  | 0, h =>
    cases h
    have : carried (Request.register.envelope rt cfg c created) = none :=
      if_neg (command_envelope rt cfg rfl c created)
    rw [kind, this]
    rfl
  | 1, h =>
    cases h
    rw [kind, carried_stateUpdate]
    rfl
  | 2, h =>
    cases h
    rw [kind, carried_stateUpdate]
    rfl

theorem handshakeRequest_lt {n : Nat} {request : Request}
    (h : handshakeRequest n = some request) : n < 3 := by
  match n, h with
  | 0, _ => decide
  | 1, _ => decide
  | 2, _ => decide

theorem Reached.next {n : Nat} {lines : List Envelope} (h : Reached n lines)
    {request : Request} (hrequest : handshakeRequest n = some request) (c : Component)
    (created : Nat) : Reached (n + 1) (lines ++ [request.envelope rt cfg c created]) := by
  have hkinds : (lines ++ [request.envelope rt cfg c created]).map kind =
      handshakeKinds.take (n + 1) := by
    rw [List.map_append, h.part (handshakeRequest_lt hrequest),
      take_handshakeKinds rt cfg hrequest c created]
    rfl
  refine ⟨fun _ => hkinds, fun hn => ?_⟩
  have hall := hkinds.trans (List.take_of_length_le hn)
  exact hall.symm ▸ List.prefix_rfl

/-- The state of the goroutine of `Run` and the lines of the current connection. -/
inductive Progress (conn : Nat) : Pc → Option Call → List Envelope → Prop
  | idle {lines : List Envelope} : StartsWithHandshake lines → Progress conn .idle none lines
  | ready {n : Nat} {lines : List Envelope} : n < 3 → Reached n lines →
      Progress conn (.handshake n) none lines
  | sending {n : Nat} {call : Call} {lines : List Envelope} :
      handshakeRequest n = some call.request →
      call.phase = .entered ∨ call.phase = .locked ∨ call.phase = .encoding conn →
      Reached n lines → Progress conn (.handshake n) (some call) lines
  | sent {n : Nat} {call : Call} (ok : Bool) {lines : List Envelope} :
      handshakeRequest n = some call.request →
      call.phase = .written ok ∨ call.phase = .returned ok →
      Reached (if ok then n + 1 else n) lines → Progress conn (.handshake n) (some call) lines
  | waiting {n : Nat} {lines : List Envelope} : n < 3 → Reached (n + 1) lines →
      Progress conn (.waiting n) none lines
  | loop {call : Option Call} {lines : List Envelope} :
      (∀ c ∈ call, ∀ conn', c.phase = .encoding conn' → conn' = conn) → Reached 3 lines →
      Progress conn .loop call lines
  | closing {lines : List Envelope} : StartsWithHandshake lines →
      Progress conn .closing none lines

theorem Progress.starts {conn : Nat} {pc : Pc} {call : Option Call} {lines : List Envelope}
    (h : Progress conn pc call lines) : StartsWithHandshake lines := by
  cases h with
  | idle h => exact h
  | ready _ h => exact h.starts
  | sending _ _ h => exact h.starts
  | sent _ _ _ h => exact h.starts
  | waiting _ h => exact h.starts
  | loop _ h => exact h.starts
  | closing h => exact h

theorem Progress.append {conn : Nat} {pc : Pc} {call : Option Call} {lines : List Envelope}
    (h : Progress conn pc call lines) (hlen : 3 ≤ lines.length) (env : Envelope) :
    Progress conn pc call (lines ++ [env]) := by
  cases h with
  | idle h => exact .idle (h.append hlen env)
  | ready hn h => exact .ready hn (h.append hlen env)
  | sending hr hp h => exact .sending hr hp (h.append hlen env)
  | sent ok hr hp h => exact .sent ok hr hp (h.append hlen env)
  | waiting hn h => exact .waiting hn (h.append hlen env)
  | loop hc h => exact .loop hc (h.append hlen env)
  | closing h => exact .closing (h.append hlen env)

section Call

variable {conn : Nat} {pc : Pc} {call : Call} {lines : List Envelope}

theorem Progress.lock (h : Progress conn pc (some call) lines) (hphase : call.phase = .entered) :
    Progress conn pc (some { call with phase := .locked }) lines := by
  cases h with
  | sending hr _ hl => exact .sending hr (.inr (.inl rfl)) hl
  | sent ok _ hp _ => simp [hphase] at hp
  | loop _ hl => exact .loop (by rintro c ⟨⟩ _ ⟨⟩) hl

theorem Progress.encode (h : Progress conn pc (some call) lines) (hphase : call.phase = .locked) :
    Progress conn pc (some { call with phase := .encoding conn }) lines := by
  cases h with
  | sending hr _ hl => exact .sending hr (.inr (.inr rfl)) hl
  | sent ok _ hp _ => simp [hphase] at hp
  | loop _ hl =>
    refine .loop ?_ hl
    rintro c ⟨⟩ conn' ⟨⟩
    rfl

theorem Progress.encoding_eq (h : Progress conn pc (some call) lines) {conn' : Nat}
    (hphase : call.phase = .encoding conn') : conn' = conn := by
  cases h with
  | sending _ hp _ => simpa [hphase] using hp
  | sent ok _ hp _ => simp [hphase] at hp
  | loop hc _ => exact hc call rfl conn' hphase

theorem Progress.write (h : Progress conn pc (some call) lines)
    (hphase : call.phase = .encoding conn)
    (henv : ∃ c n, call.env = call.request.envelope rt cfg c n) :
    Progress conn pc (some { call with phase := .written true }) (lines ++ [call.env]) := by
  cases h with
  | sending hr _ hl =>
    obtain ⟨c, n, henv⟩ := henv
    rw [henv]
    exact .sent true hr (.inl rfl) (hl.next rt cfg hr c n)
  | sent ok _ hp _ => simp [hphase] at hp
  | loop _ hl => exact .loop (by rintro c ⟨⟩ _ ⟨⟩) (hl.append hl.length_le call.env)

theorem Progress.writeFailed (h : Progress conn pc (some call) lines) {conn' : Nat}
    (hphase : call.phase = .encoding conn') :
    Progress conn pc (some { call with phase := .written false }) lines := by
  cases h with
  | sending hr _ hl => exact .sent false hr (.inl rfl) hl
  | sent ok _ hp _ => simp [hphase] at hp
  | loop _ hl => exact .loop (by rintro c ⟨⟩ _ ⟨⟩) hl

theorem Progress.unlock (h : Progress conn pc (some call) lines) {ok : Bool}
    (hphase : call.phase = .written ok) :
    Progress conn pc (some { call with phase := .returned ok }) lines := by
  cases h with
  | sending _ hp _ => simp [hphase] at hp
  | sent ok' hr hp hl =>
    have : ok = ok' := by simpa [hphase] using hp
    subst this
    exact .sent ok hr (.inr rfl) hl
  | loop _ hl => exact .loop (by rintro c ⟨⟩ _ ⟨⟩) hl

theorem Progress.finish (h : Progress conn pc (some call) lines) {ok : Bool}
    (hphase : call.phase = .returned ok) :
    Progress conn (pc.afterCall ok) none lines := by
  cases h with
  | sending _ hp _ => simp [hphase] at hp
  | sent ok' hr hp hl =>
    have : ok = ok' := by simpa [hphase] using hp
    subst this
    cases ok with
    | true => exact .waiting (handshakeRequest_lt hr) hl
    | false => exact .closing hl.starts
  | loop _ hl => exact .loop nofun hl

end Call

section Move

variable {conn n : Nat} {call : Option Call} {lines : List Envelope}

theorem Progress.received (h : Progress conn (.waiting n) call lines) (hn : n < 2) :
    Progress conn (.handshake (n + 1)) call lines := by
  cases h with
  | waiting _ hl => exact .ready (Nat.succ_lt_succ hn) hl

theorem Progress.handshaken (h : Progress conn (.waiting 2) call lines) :
    Progress conn .loop call lines := by
  cases h with
  | waiting _ hl => exact .loop nofun hl

theorem Progress.failed (h : Progress conn (.waiting n) call lines) :
    Progress conn .closing call lines := by
  cases h with
  | waiting _ hl => exact .closing hl.starts

theorem Progress.closed (h : Progress conn .closing call lines) :
    Progress conn .idle call lines := by
  cases h with
  | closing hl => exact .idle hl

theorem Progress.connect (h : Progress conn .idle call lines) :
    Progress (conn + 1) (.handshake 0) call [] := by
  cases h with
  | idle _ => exact .ready (by decide) ⟨fun _ => rfl, nofun⟩

end Move

/-- What holds in every state, in which the current connection is the last one. -/
structure Reconnecting.Inv (s : Reconnecting γ) : Prop where
  made : s.shared.Made rt cfg
  past : ∀ conn < s.shared.conn, StartsWithHandshake (s.shared.lines conn)
  progress : Progress s.shared.conn s.pc (s.shared.calls .main)
    (s.shared.lines s.shared.conn)
  future : ∀ conn, s.shared.conn < conn → s.shared.lines conn = []

theorem startsWithHandshake_nil : StartsWithHandshake [] := .inl (List.nil_prefix)

section Step

variable {rt cfg} {s : Reconnecting γ} {t : Shared (Goroutine γ)}

omit [DecidableEq γ] in
theorem Reconnecting.Inv.isolated (h : s.Inv rt cfg) : s.Isolated := by
  intro conn
  rcases Nat.lt_trichotomy conn s.shared.conn with hlt | rfl | hgt
  · exact h.past conn hlt
  · exact h.progress.starts
  · rw [h.future conn hgt]
    exact startsWithHandshake_nil

theorem inv_worker {a : SendAction (Goroutine γ)} {w : γ} (h : s.Inv rt cfg)
    (hw : a.goroutine = .worker w) (hundisturbed : s.disturbs (.call a) = false)
    (hstep : SendStep rt cfg s.shared a t) :
    ({ s with shared := t } : Reconnecting γ).Inv rt cfg := by
  have hmain : t.calls .main = s.shared.calls .main :=
    hstep.calls_of_ne rt cfg (by rw [hw]; exact nofun)
  have hconn := hstep.conn rt cfg
  rcases hstep.lines with hlines | ⟨g, call, conn, rfl, hcall, hphase, hlines⟩
  · exact ⟨hstep.made rt cfg h.made, by simpa only [hconn, hlines] using h.past,
      by simpa only [hconn, hlines, hmain] using h.progress,
      by simpa only [hconn, hlines] using h.future⟩
  · obtain rfl : g = .worker w := hw
    have hlen : 3 ≤ (s.shared.lines conn).length := by
      simpa [Reconnecting.disturbs, hcall, hphase] using hundisturbed
    have append (P : List Envelope → Prop) (conn' : Nat) (hP : P (s.shared.lines conn'))
        (hnext : conn' = conn → P (s.shared.lines conn' ++ [call.env])) : P (t.lines conn') := by
      rw [hlines]
      by_cases hc : conn' = conn
      · subst hc
        simpa using hnext rfl
      · simpa [hc] using hP
    refine ⟨hstep.made rt cfg h.made, ?_, ?_, ?_⟩
    · intro conn' hlt
      rw [hconn] at hlt
      refine append _ _ (h.past conn' hlt) ?_
      rintro rfl
      exact (h.past conn' hlt).append hlen _
    · simp only [hconn, hmain]
      refine append _ _ h.progress fun hc => h.progress.append ?_ _
      rwa [hc]
    · intro conn' hgt
      rw [hconn] at hgt
      refine append (· = []) _ (h.future conn' hgt) fun hc => ?_
      -- there is no line on a connection to come
      rw [← hc, h.future conn' hgt] at hlen
      cases hlen

theorem progress_main {a : SendAction (Goroutine γ)} (h : s.Inv rt cfg)
    (hmain : a.goroutine = .main) (htake : s.mayTake a = true)
    (hstep : SendStep rt cfg s.shared a t) :
    Progress s.shared.conn (s.pcAfter a) (t.calls .main) (t.lines s.shared.conn) := by
  have hprogress := h.progress
  cases hstep with
  | @enter g request hcall =>
    obtain rfl : g = .main := hmain
    change Progress s.shared.conn s.pc (Shared.calls (Shared.setCall _ _ _) _) _
    rw [Shared.setCall_self]
    rw [hcall] at hprogress
    change s.begins request .main = true at htake
    rw [Reconnecting.begins] at htake
    generalize s.pc = pc at hprogress htake ⊢
    cases hprogress with
    | ready hn hl => exact .sending (of_decide_eq_true htake) (.inl rfl) hl
    | loop _ hl => exact .loop (by rintro c ⟨⟩ _ ⟨⟩) hl
    | _ => cases htake
  | @lock g call hcall hphase hholder =>
    obtain rfl : g = .main := hmain
    rw [hcall] at hprogress
    rw [Shared.setPhase_self]
    exact hprogress.lock hphase
  | @encode g call hcall hphase =>
    obtain rfl : g = .main := hmain
    rw [hcall] at hprogress
    rw [Shared.setPhase_self]
    exact hprogress.encode hphase
  | @write g call conn hcall hphase hopen =>
    obtain rfl : g = .main := hmain
    rw [hcall] at hprogress
    obtain rfl := hprogress.encoding_eq hphase
    rw [Shared.setPhase_self]
    change Progress s.shared.conn s.pc _
      (Function.update s.shared.lines _ (s.shared.lines s.shared.conn ++ [call.env]) s.shared.conn)
    rw [Function.update_self]
    exact hprogress.write rt cfg hphase (h.made .main call hcall)
  | @writeFailed g call conn hcall hphase =>
    obtain rfl : g = .main := hmain
    rw [hcall] at hprogress
    rw [Shared.setPhase_self]
    exact hprogress.writeFailed hphase
  | @unlock g call ok hcall hphase =>
    obtain rfl : g = .main := hmain
    rw [hcall] at hprogress
    rw [Shared.setPhase_self]
    exact hprogress.unlock hphase
  | @finish g call ok hcall hphase =>
    obtain rfl : g = .main := hmain
    rw [hcall] at hprogress
    rw [Shared.setCall_self]
    change Progress s.shared.conn _ none ((s.shared.storeState _).lines s.shared.conn)
    rw [Shared.storeState_lines]
    simpa [Reconnecting.pcAfter, hcall, hphase] using hprogress.finish hphase

theorem inv_main {a : SendAction (Goroutine γ)} (h : s.Inv rt cfg)
    (hmain : a.goroutine = .main) (htake : s.mayTake a = true)
    (hstep : SendStep rt cfg s.shared a t) :
    ({ s with shared := t, pc := s.pcAfter a } : Reconnecting γ).Inv rt cfg := by
  have hconn := hstep.conn rt cfg
  have other : ∀ conn ≠ s.shared.conn, t.lines conn = s.shared.lines conn := by
    intro conn hne
    rcases hstep.lines with hlines | ⟨g, call, conn', rfl, hcall, hphase, hlines⟩
    · rw [hlines]
    · obtain rfl : g = .main := hmain
      have hprogress := h.progress
      rw [hcall] at hprogress
      obtain rfl := hprogress.encoding_eq hphase
      rw [hlines, Function.update_of_ne hne]
  refine ⟨hstep.made rt cfg h.made, ?_, ?_, ?_⟩
  · intro conn hlt
    rw [hconn] at hlt
    rw [other conn hlt.ne]
    exact h.past conn hlt
  · simpa only [hconn] using progress_main h hmain htake hstep
  · intro conn hgt
    rw [hconn] at hgt
    rw [other conn hgt.ne']
    exact h.future conn hgt

theorem inv_step {s' : Reconnecting γ} {a : RunAction γ} (h : s.Inv rt cfg)
    (hundisturbed : s.disturbs a = false) (hstep : (reconnects rt cfg).step s a = some s') :
    s'.Inv rt cfg := by
  have hprogress := h.progress
  cases a with
  | connect =>
    simp only [reconnects, Option.ite_none_right_eq_some, Option.some.injEq] at hstep
    obtain ⟨hpc, rfl⟩ := hstep
    rw [hpc] at hprogress
    refine ⟨h.made, fun conn hlt => ?_, ?_, fun conn hgt => h.future conn (Nat.lt_of_succ_lt hgt)⟩
    · rcases Nat.lt_or_eq_of_le (Nat.le_of_lt_succ hlt) with hlt | rfl
      · exact h.past conn hlt
      · exact hprogress.starts
    · simpa only [h.future _ (Nat.lt_succ_self _)] using hprogress.connect
  | call a =>
    simp only [reconnects, Option.ite_none_right_eq_some, Option.map_eq_some_iff] at hstep
    obtain ⟨htake, t, ht, rfl⟩ := hstep
    have step := sends_step rt cfg ht
    cases hg : a.goroutine with
    | main => exact inv_main h hg htake step
    | worker w =>
      have hpc : s.pcAfter a = s.pc := by
        cases a with
        | finish g =>
          obtain rfl : g = .worker w := hg
          rfl
        | _ => rfl
      rw [hpc]
      exact inv_worker h hg hundisturbed step
  | registered payload =>
    simp only [reconnects, Option.ite_none_right_eq_some, Option.some.injEq] at hstep
    obtain ⟨hpc, rfl⟩ := hstep
    rw [hpc] at hprogress
    exact ⟨h.made, h.past, hprogress.received (by decide), h.future⟩
  | reply =>
    simp only [reconnects] at hstep
    split at hstep
    · rename_i hpc
      cases hstep
      rw [hpc] at hprogress
      exact ⟨h.made, h.past, hprogress.received (by decide), h.future⟩
    · rename_i hpc
      cases hstep
      rw [hpc] at hprogress
      exact ⟨h.made, h.past, hprogress.handshaken, h.future⟩
    · exact nomatch hstep
  | failed =>
    simp only [reconnects] at hstep
    split at hstep
    · rename_i hpc
      cases hstep
      rw [hpc] at hprogress
      exact ⟨h.made, h.past, hprogress.failed, h.future⟩
    · exact nomatch hstep
  | onRunning w =>
    simp only [reconnects, Option.ite_none_right_eq_some, Option.some.injEq] at hstep
    obtain ⟨_, rfl⟩ := hstep
    exact ⟨h.made, h.past, h.progress, h.future⟩
  | leave =>
    simp only [reconnects, Option.ite_none_right_eq_some, Option.some.injEq] at hstep
    obtain ⟨⟨_, hfree⟩, rfl⟩ := hstep
    have hnone : s.shared.calls .main = none := Option.isNone_iff_eq_none.mp hfree
    exact ⟨h.made, h.past, by simpa only [hnone] using .closing hprogress.starts, h.future⟩
  | close =>
    simp only [reconnects, Option.ite_none_right_eq_some, Option.some.injEq] at hstep
    obtain ⟨hpc, rfl⟩ := hstep
    rw [hpc] at hprogress
    exact ⟨h.made, h.past, hprogress.closed, h.future⟩

end Step

omit [DecidableEq γ] in
theorem inv_start : ({} : Reconnecting γ).Inv rt cfg where
  made := nofun
  past := nofun
  progress := .idle startsWithHandshake_nil
  future _ _ := rfl

/-- In every order of the steps of `Run` and of the workers: while no worker's write lands
on a connection before its handshake is written, each connection starts with the
handshake. -/
theorem handshake_isolated (run : List (RunAction γ))
    (h : (reconnects rt cfg).Along (fun s a => s.disturbs a = false) {} run) :
    (reconnects rt cfg).Always Reconnecting.Isolated {} run :=
  (System.always_of_along (inv_start rt cfg)
    (fun _ _ _ hs hin hstep => inv_step hs hin hstep) h).imp fun _ hs => hs.isolated

namespace Sample

def sending (g : Goroutine Unit) (request : Request) : List (RunAction Unit) :=
  (callSteps g request true).map .call

def firstConnection : List (RunAction Unit) :=
  [.connect] ++ sending .main .register ++ [.registered []] ++
    sending .main (.stateUpdate State.initializing "") ++ [.reply] ++
    sending .main (.stateUpdate State.ready "") ++ [.reply, .onRunning ()]

def runtimeError : Request := .error "E" "failed" true

/-- The worker reports an error on its connection, and the connection ends. -/
def quietRun : List (RunAction Unit) :=
  firstConnection ++ sending (.worker ()) runtimeError ++ [.leave, .close, .connect]

/-- The worker reports an error once `Run` has assigned the next connection. -/
def disturbedRun : List (RunAction Unit) :=
  firstConnection ++ [.leave, .close, .connect] ++ sending (.worker ()) runtimeError

end Sample

theorem handshake_isolated_sample :
    (reconnects Sample.runtime Sample.config).Always Reconnecting.Isolated {} Sample.quietRun :=
  handshake_isolated Sample.runtime Sample.config Sample.quietRun (by decide +kernel)

/-- The error of the worker is the first line of the new connection. -/
theorem handshake_disturbed : ¬ ∀ (rt : Runtime) (cfg : Config) (run : List (RunAction Unit)),
    (reconnects rt cfg).Always Reconnecting.Isolated {} run := by
  intro h
  have always := h Sample.runtime Sample.config Sample.disturbedRun
  have final : ((reconnects Sample.runtime Sample.config).exec {} Sample.disturbedRun).map
      (fun t => (t.shared.lines 2).map Envelope.command) = some [Command.runtimeError] := by
    decide +kernel
  obtain ⟨t, ht, hlines⟩ := Option.map_eq_some_iff.mp final
  have starts := always _ t List.prefix_rfl ht 2
  rcases starts with hpart | hwhole
  · have := hpart.map Prod.fst
    rw [List.map_map, show Prod.fst ∘ kind = Envelope.command from rfl, hlines] at this
    revert this
    decide
  · have := (hwhole.map Prod.fst).length_le
    rw [List.map_map, show Prod.fst ∘ kind = Envelope.command from rfl, hlines] at this
    revert this
    decide

end AegisSdk.Go
