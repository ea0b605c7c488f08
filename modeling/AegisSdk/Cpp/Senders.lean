import AegisSdk.Cpp.Sends
import AegisSdk.Library.Interleaving
import AegisSdk.Library.Lines
import Mathlib.Logic.Function.Basic

/-!
Any number of threads that send on one connection at the same time. `send_envelope` makes its
line before it takes `send_mutex_`, and holds the mutex while `::write` takes the bytes one after
the other; the state is stored when the mutex is free again.
-/

set_option autoImplicit false
set_option relaxedAutoImplicit false

namespace AegisSdk.Cpp

open AegisSdk.Protocol AegisSdk.Library

inductive Job where
  | send (x : Send)
  /-- the end of `graceful_shutdown` -/
  | shutdown

def Job.sends : Job → Send
  | .send x => x
  | .shutdown => .other .lifecycle .shutdown (.obj []) none

def Job.target : Job → Option ComponentState
  | .send x => x.target
  | .shutdown => some .shutdown

structure Ticket (γ : Type) where
  thread : γ
  job : Job
  number : Nat

inductive Stage where
  /-- the line is made -/
  | made
  /-- `send_mutex_` is held and so many bytes are written -/
  | writing (count : Nat)
  /-- `::write` has returned -/
  | wrote
  /-- `send_mutex_` is free again -/
  | sent
  deriving DecidableEq

def Stage.holds : Stage → Bool
  | .writing _ | .wrote => true
  | _ => false

def Stage.logged : Stage → Bool
  | .wrote | .sent => true
  | _ => false

structure Call (γ : Type) where
  ticket : Ticket γ
  stage : Stage

structure Joint (γ : Type) where
  state : ComponentState
  /-- envelopes created so far -/
  created : Nat := 0
  /-- what the connection has taken -/
  wire : List UInt8 := []
  /-- the holder of `send_mutex_` -/
  holder : Option γ := none
  calls : γ → Option (Call γ) := fun _ => none
  /-- the jobs in the order in which they were begun -/
  begun : List (Ticket γ) := []
  /-- the writes in the order in which they returned -/
  log : List (Ticket γ × WriteResult) := []

inductive Move (γ : Type) where
  | enter (g : γ) (job : Job)
  | lock (g : γ)
  /-- `::write` takes one more byte -/
  | put (g : γ)
  | ret (g : γ) (result : WriteResult)
  | unlock (g : γ)
  /-- the rest of the job -/
  | finish (g : γ)

def Move.thread {γ : Type} : Move γ → γ
  | .enter g _ | .lock g | .put g | .ret g _ | .unlock g | .finish g => g

section Model

variable {γ : Type} (rt : Runtime) (cfg : Config) (dump : Json → List UInt8)

def Ticket.envelope (a : Ticket γ) : Envelope := a.job.sends.envelope rt cfg a.number

def Ticket.line (a : Ticket γ) : List UInt8 := (a.envelope rt cfg).line dump

/-- The line of a write that has returned and what the connection took of it. -/
def returned (l : Ticket γ × WriteResult) : Piece UInt8 :=
  piece dump (l.1.envelope rt cfg, l.2)

namespace Joint

variable [DecidableEq γ] (s : Joint γ)

def setCall (g : γ) (call : Option (Call γ)) : Joint γ :=
  { s with calls := Function.update s.calls g call }

def goOn (g : γ) (call : Call γ) (stage : Stage) : Joint γ :=
  s.setCall g (some { call with stage := stage })

def start (g : γ) (job : Job) : Joint γ :=
  { s with created := s.created + 1, begun := s.begun ++ [Ticket.mk g job s.created] }.setCall g
    (some { ticket := Ticket.mk g job s.created, stage := .made })

/-- One step of a job. A write returns how much it has taken, or that it has taken nothing. -/
def advance (g : γ) (call : Call γ) : Move γ → Option (Joint γ)
  | .enter _ _ => none
  | .lock _ =>
    if call.stage = .made ∧ s.holder.isNone then
      some ({ s with holder := some g }.goOn g call (.writing 0))
    else none
  | .put _ =>
    match call.stage with
    | .writing n =>
      ((call.ticket.line rt cfg dump)[n]?).map fun b =>
        { s with wire := s.wire ++ [b] }.goOn g call (.writing (n + 1))
    | _ => none
  | .ret _ result =>
    match call.stage with
    | .writing n =>
      if result.taken (call.ticket.line rt cfg dump) = (call.ticket.line rt cfg dump).take n then
        some ({ s with log := s.log ++ [(call.ticket, result)] }.goOn g call .wrote)
      else none
    | _ => none
  | .unlock _ =>
    if call.stage = .wrote then some ({ s with holder := none }.goOn g call .sent) else none
  | .finish _ =>
    if call.stage = .sent then
      some ({ s with state := call.ticket.job.target.getD s.state }.setCall g none)
    else none

end Joint

def senders [DecidableEq γ] : System (Joint γ) (Move γ) where
  step s a :=
    match s.calls a.thread, a with
    | none, .enter g job => some (s.start g job)
    | none, _ => none
    | some call, a => s.advance rt cfg dump a.thread call a

end Model

section Step

variable {γ : Type} [DecidableEq γ] (rt : Runtime) (cfg : Config) (dump : Json → List UInt8)

inductive Moves : Joint γ → Move γ → Joint γ → Prop
  | enter {s : Joint γ} {g : γ} (job : Job) : s.calls g = none →
      Moves s (.enter g job) (s.start g job)
  | lock {s : Joint γ} {g : γ} {call : Call γ} : s.calls g = some call → call.stage = .made →
      s.holder = none → Moves s (.lock g) ({ s with holder := some g }.goOn g call (.writing 0))
  | put {s : Joint γ} {g : γ} {call : Call γ} {n : Nat} {b : UInt8} : s.calls g = some call →
      call.stage = .writing n → (call.ticket.line rt cfg dump)[n]? = some b →
      Moves s (.put g) ({ s with wire := s.wire ++ [b] }.goOn g call (.writing (n + 1)))
  | ret {s : Joint γ} {g : γ} {call : Call γ} {n : Nat} {result : WriteResult} :
      s.calls g = some call → call.stage = .writing n →
      result.taken (call.ticket.line rt cfg dump) = (call.ticket.line rt cfg dump).take n →
      Moves s (.ret g result)
        ({ s with log := s.log ++ [(call.ticket, result)] }.goOn g call .wrote)
  | unlock {s : Joint γ} {g : γ} {call : Call γ} : s.calls g = some call →
      call.stage = .wrote → Moves s (.unlock g) ({ s with holder := none }.goOn g call .sent)
  | finish {s : Joint γ} {g : γ} {call : Call γ} : s.calls g = some call →
      call.stage = .sent → Moves s (.finish g)
        ({ s with state := call.ticket.job.target.getD s.state }.setCall g none)

variable {rt cfg dump} {s t : Joint γ} {a : Move γ}

theorem advance_moves {call : Call γ} (hcall : s.calls a.thread = some call)
    (h : s.advance rt cfg dump a.thread call a = some t) : Moves rt cfg dump s a t := by
  cases a with
  | enter g job => exact nomatch h
  | lock g =>
    simp only [Joint.advance, Option.ite_none_right_eq_some, Option.some.injEq] at h
    obtain ⟨⟨hstage, hholder⟩, rfl⟩ := h
    exact .lock hcall hstage (Option.isNone_iff_eq_none.mp hholder)
  | put g =>
    simp only [Joint.advance] at h
    split at h
    · rename_i n hstage
      obtain ⟨b, hb, rfl⟩ := Option.map_eq_some_iff.mp h
      exact .put hcall hstage hb
    · exact nomatch h
  | ret g result =>
    simp only [Joint.advance] at h
    split at h
    · rename_i n hstage
      simp only [Option.ite_none_right_eq_some, Option.some.injEq] at h
      obtain ⟨htaken, rfl⟩ := h
      exact .ret hcall hstage htaken
    · exact nomatch h
  | unlock g =>
    simp only [Joint.advance, Option.ite_none_right_eq_some, Option.some.injEq] at h
    obtain ⟨hstage, rfl⟩ := h
    exact .unlock hcall hstage
  | finish g =>
    simp only [Joint.advance, Option.ite_none_right_eq_some, Option.some.injEq] at h
    obtain ⟨hstage, rfl⟩ := h
    exact .finish hcall hstage

theorem senders_moves (h : (senders rt cfg dump).step s a = some t) : Moves rt cfg dump s a t := by
  simp only [senders] at h
  split at h
  · rename_i g job hcall
    cases h
    exact .enter job hcall
  · exact nomatch h
  · rename_i call a hcall
    exact advance_moves hcall h

theorem Moves.calls_of_ne (h : Moves rt cfg dump s a t) {g : γ} (hg : g ≠ a.thread) :
    t.calls g = s.calls g := by
  cases h <;> exact Function.update_of_ne hg _ _

theorem Moves.calls_self (h : Moves rt cfg dump s a t) :
    (∃ job, a = .enter a.thread job ∧ s.calls a.thread = none ∧
      t.calls a.thread = some { ticket := Ticket.mk a.thread job s.created, stage := .made }) ∨
    (∃ call stage, s.calls a.thread = some call ∧
      t.calls a.thread = some { call with stage := stage }) ∨
    ∃ call, a = .finish a.thread ∧ s.calls a.thread = some call ∧ t.calls a.thread = none := by
  cases h with
  | enter job hcall => exact .inl ⟨job, rfl, hcall, Function.update_self _ _ _⟩
  | lock hcall => exact .inr (.inl ⟨_, _, hcall, Function.update_self _ _ _⟩)
  | put hcall => exact .inr (.inl ⟨_, _, hcall, Function.update_self _ _ _⟩)
  | ret hcall => exact .inr (.inl ⟨_, _, hcall, Function.update_self _ _ _⟩)
  | unlock hcall => exact .inr (.inl ⟨_, _, hcall, Function.update_self _ _ _⟩)
  | finish hcall => exact .inr (.inr ⟨_, rfl, hcall, Function.update_self _ _ _⟩)

end Step

section Sound

variable {γ : Type} (rt : Runtime) (cfg : Config) (dump : Json → List UInt8)

def Call.part (call : Call γ) : List UInt8 :=
  match call.stage with
  | .writing n => (call.ticket.line rt cfg dump).take n
  | _ => []

def Joint.part (s : Joint γ) : List UInt8 :=
  (s.holder.bind s.calls).elim [] (Call.part rt cfg dump)

def Call.due (call : Call γ) : List (Ticket γ) := if call.stage.logged then [] else [call.ticket]

def Joint.due (s : Joint γ) (g : γ) : List (Ticket γ) := (s.calls g).elim [] Call.due

variable [DecidableEq γ]

structure Joint.Sound (st : ComponentState) (s : Joint γ) : Prop where
  own : ∀ g call, s.calls g = some call → call.ticket.thread = g
  holder : ∀ g, s.holder = some g ↔ ∃ call, s.calls g = some call ∧ call.stage.holds = true
  wire : s.wire = stream (s.log.map (returned rt cfg dump)) ++ s.part rt cfg dump
  order : ∀ g, s.begun.filter (fun a => a.thread = g) =
    (s.log.map Prod.fst).filter (fun a => a.thread = g) ++ s.due g
  logged : ∀ g call, s.calls g = some call → call.stage.logged = true →
    ∃ result, (call.ticket, result) ∈ s.log
  state : s.state = st ∨ ∃ l ∈ s.log, l.1.job.target = some s.state

variable {rt cfg dump} {st : ComponentState} {s t : Joint γ} {a : Move γ}

namespace Moves

theorem own (h : Moves rt cfg dump s a t)
    (hs : ∀ g call, s.calls g = some call → call.ticket.thread = g) :
    ∀ g call, t.calls g = some call → call.ticket.thread = g := by
  intro g call hcall
  by_cases hg : g = a.thread
  · subst hg
    rcases h.calls_self with ⟨job, -, -, hnew⟩ | ⟨call', stage, hold, hnew⟩ | ⟨call', -, -, hnew⟩
    · rw [hnew] at hcall
      cases hcall
      rfl
    · rw [hnew] at hcall
      cases hcall
      exact hs _ call' hold
    · rw [hnew] at hcall
      cases hcall
  · rw [h.calls_of_ne hg] at hcall
    exact hs g call hcall

/-- The mutex is held by the one thread that writes. -/
theorem holder (h : Moves rt cfg dump s a t)
    (hs : ∀ g, s.holder = some g ↔ ∃ call, s.calls g = some call ∧ call.stage.holds = true) :
    ∀ g, t.holder = some g ↔ ∃ call, t.calls g = some call ∧ call.stage.holds = true := by
  intro g'
  have other (hg : g' ≠ a.thread) (hsame : t.holder = some g' ↔ s.holder = some g') :
      t.holder = some g' ↔ ∃ call, t.calls g' = some call ∧ call.stage.holds = true := by
    rw [hsame, hs g', h.calls_of_ne hg]
  have before := hs a.thread
  by_cases hg : g' = a.thread
  · subst hg
    cases h with
    | enter job hcall =>
      simpa [Move.thread, Joint.start, Joint.setCall, Stage.holds, hcall] using before
    | lock hcall hstage hnone => simp [Move.thread, Joint.goOn, Joint.setCall, Stage.holds]
    | put hcall hstage hb =>
      simpa [Move.thread, Joint.goOn, Joint.setCall, Stage.holds, hcall, hstage] using before
    | ret hcall hstage htaken =>
      simpa [Move.thread, Joint.goOn, Joint.setCall, Stage.holds, hcall, hstage] using before
    | unlock hcall hstage => simp [Move.thread, Joint.goOn, Joint.setCall, Stage.holds]
    | finish hcall hstage =>
      simpa [Move.thread, Joint.setCall, Stage.holds, hcall, hstage] using before
  · refine other hg ?_
    cases h with
    | lock hcall hstage hnone =>
      simpa [Move.thread, Joint.goOn, Joint.setCall, hnone] using Ne.symm hg
    | unlock hcall hstage =>
      have hheld : s.holder = some _ := before.mpr ⟨_, hcall, by rw [hstage]; rfl⟩
      simpa [Move.thread, Joint.goOn, Joint.setCall, hheld] using Ne.symm hg
    | _ => exact Iff.rfl

end Moves

omit [DecidableEq γ] in
theorem part_of_holder {g : γ} {call : Call γ} (hholder : s.holder = some g)
    (hcall : s.calls g = some call) : s.part rt cfg dump = call.part rt cfg dump := by
  simp [Joint.part, hholder, hcall]

omit [DecidableEq γ] in
theorem part_free (hholder : s.holder = none) : s.part rt cfg dump = [] := by
  simp [Joint.part, hholder]

theorem part_goOn {g : γ} {call : Call γ} {stage : Stage} (hholder : s.holder = some g) :
    (s.goOn g call stage).part rt cfg dump = { call with stage := stage }.part rt cfg dump :=
  part_of_holder hholder (Function.update_self _ _ _)

theorem part_setCall {g : γ} (hholder : s.holder ≠ some g) (call : Option (Call γ)) :
    (s.setCall g call).part rt cfg dump = s.part rt cfg dump := by
  have hcalls : s.holder.bind (Function.update s.calls g call) = s.holder.bind s.calls := by
    cases hg : s.holder with
    | none => rfl
    | some g' =>
      have hne : g' ≠ g := fun heq => hholder (heq ▸ hg)
      exact Function.update_of_ne hne _ _
  exact congrArg (fun held => held.elim [] (Call.part rt cfg dump)) hcalls

theorem Moves.wire (h : Moves rt cfg dump s a t)
    (hholder : ∀ g, s.holder = some g ↔ ∃ call, s.calls g = some call ∧ call.stage.holds = true)
    (hs : s.wire = stream (s.log.map (returned rt cfg dump)) ++ s.part rt cfg dump) :
    t.wire = stream (t.log.map (returned rt cfg dump)) ++ t.part rt cfg dump := by
  have held {g : γ} {call : Call γ} (hcall : s.calls g = some call)
      (hstage : call.stage.holds = true) : s.holder = some g :=
    (hholder g).mpr ⟨call, hcall, hstage⟩
  cases h with
  | @enter g job hcall =>
    have hnot : s.holder ≠ some g := by
      intro heq
      obtain ⟨call, hsome, -⟩ := (hholder g).mp heq
      rw [hcall] at hsome
      cases hsome
    have hpart : (s.start g job).part rt cfg dump = s.part rt cfg dump := part_setCall hnot _
    rw [hpart]
    exact hs
  | @lock g call hcall hstage hnone =>
    rw [part_free hnone] at hs
    rw [part_goOn rfl]
    exact hs
  | @put g call n b hcall hstage hb =>
    have hheld : s.holder = some g := held hcall (by rw [hstage]; rfl)
    have hbefore : s.part rt cfg dump = (call.ticket.line rt cfg dump).take n := by
      rw [part_of_holder hheld hcall, Call.part, hstage]
    rw [part_goOn (s := { s with wire := s.wire ++ [b] }) hheld]
    change s.wire ++ [b] = stream (s.log.map (returned rt cfg dump)) ++
      (call.ticket.line rt cfg dump).take (n + 1)
    rw [hs, hbefore, List.take_add_one, hb, List.append_assoc]
    rfl
  | @ret g call n result hcall hstage htaken =>
    have hheld : s.holder = some g := held hcall (by rw [hstage]; rfl)
    have hbefore : s.part rt cfg dump = (call.ticket.line rt cfg dump).take n := by
      rw [part_of_holder hheld hcall, Call.part, hstage]
    rw [part_goOn (s := { s with log := s.log ++ [(call.ticket, result)] }) hheld]
    change s.wire = stream ((s.log ++ [(call.ticket, result)]).map (returned rt cfg dump)) ++ []
    have htaken' : (returned rt cfg dump (call.ticket, result)).taken =
        (call.ticket.line rt cfg dump).take n := htaken
    rw [hs, hbefore, stream, stream, List.map_append, List.flatMap_append, List.append_nil,
      List.map_singleton, List.flatMap_singleton, htaken']
  | @unlock g call hcall hstage =>
    have hheld : s.holder = some g := held hcall (by rw [hstage]; rfl)
    rw [part_of_holder hheld hcall, Call.part, hstage] at hs
    rw [part_free rfl]
    exact hs
  | @finish g call hcall hstage =>
    have hnot : s.holder ≠ some g := by
      intro heq
      obtain ⟨call', hcall', hholds⟩ := (hholder g).mp heq
      obtain rfl := Option.some.inj (hcall.symm.trans hcall')
      rw [hstage] at hholds
      cases hholds
    have hpart : ({ s with state := call.ticket.job.target.getD s.state }.setCall g none).part rt
        cfg dump = s.part rt cfg dump := part_setCall hnot none
    rw [hpart]
    exact hs

theorem Moves.log_subset (h : Moves rt cfg dump s a t) : ∀ l ∈ s.log, l ∈ t.log := by
  intro l hl
  cases h with
  | ret hcall hstage htaken => exact List.mem_append_left _ hl
  | _ => exact hl

theorem due_goOn {g : γ} {call : Call γ} {stage : Stage} :
    (s.goOn g call stage).due g = { call with stage := stage }.due := by
  simp [Joint.due, Joint.goOn, Joint.setCall]

omit [DecidableEq γ] in
theorem due_eq {g : γ} {call : Call γ} (hcall : s.calls g = some call) : s.due g = call.due := by
  simp [Joint.due, hcall]

/-- What a thread has begun is what it has written, in this order, and what it is to write. -/
theorem Moves.order (h : Moves rt cfg dump s a t)
    (hown : ∀ g call, s.calls g = some call → call.ticket.thread = g)
    (hs : ∀ g, s.begun.filter (fun a => a.thread = g) =
      (s.log.map Prod.fst).filter (fun a => a.thread = g) ++ s.due g) :
    ∀ g, t.begun.filter (fun a => a.thread = g) =
      (t.log.map Prod.fst).filter (fun a => a.thread = g) ++ t.due g := by
  intro g
  have other (hg : g ≠ a.thread) : t.due g = s.due g := by
    rw [Joint.due, Joint.due, h.calls_of_ne hg]
  have before := hs g
  -- a step that neither begins a job nor ends a write
  have same (hbegun : t.begun = s.begun) (hlog : t.log = s.log) (hdue : t.due g = s.due g) :
      t.begun.filter (fun a => a.thread = g) =
        (t.log.map Prod.fst).filter (fun a => a.thread = g) ++ t.due g := by
    rw [hbegun, hlog, hdue]
    exact before
  by_cases hg : g = a.thread
  · subst hg
    cases h with
    | @enter g job hcall =>
      have hnone : s.due g = [] := by simp [Joint.due, hcall]
      have hnew : (s.start g job).due g = [Ticket.mk g job s.created] := by
        simp [Joint.due, Joint.start, Joint.setCall, Call.due, Stage.logged]
      change s.begun.filter (fun a => a.thread = g) =
        (s.log.map Prod.fst).filter (fun a => a.thread = g) ++ s.due g at before
      change (s.begun ++ [Ticket.mk g job s.created]).filter (fun a => a.thread = g) =
        (s.log.map Prod.fst).filter (fun a => a.thread = g) ++ (s.start g job).due g
      rw [List.filter_append, before, hnew, hnone, List.append_nil]
      simp
    | @lock g call hcall hstage hnone =>
      refine same rfl rfl ?_
      change Joint.due _ g = Joint.due _ g
      rw [due_goOn, due_eq hcall, Call.due, Call.due, hstage]
      rfl
    | @put g call n b hcall hstage hb =>
      refine same rfl rfl ?_
      change Joint.due _ g = Joint.due _ g
      rw [due_goOn, due_eq hcall, Call.due, Call.due, hstage]
      rfl
    | @ret g call n result hcall hstage htaken =>
      have hdue : s.due g = [call.ticket] := by
        rw [due_eq hcall, Call.due, hstage]
        rfl
      have hthread : call.ticket.thread = g := hown g call hcall
      change s.begun.filter (fun a => a.thread = g) =
        (s.log.map Prod.fst).filter (fun a => a.thread = g) ++ s.due g at before
      change s.begun.filter (fun a => a.thread = g) =
        ((s.log ++ [(call.ticket, result)]).map Prod.fst).filter (fun a => a.thread = g) ++
          Joint.due _ g
      rw [due_goOn, before, hdue]
      simp [hthread, Call.due, Stage.logged]
    | @unlock g call hcall hstage =>
      refine same rfl rfl ?_
      change Joint.due _ g = Joint.due _ g
      rw [due_goOn, due_eq hcall, Call.due, Call.due, hstage]
      rfl
    | @finish g call hcall hstage =>
      refine same rfl rfl ?_
      change Joint.due _ g = Joint.due _ g
      rw [due_eq hcall, Call.due, hstage]
      simp [Joint.due, Joint.setCall, Stage.logged]
  · cases h with
    | @enter g' job hcall =>
      have hne : ¬ g' = g := fun heq => hg heq.symm
      change (s.begun ++ [Ticket.mk g' job s.created]).filter (fun a => a.thread = g) =
        (s.log.map Prod.fst).filter (fun a => a.thread = g) ++ Joint.due _ g
      rw [other hg, List.filter_append, before]
      simp [hne]
    | @ret g' call n result hcall hstage htaken =>
      have hne : ¬ call.ticket.thread = g := by
        rw [hown g' call hcall]
        exact fun heq => hg heq.symm
      change s.begun.filter (fun a => a.thread = g) =
        ((s.log ++ [(call.ticket, result)]).map Prod.fst).filter (fun a => a.thread = g) ++
          Joint.due _ g
      rw [other hg, before]
      simp [hne]
    | _ => exact same rfl rfl (other hg)

theorem Moves.logged (h : Moves rt cfg dump s a t)
    (hs : ∀ g call, s.calls g = some call → call.stage.logged = true →
      ∃ result, (call.ticket, result) ∈ s.log) :
    ∀ g call, t.calls g = some call → call.stage.logged = true →
      ∃ result, (call.ticket, result) ∈ t.log := by
  intro g call hcall hlogged
  by_cases hg : g = a.thread
  · subst hg
    have self {stage : Stage} {call' : Call γ} (hnew : t.calls a.thread =
        some { call' with stage := stage }) : call.ticket = call'.ticket ∧ call.stage = stage := by
      obtain rfl := Option.some.inj (hcall.symm.trans hnew)
      exact ⟨rfl, rfl⟩
    cases h with
    | enter job hnone =>
      obtain rfl := Option.some.inj (hcall.symm.trans (Function.update_self _ _ _))
      cases hlogged
    | lock hold hstage hnone =>
      obtain ⟨-, hnew⟩ := self (Function.update_self _ _ _)
      rw [hnew] at hlogged
      cases hlogged
    | put hold hstage hb =>
      obtain ⟨-, hnew⟩ := self (Function.update_self _ _ _)
      rw [hnew] at hlogged
      cases hlogged
    | @ret g call' n result hold hstage htaken =>
      obtain ⟨hticket, -⟩ := self (Function.update_self _ _ _)
      rw [hticket]
      exact ⟨result, List.mem_append_right _ (List.mem_singleton_self _)⟩
    | @unlock g call' hold hstage =>
      obtain ⟨hticket, -⟩ := self (Function.update_self _ _ _)
      rw [hticket]
      exact hs g call' hold (by rw [hstage]; rfl)
    | finish hold hstage =>
      rw [show Joint.calls _ _ = none from Function.update_self _ _ _] at hcall
      cases hcall
  · rw [h.calls_of_ne hg] at hcall
    obtain ⟨result, hmem⟩ := hs g call hcall hlogged
    exact ⟨result, h.log_subset _ hmem⟩

theorem Moves.state (h : Moves rt cfg dump s a t)
    (hlogged : ∀ g call, s.calls g = some call → call.stage.logged = true →
      ∃ result, (call.ticket, result) ∈ s.log)
    (hs : s.state = st ∨ ∃ l ∈ s.log, l.1.job.target = some s.state) :
    t.state = st ∨ ∃ l ∈ t.log, l.1.job.target = some t.state := by
  have same (hstate : t.state = s.state) :
      t.state = st ∨ ∃ l ∈ t.log, l.1.job.target = some t.state := by
    rw [hstate]
    rcases hs with hst | ⟨l, hl, htarget⟩
    · exact .inl hst
    · exact .inr ⟨l, h.log_subset l hl, htarget⟩
  cases h with
  | @finish g call hcall hstage =>
    rcases Option.eq_none_or_eq_some call.ticket.job.target with htarget | ⟨x, htarget⟩
    · refine same ?_
      change call.ticket.job.target.getD s.state = s.state
      rw [htarget, Option.getD_none]
    · obtain ⟨result, hmem⟩ := hlogged g call hcall (by rw [hstage]; rfl)
      refine .inr ⟨_, hmem, ?_⟩
      change call.ticket.job.target = some (call.ticket.job.target.getD s.state)
      rw [htarget, Option.getD_some]
  | _ => exact same rfl

theorem Moves.sound (h : Moves rt cfg dump s a t) (hs : s.Sound rt cfg dump st) :
    t.Sound rt cfg dump st where
  own := h.own hs.own
  holder := h.holder hs.holder
  wire := h.wire hs.holder hs.wire
  order := h.order hs.own hs.order
  logged := h.logged hs.logged
  state := h.state hs.logged hs.state

def Joint.connected (st : ComponentState) (created : Nat) : Joint γ :=
  { state := st, created := created }

theorem connected_sound (created : Nat) :
    (Joint.connected (γ := γ) st created).Sound rt cfg dump st where
  own g call hcall := by simp [Joint.connected] at hcall
  holder g := by simp [Joint.connected]
  wire := rfl
  order g := rfl
  logged g call hcall := by simp [Joint.connected] at hcall
  state := .inl rfl

end Sound

section Lines

variable {γ : Type} [DecidableEq γ] (rt : Runtime) (cfg : Config) (dump : Json → List UInt8)

/-- No thread's line runs into that of another: the sends are atomic on the wire. -/
structure Joint.Atomic (st : ComponentState) (s : Joint γ) : Prop where
  /-- the wire has what the returned writes took of their lines, one after the other, and then a
  part of the line of the thread that has the mutex -/
  wire : ∃ part, s.wire = stream (s.log.map (returned rt cfg dump)) ++ part ∧
    (s.holder = none → part = []) ∧ ∀ g, s.holder = some g →
      ∃ call, s.calls g = some call ∧ part <+: call.ticket.line rt cfg dump
  /-- the daemon reads one line for each write if these are whole and none is in progress -/
  lines : (∀ j, 10 ∉ dump j) → s.holder = none →
    (∀ l ∈ s.log, l.2.whole (l.1.line rt cfg dump).length = true) →
      lines 10 s.wire = s.log.map fun l => l.1.line rt cfg dump
  /-- each thread has written its lines once and in its order, but for the one it is at -/
  order : ∀ g, ∃ due, s.begun.filter (fun a => a.thread = g) =
    (s.log.map Prod.fst).filter (fun a => a.thread = g) ++ due ∧ due.length ≤ 1 ∧
      (s.calls g = none → due = [])
  /-- the state has been told before -/
  state : s.state = st ∨ ∃ l ∈ s.log, l.1.job.target = some s.state

variable {rt cfg dump} {st : ComponentState} {s : Joint γ}

omit [DecidableEq γ] in
theorem lines_returned (hdump : ∀ j, 10 ∉ dump j) {log : List (Ticket γ × WriteResult)}
    (hwhole : ∀ l ∈ log, l.2.whole (l.1.line rt cfg dump).length = true) :
    lines 10 (stream (log.map (returned rt cfg dump))) =
      log.map fun l => l.1.line rt cfg dump := by
  induction log with
  | nil => rfl
  | cons l log ih =>
    obtain ⟨hl, hlog⟩ := List.forall_mem_cons.mp hwhole
    have htaken : (returned rt cfg dump l).taken =
        dump (l.1.envelope rt cfg).toJson ++ [10] := piece_whole.mpr hl
    have hstream : stream ((l :: log).map (returned rt cfg dump)) =
        dump (l.1.envelope rt cfg).toJson ++ 10 :: stream (log.map (returned rt cfg dump)) := by
      rw [stream, List.map_cons, List.flatMap_cons, htaken, List.append_assoc]
      rfl
    rw [hstream, lines_delim (hdump _), ih hlog]
    rfl

omit [DecidableEq γ] in
theorem part_isPrefix (call : Call γ) : call.part rt cfg dump <+: call.ticket.line rt cfg dump := by
  unfold Call.part
  split
  · exact List.take_prefix _ _
  · exact List.nil_prefix

omit [DecidableEq γ] in
theorem due_length (call : Call γ) : call.due.length ≤ 1 := by
  unfold Call.due
  split <;> simp

theorem Joint.Sound.atomic (hs : s.Sound rt cfg dump st) : s.Atomic rt cfg dump st where
  wire := by
    refine ⟨s.part rt cfg dump, hs.wire, part_free, ?_⟩
    intro g hg
    obtain ⟨call, hcall, -⟩ := (hs.holder g).mp hg
    refine ⟨call, hcall, ?_⟩
    rw [part_of_holder hg hcall]
    exact part_isPrefix call
  lines := by
    intro hdump hfree hwhole
    rw [hs.wire, part_free hfree, List.append_nil]
    exact lines_returned hdump hwhole
  order := by
    intro g
    refine ⟨s.due g, hs.order g, ?_, ?_⟩
    · cases hcall : s.calls g with
      | none => simp [Joint.due, hcall]
      | some call =>
        rw [due_eq hcall]
        exact due_length call
    · intro hnone
      simp [Joint.due, hnone]
  state := hs.state

/-- In every order of the steps of any number of threads, whatever every write gives: no line runs
into another, none is lost or written twice, each thread's come in its own order, and the state is
one that was told. -/
theorem threads_write_whole_lines (rt : Runtime) (cfg : Config) (dump : Json → List UInt8)
    (st : ComponentState) (created : Nat) (run : List (Move γ)) :
    (senders rt cfg dump).Always (Joint.Atomic rt cfg dump st) (.connected st created) run := by
  have always : (senders rt cfg dump).Always (Joint.Sound rt cfg dump st)
      (.connected st created) run :=
    System.always_of_step (connected_sound created) fun s a t hs h => (senders_moves h).sound hs
  exact always.imp fun s hs => hs.atomic

end Lines

section Alone

variable {γ : Type} [DecidableEq γ] {rt : Runtime} {cfg : Config} {dump : Json → List UInt8}
  {s : Joint γ} {g : γ}

/-- A send that nothing comes into, and of whose line so many bytes are taken. -/
def alone (g : γ) (x : Send) (count : Nat) (result : WriteResult) : List (Move γ) :=
  [.enter g (.send x), .lock g] ++ List.replicate count (.put g) ++
    [.ret g result, .unlock g, .finish g]

theorem exec_puts {ticket : Ticket γ} {n count : Nat}
    (hcall : s.calls g = some { ticket := ticket, stage := .writing n })
    (hcount : n + count ≤ (ticket.line rt cfg dump).length) :
    ∃ t, (senders rt cfg dump).exec s (List.replicate count (.put g)) = some t ∧
      t.calls g = some { ticket := ticket, stage := .writing (n + count) } ∧
      t.wire = s.wire ++ ((ticket.line rt cfg dump).drop n).take count ∧
      t.state = s.state ∧ t.created = s.created ∧ t.log = s.log := by
  induction count generalizing s n with
  | zero => exact ⟨s, rfl, hcall, by simp, rfl, rfl, rfl⟩
  | succ count ih =>
    have hlt : n < (ticket.line rt cfg dump).length := by omega
    have hb : (ticket.line rt cfg dump)[n]? = some (ticket.line rt cfg dump)[n] :=
      List.getElem?_eq_getElem hlt
    let next : Joint γ := { s with wire := s.wire ++ [(ticket.line rt cfg dump)[n]] }.goOn g
      { ticket := ticket, stage := .writing n } (.writing (n + 1))
    have hstep : (senders rt cfg dump).step s (.put g) = some next := by
      simp only [senders, Move.thread, hcall, Joint.advance, hb, Option.map_some]
      rfl
    obtain ⟨t, hexec, hcalls, hwire, hstate, hcreated, hlog⟩ :=
      ih (s := next) (n := n + 1) (Function.update_self _ _ _) (by omega)
    refine ⟨t, ?_, ?_, ?_, hstate, hcreated, hlog⟩
    · rw [List.replicate_succ, System.exec, hstep]
      exact hexec
    · rw [hcalls, Nat.add_right_comm, Nat.add_assoc]
    · rw [hwire, List.drop_eq_getElem_cons hlt, List.take_succ_cons]
      simp [next, Joint.goOn, Joint.setCall]

theorem exec_return {ticket : Ticket γ} {n : Nat} {result : WriteResult}
    (hcall : s.calls g = some { ticket := ticket, stage := .writing n })
    (htaken : result.taken (ticket.line rt cfg dump) = (ticket.line rt cfg dump).take n) :
    ∃ t, (senders rt cfg dump).exec s [.ret g result, .unlock g, .finish g] = some t ∧
      t.wire = s.wire ∧ t.state = ticket.job.target.getD s.state ∧ t.created = s.created ∧
      t.log = s.log ++ [(ticket, result)] := by
  let wrote : Joint γ := { s with log := s.log ++ [(ticket, result)] }.goOn g
    { ticket := ticket, stage := .writing n } .wrote
  let sent : Joint γ := { wrote with holder := none }.goOn g
    { ticket := ticket, stage := .wrote } .sent
  let done : Joint γ := { sent with state := ticket.job.target.getD sent.state }.setCall g none
  have hret : (senders rt cfg dump).step s (.ret g result) = some wrote := by
    simp only [senders, Move.thread, hcall, Joint.advance, htaken, if_true]
    rfl
  have hwrote : wrote.calls g = some { ticket := ticket, stage := .wrote } :=
    Function.update_self _ _ _
  have hunlock : (senders rt cfg dump).step wrote (.unlock g) = some sent := by
    simp only [senders, Move.thread, hwrote, Joint.advance, if_true]
    rfl
  have hsent : sent.calls g = some { ticket := ticket, stage := .sent } :=
    Function.update_self _ _ _
  have hfinish : (senders rt cfg dump).step sent (.finish g) = some done := by
    simp only [senders, Move.thread, hsent, Joint.advance, if_true]
    rfl
  refine ⟨done, ?_, rfl, rfl, rfl, rfl⟩
  rw [System.exec, hret, Option.bind_some, System.exec, hunlock, Option.bind_some, System.exec,
    hfinish]
  rfl

theorem perform_alone (th : Threads) (x : Send) {w : World} {count : Nat}
    (hcalls : s.calls g = none) (hholder : s.holder = none) (hstate : w.state = s.state)
    (hcreated : w.created = s.created)
    (hcount : count ≤ (Ticket.line rt cfg dump ⟨g, .send x, s.created⟩).length)
    (htaken : (w.writes.headD .complete).taken (Ticket.line rt cfg dump ⟨g, .send x, s.created⟩) =
      (Ticket.line rt cfg dump ⟨g, .send x, s.created⟩).take count) :
    ∃ t w', (senders rt cfg dump).exec s (alone g x count (w.writes.headD .complete)) = some t ∧
      x.perform rt cfg th w = .ok () w' ∧ t.state = w'.state ∧ t.created = w'.created ∧
      t.log = s.log ++ [(⟨g, .send x, s.created⟩, w.writes.headD .complete)] ∧
      written w'.trace = written w.trace ++
        [(Ticket.envelope rt cfg ⟨g, .send x, s.created⟩, w.writes.headD .complete)] ∧
      t.wire = s.wire ++ (Ticket.line rt cfg dump ⟨g, .send x, s.created⟩).take count := by
  obtain ⟨w', hperform, hsent⟩ := perform_sent rt cfg th x w
  let ticket : Ticket γ := ⟨g, .send x, s.created⟩
  let locked : Joint γ := { s.start g (.send x) with holder := some g }.goOn g
    { ticket := ticket, stage := .made } (.writing 0)
  have hlocked : (senders rt cfg dump).exec s [.enter g (.send x), .lock g] = some locked := by
    have henter : (senders rt cfg dump).step s (.enter g (.send x)) =
        some (s.start g (.send x)) := by
      simp only [senders, Move.thread, hcalls]
    have hstart : (s.start g (.send x)).calls g = some { ticket := ticket, stage := .made } :=
      Function.update_self _ _ _
    have hlock : (senders rt cfg dump).step (s.start g (.send x)) (.lock g) = some locked := by
      have hfree : (s.start g (.send x)).holder.isNone = true := by
        rw [Option.isNone_iff_eq_none]
        exact hholder
      simp only [senders, Move.thread, hstart, Joint.advance, hfree]
      rfl
    rw [System.exec, henter, Option.bind_some, System.exec, hlock]
    rfl
  obtain ⟨u, hputs, hcall, hwire, hstate', hcreated', hlog⟩ :=
    @exec_puts γ _ rt cfg dump locked g ticket 0 count (Function.update_self _ _ _)
      (by simpa using hcount)
  rw [Nat.zero_add] at hcall
  obtain ⟨t, hreturn, hwire', hstate'', hcreated'', hlog'⟩ := exec_return hcall htaken
  refine ⟨t, w', ?_, hperform, ?_, ?_, ?_, ?_, ?_⟩
  · rw [alone, System.exec_append, System.exec_append, hlocked, Option.bind_some, hputs,
      Option.bind_some, hreturn]
  · rw [hstate'', hsent.state, hstate', hstate]
    rfl
  · rw [hcreated'', hcreated', hsent.created, hcreated]
    rfl
  · rw [hlog', hlog]
    rfl
  · rw [hsent.line, hcreated]
    rfl
  · rw [hwire', hwire, List.drop_zero]
    rfl

end Alone

end AegisSdk.Cpp
