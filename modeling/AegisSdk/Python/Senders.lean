import AegisSdk.Library.Interleaving
import AegisSdk.Python.Course
import Mathlib.Logic.Function.Basic

/-!
`send_state_update` and the other senders as any number of tasks of one event loop call them on
a connection. A task keeps the loop until it is suspended at an `await`: while it waits for
`_send_lock`, while the transport drains, or outside of the senders. The lock is exclusive, and
neither its release nor what follows it suspends the task.
-/

set_option autoImplicit false
set_option relaxedAutoImplicit false

namespace AegisSdk.Python

open AegisSdk.Protocol AegisSdk.Library

inductive Call where
  | sendStateUpdate (newState : ComponentState) (message : Option String)
    (uptimeSeconds : Option Int)
  | sendError (code message : String) (recoverable : Bool)
  | sendAck (correlationId : Json)
  /-- the answer to a PING -/
  | sendPong (correlationId : Json)

inductive Phase where
  /-- the envelope is made, and the lock is awaited -/
  | acquiring
  /-- the lock is taken -/
  | holding
  /-- the line is written, and `drain` is awaited -/
  | draining
  /-- the lock is released -/
  | sent
  deriving DecidableEq

structure Sending where
  call : Call
  envelope : Json
  phase : Phase

/-- The component as the tasks `τ` share it on one connection. -/
structure Shared (τ : Type) where
  state : ComponentState
  /-- the task that has the event loop -/
  running : Option τ := none
  /-- the holder of `_send_lock` -/
  holder : Option τ := none
  sends : τ → Option Sending := fun _ => none
  /-- the envelopes written on the connection -/
  lines : List Json
  /-- the bytes that the transport keeps -/
  buffer : List UInt8
  /-- the bytes that it has passed on -/
  wire : List UInt8
  /-- envelopes created so far -/
  created : Nat

/-- Except for the first and the last one these are steps of the task that has the loop. -/
inductive TaskAction (τ : Type) where
  /-- the event loop goes on with a task -/
  | resume (task : τ)
  | suspend
  | enter (call : Call)
  | acquire
  | write
  /-- `drain` returns, and the `async with` is left -/
  | release
  /-- the rest of the call -/
  | finish
  /-- the transport passes bytes on -/
  | flush (count : Nat)

section Calls

variable (rt : Runtime) (cfg : Config)

def statePayload (newState : ComponentState) (message : Option String)
    (uptimeSeconds : Option Int) : Json :=
  let payload := [("state", .str newState.value)]
  let payload := match message with
    | some text => if text.isEmpty then payload else payload ++ [("message", .str text)]
    | none => payload
  let payload := match uptimeSeconds with
    | some secs => payload ++ [("uptime_seconds", .num (toString secs))]
    | none => payload
  .obj payload

/-- The envelope of a call, made while the component is in a state. -/
def Call.envelope (state : ComponentState) (created : Nat) : Call → Json
  | .sendStateUpdate newState message uptimeSeconds =>
    newEnvelope (rt.stamp created) .lifecycle .stateUpdate (source cfg)
      (statePayload newState message uptimeSeconds) .null
  | .sendError code message recoverable =>
    newEnvelope (rt.stamp created) .error .runtimeError (source cfg)
      (.obj [("code", .str code), ("message", .str message), ("recoverable", .bool recoverable)])
      .null
  | .sendAck correlationId =>
    newEnvelope (rt.stamp created) .control .ack (source cfg) (.obj [("status", .str "ok")])
      correlationId
  | .sendPong correlationId =>
    newEnvelope (rt.stamp created) .heartbeat .pong (source cfg) (.obj [
      ("state", .str state.value), ("uptime_seconds", .num (toString (rt.uptime created)))])
      correlationId

def Call.update : Call → Option ComponentState
  | .sendStateUpdate newState _ _ => some newState
  | _ => none

end Calls

def Phase.awaits : Phase → Bool
  | .acquiring => true
  | .draining => true
  | _ => false

def Phase.written : Phase → Bool
  | .draining => true
  | .sent => true
  | _ => false

section Senders

variable {τ : Type} [DecidableEq τ] (rt : Runtime) (cfg : Config) (dumps : Json → List UInt8)

def lineOf (envelope : Json) : List UInt8 := dumps envelope ++ [10]

namespace Shared

variable (s : Shared τ)

def setSend (task : τ) (sending : Option Sending) : Shared τ :=
  { s with sends := Function.update s.sends task sending }

def setPhase (task : τ) (sending : Sending) (phase : Phase) : Shared τ :=
  s.setSend task (some { sending with phase := phase })

@[simp] theorem setSend_self (task : τ) (sending : Option Sending) :
    (s.setSend task sending).sends task = sending :=
  Function.update_self _ _ _

theorem setSend_of_ne {task task' : τ} (h : task' ≠ task) (sending : Option Sending) :
    (s.setSend task sending).sends task' = s.sends task' :=
  Function.update_of_ne h _ _

def advance (task : τ) (sending : Sending) : TaskAction τ → Option (Shared τ)
  | .acquire =>
    if sending.phase = .acquiring ∧ s.holder.isNone then
      some ({ s with holder := some task }.setPhase task sending .holding)
    else none
  | .write =>
    if sending.phase = .holding then
      some ({ s with
        lines := s.lines ++ [sending.envelope]
        buffer := s.buffer ++ lineOf dumps sending.envelope }.setPhase task sending .draining)
    else none
  | .release =>
    if sending.phase = .draining then
      some ({ s with holder := none }.setPhase task sending .sent)
    else none
  | .finish =>
    if sending.phase = .sent then
      some ({ s with state := sending.call.update.getD s.state }.setSend task none)
    else none
  | _ => none

end Shared

def tasks : System (Shared τ) (TaskAction τ) where
  step s a :=
    match a, s.running with
    | .flush count, _ =>
      some { s with wire := s.wire ++ s.buffer.take count, buffer := s.buffer.drop count }
    | .resume task, none => some { s with running := some task }
    | .resume _, some _ => none
    | _, none => none
    | .suspend, some task =>
      if (s.sends task).all (Phase.awaits ∘ Sending.phase) then some { s with running := none }
      else none
    | .enter call, some task =>
      if (s.sends task).isNone then
        some ({ s with created := s.created + 1 }.setSend task (some
          { call := call, envelope := call.envelope rt cfg s.state s.created,
            phase := .acquiring }))
      else none
    | a, some task => (s.sends task).bind fun sending => s.advance dumps task sending a

inductive TaskStep : Shared τ → TaskAction τ → Shared τ → Prop
  | resume {s : Shared τ} (task : τ) : s.running = none →
      TaskStep s (.resume task) { s with running := some task }
  | suspend {s : Shared τ} {task : τ} : s.running = some task →
      (∀ sending, s.sends task = some sending → sending.phase.awaits = true) →
      TaskStep s .suspend { s with running := none }
  | enter {s : Shared τ} {task : τ} (call : Call) : s.running = some task → s.sends task = none →
      TaskStep s (.enter call) ({ s with created := s.created + 1 }.setSend task (some
        { call := call, envelope := call.envelope rt cfg s.state s.created, phase := .acquiring }))
  | acquire {s : Shared τ} {task : τ} {sending : Sending} : s.running = some task →
      s.sends task = some sending → sending.phase = .acquiring → s.holder = none →
      TaskStep s .acquire ({ s with holder := some task }.setPhase task sending .holding)
  | write {s : Shared τ} {task : τ} {sending : Sending} : s.running = some task →
      s.sends task = some sending → sending.phase = .holding →
      TaskStep s .write ({ s with
        lines := s.lines ++ [sending.envelope]
        buffer := s.buffer ++ lineOf dumps sending.envelope }.setPhase task sending .draining)
  | release {s : Shared τ} {task : τ} {sending : Sending} : s.running = some task →
      s.sends task = some sending → sending.phase = .draining →
      TaskStep s .release ({ s with holder := none }.setPhase task sending .sent)
  | finish {s : Shared τ} {task : τ} {sending : Sending} : s.running = some task →
      s.sends task = some sending → sending.phase = .sent →
      TaskStep s .finish
        ({ s with state := sending.call.update.getD s.state }.setSend task none)
  | flush {s : Shared τ} (count : Nat) : TaskStep s (.flush count)
      { s with wire := s.wire ++ s.buffer.take count, buffer := s.buffer.drop count }

theorem advance_step {s t : Shared τ} {a : TaskAction τ} {task : τ} {sending : Sending}
    (hrunning : s.running = some task) (hsending : s.sends task = some sending)
    (h : s.advance dumps task sending a = some t) : TaskStep rt cfg dumps s a t := by
  cases a with
  | acquire =>
    simp only [Shared.advance, Option.ite_none_right_eq_some, Option.some.injEq] at h
    obtain ⟨⟨hphase, hholder⟩, rfl⟩ := h
    exact .acquire hrunning hsending hphase (Option.isNone_iff_eq_none.mp hholder)
  | write =>
    simp only [Shared.advance, Option.ite_none_right_eq_some, Option.some.injEq] at h
    obtain ⟨hphase, rfl⟩ := h
    exact .write hrunning hsending hphase
  | release =>
    simp only [Shared.advance, Option.ite_none_right_eq_some, Option.some.injEq] at h
    obtain ⟨hphase, rfl⟩ := h
    exact .release hrunning hsending hphase
  | finish =>
    simp only [Shared.advance, Option.ite_none_right_eq_some, Option.some.injEq] at h
    obtain ⟨hphase, rfl⟩ := h
    exact .finish hrunning hsending hphase
  | resume _ => exact nomatch h
  | suspend => exact nomatch h
  | enter _ => exact nomatch h
  | flush _ => exact nomatch h

theorem tasks_step {s t : Shared τ} {a : TaskAction τ}
    (h : (tasks rt cfg dumps).step s a = some t) : TaskStep rt cfg dumps s a t := by
  cases hrunning : s.running with
  | none =>
    cases a with
    | flush count =>
      obtain rfl := Option.some.inj h
      exact .flush count
    | resume task =>
      simp only [tasks, hrunning, Option.some.injEq] at h
      obtain rfl := h
      exact .resume task hrunning
    | _ => simp [tasks, hrunning] at h
  | some task =>
    have advanced (h : ((s.sends task).bind fun sending => s.advance dumps task sending a) =
        some t) : TaskStep rt cfg dumps s a t := by
      obtain ⟨sending, hsending, hadvance⟩ := Option.bind_eq_some_iff.mp h
      exact advance_step rt cfg dumps hrunning hsending hadvance
    cases a with
    | flush count =>
      obtain rfl := Option.some.inj h
      exact .flush count
    | resume task => simp [tasks, hrunning] at h
    | suspend =>
      simp only [tasks, hrunning, Option.ite_none_right_eq_some, Option.some.injEq] at h
      obtain ⟨hawaits, rfl⟩ := h
      refine .suspend hrunning ?_
      intro sending hsending
      rw [hsending] at hawaits
      exact hawaits
    | enter call =>
      simp only [tasks, hrunning, Option.ite_none_right_eq_some, Option.some.injEq] at h
      obtain ⟨hidle, rfl⟩ := h
      have entered : TaskStep rt cfg dumps s _ _ :=
        .enter call hrunning (Option.isNone_iff_eq_none.mp hidle)
      rw [hrunning] at entered
      exact entered
    | acquire =>
      simp only [tasks, hrunning] at h
      exact advanced h
    | write =>
      simp only [tasks, hrunning] at h
      exact advanced h
    | release =>
      simp only [tasks, hrunning] at h
      exact advanced h
    | finish =>
      simp only [tasks, hrunning] at h
      exact advanced h

end Senders

def Json.member (value : Json) (key : String) : Option Json := (dictItem value key).toOption

def isStateUpdate (line : Json) : Bool := keyIs line "command" Command.stateUpdate.value

def carried (line : Json) : Option String :=
  ((Json.member line "payload").bind fun payload => Json.member payload "state").bind Json.asStr

def lastUpdate (lines : List Json) : Option Json := (lines.filter isStateUpdate).getLast?

def Reports (lines : List Json) (s : ComponentState) : Prop :=
  ∃ line, lastUpdate lines = some line ∧ carried line = some s.value

section Lines

variable {rt : Runtime} {cfg : Config} {lines : List Json} {line : Json} {s : ComponentState}

theorem lastUpdate_concat (h : isStateUpdate line = true) :
    lastUpdate (lines ++ [line]) = some line := by
  rw [lastUpdate, List.filter_append, List.filter_singleton, h]
  exact List.getLast?_concat

theorem lastUpdate_concat_other (h : isStateUpdate line = false) :
    lastUpdate (lines ++ [line]) = lastUpdate lines := by
  rw [lastUpdate, List.filter_append, List.filter_singleton, h, lastUpdate]
  exact congrArg List.getLast? (List.append_nil _)

theorem carried_statePayload (stamp : Stamp) (message : Option String) (uptimeSeconds : Option Int)
    (id : Json) : carried (newEnvelope stamp .lifecycle .stateUpdate (source cfg)
      (statePayload s message uptimeSeconds) id) = some s.value := by
  have hstate : Json.member (statePayload s message uptimeSeconds) "state" =
      some (.str s.value) := by
    cases message with
    | none => cases uptimeSeconds <;> rfl
    | some text =>
      by_cases hempty : text.isEmpty = true
      · cases uptimeSeconds <;>
          simp [statePayload, hempty, Json.member, dictItem, Payload.get, Except.toOption]
      · cases uptimeSeconds <;>
          simp [statePayload, hempty, Json.member, dictItem, Payload.get, Except.toOption]
  exact congrArg (Option.bind · Json.asStr) hstate

theorem isStateUpdate_envelope (call : Call) (st : ComponentState) (n : Nat) :
    isStateUpdate (call.envelope rt cfg st n) = call.update.isSome := by
  cases call <;> rfl

theorem carried_envelope {call : Call} (h : call.update = some s) (st : ComponentState) (n : Nat) :
    carried (call.envelope rt cfg st n) = some s.value := by
  cases call with
  | sendStateUpdate newState message uptimeSeconds =>
    obtain rfl := Option.some.inj h
    exact carried_statePayload _ _ _ _
  | _ => cases h

end Lines

namespace Shared

variable {τ : Type}

def Placed (s : Shared τ) (task : τ) (sending : Sending) : Prop :=
  match sending.phase with
  | .acquiring => True
  | .holding => s.holder = some task ∧ s.running = some task
  | .draining => s.holder = some task
  | .sent => s.holder = none ∧ s.running = some task

structure Sound (rt : Runtime) (cfg : Config) (s : Shared τ) : Prop where
  made : ∀ task sending, s.sends task = some sending →
    ∃ st n, sending.envelope = sending.call.envelope rt cfg st n
  placed : ∀ task sending, s.sends task = some sending → s.Placed task sending

def Wrote (s : Shared τ) (task : τ) (call : Call) : Prop :=
  ∃ sending, s.sends task = some sending ∧ sending.phase.written = true ∧ sending.call = call

/-- The state that the last STATE_UPDATE line reports is the one that its task will assign, or if
that has been done the present one. -/
structure Told (s : Shared τ) : Prop where
  late : ∀ task call st, s.Wrote task call → call.update = some st → Reports s.lines st
  settled : (∀ task call, s.Wrote task call → call.update = none) → Reports s.lines s.state

def Quiet (s : Shared τ) : Prop :=
  ∀ task sending, s.sends task = some sending → sending.call.update = none

/-- While no task is in `send_state_update`, the last STATE_UPDATE line reports the state. -/
def Agrees (s : Shared τ) : Prop := s.Quiet → Reports s.lines s.state

/-- What the transport has got is the lines, each in one piece. -/
def Passed (dumps : Json → List UInt8) (s : Shared τ) : Prop :=
  s.wire ++ s.buffer = s.lines.flatMap (lineOf dumps)

end Shared

section Steps

variable {τ : Type} {rt : Runtime} {cfg : Config} {dumps : Json → List UInt8}
  {s t : Shared τ} {a : TaskAction τ} {task : τ} {sending : Sending}

theorem placed_acquiring (h : sending.phase = .acquiring) : s.Placed task sending := by
  rw [Shared.Placed, h]
  trivial

theorem Shared.Placed.of_running (h : s.Placed task sending) (hholder : t.holder = s.holder)
    (hrunning : sending.phase.awaits = false → s.running = some task → t.running = some task) :
    t.Placed task sending := by
  unfold Shared.Placed at h ⊢
  cases hphase : sending.phase with
  | acquiring => trivial
  | draining =>
    rw [hphase] at h
    exact hholder.trans h
  | holding =>
    rw [hphase] at h hrunning
    exact ⟨hholder.trans h.1, hrunning rfl h.2⟩
  | sent =>
    rw [hphase] at h hrunning
    exact ⟨hholder.trans h.1, hrunning rfl h.2⟩

theorem Shared.Sound.alone (hs : s.Sound rt cfg) (hrunning : s.running = some task)
    (hsending : s.sends task = some sending) (hphase : sending.phase ≠ .acquiring)
    {task' : τ} {sending' : Sending} (hsending' : s.sends task' = some sending')
    (hphase' : sending'.phase ≠ .acquiring) : task' = task := by
  have hplaced := hs.placed task sending hsending
  have hplaced' := hs.placed task' sending' hsending'
  have same {holder : Option τ} (h : holder = some task) (h' : holder = some task') :
      task' = task := Option.some.inj (h'.symm.trans h)
  unfold Shared.Placed at hplaced hplaced'
  cases hp' : sending'.phase with
  | acquiring => exact absurd hp' hphase'
  | holding =>
    rw [hp'] at hplaced'
    exact same hrunning hplaced'.2
  | sent =>
    rw [hp'] at hplaced'
    exact same hrunning hplaced'.2
  | draining =>
    rw [hp'] at hplaced'
    cases hp : sending.phase with
    | acquiring => exact absurd hp hphase
    | holding =>
      rw [hp] at hplaced
      exact same hplaced.1 hplaced'
    | draining =>
      rw [hp] at hplaced
      exact same hplaced hplaced'
    | sent =>
      rw [hp] at hplaced
      exact absurd (hplaced.1.symm.trans hplaced') (by simp)

theorem Shared.Sound.others (hs : s.Sound rt cfg) (hrunning : s.running = some task)
    (hsending : s.sends task = some sending) (hphase : sending.phase ≠ .acquiring) {task' : τ}
    {call : Call} (hwrote : s.Wrote task' call) : task' = task := by
  obtain ⟨sending', hsending', hwritten, -⟩ := hwrote
  refine hs.alone hrunning hsending hphase hsending' ?_
  rintro hacquiring
  rw [hacquiring] at hwritten
  cases hwritten

theorem Shared.Told.of_wrote (htold : s.Told) (hlines : t.lines = s.lines)
    (hstate : t.state = s.state) (hwrote : ∀ task call, t.Wrote task call ↔ s.Wrote task call) :
    t.Told := by
  obtain ⟨late, settled⟩ := htold
  refine ⟨?_, ?_⟩
  · intro task call st h hupdate
    rw [hlines]
    exact late task call st ((hwrote task call).mp h) hupdate
  · intro hnone
    rw [hlines, hstate]
    exact settled fun task call h => hnone task call ((hwrote task call).mpr h)

variable [DecidableEq τ]

theorem forall_setSend {changed : Option Sending} {P : τ → Sending → Prop}
    (hself : ∀ sending, changed = some sending → P task sending)
    (hothers : ∀ task' ≠ task, ∀ sending, s.sends task' = some sending → P task' sending) :
    ∀ task' sending, (s.setSend task changed).sends task' = some sending → P task' sending := by
  intro task' sending h
  by_cases heq : task' = task
  · subst heq
    rw [Shared.setSend_self] at h
    exact hself sending h
  · rw [Shared.setSend_of_ne _ heq] at h
    exact hothers task' heq sending h

theorem sound_step (h : TaskStep rt cfg dumps s a t) (hs : s.Sound rt cfg) : t.Sound rt cfg := by
  obtain ⟨made, placed⟩ := id hs
  cases h with
  | resume task hrunning =>
    refine ⟨made, ?_⟩
    intro task' sending hsending
    refine (placed task' sending hsending).of_running rfl ?_
    intro _ hrunning'
    exact absurd (hrunning.symm.trans hrunning') (by simp)
  | @suspend task hrunning hawaits =>
    refine ⟨made, ?_⟩
    intro task' sending hsending
    refine (placed task' sending hsending).of_running rfl ?_
    intro hbusy hrunning'
    obtain rfl := Option.some.inj (hrunning.symm.trans hrunning')
    exact absurd (hawaits sending hsending) (by simp [hbusy])
  | @enter task call hrunning hidle =>
    refine ⟨forall_setSend ?_ ?_, forall_setSend ?_ ?_⟩
    · rintro sending ⟨⟩
      exact ⟨_, _, rfl⟩
    · exact fun task' _ => made task'
    · rintro sending ⟨⟩
      exact placed_acquiring rfl
    · exact fun task' _ => placed task'
  | @acquire task sending hrunning hsending hphase hholder =>
    refine ⟨forall_setSend ?_ ?_, forall_setSend ?_ ?_⟩
    · rintro sending' ⟨⟩
      exact made task sending hsending
    · exact fun task' _ => made task'
    · rintro sending' ⟨⟩
      exact ⟨rfl, hrunning⟩
    · intro task' hne sending' hsending'
      have hplaced := placed task' sending' hsending'
      unfold Shared.Placed at hplaced ⊢
      cases hphase' : sending'.phase with
      | acquiring => trivial
      | holding =>
        rw [hphase'] at hplaced
        exact absurd (hholder.symm.trans hplaced.1) (by simp)
      | draining =>
        rw [hphase'] at hplaced
        exact absurd (hholder.symm.trans hplaced) (by simp)
      | sent =>
        rw [hphase'] at hplaced
        exact absurd (Option.some.inj (hplaced.2.symm.trans hrunning)) hne
  | @write task sending hrunning hsending hphase =>
    have hplaced := placed task sending hsending
    refine ⟨forall_setSend ?_ ?_, forall_setSend ?_ ?_⟩
    · rintro sending' ⟨⟩
      exact made task sending hsending
    · exact fun task' _ => made task'
    · rintro sending' ⟨⟩
      rw [Shared.Placed, hphase] at hplaced
      exact hplaced.1
    · exact fun task' _ => placed task'
  | @release task sending hrunning hsending hphase =>
    refine ⟨forall_setSend ?_ ?_, forall_setSend ?_ ?_⟩
    · rintro sending' ⟨⟩
      exact made task sending hsending
    · exact fun task' _ => made task'
    · rintro sending' ⟨⟩
      exact ⟨rfl, hrunning⟩
    · intro task' hne sending' hsending'
      by_cases hphase' : sending'.phase = .acquiring
      · exact placed_acquiring hphase'
      · exact absurd (hs.alone hrunning hsending (by simp [hphase]) hsending' hphase') hne
  | @finish task sending hrunning hsending hphase =>
    refine ⟨forall_setSend nofun ?_, forall_setSend nofun ?_⟩
    · exact fun task' _ => made task'
    · exact fun task' _ => placed task'
  | flush count => exact ⟨made, placed⟩

theorem wrote_setSend {s' : Shared τ} (hsends : s'.sends = s.sends) {changed : Option Sending}
    (hself : ∀ call, (∃ sending, changed = some sending ∧ sending.phase.written = true ∧
      sending.call = call) ↔ s.Wrote task call) (task' : τ) (call : Call) :
    (s'.setSend task changed).Wrote task' call ↔ s.Wrote task' call := by
  by_cases heq : task' = task
  · subst heq
    rw [← hself call, Shared.Wrote, Shared.setSend_self]
  · rw [Shared.Wrote, Shared.setSend_of_ne _ heq, hsends, Shared.Wrote]

theorem wrote_setPhase {s' : Shared τ} (hsends : s'.sends = s.sends)
    (hsending : s.sends task = some sending) {phase : Phase}
    (hphase : phase.written = sending.phase.written) (task' : τ) (call : Call) :
    (s'.setPhase task sending phase).Wrote task' call ↔ s.Wrote task' call := by
  refine wrote_setSend hsends ?_ task' call
  intro call
  constructor
  · rintro ⟨sending', ⟨⟩, hwritten, hcall⟩
    exact ⟨sending, hsending, hphase.symm.trans hwritten, hcall⟩
  · rintro ⟨sending', hsending', hwritten, hcall⟩
    obtain rfl := Option.some.inj (hsending.symm.trans hsending')
    exact ⟨_, rfl, hphase.trans hwritten, hcall⟩

theorem told_step (h : TaskStep rt cfg dumps s a t) (hs : s.Sound rt cfg) (htold : s.Told) :
    t.Told := by
  cases h with
  | resume task hrunning => exact htold.of_wrote rfl rfl fun _ _ => Iff.rfl
  | suspend hrunning hawaits => exact htold.of_wrote rfl rfl fun _ _ => Iff.rfl
  | flush count => exact htold.of_wrote rfl rfl fun _ _ => Iff.rfl
  | @enter task call hrunning hidle =>
    refine htold.of_wrote rfl rfl (wrote_setSend rfl ?_)
    intro call
    constructor
    · rintro ⟨sending, ⟨⟩, hwritten, -⟩
      exact absurd hwritten Bool.false_ne_true
    · rintro ⟨sending, hsending, -, -⟩
      rw [hidle] at hsending
      cases hsending
  | acquire hrunning hsending hphase hholder =>
    exact htold.of_wrote rfl rfl (wrote_setPhase rfl hsending (by rw [hphase]; rfl))
  | release hrunning hsending hphase =>
    exact htold.of_wrote rfl rfl (wrote_setPhase rfl hsending (by rw [hphase]; rfl))
  | @write task sending hrunning hsending hphase =>
    obtain ⟨st, n, henvelope⟩ := hs.made task sending hsending
    have hbusy : sending.phase ≠ .acquiring := by simp [hphase]
    -- the lock keeps every other task from having written
    have only {task' : τ} {call : Call} (hwrote : s.Wrote task' call) : False := by
      obtain rfl := hs.others hrunning hsending hbusy hwrote
      obtain ⟨sending', hsending', hwritten, -⟩ := hwrote
      obtain rfl := Option.some.inj (hsending.symm.trans hsending')
      rw [hphase] at hwritten
      cases hwritten
    have settled : Reports s.lines s.state := htold.settled fun _ _ hwrote => (only hwrote).elim
    refine ⟨?_, ?_⟩
    · rintro task' call st' hwrote hupdate
      by_cases heq : task' = task
      · subst heq
        obtain ⟨sending', hsending', -, rfl⟩ := hwrote
        rw [Shared.setPhase, Shared.setSend_self] at hsending'
        cases hsending'
        refine ⟨sending.envelope, lastUpdate_concat ?_, ?_⟩
        · rw [henvelope, isStateUpdate_envelope]
          exact Option.isSome_of_eq_some hupdate
        · rw [henvelope]
          exact carried_envelope hupdate st n
      · rw [Shared.Wrote, Shared.setPhase, Shared.setSend_of_ne _ heq] at hwrote
        exact (only hwrote).elim
    · intro hnone
      have hupdate : sending.call.update = none := by
        refine hnone task sending.call ⟨{ sending with phase := .draining }, ?_, rfl, rfl⟩
        rw [Shared.setPhase, Shared.setSend_self]
      obtain ⟨line, hlast, hcarried⟩ := settled
      refine ⟨line, ?_, hcarried⟩
      refine (lastUpdate_concat_other ?_).trans hlast
      rw [henvelope, isStateUpdate_envelope, hupdate]
      rfl
  | @finish task sending hrunning hsending hphase =>
    have hbusy : sending.phase ≠ .acquiring := by simp [hphase]
    have hwrote : s.Wrote task sending.call := ⟨sending, hsending, by rw [hphase]; rfl, rfl⟩
    -- its own line is the last one, and no other is waiting for its state to be assigned
    have none_left {task' : τ} {call : Call} (h : Shared.Wrote ({ s with
        state := sending.call.update.getD s.state }.setSend task none) task' call) : False := by
      obtain ⟨sending', hsending', hwritten, hcall⟩ := h
      by_cases heq : task' = task
      · subst heq
        rw [Shared.setSend_self] at hsending'
        cases hsending'
      · rw [Shared.setSend_of_ne _ heq] at hsending'
        exact heq (hs.others hrunning hsending hbusy ⟨sending', hsending', hwritten, hcall⟩)
    refine ⟨fun _ _ _ h => (none_left h).elim, ?_⟩
    intro _
    cases hupdate : sending.call.update with
    | some st => exact htold.late task sending.call st hwrote hupdate
    | none =>
      refine htold.settled ?_
      intro task' call hwrote'
      obtain rfl := hs.others hrunning hsending hbusy hwrote'
      obtain ⟨sending', hsending', -, rfl⟩ := hwrote'
      obtain rfl := Option.some.inj (hsending.symm.trans hsending')
      exact hupdate

theorem passed_step (h : TaskStep rt cfg dumps s a t) (hpassed : s.Passed dumps) :
    t.Passed dumps := by
  have hsame : s.wire ++ s.buffer = s.lines.flatMap (lineOf dumps) := hpassed
  cases h with
  | @write task sending _ _ _ =>
    show s.wire ++ (s.buffer ++ _) = (s.lines ++ [sending.envelope]).flatMap (lineOf dumps)
    rw [List.flatMap_append, ← hsame, List.append_assoc, List.flatMap_singleton]
  | flush count =>
    show s.wire ++ s.buffer.take count ++ s.buffer.drop count = _
    rw [List.append_assoc, List.take_append_drop]
    exact hsame
  | _ => exact hsame

end Steps

def Event.written : Event → Option Json
  | .write envelope true => some envelope
  | _ => none

def written (es : List Event) : List Json := es.filterMap Event.written

section One

variable {rt : Runtime} {cfg : Config} {dumps : Json → List UInt8} {st : ComponentState}

theorem sendStateUpdate_written {w w' : World} (h : sendStateUpdate rt cfg st w = .ok () w') :
    w'.state = st ∧ w'.created = w.created + 1 ∧ written w'.trace = written w.trace ++
      [(Call.sendStateUpdate st none none).envelope rt cfg w.state w.created] := by
  let envelope := (Call.sendStateUpdate st none none).envelope rt cfg w.state w.created
  let w₁ : World := { w with created := w.created + 1 }
  have hcreate : create rt cfg .lifecycle .stateUpdate (.obj [("state", .str st.value)]) .null w =
      .ok envelope w₁ := rfl
  have hsends : (send envelope >>= fun _ => setState st) w₁ = .ok () w' :=
    (bind_ok hcreate).symm.trans h
  obtain ⟨w₂, hw₂, ⟨hok, hnext⟩ | ⟨herr, -⟩⟩ := send_cases envelope w₁
  · rw [bind_ok hok] at hsends
    obtain rfl : { w₂.record (.state st) with state := st } = w' := by
      cases hsends
      rfl
    rw [hnext] at hw₂
    subst hw₂
    refine ⟨rfl, rfl, ?_⟩
    show written (w.trace ++ [.write envelope true] ++ [.state st]) = _
    rw [written, List.filterMap_append, List.filterMap_append, List.append_assoc]
    rfl
  · rw [bind_error herr] at hsends
    cases hsends

theorem signalReady_written {read : Read} {w w' : World}
    (h : signalReady rt cfg read w = .ok () w') : w'.state = .ready ∧
      ∃ before st n, w'.created = n + 1 ∧ written w'.trace = before ++
        [(Call.sendStateUpdate .ready none none).envelope rt cfg st n] := by
  obtain ⟨_, w₁, -, h₁⟩ := bind_eq_ok.mp h
  obtain ⟨ack, w₂, -, h₂⟩ := bind_eq_ok.mp h₁
  obtain ⟨_, w₃, -, h₃⟩ := bind_eq_ok.mp h₂
  obtain ⟨hstate, hcreated, hwritten⟩ := sendStateUpdate_written h₃
  exact ⟨hstate, written w₃.trace, w₃.state, w₃.created, hcreated, hwritten⟩

def uninterrupted {τ : Type} (task : τ) (call : Call) : List (TaskAction τ) :=
  [.resume task, .enter call, .acquire, .write, .release, .finish]

/-- A task that is alone does what `send_state_update` does in the model of one task. -/
theorem uninterrupted_sendStateUpdate {τ : Type} [DecidableEq τ] {s : Shared τ} {task : τ}
    (hrunning : s.running = none) (hholder : s.holder = none) (hidle : s.sends task = none)
    {w w' : World} (hstate : w.state = s.state) (hcreated : w.created = s.created)
    (h : sendStateUpdate rt cfg st w = .ok () w') :
    ∃ t, (tasks rt cfg dumps).exec s (uninterrupted task (.sendStateUpdate st none none)) = some t ∧
      t.state = w'.state ∧ t.created = w'.created ∧
      ∃ line, t.lines = s.lines ++ [line] ∧ written w'.trace = written w.trace ++ [line] := by
  obtain ⟨hstate', hcreated', hwritten⟩ := sendStateUpdate_written h
  let line := (Call.sendStateUpdate st none none).envelope rt cfg s.state s.created
  have hexec : (tasks rt cfg dumps).exec s (uninterrupted task (.sendStateUpdate st none none)) =
      some { s with
        state := st
        running := some task
        holder := none
        sends := Function.update s.sends task none
        lines := s.lines ++ [line]
        buffer := s.buffer ++ lineOf dumps line
        created := s.created + 1 } := by
    simp [uninterrupted, System.exec, tasks, Shared.advance, Shared.setPhase, Shared.setSend,
      hrunning, hholder, hidle, Call.update, line]
  rw [hstate, hcreated] at hwritten
  exact ⟨_, hexec, hstate'.symm, by rw [hcreated', hcreated], line, rfl, hwritten⟩

end One

/-- After `_signal_ready`: no call is in progress and the last line written is that of READY. The
transport may still keep a part of the lines. -/
def Shared.ready {τ : Type} (rt : Runtime) (cfg : Config) (dumps : Json → List UInt8)
    (before : List Json) (number flushed : Nat) : Shared τ :=
  let lines := before ++
    [(Call.sendStateUpdate .ready none none).envelope rt cfg .initializing number]
  { state := .ready
    lines := lines
    buffer := (lines.flatMap (lineOf dumps)).drop flushed
    wire := (lines.flatMap (lineOf dumps)).take flushed
    created := number + 1 }

section Runs

variable {τ : Type} (rt : Runtime) (cfg : Config) (dumps : Json → List UInt8)

theorem ready_sound (before : List Json) (number flushed : Nat) :
    (Shared.ready (τ := τ) rt cfg dumps before number flushed).Sound rt cfg := ⟨nofun, nofun⟩

theorem ready_told (before : List Json) (number flushed : Nat) :
    (Shared.ready (τ := τ) rt cfg dumps before number flushed).Told := by
  refine ⟨?_, ?_⟩
  · rintro task call st ⟨sending, ⟨⟩, -, -⟩
  · intro _
    refine ⟨_, lastUpdate_concat ?_, carried_envelope rfl _ _⟩
    rw [isStateUpdate_envelope]
    rfl

/-- In every interleaving of any number of tasks the state agrees with the last STATE_UPDATE line
whenever no task is in `send_state_update`, and what is on the wire is a first part of the lines,
one after the other. -/
theorem state_agrees_always [DecidableEq τ] (before : List Json) (number flushed : Nat)
    (run : List (TaskAction τ)) :
    (tasks rt cfg dumps).Always
      (fun s => s.Agrees ∧ s.wire <+: s.lines.flatMap (lineOf dumps))
      (.ready rt cfg dumps before number flushed) run := by
  have always : (tasks rt cfg dumps).Always
      (fun s => s.Sound rt cfg ∧ s.Told ∧ s.Passed dumps)
      (.ready rt cfg dumps before number flushed) run := by
    refine System.always_of_step ⟨ready_sound rt cfg dumps before number flushed,
      ready_told rt cfg dumps before number flushed, List.take_append_drop _ _⟩ ?_
    rintro s a t ⟨sound, told, passed⟩ hstep
    have step := tasks_step rt cfg dumps hstep
    exact ⟨sound_step step sound, told_step step sound told, passed_step step passed⟩
  refine always.imp ?_
  rintro s ⟨sound, told, passed⟩
  refine ⟨?_, ⟨s.buffer, passed⟩⟩
  intro hquiet
  refine told.settled ?_
  rintro task call ⟨sending, hsending, -, rfl⟩
  exact hquiet task sending hsending

end Runs

end AegisSdk.Python
