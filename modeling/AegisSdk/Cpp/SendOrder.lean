import AegisSdk.Cpp.Senders

/-!
Does `current_state()` agree with the connection while any number of threads send? The state is
stored when the mutex is free again, so the thread that stores last need not be the one that wrote
last. Of the states that were asked for since the last quiet moment it is one, though, and so is
the one told last.
-/

set_option autoImplicit false
set_option relaxedAutoImplicit false

namespace AegisSdk.Cpp

open AegisSdk.Protocol AegisSdk.Library

section Quiet

variable {γ : Type} [DecidableEq γ] {rt : Runtime} {cfg : Config} {dump : Json → List UInt8}
  {st : ComponentState} {s t u : Joint γ} {a : Move γ}

def Joint.Quiet (s : Joint γ) : Prop :=
  ∀ g call, s.calls g = some call → call.ticket.job.target = none

def reported (st : ComponentState) (log : List (Ticket γ × WriteResult)) : ComponentState :=
  log.foldl (fun st l => l.1.job.target.getD st) st

/-- What is known of the states after `s`, where `recent` are the jobs begun since then: either
every job with a state is still in progress, or one of them has been told, or stored. -/
structure Since (st : ComponentState) (s : Joint γ) (recent : List (Ticket γ)) (t : Joint γ) :
    Prop where
  begun : t.begun = s.begun ++ recent
  pending : ∀ g call, t.calls g = some call → call.ticket.job.target ≠ none →
    call.ticket ∈ recent ∧ call.ticket.thread = g
  stored : (t.state = s.state ∧ ∀ b ∈ recent, b.job.target ≠ none →
      ∃ call, t.calls b.thread = some call ∧ call.ticket = b) ∨
    ∃ b ∈ recent, b.job.target = some t.state
  told : (reported st t.log = reported st s.log ∧ ∀ b ∈ recent, b.job.target ≠ none →
      ∃ call, t.calls b.thread = some call ∧ call.ticket = b ∧ call.stage.logged = false) ∨
    ∃ b ∈ recent, b.job.target = some (reported st t.log)

omit [DecidableEq γ] in
theorem Joint.Quiet.since (hs : s.Quiet) : Since st s [] s where
  begun := (List.append_nil _).symm
  pending g call hcall htarget := absurd (hs g call hcall) htarget
  stored := .inl ⟨rfl, List.forall_mem_nil _⟩
  told := .inl ⟨rfl, List.forall_mem_nil _⟩

omit [DecidableEq γ] in
theorem reported_concat (log : List (Ticket γ × WriteResult)) (l : Ticket γ × WriteResult) :
    reported st (log ++ [l]) = l.1.job.target.getD (reported st log) := by
  rw [reported, List.foldl_append]
  rfl

theorem Since.goOn {recent : List (Ticket γ)} (hs : Since st s recent t) {g : γ} {call : Call γ}
    {stage : Stage} (hcall : t.calls g = some call) (hu : u.calls = t.calls)
    (hbegun : u.begun = t.begun) (hstate : u.state = t.state)
    (htold : reported st u.log = reported st t.log ∧
        (call.stage.logged = false → stage.logged = false ∨ call.ticket.job.target = none) ∨
      call.ticket.job.target = some (reported st u.log)) :
    Since st s recent (u.goOn g call stage) := by
  have hself : (u.goOn g call stage).calls g = some { call with stage := stage } :=
    Function.update_self _ _ _
  have same {g' : γ} {call' : Call γ} (h : t.calls g' = some call') :
      ∃ call'', (u.goOn g call stage).calls g' = some call'' ∧ call''.ticket = call'.ticket ∧
        (call''.stage = call'.stage ∨ call' = call ∧ call''.stage = stage) := by
    by_cases hg : g' = g
    · subst hg
      obtain rfl := Option.some.inj (hcall.symm.trans h)
      exact ⟨_, hself, rfl, .inr ⟨rfl, rfl⟩⟩
    · refine ⟨call', ?_, rfl, .inl rfl⟩
      exact (Function.update_of_ne hg _ _).trans ((congrFun hu g').trans h)
  refine ⟨hbegun.trans hs.begun, ?_, ?_, ?_⟩
  · intro g' call' h htarget
    by_cases hg : g' = g
    · subst hg
      obtain rfl := Option.some.inj (hself.symm.trans h)
      exact hs.pending g' call hcall htarget
    · have hold : t.calls g' = some call' :=
        (congrFun hu g').symm.trans ((Function.update_of_ne hg _ _).symm.trans h)
      exact hs.pending g' call' hold htarget
  · change (u.state = s.state ∧ _) ∨ ∃ b ∈ recent, b.job.target = some u.state
    rw [hstate]
    refine hs.stored.imp_left fun hstored => ⟨hstored.1, fun b hb htarget => ?_⟩
    obtain ⟨call', hold, rfl⟩ := hstored.2 b hb htarget
    obtain ⟨call'', hnew, hticket, -⟩ := same hold
    exact ⟨call'', hnew, hticket⟩
  · change (reported st u.log = reported st s.log ∧ _) ∨
      ∃ b ∈ recent, b.job.target = some (reported st u.log)
    rcases htold with ⟨hlog, hstage⟩ | htarget
    · rw [hlog]
      refine hs.told.imp_left fun htold => ⟨htold.1, fun b hb htarget => ?_⟩
      obtain ⟨call', hold, rfl, hlogged⟩ := htold.2 b hb htarget
      obtain ⟨call'', hnew, hticket, hsame | ⟨rfl, hstage'⟩⟩ := same hold
      · exact ⟨call'', hnew, hticket, hsame ▸ hlogged⟩
      · refine ⟨call'', hnew, hticket, ?_⟩
        rw [hstage']
        exact (hstage hlogged).resolve_right htarget
    · obtain ⟨hmem, -⟩ := hs.pending g call hcall (by simp [htarget])
      exact .inr ⟨call.ticket, hmem, htarget⟩

theorem Moves.since {recent : List (Ticket γ)} (h : Moves rt cfg dump t a u)
    (hs : Since st s recent t) : ∃ recent', Since st s recent' u := by
  cases h with
  | @enter g job hcall =>
    -- the thread had nothing in progress
    have kept {b : Ticket γ} {call : Call γ} (h : t.calls b.thread = some call) :
        (t.start g job).calls b.thread = some call := by
      have hne : b.thread ≠ g := by
        rintro rfl
        rw [hcall] at h
        cases h
      exact (Function.update_of_ne hne _ _).trans h
    have hself : (t.start g job).calls g =
        some { ticket := Ticket.mk g job t.created, stage := .made } := Function.update_self _ _ _
    refine ⟨recent ++ [Ticket.mk g job t.created], ?_, ?_, ?_, ?_⟩
    · change t.begun ++ [Ticket.mk g job t.created] = _
      rw [hs.begun, List.append_assoc]
    · intro g' call hnew htarget
      by_cases hg : g' = g
      · subst hg
        obtain rfl := Option.some.inj (hself.symm.trans hnew)
        exact ⟨List.mem_append_right _ (List.mem_singleton_self _), rfl⟩
      · have hold : t.calls g' = some call := (Function.update_of_ne hg _ _).symm.trans hnew
        obtain ⟨hmem, hthread⟩ := hs.pending g' call hold htarget
        exact ⟨List.mem_append_left _ hmem, hthread⟩
    · rcases hs.stored with ⟨hstate, hpending⟩ | ⟨b, hb, htarget⟩
      · refine .inl ⟨hstate, fun b hb htarget => ?_⟩
        rcases List.mem_append.mp hb with hb | hb
        · obtain ⟨call, hold, hticket⟩ := hpending b hb htarget
          exact ⟨call, kept hold, hticket⟩
        · obtain rfl := List.mem_singleton.mp hb
          exact ⟨_, hself, rfl⟩
      · exact .inr ⟨b, List.mem_append_left _ hb, htarget⟩
    · rcases hs.told with ⟨hlog, hpending⟩ | ⟨b, hb, htarget⟩
      · refine .inl ⟨hlog, fun b hb htarget => ?_⟩
        rcases List.mem_append.mp hb with hb | hb
        · obtain ⟨call, hold, hticket, hlogged⟩ := hpending b hb htarget
          exact ⟨call, kept hold, hticket, hlogged⟩
        · obtain rfl := List.mem_singleton.mp hb
          exact ⟨_, hself, rfl, rfl⟩
      · exact .inr ⟨b, List.mem_append_left _ hb, htarget⟩
  | lock hcall hstage hnone =>
    exact ⟨recent, hs.goOn hcall rfl rfl rfl (.inl ⟨rfl, fun _ => .inl rfl⟩)⟩
  | put hcall hstage hb =>
    exact ⟨recent, hs.goOn hcall rfl rfl rfl (.inl ⟨rfl, fun _ => .inl rfl⟩)⟩
  | @ret g call n result hcall hstage htaken =>
    have hlog : reported st (t.log ++ [(call.ticket, result)]) =
        call.ticket.job.target.getD (reported st t.log) := reported_concat t.log _
    refine ⟨recent, hs.goOn (u := { t with log := t.log ++ [(call.ticket, result)] }) hcall rfl rfl
      rfl ?_⟩
    change reported st (t.log ++ [(call.ticket, result)]) = reported st t.log ∧ _ ∨
      call.ticket.job.target = some (reported st (t.log ++ [(call.ticket, result)]))
    rw [hlog]
    rcases Option.eq_none_or_eq_some call.ticket.job.target with htarget | ⟨x, htarget⟩
    · rw [htarget]
      exact .inl ⟨rfl, fun _ => .inr rfl⟩
    · rw [htarget]
      exact .inr rfl
  | @unlock g call hcall hstage =>
    have hlogged : call.stage.logged = true := by
      rw [hstage]
      rfl
    exact ⟨recent, hs.goOn (u := { t with holder := none }) hcall rfl rfl rfl
      (.inl ⟨rfl, fun hnot => absurd hlogged (by simp [hnot])⟩)⟩
  | @finish g call hcall hstage =>
    have kept {g' : γ} (hg : g' ≠ g) : ({ t with state := call.ticket.job.target.getD t.state
        }.setCall g none).calls g' = t.calls g' := Function.update_of_ne hg _ _
    refine ⟨recent, hs.begun, ?_, ?_, ?_⟩
    · intro g' call' hnew htarget
      by_cases hg : g' = g
      · subst hg
        have hgone : (none : Option (Call γ)) = some call' := by
          rw [← hnew]
          exact (Function.update_self g' none t.calls).symm
        cases hgone
      · rw [kept hg] at hnew
        exact hs.pending g' call' hnew htarget
    · change (call.ticket.job.target.getD t.state = s.state ∧ _) ∨
        ∃ b ∈ recent, b.job.target = some (call.ticket.job.target.getD t.state)
      rcases Option.eq_none_or_eq_some call.ticket.job.target with htarget | ⟨x, htarget⟩
      · rw [htarget, Option.getD_none]
        refine hs.stored.imp_left fun hstored => ⟨hstored.1, fun b hb hb' => ?_⟩
        obtain ⟨call', hold, rfl⟩ := hstored.2 b hb hb'
        have hg : call'.ticket.thread ≠ g := by
          intro heq
          rw [heq] at hold
          obtain rfl := Option.some.inj (hcall.symm.trans hold)
          exact hb' htarget
        exact ⟨call', (kept hg).trans hold, rfl⟩
      · obtain ⟨hmem, -⟩ := hs.pending g call hcall (by simp [htarget])
        exact .inr ⟨call.ticket, hmem, by rw [htarget, Option.getD_some]⟩
    · refine hs.told.imp_left fun htold => ⟨htold.1, fun b hb hb' => ?_⟩
      obtain ⟨call', hold, rfl, hlogged⟩ := htold.2 b hb hb'
      have hg : call'.ticket.thread ≠ g := by
        intro heq
        rw [heq] at hold
        obtain rfl := Option.some.inj (hcall.symm.trans hold)
        rw [hstage] at hlogged
        cases hlogged
      exact ⟨call', (kept hg).trans hold, rfl, hlogged⟩

/-- Between two moments at which no job with a state is in progress: if none was begun, neither
the state nor the one told last has changed; otherwise each is that of a job begun in between. So
the two agree where these are all for one state. -/
theorem states_between_quiet (rt : Runtime) (cfg : Config) (dump : Json → List UInt8)
    (st : ComponentState) {run : List (Move γ)} (hs : s.Quiet)
    (hrun : (senders rt cfg dump).exec s run = some t) (ht : t.Quiet) :
    ∃ recent, t.begun = s.begun ++ recent ∧
      ((∀ b ∈ recent, b.job.target = none) →
        t.state = s.state ∧ reported st t.log = reported st s.log) ∧
      ((∃ b ∈ recent, b.job.target ≠ none) →
        (∃ b ∈ recent, b.job.target = some t.state) ∧
          ∃ b ∈ recent, b.job.target = some (reported st t.log)) := by
  have always : (senders rt cfg dump).Always (fun t => ∃ recent, Since st s recent t) s run :=
    System.always_of_step ⟨[], hs.since⟩ fun t a u h hstep =>
      h.elim fun _ since => (senders_moves hstep).since since
  obtain ⟨recent, since⟩ := always run t List.prefix_rfl hrun
  have idle {b : Ticket γ} (hb : b.job.target ≠ none) (call : Call γ)
      (hcall : t.calls b.thread = some call) (hticket : call.ticket = b) : False := by
    subst hticket
    exact hb (ht _ call hcall)
  refine ⟨recent, since.begun, ?_, ?_⟩
  · intro hnone
    constructor
    · rcases since.stored with ⟨hstate, -⟩ | ⟨b, hb, htarget⟩
      · exact hstate
      · rw [hnone b hb] at htarget
        cases htarget
    · rcases since.told with ⟨hlog, -⟩ | ⟨b, hb, htarget⟩
      · exact hlog
      · rw [hnone b hb] at htarget
        cases htarget
  · rintro ⟨b, hb, htarget⟩
    constructor
    · refine since.stored.resolve_left fun hpending => ?_
      obtain ⟨call, hcall, hticket⟩ := hpending.2 b hb htarget
      exact idle htarget call hcall hticket
    · refine since.told.resolve_left fun hpending => ?_
      obtain ⟨call, hcall, hticket, -⟩ := hpending.2 b hb htarget
      exact idle htarget call hcall hticket

end Quiet

namespace Sample

/-- The message loop (`false`) and a thread of the user, when the daemon is gone; the thread sends
first and stores last. -/
def overlapping : List (Move Bool) :=
  [.enter true (.send (.stateUpdate .waiting "")), .enter false (.send (.stateUpdate .running "")),
    .lock true, .ret true .failed, .unlock true, .lock false, .ret false .failed, .unlock false,
    .finish false, .finish true]

end Sample

theorem states_between_quiet_overlapping : ∃ t : Joint Bool,
    (senders Sample.runtime Sample.config Daemon.line).exec (.connected .registered 0)
      Sample.overlapping = some t ∧
    (t.state = .waiting ∧ reported .registered t.log = .running) ∧
    ∃ b ∈ t.begun, b.job.target = some t.state := by
  have final : ((senders Sample.runtime Sample.config Daemon.line).exec
      (.connected .registered 0) Sample.overlapping).map (fun t => ((t.calls false).isNone,
        (t.calls true).isNone, t.state, reported .registered t.log,
        t.begun.any fun b => b.job.target.isSome)) =
      some (true, true, .waiting, .running, true) := by
    decide +kernel
  obtain ⟨t, ht, hfinal⟩ := Option.map_eq_some_iff.mp final
  simp only [Prod.mk.injEq, Option.isNone_iff_eq_none] at hfinal
  obtain ⟨hmain, huser, hstate, htold, hany⟩ := hfinal
  have hstart : (Joint.connected (γ := Bool) .registered 0).Quiet := by
    intro g call hcall
    simp [Joint.connected] at hcall
  have hquiet : t.Quiet := by
    intro g call hcall
    cases g with
    | false => simp [hmain] at hcall
    | true => simp [huser] at hcall
  obtain ⟨recent, hbegun, -, hjobs⟩ := states_between_quiet Sample.runtime Sample.config
    Daemon.line .registered hstart ht hquiet
  obtain rfl : t.begun = recent := hbegun
  obtain ⟨b, hb, htarget⟩ := List.any_eq_true.mp hany
  have hnone : b.job.target ≠ none := Option.isSome_iff_ne_none.mp htarget
  exact ⟨t, ht, ⟨hstate, htold⟩, (hjobs ⟨b, hb, hnone⟩).1⟩

end AegisSdk.Cpp
