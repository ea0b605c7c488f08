import AegisSdk.Go.History

/-!
What a cancelled context does. `messageLoop` looks at the context only at its head, so that a
cancellation during its `recv` is seen if a message comes, and lost if the `recv` fails: then
`Run` finds the context done in the wait before the next turn and returns without
`OnShutdown`.
-/

set_option autoImplicit false
set_option relaxedAutoImplicit false

namespace AegisSdk.Go

open AegisSdk.Protocol AegisSdk.Library

def Event.looked : Event → Option (Option CtxErr)
  | .await _ ctx => some ctx
  | _ => none

def Event.awaits (e : Event) : Bool := e.looked.isSome

def Event.closes : Event → Bool
  | .close => true
  | _ => false

/-- A moment in a trace, with the events before it and after it, at which `Run` is in
`messageLoop`: on the present connection it has been at the head of the loop or gets there
next, and the connection is not closed and not closed next. -/
structure InLoop (pre post : List Event) : Prop where
  entered : (since Event.dials pre ++ post.take 1).any Event.awaits = true
  stillOpen : (since Event.dials pre ++ post.take 1).any Event.closes = false

/-- A context that gets done during the turn on the first link is done in the wait after it,
or at the head of the next turn. -/
def StaysDone (err : CtxErr) : List Link → Prop
  | [] => True
  | link :: links =>
    link.wait = some err ∨ link.wait = none ∧ ∀ next ∈ links.head?, next.ctx = some err

/-- At this moment of a run the context gets done with `err`. -/
structure Cancelled (links : List Link) (err : CtxErr) (pre post : List Event) : Prop where
  inLoop : InLoop pre post
  alive : ∀ e ∈ pre, ∀ ctx ∈ e.looked, ctx = none
  done : ∀ e ∈ post, ∀ ctx ∈ e.looked, ctx = some err
  stays : StaysDone err (links.drop (pre.countP Event.waits))

def Event.ends : Event → Bool
  | .dispatch env => decide (IsShutdown env ∨ IsFatal env)
  | _ => false

def Unended (es : List Event) : Prop := ∀ e ∈ es, e.ends = false

def receiving (pre : List Event) : Bool := pre.getLast?.any Event.awaits

def RecvFails (s : Supply) (pre : List Event) : Prop :=
  receiving pre = true ∧ (supply.after s pre).gives 0 = false

/-- `Run` calls `OnShutdown` exactly once and returns the error of the context. -/
def StopsGracefully (err : CtxErr) (es : List Event) (o : Outcome) : Prop :=
  o = .returned (some (.ctx err)) ∧ es.countP Event.stops = 1

theorem receiving_append {pre xs : List Event} (h : xs ≠ []) :
    receiving (pre ++ xs) = receiving xs := by
  obtain ⟨ys, e, rfl⟩ := List.eq_nil_or_concat xs |>.resolve_left h
  simp [receiving, ← List.append_assoc]

theorem receiving_of_not {xs : List Event} (h : ∀ e ∈ xs, e.awaits = false) :
    receiving xs = false := by
  rcases List.eq_nil_or_concat xs with rfl | ⟨ys, e, rfl⟩
  · rfl
  · have he := h e (by simp)
    simp [receiving, he]

section Turn

variable {rt : Runtime} {cfg : Config} {handlers : Handlers} {s : Supply} {c c' : Component}
  {past pre post es : List Event} {v : Verdict} {err : CtxErr}

theorem Unended.not_ends {m : Message} (h : Unended es) (hm : Event.dispatch m.env ∈ es) :
    ¬ Ends m := by
  have := h _ hm
  simpa [Event.ends, Ends] using this

theorem countP_stops_of_minor (h : ∀ e ∈ es, e.minor = true) : es.countP Event.stops = 0 := by
  rw [List.countP_eq_zero]
  intro e he
  have := h e he
  cases e <;> simp_all [Event.minor, Event.stops]

/-- How `messageLoop` ends if the context gets done after `pre`: with `OnShutdown` and the
error of the context, or, if the `recv` fails, with the loss of the connection. -/
def Ending (s : Supply) (err : CtxErr) (pre es : List Event) (res : Option GoError) : Prop :=
  (res = some (.ctx err) ∧ es.countP Event.stops = 1 ∧ ¬ RecvFails s pre) ∨
    ∃ e : GoError, res = some e ∧ e.Plain ∧ es.countP Event.stops = 0 ∧ RecvFails s pre

theorem not_recvFails_of_not (h : receiving pre = false) : ¬ RecvFails s pre := by
  rintro ⟨h', -⟩
  rw [h] at h'
  cases h'

theorem Event.awaits_of_inner {e : Event} (h : e.outer = false) : e.awaits = false := by
  cases e <;> first | rfl | simp [Event.outer] at h

theorem not_recvFails_answering {m : Message} {st : ComponentState} {pre rest : List Event}
    (hpast : receiving past = false)
    (inner : ∀ e ∈ es, e.outer = false)
    (hsplit : .await st none :: .recv m :: .dispatch m.env :: es = pre ++ rest)
    (ha : supply.allows (supply.after s (past ++ [.await st none])) (.recv m)) :
    ¬ RecvFails s (past ++ pre) := by
  cases pre with
  | nil =>
    rw [List.append_nil]
    exact not_recvFails_of_not hpast
  | cons x pre =>
    obtain ⟨rfl, htail⟩ := List.cons.inj hsplit
    cases pre with
    | nil =>
      rintro ⟨-, hgives⟩
      rw [gives_of_recv ha] at hgives
      cases hgives
    | cons y pre =>
      have quiet : ∀ e ∈ y :: pre, e.awaits = false := by
        intro e he
        have hmem : e ∈ Event.recv m :: .dispatch m.env :: es := by
          rw [htail]
          exact List.mem_append_left _ he
        rcases List.mem_cons.mp hmem with rfl | hmem
        · rfl
        rcases List.mem_cons.mp hmem with rfl | hmem
        · rfl
        exact Event.awaits_of_inner (inner e hmem)
      apply not_recvFails_of_not
      rw [List.append_cons, receiving_append (by simp)]
      exact receiving_of_not quiet

theorem Session.cancelled_ends (h : Session cfg handlers c es c' v) (hv : v ≠ .continue)
    (hset : handlers.onShutdown = true) (hun : Unended es)
    (hes : es = pre ++ post) (hpost : post ≠ [])
    (alive : ∀ e ∈ pre, ∀ ctx ∈ e.looked, ctx = none)
    (done : ∀ e ∈ post, ∀ ctx ∈ e.looked, ctx = some err)
    (hpast : receiving past = false) (ha : supply.Accepts (supply.after s past) es) :
    Ending s err (past ++ pre) es v.err := by
  induction h generalizing past pre post with
  | cancelled c err' stamp ok =>
    cases pre with
    | nil =>
      rw [List.nil_append] at hes
      obtain rfl : err' = err := by
        have := done (.await c.state (some err')) (by simp [← hes]) (some err') rfl
        simpa using this
      refine .inl ⟨rfl, ?_, ?_⟩
      · simp [hset, opt, Event.stops, List.countP_cons]
      · rw [List.append_nil]
        exact not_recvFails_of_not hpast
    | cons x pre =>
      obtain ⟨rfl, -⟩ := List.cons.inj hes
      cases alive _ List.mem_cons_self _ rfl
  | lost c text err' plain =>
    cases pre with
    | nil =>
      rw [List.nil_append] at hes
      have := done (.await c.state none) (by simp [← hes]) none rfl
      cases this
    | cons x pre =>
      obtain ⟨rfl, htail⟩ := List.cons.inj hes
      cases pre with
      | nil =>
        refine .inr ⟨err', rfl, plain, by simp [Event.stops], ?_, ?_⟩
        · simp [receiving, Event.awaits, Event.looked]
        · rw [supply.after_append]
          exact gives_of_recvFailed ha.2.1
      | cons y pre =>
        obtain ⟨-, hnil⟩ := List.cons.inj htail
        exact absurd (List.append_eq_nil_iff.mp hnil.symm).2 hpost
  | @last c c' m es v reaction hv =>
    exact absurd (reaction.ends hv) (hun.not_ends (by simp))
  | @next c c' c'' m es rest v reaction session ih =>
    have hs : ¬ IsShutdown m.env := fun h => reaction.not_ends (.inl h)
    have hun' : Unended rest := fun e he => hun e (by simp [he])
    have received : supply.allows (supply.after s (past ++ [.await c.state none])) (.recv m) := by
      rw [supply.after_append]
      exact ha.2.1
    -- the events of the message, then those of the loop after it
    let answer := Event.await c.state none :: .recv m :: .dispatch m.env :: es
    have silent : answer.countP Event.stops = 0 := by
      simp [answer, Event.stops, (reaction.calm hs).countP_stops]
    have behind : receiving (past ++ answer) = false := by
      have quiet : ∀ e ∈ Event.recv m :: .dispatch m.env :: es, e.awaits = false :=
        List.forall_mem_cons.mpr ⟨rfl, List.forall_mem_cons.mpr
          ⟨rfl, fun e he => Event.awaits_of_inner (reaction.inner e he)⟩⟩
      rw [List.append_cons, receiving_append (by simp)]
      exact receiving_of_not quiet
    have hrest : supply.Accepts (supply.after s (past ++ answer)) rest := by
      have hall : supply.Accepts (supply.after s past) (answer ++ rest) := ha
      rw [supply.after_append]
      exact ((supply.accepts_append _ _ _).mp hall).2
    have counted : (answer ++ rest).countP Event.stops = rest.countP Event.stops := by
      rw [List.countP_append, silent, Nat.zero_add]
    have hsplit : answer ++ rest = pre ++ post := hes
    rcases List.append_eq_append_iff.mp hsplit with ⟨pre', rfl, rfl⟩ | ⟨mid, hanswer, rfl⟩
    · have ending := ih hv hun' rfl hpost (fun e he => alive e (by simp [he])) done behind hrest
      rw [List.append_assoc] at ending
      unfold Ending at *
      rw [← counted] at ending
      exact ending
    · obtain ⟨ctx, tail, hhead⟩ := session.head
      have ending := ih hv hun' (show rest = [] ++ rest from rfl) (by simp [hhead])
        (by simp) (fun e he => done e (by simp [he])) behind hrest
      have seen := not_recvFails_answering hpast reaction.inner hanswer received
      rcases ending with ⟨hres, hone, -⟩ | ⟨_, _, _, _, fails⟩
      · exact .inl ⟨hres, counted.trans hone, seen⟩
      · rw [List.append_nil] at fails
        exact absurd fails (not_recvFails_of_not behind)

theorem not_inLoop_of_quiet (h : ∀ e ∈ pre ++ post.take 1, e.awaits = false) :
    ¬ InLoop pre post := by
  rintro ⟨entered, -⟩
  obtain ⟨e, he, hawait⟩ := List.any_eq_true.mp entered
  have hmem : e ∈ pre ++ post.take 1 := by
    rcases List.mem_append.mp he with he | he
    · exact List.mem_append_left _ ((since_suffix _ _).subset he)
    · exact List.mem_append_right _ he
  rw [h e hmem] at hawait
  cases hawait

theorem not_inLoop_of_closing : ¬ InLoop pre (.close :: post) := by
  rintro ⟨-, stillOpen⟩
  have := List.any_eq_false.mp stillOpen .close (by simp)
  simp [Event.closes] at this

theorem not_inLoop_of_closed {xs : List Event} (h : ∀ e ∈ xs, e.dials = false) :
    ¬ InLoop (pre ++ .close :: xs) post := by
  rintro ⟨-, stillOpen⟩
  have hclose : Event.close ∈ since Event.dials (pre ++ .close :: xs) ++ post.take 1 := by
    rw [since_append_of_not Event.dials (List.forall_mem_cons.mpr ⟨rfl, h⟩)]
    simp
  have := List.any_eq_false.mp stillOpen _ hclose
  simp [Event.closes] at this

theorem Event.awaits_of_dials {e : Event} (h : e.dials = true) : e.awaits = false := by
  cases e <;> first | rfl | simp [Event.dials] at h

theorem Event.awaits_of_minor {e : Event} (h : e.minor = true) : e.awaits = false :=
  Event.awaits_of_inner (Event.outer_of_minor h)

theorem session_moment {opening es mid tail : List Event}
    (hopening : ∀ e ∈ opening, e.awaits = false) (hes : es ≠ [])
    (hsplit : opening ++ (es ++ [.close]) = pre ++ mid) (hmid : mid ≠ [])
    (h : InLoop pre (mid ++ tail)) :
    ∃ pre' post', pre = opening ++ pre' ∧ es = pre' ++ post' ∧ post' ≠ [] ∧
      mid = post' ++ [.close] := by
  rcases List.append_eq_append_iff.mp hsplit with ⟨pre', rfl, hloop⟩ | ⟨rest, rfl, rfl⟩
  · rcases List.append_eq_append_iff.mp hloop with ⟨xs, rfl, hclose⟩ | ⟨post', rfl, rfl⟩
    · -- nothing but the close is left
      cases xs with
      | nil =>
        obtain rfl : mid = [.close] := hclose.symm
        exact absurd h not_inLoop_of_closing
      | cons x xs =>
        obtain ⟨-, hnil⟩ := List.cons.inj hclose
        exact absurd (List.append_eq_nil_iff.mp hnil.symm).2 hmid
    · cases post' with
      | nil => exact absurd h not_inLoop_of_closing
      | cons x post' => exact ⟨pre', x :: post', rfl, rfl, by simp, rfl⟩
  · cases rest with
    | nil => exact ⟨[], es, by simp, rfl, hes, rfl⟩
    | cons x rest =>
      refine absurd h (not_inLoop_of_quiet ?_)
      intro e he
      refine hopening e ?_
      simp only [List.cons_append, List.take_succ_cons, List.take_zero] at he
      rcases List.mem_append.mp he with he | he
      · exact List.mem_append_left _ he
      · simp [List.mem_singleton.mp he]

theorem Attempt.cancelled_ends {res : Option GoError} {mid tail : List Event}
    (h : Attempt rt cfg handlers c es c' res) (hset : handlers.onShutdown = true)
    (hun : Unended es) (hes : es = pre ++ mid) (hmid : mid ≠ [])
    (moment : InLoop pre (mid ++ tail))
    (alive : ∀ e ∈ pre, ∀ ctx ∈ e.looked, ctx = none)
    (done : ∀ e ∈ mid, ∀ ctx ∈ e.looked, ctx = some err)
    (ha : supply.Accepts (supply.after s past) es) : Ending s err (past ++ pre) es res := by
  -- a turn that does not get to `messageLoop`
  have outside : (∀ e ∈ es, e.awaits = false) → Ending s err (past ++ pre) es res := by
    intro quiet
    refine absurd moment (not_inLoop_of_quiet fun e he => quiet e ?_)
    rw [hes]
    cases mid with
    | nil => exact absurd rfl hmid
    | cons x mid =>
      rw [List.cons_append, List.take_succ_cons, List.take_zero] at he
      rcases List.mem_append.mp he with he | he
      · exact List.mem_append_left _ he
      · rw [List.mem_singleton.mp he]
        simp
  rcases h.parts with minor | ⟨opening, loop, c₁, v, rfl, hopening, minor, -, session, hv, rfl⟩
  · exact outside fun e he => Event.awaits_of_minor (minor e he)
  · have quiet : ∀ e ∈ opening, e.awaits = false := fun e he => Event.awaits_of_minor (minor e he)
    obtain ⟨ctx, rest, hhead⟩ := session.head
    obtain ⟨pre', post', rfl, hloop, hpost, rfl⟩ :=
      session_moment quiet (by simp [hhead]) hes hmid moment
    have hpast : receiving (past ++ opening) = false := by
      rw [receiving_append hopening]
      exact receiving_of_not quiet
    have hsession : supply.Accepts (supply.after s (past ++ opening)) loop := by
      rw [supply.after_append]
      exact ((supply.accepts_append _ _ _).mp ((supply.accepts_append _ _ _).mp ha).2).1
    have ending := session.cancelled_ends hv hset (fun e he => hun e (by simp [he])) hloop hpost
      (fun e he => alive e (by simp [he])) (fun e he => done e (by simp [he])) hpast hsession
    have counted : (opening ++ (loop ++ [Event.close])).countP Event.stops =
        loop.countP Event.stops := by
      rw [List.countP_append, List.countP_append, countP_stops_of_minor minor]
      simp [Event.stops]
    rw [List.append_assoc] at ending
    unfold Ending at *
    rwa [← counted] at ending

theorem Attempt.left {res : Option GoError} {xs : List Event}
    (h : Attempt rt cfg handlers c es c' res)
    (hxs : ∀ e ∈ xs, e.dials = false ∧ e.awaits = false)
    (hpost : ∀ e ∈ post.take 1, e.awaits = false) : ¬ InLoop (es ++ xs) post := by
  have closed : ∀ pre, ¬ InLoop (pre ++ .close :: xs) post := fun pre =>
    not_inLoop_of_closed fun e he => (hxs e he).1
  cases h with
  | refused =>
    apply not_inLoop_of_quiet
    refine List.forall_mem_append.mpr ⟨List.forall_mem_cons.mpr ⟨rfl, ?_⟩, hpost⟩
    exact fun e he => (hxs e he).2
  | @unready es _ _ handshake =>
    have shape : Event.dial cfg.socketPath true :: (es ++ [.close]) ++ xs =
        (.dial cfg.socketPath true :: es) ++ .close :: xs := by simp
    rw [shape]
    exact closed _
  | @session es es' _ _ _ handshake session _ =>
    have shape : Event.dial cfg.socketPath true :: (es ++ es' ++ [.close]) ++ xs =
        (.dial cfg.socketPath true :: (es ++ es')) ++ .close :: xs := by simp
    rw [shape]
    exact closed _

theorem Attempt.later {res : Option GoError} {delay : Duration}
    (h : Attempt rt cfg handlers c es c' res)
    (opens : ∀ e ∈ (pre ++ post).take 1, e.dials = true)
    (moment : InLoop (es ++ [.wait delay] ++ pre) post) : InLoop pre post := by
  cases pre with
  | nil =>
    have waits : ∀ e ∈ [Event.wait delay], e.dials = false ∧ e.awaits = false := by
      simp [Event.dials, Event.awaits, Event.looked]
    rw [List.append_nil] at moment
    exact absurd moment (h.left waits fun e he => Event.awaits_of_dials (opens e he))
  | cons x pre =>
    have dials : x.dials = true := opens x (by simp)
    obtain ⟨entered, stillOpen⟩ := moment
    rw [since_append_of_mem Event.dials List.mem_cons_self dials] at entered stillOpen
    exact ⟨entered, stillOpen⟩

theorem Attempt.moment {res : Option GoError} {tail : List Event}
    (h : Attempt rt cfg handlers c es c' res) (hsplit : es ++ tail = pre ++ post)
    (htail : ∀ e ∈ tail.take 1, e.awaits = false) (moment : InLoop pre post) :
    (∃ mid, mid ≠ [] ∧ es = pre ++ mid ∧ post = mid ++ tail) ∨
      ∃ pre', pre' ≠ [] ∧ pre = es ++ pre' ∧ tail = pre' ++ post := by
  have none : ¬ InLoop es tail := by
    have left : ¬ InLoop (es ++ []) tail := h.left (by simp) htail
    rwa [List.append_nil] at left
  rcases List.append_eq_append_iff.mp hsplit with ⟨pre', rfl, rfl⟩ | ⟨mid, rfl, rfl⟩
  · cases pre' with
    | nil =>
      rw [List.append_nil] at moment
      exact absurd moment none
    | cons x pre' => exact .inr ⟨x :: pre', by simp, rfl, rfl⟩
  · cases mid with
    | nil =>
      rw [List.append_nil] at none
      exact absurd moment none
    | cons x mid => exact .inl ⟨x :: mid, by simp, rfl, rfl⟩

theorem Attempt.calm {n : Nat} {res : Option GoError} (h : Attempt rt cfg handlers c es c' res)
    (hun : Unended es) (hret : returnErr cfg n res = none) : Calm es := by
  have leaves := h.leaves
  cases res with
  | none =>
    obtain ⟨es', rfl, ⟨pre, env, tail, rfl, -, hs, -⟩, -⟩ := leaves
    have := hun (.dispatch env) (by simp)
    simp [Event.ends, hs] at this
  | some e =>
    refine leaves.2 ?_
    cases hctx : e.isContext with
    | false => rfl
    | true => simp [returnErr, hctx] at hret

end Turn

section Run

variable {rt : Runtime} {cfg : Config} {handlers : Handlers} {s : Supply} {c : Component}
  {past pre post es : List Event} {err : CtxErr} {n : Nat} {delay : Duration}
  {links : List Link} {o : Outcome}

theorem History.dials_first (h : History rt cfg handlers n delay c links es o) :
    ∀ e ∈ es.take 1, e.dials = true := by
  have first : ∀ {es rest : List Event} {c c' : Component} {res : Option GoError},
      Attempt rt cfg handlers c es c' res → ∀ e ∈ (es ++ rest).take 1, e.dials = true := by
    intro es rest c c' res attempt
    rcases attempt.dials with rfl | ⟨rest', rfl⟩ <;> simp [Event.dials]
  cases h with
  | paused | done => simp
  | last _ _ _ attempt _ =>
    rw [← List.append_nil es]
    exact first attempt
  | stopped _ _ _ attempt _ _ | again _ attempt _ _ _ => exact first attempt

theorem History.nothing (h : History rt cfg handlers n delay c links es o)
    (hdone : ∀ next ∈ links.head?, next.ctx = some err) : es = [] := by
  cases h with
  | paused | done => rfl
  | last _ _ hctx | stopped _ _ hctx | again hctx =>
    have := hdone _ rfl
    rw [hctx] at this
    cases this

theorem returnErr_ctx (n : Nat) (err : CtxErr) :
    returnErr cfg n (some (.ctx err)) = some (some (.ctx err)) := by
  simp [returnErr, GoError.isContext]

theorem Ending.last {res e : Option GoError} (h : Ending s err pre es res)
    (hret : returnErr cfg n res = some e) :
    StopsGracefully err es (.returned e) ↔ ¬ RecvFails s pre := by
  rcases h with ⟨rfl, hone, seen⟩ | ⟨_, _, _, hzero, fails⟩
  · rw [returnErr_ctx] at hret
    cases hret
    exact iff_of_true ⟨rfl, hone⟩ seen
  · refine iff_of_false (fun stops => ?_) (not_not.mpr fails)
    rw [stops.2] at hzero
    cases hzero

theorem Ending.goes_on {res : Option GoError} {es' : List Event} (h : Ending s err pre es res)
    (hret : returnErr cfg n res = none)
    (hcount : es'.countP Event.stops = es.countP Event.stops) :
    StopsGracefully err es' o ↔ ¬ RecvFails s pre := by
  rcases h with ⟨rfl, -, -⟩ | ⟨_, _, _, hzero, fails⟩
  · rw [returnErr_ctx] at hret
    cases hret
  · refine iff_of_false (fun stops => ?_) (not_not.mpr fails)
    rw [hzero, stops.2] at hcount
    cases hcount

/-- A run during which the context gets done in `messageLoop`. -/
theorem History.stopsGracefully_iff (h : History rt cfg handlers n delay c links es o)
    (hset : handlers.onShutdown = true) (hun : Unended es) (hes : es = pre ++ post)
    (moment : InLoop pre post) (alive : ∀ e ∈ pre, ∀ ctx ∈ e.looked, ctx = none)
    (done : ∀ e ∈ post, ∀ ctx ∈ e.looked, ctx = some err)
    (stays : StaysDone err (links.drop (pre.countP Event.waits)))
    (ha : supply.Accepts (supply.after s past) es) :
    StopsGracefully err es o ↔ ¬ RecvFails s (past ++ pre) := by
  induction h generalizing past pre post with
  | paused | done =>
    obtain ⟨rfl, rfl⟩ := List.append_eq_nil_iff.mp hes.symm
    exact absurd moment (not_inLoop_of_quiet (by simp))
  | @last n delay c c' link links es res e hctx attempt hret =>
    rw [← List.append_nil es] at hes
    rcases attempt.moment hes (by simp) moment with ⟨mid, hmid, rfl, rfl⟩ | ⟨pre', hpre', _, hnil⟩
    · have ending := attempt.cancelled_ends hset hun rfl hmid moment alive
        (fun e he => done e (by simp [he])) ha
      exact ending.last hret
    · exact absurd (List.append_eq_nil_iff.mp hnil.symm).1 hpre'
  | @stopped n delay c c' link links es res err' hctx attempt hret hwait =>
    have quiet : ∀ e ∈ [Event.wait delay].take 1, e.awaits = false := by
      simp [Event.awaits, Event.looked]
    rcases attempt.moment hes quiet moment with ⟨mid, hmid, rfl, rfl⟩ | ⟨pre', hpre', rfl, hwaits⟩
    · have ending := attempt.cancelled_ends hset
        (fun e he => hun e (List.mem_append_left _ he)) rfl hmid moment alive
        (fun e he => done e (by simp [he])) ((supply.accepts_append _ _ _).mp ha).1
      refine ending.goes_on hret ?_
      rw [List.countP_append]
      rfl
    · cases pre' with
      | nil => exact absurd rfl hpre'
      | cons x pre' =>
        obtain ⟨rfl, hnil⟩ := List.cons.inj hwaits
        obtain ⟨rfl, rfl⟩ := List.append_eq_nil_iff.mp hnil.symm
        exact absurd moment (attempt.left (by simp [Event.dials, Event.awaits, Event.looked])
          (by simp))
  | @again n delay c c' link links es rest res o hctx attempt hret hwait history ih =>
    have calm := attempt.calm (fun e he => hun e (List.mem_append_left _ he)) hret
    have quiet : ∀ e ∈ (Event.wait delay :: rest).take 1, e.awaits = false := by
      simp [Event.awaits, Event.looked]
    rcases attempt.moment hes quiet moment with ⟨mid, hmid, rfl, rfl⟩ | ⟨pre', hpre', rfl, hwaits⟩
    · have ending := attempt.cancelled_ends hset
        (fun e he => hun e (List.mem_append_left _ he)) rfl hmid moment alive
        (fun e he => done e (List.mem_append_left _ he)) ((supply.accepts_append _ _ _).mp ha).1
      -- the next turn finds the context done
      have first : pre.countP Event.waits = 0 := by
        rw [List.countP_eq_zero]
        intro e he
        simp [calm.waits e (List.mem_append_left _ he)]
      rw [first, List.drop_zero] at stays
      have hnext : ∀ next ∈ links.head?, next.ctx = some err := by
        rcases stays with hdone | ⟨-, hnext⟩
        · rw [hwait] at hdone
          cases hdone
        · exact hnext
      obtain rfl := history.nothing hnext
      refine ending.goes_on hret ?_
      rw [List.countP_append]
      rfl
    · cases pre' with
      | nil => exact absurd rfl hpre'
      | cons x pre' =>
        rw [List.cons_append, List.cons.injEq] at hwaits
        obtain ⟨rfl, rfl⟩ := hwaits
        have shift : es ++ .wait delay :: pre' = es ++ [.wait delay] ++ pre' :=
          List.append_cons _ _ _
        rw [shift] at moment
        have later : InLoop pre' post := attempt.later history.dials_first moment
        have waits : (es ++ .wait delay :: pre').countP Event.waits =
            pre'.countP Event.waits + 1 := by
          rw [List.countP_append, calm.countP_waits, List.countP_cons, Nat.zero_add]
          rfl
        have counted : (es ++ .wait delay :: (pre' ++ post)).countP Event.stops =
            (pre' ++ post).countP Event.stops := by
          rw [List.countP_append, calm.countP_stops, List.countP_cons, Nat.zero_add]
          rfl
        rw [waits, List.drop_succ_cons] at stays
        have hrest : supply.Accepts (supply.after s (past ++ es ++ [.wait delay]))
            (pre' ++ post) := by
          rw [supply.after_append, supply.after_append]
          exact ((supply.accepts_append _ _ _).mp ha).2.2
        have again := ih (fun e he => hun e (List.mem_append_right _ (List.mem_cons_of_mem _ he)))
          rfl later (fun e he => alive e (List.mem_append_right _ (List.mem_cons_of_mem _ he)))
          done stays hrest
        rw [List.append_assoc past, List.append_assoc past, ← shift] at again
        unfold StopsGracefully at *
        rw [counted]
        exact again

end Run

instance decidableStaysDone (err : CtxErr) : (links : List Link) → Decidable (StaysDone err links)
  | [] => isTrue trivial
  | _ :: links => inferInstanceAs (Decidable (_ ∨ _ ∧ ∀ next ∈ links.head?, _))
instance (es : List Event) : Decidable (Unended es) := inferInstanceAs (Decidable (∀ e ∈ es, _))
instance (s : Supply) (pre : List Event) : Decidable (RecvFails s pre) :=
  inferInstanceAs (Decidable (_ ∧ _))

/-- In a run without a SHUTDOWN and a non-recoverable ERROR, a cancellation in `messageLoop`
gets `OnShutdown` called once and the error of the context returned exactly if it does not
come during a `recv` of the loop that fails. -/
theorem run_stopsGracefully_iff (rt : Runtime) (cfg : Config) (handlers : Handlers)
    (links : List Link) (err : CtxErr) (pre post : List Event)
    (hset : handlers.onShutdown = true)
    (htrace : (run rt cfg handlers links).2.trace = pre ++ post)
    (hun : Unended (run rt cfg handlers links).2.trace)
    (hcancel : Cancelled links err pre post) :
    StopsGracefully err (run rt cfg handlers links).2.trace (run rt cfg handlers links).1 ↔
      ¬ RecvFails (store links) pre := by
  obtain ⟨supplied, history⟩ := run_history rt cfg handlers links
  have stops : StopsGracefully err (run rt cfg handlers links).2.trace
      (run rt cfg handlers links).1 ↔ ¬ RecvFails (store links) ([] ++ pre) :=
    history.stopsGracefully_iff hset hun htrace hcancel.inLoop hcancel.alive hcancel.done
      hcancel.stays supplied
  exact stops

namespace Sample

def pinged : List Link :=
  [{ inbox := ((handshake ++ [Delivery.message ping]).map fun delivery => { delivery := delivery }) ++
      [{ ctx := some .canceled, delivery := .failure "EOF" }] }]

def events : List Event := (run runtime config { onShutdown := true } pinged).2.trace

end Sample

theorem run_stopsGracefully_iff_sample : StopsGracefully .canceled
    (run Sample.runtime Sample.config { onShutdown := true } Sample.pinged).2.trace
    (run Sample.runtime Sample.config { onShutdown := true } Sample.pinged).1 := by
  have split : Sample.events = Sample.events.take 11 ++ Sample.events.drop 11 :=
    (List.take_append_drop 11 _).symm
  have unended : Unended Sample.events := by decide +kernel
  have moment : InLoop (Sample.events.take 11) (Sample.events.drop 11) :=
    ⟨by decide +kernel, by decide +kernel⟩
  have cancelled : Cancelled Sample.pinged .canceled (Sample.events.take 11)
      (Sample.events.drop 11) :=
    ⟨moment, by decide +kernel, by decide +kernel, by decide +kernel⟩
  have seen : ¬ RecvFails (store Sample.pinged) (Sample.events.take 11) := by decide +kernel
  exact (run_stopsGracefully_iff Sample.runtime Sample.config { onShutdown := true } Sample.pinged
    .canceled (Sample.events.take 11) (Sample.events.drop 11) rfl split unended cancelled).mpr seen

namespace Sample

def reconnecting : Config := { config with reconnect := true }

/-- The daemon hangs up, and the context is found done in the wait afterwards. -/
def hungUp : List Link := [{ link (handshake ++ [.failure "EOF"]) with wait := some .canceled }]

def lostEvents : List Event :=
  (run runtime reconnecting { onShutdown := true } hungUp).2.trace

end Sample

/-- The context is cancelled during a `recv` that ends in EOF: the run returns its error
without `OnShutdown`. -/
theorem cancelled_without_shutdown : ¬ ∀ (rt : Runtime) (cfg : Config) (handlers : Handlers)
    (links : List Link) (err : CtxErr) (pre post : List Event), handlers.onShutdown = true →
      (run rt cfg handlers links).2.trace = pre ++ post →
      Unended (run rt cfg handlers links).2.trace → Cancelled links err pre post →
      StopsGracefully err (run rt cfg handlers links).2.trace (run rt cfg handlers links).1 := by
  intro h
  have split : Sample.lostEvents = Sample.lostEvents.take 11 ++ Sample.lostEvents.drop 11 :=
    (List.take_append_drop 11 _).symm
  have unended : Unended Sample.lostEvents := by decide +kernel
  have moment : InLoop (Sample.lostEvents.take 11) (Sample.lostEvents.drop 11) :=
    ⟨by decide +kernel, by decide +kernel⟩
  have cancelled : Cancelled Sample.hungUp .canceled (Sample.lostEvents.take 11)
      (Sample.lostEvents.drop 11) :=
    ⟨moment, by decide +kernel, by decide +kernel, by decide +kernel⟩
  have once : Sample.lostEvents.countP Event.stops = 1 :=
    (h Sample.runtime Sample.reconnecting { onShutdown := true } Sample.hungUp .canceled _ _ rfl
      split unended cancelled).2
  have never : Sample.lostEvents.countP Event.stops = 0 := by decide +kernel
  rw [never] at once
  cases once

end AegisSdk.Go
