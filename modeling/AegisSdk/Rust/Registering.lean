import AegisSdk.Rust.Conversation
import AegisSdk.Rust.Registration

/-!
What `register` makes of one reply. The ids are taken from the payload one after the other
by an index that panics on a missing key, so that a REGISTERED without one of them ends the
task, and one without `session_id` does so after `component_id` is stored.
-/

set_option autoImplicit false
set_option relaxedAutoImplicit false

namespace AegisSdk.Rust

open AegisSdk.Protocol AegisSdk.Library

def Stored (env : Envelope) (c : Component) : Prop :=
  env.command = .registered ∧ ∃ a b, env.payload.get "component_id" = some a ∧
    env.payload.get "session_id" = some b ∧ c.componentId = idFrom a ∧ c.sessionId = idFrom b

/-- How `register` may end on a component `c` for the reply: it has not panicked, and both ids
are stored or it returns an error and leaves the component as it was. -/
inductive AllOrNothing (env : Envelope) (c : Component) :
    EStateM.Result Fault World (List Read) → Prop
  | registered (rest : List Read) {w : World} : Stored env w.component →
      AllOrNothing env c (.ok rest w)
  | failed (e : AegisError) {w : World} : Stored env w.component ∨ w.component = c →
      AllOrNothing env c (.error (.error e) w)

def World.sends (w : World) : Bool := w.writes.headD true

def HasIds (env : Envelope) : Prop :=
  env.command = .registered →
    (env.payload.get "component_id").isSome ∧ (env.payload.get "session_id").isSome

section Registering

variable {rt : Runtime} {cfg : Config} {reads rest : List Read} {c c' : Component}
  {es : List Event} {res : Except Fault (List Read)} {env : Envelope}

theorem Registers.stored {rest' : List Read} {a b : Json} (h : Registers rt reads a b rest')
    (hreply : reply rt reads = .ok (env, rest)) (s : ComponentState) :
    HasIds env ∧ Stored env (identified a b s) := by
  obtain ⟨env', hreply', hc, ha, hb⟩ := h
  rw [hreply, Except.ok.injEq, Prod.mk.injEq] at hreply'
  obtain ⟨rfl, -⟩ := hreply'
  exact ⟨fun _ => ⟨by simp [ha], by simp [hb]⟩, hc, a, b, ha, hb, rfl, rfl⟩

theorem Registration.whole_iff (h : Registration rt cfg reads c es c' res)
    (hreply : reply rt reads = .ok (env, rest)) {w : World} (hw : w.component = c')
    {writes : List Bool} (supplied : supply.Accepts ⟨[], writes⟩ es) :
    AllOrNothing env c (registerResult res w) ↔ (writes.headD true = true → HasIds env) := by
  have same : ∀ {env' : Envelope} {rest' : List Read}, reply rt reads = .ok (env', rest') →
      env' = env := by
    intro env' rest' h
    rw [hreply, Except.ok.injEq, Prod.mk.injEq] at h
    exact h.1.symm
  cases h with
  | lost r =>
    have refused : writes.headD true = false := supplied.1
    exact iff_of_true (.failed _ (.inr hw)) fun sent => absurd (sent.symm.trans refused) (by simp)
  | unanswered r h => exact absurd (hreply.symm.trans h) (by simp)
  | rejected r h hc =>
    rw [same h] at hc
    exact iff_of_true (.failed _ (.inr hw)) fun _ registered => absurd registered hc
  | noComponentId r h hc ha =>
    have sent : writes.headD true = true := supplied.1
    rw [same h] at hc ha
    refine iff_of_false (fun whole => by cases whole) fun whole => ?_
    simpa [ha] using whole sent hc
  | noSessionId r h hc ha hb =>
    have sent : writes.headD true = true := supplied.1
    rw [same h] at hc hb
    refine iff_of_false (fun whole => by cases whole) fun whole => ?_
    simpa [hb] using whole sent hc
  | initializingLost r i h =>
    obtain ⟨whole, stored⟩ := h.stored hreply .registered
    exact iff_of_true (.failed _ (.inl (hw ▸ stored))) fun _ => whole
  | readyLost r i d h =>
    obtain ⟨whole, stored⟩ := h.stored hreply .initializing
    exact iff_of_true (.failed _ (.inl (hw ▸ stored))) fun _ => whole
  | ready r i d h =>
    obtain ⟨whole, stored⟩ := h.stored hreply .ready
    exact iff_of_true (.registered _ (hw ▸ stored)) fun _ => whole

end Registering

variable (rt : Runtime) (cfg : Config)

/-- For every reply and every component, `register` is all or nothing exactly if it does not
get as far as the reply or a REGISTERED reply has both keys. -/
theorem allOrNothing_iff {reads rest : List Read} {env : Envelope}
    (hreply : reply rt reads = .ok (env, rest)) (w : World) :
    AllOrNothing env w.component (register rt cfg reads w) ↔ (w.sends = true → HasIds env) := by
  obtain ⟨es, w', res, hresult, leads, registration⟩ := register_course rt cfg reads w
  rw [hresult]
  exact registration.whole_iff hreply rfl (leads.supplied [])

namespace Sample

def bare : List UInt8 := line "m1" "LIFECYCLE" "REGISTERED" "\x7b\x7d"

def bareRuntime : Runtime :=
  { runtime with
    parse := fun text =>
      if text = bare then some (value "m1" "LIFECYCLE" "REGISTERED" []) else parse text }

theorem decodes_bare : decodeLine bareRuntime bare =
    .ok (envelope "m1" .lifecycle .registered []) := by
  have hutf8 : (String.fromUTF8? ⟨bare.toArray⟩).isSome = true := by decide +kernel
  have hparse : bareRuntime.parse bare = some (value "m1" "LIFECYCLE" "REGISTERED" []) := by
    simp [bareRuntime]
  exact decodeLine_ok bareRuntime hutf8 hparse rfl

end Sample

theorem allOrNothing_iff_sample : AllOrNothing Sample.registeredEnvelope
    ({} : World).component
    (register Sample.runtime Sample.config [{ event := .line Sample.registered }] {}) := by
  have hreply : reply Sample.runtime [{ event := .line Sample.registered }] =
      .ok (Sample.registeredEnvelope, []) := by
    simp only [reply, Sample.decodes_registered]
  rw [allOrNothing_iff Sample.runtime Sample.config hreply]
  intro _ _
  simp [Sample.registeredEnvelope, Sample.envelope, Payload.get]

/-- A REGISTERED without the ids ends the task. -/
theorem register_panics : ¬ ∀ (rt : Runtime) (cfg : Config) (reads rest : List Read)
    (env : Envelope) (w : World), reply rt reads = .ok (env, rest) →
      AllOrNothing env w.component (register rt cfg reads w) := by
  intro h
  have hreply : reply Sample.bareRuntime [{ event := .line Sample.bare }] =
      .ok (Sample.envelope "m1" .lifecycle .registered [], []) := by
    simp only [reply, Sample.decodes_bare]
  have whole := h Sample.bareRuntime Sample.config [{ event := .line Sample.bare }] []
    (Sample.envelope "m1" .lifecycle .registered []) {} hreply
  obtain ⟨es, w', res, hresult, leads, registration⟩ :=
    register_course Sample.bareRuntime Sample.config [{ event := .line Sample.bare }] {}
  rw [hresult, registration.whole_iff hreply rfl (leads.supplied [])] at whole
  have ids : HasIds (Sample.envelope "m1" .lifecycle .registered []) := whole (by simp)
  have missing := (ids (by simp [Sample.envelope])).1
  simp [Sample.envelope] at missing

end AegisSdk.Rust
