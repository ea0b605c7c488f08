import AegisSdk.Rust.Conversation

/-!
Harmless messages. A REBORN, a CONFIGURE that `on_configure` refuses, a recoverable ERROR
and a message that no handler acts on leave no trace beyond their own replies: the loop over
the other messages alone does the same.
-/

set_option autoImplicit false
set_option relaxedAutoImplicit false

namespace AegisSdk.Rust

open AegisSdk.Protocol AegisSdk.Library
open List (Forall₂)

instance (env : Envelope) : Decidable (Ignored env) :=
  inferInstanceAs (Decidable (_ ∧ _ ∧ _ ∧ _ ∧ _))

def Inbound.harmless (i : Inbound) : Bool :=
  decide (IsReborn i.env) || (decide (IsConfigure i.env) && !i.onConfigure.isOk) ||
    (decide (IsError i.env) && errorRecoverable i.env) || decide (Ignored i.env)

/-- The line that a harmless message is answered with, if any. -/
def Inbound.courtesy (cfg : Config) (i : Inbound) : List Effect :=
  if IsReborn i.env then [sentAck cfg i.env.messageId]
  else if IsConfigure i.env then
    match i.onConfigure with
    | .error e => [sentRefusal cfg e]
    | .ok () => []
  else []

def Read.inbound (rt : Runtime) (read : Read) : Option Inbound :=
  match read.event with
  | .line bytes =>
    match decodeLine rt bytes with
    | .ok env => some { env := env, onConfigure := read.onConfigure }
    | .error _ => none
  | _ => none

def Read.harmless (rt : Runtime) (read : Read) : Bool := (read.inbound rt).any Inbound.harmless

/-- What a piece of a trace does beyond the component, generated values aside. -/
def effects (es : List Event) : List Effect := es.filterMap Event.effect

def Effect.isSent : Effect → Bool
  | .sent _ => true
  | _ => false

def work (es : List Event) : List Effect := (effects es).filter fun e => !e.isSent

variable (rt : Runtime) (cfg : Config) (token : Nat)

theorem does_harmless (st : ComponentState) {i : Inbound} (h : i.harmless = true) :
    Does cfg token st i (i.courtesy cfg) st .continue := by
  simp only [Inbound.harmless, Bool.or_eq_true, Bool.and_eq_true, decide_eq_true_eq] at h
  rcases h with ((hr | ⟨hc, herror⟩) | ⟨he, hrec⟩) | hi
  · rw [Inbound.courtesy, if_pos hr]
    exact does_reborn cfg token st hr
  · have hnot : ¬ IsReborn i.env := by simp [IsReborn, hc.1]
    rw [Inbound.courtesy, if_neg hnot, if_pos hc]
    cases hanswer : i.onConfigure with
    | ok u => simp [hanswer, Except.isOk, Except.toBool] at herror
    | error e => exact does_refuse cfg token st hc hanswer
  · have ht : i.env.msgType = .error := he
    have hnone : i.courtesy cfg = [] := by simp [Inbound.courtesy, IsReborn, IsConfigure, ht]
    have hdoes := does_error cfg token st he
    rw [hrec] at hdoes
    rw [hnone]
    exact hdoes
  · obtain ⟨-, hc, hr, -, -⟩ := id hi
    rw [Inbound.courtesy, if_neg hr, if_neg hc]
    exact does_nothing cfg token st hi

theorem harmless_inert : (conversation cfg token).Inert Inbound.harmless := by
  intro st i h
  obtain ⟨-, hnext, hverdict⟩ := does_harmless cfg token st h
  exact ⟨hnext, ending_eq_none hverdict⟩

theorem replies_harmless (st : ComponentState) {i : Inbound} (h : i.harmless = true) :
    (conversation cfg token).output st i = i.courtesy cfg :=
  (does_harmless cfg token st h).1

theorem courtesy_work (i : Inbound) : (i.courtesy cfg).filter (fun e => !e.isSent) = [] := by
  unfold Inbound.courtesy
  split
  · rfl
  split
  · split <;> rfl
  · rfl

section Reads

variable {rt}

theorem Read.inbound_gives {read : Read} {i : Inbound} (h : read.inbound rt = some i) :
    Gives rt read i := by
  unfold Read.inbound at h
  split at h
  · rename_i bytes hevent
    split at h
    · rename_i env hdecode
      cases h
      exact ⟨bytes, hevent, hdecode, rfl⟩
    · cases h
  · cases h

theorem Gives.inbound {read : Read} {i : Inbound} (h : Gives rt read i) :
    read.inbound rt = some i := by
  obtain ⟨bytes, hevent, hdecode, hanswer⟩ := h
  simp only [Read.inbound, hevent, hdecode, hanswer]

theorem Gives.harmless {read : Read} {i : Inbound} (h : Gives rt read i) :
    read.harmless rt = i.harmless := by
  rw [Read.harmless, h.inbound]
  rfl

theorem gives_of_decodable {reads : List Read}
    (h : ∀ read ∈ reads, (read.inbound rt).isSome = true) :
    Forall₂ (Gives rt) reads (reads.filterMap (Read.inbound rt)) := by
  induction reads with
  | nil => exact .nil
  | cons read reads ih =>
    obtain ⟨i, hi⟩ := Option.isSome_iff_exists.mp (h read (by simp))
    rw [List.filterMap_cons_some hi]
    exact .cons (Read.inbound_gives hi) (ih fun r hr => h r (by simp [hr]))

end Reads

/-- An iteration with the read it took shows an exchange with the message of that read. -/
def Took (rt : Runtime) (x : List Event × Read) (y : Inbound × List Effect) : Prop :=
  Shows x.1 y ∧ Gives rt x.2 y.1

theorem took_zip {shown : List (List Event)} {xs : List (Inbound × List Effect)}
    (hshown : Forall₂ Shows shown xs) {reads : List Read} {inputs : List Inbound}
    (gives : Forall₂ (Gives rt) reads inputs) {rest : List Inbound}
    (hrest : xs.map Prod.fst ++ rest = inputs) {closing : List (List Event)}
    (hclosing : closing = [] ∨ rest = []) :
    Forall₂ (Took rt) ((shown ++ closing).zip reads) xs := by
  induction hshown generalizing reads inputs with
  | nil =>
    rcases hclosing with rfl | rfl
    · exact .nil
    · subst hrest
      cases gives
      simp
  | cons hx _ ih =>
    subst hrest
    cases gives with
    | cons hread gives => exact .cons ⟨hx, hread⟩ (ih gives rfl)

theorem Records.took {es : List Event} {st : ComponentState} {reads : List Read}
    {inputs : List Inbound} (h : Records es ((conversation cfg token).run st inputs))
    (gives : Forall₂ (Gives rt) reads inputs) :
    Forall₂ (Took rt) ((turns es).zip reads)
      ((conversation cfg token).run st inputs).exchanges := by
  obtain ⟨_, shown, hshown, hturns⟩ := h
  obtain ⟨rest, hrest, hnone⟩ := Responder.run_prefix (conversation cfg token) st inputs
  rw [hturns]
  refine took_zip rt hshown gives hrest ?_
  cases hresult : ((conversation cfg token).run st inputs).result with
  | none => exact .inr (hnone hresult)
  | some r => exact .inl rfl

theorem exists_right {α β : Type} {R : α → β → Prop} {xs : List α} {ys : List β}
    (h : Forall₂ R xs ys) {x : α} (hx : x ∈ xs) : ∃ y ∈ ys, R x y := by
  induction h with
  | nil => cases hx
  | @cons a b xs ys hab _ ih =>
    rcases List.mem_cons.mp hx with rfl | hx
    · exact ⟨b, by simp, hab⟩
    · obtain ⟨y, hy, hxy⟩ := ih hx
      exact ⟨y, by simp [hy], hxy⟩

theorem flatMap_filter {α β : Type} {p : α → Bool} {g : α → List β} {xs : List α}
    (h : ∀ x ∈ xs, p x = false → g x = []) : (xs.filter p).flatMap g = xs.flatMap g := by
  induction xs with
  | nil => rfl
  | cons x xs ih =>
    have ih := ih fun y hy => h y (by simp [hy])
    cases hx : p x with
    | true => simp [hx, ih]
    | false => simp [hx, ih, h x (by simp) hx]

/-- Deleting the harmless messages changes neither the outcome of the loop nor the component
it leaves nor the tasks spawned and tokens cancelled. Everything the loop does, it does in the
turn of a read; the deleted messages were answered with their courtesies, and without their
turns the effects are those of the run that never met them. -/
theorem harmless_erasable {reads : List Read}
    (hreads : ∀ read ∈ reads, (read.inbound rt).isSome = true) {w : World} (hw : w.Writable) :
    ∃ outcome es es' w₁ w₂,
      messageLoop rt cfg token reads w = onceResult outcome w₁ ∧ w₁.trace = w.trace ++ es ∧
      messageLoop rt cfg token (reads.filter fun read => !read.harmless rt) w =
        onceResult outcome w₂ ∧ w₂.trace = w.trace ++ es' ∧
      w₂.component = w₁.component ∧ work es' = work es ∧ (turns es).flatten = es ∧
      (∀ x ∈ (turns es).zip reads, ∀ i, x.2.inbound rt = some i → i.harmless = true →
        effects x.1 = i.courtesy cfg) ∧
      effects es = ((turns es).zip reads).flatMap (fun x => effects x.1) ∧
      effects es' = (((turns es).zip reads).filter fun x => !x.2.harmless rt).flatMap
        fun x => effects x.1 := by
  have gives := gives_of_decodable hreads
  have gives' : Forall₂ (Gives rt) (reads.filter fun read => !read.harmless rt)
      ((reads.filterMap (Read.inbound rt)).filter fun i => !i.harmless) :=
    List.rel_filter (fun read i h => by simp only [h.harmless]) gives
  obtain ⟨es, w₁, h₁, l₁, c₁, r₁⟩ := messageLoop_conversation rt cfg token gives hw
  obtain ⟨es', w₂, h₂, l₂, c₂, r₂⟩ := messageLoop_conversation rt cfg token gives' hw
  rw [Responder.run_erase (conversation cfg token) (harmless_inert cfg token)] at h₂ c₂ r₂
  have took := r₁.took rt cfg token gives
  refine ⟨_, es, es', w₁, w₂, h₁, l₁.trace, h₂, l₂.trace, c₂.trans c₁.symm, ?_,
    flatten_parts Event.awaits r₁.opens, ?_, ?_, ?_⟩
  · have idle : ∀ x ∈ ((conversation cfg token).run w.component.state
        (reads.filterMap (Read.inbound rt))).exchanges, (!x.1.harmless) = false →
          x.2.filter (fun e => !e.isSent) = [] := by
      intro x hx hharmless
      obtain ⟨s, hs⟩ := Responder.run_outputs _ hx
      rw [hs, replies_harmless cfg token s (by simpa using hharmless)]
      exact courtesy_work cfg x.1
    unfold work effects
    rw [r₂.effects, r₁.effects, List.filter_flatMap, List.filter_flatMap]
    exact flatMap_filter idle
  · intro x hx i hi hharmless
    obtain ⟨y, hy, hshows, hgives⟩ := exists_right took hx
    obtain ⟨s, hs⟩ := Responder.run_outputs _ hy
    have hinbound := hgives.inbound
    rw [hi] at hinbound
    obtain rfl : i = y.1 := Option.some.inj hinbound
    exact hshows.2.trans (hs.trans (replies_harmless cfg token s hharmless))
  · have all := flatMap_eq took (f := fun x => effects x.1) (g := Prod.snd)
      fun x y hxy => hxy.1.2
    rw [all]
    exact r₁.effects
  · have kept := List.rel_filter (p := fun x => !x.2.harmless rt)
      (q := fun y => !y.1.harmless)
      (fun x y hxy => by simp only [hxy.2.harmless]) took
    have same := flatMap_eq kept (f := fun x => effects x.1) (g := Prod.snd)
      fun x y hxy => hxy.1.2
    rw [same]
    exact r₂.effects

namespace Sample

def refusedRead : Read :=
  { event := .line configure, onConfigure := .error (.connection "busy") }
def acceptedRead : Read := { event := .line configure }
def shutdownRead : Read := { event := .line shutdown }

theorem refusedRead_inbound :
    refusedRead.inbound runtime = some ⟨configureEnvelope, .error (.connection "busy")⟩ := by
  rw [Read.inbound, refusedRead]
  simp only [decodes_configure]

theorem acceptedRead_inbound : acceptedRead.inbound runtime = some ⟨configureEnvelope, .ok ()⟩ := by
  rw [Read.inbound, acceptedRead]
  simp only [decodes_configure]

theorem shutdownRead_inbound : shutdownRead.inbound runtime = some ⟨shutdownEnvelope, .ok ()⟩ := by
  rw [Read.inbound, shutdownRead]
  simp only [decodes_shutdown]

end Sample

theorem harmless_erasable_sample :
    ∃ outcome w₁ w₂,
      messageLoop Sample.runtime Sample.config 0
          [Sample.refusedRead, Sample.acceptedRead, Sample.shutdownRead] {} =
        onceResult outcome w₁ ∧
      messageLoop Sample.runtime Sample.config 0 [Sample.acceptedRead, Sample.shutdownRead] {} =
        onceResult outcome w₂ ∧
      w₂.component = w₁.component ∧ work w₂.trace = work w₁.trace := by
  have hreads : ∀ read ∈ [Sample.refusedRead, Sample.acceptedRead, Sample.shutdownRead],
      (read.inbound Sample.runtime).isSome = true := by
    simp [Sample.refusedRead_inbound, Sample.acceptedRead_inbound, Sample.shutdownRead_inbound]
  have hfilter : [Sample.refusedRead, Sample.acceptedRead, Sample.shutdownRead].filter
      (fun read => !read.harmless Sample.runtime) =
        [Sample.acceptedRead, Sample.shutdownRead] := by
    have h₁ : Sample.refusedRead.harmless Sample.runtime = true := by
      rw [Read.harmless, Sample.refusedRead_inbound]
      rfl
    have h₂ : Sample.acceptedRead.harmless Sample.runtime = false := by
      rw [Read.harmless, Sample.acceptedRead_inbound]
      rfl
    have h₃ : Sample.shutdownRead.harmless Sample.runtime = false := by
      rw [Read.harmless, Sample.shutdownRead_inbound]
      rfl
    simp [h₁, h₂, h₃]
  have hw : World.Writable {} := List.forall_mem_nil _
  obtain ⟨outcome, es, es', w₁, w₂, h₁, t₁, h₂, t₂, hcomponent, hwork, -⟩ :=
    harmless_erasable Sample.runtime Sample.config 0 hreads hw
  rw [hfilter] at h₂
  refine ⟨outcome, w₁, w₂, h₁, h₂, hcomponent, ?_⟩
  rw [t₁, t₂]
  exact hwork

end AegisSdk.Rust
