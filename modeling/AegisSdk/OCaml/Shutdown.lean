import AegisSdk.OCaml.Lifecycle
import AegisSdk.OCaml.Workers

/-!
When a SHUTDOWN is final. The client acknowledges it and calls `on_shutdown`; an ACK that cannot
be written and an exception of `on_shutdown` leave `run_once`, and `run` takes them for a lost
connection. Nothing else makes a run clean.
-/

set_option autoImplicit false
set_option relaxedAutoImplicit false

namespace AegisSdk.OCaml

open AegisSdk.Protocol AegisSdk.Library

def Envelope.isShutdown (env : Envelope) : Bool :=
  decide (env.msgType = .lifecycle ∧ env.command = .shutdown)

def Event.isShutdown : Event → Bool
  | .dispatch env _ => env.isShutdown
  | _ => false

def Plainly (es : List Event) : Prop := ∀ e ∈ es, e.isShutdown = false

structure Envelope.Acks (ack env : Envelope) : Prop where
  type : ack.msgType = .control
  command : ack.command = .ack
  correlation : ack.correlationId = some env.messageId

structure Envelope.Notifies (notice : Envelope) : Prop where
  type : notice.msgType = .lifecycle
  command : notice.command = .shutdown

def goodbye (handlers : Handlers) (ref : Nat) (notice : Envelope) (ok : Bool) : List Event :=
  .stop ref ::
    ((if handlers.onShutdown then [.onShutdown] else []) ++ [.write notice ok, .state .shutdown])

/-- What is left of a SHUTDOWN that leads out of `run_once` by an exception. -/
inductive Fails (handlers : Handlers) (env : Envelope) (raises : Option Exn) :
    List Event → Prop
  | unacked {ack : Envelope} : ack.Acks env → Fails handlers env raises [.write ack false]
  | raised {ack : Envelope} (ref : Nat) (exn : Exn) : ack.Acks env →
      handlers.onShutdown = true → raises = some exn →
      Fails handlers env raises [.write ack true, .stop ref, .onShutdown]

/-- What is left of a SHUTDOWN after which `run_once` returns. -/
inductive Serves (handlers : Handlers) (env : Envelope) (raises : Option Exn) :
    List Event → Prop
  | served {ack notice : Envelope} (ref : Nat) (ok : Bool) : ack.Acks env → notice.Notifies →
      returns handlers.onShutdown raises = true →
      Serves handlers env raises (.write ack true :: goodbye handlers ref notice ok)

def EndsWith (kind : Envelope → Option Exn → List Event → Prop) (es : List Event) : Prop :=
  ∃ pre env raises tail, es = pre ++ .dispatch env raises :: tail ∧ Plainly pre ∧
    env.isShutdown = true ∧ kind env raises tail

def Lost (handlers : Handlers) (es : List Event) : Prop :=
  Plainly es ∨ EndsWith (Fails handlers) es

theorem EndsWith.prepend {kind : Envelope → Option Exn → List Event → Prop} {es : List Event}
    (h : EndsWith kind es) {ys : List Event} (hys : Plainly ys) : EndsWith kind (ys ++ es) := by
  obtain ⟨pre, env, raises, tail, rfl, hpre, hs, htail⟩ := h
  exact ⟨ys ++ pre, env, raises, tail, (List.append_assoc _ _ _).symm,
    List.forall_mem_append.mpr ⟨hys, hpre⟩, hs, htail⟩

theorem Lost.prepend {handlers : Handlers} {es : List Event} (h : Lost handlers es)
    {ys : List Event} (hys : Plainly ys) : Lost handlers (ys ++ es) :=
  h.imp (fun h => List.forall_mem_append.mpr ⟨hys, h⟩) fun h => h.prepend hys

section Steps

variable {rt : Runtime} {cfg : Config} {handlers : Handlers} {env : Envelope}
  {raises : Option Exn} {xs : List Event} {E : Exn → World → Prop}

def Done (handlers : Handlers) (xs : List Event) (w : World) : Prop :=
  w.client.state = .shutdown ∧ ∃ es, w.trace = xs ++ es ∧ EndsWith (Serves handlers) es

def Fallen (handlers : Handlers) (xs : List Event) (w : World) : Prop :=
  ∃ es, w.trace = xs ++ es ∧ Lost handlers es

theorem Done.prepend {ys : List Event} {w : World} (h : Done handlers (xs ++ ys) w)
    (hys : Plainly ys) : Done handlers xs w := by
  obtain ⟨hstate, es, htrace, hes⟩ := h
  exact ⟨hstate, ys ++ es, by rw [htrace, List.append_assoc], hes.prepend hys⟩

theorem Fallen.prepend {ys : List Event} {w : World} (h : Fallen handlers (xs ++ ys) w)
    (hys : Plainly ys) : Fallen handlers xs w := by
  obtain ⟨es, htrace, hes⟩ := h
  exact ⟨ys ++ es, by rw [htrace, List.append_assoc], hes.prepend hys⟩

/-- A part of a run in which the SHUTDOWNs fail, each up to the end of its connection. -/
def AllFailed (handlers : Handlers) (trace : List Event) : Prop :=
  ∀ past env raises rest, trace = past ++ .dispatch env raises :: rest → env.isShutdown = true →
    ∃ tail fd rest', Fails handlers env raises tail ∧ rest = tail ++ .close fd :: .left :: rest'

theorem AllFailed.append {ys es : List Event} (h : AllFailed handlers ys)
    (hes : AllFailed handlers es) : AllFailed handlers (ys ++ es) := by
  intro past env raises rest htrace hs
  rcases List.append_eq_append_iff.mp htrace with ⟨c, -, hc⟩ | ⟨c, hc, hrest⟩
  · exact hes c env raises rest hc hs
  · cases c with
    | nil => exact hes [] env raises rest hrest.symm hs
    | cons e c =>
      obtain ⟨rfl, rfl⟩ := List.cons.inj hrest
      obtain ⟨tail, fd, rest', htail, rfl⟩ := h past env raises c hc hs
      exact ⟨tail, fd, rest' ++ es, htail, by simp⟩

end Steps

section Runs

variable (rt : Runtime) (cfg : Config) (handlers : Handlers)

end Runs

/-- After a SHUTDOWN the run does nothing but serve it, and is clean. -/
def IsFinal (handlers : Handlers) (env : Envelope) (rest : List Event) (o : Option Outcome)
    (w : World) : Prop :=
  o = some .clean ∧ w.client.state = .shutdown ∧
    ∃ ack notice ref ok fd, ack.Acks env ∧ notice.Notifies ∧
      rest = .write ack true :: (goodbye handlers ref notice ok ++ [.close fd, .left])

def Acked (rest : List Event) : Prop := ∃ ack rest', rest = .write ack true :: rest'

section Final

variable {handlers : Handlers} {env : Envelope} {raises : Option Exn} {o : Option Outcome}
  {w : World}

theorem Serves.final {tail : List Event} (h : Serves handlers env raises tail) (fd : Nat)
    (hstate : w.client.state = .shutdown) :
    IsFinal handlers env (tail ++ [.close fd, .left]) (some .clean) w ∧
      Acked (tail ++ [.close fd, .left]) ∧ returns handlers.onShutdown raises = true := by
  cases h with
  | @served ack notice ref ok hack hnotice hreturns =>
    exact ⟨⟨rfl, hstate, ack, notice, ref, ok, fd, hack, hnotice, rfl⟩, ⟨ack, _, rfl⟩, hreturns⟩

end Final

end AegisSdk.OCaml
