import AegisSdk.Library.Responder
import AegisSdk.Protocol.Json

/-!
The dialogue between the daemon and a registered component, apart from any SDK: what a
component says about each order of the daemon, and what a daemon sends that answers every
STATE_UPDATE with an ACK before it sends anything else.
-/

set_option autoImplicit false
set_option relaxedAutoImplicit false

namespace AegisSdk.Protocol

open AegisSdk.Library

inductive Kind where
  | ping | configure | reborn | recoverableError | shutdown
  deriving DecidableEq

structure Order where
  kind : Kind
  id : String

structure Said where
  type : String
  command : String
  state : Option Json
  correlationId : Option String

namespace Said

def update (state : String) : Said := ⟨"LIFECYCLE", "STATE_UPDATE", some (.str state), none⟩

def ack (id : String) : Said := ⟨"CONTROL", "ACK", none, some id⟩

def pong (state id : String) : Said := ⟨"HEARTBEAT", "PONG", some (.str state), some id⟩

def isUpdate (s : Said) : Bool := s.command == "STATE_UPDATE"

/-- The line that closes a connection from the component's side. -/
def isNotice (s : Said) : Bool := s.command == "SHUTDOWN"

end Said

def Order.isReborn (o : Order) : Bool := decide (o.kind = .reborn)

def Order.isShutdown (o : Order) : Bool := decide (o.kind = .shutdown)

/-- What a component in a state says about an order, when its `on_configure` accepts;
`knowsReborn` if REBORN is among its commands. -/
def Order.answers (knowsReborn : Bool) (state : String) (o : Order) : List Said :=
  match o.kind with
  | .ping => [.pong state o.id]
  | .configure => [.ack o.id, .update "CONFIGURED", .update "RUNNING"]
  | .reborn => if knowsReborn then [.ack o.id] else []
  | .recoverableError => []
  | .shutdown => [.ack o.id]

def Order.following (state : String) (o : Order) : String :=
  match o.kind with
  | .configure => "RUNNING"
  | .shutdown => "SHUTDOWN"
  | _ => state

/-- A component over the orders of the daemon, up to the first SHUTDOWN. -/
def dialogue (knowsReborn : Bool) : Responder String Order Said Unit where
  output := Order.answers knowsReborn
  next := Order.following
  stop _ o := if o.isShutdown then some () else none

def said (knowsReborn : Bool) (state : String) (os : List Order) : List Said :=
  ((dialogue knowsReborn).run state os).exchanges.flatMap Prod.snd

def opening : List Said := [.update "INITIALIZING", .update "READY"]

def acksFor (lines : List Said) : Nat := lines.countP Said.isUpdate

/-- The messages of a daemon with these orders: after each one come the ACKs of the
STATE_UPDATEs said about it. -/
inductive Script {α : Type} (carries : α → Order → Prop) (isAck : α → Prop) :
    List Order → List α → Prop
  | done : Script carries isAck [] []
  | order {o : Order} {a : α} {acks : List α} {os : List Order} {ms : List α} : carries a o →
      acks.length = acksFor (o.answers true "") → (∀ m ∈ acks, isAck m) →
      Script carries isAck os ms → Script carries isAck (o :: os) (a :: (acks ++ ms))

theorem Script.map {α β : Type} {carries : α → Order → Prop} {isAck : α → Prop}
    {carries' : β → Order → Prop} {isAck' : β → Prop} {f : α → β}
    (hcarries : ∀ a o, carries a o → carries' (f a) o) (hack : ∀ a, isAck a → isAck' (f a))
    {os : List Order} {ms : List α} (h : Script carries isAck os ms) :
    Script carries' isAck' os (ms.map f) := by
  induction h with
  | done => exact .done
  | @order o a acks os ms ha hlength hacks _ ih =>
    rw [List.map_cons, List.map_append]
    refine .order (hcarries a o ha) ?_ ?_ ih
    · rw [List.length_map, hlength]
    · intro m hm
      obtain ⟨m', hm', rfl⟩ := List.mem_map.mp hm
      exact hack m' (hacks m' hm')

theorem said_cons (knowsReborn : Bool) (state : String) (o : Order) (os : List Order) :
    said knowsReborn state (o :: os) = o.answers knowsReborn state ++
      if o.isShutdown then [] else said knowsReborn (o.following state) os := by
  unfold said
  cases hs : o.isShutdown with
  | true =>
    have hstop : (dialogue knowsReborn).stop state o = some () := if_pos hs
    rw [Responder.run_last _ os hstop]
    simp
    rfl
  | false =>
    have hstop : (dialogue knowsReborn).stop state o = none := by simp [dialogue, hs]
    rw [Responder.run_next _ os hstop]
    rfl

theorem said_length (state : String) (os : List Order) :
    (said true state os).length =
      (said false state os).length + (upTo Order.isShutdown os).countP Order.isReborn := by
  induction os generalizing state with
  | nil => rfl
  | cons o os ih =>
    have ih := ih (o.following state)
    obtain ⟨kind, id⟩ := o
    rw [said_cons, said_cons, upTo]
    cases kind <;> simp [Order.answers, Order.isShutdown, Order.isReborn] at ih ⊢ <;> omega

theorem said_eq {state : String} {os : List Order}
    (h : ∀ o ∈ upTo Order.isShutdown os, o.isReborn = false) :
    said true state os = said false state os := by
  induction os generalizing state with
  | nil => rfl
  | cons o os ih =>
    rw [said_cons, said_cons]
    rw [upTo] at h
    obtain ⟨ho, hos⟩ := List.forall_mem_cons.mp h
    have hsame : o.answers true state = o.answers false state := by
      obtain ⟨kind, id⟩ := o
      cases kind with
      | reborn => simp [Order.isReborn] at ho
      | _ => rfl
    rw [hsame]
    cases hs : o.isShutdown with
    | true => rfl
    | false =>
      rw [hs] at hos
      rw [if_neg Bool.false_ne_true, if_neg Bool.false_ne_true, ih hos]

theorem said_eq_iff (state : String) (os : List Order) :
    said true state os = said false state os ↔
      ∀ o ∈ upTo Order.isShutdown os, o.isReborn = false := by
  refine ⟨fun h => ?_, said_eq⟩
  have hlength := said_length state os
  rw [h] at hlength
  have hnone : (upTo Order.isShutdown os).countP Order.isReborn = 0 := by omega
  rw [List.countP_eq_zero] at hnone
  intro o ho
  simpa using hnone o ho

theorem Order.answers_isNotice (knowsReborn : Bool) (state : String) (o : Order) :
    ∀ s ∈ o.answers knowsReborn state, s.isNotice = false := by
  obtain ⟨kind, id⟩ := o
  cases kind with
  | reborn => cases knowsReborn <;> simp [Order.answers, Said.ack, Said.isNotice]
  | _ => simp [Order.answers, Said.pong, Said.ack, Said.update, Said.isNotice]

theorem said_isNotice {knowsReborn : Bool} {state : String} {os : List Order} :
    ∀ s ∈ said knowsReborn state os, s.isNotice = false := by
  intro s hs
  obtain ⟨x, hx, hsx⟩ := List.mem_flatMap.mp hs
  obtain ⟨state', hout⟩ := Responder.run_outputs _ hx
  have hanswers : x.2 = x.1.answers knowsReborn state' := hout
  rw [hanswers] at hsx
  exact x.1.answers_isNotice knowsReborn state' s hsx

theorem said_takeWhile (knowsReborn : Bool) (state : String) (os : List Order)
    {tail : List Said} (htail : ∀ s, tail.head? = some s → s.isNotice = true) :
    (opening ++ (said knowsReborn state os ++ tail)).takeWhile (fun s => !s.isNotice) =
      opening ++ said knowsReborn state os := by
  have hopening : ∀ s ∈ opening ++ said knowsReborn state os, (!s.isNotice) = true := by
    intro s hs
    rcases List.mem_append.mp hs with hs | hs
    · simp only [opening, List.mem_cons, List.not_mem_nil, or_false] at hs
      rcases hs with rfl | rfl <;> rfl
    · simp [said_isNotice s hs]
  have hnone : tail.takeWhile (fun s => !s.isNotice) = [] := by
    cases tail with
    | nil => rfl
    | cons s tail =>
      have hs : s.isNotice = true := htail s rfl
      simp [hs]
  rw [← List.append_assoc, List.takeWhile_append_of_pos hopening, hnone, List.append_nil]

end AegisSdk.Protocol
