import AegisSdk.Protocol.Dialogue
import AegisSdk.Rust.Conversation

/-!
The Rust component in the dialogue with the daemon: over the orders of the daemon and its
ACKs it says what a component does that knows REBORN.
-/

set_option autoImplicit false
set_option relaxedAutoImplicit false

namespace AegisSdk.Rust

open AegisSdk.Protocol AegisSdk.Library
open List (Forall₂)

def Envelope.said (env : Envelope) : Said where
  type := env.msgType.name
  command := env.command.name
  state := env.payload.get "state"
  correlationId := env.correlationId

/-- What a piece of a trace says after REGISTER, up to a closing notice. -/
def dialogueOf (es : List Event) : List Said :=
  (((es.filterMap Event.written).map Envelope.said).drop 1).takeWhile fun s => !s.isNotice

variable (rt : Runtime) (cfg : Config) (token : Nat)

def spoken (link : Link) (w : World) : List Said :=
  dialogueOf ((final (runOnce rt cfg link w)).trace.drop w.trace.length)

def IsAck (env : Envelope) : Prop := env.msgType = .control ∧ env.command = .ack

def Carries (env : Envelope) (o : Order) : Prop :=
  env.messageId = o.id ∧ match o.kind with
    | .ping => IsPing env
    | .configure => IsConfigure env
    | .reborn => IsReborn env
    | .recoverableError => IsError env ∧ errorRecoverable env = true
    | .shutdown => IsShutdown env

def heard (envs : List Envelope) : List Inbound :=
  envs.map fun env => { env := env, onConfigure := .ok () }

def Effect.said : Effect → Option Said
  | .sent line => some line.said
  | _ => none

theorem said_plain (env : Envelope) : env.plain.said = env.said := by
  have hstate : ∀ m : String × Json, m.1 = "state" → (m.1 != "uptime_seconds") = true := by
    intro m hm
    simp [hm]
  have hget := Payload.get_filter env.payload hstate
  simp only [Envelope.said, Envelope.plain, hget]

theorem written_said (es : List Event) :
    (es.filterMap Event.written).map Envelope.said =
      (es.filterMap Event.effect).filterMap Effect.said := by
  rw [List.map_filterMap, List.filterMap_filterMap]
  apply List.filterMap_congr
  intro e _
  cases e with
  | write env => simp [Event.written, Event.effect, Effect.said, said_plain]
  | _ => rfl

section Order

variable {env : Envelope} {o : Order}

theorem carries_does (h : Carries env o) (st : ComponentState) :
    (replies cfg token st ⟨env, .ok ()⟩).filterMap Effect.said = o.answers true st.display ∧
      (following st ⟨env, .ok ()⟩).display = o.following st.display ∧
      ending ⟨env, .ok ()⟩ = if o.isShutdown then some (.ok ()) else none := by
  obtain ⟨kind, id⟩ := o
  obtain ⟨rfl, hkind⟩ := h
  cases kind with
  | ping =>
    obtain ⟨hreplies, hfollowing, hverdict⟩ :=
      does_ping cfg token st (i := ⟨env, .ok ()⟩) hkind
    rw [hreplies, hfollowing, ending_eq_none hverdict]
    exact ⟨rfl, rfl, rfl⟩
  | configure =>
    obtain ⟨hreplies, hfollowing, hverdict⟩ :=
      does_configure cfg token st (i := ⟨env, .ok ()⟩) hkind rfl
    rw [hreplies, hfollowing, ending_eq_none hverdict]
    exact ⟨rfl, rfl, rfl⟩
  | reborn =>
    obtain ⟨hreplies, hfollowing, hverdict⟩ :=
      does_reborn cfg token st (i := ⟨env, .ok ()⟩) hkind
    rw [hreplies, hfollowing, ending_eq_none hverdict]
    exact ⟨rfl, rfl, rfl⟩
  | recoverableError =>
    obtain ⟨he, hr⟩ := hkind
    obtain ⟨hreplies, hfollowing, hverdict⟩ :=
      does_error cfg token st (i := ⟨env, .ok ()⟩) he
    rw [hr] at hverdict
    rw [hreplies, hfollowing, ending_eq_none hverdict]
    exact ⟨rfl, rfl, rfl⟩
  | shutdown =>
    have hs : IsShutdown env := hkind
    obtain ⟨hreplies, hfollowing, -⟩ :=
      does_shutdown cfg token st (i := ⟨env, .ok ()⟩) hkind
    rw [hreplies, hfollowing, ending, if_pos hs]
    exact ⟨rfl, rfl, rfl⟩

theorem isAck_does (h : IsAck env) (st : ComponentState) :
    Does cfg token st ⟨env, .ok ()⟩ [] st .continue := by
  obtain ⟨ht, _⟩ := h
  apply does_nothing
  simp [Ignored, IsPing, IsConfigure, IsReborn, IsShutdown, IsError, ht]

end Order

def machineSays (st : ComponentState) (envs : List Envelope) : List Said :=
  ((conversation cfg token).run st (heard envs)).exchanges.flatMap
    fun x => x.2.filterMap Effect.said

theorem machineSays_next {st : ComponentState} {env : Envelope} (envs : List Envelope)
    (h : ending ⟨env, .ok ()⟩ = none) :
    machineSays cfg token st (env :: envs) =
      (replies cfg token st ⟨env, .ok ()⟩).filterMap Effect.said ++
        machineSays cfg token (following st ⟨env, .ok ()⟩) envs := by
  have hstop : (conversation cfg token).stop st ⟨env, .ok ()⟩ = none := h
  rw [machineSays, heard, List.map_cons, Responder.run_next _ _ hstop, List.flatMap_cons]
  rfl

theorem machineSays_last {st : ComponentState} {env : Envelope} (envs : List Envelope)
    {r : Except AegisError Unit} (h : ending ⟨env, .ok ()⟩ = some r) :
    machineSays cfg token st (env :: envs) =
      (replies cfg token st ⟨env, .ok ()⟩).filterMap Effect.said := by
  have hstop : (conversation cfg token).stop st ⟨env, .ok ()⟩ = some r := h
  rw [machineSays, heard, List.map_cons, Responder.run_last _ _ hstop, List.flatMap_singleton]
  rfl

theorem machineSays_acks {acks : List Envelope} (h : ∀ env ∈ acks, IsAck env)
    (st : ComponentState) (envs : List Envelope) :
    machineSays cfg token st (acks ++ envs) = machineSays cfg token st envs := by
  induction acks with
  | nil => rfl
  | cons ack acks ih =>
    obtain ⟨hack, hacks⟩ := List.forall_mem_cons.mp h
    obtain ⟨hreplies, hfollowing, hverdict⟩ := isAck_does cfg token hack st
    rw [List.cons_append, machineSays_next cfg token _ (ending_eq_none hverdict), hreplies,
      hfollowing, ih hacks]
    rfl

/-- Over the messages of a daemon the machine is a component that knows REBORN. -/
theorem machineSays_script {os : List Order} {envs : List Envelope}
    (h : Script Carries IsAck os envs) (st : ComponentState) :
    machineSays cfg token st envs = said true st.display os := by
  induction h generalizing st with
  | done => rfl
  | @order o env acks os envs hcarries _ hacks _ ih =>
    obtain ⟨hreplies, hfollowing, hending⟩ := carries_does cfg token hcarries st
    rw [said_cons]
    cases hs : o.isShutdown with
    | true =>
      rw [hs, if_pos rfl] at hending
      rw [machineSays_last cfg token _ hending, hreplies, if_pos rfl, List.append_nil]
    | false =>
      rw [hs, if_neg Bool.false_ne_true] at hending
      rw [machineSays_next cfg token _ hending, hreplies, machineSays_acks cfg token hacks, ih,
        hfollowing, if_neg Bool.false_ne_true]

theorem registers_of_gives {reads : List Read} {env : Envelope} {envs : List Envelope}
    (gives : Forall₂ (Gives rt) reads (heard (env :: envs))) (hcommand : env.command = .registered)
    {a b : Json} (ha : env.payload.get "component_id" = some a)
    (hb : env.payload.get "session_id" = some b) :
    ∃ rest, Registers rt reads a b rest ∧ Forall₂ (Gives rt) rest (heard envs) := by
  obtain ⟨read, rest, hread, gives', rfl⟩ := List.forall₂_cons_right_iff.mp gives
  obtain ⟨bytes, hevent, hdecode, -⟩ := hread
  have hreply : reply rt (read :: rest) = .ok (env, rest) := by
    rw [reply]
    simp only [hevent, hdecode]
  exact ⟨rest, ⟨env, hreply, hcommand, ha, hb⟩, gives'⟩

/-- On a connection that registers, against a daemon that ACKs every STATE_UPDATE, the
component says what a component does that knows REBORN. -/
theorem spoken_eq {link : Link} (hconn : link.connected = true)
    (hwrites : ∀ b ∈ link.writes, b = true) {a b : Json} {rest : List Read}
    (hreg : Registers rt link.reads a b rest) {acks envs : List Envelope}
    (hacks : ∀ env ∈ acks, IsAck env) {os : List Order} (hscript : Script Carries IsAck os envs)
    (gives : Forall₂ (Gives rt) rest (heard (acks ++ envs))) (w : World) :
    spoken rt cfg link w = opening ++ said true "READY" os := by
  obtain ⟨token, r, i, d, es, w', h, trace, -, records⟩ :=
    runOnce_conversation rt cfg hconn hwrites hreg gives w
  have hfinal : final (runOnce rt cfg link w) = w' := by
    rw [h]
    generalize loopOutcome _ = outcome
    cases outcome <;> rfl
  have hmachine : (es.filterMap Event.written).map Envelope.said = said true "READY" os := by
    rw [written_said, records.effects, List.filterMap_flatMap]
    exact (machineSays_acks cfg token hacks .ready envs).trans
      (machineSays_script cfg token hscript .ready)
  rw [spoken, hfinal, trace, List.drop_left, dialogueOf, List.filterMap_append, List.map_append,
    hmachine]
  have hcut : (opening ++ (said true "READY" os ++ [])).takeWhile (fun s => !s.isNotice) =
      opening ++ said true "READY" os := said_takeWhile true "READY" os (by simp)
  rw [List.append_nil] at hcut
  exact hcut

end AegisSdk.Rust
