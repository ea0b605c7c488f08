import AegisSdk.Rust.Conversation
import AegisSdk.Rust.Reader

/-!
Correlated replies. Over any splitting of a connection's bytes into reads, the envelopes
with a correlation id answer the messages one by one, up to the message that ends the loop.
-/

set_option autoImplicit false
set_option relaxedAutoImplicit false

namespace AegisSdk.Rust

open AegisSdk.Protocol AegisSdk.Library
open List (Forall₂)

/-- What a reply shows of itself: its type, its command and the message it answers. -/
abbrev Correlated := MessageType × Command × String

def Envelope.correlated (env : Envelope) : Option Correlated :=
  env.correlationId.map fun id => (env.msgType, env.command, id)

def Event.correlated : Event → Option Correlated
  | .write env => env.correlated
  | _ => none

def Effect.correlated : Effect → Option Correlated
  | .sent line => line.correlated
  | _ => none

def Inbound.reply (i : Inbound) : Option Correlated :=
  if IsPing i.env then some (.heartbeat, .pong, i.env.messageId)
  else if i.configures || IsReborn i.env || IsShutdown i.env then
    some (.control, .ack, i.env.messageId)
  else none

variable (rt : Runtime) (cfg : Config) (token : Nat)

theorem Event.correlated_eq (e : Event) : e.correlated = e.effect.bind Effect.correlated := by
  cases e <;> rfl

theorem replies_correlated (st : ComponentState) (i : Inbound) :
    (replies cfg token st i).filterMap Effect.correlated = i.reply.toList := by
  unfold replies Inbound.reply Inbound.configures
  by_cases hp : IsPing i.env
  · simp only [if_pos hp]
    rfl
  simp only [if_neg hp]
  by_cases hc : IsConfigure i.env
  · simp only [if_pos hc]
    obtain ⟨ht, _⟩ := hc
    cases hanswer : i.onConfigure with
    | ok u =>
      simp [IsConfigure, IsReborn, IsShutdown, *, Except.isOk, Except.toBool]
      rfl
    | error e =>
      simp [IsConfigure, IsReborn, IsShutdown, *, Except.isOk, Except.toBool]
      rfl
  simp only [if_neg hc]
  by_cases hr : IsReborn i.env
  · simp [hr]
    rfl
  by_cases hs : IsShutdown i.env
  · simp [hr, hs]
    rfl
  · simp [hc, hr, hs]

theorem Records.correlated {es : List Event} {st : ComponentState} {inputs : List Inbound}
    (h : Records es ((conversation cfg token).run st inputs)) :
    es.filterMap Event.correlated = (upTo Inbound.ends inputs).filterMap Inbound.reply := by
  have stops := Responder.run_inputs (conversation cfg token) (fun _ i => ending_isSome i) st inputs
  calc es.filterMap Event.correlated
      = (es.filterMap Event.effect).filterMap Effect.correlated := by
        rw [List.filterMap_filterMap]
        exact List.filterMap_congr fun e _ => e.correlated_eq
    _ = ((conversation cfg token).run st inputs).exchanges.flatMap
          fun x => x.2.filterMap Effect.correlated := by
        rw [h.effects, List.filterMap_flatMap]
    _ = ((conversation cfg token).run st inputs).exchanges.flatMap
          fun x => x.1.reply.toList := by
        apply List.flatMap_congr
        intro x hx
        obtain ⟨s, hs⟩ := Responder.run_outputs _ hx
        rw [hs]
        exact replies_correlated cfg token s x.1
    _ = (upTo Inbound.ends inputs).filterMap Inbound.reply := by
        rw [← stops, List.filterMap_map, List.filterMap_eq_flatMap_toList]
        rfl

/-- The messages of the further lines; the first line of the connection has number 0. -/
def inbound (onConfigure : Nat → Except AegisError Unit) (envs : List Envelope) : List Inbound :=
  envs.mapIdx fun k env => { env := env, onConfigure := onConfigure (k + 1) }

def readsOf (onConfigure : Nat → Except AegisError Unit) (lines : List (List UInt8)) : List Read :=
  lines.mapIdx fun k line => { event := .line line, onConfigure := onConfigure (k + 1) }

theorem gives_readsOf {lines : List (List UInt8)} {envs : List Envelope}
    (h : Forall₂ (fun line env => decodeLine rt line = .ok env) lines envs)
    (onConfigure : Nat → Except AegisError Unit) :
    Forall₂ (Gives rt) (readsOf onConfigure lines) (inbound onConfigure envs) := by
  induction h generalizing onConfigure with
  | nil => exact .nil
  | @cons line env lines envs hline _ ih =>
    unfold readsOf inbound
    rw [List.mapIdx_cons, List.mapIdx_cons]
    exact .cons ⟨line, rfl, hline, rfl⟩ (ih fun k => onConfigure (k + 1))

theorem socketReads_cons {pieces : List (List UInt8)} {first : List UInt8}
    {further : List (List UInt8)} (h : lines newline pieces.flatten = first :: further)
    (onConfigure : Nat → Except AegisError Unit) :
    socketReads onConfigure pieces =
      { event := .line first, onConfigure := onConfigure 0 } :: readsOf onConfigure further := by
  rw [socketReads, socketLines_eq, h, List.mapIdx_cons]
  rfl

def socketLink (onConfigure : Nat → Except AegisError Unit) (pieces : List (List UInt8))
    (writes : List Bool) : Link :=
  { reads := socketReads onConfigure pieces, writes := writes }

/-- Whatever pieces the bytes of a connection arrive in: if its first line is a REGISTERED
envelope with both ids, its further lines decode and the writes succeed, the envelopes sent
with a correlation id are the replies to its messages, one by one, up to the first SHUTDOWN or
fatal ERROR; each message up to there is dispatched once, and how the connection ends is
settled by that message alone. -/
theorem replies_exactly_once (pieces : List (List UInt8)) {first : List UInt8}
    {further : List (List UInt8)} (hlines : lines newline pieces.flatten = first :: further)
    {registered : Envelope} (hfirst : decodeLine rt first = .ok registered)
    (hcommand : registered.command = .registered)
    {a : Json} (ha : registered.payload.get "component_id" = some a)
    {b : Json} (hb : registered.payload.get "session_id" = some b) {envs : List Envelope}
    (hfurther : Forall₂ (fun line env => decodeLine rt line = .ok env) further envs)
    (onConfigure : Nat → Except AegisError Unit) {writes : List Bool}
    (hwrites : ∀ ok ∈ writes, ok = true) (w : World) :
    ∃ es w', runOnce rt cfg (socketLink onConfigure pieces writes) w =
        onceResult (loopOutcome ((inbound onConfigure envs).findSome? ending)) w' ∧
      w'.trace = w.trace ++ es ∧
      es.filterMap Event.correlated =
        (upTo Inbound.ends (inbound onConfigure envs)).filterMap Inbound.reply ∧
      es.filterMap Event.dispatched =
        (upTo Inbound.ends (inbound onConfigure envs)).map Inbound.env := by
  have hreads := socketReads_cons hlines onConfigure
  have hreply : reply rt (socketLink onConfigure pieces writes).reads =
      .ok (registered, readsOf onConfigure further) := by
    change reply rt (socketReads onConfigure pieces) = _
    rw [hreads, reply]
    simp only [hfirst]
  have hconn : (socketLink onConfigure pieces writes).connected = true := rfl
  obtain ⟨token, r, i, d, es, w', h, trace, _, records⟩ :=
    runOnce_conversation rt cfg hconn hwrites ⟨registered, hreply, hcommand, ha, hb⟩
      (gives_readsOf rt hfurther onConfigure) w
  have result := Responder.run_result (conversation cfg token) (f := ending) (fun _ _ => rfl) .ready
    (inbound onConfigure envs)
  have inputs := Responder.run_inputs (conversation cfg token) (fun _ i => ending_isSome i) .ready
    (inbound onConfigure envs)
  refine ⟨_, w', result ▸ h, trace, ?_, ?_⟩
  · rw [List.filterMap_append, records.correlated]
    rfl
  · rw [List.filterMap_append, records.dispatched, inputs]
    rfl

namespace Sample

/-- REGISTERED, CONFIGURE, SHUTDOWN and one more CONFIGURE, in two reads. -/
def pieces : List (List UInt8) :=
  [registered ++ configure.take 5, configure.drop 5 ++ shutdown ++ configure]

end Sample

theorem replies_exactly_once_sample :
    ∃ es w', runOnce Sample.runtime Sample.config
        (socketLink (fun _ => .ok ()) Sample.pieces []) {} = .ok () w' ∧
      w'.trace = es ∧
      es.filterMap Event.correlated = [(.control, .ack, "m2"), (.control, .ack, "m3")] ∧
      es.filterMap Event.dispatched = [Sample.configureEnvelope, Sample.shutdownEnvelope] := by
  have hlines : lines newline Sample.pieces.flatten =
      [Sample.registered, Sample.configure, Sample.shutdown, Sample.configure] := by
    decide +kernel
  obtain ⟨es, w', h, trace, correlated, dispatched⟩ :=
    replies_exactly_once Sample.runtime Sample.config Sample.pieces hlines
      Sample.decodes_registered rfl rfl rfl
      (.cons Sample.decodes_configure (.cons Sample.decodes_shutdown
        (.cons Sample.decodes_configure .nil)))
      (fun _ => .ok ()) (List.forall_mem_nil _) {}
  exact ⟨es, w', h, trace, correlated, dispatched⟩

end AegisSdk.Rust
