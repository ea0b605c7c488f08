import AegisSdk.Agreement
import AegisSdk.Decoders
import AegisSdk.OCaml.Workers

/-!
The five components against one daemon that sends the same messages to each of them. They say
the same about its orders, apart from three differences: Rust, Go and Python are READY where
C++ and OCaml are REGISTERED, only Rust answers a REBORN, and C++ and OCaml leave at one.
-/

set_option autoImplicit false
set_option relaxedAutoImplicit false

namespace AegisSdk

open Protocol Library
open List (Forall₂)

theorem Protocol.decode_acks {α β : Type} {isAck : α → Prop} {isAck' : β → Prop}
    {R : α → β → Prop} (hack : ∀ a, isAck a → ∃ b, R a b ∧ isAck' b) {l : List α}
    (hl : ∀ a ∈ l, isAck a) : ∃ l', Forall₂ R l l' ∧ ∀ b ∈ l', isAck' b := by
  induction l with
  | nil => exact ⟨[], .nil, List.forall_mem_nil _⟩
  | cons a l ih =>
    obtain ⟨ha, hl⟩ := List.forall_mem_cons.mp hl
    obtain ⟨b, hab, hb⟩ := hack a ha
    obtain ⟨l', hl', hall⟩ := ih hl
    exact ⟨b :: l', .cons hab hl', List.forall_mem_cons.mpr ⟨hb, hall⟩⟩

theorem Protocol.Script.decode {α β : Type} {carries : α → Order → Prop} {isAck : α → Prop}
    {carries' : β → Order → Prop} {isAck' : β → Prop} {R : α → β → Prop}
    (hcarries : ∀ a o, carries a o → ∃ b, R a b ∧ carries' b o)
    (hack : ∀ a, isAck a → ∃ b, R a b ∧ isAck' b) {os : List Order} {ms : List α}
    (h : Script carries isAck os ms) :
    ∃ ms', Forall₂ R ms ms' ∧ Script carries' isAck' os ms' := by
  induction h with
  | done => exact ⟨[], .nil, .done⟩
  | @order o a l os ms ha hlength hl _ ih =>
    obtain ⟨b, hab, hb⟩ := hcarries a o ha
    obtain ⟨l', hl', hall⟩ := decode_acks hack hl
    obtain ⟨ms', hms', hscript⟩ := ih
    exact ⟨b :: (l' ++ ms'), .cons hab (List.rel_append hl' hms'),
      .order hb (hl'.length_eq.symm.trans hlength) hall hscript⟩

theorem Protocol.Script.along {α β : Type} {carries : α → Order → Prop} {isAck : α → Prop}
    {carries' : β → Order → Prop} {isAck' : β → Prop} {R : β → α → Prop}
    (hcarries : ∀ a b o, R b a → carries a o → carries' b o)
    (hack : ∀ a b, R b a → isAck a → isAck' b) {os : List Order} {ms : List α}
    (h : Script carries isAck os ms) {ms' : List β} (hms : Forall₂ R ms' ms) :
    Script carries' isAck' os ms' := by
  induction h generalizing ms' with
  | done =>
    cases hms
    exact .done
  | @order o a l os ms ha hlength hl _ ih =>
    obtain ⟨b, rest, hab, hrest, rfl⟩ := List.forall₂_cons_right_iff.mp hms
    obtain ⟨l', ms', rfl, hl', hms'⟩ := forall₂_split hrest
    have hacks : ∀ b ∈ l', isAck' b := by
      intro b hb
      obtain ⟨i, hi, rfl⟩ := List.getElem_of_mem hb
      have hi' : i < l.length := hl'.length_eq ▸ hi
      exact hack l[i] l'[i] (hl'.get hi hi') (hl _ (List.getElem_mem hi'))
    exact .order (hcarries a b o hab ha) (hl'.length_eq.trans hlength) hacks (ih hms')

/-- The messages of the daemon on a connection: the answer to REGISTER, the ACKs of the first
two STATE_UPDATEs, and orders with their ACKs. -/
structure Conversation (registered : Json) (acks vs : List Json) (orders : List Order) :
    Prop where
  registers : Wire.Registers registered
  length : acks.length = acksFor opening
  acks : ∀ v ∈ acks, Wire.Acks v
  script : Script Wire.Conveys Wire.Acks orders vs

namespace Rust

/-- A connection on which these messages come, where nothing fails. -/
structure Hears (rt : Runtime) (link : Link) (vs : List Json) : Prop where
  connected : link.connected = true
  reads : Forall₂ (fun read v => read.onConfigure = .ok () ∧ ∃ bytes, read.event = .line bytes ∧
    (String.fromUTF8? ⟨bytes.toArray⟩).isSome = true ∧ rt.parse bytes = some v) link.reads vs
  writes : ∀ ok ∈ link.writes, ok = true

def Decodes (v : Json) (env : Envelope) : Prop := Envelope.deserialize v = some env

theorem decodes_conveys (v : Json) (o : Order) (h : Wire.Conveys v o) :
    ∃ env, Decodes v env ∧ Carries env o := by
  obtain ⟨kind, id⟩ := o
  obtain ⟨x, ms, payload, rfl, hof, hpayload, hid, hbears⟩ := h
  have hobject := hpayload.object
  cases hbears with
  | ping ht hc =>
    exact ⟨_, deserialize_wire hof hobject (t := .heartbeat) (c := .ping) ht hc, hid, rfl, rfl⟩
  | configure socket topics ht hc =>
    exact ⟨_, deserialize_wire hof hobject (t := .config) (c := .configure) ht hc, hid, rfl, rfl⟩
  | reborn ht hc =>
    exact ⟨_, deserialize_wire hof hobject (t := .lifecycle) (c := .reborn) ht hc, hid, rfl, rfl⟩
  | shutdown ht hc =>
    exact ⟨_, deserialize_wire hof hobject (t := .lifecycle) (c := .shutdown) ht hc, hid, rfl, rfl⟩
  | recoverableError code message ht hc hcode hmessage hrecoverable =>
    obtain ⟨c, hc⟩ := command_known hc
    refine ⟨_, deserialize_wire hof hobject (t := .error) ht hc, hid, rfl, ?_⟩
    show ((Payload.get payload "recoverable").bind Json.asBool).getD false = true
    rw [hpayload.get hrecoverable]
    rfl

theorem decodes_acks (v : Json) (h : Wire.Acks v) : ∃ env, Decodes v env ∧ IsAck env := by
  obtain ⟨x, ms, payload, rfl, hof, hpayload, ht, hc⟩ := h
  exact ⟨_, deserialize_wire hof hpayload.object (t := .control) (c := .ack) ht hc, rfl, rfl⟩

theorem gives_of_decodes {rt : Runtime} {reads : List Read} {vs : List Json}
    (h : Forall₂ (fun read v => read.onConfigure = .ok () ∧ ∃ bytes, read.event = .line bytes ∧
      (String.fromUTF8? ⟨bytes.toArray⟩).isSome = true ∧ rt.parse bytes = some v) reads vs)
    {envs : List Envelope} (hdecodes : Forall₂ Decodes vs envs) :
    Forall₂ (Gives rt) reads (heard envs) := by
  induction hdecodes generalizing reads with
  | nil =>
    cases h
    exact .nil
  | cons hdecode _ ih =>
    obtain ⟨read, rest, ⟨hconfigure, bytes, hevent, hutf8, hparse⟩, hrest, rfl⟩ :=
      List.forall₂_cons_right_iff.mp h
    exact .cons ⟨bytes, hevent, decodeLine_ok rt hutf8 hparse hdecode, hconfigure⟩ (ih hrest)

theorem spoken_conversation (rt : Runtime) (cfg : Config) {registered : Json}
    {acks vs : List Json} {orders : List Order}
    (h : Conversation registered acks vs orders) {link : Link}
    (hears : Hears rt link (registered :: (acks ++ vs))) (w : World) :
    spoken rt cfg link w = opening ++ said true "READY" orders := by
  obtain ⟨x, ms, payload, i, i', rfl, hof, hpayload, ht, hc, hi, hi'⟩ := h.registers
  obtain ⟨envs, hdecodes, hscript⟩ := h.script.decode decodes_conveys decodes_acks
  obtain ⟨ackEnvs, hacks, hall⟩ : ∃ l, Forall₂ Decodes acks l ∧ ∀ env ∈ l, IsAck env :=
    decode_acks decodes_acks h.acks
  let env := ofWire x .lifecycle .registered payload
  have hdecode : Decodes (.obj ms) env :=
    deserialize_wire hof hpayload.object (t := .lifecycle) (c := .registered) ht hc
  have hgives : Forall₂ (Gives rt) link.reads (heard (env :: (ackEnvs ++ envs))) :=
    gives_of_decodes hears.reads (.cons hdecode (List.rel_append hacks hdecodes))
  obtain ⟨rest, hreg, hrest⟩ :=
    registers_of_gives rt hgives rfl (hpayload.get hi) (hpayload.get hi')
  exact spoken_eq rt cfg hears.connected hears.writes hreg hall hscript hrest w

end Rust

namespace Go

/-- The connection on which these messages come, where nothing fails. -/
structure Hears (float : String → Option String) (link : Link) (vs : List Json) : Prop where
  inbox : ∃ envs, Forall₂ (fun env v => unmarshal float v = some env) envs vs ∧
    link = { inbox := (heard envs).map incoming, writes := link.writes }
  writes : ∀ ok ∈ link.writes, ok = true

theorem carries_of_unmarshal {float : String → Option String} (v : Json) (env : Envelope)
    (o : Order) (hdecode : unmarshal float v = some env) (h : Wire.Conveys v o) : Carries env o := by
  obtain ⟨kind, id⟩ := o
  obtain ⟨x, ms, payload, rfl, hof, hpayload, hid, hbears⟩ := h
  obtain ⟨held, hheld, rfl⟩ := eq_of_unmarshal float hof hpayload.object hdecode
  cases hbears with
  | ping ht hc => exact ⟨hid, ht, hc⟩
  | configure socket topics ht hc => exact ⟨hid, ht, hc⟩
  | reborn ht hc => exact ⟨hid, ht, hc⟩
  | shutdown ht hc => exact ⟨hid, ht, hc⟩
  | recoverableError code message ht hc hcode hmessage hrecoverable =>
    refine ⟨hid, ht, ?_⟩
    show ((Payload.get held "recoverable").bind Json.asBool).getD false = true
    obtain ⟨v, hv, hmem⟩ := mem_of_hold hheld hrecoverable
    obtain rfl := Option.some.inj hv
    have hnodup : (held.map Prod.fst).Nodup := (keys_of_hold hheld).symm ▸ hpayload.nodup
    rw [(Payload.get_eq_some_iff hnodup).mpr hmem]
    rfl

theorem isAck_of_unmarshal {float : String → Option String} (v : Json) (env : Envelope)
    (hdecode : unmarshal float v = some env) (h : Wire.Acks v) : IsAck env := by
  obtain ⟨x, ms, payload, rfl, hof, hpayload, ht, hc⟩ := h
  obtain ⟨held, -, rfl⟩ := eq_of_unmarshal float hof hpayload.object hdecode
  exact ⟨ht, hc⟩

theorem registered_of_unmarshal {float : String → Option String} {v : Json} {env : Envelope}
    (hdecode : unmarshal float v = some env) (h : Wire.Registers v) :
    env.command = Command.registered := by
  obtain ⟨x, ms, payload, i, i', rfl, hof, hpayload, ht, hc, -⟩ := h
  obtain ⟨held, -, rfl⟩ := eq_of_unmarshal float hof hpayload.object hdecode
  exact hc

theorem spoken_conversation (rt : Runtime) (cfg : Config) (handlers : Handlers)
    {float : String → Option String} {registered : Json} {acks vs : List Json} {orders : List Order}
    (h : Conversation registered acks vs orders) {link : Link}
    (hears : Hears float link (registered :: (acks ++ vs))) (w : World) :
    spoken rt cfg handlers link w = opening ++ said false State.ready orders := by
  obtain ⟨envs, hdecodes, hlink⟩ := hears.inbox
  obtain ⟨env, rest, henv, hrest, rfl⟩ := List.forall₂_cons_right_iff.mp hdecodes
  obtain ⟨ackEnvs, envs, rfl, hacks, henvs⟩ := forall₂_split hrest
  have hscript : Script Carries IsAck orders envs :=
    h.script.along carries_of_unmarshal isAck_of_unmarshal henvs
  have hlength : ackEnvs.length = acksFor opening := hacks.length_eq.trans h.length
  have hconversation : link =
      conversation { env := env } (heard (ackEnvs ++ envs)) link.writes := hlink
  rw [hconversation]
  exact spoken_eq rt cfg handlers (registered_of_unmarshal henv h.registers) hlength hscript
    hears.writes w

end Go

structure Peers where
  rust : Rust.Link
  go : Go.Link
  python : Python.Link
  ocaml : OCaml.Link
  cpp : Cpp.Link

structure Runtimes where
  rust : Rust.Runtime
  go : Go.Runtime
  numbers : Numbers
  python : Python.Runtime
  ocaml : OCaml.Runtime
  cpp : Cpp.Runtime
  threads : Cpp.Threads

structure Configs where
  rust : Rust.Config
  go : Go.Config
  goHandlers : Go.Handlers
  python : Python.Config
  ocaml : OCaml.Config
  ocamlHandlers : OCaml.Handlers
  cpp : Cpp.Config

structure Worlds where
  rust : Rust.World
  go : Go.World
  python : Python.World
  ocaml : OCaml.World
  cpp : Cpp.World

structure AllHear (rts : Runtimes) (peers : Peers) (vs : List Json) : Prop where
  rust : Rust.Hears rts.rust peers.rust vs
  go : Go.Hears rts.numbers.go peers.go vs
  python : Python.Hears rts.python peers.python vs
  ocaml : OCaml.Hears rts.ocaml peers.ocaml vs
  cpp : Cpp.Hears rts.cpp peers.cpp vs
  calm : rts.threads.Calm

/-- The five components say the same about their orders, after what Rust, Go and Python say
before them. -/
def SayTheSame (rts : Runtimes) (cfgs : Configs) (peers : Peers) (ws : Worlds) : Prop :=
  ∃ answers,
    Rust.spoken rts.rust cfgs.rust peers.rust ws.rust = opening ++ answers ∧
    Go.spoken rts.go cfgs.go cfgs.goHandlers peers.go ws.go = opening ++ answers ∧
    Python.spoken rts.python cfgs.python peers.python ws.python = opening ++ answers ∧
    OCaml.spoken rts.ocaml cfgs.ocaml cfgs.ocamlHandlers peers.ocaml ws.ocaml = answers ∧
    Cpp.spoken rts.cpp cfgs.cpp rts.threads peers.cpp ws.cpp = answers

/-- Against a daemon that ACKs every STATE_UPDATE before it sends anything else, where nothing
fails, the five components say the same about their orders exactly if there is no REBORN up to
the first SHUTDOWN and no PING before the first CONFIGURE. -/
theorem sdks_say_the_same_iff (rts : Runtimes) (cfgs : Configs) {registered : Json}
    {acks vs : List Json} {orders : List Order} (h : Conversation registered acks vs orders)
    {peers : Peers} (hears : AllHear rts peers (registered :: (acks ++ vs))) (ws : Worlds) :
    SayTheSame rts cfgs peers ws ↔
      (∀ o ∈ upTo Order.isShutdown orders, o.isReborn = false) ∧
        ∀ o ∈ early orders, o.kind ≠ .ping := by
  have hrust := Rust.spoken_conversation rts.rust cfgs.rust h hears.rust ws.rust
  have hgo := Go.spoken_conversation rts.go cfgs.go cfgs.goHandlers h hears.go ws.go
  have hpython := Python.spoken_eq rts.python cfgs.python h.registers h.length h.acks h.script
    hears.python ws.python
  have hocaml := OCaml.spoken_eq rts.ocaml cfgs.ocaml cfgs.ocamlHandlers h.registers h.acks
    h.script hears.ocaml ws.ocaml
  have hcpp := Cpp.spoken_eq rts.cpp cfgs.cpp hears.calm h.registers h.acks h.script hears.cpp
    ws.cpp
  have halike := said_alike_iff orders
  unfold SayTheSame
  rw [hrust, hgo, hpython, hocaml, hcpp, ← halike]
  simp only [List.append_cancel_left_eq]
  constructor
  · rintro ⟨answers, h₁, h₂, -, h₃, -⟩
    exact ⟨h₁.trans h₂.symm, h₂.trans h₃.symm⟩
  · rintro ⟨h₁, h₂⟩
    exact ⟨_, h₁, rfl, rfl, h₂.symm, h₂.symm⟩

namespace Sample

def acknowledgement : Json := Daemon.message "m4" "CONTROL" "ACK" (.obj [])

def known : List Json :=
  [Daemon.registered, Daemon.configure, Daemon.shutdown, acknowledgement]

def asked : List Json :=
  [Daemon.configure, acknowledgement, acknowledgement, Daemon.shutdown]

def sent : List Json := Daemon.registered :: ([acknowledgement, acknowledgement] ++ asked)

theorem parse_line {values : List Json} (h : (values.map Daemon.line).Nodup) {v : Json}
    (hv : v ∈ values) : Daemon.parse values (Daemon.line v) = some v := by
  induction values with
  | nil => cases hv
  | cons value values ih =>
    obtain ⟨hvalue, hnodup⟩ := List.nodup_cons.mp h
    rcases List.mem_cons.mp hv with rfl | hv
    · exact List.find?_cons_of_pos (beq_self_eq_true _)
    · have hne : (Daemon.line value == Daemon.line v) = false := by
        rw [beq_eq_false_iff_ne]
        intro heq
        exact hvalue (List.mem_map.mpr ⟨v, hv, heq.symm⟩)
      unfold Daemon.parse
      rw [List.find?_cons, hne]
      exact ih hnodup hv

theorem sent_known : ∀ v ∈ sent, v ∈ known := by simp [sent, asked, known]

theorem parse_sent (v : Json) (hv : v ∈ sent) : Daemon.parse known (Daemon.line v) = some v :=
  parse_line (by decide +kernel) (sent_known v hv)

def wireOf (id type command : String) (payload : Json) : Wire where
  protocolVersion := "0.1"
  messageId := id
  correlationId := none
  timestamp := "t"
  source := "aegis"
  target := "component:c"
  type := type
  command := command
  payload := payload

theorem acknowledgement_acks : ∀ v ∈ [acknowledgement, acknowledgement], Wire.Acks v := by
  intro v hv
  obtain rfl : v = acknowledgement := by simpa using hv
  exact ⟨wireOf "m4" "CONTROL" "ACK" (.obj []), _, [], rfl, .refl _, ⟨rfl, List.nodup_nil⟩, rfl,
    rfl⟩

theorem configure_conveys : Wire.Conveys Daemon.configure ⟨.configure, "m2"⟩ :=
  ⟨configureWire, _, _, rfl, .refl _, ⟨rfl, by decide⟩, rfl,
    .configure "data.sock" ["klines"] rfl rfl (by simp) (by simp [Json.ofStrings])⟩

theorem shutdown_conveys : Wire.Conveys Daemon.shutdown ⟨.shutdown, "m3"⟩ :=
  ⟨wireOf "m3" "LIFECYCLE" "SHUTDOWN" (.obj []), _, [], rfl, .refl _, ⟨rfl, List.nodup_nil⟩, rfl,
    .shutdown rfl rfl⟩

theorem conversation : Conversation Daemon.registered [acknowledgement, acknowledgement] asked
    [⟨.configure, "m2"⟩, ⟨.shutdown, "m3"⟩] where
  registers := ⟨wireOf "m1" "LIFECYCLE" "REGISTERED"
    (.obj [("component_id", .str "c1"), ("session_id", .str "s1")]), _, _, "c1", "s1", rfl,
    .refl _, ⟨rfl, by decide⟩, rfl, rfl, by simp, by simp⟩
  length := rfl
  acks := acknowledgement_acks
  script := .order configure_conveys rfl acknowledgement_acks
    (.order shutdown_conveys rfl (List.forall_mem_nil _) .done)

def runtimes : Runtimes where
  rust := { Rust.Sample.runtime with parse := Daemon.parse known }
  go := Go.Sample.runtime
  numbers := numbers
  python := { Python.Sample.runtime with
    loads := fun bytes =>
      Daemon.parse known (if bytes.getLast? = some 10 then bytes.dropLast else bytes) }
  ocaml := { OCaml.Sample.runtime with fromString := Daemon.parse known }
  cpp := { Cpp.Sample.runtime with parse := Daemon.parse known }
  threads := {}

def configs : Configs where
  rust := Rust.Sample.config
  go := Go.Sample.config
  goHandlers := {}
  python := Python.Sample.config
  ocaml := OCaml.Sample.config
  ocamlHandlers := OCaml.Sample.handlers
  cpp := Cpp.Sample.config

def decoded : List Go.Envelope := sent.filterMap (Go.unmarshal numbers.go)

def peers : Peers where
  rust := { reads := sent.map fun v => { event := .line (Daemon.line v) } }
  go := { inbox := (Go.heard decoded).map Go.incoming }
  python := Python.Sample.link sent
  ocaml := OCaml.Sample.link sent
  cpp := Cpp.Sample.link sent

theorem lines : ∀ v ∈ known, Daemon.line v ≠ [] ∧ (10 : UInt8) ∉ Daemon.line v := by
  decide +kernel

theorem line_sent (v : Json) (hv : v ∈ sent) :
    Daemon.line v ≠ [] ∧ (10 : UInt8) ∉ Daemon.line v :=
  lines v (sent_known v hv)

theorem line_decodes (v : Json) : (String.fromUTF8? ⟨(Daemon.line v).toArray⟩).isSome = true := by
  have hvalid : (ByteArray.mk (Daemon.line v).toArray).IsValidUTF8 := by
    rw [Daemon.line, Array.toArray_toList]
    exact v.text.isValidUTF8
  rw [String.fromUTF8?, dif_pos hvalid]
  rfl

theorem rust_hears : Rust.Hears runtimes.rust peers.rust sent where
  connected := rfl
  reads := by
    refine List.forall₂_map_left_iff.mpr (List.forall₂_same.mpr fun v hv => ?_)
    exact ⟨rfl, Daemon.line v, rfl, line_decodes v, parse_sent v hv⟩
  writes := List.forall_mem_nil _

theorem go_hears : Go.Hears runtimes.numbers.go peers.go sent where
  inbox := by
    refine ⟨decoded, ?_, rfl⟩
    exact .cons rfl (.cons rfl (.cons rfl (.cons rfl (.cons rfl (.cons rfl (.cons rfl .nil))))))
  writes := List.forall_mem_nil _

theorem python_hears : Python.Hears runtimes.python peers.python sent where
  connect := rfl
  reads := by
    refine List.forall₂_map_left_iff.mpr (List.forall₂_same.mpr fun v hv => ?_)
    refine ⟨rfl, Daemon.line v ++ [10], rfl, ?_⟩
    show Daemon.parse known (if (Daemon.line v ++ [10]).getLast? = some 10
      then (Daemon.line v ++ [10]).dropLast else Daemon.line v ++ [10]) = some v
    rw [List.getLast?_concat, if_pos rfl, List.dropLast_concat]
    exact parse_sent v hv
  writes := List.forall_mem_nil _

theorem ocaml_hears : OCaml.Hears runtimes.ocaml peers.ocaml sent where
  socket := rfl
  connect := rfl
  reads := by
    refine List.forall₂_map_left_iff.mpr (List.forall₂_same.mpr fun v hv => ?_)
    exact ⟨rfl, Daemon.line v, rfl, parse_sent v hv⟩
  writes := List.forall_mem_nil _

theorem cpp_hears : Cpp.Hears runtimes.cpp peers.cpp sent where
  socket := rfl
  connect := rfl
  reads := by
    refine ⟨sent.map Daemon.line, ?_, ?_⟩
    · refine List.forall₂_map_left_iff.mpr (List.forall₂_same.mpr fun v hv => ?_)
      exact ⟨(line_sent v hv).1, (line_sent v hv).2, parse_sent v hv⟩
    · exact (List.flatMap_map _ _ _).symm
  writes := List.forall_mem_nil _

theorem all_hear : AllHear runtimes peers sent where
  rust := rust_hears
  go := go_hears
  python := python_hears
  ocaml := ocaml_hears
  cpp := cpp_hears
  calm := ⟨fun _ => rfl, fun _ => Cpp.Fate.noConfusion⟩

end Sample

theorem sdks_say_the_same_sample :
    SayTheSame Sample.runtimes Sample.configs Sample.peers ⟨{}, {}, {}, {}, {}⟩ :=
  (sdks_say_the_same_iff Sample.runtimes Sample.configs Sample.conversation Sample.all_hear
    ⟨{}, {}, {}, {}, {}⟩).mpr (by decide)

end AegisSdk
