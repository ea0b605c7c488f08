import AegisSdk.Go.Dialogue
import AegisSdk.Rust.Dialogue

/-!
The Rust and the Go component against the same daemon. Both say the same about every order
but REBORN, which the Rust component acknowledges and the Go component, whose `protocol.go`
has no such command, passes over.
-/

set_option autoImplicit false
set_option relaxedAutoImplicit false

namespace AegisSdk

open Protocol Library
open List (Forall₂)

def wire (env : Rust.Envelope) : Go.Envelope where
  protocolVersion := env.protocolVersion
  messageId := env.messageId
  correlationId := env.correlationId
  timestamp := env.timestamp
  source := env.source
  target := env.target
  type := env.msgType.name
  command := env.command.name
  payload := env.payload

/-- The connection of the Go component on which the daemon sends these messages. -/
def goLink (registered : Rust.Envelope) (messages : List Rust.Envelope) (writes : List Bool) :
    Go.Link :=
  Go.conversation { env := wire registered } (Go.heard (messages.map wire)) writes

theorem wire_isAck (env : Rust.Envelope) (h : Rust.IsAck env) : Go.IsAck (wire env) := by
  obtain ⟨ht, hc⟩ := h
  simp [Go.IsAck, wire, ht, hc, Rust.MessageType.name, Rust.Command.name, Go.MessageType.control,
    Go.Command.ack]

theorem wire_carries (env : Rust.Envelope) (o : Order) (h : Rust.Carries env o) :
    Go.Carries (wire env) o := by
  obtain ⟨kind, id⟩ := o
  obtain ⟨hid, hkind⟩ := h
  refine ⟨hid, ?_⟩
  cases kind with
  | recoverableError =>
    obtain ⟨he, hr⟩ := hkind
    have ht : env.msgType = .error := he
    exact ⟨congrArg Rust.MessageType.name ht, hr⟩
  | _ =>
    obtain ⟨ht, hc⟩ := hkind
    exact ⟨congrArg Rust.MessageType.name ht, congrArg Rust.Command.name hc⟩

/-- Against a daemon that ACKs every STATE_UPDATE before it sends anything else, with writes
and `on_configure` that succeed, the two components say the same from INITIALIZING up to the
ACK of the first SHUTDOWN exactly if no REBORN comes before it. -/
theorem sdks_agree_iff (rt : Rust.Runtime) (cfg : Rust.Config) (goRt : Go.Runtime)
    (goCfg : Go.Config) (handlers : Go.Handlers) {registered : Rust.Envelope}
    (hcommand : registered.command = .registered) {a b : Json}
    (ha : registered.payload.get "component_id" = some a)
    (hb : registered.payload.get "session_id" = some b) {acks messages : List Rust.Envelope}
    (hlength : acks.length = acksFor opening) (hacks : ∀ env ∈ acks, Rust.IsAck env)
    {orders : List Order} (hscript : Script Rust.Carries Rust.IsAck orders messages)
    {link : Rust.Link} (hconn : link.connected = true) (hwrites : ∀ ok ∈ link.writes, ok = true)
    (gives : Forall₂ (Rust.Gives rt) link.reads
      (Rust.heard (registered :: (acks ++ messages))))
    {writes : List Bool} (hwrites' : ∀ ok ∈ writes, ok = true) (w : Rust.World) (w' : Go.World) :
    Rust.spoken rt cfg link w =
        Go.spoken goRt goCfg handlers (goLink registered (acks ++ messages) writes) w' ↔
      ∀ o ∈ upTo Order.isShutdown orders, o.isReborn = false := by
  obtain ⟨rest, hreg, hrest⟩ := Rust.registers_of_gives rt gives hcommand ha hb
  have hrust := Rust.spoken_eq rt cfg hconn hwrites hreg hacks hscript hrest w
  have hgo : Go.spoken goRt goCfg handlers (goLink registered (acks ++ messages) writes) w' =
      opening ++ said false Go.State.ready orders := by
    rw [goLink, List.map_append]
    exact Go.spoken_eq goRt goCfg handlers (congrArg Rust.Command.name hcommand)
      ((List.length_map _).trans hlength) (hscript.map wire_carries wire_isAck) hwrites' w'
  rw [hrust, hgo, List.append_cancel_left_eq]
  exact said_eq_iff "READY" orders

namespace Sample

def text (n : Nat) : List UInt8 := (toString n).toByteArray.data.toList

def ackEnvelope : Rust.Envelope := Rust.Sample.envelope "m4" .control .ack []
def rebornEnvelope : Rust.Envelope := Rust.Sample.envelope "m5" .lifecycle .reborn []

def value (n : Nat) : Option Json :=
  match n with
  | 1 => some (Rust.Sample.value "m1" "LIFECYCLE" "REGISTERED"
      [("component_id", .str "c1"), ("session_id", .str "s1")])
  | 2 => some (Rust.Sample.value "m2" "CONFIG" "CONFIGURE" [])
  | 3 => some (Rust.Sample.value "m3" "LIFECYCLE" "SHUTDOWN" [])
  | 4 => some (Rust.Sample.value "m4" "CONTROL" "ACK" [])
  | 5 => some (Rust.Sample.value "m5" "LIFECYCLE" "REBORN" [])
  | _ => none

def runtime : Rust.Runtime :=
  { Rust.Sample.runtime with
    parse := fun bytes => ([1, 2, 3, 4, 5].find? fun n => text n == bytes).bind value }

def read (n : Nat) : Rust.Read := { event := .line (text n) }

theorem gives {n : Nat} {v : Json} {env : Rust.Envelope}
    (hutf8 : (String.fromUTF8? ⟨(text n).toArray⟩).isSome = true)
    (hfind : ([1, 2, 3, 4, 5].find? fun k => text k == text n) = some n)
    (hvalue : value n = some v) (henv : Rust.Envelope.deserialize v = some env) :
    Rust.Gives runtime (read n) { env := env, onConfigure := .ok () } := by
  have hparse : runtime.parse (text n) = some v := by
    change ([1, 2, 3, 4, 5].find? fun k => text k == text n).bind value = some v
    rw [hfind]
    exact hvalue
  exact ⟨text n, rfl, Rust.decodeLine_ok runtime hutf8 hparse henv, rfl⟩

theorem gives_registered :
    Rust.Gives runtime (read 1) ⟨Rust.Sample.registeredEnvelope, .ok ()⟩ :=
  gives (by decide +kernel) (by decide +kernel) rfl rfl

theorem gives_configure :
    Rust.Gives runtime (read 2) ⟨Rust.Sample.configureEnvelope, .ok ()⟩ :=
  gives (by decide +kernel) (by decide +kernel) rfl rfl

theorem gives_shutdown :
    Rust.Gives runtime (read 3) ⟨Rust.Sample.shutdownEnvelope, .ok ()⟩ :=
  gives (by decide +kernel) (by decide +kernel) rfl rfl

theorem gives_ack : Rust.Gives runtime (read 4) ⟨ackEnvelope, .ok ()⟩ :=
  gives (by decide +kernel) (by decide +kernel) rfl rfl

theorem gives_reborn : Rust.Gives runtime (read 5) ⟨rebornEnvelope, .ok ()⟩ :=
  gives (by decide +kernel) (by decide +kernel) rfl rfl

def link (ns : List Nat) : Rust.Link := { reads := ns.map read }

theorem isAck : ∀ env ∈ [ackEnvelope, ackEnvelope], Rust.IsAck env := by
  intro env henv
  simp only [List.mem_cons, List.not_mem_nil, or_false, or_self] at henv
  rw [henv]
  exact ⟨rfl, rfl⟩

theorem configure_script : Script Rust.Carries Rust.IsAck
    [⟨.configure, "m2"⟩, ⟨.shutdown, "m3"⟩]
    [Rust.Sample.configureEnvelope, ackEnvelope, ackEnvelope, Rust.Sample.shutdownEnvelope] :=
  .order ⟨rfl, rfl, rfl⟩ rfl isAck
    (.order ⟨rfl, rfl, rfl⟩ rfl (List.forall_mem_nil _) .done)

theorem reborn_script : Script Rust.Carries Rust.IsAck
    [⟨.reborn, "m5"⟩, ⟨.shutdown, "m3"⟩] [rebornEnvelope, Rust.Sample.shutdownEnvelope] :=
  .order ⟨rfl, rfl, rfl⟩ rfl (List.forall_mem_nil _)
    (.order ⟨rfl, rfl, rfl⟩ rfl (List.forall_mem_nil _) .done)

end Sample

theorem sdks_agree_iff_sample :
    Rust.spoken Sample.runtime Rust.Sample.config (Sample.link [1, 4, 4, 2, 4, 4, 3]) {} =
      Go.spoken Go.Sample.runtime Go.Sample.config {}
        (goLink Rust.Sample.registeredEnvelope [Sample.ackEnvelope, Sample.ackEnvelope,
          Rust.Sample.configureEnvelope, Sample.ackEnvelope, Sample.ackEnvelope,
          Rust.Sample.shutdownEnvelope] []) {} :=
  (sdks_agree_iff Sample.runtime Rust.Sample.config Go.Sample.runtime Go.Sample.config {} rfl rfl
    rfl rfl Sample.isAck Sample.configure_script rfl (List.forall_mem_nil _)
    (.cons Sample.gives_registered (.cons Sample.gives_ack (.cons Sample.gives_ack
      (.cons Sample.gives_configure (.cons Sample.gives_ack (.cons Sample.gives_ack
        (.cons Sample.gives_shutdown .nil)))))))
    (List.forall_mem_nil _) {} {}).mpr (by decide)

theorem rust_reborn :
    Rust.spoken Sample.runtime Rust.Sample.config (Sample.link [1, 4, 4, 5, 3]) {} =
      opening ++ [.ack "m5", .ack "m3"] := by
  have gives : Forall₂ (Rust.Gives Sample.runtime) (Sample.link [1, 4, 4, 5, 3]).reads
      (Rust.heard (Rust.Sample.registeredEnvelope ::
        ([Sample.ackEnvelope, Sample.ackEnvelope] ++
          [Sample.rebornEnvelope, Rust.Sample.shutdownEnvelope]))) :=
    .cons Sample.gives_registered (.cons Sample.gives_ack (.cons Sample.gives_ack
      (.cons Sample.gives_reborn (.cons Sample.gives_shutdown .nil))))
  obtain ⟨rest, hreg, hrest⟩ := Rust.registers_of_gives Sample.runtime gives rfl rfl rfl
  have hspoken := Rust.spoken_eq Sample.runtime Rust.Sample.config rfl (List.forall_mem_nil _)
    hreg Sample.isAck Sample.reborn_script hrest {}
  exact hspoken

theorem go_reborn :
    Go.spoken Go.Sample.runtime Go.Sample.config {}
        (goLink Rust.Sample.registeredEnvelope [Sample.ackEnvelope, Sample.ackEnvelope,
          Sample.rebornEnvelope, Rust.Sample.shutdownEnvelope] []) {} =
      opening ++ [.ack "m3"] := by
  have hcommand : (wire Rust.Sample.registeredEnvelope).command = Go.Command.registered := rfl
  have hlength : [wire Sample.ackEnvelope, wire Sample.ackEnvelope].length = acksFor opening :=
    rfl
  have hspoken := Go.spoken_eq Go.Sample.runtime Go.Sample.config {} hcommand hlength
    (Sample.reborn_script.map wire_carries wire_isAck) (List.forall_mem_nil _) {}
  exact hspoken

/-- A REBORN before the SHUTDOWN: the Rust component acknowledges it, the Go component sends
nothing for it. -/
theorem reborn_unanswered :
    Script Rust.Carries Rust.IsAck [⟨.reborn, "m5"⟩, ⟨.shutdown, "m3"⟩]
      [Sample.rebornEnvelope, Rust.Sample.shutdownEnvelope] ∧
    Rust.spoken Sample.runtime Rust.Sample.config (Sample.link [1, 4, 4, 5, 3]) {} ≠
      Go.spoken Go.Sample.runtime Go.Sample.config {}
        (goLink Rust.Sample.registeredEnvelope [Sample.ackEnvelope, Sample.ackEnvelope,
          Sample.rebornEnvelope, Rust.Sample.shutdownEnvelope] []) {} := by
  refine ⟨Sample.reborn_script, ?_⟩
  rw [rust_reborn, go_reborn]
  intro same
  have hlength := congrArg List.length same
  simp at hlength

end AegisSdk
