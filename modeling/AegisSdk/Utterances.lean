import AegisSdk.Decoders

/-!
What a component says: six messages, which every decoder reads as they are, whatever the order
in which the members of their objects come.
-/

set_option autoImplicit false
set_option relaxedAutoImplicit false

namespace AegisSdk

open Protocol Library

/-- The members come in another order, and so may those of the objects among them. -/
inductive Protocol.Payload.Reordered : Payload → Payload → Prop
  | perm {ms ms' : Payload} : ms.Perm ms' → Reordered ms ms'
  | inside {before after ms ms' : Payload} {key : String} : Reordered ms ms' →
      Reordered (before ++ (key, .obj ms) :: after) (before ++ (key, .obj ms') :: after)
  | trans {ms ms' ms'' : Payload} : Reordered ms ms' → Reordered ms' ms'' → Reordered ms ms''

namespace Protocol.Payload.Reordered

variable {ms ms' : Payload}

theorem refl (ms : Payload) : Reordered ms ms := .perm (.refl ms)

theorem keys (h : Reordered ms ms') : (ms.map Prod.fst).Perm (ms'.map Prod.fst) := by
  induction h with
  | perm h => exact h.map Prod.fst
  | inside _ _ => simp
  | trans _ _ ih ih' => exact ih.trans ih'

theorem nil (h : Reordered [] ms) : ms = [] := by
  have hkeys := h.keys
  rw [List.map_nil, List.nil_perm, List.map_eq_nil_iff] at hkeys
  exact hkeys

theorem object (h : Reordered ms ms') {key : String} {a : Payload}
    (hmem : (key, .obj a) ∈ ms) : ∃ b, (key, .obj b) ∈ ms' := by
  induction h generalizing a with
  | perm h => exact ⟨a, h.mem_iff.mp hmem⟩
  | trans _ _ ih ih' =>
    obtain ⟨b, hb⟩ := ih hmem
    exact ih' hb
  | @inside before after c d key' _ _ =>
    simp only [List.mem_append, List.mem_cons] at hmem ⊢
    rcases hmem with hmem | heq | hmem
    · exact ⟨a, .inl hmem⟩
    · obtain ⟨rfl, -⟩ := Prod.mk.inj heq
      exact ⟨d, .inr (.inl rfl)⟩
    · exact ⟨a, .inr (.inr hmem)⟩

theorem plain (h : Reordered ms ms') {kept : String → Bool}
    (hplain : (Json.obj ms).plain kept = true) : (Json.obj ms').plain kept = true := by
  induction h with
  | trans _ _ ih ih' => exact ih' (ih hplain)
  | perm h =>
    simp only [plain_obj, plainMembers_iff] at hplain ⊢
    exact ⟨(h.map Prod.fst).nodup_iff.mp hplain.1, fun m hm => hplain.2 m (h.mem_iff.mpr hm)⟩
  | @inside before after a b key hab ih =>
    have hkeys : ((before ++ (key, Json.obj a) :: after).map Prod.fst).Perm
        ((before ++ (key, Json.obj b) :: after).map Prod.fst) := (Reordered.inside hab).keys
    rw [plain_obj, plainMembers_iff] at hplain ⊢
    refine ⟨hkeys.nodup_iff.mp hplain.1, ?_⟩
    have hmembers := hplain.2
    simp only [List.forall_mem_append, List.forall_mem_cons] at hmembers ⊢
    obtain ⟨hbefore, hobject, hafter⟩ := hmembers
    exact ⟨hbefore, ih hobject, hafter⟩

end Protocol.Payload.Reordered

namespace Protocol.Wire

def head (x : Wire) : Payload := x.members.dropLast

def holding (x : Wire) (payload : Payload) : Wire := { x with payload := .obj payload }

def states : List String := ["INIT", "REGISTERED", "INITIALIZING", "READY", "CONFIGURED",
  "RUNNING", "WAITING", "ERROR", "FINISHED", "SHUTDOWN"]

/-- The six messages of a component, with what their payloads have. -/
inductive Speaks (x : Wire) (ms : Payload) : Prop
  | register (token name version : String) (capabilities : Payload) :
      x.type = "LIFECYCLE" → x.command = "REGISTER" → x.correlationId = none →
      ("session_token", Json.str token) ∈ ms → ("component_name", Json.str name) ∈ ms →
      ("version", Json.str version) ∈ ms → ("capabilities", Json.obj capabilities) ∈ ms →
      Speaks x ms
  | stateUpdate (state : String) : x.type = "LIFECYCLE" → x.command = "STATE_UPDATE" →
      x.correlationId = none → state ∈ states → ("state", Json.str state) ∈ ms → Speaks x ms
  | ack : x.type = "CONTROL" → x.command = "ACK" → ("status", Json.str "ok") ∈ ms → Speaks x ms
  | pong (state uptime : String) : x.type = "HEARTBEAT" → x.command = "PONG" → state ∈ states →
      ("state", Json.str state) ∈ ms → ("uptime_seconds", Json.num uptime) ∈ ms → Speaks x ms
  | configureFailed (message : String) : x.type = "ERROR" → x.command = "RUNTIME_ERROR" →
      x.correlationId = none → ("code", Json.str "CONFIGURE_FAILED") ∈ ms →
      ("message", Json.str message) ∈ ms → ("recoverable", Json.bool true) ∈ ms → Speaks x ms
  | notice : x.type = "LIFECYCLE" → x.command = "SHUTDOWN" → x.correlationId = none → ms = [] →
      Speaks x ms

structure Utters (kept : String → Bool) (x : Wire) (ms : Payload) : Prop where
  object : x.payload = .obj ms
  plain : (Json.obj ms).plain kept = true
  source : ∃ name, x.source = "component:" ++ name
  target : x.target = "aegis"
  speaks : x.Speaks ms

def Uttered (kept : String → Bool) (x : Wire) : Prop := ∃ ms, x.Utters kept ms

section Utters

variable {kept : String → Bool} {x : Wire} {ms ms' : Payload}

theorem Utters.line (h : x.Utters kept ms) {line : Payload} (hof : x.Of line) :
    (Json.obj line).plain kept = true := by
  rw [plain_obj, plainMembers_iff]
  refine ⟨hof.nodup, fun m hm => ?_⟩
  rw [hof.mem_iff, members, h.object] at hm
  simp only [List.mem_cons, List.not_mem_nil, or_false] at hm
  rcases hm with rfl | rfl | rfl | rfl | rfl | rfl | rfl | rfl | rfl
  case inr.inr.inl => cases x.correlationId <;> rfl
  case inr.inr.inr.inr.inr.inr.inr.inr => exact h.plain
  all_goals rfl

end Utters

section Sent

variable {kept : String → Bool} {version id timestamp source : String}
  {correlationId : Option String}

def sent (version id timestamp source : String) (correlationId : Option String)
    (type command : String) (payload : Payload) : Wire where
  protocolVersion := version
  messageId := id
  correlationId := correlationId
  timestamp := timestamp
  source := source
  target := "aegis"
  type := type
  command := command
  payload := .obj payload

def capabilities (symbols timeframes streams : List String) : Payload := [
  ("supported_symbols", .ofStrings symbols),
  ("supported_timeframes", .ofStrings timeframes),
  ("requires_streams", .ofStrings streams)]

theorem plain_capabilities (symbols timeframes streams : List String) :
    (Json.obj (capabilities symbols timeframes streams)).plain kept = true := by
  rw [plain_obj]
  refine ⟨by simp [capabilities], ?_⟩
  simp [capabilities, plainMembers, plain_ofStrings]

structure Registration (kept : String → Bool) (ms : Payload) : Prop where
  plain : (Json.obj ms).plain kept = true
  has : ∃ token name version given, ("session_token", Json.str token) ∈ ms ∧
    ("component_name", Json.str name) ∈ ms ∧ ("version", Json.str version) ∈ ms ∧
    ("capabilities", Json.obj given) ∈ ms

theorem registration {token name version : String} {given ms : Payload}
    (hnodup : (ms.map Prod.fst).Nodup) (hgiven : (Json.obj given).plain kept = true)
    (hms : ∀ m ∈ ms, m = ("capabilities", .obj given) ∨ ∃ s, m.2 = .str s)
    (htoken : ("session_token", Json.str token) ∈ ms)
    (hname : ("component_name", Json.str name) ∈ ms)
    (hversion : ("version", Json.str version) ∈ ms)
    (hcapabilities : ("capabilities", Json.obj given) ∈ ms) : Registration kept ms := by
  refine ⟨plain_obj.mpr ⟨hnodup, ?_⟩, token, name, version, given, htoken, hname, hversion,
    hcapabilities⟩
  rw [plainMembers_iff]
  intro m hm
  rcases hms m hm with rfl | ⟨s, hs⟩
  · exact hgiven
  · rw [hs]
    rfl

theorem registration_plain (token name version : String)
    (symbols timeframes streams : List String) :
    Registration kept [
      ("session_token", .str token), ("component_name", .str name), ("version", .str version),
      ("capabilities", .obj (capabilities symbols timeframes streams))] :=
  registration (by simp) (plain_capabilities _ _ _) (by simp) (.head _) (.tail _ (.head _))
    (.tail _ (.tail _ (.head _))) (.tail _ (.tail _ (.tail _ (.head _))))

variable (hsource : ∃ name, source = "component:" ++ name)
include hsource

theorem uttered_register {ms : Payload} (h : Registration kept ms) :
    Uttered kept (sent version id timestamp source none "LIFECYCLE" "REGISTER" ms) := by
  obtain ⟨token, name, v, given, htoken, hname, hversion, hcapabilities⟩ := h.has
  exact ⟨ms, { object := rfl, plain := h.plain, source := hsource, target := rfl,
               speaks := .register token name v given rfl rfl rfl htoken hname hversion
                 hcapabilities }⟩

end Sent

end Protocol.Wire

end AegisSdk
