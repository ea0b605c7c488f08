import AegisSdk.Rust.Conversation

/-!
Messages that nothing in `message_loop` handles. The default arms of its matches ignore them,
but a line reaches these arms through the typed decoder, which refuses a name that the
enumerations do not have.
-/

set_option autoImplicit false
set_option relaxedAutoImplicit false

namespace AegisSdk.Rust

open AegisSdk.Protocol AegisSdk.Library

def textFields : List String := ["protocol_version", "message_id", "timestamp", "source", "target"]

def envelopeFields : List String :=
  textFields ++ ["correlation_id", "type", "command", "payload"]

/-- The line is the text of a JSON object that has all the fields of an envelope, `type` and
`command` being strings and `payload` an object. -/
structure EnvelopeLine (rt : Runtime) (bytes : List UInt8) (members : List (String × Json))
    (type command : String) (payload : Payload) : Prop where
  utf8 : (String.fromUTF8? ⟨bytes.toArray⟩).isSome = true
  parses : rt.parse bytes = some (.obj members)
  fields : ∀ key ∈ envelopeFields, ∃ v, (key, v) ∈ members
  type : ("type", .str type) ∈ members
  command : ("command", .str command) ∈ members
  payload : ("payload", .obj payload) ∈ members

/-- The messages that have a handler. An ERROR is handled whatever its command is. -/
def Handled (type command : String) : Prop :=
  (type = MessageType.heartbeat.name ∧ command = Command.ping.name) ∨
  (type = MessageType.config.name ∧ command = Command.configure.name) ∨
  (type = MessageType.lifecycle.name ∧
    (command = Command.reborn.name ∨ command = Command.shutdown.name)) ∨
  (type = MessageType.error.name ∧ command ∈ Command.all.map Command.name)

instance (type command : String) : Decidable (Handled type command) :=
  inferInstanceAs (Decidable (_ ∨ _ ∨ _ ∨ _))

/-- `message_loop` goes on with the reads after this one, and all that this one leaves is the
record that it was awaited and dispatched. -/
def Inert (rt : Runtime) (cfg : Config) (token : Nat) (read : Read) (rest : List Read)
    (w : World) : Prop :=
  ∃ es, (∀ e ∈ es, ∃ env, e = .dispatch env) ∧
    messageLoop rt cfg token (read :: rest) w = messageLoop rt cfg token rest
      { w with trace := w.trace ++ .await w.component.state :: es }

/-- The names are known to the enumerations, no field of the envelope is repeated, and the
fields beside `type`, `command` and `payload` have their types. -/
structure Decodable (members : List (String × Json)) (type command : String) : Prop where
  knownType : type ∈ MessageType.all.map MessageType.name
  knownCommand : command ∈ Command.all.map Command.name
  once : ∀ key ∈ envelopeFields, (members.filter fun m => m.1 == key).length = 1
  texts : ∀ key ∈ textFields, ∃ s, (key, .str s) ∈ members
  correlation : ("correlation_id", .null) ∈ members ∨ ∃ s, ("correlation_id", .str s) ∈ members

section Fields

variable {members : List (String × Json)} {key : String} {v w : Json}

theorem mem_of_filter (h : members.filter (fun m => m.1 == key) = [(key, v)]) :
    (key, v) ∈ members := by
  have hmem : (key, v) ∈ members.filter fun m => m.1 == key := by simp [h]
  exact (List.mem_filter.mp hmem).1

theorem filter_of_once (h : (members.filter fun m => m.1 == key).length = 1)
    (hm : (key, v) ∈ members) : members.filter (fun m => m.1 == key) = [(key, v)] := by
  obtain ⟨m, hsingle⟩ := List.length_eq_one_iff.mp h
  have hmem : (key, v) ∈ members.filter fun m => m.1 == key :=
    List.mem_filter.mpr ⟨hm, beq_self_eq_true key⟩
  rw [hsingle, List.mem_singleton] at hmem
  rw [hsingle, hmem]

theorem field_eq_some :
    field members key = some v ↔ members.filter (fun m => m.1 == key) = [(key, v)] := by
  unfold field
  constructor
  · intro h
    split at h
    · rename_i m hm
      have hkey : m.1 = key := by
        have hmem : m ∈ members.filter fun m => m.1 == key := by simp [hm]
        exact beq_iff_eq.mp (List.mem_filter.mp hmem).2
      cases h
      rw [hm, ← hkey]
    · cases h
  · intro h
    rw [h]

theorem filter_unique (h : members.filter (fun m => m.1 == key) = [(key, v)])
    (hm : (key, w) ∈ members) : w = v := by
  have hmem : (key, w) ∈ members.filter fun m => m.1 == key :=
    List.mem_filter.mpr ⟨hm, beq_self_eq_true key⟩
  rw [h, List.mem_singleton] at hmem
  exact (Prod.mk.inj hmem).2

theorem optionalField_eq_some (hm : (key, w) ∈ members) {value : Option String} :
    optionalField members key = some value ↔
      members.filter (fun m => m.1 == key) = [(key, w)] ∧ optionalString w = some value := by
  have hmem : (key, w) ∈ members.filter fun m => m.1 == key :=
    List.mem_filter.mpr ⟨hm, beq_self_eq_true key⟩
  unfold optionalField
  constructor
  · intro h
    split at h
    · rename_i hnone
      simp [hnone] at hmem
    · rename_i m hone
      rw [hone, List.mem_singleton] at hmem
      rw [← hmem] at h hone
      exact ⟨hone, h⟩
    · cases h
  · rintro ⟨hone, h⟩
    rw [hone]
    exact h

theorem optionalString_isSome :
    (∃ value, optionalString v = some value) ↔ v = .null ∨ ∃ s, v = .str s := by
  cases v <;> simp [optionalString]

end Fields

theorem MessageType.deserialize_str {name : String} {t : MessageType} :
    MessageType.deserialize (.str name) = some t ↔ t.name = name := by
  constructor
  · intro h
    have hname := List.find?_some (p := fun t : MessageType => t.name == name) h
    exact beq_iff_eq.mp hname
  · rintro rfl
    cases t <;> rfl

theorem Command.deserialize_str {name : String} {c : Command} :
    Command.deserialize (.str name) = some c ↔ c.name = name := by
  constructor
  · intro h
    have hname := List.find?_some (p := fun c : Command => c.name == name) h
    exact beq_iff_eq.mp hname
  · rintro rfl
    cases c <;> rfl

section Decode

variable {members : List (String × Json)} {type command : String} {payload : Payload}

def HasText (members : List (String × Json)) (key s : String) : Prop :=
  members.filter (fun m => m.1 == key) = [(key, .str s)]

theorem hasText_of_field {key s : String} {v : Json} (h : field members key = some v)
    (hv : v.asStr = some s) : HasText members key s := by
  have hstr : v = .str s := by
    cases v <;> simp_all [Json.asStr]
  rw [HasText, field_eq_some.mp h, hstr]

theorem hasText_of_once {key : String}
    (h : (members.filter fun m => m.1 == key).length = 1) (hm : ∃ s, (key, .str s) ∈ members) :
    ∃ s, HasText members key s := by
  obtain ⟨s, hs⟩ := hm
  exact ⟨s, filter_of_once h hs⟩

theorem HasText.once {key s : String} (h : HasText members key s) :
    (members.filter fun m => m.1 == key).length = 1 := by
  rw [HasText] at h
  rw [h]
  rfl

theorem HasText.field {key s : String} (h : HasText members key s) :
    Rust.field members key = some (.str s) := field_eq_some.mpr h

theorem deserialize_obj {env : Envelope} (h : Envelope.deserialize (.obj members) = some env)
    (htype : ("type", .str type) ∈ members) (hcommand : ("command", .str command) ∈ members)
    (hcorrelation : ∃ v, ("correlation_id", v) ∈ members) :
    Decodable members type command ∧ env.msgType.name = type ∧ env.command.name = command := by
  obtain ⟨corr, hcorr⟩ := hcorrelation
  -- the fields are taken one after the other
  rw [Envelope.deserialize] at h
  obtain ⟨v₁, hv₁, h⟩ := Option.bind_eq_some_iff.mp h
  obtain ⟨s₁, hs₁, h⟩ := Option.bind_eq_some_iff.mp h
  obtain ⟨v₂, hv₂, h⟩ := Option.bind_eq_some_iff.mp h
  obtain ⟨s₂, hs₂, h⟩ := Option.bind_eq_some_iff.mp h
  obtain ⟨c, hc, h⟩ := Option.bind_eq_some_iff.mp h
  obtain ⟨v₄, hv₄, h⟩ := Option.bind_eq_some_iff.mp h
  obtain ⟨s₄, hs₄, h⟩ := Option.bind_eq_some_iff.mp h
  obtain ⟨v₅, hv₅, h⟩ := Option.bind_eq_some_iff.mp h
  obtain ⟨s₅, hs₅, h⟩ := Option.bind_eq_some_iff.mp h
  obtain ⟨v₆, hv₆, h⟩ := Option.bind_eq_some_iff.mp h
  obtain ⟨s₆, hs₆, h⟩ := Option.bind_eq_some_iff.mp h
  obtain ⟨v₇, hv₇, h⟩ := Option.bind_eq_some_iff.mp h
  obtain ⟨t, ht, h⟩ := Option.bind_eq_some_iff.mp h
  obtain ⟨v₈, hv₈, h⟩ := Option.bind_eq_some_iff.mp h
  obtain ⟨cmd, hcmd, h⟩ := Option.bind_eq_some_iff.mp h
  obtain ⟨v₉, hv₉, h⟩ := Option.bind_eq_some_iff.mp h
  obtain ⟨p, -, henv⟩ := Option.bind_eq_some_iff.mp h
  have version := hasText_of_field hv₁ hs₁
  have id := hasText_of_field hv₂ hs₂
  have timestamp := hasText_of_field hv₄ hs₄
  have source := hasText_of_field hv₅ hs₅
  have target := hasText_of_field hv₆ hs₆
  obtain ⟨honce, hstring⟩ := (optionalField_eq_some hcorr).mp hc
  have hv₇ := field_eq_some.mp hv₇
  have hv₈ := field_eq_some.mp hv₈
  have hv₉ := field_eq_some.mp hv₉
  obtain rfl := filter_unique hv₇ htype
  obtain rfl := filter_unique hv₈ hcommand
  have htname := MessageType.deserialize_str.mp ht
  have hcname := Command.deserialize_str.mp hcmd
  obtain rfl := Option.some.inj henv
  refine ⟨?_, htname, hcname⟩
  constructor
  case knownType =>
    rw [← htname]
    cases t <;> decide
  case knownCommand =>
    rw [← hcname]
    cases cmd <;> decide
  case once =>
    intro key hkey
    simp only [envelopeFields, textFields, List.cons_append, List.nil_append, List.mem_cons,
      List.not_mem_nil, or_false] at hkey
    rcases hkey with rfl | rfl | rfl | rfl | rfl | rfl | rfl | rfl | rfl
    · exact version.once
    · exact id.once
    · exact timestamp.once
    · exact source.once
    · exact target.once
    · rw [honce]
      rfl
    · rw [hv₇]
      rfl
    · rw [hv₈]
      rfl
    · rw [hv₉]
      rfl
  case texts =>
    intro key hkey
    simp only [textFields, List.mem_cons, List.not_mem_nil, or_false] at hkey
    rcases hkey with rfl | rfl | rfl | rfl | rfl
    · exact ⟨_, mem_of_filter version⟩
    · exact ⟨_, mem_of_filter id⟩
    · exact ⟨_, mem_of_filter timestamp⟩
    · exact ⟨_, mem_of_filter source⟩
    · exact ⟨_, mem_of_filter target⟩
  case correlation =>
    rcases optionalString_isSome.mp ⟨c, hstring⟩ with rfl | ⟨s, rfl⟩
    · exact .inl hcorr
    · exact .inr ⟨s, hcorr⟩

theorem deserialize_of_decodable (h : Decodable members type command)
    (htype : ("type", .str type) ∈ members) (hcommand : ("command", .str command) ∈ members)
    (hpayload : ("payload", .obj payload) ∈ members) :
    ∃ env, Envelope.deserialize (.obj members) = some env := by
  have text : ∀ key ∈ textFields, ∃ s, HasText members key s := by
    intro key hkey
    exact hasText_of_once (h.once key (List.mem_append_left _ hkey)) (h.texts key hkey)
  obtain ⟨version, hversion⟩ := text "protocol_version" (by decide)
  obtain ⟨id, hid⟩ := text "message_id" (by decide)
  obtain ⟨timestamp, htimestamp⟩ := text "timestamp" (by decide)
  obtain ⟨source, hsource⟩ := text "source" (by decide)
  obtain ⟨target, htarget⟩ := text "target" (by decide)
  have correlation : ∃ c, optionalField members "correlation_id" = some c := by
    have honce := h.once "correlation_id" (by decide)
    rcases h.correlation with hnull | ⟨s, hs⟩
    · exact ⟨none, (optionalField_eq_some hnull).mpr ⟨filter_of_once honce hnull, rfl⟩⟩
    · exact ⟨some s, (optionalField_eq_some hs).mpr ⟨filter_of_once honce hs, rfl⟩⟩
  obtain ⟨c, hc⟩ := correlation
  have hfield : ∀ key v, key ∈ envelopeFields → (key, v) ∈ members →
      field members key = some v := by
    intro key v hkey hm
    exact field_eq_some.mpr (filter_of_once (h.once key hkey) hm)
  obtain ⟨t, -, htname⟩ := List.mem_map.mp h.knownType
  obtain ⟨cmd, -, hcname⟩ := List.mem_map.mp h.knownCommand
  have ht := MessageType.deserialize_str.mpr htname
  have hcmd := Command.deserialize_str.mpr hcname
  rw [Envelope.deserialize, hversion.field, hid.field, hc, htimestamp.field, hsource.field,
    htarget.field, hfield "type" _ (by decide) htype, hfield "command" _ (by decide) hcommand,
    hfield "payload" _ (by decide) hpayload]
  simp only [Option.bind_eq_bind, Option.bind_some, Json.asStr_str, ht, hcmd, payloadMap]
  exact ⟨_, rfl⟩

end Decode

section Loop

variable {rt : Runtime} {cfg : Config} {token : Nat} {w : World}

theorem decodeLine_obj {bytes : List UInt8} {members : List (String × Json)} {env : Envelope}
    (hutf8 : (String.fromUTF8? ⟨bytes.toArray⟩).isSome = true)
    (hparse : rt.parse bytes = some (.obj members)) :
    decodeLine rt bytes = .ok env ↔ Envelope.deserialize (.obj members) = some env := by
  obtain ⟨text, htext⟩ := Option.isSome_iff_exists.mp hutf8
  simp only [decodeLine, htext, hparse, Option.bind_some]
  cases Envelope.deserialize (.obj members) <;> simp

theorem dispatch_unhandled {env : Envelope} (h : ¬ Handled env.msgType.name env.command.name)
    (answer : Except AegisError Unit) (w : World) :
    dispatch rt cfg env answer token w = .ok .continue w := by
  unfold Handled at h
  cases htype : env.msgType with
  | heartbeat =>
    have hping : env.command ≠ .ping := by
      intro hc
      simp [htype, hc] at h
    simp only [dispatch, htype, handleHeartbeat, if_pos hping]
    rfl
  | config =>
    have hconfigure : env.command ≠ .configure := by
      intro hc
      simp [htype, hc] at h
    simp only [dispatch, htype, handleConfig, if_pos hconfigure]
    rfl
  | lifecycle =>
    have hreborn : env.command ≠ .reborn := by
      intro hc
      simp [htype, hc] at h
    have hshutdown : env.command ≠ .shutdown := by
      intro hc
      simp [htype, hc] at h
    simp only [dispatch, htype, handleLifecycle]
    cases hc : env.command <;> first | rfl | exact absurd hc hreborn | exact absurd hc hshutdown
  | error =>
    have hknown : env.command.name ∈ Command.all.map Command.name := by
      cases env.command <;> decide
    simp [htype, hknown] at h
  | control =>
    simp only [dispatch, htype]
    rfl
  | data =>
    simp only [dispatch, htype]
    rfl

theorem awaited (w : World) : awaitMessage w =
    .ok () { w with trace := w.trace ++ [.await w.component.state] } := rfl

theorem messageLoop_ignores {bytes : List UInt8} {env : Envelope}
    (hdecode : decodeLine rt bytes = .ok env) (h : ¬ Handled env.msgType.name env.command.name)
    (answer : Except AegisError Unit) (rest : List Read) (w : World) :
    messageLoop rt cfg token ({ event := .line bytes, onConfigure := answer } :: rest) w =
      messageLoop rt cfg token rest
        { w with trace := w.trace ++ [.await w.component.state, .dispatch env] } := by
  let w₁ : World := { w with trace := w.trace ++ [.await w.component.state] }
  let w₂ : World := { w with trace := w.trace ++ [.await w.component.state] ++ [.dispatch env] }
  have hread : recvWithin rt (.line bytes) w₁ = .ok env w₁ := by
    simp only [recvWithin, hdecode]
    rfl
  have hrecord : emit (.dispatch env) w₁ = .ok () w₂ := rfl
  have hdispatch : dispatch rt cfg env answer token w₂ = .ok .continue w₂ :=
    dispatch_unhandled h answer w₂
  rw [messageLoop, bind_ok (awaited w), bind_ok hread, bind_ok hrecord, bind_ok hdispatch]
  simp [w₂]

theorem messageLoop_refuses {bytes : List UInt8} {e : AegisError}
    (hdecode : decodeLine rt bytes = .error e) (answer : Except AegisError Unit)
    (rest : List Read) (w : World) :
    messageLoop rt cfg token ({ event := .line bytes, onConfigure := answer } :: rest) w =
      .error (.error e) { w with trace := w.trace ++ [.await w.component.state] } := by
  have hread : recvWithin rt (.line bytes)
      { w with trace := w.trace ++ [.await w.component.state] } =
      .error (.error e) { w with trace := w.trace ++ [.await w.component.state] } := by
    simp only [recvWithin, hdecode]
    rfl
  rw [messageLoop, bind_ok (awaited w), bind_error hread]

theorem Session.length_pos {st st' : ComponentState} {es : List Event} {v : Verdict}
    (h : Session cfg token st es st' v) : 0 < es.length := by
  cases h <;> simp

theorem messageLoop_waits (rt : Runtime) (cfg : Config) (token : Nat) (reads : List Read)
    (w : World) :
    w.trace.length < (final (messageLoop rt cfg token reads w)).trace.length := by
  obtain ⟨es, v, w', hloop, leads, session⟩ := messageLoop_session rt cfg token reads w
  have hpos := session.length_pos
  have hfinal : final (messageLoop rt cfg token reads w) = w' := by
    rw [hloop]
    cases v <;> rfl
  rw [hfinal, leads.trace, List.length_append]
  omega

theorem not_inert_of_refused {bytes : List UInt8} {e : AegisError}
    (hdecode : decodeLine rt bytes = .error e) (answer : Except AegisError Unit)
    (rest : List Read) (w : World) :
    ¬ Inert rt cfg token { event := .line bytes, onConfigure := answer } rest w := by
  rintro ⟨es, -, heq⟩
  have hlong := messageLoop_waits rt cfg token rest
    { w with trace := w.trace ++ .await w.component.state :: es }
  rw [← heq, messageLoop_refuses hdecode] at hlong
  simp [final] at hlong

theorem inert_of_decodable {bytes : List UInt8} {members : List (String × Json)}
    {type command : String} {payload : Payload}
    (line : EnvelopeLine rt bytes members type command payload)
    (unhandled : ¬ Handled type command) (decodable : Decodable members type command)
    (answer : Except AegisError Unit) (rest : List Read) (w : World) :
    Inert rt cfg token { event := .line bytes, onConfigure := answer } rest w := by
  obtain ⟨env, henv⟩ := deserialize_of_decodable decodable line.type line.command line.payload
  obtain ⟨-, htype, hcommand⟩ := deserialize_obj henv line.type line.command
    (line.fields "correlation_id" (by decide))
  have hunhandled : ¬ Handled env.msgType.name env.command.name := by
    rwa [htype, hcommand]
  have hdecode : decodeLine rt bytes = .ok env := (decodeLine_obj line.utf8 line.parses).mpr henv
  exact ⟨[.dispatch env], by simp, messageLoop_ignores hdecode hunhandled answer rest w⟩

/-- A read that is inert whatever comes before and after it. -/
def Read.Passes (rt : Runtime) (cfg : Config) (token : Nat) (read : Read) : Prop :=
  ∀ rest w, Inert rt cfg token read rest w

theorem messageLoop_passes (reads rest : List Read) (w : World)
    (h : ∀ read ∈ reads, read.Passes rt cfg token) :
    ∃ es, (∀ e ∈ es, e = .await w.component.state ∨ ∃ env, e = .dispatch env) ∧
      messageLoop rt cfg token (reads ++ rest) w =
        messageLoop rt cfg token rest { w with trace := w.trace ++ es } := by
  induction reads generalizing w with
  | nil => exact ⟨[], by simp, by simp⟩
  | cons read reads ih =>
    obtain ⟨hread, hreads⟩ := List.forall_mem_cons.mp h
    obtain ⟨es, hes, hfirst⟩ := hread (reads ++ rest) w
    obtain ⟨es', hes', hothers⟩ :=
      ih { w with trace := w.trace ++ .await w.component.state :: es } hreads
    refine ⟨.await w.component.state :: es ++ es', ?_, ?_⟩
    · intro e he
      rcases List.mem_append.mp he with he | he
      · rcases List.mem_cons.mp he with rfl | he
        · exact .inl rfl
        · exact .inr (hes e he)
      · exact hes' e he
    · rw [List.cons_append, hfirst, hothers, List.append_assoc]

end Loop

/-- In every state, a line whose message has no handler is inert exactly if it decodes. -/
theorem inert_iff (rt : Runtime) (cfg : Config) (token : Nat) {bytes : List UInt8}
    {members : List (String × Json)} {type command : String} {payload : Payload}
    (line : EnvelopeLine rt bytes members type command payload)
    (unhandled : ¬ Handled type command) (answer : Except AegisError Unit) (rest : List Read)
    (w : World) :
    Inert rt cfg token { event := .line bytes, onConfigure := answer } rest w ↔
      Decodable members type command := by
  constructor
  · intro inert
    cases hdecode : decodeLine rt bytes with
    | ok env =>
      have henv := (decodeLine_obj line.utf8 line.parses).mp hdecode
      exact (deserialize_obj henv line.type line.command
        (line.fields "correlation_id" (by decide))).1
    | error e => exact absurd inert (not_inert_of_refused hdecode answer rest w)
  · intro decodable
    exact inert_of_decodable line unhandled decodable answer rest w

namespace Sample

def nack : Json := Daemon.message "m4" "LIFECYCLE" "NACK" (.obj [])

def pause : Json := Daemon.message "m5" "LIFECYCLE" "PAUSE" (.obj [])

def talkative : Runtime := { runtime with parse := Daemon.parse [nack, pause] }

/-- The members of a message of the daemon without a payload. -/
def members (id type command : String) : List (String × Json) :=
  [("protocol_version", .str "0.1"), ("message_id", .str id), ("correlation_id", .null),
    ("timestamp", .str "t"), ("source", .str "aegis"), ("target", .str "component:c"),
    ("type", .str type), ("command", .str command), ("payload", .obj [])]

theorem members_fields (id type command : String) :
    ∀ key ∈ envelopeFields, ∃ v, (key, v) ∈ members id type command := by
  intro key hkey
  simp only [envelopeFields, textFields, List.cons_append, List.nil_append, List.mem_cons,
    List.not_mem_nil, or_false] at hkey
  rcases hkey with rfl | rfl | rfl | rfl | rfl | rfl | rfl | rfl | rfl <;> simp [members]

theorem parse_nack : talkative.parse (Daemon.line nack) =
    some (.obj (members "m4" "LIFECYCLE" "NACK")) := by
  show Daemon.parse [nack, pause] (Daemon.line nack) = some nack
  rw [Daemon.parse, List.find?_cons_of_pos]
  exact beq_self_eq_true (Daemon.line nack)

theorem parse_pause : talkative.parse (Daemon.line pause) =
    some (.obj (members "m5" "LIFECYCLE" "PAUSE")) := by
  have hother : ¬ (Daemon.line nack == Daemon.line pause) = true := by decide +kernel
  show Daemon.parse [nack, pause] (Daemon.line pause) = some pause
  rw [Daemon.parse, List.find?_cons_of_neg, List.find?_cons_of_pos]
  · exact beq_self_eq_true (Daemon.line pause)
  · exact hother

theorem nack_line : EnvelopeLine talkative (Daemon.line nack) (members "m4" "LIFECYCLE" "NACK")
    "LIFECYCLE" "NACK" [] where
  utf8 := by decide +kernel
  parses := parse_nack
  fields := members_fields _ _ _
  type := by simp [members]
  command := by simp [members]
  payload := by simp [members]

theorem pause_line : EnvelopeLine talkative (Daemon.line pause) (members "m5" "LIFECYCLE" "PAUSE")
    "LIFECYCLE" "PAUSE" [] where
  utf8 := by decide +kernel
  parses := parse_pause
  fields := members_fields _ _ _
  type := by simp [members]
  command := by simp [members]
  payload := by simp [members]

theorem nack_decodable : Decodable (members "m4" "LIFECYCLE" "NACK") "LIFECYCLE" "NACK" where
  knownType := by decide
  knownCommand := by decide
  once := by decide
  texts := by
    intro key hkey
    simp only [textFields, List.mem_cons, List.not_mem_nil, or_false] at hkey
    rcases hkey with rfl | rfl | rfl | rfl | rfl <;> simp [members]
  correlation := .inl (by simp [members])

end Sample

theorem inert_iff_sample : Inert Sample.talkative Sample.config 0
    { event := .line (Daemon.line Sample.nack) } [] {} :=
  (inert_iff Sample.talkative Sample.config 0 Sample.nack_line (by decide) (.ok ()) [] {}).mpr
    Sample.nack_decodable

/-- A command of a later version costs the connection. -/
theorem unknown_command_disconnects : ¬ ∀ (rt : Runtime) (cfg : Config) (token : Nat)
    (bytes : List UInt8) (members : List (String × Json)) (type command : String)
    (payload : Payload), EnvelopeLine rt bytes members type command payload →
    ¬ Handled type command → ∀ (answer : Except AegisError Unit) (rest : List Read) (w : World),
      Inert rt cfg token { event := .line bytes, onConfigure := answer } rest w := by
  intro h
  have inert := h Sample.talkative Sample.config 0 _ _ _ _ _ Sample.pause_line (by decide)
    (.ok ()) [] {}
  cases hdecode : decodeLine Sample.talkative (Daemon.line Sample.pause) with
  | ok env =>
    have henv := (decodeLine_obj Sample.pause_line.utf8 Sample.pause_line.parses).mp hdecode
    have decodable := (deserialize_obj henv Sample.pause_line.type Sample.pause_line.command
      (Sample.pause_line.fields "correlation_id" (by decide))).1
    exact absurd decodable.knownCommand (by decide)
  | error e => exact not_inert_of_refused hdecode (.ok ()) [] {} inert

end AegisSdk.Rust
