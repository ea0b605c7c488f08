import AegisSdk.Go.Component
import AegisSdk.Go.Decoder

/-!
`stream.go`: the data stream, with a decoder for the response to the handshake and a
second `bufio.Reader` for the frames. What the first two readers have taken from the
socket beyond the response never reaches the second.
-/

set_option autoImplicit false
set_option relaxedAutoImplicit false

namespace AegisSdk.Go

open AegisSdk.Library

structure StreamHandshake where
  componentID : String
  sessionToken : String

structure StreamHandshakeResponse where
  status : String
  message : String := ""
  topics : List String := []

structure DataStream where
  reader : Reader
  topics : List String

inductive StreamEvent where
  | dial (socketPath : String) (ok : Bool)
  | send (hs : StreamHandshake) (ok : Bool)
  | close

/-- One connection to the stream socket: how the dial and the write of the handshake end
and what the reads give. -/
structure StreamLink where
  dial : Bool := true
  write : Bool := true
  pieces : List (List UInt8)

-- how the block of the decoder grows
variable (G : Growth)

/-- `Component.OpenStream` -/
def openStream (unmarshal : List UInt8 → Except String StreamHandshakeResponse)
    (c : Component) (socketPath : String) (link : StreamLink) :
    Except GoError DataStream × List StreamEvent :=
  if c.componentID = "" ∨ c.sessionID = "" then
    (.error (.other "stream: component not yet registered"), [])
  else if !link.dial then
    (.error (.wrap ("stream: connect " ++ socketPath) (some (.other "dial"))),
      [.dial socketPath false])
  else
    let hs : StreamHandshake := { componentID := c.componentID, sessionToken := c.sessionID }
    if !link.write then
      (.error (.wrap "stream: send handshake" (some (.other "write"))),
        [.dial socketPath true, .send hs false, .close])
    else
      let fail (err : GoError) : Except GoError DataStream × List StreamEvent :=
        (.error err, [.dial socketPath true, .send hs true, .close])
      match decode G json (newReader link.pieces) with
      | .failed why _ =>
        fail (.wrap "stream: read handshake response"
          (some (.other (DecodeError.decoder why).error)))
      | .value text _ r =>
        match unmarshal (json.strip text) with
        | .error err => fail (.wrap "stream: read handshake response" (some (.other err)))
        | .ok resp =>
          if resp.status ≠ "ok" then
            fail (.other ("stream: handshake rejected: " ++ resp.message))
          else
            -- a new buffered reader over the socket alone
            (.ok { reader := { src := r.src }, topics := resp.topics },
              [.dial socketPath true, .send hs true])

section Next

variable {α : Type} (unmarshal : List UInt8 → Except String α)

/-- `json.Unmarshal` with the error that `Next` makes of its error. -/
def unmarshalEnvelope (text : List UInt8) : Except GoError α :=
  match unmarshal text with
  | .ok env => .ok env
  | .error err => .error (.wrap "stream: unmarshal" (some (.other err)))

/-- `DataStream.Next` while the context is not done. `json.Unmarshal` ignores the space
around the value. -/
def DataStream.next (s : DataStream) : Except GoError α × DataStream :=
  match s.reader.readLine newline with
  | (.error _, r) => (.error (.other "EOF"), { s with reader := r })
  | (.ok line, r) => (unmarshalEnvelope unmarshal (json.trim line), { s with reader := r })

/-- What `n` calls of `Next` in succession give. -/
def DataStream.nexts : Nat → DataStream → List (Except GoError α)
  | 0, _ => []
  | n + 1, s => (s.next unmarshal).1 :: nexts n (s.next unmarshal).2

end Next

structure StreamFrame extends json.Frame where
  line : newline ∉ text

/-- What the server sends after it has accepted the handshake. -/
def served (resp : Text) (frames : List StreamFrame) : List UInt8 :=
  resp.text ++ newline :: json.wire newline (frames.map StreamFrame.toFrame)

/-- `OpenStream` succeeds, and whatever a frame is unmarshalled to, `Next` returns the frames
one by one and then the end of the stream. -/
def Delivers (unmarshalResponse : List UInt8 → Except String StreamHandshakeResponse)
    (c : Component) (socketPath : String) (frames : List StreamFrame) (link : StreamLink) : Prop :=
  ∃ s events, openStream G unmarshalResponse c socketPath link = (.ok s, events) ∧
    ∀ (α : Type) (unmarshal : List UInt8 → Except String α),
      s.nexts unmarshal (frames.length + 1) =
        frames.map (fun f => unmarshalEnvelope unmarshal f.text) ++ [.error (.other "EOF")]

/-- What the reads of the socket have given when the decoder has the response: the blocks
it took and the rest of the buffer between. -/
def takenForResponse (resp : Text) (pieces : List (List UInt8)) : Nat :=
  let taken := fetch G resp.text.length (newReader pieces)
  taken.1.length + taken.2.buf.length

section Lines

variable {α : Type} (unmarshal : List UInt8 → Except String α)

theorem next_frame {s : DataStream} {f : StreamFrame} {rest : List UInt8}
    (h : BlockReader.content s.reader = f.text ++ newline :: rest) :
    (s.next unmarshal).1 = unmarshalEnvelope unmarshal f.text ∧
      BlockReader.content (s.next unmarshal).2.reader = rest := by
  obtain ⟨r, hread, hrest⟩ := Buffered.readLine_line f.line h
  have htrim : json.trim (f.text ++ [newline]) = f.text := json.trim_line rfl f.toFrame
  simp only [DataStream.next, hread, htrim]
  exact ⟨trivial, hrest⟩

theorem next_end {s : DataStream} (h : BlockReader.content s.reader = []) :
    (s.next unmarshal).1 = .error (.other "EOF") := by
  have hnone : newline ∉ BlockReader.content s.reader := by simp [h]
  obtain ⟨r, hread, _⟩ := Buffered.readLine_end hnone
  rw [DataStream.next, hread]

theorem nexts_frames (frames : List StreamFrame) {s : DataStream}
    (h : BlockReader.content s.reader =
      json.wire newline (frames.map StreamFrame.toFrame)) :
    s.nexts unmarshal (frames.length + 1) =
      frames.map (fun f => unmarshalEnvelope unmarshal f.text) ++ [.error (.other "EOF")] := by
  induction frames generalizing s with
  | nil =>
    rw [List.length_nil, DataStream.nexts, next_end unmarshal h]
    rfl
  | cons f frames ih =>
    rw [List.map_cons, Scanner.wire_cons] at h
    obtain ⟨hfirst, hrest⟩ := next_frame unmarshal h
    rw [List.length_cons, DataStream.nexts, hfirst, ih hrest]
    rfl

theorem solid_next {s : DataStream} {text : List UInt8} (h : (s.next .ok).1 = .ok text) :
    json.solid text + json.solid (BlockReader.content (s.next (α := List UInt8) .ok).2.reader) ≤
      json.solid (BlockReader.content s.reader) := by
  have hok (line : List UInt8) (h : (s.reader.readLine newline).1 = .ok line) :=
    Buffered.readLine_ok h
  unfold DataStream.next at h ⊢
  split at h
  · exact nomatch h
  · rename_i line r hread
    rw [hread] at hok
    have htext : json.trim line = text := Except.ok.inj h
    have := json.solid_trim_le line
    rw [← hok line rfl, json.solid_append, ← htext]
    exact Nat.add_le_add_right this _

theorem solid_nexts {n : Nat} {s : DataStream} {texts : List (List UInt8)} {others : List _}
    (h : s.nexts .ok n = texts.map .ok ++ others) :
    json.solid texts.flatten ≤ json.solid (BlockReader.content s.reader) := by
  induction texts generalizing n s with
  | nil => exact Nat.zero_le _
  | cons text texts ih =>
    obtain _ | n := n
    · simp [DataStream.nexts] at h
    rw [DataStream.nexts, List.map_cons, List.cons_append, List.cons.injEq] at h
    have hfirst := solid_next h.1
    have hothers := ih h.2
    rw [List.flatten_cons, json.solid_append]
    omega

end Lines

section Main

variable (unmarshalResponse : List UInt8 → Except String StreamHandshakeResponse)
  (c : Component) (socketPath : String) (resp : Text) (response : StreamHandshakeResponse)
  (frames : List StreamFrame) (link : StreamLink)

/-- The response is accepted, and the second reader starts where the reads of the first one
have stopped. -/
theorem openStream_eq (hid : c.componentID ≠ "") (hsession : c.sessionID ≠ "")
    (hdial : link.dial = true) (hwrite : link.write = true)
    (hresp : unmarshalResponse resp.text = .ok response) (hok : response.status = "ok")
    (h : link.pieces.flatten = served resp frames) :
    openStream G unmarshalResponse c socketPath link =
      (.ok { reader := { src := (fetch G resp.text.length (newReader link.pieces)).2.src },
             topics := response.topics },
        [.dial socketPath true,
          .send { componentID := c.componentID, sessionToken := c.sessionID } true]) := by
  have hdecode := decode_frame (G := G) [] (by simp) resp
    (r := newReader link.pieces) h
  have hstrip := json.strip_lead [] (by simp) resp
  rw [List.nil_append] at hdecode hstrip
  simp only [openStream, hid, hsession, hdial, hwrite, hdecode, hstrip, hresp, hok, or_self,
    if_false, Bool.not_true, Bool.false_eq_true, ne_eq, not_true_eq_false]

private theorem map_unmarshal_ok (frames : List StreamFrame) :
    frames.map (fun f => unmarshalEnvelope .ok f.text) =
      (frames.map fun f => f.text).map .ok := by
  rw [List.map_map]
  rfl

theorem spurious {s : DataStream}
    (h : BlockReader.content s.reader =
      newline :: json.wire newline (frames.map StreamFrame.toFrame)) :
    s.nexts .ok (frames.length + 1) ≠
      frames.map (fun f => unmarshalEnvelope .ok f.text) ++ [.error (.other "EOF")] := by
  have hfirst : (s.next .ok).1 = .ok [] := by
    obtain ⟨r, hread, _⟩ := Buffered.readLine_line (List.not_mem_nil (a := newline)) h
    simp only [DataStream.next, hread]
    rfl
  intro hall
  rw [DataStream.nexts, hfirst] at hall
  cases frames with
  | nil => exact nomatch (List.cons.inj hall).1
  | cons f frames => exact f.text_ne_nil (Except.ok.inj (List.cons.inj hall).1).symm

theorem missing {s : DataStream} {lost : List UInt8} (hlost : lost ≠ [])
    (h : lost ++ BlockReader.content s.reader =
      json.wire newline (frames.map StreamFrame.toFrame)) (n : Nat) :
    s.nexts .ok n ≠
      frames.map (fun f => unmarshalEnvelope .ok f.text) ++ [.error (.other "EOF")] := by
  intro hall
  rw [map_unmarshal_ok] at hall
  have hsolid := solid_nexts hall
  have hless := json.solid_lt_of_lost rfl hlost h
  rw [List.flatMap_map, List.flatMap_def] at hless
  omega

/-- However the block of the decoder grows, the frames arrive exactly if the reads of the socket
that bring the response end with the newline after it. -/
theorem delivers_iff (hid : c.componentID ≠ "") (hsession : c.sessionID ≠ "")
    (hdial : link.dial = true) (hwrite : link.write = true)
    (hresp : unmarshalResponse resp.text = .ok response) (hok : response.status = "ok")
    (h : link.pieces.flatten = served resp frames) :
    Delivers G unmarshalResponse c socketPath frames link ↔
      takenForResponse G resp link.pieces = resp.text.length + 1 := by
  have hopen := openStream_eq G unmarshalResponse c socketPath resp response frames link hid
    hsession hdial hwrite hresp hok h
  have htaken := fetch_append (G := G) resp.text.length (newReader link.pieces)
  have hneed : resp.text.length ≤
      (fetch G resp.text.length (newReader link.pieces)).1.length := by
    refine length_fetchMore _ _ _ _ _ (Nat.le_refl 0) (Nat.le_refl _) ?_
    change _ ≤ link.pieces.flatten.length
    rw [h, served, List.length_append]
    omega
  rw [Delivers, hopen, takenForResponse]
  generalize fetch G resp.text.length (newReader link.pieces) = taken at *
  have hserved : taken.1 ++ (taken.2.buf ++ BlockReader.content taken.2.src) =
      resp.text ++ newline :: json.wire newline (frames.map StreamFrame.toFrame) :=
    htaken.trans h
  obtain ⟨extra, hextra⟩ : resp.text <+: taken.1 ++ taken.2.buf :=
    List.prefix_of_prefix_length_le ⟨_, rfl⟩ ⟨_, (List.append_assoc _ _ _).trans hserved⟩
      (by rw [List.length_append]; omega)
  have hrest : extra ++ BlockReader.content taken.2.src =
      newline :: json.wire newline (frames.map StreamFrame.toFrame) := by
    rw [← List.append_right_inj resp.text, ← List.append_assoc, hextra, List.append_assoc, hserved]
  rw [← List.length_append, ← hextra, List.length_append, Nat.add_left_cancel_iff]
  match extra with
  | [] =>
    refine iff_of_false (fun ⟨s, events, hs, hall⟩ => ?_) (by simp)
    cases hs
    exact spurious frames hrest (hall _ .ok)
  | [b] =>
    refine iff_of_true ⟨_, _, rfl, fun α unmarshal => ?_⟩ rfl
    exact nexts_frames unmarshal frames (List.cons.inj hrest).2
  | b :: b' :: bs =>
    refine iff_of_false (fun ⟨s, events, hs, hall⟩ => ?_) (by simp)
    cases hs
    exact missing frames (List.cons_ne_nil b' bs) (List.cons.inj hrest).2 _ (hall _ .ok)

end Main

namespace Sample

def responseText : Text where
  text := ascii "\x7b\"status\":\"ok\"\x7d"
  whole := by decide +kernel
  opens := by decide +kernel

def frame : StreamFrame where
  text := ascii "\x7b\"topic\":\"t\",\"ts\":1\x7d"
  whole := by decide +kernel
  opens := by decide +kernel
  line := by decide +kernel

def unmarshalResponse (text : List UInt8) : Except String StreamHandshakeResponse :=
  if text = responseText.text then .ok { status := "ok" } else .error "unexpected input"

def component : Component := { componentID := "c1", sessionID := "s1" }

end Sample

theorem delivers_iff_sample :
    Delivers growBuf Sample.unmarshalResponse Sample.component "data.sock" [Sample.frame]
      { pieces := [Sample.responseText.text ++ [newline], Sample.frame.text ++ [newline]] } :=
  (delivers_iff growBuf Sample.unmarshalResponse Sample.component "data.sock" Sample.responseText
    { status := "ok" } [Sample.frame] _ (by decide +kernel) (by decide +kernel) rfl rfl
    (if_pos rfl) rfl (by decide +kernel)).mpr (by decide +kernel)

/-- The frame that comes in one read with the response is lost. -/
theorem frame_lost : ¬ ∀ (unmarshalResponse : List UInt8 → Except String StreamHandshakeResponse)
    (c : Component) (socketPath : String) (resp : Text) (response : StreamHandshakeResponse)
    (frames : List StreamFrame) (link : StreamLink),
    c.componentID ≠ "" → c.sessionID ≠ "" → link.dial = true → link.write = true →
    unmarshalResponse resp.text = .ok response → response.status = "ok" →
    link.pieces.flatten = served resp frames →
      Delivers growBuf unmarshalResponse c socketPath frames link := by
  intro h
  obtain ⟨s, events, hs, hall⟩ := h Sample.unmarshalResponse Sample.component "data.sock"
    Sample.responseText { status := "ok" } [Sample.frame]
    { pieces := [served Sample.responseText [Sample.frame]] } (by decide +kernel)
    (by decide +kernel) rfl rfl (if_pos rfl) rfl (by decide +kernel)
  have arrived := congrArg (List.map Except.isOk) (hall Unit fun _ => .ok ())
  have opened : ((openStream growBuf Sample.unmarshalResponse Sample.component "data.sock"
      { pieces := [served Sample.responseText [Sample.frame]] }).1.toOption.map fun s =>
        (s.nexts (fun _ => .ok ()) 2).map Except.isOk) = some [true, false] := by
    rw [hs]
    exact congrArg some arrived
  revert opened
  decide +kernel

end AegisSdk.Go
