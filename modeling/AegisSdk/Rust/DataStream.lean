import AegisSdk.Library.Arrivals
import AegisSdk.Rust.Reader

/-!
`data_stream.rs`: the handshake and the frames of the data stream, one line each, read
from one `BufReader`. Whatever the pieces are in which the bytes arrive, calls of `next`
that wait long enough meet the lines after the handshake response one by one.
-/

set_option autoImplicit false
set_option relaxedAutoImplicit false

namespace AegisSdk.Rust

open AegisSdk.Protocol AegisSdk.Library

structure StreamMessage where
  topic : String
  data : Json

structure DataStream where
  topics : List String
  reader : BufReader

structure Frame where
  topic : String
  data : Json

structure Handshake where
  componentId : String
  sessionToken : String

structure HandshakeResponse where
  status : String
  message : Option String
  topics : Option (List String)

def Frame.deserialize : Json → Option Frame
  | .obj members => do
    let topic ← (← field members "topic").asStr
    let data ← field members "data"
    some { topic, data }
  | .arr [topic, data] => do
    let topic ← topic.asStr
    some { topic, data }
  | _ => none

def optionalStrings : Json → Option (Option (List String))
  | .null => some none
  | .arr items => (items.mapM Json.asStr).map some
  | _ => none

/-- An `Option<Vec<String>>` field may be missing. -/
def optionalStringsField (members : List (String × Json)) (key : String) :
    Option (Option (List String)) :=
  match members.filter (fun m => m.1 == key) with
  | [] => some none
  | [m] => optionalStrings m.2
  | _ => none

def HandshakeResponse.deserialize : Json → Option HandshakeResponse
  | .obj members => do
    let status ← (← field members "status").asStr
    let message ← optionalField members "message"
    let topics ← optionalStringsField members "topics"
    some { status, message, topics }
  | .arr [status, message, topics] => do
    let status ← status.asStr
    let message ← optionalString message
    let topics ← optionalStrings topics
    some { status, message, topics }
  | _ => none

inductive StreamEvent where
  | connect (socketPath : String)
  | write (hs : Handshake)

/-- One connection to the stream socket: the errors of `connect`, of `write_all` and of
`flush`, the pieces that arrive, and how many of them within 10 seconds. -/
structure StreamLink where
  connect : Except String Unit := .ok ()
  write : Except String Unit := .ok ()
  flush : Except String Unit := .ok ()
  pieces : List (List UInt8)
  patience : Nat

variable (parse : List UInt8 → Option Json)

/-- `read_line` has put the line into a `String`. -/
def checkUtf8 (line : List UInt8) : Except AegisError Unit :=
  match String.fromUTF8? ⟨line.toArray⟩ with
  | none => .error (.io "stream did not contain valid UTF-8")
  | some _ => .ok ()

def decodeResponse (line : List UInt8) : Except AegisError HandshakeResponse := do
  checkUtf8 line
  match (parse line).bind HandshakeResponse.deserialize with
  | none => .error (.connection "data stream handshake response: decode")
  | some resp => .ok resp

def DataStream.connect (socketPath componentId sessionId : String) (link : StreamLink) :
    Except AegisError DataStream × List StreamEvent :=
  let hs : Handshake := { componentId, sessionToken := sessionId }
  match link.connect with
  | .error e => (.error (.connection ("data stream connect: " ++ e)), [])
  | .ok () =>
    match link.write, link.flush with
    | .error e, _ => (.error (.io e), [.connect socketPath])
    | .ok (), .error e => (.error (.io e), [.connect socketPath])
    | .ok (), .ok () =>
      let events := [StreamEvent.connect socketPath, .write hs]
      match (newBufReader link.pieces).readUntil newline link.patience [] with
      | (none, _) => (.error .timeout, events)
      | (some line, reader) =>
        match decodeResponse parse line with
        | .error e => (.error e, events)
        | .ok resp =>
          if resp.status ≠ "ok" then
            (.error (.connection ("data stream handshake rejected: " ++
              resp.message.getD "no message")), events)
          else (.ok { topics := resp.topics.getD [], reader }, events)

/-- What `next` makes of one line. -/
def decodeFrame (line : List UInt8) : Except AegisError StreamMessage := do
  checkUtf8 line
  match (parse line).bind Frame.deserialize with
  | none => .error (.json "decode")
  | some frame => .ok { topic := frame.topic, data := frame.data }

/-- `next`, where `patience` blocks arrive within `READ_TIMEOUT`. -/
def DataStream.next (patience : Nat) (s : DataStream) :
    Except AegisError StreamMessage × DataStream :=
  match s.reader.readUntil newline patience [] with
  | (none, reader) => (.error .timeout, { s with reader })
  | (some [], reader) => (.error (.connection "data stream closed"), { s with reader })
  | (some line, reader) => (decodeFrame parse line, { s with reader })

/-- What calls of `next` in succession give, each with its patience. -/
def DataStream.nexts : List Nat → DataStream → List (Except AegisError StreamMessage)
  | [], _ => []
  | patience :: more, s => (s.next parse patience).1 :: nexts more (s.next parse patience).2

/-- What a call gives for the line it takes; nothing is the end of the stream. -/
def takenResult : List UInt8 → Except AegisError StreamMessage
  | [] => .error (.connection "data stream closed")
  | b :: bs => decodeFrame parse (b :: bs)

/-- What the call number `k` of `next` has to give when `ls` are the lines to come. -/
def lineResult (ls : List (List UInt8)) (k : Nat) : Except AegisError StreamMessage :=
  match ls[k]? with
  | some line => decodeFrame parse line
  | none => .error (.connection "data stream closed")

theorem lineResult_zero (text : List UInt8) :
    lineResult parse (lines newline text) 0 =
      takenResult parse ((lines newline text).headD []) := by
  cases text with
  | nil => rfl
  | cons b bs =>
    obtain ⟨line, rest, hlines⟩ := lines_cons newline b bs
    rw [hlines]
    rfl

theorem lineResult_tail (ls : List (List UInt8)) (k : Nat) :
    lineResult parse ls.tail k = lineResult parse ls (k + 1) := by
  cases ls with
  | nil => rfl
  | cons line ls => rfl

theorem lineResult_range (text : List UInt8) (n : Nat) :
    (List.range (n + 1)).map (lineResult parse (lines newline text)) =
      takenResult parse ((lines newline text).headD []) ::
        (List.range n).map (lineResult parse (lines newline text).tail) := by
  rw [List.range_succ_eq_map, List.map_cons, List.map_map, lineResult_zero]
  simp [lineResult_tail]

theorem next_inTime {patience : Nat} {s : DataStream}
    (h : s.reader.arrivals.needed newline ≤ patience) :
    (s.next parse patience).1 = takenResult parse (s.reader.arrivals.line newline) ∧
      (s.next parse patience).2.reader.arrivals = s.reader.arrivals.next newline := by
  obtain ⟨reader, hread, hnext⟩ := Buffered.readUntil_line h
  unfold DataStream.next
  rw [hread]
  cases s.reader.arrivals.line newline with
  | nil => exact ⟨rfl, hnext⟩
  | cons b bs => exact ⟨rfl, hnext⟩

/-- Calls in time give the results of the lines to come in their order. -/
theorem nexts_inTime {patiences : List Nat} {s : DataStream}
    (h : s.reader.arrivals.InTime newline patiences) :
    s.nexts parse patiences = (List.range patiences.length).map
      (lineResult parse (lines newline s.reader.arrivals.content)) := by
  induction patiences generalizing s with
  | nil => rfl
  | cons patience more ih =>
    obtain ⟨hresult, hrest⟩ := next_inTime parse h.1
    have hmore := ih (s := (s.next parse patience).2) (by rw [hrest]; exact h.2)
    rw [hrest, Arrivals.lines_next] at hmore
    rw [DataStream.nexts, hresult, hmore, List.length_cons, lineResult_range, Arrivals.line]

def StreamLink.arrivals (link : StreamLink) : Arrivals UInt8 :=
  (newBufReader link.pieces).arrivals

theorem StreamLink.content_arrivals (link : StreamLink) :
    link.arrivals.content = link.pieces.flatten := by
  rw [arrivals, Buffered.content_arrivals, content_newBufReader]

/-- The stream is connected with the topics of the handshake response. If `connect` and
calls of `next` with some patiences are in time, these calls give, one by one, what the lines
`ls` decode to and then `Connection`; whoever waits for more blocks than there are bytes is in
time. -/
def DeliversLines (link : StreamLink) (resp : HandshakeResponse) (ls : List (List UInt8))
    (connected : Except AegisError DataStream) : Prop :=
  ∃ s, connected = .ok s ∧ s.topics = resp.topics.getD [] ∧
    (∀ patiences, link.arrivals.InTime newline (link.patience :: patiences) →
      ∀ k < patiences.length, (s.nexts parse patiences)[k]? = some (lineResult parse ls k)) ∧
    ∀ patiences, (∀ patience ∈ patiences, link.pieces.flatten.length < patience) →
      link.arrivals.InTime newline (link.patience :: patiences)

/-- However the bytes are split into reads, a first line that accepts the handshake and comes
in time connects the stream, and the other lines are delivered one for each call of `next`. -/
theorem dataStream_delivers (socketPath componentId sessionId : String) (link : StreamLink)
    (hconnect : link.connect = .ok ()) (hwrite : link.write = .ok ()) (hflush : link.flush = .ok ())
    {first : List UInt8} {ls : List (List UInt8)}
    (hlines : lines newline link.pieces.flatten = first :: ls)
    {resp : HandshakeResponse} (hresp : decodeResponse parse first = .ok resp)
    (hstatus : resp.status = "ok")
    (intime : link.arrivals.needed newline ≤ link.patience) :
    DeliversLines parse link resp ls
      (DataStream.connect parse socketPath componentId sessionId link).1 := by
  have hcontent : lines newline link.arrivals.content = first :: ls := by
    rw [link.content_arrivals, hlines]
  have hfirst : link.arrivals.line newline = first := by
    rw [Arrivals.line, hcontent, List.headD_cons]
  obtain ⟨reader, hread, hnext⟩ : ∃ reader,
      (newBufReader link.pieces).readUntil newline link.patience [] =
        (some (link.arrivals.line newline), reader) ∧
      reader.arrivals = link.arrivals.next newline := Buffered.readUntil_line intime
  have hrest : lines newline reader.arrivals.content = ls := by
    rw [hnext, Arrivals.lines_next, hcontent, List.tail_cons]
  unfold DataStream.connect
  rw [hconnect, hwrite, hflush]
  simp only
  rw [hread, hfirst]
  simp only [hresp, hstatus, ne_eq, not_true_eq_false, if_false]
  refine ⟨{ topics := resp.topics.getD [], reader }, rfl, rfl, fun patiences h k hk => ?_,
    fun patiences h => ⟨intime, Arrivals.inTime_of_lt fun patience hp => ?_⟩⟩
  · rw [nexts_inTime parse (by rw [hnext]; exact h.2), hrest]
    simp [hk]
  · have hblocks : link.arrivals.coming.length ≤ link.pieces.flatten.length :=
      BlockReader.length_blocks_le 8192 _ (newBufReader link.pieces).src
    have hrest : (link.arrivals.next newline).coming.length ≤ link.arrivals.coming.length := by
      simp [Arrivals.next]
    exact Nat.lt_of_le_of_lt (Nat.le_trans hrest hblocks) (h patience hp)

namespace Sample

def streamLine (text : String) : List UInt8 := text.toByteArray.data.toList

def accepted : List UInt8 := streamLine "\x7b\"status\":\"ok\",\"topics\":[\"klines\"]\x7d\n"
def frame : List UInt8 := streamLine "\x7b\"topic\":\"klines\",\"data\":1\x7d\n"
def noFrame : List UInt8 := streamLine "\x7b\"topic\":1\x7d\n"
def fragment : List UInt8 := streamLine "\x7b\"topic\""

def parseStream (text : List UInt8) : Option Json :=
  if text = accepted then some (.obj [("status", .str "ok"), ("topics", .arr [.str "klines"])])
  else if text = frame then some (.obj [("topic", .str "klines"), ("data", .num "1")])
  else if text = noFrame then some (.obj [("topic", .num "1")])
  else none

/-- The first read of the socket ends within the second line. -/
def streamLink : StreamLink where
  pieces := [accepted ++ frame.take 5, frame.drop 5 ++ noFrame ++ frame, fragment]
  patience := 3

end Sample

theorem dataStream_delivers_sample :
    DeliversLines Sample.parseStream Sample.streamLink
      { status := "ok", message := none, topics := some ["klines"] }
      [Sample.frame, Sample.noFrame, Sample.frame, Sample.fragment]
      (DataStream.connect Sample.parseStream "s.sock" "c1" "s1" Sample.streamLink).1 :=
  dataStream_delivers Sample.parseStream "s.sock" "c1" "s1" Sample.streamLink rfl rfl rfl
    (by decide +kernel) (show decodeResponse Sample.parseStream Sample.accepted = _ by rfl) rfl
    (by decide +kernel)

end AegisSdk.Rust
