import AegisSdk.Rust.DataStream

/-!
Calls of `next` that time out. The future of `read_line` holds what it has taken of a line
in a local of the call, so that a call that times out takes it along; the next call meets
the rest of the line as if it were a line.
-/

set_option autoImplicit false
set_option relaxedAutoImplicit false

namespace AegisSdk.Rust

open AegisSdk.Protocol AegisSdk.Library

variable (parse : List UInt8 → Option Json)

def timedOut {α : Type} : Except AegisError α → Bool
  | .error .timeout => true
  | _ => false

def untimed (results : List (Except AegisError StreamMessage)) :
    List (Except AegisError StreamMessage) :=
  results.filter fun result => !timedOut result

/-- The calls that did not time out give what as many calls give that are all in time. -/
def LosesNothing (s : DataStream) (patiences : List Nat) : Prop :=
  ∀ patient : List Nat, s.reader.arrivals.InTime newline patient →
    patient.length = (untimed (s.nexts parse patiences)).length →
      untimed (s.nexts parse patiences) = s.nexts parse patient

/-- A call in time that comes after late ones gives the same for the rest of the line, which
is what it finds, as for the line with what they took. -/
def RestsDecode (s : DataStream) (patiences : List Nat) : Prop :=
  ∀ m ∈ s.reader.arrivals.met newline [] patiences,
    takenResult parse m.2 = takenResult parse (m.1 ++ m.2)

theorem decodeFrame_untimed (line : List UInt8) : timedOut (decodeFrame parse line) = false := by
  unfold decodeFrame checkUtf8
  split
  · rfl
  · cases (parse line).bind Frame.deserialize with
    | none => rfl
    | some frame => rfl

theorem takenResult_untimed (line : List UInt8) : timedOut (takenResult parse line) = false := by
  cases line with
  | nil => rfl
  | cons b bs => exact decodeFrame_untimed parse (b :: bs)

theorem next_late {patience : Nat} {s : DataStream}
    (h : patience < s.reader.arrivals.needed newline) :
    (s.next parse patience).1 = .error .timeout ∧
      (s.next parse patience).2.reader.arrivals = s.reader.arrivals.later patience := by
  obtain ⟨hnone, hlater⟩ := Buffered.readUntil_late [] h
  unfold DataStream.next
  rcases hread : s.reader.readUntil newline patience [] with ⟨_ | line, reader⟩
  · rw [hread] at hlater
    exact ⟨rfl, hlater⟩
  · rw [hread] at hnone
    cases hnone

/-- The calls that did not time out are those in time, and they give the results of the lines
they meet. -/
theorem untimed_nexts (lost : List UInt8) (patiences : List Nat) (s : DataStream) :
    untimed (s.nexts parse patiences) =
      (s.reader.arrivals.met newline lost patiences).map fun m => takenResult parse m.2 := by
  induction patiences generalizing lost s with
  | nil => rfl
  | cons patience more ih =>
    rw [DataStream.nexts, untimed, Arrivals.met]
    split
    · rename_i h
      obtain ⟨hresult, hnext⟩ := next_inTime parse h
      rw [hresult, List.filter_cons_of_pos (by simp [takenResult_untimed]), List.map_cons,
        ← hnext, ← ih]
      rfl
    · rename_i h
      obtain ⟨hresult, hlater⟩ := next_late parse (Nat.lt_of_not_le h)
      rw [hresult, List.filter_cons_of_neg (by simp [timedOut]), ← hlater, ← ih]
      rfl

theorem lineResult_met {lost : List UInt8} (hlost : newline ∉ lost) (patiences : List Nat)
    (a : Arrivals UInt8) :
    (List.range (a.met newline lost patiences).length).map
        (lineResult parse (lines newline (lost ++ a.content))) =
      (a.met newline lost patiences).map fun m => takenResult parse (m.1 ++ m.2) := by
  induction patiences generalizing lost a with
  | nil => rfl
  | cons patience more ih =>
    rw [Arrivals.met]
    split
    · have rest := ih (by simp : newline ∉ []) (a.next newline)
      rw [List.nil_append, Arrivals.lines_next, ← Arrivals.tail_lines_append lost hlost] at rest
      rw [List.length_cons, lineResult_range, rest, Arrivals.headD_lines_append lost hlost,
        List.map_cons, Arrivals.line]
    · rename_i h
      have hheard := Arrivals.not_mem_heard (Nat.lt_of_not_le h)
      have hboth : newline ∉ lost ++ a.heard patience := by simp [hlost, hheard]
      have rest := ih hboth (a.later patience)
      rwa [List.append_assoc, Arrivals.heard_later] at rest

/-- Timeouts lose nothing exactly if no timed-out call takes a part of a line without which
the line decodes otherwise. -/
theorem losesNothing_iff (s : DataStream) (patiences : List Nat) :
    LosesNothing parse s patiences ↔ RestsDecode parse s patiences := by
  let met := s.reader.arrivals.met newline [] patiences
  have given := untimed_nexts parse [] patiences s
  have wanted := lineResult_met parse (by simp : newline ∉ []) patiences s.reader.arrivals
  rw [List.nil_append] at wanted
  have unhurried : ∀ patient : List Nat, s.reader.arrivals.InTime newline patient →
      patient.length = met.length →
        s.nexts parse patient = met.map fun m => takenResult parse (m.1 ++ m.2) := by
    intro patient h hlength
    rw [nexts_inTime parse h, hlength, wanted]
  unfold LosesNothing RestsDecode
  rw [given, List.length_map, ← List.map_inj_left]
  constructor
  · intro loses
    let patient := List.replicate met.length (s.reader.arrivals.coming.length + 1)
    have hpatient : s.reader.arrivals.InTime newline patient :=
      Arrivals.inTime_of_lt fun p hp => by rw [List.eq_of_mem_replicate hp]; omega
    have hlength : patient.length = met.length := List.length_replicate
    rw [loses patient hpatient hlength, unhurried patient hpatient hlength]
  · intro rests patient hpatient hlength
    rw [unhurried patient hpatient hlength, rests]

namespace Sample

/-- A connected stream on which a frame arrives in two pieces. -/
def tornStream : DataStream where
  topics := ["klines"]
  reader := newBufReader [frame.take 5, frame.drop 5]

end Sample

/-- The second piece of the frame arrives after the first call has timed out. -/
theorem frame_torn : ¬ ∀ (parse : List UInt8 → Option Json) (s : DataStream)
    (patiences : List Nat), LosesNothing parse s patiences := by
  intro h
  have same := h Sample.parseStream Sample.tornStream [1, 2] [2]
    ⟨by decide +kernel, trivial⟩ (by decide +kernel)
  have oks := congrArg (List.map Except.isOk) same
  revert oks
  decide +kernel

end AegisSdk.Rust
