import AegisSdk.Go.Protocol
import AegisSdk.Library.Framing

/-!
The readers between the socket and the envelopes: `bufio.Reader` and the `Decoder` of
`encoding/json`, which reads a block into its own buffer, scans it and hands the text of
one value to the unmarshaller. The scanner is the state machine of the package.
-/

set_option autoImplicit false
set_option relaxedAutoImplicit false

namespace AegisSdk.Go

open AegisSdk.Library

inductive ParseState where
  | objectKey
  | objectValue
  | arrayValue
  deriving DecidableEq

inductive Mode where
  | beginValueOrEmpty
  | beginValue
  | beginStringOrEmpty
  | beginString
  | endValue
  | inString
  | inStringEsc
  /-- so many hex digits are to come -/
  | inStringEscU (digits : Nat)
  | neg
  | one
  | zero
  | dot
  | dot0
  | e
  | eSign
  | e0
  /-- inside `true`, `false` or `null`, with the letters to come -/
  | literal (letters : List UInt8)
  deriving DecidableEq

structure ScanState where
  mode : Mode
  parseState : List ParseState
  deriving DecidableEq

def maxNestingDepth : Nat := 10000

def isSpace (c : UInt8) : Bool :=
  c = ' '.toUInt8 || c = '\t'.toUInt8 || c = '\r'.toUInt8 || c = '\n'.toUInt8

def isDigit (c : UInt8) : Bool := '0'.toUInt8 ≤ c && c ≤ '9'.toUInt8

def isHex (c : UInt8) : Bool :=
  isDigit c || ('a'.toUInt8 ≤ c && c ≤ 'f'.toUInt8) || ('A'.toUInt8 ≤ c && c ≤ 'F'.toUInt8)

namespace ScanState

def goto (mode : Mode) (stack : List ParseState) : Step ScanState := .more ⟨mode, stack⟩

def pushParseState (mode : Mode) (new : ParseState) (stack : List ParseState) :
    Step ScanState :=
  if stack.length < maxNestingDepth then goto mode (new :: stack) else .error

/-- The composite that ends with this byte was the innermost one. -/
def popParseState (outer : List ParseState) : Step ScanState :=
  if outer = [] then .last else goto .endValue outer

def stateEndValue (stack : List ParseState) (c : UInt8) : Step ScanState :=
  match stack with
  | [] => .past
  | ps :: outer =>
    if isSpace c then goto .endValue stack
    else match ps with
      | .objectKey =>
        if c = ':'.toUInt8 then goto .beginValue (.objectValue :: outer) else .error
      | .objectValue =>
        if c = ','.toUInt8 then goto .beginString (.objectKey :: outer)
        else if c = '}'.toUInt8 then popParseState outer
        else .error
      | .arrayValue =>
        if c = ','.toUInt8 then goto .beginValue stack
        else if c = ']'.toUInt8 then popParseState outer
        else .error

def stateBeginValue (stack : List ParseState) (c : UInt8) : Step ScanState :=
  if isSpace c then goto .beginValue stack
  else if c = '{'.toUInt8 then pushParseState .beginStringOrEmpty .objectKey stack
  else if c = '['.toUInt8 then pushParseState .beginValueOrEmpty .arrayValue stack
  else if c = '"'.toUInt8 then goto .inString stack
  else if c = '-'.toUInt8 then goto .neg stack
  else if c = '0'.toUInt8 then goto .zero stack
  else if c = 't'.toUInt8 then goto (.literal ("rue".toList.map Char.toUInt8)) stack
  else if c = 'f'.toUInt8 then goto (.literal ("alse".toList.map Char.toUInt8)) stack
  else if c = 'n'.toUInt8 then goto (.literal ("ull".toList.map Char.toUInt8)) stack
  else if isDigit c then goto .one stack
  else .error

def stateBeginString (stack : List ParseState) (c : UInt8) : Step ScanState :=
  if isSpace c then goto .beginString stack
  else if c = '"'.toUInt8 then goto .inString stack
  else .error

/-- An empty object ends here; its parse state is `objectValue` from now on. -/
def stateBeginStringOrEmpty (stack : List ParseState) (c : UInt8) : Step ScanState :=
  if isSpace c then goto .beginStringOrEmpty stack
  else if c = '}'.toUInt8 then stateEndValue (.objectValue :: stack.tail) c
  else stateBeginString stack c

def state0 (stack : List ParseState) (c : UInt8) : Step ScanState :=
  if c = '.'.toUInt8 then goto .dot stack
  else if c = 'e'.toUInt8 || c = 'E'.toUInt8 then goto .e stack
  else stateEndValue stack c

def stateESign (stack : List ParseState) (c : UInt8) : Step ScanState :=
  if isDigit c then goto .e0 stack else .error

def step (s : ScanState) (c : UInt8) : Step ScanState :=
  match s.mode with
  | .beginValueOrEmpty =>
    if isSpace c then goto .beginValueOrEmpty s.parseState
    else if c = ']'.toUInt8 then stateEndValue s.parseState c
    else stateBeginValue s.parseState c
  | .beginValue => stateBeginValue s.parseState c
  | .beginStringOrEmpty => stateBeginStringOrEmpty s.parseState c
  | .beginString => stateBeginString s.parseState c
  | .endValue => stateEndValue s.parseState c
  | .inString =>
    if c = '"'.toUInt8 then goto .endValue s.parseState
    else if c = '\\'.toUInt8 then goto .inStringEsc s.parseState
    else if c < 0x20 then .error
    else goto .inString s.parseState
  | .inStringEsc =>
    if c ∈ "bfnrt\\/\"".toList.map Char.toUInt8 then goto .inString s.parseState
    else if c = 'u'.toUInt8 then goto (.inStringEscU 4) s.parseState
    else .error
  | .inStringEscU digits =>
    if isHex c then
      goto (if digits ≤ 1 then .inString else .inStringEscU (digits - 1)) s.parseState
    else .error
  | .neg =>
    if c = '0'.toUInt8 then goto .zero s.parseState
    else if isDigit c then goto .one s.parseState
    else .error
  | .one => if isDigit c then goto .one s.parseState else state0 s.parseState c
  | .zero => state0 s.parseState c
  | .dot => if isDigit c then goto .dot0 s.parseState else .error
  | .dot0 =>
    if isDigit c then goto .dot0 s.parseState
    else if c = 'e'.toUInt8 || c = 'E'.toUInt8 then goto .e s.parseState
    else stateEndValue s.parseState c
  | .e =>
    if c = '+'.toUInt8 || c = '-'.toUInt8 then goto .eSign s.parseState
    else stateESign s.parseState c
  | .eSign => stateESign s.parseState c
  | .e0 => if isDigit c then goto .e0 s.parseState else stateEndValue s.parseState c
  | .literal letters =>
    if letters.head? = some c then
      goto (if letters.tail = [] then .endValue else .literal letters.tail) s.parseState
    else .error

/-- At the end of the stream the scanner is given one more space. -/
def complete (s : ScanState) : Bool :=
  match s.step ' '.toUInt8 with
  | .past => true
  | _ => false

end ScanState

namespace ScanState

variable (stack : List ParseState) (c : UInt8)

theorem goto_ne_last (mode : Mode) : goto mode stack ≠ .last := nofun

theorem pushParseState_ne_last (mode : Mode) (new : ParseState) :
    pushParseState mode new stack ≠ .last := by
  unfold pushParseState
  split
  · exact goto_ne_last _ _
  · exact nofun

theorem stateBeginValue_ne_last : stateBeginValue stack c ≠ .last := by
  unfold stateBeginValue
  split_ifs
  all_goals first | exact goto_ne_last _ _ | exact pushParseState_ne_last _ _ _ | exact nofun

theorem stateBeginString_ne_last : stateBeginString stack c ≠ .last := by
  unfold stateBeginString
  split_ifs
  all_goals first | exact goto_ne_last _ _ | exact nofun

theorem stateESign_ne_last : stateESign stack c ≠ .last := by
  unfold stateESign
  split_ifs
  all_goals first | exact goto_ne_last _ _ | exact nofun

variable {c}

theorem stateEndValue_ne_last (hc : isSpace c = true) : stateEndValue stack c ≠ .last := by
  cases stack with
  | nil => exact nofun
  | cons ps outer =>
    simp only [stateEndValue, if_pos hc]
    exact goto_ne_last _ _

theorem stateBeginStringOrEmpty_ne_last (hc : isSpace c = true) :
    stateBeginStringOrEmpty stack c ≠ .last := by
  rw [stateBeginStringOrEmpty, if_pos hc]
  exact goto_ne_last _ _

theorem state0_ne_last (hc : isSpace c = true) : state0 stack c ≠ .last := by
  unfold state0
  split_ifs
  all_goals first | exact goto_ne_last _ _ | exact stateEndValue_ne_last _ hc

theorem step_ne_last (s : ScanState) (hc : isSpace c = true) : s.step c ≠ .last := by
  unfold step
  split
  all_goals try split_ifs
  all_goals first
    | exact goto_ne_last _ _
    | exact stateEndValue_ne_last _ hc
    | exact state0_ne_last _ hc
    | exact stateBeginStringOrEmpty_ne_last _ hc
    | exact stateBeginValue_ne_last _ _
    | exact stateBeginString_ne_last _ _
    | exact stateESign_ne_last _ _
    | exact nofun

end ScanState

/-- The scanner of `encoding/json`. -/
def json : Scanner ScanState UInt8 where
  start := ⟨.beginValue, []⟩
  step := ScanState.step
  complete := ScanState.complete
  space := isSpace
  step_space c hc := if_pos hc
  not_complete_start := rfl
  last_not_space s c h := by
    by_contra hc
    exact s.step_ne_last (by simpa using hc) h

/-- `refill` of the classic `encoding/json`: with less than `minRead` bytes of room the buffer
grows. -/
def growBuf : Growth where
  grow cap len := if cap - len < 512 then 2 * cap + 512 else cap
  room {cap len} h := by
    split <;> omega

instance bufioSize_pos : Fact (0 < 4096) := ⟨by decide⟩

/-- A `bufio.Reader` of the default size over a connection. -/
abbrev Reader := Buffered 4096 (Pieces UInt8) UInt8

/-- `bufio.NewReader(conn)`, where the reads of `conn` give the pieces. -/
def newReader (pieces : List (List UInt8)) : Reader := { src := ⟨pieces⟩ }

/-- The text of one JSON value, an object or array, as `json.Encoder` writes it. -/
abbrev Text := json.Frame

def newline : UInt8 := '\n'.toUInt8

inductive DecodeError where
  /-- a read error or a syntax error -/
  | decoder (why : Failure)
  | unmarshal (text : String)
  deriving DecidableEq

def DecodeError.eof : DecodeError := .decoder .eof

/-- The text of a syntax error is shortened: it goes on with the byte and the context. -/
def DecodeError.error : DecodeError → String
  | .decoder .eof => "EOF"
  | .decoder .unexpectedEOF => "unexpected EOF"
  | .decoder .malformed => "invalid character"
  | .unmarshal text => text

/-- `Unmarshal` by the function that knows the target type, with its error. -/
def unmarshalText {α : Type} (unmarshal : List UInt8 → Except String α) (text : List UInt8) :
    Except DecodeError α :=
  match unmarshal text with
  | .ok a => .ok a
  | .error err => .error (.unmarshal err)

def ascii (s : String) : List UInt8 := s.toList.map Char.toUInt8

end AegisSdk.Go
