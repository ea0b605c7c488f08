import AegisSdk.Library.Watch
import AegisSdk.Protocol.Json

/-!
The lifecycle that a component shows on a connection, apart from any SDK. A component opens with
REGISTER, tells its states one after another and reports the one told last in every PONG; its
closing notice is its last line. It answers the messages of the daemon by ACKs and PONGs that
name them, each once and in order. Both are monitors over what a component takes up and sends.
-/

set_option autoImplicit false
set_option relaxedAutoImplicit false

namespace AegisSdk.Protocol

open AegisSdk.Library AegisSdk.Library.Monitor

inductive Reported where
  | initializing | ready | configured | running
  deriving DecidableEq, Repr

def Reported.name : Reported → String
  | .initializing => "INITIALIZING"
  | .ready => "READY"
  | .configured => "CONFIGURED"
  | .running => "RUNNING"

def Reported.all : List Reported := [.initializing, .ready, .configured, .running]

/-- The state of a component that has told nothing since it was registered, or `s`. -/
def Reported.shown : Option Reported → String
  | none => "REGISTERED"
  | some s => s.name

structure Line where
  command : String
  /-- the state in the payload -/
  state : Option Json := none
  /-- `null` in a line that answers nothing -/
  correlation : Json := .null

namespace Line

def register : Line := { command := "REGISTER" }
def update (state : String) : Line := { command := "STATE_UPDATE", state := some (.str state) }
def ack (id : Json) : Line := { command := "ACK", correlation := id }
def pong (state : String) (id : Json) : Line :=
  { command := "PONG", state := some (.str state), correlation := id }
def report : Line := { command := "RUNTIME_ERROR" }
def notice : Line := { command := "SHUTDOWN" }

def isRegister (l : Line) : Bool := l.command == "REGISTER"
def isUpdate (l : Line) : Bool := l.command == "STATE_UPDATE"
def isPong (l : Line) : Bool := l.command == "PONG"
def isNotice (l : Line) : Bool := l.command == "SHUTDOWN"
def isReply (l : Line) : Bool := l.command == "ACK" || l.command == "PONG"

def carries (l : Line) (s : Reported) : Bool := l.state.bind Json.asStr == some s.name

/-- The state that a STATE_UPDATE tells, if the line counts. -/
def tells (x : Line × Bool) : Option Reported :=
  if x.1.isUpdate && x.2 then Reported.all.find? x.1.carries else none

def told (ls : List (Line × Bool)) : List Reported := ls.filterMap tells

def reply (l : Line) : Option (String × Json) :=
  if l.isReply then some (l.command, l.correlation) else none

end Line

inductive Signal (M : Type) where
  | connect
  /-- a line is sent, and counts as told -/
  | line (l : Line) (told : Bool)
  /-- a message is taken up -/
  | asked (m : M)
  /-- every message has its answers, or a line was lost -/
  | settled
  /-- the state of the component is stored -/
  | holds (state : String)
  /-- a registered component waits for a message -/
  | awaits

namespace Signal

variable {M : Type}

def connects : Signal M → Bool
  | .connect => true
  | _ => false

def current (log : List (Signal M)) : List (Signal M) := since connects log

def sent : Signal M → Option (Line × Bool)
  | .line l told => some (l, told)
  | _ => none

def lines (log : List (Signal M)) : List (Line × Bool) := log.filterMap sent

def message : Signal M → Option M
  | .asked m => some m
  | _ => none

def replied : Signal M → Option (String × Json)
  | .line l _ => l.reply
  | _ => none

def replies (log : List (Signal M)) : List (String × Json) := log.filterMap replied

def owing (owed : M → List (String × Json)) (log : List (Signal M)) : List (String × Json) :=
  (log.filterMap message).flatMap owed

def stored : Signal M → Option String
  | .holds s => some s
  | _ => none

def state (log : List (Signal M)) : Option String := (log.filterMap stored).getLast?

def loses : Signal M → Bool
  | .line _ false => true
  | _ => false

@[simp] theorem current_connect (log : List (Signal M)) : current (log ++ [.connect]) = [] :=
  since_concat_of_opens _ rfl log

theorem current_concat {e : Signal M} (h : e.connects = false) (log : List (Signal M)) :
    current (log ++ [e]) = current log ++ [e] :=
  since_concat_of_not _ h log

@[simp] theorem lines_append (xs ys : List (Signal M)) : lines (xs ++ ys) = lines xs ++ lines ys :=
  List.filterMap_append

@[simp] theorem replies_append (xs ys : List (Signal M)) :
    replies (xs ++ ys) = replies xs ++ replies ys :=
  List.filterMap_append

@[simp] theorem owing_append (owed : M → List (String × Json)) (xs ys : List (Signal M)) :
    owing owed (xs ++ ys) = owing owed xs ++ owing owed ys := by
  rw [owing, List.filterMap_append, List.flatMap_append]
  rfl

end Signal

structure Conduct where
  /-- INITIALIZING and READY are told after REGISTERED -/
  opens : Bool
  /-- CONFIGURED may be told again before RUNNING -/
  repeats : Bool
  /-- nothing is sent after a line that was lost -/
  halts : Bool

def Conduct.next (c : Conduct) : Option Reported → List Reported
  | none => if c.opens then [.initializing] else [.configured]
  | some .initializing => [.ready]
  | some .ready => [.configured]
  | some .configured => if c.repeats then [.running, .configured] else [.running]
  | some .running => [.configured]

structure Conduct.Proper (c : Conduct) (before : List (Line × Bool)) (l : Line) : Prop where
  /-- REGISTER is the first line and no other one -/
  register : l.isRegister = before.isEmpty
  /-- a STATE_UPDATE carries a state that may follow the last one told -/
  update : l.isUpdate = true →
    ∃ s ∈ c.next (Line.told before).getLast?, l.state = some (.str s.name)
  /-- a PONG reports the state told last -/
  pong : l.isPong = true → l.state = some (.str (Reported.shown (Line.told before).getLast?))
  /-- a line that is no reply answers nothing -/
  plain : l.isReply = false → l.correlation = .null
  /-- the closing notice is the last line -/
  «open» : ∀ x ∈ before, x.1.isNotice = false
  intact : c.halts = true → ∀ x ∈ before, x.2 = true

/-- The state of a component that has sent these lines: the one told last, up to its closing
notice. -/
def Line.held (ls : List (Line × Bool)) : String :=
  if ls.all fun x => !x.1.isNotice then Reported.shown (Line.told ls).getLast? else "SHUTDOWN"

/-- The state that is stored, and the one in which a message is awaited, is that of the lines
before. -/
def Upright {M : Type} (before : List (Signal M)) : Signal M → Prop
  | .holds s => s = Line.held (Signal.lines before)
  | .awaits => Signal.state before = some (Line.held (Signal.lines before))
  | _ => True

structure Conduct.Lifecycle {M : Type} (c : Conduct) (es : List (Signal M)) : Prop where
  lines : Everywhere (fun before x => c.Proper before x.1) [] (Signal.lines es)
  states : Everywhere Upright [] es

structure Standing where
  registered : Bool := false
  told : Option Reported := none
  lossless : Bool := true
  «open» : Bool := true
  state : Option String := none

structure Conduct.Admits (c : Conduct) (t : Standing) (l : Line) : Prop where
  register : l.isRegister = !t.registered
  update : l.isUpdate = true → ∃ s ∈ c.next t.told, l.state = some (.str s.name)
  pong : l.isPong = true → l.state = some (.str (Reported.shown t.told))
  plain : l.isReply = false → l.correlation = .null
  «open» : t.open = true
  intact : c.halts = true → t.lossless = true

def Standing.after (t : Standing) (l : Line) (ok : Bool) : Standing where
  registered := true
  told := (Line.tells (l, ok)).or t.told
  lossless := t.lossless && ok
  «open» := t.open && !l.isNotice
  state := t.state

def Standing.step {M : Type} (t : Standing) : Signal M → Standing
  | .connect => {}
  | .line l ok => t.after l ok
  | .holds s => { t with state := some s }
  | _ => t

def Standing.held (t : Standing) : String := if t.open then Reported.shown t.told else "SHUTDOWN"

def Conduct.allows {M : Type} (c : Conduct) (t : Standing) : Signal M → Prop
  | .line l _ => c.Admits t l
  | .holds s => s = t.held
  | .awaits => t.state = some t.held
  | _ => True

def Conduct.monitor (M : Type) (c : Conduct) : Monitor Standing (Signal M) where
  step := Standing.step
  allows := c.allows

section Lifecycle

variable {M : Type} {c : Conduct} {t : Standing} {ls : List (Line × Bool)} {l : Line} {ok : Bool}

theorem Line.told_concat (ls : List (Line × Bool)) (x : Line × Bool) :
    Line.told (ls ++ [x]) = Line.told ls ++ (Line.tells x).toList := by
  unfold Line.told
  rw [List.filterMap_append]
  cases h : Line.tells x <;> simp [h]

theorem Line.getLast?_told (ls : List (Line × Bool)) (x : Line × Bool) :
    (Line.told (ls ++ [x])).getLast? = (Line.tells x).or (Line.told ls).getLast? := by
  rw [Line.told_concat]
  cases Line.tells x <;> simp

theorem Line.carries_iff {l : Line} {s : Reported} (h : l.state = some (.str s.name))
    (s' : Reported) :
    l.carries s' = true ↔ s' = s := by
  have hname : ∀ a b : Reported, a.name = b.name ↔ a = b := by
    intro a b
    cases a <;> cases b <;> decide
  rw [Line.carries, h, Option.bind_some, Json.asStr_str, beq_iff_eq, Option.some_inj, hname]
  exact eq_comm

theorem Line.tells_eq {l : Line} {s : Reported} (hupdate : l.isUpdate = true)
    (h : l.state = some (.str s.name)) (ok : Bool) :
    Line.tells (l, ok) = if ok then some s else none := by
  have hcarries : l.carries = fun s' => decide (s' = s) := by
    funext s'
    rw [Bool.eq_iff_iff, Line.carries_iff h, decide_eq_true_iff]
  unfold Line.tells
  rw [hupdate, hcarries]
  cases ok with
  | false => rfl
  | true => cases s <;> rfl

theorem Line.tells_of_not_update {l : Line} (h : l.isUpdate = false) (ok : Bool) :
    Line.tells (l, ok) = none := by
  simp [Line.tells, h]

structure Conduct.Live (c : Conduct) (t : Standing) : Prop where
  registered : t.registered = true
  «open» : t.open = true
  intact : c.halts = true → t.lossless = true

namespace Conduct.Live

theorem update (h : c.Live t) {s : Reported} (hs : s ∈ c.next t.told) :
    c.Admits t (.update s.name) := by
  refine ⟨?_, fun _ => ⟨s, hs, rfl⟩, nofun, fun _ => rfl, h.open, h.intact⟩
  rw [h.registered]
  rfl

theorem ack (h : c.Live t) (id : Json) : c.Admits t (.ack id) := by
  refine ⟨?_, nofun, nofun, nofun, h.open, h.intact⟩
  rw [h.registered]
  rfl

theorem pong (h : c.Live t) (id : Json) : c.Admits t (.pong (Reported.shown t.told) id) := by
  refine ⟨?_, nofun, fun _ => rfl, nofun, h.open, h.intact⟩
  rw [h.registered]
  rfl

theorem report (h : c.Live t) : c.Admits t .report := by
  refine ⟨?_, nofun, nofun, fun _ => rfl, h.open, h.intact⟩
  rw [h.registered]
  rfl

theorem notice (h : c.Live t) : c.Admits t .notice := by
  refine ⟨?_, nofun, nofun, fun _ => rfl, h.open, h.intact⟩
  rw [h.registered]
  rfl

end Conduct.Live

theorem Conduct.admits_register (c : Conduct) : c.Admits {} .register :=
  ⟨rfl, nofun, nofun, fun _ => rfl, rfl, fun _ => rfl⟩

@[simp] theorem Standing.after_register (t : Standing) (ok : Bool) :
    t.after .register ok = { t with registered := true, lossless := t.lossless && ok } := by
  simp [Standing.after, Line.tells, Line.isUpdate, Line.isNotice, Line.register]

@[simp] theorem Standing.after_update (t : Standing) (s : Reported) (ok : Bool) :
    t.after (.update s.name) ok =
      { t with registered := true, told := if ok then some s else t.told,
               lossless := t.lossless && ok } := by
  unfold Standing.after
  rw [Line.tells_eq rfl rfl]
  cases ok <;> simp [Line.isNotice, Line.update]

@[simp] theorem Standing.after_ack (t : Standing) (id : Json) (ok : Bool) :
    t.after (.ack id) ok = { t with registered := true, lossless := t.lossless && ok } := by
  simp [Standing.after, Line.tells, Line.isUpdate, Line.isNotice, Line.ack]

@[simp] theorem Standing.after_pong (t : Standing) (state : String) (id : Json) (ok : Bool) :
    t.after (.pong state id) ok = { t with registered := true, lossless := t.lossless && ok } := by
  simp [Standing.after, Line.tells, Line.isUpdate, Line.isNotice, Line.pong]

@[simp] theorem Standing.after_report (t : Standing) (ok : Bool) :
    t.after .report ok = { t with registered := true, lossless := t.lossless && ok } := by
  simp [Standing.after, Line.tells, Line.isUpdate, Line.isNotice, Line.report]

@[simp] theorem Standing.after_notice (t : Standing) (ok : Bool) :
    t.after .notice ok =
      { t with registered := true, lossless := t.lossless && ok, «open» := false } := by
  simp [Standing.after, Line.tells, Line.isUpdate, Line.isNotice, Line.notice]

structure Standing.Sums (ls : List (Line × Bool)) (t : Standing) : Prop where
  registered : t.registered = !ls.isEmpty
  told : t.told = (Line.told ls).getLast?
  lossless : t.lossless = ls.all fun x => x.2
  «open» : t.open = ls.all fun x => !x.1.isNotice

theorem Standing.Sums.admits_iff (h : t.Sums ls) : c.Admits t l ↔ c.Proper ls l := by
  have hregister : (!t.registered) = ls.isEmpty := by rw [h.registered, Bool.not_not]
  have hopen : t.open = true ↔ ∀ x ∈ ls, x.1.isNotice = false := by
    simp [h.open]
  have hlossless : t.lossless = true ↔ ∀ x ∈ ls, x.2 = true := by
    simp [h.lossless]
  constructor
  · rintro ⟨register, update, pong, plain, «open», intact⟩
    rw [h.told] at update pong
    exact ⟨register.trans hregister, update, pong, plain, hopen.mp «open»,
      fun halts => hlossless.mp (intact halts)⟩
  · rintro ⟨register, update, pong, plain, «open», intact⟩
    rw [← h.told] at update pong
    exact ⟨register.trans hregister.symm, update, pong, plain, hopen.mpr «open»,
      fun halts => hlossless.mpr (intact halts)⟩

theorem Standing.Sums.after (h : t.Sums ls) (l : Line) (ok : Bool) :
    (t.after l ok).Sums (ls ++ [(l, ok)]) where
  registered := by simp [Standing.after]
  told := by rw [Line.getLast?_told, ← h.told]; rfl
  lossless := by simp [Standing.after, h.lossless]
  «open» := by simp [Standing.after, h.open]

theorem Standing.Sums.held_eq (h : t.Sums ls) : t.held = Line.held ls := by
  rw [Standing.held, Line.held, h.open, h.told]

theorem Signal.lines_quiet {e : Signal M} (h : Signal.sent e = none) (es : List (Signal M)) :
    Signal.lines (es ++ [e]) = Signal.lines es := by
  simp [Signal.lines, List.filterMap_append, h]

theorem Signal.state_concat (es : List (Signal M)) (e : Signal M) :
    Signal.state (es ++ [e]) = (Signal.stored e).or (Signal.state es) := by
  unfold Signal.state
  rw [List.filterMap_append]
  cases h : Signal.stored e <;> simp [h]

theorem Conduct.Lifecycle.concat {es : List (Signal M)} {e : Signal M} (h : c.Lifecycle es)
    (hline : Signal.sent e = none) (hstate : Upright es e) : c.Lifecycle (es ++ [e]) :=
  ⟨Signal.lines_quiet hline es ▸ h.lines, (everywhere_concat _ _ _).mpr ⟨h.states, hstate⟩⟩

/-- What the monitor knows after what is seen of a connection. -/
structure Standing.Knows (es : List (Signal M)) (t : Standing) : Prop where
  sums : t.Sums (Signal.lines es)
  state : t.state = Signal.state es

theorem Standing.Knows.upright {es : List (Signal M)} {e : Signal M} (h : t.Knows es)
    (hallows : c.allows t e) : Upright es e := by
  cases e with
  | holds s => exact (show s = t.held from hallows).trans h.sums.held_eq
  | awaits => exact (h.state.symm.trans hallows).trans (congrArg some h.sums.held_eq)
  | _ => trivial

theorem Standing.Knows.step {es : List (Signal M)} {e : Signal M} (h : t.Knows es)
    (hnew : e.connects = false) : (t.step e).Knows (es ++ [e]) where
  sums := by
    cases e with
    | connect => cases hnew
    | line l ok =>
      have hlines : Signal.lines (es ++ [.line l ok]) = Signal.lines es ++ [(l, ok)] :=
        Signal.lines_append _ _
      exact hlines ▸ h.sums.after l ok
    | holds s =>
      rw [Signal.lines_quiet rfl]
      exact ⟨h.sums.registered, h.sums.told, h.sums.lossless, h.sums.open⟩
    | _ =>
      rw [Signal.lines_quiet rfl]
      exact h.sums
  state := by
    rw [Signal.state_concat, ← h.state]
    cases e <;> first | rfl | cases hnew

/-- At every moment of an accepted log the lifecycle of the current connection is kept. -/
theorem Conduct.lifecycle_of_accepts {log : List (Signal M)}
    (h : (c.monitor M).Accepts {} log) : c.Lifecycle (Signal.current log) := by
  have both : ((c.monitor M).after {} log).Knows (Signal.current log) ∧
      c.Lifecycle (Signal.current log) := by
    apply h.induction fun log t => t.Knows (Signal.current log) ∧
      c.Lifecycle (Signal.current log)
    case start => exact ⟨⟨⟨rfl, rfl, rfl, rfl⟩, rfl⟩, everywhere_nil _, everywhere_nil _⟩
    case next =>
      rintro q t e ⟨knows, lifecycle⟩ hallows
      cases hnew : e.connects with
      | true =>
        cases e with
        | connect =>
          rw [Signal.current_connect]
          exact ⟨⟨⟨rfl, rfl, rfl, rfl⟩, rfl⟩, everywhere_nil _, everywhere_nil _⟩
        | _ => cases hnew
      | false =>
        rw [Signal.current_concat hnew]
        refine ⟨knows.step hnew, ?_⟩
        have upright := knows.upright hallows
        cases hline : Signal.sent e with
        | none => exact lifecycle.concat hline upright
        | some x =>
          cases e with
          | line l ok =>
            have hlines : Signal.lines (Signal.current q ++ [.line l ok]) =
                Signal.lines (Signal.current q) ++ [(l, ok)] := Signal.lines_append _ _
            refine ⟨?_, (everywhere_concat _ _ _).mpr ⟨lifecycle.states, trivial⟩⟩
            rw [hlines]
            exact (everywhere_concat _ _ _).mpr
              ⟨lifecycle.lines, knows.sums.admits_iff.mp hallows⟩
          | _ => cases hline
  exact both.2

theorem Conduct.Lifecycle.path {es : List (Signal M)} (h : c.Lifecycle es) :
    Everywhere (fun before s => s ∈ c.next before.getLast?) [] (Line.told (Signal.lines es)) := by
  have hlines := h.lines
  generalize Signal.lines es = ls at hlines ⊢
  induction ls using List.reverseRecOn with
  | nil => exact everywhere_nil _
  | append_singleton ls x ih =>
    obtain ⟨hls, hx⟩ := (everywhere_concat _ _ _).mp hlines
    obtain ⟨l, ok⟩ := x
    rw [Line.told_concat]
    cases hupdate : l.isUpdate with
    | false =>
      rw [Line.tells_of_not_update hupdate, Option.toList_none, List.append_nil]
      exact ih hls
    | true =>
      obtain ⟨s, hs, hstate⟩ := hx.update hupdate
      rw [Line.tells_eq hupdate hstate]
      cases ok with
      | false =>
        rw [if_neg Bool.false_ne_true, Option.toList_none, List.append_nil]
        exact ih hls
      | true =>
        rw [if_pos rfl, Option.toList_some, everywhere_concat]
        exact ⟨ih hls, hs⟩

end Lifecycle

def rounds (n : Nat) : List Reported := (List.replicate n [.configured, .running]).flatten

def Conduct.opening (c : Conduct) : List Reported := if c.opens then [.initializing, .ready] else []

theorem rounds_succ (n : Nat) : rounds (n + 1) = rounds n ++ [.configured, .running] := by
  simp [rounds, List.replicate_succ', List.flatten_append]

/-- Where the states told so far leave a component that tells CONFIGURED once before RUNNING. -/
inductive Conduct.Told (c : Conduct) : List Reported → Prop
  | nothing : c.Told []
  | initializing : c.opens = true → c.Told [.initializing]
  | settled (n : Nat) : c.Told (c.opening ++ rounds n)
  | configured (n : Nat) : c.Told (c.opening ++ rounds n ++ [.configured])

theorem Conduct.Told.next {c : Conduct} (hrepeats : c.repeats = false) {ss : List Reported}
    (h : c.Told ss) {s : Reported} (hs : s ∈ c.next ss.getLast?) : c.Told (ss ++ [s]) := by
  have last : ∀ n, (c.opening ++ rounds n).getLast? =
      if n = 0 then (if c.opens then some .ready else none) else some .running := by
    intro n
    cases n with
    | zero =>
      cases hopens : c.opens <;> simp [Conduct.opening, rounds, hopens]
    | succ n => simp [rounds_succ]
  cases h with
  | nothing =>
    cases hopens : c.opens with
    | true =>
      obtain rfl : s = .initializing := by simpa [Conduct.next, hopens] using hs
      exact .initializing hopens
    | false =>
      obtain rfl : s = .configured := by simpa [Conduct.next, hopens] using hs
      simpa [Conduct.opening, rounds, hopens] using Conduct.Told.configured (c := c) 0
  | initializing hopens =>
    obtain rfl : s = .ready := by simpa [Conduct.next] using hs
    simpa [Conduct.opening, rounds, hopens] using Conduct.Told.settled (c := c) 0
  | settled n =>
    rw [last] at hs
    have hconfigured : s = .configured := by
      split at hs
      · split at hs <;> simpa [Conduct.next, *] using hs
      · simpa [Conduct.next] using hs
    subst hconfigured
    exact .configured n
  | configured n =>
    have hlast : (c.opening ++ rounds n ++ [Reported.configured]).getLast? = some .configured := by
      simp
    rw [hlast] at hs
    obtain rfl : s = .running := by simpa [Conduct.next, hrepeats] using hs
    have hrounds := Conduct.Told.settled (c := c) (n + 1)
    rw [rounds_succ] at hrounds
    simpa using hrounds

theorem Conduct.Lifecycle.rounds {M : Type} {c : Conduct} (hrepeats : c.repeats = false)
    {es : List (Signal M)} (h : c.Lifecycle es) :
    ∃ n, Line.told (Signal.lines es) <+: c.opening ++ Protocol.rounds n := by
  have reached : ∀ ss : List Reported,
      Everywhere (fun before s => s ∈ c.next before.getLast?) [] ss → c.Told ss := by
    intro ss hss
    induction ss using List.reverseRecOn with
    | nil => exact .nothing
    | append_singleton ss s ih =>
      obtain ⟨hbefore, hs⟩ := (everywhere_concat _ _ _).mp hss
      exact (ih hbefore).next hrepeats hs
  have ends := reached _ h.path
  generalize Line.told (Signal.lines es) = ss at ends
  cases ends with
  | nothing => exact ⟨0, List.nil_prefix⟩
  | initializing hopens => exact ⟨0, ⟨[.ready], by simp [Conduct.opening, hopens, Protocol.rounds]⟩⟩
  | settled n => exact ⟨n, List.prefix_refl _⟩
  | configured n => exact ⟨n + 1, ⟨[.running], by simp [rounds_succ]⟩⟩

structure Debt where
  owed : List (String × Json) := []
  lossless : Bool := true

section Replies

variable {M : Type} (owed : M → List (String × Json))

def Debt.step (d : Debt) : Signal M → Debt
  | .connect => {}
  | .asked m => { d with owed := owed m }
  | .line l ok =>
    { owed := if l.isReply then d.owed.tail else d.owed, lossless := d.lossless && ok }
  | _ => d

def Debt.allows (d : Debt) : Signal M → Prop
  | .connect => True
  | .asked _ => d.owed = []
  | .line l _ => l.isReply = true → d.owed.head? = l.reply
  | .settled => d.owed = [] ∨ d.lossless = false
  | .awaits => d.owed = []
  | .holds _ => True

def answering : Monitor Debt (Signal M) where
  step := Debt.step owed
  allows := Debt.allows

def Answers (before : List (Signal M)) : Signal M → Prop
  | .connect => True
  -- a message is taken up when the ones before it have their replies
  | .asked _ => Signal.replies before = Signal.owing owed before
  -- a reply is the next one that is owed
  | .line l _ => ∀ r, l.reply = some r →
      Signal.replies before ++ [r] <+: Signal.owing owed before
  | .settled => Signal.replies before = Signal.owing owed before ∨
      ∃ e ∈ before, e.loses = true
  -- so are they while the next message is awaited
  | .awaits => Signal.replies before = Signal.owing owed before
  | .holds _ => True

variable {owed}

/-- What is outstanding is what is owed and not replied yet. -/
structure Debt.Sums (owed : M → List (String × Json)) (es : List (Signal M)) (d : Debt) : Prop where
  owed : Signal.owing owed es = Signal.replies es ++ d.owed
  lossless : d.lossless = es.all fun e => !e.loses

theorem Debt.Sums.answers {es : List (Signal M)} {d : Debt} (h : d.Sums owed es) {e : Signal M}
    (hallows : d.allows e) : Answers owed es e := by
  cases e with
  | connect | holds _ => trivial
  | asked _ | awaits =>
    have hnone : d.owed = [] := hallows
    rw [Answers, h.owed, hnone, List.append_nil]
  | settled =>
    rcases hallows with hnone | hlost
    · left
      rw [h.owed, hnone, List.append_nil]
    · right
      rw [h.lossless, ← Bool.not_eq_true, List.all_eq_true] at hlost
      simpa using hlost
  | line l ok =>
    intro r hr
    have hreply : l.isReply = true := by
      unfold Line.reply at hr
      split at hr
      · assumption
      · cases hr
    have hhead : d.owed.head? = some r := (hallows hreply).trans hr
    obtain ⟨rest, hrest⟩ := List.head?_eq_some_iff.mp hhead
    rw [h.owed, hrest]
    exact ⟨rest, by simp⟩

theorem Debt.Sums.step {es : List (Signal M)} {d : Debt} (h : d.Sums owed es) {e : Signal M}
    (hnew : e.connects = false) (hallows : d.allows e) : (d.step owed e).Sums owed (es ++ [e]) := by
  have hlossless : ∀ b : Bool, e.loses = !b →
      (d.lossless && b) = (es ++ [e]).all fun e => !e.loses := by
    intro b hb
    rw [List.all_append, ← h.lossless]
    simp [hb]
  cases e with
  | connect => cases hnew
  | asked m =>
    refine ⟨?_, by rw [← hlossless true rfl, Bool.and_true]; rfl⟩
    have hnone : d.owed = [] := hallows
    rw [Signal.owing_append, Signal.replies_append, h.owed, hnone]
    simp [Signal.owing, Signal.replies, Signal.message, Signal.replied, Debt.step]
  | settled | holds _ | awaits =>
    refine ⟨?_, by rw [← hlossless true rfl, Bool.and_true]; rfl⟩
    rw [Signal.owing_append, Signal.replies_append, h.owed]
    exact (List.append_nil _).trans (congrArg (· ++ d.owed) (List.append_nil _).symm)
  | line l ok =>
    refine ⟨?_, hlossless ok (by cases ok <;> rfl)⟩
    rw [Signal.owing_append, Signal.replies_append, h.owed]
    cases hreply : l.isReply with
    | false =>
      simp [Signal.owing, Signal.replies, Signal.message, Signal.replied, Debt.step, Line.reply,
        hreply]
    | true =>
      have hhead : d.owed.head? = l.reply := hallows hreply
      rw [Line.reply, if_pos hreply] at hhead
      obtain ⟨rest, hrest⟩ := List.head?_eq_some_iff.mp hhead
      simp [Signal.owing, Signal.replies, Signal.message, Signal.replied, Debt.step, Line.reply,
        hreply, hrest]

/-- At every moment of an accepted log the replies of the current connection are in order. -/
theorem answers_of_accepts {log : List (Signal M)} (h : (answering owed).Accepts {} log) :
    Everywhere (Answers owed) [] (Signal.current log) := by
  have both : ((answering owed).after {} log).Sums owed (Signal.current log) ∧
      Everywhere (Answers owed) [] (Signal.current log) := by
    apply h.induction fun log d => d.Sums owed (Signal.current log) ∧
      Everywhere (Answers owed) [] (Signal.current log)
    case start => exact ⟨⟨rfl, rfl⟩, everywhere_nil _⟩
    case next =>
      rintro q d e ⟨sums, answers⟩ hallows
      cases hnew : e.connects with
      | true =>
        cases e with
        | connect =>
          rw [Signal.current_connect]
          exact ⟨⟨rfl, rfl⟩, everywhere_nil _⟩
        | _ => cases hnew
      | false =>
        rw [Signal.current_concat hnew]
        refine ⟨sums.step hnew hallows, (everywhere_concat _ _ _).mpr ⟨answers, ?_⟩⟩
        exact sums.answers hallows
  exact both.2

def Conduct.talk (c : Conduct) (owed : M → List (String × Json)) :
    Monitor (Standing × Debt) (Signal M) :=
  (c.monitor M).both (answering owed)

def enrolled : Standing × Debt := ({ registered := true }, {})

/-- A registered component whose lines have all arrived and that has stored the state told last,
with the replies that it still owes. -/
def account (told : Option Reported) (due : List (String × Json)) : Standing × Debt :=
  ({ registered := true, told := told, state := some (Reported.shown told) }, { owed := due })

def telling (old told : Option Reported) (due : List (String × Json)) : Standing × Debt :=
  ({ registered := true, told := told, state := some (Reported.shown old) }, { owed := due })

def parted (told : Option Reported) (ok : Bool) : Standing × Debt :=
  ({ registered := true, told := told, lossless := ok, «open» := false,
     state := some (Reported.shown told) }, { lossless := ok })

def Settles (p : Standing × Debt) : Prop := p.2.owed = [] ∨ p.2.lossless = false

section Talk

variable {c : Conduct} {old told : Option Reported} {due : List (String × Json)}
  {p : Standing × Debt}

theorem live_account (c : Conduct) (told : Option Reported) (due : List (String × Json)) :
    c.Live (account told due).1 :=
  ⟨rfl, rfl, fun _ => rfl⟩

theorem settles_of_lost (l : Line) : Settles ((c.talk owed).step p (.line l false)) :=
  .inr (Bool.and_false _)

theorem talk_connect : (c.talk owed).allows p .connect := ⟨trivial, trivial⟩

theorem step_connect : (c.talk owed).step p .connect = ({}, {}) := rfl

theorem settles_start : Settles ({}, {}) := .inl rfl

theorem talk_settled (h : Settles p) : (c.talk owed).allows p .settled := ⟨trivial, h⟩

theorem talk_asked (m : M) : (c.talk owed).allows (account told []) (.asked m) := ⟨trivial, rfl⟩

theorem talk_enrolled : (c.talk owed).allows enrolled (.holds (Reported.shown none)) :=
  ⟨rfl, trivial⟩

theorem talk_holds : (c.talk owed).allows (telling old told due) (.holds (Reported.shown told)) :=
  ⟨rfl, trivial⟩

theorem talk_awaits : (c.talk owed).allows (account told []) .awaits := ⟨rfl, rfl⟩

theorem talk_parted (ok : Bool) : (c.talk owed).allows (parted told ok) (.holds "SHUTDOWN") :=
  ⟨rfl, trivial⟩

theorem settles_parted (ok : Bool) :
    Settles ((c.talk owed).step (parted told ok) (.holds "SHUTDOWN")) :=
  .inl rfl

theorem talk_register (ok : Bool) : (c.talk owed).allows ({}, {}) (.line .register ok) :=
  ⟨c.admits_register, fun h => by cases h⟩

theorem talk_update {s : Reported} (hs : s ∈ c.next told) (ok : Bool) :
    (c.talk owed).allows (account told due) (.line (.update s.name) ok) :=
  ⟨(live_account c told due).update hs, fun h => by cases h⟩

theorem talk_ack (id : Json) (ok : Bool) :
    (c.talk owed).allows (account told (("ACK", id) :: due)) (.line (.ack id) ok) :=
  ⟨(live_account c told _).ack id, fun _ => rfl⟩

theorem talk_pong (id : Json) (ok : Bool) : (c.talk owed).allows
    (account told (("PONG", id) :: due)) (.line (.pong (Reported.shown told) id) ok) :=
  ⟨(live_account c told _).pong id, fun _ => rfl⟩

theorem talk_notice (ok : Bool) : (c.talk owed).allows (account told due) (.line .notice ok) :=
  ⟨(live_account c told due).notice, fun h => by cases h⟩

theorem step_register :
    (c.talk owed).step ({}, {}) (.line .register true) = enrolled := by
  refine Prod.ext ?_ rfl
  exact Standing.after_register _ _

theorem step_update (s : Reported) :
    (c.talk owed).step (account told due) (.line (.update s.name) true) =
      telling told (some s) due := by
  refine Prod.ext ?_ rfl
  exact Standing.after_update _ _ _

theorem step_enrolled : (c.talk owed).step enrolled (.holds (Reported.shown none)) =
    account none [] := rfl

theorem step_holds : (c.talk owed).step (telling old told due) (.holds (Reported.shown told)) =
    account told due := rfl

theorem step_ack (id : Json) :
    (c.talk owed).step (account told (("ACK", id) :: due)) (.line (.ack id) true) =
      account told due := by
  refine Prod.ext ?_ rfl
  exact Standing.after_ack _ _ _

theorem step_pong (state : String) (id : Json) :
    (c.talk owed).step (account told (("PONG", id) :: due)) (.line (.pong state id) true) =
      account told due := by
  refine Prod.ext ?_ rfl
  exact Standing.after_pong _ _ _ _

theorem step_notice (ok : Bool) :
    (c.talk owed).step (account told []) (.line .notice ok) = parted told ok := by
  refine Prod.ext ?_ rfl
  exact Standing.after_notice _ _

end Talk

end Replies

end AegisSdk.Protocol
