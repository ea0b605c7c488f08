import AegisSdk.Go.Reaction

/-!
Which messages of the daemon are served. `register` and `handleConfig` wait for an ACK
by taking the next message whatever it is, so a message is served unless it arrives at
one of these waits. `Course` is the component as a machine over the messages that still
come, with the number of waits ahead of it.
-/

set_option autoImplicit false
set_option relaxedAutoImplicit false

namespace AegisSdk.Go

open AegisSdk.Protocol AegisSdk.Library

def IsFatal (env : Envelope) : Prop := IsError env ∧ errorRecoverable env = false

def Ends (m : Message) : Prop := IsShutdown m.env ∨ IsFatal m.env

instance (env : Envelope) : Decidable (IsFatal env) := inferInstanceAs (Decidable (_ ∧ _))
instance (m : Message) : Decidable (Ends m) := inferInstanceAs (Decidable (_ ∨ _))

/-- The number of messages before the first one that ends the connection. -/
def firstEnd (ms : List Message) : Nat := ms.findIdx fun m => Ends m

def pings (ms : List Message) : List (Option String) :=
  (ms.filter fun m => IsPing m.env).map fun m => some m.env.messageId

def Event.isRecv : Event → Bool
  | .recv _ => true
  | _ => false

def Event.pong : Event → Option (Option String)
  | .send env true => if env.command = Command.pong then some env.correlationId else none
  | _ => none

def pongs (es : List Event) : List (Option String) := es.filterMap Event.pong

/-- The events before the receive number `k`, counted from 0. -/
def before : Nat → List Event → List Event
  | _, [] => []
  | 0, .recv _ :: _ => []
  | k + 1, .recv m :: es => .recv m :: before k es
  | k, e :: es => e :: before k es

def startingAt : Nat → List Event → List Event
  | _, [] => []
  | 0, .recv m :: es => .recv m :: es
  | k + 1, .recv _ :: es => startingAt k es
  | k, _ :: es => startingAt k es

/-- A SHUTDOWN is dispatched and ACKed, nothing more is received, and the result is nil. -/
def Concluded (m : Message) (es : List Event) (res : Option GoError) : Prop :=
  res = none ∧ ∃ ack tail, es = .recv m :: .dispatch m.env :: .send ack true :: tail ∧
    ack.command = Command.ack ∧ ack.correlationId = some m.env.messageId ∧
    ∀ e ∈ tail, e.isRecv = false

/-- Every PING before the first message that ends the connection has got exactly one
PONG, in order, by the time that message is received, and if it is a SHUTDOWN it is
ACKed and ends the connection. -/
structure Served (ms : List Message) (es : List Event) (res : Option GoError) : Prop where
  pongs : pongs (before (firstEnd ms) es) = pings (ms.take (firstEnd ms))
  shutdown : ∀ m rest, ms.drop (firstEnd ms) = m :: rest → IsShutdown m.env →
    Concluded m (startingAt (firstEnd ms) es) res

def Accepted (handlers : Handlers) (m : Message) : Prop :=
  IsConfigure m.env ∧ m.refusal handlers = none

instance (handlers : Handlers) (m : Message) : Decidable (m.refusal handlers = none) :=
  decidable_of_iff ((m.refusal handlers).isNone = true) Option.isNone_iff_eq_none
instance (handlers : Handlers) (m : Message) : Decidable (Accepted handlers m) :=
  inferInstanceAs (Decidable (_ ∧ _))

/-- With `n` waits for an ACK ahead, up to the first message that ends the connection no
PING and no SHUTDOWN arrives at such a wait. An accepted CONFIGURE puts two waits ahead. -/
def Attended (handlers : Handlers) : Nat → List Message → Prop
  | _, [] => True
  | 0, m :: ms => Ends m ∨ Attended handlers (if Accepted handlers m then 2 else 0) ms
  | n + 1, m :: ms =>
    ¬ IsPing m.env ∧ ¬ IsShutdown m.env ∧ (IsFatal m.env ∨ Attended handlers n ms)

structure Silent (es : List Event) : Prop where
  recv : ∀ e ∈ es, e.isRecv = false
  pong : pongs es = []

def Event.aside : Event → Bool
  | .onRunning | .state _ => true
  | _ => false

/-- The course of events while the messages `ms` still come and `n` waits for an ACK are
ahead: at a wait the next message is taken and forgotten, otherwise it is dispatched. -/
inductive Course (handlers : Handlers) :
    Nat → List Message → List Event → Option GoError → Prop
  | lost (n : Nat) {es : List Event} (err : GoError) : Silent es →
      Course handlers n [] es (some err)
  | wait {n : Nat} {m : Message} {ms : List Message} {es : List Event} {res : Option GoError}
      (line : Envelope) (st : ComponentState) : line.command ≠ Command.pong →
      Course handlers n ms es res →
      Course handlers (n + 1) (m :: ms) (.send line true :: .state st :: .recv m :: es) res
  | aside {n : Nat} {e : Event} {ms : List Message} {es : List Event} {res : Option GoError} :
      e.aside = true → Course handlers n ms es res → Course handlers n ms (e :: es) res
  | answered {m : Message} {ms : List Message} {es rest : List Event} {res : Option GoError}
      (st : ComponentState) : ¬ Ends m → (∀ e ∈ es, e.isRecv = false) →
      pongs es = pings [m] →
      Course handlers (if Accepted handlers m then 2 else 0) ms rest res →
      Course handlers 0 (m :: ms)
        (.await st none :: .recv m :: .dispatch m.env :: (es ++ rest)) res
  | fatal {m : Message} {ms : List Message} {es : List Event} {res : Option GoError}
      (st : ComponentState) : IsFatal m.env →
      Course handlers 0 (m :: ms) (.await st none :: .recv m :: es) res
  | shutdown {m : Message} {ms : List Message} {es : List Event} {res : Option GoError}
      (st : ComponentState) : IsShutdown m.env → Concluded m (.recv m :: es) res →
      Course handlers 0 (m :: ms) (.await st none :: .recv m :: es) res

theorem before_append {xs : List Event} (h : ∀ e ∈ xs, e.isRecv = false) (k : Nat)
    (es : List Event) : before k (xs ++ es) = xs ++ before k es := by
  induction xs with
  | nil => rfl
  | cons e xs ih =>
    obtain ⟨he, hxs⟩ := List.forall_mem_cons.mp h
    cases e with
    | recv m => simp [Event.isRecv] at he
    | _ => simp only [List.cons_append, before, ih hxs]

theorem startingAt_append {xs : List Event} (h : ∀ e ∈ xs, e.isRecv = false) (k : Nat)
    (es : List Event) : startingAt k (xs ++ es) = startingAt k es := by
  induction xs with
  | nil => rfl
  | cons e xs ih =>
    obtain ⟨he, hxs⟩ := List.forall_mem_cons.mp h
    cases e with
    | recv m => simp [Event.isRecv] at he
    | _ => simp only [List.cons_append, startingAt, ih hxs]

@[simp] theorem before_recv_zero (m : Message) (es : List Event) :
    before 0 (.recv m :: es) = [] := rfl

@[simp] theorem before_recv_succ (k : Nat) (m : Message) (es : List Event) :
    before (k + 1) (.recv m :: es) = .recv m :: before k es := rfl

@[simp] theorem startingAt_recv_zero (m : Message) (es : List Event) :
    startingAt 0 (.recv m :: es) = .recv m :: es := rfl

@[simp] theorem startingAt_recv_succ (k : Nat) (m : Message) (es : List Event) :
    startingAt (k + 1) (.recv m :: es) = startingAt k es := rfl

theorem Silent.before {es : List Event} (h : Silent es) (k : Nat) : Go.before k es = es := by
  have := before_append h.recv k []
  cases k <;> simpa [Go.before] using this

@[simp] theorem pongs_nil : pongs [] = [] := rfl

@[simp] theorem pings_nil : pings [] = [] := rfl

@[simp] theorem pongs_append (es es' : List Event) :
    pongs (es ++ es') = pongs es ++ pongs es' :=
  List.filterMap_append

@[simp] theorem pongs_recv (m : Message) (es : List Event) : pongs (.recv m :: es) = pongs es := rfl

@[simp] theorem pongs_await (st : ComponentState) (ctx : Option CtxErr) (es : List Event) :
    pongs (.await st ctx :: es) = pongs es := rfl

@[simp] theorem pongs_dispatch (env : Envelope) (es : List Event) :
    pongs (.dispatch env :: es) = pongs es := rfl

theorem pongs_aside {e : Event} (h : e.aside = true) (es : List Event) :
    pongs (e :: es) = pongs es := by
  cases e <;> first | rfl | cases h

theorem pongs_line {line : Envelope} (h : line.command ≠ Command.pong) (ok : Bool)
    (es : List Event) : pongs (.send line ok :: es) = pongs es := by
  cases ok <;> simp [pongs, Event.pong, h, List.filterMap_cons]

theorem pings_cons (m : Message) (ms : List Message) : pings (m :: ms) = pings [m] ++ pings ms := by
  by_cases h : IsPing m.env <;> simp [pings, h]

theorem firstEnd_cons (m : Message) (ms : List Message) :
    firstEnd (m :: ms) = if Ends m then 0 else firstEnd ms + 1 := by
  by_cases h : Ends m <;> simp [firstEnd, List.findIdx_cons, h]

section Along

variable {handlers : Handlers} {n : Nat} {ms : List Message} {es : List Event}
  {res : Option GoError}

theorem before_line (line : Envelope) (k : Nat) (es : List Event) :
    before k (.send line true :: es) = .send line true :: before k es :=
  before_append (by simp [Event.isRecv] : ∀ e ∈ [Event.send line true], e.isRecv = false) k es

theorem before_await (st : ComponentState) (k : Nat) (es : List Event) :
    before k (.await st none :: es) = .await st none :: before k es :=
  before_append (by simp [Event.isRecv] : ∀ e ∈ [Event.await st none], e.isRecv = false) k es

theorem Event.isRecv_aside {e : Event} (h : e.aside = true) : e.isRecv = false := by
  cases e <;> first | rfl | cases h

theorem before_aside {e : Event} (h : e.aside = true) (k : Nat) (es : List Event) :
    before k (e :: es) = e :: before k es :=
  before_append (List.forall_mem_singleton.mpr (Event.isRecv_aside h)) k es

theorem before_dispatched {xs : List Event} (h : ∀ e ∈ xs, e.isRecv = false) (env : Envelope)
    (k : Nat) (es : List Event) :
    before k (.dispatch env :: (xs ++ es)) = .dispatch env :: (xs ++ before k es) :=
  before_append (by simpa [Event.isRecv] using h :
    ∀ e ∈ Event.dispatch env :: xs, e.isRecv = false) k es

theorem Course.pongs_le (h : Course handlers n ms es res) (k : Nat) (hk : k ≤ firstEnd ms) :
    (pongs (before k es)).length ≤ (pings (ms.take k)).length := by
  induction h generalizing k with
  | lost n err silent => simp [silent.before, silent.pong]
  | @wait n m ms es res line st hline _ ih =>
    rw [before_line, pongs_line hline, before_aside rfl, pongs_aside rfl]
    cases k with
    | zero => simp
    | succ k =>
      rw [firstEnd_cons] at hk
      split at hk
      · omega
      have := ih k (by omega)
      rw [before_recv_succ, pongs_recv, List.take_succ_cons, pings_cons, List.length_append]
      omega
  | aside he _ ih =>
    rw [before_aside he, pongs_aside he]
    exact ih k hk
  | @answered m ms es rest res st hm hes hpongs _ ih =>
    rw [before_await, pongs_await]
    cases k with
    | zero => simp
    | succ k =>
      rw [firstEnd_cons, if_neg hm] at hk
      have := ih k (by omega)
      rw [before_recv_succ, before_dispatched hes, pongs_recv, pongs_dispatch, pongs_append,
        hpongs, List.take_succ_cons, pings_cons m (ms.take k), List.length_append,
        List.length_append]
      omega
  | fatal st hm =>
    rw [firstEnd_cons, if_pos (.inr hm)] at hk
    obtain rfl := Nat.le_zero.mp hk
    simp [before_await]
  | shutdown st hm _ =>
    rw [firstEnd_cons, if_pos (.inl hm)] at hk
    obtain rfl := Nat.le_zero.mp hk
    simp [before_await]

theorem Course.head (h : Course handlers n ms es none) (env : Envelope) (tail : List Event) :
    es ≠ .dispatch env :: tail := by
  rintro rfl
  cases h with
  | aside he => cases he

theorem Course.nil (h : Course handlers n [] es res) : Silent es ∧ ∃ err, res = some err := by
  generalize hms : ([] : List Message) = ms at h
  induction h with
  | lost n err silent => exact ⟨silent, err, rfl⟩
  | aside he _ ih =>
    obtain ⟨silent, herr⟩ := ih hms
    refine ⟨⟨List.forall_mem_cons.mpr ⟨Event.isRecv_aside he, silent.recv⟩, ?_⟩, herr⟩
    rw [pongs_aside he, silent.pong]
  | _ => cases hms

theorem attended_zero_cons (m : Message) (ms : List Message) :
    Attended handlers 0 (m :: ms) ↔
      (Ends m ∨ Attended handlers (if Accepted handlers m then 2 else 0) ms) := by
  rw [Attended]

theorem attended_succ_cons (m : Message) (ms : List Message) :
    Attended handlers (n + 1) (m :: ms) ↔
      (¬ IsPing m.env ∧ ¬ IsShutdown m.env ∧ (IsFatal m.env ∨ Attended handlers n ms)) := by
  rw [Attended]

theorem startingAt_line (line : Envelope) (k : Nat) (es : List Event) :
    startingAt k (.send line true :: es) = startingAt k es :=
  startingAt_append (by simp [Event.isRecv] : ∀ e ∈ [Event.send line true], e.isRecv = false) k es

theorem startingAt_await (st : ComponentState) (k : Nat) (es : List Event) :
    startingAt k (.await st none :: es) = startingAt k es :=
  startingAt_append (by simp [Event.isRecv] : ∀ e ∈ [Event.await st none], e.isRecv = false) k es

theorem startingAt_aside {e : Event} (h : e.aside = true) (k : Nat) (es : List Event) :
    startingAt k (e :: es) = startingAt k es :=
  startingAt_append (List.forall_mem_singleton.mpr (Event.isRecv_aside h)) k es

theorem startingAt_dispatched {xs : List Event} (h : ∀ e ∈ xs, e.isRecv = false)
    (env : Envelope) (k : Nat) (es : List Event) :
    startingAt k (.dispatch env :: (xs ++ es)) = startingAt k es :=
  startingAt_append (by simpa [Event.isRecv] using h :
    ∀ e ∈ Event.dispatch env :: xs, e.isRecv = false) k es

theorem isFatal_not {env : Envelope} (h : IsFatal env) : ¬ IsPing env ∧ ¬ IsShutdown env := by
  have ht : env.type = MessageType.error := h.1
  simp [IsPing, IsShutdown, ht, MessageType.error, MessageType.heartbeat, MessageType.lifecycle]

theorem isPing_not {m : Message} (h : IsPing m.env) : ¬ Ends m := by
  have ht : m.env.type = MessageType.heartbeat := h.1
  simp [Ends, IsFatal, IsError, IsShutdown, ht, MessageType.error, MessageType.heartbeat,
    MessageType.lifecycle]

theorem isConfigure_not {m : Message} (h : IsConfigure m.env) : ¬ IsPing m.env ∧ ¬ Ends m := by
  have ht : m.env.type = MessageType.config := h.1
  simp [Ends, IsFatal, IsError, IsShutdown, IsPing, ht, MessageType.error,
    MessageType.heartbeat, MessageType.lifecycle, MessageType.config]

theorem isError_not {env : Envelope} (h : IsError env) :
    ¬ IsPing env ∧ ¬ IsConfigure env ∧ ¬ IsShutdown env := by
  have ht : env.type = MessageType.error := h
  simp [IsConfigure, IsShutdown, IsPing, ht, MessageType.error, MessageType.heartbeat,
    MessageType.lifecycle, MessageType.config]

theorem served_wait {m : Message} {line : Envelope} (st : ComponentState)
    (hline : line.command ≠ Command.pong) (h : Course handlers n ms es res) :
    Served (m :: ms) (.send line true :: .state st :: .recv m :: es) res ↔
      (¬ IsPing m.env ∧ ¬ IsShutdown m.env ∧ (IsFatal m.env ∨ Served ms es res)) := by
  have first := firstEnd_cons m ms
  by_cases hm : Ends m
  · rw [if_pos hm] at first
    rcases hm with hs | hf
    · -- the dispatch of the SHUTDOWN would have to come next
      refine iff_of_false (fun served => ?_) (by simp [hs])
      obtain ⟨rfl, ack, tail, heq, _⟩ := served.shutdown m ms (by simp [first]) hs
      rw [first, startingAt_line, startingAt_aside rfl, startingAt_recv_zero] at heq
      exact h.head m.env (.send ack true :: tail) (List.cons.inj heq).2
    · obtain ⟨np, ns⟩ := isFatal_not hf
      refine iff_of_true ⟨?_, ?_⟩ ⟨np, ns, .inl hf⟩
      · have haside : (Event.state st).aside = true := rfl
        simp [first, before_line, pongs_line hline, before_aside haside, pongs_aside haside]
      · intro m' rest hdrop hs
        rw [first, List.drop_zero] at hdrop
        obtain ⟨rfl, rfl⟩ := List.cons.inj hdrop
        exact absurd hs ns
  · rw [if_neg hm] at first
    have ns : ¬ IsShutdown m.env := fun hs => hm (.inl hs)
    have nf : ¬ IsFatal m.env := fun hf => hm (.inr hf)
    have events :
        pongs (before (firstEnd (m :: ms)) (.send line true :: .state st :: .recv m :: es)) =
        pongs (before (firstEnd ms) es) := by
      rw [first, before_line, pongs_line hline, before_aside rfl, pongs_aside rfl,
        before_recv_succ, pongs_recv]
    have called : pings ((m :: ms).take (firstEnd (m :: ms))) =
        pings [m] ++ pings (ms.take (firstEnd ms)) := by
      rw [first, List.take_succ_cons, pings_cons]
    by_cases hp : IsPing m.env
    · -- one PONG too few, whatever follows
      refine iff_of_false (fun served => ?_) (by simp [hp])
      have few := h.pongs_le (firstEnd ms) le_rfl
      have := congrArg List.length served.pongs
      rw [events, called, List.length_append] at this
      have one : (pings [m]).length = 1 := by simp [pings, hp]
      omega
    · have none : pings [m] = [] := by simp [pings, hp]
      rw [none, List.nil_append] at called
      have later : startingAt (firstEnd (m :: ms)) (.send line true :: .state st :: .recv m :: es) =
          startingAt (firstEnd ms) es := by
        rw [first, startingAt_line, startingAt_aside rfl, startingAt_recv_succ]
      constructor
      · rintro ⟨hpongs, hshutdown⟩
        rw [events, called] at hpongs
        rw [later] at hshutdown
        simp only [first, List.drop_succ_cons] at hshutdown
        exact ⟨hp, ns, .inr ⟨hpongs, hshutdown⟩⟩
      · rintro ⟨_, _, hf | ⟨hpongs, hshutdown⟩⟩
        · exact absurd hf nf
        · refine ⟨by rw [events, called, hpongs], ?_⟩
          rw [later]
          simpa only [first, List.drop_succ_cons] using hshutdown

theorem served_answered {m : Message} {xs : List Event} (st : ComponentState) (hm : ¬ Ends m)
    (hxs : ∀ e ∈ xs, e.isRecv = false) (hpongs : pongs xs = pings [m]) :
    Served (m :: ms) (.await st none :: .recv m :: .dispatch m.env :: (xs ++ es)) res ↔
      Served ms es res := by
  have first : firstEnd (m :: ms) = firstEnd ms + 1 := by rw [firstEnd_cons, if_neg hm]
  have events : pongs (before (firstEnd (m :: ms))
      (.await st none :: .recv m :: .dispatch m.env :: (xs ++ es))) =
        pings [m] ++ pongs (before (firstEnd ms) es) := by
    rw [first, before_await, pongs_await, before_recv_succ, pongs_recv,
      before_dispatched hxs, pongs_dispatch, pongs_append, hpongs]
  have called : pings ((m :: ms).take (firstEnd (m :: ms))) =
      pings [m] ++ pings (ms.take (firstEnd ms)) := by
    rw [first, List.take_succ_cons, pings_cons]
  have later : startingAt (firstEnd (m :: ms))
      (.await st none :: .recv m :: .dispatch m.env :: (xs ++ es)) =
        startingAt (firstEnd ms) es := by
    rw [first, startingAt_await, startingAt_recv_succ, startingAt_dispatched hxs]
  constructor
  · rintro ⟨h, hshutdown⟩
    rw [events, called] at h
    rw [later] at hshutdown
    simp only [first, List.drop_succ_cons] at hshutdown
    exact ⟨List.append_cancel_left h, hshutdown⟩
  · rintro ⟨h, hshutdown⟩
    refine ⟨by rw [events, called, h], ?_⟩
    rw [later]
    simpa only [first, List.drop_succ_cons] using hshutdown

/-- Along a course the messages are served exactly if none of them arrives at a wait that
must not. -/
theorem Course.served_iff (h : Course handlers n ms es res) :
    Served ms es res ↔ Attended handlers n ms := by
  induction h with
  | @lost n es err silent =>
    refine iff_of_true ⟨?_, by simp⟩ ?_
    · simp [firstEnd, silent.before, silent.pong, pings]
    · cases n <;> simp [Attended]
  | wait line st hline course ih => rw [served_wait st hline course, ih, attended_succ_cons]
  | aside he course ih =>
    rw [← ih]
    constructor
    · rintro ⟨hpongs, hshutdown⟩
      rw [before_aside he, pongs_aside he] at hpongs
      rw [startingAt_aside he] at hshutdown
      exact ⟨hpongs, hshutdown⟩
    · rintro ⟨hpongs, hshutdown⟩
      exact ⟨by rwa [before_aside he, pongs_aside he], by rwa [startingAt_aside he]⟩
  | @answered m ms es rest res st hm hes hpongs _ ih =>
    rw [served_answered st hm hes hpongs, ih, attended_zero_cons]
    simp [hm]
  | @fatal m ms es res st hm =>
    have first : firstEnd (m :: ms) = 0 := by rw [firstEnd_cons, if_pos (.inr hm)]
    refine iff_of_true ⟨?_, ?_⟩ ((attended_zero_cons m ms).mpr (.inl (.inr hm)))
    · simp [first, before_await]
    · intro m' rest hdrop hs
      rw [first, List.drop_zero] at hdrop
      obtain ⟨rfl, rfl⟩ := List.cons.inj hdrop
      obtain ⟨⟨ht, _⟩, ht', _⟩ := And.intro hm hs
      rw [IsError, ht'] at ht
      simp [MessageType.lifecycle, MessageType.error] at ht
  | @shutdown m ms es res st hm concluded =>
    have first : firstEnd (m :: ms) = 0 := by rw [firstEnd_cons, if_pos (.inl hm)]
    refine iff_of_true ⟨?_, ?_⟩ ((attended_zero_cons m ms).mpr (.inl (.inl hm)))
    · simp [first, before_await]
    · intro m' rest hdrop hs
      rw [first, List.drop_zero] at hdrop
      obtain ⟨rfl, rfl⟩ := List.cons.inj hdrop
      rw [first, startingAt_await]
      exact concluded

end Along

/-- The daemon's message as a delivery, the context not being done. -/
def incoming (m : Message) : Incoming := { delivery := .message m }

/-- The messages `ms` are still to come, and every write succeeds. -/
structure Expecting (s : Supply) (ms : List Message) : Prop where
  inbox : s.inbox = ms.map incoming
  writes : ∀ b ∈ s.writes, b = true

theorem Expecting.send {s : Supply} {ms : List Message} (h : Expecting s ms) {env : Envelope}
    {ok : Bool} (ha : supply.allows s (.send env ok)) :
    ok = true ∧ Expecting (supply.step s (.send env ok)) ms := by
  refine ⟨?_, h.inbox, fun b hb => h.writes b (List.mem_of_mem_tail hb)⟩
  obtain rfl : ok = s.writes.headD true := ha
  cases hw : s.writes with
  | nil => rfl
  | cons b bs => exact h.writes b (by simp [hw])

theorem Expecting.recv {s : Supply} {ms : List Message} (h : Expecting s ms) {m : Message}
    (ha : supply.allows s (.recv m)) :
    ∃ ms', ms = m :: ms' ∧ Expecting (supply.step s (.recv m)) ms' := by
  have head : s.inbox.head?.map Incoming.delivery = some (.message m) := ha
  cases ms with
  | nil => simp [h.inbox] at head
  | cons m' ms' =>
    obtain rfl : m' = m := by simpa [h.inbox, incoming] using head
    exact ⟨ms', rfl, by simp [supply, Supply.step, h.inbox], h.writes⟩

theorem Expecting.recvFailed {s : Supply} {ms : List Message} (h : Expecting s ms)
    {text : String} (ha : supply.allows s (.recvFailed text)) :
    ms = [] ∧ Expecting (supply.step s (.recvFailed text)) [] := by
  have head : s.inbox.head?.map Incoming.delivery = some (.failure text) ∨
    s.inbox = [] ∧ text = "EOF" := ha
  cases ms with
  | nil => exact ⟨rfl, by simp [supply, Supply.step, h.inbox], h.writes⟩
  | cons m ms => simp [h.inbox, incoming] at head

theorem Expecting.await {s : Supply} {ms : List Message} (h : Expecting s ms)
    {st : ComponentState} {ctx : Option CtxErr} (ha : supply.allows s (.await st ctx)) :
    ctx = none := by
  obtain rfl : ctx = s.inbox.head?.bind Incoming.ctx := ha
  cases ms <;> simp [h.inbox, incoming]

theorem Expecting.state {s : Supply} {ms : List Message} (h : Expecting s ms)
    (st : ComponentState) : Expecting (supply.step s (.state st)) ms := h

theorem after_opt {s : Supply} {isSet : Bool} {e : Event} (he : e.quiet = true) :
    supply.after s (opt isSet e) = s := by
  cases isSet with
  | false => rfl
  | true => cases e <;> first | rfl | simp [Event.quiet] at he

theorem accepts_opt {s : Supply} {isSet : Bool} {e : Event} (he : e.quiet = true)
    {es : List Event} (ha : supply.Accepts s (opt isSet e ++ es)) : supply.Accepts s es := by
  rw [supply.accepts_append, after_opt he] at ha
  exact ha.2

section Follow

variable {rt : Runtime} {cfg : Config} {handlers : Handlers} {s : Supply} {ms : List Message}
  {res : Option GoError}

theorem Advance.course {c c' : Component} {st : ComponentState} {es rest : List Event}
    {b : Bool} (h : Advance cfg c st es c' b) (hs : Expecting s ms)
    (ha : supply.Accepts s (es ++ rest)) (n : Nat)
    (follow : ∀ {s' ms'}, (b = false → ms' = []) → Expecting s' ms' → supply.Accepts s' rest →
      Course handlers (if b then n else 0) ms' rest res) :
    Course handlers (n + 1) ms (es ++ rest) res := by
  have line : ∀ stamp, (stateLine cfg stamp c st).command ≠ Command.pong := fun _ => by
    simp [stateLine, newEnvelope, Command.stateUpdate, Command.pong]
  cases h with
  | lost stamp =>
    obtain ⟨hok, _⟩ := hs.send ha.1
    cases hok
  | unanswered stamp text =>
    obtain ⟨hsend, -, hrecv, hrest⟩ := ha
    obtain ⟨rfl, hs'⟩ := ((hs.send hsend).2.state st).recvFailed hrecv
    obtain ⟨silent, err, rfl⟩ := (follow (fun _ => rfl) hs' hrest).nil
    refine .lost _ _ ⟨?_, ?_⟩
    · simpa [Event.isRecv] using silent.recv
    · rw [List.cons_append, pongs_line (line stamp)]
      exact silent.pong
  | done stamp m =>
    obtain ⟨hsend, -, hrecv, hrest⟩ := ha
    obtain ⟨ms', rfl, hs'⟩ := ((hs.send hsend).2.state st).recv hrecv
    exact .wait _ st (line stamp) (follow nofun hs' hrest)

theorem Settling.course {c c' : Component} {es rest : List Event}
    (h : Settling cfg handlers c es c') (hs : Expecting s ms)
    (ha : supply.Accepts s (es ++ rest))
    (follow : ∀ {s' ms'}, Expecting s' ms' → supply.Accepts s' rest →
      Course handlers 0 ms' rest res) :
    Course handlers 2 ms (es ++ rest) res := by
  cases h with
  | unconfigured a => exact a.course hs ha 1 fun _ hs' ha' => follow hs' ha'
  | @stopped es es' _ _ a b =>
    rw [List.append_assoc] at ha ⊢
    exact a.course hs ha 1 fun _ hs' ha' =>
      b.course hs' ha' 0 fun _ hs' ha' => follow hs' ha'
  | @running es es' _ _ a b =>
    rw [List.append_assoc, List.append_assoc] at ha ⊢
    refine a.course hs ha 1 fun _ hs' ha' => b.course hs' ha' 0 fun _ hs' ha' => ?_
    have course := follow hs' (accepts_opt rfl ha')
    cases hr : handlers.onRunning with
    | false => exact course
    | true => exact .aside rfl course

theorem opt_isRecv {isSet : Bool} {e : Event} (h : e.isRecv = false) :
    ∀ e' ∈ opt isSet e, e'.isRecv = false := by
  cases isSet <;> simp [opt, h]

theorem pongs_opt (isSet : Bool) {e : Event} (h : e.pong = none) : pongs (opt isSet e) = [] := by
  cases isSet <;> simp [opt, pongs, h]

theorem pings_singleton {m : Message} (h : ¬ IsPing m.env) : pings [m] = [] := by
  simp [pings, h]

theorem Reaction.course {c c' : Component} {m : Message} {es rest : List Event}
    (h : Reaction cfg handlers m c es c' .continue) (hs : Expecting s ms)
    (ha : supply.Accepts s (es ++ rest)) (st : ComponentState)
    (follow : ∀ {s' ms'}, Expecting s' ms' → supply.Accepts s' rest →
      Course handlers 0 ms' rest res) :
    Course handlers 0 (m :: ms) (.await st none :: .recv m :: .dispatch m.env :: (es ++ rest))
      res := by
  cases h with
  | ignored hm =>
    have idle : ¬ Accepted handlers m := fun h => hm.2.1 h.1
    refine .answered st (fun h => h.elim hm.2.2.1 fun h => hm.2.2.2 h.1) (by simp)
      (pings_singleton hm.1).symm ?_
    rw [if_neg idle]
    exact follow hs ha
  | pong stamp uptime ok hm =>
    have idle : ¬ Accepted handlers m := fun h => by
      have := hm.1.symm.trans h.1.1
      simp [MessageType.heartbeat, MessageType.config] at this
    rw [List.append_assoc] at ha
    obtain ⟨hsend, hrest⟩ := accepts_opt rfl ha
    obtain ⟨rfl, hs'⟩ := hs.send hsend
    refine .answered st (isPing_not hm) ?_ ?_ ?_
    · exact List.forall_mem_append.mpr ⟨opt_isRecv rfl, by simp [Event.isRecv]⟩
    · rw [pongs_append, pongs_opt _ rfl]
      simp [pongs, Event.pong, pings, hm, pongLine, newEnvelope, Envelope.withCorrelation]
    · rw [if_neg idle]
      exact follow hs' hrest
  | refused stamp err ok hm hr =>
    obtain ⟨np, ne⟩ := isConfigure_not hm
    have idle : ¬ Accepted handlers m := fun h => by
      have := hr.symm.trans h.2
      cases this
    rw [List.append_assoc] at ha
    obtain ⟨hsend, hrest⟩ := accepts_opt rfl ha
    obtain ⟨rfl, hs'⟩ := hs.send hsend
    refine .answered st ne ?_ ?_ ?_
    · exact List.forall_mem_append.mpr ⟨opt_isRecv rfl, by simp [Event.isRecv]⟩
    · rw [pongs_append, pongs_opt _ rfl, pings_singleton np]
      simp [pongs, Event.pong, errorLine, newEnvelope, Command.runtimeError, Command.pong]
    · rw [if_neg idle]
      exact follow hs' hrest
  | @accepted stamp ok es c' hm hr settling =>
    obtain ⟨np, ne⟩ := isConfigure_not hm
    have split : opt handlers.onConfigure (.onConfigure (configureSocket m.env)
        (configureTopics m.env)) ++ .send (ackLine cfg stamp c m.env.messageId) ok :: es ++ rest =
        (opt handlers.onConfigure (.onConfigure (configureSocket m.env)
          (configureTopics m.env)) ++ [.send (ackLine cfg stamp c m.env.messageId) ok]) ++
          (es ++ rest) := by simp
    rw [split] at ha ⊢
    rw [List.append_assoc] at ha
    obtain ⟨hsend, hrest⟩ := accepts_opt rfl ha
    obtain ⟨rfl, hs'⟩ := hs.send hsend
    refine .answered st ne ?_ ?_ ?_
    · exact List.forall_mem_append.mpr ⟨opt_isRecv rfl, by simp [Event.isRecv]⟩
    · rw [pongs_append, pongs_opt _ rfl, pings_singleton np]
      simp [pongs, Event.pong, ackLine, newEnvelope, Envelope.withCorrelation, Command.ack,
        Command.pong]
    · rw [if_pos (show Accepted handlers m from ⟨hm, hr⟩)]
      exact settling.course hs' hrest follow
  | recoverable code message hm hr =>
    obtain ⟨np, nc, ns⟩ := isError_not hm
    have idle : ¬ Accepted handlers m := fun h => nc h.1
    refine .answered st ?_ (opt_isRecv rfl) ?_ ?_
    · rintro (h | h)
      · exact ns h
      · have := hr.symm.trans h.2
        cases this
    · rw [pongs_opt _ rfl, pings_singleton np]
    · rw [if_neg idle]
      exact follow hs (accepts_opt rfl ha)

theorem Session.course {c c' : Component} {es tail : List Event} {v : Verdict}
    (h : Session cfg handlers c es c' v) (hv : v ≠ .continue) (htail : Silent tail)
    (hs : Expecting s ms) (ha : supply.Accepts s (es ++ tail)) :
    Course handlers 0 ms (es ++ tail) v.err := by
  induction h generalizing s ms with
  | cancelled c err stamp ok => cases hs.await ha.1
  | lost c text err plain =>
    obtain ⟨_, hrecv, _⟩ := ha
    obtain ⟨rfl, _⟩ := hs.recvFailed hrecv
    exact .lost _ _ ⟨by simpa [Event.isRecv] using htail.recv, htail.pong⟩
  | @last c c' m es v reaction _ =>
    obtain ⟨_, hrecv, hdispatch, hrest⟩ := ha
    obtain ⟨ms', rfl, hs'⟩ := hs.recv hrecv
    cases reaction with
    | shutdown a n ok ok' hm =>
      obtain ⟨hsend, _⟩ := hrest
      obtain ⟨rfl, _⟩ := hs'.send hsend
      refine .shutdown _ hm ⟨rfl, _, _, rfl, rfl, rfl, ?_⟩
      exact List.forall_mem_append.mpr ⟨List.forall_mem_append.mpr
        ⟨opt_isRecv rfl, by simp [Event.isRecv]⟩, htail.recv⟩
    | fatal code message err hm hr plain => exact .fatal _ ⟨hm, hr⟩
    | _ => exact absurd rfl hv
  | @next c c' c'' m es rest v reaction _ ih =>
    obtain ⟨_, hrecv, hdispatch, hrest⟩ := ha
    obtain ⟨ms', rfl, hs'⟩ := hs.recv hrecv
    have hrest : supply.Accepts _ ((es ++ rest) ++ tail) := hrest
    rw [List.append_assoc] at hrest
    have course := reaction.course hs' hrest c.state fun hs ha => ih hv hs ha
    rwa [← List.append_assoc] at course

/-- After REGISTERED the course has two waits ahead, those for the ACKs of INITIALIZING
and READY. -/
theorem Attempt.course {c c' : Component} {es : List Event}
    (h : Attempt rt cfg handlers c es c' res) {link : Link} {m : Message}
    (hdial : link.dial = true) (hm : m.env.command = Command.registered)
    (hinbox : link.inbox = (m :: ms).map incoming)
    (hwrites : ∀ b ∈ link.writes, b = true) {w : World}
    (ha : supply.Accepts (w.supply [link]) es) :
    ∃ line es', es = .dial cfg.socketPath true :: .send line true :: .recv m :: es' ∧
      Course handlers 2 ms es' res := by
  have closing : Silent [.close] := ⟨by simp [Event.isRecv], rfl⟩
  have hs : Expecting (supply.step (w.supply [link]) (.dial cfg.socketPath true)) (m :: ms) :=
    ⟨hinbox, hwrites⟩
  cases h with
  | refused => exact absurd (hdial.symm.trans (Option.some.inj ha.1)) nofun
  | @unready es c' err handshake =>
    obtain ⟨_, ha⟩ := ha
    cases handshake with
    | registerLost r err _ => cases (hs.send ha.1).1
    | unanswered r text err _ => cases ((hs.send ha.1).2.recvFailed ha.2.1).1
    | rejected r m' msg hne =>
      obtain ⟨_, heq, _⟩ := (hs.send ha.1).2.recv ha.2.1
      obtain ⟨rfl, rfl⟩ := List.cons.inj heq
      exact absurd hm hne
    | @notInitializing r m' es c' err _ _ a =>
      obtain ⟨hsend, hrecv, -, hrest⟩ := ha
      obtain ⟨_, heq, hs'⟩ := (hs.send hsend).2.recv hrecv
      obtain ⟨rfl, rfl⟩ := List.cons.inj heq
      refine ⟨_, _, rfl, .aside rfl (a.course (hs'.state _) hrest 1 fun hnil _ _ => ?_)⟩
      rw [hnil rfl]
      exact .lost _ _ closing
    | @notReady r m' es es' _ _ err _ _ a b =>
      obtain ⟨hsend, hrecv, -, hrest⟩ := ha
      obtain ⟨_, heq, hs'⟩ := (hs.send hsend).2.recv hrecv
      obtain ⟨rfl, rfl⟩ := List.cons.inj heq
      have hrest : supply.Accepts _ (es ++ es' ++ [.close]) := hrest
      rw [List.append_assoc] at hrest
      refine ⟨registerLine cfg r c, .state State.registered :: (es ++ (es' ++ [.close])), by simp,
        .aside rfl (a.course (hs'.state _) hrest 1 fun _ hs' ha' =>
          b.course hs' ha' 0 fun hnil _ _ => ?_)⟩
      rw [hnil rfl]
      exact .lost _ _ closing
  | @session _ es' _ _ v handshake session hv =>
    obtain ⟨_, ha⟩ := ha
    cases handshake with
    | @ready r m' es₁ es₂ _ _ _ a b =>
      obtain ⟨hsend, hrecv, -, hrest⟩ := ha
      obtain ⟨_, heq, hs'⟩ := (hs.send hsend).2.recv hrecv
      obtain ⟨rfl, rfl⟩ := List.cons.inj heq
      have hrest : supply.Accepts _ (es₁ ++ es₂ ++ es' ++ [.close]) := hrest
      rw [List.append_assoc, List.append_assoc] at hrest
      exact ⟨registerLine cfg r c,
        .state State.registered :: (es₁ ++ (es₂ ++ (es' ++ [.close]))), by simp,
        .aside rfl (a.course (hs'.state _) hrest 1 fun _ hs' ha' =>
          b.course hs' ha' 0 fun _ hs' ha' => session.course hv closing hs' ha')⟩

end Follow

section Main

variable (rt : Runtime) (cfg : Config) (handlers : Handlers)

/-- The trace and the error of one turn that starts with the component `c`. -/
def turn (link : Link) (c : Component) : List Event × Option GoError :=
  match runOnce rt cfg handlers link { component := c } with
  | .ok _ w => (w.trace, none)
  | .error err w => (w.trace, some err)

/-- On a connection the daemon sends REGISTERED and then `ms`; the writes end as
listed. -/
def conversation (registered : Message) (ms : List Message) (writes : List Bool) : Link :=
  { inbox := (registered :: ms).map incoming, writes := writes }

def ServesAll (registered : Message) (ms : List Message) (writes : List Bool)
    (c : Component) : Prop :=
  let t := turn rt cfg handlers (conversation registered ms writes) c
  Served ms (startingAt 0 t.1).tail t.2

/-- While writes succeed and the context is not cancelled, all messages are served
exactly if no PING and no SHUTDOWN arrives at a wait for an ACK. -/
theorem servesAll_iff (registered : Message) (ms : List Message) (writes : List Bool)
    (c : Component) (hreg : registered.env.command = Command.registered)
    (hwrites : ∀ b ∈ writes, b = true) :
    ServesAll rt cfg handlers registered ms writes c ↔ Attended handlers 2 ms := by
  obtain ⟨es, res, w', h, attempt, trace, supplied, _⟩ :=
    runOnce_attempt rt cfg handlers (conversation registered ms writes) { component := c }
  obtain ⟨line, es', rfl, course⟩ := attempt.course rfl hreg rfl hwrites (supplied [])
  have result : turn rt cfg handlers (conversation registered ms writes) c = (w'.trace, res) := by
    rw [turn, h]
    cases res <;> rfl
  rw [ServesAll, result, trace]
  exact course.served_iff

end Main

theorem servesAll_iff_sample : ServesAll Sample.runtime Sample.config {} Sample.registered
    [Sample.ack, Sample.ack, Sample.ping, Sample.shutdown] [] {} := by
  refine (servesAll_iff Sample.runtime Sample.config {} Sample.registered _ [] {} rfl
    (by simp)).mpr ?_
  have ack : ¬ IsPing Sample.ack.env ∧ ¬ IsShutdown Sample.ack.env := by decide +kernel
  have ping : ¬ Accepted {} Sample.ping := by decide +kernel
  have shutdown : Ends Sample.shutdown := by decide +kernel
  simp [Attended, ack, ping, shutdown]

/-- A PING sent between REGISTERED and the ACK of INITIALIZING gets no PONG. -/
theorem ping_swallowed : ¬ ∀ (rt : Runtime) (cfg : Config) (handlers : Handlers)
    (registered : Message) (ms : List Message) (writes : List Bool) (c : Component),
    registered.env.command = Command.registered → (∀ b ∈ writes, b = true) →
      ServesAll rt cfg handlers registered ms writes c := by
  intro h
  have served := (h Sample.runtime Sample.config {} Sample.registered
    [Sample.ping, Sample.ack, Sample.ack] [] {} rfl (by simp)).pongs
  revert served
  decide +kernel

end AegisSdk.Go
