import AegisSdk.Library.Monitor
import AegisSdk.Library.Task

/-!
Tasks under watch. A state keeps a log of its events; a monitor sees of each event what a view
makes of it, or nothing. The rules say how the summary of the monitor goes on while a task adds
to the log, and what acceptance means for every moment of the log.
-/

set_option autoImplicit false
set_option relaxedAutoImplicit false

namespace AegisSdk.Library

namespace Monitor

variable {σ τ κ : Type} (m : Monitor σ κ) (n : Monitor τ κ)

def both : Monitor (σ × τ) κ where
  step s k := (m.step s.1 k, n.step s.2 k)
  allows s k := m.allows s.1 k ∧ n.allows s.2 k

theorem accepts_both (s : σ × τ) (log : List κ) :
    (m.both n).Accepts s log ↔ m.Accepts s.1 log ∧ n.Accepts s.2 log := by
  induction log generalizing s with
  | nil => simp
  | cons k log ih =>
    rw [accepts_cons, accepts_cons, accepts_cons, ih]
    exact and_and_and_comm

/-- The monitor accepts the log and has the summary `t` after it. -/
structure Takes (s : σ) (log : List κ) (t : σ) : Prop where
  accepts : m.Accepts s log
  summary : m.after s log = t

variable {m} {s t u : σ} {k : κ} {xs ys : List κ}

theorem takes_nil (s : σ) : m.Takes s [] s := ⟨trivial, rfl⟩

theorem Takes.cons (hallows : m.allows s k) (h : m.Takes (m.step s k) xs t) :
    m.Takes s (k :: xs) t :=
  ⟨⟨hallows, h.accepts⟩, h.summary⟩

theorem takes_one (hallows : m.allows s k) : m.Takes s [k] (m.step s k) :=
  (takes_nil _).cons hallows

theorem Takes.append (h : m.Takes s xs t) (h' : m.Takes t ys u) : m.Takes s (xs ++ ys) u where
  accepts := by
    rw [accepts_append, h.summary]
    exact ⟨h.accepts, h'.accepts⟩
  summary := by rw [after_append, h.summary, h'.summary]

end Monitor

structure Watch (σ δ κ μ : Type) where
  trace : σ → List δ
  /-- what the monitor sees of an event -/
  view : δ → Option κ
  monitor : Monitor μ κ
  start : μ

namespace Watch

variable {σ δ κ μ ε α : Type} (W : Watch σ δ κ μ)

def seen (s : σ) : List κ := (W.trace s).filterMap W.view

def Accepted (s : σ) : Prop := W.monitor.Accepts W.start (W.seen s)

def At (l : μ) (s : σ) : Prop := W.monitor.Takes W.start (W.seen s) l

variable {W} {l t : μ} {s s' : σ} {e : δ} {es : List δ}

theorem seen_append (h : W.trace s' = W.trace s ++ es) :
    W.seen s' = W.seen s ++ es.filterMap W.view := by
  rw [seen, h, List.filterMap_append]
  rfl

theorem At.accepted (h : W.At l s) : W.Accepted s := h.accepts

theorem At.extend (h : W.At l s) (htrace : W.trace s' = W.trace s ++ es)
    (htakes : W.monitor.Takes l (es.filterMap W.view) t) : W.At t s' := by
  rw [At, seen_append htrace]
  exact h.append htakes

theorem At.record {k : κ} (h : W.At l s) (htrace : W.trace s' = W.trace s ++ [e])
    (hview : W.view e = some k) (hallows : W.monitor.allows l k) :
    W.At (W.monitor.step l k) s' := by
  have hes : [e].filterMap W.view = [k] := by simp [hview]
  exact h.extend htrace (hes ▸ Monitor.takes_one hallows)

theorem At.skip (h : W.At l s) (htrace : W.trace s' = W.trace s ++ es)
    (hview : ∀ e ∈ es, W.view e = none) : W.At l s' := by
  have hes : es.filterMap W.view = [] := List.filterMap_eq_nil_iff.mpr hview
  exact h.extend htrace (hes ▸ Monitor.takes_nil l)

theorem At.same (h : W.At l s) (htrace : W.trace s' = W.trace s) : W.At l s' := by
  have hnil : W.trace s' = W.trace s ++ [] := by rw [htrace, List.append_nil]
  exact h.skip hnil (List.forall_mem_nil _)

theorem Accepted.at (h : W.Accepted s) : W.At (W.monitor.after W.start (W.seen s)) s := ⟨h, rfl⟩

theorem Accepted.skip (h : W.Accepted s) (htrace : W.trace s' = W.trace s ++ es)
    (hview : ∀ e ∈ es, W.view e = none) : W.Accepted s' :=
  (h.at.skip htrace hview).accepted

theorem Accepted.initial (h : W.Accepted s) {p : List δ} (hp : p <+: W.trace s) :
    W.monitor.Accepts W.start (p.filterMap W.view) := by
  obtain ⟨rest, hrest⟩ := hp
  have hseen : W.seen s = p.filterMap W.view ++ rest.filterMap W.view := by
    rw [seen, ← hrest, List.filterMap_append]
  have hs : W.monitor.Accepts W.start (W.seen s) := h
  rw [hseen] at hs
  exact hs.initial (List.prefix_append _ _)

end Watch

end AegisSdk.Library
