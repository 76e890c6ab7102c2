import Mathlib.Data.List.Infix
import Mathlib.Data.Nat.Notation

/-!
# Sliding windows with a latch

A queue of timed events from whose front the old ones are popped whenever a new one comes in, and
a latch that trips on what is in the queue and stays tripped. When the times never go back, the
queue is the window: the events of the whole history that are recent enough.

* **`slide`**, **`foldl_slide`** — the queue, and what it holds after a history.
* **`evictCounted`**, **`evictCounted_spec`** — the eviction loop that keeps two counters along.
* **`Latched.record`**, **`Latched.tripped_iff`** — the latch, and the histories that trip it.
-/

namespace SlidingWindow

variable {α : Type*} (time : α → ℕ) (span : ℕ)

/-- The queue without what is older than the cutoff at its front. -/
def evict (cutoff : ℕ) (events : List α) : List α := events.dropWhile fun e => time e < cutoff

/-- One more event in the queue. -/
def slide (events : List α) (e : α) : List α := evict time (time e - span) events ++ [e]

/-- The events of a history that are no older than `span` at its last one. -/
def window (es : List α) : List α :=
  match es.getLast? with
  | none => []
  | some last => es.filter fun e => time last ≤ time e + span

/-- The times of a history never go back. -/
def Ordered (es : List α) : Prop := es.Pairwise fun a b => time a ≤ time b

instance (es : List α) : Decidable (Ordered time es) :=
  inferInstanceAs (Decidable (es.Pairwise _))

theorem window_append (es : List α) (e : α) :
    window time span (es ++ [e]) = (es ++ [e]).filter fun a => time e ≤ time a + span := by
  rw [window, List.getLast?_concat]

theorem mem_of_mem_window {es : List α} {e : α} (h : e ∈ window time span es) : e ∈ es := by
  rcases List.eq_nil_or_concat es with rfl | ⟨es', last, rfl⟩
  · exact h
  · rw [List.concat_eq_append, window_append] at h
    rw [List.concat_eq_append]
    exact (List.mem_filter.mp h).1

/-- The window of events that are made from others. -/
theorem window_map {β : Type*} (f : β → α) (es : List β) :
    window time span (es.map f) = (window (time ∘ f) span es).map f := by
  rcases List.eq_nil_or_concat es with rfl | ⟨es', last, rfl⟩
  · rfl
  · rw [List.concat_eq_append, window_append, List.map_append, List.map_singleton, window_append,
      ← List.map_singleton, ← List.map_append, List.filter_map]
    rfl

/-- Two tests that agree on a list drop the same. -/
theorem dropWhile_congr {p q : α → Bool} {es : List α} (h : ∀ e ∈ es, p e = q e) :
    es.dropWhile p = es.dropWhile q := by
  induction es with
  | nil => rfl
  | cons e es ih =>
    obtain ⟨hfirst, hrest⟩ := List.forall_mem_cons.mp h
    rw [List.dropWhile_cons, List.dropWhile_cons, hfirst, ih hrest]

variable {time}

/-- In order, what is left in front of the first recent event is nothing. -/
theorem evict_eq_filter {events : List α} (h : Ordered time events) (cutoff : ℕ) :
    evict time cutoff events = events.filter fun e => cutoff ≤ time e := by
  induction events with
  | nil => rfl
  | cons e events ih =>
    obtain ⟨hlater, hrest⟩ := List.pairwise_cons.mp h
    by_cases hold : time e < cutoff
    · rw [evict, List.dropWhile_cons_of_pos (by simpa using hold),
        List.filter_cons_of_neg (by simpa using hold)]
      exact ih hrest
    · have hrecent : ∀ a ∈ events, cutoff ≤ time a := fun a ha =>
        (Nat.le_of_not_lt hold).trans (hlater a ha)
      rw [evict, List.dropWhile_cons_of_neg (by simpa using hold),
        List.filter_cons_of_pos (by simpa using hold),
        List.filter_eq_self.mpr fun a ha => decide_eq_true (hrecent a ha)]

/-- **The queue is the window.** -/
theorem foldl_slide {es : List α} (h : Ordered time es) :
    es.foldl (slide time span) [] = window time span es := by
  induction es using List.reverseRecOn with
  | nil => rfl
  | append_singleton es e ih =>
    obtain ⟨hes, -, hlast⟩ := List.pairwise_append.mp h
    have hbefore : ∀ a ∈ es, time a ≤ time e := fun a ha => hlast a ha e (List.mem_singleton_self e)
    rw [List.foldl_append, ih hes, List.foldl_cons, List.foldl_nil, slide, window_append,
      List.filter_append, List.filter_cons_of_pos (by simp),
      List.filter_nil]
    refine congrArg (· ++ [e]) ?_
    rcases List.eq_nil_or_concat es with rfl | ⟨es', last, rfl⟩
    · rfl
    · -- the window of the earlier last event is at least as wide
      rw [List.concat_eq_append, window_append,
        evict_eq_filter (List.Pairwise.filter _ (List.concat_eq_append ▸ hes)), List.filter_filter]
      refine List.filter_congr fun a _ => ?_
      have hle : time last ≤ time e := hbefore last (by simp)
      rw [← Bool.decide_and, decide_eq_decide]
      omega

/-! ## Counters -/

/-- The eviction loop of a queue of times and marks, with the number of its events and the number
of the marked ones. -/
def evictCounted (cutoff : ℕ) (total marked : ℕ) :
    List (ℕ × Bool) → List (ℕ × Bool) × ℕ × ℕ
  | [] => ([], total, marked)
  | (ts, mark) :: events =>
    if ts < cutoff then
      evictCounted cutoff (total - 1) (if mark then marked - 1 else marked) events
    else ((ts, mark) :: events, total, marked)

/-- Counters that are right stay right. -/
theorem evictCounted_spec (cutoff : ℕ) (events : List (ℕ × Bool)) :
    evictCounted cutoff events.length (events.countP (·.2)) events =
      (evict Prod.fst cutoff events, (evict Prod.fst cutoff events).length,
        (evict Prod.fst cutoff events).countP (·.2)) := by
  induction events with
  | nil => rfl
  | cons e events ih =>
    obtain ⟨ts, mark⟩ := e
    rw [evictCounted, evict]
    by_cases hold : ts < cutoff
    · rw [if_pos hold, List.dropWhile_cons_of_pos (by simpa using hold)]
      have hmarked : (if mark = true then ((ts, mark) :: events).countP (·.2) - 1
          else ((ts, mark) :: events).countP (·.2)) = events.countP (·.2) := by
        cases mark with
        | true => simp
        | false => simp
      rw [hmarked]
      exact ih
    · rw [if_neg hold, List.dropWhile_cons_of_neg (by simpa using hold)]

/-- The counters with one more event. -/
theorem slide_counted (span : ℕ) (events : List (ℕ × Bool)) (ts : ℕ) (mark : Bool) :
    (evict Prod.fst (ts - span) events).length + 1 =
        (slide Prod.fst span events (ts, mark)).length ∧
      (if mark then (evict Prod.fst (ts - span) events).countP (·.2) + 1
        else (evict Prod.fst (ts - span) events).countP (·.2)) =
        (slide Prod.fst span events (ts, mark)).countP (·.2) := by
  rw [slide, List.length_append, List.countP_append]
  cases mark with
  | true => exact ⟨rfl, rfl⟩
  | false => exact ⟨rfl, rfl⟩

/-! ## The latch -/

/-- A queue with a latch. -/
structure Latched (α : Type*) where
  events : List α := []
  tripped : Bool := false

namespace Latched

variable (time) (exceeds : List α → Bool)

/-- One more event, and the test of what is in the queue with it. -/
def record (s : Latched α) (e : α) : Latched α :=
  { events := slide time span s.events e
    tripped := s.tripped || exceeds (slide time span s.events e) }

theorem events_foldl (s : Latched α) (es : List α) :
    (es.foldl (record time span exceeds) s).events = es.foldl (slide time span) s.events := by
  induction es generalizing s with
  | nil => rfl
  | cons e es ih => exact ih (record time span exceeds s e)

variable {time}

/-- **The latch.** It is tripped exactly when the window of some part of the history, from its
beginning to one of its events, was too much. -/
theorem tripped_iff {es : List α} (h : Ordered time es) :
    (es.foldl (record time span exceeds) {}).tripped = true ↔
      ∃ es', es' <+: es ∧ es' ≠ [] ∧ exceeds (window time span es') = true := by
  induction es using List.reverseRecOn with
  | nil =>
    refine iff_of_false (fun htripped => nomatch htripped) ?_
    rintro ⟨es', hprefix, hne, -⟩
    exact hne (List.prefix_nil.mp hprefix)
  | append_singleton es e ih =>
    have hes : Ordered time es := (List.pairwise_append.mp h).1
    -- what is tested now is the window of the whole history
    have hnow : slide time span (es.foldl (record time span exceeds) {}).events e =
        window time span (es ++ [e]) := by
      rw [← foldl_slide span h, events_foldl, List.foldl_append]
      rfl
    rw [List.foldl_append, List.foldl_cons, List.foldl_nil, record, hnow, Bool.or_eq_true, ih hes]
    constructor
    · rintro (⟨es', hprefix, hne, hexceeds⟩ | hexceeds)
      · exact ⟨es', hprefix.trans (List.prefix_append es [e]), hne, hexceeds⟩
      · exact ⟨es ++ [e], List.prefix_rfl, by simp, hexceeds⟩
    · rintro ⟨es', hprefix, hne, hexceeds⟩
      rcases List.prefix_concat_iff.mp hprefix with rfl | hprefix
      · exact Or.inr hexceeds
      · exact Or.inl ⟨es', hprefix, hne, hexceeds⟩

end Latched

end SlidingWindow
