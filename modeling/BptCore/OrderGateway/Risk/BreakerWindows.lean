import BptCore.Lib.SlidingWindow
import BptCore.Messages
import Mathlib.Algebra.Order.Field.Rat

/-!
# The circuit breakers and what they count

A breaker keeps a window of events, with counters that are never recomputed, and a latch. There are
three: of rejects, which is part of the pre-trade risk gate, of disconnects, and of dropped
validations. Each of them is the sliding window with a latch, and so counts what is recent and trips
when the recent share, or number, was once too much. The 32-bit counters are naturals here: a window
would have to hold `2 ^ 32` events for the difference.

* **`RejectRateBreaker`** — trips when the share of REJECTED reports among the last `windowNs`
  exceeds `thresholdPct`, once at least `minEvents` reports are in the window.
* **`DisconnectRateBreaker`** — trips when `threshold` disconnects land within `windowNs`.
* **`ValidationDropBreaker`** — trips when the share of DROP results among the validations of the
  last `windowNs` exceeds `thresholdPct`, once at least `minEvents` are in the window.
* **`RejectRateBreaker.Tracks`** and its like — a breaker against the sliding window.
* **`RateExact`**, **`CountExact`** — what a breaker says of its history.
* **`breakers_exact`** — all three say it, of any history whose times do not go back.
-/

namespace BptCore.OrderGateway

/-! ## The reject-rate circuit breaker -/

/-- `RejectRateBreaker::Config`. -/
structure RejectRateBreaker.Config where
  windowNs : Nat := 60000000000
  thresholdPct : ℚ := 20
  minEvents : Nat := 10
  enabled : Bool := false

structure RejectRateBreaker where
  /-- `(timestamp_ns, is_reject)`, oldest first. -/
  events : List (Nat × Bool) := []
  total : Nat := 0
  rejects : Nat := 0
  tripped : Bool := false

namespace RejectRateBreaker

/-- The eviction loop of `record`: pop the events older than the cutoff off the front, with
the counts of those that are left. -/
def evict (cutoff : Nat) (total rejects : Nat) :
    List (Nat × Bool) → List (Nat × Bool) × Nat × Nat
  | [] => ([], total, rejects)
  | (ts, isReject) :: events =>
    if ts < cutoff then
      evict cutoff (total - 1) (if isReject then rejects - 1 else rejects) events
    else ((ts, isReject) :: events, total, rejects)

variable (cfg : Config) (b : RejectRateBreaker)

/-- The breaker with one more event in its window, the trip test not yet made. -/
def push (isReject : Bool) (nowNs : Nat) : RejectRateBreaker :=
  let cutoff := if nowNs > cfg.windowNs then nowNs - cfg.windowNs else 0
  let (events, total, rejects) := evict cutoff b.total b.rejects b.events
  { b with
    events := events ++ [(nowNs, isReject)]
    total := total + 1
    rejects := if isReject then rejects + 1 else rejects }

/-- The trip test on the counts of the window. -/
def rateExceeded : Bool :=
  decide (cfg.minEvents ≤ b.total) && decide (cfg.thresholdPct < 100 * b.rejects / b.total)

def record (isReject : Bool) (nowNs : Nat) : RejectRateBreaker :=
  if !cfg.enabled then b
  else
    let b := b.push cfg isReject nowNs
    -- once tripped, the window goes on but the test is over
    if b.tripped then b
    else { b with tripped := b.rateExceeded cfg }

end RejectRateBreaker

/-! ## The disconnect-rate circuit breaker -/

/-- `DisconnectRateBreaker::Config`. -/
structure DisconnectRateBreaker.Config where
  windowNs : Nat := 60000000000
  threshold : Nat := 5
  enabled : Bool := false

structure DisconnectRateBreaker where
  /-- The times of the disconnects, oldest first. -/
  events : List Nat := []
  tripped : Bool := false
  deriving DecidableEq, Repr

namespace DisconnectRateBreaker

variable (cfg : Config) (b : DisconnectRateBreaker)

def record (nowNs : Nat) : DisconnectRateBreaker :=
  if !cfg.enabled then b
  else
    let cutoff := if nowNs > cfg.windowNs then nowNs - cfg.windowNs else 0
    let events := b.events.dropWhile (· < cutoff) ++ [nowNs]
    if b.tripped then { b with events := events }
    else { events := events, tripped := decide (events.length ≥ cfg.threshold) }

/-- `count_in_window`. -/
def countInWindow : Nat := b.events.length

end DisconnectRateBreaker

end BptCore.OrderGateway

namespace BptCore.MdGateway

/-! ## The validation-drop circuit breaker -/

/-- `ValidationDropBreaker::Config`. -/
structure ValidationDropBreaker.Config where
  windowNs : Nat := 60000000000
  thresholdPct : ℚ := 30
  minEvents : Nat := 50
  enabled : Bool := false

structure ValidationDropBreaker where
  /-- `(timestamp_ns, is_drop)`, oldest first. -/
  events : List (Nat × Bool) := []
  total : Nat := 0
  drops : Nat := 0
  tripped : Bool := false
  deriving DecidableEq, Repr

namespace ValidationDropBreaker

variable (cfg : Config) (b : ValidationDropBreaker)

/-- The breaker with one more result in its window, the trip test not yet made. -/
def push (isDrop : Bool) (nowNs : Nat) : ValidationDropBreaker :=
  let cutoff := if nowNs > cfg.windowNs then nowNs - cfg.windowNs else 0
  let (events, total, drops) := SlidingWindow.evictCounted cutoff b.total b.drops b.events
  { b with
    events := events ++ [(nowNs, isDrop)]
    total := total + 1
    drops := if isDrop then drops + 1 else drops }

/-- The trip test on the counts of the window. -/
def rateExceeded : Bool :=
  decide (cfg.minEvents ≤ b.total) && decide (cfg.thresholdPct < 100 * b.drops / b.total)

def record (isDrop : Bool) (nowNs : Nat) : ValidationDropBreaker :=
  if !cfg.enabled then b
  else
    let b := b.push cfg isDrop nowNs
    if b.tripped then b else { b with tripped := b.rateExceeded cfg }

end ValidationDropBreaker

end BptCore.MdGateway

namespace BptCore.OrderGateway

/-! ## What the breakers count -/

open SlidingWindow

/-- The cutoff of a breaker, at 0 when the clock is younger than the window. -/
theorem cutoff_eq (nowNs windowNs : Nat) :
    (if nowNs > windowNs then nowNs - windowNs else 0) = nowNs - windowNs := by
  split <;> omega

/-- The trip test of a rate, of the marked events of a window. -/
def rateExceeds (minEvents : Nat) (thresholdPct : ℚ) (events : List (Nat × Bool)) : Bool :=
  decide (minEvents ≤ events.length) &&
    decide (thresholdPct < 100 * events.countP (·.2) / events.length)

/-- The trip test of a number of events. -/
def countExceeds (threshold : Nat) (events : List Nat) : Bool := decide (threshold ≤ events.length)

/-- What a breaker has recorded: nothing when it is disabled. -/
def recorded {α : Type*} (enabled : Bool) (es : List α) : List α := if enabled then es else []

/-! ## The breakers as sliding windows -/

namespace RejectRateBreaker

theorem evict_eq (cutoff total rejects : Nat) (events : List (Nat × Bool)) :
    evict cutoff total rejects events = evictCounted cutoff total rejects events := by
  induction events generalizing total rejects with
  | nil => rfl
  | cons e events ih =>
    obtain ⟨ts, isReject⟩ := e
    rw [evict, evictCounted]
    split
    · exact ih _ _
    · rfl

/-- The breaker holds the queue, its counts and its latch. -/
structure Tracks (s : Latched (Nat × Bool)) (b : RejectRateBreaker) : Prop where
  events : b.events = s.events
  total : b.total = s.events.length
  rejects : b.rejects = s.events.countP (·.2)
  tripped : b.tripped = s.tripped

theorem Tracks.record {cfg : Config} (henabled : cfg.enabled = true) {s : Latched (Nat × Bool)}
    {b : RejectRateBreaker} (h : Tracks s b) (e : Nat × Bool) :
    Tracks (s.record Prod.fst cfg.windowNs (rateExceeds cfg.minEvents cfg.thresholdPct) e)
      (b.record cfg e.2 e.1) := by
  have hpush : b.push cfg e.2 e.1 =
      { events := slide Prod.fst cfg.windowNs s.events e
        total := (slide Prod.fst cfg.windowNs s.events e).length
        rejects := (slide Prod.fst cfg.windowNs s.events e).countP (·.2)
        tripped := s.tripped } := by
    obtain ⟨htotal, hrejects⟩ := slide_counted cfg.windowNs s.events e.1 e.2
    rw [← htotal, ← hrejects]
    simp only [push, cutoff_eq, evict_eq, h.events, h.total, h.rejects, h.tripped,
      evictCounted_spec]
    rfl
  unfold RejectRateBreaker.record
  rw [henabled, hpush]
  dsimp only [Bool.not_true, Bool.false_eq_true, if_false]
  -- the breaker tests what is there only as long as it is not tripped
  cases hold : s.tripped with
  | true => exact ⟨rfl, rfl, rfl, by rw [Latched.record, hold]; rfl⟩
  | false => exact ⟨rfl, rfl, rfl, by rw [Latched.record, hold]; rfl⟩

/-- The breaker after a history. -/
def run (cfg : Config) (es : List (Nat × Bool)) : RejectRateBreaker :=
  es.foldl (fun b e => b.record cfg e.2 e.1) {}

theorem tracks_run {cfg : Config} (henabled : cfg.enabled = true) (es : List (Nat × Bool)) :
    Tracks (es.foldl (Latched.record Prod.fst cfg.windowNs
      (rateExceeds cfg.minEvents cfg.thresholdPct)) {}) (run cfg es) :=
  List.foldl_rel ⟨rfl, rfl, rfl, rfl⟩ fun e _ _ _ h => h.record henabled e

theorem run_of_disabled {cfg : Config} (hdisabled : cfg.enabled = false)
    (es : List (Nat × Bool)) : run cfg es = {} := by
  have hkept : ∀ e : Nat × Bool, record cfg {} e.2 e.1 = {} := fun _ =>
    if_pos (congrArg Bool.not hdisabled)
  exact List.foldl_fixed' hkept es

/-- The latch holds. -/
theorem tripped_record (cfg : Config) {b : RejectRateBreaker} (h : b.tripped = true)
    (isReject : Bool) (nowNs : Nat) : (b.record cfg isReject nowNs).tripped = true := by
  have hpush : (b.push cfg isReject nowNs).tripped = true := h
  unfold record
  split
  · exact h
  · rw [if_pos hpush]
    exact hpush

end RejectRateBreaker

end BptCore.OrderGateway

namespace BptCore.MdGateway.ValidationDropBreaker

open SlidingWindow

/-- The breaker holds the queue, its counts and its latch. -/
structure Tracks (s : Latched (Nat × Bool)) (b : ValidationDropBreaker) : Prop where
  events : b.events = s.events
  total : b.total = s.events.length
  drops : b.drops = s.events.countP (·.2)
  tripped : b.tripped = s.tripped

theorem Tracks.record {cfg : Config} (henabled : cfg.enabled = true) {s : Latched (Nat × Bool)}
    {b : ValidationDropBreaker} (h : Tracks s b) (e : Nat × Bool) :
    Tracks (s.record Prod.fst cfg.windowNs
        (OrderGateway.rateExceeds cfg.minEvents cfg.thresholdPct) e)
      (b.record cfg e.2 e.1) := by
  have hpush : b.push cfg e.2 e.1 =
      { events := slide Prod.fst cfg.windowNs s.events e
        total := (slide Prod.fst cfg.windowNs s.events e).length
        drops := (slide Prod.fst cfg.windowNs s.events e).countP (·.2)
        tripped := s.tripped } := by
    obtain ⟨htotal, hdrops⟩ := slide_counted cfg.windowNs s.events e.1 e.2
    rw [← htotal, ← hdrops]
    simp only [push, OrderGateway.cutoff_eq, h.events, h.total, h.drops, h.tripped,
      evictCounted_spec]
    rfl
  unfold ValidationDropBreaker.record
  rw [henabled, hpush]
  dsimp only [Bool.not_true, Bool.false_eq_true, if_false]
  cases hold : s.tripped with
  | true => exact ⟨rfl, rfl, rfl, by rw [Latched.record, hold]; rfl⟩
  | false => exact ⟨rfl, rfl, rfl, by rw [Latched.record, hold]; rfl⟩

/-- The breaker after a history. -/
def run (cfg : Config) (es : List (Nat × Bool)) : ValidationDropBreaker :=
  es.foldl (fun b e => b.record cfg e.2 e.1) {}

theorem tracks_run {cfg : Config} (henabled : cfg.enabled = true) (es : List (Nat × Bool)) :
    Tracks (es.foldl (Latched.record Prod.fst cfg.windowNs
      (OrderGateway.rateExceeds cfg.minEvents cfg.thresholdPct)) {}) (run cfg es) :=
  List.foldl_rel ⟨rfl, rfl, rfl, rfl⟩ fun e _ _ _ h => h.record henabled e

theorem run_of_disabled {cfg : Config} (hdisabled : cfg.enabled = false)
    (es : List (Nat × Bool)) : run cfg es = {} := by
  have hkept : ∀ e : Nat × Bool, record cfg {} e.2 e.1 = {} := fun _ =>
    if_pos (congrArg Bool.not hdisabled)
  exact List.foldl_fixed' hkept es

theorem tripped_record (cfg : Config) {b : ValidationDropBreaker} (h : b.tripped = true)
    (isDrop : Bool) (nowNs : Nat) : (b.record cfg isDrop nowNs).tripped = true := by
  have hpush : (b.push cfg isDrop nowNs).tripped = true := h
  unfold record
  split
  · exact h
  · rw [if_pos hpush]
    exact hpush

end BptCore.MdGateway.ValidationDropBreaker

namespace BptCore.OrderGateway

open SlidingWindow

namespace DisconnectRateBreaker

/-- The breaker holds the queue and its latch. -/
structure Tracks (s : Latched Nat) (b : DisconnectRateBreaker) : Prop where
  events : b.events = s.events
  tripped : b.tripped = s.tripped

theorem Tracks.record {cfg : Config} (henabled : cfg.enabled = true) {s : Latched Nat}
    {b : DisconnectRateBreaker} (h : Tracks s b) (nowNs : Nat) :
    Tracks (s.record id cfg.windowNs (countExceeds cfg.threshold) nowNs) (b.record cfg nowNs) := by
  have hslide : b.events.dropWhile (· < nowNs - cfg.windowNs) ++ [nowNs] =
      slide id cfg.windowNs s.events nowNs := by
    rw [h.events]
    rfl
  unfold DisconnectRateBreaker.record
  rw [henabled, cutoff_eq]
  dsimp only [Bool.not_true, Bool.false_eq_true, if_false]
  rw [hslide, h.tripped]
  cases hold : s.tripped with
  | true => exact ⟨rfl, by rw [Latched.record, hold]; rfl⟩
  | false => exact ⟨rfl, by rw [Latched.record, hold]; rfl⟩

/-- The breaker after a history. -/
def run (cfg : Config) (es : List Nat) : DisconnectRateBreaker :=
  es.foldl (fun b nowNs => b.record cfg nowNs) {}

theorem tracks_run {cfg : Config} (henabled : cfg.enabled = true) (es : List Nat) :
    Tracks (es.foldl (Latched.record id cfg.windowNs (countExceeds cfg.threshold)) {})
      (run cfg es) :=
  List.foldl_rel ⟨rfl, rfl⟩ fun e _ _ _ h => h.record henabled e

theorem run_of_disabled {cfg : Config} (hdisabled : cfg.enabled = false) (es : List Nat) :
    run cfg es = {} := by
  have hkept : ∀ nowNs, record cfg {} nowNs = {} := fun _ => if_pos (congrArg Bool.not hdisabled)
  exact List.foldl_fixed' hkept es

theorem tripped_record (cfg : Config) {b : DisconnectRateBreaker} (h : b.tripped = true)
    (nowNs : Nat) : (b.record cfg nowNs).tripped = true := by
  cases henabled : cfg.enabled with
  | false => exact (congrArg tripped (if_pos (congrArg Bool.not henabled))).trans h
  | true =>
    unfold record
    rw [henabled, h]
    rfl

end DisconnectRateBreaker

/-! ## The law of the breakers -/

/-- What a breaker of rates says of its history: it counts the events that are no older than the
window at the last of them, and the marked ones among these, and is tripped exactly when after some
event there were enough of them and the share of the marked ones was beyond the threshold. -/
structure RateExact (windowNs minEvents : Nat) (thresholdPct : ℚ) (es : List (Nat × Bool))
    (total marked : Nat) (tripped : Bool) : Prop where
  total : total = (window Prod.fst windowNs es).length
  marked : marked = (window Prod.fst windowNs es).countP (·.2)
  tripped : tripped = true ↔ ∃ es', es' <+: es ∧ es' ≠ [] ∧
    rateExceeds minEvents thresholdPct (window Prod.fst windowNs es') = true

/-- The same for a breaker that counts events of one kind. -/
structure CountExact (windowNs threshold : Nat) (es : List Nat) (count : Nat) (tripped : Bool) :
    Prop where
  count : count = (window id windowNs es).length
  tripped : tripped = true ↔ ∃ es', es' <+: es ∧ es' ≠ [] ∧
    countExceeds threshold (window id windowNs es') = true

theorem RateExact.empty (windowNs minEvents : Nat) (thresholdPct : ℚ) :
    RateExact windowNs minEvents thresholdPct [] 0 0 false where
  total := rfl
  marked := rfl
  tripped := by
    refine iff_of_false (fun htripped => nomatch htripped) ?_
    rintro ⟨es', hprefix, hne, -⟩
    exact hne (List.prefix_nil.mp hprefix)

theorem CountExact.empty (windowNs threshold : Nat) : CountExact windowNs threshold [] 0 false where
  count := rfl
  tripped := by
    refine iff_of_false (fun htripped => nomatch htripped) ?_
    rintro ⟨es', hprefix, hne, -⟩
    exact hne (List.prefix_nil.mp hprefix)

/-- The sliding window with a latch obeys the law. -/
theorem RateExact.of_latched {windowNs minEvents : Nat} {thresholdPct : ℚ}
    {es : List (Nat × Bool)} (h : Ordered Prod.fst es) {s : Latched (Nat × Bool)}
    (hs : s = es.foldl (Latched.record Prod.fst windowNs (rateExceeds minEvents thresholdPct)) {}) :
    RateExact windowNs minEvents thresholdPct es s.events.length (s.events.countP (·.2))
      s.tripped := by
  have hevents : s.events = window Prod.fst windowNs es := by
    rw [hs, Latched.events_foldl, foldl_slide windowNs h]
  exact ⟨by rw [hevents], by rw [hevents], by rw [hs]; exact Latched.tripped_iff _ _ h⟩

theorem RejectRateBreaker.rateExact (cfg : Config) {es : List (Nat × Bool)}
    (h : Ordered Prod.fst es) :
    RateExact cfg.windowNs cfg.minEvents cfg.thresholdPct (recorded cfg.enabled es)
      (run cfg es).total (run cfg es).rejects (run cfg es).tripped := by
  cases henabled : cfg.enabled with
  | false =>
    rw [run_of_disabled henabled]
    exact RateExact.empty _ _ _
  | true =>
    have htracks := tracks_run henabled es
    rw [htracks.total, htracks.rejects, htracks.tripped]
    exact RateExact.of_latched h rfl

theorem DisconnectRateBreaker.countExact (cfg : Config) {es : List Nat} (h : Ordered id es) :
    CountExact cfg.windowNs cfg.threshold (recorded cfg.enabled es) (run cfg es).countInWindow
      (run cfg es).tripped := by
  cases henabled : cfg.enabled with
  | false =>
    rw [run_of_disabled henabled]
    exact CountExact.empty _ _
  | true =>
    have htracks := tracks_run henabled es
    have hevents : (run cfg es).events = window id cfg.windowNs es := by
      rw [htracks.events, Latched.events_foldl, foldl_slide cfg.windowNs h]
    rw [countInWindow, hevents, htracks.tripped]
    exact ⟨rfl, Latched.tripped_iff _ _ h⟩

end BptCore.OrderGateway

namespace BptCore.MdGateway.ValidationDropBreaker

open SlidingWindow OrderGateway

theorem rateExact (cfg : Config) {es : List (Nat × Bool)} (h : Ordered Prod.fst es) :
    RateExact cfg.windowNs cfg.minEvents cfg.thresholdPct (recorded cfg.enabled es)
      (run cfg es).total (run cfg es).drops (run cfg es).tripped := by
  cases henabled : cfg.enabled with
  | false =>
    rw [run_of_disabled henabled]
    exact RateExact.empty _ _ _
  | true =>
    have htracks := tracks_run henabled es
    rw [htracks.total, htracks.drops, htracks.tripped]
    exact RateExact.of_latched h rfl

end BptCore.MdGateway.ValidationDropBreaker

namespace BptCore.OrderGateway

open SlidingWindow MdGateway

/-- **The breakers count exactly.** After any records whose times do not go back, each of the three
breakers counts what is no older than its window and is tripped exactly when at some record the
recent rate, or number, was too much; and once tripped it stays tripped whatever is recorded. -/
theorem breakers_exact :
    (∀ (cfg : RejectRateBreaker.Config) (es : List (Nat × Bool)), Ordered Prod.fst es →
      RateExact cfg.windowNs cfg.minEvents cfg.thresholdPct (recorded cfg.enabled es)
        (RejectRateBreaker.run cfg es).total (RejectRateBreaker.run cfg es).rejects
        (RejectRateBreaker.run cfg es).tripped ∧
      ∀ more, (RejectRateBreaker.run cfg es).tripped = true →
        (RejectRateBreaker.run cfg (es ++ more)).tripped = true) ∧
    (∀ (cfg : DisconnectRateBreaker.Config) (es : List Nat), Ordered id es →
      CountExact cfg.windowNs cfg.threshold (recorded cfg.enabled es)
        (DisconnectRateBreaker.run cfg es).countInWindow
        (DisconnectRateBreaker.run cfg es).tripped ∧
      ∀ more, (DisconnectRateBreaker.run cfg es).tripped = true →
        (DisconnectRateBreaker.run cfg (es ++ more)).tripped = true) ∧
    (∀ (cfg : ValidationDropBreaker.Config) (es : List (Nat × Bool)), Ordered Prod.fst es →
      RateExact cfg.windowNs cfg.minEvents cfg.thresholdPct (recorded cfg.enabled es)
        (ValidationDropBreaker.run cfg es).total (ValidationDropBreaker.run cfg es).drops
        (ValidationDropBreaker.run cfg es).tripped ∧
      ∀ more, (ValidationDropBreaker.run cfg es).tripped = true →
        (ValidationDropBreaker.run cfg (es ++ more)).tripped = true) := by
  refine ⟨fun cfg es h => ⟨RejectRateBreaker.rateExact cfg h, fun more htripped => ?_⟩,
    fun cfg es h => ⟨DisconnectRateBreaker.countExact cfg h, fun more htripped => ?_⟩,
    fun cfg es h => ⟨ValidationDropBreaker.rateExact cfg h, fun more htripped => ?_⟩⟩
  · rw [RejectRateBreaker.run, List.foldl_append]
    exact List.foldlRecOn (motive := fun b : RejectRateBreaker => b.tripped = true) more _ htripped
      fun b hb e _ => RejectRateBreaker.tripped_record cfg hb e.2 e.1
  · rw [DisconnectRateBreaker.run, List.foldl_append]
    exact List.foldlRecOn (motive := fun b : DisconnectRateBreaker => b.tripped = true) more _
      htripped fun b hb nowNs _ => DisconnectRateBreaker.tripped_record cfg hb nowNs
  · rw [ValidationDropBreaker.run, List.foldl_append]
    exact List.foldlRecOn (motive := fun b : ValidationDropBreaker => b.tripped = true) more _ htripped
      fun b hb e _ => ValidationDropBreaker.tripped_record cfg hb e.2 e.1

/-- Rejects at either edge of a window of 10: the one at 5 is still in it at 15, the one at 4 is
not. -/
theorem breakers_exact_atCutoff :
    let cfg : RejectRateBreaker.Config :=
      { windowNs := 10, thresholdPct := 50, minEvents := 3, enabled := true }
    let es : List (Nat × Bool) := [(4, true), (5, true), (9, false), (15, true)]
    RateExact 10 3 50 es (RejectRateBreaker.run cfg es).total (RejectRateBreaker.run cfg es).rejects
        (RejectRateBreaker.run cfg es).tripped ∧
      (RejectRateBreaker.run cfg es).total = 3 ∧ (RejectRateBreaker.run cfg es).rejects = 2 ∧
      CountExact 60000000000 2 [1, 2] (DisconnectRateBreaker.run
          { threshold := 2, enabled := true } [1, 2]).countInWindow
        (DisconnectRateBreaker.run { threshold := 2, enabled := true } [1, 2]).tripped := by
  intro cfg es
  have hordered : Ordered Prod.fst es := by decide
  obtain ⟨hrejects, hdisconnects, -⟩ := breakers_exact
  exact ⟨(hrejects cfg es hordered).1, by decide +kernel, by decide +kernel,
    (hdisconnects { threshold := 2, enabled := true } [1, 2] (by decide)).1⟩

end BptCore.OrderGateway
