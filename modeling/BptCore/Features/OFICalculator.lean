import BptCore.Lib.Consecutive
import BptCore.Lib.SlidingWindow
import Mathlib.Algebra.BigOperators.Group.List.Basic
import Mathlib.Algebra.Order.Field.Rat
import Mathlib.Tactic.NormNum
import Mathlib.Tactic.Ring

/-!
# The order flow imbalance

`OFICalculator` compares every book with the one before it, level by level, and keeps the sum of
what the levels contribute over a rolling window. The doubles are exact here. What it is for is said
of the books alone: each pair of consecutive books has a contribution, summed over the levels that
either of the two has, and the imbalance is the sum of the contributions in the window by the
average depth.

* **`levelEvent`** — what one level contributes.
* **`OFICalculator.update`** — one book.
* **`Summed`** — the running sums are those of the window.
* **`OFIWindow.windowImbalance`** — the imbalance after a history of books.
* **`OFIWindow.vanished`** — the part of a contribution that comes from levels deeper than the whole
  new book.
* **`OFIWindow.tracks_run`** — the calculator keeps one sample for each pair in the window.
* **`OFIWindow.update_eq_windowImbalance_iff`** — the loop stops at the depth of the new book, so the
  value is right exactly when what vanished balances.
-/

namespace BptCore.Features

/-- A price and a quantity. -/
abbrev Level := ℚ × ℚ

/-- `level_event`: the contribution of one level of a side. -/
def levelEvent (newPrice newQty prevPrice prevQty : ℚ) (isBid : Bool) : ℚ :=
  if prevPrice ≤ 0 ∧ newPrice ≤ 0 then 0
  else if prevPrice ≤ 0 then newQty
  else if newPrice ≤ 0 then -prevQty
  else
    let improved : Bool := if isBid then newPrice > prevPrice else newPrice < prevPrice
    let worsened : Bool := if isBid then newPrice < prevPrice else newPrice > prevPrice
    if improved then newQty else if worsened then -prevQty else newQty - prevQty

structure OFIConfig where
  maxLevels : Int := 5
  windowNs : Nat := 1000000000

structure OFISample where
  tsNs : Nat
  contribution : ℚ
  depth : ℚ
  deriving DecidableEq, Repr

structure OFICalculator where
  prevBids : List Level := []
  prevAsks : List Level := []
  window : List OFISample := []
  runningContrib : ℚ := 0
  runningDepth : ℚ := 0
  lastValue : ℚ := 0
  warm : Bool := false
  deriving DecidableEq, Repr

namespace OFICalculator

variable (cfg : OFIConfig) (c : OFICalculator)

/-- A level that the book does not have is of price and quantity 0. -/
def levelAt (levels : List Level) (k : Nat) : Level := levels.getD k (0, 0)

/-- The net contribution of a level, more the nearer it is to the touch. -/
def levelContribution (bids asks : List Level) (k : Nat) : ℚ :=
  let bid := levelAt bids k
  let prevBid := levelAt c.prevBids k
  let ask := levelAt asks k
  let prevAsk := levelAt c.prevAsks k
  1 / ((k : ℚ) + 1) *
    (levelEvent bid.1 bid.2 prevBid.1 prevBid.2 true -
      levelEvent ask.1 ask.2 prevAsk.1 prevAsk.2 false)

def avgDepth : ℚ := if c.window = [] then 0 else c.runningDepth / c.window.length

/-- The samples that have left the window. -/
def evict (cutoff : Nat) : OFICalculator :=
  let gone := c.window.takeWhile (·.tsNs < cutoff)
  { c with
    window := c.window.dropWhile (·.tsNs < cutoff)
    runningContrib := c.runningContrib - (gone.map (·.contribution)).sum
    runningDepth := c.runningDepth - (gone.map (·.depth)).sum }

def push (sample : OFISample) : OFICalculator :=
  { c with
    window := c.window ++ [sample]
    runningContrib := c.runningContrib + sample.contribution
    runningDepth := c.runningDepth + sample.depth }

/-- The calculator after a book, and the value that it returns. -/
def update (bids asks : List Level) (timestampNs : Nat) : OFICalculator × ℚ :=
  if c.warm then
    let levels := List.range (min cfg.maxLevels (max bids.length asks.length : Nat)).toNat
    let contribution := (levels.map (c.levelContribution bids asks)).sum
    let depth := (levels.map fun k => (levelAt bids k).2 + (levelAt asks k).2).sum
    let c := (c.evict (timestampNs - cfg.windowNs)).push ⟨timestampNs, contribution, depth⟩
    let c := { c with prevBids := bids, prevAsks := asks }
    let avg := c.avgDepth
    let value := if avg > 1 / 1000000000 then c.runningContrib / avg else 0
    ({ c with lastValue := value }, value)
  else ({ c with prevBids := bids, prevAsks := asks, warm := true }, 0)

/-- The running sums are the sums over the window. -/
def Summed : Prop :=
  c.runningContrib = (c.window.map (·.contribution)).sum ∧
    c.runningDepth = (c.window.map (·.depth)).sum

variable {c}

theorem Summed.evict (h : c.Summed) (cutoff : Nat) : (c.evict cutoff).Summed := by
  have hsplit : ∀ f : OFISample → ℚ,
      (c.window.map f).sum - ((c.window.takeWhile (·.tsNs < cutoff)).map f).sum =
        ((c.window.dropWhile (·.tsNs < cutoff)).map f).sum := by
    intro f
    rw [sub_eq_iff_eq_add', ← List.sum_append, ← List.map_append, List.takeWhile_append_dropWhile]
  obtain ⟨hcontrib, hdepth⟩ := h
  refine ⟨?_, ?_⟩
  · show c.runningContrib - _ = _
    rw [hcontrib]
    exact hsplit _
  · show c.runningDepth - _ = _
    rw [hdepth]
    exact hsplit _

theorem Summed.push (h : c.Summed) (sample : OFISample) : (c.push sample).Summed := by
  obtain ⟨hcontrib, hdepth⟩ := h
  refine ⟨?_, ?_⟩
  · show c.runningContrib + sample.contribution = ((c.window ++ [sample]).map (·.contribution)).sum
    rw [hcontrib, List.map_append, List.sum_append, List.map_singleton, List.sum_singleton]
  · show c.runningDepth + sample.depth = ((c.window ++ [sample]).map (·.depth)).sum
    rw [hdepth, List.map_append, List.sum_append, List.map_singleton, List.sum_singleton]

/-- No book makes the running sums drift from the window. -/
theorem Summed.update (h : c.Summed) (bids asks : List Level) (timestampNs : Nat) :
    (c.update cfg bids asks timestampNs).1.Summed := by
  unfold OFICalculator.update
  split
  · exact (h.evict _).push _
  · exact h

end OFICalculator

end BptCore.Features

namespace BptCore.Features.OFIWindow

/-! ## The imbalance of a window of books -/

open OFICalculator (levelAt)
open Consecutive SlidingWindow

/-- A book as `update` takes it. -/
structure Snapshot where
  bids : List Level
  asks : List Level
  tsNs : Nat
  deriving DecidableEq, Repr

/-- The levels of the longer side. -/
def Snapshot.size (s : Snapshot) : Nat := max s.bids.length s.asks.length

section Imbalance

variable (cfg : OFIConfig)

/-- How many of a number of levels are below `maxLevels`. -/
def capped (levels : Nat) : Nat := (min cfg.maxLevels levels).toNat

/-- What a level contributes: the bid event less the ask event, by its distance from the touch. -/
def levelTerm (prev next : Snapshot) (k : Nat) : ℚ :=
  let bid := levelAt next.bids k
  let prevBid := levelAt prev.bids k
  let ask := levelAt next.asks k
  let prevAsk := levelAt prev.asks k
  1 / ((k : ℚ) + 1) *
    (levelEvent bid.1 bid.2 prevBid.1 prevBid.2 true -
      levelEvent ask.1 ask.2 prevAsk.1 prevAsk.2 false)

/-- The contribution of a pair of books: of every level that either of them has. -/
def pairContribution (prev next : Snapshot) : ℚ :=
  ((List.range (capped cfg (max prev.size next.size))).map (levelTerm prev next)).sum

def topDepth (s : Snapshot) : ℚ :=
  ((List.range (capped cfg s.size)).map fun k => (levelAt s.bids k).2 + (levelAt s.asks k).2).sum

/-- The pairs whose new book is in the window of the last one. -/
def recentPairs (history : List Snapshot) : List (Snapshot × Snapshot) :=
  window (·.2.tsNs) cfg.windowNs (pairs history)

def windowDepth (history : List Snapshot) : ℚ :=
  ((recentPairs cfg history).map fun p => topDepth cfg p.2).sum / (recentPairs cfg history).length

/-- The imbalance after a history of books. -/
def windowImbalance (history : List Snapshot) : ℚ :=
  if windowDepth cfg history > 1 / 1000000000 then
    ((recentPairs cfg history).map fun p => pairContribution cfg p.1 p.2).sum /
      windowDepth cfg history
  else 0

/-! ## Levels that vanish -/

/-- The quantity of a level, if it has a price. -/
def standing (level : Level) : ℚ := if level.1 ≤ 0 then 0 else level.2

/-- What was quoted below the whole new book: the asks less the bids, weighted. -/
def vanished (prev next : Snapshot) : ℚ :=
  ((List.range' next.size (capped cfg (max prev.size next.size) - next.size)).map fun k : Nat =>
    1 / ((k : ℚ) + 1) * (standing (levelAt prev.asks k) - standing (levelAt prev.bids k))).sum

/-- The contribution as the loop of `update` computes it. -/
def loopContribution (prev next : Snapshot) : ℚ :=
  ((List.range (capped cfg next.size)).map (levelTerm prev next)).sum

variable {cfg}

theorem levelEvent_of_missing (prev : Level) (isBid : Bool) :
    levelEvent 0 0 prev.1 prev.2 isBid = -standing prev := by
  by_cases hprev : prev.1 ≤ 0
  · simp [levelEvent, standing, hprev]
  · simp [levelEvent, standing, hprev]

theorem levelAt_of_le {levels : List Level} {k : Nat} (h : levels.length ≤ k) :
    levelAt levels k = (0, 0) := by
  rw [levelAt, List.getD_eq_getElem?_getD, List.getElem?_eq_none h]
  rfl

theorem levelTerm_of_le {prev next : Snapshot} {k : Nat} (h : next.size ≤ k) :
    levelTerm prev next k =
      1 / ((k : ℚ) + 1) * (standing (levelAt prev.asks k) - standing (levelAt prev.bids k)) := by
  have hbids : next.bids.length ≤ k := (le_max_left _ _).trans h
  have hasks : next.asks.length ≤ k := (le_max_right _ _).trans h
  unfold levelTerm
  simp only [levelAt_of_le hbids, levelAt_of_le hasks, levelEvent_of_missing]
  ring

/-- **The levels below the new book are all that the loop leaves out.** -/
theorem pairContribution_eq (prev next : Snapshot) :
    pairContribution cfg prev next = loopContribution cfg prev next + vanished cfg prev next := by
  let deep := capped cfg (max prev.size next.size)
  have hsplit : List.range deep =
      List.range (capped cfg next.size) ++ List.range' next.size (deep - next.size) := by
    rw [List.range_eq_range', List.range_eq_range']
    -- beyond the new book the cap has not been reached, or nothing is left to split off
    rcases Nat.lt_or_ge next.size deep with hdeep | hshallow
    · have hall : capped cfg next.size = next.size := by
        have := hdeep
        unfold deep capped at this
        unfold capped
        omega
      have happend : List.range' 0 next.size ++ List.range' (0 + next.size) (deep - next.size) =
          List.range' 0 (next.size + (deep - next.size)) := List.range'_append_1
      rw [hall, ← Nat.add_sub_of_le hdeep.le, ← happend, Nat.zero_add,
        Nat.add_sub_of_le hdeep.le]
    · have hsame : deep = capped cfg next.size := by
        have := hshallow
        unfold deep capped at this ⊢
        omega
      rw [Nat.sub_eq_zero_of_le hshallow, List.range'_zero, List.append_nil, hsame]
  have hdeeper : (List.range' next.size (deep - next.size)).map (levelTerm prev next) =
      (List.range' next.size (deep - next.size)).map fun k : Nat =>
        1 / ((k : ℚ) + 1) * (standing (levelAt prev.asks k) - standing (levelAt prev.bids k)) :=
    List.map_congr_left fun k hk => levelTerm_of_le (List.mem_range'_1.mp hk).1
  rw [pairContribution, hsplit, List.map_append, List.sum_append, hdeeper]
  rfl

/-- Nothing vanishes when the new book has as many levels. -/
theorem vanished_of_le {prev next : Snapshot} (h : capped cfg prev.size ≤ next.size) :
    vanished cfg prev next = 0 := by
  have hnone : capped cfg (max prev.size next.size) - next.size = 0 := by
    unfold capped at *
    omega
  rw [vanished, hnone]
  rfl

end Imbalance

/-! ## The run -/

section Run

variable (cfg : OFIConfig)

/-- The calculator after a history of books. -/
def run (history : List Snapshot) : OFICalculator :=
  history.foldl (fun c s => (c.update cfg s.bids s.asks s.tsNs).1) {}

/-- What `update` returns for a book that comes after a history. -/
def returned (history : List Snapshot) (s : Snapshot) : ℚ :=
  ((run cfg history).update cfg s.bids s.asks s.tsNs).2

/-- The sample that a pair of books leaves. -/
def pairSample (p : Snapshot × Snapshot) : OFISample :=
  ⟨p.2.tsNs, loopContribution cfg p.1 p.2, topDepth cfg p.2⟩

/-- The samples of a history, as the eviction loop leaves them. -/
def keptSamples (history : List Snapshot) : List OFISample :=
  ((pairs history).map (pairSample cfg)).foldl (slide OFISample.tsNs cfg.windowNs) []

/-- The value that a window of samples gives. -/
def sampleValue (samples : List OFISample) : ℚ :=
  let avg := (samples.map (·.depth)).sum / samples.length
  if avg > 1 / 1000000000 then (samples.map (·.contribution)).sum / avg else 0

/-- The calculator after the books of `history` and `last`. -/
structure Tracks (c : OFICalculator) (history : List Snapshot) (last : Snapshot) : Prop where
  warm : c.warm = true
  bids : c.prevBids = last.bids
  asks : c.prevAsks = last.asks
  samples : c.window = keptSamples cfg (history ++ [last])
  summed : c.Summed

variable {cfg} {c : OFICalculator} {history : List Snapshot} {last : Snapshot}

theorem keptSamples_concat (history : List Snapshot) (last s : Snapshot) :
    keptSamples cfg (history ++ [last] ++ [s]) =
      slide OFISample.tsNs cfg.windowNs (keptSamples cfg (history ++ [last]))
        (pairSample cfg (last, s)) := by
  rw [keptSamples, pairs_concat, List.map_append, List.foldl_append]
  rfl

/-- A book after the first one leaves the sample of its pair, and is answered from the window. -/
theorem Tracks.update (h : Tracks cfg c history last) (s : Snapshot) :
    Tracks cfg (c.update cfg s.bids s.asks s.tsNs).1 (history ++ [last]) s ∧
      (c.update cfg s.bids s.asks s.tsNs).2 =
        sampleValue (keptSamples cfg (history ++ [last] ++ [s])) := by
  have hwindow : (c.update cfg s.bids s.asks s.tsNs).1.window =
      keptSamples cfg (history ++ [last] ++ [s]) := by
    have hterm : c.levelContribution s.bids s.asks = levelTerm last s := by
      funext k
      simp only [OFICalculator.levelContribution, levelTerm, h.bids, h.asks]
    rw [keptSamples_concat, ← h.samples, OFICalculator.update, if_pos h.warm, hterm]
    rfl
  -- the running sums are those of the window, so the answer is the window's
  have hsummed := h.summed.update cfg s.bids s.asks s.tsNs
  have hvalue : (c.update cfg s.bids s.asks s.tsNs).2 =
      sampleValue (c.update cfg s.bids s.asks s.tsNs).1.window := by
    unfold sampleValue
    rw [← hsummed.1, ← hsummed.2, OFICalculator.update, if_pos h.warm]
    simp only [OFICalculator.avgDepth, OFICalculator.push, List.append_ne_nil_of_right_ne_nil,
      ne_eq, reduceCtorEq, not_false_eq_true, if_false]
    rfl
  refine ⟨⟨?_, ?_, ?_, hwindow, hsummed⟩, hwindow ▸ hvalue⟩
  · rw [OFICalculator.update, if_pos h.warm]
    exact h.warm
  · rw [OFICalculator.update, if_pos h.warm]
  · rw [OFICalculator.update, if_pos h.warm]

/-- **The run.** After any history the calculator keeps the samples of the window. -/
theorem tracks_run (history : List Snapshot) (last : Snapshot) :
    Tracks cfg (run cfg (history ++ [last])) history last := by
  induction history using List.reverseRecOn generalizing last with
  | nil => exact ⟨rfl, rfl, rfl, rfl, rfl, rfl⟩
  | append_singleton history before ih =>
    rw [run, List.foldl_append]
    exact ((ih before).update last).1

/-- With the times in order the samples are those of the pairs in the window. -/
theorem keptSamples_eq {history : List Snapshot} (h : Ordered Snapshot.tsNs history) :
    keptSamples cfg history = (recentPairs cfg history).map (pairSample cfg) := by
  have hpairs : Ordered OFISample.tsNs ((pairs history).map (pairSample cfg)) := by
    have htail : ((pairs history).map Prod.snd).Pairwise fun a b => a.tsNs ≤ b.tsNs := by
      rw [map_snd_pairs]
      exact List.Pairwise.sublist (List.tail_sublist history) h
    have hsecond := List.pairwise_map.mp htail
    exact List.pairwise_map.mpr hsecond
  rw [keptSamples, foldl_slide _ hpairs, window_map]
  rfl

theorem sampleValue_eq (pairs : List (Snapshot × Snapshot)) :
    sampleValue (pairs.map (pairSample cfg)) =
      if (pairs.map fun p => topDepth cfg p.2).sum / pairs.length > 1 / 1000000000 then
        (pairs.map fun p => loopContribution cfg p.1 p.2).sum /
          ((pairs.map fun p => topDepth cfg p.2).sum / pairs.length)
      else 0 := by
  rw [sampleValue, List.length_map, List.map_map, List.map_map]
  rfl

theorem returned_eq (history : List Snapshot) (s : Snapshot)
    (h : Ordered Snapshot.tsNs (history ++ [s])) :
    returned cfg history s =
      if windowDepth cfg (history ++ [s]) > 1 / 1000000000 then
        ((recentPairs cfg (history ++ [s])).map fun p => loopContribution cfg p.1 p.2).sum /
          windowDepth cfg (history ++ [s])
      else 0 := by
  have hkept : returned cfg history s = sampleValue (keptSamples cfg (history ++ [s])) := by
    rcases List.eq_nil_or_concat history with rfl | ⟨before, last, rfl⟩
    · -- the first book only warms the calculator up
      show (0 : ℚ) = sampleValue []
      simp [sampleValue]
    · rw [List.concat_eq_append]
      exact ((tracks_run before last).update s).2
  rw [hkept, keptSamples_eq h, sampleValue_eq]
  rfl

/-- **The value.** It is that of the window exactly when the depth there is negligible or what
vanished from the books of the window balances. -/
theorem update_eq_windowImbalance_iff (cfg : OFIConfig) (history : List Snapshot) (s : Snapshot)
    (h : Ordered Snapshot.tsNs (history ++ [s])) :
    returned cfg history s = windowImbalance cfg (history ++ [s]) ↔
      windowDepth cfg (history ++ [s]) ≤ 1 / 1000000000 ∨
        ((recentPairs cfg (history ++ [s])).map fun p => vanished cfg p.1 p.2).sum = 0 := by
  have hsum : ((recentPairs cfg (history ++ [s])).map fun p => pairContribution cfg p.1 p.2).sum =
      ((recentPairs cfg (history ++ [s])).map fun p => loopContribution cfg p.1 p.2).sum +
        ((recentPairs cfg (history ++ [s])).map fun p => vanished cfg p.1 p.2).sum := by
    rw [← List.sum_map_add]
    exact congrArg List.sum (List.map_congr_left fun p _ => pairContribution_eq p.1 p.2)
  rw [returned_eq history s h, windowImbalance]
  by_cases hdepth : windowDepth cfg (history ++ [s]) > 1 / 1000000000
  · have hpos : windowDepth cfg (history ++ [s]) ≠ 0 := by
      have : (0 : ℚ) < 1 / 1000000000 := by norm_num
      exact (this.trans hdepth).ne'
    rw [if_pos hdepth, if_pos hdepth, div_left_inj' hpos, hsum, left_eq_add]
    exact ⟨Or.inr, fun hor => hor.resolve_left (not_le.mpr hdepth)⟩
  · rw [if_neg hdepth, if_neg hdepth]
    exact iff_of_true rfl (Or.inl (not_lt.mp hdepth))

/-- Books on both sides of one level each. -/
theorem update_eq_windowImbalance_iff_flat :
    Ordered Snapshot.tsNs [⟨[(100, 1)], [(101, 1)], 1⟩, ⟨[(100, 3)], [(101, 1)], 2⟩] ∧
      (returned {} [⟨[(100, 1)], [(101, 1)], 1⟩] ⟨[(100, 3)], [(101, 1)], 2⟩ =
          windowImbalance {} [⟨[(100, 1)], [(101, 1)], 1⟩, ⟨[(100, 3)], [(101, 1)], 2⟩] ↔
        windowDepth {} [⟨[(100, 1)], [(101, 1)], 1⟩, ⟨[(100, 3)], [(101, 1)], 2⟩] ≤ 1 / 1000000000 ∨
          ((recentPairs {} [⟨[(100, 1)], [(101, 1)], 1⟩, ⟨[(100, 3)], [(101, 1)], 2⟩]).map
            fun p => vanished {} p.1 p.2).sum = 0) :=
  ⟨by decide, update_eq_windowImbalance_iff {} [⟨[(100, 1)], [(101, 1)], 1⟩]
    ⟨[(100, 3)], [(101, 1)], 2⟩ (by decide)⟩

/-- A second bid level disappears and is not counted: 0 for an imbalance of -3/2. -/
theorem update_shrinking_book :
    Ordered Snapshot.tsNs
        [⟨[(100, 1), (99, 6)], [(101, 1)], 1⟩, ⟨[(100, 1)], [(101, 1)], 2⟩] ∧
      returned {} [⟨[(100, 1), (99, 6)], [(101, 1)], 1⟩] ⟨[(100, 1)], [(101, 1)], 2⟩ = 0 ∧
      windowImbalance {} [⟨[(100, 1), (99, 6)], [(101, 1)], 1⟩, ⟨[(100, 1)], [(101, 1)], 2⟩] =
        -3 / 2 := by
  decide +kernel

end Run

end BptCore.Features.OFIWindow
