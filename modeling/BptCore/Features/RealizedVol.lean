import BptCore.Lib.Consecutive
import BptCore.Lib.Machine
import BptCore.Lib.RingLog
import BptCore.Messages
import Mathlib.Algebra.Order.Field.Rat
import Mathlib.Data.List.Chain

/-!
# The realized volatility estimator

Log-returns of sampled mid prices in a circular window, with their running sum and sum of
squares. The logarithm and the square root are those of the numeric library; the rest of the
arithmetic is exact. Over a whole sequence of prices, the ones it samples are what a run emits; the
returns are those between consecutive ones.

* **`RealizedVolEstimator.step`** — one price, which is sampled or not.
* **`RealizedVolEstimator.Tracks`** — the ring and its sums against the sampled prices.
* **`RealizedVolEstimator.goesBack`** — a price from before the last sample, whose age wraps around
  to a long one.
* **`RealizedVolEstimator.window_and_spacing_iff`** — the sums are always right; the samples are an
  interval apart exactly when no price goes back.
-/

namespace BptCore.Features

/-- `std::log` and `std::sqrt`. -/
structure Numerics where
  log : ℚ → ℚ
  sqrt : ℚ → ℚ

structure RealizedVolEstimator where
  windowSize : Nat
  minSamples : Nat
  sampleIntervalNs : Nat
  annualizationFactor : ℚ
  returns : List ℚ
  head : Nat := 0
  count : Nat := 0
  sum : ℚ := 0
  sumSq : ℚ := 0
  lastPrice : ℚ := 0
  lastSampleNs : Nat := 0
  deriving Repr

namespace RealizedVolEstimator

/-- `kSecondsPerYear`: 365.25 days of 24 hours. -/
def kSecondsPerYear : ℚ := 31557600

variable (num : Numerics)

/-- The constructor. -/
def new (windowSize sampleIntervalNs : Nat) : RealizedVolEstimator where
  windowSize := windowSize
  minSamples := windowSize / 2
  sampleIntervalNs := sampleIntervalNs
  annualizationFactor := num.sqrt (kSecondsPerYear / (sampleIntervalNs / 1000000000))
  returns := List.replicate windowSize 0

variable (rv : RealizedVolEstimator)

def ready : Prop := rv.count ≥ rv.minSamples

instance : Decidable rv.ready := inferInstanceAs (Decidable (_ ≥ _))

/-- One more log-return: a full window gives up its oldest. -/
def sample (logRet : ℚ) : RealizedVolEstimator :=
  let rv := if rv.count = rv.windowSize then
      let old := rv.returns.getD rv.head 0
      { rv with sum := rv.sum - old, sumSq := rv.sumSq - old * old }
    else { rv with count := rv.count + 1 }
  { rv with
    returns := rv.returns.set rv.head logRet
    sum := rv.sum + logRet
    sumSq := rv.sumSq + logRet * logRet
    head := (rv.head + 1) % rv.windowSize }

def update (midPrice : ℚ) (timestampNs : Nat) : RealizedVolEstimator :=
  if midPrice ≤ 0 then rv
  -- the first price only starts the clock
  else if rv.lastPrice ≤ 0 then { rv with lastPrice := midPrice, lastSampleNs := timestampNs }
  else if u64Sub timestampNs rv.lastSampleNs < rv.sampleIntervalNs then rv
  else
    { rv.sample (num.log (midPrice / rv.lastPrice)) with
      lastPrice := midPrice
      lastSampleNs := timestampNs }

def realizedVol : ℚ :=
  if rv.count < 2 then 0
  else
    let n : ℚ := rv.count
    let mean := rv.sum / n
    let variance := rv.sumSq / n - mean * mean
    num.sqrt (max variance 0) * rv.annualizationFactor

end RealizedVolEstimator

end BptCore.Features

namespace BptCore.Features.RealizedVolEstimator

/-! ## The window over a run -/

open Consecutive Machine RingLog

/-- A price that was sampled. -/
structure Point where
  tsNs : Nat
  price : ℚ
  deriving DecidableEq, Repr

variable (num : Numerics)

/-- The estimator takes a price as a sample: the first one, and every one that is due. -/
def takes (rv : RealizedVolEstimator) (u : ℚ × Nat) : Prop :=
  0 < u.1 ∧ (rv.lastPrice ≤ 0 ∨ rv.sampleIntervalNs ≤ u64Sub u.2 rv.lastSampleNs)

instance (rv : RealizedVolEstimator) (u : ℚ × Nat) : Decidable (takes rv u) :=
  inferInstanceAs (Decidable (_ ∧ _))

/-- One update, with the price that it samples. -/
def step (rv : RealizedVolEstimator) (u : ℚ × Nat) : RealizedVolEstimator × List Point :=
  (rv.update num u.1 u.2, if takes rv u then [⟨u.2, u.1⟩] else [])

/-- The logarithmic returns between sampled prices. -/
def logReturns (points : List Point) : List ℚ :=
  (pairs points).map fun p => num.log (p.2.price / p.1.price)

/-- The price comes from before the last sample, but its age as an unsigned number is at least the
interval. -/
def goesBack (rv : RealizedVolEstimator) (u : ℚ × Nat) : Prop :=
  0 < u.1 ∧ 0 < rv.lastPrice ∧ u.2 < rv.lastSampleNs ∧
    rv.lastSampleNs + rv.sampleIntervalNs ≤ u.2 + 2 ^ 64

instance (rv : RealizedVolEstimator) (u : ℚ × Nat) : Decidable (goesBack rv u) :=
  inferInstanceAs (Decidable (_ ∧ _))

/-! ## The ring -/

/-- The ring, its head, its count and its sums are those of the latest returns. -/
structure RingRight (rv : RealizedVolEstimator) (returns : List ℚ) : Prop where
  size : rv.returns.length = rv.windowSize
  holds : Holds 0 rv.returns returns
  head : rv.head = returns.length % rv.windowSize
  count : rv.count = min returns.length rv.windowSize
  sum : rv.sum = (latest rv.windowSize returns).sum
  sumSq : rv.sumSq = ((latest rv.windowSize returns).map fun r => r * r).sum

variable {num} {rv : RealizedVolEstimator} {returns : List ℚ}

theorem ringRight_new (windowSize sampleIntervalNs : Nat) :
    RingRight (new num windowSize sampleIntervalNs) [] where
  size := List.length_replicate
  holds := holds_replicate windowSize
  head := (Nat.zero_mod windowSize).symm
  count := (Nat.zero_min windowSize).symm
  sum := by simp [new, latest]
  sumSq := by simp [new, latest]

/-- One more return keeps the ring right, whether it was full or not. -/
theorem RingRight.sample (h : RingRight rv returns) (hwindow : 0 < rv.windowSize) (logRet : ℚ) :
    RingRight (rv.sample logRet) (returns ++ [logRet]) := by
  have hslots : 0 < rv.returns.length := by rw [h.size]; exact hwindow
  have hpush := h.holds.push hslots logRet
  rw [h.size, ← h.head] at hpush
  have hhead : (rv.head + 1) % rv.windowSize = (returns ++ [logRet]).length % rv.windowSize := by
    rw [h.head, List.length_append, List.length_singleton, Nat.mod_add_mod]
  by_cases hfull : rv.windowSize ≤ returns.length
  · -- the slot that is overwritten holds the oldest of the latest returns
    have hcount : rv.count = rv.windowSize := by rw [h.count, Nat.min_eq_right hfull]
    have holdest := h.holds.oldest hslots (by rw [h.size]; exact hfull)
    rw [h.size, ← h.head] at holdest
    have hlt : returns.length - rv.windowSize < returns.length := by omega
    have hold : returns[returns.length - rv.windowSize]? = some (rv.returns.getD rv.head 0) := by
      rw [List.getD_eq_getElem?_getD, holdest, List.getElem?_eq_getElem hlt]
      rfl
    have hsum := sum_latest_concat id hfull hold logRet
    have hsumSq := sum_latest_concat (fun r => r * r) hfull hold logRet
    rw [List.map_id, List.map_id] at hsum
    unfold RealizedVolEstimator.sample
    rw [if_pos hcount]
    refine ⟨?_, hpush, hhead, ?_, ?_, ?_⟩
    · exact List.length_set.trans h.size
    · show rv.count = min _ rv.windowSize
      rw [hcount, List.length_append]
      omega
    · show rv.sum - _ + logRet = (latest rv.windowSize _).sum
      rw [h.sum, hsum]
      rfl
    · show rv.sumSq - _ + _ = ((latest rv.windowSize _).map _).sum
      rw [h.sumSq, hsumSq]
  · have hlt : returns.length < rv.windowSize := Nat.lt_of_not_le hfull
    have hcount : rv.count = returns.length := by rw [h.count, Nat.min_eq_left hlt.le]
    have hroom : rv.count ≠ rv.windowSize := by omega
    have hlatest := latest_concat_of_lt hlt logRet
    unfold RealizedVolEstimator.sample
    rw [if_neg hroom]
    refine ⟨?_, hpush, hhead, ?_, ?_, ?_⟩
    · exact List.length_set.trans h.size
    · show rv.count + 1 = min _ rv.windowSize
      rw [hcount, List.length_append, List.length_singleton]
      omega
    · show rv.sum + logRet = (latest rv.windowSize _).sum
      rw [h.sum, hlatest, List.sum_append, List.sum_singleton]
    · show rv.sumSq + logRet * logRet = ((latest rv.windowSize _).map _).sum
      rw [h.sumSq, hlatest, List.map_append, List.sum_append, List.map_singleton,
        List.sum_singleton]

/-- The last price and its time are not of the ring. -/
theorem ringRight_of_same (h : RingRight rv returns) {price : ℚ} {ts : Nat} :
    RingRight { rv with lastPrice := price, lastSampleNs := ts } returns :=
  ⟨h.size, h.holds, h.head, h.count, h.sum, h.sumSq⟩

/-! ## The run -/

section Run

variable (num) (windowSize sampleIntervalNs : Nat)

/-- The last sampled price is the one that the estimator goes on from. -/
def LastIs (rv : RealizedVolEstimator) (points : List Point) : Prop :=
  match points.getLast? with
  | none => rv.lastPrice = 0
  | some p => 0 < p.price ∧ rv.lastPrice = p.price ∧ rv.lastSampleNs = p.tsNs

/-- The estimator against the prices that it sampled. -/
structure Tracks (rv : RealizedVolEstimator) (points : List Point) : Prop where
  window : rv.windowSize = windowSize
  interval : rv.sampleIntervalNs = sampleIntervalNs
  last : LastIs rv points
  ring : RingRight rv (logReturns num points)

variable {num windowSize sampleIntervalNs} {points : List Point}

theorem tracks_new : Tracks num windowSize sampleIntervalNs
    (new num windowSize sampleIntervalNs) [] where
  window := rfl
  interval := rfl
  last := rfl
  ring := ringRight_new windowSize sampleIntervalNs

theorem lastIs_concat {before : List Point} {p : Point} :
    LastIs rv (before ++ [p]) ↔
      0 < p.price ∧ rv.lastPrice = p.price ∧ rv.lastSampleNs = p.tsNs := by
  rw [LastIs, List.getLast?_concat]

/-- A price that is not sampled changes nothing. -/
theorem update_of_not_takes {u : ℚ × Nat} (h : ¬ takes rv u) : rv.update num u.1 u.2 = rv := by
  unfold RealizedVolEstimator.update
  by_cases hprice : u.1 ≤ 0
  · rw [if_pos hprice]
  · have hnot := not_and.mp h (not_le.mp hprice)
    obtain ⟨hstarted, hearly⟩ := not_or.mp hnot
    rw [if_neg hprice, if_neg hstarted, if_pos (Nat.lt_of_not_le hearly)]

theorem Tracks.step (h : Tracks num windowSize sampleIntervalNs rv points)
    (hwindow : 0 < windowSize) (u : ℚ × Nat) :
    Tracks num windowSize sampleIntervalNs (step num rv u).1
      (points ++ (RealizedVolEstimator.step num rv u).2) := by
  by_cases htakes : takes rv u
  · have hprice : ¬ u.1 ≤ 0 := not_le.mpr htakes.1
    unfold RealizedVolEstimator.step RealizedVolEstimator.update
    rw [if_pos htakes, if_neg hprice]
    rcases List.eq_nil_or_concat points with rfl | ⟨before, p, rfl⟩
    · -- the first price only starts the clock
      have hfresh : rv.lastPrice ≤ 0 := le_of_eq h.last
      rw [if_pos hfresh]
      have hlast : LastIs { rv with lastPrice := u.1, lastSampleNs := u.2 }
        [⟨u.2, u.1⟩] := ⟨htakes.1, rfl, rfl⟩
      exact ⟨h.window, h.interval, hlast, ringRight_of_same h.ring⟩
    · rw [List.concat_eq_append] at h ⊢
      have hp := lastIs_concat.mp h.last
      have hstarted : ¬ rv.lastPrice ≤ 0 := by
        rw [hp.2.1]
        exact not_le.mpr hp.1
      have hdue := htakes.2.resolve_left hstarted
      rw [if_neg hstarted, if_neg (Nat.not_lt.mpr hdue)]
      have hreturns : logReturns num (before ++ [p] ++ [⟨u.2, u.1⟩]) =
          logReturns num (before ++ [p]) ++ [num.log (u.1 / rv.lastPrice)] := by
        rw [logReturns, pairs_concat, List.map_append, hp.2.1]
        rfl
      have hring := h.ring.sample (by rw [h.window]; exact hwindow) (num.log (u.1 / rv.lastPrice))
      refine ⟨?_, ?_, ?_, ?_⟩
      · have hsame : (rv.sample (num.log (u.1 / rv.lastPrice))).windowSize = rv.windowSize := by
          unfold RealizedVolEstimator.sample
          split
          · rfl
          · rfl
        exact hsame.trans h.window
      · have hsame : (rv.sample (num.log (u.1 / rv.lastPrice))).sampleIntervalNs =
            rv.sampleIntervalNs := by
          unfold RealizedVolEstimator.sample
          split
          · rfl
          · rfl
        exact hsame.trans h.interval
      · exact lastIs_concat.mpr ⟨htakes.1, rfl, rfl⟩
      · rw [hreturns]
        exact ringRight_of_same hring
  · unfold RealizedVolEstimator.step
    rw [if_neg htakes, update_of_not_takes htakes, List.append_nil]
    exact h

/-- **The run.** The estimator goes along with the prices that it samples. -/
theorem tracks_exec (hwindow : 0 < windowSize) (updates : List (ℚ × Nat)) :
    Tracks num windowSize sampleIntervalNs
      (exec (step num) (new num windowSize sampleIntervalNs) updates)
      (outputs (step num) (new num windowSize sampleIntervalNs) updates) := by
  induction updates using List.reverseRecOn with
  | nil => exact tracks_new
  | append_singleton before u ih =>
    rw [exec_append, outputs_append, outputs, outputs, List.append_nil]
    exact ih.step hwindow u

/-- The samples are in order and an interval apart. -/
def Spaced (sampleIntervalNs : Nat) (points : List Point) : Prop :=
  points.IsChain fun a b => a.tsNs + sampleIntervalNs ≤ b.tsNs

instance (sampleIntervalNs : Nat) (points : List Point) :
    Decidable (Spaced sampleIntervalNs points) :=
  inferInstanceAs (Decidable (List.IsChain _ points))

/-- A step keeps the samples spaced exactly when its price does not go back. -/
theorem spaced_step_iff (h : Tracks num windowSize sampleIntervalNs rv points)
    (hinterval : 0 < sampleIntervalNs) {u : ℚ × Nat} (htime : u.2 < 2 ^ 64) :
    Spaced sampleIntervalNs (points ++ (RealizedVolEstimator.step num rv u).2) ↔
      Spaced sampleIntervalNs points ∧ ¬ goesBack rv u := by
  by_cases htakes : takes rv u
  · have hemits : (RealizedVolEstimator.step num rv u).2 = [⟨u.2, u.1⟩] := if_pos htakes
    rw [hemits]
    rcases List.eq_nil_or_concat points with rfl | ⟨before, p, rfl⟩
    · have hfresh : rv.lastPrice = 0 := h.last
      refine iff_of_true (List.isChain_singleton _) ⟨List.isChain_nil, fun hback => ?_⟩
      exact absurd hback.2.1 (hfresh ▸ lt_irrefl _)
    · rw [List.concat_eq_append] at h ⊢
      have hp := lastIs_concat.mp h.last
      have hstarted : ¬ rv.lastPrice ≤ 0 := by
        rw [hp.2.1]
        exact not_le.mpr hp.1
      have hdue := htakes.2.resolve_left hstarted
      rw [h.interval, hp.2.2] at hdue
      have hback : goesBack rv u ↔ ¬ p.tsNs + sampleIntervalNs ≤ u.2 := by
        rw [goesBack, h.interval, hp.2.2]
        rcases Nat.lt_or_ge u.2 p.tsNs with hearlier | hlater
        · unfold u64Sub at hdue
          exact iff_of_true ⟨htakes.1, not_le.mp hstarted, hearlier, by omega⟩ (by omega)
        · rw [u64Sub_of_le htime hlater] at hdue
          exact iff_of_false (fun hback => by omega) (by omega)
      rw [hback, not_not, Spaced, List.isChain_append]
      simp [Spaced]
  · have hemits : (RealizedVolEstimator.step num rv u).2 = [] := if_neg htakes
    have hback : ¬ goesBack rv u := by
      rintro ⟨hprice, hstarted, hearlier, hwraps⟩
      refine htakes ⟨hprice, Or.inr ?_⟩
      unfold u64Sub
      omega
    rw [hemits, List.append_nil]
    exact (and_iff_left hback).symm

/-- The samples of a run are spaced exactly when none of its prices goes back. -/
theorem spaced_iff (hwindow : 0 < windowSize) (hinterval : 0 < sampleIntervalNs)
    {updates : List (ℚ × Nat)} (htimes : ∀ u ∈ updates, u.2 < 2 ^ 64) :
    Spaced sampleIntervalNs (outputs (RealizedVolEstimator.step num)
        (new num windowSize sampleIntervalNs) updates) ↔
      AlongRun (RealizedVolEstimator.step num) (fun rv u => ¬ goesBack rv u)
        (new num windowSize sampleIntervalNs) updates := by
  induction updates using List.reverseRecOn with
  | nil => exact iff_of_true List.isChain_nil trivial
  | append_singleton before u ih =>
    have htracks : Tracks num windowSize sampleIntervalNs _ _ := tracks_exec hwindow before
    have htime : u.2 < 2 ^ 64 := htimes u (by simp)
    rw [outputs_append, outputs, outputs, List.append_nil, spaced_step_iff htracks hinterval htime,
      alongRun_append, ih fun v hv => htimes v (List.mem_append_left _ hv)]
    exact and_congr_right fun _ => (and_iff_left trivial).symm

end Run

/-- **The estimator.** Its count and sums are always those of the latest returns; its samples are in
order and an interval apart exactly when no price goes back. -/
theorem window_and_spacing_iff (num : Numerics) (windowSize sampleIntervalNs : Nat)
    (updates : List (ℚ × Nat)) (hwindow : 0 < windowSize) (hinterval : 0 < sampleIntervalNs)
    (htimes : ∀ u ∈ updates, u.2 < 2 ^ 64) :
    let start := new num windowSize sampleIntervalNs
    let rv := exec (step num) start updates
    let points := outputs (step num) start updates
    let returns := latest windowSize (logReturns num points)
    (rv.count = returns.length ∧ rv.sum = returns.sum ∧
        rv.sumSq = (returns.map fun r => r * r).sum) ∧ Spaced sampleIntervalNs points ↔
      AlongRun (step num) (fun rv u => ¬ goesBack rv u) start updates := by
  intro start rv points returns
  have htracks : Tracks num windowSize sampleIntervalNs _ _ := tracks_exec hwindow updates
  have hring := htracks.ring
  have hright : rv.count = returns.length ∧ rv.sum = returns.sum ∧
      rv.sumSq = (returns.map fun r => r * r).sum := by
    refine ⟨?_, ?_, ?_⟩
    · rw [length_latest, ← htracks.window]
      exact hring.count
    · show rv.sum = (latest windowSize _).sum
      rw [← htracks.window]
      exact hring.sum
    · show rv.sumSq = ((latest windowSize _).map _).sum
      rw [← htracks.window]
      exact hring.sumSq
  exact (and_iff_right hright).trans (spaced_iff hwindow hinterval htimes)

/-- A window of two returns and one more price than it holds. -/
theorem window_and_spacing_iff_full :
    let num : Numerics := ⟨fun x => x - 1, fun x => x⟩
    let updates : List (ℚ × Nat) := [(100, 10), (101, 20), (102, 25), (103, 30), (104, 40)]
    let start := new num 2 10
    let rv := exec (step num) start updates
    let points := outputs (step num) start updates
    let returns := latest 2 (logReturns num points)
    (rv.count = returns.length ∧ rv.sum = returns.sum ∧
        rv.sumSq = (returns.map fun r => r * r).sum) ∧ Spaced 10 points ↔
      AlongRun (step num) (fun rv u => ¬ goesBack rv u) start updates :=
  window_and_spacing_iff ⟨fun x => x - 1, fun x => x⟩ 2 10
    [(100, 10), (101, 20), (102, 25), (103, 30), (104, 40)] (by decide) (by decide) (by decide)

/-- A price from before the last sample is sampled at once. -/
theorem spaced_goes_back :
    ¬ Spaced 10 (outputs (step ⟨fun x => x - 1, fun x => x⟩)
      (new ⟨fun x => x - 1, fun x => x⟩ 2 10) [(100, 20), (101, 15)]) := by
  decide +kernel

end BptCore.Features.RealizedVolEstimator
