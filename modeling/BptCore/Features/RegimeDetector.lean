import BptCore.Features.RealizedVol
import Mathlib.Algebra.Order.Field.Rat

/-!
# The regime detector

`RegimeDetector` classifies a market by the Hurst exponent of its latest returns, with a hysteresis,
and looks at it anew every few ticks. The exponent is the rescaled range of a series of returns, over
one window or by a regression over several. The logarithm and the square root are those of the
numeric library; the rest of the arithmetic is exact.

* **`computeHurst`** — over one window.
* **`computeHurstMultiWindow`** — the slope over windows of 8, 16, 32, … returns.
* **`computeHurstMultiWindow_mem`** — it is from 0 to 1.
* **`RegimeDetector.update`** — one mid.
* **`snapshotState`**, **`restoreState`** — what is saved of it.
* **`restoreState_snapshotState`** — a detector of the same configuration takes everything over.
-/

namespace BptCore.Features

/-! ## The Hurst exponent -/

section Hurst

variable (num : Numerics)

/-- `1e-15`, below which a range or a deviation is none. -/
def kDegenerate : ℚ := 1 / 1000000000000000

/-- The cumulative deviations with their extremes, and the sum of the squares. -/
structure Deviations where
  cum : ℚ := 0
  maxCum : ℚ := -1000000000000000000000000000000
  minCum : ℚ := 1000000000000000000000000000000
  sqSum : ℚ := 0

def Deviations.push (d : Deviations) (dev : ℚ) : Deviations :=
  let cum := d.cum + dev
  { cum := cum
    maxCum := if cum > d.maxCum then cum else d.maxCum
    minCum := if cum < d.minCum then cum else d.minCum
    sqSum := d.sqSum + dev * dev }

/-- The range of the cumulative deviations of a series, and its standard deviation. -/
def rangeAndDeviation (returns : List ℚ) : ℚ × ℚ :=
  let n : ℚ := returns.length
  let mean := returns.sum / n
  let d := returns.foldl (fun d x => d.push (x - mean)) ({} : Deviations)
  (d.maxCum - d.minCum, num.sqrt (d.sqSum / n))

/-- `std::clamp(h, 0.0, 1.0)`. -/
def clampUnit (h : ℚ) : ℚ := if h < 0 then 0 else if h > 1 then 1 else h

def computeHurst (returns : List ℚ) (maxWindow : Nat) : ℚ :=
  let n := min returns.length maxWindow
  if n < 20 then 1 / 2
  else
    let rs := rangeAndDeviation num (returns.take n)
    if rs.2 < kDegenerate ∨ rs.1 < kDegenerate then 1 / 2
    else clampUnit (num.log (rs.1 / rs.2) / num.log n)

/-- The sums of the regression. -/
structure Regression where
  sumX : ℚ := 0
  sumY : ℚ := 0
  sumXX : ℚ := 0
  sumXY : ℚ := 0
  numPoints : Nat := 0

def Regression.push (r : Regression) (x y : ℚ) : Regression where
  sumX := r.sumX + x
  sumY := r.sumY + y
  sumXX := r.sumXX + x * x
  sumXY := r.sumXY + x * y
  numPoints := r.numPoints + 1

/-- The window sizes: the powers of two from 8 to half of `n`. -/
def windowSizes (n : Nat) : List Nat :=
  ((List.range n).map fun i => 8 * 2 ^ i).takeWhile (· ≤ n / 2)

/-- The quotients of the chunks of a size that have one. -/
def chunkQuotients (returns : List ℚ) (win : Nat) : List ℚ :=
  (List.range (returns.length / win)).filterMap fun c =>
    let rs := rangeAndDeviation num ((returns.drop (c * win)).take win)
    if rs.2 > kDegenerate ∧ rs.1 > kDegenerate then some (rs.1 / rs.2) else none

/-- One window size: a point of the regression, if some chunk has a quotient. -/
def regress (returns : List ℚ) (r : Regression) (win : Nat) : Regression :=
  let quotients := chunkQuotients num returns win
  if quotients = [] then r
  else r.push (num.log win) (num.log (quotients.sum / quotients.length))

def computeHurstMultiWindow (returns : List ℚ) (maxWindow : Nat) : ℚ :=
  let n := min returns.length maxWindow
  if n < 20 then 1 / 2
  else
    let r := (windowSizes n).foldl (regress num (returns.take n)) {}
    -- too few points for a slope
    if r.numPoints < 2 then computeHurst num returns maxWindow
    else
      let denom := r.numPoints * r.sumXX - r.sumX * r.sumX
      if |denom| < kDegenerate then 1 / 2
      else clampUnit ((r.numPoints * r.sumXY - r.sumX * r.sumY) / denom)

/-! ## The range of the exponent -/

theorem clampUnit_mem (h : ℚ) : 0 ≤ clampUnit h ∧ clampUnit h ≤ 1 := by
  unfold clampUnit
  split
  · exact ⟨le_rfl, zero_le_one⟩
  · next hpos =>
    split
    · exact ⟨zero_le_one, le_rfl⟩
    · next hle => exact ⟨not_lt.mp hpos, not_lt.mp hle⟩

theorem half_mem : (0 : ℚ) ≤ 1 / 2 ∧ (1 / 2 : ℚ) ≤ 1 := by decide +kernel

theorem computeHurst_mem (returns : List ℚ) (maxWindow : Nat) :
    0 ≤ computeHurst num returns maxWindow ∧ computeHurst num returns maxWindow ≤ 1 := by
  unfold computeHurst
  dsimp only
  split
  · exact half_mem
  · split
    · exact half_mem
    · exact clampUnit_mem _

/-- Whatever the returns, the exponent is one. -/
theorem computeHurstMultiWindow_mem (returns : List ℚ) (maxWindow : Nat) :
    0 ≤ computeHurstMultiWindow num returns maxWindow ∧
      computeHurstMultiWindow num returns maxWindow ≤ 1 := by
  unfold computeHurstMultiWindow
  dsimp only
  split
  · exact half_mem
  · split
    · exact computeHurst_mem num returns maxWindow
    · split
      · exact half_mem
      · exact clampUnit_mem _

end Hurst

/-! ## The detector -/

/-- The regime, as the byte of its enumeration: a load casts any number to it. -/
structure Regime where
  code : UInt8
  deriving DecidableEq, Repr

namespace Regime

def WARMING_UP : Regime := ⟨0⟩
def MEAN_REVERT : Regime := ⟨1⟩
def NEUTRAL : Regime := ⟨2⟩
def TRENDING : Regime := ⟨3⟩

/-- `static_cast<int>` and back. -/
def toInt (r : Regime) : Int := r.code.toNat

def ofInt (n : Int) : Regime := ⟨UInt8.ofNat (n % 256).toNat⟩

theorem ofInt_toInt (r : Regime) : ofInt r.toInt = r := by
  have hlt : r.code.toNat < 256 := r.code.toNat_lt
  have hmod : ((r.code.toNat : Int) % 256).toNat = r.code.toNat := by omega
  rw [ofInt, toInt, hmod, UInt8.ofNat_toNat]

end Regime

structure RegimeConfig where
  meanRevertThreshold : ℚ := 45 / 100
  trendThreshold : ℚ := 55 / 100
  hysteresis : ℚ := 3 / 100
  hurstWindow : Nat := 200
  warmupSamples : Nat := 50
  gammaMultMeanRevert : ℚ := 6 / 10
  gammaMultNeutral : ℚ := 1
  gammaMultTrending : ℚ := 18 / 10
  evalInterval : Nat := 20
  deriving DecidableEq, Repr

structure RegimeDetector where
  cfg : RegimeConfig := {}
  regime : Regime := .WARMING_UP
  hurst : ℚ := 1 / 2
  lastMid : ℚ := 0
  returns : List ℚ := []
  tickCount : Nat := 0
  deriving DecidableEq, Repr

/-- `StateSnapshot`. -/
structure RegimeDetector.StateSnapshot where
  regime : Regime
  hurst : ℚ
  lastMid : ℚ
  returns : List ℚ
  tickCount : Nat

namespace RegimeDetector

variable (num : Numerics) (d : RegimeDetector)

/-- It takes more to leave a regime than to enter it. -/
def classify (hurst : ℚ) : Regime :=
  if d.regime = .MEAN_REVERT then
    if hurst > d.cfg.trendThreshold then .TRENDING
    else if hurst > d.cfg.meanRevertThreshold + d.cfg.hysteresis then .NEUTRAL
    else .MEAN_REVERT
  else if d.regime = .TRENDING then
    if hurst < d.cfg.meanRevertThreshold then .MEAN_REVERT
    else if hurst < d.cfg.trendThreshold - d.cfg.hysteresis then .NEUTRAL
    else .TRENDING
  else if hurst < d.cfg.meanRevertThreshold then .MEAN_REVERT
  else if hurst > d.cfg.trendThreshold then .TRENDING
  else .NEUTRAL

/-- One more return in the window. -/
def pushReturn (logRet : ℚ) : RegimeDetector :=
  let returns := d.returns ++ [logRet]
  { d with returns := if returns.length > d.cfg.hurstWindow then returns.tail else returns }

/-- A tick with its return, if there is a mid before it. -/
def observe (mid : ℚ) : RegimeDetector :=
  let d := if d.lastMid > 0 then d.pushReturn (num.log (mid / d.lastMid)) else d
  { d with lastMid := mid, tickCount := d.tickCount + 1 }

/-- The exponent is computed anew, and the regime with it. -/
def evaluate : RegimeDetector :=
  let hurst := computeHurstMultiWindow num d.returns d.returns.length
  { d with hurst := hurst, regime := d.classify hurst }

def update (mid : ℚ) : RegimeDetector :=
  if mid ≤ 0 then d
  else
    let d := d.observe num mid
    if d.tickCount % d.cfg.evalInterval ≠ 0 then d
    else if d.returns.length < d.cfg.warmupSamples then d
    else d.evaluate num

/-- What falls under no case of the enumeration is multiplied by 1. -/
def gammaMultiplier : ℚ :=
  if d.regime = .MEAN_REVERT then d.cfg.gammaMultMeanRevert
  else if d.regime = .TRENDING then d.cfg.gammaMultTrending
  else if d.regime = .NEUTRAL ∨ d.regime = .WARMING_UP then d.cfg.gammaMultNeutral
  else 1

def snapshotState : StateSnapshot where
  regime := d.regime
  hurst := d.hurst
  lastMid := d.lastMid
  returns := d.returns
  tickCount := d.tickCount

/-- Of too many returns the latest are kept. -/
def restoreState (snap : StateSnapshot) : RegimeDetector :=
  { d with
    regime := snap.regime
    hurst := snap.hurst
    lastMid := snap.lastMid
    tickCount := snap.tickCount
    returns := snap.returns.drop (snap.returns.length - d.cfg.hurstWindow) }

/-! ## The window of returns -/

theorem length_pushReturn (h : d.returns.length ≤ d.cfg.hurstWindow) (logRet : ℚ) :
    (d.pushReturn logRet).returns.length ≤ d.cfg.hurstWindow := by
  unfold pushReturn
  dsimp only
  split
  · rw [List.length_tail, List.length_append, List.length_singleton]
    omega
  · omega

theorem length_observe (h : d.returns.length ≤ d.cfg.hurstWindow) (mid : ℚ) :
    (d.observe num mid).cfg = d.cfg ∧ (d.observe num mid).returns.length ≤ d.cfg.hurstWindow := by
  unfold observe
  by_cases hlast : d.lastMid > 0
  · rw [if_pos hlast]
    exact ⟨rfl, d.length_pushReturn h _⟩
  · rw [if_neg hlast]
    exact ⟨rfl, h⟩

/-- The window never holds more than its size. -/
theorem length_update (h : d.returns.length ≤ d.cfg.hurstWindow) (mid : ℚ) :
    (d.update num mid).cfg = d.cfg ∧ (d.update num mid).returns.length ≤ d.cfg.hurstWindow := by
  have hobserve := d.length_observe num h mid
  unfold update
  split
  · exact ⟨rfl, h⟩
  · dsimp only
    split
    · exact hobserve
    · split
      · exact hobserve
      · exact hobserve

theorem length_restoreState (snap : StateSnapshot) :
    (d.restoreState snap).returns.length ≤ d.cfg.hurstWindow := by
  unfold restoreState
  rw [List.length_drop]
  omega

/-- **A detector of the same configuration takes everything over.** -/
theorem restoreState_snapshotState {d d' : RegimeDetector} (hcfg : d.cfg = d'.cfg)
    (h : d'.returns.length ≤ d'.cfg.hurstWindow) : d.restoreState d'.snapshotState = d' := by
  have hdrop : d'.returns.drop (d'.returns.length - d.cfg.hurstWindow) = d'.returns := by
    rw [hcfg, Nat.sub_eq_zero_of_le h, List.drop_zero]
  unfold restoreState snapshotState
  dsimp only
  rw [hdrop, hcfg]

end RegimeDetector

end BptCore.Features
