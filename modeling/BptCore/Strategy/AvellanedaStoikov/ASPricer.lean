import BptCore.Features.Ewma
import BptCore.Features.RegimeDetector
import BptCore.Strategy.AvellanedaStoikov.InstrumentState
import Mathlib.Tactic.Linarith
import Mathlib.Tactic.NormNum

/-!
# The Avellaneda-Stoikov pricer

The reservation price and the spread around it, with what bounds them: the floor and the cap of the
half-spread, the clamps that keep the quotes passive, and the sanity check. The logarithm and the
square root are those of the numeric library; the rest of the arithmetic is exact.

* **`halfSpread`** — the formula between its floor and its cap; the cap has the last word.
* **`clampPassive`**, **`sane`** — the clamps, and the check behind them.
* **`evaluate`** — the quotes, when there are some.
* **`evaluate_passive`** — what every pair of quotes keeps.
-/

namespace BptCore.Strategy.AvellanedaStoikov.ASPricer

open BptCore.Features

structure Config where
  gamma : ℚ := 1 / 10
  kappa : ℚ := 15 / 10
  sessionDurationS : ℚ := 86400
  maxInventory : ℚ := 1 / 10
  volWarmupTicks : Nat := 20
  kappaWarmupTicks : Nat := 10
  kappaMin : ℚ := 1 / 100
  driftWarmupTicks : Nat := 50
  minHalfSpreadBps : ℚ := 1
  maxHalfSpreadBps : ℚ := 50
  quoteSanityBps : ℚ := 5000
  maxDriftSkewBps : ℚ := 10
  ofiWeightBps : ℚ := 0
  imbalanceWeightBps : ℚ := 0
  gammaPnlWindowN : Nat := 0
  gammaPnlLossThresholdUsd : ℚ := 0
  gammaPnlProfitThresholdUsd : ℚ := 0
  gammaPnlWidenMult : ℚ := 1
  gammaPnlTightenMult : ℚ := 1

/-- What the pricer reads of an instrument's state. -/
structure MarketState where
  ewmaVar : EwmaVariance
  ewmaDrift : EwmaDrift
  ewmaKappa : KappaEstimator
  regime : RegimeDetector := {}
  recentRpnl : List ℚ := []
  sessionStartNs : Nat := 0
  /-- `ofi.value()`. -/
  ofiValue : ℚ := 0
  bestBidQty : ℚ := 0
  bestAskQty : ℚ := 0
  tickSize : ℚ
  lastMarketBid : ℚ
  lastMarketAsk : ℚ
  lastMid : ℚ

structure BboContext where
  netQty : ℚ
  mid : ℚ
  tsNs : Nat

variable (num : Numerics) (cfg : Config) (st : MarketState) (ctx : BboContext)
  (feeHalfSpread : ℚ)

/-! ## The reservation price -/

def gammaPnlMult : ℚ :=
  if cfg.gammaPnlWindowN = 0 ∨ st.recentRpnl = [] then 1
  else
    let sum := st.recentRpnl.sum
    if sum < cfg.gammaPnlLossThresholdUsd then cfg.gammaPnlWidenMult
    else if sum > cfg.gammaPnlProfitThresholdUsd then cfg.gammaPnlTightenMult
    else 1

/-- `T_minus_t`. -/
def timeLeftS : ℚ := max 0 (cfg.sessionDurationS - secondsOfNs (u64Sub ctx.tsNs st.sessionStartNs))

def effectiveGamma : ℚ := cfg.gamma * st.regime.gammaMultiplier * gammaPnlMult cfg st

/-- `gamma_sigma_sq_T`. -/
def riskTerm : ℚ := effectiveGamma cfg st * st.ewmaVar.value * timeLeftS cfg st ctx

/-- `std::clamp`. -/
def clamp (x lo hi : ℚ) : ℚ := if x < lo then lo else if hi < x then hi else x

def inventorySkewFrac : ℚ :=
  let qNorm := if cfg.maxInventory > 0 then clamp (ctx.netQty / cfg.maxInventory) (-1) 1 else 0
  qNorm * riskTerm cfg st ctx

def driftSkewFrac : ℚ :=
  let skew :=
    if st.ewmaDrift.count ≥ cfg.driftWarmupTicks then
      st.ewmaDrift.value * num.sqrt (timeLeftS cfg st ctx)
    else 0
  if cfg.maxDriftSkewBps > 0 then
    let cap := cfg.maxDriftSkewBps / 10000
    clamp skew (-cap) cap
  else skew

def bookImbalanceSkewFrac : ℚ :=
  if cfg.imbalanceWeightBps ≠ 0 then
    let denom := st.bestBidQty + st.bestAskQty
    if denom > 0 then
      cfg.imbalanceWeightBps / 10000 * (st.bestBidQty - st.bestAskQty) / denom
    else 0
  else 0

def reservation : ℚ :=
  let ofiSkewFrac := cfg.ofiWeightBps / 10000 * st.ofiValue
  ctx.mid *
    (1 + driftSkewFrac num cfg st ctx + ofiSkewFrac + bookImbalanceSkewFrac cfg st -
      inventorySkewFrac cfg st ctx)

/-! ## The spread -/

def kappaNow : ℚ :=
  if st.ewmaKappa.count ≥ cfg.kappaWarmupTicks then max cfg.kappaMin st.ewmaKappa.value
  else cfg.kappa

/-- Each half of the spread is to cover a maker fee. -/
def minHalfSpread : ℚ := max (cfg.minHalfSpreadBps / 10000 * ctx.mid) feeHalfSpread

def rawHalfSpread : ℚ :=
  let gamma := effectiveGamma cfg st
  max (minHalfSpread cfg ctx feeHalfSpread)
    (riskTerm cfg st ctx / 2 + 1 / gamma * num.log (1 + gamma / kappaNow cfg st))

def maxHalfSpread : ℚ := cfg.maxHalfSpreadBps / 10000 * ctx.mid

/-- The cap comes after the floor. -/
def halfSpread : ℚ :=
  if rawHalfSpread num cfg st ctx feeHalfSpread > maxHalfSpread cfg ctx then maxHalfSpread cfg ctx
  else rawHalfSpread num cfg st ctx feeHalfSpread

/-! ## The quotes -/

/-- The clamps inside the best bid and offer; crossed quotes are dropped. -/
def clampPassive (bid ask : ℚ) : Option QuoteTarget :=
  if st.tickSize > 0 ∧ st.lastMarketBid > 0 ∧ st.lastMarketAsk > 0 then
    let bid := if bid > st.lastMarketAsk - st.tickSize then st.lastMarketAsk - st.tickSize else bid
    let ask := if ask < st.lastMarketBid + st.tickSize then st.lastMarketBid + st.tickSize else ask
    if bid ≥ ask then none else some ⟨bid, ask⟩
  else some ⟨bid, ask⟩

/-- A check that can be switched off. -/
def sane (quotes : QuoteTarget) : Bool :=
  if st.lastMid > 0 ∧ cfg.quoteSanityBps > 0 then
    let bound := st.lastMid * (cfg.quoteSanityBps / 10000)
    !(quotes.bid < st.lastMid - bound ∨ quotes.ask > st.lastMid + bound ∨ quotes.bid ≤ 0)
  else true

def evaluate : Option QuoteTarget :=
  if st.ewmaVar.count < cfg.volWarmupTicks then none
  else if st.ewmaVar.value ≤ 0 then none
  else
    let center := reservation num cfg st ctx
    let half := halfSpread num cfg st ctx feeHalfSpread
    (clampPassive st (center - half) (center + half)).filter (sane cfg st)

/-! ## What the quotes keep -/

variable {num cfg st ctx feeHalfSpread}

theorem evaluate_eq_some {quotes : QuoteTarget}
    (h : evaluate num cfg st ctx feeHalfSpread = some quotes) :
    clampPassive st (reservation num cfg st ctx - halfSpread num cfg st ctx feeHalfSpread)
        (reservation num cfg st ctx + halfSpread num cfg st ctx feeHalfSpread) = some quotes ∧
      sane cfg st quotes = true := by
  unfold evaluate at h
  split at h
  · cases h
  · split at h
    · cases h
    · exact Option.filter_eq_some_iff.mp h

/-- **The clamps.** They only move the quotes apart, to where they are passive and not crossed. -/
theorem clampPassive_spec {bid ask : ℚ} {quotes : QuoteTarget} (htick : 0 < st.tickSize)
    (hbid : 0 < st.lastMarketBid) (hask : 0 < st.lastMarketAsk)
    (h : clampPassive st bid ask = some quotes) :
    quotes.bid ≤ st.lastMarketAsk - st.tickSize ∧ st.lastMarketBid + st.tickSize ≤ quotes.ask ∧
      quotes.bid < quotes.ask ∧ quotes.bid ≤ bid ∧ ask ≤ quotes.ask := by
  unfold clampPassive at h
  rw [if_pos ⟨htick, hbid, hask⟩] at h
  obtain ⟨hcrossed, hsome⟩ := Option.ite_none_left_eq_some.mp h
  -- the comparisons of the code are a minimum and a maximum
  have hmin : (if bid > st.lastMarketAsk - st.tickSize then st.lastMarketAsk - st.tickSize
      else bid) = min bid (st.lastMarketAsk - st.tickSize) := by
    rw [min_def]
    split <;> split <;> linarith
  have hmax : (if ask < st.lastMarketBid + st.tickSize then st.lastMarketBid + st.tickSize
      else ask) = max ask (st.lastMarketBid + st.tickSize) := by
    rw [max_def]
    split <;> split <;> linarith
  rw [hmin, hmax] at hcrossed hsome
  obtain rfl := Option.some.inj hsome
  exact ⟨min_le_right _ _, le_max_right _ _, not_le.mp hcrossed, min_le_left _ _, le_max_left _ _⟩

/-- The sanity check refuses a bid that is not positive. -/
theorem pos_of_sane {quotes : QuoteTarget} (h : sane cfg st quotes = true) (hmid : 0 < st.lastMid)
    (hon : 0 < cfg.quoteSanityBps) : 0 < quotes.bid := by
  unfold sane at h
  rw [if_pos ⟨hmid, hon⟩] at h
  simp only [Bool.not_eq_true', decide_eq_false_iff_not, not_or, not_le] at h
  exact h.2.2

/-- The half-spread covers the fee when the cap lets it. -/
theorem fee_le_halfSpread (hcap : feeHalfSpread ≤ maxHalfSpread cfg ctx) :
    feeHalfSpread ≤ halfSpread num cfg st ctx feeHalfSpread := by
  unfold halfSpread
  split
  · exact hcap
  · exact (le_max_right _ _).trans (le_max_left _ _)

/-- **The quotes.** They are passive and not crossed; the bid is positive as long as the sanity
check is on, and the spread covers the fees as long as its cap does. -/
theorem evaluate_passive (num : Numerics) (cfg : Config) (st : MarketState) (ctx : BboContext)
    (feeHalfSpread : ℚ) (quotes : QuoteTarget)
    (h : evaluate num cfg st ctx feeHalfSpread = some quotes) (htick : 0 < st.tickSize)
    (hbid : 0 < st.lastMarketBid) (hask : 0 < st.lastMarketAsk) :
    quotes.bid ≤ st.lastMarketAsk - st.tickSize ∧ st.lastMarketBid + st.tickSize ≤ quotes.ask ∧
      quotes.bid < quotes.ask ∧
      (0 < cfg.quoteSanityBps → 0 < st.lastMid → 0 < quotes.bid) ∧
      (feeHalfSpread ≤ cfg.maxHalfSpreadBps / 10000 * ctx.mid →
        2 * feeHalfSpread ≤ quotes.ask - quotes.bid) := by
  obtain ⟨hclamped, hsane⟩ := evaluate_eq_some h
  obtain ⟨hpassiveBid, hpassiveAsk, hcrossed, hlow, hhigh⟩ :=
    clampPassive_spec htick hbid hask hclamped
  refine ⟨hpassiveBid, hpassiveAsk, hcrossed, fun hon hmid => pos_of_sane hsane hmid hon, ?_⟩
  intro hcap
  have hhalf : feeHalfSpread ≤ halfSpread num cfg st ctx feeHalfSpread := fee_le_halfSpread hcap
  linarith

section Runs

/-- An instrument of tick 0.01, at 99.99 to 100.01, with a variance of 1 per second. -/
def volatileMarket : MarketState where
  ewmaVar := { ewma := { halflifeS := 60, value := 1, count := 20 }, lastMid := 100 }
  ewmaDrift := { ewma := { halflifeS := 60 } }
  ewmaKappa := { ewma := { halflifeS := 60 } }
  tickSize := 1 / 100
  lastMarketBid := 9999 / 100
  lastMarketAsk := 10001 / 100
  lastMid := 100

/-- The same with next to no variance. -/
def calmMarket : MarketState :=
  { volatileMarket with
    ewmaVar := { ewma := { halflifeS := 60, value := 1 / 1000000000000, count := 20 } } }

/-- A logarithm and a square root that are easy to compute. -/
def plainNumerics : Numerics := ⟨fun x => x - 1, fun x => x⟩

theorem evaluate_passive_calm :
    evaluate plainNumerics {} calmMarket ⟨0, 100, 0⟩ (1 / 50) = some ⟨199 / 2, 201 / 2⟩ ∧
      ((199 / 2 : ℚ) ≤ 10001 / 100 - 1 / 100 ∧ (9999 / 100 : ℚ) + 1 / 100 ≤ 201 / 2 ∧
        (199 / 2 : ℚ) < 201 / 2 ∧
        ((0 : ℚ) < 5000 → (0 : ℚ) < 100 → (0 : ℚ) < 199 / 2) ∧
        ((1 / 50 : ℚ) ≤ 50 / 10000 * 100 → 2 * (1 / 50 : ℚ) ≤ 201 / 2 - 199 / 2)) := by
  have hquotes :
      evaluate plainNumerics {} calmMarket ⟨0, 100, 0⟩ (1 / 50) = some ⟨199 / 2, 201 / 2⟩ := by
    decide +kernel
  exact ⟨hquotes, evaluate_passive plainNumerics {} calmMarket ⟨0, 100, 0⟩ (1 / 50)
    ⟨199 / 2, 201 / 2⟩ hquotes (by decide +kernel) (by decide +kernel) (by decide +kernel)⟩

/-- Without the sanity check a full inventory takes the bid below zero; and a cap of 1 bps undoes
the floor that a fee of 2 bps sets. -/
theorem evaluate_unbounded :
    (∃ quotes, evaluate plainNumerics { quoteSanityBps := 0 } volatileMarket
      ⟨1 / 10, 100, 0⟩ 0 = some quotes ∧ quotes.bid ≤ 0) ∧
    ∃ quotes, evaluate plainNumerics { maxHalfSpreadBps := 1 } calmMarket
      ⟨0, 100, 0⟩ (1 / 50) = some quotes ∧ quotes.ask - quotes.bid < 2 * (1 / 50) := by
  refine ⟨⟨⟨-863900 - 1 / 2, 100⟩, ?_, ?_⟩, ⟨⟨9999 / 100, 10001 / 100⟩, ?_, ?_⟩⟩
  · decide +kernel
  · decide +kernel
  · decide +kernel
  · decide +kernel

end Runs

end BptCore.Strategy.AvellanedaStoikov.ASPricer
