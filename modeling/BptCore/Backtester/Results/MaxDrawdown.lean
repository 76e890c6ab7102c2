import BptCore.Backtester.Results.ResultsCollector
import BptCore.Lib.Drawdown
import Mathlib.Algebra.Order.Field.Basic

/-!
# The maximum drawdown

The drawdown of the results is taken of the realized profit alone and relative to the starting
capital, which nothing keeps above 0.

* **`computeMaxDrawdown`** — one pass over the trades.
* **`drawdowns`** — from each profit to each later one, in terms of the capital.
* **`maxDrawdown_spec`** — the greatest of them for a capital above 0, and 0 for one below.
-/

namespace BptCore.Backtester.ResultsCollector

variable (r : ResultsCollector)

def computeMaxDrawdown : ℚ :=
  if r.trades.isEmpty then 0
  else
    let out := r.trades.foldl (fun (s : ℚ × ℚ × ℚ) t =>
      let cumRealised := s.1 + t.realizedPnl
      let peak := max s.2.1 cumRealised
      let dd := (peak - cumRealised) / r.startingCapital
      (cumRealised, peak, max s.2.2 dd)) (0, 0, 0)
    out.2.2

/-- The realized profit after the first `i` trades. -/
def cumulativePnl (i : Nat) : ℚ := ((r.trades.take i).map (·.realizedPnl)).sum

/-- The drawdowns from the profit after `i` trades to that after `j`. -/
def drawdowns : Set ℚ :=
  {d | ∃ i j, i ≤ j ∧ j ≤ r.trades.length ∧
    (r.cumulativePnl i - r.cumulativePnl j) / r.startingCapital = d}

/-- The profit never goes down. -/
def NeverDecreases : Prop :=
  ∀ i j, i ≤ j → j ≤ r.trades.length → r.cumulativePnl i ≤ r.cumulativePnl j

/-! ## As a pass over the profits -/

def pnls : List ℚ := r.trades.map (·.realizedPnl)

theorem length_pnls : r.pnls.length = r.trades.length := List.length_map _

theorem computeMaxDrawdown_eq :
    r.computeMaxDrawdown =
      (r.pnls.foldl (Drawdown.follow (· / r.startingCapital)) (0, 0, 0 / r.startingCapital)).2.2 := by
  unfold computeMaxDrawdown pnls
  rw [List.foldl_map, zero_div]
  cases htrades : r.trades with
  | nil => rfl
  | cons t trades => rfl

theorem level_pnls (i : Nat) : Drawdown.level r.pnls i = r.cumulativePnl i := by
  unfold Drawdown.level pnls cumulativePnl
  rw [List.map_take]

theorem declines_pnls : Drawdown.declines (· / r.startingCapital) r.pnls = r.drawdowns := by
  unfold Drawdown.declines drawdowns
  simp only [level_pnls]
  rw [length_pnls]

/-- In terms of a debt no decline counts. -/
theorem computeMaxDrawdown_of_nonpos (h : r.startingCapital ≤ 0) : r.computeMaxDrawdown = 0 := by
  have hpass : ∀ (pnls : List ℚ) (s : ℚ × ℚ × ℚ), s.2.2 = 0 →
      (pnls.foldl (Drawdown.follow (· / r.startingCapital)) s).2.2 = 0 := by
    intro pnls
    induction pnls with
    | nil => exact fun s hs => hs
    | cons x pnls ih =>
      intro s hs
      refine ih _ ?_
      have hpeak : 0 ≤ max s.2.1 (s.1 + x) - (s.1 + x) := sub_nonneg.mpr (le_max_right _ _)
      show max s.2.2 ((max s.2.1 (s.1 + x) - (s.1 + x)) / r.startingCapital) = 0
      rw [hs, max_eq_left (div_nonpos_of_nonneg_of_nonpos hpeak h)]
  rw [computeMaxDrawdown_eq]
  exact hpass _ _ (zero_div _)

variable {r} in
theorem monotone_relative (h : 0 < r.startingCapital) : Monotone (· / r.startingCapital) :=
  fun _ _ hxy => div_le_div_of_nonneg_right hxy h.le

/-- **The maximum drawdown.** For a capital above 0 it is the greatest of all drawdowns, from no
trades on; for one below it is 0. It is 0 too when the profit never goes down. -/
theorem maxDrawdown_spec (r : ResultsCollector) :
    (0 < r.startingCapital → IsGreatest r.drawdowns r.computeMaxDrawdown) ∧
      (r.startingCapital < 0 → r.computeMaxDrawdown = 0) ∧
      (r.NeverDecreases → r.computeMaxDrawdown = 0) := by
  have hgreatest : 0 < r.startingCapital →
      IsGreatest (Drawdown.declines (· / r.startingCapital) r.pnls) r.computeMaxDrawdown := by
    intro hcapital
    rw [computeMaxDrawdown_eq]
    exact (Drawdown.Followed.run (monotone_relative hcapital) r.pnls).deepest
  refine ⟨fun hcapital => r.declines_pnls ▸ hgreatest hcapital,
    fun hneg => r.computeMaxDrawdown_of_nonpos hneg.le, fun hrises => ?_⟩
  rcases lt_or_ge 0 r.startingCapital with hcapital | hcapital
  · have hlevels : ∀ i j, i ≤ j → j ≤ r.pnls.length →
        Drawdown.level r.pnls i ≤ Drawdown.level r.pnls j := by
      intro i j hij hj
      rw [level_pnls, level_pnls]
      exact hrises i j hij (hj.trans_eq r.length_pnls)
    exact (Drawdown.eq_of_monotone (monotone_relative hcapital) (hgreatest hcapital) hlevels).trans
      (zero_div _)
  · exact r.computeMaxDrawdown_of_nonpos hcapital

/-! Three trades, and the profit that each realizes. -/

def tradeOf (realizedPnl : ℚ) : TradeRow where
  simulationTs := 0
  exchange := "OKX"
  symbol := "BTC"
  orderId := 1
  clientOrderId := 1
  side := .SELL
  orderType := .MARKET
  liquidity := .TAKER
  qty := 1
  price := 100
  realizedPnl := realizedPnl
  feePaid := 0
  equity := 0

/-- A loss of 5, a gain of 3 and a loss of 4 on a capital of 100 are a drawdown of 6 in 100. -/
theorem maxDrawdown_spec_six :
    let r : ResultsCollector := { startingCapital := 100, trades := [-5, 3, -4].map tradeOf }
    r.computeMaxDrawdown = 6 / 100 ∧ IsGreatest r.drawdowns r.computeMaxDrawdown :=
  ⟨by decide +kernel, (maxDrawdown_spec _).1 (by decide +kernel)⟩

/-- In terms of a debt of 1 the gain is a drawdown, which the pass does not see. -/
theorem maxDrawdown_of_debt :
    let r : ResultsCollector := { startingCapital := -1, trades := [tradeOf 1] }
    ¬ IsGreatest r.drawdowns r.computeMaxDrawdown := by
  intro r hgreatest
  have hone : (1 : ℚ) ∈ r.drawdowns := ⟨0, 1, by decide, by decide, by decide +kernel⟩
  have hzero : r.computeMaxDrawdown = 0 := by decide +kernel
  have hle := hgreatest.2 hone
  rw [hzero] at hle
  exact absurd hle (by decide +kernel)

end BptCore.Backtester.ResultsCollector
