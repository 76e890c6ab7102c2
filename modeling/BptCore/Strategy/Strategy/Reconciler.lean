import BptCore.Strategy.Strategy.IStrategy
import BptCore.Strategy.Strategy.PositionTracker

/-!
# The reconciler

The positions and balances of an account snapshot as maps, and the positions of a tracker that are
further from the exchange's than a threshold.

* **`reconcile_eq_nil_iff`** — when there is no divergence.
-/

namespace BptCore.Strategy

/-- The symbol is empty when the exchange did not report one. -/
structure Divergence where
  instrumentId : Nat
  exchangeId : ExchangeId
  exchangeSymbol : String
  ourNetQtyE8 : Int
  exchangeNetQtyE8 : Int
  diffE8 : Int
  deriving DecidableEq, Repr

structure ExchangePositionRow where
  netQtyE8 : Int
  avgEntryPrice : ℚ
  deriving DecidableEq, Repr

def extractExchangePositionRows (snap : AccountSnapshot) : Table String ExchangePositionRow :=
  .ofPairs (snap.positions.map fun p => (p.exchangeSymbol, ⟨p.netQtyE8, ofE8 p.avgEntryPriceE8⟩))

/-- A symbol's quantity, without the price. -/
def extractExchangePositions (snap : AccountSnapshot) : Table String Int :=
  .ofPairs (snap.positions.map fun p => (p.exchangeSymbol, p.netQtyE8))

def extractExchangeCurrencyBalances (snap : AccountSnapshot) : Table String Int :=
  .ofPairs (snap.currencyBalances.map fun b => (b.ccy, b.equityE8))

section Reconcile

variable (tracker : PositionTracker) (exchangeBySymbol : Table String Int)
  (exchangeId : ExchangeId) (thresholdE8 : Int)

/-- The divergence of one instrument. A symbol that was not reported is flat. -/
def divergence (instrumentId : Nat) (symbol : String) : Option Divergence :=
  let ourQty := tracker.netQty instrumentId exchangeId
  let exchangeQty := (exchangeBySymbol.lookup symbol).getD 0
  let diff := ourQty - exchangeQty
  if |diff| ≤ thresholdE8 then none
  else
    some
      { instrumentId := instrumentId
        exchangeId := exchangeId
        exchangeSymbol := if (exchangeBySymbol.lookup symbol).isSome then symbol else ""
        ourNetQtyE8 := ourQty
        exchangeNetQtyE8 := exchangeQty
        diffE8 := diff }

def reconcile (instrumentIdToSymbol : List (Nat × String)) : List Divergence :=
  instrumentIdToSymbol.filterMap fun p =>
    divergence tracker exchangeBySymbol exchangeId thresholdE8 p.1 p.2

theorem reconcile_eq_nil_iff (instrumentIdToSymbol : List (Nat × String)) :
    reconcile tracker exchangeBySymbol exchangeId thresholdE8 instrumentIdToSymbol = [] ↔
      ∀ p ∈ instrumentIdToSymbol,
        |tracker.netQty p.1 exchangeId - (exchangeBySymbol.lookup p.2).getD 0| ≤ thresholdE8 := by
  rw [reconcile, List.filterMap_eq_nil_iff]
  refine forall₂_congr fun p _ => ?_
  unfold divergence
  dsimp only
  split
  · next hle => exact iff_of_true rfl hle
  · next hgt => exact iff_of_false (Option.some_ne_none _) hgt

end Reconcile

end BptCore.Strategy
