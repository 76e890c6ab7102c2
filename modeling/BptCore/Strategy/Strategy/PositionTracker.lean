import BptCore.Lib.Table
import BptCore.Messages

/-!
# The strategies' position book

`PositionTracker` adds up fills under `(instrument, exchange)` with an average entry price and
the realized P&L. A filled quantity counts in full: it is taken for an increment.
-/

namespace BptCore.Strategy

namespace PositionTracker

/-- `PositionTracker::Position`. -/
structure Position where
  netQty : Int := 0
  avgPrice : ℚ := 0
  realizedPnl : ℚ := 0
  deriving DecidableEq, Repr

end PositionTracker

structure PositionTracker where
  positions : Table Nat PositionTracker.Position := ∅

namespace PositionTracker

/-- `key`, on 64 bits: the exchange in the low byte. -/
def key (instrumentId : Nat) (exchangeId : ExchangeId) : Nat :=
  ((instrumentId <<< 8) % 2 ^ 64) ||| exchangeId.value

/-- One BUY against a position. -/
def buy (pos : Position) (price qty : ℚ) (filledQty : Nat) : Position :=
  let netQty := pos.netQty + filledQty
  if pos.netQty ≥ 0 then
    let prevQty := ofE8 pos.netQty
    { pos with netQty := netQty
               avgPrice := (pos.avgPrice * prevQty + price * qty) / (prevQty + qty) }
  else
    let shortQty := -ofE8 pos.netQty
    { netQty := netQty
      realizedPnl := pos.realizedPnl + min qty shortQty * (pos.avgPrice - price)
      avgPrice := if qty ≥ shortQty then (if qty > shortQty then price else 0) else pos.avgPrice }

/-- One SELL against a position: the mirror image of `buy`. -/
def sell (pos : Position) (price qty : ℚ) (filledQty : Nat) : Position :=
  let netQty := pos.netQty - filledQty
  if pos.netQty ≤ 0 then
    let prevQty := -ofE8 pos.netQty
    { pos with netQty := netQty
               avgPrice := (pos.avgPrice * prevQty + price * qty) / (prevQty + qty) }
  else
    let longQty := ofE8 pos.netQty
    { netQty := netQty
      realizedPnl := pos.realizedPnl + min qty longQty * (price - pos.avgPrice)
      avgPrice := if qty ≥ longQty then (if qty > longQty then price else 0) else pos.avgPrice }

def fillPosition (pos : Position) (side : OrderSide) (filledQty : Nat) (fillPrice : Int) :
    Position :=
  match side with
  | .BUY => buy pos (ofE8 fillPrice) (ofE8 filledQty) filledQty
  | .SELL => sell pos (ofE8 fillPrice) (ofE8 filledQty) filledQty

variable (t : PositionTracker)

def onFill (instrumentId : Nat) (exchangeId : ExchangeId) (side : OrderSide) (filledQty : Nat)
    (fillPrice : Int) : PositionTracker :=
  let k := key instrumentId exchangeId
  { positions := t.positions.insert k
      (fillPosition ((t.positions.lookup k).getD {}) side filledQty fillPrice) }

def netQty (instrumentId : Nat) (exchangeId : ExchangeId) : Int :=
  match t.positions.lookup (key instrumentId exchangeId) with
  | some pos => pos.netQty
  | none => 0

/-- `seed`: the exchange's view of a position, with the realized P&L kept. -/
def seed (instrumentId : Nat) (exchangeId : ExchangeId) (netQtyE8 : Int) (avgPrice : ℚ) :
    PositionTracker :=
  let k := key instrumentId exchangeId
  { positions := t.positions.insert k
      { (t.positions.lookup k).getD {} with netQty := netQtyE8, avgPrice := avgPrice } }

/-- `get`. -/
def get (instrumentId : Nat) (exchangeId : ExchangeId) : Option Position :=
  t.positions.lookup (key instrumentId exchangeId)

theorem fillPosition_netQty (pos : Position) (side : OrderSide) (filledQty : Nat)
    (fillPrice : Int) :
    (fillPosition pos side filledQty fillPrice).netQty = pos.netQty + side.signed filledQty := by
  cases side with
  | BUY =>
    simp only [fillPosition, buy, OrderSide.signed]
    split <;> rfl
  | SELL =>
    simp only [fillPosition, sell, OrderSide.signed]
    split <;> exact Int.sub_eq_add_neg

/-- Within 56 bits, an instrument and an exchange have a key of their own. -/
theorem key_eq_iff {inst inst' : Nat} {ex ex' : ExchangeId} (h : inst < 2 ^ 56)
    (h' : inst' < 2 ^ 56) : key inst ex = key inst' ex' ↔ inst = inst' ∧ ex = ex' := by
  have hkey : ∀ i : Nat, i < 2 ^ 56 → ∀ e : ExchangeId, key i e = i * 2 ^ 8 + e.value := by
    intro i hi e
    have hval : e.value < 2 ^ 8 := by cases e <;> decide
    have hfits : i <<< 8 < 2 ^ 64 := by
      rw [Nat.shiftLeft_eq]
      omega
    rw [key, Nat.mod_eq_of_lt hfits, ← Nat.shiftLeft_add_eq_or_of_lt hval, Nat.shiftLeft_eq]
  rw [hkey inst h ex, hkey inst' h' ex']
  constructor
  · intro heq
    have hval : ex.value < 2 ^ 8 ∧ ex'.value < 2 ^ 8 := by
      constructor
      · cases ex <;> decide
      · cases ex' <;> decide
    exact ⟨by omega, ExchangeId.value_injective (by omega)⟩
  · rintro ⟨rfl, rfl⟩
    rfl

/-- The effect of a fill on the positions: its own moves by the signed quantity. -/
theorem netQty_onFill (inst : Nat) (ex : ExchangeId) (side : OrderSide) (filledQty : Nat)
    (fillPrice : Int) (inst' : Nat) (ex' : ExchangeId) :
    (t.onFill inst ex side filledQty fillPrice).netQty inst' ex' =
      t.netQty inst' ex' + if key inst' ex' = key inst ex then side.signed filledQty else 0 := by
  unfold netQty onFill
  by_cases hkey : key inst' ex' = key inst ex
  · rw [if_pos hkey, hkey, AList.lookup_insert]
    dsimp only
    rw [fillPosition_netQty]
    cases t.positions.lookup (key inst ex) with
    | none => rfl
    | some pos => rfl
  · rw [if_neg hkey, AList.lookup_insert_ne hkey, Int.add_zero]

end PositionTracker

end BptCore.Strategy
