import BptCore.Lib.Table
import BptCore.Messages

/-!
# Realized P&L per instrument

`PnlTracker` books fills under `(exchange, instrument)` with a weighted-average entry price and
accumulates the realized P&L of the UTC day and of the session.

* **`makeKey`** — the packed key; `makeKey_eq_iff` says which instruments share one.
* **`onFill`** — one fill. `netQtyE8_onFill` is its effect on every position: the signed
  quantity under the fill's own key, nothing elsewhere.
-/

namespace BptCore.OrderGateway

structure Position where
  netQtyE8 : Int := 0
  avgPriceUsd : ℚ := 0
  deriving DecidableEq, Repr

structure PnlTracker where
  positions : Table Nat Position := ∅
  currentUtcDay : Nat := 0
  dailyPnlUsd : ℚ := 0
  sessionPnlUsd : ℚ := 0

namespace PnlTracker

/-- `make_key`: the exchange in the top byte, the instrument in the other seven. -/
def makeKey (exchange : ExchangeId) (instrumentId : Nat) : Nat :=
  (exchange.value <<< 56) ||| (instrumentId &&& 0x00ffffffffffffff)

/-- `utc_day_of`. -/
def utcDayOf (ns : Nat) : Nat := ns / (86400 * 1000000000)

variable (p : PnlTracker)

def rollDayIfNeeded (nowNs : Nat) : PnlTracker :=
  if utcDayOf nowNs ≠ p.currentUtcDay then
    { p with currentUtcDay := utcDayOf nowNs, dailyPnlUsd := 0 }
  else p

/-- One BUY against a position: the position after it and the P&L it realizes. -/
def buy (pos : Position) (price qty : ℚ) (filledQtyE8 : Nat) : Position × ℚ :=
  if 0 ≤ pos.netQtyE8 then
    -- adding to a long or to flat: the entry price is averaged
    let prevQty := ofE8 pos.netQtyE8
    let newQty := prevQty + qty
    ({ netQtyE8 := pos.netQtyE8 + filledQtyE8
       avgPriceUsd := if 0 < newQty then (pos.avgPriceUsd * prevQty + price * qty) / newQty
                      else 0 }, 0)
  else
    -- closing a short, or flipping it: only then does the entry price change
    let shortQty := -ofE8 pos.netQtyE8
    ({ netQtyE8 := pos.netQtyE8 + filledQtyE8
       avgPriceUsd := if shortQty < qty then price else pos.avgPriceUsd },
     min qty shortQty * (pos.avgPriceUsd - price))

/-- One SELL against a position: the mirror image of `buy`. -/
def sell (pos : Position) (price qty : ℚ) (filledQtyE8 : Nat) : Position × ℚ :=
  if pos.netQtyE8 ≤ 0 then
    let prevQty := -ofE8 pos.netQtyE8
    let newQty := prevQty + qty
    ({ netQtyE8 := pos.netQtyE8 - filledQtyE8
       avgPriceUsd := if 0 < newQty then (pos.avgPriceUsd * prevQty + price * qty) / newQty
                      else 0 }, 0)
  else
    let longQty := ofE8 pos.netQtyE8
    ({ netQtyE8 := pos.netQtyE8 - filledQtyE8
       avgPriceUsd := if longQty < qty then price else pos.avgPriceUsd },
     min qty longQty * (price - pos.avgPriceUsd))

def fillPosition (pos : Position) (side : OrderSide) (priceE8 : Int) (filledQtyE8 : Nat) :
    Position × ℚ :=
  match side with
  | .BUY => buy pos (ofE8 priceE8) (ofE8 filledQtyE8) filledQtyE8
  | .SELL => sell pos (ofE8 priceE8) (ofE8 filledQtyE8) filledQtyE8

/-- A position that is flat after the fill is taken out of the map. -/
def onFill (exchange : ExchangeId) (instrumentId : Nat) (side : OrderSide) (priceE8 : Int)
    (filledQtyE8 fillTsNs : Nat) : PnlTracker :=
  let p := p.rollDayIfNeeded fillTsNs
  let key := makeKey exchange instrumentId
  let (pos, pnl) :=
    fillPosition ((p.positions.lookup key).getD {}) side priceE8 filledQtyE8
  { p with
    positions := if pos.netQtyE8 = 0 then p.positions.erase key else p.positions.insert key pos
    dailyPnlUsd := p.dailyPnlUsd + pnl
    sessionPnlUsd := p.sessionPnlUsd + pnl }

/-- The day's realized P&L, rolled over first, with the tracker after the roll. -/
def dailyRealizedPnlUsd (nowNs : Nat) : ℚ × PnlTracker :=
  ((p.rollDayIfNeeded nowNs).dailyPnlUsd, p.rollDayIfNeeded nowNs)

def netQtyE8 (exchange : ExchangeId) (instrumentId : Nat) : Int :=
  match p.positions.lookup (makeKey exchange instrumentId) with
  | none => 0
  | some pos => pos.netQtyE8

/-! ## Keys -/

theorem makeKey_eq (exchange : ExchangeId) (instrumentId : Nat) :
    makeKey exchange instrumentId = exchange.value * 2 ^ 56 + instrumentId % 2 ^ 56 := by
  have hmask : instrumentId &&& 0x00ffffffffffffff = instrumentId % 2 ^ 56 :=
    Nat.and_two_pow_sub_one_eq_mod instrumentId 56
  have hlt : instrumentId % 2 ^ 56 < 2 ^ 56 := Nat.mod_lt _ (by decide)
  rw [makeKey, hmask, ← Nat.shiftLeft_add_eq_or_of_lt hlt, Nat.shiftLeft_eq]

/-- Two keys agree exactly when the exchanges do and the instruments do in 56 bits. -/
theorem makeKey_eq_iff {ex ex' : ExchangeId} {inst inst' : Nat} :
    makeKey ex inst = makeKey ex' inst' ↔ ex = ex' ∧ inst % 2 ^ 56 = inst' % 2 ^ 56 := by
  rw [makeKey_eq, makeKey_eq]
  constructor
  · intro h
    -- both parts of the sum are read off it: the instrument's is below 2 ^ 56
    have hval : ex.value = ex'.value := by omega
    exact ⟨ExchangeId.value_injective hval, by omega⟩
  · rintro ⟨rfl, hinst⟩
    rw [hinst]

/-! ## Positions -/

@[simp] theorem rollDayIfNeeded_positions (nowNs : Nat) :
    (p.rollDayIfNeeded nowNs).positions = p.positions := by
  unfold rollDayIfNeeded
  split <;> rfl

theorem rollDayIfNeeded_currentUtcDay (nowNs : Nat) :
    (p.rollDayIfNeeded nowNs).currentUtcDay = utcDayOf nowNs := by
  unfold rollDayIfNeeded
  split
  · rfl
  · next h => exact (not_not.mp h).symm

/-- On the tracker's own day there is nothing to roll over. -/
theorem rollDayIfNeeded_of_currentUtcDay {nowNs : Nat} (h : p.currentUtcDay = utcDayOf nowNs) :
    p.rollDayIfNeeded nowNs = p := by
  unfold rollDayIfNeeded
  exact if_neg (not_not.mpr h.symm)

/-- A fill moves its position by its signed quantity. -/
theorem fillPosition_netQtyE8 (pos : Position) (side : OrderSide) (priceE8 : Int)
    (filledQtyE8 : Nat) :
    (fillPosition pos side priceE8 filledQtyE8).1.netQtyE8 =
      pos.netQtyE8 + side.signed filledQtyE8 := by
  cases side with
  | BUY =>
    simp only [fillPosition, buy, OrderSide.signed]
    split <;> rfl
  | SELL =>
    simp only [fillPosition, sell, OrderSide.signed]
    split <;> exact Int.sub_eq_add_neg

theorem netQtyE8_eq (exchange : ExchangeId) (instrumentId : Nat) :
    p.netQtyE8 exchange instrumentId =
      ((p.positions.lookup (makeKey exchange instrumentId)).getD {}).netQtyE8 := by
  unfold netQtyE8
  split
  · next h => rw [h]; rfl
  · next pos h => rw [h]; rfl

/-- **The effect of a fill on the positions.** The fill's own key moves by the signed quantity;
every other key keeps its position. -/
theorem netQtyE8_onFill (exchange : ExchangeId) (instrumentId : Nat) (side : OrderSide)
    (priceE8 : Int) (filledQtyE8 fillTsNs : Nat) (exchange' : ExchangeId) (instrumentId' : Nat) :
    (p.onFill exchange instrumentId side priceE8 filledQtyE8 fillTsNs).netQtyE8
        exchange' instrumentId' =
      p.netQtyE8 exchange' instrumentId' +
        if makeKey exchange' instrumentId' = makeKey exchange instrumentId
        then side.signed filledQtyE8 else 0 := by
  have hnet := fillPosition_netQtyE8
    ((p.positions.lookup (makeKey exchange instrumentId)).getD {}) side priceE8 filledQtyE8
  simp only [netQtyE8_eq, onFill, rollDayIfNeeded_positions]
  by_cases hkey : makeKey exchange' instrumentId' = makeKey exchange instrumentId
  · rw [if_pos hkey, hkey, ← hnet]
    split
    -- a flat position is no longer in the map, and reads as 0
    · next hflat => rw [AList.lookup_erase, hflat]; rfl
    · rw [AList.lookup_insert]; rfl
  · rw [if_neg hkey, Int.add_zero]
    split
    · rw [AList.lookup_erase_ne hkey]
    · rw [AList.lookup_insert_ne hkey]

theorem onFill_currentUtcDay (exchange : ExchangeId) (instrumentId : Nat) (side : OrderSide)
    (priceE8 : Int) (filledQtyE8 fillTsNs : Nat) :
    (p.onFill exchange instrumentId side priceE8 filledQtyE8 fillTsNs).currentUtcDay =
      utcDayOf fillTsNs :=
  p.rollDayIfNeeded_currentUtcDay fillTsNs

end PnlTracker

end BptCore.OrderGateway
