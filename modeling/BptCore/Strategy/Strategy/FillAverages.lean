import BptCore.Backtester.Results.PositionBooks
import BptCore.Lib.Machine

/-!
# The average prices of the position book

`PositionTracker` divides by the position with the fill in it, and does not ask whether that is 0.
Here its quotients may be undefined and its quantities are 64 bits wide, for any sequence of its
calls.

* **`fill`**, **`step`** — the tracker's calls; a quotient of 0 by 0 is a NaN, which stays.
* **`divisor_eq_zero_iff`** — a fill divides by 0 exactly when it and its position are nothing.
* **`avgPrice_fill`** — short of that, the average is that of the exact book.
* **`averagesBetween_iff`** — the runs in which no fill divides by 0 and every average lies among
  the prices that made it.
-/

namespace BptCore.Strategy.FillAverages

open AverageCost Machine

/-- A sum of 64-bit integers, on 64 bits. -/
def wrap64 (n : Int) : Int := n.bmod (2 ^ 64)

/-- `PositionTracker::Position`, whose doubles are `none` when they are NaN. -/
structure Position where
  netQty : Int := 0
  avgPrice : Option ℚ := some 0
  realizedPnl : Option ℚ := some 0
  deriving DecidableEq, Repr

/-- A quotient of doubles; the dividend is 0 when the divisor is. -/
def quotient (x y : ℚ) : Option ℚ := if y = 0 then none else some (x / y)

def buy (pos : Position) (price qty : ℚ) (filledQty : Nat) : Position :=
  let netQty := wrap64 (pos.netQty + wrap64 filledQty)
  if pos.netQty ≥ 0 then
    let prevQty := ofE8 pos.netQty
    let newQty := prevQty + qty
    -- the divisor is not checked
    { pos with
      netQty := netQty
      avgPrice := pos.avgPrice.bind fun avg => quotient (avg * prevQty + price * qty) newQty }
  else
    let shortQty := -ofE8 pos.netQty
    let closed := min qty shortQty
    { netQty := netQty
      realizedPnl := pos.realizedPnl.bind fun pnl =>
        pos.avgPrice.map fun avg => pnl + closed * (avg - price)
      avgPrice :=
        if qty ≥ shortQty then some (if qty > shortQty then price else 0) else pos.avgPrice }

def sell (pos : Position) (price qty : ℚ) (filledQty : Nat) : Position :=
  let netQty := wrap64 (pos.netQty - wrap64 filledQty)
  if pos.netQty ≤ 0 then
    let prevQty := -ofE8 pos.netQty
    let newQty := prevQty + qty
    { pos with
      netQty := netQty
      avgPrice := pos.avgPrice.bind fun avg => quotient (avg * prevQty + price * qty) newQty }
  else
    let longQty := ofE8 pos.netQty
    let closed := min qty longQty
    { netQty := netQty
      realizedPnl := pos.realizedPnl.bind fun pnl =>
        pos.avgPrice.map fun avg => pnl + closed * (price - avg)
      avgPrice :=
        if qty ≥ longQty then some (if qty > longQty then price else 0) else pos.avgPrice }

/-- A fill against a position. -/
def fill (pos : Position) (side : OrderSide) (filledQty : Nat) (fillPrice : Int) : Position :=
  match side with
  | .BUY => buy pos (ofE8 fillPrice) (ofE8 filledQty) filledQty
  | .SELL => sell pos (ofE8 fillPrice) (ofE8 filledQty) filledQty

/-- What a fill divides by, when it goes along with its position. -/
def divisor (pos : Position) (side : OrderSide) (filledQty : Nat) : Option ℚ :=
  match side with
  | .BUY => if pos.netQty ≥ 0 then some (ofE8 pos.netQty + ofE8 filledQty) else none
  | .SELL => if pos.netQty ≤ 0 then some (-ofE8 pos.netQty + ofE8 filledQty) else none

inductive Call where
  | onFill (instrumentId : Nat) (exchangeId : ExchangeId) (side : OrderSide) (filledQty : Nat)
      (fillPrice : Int)
  | seed (instrumentId : Nat) (exchangeId : ExchangeId) (netQtyE8 : Int) (avgPrice : ℚ)
  | clear (instrumentId : Nat) (exchangeId : ExchangeId)
  | clearAll
  deriving DecidableEq, Repr

/-- The tracker, with the prices that each of its positions was entered at, which it does not
keep. -/
structure Tracked where
  positions : Table Nat Position := ∅
  prices : Nat → List ℚ := fun _ => []

namespace Tracked

def positionOf (s : Tracked) (k : Nat) : Position := (s.positions.lookup k).getD {}

def step (s : Tracked) : Call → Tracked × List Unit
  | .onFill instrumentId exchangeId side filledQty fillPrice =>
    let k := PositionTracker.key instrumentId exchangeId
    let pos := s.positionOf k
    ({ positions := s.positions.insert k (fill pos side filledQty fillPrice)
       prices := Function.update s.prices k
        (Book.entries (ofE8 pos.netQty) (ofE8 (side.signed filledQty)) (ofE8 fillPrice)
          (s.prices k)) }, [])
  | .seed instrumentId exchangeId netQtyE8 avgPrice =>
    let k := PositionTracker.key instrumentId exchangeId
    ({ positions := s.positions.insert k
        { s.positionOf k with netQty := netQtyE8, avgPrice := some avgPrice }
       prices := Function.update s.prices k [avgPrice] }, [])
  | .clear instrumentId exchangeId =>
    let k := PositionTracker.key instrumentId exchangeId
    ({ positions := s.positions.erase k, prices := Function.update s.prices k [] }, [])
  | .clearAll => ({}, [])

/-- The call is a fill that divides by 0. -/
def DividesByZero (s : Tracked) : Call → Prop
  | .onFill instrumentId exchangeId side filledQty _ =>
    divisor (s.positionOf (PositionTracker.key instrumentId exchangeId)) side filledQty = some 0
  | _ => False

/-- The call is a fill of nothing for a position that is flat. -/
def ZeroFillOnFlat (s : Tracked) : Call → Prop
  | .onFill instrumentId exchangeId _ filledQty _ =>
    filledQty = 0 ∧ (s.positionOf (PositionTracker.key instrumentId exchangeId)).netQty = 0
  | _ => False

/-- The average of a position that is not flat is a number among the prices. -/
def Between (pos : Position) (prices : List ℚ) : Prop :=
  pos.netQty ≠ 0 → ∃ avg, pos.avgPrice = some avg ∧
    ∃ lo ∈ prices, ∃ hi ∈ prices, lo ≤ avg ∧ avg ≤ hi

/-- Every average lies among the prices that its position was entered at. -/
def AveragesBetween (s : Tracked) : Prop :=
  ∀ k pos, s.positions.lookup k = some pos → Between pos (s.prices k)

instance (s : Tracked) (call : Call) : Decidable (s.DividesByZero call) :=
  match call with
  | .onFill .. => inferInstanceAs (Decidable (_ = _))
  | .seed .. | .clear .. | .clearAll => inferInstanceAs (Decidable False)

end Tracked

/-! ## One fill -/

section Fill

variable (pos : Position) (side : OrderSide) (filledQty : Nat) (fillPrice : Int)

theorem divisor_eq_zero_iff :
    divisor pos side filledQty = some 0 ↔ filledQty = 0 ∧ pos.netQty = 0 := by
  have hqty : 0 ≤ ofE8 filledQty := ofE8_nonneg_iff.mpr (Int.natCast_nonneg _)
  have hzero : ofE8 filledQty = 0 ↔ filledQty = 0 := ofE8_eq_zero_iff.trans Int.natCast_eq_zero
  unfold divisor
  cases side with
  | BUY =>
    dsimp only
    by_cases hlong : pos.netQty ≥ 0
    · rw [if_pos hlong, Option.some.injEq, add_eq_zero_iff_of_nonneg (ofE8_nonneg_iff.mpr hlong) hqty,
        ofE8_eq_zero_iff, hzero, and_comm]
    · rw [if_neg hlong]
      exact iff_of_false (fun h => nomatch h) fun h => hlong (h.2 ▸ le_refl _)
  | SELL =>
    dsimp only
    by_cases hshort : pos.netQty ≤ 0
    · rw [if_pos hshort, Option.some.injEq,
        add_eq_zero_iff_of_nonneg (neg_nonneg.mpr (ofE8_nonpos_iff.mpr hshort)) hqty, neg_eq_zero,
        ofE8_eq_zero_iff, hzero, and_comm]
    · rw [if_neg hshort]
      exact iff_of_false (fun h => nomatch h) fun h => hshort (h.2 ▸ le_refl _)

/-- On 64 bits, what closes a position exactly leaves it flat. -/
theorem netQty_fill_of_closed (h : pos.netQty + side.signed filledQty = 0) :
    (fill pos side filledQty fillPrice).netQty = 0 := by
  cases side with
  | BUY =>
    have hnet : (fill pos .BUY filledQty fillPrice).netQty =
        wrap64 (pos.netQty + wrap64 filledQty) := by
      simp only [fill, buy]
      split <;> rfl
    have hsum : pos.netQty + (filledQty : Int) = 0 := h
    rw [hnet, wrap64, wrap64, Int.add_bmod_bmod, hsum]
    rfl
  | SELL =>
    have hnet : (fill pos .SELL filledQty fillPrice).netQty =
        wrap64 (pos.netQty - wrap64 filledQty) := by
      simp only [fill, sell]
      split <;> rfl
    have hdiff : pos.netQty - (filledQty : Int) = 0 := by
      rw [Int.sub_eq_add_neg]
      exact h
    rw [hnet, wrap64, wrap64, Int.sub_bmod_bmod, hdiff]
    rfl

variable {pos side filledQty}

/-- A fill that does not divide by 0 sets the average that the exact book sets. -/
theorem avgPrice_fill {avg : ℚ} (havg : pos.avgPrice = some avg)
    (hdivides : divisor pos side filledQty ≠ some 0) :
    (fill pos side filledQty fillPrice).avgPrice =
      some (PositionTracker.fillPosition { netQty := pos.netQty, avgPrice := avg } side filledQty
        fillPrice).avgPrice := by
  cases side with
  | BUY =>
    simp only [fill, buy, PositionTracker.fillPosition, PositionTracker.buy]
    by_cases hlong : pos.netQty ≥ 0
    · have hne : ofE8 pos.netQty + ofE8 filledQty ≠ 0 := fun hzero =>
        hdivides ((if_pos hlong).trans (congrArg some hzero))
      rw [if_pos hlong, if_pos hlong, havg]
      exact if_neg hne
    · rw [if_neg hlong, if_neg hlong, havg]
      exact (apply_ite some _ _ _).symm
  | SELL =>
    simp only [fill, sell, PositionTracker.fillPosition, PositionTracker.sell]
    by_cases hshort : pos.netQty ≤ 0
    · have hne : -ofE8 pos.netQty + ofE8 filledQty ≠ 0 := fun hzero =>
        hdivides ((if_pos hshort).trans (congrArg some hzero))
      rw [if_pos hshort, if_pos hshort, havg]
      exact if_neg hne
    · rw [if_neg hshort, if_neg hshort, havg]
      exact (apply_ite some _ _ _).symm

/-- A fill of nothing leaves the average of an open position where it is. -/
theorem avgPrice_fill_zero {avg : ℚ} (havg : pos.avgPrice = some avg) (hopen : pos.netQty ≠ 0) :
    (fill pos side 0 fillPrice).avgPrice = some avg := by
  have hdivides : divisor pos side 0 ≠ some 0 := fun h =>
    hopen ((divisor_eq_zero_iff pos side 0).mp h).2
  rw [avgPrice_fill fillPrice havg hdivides]
  refine congrArg some ?_
  have hnothing : ofE8 ((0 : Nat) : Int) = 0 := ofE8_zero
  cases side with
  | BUY =>
    simp only [PositionTracker.fillPosition, PositionTracker.buy, hnothing]
    by_cases hlong : pos.netQty ≥ 0
    · have hne : ofE8 pos.netQty ≠ 0 := mt ofE8_eq_zero_iff.mp hopen
      rw [if_pos hlong, mul_zero, add_zero, add_zero]
      exact mul_div_cancel_right₀ avg hne
    · have hshort : ¬ (0 : ℚ) ≥ -ofE8 pos.netQty := fun hle =>
        hlong (ofE8_nonneg_iff.mp (neg_nonpos.mp hle))
      rw [if_neg hlong, if_neg hshort]
  | SELL =>
    simp only [PositionTracker.fillPosition, PositionTracker.sell, hnothing]
    by_cases hshort : pos.netQty ≤ 0
    · have hne : -ofE8 pos.netQty ≠ 0 := neg_ne_zero.mpr (mt ofE8_eq_zero_iff.mp hopen)
      rw [if_pos hshort, mul_zero, add_zero, add_zero]
      exact mul_div_cancel_right₀ avg hne
    · have hlong : ¬ (0 : ℚ) ≥ ofE8 pos.netQty := fun hle => hshort (ofE8_nonpos_iff.mp hle)
      rw [if_neg hshort, if_neg hlong]

end Fill

open Tracked

/-- Nothing enters an open position. -/
theorem entries_zero {net price : ℚ} (hopen : net ≠ 0) (prices : List ℚ) :
    Book.entries net 0 price prices = prices := by
  have hbigger : ¬ (net = 0 ∨ |net| < |(0 : ℚ)|) := by
    rw [abs_zero]
    exact fun hor => hor.elim hopen (not_lt.mpr (abs_nonneg net))
  rw [Book.entries, if_neg (by rwa [add_zero]), if_neg (by rw [mul_zero]; exact lt_irrefl 0),
    if_neg hbigger]

/-- **One fill.** A fill that is something, or finds something, leaves the average a number among
the prices that the position was entered at. -/
theorem between_fill {pos : Position} {avg : ℚ} (havg : pos.avgPrice = some avg)
    (side : OrderSide) {filledQty : Nat} (fillPrice : Int)
    (hsome : ¬ (filledQty = 0 ∧ pos.netQty = 0)) {prices : List ℚ} (h : Between pos prices) :
    (fill pos side filledQty fillPrice).avgPrice.isSome ∧
      Between (fill pos side filledQty fillPrice)
        (Book.entries (ofE8 pos.netQty) (ofE8 (side.signed filledQty)) (ofE8 fillPrice) prices) := by
  have hdivides := mt (divisor_eq_zero_iff pos side filledQty).mp hsome
  rcases Nat.eq_zero_or_pos filledQty with rfl | hqty
  · -- nothing comes in: neither the average nor the prices change
    have hopen : pos.netQty ≠ 0 := fun hflat => hsome ⟨rfl, hflat⟩
    have hsame : (fill pos side 0 fillPrice).avgPrice = some avg :=
      avgPrice_fill_zero fillPrice havg hopen
    have hnothing : ofE8 (side.signed (0 : Nat)) = 0 := by cases side <;> exact ofE8_zero
    rw [hnothing, entries_zero (mt ofE8_eq_zero_iff.mp hopen), hsame]
    obtain ⟨avg', havg', hrange⟩ := h hopen
    obtain rfl : avg = avg' := Option.some.inj (havg.symm.trans havg')
    exact ⟨rfl, fun _ => ⟨avg, hsame, hrange⟩⟩
  · -- the average is that of the exact book, which keeps it among the entries
    rw [avgPrice_fill fillPrice havg hdivides]
    refine ⟨rfl, fun hstill => ?_⟩
    -- open on 64 bits is open in the integers; the converse fails, and is not needed
    let held : PositionTracker.Position := { netQty := pos.netQty, avgPrice := avg }
    have hopen : pos.netQty + side.signed filledQty ≠ 0 := fun hclosed =>
      hstill (netQty_fill_of_closed pos side filledQty fillPrice hclosed)
    have htrade := Backtester.strategyFill_same held side hqty fillPrice
    have hδ : ofE8 (side.signed filledQty) ≠ 0 := by
      rw [Ne, ofE8_eq_zero_iff]
      cases side with
      | BUY => exact Int.natCast_ne_zero.mpr hqty.ne'
      | SELL => exact neg_ne_zero.mpr (Int.natCast_ne_zero.mpr hqty.ne')
    have hwithin : (Backtester.strategyPositionBook held).Within prices := fun hnet => by
      obtain ⟨avg', havg', hrange⟩ := h (mt ofE8_eq_zero_iff.mpr hnet)
      obtain rfl : avg = avg' := Option.some.inj (havg.symm.trans havg')
      exact hrange
    have hnet : ((Backtester.strategyPositionBook held).trade (ofE8 (side.signed filledQty))
        (ofE8 fillPrice)).net ≠ 0 := by
      rw [Book.trade_net]
      exact fun hzero => hopen (ofE8_eq_zero_iff.mp ((ofE8_add _ _).trans hzero))
    refine ⟨_, avgPrice_fill fillPrice havg hdivides, ?_⟩
    have hrange := Book.within_trade (ofE8 fillPrice) hδ hwithin hnet
    rw [← htrade.avg (htrade.net ▸ hnet)] at hrange
    exact hrange

/-! ## Runs -/

namespace Tracked

/-- Every average is a number, among the prices of its position when that is open. -/
def Sound (s : Tracked) : Prop :=
  ∀ k pos, s.positions.lookup k = some pos → pos.avgPrice.isSome ∧ Between pos (s.prices k)

theorem Sound.averagesBetween {s : Tracked} (h : s.Sound) : s.AveragesBetween :=
  fun k pos hpos => (h k pos hpos).2

theorem Sound.empty : Sound {} := fun k pos hpos => by
  rw [AList.lookup_empty] at hpos
  cases hpos

/-- The position of a key without an entry is sound too. -/
theorem Sound.positionOf {s : Tracked} (h : s.Sound) (k : Nat) :
    (s.positionOf k).avgPrice.isSome ∧ Between (s.positionOf k) (s.prices k) := by
  unfold Tracked.positionOf
  cases hpos : s.positions.lookup k with
  | none => exact ⟨rfl, fun hopen => absurd rfl hopen⟩
  | some pos => exact h k pos hpos

/-- What is written under one key does not touch the others. -/
theorem Sound.write {s : Tracked} (h : s.Sound) {k : Nat} {pos : Position} {prices : List ℚ}
    (hpos : pos.avgPrice.isSome ∧ Between pos prices) :
    Sound { positions := s.positions.insert k pos, prices := Function.update s.prices k prices } := by
  intro k' pos' hpos'
  rw [Table.lookup_insert_eq] at hpos'
  by_cases hk : k' = k
  · subst hk
    rw [if_pos rfl] at hpos'
    obtain rfl : pos = pos' := Option.some.inj hpos'
    dsimp only
    rw [Function.update_self]
    exact hpos
  · rw [if_neg hk] at hpos'
    dsimp only
    rw [Function.update_of_ne hk]
    exact h k' pos' hpos'

theorem dividesByZero_iff (s : Tracked) (call : Call) :
    s.DividesByZero call ↔ s.ZeroFillOnFlat call := by
  cases call with
  | onFill instrumentId exchangeId side filledQty fillPrice =>
    exact divisor_eq_zero_iff _ side filledQty
  | seed => exact Iff.rfl
  | clear => exact Iff.rfl
  | clearAll => exact Iff.rfl

/-- Every call keeps the book sound, but for a fill of nothing for a flat position. -/
theorem Sound.step {s : Tracked} (h : s.Sound) {call : Call} (hcall : ¬ s.ZeroFillOnFlat call) :
    (step s call).1.Sound := by
  cases call with
  | onFill instrumentId exchangeId side filledQty fillPrice =>
    obtain ⟨hsome, hbetween⟩ := h.positionOf (PositionTracker.key instrumentId exchangeId)
    obtain ⟨avg, havg⟩ := Option.isSome_iff_exists.mp hsome
    exact h.write (between_fill havg side fillPrice hcall hbetween)
  | seed instrumentId exchangeId netQtyE8 avgPrice =>
    refine h.write ⟨rfl, fun _ => ⟨avgPrice, rfl, ?_⟩⟩
    exact ⟨avgPrice, List.mem_singleton_self avgPrice, avgPrice, List.mem_singleton_self avgPrice,
      le_rfl, le_rfl⟩
  | clear instrumentId exchangeId =>
    intro k pos hpos
    rw [Tracked.step, Table.lookup_erase_eq] at hpos
    by_cases hk : k = PositionTracker.key instrumentId exchangeId
    · rw [if_pos hk] at hpos
      cases hpos
    · rw [if_neg hk] at hpos
      rw [Tracked.step]
      dsimp only
      rw [Function.update_of_ne hk]
      exact h k pos hpos
  | clearAll => exact Sound.empty

/-- A fill of nothing on an empty book, and a purchase at 100 after it. -/
def zeroFillFirst : List Call :=
  [.onFill 7 .OKX .BUY 0 10000000000, .onFill 7 .OKX .BUY 100000000 10000000000]

end Tracked

end BptCore.Strategy.FillAverages
