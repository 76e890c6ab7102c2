import BptCore.Lib.AverageCost
import BptCore.OrderGateway.Risk.PnlTracker
import Mathlib.Data.List.Induction

/-!
# The P&L tracker as a ledger

The tracker keeps running figures; what they stand for is read off the list of the fills. Its
positions are average-cost books, one a key.

* **`fillPosition_eq_trade`** — a fill is a trade against the book of its key.
* **`ledger_exact`** — after any fills: net quantities, realized P&L against the cash that moved,
  and where the entry prices lie.
-/

namespace BptCore.OrderGateway

open AverageCost

/-- The position as a book, with what was realized so far. -/
def Position.book (pos : Position) (realized : ℚ) : Book ℚ where
  net := ofE8 pos.netQtyE8
  avg := pos.avgPriceUsd
  realized := realized

namespace PnlTracker

/-- A fill that reaches the tracker. Its price and its quantity are positive. -/
structure Fill where
  exchange : ExchangeId
  instrumentId : Nat
  side : OrderSide
  priceE8 : Int
  filledQtyE8 : Nat
  fillTsNs : Nat
  priceE8_pos : 0 < priceE8
  filledQtyE8_pos : 0 < filledQtyE8

namespace Fill

variable (f : Fill)

def key : Nat := makeKey f.exchange f.instrumentId

/-- The quantity, signed by the side. -/
def signedE8 : Int := f.side.signed f.filledQtyE8

/-- The price times the signed quantity: what is paid, negative when it is received. -/
def outlay : ℚ := ofE8 f.priceE8 * ofE8 f.signedE8

end Fill

def applyFill (t : PnlTracker) (f : Fill) : PnlTracker :=
  t.onFill f.exchange f.instrumentId f.side f.priceE8 f.filledQtyE8 f.fillTsNs

/-- The tracker after the fills, oldest first. -/
def afterFills (fs : List Fill) : PnlTracker := fs.foldl applyFill {}

/-! ## What the fills amount to -/

/-- The signed sum of the quantities under the key. -/
def netOf (key : Nat) (fs : List Fill) : Int :=
  ((fs.filter fun f => f.key = key).map Fill.signedE8).sum

/-- What the fills of one side were traded for. -/
def turnover (side : OrderSide) (fs : List Fill) : ℚ :=
  ((fs.filter fun f => f.side = side).map fun f => ofE8 f.priceE8 * ofE8 f.filledQtyE8).sum

/-- The prices of the fills under the key on the side that is open, since it was last flat or on
the other side; with the net quantity. -/
def openSide (key : Nat) (fs : List Fill) : ℚ × List ℚ :=
  fs.foldl (fun (net, prices) f =>
    if f.key = key then
      (net + ofE8 f.signedE8, Book.entries net (ofE8 f.signedE8) (ofE8 f.priceE8) prices)
    else (net, prices)) (0, [])

/-! ## A position is a book -/

theorem ofE8_signed_ne_zero (side : OrderSide) {qty : Nat} (hqty : 0 < qty) :
    ofE8 (side.signed qty) ≠ 0 := by
  rw [Ne, ofE8_eq_zero_iff]
  cases side <;> simp only [OrderSide.signed] <;> omega

/-- **A fill is a trade.** -/
theorem fillPosition_eq_trade (pos : Position) (side : OrderSide) (priceE8 : Int) {qty : Nat}
    (hqty : 0 < qty) (realized : ℚ) :
    (pos.book realized).trade (ofE8 (side.signed qty)) (ofE8 priceE8) =
      (fillPosition pos side priceE8 qty).1.book
        (realized + (fillPosition pos side priceE8 qty).2) := by
  have hq : 0 < ofE8 qty := ofE8_pos.mpr hqty
  cases side with
  | BUY =>
    show (pos.book realized).trade (ofE8 qty) (ofE8 priceE8) = _
    by_cases hlong : 0 ≤ pos.netQtyE8
    · have hnet : 0 ≤ ofE8 pos.netQtyE8 := ofE8_nonneg_iff.mpr hlong
      have hnew : 0 < ofE8 pos.netQtyE8 + ofE8 qty := add_pos_of_nonneg_of_pos hnet hq
      rw [Book.trade_buy_of_nonneg (pos.book realized) hq hnet]
      simp only [fillPosition, buy, hlong, if_true, hnew, Position.book, ofE8_add, add_zero]
    · have hnet : ofE8 pos.netQtyE8 < 0 := not_le.mp (mt ofE8_nonneg_iff.mp hlong)
      rw [Book.trade_buy_of_neg (pos.book realized) hq hnet]
      simp only [fillPosition, buy, hlong, if_false, Position.book, ofE8_add]
      rfl
  | SELL =>
    have hsigned : ofE8 (OrderSide.SELL.signed qty) = -ofE8 qty := ofE8_neg qty
    rw [hsigned]
    by_cases hshort : pos.netQtyE8 ≤ 0
    · have hnet : ofE8 pos.netQtyE8 ≤ 0 := ofE8_nonpos_iff.mpr hshort
      have hnew : 0 < -ofE8 pos.netQtyE8 + ofE8 qty :=
        add_pos_of_nonneg_of_pos (neg_nonneg.mpr hnet) hq
      rw [Book.trade_sell_of_nonpos (pos.book realized) hq hnet]
      simp only [fillPosition, sell, hshort, if_true, hnew, Position.book, ofE8_sub, add_zero]
    · have hnet : 0 < ofE8 pos.netQtyE8 := not_le.mp (mt ofE8_nonpos_iff.mp hshort)
      rw [Book.trade_sell_of_pos (pos.book realized) hq hnet]
      simp only [fillPosition, sell, hshort, if_false, Position.book, ofE8_sub]
      rfl

/-! ## The lists, one fill later -/

theorem afterFills_append (fs : List Fill) (f : Fill) :
    afterFills (fs ++ [f]) = applyFill (afterFills fs) f := by
  rw [afterFills, List.foldl_append]
  rfl

theorem netOf_append (key : Nat) (fs : List Fill) (f : Fill) :
    netOf key (fs ++ [f]) = netOf key fs + if f.key = key then f.signedE8 else 0 := by
  rw [netOf, List.filter_append, List.map_append, List.sum_append]
  by_cases hkey : f.key = key
  · rw [if_pos hkey, List.filter_cons_of_pos (by simpa using hkey)]
    simp [netOf]
  · rw [if_neg hkey, List.filter_cons_of_neg (by simpa using hkey)]
    simp [netOf]

theorem turnover_append (side : OrderSide) (fs : List Fill) (f : Fill) :
    turnover side (fs ++ [f]) =
      turnover side fs + if f.side = side then ofE8 f.priceE8 * ofE8 f.filledQtyE8 else 0 := by
  rw [turnover, List.filter_append, List.map_append, List.sum_append]
  by_cases hside : f.side = side
  · rw [if_pos hside, List.filter_cons_of_pos (by simpa using hside)]
    simp [turnover]
  · rw [if_neg hside, List.filter_cons_of_neg (by simpa using hside)]
    simp [turnover]

/-- The cash that came in, less the cash that went out, moves by the outlay. -/
theorem cash_append (fs : List Fill) (f : Fill) :
    turnover .SELL (fs ++ [f]) - turnover .BUY (fs ++ [f]) =
      turnover .SELL fs - turnover .BUY fs - f.outlay := by
  rw [turnover_append, turnover_append, Fill.outlay, Fill.signedE8]
  cases f.side with
  | BUY =>
    simp only [reduceCtorEq, if_false, if_true, OrderSide.signed]
    ring
  | SELL =>
    simp only [reduceCtorEq, if_false, if_true, OrderSide.signed, ofE8_neg]
    ring

theorem openSide_append (key : Nat) (fs : List Fill) (f : Fill) :
    openSide key (fs ++ [f]) =
      if f.key = key then
        ((openSide key fs).1 + ofE8 f.signedE8,
          Book.entries (openSide key fs).1 (ofE8 f.signedE8) (ofE8 f.priceE8) (openSide key fs).2)
      else openSide key fs := by
  rw [openSide, List.foldl_append]
  rfl

/-! ## What a fill does to the map -/

/-- The position under the key: flat when there is none. -/
def positionOf (t : PnlTracker) (key : Nat) : Position := (t.positions.lookup key).getD {}

/-- What the fill makes of the position of its key, and what that realizes. -/
def filled (t : PnlTracker) (f : Fill) : Position × ℚ :=
  fillPosition (t.positionOf f.key) f.side f.priceE8 f.filledQtyE8

/-- What a position was entered at. -/
def worth (pos : Position) : ℚ := ofE8 pos.netQtyE8 * pos.avgPriceUsd

theorem positions_applyFill (t : PnlTracker) (f : Fill) :
    (t.applyFill f).positions =
      if (t.filled f).1.netQtyE8 = 0 then t.positions.erase f.key
      else t.positions.insert f.key (t.filled f).1 := by
  simp only [applyFill, onFill, rollDayIfNeeded_positions]
  rfl

theorem lookup_applyFill (t : PnlTracker) (f : Fill) (key : Nat) :
    (t.applyFill f).positions.lookup key =
      if key = f.key then
        if (t.filled f).1.netQtyE8 = 0 then none else some (t.filled f).1
      else t.positions.lookup key := by
  rw [positions_applyFill]
  split
  · rw [Table.lookup_erase_eq]
  · rw [Table.lookup_insert_eq]

theorem sessionPnlUsd_applyFill (t : PnlTracker) (f : Fill) :
    (t.applyFill f).sessionPnlUsd = t.sessionPnlUsd + (t.filled f).2 := by
  have hroll : (t.rollDayIfNeeded f.fillTsNs).sessionPnlUsd = t.sessionPnlUsd := by
    unfold rollDayIfNeeded
    split <;> rfl
  simp only [applyFill, onFill, rollDayIfNeeded_positions, hroll]
  rfl

theorem worth_of_flat {pos : Position} (h : pos.netQtyE8 = 0) : worth pos = 0 := by
  rw [worth, h, ofE8_zero, zero_mul]

/-- One key's part of what the positions were entered at. -/
theorem sumVals_worth (t : PnlTracker) (key : Nat) :
    Table.sumVals worth t.positions =
      worth (t.positionOf key) + Table.sumVals worth (t.positions.erase key) := by
  unfold positionOf
  cases h : t.positions.lookup key with
  | some pos => exact Table.sumVals_of_lookup worth h
  | none =>
    have hflat : worth (Option.getD none {}) = 0 := worth_of_flat rfl
    rw [Table.erase_of_notMem (AList.lookup_eq_none.mp h), hflat, zero_add]

theorem sumVals_worth_applyFill (t : PnlTracker) (f : Fill) :
    Table.sumVals worth (t.applyFill f).positions =
      worth (t.filled f).1 + Table.sumVals worth (t.positions.erase f.key) := by
  rw [positions_applyFill]
  split
  · next hflat => rw [worth_of_flat hflat, zero_add]
  · rw [Table.sumVals_insert]

/-! ## The ledger -/

/-- The tracker holds what the fills amount to. -/
structure Ledger (t : PnlTracker) (fs : List Fill) : Prop where
  net : ∀ key, (t.positionOf key).netQtyE8 = netOf key fs
  side : ∀ key, (openSide key fs).1 = ofE8 (netOf key fs)
  cash : t.sessionPnlUsd - Table.sumVals worth t.positions = turnover .SELL fs - turnover .BUY fs
  stored : ∀ key pos, t.positions.lookup key = some pos → pos.netQtyE8 ≠ 0
  within : ∀ key, ((t.positionOf key).book 0).Within (openSide key fs).2

theorem Ledger.empty : Ledger {} [] where
  net _ := rfl
  side _ := ofE8_zero.symm
  cash := rfl
  stored key pos h := by simp at h
  within key hopen := absurd ofE8_zero hopen

variable {t : PnlTracker} {fs : List Fill}

/-- The fill's key holds what `fillPosition` made of it, whether or not the map keeps it. -/
theorem positionOf_applyFill (t : PnlTracker) (f : Fill) (key : Nat) :
    (t.applyFill f).positionOf key =
      if key = f.key then
        if (t.filled f).1.netQtyE8 = 0 then {} else (t.filled f).1
      else t.positionOf key := by
  rw [positionOf, lookup_applyFill]
  split
  · split <;> rfl
  · rfl

/-- A fill trades the book of its key; what the map forgets of a flat position does not show. -/
theorem book_applyFill_same (t : PnlTracker) (f : Fill) :
    (((t.applyFill f).positionOf f.key).book (t.applyFill f).sessionPnlUsd).Same
      (((t.positionOf f.key).book t.sessionPnlUsd).trade (ofE8 f.signedE8) (ofE8 f.priceE8)) := by
  have htrade := fillPosition_eq_trade (t.positionOf f.key) f.side f.priceE8 f.filledQtyE8_pos
    t.sessionPnlUsd
  rw [Fill.signedE8, htrade, positionOf_applyFill, if_pos rfl, sessionPnlUsd_applyFill]
  split
  · next hflat =>
    have hnet : ofE8 0 = ofE8 (t.filled f).1.netQtyE8 := by rw [hflat]
    exact ⟨hnet, fun hopen => absurd ofE8_zero hopen, rfl⟩
  · exact Book.Same.refl _

/-- **One fill.** -/
theorem Ledger.applyFill (h : Ledger t fs) (f : Fill) :
    Ledger (t.applyFill f) (fs ++ [f]) := by
  have hqty : ofE8 f.signedE8 ≠ 0 := ofE8_signed_ne_zero f.side f.filledQtyE8_pos
  have hnet : (t.filled f).1.netQtyE8 = netOf f.key fs + f.signedE8 := by
    rw [filled, fillPosition_netQtyE8, h.net]
    rfl
  have htrade : ∀ realized, ((t.positionOf f.key).book realized).trade (ofE8 f.signedE8)
      (ofE8 f.priceE8) = (t.filled f).1.book (realized + (t.filled f).2) := fun realized =>
    fillPosition_eq_trade _ f.side f.priceE8 f.filledQtyE8_pos realized
  refine ⟨fun key => ?_, fun key => ?_, ?_, fun key pos hpos => ?_, fun key => ?_⟩
  · rw [positionOf_applyFill, netOf_append]
    by_cases hkey : key = f.key
    · subst hkey
      rw [if_pos rfl, if_pos rfl, ← hnet]
      split
      · next hflat => exact hflat.symm
      · rfl
    · rw [if_neg hkey, if_neg (Ne.symm hkey), h.net, Int.add_zero]
  · rw [openSide_append, netOf_append]
    by_cases hkey : f.key = key
    · rw [if_pos hkey, if_pos hkey, ofE8_add, h.side]
    · rw [if_neg hkey, if_neg hkey, h.side, Int.add_zero]
  · -- the cash that the trade moves is the outlay
    have hcash := Book.trade_cash (b := (t.positionOf f.key).book t.sessionPnlUsd)
      (ofE8 f.priceE8) hqty
    rw [htrade] at hcash
    have hold := h.cash
    rw [sumVals_worth t f.key] at hold
    rw [sessionPnlUsd_applyFill, sumVals_worth_applyFill, cash_append]
    simp only [Position.book, worth, Fill.outlay] at hcash hold ⊢
    linarith
  · rw [lookup_applyFill] at hpos
    split at hpos
    · split at hpos
      · cases hpos
      · next hopen =>
        cases hpos
        exact hopen
    · exact h.stored key pos hpos
  · rw [positionOf_applyFill, openSide_append]
    by_cases hkey : key = f.key
    · subst hkey
      rw [if_pos rfl, if_pos rfl]
      split
      · exact fun hopen => absurd ofE8_zero hopen
      · have hwithin := Book.within_trade (ofE8 f.priceE8) hqty (h.within f.key)
        rw [htrade] at hwithin
        have hside : (openSide f.key fs).1 = ((t.positionOf f.key).book 0).net := by
          rw [h.side, ← h.net]
          rfl
        rw [hside]
        exact hwithin
    · rw [if_neg hkey, if_neg (Ne.symm hkey)]
      exact h.within key

theorem Ledger.afterFills (fs : List Fill) : Ledger (afterFills fs) fs := by
  induction fs using List.reverseRec with
  | nil => exact Ledger.empty
  | append_singleton fs f ih =>
    rw [afterFills_append]
    exact ih.applyFill f

end PnlTracker

end BptCore.OrderGateway
