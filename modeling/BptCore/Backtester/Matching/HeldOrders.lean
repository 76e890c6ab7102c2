import BptCore.Backtester.Matching.MatchingEngine
import BptCore.Lib.OpenItems
import Mathlib.Data.List.TakeWhile

/-!
# The orders that the engine holds

An order that was submitted waits to be matched, or rests in a book, until it is filled, cancelled
or dropped. Wherever it is, it is one open item, and every fill that the engine makes serves it.

* **`FitsOrder`** — what every fill is to the order it fills.
* **`heldOrders`** — the waiting and the resting orders together.
* **`walkLevels_moves`** — the walk through a book serves one order.
-/

namespace BptCore.Backtester

open OpenItems

namespace OpenOrder

variable (o : OpenOrder)

/-- What is left to fill. -/
def openQty : ℚ := o.quantity - o.filledQty

/-- The order apart from where it rests. -/
def bare : OpenOrder := { o with queueSeeded := false }

/-- The order apart from how far it is filled. -/
def unfilled : OpenOrder := { o with filledQty := 0 }

/-- The order after a fill. -/
def fill (fr : FillReport) : OpenOrder := { o with filledQty := fr.cumulativeFillQty }

end OpenOrder

/-- A price no worse than the limit by more than the slack. -/
def Respects (side : OrderSide) (limit price slack : ℚ) : Prop :=
  match side with
  | .BUY => price ≤ limit + slack
  | .SELL => limit - slack ≤ price

/-- What a report of a fill may be beyond the limit: a taker is matched within the tolerance. -/
def FillReport.slack (fr : FillReport) : ℚ := if fr.liquidityRole = .TAKER then kPriceTol else 0

/-- The fill of an order. -/
structure FitsOrder (o : OpenOrder) (fr : FillReport) : Prop where
  orderId : fr.orderId = o.orderId
  side : fr.side = o.side
  lastFillQty_pos : fr.isFullyFilled = false ∨ 0 < o.openQty → 0 < fr.lastFillQty
  cumulative : fr.cumulativeFillQty = o.filledQty + fr.lastFillQty
  bounded : fr.cumulativeFillQty ≤ o.quantity
  full : fr.isFullyFilled = decide (o.quantity - fr.cumulativeFillQty ≤ kQtyTol)
  price : o.type ≠ .MARKET → Respects o.side o.price fr.lastFillPrice fr.slack

/-- Orders are served by fills. -/
def orderService : Service OpenOrder FillReport Nat where
  key := OpenOrder.orderId
  target := FillReport.orderId
  Fits := FitsOrder
  closes := FillReport.isFullyFilled
  after := OpenOrder.fill
  target_of_fits := FitsOrder.orderId
  key_after _ _ := rfl

/-- What an order that is not closed by a fill has left is more than the tolerance. -/
theorem FitsOrder.openQty_fill {o : OpenOrder} {fr : FillReport} (h : FitsOrder o fr)
    (hopen : fr.isFullyFilled = false) : kQtyTol < (o.fill fr).openQty := by
  have hfull := h.full
  rw [hopen, eq_comm, decide_eq_false_iff_not] at hfull
  exact not_le.mp hfull

theorem kQtyTol_pos : 0 < kQtyTol := by decide +kernel

theorem kPriceTol_pos : 0 < kPriceTol := by decide +kernel

/-! ## The held orders -/

/-- The orders that rest, in any book. -/
def restingOrders (pending : Table String (List OpenOrder)) : Multiset OpenOrder :=
  Table.sumVals Multiset.ofList pending

/-- The orders that rest in one book. -/
def restingIn (pending : Table String (List OpenOrder)) (bk : String) : List OpenOrder :=
  (pending.lookup bk).getD []

theorem restingOrders_eq (pending : Table String (List OpenOrder)) (bk : String) :
    restingOrders pending = restingIn pending bk + restingOrders (pending.erase bk) := by
  unfold restingIn
  cases h : pending.lookup bk with
  | some orders => exact Table.sumVals_of_lookup _ h
  | none =>
    rw [Table.erase_of_notMem (AList.lookup_eq_none.mp h)]
    exact (zero_add _).symm

theorem restingOrders_insert (pending : Table String (List OpenOrder)) (bk : String)
    (orders : List OpenOrder) :
    restingOrders (pending.insert bk orders) = orders + restingOrders (pending.erase bk) :=
  Table.sumVals_insert _ bk orders pending

theorem mem_restingOrders_iff {pending : Table String (List OpenOrder)} {o : OpenOrder} :
    o ∈ restingOrders pending ↔ ∃ bk, o ∈ restingIn pending bk := by
  constructor
  · intro h
    obtain ⟨orders, horders, ho⟩ : ∃ orders ∈ Table.vals pending, o ∈ orders := by
      unfold restingOrders Table.sumVals at h
      generalize Table.vals pending = vals at h
      induction vals with
      | nil => exact absurd h (Multiset.notMem_zero o)
      | cons orders rest ih =>
        rw [List.map_cons, List.sum_cons, Multiset.mem_add] at h
        rcases h with hhere | hrest
        · exact ⟨orders, List.mem_cons_self, hhere⟩
        · obtain ⟨orders', horders', ho⟩ := ih hrest
          exact ⟨orders', List.mem_cons_of_mem _ horders', ho⟩
    obtain ⟨bk, hbk⟩ := Table.mem_vals_iff.mp horders
    refine ⟨bk, ?_⟩
    rw [restingIn, hbk]
    exact ho
  · rintro ⟨bk, ho⟩
    rw [restingOrders_eq pending bk]
    exact Multiset.mem_add.mpr (Or.inl ho)

/-- The waiting and the resting orders, apart from where they rest. -/
def heldOrders (waiting : Multiset OpenOrder) (pending : Table String (List OpenOrder)) :
    Multiset OpenOrder :=
  (waiting + restingOrders pending).map OpenOrder.bare

/-! ## The walk through a book -/

/-- What is held of an order that has been matched: the order, while more than the tolerance is left
of it. -/
def leftOver (o : OpenOrder) : Multiset OpenOrder := if kQtyTol < o.openQty then {o.bare} else 0

theorem leftOver_eq_zero {o : OpenOrder} (h : o.openQty ≤ kQtyTol) : leftOver o = 0 :=
  if_neg (not_lt.mpr h)

theorem eq_of_mem_leftOver {o o' : OpenOrder} (h : o' ∈ leftOver o) : o' = o.bare := by
  unfold leftOver at h
  split at h
  · exact Multiset.mem_singleton.mp h
  · exact absurd h (Multiset.notMem_zero o')

variable {L : Nat → Prop}

/-- An order that is not served any more. -/
theorem moves_leftOver {o : OpenOrder} (hL : o.openQty ≤ kQtyTol → L o.orderId) :
    Moves orderService L {o.bare} [] (leftOver o) := by
  unfold leftOver
  split
  · exact .done _
  · next hnothing => exact .leave (hL (not_lt.mp hnothing)) (.done 0)

theorem walkLevels_of_le {priceLimit : Option ℚ} {reportType : MatchType} {currentTs : Nat}
    {order : OpenOrder} {remaining : ℚ} (h : remaining ≤ kQtyTol) (levels : List (ℚ × ℚ)) :
    MatchingEngine.walkLevels priceLimit reportType currentTs order remaining levels =
      (order, []) := by
  cases levels with
  | nil => rfl
  | cons level levels => rw [MatchingEngine.walkLevels, if_pos h]

theorem respects_of_acceptable {side : OrderSide} {levelPx cap : ℚ}
    (h : MatchingEngine.acceptable side levelPx (some cap) = true) :
    Respects side cap levelPx kPriceTol := by
  cases side with
  | BUY => exact of_decide_eq_true (p := levelPx ≤ cap + kPriceTol) h
  | SELL => exact of_decide_eq_true (p := levelPx ≥ cap - kPriceTol) h

/-- **The walk serves the order**, which stays while more than the tolerance is left of it. -/
theorem walkLevels_moves {priceLimit : Option ℚ} {reportType : MatchType} {currentTs : Nat}
    {order : OpenOrder} (hlimit : order.type ≠ .MARKET → priceLimit = some order.price)
    {remaining : ℚ} (hremaining : remaining = order.openQty)
    (hL : order.openQty ≤ kQtyTol → L order.orderId) (levels : List (ℚ × ℚ)) :
    let out := MatchingEngine.walkLevels priceLimit reportType currentTs order remaining levels
    Moves orderService L {order.bare} out.2 (leftOver out.1) := by
  induction levels generalizing order remaining with
  | nil => exact moves_leftOver hL
  | cons level levels ih =>
    obtain ⟨levelPx, levelSz⟩ := level
    unfold MatchingEngine.walkLevels
    split
    · exact moves_leftOver hL
    · next hmore =>
      split
      · exact moves_leftOver hL
      · next hlevel =>
        split
        · exact moves_leftOver hL
        · next haccept =>
          have hmore := not_le.mp hmore
          have hsize : 0 < levelSz := not_le.mp fun h => hlevel (Or.inr h)
          let order' : OpenOrder :=
            { order with filledQty := order.filledQty + min remaining levelSz }
          have hremaining' : remaining - min remaining levelSz = order'.openQty := by
            show _ = order.quantity - (order.filledQty + min remaining levelSz)
            rw [hremaining, OpenOrder.openQty, sub_add_eq_sub_sub]
          have hprice : order.type ≠ .MARKET →
              Respects order.side order.price levelPx kPriceTol := by
            intro htype
            rw [hlimit htype, Bool.not_eq_true', Bool.not_eq_false] at haccept
            exact respects_of_acceptable haccept
          have hbounded : order.filledQty + min remaining levelSz ≤ order.quantity := by
            have hle := min_le_left remaining levelSz
            rw [hremaining, OpenOrder.openQty] at hle ⊢
            linarith
          have hpos : 0 < min remaining levelSz := lt_min (kQtyTol_pos.trans hmore) hsize
          have hfull : decide (remaining - min remaining levelSz ≤ kQtyTol) =
              decide (order.quantity - (order.filledQty + min remaining levelSz) ≤ kQtyTol) := by
            rw [hremaining']
            rfl
          show Moves orderService L (order.bare ::ₘ 0) (_ :: (MatchingEngine.walkLevels priceLimit
            reportType currentTs order' (remaining - min remaining levelSz) levels).2) _
          by_cases hclosed : remaining - min remaining levelSz ≤ kQtyTol
          · -- the order is filled, and the walk ends
            refine .close ⟨rfl, rfl, fun _ => hpos, rfl, hbounded, hfull, hprice⟩
              (decide_eq_true hclosed) ?_
            have hnothing : leftOver order' = 0 := leftOver_eq_zero (hremaining' ▸ hclosed)
            show Moves orderService L 0 _ (leftOver (MatchingEngine.walkLevels priceLimit
              reportType currentTs order' (remaining - min remaining levelSz) levels).1)
            rw [walkLevels_of_le hclosed, hnothing]
            exact .done 0
          · exact .serve ⟨rfl, rfl, fun _ => hpos, rfl, hbounded, hfull, hprice⟩
              (decide_eq_false hclosed) (@ih order' hlimit _ hremaining' fun hle =>
                absurd (hremaining' ▸ hle) hclosed)

/-- The walk changes nothing of the order but how far it is filled. -/
theorem walkLevels_order (priceLimit : Option ℚ) (reportType : MatchType) (currentTs : Nat)
    (order : OpenOrder) (remaining : ℚ) (levels : List (ℚ × ℚ)) :
    ∃ filledQty, (MatchingEngine.walkLevels priceLimit reportType currentTs order remaining
      levels).1 = { order with filledQty := filledQty } := by
  induction levels generalizing order remaining with
  | nil => exact ⟨order.filledQty, rfl⟩
  | cons level levels ih =>
    unfold MatchingEngine.walkLevels
    split
    · exact ⟨order.filledQty, rfl⟩
    · split
      · exact ⟨order.filledQty, rfl⟩
      · split
        · exact ⟨order.filledQty, rfl⟩
        · exact ih { order with filledQty := order.filledQty + min remaining level.2 }
            (remaining - min remaining level.2)

/-! ## Whether an order completes -/

/-- What a market order can get out of the levels. -/
def depth (levels : List (ℚ × ℚ)) : ℚ :=
  ((levels.takeWhile fun level => 0 < level.1 ∧ 0 < level.2).map Prod.snd).sum

theorem depth_nonneg (levels : List (ℚ × ℚ)) : 0 ≤ depth levels := by
  refine List.sum_nonneg fun sz hsz => ?_
  obtain ⟨level, hlevel, rfl⟩ := List.mem_map.mp hsz
  have hpositive := List.mem_takeWhile_imp hlevel
  exact (of_decide_eq_true hpositive).2.le

/-- The match of an order leaves it resting, or closes it: a market order finds all it wants in the
book, and of any other order more than the tolerance is left. -/
def Completes (books : Table String OrderBookRecord) (o : OpenOrder) : Prop :=
  match books.lookup (MatchingEngine.key o.exchange o.symbol) with
  | none => o.type ≠ .MARKET
  | some book => kQtyTol < o.openQty ∧
      (o.type = .MARKET → o.openQty ≤ depth (book.levels (opposite o.side)) + kQtyTol)

instance (books : Table String OrderBookRecord) (o : OpenOrder) :
    Decidable (Completes books o) := by
  unfold Completes
  split <;> infer_instance

/-- A walk without a cap gets what the levels have. -/
theorem walkLevels_openQty {priceLimit : Option ℚ} {reportType : MatchType} {currentTs : Nat}
    {order : OpenOrder}
    (haccept : ∀ px, 0 < px → MatchingEngine.acceptable order.side px priceLimit)
    {remaining : ℚ} (hremaining : remaining = order.openQty) {levels : List (ℚ × ℚ)}
    (hdepth : remaining ≤ depth levels + kQtyTol) :
    (MatchingEngine.walkLevels priceLimit reportType currentTs order remaining levels).1.openQty ≤
      kQtyTol := by
  induction levels generalizing order remaining with
  | nil =>
    rw [show depth [] = 0 from rfl, zero_add] at hdepth
    exact hremaining ▸ hdepth
  | cons level levels ih =>
    obtain ⟨levelPx, levelSz⟩ := level
    unfold MatchingEngine.walkLevels
    split
    · next hdone => exact hremaining ▸ hdone
    · next hmore =>
      by_cases hlevel : levelPx ≤ 0 ∨ levelSz ≤ 0
      · -- nothing can be had from here on
        have hnothing : depth ((levelPx, levelSz) :: levels) = 0 := by
          rw [depth, List.takeWhile_cons_of_neg (p := fun level : ℚ × ℚ =>
            decide (0 < level.1 ∧ 0 < level.2))]
          · rfl
          · rw [decide_eq_true_iff, not_and_or, not_lt, not_lt]
            exact hlevel
        rw [hnothing, zero_add] at hdepth
        exact absurd hdepth hmore
      · obtain ⟨hpx, hsz⟩ := not_or.mp hlevel
        have hlevels : depth ((levelPx, levelSz) :: levels) = levelSz + depth levels := by
          rw [depth, List.takeWhile_cons_of_pos (p := fun level : ℚ × ℚ =>
            decide (0 < level.1 ∧ 0 < level.2)) (decide_eq_true ⟨not_le.mp hpx, not_le.mp hsz⟩),
            List.map_cons, List.sum_cons]
          rfl
        rw [if_neg hlevel, haccept levelPx (not_le.mp hpx)]
        refine @ih { order with filledQty := order.filledQty + min remaining levelSz } haccept
          (remaining - min remaining levelSz) ?_ ?_
        · show _ = order.quantity - (order.filledQty + min remaining levelSz)
          rw [hremaining, OpenOrder.openQty, sub_add_eq_sub_sub]
        · rcases le_total remaining levelSz with hle | hle
          · rw [min_eq_left hle, sub_self]
            exact add_nonneg (depth_nonneg levels) kQtyTol_pos.le
          · rw [min_eq_right hle, sub_le_iff_le_add']
            rwa [hlevels, add_assoc] at hdepth

/-! ## A market order -/

section Market

variable (order : OpenOrder) (book : OrderBookRecord) (currentTs : Nat)

variable {order} in
theorem fillMarket_moves (htype : order.type = .MARKET)
    (hL : order.openQty ≤ kQtyTol → L order.orderId) :
    let out := MatchingEngine.fillMarket order book currentTs
    Moves orderService L {order.bare} out.2 (leftOver out.1) :=
  walkLevels_moves (fun hne => absurd htype hne) rfl hL _

theorem fillMarket_order : ∃ filledQty, (MatchingEngine.fillMarket order book currentTs).1 =
    { order with filledQty := filledQty } :=
  walkLevels_order _ _ _ _ _ _

variable {order} in
/-- It gets what the book has. -/
theorem fillMarket_openQty
    (hdepth : order.openQty ≤ depth (book.levels (opposite order.side)) + kQtyTol) :
    (MatchingEngine.fillMarket order book currentTs).1.openQty ≤ kQtyTol := by
  refine walkLevels_openQty (fun px hpx => ?_) rfl hdepth
  cases order.side with
  | BUY => rfl
  | SELL =>
    have hle : (0 : ℚ) ≤ px + kPriceTol := add_nonneg hpx.le kPriceTol_pos.le
    exact decide_eq_true (sub_le_iff_le_add.mpr hle)

end Market

end BptCore.Backtester
