import BptCore.Backtester.Matching.HeldOrders
import BptCore.Lib.FrontFirst
import Mathlib.Data.List.TakeWhile

/-!
# The walk through a book

An order that takes from a book walks its levels from the best. `fill_book_until` has one loop with
five ways to stop, and tolerances in two of them: a level within `1e-9` of the limit is still taken,
and an order with no more than `1e-12` left is complete.

* **`inReach`** — the levels that a walk may take: those shown and within the limit.
* **`GreedyWalk`** — what a walk is: the levels in reach from the best one, each in full but for the
  last, up to what the order wants.
* **`fillBookUntil_greedy`** — the loop walks so, in every sorted book.
-/

namespace BptCore.Backtester

open FrontFirst

/-- The levels that a book shows. -/
def displayed (levels : List (ℚ × ℚ)) : List (ℚ × ℚ) :=
  levels.takeWhile fun level => decide (0 < level.1 ∧ 0 < level.2)

/-- The shown levels within the limit. -/
def inReach (side : OrderSide) (priceLimit : Option ℚ) (levels : List (ℚ × ℚ)) : List (ℚ × ℚ) :=
  (displayed levels).filter fun level => MatchingEngine.acceptable side level.1 priceLimit

/-- The prices that an order meets get no better. -/
def BestFirst (side : OrderSide) (levels : List (ℚ × ℚ)) : Prop :=
  (displayed levels).Pairwise fun level level' =>
    match side with
    | .BUY => level.1 ≤ level'.1
    | .SELL => level'.1 ≤ level.1

instance (side : OrderSide) (levels : List (ℚ × ℚ)) : Decidable (BestFirst side levels) :=
  match side with
  | .BUY => inferInstanceAs (Decidable ((displayed levels).Pairwise fun level level' =>
      level.1 ≤ level'.1))
  | .SELL => inferInstanceAs (Decidable ((displayed levels).Pairwise fun level level' =>
      level'.1 ≤ level.1))

def sizes (levels : List (ℚ × ℚ)) : List ℚ := levels.map Prod.snd

/-- What the reports say is taken. -/
def taken (reports : List FillReport) : List ℚ := reports.map FillReport.lastFillQty

/-- **A greedy walk** over the levels in reach, with the order it leaves and its reports. -/
structure GreedyWalk (order : OpenOrder) (reach : List (ℚ × ℚ))
    (out : OpenOrder × List FillReport) : Prop where
  -- consecutive levels from the best
  length_le : out.2.length ≤ reach.length
  prices : out.2.map FillReport.lastFillPrice = (reach.map Prod.fst).take out.2.length
  quantities : taken out.2 = (served order.openQty (sizes reach)).take out.2.length
  full : ∀ i, i + 1 < out.2.length → (taken out.2)[i]? = (sizes reach)[i]?
  -- the total, up to what is not worth a fill
  total_le : (taken out.2).sum ≤ min (max 0 order.openQty) (sizes reach).sum
  total_ge : min (max 0 order.openQty) (sizes reach).sum ≤ (taken out.2).sum + kQtyTol
  cumulative : ∀ i fr, out.2[i]? = some fr →
    fr.cumulativeFillQty = order.filledQty + (taken (out.2.take (i + 1))).sum
  complete : ∀ i fr, out.2[i]? = some fr →
    (fr.isFullyFilled = true ↔ i + 1 = out.2.length ∧ out.1.openQty ≤ kQtyTol)
  order_eq : out.1 = { order with filledQty := order.filledQty + (taken out.2).sum }
  owner : ∀ fr ∈ out.2, fr.orderId = order.orderId ∧ fr.side = order.side ∧
    fr.originalQty = order.quantity
  stops : order.openQty ≤ kQtyTol → out.2 = []

namespace GreedyWalk

variable {order : OpenOrder} {reach : List (ℚ × ℚ)} {px sz : ℚ}

/-- Nothing is wanted, or nothing is in reach. -/
theorem none (hsizes : ∀ x ∈ sizes reach, 0 ≤ x)
    (h : order.openQty ≤ kQtyTol ∨ reach = []) : GreedyWalk order reach (order, []) where
  length_le := Nat.zero_le _
  prices := rfl
  quantities := rfl
  full i hi := absurd hi (Nat.not_lt_zero _)
  total_le := le_min (le_max_left _ _) (List.sum_nonneg hsizes)
  total_ge := by
    have htol := kQtyTol_pos.le
    have hzero : (taken []).sum + kQtyTol = kQtyTol := zero_add _
    rw [hzero]
    rcases h with hdone | hempty
    · exact (min_le_left _ _).trans (max_le htol hdone)
    · rw [hempty]
      exact (min_le_right _ _).trans htol
  cumulative i fr hfr := by cases hfr
  complete i fr hfr := by cases hfr
  order_eq := by
    have hzero : order.filledQty + (taken []).sum = order.filledQty := add_zero _
    rw [hzero]
  owner fr hfr := absurd hfr List.not_mem_nil
  stops _ := rfl

/-- A report of a walk, for what is taken at a level. -/
structure Reports (order : OpenOrder) (px take : ℚ) (fr : FillReport) : Prop where
  price : fr.lastFillPrice = px
  qty : fr.lastFillQty = take
  cumulative : fr.cumulativeFillQty = order.filledQty + take
  complete : fr.isFullyFilled = decide (order.openQty - take ≤ kQtyTol)
  owner : fr.orderId = order.orderId ∧ fr.side = order.side ∧ fr.originalQty = order.quantity

variable {fr : FillReport}

theorem openQty_take (order : OpenOrder) (take : ℚ) :
    ({ order with filledQty := order.filledQty + take } : OpenOrder).openQty =
      order.openQty - take :=
  sub_add_eq_sub_sub _ _ _

/-- One level more, in front of a walk. -/
theorem cons {out : OpenOrder × List FillReport} (hopen : kQtyTol < order.openQty)
    (hfr : Reports order px (min order.openQty sz) fr)
    (h : GreedyWalk { order with filledQty := order.filledQty + min order.openQty sz } reach out) :
    GreedyWalk order ((px, sz) :: reach) (out.1, fr :: out.2) := by
  let order' : OpenOrder := { order with filledQty := order.filledQty + min order.openQty sz }
  have hpos : 0 < order.openQty := kQtyTol_pos.trans hopen
  have hleft : order'.openQty = order.openQty - min order.openQty sz :=
    openQty_take order (min order.openQty sz)
  -- a level that outlasts the order ends the walk
  have hends : order.openQty < sz → out.2 = [] := by
    intro hlt
    refine h.stops ?_
    show order'.openQty ≤ kQtyTol
    rw [hleft, min_eq_left hlt.le, sub_self]
    exact kQtyTol_pos.le
  have htaken : taken (fr :: out.2) = min order.openQty sz :: taken out.2 := by
    rw [← hfr.qty]
    rfl
  have hsum : (taken (fr :: out.2)).sum = min order.openQty sz + (taken out.2).sum := by
    rw [htaken, List.sum_cons]
  have hsizes : sizes ((px, sz) :: reach) = sz :: sizes reach := rfl
  refine ⟨Nat.succ_le_succ h.length_le, ?_, ?_, ?_, ?_, ?_, ?_, ?_, ?_, ?_, ?_⟩
  · rw [List.map_cons, List.map_cons, List.length_cons, List.take_succ_cons, hfr.price, h.prices]
  · rw [htaken, hsizes, served, List.length_cons, List.take_succ_cons, max_eq_right hpos.le]
    congr 1
    rcases le_or_gt sz order.openQty with hle | hlt
    · rw [h.quantities]
      show (served order'.openQty (sizes reach)).take _ = _
      rw [hleft, min_eq_right hle]
    · rw [hends hlt]
      rfl
  · intro i hi
    rw [htaken, hsizes]
    cases i with
    | zero =>
      have hle : sz ≤ order.openQty := by
        by_contra hlt
        rw [hends (not_le.mp hlt)] at hi
        exact absurd hi (lt_irrefl 1)
      rw [List.getElem?_cons_zero, List.getElem?_cons_zero, min_eq_right hle]
    | succ i =>
      rw [List.getElem?_cons_succ, List.getElem?_cons_succ]
      exact h.full i (Nat.lt_of_succ_lt_succ hi)
  · have hle : (taken out.2).sum ≤ min (max 0 order'.openQty) (sizes reach).sum := h.total_le
    have hmin := min_le_left order.openQty sz
    have hmin' := min_le_right order.openQty sz
    rw [hleft, max_eq_right (sub_nonneg.mpr hmin)] at hle
    obtain ⟨hle₁, hle₂⟩ := le_min_iff.mp hle
    rw [hsum, hsizes, List.sum_cons, max_eq_right hpos.le]
    exact le_min (by linarith) (by linarith)
  · have hge : min (max 0 order'.openQty) (sizes reach).sum ≤ (taken out.2).sum + kQtyTol :=
      h.total_ge
    rw [hsum, hsizes, List.sum_cons, max_eq_right hpos.le]
    rcases le_or_gt sz order.openQty with hle | hlt
    · rw [hleft, min_eq_right hle, max_eq_right (sub_nonneg.mpr hle)] at hge
      have hsplit : min order.openQty (sz + (sizes reach).sum) =
          sz + min (order.openQty - sz) (sizes reach).sum := by
        rw [← min_add_add_left, add_sub_cancel]
      rw [hsplit, min_eq_right hle]
      linarith
    · have hnone : (taken out.2).sum = 0 := by
        rw [hends hlt]
        rfl
      have htol := kQtyTol_pos
      rw [hnone, min_eq_left hlt.le, add_zero]
      exact (min_le_left _ _).trans (by linarith)
  · intro i fr' hfr'
    cases i with
    | zero =>
      obtain rfl := Option.some.inj hfr'
      show _ = order.filledQty + (fr.lastFillQty + 0)
      rw [hfr.cumulative, hfr.qty, add_zero]
    | succ i =>
      have hcum := h.cumulative i fr' hfr'
      rw [hcum, List.take_succ_cons]
      show order.filledQty + min order.openQty sz + _ =
        order.filledQty + (fr.lastFillQty + (taken (out.2.take (i + 1))).sum)
      rw [hfr.qty, add_assoc]
  · intro i fr' hfr'
    cases i with
    | succ i =>
      rw [h.complete i fr' hfr', List.length_cons]
      exact and_congr_left fun _ => Nat.succ_inj.symm
    | zero =>
      obtain rfl := Option.some.inj hfr'
      rw [hfr.complete, decide_eq_true_iff, ← hleft, List.length_cons]
      -- the walk ends with this level, or goes on because the order is not complete
      have hsame : out.2 = [] → out.1 = order' := by
        intro hnone
        have hout := h.order_eq
        rw [hnone] at hout
        rw [hout]
        show ({ order' with filledQty := order'.filledQty + 0 } : OpenOrder) = order'
        rw [add_zero]
      constructor
      · intro hdone
        have hnone := h.stops hdone
        rw [hsame hnone, hnone]
        exact ⟨rfl, hdone⟩
      · rintro ⟨hlast, hdone⟩
        have hnone : out.2 = [] := List.length_eq_zero_iff.mp (Nat.succ_inj.mp hlast).symm
        rwa [hsame hnone] at hdone
  · have hout := h.order_eq
    rw [hout, hsum, ← add_assoc]
  · exact List.forall_mem_cons.mpr ⟨hfr.owner, h.owner⟩
  · exact fun hdone => absurd hopen (not_lt.mpr hdone)

end GreedyWalk

/-! ## The loop -/

/-- The levels that the loop may take, one by one. -/
def reachable (side : OrderSide) (priceLimit : Option ℚ) (level : ℚ × ℚ) : Bool :=
  decide (0 < level.1 ∧ 0 < level.2) && MatchingEngine.acceptable side level.1 priceLimit

theorem sizes_nonneg {levels : List (ℚ × ℚ)} {side : OrderSide} {priceLimit : Option ℚ} :
    ∀ x ∈ sizes (levels.takeWhile (reachable side priceLimit)), 0 ≤ x := by
  intro x hx
  obtain ⟨level, hlevel, rfl⟩ := List.mem_map.mp hx
  have hreach := List.mem_takeWhile_imp hlevel
  rw [reachable, Bool.and_eq_true, decide_eq_true_iff] at hreach
  exact hreach.1.2.le

/-- **The loop walks greedily** over the levels until the first one out of reach. -/
theorem walkLevels_greedy {priceLimit : Option ℚ} {reportType : MatchType} {currentTs : Nat}
    {order : OpenOrder} {remaining : ℚ} (hremaining : remaining = order.openQty)
    (levels : List (ℚ × ℚ)) :
    GreedyWalk order (levels.takeWhile (reachable order.side priceLimit))
      (MatchingEngine.walkLevels priceLimit reportType currentTs order remaining levels) := by
  induction levels generalizing order remaining with
  | nil => exact .none sizes_nonneg (.inr rfl)
  | cons level levels ih =>
    obtain ⟨px, sz⟩ := level
    have hsizes : ∀ x ∈ sizes
        (((px, sz) :: levels).takeWhile (reachable order.side priceLimit)), 0 ≤ x := sizes_nonneg
    unfold MatchingEngine.walkLevels
    split
    · next hdone => exact .none hsizes (.inl (hremaining ▸ hdone))
    next hmore =>
    split
    · next hempty =>
      refine .none hsizes (.inr (List.takeWhile_cons_of_neg ?_))
      rw [reachable, Bool.and_eq_true, decide_eq_true_iff, not_and_or, not_and_or, not_lt, not_lt]
      exact .inl hempty
    next hshown =>
    split
    · next hbeyond =>
      refine .none hsizes (.inr (List.takeWhile_cons_of_neg ?_))
      rw [Bool.not_eq_true'] at hbeyond
      rw [reachable, hbeyond, Bool.and_false]
      exact Bool.false_ne_true
    next hwithin =>
      obtain ⟨hpx, hsz⟩ := not_or.mp hshown
      rw [Bool.not_eq_true', Bool.not_eq_false] at hwithin
      have hreach : reachable order.side priceLimit (px, sz) = true := by
        rw [reachable, hwithin, Bool.and_true, decide_eq_true_iff]
        exact ⟨not_le.mp hpx, not_le.mp hsz⟩
      rw [List.takeWhile_cons_of_pos hreach]
      subst hremaining
      refine .cons (not_le.mp hmore) ⟨rfl, rfl, rfl, rfl, rfl, rfl, rfl⟩ ?_
      exact ih (GreedyWalk.openQty_take order (min order.openQty sz)).symm

/-! ## A sorted book -/

/-- A level behind one that is out of the limit is out of it too. -/
theorem not_acceptable_of_worse {side : OrderSide} {priceLimit : Option ℚ} {px px' : ℚ}
    (hworse : match side with | .BUY => px ≤ px' | .SELL => px' ≤ px)
    (h : ¬ MatchingEngine.acceptable side px priceLimit = true) :
    ¬ MatchingEngine.acceptable side px' priceLimit = true := by
  cases priceLimit with
  | none => exact absurd rfl h
  | some cap =>
    cases side with
    | BUY =>
      rw [MatchingEngine.acceptable, decide_eq_true_iff] at h ⊢
      exact fun hle => h (le_trans hworse hle)
    | SELL =>
      rw [MatchingEngine.acceptable, decide_eq_true_iff] at h ⊢
      exact fun hge => h (le_trans hge hworse)

theorem takeWhile_eq_filter {α : Type*} {p : α → Bool} {xs : List α}
    (h : xs.Pairwise fun x y => ¬ p x = true → ¬ p y = true) : xs.takeWhile p = xs.filter p := by
  induction xs with
  | nil => rfl
  | cons x xs ih =>
    obtain ⟨hx, hxs⟩ := List.pairwise_cons.mp h
    by_cases hp : p x = true
    · rw [List.takeWhile_cons_of_pos hp, List.filter_cons_of_pos hp, ih hxs]
    · rw [List.takeWhile_cons_of_neg hp, List.filter_cons_of_neg hp]
      exact (List.filter_eq_nil_iff.mpr fun y hy => hx y hy hp).symm

/-- The levels until the first one out of reach are all that are in reach. -/
theorem takeWhile_reachable {side : OrderSide} {priceLimit : Option ℚ} {levels : List (ℚ × ℚ)}
    (hsorted : BestFirst side levels) :
    levels.takeWhile (reachable side priceLimit) = inReach side priceLimit levels := by
  have hsplit : levels.takeWhile (reachable side priceLimit) =
      (displayed levels).takeWhile fun level =>
        MatchingEngine.acceptable side level.1 priceLimit := by
    rw [displayed, List.takeWhile_takeWhile]
    congr 1
    funext level
    simp only [reachable, Bool.and_comm, Bool.decide_and, Bool.decide_eq_true]
  rw [hsplit, inReach]
  refine takeWhile_eq_filter (hsorted.imp fun hworse hbeyond => ?_)
  exact not_acceptable_of_worse hworse hbeyond

/-- **The greedy walk.** In a book whose levels are sorted best first the order takes the levels in
reach, one after the other from the best, each in full but for the last, up to what it wants; the
reports count up, and the last one says whether the order is complete. What is left untaken of what
it could get is at most `1e-12`, and no fill is beyond the limit by more than `1e-9`. -/
theorem fillBookUntil_greedy (order : OpenOrder) (book : OrderBookRecord) (priceLimit : Option ℚ)
    (reportType : MatchType) (currentTs : Nat)
    (hsorted : BestFirst order.side (book.levels (opposite order.side))) :
    let out := MatchingEngine.fillBookUntil order book priceLimit reportType currentTs
    GreedyWalk order (inReach order.side priceLimit (book.levels (opposite order.side))) out ∧
      ∀ fr ∈ out.2, MatchingEngine.acceptable order.side fr.lastFillPrice priceLimit = true := by
  intro out
  have hwalk : GreedyWalk order
      (inReach order.side priceLimit (book.levels (opposite order.side))) out := by
    rw [← takeWhile_reachable hsorted]
    exact walkLevels_greedy rfl _
  refine ⟨hwalk, fun fr hfr => ?_⟩
  have hprice := List.mem_map_of_mem (f := FillReport.lastFillPrice) hfr
  rw [hwalk.prices] at hprice
  obtain ⟨level, hlevel, heq⟩ := List.mem_map.mp (List.mem_of_mem_take hprice)
  rw [← heq]
  exact (List.mem_filter.mp hlevel).2

/-- An ask a hair beyond the limit, and one behind it. -/
def hairBeyond : OrderBookRecord where
  timestampNs := 1
  exchange := "OKX"
  symbol := "BTC"
  bidPx _ := 0
  bidSz _ := 0
  askPx := ![100 + 1 / 2000000000, 101, 0, 0, 0]
  askSz := ![1, 1, 0, 0, 0]

def buyAt100 : OpenOrder where
  orderId := 1
  clientOrderId := 1
  exchange := "OKX"
  symbol := "BTC"
  type := .LIMIT
  side := .BUY
  price := 100
  quantity := 2
  filledQty := 0
  submittedTs := 0

theorem fillBookUntil_greedy_hairBeyond :
    GreedyWalk buyAt100 (inReach .BUY (some 100) (hairBeyond.levels .SELL))
      (MatchingEngine.fillBookUntil buyAt100 hairBeyond (some 100) .LIMIT 0) :=
  (fillBookUntil_greedy buyAt100 hairBeyond (some 100) .LIMIT 0 (by decide +kernel)).1

/-- The walk takes an ask beyond the limit, and so more than is displayed within it. -/
theorem not_within_limit :
    BestFirst .BUY (hairBeyond.levels .SELL) ∧
      (MatchingEngine.fillBookUntil buyAt100 hairBeyond (some 100) .LIMIT 0).2.map
          (fun fr => (fr.lastFillPrice, fr.lastFillQty)) = [(100 + 1 / 2000000000, 1)] ∧
      (sizes ((displayed (hairBeyond.levels .SELL)).filter fun level => level.1 ≤ 100)).sum = 0 := by
  decide +kernel

end BptCore.Backtester
