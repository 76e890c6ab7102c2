import BptCore.Backtester.Matching.OrderSlots

/-!
# A print and the slots it eats

A trade print eats the queue of its level from the front. Each slot of ours that it reaches is that
of one resting order, which takes the fill; what is left of the queue is the queue of the orders
that still rest.

* **`Trades`** — what a print does to the orders of a book.
* **`trades_consumeSlots`** — the loop over the queue.
* **`advances_fillAgainstTrade`** — the print as a part of the engine.
-/

namespace BptCore.Backtester

open OpenItems

variable {waiting : Multiset OpenOrder} {pending : Table String (List OpenOrder)} {sq : SlotQueues}
  {fs gs : List FillReport} {L : Nat → Prop}

/-- The orders that a trade leaves resting. -/
def stillResting (orders : List OpenOrder) : List OpenOrder :=
  orders.filter fun o => !(o.queueSeeded && decide (o.filledQty ≥ o.quantity - kQtyTol))

theorem stillResting_append (orders orders' : List OpenOrder) :
    stillResting (orders ++ orders') = stillResting orders ++ stillResting orders' :=
  List.filter_append _ _

theorem stillResting_cons (o : OpenOrder) (orders : List OpenOrder) :
    stillResting (o :: orders) =
      if o.queueSeeded = true ∧ o.openQty ≤ kQtyTol then stillResting orders
      else o :: stillResting orders := by
  unfold stillResting
  have hfull : o.filledQty ≥ o.quantity - kQtyTol ↔ o.openQty ≤ kQtyTol := sub_le_comm
  by_cases h : o.queueSeeded = true ∧ o.openQty ≤ kQtyTol
  · rw [if_pos h, List.filter_cons_of_neg]
    simp [h.1, hfull.mpr h.2]
  · rw [if_neg h, List.filter_cons_of_pos]
    rw [Bool.not_eq_true', ← Bool.not_eq_true, Bool.and_eq_true, decide_eq_true_iff, hfull]
    exact h

/-- With every seeded order open, all are still resting. -/
theorem stillResting_eq {orders : List OpenOrder}
    (h : ∀ o ∈ orders, o.queueSeeded = true → kQtyTol < o.openQty) :
    stillResting orders = orders := by
  induction orders with
  | nil => rfl
  | cons o orders ih =>
    rw [stillResting_cons, if_neg, ih fun x hx => h x (List.mem_cons_of_mem o hx)]
    exact fun hfull => not_lt.mpr hfull.2 (h o List.mem_cons_self hfull.1)

/-- An order with a slot that is still resting is open. -/
theorem open_of_stillResting {orders : List OpenOrder} {o : OpenOrder} (h : o ∈ stillResting orders)
    (hseeded : o.queueSeeded = true) : kQtyTol < o.openQty := by
  have hopen := (List.mem_filter.mp h).2
  rw [hseeded, Bool.true_and, Bool.not_eq_true', decide_eq_false_iff_not] at hopen
  exact lt_sub_comm.mp (not_le.mp hopen)

/-- What trades at one level do to the orders of the book. -/
structure Trades (L : Nat → Prop) (s : OrderSide) (k : Int) (orders : List OpenOrder)
    (fs : List FillReport) (orders' : List OpenOrder) : Prop where
  others : ∀ s' k', ¬(s' = s ∧ k' = k) →
    seededAt (stillResting orders') s' k' = seededAt (stillResting orders) s' k'
  same : orders'.map OpenOrder.unfilled = orders.map OpenOrder.unfilled
  moves : Moves orderService L ((stillResting orders : Multiset OpenOrder).map OpenOrder.bare) fs
    ((stillResting orders' : Multiset OpenOrder).map OpenOrder.bare)

theorem Trades.refl (s : OrderSide) (k : Int) (orders : List OpenOrder) :
    Trades L s k orders [] orders where
  others _ _ _ := rfl
  same := rfl
  moves := .done _

theorem Trades.trans {s : OrderSide} {k : Int} {orders orders' orders'' : List OpenOrder}
    (h : Trades L s k orders fs orders') (h' : Trades L s k orders' gs orders'') :
    Trades L s k orders (fs ++ gs) orders'' where
  others s' k' hlevel := (h'.others s' k' hlevel).trans (h.others s' k' hlevel)
  same := h'.same.trans h.same
  moves := h.moves.trans h'.moves

/-- A trade changes the ids of no orders. -/
theorem Trades.ids {s : OrderSide} {k : Int} {orders orders' : List OpenOrder}
    (h : Trades L s k orders fs orders') :
    orders'.map OpenOrder.orderId = orders.map OpenOrder.orderId := by
  have hids := congrArg (List.map OpenOrder.orderId) h.same
  rwa [List.map_map, List.map_map] at hids

/-- The first order of the id takes the fill. -/
theorem fillRestingOrder_append {o : OpenOrder} {orders : List OpenOrder}
    (hfirst : ∀ x ∈ orders, x.orderId ≠ o.orderId) (orders' : List OpenOrder) {take : ℚ}
    (hpos : 0 < take) (hle : take ≤ o.openQty) (currentTs : Nat) :
    ∃ fr, MatchingEngine.fillRestingOrder o.orderId take currentTs (orders ++ o :: orders') =
      (orders ++ o.fill fr :: orders', some fr) ∧ FitsOrder o.bare fr ∧ fr.lastFillQty = take := by
  induction orders with
  | nil =>
    rw [List.nil_append, MatchingEngine.fillRestingOrder, if_neg (not_not.mpr rfl)]
    -- the report says what the fill makes of the order
    refine ⟨_, Prod.ext_iff.mpr ⟨?_, rfl⟩, ?_, ?_⟩
    · rfl
    · refine ⟨rfl, rfl, fun _ => hpos, rfl, ?_, ?_, fun _ => ?_⟩
      · show o.filledQty + take ≤ o.quantity
        rw [OpenOrder.openQty] at hle
        linarith
      · exact decide_eq_decide.mpr sub_le_comm
      · show Respects o.side o.price o.price 0
        unfold Respects
        cases o.side with
        | BUY => exact le_of_eq (add_zero _).symm
        | SELL => exact le_of_eq (sub_zero _)
    · rfl
  | cons x orders ih =>
    obtain ⟨fr, hfill, hfits⟩ := ih fun y hy => hfirst y (List.mem_cons_of_mem x hy)
    refine ⟨fr, ?_, hfits⟩
    rw [List.cons_append, MatchingEngine.fillRestingOrder, if_pos (hfirst x List.mem_cons_self),
      hfill]
    rfl

theorem seededAt_cons (o : OpenOrder) (orders : List OpenOrder) (s : OrderSide) (k : Int) :
    seededAt (o :: orders) s k =
      if o.queueSeeded = true ∧ o.side = s ∧ priceKey o.price = k then
        (o.orderId, o.openQty) :: seededAt orders s k
      else seededAt orders s k := by
  rw [← List.singleton_append, seededAt_append, seededAt_singleton]
  split <;> rfl

/-- A fill of an order with a slot is a trade at its level. -/
theorem trades_fill {o : OpenOrder} {fr : FillReport} (hseeded : o.queueSeeded = true)
    (hleft : kQtyTol < o.openQty) (hfits : FitsOrder o.bare fr) (orders orders' : List OpenOrder) :
    Trades L o.side (priceKey o.price) (orders ++ o :: orders') [fr]
      (orders ++ o.fill fr :: orders') where
  others s' k' hlevel := by
    have hother : ∀ o' : OpenOrder, o'.side = o.side → o'.price = o.price →
        seededAt (stillResting (o' :: orders')) s' k' = seededAt (stillResting orders') s' k' := by
      intro o' hside hprice
      rw [stillResting_cons]
      split
      · rfl
      · rw [seededAt_cons, if_neg]
        rintro ⟨-, rfl, rfl⟩
        exact hlevel ⟨hside, congrArg priceKey hprice⟩
    rw [stillResting_append, stillResting_append, seededAt_append, seededAt_append,
      hother o rfl rfl, hother (o.fill fr) rfl rfl]
  same := by
    rw [List.map_append, List.map_append]
    rfl
  moves := by
    rw [stillResting_append, stillResting_append, stillResting_cons o,
      if_neg fun h => not_lt.mpr h.2 hleft, stillResting_cons (o.fill fr),
      Multiset.coe_eq_coe.mpr List.perm_middle, ← Multiset.cons_coe, Multiset.map_cons]
    have hfull : fr.isFullyFilled = decide ((o.fill fr).openQty ≤ kQtyTol) := hfits.full
    by_cases hclosed : (o.fill fr).openQty ≤ kQtyTol
    · rw [if_pos ⟨hseeded, hclosed⟩]
      exact .close hfits (hfull.trans (decide_eq_true hclosed)) (.done _)
    · rw [if_neg fun h => hclosed h.2, Multiset.coe_eq_coe.mpr List.perm_middle,
        ← Multiset.cons_coe, Multiset.map_cons]
      exact .serve hfits (hfull.trans (decide_eq_false hclosed)) (.done _)

/-- The print eats into a slot of ours: its order takes the fill, and the rest of the queue agrees
with the orders that are still resting. -/
theorem trades_slot {slot : Slot} {slots : List Slot} {orders : List OpenOrder} {s : OrderSide}
    {k : Int} (hours : slot.isOurs = true) (hids : (orders.map OpenOrder.orderId).Nodup)
    (hslots : (ours (slot :: slots)).Perm (seededAt (stillResting orders) s k)) {take : ℚ}
    (hpos : 0 < slot.qty → 0 < take) (hle : take ≤ slot.qty) (currentTs : Nat) :
    ∃ fr orders', MatchingEngine.fillRestingOrder slot.ourOrderId take currentTs orders =
        (orders', some fr) ∧
      Trades L s k orders [fr] orders' ∧
      ((if slot.qty - take ≤ kQtyTol then [] else [(slot.ourOrderId, slot.qty - take)]) ++
        ours slots).Perm (seededAt (stillResting orders') s k) := by
  rw [ours_cons_of_ours hours] at hslots
  -- the slot is that of a resting order
  obtain ⟨o, ho, howner⟩ := List.mem_map.mp (hslots.mem_iff.mp List.mem_cons_self)
  rw [List.mem_filter, Bool.and_eq_true, Bool.and_eq_true, beq_iff_eq, beq_iff_eq] at ho
  obtain ⟨hmem, ⟨hseeded, rfl⟩, rfl⟩ := ho
  have hleft : kQtyTol < o.openQty := open_of_stillResting hmem hseeded
  have hmem : o ∈ orders := (List.mem_filter.mp hmem).1
  obtain ⟨hid, hqty⟩ := Prod.mk.inj howner
  rw [← hid, ← hqty] at hslots
  rw [← hqty] at hpos hle
  rw [← hid, ← hqty]
  obtain ⟨before, after, rfl⟩ := List.append_of_mem hmem
  have hfirst : ∀ x ∈ before, x.orderId ≠ o.orderId := by
    rw [List.map_append, List.map_cons] at hids
    intro x hx heq
    exact (List.nodup_append.mp hids).2.2 x.orderId (List.mem_map_of_mem hx) o.orderId
      List.mem_cons_self heq
  obtain ⟨fr, hfill, hfits, htake⟩ := fillRestingOrder_append hfirst after
    (hpos (kQtyTol_pos.trans hleft)) hle currentTs
  refine ⟨fr, _, hfill, trades_fill hseeded hleft hfits before after, ?_⟩
  have hopen : (o.fill fr).openQty = o.openQty - take := by
    show o.quantity - fr.cumulativeFillQty = _
    rw [hfits.cumulative, htake, OpenOrder.openQty, sub_add_eq_sub_sub]
    rfl
  have hrest : (ours slots).Perm (seededAt (stillResting before) o.side (priceKey o.price) ++
      seededAt (stillResting after) o.side (priceKey o.price)) := by
    rw [stillResting_append, stillResting_cons, if_neg fun h => not_lt.mpr h.2 hleft,
      seededAt_append, seededAt_cons, if_pos ⟨hseeded, rfl, rfl⟩] at hslots
    exact (hslots.trans List.perm_middle).cons_inv
  rw [stillResting_append, stillResting_cons, seededAt_append, ← hopen]
  by_cases hclosed : (o.fill fr).openQty ≤ kQtyTol
  · rw [if_pos hclosed, if_pos ⟨hseeded, hclosed⟩]
    exact hrest
  · rw [if_neg hclosed, if_neg fun h => hclosed h.2, seededAt_cons, if_pos ⟨hseeded, rfl, rfl⟩]
    exact (hrest.cons _).trans List.perm_middle.symm

/-- **The print and the queue.** The orders whose slots it eats are served, and the queue that is
left is that of the orders that still rest. -/
theorem trades_consumeSlots (currentTs : Nat) (remainingPrint : ℚ) {slots : List Slot}
    {orders : List OpenOrder} {s : OrderSide} {k : Int}
    (hids : (orders.map OpenOrder.orderId).Nodup)
    (hslots : (ours slots).Perm (seededAt (stillResting orders) s k)) :
    let out := MatchingEngine.consumeSlots currentTs remainingPrint slots orders
    Trades L s k orders out.2.2 out.2.1 ∧
      (ours out.1).Perm (seededAt (stillResting out.2.1) s k) := by
  induction slots generalizing remainingPrint orders with
  | nil => exact ⟨.refl s k orders, hslots⟩
  | cons slot slots ih =>
    unfold MatchingEngine.consumeSlots
    split
    · exact ⟨.refl s k orders, hslots⟩
    · next hprint =>
      dsimp only
      cases hours : slot.isOurs with
      | false =>
        rw [ours_cons_of_venue hours] at hslots
        simp only [Bool.false_eq_true, if_false]
        split
        · exact ih _ hids hslots
        · refine ⟨.refl s k orders, ?_⟩
          show (ours (_ :: slots)).Perm _
          rw [ours_cons_of_venue rfl]
          exact hslots
      | true =>
        obtain ⟨fr, orders', hfill, htrades, hrest⟩ := trades_slot (L := L) hours hids hslots
          (fun hqty => lt_min (not_le.mp hprint) hqty) (min_le_right _ _) currentTs
        simp only [if_true, hfill]
        split
        · next hused =>
          rw [if_pos hused] at hrest
          have hnext := ih (remainingPrint - min remainingPrint slot.qty)
            (htrades.ids ▸ hids) hrest
          exact ⟨htrades.trans hnext.1, hnext.2⟩
        · next hlasts =>
          rw [if_neg hlasts] at hrest
          refine ⟨htrades, ?_⟩
          show (ours (_ :: slots)).Perm _
          rw [ours_cons_of_ours rfl]
          exact hrest

/-- What the trades leave of the orders is what was there, further filled. -/
theorem Trades.mem {s : OrderSide} {k : Int} {orders orders' : List OpenOrder}
    (h : Trades L s k orders fs orders') {o : OpenOrder} (ho : o ∈ orders') :
    ∃ o₀ ∈ orders, o₀.exchange = o.exchange ∧ o₀.symbol = o.symbol := by
  have hsame := List.mem_map_of_mem (f := OpenOrder.unfilled) ho
  rw [h.same] at hsame
  obtain ⟨o₀, ho₀, heq⟩ := List.mem_map.mp hsame
  have hexchange := congrArg OpenOrder.exchange heq
  have hsymbol := congrArg OpenOrder.symbol heq
  exact ⟨o₀, ho₀, hexchange, hsymbol⟩

/-- The book's orders after the trades, in a table that has the book already. -/
theorem Trades.written {s : OrderSide} {k : Int} {bk : String} {orders' : List OpenOrder}
    (h : Trades L s k (restingIn pending bk) fs orders') :
    Written pending bk (stillResting orders')
      (if (pending.lookup bk).isSome then pending.insert bk (stillResting orders')
        else pending) := by
  cases hlookup : pending.lookup bk with
  | some found => exact .insert _ _ _
  | none =>
    -- no orders rest in the book, and the trades bring none
    have hnone : restingIn pending bk = [] := by
      rw [restingIn, hlookup]
      rfl
    have hout : orders' = [] :=
      List.map_eq_nil_iff.mp (h.same.trans (congrArg _ hnone))
    rw [hout, show stillResting [] = restingIn pending bk from hnone.symm]
    exact .rfl _ _

theorem Consistent.ids_nodup (h : Consistent waiting pending sq) (bk : String) :
    ((restingIn pending bk).map OpenOrder.orderId).Nodup := by
  rw [← Multiset.coe_nodup, ← Multiset.map_coe]
  refine Multiset.nodup_of_le (Multiset.map_le_map ?_) h.distinct
  rw [restingOrders_eq pending bk, add_left_comm]
  exact Multiset.le_add_right _ _

theorem advances_fillAgainstTrade {e : MatchingEngine} (trade : TradeRecord)
    (h : Consistent waiting e.pending e.slotQueues) :
    Advances L waiting e.pending (e.fillAgainstTrade trade).2 waiting
      (e.fillAgainstTrade trade).1.pending (e.fillAgainstTrade trade).1.slotQueues := by
  unfold MatchingEngine.fillAgainstTrade
  dsimp only
  split
  · exact Advances.refl h
  · exact Advances.refl h
  · next q _ hqueue =>
    let bk := MatchingEngine.key trade.exchange trade.symbol
    let ourSide := opposite trade.side
    let orders := restingIn e.pending bk
    let out := MatchingEngine.consumeSlots e.currentTs trade.quantity q orders
    have hall : stillResting orders = orders := stillResting_eq (h.left bk)
    have hslots : (ours q).Perm
        (seededAt (stillResting orders) ourSide (priceKey trade.price)) := by
      rw [hall, ← SlotQueues.queueAt_of_levelQueueIfExists _ _ _ _ hqueue]
      exact h.slots bk _ _
    obtain ⟨htrades, hleft⟩ :=
      trades_consumeSlots (L := L) e.currentTs trade.quantity (h.ids_nodup bk) hslots
    have hwritten := htrades.written
    constructor
    · refine h.write hwritten h.unseeded (fun s k => ?_) (fun bk' s k hbk => ?_) (fun o ho => ?_)
        (fun o ho => ?_) ?_
      · rw [SlotQueues.queueAt_setLevelQueue]
        by_cases hlevel : s = ourSide ∧ k = priceKey trade.price
        · rw [if_pos ⟨rfl, hlevel⟩, hlevel.1, hlevel.2]
          exact hleft
        · rw [if_neg fun h => hlevel h.2, htrades.others s k hlevel, hall]
          exact h.slots bk s k
      · rw [SlotQueues.queueAt_setLevelQueue, if_neg fun h => hbk h.1]
      · exact open_of_stillResting ho
      · obtain ⟨o₀, ho₀, hexchange, hsymbol⟩ := htrades.mem (List.mem_filter.mp ho).1
        rw [← hexchange, ← hsymbol]
        exact h.own bk o₀ ho₀
      · rw [Multiset.map_add, Multiset.map_add]
        refine add_le_add_right ?_ _
        rw [Multiset.map_coe, Multiset.map_coe, ← htrades.ids]
        exact Multiset.coe_le.mpr (List.filter_sublist.map _).subperm
    · refine hwritten.moves ?_
      have hmoves := htrades.moves
      rwa [hall] at hmoves

end BptCore.Backtester
