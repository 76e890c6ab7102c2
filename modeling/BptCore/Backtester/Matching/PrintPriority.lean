import BptCore.Backtester.Matching.EngineRun
import BptCore.Backtester.Matching.VenueCancels
import BptCore.Lib.FrontFirst

/-!
# Priority of a print

A print eats the queue of its own level from the front. So within the level the orders that came
first are filled first, the print fills what it can, and the orders of all other levels keep what
they have, also those at a better price.

* **`NoneEmpty`** — the invariant: no slot is empty.
* **`EatsInOrder`** — what a print does to the queue, the orders and the other levels.
* **`prints_eat_in_order`** — every print does, in every run.
-/

namespace BptCore.Backtester

open Machine OpenItems FrontFirst

/-- No slot of the queue is empty. -/
def NoneEmpty (q : List Slot) : Prop := ∀ slot ∈ q, 0 < slot.qty

/-- No slot of any queue is empty. -/
def AllFull (sq : SlotQueues) : Prop := ∀ bk s k, NoneEmpty (sq.queueAt bk s k)

theorem NoneEmpty.nonneg {q : List Slot} (h : NoneEmpty q) : NonNeg q :=
  fun slot hslot => (h slot hslot).le

theorem NoneEmpty.append {q q' : List Slot} (h : NoneEmpty q) (h' : NoneEmpty q') :
    NoneEmpty (q ++ q') :=
  fun slot hslot => (List.mem_append.mp hslot).elim (h slot) (h' slot)

theorem NoneEmpty.filter {q : List Slot} (h : NoneEmpty q) (p : Slot → Bool) :
    NoneEmpty (q.filter p) :=
  fun slot hslot => h slot (List.mem_of_mem_filter hslot)

theorem AllFull.setLevelQueue {sq : SlotQueues} (h : AllFull sq) {q : List Slot}
    (hq : NoneEmpty q) (bk : String) (s : OrderSide) (price : ℚ) :
    AllFull (sq.setLevelQueue bk s price q) := by
  intro bk' s' k'
  rw [SlotQueues.queueAt_setLevelQueue]
  split
  · exact hq
  · exact h bk' s' k'

/-! ## Snapshots -/

theorem qty_pos_of_mem_ours {q : List Slot} (h : NoneEmpty q) {x : Nat × ℚ} (hx : x ∈ ours q) :
    0 < x.2 := by
  obtain ⟨slot, hslot, rfl⟩ := List.mem_map.mp hx
  exact h slot (List.mem_of_mem_filter hslot)

theorem noneEmpty_distributeCancels {q : List Slot} (h : NoneEmpty q) (cancels : ℚ) :
    NoneEmpty (distributeCancels q cancels) := by
  intro slot hslot
  by_cases howner : slot.isOurs = true
  · -- the slots of ours are those of before
    have hmine : (slot.ourOrderId, slot.qty) ∈ ours (distributeCancels q cancels) :=
      List.mem_map.mpr ⟨slot, List.mem_filter.mpr ⟨hslot, howner⟩, rfl⟩
    rw [ours_distributeCancels] at hmine
    exact qty_pos_of_mem_ours h hmine
  · rw [distributeCancels_eq] at hslot
    split at hslot
    · exact h slot hslot
    · have hstays := (List.mem_filter.mp hslot).2
      have hmore : kQtyTol < slot.qty := by
        simpa [stays, Bool.eq_false_iff.mpr howner] using hstays
      exact kQtyTol_pos.trans hmore

theorem allFull_reconcileOne {sq : SlotQueues} (h : AllFull sq) (bk : String) (currentTs : Nat)
    (s : OrderSide) (price observed : ℚ) :
    AllFull (reconcileOne bk currentTs s price observed sq) := by
  unfold reconcileOne
  split
  · exact h
  · refine h.setLevelQueue ?_ bk s price
    have hq : NoneEmpty (sq.levelQueue bk s price) := by
      rw [SlotQueues.levelQueue_eq]
      exact h bk s _
    split
    · next hjoined =>
      refine hq.append fun slot hslot => ?_
      rw [List.mem_singleton.mp hslot]
      exact kQtyTol_pos.trans hjoined
    · split
      · exact noneEmpty_distributeCancels hq _
      · exact hq

theorem allFull_reconcileL2Snapshot {sq : SlotQueues} (h : AllFull sq) (bk : String)
    (currentTs : Nat) (book : OrderBookRecord) :
    AllFull (reconcileL2Snapshot bk currentTs book sq) := by
  unfold reconcileL2Snapshot
  induction List.finRange kOrderBookDepth generalizing sq with
  | nil => exact h
  | cons i levels ih =>
    rw [List.foldl_cons]
    refine ih ?_
    have hbid : AllFull (if book.bidPx i > 0 ∧ book.bidSz i > 0 then
        reconcileOne bk currentTs .BUY (book.bidPx i) (book.bidSz i) sq else sq) := by
      split
      · exact allFull_reconcileOne h bk currentTs _ _ _
      · exact h
    dsimp only
    split
    · exact allFull_reconcileOne hbid bk currentTs _ _ _
    · exact hbid

/-! ## Matching -/

section Engine

variable {e : MatchingEngine}

theorem allFull_rest (h : AllFull e.slotQueues) {order : OpenOrder}
    (hopen : order.filledQty < order.quantity - kQtyTol) (book : OrderBookRecord) :
    AllFull (e.rest order book).slotQueues := by
  unfold MatchingEngine.rest
  refine h.setLevelQueue ?_ _ _ _
  have hq : NoneEmpty (e.slotQueues.levelQueue (MatchingEngine.key order.exchange order.symbol)
      order.side order.price) := by
    rw [SlotQueues.levelQueue_eq]
    exact h _ _ _
  refine NoneEmpty.append ?_ fun slot hslot => ?_
  · split
    · next hseeds =>
      refine hq.append fun slot hslot => ?_
      rw [List.mem_singleton.mp hslot]
      exact hseeds.1
    · exact hq
  · rw [List.mem_singleton.mp hslot]
    have htol := kQtyTol_pos
    show 0 < order.quantity - order.filledQty
    linarith

theorem allFull_processPendingSubmit (h : AllFull e.slotQueues) (order : OpenOrder) :
    AllFull (e.processPendingSubmit order).1.slotQueues := by
  unfold MatchingEngine.processPendingSubmit
  dsimp only
  split
  · split
    · exact h
    · exact h
  · split
    · exact h
    · split
      · split
        · next hopen => exact allFull_rest h hopen _
        · exact h
      · split
        · next hopen => exact allFull_rest h hopen _
        · exact h

theorem allFull_matchDue (h : AllFull e.slotQueues) (uptoTs : Nat) (submits : List PendingSubmit) :
    AllFull (MatchingEngine.matchDue uptoTs e submits).1.slotQueues := by
  induction submits generalizing e with
  | nil => exact h
  | cons ps submits ih =>
    unfold MatchingEngine.matchDue
    split
    · exact h
    · exact ih (allFull_processPendingSubmit
        (e := { e with currentTs := max e.currentTs ps.scheduledMatchTs }) h ps.order)

theorem allFull_scheduleFills (h : AllFull e.slotQueues) (fills : List FillReport) :
    AllFull (e.scheduleFills fills).slotQueues := by
  obtain ⟨pendingFills, drawn, hscheduled⟩ := e.scheduleFills_eq fills
  rw [hscheduled]
  exact h

theorem allFull_drainPendingSubmits (h : AllFull e.slotQueues) (uptoTs : Nat) :
    AllFull (e.drainPendingSubmits uptoTs).1.slotQueues := by
  let sorted := e.pendingSubmits.insertionSort fun a b => a.scheduledMatchTs ≤ b.scheduledMatchTs
  have hmatched := allFull_matchDue h uptoTs sorted
  exact allFull_scheduleFills (e := { (MatchingEngine.matchDue uptoTs e sorted).1 with
    pendingSubmits := (MatchingEngine.matchDue uptoTs e sorted).2.1 }) hmatched _

end Engine

/-! ## Prints -/

/-- What a print takes from each slot. -/
def takes (print : ℚ) (q : List Slot) : List ℚ := served print (q.map Slot.qty)

/-- The fills that the takes are for our orders: order and quantity, front first. -/
def takenOfOurs (print : ℚ) (q : List Slot) : List (Nat × ℚ) :=
  ((q.zip (takes print q)).filter fun x => x.1.isOurs && decide (0 < x.2)).map
    fun x => (x.1.ourOrderId, x.2)

theorem takes_cons (print : ℚ) (slot : Slot) (q : List Slot) :
    takes print (slot :: q) = min (max 0 print) slot.qty :: takes (print - slot.qty) q := rfl

/-- A fill is for the first order of its id. -/
theorem fillRestingOrder_spec {id : Nat} {take : ℚ} {currentTs : Nat} {orders orders' : List OpenOrder}
    {fr : FillReport}
    (h : MatchingEngine.fillRestingOrder id take currentTs orders = (orders', some fr)) :
    fr.orderId = id ∧ fr.lastFillQty = take ∧
      ∃ o ∈ orders, o.orderId = id ∧ fr.side = o.side ∧ fr.lastFillPrice = o.price := by
  induction orders generalizing orders' with
  | nil => cases h
  | cons order orders ih =>
    rw [MatchingEngine.fillRestingOrder] at h
    split at h
    · obtain ⟨hout, hfr⟩ := Prod.mk.inj h
      obtain ⟨hid, htake, o, ho, hspec⟩ := ih (Prod.ext rfl hfr)
      exact ⟨hid, htake, o, List.mem_cons_of_mem _ ho, hspec⟩
    · next hid =>
      obtain ⟨-, hfr⟩ := Prod.mk.inj h
      obtain rfl := Option.some.inj hfr
      exact ⟨not_not.mp hid, rfl, order, List.mem_cons_self, not_not.mp hid, rfl, rfl⟩

/-- The part of the book's orders that a slot's take goes to. -/
def fillSlot (currentTs : Nat) (slot : Slot) (take : ℚ) (orders : List OpenOrder) :
    List OpenOrder × Option FillReport :=
  if slot.isOurs then MatchingEngine.fillRestingOrder slot.ourOrderId take currentTs orders
  else (orders, none)

/-! The three ways a step of the loop goes: the print is used up, the slot is, or the slot outlasts
the print. -/

section Loop

variable {currentTs : Nat} {print : ℚ} {slot : Slot} {slots : List Slot} {orders : List OpenOrder}

theorem consumeSlots_of_nonpos (hnone : print ≤ 0) :
    MatchingEngine.consumeSlots currentTs print slots orders = (slots, orders, []) := by
  cases slots with
  | nil => rfl
  | cons slot slots => rw [MatchingEngine.consumeSlots, if_pos hnone]

theorem consumeSlots_of_le (hpos : 0 < print) (hle : slot.qty ≤ print) :
    MatchingEngine.consumeSlots currentTs print (slot :: slots) orders =
      let filled := fillSlot currentTs slot slot.qty orders
      let out := MatchingEngine.consumeSlots currentTs (print - slot.qty) slots filled.1
      (out.1, out.2.1, filled.2.toList ++ out.2.2) := by
  have hused : slot.qty - slot.qty ≤ kQtyTol := (sub_self slot.qty).trans_le kQtyTol_pos.le
  rw [MatchingEngine.consumeSlots, if_neg (not_le.mpr hpos), min_eq_right hle]
  dsimp only
  rw [if_pos hused]
  rfl

theorem consumeSlots_of_lt (hpos : 0 < print) (hlt : print < slot.qty) :
    MatchingEngine.consumeSlots currentTs print (slot :: slots) orders =
      let filled := fillSlot currentTs slot print orders
      (if slot.qty - print ≤ kQtyTol then slots
        else { slot with qty := slot.qty - print } :: slots,
        filled.1, filled.2.toList) := by
  rw [MatchingEngine.consumeSlots, if_neg (not_le.mpr hpos), min_eq_left hlt.le]
  dsimp only
  rw [sub_self, consumeSlots_of_nonpos le_rfl]
  split
  · rw [List.append_nil]
    rfl
  · rfl

end Loop

/-- A level's part of the invariant: the orders with slots in the queue are those that still rest
there. -/
structure AtLevel (s : OrderSide) (k : Int) (q : List Slot) (orders : List OpenOrder) : Prop where
  ids : (orders.map OpenOrder.orderId).Nodup
  slots : (ours q).Perm (seededAt (stillResting orders) s k)

/-- A fill is for an order that rests at the level, at the order's price. -/
def FillsAt (s : OrderSide) (k : Int) (orders : List OpenOrder) (fr : FillReport) : Prop :=
  ∃ o ∈ orders, o.orderId = fr.orderId ∧ o.side = s ∧ priceKey o.price = k ∧ fr.side = o.side ∧
    fr.lastFillPrice = o.price

theorem FillsAt.of_same {s : OrderSide} {k : Int} {orders orders' : List OpenOrder}
    (hsame : orders'.map OpenOrder.unfilled = orders.map OpenOrder.unfilled) {fr : FillReport}
    (h : FillsAt s k orders' fr) : FillsAt s k orders fr := by
  obtain ⟨o', ho', hid, hside, hkey, hfrSide, hprice⟩ := h
  have hmem := List.mem_map_of_mem (f := OpenOrder.unfilled) ho'
  rw [hsame] at hmem
  obtain ⟨o, ho, heq⟩ := List.mem_map.mp hmem
  have horderId : o.unfilled.orderId = o'.unfilled.orderId := congrArg OpenOrder.orderId heq
  have horderSide : o.unfilled.side = o'.unfilled.side := congrArg OpenOrder.side heq
  have horderPrice : o.unfilled.price = o'.unfilled.price := congrArg OpenOrder.price heq
  exact ⟨o, ho, horderId.trans hid, horderSide.trans hside, (congrArg priceKey horderPrice).trans hkey,
    hfrSide.trans horderSide.symm, hprice.trans horderPrice.symm⟩

/-- What one slot's take does: a slot of ours gives its order the fill. -/
theorem fillSlot_spec {s : OrderSide} {k : Int} {slot : Slot} {slots : List Slot}
    {orders : List OpenOrder} (h : AtLevel s k (slot :: slots) orders) {take : ℚ} (hpos : 0 < take)
    (hle : take ≤ slot.qty) (currentTs : Nat) :
    let filled := fillSlot currentTs slot take orders
    filled.2.toList.map (fun fr => (fr.orderId, fr.lastFillQty)) =
        (if slot.isOurs then [(slot.ourOrderId, take)] else []) ∧
      (∀ fr ∈ filled.2.toList, FillsAt s k orders fr) ∧
      filled.1.map OpenOrder.unfilled = orders.map OpenOrder.unfilled ∧
      (slot.qty - take ≤ kQtyTol → AtLevel s k slots filled.1) := by
  unfold fillSlot
  by_cases howner : slot.isOurs = true
  · obtain ⟨fr, orders', hfill, htrades, hrest⟩ := trades_slot (L := fun _ => True) howner h.ids
      h.slots (fun _ => hpos) hle currentTs
    obtain ⟨hid, htake, o, ho, hoid, hside, hprice⟩ := fillRestingOrder_spec hfill
    rw [if_pos howner, if_pos howner, hfill]
    refine ⟨?_, ?_, htrades.same, fun hused => ⟨htrades.ids ▸ h.ids, ?_⟩⟩
    · show [(fr.orderId, fr.lastFillQty)] = _
      rw [hid, htake]
    · intro fr' hfr'
      rw [List.mem_singleton.mp hfr']
      -- the slot is that of a resting order, which is the first and only one of its id
      have hslots := h.slots
      rw [ours_cons_of_ours howner] at hslots
      obtain ⟨o', ho', heq⟩ := List.mem_map.mp (hslots.mem_iff.mp List.mem_cons_self)
      rw [List.mem_filter, Bool.and_eq_true, Bool.and_eq_true, beq_iff_eq, beq_iff_eq] at ho'
      obtain ⟨hmem, ⟨-, hs⟩, hk⟩ := ho'
      have hid' : o'.orderId = slot.ourOrderId := congrArg Prod.fst heq
      have hsame : o' = o := List.inj_on_of_nodup_map h.ids (List.mem_filter.mp hmem).1 ho
        (hid'.trans hoid.symm)
      subst hsame
      exact ⟨o', ho, hoid.trans hid.symm, hs, hk, hside, hprice⟩
    · rwa [if_pos hused, List.nil_append] at hrest
  · rw [if_neg howner, if_neg howner]
    refine ⟨rfl, fun fr hfr => absurd hfr List.not_mem_nil, rfl, fun _ => ⟨h.ids, ?_⟩⟩
    have hslots := h.slots
    rwa [ours_cons_of_venue (Bool.eq_false_iff.mpr howner)] at hslots

/-- What is left of the queue: a slot with no more than dust left is gone. -/
structure Left (print : ℚ) (q q' : List Slot) : Prop where
  full : NoneEmpty q'
  le : totalQty q' ≤ totalQty q - (takes print q).sum
  ge : totalQty q - (takes print q).sum ≤ totalQty q' + kQtyTol

theorem takes_of_nonpos {print : ℚ} (hnone : print ≤ 0) {q : List Slot} (h : NoneEmpty q) :
    takes print q = List.replicate q.length 0 := by
  rw [takes, served_of_nonpos hnone, List.length_map]
  intro x hx
  obtain ⟨slot, hslot, rfl⟩ := List.mem_map.mp hx
  exact (h slot hslot).le

theorem sum_takes_of_nonpos {print : ℚ} (hnone : print ≤ 0) {q : List Slot} (h : NoneEmpty q) :
    (takes print q).sum = 0 := by
  rw [takes_of_nonpos hnone h, List.sum_replicate, nsmul_zero]

theorem takenOfOurs_of_nonpos {print : ℚ} (hnone : print ≤ 0) {q : List Slot} (h : NoneEmpty q) :
    takenOfOurs print q = [] := by
  rw [takenOfOurs, takes_of_nonpos hnone h, List.map_eq_nil_iff, List.filter_eq_nil_iff]
  intro x hx
  have hzero : x.2 = 0 := List.eq_of_mem_replicate (List.of_mem_zip hx).2
  rw [hzero]
  simp

theorem takenOfOurs_cons {print : ℚ} {slot : Slot} (q : List Slot)
    (hpos : 0 < min (max 0 print) slot.qty) :
    takenOfOurs print (slot :: q) =
      (if slot.isOurs then [(slot.ourOrderId, min (max 0 print) slot.qty)] else []) ++
        takenOfOurs (print - slot.qty) q := by
  rw [takenOfOurs, takes_cons, List.zip_cons_cons]
  by_cases howner : slot.isOurs = true
  · rw [List.filter_cons_of_pos (by simp [howner, hpos]), if_pos howner]
    rfl
  · rw [List.filter_cons_of_neg (by simp [howner]), if_neg howner]
    rfl

theorem Left.none {print : ℚ} (hnone : print ≤ 0) {q : List Slot} (h : NoneEmpty q) :
    Left print q q where
  full := h
  le := by rw [sum_takes_of_nonpos hnone h, sub_zero]
  ge := by
    rw [sum_takes_of_nonpos hnone h, sub_zero]
    exact le_add_of_nonneg_right kQtyTol_pos.le

/-- **The loop of a print**: the takes are served front first, those from slots of ours are the
fills, and only the slots that are used up go. -/
theorem consumeSlots_spec (currentTs : Nat) {s : OrderSide} {k : Int} {print : ℚ}
    {slots : List Slot} {orders : List OpenOrder} (hfull : NoneEmpty slots)
    (h : AtLevel s k slots orders) :
    let out := MatchingEngine.consumeSlots currentTs print slots orders
    out.2.2.map (fun fr => (fr.orderId, fr.lastFillQty)) = takenOfOurs print slots ∧
      (∀ fr ∈ out.2.2, FillsAt s k orders fr) ∧ Left print slots out.1 := by
  induction slots generalizing print orders with
  | nil =>
    refine ⟨rfl, fun fr hfr => absurd hfr List.not_mem_nil, ?_⟩
    have hnone : totalQty [] - (takes print []).sum = 0 := sub_zero 0
    exact ⟨hfull, hnone.ge, hnone.trans_le (add_nonneg le_rfl kQtyTol_pos.le)⟩
  | cons slot slots ih =>
    obtain ⟨hslot, hslots⟩ := List.forall_mem_cons.mp hfull
    rcases le_or_gt print 0 with hnone | hpos
    · rw [consumeSlots_of_nonpos hnone, takenOfOurs_of_nonpos hnone hfull]
      exact ⟨rfl, fun fr hfr => absurd hfr List.not_mem_nil, .none hnone hfull⟩
    have htake : 0 < min (max 0 print) slot.qty := lt_min (hpos.trans_le (le_max_right _ _)) hslot
    rw [takenOfOurs_cons slots htake, max_eq_right hpos.le]
    rcases le_or_gt slot.qty print with hle | hlt
    · -- the slot is used up
      obtain ⟨hfills, hat, hsame, hrest⟩ := fillSlot_spec h hslot le_rfl currentTs
      obtain ⟨hlater, hlaterAt, hleft⟩ := @ih (print - slot.qty) _ hslots
        (hrest ((sub_self slot.qty).trans_le kQtyTol_pos.le))
      rw [consumeSlots_of_le hpos hle, min_eq_right hle]
      refine ⟨?_, fun fr hfr => ?_, hleft.full, ?_, ?_⟩
      · rw [List.map_append, hfills, hlater]
      · exact (List.mem_append.mp hfr).elim (hat fr) fun hfr => (hlaterAt fr hfr).of_same hsame
      · have := hleft.le
        rw [takes_cons, List.sum_cons, max_eq_right hpos.le, min_eq_right hle, totalQty_cons]
        dsimp only
        linarith
      · have := hleft.ge
        rw [takes_cons, List.sum_cons, max_eq_right hpos.le, min_eq_right hle, totalQty_cons]
        dsimp only
        linarith
    · -- the slot outlasts the print, up to dust
      obtain ⟨hfills, hat, -, -⟩ := fillSlot_spec h hpos hlt.le currentTs
      have hlater : print - slot.qty ≤ 0 := sub_nonpos.mpr hlt.le
      rw [consumeSlots_of_lt hpos hlt, min_eq_left hlt.le, takenOfOurs_of_nonpos hlater hslots,
        List.append_nil]
      refine ⟨hfills, hat, ?_, ?_, ?_⟩
      · dsimp only
        split
        · exact hslots
        · exact List.forall_mem_cons.mpr ⟨sub_pos.mpr hlt, hslots⟩
      · rw [takes_cons, List.sum_cons, max_eq_right hpos.le, min_eq_left hlt.le,
          sum_takes_of_nonpos hlater hslots, totalQty_cons]
        dsimp only
        split
        · linarith
        · rw [totalQty_cons]
          dsimp only
          linarith
      · rw [takes_cons, List.sum_cons, max_eq_right hpos.le, min_eq_left hlt.le,
          sum_takes_of_nonpos hlater hslots, totalQty_cons]
        dsimp only
        split
        · linarith
        · have htol := kQtyTol_pos
          rw [totalQty_cons]
          dsimp only
          linarith

/-! ## The engine -/

namespace MatchingEngine

variable {e : MatchingEngine}

/-- The queue that a print eats. -/
def printed (e : MatchingEngine) (trade : TradeRecord) : List Slot :=
  e.slotQueues.queueAt (key trade.exchange trade.symbol) (opposite trade.side)
    (priceKey trade.price)

/-- **A print eats in order**: a slot of its level is reached when all in front of it are used up;
what is taken is the print or all of the level; the fills are what is taken from slots of ours, for
orders that rest at the level; and no other level has to do with it. -/
structure EatsInOrder (e : MatchingEngine) (trade : TradeRecord) : Prop where
  fifo : ∀ (i j : Nat) (take : ℚ), (takes trade.quantity (e.printed trade))[i]? = some take →
    0 < take → j < i →
      (takes trade.quantity (e.printed trade))[j]? = ((e.printed trade).map Slot.qty)[j]?
  total : (takes trade.quantity (e.printed trade)).sum =
    min (max 0 trade.quantity) (totalQty (e.printed trade))
  fills : (e.fillAgainstTrade trade).2.map (fun fr => (fr.orderId, fr.lastFillQty)) =
    takenOfOurs trade.quantity (e.printed trade)
  fillsAt : ∀ fr ∈ (e.fillAgainstTrade trade).2, FillsAt (opposite trade.side)
    (priceKey trade.price) (restingIn e.pending (key trade.exchange trade.symbol)) fr
  left : Left trade.quantity (e.printed trade) ((e.fillAgainstTrade trade).1.printed trade)
  others : ∀ bk s k, ¬(bk = key trade.exchange trade.symbol ∧ s = opposite trade.side ∧
    k = priceKey trade.price) →
      (e.fillAgainstTrade trade).1.slotQueues.queueAt bk s k = e.slotQueues.queueAt bk s k ∧
        seededAt (restingIn (e.fillAgainstTrade trade).1.pending bk) s k =
          seededAt (restingIn e.pending bk) s k

theorem qtys_nonneg {q : List Slot} (h : NoneEmpty q) : ∀ x ∈ q.map Slot.qty, 0 ≤ x := by
  intro x hx
  obtain ⟨slot, hslot, rfl⟩ := List.mem_map.mp hx
  exact (h slot hslot).le

/-- No queue at the level of the print. -/
theorem fillAgainstTrade_of_empty {trade : TradeRecord} (hempty : e.printed trade = []) :
    e.fillAgainstTrade trade = (e, []) := by
  unfold fillAgainstTrade
  dsimp only
  split
  · rfl
  · rfl
  · next q hne hqueue =>
    have hq := SlotQueues.queueAt_of_levelQueueIfExists _ _ _ _ hqueue
    exact absurd (hq.symm.trans hempty) hne

/-- A queue there: the loop eats it. -/
theorem fillAgainstTrade_of_queue {trade : TradeRecord} (hsome : e.printed trade ≠ []) :
    let bk := key trade.exchange trade.symbol
    let out := consumeSlots e.currentTs trade.quantity (e.printed trade) (restingIn e.pending bk)
    e.fillAgainstTrade trade =
      ({ e with
         slotQueues := e.slotQueues.setLevelQueue bk (opposite trade.side) trade.price out.1
         pending := if (e.pending.lookup bk).isSome then e.pending.insert bk (stillResting out.2.1)
           else e.pending }, out.2.2) := by
  unfold fillAgainstTrade
  dsimp only
  split
  · next hqueue =>
    exact absurd (SlotQueues.queueAt_of_levelQueueIfExists_none _ _ _ _ hqueue) hsome
  · next hqueue =>
    exact absurd (SlotQueues.queueAt_of_levelQueueIfExists _ _ _ _ hqueue) hsome
  · next q _ hqueue =>
    have hq : e.printed trade = q := SlotQueues.queueAt_of_levelQueueIfExists _ _ _ _ hqueue
    rw [hq]
    rfl

theorem eatsInOrder (h : e.InStep) (hfull : AllFull e.slotQueues) (trade : TradeRecord) :
    e.EatsInOrder trade := by
  let bk := key trade.exchange trade.symbol
  let orders := restingIn e.pending bk
  have hqueue : NoneEmpty (e.printed trade) := hfull _ _ _
  have hqtys := qtys_nonneg hqueue
  have hall : stillResting orders = orders := stillResting_eq (h.left bk)
  have hlevel : AtLevel (opposite trade.side) (priceKey trade.price) (e.printed trade) orders := by
    refine ⟨h.ids_nodup bk, ?_⟩
    rw [hall]
    exact h.slots bk _ _
  have hspec := @consumeSlots_spec e.currentTs _ _ trade.quantity _ _ hqueue hlevel
  have htrades := (trades_consumeSlots (L := fun _ => True) e.currentTs trade.quantity hlevel.ids
    hlevel.slots).1
  have hfifo : ∀ (i j : Nat) (take : ℚ),
      (takes trade.quantity (e.printed trade))[i]? = some take → 0 < take → j < i →
        (takes trade.quantity (e.printed trade))[j]? = ((e.printed trade).map Slot.qty)[j]? :=
    fun i j take htake hpos hji => exhausted_of_served hqtys htake hpos hji
  have htotal : (takes trade.quantity (e.printed trade)).sum =
      min (max 0 trade.quantity) (totalQty (e.printed trade)) := sum_served hqtys
  by_cases hempty : e.printed trade = []
  · -- there is nothing to eat
    have hsame := fillAgainstTrade_of_empty hempty
    refine ⟨hfifo, htotal, ?_, ?_, ?_, fun bk' s k _ => ?_⟩
    · rw [hsame, hempty]
      rfl
    · rw [hsame]
      exact fun fr hfr => absurd hfr List.not_mem_nil
    · rw [hsame, hempty]
      have hnil : NoneEmpty [] := hempty ▸ hqueue
      exact (consumeSlots_spec e.currentTs hnil (hempty ▸ hlevel)).2.2
    · rw [hsame]
      exact ⟨rfl, rfl⟩
  · have heaten := fillAgainstTrade_of_queue hempty
    refine ⟨hfifo, htotal, ?_, ?_, ?_, fun bk' s k hother => ⟨?_, ?_⟩⟩
    · rw [heaten]
      exact hspec.1
    · rw [heaten]
      exact hspec.2.1
    · have hprinted : (e.fillAgainstTrade trade).1.printed trade =
          (consumeSlots e.currentTs trade.quantity (e.printed trade) orders).1 := by
        rw [heaten]
        exact (SlotQueues.queueAt_setLevelQueue _ _ _ _ _ _ _ _).trans (if_pos ⟨rfl, rfl, rfl⟩)
      rw [hprinted]
      exact hspec.2.2
    · rw [heaten]
      dsimp only
      rw [SlotQueues.queueAt_setLevelQueue, if_neg hother]
    · rw [heaten]
      dsimp only
      rw [htrades.written.lookup]
      split
      · next hbk =>
        have hside : ¬(s = opposite trade.side ∧ k = priceKey trade.price) :=
          fun hlevel => hother ⟨hbk, hlevel⟩
        rw [hbk, htrades.others s k hside, hall]
      · rfl

/-! ## Runs -/

theorem allFull_applyEvent (h : AllFull e.slotQueues) (hstep : e.InStep) (event : MarketEvent) :
    AllFull (e.applyEvent event).1.slotQueues := by
  cases event with
  | orderBook ob =>
    have hbook := allFull_reconcileL2Snapshot h (key ob.exchange ob.symbol) ob.timestampNs ob
    unfold applyEvent fillCrossingLimits
    dsimp only
    split
    · split
      · exact hbook
      · exact hbook
    · exact hbook
  | trade t =>
    have hprint := eatsInOrder (e := { e with currentTs := t.timestampNs }) hstep h t
    intro bk s k
    by_cases hlevel : bk = key t.exchange t.symbol ∧ s = opposite t.side ∧ k = priceKey t.price
    · obtain ⟨rfl, rfl, rfl⟩ := hlevel
      exact hprint.left.full
    · have hsame := (hprint.others bk s k hlevel).1
      show NoneEmpty ((fillAgainstTrade { e with currentTs := t.timestampNs } t).1.slotQueues.queueAt
        bk s k)
      rw [hsame]
      exact h bk s k

theorem allFull_removeSlot (h : AllFull e.slotQueues) (bk : String) (order : OpenOrder) :
    AllFull (e.removeSlot bk order) := by
  unfold removeSlot
  split
  · split
    · next q hqueue =>
      refine h.setLevelQueue (NoneEmpty.filter ?_ _) _ _ _
      rw [← SlotQueues.queueAt_of_levelQueueIfExists _ _ _ _ hqueue]
      exact h _ _ _
    · exact h
  · exact h

theorem drainPendingSubmits_inStep (h : e.InStep) (uptoTs : Nat) :
    (e.drainPendingSubmits uptoTs).1.InStep :=
  (drainPendingSubmits_serves (L := fun _ => True) h fun _ _ _ => Or.inr trivial).inStep

/-- **The step lemma.** An event leaves no slot empty. -/
theorem allFull_step (h : AllFull e.slotQueues) (hstep : e.InStep) (ev : EngineEvent) :
    AllFull (e.step ev).1.slotQueues := by
  cases ev with
  | market event =>
    have hdrained := allFull_drainPendingSubmits h event.timestampNs
    have happlied := allFull_applyEvent hdrained (drainPendingSubmits_inStep hstep _) event
    exact allFull_scheduleFills happlied _
  | submit o =>
    rw [step]
    cases hrefuses : e.refuses { o.order with submittedTs := e.currentTs } with
    | true =>
      rw [submitOrder_of_refuses hrefuses]
      exact h
    | false =>
      rw [submitOrder_of_not_refuses hrefuses]
      exact allFull_drainPendingSubmits
        (e := e.queued { o.order with submittedTs := e.currentTs }) h e.currentTs
  | cancel exchange symbol orderId =>
    rw [step]
    unfold cancelOrder
    dsimp only
    split
    · exact allFull_removeSlot h _ _
    · split
      · exact h
      · exact h

/-- The engine when a print meets it: submits that are due are matched, and the clock is set. -/
def beforePrint (e : MatchingEngine) (trade : TradeRecord) : MatchingEngine :=
  { (e.drainPendingSubmits trade.timestampNs).1 with currentTs := trade.timestampNs }

/-- **Priority within a level.** In every state of every run, whatever print comes: it meets the
engine after the submits that are due, and eats in order. -/
theorem prints_eat_in_order (latency : Nat → Nat) (es : List EngineEvent)
    (hdistinct : (submittedIds es).Nodup) :
    AllStates step (fun e => ∀ trade,
      (e.onMarketEvent (.trade trade)).matched = (e.drainPendingSubmits trade.timestampNs).2 ++
        ((e.beforePrint trade).fillAgainstTrade trade).2 ∧
      (e.beforePrint trade).EatsInOrder trade) (start latency) es := by
  have hinv : AllStates step (fun e => e.InStep ∧ AllFull e.slotQueues) (start latency) es := by
    refine .of_assumption (D := Fresh) (fun e ev h hfresh => ?_) ⟨start_inStep latency, ?_⟩
      (alongRun_fresh_start latency hdistinct)
    · exact ⟨(step_inStep h.1 hfresh).1, allFull_step h.2 h.1 ev⟩
    · exact fun _ _ _ slot hslot => absurd hslot List.not_mem_nil
  refine hinv.imp fun e h trade => ⟨rfl, ?_⟩
  have hdrained := drainPendingSubmits_inStep h.1 trade.timestampNs
  exact eatsInOrder (e := e.beforePrint trade) hdrained
    (allFull_drainPendingSubmits h.2 trade.timestampNs) trade

/-! Two buys rest, one at 101 and one at 100, and a print comes at 100. -/

namespace BetterPriced

def book : MarketEvent :=
  .orderBook
    { timestampNs := 1, exchange := "OKX", symbol := "BTC"
      bidPx := ![98, 0, 0, 0, 0], bidSz := ![1, 0, 0, 0, 0]
      askPx := ![102, 0, 0, 0, 0], askSz := ![1, 0, 0, 0, 0] }

def buy (id : Nat) (price : ℚ) : Submission where
  orderId := id
  clientOrderId := id
  exchange := "OKX"
  symbol := "BTC"
  type := .LIMIT
  side := .BUY
  price := price
  quantity := 2

def print : TradeRecord :=
  { timestampNs := 2, price := 100, quantity := 2, side := .SELL, exchange := "OKX"
    symbol := "BTC" }

def events : List EngineEvent := [.market book, .submit (buy 1 101), .submit (buy 2 100)]

end BetterPriced

open BetterPriced in
theorem prints_eat_in_order_betterPriced :
    ((exec step (start fun _ => 0) events).beforePrint print).EatsInOrder print :=
  ((prints_eat_in_order (fun _ => 0) events (by decide)).final print).2

open BetterPriced in
/-- The order at 100 is filled, and the one at 101 still rests as it came. -/
theorem not_price_priority :
    (submittedIds events).Nodup ∧
      ((exec step (start fun _ => 0) events).onMarketEvent (.trade print)).matched.map
          (fun fr => (fr.orderId, fr.side, fr.lastFillQty, fr.lastFillPrice)) =
        [(2, .BUY, 2, 100)] ∧
      (restingIn (((exec step (start fun _ => 0) events).onMarketEvent
          (.trade print)).engine.pending) "OKX:BTC").map
          (fun o => (o.orderId, o.side, o.price, o.openQty)) = [(1, .BUY, 101, 2)] := by
  decide +kernel

end MatchingEngine

end BptCore.Backtester
