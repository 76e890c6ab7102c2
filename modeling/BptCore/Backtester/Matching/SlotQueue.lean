import BptCore.Backtester.Matching.OpenOrder
import BptCore.Lib.Table

/-!
# The synthetic slot queues

Every price level of a book is a queue of slots, front first: slots of ours, each naming its
order, and slots inferred from the size the venue shows. A new snapshot is reconciled with the
queues: size that joined becomes a slot at the back, size that left is taken out of the venue
slots, more of it from the back.
-/

namespace BptCore.Backtester

structure Slot where
  qty : ℚ
  isOurs : Bool
  ourOrderId : Nat
  inferredTs : Nat
  deriving DecidableEq, Repr

structure PriceQueues where
  bid : Table Int (List Slot) := ∅
  ask : Table Int (List Slot) := ∅

/-- `std::llround`, halves away from zero. -/
def llround (x : ℚ) : Int :=
  if 0 ≤ x then (x + 1 / 2).floor else -(-x + 1 / 2).floor

/-- `price_key`: the price in nanos of the quote unit. -/
def priceKey (price : ℚ) : Int := llround (price * 1000000000)

namespace PriceQueues

variable (pq : PriceQueues)

def side (s : OrderSide) : Table Int (List Slot) :=
  match s with
  | .BUY => pq.bid
  | .SELL => pq.ask

def setLevel (s : OrderSide) (k : Int) (q : List Slot) : PriceQueues :=
  match s with
  | .BUY => { pq with bid := pq.bid.insert k q }
  | .SELL => { pq with ask := pq.ask.insert k q }

end PriceQueues

/-- The slot queues of all books, by book key. -/
abbrev SlotQueues := Table String PriceQueues

namespace SlotQueues

/-- `level_queue_if_exists`. -/
def levelQueueIfExists (sq : SlotQueues) (bookKey : String) (s : OrderSide) (price : ℚ) :
    Option (List Slot) :=
  match AList.lookup bookKey sq with
  | some pq => (pq.side s).lookup (priceKey price)
  | none => none

/-- `level_queue`, which makes an empty queue where there is none. -/
def levelQueue (sq : SlotQueues) (bookKey : String) (s : OrderSide) (price : ℚ) : List Slot :=
  (levelQueueIfExists sq bookKey s price).getD []

/-- Write a level's queue back. -/
def setLevelQueue (sq : SlotQueues) (bookKey : String) (s : OrderSide) (price : ℚ)
    (q : List Slot) : SlotQueues :=
  AList.insert bookKey
    (((AList.lookup bookKey sq).getD {}).setLevel s (priceKey price) q) sq

end SlotQueues

/-! ## Cancels -/

/-- The first pass of `distribute_cancels`: a venue slot that covers the positions from `d` to
`d + qty` loses the share of the cancels that falls there when the rate grows with the position.
Yields the slots and the cancels that are left. -/
def cancelShares (cancels n2 : ℚ) : ℚ → ℚ → List Slot → List Slot × ℚ
  | remaining, _, [] => ([], remaining)
  | remaining, d, slot :: slots =>
    if remaining ≤ 0 then (slot :: slots, remaining)
    else
      let dEnd := d + slot.qty
      if slot.isOurs then
        let out := cancelShares cancels n2 remaining dEnd slots
        (slot :: out.1, out.2)
      else
        -- the integral of the rate `2 * x / n2` over the positions of the slot
        let share := cancels * ((dEnd * dEnd - d * d) / n2)
        -- no slot goes below zero, and no more is cancelled than there is to cancel
        let slotCancel := min (min share slot.qty) remaining
        let out := cancelShares cancels n2 (remaining - slotCancel) dEnd slots
        ({ slot with qty := slot.qty - slotCancel } :: out.1, out.2)

/-- The second pass: what is left is spread over the venue slots by their size. -/
def cancelResidual (avail : ℚ) : ℚ → List Slot → List Slot × ℚ
  | remaining, [] => ([], remaining)
  | remaining, slot :: slots =>
    if remaining ≤ 0 then (slot :: slots, remaining)
    else if slot.isOurs then
      let out := cancelResidual avail remaining slots
      (slot :: out.1, out.2)
    else
      let take := min (remaining * (slot.qty / avail)) slot.qty
      let out := cancelResidual avail (remaining - take) slots
      ({ slot with qty := slot.qty - take } :: out.1, out.2)

/-- The total of the slots. -/
def totalQty (q : List Slot) : ℚ := (q.map Slot.qty).sum

/-- The total of the venue's slots. -/
def venueQty (q : List Slot) : ℚ := totalQty (q.filter fun s => !s.isOurs)

def distributeCancels (queue : List Slot) (cancels : ℚ) : List Slot :=
  if cancels ≤ 0 ∨ queue = [] then queue
  else if totalQty queue ≤ 0 then queue
  else
    let (queue, remaining) :=
      cancelShares cancels (totalQty queue * totalQty queue) cancels 0 queue
    let queue :=
      if remaining > kQtyTol ∧ venueQty queue > 0 then
        (cancelResidual (venueQty queue) remaining queue).1
      else queue
    -- slots of ours stay, however small
    queue.filter fun s => !(!s.isOurs && decide (s.qty ≤ kQtyTol))

/-! ## Snapshots -/

/-- One level of a snapshot against its queue. Only venue slots are compared: the venue does not
see our orders. -/
def reconcileOne (bookKey : String) (currentTs : Nat) (s : OrderSide) (price observed : ℚ)
    (sq : SlotQueues) : SlotQueues :=
  if observed ≤ 0 then sq
  else
    let q := sq.levelQueue bookKey s price
    let delta := observed - venueQty q
    let q :=
      -- more than the queue knows of has joined at the back; less has been cancelled
      if delta > kQtyTol then
        q ++ [{ qty := delta, isOurs := false, ourOrderId := 0, inferredTs := currentTs }]
      else if delta < -kQtyTol then distributeCancels q (-delta)
      else q
    sq.setLevelQueue bookKey s price q

/-- `reconcile_l2_snapshot`: level by level, the bid before the ask. -/
def reconcileL2Snapshot (bookKey : String) (currentTs : Nat) (book : OrderBookRecord)
    (sq : SlotQueues) : SlotQueues :=
  (List.finRange kOrderBookDepth).foldl (fun sq i =>
    let sq :=
      if book.bidPx i > 0 ∧ book.bidSz i > 0 then
        reconcileOne bookKey currentTs .BUY (book.bidPx i) (book.bidSz i) sq
      else sq
    if book.askPx i > 0 ∧ book.askSz i > 0 then
      reconcileOne bookKey currentTs .SELL (book.askPx i) (book.askSz i) sq
    else sq) sq

/-- `book_qty_at_price`: the size the venue shows at a price. -/
def bookQtyAtPrice (book : OrderBookRecord) (s : OrderSide) (price : ℚ) : ℚ :=
  match (book.levels s).find? fun level => decide (0 < level.1 ∧ |level.1 - price| < kPriceTol) with
  | some level => level.2
  | none => 0

/-! ## The queue of a level -/

namespace SlotQueues

/-- The queue under a price key, empty where there is none. -/
def queueAt (sq : SlotQueues) (bookKey : String) (s : OrderSide) (k : Int) : List Slot :=
  match AList.lookup bookKey sq with
  | some pq => ((pq.side s).lookup k).getD []
  | none => []

variable (sq : SlotQueues) (bookKey : String) (s : OrderSide) (price : ℚ)

theorem levelQueue_eq : sq.levelQueue bookKey s price = sq.queueAt bookKey s (priceKey price) := by
  unfold levelQueue levelQueueIfExists queueAt
  split <;> rfl

theorem queueAt_of_levelQueueIfExists {q : List Slot}
    (h : sq.levelQueueIfExists bookKey s price = some q) :
    sq.queueAt bookKey s (priceKey price) = q := by
  rw [← levelQueue_eq, levelQueue, h, Option.getD_some]

theorem queueAt_of_levelQueueIfExists_none (h : sq.levelQueueIfExists bookKey s price = none) :
    sq.queueAt bookKey s (priceKey price) = [] := by
  rw [← levelQueue_eq, levelQueue, h, Option.getD_none]

/-- Writing a queue back changes its level and no other. -/
theorem queueAt_setLevelQueue (q : List Slot) (bookKey' : String) (s' : OrderSide) (k' : Int) :
    (sq.setLevelQueue bookKey s price q).queueAt bookKey' s' k' =
      if bookKey' = bookKey ∧ s' = s ∧ k' = priceKey price then q
      else sq.queueAt bookKey' s' k' := by
  unfold queueAt setLevelQueue
  rw [Table.lookup_insert_eq]
  by_cases hbook : bookKey' = bookKey
  · subst hbook
    rw [if_pos rfl]
    -- within the book, the other side and the other levels of the side are as before
    have hold : ∀ s'' k'', ((((AList.lookup bookKey' sq).getD {}).side s'').lookup k'').getD [] =
        match AList.lookup bookKey' sq with
        | some pq => ((pq.side s'').lookup k'').getD []
        | none => [] := by
      intro s'' k''
      cases AList.lookup bookKey' sq with
      | some pq => rfl
      | none => cases s'' <;> rfl
    have hlevel : ((((AList.lookup bookKey' sq).getD {}).setLevel s (priceKey price) q).side s') =
        if s' = s then (((AList.lookup bookKey' sq).getD {}).side s').insert (priceKey price) q
        else ((AList.lookup bookKey' sq).getD {}).side s' := by
      cases s <;> cases s' <;> rfl
    dsimp only
    rw [hlevel, ← hold]
    by_cases hside : s' = s
    · rw [if_pos hside, Table.lookup_insert_eq]
      by_cases hkey : k' = priceKey price
      · rw [if_pos hkey, if_pos ⟨rfl, hside, hkey⟩, Option.getD_some]
      · rw [if_neg hkey, if_neg (fun h => hkey h.2.2)]
    · rw [if_neg hside, if_neg (fun h => hside h.2.1)]
  · rw [if_neg hbook, if_neg (fun h => hbook h.1)]

end SlotQueues

/-! ## Slots of ours

What the venue's sizes make of a queue leaves the slots of ours alone. -/

/-- The orders that have a slot in the queue, with what the slots hold. -/
def ours (q : List Slot) : List (Nat × ℚ) :=
  (q.filter Slot.isOurs).map fun slot => (slot.ourOrderId, slot.qty)

theorem ours_append (q q' : List Slot) : ours (q ++ q') = ours q ++ ours q' := by
  rw [ours, List.filter_append, List.map_append]
  rfl

theorem ours_cons_of_ours {slot : Slot} (h : slot.isOurs = true) (q : List Slot) :
    ours (slot :: q) = (slot.ourOrderId, slot.qty) :: ours q := by
  rw [ours, List.filter_cons_of_pos h]
  rfl

theorem ours_cons_of_venue {slot : Slot} (h : slot.isOurs = false) (q : List Slot) :
    ours (slot :: q) = ours q := by
  rw [ours, List.filter_cons_of_neg (by rw [h]; exact Bool.false_ne_true)]
  rfl

/-- A slot that keeps its owner, and its size when it is ours, counts the same. -/
theorem ours_cons_congr {slot slot' : Slot} {q q' : List Slot} (howner : slot'.isOurs = slot.isOurs)
    (hslot : slot.isOurs = true → slot' = slot) (hq : ours q' = ours q) :
    ours (slot' :: q') = ours (slot :: q) := by
  cases h : slot.isOurs with
  | true => rw [hslot h, ours_cons_of_ours h, ours_cons_of_ours h, hq]
  | false => rw [ours_cons_of_venue (howner.trans h), ours_cons_of_venue h, hq]

theorem ours_cancelShares (cancels n2 remaining d : ℚ) (q : List Slot) :
    ours (cancelShares cancels n2 remaining d q).1 = ours q := by
  induction q generalizing remaining d with
  | nil => rfl
  | cons slot slots ih =>
    unfold cancelShares
    split
    · rfl
    · dsimp only
      split
      · exact ours_cons_congr rfl (fun _ => rfl) (ih _ _)
      · next hvenue => exact ours_cons_congr rfl (fun h => absurd h hvenue) (ih _ _)

theorem ours_cancelResidual (avail remaining : ℚ) (q : List Slot) :
    ours (cancelResidual avail remaining q).1 = ours q := by
  induction q generalizing remaining with
  | nil => rfl
  | cons slot slots ih =>
    unfold cancelResidual
    split
    · rfl
    · split
      · exact ours_cons_congr rfl (fun _ => rfl) (ih _)
      · next hvenue => exact ours_cons_congr rfl (fun h => absurd h hvenue) (ih _)

theorem ours_filter {p : Slot → Bool} (hp : ∀ slot, slot.isOurs = true → p slot = true)
    (q : List Slot) : ours (q.filter p) = ours q := by
  have hboth : (q.filter p).filter Slot.isOurs = q.filter Slot.isOurs := by
    rw [List.filter_filter]
    refine List.filter_congr fun slot _ => ?_
    cases h : slot.isOurs with
    | true => rw [hp slot h]; rfl
    | false => rfl
  rw [ours, hboth]
  rfl

theorem ours_distributeCancels (q : List Slot) (cancels : ℚ) :
    ours (distributeCancels q cancels) = ours q := by
  unfold distributeCancels
  split
  · rfl
  · split
    · rfl
    · dsimp only
      rw [ours_filter (fun slot h => by rw [h]; rfl)]
      split
      · rw [ours_cancelResidual, ours_cancelShares]
      · rw [ours_cancelShares]

variable (bookKey : String) (currentTs : Nat)

theorem ours_reconcileOne (s : OrderSide) (price observed : ℚ) (sq : SlotQueues) (bookKey' : String)
    (s' : OrderSide) (k' : Int) :
    ours ((reconcileOne bookKey currentTs s price observed sq).queueAt bookKey' s' k') =
      ours (sq.queueAt bookKey' s' k') := by
  unfold reconcileOne
  split
  · rfl
  · dsimp only
    rw [SlotQueues.queueAt_setLevelQueue]
    split
    · next hlevel =>
      obtain ⟨rfl, rfl, rfl⟩ := hlevel
      rw [SlotQueues.levelQueue_eq]
      split
      · rw [ours_append]
        exact List.append_nil _
      · split
        · exact ours_distributeCancels _ _
        · rfl
    · rfl

/-- **A snapshot leaves our slots alone.** -/
theorem ours_reconcileL2Snapshot (book : OrderBookRecord) (sq : SlotQueues) (bookKey' : String)
    (s' : OrderSide) (k' : Int) :
    ours ((reconcileL2Snapshot bookKey currentTs book sq).queueAt bookKey' s' k') =
      ours (sq.queueAt bookKey' s' k') := by
  unfold reconcileL2Snapshot
  induction List.finRange kOrderBookDepth generalizing sq with
  | nil => rfl
  | cons i levels ih =>
    rw [List.foldl_cons, ih]
    dsimp only
    split
    · rw [ours_reconcileOne]
      split
      · rw [ours_reconcileOne]
      · rfl
    · split
      · rw [ours_reconcileOne]
      · rfl

end BptCore.Backtester
