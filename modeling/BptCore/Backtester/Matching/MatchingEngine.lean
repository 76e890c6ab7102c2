import BptCore.Backtester.Matching.SlotQueue
import Mathlib.Algebra.BigOperators.Group.List.Basic
import Mathlib.Data.List.Sort

/-!
# The matching engine

`MatchingEngine` takes the role of a venue in a backtest. An order submitted to it waits out the
submit-to-match latency, is matched against the book or comes to rest in its level's queue, and
the fills it gets wait out the match-to-report latency before they are handed over.

* **`submitOrder`**, **`cancelOrder`**, **`onMarketEvent`** — the three entry points. What they
  hand to the fill callback after the engine's lock is released is part of their result, and so
  are the fills matched on the way.
* **`Outcome.conserves_*`** — nothing is lost inside: what was pending, and what was matched, is
  what is pending afterwards and what was handed over.
-/

namespace BptCore.Backtester

structure PendingSubmit where
  order : OpenOrder
  scheduledMatchTs : Nat

structure PendingFill where
  fill : FillReport
  scheduledReportTs : Nat

/-- The latency model comes as the delays it draws, in the order of the draws; without a model
every one is 0. -/
structure MatchingEngine where
  books : Table String OrderBookRecord := ∅
  pending : Table String (List OpenOrder) := ∅
  pendingSubmits : List PendingSubmit := []
  pendingFills : List PendingFill := []
  slotQueues : SlotQueues := ∅
  currentTs : Nat := 0
  latency : Nat → Nat := fun _ => 0
  drawn : Nat := 0

namespace MatchingEngine

/-- `key`. -/
def key (exchange symbol : String) : String := exchange ++ ":" ++ symbol

/-- A limit price that reaches the other side's best price. -/
def crosses (order : OpenOrder) (book : OrderBookRecord) : Bool :=
  match order.side with
  | .BUY => decide (book.touch .SELL > 0 ∧ order.price ≥ book.touch .SELL - kPriceTol)
  | .SELL => decide (book.touch .BUY > 0 ∧ order.price ≤ book.touch .BUY + kPriceTol)

variable (e : MatchingEngine)

/-- `latency_->draw`. -/
def draw : Nat × MatchingEngine := (e.latency e.drawn, { e with drawn := e.drawn + 1 })

/-! ## Fills -/

/-- A price within the cap; `none` is no cap. -/
def acceptable (side : OrderSide) (levelPx : ℚ) (priceLimit : Option ℚ) : Bool :=
  match priceLimit with
  | none => true
  | some cap =>
    match side with
    | .BUY => decide (levelPx ≤ cap + kPriceTol)
    | .SELL => decide (levelPx ≥ cap - kPriceTol)

/-- The loop of `fill_book_until` over the levels of the other side. -/
def walkLevels (priceLimit : Option ℚ) (reportType : MatchType) (currentTs : Nat) :
    OpenOrder → ℚ → List (ℚ × ℚ) → OpenOrder × List FillReport
  | order, _, [] => (order, [])
  | order, remaining, (levelPx, levelSz) :: levels =>
    -- the levels are sorted: the first one that is out of reach or empty ends the walk
    if remaining ≤ kQtyTol then (order, [])
    else if levelPx ≤ 0 ∨ levelSz ≤ 0 then (order, [])
    else if !acceptable order.side levelPx priceLimit then (order, [])
    else
      let fillQty := min remaining levelSz
      let order := { order with filledQty := order.filledQty + fillQty }
      let remaining := remaining - fillQty
      let report : FillReport :=
        { orderId := order.orderId
          clientOrderId := order.clientOrderId
          exchange := order.exchange
          symbol := order.symbol
          orderType := reportType
          side := order.side
          liquidityRole := .TAKER
          originalQty := order.quantity
          -- a market order has no price of its own
          orderPrice := if reportType = .LIMIT then order.price else 0
          lastFillQty := fillQty
          lastFillPrice := levelPx
          cumulativeFillQty := order.filledQty
          isFullyFilled := decide (remaining ≤ kQtyTol)
          simulationTs := currentTs }
      let out := walkLevels priceLimit reportType currentTs order remaining levels
      (out.1, report :: out.2)

def fillBookUntil (order : OpenOrder) (book : OrderBookRecord) (priceLimit : Option ℚ)
    (reportType : MatchType) (currentTs : Nat) : OpenOrder × List FillReport :=
  walkLevels priceLimit reportType currentTs order (order.quantity - order.filledQty)
    (book.levels (opposite order.side))

/-- A buy takes any ask, a sell any positive bid. -/
def fillMarket (order : OpenOrder) (book : OrderBookRecord) (currentTs : Nat) :
    OpenOrder × List FillReport :=
  fillBookUntil order book (match order.side with | .BUY => none | .SELL => some 0) .MARKET
    currentTs

/-- A limit order comes to rest at the back of its level's queue, behind the size that the venue
shows there when no venue slot is in the queue yet. -/
def rest (order : OpenOrder) (book : OrderBookRecord) : MatchingEngine :=
  let bk := key order.exchange order.symbol
  let venueSize := bookQtyAtPrice book order.side order.price
  let q := e.slotQueues.levelQueue bk order.side order.price
  let q :=
    -- a venue slot in the queue already stands for the size that the venue shows
    if venueSize > 0 ∧ q.all Slot.isOurs then
      q ++ [{ qty := venueSize, isOurs := false, ourOrderId := 0, inferredTs := e.currentTs }]
    else q
  let q := q ++ [{ qty := order.quantity - order.filledQty, isOurs := true
                   ourOrderId := order.orderId, inferredTs := e.currentTs }]
  { e with
    slotQueues := e.slotQueues.setLevelQueue bk order.side order.price q
    pending := e.pending.insert bk
      ((e.pending.lookup bk).getD [] ++ [{ order with queueSeeded := true }]) }

/-- `process_pending_submit`: the match of an order, and the fills it gets at once. A limit order
without a book waits for one. -/
def processPendingSubmit (order : OpenOrder) : MatchingEngine × List FillReport :=
  let bk := key order.exchange order.symbol
  match e.books.lookup bk with
  | none =>
    -- a market order without a book is dropped, and nobody is told
    if order.type = .MARKET then (e, [])
    else ({ e with pending := e.pending.insert bk ((e.pending.lookup bk).getD [] ++ [order]) }, [])
  | some book =>
    if order.type = .MARKET then (e, (fillMarket order book e.currentTs).2)
    else
      let matched :=
        -- a maker-only order that has come to cross meanwhile rests all the same
        if crosses order book ∧ order.type = .LIMIT then
          fillBookUntil order book (some order.price) .LIMIT e.currentTs
        else (order, [])
      if matched.1.filledQty < matched.1.quantity - kQtyTol then (e.rest matched.1 book, matched.2)
      else (e, matched.2)

/-- What `fill_crossing_limits` does to one resting order: `none` leaves it, a report takes it
out. Orders with a slot are left to the trade prints. -/
def crossingFill (book : OrderBookRecord) (currentTs : Nat) (order : OpenOrder) :
    Option FillReport :=
  if order.type ≠ .LIMIT ∨ order.queueSeeded then none
  else
    let fillPx := match order.side with
      | .BUY =>
        if book.touch .SELL > 0 ∧ book.touch .SELL ≤ order.price then book.touch .SELL else 0
      | .SELL =>
        if book.touch .BUY > 0 ∧ book.touch .BUY ≥ order.price then book.touch .BUY else 0
    if fillPx ≤ 0 then none
    else some
      { orderId := order.orderId
        clientOrderId := order.clientOrderId
        exchange := book.exchange
        symbol := book.symbol
        orderType := .LIMIT
        side := order.side
        liquidityRole := .MAKER
        originalQty := order.quantity
        orderPrice := order.price
        lastFillQty := order.quantity - order.filledQty
        lastFillPrice := fillPx
        cumulativeFillQty := order.quantity
        isFullyFilled := true
        simulationTs := currentTs }

def fillCrossingLimits (bookKey : String) : MatchingEngine × List FillReport :=
  match e.books.lookup bookKey, e.pending.lookup bookKey with
  | some book, some orders =>
    -- an empty book fills nothing
    if book.touch .BUY ≤ 0 ∧ book.touch .SELL ≤ 0 then (e, [])
    else
      ({ e with
         pending := e.pending.insert bookKey
           (orders.filter fun o => (crossingFill book e.currentTs o).isNone) },
       orders.filterMap (crossingFill book e.currentTs))
  | _, _ => (e, [])

/-- A slot of ours of `take` less: the first resting order of its id gets the fill. -/
def fillRestingOrder (id : Nat) (take : ℚ) (currentTs : Nat) :
    List OpenOrder → List OpenOrder × Option FillReport
  | [] => ([], none)
  | order :: orders =>
    if order.orderId ≠ id then
      let out := fillRestingOrder id take currentTs orders
      (order :: out.1, out.2)
    else
      let order := { order with filledQty := order.filledQty + take }
      (order :: orders, some
        { orderId := order.orderId
          clientOrderId := order.clientOrderId
          exchange := order.exchange
          symbol := order.symbol
          orderType := .LIMIT
          side := order.side
          liquidityRole := .MAKER
          originalQty := order.quantity
          orderPrice := order.price
          lastFillQty := take
          -- a maker is filled at its own price, not at that of the print
          lastFillPrice := order.price
          cumulativeFillQty := order.filledQty
          isFullyFilled := decide (order.filledQty ≥ order.quantity - kQtyTol)
          simulationTs := currentTs })

/-- The loop of `fill_against_trade`: the print eats the queue from the front. A slot that is not
used up has taken the rest of the print. -/
def consumeSlots (currentTs : Nat) :
    ℚ → List Slot → List OpenOrder → List Slot × List OpenOrder × List FillReport
  | _, [], orders => ([], orders, [])
  | remainingPrint, slot :: slots, orders =>
    if remainingPrint ≤ 0 then (slot :: slots, orders, [])
    else
      let take := min remainingPrint slot.qty
      let filled :=
        if slot.isOurs then fillRestingOrder slot.ourOrderId take currentTs orders
        else (orders, none)
      if slot.qty - take ≤ kQtyTol then
        let out := consumeSlots currentTs (remainingPrint - take) slots filled.1
        (out.1, out.2.1, filled.2.toList ++ out.2.2)
      -- the front slot outlasts the print
      else ({ slot with qty := slot.qty - take } :: slots, filled.1, filled.2.toList)

/-- `fill_against_trade`: the print eats the queue of the side that its taker traded against;
seeded orders that are filled are no longer resting. -/
def fillAgainstTrade (trade : TradeRecord) : MatchingEngine × List FillReport :=
  -- a print whose taker sold has eaten the bids
  let ourSide := opposite trade.side
  let bk := key trade.exchange trade.symbol
  match e.slotQueues.levelQueueIfExists bk ourSide trade.price with
  | none | some [] => (e, [])
  | some q =>
    let out := consumeSlots e.currentTs trade.quantity q ((e.pending.lookup bk).getD [])
    let orders := out.2.1.filter fun o =>
      !(o.queueSeeded && decide (o.filledQty ≥ o.quantity - kQtyTol))
    ({ e with
       slotQueues := e.slotQueues.setLevelQueue bk ourSide trade.price out.1
       pending := if (e.pending.lookup bk).isSome then e.pending.insert bk orders else e.pending },
     out.2.2)

/-! ## Pending submits and pending fills -/

/-- `schedule_fill`. -/
def scheduleFill (fill : FillReport) : MatchingEngine :=
  let (latencyNs, e) := e.draw
  { e with
    pendingFills := e.pendingFills ++
      [{ fill := fill, scheduledReportTs := fill.simulationTs + latencyNs }] }

def scheduleFills (fills : List FillReport) : MatchingEngine :=
  fills.foldl (fun e fill => e.scheduleFill fill) e

/-- The loop of `drain_pending_submits` over the sorted queue: the submits that are due are
matched, the clock going along; yields those that are not, and the fills. -/
def matchDue (uptoTs : Nat) : MatchingEngine → List PendingSubmit →
    MatchingEngine × List PendingSubmit × List FillReport
  | e, [] => (e, [], [])
  | e, ps :: submits =>
    if ps.scheduledMatchTs > uptoTs then (e, ps :: submits, [])
    else
      let (e, fills) := processPendingSubmit
        -- the clock never goes back
        { e with currentTs := max e.currentTs ps.scheduledMatchTs } ps.order
      let out := matchDue uptoTs e submits
      (out.1, out.2.1, fills ++ out.2.2)

/-- `drain_pending_submits`, with the fills it schedules. The sort is stable. -/
def drainPendingSubmits (uptoTs : Nat) : MatchingEngine × List FillReport :=
  let sorted := e.pendingSubmits.insertionSort fun a b => a.scheduledMatchTs ≤ b.scheduledMatchTs
  let out := matchDue uptoTs e sorted
  (scheduleFills { out.1 with pendingSubmits := out.2.1 } out.2.2, out.2.2)

/-- `drain_pending_fills`: the fills that are due, which leave the queue. The sort is stable. -/
def drainPendingFills (uptoTs : Nat) : MatchingEngine × List FillReport :=
  let sorted := e.pendingFills.insertionSort fun a b => a.scheduledReportTs ≤ b.scheduledReportTs
  let due := fun pf : PendingFill => decide (pf.scheduledReportTs ≤ uptoTs)
  ({ e with pendingFills := sorted.dropWhile due }, (sorted.takeWhile due).map PendingFill.fill)

/-! ## The entry points -/

/-- What an entry point leaves behind: the engine, the fills it matched, and the fills that go to
the callback once the lock is released. -/
structure Outcome where
  engine : MatchingEngine
  matched : List FillReport
  deliveries : List FillReport

/-- A maker-only order that would cross the book is refused. -/
def refuses (order : OpenOrder) : Bool :=
  match e.books.lookup (key order.exchange order.symbol) with
  | some book => decide (order.type = .POST_ONLY) && crosses order book
  | none => false

/-- `submit_order`, with the order it returns. -/
def submitOrder (order : OpenOrder) : Outcome × OpenOrder :=
  let order := { order with submittedTs := e.currentTs }
  -- refused against the book of the moment, before any latency
  if e.refuses order then
    ({ engine := e, matched := [], deliveries := [] }, { order with rejected := true })
  else
    let (latencyNs, e) := e.draw
    let e : MatchingEngine := { e with
      pendingSubmits := e.pendingSubmits ++
        [{ order := order, scheduledMatchTs := e.currentTs + latencyNs }] }
    -- with no latency the order is matched, and its fills delivered, within the call
    let (e, matched) := e.drainPendingSubmits e.currentTs
    let (e, deliveries) := e.drainPendingFills e.currentTs
    ({ engine := e, matched := matched, deliveries := deliveries }, order)

/-- Take the order's slot out of the queue of its level. -/
def removeSlot (bk : String) (order : OpenOrder) : SlotQueues :=
  if order.queueSeeded then
    match e.slotQueues.levelQueueIfExists bk order.side order.price with
    | some q => e.slotQueues.setLevelQueue bk order.side order.price
        (q.filter fun s => !(s.isOurs && s.ourOrderId == order.orderId))
    | none => e.slotQueues
  else e.slotQueues

/-- `cancel_order`: a resting order goes first, else one that waits to be matched. -/
def cancelOrder (exchange symbol : String) (orderId : Nat) : MatchingEngine × Bool :=
  let bk := key exchange symbol
  let resting := (e.pending.lookup bk).getD []
  -- the id is looked for among the resting orders of the book first
  match resting.find? fun o => o.orderId == orderId with
  | some order =>
    ({ e with slotQueues := e.removeSlot bk order
              pending := e.pending.insert bk (resting.eraseP fun o => o.orderId == orderId) },
      true)
  | none =>
    let isIt := fun ps : PendingSubmit =>
      ps.order.exchange == exchange && ps.order.symbol == symbol && ps.order.orderId == orderId
    if e.pendingSubmits.any isIt then
      ({ e with pendingSubmits := e.pendingSubmits.eraseP isIt }, true)
    else (e, false)

/-- The book or the queue takes the event, and the fills it makes. -/
def applyEvent (event : MarketEvent) : MatchingEngine × List FillReport :=
  match event with
  | .orderBook ob =>
    let bk := key ob.exchange ob.symbol
    fillCrossingLimits
      { e with currentTs := ob.timestampNs
               slotQueues := reconcileL2Snapshot bk ob.timestampNs ob e.slotQueues
               books := e.books.insert bk ob } bk
  | .trade t => fillAgainstTrade { e with currentTs := t.timestampNs } t

/-- `on_market_event`: submits that are due are matched against the book before the event. -/
def onMarketEvent (event : MarketEvent) : Outcome :=
  let (e, early) := e.drainPendingSubmits event.timestampNs
  let (e, fills) := e.applyEvent event
  let e := e.scheduleFills fills
  let (e, deliveries) := e.drainPendingFills e.currentTs
  { engine := e, matched := early ++ fills, deliveries := deliveries }

/-- A refused order leaves the engine alone. -/
theorem submitOrder_of_rejected (order : OpenOrder) (hnew : order.rejected = false)
    (h : (e.submitOrder order).2.rejected = true) : (e.submitOrder order).1.engine = e := by
  revert h
  unfold submitOrder
  dsimp only
  split
  · exact fun _ => rfl
  · intro h
    rw [hnew] at h
    cases h

/-! ## Where a fill is until it is handed over

Matching leaves the pending fills alone; only `scheduleFill` adds one, and only
`drainPendingFills` takes some out. -/

theorem processPendingSubmit_pendingFills (order : OpenOrder) :
    (e.processPendingSubmit order).1.pendingFills = e.pendingFills := by
  unfold processPendingSubmit
  dsimp only
  split
  · split <;> rfl
  · split
    · rfl
    · split
      · split <;> rfl
      · split <;> rfl

theorem matchDue_pendingFills (uptoTs : Nat) (submits : List PendingSubmit) :
    (matchDue uptoTs e submits).1.pendingFills = e.pendingFills := by
  induction submits generalizing e with
  | nil => rfl
  | cons ps submits ih =>
    unfold matchDue
    split
    · rfl
    · show (matchDue uptoTs _ submits).1.pendingFills = e.pendingFills
      rw [ih, processPendingSubmit_pendingFills]

theorem applyEvent_pendingFills (event : MarketEvent) :
    (e.applyEvent event).1.pendingFills = e.pendingFills := by
  cases event with
  | orderBook ob =>
    unfold applyEvent fillCrossingLimits
    dsimp only
    split
    · split <;> rfl
    · rfl
  | trade t =>
    unfold applyEvent fillAgainstTrade
    dsimp only
    split <;> rfl

/-- The orders of a book, and the queues of its levels, are the only things a cancel changes. -/
theorem cancelOrder_pendingFills (exchange symbol : String) (orderId : Nat) :
    (e.cancelOrder exchange symbol orderId).1.pendingFills = e.pendingFills := by
  unfold cancelOrder
  dsimp only
  split
  · rfl
  · split <;> rfl

/-- A cancel that finds nothing changes nothing. -/
theorem cancelOrder_of_not_ok {exchange symbol : String} {orderId : Nat}
    (h : (e.cancelOrder exchange symbol orderId).2 = false) :
    (e.cancelOrder exchange symbol orderId).1 = e := by
  revert h
  unfold cancelOrder
  dsimp only
  split
  · exact fun h => nomatch h
  · split
    · exact fun h => nomatch h
    · exact fun _ => rfl

/-- What the pending fills weigh. -/
def heldQty (w : FillReport → Nat) : Nat := (e.pendingFills.map fun pf => w pf.fill).sum

variable (w : FillReport → Nat)

theorem heldQty_congr {e e' : MatchingEngine} (h : e.pendingFills = e'.pendingFills) :
    e.heldQty w = e'.heldQty w := by
  rw [heldQty, heldQty, h]

theorem heldQty_scheduleFills (fills : List FillReport) :
    (e.scheduleFills fills).heldQty w = e.heldQty w + (fills.map w).sum := by
  induction fills generalizing e with
  | nil => rfl
  | cons fill fills ih =>
    have hone : (e.scheduleFill fill).heldQty w = e.heldQty w + w fill := by
      simp [heldQty, scheduleFill, draw]
    show ((e.scheduleFill fill).scheduleFills fills).heldQty w = _
    rw [ih, hone, List.map_cons, List.sum_cons]
    omega

theorem heldQty_drainPendingSubmits (uptoTs : Nat) :
    (e.drainPendingSubmits uptoTs).1.heldQty w =
      e.heldQty w + ((e.drainPendingSubmits uptoTs).2.map w).sum := by
  unfold drainPendingSubmits
  dsimp only
  rw [heldQty_scheduleFills]
  congr 1
  exact heldQty_congr w (matchDue_pendingFills e uptoTs _)

/-- Draining moves fills from the queue to the callback. -/
theorem heldQty_drainPendingFills (uptoTs : Nat) :
    e.heldQty w = (e.drainPendingFills uptoTs).1.heldQty w +
      ((e.drainPendingFills uptoTs).2.map w).sum := by
  let sorted := e.pendingFills.insertionSort fun a b => a.scheduledReportTs ≤ b.scheduledReportTs
  let due := fun pf : PendingFill => decide (pf.scheduledReportTs ≤ uptoTs)
  -- sorting permutes the queue, and its two parts make it up again
  have hperm : e.pendingFills.Perm sorted := (List.perm_insertionSort _ _).symm
  have hsplit : sorted.takeWhile due ++ sorted.dropWhile due = sorted :=
    List.takeWhile_append_dropWhile
  have hsum : e.heldQty w = (sorted.map fun pf => w pf.fill).sum :=
    (hperm.map fun pf : PendingFill => w pf.fill).sum_eq
  have hdue : (((sorted.takeWhile due).map PendingFill.fill).map w).sum =
      ((sorted.takeWhile due).map fun pf => w pf.fill).sum := by
    rw [List.map_map]
    rfl
  show e.heldQty w = ((sorted.dropWhile due).map fun pf => w pf.fill).sum +
    (((sorted.takeWhile due).map PendingFill.fill).map w).sum
  rw [hsum, hdue, ← hsplit, List.map_append, List.sum_append, hsplit]
  omega

/-- Nothing is lost: what was held before, and what was matched, is held after or delivered. -/
def Outcome.Conserves (out : Outcome) (before : MatchingEngine) : Prop :=
  before.heldQty w + (out.matched.map w).sum =
    out.engine.heldQty w + (out.deliveries.map w).sum

theorem Outcome.conserves_onMarketEvent (event : MarketEvent) :
    (e.onMarketEvent event).Conserves w e := by
  -- the three stages in turn: submits that are due, the event itself, fills that are due
  let submitted := e.drainPendingSubmits event.timestampNs
  let applied := submitted.1.applyEvent event
  let scheduled := applied.1.scheduleFills applied.2
  have hsubmitted : submitted.1.heldQty w = e.heldQty w + (submitted.2.map w).sum :=
    e.heldQty_drainPendingSubmits w event.timestampNs
  have happlied : applied.1.heldQty w = submitted.1.heldQty w :=
    heldQty_congr w (submitted.1.applyEvent_pendingFills event)
  have hscheduled : scheduled.heldQty w = applied.1.heldQty w + (applied.2.map w).sum :=
    applied.1.heldQty_scheduleFills w applied.2
  have hdrained := scheduled.heldQty_drainPendingFills w scheduled.currentTs
  show e.heldQty w + ((submitted.2 ++ applied.2).map w).sum =
    (scheduled.drainPendingFills scheduled.currentTs).1.heldQty w +
      ((scheduled.drainPendingFills scheduled.currentTs).2.map w).sum
  rw [List.map_append, List.sum_append]
  omega

theorem Outcome.conserves_submitOrder (order : OpenOrder) :
    (e.submitOrder order).1.Conserves w e := by
  unfold submitOrder
  dsimp only
  split
  · show e.heldQty w + 0 = e.heldQty w + 0
    rfl
  · let queued : MatchingEngine := { e.draw.2 with
      pendingSubmits := e.draw.2.pendingSubmits ++
        [{ order := { order with submittedTs := e.currentTs }
           scheduledMatchTs := e.draw.2.currentTs + e.draw.1 }] }
    let submitted := queued.drainPendingSubmits queued.currentTs
    have hqueued : queued.heldQty w = e.heldQty w := rfl
    have hsubmitted : submitted.1.heldQty w = queued.heldQty w + (submitted.2.map w).sum :=
      queued.heldQty_drainPendingSubmits w queued.currentTs
    have hdrained := submitted.1.heldQty_drainPendingFills w submitted.1.currentTs
    show e.heldQty w + (submitted.2.map w).sum =
      (submitted.1.drainPendingFills submitted.1.currentTs).1.heldQty w +
        ((submitted.1.drainPendingFills submitted.1.currentTs).2.map w).sum
    omega

end MatchingEngine

end BptCore.Backtester
