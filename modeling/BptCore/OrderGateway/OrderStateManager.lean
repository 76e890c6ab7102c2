import BptCore.Lib.Table
import BptCore.Messages

/-!
# Orders held by the gateway

The inbound order events, the state the gateway keeps of an order it has handed to a venue,
and `OrderStateManager`, the map of those states with its running count of open orders.

* **`OrderStateManager.insert`**, **`update`**, **`remove`** — the three writers.
* **`OrderStateManager.openOrderCount`** — the open orders of one exchange, by going through
  the map; `openOrderCount_insert_of_notMem`, `openOrderCount_update` and
  `openOrderCount_remove` say what each writer does to it.
-/

namespace BptCore.OrderGateway

structure NewOrderEvent where
  orderId : Nat
  instrumentId : Nat
  exchangeId : ExchangeId
  side : OrderSide
  orderType : OrderType
  tif : TimeInForce
  price : Int
  quantity : Nat
  execInst : Nat
  exchangeSymbol : String
  deriving DecidableEq, Repr

structure CancelOrderEvent where
  orderId : Nat
  exchangeId : ExchangeId
  deriving DecidableEq, Repr

structure ModifyOrderEvent where
  orderId : Nat
  exchangeId : ExchangeId
  newPrice : Int
  newQuantity : Nat
  deriving DecidableEq, Repr

structure CancelAllEvent where
  exchangeId : ExchangeId
  instrumentId : Nat
  deriving DecidableEq, Repr

inductive OrderLifecycle where
  | PENDING | ACKED | PARTIALLY_FILLED | FILLED | CANCELLED | REJECTED
  deriving DecidableEq, Repr

/-- `is_open`: sent to the exchange and not yet at an end. -/
def OrderLifecycle.isOpen (lc : OrderLifecycle) : Bool :=
  lc == PENDING || lc == ACKED || lc == PARTIALLY_FILLED

structure OrderState where
  orderId : Nat
  exchangeOrderId : Nat := 0
  exchangeId : ExchangeId
  instrumentId : Nat
  exchangeSymbol : String
  side : OrderSide
  orderType : OrderType
  price : Int
  quantity : Nat
  filledQty : Nat := 0
  remainingQty : Nat
  lifecycle : OrderLifecycle := .PENDING
  createdNs : Nat
  lastUpdateNs : Nat
  deriving DecidableEq, Repr

/-- `to_order_state`: the order as it is held from the moment it is sent. -/
def NewOrderEvent.toOrderState (o : NewOrderEvent) (ts : Nat) : OrderState where
  orderId := o.orderId
  exchangeId := o.exchangeId
  instrumentId := o.instrumentId
  exchangeSymbol := o.exchangeSymbol
  side := o.side
  orderType := o.orderType
  price := o.price
  quantity := o.quantity
  remainingQty := o.quantity
  createdNs := ts
  lastUpdateNs := ts

/-- `to_reject_report`: the synthetic REJECTED report of an order that reached no venue. -/
def NewOrderEvent.toRejectReport (o : NewOrderEvent) (reason : RejectReason) (ts : Nat) :
    ExecReport where
  orderId := o.orderId
  exchangeOrderId := 0
  exchangeId := o.exchangeId
  instrumentId := o.instrumentId
  status := .REJECTED
  side := o.side
  orderType := o.orderType
  price := o.price
  filledQty := 0
  remainingQty := o.quantity
  rejectReason := reason
  fee := 0
  feeCurrency := "USDT"
  exchangeTsNs := ts
  localTsNs := ts

/-- `to_cancel_report`: the synthetic CANCELLED report of a stale order. -/
def OrderState.toCancelReport (st : OrderState) (ts : Nat) : ExecReport where
  orderId := st.orderId
  exchangeOrderId := st.exchangeOrderId
  exchangeId := st.exchangeId
  instrumentId := st.instrumentId
  status := .CANCELLED
  side := st.side
  orderType := st.orderType
  price := st.price
  filledQty := st.filledQty
  remainingQty := st.remainingQty
  rejectReason := .OK
  fee := 0
  feeCurrency := "USDT"
  exchangeTsNs := ts
  localTsNs := ts

/-- An open order of the exchange `v`. -/
def OrderState.openAt (v : ExchangeId) (st : OrderState) : Bool :=
  st.exchangeId == v && st.lifecycle.isOpen

/-- ACKED, and not updated for longer than the timeout. -/
def OrderState.stale (nowNs timeoutNs : Nat) (st : OrderState) : Bool :=
  st.lifecycle == .ACKED && decide (timeoutNs < u64Sub nowNs st.lastUpdateNs)

structure OrderStateManager where
  orders : Table Nat OrderState := ∅
  totalOpen : Nat := 0

namespace OrderStateManager

variable (m : OrderStateManager)

/-- An id that is already held keeps its order. -/
def insert (st : OrderState) : OrderStateManager :=
  { orders := Table.emplace st.orderId st m.orders
    totalOpen :=
      -- only an order that got in is counted
      if st.orderId ∉ m.orders ∧ st.lifecycle.isOpen then m.totalOpen + 1 else m.totalOpen }

def get (orderId : Nat) : Option OrderState := m.orders.lookup orderId

/-- The order after an exchange report: a zero exchange id is no news of the id. -/
def updated (st : OrderState) (newLifecycle : OrderLifecycle)
    (exchangeOrderId filledQty remainingQty timestampNs : Nat) : OrderState :=
  { st with
    lifecycle := newLifecycle
    exchangeOrderId := if exchangeOrderId ≠ 0 then exchangeOrderId else st.exchangeOrderId
    filledQty := filledQty
    remainingQty := remainingQty
    lastUpdateNs := timestampNs }

def update (orderId : Nat) (newLifecycle : OrderLifecycle)
    (exchangeOrderId filledQty remainingQty timestampNs : Nat) : OrderStateManager :=
  match m.get orderId with
  | none => m
  | some st =>
    { orders := m.orders.insert orderId
        (updated st newLifecycle exchangeOrderId filledQty remainingQty timestampNs)
      totalOpen :=
        -- the count moves when the order crosses between open and closed
        if st.lifecycle.isOpen ∧ ¬ newLifecycle.isOpen then m.totalOpen - 1
        else if ¬ st.lifecycle.isOpen ∧ newLifecycle.isOpen then m.totalOpen + 1
        else m.totalOpen }

def remove (orderId : Nat) : OrderStateManager :=
  match m.get orderId with
  | none => m
  | some st =>
    { orders := m.orders.erase orderId
      totalOpen := if st.lifecycle.isOpen then m.totalOpen - 1 else m.totalOpen }

def openOrderCount (exchange : ExchangeId) : Nat :=
  Table.countVals (OrderState.openAt exchange) m.orders

/-- `for_each_open`: the open orders, in iteration order. -/
def openOrders : List OrderState :=
  (Table.vals m.orders).filter fun st => st.lifecycle.isOpen

/-- `check_stale`: the stale orders, in iteration order. -/
def staleOrders (nowNs timeoutNs : Nat) : List OrderState :=
  (Table.vals m.orders).filter (OrderState.stale nowNs timeoutNs)

/-- Remove the ids one after the other. -/
def removeAll (ids : List Nat) : OrderStateManager := ids.foldl remove m

/-! ## What each writer does to a lookup -/

theorem insert_of_mem {st held : OrderState} (h : m.get st.orderId = some held) :
    m.insert st = m := by
  have hmem : st.orderId ∈ m.orders := Table.mem_of_lookup h
  simp only [insert, Table.emplace_of_mem hmem, hmem, not_true_eq_false, false_and, if_false]

theorem get_insert (st : OrderState) (id : Nat) :
    (m.insert st).get id =
      if id = st.orderId ∧ m.get st.orderId = none then some st else m.get id := by
  cases h : m.get st.orderId with
  | none =>
    have horders : (m.insert st).orders = m.orders.insert st.orderId st :=
      Table.emplace_of_notMem (AList.lookup_eq_none.mp h)
    simp only [and_true]
    rw [get, horders, Table.lookup_insert_eq]
    rfl
  | some held =>
    rw [m.insert_of_mem h]
    simp

theorem get_update (id : Nat) (lc : OrderLifecycle) (oid fq rq ts id' : Nat) :
    (m.update id lc oid fq rq ts).get id' =
      if id' = id then (m.get id).map fun st => updated st lc oid fq rq ts else m.get id' := by
  unfold update
  cases h : m.get id with
  | none =>
    by_cases hid : id' = id
    · subst hid; simp [h]
    · simp [hid]
  | some st =>
    simp only [get, Table.lookup_insert_eq, Option.map_some]

theorem get_remove (id id' : Nat) :
    (m.remove id).get id' = if id' = id then none else m.get id' := by
  unfold remove
  cases h : m.get id with
  | none =>
    by_cases hid : id' = id
    · subst hid; simp [h]
    · simp [hid]
  | some st => simp only [get, Table.lookup_erase_eq]

/-- What is held after removals was held before. -/
theorem get_of_get_removeAll {ids : List Nat} {id : Nat} {st : OrderState}
    (h : (m.removeAll ids).get id = some st) : m.get id = some st := by
  induction ids generalizing m with
  | nil => exact h
  | cons id' ids ih =>
    have hrem := ih (m.remove id') h
    rw [get_remove] at hrem
    split at hrem
    · cases hrem
    · exact hrem

/-! ## What each writer does to a count of open orders

Between the steps of the gateway every held order is open, so that a count only moves when an
order enters or leaves the map. -/

theorem openOrderCount_insert_of_notMem {st : OrderState} (h : m.get st.orderId = none)
    (hopen : st.lifecycle.isOpen = true) (v : ExchangeId) :
    (m.insert st).openOrderCount v =
      m.openOrderCount v + if st.exchangeId = v then 1 else 0 := by
  -- a free id: `emplace` inserts, and the new order counts for its own exchange
  have hmem : st.orderId ∉ m.orders := AList.lookup_eq_none.mp h
  simp only [openOrderCount, insert, Table.countVals_emplace_of_notMem st hmem]
  simp [OrderState.openAt, hopen]

theorem openOrderCount_remove {st : OrderState} {id : Nat} (h : m.get id = some st)
    (hopen : st.lifecycle.isOpen = true) (v : ExchangeId) :
    m.openOrderCount v =
      (m.remove id).openOrderCount v + if st.exchangeId = v then 1 else 0 := by
  have hcount := Table.countVals_of_lookup (p := OrderState.openAt v) h
  simp only [openOrderCount, remove, h]
  rw [hcount]
  simp [OrderState.openAt, hopen]

theorem remove_of_get_eq_none {id : Nat} (h : m.get id = none) : m.remove id = m := by
  unfold remove
  rw [h]

theorem openOrderCount_update {id : Nat} {st : OrderState} {lc : OrderLifecycle}
    (h : m.get id = some st) (hlc : lc.isOpen = st.lifecycle.isOpen) (oid fq rq ts : Nat)
    (v : ExchangeId) :
    (m.update id lc oid fq rq ts).openOrderCount v = m.openOrderCount v := by
  simp only [openOrderCount, update, h]
  exact Table.countVals_insert_of_lookup h (by simp [OrderState.openAt, updated, hlc])

/-- Removing an order just updated is removing it. -/
theorem openOrderCount_remove_update {id : Nat} {st : OrderState} (h : m.get id = some st)
    (lc : OrderLifecycle) (oid fq rq ts : Nat) (v : ExchangeId) :
    ((m.update id lc oid fq rq ts).remove id).openOrderCount v =
      (m.remove id).openOrderCount v := by
  have hupd : (m.update id lc oid fq rq ts).get id =
      some (updated st lc oid fq rq ts) := by
    rw [get_update, if_pos rfl, h, Option.map_some]
  simp only [openOrderCount, remove, hupd, h]
  rw [update]
  simp only [h, Table.erase_insert_self]

theorem update_of_get_eq_none {id : Nat} (h : m.get id = none) (lc : OrderLifecycle)
    (oid fq rq ts : Nat) : m.update id lc oid fq rq ts = m := by
  unfold update
  rw [h]

end OrderStateManager

end BptCore.OrderGateway
