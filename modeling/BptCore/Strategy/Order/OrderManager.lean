import BptCore.Lib.Table
import BptCore.Strategy.Order.Requests
import Mathlib.Order.Lattice

/-!
# The order manager's records

`OrderManager` keeps a record of every order it sent, by id, and updates it on the execution
reports. The filled quantity of a record is read off the reports as a cumulative one: a report
counts when it carries more than the record has.
-/

namespace BptCore.Strategy

/-- `OrderState::Status`. -/
inductive OrderStatus where
  | Live | PartiallyFilled | CancelPending | Filled | Cancelled | Rejected
  deriving DecidableEq, Repr

namespace OrderStatus

/-- `OrderState::live`. -/
def live (s : OrderStatus) : Bool := s == Live || s == PartiallyFilled

/-- `OrderState::terminal`. -/
def terminal (s : OrderStatus) : Bool := s == Filled || s == Cancelled || s == Rejected

theorem not_live_of_terminal {s : OrderStatus} (h : s.terminal) : ¬ s.live := by
  revert h
  cases s <;> decide

end OrderStatus

structure OrderState where
  orderId : Nat
  instrumentId : Nat
  exchangeId : ExchangeId
  side : OrderSide
  price : ℚ
  qty : ℚ
  filledQty : ℚ := 0
  avgFillPrice : ℚ := 0
  status : OrderStatus := .Live
  createdNs : Nat
  lastUpdateNs : Nat
  deriving DecidableEq, Repr

/-- The record of an order that the gateway has just taken, at the price and the quantity in natural
units. -/
def OrderState.placed (order : OutboundNewOrder) (price qty : ℚ) (nowNs : Nat) : OrderState where
  orderId := order.orderId
  instrumentId := order.instrumentId
  exchangeId := order.exchangeId
  side := order.side
  price := price
  qty := qty
  createdNs := nowNs
  lastUpdateNs := nowNs

structure OrderManager where
  lookup : Table Nat OrderState := ∅

namespace OrderManager

/-- The status that a report puts the order in. -/
def statusOf : ExecStatus → OrderStatus
  | .ACKED => .Live
  | .PARTIAL => .PartiallyFilled
  | .FILLED => .Filled
  | .CANCELLED => .Cancelled
  | .REJECTED => .Rejected

/-- The fill of a report: only what it carries beyond the record is new. -/
def recordFill (s : OrderState) (rpt : ExecReport) : OrderState :=
  let filled := ofE8 rpt.filledQty
  if filled > s.filledQty then
    -- the report is taken to be cumulative: the new part enters the average at its price
    let newQty := filled - s.filledQty
    let lastPx := ofE8 rpt.price
    { s with
      avgFillPrice :=
        if s.filledQty + newQty > 0 then
          (s.avgFillPrice * s.filledQty + lastPx * newQty) / (s.filledQty + newQty)
        else s.avgFillPrice
      filledQty := filled }
  else s

theorem terminal_statusOf (status : ExecStatus) :
    (statusOf status).terminal = status.terminal := by
  cases status <;> rfl

theorem statusOf_eq_live_iff {status : ExecStatus} : statusOf status = .Live ↔ status = .ACKED := by
  cases status <;> decide

variable (om : OrderManager)

/-- The record that `send_new_order` makes of an order once the gateway has taken it. -/
def store (s : OrderState) : OrderManager := { lookup := om.lookup.insert s.orderId s }

def onExecReport (rpt : ExecReport) (nowNs : Nat) : OrderManager :=
  match om.lookup.lookup rpt.orderId with
  -- an order this manager did not send
  | none => om
  | some s =>
    { lookup := om.lookup.insert rpt.orderId
        { recordFill { s with lastUpdateNs := nowNs } rpt with status := statusOf rpt.status } }

/-- The record on its way out: no cancel of it is sent twice. -/
def cancelPending (s : OrderState) (nowNs : Nat) : OrderState :=
  if s.status.live then { s with status := .CancelPending, lastUpdateNs := nowNs } else s

/-- `send_cancel` of a request, up to its call of the gateway, which goes out in any case. -/
def sendCancel (cancel : CancelOrderRequest) (nowNs : Nat) : OrderManager :=
  match om.lookup.lookup cancel.orderId with
  | none => om
  | some s => { lookup := om.lookup.insert cancel.orderId (cancelPending s nowNs) }

/-- `send_cancel` of a handle, up to its call of the gateway: the request that goes out, when the
order is live. -/
def sendCancelHandle (handle : Option Nat) (nowNs : Nat) :
    OrderManager × Option CancelOrderRequest :=
  match handle with
  | none => (om, none)
  | some orderId =>
    match om.lookup.lookup orderId with
    | none => (om, none)
    | some s =>
      if s.status.live then
        ({ lookup := om.lookup.insert orderId (cancelPending s nowNs) },
          some { orderId := s.orderId, exchangeId := s.exchangeId, instrumentId := s.instrumentId })
      else (om, none)

/-- The filled quantity on record; an order without a record has none. -/
def filledQty (id : Nat) : ℚ :=
  match om.lookup.lookup id with
  | some s => s.filledQty
  | none => 0

/-- The order is on record. -/
def Tracks (id : Nat) : Prop := (om.lookup.lookup id).isSome

instance (id : Nat) : Decidable (om.Tracks id) := inferInstanceAs (Decidable (_ = true))

theorem recordFill_filledQty (s : OrderState) (rpt : ExecReport) :
    (recordFill s rpt).filledQty = max s.filledQty (ofE8 rpt.filledQty) := by
  unfold recordFill
  dsimp only
  split
  · next hnew => exact (max_eq_right (le_of_lt hnew)).symm
  · next hold => exact (max_eq_left (not_lt.mp hold)).symm

theorem filledQty_store (s : OrderState) (id : Nat) :
    (om.store s).filledQty id = if id = s.orderId then s.filledQty else om.filledQty id := by
  unfold filledQty store
  rw [Table.lookup_insert_eq]
  by_cases h : id = s.orderId
  · rw [if_pos h, if_pos h]
  · rw [if_neg h, if_neg h]

/-- The filled quantity after a report: the larger of the two, for an order on record. -/
theorem filledQty_onExecReport (rpt : ExecReport) (nowNs id : Nat) :
    (om.onExecReport rpt nowNs).filledQty id =
      if id = rpt.orderId ∧ om.Tracks id then max (om.filledQty id) (ofE8 rpt.filledQty)
      else om.filledQty id := by
  unfold onExecReport Tracks
  cases hlookup : om.lookup.lookup rpt.orderId with
  | none =>
    have hnot : ¬ (id = rpt.orderId ∧ (om.lookup.lookup id).isSome = true) := by
      rintro ⟨rfl, hsome⟩
      rw [hlookup] at hsome
      cases hsome
    rw [if_neg hnot]
  | some s =>
    by_cases hid : id = rpt.orderId
    -- the record takes the report in; the status does not touch the quantity
    · subst hid
      rw [if_pos ⟨rfl, by rw [hlookup]; rfl⟩]
      simp only [filledQty, AList.lookup_insert, hlookup]
      exact recordFill_filledQty _ rpt
    · rw [if_neg (fun h => hid h.1)]
      simp only [filledQty, AList.lookup_insert_ne hid]

theorem tracks_store (s : OrderState) (id : Nat) :
    (om.store s).Tracks id ↔ id = s.orderId ∨ om.Tracks id := by
  unfold Tracks store
  rw [Table.lookup_insert_eq]
  split
  · next h => exact iff_of_true rfl (Or.inl h)
  · next h => exact ⟨Or.inr, fun h' => h'.resolve_left h⟩

theorem tracks_onExecReport (rpt : ExecReport) (nowNs id : Nat) :
    (om.onExecReport rpt nowNs).Tracks id ↔ om.Tracks id := by
  unfold onExecReport Tracks
  split
  · exact Iff.rfl
  · next s hs =>
    rw [Table.lookup_insert_eq]
    split
    · next hid =>
      subst hid
      rw [hs]
      exact Iff.rfl
    · exact Iff.rfl

/-! ## The records after an operation -/

/-- What a report makes of its record. -/
def applyReport (s : OrderState) (rpt : ExecReport) (nowNs : Nat) : OrderState :=
  { recordFill { s with lastUpdateNs := nowNs } rpt with status := statusOf rpt.status }

theorem applyReport_filledQty (s : OrderState) (rpt : ExecReport) (nowNs : Nat) :
    (applyReport s rpt nowNs).filledQty = max s.filledQty (ofE8 rpt.filledQty) :=
  recordFill_filledQty { s with lastUpdateNs := nowNs } rpt

theorem lookup_onExecReport (rpt : ExecReport) (nowNs id : Nat) :
    (om.onExecReport rpt nowNs).lookup.lookup id =
      if rpt.orderId = id then (om.lookup.lookup id).map (applyReport · rpt nowNs)
      else om.lookup.lookup id := by
  unfold onExecReport
  split
  · next hnone =>
    split
    · next hid => rw [← hid, hnone]; rfl
    · rfl
  · next s hs =>
    rw [Table.lookup_insert_eq]
    by_cases hid : rpt.orderId = id
    · rw [if_pos hid.symm, if_pos hid, ← hid, hs]
      rfl
    · rw [if_neg (Ne.symm hid), if_neg hid]

theorem cancelPending_of_not_live {s : OrderState} (h : ¬ s.status.live = true) (nowNs : Nat) :
    cancelPending s nowNs = s :=
  if_neg h

theorem cancelPending_filledQty (s : OrderState) (nowNs : Nat) :
    (cancelPending s nowNs).filledQty = s.filledQty := by
  unfold cancelPending
  split <;> rfl

theorem lookup_sendCancel (cancel : CancelOrderRequest) (nowNs id : Nat) :
    (om.sendCancel cancel nowNs).lookup.lookup id =
      if cancel.orderId = id then (om.lookup.lookup id).map (cancelPending · nowNs)
      else om.lookup.lookup id := by
  unfold sendCancel
  split
  · next hnone =>
    split
    · next hid => rw [← hid, hnone]; rfl
    · rfl
  · next s hs =>
    rw [Table.lookup_insert_eq]
    by_cases hid : cancel.orderId = id
    · rw [if_pos hid.symm, if_pos hid, ← hid, hs]
      rfl
    · rw [if_neg (Ne.symm hid), if_neg hid]

/-- The cancel of a handle does to the records what the cancel of a request does. -/
theorem lookup_sendCancelHandle (handle : Option Nat) (nowNs id : Nat) :
    (om.sendCancelHandle handle nowNs).1.lookup.lookup id =
      if handle = some id then (om.lookup.lookup id).map (cancelPending · nowNs)
      else om.lookup.lookup id := by
  cases handle with
  | none => rfl
  | some orderId =>
    simp only [Option.some.injEq]
    unfold sendCancelHandle
    dsimp only
    split
    · next hnone =>
      split
      · next hid => rw [← hid, hnone]; rfl
      · rfl
    · next s hs =>
      by_cases hlive : s.status.live = true
      · rw [if_pos hlive, Table.lookup_insert_eq]
        by_cases hid : orderId = id
        · rw [if_pos hid.symm, if_pos hid, ← hid, hs]
          rfl
        · rw [if_neg (Ne.symm hid), if_neg hid]
      · rw [if_neg hlive]
        split
        · next hid => rw [← hid, hs, Option.map_some, cancelPending_of_not_live hlive]
        · rfl

end OrderManager

end BptCore.Strategy
