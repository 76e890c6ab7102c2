import BptCore.Lib.Table
import BptCore.Messages

/-!
# The passive maker's inventory

What `PassiveMakerStrategy::on_exec_report` reads and writes: the resting quote of either side
and the inventory of an instrument, and, for every order, the quantity it has seen filled. A
filled quantity is taken for the order's cumulative one.
-/

namespace BptCore.Strategy

namespace PassiveMaker

structure InstrumentState where
  exchangeId : ExchangeId
  inventory : ℚ := 0
  bidOrderId : Nat := 0
  askOrderId : Nat := 0
  lastFilledQtyE8 : Table Nat Nat := ∅

end PassiveMaker

structure PassiveMaker where
  state : Table Nat PassiveMaker.InstrumentState := ∅
  orderToInstrument : Table Nat Nat := ∅

namespace PassiveMaker

/-- `last_filled_qty_e8[order_id]`: 0 for an order that is not in the map. -/
def InstrumentState.lastFilled (st : InstrumentState) (orderId : Nat) : Nat :=
  (st.lastFilledQtyE8.lookup orderId).getD 0

/-- The fill of a report: what it carries beyond the last one is new. -/
def InstrumentState.recordFill (st : InstrumentState) (rpt : ExecReport) : InstrumentState :=
  let last := st.lastFilled rpt.orderId
  if rpt.status.isFill then
    if rpt.filledQty > last then
      { st with
        inventory := st.inventory + ofE8 (rpt.side.signed (rpt.filledQty - last : Nat))
        lastFilledQtyE8 := st.lastFilledQtyE8.insert rpt.orderId rpt.filledQty }
    -- `operator[]` has made an entry for the order all the same
    else { st with lastFilledQtyE8 := st.lastFilledQtyE8.insert rpt.orderId last }
  else st

/-- An order at its end is no quote any more, and is forgotten. -/
def InstrumentState.forget (st : InstrumentState) (orderId : Nat) : InstrumentState :=
  { st with
    bidOrderId := if st.bidOrderId = orderId then 0 else st.bidOrderId
    askOrderId := if st.askOrderId = orderId then 0 else st.askOrderId
    lastFilledQtyE8 := st.lastFilledQtyE8.erase orderId }

variable (pm : PassiveMaker)

def onExecReport (rpt : ExecReport) : PassiveMaker :=
  match pm.orderToInstrument.lookup rpt.orderId with
  | none => pm
  | some inst =>
    match pm.state.lookup inst with
    | none => pm
    | some st =>
      let st := st.recordFill rpt
      if rpt.status.terminal then
        { state := pm.state.insert inst (st.forget rpt.orderId)
          orderToInstrument := pm.orderToInstrument.erase rpt.orderId }
      else { pm with state := pm.state.insert inst st }

/-- `order_to_instrument_[oid] = instrument_id`, when an order was placed. -/
def placed (orderId inst : Nat) : PassiveMaker :=
  { pm with orderToInstrument := pm.orderToInstrument.insert orderId inst }

def inventory (inst : Nat) : ℚ :=
  match pm.state.lookup inst with
  | some st => st.inventory
  | none => 0

/-! ## What a fill does -/

section Fill

variable {pm} {st : InstrumentState} {rpt : ExecReport}

@[simp] theorem recordFill_exchangeId : (st.recordFill rpt).exchangeId = st.exchangeId := by
  unfold InstrumentState.recordFill
  dsimp only
  split
  · split <;> rfl
  · rfl

/-- The inventory moves by what the report carries beyond the last one. -/
theorem recordFill_inventory (hfill : rpt.status.isFill = true) :
    (st.recordFill rpt).inventory =
      st.inventory + ofE8 (rpt.side.signed (rpt.filledQty - st.lastFilled rpt.orderId : Nat)) := by
  simp only [InstrumentState.recordFill, if_pos hfill]
  split
  · rfl
  · next hold =>
    have hzero : rpt.filledQty - st.lastFilled rpt.orderId = 0 := by omega
    rw [hzero]
    cases rpt.side <;> simp [OrderSide.signed, ofE8]

/-- What is remembered of an order is the most that a report carried. -/
theorem recordFill_lastFilled (hfill : rpt.status.isFill = true) (id : Nat) :
    (st.recordFill rpt).lastFilled id =
      if id = rpt.orderId then max (st.lastFilled id) rpt.filledQty else st.lastFilled id := by
  simp only [InstrumentState.recordFill, if_pos hfill]
  by_cases hid : id = rpt.orderId
  · subst hid
    rw [if_pos rfl]
    split
    · next hnew =>
      simp only [InstrumentState.lastFilled, AList.lookup_insert, Option.getD_some]
      exact (max_eq_right (Nat.le_of_lt hnew)).symm
    · next hold =>
      simp only [InstrumentState.lastFilled, AList.lookup_insert, Option.getD_some]
      exact (max_eq_left (Nat.not_lt.mp hold)).symm
  · rw [if_neg hid]
    split
    · simp only [InstrumentState.lastFilled, AList.lookup_insert_ne hid]
    · simp only [InstrumentState.lastFilled, AList.lookup_insert_ne hid]

theorem forget_lastFilled (orderId id : Nat) :
    (st.forget orderId).lastFilled id = if id = orderId then 0 else st.lastFilled id := by
  simp only [InstrumentState.lastFilled, InstrumentState.forget, Table.lookup_erase_eq]
  split <;> rfl

theorem onExecReport_of_notFollowed (h : pm.orderToInstrument.lookup rpt.orderId = none) :
    pm.onExecReport rpt = pm := by
  simp only [onExecReport, h]

/-- The state that a report of one of its orders leaves an instrument in. -/
def InstrumentState.after (st : InstrumentState) (rpt : ExecReport) : InstrumentState :=
  if rpt.status.terminal then (st.recordFill rpt).forget rpt.orderId else st.recordFill rpt

theorem onExecReport_of_followed {inst : Nat}
    (h : pm.orderToInstrument.lookup rpt.orderId = some inst)
    (hst : pm.state.lookup inst = some st) :
    pm.onExecReport rpt =
      { state := pm.state.insert inst (st.after rpt)
        orderToInstrument := if rpt.status.terminal then pm.orderToInstrument.erase rpt.orderId
          else pm.orderToInstrument } := by
  simp only [onExecReport, h, hst, InstrumentState.after]
  split <;> rfl

@[simp] theorem after_exchangeId : (st.after rpt).exchangeId = st.exchangeId := by
  unfold InstrumentState.after
  split
  · exact recordFill_exchangeId
  · exact recordFill_exchangeId

/-- The exchange that an instrument trades on. -/
def exchangeOf (pm : PassiveMaker) (inst : Nat) : Option ExchangeId :=
  (pm.state.lookup inst).map fun st => st.exchangeId

/-- No report moves an instrument to another exchange. -/
theorem exchangeOf_onExecReport (inst : Nat) :
    (pm.onExecReport rpt).exchangeOf inst = pm.exchangeOf inst := by
  cases hfollowed : pm.orderToInstrument.lookup rpt.orderId with
  | none => rw [onExecReport_of_notFollowed hfollowed]
  | some inst' =>
    cases hst : pm.state.lookup inst' with
    | none => simp only [onExecReport, hfollowed, hst]
    | some st =>
      rw [onExecReport_of_followed hfollowed hst]
      simp only [exchangeOf, Table.lookup_insert_eq]
      split
      · next hinst =>
        rw [hinst, hst, Option.map_some, Option.map_some, after_exchangeId]
      · rfl

theorem after_inventory (hfill : rpt.status.isFill = true) :
    (st.after rpt).inventory =
      st.inventory + ofE8 (rpt.side.signed (rpt.filledQty - st.lastFilled rpt.orderId : Nat)) := by
  rw [← recordFill_inventory hfill, InstrumentState.after]
  split <;> rfl

theorem after_lastFilled (hfill : rpt.status.isFill = true) (id : Nat) :
    (st.after rpt).lastFilled id =
      if id = rpt.orderId then
        if rpt.status.terminal then 0 else max (st.lastFilled id) rpt.filledQty
      else st.lastFilled id := by
  unfold InstrumentState.after
  split
  · rw [forget_lastFilled, recordFill_lastFilled hfill]
    split
    · rfl
    · rfl
  · exact recordFill_lastFilled hfill id

end Fill

end PassiveMaker

end BptCore.Strategy
