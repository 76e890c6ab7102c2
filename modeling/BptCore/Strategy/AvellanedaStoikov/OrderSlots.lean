import BptCore.Strategy.AvellanedaStoikov.AvellanedaStoikovStrategy

/-!
# The slots of the orders

An order that is not over has one place to be held: the slot of its side, or of the unwind, in the
state of its instrument. What the desk does to an order, and what the work on one instrument keeps.

* **`openSlot`** — the slot that an open order belongs to.
* **`Places`** — a send puts one new order into a slot, or none.
* **`Led`** — the work on an instrument keeps its handles, its quotes, and the orders of others.
-/

namespace BptCore.Strategy

namespace AvellanedaStoikov

/-! ## Where an open order belongs -/

/-- The instrument and the slot of an order on record that is not over. -/
def openSlot (d : QuoteDesk) (orderId : Nat) : Option (Nat × Slot) :=
  match d.om.lookup.lookup orderId with
  | none => none
  | some os =>
    if os.status.terminal then none
    else some (os.instrumentId, .ofOrder ((d.tags.lookup orderId).getD .quote) os.side)

section Desk

variable {d : QuoteDesk} {env : Surroundings}

/-- An order that has a slot is on record under its instrument, and open. -/
theorem openSlot_eq_some_iff {orderId id : Nat} {slot : Slot} :
    openSlot d orderId = some (id, slot) ↔
      ∃ os, d.om.lookup.lookup orderId = some os ∧ os.status.terminal = false ∧
        os.instrumentId = id ∧ .ofOrder ((d.tags.lookup orderId).getD .quote) os.side = slot := by
  unfold openSlot
  constructor
  · intro h
    split at h
    · cases h
    · next os hos =>
      split at h
      · cases h
      · next hopen =>
        cases h
        exact ⟨os, hos, Bool.not_eq_true _ ▸ hopen, rfl, rfl⟩
  · rintro ⟨os, hos, hopen, rfl, rfl⟩
    rw [hos]
    dsimp only
    rw [if_neg (Bool.not_eq_true _ ▸ hopen)]

theorem terminal_cancelPending (os : OrderState) (nowNs : Nat) :
    (OrderManager.cancelPending os nowNs).status.terminal = os.status.terminal := by
  unfold OrderManager.cancelPending
  split
  · next hlive =>
    cases hterminal : os.status.terminal with
    | false => rfl
    | true => exact absurd hlive (OrderStatus.not_live_of_terminal hterminal)
  · rfl

/-- A cancel that is sent does not end its order. -/
@[simp] theorem openSlot_sendCancel (handle : Option Nat) (orderId : Nat) :
    openSlot (d.sendCancel env handle).1 orderId = openSlot d orderId := by
  have htags : (d.sendCancel env handle).1.tags = d.tags := rfl
  unfold openSlot
  rw [QuoteDesk.lookup_sendCancel, htags]
  by_cases hown : handle = some orderId
  · rw [if_pos hown]
    cases d.om.lookup.lookup orderId with
    | none => rfl
    | some os =>
      have hsame : (OrderManager.cancelPending os env.wallNs).instrumentId = os.instrumentId ∧
          (OrderManager.cancelPending os env.wallNs).side = os.side := by
        unfold OrderManager.cancelPending
        split <;> exact ⟨rfl, rfl⟩
      rw [Option.map_some]
      dsimp only
      rw [terminal_cancelPending, hsame.1, hsame.2]
  · rw [if_neg hown]

theorem openSlot_nextOrderId (hfresh : d.Fresh) : openSlot d d.nextOrderId = none := by
  unfold openSlot
  rw [hfresh.lookup_nextOrderId]

/-- A new order belongs to the slot of its tag and side; nothing else moves. -/
theorem openSlot_sendNewOrder (request : NewOrderRequest) (tag : OrderTag) (orderId : Nat) :
    openSlot (d.sendNewOrder env request tag).1 orderId =
      if (d.sendNewOrder env request tag).2.1 = some orderId then
        some (request.instrumentId, .ofOrder tag request.side)
      else openSlot d orderId := by
  rcases QuoteDesk.sendNewOrder_cases (d := d) env request tag with
    ⟨hid, hom, htags, -⟩ | ⟨price, quantity, symbol, -, order, horder, heq⟩
  · rw [hid, if_neg (Option.some_ne_none orderId).symm]
    unfold openSlot
    rw [hom, htags]
  · rw [heq]
    unfold openSlot OrderManager.store
    simp only [Option.some_inj]
    have hid : order.orderId = d.nextOrderId := by rw [horder]; rfl
    have hrecord : (OrderState.placed order price quantity env.wallNs).orderId = d.nextOrderId :=
      hid
    rw [Table.lookup_insert_eq, Table.lookup_insert_eq, hrecord]
    by_cases hnew : orderId = d.nextOrderId
    · rw [if_pos hnew, if_pos hnew, if_pos hnew.symm, horder]
      rfl
    · rw [if_neg hnew, if_neg hnew, if_neg (Ne.symm hnew)]

/-- A report decides about its own order only. -/
theorem openSlot_onExecReport (rpt : ExecReport) (orderId : Nat) :
    openSlot (d.onExecReport env rpt) orderId =
      if rpt.orderId = orderId then
        match d.om.lookup.lookup orderId with
        | none => none
        | some os =>
          if rpt.status.terminal then none
          else some (os.instrumentId, .ofOrder ((d.tags.lookup orderId).getD .quote) os.side)
      else openSlot d orderId := by
  have htags : (d.onExecReport env rpt).tags = d.tags := rfl
  have hlookup : (d.onExecReport env rpt).om.lookup.lookup orderId = _ :=
    d.om.lookup_onExecReport rpt env.wallNs orderId
  unfold openSlot
  rw [hlookup, htags]
  by_cases hown : rpt.orderId = orderId
  · rw [if_pos hown, if_pos hown]
    cases d.om.lookup.lookup orderId with
    | none => rfl
    | some os =>
      have hsame : (OrderManager.applyReport os rpt env.wallNs).instrumentId = os.instrumentId ∧
          (OrderManager.applyReport os rpt env.wallNs).side = os.side := by
        unfold OrderManager.applyReport OrderManager.recordFill
        dsimp only
        split <;> exact ⟨rfl, rfl⟩
      have hstatus : (OrderManager.applyReport os rpt env.wallNs).status.terminal =
          rpt.status.terminal := OrderManager.terminal_statusOf rpt.status
      rw [Option.map_some]
      dsimp only
      rw [hstatus, hsame.1, hsame.2]
  · rw [if_neg hown, if_neg hown]

/-- What a send comes to: the order of one slot that it placed, if any, is new. -/
structure Places (d : QuoteDesk) (instrumentId : Nat) (slot : Slot)
    (out : QuoteDesk × Option Nat × List Sent) : Prop where
  fresh : out.1.Fresh
  openSlot_eq : ∀ orderId, openSlot out.1 orderId =
    if out.2.1 = some orderId then some (instrumentId, slot) else openSlot d orderId
  new : ∀ orderId, out.2.1 = some orderId → openSlot d orderId = none

theorem Places.nothing (hfresh : d.Fresh) (instrumentId : Nat) (slot : Slot) :
    Places d instrumentId slot (d, none, []) where
  fresh := hfresh
  openSlot_eq orderId := (if_neg (Option.some_ne_none orderId).symm).symm
  new orderId h := by cases h

theorem places_sendNewOrder (hfresh : d.Fresh) (request : NewOrderRequest) (tag : OrderTag) :
    Places d request.instrumentId (.ofOrder tag request.side)
      (d.sendNewOrder env request tag) where
  fresh := hfresh.sendNewOrder env request tag
  openSlot_eq := openSlot_sendNewOrder request tag
  new orderId h := by
    rcases QuoteDesk.sendNewOrder_cases (d := d) env request tag with
      ⟨hid, -⟩ | ⟨price, quantity, symbol, -, order, -, heq⟩
    · rw [hid] at h
      cases h
    · rw [heq] at h
      rw [← Option.some.inj h]
      exact openSlot_nextOrderId hfresh

end Desk

/-! ## Work on one instrument -/

variable {Sig : Type} {cfg : Config Sig} {env : Surroundings}

/-- Every handle of the instrument holds an open order of its slot. -/
def HoldsOpen (d : QuoteDesk) (st : InstrumentState Sig) : Prop :=
  ∀ slot orderId, st.handle slot = some orderId →
    openSlot d orderId = some (st.instrumentId, slot)

/-- An open order of the slot is held. -/
def HoldsSlot (d : QuoteDesk) (st : InstrumentState Sig) (slot : Slot) : Prop :=
  ∀ orderId, openSlot d orderId = some (st.instrumentId, slot) → st.handle slot = some orderId

/-- What the work on an instrument keeps: its handles, its quotes, and the orders of the others. -/
structure Led (w w' : Work Sig) : Prop where
  instrumentId : w'.st.instrumentId = w.st.instrumentId
  fresh : w'.desk.Fresh
  holdsOpen : HoldsOpen w'.desk w'.st
  holdsSlot : ∀ slot, HoldsSlot w.desk w.st slot → HoldsSlot w'.desk w'.st slot
  elsewhere : ∀ k slot orderId, k ≠ w.st.instrumentId →
    (openSlot w'.desk orderId = some (k, slot) ↔ openSlot w.desk orderId = some (k, slot))

namespace Led

variable {w w' w'' : Work Sig}

theorem trans (h : Led w w') (h' : Led w' w'') : Led w w'' where
  instrumentId := h'.instrumentId.trans h.instrumentId
  fresh := h'.fresh
  holdsOpen := h'.holdsOpen
  holdsSlot slot hheld := h'.holdsSlot slot (h.holdsSlot slot hheld)
  elsewhere k slot orderId hk :=
    (h'.elsewhere k slot orderId (by rwa [h.instrumentId])).trans (h.elsewhere k slot orderId hk)

theorem andThen (h : Led w w') (h' : w'.desk.Fresh → HoldsOpen w'.desk w'.st → Led w' w'') :
    Led w w'' :=
  h.trans (h' h.fresh h.holdsOpen)

/-- Neither a handle nor an order is touched. -/
theorem of_same (hopen : HoldsOpen w.desk w.st) (hfresh : w'.desk.Fresh)
    (hid : w'.st.instrumentId = w.st.instrumentId)
    (hhandle : ∀ slot, w'.st.handle slot = w.st.handle slot)
    (hslot : ∀ orderId, openSlot w'.desk orderId = openSlot w.desk orderId) : Led w w' where
  instrumentId := hid
  fresh := hfresh
  holdsOpen slot orderId h := by
    rw [hhandle] at h
    rw [hslot, hid]
    exact hopen slot orderId h
  holdsSlot slot hheld orderId h := by
    rw [hslot, hid] at h
    rw [hhandle]
    exact hheld orderId h
  elsewhere k slot orderId _ := by rw [hslot]

/-- An order in an empty slot. -/
theorem place {slot : Slot} {out : QuoteDesk × Option Nat × List Sent}
    (hopen : HoldsOpen w.desk w.st) (hempty : w.st.handle slot = none)
    (hplaces : Places w.desk w.st.instrumentId slot out) (hdesk : w'.desk = out.1)
    (hid : w'.st.instrumentId = w.st.instrumentId)
    (hhandle : ∀ slot', w'.st.handle slot' = if slot' = slot then out.2.1 else w.st.handle slot') :
    Led w w' where
  instrumentId := hid
  fresh := by
    rw [hdesk]
    exact hplaces.fresh
  holdsOpen slot' orderId h := by
    rw [hhandle] at h
    rw [hdesk, hid, hplaces.openSlot_eq]
    split at h
    · next hown => rw [if_pos h, hown]
    · have hold := hopen slot' orderId h
      rw [if_neg ?_, hold]
      intro hnew
      rw [hplaces.new orderId hnew] at hold
      cases hold
  holdsSlot slot' hold orderId h := by
    rw [hdesk, hid, hplaces.openSlot_eq] at h
    rw [hhandle]
    split at h
    · next hnew =>
      cases h
      rw [if_pos rfl, hnew]
    · have hheld := hold orderId h
      rw [if_neg ?_, hheld]
      rintro rfl
      rw [hempty] at hheld
      cases hheld
  elsewhere k slot' orderId hk := by
    rw [hdesk, hplaces.openSlot_eq]
    split
    · next hnew =>
      rw [hplaces.new orderId hnew]
      refine iff_of_false (fun h => ?_) (Option.some_ne_none _).symm
      cases h
      exact hk rfl
    · exact Iff.rfl

/-- Only what is neither an id nor a handle of the instrument changes. -/
theorem adjust (hfresh : w.desk.Fresh) (hopen : HoldsOpen w.desk w.st)
    (st : InstrumentState Sig) (hid : st.instrumentId = w.st.instrumentId)
    (hhandle : ∀ slot, st.handle slot = w.st.handle slot) (sent : List Sent) :
    Led w { w with st := st, sent := sent } :=
  of_same hopen hfresh hid hhandle fun _ => rfl

theorem refl (hfresh : w.desk.Fresh) (hopen : HoldsOpen w.desk w.st) : Led w w :=
  adjust hfresh hopen w.st rfl (fun _ => rfl) w.sent

theorem cancel (hfresh : w.desk.Fresh) (hopen : HoldsOpen w.desk w.st) (handle : Option Nat)
    (sent : List Sent) :
    Led w { w with desk := (w.desk.sendCancel env handle).1, sent := sent } :=
  of_same hopen (hfresh.sendCancel env handle) rfl (fun _ => rfl) (openSlot_sendCancel handle)

end Led

section Quoting

variable {w : Work Sig} (hfresh : w.desk.Fresh) (hopen : HoldsOpen w.desk w.st)

include hfresh

theorem places_sendLimitOrder (side : OrderSide) (price qty : ℚ) :
    Places w.desk w.st.instrumentId (.ofOrder .quote side)
      (sendLimitOrder cfg env w.desk w.st side price qty) := by
  rcases sendLimitOrder_cases cfg env w.desk w.st side price qty with h | h
  · rw [h]
    exact .nothing hfresh _ _
  · rw [h, QuoteDesk.sendQuote]
    exact places_sendNewOrder hfresh { side := side, postOnly := true, .. } .quote

theorem places_sendUnwindOrder (side : OrderSide) (mid qty : ℚ) :
    Places w.desk w.st.instrumentId .unwind
      (sendUnwindOrder cfg env w.desk w.st side mid qty) := by
  unfold sendUnwindOrder
  split
  · exact places_sendNewOrder hfresh { side := side, .. } .unwindNormal
  · exact .nothing hfresh _ _

include hopen

variable (cfg env) in
theorem manageSide_led (side : OrderSide) (mid : ℚ) (atCap suppressed : Bool)
    (newPx effQty : ℚ) :
    Led w (manageSide cfg env w side mid atCap suppressed newPx effQty) := by
  rcases manageSide_cases cfg env w side mid atCap suppressed newPx effQty with
    h | ⟨orderId, -, h⟩ | ⟨orderId, q, hhandle, hq, -, -, h⟩ | ⟨hempty, -, -, h⟩
  · rw [h]
    exact .refl hfresh hopen
  · rw [h]
    exact .cancel hfresh hopen _ _
  · rw [h]
    refine .adjust hfresh hopen _ (w.st.setQuoteSide_instrumentId side q) (fun slot => ?_) _
    rw [InstrumentState.handle_setQuoteSide]
    split
    · next hown => rw [hown, hhandle, hq]
    · rfl
  · rw [h]
    refine .place hopen hempty (places_sendLimitOrder hfresh side newPx effQty) rfl ?_
      fun slot => ?_
    · dsimp only
      split
      · exact w.st.setQuoteSide_instrumentId side _
      · rfl
    · dsimp only
      cases (sendLimitOrder cfg env w.desk w.st side newPx effQty).2.1 with
      | some orderId => exact w.st.handle_setQuoteSide side _ slot
      | none =>
        dsimp only
        split
        · next hown => rw [hown, hempty]
        · rfl

theorem unwindSide_led (hnone : w.st.handle .unwind = none) (side : OrderSide) (mid effQty : ℚ) :
    Led w (unwindSide cfg env w side mid effQty) := by
  refine .place hopen hnone (places_sendUnwindOrder hfresh side mid effQty) rfl ?_ fun slot => ?_
  · unfold unwindSide
    dsimp only
    split <;> rfl
  · unfold unwindSide
    dsimp only
    cases (sendUnwindOrder cfg env w.desk w.st side mid effQty).2.1 with
    | some orderId => cases slot <;> rfl
    | none =>
      dsimp only
      split
      · next hown => rw [hown, hnone]
      · rfl

variable (cfg env) in
theorem unwindAtMax_led (atMaxLong atMaxShort : Bool) (mid effQty : ℚ) :
    Led w (unwindAtMax cfg env w atMaxLong atMaxShort mid effQty) := by
  rcases unwindAtMax_cases cfg env w atMaxLong atMaxShort mid effQty with
    h | ⟨side, hnone, -, h⟩
  · rw [h]
    exact .refl hfresh hopen
  · rw [h]
    exact unwindSide_led hfresh hopen hnone side mid effQty

theorem requote_led (netQty mid : ℚ) (equityE8 : Int) (quotes : QuoteTarget) :
    Led w (requote cfg env w netQty mid equityE8 quotes) := by
  unfold requote
  dsimp only
  refine .andThen ?_ fun hfresh hopen => unwindAtMax_led cfg env hfresh hopen _ _ _ _
  refine .andThen ?_ fun hfresh hopen => manageSide_led cfg env hfresh hopen .SELL _ _ _ _ _
  exact manageSide_led cfg env hfresh hopen .BUY _ _ _ _ _

theorem maybeRequote_led (netQty mid : ℚ) (equityE8 : Int) (quotes : QuoteTarget) :
    Led w (maybeRequote cfg env w netQty mid equityE8 quotes) := by
  unfold maybeRequote
  split
  · exact .refl hfresh hopen
  · let w' : Work Sig := { w with st := { w.st with rejectBackoffUntilNs := 0 } }
    have hbackoff : Led w w' := .adjust hfresh hopen w'.st rfl (fun _ => rfl) w.sent
    exact hbackoff.andThen fun hfresh hopen =>
      requote_led hfresh hopen netQty mid equityE8 quotes

theorem cancelQuotes_led : Led w (cancelQuotes env w) := by
  let bid : Work Sig := { w with desk := (w.desk.sendCancel env w.st.bid.handle).1 }
  have hbid : Led w bid := .cancel hfresh hopen w.st.bid.handle w.sent
  exact hbid.andThen fun hfresh hopen => .cancel hfresh hopen w.st.ask.handle _

end Quoting

theorem tickWork_led {s : AvellanedaStoikov Sig} {st : InstrumentState Sig}
    (hfresh : s.desk.Fresh) (hopen : HoldsOpen s.desk st) (tick : MdMarketData) :
    Led { desk := s.desk, st := st } (s.tickWork cfg env st tick) := by
  let w : Work Sig := { desk := s.desk, st := st }
  have hadjust : ∀ st', st'.instrumentId = st.instrumentId →
      (∀ slot, st'.handle slot = st.handle slot) → Led w { desk := s.desk, st := st' } :=
    fun st' hid hhandle => .adjust hfresh hopen st' hid hhandle []
  unfold tickWork
  dsimp only
  split
  · split
    · exact hadjust _ rfl fun _ => rfl
    · refine .andThen ?_ fun hfresh hopen => cancelQuotes_led hfresh hopen
      exact hadjust _ rfl fun _ => rfl
  · split
    · exact hadjust _ rfl fun _ => rfl
    · refine .andThen ?_ fun hfresh hopen => maybeRequote_led hfresh hopen _ _ _ _
      exact hadjust _ rfl fun _ => rfl

end AvellanedaStoikov

end BptCore.Strategy
