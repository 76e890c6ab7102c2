import BptCore.Strategy.AvellanedaStoikov.QuoteHandles

/-!
# The inventory and what is still open

A quote is placed or changed while the filled inventory is short of its bound, and what is still
open comes on top of it: at most one quote of a side and one unwind, if no order is lost. The
gateway is followed by what it was asked for and what it filled, order by order.

* **`Trading`** — the strategy beside the gateway's account of its orders.
* **`Exposed`** — the inventory of a side with everything that can still be filled.
* **`inventory_bounded`** — two quotes beyond the bound at most, when no order is lost.
-/

namespace BptCore.Strategy

/-- The quantity that a call asks for. -/
def Sent.quantity : Sent → Nat
  | .newOrder order => order.quantity
  | .modify change => change.newQuantity
  | .cancel _ => 0

/-- The quantity that a call asks for of an order. -/
def Sent.quantityFor (orderId : Nat) : Sent → Nat
  | .newOrder order => if order.orderId = orderId then order.quantity else 0
  | .modify change => if change.orderId = orderId then change.newQuantity else 0
  | .cancel _ => 0

theorem Sent.quantityFor_le (orderId : Nat) (c : Sent) : c.quantityFor orderId ≤ c.quantity := by
  unfold quantityFor quantity
  split
  · split
    · exact Nat.le_refl _
    · exact Nat.zero_le _
  · split
    · exact Nat.le_refl _
    · exact Nat.zero_le _
  · exact Nat.le_refl _

namespace AvellanedaStoikov

/-- The largest quantity asked for of every order. -/
def largest (asked : Nat → Nat) (sent : List Sent) (orderId : Nat) : Nat :=
  sent.foldl (fun quantity c => max quantity (c.quantityFor orderId)) (asked orderId)

section Largest

variable {asked : Nat → Nat} {sent sent' : List Sent} {orderId q : Nat}

theorem largest_append (asked : Nat → Nat) (sent sent' : List Sent) (orderId : Nat) :
    largest asked (sent ++ sent') orderId = largest (largest asked sent) sent' orderId :=
  List.foldl_append

/-- Calls about other orders, and cancels, ask for nothing. -/
theorem largest_of_zero (h : ∀ c ∈ sent, c.quantityFor orderId = 0) :
    largest asked sent orderId = asked orderId := by
  unfold largest
  generalize asked orderId = quantity
  induction sent with
  | nil => rfl
  | cons c sent ih =>
    rw [List.foldl_cons, h c List.mem_cons_self, Nat.max_zero]
    exact ih fun c hc => h c (List.mem_cons_of_mem _ hc)

theorem largest_le (hasked : asked orderId ≤ q) (h : ∀ c ∈ sent, c.quantity ≤ q) :
    largest asked sent orderId ≤ q := by
  unfold largest
  generalize asked orderId = quantity at hasked
  induction sent generalizing quantity with
  | nil => exact hasked
  | cons c sent ih =>
    refine ih (fun c hc => h c (List.mem_cons_of_mem _ hc)) _ ?_
    have hc := Nat.le_trans (c.quantityFor_le orderId) (h c List.mem_cons_self)
    exact Nat.max_le.mpr ⟨hasked, hc⟩

end Largest

/-! ## The strategy and the gateway -/

structure Trading (Sig : Type) where
  strategy : AvellanedaStoikov Sig
  requested : Nat → Nat := fun _ => 0
  filled : Nat → Nat := fun _ => 0

namespace Trading

variable {Sig : Type} (cfg : Config Sig) (t : Trading Sig)

def filledAfter : Callback → Nat → Nat
  | .execReport rpt _, orderId =>
    t.filled orderId + if rpt.status.isFill ∧ orderId = rpt.orderId then rpt.filledQty else 0
  | _, orderId => t.filled orderId

def step (t : Trading Sig) (e : Callback × Surroundings) : Trading Sig × List Sent :=
  let r := t.strategy.step cfg e
  ({ strategy := r.1, requested := largest t.requested r.2, filled := t.filledAfter e.1 }, r.2)

def init (nextOrderId : Nat) : Trading Sig where
  strategy := { desk := { nextOrderId := nextOrderId } }

/-- No order or modify asks for more than `q`. -/
def FixedSize (q : Nat) (t : Trading Sig) (e : Callback × Surroundings) : Prop :=
  ∀ c ∈ (t.strategy.step cfg e).2, c.quantity ≤ q

/-- The fills of an order stay within the largest quantity asked for, on the order's side. -/
def HonestGateway (t : Trading Sig) : Callback × Surroundings → Prop
  | (.execReport rpt _, _) => ∀ os ∈ t.strategy.desk.om.lookup.lookup rpt.orderId,
    rpt.status.isFill = true →
      rpt.side = os.side ∧ t.filled rpt.orderId + rpt.filledQty ≤ t.requested rpt.orderId
  | _ => True

/-- No order is lost: none is open when its instrument is forgotten, and none that is over is
filled or brought back. Account snapshots find the positions as they are. -/
def LosesNothing (t : Trading Sig) (e : Callback × Surroundings) : Prop :=
  t.strategy.KeepsOrders (fun _ => True) e ∧
  match e.1 with
  | .execReport rpt _ => ∀ os ∈ t.strategy.desk.om.lookup.lookup rpt.orderId,
    os.status.terminal = true → rpt.status.isFill = false
  | .accountSnapshot snap => (t.strategy.onAccountSnapshot snap).2 = 0
  | _ => True

/-- The position of every instrument is at most two quotes beyond the bound. -/
def Bounded (q : Nat) (t : Trading Sig) : Prop :=
  ∀ id st, t.strategy.state.lookup id = some st →
    |ofE8 (t.strategy.positions.netQty id st.exchangeId)| ≤ cfg.sizer.maxInventory + 2 * ofE8 q

end Trading

/-! ## What a call leaves alone -/

/-- The side of an order on record. -/
def sideOf (d : QuoteDesk) (orderId : Nat) : Option OrderSide :=
  (d.om.lookup.lookup orderId).map (·.side)

/-- Every record is under the id that it carries. -/
def Keyed (d : QuoteDesk) : Prop :=
  ∀ orderId os, d.om.lookup.lookup orderId = some os → os.orderId = orderId

section Calls

variable {d : QuoteDesk} {env : Surroundings}

theorem cancelPending_side (os : OrderState) (nowNs : Nat) :
    (OrderManager.cancelPending os nowNs).side = os.side ∧
      (OrderManager.cancelPending os nowNs).orderId = os.orderId := by
  unfold OrderManager.cancelPending
  split <;> exact ⟨rfl, rfl⟩

theorem applyReport_side (os : OrderState) (rpt : ExecReport) (nowNs : Nat) :
    (OrderManager.applyReport os rpt nowNs).side = os.side ∧
      (OrderManager.applyReport os rpt nowNs).orderId = os.orderId := by
  unfold OrderManager.applyReport OrderManager.recordFill
  dsimp only
  split <;> exact ⟨rfl, rfl⟩

@[simp] theorem sideOf_sendCancel (handle : Option Nat) (orderId : Nat) :
    sideOf (d.sendCancel env handle).1 orderId = sideOf d orderId := by
  unfold sideOf
  rw [QuoteDesk.lookup_sendCancel]
  split
  · cases d.om.lookup.lookup orderId with
    | none => rfl
    | some os => exact congrArg some (cancelPending_side os _).1
  · rfl

theorem Keyed.sendCancel (h : Keyed d) (handle : Option Nat) :
    Keyed (d.sendCancel env handle).1 := by
  intro orderId os hos
  rw [QuoteDesk.lookup_sendCancel] at hos
  split at hos
  · obtain ⟨os', hos', rfl⟩ := Option.map_eq_some_iff.mp hos
    rw [(cancelPending_side os' _).2]
    exact h orderId os' hos'
  · exact h orderId os hos

@[simp] theorem sideOf_onExecReport (rpt : ExecReport) (orderId : Nat) :
    sideOf (d.onExecReport env rpt) orderId = sideOf d orderId := by
  have hlookup : (d.onExecReport env rpt).om.lookup.lookup orderId = _ :=
    d.om.lookup_onExecReport rpt env.wallNs orderId
  unfold sideOf
  rw [hlookup]
  split
  · cases d.om.lookup.lookup orderId with
    | none => rfl
    | some os => exact congrArg some (applyReport_side os rpt _).1
  · rfl

theorem Keyed.onExecReport (h : Keyed d) (rpt : ExecReport) : Keyed (d.onExecReport env rpt) := by
  intro orderId os hos
  have hlookup : (d.onExecReport env rpt).om.lookup.lookup orderId = _ :=
    d.om.lookup_onExecReport rpt env.wallNs orderId
  rw [hlookup] at hos
  split at hos
  · obtain ⟨os', hos', rfl⟩ := Option.map_eq_some_iff.mp hos
    rw [(applyReport_side os' rpt _).2]
    exact h orderId os' hos'
  · exact h orderId os hos

/-- A send makes a record of its side under the next id, and asks for nothing else. -/
structure Adds (d : QuoteDesk) (side : OrderSide) (out : QuoteDesk × Option Nat × List Sent) :
    Prop where
  keyed : Keyed d → Keyed out.1
  side_new : ∀ orderId, out.2.1 = some orderId → sideOf out.1 orderId = some side
  side_old : ∀ orderId, orderId ≠ d.nextOrderId → sideOf out.1 orderId = sideOf d orderId
  asks : ∀ orderId, orderId ≠ d.nextOrderId → ∀ c ∈ out.2.2, c.quantityFor orderId = 0

theorem Adds.nothing (d : QuoteDesk) (side : OrderSide) : Adds d side (d, none, []) where
  keyed h := h
  side_new orderId h := by cases h
  side_old _ _ := rfl
  asks _ _ c hc := absurd hc List.not_mem_nil

theorem adds_sendNewOrder (request : NewOrderRequest) (tag : OrderTag) :
    Adds d request.side (d.sendNewOrder env request tag) := by
  unfold QuoteDesk.sendNewOrder
  cases hvalid : normaliseAndValidate env.cache request.instrumentId request.side request.type
      request.price request.qty with
  | none => exact .nothing d request.side
  | some values =>
    obtain ⟨price, quantity, symbol⟩ := values
    dsimp only
    -- the one order that is asked for has the next id
    have hasks : ∀ (order : OutboundNewOrder), order.orderId = d.nextOrderId → ∀ orderId,
        orderId ≠ d.nextOrderId → ∀ c ∈ [Sent.newOrder order], c.quantityFor orderId = 0 := by
      intro order horder orderId hne c hc
      rw [List.mem_singleton.mp hc]
      exact if_neg fun h => hne (h.symm.trans horder)
    split
    · refine ⟨fun hkeyed => ?_, fun orderId h => ?_, fun orderId hne => ?_, hasks _ rfl⟩
      · intro orderId os hos
        have hinsert := hos
        rw [OrderManager.store, Table.lookup_insert_eq] at hinsert
        split at hinsert
        · next hid =>
          cases hinsert
          exact hid.symm
        · exact hkeyed orderId os hinsert
      · cases h
        unfold sideOf OrderManager.store
        dsimp only
        rw [Table.lookup_insert_eq]
        exact congrArg (Option.map _) (if_pos rfl)
      · unfold sideOf OrderManager.store
        dsimp only
        rw [Table.lookup_insert_eq]
        exact congrArg (Option.map _) (if_neg hne)
    · exact ⟨fun hkeyed => hkeyed, fun orderId h => (nomatch h), fun _ _ => rfl, hasks _ rfl⟩

theorem sendCancel_asks (handle : Option Nat) :
    ∀ c ∈ (d.sendCancel env handle).2, ∀ orderId, c.quantityFor orderId = 0 := by
  intro c hc orderId
  obtain ⟨cancel, -, rfl⟩ := List.mem_map.mp hc
  rfl

/-- A modify is about the order of the handle. -/
theorem modifyQuote_asks (hkeyed : Keyed d) (orderId : Nat) (price qty : ℚ) {other : Nat}
    (hne : other ≠ orderId) :
    ∀ c ∈ d.modifyQuote env (some orderId) price qty, c.quantityFor other = 0 := by
  intro c hc
  unfold QuoteDesk.modifyQuote at hc
  split at hc
  · next os hos =>
    split at hc
    · rw [List.mem_singleton.mp hc]
      exact if_neg fun h => hne (h.symm.trans (hkeyed orderId os hos))
    · exact absurd hc List.not_mem_nil
  · exact absurd hc List.not_mem_nil

end Calls

/-! ## What can still be filled -/

variable {Sig : Type} {cfg : Config Sig} {env : Surroundings}

/-- What can still be filled of the order in a slot, when it is of the side. -/
def slotRoom (room : Nat → Nat) (d : QuoteDesk) (side : OrderSide) : Option Nat → Nat
  | none => 0
  | some orderId => if sideOf d orderId = some side then room orderId else 0

/-- What can still be filled of an instrument's orders of a side. -/
def openRoom (room : Nat → Nat) (d : QuoteDesk) (st : InstrumentState Sig) (side : OrderSide) :
    Nat :=
  slotRoom room d side (st.handle (.ofOrder .quote side)) +
    slotRoom room d side (st.handle .unwind)

/-- On either side, a position with everything that can still be filled is within the limit and two
quotes. -/
def Exposed (limit : ℚ) (q : Nat) (n : Int) (room : Nat → Nat) (d : QuoteDesk)
    (st : InstrumentState Sig) : Prop :=
  ∀ side : OrderSide, ofE8 (side.signed n + openRoom room d st side) ≤ limit + 2 * ofE8 q

section Exposure

variable {limit : ℚ} {q : Nat} {n : Int} {room room' : Nat → Nat} {d d' : QuoteDesk}
  {st st' : InstrumentState Sig}

theorem slotRoom_le (h : ∀ orderId, room orderId ≤ q) (side : OrderSide) (held : Option Nat) :
    slotRoom room d side held ≤ q := by
  unfold slotRoom
  split
  · exact Nat.zero_le q
  · split
    · exact h _
    · exact Nat.zero_le q

/-- A slot that holds no other order, with no more room, has no more room. -/
theorem slotRoom_mono {side : OrderSide} {held held' : Option Nat}
    (h : ∀ orderId, held' = some orderId → held = some orderId ∧
      sideOf d' orderId = sideOf d orderId ∧ room' orderId ≤ room orderId) :
    slotRoom room' d' side held' ≤ slotRoom room d side held := by
  cases held' with
  | none => exact Nat.zero_le _
  | some orderId =>
    obtain ⟨rfl, hside, hroom⟩ := h orderId rfl
    unfold slotRoom
    dsimp only
    rw [hside]
    split
    · exact hroom
    · exact Nat.le_refl 0

theorem slotRoom_congr {side : OrderSide} {held : Option Nat}
    (h : ∀ orderId, held = some orderId →
      sideOf d' orderId = sideOf d orderId ∧ room' orderId = room orderId) :
    slotRoom room' d' side held = slotRoom room d side held := by
  cases held with
  | none => rfl
  | some orderId =>
    obtain ⟨hside, hroom⟩ := h orderId rfl
    unfold slotRoom
    dsimp only
    rw [hside, hroom]

/-- A side keeps its bound when its room does not grow, or when its position is within the limit. -/
theorem Exposed.of_sides (h : Exposed limit q n room d st) (hroom : ∀ orderId, room' orderId ≤ q)
    (hside : ∀ side : OrderSide, openRoom room' d' st' side ≤ openRoom room d st side ∨
      ofE8 (side.signed n) ≤ limit) : Exposed limit q n room' d' st' := by
  intro side
  rcases hside side with hless | hshort
  · have hle : side.signed n + openRoom room' d' st' side ≤
        side.signed n + openRoom room d st side := by omega
    exact (ofE8_le_iff.mpr hle).trans (h side)
  · have hquote := slotRoom_le (d := d') hroom side (st'.handle (.ofOrder .quote side))
    have hunwind := slotRoom_le (d := d') hroom side (st'.handle .unwind)
    have htwo : (openRoom room' d' st' side : Int) ≤ q + q := by
      unfold openRoom
      omega
    rw [ofE8_add]
    have hrooms := ofE8_le_iff.mpr htwo
    rw [ofE8_add] at hrooms
    linarith

/-- A position is within the bound on its own. -/
theorem Exposed.abs_bound (h : Exposed limit q n room d st) :
    |ofE8 n| ≤ limit + 2 * ofE8 q := by
  have hside : ∀ side : OrderSide, ofE8 (side.signed n) ≤ limit + 2 * ofE8 q := by
    intro side
    have hle : side.signed n ≤ side.signed n + openRoom room d st side := by omega
    exact (ofE8_le_iff.mpr hle).trans (h side)
  have hlong : ofE8 n ≤ _ := hside .BUY
  have hshort : ofE8 (-n) ≤ _ := hside .SELL
  rw [ofE8_neg] at hshort
  exact abs_le.mpr ⟨by linarith, hlong⟩

end Exposure

/-! ## Work on one instrument -/

/-- What work does to the other orders: to those of other instruments, and of other slots than its
own, nothing. -/
structure Spares (asked : Nat → Nat) (own : Slot) (w w' : Work Sig) : Prop where
  exchangeId : w'.st.exchangeId = w.st.exchangeId
  keyed : Keyed w'.desk
  handle : ∀ slot, slot ≠ own → w'.st.handle slot = w.st.handle slot
  side : ∀ k slot orderId, openSlot w.desk orderId = some (k, slot) →
    k ≠ w.st.instrumentId ∨ slot ≠ own → sideOf w'.desk orderId = sideOf w.desk orderId
  asks : ∀ k slot orderId, openSlot w.desk orderId = some (k, slot) →
    k ≠ w.st.instrumentId ∨ slot ≠ own →
      largest asked w'.sent orderId = largest asked w.sent orderId

section Quoting

variable {asked filled : Nat → Nat} {limit : ℚ} {q : Nat} {n : Int} {own : Slot}
  {w w' w'' : Work Sig}

variable (env asked) in
/-- A cancel spares every order. -/
theorem cancel_spares (hkeyed : Keyed w.desk) (handle : Option Nat) (own : Slot) :
    Spares asked own w
      { w with
        desk := (w.desk.sendCancel env handle).1
        sent := w.sent ++ (w.desk.sendCancel env handle).2 } where
  exchangeId := rfl
  keyed := hkeyed.sendCancel handle
  handle _ _ := rfl
  side _ _ _ _ _ := sideOf_sendCancel _ _
  asks _ _ orderId _ _ := by
    rw [largest_append]
    exact largest_of_zero fun c hc => sendCancel_asks handle c hc orderId

/-- A new order spares those on record. -/
theorem place_spares (hfresh : w.desk.Fresh) (hkeyed : Keyed w.desk)
    {side : OrderSide} {out : QuoteDesk × Option Nat × List Sent} (hadds : Adds w.desk side out)
    {st : InstrumentState Sig} (hexchange : st.exchangeId = w.st.exchangeId)
    (hhandle : ∀ slot, slot ≠ own → st.handle slot = w.st.handle slot) :
    Spares asked own w { desk := out.1, st := st, sent := w.sent ++ out.2.2 } := by
  have hold : ∀ k slot orderId, openSlot w.desk orderId = some (k, slot) →
      orderId ≠ w.desk.nextOrderId := by
    rintro k slot orderId hslot rfl
    rw [openSlot_nextOrderId hfresh] at hslot
    cases hslot
  refine ⟨hexchange, hadds.keyed hkeyed, hhandle, fun k slot orderId hslot _ => ?_,
    fun k slot orderId hslot _ => ?_⟩
  · exact hadds.side_old orderId (hold k slot orderId hslot)
  · rw [largest_append]
    exact largest_of_zero (hadds.asks orderId (hold k slot orderId hslot))

/-- What can still be filled of an order after the calls of the work. -/
def Work.room (asked filled : Nat → Nat) (w : Work Sig) (orderId : Nat) : Nat :=
  largest asked w.sent orderId - filled orderId

/-- The other slots of the instrument keep their room. -/
theorem Spares.slotRoom_eq (h : Spares asked own w w') (hopen : HoldsOpen w.desk w.st)
    {slot : Slot} (hslot : slot ≠ own) (side : OrderSide) :
    slotRoom (w'.room asked filled) w'.desk side (w'.st.handle slot) =
      slotRoom (w.room asked filled) w.desk side (w.st.handle slot) := by
  rw [h.handle slot hslot]
  refine slotRoom_congr fun orderId hheld => ?_
  have hplace := hopen slot orderId hheld
  refine ⟨h.side _ slot orderId hplace (.inr hslot), ?_⟩
  unfold Work.room
  rw [h.asks _ slot orderId hplace (.inr hslot)]

/-- Work that keeps the exposure within its bound, as long as no call asks for more than a quote. -/
structure Careful (asked filled : Nat → Nat) (limit : ℚ) (q : Nat) (n : Int)
    (w w' : Work Sig) : Prop extends Led w w' where
  exchangeId : w'.st.exchangeId = w.st.exchangeId
  keyed : Keyed w'.desk
  sent : ∀ c ∈ w.sent, c ∈ w'.sent
  others : ∀ k slot orderId, openSlot w.desk orderId = some (k, slot) →
    k ≠ w.st.instrumentId → sideOf w'.desk orderId = sideOf w.desk orderId ∧
      w'.room asked filled orderId = w.room asked filled orderId
  exposed : (∀ c ∈ w'.sent, c.quantity ≤ q) →
    Exposed limit q n (w.room asked filled) w.desk w.st →
      Exposed limit q n (w'.room asked filled) w'.desk w'.st

namespace Careful

theorem andThen (h : Careful asked filled limit q n w w')
    (h' : w'.desk.Fresh → HoldsOpen w'.desk w'.st → Keyed w'.desk →
      Careful asked filled limit q n w' w'') : Careful asked filled limit q n w w'' := by
  have hnext := h' h.fresh h.holdsOpen h.keyed
  refine ⟨h.toLed.trans hnext.toLed, hnext.exchangeId.trans h.exchangeId, hnext.keyed, fun c hc => hnext.sent c (h.sent c hc),
    fun k slot orderId hslot hk => ?_, fun hsizes hexposed => ?_⟩
  · obtain ⟨hside, hroom⟩ := h.others k slot orderId hslot hk
    obtain ⟨hside', hroom'⟩ := hnext.others k slot orderId
      ((h.elsewhere k slot orderId hk).mpr hslot) (by rwa [h.instrumentId])
    exact ⟨hside'.trans hside, hroom'.trans hroom⟩
  · exact hnext.exposed hsizes (h.exposed (fun c hc => hsizes c (hnext.sent c hc)) hexposed)

/-- Work on one slot, whose side keeps its room or is within the limit. -/
theorem of_spares (hasked : ∀ orderId, asked orderId ≤ q) (hled : Led w w')
    (h : Spares asked own w w') (hsent : ∀ c ∈ w.sent, c ∈ w'.sent)
    (hside : ∀ side : OrderSide,
      openRoom (w'.room asked filled) w'.desk w'.st side ≤
          openRoom (w.room asked filled) w.desk w.st side ∨
        ofE8 (side.signed n) ≤ limit) : Careful asked filled limit q n w w' where
  toLed := hled
  exchangeId := h.exchangeId
  keyed := h.keyed
  sent := hsent
  others k slot orderId hslot hk := by
    refine ⟨h.side k slot orderId hslot (.inl hk), ?_⟩
    unfold Work.room
    rw [h.asks k slot orderId hslot (.inl hk)]
  exposed hsizes hexposed := by
    refine hexposed.of_sides (fun orderId => ?_) hside
    exact Nat.le_trans (Nat.sub_le _ _) (largest_le (hasked orderId) hsizes)

/-- Only what is neither an id nor a handle of the instrument changes. -/
theorem adjust (hfresh : w.desk.Fresh) (hopen : HoldsOpen w.desk w.st) (hkeyed : Keyed w.desk)
    (st : InstrumentState Sig) (hid : st.instrumentId = w.st.instrumentId)
    (hexchange : st.exchangeId = w.st.exchangeId)
    (hhandle : ∀ slot, st.handle slot = w.st.handle slot) :
    Careful asked filled limit q n w { w with st := st } where
  toLed := .adjust hfresh hopen st hid hhandle w.sent
  exchangeId := hexchange
  keyed := hkeyed
  sent _ hc := hc
  others _ _ _ _ _ := ⟨rfl, rfl⟩
  exposed _ hexposed side := by
    have hbound := hexposed side
    unfold openRoom at hbound ⊢
    dsimp only
    rw [hhandle, hhandle]
    exact hbound

theorem refl (hfresh : w.desk.Fresh) (hopen : HoldsOpen w.desk w.st) (hkeyed : Keyed w.desk) :
    Careful asked filled limit q n w w :=
  adjust hfresh hopen hkeyed w.st rfl rfl fun _ => rfl

variable (env) in
theorem cancel (hasked : ∀ orderId, asked orderId ≤ q) (hfresh : w.desk.Fresh)
    (hopen : HoldsOpen w.desk w.st) (hkeyed : Keyed w.desk) (handle : Option Nat) :
    Careful asked filled limit q n w
      { w with
        desk := (w.desk.sendCancel env handle).1
        sent := w.sent ++ (w.desk.sendCancel env handle).2 } := by
  have hspares := fun own => cancel_spares env asked hkeyed handle own
  refine .of_spares hasked (.cancel hfresh hopen handle _) (hspares .unwind)
    (fun c hc => List.mem_append_left _ hc) fun side => .inl (le_of_eq ?_)
  have hquote : Slot.ofOrder .quote side ≠ .unwind := by cases side <;> decide
  unfold openRoom
  rw [(hspares .unwind).slotRoom_eq hopen hquote side,
    (hspares (.ofOrder .quote side)).slotRoom_eq hopen hquote.symm side]

end Careful

section Limit

variable (hasked : ∀ orderId, asked orderId ≤ q)

include hasked

theorem manageSide_careful (hfresh : w.desk.Fresh) (hopen : HoldsOpen w.desk w.st)
    (hkeyed : Keyed w.desk) (side : OrderSide) (mid : ℚ) (atCap suppressed : Bool)
    (newPx effQty : ℚ) (hcap : atCap = false → ofE8 (side.signed n) ≤ limit) :
    Careful asked filled limit q n w
      (manageSide cfg env w side mid atCap suppressed newPx effQty) := by
  have hled := manageSide_led cfg env hfresh hopen side mid atCap suppressed newPx
    effQty
  -- only the slot of the side has another room, and that side is within the limit
  have hof : ∀ w', Led w w' → Spares asked (.ofOrder .quote side) w w' →
      (∀ c ∈ w.sent, c ∈ w'.sent) → atCap = false → Careful asked filled limit q n w w' := by
    intro w' hled hspares hsent hfree
    refine .of_spares hasked hled hspares hsent fun side' => ?_
    by_cases hsame : side' = side
    · exact .inr (hsame ▸ hcap hfree)
    · have hquote : Slot.ofOrder .quote side' ≠ .ofOrder .quote side := by
        revert hsame
        cases side <;> cases side' <;> decide
      have hunwind : Slot.unwind ≠ .ofOrder .quote side := by cases side <;> decide
      refine .inl (le_of_eq ?_)
      unfold openRoom
      rw [hspares.slotRoom_eq hopen hquote side', hspares.slotRoom_eq hopen hunwind side']
  rcases manageSide_cases cfg env w side mid atCap suppressed newPx effQty with
    h | ⟨orderId, -, h⟩ | ⟨orderId, quote, hhandle, -, hfree, -, h⟩ | ⟨-, hfree, -, h⟩
  · rw [h]
    exact .refl hfresh hopen hkeyed
  · rw [h]
    exact .cancel env hasked hfresh hopen hkeyed _
  · rw [h] at hled ⊢
    refine hof _ hled ?_ (fun c hc => List.mem_append_left _ hc) hfree
    refine ⟨w.st.setQuoteSide_exchangeId side quote, hkeyed, fun slot hslot => ?_,
      fun _ _ _ _ _ => rfl, fun k slot other hplace hother => ?_⟩
    · rw [InstrumentState.handle_setQuoteSide, if_neg hslot]
    · rw [largest_append]
      refine largest_of_zero (modifyQuote_asks hkeyed orderId newPx effQty ?_)
      rintro rfl
      rw [hopen _ _ hhandle] at hplace
      cases hplace
      exact hother.elim (fun hne => hne rfl) fun hne => hne rfl
  · rw [h] at hled ⊢
    have hadds : Adds w.desk side (sendLimitOrder cfg env w.desk w.st side newPx effQty) := by
      rcases sendLimitOrder_cases cfg env w.desk w.st side newPx effQty with hsend | hsend
      · rw [hsend]
        exact .nothing _ _
      · rw [hsend]
        exact adds_sendNewOrder { side := side, postOnly := true, .. } .quote
    refine hof _ hled (place_spares hfresh hkeyed hadds ?_ fun slot hslot => ?_)
      (fun c hc => List.mem_append_left _ hc) hfree
    · split
      · exact w.st.setQuoteSide_exchangeId side _
      · rfl
    · split
      · rw [InstrumentState.handle_setQuoteSide, if_neg hslot]
      · rfl

theorem unwindAtMax_careful (hfresh : w.desk.Fresh) (hopen : HoldsOpen w.desk w.st)
    (hkeyed : Keyed w.desk) (atMaxLong atMaxShort : Bool) (mid effQty : ℚ)
    (hlong : atMaxLong = true → ofE8 (OrderSide.SELL.signed n) ≤ limit)
    (hshort : atMaxShort = true → ofE8 (OrderSide.BUY.signed n) ≤ limit) :
    Careful asked filled limit q n w
      (unwindAtMax cfg env w atMaxLong atMaxShort mid effQty) := by
  have hled := unwindAtMax_led cfg env hfresh hopen atMaxLong atMaxShort mid effQty
  rcases unwindAtMax_cases cfg env w atMaxLong atMaxShort mid effQty with
    h | ⟨side, hnone, hcap, h⟩
  · rw [h]
    exact .refl hfresh hopen hkeyed
  · rw [h] at hled ⊢
    have hempty : w.st.handle .unwind = none := hnone
    have hadds : Adds w.desk side (sendUnwindOrder cfg env w.desk w.st side mid effQty) := by
      unfold sendUnwindOrder
      split
      · exact adds_sendNewOrder { side := side, .. } .unwindNormal
      · exact .nothing _ _
    have hhandle : ∀ slot, (unwindSide cfg env w side mid effQty).st.handle slot =
        if slot = .unwind then (sendUnwindOrder cfg env w.desk w.st side mid effQty).2.1
        else w.st.handle slot := by
      intro slot
      unfold unwindSide
      dsimp only
      cases (sendUnwindOrder cfg env w.desk w.st side mid effQty).2.1 with
      | some orderId => cases slot <;> rfl
      | none =>
        dsimp only
        split
        · next hown => rw [hown, hempty]
        · rfl
    have hspares : Spares asked .unwind w (unwindSide cfg env w side mid effQty) :=
      place_spares hfresh hkeyed hadds (by split <;> rfl)
        fun slot hslot => (hhandle slot).trans (if_neg hslot)
    refine .of_spares hasked hled hspares (fun c hc => List.mem_append_left _ hc) fun side' => ?_
    by_cases hsame : side' = side
    · rcases hcap with ⟨hside, hmax⟩ | ⟨hside, hmax⟩
      · exact .inr (by rw [hsame, hside]; exact hlong hmax)
      · exact .inr (by rw [hsame, hside]; exact hshort hmax)
    · -- an unwind of one side has no room on the other
      have hquote : Slot.ofOrder .quote side' ≠ .unwind := by cases side' <;> decide
      have hother : slotRoom ((unwindSide cfg env w side mid effQty).room asked filled)
          (unwindSide cfg env w side mid effQty).desk side'
          ((unwindSide cfg env w side mid effQty).st.handle .unwind) = 0 := by
        rw [hhandle, if_pos rfl]
        cases hplaced : (sendUnwindOrder cfg env w.desk w.st side mid effQty).2.1 with
        | none => rfl
        | some orderId =>
          have hside : sideOf (unwindSide cfg env w side mid effQty).desk orderId = some side :=
            hadds.side_new orderId hplaced
          unfold slotRoom
          dsimp only
          rw [hside, if_neg fun heq => hsame (Option.some.inj heq).symm]
      refine .inl ?_
      unfold openRoom
      rw [hspares.slotRoom_eq hopen hquote side', hother, Nat.add_zero]
      exact Nat.le_add_right _ _

/-- The quotes of a tick, against a bound that the filled inventory is compared with. -/
theorem requote_careful (hfresh : w.desk.Fresh) (hopen : HoldsOpen w.desk w.st)
    (hkeyed : Keyed w.desk) (mid : ℚ) (equityE8 : Int) (quotes : QuoteTarget)
    (hmax : cfg.sizer.effectiveMaxInventory w.st.lastMid equityE8 = limit) (hlimit : 0 ≤ limit) :
    Careful asked filled limit q n w (requote cfg env w (ofE8 n) mid equityE8 quotes) := by
  unfold requote
  dsimp only
  rw [hmax]
  have hsell : ofE8 (OrderSide.SELL.signed n) = -ofE8 n := ofE8_neg n
  refine .andThen ?_ fun hfresh hopen hkeyed =>
    unwindAtMax_careful hasked hfresh hopen hkeyed _ _ _ _ (fun hlong => ?_) fun hshort => ?_
  · refine .andThen ?_ fun hfresh hopen hkeyed =>
      manageSide_careful hasked hfresh hopen hkeyed .SELL _ _ _ _ _ fun hfree => ?_
    · refine manageSide_careful hasked hfresh hopen hkeyed .BUY _ _ _ _ _ fun hfree => ?_
      exact le_of_lt (not_le.mp (of_decide_eq_false hfree))
    · have hshort := not_le.mp (of_decide_eq_false hfree)
      rw [hsell]
      linarith
  · have hover : ofE8 n ≥ limit := of_decide_eq_true hlong
    rw [hsell]
    linarith
  · have hunder : ofE8 n ≤ -limit := of_decide_eq_true hshort
    show ofE8 n ≤ limit
    linarith

theorem maybeRequote_careful (hfresh : w.desk.Fresh) (hopen : HoldsOpen w.desk w.st)
    (hkeyed : Keyed w.desk) (mid : ℚ) (equityE8 : Int) (quotes : QuoteTarget)
    (hmax : cfg.sizer.effectiveMaxInventory w.st.lastMid equityE8 = limit) (hlimit : 0 ≤ limit) :
    Careful asked filled limit q n w (maybeRequote cfg env w (ofE8 n) mid equityE8 quotes) := by
  unfold maybeRequote
  split
  · exact .refl hfresh hopen hkeyed
  · let w' : Work Sig := { w with st := { w.st with rejectBackoffUntilNs := 0 } }
    have hbackoff : Careful asked filled limit q n w w' :=
      .adjust hfresh hopen hkeyed w'.st rfl rfl fun _ => rfl
    exact hbackoff.andThen fun hfresh hopen hkeyed =>
      requote_careful hasked hfresh hopen hkeyed mid equityE8 quotes hmax hlimit

theorem cancelQuotes_careful (hfresh : w.desk.Fresh) (hopen : HoldsOpen w.desk w.st)
    (hkeyed : Keyed w.desk) : Careful asked filled limit q n w (cancelQuotes env w) := by
  have hbid : Careful asked filled limit q n w _ :=
    .cancel env hasked hfresh hopen hkeyed w.st.bid.handle
  exact hbid.andThen fun hfresh hopen hkeyed =>
    .cancel env hasked hfresh hopen hkeyed w.st.ask.handle

variable (cfg env filled) in
theorem tickWork_careful {s : AvellanedaStoikov Sig} {st : InstrumentState Sig}
    (hfresh : s.desk.Fresh) (hopen : HoldsOpen s.desk st) (hkeyed : Keyed s.desk)
    (tick : MdMarketData)
    (hmax : ∀ lastMid equityE8, cfg.sizer.effectiveMaxInventory lastMid equityE8 = limit)
    (hlimit : 0 ≤ limit) :
    Careful asked filled limit q (s.positions.netQty tick.instrumentId st.exchangeId)
      { desk := s.desk, st := st } (s.tickWork cfg env st tick) := by
  have hadjust : ∀ st', st'.instrumentId = st.instrumentId → st'.exchangeId = st.exchangeId →
      (∀ slot, st'.handle slot = st.handle slot) →
      Careful asked filled limit q (s.positions.netQty tick.instrumentId st.exchangeId)
        { desk := s.desk, st := st } { desk := s.desk, st := st' } :=
    fun st' hid hexchange hhandle => .adjust hfresh hopen hkeyed st' hid hexchange hhandle
  unfold tickWork
  dsimp only
  split
  · split
    · exact hadjust _ rfl rfl fun _ => rfl
    · refine .andThen ?_ fun hfresh hopen hkeyed => cancelQuotes_careful hasked hfresh hopen hkeyed
      exact hadjust _ rfl rfl fun _ => rfl
  · split
    · exact hadjust _ rfl rfl fun _ => rfl
    · refine .andThen ?_ fun hfresh hopen hkeyed =>
        maybeRequote_careful hasked hfresh hopen hkeyed _ _ _ (hmax _ _) hlimit
      exact hadjust _ rfl rfl fun _ => rfl

end Limit

end Quoting

/-! ## Runs -/

namespace Trading

variable {limit : ℚ} {q : Nat} {t : Trading Sig}

/-- What can still be filled of an order. -/
def room (t : Trading Sig) (orderId : Nat) : Nat := t.requested orderId - t.filled orderId

/-- No order is lost, and everything that can still be filled is accounted for. -/
structure Accounted (limit : ℚ) (q : Nat) (t : Trading Sig) : Prop where
  handles : t.strategy.HandlesOpen
  held : t.strategy.HoldsAll fun _ => True
  keyed : Keyed t.strategy.desk
  ids : ∀ id st, t.strategy.state.lookup id = some st → id < 2 ^ 56
  requested_le : ∀ orderId, t.requested orderId ≤ q
  position : ∀ id, id < 2 ^ 56 → ∀ ex,
    |ofE8 (t.strategy.positions.netQty id ex)| ≤ limit + 2 * ofE8 q
  exposed : ∀ id st, t.strategy.state.lookup id = some st →
    Exposed limit q (t.strategy.positions.netQty id st.exchangeId) t.room t.strategy.desk st

/-- A step whose calls ask for nothing new. -/
theorem requested_eq {sent : List Sent} (h : ∀ c ∈ sent, ∀ orderId, c.quantityFor orderId = 0)
    (asked : Nat → Nat) : largest asked sent = asked :=
  funext fun orderId => largest_of_zero fun c hc => h c hc orderId

/-- The work on an instrument keeps the account. -/
theorem Accounted.commit (h : t.Accounted limit q) {id : Nat} {st : InstrumentState Sig}
    (hst : t.strategy.state.lookup id = some st) {w : Work Sig}
    (hcareful : Careful t.requested t.filled limit q
      (t.strategy.positions.netQty id st.exchangeId) { desk := t.strategy.desk, st := st } w)
    (hsizes : ∀ c ∈ w.sent, c.quantity ≤ q) :
    Accounted limit q
      { strategy := (t.strategy.commit id w).1
        requested := largest t.requested w.sent
        filled := t.filled } where
  handles := h.handles.commit hst hcareful.toLed
  held := h.held.commit h.handles hst hcareful.toLed
  keyed := hcareful.keyed
  ids k st' hst' := by
    have hinsert : (t.strategy.commit id w).1.state = t.strategy.state.insert id w.st := rfl
    dsimp only at hst'
    rw [hinsert, Table.lookup_insert_eq] at hst'
    split at hst'
    · next hk => exact hk ▸ h.ids id st hst
    · exact h.ids k st' hst'
  requested_le orderId := largest_le (h.requested_le orderId) hsizes
  position := h.position
  exposed k st' hst' := by
    have hinsert : (t.strategy.commit id w).1.state = t.strategy.state.insert id w.st := rfl
    dsimp only at hst'
    rw [hinsert, Table.lookup_insert_eq] at hst'
    split at hst'
    · next hk =>
      cases hst'
      rw [hk, hcareful.exchangeId]
      exact hcareful.exposed hsizes (h.exposed id st hst)
    · next hk =>
      -- the orders of another instrument are as they were
      refine (h.exposed k st' hst').of_sides
        (fun orderId => Nat.le_trans (Nat.sub_le _ _) (largest_le (h.requested_le orderId) hsizes))
        fun side => .inl (le_of_eq ?_)
      have hother : ∀ slot, slotRoom _ _ side (st'.handle slot) = slotRoom _ _ side (st'.handle slot) :=
        fun slot => slotRoom_congr fun orderId hheld =>
          hcareful.others k slot orderId
            ((h.handles.own k st' hst') ▸ h.handles.holdsOpen hst' slot orderId hheld)
            (by rwa [h.handles.own id st hst])
      exact congrArg₂ (· + ·) (hother _) (hother _)

end Trading

/-! ## The callbacks that trade nothing -/

/-- A callback that makes states without orders, or leaves them with theirs. -/
structure Quiet (s s' : AvellanedaStoikov Sig) : Prop where
  keyed : Keyed s.desk → Keyed s'.desk
  side : ∀ orderId, sideOf s'.desk orderId = sideOf s.desk orderId
  positions : s'.positions = s.positions ∨ s'.positions = {}
  states : ∀ id st', s'.state.lookup id = some st' →
    (id < 2 ^ 56 ∧ ∀ slot, st'.handle slot = none) ∨
      s'.positions = s.positions ∧ ∃ st, s.state.lookup id = some st ∧
        st'.exchangeId = st.exchangeId ∧ ∀ slot, st'.handle slot = st.handle slot

section Callbacks

variable {s : AvellanedaStoikov Sig}

theorem Quiet.refl (s : AvellanedaStoikov Sig) : Quiet s s where
  keyed h := h
  side _ := rfl
  positions := .inl rfl
  states _ st hst := .inr ⟨rfl, st, hst, rfl, fun _ => rfl⟩

theorem make_handle (r : ResolvedInstrument) (slot : Slot) :
    (makeInstrumentState cfg.signals r).handle slot = none := by
  cases slot <;> rfl

theorem onInstrumentSnapshot_quiet (resolved : List ResolvedInstrument) :
    Quiet s (s.onInstrumentSnapshot cfg resolved) where
  keyed h := h
  side _ := rfl
  positions := .inr rfl
  states := by
    have hmade : ∀ id st', (s.onInstrumentSnapshot cfg resolved).state.lookup id = some st' →
        id < 2 ^ 56 ∧ ∀ slot, st'.handle slot = none := by
      refine List.foldlRecOn (motive := fun t : Table Nat (InstrumentState Sig) =>
        ∀ id st', t.lookup id = some st' → id < 2 ^ 56 ∧ ∀ slot, st'.handle slot = none)
        resolved _ ?_ ?_
      · intro id st' hst'
        simp at hst'
      · intro t ht r _ id st' hst'
        rw [lookup_emplace_make] at hst'
        rcases Option.or_eq_some_iff.mp hst' with hold | ⟨-, hnew⟩
        · exact ht id st' hold
        · split at hnew
          · next hid =>
            cases hnew
            exact ⟨hid ▸ r.id_lt, make_handle r⟩
          · cases hnew
    exact fun id st' hst' => .inl (hmade id st' hst')

theorem onInstrumentDelta_quiet (inst : ResolvedInstrument) (inUniverse : Bool)
    (updateType : DeltaUpdateType) :
    Quiet s (s.onInstrumentDelta cfg inst inUniverse updateType) := by
  unfold onInstrumentDelta
  cases updateType with
  | MODIFY => exact .refl s
  | ADD =>
    dsimp only
    split
    · refine ⟨fun h => h, fun _ => rfl, .inl rfl, fun id st' hst' => ?_⟩
      rw [lookup_emplace_make] at hst'
      rcases Option.or_eq_some_iff.mp hst' with hold | ⟨-, hnew⟩
      · exact .inr ⟨rfl, st', hold, rfl, fun _ => rfl⟩
      · split at hnew
        · next hid =>
          cases hnew
          exact .inl ⟨hid ▸ inst.id_lt, make_handle inst⟩
        · cases hnew
    · exact .refl s
  | REMOVE =>
    refine ⟨fun h => h, fun _ => rfl, .inl rfl, fun id st' hst' => ?_⟩
    dsimp only at hst'
    rw [Table.lookup_erase_eq] at hst'
    split at hst'
    · cases hst'
    · exact .inr ⟨rfl, st', hst', rfl, fun _ => rfl⟩

theorem update_quiet (id : Nat) (f : InstrumentState Sig → InstrumentState Sig)
    (hf : ∀ st, (f st).exchangeId = st.exchangeId ∧ ∀ slot, (f st).handle slot = st.handle slot) :
    Quiet s (s.update id f) := by
  unfold update
  split
  · exact .refl s
  · next st hst =>
    refine ⟨fun h => h, fun _ => rfl, .inl rfl, fun k st' hst' => .inr ⟨rfl, ?_⟩⟩
    dsimp only at hst'
    rw [Table.lookup_insert_eq] at hst'
    split at hst'
    · next hk =>
      cases hst'
      exact ⟨st, hk ▸ hst, (hf st).1, (hf st).2⟩
    · exact ⟨st', hst', rfl, fun _ => rfl⟩

theorem onRefdataStaleChanged_quiet (stale : Bool) :
    Quiet s (s.onRefdataStaleChanged env stale).1 := by
  obtain ⟨hstate, hpositions⟩ := s.onRefdataStaleChanged_rest env stale
  have hdesk := s.onRefdataStaleChanged_desk env
    (P := fun d => (Keyed s.desk → Keyed d) ∧ ∀ orderId, sideOf d orderId = sideOf s.desk orderId)
    (fun d handle hd => ⟨fun h => (hd.1 h).sendCancel handle,
      fun orderId => (sideOf_sendCancel handle orderId).trans (hd.2 orderId)⟩)
    ⟨fun h => h, fun _ => rfl⟩ stale
  refine ⟨hdesk.1, hdesk.2, .inl hpositions, fun id st' hst' => .inr ⟨hpositions, st', ?_, rfl,
    fun _ => rfl⟩⟩
  rwa [hstate] at hst'

theorem onAccountSnapshot_quiet {snap : AccountSnapshot} (h : (s.onAccountSnapshot snap).2 = 0) :
    Quiet s (s.onAccountSnapshot snap).1 := by
  have hpositions : (s.onAccountSnapshot snap).1.positions = s.positions := by
    have hfound := List.length_eq_zero_iff.mp h
    have hseeded : (s.onAccountSnapshot snap).1.positions = seedAll _ _ _ := rfl
    rw [hseeded, hfound]
    exact captureBaseline_positions _ _ _
  have hdesk := s.onAccountSnapshot_desk snap
  refine ⟨fun hkeyed => hdesk ▸ hkeyed, fun orderId => by rw [hdesk], .inl hpositions,
    fun id st' hst' => .inr ⟨hpositions, st', ?_, rfl, fun _ => rfl⟩⟩
  rwa [s.onAccountSnapshot_state snap] at hst'

end Callbacks

/-! ## Reports -/

variable (cfg env) in
/-- What a report does beside its handle: at most the cancels of a pause. -/
theorem reportWork_rest (w : Work Sig) (tag : OrderTag) (rpt : ExecReport) (source : RejectSource)
    (prior after : ℚ) (hsent : w.sent = []) :
    (Keyed w.desk → Keyed (reportWork cfg env w tag rpt source prior after).desk) ∧
    (∀ orderId, sideOf (reportWork cfg env w tag rpt source prior after).desk orderId =
      sideOf w.desk orderId) ∧
    (reportWork cfg env w tag rpt source prior after).st.exchangeId = w.st.exchangeId ∧
    ∀ c ∈ (reportWork cfg env w tag rpt source prior after).sent, ∀ orderId,
      c.quantityFor orderId = 0 := by
  have hfill : ∀ w₁, w₁ = (if rpt.status.isFill then fillWork cfg env w tag rpt prior after else w) →
      (Keyed w.desk → Keyed w₁.desk) ∧ (∀ orderId, sideOf w₁.desk orderId = sideOf w.desk orderId) ∧
      w₁.st.exchangeId = w.st.exchangeId ∧
      ∀ c ∈ w₁.sent, ∀ orderId, c.quantityFor orderId = 0 := by
    rintro w₁ rfl
    have hnone : ∀ c ∈ w.sent, ∀ orderId, c.quantityFor orderId = 0 := by
      rw [hsent]
      exact fun c hc => absurd hc List.not_mem_nil
    split
    · unfold fillWork
      dsimp only
      split
      · unfold pause cancelQuotes
        refine ⟨fun h => (h.sendCancel _).sendCancel _, fun orderId => ?_, rfl, fun c hc => ?_⟩
        · dsimp only
          rw [sideOf_sendCancel, sideOf_sendCancel]
        · rcases List.mem_append.mp hc with hc | hc
          · rcases List.mem_append.mp hc with hc | hc
            · exact hnone c hc
            · exact sendCancel_asks _ c hc
          · exact sendCancel_asks _ c hc
      · exact ⟨fun h => h, fun _ => rfl, rfl, hnone⟩
    · exact ⟨fun h => h, fun _ => rfl, rfl, hnone⟩
  unfold reportWork
  dsimp only
  generalize hw : (if rpt.status.isFill then fillWork cfg env w tag rpt prior after else w) = w₁
  obtain ⟨hkeyed, hside, hexchange, hasks⟩ := hfill w₁ hw.symm
  refine ⟨hkeyed, hside, ?_, hasks⟩
  have hbackoff : ∀ (st : InstrumentState Sig) status source,
      (backoff env st status source).exchangeId = st.exchangeId := by
    intro st status source
    unfold backoff
    split
    · rfl
    · split <;> rfl
  rw [hbackoff]
  split
  · rw [InstrumentState.release_exchangeId, hexchange]
  · exact hexchange

namespace Trading

variable {limit : ℚ} {q : Nat} {t : Trading Sig}

/-- A callback that trades nothing keeps the account. -/
theorem Accounted.quiet (h : t.Accounted limit q) {s' : AvellanedaStoikov Sig}
    (hquiet : Quiet t.strategy s') (hhandles : s'.HandlesOpen) (hheld : s'.HoldsAll fun _ => True)
    (hbound : 0 ≤ limit + 2 * ofE8 q) :
    Accounted limit q { strategy := s', requested := t.requested, filled := t.filled } where
  handles := hhandles
  held := hheld
  keyed := hquiet.keyed h.keyed
  ids id st' hst' := by
    rcases hquiet.states id st' hst' with ⟨hid, -⟩ | ⟨-, st, hst, -⟩
    · exact hid
    · exact h.ids id st hst
  requested_le := h.requested_le
  position id hid ex := by
    rcases hquiet.positions with hsame | hcleared
    · show |ofE8 (s'.positions.netQty id ex)| ≤ _
      rw [hsame]
      exact h.position id hid ex
    · show |ofE8 (s'.positions.netQty id ex)| ≤ _
      have hflat : ({} : PositionTracker).netQty id ex = 0 := rfl
      rw [hcleared, hflat, ofE8_zero, abs_zero]
      exact hbound
  exposed id st' hst' := by
    rcases hquiet.states id st' hst' with ⟨hid, hnone⟩ | ⟨hsame, st, hst, hexchange, hhandle⟩
    · -- a state without orders has the position alone
      intro side
      have hempty : openRoom (room ⟨s', t.requested, t.filled⟩) s'.desk st' side = 0 := by
        unfold openRoom
        rw [hnone, hnone]
        rfl
      have hposition : |ofE8 (s'.positions.netQty id st'.exchangeId)| ≤ limit + 2 * ofE8 q := by
        rcases hquiet.positions with hsame | hcleared
        · rw [hsame]
          exact h.position id hid _
        · have hflat : ({} : PositionTracker).netQty id st'.exchangeId = 0 := rfl
          rw [hcleared, hflat, ofE8_zero, abs_zero]
          exact hbound
      rw [abs_le] at hposition
      dsimp only
      rw [hempty, Nat.cast_zero, Int.add_zero]
      cases side with
      | BUY => exact hposition.2
      | SELL =>
        show ofE8 (-_) ≤ _
        rw [ofE8_neg]
        linarith [hposition.1]
    · intro side
      have hbefore := h.exposed id st hst side
      have hrooms : openRoom (room ⟨s', t.requested, t.filled⟩) s'.desk st' side =
          openRoom t.room t.strategy.desk st side := by
        unfold openRoom
        rw [hhandle, hhandle]
        exact congrArg₂ (· + ·) (slotRoom_congr fun orderId _ => ⟨hquiet.side orderId, rfl⟩)
          (slotRoom_congr fun orderId _ => ⟨hquiet.side orderId, rfl⟩)
      dsimp only
      rw [hsame, hexchange, hrooms]
      exact hbefore

/-- The fills of an order take from its room what they add to the position. -/
theorem Accounted.exposed_report (h : t.Accounted limit q) {rpt : ExecReport} {os : OrderState}
    (hos : t.strategy.desk.om.lookup.lookup rpt.orderId = some os)
    {st : InstrumentState Sig} (hst : t.strategy.state.lookup os.instrumentId = some st)
    (hgate : rpt.status.isFill = true →
      rpt.side = os.side ∧ t.filled rpt.orderId + rpt.filledQty ≤ t.requested rpt.orderId)
    (hopen : os.status.terminal = true → rpt.status.isFill = false)
    {w : Work Sig} (hside : ∀ orderId, sideOf w.desk orderId = sideOf t.strategy.desk orderId)
    (hhandle : ∀ slot orderId, w.st.handle slot = some orderId ↔ st.handle slot = some orderId ∧
      ¬ (rpt.status.terminal = true ∧ orderId = rpt.orderId)) (n : Int)
    (hn : n = t.strategy.positions.netQty os.instrumentId st.exchangeId +
      if rpt.status.isFill then rpt.side.signed rpt.filledQty else 0) :
    Exposed limit q n
      (fun orderId => t.requested orderId - t.filledAfter (.execReport rpt .EXCHANGE) orderId)
      w.desk w.st := by
  let room' := fun orderId => t.requested orderId - t.filledAfter (.execReport rpt .EXCHANGE) orderId
  have hless : ∀ orderId, room' orderId ≤ t.room orderId := fun orderId =>
    Nat.sub_le_sub_left (Nat.le_add_right _ _) _
  have hmono : ∀ side slot, slotRoom room' w.desk side (w.st.handle slot) ≤
      slotRoom t.room t.strategy.desk side (st.handle slot) :=
    fun side slot => slotRoom_mono fun orderId hheld =>
      ⟨((hhandle slot orderId).mp hheld).1, hside orderId, hless orderId⟩
  intro side
  have hquote := hmono side (.ofOrder .quote side)
  have hunwind := hmono side .unwind
  refine le_trans (ofE8_le_iff.mpr ?_) (h.exposed os.instrumentId st hst side)
  show side.signed n + openRoom room' w.desk w.st side ≤ _
  cases hfill : rpt.status.isFill with
  | false =>
    rw [hn, hfill, if_neg Bool.false_ne_true, Int.add_zero]
    unfold openRoom
    omega
  | true =>
    obtain ⟨hreported, hwithin⟩ := hgate hfill
    rw [hn, hfill, if_pos rfl, hreported]
    by_cases hown : side = os.side
    · subst hown
      -- the order is open, so a slot of its side holds it
      have hgoing : os.status.terminal = false := by
        by_contra hterminal
        rw [hopen (Bool.not_eq_false _ ▸ hterminal)] at hfill
        cases hfill
      have hplace := openSlot_eq_some_iff.mpr ⟨os, hos, hgoing, rfl, rfl⟩
      have hheld := h.held _ _ rpt.orderId trivial hplace
      rw [holder, hst, Option.bind_some] at hheld
      have hrecorded : sideOf t.strategy.desk rpt.orderId = some os.side := by
        rw [sideOf, hos]
        rfl
      have htaken : room' rpt.orderId + rpt.filledQty = t.room rpt.orderId := by
        have hfilled : t.filledAfter (.execReport rpt .EXCHANGE) rpt.orderId =
            t.filled rpt.orderId + rpt.filledQty := congrArg _ (if_pos ⟨hfill, rfl⟩)
        unfold room' room
        rw [hfilled]
        omega
      have hslot : ∀ slot, st.handle slot = some rpt.orderId →
          slotRoom room' w.desk os.side (w.st.handle slot) + rpt.filledQty ≤
            slotRoom t.room t.strategy.desk os.side (st.handle slot) := by
        intro slot hslot
        have hroom : slotRoom t.room t.strategy.desk os.side (st.handle slot) =
            t.room rpt.orderId := by
          rw [hslot]
          exact if_pos hrecorded
        rw [hroom, ← htaken]
        refine Nat.add_le_add_right ?_ _
        cases hafter : w.st.handle slot with
        | none => exact Nat.zero_le _
        | some orderId =>
          have hsame := ((hhandle slot orderId).mp hafter).1
          rw [hslot] at hsame
          cases hsame
          unfold slotRoom
          dsimp only
          split
          · exact Nat.le_refl _
          · exact Nat.zero_le _
      have hsigned : os.side.signed (t.strategy.positions.netQty os.instrumentId st.exchangeId +
          os.side.signed rpt.filledQty) =
            os.side.signed (t.strategy.positions.netQty os.instrumentId st.exchangeId) +
              rpt.filledQty := by
        cases os.side with
        | BUY => rfl
        | SELL =>
          simp only [OrderSide.signed]
          omega
      rw [hsigned]
      unfold openRoom
      cases htag : (t.strategy.desk.tags.lookup rpt.orderId).getD .quote with
      | quote =>
        rw [htag] at hheld
        have htakes := hslot _ hheld
        omega
      | unwindNormal =>
        rw [htag] at hheld
        have htakes := hslot .unwind hheld
        omega
    · have hsigned : side.signed (t.strategy.positions.netQty os.instrumentId st.exchangeId +
          os.side.signed rpt.filledQty) =
            side.signed (t.strategy.positions.netQty os.instrumentId st.exchangeId) -
              rpt.filledQty := by
        revert hown
        cases side <;> cases os.side <;> simp only [OrderSide.signed, reduceCtorEq, not_true_eq_false,
          not_false_eq_true, false_imp_iff, true_imp_iff] <;> omega
      rw [hsigned]
      unfold openRoom
      omega

theorem Accounted.report (h : t.Accounted limit q) {rpt : ExecReport} {source : RejectSource}
    (hgate : t.HonestGateway (.execReport rpt source, env))
    (hloses : t.LosesNothing (.execReport rpt source, env)) :
    (t.step cfg (.execReport rpt source, env)).1.Accounted limit q := by
  have hhandles := h.handles.step cfg (.execReport rpt source, env)
  have hheld := (holdsAll_step_iff cfg h.handles h.held (.execReport rpt source, env)).mpr
    hloses.1
  have hless : ∀ orderId, t.requested orderId - t.filledAfter (.execReport rpt source) orderId ≤
      t.room orderId := fun orderId => Nat.sub_le_sub_left (Nat.le_add_right _ _) _
  -- the orders of an instrument whose position stays have no more room than before
  have hothers : ∀ {d : QuoteDesk} {n : Int} {st : InstrumentState Sig},
      (∀ orderId, sideOf d orderId = sideOf t.strategy.desk orderId) →
      Exposed limit q n t.room t.strategy.desk st →
      Exposed limit q n
        (fun orderId => t.requested orderId - t.filledAfter (.execReport rpt source) orderId)
        d st := by
    intro d n st hside hexposed
    refine hexposed.of_sides (fun orderId => ?_) fun side => .inl (Nat.add_le_add ?_ ?_)
    · exact Nat.le_trans (Nat.sub_le _ _) (h.requested_le orderId)
    · exact slotRoom_mono fun orderId hslot => ⟨hslot, hside orderId, hless orderId⟩
    · exact slotRoom_mono fun orderId hslot => ⟨hslot, hside orderId, hless orderId⟩
  have hroom : ∀ sent, (t.strategy.onExecReport cfg env rpt source).2 = sent →
      (∀ c ∈ sent, ∀ orderId, c.quantityFor orderId = 0) →
      (t.step cfg (.execReport rpt source, env)).1.requested = t.requested := by
    rintro sent rfl hasks
    exact requested_eq hasks t.requested
  rcases onExecReport_cases cfg env t.strategy rpt source with
    ⟨-, heq⟩ | ⟨os, st, tag, prior, after, hos, hst, heq⟩
  · have hstrategy : (t.step cfg (.execReport rpt source, env)).1.strategy =
        { t.strategy with desk := t.strategy.desk.onExecReport env rpt } := congrArg Prod.fst heq
    have hrequested := hroom [] (congrArg Prod.snd heq) fun c hc => absurd hc List.not_mem_nil
    refine ⟨hhandles, hheld, ?_, ?_, ?_, ?_, ?_⟩
    · rw [hstrategy]
      exact h.keyed.onExecReport rpt
    · rw [hstrategy]
      exact h.ids
    · rw [hrequested]
      exact h.requested_le
    · rw [hstrategy]
      exact h.position
    · unfold room
      rw [hrequested, hstrategy]
      exact fun id st hst => hothers (sideOf_onExecReport rpt) (h.exposed id st hst)
  · obtain ⟨hkeyed, hside, hexchange, hasks⟩ := reportWork_rest cfg env
      { desk := t.strategy.desk.onExecReport env rpt, st := st } tag rpt source prior after rfl
    obtain ⟨-, hid, hhandle, -⟩ := reportWork_slots cfg env
      { desk := t.strategy.desk.onExecReport env rpt, st := st } tag rpt source prior after
      (.ofOrder ((t.strategy.desk.tags.lookup rpt.orderId).getD .quote) os.side)
      fun slot hslot => (h.handles.held (by rw [holder, hst]; exact hslot) hos).2.symm
    generalize reportWork cfg env { desk := t.strategy.desk.onExecReport env rpt, st := st } tag rpt
      source prior after = w at heq hkeyed hside hexchange hasks hid hhandle
    dsimp only at hside hexchange hid hhandle
    have hsides : ∀ orderId, sideOf w.desk orderId = sideOf t.strategy.desk orderId :=
      fun orderId => (hside orderId).trans (sideOf_onExecReport rpt orderId)
    have hown := h.ids os.instrumentId st hst
    let positions : PositionTracker :=
      if rpt.status.isFill then
        t.strategy.positions.onFill os.instrumentId st.exchangeId rpt.side rpt.filledQty rpt.price
      else t.strategy.positions
    -- a fill moves the position of its own instrument and exchange
    have hnet : ∀ k, k < 2 ^ 56 → ∀ ex, positions.netQty k ex =
        t.strategy.positions.netQty k ex +
          if k = os.instrumentId ∧ ex = st.exchangeId then
            if rpt.status.isFill then rpt.side.signed rpt.filledQty else 0
          else 0 := by
      intro k hk ex
      unfold positions
      split
      · rw [PositionTracker.netQty_onFill]
        exact congrArg _ (if_congr (PositionTracker.key_eq_iff hk hown) rfl rfl)
      · rw [ite_self, Int.add_zero]
    have hexposed : Exposed limit q (positions.netQty os.instrumentId st.exchangeId)
        (fun orderId => t.requested orderId - t.filledAfter (.execReport rpt source) orderId)
        w.desk w.st :=
      h.exposed_report hos hst (hgate os hos) (hloses.2 os hos) hsides hhandle _
        ((hnet _ hown _).trans (congrArg _ (if_pos ⟨rfl, rfl⟩)))
    have hstrategy : (t.step cfg (.execReport rpt source, env)).1.strategy =
        { t.strategy with
          state := t.strategy.state.insert os.instrumentId w.st
          desk := w.desk
          positions := positions } := congrArg Prod.fst heq
    have hrequested := hroom w.sent (congrArg Prod.snd heq) hasks
    refine ⟨hhandles, hheld, ?_, ?_, ?_, ?_, ?_⟩
    · rw [hstrategy]
      exact hkeyed (h.keyed.onExecReport rpt)
    · rw [hstrategy]
      intro k st' hst'
      dsimp only at hst'
      rw [Table.lookup_insert_eq] at hst'
      split at hst'
      · next hk => exact hk ▸ hown
      · exact h.ids k st' hst'
    · rw [hrequested]
      exact h.requested_le
    · rw [hstrategy]
      intro k hk ex
      dsimp only
      by_cases hkey : k = os.instrumentId ∧ ex = st.exchangeId
      · obtain ⟨rfl, rfl⟩ := hkey
        exact hexposed.abs_bound
      · rw [hnet k hk ex, if_neg hkey, Int.add_zero]
        exact h.position k hk ex
    · unfold room
      rw [hrequested, hstrategy]
      intro k st' hst'
      dsimp only at hst' ⊢
      rw [Table.lookup_insert_eq] at hst'
      split at hst'
      · next hk =>
        cases hst'
        rw [hk, hexchange]
        exact hexposed
      · next hk =>
        rw [hnet k (h.ids k st' hst') _, if_neg fun hkey => hk hkey.1, Int.add_zero]
        exact hothers hsides (h.exposed k st' hst')

/-- One step, in the runs that the bound is about. -/
theorem Accounted.step (hlimit : 0 ≤ limit)
    (hmax : ∀ lastMid equityE8, cfg.sizer.effectiveMaxInventory lastMid equityE8 = limit)
    (h : t.Accounted limit q) (e : Callback × Surroundings) (hsize : t.FixedSize cfg q e)
    (hgate : t.HonestGateway e) (hloses : t.LosesNothing e) :
    (t.step cfg e).1.Accounted limit q := by
  obtain ⟨c, env⟩ := e
  have hbound : 0 ≤ limit + 2 * ofE8 q := by
    have hq : 0 ≤ ofE8 q := ofE8_nonneg_iff.mpr (Int.natCast_nonneg q)
    linarith
  have hhandles := h.handles.step cfg (c, env)
  have hheld := (holdsAll_step_iff cfg h.handles h.held (c, env)).mpr hloses.1
  -- the callbacks that only make or change states
  have hquiet : Quiet t.strategy (t.strategy.step cfg (c, env)).1 →
      (∀ c' ∈ (t.strategy.step cfg (c, env)).2, ∀ orderId, c'.quantityFor orderId = 0) →
      t.filledAfter c = t.filled → (t.step cfg (c, env)).1.Accounted limit q := by
    intro hq hasks hfilled
    have hstep : (t.step cfg (c, env)).1 =
        ⟨(t.strategy.step cfg (c, env)).1, t.requested, t.filled⟩ := by
      unfold Trading.step
      dsimp only
      rw [requested_eq hasks, hfilled]
    rw [hstep]
    exact h.quiet hq hhandles hheld hbound
  have hnothing : ∀ c' ∈ ([] : List Sent), ∀ orderId, c'.quantityFor orderId = 0 :=
    fun c' hc' => absurd hc' List.not_mem_nil
  cases c with
  | execReport rpt source => exact h.report hgate hloses
  | bbo tick =>
    rcases onBbo_cases cfg env t.strategy tick with hskip | ⟨st, hst, hwork⟩
    · refine hquiet ?_ ?_ rfl
      · exact (congrArg (fun r => Quiet t.strategy r.1) hskip).mpr (.refl _)
      · exact (congrArg (fun r => ∀ c' ∈ r.2, ∀ orderId, c'.quantityFor orderId = 0) hskip).mpr
          hnothing
    · have hcareful := tickWork_careful cfg env t.filled
        h.requested_le h.handles.fresh (h.handles.holdsOpen hst) h.keyed tick hmax hlimit
      have hsent : (t.strategy.step cfg (.bbo tick, env)).2 =
          (t.strategy.tickWork cfg env st tick).sent := congrArg Prod.snd hwork
      have hstep : (t.step cfg (.bbo tick, env)).1 =
          ⟨(t.strategy.commit tick.instrumentId (t.strategy.tickWork cfg env st tick)).1,
            largest t.requested (t.strategy.tickWork cfg env st tick).sent, t.filled⟩ :=
        congrArg (fun r => Trading.mk r.1 (largest t.requested r.2) t.filled) hwork
      rw [hstep]
      refine h.commit hst hcareful fun c hc => hsize c ?_
      rw [hsent]
      exact hc
  | instrumentSnapshot resolved => exact hquiet (onInstrumentSnapshot_quiet resolved) hnothing rfl
  | instrumentDelta inst inUniverse updateType =>
    exact hquiet (onInstrumentDelta_quiet inst inUniverse updateType) hnothing rfl
  | trade tick => exact hquiet (update_quiet _ _ fun _ => ⟨rfl, fun _ => rfl⟩) hnothing rfl
  | orderBook book => exact hquiet (update_quiet _ _ fun _ => ⟨rfl, fun _ => rfl⟩) hnothing rfl
  | toxicityUpdate update =>
    exact hquiet (update_quiet _ _ fun _ => ⟨rfl, fun _ => rfl⟩) hnothing rfl
  | refdataStaleChanged stale =>
    refine hquiet (onRefdataStaleChanged_quiet stale) (fun c' hc' orderId => ?_) rfl
    obtain ⟨cancel, rfl⟩ := t.strategy.onRefdataStaleChanged_sent env stale c' hc'
    rfl
  | accountSnapshot snap => exact hquiet (onAccountSnapshot_quiet hloses.2) hnothing rfl

theorem Accounted.start (hlimit : 0 ≤ limit) (nextOrderId : Nat) :
    (init nextOrderId : Trading Sig).Accounted limit q where
  handles := .start nextOrderId
  held := .start _ nextOrderId
  keyed orderId os hos := by cases hos
  ids id st hst := by cases hst
  requested_le _ := Nat.zero_le q
  position id _ ex := by
    have hflat : (init nextOrderId : Trading Sig).strategy.positions.netQty id ex = 0 := rfl
    have hq : 0 ≤ ofE8 q := ofE8_nonneg_iff.mpr (Int.natCast_nonneg q)
    rw [hflat, ofE8_zero, abs_zero]
    linarith
  exposed id st hst := by cases hst

/-- One bitcoin a quote, and almost no inventory. -/
def smallConfig : Config Unit := { swapConfig with sizer := { orderQty := 1, maxInventory := 1 / 100 } }

/-- A quote is placed and its bid filled. -/
def filledEvents : List (Callback × Surroundings) :=
  [(.instrumentSnapshot [swap], calm), (.bbo (swapTick 1 100 102), calm),
   (.execReport (swapReport 1 .FILLED .BUY 100000000) .EXCHANGE, calm)]

/-- Three universes, a bid in each of them, and the fills of all three in the last. -/
def forgottenEvents : List (Callback × Surroundings) :=
  [(.instrumentSnapshot [swap], calm), (.bbo (swapTick 1 100 102), calm),
   (.instrumentSnapshot [swap], calm), (.bbo (swapTick 2 100 102), calm),
   (.instrumentSnapshot [swap], calm), (.bbo (swapTick 3 100 102), calm),
   (.execReport (swapReport 1 .FILLED .BUY 100000000) .EXCHANGE, calm),
   (.execReport (swapReport 3 .FILLED .BUY 100000000) .EXCHANGE, calm),
   (.execReport (swapReport 5 .FILLED .BUY 100000000) .EXCHANGE, calm)]

instance (cfg : Config Sig) (q : Nat) (t : Trading Sig) (e : Callback × Surroundings) :
    Decidable (FixedSize cfg q t e) :=
  inferInstanceAs (Decidable (∀ c ∈ (t.strategy.step cfg e).2, c.quantity ≤ q))

instance (t : Trading Sig) : (e : Callback × Surroundings) → Decidable (HonestGateway t e)
  | (.execReport rpt _, _) =>
    inferInstanceAs (Decidable (∀ os ∈ t.strategy.desk.om.lookup.lookup rpt.orderId,
      rpt.status.isFill = true →
        rpt.side = os.side ∧ t.filled rpt.orderId + rpt.filledQty ≤ t.requested rpt.orderId))
  | (.instrumentSnapshot _, _) | (.instrumentDelta .., _) | (.bbo _, _) | (.trade _, _)
  | (.orderBook _, _) | (.toxicityUpdate _, _) | (.refdataStaleChanged _, _)
  | (.accountSnapshot _, _) => isTrue trivial

end Trading

end AvellanedaStoikov

end BptCore.Strategy
