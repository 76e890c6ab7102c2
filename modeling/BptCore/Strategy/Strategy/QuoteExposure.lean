import BptCore.Lib.Machine
import BptCore.Strategy.Strategy.PassiveMakerQuotes

/-!
# The exposure of the quotes

The passive maker beside the venue's account of its orders. A quote whose cancel is on its way can
still be filled, and nothing holds a new one back, so that the number of orders at the venue and the
inventory are bounded when the cancels are confirmed in time.

* **`Trading`** — the strategy with its orders at the venue.
* **`AtMostOne`**, **`Bounded`** — one order of a side, and what that means for the inventory.
* **`KeepsQuotes`** — a side is placed anew once its orders have ended.
* **`WithinReach`** — how far the open orders of a side can take the exposure: serving an order
  never takes it further, and a send only where the side is free.
* **`Sound`** — the strategy's account of its orders beside the venue's, call by call.
* **`quotes_bounded`** — both properties hold of every run that keeps to the condition.
-/

namespace BptCore.Strategy

open PassiveMaker

namespace PassiveMakerStrategy

/-- An order at the venue, what was filled of it in all, and whether it has ended. -/
structure VenueOrder where
  instrumentId : Nat
  side : OrderSide
  quantity : Nat
  filled : Nat := 0
  ended : Bool := false
  deriving DecidableEq, Repr

namespace VenueOrder

variable (o : VenueOrder)

/-- What the order has brought of an instrument. -/
def gain (instrumentId : Nat) : Int :=
  if o.instrumentId = instrumentId then o.side.signed o.filled else 0

/-- The order can still be filled. -/
def opens (instrumentId : Nat) (side : OrderSide) : Bool :=
  o.instrumentId = instrumentId ∧ o.side = side ∧ o.ended = false

/-- What can still be filled of it. -/
def openQty (instrumentId : Nat) (side : OrderSide) : Int :=
  if o.opens instrumentId side then o.quantity - o.filled else 0

/-- The filled quantity of a report is the order's so far. -/
def reported (rpt : ExecReport) : VenueOrder :=
  { o with
    filled := if rpt.status.isFill then max o.filled rpt.filledQty else o.filled
    ended := o.ended || rpt.status.terminal }

end VenueOrder

def netQty (orders : Table Nat VenueOrder) (instrumentId : Nat) : Int :=
  Table.sumVals (VenueOrder.gain · instrumentId) orders

def openQty (orders : Table Nat VenueOrder) (instrumentId : Nat) (side : OrderSide) : Int :=
  Table.sumVals (VenueOrder.openQty · instrumentId side) orders

/-- The orders after an event at the venue; an order that is not taken cannot be filled. -/
def record (orders : Table Nat VenueOrder) : VenueEvent → Table Nat VenueOrder
  | .sent order accepted =>
    orders.insert order.orderId
      { instrumentId := order.instrumentId
        side := order.side
        quantity := order.quantity
        ended := !accepted }
  | .cancel _ => orders
  | .report rpt =>
    match orders.lookup rpt.orderId with
    | none => orders
    | some o => orders.insert rpt.orderId (o.reported rpt)

structure Trading (Sig : Type) where
  strategy : PassiveMakerStrategy Sig
  orders : Table Nat VenueOrder := ∅

namespace Trading

variable {Sig : Type} (cfg : Config Sig)

def step (t : Trading Sig) (e : Callback × QuoteSurroundings) : Trading Sig × List VenueEvent :=
  let r := t.strategy.step cfg e
  ({ strategy := r.1, orders := r.2.foldl record t.orders }, r.2)

def init (nextOrderId : Nat) : Trading Sig where
  strategy := { nextOrderId := nextOrderId }

/-- At most one order of an instrument and a side can still be filled. -/
def AtMostOne (t : Trading Sig) : Prop :=
  ∀ id side orderId o orderId' o', t.orders.lookup orderId = some o →
    t.orders.lookup orderId' = some o' → o.opens id side → o'.opens id side → orderId = orderId'

/-- The inventory is what the orders were filled, and no more than a quote beyond the bound. -/
def Bounded (q : Nat) (t : Trading Sig) : Prop :=
  ∀ id st, t.strategy.maker.state.lookup id = some st →
    st.inventory = ofE8 (netQty t.orders id) ∧ |st.inventory| ≤ cfg.maxInventory + ofE8 q

end Trading

/-! ## The conditions -/

/-- The fills of a report are on its order's side, before its end and within its quantity, and not
from inside its own send, which the strategy would not hear. -/
def HonestReport (own : Option Nat) (orders : Table Nat VenueOrder) (rpt : ExecReport) : Prop :=
  ∀ o ∈ orders.lookup rpt.orderId, rpt.status.isFill →
    rpt.side = o.side ∧ o.ended = false ∧ rpt.filledQty ≤ o.quantity ∧ own ≠ some rpt.orderId

instance (own : Option Nat) (orders : Table Nat VenueOrder) (rpt : ExecReport) :
    Decidable (HonestReport own orders rpt) :=
  inferInstanceAs (Decidable (∀ o ∈ orders.lookup rpt.orderId, _ → _ ∧ _ ∧ _ ∧ _))

def HonestEvent (own : Option Nat) (orders : Table Nat VenueOrder) : VenueEvent → Prop
  | .report rpt => HonestReport own orders rpt
  | .sent _ _ | .cancel _ => True

instance (own : Option Nat) (orders : Table Nat VenueOrder) :
    (e : VenueEvent) → Decidable (HonestEvent own orders e)
  | .report rpt => inferInstanceAs (Decidable (HonestReport own orders rpt))
  | .sent _ _ | .cancel _ => isTrue trivial

/-- The order whose send the next events are inside of. -/
def ownAfter (own : Option Nat) : VenueEvent → Option Nat
  | .sent order _ => some order.orderId
  | .cancel _ => none
  | .report _ => own

def HonestEvents (own : Option Nat) (orders : Table Nat VenueOrder) : List VenueEvent → Prop
  | [] => True
  | e :: es => HonestEvent own orders e ∧ HonestEvents (ownAfter own e) (record orders e) es

instance HonestEvents.decidable :
    ∀ (own : Option Nat) (orders : Table Nat VenueOrder) (es : List VenueEvent),
      Decidable (HonestEvents own orders es)
  | _, _, [] => isTrue trivial
  | own, orders, e :: es =>
    have := HonestEvents.decidable (ownAfter own e) (record orders e) es
    inferInstanceAs (Decidable (_ ∧ _))

/-- The event reports the end of the order. -/
def endsOrder (orderId : Nat) : VenueEvent → Bool
  | .report rpt => rpt.orderId = orderId ∧ rpt.status.terminal
  | _ => false

/-- What the event sends. -/
def sentQuantity : VenueEvent → Nat
  | .sent order _ => order.quantity
  | _ => 0

/-- Every order of the side that can still be filled has its end among the events. -/
def Confirmed (orders : Table Nat VenueOrder) (events : List VenueEvent) (instrumentId : Nat)
    (side : OrderSide) : Prop :=
  ∀ e ∈ orders.entries, e.2.opens instrumentId side → events.any (endsOrder e.1)

instance (orders : Table Nat VenueOrder) (events : List VenueEvent) (instrumentId : Nat)
    (side : OrderSide) : Decidable (Confirmed orders events instrumentId side) :=
  inferInstanceAs (Decidable (∀ e ∈ _, _ → _))

section Conditions

variable {Sig : Type} (cfg : Config Sig) (env : QuoteSurroundings) (s : PassiveMakerStrategy Sig)

/-- What the cancels leave of a tick that has the strategy requote, with the market and the fair
value: nothing on another tick. -/
def requoting (tick : MdMarketData) :
    Option ((PassiveMakerStrategy Sig × List VenueEvent) × QuoteState Sig × ℚ) :=
  match s.maker.state.lookup tick.instrumentId, s.quotes.lookup tick.instrumentId with
  | some st, some q =>
    match decision cfg env st q tick with
    | (q', .requote q fv) =>
      some (({ s with quotes := s.quotes.insert tick.instrumentId q' }).cancelQuotes cfg env
        tick.instrumentId, q, fv)
    | _ => none
  | _, _ => none

/-- What the cancels leave at shutdown, with the market. -/
def flattening (instrumentId : Nat) :
    Option ((PassiveMakerStrategy Sig × List VenueEvent) × QuoteState Sig) :=
  match s.quotes.lookup instrumentId with
  | none => none
  | some q =>
    if cfg.hasOrderMgr then
      some (({ s with
        quotes :=
          s.quotes.insert instrumentId { q with flattenInProgress := true } }).cancelQuotes cfg env
            instrumentId, q)
    else none

namespace Trading

/-- When a side is placed anew, the venue has reported the end of every order of it: before the
callback or from inside its cancels. So for the order that closes the inventory. -/
def ConfirmedInTime (t : Trading Sig) (env : QuoteSurroundings) : Callback → Prop
  | .bbo tick =>
    ∀ r ∈ requoting cfg env t.strategy tick,
      ∀ st ∈ r.1.1.maker.state.lookup tick.instrumentId, ∀ side ∈ [OrderSide.BUY, .SELL],
        posts cfg r.2.1 st.inventory r.2.2 side →
          Confirmed t.orders r.1.2 tick.instrumentId side
  | .shutdownFlatten instrumentId =>
    ∀ r ∈ flattening cfg env t.strategy instrumentId,
      ∀ st ∈ r.1.1.maker.state.lookup instrumentId, unwindDue st r.2 →
        Confirmed t.orders r.1.2 instrumentId (unwindSide st.inventory)
  | _ => True

/-- No order that a tick places is larger than `q`, nor is the lot that an inventory is closed
with. -/
def FixedSize (q : Nat) (t : Trading Sig) (e : Callback × QuoteSurroundings) : Prop :=
  match e.1 with
  | .bbo _ => ∀ event ∈ (t.step cfg e).2, sentQuantity event ≤ q
  | .shutdownFlatten instrumentId => LotWithin e.2.cache instrumentId (ofE8 q)
  | _ => True

instance (t : Trading Sig) (env : QuoteSurroundings) :
    (callback : Callback) → Decidable (t.ConfirmedInTime cfg env callback)
  | .bbo tick =>
    inferInstanceAs (Decidable (∀ r ∈ requoting cfg env t.strategy tick, ∀ st ∈ _, ∀ side ∈ _,
      _ → _))
  | .shutdownFlatten instrumentId =>
    inferInstanceAs (Decidable (∀ r ∈ flattening cfg env t.strategy instrumentId, ∀ st ∈ _,
      _ → _))
  | .instrumentSnapshot _ | .instrumentDelta .. | .trade _ | .orderBook _ | .execReport _ =>
    isTrue trivial

instance (q : Nat) (t : Trading Sig) :
    (e : Callback × QuoteSurroundings) → Decidable (t.FixedSize cfg q e)
  | (.bbo tick, env) =>
    inferInstanceAs (Decidable (∀ event ∈ (t.step cfg (.bbo tick, env)).2, sentQuantity event ≤ q))
  | (.shutdownFlatten instrumentId, env) =>
    inferInstanceAs (Decidable (LotWithin env.cache instrumentId (ofE8 q)))
  | (.instrumentSnapshot _, _) | (.instrumentDelta .., _) | (.trade _, _) | (.orderBook _, _)
  | (.execReport _, _) => isTrue trivial

def KeepsQuotes (q : Nat) (t : Trading Sig) (e : Callback × QuoteSurroundings) : Prop :=
  HonestEvents none t.orders (t.step cfg e).2 ∧ t.FixedSize cfg q e ∧
    t.ConfirmedInTime cfg e.2 e.1

instance (q : Nat) (t : Trading Sig) (e : Callback × QuoteSurroundings) :
    Decidable (t.KeepsQuotes cfg q e) :=
  inferInstanceAs (Decidable (_ ∧ _ ∧ _))

end Trading

end Conditions

/-! ## The venue's account -/

/-- What an order can still make of the exposure on a side: what it has brought, and what is left
of it when it is of that side. -/
def VenueOrder.reach (o : VenueOrder) (instrumentId : Nat) (side : OrderSide) : Int :=
  side.signed (o.gain instrumentId) + o.openQty instrumentId side

/-- The exposure on a side once every open order of it is filled. -/
def reach (orders : Table Nat VenueOrder) (instrumentId : Nat) (side : OrderSide) : Int :=
  Table.sumVals (VenueOrder.reach · instrumentId side) orders

/-- No order of an instrument and a side can be filled any more. -/
def NoneOpen (orders : Table Nat VenueOrder) (instrumentId : Nat) (side : OrderSide) : Prop :=
  ∀ orderId o, orders.lookup orderId = some o → o.opens instrumentId side = false

section Account

variable {orders : Table Nat VenueOrder} {o o' : VenueOrder} {orderId instrumentId : Nat}
  {side : OrderSide}

/-- An order of which more has been filled, or which has ended. -/
structure VenueOrder.Served (o o' : VenueOrder) : Prop where
  instrumentId : o'.instrumentId = o.instrumentId
  side : o'.side = o.side
  quantity : o'.quantity = o.quantity
  filled : o.filled ≤ o'.filled ∧ o'.filled ≤ o'.quantity
  ended : o.ended = true → o'.ended = true ∧ o'.filled = o.filled

theorem VenueOrder.served_reported {own : Option Nat} {rpt : ExecReport}
    (hhonest : HonestReport own orders rpt) (ho : orders.lookup rpt.orderId = some o)
    (hfilled : o.filled ≤ o.quantity) : o.Served (o.reported rpt) := by
  have hhonest := hhonest o ho
  refine ⟨rfl, rfl, rfl, ?_, fun hended => ?_⟩
  · unfold VenueOrder.reported
    dsimp only
    split
    · next hfill => exact ⟨le_max_left _ _, max_le hfilled (hhonest hfill).2.2.1⟩
    · exact ⟨le_rfl, hfilled⟩
  · unfold VenueOrder.reported
    dsimp only
    rw [hended, Bool.true_or]
    refine ⟨rfl, if_neg fun hfill => ?_⟩
    rw [(hhonest hfill).2.1] at hended
    cases hended

/-- Filling an order, or ending it, takes the exposure on neither side further than its own
quantity did. -/
theorem VenueOrder.Served.reach_le (h : o.Served o') (instrumentId : Nat) (side : OrderSide) :
    o'.reach instrumentId side ≤ o.reach instrumentId side := by
  obtain ⟨hinst, hside, hqty, hfilled, hended⟩ := h
  unfold VenueOrder.reach VenueOrder.gain VenueOrder.openQty VenueOrder.opens
  rw [hinst, hside, hqty]
  by_cases hid : o.instrumentId = instrumentId
  · cases hdone : o.ended with
    | true =>
      obtain ⟨hstill, hsame⟩ := hended hdone
      rw [hstill, hsame]
    | false =>
      cases o.side <;> cases side <;> cases o'.ended <;> simp [hid, OrderSide.signed] <;> omega
  · simp [hid, OrderSide.signed]

theorem VenueOrder.gain_of_unfilled (h : o.filled = 0) : o.gain instrumentId = 0 := by
  unfold VenueOrder.gain
  rw [h]
  cases o.side <;> simp [OrderSide.signed]

theorem VenueOrder.opens_of_served (h : o.Served o')
    (hopens : o'.opens instrumentId side = true) : o.opens instrumentId side = true := by
  simp only [VenueOrder.opens, decide_eq_true_eq] at hopens ⊢
  obtain ⟨hinst, hside, hopen⟩ := hopens
  refine ⟨h.instrumentId.symm.trans hinst, h.side.symm.trans hside, ?_⟩
  cases hended : o.ended with
  | false => rfl
  | true =>
    rw [(h.ended hended).1] at hopen
    cases hopen

theorem netQty_of_lookup (ho : orders.lookup orderId = some o) :
    netQty (orders.insert orderId o') instrumentId =
      netQty orders instrumentId + (o'.gain instrumentId - o.gain instrumentId) := by
  rw [netQty, netQty, Table.sumVals_insert, Table.sumVals_of_lookup _ ho]
  omega

theorem reach_of_lookup (ho : orders.lookup orderId = some o) :
    reach (orders.insert orderId o') instrumentId side =
      reach orders instrumentId side +
        (o'.reach instrumentId side - o.reach instrumentId side) := by
  rw [reach, reach, Table.sumVals_insert, Table.sumVals_of_lookup _ ho]
  omega

theorem netQty_of_new (hnew : orders.lookup orderId = none) :
    netQty (orders.insert orderId o') instrumentId =
      netQty orders instrumentId + o'.gain instrumentId := by
  rw [netQty, Table.sumVals_insert, Table.erase_of_notMem (AList.lookup_eq_none.mp hnew),
    add_comm]
  rfl

theorem reach_of_new (hnew : orders.lookup orderId = none) :
    reach (orders.insert orderId o') instrumentId side =
      reach orders instrumentId side + o'.reach instrumentId side := by
  rw [reach, Table.sumVals_insert, Table.erase_of_notMem (AList.lookup_eq_none.mp hnew),
    add_comm]
  rfl

theorem signed_add (side : OrderSide) (m n : Int) :
    side.signed (m + n) = side.signed m + side.signed n := by
  cases side
  · rfl
  · exact neg_add m n

/-- With no order open, a side reaches as far as the inventory. -/
theorem reach_of_noneOpen (h : NoneOpen orders instrumentId side) :
    reach orders instrumentId side = side.signed (netQty orders instrumentId) := by
  have hvals : ∀ o ∈ Table.vals orders, o.opens instrumentId side = false := by
    intro o ho
    obtain ⟨orderId, hlookup⟩ := Table.mem_vals_iff.mp ho
    exact h orderId o hlookup
  rw [reach, netQty, Table.sumVals, Table.sumVals]
  generalize Table.vals orders = l at hvals ⊢
  induction l with
  | nil => cases side <;> rfl
  | cons o os ih =>
    have hclosed : o.opens instrumentId side = false := hvals o List.mem_cons_self
    have hreach : o.reach instrumentId side = side.signed (o.gain instrumentId) := by
      rw [VenueOrder.reach, VenueOrder.openQty, hclosed]
      exact add_zero _
    rw [List.map_cons, List.map_cons, List.sum_cons, List.sum_cons, signed_add, hreach,
      ih fun o' ho' => hvals o' (List.mem_cons_of_mem o ho')]

/-- The inventory is within what a side reaches. -/
theorem signed_netQty_le_reach
    (hfilled : ∀ orderId o, orders.lookup orderId = some o → o.filled ≤ o.quantity) :
    side.signed (netQty orders instrumentId) ≤ reach orders instrumentId side := by
  have hvals : ∀ o ∈ Table.vals orders, o.filled ≤ o.quantity := by
    intro o ho
    obtain ⟨orderId, hlookup⟩ := Table.mem_vals_iff.mp ho
    exact hfilled orderId o hlookup
  rw [reach, netQty, Table.sumVals, Table.sumVals]
  generalize Table.vals orders = l at hvals ⊢
  induction l with
  | nil => cases side <;> exact le_rfl
  | cons o os ih =>
    have hopen : 0 ≤ o.openQty instrumentId side := by
      have hle := hvals o List.mem_cons_self
      unfold VenueOrder.openQty
      split <;> omega
    have hrest := ih fun o' ho' => hvals o' (List.mem_cons_of_mem o ho')
    rw [List.map_cons, List.map_cons, List.sum_cons, List.sum_cons, signed_add]
    show _ ≤ side.signed (o.gain instrumentId) + o.openQty instrumentId side + _
    omega

/-! ### Events -/

theorem lookup_record_report {rpt : ExecReport} (ho : orders.lookup rpt.orderId = some o) :
    record orders (.report rpt) = orders.insert rpt.orderId (o.reported rpt) := by
  simp only [record, ho]

theorem record_report_of_none {rpt : ExecReport} (ho : orders.lookup rpt.orderId = none) :
    record orders (.report rpt) = orders := by
  simp only [record, ho]

/-- An order of which the event reports the end cannot be filled after it, and no event but a send
opens one. -/
theorem opens_of_record {e : VenueEvent} (hsent : ∀ order accepted, e = .sent order accepted →
      accepted = true → ¬ (order.instrumentId = instrumentId ∧ order.side = side))
    (ho : (record orders e).lookup orderId = some o) (hopens : o.opens instrumentId side = true) :
    endsOrder orderId e = false ∧
      ∃ old, orders.lookup orderId = some old ∧ old.opens instrumentId side = true := by
  cases e with
  | cancel request => exact ⟨rfl, o, ho, hopens⟩
  | sent order accepted =>
    rw [record, Table.lookup_insert_eq] at ho
    split at ho
    · cases ho
      simp only [VenueOrder.opens, decide_eq_true_eq, Bool.not_eq_false'] at hopens
      exact absurd ⟨hopens.1, hopens.2.1⟩ (hsent order accepted rfl hopens.2.2)
    · exact ⟨rfl, o, ho, hopens⟩
  | report rpt =>
    cases hold : orders.lookup rpt.orderId with
    | none =>
      rw [record_report_of_none hold] at ho
      refine ⟨?_, o, ho, hopens⟩
      have hne : rpt.orderId ≠ orderId := by
        rintro rfl
        rw [hold] at ho
        cases ho
      simp [endsOrder, hne]
    | some old =>
      rw [lookup_record_report hold, Table.lookup_insert_eq] at ho
      split at ho
      · next hid =>
        cases ho
        simp only [VenueOrder.opens, VenueOrder.reported, decide_eq_true_eq,
          Bool.or_eq_false_iff] at hopens
        obtain ⟨hinst, hside, hopen, hterminal⟩ := hopens
        refine ⟨by simp [endsOrder, hterminal], old, hid ▸ hold, ?_⟩
        simp only [VenueOrder.opens, decide_eq_true_eq]
        exact ⟨hinst, hside, hopen⟩
      · next hid =>
        refine ⟨?_, o, ho, hopens⟩
        simp [endsOrder, Ne.symm hid]

theorem NoneOpen.record (h : NoneOpen orders instrumentId side) {e : VenueEvent}
    (hsent : ∀ order accepted, e = .sent order accepted → accepted = true →
      ¬ (order.instrumentId = instrumentId ∧ order.side = side)) :
    NoneOpen (record orders e) instrumentId side := by
  intro orderId o ho
  cases hopens : o.opens instrumentId side with
  | false => rfl
  | true =>
    obtain ⟨-, old, hold, hopen⟩ := opens_of_record hsent ho hopens
    rw [h orderId old hold] at hopen
    cases hopen

theorem NoneOpen.events {events : List VenueEvent} (h : NoneOpen orders instrumentId side)
    (hsent : ∀ order accepted, .sent order accepted ∈ events → accepted = true →
      ¬ (order.instrumentId = instrumentId ∧ order.side = side)) :
    NoneOpen (events.foldl PassiveMakerStrategy.record orders) instrumentId side := by
  induction events generalizing orders with
  | nil => exact h
  | cons e es ih =>
    refine ih (h.record fun order accepted he => ?_) fun order accepted he => ?_
    · exact hsent order accepted (he ▸ List.mem_cons_self)
    · exact hsent order accepted (List.mem_cons_of_mem e he)

/-- Once the ends of a side's open orders are reported, it has none. -/
theorem noneOpen_of_confirmed {events : List VenueEvent}
    (h : Confirmed orders events instrumentId side)
    (hsent : ∀ order accepted, .sent order accepted ∉ events) :
    NoneOpen (events.foldl PassiveMakerStrategy.record orders) instrumentId side := by
  have hends : ∀ (es : List VenueEvent) (orders : Table Nat VenueOrder),
      (∀ order accepted, .sent order accepted ∉ es) → ∀ orderId o,
      (es.foldl PassiveMakerStrategy.record orders).lookup orderId = some o →
      o.opens instrumentId side = true → es.any (endsOrder orderId) = false ∧
        ∃ old, orders.lookup orderId = some old ∧ old.opens instrumentId side = true := by
    intro es
    induction es with
    | nil => exact fun orders _ orderId o ho hopens => ⟨rfl, o, ho, hopens⟩
    | cons e es ih =>
      intro orders hsent orderId o ho hopens
      obtain ⟨hany, mid, hmid, hopen⟩ := ih _
        (fun order accepted he => hsent order accepted (List.mem_cons_of_mem e he)) orderId o ho
        hopens
      obtain ⟨hend, hold⟩ := opens_of_record
        (fun order accepted he _ _ => hsent order accepted (he ▸ List.mem_cons_self)) hmid hopen
      exact ⟨by rw [List.any_cons, hend, hany]; rfl, hold⟩
  intro orderId o ho
  cases hopens : o.opens instrumentId side with
  | false => rfl
  | true =>
    obtain ⟨hany, old, hold, hopen⟩ := hends events orders hsent orderId o ho hopens
    rw [h ⟨orderId, old⟩ (Table.mem_entries_iff.mpr hold) hopen] at hany
    cases hany

end Account

/-- No side reaches further than the bound, with one open order at most. -/
structure WithinReach (bound : ℚ) (orders : Table Nat VenueOrder) : Prop where
  filled : ∀ orderId o, orders.lookup orderId = some o → o.filled ≤ o.quantity
  room : ∀ instrumentId side, ofE8 (reach orders instrumentId side) ≤ bound
  single : ∀ instrumentId side orderId o orderId' o', orders.lookup orderId = some o →
    orders.lookup orderId' = some o' → o.opens instrumentId side → o'.opens instrumentId side →
      orderId = orderId'

namespace WithinReach

variable {bound : ℚ} {orders : Table Nat VenueOrder} {o o' : VenueOrder} {orderId : Nat}

theorem serve (h : WithinReach bound orders) (ho : orders.lookup orderId = some o)
    (hserved : o.Served o') : WithinReach bound (orders.insert orderId o') := by
  -- what is open was open
  have hopen : ∀ {id side k v}, (orders.insert orderId o').lookup k = some v →
      v.opens id side = true → ∃ w, orders.lookup k = some w ∧ w.opens id side = true := by
    intro id side k v hv hopens
    rw [Table.lookup_insert_eq] at hv
    split at hv
    · next hk =>
      cases hv
      exact ⟨o, hk ▸ ho, VenueOrder.opens_of_served hserved hopens⟩
    · exact ⟨v, hv, hopens⟩
  refine ⟨fun k v hv => ?_, fun id side => ?_, fun id side k v k' v' hv hv' hopens hopens' => ?_⟩
  · rw [Table.lookup_insert_eq] at hv
    split at hv
    · cases hv
      exact hserved.filled.2
    · exact h.filled k v hv
  · refine le_trans (ofE8_le_iff.mpr ?_) (h.room id side)
    have hreach := hserved.reach_le id side
    rw [reach_of_lookup ho]
    omega
  · obtain ⟨w, hw, hopen₁⟩ := hopen hv hopens
    obtain ⟨w', hw', hopen₂⟩ := hopen hv' hopens'
    exact h.single id side k w k' w' hw hw' hopen₁ hopen₂

/-- A new order has room on its side, which has no open one. -/
theorem send (h : WithinReach bound orders) (hnew : orders.lookup orderId = none)
    (hfilled : o.filled = 0)
    (hroom : o.ended = false → NoneOpen orders o.instrumentId o.side ∧
      ofE8 (reach orders o.instrumentId o.side + o.quantity) ≤ bound) :
    WithinReach bound (orders.insert orderId o) := by
  have hreach : ∀ id side, o.reach id side = if o.opens id side then (o.quantity : Int) else 0 := by
    intro id side
    rw [VenueOrder.reach, VenueOrder.openQty, VenueOrder.gain_of_unfilled hfilled, hfilled]
    cases side <;> simp [OrderSide.signed]
  have hopens : ∀ {id side}, o.opens id side = true →
      o.instrumentId = id ∧ o.side = side ∧ o.ended = false := by
    intro id side hopen
    simpa only [VenueOrder.opens, decide_eq_true_eq] using hopen
  refine ⟨fun k v hv => ?_, fun id side => ?_, fun id side k v k' v' hv hv' hopen hopen' => ?_⟩
  · rw [Table.lookup_insert_eq] at hv
    split at hv
    · cases hv
      rw [hfilled]
      exact Nat.zero_le _
    · exact h.filled k v hv
  · rw [reach_of_new hnew, hreach]
    split
    · next hopen =>
      obtain ⟨rfl, rfl, hlive⟩ := hopens hopen
      exact (hroom hlive).2
    · rw [add_zero]
      exact h.room id side
  · rw [Table.lookup_insert_eq] at hv hv'
    split at hv
    · next hk =>
      cases hv
      obtain ⟨rfl, rfl, hlive⟩ := hopens hopen
      split at hv'
      · next hk' => rw [hk, hk']
      · rw [(hroom hlive).1 k' v' hv'] at hopen'
        cases hopen'
    · split at hv'
      · cases hv'
        obtain ⟨rfl, rfl, hlive⟩ := hopens hopen'
        rw [(hroom hlive).1 k v hv] at hopen
        cases hopen
      · exact h.single id side k v k' v' hv hv' hopen hopen'

end WithinReach

/-! ## The strategy's account -/

/-- The strategy knows its open orders, but for the one that it is sending, and what was filled of
them. -/
structure Sound {Sig : Type} (bound : ℚ) (own : Option Nat) (t : Trading Sig) : Prop where
  pos : 0 < t.strategy.nextOrderId
  fresh : ∀ orderId o, t.orders.lookup orderId = some o → orderId < t.strategy.nextOrderId
  known : ∀ orderId o, t.orders.lookup orderId = some o →
    ∃ st, t.strategy.maker.state.lookup o.instrumentId = some st
  tracked : ∀ orderId instrumentId,
    t.strategy.maker.orderToInstrument.lookup orderId = some instrumentId →
      own ≠ some orderId ∧ ∃ o, t.orders.lookup orderId = some o ∧ o.instrumentId = instrumentId
  followed : ∀ orderId o, t.orders.lookup orderId = some o → o.ended = false →
    own ≠ some orderId → t.strategy.maker.orderToInstrument.lookup orderId = some o.instrumentId
  unfilled : ∀ orderId o, own = some orderId → t.orders.lookup orderId = some o → o.filled = 0
  seen : ∀ orderId o st, t.orders.lookup orderId = some o →
    t.strategy.maker.orderToInstrument.lookup orderId = some o.instrumentId →
      t.strategy.maker.state.lookup o.instrumentId = some st → st.lastFilled orderId = o.filled
  unseen : ∀ orderId instrumentId st, t.strategy.maker.state.lookup instrumentId = some st →
    t.strategy.maker.orderToInstrument.lookup orderId ≠ some instrumentId →
      st.lastFilled orderId = 0
  inventory : ∀ instrumentId st, t.strategy.maker.state.lookup instrumentId = some st →
    st.inventory = ofE8 (netQty t.orders instrumentId)
  account : WithinReach bound t.orders

section Reports

variable {Sig : Type} {bound : ℚ} {own : Option Nat} {t : Trading Sig} {rpt : ExecReport}
  {o : VenueOrder} {st : InstrumentState}

/-- What a report leaves of the inventory, when the strategy has seen what was filled before. -/
theorem after_inventory_of_seen (hlast : st.lastFilled rpt.orderId = o.filled)
    (hside : rpt.status.isFill = true → rpt.side = o.side) :
    (st.after rpt).inventory =
      st.inventory + ofE8 ((o.reported rpt).gain o.instrumentId - o.gain o.instrumentId) := by
  cases hfill : rpt.status.isFill with
  | true =>
    rw [after_inventory hfill, hlast, hside hfill]
    congr 2
    unfold VenueOrder.gain VenueOrder.reported
    simp only [hfill, if_true]
    cases o.side <;> simp only [OrderSide.signed] <;> omega
  | false =>
    have hsame : (o.reported rpt).gain o.instrumentId = o.gain o.instrumentId := by
      simp only [VenueOrder.gain, VenueOrder.reported, hfill, Bool.false_eq_true, if_false]
    rw [hsame, sub_self, ofE8_zero, add_zero, InstrumentState.after]
    simp only [InstrumentState.recordFill, hfill, Bool.false_eq_true, if_false]
    split <;> rfl

theorem after_lastFilled_of_seen (hlast : st.lastFilled rpt.orderId = o.filled) (orderId : Nat) :
    (st.after rpt).lastFilled orderId =
      if orderId = rpt.orderId then
        if rpt.status.terminal then 0 else (o.reported rpt).filled
      else st.lastFilled orderId := by
  cases hfill : rpt.status.isFill with
  | true =>
    rw [after_lastFilled hfill]
    simp only [VenueOrder.reported, hfill, if_true]
    split
    · next hid => rw [hid, hlast]
    · rfl
  | false =>
    simp only [VenueOrder.reported, hfill, Bool.false_eq_true, if_false, InstrumentState.after,
      InstrumentState.recordFill]
    cases rpt.status.terminal with
    | true =>
      simp only [if_true]
      exact forget_lastFilled rpt.orderId orderId
    | false =>
      simp only [Bool.false_eq_true, if_false]
      split
      · next hid => rw [hid, hlast]
      · rfl

/-- A report of an order that the strategy does not follow brings no fill. -/
theorem Sound.report_unfollowed (h : Sound bound own t) (hhonest : HonestReport own t.orders rpt)
    (ho : t.orders.lookup rpt.orderId = some o)
    (hfollowed : t.strategy.maker.orderToInstrument.lookup rpt.orderId = none) :
    Sound bound own
      { strategy := t.strategy.report rpt
        orders := t.orders.insert rpt.orderId (o.reported rpt) } := by
  have hserved := VenueOrder.served_reported hhonest ho (h.account.filled _ o ho)
  have hfill : rpt.status.isFill = false := by
    cases hfill : rpt.status.isFill with
    | false => rfl
    | true =>
      obtain ⟨-, hlive, -, hown⟩ := hhonest o ho hfill
      rw [h.followed _ o ho hlive hown] at hfollowed
      cases hfollowed
  have hsame : (o.reported rpt).filled = o.filled := by
    simp only [VenueOrder.reported, hfill, Bool.false_eq_true, if_false]
  have hgain : ∀ id, (o.reported rpt).gain id = o.gain id := by
    intro id
    simp only [VenueOrder.gain, hserved.instrumentId, hserved.side, hsame]
  rw [PassiveMakerStrategy.report, onExecReport_of_notFollowed hfollowed]
  -- the order is as it was but for its end
  have hlookup : ∀ {k v}, (t.orders.insert rpt.orderId (o.reported rpt)).lookup k = some v →
      ∃ w, t.orders.lookup k = some w ∧ v.instrumentId = w.instrumentId ∧ v.filled = w.filled ∧
        (v.ended = false → w.ended = false) := by
    intro k v hv
    rw [Table.lookup_insert_eq] at hv
    split at hv
    · next hk =>
      cases hv
      refine ⟨o, hk ▸ ho, rfl, hsame, fun hlive => ?_⟩
      exact (Bool.or_eq_false_iff.mp hlive).1
    · exact ⟨v, hv, rfl, rfl, id⟩
  refine ⟨h.pos, fun k v hv => ?_, fun k v hv => ?_, fun k inst hk => ?_,
    fun k v hv hlive hown => ?_, fun k v hown hv => ?_, fun k v st hv hk hst => ?_, h.unseen,
    fun inst st hst => ?_, h.account.serve ho hserved⟩
  · obtain ⟨w, hw, -⟩ := hlookup hv
    exact h.fresh k w hw
  · obtain ⟨w, hw, hinst, -⟩ := hlookup hv
    rw [hinst]
    exact h.known k w hw
  · obtain ⟨hown, w, hw, hinst⟩ := h.tracked k inst hk
    have hne : k ≠ rpt.orderId := by
      rintro rfl
      rw [hfollowed] at hk
      cases hk
    exact ⟨hown, w, by rw [AList.lookup_insert_ne hne, hw], hinst⟩
  · obtain ⟨w, hw, hinst, -, hopen⟩ := hlookup hv
    rw [hinst]
    exact h.followed k w hw (hopen hlive) hown
  · obtain ⟨w, hw, -, hsame, -⟩ := hlookup hv
    rw [hsame]
    exact h.unfilled k w hown hw
  · obtain ⟨w, hw, hinst, hsame, -⟩ := hlookup hv
    rw [hsame]
    exact h.seen k w st hw (hinst ▸ hk) (hinst ▸ hst)
  · rw [netQty_of_lookup ho, hgain, sub_self, add_zero]
    exact h.inventory inst st hst

/-- A report of an order that the strategy follows, with what it fills of it. -/
theorem Sound.report_followed (h : Sound bound own t) (hhonest : HonestReport own t.orders rpt)
    (ho : t.orders.lookup rpt.orderId = some o)
    (hfollowed : t.strategy.maker.orderToInstrument.lookup rpt.orderId = some o.instrumentId)
    (hst : t.strategy.maker.state.lookup o.instrumentId = some st) :
    Sound bound own
      { strategy := t.strategy.report rpt
        orders := t.orders.insert rpt.orderId (o.reported rpt) } := by
  have hserved := VenueOrder.served_reported hhonest ho (h.account.filled _ o ho)
  have hown := (h.tracked _ _ hfollowed).1
  have hlast := h.seen _ o st ho hfollowed hst
  have hinventory := after_inventory_of_seen hlast fun hfill => (hhonest o ho hfill).1
  have hseen := after_lastFilled_of_seen hlast
  rw [PassiveMakerStrategy.report, onExecReport_of_followed hfollowed hst]
  have hmap : ∀ k inst, (if rpt.status.terminal then
        t.strategy.maker.orderToInstrument.erase rpt.orderId
      else t.strategy.maker.orderToInstrument).lookup k = some inst ↔
        t.strategy.maker.orderToInstrument.lookup k = some inst ∧
          (k = rpt.orderId → rpt.status.terminal = false) := by
    intro k inst
    cases rpt.status.terminal with
    | true =>
      rw [if_pos rfl, Table.lookup_erase_eq]
      split <;> simp_all
    | false => simp
  have hlookup : ∀ {k v}, (t.orders.insert rpt.orderId (o.reported rpt)).lookup k = some v →
      k = rpt.orderId ∧ v = o.reported rpt ∨ k ≠ rpt.orderId ∧ t.orders.lookup k = some v := by
    intro k v hv
    rw [Table.lookup_insert_eq] at hv
    split at hv
    · next hk => exact .inl ⟨hk, (Option.some.inj hv).symm⟩
    · next hk => exact .inr ⟨hk, hv⟩
  have hstate : ∀ {inst st'},
      (t.strategy.maker.state.insert o.instrumentId (st.after rpt)).lookup inst = some st' →
        inst = o.instrumentId ∧ st' = st.after rpt ∨
          inst ≠ o.instrumentId ∧ t.strategy.maker.state.lookup inst = some st' := by
    intro inst st' hst'
    rw [Table.lookup_insert_eq] at hst'
    split at hst'
    · next hinst => exact .inl ⟨hinst, (Option.some.inj hst').symm⟩
    · next hinst => exact .inr ⟨hinst, hst'⟩
  refine ⟨h.pos, fun k v hv => ?_, fun k v hv => ?_, fun k inst hk => ?_,
    fun k v hv hlive hown => ?_, fun k v hk hv => ?_, fun k v st' hv hk hst' => ?_,
    fun k inst st' hst' hk => ?_, fun inst st' hst' => ?_, h.account.serve ho hserved⟩
  · rcases hlookup hv with ⟨rfl, -⟩ | ⟨-, hv⟩
    · exact h.fresh _ o ho
    · exact h.fresh k v hv
  · -- the instruments are the same
    have hinst : ∃ st', t.strategy.maker.state.lookup v.instrumentId = some st' := by
      rcases hlookup hv with ⟨rfl, rfl⟩ | ⟨-, hv⟩
      · exact h.known _ o ho
      · exact h.known k v hv
    rw [Table.lookup_insert_eq]
    split
    · exact ⟨_, rfl⟩
    · exact hinst
  · obtain ⟨hown, w, hw, hinst⟩ := h.tracked k inst ((hmap k inst).mp hk).1
    refine ⟨hown, ?_⟩
    rw [Table.lookup_insert_eq]
    split
    · next hid =>
      rw [hid, ho] at hw
      cases hw
      exact ⟨_, rfl, hinst⟩
    · exact ⟨w, hw, hinst⟩
  · refine (hmap k v.instrumentId).mpr ?_
    rcases hlookup hv with ⟨rfl, rfl⟩ | ⟨hne, hv⟩
    · exact ⟨hfollowed, fun _ => (Bool.or_eq_false_iff.mp hlive).2⟩
    · exact ⟨h.followed k v hv hlive hown, fun hk => absurd hk hne⟩
  · rcases hlookup hv with ⟨rfl, -⟩ | ⟨-, hv⟩
    · exact absurd hk hown
    · exact h.unfilled k v hk hv
  · obtain ⟨hk, hlive⟩ := (hmap k v.instrumentId).mp hk
    rcases hlookup hv with ⟨rfl, rfl⟩ | ⟨hne, hv⟩
    · rcases hstate hst' with ⟨-, rfl⟩ | ⟨hother, -⟩
      · rw [hseen, if_pos rfl, hlive rfl, if_neg Bool.false_ne_true]
      · exact absurd rfl hother
    · rcases hstate hst' with ⟨hinst, rfl⟩ | ⟨-, hst'⟩
      · rw [hseen, if_neg hne]
        exact h.seen k v st hv hk (hinst ▸ hst)
      · exact h.seen k v st' hv hk hst'
  · have hk := mt (hmap k inst).mpr hk
    rcases hstate hst' with ⟨rfl, rfl⟩ | ⟨hother, hst'⟩
    · rw [hseen]
      split
      · next hid =>
        subst hid
        cases hterminal : rpt.status.terminal with
        | true => rfl
        | false => exact absurd ⟨hfollowed, fun _ => hterminal⟩ hk
      · next hid => exact h.unseen k _ st hst fun hk' => hk ⟨hk', fun hid' => absurd hid' hid⟩
    · refine h.unseen k inst st' hst' fun hk' => hk ⟨hk', fun hid => ?_⟩
      rw [hid, hfollowed] at hk'
      cases hk'
      exact absurd rfl hother
  · rw [netQty_of_lookup ho]
    rcases hstate hst' with ⟨rfl, rfl⟩ | ⟨hother, hst'⟩
    · rw [hinventory, h.inventory _ st hst, ← ofE8_add]
    · have hzero : (o.reported rpt).gain inst - o.gain inst = 0 := by
        simp only [VenueOrder.gain, hserved.instrumentId, Ne.symm hother, if_false, sub_self]
      rw [hzero, add_zero]
      exact h.inventory inst st' hst'

/-- A report keeps the strategy's account in step with the venue's. -/
theorem Sound.report (h : Sound bound own t) (hhonest : HonestReport own t.orders rpt) :
    Sound bound own
      { strategy := t.strategy.report rpt, orders := record t.orders (.report rpt) } := by
  cases ho : t.orders.lookup rpt.orderId with
  | none =>
    -- the strategy follows no order that the venue does not know
    have hunknown : t.strategy.maker.orderToInstrument.lookup rpt.orderId = none := by
      cases hfollowed : t.strategy.maker.orderToInstrument.lookup rpt.orderId with
      | none => rfl
      | some inst =>
        obtain ⟨-, o, hknown, -⟩ := h.tracked _ _ hfollowed
        rw [ho] at hknown
        cases hknown
    rw [record_report_of_none ho, PassiveMakerStrategy.report, onExecReport_of_notFollowed hunknown]
    exact h
  | some o =>
    have hserved := VenueOrder.served_reported hhonest ho (h.account.filled _ o ho)
    rw [lookup_record_report ho]
    cases hfollowed : t.strategy.maker.orderToInstrument.lookup rpt.orderId with
    | none => exact h.report_unfollowed hhonest ho hfollowed
    | some inst =>
      obtain ⟨hown, o', ho', hinst⟩ := h.tracked _ _ hfollowed
      rw [ho] at ho'
      cases ho'
      subst hinst
      obtain ⟨st, hst⟩ := h.known _ o ho
      exact h.report_followed hhonest ho hfollowed hst

end Reports

/-! ## Sends -/

section Sends

variable {Sig : Type} {bound : ℚ} {own : Option Nat} {t : Trading Sig}

/-- The order of a send, as the venue takes it. -/
def venueOrder (order : OutboundNewOrder) (accepted : Bool) : VenueOrder where
  instrumentId := order.instrumentId
  side := order.side
  quantity := order.quantity
  ended := !accepted

theorem Sound.unknown (h : Sound bound own t) {orderId : Nat}
    (hid : orderId = t.strategy.nextOrderId) : t.orders.lookup orderId = none := by
  cases hold : t.orders.lookup orderId with
  | none => rfl
  | some o =>
    have hlt := h.fresh _ o hold
    omega

/-- An order goes out under the next id, which the strategy follows from the return of the call
on. -/
theorem Sound.begin (h : Sound bound none t) {order : OutboundNewOrder} {accepted : Bool}
    (hid : order.orderId = t.strategy.nextOrderId)
    (hknown : ∃ st, t.strategy.maker.state.lookup order.instrumentId = some st)
    (hroom : accepted = true → NoneOpen t.orders order.instrumentId order.side ∧
      ofE8 (reach t.orders order.instrumentId order.side + order.quantity) ≤ bound) :
    Sound bound (some order.orderId)
      { strategy := { t.strategy with nextOrderId := t.strategy.nextOrderId + 1 }
        orders := record t.orders (.sent order accepted) } := by
  have hnew := h.unknown hid
  have hlookup : ∀ {k v}, (record t.orders (.sent order accepted)).lookup k = some v →
      k = order.orderId ∧ v = venueOrder order accepted ∨
        k ≠ order.orderId ∧ t.orders.lookup k = some v := by
    intro k v hv
    rw [record, Table.lookup_insert_eq] at hv
    split at hv
    · next hk => exact .inl ⟨hk, (Option.some.inj hv).symm⟩
    · next hk => exact .inr ⟨hk, hv⟩
  have htracked : ∀ k inst, t.strategy.maker.orderToInstrument.lookup k = some inst →
      k ≠ order.orderId := by
    rintro k inst hk rfl
    obtain ⟨-, w, hw, -⟩ := h.tracked _ inst hk
    rw [hnew] at hw
    cases hw
  refine ⟨Nat.succ_pos _, fun k v hv => ?_, fun k v hv => ?_, fun k inst hk => ?_,
    fun k v hv hlive hown => ?_, fun k v hk hv => ?_, fun k v st hv hk hst => ?_, h.unseen,
    fun inst st hst => ?_, ?_⟩
  · show k < t.strategy.nextOrderId + 1
    rcases hlookup hv with ⟨rfl, -⟩ | ⟨-, hv⟩
    · omega
    · exact Nat.lt_succ_of_lt (h.fresh k v hv)
  · rcases hlookup hv with ⟨-, rfl⟩ | ⟨-, hv⟩
    · exact hknown
    · exact h.known k v hv
  · have hne := htracked k inst hk
    obtain ⟨-, w, hw, hinst⟩ := h.tracked k inst hk
    refine ⟨fun heq => hne (Option.some.inj heq).symm, w, ?_, hinst⟩
    rw [record, AList.lookup_insert_ne hne, hw]
  · rcases hlookup hv with ⟨rfl, -⟩ | ⟨-, hv⟩
    · exact absurd rfl hown
    · exact h.followed k v hv hlive (nomatch ·)
  · rcases hlookup hv with ⟨-, rfl⟩ | ⟨hne, -⟩
    · rfl
    · exact absurd (Option.some.inj hk).symm hne
  · rcases hlookup hv with ⟨rfl, -⟩ | ⟨-, hv⟩
    · exact absurd rfl (htracked _ _ hk)
    · exact h.seen k v st hv hk hst
  · rw [record, netQty_of_new hnew, VenueOrder.gain_of_unfilled rfl, add_zero]
    exact h.inventory inst st hst
  · refine h.account.send hnew rfl fun hlive => hroom ?_
    simpa using hlive

/-- Nothing is asked of the rest of a state. -/
theorem Sound.congr (h : Sound bound own t) {s : PassiveMakerStrategy Sig}
    (hnext : s.nextOrderId = t.strategy.nextOrderId)
    (hmap : s.maker.orderToInstrument = t.strategy.maker.orderToInstrument)
    (hknown : ∀ inst st, t.strategy.maker.state.lookup inst = some st →
      ∃ st', s.maker.state.lookup inst = some st')
    (hstate : ∀ inst st', s.maker.state.lookup inst = some st' →
      ∃ st, t.strategy.maker.state.lookup inst = some st ∧ st'.inventory = st.inventory ∧
        st'.lastFilledQtyE8 = st.lastFilledQtyE8) :
    Sound bound own { strategy := s, orders := t.orders } := by
  refine ⟨hnext ▸ h.pos, hnext ▸ h.fresh, fun k v hv => ?_, hmap ▸ h.tracked,
    hmap ▸ h.followed, h.unfilled, fun k v st' hv hk hst' => ?_, fun k inst st' hst' hk => ?_,
    fun inst st' hst' => ?_, h.account⟩
  · obtain ⟨st, hst⟩ := h.known k v hv
    exact hknown _ st hst
  · obtain ⟨st, hst, -, hlast⟩ := hstate _ st' hst'
    rw [InstrumentState.lastFilled, hlast]
    exact h.seen k v st hv (hmap ▸ hk) hst
  · obtain ⟨st, hst, -, hlast⟩ := hstate inst st' hst'
    rw [InstrumentState.lastFilled, hlast]
    exact h.unseen k inst st hst (hmap ▸ hk)
  · obtain ⟨st, hst, hinv, -⟩ := hstate inst st' hst'
    rw [hinv]
    exact h.inventory inst st hst

/-- The ids of the quotes play no part. -/
theorem Sound.assign (h : Sound bound own t) (instrumentId : Nat) (side : OrderSide)
    (orderId : Nat) :
    Sound bound own
      { strategy := t.strategy.assign instrumentId side orderId, orders := t.orders } := by
  unfold PassiveMakerStrategy.assign
  cases hst : t.strategy.maker.state.lookup instrumentId with
  | none => exact h
  | some st =>
    refine h.congr rfl rfl (fun inst st' hst' => ?_) fun inst st' hst' => ?_
    · rw [Table.lookup_insert_eq]
      split
      · exact ⟨_, rfl⟩
      · exact ⟨st', hst'⟩
    · rw [Table.lookup_insert_eq] at hst'
      split at hst'
      · next hinst =>
        cases hst'
        exact ⟨st, hinst ▸ hst, by cases side <;> rfl, by cases side <;> rfl⟩
      · exact ⟨st', hst', rfl, rfl⟩

/-- The order is followed when the call has returned with it. -/
theorem Sound.placed {orderId : Nat} (h : Sound bound (some orderId) t) {o : VenueOrder}
    (ho : t.orders.lookup orderId = some o) :
    Sound bound none
      { strategy := { t.strategy with maker := t.strategy.maker.placed orderId o.instrumentId }
        orders := t.orders } := by
  have hmap : ∀ k inst, (t.strategy.maker.placed orderId o.instrumentId).orderToInstrument.lookup k
      = some inst ↔ k = orderId ∧ inst = o.instrumentId ∨
        k ≠ orderId ∧ t.strategy.maker.orderToInstrument.lookup k = some inst := by
    intro k inst
    rw [PassiveMaker.placed, Table.lookup_insert_eq]
    split
    · next hk =>
      constructor
      · intro heq
        exact .inl ⟨hk, (Option.some.inj heq).symm⟩
      · rintro (⟨-, rfl⟩ | ⟨hne, -⟩)
        · rfl
        · exact absurd hk hne
    · next hk =>
      constructor
      · exact fun heq => .inr ⟨hk, heq⟩
      · rintro (⟨heq, -⟩ | ⟨-, heq⟩)
        · exact absurd heq hk
        · exact heq
  have hunknown : ∀ inst, t.strategy.maker.orderToInstrument.lookup orderId ≠ some inst :=
    fun inst hk => (h.tracked orderId inst hk).1 rfl
  refine ⟨h.pos, h.fresh, h.known, fun k inst hk => ⟨nofun, ?_⟩, fun k v hv hlive _ => ?_, nofun,
    fun k v st hv hk hst => ?_, fun k inst st hst hk => ?_, h.inventory, h.account⟩
  · rcases (hmap k inst).mp hk with ⟨rfl, rfl⟩ | ⟨-, hk⟩
    · exact ⟨o, ho, rfl⟩
    · exact (h.tracked k inst hk).2
  · refine (hmap k v.instrumentId).mpr ?_
    by_cases hid : k = orderId
    · subst hid
      rw [ho] at hv
      cases hv
      exact .inl ⟨rfl, rfl⟩
    · exact .inr ⟨hid, h.followed k v hv hlive fun heq => hid (Option.some.inj heq).symm⟩
  · rcases (hmap k v.instrumentId).mp hk with ⟨rfl, -⟩ | ⟨-, hk⟩
    · rw [h.unfilled k v rfl hv]
      exact h.unseen k _ st hst (hunknown _)
    · exact h.seen k v st hv hk hst
  · refine h.unseen k inst st hst fun hk' => hk ((hmap k inst).mpr (.inr ⟨?_, hk'⟩))
    rintro rfl
    exact hunknown inst hk'

/-- An order that the gateway refused is not followed, nor need it be. -/
theorem Sound.refused {orderId : Nat} (h : Sound bound (some orderId) t) {o : VenueOrder}
    (ho : t.orders.lookup orderId = some o) (hended : o.ended = true) : Sound bound none t := by
  refine ⟨h.pos, h.fresh, h.known, fun k inst hk => ⟨nofun, (h.tracked k inst hk).2⟩,
    fun k v hv hlive _ => ?_, nofun, h.seen, h.unseen, h.inventory, h.account⟩
  refine h.followed k v hv hlive fun heq => ?_
  cases heq
  rw [ho] at hv
  cases hv
  rw [hended] at hlive
  cases hlive

end Sends

/-! ## Calls -/

/-- What a call leaves. -/
def Trading.called {Sig : Type} (t : Trading Sig)
    (r : PassiveMakerStrategy Sig × List VenueEvent) : Trading Sig where
  strategy := r.1
  orders := r.2.foldl record t.orders

theorem HonestEvents.append {own : Option Nat} {orders : Table Nat VenueOrder}
    {es fs : List VenueEvent} :
    HonestEvents own orders (es ++ fs) ↔ HonestEvents own orders es ∧
      HonestEvents (es.foldl ownAfter own) (es.foldl record orders) fs := by
  induction es generalizing own orders with
  | nil => exact (iff_of_eq (true_and _)).symm
  | cons e es ih =>
    show HonestEvent own orders e ∧ HonestEvents _ _ (es ++ fs) ↔ _
    rw [ih, ← and_assoc]
    exact Iff.rfl

section Calls

variable {Sig : Type} {cfg : Config Sig} {env : QuoteSurroundings} {bound : ℚ}
  {own : Option Nat} {t : Trading Sig}

theorem Sound.reports (h : Sound bound own t) {reports : List ExecReport}
    (hhonest : HonestEvents own t.orders (reports.map .report)) :
    Sound bound own
      (t.called (reports.foldl PassiveMakerStrategy.report t.strategy, reports.map .report)) := by
  induction reports generalizing t with
  | nil => exact h
  | cons rpt reports ih => exact ih (h.report hhonest.1) hhonest.2

theorem Sound.reach_reports_le (h : Sound bound own t) {reports : List ExecReport}
    (hhonest : HonestEvents own t.orders (reports.map .report)) (instrumentId : Nat)
    (side : OrderSide) :
    reach ((reports.map .report).foldl record t.orders) instrumentId side ≤
      reach t.orders instrumentId side := by
  induction reports generalizing t with
  | nil => exact le_rfl
  | cons rpt reports ih =>
    have hrest : reach ((reports.map .report).foldl record (record t.orders (.report rpt)))
        instrumentId side ≤ reach (record t.orders (.report rpt)) instrumentId side :=
      ih (h.report hhonest.1) hhonest.2
    refine hrest.trans ?_
    cases ho : t.orders.lookup rpt.orderId with
    | none => rw [record_report_of_none ho]
    | some o =>
      have hserved := VenueOrder.served_reported hhonest.1 ho (h.account.filled _ o ho)
      have hle := hserved.reach_le instrumentId side
      rw [lookup_record_report ho, reach_of_lookup ho]
      omega

theorem Sound.cancelSide (h : Sound bound none t) {instrumentId : Nat} {side : OrderSide}
    (hhonest :
      HonestEvents own t.orders (t.strategy.cancelSide cfg env instrumentId side).2) :
    Sound bound none (t.called (t.strategy.cancelSide cfg env instrumentId side)) := by
  unfold PassiveMakerStrategy.cancelSide at hhonest ⊢
  cases hst : t.strategy.maker.state.lookup instrumentId with
  | none => exact h
  | some st =>
    simp only [hst] at hhonest ⊢
    split at hhonest
    · next hcancels =>
      rw [if_pos hcancels]
      exact (h.reports hhonest.2).assign instrumentId side 0
    · next hnone =>
      rw [if_neg hnone]
      exact h

/-- The strategy keeps its account over the cancels, from inside which nothing is sent. -/
theorem Sound.cancelQuotes (h : Sound bound none t) {instrumentId : Nat}
    (hhonest : HonestEvents own t.orders (t.strategy.cancelQuotes cfg env instrumentId).2) :
    Sound bound none (t.called (t.strategy.cancelQuotes cfg env instrumentId)) := by
  obtain ⟨hbids, hasks⟩ := HonestEvents.append.mp hhonest
  have hbid := h.cancelSide hbids
  have hask := hbid.cancelSide (t := t.called _) hasks
  unfold Trading.called at hask ⊢
  rw [PassiveMakerStrategy.cancelQuotes, List.foldl_append]
  exact hask

theorem cancelSide_unsent (s : PassiveMakerStrategy Sig) (instrumentId : Nat) (side : OrderSide)
    (order : OutboundNewOrder) (accepted : Bool) :
    .sent order accepted ∉ (s.cancelSide cfg env instrumentId side).2 := by
  unfold PassiveMakerStrategy.cancelSide
  cases s.maker.state.lookup instrumentId with
  | none => exact List.not_mem_nil
  | some st =>
    dsimp only
    split
    · simp
    · exact List.not_mem_nil

theorem cancelQuotes_unsent (s : PassiveMakerStrategy Sig) (instrumentId : Nat)
    (order : OutboundNewOrder) (accepted : Bool) :
    .sent order accepted ∉ (s.cancelQuotes cfg env instrumentId).2 := by
  unfold PassiveMakerStrategy.cancelQuotes
  rw [List.mem_append, not_or]
  exact ⟨cancelSide_unsent s instrumentId .BUY order accepted,
    cancelSide_unsent _ instrumentId .SELL order accepted⟩

/-- The last event of an order is its end, once it has one. -/
theorem ended_of_reports {reports : List ExecReport} {orders : Table Nat VenueOrder}
    {orderId : Nat} {o : VenueOrder} (ho : orders.lookup orderId = some o) :
    ∃ o', ((reports.map VenueEvent.report).foldl record orders).lookup orderId = some o' ∧
      o'.instrumentId = o.instrumentId ∧ (o.ended = true → o'.ended = true) := by
  induction reports generalizing orders o with
  | nil => exact ⟨o, ho, rfl, id⟩
  | cons rpt reports ih =>
    have hnext : ∃ o', (record orders (.report rpt)).lookup orderId = some o' ∧
        o'.instrumentId = o.instrumentId ∧ (o.ended = true → o'.ended = true) := by
      cases hold : orders.lookup rpt.orderId with
      | none => exact ⟨o, (record_report_of_none hold).symm ▸ ho, rfl, id⟩
      | some old =>
        rw [lookup_record_report hold, Table.lookup_insert_eq]
        split
        · next hid =>
          rw [← hid, ho] at hold
          cases hold
          exact ⟨_, rfl, rfl, fun hended => by simp [VenueOrder.reported, hended]⟩
        · exact ⟨o, ho, rfl, id⟩
    obtain ⟨mid, hmid, hinst, hended⟩ := hnext
    obtain ⟨o', ho', hinst', hended'⟩ := ih hmid
    exact ⟨o', ho', hinst'.trans hinst, fun h => hended' (hended h)⟩

/-- The order of a request, when it reaches the gateway. -/
def Sends (env : QuoteSurroundings) (s : PassiveMakerStrategy Sig) (request : NewOrderRequest)
    (P : OutboundNewOrder → Prop) : Prop :=
  ∀ price quantity symbol,
    normaliseAndValidate env.cache request.instrumentId request.side request.type request.price
        request.qty = some (price, quantity, symbol) →
      P (OrderSends.outbound { nextOrderId := s.nextOrderId } request price quantity symbol)

/-- A send keeps the account when its side has no open order and room for the quantity, and takes
no other side further. -/
theorem Sound.sendNewOrder (h : Sound bound none t) (request : NewOrderRequest)
    (hknown : ∃ st, t.strategy.maker.state.lookup request.instrumentId = some st)
    (hfree : NoneOpen t.orders request.instrumentId request.side)
    (hroom : Sends env t.strategy request fun order =>
      ofE8 (reach t.orders request.instrumentId request.side + order.quantity) ≤ bound)
    (hhonest : HonestEvents own t.orders (t.strategy.sendNewOrder env request).2.2) :
    Sound bound none
        (t.called ((t.strategy.sendNewOrder env request).1,
          (t.strategy.sendNewOrder env request).2.2)) ∧
      ∀ side, side ≠ request.side →
        reach ((t.strategy.sendNewOrder env request).2.2.foldl record t.orders)
            request.instrumentId side ≤ reach t.orders request.instrumentId side := by
  unfold PassiveMakerStrategy.sendNewOrder at hhonest ⊢
  cases hvalid : normaliseAndValidate env.cache request.instrumentId request.side request.type
      request.price request.qty with
  | none => exact ⟨h, fun _ _ => le_rfl⟩
  | some sized =>
    obtain ⟨price, quantity, symbol⟩ := sized
    simp only [hvalid] at hhonest ⊢
    have hroom := hroom price quantity symbol hvalid
    generalize hout : OrderSends.outbound { nextOrderId := t.strategy.nextOrderId } request price
      quantity symbol = order at hroom hhonest ⊢
    have hid : order.orderId = t.strategy.nextOrderId := by rw [← hout]; rfl
    have hinst : order.instrumentId = request.instrumentId := by rw [← hout]; rfl
    have hside : order.side = request.side := by rw [← hout]; rfl
    have hbegin : Sound bound (some order.orderId)
        { strategy := { t.strategy with nextOrderId := t.strategy.nextOrderId + 1 }
          orders := record t.orders (.sent order (env.gateway order).accepted) } := by
      refine h.begin hid (hinst ▸ hknown) fun _ => ?_
      rw [hinst, hside]
      exact ⟨hfree, hroom⟩
    have hevents : HonestEvents (some order.orderId)
        (record t.orders (.sent order (env.gateway order).accepted))
        ((env.gateway order).reports.map .report) := by
      split at hhonest <;> exact hhonest.2
    have hreports := hbegin.reports hevents
    have hother : ∀ side, side ≠ request.side →
        reach (record t.orders (.sent order (env.gateway order).accepted)) request.instrumentId side
          = reach t.orders request.instrumentId side := by
      intro side hne
      rw [record, reach_of_new (h.unknown hid), VenueOrder.reach, VenueOrder.gain_of_unfilled rfl,
        VenueOrder.openQty, VenueOrder.opens]
      have hne : order.side ≠ side := fun heq => hne (heq.symm.trans hside)
      cases side <;> simp [hne, OrderSide.signed]
    have hle : ∀ side, side ≠ request.side →
        reach (((env.gateway order).reports.map VenueEvent.report).foldl record
          (record t.orders (.sent order (env.gateway order).accepted))) request.instrumentId side ≤
            reach t.orders request.instrumentId side :=
      fun side hne => (hbegin.reach_reports_le hevents _ side).trans (hother side hne).le
    have hown : (record t.orders (.sent order (env.gateway order).accepted)).lookup order.orderId =
        some (venueOrder order (env.gateway order).accepted) := AList.lookup_insert _
    obtain ⟨o, ho, hsame, hended⟩ := ended_of_reports hown
    have hsame : o.instrumentId = request.instrumentId := hsame.trans hinst
    split
    · rw [← hsame]
      exact ⟨hreports.placed ho, hsame ▸ hle⟩
    · next hrefused =>
      refine ⟨hreports.refused ho (hended ?_), hle⟩
      have hpos := h.pos
      have hne : order.orderId ≠ 0 := by omega
      simpa [venueOrder, hne] using hrefused

/-- The order of a request is among the events of its send. -/
theorem sends_of_events {s : PassiveMakerStrategy Sig} {request : NewOrderRequest}
    {P : OutboundNewOrder → Prop}
    (h : ∀ order accepted, .sent order accepted ∈ (s.sendNewOrder env request).2.2 → P order) :
    Sends env s request P := by
  intro price quantity symbol hvalid
  refine h _ (env.gateway (OrderSends.outbound { nextOrderId := s.nextOrderId } request price
    quantity symbol)).accepted ?_
  unfold PassiveMakerStrategy.sendNewOrder
  simp only [hvalid]
  split <;> exact List.mem_cons_self

theorem sent_side {s : PassiveMakerStrategy Sig} {request : NewOrderRequest}
    {order : OutboundNewOrder} {accepted : Bool}
    (h : .sent order accepted ∈ (s.sendNewOrder env request).2.2) : order.side = request.side := by
  unfold PassiveMakerStrategy.sendNewOrder at h
  cases hvalid : normaliseAndValidate env.cache request.instrumentId request.side request.type
      request.price request.qty with
  | none =>
    rw [hvalid] at h
    exact absurd h List.not_mem_nil
  | some sized =>
    simp only [hvalid] at h
    split at h
    · simp only [List.mem_cons, VenueEvent.sent.injEq, List.mem_map, reduceCtorEq, and_false,
        exists_false, or_false] at h
      rw [h.1]
      rfl
    · simp only [List.mem_cons, VenueEvent.sent.injEq, List.mem_map, reduceCtorEq, and_false,
        exists_false, or_false] at h
      rw [h.1]
      rfl

/-- A side is placed with no open order of it and room for the quantity. -/
theorem Sound.placeSide (h : Sound bound none t) {instrumentId : Nat} {exchangeId : ExchangeId}
    {q : QuoteState Sig} {side : OrderSide} {price : ℚ}
    (hknown : ∃ st, t.strategy.maker.state.lookup instrumentId = some st)
    (hfree : NoneOpen t.orders instrumentId side)
    (hroom : ∀ event ∈ (t.strategy.placeSide cfg env instrumentId exchangeId q side price).2,
      ofE8 (reach t.orders instrumentId side + sentQuantity event) ≤ bound)
    (hhonest : HonestEvents own t.orders
      (t.strategy.placeSide cfg env instrumentId exchangeId q side price).2) :
    Sound bound none
        (t.called (t.strategy.placeSide cfg env instrumentId exchangeId q side price)) ∧
      ∀ other, other ≠ side →
        reach ((t.strategy.placeSide cfg env instrumentId exchangeId q side price).2.foldl record
          t.orders) instrumentId other ≤ reach t.orders instrumentId other := by
  unfold PassiveMakerStrategy.placeSide at hroom hhonest ⊢
  split at hhonest
  · next hmgr =>
    simp only [if_pos hmgr] at hroom ⊢
    have hroom : Sends env t.strategy (quoteRequest cfg instrumentId exchangeId q side price)
        fun order => ofE8 (reach t.orders instrumentId side + order.quantity) ≤ bound :=
      sends_of_events fun order accepted hsent => hroom (.sent order accepted) hsent
    obtain ⟨hsound, hle⟩ :=
      h.sendNewOrder (quoteRequest cfg instrumentId exchangeId q side price) hknown hfree hroom
        hhonest
    exact ⟨hsound.assign instrumentId side _, hle⟩
  · next hmgr =>
    simp only [if_neg hmgr]
    exact ⟨h.assign instrumentId side 0, fun _ _ => le_rfl⟩

theorem placeSide_sent {s : PassiveMakerStrategy Sig} {instrumentId : Nat}
    {exchangeId : ExchangeId} {q : QuoteState Sig} {side : OrderSide} {price : ℚ}
    {order : OutboundNewOrder} {accepted : Bool}
    (h : .sent order accepted ∈ (s.placeSide cfg env instrumentId exchangeId q side price).2) :
    order.side = side := by
  unfold PassiveMakerStrategy.placeSide at h
  split at h
  · exact sent_side h
  · exact absurd h List.not_mem_nil

theorem Sound.market (h : Sound bound own t) (quotes : Table Nat (QuoteState Sig)) :
    Sound bound own { strategy := { t.strategy with quotes := quotes }, orders := t.orders } :=
  h.congr rfl rfl (fun _ st hst => ⟨st, hst⟩) fun _ st hst => ⟨st, hst, rfl, rfl⟩

theorem Sound.remember (h : Sound bound own t) (instrumentId : Nat) (fv bidPx askPx : ℚ) :
    Sound bound own
      { strategy := t.strategy.remember instrumentId fv bidPx askPx, orders := t.orders } := by
  unfold PassiveMakerStrategy.remember
  split
  · exact h.market _
  · exact h

/-- A side that the inventory leaves room for. -/
theorem signed_lt_of_posts {qs : QuoteState Sig} {inventory fv : ℚ} {side : OrderSide} {n : Int}
    (hn : inventory = ofE8 n) (h : posts cfg qs inventory fv side = true) :
    ofE8 (side.signed n) < cfg.maxInventory := by
  unfold posts at h
  rw [Bool.and_eq_true] at h
  cases side with
  | BUY =>
    rw [← show inventory = ofE8 (OrderSide.BUY.signed n) from hn]
    exact of_decide_eq_true h.1
  | SELL =>
    rw [show OrderSide.SELL.signed n = -n from rfl, ofE8_neg, ← hn]
    have hroom : inventory > -cfg.maxInventory := of_decide_eq_true h.1
    exact neg_lt.mp hroom

/-! ### Instruments stay -/

theorem exchangeOf_reports (reports : List ExecReport) (s : PassiveMakerStrategy Sig)
    (inst : Nat) :
    (reports.foldl report s).maker.exchangeOf inst = s.maker.exchangeOf inst := by
  induction reports generalizing s with
  | nil => rfl
  | cons rpt reports ih => exact (ih (s.report rpt)).trans (exchangeOf_onExecReport inst)

theorem exchangeOf_assign (s : PassiveMakerStrategy Sig) (instrumentId : Nat) (side : OrderSide)
    (orderId inst : Nat) :
    (s.assign instrumentId side orderId).maker.exchangeOf inst = s.maker.exchangeOf inst := by
  unfold assign
  cases hst : s.maker.state.lookup instrumentId with
  | none => rfl
  | some st =>
    simp only [exchangeOf, Table.lookup_insert_eq]
    split
    · next hinst =>
      rw [hinst, hst]
      cases side <;> rfl
    · rfl

theorem exchangeOf_placeSide (s : PassiveMakerStrategy Sig) (instrumentId : Nat)
    (exchangeId : ExchangeId) (qs : QuoteState Sig) (side : OrderSide) (price : ℚ) (inst : Nat) :
    (s.placeSide cfg env instrumentId exchangeId qs side price).1.maker.exchangeOf inst =
      s.maker.exchangeOf inst := by
  unfold placeSide sendNewOrder
  split
  · dsimp only
    rw [exchangeOf_assign]
    split
    · rfl
    · split <;> exact exchangeOf_reports _ _ inst
  · exact exchangeOf_assign s instrumentId side 0 inst

theorem lookup_of_exchangeOf {pm : PassiveMaker} {inst : Nat} {exchangeId : ExchangeId}
    (h : pm.exchangeOf inst = some exchangeId) : ∃ st, pm.state.lookup inst = some st := by
  obtain ⟨st, hst, -⟩ := Option.map_eq_some_iff.mp h
  exact ⟨st, hst⟩

/-! ### Both sides -/

/-- A side that is free, with room for a quote. -/
def Free (cfg : Config Sig) (orders : Table Nat VenueOrder) (instrumentId : Nat)
    (side : OrderSide) : Prop :=
  NoneOpen orders instrumentId side ∧ ofE8 (reach orders instrumentId side) < cfg.maxInventory

/-- A quote of fixed size, placed where there is room for it, or left out, leaves the other side as
free as it was. -/
theorem Sound.placeQuote {q : Nat} (h : Sound (cfg.maxInventory + ofE8 q) none t)
    {instrumentId : Nat} {exchangeId : ExchangeId} {qs : QuoteState Sig} {side : OrderSide}
    {price : ℚ} {due : Bool} {r : PassiveMakerStrategy Sig × List VenueEvent}
    (hr : r = if due then t.strategy.placeSide cfg env instrumentId exchangeId qs side price
      else (t.strategy, []))
    (hknown : ∃ st, t.strategy.maker.state.lookup instrumentId = some st)
    (hfree : due = true → Free cfg t.orders instrumentId side)
    (hsize : ∀ event ∈ r.2, sentQuantity event ≤ q) (hhonest : HonestEvents own t.orders r.2) :
    Sound (cfg.maxInventory + ofE8 q) none (t.called r) ∧
      ∀ other, other ≠ side → Free cfg t.orders instrumentId other →
        Free cfg (r.2.foldl record t.orders) instrumentId other := by
  cases due with
  | false =>
    subst hr
    exact ⟨h, fun _ _ hother => hother⟩
  | true =>
    rw [if_pos rfl] at hr
    subst hr
    obtain ⟨hnone, hroom⟩ := hfree rfl
    obtain ⟨hsound, hle⟩ := h.placeSide hknown hnone (fun event hevent => by
      rw [ofE8_add]
      exact add_le_add hroom.le (ofE8_le_iff.mpr (Int.ofNat_le.mpr (hsize event hevent)))) hhonest
    refine ⟨hsound, fun other hne hother => ⟨hother.1.events fun order accepted hsent _ hsame => ?_,
      lt_of_le_of_lt (ofE8_le_iff.mpr (hle other hne)) hother.2⟩⟩
    exact hne (hsame.2.symm.trans (placeSide_sent hsent))

theorem Sound.requote {q : Nat} (h : Sound (cfg.maxInventory + ofE8 q) none t)
    {instrumentId : Nat} {qs : QuoteState Sig} {fv : ℚ}
    (hconfirmed : ∀ st, (t.strategy.cancelQuotes cfg env instrumentId).1.maker.state.lookup
        instrumentId = some st → ∀ side, posts cfg qs st.inventory fv side = true →
      Confirmed t.orders (t.strategy.cancelQuotes cfg env instrumentId).2 instrumentId side)
    (hsize : ∀ event ∈ (t.strategy.requote cfg env instrumentId qs fv).2, sentQuantity event ≤ q)
    (hhonest : HonestEvents own t.orders (t.strategy.requote cfg env instrumentId qs fv).2) :
    Sound (cfg.maxInventory + ofE8 q) none
      (t.called (t.strategy.requote cfg env instrumentId qs fv)) := by
  have hunsent : ∀ order accepted,
      .sent order accepted ∉ (t.strategy.cancelQuotes cfg env instrumentId).2 :=
    cancelQuotes_unsent t.strategy instrumentId
  have hcancel : ∀ own, HonestEvents own t.orders
        (t.strategy.cancelQuotes cfg env instrumentId).2 → Sound (cfg.maxInventory + ofE8 q) none
      (t.called (t.strategy.cancelQuotes cfg env instrumentId)) := fun _ hevents =>
    h.cancelQuotes hevents
  unfold PassiveMakerStrategy.requote at hsize hhonest ⊢
  generalize t.strategy.cancelQuotes cfg env instrumentId = cancelled at *
  cases hst : cancelled.1.maker.state.lookup instrumentId with
  | none =>
    simp only [hst] at hhonest ⊢
    exact hcancel own hhonest
  | some st =>
    simp only [hst] at hsize hhonest ⊢
    rw [List.append_assoc] at hsize hhonest ⊢
    obtain ⟨hcancelled, hplaced⟩ := HonestEvents.append.mp hhonest
    obtain ⟨hbid, hask⟩ := HonestEvents.append.mp hplaced
    have h₀ := hcancel own hcancelled
    have hfree : ∀ side, posts cfg qs st.inventory fv side = true →
        Free cfg (cancelled.2.foldl record t.orders) instrumentId side := by
      intro side hposts
      have hnone := noneOpen_of_confirmed (hconfirmed st hst side hposts) hunsent
      refine ⟨hnone, ?_⟩
      rw [reach_of_noneOpen hnone]
      exact signed_lt_of_posts (h₀.inventory instrumentId st hst) hposts
    generalize hb : (if posts cfg qs st.inventory fv .BUY = true then _ else _) = bid at *
    obtain ⟨h₁, hother⟩ := h₀.placeQuote hb.symm ⟨st, hst⟩ (hfree .BUY)
      (fun event hevent => hsize event (List.mem_append_right _ (List.mem_append_left _ hevent)))
      hbid
    have hknown : ∃ st, bid.1.maker.state.lookup instrumentId = some st := by
      have hexchange : cancelled.1.maker.exchangeOf instrumentId = some st.exchangeId := by
        rw [exchangeOf, hst]
        rfl
      have hkept : bid.1.maker.exchangeOf instrumentId = some st.exchangeId := by
        rw [← hb, ← hexchange]
        split
        · exact exchangeOf_placeSide ..
        · rfl
      exact lookup_of_exchangeOf hkept
    obtain ⟨h₂, -⟩ := h₁.placeQuote rfl hknown
      (fun hposts => hother .SELL (by decide) (hfree .SELL hposts))
      (fun event hevent => hsize event (List.mem_append_right _ (List.mem_append_right _ hevent)))
      hask
    have hremembered := h₂.remember instrumentId fv
      (quotePrice cfg qs st.inventory fv .BUY) (quotePrice cfg qs st.inventory fv .SELL)
    unfold Trading.called at hremembered ⊢
    rw [List.foldl_append, List.foldl_append]
    exact hremembered

/-! ### Callbacks -/

theorem Sound.onBbo {q : Nat} (h : Sound (cfg.maxInventory + ofE8 q) none t) {tick : MdMarketData}
    (hconfirmed : t.ConfirmedInTime cfg env (.bbo tick))
    (hsize : ∀ event ∈ (t.strategy.onBbo cfg env tick).2, sentQuantity event ≤ q)
    (hhonest : HonestEvents own t.orders (t.strategy.onBbo cfg env tick).2) :
    Sound (cfg.maxInventory + ofE8 q) none (t.called (t.strategy.onBbo cfg env tick)) := by
  unfold PassiveMakerStrategy.onBbo at hsize hhonest ⊢
  unfold Trading.ConfirmedInTime requoting at hconfirmed
  cases hst : t.strategy.maker.state.lookup tick.instrumentId with
  | none => exact h
  | some st =>
    cases hq : t.strategy.quotes.lookup tick.instrumentId with
    | none => exact h
    | some qs =>
      simp only [hst, hq] at hconfirmed hsize hhonest ⊢
      have hmarket := h.market
        (t.strategy.quotes.insert tick.instrumentId (decision cfg env st qs tick).1)
      generalize decision cfg env st qs tick = decided at *
      obtain ⟨qs', decided⟩ := decided
      cases decided with
      | nothing => exact hmarket
      | cancel => exact hmarket.cancelQuotes hhonest
      | requote qs fv =>
        refine hmarket.requote (fun st hst side hposts => ?_) hsize hhonest
        exact hconfirmed _ rfl st hst side (by cases side <;> simp) hposts

/-- The side that closes an inventory reaches as far as the inventory does, the other way. -/
theorem signed_unwindSide (n : Int) : (unwindSide (ofE8 n)).signed n = -(n.natAbs : Int) := by
  unfold unwindSide
  split
  · next hlong =>
    have hpos : 0 < n := by
      rw [gt_iff_lt, ← ofE8_zero, ofE8_lt_iff] at hlong
      exact hlong
    show -n = -(n.natAbs : Int)
    omega
  · next hshort =>
    have hneg : n ≤ 0 := ofE8_nonpos_iff.mp (not_lt.mp hshort)
    show n = -(n.natAbs : Int)
    omega

/-- The order that closes an inventory is no larger than it, or than a lot. -/
theorem sends_unwind (s : PassiveMakerStrategy Sig) {instrumentId q : Nat} {st : InstrumentState}
    {qs : QuoteState Sig} {n : Int} (hn : st.inventory = ofE8 n)
    (hlot : LotWithin env.cache instrumentId (ofE8 q)) :
    Sends env s (unwindRequest instrumentId st qs) fun order =>
      order.quantity ≤ max n.natAbs q := by
  intro price quantity symbol hvalid
  have hq : (ofE8 q : ℚ) ≤ ofE8 (max n.natAbs q : Nat) := ofE8_le_iff.mpr (by omega)
  have habs : |st.inventory| ≤ ofE8 (max n.natAbs q : Nat) := by
    rw [hn, abs_le, ← ofE8_neg, ofE8_le_iff, ofE8_le_iff]
    omega
  obtain ⟨hpositive, hwithin⟩ :=
    normaliseAndValidate_qty (fun inst hinst => (hlot inst hinst).trans hq) habs hvalid
  exact roundE8_le hpositive hwithin

theorem Sound.onShutdownFlatten {q : Nat} (hmax : 0 ≤ cfg.maxInventory)
    (h : Sound (cfg.maxInventory + ofE8 q) none t) {instrumentId : Nat}
    (hconfirmed : t.ConfirmedInTime cfg env (.shutdownFlatten instrumentId))
    (hlot : LotWithin env.cache instrumentId (ofE8 q))
    (hhonest : HonestEvents own t.orders
      (t.strategy.onShutdownFlatten cfg env instrumentId).2) :
    Sound (cfg.maxInventory + ofE8 q) none
      (t.called (t.strategy.onShutdownFlatten cfg env instrumentId)) := by
  unfold PassiveMakerStrategy.onShutdownFlatten at hhonest ⊢
  unfold Trading.ConfirmedInTime flattening at hconfirmed
  cases hq : t.strategy.quotes.lookup instrumentId with
  | none => exact h
  | some qs =>
    simp only [hq] at hconfirmed hhonest ⊢
    have hmarket := h.market
      (t.strategy.quotes.insert instrumentId { qs with flattenInProgress := true })
    split at hhonest
    · next hmgr =>
      simp only [if_pos hmgr] at hconfirmed ⊢
      generalize hs : ({ t.strategy with quotes := _ } : PassiveMakerStrategy Sig) = s at *
      have hunsent : ∀ order accepted,
          .sent order accepted ∉ (s.cancelQuotes cfg env instrumentId).2 :=
        cancelQuotes_unsent s instrumentId
      have hcancel : ∀ own, HonestEvents own t.orders (s.cancelQuotes cfg env instrumentId).2 →
          Sound (cfg.maxInventory + ofE8 q) none
            (Trading.called { strategy := s, orders := t.orders }
              (s.cancelQuotes cfg env instrumentId)) := fun _ hevents =>
        hmarket.cancelQuotes hevents
      generalize s.cancelQuotes cfg env instrumentId = cancelled at *
      cases hst : cancelled.1.maker.state.lookup instrumentId with
      | none =>
        simp only [hst] at hhonest ⊢
        exact hcancel own hhonest
      | some st =>
        simp only [hst] at hhonest ⊢
        split at hhonest
        · next hdue =>
          rw [if_pos hdue]
          obtain ⟨hcancelled, hsent⟩ := HonestEvents.append.mp hhonest
          have h₀ := hcancel own hcancelled
          have hnone : NoneOpen (cancelled.2.foldl record t.orders) instrumentId
              (unwindSide st.inventory) :=
            noneOpen_of_confirmed (hconfirmed _ rfl st hst hdue) hunsent
          have hn : st.inventory = ofE8 (netQty (cancelled.2.foldl record t.orders) instrumentId) :=
            h₀.inventory instrumentId st hst
          have hroom : Sends env cancelled.1 (unwindRequest instrumentId st qs) fun order =>
              ofE8 (reach (cancelled.2.foldl record t.orders) instrumentId
                (unwindSide st.inventory) + order.quantity) ≤ cfg.maxInventory + ofE8 q := by
            intro price quantity symbol hvalid
            have hsize := sends_unwind cancelled.1 hn hlot price quantity symbol hvalid
            refine le_trans (ofE8_le_iff.mpr ?_) (le_add_of_nonneg_left hmax)
            rw [reach_of_noneOpen hnone, hn, signed_unwindSide]
            have hsize : (OrderSends.outbound { nextOrderId := cancelled.1.nextOrderId }
                (unwindRequest instrumentId st qs) price quantity symbol).quantity ≤
              max (netQty (cancelled.2.foldl record t.orders) instrumentId).natAbs q := hsize
            omega
          obtain ⟨hsound, -⟩ :=
            h₀.sendNewOrder (unwindRequest instrumentId st qs) ⟨st, hst⟩ hnone hroom hsent
          unfold Trading.called at hsound ⊢
          rw [List.foldl_append]
          exact hsound
        · next hdue =>
          rw [if_neg hdue]
          exact hcancel own hhonest
    · next hmgr =>
      simp only [if_neg hmgr]
      exact hmarket

theorem eq_empty_of_lookup {V : Type} {table : Table Nat V} (h : ∀ k, table.lookup k = none) :
    table = ∅ := by
  refine AList.ext (List.eq_nil_iff_forall_not_mem.mpr fun e he => ?_)
  have hfound : table.lookup e.1 = some e.2 := Table.mem_entries_iff.mp he
  rw [h] at hfound
  cases hfound

/-- The instruments of a snapshot start without an inventory. -/
theorem snapshot_flat (resolved : List (Instrument × ExchangeId)) (table : Table Nat InstrumentState)
    (h : table.AllVals fun st => st.inventory = 0 ∧ st.lastFilledQtyE8 = ∅) :
    (resolved.foldl (fun t r => t.emplace r.1.instrumentId { exchangeId := r.2 }) table).AllVals
      fun st => st.inventory = 0 ∧ st.lastFilledQtyE8 = ∅ := by
  induction resolved generalizing table with
  | nil => exact h
  | cons r resolved ih => exact ih _ (h.emplace ⟨rfl, rfl⟩ _)

/-- The instruments of the first snapshot have no orders and no inventory. -/
theorem Sound.onInstrumentSnapshot (h : Sound bound none t)
    (resolved : List (Instrument × ExchangeId)) :
    Sound bound none
      { strategy := t.strategy.onInstrumentSnapshot cfg resolved, orders := t.orders } := by
  unfold PassiveMakerStrategy.onInstrumentSnapshot
  split
  · next hkeys =>
    have horders : ∀ k, t.orders.lookup k = none := by
      intro k
      cases hk : t.orders.lookup k with
      | none => rfl
      | some o =>
        obtain ⟨st, hst⟩ := h.known k o hk
        have hmem := AList.mem_keys.mp (Table.mem_of_lookup hst)
        rw [hkeys] at hmem
        exact absurd hmem List.not_mem_nil
    have hflat : ∀ inst, netQty t.orders inst = 0 := by
      intro inst
      rw [eq_empty_of_lookup horders]
      rfl
    have hnew := snapshot_flat resolved ∅ (Table.AllVals.empty _)
    refine ⟨h.pos, h.fresh, fun k o ho => ?_, fun k inst hk => ?_, h.followed, nofun,
      fun k o st ho => ?_, fun k inst st hst _ => ?_, fun inst st hst => ?_, h.account⟩
    · rw [horders] at ho
      cases ho
    · obtain ⟨-, o, ho, -⟩ := h.tracked k inst hk
      rw [horders] at ho
      cases ho
    · rw [horders] at ho
      cases ho
    · rw [InstrumentState.lastFilled, (hnew inst st hst).2]
      rfl
    · rw [(hnew inst st hst).1, hflat, ofE8_zero]
  · exact h

end Calls

/-! ## The bound -/

namespace Trading

variable {Sig : Type} {cfg : Config Sig} {q : Nat}

theorem sound_init (hmax : 0 ≤ cfg.maxInventory) {nextOrderId : Nat} (hpos : 0 < nextOrderId) :
    Sound (cfg.maxInventory + ofE8 q) none (init nextOrderId : Trading Sig) := by
  refine ⟨hpos, nofun, nofun, nofun, nofun, nofun, nofun, nofun, nofun, nofun, fun id side => ?_,
    nofun⟩
  have hzero : reach (init nextOrderId : Trading Sig).orders id side = 0 := rfl
  rw [hzero, ofE8_zero]
  exact add_nonneg hmax (ofE8_nonneg_iff.mpr (Int.natCast_nonneg q))

theorem sound_step (hmax : 0 ≤ cfg.maxInventory) (t : Trading Sig)
    (e : Callback × QuoteSurroundings) (h : Sound (cfg.maxInventory + ofE8 q) none t)
    (hkeeps : t.KeepsQuotes cfg q e) : Sound (cfg.maxInventory + ofE8 q) none (t.step cfg e).1 := by
  obtain ⟨callback, env⟩ := e
  obtain ⟨hhonest, hsize, hconfirmed⟩ := hkeeps
  cases callback with
  | instrumentSnapshot resolved => exact h.onInstrumentSnapshot resolved
  | instrumentDelta inst updateType => exact h
  | bbo tick => exact h.onBbo hconfirmed hsize hhonest
  | trade tick => exact h
  | orderBook book => exact h
  | execReport rpt => exact h.report hhonest.1
  | shutdownFlatten instrumentId => exact h.onShutdownFlatten hmax hconfirmed hsize hhonest

theorem bounded_of_sound {t : Trading Sig} (h : Sound (cfg.maxInventory + ofE8 q) none t) :
    t.Bounded cfg q := by
  intro id st hst
  have hn := h.inventory id st hst
  have hlong : netQty t.orders id ≤ reach t.orders id .BUY :=
    signed_netQty_le_reach h.account.filled
  have hshort : -netQty t.orders id ≤ reach t.orders id .SELL :=
    signed_netQty_le_reach h.account.filled
  refine ⟨hn, ?_⟩
  rw [hn, abs_le', ← ofE8_neg]
  exact ⟨(ofE8_le_iff.mpr hlong).trans (h.account.room id .BUY),
    (ofE8_le_iff.mpr hshort).trans (h.account.room id .SELL)⟩

/-- When a side is placed anew only once its orders have ended, there is one order of it at most,
and the inventory stays within a quote of the bound. -/
theorem quotes_bounded (cfg : Config Sig) (hmax : 0 ≤ cfg.maxInventory) (q nextOrderId : Nat)
    (hpos : 0 < nextOrderId) (es : List (Callback × QuoteSurroundings))
    (hkeeps : Machine.AlongRun (step cfg) (fun t e => t.KeepsQuotes cfg q e) (init nextOrderId)
      es) :
    Machine.AllStates (step cfg) (fun t => t.AtMostOne ∧ t.Bounded cfg q) (init nextOrderId) es :=
  (Machine.AllStates.of_assumption (sound_step hmax) (sound_init hmax hpos) hkeeps).imp
    fun _ h => ⟨h.account.single, bounded_of_sound h⟩

def coin : Instrument where
  instrumentId := 7
  symbol := "COIN-USDT-SWAP"
  exchange := "OKX"
  baseCurrency := "COIN"
  quoteCurrency := "USDT"
  type := .PERPETUAL
  status := .ACTIVE
  lotSize := 1 / 100
  tickSize := 1 / 100
  contractSize := 1
  expiryDate := 0
  optionSide := .NA
  strikePrice := 0

/-- One coin a quote, and no more than one held; the volatility plays no part. -/
def coinConfig : Config Unit where
  estimators :=
    { make := ()
      update := fun _ _ _ => ()
      rvPerMinBps := fun _ => 0
      classifyChoppy := fun _ _ => ((), false) }
  qtyPerQuote := 1
  maxInventory := 1

def coinReport (orderId : Nat) (status : ExecStatus) (side : OrderSide) (filledQty : Nat) :
    ExecReport where
  orderId := orderId
  exchangeOrderId := orderId
  exchangeId := .OKX
  instrumentId := 7
  status := status
  side := side
  orderType := .LIMIT
  price := 10000000000
  filledQty := filledQty
  remainingQty := 0
  rejectReason := .OK
  fee := 0
  feeCurrency := "USDT"
  exchangeTsNs := 0
  localTsNs := 0

/-- The gateway takes every order, and says nothing to a cancel. -/
def coinMarket : QuoteSurroundings where
  cache := fun id => if id = 7 then some coin else none
  gateway := fun _ => {}
  cancels := fun _ => []
  nowNs := 1

/-- A cancel ends the order at once. -/
def promptMarket : QuoteSurroundings :=
  { coinMarket with
    cancels := fun request => [coinReport request.orderId .CANCELLED .BUY 0] }

def coinTick (bidPrice askPrice : ℚ) : Callback :=
  .bbo
    { timestampNs := 1
      instrumentId := 7
      bidPrice := bidPrice
      bidQty := 1
      askPrice := askPrice
      askQty := 1
      seqNum := 0 }

/-- The market moves twice while the quotes rest, and the last bid is filled. -/
def coinEvents (env : QuoteSurroundings) : List (Callback × QuoteSurroundings) :=
  [(.instrumentSnapshot [(coin, .OKX)], env), (coinTick 99 101, env),
    (coinTick 100 102, env), (coinTick 101 103, env),
    (.execReport (coinReport 5 .FILLED .BUY 100000000), env)]

/-- With the ends of the orders reported from inside the cancels, down to the shutdown. -/
theorem prompt_quotes_bounded :
    Machine.AllStates (step coinConfig) (fun t => t.AtMostOne ∧ t.Bounded coinConfig 100000000)
      (init 1) (coinEvents promptMarket ++ [(.shutdownFlatten 7, promptMarket)]) :=
  quotes_bounded coinConfig (by decide +kernel) 100000000 1 (by decide) _ (by decide +kernel)

/-- The fills of the bids that are being cancelled come before the confirmations. -/
def lateFills : List (Callback × QuoteSurroundings) :=
  [(.execReport (coinReport 1 .FILLED .BUY 100000000), coinMarket),
    (.execReport (coinReport 3 .FILLED .BUY 100000000), coinMarket)]

/-- Three asks are open and three coins are held, though the bound is one coin and a quote of
one. -/
theorem unconfirmed_quotes_exceed :
    Machine.AlongRun (step coinConfig)
        (fun t e => HonestEvents none t.orders (t.step coinConfig e).2 ∧
          t.FixedSize coinConfig 100000000 e) (init 1) (coinEvents coinMarket ++ lateFills) ∧
      ¬ Machine.AllStates (step coinConfig) AtMostOne (init 1)
        (coinEvents coinMarket ++ lateFills) ∧
      ¬ Machine.AllStates (step coinConfig) (Bounded coinConfig 100000000) (init 1)
        (coinEvents coinMarket ++ lateFills) := by
  refine ⟨by decide +kernel, fun h => ?_, fun h => ?_⟩
  · have hasks : ∀ orderId ∈ [2, 4], ∃ o,
        (Machine.exec (step coinConfig) (init 1) (coinEvents coinMarket ++ lateFills)).orders.lookup
          orderId = some o ∧ o.opens 7 .SELL = true := by
      intro orderId hid
      have hopen : ((Machine.exec (step coinConfig) (init 1)
          (coinEvents coinMarket ++ lateFills)).orders.lookup orderId).map
            (VenueOrder.opens · 7 .SELL) = some true := by
        revert orderId
        decide +kernel
      exact Option.map_eq_some_iff.mp hopen
    obtain ⟨o, ho, hopen⟩ := hasks 2 (by decide)
    obtain ⟨o', ho', hopen'⟩ := hasks 4 (by decide)
    exact absurd (h.final 7 .SELL 2 o 4 o' ho ho' hopen hopen') (by decide)
  · have hheld : ((Machine.exec (step coinConfig) (init 1)
        (coinEvents coinMarket ++ lateFills)).strategy.maker.state.lookup 7).map (fun st =>
          decide (|st.inventory| ≤ coinConfig.maxInventory + ofE8 100000000)) = some false := by
      decide +kernel
    obtain ⟨st, hst, hover⟩ := Option.map_eq_some_iff.mp hheld
    exact of_decide_eq_false hover (h.final 7 st hst).2

end Trading

end PassiveMakerStrategy

end BptCore.Strategy
