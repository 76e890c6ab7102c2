import BptCore.Lib.Machine
import BptCore.Strategy.Order.OrderManager
import BptCore.Strategy.Strategy.IStrategy

/-!
# Sending an order

`OrderManager::send_new_order` brings the request into the instrument's grid, takes the next id,
calls the gateway, and makes the record of the order when the gateway has accepted it. While the
gateway has control it may report on any order, and what a report sets off may send again, so a
send is two steps: up to the call of the gateway, and from its return on.

* **`normaliseAndValidate`** — the grid and the pre-flight checks.
* **`OrderSends.step`** — sends, in any nesting, with the reports and cancels in between.
* **`fresh_run`** — a send in progress has an id of its own, and no record yet.
-/

namespace BptCore.Strategy

/-- `InstrumentCache::get`. -/
abbrev InstrumentCache := Nat → Option Instrument

/-- `std::round(x * 1e8)`, halves away from zero. -/
def roundE8 (x : ℚ) : Int :=
  if 0 ≤ x then (x * kScale + 1 / 2).floor else -(-x * kScale + 1 / 2).floor

/-- `normalise_and_validate`: price, quantity and the exchange's symbol, or a rejection. -/
def normaliseAndValidate (cache : InstrumentCache) (instrumentId : Nat) (side : OrderSide)
    (orderType : OrderType) (price quantity : ℚ) : Option (ℚ × ℚ × String) :=
  match cache instrumentId with
  | none => none
  | some inst =>
    if inst.status ≠ .ACTIVE then none
    else
      let price :=
        if orderType ≠ .MARKET ∧ inst.tickSize > 0 then
          match side with
          | .BUY => (price / inst.tickSize).ceil * inst.tickSize
          | .SELL => (price / inst.tickSize).floor * inst.tickSize
        else price
      let quantity :=
        if inst.lotSize > 0 then
          -- at least one lot goes out
          max ((quantity / inst.lotSize).floor * inst.lotSize) inst.lotSize
        else quantity
      if quantity ≤ 0 then none
      else if orderType ≠ .MARKET ∧ price ≤ 0 then none
      else some (price, quantity, inst.symbol)

/-- The lots that the order manager rounds to are no larger than the quantity. -/
def LotWithin (cache : InstrumentCache) (instrumentId : Nat) (qty : ℚ) : Prop :=
  ∀ inst ∈ cache instrumentId, inst.lotSize ≤ qty

instance (cache : InstrumentCache) (instrumentId : Nat) (qty : ℚ) :
    Decidable (LotWithin cache instrumentId qty) :=
  inferInstanceAs (Decidable (∀ inst ∈ cache instrumentId, _))

/-- Rounding to lots keeps a quantity within what it and a lot are within. -/
theorem normaliseAndValidate_qty {cache : InstrumentCache} {instrumentId : Nat} {side : OrderSide}
    {orderType : OrderType} {price qty bound price' quantity : ℚ} {symbol : String}
    (hlot : LotWithin cache instrumentId bound) (hqty : qty ≤ bound)
    (h : normaliseAndValidate cache instrumentId side orderType price qty =
      some (price', quantity, symbol)) :
    0 ≤ quantity ∧ quantity ≤ bound := by
  unfold normaliseAndValidate at h
  cases hinst : cache instrumentId with
  | none =>
    rw [hinst] at h
    cases h
  | some inst =>
    have hlot : inst.lotSize ≤ bound := hlot inst hinst
    have hsized : (if inst.lotSize > 0 then
        max ((qty / inst.lotSize).floor * inst.lotSize) inst.lotSize else qty) ≤ bound := by
      split
      · next hpos =>
        have hfloor : ((qty / inst.lotSize).floor : ℚ) ≤ qty / inst.lotSize :=
          Rat.le_floor_iff.mp le_rfl
        exact max_le (((le_div_iff₀ hpos).mp hfloor).trans hqty) hlot
      · exact hqty
    simp only [hinst, Option.ite_none_left_eq_some, Option.some.injEq, Prod.mk.injEq] at h
    obtain ⟨-, hpositive, -, -, rfl, -⟩ := h
    exact ⟨(not_le.mp hpositive).le, hsized⟩

/-- A quantity within a whole number of units is rounded to within it. -/
theorem roundE8_le {quantity : ℚ} {n : Nat} (h0 : 0 ≤ quantity) (h : quantity ≤ ofE8 n) :
    (roundE8 quantity).toNat ≤ n := by
  have hunits : quantity * kScale ≤ n := by
    have hmul := mul_le_mul_of_nonneg_right h kScale_pos.le
    rw [ofE8_mul_kScale] at hmul
    exact_mod_cast hmul
  rw [roundE8, if_pos h0, Int.toNat_le]
  refine Int.lt_add_one_iff.mp (Rat.floor_lt_iff.mpr ?_)
  push_cast
  linarith

/-- `ExecInst::to_bitmask`. -/
def execInstBitmask (postOnly : Bool) : Nat := if postOnly then 0x01 else 0

/-- A call of the gateway that `send_new_order` waits for. -/
structure Send where
  order : OutboundNewOrder
  price : ℚ
  qty : ℚ

/-- The manager, with the sends in progress, innermost first, and the reports the gateway has
delivered. -/
structure OrderSends where
  om : OrderManager := {}
  nextOrderId : Nat
  sends : List Send := []
  reports : List ExecReport := []

inductive SendEvent where
  | send (cache : InstrumentCache) (request : NewOrderRequest)
  /-- The gateway call of the innermost send returns. -/
  | returned (accepted : Bool) (nowNs : Nat)
  | report (rpt : ExecReport) (nowNs : Nat)
  | cancel (cancel : CancelOrderRequest) (nowNs : Nat)
  | cancelHandle (handle : Option Nat) (nowNs : Nat)

/-- What reaches the gateway. -/
inductive GatewayCall where
  | sendNewOrder (order : OutboundNewOrder)
  | sendCancel (cancel : CancelOrderRequest)
  deriving DecidableEq, Repr

namespace OrderSends

variable (s : OrderSends)

/-- The order that goes to the gateway. A request without an exchange goes out under the wildcard,
which the gateways name as they do `NULL_VALUE`. -/
def outbound (request : NewOrderRequest) (price quantity : ℚ) (symbol : String) :
    OutboundNewOrder where
  orderId := s.nextOrderId
  exchangeId := request.exchangeId.getD .ALL
  instrumentId := request.instrumentId
  side := request.side
  orderType := request.type
  tif := request.tif
  price := roundE8 price
  quantity := (roundE8 quantity).toNat
  execInst := execInstBitmask request.postOnly
  exchangeSymbol := symbol

/-- `send_new_order` up to its call of the gateway. -/
def beginSend (cache : InstrumentCache) (request : NewOrderRequest) :
    OrderSends × List GatewayCall :=
  match normaliseAndValidate cache request.instrumentId request.side request.type request.price
      request.qty with
  | none => (s, [])
  | some (price, quantity, symbol) =>
    let order := s.outbound request price quantity symbol
    ({ s with
        nextOrderId := s.nextOrderId + 1
        sends := { order := order, price := price, qty := quantity } :: s.sends },
      [.sendNewOrder order])

/-- `send_new_order` from the return of the gateway on. -/
def endSend (accepted : Bool) (nowNs : Nat) : OrderSends :=
  match s.sends with
  | [] => s
  | send :: sends =>
    { s with
      om := if accepted then s.om.store (.placed send.order send.price send.qty nowNs) else s.om
      sends := sends }

def step (s : OrderSends) : SendEvent → OrderSends × List GatewayCall
  | .send cache request => s.beginSend cache request
  | .returned accepted nowNs => (s.endSend accepted nowNs, [])
  | .report rpt nowNs =>
    ({ s with om := s.om.onExecReport rpt nowNs, reports := s.reports ++ [rpt] }, [])
  | .cancel cancel nowNs => ({ s with om := s.om.sendCancel cancel nowNs }, [.sendCancel cancel])
  | .cancelHandle handle nowNs =>
    let out := s.om.sendCancelHandle handle nowNs
    ({ s with om := out.1 }, out.2.toList.map .sendCancel)

/-! ## Ids -/

/-- Ids are handed out in order: what has a record or is being sent came before the next one, and
what is being sent has no record. -/
structure Fresh (s : OrderSends) : Prop where
  recorded : ∀ orderId, s.om.Tracks orderId → orderId < s.nextOrderId
  sent : ∀ send ∈ s.sends, send.order.orderId < s.nextOrderId
  unrecorded : ∀ send ∈ s.sends, ¬ s.om.Tracks send.order.orderId
  distinct : (s.sends.map (·.order.orderId)).Nodup

variable {s}

theorem Fresh.start (nextOrderId : Nat) : Fresh { nextOrderId := nextOrderId } where
  recorded orderId h := by cases h
  sent send h := by cases h
  unrecorded send h := by cases h
  distinct := List.nodup_nil

/-- An operation on the records that keeps the same orders on record. -/
theorem Fresh.of_tracks {om : OrderManager} {reports : List ExecReport} (h : Fresh s)
    (htracks : ∀ orderId, om.Tracks orderId ↔ s.om.Tracks orderId) :
    Fresh { s with om := om, reports := reports } where
  recorded orderId htracked := h.recorded orderId ((htracks orderId).mp htracked)
  sent := h.sent
  unrecorded send hsend := mt (htracks _).mp (h.unrecorded send hsend)
  distinct := h.distinct

theorem Fresh.beginSend (h : Fresh s) (cache : InstrumentCache) (request : NewOrderRequest) :
    Fresh (s.beginSend cache request).1 := by
  unfold OrderSends.beginSend
  split
  · exact h
  · have hold : ∀ send ∈ s.sends, send.order.orderId ≠ s.nextOrderId := fun send hsend =>
      Nat.ne_of_lt (h.sent send hsend)
    refine ⟨fun orderId htracked => Nat.lt_succ_of_lt (h.recorded orderId htracked),
      fun send hsend => ?_, fun send hsend => ?_, ?_⟩
    · rcases List.mem_cons.mp hsend with rfl | hsend
      · exact Nat.lt_succ_self _
      · exact Nat.lt_succ_of_lt (h.sent send hsend)
    · rcases List.mem_cons.mp hsend with rfl | hsend
      · exact fun htracked => Nat.lt_irrefl _ (h.recorded _ htracked)
      · exact h.unrecorded send hsend
    · refine List.nodup_cons.mpr ⟨fun hmem => ?_, h.distinct⟩
      obtain ⟨send, hsend, hid⟩ := List.mem_map.mp hmem
      exact hold send hsend hid

theorem Fresh.endSend (h : Fresh s) (accepted : Bool) (nowNs : Nat) :
    Fresh (s.endSend accepted nowNs) := by
  unfold OrderSends.endSend
  split
  · exact h
  · next send sends hsends =>
    have hmem : ∀ other ∈ sends, other ∈ s.sends := fun other hother => by
      rw [hsends]
      exact List.mem_cons_of_mem send hother
    have hown : send ∈ s.sends := by
      rw [hsends]
      exact List.mem_cons_self
    have hnodup := h.distinct
    rw [hsends, List.map_cons, List.nodup_cons] at hnodup
    cases accepted with
    | false =>
      exact ⟨h.recorded, fun other hother => h.sent other (hmem other hother),
        fun other hother => h.unrecorded other (hmem other hother), hnodup.2⟩
    | true =>
      refine ⟨fun orderId htracked => ?_, fun other hother => h.sent other (hmem other hother),
        fun other hother htracked => ?_, hnodup.2⟩
      · rcases (OrderManager.tracks_store _ _ _).mp htracked with rfl | htracked
        · exact h.sent send hown
        · exact h.recorded orderId htracked
      · rcases (OrderManager.tracks_store _ _ _).mp htracked with hid | htracked
        -- the ids of the sends still in progress are others
        · exact hnodup.1 (List.mem_map.mpr ⟨other, hother, hid⟩)
        · exact h.unrecorded other (hmem other hother) htracked

theorem Fresh.step (h : Fresh s) (e : SendEvent) : Fresh (step s e).1 := by
  cases e with
  | send cache request => exact h.beginSend cache request
  | returned accepted nowNs => exact h.endSend accepted nowNs
  | report rpt nowNs => exact h.of_tracks fun orderId => s.om.tracks_onExecReport rpt nowNs orderId
  | cancel cancel nowNs =>
    refine h.of_tracks fun orderId => ?_
    rw [OrderManager.Tracks, OrderManager.lookup_sendCancel, OrderManager.Tracks]
    split
    · rw [Option.isSome_map]
    · exact Iff.rfl
  | cancelHandle handle nowNs =>
    refine h.of_tracks fun orderId => ?_
    rw [OrderManager.Tracks, OrderManager.lookup_sendCancelHandle, OrderManager.Tracks]
    split
    · rw [Option.isSome_map]
    · exact Iff.rfl

/-- The ids of a run are fresh throughout. -/
theorem fresh_run (nextOrderId : Nat) (es : List SendEvent) :
    Machine.AllStates step Fresh { nextOrderId := nextOrderId } es :=
  .of_inductive (fun _ e h => h.step e) (Fresh.start nextOrderId) es

end OrderSends

end BptCore.Strategy
