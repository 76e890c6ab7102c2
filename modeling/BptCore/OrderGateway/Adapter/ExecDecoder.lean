import BptCore.OrderGateway.Adapter.BinanceExecDecoder
import BptCore.OrderGateway.Adapter.DeribitExecDecoder
import BptCore.OrderGateway.Adapter.HyperliquidExecDecoder
import BptCore.OrderGateway.Adapter.OKXExecDecoder

/-!
# The four venue decoders as one

`ExecDecoder` is the decoder of some venue, `VenueMessage` what a venue sends about an order,
and `ExecDecoder.decode` hands a message to the handler of its venue that takes it.

What the consumers of an event add up are the fills among them:

* **`wireFill`**, **`wirePrice`** — the filled and remaining quantity and the price that a
  message makes, read off the message: which messages yield a PARTIAL or FILLED event, and
  whether the quantity they carry is the order's cumulative quantity or the slice just executed.
* **`decode_yields`** — on every message that describes an order the decoder knows, it emits
  that fill, under instrument 0.
* **`Knows.decode`** — and knows the order afterwards.
-/

namespace BptCore.OrderGateway

inductive ExecDecoder where
  | binance (d : BinanceExecDecoder)
  | okx (d : OKXExecDecoder)
  | deribit (d : DeribitExecDecoder)
  | hyperliquid (d : HyperliquidExecDecoder)

/-- A message about orders, with what the adapter knows of the request it answers. -/
inductive VenueMessage where
  | binanceReport (m : BinanceExecutionReport)
  | binanceResponse (m : BinanceOrderResponse) (orderId : Nat) (side : OrderSide)
      (orderType : OrderType)
  | okxOrderAck (m : OKXOrderAck)
  | okxOrderItem (m : OKXOrderItem)
  | deribitNotification (m : DeribitOrder)
  | deribitResponse (m : DeribitOrder)
  | hyperliquidFill (m : HyperliquidFill)

/-- A decoder only ever sees the messages of its own venue. -/
def ExecDecoder.decode (dec : ExecDecoder) (message : VenueMessage) (recvNs : Nat) :
    ExecDecoder × Option ExecEvent :=
  match dec, message with
  | .binance d, .binanceReport m => (.binance d, d.handleExecutionReport m recvNs)
  | .binance d, .binanceResponse m orderId side orderType =>
    (.binance d,
      some (BinanceExecDecoder.handleOrderResponse m orderId side orderType recvNs))
  | .okx d, .okxOrderAck m => (.okx d, d.handleOrderAck m recvNs)
  | .okx d, .okxOrderItem m =>
    let out := d.handleOrdersChannelItem m recvNs
    (.okx out.1, out.2)
  | .deribit d, .deribitNotification m =>
    let out := d.handleSubscriptionEvent m recvNs
    (.deribit out.1, out.2)
  | .deribit d, .deribitResponse m =>
    let out := d.handleOrderResponse m recvNs
    (.deribit out.1, out.2)
  | .hyperliquid d, .hyperliquidFill m =>
    let out := d.handleFill m recvNs
    (.hyperliquid out.1, out.2)
  | dec, _ => (dec, none)

/-- The venue whose messages the decoder takes. -/
def ExecDecoder.venue : ExecDecoder → ExchangeId
  | .binance _ => .BINANCE
  | .okx _ => .OKX
  | .deribit _ => .DERIBIT
  | .hyperliquid _ => .HYPERLIQUID

/-! ## An order and the messages about it -/

/-- An order as the venue and the decoder know it. The id 0 stands for no order. -/
structure VenueOrder where
  orderId : Nat
  clientOrderId : String
  exchangeOrderId : Nat
  side : OrderSide
  quantity : Nat
  orderId_ne_zero : orderId ≠ 0
  quantity_pos : 0 < quantity

namespace ExecDecoder

/-- The decoder knows the order: its client id is registered, or, on Hyperliquid, its venue id is
registered with `cum` filled so far and is given up when nothing remains. -/
def Knows (o : VenueOrder) (cum : Nat) : ExecDecoder → Prop
  | .binance d => d.orderIdOf o.clientOrderId = o.orderId
  | .okx d => d.orderIdOf o.clientOrderId = o.orderId
  | .deribit d => d.orderIdOf (some o.clientOrderId) = o.orderId
  | .hyperliquid d =>
    if cum < o.quantity then
      d.pending.lookup o.exchangeOrderId =
        some { clientOrderId := o.orderId, originalQtyE8 := o.quantity
               cumulativeFilledE8 := cum }
    else d.pending.lookup o.exchangeOrderId = none

instance (o : VenueOrder) (cum : Nat) (dec : ExecDecoder) : Decidable (Knows o cum dec) := by
  cases dec <;> dsimp only [Knows] <;> infer_instance

/-- The message, arriving at the decoder, is about the order and true of it: `cum` of the order
was filled before and `cum'` is now. -/
def Describes (o : VenueOrder) (cum cum' : Nat) : ExecDecoder → VenueMessage → Prop
  | .binance _, .binanceReport m =>
    m.eventType = "executionReport" ∧ m.clientOrderId = o.clientOrderId ∧
      m.side = (match o.side with | .BUY => "BUY" | .SELL => "SELL") ∧
      m.cumulativeQty = ofE8 cum' ∧ m.quantity = ofE8 o.quantity
  | .binance _, .binanceResponse m orderId side _ =>
    orderId = o.orderId ∧ side = o.side ∧ m.code = none ∧
      m.executedQty = ofE8 cum' ∧ m.origQty = ofE8 o.quantity
  | .okx _, .okxOrderAck m => m.clOrdId = o.clientOrderId ∧ cum' = cum
  | .okx d, .okxOrderItem m =>
    m.clOrdId = o.clientOrderId ∧
      m.side = (match o.side with | .BUY => "buy" | .SELL => "sell") ∧
      m.fillSz * d.contractSize m.instId = ofE8 (cum' - cum : Nat) ∧
      m.sz * d.contractSize m.instId = ofE8 o.quantity
  | .deribit _, .deribitNotification m | .deribit _, .deribitResponse m =>
    m.label = some o.clientOrderId ∧
      m.direction = some (match o.side with | .BUY => "buy" | .SELL => "sell") ∧
      m.filledAmount = some (ofE8 cum') ∧ m.amount = some (ofE8 o.quantity)
  | .hyperliquid _, .hyperliquidFill m =>
    m.oid = o.exchangeOrderId ∧ m.side = (match o.side with | .BUY => "B" | .SELL => "A") ∧
      m.sz = ofE8 (cum' - cum : Nat)
  | _, _ => False

instance (o : VenueOrder) (cum cum' : Nat) (dec : ExecDecoder) (m : VenueMessage) :
    Decidable (Describes o cum cum' dec m) := by
  cases dec <;> cases m <;> dsimp only [Describes] <;> infer_instance

end ExecDecoder

/-- The fill of a message that takes the order from `cum` to `cum'`: filled and remaining
quantity, for the messages that yield a PARTIAL or FILLED event. -/
def wireFill (o : VenueOrder) (cum cum' : Nat) : VenueMessage → Option (Nat × Nat)
  | .binanceReport m =>
    if m.execType = "TRADE" then some (cum', o.quantity - cum') else none
  | .binanceResponse m _ _ _ =>
    if m.status = "FILLED" ∨ m.status = "PARTIALLY_FILLED" then some (cum', o.quantity - cum')
    else none
  | .okxOrderAck _ => none
  | .okxOrderItem m =>
    if m.px.isSome ∧ (m.state = "partially_filled" ∨ m.state = "filled") then
      some (cum' - cum, o.quantity - (cum' - cum))
    else none
  | .deribitNotification m =>
    if (m.orderState = some "open" ∧ 0 < cum') ∨ m.orderState = some "filled" then
      some (cum', o.quantity - cum')
    else none
  | .deribitResponse m => if m.orderState = some "filled" then some (cum', 0) else none
  | .hyperliquidFill _ =>
    if cum < o.quantity then some (cum' - cum, o.quantity - cum') else none

/-- The price field of a message that its decoder puts in the event. -/
def wirePrice : VenueMessage → Int
  | .binanceReport m => truncE8 m.price
  | .binanceResponse m _ _ _ => truncE8 m.price
  | .okxOrderAck _ => 0
  | .okxOrderItem m => truncE8 (m.px.getD 0)
  | .deribitNotification m => truncE8 ((m.price.orElse fun _ => m.averagePrice).getD 0)
  | .deribitResponse m => truncE8 (m.averagePrice.getD 0)
  | .hyperliquidFill m => truncE8 m.px

/-! ## What the decoders emit -/

/-- The event carries a fill of the order: `q` filled and `r` remaining. -/
structure CarriesFill (o : VenueOrder) (venue : ExchangeId) (price : Int) (recvNs q r : Nat)
    (ev : ExecEvent) : Prop where
  isFill : ev.status.isFill = true
  orderId : ev.orderId = o.orderId
  exchangeId : ev.exchangeId = venue
  instrumentId : ev.instrumentId = 0
  side : ev.side = o.side
  price : ev.price = price
  filledQty : ev.filledQty = q
  remainingQty : ev.remainingQty = r
  localTsNs : ev.localTsNs = recvNs

/-- What is emitted carries the fill, or carries none when there is none. -/
def Yields (o : VenueOrder) (venue : ExchangeId) (price : Int) (recvNs : Nat) :
    Option (Nat × Nat) → Option ExecEvent → Prop
  | none, ev? => ∀ ev ∈ ev?, ev.status.isFill = false
  | some (q, r), ev? => ∃ ev, ev? = some ev ∧ CarriesFill o venue price recvNs q r ev

theorem sub_if_gt (total filled : Nat) :
    (if total > filled then total - filled else 0) = total - filled := by
  split <;> omega

namespace ExecDecoder

variable {o : VenueOrder} {cum cum' : Nat}

theorem yields_binanceReport {d : BinanceExecDecoder} {m : BinanceExecutionReport}
    (hknows : (binance d).Knows o cum) (h : (binance d).Describes o cum cum' (.binanceReport m))
    (recvNs : Nat) :
    Yields o .BINANCE (wirePrice (.binanceReport m)) recvNs (wireFill o cum cum' (.binanceReport m))
      (d.handleExecutionReport m recvNs) := by
  obtain ⟨htype, hcloid, hside, hcum, hqty⟩ := h
  have hid : d.orderIdOf m.clientOrderId = o.orderId := by rw [hcloid]; exact hknows
  have hside' : (if m.side = "BUY" then OrderSide.BUY else .SELL) = o.side := by
    rw [hside]; cases o.side <;> decide
  simp only [BinanceExecDecoder.handleExecutionReport, htype, hid, o.orderId_ne_zero, hside',
    hcum, hqty, truncE8Nat_ofE8, sub_if_gt, ne_eq, not_true_eq_false, if_false, wireFill]
  by_cases htrade : m.execType = "TRADE"
  · rw [if_pos htrade, htrade, BinanceExecDecoder.reportStatus_trade]
    have hfill : ∀ r : Nat, (if r = 0 then ExecStatus.FILLED else .PARTIAL).isFill = true := by
      intro r; split <;> rfl
    exact ⟨_, rfl, hfill _, rfl, rfl, rfl, rfl, rfl, rfl, rfl, rfl⟩
  · rw [if_neg htrade]
    intro ev hev
    obtain ⟨s, hs, rfl⟩ := Option.map_eq_some_iff.mp hev
    exact BinanceExecDecoder.isFill_reportStatus_of_ne htrade hs

theorem yields_binanceResponse {d : BinanceExecDecoder} {m : BinanceOrderResponse}
    {orderId : Nat} {side : OrderSide} {orderType : OrderType}
    (h : (binance d).Describes o cum cum' (.binanceResponse m orderId side orderType))
    (recvNs : Nat) :
    Yields o .BINANCE (wirePrice (.binanceResponse m orderId side orderType)) recvNs
      (wireFill o cum cum' (.binanceResponse m orderId side orderType))
      (some (BinanceExecDecoder.handleOrderResponse m orderId side orderType recvNs)) := by
  obtain ⟨rfl, rfl, hcode, hcum, hqty⟩ := h
  have hstatus := BinanceExecDecoder.isFill_responseStatus m.status
  simp only [BinanceExecDecoder.handleOrderResponse, hcode, hcum, hqty, truncE8Nat_ofE8,
    sub_if_gt, wireFill]
  by_cases hfill : m.status = "FILLED" ∨ m.status = "PARTIALLY_FILLED"
  · rw [if_pos hfill]
    exact ⟨_, rfl, hstatus.trans (decide_eq_true hfill), rfl, rfl, rfl, rfl, rfl, rfl, rfl, rfl⟩
  · rw [if_neg hfill]
    intro ev hev
    cases hev
    exact hstatus.trans (decide_eq_false hfill)

theorem yields_okxOrderAck {d : OKXExecDecoder} {m : OKXOrderAck} (recvNs : Nat) :
    Yields o .OKX (wirePrice (.okxOrderAck m)) recvNs (wireFill o cum cum' (.okxOrderAck m))
      (d.handleOrderAck m recvNs) := by
  intro ev hev
  simp only [OKXExecDecoder.handleOrderAck, Option.mem_def] at hev
  split at hev
  · cases hev
  split at hev
  · cases hev
  · cases hev; rfl

theorem yields_okxOrderItem {d : OKXExecDecoder} {m : OKXOrderItem}
    (hknows : (okx d).Knows o cum) (h : (okx d).Describes o cum cum' (.okxOrderItem m))
    (recvNs : Nat) :
    Yields o .OKX (wirePrice (.okxOrderItem m)) recvNs (wireFill o cum cum' (.okxOrderItem m))
      (d.handleOrdersChannelItem m recvNs).2 := by
  obtain ⟨hcloid, hside, hslice, hqty⟩ := h
  have hid : d.orderIdOf m.clOrdId = o.orderId := by rw [hcloid]; exact hknows
  have hside' : (if m.side = "buy" then OrderSide.BUY else .SELL) = o.side := by
    rw [hside]; cases o.side <;> decide
  have hstatus := OKXExecDecoder.isFill_itemStatus m.state
  simp only [OKXExecDecoder.handleOrdersChannelItem, OKXExecDecoder.itemEvent, hid,
    o.orderId_ne_zero, if_false, wireFill, wirePrice]
  cases hpx : m.px with
  | none =>
    simp only [Option.map_none, Option.isSome_none, Bool.false_eq_true, false_and, if_false]
    intro ev hev
    cases hev
  | some px =>
    simp only [Option.map_some, Option.isSome_some, true_and, hside', hslice, hqty,
      roundE8Nat_ofE8, sub_if_gt]
    by_cases hfill : m.state = "partially_filled" ∨ m.state = "filled"
    · rw [if_pos hfill]
      -- a fill is never taken for a repeat, so it gets through
      have hisFill := hstatus.trans (decide_eq_true hfill)
      rw [d.suppressRepeat_of_isFill hisFill]
      exact ⟨_, rfl, hisFill, rfl, rfl, rfl, rfl, rfl, rfl, rfl, rfl⟩
    · rw [if_neg hfill]
      intro ev hev
      rw [d.eq_of_mem_suppressRepeat hev]
      exact hstatus.trans (decide_eq_false hfill)

theorem sideOf_direction (side : OrderSide) :
    DeribitExecDecoder.sideOf (some (match side with | .BUY => "buy" | .SELL => "sell")) =
      side := by
  cases side <;> decide

theorem getD_eq_iff {state : Option String} {s : String} (hs : s ≠ "") :
    state.getD "" = s ↔ state = some s := by
  cases state with
  | none => simp [hs.symm]
  | some t => simp

theorem yields_deribitNotification {d : DeribitExecDecoder} {m : DeribitOrder}
    (hknows : (deribit d).Knows o cum)
    (h : (deribit d).Describes o cum cum' (.deribitNotification m)) (recvNs : Nat) :
    Yields o .DERIBIT (wirePrice (.deribitNotification m)) recvNs
      (wireFill o cum cum' (.deribitNotification m)) (d.handleSubscriptionEvent m recvNs).2 := by
  obtain ⟨hlabel, hdir, hcum, hqty⟩ := h
  have hid : d.orderIdOf m.label = o.orderId := by rw [hlabel]; exact hknows
  have hisFill : (d.notificationEvent m recvNs).status.isFill =
      decide ((m.orderState = some "open" ∧ 0 < cum') ∨ m.orderState = some "filled") := by
    have hopen : m.orderState.getD "" = "open" ↔ m.orderState = some "open" :=
      getD_eq_iff (by decide)
    have hfilled : m.orderState.getD "" = "filled" ↔ m.orderState = some "filled" :=
      getD_eq_iff (by decide)
    rw [DeribitExecDecoder.notificationEvent, DeribitExecDecoder.isFill_notificationStatus]
    simp only [hcum, Option.getD_some, ofE8_pos, hopen, hfilled]
  simp only [DeribitExecDecoder.handleSubscriptionEvent, hid, o.orderId_ne_zero, if_false,
    wireFill]
  by_cases hfill : (m.orderState = some "open" ∧ 0 < cum') ∨ m.orderState = some "filled"
  · rw [if_pos hfill]
    have hisFill' := hisFill.trans (decide_eq_true hfill)
    rw [DeribitExecDecoder.suppressRepeat_of_isFill _ hisFill']
    -- the fields one by one: side, price, filled and remaining quantity
    refine ⟨_, rfl, hisFill', hid, rfl, rfl, ?_, ?_, ?_, ?_, rfl⟩
    · rw [DeribitExecDecoder.notificationEvent, hdir]
      exact sideOf_direction o.side
    · simp only [DeribitExecDecoder.notificationEvent, wirePrice]
      cases m.price with
      | some price => rfl
      | none => cases m.averagePrice with
        | some averagePrice => rfl
        | none => exact truncE8_zero.symm
    · simp only [DeribitExecDecoder.notificationEvent, hcum, Option.getD_some, truncE8Nat_ofE8]
    · simp only [DeribitExecDecoder.notificationEvent, hcum, hqty, Option.getD_some,
        truncE8Nat_ofE8, sub_if_gt]
  · rw [if_neg hfill]
    intro ev hev
    rw [DeribitExecDecoder.eq_of_mem_suppressRepeat _ hev]
    exact hisFill.trans (decide_eq_false hfill)

theorem yields_deribitResponse {d : DeribitExecDecoder} {m : DeribitOrder}
    (hknows : (deribit d).Knows o cum)
    (h : (deribit d).Describes o cum cum' (.deribitResponse m)) (recvNs : Nat) :
    Yields o .DERIBIT (wirePrice (.deribitResponse m)) recvNs
      (wireFill o cum cum' (.deribitResponse m)) (d.handleOrderResponse m recvNs).2 := by
  obtain ⟨hlabel, hdir, hcum, hqty⟩ := h
  have hid : d.orderIdOf m.label = o.orderId := by rw [hlabel]; exact hknows
  simp only [DeribitExecDecoder.handleOrderResponse, hid, o.orderId_ne_zero, if_false, wireFill]
  by_cases hfilled : m.orderState = some "filled"
  · rw [if_pos hfilled]
    simp only [hfilled, Option.getD_some, ne_eq, not_true_eq_false, false_and, if_false]
    refine ⟨_, rfl, ?_, hid, rfl, rfl, ?_, ?_, ?_, ?_, rfl⟩
    · simp [DeribitExecDecoder.responseEvent, hfilled, ExecStatus.isFill]
    · rw [DeribitExecDecoder.responseEvent, hdir]
      exact sideOf_direction o.side
    · simp only [DeribitExecDecoder.responseEvent, wirePrice]
      cases m.averagePrice with
      | some averagePrice => rfl
      | none => exact truncE8_zero.symm
    · simp only [DeribitExecDecoder.responseEvent, hcum, truncE8Nat_ofE8]
    · simp [DeribitExecDecoder.responseEvent, hfilled]
  · rw [if_neg hfilled]
    intro ev hev
    split at hev
    · cases hev
    · cases hev
      have hstate : m.orderState.getD "" ≠ "filled" := mt (getD_eq_iff (by decide)).mp hfilled
      simp only [DeribitExecDecoder.responseEvent, hstate, if_false]
      split <;> rfl

theorem yields_hyperliquidFill {d : HyperliquidExecDecoder} {m : HyperliquidFill}
    (hknows : (hyperliquid d).Knows o cum)
    (h : (hyperliquid d).Describes o cum cum' (.hyperliquidFill m)) (hle : cum ≤ cum')
    (recvNs : Nat) :
    Yields o .HYPERLIQUID (wirePrice (.hyperliquidFill m)) recvNs
      (wireFill o cum cum' (.hyperliquidFill m)) (d.handleFill m recvNs).2 := by
  obtain ⟨hoid, hside, hslice⟩ := h
  have hside' : (if m.side = "B" then OrderSide.BUY else .SELL) = o.side := by
    rw [hside]; cases o.side <;> decide
  have hcum : cum + (cum' - cum) = cum' := Nat.add_sub_cancel' hle
  rw [Knows, ← hoid] at hknows
  simp only [HyperliquidExecDecoder.handleFill, wireFill]
  split at hknows
  · next hopen =>
    rw [hknows, if_pos hopen]
    refine ⟨_, rfl, ?_, rfl, rfl, rfl, hside', rfl, ?_, ?_, rfl⟩
    · show ExecStatus.isFill (if _ then _ else _) = true
      split <;> rfl
    · simp only [hslice, truncE8Nat_ofE8]
    · simp only [hslice, truncE8Nat_ofE8, hcum]
      split
      · omega
      · rfl
  · next hdone =>
    rw [hknows, if_neg hdone]
    intro ev hev
    cases hev

/-- **What the decoders emit.** On a message that describes an order it knows, every decoder
emits the fill that `wireFill` reads off the message, with the message's price, under the
order's id and side, the venue's exchange, and instrument 0. -/
theorem decode_yields {dec : ExecDecoder} {m : VenueMessage} (hknows : dec.Knows o cum)
    (h : dec.Describes o cum cum' m) (hle : cum ≤ cum') (recvNs : Nat) :
    Yields o dec.venue (wirePrice m) recvNs (wireFill o cum cum' m) (dec.decode m recvNs).2 := by
  cases dec with
  | binance d =>
    cases m with
    | binanceReport m => exact yields_binanceReport hknows h recvNs
    | binanceResponse m orderId side orderType => exact yields_binanceResponse h recvNs
    | _ => exact h.elim
  | okx d =>
    cases m with
    | okxOrderAck m => exact yields_okxOrderAck recvNs
    | okxOrderItem m => exact yields_okxOrderItem hknows h recvNs
    | _ => exact h.elim
  | deribit d =>
    cases m with
    | deribitNotification m => exact yields_deribitNotification hknows h recvNs
    | deribitResponse m => exact yields_deribitResponse hknows h recvNs
    | _ => exact h.elim
  | hyperliquid d =>
    cases m with
    | hyperliquidFill m => exact yields_hyperliquidFill hknows h hle recvNs
    | _ => exact h.elim

/-- The venue of a decoder does not change, and an order stays known as it fills. -/
theorem venue_decode (dec : ExecDecoder) (m : VenueMessage) (recvNs : Nat) :
    (dec.decode m recvNs).1.venue = dec.venue := by
  cases dec <;> cases m <;> rfl

theorem handleOrdersChannelItem_orderIdOf (d : OKXExecDecoder) (m : OKXOrderItem)
    (recvNs : Nat) (cloid : String) :
    (d.handleOrdersChannelItem m recvNs).1.orderIdOf cloid = d.orderIdOf cloid := by
  unfold OKXExecDecoder.handleOrdersChannelItem
  split <;> rfl

theorem rememberExchOid_orderIdOf (d : DeribitExecDecoder) (exchOid : String) (orderId : Nat)
    (label : Option String) :
    (d.rememberExchOid exchOid orderId).orderIdOf label = d.orderIdOf label := by
  unfold DeribitExecDecoder.rememberExchOid
  split <;> rfl

theorem handleSubscriptionEvent_orderIdOf (d : DeribitExecDecoder) (m : DeribitOrder)
    (recvNs : Nat) (label : Option String) :
    (d.handleSubscriptionEvent m recvNs).1.orderIdOf label = d.orderIdOf label := by
  unfold DeribitExecDecoder.handleSubscriptionEvent
  split
  · rfl
  · exact rememberExchOid_orderIdOf d _ _ label

theorem handleOrderResponse_orderIdOf (d : DeribitExecDecoder) (m : DeribitOrder)
    (recvNs : Nat) (label : Option String) :
    (d.handleOrderResponse m recvNs).1.orderIdOf label = d.orderIdOf label := by
  simp only [DeribitExecDecoder.handleOrderResponse]
  split
  · rfl
  · split
    · exact rememberExchOid_orderIdOf d _ _ label
    · exact rememberExchOid_orderIdOf d _ _ label

/-- A Hyperliquid order that takes another slice is still counted, or is given up as filled. -/
theorem knows_handleFill {d : HyperliquidExecDecoder} {m : HyperliquidFill}
    (hknows : (hyperliquid d).Knows o cum)
    (h : (hyperliquid d).Describes o cum cum' (.hyperliquidFill m)) (hle : cum ≤ cum')
    (recvNs : Nat) :
    (hyperliquid (d.handleFill m recvNs).1).Knows o cum' := by
  obtain ⟨hoid, -, hslice⟩ := h
  have hcum : cum + (cum' - cum) = cum' := Nat.add_sub_cancel' hle
  rw [Knows, ← hoid] at hknows
  rw [Knows, ← hoid, HyperliquidExecDecoder.handleFill]
  split at hknows
  · rw [hknows]
    simp only [hslice, truncE8Nat_ofE8, hcum]
    by_cases hfull : o.quantity ≤ cum'
    · rw [if_neg (not_lt.mpr hfull), if_pos hfull, AList.lookup_erase]
    · rw [if_pos (not_le.mp hfull), if_neg hfull, AList.lookup_insert]
  · next hdone =>
    rw [hknows, if_neg (by omega)]
    exact hknows

/-- **An order stays known.** -/
theorem Knows.decode {dec : ExecDecoder} {m : VenueMessage} (hknows : dec.Knows o cum)
    (h : dec.Describes o cum cum' m) (hle : cum ≤ cum') (recvNs : Nat) :
    (dec.decode m recvNs).1.Knows o cum' := by
  cases dec with
  | binance d =>
    cases m with
    | binanceReport m => exact hknows
    | binanceResponse m orderId side orderType => exact hknows
    | _ => exact h.elim
  | okx d =>
    cases m with
    | okxOrderAck m => exact hknows
    | okxOrderItem m => exact (handleOrdersChannelItem_orderIdOf d m recvNs _).trans hknows
    | _ => exact h.elim
  | deribit d =>
    cases m with
    | deribitNotification m => exact (handleSubscriptionEvent_orderIdOf d m recvNs _).trans hknows
    | deribitResponse m => exact (handleOrderResponse_orderIdOf d m recvNs _).trans hknows
    | _ => exact h.elim
  | hyperliquid d =>
    cases m with
    | hyperliquidFill m => exact knows_handleFill hknows h hle recvNs
    | _ => exact h.elim

end ExecDecoder

end BptCore.OrderGateway
