import BptCore.Strategy.Order.SendNewOrder

/-!
# The order manager as the quoting strategies use it

`OrderManager` with the ids it hands out and the tags of its records, and the three calls by which a
strategy quotes. Reports come later than the call that they answer, so a send is one step.

* **`QuoteDesk.sendQuote`**, **`QuoteDesk.sendCancel`**, **`QuoteDesk.modifyQuote`** — the calls.
* **`QuoteDesk.sendNewOrder_cases`**, **`QuoteDesk.lookup_sendCancel`** — the records after them.
-/

namespace BptCore.Strategy

/-- `OrderState::tag`, as the strategies use it. -/
inductive OrderTag where
  | quote | unwindNormal
  deriving DecidableEq, Repr

/-- What is sent to the gateway. -/
inductive Sent where
  | newOrder (order : OutboundNewOrder)
  | cancel (cancel : CancelOrderRequest)
  | modify (modify : ModifyOrderRequest)
  deriving DecidableEq, Repr

/-- What a callback finds around it: the refdata, the gateway's answers, and the clocks. `hostNs` is
the TSC clock's epoch time and `simNs` that of `SimClock`. -/
structure Surroundings where
  cache : InstrumentCache
  accepts : OutboundNewOrder → Bool
  makerBps : Option ℚ
  simNs : Nat
  wallNs : Nat
  hostNs : Nat

structure QuoteDesk where
  om : OrderManager := {}
  tags : Table Nat OrderTag := ∅
  nextOrderId : Nat

namespace QuoteDesk

variable (d : QuoteDesk) (env : Surroundings)

/-- The manager hands out the next id, and stores a record when the gateway takes the order. -/
def sendNewOrder (request : NewOrderRequest) (tag : OrderTag) :
    QuoteDesk × Option Nat × List Sent :=
  match normaliseAndValidate env.cache request.instrumentId request.side request.type request.price
      request.qty with
  | none => (d, none, [])
  | some (price, quantity, symbol) =>
    let sends : OrderSends := { nextOrderId := d.nextOrderId }
    let order := sends.outbound request price quantity symbol
    if env.accepts order then
      ({ om := d.om.store (.placed order price quantity env.wallNs)
         tags := d.tags.insert order.orderId tag
         nextOrderId := d.nextOrderId + 1 },
        some order.orderId, [.newOrder order])
    else ({ d with nextOrderId := d.nextOrderId + 1 }, none, [.newOrder order])

/-- A price on the passive side of the tick. -/
def quotePrice (instrumentId : Nat) (side : OrderSide) (price : ℚ) : ℚ :=
  match env.cache instrumentId with
  | some inst =>
    if inst.tickSize > 0 then
      match side with
      | .BUY => (price / inst.tickSize).floor * inst.tickSize
      | .SELL => (price / inst.tickSize).ceil * inst.tickSize
    else price
  | none => price

def sendQuote (instrumentId : Nat) (exchangeId : ExchangeId) (side : OrderSide) (price qty : ℚ)
    (tag : OrderTag) : QuoteDesk × Option Nat × List Sent :=
  d.sendNewOrder env
    { instrumentId := instrumentId, exchangeId := some exchangeId, side := side, type := .LIMIT
      tif := .GTC, price := quotePrice env instrumentId side price, qty := qty, postOnly := true }
    tag

/-- `OrderHandle::live`. -/
def live (handle : Option Nat) : Bool :=
  match handle.bind d.om.lookup.lookup with
  | some s => s.status.live
  | none => false

def sendCancel (handle : Option Nat) : QuoteDesk × List Sent :=
  let r := d.om.sendCancelHandle handle env.wallNs
  ({ d with om := r.1 }, r.2.toList.map .cancel)

/-- The quantity goes out as it is, not in lots. -/
def modifyQuote (handle : Option Nat) (price qty : ℚ) : List Sent :=
  match handle.bind d.om.lookup.lookup with
  | some s =>
    if s.status.live then
      [.modify
        { orderId := s.orderId
          exchangeId := s.exchangeId
          instrumentId := s.instrumentId
          newPrice := roundE8 (quotePrice env s.instrumentId s.side price)
          newQuantity := (roundE8 qty).toNat }]
    else []
  | none => []

def onExecReport (rpt : ExecReport) : QuoteDesk :=
  { d with om := d.om.onExecReport rpt env.wallNs }

/-! ## The records after the calls -/

/-- Ids come in order: what is on record came before the next. -/
def Fresh : Prop := ∀ id, d.om.Tracks id → id < d.nextOrderId

variable {d}

theorem Fresh.lookup_nextOrderId (h : d.Fresh) : d.om.lookup.lookup d.nextOrderId = none := by
  cases hlookup : d.om.lookup.lookup d.nextOrderId with
  | none => rfl
  | some s =>
    have htracked : d.om.Tracks d.nextOrderId := by
      rw [OrderManager.Tracks, hlookup]
      rfl
    exact absurd (h _ htracked) (Nat.lt_irrefl _)

/-- What a send does: nothing but the use of an id, or a record under a new id. -/
theorem sendNewOrder_cases (request : NewOrderRequest) (tag : OrderTag) :
    ((d.sendNewOrder env request tag).2.1 = none ∧
        (d.sendNewOrder env request tag).1.om = d.om ∧
        (d.sendNewOrder env request tag).1.tags = d.tags ∧
        d.nextOrderId ≤ (d.sendNewOrder env request tag).1.nextOrderId) ∨
      ∃ price quantity symbol,
        normaliseAndValidate env.cache request.instrumentId request.side request.type request.price
            request.qty = some (price, quantity, symbol) ∧
        ∃ order : OutboundNewOrder,
          order = ({ nextOrderId := d.nextOrderId } : OrderSends).outbound request price quantity
            symbol ∧
          d.sendNewOrder env request tag =
            ({ om := d.om.store (.placed order price quantity env.wallNs)
               tags := d.tags.insert d.nextOrderId tag
               nextOrderId := d.nextOrderId + 1 },
              some d.nextOrderId, [.newOrder order]) := by
  unfold sendNewOrder
  cases hvalid : normaliseAndValidate env.cache request.instrumentId request.side request.type
      request.price request.qty with
  | none => exact .inl ⟨rfl, rfl, rfl, Nat.le_refl _⟩
  | some values =>
    obtain ⟨price, quantity, symbol⟩ := values
    dsimp only
    split
    · exact .inr ⟨price, quantity, symbol, rfl, _, rfl, rfl⟩
    · exact .inl ⟨rfl, rfl, rfl, Nat.le_succ _⟩

theorem Fresh.sendNewOrder (h : d.Fresh) (request : NewOrderRequest) (tag : OrderTag) :
    (d.sendNewOrder env request tag).1.Fresh := by
  intro id htracked
  rcases sendNewOrder_cases (d := d) env request tag with
    ⟨-, hom, -, hnext⟩ | ⟨price, quantity, symbol, -, order, horder, heq⟩
  · rw [hom] at htracked
    exact Nat.lt_of_lt_of_le (h id htracked) hnext
  · rw [heq] at htracked ⊢
    rcases (OrderManager.tracks_store _ _ _).mp htracked with rfl | hold
    · rw [horder]
      exact Nat.lt_succ_self _
    · exact Nat.lt_succ_of_lt (h id hold)

theorem lookup_sendCancel (handle : Option Nat) (id : Nat) :
    (d.sendCancel env handle).1.om.lookup.lookup id =
      if handle = some id then (d.om.lookup.lookup id).map (OrderManager.cancelPending · env.wallNs)
      else d.om.lookup.lookup id :=
  OrderManager.lookup_sendCancelHandle d.om handle env.wallNs id

theorem Fresh.sendCancel (h : d.Fresh) (handle : Option Nat) :
    (d.sendCancel env handle).1.Fresh := by
  intro id htracked
  refine h id ?_
  rw [OrderManager.Tracks, lookup_sendCancel] at htracked
  rw [OrderManager.Tracks]
  split at htracked
  · rwa [Option.isSome_map] at htracked
  · exact htracked

theorem Fresh.onExecReport (h : d.Fresh) (rpt : ExecReport) : (d.onExecReport env rpt).Fresh :=
  fun id htracked => h id ((OrderManager.tracks_onExecReport _ _ _ _).mp htracked)

end QuoteDesk

end BptCore.Strategy
