import BptCore.Lib.Machine
import BptCore.OrderGateway.Adapter.BinanceExecDecoder
import BptCore.OrderGateway.Adapter.SendExecutor

/-!
# Orders that Binance replaces

Binance has no amendment: a modify cancels the order by its client id and places another, under the
client id with an `m` behind it. The venue orders of one gateway order are followed through cancels
and modifies, with what the HTTP calls come to.

* **`BinanceChain`** — the decoder, and the venue orders on behalf of one order.
* **`Faithful`** — they have its side, type and time in force, and their reports decode to its id.
* **`Addresses`** — a cancel or modify names the venue order that lives.
* **`replacements_iff`** — a run has both exactly when it places no replacement.
-/

namespace BptCore.OrderGateway

/-- A venue order as the venue holds it. -/
structure BinanceVenueOrder where
  symbol : String
  clientOrderId : String
  side : OrderSide
  orderType : OrderType
  tif : TimeInForce
  live : Bool := true
  deriving DecidableEq, Repr

/-- What an HTTP call comes to: the venue executes the request or not, and the call returns or
throws. -/
structure HttpOutcome where
  executed : Bool
  answered : Bool
  deriving DecidableEq, Repr

/-- The venue takes a request. A client id is unique among the live orders. -/
def takeRequest (orders : List BinanceVenueOrder) : VenueRequest → List BinanceVenueOrder
  | .newOrder symbol side orderType tif _ _ _ clientOrderId =>
    if orders.any fun o => o.live && o.clientOrderId == clientOrderId then orders
    else orders ++ [⟨symbol, clientOrderId, side, orderType, tif, true⟩]
  | .cancelByClientId symbol clientOrderId =>
    orders.map fun o =>
      if o.symbol = symbol ∧ o.clientOrderId = clientOrderId then { o with live := false } else o
  | _ => orders

/-- The calls of one hook, up to the first that throws: the orders, and the requests made. -/
def callAll (orders : List BinanceVenueOrder) :
    List (VenueRequest × HttpOutcome) → List BinanceVenueOrder × List VenueRequest
  | [] => (orders, [])
  | (request, outcome) :: calls =>
    let orders := if outcome.executed then takeRequest orders request else orders
    if outcome.answered then
      let rest := callAll orders calls
      (rest.1, request :: rest.2)
    else (orders, [request])

structure BinanceChain where
  decoder : BinanceExecDecoder := {}
  venueOrders : List BinanceVenueOrder := []

namespace BinanceChain

inductive Event where
  /-- another order is sent -/
  | otherOrder (orderId : Nat)
  | cancel (outcome : HttpOutcome)
  | modify (newPrice : Int) (newQuantity : Nat) (cancelled placed : HttpOutcome)
  /-- the venue fills or expires its order -/
  | ends (clientOrderId : String)
  deriving DecidableEq, Repr

variable (req : NewOrderRequest)

/-- What the gateway asks of the adapter. -/
def cancelRequest : CancelRequest := ⟨req.orderId, req.exchangeSymbol⟩

def modifyRequest (newPrice : Int) (newQuantity : Nat) : ModifyRequest :=
  ⟨req.orderId, newPrice, newQuantity, req.exchangeSymbol⟩

/-- One event, with the requests that it makes. -/
def step (c : BinanceChain) : Event → BinanceChain × List VenueRequest
  | .otherOrder orderId =>
    ({ c with decoder := c.decoder.registerOrder (clientOrderId "" orderId) orderId }, [])
  | .cancel outcome =>
    let requests := BinanceOrderAdapter.doSendCancelBlocking (cancelRequest req)
    let r := callAll c.venueOrders (requests.zip [outcome])
    ({ c with venueOrders := r.1 }, r.2)
  | .modify newPrice newQuantity cancelled placed =>
    let requests := BinanceOrderAdapter.doSendModifyBlocking (modifyRequest req newPrice newQuantity)
    let r := callAll c.venueOrders (requests.zip [cancelled, placed])
    ({ c with venueOrders := r.1 }, r.2)
  | .ends clientOrderId =>
    ({ c with venueOrders := c.venueOrders.map fun o =>
        if o.clientOrderId = clientOrderId then { o with live := false } else o }, [])

/-- The order has been sent, after others. -/
def sent (earlier : List Nat) : BinanceChain where
  decoder := (req.orderId :: earlier).foldr
    (fun id (d : BinanceExecDecoder) => d.registerOrder (clientOrderId "" id) id) {}
  venueOrders := (BinanceOrderAdapter.doSendNewOrderBlocking req).foldl takeRequest []

/-! ## What is asked of a run -/

/-- A report of the venue order, of a type that is not passed over. -/
def Reports (o : BinanceVenueOrder) (m : BinanceExecutionReport) : Prop :=
  m.eventType = "executionReport" ∧ m.clientOrderId = o.clientOrderId ∧
    m.execType ∈ ["NEW", "TRADE", "CANCELED", "EXPIRED", "REJECTED"]

/-- Every venue order is the order again, and its reports are the order's. -/
def Faithful (c : BinanceChain) : Prop :=
  ∀ o ∈ c.venueOrders,
    (o.side = req.side ∧ o.orderType = req.orderType ∧ o.tif = req.tif) ∧
    ∀ m recvNs, Reports o m →
      ∃ ev, c.decoder.handleExecutionReport m recvNs = some ev ∧ ev.orderId = req.orderId

/-- A cancel that the step makes is of the venue order that lives. -/
def Addresses (c : BinanceChain) (e : Event) : Prop :=
  ∀ symbol clientOrderId, .cancelByClientId symbol clientOrderId ∈ (step req c e).2 →
    ∀ o ∈ c.venueOrders, o.live = true → o.symbol = symbol ∧ o.clientOrderId = clientOrderId

/-- The step places no replacement. -/
def NoReplacement (_ : BinanceChain) : Event → Prop
  | .modify _ _ cancelled placed => ¬(cancelled.answered = true ∧ placed.executed = true)
  | _ => True

/-! ## The chain of one order -/

/-- The client ids are registered to their orders, and all venue orders are the one that was
sent. -/
structure Single (c : BinanceChain) : Prop where
  keys : ∀ cloid id, c.decoder.cloidToOrderId.lookup cloid = some id → cloid = clientOrderId "" id
  registered : c.decoder.cloidToOrderId.lookup (clientOrderId "" req.orderId) = some req.orderId
  same : ∀ o ∈ c.venueOrders, o.symbol = req.exchangeSymbol ∧
    o.clientOrderId = clientOrderId "" req.orderId ∧ o.side = req.side ∧
    o.orderType = req.orderType ∧ o.tif = req.tif

variable {req} {c : BinanceChain}

theorem lookup_registerOrder (d : BinanceExecDecoder) (cloid : String) (orderId : Nat)
    (cloid' : String) :
    (d.registerOrder cloid orderId).cloidToOrderId.lookup cloid' =
      if cloid' = cloid then some orderId else d.cloidToOrderId.lookup cloid' :=
  Table.lookup_insert_eq _ _ _ _

/-- The reports of a client id decode to an order exactly when the id is registered to it. -/
theorem decodes_iff (d : BinanceExecDecoder) (o : BinanceVenueOrder) (orderId : Nat) :
    (∀ m recvNs, Reports o m →
        ∃ ev, d.handleExecutionReport m recvNs = some ev ∧ ev.orderId = orderId) ↔
      d.orderIdOf o.clientOrderId = orderId ∧ orderId ≠ 0 := by
  constructor
  · intro h
    let m : BinanceExecutionReport := ⟨"executionReport", "NEW", o.clientOrderId, 0, "", "", 0, 0, 0,
      0, "", 0⟩
    obtain ⟨ev, hev, hid⟩ := h m 0 ⟨rfl, rfl, by simp [m]⟩
    unfold BinanceExecDecoder.handleExecutionReport at hev
    by_cases hzero : d.orderIdOf o.clientOrderId = 0
    · simp [m, hzero] at hev
    · simp [m, hzero, BinanceExecDecoder.reportStatus] at hev
      rw [← hev] at hid
      exact ⟨hid, hid ▸ hzero⟩
  · rintro ⟨hid, hne⟩ m recvNs ⟨htype, hcloid, hexec⟩
    unfold BinanceExecDecoder.handleExecutionReport
    rw [if_neg (not_not.mpr htype), hcloid, hid, if_neg hne]
    have hstatus : ∀ remaining, ∃ s, BinanceExecDecoder.reportStatus m.execType remaining = some s := by
      intro remaining
      simp only [List.mem_cons, List.not_mem_nil, or_false] at hexec
      rcases hexec with h | h | h | h | h <;> rw [h] <;>
        exact ⟨_, by simp [BinanceExecDecoder.reportStatus]; rfl⟩
    obtain ⟨s, hs⟩ := hstatus (if truncE8Nat m.quantity > truncE8Nat m.cumulativeQty then
      truncE8Nat m.quantity - truncE8Nat m.cumulativeQty else 0)
    dsimp only
    rw [hs]
    exact ⟨_, rfl, rfl⟩

theorem Single.faithful (h : Single req c) (hne : req.orderId ≠ 0) : Faithful req c := by
  intro o ho
  obtain ⟨-, hcloid, hcarried⟩ := h.same o ho
  refine ⟨hcarried, (decodes_iff c.decoder o req.orderId).mpr ⟨?_, hne⟩⟩
  rw [BinanceExecDecoder.orderIdOf, hcloid, h.registered]
  rfl

/-- Nothing is registered under the client id of a replacement. -/
theorem Single.orderIdOf_replacement (h : Single req c) (hne : req.orderId ≠ 0) :
    c.decoder.orderIdOf (clientOrderId "" req.orderId ++ "m") ≠ req.orderId := by
  intro hid
  unfold BinanceExecDecoder.orderIdOf at hid
  cases hlookup : c.decoder.cloidToOrderId.lookup (clientOrderId "" req.orderId ++ "m") with
  | none =>
    rw [hlookup] at hid
    exact hne hid.symm
  | some id =>
    rw [hlookup] at hid
    have hkey := h.keys _ id hlookup
    rw [show id = req.orderId from hid] at hkey
    have hlength := congrArg String.length hkey
    simp at hlength

/-- The venue orders are those before, some of them ended. -/
def Ends (orders orders' : List BinanceVenueOrder) : Prop :=
  ∀ o' ∈ orders', ∃ o ∈ orders, o' = o ∨ o' = { o with live := false }

theorem ends_map (orders : List BinanceVenueOrder) (p : BinanceVenueOrder → Prop)
    [DecidablePred p] :
    Ends orders (orders.map fun o => if p o then { o with live := false } else o) := by
  intro o' ho'
  obtain ⟨o, ho, rfl⟩ := List.mem_map.mp ho'
  refine ⟨o, ho, ?_⟩
  split
  · exact .inr rfl
  · exact .inl rfl

theorem Single.of_ends (h : Single req c) {orders : List BinanceVenueOrder}
    (hends : Ends c.venueOrders orders) : Single req { c with venueOrders := orders } where
  keys := h.keys
  registered := h.registered
  same o' ho' := by
    obtain ⟨o, ho, hkept⟩ := hends o' ho'
    have hsame := h.same o ho
    rcases hkept with rfl | rfl
    · exact hsame
    · exact hsame

theorem Ends.refl (orders : List BinanceVenueOrder) : Ends orders orders :=
  fun o ho => ⟨o, ho, .inl rfl⟩

/-- A cancel ends orders, if anything. -/
theorem ends_cancel (orders : List BinanceVenueOrder) (symbol clientOrderId : String)
    (executed : Bool) :
    Ends orders (if executed then takeRequest orders (.cancelByClientId symbol clientOrderId)
      else orders) := by
  split
  · exact ends_map orders fun o => o.symbol = symbol ∧ o.clientOrderId = clientOrderId
  · exact Ends.refl orders

/-- Registering an order keeps the client ids with their orders. -/
theorem Single.register (h : Single req c) (orderId : Nat) :
    Single req
      { c with decoder := c.decoder.registerOrder (clientOrderId "" orderId) orderId } where
  keys cloid id hlookup := by
    rw [lookup_registerOrder] at hlookup
    split at hlookup
    · next hcloid =>
      cases hlookup
      exact hcloid
    · exact h.keys cloid id hlookup
  registered := by
    rw [lookup_registerOrder]
    split
    · next hcloid => rw [clientOrderId_injective hcloid]
    · exact h.registered
  same := h.same

/-- The orders after a modify: the cancel, and when that returned and the other call got through,
the replacement. -/
theorem step_modify (c : BinanceChain) (newPrice : Int) (newQuantity : Nat)
    (cancelled placed : HttpOutcome) :
    let cancelledOrders := if cancelled.executed then
      takeRequest c.venueOrders (.cancelByClientId req.exchangeSymbol (clientOrderId "" req.orderId))
      else c.venueOrders
    (step req c (.modify newPrice newQuantity cancelled placed)).1 =
      { c with
        venueOrders := if cancelled.answered ∧ placed.executed then
          takeRequest cancelledOrders (.newOrder req.exchangeSymbol .BUY .LIMIT .GTC newPrice
            newQuantity 0 (clientOrderId "" req.orderId ++ "m"))
          else cancelledOrders } := by
  obtain ⟨_, answered⟩ := cancelled
  obtain ⟨executed, answered'⟩ := placed
  cases answered <;> cases executed <;> cases answered' <;> rfl

/-- Every cancel names the client id that the order was sent with. -/
theorem mem_step_cancel {e : Event} {symbol cloid : String}
    (h : .cancelByClientId symbol cloid ∈ (step req c e).2) :
    symbol = req.exchangeSymbol ∧ cloid = clientOrderId "" req.orderId := by
  cases e with
  | otherOrder | ends => exact absurd h List.not_mem_nil
  | cancel outcome =>
    obtain ⟨_, answered⟩ := outcome
    cases answered <;>
      simpa [step, BinanceOrderAdapter.doSendCancelBlocking, cancelRequest, callAll] using h
  | modify newPrice newQuantity cancelled placed =>
    obtain ⟨_, answered⟩ := cancelled
    obtain ⟨_, answered'⟩ := placed
    cases answered <;> cases answered' <;>
      simpa [step, BinanceOrderAdapter.doSendModifyBlocking, modifyRequest, callAll] using h

theorem Single.addresses (h : Single req c) (e : Event) : Addresses req c e := by
  intro symbol cloid hrequest o ho _
  obtain ⟨rfl, rfl⟩ := mem_step_cancel hrequest
  obtain ⟨hsymbol, hcloid, -⟩ := h.same o ho
  exact ⟨hsymbol, hcloid⟩

theorem Single.step (h : Single req c) {e : Event} (hno : NoReplacement c e) :
    Single req (step req c e).1 := by
  cases e with
  | otherOrder orderId => exact h.register orderId
  | cancel outcome =>
    have hstep : (BinanceChain.step req c (.cancel outcome)).1 = { c with
        venueOrders := if outcome.executed then
          takeRequest c.venueOrders (.cancelByClientId req.exchangeSymbol
            (clientOrderId "" req.orderId))
          else c.venueOrders } := by
      obtain ⟨_, answered⟩ := outcome
      cases answered <;> rfl
    rw [hstep]
    exact h.of_ends (ends_cancel _ _ _ _)
  | modify newPrice newQuantity cancelled placed =>
    rw [step_modify, if_neg hno]
    exact h.of_ends (ends_cancel _ _ _ _)
  | ends cloid => exact h.of_ends (ends_map c.venueOrders fun o => o.clientOrderId = cloid)

/-- A replacement has a client id that decodes to no order. -/
theorem Single.not_faithful (h : Single req c) (hne : req.orderId ≠ 0) {newPrice : Int}
    {newQuantity : Nat} {cancelled placed : HttpOutcome}
    (hplaced : cancelled.answered = true ∧ placed.executed = true) :
    ¬Faithful req (BinanceChain.step req c (.modify newPrice newQuantity cancelled placed)).1 := by
  intro hfaithful
  rw [step_modify, if_pos hplaced] at hfaithful
  have hends := ends_cancel c.venueOrders req.exchangeSymbol (clientOrderId "" req.orderId)
    cancelled.executed
  generalize (if cancelled.executed then _ else _) = orders at hends hfaithful
  -- none of the venue orders has the client id of the replacement
  have hfree : (orders.any fun o =>
      o.live && o.clientOrderId == clientOrderId "" req.orderId ++ "m") = false := by
    refine List.any_eq_false.mpr fun o ho hsame => ?_
    obtain ⟨-, hcloid, -⟩ := (h.of_ends hends).same o ho
    rw [hcloid] at hsame
    have hlength := congrArg String.length (eq_of_beq (Bool.and_eq_true_iff.mp hsame).2)
    simp at hlength
  obtain ⟨-, hdecodes⟩ := hfaithful
    ⟨req.exchangeSymbol, clientOrderId "" req.orderId ++ "m", .BUY, .LIMIT, .GTC, true⟩
    (by simp [takeRequest, hfree])
  exact h.orderIdOf_replacement hne ((decodes_iff _ _ _).mp hdecodes).1

theorem sent_single (earlier : List Nat) : Single req (sent req earlier) where
  keys := by
    show ∀ cloid id, (((req.orderId :: earlier).foldr
      (fun id (d : BinanceExecDecoder) => d.registerOrder (clientOrderId "" id) id)
        {}).cloidToOrderId.lookup cloid = some id → cloid = clientOrderId "" id)
    generalize req.orderId :: earlier = ids
    induction ids with
    | nil => intro cloid id hlookup; simp at hlookup
    | cons first ids ih =>
      intro cloid id hlookup
      rw [List.foldr_cons, lookup_registerOrder] at hlookup
      split at hlookup
      · next hcloid =>
        cases hlookup
        exact hcloid
      · exact ih cloid id hlookup
  registered := by
    show ((BinanceExecDecoder.registerOrder _ (clientOrderId "" req.orderId)
      req.orderId).cloidToOrderId.lookup _) = _
    rw [lookup_registerOrder, if_pos rfl]
  same o ho := by
    cases List.mem_singleton.mp ho
    exact ⟨rfl, rfl, rfl, rfl, rfl⟩

/-- **The chain of replacements.** Along a run every venue order is the gateway's order again and
decodes to it, and every cancel names the one that lives, exactly when the order has an id that
decodes at all and no replacement is placed. -/
theorem replacements_iff (req : NewOrderRequest) (earlier : List Nat) (es : List Event) :
    (Machine.AllStates (BinanceChain.step req) (Faithful req) (sent req earlier) es ∧
      Machine.AlongRun (BinanceChain.step req) (Addresses req) (sent req earlier) es) ↔
      req.orderId ≠ 0 ∧
        Machine.AlongRun (BinanceChain.step req) NoReplacement (sent req earlier) es := by
  have hstart : Single req (sent req earlier) := sent_single earlier
  have hkept : ∀ c e, Single req c → NoReplacement c e → Single req (BinanceChain.step req c e).1 :=
    fun _ _ h hno => h.step hno
  constructor
  · rintro ⟨hall, -⟩
    have hne : req.orderId ≠ 0 :=
      ((decodes_iff _ _ _).mp (hall.start _ (List.mem_singleton.mpr rfl)).2).2
    refine ⟨hne, hall.alongRun_of_kept (fun c e h hfaithful => ?_) hkept hstart⟩
    cases e with
    | modify newPrice newQuantity cancelled placed =>
      exact fun hplaced => h.not_faithful hne hplaced hfaithful
    | otherOrder | cancel | ends => trivial
  · rintro ⟨hne, hrun⟩
    have hsingle := Machine.AllStates.of_assumption hkept hstart hrun
    refine ⟨hsingle.imp fun _ h => h.faithful hne, ?_⟩
    exact Machine.AlongRun.of_assumption hkept (fun _ e h _ => h.addresses e) hstart hrun

/-! ## Where it goes wrong -/

def sell : NewOrderRequest where
  orderId := 7
  instrumentId := 1
  price := 100000000
  quantity := 100000000
  side := .SELL
  orderType := .LIMIT
  tif := .GTC
  execInst := 0
  exchangeSymbol := "BTCUSDT"

/-- The replacement of a sell is a buy, its reports are of no order, and the next cancel names the
order that it replaced. -/
theorem sell_replaced_by_buy :
    let replaced := BinanceChain.step sell (sent sell []) (.modify 90000000 100000000 ⟨true, true⟩
      ⟨true, true⟩)
    ¬Faithful sell replaced.1 ∧ ¬Addresses sell replaced.1 (.cancel ⟨true, true⟩) := by
  intro replaced
  have hmem : (⟨"BTCUSDT", "G7m", .BUY, .LIMIT, .GTC, true⟩ : BinanceVenueOrder) ∈
      replaced.1.venueOrders := by decide +kernel
  refine ⟨fun hfaithful => ?_, fun haddresses => ?_⟩
  · exact absurd (hfaithful _ hmem).1.1 (by decide)
  · have hcancel := haddresses "BTCUSDT" "G7" (by decide +kernel) _ hmem rfl
    exact absurd hcancel.2 (by decide)

end BinanceChain

end BptCore.OrderGateway
