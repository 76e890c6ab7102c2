import BptCore.Lib.Rounding
import BptCore.Strategy.Order.SendNewOrder
import BptCore.Strategy.Strategy.IStrategy
import Mathlib.Data.Rat.Floor
import Mathlib.Tactic.Linarith
import Mathlib.Tactic.NormNum

/-!
# The funding arbitrage strategy

For every base asset a pair of legs, spot and perpetual, that is entered when the funding rate pays
for it and left when it does not. The pair goes from state to state with the reports of its orders,
which may come from inside the call that sends an order: a callback ends at such a call, and what
follows is done when the call returns. The position tracker is left out: it is only logged.

The strategy turns its target notional into lots and puts them on the wire with five digits; the
gateway and the encoders of the venues read quantities with eight. What they read is about a
thousandth of what was meant.

* **`enterPosition`**, **`exitPosition`**, **`evaluatePair`** — the decisions on a tick.
* **`handleFill`**, **`handleTerminal`** — what a report does.
* **`sendLegOrder`**, **`sendReturned`** — a send up to the call of the gateway, and from its return.
* **`step`** — one callback, or the return of a call.
* **`Sized`** — a quantity that is worth the target, to within a lot, in whole lots.
* **`ofE8_computeLegQty_le`** — what the encoders read.
* **`sendLegOrder_not_sized`** — no order that the strategy sends is sized.
-/

namespace BptCore.Strategy

namespace FundingArb

inductive PairState where
  | IDLE | ENTERING_FIRST_LEG | ENTERING_SECOND_LEG | ACTIVE | EXITING_FIRST_LEG
  | EXITING_SECOND_LEG | UNWINDING
  deriving DecidableEq, Repr

inductive Leg where
  | spot | perp
  deriving DecidableEq, Repr

/-- An `exchangeId` of `none` is the enumeration's `NULL_VALUE`, an `orderId` of 0 no order. -/
structure LegState where
  instrumentId : Nat := 0
  symbol : String := ""
  exchangeId : Option ExchangeId := none
  tickSize : ℚ := 0
  lotSize : ℚ := 0
  bid : ℚ := 0
  ask : ℚ := 0
  lastBboNs : Nat := 0
  orderId : Nat := 0
  deriving DecidableEq, Repr

/-- A `direction` of 1 is long spot and short perpetual, one of -1 the other way round. -/
structure ArbPair where
  baseAsset : String
  spot : LegState := {}
  perp : LegState := {}
  state : PairState := .IDLE
  direction : Int := 0
  stableSignCount : Int := 0
  lastFundingSign : Int := 0
  spotEntryMid : ℚ := 0
  perpEntryMid : ℚ := 0
  spotFilledQty : Int := 0
  perpFilledQty : Int := 0
  entryTs : Nat := 0
  lastEvalTs : Nat := 0
  deriving DecidableEq, Repr

structure FundingRateEntry where
  rateBps : Int
  nextFundingTs : Nat

structure Config where
  minFundingRateBps : Int := 5
  exitFundingRateBps : Int := 2
  minStablePeriods : Int := 3
  minTimeBeforeFundingNs : Nat := 300000000000
  evalIntervalNs : Nat := 30000000000
  maxBasisLossBps : ℚ := 50
  targetNotionalUsd : ℚ := 1000
  orderTimeoutNs : Nat := 60000000000
  aggressBps : ℚ := 10
  baseAssets : List String := []
  /-- `order_gw_` is not null. -/
  hasOrderGw : Bool := true

/-- `get` of the cache: the funding rate of an instrument at a time. -/
abbrev FundingRateCache := Nat → Nat → Option FundingRateEntry

/-- What a callback still does after its send. -/
inductive AndThen where
  /-- `leg->order_id = 0` and `order_to_base_.erase`, for the order that a report was of. -/
  | closeLeg (leg : Leg) (orderId : Nat)
  /-- `pair.last_eval_ts`. -/
  | evaluated (nowNs : Nat)
  deriving DecidableEq, Repr

/-- A call of `send_new_order` in progress. -/
structure LegSend where
  base : String
  leg : Leg
  orderId : Nat
  andThen : AndThen
  deriving DecidableEq, Repr

end FundingArb

open FundingArb in
/-- The strategy with its sends in progress, innermost first. -/
structure FundingArb where
  pairs : Table String ArbPair := ∅
  instrumentToBase : Table Nat String := ∅
  orderToBase : Table Nat String := ∅
  nextOrderId : Nat
  sends : List LegSend := []

namespace FundingArb

/-- A call of the strategy. The snapshot comes with the ids that the configured instruments resolve
to. -/
inductive Callback where
  | instrumentSnapshot (cache : InstrumentCache) (allIds : List Nat)
  | instrumentDelta (inst : Instrument) (updateType : DeltaUpdateType)
  | bbo (tick : MdMarketData) (rates : FundingRateCache)
  | trade (tick : MdTrade)
  | execReport (rpt : ExecReport)
  /-- The innermost call of `send_new_order` returns. -/
  | sendReturned (accepted : Bool)

/-- A pair with the strategy's orders, while a callback works on it: the calls of the gateway, and
the leg and the id of the order that is being sent. -/
structure Work where
  pair : ArbPair
  orderToBase : Table Nat String
  nextOrderId : Nat
  sent : List GatewayCall := []
  sending : Option (Leg × Nat) := none

namespace ArbPair

variable (p : ArbPair)

def leg : Leg → LegState
  | .spot => p.spot
  | .perp => p.perp

def setOrderId (leg : Leg) (orderId : Nat) : ArbPair :=
  match leg with
  | .spot => { p with spot := { p.spot with orderId := orderId } }
  | .perp => { p with perp := { p.perp with orderId := orderId } }

def spotMid : ℚ := (p.spot.bid + p.spot.ask) / 2

def perpMid : ℚ := (p.perp.bid + p.perp.ask) / 2

end ArbPair

variable (cfg : Config)

/-! ## Orders -/

/-- A quantity in fixed point, of five digits. -/
def computeLegQty (p : ArbPair) (mid : ℚ) : Nat :=
  if mid ≤ 0 then 0
  else
    let targetBase := cfg.targetNotionalUsd / mid
    -- the coarser of the two lot sizes
    let coarser := max p.spot.lotSize p.perp.lotSize
    let lot := if coarser ≤ 0 then 1 / 100000 else coarser
    let rounded := (targetBase / lot).floor * lot
    if rounded ≤ 0 then 0 else (rounded * 100000 + 1 / 2).floor.toNat

/-- Through the spread, on the tick beyond. -/
def legPrice (leg : LegState) (side : OrderSide) : ℚ :=
  match side with
  | .BUY =>
    let price := leg.ask * (1 + cfg.aggressBps / 10000)
    if leg.tickSize > 0 then (price / leg.tickSize).ceil * leg.tickSize else price
  | .SELL =>
    let price := leg.bid * (1 - cfg.aggressBps / 10000)
    if leg.tickSize > 0 then (price / leg.tickSize).floor * leg.tickSize else price

def legOrder (orderId : Nat) (leg : LegState) (side : OrderSide) (qty : Nat) :
    OutboundNewOrder where
  orderId := orderId
  exchangeId := leg.exchangeId.getD .ALL
  instrumentId := leg.instrumentId
  side := side
  orderType := .LIMIT
  tif := .IOC
  price := roundE8 (legPrice cfg leg side)
  quantity := qty
  execInst := 0
  exchangeSymbol := leg.symbol

/-- `send_leg_order` up to the call of the gateway. -/
def sendLegOrder (w : Work) (leg : Leg) (side : OrderSide) (qty : Nat) : Work :=
  if cfg.hasOrderGw then
    let order := legOrder cfg w.nextOrderId (w.pair.leg leg) side qty
    { pair := w.pair.setOrderId leg order.orderId
      orderToBase := w.orderToBase.insert order.orderId w.pair.baseAsset
      nextOrderId := w.nextOrderId + 1
      sent := w.sent ++ [.sendNewOrder order]
      sending := some (leg, order.orderId) }
  else w

/-- The side that opens the spot leg, and that closes the perpetual. -/
def openSide (direction : Int) : OrderSide := if direction > 0 then .BUY else .SELL

/-- The side that opens the perpetual, and that closes the spot leg. -/
def closeSide (direction : Int) : OrderSide := if direction > 0 then .SELL else .BUY

/-! ## Decisions -/

/-- Spot goes first. -/
def enterPosition (w : Work) (direction : Int) (nowNs : Nat) : Work :=
  let qty := computeLegQty cfg w.pair w.pair.spotMid
  if qty = 0 then w
  else
    sendLegOrder cfg
      { w with
        pair :=
          { w.pair with
            direction := direction
            entryTs := nowNs
            spotEntryMid := w.pair.spotMid
            perpEntryMid := w.pair.perpMid
            state := .ENTERING_FIRST_LEG } }
      .spot (openSide direction) qty

/-- The perpetual goes first. -/
def exitPosition (w : Work) (nowNs : Nat) : Work :=
  sendLegOrder cfg
    { w with pair := { w.pair with entryTs := nowNs, state := .EXITING_FIRST_LEG } }
    .perp (openSide w.pair.direction) w.pair.perpFilledQty.natAbs

/-- The sign of the funding rate, and for how many evaluations it has held. -/
def trackSign (p : ArbPair) (rateBps : Int) : ArbPair :=
  let sign := rateBps.sign
  { p with
    stableSignCount :=
      if sign = p.lastFundingSign ∧ sign ≠ 0 then p.stableSignCount + 1
      else if sign ≠ 0 then 1 else 0
    lastFundingSign := sign }

def shouldEnter (p : ArbPair) (fr : FundingRateEntry) (nowNs : Nat) : Bool :=
  |fr.rateBps| ≥ cfg.minFundingRateBps ∧ p.stableSignCount ≥ cfg.minStablePeriods ∧
    (fr.nextFundingTs = 0 ∨ fr.nextFundingTs > nowNs + cfg.minTimeBeforeFundingNs)

/-- The rate reverted or flipped, or the basis moved too far. -/
def shouldExit (p : ArbPair) (fr : Option FundingRateEntry) : Bool :=
  (∃ r ∈ fr, |r.rateBps| < cfg.exitFundingRateBps ∨
    (p.direction > 0 ∧ r.rateBps < 0 ∨ p.direction < 0 ∧ r.rateBps > 0)) ∨
  |(p.perpMid - p.spotMid) - (p.perpEntryMid - p.spotEntryMid)| / p.spotMid * 10000 >
    cfg.maxBasisLossBps

/-- The cancel of an order of the leg that is out for too long. -/
def cancelOverdue (w : Work) (leg : LegState) (nowNs : Nat) : Work :=
  if leg.orderId ≠ 0 ∧ u64Sub nowNs w.pair.entryTs > cfg.orderTimeoutNs ∧ cfg.hasOrderGw then
    { w with
      sent := w.sent ++ [.sendCancel
        { orderId := leg.orderId
          exchangeId := leg.exchangeId.getD .ALL
          instrumentId := leg.instrumentId }] }
  else w

def evaluatePair (rates : FundingRateCache) (w : Work) (nowNs : Nat) : Work :=
  let fr := rates w.pair.perp.instrumentId nowNs
  match w.pair.state with
  | .IDLE =>
    match fr with
    | none => w
    | some r =>
      let w := { w with pair := trackSign w.pair r.rateBps }
      if shouldEnter cfg w.pair r nowNs then
        enterPosition cfg w (if r.rateBps > 0 then 1 else -1) nowNs
      else w
  | .ACTIVE => if shouldExit cfg w.pair fr then exitPosition cfg w nowNs else w
  | .ENTERING_FIRST_LEG => cancelOverdue cfg w w.pair.spot nowNs
  | .ENTERING_SECOND_LEG => cancelOverdue cfg w w.pair.perp nowNs
  | .EXITING_FIRST_LEG | .EXITING_SECOND_LEG | .UNWINDING => w

/-! ## What a report does -/

def handleFill (p : ArbPair) (leg : LegState) (rpt : ExecReport) : ArbPair :=
  if leg.instrumentId = p.spot.instrumentId then
    { p with spotFilledQty := p.spotFilledQty + rpt.side.signed rpt.filledQty }
  else { p with perpFilledQty := p.perpFilledQty + rpt.side.signed rpt.filledQty }

/-- What the end of an exit, and of an unwind, leaves: both counters are reset, whatever the last
order came to. -/
def ArbPair.flattened (p : ArbPair) : ArbPair :=
  { p with
    state := .IDLE
    direction := 0
    spotFilledQty := 0
    perpFilledQty := 0
    stableSignCount := 0 }

/-- The next state is decided by the status alone. -/
def handleTerminal (w : Work) (status : ExecStatus) : Work :=
  match w.pair.state with
  | .ENTERING_FIRST_LEG =>
    if status = .FILLED then
      -- the quantity is computed anew, from the mid of now
      sendLegOrder cfg { w with pair := { w.pair with state := .ENTERING_SECOND_LEG } } .perp
        (closeSide w.pair.direction) (computeLegQty cfg w.pair w.pair.spotMid)
    else { w with pair := { w.pair with state := .IDLE, direction := 0 } }
  | .ENTERING_SECOND_LEG =>
    if status = .FILLED then { w with pair := { w.pair with state := .ACTIVE } }
    else
      sendLegOrder cfg { w with pair := { w.pair with state := .UNWINDING } } .spot
        (closeSide w.pair.direction) w.pair.spotFilledQty.natAbs
  | .EXITING_FIRST_LEG =>
    if status = .FILLED then
      sendLegOrder cfg { w with pair := { w.pair with state := .EXITING_SECOND_LEG } } .spot
        (closeSide w.pair.direction) w.pair.spotFilledQty.natAbs
    else { w with pair := { w.pair with state := .ACTIVE } }
  | .EXITING_SECOND_LEG | .UNWINDING => { w with pair := w.pair.flattened }
  | .IDLE | .ACTIVE => w

def Work.andThen (w : Work) : AndThen → Work
  | .closeLeg leg orderId =>
    { w with pair := w.pair.setOrderId leg 0, orderToBase := w.orderToBase.erase orderId }
  | .evaluated nowNs => { w with pair := { w.pair with lastEvalTs := nowNs } }

/-! ## Callbacks -/

variable (s : FundingArb)

def work (p : ArbPair) : Work where
  pair := p
  orderToBase := s.orderToBase
  nextOrderId := s.nextOrderId

/-- What the work on the pair leaves. -/
def commit (base : String) (w : Work) : FundingArb :=
  { s with
    pairs := s.pairs.insert base w.pair
    orderToBase := w.orderToBase
    nextOrderId := w.nextOrderId }

/-- The rest of a callback is put off when it has sent an order. -/
def finish (base : String) (w : Work) (andThen : AndThen) : FundingArb × List GatewayCall :=
  match w.sending with
  | some (leg, orderId) =>
    ({ s.commit base w with sends := ⟨base, leg, orderId, andThen⟩ :: s.sends }, w.sent)
  | none => (s.commit base (w.andThen andThen), w.sent)

/-- `send_leg_order` from the return of the gateway on, and the rest of the callback. -/
def sendReturned (accepted : Bool) : FundingArb :=
  match s.sends with
  | [] => s
  | send :: sends =>
    let s := { s with sends := sends }
    match s.pairs.lookup send.base with
    | none => s
    | some p =>
      let w := s.work p
      let w := if accepted then w else w.andThen (.closeLeg send.leg send.orderId)
      s.commit send.base (w.andThen send.andThen)

def makeLeg (id : Nat) (inst : Instrument) : LegState where
  instrumentId := id
  symbol := inst.symbol
  exchangeId := toExchangeId inst.exchange
  tickSize := inst.tickSize
  lotSize := inst.lotSize

/-- The instrument takes its leg of the pair. -/
def addLeg (cache : InstrumentCache) (p : ArbPair) (id : Nat) : ArbPair :=
  match cache id with
  | none => p
  | some inst =>
    if inst.baseCurrency ≠ p.baseAsset then p
    else
      match inst.type with
      | .SPOT => { p with spot := makeLeg id inst }
      | .PERPETUAL => { p with perp := makeLeg id inst }
      | _ => p

/-- A pair that misses a leg is skipped. -/
def addPair (cache : InstrumentCache) (allIds : List Nat) (s : FundingArb) (base : String) :
    FundingArb :=
  let p := allIds.foldl (addLeg cache) { baseAsset := base }
  if p.spot.instrumentId = 0 ∨ p.perp.instrumentId = 0 then s
  else
    { s with
      instrumentToBase :=
        (s.instrumentToBase.insert p.spot.instrumentId base).insert p.perp.instrumentId base
      pairs := s.pairs.emplace base p }

/-- The pairs are made anew, without a look at what they hold. -/
def onInstrumentSnapshot (cache : InstrumentCache) (allIds : List Nat) : FundingArb :=
  cfg.baseAssets.foldl (addPair cache allIds) { nextOrderId := s.nextOrderId }

/-- The leg that the tick is of takes its prices. -/
def setBbo (p : ArbPair) (tick : MdMarketData) : ArbPair :=
  if tick.instrumentId = p.spot.instrumentId then
    { p with
      spot :=
        { p.spot with bid := tick.bidPrice, ask := tick.askPrice, lastBboNs := tick.timestampNs } }
  else
    { p with
      perp :=
        { p.perp with bid := tick.bidPrice, ask := tick.askPrice, lastBboNs := tick.timestampNs } }

/-- An evaluation is due. -/
def evalDue (p : ArbPair) (nowNs : Nat) : Bool :=
  p.spot.lastBboNs ≠ 0 ∧ p.perp.lastBboNs ≠ 0 ∧ cfg.evalIntervalNs ≤ u64Sub nowNs p.lastEvalTs

def onBbo (rates : FundingRateCache) (tick : MdMarketData) : FundingArb × List GatewayCall :=
  match s.instrumentToBase.lookup tick.instrumentId with
  | none => (s, [])
  | some base =>
    match s.pairs.lookup base with
    | none => (s, [])
    | some p =>
      if tick.bidPrice ≤ 0 ∨ tick.askPrice ≤ 0 ∨ tick.askPrice ≤ tick.bidPrice then (s, [])
      else
        let p := setBbo p tick
        if evalDue cfg p tick.timestampNs then
          s.finish base (evaluatePair cfg rates (s.work p) tick.timestampNs)
            (.evaluated tick.timestampNs)
        else (s.commit base (s.work p), [])

/-- The pair and the leg that the order is of. -/
def findLeg (orderId : Nat) : Option (String × ArbPair × Leg) :=
  match s.orderToBase.lookup orderId with
  | none => none
  | some base =>
    match s.pairs.lookup base with
    | none => none
    | some p =>
      if p.spot.orderId = orderId then some (base, p, .spot)
      else if p.perp.orderId = orderId then some (base, p, .perp)
      else none

def onExecReport (rpt : ExecReport) : FundingArb × List GatewayCall :=
  match s.findLeg rpt.orderId with
  | none => (s, [])
  | some (base, p, leg) =>
    let p := if rpt.status.isFill then handleFill p (p.leg leg) rpt else p
    if rpt.status.terminal then
      s.finish base (handleTerminal cfg (s.work p) rpt.status) (.closeLeg leg rpt.orderId)
    else (s.commit base (s.work p), [])

theorem findLeg_eq_some {s : FundingArb} {orderId : Nat} {base : String} {p : ArbPair} {leg : Leg}
    (h : s.findLeg orderId = some (base, p, leg)) :
    s.orderToBase.lookup orderId = some base ∧ s.pairs.lookup base = some p ∧
      (p.leg leg).orderId = orderId := by
  unfold findLeg at h
  split at h
  · cases h
  · next hbase =>
    split at h
    · cases h
    · next hp =>
      split at h
      · next hspot =>
        cases h
        exact ⟨hbase, hp, hspot⟩
      · split at h
        · next hperp =>
          cases h
          exact ⟨hbase, hp, hperp⟩
        · cases h

/-- While a call of the gateway is in progress, nothing but reports comes. -/
def step (s : FundingArb) : Callback → FundingArb × List GatewayCall
  | .instrumentSnapshot cache allIds =>
    if s.sends = [] then (s.onInstrumentSnapshot cfg cache allIds, []) else (s, [])
  -- the pairs are those of the snapshot, and trades are not used
  | .instrumentDelta _ _ => (s, [])
  | .trade _ => (s, [])
  | .bbo tick rates => if s.sends = [] then s.onBbo cfg rates tick else (s, [])
  | .execReport rpt => s.onExecReport cfg rpt
  | .sendReturned accepted => (s.sendReturned accepted, [])

/-! ## One pair -/

def btcSpot : Instrument where
  instrumentId := 102
  symbol := "BTC-USDT"
  exchange := "OKX"
  baseCurrency := "BTC"
  quoteCurrency := "USDT"
  type := .SPOT
  status := .ACTIVE
  lotSize := 1 / 100
  tickSize := 1
  contractSize := 1
  expiryDate := 0
  optionSide := .NA
  strikePrice := 0

def btcPerp : Instrument :=
  { btcSpot with instrumentId := 202, symbol := "BTC-USDT-SWAP", type := .PERPETUAL }

def btcCache : InstrumentCache := fun id =>
  if id = 102 then some btcSpot else if id = 202 then some btcPerp else none

/-- The pair is evaluated on every tick, and entered at the first rate that pays. -/
def btcConfig : Config where
  minStablePeriods := 1
  evalIntervalNs := 0
  baseAssets := ["BTC"]

def btcTick (instrumentId timestampNs : Nat) (bidPrice askPrice : ℚ) (rateBps : Int) : Callback :=
  .bbo
    { timestampNs := timestampNs
      instrumentId := instrumentId
      bidPrice := bidPrice
      bidQty := 1
      askPrice := askPrice
      askQty := 1
      seqNum := 0 }
    fun _ _ => some { rateBps := rateBps, nextFundingTs := 0 }

def btcReport (orderId : Nat) (status : ExecStatus) (side : OrderSide) (filledQty : Nat) :
    Callback :=
  .execReport
    { orderId := orderId
      exchangeOrderId := orderId
      exchangeId := .OKX
      instrumentId := 0
      status := status
      side := side
      orderType := .LIMIT
      price := 10000000000
      filledQty := filledQty
      remainingQty := 0
      rejectReason := .OK
      fee := 0
      feeCurrency := ""
      exchangeTsNs := 0
      localTsNs := 0 }

/-- The pair at a mid of 100, at a rate that pays for ten coins, up to the first order. -/
def btcEntry : List Callback :=
  [.instrumentSnapshot btcCache [102, 202], btcTick 102 1 99 101 10, btcTick 202 1 99 101 10]

end FundingArb

end BptCore.Strategy

namespace BptCore.Strategy.FundingArb

/-! ## The quantity of a leg -/

open Grid

/-- The coarser of the two lot sizes, or the fallback when neither is positive. -/
def effectiveLot (p : ArbPair) : ℚ :=
  if max p.spot.lotSize p.perp.lotSize ≤ 0 then 1 / 100000
  else max p.spot.lotSize p.perp.lotSize

/-- The quantity of an order, as the encoders read it, is worth at most the target and at least the
target less a lot, and is a multiple of the lot. -/
structure Sized (target mid lot : ℚ) (quantity : Nat) : Prop where
  atMost : ofE8 quantity * mid ≤ target
  within : target - ofE8 quantity * mid ≤ lot * mid
  multiple : IsMultiple lot (ofE8 quantity)

theorem effectiveLot_pos (p : ArbPair) : 0 < effectiveLot p := by
  unfold effectiveLot
  split
  · norm_num
  · next hcoarser => exact not_le.mp hcoarser

/-- A quantity is the target in whole lots, with five digits. -/
theorem computeLegQty_eq {cfg : Config} {p : ArbPair} {mid : ℚ}
    (hqty : computeLegQty cfg p mid ≠ 0) :
    0 < mid ∧ 0 < roundDown (effectiveLot p) (cfg.targetNotionalUsd / mid) ∧
      computeLegQty cfg p mid =
        (roundDown (effectiveLot p) (cfg.targetNotionalUsd / mid) * 100000 + 1 / 2).floor.toNat := by
  unfold computeLegQty at hqty ⊢
  by_cases hmid : mid ≤ 0
  · exact absurd (if_pos hmid) hqty
  · rw [if_neg hmid] at hqty
    by_cases hrounded : roundDown (effectiveLot p) (cfg.targetNotionalUsd / mid) ≤ 0
    · exact absurd (if_pos hrounded) hqty
    · exact ⟨not_le.mp hmid, not_le.mp hrounded, (if_neg hmid).trans (if_neg hrounded)⟩

/-- What the encoders read is positive, but no more than a five hundredth of the whole lots. -/
theorem ofE8_computeLegQty_le {cfg : Config} {p : ArbPair} {mid : ℚ}
    (hqty : computeLegQty cfg p mid ≠ 0) :
    0 < ofE8 (computeLegQty cfg p mid) ∧
      ofE8 (computeLegQty cfg p mid) ≤
        roundDown (effectiveLot p) (cfg.targetNotionalUsd / mid) / 500 := by
  obtain ⟨-, -, hfloor⟩ := computeLegQty_eq hqty
  let lots := roundDown (effectiveLot p) (cfg.targetNotionalUsd / mid)
  let fixed := (lots * 100000 + 1 / 2).floor
  have hone : 1 ≤ fixed := by
    have hpos := Nat.pos_of_ne_zero hqty
    rw [hfloor] at hpos
    exact Int.pos_iff_toNat_pos.mpr hpos
  have hcast : ((computeLegQty cfg p mid : ℕ) : ℤ) = fixed := by
    rw [hfloor]
    exact Int.toNat_of_nonneg (by omega)
  have hle : (fixed : ℚ) ≤ lots * 100000 + 1 / 2 := Rat.le_floor_iff.mp le_rfl
  have hone' : (1 : ℚ) ≤ fixed := by exact_mod_cast hone
  rw [hcast, ofE8, kScale]
  constructor
  · exact div_pos (by linarith) (by norm_num)
  · rw [div_le_iff₀ (by norm_num)]
    show (fixed : ℚ) ≤ lots / 500 * 100000000
    linarith

/-- A positive multiple of a lot is at least a lot. -/
theorem le_of_isMultiple {lot x : ℚ} (hlot : 0 < lot) (hx : 0 < x) (h : IsMultiple lot x) :
    lot ≤ x := by
  obtain ⟨k, rfl⟩ := h
  have hk : (0 : ℚ) < k := pos_of_mul_pos_left hx hlot.le
  have hk' : (1 : ℚ) ≤ k := by exact_mod_cast hk
  exact le_mul_of_one_le_left hlot.le hk'

/-- A quantity that the strategy computes is not sized. -/
theorem not_sized_computeLegQty {cfg : Config} {p : ArbPair} {mid : ℚ}
    (hqty : computeLegQty cfg p mid ≠ 0) :
    ¬ Sized cfg.targetNotionalUsd mid (effectiveLot p) (computeLegQty cfg p mid) := by
  rintro ⟨-, hwithin, hmultiple⟩
  obtain ⟨hmid, -, -⟩ := computeLegQty_eq hqty
  obtain ⟨hpos, hle⟩ := ofE8_computeLegQty_le hqty
  have hlot := effectiveLot_pos p
  have hread := le_of_isMultiple hlot hpos hmultiple
  have hlots := (roundDown_spec hlot (cfg.targetNotionalUsd / mid)).1
  -- within a lot there is at most one lot more than what is read, and that is a lot at least
  have htarget : cfg.targetNotionalUsd / mid ≤
      ofE8 (computeLegQty cfg p mid) + effectiveLot p := by
    rw [div_le_iff₀ hmid, add_mul]
    linarith
  linarith

/-- **The order.** Whatever the pair, the leg and the side: the order that goes out is not worth the
target in whole lots. -/
theorem sendLegOrder_not_sized (cfg : Config) (w : Work) (leg : Leg) (side : OrderSide) (mid : ℚ)
    (hgw : cfg.hasOrderGw = true) (hqty : computeLegQty cfg w.pair mid ≠ 0) :
    ∃ order,
      (sendLegOrder cfg w leg side (computeLegQty cfg w.pair mid)).sent =
        w.sent ++ [.sendNewOrder order] ∧
      ¬ Sized cfg.targetNotionalUsd mid (effectiveLot w.pair) order.quantity := by
  refine ⟨legOrder cfg w.nextOrderId (w.pair.leg leg) side (computeLegQty cfg w.pair mid), ?_, ?_⟩
  · rw [sendLegOrder, if_pos hgw]
  · exact not_sized_computeLegQty hqty

/-- One lot of 0.001 is meant. -/
theorem sendLegOrder_not_sized_oneLot :
    let w : Work :=
      { pair := { baseAsset := "BTC", spot := { lotSize := 1 / 1000 } }
        orderToBase := ∅
        nextOrderId := 1 }
    computeLegQty { targetNotionalUsd := 1 / 10 } w.pair 100 ≠ 0 ∧
      ∃ order,
        (sendLegOrder { targetNotionalUsd := 1 / 10 } w .spot .BUY
            (computeLegQty { targetNotionalUsd := 1 / 10 } w.pair 100)).sent =
          w.sent ++ [.sendNewOrder order] ∧
        ¬ Sized (1 / 10) 100 (effectiveLot w.pair) order.quantity := by
  intro w
  exact ⟨by decide +kernel,
    sendLegOrder_not_sized { targetNotionalUsd := 1 / 10 } w .spot .BUY 100 rfl
      (by decide +kernel)⟩

/-- A thousand dollars at a mid of 100, in lots of 0.001: 10 are meant, 0.01 are read. -/
theorem computeLegQty_thousandDollars :
    let p : ArbPair := { baseAsset := "BTC", spot := { lotSize := 1 / 1000 } }
    computeLegQty { targetNotionalUsd := 1000 } p 100 = 1000000 ∧ ofE8 1000000 = 1 / 100 ∧
      ¬ Sized 1000 100 (effectiveLot p) 1000000 :=
  ⟨by decide +kernel, by decide +kernel, fun h => absurd h.within (by decide +kernel)⟩

end BptCore.Strategy.FundingArb
