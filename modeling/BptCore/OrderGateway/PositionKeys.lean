import BptCore.OrderGateway.Adapter.ExecDecoder
import BptCore.OrderGateway.OrderProcessor

/-!
# Under which instrument a fill is booked

The gateway with its decoders closed into one loop: the processor sends an order on some
exchange and instrument, the venue reports its fills, the decoder of the venue makes exchange
events of the reports, and the processor books those. The gate then reads the position under the
exchange and instrument of the next order.

* **`TradedGateway`** — the processor and the decoders, with a record of what was sent where and
  what the venues filled of it.
* **`PositionsExact`** — every position the gate can read is the sum of what was filled on that
  exchange and instrument, and the tracker is the one that books every fill there.
* **`positions_exact_iff`** — when this holds.
-/

namespace BptCore.OrderGateway

open Machine

namespace ExecDecoder

/-- What the adapter tells its decoder of an order: the client id when the order is sent, and on
Hyperliquid the venue's id, with the quantity, once the venue has answered. -/
def register (o : VenueOrder) : ExecDecoder → ExecDecoder
  | .binance d => .binance (d.registerOrder o.clientOrderId o.orderId)
  | .okx d => .okx (d.registerOrder o.clientOrderId o.orderId)
  | .deribit d => .deribit (d.registerOrder o.clientOrderId o.orderId)
  | .hyperliquid d => .hyperliquid (d.registerOrder o.exchangeOrderId o.orderId o.quantity)

theorem venue_register (o : VenueOrder) (dec : ExecDecoder) :
    (dec.register o).venue = dec.venue := by
  cases dec <;> rfl

end ExecDecoder

/-- The decoder of every exchange. No message ever comes from the wildcard. -/
structure Decoders where
  decoder : ExchangeId → ExecDecoder
  venue_decoder : ∀ ex, ex ≠ .ALL → (decoder ex).venue = ex

namespace Decoders

variable (ds : Decoders)

/-- Decoders that know no order. -/
def init (exchOidNumber : String → Nat) : Decoders where
  decoder
    | .ALL | .BINANCE => .binance {}
    | .OKX => .okx {}
    | .DERIBIT => .deribit { exchOidNumber := exchOidNumber }
    | .HYPERLIQUID => .hyperliquid {}
  venue_decoder ex hex := by cases ex <;> first | rfl | exact absurd rfl hex

/-- Replace one decoder by another one of the same venue. -/
def set (ex : ExchangeId) (dec : ExecDecoder) (h : dec.venue = (ds.decoder ex).venue) :
    Decoders where
  decoder := Function.update ds.decoder ex dec
  venue_decoder ex' hex' := by
    by_cases heq : ex' = ex
    · subst heq
      rw [Function.update_self, h]
      exact ds.venue_decoder ex' hex'
    · rw [Function.update_of_ne heq]
      exact ds.venue_decoder ex' hex'

def register (ex : ExchangeId) (o : VenueOrder) : Decoders :=
  ds.set ex ((ds.decoder ex).register o) (ExecDecoder.venue_register o _)

def decode (ex : ExchangeId) (m : VenueMessage) (recvNs : Nat) : Decoders × Option ExecEvent :=
  let out := (ds.decoder ex).decode m recvNs
  (ds.set ex out.1 (ExecDecoder.venue_decode _ m recvNs), out.2)

end Decoders

/-- Where an order was sent, and what the venue has filled of it. -/
structure Placement where
  exchangeId : ExchangeId
  instrumentId : Nat
  side : OrderSide
  filled : Nat := 0

structure TradedGateway where
  processor : OrderProcessor
  decoders : Decoders
  /-- The orders sent, by id. -/
  placed : Table Nat Placement := ∅
  /-- The signed sum of the filled quantities of the orders sent to the exchange for the
  instrument. -/
  position : ExchangeId → Nat → Int := fun _ _ => 0
  /-- The tracker that is told the exchange and instrument of every fill. -/
  reference : PnlTracker := {}

/-- A report of a venue on the order: a message that leaves `cumulative` of it filled. -/
structure VenueReport where
  order : VenueOrder
  message : VenueMessage
  cumulative : Nat
  recvNs : Nat
  nowNs : Nat

inductive GatewayEvent where
  /-- A request, or the timer; exchange events come from the decoders only. -/
  | request (e : ProcessorEvent)
  | register (ex : ExchangeId) (o : VenueOrder)
  | report (r : VenueReport)

namespace TradedGateway

variable (cfg : ProcessorSettings) (s : TradedGateway)

def init (exchOidNumber : String → Nat) : TradedGateway :=
  { processor := OrderProcessor.init cfg, decoders := Decoders.init exchOidNumber }

/-- An order handed to an adapter is placed there. -/
def place (placed : Table Nat Placement) : Effect → Table Nat Placement
  | .call adapter (.sendNewOrder order) =>
    placed.insert order.orderId
      { exchangeId := adapter, instrumentId := order.instrumentId, side := order.side }
  | _ => placed

/-- The decoder's event, if any, goes to the processor. -/
def deliver (p : OrderProcessor) (ev? : Option ExecEvent) (nowNs : Nat) :
    OrderProcessor × List Effect :=
  match ev? with
  | some ev => p.onExecEvent cfg ev nowNs
  | none => (p, [])

/-- A quantity of nothing is not booked. -/
def bookSlice (t : PnlTracker) (ex : ExchangeId) (inst : Nat) (side : OrderSide) (price : Int)
    (qty recvNs : Nat) : PnlTracker :=
  if qty > 0 then t.onFill ex inst side price qty recvNs else t

/-- A report takes its order from what was filled of it to the report's quantity. -/
def onReport (pl : Placement) (r : VenueReport) : TradedGateway × List Effect :=
  let slice := r.cumulative - pl.filled
  let decoded := s.decoders.decode pl.exchangeId r.message r.recvNs
  let delivered := deliver cfg s.processor decoded.2 r.nowNs
  ({ processor := delivered.1
     decoders := decoded.1
     placed := s.placed.insert r.order.orderId { pl with filled := r.cumulative }
     position := fun ex inst => s.position ex inst +
       if ex = pl.exchangeId ∧ inst = pl.instrumentId then pl.side.signed slice else 0
     reference := bookSlice s.reference pl.exchangeId pl.instrumentId pl.side
       (wirePrice r.message) slice r.recvNs },
   delivered.2)

def step (s : TradedGateway) : GatewayEvent → TradedGateway × List Effect
  | .request e =>
    let out := s.processor.step cfg e
    ({ s with processor := out.1, placed := out.2.foldl place s.placed }, out.2)
  | .register ex o => ({ s with decoders := s.decoders.register ex o }, [])
  | .report r =>
    match s.placed.lookup r.order.orderId with
    | some pl => s.onReport cfg pl r
    | none => (s, [])

/-- The report is on the order placed so, which the decoder of its exchange knows; it is true of
the order, and the cumulative quantity does not fall. -/
structure Reports (pl : Placement) (r : VenueReport) : Prop where
  side : pl.side = r.order.side
  knows : (s.decoders.decoder pl.exchangeId).Knows r.order pl.filled
  describes :
    (s.decoders.decoder pl.exchangeId).Describes r.order pl.filled r.cumulative r.message
  filled_le : pl.filled ≤ r.cumulative

instance (pl : Placement) (r : VenueReport) : Decidable (s.Reports pl r) :=
  decidable_of_iff (_ ∧ _ ∧ _ ∧ _)
    ⟨fun h => ⟨h.1, h.2.1, h.2.2.1, h.2.2.2⟩, fun h => ⟨h.1, h.2, h.3, h.4⟩⟩

/-- What the requests and the venues keep to. Instrument ids fit the 56 bits that the tracker
has for them, and a report is one on an order that was sent. -/
def Lawful : GatewayEvent → Prop
  | .request (.execEvent _ _) => False
  | .request (.newOrder order _ _ _) => order.instrumentId < 2 ^ 56
  | .request _ => True
  | .register _ _ => True
  | .report r => ∃ pl ∈ s.placed.lookup r.order.orderId, s.Reports pl r

instance (e : GatewayEvent) : Decidable (s.Lawful e) :=
  match e with
  | .request (.execEvent _ _) => isFalse id
  | .request (.newOrder _ _ _ _) => inferInstanceAs (Decidable (_ < _))
  | .request (.cancel _) | .request (.cancelAll _) | .request (.modify _)
  | .request (.checkStaleOrders _ _) | .register _ _ => isTrue trivial
  | .report r =>
    inferInstanceAs (Decidable (∃ pl ∈ s.placed.lookup r.order.orderId, s.Reports pl r))

/-- The positions the gate reads are the real ones, and the realized P&L is computed from every
fill on its own instrument. -/
structure PositionsExact : Prop where
  position : ∀ ex inst, inst < 2 ^ 56 →
    s.processor.riskGate.pnlTracker.netQtyE8 ex inst = s.position ex inst
  tracker : s.processor.riskGate.pnlTracker = s.reference

/-- The quantity of the fill that a report's message makes; 0 when it makes none. -/
def wireQty (o : VenueOrder) (cum cum' : Nat) (m : VenueMessage) : Nat :=
  match wireFill o cum cum' m with
  | some (q, _) => q
  | none => 0

/-- The report on the order placed so brings no quantity and carries none, or it carries what it
brings and the order is on instrument 0. -/
def SliceKept (pl : Placement) (r : VenueReport) : Prop :=
  let slice := r.cumulative - pl.filled
  let carried := wireQty r.order pl.filled r.cumulative r.message
  (slice = 0 ∧ carried = 0) ∨ (pl.instrumentId = 0 ∧ carried = slice)

instance (pl : Placement) (r : VenueReport) : Decidable (SliceKept pl r) :=
  inferInstanceAs (Decidable ((_ ∧ _) ∨ (_ ∧ _)))

/-- The event is no report, or one whose slice is kept. -/
def KeptApart : GatewayEvent → Prop
  | .report r => ∀ pl ∈ s.placed.lookup r.order.orderId, SliceKept pl r
  | .request _ | .register _ _ => True

instance (e : GatewayEvent) : Decidable (s.KeptApart e) :=
  match e with
  | .report r =>
    inferInstanceAs (Decidable (∀ pl ∈ s.placed.lookup r.order.orderId, SliceKept pl r))
  | .request _ | .register _ _ => isTrue trivial

/-- Every order was sent to a registered exchange, for an instrument of 56 bits. -/
def PlacedWell : Prop :=
  Table.AllVals (fun pl => pl.exchangeId ∈ cfg.adapters ∧ pl.instrumentId < 2 ^ 56) s.placed

variable {cfg s}

theorem PlacedWell.foldl_place {effs : List Effect} {placed : Table Nat Placement}
    (h : Table.AllVals (fun pl => pl.exchangeId ∈ cfg.adapters ∧ pl.instrumentId < 2 ^ 56) placed)
    (heffs : ∀ adapter order, .call adapter (.sendNewOrder order) ∈ effs →
      adapter ∈ cfg.adapters ∧ order.instrumentId < 2 ^ 56) :
    Table.AllVals (fun pl => pl.exchangeId ∈ cfg.adapters ∧ pl.instrumentId < 2 ^ 56)
      (effs.foldl place placed) := by
  induction effs generalizing placed with
  | nil => exact h
  | cons eff effs ih =>
    refine ih ?_ fun adapter order hmem => heffs adapter order (List.mem_cons_of_mem _ hmem)
    unfold place
    split
    · next adapter order => exact h.insert (heffs adapter order List.mem_cons_self) _
    · exact h

theorem PlacedWell.step {e : GatewayEvent} (h : s.PlacedWell cfg) (hlaw : s.Lawful e) :
    (TradedGateway.step cfg s e).1.PlacedWell cfg := by
  cases e with
  | request e =>
    refine PlacedWell.foldl_place h fun adapter order hmem => ?_
    cases s.processor.emits_of_mem cfg hmem with
    -- an order is placed only by a routed new order
    | sendNewOrder order nowNs nowS status hroutes hrouted => exact ⟨hrouted.registered, hlaw⟩
  | register ex o => exact h
  | report r =>
    obtain ⟨pl, hpl, -⟩ := hlaw
    simp only [TradedGateway.step, Option.mem_def.mp hpl]
    exact Table.AllVals.insert (v := { pl with filled := r.cumulative }) h (h _ pl hpl) _

/-! ## What the steps do to the tracker -/

/-- No request touches the tracker. -/
theorem step_pnlTracker_of_request (p : OrderProcessor) {e : ProcessorEvent}
    (he : ∀ event nowNs, e ≠ .execEvent event nowNs) :
    (p.step cfg e).1.riskGate.pnlTracker = p.riskGate.pnlTracker := by
  cases e with
  | newOrder order nowNs nowS status =>
    rcases p.onNewOrder_spec cfg order nowNs nowS status with ⟨-, hrouted⟩ | ⟨-, haway⟩
    · rw [OrderProcessor.step, hrouted.gate]
    · rw [OrderProcessor.step, haway.gate]
  | execEvent event nowNs => exact absurd rfl (he event nowNs)
  | cancel cancel => rw [OrderProcessor.step, OrderProcessor.onCancel_fst]
  | modify modify => rw [OrderProcessor.step, OrderProcessor.onModify_fst]
  | cancelAll cancelAll =>
    rw [OrderProcessor.step, OrderProcessor.onCancelAll_fst]
    split <;> rfl
  | checkStaleOrders staleTimeoutNs nowNs =>
    -- a released slot is one of the checker's
    exact PreTradeRiskGate.foldl_releaseSlot (I := fun g => g.pnlTracker = p.riskGate.pnlTracker)
      (fun _ _ hg => hg) rfl _

theorem netQtyE8_bookSlice (t : PnlTracker) (ex : ExchangeId) (inst : Nat) (side : OrderSide)
    (price : Int) (qty recvNs : Nat) (ex' : ExchangeId) (inst' : Nat) :
    (bookSlice t ex inst side price qty recvNs).netQtyE8 ex' inst' =
      t.netQtyE8 ex' inst' +
        if PnlTracker.makeKey ex' inst' = PnlTracker.makeKey ex inst
        then side.signed qty else 0 := by
  unfold bookSlice
  split
  · exact PnlTracker.netQtyE8_onFill _ _ _ _ _ _ _ _ _
  · next hqty =>
    have hzero : side.signed qty = 0 := by
      cases side <;> simp only [OrderSide.signed] <;> omega
    rw [hzero, ite_self, Int.add_zero]

/-- What the decoder makes of a report is booked under instrument 0, with the quantity that its
message carries. -/
theorem onReport_pnlTracker {pl : Placement} {r : VenueReport} (hvenue : pl.exchangeId ≠ .ALL)
    (h : s.Reports pl r) :
    (s.onReport cfg pl r).1.processor.riskGate.pnlTracker =
      bookSlice s.processor.riskGate.pnlTracker pl.exchangeId 0 pl.side (wirePrice r.message)
        (wireQty r.order pl.filled r.cumulative r.message) r.recvNs := by
  have hyields := ExecDecoder.decode_yields h.knows h.describes h.filled_le r.recvNs
  -- the event names the exchange of its decoder, which is the one the order was sent to
  rw [s.decoders.venue_decoder _ hvenue] at hyields
  show (deliver cfg s.processor _ _).1.riskGate.pnlTracker = _
  cases hwire : wireFill r.order pl.filled r.cumulative r.message with
  | none =>
    rw [hwire] at hyields
    rw [wireQty, hwire]
    show _ = s.processor.riskGate.pnlTracker
    unfold deliver
    split
    · next ev hev =>
      have hfill : ev.status.isFill = false := hyields ev hev
      simp [OrderProcessor.onExecEvent, PreTradeRiskGate.onExecEvent_pnlTracker, hfill]
    · rfl
  | some qr =>
    obtain ⟨q, rem⟩ := qr
    rw [hwire] at hyields
    obtain ⟨ev, hev, hfill⟩ := hyields
    have hdecode : (s.decoders.decode pl.exchangeId r.message r.recvNs).2 = some ev := hev
    rw [wireQty, hwire, hdecode, deliver, OrderProcessor.onExecEvent,
      PreTradeRiskGate.onExecEvent_pnlTracker cfg.risk, hfill.isFill, hfill.exchangeId,
      hfill.instrumentId, hfill.side, hfill.price, hfill.filledQty, hfill.localTsNs, ← h.side]
    simp only [true_and]
    rfl

/-! ## The step lemma -/

theorem signed_inj {side : OrderSide} {m n : Nat} : side.signed m = side.signed n ↔ m = n := by
  cases side <;> simp only [OrderSide.signed] <;> omega

/-- The key of instrument 0 is no other instrument's, within 56 bits. -/
theorem makeKey_eq_zero_iff {ex : ExchangeId} {inst : Nat} (hlt : inst < 2 ^ 56) :
    PnlTracker.makeKey ex inst = PnlTracker.makeKey ex 0 ↔ inst = 0 := by
  rw [PnlTracker.makeKey_eq_iff, Nat.mod_eq_of_lt hlt]
  simp only [true_and, Nat.zero_mod]

/-- Exact positions after a report tell what it brought: the position under instrument 0 moves
by what the message carries, the order's own by the slice. -/
theorem SliceKept.of_exact {pl : Placement} {r : VenueReport} (hexact : s.PositionsExact)
    (hvenue : pl.exchangeId ≠ .ALL) (hinst : pl.instrumentId < 2 ^ 56) (h : s.Reports pl r)
    (hafter : (s.onReport cfg pl r).1.PositionsExact) : SliceKept pl r := by
  have hmove : ∀ inst, inst < 2 ^ 56 →
      (if inst = 0 then
          pl.side.signed (wireQty r.order pl.filled r.cumulative r.message) else 0) =
        if inst = pl.instrumentId then pl.side.signed (r.cumulative - pl.filled : Nat) else 0 := by
    intro inst hlt
    have hnet := hafter.position pl.exchangeId inst hlt
    have hposition : (s.onReport cfg pl r).1.position pl.exchangeId inst =
        s.position pl.exchangeId inst +
          if pl.exchangeId = pl.exchangeId ∧ inst = pl.instrumentId
          then pl.side.signed (r.cumulative - pl.filled : Nat) else 0 := rfl
    rw [onReport_pnlTracker hvenue h, netQtyE8_bookSlice, hposition,
      hexact.position _ _ hlt] at hnet
    simp only [makeKey_eq_zero_iff hlt, true_and] at hnet
    exact Int.add_left_cancel hnet
  have hzero : pl.side.signed (0 : Nat) = 0 := by cases pl.side <;> rfl
  by_cases hinst0 : pl.instrumentId = 0
  · have hboth := hmove 0 (by decide)
    rw [if_pos rfl, if_pos hinst0.symm] at hboth
    exact Or.inr ⟨hinst0, signed_inj.mp hboth⟩
  · have hcarried := hmove 0 (by decide)
    have hslice := hmove pl.instrumentId hinst
    rw [if_pos rfl, if_neg (Ne.symm hinst0)] at hcarried
    rw [if_neg hinst0, if_pos rfl] at hslice
    exact Or.inl ⟨signed_inj.mp (hslice.symm.trans hzero.symm),
      signed_inj.mp (hcarried.trans hzero.symm)⟩

/-- A report whose slice is kept is booked alike by both trackers. -/
theorem PositionsExact.onReport {pl : Placement} {r : VenueReport} (hexact : s.PositionsExact)
    (hvenue : pl.exchangeId ≠ .ALL) (hinst : pl.instrumentId < 2 ^ 56) (h : s.Reports pl r)
    (hkept : SliceKept pl r) : (s.onReport cfg pl r).1.PositionsExact := by
  have hreference : (s.onReport cfg pl r).1.reference =
      bookSlice s.reference pl.exchangeId pl.instrumentId pl.side (wirePrice r.message)
        (r.cumulative - pl.filled) r.recvNs := rfl
  have htracker : (s.onReport cfg pl r).1.processor.riskGate.pnlTracker =
      (s.onReport cfg pl r).1.reference := by
    rw [onReport_pnlTracker hvenue h, hreference, hexact.tracker]
    rcases hkept with ⟨hslice, hcarried⟩ | ⟨hinst0, hcarried⟩
    · rw [hslice, hcarried]
      rfl
    · rw [hinst0, hcarried]
  refine ⟨fun ex inst hlt => ?_, htracker⟩
  have hown : PnlTracker.makeKey ex inst = PnlTracker.makeKey pl.exchangeId pl.instrumentId ↔
      ex = pl.exchangeId ∧ inst = pl.instrumentId := by
    rw [PnlTracker.makeKey_eq_iff, Nat.mod_eq_of_lt hlt, Nat.mod_eq_of_lt hinst]
  rw [htracker, hreference, netQtyE8_bookSlice, ← hexact.tracker, hexact.position ex inst hlt]
  simp only [hown]
  rfl

/-- **The step lemma.** -/
theorem PositionsExact.step_iff {e : GatewayEvent} (hexact : s.PositionsExact)
    (hplaced : s.PlacedWell cfg) (hlaw : s.Lawful e) :
    (TradedGateway.step cfg s e).1.PositionsExact ↔ s.KeptApart e := by
  cases e with
  | request e =>
    have htracker : (s.processor.step cfg e).1.riskGate.pnlTracker =
        s.processor.riskGate.pnlTracker := by
      refine step_pnlTracker_of_request s.processor fun event nowNs he => ?_
      subst he
      exact hlaw
    refine iff_of_true ⟨fun ex inst hlt => ?_, ?_⟩ trivial
    · show (s.processor.step cfg e).1.riskGate.pnlTracker.netQtyE8 ex inst = s.position ex inst
      rw [htracker]
      exact hexact.position ex inst hlt
    · exact htracker.trans hexact.tracker
  | register ex o => exact iff_of_true ⟨hexact.position, hexact.tracker⟩ trivial
  | report r =>
    obtain ⟨pl, hpl, hreports⟩ := hlaw
    obtain ⟨hreg, hinst⟩ := hplaced _ pl hpl
    have hvenue : pl.exchangeId ≠ .ALL := fun hall => cfg.all_notMem (hall ▸ hreg)
    have hstep : TradedGateway.step cfg s (.report r) = s.onReport cfg pl r := by
      simp only [TradedGateway.step, Option.mem_def.mp hpl]
    rw [hstep]
    constructor
    · intro hafter pl' hpl'
      obtain rfl : pl = pl' := Option.mem_unique hpl hpl'
      exact SliceKept.of_exact hexact hvenue hinst hreports hafter
    · intro hkept
      exact hexact.onReport hvenue hinst hreports (hkept pl hpl)

namespace FillOnInstrument7

def settings : ProcessorSettings where
  risk :=
    { limits := { maxOrderSizeUsd := 1000, maxNotionalPerOrderUsd := 1000
                  maxOpenOrdersPerVenue := 10, maxOrdersPerSecond := 10 }
      maxPositionUsd := 150
      maxDailyLossUsd := 0
      breaker := {} }
  adapters := [.HYPERLIQUID]
  all_notMem := by decide

def placed (instrumentId : Nat) : GatewayEvent :=
  .request (.newOrder
    { orderId := 2, instrumentId := instrumentId, exchangeId := .HYPERLIQUID, side := .BUY
      orderType := .LIMIT, tif := .GTC, price := 10000000000, quantity := 120000000, execInst := 0
      exchangeSymbol := "BTC" }
    1000 1 { isConnected := true, isHalted := false })

def order : VenueOrder where
  orderId := 2
  clientOrderId := "G2"
  exchangeOrderId := 5
  side := .BUY
  quantity := 120000000
  orderId_ne_zero := by decide
  quantity_pos := by decide

def filled : GatewayEvent :=
  .report
    { order := order
      message := .hyperliquidFill
        { oid := 5, side := "B", px := 100, sz := 12 / 10, fee := 0, time := none }
      cumulative := 120000000
      recvNs := 2000
      nowNs := 2000 }

def events (instrumentId : Nat) : List GatewayEvent :=
  [placed instrumentId, .register .HYPERLIQUID order, filled]

end FillOnInstrument7

end TradedGateway

end BptCore.OrderGateway
