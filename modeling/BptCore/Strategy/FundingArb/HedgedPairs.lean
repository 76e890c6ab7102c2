import BptCore.Lib.Machine
import BptCore.Strategy.FundingArb.FundingArbStrategy

/-!
# Hedged pairs

The strategy beside the gateway's account of its orders, whose fills are the true positions. The
next state of a pair is decided by the status of a report alone, so that the legs match when every
order ends as its state takes for granted.

* **`Trading`** — the strategy with what its orders were filled.
* **`Hedged`** — an active pair's legs are the negatives of each other, an idle pair has none.
* **`EndsWell`** — how an order must end, state by state.
* **`stays_hedged`** — the pairs stay hedged when their orders end so.
-/

namespace BptCore.Strategy

namespace FundingArb

/-- An order that went to the gateway, what was filled of it, and whether it has ended. -/
structure LegOrder where
  instrumentId : Nat
  side : OrderSide
  quantity : Nat
  filled : Nat := 0
  ended : Bool := false
  deriving DecidableEq, Repr

/-- What the order has brought of an instrument. -/
def LegOrder.gain (instrumentId : Nat) (o : LegOrder) : Int :=
  if o.instrumentId = instrumentId then o.side.signed o.filled else 0

/-- The net position of an instrument that the fills of all orders come to. -/
def netQty (orders : Table Nat LegOrder) (instrumentId : Nat) : Int :=
  Table.sumVals (LegOrder.gain instrumentId) orders

/-- The quantity that a report brings, taken for an increment. -/
def fillQty (rpt : ExecReport) : Nat := if rpt.status.isFill then rpt.filledQty else 0

def LegOrder.reported (o : LegOrder) (rpt : ExecReport) : LegOrder :=
  { o with filled := o.filled + fillQty rpt, ended := o.ended || rpt.status.terminal }

def recordReport (orders : Table Nat LegOrder) (rpt : ExecReport) : Table Nat LegOrder :=
  match orders.lookup rpt.orderId with
  | none => orders
  | some o => orders.insert rpt.orderId (o.reported rpt)

def recordCall (orders : Table Nat LegOrder) : GatewayCall → Table Nat LegOrder
  | .sendNewOrder order =>
    orders.insert order.orderId
      { instrumentId := order.instrumentId, side := order.side, quantity := order.quantity }
  | .sendCancel _ => orders

structure Trading where
  strategy : FundingArb
  orders : Table Nat LegOrder := ∅

namespace Trading

variable (cfg : Config) (t : Trading)

/-- The orders after a report. -/
def ordersAfter : Callback → Table Nat LegOrder
  | .execReport rpt => recordReport t.orders rpt
  | _ => t.orders

def step (t : Trading) (cb : Callback) : Trading × List GatewayCall :=
  let r := t.strategy.step cfg cb
  ({ strategy := r.1, orders := r.2.foldl recordCall (t.ordersAfter cb) }, r.2)

def init (nextOrderId : Nat) : Trading where
  strategy := { nextOrderId := nextOrderId }

/-- The net quantities of an active pair are the negatives of each other, by the strategy's counters
and by the fills; an idle pair has no position. -/
def Hedged : Prop :=
  ∀ base p, t.strategy.pairs.lookup base = some p →
    (p.state = .ACTIVE → p.spotFilledQty = -p.perpFilledQty ∧
      netQty t.orders p.spot.instrumentId = -netQty t.orders p.perp.instrumentId) ∧
    (p.state = .IDLE → netQty t.orders p.spot.instrumentId = 0 ∧
      netQty t.orders p.perp.instrumentId = 0)

end Trading

/-- How the order that a pair waits for may end: with `done` of it filled. -/
def EndsWell (p : ArbPair) (o : LegOrder) (status : ExecStatus) (done : Nat) : Prop :=
  match p.state with
  -- the first leg is entered, or nothing is
  | .ENTERING_FIRST_LEG => status = .FILLED ∨ done = 0
  -- the second leg is as large as the first, and entered as a whole or not at all
  | .ENTERING_SECOND_LEG =>
    if status = .FILLED then o.quantity = p.spotFilledQty.natAbs ∧ done = o.quantity else done = 0
  | .EXITING_FIRST_LEG => if status = .FILLED then done = o.quantity else done = 0
  -- no other order follows, and the position is taken for closed
  | .EXITING_SECOND_LEG | .UNWINDING => done = o.quantity
  | .IDLE | .ACTIVE => True

instance (p : ArbPair) (o : LegOrder) (status : ExecStatus) (done : Nat) :
    Decidable (EndsWell p o status done) :=
  match h : p.state with
  | .ENTERING_FIRST_LEG =>
    decidable_of_iff (status = .FILLED ∨ done = 0) (by rw [EndsWell, h])
  | .ENTERING_SECOND_LEG =>
    decidable_of_iff
      (if status = .FILLED then o.quantity = p.spotFilledQty.natAbs ∧ done = o.quantity
        else done = 0)
      (by rw [EndsWell, h])
  | .EXITING_FIRST_LEG =>
    decidable_of_iff (if status = .FILLED then done = o.quantity else done = 0)
      (by rw [EndsWell, h])
  | .EXITING_SECOND_LEG | .UNWINDING => decidable_of_iff (done = o.quantity) (by rw [EndsWell, h])
  | .IDLE | .ACTIVE => isTrue (by rw [EndsWell, h]; trivial)

namespace Trading

/-- No report of an order follows its end. Fills are of an order that its pair waits for, on the
order's side, and orders end well. A snapshot finds no position of its instruments. -/
def KeepsHedge (t : Trading) : Callback → Prop
  | .instrumentSnapshot _ allIds => ∀ id ∈ allIds, netQty t.orders id = 0
  | .execReport rpt =>
    ∀ o ∈ t.orders.lookup rpt.orderId,
      (fillQty rpt ≠ 0 → (t.strategy.findLeg rpt.orderId).isSome ∧ rpt.side = o.side) ∧
      (fillQty rpt ≠ 0 ∨ rpt.status.terminal → o.ended = false) ∧
      ∀ found ∈ t.strategy.findLeg rpt.orderId,
        rpt.status.terminal → EndsWell found.2.1 o rpt.status (o.filled + fillQty rpt)
  | _ => True

instance (t : Trading) : (cb : Callback) → Decidable (t.KeepsHedge cb)
  | .instrumentSnapshot _ allIds => inferInstanceAs (Decidable (∀ id ∈ allIds, _))
  | .execReport rpt =>
    have (o : LegOrder) (found : String × ArbPair × Leg) : Decidable
        (rpt.status.terminal → EndsWell found.2.1 o rpt.status (o.filled + fillQty rpt)) :=
      inferInstance
    inferInstanceAs (Decidable (∀ o ∈ t.orders.lookup rpt.orderId, _ ∧ _ ∧ ∀ found ∈ _, _))
  | .instrumentDelta _ _ | .bbo _ _ | .trade _ | .sendReturned _ => isTrue trivial

end Trading

/-! ## The net positions -/

section Net

variable {orders : Table Nat LegOrder} {orderId : Nat} {o : LegOrder} {rpt : ExecReport}

theorem lookup_recordReport (ho : orders.lookup rpt.orderId = some o) (id : Nat) :
    (recordReport orders rpt).lookup id =
      if id = rpt.orderId then some (o.reported rpt) else orders.lookup id := by
  unfold recordReport
  rw [ho]
  exact Table.lookup_insert_eq _ _ _ _

theorem netQty_recordReport (ho : orders.lookup rpt.orderId = some o) (instrumentId : Nat) :
    netQty (recordReport orders rpt) instrumentId =
      netQty orders instrumentId +
        if o.instrumentId = instrumentId then o.side.signed (fillQty rpt) else 0 := by
  have hgain : (o.reported rpt).gain instrumentId =
      o.gain instrumentId +
        if o.instrumentId = instrumentId then o.side.signed (fillQty rpt) else 0 := by
    unfold LegOrder.gain LegOrder.reported OrderSide.signed
    dsimp only
    split
    · split <;> omega
    · rfl
  unfold netQty recordReport
  rw [ho]
  dsimp only
  rw [Table.sumVals_insert, Table.sumVals_of_lookup _ ho, hgain]
  omega

/-- A new order brings nothing yet. -/
theorem netQty_place (hnone : orders.lookup orderId = none) (ho : o.filled = 0)
    (instrumentId : Nat) :
    netQty (orders.insert orderId o) instrumentId = netQty orders instrumentId := by
  have hgain : o.gain instrumentId = 0 := by
    unfold LegOrder.gain OrderSide.signed
    rw [ho]
    split
    · split <;> rfl
    · rfl
  have herase : orders.erase orderId = orders :=
    Table.erase_of_notMem fun hmem => by
      rw [← AList.lookup_isSome, hnone] at hmem
      cases hmem
  unfold netQty
  rw [Table.sumVals_insert, hgain, herase, Int.zero_add]

end Net

/-! ## What a pair waits for -/

/-- The leg whose order a pair waits for. -/
def awaited : PairState → Option Leg
  | .ENTERING_FIRST_LEG | .EXITING_SECOND_LEG | .UNWINDING => some .spot
  | .ENTERING_SECOND_LEG | .EXITING_FIRST_LEG => some .perp
  | .IDLE | .ACTIVE => none

def ArbPair.filledQty (p : ArbPair) : Leg → Int
  | .spot => p.spotFilledQty
  | .perp => p.perpFilledQty

/-- The counters of a pair that waits for no order. -/
def Settled (p : ArbPair) : Prop :=
  match p.state with
  | .IDLE => p.spotFilledQty = 0 ∧ p.perpFilledQty = 0
  | .ACTIVE =>
    p.spotFilledQty = -p.perpFilledQty ∧
      p.spotFilledQty = (openSide p.direction).signed p.spotFilledQty.natAbs
  | _ => True

/-- The counters of a pair that waits for the order. -/
def InFlight (p : ArbPair) (o : LegOrder) : Prop :=
  match p.state with
  | .ENTERING_FIRST_LEG =>
    o.side = openSide p.direction ∧ p.perpFilledQty = 0 ∧
      p.spotFilledQty = (openSide p.direction).signed o.filled
  | .ENTERING_SECOND_LEG =>
    o.side = closeSide p.direction ∧
      p.spotFilledQty = (openSide p.direction).signed p.spotFilledQty.natAbs ∧
      p.perpFilledQty = (closeSide p.direction).signed o.filled
  | .EXITING_FIRST_LEG =>
    o.side = openSide p.direction ∧
      p.spotFilledQty = (openSide p.direction).signed o.quantity ∧
      p.perpFilledQty =
        (closeSide p.direction).signed o.quantity + (openSide p.direction).signed o.filled
  | .EXITING_SECOND_LEG | .UNWINDING =>
    o.side = closeSide p.direction ∧ p.perpFilledQty = 0 ∧
      p.spotFilledQty =
        (openSide p.direction).signed o.quantity + (closeSide p.direction).signed o.filled
  | .IDLE | .ACTIVE => False

section Counters

variable {p q : ArbPair} (hstate : q.state = p.state) (hdirection : q.direction = p.direction)
  (hspot : q.spotFilledQty = p.spotFilledQty) (hperp : q.perpFilledQty = p.perpFilledQty)

include hstate hdirection hspot hperp

theorem Settled.congr (h : Settled p) : Settled q := by
  unfold Settled at h ⊢
  rw [hstate, hdirection, hspot, hperp]
  exact h

theorem InFlight.congr {o : LegOrder} (h : InFlight p o) : InFlight q o := by
  unfold InFlight at h ⊢
  rw [hstate, hdirection, hspot, hperp]
  exact h

end Counters

/-- A pair among the orders: its counters are the true positions, and an order of a leg that has not
ended is the one that the pair waits for. -/
structure PairInv (orders : Table Nat LegOrder) (base : String) (p : ArbPair) : Prop where
  baseAsset : p.baseAsset = base
  apart : p.spot.instrumentId ≠ p.perp.instrumentId
  net : ∀ leg, netQty orders (p.leg leg).instrumentId = p.filledQty leg
  settled : Settled p
  inFlight : ∀ leg, (p.leg leg).orderId ≠ 0 → ∃ o, orders.lookup (p.leg leg).orderId = some o ∧
    o.instrumentId = (p.leg leg).instrumentId ∧
    (o.ended = false → awaited p.state = some leg ∧ InFlight p o)

structure Inv (t : Trading) : Prop where
  pos : 0 < t.strategy.nextOrderId
  fresh : ∀ id o, t.orders.lookup id = some o → id < t.strategy.nextOrderId
  tracked : ∀ id base, t.strategy.orderToBase.lookup id = some base → id ≠ 0
  instruments : ∀ base p, t.strategy.pairs.lookup base = some p → ∀ leg,
    t.strategy.instrumentToBase.lookup (p.leg leg).instrumentId = some base
  pair : ∀ base p, t.strategy.pairs.lookup base = some p → PairInv t.orders base p

theorem Inv.hedged {t : Trading} (h : Inv t) : t.Hedged := by
  intro base p hp
  have hpair := h.pair base p hp
  have hspot : netQty t.orders p.spot.instrumentId = p.spotFilledQty := hpair.net .spot
  have hperp : netQty t.orders p.perp.instrumentId = p.perpFilledQty := hpair.net .perp
  have hsettled := hpair.settled
  unfold Settled at hsettled
  rw [hspot, hperp]
  constructor
  · intro hactive
    rw [hactive] at hsettled
    exact ⟨hsettled.1, hsettled.1⟩
  · intro hidle
    rw [hidle] at hsettled
    exact hsettled

/-! ## Work on one pair -/

/-- The orders with the calls of the work. -/
def Work.orders (orders : Table Nat LegOrder) (w : Work) : Table Nat LegOrder :=
  w.sent.foldl recordCall orders

/-- The work on a pair keeps its invariant, and touches neither the orders nor the positions of
other instruments. -/
structure Tended (t : Trading) (orders : Table Nat LegOrder) (base : String) (p : ArbPair)
    (w : Work) : Prop where
  legs : ∀ leg, (w.pair.leg leg).instrumentId = (p.leg leg).instrumentId
  pos : 0 < w.nextOrderId
  fresh : ∀ id o, (w.orders orders).lookup id = some o → id < w.nextOrderId
  tracked : ∀ id b, w.orderToBase.lookup id = some b → id ≠ 0
  kept : ∀ id o, t.orders.lookup id = some o → (∀ leg, o.instrumentId ≠ (p.leg leg).instrumentId) →
    (w.orders orders).lookup id = some o
  elsewhere : ∀ i, (∀ leg, i ≠ (p.leg leg).instrumentId) →
    netQty (w.orders orders) i = netQty t.orders i
  pair : PairInv (w.orders orders) base w.pair

section Tended

variable {t : Trading} {orders : Table Nat LegOrder} {base : String} {p : ArbPair} {w : Work}

theorem Tended.start (h : Inv t) (hp : t.strategy.pairs.lookup base = some p) :
    Tended t t.orders base p (t.strategy.work p) where
  legs _ := rfl
  pos := h.pos
  fresh := h.fresh
  tracked := h.tracked
  kept _ _ ho _ := ho
  elsewhere _ _ := rfl
  pair := h.pair base p hp

/-- What the work leaves keeps the invariant. -/
theorem Inv.commit (h : Inv t) (hp : t.strategy.pairs.lookup base = some p)
    (hw : Tended t orders base p w) {s : FundingArb} (hpairs : s.pairs = t.strategy.pairs.insert base w.pair)
    (hinst : s.instrumentToBase = t.strategy.instrumentToBase) (hbase : s.orderToBase = w.orderToBase)
    (hnext : s.nextOrderId = w.nextOrderId) : Inv { strategy := s, orders := w.orders orders } := by
  have hlookup : ∀ b q, s.pairs.lookup b = some q →
      b = base ∧ q = w.pair ∨ b ≠ base ∧ t.strategy.pairs.lookup b = some q := by
    intro b q hq
    rw [hpairs, Table.lookup_insert_eq] at hq
    split at hq
    · next hb => exact .inl ⟨hb, (Option.some.inj hq).symm⟩
    · next hb => exact .inr ⟨hb, hq⟩
  refine ⟨?_, ?_, ?_, ?_, ?_⟩
  · dsimp only
    rw [hnext]
    exact hw.pos
  · dsimp only
    rw [hnext]
    exact hw.fresh
  · dsimp only
    rw [hbase]
    exact hw.tracked
  · intro b q hq leg
    dsimp only
    rw [hinst]
    rcases hlookup b q hq with ⟨rfl, rfl⟩ | ⟨-, hold⟩
    · rw [hw.legs]
      exact h.instruments b p hp leg
    · exact h.instruments b q hold leg
  · intro b q hq
    rcases hlookup b q hq with ⟨rfl, rfl⟩ | ⟨hb, hold⟩
    · exact hw.pair
    · -- an instrument is of one base only
      have hother : ∀ leg leg', (q.leg leg).instrumentId ≠ (p.leg leg').instrumentId := by
        intro leg leg' heq
        have hq' := h.instruments b q hold leg
        rw [heq, h.instruments base p hp leg'] at hq'
        exact hb (Option.some.inj hq').symm
      have hpair := h.pair b q hold
      refine ⟨hpair.baseAsset, hpair.apart, fun leg => ?_, hpair.settled, fun leg hne => ?_⟩
      · exact (hw.elsewhere _ (hother leg)).trans (hpair.net leg)
      · obtain ⟨o, ho, hinst', hflight⟩ := hpair.inFlight leg hne
        refine ⟨o, hw.kept _ o ho ?_, hinst', hflight⟩
        rw [hinst']
        exact hother leg

/-- The orders of the pair's legs have all ended. -/
def AllEnded (orders : Table Nat LegOrder) (p : ArbPair) : Prop :=
  ∀ leg o, (p.leg leg).orderId ≠ 0 → orders.lookup (p.leg leg).orderId = some o → o.ended = true

/-- A pair that waits for no order has none that has not ended. -/
theorem PairInv.allEnded (h : PairInv orders base p) (hnone : awaited p.state = none) :
    AllEnded orders p := by
  intro leg o hne ho
  obtain ⟨o', ho', -, hflight⟩ := h.inFlight leg hne
  rw [ho] at ho'
  cases ho'
  by_contra hended
  have hawaited := (hflight (by rwa [Bool.not_eq_true] at hended)).1
  rw [hnone] at hawaited
  cases hawaited

/-- Two pairs with the same legs, orders and counters. -/
structure SameHoldings (p q : ArbPair) : Prop where
  baseAsset : q.baseAsset = p.baseAsset
  legs : ∀ leg, (q.leg leg).instrumentId = (p.leg leg).instrumentId ∧
    (q.leg leg).orderId = (p.leg leg).orderId
  filledQty : ∀ leg, q.filledQty leg = p.filledQty leg

/-- Once its orders have ended, a pair goes to any state that its counters are settled for. -/
theorem Tended.restate {q : ArbPair} (h : Tended t orders base p w)
    (hended : AllEnded (w.orders orders) w.pair) (hsame : SameHoldings w.pair q)
    (hsettled : Settled q) :
    Tended t orders base p { w with pair := q } ∧ AllEnded (w.orders orders) q := by
  have hall : AllEnded (w.orders orders) q := by
    intro leg o hne ho
    rw [(hsame.legs leg).2] at hne ho
    exact hended leg o hne ho
  refine ⟨⟨fun leg => ?_, h.pos, h.fresh, h.tracked, h.kept, h.elsewhere, ?_⟩, hall⟩
  · exact (hsame.legs leg).1.trans (h.legs leg)
  · refine ⟨hsame.baseAsset.trans h.pair.baseAsset, ?_, fun leg => ?_, hsettled, fun leg hne => ?_⟩
    · have hspot : q.spot.instrumentId = w.pair.spot.instrumentId := (hsame.legs .spot).1
      have hperp : q.perp.instrumentId = w.pair.perp.instrumentId := (hsame.legs .perp).1
      rw [hspot, hperp]
      exact h.pair.apart
    · show netQty (w.orders orders) (q.leg leg).instrumentId = q.filledQty leg
      rw [(hsame.legs leg).1, hsame.filledQty]
      exact h.pair.net leg
    · have hne' := hne
      rw [(hsame.legs leg).2] at hne'
      obtain ⟨o, ho, hinst, -⟩ := h.pair.inFlight leg hne'
      have horder : (w.orders orders).lookup (q.leg leg).orderId = some o := by
        rw [(hsame.legs leg).2]
        exact ho
      refine ⟨o, horder, hinst.trans (hsame.legs leg).1.symm, fun hopen => ?_⟩
      rw [hall leg o hne horder] at hopen
      cases hopen

/-- What changes neither state nor direction changes nothing that the orders are about. -/
theorem Tended.congr {q : ArbPair} (h : Tended t orders base p w) (hsame : SameHoldings w.pair q)
    (hstate : q.state = w.pair.state) (hdirection : q.direction = w.pair.direction) :
    Tended t orders base p { w with pair := q } := by
  have hspot : q.spotFilledQty = w.pair.spotFilledQty := hsame.filledQty .spot
  have hperp : q.perpFilledQty = w.pair.perpFilledQty := hsame.filledQty .perp
  refine ⟨fun leg => ?_, h.pos, h.fresh, h.tracked, h.kept, h.elsewhere, ?_⟩
  · exact (hsame.legs leg).1.trans (h.legs leg)
  · refine ⟨hsame.baseAsset.trans h.pair.baseAsset, ?_, fun leg => ?_, ?_, fun leg hne => ?_⟩
    · have hspotId : q.spot.instrumentId = w.pair.spot.instrumentId := (hsame.legs .spot).1
      have hperpId : q.perp.instrumentId = w.pair.perp.instrumentId := (hsame.legs .perp).1
      rw [hspotId, hperpId]
      exact h.pair.apart
    · show netQty (w.orders orders) (q.leg leg).instrumentId = q.filledQty leg
      rw [(hsame.legs leg).1, hsame.filledQty]
      exact h.pair.net leg
    · exact h.pair.settled.congr hstate hdirection hspot hperp
    · rw [(hsame.legs leg).2] at hne
      obtain ⟨o, ho, hinst, hflight⟩ := h.pair.inFlight leg hne
      refine ⟨o, ?_, hinst.trans (hsame.legs leg).1.symm, fun hopen => ?_⟩
      · rw [(hsame.legs leg).2]
        exact ho
      · obtain ⟨hawaited, hcounters⟩ := hflight hopen
        refine ⟨?_, hcounters.congr hstate hdirection hspot hperp⟩
        rw [hstate]
        exact hawaited

theorem leg_setOrderId (q : ArbPair) (leg leg' : Leg) (orderId : Nat) :
    ((q.setOrderId leg orderId).leg leg').instrumentId = (q.leg leg').instrumentId ∧
      ((q.setOrderId leg orderId).leg leg').orderId =
        if leg' = leg then orderId else (q.leg leg').orderId := by
  cases leg <;> cases leg' <;> exact ⟨rfl, rfl⟩

theorem setOrderId_rest (q : ArbPair) (leg : Leg) (orderId : Nat) :
    (q.setOrderId leg orderId).baseAsset = q.baseAsset ∧
      (q.setOrderId leg orderId).state = q.state ∧
      (q.setOrderId leg orderId).direction = q.direction ∧
      (q.setOrderId leg orderId).spotFilledQty = q.spotFilledQty ∧
      (q.setOrderId leg orderId).perpFilledQty = q.perpFilledQty := by
  cases leg <;> exact ⟨rfl, rfl, rfl, rfl, rfl⟩

/-- A pair whose leg takes an order, or loses it, among orders that come to the same positions. -/
theorem PairInv.setOrderId {orders' : Table Nat LegOrder} {q : ArbPair} (h : PairInv orders base q)
    (hnet : ∀ i, netQty orders' i = netQty orders i)
    (hkept : ∀ id o, orders.lookup id = some o → orders'.lookup id = some o) (leg : Leg)
    (orderId : Nat)
    (hnew : orderId ≠ 0 → ∃ o, orders'.lookup orderId = some o ∧
      o.instrumentId = (q.leg leg).instrumentId ∧ awaited q.state = some leg ∧ InFlight q o) :
    PairInv orders' base (q.setOrderId leg orderId) := by
  obtain ⟨hbase, hstate, hdirection, hspot, hperp⟩ := setOrderId_rest q leg orderId
  refine ⟨hbase.trans h.baseAsset, ?_, fun leg' => ?_, ?_, fun leg' hne => ?_⟩
  · have hspotId := (leg_setOrderId q leg .spot orderId).1
    have hperpId := (leg_setOrderId q leg .perp orderId).1
    intro heq
    exact h.apart (hspotId.symm.trans (heq.trans hperpId))
  · have hfilled : (q.setOrderId leg orderId).filledQty leg' = q.filledQty leg' := by
      cases leg' with
      | spot => exact hspot
      | perp => exact hperp
    rw [(leg_setOrderId q leg leg' orderId).1, hnet, hfilled]
    exact h.net leg'
  · exact h.settled.congr hstate hdirection hspot hperp
  · rw [(leg_setOrderId q leg leg' orderId).2] at hne
    rw [(leg_setOrderId q leg leg' orderId).1, (leg_setOrderId q leg leg' orderId).2, hstate]
    by_cases hleg : leg' = leg
    · rw [if_pos hleg] at hne ⊢
      obtain ⟨o, ho, hinst, hawaited, hflight⟩ := hnew hne
      subst hleg
      exact ⟨o, ho, hinst, fun _ => ⟨hawaited, hflight.congr hstate hdirection hspot hperp⟩⟩
    · rw [if_neg hleg] at hne ⊢
      obtain ⟨o, ho, hinst, hflight⟩ := h.inFlight leg' hne
      refine ⟨o, hkept _ o ho, hinst, fun hopen => ?_⟩
      obtain ⟨hawaited, hcounters⟩ := hflight hopen
      exact ⟨hawaited, hcounters.congr hstate hdirection hspot hperp⟩

/-- The order of the leg that the pair waits for goes out when the counters are right for it. -/
theorem Tended.sendLegOrder (h : Tended t orders base p w) {leg : Leg} {side : OrderSide}
    {qty : Nat}
    (hawaited : awaited w.pair.state = some leg)
    (hflight : InFlight w.pair
      { instrumentId := (w.pair.leg leg).instrumentId, side := side, quantity := qty })
    (cfg : Config) : Tended t orders base p (sendLegOrder cfg w leg side qty) := by
  unfold FundingArb.sendLegOrder
  split
  · have hnone : (w.orders orders).lookup w.nextOrderId = none := by
      cases hlookup : (w.orders orders).lookup w.nextOrderId with
      | none => rfl
      | some o => exact absurd (h.fresh _ o hlookup) (Nat.lt_irrefl _)
    have hkept : ∀ id o o', (w.orders orders).lookup id = some o →
        ((w.orders orders).insert w.nextOrderId o').lookup id = some o := by
      intro id o o' ho
      rw [Table.lookup_insert_eq, if_neg, ho]
      rintro rfl
      rw [hnone] at ho
      cases ho
    have horders : ∀ pair' base' next' sending',
        Work.orders orders
          { pair := pair', orderToBase := base', nextOrderId := next', sending := sending'
            sent := w.sent ++
              [.sendNewOrder (legOrder cfg w.nextOrderId (w.pair.leg leg) side qty)] } =
          (w.orders orders).insert w.nextOrderId
            { instrumentId := (w.pair.leg leg).instrumentId, side := side, quantity := qty } :=
      fun _ _ _ _ => List.foldl_append
    refine ⟨fun leg' => ?_, Nat.succ_pos _, fun id o ho => ?_, fun id b hid => ?_,
      fun id o ho hother => ?_, fun i hi => ?_, ?_⟩
    · exact (leg_setOrderId _ _ _ _).1.trans (h.legs leg')
    · rw [horders, Table.lookup_insert_eq] at ho
      split at ho
      · next hid =>
        rw [hid]
        exact Nat.lt_succ_self _
      · exact Nat.lt_succ_of_lt (h.fresh id o ho)
    · dsimp only at hid
      rw [Table.lookup_insert_eq] at hid
      split at hid
      · next hnew =>
        rw [hnew]
        exact Nat.ne_of_gt h.pos
      · exact h.tracked id b hid
    · rw [horders]
      exact hkept id o _ (h.kept id o ho hother)
    · rw [horders, netQty_place hnone rfl]
      exact h.elsewhere i hi
    · rw [horders]
      refine h.pair.setOrderId (netQty_place hnone rfl) (fun id o ho => hkept id o _ ho) leg _ ?_
      exact fun _ => ⟨_, AList.lookup_insert _, rfl, hawaited, hflight⟩
  · exact h

/-- A callback may end, and what is put off may be done, at any time. -/
theorem Tended.andThen (h : Tended t orders base p w) (andThen : AndThen) :
    Tended t orders base p (w.andThen andThen) := by
  cases andThen with
  | closeLeg leg orderId =>
    refine ⟨fun leg' => ?_, h.pos, h.fresh, fun id b hid => ?_, h.kept, h.elsewhere, ?_⟩
    · exact (leg_setOrderId _ _ _ _).1.trans (h.legs leg')
    · have herased : (w.orderToBase.erase orderId).lookup id = some b := hid
      rw [Table.lookup_erase_eq] at herased
      split at herased
      · cases herased
      · exact h.tracked id b herased
    · exact h.pair.setOrderId (fun _ => rfl) (fun _ _ ho => ho) leg 0 fun hne => absurd rfl hne
  | evaluated nowNs =>
    refine h.congr ⟨rfl, fun leg => ?_, fun leg => ?_⟩ rfl rfl
    · cases leg <;> exact ⟨rfl, rfl⟩
    · cases leg <;> rfl

/-! ## Ticks -/

theorem sameHoldings_of_legs {q : ArbPair} (hbase : q.baseAsset = p.baseAsset)
    (hspot : q.spot.instrumentId = p.spot.instrumentId ∧ q.spot.orderId = p.spot.orderId)
    (hperp : q.perp.instrumentId = p.perp.instrumentId ∧ q.perp.orderId = p.perp.orderId)
    (hspotQty : q.spotFilledQty = p.spotFilledQty) (hperpQty : q.perpFilledQty = p.perpFilledQty) :
    SameHoldings p q where
  baseAsset := hbase
  legs leg := by
    cases leg with
    | spot => exact hspot
    | perp => exact hperp
  filledQty leg := by
    cases leg with
    | spot => exact hspotQty
    | perp => exact hperpQty

theorem Tended.setBbo (h : Tended t orders base p w) (tick : MdMarketData) :
    Tended t orders base p { w with pair := setBbo w.pair tick } := by
  unfold FundingArb.setBbo
  split
  · exact h.congr (sameHoldings_of_legs rfl ⟨rfl, rfl⟩ ⟨rfl, rfl⟩ rfl rfl) rfl rfl
  · exact h.congr (sameHoldings_of_legs rfl ⟨rfl, rfl⟩ ⟨rfl, rfl⟩ rfl rfl) rfl rfl

theorem signed_zero (side : OrderSide) : side.signed 0 = 0 := by
  cases side <;> rfl

/-- A quantity on a side is the whole of what it comes to. -/
theorem signed_natAbs {side : OrderSide} {x : Int} {n : Nat} (h : x = side.signed n) :
    x = side.signed x.natAbs := by
  cases side with
  | BUY =>
    have hx : x = n := h
    rw [hx]
    rfl
  | SELL =>
    have hx : x = -n := h
    rw [hx, Int.natAbs_neg]
    rfl

theorem closeSide_signed (direction qty : Int) :
    (closeSide direction).signed qty = -(openSide direction).signed qty := by
  unfold closeSide openSide
  split
  · rfl
  · exact (Int.neg_neg qty).symm

theorem Tended.enterPosition (h : Tended t orders base p w) (hidle : w.pair.state = .IDLE)
    (cfg : Config) (direction : Int) (nowNs : Nat) :
    Tended t orders base p (enterPosition cfg w direction nowNs) := by
  have hended := h.pair.allEnded (by rw [hidle]; rfl)
  have hflat := h.pair.settled
  unfold Settled at hflat
  rw [hidle] at hflat
  unfold FundingArb.enterPosition
  dsimp only
  split
  · exact h
  · refine Tended.sendLegOrder ?_ rfl ?_ cfg
    · refine (h.restate hended ?_ ?_).1
      · exact sameHoldings_of_legs rfl ⟨rfl, rfl⟩ ⟨rfl, rfl⟩ rfl rfl
      · exact trivial
    · exact ⟨rfl, hflat.2, hflat.1.trans (signed_zero _).symm⟩

theorem Tended.exitPosition (h : Tended t orders base p w) (hactive : w.pair.state = .ACTIVE)
    (cfg : Config) (nowNs : Nat) : Tended t orders base p (exitPosition cfg w nowNs) := by
  have hended := h.pair.allEnded (by rw [hactive]; rfl)
  have hmatched := h.pair.settled
  unfold Settled at hmatched
  rw [hactive] at hmatched
  refine Tended.sendLegOrder ?_ rfl ?_ cfg
  · refine (h.restate hended ?_ ?_).1
    · exact sameHoldings_of_legs rfl ⟨rfl, rfl⟩ ⟨rfl, rfl⟩ rfl rfl
    · exact trivial
  · obtain ⟨hopposite, hspot⟩ := hmatched
    have hsize : w.pair.perpFilledQty.natAbs = w.pair.spotFilledQty.natAbs := by omega
    refine ⟨rfl, ?_, ?_⟩
    · dsimp only
      rw [hsize]
      exact hspot
    · dsimp only
      have hzero := signed_zero (openSide w.pair.direction)
      rw [hsize, closeSide_signed]
      simp only [Nat.cast_zero]
      omega

theorem Tended.cancelOverdue (h : Tended t orders base p w) (cfg : Config) (leg : LegState)
    (nowNs : Nat) : Tended t orders base p (cancelOverdue cfg w leg nowNs) := by
  unfold FundingArb.cancelOverdue
  split
  · have horders : ∀ cancel, Work.orders orders { w with sent := w.sent ++ [.sendCancel cancel] } =
        w.orders orders := fun _ => List.foldl_append
    refine ⟨h.legs, h.pos, ?_, h.tracked, ?_, ?_, ?_⟩
    · rw [horders]
      exact h.fresh
    · rw [horders]
      exact h.kept
    · rw [horders]
      exact h.elsewhere
    · rw [horders]
      exact h.pair
  · exact h

theorem Tended.evaluatePair (h : Tended t orders base p w) (cfg : Config)
    (rates : FundingRateCache) (nowNs : Nat) :
    Tended t orders base p (evaluatePair cfg rates w nowNs) := by
  unfold FundingArb.evaluatePair
  dsimp only
  cases hstate : w.pair.state with
  | IDLE =>
    dsimp only
    split
    · exact h
    · next r _ =>
      have htracked : Tended t orders base p { w with pair := trackSign w.pair r.rateBps } :=
        h.congr (sameHoldings_of_legs rfl ⟨rfl, rfl⟩ ⟨rfl, rfl⟩ rfl rfl) rfl rfl
      split
      · exact htracked.enterPosition hstate cfg _ nowNs
      · exact htracked
  | ACTIVE =>
    dsimp only
    split
    · exact h.exitPosition hstate cfg nowNs
    · exact h
  | ENTERING_FIRST_LEG | ENTERING_SECOND_LEG => exact h.cancelOverdue cfg _ nowNs
  | EXITING_FIRST_LEG | EXITING_SECOND_LEG | UNWINDING => exact h

/-! ## Reports -/

/-- The end of the order that the pair waited for, when it ended well. -/
theorem Tended.handleTerminal (h : Tended t orders base p w)
    (hended : AllEnded (w.orders orders) w.pair) {o : LegOrder} (hflight : InFlight w.pair o)
    {status : ExecStatus} (hwell : EndsWell w.pair o status o.filled) (cfg : Config) :
    Tended t orders base p (handleTerminal cfg w status) := by
  have hsame : ∀ state direction, SameHoldings w.pair
      { w.pair with state := state, direction := direction } :=
    fun _ _ => sameHoldings_of_legs rfl ⟨rfl, rfl⟩ ⟨rfl, rfl⟩ rfl rfl
  unfold FundingArb.handleTerminal
  unfold InFlight at hflight
  unfold EndsWell at hwell
  cases hstate : w.pair.state with
  | IDLE | ACTIVE => exact h
  | ENTERING_FIRST_LEG =>
    rw [hstate] at hflight hwell
    obtain ⟨-, hperp, hspot⟩ := hflight
    dsimp only at hwell ⊢
    split
    · refine Tended.sendLegOrder ?_ rfl ?_ cfg
      · exact (h.restate hended (hsame .ENTERING_SECOND_LEG w.pair.direction) trivial).1
      · exact ⟨rfl, signed_natAbs hspot, hperp.trans (signed_zero _).symm⟩
    · next hstatus =>
      have hzero := hwell.resolve_left hstatus
      rw [hzero] at hspot
      refine (h.restate hended (hsame _ _) ?_).1
      exact ⟨hspot.trans (signed_zero _), hperp⟩
  | ENTERING_SECOND_LEG =>
    rw [hstate] at hflight hwell
    obtain ⟨-, hspot, hperp⟩ := hflight
    dsimp only at hwell ⊢
    split
    · next hstatus =>
      rw [if_pos hstatus] at hwell
      obtain ⟨hsize, hdone⟩ := hwell
      rw [hdone, hsize, closeSide_signed, ← hspot] at hperp
      refine (h.restate hended (hsame _ _) ?_).1
      exact ⟨by dsimp only; omega, hspot⟩
    · next hstatus =>
      rw [if_neg hstatus] at hwell
      rw [hwell] at hperp
      refine Tended.sendLegOrder ?_ rfl ?_ cfg
      · exact (h.restate hended (hsame .UNWINDING w.pair.direction) trivial).1
      · exact ⟨rfl, hperp.trans (signed_zero _), by
          dsimp only
          rw [Nat.cast_zero, signed_zero, Int.add_zero]
          exact hspot⟩
  | EXITING_FIRST_LEG =>
    rw [hstate] at hflight hwell
    obtain ⟨-, hspot, hperp⟩ := hflight
    rw [closeSide_signed] at hperp
    dsimp only at hwell ⊢
    split
    · next hstatus =>
      rw [if_pos hstatus] at hwell
      rw [hwell] at hperp
      refine Tended.sendLegOrder ?_ rfl ?_ cfg
      · exact (h.restate hended (hsame .EXITING_SECOND_LEG w.pair.direction) trivial).1
      · exact ⟨rfl, by dsimp only; omega, by
          dsimp only
          rw [Nat.cast_zero, signed_zero, Int.add_zero]
          exact signed_natAbs hspot⟩
    · next hstatus =>
      rw [if_neg hstatus] at hwell
      rw [hwell, Nat.cast_zero, signed_zero] at hperp
      refine (h.restate hended (hsame _ _) ?_).1
      exact ⟨by dsimp only; omega, signed_natAbs hspot⟩
  | EXITING_SECOND_LEG | UNWINDING =>
    rw [hstate] at hflight hwell
    obtain ⟨-, hperp, hspot⟩ := hflight
    have hdone : o.filled = o.quantity := hwell
    rw [closeSide_signed, hdone, Int.add_right_neg] at hspot
    refine (h.restate hended ?_ ?_).1
    · exact sameHoldings_of_legs rfl ⟨rfl, rfl⟩ ⟨rfl, rfl⟩ hspot.symm hperp.symm
    · exact ⟨rfl, rfl⟩

theorem signed_add (side : OrderSide) (m n : Nat) :
    side.signed ((m + n : Nat) : Int) = side.signed m + side.signed n := by
  cases side with
  | BUY => exact Int.natCast_add m n
  | SELL =>
    show -((m + n : Nat) : Int) = -(m : Int) + -(n : Int)
    omega

/-- A pair after a fill of the leg. -/
structure FilledBy (leg : Leg) (qty : Int) (p q : ArbPair) : Prop where
  baseAsset : q.baseAsset = p.baseAsset
  legs : ∀ leg', q.leg leg' = p.leg leg'
  state : q.state = p.state
  direction : q.direction = p.direction
  filledQty : ∀ leg', q.filledQty leg' = p.filledQty leg' + if leg' = leg then qty else 0

theorem FilledBy.counters_of_zero {q : ArbPair} {leg : Leg} {qty : Int} (h : FilledBy leg qty p q)
    (hqty : qty = 0) :
    q.spotFilledQty = p.spotFilledQty ∧ q.perpFilledQty = p.perpFilledQty := by
  have hspot : q.spotFilledQty = p.spotFilledQty + _ := h.filledQty .spot
  have hperp : q.perpFilledQty = p.perpFilledQty + _ := h.filledQty .perp
  rw [hqty, ite_self, Int.add_zero] at hspot hperp
  exact ⟨hspot, hperp⟩

theorem filledBy_handleFill (hapart : p.spot.instrumentId ≠ p.perp.instrumentId) (leg : Leg)
    (rpt : ExecReport) : FilledBy leg (rpt.side.signed (fillQty rpt)) p
      (if rpt.status.isFill then handleFill p (p.leg leg) rpt else p) := by
  unfold fillQty
  split
  · unfold handleFill
    cases leg with
    | spot =>
      rw [if_pos (show (p.leg .spot).instrumentId = p.spot.instrumentId from rfl)]
      refine ⟨rfl, fun leg' => ?_, rfl, rfl, fun leg' => ?_⟩
      · cases leg' <;> rfl
      · cases leg' with
        | spot => rfl
        | perp => exact (Int.add_zero _).symm
    | perp =>
      have hperp : ¬ (p.leg .perp).instrumentId = p.spot.instrumentId := fun h => hapart h.symm
      rw [if_neg hperp]
      refine ⟨rfl, fun leg' => ?_, rfl, rfl, fun leg' => ?_⟩
      · cases leg' <;> rfl
      · cases leg' with
        | spot => exact (Int.add_zero _).symm
        | perp => rfl
  · refine ⟨rfl, fun _ => rfl, rfl, rfl, fun leg' => ?_⟩
    have hzero : rpt.side.signed ((0 : Nat) : Int) = 0 := signed_zero _
    rw [hzero]
    split <;> exact (Int.add_zero _).symm

/-- The fill of the order that a pair waits for goes to the counter of its leg. -/
theorem InFlight.reported {q : ArbPair} {o : LegOrder} {leg : Leg} {rpt : ExecReport}
    (h : InFlight p o) (hawaited : awaited p.state = some leg)
    (hq : FilledBy leg (o.side.signed (fillQty rpt)) p q) : InFlight q (o.reported rpt) := by
  have hspot : q.spotFilledQty = p.spotFilledQty + _ := hq.filledQty .spot
  have hperp : q.perpFilledQty = p.perpFilledQty + _ := hq.filledQty .perp
  unfold InFlight at h ⊢
  unfold LegOrder.reported
  rw [hq.state, hq.direction, hspot, hperp]
  cases hstate : p.state with
  | IDLE | ACTIVE =>
    rw [hstate] at h
    exact h
  | ENTERING_FIRST_LEG =>
    rw [hstate] at h hawaited
    obtain rfl : Leg.spot = leg := Option.some.inj hawaited
    obtain ⟨hside, hzero, hcounter⟩ := h
    refine ⟨hside, ?_, ?_⟩
    · rw [hzero]
      rfl
    · dsimp only
      rw [if_pos rfl, hcounter, signed_add, hside]
  | EXITING_SECOND_LEG | UNWINDING =>
    rw [hstate] at h hawaited
    obtain rfl : Leg.spot = leg := Option.some.inj hawaited
    obtain ⟨hside, hzero, hcounter⟩ := h
    refine ⟨hside, ?_, ?_⟩
    · rw [hzero]
      rfl
    · dsimp only
      rw [if_pos rfl, hcounter, signed_add, hside]
      omega
  | ENTERING_SECOND_LEG =>
    rw [hstate] at h hawaited
    obtain rfl : Leg.perp = leg := Option.some.inj hawaited
    obtain ⟨hside, hspotQty, hcounter⟩ := h
    refine ⟨hside, ?_, ?_⟩
    · rw [if_neg (by decide), Int.add_zero]
      exact hspotQty
    · dsimp only
      rw [if_pos rfl, hcounter, signed_add, hside]
  | EXITING_FIRST_LEG =>
    rw [hstate] at h hawaited
    obtain rfl : Leg.perp = leg := Option.some.inj hawaited
    obtain ⟨hside, hspotQty, hcounter⟩ := h
    refine ⟨hside, ?_, ?_⟩
    · rw [if_neg (by decide), Int.add_zero]
      exact hspotQty
    · dsimp only
      rw [if_pos rfl, hcounter, signed_add, hside]
      omega

/-- An order of a leg is the leg's own. -/
theorem PairInv.own (h : PairInv orders base p) {leg : Leg} {orderId : Nat} {o : LegOrder}
    (horder : (p.leg leg).orderId = orderId) (hne : orderId ≠ 0)
    (ho : orders.lookup orderId = some o) :
    (∀ leg', o.instrumentId = (p.leg leg').instrumentId ↔ leg' = leg) ∧
      (o.ended = false → awaited p.state = some leg ∧ InFlight p o) := by
  obtain ⟨o', ho', hinst, hflight⟩ := h.inFlight leg (by rw [horder]; exact hne)
  rw [horder, ho] at ho'
  cases ho'
  refine ⟨fun leg' => ?_, hflight⟩
  rw [hinst]
  have hspot := h.apart
  cases leg <;> cases leg'
  · exact iff_of_true rfl rfl
  · exact iff_of_false hspot (by decide)
  · exact iff_of_false hspot.symm (by decide)
  · exact iff_of_true rfl rfl

section Report

variable {rpt : ExecReport} {leg : Leg} {o : LegOrder} {q : ArbPair}
  (h : PairInv orders base p) (horder : (p.leg leg).orderId = rpt.orderId) (hne : rpt.orderId ≠ 0)
  (ho : orders.lookup rpt.orderId = some o)
  (hopen : fillQty rpt ≠ 0 ∨ rpt.status.terminal → o.ended = false)
  (hq : FilledBy leg (o.side.signed (fillQty rpt)) p q)

include h horder hne ho hopen

/-- While another order of the pair has not ended, the report neither fills nor ends its own. -/
theorem PairInv.quiet_of_other {leg' : Leg} {o' : LegOrder}
    (hdiff : (p.leg leg').orderId ≠ rpt.orderId) (hne' : (p.leg leg').orderId ≠ 0)
    (ho' : orders.lookup (p.leg leg').orderId = some o') (hended : o'.ended = false) :
    fillQty rpt = 0 ∧ ¬ rpt.status.terminal ∧ awaited p.state = some leg' ∧ InFlight p o' := by
  obtain ⟨hawaited, hcounters⟩ := (h.own rfl hne' ho').2 hended
  have hquiet : ¬ (fillQty rpt ≠ 0 ∨ rpt.status.terminal) := by
    intro hsome
    have hawaited' := ((h.own horder hne ho).2 (hopen hsome)).1
    rw [hawaited] at hawaited'
    obtain rfl : leg' = leg := Option.some.inj hawaited'
    exact hdiff horder
  rw [not_or, not_not] at hquiet
  exact ⟨hquiet.1, hquiet.2, hawaited, hcounters⟩

include hq

theorem PairInv.settled_report : Settled q := by
  by_cases hfill : fillQty rpt = 0
  · obtain ⟨hspot, hperp⟩ := hq.counters_of_zero (by rw [hfill]; exact signed_zero _)
    exact h.settled.congr hq.state hq.direction hspot hperp
  · -- the pair waits for the order that is filled
    have hawaited := ((h.own horder hne ho).2 (hopen (.inl hfill))).1
    unfold Settled
    rw [hq.state]
    split
    · next hidle =>
      rw [hidle] at hawaited
      cases hawaited
    · next hactive =>
      rw [hactive] at hawaited
      cases hawaited
    · trivial

theorem PairInv.report : PairInv (recordReport orders rpt) base q := by
  obtain ⟨hleg, hown⟩ := h.own horder hne ho
  refine ⟨hq.baseAsset.trans h.baseAsset, ?_, fun leg' => ?_,
    h.settled_report horder hne ho hopen hq, fun leg' hne' => ?_⟩
  · have hspot : q.spot = p.spot := hq.legs .spot
    have hperp : q.perp = p.perp := hq.legs .perp
    rw [hspot, hperp]
    exact h.apart
  · rw [netQty_recordReport ho, hq.legs, h.net, hq.filledQty]
    by_cases hsame : leg' = leg
    · rw [if_pos hsame, if_pos ((hleg leg').mpr hsame)]
    · rw [if_neg hsame, if_neg fun heq => hsame ((hleg leg').mp heq)]
  · rw [hq.legs] at hne'
    rw [hq.legs, hq.state, lookup_recordReport ho]
    by_cases hsame : (p.leg leg').orderId = rpt.orderId
    · rw [if_pos hsame]
      obtain ⟨hleg', hown'⟩ := h.own hsame hne ho
      refine ⟨_, rfl, (hleg' leg').mpr rfl, fun hended => ?_⟩
      have hended' : o.ended = false := (Bool.or_eq_false_iff.mp hended).1
      obtain ⟨hawaited, hcounters⟩ := hown hended'
      exact ⟨(hown' hended').1, hcounters.reported hawaited hq⟩
    · rw [if_neg hsame]
      obtain ⟨o', ho', hinst, -⟩ := h.inFlight leg' hne'
      refine ⟨o', ho', hinst, fun hended => ?_⟩
      obtain ⟨hfill, -, hawaited, hcounters⟩ :=
        h.quiet_of_other horder hne ho hopen hsame hne' ho' hended
      obtain ⟨hspot, hperp⟩ := hq.counters_of_zero (by rw [hfill]; exact signed_zero _)
      exact ⟨hawaited, hcounters.congr hq.state hq.direction hspot hperp⟩

/-- After its end no order of the pair is left, and the counters are those of the end. -/
theorem PairInv.report_terminal (hterminal : rpt.status.terminal) :
    AllEnded (recordReport orders rpt) q ∧ InFlight q (o.reported rpt) := by
  obtain ⟨hawaited, hcounters⟩ := (h.own horder hne ho).2 (hopen (.inr hterminal))
  refine ⟨fun leg' o' hne' ho' => ?_, hcounters.reported hawaited hq⟩
  rw [hq.legs] at hne' ho'
  rw [lookup_recordReport ho] at ho'
  split at ho'
  · cases ho'
    show (o.ended || rpt.status.terminal) = true
    rw [hterminal, Bool.or_true]
  · next hsame =>
    by_contra hended
    rw [Bool.not_eq_true] at hended
    exact (h.quiet_of_other horder hne ho hopen hsame hne' ho' hended).2.1 hterminal

end Report

/-- A report of an order of the pair keeps its invariant. -/
theorem Tended.report (h : Inv t) (hp : t.strategy.pairs.lookup base = some p) {rpt : ExecReport}
    {leg : Leg} (horder : (p.leg leg).orderId = rpt.orderId) (hne : rpt.orderId ≠ 0) {o : LegOrder}
    (ho : t.orders.lookup rpt.orderId = some o)
    (hopen : fillQty rpt ≠ 0 ∨ rpt.status.terminal → o.ended = false) {q : ArbPair}
    (hq : FilledBy leg (o.side.signed (fillQty rpt)) p q) :
    Tended t (recordReport t.orders rpt) base p (t.strategy.work q) := by
  have hpair := h.pair base p hp
  have hown := (hpair.own horder hne ho).1
  have horders : (t.strategy.work q).orders (recordReport t.orders rpt) =
      recordReport t.orders rpt := rfl
  refine ⟨fun leg' => ?_, h.pos, fun id o' ho' => ?_, h.tracked, fun id o' ho' hother => ?_,
    fun i hi => ?_, hpair.report horder hne ho hopen hq⟩
  · exact congrArg LegState.instrumentId (hq.legs leg')
  · rw [horders, lookup_recordReport ho] at ho'
    split at ho'
    · next hid =>
      rw [hid]
      exact h.fresh _ o ho
    · exact h.fresh id o' ho'
  · rw [horders, lookup_recordReport ho, if_neg, ho']
    rintro rfl
    rw [ho] at ho'
    cases ho'
    exact hother leg ((hown leg).mpr rfl)
  · rw [horders, netQty_recordReport ho, if_neg, Int.add_zero]
    rw [(hown leg).mpr rfl]
    exact (hi leg).symm

theorem EndsWell.reported {q : ArbPair} {o : LegOrder} {leg : Leg} {rpt : ExecReport} {qty : Int}
    {status : ExecStatus} (h : EndsWell p o status (o.filled + fillQty rpt))
    (hawaited : awaited p.state = some leg) (hq : FilledBy leg qty p q) :
    EndsWell q (o.reported rpt) status (o.reported rpt).filled := by
  unfold EndsWell at h ⊢
  rw [hq.state]
  cases hstate : p.state with
  | ENTERING_SECOND_LEG =>
    rw [hstate] at h hawaited
    obtain rfl : Leg.perp = leg := Option.some.inj hawaited
    have hspot : q.spotFilledQty = p.spotFilledQty :=
      (hq.filledQty .spot).trans (Int.add_zero _)
    dsimp only
    rw [hspot]
    exact h
  | IDLE | ENTERING_FIRST_LEG | ACTIVE | EXITING_FIRST_LEG | EXITING_SECOND_LEG | UNWINDING =>
    rw [hstate] at h
    exact h

/-- A report without a fill changes no counter, whosever order it is of. -/
theorem PairInv.of_no_fill (h : PairInv orders base p) {rpt : ExecReport}
    (hfill : fillQty rpt = 0) : PairInv (recordReport orders rpt) base p := by
  cases ho : orders.lookup rpt.orderId with
  | none =>
    have hsame : recordReport orders rpt = orders := by
      unfold recordReport
      rw [ho]
    rw [hsame]
    exact h
  | some o =>
    have hzero : o.side.signed (fillQty rpt) = 0 := by
      rw [hfill]
      exact signed_zero _
    refine ⟨h.baseAsset, h.apart, fun leg => ?_, h.settled, fun leg hne => ?_⟩
    · rw [netQty_recordReport ho, hzero, ite_self, Int.add_zero]
      exact h.net leg
    · rw [lookup_recordReport ho]
      by_cases hsame : (p.leg leg).orderId = rpt.orderId
      · rw [if_pos hsame]
        rw [hsame] at hne
        obtain ⟨hleg, hown⟩ := h.own hsame hne ho
        refine ⟨_, rfl, (hleg leg).mpr rfl, fun hended => ?_⟩
        obtain ⟨hawaited, hcounters⟩ := hown (Bool.or_eq_false_iff.mp hended).1
        have hq : FilledBy leg (o.side.signed (fillQty rpt)) p p := by
          rw [hzero]
          refine ⟨rfl, fun _ => rfl, rfl, rfl, fun leg' => ?_⟩
          rw [ite_self, Int.add_zero]
        exact ⟨hawaited, hcounters.reported hawaited hq⟩
      · rw [if_neg hsame]
        exact h.inFlight leg hne

end Tended

/-! ## Steps -/

section Steps

variable {t : Trading} {cfg : Config}

theorem andThen_sent (w : Work) (andThen : AndThen) : (w.andThen andThen).sent = w.sent := by
  cases andThen <;> rfl

/-- Work that calls nothing. -/
theorem Inv.commit_quiet (h : Inv t) {base : String} {p : ArbPair} {w : Work}
    (hp : t.strategy.pairs.lookup base = some p) (hw : Tended t t.orders base p w)
    (hsent : w.sent = []) : Inv { t with strategy := t.strategy.commit base w } := by
  have hcommit := h.commit hp hw (s := t.strategy.commit base w) rfl rfl rfl rfl
  rw [Work.orders, hsent] at hcommit
  exact hcommit

theorem Inv.finish (h : Inv t) {orders : Table Nat LegOrder} {base : String} {p : ArbPair}
    {w : Work} (hp : t.strategy.pairs.lookup base = some p) (hw : Tended t orders base p w)
    (andThen : AndThen) :
    Inv
      { strategy := (t.strategy.finish base w andThen).1
        orders := (t.strategy.finish base w andThen).2.foldl recordCall orders } := by
  unfold FundingArb.finish
  split
  · exact h.commit hp hw rfl rfl rfl rfl
  · have hrest := h.commit hp (hw.andThen andThen) (s := t.strategy.commit base (w.andThen andThen))
      rfl rfl rfl rfl
    rw [Work.orders, andThen_sent] at hrest
    exact hrest

theorem Inv.onExecReport (h : Inv t) {rpt : ExecReport} (hkeeps : t.KeepsHedge (.execReport rpt)) :
    Inv (t.step cfg (.execReport rpt)).1 := by
  show Inv
    { strategy := (t.strategy.onExecReport cfg rpt).1
      orders := (t.strategy.onExecReport cfg rpt).2.foldl recordCall
        (recordReport t.orders rpt) }
  unfold FundingArb.onExecReport
  cases hfound : t.strategy.findLeg rpt.orderId with
  | none =>
    -- an order that no pair waits for is not filled
    have hfill : ∀ o, t.orders.lookup rpt.orderId = some o → fillQty rpt = 0 := by
      intro o ho
      by_contra hsome
      have hwaits := ((hkeeps o ho).1 hsome).1
      rw [hfound] at hwaits
      cases hwaits
    refine ⟨h.pos, fun id o ho => ?_, h.tracked, h.instruments, fun base p hp => ?_⟩
    · cases hold : t.orders.lookup rpt.orderId with
      | none =>
        have hsame : recordReport t.orders rpt = t.orders := by
          unfold recordReport
          rw [hold]
        exact h.fresh id o (hsame ▸ ho)
      | some o' =>
        have hlookup : (recordReport t.orders rpt).lookup id = some o := ho
        rw [lookup_recordReport hold] at hlookup
        split at hlookup
        · next hid =>
          rw [hid]
          exact h.fresh _ o' hold
        · exact h.fresh id o hlookup
    · cases hold : t.orders.lookup rpt.orderId with
      | none =>
        have hsame : recordReport t.orders rpt = t.orders := by
          unfold recordReport
          rw [hold]
        show PairInv (recordReport t.orders rpt) base p
        rw [hsame]
        exact h.pair base p hp
      | some o => exact (h.pair base p hp).of_no_fill (hfill o hold)
  | some found =>
    obtain ⟨base, p, leg⟩ := found
    obtain ⟨hbase, hp, horder⟩ := findLeg_eq_some hfound
    have hne := h.tracked _ _ hbase
    have hpair := h.pair base p hp
    obtain ⟨o, ho, -, -⟩ := hpair.inFlight leg (by rw [horder]; exact hne)
    rw [horder] at ho
    obtain ⟨hfill, hopen, hends⟩ := hkeeps o ho
    have hsigned : rpt.side.signed (fillQty rpt) = o.side.signed (fillQty rpt) := by
      by_cases hzero : fillQty rpt = 0
      · rw [hzero]
        exact (signed_zero _).trans (signed_zero _).symm
      · rw [(hfill hzero).2]
    have hq := filledBy_handleFill hpair.apart leg rpt
    rw [hsigned] at hq
    have hreport := Tended.report h hp horder hne ho hopen hq
    dsimp only
    split
    · next hterminal =>
      obtain ⟨hended, hcounters⟩ := hpair.report_terminal horder hne ho hopen hq hterminal
      have hawaited := ((hpair.own horder hne ho).2 (hopen (.inr hterminal))).1
      have hwell := (hends _ hfound hterminal).reported hawaited hq
      exact h.finish hp (hreport.handleTerminal hended hcounters hwell cfg) _
    · exact h.commit hp hreport rfl rfl rfl rfl

theorem Inv.onBbo (h : Inv t) (tick : MdMarketData) (rates : FundingRateCache) :
    Inv
      { strategy := (t.strategy.onBbo cfg rates tick).1
        orders := (t.strategy.onBbo cfg rates tick).2.foldl recordCall t.orders } := by
  unfold FundingArb.onBbo
  split
  · exact h
  · split
    · exact h
    · next p hp =>
      split
      · exact h
      · have hset := (Tended.start h hp).setBbo tick
        dsimp only
        split
        · exact h.finish hp (hset.evaluatePair cfg rates tick.timestampNs) _
        · exact h.commit hp hset rfl rfl rfl rfl

theorem Inv.sendReturned (h : Inv t) (accepted : Bool) :
    Inv { t with strategy := t.strategy.sendReturned accepted } := by
  unfold FundingArb.sendReturned
  split
  · exact h
  · next send sends _ =>
    have hpopped : Inv { t with strategy := { t.strategy with sends := sends } } :=
      ⟨h.pos, h.fresh, h.tracked, h.instruments, h.pair⟩
    dsimp only
    split
    · exact hpopped
    · next p hp =>
      have hstart := Tended.start hpopped hp
      split
      · exact hpopped.commit_quiet hp (hstart.andThen send.andThen) (andThen_sent _ _)
      · refine hpopped.commit_quiet hp ((hstart.andThen _).andThen send.andThen) ?_
        exact (andThen_sent _ _).trans (andThen_sent _ _)

end Steps

/-! ## Snapshots -/

def Leg.type : Leg → InstrumentType
  | .spot => .SPOT
  | .perp => .PERPETUAL

/-- A pair as a snapshot makes it, of instruments of its base. -/
structure Made (cache : InstrumentCache) (allIds : List Nat) (base : String) (p : ArbPair) :
    Prop where
  baseAsset : p.baseAsset = base
  idle : p.state = .IDLE
  empty : ∀ leg, p.filledQty leg = 0
  quiet : ∀ leg, (p.leg leg).orderId = 0
  leg : ∀ leg, (p.leg leg).instrumentId = 0 ∨ (p.leg leg).instrumentId ∈ allIds ∧
    ∃ inst, cache (p.leg leg).instrumentId = some inst ∧ inst.baseCurrency = base ∧
      inst.type = leg.type

section Snapshot

variable {cache : InstrumentCache} {allIds : List Nat} {base : String} {p : ArbPair}

theorem Made.new (cache : InstrumentCache) (allIds : List Nat) (base : String) :
    Made cache allIds base { baseAsset := base } where
  baseAsset := rfl
  idle := rfl
  empty leg := by cases leg <;> rfl
  quiet leg := by cases leg <;> rfl
  leg leg := .inl (by cases leg <;> rfl)

theorem Made.addLeg (h : Made cache allIds base p) {id : Nat} (hid : id ∈ allIds) :
    Made cache allIds base (addLeg cache p id) := by
  unfold FundingArb.addLeg
  split
  · exact h
  · next inst hinst =>
    split
    · exact h
    · next hbase =>
      have hbase' : inst.baseCurrency = base := (not_not.mp hbase).trans h.baseAsset
      split
      · next htype =>
        refine ⟨h.baseAsset, h.idle, fun leg => ?_, fun leg => ?_, fun leg => ?_⟩
        · cases leg with
          | spot => exact h.empty .spot
          | perp => exact h.empty .perp
        · cases leg with
          | spot => rfl
          | perp => exact h.quiet .perp
        · cases leg with
          | spot => exact .inr ⟨hid, inst, hinst, hbase', htype⟩
          | perp => exact h.leg .perp
      · next htype =>
        refine ⟨h.baseAsset, h.idle, fun leg => ?_, fun leg => ?_, fun leg => ?_⟩
        · cases leg with
          | spot => exact h.empty .spot
          | perp => exact h.empty .perp
        · cases leg with
          | spot => exact h.quiet .spot
          | perp => rfl
        · cases leg with
          | spot => exact h.leg .spot
          | perp => exact .inr ⟨hid, inst, hinst, hbase', htype⟩
      · exact h

/-- The strategy while a snapshot makes its pairs. -/
structure Resolved (cache : InstrumentCache) (allIds : List Nat) (nextOrderId : Nat)
    (s : FundingArb) : Prop where
  nextOrderId : s.nextOrderId = nextOrderId
  orderToBase : s.orderToBase = ∅
  sends : s.sends = []
  made : ∀ base p, s.pairs.lookup base = some p → Made cache allIds base p ∧
    ∀ leg, (p.leg leg).instrumentId ≠ 0 ∧
      s.instrumentToBase.lookup (p.leg leg).instrumentId = some base

theorem Resolved.addPair {n : Nat} {s : FundingArb} (h : Resolved cache allIds n s)
    (base : String) : Resolved cache allIds n (addPair cache allIds s base) := by
  have hmade : Made cache allIds base (allIds.foldl (FundingArb.addLeg cache) { baseAsset := base }) :=
    List.foldlRecOn (motive := Made cache allIds base) _ _ (.new cache allIds base)
      fun _ hp _ hid => hp.addLeg hid
  unfold FundingArb.addPair
  generalize allIds.foldl (FundingArb.addLeg cache) { baseAsset := base } = new at hmade
  dsimp only
  split
  · exact h
  · next hlegs =>
    rw [not_or] at hlegs
    have hnew : ∀ leg, (new.leg leg).instrumentId ≠ 0 := by
      intro leg
      cases leg with
      | spot => exact hlegs.1
      | perp => exact hlegs.2
    -- an instrument is of one base only
    have hsame : ∀ b q, Made cache allIds b q → ∀ leg leg', (q.leg leg).instrumentId ≠ 0 →
        (q.leg leg).instrumentId = (new.leg leg').instrumentId → b = base := by
      intro b q hq leg leg' hne heq
      obtain ⟨-, inst, hinst, hb, -⟩ := (hq.leg leg).resolve_left hne
      obtain ⟨-, inst', hinst', hb', -⟩ := (hmade.leg leg').resolve_left (hnew leg')
      rw [heq, hinst'] at hinst
      cases hinst
      exact hb.symm.trans hb'
    refine ⟨h.nextOrderId, h.orderToBase, h.sends, fun b q hq => ?_⟩
    have hlookup : (s.pairs.emplace base new).lookup b = some q := hq
    rw [Table.lookup_emplace] at hlookup
    cases hold : s.pairs.lookup b with
    | some q' =>
      rw [hold, Option.some_or] at hlookup
      cases hlookup
      obtain ⟨hmade', hleg⟩ := h.made b q hold
      refine ⟨hmade', fun leg => ⟨(hleg leg).1, ?_⟩⟩
      dsimp only
      rw [Table.lookup_insert_eq, Table.lookup_insert_eq]
      split
      · next heq => rw [hsame b q hmade' leg .perp (hleg leg).1 heq]
      · split
        · next heq => rw [hsame b q hmade' leg .spot (hleg leg).1 heq]
        · exact (hleg leg).2
    | none =>
      rw [hold, Option.none_or] at hlookup
      split at hlookup
      · next hb =>
        cases hlookup
        subst hb
        refine ⟨hmade, fun leg => ⟨hnew leg, ?_⟩⟩
        dsimp only
        rw [Table.lookup_insert_eq, Table.lookup_insert_eq]
        cases leg with
        | spot => rw [if_pos (show (new.leg .spot).instrumentId = new.spot.instrumentId from rfl), ite_self]
        | perp => rw [if_pos (show (new.leg .perp).instrumentId = new.perp.instrumentId from rfl)]
      · cases hlookup

theorem resolved_onInstrumentSnapshot (cfg : Config) (s : FundingArb) (cache : InstrumentCache)
    (allIds : List Nat) :
    Resolved cache allIds s.nextOrderId (s.onInstrumentSnapshot cfg cache allIds) :=
  List.foldlRecOn (motive := Resolved cache allIds s.nextOrderId) _ _
    ⟨rfl, rfl, rfl, fun base p hp => by simp at hp⟩ fun _ hs base _ => hs.addPair base

theorem Made.apart (h : Made cache allIds base p) (hspot : p.spot.instrumentId ≠ 0)
    (hperp : p.perp.instrumentId ≠ 0) : p.spot.instrumentId ≠ p.perp.instrumentId := by
  intro heq
  obtain ⟨-, inst, hinst, -, htype⟩ := (h.leg .spot).resolve_left hspot
  obtain ⟨-, inst', hinst', -, htype'⟩ := (h.leg .perp).resolve_left hperp
  have hsame : cache p.spot.instrumentId = some inst' := by
    rw [heq]
    exact hinst'
  have hinst'' : cache p.spot.instrumentId = some inst := hinst
  rw [hsame] at hinst''
  cases hinst''
  rw [htype'] at htype
  cases htype

/-- A snapshot that finds no position of its instruments makes idle pairs. -/
theorem Inv.onInstrumentSnapshot {t : Trading} (h : Inv t) (cfg : Config)
    (hflat : ∀ id ∈ allIds, netQty t.orders id = 0) :
    Inv { t with strategy := t.strategy.onInstrumentSnapshot cfg cache allIds } := by
  have hresolved := resolved_onInstrumentSnapshot cfg t.strategy cache allIds
  refine ⟨?_, ?_, fun id base hid => ?_, fun base p hp leg => ?_, fun base p hp => ?_⟩
  · dsimp only
    rw [hresolved.nextOrderId]
    exact h.pos
  · dsimp only
    rw [hresolved.nextOrderId]
    exact h.fresh
  · dsimp only at hid
    rw [hresolved.orderToBase] at hid
    cases hid
  · exact ((hresolved.made base p hp).2 leg).2
  · obtain ⟨hmade, hleg⟩ := hresolved.made base p hp
    refine ⟨hmade.baseAsset, hmade.apart (hleg .spot).1 (hleg .perp).1, fun leg => ?_, ?_,
      fun leg hne => absurd (hmade.quiet leg) hne⟩
    · rw [hmade.empty leg]
      exact hflat _ ((hmade.leg leg).resolve_left (hleg leg).1).1
    · unfold Settled
      rw [hmade.idle]
      exact ⟨hmade.empty .spot, hmade.empty .perp⟩

end Snapshot

/-! ## Runs -/

namespace Trading

theorem inv_init {nextOrderId : Nat} (hpos : 0 < nextOrderId) : Inv (init nextOrderId) where
  pos := hpos
  fresh id o ho := by simp [init] at ho
  tracked id base hid := by simp [init] at hid
  instruments base p hp := by simp [init] at hp
  pair base p hp := by simp [init] at hp

theorem inv_step {cfg : Config} (t : Trading) (cb : Callback) (h : Inv t)
    (hkeeps : t.KeepsHedge cb) : Inv (t.step cfg cb).1 := by
  cases cb with
  | instrumentSnapshot cache allIds =>
    show Inv
      { strategy := (t.strategy.step cfg (.instrumentSnapshot cache allIds)).1
        orders := (t.strategy.step cfg (.instrumentSnapshot cache allIds)).2.foldl recordCall
          t.orders }
    unfold FundingArb.step
    dsimp only
    split
    · exact h.onInstrumentSnapshot cfg hkeeps
    · exact h
  | instrumentDelta inst updateType => exact h
  | trade tick => exact h
  | bbo tick rates =>
    show Inv
      { strategy := (t.strategy.step cfg (.bbo tick rates)).1
        orders := (t.strategy.step cfg (.bbo tick rates)).2.foldl recordCall t.orders }
    unfold FundingArb.step
    dsimp only
    split
    · exact h.onBbo tick rates
    · exact h
  | execReport rpt => exact h.onExecReport hkeeps
  | sendReturned accepted => exact h.sendReturned accepted

/-- **Hedging.** When fills are only of orders that a pair waits for, every order ends as its state
takes for granted, and no snapshot comes while there are positions, the legs of an active pair are
the negatives of each other and an idle pair has no position, throughout the run. -/
theorem stays_hedged (cfg : Config) {nextOrderId : Nat} (hpos : 0 < nextOrderId)
    {cbs : List Callback}
    (hkeeps : Machine.AlongRun (step cfg) KeepsHedge (init nextOrderId) cbs) :
    Machine.AllStates (step cfg) Hedged (init nextOrderId) cbs :=
  (Machine.AllStates.of_assumption inv_step (inv_init hpos) hkeeps).imp fun _ h => h.hedged

/-- The pair is entered and left, each leg as a whole. -/
theorem round_trip_hedged :
    Machine.AllStates (step btcConfig) Hedged (init 1)
      (btcEntry ++ [.sendReturned true, btcReport 1 .FILLED .BUY 1000000, .sendReturned true,
        btcReport 2 .FILLED .SELL 1000000, btcTick 202 2 99 101 0, .sendReturned true,
        btcReport 3 .FILLED .BUY 1000000, .sendReturned true, btcReport 4 .FILLED .SELL 1000000]) :=
  stays_hedged btcConfig (by decide) (by decide +kernel)

/-- Of the first leg's order four coins are filled before it is cancelled: the pair is idle, with
them. -/
theorem idle_with_a_residue :
    let t := Machine.exec (step btcConfig) (init 1)
      (btcEntry ++ [.sendReturned true, btcReport 1 .PARTIAL .BUY 400000,
        btcReport 1 .CANCELLED .BUY 0])
    (t.strategy.pairs.lookup "BTC").map (·.state) = some .IDLE ∧ netQty t.orders 102 = 400000 ∧
      netQty t.orders 202 = 0 := by
  decide +kernel

end Trading

end FundingArb

end BptCore.Strategy
