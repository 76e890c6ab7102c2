import BptCore.Lib.Machine
import BptCore.Strategy.Strategy.OFI

/-!
# Position labels

The order flow imbalance strategy beside the venue's account of its orders, whose fills are the true
positions. The label of an instrument is set by what was sent and by how an order ended, never by a
filled quantity, so that it is right when every order ends as the label takes for granted.

* **`Trading`** — the strategy with its orders at the venue.
* **`Labelled`**, **`ExitsWithin`** — the label is the sign of the position; no exit exceeds it.
* **`KeepsLabels`** — what is due is sent and taken, and orders end well.
* **`stays_labelled`** — labels stay right then.
-/

namespace BptCore.Strategy

namespace OFI

/-- An order at the venue, what was filled of it, and whether it has ended. -/
structure VenueOrder where
  instrumentId : Nat
  side : OrderSide
  quantity : Nat
  isEntry : Bool
  filled : Nat := 0
  ended : Bool := false
  deriving DecidableEq, Repr

namespace VenueOrder

variable (o : VenueOrder)

/-- What the order has brought of an instrument. -/
def gain (instrumentId : Nat) : Int :=
  if o.instrumentId = instrumentId then o.side.signed o.filled else 0

/-- The quantity that a report brings. -/
def fillQty (rpt : ExecReport) : Nat := if rpt.status.isFill then rpt.filledQty else 0

def reported (rpt : ExecReport) : VenueOrder :=
  { o with filled := o.filled + fillQty rpt, ended := o.ended || rpt.status.terminal }

/-- How an order may end, as filled or not: an entry as filled exactly when some of it was, an exit
with all of it filled. -/
def EndsWell (asFilled : Prop) (done : Nat) : Prop :=
  if o.isEntry then asFilled ↔ 0 < done else done = o.quantity

instance (asFilled : Prop) [Decidable asFilled] (done : Nat) :
    Decidable (o.EndsWell asFilled done) :=
  inferInstanceAs (Decidable (if o.isEntry then asFilled ↔ 0 < done else done = o.quantity))

end VenueOrder

/-- The net position of an instrument that the fills of all orders come to. -/
def netQty (orders : Table Nat VenueOrder) (instrumentId : Nat) : Int :=
  Table.sumVals (VenueOrder.gain · instrumentId) orders

/-- The orders after an event at the venue. -/
def record (orders : Table Nat VenueOrder) : VenueEvent → Table Nat VenueOrder
  | .sent order isEntry =>
    orders.insert order.orderId
      { instrumentId := order.instrumentId
        side := order.side
        quantity := order.quantity
        isEntry := isEntry }
  | .report rpt =>
    match orders.lookup rpt.orderId with
    | none => orders
    | some o => orders.insert rpt.orderId (o.reported rpt)
  | .refused orderId =>
    match orders.lookup orderId with
    | none => orders
    | some o => orders.insert orderId { o with ended := true }

/-- No order of the instrument is outstanding. -/
def Idle (orders : Table Nat VenueOrder) (instrumentId : Nat) : Prop :=
  ∀ o ∈ Table.vals orders, o.instrumentId = instrumentId → o.ended = true

instance (orders : Table Nat VenueOrder) (instrumentId : Nat) :
    Decidable (Idle orders instrumentId) :=
  inferInstanceAs (Decidable (∀ o ∈ _, _))

/-- The label of a net position. -/
def signOf (n : Int) : Position := if 0 < n then .LONG else if n < 0 then .SHORT else .FLAT

structure Trading where
  strategy : OFI
  orders : Table Nat VenueOrder := ∅

namespace Trading

variable (cfg : Config) (t : Trading)

def step (t : Trading) (e : Callback × Surroundings) : Trading × List VenueEvent :=
  let r := t.strategy.step cfg e
  ({ strategy := r.1, orders := r.2.foldl record t.orders }, r.2)

def init (nextOrderId : Nat) : Trading where
  strategy := { nextOrderId := nextOrderId }

/-- An instrument without an outstanding order is labelled by the sign of its net position. -/
def Labelled : Prop :=
  ∀ id st, t.strategy.state.lookup id = some st → Idle t.orders id →
    st.pos = signOf (netQty t.orders id)

/-- No exit that the callback sends is larger than the position. -/
def ExitsWithin (t : Trading) (e : Callback × Surroundings) : Prop :=
  ∀ order, .sent order false ∈ (t.step cfg e).2 →
    order.quantity ≤ (netQty t.orders order.instrumentId).natAbs

end Trading

/-! ## The conditions -/

/-- A report fills its order on the order's side and before the end, which comes once, and well:
`heard` says whether the strategy takes notice of it. -/
def ReportKeeps (orders : Table Nat VenueOrder) (heard : Prop) (rpt : ExecReport) : Prop :=
  ∀ o ∈ orders.lookup rpt.orderId,
    (VenueOrder.fillQty rpt ≠ 0 → rpt.side = o.side) ∧
      (VenueOrder.fillQty rpt ≠ 0 ∨ rpt.status.terminal → o.ended = false) ∧
      (rpt.status.terminal →
        o.EndsWell (heard → rpt.status = .FILLED) (o.filled + VenueOrder.fillQty rpt))

instance (orders : Table Nat VenueOrder) (heard : Prop) [Decidable heard] (rpt : ExecReport) :
    Decidable (ReportKeeps orders heard rpt) :=
  inferInstanceAs (Decidable (∀ o ∈ orders.lookup rpt.orderId, _ ∧ _ ∧ _))

/-- The same of the reports from inside the send of an order, of which the strategy takes no notice
when they are of this order. -/
def ReportsKeep (own : Nat) (orders : Table Nat VenueOrder) : List ExecReport → Prop
  | [] => True
  | rpt :: rpts =>
    ReportKeeps orders (rpt.orderId ≠ own) rpt ∧ ReportsKeep own (record orders (.report rpt)) rpts

instance ReportsKeep.decidable (own : Nat) :
    ∀ (orders : Table Nat VenueOrder) (rpts : List ExecReport),
      Decidable (ReportsKeep own orders rpts)
  | _, [] => isTrue trivial
  | orders, rpt :: rpts =>
    have := ReportsKeep.decidable own (record orders (.report rpt)) rpts
    inferInstanceAs (Decidable (_ ∧ _))

/-- The order that a callback is to send: its instrument, which the prices of the callback have
reached, its side, and whether it is an entry. -/
def due (cfg : Config) (s : OFI) : Callback → Option (Nat × InstrumentState × OrderSide × Bool)
  | .bbo tick =>
    match s.state.lookup tick.instrumentId with
    | none => none
    | some st =>
      if tick.bidPrice ≤ 0 ∨ tick.askPrice ≤ 0 ∨ tick.askPrice ≤ tick.bidPrice then none
      else
        let st := st.quoted cfg tick
        if timeStop cfg st then some (tick.instrumentId, st, exitSide st.pos, false) else none
  | .orderBook book =>
    match s.state.lookup book.instrumentId with
    | none => none
    | some st =>
      let ofiValue := (st.ofi.update cfg.ofi book.bids book.asks book.timestampNs).2
      let st := st.booked cfg book
      if st.activeOrderId ≠ 0 then none
      else if st.pos = .FLAT then
        (entrySide cfg st ofiValue book.timestampNs).map fun side =>
          (book.instrumentId, st, side, true)
      else if exitDue cfg st ofiValue book.timestampNs then
        some (book.instrumentId, st, exitSide st.pos, false)
      else none
  | .shutdownFlatten instrumentId =>
    match s.state.lookup instrumentId with
    | none => none
    | some st =>
      if st.pos = .FLAT then none else some (instrumentId, st, exitSide st.pos, false)
  | .instrumentSnapshot _ | .instrumentDelta _ _ | .trade _ | .execReport _ => none

namespace Trading

/-- An order that is due finds none of its instrument outstanding, and is sent and taken; an exit is
exactly of the position. -/
def SendKeeps (cfg : Config) (env : Surroundings) (t : Trading) (id : Nat) (st : InstrumentState)
    (side : OrderSide) (isEntry : Bool) : Prop :=
  Idle t.orders id ∧
    ∃ order ∈ t.strategy.outboundOrder cfg env id st side,
      (env.gateway order).accepted = true ∧
        (isEntry = false → order.quantity = (netQty t.orders id).natAbs) ∧
        ReportsKeep order.orderId (record t.orders (.sent order isEntry))
          (env.gateway order).reports

instance (cfg : Config) (env : Surroundings) (t : Trading) (id : Nat) (st : InstrumentState)
    (side : OrderSide) (isEntry : Bool) : Decidable (t.SendKeeps cfg env id st side isEntry) :=
  inferInstanceAs (Decidable (Idle t.orders id ∧
    ∃ order ∈ t.strategy.outboundOrder cfg env id st side, _ ∧ _ ∧ _))

/-- A report that comes between the callbacks is heard. -/
def ReportedWell (t : Trading) : Callback → Prop
  | .execReport rpt => ReportKeeps t.orders True rpt
  | _ => True

instance (t : Trading) : (cb : Callback) → Decidable (t.ReportedWell cb)
  | .execReport rpt => inferInstanceAs (Decidable (ReportKeeps t.orders True rpt))
  | .instrumentSnapshot _ | .instrumentDelta _ _ | .bbo _ | .trade _ | .orderBook _
  | .shutdownFlatten _ => isTrue trivial

/-- What is due is sent, and orders end well. -/
def KeepsLabels (cfg : Config) (t : Trading) (e : Callback × Surroundings) : Prop :=
  (∀ d ∈ due cfg t.strategy e.1, t.SendKeeps cfg e.2 d.1 d.2.1 d.2.2.1 d.2.2.2) ∧
    t.ReportedWell e.1

instance (cfg : Config) (t : Trading) (e : Callback × Surroundings) :
    Decidable (t.KeepsLabels cfg e) :=
  inferInstanceAs (Decidable ((∀ d ∈ due cfg t.strategy e.1, _) ∧ _))

end Trading

/-! ## The venue's account -/

section Orders

variable {orders : Table Nat VenueOrder} {o o' : VenueOrder} {rpt : ExecReport} {heard : Prop}

theorem idle_iff {instrumentId : Nat} : Idle orders instrumentId ↔
    ∀ orderId o, orders.lookup orderId = some o → o.instrumentId = instrumentId →
      o.ended = true := by
  constructor
  · exact fun h orderId o ho => h o (Table.mem_vals_iff.mpr ⟨orderId, ho⟩)
  · intro h o ho
    obtain ⟨orderId, hlookup⟩ := Table.mem_vals_iff.mp ho
    exact h orderId o hlookup

theorem lookup_record_report (ho : orders.lookup rpt.orderId = some o) (id : Nat) :
    (record orders (.report rpt)).lookup id =
      if id = rpt.orderId then some (o.reported rpt) else orders.lookup id := by
  unfold record
  dsimp only
  rw [ho]
  exact Table.lookup_insert_eq _ _ _ _

theorem record_report_of_none (ho : orders.lookup rpt.orderId = none) :
    record orders (.report rpt) = orders := by
  unfold record
  dsimp only
  rw [ho]

theorem netQty_insert (ho : orders.lookup rpt.orderId = some o) (instrumentId : Nat) :
    netQty (orders.insert rpt.orderId o') instrumentId =
      netQty orders instrumentId - o.gain instrumentId + o'.gain instrumentId := by
  unfold netQty
  rw [Table.sumVals_insert, Table.sumVals_of_lookup _ ho]
  omega

theorem netQty_record_report (ho : orders.lookup rpt.orderId = some o) (instrumentId : Nat) :
    netQty (record orders (.report rpt)) instrumentId =
      netQty orders instrumentId +
        if o.instrumentId = instrumentId then o.side.signed (VenueOrder.fillQty rpt) else 0 := by
  have hrecord : record orders (.report rpt) = orders.insert rpt.orderId (o.reported rpt) := by
    unfold record
    dsimp only
    rw [ho]
  have hgain : (o.reported rpt).gain instrumentId =
      o.gain instrumentId +
        if o.instrumentId = instrumentId then o.side.signed (VenueOrder.fillQty rpt) else 0 := by
    unfold VenueOrder.gain VenueOrder.reported OrderSide.signed
    dsimp only
    split
    · split <;> omega
    · rfl
  rw [hrecord, netQty_insert ho, hgain]
  omega

/-- A new order brings nothing yet. -/
theorem netQty_record_sent {order : OutboundNewOrder}
    (hnone : orders.lookup order.orderId = none) (isEntry : Bool) (instrumentId : Nat) :
    netQty (record orders (.sent order isEntry)) instrumentId = netQty orders instrumentId := by
  have herase : orders.erase order.orderId = orders :=
    Table.erase_of_notMem fun hmem => by
      rw [← AList.lookup_isSome, hnone] at hmem
      cases hmem
  have hgain : ∀ o : VenueOrder, o.filled = 0 → o.gain instrumentId = 0 := by
    intro o ho
    unfold VenueOrder.gain OrderSide.signed
    rw [ho]
    split
    · split <;> rfl
    · rfl
  show Table.sumVals (VenueOrder.gain · instrumentId) (orders.insert order.orderId _) = _
  rw [Table.sumVals_insert, hgain _ rfl, herase, Int.zero_add]
  rfl

/-- A report of an order that has ended changes nothing. -/
theorem reported_of_ended (hkeeps : ReportKeeps orders heard rpt)
    (ho : orders.lookup rpt.orderId = some o) (hended : o.ended = true) :
    rpt.status.terminal = false ∧ o.reported rpt = o := by
  obtain ⟨-, hopen, -⟩ := hkeeps o ho
  have hfill : VenueOrder.fillQty rpt = 0 := by
    by_contra hne
    rw [hopen (.inl hne)] at hended
    cases hended
  have hterminal : rpt.status.terminal = false := by
    rw [← Bool.not_eq_true]
    intro hterminal
    rw [hopen (.inr hterminal)] at hended
    cases hended
  refine ⟨hterminal, ?_⟩
  unfold VenueOrder.reported
  rw [hfill, hterminal, Bool.or_false, Nat.add_zero]

end Orders

/-! ## The label of one instrument -/

/-- While an order is outstanding the label takes for granted how it will end. -/
def Pending (pos : Position) (net : Int) (o : VenueOrder) : Prop :=
  if o.isEntry then pos = labelOf o.side ∧ net = o.side.signed o.filled
  else pos = .FLAT ∧ net = o.side.signed o.filled - o.side.signed o.quantity

structure Right (t : Trading) (id : Nat) (st : InstrumentState) : Prop where
  idle : Idle t.orders id → st.pos = signOf (netQty t.orders id)
  outstanding : ∀ orderId o, t.orders.lookup orderId = some o → o.instrumentId = id →
    o.ended = false → t.strategy.orderToInstrument.lookup orderId = some id ∧
      st.activeOrderId = orderId ∧ Pending st.pos (netQty t.orders id) o

/-- The ids of the orders. -/
structure Numbered (t : Trading) : Prop where
  pos : 0 < t.strategy.nextOrderId
  fresh : ∀ orderId o, t.orders.lookup orderId = some o → orderId < t.strategy.nextOrderId
  known : ∀ orderId o, t.orders.lookup orderId = some o →
    ∃ st, t.strategy.state.lookup o.instrumentId = some st
  tracked : ∀ orderId id, t.strategy.orderToInstrument.lookup orderId = some id →
    ∃ o, t.orders.lookup orderId = some o ∧ o.instrumentId = id

/-- The labels of the instruments in `S`. -/
def RightOn (S : Nat → Prop) (t : Trading) : Prop :=
  ∀ id st, S id → t.strategy.state.lookup id = some st → Right t id st

theorem signOf_signed {side : OrderSide} {n : Nat} (hn : 0 < n) :
    signOf (side.signed n) = labelOf side := by
  unfold signOf OrderSide.signed
  cases side with
  | BUY => exact if_pos (by dsimp only; omega)
  | SELL =>
    rw [if_neg (by dsimp only; omega)]
    exact if_pos (by dsimp only; omega)

theorem signed_zero (side : OrderSide) : side.signed 0 = 0 := by
  cases side <;> rfl

/-- An order that ends well leaves the right label. -/
theorem Pending.endsWell {pos : Position} {net : Int} {o : VenueOrder} (h : Pending pos net o)
    {asFilled : Prop} (hends : o.EndsWell asFilled o.filled) :
    (asFilled → pos = signOf net) ∧ (¬ asFilled → .FLAT = signOf net) := by
  unfold Pending at h
  unfold VenueOrder.EndsWell at hends
  split at h
  · next hentry =>
    rw [if_pos hentry] at hends
    obtain ⟨hpos, hnet⟩ := h
    refine ⟨fun hfilled => ?_, fun hnot => ?_⟩
    · rw [hpos, hnet, signOf_signed (hends.mp hfilled)]
    · have hzero : o.filled = 0 := Nat.eq_zero_of_not_pos fun hsome => hnot (hends.mpr hsome)
      rw [hnet, hzero]
      exact (congrArg signOf (signed_zero o.side)).symm
  · next hexit =>
    rw [if_neg hexit] at hends
    obtain ⟨hpos, hnet⟩ := h
    rw [hends, Int.sub_self] at hnet
    rw [hpos, hnet]
    exact ⟨fun _ => rfl, fun _ => rfl⟩

theorem Pending.reported {pos : Position} {net : Int} {o : VenueOrder} (h : Pending pos net o)
    (rpt : ExecReport) :
    Pending pos (net + o.side.signed (VenueOrder.fillQty rpt)) (o.reported rpt) := by
  have hadd : o.side.signed ((o.filled + VenueOrder.fillQty rpt : Nat) : Int) =
      o.side.signed o.filled + o.side.signed (VenueOrder.fillQty rpt) := by
    unfold OrderSide.signed
    split <;> omega
  unfold Pending at h ⊢
  unfold VenueOrder.reported
  dsimp only
  rw [hadd]
  split
  · next hentry =>
    rw [if_pos hentry] at h
    exact ⟨h.1, by rw [h.2]⟩
  · next hexit =>
    rw [if_neg hexit] at h
    exact ⟨h.1, by rw [h.2]; omega⟩

/-- What a label is right of: the instrument's orders, its net position, and which of its orders the
strategy waits for. -/
theorem Right.congr {t t' : Trading} {id : Nat} {st st' : InstrumentState} (h : Right t id st)
    (horders : ∀ orderId o, o.instrumentId = id →
      (t'.orders.lookup orderId = some o ↔ t.orders.lookup orderId = some o))
    (hnet : netQty t'.orders id = netQty t.orders id)
    (htracked : ∀ orderId, t.strategy.orderToInstrument.lookup orderId = some id →
      t'.strategy.orderToInstrument.lookup orderId = some id)
    (hpos : st'.pos = st.pos) (hactive : st'.activeOrderId = st.activeOrderId) :
    Right t' id st' := by
  refine ⟨fun hidle => ?_, fun orderId o ho hinst hopen => ?_⟩
  · rw [hpos, hnet]
    refine h.idle (idle_iff.mpr fun orderId o ho hinst => ?_)
    exact idle_iff.mp hidle orderId o ((horders orderId o hinst).mpr ho) hinst
  · obtain ⟨hheld, hid, hpending⟩ :=
      h.outstanding orderId o ((horders orderId o hinst).mp ho) hinst hopen
    rw [hpos, hnet, hactive]
    exact ⟨htracked orderId hheld, hid, hpending⟩

section Report

variable {cfg : Config} {t : Trading} {rpt : ExecReport}

theorem onExecReport_of_untracked {s : OFI} (h : s.orderToInstrument.lookup rpt.orderId = none) :
    s.onExecReport cfg rpt = s := by
  unfold onExecReport
  rw [h]

theorem onExecReport_of_open {s : OFI} (h : rpt.status.terminal = false) :
    s.onExecReport cfg rpt = s := by
  unfold onExecReport
  split
  · rfl
  · split
    · rfl
    · rw [if_neg (by rw [h]; exact Bool.false_ne_true)]

theorem onExecReport_of_terminal {s : OFI} {id : Nat} {st : InstrumentState}
    (htracked : s.orderToInstrument.lookup rpt.orderId = some id)
    (hst : s.state.lookup id = some st) (h : rpt.status.terminal = true) :
    s.onExecReport cfg rpt =
      { s with
        state := s.state.insert id (st.ended cfg rpt)
        orderToInstrument := s.orderToInstrument.erase rpt.orderId } := by
  simp only [onExecReport, htracked, hst, h, if_true]

/-- The strategy after a report, beside the orders after it. -/
def Trading.reported (cfg : Config) (t : Trading) (rpt : ExecReport) : Trading where
  strategy := t.strategy.onExecReport cfg rpt
  orders := record t.orders (.report rpt)

theorem Numbered.untracked (h : Numbered t) {orderId : Nat} (hnone : t.orders.lookup orderId = none) :
    t.strategy.orderToInstrument.lookup orderId = none := by
  cases hlookup : t.strategy.orderToInstrument.lookup orderId with
  | none => rfl
  | some id =>
    obtain ⟨o, ho, -⟩ := h.tracked orderId id hlookup
    rw [hnone] at ho
    cases ho

/-- A report makes no order, instrument or id, and drops none but the id of an order at its end. -/
theorem Numbered.report (h : Numbered t) (cfg : Config) (rpt : ExecReport) :
    Numbered (t.reported cfg rpt) := by
  have hnext : (t.strategy.onExecReport cfg rpt).nextOrderId = t.strategy.nextOrderId := by
    unfold onExecReport
    split
    · rfl
    · split
      · rfl
      · split <;> rfl
  have hstate : ∀ id st, t.strategy.state.lookup id = some st →
      ∃ st', (t.strategy.onExecReport cfg rpt).state.lookup id = some st' := by
    intro id st hst
    unfold onExecReport
    split
    · exact ⟨st, hst⟩
    · split
      · exact ⟨st, hst⟩
      · split
        · dsimp only
          rw [Table.lookup_insert_eq]
          split
          · exact ⟨_, rfl⟩
          · exact ⟨st, hst⟩
        · exact ⟨st, hst⟩
  have htracked : ∀ orderId id,
      (t.strategy.onExecReport cfg rpt).orderToInstrument.lookup orderId = some id →
        t.strategy.orderToInstrument.lookup orderId = some id := by
    intro orderId id
    unfold onExecReport
    split
    · exact fun hlookup => hlookup
    · split
      · exact fun hlookup => hlookup
      · split
        · dsimp only
          rw [Table.lookup_erase_eq]
          split
          · exact nofun
          · exact fun hlookup => hlookup
        · exact fun hlookup => hlookup
  -- an order after the report is one before it, of the same instrument
  have hold : ∀ orderId o, (record t.orders (.report rpt)).lookup orderId = some o →
      ∃ o', t.orders.lookup orderId = some o' ∧ o'.instrumentId = o.instrumentId := by
    intro orderId o ho
    cases hrpt : t.orders.lookup rpt.orderId with
    | none =>
      rw [record_report_of_none hrpt] at ho
      exact ⟨o, ho, rfl⟩
    | some o' =>
      rw [lookup_record_report hrpt] at ho
      split at ho
      · next heq =>
        cases ho
        exact ⟨o', heq ▸ hrpt, rfl⟩
      · exact ⟨o, ho, rfl⟩
  have hnew : ∀ orderId o, t.orders.lookup orderId = some o →
      ∃ o', (record t.orders (.report rpt)).lookup orderId = some o' ∧
        o'.instrumentId = o.instrumentId := by
    intro orderId o ho
    cases hrpt : t.orders.lookup rpt.orderId with
    | none => exact ⟨o, (record_report_of_none hrpt).symm ▸ ho, rfl⟩
    | some o' =>
      rw [lookup_record_report hrpt]
      split
      · next heq =>
        rw [heq, hrpt] at ho
        cases ho
        exact ⟨o.reported rpt, rfl, rfl⟩
      · exact ⟨o, ho, rfl⟩
  refine ⟨?_, fun orderId o ho => ?_, fun orderId o ho => ?_, fun orderId id hlookup => ?_⟩
  · show 0 < (t.strategy.onExecReport cfg rpt).nextOrderId
    rw [hnext]
    exact h.pos
  · show orderId < (t.strategy.onExecReport cfg rpt).nextOrderId
    obtain ⟨o', ho', -⟩ := hold orderId o ho
    rw [hnext]
    exact h.fresh orderId o' ho'
  · obtain ⟨o', ho', hinst⟩ := hold orderId o ho
    obtain ⟨st, hst⟩ := h.known orderId o' ho'
    rw [← hinst]
    exact hstate _ st hst
  · obtain ⟨o, ho, hinst⟩ := h.tracked orderId id (htracked orderId id hlookup)
    obtain ⟨o', ho', hinst'⟩ := hnew orderId o ho
    exact ⟨o', ho', hinst'.trans hinst⟩

/-- A report that the strategy takes notice of keeps the labels right: of an order that is
outstanding it is one of the labels in question. -/
theorem RightOn.report {S : Nat → Prop} (hnum : Numbered t) (h : RightOn S t) {heard : Prop}
    (hheard : heard) (hkeeps : ReportKeeps t.orders heard rpt)
    (hcovers : ∀ o, t.orders.lookup rpt.orderId = some o → o.ended = false → S o.instrumentId) :
    RightOn S (t.reported cfg rpt) := by
  cases ho : t.orders.lookup rpt.orderId with
  | none =>
    have hsame : t.reported cfg rpt = t := by
      unfold Trading.reported
      rw [onExecReport_of_untracked (hnum.untracked ho), record_report_of_none ho]
    rw [hsame]
    exact h
  | some o =>
    have hlookup := lookup_record_report ho
    have hnet := netQty_record_report ho
    -- the orders of other instruments are untouched
    have helsewhere : ∀ id, id ≠ o.instrumentId → ∀ orderId o', o'.instrumentId = id →
        ((t.reported cfg rpt).orders.lookup orderId = some o' ↔
          t.orders.lookup orderId = some o') := by
      intro id hid orderId o' hinst
      show (record t.orders (.report rpt)).lookup orderId = some o' ↔ _
      rw [hlookup]
      split
      · next heq =>
        rw [heq, ho]
        refine ⟨fun heq' => ?_, fun heq' => ?_⟩
        · cases heq'
          exact absurd hinst.symm hid
        · cases heq'
          exact absurd hinst.symm hid
      · exact Iff.rfl
    have hnetElsewhere : ∀ id, id ≠ o.instrumentId →
        netQty (t.reported cfg rpt).orders id = netQty t.orders id := by
      intro id hid
      refine (hnet id).trans ?_
      rw [if_neg (Ne.symm hid), Int.add_zero]
    cases hended : o.ended with
    | true =>
      obtain ⟨hterminal, hreported⟩ := reported_of_ended hkeeps ho hended
      have hfill : VenueOrder.fillQty rpt = 0 := by
        by_contra hne
        have hopen := (hkeeps o ho).2.1 (.inl hne)
        rw [hended] at hopen
        cases hopen
      intro id st hid hst
      have hst' : t.strategy.state.lookup id = some st := by
        have hsame : (t.strategy.onExecReport cfg rpt) = t.strategy := onExecReport_of_open hterminal
        rw [← hsame]
        exact hst
      refine (h id st hid hst').congr (fun orderId o' _ => ?_) ?_ (fun orderId htracked => ?_) rfl rfl
      · show (record t.orders (.report rpt)).lookup orderId = some o' ↔ _
        rw [hlookup, hreported]
        split
        · next heq => rw [heq, ho]
        · exact Iff.rfl
      · refine (hnet id).trans ?_
        rw [hfill]
        split
        · rw [Int.natCast_zero, signed_zero, Int.add_zero]
        · exact Int.add_zero _
      · show (t.strategy.onExecReport cfg rpt).orderToInstrument.lookup orderId = some id
        rw [onExecReport_of_open hterminal]
        exact htracked
    | false =>
      have hS := hcovers o ho hended
      obtain ⟨st₀, hst₀⟩ := hnum.known _ o ho
      have hright := h o.instrumentId st₀ hS hst₀
      obtain ⟨htracked, hactive, hpending⟩ := hright.outstanding _ o ho rfl hended
      have hpending' := hpending.reported rpt
      have hnetOwn : netQty (record t.orders (.report rpt)) o.instrumentId =
          netQty t.orders o.instrumentId + o.side.signed (VenueOrder.fillQty rpt) := by
        rw [hnet, if_pos rfl]
      -- no other order of the instrument is outstanding
      have honly : ∀ orderId o', t.orders.lookup orderId = some o' →
          o'.instrumentId = o.instrumentId → o'.ended = false → orderId = rpt.orderId := by
        intro orderId o' ho' hinst hopen
        exact (hright.outstanding orderId o' ho' hinst hopen).2.1.symm.trans hactive
      cases hterminal : rpt.status.terminal with
      | false =>
        have hsame : t.strategy.onExecReport cfg rpt = t.strategy := onExecReport_of_open hterminal
        have hopen : (o.reported rpt).ended = false := by
          show (o.ended || rpt.status.terminal) = false
          rw [hended, hterminal]
          rfl
        intro id st hid hst
        have hst' : t.strategy.state.lookup id = some st := by
          rw [← hsame]
          exact hst
        by_cases hown : id = o.instrumentId
        · subst hown
          rw [hst₀] at hst'
          cases hst'
          refine ⟨fun hidle => ?_, fun orderId o' ho' hinst hopen' => ?_⟩
          · have hend := idle_iff.mp hidle rpt.orderId (o.reported rpt)
              ((hlookup _).trans (if_pos rfl)) rfl
            rw [hopen] at hend
            cases hend
          · have ho'' : (record t.orders (.report rpt)).lookup orderId = some o' := ho'
            rw [hlookup] at ho''
            split at ho''
            · next heq =>
              cases ho''
              refine ⟨?_, hactive.trans heq.symm, ?_⟩
              · show (t.strategy.onExecReport cfg rpt).orderToInstrument.lookup orderId = _
                rw [hsame, heq]
                exact htracked
              · show Pending _ (netQty (record t.orders (.report rpt)) _) _
                rw [hnetOwn]
                exact hpending'
            · next hne => exact absurd (honly orderId o' ho'' hinst hopen') hne
        · refine (h id st hid hst').congr (helsewhere id hown) (hnetElsewhere id hown)
            (fun orderId hheld => ?_) rfl rfl
          show (t.strategy.onExecReport cfg rpt).orderToInstrument.lookup orderId = some id
          rw [hsame]
          exact hheld
      | true =>
        have hafter : t.strategy.onExecReport cfg rpt = _ :=
          onExecReport_of_terminal htracked hst₀ hterminal
        have hends := (hkeeps o ho).2.2 hterminal
        intro id st hid hst
        have hst' : (t.strategy.onExecReport cfg rpt).state.lookup id = some st := hst
        rw [hafter] at hst'
        dsimp only at hst'
        rw [Table.lookup_insert_eq] at hst'
        split at hst'
        · next hown =>
          cases hst'
          subst hown
          refine ⟨fun _ => ?_, fun orderId o' ho' hinst hopen' => ?_⟩
          · show (st₀.ended cfg rpt).pos = signOf (netQty (record t.orders (.report rpt)) _)
            rw [hnetOwn]
            obtain ⟨hfilled, hnot⟩ := hpending'.endsWell hends
            unfold InstrumentState.ended
            rw [if_pos hactive.symm]
            dsimp only
            split
            · next hstatus => exact hnot fun hof => hstatus (hof hheard)
            · next hstatus => exact hfilled fun _ => not_not.mp hstatus
          · have ho'' : (record t.orders (.report rpt)).lookup orderId = some o' := ho'
            rw [hlookup] at ho''
            split at ho''
            · cases ho''
              have hend : (o.ended || rpt.status.terminal) = false := hopen'
              rw [hterminal, Bool.or_true] at hend
              cases hend
            · next hne => exact absurd (honly orderId o' ho'' hinst hopen') hne
        · next hown =>
          refine (h id st hid hst').congr (helsewhere id hown) (hnetElsewhere id hown)
            (fun orderId hheld => ?_) rfl rfl
          show (t.strategy.onExecReport cfg rpt).orderToInstrument.lookup orderId = some id
          rw [hafter]
          dsimp only
          rw [Table.lookup_erase_eq, if_neg]
          · exact hheld
          · rintro rfl
            rw [htracked] at hheld
            exact hown (Option.some.inj hheld).symm

end Report

/-! ## Inside a send -/

/-- Inside the send of an order, of which the strategy has not taken notice yet: no other order of
the instrument is outstanding, and if this one has ended it has ended well. -/
structure Midway (own id : Nat) (st : InstrumentState) (base : Int) (new : VenueOrder)
    (t : Trading) : Prop where
  num : Numbered t
  right : RightOn (· ≠ id) t
  state : t.strategy.state.lookup id = some st
  others : ∀ orderId o, t.orders.lookup orderId = some o → o.instrumentId = id → orderId ≠ own →
    o.ended = true
  order : ∃ o, t.orders.lookup own = some o ∧
    { o with filled := new.filled, ended := new.ended } = new ∧
    netQty t.orders id = base + o.side.signed o.filled ∧
    (o.ended = true → o.EndsWell True o.filled)
  untracked : t.strategy.orderToInstrument.lookup own = none

section Send

variable {cfg : Config} {own id : Nat} {st : InstrumentState} {base : Int} {new : VenueOrder}
  {t : Trading}

variable (cfg) in
/-- A report leaves an instrument alone of which it finds no order outstanding. -/
theorem reported_frame (hnum : Numbered t) {rpt : ExecReport} {heard : Prop}
    (hkeeps : ReportKeeps t.orders heard rpt)
    (hcovers : ∀ o, t.orders.lookup rpt.orderId = some o → o.ended = false → o.instrumentId ≠ id) :
    (t.reported cfg rpt).strategy.state.lookup id = t.strategy.state.lookup id ∧
      netQty (t.reported cfg rpt).orders id = netQty t.orders id := by
  cases ho : t.orders.lookup rpt.orderId with
  | none =>
    have hsame : t.reported cfg rpt = t := by
      unfold Trading.reported
      rw [onExecReport_of_untracked (hnum.untracked ho), record_report_of_none ho]
    rw [hsame]
    exact ⟨rfl, rfl⟩
  | some o =>
    have hnet := netQty_record_report ho id
    cases hended : o.ended with
    | true =>
      obtain ⟨hterminal, -⟩ := reported_of_ended hkeeps ho hended
      have hfill : VenueOrder.fillQty rpt = 0 := by
        by_contra hne
        have hopen := (hkeeps o ho).2.1 (.inl hne)
        rw [hended] at hopen
        cases hopen
      refine ⟨?_, hnet.trans ?_⟩
      · show (t.strategy.onExecReport cfg rpt).state.lookup id = _
        rw [onExecReport_of_open hterminal]
      · rw [hfill, Int.natCast_zero, signed_zero, ite_self, Int.add_zero]
    | false =>
      have hinst := hcovers o ho hended
      refine ⟨?_, hnet.trans ?_⟩
      · show (t.strategy.onExecReport cfg rpt).state.lookup id = _
        unfold onExecReport
        split
        · rfl
        · next id' htracked =>
          obtain ⟨o', ho', hinst'⟩ := hnum.tracked _ _ htracked
          rw [ho] at ho'
          cases ho'
          split
          · rfl
          · split
            · dsimp only
              rw [Table.lookup_insert_eq, if_neg (hinst' ▸ Ne.symm hinst)]
            · rfl
      · rw [if_neg hinst, Int.add_zero]

theorem Midway.report (h : Midway own id st base new t) (hnew : new.instrumentId = id)
    {rpt : ExecReport} (hkeeps : ReportKeeps t.orders (rpt.orderId ≠ own) rpt) :
    Midway own id st base new (t.reported cfg rpt) := by
  obtain ⟨o, ho, hsame, hnet, hends⟩ := h.order
  have hinst : o.instrumentId = id := by
    rw [← hnew, ← hsame]
  have hnum := h.num.report cfg rpt
  by_cases hown : rpt.orderId = own
  · -- the order that is being sent: the strategy does not know it
    subst hown
    have hstrategy : t.strategy.onExecReport cfg rpt = t.strategy :=
      onExecReport_of_untracked h.untracked
    have hlookup := lookup_record_report ho
    obtain ⟨-, hopen, hwell⟩ := hkeeps o ho
    refine ⟨hnum, fun id' st' hid' hst' => ?_, ?_, fun orderId o' ho' hinst' hne => ?_,
      ⟨o.reported rpt, ?_, hsame, ?_, fun hended => ?_⟩, ?_⟩
    · have hold : t.strategy.state.lookup id' = some st' := by
        rw [← hstrategy]
        exact hst'
      refine (h.right id' st' hid' hold).congr (fun orderId o' hinst' => ?_) ?_
        (fun orderId hheld => ?_) rfl rfl
      · show (record t.orders (.report rpt)).lookup orderId = some o' ↔ _
        rw [hlookup]
        split
        · next heq =>
          rw [heq, ho]
          refine ⟨fun heq' => ?_, fun heq' => ?_⟩
          · cases heq'
            exact absurd (hinst'.symm.trans hinst) hid'
          · cases heq'
            exact absurd (hinst'.symm.trans hinst) hid'
        · exact Iff.rfl
      · refine (netQty_record_report ho id').trans ?_
        rw [if_neg (hinst ▸ Ne.symm hid'), Int.add_zero]
      · show (t.strategy.onExecReport cfg rpt).orderToInstrument.lookup orderId = _
        rw [hstrategy]
        exact hheld
    · show (t.strategy.onExecReport cfg rpt).state.lookup id = some st
      rw [hstrategy]
      exact h.state
    · have ho'' : (record t.orders (.report rpt)).lookup orderId = some o' := ho'
      rw [hlookup, if_neg hne] at ho''
      exact h.others orderId o' ho'' hinst' hne
    · exact (hlookup _).trans (if_pos rfl)
    · refine (netQty_record_report ho id).trans ?_
      rw [if_pos hinst, hnet]
      show base + o.side.signed o.filled + o.side.signed (VenueOrder.fillQty rpt) =
        base + o.side.signed ((o.filled + VenueOrder.fillQty rpt : Nat) : Int)
      unfold OrderSide.signed
      split <;> omega
    · have hor : (o.ended || rpt.status.terminal) = true := hended
      rw [Bool.or_eq_true] at hor
      rcases hor with hold | hterminal
      · rw [(reported_of_ended hkeeps ho hold).2]
        exact hends hold
      · have hwell' := hwell hterminal
        unfold VenueOrder.EndsWell at hwell' ⊢
        show if o.isEntry then _ else _
        split
        · next hentry =>
          rw [if_pos hentry] at hwell'
          exact ⟨fun _ => hwell'.mp fun hne => absurd rfl hne, fun _ => trivial⟩
        · next hexit =>
          rw [if_neg hexit] at hwell'
          exact hwell'
    · show (t.strategy.onExecReport cfg rpt).orderToInstrument.lookup rpt.orderId = none
      rw [hstrategy]
      exact h.untracked
  · have hcovers : ∀ o', t.orders.lookup rpt.orderId = some o' → o'.ended = false →
        o'.instrumentId ≠ id := by
      intro o' ho' hopen hinst'
      rw [h.others _ o' ho' hinst' hown] at hopen
      cases hopen
    obtain ⟨hstate, hnetSame⟩ := reported_frame cfg h.num hkeeps hcovers
    have hlookup : (record t.orders (.report rpt)).lookup own = t.orders.lookup own := by
      cases hrpt : t.orders.lookup rpt.orderId with
      | none => rw [record_report_of_none hrpt]
      | some o' => rw [lookup_record_report hrpt, if_neg (Ne.symm hown)]
    refine ⟨hnum, h.right.report h.num hown hkeeps hcovers, hstate.trans h.state,
      fun orderId o' ho' hinst' hne => ?_, ⟨o, hlookup.trans ho, hsame, hnetSame.trans hnet, hends⟩,
      ?_⟩
    · have ho'' : (record t.orders (.report rpt)).lookup orderId = some o' := ho'
      cases hrpt : t.orders.lookup rpt.orderId with
      | none =>
        rw [record_report_of_none hrpt] at ho''
        exact h.others orderId o' ho'' hinst' hne
      | some o₁ =>
        rw [lookup_record_report hrpt] at ho''
        split at ho''
        · cases ho''
          have hended := h.others _ o₁ hrpt hinst' hown
          show (o₁.ended || rpt.status.terminal) = true
          rw [hended]
          rfl
        · exact h.others orderId o' ho'' hinst' hne
    · show (t.strategy.onExecReport cfg rpt).orderToInstrument.lookup own = none
      unfold onExecReport
      split
      · exact h.untracked
      · split
        · exact h.untracked
        · split
          · dsimp only
            rw [Table.lookup_erase_eq, if_neg (Ne.symm hown)]
            exact h.untracked
          · exact h.untracked

variable (cfg) in
theorem Midway.reports {s : OFI} {orders : Table Nat VenueOrder}
    (h : Midway own id st base new ⟨s, orders⟩) (hnew : new.instrumentId = id)
    {rpts : List ExecReport}
    (hkeeps : ReportsKeep own orders rpts) :
    Midway own id st base new
      ⟨rpts.foldl (onExecReport cfg) s, (rpts.map .report).foldl record orders⟩ := by
  induction rpts generalizing s orders with
  | nil => exact h
  | cons rpt rpts ih => exact ih (h.report hnew hkeeps.1) hkeeps.2

theorem outboundOrder_eq_some {s : OFI} {env : Surroundings} {side : OrderSide}
    {order : OutboundNewOrder} (h : s.outboundOrder cfg env id st side = some order) :
    order.orderId = s.nextOrderId ∧ order.instrumentId = id ∧ order.side = side := by
  unfold outboundOrder at h
  split at h
  · dsimp only at h
    split at h
    · cases h
    · cases h
      exact ⟨rfl, rfl, rfl⟩
  · cases h

theorem Midway.start (hnum : Numbered t) (hright : RightOn (fun _ => True) t)
    (hst : t.strategy.state.lookup id = some st) (hidle : Idle t.orders id)
    {order : OutboundNewOrder} (hid : order.orderId = t.strategy.nextOrderId)
    (hinst : order.instrumentId = id) (isEntry : Bool) :
    Midway order.orderId id st (netQty t.orders id)
      { instrumentId := id, side := order.side, quantity := order.quantity, isEntry := isEntry }
      ⟨{ t.strategy with nextOrderId := t.strategy.nextOrderId + 1 },
        record t.orders (.sent order isEntry)⟩ := by
  have hfresh : ∀ orderId o, t.orders.lookup orderId = some o → orderId ≠ order.orderId := by
    intro orderId o ho heq
    have hlt := hnum.fresh orderId o ho
    omega
  have hnone : t.orders.lookup order.orderId = none := by
    cases ho : t.orders.lookup order.orderId with
    | none => rfl
    | some o => exact absurd rfl (hfresh _ o ho)
  have hlookup : ∀ orderId, (record t.orders (.sent order isEntry)).lookup orderId =
      if orderId = order.orderId then
        some
          { instrumentId := order.instrumentId
            side := order.side
            quantity := order.quantity
            isEntry := isEntry }
      else t.orders.lookup orderId := fun orderId => Table.lookup_insert_eq _ _ _ _
  refine ⟨⟨Nat.lt_succ_of_lt hnum.pos, fun orderId o ho => ?_, fun orderId o ho => ?_,
    fun orderId id' htracked => ?_⟩, fun id' st' hid' hst' => ?_, hst, fun orderId o ho hinst' hne => ?_,
    ⟨_, (hlookup _).trans (if_pos rfl), ?_, ?_, nofun⟩, hnum.untracked hnone⟩
  · show orderId < t.strategy.nextOrderId + 1
    have ho' : (record t.orders (.sent order isEntry)).lookup orderId = some o := ho
    rw [hlookup] at ho'
    split at ho'
    · omega
    · exact Nat.lt_succ_of_lt (hnum.fresh orderId o ho')
  · have ho' : (record t.orders (.sent order isEntry)).lookup orderId = some o := ho
    rw [hlookup] at ho'
    split at ho'
    · cases ho'
      exact ⟨st, hinst ▸ hst⟩
    · exact hnum.known orderId o ho'
  · obtain ⟨o, ho, hinst'⟩ := hnum.tracked orderId id' htracked
    exact ⟨o, ((hlookup _).trans (if_neg (hfresh orderId o ho))).trans ho, hinst'⟩
  · refine (hright id' st' trivial hst').congr (fun orderId o hinst' => ?_)
      (netQty_record_sent hnone isEntry id') (fun _ htracked => htracked) rfl rfl
    show (record t.orders (.sent order isEntry)).lookup orderId = some o ↔ _
    rw [hlookup]
    split
    · next heq =>
      rw [heq, hnone]
      refine ⟨fun heq' => ?_, nofun⟩
      cases heq'
      exact absurd (hinst'.symm.trans hinst) hid'
    · exact Iff.rfl
  · have ho' : (record t.orders (.sent order isEntry)).lookup orderId = some o := ho
    rw [hlookup, if_neg hne] at ho'
    exact idle_iff.mp hidle orderId o ho' hinst'
  · rw [hinst]
  · rw [netQty_record_sent hnone]
    show netQty t.orders id = netQty t.orders id + order.side.signed 0
    rw [signed_zero, Int.add_zero]

theorem lookup_modify (s : OFI) (f : InstrumentState → InstrumentState) (id' : Nat) :
    (s.modify id f).state.lookup id' =
      if id' = id then (s.state.lookup id).map f else s.state.lookup id' := by
  unfold modify
  split
  · next hnone =>
    rw [hnone, Option.map_none]
    split
    · next heq => rw [heq, hnone]
    · rfl
  · next st hst =>
    rw [hst, Option.map_some]
    exact Table.lookup_insert_eq _ _ _ _

theorem modify_rest (s : OFI) (f : InstrumentState → InstrumentState) :
    (s.modify id f).nextOrderId = s.nextOrderId ∧
      (s.modify id f).orderToInstrument = s.orderToInstrument := by
  unfold modify
  split
  · exact ⟨rfl, rfl⟩
  · exact ⟨rfl, rfl⟩

/-- The strategy after a send whose label is right for the order. -/
theorem Midway.finish (h : Midway own id st base new t) (hnew : new.instrumentId = id)
    (hown : own ≠ 0) {pos : Position}
    (hpending : ∀ filled : Nat, Pending pos (base + new.side.signed filled)
      { new with filled := filled })
    {s' : OFI} (hnext : s'.nextOrderId = t.strategy.nextOrderId)
    (htracked : s'.orderToInstrument = t.strategy.orderToInstrument.insert own id)
    {st' : InstrumentState} (hpos : st'.pos = pos) (hactive : st'.activeOrderId = own)
    (hstate : ∀ id', s'.state.lookup id' =
      if id' = id then some st' else t.strategy.state.lookup id') :
    Numbered ⟨s', t.orders⟩ ∧ RightOn (fun _ => True) ⟨s', t.orders⟩ := by
  obtain ⟨o, ho, hsame, hnet, hends⟩ := h.order
  have hinst : o.instrumentId = id := by
    rw [← hnew, ← hsame]
  have hside : new.side = o.side := by
    rw [← hsame]
  have hquantity : new.quantity = o.quantity := by
    rw [← hsame]
  have hentry : new.isEntry = o.isEntry := by
    rw [← hsame]
  have hpend : Pending pos (netQty t.orders id) o := by
    have hof := hpending o.filled
    unfold Pending at hof ⊢
    dsimp only at hof
    rw [hside, hquantity, hentry] at hof
    rw [hnet]
    exact hof
  refine ⟨⟨?_, fun orderId o' ho' => ?_, fun orderId o' ho' => ?_, fun orderId id' hlookup => ?_⟩,
    fun id' st'' _ hst'' => ?_⟩
  · show 0 < s'.nextOrderId
    rw [hnext]
    exact h.num.pos
  · show orderId < s'.nextOrderId
    rw [hnext]
    exact h.num.fresh orderId o' ho'
  · dsimp only
    rw [hstate]
    split
    · exact ⟨st', rfl⟩
    · exact h.num.known orderId o' ho'
  · dsimp only at hlookup
    rw [htracked, Table.lookup_insert_eq] at hlookup
    split at hlookup
    · next heq =>
      cases hlookup
      exact ⟨o, heq ▸ ho, hinst⟩
    · exact h.num.tracked orderId id' hlookup
  · have hst₁ : s'.state.lookup id' = some st'' := hst''
    rw [hstate] at hst₁
    split at hst₁
    · next heq =>
      cases hst₁
      subst heq
      refine ⟨fun hidle => ?_, fun orderId o' ho' hinst' hopen => ?_⟩
      · have hended := idle_iff.mp hidle own o ho hinst
        rw [hpos]
        exact (hpend.endsWell (hends hended)).1 trivial
      · have heq : orderId = own := by
          by_contra hne
          rw [h.others orderId o' ho' hinst' hne] at hopen
          cases hopen
        subst heq
        have ho'' : t.orders.lookup orderId = some o' := ho'
        rw [ho] at ho''
        cases ho''
        refine ⟨?_, hactive, hpos ▸ hpend⟩
        dsimp only
        rw [htracked, Table.lookup_insert_eq, if_pos rfl]
    · next hne =>
      refine (h.right id' st'' hne hst₁).congr (fun _ _ _ => Iff.rfl) rfl (fun orderId hheld => ?_)
        rfl rfl
      dsimp only
      rw [htracked, Table.lookup_insert_eq, if_neg]
      · exact hheld
      · rintro rfl
        rw [h.untracked] at hheld
        cases hheld

/-- A send that is taken, and the label that is set for it whatever comes of it. -/
theorem fireOrder_keeps (hnum : Numbered t) (hright : RightOn (fun _ => True) t)
    {env : Surroundings} {side : OrderSide} {isEntry : Bool}
    (hkeeps : t.SendKeeps cfg env id st side isEntry)
    (hst : t.strategy.state.lookup id = some st) {pos : Position}
    (hbase : if isEntry then pos = labelOf side ∧ netQty t.orders id = 0
      else pos = .FLAT ∧ netQty t.orders id = -side.signed (netQty t.orders id).natAbs)
    {f : InstrumentState → InstrumentState} (hpos : ∀ st, (f st).pos = pos)
    (hactive : ∀ st, (f st).activeOrderId = st.activeOrderId) :
    let r := t.strategy.fireOrder cfg env id st side isEntry
    Numbered ⟨r.1.modify id f, r.2.foldl record t.orders⟩ ∧
      RightOn (fun _ => True) ⟨r.1.modify id f, r.2.foldl record t.orders⟩ := by
  obtain ⟨hidle, order, hmem, haccepted, hquantity, hreports⟩ := hkeeps
  have horder : t.strategy.outboundOrder cfg env id st side = some order := hmem
  obtain ⟨hid, hinst, hside⟩ := outboundOrder_eq_some horder
  have hne : order.orderId ≠ 0 := by
    rw [hid]
    exact hnum.pos.ne'
  have hstart := Midway.start hnum hright hst hidle hid hinst isEntry
  have hmid := hstart.reports cfg rfl hreports
  unfold fireOrder
  rw [horder]
  dsimp only
  rw [if_pos haccepted, if_pos hne]
  have hactive' : (f { st with activeOrderId := order.orderId }).activeOrderId = order.orderId :=
    hactive _
  refine hmid.finish rfl hne (fun filled => ?_) ?_ ?_ (hpos _) hactive' fun id' => ?_
  · unfold Pending
    dsimp only
    rw [hside]
    split
    · next hentry =>
      rw [if_pos hentry] at hbase
      exact ⟨hbase.1, by rw [hbase.2, Int.zero_add]⟩
    · next hexit =>
      rw [if_neg hexit] at hbase
      have hq : order.quantity = (netQty t.orders id).natAbs :=
        hquantity ((Bool.not_eq_true _).mp hexit)
      refine ⟨hbase.1, ?_⟩
      rw [hq]
      have hb := hbase.2
      omega
  · exact (modify_rest _ _).1.trans (modify_rest _ _).1
  · refine (modify_rest _ _).2.trans ?_
    dsimp only
    rw [(modify_rest _ _).2]
  · rw [lookup_modify]
    split
    · next heq =>
      dsimp only
      rw [lookup_modify, if_pos rfl, hmid.state]
      rfl
    · next hne' =>
      dsimp only
      rw [lookup_modify, if_neg hne']

end Send

/-! ## Callbacks -/

/-- The invariant: ids are in order, and the label of every instrument is right. -/
def Kept (t : Trading) : Prop := Numbered t ∧ RightOn (fun _ => True) t

section Callbacks

variable {cfg : Config} {env : Surroundings} {t : Trading} {id : Nat} {st st' : InstrumentState}

/-- Prices, signals and cooldowns have nothing to do with the label. -/
theorem Kept.put (h : Kept t) (hst : t.strategy.state.lookup id = some st)
    (hpos : st'.pos = st.pos) (hactive : st'.activeOrderId = st.activeOrderId) :
    Kept ⟨{ t.strategy with state := t.strategy.state.insert id st' }, t.orders⟩ := by
  obtain ⟨hnum, hright⟩ := h
  refine ⟨⟨hnum.pos, hnum.fresh, fun orderId o ho => ?_, hnum.tracked⟩, fun id' st'' _ hst'' => ?_⟩
  · dsimp only
    rw [Table.lookup_insert_eq]
    split
    · exact ⟨st', rfl⟩
    · exact hnum.known orderId o ho
  · dsimp only at hst''
    rw [Table.lookup_insert_eq] at hst''
    split at hst''
    · next heq =>
      cases hst''
      subst heq
      exact (hright id' st trivial hst).congr (fun _ _ _ => Iff.rfl) rfl (fun _ hheld => hheld) hpos
        hactive
    · exact (hright id' st'' trivial hst'').congr (fun _ _ _ => Iff.rfl) rfl (fun _ hheld => hheld)
        rfl rfl

theorem closes_position {n : Int} (hne : signOf n ≠ .FLAT) :
    n = -(exitSide (signOf n)).signed n.natAbs := by
  unfold signOf at hne ⊢
  split
  · show n = -(-(n.natAbs : Int))
    omega
  · next hle =>
    split
    · show n = -(n.natAbs : Int)
      omega
    · next hge =>
      rw [if_neg hle, if_neg hge] at hne
      exact absurd rfl hne

theorem Kept.exit (h : Kept t) (hst : t.strategy.state.lookup id = some st) (hne : st.pos ≠ .FLAT)
    (hkeeps : t.SendKeeps cfg env id st (exitSide st.pos) false)
    {after : InstrumentState → InstrumentState} (hpos : ∀ st, (after st).pos = st.pos)
    (hactive : ∀ st, (after st).activeOrderId = st.activeOrderId) :
    Kept
      ⟨(t.strategy.exit cfg env id st after).1,
        (t.strategy.exit cfg env id st after).2.foldl record t.orders⟩ := by
  obtain ⟨hnum, hright⟩ := h
  have hlabel := (hright id st trivial hst).idle hkeeps.1
  have hbase : Position.FLAT = .FLAT ∧
      netQty t.orders id = -(exitSide st.pos).signed (netQty t.orders id).natAbs := by
    refine ⟨rfl, ?_⟩
    rw [hlabel] at hne ⊢
    exact closes_position hne
  exact fireOrder_keeps hnum hright hkeeps hst hbase (fun _ => hpos _) fun _ => hactive _

theorem Kept.tryEnter (h : Kept t) (hst : t.strategy.state.lookup id = some st)
    (hflat : st.pos = .FLAT) {side : OrderSide} (hkeeps : t.SendKeeps cfg env id st side true)
    {ofiValue : ℚ} {nowNs : Nat} (hside : entrySide cfg st ofiValue nowNs = some side) :
    Kept
      ⟨(t.strategy.tryEnter cfg env id st ofiValue nowNs).1,
        (t.strategy.tryEnter cfg env id st ofiValue nowNs).2.foldl record t.orders⟩ := by
  obtain ⟨hnum, hright⟩ := h
  have hlabel := (hright id st trivial hst).idle hkeeps.1
  have hzero : netQty t.orders id = 0 := by
    rw [hflat] at hlabel
    unfold signOf at hlabel
    split at hlabel
    · cases hlabel
    · split at hlabel
      · cases hlabel
      · omega
  unfold OFI.tryEnter
  rw [hside]
  exact fireOrder_keeps hnum hright hkeeps hst ⟨rfl, hzero⟩ (fun _ => rfl) fun _ => rfl

theorem Kept.onBbo (h : Kept t) (tick : MdMarketData)
    (hkeeps : ∀ d ∈ due cfg t.strategy (.bbo tick),
      t.SendKeeps cfg env d.1 d.2.1 d.2.2.1 d.2.2.2) :
    Kept
      ⟨(t.strategy.onBbo cfg env tick).1, (t.strategy.onBbo cfg env tick).2.foldl record t.orders⟩ := by
  unfold due at hkeeps
  dsimp only at hkeeps
  unfold OFI.onBbo
  cases hst : t.strategy.state.lookup tick.instrumentId with
  | none => exact h
  | some st =>
    rw [hst] at hkeeps
    dsimp only at hkeeps ⊢
    split
    · exact h
    · next hquote =>
      rw [if_neg hquote] at hkeeps
      have hput : Kept
          ⟨{ t.strategy with
              state := t.strategy.state.insert tick.instrumentId (st.quoted cfg tick) },
            t.orders⟩ := h.put hst rfl rfl
      split
      · next hstop =>
        rw [if_pos hstop] at hkeeps
        have hsend := hkeeps _ rfl
        have hne : (st.quoted cfg tick).pos ≠ .FLAT := (of_decide_eq_true hstop).1
        exact hput.exit (by rw [Table.lookup_insert_eq, if_pos rfl]) hne hsend (fun _ => rfl)
          fun _ => rfl
      · exact hput

theorem Kept.onOrderBook (h : Kept t) (book : MdOrderBook)
    (hkeeps : ∀ d ∈ due cfg t.strategy (.orderBook book),
      t.SendKeeps cfg env d.1 d.2.1 d.2.2.1 d.2.2.2) :
    Kept
      ⟨(t.strategy.onOrderBook cfg env book).1,
        (t.strategy.onOrderBook cfg env book).2.foldl record t.orders⟩ := by
  unfold due at hkeeps
  dsimp only at hkeeps
  unfold OFI.onOrderBook
  cases hst : t.strategy.state.lookup book.instrumentId with
  | none => exact h
  | some st =>
    rw [hst] at hkeeps
    dsimp only at hkeeps ⊢
    have hput : Kept
        ⟨{ t.strategy with
            state := t.strategy.state.insert book.instrumentId (st.booked cfg book) },
          t.orders⟩ := h.put hst rfl rfl
    have hlookup : (t.strategy.state.insert book.instrumentId (st.booked cfg book)).lookup
        book.instrumentId = some (st.booked cfg book) := by
      rw [Table.lookup_insert_eq, if_pos rfl]
    split
    · exact hput
    · next hactive =>
      rw [if_neg hactive] at hkeeps
      split
      · next hflat =>
        rw [if_pos hflat] at hkeeps
        cases hside : entrySide cfg (st.booked cfg book)
            (st.ofi.update cfg.ofi book.bids book.asks book.timestampNs).2 book.timestampNs with
        | none =>
          unfold OFI.tryEnter
          rw [hside]
          exact hput
        | some side =>
          rw [hside] at hkeeps
          exact hput.tryEnter hlookup hflat (hkeeps _ rfl) hside
      · next hne =>
        rw [if_neg hne] at hkeeps
        unfold OFI.tryExit
        split
        · next hdue =>
          rw [if_pos hdue] at hkeeps
          exact hput.exit hlookup hne (hkeeps _ rfl) (fun _ => rfl) fun _ => rfl
        · exact hput

theorem Kept.onShutdownFlatten (h : Kept t) (instrumentId : Nat)
    (hkeeps : ∀ d ∈ due cfg t.strategy (.shutdownFlatten instrumentId),
      t.SendKeeps cfg env d.1 d.2.1 d.2.2.1 d.2.2.2) :
    Kept
      ⟨(t.strategy.onShutdownFlatten cfg env instrumentId).1,
        (t.strategy.onShutdownFlatten cfg env instrumentId).2.foldl record t.orders⟩ := by
  unfold due at hkeeps
  dsimp only at hkeeps
  unfold OFI.onShutdownFlatten
  cases hst : t.strategy.state.lookup instrumentId with
  | none => exact h
  | some st =>
    rw [hst] at hkeeps
    dsimp only at hkeeps ⊢
    split
    · exact h
    · next hne =>
      rw [if_neg hne] at hkeeps
      exact h.exit hst hne (hkeeps _ rfl) (fun _ => rfl) fun _ => rfl

/-- A snapshot makes flat instruments, and finds no order of them. -/
theorem Kept.onInstrumentSnapshot (h : Kept t) (resolved : List (Nat × Option ExchangeId)) :
    Kept ⟨t.strategy.onInstrumentSnapshot resolved, t.orders⟩ := by
  unfold OFI.onInstrumentSnapshot
  split
  · next hempty =>
    obtain ⟨hnum, -⟩ := h
    have hnone : ∀ orderId o, t.orders.lookup orderId ≠ some o := by
      intro orderId o ho
      obtain ⟨st, hst⟩ := hnum.known orderId o ho
      have hmem : o.instrumentId ∈ t.strategy.state.keys := Table.mem_of_lookup hst
      rw [hempty] at hmem
      cases hmem
    have hvals : Table.vals t.orders = [] := by
      refine List.eq_nil_iff_forall_not_mem.mpr fun o ho => ?_
      obtain ⟨orderId, hlookup⟩ := Table.mem_vals_iff.mp ho
      exact hnone orderId o hlookup
    have hflat : Table.AllVals (fun st : InstrumentState => st.pos = .FLAT)
        (resolved.foldl
          (fun (t : Table Nat InstrumentState) r => t.emplace r.1 { exchangeId := r.2 }) ∅) :=
      List.foldlRecOn (motive := Table.AllVals fun st : InstrumentState => st.pos = .FLAT) _ _
        (Table.AllVals.empty _) fun _ ht _ _ => ht.emplace rfl _
    refine ⟨⟨hnum.pos, hnum.fresh, fun orderId o ho => absurd ho (hnone orderId o), hnum.tracked⟩,
      fun id st _ hst => ⟨fun _ => ?_, fun orderId o ho => absurd ho (hnone orderId o)⟩⟩
    have hzero : netQty t.orders id = 0 := by
      unfold netQty Table.sumVals
      rw [hvals]
      rfl
    rw [hflat id st hst, hzero]
    rfl
  · exact h

theorem Kept.onExecReport (h : Kept t) {rpt : ExecReport} (hkeeps : ReportKeeps t.orders True rpt) :
    Kept (t.reported cfg rpt) :=
  ⟨h.1.report cfg rpt, h.2.report h.1 trivial hkeeps fun _ _ _ => trivial⟩

end Callbacks

/-! ## Runs -/

namespace Trading

theorem kept_init {nextOrderId : Nat} (hpos : 0 < nextOrderId) : Kept (init nextOrderId) := by
  refine ⟨⟨hpos, fun orderId o ho => ?_, fun orderId o ho => ?_, fun orderId id hlookup => ?_⟩,
    fun id st _ hst => ?_⟩
  · simp [init] at ho
  · simp [init] at ho
  · simp [init] at hlookup
  · simp [init] at hst

theorem kept_step {cfg : Config} (t : Trading) (e : Callback × Surroundings) (h : Kept t)
    (hkeeps : t.KeepsLabels cfg e) : Kept (t.step cfg e).1 := by
  obtain ⟨cb, env⟩ := e
  obtain ⟨hdue, hreport⟩ := hkeeps
  cases cb with
  | instrumentSnapshot resolved => exact h.onInstrumentSnapshot resolved
  | instrumentDelta inst updateType => exact h
  | bbo tick => exact h.onBbo tick hdue
  | trade tick => exact h
  | orderBook book => exact h.onOrderBook book hdue
  | execReport rpt => exact h.onExecReport hreport
  | shutdownFlatten instrumentId => exact h.onShutdownFlatten instrumentId hdue

theorem sent_mem_fireOrder {cfg : Config} {env : Surroundings} {s : OFI} {id : Nat}
    {st : InstrumentState} {side : OrderSide} {isEntry b : Bool} {order : OutboundNewOrder}
    (h : .sent order b ∈ (s.fireOrder cfg env id st side isEntry).2) :
    s.outboundOrder cfg env id st side = some order ∧ b = isEntry := by
  unfold fireOrder at h
  split at h
  · cases h
  · next order' horder =>
    have hseen : ∀ tail : List VenueEvent, (∀ e ∈ tail, ∀ o b, e ≠ .sent o b) →
        .sent order b ∈ (.sent order' isEntry :: tail : List VenueEvent) →
          order' = order ∧ b = isEntry := by
      intro tail htail hmem
      rcases List.mem_cons.mp hmem with heq | hmem
      · cases heq
        exact ⟨rfl, rfl⟩
      · exact absurd rfl (htail _ hmem order b)
    have hreports : ∀ e ∈ (env.gateway order').reports.map VenueEvent.report,
        ∀ o b, e ≠ .sent o b := by
      intro e he o b
      obtain ⟨rpt, -, rfl⟩ := List.mem_map.mp he
      exact nofun
    have hcase : order' = order ∧ b = isEntry := by
      dsimp only at h
      split at h
      · split at h
        · exact hseen _ hreports h
        · exact hseen _ hreports h
      · refine hseen _ (fun e he o b => ?_) h
        rcases List.mem_append.mp he with he | he
        · exact hreports e he o b
        · rw [List.mem_singleton.mp he]
          exact nofun
    exact ⟨hcase.1 ▸ horder, hcase.2⟩

/-- An exit that is sent is due. -/
theorem due_of_exit_sent {cfg : Config} {env : Surroundings} {s : OFI} {cb : Callback}
    {order : OutboundNewOrder} (h : .sent order false ∈ (s.step cfg (cb, env)).2) :
    ∃ d ∈ due cfg s cb, d.2.2.2 = false ∧
      s.outboundOrder cfg env d.1 d.2.1 d.2.2.1 = some order := by
  have hexit : ∀ {s' : OFI} {id st after},
      .sent order false ∈ (s'.exit cfg env id st after).2 → s'.nextOrderId = s.nextOrderId →
        s.outboundOrder cfg env id st (exitSide st.pos) = some order := by
    intro s' id st after hmem hnext
    have hsent := (sent_mem_fireOrder hmem).1
    unfold outboundOrder at hsent ⊢
    rw [← hnext]
    exact hsent
  cases cb with
  | instrumentSnapshot resolved => cases h
  | instrumentDelta inst updateType => cases h
  | trade tick => cases h
  | execReport rpt =>
    have hmem : VenueEvent.sent order false ∈ [.report rpt] := h
    cases List.mem_singleton.mp hmem
  | bbo tick =>
    have hmem : VenueEvent.sent order false ∈ (s.onBbo cfg env tick).2 := h
    unfold onBbo at hmem
    unfold due
    cases hst : s.state.lookup tick.instrumentId with
    | none =>
      rw [hst] at hmem
      cases hmem
    | some st =>
      simp only [hst] at hmem ⊢
      split at hmem
      · cases hmem
      · next hquote =>
        rw [if_neg hquote]
        split at hmem
        · next hstop =>
          rw [if_pos hstop]
          exact ⟨_, rfl, rfl, hexit hmem rfl⟩
        · cases hmem
  | orderBook book =>
    have hmem : VenueEvent.sent order false ∈ (s.onOrderBook cfg env book).2 := h
    unfold onOrderBook at hmem
    unfold due
    cases hst : s.state.lookup book.instrumentId with
    | none =>
      rw [hst] at hmem
      cases hmem
    | some st =>
      simp only [hst] at hmem ⊢
      split at hmem
      · cases hmem
      · next hactive =>
        rw [if_neg hactive]
        split at hmem
        · -- what is sent here is an entry
          unfold tryEnter at hmem
          split at hmem
          · cases hmem
          · cases (sent_mem_fireOrder hmem).2
        · next hne =>
          rw [if_neg hne]
          unfold tryExit at hmem
          split at hmem
          · next hdue =>
            rw [if_pos hdue]
            exact ⟨_, rfl, rfl, hexit hmem rfl⟩
          · cases hmem
  | shutdownFlatten instrumentId =>
    have hmem : VenueEvent.sent order false ∈ (s.onShutdownFlatten cfg env instrumentId).2 := h
    unfold onShutdownFlatten at hmem
    unfold due
    cases hst : s.state.lookup instrumentId with
    | none =>
      rw [hst] at hmem
      cases hmem
    | some st =>
      simp only [hst] at hmem ⊢
      split at hmem
      · cases hmem
      · next hne =>
        rw [if_neg hne]
        exact ⟨_, rfl, rfl, hexit hmem rfl⟩

theorem exitsWithin_of_keepsLabels {cfg : Config} {t : Trading} {e : Callback × Surroundings}
    (h : t.KeepsLabels cfg e) : t.ExitsWithin cfg e := by
  intro order hmem
  obtain ⟨d, hd, hexit, horder⟩ := due_of_exit_sent hmem
  obtain ⟨-, order', horder', -, hquantity, -⟩ := h.1 d hd
  rw [horder] at horder'
  cases horder'
  rw [(outboundOrder_eq_some horder).2.1, hquantity hexit]

/-- **Labels.** When every order that is due is sent and taken while no other of its instrument is
outstanding, exits are of the whole position, and orders end well, then throughout the run an
instrument without an outstanding order is labelled by the sign of its position, and no exit is
larger than the position. -/
theorem stays_labelled (cfg : Config) {nextOrderId : Nat} (hpos : 0 < nextOrderId)
    {es : List (Callback × Surroundings)}
    (hkeeps : Machine.AlongRun (step cfg) (KeepsLabels cfg) (init nextOrderId) es) :
    Machine.AllStates (step cfg) Labelled (init nextOrderId) es ∧
      Machine.AlongRun (step cfg) (ExitsWithin cfg) (init nextOrderId) es := by
  refine ⟨?_, ?_⟩
  · refine (Machine.AllStates.of_assumption kept_step (kept_init hpos) hkeeps).imp fun t h => ?_
    exact fun id st hst => (h.2 id st trivial hst).idle
  · exact Machine.AlongRun.of_assumption (I := fun _ => True) (fun _ _ _ _ => trivial)
      (fun _ _ _ h => exitsWithin_of_keepsLabels h) trivial hkeeps

/-! ## One instrument -/

def coin : Instrument where
  instrumentId := 7
  symbol := "COIN-USDT-SWAP"
  exchange := "OKX"
  baseCurrency := "COIN"
  quoteCurrency := "USDT"
  type := .PERPETUAL
  status := .ACTIVE
  lotSize := 1 / 100
  tickSize := 1
  contractSize := 1
  expiryDate := 0
  optionSide := .NA
  strikePrice := 0

def coinConfig : Config where
  maxSpreadBps := 1000

/-- The gateway takes every order. -/
def coinMarket : Surroundings where
  cache := fun id => if id = 7 then some coin else none
  gateway := fun _ => {}

def coinTick (timestampNs : Nat) (bidPrice askPrice : ℚ) : Callback × Surroundings :=
  (.bbo
    { timestampNs := timestampNs
      instrumentId := 7
      bidPrice := bidPrice
      bidQty := 1
      askPrice := askPrice
      askQty := 1
      seqNum := 0 }, coinMarket)

def coinBook (timestampNs : Nat) (bidQty : ℚ) : Callback × Surroundings :=
  (.orderBook
    { timestampNs := timestampNs
      instrumentId := 7
      seqNum := 0
      bids := [(99, bidQty)]
      asks := [(101, 10)] }, coinMarket)

def coinReport (orderId : Nat) (status : ExecStatus) (side : OrderSide) (filledQty : Nat) :
    Callback × Surroundings :=
  (.execReport
    { orderId := orderId
      exchangeOrderId := orderId
      exchangeId := .OKX
      instrumentId := 7
      status := status
      side := side
      orderType := .LIMIT
      price := 10000000000
      filledQty := filledQty
      remainingQty := 0
      rejectReason := .OK
      fee := 0
      feeCurrency := ""
      exchangeTsNs := 0
      localTsNs := 0 }, coinMarket)

/-- Two coins are bought at a mid of 100, and the time to sell them comes. -/
def coinEvents : List (Callback × Surroundings) :=
  [(.instrumentSnapshot [(7, some .OKX)], coinMarket), coinTick 1 99 101, coinBook 1 10,
    coinBook 2 40, coinReport 1 .FILLED .BUY 200000000, coinTick 40000000000 99 101]

/-- They are sold. -/
theorem sold_labelled :
    Machine.AllStates (step coinConfig) Labelled (init 1)
        (coinEvents ++ [coinReport 2 .FILLED .SELL 200000000]) ∧
      Machine.AlongRun (step coinConfig) (ExitsWithin coinConfig) (init 1)
        (coinEvents ++ [coinReport 2 .FILLED .SELL 200000000]) :=
  stays_labelled coinConfig (by decide) (by decide +kernel)

/-- The sale is cancelled: the instrument is labelled flat, with the two coins. -/
theorem flat_with_a_position :
    let t := Machine.exec (step coinConfig) (init 1)
      (coinEvents ++ [coinReport 2 .CANCELLED .SELL 0])
    ¬ t.Labelled ∧ Idle t.orders 7 ∧ netQty t.orders 7 = 200000000 := by
  have hidle : Idle (Machine.exec (step coinConfig) (init 1)
      (coinEvents ++ [coinReport 2 .CANCELLED .SELL 0])).orders 7 := by decide +kernel
  have hlabel : ∃ st ∈ (Machine.exec (step coinConfig) (init 1)
      (coinEvents ++ [coinReport 2 .CANCELLED .SELL 0])).strategy.state.lookup 7,
      st.pos ≠ signOf (netQty (Machine.exec (step coinConfig) (init 1)
        (coinEvents ++ [coinReport 2 .CANCELLED .SELL 0])).orders 7) := by decide +kernel
  refine ⟨fun h => ?_, hidle, by decide +kernel⟩
  obtain ⟨st, hst, hne⟩ := hlabel
  exact hne (h 7 st hst hidle)

end Trading

end OFI

end BptCore.Strategy
