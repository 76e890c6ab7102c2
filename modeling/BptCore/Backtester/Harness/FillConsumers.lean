import BptCore.Backtester.Harness.OrderGatewayClient
import BptCore.Lib.Machine
import BptCore.Strategy.Order.OrderManager
import BptCore.Strategy.Strategy.PassiveMaker
import BptCore.Strategy.Strategy.PositionTracker

/-!
# Three readers of one filled quantity

The reports of a backtest's fills reach the order manager, the passive maker and the position
tracker. The gateway puts the quantity of the single fill in the report; the first two read a
cumulative quantity, the third an increment.

* **`FillConsumers`**, **`step`** — the gateway and the three readers, fill after fill, next to
  what the engine matched.
* **`Agree`** — each reader has what was matched.
* **`Consistent`** — how the readers' records hang together, in every run.
-/

namespace BptCore.Backtester

open Machine Strategy

structure FillConsumers where
  client : OrderGatewayClient := {}
  orderManager : OrderManager := {}
  passiveMaker : PassiveMaker
  positionTracker : PositionTracker := {}
  /-- Every order that the gateway accepted. -/
  accepted : Table Nat LiveOrder := ∅
  /-- The quantity matched for an order. -/
  matched : Nat → Nat := fun _ => 0
  /-- The signed sum of the quantities matched on an instrument. -/
  traded : Nat → Int := fun _ => 0

inductive ConsumerEvent where
  /-- The gateway accepts an order. -/
  | accept (lo : LiveOrder)
  /-- `send_new_order` has returned: the order manager and the strategy have the order on record. -/
  | track (orderId nowNs : Nat)
  | fill (fr : FillReport) (nowNs : Nat)

namespace FillConsumers

variable (s : FillConsumers)

/-- The strategies at their start, with the instruments they trade and the exchange of each. -/
def init (instruments : List (Nat × ExchangeId)) : FillConsumers :=
  { passiveMaker :=
      { state := instruments.foldl (fun t i => t.insert i.1 { exchangeId := i.2 }) ∅ } }

/-- The readers take a report. -/
def report (client : OrderGatewayClient) (lo : LiveOrder) (fr : FillReport) (rpt : ExecReport)
    (nowNs : Nat) : FillConsumers :=
  { s with
    -- after the callback: a filled order is live no more
    client := if fr.isFullyFilled then client.eraseLive fr.orderId else client
    orderManager := s.orderManager.onExecReport rpt nowNs
    passiveMaker := s.passiveMaker.onExecReport rpt
    positionTracker := s.positionTracker.onFill rpt.instrumentId rpt.exchangeId rpt.side
      rpt.filledQty rpt.price
    matched := fun id => s.matched id + fillQtyOf id fr
    traded := fun inst => s.traded inst +
      if inst = lo.instrumentId then fr.side.signed (fillQtyScaled fr.lastFillQty) else 0 }

def step (s : FillConsumers) : ConsumerEvent → FillConsumers × List ExecReport
  | .accept lo =>
    ({ s with client := { s.client with live := s.client.live.insert lo.strategyOrderId lo }
              accepted := s.accepted.insert lo.strategyOrderId lo }, [])
  | .track orderId nowNs =>
    match s.accepted.lookup orderId with
    | some lo =>
      ({ s with
         orderManager := s.orderManager.store
           { orderId := orderId, instrumentId := lo.instrumentId, exchangeId := lo.exchangeId
             side := lo.side, price := ofE8 lo.price, qty := ofE8 lo.quantity
             createdNs := nowNs, lastUpdateNs := nowNs }
         passiveMaker := s.passiveMaker.placed orderId lo.instrumentId }, [])
    | none => (s, [])
  | .fill fr nowNs =>
    match s.accepted.lookup fr.orderId, s.client.publishFill fr with
    | some lo, (client, some rpt) => (s.report client lo fr rpt nowNs, [rpt])
    | _, _ => (s, [])

/-- The ids of accepted orders are new; their instruments are the strategy's, on its exchange, and
fit 56 bits (`make_inst_uid` is a 32-bit canonical id times 100 plus the exchange). An order is
tracked once; a fill is one of a live order. -/
def Lawful : ConsumerEvent → Prop
  | .accept lo => s.accepted.lookup lo.strategyOrderId = none ∧ lo.instrumentId < 2 ^ 56 ∧
      s.passiveMaker.exchangeOf lo.instrumentId = some lo.exchangeId
  | .track orderId _ => (s.accepted.lookup orderId).isSome ∧ ¬ s.orderManager.Tracks orderId
  | .fill fr _ => (s.client.live.lookup fr.orderId).isSome

instance (e : ConsumerEvent) : Decidable (s.Lawful e) :=
  match e with
  | .accept _ => inferInstanceAs (Decidable (_ ∧ _ ∧ _))
  | .track _ _ => inferInstanceAs (Decidable (_ ∧ ¬ _))
  | .fill _ _ => inferInstanceAs (Decidable (_ = true))

/-- Every reader has what the engine matched. -/
structure Agree : Prop where
  orders : ∀ id, s.orderManager.filledQty id = ofE8 (s.matched id)
  inventory : ∀ inst, s.passiveMaker.inventory inst = ofE8 (s.traded inst)
  positions : ∀ inst ex, s.passiveMaker.exchangeOf inst = some ex → inst < 2 ^ 56 →
    s.positionTracker.netQty inst ex = s.traded inst

/-- The fill is one of nothing, or the first of an order that is on record. -/
def FirstFill : ConsumerEvent → Prop
  | .fill fr _ => fillQtyScaled fr.lastFillQty = 0 ∨
      (s.matched fr.orderId = 0 ∧ s.orderManager.Tracks fr.orderId)
  | .accept _ | .track _ _ => True

instance (e : ConsumerEvent) : Decidable (s.FirstFill e) :=
  match e with
  | .fill _ _ => inferInstanceAs (Decidable (_ ∨ (_ ∧ _)))
  | .accept _ | .track _ _ => isTrue trivial

/-- How the records of the three readers hang together. -/
structure Consistent : Prop where
  /-- An accepted order is on an instrument of the strategy, on its exchange. -/
  accepted : ∀ id lo, s.accepted.lookup id = some lo → lo.instrumentId < 2 ^ 56 ∧
    s.passiveMaker.exchangeOf lo.instrumentId = some lo.exchangeId
  /-- A live order is an accepted one. -/
  live : ∀ id lo, s.client.live.lookup id = some lo → ∃ lo₀, s.accepted.lookup id = some lo₀ ∧
    lo.instrumentId = lo₀.instrumentId ∧ lo.exchangeId = lo₀.exchangeId
  /-- An order on record is an accepted one. -/
  tracked : ∀ id, s.orderManager.Tracks id → (s.accepted.lookup id).isSome
  /-- A live order on record is the passive maker's, under its own instrument. -/
  followed : ∀ id lo, s.client.live.lookup id = some lo → s.orderManager.Tracks id →
    s.passiveMaker.orderToInstrument.lookup id = some lo.instrumentId
  /-- The passive maker's orders are on record, and it has seen of them what the record has. -/
  seen : ∀ id inst, s.passiveMaker.orderToInstrument.lookup id = some inst →
    s.orderManager.Tracks id ∧ (∀ lo, s.accepted.lookup id = some lo → lo.instrumentId = inst) ∧
      ∀ st, s.passiveMaker.state.lookup inst = some st →
        s.orderManager.filledQty id = ofE8 (st.lastFilled id)
  /-- It has seen nothing of any other order. -/
  unseen : ∀ id inst st, s.passiveMaker.state.lookup inst = some st →
    s.passiveMaker.orderToInstrument.lookup id ≠ some inst → st.lastFilled id = 0

/-! ## The readers' records hang together -/

variable {s}

/-- What a fresh instrument has, every instrument has at the start. -/
theorem allVals_init {P : PassiveMaker.InstrumentState → Prop}
    (instruments : List (Nat × ExchangeId)) (hP : ∀ ex, P { exchangeId := ex }) :
    Table.AllVals P (init instruments).passiveMaker.state := by
  have hfold : ∀ (is : List (Nat × ExchangeId)) (t : Table Nat PassiveMaker.InstrumentState),
      Table.AllVals P t →
      Table.AllVals P (is.foldl (fun t i => t.insert i.1 { exchangeId := i.2 }) t) := by
    intro is
    induction is with
    | nil => exact fun _ h => h
    | cons i is ih => exact fun t h => ih _ (h.insert (hP i.2) i.1)
  exact hfold instruments ∅ (Table.AllVals.empty P)

theorem consistent_init (instruments : List (Nat × ExchangeId)) :
    (init instruments).Consistent := by
  have hfresh : Table.AllVals (fun st => st.lastFilledQtyE8 = ∅)
      (init instruments).passiveMaker.state := allVals_init instruments fun _ => rfl
  have hnone : ∀ (V : Type) (id : Nat) (v : V), (∅ : Table Nat V).lookup id ≠ some v := by
    intro V id v h
    cases h
  exact
    { accepted := fun id lo h => absurd h (hnone _ _ _)
      live := fun id lo h => absurd h (hnone _ _ _)
      tracked := fun id h => by cases h
      followed := fun id lo h => absurd h (hnone _ _ _)
      seen := fun id inst h => absurd h (hnone _ _ _)
      unseen := fun id inst st hst _ => by
        rw [PassiveMaker.InstrumentState.lastFilled, hfresh inst st hst]
        rfl }

theorem Consistent.accept (h : s.Consistent) {lo : LiveOrder} (hlaw : s.Lawful (.accept lo)) :
    (s.step (.accept lo)).1.Consistent := by
  obtain ⟨hnew, hinst, hex⟩ := hlaw
  -- whatever the records know is an accepted order, so it is not the new one
  have hne : ∀ id, (s.accepted.lookup id).isSome → id ≠ lo.strategyOrderId := by
    intro id hsome heq
    rw [heq, hnew] at hsome
    cases hsome
  refine { h with accepted := ?_, live := ?_, tracked := ?_, followed := ?_, seen := ?_ }
  · intro id lo' hlo'
    simp only [step, Table.lookup_insert_eq] at hlo'
    split at hlo'
    · cases hlo'
      exact ⟨hinst, hex⟩
    · exact h.accepted id lo' hlo'
  · intro id lo' hlo'
    simp only [step, Table.lookup_insert_eq] at hlo' ⊢
    split at hlo'
    · next hid =>
      cases hlo'
      exact ⟨lo, by rw [if_pos hid], rfl, rfl⟩
    · next hid =>
      rw [if_neg hid]
      exact h.live id lo' hlo'
  · intro id htracked
    have hsome := h.tracked id htracked
    simp only [step, Table.lookup_insert_eq]
    rw [if_neg (hne id hsome)]
    exact hsome
  · intro id lo' hlo' htracked
    have hid := hne id (h.tracked id htracked)
    simp only [step, Table.lookup_insert_eq, if_neg hid] at hlo'
    exact h.followed id lo' hlo' htracked
  · intro id inst hfollowed
    obtain ⟨htracked, hown, hseen⟩ := h.seen id inst hfollowed
    have hid := hne id (h.tracked id htracked)
    refine ⟨htracked, ?_, hseen⟩
    simp only [step, Table.lookup_insert_eq, if_neg hid]
    exact hown

theorem Consistent.track (h : s.Consistent) {orderId nowNs : Nat}
    (hlaw : s.Lawful (.track orderId nowNs)) : (s.step (.track orderId nowNs)).1.Consistent := by
  obtain ⟨hsome, hnew⟩ := hlaw
  obtain ⟨lo, hlo⟩ := Option.isSome_iff_exists.mp hsome
  -- an order that is not on record is no order of the passive maker
  have hnot : s.passiveMaker.orderToInstrument.lookup orderId = none := by
    cases hfollowed : s.passiveMaker.orderToInstrument.lookup orderId with
    | none => rfl
    | some inst => exact absurd (h.seen orderId inst hfollowed).1 hnew
  simp only [step, hlo]
  refine { h with tracked := ?_, followed := ?_, seen := ?_, unseen := ?_ }
  · intro id htracked
    rcases (OrderManager.tracks_store _ _ _).mp htracked with rfl | hold
    · exact hsome
    · exact h.tracked id hold
  · intro id lo' hlo' htracked
    simp only [PassiveMaker.placed, Table.lookup_insert_eq]
    split
    · next hid =>
      subst hid
      obtain ⟨lo₀, hlo₀, hinst, -⟩ := h.live id lo' hlo'
      rw [hlo] at hlo₀
      cases hlo₀
      rw [hinst]
    · next hid =>
      have hold := ((OrderManager.tracks_store _ _ _).mp htracked).resolve_left hid
      exact h.followed id lo' hlo' hold
  · intro id inst hfollowed
    simp only [PassiveMaker.placed, Table.lookup_insert_eq] at hfollowed
    simp only [OrderManager.tracks_store, OrderManager.filledQty_store]
    split at hfollowed
    · next hid =>
      subst hid
      cases hfollowed
      refine ⟨Or.inl rfl, ?_, ?_⟩
      · intro lo' hlo'
        rw [hlo] at hlo'
        cases hlo'
        rfl
      · intro st hst
        rw [if_pos rfl, h.unseen id lo.instrumentId st hst (by rw [hnot]; exact nofun)]
        exact ofE8_zero.symm
    · next hid =>
      obtain ⟨htracked, hown, hseen⟩ := h.seen id inst hfollowed
      refine ⟨Or.inr htracked, hown, ?_⟩
      rw [if_neg hid]
      exact hseen
  · intro id inst st hst hfollowed
    apply h.unseen id inst st hst
    simp only [PassiveMaker.placed, Table.lookup_insert_eq] at hfollowed
    split at hfollowed
    · next hid =>
      rw [hid, hnot]
      exact nofun
    · exact hfollowed

/-! ## One fill -/

/-- `publish_fill` of an order that was accepted as `lo`: the order is live, the gateway that is
left has no new live orders, and the report is that of the fill. -/
structure HandsOver (s : FillConsumers) (fr : FillReport) (lo : LiveOrder)
    (client : OrderGatewayClient) (rpt : ExecReport) : Prop where
  accepted : s.accepted.lookup fr.orderId = some lo
  live : ∃ lo', s.client.live.lookup fr.orderId = some lo' ∧ lo'.instrumentId = lo.instrumentId
  wasLive : ∀ id lo', client.live.lookup id = some lo' →
    ∃ lo₁, s.client.live.lookup id = some lo₁ ∧ lo'.instrumentId = lo₁.instrumentId ∧
      lo'.exchangeId = lo₁.exchangeId
  report : OrderGatewayClient.ReportsFill lo fr rpt

/-- The fill of a live order is reported to all three. -/
theorem step_fill (h : s.Consistent) {fr : FillReport} {nowNs : Nat}
    (hlaw : s.Lawful (.fill fr nowNs)) :
    ∃ lo client rpt, s.HandsOver fr lo client rpt ∧
      (s.step (.fill fr nowNs)).1 = s.report client lo fr rpt nowNs := by
  obtain ⟨lo', hlive⟩ := Option.isSome_iff_exists.mp hlaw
  obtain ⟨lo, hlo, hinst, hex⟩ := h.live fr.orderId lo' hlive
  obtain ⟨rpt, hrpt, hfill, hclient⟩ := OrderGatewayClient.publishFill_of_live hlive
  have hpublish : s.client.publishFill fr = ((s.client.publishFill fr).1, some rpt) :=
    Prod.ext rfl hrpt
  refine ⟨lo, (s.client.publishFill fr).1, rpt, ?_, by rw [step, hlo, hpublish]⟩
  refine { accepted := hlo, live := ⟨lo', hlive, hinst⟩, wasLive := ?_, report := ?_ }
  · intro id lo'' hlo''
    rw [hclient, Table.lookup_insert_eq] at hlo''
    split at hlo''
    · next hid =>
      cases hlo''
      exact ⟨lo', by rw [hid, hlive], rfl, rfl⟩
    · exact ⟨lo'', hlo'', rfl, rfl⟩
  · exact { hfill with
      exchangeId := hfill.exchangeId.trans hex
      instrumentId := hfill.instrumentId.trans hinst }

section Report

variable {client : OrderGatewayClient} {lo : LiveOrder} {fr : FillReport} {rpt : ExecReport}
  {nowNs : Nat}

/-- A live order after the report was a live order before, and not the one that it filled up. -/
theorem HandsOver.live_of_report (hover : s.HandsOver fr lo client rpt) {id : Nat}
    {lo' : LiveOrder} (h : (s.report client lo fr rpt nowNs).client.live.lookup id = some lo') :
    (∃ lo₁, s.client.live.lookup id = some lo₁ ∧ lo'.instrumentId = lo₁.instrumentId ∧
      lo'.exchangeId = lo₁.exchangeId) ∧ (fr.isFullyFilled = true → id ≠ fr.orderId) := by
  cases hfull : fr.isFullyFilled with
  | true =>
    simp only [FillConsumers.report, hfull, if_true, OrderGatewayClient.eraseLive,
      Table.lookup_erase_eq] at h
    by_cases hid : id = fr.orderId
    · rw [if_pos hid] at h
      cases h
    · rw [if_neg hid] at h
      exact ⟨hover.wasLive id lo' h, fun _ => hid⟩
  | false =>
    simp only [FillConsumers.report, hfull, Bool.false_eq_true, if_false] at h
    exact ⟨hover.wasLive id lo' h, nofun⟩

/-- An order that is not on record has no effect on the passive maker. -/
theorem HandsOver.passiveMaker_of_untracked (hover : s.HandsOver fr lo client rpt)
    (h : s.Consistent) (hnot : ¬ s.orderManager.Tracks fr.orderId) :
    s.passiveMaker.onExecReport rpt = s.passiveMaker := by
  apply PassiveMaker.onExecReport_of_notFollowed
  rw [hover.report.orderId]
  cases hfollowed : s.passiveMaker.orderToInstrument.lookup fr.orderId with
  | none => rfl
  | some inst => exact absurd (h.seen fr.orderId inst hfollowed).1 hnot

/-- A live order on record is followed, under the instrument whose state the passive maker has. -/
theorem HandsOver.passiveMaker_of_tracked (hover : s.HandsOver fr lo client rpt)
    (h : s.Consistent) (htracked : s.orderManager.Tracks fr.orderId) :
    ∃ st, s.passiveMaker.orderToInstrument.lookup fr.orderId = some lo.instrumentId ∧
      s.passiveMaker.state.lookup lo.instrumentId = some st ∧
      s.orderManager.filledQty fr.orderId = ofE8 (st.lastFilled fr.orderId) ∧
      s.passiveMaker.onExecReport rpt =
        { state := s.passiveMaker.state.insert lo.instrumentId (st.after rpt)
          orderToInstrument := if fr.isFullyFilled then
              s.passiveMaker.orderToInstrument.erase fr.orderId
            else s.passiveMaker.orderToInstrument } := by
  obtain ⟨lo', hlive, hinst⟩ := hover.live
  have hfollowed := h.followed fr.orderId lo' hlive htracked
  rw [hinst] at hfollowed
  obtain ⟨-, hex⟩ := h.accepted fr.orderId lo hover.accepted
  obtain ⟨st, hst, -⟩ := Option.map_eq_some_iff.mp hex
  obtain ⟨-, -, hseen⟩ := h.seen fr.orderId lo.instrumentId hfollowed
  refine ⟨st, hfollowed, hst, hseen st hst, ?_⟩
  rw [PassiveMaker.onExecReport_of_followed (by rw [hover.report.orderId]; exact hfollowed) hst,
    hover.report.terminal, hover.report.orderId]

theorem tracks_report (id : Nat) :
    (s.report client lo fr rpt nowNs).orderManager.Tracks id ↔ s.orderManager.Tracks id :=
  OrderManager.tracks_onExecReport _ _ _ id

/-- What the records of the gateway and of the orders keep, whoever follows the order. -/
theorem HandsOver.accepted_report (hover : s.HandsOver fr lo client rpt) (h : s.Consistent)
    (nowNs : Nat) :
    (∀ id lo', s.accepted.lookup id = some lo' → lo'.instrumentId < 2 ^ 56 ∧
      (s.passiveMaker.onExecReport rpt).exchangeOf lo'.instrumentId = some lo'.exchangeId) ∧
    ∀ id lo', (s.report client lo fr rpt nowNs).client.live.lookup id = some lo' →
      ∃ lo₁, s.accepted.lookup id = some lo₁ ∧ lo'.instrumentId = lo₁.instrumentId ∧
        lo'.exchangeId = lo₁.exchangeId := by
  constructor
  · intro id lo' hlo'
    obtain ⟨hlt, hex⟩ := h.accepted id lo' hlo'
    exact ⟨hlt, (PassiveMaker.exchangeOf_onExecReport _).trans hex⟩
  · intro id lo' hlo'
    obtain ⟨⟨lo₁, hlo₁, hinst₁, hex₁⟩, -⟩ := hover.live_of_report hlo'
    obtain ⟨lo₂, hlo₂, hinst₂, hex₂⟩ := h.live id lo₁ hlo₁
    exact ⟨lo₂, hlo₂, hinst₁.trans hinst₂, hex₁.trans hex₂⟩

/-- The fill of an order that is not on record leaves the records as they are. -/
theorem Consistent.report_of_untracked (h : s.Consistent) (hover : s.HandsOver fr lo client rpt)
    (hnot : ¬ s.orderManager.Tracks fr.orderId) :
    (s.report client lo fr rpt nowNs).Consistent := by
  have hpm : (s.report client lo fr rpt nowNs).passiveMaker = s.passiveMaker :=
    hover.passiveMaker_of_untracked h hnot
  -- an order on record is another one
  have hfilled : ∀ id, s.orderManager.Tracks id →
      (s.report client lo fr rpt nowNs).orderManager.filledQty id =
        s.orderManager.filledQty id := by
    intro id hid
    show (s.orderManager.onExecReport rpt nowNs).filledQty id = _
    rw [OrderManager.filledQty_onExecReport, hover.report.orderId]
    apply if_neg
    rintro ⟨rfl, -⟩
    exact hnot hid
  obtain ⟨haccepted, hlives⟩ := hover.accepted_report h nowNs
  refine
    { accepted := haccepted, live := hlives, tracked := ?_, followed := ?_, seen := ?_
      unseen := ?_ }
  · intro id hid
    exact h.tracked id ((tracks_report id).mp hid)
  · intro id lo' hlo' hid
    obtain ⟨⟨lo₁, hlo₁, hinst₁, -⟩, -⟩ := hover.live_of_report hlo'
    rw [hpm, hinst₁]
    exact h.followed id lo₁ hlo₁ ((tracks_report id).mp hid)
  · intro id inst hid
    rw [hpm] at hid
    obtain ⟨htracked, hown, hseen⟩ := h.seen id inst hid
    refine ⟨(tracks_report id).mpr htracked, hown, ?_⟩
    rw [hpm, hfilled id htracked]
    exact hseen
  · rw [hpm]
    exact h.unseen

/-- An order that is followed after the fill was followed, and has not just ended. -/
theorem HandsOver.followed_iff (hover : s.HandsOver fr lo client rpt) (h : s.Consistent)
    (htracked : s.orderManager.Tracks fr.orderId) (id inst : Nat) :
    (s.passiveMaker.onExecReport rpt).orderToInstrument.lookup id = some inst ↔
      s.passiveMaker.orderToInstrument.lookup id = some inst ∧
        (fr.isFullyFilled = true → id ≠ fr.orderId) := by
  obtain ⟨st, -, -, -, hpm⟩ := hover.passiveMaker_of_tracked h htracked
  rw [hpm]
  cases hfull : fr.isFullyFilled with
  | false => simp
  | true =>
    simp only [if_true, Table.lookup_erase_eq, true_implies]
    by_cases hid : id = fr.orderId
    · simp [hid]
    · simp [hid]

/-- The quantity on record for each order, after the fill of one. -/
theorem HandsOver.lastFilled_after (hover : s.HandsOver fr lo client rpt)
    (st : PassiveMaker.InstrumentState) (id : Nat) :
    (st.after rpt).lastFilled id =
      if id = fr.orderId then
        if fr.isFullyFilled then 0 else max (st.lastFilled id) (fillQtyScaled fr.lastFillQty)
      else st.lastFilled id := by
  have hrpt := hover.report
  rw [PassiveMaker.after_lastFilled hrpt.isFill, hrpt.orderId, hrpt.terminal, hrpt.filledQty]

/-- The fill of an order on record: both records take the larger of the two quantities. -/
theorem Consistent.report_of_tracked (h : s.Consistent) (hover : s.HandsOver fr lo client rpt)
    (htracked : s.orderManager.Tracks fr.orderId) :
    (s.report client lo fr rpt nowNs).Consistent := by
  obtain ⟨st, hfollowed, hst, hseen, hpm⟩ := hover.passiveMaker_of_tracked h htracked
  have hrpt := hover.report
  have hstill := hover.followed_iff h htracked
  have hlast := hover.lastFilled_after st
  have hstate : ∀ inst, (s.passiveMaker.onExecReport rpt).state.lookup inst =
      if inst = lo.instrumentId then some (st.after rpt) else
        s.passiveMaker.state.lookup inst := by
    intro inst
    rw [hpm, Table.lookup_insert_eq]
  obtain ⟨haccepted, hlives⟩ := hover.accepted_report h nowNs
  refine
    { accepted := haccepted, live := hlives, tracked := ?_, followed := ?_, seen := ?_
      unseen := ?_ }
  · intro id hid
    exact h.tracked id ((tracks_report id).mp hid)
  · intro id lo' hlo' hid
    obtain ⟨⟨lo₁, hlo₁, hinst₁, -⟩, hended⟩ := hover.live_of_report hlo'
    apply (hstill id _).mpr
    rw [hinst₁]
    exact ⟨h.followed id lo₁ hlo₁ ((tracks_report id).mp hid), hended⟩
  · intro id inst hid
    obtain ⟨hold, hended⟩ := (hstill id inst).mp hid
    obtain ⟨htracked', hown, hseen'⟩ := h.seen id inst hold
    refine ⟨(tracks_report id).mpr htracked', hown, fun st' hst' => ?_⟩
    replace hst' := (hstate inst).symm.trans hst'
    show (s.orderManager.onExecReport rpt nowNs).filledQty id = _
    rw [OrderManager.filledQty_onExecReport, hrpt.orderId, hrpt.filledQty]
    by_cases heq : id = fr.orderId
    · subst heq
      obtain rfl : lo.instrumentId = inst := Option.some.inj (hfollowed.symm.trans hold)
      have hpartial : ¬ fr.isFullyFilled = true := fun hfull => hended hfull rfl
      rw [if_pos rfl] at hst'
      cases hst'
      rw [if_pos ⟨rfl, htracked⟩, hlast, if_pos rfl, if_neg hpartial, ofE8_max, hseen]
    · rw [if_neg fun hboth => heq hboth.1]
      split at hst'
      · next hinst =>
        cases hst'
        rw [hlast, if_neg heq]
        exact hseen' st (hinst ▸ hst)
      · exact hseen' st' hst'
  · intro id inst st' hst' hid
    replace hst' := (hstate inst).symm.trans hst'
    have hgone : s.passiveMaker.orderToInstrument.lookup id = some inst →
        fr.isFullyFilled = true ∧ id = fr.orderId := by
      intro hold
      by_contra hnot
      exact hid ((hstill id inst).mpr ⟨hold, fun hfull heq => hnot ⟨hfull, heq⟩⟩)
    split at hst'
    · next hinst =>
      subst hinst
      cases hst'
      rw [hlast]
      by_cases heq : id = fr.orderId
      · rw [if_pos heq, if_pos (hgone (heq ▸ hfollowed)).1]
      · rw [if_neg heq]
        exact h.unseen id lo.instrumentId st hst fun hold => heq (hgone hold).2
    · next hinst =>
      refine h.unseen id inst st' hst' fun hold => hinst ?_
      obtain ⟨-, rfl⟩ := hgone hold
      exact Option.some.inj (hold.symm.trans hfollowed)

end Report

theorem Consistent.step {e : ConsumerEvent} (h : s.Consistent) (hlaw : s.Lawful e) :
    (s.step e).1.Consistent := by
  cases e with
  | accept lo => exact h.accept hlaw
  | track orderId nowNs => exact h.track hlaw
  | fill fr nowNs =>
    obtain ⟨lo, client, rpt, hover, hstep⟩ := step_fill h hlaw
    rw [hstep]
    by_cases htracked : s.orderManager.Tracks fr.orderId
    · exact h.report_of_tracked hover htracked
    · exact h.report_of_untracked hover htracked

end FillConsumers

end BptCore.Backtester
