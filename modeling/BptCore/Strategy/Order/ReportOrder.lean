import BptCore.Lib.Machine
import BptCore.Strategy.Order.OrderManager

/-!
# A record under its reports

What the reports of an order make of its record, in whatever order and however often they come.
`onExecReport` puts the status of the report in the place of the one on record, and takes the
larger of the two filled quantities.

* **`Sound`** — what a step should keep of a record: a final status, a pending cancel, and the
  running sum of the fills.
* **`Orderly`** — what is asked of a report for that.
* **`sound_iff_orderly`** — over a run of reports and cancels.
-/

namespace BptCore.Strategy

/-- What reaches the record of an order once it is there. -/
inductive OrderEvent where
  | report (rpt : ExecReport) (nowNs : Nat)
  | cancel (cancel : CancelOrderRequest) (nowNs : Nat)
  | cancelHandle (handle : Option Nat) (nowNs : Nat)

/-- The manager, and what the fills reported so far add up to, for every order. -/
structure ReportedOrders where
  om : OrderManager
  reportedE8 : Nat → Nat := fun _ => 0

namespace ReportedOrders

/-- The quantity that a report fills an order by. -/
def fillE8 (orderId : Nat) (rpt : ExecReport) : Nat :=
  if rpt.orderId = orderId ∧ rpt.status.isFill then rpt.filledQty else 0

def step (w : ReportedOrders) : OrderEvent → ReportedOrders × List CancelOrderRequest
  | .report rpt nowNs =>
    ({ om := w.om.onExecReport rpt nowNs
       reportedE8 := fun orderId => w.reportedE8 orderId + fillE8 orderId rpt }, [])
  | .cancel cancel nowNs => ({ w with om := w.om.sendCancel cancel nowNs }, [cancel])
  | .cancelHandle handle nowNs =>
    let out := w.om.sendCancelHandle handle nowNs
    ({ w with om := out.1 }, out.2.toList)

variable (orderId : Nat)

/-- A step that keeps the record right: a final status stays final, a pending cancel does not
become live, and the filled quantity is the running sum, which no step lowers. -/
def Sound (w : ReportedOrders) (e : OrderEvent) : Prop :=
  ∀ s ∈ w.om.lookup.lookup orderId, ∀ s' ∈ (step w e).1.om.lookup.lookup orderId,
    (s.status.terminal → s'.status.terminal) ∧
    (s.status = .CancelPending → s'.status ≠ .Live) ∧
    s.filledQty ≤ s'.filledQty ∧
    s'.filledQty = ofE8 ((step w e).1.reportedE8 orderId)

/-- A report that the record can take: none but a final one after a final one, no acknowledgement
once a cancel is out, and one report of a fill at most that fills anything. -/
def Orderly (w : ReportedOrders) (e : OrderEvent) : Prop :=
  match e with
  | .report rpt _ => rpt.orderId = orderId → ∀ s ∈ w.om.lookup.lookup orderId,
    (s.status.terminal → rpt.status.terminal) ∧
    (s.status = .CancelPending → rpt.status ≠ .ACKED) ∧
    if rpt.status.isFill then s.filledQty = 0 ∨ rpt.filledQty = 0
    else ofE8 rpt.filledQty ≤ s.filledQty
  | .cancel _ _ => True
  | .cancelHandle _ _ => True

/-- The order is on record, with the fills that were reported. -/
def Recorded (w : ReportedOrders) : Prop :=
  ∃ s, w.om.lookup.lookup orderId = some s ∧ s.filledQty = ofE8 (w.reportedE8 orderId)

instance (w : ReportedOrders) (e : OrderEvent) : Decidable (Sound orderId w e) :=
  inferInstanceAs (Decidable (∀ s ∈ w.om.lookup.lookup orderId, ∀ _ ∈ _, _ ∧ _ ∧ _ ∧ _))

/-- The order has just been placed. -/
def placed (om : OrderManager) (order : OutboundNewOrder) (price qty : ℚ) (nowNs : Nat) :
    ReportedOrders where
  om := om.store (.placed order price qty nowNs)

variable {orderId} {w : ReportedOrders} {s : OrderState}

/-- A cancel makes a live order pending and leaves every other alone. -/
theorem cancelPending_keeps (nowNs : Nat) :
    (s.status.terminal → (OrderManager.cancelPending s nowNs).status.terminal) ∧
      (s.status = .CancelPending → (OrderManager.cancelPending s nowNs).status ≠ .Live) := by
  by_cases hlive : s.status.live = true
  · rw [OrderManager.cancelPending, if_pos hlive]
    exact ⟨fun hterminal => absurd hlive (OrderStatus.not_live_of_terminal hterminal),
      fun _ => OrderStatus.noConfusion⟩
  · rw [OrderManager.cancelPending_of_not_live hlive]
    refine ⟨id, fun hpending => ?_⟩
    rw [hpending]
    exact OrderStatus.noConfusion

/-- The step of a record: sound exactly when what becomes of the record is. -/
theorem sound_iff {e : OrderEvent} {s' : OrderState}
    (hs : w.om.lookup.lookup orderId = some s)
    (hs' : (step w e).1.om.lookup.lookup orderId = some s') :
    Sound orderId w e ↔
      (s.status.terminal → s'.status.terminal) ∧
      (s.status = .CancelPending → s'.status ≠ .Live) ∧
      s.filledQty ≤ s'.filledQty ∧
      s'.filledQty = ofE8 ((step w e).1.reportedE8 orderId) := by
  unfold Sound
  rw [hs, hs']
  simp only [Option.mem_def, Option.some.injEq, forall_eq']

/-- What the larger of two quantities has to do with their sum. -/
theorem max_eq_add_iff (r q : Nat) (fill : Bool) :
    (max (ofE8 r) (ofE8 q) = ofE8 (r + if fill then q else 0 : Nat)) ↔
      if fill then r = 0 ∨ q = 0 else q ≤ r := by
  rw [← ofE8_max, ofE8_injective.eq_iff, Nat.cast_inj]
  cases fill with
  | true =>
    simp only [if_true]
    omega
  | false =>
    simp only [Bool.false_eq_true, if_false]
    omega

/-- A step that only cancels the order, or does not touch it, is sound. -/
theorem sound_of_unreported {e : OrderEvent} {s' : OrderState}
    (hs : w.om.lookup.lookup orderId = some s) (hfilled : s.filledQty = ofE8 (w.reportedE8 orderId))
    (hs' : (step w e).1.om.lookup.lookup orderId = some s')
    (hkeeps : s' = s ∨ ∃ nowNs, s' = OrderManager.cancelPending s nowNs)
    (hreported : (step w e).1.reportedE8 orderId = w.reportedE8 orderId) :
    Sound orderId w e := by
  rw [sound_iff hs hs', hreported, ← hfilled]
  rcases hkeeps with rfl | ⟨nowNs, rfl⟩
  · refine ⟨id, fun hpending => ?_, le_refl _, rfl⟩
    rw [hpending]
    exact OrderStatus.noConfusion
  · rw [OrderManager.cancelPending_filledQty]
    exact ⟨(cancelPending_keeps nowNs).1, (cancelPending_keeps nowNs).2, le_refl _, rfl⟩

/-- **One step.** -/
theorem sound_iff_orderly_step (hrecorded : Recorded orderId w) (e : OrderEvent) :
    Sound orderId w e ↔ Orderly orderId w e := by
  obtain ⟨s, hs, hfilled⟩ := hrecorded
  cases e with
  | report rpt nowNs =>
    have hlookup := w.om.lookup_onExecReport rpt nowNs orderId
    by_cases hid : rpt.orderId = orderId
    · rw [if_pos hid, hs, Option.map_some] at hlookup
      rw [sound_iff (e := .report rpt nowNs) hs hlookup]
      simp only [Orderly, hid, true_imp_iff, hs, Option.mem_def, Option.some.injEq, forall_eq']
      -- the record takes the status of the report and the larger of the quantities
      show (s.status.terminal → (OrderManager.statusOf rpt.status).terminal) ∧
        (s.status = .CancelPending → OrderManager.statusOf rpt.status ≠ .Live) ∧
        s.filledQty ≤ (OrderManager.applyReport s rpt nowNs).filledQty ∧
        (OrderManager.applyReport s rpt nowNs).filledQty =
          ofE8 (w.reportedE8 orderId + fillE8 orderId rpt : Nat) ↔ _
      rw [OrderManager.terminal_statusOf, Ne, OrderManager.statusOf_eq_live_iff,
        OrderManager.applyReport_filledQty]
      have hfill : fillE8 orderId rpt = if rpt.status.isFill then rpt.filledQty else 0 := by
        rw [fillE8]
        simp only [hid, true_and]
      have hgrown : s.filledQty ≤ max s.filledQty (ofE8 rpt.filledQty) := le_max_left _ _
      have hzero : s.filledQty = 0 ↔ w.reportedE8 orderId = 0 := by
        rw [hfilled, ofE8_eq_zero_iff, Int.natCast_eq_zero]
      have hle : ofE8 rpt.filledQty ≤ s.filledQty ↔ rpt.filledQty ≤ w.reportedE8 orderId := by
        rw [hfilled, ofE8_le_iff, Int.ofNat_le]
      rw [and_iff_right hgrown, hfill, hzero, hle, hfilled, max_eq_add_iff]
    · rw [if_neg hid, hs] at hlookup
      have hreported : w.reportedE8 orderId + fillE8 orderId rpt = w.reportedE8 orderId := by
        rw [fillE8, if_neg (fun h => hid h.1), Nat.add_zero]
      exact iff_of_true (sound_of_unreported hs hfilled hlookup (Or.inl rfl) hreported)
        (fun h => absurd h hid)
  | cancel cancel nowNs =>
    refine iff_of_true ?_ trivial
    have hlookup := w.om.lookup_sendCancel cancel nowNs orderId
    rw [hs] at hlookup
    split at hlookup
    · exact sound_of_unreported hs hfilled hlookup (Or.inr ⟨nowNs, rfl⟩) rfl
    · exact sound_of_unreported hs hfilled hlookup (Or.inl rfl) rfl
  | cancelHandle handle nowNs =>
    refine iff_of_true ?_ trivial
    have hlookup := w.om.lookup_sendCancelHandle handle nowNs orderId
    rw [hs] at hlookup
    split at hlookup
    · exact sound_of_unreported hs hfilled hlookup (Or.inr ⟨nowNs, rfl⟩) rfl
    · exact sound_of_unreported hs hfilled hlookup (Or.inl rfl) rfl

/-- A sound step leaves the order on record with its fills. -/
theorem Recorded.step {e : OrderEvent} (h : Recorded orderId w) (hsound : Sound orderId w e) :
    Recorded orderId (step w e).1 := by
  obtain ⟨s, hs, -⟩ := h
  have hkept : ∃ s', (ReportedOrders.step w e).1.om.lookup.lookup orderId = some s' := by
    cases e with
    | report rpt nowNs =>
      show ∃ s', (w.om.onExecReport rpt nowNs).lookup.lookup orderId = some s'
      rw [OrderManager.lookup_onExecReport, hs]
      split <;> exact ⟨_, rfl⟩
    | cancel cancel nowNs =>
      show ∃ s', (w.om.sendCancel cancel nowNs).lookup.lookup orderId = some s'
      rw [OrderManager.lookup_sendCancel, hs]
      split <;> exact ⟨_, rfl⟩
    | cancelHandle handle nowNs =>
      show ∃ s', (w.om.sendCancelHandle handle nowNs).1.lookup.lookup orderId = some s'
      rw [OrderManager.lookup_sendCancelHandle, hs]
      split <;> exact ⟨_, rfl⟩
  obtain ⟨s', hs'⟩ := hkept
  exact ⟨s', hs', ((sound_iff hs hs').mp hsound).2.2.2⟩

theorem recorded_placed (om : OrderManager) (order : OutboundNewOrder) (price qty : ℚ)
    (nowNs : Nat) : Recorded order.orderId (placed om order price qty nowNs) := by
  refine ⟨.placed order price qty nowNs, ?_, ofE8_zero.symm⟩
  exact AList.lookup_insert om.lookup

/-- **Which reports a record can take.** From the moment an order is placed, reports and cancels
keep its record right exactly as long as the reports are orderly. -/
theorem sound_iff_orderly (om : OrderManager) (order : OutboundNewOrder) (price qty : ℚ)
    (nowNs : Nat) (es : List OrderEvent) :
    Machine.AlongRun step (Sound order.orderId) (placed om order price qty nowNs) es ↔
      Machine.AlongRun step (Orderly order.orderId) (placed om order price qty nowNs) es :=
  Machine.alongRun_iff_of_kept (J := Recorded order.orderId)
    (fun _ _ hrecorded hsound => hrecorded.step hsound)
    (fun _ e hrecorded => sound_iff_orderly_step hrecorded e)
    (recorded_placed om order price qty nowNs) es

/-! ## The reports of a venue -/

def quotedOrder : OutboundNewOrder where
  orderId := 1
  exchangeId := .BINANCE
  instrumentId := 7
  side := .BUY
  orderType := .LIMIT
  tif := .GTC
  price := 10000000000
  quantity := 200000000
  execInst := 0
  exchangeSymbol := "BTCUSDT"

def quotedReport (status : ExecStatus) (filledQty : Nat) : OrderEvent :=
  .report
    { orderId := 1, exchangeOrderId := 1, exchangeId := .BINANCE, instrumentId := 7
      status := status, side := .BUY, orderType := .LIMIT, price := 10000000000
      filledQty := filledQty, remainingQty := 0, rejectReason := .OK, fee := 0, feeCurrency := ""
      exchangeTsNs := 0, localTsNs := 0 } 0

/-- Two fills of 1 count as one; a late acknowledgement revives an order that was filled, and one
whose cancel is out. -/
theorem reports_misread :
    ¬ Machine.AlongRun step (Sound 1) (placed {} quotedOrder 100 2 0)
        [quotedReport .PARTIAL 100000000, quotedReport .PARTIAL 100000000] ∧
    ¬ Machine.AlongRun step (Sound 1) (placed {} quotedOrder 100 2 0)
        [quotedReport .FILLED 200000000, quotedReport .ACKED 0] ∧
    ¬ Machine.AlongRun step (Sound 1) (placed {} quotedOrder 100 2 0)
        [.cancelHandle (some 1) 0, quotedReport .ACKED 0] := by
  decide +kernel

end ReportedOrders

end BptCore.Strategy
