import BptCore.Backtester.Harness.FillConsumers

/-!
# When the three readers agree

A report carries the quantity of its own fill, which is the cumulative one too as long as it is
the first of its order. From the second fill on, the order manager and the passive maker lose
what came before.

* **`Agree.step_iff`** — one step keeps the agreement exactly when its fill is a first one.
* **`fills_agree_iff`** — so for every run.
-/

namespace BptCore.Backtester

open Machine Strategy

namespace FillConsumers

variable {s : FillConsumers}

section Report

variable {client : OrderGatewayClient} {lo : LiveOrder} {fr : FillReport} {rpt : ExecReport}
  {nowNs : Nat}

/-! ## Agreement after one fill -/

/-- What the order manager has of an order after the report. -/
theorem filledQty_report (hover : s.HandsOver fr lo client rpt) (hagree : s.Agree) (id : Nat) :
    (s.report client lo fr rpt nowNs).orderManager.filledQty id =
      ofE8 (if id = fr.orderId ∧ s.orderManager.Tracks id
        then max (s.matched id) (fillQtyScaled fr.lastFillQty) else s.matched id : Nat) := by
  show (s.orderManager.onExecReport rpt nowNs).filledQty id = _
  rw [OrderManager.filledQty_onExecReport, hover.report.orderId, hover.report.filledQty,
    hagree.orders]
  split
  · exact (ofE8_max _ _).symm
  · rfl

/-- The order manager agrees after the report of a first fill, and of no other. -/
theorem orders_report_iff (hover : s.HandsOver fr lo client rpt) (hagree : s.Agree) :
    (∀ id, (s.report client lo fr rpt nowNs).orderManager.filledQty id =
        ofE8 ((s.report client lo fr rpt nowNs).matched id)) ↔ s.FirstFill (.fill fr nowNs) := by
  have hqty : ∀ id, (s.report client lo fr rpt nowNs).matched id =
      s.matched id + fillQtyOf id fr := fun _ => rfl
  simp only [filledQty_report hover hagree, hqty, ofE8_injective.eq_iff, Nat.cast_inj, FirstFill,
    fillQtyOf]
  constructor
  · intro h
    have hown := h fr.orderId
    rw [if_pos rfl] at hown
    by_cases htracked : s.orderManager.Tracks fr.orderId
    · rw [if_pos ⟨rfl, htracked⟩] at hown
      rcases Nat.le_total (s.matched fr.orderId) (fillQtyScaled fr.lastFillQty) with hle | hle
      · rw [Nat.max_eq_right hle] at hown
        exact Or.inr ⟨by omega, htracked⟩
      · rw [Nat.max_eq_left hle] at hown
        exact Or.inl (by omega)
    · rw [if_neg fun hboth => htracked hboth.2] at hown
      exact Or.inl (by omega)
  · intro h id
    by_cases hid : id = fr.orderId
    · subst hid
      rw [if_pos rfl]
      rcases h with hzero | ⟨hfirst, htracked⟩
      · rw [hzero, Nat.max_zero, ite_self, Nat.add_zero]
      · rw [if_pos ⟨rfl, htracked⟩, hfirst, Nat.zero_max, Nat.zero_add]
    · rw [if_neg fun hboth => hid hboth.1, if_neg (Ne.symm hid), Nat.add_zero]

/-- What the passive maker has of an instrument after the report of a first fill. -/
theorem inventory_report (hover : s.HandsOver fr lo client rpt) (h : s.Consistent)
    (hagree : s.Agree) (hfirst : s.FirstFill (.fill fr nowNs)) (inst : Nat) :
    (s.passiveMaker.onExecReport rpt).inventory inst =
      s.passiveMaker.inventory inst + ofE8 (if inst = lo.instrumentId
        then fr.side.signed (fillQtyScaled fr.lastFillQty) else 0) := by
  by_cases htracked : s.orderManager.Tracks fr.orderId
  · obtain ⟨st, -, hst, hseen, hpm⟩ := hover.passiveMaker_of_tracked h htracked
    have hlast : s.matched fr.orderId = st.lastFilled fr.orderId := by
      rw [hagree.orders] at hseen
      exact_mod_cast ofE8_injective hseen
    have hdelta : fillQtyScaled fr.lastFillQty - st.lastFilled fr.orderId =
        fillQtyScaled fr.lastFillQty := by
      rcases hfirst with hzero | ⟨hnone, -⟩ <;> omega
    rw [hpm]
    simp only [PassiveMaker.inventory, Table.lookup_insert_eq]
    by_cases hown : inst = lo.instrumentId
    · rw [if_pos hown, if_pos hown, hown, hst]
      dsimp only
      rw [PassiveMaker.after_inventory hover.report.isFill, hover.report.side,
        hover.report.filledQty, hover.report.orderId, hdelta]
    · rw [if_neg hown, if_neg hown, ofE8_zero, add_zero]
  · have hzero : fillQtyScaled fr.lastFillQty = 0 := hfirst.resolve_right fun hr => htracked hr.2
    have hsigned : fr.side.signed (0 : Nat) = 0 := by cases fr.side <;> rfl
    rw [hover.passiveMaker_of_untracked h htracked, hzero, hsigned, ite_self, ofE8_zero,
      add_zero]

/-- What the position tracker has of an instrument after the report. -/
theorem netQty_report (hover : s.HandsOver fr lo client rpt) (h : s.Consistent) {inst : Nat}
    {ex : ExchangeId}
    (hex : s.passiveMaker.exchangeOf inst = some ex) (hlt : inst < 2 ^ 56) :
    (s.report client lo fr rpt nowNs).positionTracker.netQty inst ex =
      s.positionTracker.netQty inst ex + if inst = lo.instrumentId
        then fr.side.signed (fillQtyScaled fr.lastFillQty) else 0 := by
  obtain ⟨hltOwn, hexOwn⟩ := h.accepted fr.orderId lo hover.accepted
  -- one exchange an instrument: the key is the order's when the instrument is
  have hkey : PositionTracker.key inst ex = PositionTracker.key lo.instrumentId lo.exchangeId ↔
      inst = lo.instrumentId := by
    rw [PositionTracker.key_eq_iff hlt hltOwn]
    refine and_iff_left_of_imp fun hown => ?_
    subst hown
    exact Option.some.inj (hex.symm.trans hexOwn)
  show (s.positionTracker.onFill _ _ _ _ _).netQty inst ex = _
  rw [PositionTracker.netQty_onFill, hover.report.instrumentId, hover.report.exchangeId,
    hover.report.side, hover.report.filledQty]
  simp only [hkey]

theorem agree_report_iff (hover : s.HandsOver fr lo client rpt) (h : s.Consistent)
    (hagree : s.Agree) :
    (s.report client lo fr rpt nowNs).Agree ↔ s.FirstFill (.fill fr nowNs) := by
  constructor
  · intro hafter
    exact (orders_report_iff hover hagree).mp hafter.orders
  · intro hfirst
    have horders := (orders_report_iff hover hagree).mpr hfirst
    refine { orders := horders, inventory := ?_, positions := ?_ }
    · intro inst
      show (s.passiveMaker.onExecReport rpt).inventory inst = ofE8 (s.traded inst + _)
      rw [inventory_report hover h hagree hfirst, hagree.inventory, ofE8_add]
    · intro inst ex hex hlt
      have hex' : s.passiveMaker.exchangeOf inst = some ex :=
        (PassiveMaker.exchangeOf_onExecReport inst).symm.trans hex
      rw [netQty_report hover h hex' hlt, hagree.positions inst ex hex' hlt]
      rfl

end Report

/-! ## The run -/

/-- **The step lemma.** -/
theorem Agree.step_iff {e : ConsumerEvent} (hagree : s.Agree) (h : s.Consistent)
    (hlaw : s.Lawful e) : (s.step e).1.Agree ↔ s.FirstFill e := by
  cases e with
  | accept lo =>
    exact iff_of_true ⟨hagree.orders, hagree.inventory, hagree.positions⟩ trivial
  | track orderId nowNs =>
    obtain ⟨hsome, hnew⟩ := hlaw
    obtain ⟨lo, hlo⟩ := Option.isSome_iff_exists.mp hsome
    -- an order that is not on record yet has nothing filled on it
    have hnone : s.orderManager.filledQty orderId = 0 := by
      unfold OrderManager.filledQty
      cases hlookup : s.orderManager.lookup.lookup orderId with
      | none => rfl
      | some st => exact absurd (by rw [OrderManager.Tracks, hlookup]; rfl) hnew
    have horders : ∀ id, (s.step (.track orderId nowNs)).1.orderManager.filledQty id =
        ofE8 (s.matched id) := by
      intro id
      simp only [FillConsumers.step, hlo, OrderManager.filledQty_store]
      split
      · next hid => rw [hid, ← hagree.orders, hnone]
      · exact hagree.orders id
    refine iff_of_true ⟨?_, ?_, ?_⟩ trivial
    · intro id
      rw [horders]
      simp only [FillConsumers.step, hlo]
    · simp only [FillConsumers.step, hlo]
      exact hagree.inventory
    · simp only [FillConsumers.step, hlo]
      exact hagree.positions
  | fill fr nowNs =>
    obtain ⟨lo, client, rpt, hover, hstep⟩ := step_fill h hlaw
    rw [hstep]
    exact agree_report_iff hover h hagree

theorem agree_init (instruments : List (Nat × ExchangeId)) : (init instruments).Agree := by
  have hflat : Table.AllVals (fun st => st.inventory = 0)
      (init instruments).passiveMaker.state :=
    allVals_init instruments fun _ => rfl
  refine ⟨fun _ => ofE8_zero.symm, fun inst => ?_, fun _ _ _ _ => rfl⟩
  show _ = ofE8 0
  rw [ofE8_zero, PassiveMaker.inventory]
  cases hst : (init instruments).passiveMaker.state.lookup inst with
  | none => rfl
  | some st => exact hflat inst st hst

/-- **When the readers agree.** In every run, each order's record, each instrument's inventory
and each instrument's position stay what the engine matched exactly when every fill is one of
nothing or the first of its order, and comes after the order was put on record. -/
theorem fills_agree_iff (instruments : List (Nat × ExchangeId)) (es : List ConsumerEvent)
    (hlaw : AlongRun step Lawful (init instruments) es) :
    AllStates step Agree (init instruments) es ↔ AlongRun step FirstFill (init instruments) es :=
  allStates_iff_alongRun_of_assumption (J := Consistent)
    (fun _ _ h hlaw => h.step hlaw)
    (fun _ _ h hlaw hagree => hagree.step_iff h hlaw)
    (consistent_init instruments) (agree_init instruments) hlaw

/-! ## Two slices of one order

A bid of 1 is filled by 0.4 and then by 0.6. The order manager and the passive maker take the
second report for a total of 0.6; the position tracker adds it up to 1. -/

namespace TwoSlices

def bid : LiveOrder where
  strategyOrderId := 1
  exchangeId := .BINANCE
  instrumentId := 3
  side := .BUY
  orderType := .LIMIT
  tif := .GTC
  price := 10000000000
  quantity := 100000000
  exchangeSymbol := "BTCUSDT"
  exchange := "BINANCE"
  postOnly := true

def slice (qty remaining : ℚ) : ConsumerEvent :=
  .fill
    { orderId := 1
      clientOrderId := 1
      exchange := "BINANCE"
      symbol := "BTCUSDT"
      orderType := .POST_ONLY
      side := .BUY
      liquidityRole := .MAKER
      originalQty := 1
      orderPrice := 100
      lastFillQty := qty
      lastFillPrice := 100
      cumulativeFillQty := 1 - remaining
      isFullyFilled := remaining = 0
      simulationTs := 2000 }
    2000

def events (slices : List (ℚ × ℚ)) : List ConsumerEvent :=
  [.accept bid, .track 1 1000] ++ slices.map fun (qty, remaining) => slice qty remaining

end TwoSlices

open TwoSlices in
theorem fills_agree_iff_oneSlice :
    AllStates step Agree (init [(3, .BINANCE)]) (events [(1, 0)]) :=
  (fills_agree_iff [(3, .BINANCE)] (events [(1, 0)]) (by decide +kernel)).mpr (by decide +kernel)

open TwoSlices in
theorem not_fills_agree_of_twoSlices :
    AlongRun step Lawful (init [(3, .BINANCE)]) (events [(4 / 10, 6 / 10), (6 / 10, 0)]) ∧
      ¬ AllStates step Agree (init [(3, .BINANCE)]) (events [(4 / 10, 6 / 10), (6 / 10, 0)]) := by
  refine ⟨by decide +kernel, fun h => ?_⟩
  have hrecord := h.final.orders 1
  exact absurd hrecord (by decide +kernel)

end FillConsumers

end BptCore.Backtester
