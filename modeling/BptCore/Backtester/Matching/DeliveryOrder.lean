import BptCore.Backtester.Matching.OrderFills

/-!
# The order of the reports

Every fill draws a delay of its own, and the fills are handed over by the time at which they are
due. A fill that draws a short delay may overtake an earlier one of its order, the closing fill
included.

* **`KeepsOrder`** — no fill is scheduled to be reported before an earlier one of its order that
  has not been reported yet.
* **`delivered_in_order`** — along a run that keeps to it, the fills of every order are handed over
  as they were matched.
* **`not_delivered_in_order`** — and a run where a closing fill overtakes.
-/

namespace BptCore.Backtester

open Machine OpenItems

/-! ## The queue of the reports -/

/-- The fills of one order that wait to be reported, as they stand in the queue. -/
def waitingReports (id : Nat) (pendingFills : List PendingFill) : List FillReport :=
  servedOf orderService id (pendingFills.map PendingFill.fill)

theorem waitingReports_append (id : Nat) (pendingFills pendingFills' : List PendingFill) :
    waitingReports id (pendingFills ++ pendingFills') =
      waitingReports id pendingFills ++ waitingReports id pendingFills' := by
  rw [waitingReports, List.map_append, servedOf_append]
  rfl

/-- The reports of an order are due in the order in which they stand. -/
def DueInOrder (pendingFills : List PendingFill) : Prop :=
  pendingFills.Pairwise fun a b =>
    a.fill.orderId = b.fill.orderId → a.scheduledReportTs ≤ b.scheduledReportTs

instance (pendingFills : List PendingFill) : Decidable (DueInOrder pendingFills) :=
  inferInstanceAs (Decidable (List.Pairwise _ _))

/-- Sorting by the time at which they are due leaves the reports of an order as they stand. -/
theorem waitingReports_sorted {pendingFills : List PendingFill} (h : DueInOrder pendingFills)
    (id : Nat) :
    waitingReports id
        (pendingFills.insertionSort fun a b => a.scheduledReportTs ≤ b.scheduledReportTs) =
      waitingReports id pendingFills := by
  let isIts := fun pf : PendingFill => decide (pf.fill.orderId = id)
  let sorted := pendingFills.insertionSort fun a b => a.scheduledReportTs ≤ b.scheduledReportTs
  have hmap : ∀ pfs : List PendingFill,
      waitingReports id pfs = (pfs.filter isIts).map PendingFill.fill := fun pfs => by
    rw [waitingReports, servedOf, List.filter_map]
    rfl
  -- the reports of the order are due in order, so a stable sort keeps them
  have hdue : (pendingFills.filter isIts).Pairwise fun a b =>
      a.scheduledReportTs ≤ b.scheduledReportTs := by
    refine (List.Pairwise.filter isIts h).imp_of_mem fun ha hb hab => hab ?_
    rw [of_decide_eq_true (List.mem_filter.mp ha).2, of_decide_eq_true (List.mem_filter.mp hb).2]
  have hkept : (pendingFills.filter isIts).Sublist (sorted.filter isIts) := by
    have hsub := (List.sublist_insertionSort hdue List.filter_sublist).filter isIts
    rwa [List.filter_filter, List.filter_congr fun pf _ => Bool.and_self (isIts pf)] at hsub
  have hlength : (sorted.filter isIts).length = (pendingFills.filter isIts).length :=
    ((List.perm_insertionSort _ pendingFills).filter isIts).length_eq
  rw [hmap, hmap, ← hkept.eq_of_length hlength.symm]

namespace MatchingEngine

/-- **The drain.** What is handed over is the front of what waits, order by order. -/
theorem drainPendingFills_waitingReports {e : MatchingEngine} (h : DueInOrder e.pendingFills)
    (uptoTs id : Nat) :
    waitingReports id e.pendingFills = servedOf orderService id (e.drainPendingFills uptoTs).2 ++
      waitingReports id (e.drainPendingFills uptoTs).1.pendingFills := by
  rw [← waitingReports_sorted h, ← List.takeWhile_append_dropWhile
    (p := fun pf : PendingFill => decide (pf.scheduledReportTs ≤ uptoTs))
    (l := e.pendingFills.insertionSort _), waitingReports_append]
  rfl

/-- Fills that are scheduled go to the back of the queue. -/
theorem scheduleFills_waitingReports (e : MatchingEngine) (fills : List FillReport) (id : Nat) :
    waitingReports id (e.scheduleFills fills).pendingFills =
      waitingReports id e.pendingFills ++ servedOf orderService id fills := by
  have hfills : (e.scheduleFills fills).pendingFills.map PendingFill.fill =
      e.pendingFills.map PendingFill.fill ++ fills := by
    induction fills generalizing e with
    | nil => exact (List.append_nil _).symm
    | cons fill fills ih =>
      show ((e.scheduleFill fill).scheduleFills fills).pendingFills.map PendingFill.fill = _
      rw [ih, ← List.singleton_append (l := fills), ← List.append_assoc]
      congr 1
      exact List.map_append
  rw [waitingReports, hfills, servedOf_append]
  rfl

theorem drainPendingSubmits_waitingReports (e : MatchingEngine) (uptoTs id : Nat) :
    waitingReports id (e.drainPendingSubmits uptoTs).1.pendingFills =
      waitingReports id e.pendingFills ++
        servedOf orderService id (e.drainPendingSubmits uptoTs).2 := by
  unfold drainPendingSubmits
  dsimp only
  rw [scheduleFills_waitingReports]
  congr 2
  exact matchDue_pendingFills e uptoTs _

/-! ## One event -/

/-- The engine within an event, where the fills that are due are about to be handed over. -/
def beforeReports (e : MatchingEngine) : EngineEvent → MatchingEngine
  | .market event =>
    let (e, _) := e.drainPendingSubmits event.timestampNs
    let (e, fills) := e.applyEvent event
    e.scheduleFills fills
  | .submit o =>
    let o : OpenOrder := { o.order with submittedTs := e.currentTs }
    if e.refuses o then e else ((e.queued o).drainPendingSubmits e.currentTs).1
  | .cancel exchange symbol orderId => (e.cancelOrder exchange symbol orderId).1

/-- No fill is scheduled to be reported before an earlier one of its order. -/
def KeepsOrder (e : MatchingEngine) (ev : EngineEvent) : Prop :=
  DueInOrder (e.beforeReports ev).pendingFills

instance (e : MatchingEngine) (ev : EngineEvent) : Decidable (e.KeepsOrder ev) :=
  inferInstanceAs (Decidable (DueInOrder _))

/-- The fills that were handed over, in order. -/
def deliveredFills (outs : List EngineOutput) : List FillReport :=
  outs.filterMap fun
    | .matched _ => none
    | .delivered fr => some fr

/-- The fills of one order that were handed over, of what a run puts out. -/
def deliveredOf (id : Nat) (outs : List EngineOutput) : List FillReport :=
  servedOf orderService id (deliveredFills outs)

theorem deliveredOf_append (id : Nat) (outs outs' : List EngineOutput) :
    deliveredOf id (outs ++ outs') = deliveredOf id outs ++ deliveredOf id outs' := by
  rw [deliveredOf, deliveredFills, List.filterMap_append, servedOf_append]
  rfl

theorem fillsOf_append (id : Nat) (outs outs' : List EngineOutput) :
    fillsOf id (outs ++ outs') = fillsOf id outs ++ fillsOf id outs' := by
  rw [fillsOf, matchedFills_append, servedOf_append]
  rfl

theorem deliveredFills_outputs (out : Outcome) : deliveredFills out.outputs = out.deliveries := by
  have hmatched : deliveredFills (out.matched.map .matched) = [] := by
    rw [deliveredFills, List.filterMap_map]
    exact List.filterMap_eq_nil_iff.mpr fun _ _ => rfl
  have hdelivered : deliveredFills (out.deliveries.map .delivered) = out.deliveries := by
    rw [deliveredFills, List.filterMap_map]
    exact List.filterMap_some
  rw [Outcome.outputs, deliveredFills, List.filterMap_append]
  exact congr (congrArg _ hmatched) hdelivered

/-- What waits, of one order, goes by what was matched and by what was handed over. -/
def Queues (e : MatchingEngine) (id : Nat) (out : MatchingEngine × List EngineOutput) : Prop :=
  waitingReports id e.pendingFills ++ fillsOf id out.2 =
    deliveredOf id out.2 ++ waitingReports id out.1.pendingFills

/-- From the fills about to be handed over to the end of the event. -/
theorem queues_outputs {e before : MatchingEngine} {out : Outcome} {uptoTs : Nat} {id : Nat}
    (hdue : DueInOrder before.pendingFills)
    (hbefore : waitingReports id before.pendingFills =
      waitingReports id e.pendingFills ++ servedOf orderService id out.matched)
    (hdrained : (out.engine, out.deliveries) = before.drainPendingFills uptoTs) :
    e.Queues id (out.engine, out.outputs) := by
  have hdrain := drainPendingFills_waitingReports hdue uptoTs id
  rw [← hdrained, hbefore] at hdrain
  unfold Queues fillsOf deliveredOf
  rw [matchedFills_outputs, deliveredFills_outputs]
  exact hdrain

/-- **The step lemma.** -/
theorem step_queues {e : MatchingEngine} {ev : EngineEvent} (h : e.KeepsOrder ev) (id : Nat) :
    e.Queues id (e.step ev) := by
  cases ev with
  | market event =>
    let submitted := e.drainPendingSubmits event.timestampNs
    let applied := submitted.1.applyEvent event
    refine queues_outputs h ?_ rfl
    show waitingReports id (applied.1.scheduleFills applied.2).pendingFills =
      waitingReports id e.pendingFills ++ servedOf orderService id (submitted.2 ++ applied.2)
    rw [scheduleFills_waitingReports, applyEvent_pendingFills, drainPendingSubmits_waitingReports,
      servedOf_append, List.append_assoc]
  | submit o =>
    unfold KeepsOrder beforeReports at h
    unfold step submitOrder
    dsimp only at h ⊢
    by_cases hrefused : e.refuses { o.order with submittedTs := e.currentTs } = true
    · rw [if_pos hrefused]
      exact List.append_nil _
    · rw [if_neg hrefused] at h ⊢
      exact queues_outputs h (drainPendingSubmits_waitingReports _ _ id) rfl
  | cancel exchange symbol orderId =>
    show waitingReports id _ ++ [] = [] ++ waitingReports id (e.cancelOrder _ _ _).1.pendingFills
    rw [cancelOrder_pendingFills, List.append_nil, List.nil_append]

/-- **The run lemma.** -/
theorem run_queues {e : MatchingEngine} {es : List EngineEvent} (h : AlongRun step KeepsOrder e es)
    (id : Nat) : e.Queues id (exec step e es, outputs step e es) := by
  induction es generalizing e with
  | nil => exact List.append_nil _
  | cons ev es ih =>
    have hone : waitingReports id e.pendingFills ++ fillsOf id (e.step ev).2 =
        deliveredOf id (e.step ev).2 ++ waitingReports id (e.step ev).1.pendingFills :=
      step_queues h.1 id
    have hrest : waitingReports id (e.step ev).1.pendingFills ++
        fillsOf id (outputs step (e.step ev).1 es) =
        deliveredOf id (outputs step (e.step ev).1 es) ++
          waitingReports id (exec step (e.step ev).1 es).pendingFills := ih h.2
    show waitingReports id e.pendingFills ++ fillsOf id (_ ++ outputs step (e.step ev).1 es) =
      deliveredOf id (_ ++ outputs step (e.step ev).1 es) ++
        waitingReports id (exec step (e.step ev).1 es).pendingFills
    rw [fillsOf_append, deliveredOf_append, ← List.append_assoc, hone, List.append_assoc, hrest,
      List.append_assoc]

/-! ## The reports of an order -/

/-- The fills of an order are handed over as they were matched, and a full one comes last. -/
structure DeliveredRight (id : Nat) (outs : List EngineOutput) : Prop where
  as_matched : deliveredOf id outs <+: fillsOf id outs
  cumulative : (deliveredOf id outs).Pairwise fun a b => a.cumulativeFillQty ≤ b.cumulativeFillQty
  full_last : (deliveredOf id outs).Pairwise fun a _ => a.isFullyFilled = false

/-- The matched fills of an order grow, and a full one is the last. -/
theorem fillsOf_course (latency : Nat → Nat) {es : List EngineEvent}
    (hdistinct : (submittedIds es).Nodup) (id : Nat) :
    (fillsOf id (outputs step (start latency) es)).Pairwise fun a b =>
      a.cumulativeFillQty < b.cumulativeFillQty ∧ a.isFullyFilled = false := by
  by_cases hin : id ∈ submittedIds es
  · obtain ⟨ev, hev, hid⟩ := List.mem_filterMap.mp hin
    cases ev with
    | submit o =>
      cases hid
      obtain ⟨early, late, rfl⟩ := List.append_of_mem hev
      obtain ⟨submittedTs, ⟨cur, -, hcourse⟩ | ⟨hcourse, -⟩⟩ :=
        tracks_of_submit latency hdistinct
      · exact (increasing_of_course hcourse).1.and (filledRight_of_course hcourse).1.closed
      · exact (increasing_of_course hcourse).1.and (filledRight_of_course hcourse).1.closed
    | market event => cases hid
    | cancel exchange symbol orderId => cases hid
  · rw [(fillsOf_of_notMem (start_inStep latency) (alongRun_fresh_start latency hdistinct)
      (Multiset.notMem_zero id) hin).1]
    exact .nil

/-- **When the reports keep their order.** Take any run of the engine, under any latency. If no
fill is scheduled to be reported before an earlier one of its order that still waits, the reports
of every order are handed over as its fills were matched, their cumulative quantities never go
down, and the report of a full fill is the last. -/
theorem delivered_in_order (latency : Nat → Nat) (es : List EngineEvent)
    (hdistinct : (submittedIds es).Nodup) (hkeeps : AlongRun step KeepsOrder (start latency) es)
    (id : Nat) : DeliveredRight id (outputs step (start latency) es) := by
  have hqueues : [] ++ fillsOf id (outputs step (start latency) es) =
      deliveredOf id (outputs step (start latency) es) ++ _ := run_queues hkeeps id
  rw [List.nil_append] at hqueues
  have hprefix : deliveredOf id (outputs step (start latency) es) <+:
      fillsOf id (outputs step (start latency) es) := ⟨_, hqueues.symm⟩
  have hcourse := (fillsOf_course latency hdistinct id).sublist hprefix.sublist
  exact ⟨ hprefix, hcourse.imp fun h => h.1.le, hcourse.imp fun h => h.2⟩

/-! A buy of 2 rests, and two prints of 1 fill it. The report of the first takes 10 nanoseconds,
that of the second none. -/

namespace ClosingFillOvertakes

def overtaking (n : Nat) : Nat := if n = 1 then 10 else 0

/-- As it is when both reports take 10. -/
def steady (n : Nat) : Nat := if n = 0 then 0 else 10

def print (timestampNs : Nat) (price : ℚ) : MarketEvent :=
  .trade
    { timestampNs := timestampNs, price := price, quantity := 1, side := .SELL, exchange := "OKX"
      symbol := "BTC" }

def events : List EngineEvent :=
  [.market HalfEaten.book, .submit HalfEaten.buy, .market (print 2 100), .market (print 3 100),
    .market (print 20 50)]

end ClosingFillOvertakes

open ClosingFillOvertakes in
theorem delivered_in_order_steady :
    (deliveredOf 1 (outputs step (start steady) events)).map FillReport.cumulativeFillQty =
        [1, 2] ∧
      DeliveredRight 1 (outputs step (start steady) events) :=
  ⟨by decide +kernel, delivered_in_order _ events (by decide) (by decide +kernel) 1⟩

open ClosingFillOvertakes in
theorem not_delivered_in_order :
    ¬ ∀ latency es, (submittedIds es).Nodup → ∀ id,
      DeliveredRight id (outputs step (start latency) es) := by
  intro h
  have hright := h overtaking events (by decide) 1
  -- the closing fill, of cumulative 2, comes before the one of cumulative 1
  have hdelivered : (deliveredOf 1 (outputs step (start overtaking) events)).map
      FillReport.cumulativeFillQty = [2, 1] := by decide +kernel
  have hsorted := hright.cumulative.map FillReport.cumulativeFillQty fun _ _ hle => hle
  rw [hdelivered] at hsorted
  exact absurd hsorted (by decide +kernel)

end MatchingEngine

end BptCore.Backtester
