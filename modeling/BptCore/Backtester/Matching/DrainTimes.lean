import BptCore.Backtester.Matching.DeliveryOrder
import BptCore.Lib.DueQueue

/-!
# When the engine acts

The clock of the engine is moved by market events, and by the submits that fall due before one.
This module says of each part of an event what it does to the clock and to the two queues, and at
what time the fills are matched that come of it.

* **`Acts`** — what matching an order, or applying an event, can do: one lemma for each.
* **`matchTimes`**, **`matchDue_eq`** — the submits that a drain matches, with the clock at each
  match.
* **`scheduleFills_draws`** — the delays that are drawn for fills.
* **`drainPendingSubmits_spec`**, **`drainPendingFills_eq`** — the two drains.
-/

namespace BptCore.Backtester

/-! ## Who rests -/

/-- The orders that rest, in any book, have these ids. -/
def RestingIds (ids : Nat → Prop) (pending : Table String (List OpenOrder)) : Prop :=
  ∀ bk, ∀ o ∈ restingIn pending bk, ids o.orderId

theorem RestingIds.imp {ids ids' : Nat → Prop} {pending : Table String (List OpenOrder)}
    (h : RestingIds ids pending) (hids : ∀ id, ids id → ids' id) : RestingIds ids' pending :=
  fun bk o ho => hids o.orderId (h bk o ho)

theorem RestingIds.insert {ids : Nat → Prop} {pending : Table String (List OpenOrder)}
    (h : RestingIds ids pending) (bk : String) {orders : List OpenOrder}
    (horders : ∀ o ∈ orders, ids o.orderId) : RestingIds ids (pending.insert bk orders) := by
  intro bk' o ho
  rw [restingIn, Table.lookup_insert_eq] at ho
  split at ho
  · exact horders o ho
  · exact h bk' o ho

/-- An order comes to rest behind those of its book. -/
theorem RestingIds.push {ids : Nat → Prop} {pending : Table String (List OpenOrder)}
    (h : RestingIds ids pending) (bk : String) {o : OpenOrder} (ho : ids o.orderId) :
    RestingIds ids (pending.insert bk ((pending.lookup bk).getD [] ++ [o])) := by
  refine h.insert bk fun o' ho' => ?_
  rcases List.mem_append.mp ho' with hold | hnew
  · exact h bk o' hold
  · rwa [List.mem_singleton.mp hnew]

namespace MatchingEngine

/-- What matching at `ts` can do to the engine: orders of these ids are left resting. What waits,
and the draws, are left alone. -/
structure Acts (ids : Nat → Prop) (ts : Nat) (e e' : MatchingEngine) : Prop where
  submits : e'.pendingSubmits = e.pendingSubmits
  fills : e'.pendingFills = e.pendingFills
  latency : e'.latency = e.latency
  drawn : e'.drawn = e.drawn
  clock : e'.currentTs = ts
  resting : RestingIds ids e'.pending

/-! ## Matching an order -/

/-- The fills of a walk are the order's, at the time of the walk. -/
theorem walkLevels_fills {priceLimit : Option ℚ} {reportType : MatchType} {currentTs : Nat}
    {order : OpenOrder} {remaining : ℚ} {levels : List (ℚ × ℚ)} {fr : FillReport}
    (h : fr ∈ (walkLevels priceLimit reportType currentTs order remaining levels).2) :
    fr.orderId = order.orderId ∧ fr.simulationTs = currentTs := by
  induction levels generalizing order remaining with
  | nil => cases h
  | cons level levels ih =>
    unfold walkLevels at h
    split at h
    · cases h
    · split at h
      · cases h
      · split at h
        · cases h
        · -- the fill at this level, or one at a later level
          rcases List.mem_cons.mp h with rfl | hlater
          · exact ⟨rfl, rfl⟩
          · have hrest := ih hlater
            exact hrest

variable {e : MatchingEngine} {ids : Nat → Prop}

/-- **Matching an order** fills it, at the time of the clock. -/
theorem processPendingSubmit_acts (h : RestingIds ids e.pending) {order : OpenOrder}
    (hid : ids order.orderId) :
    Acts ids e.currentTs e (e.processPendingSubmit order).1 ∧
      ∀ fr ∈ (e.processPendingSubmit order).2,
        fr.orderId = order.orderId ∧ fr.simulationTs = e.currentTs := by
  have hsame : Acts ids e.currentTs e e := ⟨rfl, rfl, rfl, rfl, rfl, h⟩
  unfold processPendingSubmit
  dsimp only
  split
  · -- without a book a market order is dropped, another one waits for the book
    split
    · exact ⟨hsame, fun fr hfr => absurd hfr List.not_mem_nil⟩
    · exact ⟨⟨rfl, rfl, rfl, rfl, rfl, h.push _ hid⟩, fun fr hfr => absurd hfr List.not_mem_nil⟩
  · next book hbook =>
    split
    · exact ⟨hsame, fun fr hfr => walkLevels_fills hfr⟩
    · -- what the walk leaves of a limit order rests under the order's id
      let matched := if crosses order book ∧ order.type = .LIMIT then
        fillBookUntil order book (some order.price) .LIMIT e.currentTs else (order, [])
      have hmatched : matched.1.orderId = order.orderId ∧
          ∀ fr ∈ matched.2, fr.orderId = order.orderId ∧ fr.simulationTs = e.currentTs := by
        by_cases hcross : crosses order book = true ∧ order.type = .LIMIT
        · rw [show matched = fillBookUntil order book (some order.price) .LIMIT e.currentTs from
            if_pos hcross]
          obtain ⟨filledQty, horder⟩ := walkLevels_order (some order.price) .LIMIT e.currentTs order
            (order.quantity - order.filledQty) (book.levels (opposite order.side))
          have hid := congrArg OpenOrder.orderId horder
          exact ⟨hid, fun fr hfr => walkLevels_fills hfr⟩
        · rw [show matched = (order, []) from if_neg hcross]
          exact ⟨rfl, fun fr hfr => absurd hfr List.not_mem_nil⟩
      let out := if matched.1.filledQty < matched.1.quantity - kQtyTol then
        (e.rest matched.1 book, matched.2) else (e, matched.2)
      show Acts ids e.currentTs e out.1 ∧ ∀ fr ∈ out.2, _
      unfold out
      split
      · refine ⟨⟨rfl, rfl, rfl, rfl, rfl, h.push _ ?_⟩, hmatched.2⟩
        rwa [show ({ matched.1 with queueSeeded := true } : OpenOrder).orderId = order.orderId from
          hmatched.1]
      · exact ⟨hsame, hmatched.2⟩

/-! ## Applying an event -/

theorem fillRestingOrder_ids (id : Nat) (take : ℚ) (currentTs : Nat) (orders : List OpenOrder) :
    let out := fillRestingOrder id take currentTs orders
    out.1.map OpenOrder.orderId = orders.map OpenOrder.orderId ∧
      ∀ fr ∈ out.2, fr.orderId ∈ orders.map OpenOrder.orderId ∧ fr.simulationTs = currentTs := by
  induction orders with
  | nil => exact ⟨rfl, fun fr hfr => absurd hfr (Option.not_mem_none fr)⟩
  | cons order orders ih =>
    unfold fillRestingOrder
    dsimp only
    split
    · obtain ⟨hids, hfills⟩ := ih
      refine ⟨by rw [List.map_cons, hids, List.map_cons], fun fr hfr => ?_⟩
      exact ⟨List.mem_cons_of_mem _ (hfills fr hfr).1, (hfills fr hfr).2⟩
    · refine ⟨rfl, fun fr hfr => ?_⟩
      cases hfr
      exact ⟨List.mem_cons_self, rfl⟩

/-- A print fills resting orders, and changes none of their ids. -/
theorem consumeSlots_ids (currentTs : Nat) (remainingPrint : ℚ) (slots : List Slot)
    (orders : List OpenOrder) :
    let out := consumeSlots currentTs remainingPrint slots orders
    out.2.1.map OpenOrder.orderId = orders.map OpenOrder.orderId ∧
      ∀ fr ∈ out.2.2, fr.orderId ∈ orders.map OpenOrder.orderId ∧ fr.simulationTs = currentTs := by
  induction slots generalizing remainingPrint orders with
  | nil => exact ⟨rfl, fun fr hfr => absurd hfr List.not_mem_nil⟩
  | cons slot slots ih =>
    unfold consumeSlots
    split
    · exact ⟨rfl, fun fr hfr => absurd hfr List.not_mem_nil⟩
    · let take := min remainingPrint slot.qty
      let filled := if slot.isOurs then fillRestingOrder slot.ourOrderId take currentTs orders
        else (orders, none)
      have hfilled : filled.1.map OpenOrder.orderId = orders.map OpenOrder.orderId ∧
          ∀ fr ∈ filled.2, fr.orderId ∈ orders.map OpenOrder.orderId ∧
            fr.simulationTs = currentTs := by
        unfold filled
        split
        · exact fillRestingOrder_ids slot.ourOrderId take currentTs orders
        · exact ⟨rfl, fun fr hfr => absurd hfr (Option.not_mem_none fr)⟩
      dsimp only
      split
      · obtain ⟨hids, hfills⟩ := ih (remainingPrint - take) filled.1
        refine ⟨hids.trans hfilled.1, fun fr hfr => ?_⟩
        rcases List.mem_append.mp hfr with hhere | hlater
        · exact hfilled.2 fr (Option.mem_toList.mp hhere)
        · rw [← hfilled.1]
          exact hfills fr hlater
      · exact ⟨hfilled.1, fun fr hfr => hfilled.2 fr (Option.mem_toList.mp hfr)⟩

theorem crossingFill_id {book : OrderBookRecord} {currentTs : Nat} {order : OpenOrder}
    {fr : FillReport} (h : crossingFill book currentTs order = some fr) :
    fr.orderId = order.orderId ∧ fr.simulationTs = currentTs := by
  rw [crossingFill_eq] at h
  split at h
  · cases h
  · split at h
    · cases h
    · rw [← Option.some.inj h]
      exact ⟨rfl, rfl⟩

/-- **Applying an event** fills resting orders, at the time of the event. -/
theorem applyEvent_acts (h : RestingIds ids e.pending) (event : MarketEvent) :
    Acts ids event.timestampNs e (e.applyEvent event).1 ∧
      ∀ fr ∈ (e.applyEvent event).2, ids fr.orderId ∧ fr.simulationTs = event.timestampNs := by
  cases event with
  | orderBook ob =>
    unfold applyEvent fillCrossingLimits
    dsimp only
    split
    · next book orders hbook horders =>
      have hrest : ∀ o ∈ orders, ids o.orderId := fun o ho => by
        refine h (key ob.exchange ob.symbol) o ?_
        rwa [restingIn, horders]
      split
      · exact ⟨⟨rfl, rfl, rfl, rfl, rfl, h⟩, fun fr hfr => absurd hfr List.not_mem_nil⟩
      · refine ⟨⟨rfl, rfl, rfl, rfl, rfl,
          h.insert _ fun o ho => hrest o (List.mem_of_mem_filter ho)⟩, fun fr hfr => ?_⟩
        obtain ⟨o, ho, hfill⟩ := List.mem_filterMap.mp hfr
        obtain ⟨hid, hts⟩ := crossingFill_id hfill
        exact ⟨hid ▸ hrest o ho, hts⟩
    · exact ⟨⟨rfl, rfl, rfl, rfl, rfl, h⟩, fun fr hfr => absurd hfr List.not_mem_nil⟩
  | trade t =>
    unfold applyEvent fillAgainstTrade
    dsimp only
    split
    · exact ⟨⟨rfl, rfl, rfl, rfl, rfl, h⟩, fun fr hfr => absurd hfr List.not_mem_nil⟩
    · exact ⟨⟨rfl, rfl, rfl, rfl, rfl, h⟩, fun fr hfr => absurd hfr List.not_mem_nil⟩
    · next q hnonempty hqueue =>
      let bk := key t.exchange t.symbol
      obtain ⟨hids, hfills⟩ := consumeSlots_ids t.timestampNs t.quantity q
        (restingIn e.pending bk)
      have hrest : ∀ id ∈ (restingIn e.pending bk).map OpenOrder.orderId, ids id := fun id hid => by
        obtain ⟨o, ho, rfl⟩ := List.mem_map.mp hid
        exact h bk o ho
      refine ⟨⟨rfl, rfl, rfl, rfl, rfl, ?_⟩, fun fr hfr =>
        ⟨hrest _ (hfills fr hfr).1, (hfills fr hfr).2⟩⟩
      dsimp only
      split
      · -- the orders that the print leaves resting
        refine h.insert bk fun o ho => hrest o.orderId ?_
        rw [← hids]
        exact List.mem_map_of_mem (List.mem_of_mem_filter ho)
      · exact h

/-! ## The submits that are due -/

/-- The submits that the loop over the sorted queue matches, each with the clock at its match. The
loop starts at `clock`. -/
def matchTimes (uptoTs : Nat) : Nat → List PendingSubmit → List (PendingSubmit × Nat)
  | _, [] => []
  | clock, ps :: submits =>
    if ps.scheduledMatchTs > uptoTs then []
    else (ps, max clock ps.scheduledMatchTs) ::
      matchTimes uptoTs (max clock ps.scheduledMatchTs) submits

/-- The matches, one after the other. -/
def matchAll : MatchingEngine → List (PendingSubmit × Nat) → MatchingEngine × List FillReport
  | e, [] => (e, [])
  | e, (ps, ts) :: ms =>
    let (e, fills) := processPendingSubmit { e with currentTs := ts } ps.order
    let out := matchAll e ms
    (out.1, fills ++ out.2)

theorem processPendingSubmit_currentTs (e : MatchingEngine) (order : OpenOrder) :
    (e.processPendingSubmit order).1.currentTs = e.currentTs :=
  have hany : RestingIds (fun _ => True) e.pending := fun _ _ _ => trivial
  (processPendingSubmit_acts hany trivial).1.clock

/-- **The loop makes these matches at these times**, and leaves the other submits. -/
theorem matchDue_eq (uptoTs : Nat) (e : MatchingEngine) (submits : List PendingSubmit) :
    matchDue uptoTs e submits =
      ((matchAll e (matchTimes uptoTs e.currentTs submits)).1,
        submits.dropWhile fun ps => decide (ps.scheduledMatchTs ≤ uptoTs),
        (matchAll e (matchTimes uptoTs e.currentTs submits)).2) := by
  induction submits generalizing e with
  | nil => rfl
  | cons ps submits ih =>
    unfold matchDue matchTimes
    by_cases hlater : ps.scheduledMatchTs > uptoTs
    · rw [if_pos hlater, if_pos hlater, List.dropWhile_cons_of_neg (by simpa using hlater)]
      rfl
    · rw [if_neg hlater, if_neg hlater, List.dropWhile_cons_of_pos (by simpa using hlater)]
      dsimp only
      rw [ih, processPendingSubmit_currentTs]
      rfl

theorem matchTimes_submits (uptoTs clock : Nat) (submits : List PendingSubmit) :
    (matchTimes uptoTs clock submits).map Prod.fst =
      submits.takeWhile fun ps => decide (ps.scheduledMatchTs ≤ uptoTs) := by
  induction submits generalizing clock with
  | nil => rfl
  | cons ps submits ih =>
    unfold matchTimes
    by_cases hlater : ps.scheduledMatchTs > uptoTs
    · rw [if_pos hlater, List.takeWhile_cons_of_neg (by simpa using hlater)]
      rfl
    · rw [if_neg hlater, List.takeWhile_cons_of_pos (by simpa using hlater), List.map_cons, ih]

/-- No submit is matched before it is due, nor after the drain's moment or the clock. -/
theorem matchTimes_bounds {uptoTs clock : Nat} {submits : List PendingSubmit}
    {m : PendingSubmit × Nat} (hm : m ∈ matchTimes uptoTs clock submits) :
    clock ≤ m.2 ∧ m.1.scheduledMatchTs ≤ m.2 ∧ m.2 ≤ max clock uptoTs := by
  induction submits generalizing clock with
  | nil => cases hm
  | cons ps submits ih =>
    unfold matchTimes at hm
    split at hm
    · cases hm
    · rcases List.mem_cons.mp hm with rfl | hm
      · dsimp only
        omega
      · have := ih hm
        omega

theorem matchTimes_pairwise (uptoTs clock : Nat) (submits : List PendingSubmit) :
    ((matchTimes uptoTs clock submits).map Prod.snd).Pairwise (· ≤ ·) := by
  induction submits generalizing clock with
  | nil => exact .nil
  | cons ps submits ih =>
    unfold matchTimes
    split
    · exact .nil
    · refine List.pairwise_cons.mpr ⟨fun ts hts => ?_, ih _⟩
      obtain ⟨m, hm, rfl⟩ := List.mem_map.mp hts
      exact (matchTimes_bounds hm).1

theorem Acts.trans {ts ts' : Nat} {e' e'' : MatchingEngine} (h : Acts ids ts e e')
    (h' : Acts ids ts' e' e'') : Acts ids ts' e e'' where
  submits := h'.submits.trans h.submits
  fills := h'.fills.trans h.fills
  latency := h'.latency.trans h.latency
  drawn := h'.drawn.trans h.drawn
  clock := h'.clock
  resting := h'.resting

/-- **The matches of a drain.** The clock is left at the last one, and each fill is that of one of
them, at its time. -/
theorem matchAll_acts (h : RestingIds ids e.pending) {ms : List (PendingSubmit × Nat)}
    (hms : ∀ m ∈ ms, ids m.1.order.orderId) :
    Acts ids ((ms.map Prod.snd).getLastD e.currentTs) e (matchAll e ms).1 ∧
      ∀ fr ∈ (matchAll e ms).2, ∃ m ∈ ms, m.1.order.orderId = fr.orderId ∧
        m.2 = fr.simulationTs := by
  induction ms generalizing e with
  | nil => exact ⟨⟨rfl, rfl, rfl, rfl, rfl, h⟩, fun fr hfr => absurd hfr List.not_mem_nil⟩
  | cons m ms ih =>
    let atMatch : MatchingEngine := { e with currentTs := m.2 }
    obtain ⟨hone, hown⟩ := processPendingSubmit_acts (show RestingIds ids atMatch.pending from h)
      (hms m List.mem_cons_self)
    obtain ⟨hrest, hfills⟩ := ih hone.resting fun m' hm' => hms m' (List.mem_cons_of_mem m hm')
    have hstart : Acts ids m.2 e atMatch := ⟨rfl, rfl, rfl, rfl, rfl, h⟩
    refine ⟨?_, fun fr hfr => ?_⟩
    · have hall := hstart.trans (hone.trans hrest)
      rw [hone.clock] at hall
      rwa [List.map_cons, List.getLastD_cons]
    · rcases List.mem_append.mp hfr with hhere | hlater
      · obtain ⟨hid, hts⟩ := hown fr hhere
        exact ⟨m, List.mem_cons_self, hid.symm, hts.symm⟩
      · obtain ⟨m', hm', hfill⟩ := hfills fr hlater
        exact ⟨m', List.mem_cons_of_mem m hm', hfill⟩

/-! ## The delays that are drawn -/

/-- Each fill with the match-to-report delay that is drawn for it, from the `n`th draw on. -/
def reportDraws (latency : Nat → Nat) : Nat → List FillReport → List (FillReport × Nat)
  | _, [] => []
  | n, fill :: fills => (fill, latency n) :: reportDraws latency (n + 1) fills

theorem reportDraws_append (latency : Nat → Nat) (n : Nat) (fills fills' : List FillReport) :
    reportDraws latency n (fills ++ fills') =
      reportDraws latency n fills ++ reportDraws latency (n + fills.length) fills' := by
  induction fills generalizing n with
  | nil => rfl
  | cons fill fills ih =>
    rw [List.cons_append, reportDraws, ih, reportDraws, List.cons_append, List.length_cons,
      show n + 1 + fills.length = n + (fills.length + 1) from by omega]

/-- A submit waits out its delay from the moment it is submitted. -/
def scheduledSubmit (x : OpenOrder × Nat) : PendingSubmit where
  order := x.1
  scheduledMatchTs := x.1.submittedTs + x.2

/-- A fill waits out its delay from the moment it is matched. -/
def scheduledFill (x : FillReport × Nat) : PendingFill where
  fill := x.1
  scheduledReportTs := x.1.simulationTs + x.2

theorem scheduleFills_draws (e : MatchingEngine) (fills : List FillReport) :
    e.scheduleFills fills =
      { e with
        pendingFills := e.pendingFills ++ (reportDraws e.latency e.drawn fills).map scheduledFill
        drawn := e.drawn + fills.length } := by
  induction fills generalizing e with
  | nil =>
    rw [reportDraws, List.map_nil, List.append_nil]
    rfl
  | cons fill fills ih =>
    show (e.scheduleFill fill).scheduleFills fills = _
    rw [ih, reportDraws, List.map_cons, List.length_cons]
    unfold scheduleFill draw
    dsimp only
    rw [List.append_assoc, List.singleton_append,
      show e.drawn + 1 + fills.length = e.drawn + (fills.length + 1) from by omega]
    rfl

/-! ## One drain -/

/-- The submits of the engine that a drain up to a moment matches, with the times. -/
def dueMatches (e : MatchingEngine) (uptoTs : Nat) : List (PendingSubmit × Nat) :=
  matchTimes uptoTs e.currentTs (DueQueue.sorted PendingSubmit.scheduledMatchTs e.pendingSubmits)

/-- What a drain of the submits does. -/
structure DrainsSubmits (ids : Nat → Prop) (uptoTs : Nat) (e : MatchingEngine)
    (out : MatchingEngine × List FillReport) : Prop where
  submits : ((e.dueMatches uptoTs).map Prod.fst ++ out.1.pendingSubmits).Perm e.pendingSubmits
  later : ∀ ps ∈ out.1.pendingSubmits, uptoTs < ps.scheduledMatchTs
  fills : out.1.pendingFills =
    e.pendingFills ++ (reportDraws e.latency e.drawn out.2).map scheduledFill
  latency : out.1.latency = e.latency
  drawn : out.1.drawn = e.drawn + out.2.length
  clock : out.1.currentTs = ((e.dueMatches uptoTs).map Prod.snd).getLastD e.currentTs
  resting : RestingIds ids out.1.pending
  matched : ∀ fr ∈ out.2, ∃ m ∈ e.dueMatches uptoTs, m.1.order.orderId = fr.orderId ∧
    m.2 = fr.simulationTs

theorem drainPendingSubmits_spec (h : RestingIds ids e.pending) {uptoTs : Nat}
    (hms : ∀ m ∈ e.dueMatches uptoTs, ids m.1.order.orderId) :
    DrainsSubmits ids uptoTs e (e.drainPendingSubmits uptoTs) := by
  let later := DueQueue.later PendingSubmit.scheduledMatchTs uptoTs e.pendingSubmits
  let all := matchAll e (e.dueMatches uptoTs)
  obtain ⟨hacts, hmatched⟩ := matchAll_acts h hms
  have hout : e.drainPendingSubmits uptoTs =
      (scheduleFills { all.1 with pendingSubmits := later } all.2, all.2) := by
    unfold drainPendingSubmits
    dsimp only
    rw [matchDue_eq]
    rfl
  rw [hout, scheduleFills_draws]
  refine ⟨?_, fun ps hps => DueQueue.lt_of_mem_later hps, ?_, hacts.latency, ?_, hacts.clock,
    hacts.resting, hmatched⟩
  · have hsubmits : (e.dueMatches uptoTs).map Prod.fst =
        DueQueue.due PendingSubmit.scheduledMatchTs uptoTs e.pendingSubmits :=
      matchTimes_submits uptoTs e.currentTs _
    rw [hsubmits]
    exact DueQueue.due_append_later_perm _ _ _
  · show all.1.pendingFills ++ (reportDraws all.1.latency all.1.drawn all.2).map scheduledFill = _
    rw [hacts.fills, hacts.latency, hacts.drawn]
  · show all.1.drawn + all.2.length = _
    rw [hacts.drawn]

/-- The reports that a drain of the fills hands over. -/
def dueReports (e : MatchingEngine) (uptoTs : Nat) : List PendingFill :=
  DueQueue.due PendingFill.scheduledReportTs uptoTs e.pendingFills

/-- **A drain of the fills** hands over those that are due, and leaves the others. -/
theorem drainPendingFills_eq (e : MatchingEngine) (uptoTs : Nat) :
    e.drainPendingFills uptoTs =
      ({ e with
         pendingFills := DueQueue.later PendingFill.scheduledReportTs uptoTs e.pendingFills },
        (e.dueReports uptoTs).map PendingFill.fill) :=
  rfl

end MatchingEngine

end BptCore.Backtester
