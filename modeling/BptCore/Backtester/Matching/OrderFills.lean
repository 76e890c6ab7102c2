import BptCore.Backtester.Matching.EngineRun

/-!
# The fills of one order

An order may be filled on its arrival, by the backstop, or by the prints that reach its slot, and
whatever is left of it can be cancelled. Its fills follow one course all the same.

* **`FilledRight`** — the fills of an order: their quantities add up, within the order's own, at
  prices that respect its limit, and a full fill is the last.
* **`orders_filled_right`** — so it is for every order of every run, and nothing is matched for an
  order after it was cancelled.
* **`not_orders_filled_right_exact`** — an order that takes liquidity may be matched beyond its
  limit, by less than the price tolerance.
-/

namespace BptCore.Backtester

open Machine OpenItems

/-- The fills of an order, in order. The slack is what a price may be beyond the limit. -/
structure FilledRight (slack : FillReport → ℚ) (o : Submission) (fills : List FillReport) :
    Prop where
  cumulative : ∀ before fr, before ++ [fr] <+: fills →
    fr.cumulativeFillQty = o.filledQty + ((before ++ [fr]).map FillReport.lastFillQty).sum
  bounded : ∀ fr ∈ fills, fr.cumulativeFillQty ≤ o.quantity
  full : ∀ fr ∈ fills, fr.isFullyFilled = decide (o.quantity - fr.cumulativeFillQty ≤ kQtyTol)
  price : o.type ≠ .MARKET → ∀ fr ∈ fills, Respects o.side o.price fr.lastFillPrice (slack fr)
  closed : fills.Pairwise fun fr _ => fr.isFullyFilled = false

/-- The order as it is held with the fills it has got. -/
def Submission.filledBy (o : Submission) (submittedTs : Nat) (fills : List FillReport) :
    OpenOrder :=
  { o.order with
    submittedTs := submittedTs
    filledQty := o.filledQty + (fills.map FillReport.lastFillQty).sum }

theorem Submission.filledBy_nil (o : Submission) (submittedTs : Nat) :
    o.filledBy submittedTs [] = { o.order with submittedTs := submittedTs } := by
  rw [filledBy, List.map_nil, List.sum_nil, add_zero]
  rfl

variable {o : Submission} {submittedTs : Nat} {fills : List FillReport} {fr : FillReport}

theorem sum_lastFillQty_append (fills : List FillReport) (fr : FillReport) :
    ((fills ++ [fr]).map FillReport.lastFillQty).sum =
      (fills.map FillReport.lastFillQty).sum + fr.lastFillQty := by
  rw [List.map_append, List.sum_append]
  simp

theorem cumulative_of_fits (hfits : FitsOrder (o.filledBy submittedTs fills) fr) :
    fr.cumulativeFillQty =
      o.filledQty + ((fills ++ [fr]).map FillReport.lastFillQty).sum := by
  rw [hfits.cumulative, sum_lastFillQty_append, ← add_assoc]
  rfl

theorem FilledRight.nil (slack : FillReport → ℚ) (o : Submission) : FilledRight slack o [] where
  cumulative _ _ h :=
    absurd (List.prefix_nil.mp h) (List.append_ne_nil_of_right_ne_nil _ (List.cons_ne_nil _ _))
  bounded _ h := nomatch h
  full _ h := nomatch h
  price _ _ h := nomatch h
  closed := .nil

/-- One more fill, while no full one has come. -/
theorem FilledRight.snoc (h : FilledRight FillReport.slack o fills)
    (hopen : ∀ fr ∈ fills, fr.isFullyFilled = false)
    (hfits : FitsOrder (o.filledBy submittedTs fills) fr) :
    FilledRight FillReport.slack o (fills ++ [fr]) where
  cumulative before fr' hprefix := by
    rcases List.prefix_concat_iff.mp hprefix with heq | hprefix
    · obtain ⟨rfl, rfl⟩ := List.append_inj' heq rfl |>.imp id List.singleton_inj.mp
      exact cumulative_of_fits hfits
    · exact h.cumulative before fr' hprefix
  bounded fr' hmem := by
    rcases List.mem_append.mp hmem with hmem | hmem
    · exact h.bounded fr' hmem
    · exact List.mem_singleton.mp hmem ▸ hfits.bounded
  full fr' hmem := by
    rcases List.mem_append.mp hmem with hmem | hmem
    · exact h.full fr' hmem
    · exact List.mem_singleton.mp hmem ▸ hfits.full
  price htype fr' hmem := by
    rcases List.mem_append.mp hmem with hmem | hmem
    · exact h.price htype fr' hmem
    · exact List.mem_singleton.mp hmem ▸ hfits.price htype
  closed := List.pairwise_append.mpr
    ⟨h.closed, List.pairwise_singleton _ _, fun fr' hmem _ _ => hopen fr' hmem⟩

/-- **The course of an order.** Its fills are right, and while it is open it is filled as far as
they add up. -/
theorem filledRight_of_course {st : Option OpenOrder}
    (h : Course orderService (o.filledBy submittedTs []) fills st) :
    FilledRight FillReport.slack o fills ∧ ∀ cur ∈ st, cur = o.filledBy submittedTs fills ∧
      ∀ fr ∈ fills, fr.isFullyFilled = false := by
  induction h with
  | opened =>
    refine ⟨.nil _ o, fun cur hcur => ?_⟩
    cases hcur
    exact ⟨rfl, fun _ h => nomatch h⟩
  | @serve fs cur f _ hfits hopen ih =>
    obtain ⟨hright, hcur⟩ := ih
    obtain ⟨rfl, hnone⟩ := hcur cur rfl
    refine ⟨hright.snoc hnone hfits, fun cur' hcur' => ?_⟩
    cases hcur'
    refine ⟨?_, fun fr hmem => ?_⟩
    · show ({ o.filledBy submittedTs fs with filledQty := f.cumulativeFillQty } : OpenOrder) = _
      rw [cumulative_of_fits hfits]
      rfl
    · rcases List.mem_append.mp hmem with hmem | hmem
      · exact hnone fr hmem
      · exact List.mem_singleton.mp hmem ▸ hopen
  | @close fs cur f _ hfits _ ih =>
    obtain ⟨hright, hcur⟩ := ih
    obtain ⟨rfl, hnone⟩ := hcur cur rfl
    exact ⟨hright.snoc hnone hfits, fun _ h => nomatch h⟩
  | leave _ ih => exact ⟨ih.1, fun _ h => nomatch h⟩

/-- The fills of an order are reported with cumulative quantities that grow. -/
theorem increasing_of_course {o : OpenOrder} {st : Option OpenOrder}
    (h : Course orderService o fills st) :
    (fills.Pairwise fun a b => a.cumulativeFillQty < b.cumulativeFillQty) ∧
      ∀ cur ∈ st, (∀ fr ∈ fills, fr.cumulativeFillQty ≤ cur.filledQty) ∧
        (fills ≠ [] → 0 < cur.openQty) := by
  -- a fill of an order that has one already, and so is open, adds to it
  have hsnoc : ∀ {fs : List FillReport} {cur : OpenOrder} {f : FillReport},
      (fs.Pairwise fun a b => a.cumulativeFillQty < b.cumulativeFillQty) →
      (∀ fr ∈ fs, fr.cumulativeFillQty ≤ cur.filledQty) → FitsOrder cur f →
      (fs ≠ [] → 0 < f.lastFillQty) →
      (fs ++ [f]).Pairwise fun a b => a.cumulativeFillQty < b.cumulativeFillQty := by
    intro fs cur f hfs hle hfits hpos
    refine List.pairwise_append.mpr ⟨hfs, List.pairwise_singleton _ _, fun fr hfr f' hf' => ?_⟩
    obtain rfl := List.mem_singleton.mp hf'
    have hlt := hpos (List.ne_nil_of_mem hfr)
    have hbefore := hle fr hfr
    rw [hfits.cumulative]
    linarith
  induction h with
  | opened =>
    exact ⟨.nil, fun cur _ => ⟨fun _ h => absurd h List.not_mem_nil, fun h => absurd rfl h⟩⟩
  | @serve fs cur f _ hfits hopen ih =>
    obtain ⟨hfs, hcur⟩ := ih
    have hle := (hcur cur rfl).1
    have hpos := hfits.lastFillQty_pos (Or.inl hopen)
    refine ⟨hsnoc hfs hle hfits fun _ => hpos, fun cur' hcur' => ?_⟩
    cases hcur'
    refine ⟨fun fr hfr => ?_, fun _ => kQtyTol_pos.trans (hfits.openQty_fill hopen)⟩
    show fr.cumulativeFillQty ≤ f.cumulativeFillQty
    rcases List.mem_append.mp hfr with hfr | hfr
    · have hbefore := hle fr hfr
      rw [hfits.cumulative]
      linarith
    · exact le_of_eq (congrArg _ (List.mem_singleton.mp hfr))
  | @close fs cur f _ hfits _ ih =>
    obtain ⟨hfs, hcur⟩ := ih
    obtain ⟨hle, hopen⟩ := hcur cur rfl
    exact ⟨hsnoc hfs hle hfits fun hne => hfits.lastFillQty_pos (Or.inr (hopen hne)),
      fun _ h => nomatch h⟩
  | leave _ ih => exact ⟨ih.1, fun _ h => nomatch h⟩

namespace MatchingEngine

/-- The fills of one order, of what a run puts out. -/
def fillsOf (id : Nat) (outs : List EngineOutput) : List FillReport :=
  servedOf orderService id (matchedFills outs)

variable {e : MatchingEngine} {es : List EngineEvent}

/-- An id that is not held and does not come in is not filled. -/
theorem fillsOf_of_notMem (h : e.InStep) (hfresh : AlongRun step Fresh e es) {id : Nat}
    (hheld : id ∉ keys orderService e.held) (hes : id ∉ submittedIds es) :
    fillsOf id (outputs step e es) = [] ∧ id ∉ keys orderService (exec step e es).held := by
  induction es generalizing e with
  | nil => exact ⟨rfl, hheld⟩
  | cons ev es ih =>
    rw [← List.singleton_append, submittedIds_append, List.mem_append, not_or] at hes
    obtain ⟨hstep, hmoves⟩ := step_inStep h hfresh.1
    have hin : id ∉ keys orderService (e.incoming ev + e.held) := by
      rw [keys_incoming, Multiset.mem_add, not_or]
      exact ⟨hes.1, hheld⟩
    have hnext : id ∉ keys orderService (e.step ev).1.held := fun hheld =>
      hin (Multiset.mem_of_le hmoves.keys_le hheld)
    have hrest := ih hstep hfresh.2 hnext hes.2
    refine ⟨?_, hrest.2⟩
    rw [fillsOf, outputs, matchedFills_append, servedOf_append, hmoves.servedOf_eq_nil hin]
    exact hrest.1

/-- An order that came in stays on its course. -/
theorem tracks_run (h : e.InStep) (hfresh : AlongRun step Fresh e es) {o : OpenOrder}
    {hist : List FillReport} (htracks : Tracks orderService o hist e.held)
    (hes : o.orderId ∉ submittedIds es) :
    Tracks orderService o (hist ++ matchedFills (outputs step e es)) (exec step e es).held := by
  induction es generalizing e hist with
  | nil => rwa [outputs, matchedFills, List.filterMap_nil, List.append_nil]
  | cons ev es ih =>
    rw [← List.singleton_append, submittedIds_append, List.mem_append, not_or] at hes
    obtain ⟨hstep, hmoves⟩ := step_inStep h hfresh.1
    have hin : Tracks orderService o hist (e.incoming ev + e.held) := by
      cases ev with
      | submit o' =>
        rw [incoming, Multiset.singleton_add]
        exact htracks.cons fun heq => hes.1 (List.mem_singleton.mpr heq.symm)
      | market event => rwa [incoming, zero_add]
      | cancel exchange symbol orderId => rwa [incoming, zero_add]
    have hnext := ih hstep hfresh.2 (hmoves.tracks (incoming_nodup h hfresh.1) hin) hes.2
    rwa [outputs, matchedFills_append, ← List.append_assoc]

/-- A run around the submit of an order: the order is new to it, and its id does not come again. -/
theorem tracks_of_submit (latency : Nat → Nat) {es es' : List EngineEvent} {o : Submission}
    (hdistinct : (submittedIds (es ++ .submit o :: es')).Nodup) :
    ∃ submittedTs, Tracks orderService (o.filledBy submittedTs [])
      (matchedFills (outputs step (start latency) (es ++ .submit o :: es')))
      (exec step (start latency) (es ++ .submit o :: es')).held := by
  have hfresh := alongRun_fresh_start latency hdistinct
  rw [alongRun_append] at hfresh
  have hids := hdistinct
  rw [submittedIds_append, List.nodup_append] at hids
  obtain ⟨-, hlater, hdisjoint⟩ := hids
  let before := exec step (start latency) es
  have hbefore : before.InStep :=
    (allStates_inStep (start_inStep latency) hfresh.1).final
  -- before it comes in, nothing is held or matched under its id
  obtain ⟨hnone, hnew⟩ := fillsOf_of_notMem (start_inStep latency) hfresh.1
    (Multiset.notMem_zero o.orderId)
    (fun hin => hdisjoint _ hin _ List.mem_cons_self rfl)
  obtain ⟨hstep, hmoves⟩ := step_inStep hbefore hfresh.2.1
  let o₀ := o.filledBy before.currentTs []
  have hcomes : before.incoming (.submit o) = {o₀} := by
    rw [show o₀ = _ from o.filledBy_nil before.currentTs]
    rfl
  have hstart : Tracks orderService o₀ (matchedFills (outputs step (start latency) es))
      (before.incoming (.submit o) + before.held) := by
    refine Or.inl ⟨o₀, ?_, ?_⟩
    · rw [hcomes]
      exact Multiset.mem_add.mpr (Or.inl (Multiset.mem_singleton_self _))
    · rw [show servedOf orderService (orderService.key o₀) _ = [] from hnone]
      exact .opened
  refine ⟨before.currentTs, ?_⟩
  have hcame := hmoves.tracks (incoming_nodup hbefore hfresh.2.1) hstart
  have hrun := tracks_run hstep hfresh.2.2 hcame (List.nodup_cons.mp hlater).1
  rw [outputs_append, exec_append, matchedFills_append, outputs, matchedFills_append,
    ← List.append_assoc]
  exact hrun

/-- What is claimed of an order over a run. -/
structure OrderRight (slack : FillReport → ℚ) (latency : Nat → Nat) (es : List EngineEvent)
    (o : Submission) : Prop where
  fills : FilledRight slack o (fillsOf o.orderId (outputs step (start latency) es))
  held : ∀ cur ∈ (exec step (start latency) es).held, cur.orderId = o.orderId →
    cur.filledQty = o.filledQty +
      ((fillsOf o.orderId (outputs step (start latency) es)).map FillReport.lastFillQty).sum
  cancelled : ∀ before exchange symbol after,
    es = before ++ .cancel exchange symbol o.orderId :: after →
    ((exec step (start latency) before).cancelOrder exchange symbol o.orderId).2 = true →
    fillsOf o.orderId (outputs step
      ((exec step (start latency) before).cancelOrder exchange symbol o.orderId).1 after) = []

section Run

variable (latency : Nat → Nat) (hdistinct : (submittedIds es).Nodup)
include hdistinct

theorem filledRight_run {o : Submission} (ho : .submit o ∈ es) :
    FilledRight FillReport.slack o (fillsOf o.orderId (outputs step (start latency) es)) := by
  obtain ⟨early, late, rfl⟩ := List.append_of_mem ho
  obtain ⟨submittedTs, ⟨cur, -, hcourse⟩ | ⟨hcourse, -⟩⟩ := tracks_of_submit latency hdistinct
  · exact (filledRight_of_course hcourse).1
  · exact (filledRight_of_course hcourse).1

/-- An order that is held is filled as far as its fills add up. -/
theorem held_filledQty {o : Submission} (ho : .submit o ∈ es) {cur : OpenOrder}
    (hcur : cur ∈ (exec step (start latency) es).held) (hid : cur.orderId = o.orderId) :
    cur.filledQty = o.filledQty +
      ((fillsOf o.orderId (outputs step (start latency) es)).map FillReport.lastFillQty).sum := by
  have hstates := allStates_inStep (start_inStep latency) (alongRun_fresh_start latency hdistinct)
  obtain ⟨early, late, rfl⟩ := List.append_of_mem ho
  obtain ⟨submittedTs, ⟨cur', hcur', hcourse⟩ | ⟨-, hnot⟩⟩ := tracks_of_submit latency hdistinct
  · have hsame : cur = cur' := Multiset.inj_on_of_nodup_map hstates.final.keys_nodup _ hcur _ hcur'
      (hid.trans hcourse.key_eq.symm)
    rw [hsame, ((filledRight_of_course hcourse).2 cur' rfl).1]
    rfl
  · refine absurd ?_ hnot
    have hmem := Multiset.mem_map_of_mem orderService.key hcur
    rwa [show orderService.key cur = o.orderId from hid] at hmem

/-- An order that was cancelled is not matched any more. -/
theorem fillsOf_cancelled {before after : List EngineEvent} {exchange symbol : String} {id : Nat}
    (hes : es = before ++ .cancel exchange symbol id :: after)
    (hok : ((exec step (start latency) before).cancelOrder exchange symbol id).2 = true) :
    fillsOf id (outputs step
      ((exec step (start latency) before).cancelOrder exchange symbol id).1 after) = [] := by
  have hall := alongRun_fresh_start latency hdistinct
  rw [hes] at hall hdistinct
  rw [alongRun_append] at hall
  obtain ⟨hbefore, -, hafter⟩ := hall
  have hstep := (allStates_inStep (start_inStep latency) hbefore).final
  obtain ⟨hnext, hcases⟩ := cancelOrder_spec hstep exchange symbol id
  obtain ⟨-, cur, hid, hheld⟩ | ⟨hno, -⟩ := hcases
  · have hkeys : (keys orderService (exec step (start latency) before).held).Nodup :=
      hstep.keys_nodup
    have hin : id ∈ keys orderService (exec step (start latency) before).held := by
      rw [hheld, keys_cons]
      exact Multiset.mem_cons.mpr (Or.inl hid.symm)
    rw [hheld] at hkeys
    have hgone := key_notMem hkeys
    rw [show orderService.key cur = id from hid] at hgone
    -- held before the cancel, the order came in before it, and does not come in again
    have hnot : id ∉ submittedIds after := by
      intro hagain
      rw [submittedIds_append, List.nodup_append] at hdistinct
      have hnever : id ∉ submittedIds before := fun hbefore =>
        hdistinct.2.2 _ hbefore _ hagain rfl
      exact (fillsOf_of_notMem (start_inStep latency) hbefore (Multiset.notMem_zero _)
        hnever).2 hin
    exact (fillsOf_of_notMem hnext hafter hgone hnot).1
  · rw [hno] at hok
    cases hok

end Run

/-- **Fills, cumulative quantities and cancels.** Orders are filled right, whatever happens to the
engine, under any latency. -/
theorem orders_filled_right (latency : Nat → Nat) (es : List EngineEvent)
    (hdistinct : (submittedIds es).Nodup) {o : Submission} (ho : .submit o ∈ es) :
    OrderRight FillReport.slack latency es o where
  fills := filledRight_run latency hdistinct ho
  held _ hcur hid := held_filledQty latency hdistinct ho hcur hid
  cancelled _ _ _ _ hes hok := fillsOf_cancelled latency hdistinct hes hok

/-! A buy at 100 meets an ask above 100, within the price tolerance. -/

namespace BeyondLimit

def book : MarketEvent :=
  .orderBook
    { timestampNs := 1, exchange := "OKX", symbol := "BTC"
      bidPx := ![98, 0, 0, 0, 0], bidSz := ![1, 0, 0, 0, 0]
      askPx := ![100 + 1 / 2000000000, 0, 0, 0, 0], askSz := ![1, 0, 0, 0, 0] }

def buy : Submission := { HalfEaten.buy with quantity := 1 }

def events : List EngineEvent := [.market book, .submit buy]

end BeyondLimit

open BeyondLimit in
theorem orders_filled_right_beyondLimit :
    (fillsOf 1 (outputs step (start fun _ => 0) events)).map FillReport.lastFillQty = [1] ∧
      OrderRight FillReport.slack (fun _ => 0) events buy :=
  ⟨by decide +kernel, orders_filled_right _ events (by decide) (by simp [events])⟩

open BeyondLimit in
theorem not_orders_filled_right_exact :
    ¬ ∀ latency es, (submittedIds es).Nodup → ∀ o : Submission, .submit o ∈ es →
      OrderRight (fun _ => 0) latency es o := by
  intro h
  have hright := h (fun _ => 0) events (by decide) buy (by simp [events])
  have hprices := hright.fills.price (by decide)
  -- the one fill is above the limit
  have hbeyond : ∃ fr ∈ fillsOf 1 (outputs step (start fun _ => 0) events),
      100 < fr.lastFillPrice := by decide +kernel
  obtain ⟨fr, hfr, hprice⟩ := hbeyond
  have hrespects : fr.lastFillPrice ≤ 100 + 0 := hprices fr hfr
  linarith

end MatchingEngine

end BptCore.Backtester
