import BptCore.Backtester.Harness.LiveOrders
import BptCore.Backtester.Harness.ModifiedOrders

/-!
# What remains of an order

Every report says what remains of its order: its quantity less what was filled so far. The report of
a fill is made with the quantity of the fill in place of that of the order, and says 0. That is
right when the fill is the last one.

* **`RemainsRight`** — what the reports of a step should say.
* **`NoPartial`** — the step hands over no fill that leaves its order open.
* **`Remains`** — the invariant: an order that is closed is not held, and one that is held has not
  been filled.
* **`remains_right_iff`** — the reports of a run are right exactly when none is of a partial fill.
-/

namespace BptCore.Backtester

open Machine OpenItems
open Strategy (OutboundNewOrder CancelOrderRequest ModifyOrderRequest)

namespace Backtest

variable (s : Backtest)

/-- What the reports of a step should say: a partial fill's that its order has more to fill, and how
much; and no report but that of the last fill that nothing remains. -/
def RemainsRight (ev : BacktestEvent) : Prop :=
  ∀ rpt, .published rpt ∈ (s.step ev).2 →
    (rpt.status = .PARTIAL → ∃ fr lo, s.handedFill ev = some fr ∧
      s.client.live.lookup fr.orderId = some lo ∧ rpt.orderId = fr.orderId ∧
      rpt.filledQty = fillQtyScaled fr.lastFillQty ∧
      rpt.remainingQty = lo.quantity - (lo.cumulativeFilledQty + fillQtyScaled fr.lastFillQty) ∧
      0 < rpt.remainingQty) ∧
    (rpt.remainingQty = 0 → rpt.status = .FILLED)

/-- A fill that is handed over for a live order is its last. -/
def NoPartial (ev : BacktestEvent) : Prop :=
  ∀ fr ∈ s.handedFill ev, fr.orderId ∈ s.client.live → fr.isFullyFilled = true

instance (ev : BacktestEvent) : Decidable (s.NoPartial ev) :=
  inferInstanceAs (Decidable (∀ fr ∈ s.handedFill ev, _ → _))

end Backtest

namespace QuantityLog

/-- Orders have ids of their own, and are not modified. -/
def Ordinary (s : QuantityLog) : BacktestEvent → Prop
  | .call (.sendNewOrder order) => s.backtest.strategyInControl = true →
    Backtest.sendable order → order.orderId ∉ s.quantities.used
  | .call (.sendModify modify) => s.backtest.strategyInControl = true →
    modify.orderId ∉ s.backtest.client.live
  | .call (.sendCancel _) | .call (.sendCancelAll _ _) | .market _ | .setSimulationTime _
  | .resume => True

instance (s : QuantityLog) : (ev : BacktestEvent) → Decidable (s.Ordinary ev)
  | .call (.sendNewOrder _) => inferInstanceAs (Decidable (_ → _ → _))
  | .call (.sendModify _) => inferInstanceAs (Decidable (_ → _))
  | .call (.sendCancel _) | .call (.sendCancelAll _ _) | .market _ | .setSimulationTime _
  | .resume => isTrue trivial

theorem Ordinary.counted {s : QuantityLog} {ev : BacktestEvent} (h : s.Ordinary ev) :
    s.Counted ev := by
  cases ev with
  | call c =>
    cases c with
    | sendNewOrder order => exact h
    | sendModify modify =>
      intro hcontrol lo hlo
      exact absurd (Table.mem_of_lookup hlo) (h hcontrol)
    | sendCancel cancel => trivial
    | sendCancelAll exchangeId instrumentId => trivial
  | market event => trivial
  | setSimulationTime nowNs => trivial
  | resume => trivial

end QuantityLog

/-! ## Closed orders -/

/-- A fill is on its way to the strategy. -/
def InFlight (e : MatchingEngine) (tasks : List Task) (fr : FillReport) : Prop :=
  (∃ pf ∈ e.pendingFills, pf.fill = fr) ∨ .deliver fr ∈ tasks

/-- **The invariant.** The order of a closing fill that is on its way is not held any more, and of a
live order that is held nothing has been reported as filled. -/
structure Remains (used : List Nat) (e : MatchingEngine) (live : Table Nat LiveOrder)
    (tasks : List Task) : Prop where
  used : ∀ fr, InFlight e tasks fr → fr.isFullyFilled = true → fr.orderId ∈ used
  closed : ∀ fr, InFlight e tasks fr → fr.isFullyFilled = true →
    fr.orderId ∉ keys orderService e.held
  wanted : ∀ id lo, live.lookup id = some lo → 0 < lo.quantity ∧
    (id ∈ keys orderService e.held → lo.cumulativeFilledQty = 0)

namespace Remains

variable {used used' : List Nat} {e e' : MatchingEngine} {live live' : Table Nat LiveOrder}
  {tasks tasks' : List Task}

/-- Fewer fills are on their way, fewer orders are held, and fewer are live. -/
theorem mono (h : Remains used e live tasks) (hused : ∀ id ∈ used, id ∈ used')
    (hfills : ∀ fr, fr.isFullyFilled = true → InFlight e' tasks' fr → InFlight e tasks fr)
    (hheld : ∀ id ∈ keys orderService e'.held, id ∈ keys orderService e.held)
    (hlive : ∀ id lo, live'.lookup id = some lo → live.lookup id = some lo) :
    Remains used' e' live' tasks' where
  used fr hfr hfull := hused _ (h.used fr (hfills fr hfull hfr) hfull)
  closed fr hfr hfull hin := h.closed fr (hfills fr hfull hfr) hfull (hheld _ hin)
  wanted id lo hlo := by
    obtain ⟨hpos, hnone⟩ := h.wanted id lo (hlive id lo hlo)
    exact ⟨hpos, fun hin => hnone (hheld id hin)⟩

/-- **An entry point**: what it matches closes orders, and what it closes it does not hold. -/
theorem of_outcome {before : MatchingEngine} {out : MatchingEngine.Outcome} {s : Multiset OpenOrder}
    {L : Nat → Prop} (h : Remains used before live tasks)
    (hconserves : ∀ w, out.Conserves w before)
    (hmoves : Moves orderService L s out.matched out.engine.held)
    (hkeys : (keys orderService s).Nodup) (hs : ∀ id ∈ keys orderService s, id ∈ used')
    (hused : ∀ id ∈ used, id ∈ used')
    (hold : ∀ id ∈ used, id ∈ keys orderService s → id ∈ keys orderService before.held)
    (hlive : ∀ id lo, live'.lookup id = some lo → 0 < lo.quantity ∧
      (id ∈ keys orderService s → lo.cumulativeFilledQty = 0))
    (hmore : ∀ fr, .deliver fr ∈ tasks' → .deliver fr ∈ tasks) :
    Remains used' out.engine live' (out.deliveries.map .deliver ++ tasks') := by
  have hheld : ∀ id ∈ keys orderService out.engine.held, id ∈ keys orderService s :=
    fun id hid => Multiset.mem_of_le hmoves.keys_le hid
  -- a fill on its way was on its way before, or has been matched
  have hcases : ∀ fr, InFlight out.engine (out.deliveries.map .deliver ++ tasks') fr →
      InFlight before tasks fr ∨ fr ∈ out.matched := by
    intro fr hfr
    rcases hfr with hpending | hdeliver
    · rcases (mem_fills_iff hconserves fr).mp (Or.inl hpending) with hbefore | hmatched
      · exact Or.inl (Or.inl hbefore)
      · exact Or.inr hmatched
    · rcases List.mem_append.mp hdeliver with hdelivered | htask
      · obtain ⟨fr', hfr', heq⟩ := List.mem_map.mp hdelivered
        cases heq
        rcases (mem_fills_iff hconserves fr).mp (Or.inr hfr') with hbefore | hmatched
        · exact Or.inl (Or.inl hbefore)
        · exact Or.inr hmatched
      · exact Or.inl (Or.inr (hmore fr htask))
  refine ⟨fun fr hfr hfull => ?_, fun fr hfr hfull hin => ?_, fun id lo hlo => ?_⟩
  · rcases hcases fr hfr with hbefore | hmatched
    · exact hused _ (h.used fr hbefore hfull)
    · exact hs _ (hmoves.target_mem_keys fr hmatched)
  · rcases hcases fr hfr with hbefore | hmatched
    · exact h.closed fr hbefore hfull (hold _ (h.used fr hbefore hfull) (hheld _ hin))
    · exact hmoves.target_notMem_of_closes hkeys hmatched hfull hin
  · obtain ⟨hpos, hnone⟩ := hlive id lo hlo
    exact ⟨hpos, fun hin => hnone (hheld id hin)⟩

end Remains

/-! ## Reports -/

namespace Backtest

variable {b : Backtest} {rpt : ExecReport}

/-- The reports that are made. -/
inductive Reported (b : Backtest) (ev : BacktestEvent) (rpt : ExecReport) : Prop where
  | fill {fr : FillReport} {lo : LiveOrder} (hhanded : b.handedFill ev = some fr)
      (hlive : b.client.live.lookup fr.orderId = some lo)
      (hstatus : rpt.status = if fr.isFullyFilled then .FILLED else .PARTIAL)
      (hremaining : rpt.remainingQty = 0)
  | acked (hstatus : rpt.status = .ACKED) (hremaining : 0 < rpt.remainingQty)
  | cancelled {id : Nat} {lo : LiveOrder} (hlive : b.client.live.lookup id = some lo)
      (hok : (b.engine.cancelOrder lo.exchange lo.exchangeSymbol id).2 = true)
      (hstatus : rpt.status = .CANCELLED)
      (hremaining : rpt.remainingQty = lo.quantity - lo.cumulativeFilledQty)
  | modified {modify : ModifyOrderRequest} (hev : ev = .call (.sendModify modify))
      (hcontrol : b.strategyInControl = true) (hlive : modify.orderId ∈ b.client.live)

theorem remainingQty_execReport (c : OrderGatewayClient) (ev : ExecStatusEvent) :
    (c.execReport ev).remainingQty = ev.quantity - ev.cumulativeFilledQty := by
  show (if ev.quantity > ev.cumulativeFilledQty then _ else 0) = _
  split
  · rfl
  · next hle => exact (Nat.sub_eq_zero_of_le (not_lt.mp hle)).symm

theorem mem_published {engine : MatchingEngine} {out : OrderGatewayClient × ExecReport}
    {calls : List Activation} {tasks : List Task}
    (h : .published rpt ∈ (publish engine out calls tasks).2) : rpt = out.2 := by
  cases List.mem_singleton.mp h
  rfl

theorem not_mem_enter {out : MatchingEngine.Outcome} {client : OrderGatewayClient}
    {tasks : List Task} : .published rpt ∉ (b.enter out client tasks).2 := by
  intro h
  obtain ⟨fr, -, heq⟩ := List.mem_map.mp h
  cases heq

theorem reported_sendCancel {ev : BacktestEvent} {cancel : CancelOrderRequest}
    {calls : List Activation} {tasks : List Task}
    (h : .published rpt ∈ (b.sendCancel cancel calls tasks).2) : b.Reported ev rpt := by
  unfold sendCancel at h
  split at h
  · exact absurd h List.not_mem_nil
  · next lo hlive =>
    dsimp only at h
    split at h
    · next hok =>
      have hrpt := mem_published h
      refine .cancelled hlive hok ?_ ?_
      · rw [hrpt]
        rfl
      · rw [hrpt]
        exact remainingQty_execReport _ _
    · exact absurd h List.not_mem_nil

/-- The report of a fill says that nothing remains: the quantity of the fill is part of what was
filled so far. -/
theorem reported_deliver {ev : BacktestEvent} {fr : FillReport} {calls : List Activation}
    {tasks : List Task} (hhanded : b.handedFill ev = some fr)
    (h : .published rpt ∈ (b.runTask (.deliver fr) calls tasks).2) : b.Reported ev rpt := by
  cases hlive : b.client.live.lookup fr.orderId with
  | none =>
    simp only [runTask, OrderGatewayClient.publishFill, hlive] at h
    exact absurd h List.not_mem_nil
  | some lo =>
    simp only [runTask, OrderGatewayClient.publishFill, hlive] at h
    have hrpt := mem_published h
    refine .fill hhanded hlive ?_ ?_
    · rw [hrpt]
      rfl
    · rw [hrpt]
      exact (remainingQty_execReport _ _).trans (Nat.sub_eq_zero_of_le (Nat.le_add_left _ _))

theorem reported_runTask {ev : BacktestEvent} {task : Task} {calls : List Activation}
    {tasks : List Task} (hhanded : ∀ fr, task = .deliver fr → b.handedFill ev = some fr)
    (h : .published rpt ∈ (b.runTask task calls tasks).2) : b.Reported ev rpt := by
  cases task with
  | deliver fr => exact reported_deliver (hhanded fr rfl) h
  | eraseLive orderId => exact absurd h List.not_mem_nil
  | acknowledge order =>
    unfold runTask at h
    dsimp only at h
    split at h
    · next lo _ =>
      split at h
      · next hopen =>
        have hrpt := mem_published h
        refine .acked ?_ ?_
        · rw [hrpt]
          rfl
        · rw [hrpt]
          show 0 < (b.client.execReport _).remainingQty
          rw [remainingQty_execReport]
          exact Nat.sub_pos_of_lt hopen
      · exact absurd h List.not_mem_nil
    · exact absurd h List.not_mem_nil
  | cancel cancel => exact reported_sendCancel h

/-- **Every report** of a step is one of them. -/
theorem reported {ev : BacktestEvent} (h : .published rpt ∈ (b.step ev).2) : b.Reported ev rpt := by
  cases ev with
  | market event =>
    cases hs : b.calls with
    | nil =>
      simp only [step, hs] at h
      exact absurd h not_mem_enter
    | cons a calls =>
      simp only [step, hs] at h
      exact absurd h List.not_mem_nil
  | setSimulationTime nowNs =>
    cases hs : b.calls with
    | nil =>
      simp only [step, hs] at h
      exact absurd h List.not_mem_nil
    | cons a calls =>
      simp only [step, hs] at h
      exact absurd h List.not_mem_nil
  | call c =>
    simp only [step] at h
    split at h
    · next hcontrol =>
      cases c with
      | sendNewOrder order =>
        unfold onCall sendNewOrder at h
        dsimp only at h
        split at h
        · exact absurd h List.not_mem_nil
        · split at h
          · exact absurd h not_mem_enter
          · exact absurd h not_mem_enter
      | sendCancel cancel => exact reported_sendCancel h
      | sendCancelAll exchangeId instrumentId => exact absurd h List.not_mem_nil
      | sendModify modify =>
        by_cases hlive : modify.orderId ∈ b.client.live
        · exact .modified rfl hcontrol hlive
        · have hnone := AList.lookup_eq_none.mpr hlive
          simp only [onCall, sendModify, hnone] at h
          exact absurd h List.not_mem_nil
    · exact absurd h List.not_mem_nil
  | resume =>
    cases hs : b.calls with
    | nil =>
      simp only [step, hs] at h
      exact absurd h List.not_mem_nil
    | cons a calls =>
      cases ha : a.tasks with
      | nil =>
        simp only [step, hs, ha] at h
        exact absurd h List.not_mem_nil
      | cons task tasks =>
        simp only [step, hs, ha] at h
        refine reported_runTask (fun fr hfr => ?_) h
        simp only [handedFill, hs, ha, hfr]

/-- A fill that is handed over for a live order is reported. -/
theorem published_of_handed {ev : BacktestEvent} {fr : FillReport}
    (hhanded : b.handedFill ev = some fr) (hlive : fr.orderId ∈ b.client.live) :
    ∃ rpt, .published rpt ∈ (b.step ev).2 ∧
      rpt.status = if fr.isFullyFilled then .FILLED else .PARTIAL := by
  obtain ⟨lo, hlo⟩ := Option.isSome_iff_exists.mp (AList.lookup_isSome.mpr hlive)
  obtain ⟨rpt, hrpt, hfill, -⟩ := OrderGatewayClient.publishFill_of_live hlo
  have hpublish : b.client.publishFill fr = ((b.client.publishFill fr).1, some rpt) :=
    Prod.ext rfl hrpt
  unfold handedFill at hhanded
  split at hhanded
  · next a calls hs =>
    split at hhanded
    · next fr' tasks ha =>
      obtain rfl := Option.some.inj hhanded
      refine ⟨rpt, ?_, hfill.status⟩
      simp only [step, hs, ha]
      rw [runTask, hpublish]
      exact List.mem_singleton_self _
    · cases hhanded
  · cases hhanded

end Backtest

/-! ## A step -/

namespace QuantityLog

open Backtest

variable {s : QuantityLog}

/-- The ids used so far, and the one that the event uses. -/
def usedAfter (s : QuantityLog) (ev : BacktestEvent) : List Nat :=
  (s.quantities.force (s.backtest.inForce ev)).used

theorem used_subset (s : QuantityLog) (ev : BacktestEvent) :
    ∀ id ∈ s.quantities.used, id ∈ s.usedAfter ev := by
  intro id hid
  unfold usedAfter
  cases s.backtest.inForce ev with
  | none => exact hid
  | some put => exact List.mem_cons_of_mem _ hid

/-- A fill at the head of the tasks is handed over, or the step does not touch the live orders. -/
theorem live_of_not_handed {b : Backtest} {fr : FillReport} {rest : List Task}
    (htasks : b.tasks = .deliver fr :: rest) (hnot : b.handedFill .resume ≠ some fr) :
    (b.step .resume).1.client.live = b.client.live := by
  cases hs : b.calls with
  | nil => simp only [Backtest.step, hs]
  | cons a calls =>
    cases ha : a.tasks with
    | nil => simp only [Backtest.step, hs, ha]
    | cons task tasks =>
      have hhead : task = .deliver fr := by
        rw [Backtest.tasks, hs, List.flatMap_cons, ha] at htasks
        exact (List.cons.inj htasks).1
      exact absurd (by simp only [handedFill, hs, ha, hhead]) hnot

/-- **The step lemma.** Without a partial fill the invariant is kept. -/
theorem remains_step {ev : BacktestEvent}
    (hinv : Inv s.quantities s.backtest.engine s.backtest.client.live)
    (h : Remains s.quantities.used s.backtest.engine s.backtest.client.live s.backtest.tasks)
    (hordinary : s.Ordinary ev) (hfills : s.backtest.NoPartial ev) {v : View}
    (hview : v = view (s.backtest.step ev)) (heffect : s.backtest.Effect ev v) :
    Remains (s.usedAfter ev) v.engine v.live v.tasks := by
  have hused := s.used_subset ev
  cases heffect with
  | idle more hmore _ =>
    refine h.mono hused (fun fr hfull hfr => hfr.imp_right fun htask => ?_) (fun _ hid => hid)
      fun _ _ hlo => hlo
    -- the new tasks close nothing
    rcases List.mem_append.mp htask with hnew | hold
    · have hopen := hmore _ hnew
      rw [closes_deliver, if_pos hfull] at hopen
      exact absurd hopen (Option.some_ne_none _)
    · exact hold
  | skip htasks _ =>
    refine h.mono hused (fun fr _ hfr => hfr.imp_right fun htask => ?_) (fun _ hid => hid)
      fun _ _ hlo => hlo
    rw [htasks]
    exact List.mem_cons_of_mem _ htask
  | market event _ =>
    obtain ⟨-, hmoves⟩ := hinv.toMatches.market (L := fun _ => True) fun _ _ _ => Or.inr trivial
    exact h.of_outcome (fun w => MatchingEngine.Outcome.conserves_onMarketEvent _ w _) hmoves
      hinv.inStep.keys_nodup (fun id hid => hused _ (hinv.covers.held_used id hid)) hused
      (fun _ _ hid => hid) h.wanted fun _ htask => htask
  | newOrder order hcontrol hsendable haccepted =>
    have hunused := hordinary hcontrol hsendable
    have hnew : order.orderId ∉ keys orderService s.backtest.engine.held := fun hheld =>
      hunused (hinv.covers.held_used _ hheld)
    obtain ⟨-, hmoves⟩ := hinv.toMatches.newOrder (L := fun _ => True) hnew haccepted
      fun _ _ _ => Or.inr trivial
    have hin : order.orderId ∈ s.usedAfter (.call (.sendNewOrder order)) := by
      rw [usedAfter, inForce_newOrder hcontrol hsendable]
      exact List.mem_cons_self
    have hnotLive : order.orderId ∉ s.backtest.client.live := fun hlive =>
      hunused (hinv.covers.live_used _ hlive)
    refine h.of_outcome (fun w => MatchingEngine.Outcome.conserves_submitOrder _ w _) hmoves ?_
      (fun id hid => ?_) hused (fun id hid hmem => ?_) (fun id lo hlo => ?_) (fun fr htask => ?_)
    · rw [keys_cons]
      exact Multiset.nodup_cons.mpr ⟨hnew, hinv.inStep.keys_nodup⟩
    · rw [keys_cons] at hid
      rcases Multiset.mem_cons.mp hid with rfl | hid
      · exact hin
      · exact hused _ (hinv.covers.held_used id hid)
    · rw [keys_cons] at hmem
      rcases Multiset.mem_cons.mp hmem with rfl | hmem
      · exact absurd hid hunused
      · exact hmem
    · rw [Table.emplace_of_notMem hnotLive, Table.lookup_insert_eq] at hlo
      split at hlo
      · -- the new order, of which nothing is filled
        obtain rfl := Option.some.inj hlo
        exact ⟨Nat.pos_of_ne_zero fun hzero => hsendable (Or.inl hzero), fun _ => rfl⟩
      · next hother =>
        obtain ⟨hpos, hnone⟩ := h.wanted id lo hlo
        refine ⟨hpos, fun hmem => hnone ?_⟩
        rw [keys_cons] at hmem
        exact (Multiset.mem_cons.mp hmem).resolve_left hother
    · exact (List.mem_cons.mp htask).resolve_left fun heq => by cases heq
  | refused order hcontrol hsendable =>
    have hnot : order.orderId ∉ s.backtest.client.live := fun hlive =>
      hordinary hcontrol hsendable (hinv.covers.live_used _ hlive)
    rw [Table.emplace_of_notMem hnot, Table.erase_insert_self, Table.erase_of_notMem hnot]
    exact h.mono hused (fun _ _ hfr => hfr) (fun _ hid => hid) fun _ _ hlo => hlo
  | @cancel _ rest cancel lo hev htasks hlive =>
    obtain ⟨-, -, hfewer, -⟩ := hinv.toMatches.withdrawn_keys hlive
    refine h.mono hused (fun fr _ hfr => ?_) hfewer fun _ _ hlo => hlo
    rcases hfr with hpending | htask
    · rw [withdrawn, MatchingEngine.cancelOrder_pendingFills] at hpending
      exact Or.inl hpending
    · have hrest := (List.mem_cons.mp htask).resolve_left fun heq => by cases heq
      rcases htasks with rfl | hcons
      · exact Or.inr hrest
      · rw [hcons]
        exact Or.inr (List.mem_cons_of_mem _ hrest)
  | @modify modify lo hcontrol hlive _ =>
    exact absurd (Table.mem_of_lookup hlive) (hordinary hcontrol)
  | @modifyRefused modify lo hcontrol hlive =>
    exact absurd (Table.mem_of_lookup hlive) (hordinary hcontrol)
  | @deliver fr lo rest htasks hlive =>
    have hmore : ∀ fr', .deliver fr' ∈ (if fr.isFullyFilled then .eraseLive fr.orderId :: rest
        else rest) → .deliver fr' ∈ s.backtest.tasks := by
      intro fr' htask
      rw [htasks]
      refine List.mem_cons_of_mem _ ?_
      split at htask
      · exact (List.mem_cons.mp htask).resolve_left fun heq => by cases heq
      · exact htask
    refine ⟨fun fr' hfr hfull => ?_, fun fr' hfr hfull => ?_, fun id lo' hlo' => ?_⟩
    · exact hused _ (h.used fr' (hfr.imp_right (hmore fr')) hfull)
    · exact h.closed fr' (hfr.imp_right (hmore fr')) hfull
    · by_cases hhanded : s.backtest.handedFill .resume = some fr
      · -- the last fill of its order, which is not held any more
        have hfull := hfills fr hhanded (Table.mem_of_lookup hlive)
        have hclosed := h.closed fr (Or.inr (htasks ▸ List.mem_cons_self)) hfull
        rw [Table.lookup_insert_eq] at hlo'
        split at hlo'
        · next hid =>
          obtain rfl := Option.some.inj hlo'
          exact ⟨(h.wanted _ lo hlive).1, fun hheld => absurd (hid ▸ hheld) hclosed⟩
        · exact h.wanted id lo' hlo'
      · have hsame : s.backtest.client.live.insert fr.orderId { lo with
            cumulativeFilledQty := lo.cumulativeFilledQty + fillQtyScaled fr.lastFillQty } =
              s.backtest.client.live :=
          (congrArg View.live hview).trans (live_of_not_handed htasks hhanded)
        exact h.wanted id lo' (hsame ▸ hlo')
  | @eraseLive orderId rest _ htasks =>
    refine h.mono hused (fun fr _ hfr => hfr.imp_right fun htask => ?_) (fun _ hid => hid)
      fun id lo hlo => ?_
    · rw [htasks]
      exact List.mem_cons_of_mem _ htask
    · rw [Table.lookup_erase_eq] at hlo
      split at hlo
      · cases hlo
      · exact hlo

/-- Where the invariant holds, the reports of a step are right when it hands over no partial fill,
and only then. -/
theorem remainsRight_iff {ev : BacktestEvent}
    (hinv : Inv s.quantities s.backtest.engine s.backtest.client.live)
    (h : Remains s.quantities.used s.backtest.engine s.backtest.client.live s.backtest.tasks)
    (hordinary : s.Ordinary ev) : s.backtest.RemainsRight ev ↔ s.backtest.NoPartial ev := by
  constructor
  · intro hright fr hhanded hlive
    obtain ⟨rpt, hrpt, hstatus⟩ := published_of_handed hhanded hlive
    by_contra hopen
    rw [if_neg hopen] at hstatus
    obtain ⟨-, -, -, -, -, -, -, hpos⟩ := (hright rpt hrpt).1 hstatus
    -- the report of a fill says that nothing remains
    cases reported hrpt with
    | fill _ _ _ hzero => exact absurd hzero hpos.ne'
    | acked hacked _ => exact absurd (hacked.symm.trans hstatus) (by decide)
    | cancelled _ _ hcancelled _ => exact absurd (hcancelled.symm.trans hstatus) (by decide)
    | modified hev hcontrol hmodified =>
      subst hev
      exact absurd hmodified (hordinary hcontrol)
  · intro hfills rpt hrpt
    cases reported hrpt with
    | @fill fr lo hhanded hlive hstatus _ =>
      rw [if_pos (hfills fr hhanded (Table.mem_of_lookup hlive))] at hstatus
      exact ⟨fun hpartial => absurd (hstatus.symm.trans hpartial) (by decide), fun _ => hstatus⟩
    | acked hstatus hpos =>
      exact ⟨fun hpartial => absurd (hstatus.symm.trans hpartial) (by decide),
        fun hzero => absurd hzero hpos.ne'⟩
    | @cancelled id lo hlive hok hstatus hremaining =>
      refine ⟨fun hpartial => absurd (hstatus.symm.trans hpartial) (by decide), fun hzero => ?_⟩
      -- an order that the engine cancels was held, so that nothing of it was reported as filled
      have hheld : id ∈ keys orderService s.backtest.engine.held := by
        obtain ⟨-, ⟨-, o, hid, hcons⟩ | ⟨hno, -⟩⟩ :=
          MatchingEngine.cancelOrder_spec hinv.inStep lo.exchange lo.exchangeSymbol id
        · rw [hcons, keys_cons]
          exact Multiset.mem_cons.mpr (Or.inl hid.symm)
        · exact absurd (hok.symm.trans hno) Bool.false_ne_true.symm
      obtain ⟨hpos, hnone⟩ := h.wanted id lo hlive
      rw [hnone hheld, Nat.sub_zero] at hremaining
      exact absurd (hremaining.symm.trans hzero) hpos.ne'
    | modified hev hcontrol hmodified =>
      subst hev
      exact absurd hmodified (hordinary hcontrol)

/-! ## The run -/

/-- **When the reports say what remains.** Take any run of a backtest, under any latency, whose
orders have ids of their own and are not modified. Its reports say what remains of their orders
exactly when no fill is handed over that leaves its order open: every such report says that nothing
remains. -/
theorem remains_right_iff (latency : Nat → Nat) {es : List BacktestEvent}
    (hordinary : AlongRun step Ordinary (init latency) es) :
    AlongRun step (fun s ev => s.backtest.RemainsRight ev) (init latency) es ↔
      AlongRun step (fun s ev => s.backtest.NoPartial ev) (init latency) es := by
  let J : QuantityLog → Prop := fun s =>
    Inv s.quantities s.backtest.engine s.backtest.client.live ∧
      Remains s.quantities.used s.backtest.engine s.backtest.client.live s.backtest.tasks
  have hstep : ∀ s ev, J s → s.Ordinary ev → s.backtest.NoPartial ev → J (step s ev).1 :=
    fun s ev h hordinary hfills => ⟨inv_effect h.1 hordinary.counted (step_effect s.backtest ev),
      remains_step h.1 h.2 hordinary hfills rfl (step_effect s.backtest ev)⟩
  have hinit : J (init latency) := by
    refine ⟨inv_init latency, ⟨?_, ?_, ?_⟩⟩
    · rintro fr (⟨pf, hpf, -⟩ | htask)
      · exact absurd hpf List.not_mem_nil
      · exact absurd htask List.not_mem_nil
    · rintro fr (⟨pf, hpf, -⟩ | htask)
      · exact absurd hpf List.not_mem_nil
      · exact absurd htask List.not_mem_nil
    · intro id lo hlo
      cases hlo
  generalize init latency = s at hordinary hinit
  induction es generalizing s with
  | nil => exact Iff.rfl
  | cons ev es ih =>
    have hone := remainsRight_iff hinit.1 hinit.2 hordinary.1
    constructor
    · rintro ⟨hright, hrest⟩
      have hfills := hone.mp hright
      exact ⟨hfills, (ih _ hordinary.2 (hstep s ev hinit hordinary.1 hfills)).mp hrest⟩
    · rintro ⟨hfills, hrest⟩
      exact ⟨hone.mpr hfills, (ih _ hordinary.2 (hstep s ev hinit hordinary.1 hfills)).mpr hrest⟩

/-! A buy of 2 rests. A print fills it, or half of it. -/

open HalfFilled in
def eventsFilled (quantity : ℚ) : List BacktestEvent :=
  [.market book, .resume, .call buy, .resume, .resume, .market (print 2 quantity), .resume, .resume]

theorem remains_right_iff_filled :
    AlongRun step (fun s ev => s.backtest.RemainsRight ev) (init fun _ => 0) (eventsFilled 2) :=
  (remains_right_iff _ (by decide +kernel)).mpr (by decide +kernel)

/-- Half of the order is filled, and the report says that nothing remains. -/
theorem not_remains_right :
    (outputs step (init fun _ => 0) (eventsFilled 1)).filterMap (fun
      | .published rpt => some (rpt.orderId, rpt.status, rpt.filledQty, rpt.remainingQty)
      | .matched _ => none) =
      [(1, .ACKED, 0, 200000000), (1, .PARTIAL, 100000000, 0)] := by
  decide +kernel

end QuantityLog

end BptCore.Backtester
