import BptCore.Backtester.Harness.LiveMatches

/-!
# The table of the live orders

An order is live from its submit until the gateway takes it out, after a closing report. Meanwhile
the engine may let go of it without one: a market order that the book does not fill, or a
replacement with nothing left to fill. Then it stays live for good.

* **`LiveAgrees`** — between calls, the live orders are those that the engine holds, or of which it
  has a fill to hand over.
* **`Tidy`** — what a step must do for that: the orders that are matched complete, a new order has
  an id that is not live, and an order that is taken out is settled in the engine.
* **`live_agrees_of_tidy`** — along tidy runs the live orders agree.
-/

namespace BptCore.Backtester

open Machine OpenItems
open Strategy (OutboundNewOrder CancelOrderRequest ModifyOrderRequest)

/-! ## Orders that are about to go -/

/-- A report or a task on its way takes the order out of the live orders. -/
def Closing (e : MatchingEngine) (tasks : List Task) (id : Nat) : Prop :=
  (∃ pf ∈ e.pendingFills, pf.fill.orderId = id ∧ pf.fill.isFullyFilled = true) ∨
    ∃ task ∈ tasks, task.closes = some id

instance (e : MatchingEngine) (tasks : List Task) (id : Nat) : Decidable (Closing e tasks id) :=
  inferInstanceAs (Decidable (_ ∨ _))

/-- The engine is done with the order, its fills included. -/
def Settled (e : MatchingEngine) (id : Nat) : Prop :=
  (∀ o ∈ e.held, o.orderId ≠ id) ∧ ∀ pf ∈ e.pendingFills, pf.fill.orderId ≠ id

instance (e : MatchingEngine) (id : Nat) : Decidable (Settled e id) :=
  inferInstanceAs (Decidable (_ ∧ _))

instance (L : Nat → Prop) [DecidablePred L] (books : Table String OrderBookRecord) (uptoTs : Nat)
    (submits : List PendingSubmit) : Decidable (DueComplete L books uptoTs submits) :=
  inferInstanceAs (Decidable (∀ ps ∈ submits, _ → _))

instance (L : Nat → Prop) [DecidablePred L] (e : MatchingEngine) (o : OpenOrder) :
    Decidable (SubmitCompletes L e o) :=
  inferInstanceAs (Decidable (DueComplete _ _ _ _))

/-! ## The invariant -/

/-- The live orders go by what the engine holds, and by what is on its way. -/
structure LiveInv (e : MatchingEngine) (live : Table Nat LiveOrder) (tasks : List Task) : Prop
    extends Matches e live where
  live_of_held : ∀ id ∈ keys orderService e.held, id ∈ live
  live_of_pending : ∀ pf ∈ e.pendingFills, pf.fill.orderId ∈ live
  held_of_live : ∀ id ∈ live, id ∈ keys orderService e.held ∨ Closing e tasks id

variable {e : MatchingEngine} {live live' : Table Nat LiveOrder} {tasks tasks' : List Task}
  {out : MatchingEngine.Outcome}

/-- What the tasks are about may change, as long as the live orders that are about to go still are.
-/
theorem LiveInv.retask (h : LiveInv e live tasks) (htasks : ∀ task ∈ tasks, ∀ id ∈ task.closes,
    id ∈ live → ∃ task' ∈ tasks', task'.closes = some id) : LiveInv e live tasks' :=
  { h with
    held_of_live := fun id hid => by
      rcases h.held_of_live id hid with hheld | hpending | ⟨task, htask, hcloses⟩
      · exact Or.inl hheld
      · exact Or.inr (Or.inl hpending)
      · exact Or.inr (Or.inr (htasks task htask id hcloses hid)) }

/-- A fill is pending or handed over after an entry point exactly when it was pending before or has
been matched. -/
theorem mem_fills_iff {before : MatchingEngine} (h : ∀ w, out.Conserves w before)
    (fr : FillReport) :
    ((∃ pf ∈ out.engine.pendingFills, pf.fill = fr) ∨ fr ∈ out.deliveries) ↔
      ((∃ pf ∈ before.pendingFills, pf.fill = fr) ∨ fr ∈ out.matched) := by
  let w : FillReport → Nat := fun x => if x = fr then 1 else 0
  have hsum : ∀ fills : List FillReport, fr ∈ fills ↔ (fills.map w).sum ≠ 0 := by
    intro fills
    rw [ne_eq, List.sum_eq_zero_iff]
    constructor
    · exact fun hmem hzero => absurd (hzero (w fr) (List.mem_map_of_mem hmem)) (by simp [w])
    · intro hne
      by_contra hnot
      refine hne fun n hn => ?_
      obtain ⟨x, hx, rfl⟩ := List.mem_map.mp hn
      have hother : x ≠ fr := fun heq => hnot (heq ▸ hx)
      exact if_neg hother
  have hpending : ∀ engine : MatchingEngine, (∃ pf ∈ engine.pendingFills, pf.fill = fr) ↔
      engine.heldQty w ≠ 0 := by
    intro engine
    rw [← List.mem_map, hsum, List.map_map]
    rfl
  have hconserves : before.heldQty w + (out.matched.map w).sum =
      out.engine.heldQty w + (out.deliveries.map w).sum := h w
  rw [hpending, hpending, hsum, hsum]
  omega

/-- **An entry point.** The orders it brings in are live, and all that it lets go are about to go
from the live orders as well. -/
theorem LiveInv.of_outcome {before : MatchingEngine} {s : Multiset OpenOrder}
    (hconserves : ∀ w, out.Conserves w before) (hmatches : Matches out.engine live)
    (hmoves : Moves orderService (Closing before tasks) s out.matched out.engine.held)
    (hs : ∀ id ∈ keys orderService s, id ∈ live)
    (hpending : ∀ pf ∈ before.pendingFills, pf.fill.orderId ∈ live)
    (hlive : ∀ id ∈ live, id ∈ keys orderService s ∨ Closing before tasks id)
    (hsub : ∀ task ∈ tasks, task ∈ tasks') :
    LiveInv out.engine live (out.deliveries.map .deliver ++ tasks') := by
  -- a closing fill that was pending or is matched is pending or handed over
  have hclosing : ∀ fr : FillReport, fr.isFullyFilled = true →
      ((∃ pf ∈ before.pendingFills, pf.fill = fr) ∨ fr ∈ out.matched) →
      Closing out.engine (out.deliveries.map .deliver ++ tasks') fr.orderId := by
    intro fr hfull hfr
    rcases (mem_fills_iff hconserves fr).mpr hfr with ⟨pf, hpf, rfl⟩ | hdelivered
    · exact Or.inl ⟨pf, hpf, rfl, hfull⟩
    · refine Or.inr ⟨.deliver fr, List.mem_append_left _ (List.mem_map_of_mem hdelivered), ?_⟩
      rw [closes_deliver, if_pos hfull]
  have hkept : ∀ id, Closing before tasks id →
      Closing out.engine (out.deliveries.map .deliver ++ tasks') id := by
    rintro id (⟨pf, hpf, rfl, hfull⟩ | ⟨task, htask, hcloses⟩)
    · exact hclosing pf.fill hfull (Or.inl ⟨pf, hpf, rfl⟩)
    · exact Or.inr ⟨task, List.mem_append_right _ (hsub task htask), hcloses⟩
  refine { hmatches with live_of_held := ?_, live_of_pending := ?_, held_of_live := ?_ }
  · exact fun id hid => hs id (Multiset.mem_of_le hmoves.keys_le hid)
  · intro pf hpf
    have hfill := (mem_fills_iff hconserves pf.fill).mp (Or.inl ⟨pf, hpf, rfl⟩)
    rcases hfill with ⟨pf', hpf', heq⟩ | hmatched
    · exact heq ▸ hpending pf' hpf'
    · exact hs _ (hmoves.target_mem_keys pf.fill hmatched)
  · intro id hid
    rcases hlive id hid with hin | hgoing
    · rcases hmoves.mem_keys_cases hin with hheld | ⟨fr, hfr, rfl, hfull⟩ | hgoing
      · exact Or.inl hheld
      · exact Or.inr (hclosing fr hfull (Or.inr hfr))
      · exact Or.inr (hkept id hgoing)
    · exact Or.inr (hkept id hgoing)

open Backtest

variable {s : Backtest}

/-- A new order, under an id that is not live. -/
theorem LiveInv.newOrder (h : LiveInv s.engine s.client.live s.tasks) {order : OutboundNewOrder}
    (hid : order.orderId ∉ s.client.live)
    (haccepted : (s.engine.submitOrder (newOpenOrder order s.client.simulationNowNs)).2.rejected =
      false)
    (hL : SubmitCompletes (Closing s.engine s.tasks) s.engine
      (newOpenOrder order s.client.simulationNowNs)) :
    LiveInv (s.engine.submitOrder (newOpenOrder order s.client.simulationNowNs)).1.engine
      (Table.emplace order.orderId (newLiveOrder order) s.client.live)
      ((s.engine.submitOrder (newOpenOrder order s.client.simulationNowNs)).1.deliveries.map
        .deliver ++ .acknowledge order :: s.tasks) := by
  rw [Table.emplace_of_notMem hid]
  have hnew : order.orderId ∉ keys orderService s.engine.held := fun hheld =>
    hid (h.live_of_held _ hheld)
  obtain ⟨hmatches, hmoves⟩ := h.toMatches.newOrder hnew haccepted hL
  refine .of_outcome (fun w => MatchingEngine.Outcome.conserves_submitOrder _ w _) hmatches hmoves
    (fun k hk => ?_) (fun pf hpf => ?_) (fun k hk => ?_)
    fun task htask => List.mem_cons_of_mem _ htask
  · rw [keys_cons, Multiset.mem_cons] at hk
    exact (AList.mem_insert _).mpr (hk.imp (fun heq => heq) (h.live_of_held k))
  · exact (AList.mem_insert _).mpr (Or.inr (h.live_of_pending pf hpf))
  · rw [keys_cons, Multiset.mem_cons]
    rcases (AList.mem_insert _).mp hk with rfl | hk
    · exact Or.inl (Or.inl rfl)
    · exact (h.held_of_live k hk).imp Or.inr fun hclosing => hclosing

theorem closing_withdrawn (lo : LiveOrder) (id : Nat) :
    Closing (s.withdrawn lo id) tasks = Closing s.engine tasks := by
  funext k
  rw [Closing, withdrawn, MatchingEngine.cancelOrder_pendingFills]
  rfl

/-- A live order is modified: the engine's order is withdrawn, and a new one submitted. -/
theorem LiveInv.modify (h : LiveInv s.engine s.client.live s.tasks) {modify : ModifyOrderRequest}
    {lo : LiveOrder} (hlive : s.client.live.lookup modify.orderId = some lo)
    (haccepted : ((s.withdrawn lo modify.orderId).submitOrder (s.replacing lo modify)).2.rejected =
      false)
    (hL : SubmitCompletes (Closing s.engine s.tasks) (s.withdrawn lo modify.orderId)
      (s.replacing lo modify)) :
    LiveInv ((s.withdrawn lo modify.orderId).submitOrder (s.replacing lo modify)).1.engine
      (s.client.live.insert modify.orderId (lo.modified modify))
      (((s.withdrawn lo modify.orderId).submitOrder (s.replacing lo modify)).1.deliveries.map
        .deliver ++ s.tasks) := by
  obtain ⟨-, -, hfewer, hkept⟩ := h.toMatches.withdrawn_keys hlive
  have hclosing : Closing (s.withdrawn lo modify.orderId) s.tasks = Closing s.engine s.tasks :=
    closing_withdrawn lo modify.orderId
  obtain ⟨hafter, hmoves⟩ := h.toMatches.replace hlive haccepted hL
  refine .of_outcome (fun w => MatchingEngine.Outcome.conserves_submitOrder _ w _) hafter
    (hclosing ▸ hmoves) (fun k hk => ?_) (fun pf hpf => ?_) (fun k hk => ?_) fun _ htask => htask
  · rw [keys_cons, Multiset.mem_cons] at hk
    refine (AList.mem_insert _).mpr (hk.imp (fun heq => heq) fun hk => ?_)
    exact h.live_of_held k (hfewer k hk)
  · rw [withdrawn, MatchingEngine.cancelOrder_pendingFills] at hpf
    exact (AList.mem_insert _).mpr (Or.inr (h.live_of_pending pf hpf))
  · rw [keys_cons, Multiset.mem_cons, hclosing]
    rcases (AList.mem_insert _).mp hk with rfl | hk
    · exact Or.inl (Or.inl rfl)
    · rcases h.held_of_live k hk with hheld | hgoing
      · rcases hkept k hheld with rfl | hheld
        · exact Or.inl (Or.inl rfl)
        · exact Or.inl (Or.inr hheld)
      · exact Or.inr hgoing

/-- The gateway withdraws an order, and is about to take it out. -/
theorem LiveInv.withdraw (h : LiveInv s.engine s.client.live s.tasks) {id : Nat} {lo : LiveOrder}
    (hlive : s.client.live.lookup id = some lo) {rest : List Task}
    (hrest : ∀ task ∈ s.tasks, ∀ k ∈ task.closes, task ∈ rest)
    (hmatches : Matches (s.withdrawn lo id) live') (hsame : ∀ k, k ∈ live' ↔ k ∈ s.client.live) :
    LiveInv (s.withdrawn lo id) live' (.eraseLive id :: rest) := by
  obtain ⟨-, -, hfewer, hkept⟩ := h.toMatches.withdrawn_keys hlive
  refine { hmatches with live_of_held := ?_, live_of_pending := ?_, held_of_live := ?_ }
  · exact fun k hk => (hsame k).mpr (h.live_of_held k (hfewer k hk))
  · intro pf hpf
    rw [withdrawn, MatchingEngine.cancelOrder_pendingFills] at hpf
    exact (hsame _).mpr (h.live_of_pending pf hpf)
  · intro k hk
    rcases h.held_of_live k ((hsame k).mp hk) with hheld | hpending | ⟨task, htask, hcloses⟩
    · rcases hkept k hheld with rfl | hheld
      · exact Or.inr (Or.inr ⟨_, List.mem_cons_self, rfl⟩)
      · exact Or.inl hheld
    · refine Or.inr (Or.inl ?_)
      rwa [withdrawn, MatchingEngine.cancelOrder_pendingFills]
    · exact Or.inr (Or.inr ⟨task, List.mem_cons_of_mem _ (hrest task htask k hcloses), hcloses⟩)

/-- The report of a fill goes out. That of a full one leaves the task that takes the order out. -/
theorem LiveInv.deliver {fr : FillReport} {lo : LiveOrder}
    (h : LiveInv e live (.deliver fr :: tasks)) (hlive : live.lookup fr.orderId = some lo) :
    LiveInv e
      (live.insert fr.orderId { lo with
        cumulativeFilledQty := lo.cumulativeFilledQty + fillQtyScaled fr.lastFillQty })
      (if fr.isFullyFilled then .eraseLive fr.orderId :: tasks else tasks) := by
  have hretask : LiveInv e live
      (if fr.isFullyFilled then .eraseLive fr.orderId :: tasks else tasks) := by
    refine h.retask fun task htask id hid _ => ?_
    rcases List.mem_cons.mp htask with rfl | htask
    · rw [closes_deliver] at hid
      split at hid
      · next hfull =>
        cases hid
        refine ⟨.eraseLive fr.orderId, ?_, rfl⟩
        rw [if_pos hfull]
        exact List.mem_cons_self
      · cases hid
    · refine ⟨task, ?_, hid⟩
      split
      · exact List.mem_cons_of_mem _ htask
      · exact htask
  let lo' : LiveOrder :=
    { lo with cumulativeFilledQty := lo.cumulativeFilledQty + fillQtyScaled fr.lastFillQty }
  have hmatches : Matches e (live.insert fr.orderId lo') := h.toMatches.insert hlive rfl rfl
  exact
    { hmatches with
      live_of_held := fun k hk => (mem_insert_of_live hlive k).mpr (hretask.live_of_held k hk)
      live_of_pending := fun pf hpf =>
        (mem_insert_of_live hlive _).mpr (hretask.live_of_pending pf hpf)
      held_of_live := fun k hk => hretask.held_of_live k ((mem_insert_of_live hlive k).mp hk) }

/-- The order is taken out, once the engine is done with it. -/
theorem LiveInv.eraseLive {id : Nat} (h : LiveInv e live (.eraseLive id :: tasks))
    (hsettled : Settled e id) : LiveInv e (live.erase id) tasks := by
  obtain ⟨hheld, hpending⟩ := hsettled
  refine { h.toMatches.erase id with
    live_of_held := ?_, live_of_pending := ?_, held_of_live := ?_ }
  · intro k hk
    obtain ⟨o, ho, rfl⟩ := Multiset.mem_map.mp hk
    exact AList.mem_erase.mpr ⟨hheld o ho, h.live_of_held _ hk⟩
  · intro pf hpf
    exact AList.mem_erase.mpr ⟨hpending pf hpf, h.live_of_pending pf hpf⟩
  · intro k hk
    obtain ⟨hne, hk⟩ := AList.mem_erase.mp hk
    rcases h.held_of_live k hk with hin | hin | ⟨task, htask, hcloses⟩
    · exact Or.inl hin
    · exact Or.inr (Or.inl hin)
    · rcases List.mem_cons.mp htask with rfl | htask
      · cases hcloses
        exact absurd rfl hne
      · exact Or.inr (Or.inr ⟨task, htask, hcloses⟩)

namespace Backtest

/-- What a step must do for the live orders to agree. -/
def Tidy (s : Backtest) : BacktestEvent → Prop
  | .market event => s.calls = [] →
    DueComplete (Closing s.engine s.tasks) s.engine.books event.timestampNs s.engine.pendingSubmits
  | .call (.sendNewOrder order) => s.strategyInControl = true → sendable order →
    order.orderId ∉ s.client.live ∧
      SubmitCompletes (Closing s.engine s.tasks) s.engine
        (newOpenOrder order s.client.simulationNowNs)
  | .call (.sendModify modify) => s.strategyInControl = true →
    ∀ lo ∈ s.client.live.lookup modify.orderId,
      SubmitCompletes (Closing s.engine s.tasks) (s.withdrawn lo modify.orderId)
        (s.replacing lo modify)
  | .resume =>
    match s.nextTask with
    | some (.eraseLive id) => Settled s.engine id
    | _ => True
  | .call (.sendCancel _) | .call (.sendCancelAll _ _) | .setSimulationTime _ => True

instance (s : Backtest) : (ev : BacktestEvent) → Decidable (s.Tidy ev)
  | .market _ => inferInstanceAs (Decidable (s.calls = [] → _))
  | .call (.sendNewOrder _) => inferInstanceAs (Decidable (_ → _ → _ ∧ _))
  | .call (.sendModify modify) =>
    inferInstanceAs (Decidable (_ → ∀ lo ∈ s.client.live.lookup modify.orderId, _))
  | .resume => by
    unfold Tidy
    dsimp only
    split <;> infer_instance
  | .call (.sendCancel _) | .call (.sendCancelAll _ _) | .setSimulationTime _ => isTrue trivial

/-- **The step lemma.** -/
theorem liveInv_effect {s : Backtest} {ev : BacktestEvent} {v : View}
    (h : LiveInv s.engine s.client.live s.tasks) (htidy : s.Tidy ev) (heffect : s.Effect ev v) :
    LiveInv v.engine v.live v.tasks := by
  cases heffect with
  | idle more _ _ =>
    exact h.retask fun task htask id hcloses _ => ⟨task, List.mem_append_right _ htask, hcloses⟩
  | @skip task rest htasks hcloses =>
    refine h.retask fun task' htask' id hid hlive => ?_
    rw [htasks] at htask'
    rcases List.mem_cons.mp htask' with rfl | htask'
    · exact absurd hlive (hcloses id hid)
    · exact ⟨task', htask', hid⟩
  | market event htop =>
    obtain ⟨hmatches, hmoves⟩ := h.toMatches.market (htidy htop)
    exact .of_outcome (fun w => MatchingEngine.Outcome.conserves_onMarketEvent _ w _) hmatches
      hmoves h.live_of_held h.live_of_pending h.held_of_live fun _ htask => htask
  | newOrder order hcontrol hsendable haccepted =>
    obtain ⟨hid, hL⟩ := htidy hcontrol hsendable
    exact h.newOrder hid haccepted hL
  | refused order hcontrol hsendable =>
    have hid := (htidy hcontrol hsendable).1
    show LiveInv s.engine ((Table.emplace order.orderId _ s.client.live).erase order.orderId)
      s.tasks
    rw [Table.emplace_of_notMem hid, Table.erase_insert_self, Table.erase_of_notMem hid]
    exact h
  | @cancel _ rest cancel lo _ htasks hlive =>
    refine h.withdraw hlive (fun task htask k hcloses => ?_) (h.toMatches.withdrawn_keys hlive).1
      fun _ => Iff.rfl
    rcases htasks with htasks | htasks
    · exact htasks ▸ htask
    · rw [htasks] at htask
      rcases List.mem_cons.mp htask with rfl | htask
      · exact absurd hcloses (Option.not_mem_none k)
      · exact htask
  | modify modify hcontrol hlive haccepted =>
    exact h.modify hlive haccepted (htidy hcontrol _ hlive)
  | modifyRefused modify hcontrol hlive =>
    exact h.withdraw hlive (fun _ htask _ _ => htask)
      ((h.toMatches.withdrawn_keys hlive).1.insert hlive rfl rfl) (mem_insert_of_live hlive)
  | deliver htasks hlive =>
    rw [htasks] at h
    exact h.deliver hlive
  | @eraseLive orderId _ hnext htasks =>
    have hsettled : Settled s.engine orderId := by
      unfold Tidy at htidy
      dsimp only at htidy
      rwa [hnext] at htidy
    rw [htasks] at h
    exact h.eraseLive hsettled

/-! ## The run -/

/-- Between calls, an order is live exactly when the engine holds it or has a fill of it to hand
over. -/
def LiveAgrees (s : Backtest) : Prop :=
  s.calls = [] → ∀ id, id ∈ s.client.live ↔
    (∃ o ∈ s.engine.held, o.orderId = id) ∨ ∃ pf ∈ s.engine.pendingFills, pf.fill.orderId = id

theorem liveAgrees_of_inv {s : Backtest} (h : LiveInv s.engine s.client.live s.tasks) :
    s.LiveAgrees := by
  intro htop id
  constructor
  · intro hid
    rcases h.held_of_live id hid with hheld | ⟨pf, hpf, hid, -⟩ | ⟨task, htask, -⟩
    · exact Or.inl (Multiset.mem_map.mp hheld)
    · exact Or.inr ⟨pf, hpf, hid⟩
    · -- no task is left between calls
      rw [tasks, htop] at htask
      exact absurd htask List.not_mem_nil
  · rintro (⟨o, ho, rfl⟩ | ⟨pf, hpf, rfl⟩)
    · exact h.live_of_held _ (Multiset.mem_map_of_mem orderService.key ho)
    · exact h.live_of_pending pf hpf

theorem liveInv_init (latency : Nat → Nat) :
    LiveInv (init latency).engine (init latency).client.live (init latency).tasks :=
  { Matches.init latency with
    live_of_held := fun _ h => absurd h (Multiset.notMem_zero _)
    live_of_pending := fun _ h => absurd h List.not_mem_nil
    held_of_live := fun id h => absurd h (AList.notMem_empty id) }

/-- **When the live orders agree.** Take any run of a backtest, under any latency, whose steps are
tidy. Between calls, an order is live exactly when the engine holds it or has a fill of it to hand
over. -/
theorem live_agrees_of_tidy (latency : Nat → Nat) {es : List BacktestEvent}
    (htidy : AlongRun step Tidy (init latency) es) :
    AllStates step LiveAgrees (init latency) es := by
  have hstep : ∀ s ev, LiveInv s.engine s.client.live s.tasks → Tidy s ev →
      LiveInv (step s ev).1.engine (step s ev).1.client.live (step s ev).1.tasks :=
    fun s ev h htidy => liveInv_effect h htidy (step_effect s ev)
  have hstates := AllStates.of_assumption hstep (liveInv_init latency) htidy
  exact hstates.imp fun _ h => liveAgrees_of_inv h

/-! ## A market order that the book does not fill

The book has 1 to sell, and a market order wants 2 of it. -/

namespace ThinBook

def book : MarketEvent :=
  .orderBook
    { timestampNs := 1, exchange := "HYPERLIQUID", symbol := "BTC"
      bidPx := ![98, 0, 0, 0, 0], bidSz := ![1, 0, 0, 0, 0]
      askPx := ![101, 0, 0, 0, 0], askSz := ![1, 0, 0, 0, 0] }

def marketBuy (quantity : Nat) : StrategyCall :=
  .sendNewOrder
    { orderId := 1, exchangeId := .HYPERLIQUID, instrumentId := 7, side := .BUY
      orderType := .MARKET, tif := .IOC, price := 0, quantity := quantity, execInst := 0
      exchangeSymbol := "BTC" }

/-- The fill is reported, and what follows it, until no call is left. -/
def events (quantity : Nat) : List BacktestEvent :=
  [.market book, .resume, .call (marketBuy quantity), .resume, .resume, .resume, .resume]

end ThinBook

open ThinBook in
theorem live_agrees_of_tidy_filled :
    1 ∉ (exec step (init fun _ => 0) (events 100000000)).client.live ∧
      AllStates step LiveAgrees (init fun _ => 0) (events 100000000) :=
  ⟨by decide +kernel, live_agrees_of_tidy _ (by decide +kernel)⟩

open ThinBook in
theorem not_live_agrees_of_thinBook :
    ¬ ∀ latency es, AllStates step LiveAgrees (init latency) es := by
  intro h
  have hagrees := (h (fun _ => 0) (events 200000000)).final (by decide +kernel) 1
  -- the order is live, and the engine has nothing of it
  rcases hagrees.mp (by decide +kernel) with ⟨o, ho, -⟩ | ⟨pf, hpf, -⟩
  · exact absurd (Multiset.card_pos_iff_exists_mem.mpr ⟨o, ho⟩) (by decide +kernel)
  · exact absurd (List.length_pos_of_mem hpf) (by decide +kernel)

end Backtest

end BptCore.Backtester
