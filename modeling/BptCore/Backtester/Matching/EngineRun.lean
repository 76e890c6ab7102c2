import BptCore.Backtester.Matching.EntryPoints
import BptCore.Lib.Machine

/-!
# Runs of the matching engine

The engine by itself, driven by market events, submits and cancels in any order. Every order is
submitted under an id of its own, as the engine asks of its callers.

* **`Submission`** — what a caller sets of an order.
* **`step`** — one event, with the fills that are matched and those that are handed over.
* **`slots_mirror_orders`** — in every state, the slots of ours and the resting orders with a slot
  stand for each other, one to one.
-/

namespace BptCore.Backtester

open Machine OpenItems

/-- An order as a caller hands it in. The rest of it is the engine's to set. -/
structure Submission where
  orderId : Nat
  clientOrderId : Nat
  exchange : String
  symbol : String
  type : MatchType
  side : OrderSide
  price : ℚ
  quantity : ℚ
  filledQty : ℚ := 0
  submittedTs : Nat := 0

def Submission.order (o : Submission) : OpenOrder where
  orderId := o.orderId
  clientOrderId := o.clientOrderId
  exchange := o.exchange
  symbol := o.symbol
  type := o.type
  side := o.side
  price := o.price
  quantity := o.quantity
  filledQty := o.filledQty
  submittedTs := o.submittedTs

inductive EngineEvent where
  | market (event : MarketEvent)
  | submit (o : Submission)
  | cancel (exchange symbol : String) (orderId : Nat)

inductive EngineOutput where
  | matched (fr : FillReport)
  | delivered (fr : FillReport)

/-- The ids under which orders are submitted. -/
def submittedIds (es : List EngineEvent) : List Nat :=
  es.filterMap fun
    | .submit o => some o.orderId
    | .market _ | .cancel _ _ _ => none

namespace MatchingEngine

def Outcome.outputs (out : Outcome) : List EngineOutput :=
  out.matched.map .matched ++ out.deliveries.map .delivered

def step (e : MatchingEngine) : EngineEvent → MatchingEngine × List EngineOutput
  | .market event => ((e.onMarketEvent event).engine, (e.onMarketEvent event).outputs)
  | .submit o => ((e.submitOrder o.order).1.engine, (e.submitOrder o.order).1.outputs)
  | .cancel exchange symbol orderId => ((e.cancelOrder exchange symbol orderId).1, [])

/-- The engine at its start, with the delays that the latency model will draw. -/
def start (latency : Nat → Nat) : MatchingEngine := { latency := latency }

/-- The fills that were matched, in order. -/
def matchedFills (outs : List EngineOutput) : List FillReport :=
  outs.filterMap fun
    | .matched fr => some fr
    | .delivered _ => none

theorem matchedFills_append (outs outs' : List EngineOutput) :
    matchedFills (outs ++ outs') = matchedFills outs ++ matchedFills outs' :=
  List.filterMap_append

theorem matchedFills_outputs (out : Outcome) : matchedFills out.outputs = out.matched := by
  have hmatched : matchedFills (out.matched.map .matched) = out.matched := by
    rw [matchedFills, List.filterMap_map]
    exact List.filterMap_some
  have hdelivered : matchedFills (out.deliveries.map .delivered) = [] := by
    rw [matchedFills, List.filterMap_map]
    exact List.filterMap_eq_nil_iff.mpr fun _ _ => rfl
  rw [Outcome.outputs, matchedFills_append, hmatched, hdelivered, List.append_nil]

/-! ## One event -/

/-- An order that is submitted has an id that the engine does not hold. -/
def Fresh (e : MatchingEngine) : EngineEvent → Prop
  | .submit o => o.orderId ∉ keys orderService e.held
  | .market _ | .cancel _ _ _ => True

/-- The order that an event brings in, as the engine takes it. -/
def incoming (e : MatchingEngine) : EngineEvent → Multiset OpenOrder
  | .submit o => {({ o.order with submittedTs := e.currentTs } : OpenOrder)}
  | .market _ | .cancel _ _ _ => 0

theorem start_inStep (latency : Nat → Nat) : (start latency).InStep := .empty latency

/-- **The step lemma.** An event keeps the engine in step, and what it matches serves the orders
that are held and the one that comes in. Any of them may be dropped. -/
theorem step_inStep {e : MatchingEngine} (h : e.InStep) {ev : EngineEvent} (hfresh : e.Fresh ev) :
    (e.step ev).1.InStep ∧ Moves orderService (fun _ => True) (e.incoming ev + e.held)
      (matchedFills (e.step ev).2) (e.step ev).1.held := by
  cases ev with
  | market event =>
    have hserves := onMarketEvent_serves (L := fun _ => True) h event
      fun _ _ _ => Or.inr trivial
    refine ⟨hserves.inStep, ?_⟩
    rw [step, matchedFills_outputs, incoming, zero_add]
    exact hserves.moves
  | submit o =>
    rw [step, matchedFills_outputs, incoming, Multiset.singleton_add]
    cases hrefuses : e.refuses { o.order with submittedTs := e.currentTs } with
    | true =>
      rw [submitOrder_of_refuses hrefuses]
      exact ⟨h, .leave trivial (.done _)⟩
    | false =>
      have hserves := submitOrder_serves (L := fun _ => True) h (o := o.order) rfl hfresh hrefuses
        fun _ _ _ => Or.inr trivial
      have hmoves : Moves orderService (fun _ => True)
          (e.queued { o.order with submittedTs := e.currentTs }).held _ _ := hserves.moves
      rw [held_queued] at hmoves
      exact ⟨hserves.inStep, hmoves⟩
  | cancel exchange symbol orderId =>
    obtain ⟨hstep, hcases⟩ := cancelOrder_spec h exchange symbol orderId
    refine ⟨hstep, ?_⟩
    show Moves orderService _ (0 + e.held) [] (e.cancelOrder exchange symbol orderId).1.held
    rw [zero_add]
    rcases hcases with ⟨-, o, -, hheld⟩ | ⟨-, hsame, -⟩
    · rw [hheld]
      exact .leave trivial (.done _)
    · rw [hsame]
      exact .done _

theorem keys_incoming (e : MatchingEngine) (ev : EngineEvent) :
    keys orderService (e.incoming ev + e.held) = submittedIds [ev] + keys orderService e.held := by
  rw [keys, Multiset.map_add]
  congr 1
  cases ev <;> rfl

theorem incoming_nodup {e : MatchingEngine} (h : e.InStep) {ev : EngineEvent}
    (hfresh : e.Fresh ev) :
    (keys orderService (e.incoming ev + e.held)).Nodup := by
  cases ev with
  | submit o =>
    rw [incoming, Multiset.singleton_add, keys_cons]
    exact Multiset.nodup_cons.mpr ⟨hfresh, h.keys_nodup⟩
  | market event => rw [incoming, zero_add]; exact h.keys_nodup
  | cancel exchange symbol orderId => rw [incoming, zero_add]; exact h.keys_nodup

theorem step_keys_le {e : MatchingEngine} (h : e.InStep) {ev : EngineEvent} (hfresh : e.Fresh ev) :
    keys orderService (e.step ev).1.held ≤ submittedIds [ev] + keys orderService e.held :=
  (step_inStep h hfresh).2.keys_le.trans (le_of_eq (e.keys_incoming ev))

theorem submittedIds_append (es es' : List EngineEvent) :
    submittedIds (es ++ es') = submittedIds es ++ submittedIds es' :=
  List.filterMap_append

/-! ## The run -/

/-- Distinct ids are fresh, one after the other. -/
theorem alongRun_fresh {e : MatchingEngine} (h : e.InStep) {es : List EngineEvent}
    (hdistinct : (submittedIds es).Nodup)
    (hnew : ∀ id ∈ submittedIds es, id ∉ keys orderService e.held) : AlongRun step Fresh e es := by
  induction es generalizing e with
  | nil => trivial
  | cons ev es ih =>
    rw [← List.singleton_append, submittedIds_append] at hdistinct hnew
    obtain ⟨-, hrest, hdisjoint⟩ := List.nodup_append.mp hdistinct
    have hfresh : e.Fresh ev := by
      cases ev with
      | submit o => exact hnew o.orderId (List.mem_append_left _ List.mem_cons_self)
      | market event => trivial
      | cancel exchange symbol orderId => trivial
    refine ⟨hfresh, ih (step_inStep h hfresh).1 hrest fun id hid hheld => ?_⟩
    -- an id that is held was held before, or is that of the order that has come in
    rcases Multiset.mem_add.mp (Multiset.mem_of_le (step_keys_le h hfresh) hheld) with hin | hin
    · exact hdisjoint id (Multiset.mem_coe.mp hin) id hid rfl
    · exact hnew id (List.mem_append_right _ hid) hin

theorem allStates_inStep {e : MatchingEngine} (h : e.InStep) {es : List EngineEvent}
    (hfresh : AlongRun step Fresh e es) : AllStates step InStep e es :=
  .of_assumption (I := InStep) (fun _ _ h hfresh => (step_inStep h hfresh).1) h hfresh

theorem alongRun_fresh_start (latency : Nat → Nat) {es : List EngineEvent}
    (hdistinct : (submittedIds es).Nodup) : AlongRun step Fresh (start latency) es :=
  alongRun_fresh (start_inStep latency) hdistinct fun _ _ => Multiset.notMem_zero _

end MatchingEngine

/-! ## The two tables

What the invariant says of the single orders and slots. -/

/-- An id is that of one resting order, in one book. -/
theorem Consistent.unique {waiting : Multiset OpenOrder} {pending : Table String (List OpenOrder)}
    {sq : SlotQueues} (h : Consistent waiting pending sq) {bk bk' : String} {o o' : OpenOrder}
    (ho : o ∈ restingIn pending bk) (ho' : o' ∈ restingIn pending bk')
    (hid : o'.orderId = o.orderId) : bk' = bk ∧ o' = o := by
  have hresting : ∀ {bk : String} {o : OpenOrder}, o ∈ restingIn pending bk →
      o ∈ waiting + restingOrders pending := fun ho =>
    Multiset.mem_add.mpr (Or.inr (mem_restingOrders_iff.mpr ⟨_, ho⟩))
  obtain rfl := Multiset.inj_on_of_nodup_map h.distinct _ (hresting ho') _ (hresting ho) hid
  exact ⟨(h.own bk' o' ho').symm.trans (h.own bk o' ho), rfl⟩

namespace MatchingEngine

/-- What the slots of an order hold, in the queue of a level. -/
def slotsOf (e : MatchingEngine) (id : Nat) (bk : String) (s : OrderSide) (k : Int) : List ℚ :=
  ((e.slotQueues.queueAt bk s k).filter fun slot =>
    slot.isOurs && slot.ourOrderId == id).map Slot.qty

/-- The orders of the id with a slot at the level stand for the slots. -/
theorem slotsOf_perm {e : MatchingEngine} (h : e.InStep) (id : Nat) (bk : String) (s : OrderSide)
    (k : Int) : (e.slotsOf id bk s k).Perm
      (((restingIn e.pending bk).filter fun o =>
        (o.queueSeeded && o.side == s && priceKey o.price == k) && o.orderId == id).map
          OpenOrder.openQty) := by
  have hfiltered := ((h.slots bk s k).filter fun x => x.1 == id).map Prod.snd
  unfold ours seededAt at hfiltered
  rw [List.filter_map, List.filter_map, List.filter_filter, List.filter_filter, List.map_map,
    List.map_map] at hfiltered
  unfold slotsOf
  rw [List.filter_congr fun slot _ => Bool.and_comm slot.isOurs (slot.ourOrderId == id)]
  rw [List.filter_congr fun (o : OpenOrder) _ => Bool.and_comm
    (o.queueSeeded && o.side == s && priceKey o.price == k) (o.orderId == id)]
  exact hfiltered

/-- The slots of ours and the resting orders with a slot stand for each other. -/
structure SlotsMirrorOrders (e : MatchingEngine) : Prop where
  ids_nodup : ((restingOrders e.pending).map OpenOrder.orderId).Nodup
  one_slot : ∀ bk, ∀ o ∈ restingIn e.pending bk, o.queueSeeded = true → kQtyTol < o.openQty ∧
    ∀ bk' s k, e.slotsOf o.orderId bk' s k =
      if bk' = key o.exchange o.symbol ∧ s = o.side ∧ k = priceKey o.price then [o.openQty] else []
  one_order : ∀ bk s k, ∀ slot ∈ e.slotQueues.queueAt bk s k, slot.isOurs = true →
    ∃ o ∈ restingIn e.pending bk, o.orderId = slot.ourOrderId ∧ o.queueSeeded = true ∧ o.side = s ∧
      priceKey o.price = k ∧
      ∀ bk', ∀ o' ∈ restingIn e.pending bk', o'.orderId = slot.ourOrderId → bk' = bk ∧ o' = o

theorem InStep.mirror {e : MatchingEngine} (h : e.InStep) : e.SlotsMirrorOrders where
  ids_nodup := by
    refine Multiset.nodup_of_le (Multiset.map_le_map ?_) h.distinct
    exact Multiset.le_add_left _ _
  one_slot bk o ho hseeded := by
    refine ⟨h.left bk o ho hseeded, fun bk' s k => ?_⟩
    have hperm := slotsOf_perm h o.orderId bk' s k
    have hown := h.own bk o ho
    by_cases hlevel : bk' = key o.exchange o.symbol ∧ s = o.side ∧ k = priceKey o.price
    · obtain ⟨rfl, rfl, rfl⟩ := hlevel
      rw [if_pos ⟨rfl, rfl, rfl⟩]
      rw [hown] at hperm ⊢
      -- the order is the one of its id, and it is at the level
      have hone : (restingIn e.pending bk).filter (fun o' =>
          (o'.queueSeeded && o'.side == o.side && priceKey o'.price == priceKey o.price) &&
            o'.orderId == o.orderId) = [o] := by
        rw [List.filter_congr (q := fun o' => o' == o), List.filter_beq,
          List.count_eq_one_of_mem (h.ids_nodup bk).of_map ho]
        · rfl
        · intro o' ho'
          by_cases hsame : o' = o
          · subst hsame
            simp [hseeded]
          · rw [beq_eq_false_iff_ne.mpr hsame, beq_eq_false_iff_ne.mpr
              fun hid => hsame (h.unique ho ho' hid).2, Bool.and_false]
      rw [hone] at hperm
      exact List.perm_singleton.mp hperm
    · rw [if_neg hlevel]
      have hnone : (restingIn e.pending bk').filter (fun o' =>
          (o'.queueSeeded && o'.side == s && priceKey o'.price == k) && o'.orderId == o.orderId) =
            [] := by
        refine List.filter_eq_nil_iff.mpr fun o' ho' hat => hlevel ?_
        simp only [Bool.and_eq_true, beq_iff_eq] at hat
        obtain ⟨⟨⟨-, hside⟩, hkey⟩, hid⟩ := hat
        obtain ⟨hbk, rfl⟩ := h.unique ho ho' hid
        exact ⟨hbk.trans hown.symm, hside.symm, hkey.symm⟩
      rw [hnone] at hperm
      exact List.perm_nil.mp hperm
  one_order bk s k slot hslot hours := by
    have howner : (slot.ourOrderId, slot.qty) ∈ seededAt (restingIn e.pending bk) s k := by
      refine (h.slots bk s k).mem_iff.mp ?_
      exact List.mem_map_of_mem (f := fun slot : Slot => (slot.ourOrderId, slot.qty))
        (List.mem_filter.mpr ⟨hslot, hours⟩)
    obtain ⟨o, ho, heq⟩ := List.mem_map.mp howner
    rw [List.mem_filter, Bool.and_eq_true, Bool.and_eq_true, beq_iff_eq, beq_iff_eq] at ho
    obtain ⟨hmem, ⟨hseeded, hside⟩, hkey⟩ := ho
    have hid : o.orderId = slot.ourOrderId := congrArg Prod.fst heq
    exact ⟨o, hmem, hid, hseeded, hside, hkey, fun bk' o' ho' hid' =>
      h.unique hmem ho' (hid'.trans hid.symm)⟩

namespace HalfEaten

def book : MarketEvent :=
  .orderBook
    { timestampNs := 1, exchange := "OKX", symbol := "BTC"
      bidPx := ![98, 0, 0, 0, 0], bidSz := ![1, 0, 0, 0, 0]
      askPx := ![101, 0, 0, 0, 0], askSz := ![1, 0, 0, 0, 0] }

def buy : Submission where
  orderId := 1
  clientOrderId := 1
  exchange := "OKX"
  symbol := "BTC"
  type := .LIMIT
  side := .BUY
  price := 100
  quantity := 2

def print : MarketEvent :=
  .trade
    { timestampNs := 2, price := 100, quantity := 3 / 2, side := .SELL, exchange := "OKX"
      symbol := "BTC" }

def events : List EngineEvent := [.market book, .submit buy, .market print]

end HalfEaten

end MatchingEngine

end BptCore.Backtester
