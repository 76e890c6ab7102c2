import BptCore.Backtester.Matching.TradedSlots

/-!
# The entry points of the engine

* **`onMarketEvent_serves`** — an event serves the orders that the engine holds.
* **`submitOrder_serves`** — a submit brings in its order, and serves.
* **`cancelOrder_spec`** — a cancel takes its order out, or changes nothing.
-/

namespace BptCore.Backtester

open OpenItems

variable {waiting : Multiset OpenOrder} {pending : Table String (List OpenOrder)}
  {sq sq' : SlotQueues} {fs gs : List FillReport} {L : Nat → Prop}

theorem Consistent.congr (h : Consistent waiting pending sq)
    (hours : ∀ bk s k, ours (sq'.queueAt bk s k) = ours (sq.queueAt bk s k)) :
    Consistent waiting pending sq' :=
  { h with slots := fun bk s k => by rw [hours]; exact h.slots bk s k }

namespace MatchingEngine

variable {e e' e'' : MatchingEngine}

theorem Serves.trans (h : e.Serves L fs e') (h' : e'.Serves L gs e'') : e.Serves L (fs ++ gs) e'' :=
  Advances.trans h h'

/-- An engine that holds nothing is in step. -/
theorem InStep.empty (latency : Nat → Nat) : ({ latency := latency } : MatchingEngine).InStep where
  unseeded _ h := absurd h (Multiset.notMem_zero _)
  slots _ _ _ := .refl _
  left _ _ h := absurd h List.not_mem_nil
  own _ _ h := absurd h List.not_mem_nil
  distinct := Multiset.nodup_zero

theorem Serves.inStep (h : e.Serves L fs e') : e'.InStep := h.consistent

theorem applyEvent_pendingSubmits (event : MarketEvent) :
    (e.applyEvent event).1.pendingSubmits = e.pendingSubmits := by
  cases event with
  | orderBook ob =>
    unfold applyEvent fillCrossingLimits
    dsimp only
    split
    · split <;> rfl
    · rfl
  | trade t =>
    unfold applyEvent fillAgainstTrade
    dsimp only
    split <;> rfl

theorem applyEvent_serves (h : e.InStep) (event : MarketEvent) :
    e.Serves L (e.applyEvent event).2 (e.applyEvent event).1 := by
  unfold Serves
  rw [applyEvent_pendingSubmits]
  cases event with
  | orderBook ob =>
    have hbook := h.congr
      (ours_reconcileL2Snapshot (key ob.exchange ob.symbol) ob.timestampNs ob e.slotQueues)
    exact advances_fillCrossingLimits (e := { e with
      currentTs := ob.timestampNs
      slotQueues := reconcileL2Snapshot (key ob.exchange ob.symbol) ob.timestampNs ob e.slotQueues
      books := e.books.insert (key ob.exchange ob.symbol) ob }) _ hbook
  | trade t => exact advances_fillAgainstTrade (e := { e with currentTs := t.timestampNs }) t h

theorem scheduleFills_serves (h : e.InStep) (fills : List FillReport) :
    e.Serves L [] (e.scheduleFills fills) := by
  obtain ⟨pendingFills, drawn, hscheduled⟩ := e.scheduleFills_eq fills
  rw [hscheduled]
  exact Advances.refl h

theorem drainPendingFills_serves (h : e.InStep) (uptoTs : Nat) :
    e.Serves L [] (e.drainPendingFills uptoTs).1 :=
  Advances.refl h

/-- **A market event** serves the held orders. -/
theorem onMarketEvent_serves (h : e.InStep) (event : MarketEvent)
    (hL : DueComplete L e.books event.timestampNs e.pendingSubmits) :
    e.Serves L (e.onMarketEvent event).matched (e.onMarketEvent event).engine := by
  let submitted := e.drainPendingSubmits event.timestampNs
  let applied := submitted.1.applyEvent event
  let scheduled := applied.1.scheduleFills applied.2
  have hsubmitted : e.Serves L submitted.2 submitted.1 := drainPendingSubmits_serves h hL
  have happlied : submitted.1.Serves L applied.2 applied.1 :=
    applyEvent_serves hsubmitted.inStep event
  have hscheduled : applied.1.Serves L [] scheduled :=
    scheduleFills_serves happlied.inStep applied.2
  have hdrained := drainPendingFills_serves (L := L) hscheduled.inStep scheduled.currentTs
  have hall := (hsubmitted.trans happlied).trans (hscheduled.trans hdrained)
  rwa [List.append_nil, List.append_nil] at hall

/-! ## A submit -/

/-- The order waits to be matched. -/
def queued (e : MatchingEngine) (o : OpenOrder) : MatchingEngine :=
  let (latencyNs, e) := e.draw
  { e with
    pendingSubmits := e.pendingSubmits ++
      [{ order := o, scheduledMatchTs := e.currentTs + latencyNs }] }

theorem submitOrder_of_refuses {o : OpenOrder}
    (h : e.refuses { o with submittedTs := e.currentTs } = true) : e.submitOrder o =
      ({ engine := e, matched := [], deliveries := [] },
        { o with submittedTs := e.currentTs, rejected := true }) := by
  unfold submitOrder
  dsimp only
  rw [if_pos h]

/-- An order that is not refused waits, and what is due is matched and handed over. -/
theorem submitOrder_of_not_refuses {o : OpenOrder}
    (h : e.refuses { o with submittedTs := e.currentTs } = false) :
    let submitted :=
      (e.queued { o with submittedTs := e.currentTs }).drainPendingSubmits e.currentTs
    let drained := submitted.1.drainPendingFills submitted.1.currentTs
    e.submitOrder o = ({ engine := drained.1, matched := submitted.2, deliveries := drained.2 },
      { o with submittedTs := e.currentTs }) := by
  unfold submitOrder
  dsimp only
  rw [if_neg (by rw [h]; exact Bool.false_ne_true)]
  rfl

/-- The order comes back rejected exactly when it is refused. -/
theorem submitOrder_rejected {o : OpenOrder} (hnew : o.rejected = false) :
    (e.submitOrder o).2.rejected = e.refuses { o with submittedTs := e.currentTs } := by
  cases h : e.refuses { o with submittedTs := e.currentTs } with
  | true => rw [submitOrder_of_refuses h]
  | false =>
    rw [submitOrder_of_not_refuses h]
    exact hnew

theorem waitingOrders_queued (o : OpenOrder) :
    waitingOrders (e.queued o).pendingSubmits = o ::ₘ waitingOrders e.pendingSubmits := by
  rw [← waitingOrders_cons { order := o, scheduledMatchTs := e.draw.2.currentTs + e.draw.1 }]
  exact waitingOrders_perm (List.perm_append_singleton _ _)

theorem queued_inStep (h : e.InStep) {o : OpenOrder} (hunseeded : o.queueSeeded = false)
    (hnew : o.orderId ∉ keys orderService e.held) : (e.queued o).InStep := by
  unfold InStep
  rw [waitingOrders_queued]
  refine { h with unseeded := fun x hx => ?_, distinct := ?_ }
  · rcases Multiset.mem_cons.mp hx with rfl | hx
    · exact hunseeded
    · exact h.unseeded x hx
  · rw [Multiset.cons_add, Multiset.map_cons, Multiset.nodup_cons]
    rw [held, keys_heldOrders] at hnew
    exact ⟨hnew, h.distinct⟩

/-- **A submit** that is not refused brings in its order, and serves the orders that are then held.
-/
theorem submitOrder_serves (h : e.InStep) {o : OpenOrder} (hunseeded : o.queueSeeded = false)
    (hnew : o.orderId ∉ keys orderService e.held)
    (haccepted : e.refuses { o with submittedTs := e.currentTs } = false)
    (hL : DueComplete L e.books e.currentTs
      (e.queued { o with submittedTs := e.currentTs }).pendingSubmits) :
    (e.queued { o with submittedTs := e.currentTs }).Serves L (e.submitOrder o).1.matched
      (e.submitOrder o).1.engine := by
  have hqueued := queued_inStep h (o := { o with submittedTs := e.currentTs }) hunseeded hnew
  have hsubmitted := drainPendingSubmits_serves hqueued hL
  have hall := hsubmitted.trans (drainPendingFills_serves hsubmitted.inStep
    ((e.queued { o with submittedTs := e.currentTs }).drainPendingSubmits e.currentTs).1.currentTs)
  rw [List.append_nil] at hall
  rw [submitOrder_of_not_refuses haccepted]
  exact hall

theorem held_queued (o : OpenOrder) : (e.queued o).held = o.bare ::ₘ e.held := by
  unfold held
  rw [waitingOrders_queued, heldOrders_cons]
  rfl

end MatchingEngine

/-! ## A cancel -/

theorem seededAt_perm {orders orders' : List OpenOrder} (h : orders.Perm orders') (s : OrderSide)
    (k : Int) : (seededAt orders s k).Perm (seededAt orders' s k) :=
  (h.filter _).map _

theorem mem_seededAt_ids {orders : List OpenOrder} {s : OrderSide} {k : Int} {x : Nat × ℚ}
    (h : x ∈ seededAt orders s k) : x.1 ∈ orders.map OpenOrder.orderId := by
  obtain ⟨o, ho, rfl⟩ := List.mem_map.mp h
  exact List.mem_map_of_mem (List.mem_filter.mp ho).1

theorem ours_filter_id (q : List Slot) (id : Nat) :
    ours (q.filter fun slot => !(slot.isOurs && slot.ourOrderId == id)) =
      (ours q).filter fun x => !(x.1 == id) := by
  unfold ours
  rw [List.filter_map, List.filter_filter, List.filter_filter]
  congr 1
  refine List.filter_congr fun slot _ => ?_
  cases slot.isOurs with
  | true => rw [Bool.true_and, Bool.and_true]; rfl
  | false => rw [Bool.false_and, Bool.and_false]

/-- The order's slots go out of its level, and no others. -/
theorem ours_removeSlot (e : MatchingEngine) (bk : String) (o : OpenOrder) (bk' : String)
    (s : OrderSide) (k : Int) :
    ours ((e.removeSlot bk o).queueAt bk' s k) =
      if o.queueSeeded = true ∧ bk' = bk ∧ s = o.side ∧ k = priceKey o.price then
        (ours (e.slotQueues.queueAt bk' s k)).filter fun x => !(x.1 == o.orderId)
      else ours (e.slotQueues.queueAt bk' s k) := by
  unfold MatchingEngine.removeSlot
  cases hseeded : o.queueSeeded with
  | false =>
    rw [if_neg Bool.false_ne_true, if_neg fun h => Bool.false_ne_true h.1]
  | true =>
    rw [if_pos rfl]
    split
    · next q hqueue =>
      rw [SlotQueues.queueAt_setLevelQueue]
      by_cases hlevel : bk' = bk ∧ s = o.side ∧ k = priceKey o.price
      · obtain ⟨rfl, rfl, rfl⟩ := hlevel
        rw [if_pos ⟨rfl, rfl, rfl⟩, if_pos ⟨rfl, rfl, rfl, rfl⟩, ours_filter_id,
          SlotQueues.queueAt_of_levelQueueIfExists _ _ _ _ hqueue]
      · rw [if_neg hlevel, if_neg fun h => hlevel h.2]
    · next hqueue =>
      split
      · next hlevel =>
        obtain ⟨-, rfl, rfl, rfl⟩ := hlevel
        rw [SlotQueues.queueAt_of_levelQueueIfExists_none _ _ _ _ hqueue]
        rfl
      · rfl

/-- **A resting order goes out**, and its slot with it. -/
theorem Consistent.removeSlot {e : MatchingEngine} {bk : String} {o : OpenOrder}
    {orders : List OpenOrder} (h : Consistent waiting e.pending e.slotQueues)
    (hresting : (restingIn e.pending bk).Perm (o :: orders)) :
    Consistent waiting (e.pending.insert bk orders) (e.removeSlot bk o) := by
  have hmem : ∀ x ∈ orders, x ∈ restingIn e.pending bk := fun x hx =>
    hresting.mem_iff.mpr (List.mem_cons_of_mem o hx)
  -- no other order of the book has the id
  have hnot : o.orderId ∉ orders.map OpenOrder.orderId := by
    have hids := (hresting.map OpenOrder.orderId).nodup_iff.mp (h.ids_nodup bk)
    exact (List.nodup_cons.mp hids).1
  refine h.write (.insert _ _ _) h.unseeded (fun s k => ?_) (fun bk' s k hbk => ?_)
    (fun x hx => h.left bk x (hmem x hx)) (fun x hx => h.own bk x (hmem x hx)) ?_
  · have hslots := (h.slots bk s k).trans (seededAt_perm hresting s k)
    rw [seededAt_cons] at hslots
    rw [ours_removeSlot]
    by_cases hlevel : o.queueSeeded = true ∧ o.side = s ∧ priceKey o.price = k
    · rw [if_pos hlevel] at hslots
      rw [if_pos ⟨hlevel.1, rfl, hlevel.2.1.symm, hlevel.2.2.symm⟩]
      have hothers : (seededAt orders s k).filter (fun x => !(x.1 == o.orderId)) =
          seededAt orders s k := List.filter_eq_self.mpr fun x hx => by
        rw [Bool.not_eq_true', beq_eq_false_iff_ne]
        exact fun heq => hnot (heq ▸ mem_seededAt_ids hx)
      have hfiltered := hslots.filter fun x => !(x.1 == o.orderId)
      rw [List.filter_cons_of_neg (by simp), hothers] at hfiltered
      exact hfiltered
    · rw [if_neg hlevel] at hslots
      rw [if_neg fun hown => hlevel ⟨hown.1, hown.2.2.1.symm, hown.2.2.2.symm⟩]
      exact hslots
  · rw [ours_removeSlot, if_neg fun hown => hbk hown.2.1]
  · rw [Multiset.coe_eq_coe.mpr hresting, ← Multiset.cons_coe]
    exact Multiset.map_le_map (add_le_add_right (Multiset.le_cons_self _ _) _)

/-- The entry that is found is the one that is erased. -/
theorem perm_cons_eraseP {α : Type*} {p : α → Bool} {l : List α} {a : α} (h : l.find? p = some a) :
    p a = true ∧ l.Perm (a :: l.eraseP p) := by
  induction l with
  | nil => cases h
  | cons x l ih =>
    by_cases hx : p x = true
    · rw [List.find?_cons_of_pos hx] at h
      cases h
      rw [List.eraseP_cons_of_pos hx]
      exact ⟨hx, .refl _⟩
    · rw [List.find?_cons_of_neg hx] at h
      obtain ⟨ha, hperm⟩ := ih h
      rw [List.eraseP_cons_of_neg hx]
      exact ⟨ha, (hperm.cons x).trans (.swap a x _)⟩

namespace MatchingEngine

/-- **A cancel** takes out the one order of its id, or finds none in its book. -/
theorem cancelOrder_spec {e : MatchingEngine} (h : e.InStep) (exchange symbol : String)
    (orderId : Nat) :
    let out := e.cancelOrder exchange symbol orderId
    out.1.InStep ∧
      ((out.2 = true ∧ ∃ o : OpenOrder, o.orderId = orderId ∧ e.held = o ::ₘ out.1.held) ∨
        (out.2 = false ∧ out.1 = e ∧ ∀ o ∈ e.held, o.exchange = exchange → o.symbol = symbol →
          o.orderId ≠ orderId)) := by
  unfold cancelOrder
  dsimp only
  split
  · next o hfound =>
    -- the order rests
    obtain ⟨hid, hperm⟩ := perm_cons_eraseP hfound
    let orders := (restingIn e.pending (key exchange symbol)).eraseP fun o => o.orderId == orderId
    have hresting : (restingIn e.pending (key exchange symbol)).Perm (o :: orders) := hperm
    refine ⟨Consistent.removeSlot h hresting, Or.inl ⟨rfl, o.bare, beq_iff_eq.mp hid, ?_⟩⟩
    show e.held = o.bare ::ₘ heldOrders _ (e.pending.insert _ orders)
    rw [(Written.insert e.pending (key exchange symbol) orders).held, held,
      heldOrders_eq _ e.pending (key exchange symbol), Multiset.coe_eq_coe.mpr hresting,
      ← Multiset.cons_coe, Multiset.map_cons, Multiset.cons_add]
  · next hnone =>
    split
    · next hwaits =>
      -- the order waits to be matched
      obtain ⟨ps, hfound⟩ := Option.isSome_iff_exists.mp
        (List.find?_isSome.mpr (List.any_eq_true.mp hwaits))
      obtain ⟨hit, hperm⟩ := perm_cons_eraseP hfound
      have hwaiting := waitingOrders_perm hperm
      rw [waitingOrders_cons] at hwaiting
      rw [Bool.and_eq_true, beq_iff_eq] at hit
      unfold InStep held at *
      rw [hwaiting] at h ⊢
      exact ⟨h.drop, Or.inl ⟨rfl, ps.order.bare, hit.2, heldOrders_cons _ _ _⟩⟩
    · next hwaits =>
      refine ⟨h, Or.inr ⟨rfl, rfl, fun o ho hexchange hsymbol hid => ?_⟩⟩
      obtain ⟨x, hx, rfl⟩ := Multiset.mem_map.mp ho
      rcases Multiset.mem_add.mp hx with hx | hx
      · obtain ⟨ps, hps, rfl⟩ := List.mem_map.mp (Multiset.mem_coe.mp hx)
        refine hwaits (List.any_eq_true.mpr ⟨ps, hps, ?_⟩)
        rw [Bool.and_eq_true, Bool.and_eq_true, beq_iff_eq, beq_iff_eq, beq_iff_eq]
        exact ⟨⟨hexchange, hsymbol⟩, hid⟩
      · obtain ⟨bk, hbk⟩ := mem_restingOrders_iff.mp hx
        have hbook : key exchange symbol = bk := by
          rw [← h.own bk x hbk, ← hexchange, ← hsymbol]
          rfl
        rw [← hbook] at hbk
        exact List.find?_eq_none.mp hnone x hbk (beq_iff_eq.mpr hid)

end MatchingEngine

end BptCore.Backtester
