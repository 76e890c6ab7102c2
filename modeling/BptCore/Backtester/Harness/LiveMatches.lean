import BptCore.Backtester.Harness.FillDelivery
import BptCore.Backtester.Harness.StepEffect

/-!
# The live orders and the engine's orders

The gateway finds the engine's order of a live order by the exchange and the symbol that the live
order has. The two always agree on them, so a cancel never misses.

* **`Matches`** — the invariant.
* **`Matches.withdraw`**, **`Matches.submit`**, **`Matches.market`** — what the gateway asks of the
  engine keeps it.
* **`Matches.newOrder`**, **`Matches.replace`** — a new order and a modified one, with their live
  order.
-/

namespace BptCore.Backtester

open OpenItems
open Strategy (OutboundNewOrder ModifyOrderRequest)

/-- The order is where the live order says. -/
def SameBook (live : Table Nat LiveOrder) (o : OpenOrder) : Prop :=
  ∀ lo, live.lookup o.orderId = some lo → o.exchange = lo.exchange ∧ o.symbol = lo.exchangeSymbol

/-- The engine is in step, and its orders are where the live orders say. -/
structure Matches (engine : MatchingEngine) (live : Table Nat LiveOrder) : Prop where
  inStep : engine.InStep
  sameBook : ∀ o ∈ engine.held, SameBook live o

variable {e : MatchingEngine} {live live' : Table Nat LiveOrder} {lo : LiveOrder} {id : Nat}
  {L : Nat → Prop}

theorem Matches.init (latency : Nat → Nat) : Matches (Backtest.init latency).engine ∅ where
  inStep := .empty latency
  sameBook _ h := absurd h (Multiset.notMem_zero _)

/-- Live orders that change, but not in their exchange and symbol, or that go. -/
theorem Matches.relive (h : Matches e live)
    (hlive : ∀ id lo', live'.lookup id = some lo' → ∃ lo, live.lookup id = some lo ∧
      lo.exchange = lo'.exchange ∧ lo.exchangeSymbol = lo'.exchangeSymbol) : Matches e live' where
  inStep := h.inStep
  sameBook o ho lo' hlo' := by
    obtain ⟨lo, hlo, hexchange, hsymbol⟩ := hlive o.orderId lo' hlo'
    rw [← hexchange, ← hsymbol]
    exact h.sameBook o ho lo hlo

theorem Matches.insert (h : Matches e live) (hlive : live.lookup id = some lo) {lo' : LiveOrder}
    (hexchange : lo.exchange = lo'.exchange) (hsymbol : lo.exchangeSymbol = lo'.exchangeSymbol) :
    Matches e (live.insert id lo') := by
  refine h.relive fun id' lo'' hlo'' => ?_
  rw [Table.lookup_insert_eq] at hlo''
  split at hlo''
  · next hid =>
    cases hlo''
    exact ⟨lo, hid ▸ hlive, hexchange, hsymbol⟩
  · exact ⟨lo'', hlo'', rfl, rfl⟩

theorem Matches.erase (h : Matches e live) (id : Nat) : Matches e (live.erase id) := by
  refine h.relive fun id' lo' hlo' => ?_
  rw [Table.lookup_erase_eq] at hlo'
  split at hlo'
  · cases hlo'
  · exact ⟨lo', hlo', rfl, rfl⟩

/-- **A live order is withdrawn**: the engine's order of the id goes, if there is one. -/
theorem Matches.withdraw (h : Matches e live) (hlive : live.lookup id = some lo) :
    let e' := (e.cancelOrder lo.exchange lo.exchangeSymbol id).1
    Matches e' live ∧ id ∉ keys orderService e'.held ∧
      ∃ gone : Multiset OpenOrder, e.held = gone + e'.held ∧ ∀ o ∈ gone, o.orderId = id := by
  obtain ⟨hstep, hcases⟩ :=
    MatchingEngine.cancelOrder_spec h.inStep lo.exchange lo.exchangeSymbol id
  obtain ⟨-, o, hid, hheld⟩ | ⟨-, hsame, hnone⟩ := hcases
  · have hkeys : (keys orderService e.held).Nodup := h.inStep.keys_nodup
    rw [hheld] at hkeys
    refine ⟨⟨hstep, fun x hx => h.sameBook x ?_⟩, ?_, {o}, ?_, fun x hx => ?_⟩
    · rw [hheld]
      exact Multiset.mem_cons_of_mem hx
    · have hgone := key_notMem hkeys
      rwa [show orderService.key o = id from hid] at hgone
    · rw [Multiset.singleton_add]
      exact hheld
    · rw [Multiset.mem_singleton.mp hx]
      exact hid
  · dsimp only
    rw [hsame]
    refine ⟨h, fun hmem => ?_, 0, (Multiset.zero_add _).symm, fun _ hx =>
      absurd hx (Multiset.notMem_zero _)⟩
    obtain ⟨o, ho, hkey⟩ := Multiset.mem_map.mp hmem
    have hid : o.orderId = id := hkey
    obtain ⟨hexchange, hsymbol⟩ := h.sameBook o ho lo (hid ▸ hlive)
    exact hnone o ho hexchange hsymbol hid

/-- The orders that are left are where they were. -/
theorem sameBook_of_moves {s t : Multiset OpenOrder} {fs : List FillReport}
    (h : Moves orderService L s fs t) (hs : ∀ o ∈ s, SameBook live o) : ∀ o ∈ t, SameBook live o :=
  h.forall (fun _ _ hsame => hsame) hs

theorem Matches.market (h : Matches e live) {event : MarketEvent}
    (hL : DueComplete L e.books event.timestampNs e.pendingSubmits) :
    Matches (e.onMarketEvent event).engine live ∧
      Moves orderService L e.held (e.onMarketEvent event).matched
        (e.onMarketEvent event).engine.held := by
  have hserves := MatchingEngine.onMarketEvent_serves h.inStep event hL
  exact ⟨⟨hserves.inStep, sameBook_of_moves hserves.moves h.sameBook⟩, hserves.moves⟩

/-- The submits that are due once an order is submitted complete, but for those of `L`. -/
def SubmitCompletes (L : Nat → Prop) (e : MatchingEngine) (o : OpenOrder) : Prop :=
  DueComplete L e.books e.currentTs (e.queued { o with submittedTs := e.currentTs }).pendingSubmits

/-- **A submit** of an order that is not held, and is where its live order says. -/
theorem Matches.submit (h : Matches e live) {o : OpenOrder} (hunseeded : o.queueSeeded = false)
    (hnew : o.rejected = false) (hid : o.orderId ∉ keys orderService e.held)
    (haccepted : (e.submitOrder o).2.rejected = false) (hbook : SameBook live o)
    (hL : SubmitCompletes L e o) :
    Matches (e.submitOrder o).1.engine live ∧
      Moves orderService L (({ o with submittedTs := e.currentTs } : OpenOrder).bare ::ₘ e.held)
        (e.submitOrder o).1.matched (e.submitOrder o).1.engine.held := by
  have hrefuses := (MatchingEngine.submitOrder_rejected hnew).symm.trans haccepted
  have hserves := MatchingEngine.submitOrder_serves h.inStep hunseeded hid hrefuses hL
  have hmoves : Moves orderService L (e.queued { o with submittedTs := e.currentTs }).held _ _ :=
    hserves.moves
  rw [MatchingEngine.held_queued] at hmoves
  refine ⟨⟨hserves.inStep, sameBook_of_moves hmoves fun x hx => ?_⟩, hmoves⟩
  rcases Multiset.mem_cons.mp hx with rfl | hx
  · exact hbook
  · exact h.sameBook x hx

open Backtest

variable {s : Backtest}

/-- **A new order**, under an id that is not live. -/
theorem Matches.newOrder (h : Matches s.engine s.client.live) {order : OutboundNewOrder}
    (hnew : order.orderId ∉ keys orderService s.engine.held)
    (haccepted : (s.engine.submitOrder (newOpenOrder order s.client.simulationNowNs)).2.rejected =
      false)
    (hL : SubmitCompletes L s.engine (newOpenOrder order s.client.simulationNowNs)) :
    let o := newOpenOrder order s.client.simulationNowNs
    let out := (s.engine.submitOrder o).1
    Matches out.engine (s.client.live.insert order.orderId (newLiveOrder order)) ∧
      Moves orderService L
        (({ o with submittedTs := s.engine.currentTs } : OpenOrder).bare ::ₘ s.engine.held)
        out.matched out.engine.held := by
  -- the other live orders are as they were
  have hrelive : Matches s.engine (s.client.live.insert order.orderId (newLiveOrder order)) := by
    refine ⟨h.inStep, fun o ho lo hlo => ?_⟩
    have hother : o.orderId ≠ order.orderId := fun heq =>
      hnew (heq ▸ Multiset.mem_map_of_mem orderService.key ho)
    rw [Table.lookup_insert_eq, if_neg hother] at hlo
    exact h.sameBook o ho lo hlo
  have hbook : SameBook (s.client.live.insert order.orderId (newLiveOrder order))
      (newOpenOrder order s.client.simulationNowNs) := by
    intro lo hlo
    have hnewest := (AList.lookup_insert s.client.live).symm.trans hlo
    cases hnewest
    exact ⟨rfl, rfl⟩
  exact hrelive.submit rfl rfl hnew haccepted hbook hL

/-- **A replacement** of a live order, which is withdrawn first. -/
theorem Matches.replace (h : Matches s.engine s.client.live) {modify : ModifyOrderRequest}
    (hlive : s.client.live.lookup modify.orderId = some lo)
    (haccepted : ((s.withdrawn lo modify.orderId).submitOrder (s.replacing lo modify)).2.rejected =
      false)
    (hL : SubmitCompletes L (s.withdrawn lo modify.orderId) (s.replacing lo modify)) :
    let e := s.withdrawn lo modify.orderId
    let out := (e.submitOrder (s.replacing lo modify)).1
    Matches out.engine (s.client.live.insert modify.orderId (lo.modified modify)) ∧
      Moves orderService L
        (({ s.replacing lo modify with submittedTs := e.currentTs } : OpenOrder).bare ::ₘ e.held)
        out.matched out.engine.held := by
  obtain ⟨hwithdrawn, hnot, -⟩ := h.withdraw hlive
  have hmatches : Matches (s.withdrawn lo modify.orderId)
      (s.client.live.insert modify.orderId (lo.modified modify)) := hwithdrawn.insert hlive rfl rfl
  have hbook : SameBook (s.client.live.insert modify.orderId (lo.modified modify))
      (s.replacing lo modify) := by
    intro lo' hlo'
    have hchanged := (AList.lookup_insert s.client.live).symm.trans hlo'
    cases hchanged
    exact ⟨rfl, rfl⟩
  exact hmatches.submit rfl rfl hnot haccepted hbook hL

/-- The ids that the engine holds once a live order is withdrawn. -/
theorem Matches.withdrawn_keys (h : Matches s.engine s.client.live)
    (hlive : s.client.live.lookup id = some lo) :
    Matches (s.withdrawn lo id) s.client.live ∧ id ∉ keys orderService (s.withdrawn lo id).held ∧
      (∀ k ∈ keys orderService (s.withdrawn lo id).held, k ∈ keys orderService s.engine.held) ∧
      ∀ k ∈ keys orderService s.engine.held,
        k = id ∨ k ∈ keys orderService (s.withdrawn lo id).held := by
  obtain ⟨hmatches, hnot, gone, hheld, hgone⟩ := h.withdraw hlive
  refine ⟨hmatches, hnot, fun k hk => ?_, fun k hk => ?_⟩
  · rw [hheld, keys, Multiset.map_add]
    exact Multiset.mem_add.mpr (Or.inr hk)
  · rw [hheld, keys, Multiset.map_add, Multiset.mem_add] at hk
    rcases hk with hk | hk
    · obtain ⟨o, ho, rfl⟩ := Multiset.mem_map.mp hk
      exact Or.inl (hgone o ho)
    · exact Or.inr hk

/-- An entry that changes stays where it is. -/
theorem mem_insert_of_live {lo' : LiveOrder} (hlive : live.lookup id = some lo) (k : Nat) :
    k ∈ live.insert id lo' ↔ k ∈ live := by
  rw [AList.mem_insert, or_iff_right_iff_imp]
  exact fun heq => heq ▸ Table.mem_of_lookup hlive

end BptCore.Backtester
