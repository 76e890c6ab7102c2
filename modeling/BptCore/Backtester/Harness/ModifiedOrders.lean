import BptCore.Backtester.Harness.LiveMatches
import Mathlib.Algebra.BigOperators.Group.Multiset.Basic
import Mathlib.Tactic.Linarith
import Mathlib.Logic.Function.Basic

/-!
# The quantity of a modified order

The engine has no modify: the gateway cancels the order and submits it again, filled as far as it
has been told. What the engine has matched meanwhile, and not handed over yet, is not counted, and
can be matched once more.

* **`Quantities`**, **`QuantityLog`** — a backtest with the quantities that were in force and that
  were matched.
* **`Quantities.Covers`** — the invariant: what was matched of an order, with what is open of it,
  is within its limit.
* **`QuantityLog.Counted`** — a modify that leaves more to fill than was published counts all that
  was matched.
* **`QuantityLog.within_limit_of_counted`** — along runs whose modifies do, no order is matched
  beyond the quantities in force.
-/

namespace BptCore.Backtester

open Machine OpenItems
open Strategy (OutboundNewOrder CancelOrderRequest ModifyOrderRequest)

/-- The order whose quantity an event puts into force, with that quantity. -/
def Backtest.inForce (s : Backtest) : BacktestEvent → Option (Nat × ℚ)
  | .call (.sendNewOrder order) =>
    if s.strategyInControl = true ∧ Backtest.sendable order then
      some (order.orderId, ofE8 order.quantity)
    else none
  | .call (.sendModify modify) =>
    if s.strategyInControl = true ∧ modify.orderId ∈ s.client.live then
      some (modify.orderId, ofE8 modify.newQuantity)
    else none
  | _ => none

/-- What fills amount to for one order. -/
def fillsQty (id : Nat) (fills : List FillReport) : ℚ :=
  (fills.map fun fr => if fr.orderId = id then fr.lastFillQty else 0).sum

/-- The quantities of the orders so far, by id. -/
structure Quantities where
  /-- The ids of the orders. -/
  used : List Nat := []
  /-- What was matched for each order. -/
  matched : Nat → ℚ := fun _ => 0
  /-- The quantity in force, or what was matched when it came into force if that was more. -/
  limit : Nat → ℚ := fun _ => 0
  /-- The largest quantity that was in force. -/
  largest : Nat → ℚ := fun _ => 0

namespace Quantities

variable (q : Quantities)

/-- A quantity comes into force. -/
def put (id : Nat) (quantity : ℚ) : Quantities :=
  { q with
    used := id :: q.used
    limit := Function.update q.limit id (max quantity (q.matched id))
    largest := Function.update q.largest id (max (q.largest id) quantity) }

def force : Option (Nat × ℚ) → Quantities
  | some (id, quantity) => q.put id quantity
  | none => q

/-- Fills are matched. -/
def add (fills : List FillReport) : Quantities :=
  { q with matched := fun id => q.matched id + fillsQty id fills }

end Quantities

structure QuantityLog where
  backtest : Backtest
  quantities : Quantities := {}

namespace QuantityLog

variable (s : QuantityLog)

def step (s : QuantityLog) (ev : BacktestEvent) : QuantityLog × List Observation :=
  let out := s.backtest.step ev
  ({ backtest := out.1
     quantities := (s.quantities.force (s.backtest.inForce ev)).add (Backtest.matchedIn out.2) },
   out.2)

def init (latency : Nat → Nat) : QuantityLog := { backtest := Backtest.init latency }

/-- No order was matched beyond the quantities in force. -/
def WithinLimit : Prop :=
  ∀ id, s.quantities.matched id ≤ s.quantities.limit id ∧
    s.quantities.matched id ≤ s.quantities.largest id

/-- A new order has an id of its own, and a modify counts what was matched: all of it has been
published, or what was published leaves nothing to fill. -/
def Counted : BacktestEvent → Prop
  | .call (.sendNewOrder order) => s.backtest.strategyInControl = true →
    Backtest.sendable order → order.orderId ∉ s.quantities.used
  | .call (.sendModify modify) => s.backtest.strategyInControl = true →
    ∀ lo ∈ s.backtest.client.live.lookup modify.orderId,
      ofE8 modify.newQuantity ≤ ofE8 lo.cumulativeFilledQty ∨
        s.quantities.matched modify.orderId ≤ ofE8 lo.cumulativeFilledQty
  | .call (.sendCancel _) | .call (.sendCancelAll _ _) | .market _ | .setSimulationTime _
  | .resume => True

instance : (ev : BacktestEvent) → Decidable (s.Counted ev)
  | .call (.sendNewOrder _) => inferInstanceAs (Decidable (_ → _ → _))
  | .call (.sendModify modify) =>
    inferInstanceAs (Decidable (_ → ∀ lo ∈ s.backtest.client.live.lookup modify.orderId, _))
  | .call (.sendCancel _) | .call (.sendCancelAll _ _) | .market _ | .setSimulationTime _
  | .resume => isTrue trivial

end QuantityLog

/-! ## What is open -/

/-- What is open of one order, among those that are held. -/
def openOf (id : Nat) (held : Multiset OpenOrder) : ℚ :=
  (held.map fun o => if o.orderId = id then max o.openQty 0 else 0).sum

theorem openOf_cons (id : Nat) (o : OpenOrder) (held : Multiset OpenOrder) :
    openOf id (o ::ₘ held) = (if o.orderId = id then max o.openQty 0 else 0) + openOf id held := by
  rw [openOf, Multiset.map_cons, Multiset.sum_cons]
  rfl

theorem openOf_add (id : Nat) (held held' : Multiset OpenOrder) :
    openOf id (held + held') = openOf id held + openOf id held' := by
  rw [openOf, Multiset.map_add, Multiset.sum_add]
  rfl

theorem ite_openQty_nonneg (id : Nat) (o : OpenOrder) :
    0 ≤ if o.orderId = id then max o.openQty 0 else 0 := by
  split
  · exact le_max_right _ _
  · exact le_refl _

theorem openOf_nonneg (id : Nat) (held : Multiset OpenOrder) : 0 ≤ openOf id held := by
  refine Multiset.sum_nonneg fun qty hqty => ?_
  obtain ⟨o, -, rfl⟩ := Multiset.mem_map.mp hqty
  exact ite_openQty_nonneg id o

theorem openOf_eq_zero {id : Nat} {held : Multiset OpenOrder}
    (h : id ∉ keys orderService held) : openOf id held = 0 := by
  have hnone : ∀ o ∈ held, (if o.orderId = id then max o.openQty 0 else 0) = 0 := fun o ho =>
    if_neg fun hid : o.orderId = id => h (hid ▸ Multiset.mem_map_of_mem orderService.key ho)
  rw [openOf, Multiset.map_congr rfl hnone]
  exact Multiset.sum_map_zero

variable {L : Nat → Prop} {held held' : Multiset OpenOrder} {fs : List FillReport} {id : Nat}

/-- **Fills come out of what is open.** -/
theorem fillsQty_add_openOf_le (h : Moves orderService L held fs held') (id : Nat) :
    fillsQty id fs + openOf id held' ≤ openOf id held := by
  refine h.sum_le (w := fun o : OpenOrder => if o.orderId = id then max o.openQty 0 else 0)
    (v := fun fr : FillReport => if fr.orderId = id then fr.lastFillQty else 0) ?_ ?_ ?_
  · intro o fr hfits hopen
    have hid : fr.orderId = o.orderId := hfits.orderId
    have hleft : 0 < (o.fill fr).openQty := kQtyTol_pos.trans (hfits.openQty_fill hopen)
    have hsplit : fr.lastFillQty + (o.fill fr).openQty = o.openQty := by
      show fr.lastFillQty + (o.quantity - fr.cumulativeFillQty) = o.quantity - o.filledQty
      rw [hfits.cumulative, ← sub_sub, add_sub_cancel]
    show (if fr.orderId = id then fr.lastFillQty else 0) +
      (if o.orderId = id then max (o.fill fr).openQty 0 else 0) ≤ _
    rw [hid]
    split
    · rw [max_eq_left hleft.le, hsplit]
      exact le_max_left _ _
    · exact le_of_eq (add_zero 0)
  · intro o fr hfits _
    have hid : fr.orderId = o.orderId := hfits.orderId
    have hbounded := hfits.bounded
    rw [hfits.cumulative] at hbounded
    rw [hid]
    split
    · exact (le_sub_iff_add_le'.mpr hbounded).trans (le_max_left _ _)
    · exact le_refl _
  · exact ite_openQty_nonneg id

theorem fillsQty_eq_zero (h : ∀ fr ∈ fs, fr.orderId ≠ id) : fillsQty id fs = 0 := by
  refine List.sum_eq_zero fun qty hqty => ?_
  obtain ⟨fr, hfr, rfl⟩ := List.mem_map.mp hqty
  exact if_neg (h fr hfr)

/-! ## The invariant -/

namespace Quantities

/-- The quantities account for the orders that are held and those that are live. -/
structure Covers (q : Quantities) (held : Multiset OpenOrder) (live : Table Nat LiveOrder) :
    Prop where
  live_used : ∀ id ∈ live, id ∈ q.used
  held_used : ∀ id ∈ keys orderService held, id ∈ q.used
  matched_unused : ∀ id, id ∉ q.used → q.matched id = 0
  within : ∀ id, q.matched id + openOf id held ≤ q.limit id
  limit_le : ∀ id, q.limit id ≤ q.largest id

variable {q : Quantities} {live live' : Table Nat LiveOrder} {quantity : ℚ}

theorem Covers.matched_le (h : q.Covers held live) (id : Nat) : q.matched id ≤ q.limit id :=
  (le_add_of_nonneg_right (openOf_nonneg id held)).trans (h.within id)

/-- The held orders are filled. -/
theorem Covers.moves (h : q.Covers held live) (hmoves : Moves orderService L held fs held') :
    (q.add fs).Covers held' live where
  live_used := h.live_used
  held_used id hid := h.held_used id (Multiset.mem_of_le hmoves.keys_le hid)
  matched_unused id hid := by
    show q.matched id + fillsQty id fs = 0
    rw [h.matched_unused id hid, zero_add]
    exact fillsQty_eq_zero fun fr hfr heq =>
      hid (h.held_used id (heq ▸ hmoves.target_mem_keys fr hfr))
  within id := by
    show q.matched id + fillsQty id fs + openOf id held' ≤ q.limit id
    have hfills := fillsQty_add_openOf_le hmoves id
    have hwithin := h.within id
    linarith
  limit_le := h.limit_le

/-- Live orders change, or go, and so do held ones. -/
theorem Covers.mono (h : q.Covers held live) (hlive : ∀ id ∈ live', id ∈ live)
    (hmoves : Moves orderService (fun _ => True) held [] held') : (q.add []).Covers held' live' :=
  { h.moves hmoves with live_used := fun id hid => h.live_used id (hlive id hid) }

/-- **A quantity comes into force** for an order, and what is open of it from then on is within it.
-/
theorem Covers.put (h : q.Covers held live) (hlive : ∀ k ∈ live', k = id ∨ k ∈ live)
    (hheld : ∀ k ∈ keys orderService held', k = id ∨ k ∈ keys orderService held)
    (hothers : ∀ k, k ≠ id → openOf k held' ≤ openOf k held)
    (hwithin : q.matched id + openOf id held' ≤ max quantity (q.matched id)) :
    (q.put id quantity).Covers held' live' where
  live_used k hk := by
    rcases hlive k hk with rfl | hk
    · exact List.mem_cons_self
    · exact List.mem_cons_of_mem _ (h.live_used k hk)
  held_used k hk := by
    rcases hheld k hk with rfl | hk
    · exact List.mem_cons_self
    · exact List.mem_cons_of_mem _ (h.held_used k hk)
  matched_unused k hk := h.matched_unused k fun hused => hk (List.mem_cons_of_mem _ hused)
  within k := by
    show q.matched k + openOf k held' ≤ Function.update q.limit id _ k
    by_cases hk : k = id
    · rw [hk, Function.update_self]
      exact hwithin
    · rw [Function.update_of_ne hk]
      exact (add_le_add_right (hothers k hk) _).trans (h.within k)
  limit_le k := by
    show Function.update q.limit id _ k ≤ Function.update q.largest id _ k
    by_cases hk : k = id
    · rw [hk, Function.update_self, Function.update_self]
      have hmatched : q.matched id ≤ q.largest id := (h.matched_le id).trans (h.limit_le id)
      exact max_le (le_max_right _ _) (hmatched.trans (le_max_left _ _))
    · rw [Function.update_of_ne hk, Function.update_of_ne hk]
      exact h.limit_le k

/-- A quantity for an id that was not used, which changes nothing that is held. -/
theorem Covers.put_unused (h : q.Covers held live) (hid : id ∉ q.used)
    (hlive : ∀ k ∈ live', k = id ∨ k ∈ live) : (q.put id quantity).Covers held live' := by
  refine h.put hlive (fun _ hk => Or.inr hk) (fun _ _ => le_refl _) ?_
  rw [h.matched_unused id hid, openOf_eq_zero fun hheld => hid (h.held_used id hheld), add_zero]
  exact le_max_right _ _

/-- An order of an unused id comes in, and its quantity into force. -/
theorem Covers.put_new (h : q.Covers held live) {o : OpenOrder} (hid : o.orderId ∉ q.used)
    (hlive : ∀ k ∈ live', k = o.orderId ∨ k ∈ live) :
    (q.put o.orderId o.openQty).Covers (o ::ₘ held) live' := by
  refine h.put hlive (fun k hk => ?_) (fun k hk => ?_) ?_
  · rw [keys_cons, Multiset.mem_cons] at hk
    exact hk
  · rw [openOf_cons, if_neg hk.symm, zero_add]
  · rw [openOf_cons, if_pos rfl, openOf_eq_zero fun hheld => hid (h.held_used _ hheld),
      h.matched_unused _ hid, zero_add, add_zero]

end Quantities

/-! ## The run -/

namespace QuantityLog

open Backtest

/-- The engine's orders are where the live orders say, and the quantities account for them. -/
structure Inv (q : Quantities) (e : MatchingEngine) (live : Table Nat LiveOrder) : Prop
    extends Matches e live where
  covers : q.Covers e.held live

variable {s : QuantityLog} {lo : LiveOrder}

theorem inForce_newOrder {s : Backtest} {order : OutboundNewOrder}
    (hcontrol : s.strategyInControl = true) (hsendable : sendable order) :
    s.inForce (.call (.sendNewOrder order)) = some (order.orderId, ofE8 order.quantity) :=
  if_pos ⟨hcontrol, hsendable⟩

theorem inForce_modify {s : Backtest} {modify : ModifyOrderRequest}
    (hcontrol : s.strategyInControl = true)
    (hlive : s.client.live.lookup modify.orderId = some lo) :
    s.inForce (.call (.sendModify modify)) = some (modify.orderId, ofE8 modify.newQuantity) :=
  if_pos ⟨hcontrol, Table.mem_of_lookup hlive⟩

/-- A step without an effect puts no quantity into force, or that of an unused id. -/
theorem covers_force_of_idle {ev : BacktestEvent}
    (h : Inv s.quantities s.backtest.engine s.backtest.client.live) (hcounted : s.Counted ev)
    (hidle : ∀ modify, ev = .call (.sendModify modify) → s.backtest.strategyInControl = true →
      modify.orderId ∉ s.backtest.client.live) :
    (s.quantities.force (s.backtest.inForce ev)).Covers s.backtest.engine.held
      s.backtest.client.live := by
  cases ev with
  | call c =>
    cases c with
    | sendNewOrder order =>
      unfold inForce
      dsimp only
      split
      · next hforce =>
        exact h.covers.put_unused (hcounted hforce.1 hforce.2) fun _ hk => Or.inr hk
      · exact h.covers
    | sendModify modify =>
      unfold inForce
      dsimp only
      split
      · next hforce => exact absurd hforce.2 (hidle modify rfl hforce.1)
      · exact h.covers
    | sendCancel cancel => exact h.covers
    | sendCancelAll exchangeId instrumentId => exact h.covers
  | market event => exact h.covers
  | setSimulationTime nowNs => exact h.covers
  | resume => exact h.covers

/-- **A replacement comes into force.** The engine fills it from what was published on, so nothing
is open beyond its quantity when that counts all that was matched. -/
theorem covers_put_replacing {modify : ModifyOrderRequest}
    (h : Inv s.quantities s.backtest.engine s.backtest.client.live)
    (hlive : s.backtest.client.live.lookup modify.orderId = some lo)
    (hcounted : ofE8 modify.newQuantity ≤ ofE8 lo.cumulativeFilledQty ∨
      s.quantities.matched modify.orderId ≤ ofE8 lo.cumulativeFilledQty) {o : OpenOrder}
    (hid : o.orderId = modify.orderId)
    (hopen : o.openQty = ofE8 modify.newQuantity - ofE8 lo.cumulativeFilledQty) :
    (s.quantities.put modify.orderId (ofE8 modify.newQuantity)).Covers
      (o ::ₘ (s.backtest.withdrawn lo modify.orderId).held)
      (s.backtest.client.live.insert modify.orderId (lo.modified modify)) := by
  obtain ⟨-, -, gone, hheld, -⟩ := h.toMatches.withdraw hlive
  obtain ⟨-, hnot, hfewer, -⟩ := h.toMatches.withdrawn_keys hlive
  refine h.covers.put (fun k hk => Or.inr ((mem_insert_of_live hlive k).mp hk)) (fun k hk => ?_)
    (fun k hk => ?_) ?_
  · rw [keys_cons, Multiset.mem_cons] at hk
    exact hk.imp (fun heq => heq.trans hid) (hfewer k)
  · rw [openOf_cons, hid, if_neg hk.symm, zero_add, hheld, openOf_add]
    exact le_add_of_nonneg_left (openOf_nonneg k gone)
  · rw [openOf_cons, if_pos hid, openOf_eq_zero hnot, add_zero, hopen]
    rcases hcounted with hnothing | hpublished
    · rw [max_eq_right (sub_nonpos.mpr hnothing), add_zero]
      exact le_max_right _ _
    · rcases le_total (ofE8 modify.newQuantity) (ofE8 lo.cumulativeFilledQty) with hle | hle
      · rw [max_eq_right (sub_nonpos.mpr hle), add_zero]
        exact le_max_right _ _
      · rw [max_eq_left (sub_nonneg.mpr hle)]
        refine le_trans ?_ (le_max_left _ _)
        linarith

/-- **The step lemma.** -/
theorem inv_effect {ev : BacktestEvent} {v : View}
    (h : Inv s.quantities s.backtest.engine s.backtest.client.live) (hcounted : s.Counted ev)
    (heffect : s.backtest.Effect ev v) :
    Inv ((s.quantities.force (s.backtest.inForce ev)).add v.matched) v.engine v.live := by
  cases heffect with
  | idle more _ hidle =>
    have hforce := covers_force_of_idle h hcounted hidle
    exact ⟨h.toMatches, hforce.mono (fun _ hk => hk) (.done _)⟩
  | skip _ _ => exact ⟨h.toMatches, h.covers.mono (fun _ hk => hk) (.done _)⟩
  | market event _ =>
    -- any order may be dropped
    obtain ⟨hmatches, hmoves⟩ := h.toMatches.market (L := fun _ => True) fun _ _ _ => Or.inr trivial
    exact ⟨hmatches, h.covers.moves hmoves⟩
  | newOrder order hcontrol hsendable haccepted =>
    have hunused := hcounted hcontrol hsendable
    have hnew : order.orderId ∉ keys orderService s.backtest.engine.held := fun hheld =>
      hunused (h.covers.held_used _ hheld)
    obtain ⟨hmatches, hmoves⟩ := h.toMatches.newOrder (L := fun _ => True) hnew haccepted
      fun _ _ _ => Or.inr trivial
    rw [inForce_newOrder hcontrol hsendable,
      Table.emplace_of_notMem fun hlive => hunused (h.covers.live_used _ hlive)]
    -- the order comes in, all of it open, and is served with the others
    let o : OpenOrder := { newOpenOrder order s.backtest.client.simulationNowNs with
      submittedTs := s.backtest.engine.currentTs }
    have hopen : o.bare.openQty = ofE8 order.quantity := sub_zero _
    have hput : (s.quantities.put order.orderId (ofE8 order.quantity)).Covers
        (o.bare ::ₘ s.backtest.engine.held)
        (s.backtest.client.live.insert order.orderId (newLiveOrder order)) := by
      rw [← hopen]
      exact h.covers.put_new (o := o.bare) hunused fun k hk => (AList.mem_insert _).mp hk
    exact ⟨hmatches, hput.moves hmoves⟩
  | refused order hcontrol hsendable =>
    have hunused := hcounted hcontrol hsendable
    have hnot : order.orderId ∉ s.backtest.client.live := fun hlive =>
      hunused (h.covers.live_used _ hlive)
    rw [inForce_newOrder hcontrol hsendable, Table.emplace_of_notMem hnot, Table.erase_insert_self,
      Table.erase_of_notMem hnot]
    have hput : (s.quantities.put order.orderId (ofE8 order.quantity)).Covers
        s.backtest.engine.held s.backtest.client.live :=
      h.covers.put_unused hunused fun _ hk => Or.inr hk
    exact ⟨h.toMatches, hput.mono (fun _ hk => hk) (.done _)⟩
  | @cancel _ _ cancel lo hev _ hlive =>
    obtain ⟨hmatches, -, gone, hheld, -⟩ := h.toMatches.withdraw hlive
    have hgone : Moves orderService (fun _ => True) s.backtest.engine.held []
        (s.backtest.withdrawn lo cancel.orderId).held := by
      rw [hheld]
      exact .leave_all _ fun _ _ => trivial
    rcases hev with rfl | rfl
    · exact ⟨hmatches, h.covers.mono (fun _ hk => hk) hgone⟩
    · exact ⟨hmatches, h.covers.mono (fun _ hk => hk) hgone⟩
  | @modify modify lo hcontrol hlive haccepted =>
    obtain ⟨hmatches, hmoves⟩ := h.toMatches.replace (L := fun _ => True) hlive haccepted
      fun _ _ _ => Or.inr trivial
    rw [inForce_modify hcontrol hlive]
    let o : OpenOrder := { s.backtest.replacing lo modify with
      submittedTs := (s.backtest.withdrawn lo modify.orderId).currentTs }
    have hput := covers_put_replacing h hlive (hcounted hcontrol _ hlive) (o := o.bare) rfl rfl
    exact ⟨hmatches, hput.moves hmoves⟩
  | @modifyRefused modify lo hcontrol hlive =>
    rw [inForce_modify hcontrol hlive]
    -- the replacement comes into force, and leaves at once
    have hput := covers_put_replacing h hlive (hcounted hcontrol _ hlive)
      (o := s.backtest.replacing lo modify) rfl rfl
    have hwithdrawn := (h.toMatches.withdrawn_keys hlive).1
    exact ⟨hwithdrawn.insert hlive rfl rfl,
      hput.mono (fun _ hk => hk) (.leave trivial (.done _))⟩
  | deliver _ hlive =>
    exact ⟨h.toMatches.insert hlive rfl rfl,
      h.covers.mono (fun k hk => (mem_insert_of_live hlive k).mp hk) (.done _)⟩
  | @eraseLive orderId _ _ _ =>
    have hmatches := h.toMatches.erase orderId
    exact ⟨hmatches, h.covers.mono (fun _ hk => (AList.mem_erase.mp hk).2) (.done _)⟩

theorem inv_init (latency : Nat → Nat) :
    Inv (init latency).quantities (init latency).backtest.engine
      (init latency).backtest.client.live :=
  { Matches.init latency with
    covers :=
      { live_used := fun id h => absurd h (AList.notMem_empty id)
        held_used := fun _ h => absurd h (Multiset.notMem_zero _)
        matched_unused := fun _ _ => rfl
        within := fun _ => le_of_eq (zero_add 0)
        limit_le := fun _ => le_refl _ } }

/-- **When a modified order keeps its limit.** Take any run of a backtest, under any latency, whose
orders have ids of their own and whose modifies count what was matched. What is matched of an order
never exceeds the quantity in force, or what was matched already when that came into force, nor the
largest quantity that was in force. -/
theorem within_limit_of_counted (latency : Nat → Nat) {es : List BacktestEvent}
    (hcounted : AlongRun step Counted (init latency) es) :
    AllStates step WithinLimit (init latency) es := by
  have hstep : ∀ s ev, Inv s.quantities s.backtest.engine s.backtest.client.live → Counted s ev →
      Inv (step s ev).1.quantities (step s ev).1.backtest.engine
        (step s ev).1.backtest.client.live :=
    fun s ev h hcounted => inv_effect h hcounted (step_effect s.backtest ev)
  refine (AllStates.of_assumption hstep (inv_init latency) hcounted).imp fun s h id => ?_
  have hmatched := h.covers.matched_le id
  exact ⟨hmatched, hmatched.trans (h.covers.limit_le id)⟩

/-! ## A replacement that does not count a fill

A buy of 2 rests, and a print fills half of it. The order is modified, to the same quantity, before
that is reported. -/

namespace HalfFilled

def book : MarketEvent :=
  .orderBook
    { timestampNs := 1, exchange := "HYPERLIQUID", symbol := "BTC"
      bidPx := ![98, 0, 0, 0, 0], bidSz := ![1, 0, 0, 0, 0]
      askPx := ![101, 0, 0, 0, 0], askSz := ![1, 0, 0, 0, 0] }

def buy : StrategyCall :=
  .sendNewOrder
    { orderId := 1, exchangeId := .HYPERLIQUID, instrumentId := 7, side := .BUY
      orderType := .LIMIT, tif := .GTC, price := 10000000000, quantity := 200000000, execInst := 0
      exchangeSymbol := "BTC" }

def modify : StrategyCall :=
  .sendModify
    { orderId := 1, exchangeId := .HYPERLIQUID, instrumentId := 7, newPrice := 10000000000
      newQuantity := 200000000 }

def print (timestampNs : Nat) (quantity : ℚ) : MarketEvent :=
  .trade
    { timestampNs := timestampNs, price := 100, quantity := quantity, side := .SELL
      exchange := "HYPERLIQUID", symbol := "BTC" }

def events : List BacktestEvent :=
  [.market book, .resume, .call buy, .resume, .resume, .market (print 2 1), .resume, .resume,
    .call modify, .resume, .market (print 3 2)]

/-- The report of the first fill takes as long as this. -/
def reportIn (delay : Nat) (n : Nat) : Nat := if n = 1 then delay else 0

end HalfFilled

open HalfFilled in
theorem within_limit_of_counted_reported :
    (exec step (init (reportIn 0)) events).quantities.matched 1 = 2 ∧
      AllStates step WithinLimit (init (reportIn 0)) events :=
  ⟨by decide +kernel, within_limit_of_counted _ (by decide +kernel)⟩

open HalfFilled in
theorem not_within_limit_of_unreported :
    ¬ ∀ latency es, AllStates step WithinLimit (init latency) es := by
  intro h
  have hwithin := (h (reportIn 10) events).final 1
  -- 3 were matched, and 2 was all that was ever in force
  exact absurd hwithin.2 (by decide +kernel)

end QuantityLog

end BptCore.Backtester
