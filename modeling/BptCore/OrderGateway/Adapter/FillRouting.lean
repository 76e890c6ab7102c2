import BptCore.OrderGateway.Adapter.HyperliquidOrderAdapter
import Mathlib.Algebra.BigOperators.Group.List.Basic

/-!
# Fills against answers

The answer to an order and the fills of that order reach the gateway on two threads. The answer
registers the venue id; the decoder routes a fill by the id it finds registered, and skips the
others. So a slice is reported exactly when the answer came first.

* **`registration`** — the ids that an answer ties together.
* **`slicesOf`** — the quantities that a run delivers for one venue id.
* **`Awaits`** — the decoder's entry covers what is still to come.
* **`slices_reported_iff`** — every slice of an order is reported exactly when an answer with its
  id precedes it.
-/

namespace BptCore.OrderGateway.HyperliquidOrderAdapter

open HyperliquidExecDecoder

/-- The ids that the answer to an order ties together, and the quantity it registers. -/
def registration (assetMeta : List String) : Event → Option (Nat × Nat × Nat)
  | .newOrder req (.body resp) nowNs => answered assetMeta req resp nowNs
  | _ => none

/-- The event is the handling of an order's answer, or the arrival of a fill. -/
def Event.isAnswerOrFill : Event → Bool
  | .newOrder .. | .userFill .. => true
  | _ => false

/-- The quantity of the slice that the event delivers for the venue id. -/
def sliceOf (exchOid : Nat) : Event → Option Nat
  | .userFill fill _ => if fill.oid = exchOid then some (truncE8Nat fill.sz) else none
  | _ => none

/-- The quantities that a run delivers for the venue id, in order. -/
def slicesOf (exchOid : Nat) (es : List Event) : List Nat := es.filterMap (sliceOf exchOid)

/-- A slice of the venue id is reported, once, for the client's order. -/
def ReportsSlice (exchOid clientId : Nat) (a : HyperliquidOrderAdapter) (e : Event) : Prop :=
  (sliceOf exchOid e).isSome → ∃ ev, (step a e).2 = [ev] ∧ ev.orderId = clientId

/-- An answer that registers the venue id comes before every slice of it. -/
def AnswerFirst (assetMeta : List String) (exchOid : Nat) (es : List Event) : Prop :=
  ∀ before e after, es = before ++ e :: after → (sliceOf exchOid e).isSome →
    ∃ e' ∈ before, ∃ c q, registration assetMeta e' = some (c, exchOid, q)

variable {a : HyperliquidOrderAdapter} {exchOid clientId qty : Nat}

/-- The decoder's entry of the venue id is the client's order, with at least `rest` open; or
nothing is to come. -/
def Awaits (exchOid clientId qty rest : Nat) (a : HyperliquidOrderAdapter) : Prop :=
  rest = 0 ∨ ∃ filled, filled + rest ≤ qty ∧
    a.decoder.pending.lookup exchOid = some ⟨clientId, qty, filled⟩

/-! ## One event -/

/-- What does not deliver a slice: the executor stays idle, the symbols stay, and the entry of the
venue id is written by an answer with that id alone. -/
theorem step_of_not_slice (hidle : a.cancelInFlight = none) {e : Event}
    (hkind : e.isAnswerOrFill = true) (hslice : sliceOf exchOid e = none) :
    (step a e).1.cancelInFlight = none ∧ (step a e).1.assetMeta = a.assetMeta ∧
      ((∃ c q, registration a.assetMeta e = some (c, exchOid, q) ∧
          (step a e).1.decoder.pending.lookup exchOid = some ⟨c, q, 0⟩) ∨
        ((∀ c q, registration a.assetMeta e ≠ some (c, exchOid, q)) ∧
          (step a e).1.decoder.pending.lookup exchOid = a.decoder.pending.lookup exchOid)) := by
  cases e with
  | newOrder req reply nowNs =>
    simp only [step, hidle, Option.isSome_none, Bool.false_eq_true, if_false]
    cases reply with
    | lost =>
      unfold sendNewOrder
      split <;> exact ⟨hidle, rfl, .inr ⟨fun _ _ h => (by cases h), rfl⟩⟩
    | body resp =>
      rw [sendNewOrder_body]
      show _ ∧ _ ∧ ((∃ c q, answered a.assetMeta req resp nowNs = some (c, exchOid, q) ∧ _) ∨
        ((∀ c q, answered a.assetMeta req resp nowNs ≠ some (c, exchOid, q)) ∧ _))
      cases hans : answered a.assetMeta req resp nowNs with
      | none => exact ⟨hidle, rfl, .inr ⟨fun _ _ h => (by cases h), rfl⟩⟩
      | some p =>
        obtain ⟨c, x, q⟩ := p
        refine ⟨hidle, rfl, ?_⟩
        show _ ∨ (_ ∧ (a.decoder.registerOrder x c q).pending.lookup exchOid = _)
        by_cases hx : exchOid = x
        · subst hx
          refine .inl ⟨c, q, rfl, ?_⟩
          show (a.decoder.registerOrder exchOid c q).pending.lookup exchOid = _
          rw [lookup_registerOrder, if_pos ⟨rfl, answered_oid_ne_zero hans⟩]
        · refine .inr ⟨fun c' q' h => hx ?_, ?_⟩
          · exact (Prod.mk.inj (Prod.mk.inj (Option.some.inj h)).2).1.symm
          · rw [lookup_registerOrder, if_neg fun h => hx h.1]
  | userFill fill recvNs =>
    have hne : exchOid ≠ fill.oid := by
      rintro rfl
      simp [sliceOf] at hslice
    exact ⟨hidle, rfl, .inr ⟨fun _ _ h => (by cases h), lookup_handleFill_of_ne recvNs hne⟩⟩
  | cancel req => cases hkind
  | cancelReply reply nowNs => cases hkind
  | reconcile openOrders userFills nowNs => cases hkind

/-- A slice that the entry covers is reported, and the entry covers the rest. -/
theorem step_of_slice {e : Event} {n rest : Nat} (hslice : sliceOf exchOid e = some n)
    (hpos : 0 < n) (h : Awaits exchOid clientId qty (n + rest) a) :
    ReportsSlice exchOid clientId a e ∧ Awaits exchOid clientId qty rest (step a e).1 := by
  cases e with
  | userFill fill recvNs =>
    obtain ⟨rfl, rfl⟩ : fill.oid = exchOid ∧ truncE8Nat fill.sz = n := by
      simpa [sliceOf] using hslice
    rcases h with hzero | ⟨filled, hle, hlookup⟩
    · omega
    · obtain ⟨ev, hout, hid, -⟩ := handleFill_of_lookup fill recvNs hlookup
      refine ⟨fun _ => ⟨ev, ?_, hid⟩, ?_⟩
      · simp only [step, hout, Option.toList_some]
      · simp only [Awaits, step, hout]
        split
        · -- the slice fills the order, so nothing is to come
          exact .inl (by omega)
        · refine .inr ⟨filled + truncE8Nat fill.sz, by omega, ?_⟩
          rw [Table.lookup_insert_eq, if_pos rfl]
  | newOrder req reply nowNs => cases hslice
  | cancel req => cases hslice
  | cancelReply reply nowNs => cases hslice
  | reconcile openOrders userFills nowNs => cases hslice

/-- A slice of an id without an entry is lost. -/
theorem not_reports_of_none {e : Event} {n : Nat} (hslice : sliceOf exchOid e = some n)
    (hnone : a.decoder.pending.lookup exchOid = none) : ¬ ReportsSlice exchOid clientId a e := by
  cases e with
  | userFill fill recvNs =>
    obtain ⟨rfl, -⟩ : fill.oid = exchOid ∧ truncE8Nat fill.sz = n := by
      simpa [sliceOf] using hslice
    intro h
    obtain ⟨ev, hev, -⟩ := h (by rw [hslice]; rfl)
    simp [step, handleFill_of_none recvNs hnone] at hev
  | newOrder req reply nowNs => cases hslice
  | cancel req => cases hslice
  | cancelReply reply nowNs => cases hslice
  | reconcile openOrders userFills nowNs => cases hslice

/-! ## Runs -/

/-- Once the entry covers what is to come, every slice is reported. -/
theorem reports_of_awaits {es : List Event} (hidle : a.cancelInFlight = none)
    (hkind : ∀ e ∈ es, e.isAnswerOrFill = true)
    (howner : ∀ e ∈ es, ∀ c q, registration a.assetMeta e = some (c, exchOid, q) →
      c = clientId ∧ q = qty)
    (hpos : ∀ n ∈ slicesOf exchOid es, 0 < n) (hsum : (slicesOf exchOid es).sum ≤ qty)
    (h : Awaits exchOid clientId qty (slicesOf exchOid es).sum a) :
    Machine.AlongRun step (ReportsSlice exchOid clientId) a es := by
  induction es generalizing a with
  | nil => trivial
  | cons e es ih =>
    have hkind' : ∀ e' ∈ es, e'.isAnswerOrFill = true := fun e' he' =>
      hkind e' (List.mem_cons_of_mem e he')
    cases hslice : sliceOf exchOid e with
    | none =>
      have hsame : slicesOf exchOid (e :: es) = slicesOf exchOid es :=
        List.filterMap_cons_none hslice
      rw [hsame] at hpos hsum h
      obtain ⟨hidle', hmeta, hentry⟩ :=
        step_of_not_slice hidle (hkind e List.mem_cons_self) hslice
      have hfirst : ReportsSlice exchOid clientId a e := fun hsome => by
        rw [hslice] at hsome
        cases hsome
      refine ⟨hfirst, ih hidle' hkind' ?_ hpos hsum ?_⟩
      · rw [hmeta]
        exact fun e' he' => howner e' (List.mem_cons_of_mem e he')
      · rcases hentry with ⟨c, q, hreg, hlookup⟩ | ⟨-, hlookup⟩
        · -- the entry starts again, and the whole quantity is open
          obtain ⟨rfl, rfl⟩ := howner e List.mem_cons_self c q hreg
          exact .inr ⟨0, by omega, hlookup⟩
        · rcases h with hzero | ⟨filled, hle, hold⟩
          · exact .inl hzero
          · exact .inr ⟨filled, hle, hlookup.trans hold⟩
    | some n =>
      have hcons : slicesOf exchOid (e :: es) = n :: slicesOf exchOid es :=
        List.filterMap_cons_some hslice
      rw [hcons, List.sum_cons] at hsum h
      rw [hcons] at hpos
      obtain ⟨hreports, hawaits⟩ := step_of_slice hslice (hpos n List.mem_cons_self) h
      cases e with
      | userFill fill recvNs =>
        exact ⟨hreports, ih hidle hkind'
          (fun e' he' => howner e' (List.mem_cons_of_mem _ he'))
          (fun m hm => hpos m (List.mem_cons_of_mem n hm)) (by omega) hawaits⟩
      | newOrder req reply nowNs => cases hslice
      | cancel req => cases hslice
      | cancelReply reply nowNs => cases hslice
      | reconcile openOrders userFills nowNs => cases hslice

/-- The first event decides the order, unless it is about another id. -/
theorem answerFirst_cons {assetMeta : List String} {e : Event} {es : List Event} :
    AnswerFirst assetMeta exchOid (e :: es) ↔
      sliceOf exchOid e = none ∧
        ((∃ c q, registration assetMeta e = some (c, exchOid, q)) ∨
          AnswerFirst assetMeta exchOid es) := by
  constructor
  · intro h
    have hnone : sliceOf exchOid e = none := by
      cases hslice : sliceOf exchOid e with
      | none => rfl
      | some n =>
        obtain ⟨e', hmem, -⟩ := h [] e es rfl (by rw [hslice]; rfl)
        cases hmem
    refine ⟨hnone, or_iff_not_imp_left.mpr fun hnot => ?_⟩
    rintro before e' after rfl hslice
    obtain ⟨e'', hmem, hreg⟩ := h (e :: before) e' after rfl hslice
    rcases List.mem_cons.mp hmem with rfl | hmem
    · exact absurd hreg hnot
    · exact ⟨e'', hmem, hreg⟩
  · rintro ⟨hnone, hrest⟩ before e' after heq hslice
    cases before with
    | nil =>
      obtain ⟨rfl, -⟩ := List.cons_eq_cons.mp heq
      rw [hnone] at hslice
      cases hslice
    | cons b before =>
      obtain ⟨rfl, hes⟩ := List.cons_eq_cons.mp heq
      rcases hrest with hreg | hrest
      · exact ⟨e, List.mem_cons_self, hreg⟩
      · obtain ⟨e'', hmem, hreg⟩ := hrest before e' after hes hslice
        exact ⟨e'', List.mem_cons_of_mem e hmem, hreg⟩

/-- **A slice is reported exactly when the answer came first.** For every run of answers and fills
from an adapter that does not know the venue id yet, and an order whose slices are positive and
within its quantity: every slice of it that arrives is reported for the client's order exactly
when an answer with the id is handled before the first of them. -/
theorem slices_reported_iff {es : List Event} (hidle : a.cancelInFlight = none)
    (hnew : a.decoder.pending.lookup exchOid = none)
    (hkind : ∀ e ∈ es, e.isAnswerOrFill = true)
    (howner : ∀ e ∈ es, ∀ c q, registration a.assetMeta e = some (c, exchOid, q) →
      c = clientId ∧ q = qty)
    (hpos : ∀ n ∈ slicesOf exchOid es, 0 < n) (hsum : (slicesOf exchOid es).sum ≤ qty) :
    Machine.AlongRun step (ReportsSlice exchOid clientId) a es ↔
      AnswerFirst a.assetMeta exchOid es := by
  induction es generalizing a with
  | nil =>
    refine iff_of_true trivial fun before e after heq => ?_
    cases before <;> cases heq
  | cons e es ih =>
    rw [answerFirst_cons]
    cases hslice : sliceOf exchOid e with
    | none =>
      have hsame : slicesOf exchOid (e :: es) = slicesOf exchOid es :=
        List.filterMap_cons_none hslice
      rw [hsame] at hpos hsum
      obtain ⟨hidle', hmeta, hentry⟩ :=
        step_of_not_slice hidle (hkind e List.mem_cons_self) hslice
      have hkind' : ∀ e' ∈ es, e'.isAnswerOrFill = true := fun e' he' =>
        hkind e' (List.mem_cons_of_mem e he')
      have howner' : ∀ e' ∈ es, ∀ c q,
          registration (step a e).1.assetMeta e' = some (c, exchOid, q) →
            c = clientId ∧ q = qty := by
        rw [hmeta]
        exact fun e' he' => howner e' (List.mem_cons_of_mem e he')
      have hfirst : ReportsSlice exchOid clientId a e := fun hsome => by
        rw [hslice] at hsome
        cases hsome
      show ReportsSlice exchOid clientId a e ∧ Machine.AlongRun step _ (step a e).1 es ↔ _
      rw [and_iff_right hfirst, and_iff_right rfl]
      rcases hentry with ⟨c, q, hreg, hlookup⟩ | ⟨hnot, hlookup⟩
      · obtain ⟨rfl, rfl⟩ := howner e List.mem_cons_self c q hreg
        exact iff_of_true
          (reports_of_awaits hidle' hkind' howner' hpos hsum (.inr ⟨0, by omega, hlookup⟩))
          (.inl ⟨c, q, hreg⟩)
      · rw [ih hidle' (hlookup.trans hnew) hkind' howner' hpos hsum, hmeta]
        refine (or_iff_right ?_).symm
        rintro ⟨c, q, hreg⟩
        exact hnot c q hreg
    | some n =>
      refine iff_of_false (fun h => ?_) fun h => by cases h.1
      exact not_reports_of_none hslice hnew h.1

/-- The venue answers order 1 with an immediate fill under the id 7, and sends the fill. -/
def filledAnswer : Event :=
  .newOrder ⟨1, 100, 7219800000000, 10000, .BUY, .LIMIT, .GTC, 0, "BTC"⟩
    (.body (.parsed "ok" (some { filled := some (some 7) }))) 1000

def onlySlice : Event := .userFill ⟨7, "B", 72198, 1 / 10000, 0, some 1⟩ 1000

theorem registration_filledAnswer :
    ∀ e ∈ [filledAnswer, onlySlice], ∀ c q, registration ["BTC"] e = some (c, 7, q) →
      c = 1 ∧ q = 10000 := by
  intro e he c q hreg
  rcases List.mem_cons.mp he with rfl | he
  · have hans : registration ["BTC"] filledAnswer = some (1, 7, 10000) := by decide
    rw [hans] at hreg
    cases hreg
    exact ⟨rfl, rfl⟩
  · obtain rfl := List.mem_singleton.mp he
    cases hreg

/-- The answer first, then the fill. -/
theorem slices_reported_iff_in_order :
    Machine.AlongRun step (ReportsSlice 7 1) { assetMeta := ["BTC"] } [filledAnswer, onlySlice] ↔
      AnswerFirst ["BTC"] 7 [filledAnswer, onlySlice] := by
  have hslices : slicesOf 7 [filledAnswer, onlySlice] = [10000] := by decide +kernel
  exact slices_reported_iff rfl rfl (by decide) registration_filledAnswer
    (by rw [hslices]; decide) (by rw [hslices]; decide)

/-- The fill is read off the socket before the executor has handled the answer: it is lost. -/
theorem slice_lost_before_answer :
    ¬ ∀ (assetMeta : List String) (es : List Event) (exchOid clientId qty : Nat),
      (∀ e ∈ es, e.isAnswerOrFill = true) →
      (∃ e ∈ es, registration assetMeta e = some (clientId, exchOid, qty)) →
      (∀ e ∈ es, ∀ c q, registration assetMeta e = some (c, exchOid, q) →
        c = clientId ∧ q = qty) →
      (∀ n ∈ slicesOf exchOid es, 0 < n) → (slicesOf exchOid es).sum ≤ qty →
      Machine.AlongRun step (ReportsSlice exchOid clientId) { assetMeta := assetMeta } es := by
  intro h
  have hslices : slicesOf 7 [onlySlice, filledAnswer] = [10000] := by decide +kernel
  have howner : ∀ e ∈ [onlySlice, filledAnswer], ∀ c q,
      registration ["BTC"] e = some (c, 7, q) → c = 1 ∧ q = 10000 := by
    intro e he
    refine registration_filledAnswer e ?_
    simpa [or_comm] using he
  have hrun := h ["BTC"] [onlySlice, filledAnswer] 7 1 10000 (by decide)
    ⟨filledAnswer, by simp, by decide⟩ howner (by rw [hslices]; decide) (by rw [hslices]; decide)
  have hslice : sliceOf 7 onlySlice = some 10000 := by decide +kernel
  exact not_reports_of_none hslice rfl hrun.1

end BptCore.OrderGateway.HyperliquidOrderAdapter
