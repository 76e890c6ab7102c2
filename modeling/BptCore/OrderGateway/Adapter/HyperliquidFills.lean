import BptCore.Lib.Machine
import BptCore.OrderGateway.Adapter.HyperliquidExecDecoder
import Mathlib.Algebra.BigOperators.Group.List.Basic
import Mathlib.Logic.Function.Basic

/-!
# Slices and registrations

The slices of an order must add up to its quantity, however registrations come in between. A
registration writes the entry of its id afresh, and the count of the slices with it.

* **`OrderHistory.Correct`** — what the events of an order should say, slice by slice.
* **`Undisturbed`** — what is asked of a slice for that.
* **`correct_iff_undisturbed`** — over any run of registrations and fills.
-/

namespace BptCore.OrderGateway

/-- What a registration says of an order. -/
structure Registration where
  clientOrderId : Nat
  originalQtyE8 : Nat
  deriving DecidableEq, Repr

/-- What has come in for an order since it was registered first, and what was made of it. -/
structure OrderHistory where
  first : Registration
  last : Registration
  /-- The sizes of the slices since the first registration. -/
  slices : List Nat := []
  /-- Those since the last one. -/
  sinceLast : List Nat := []
  events : List ExecEvent := []

namespace OrderHistory

variable (o : OrderHistory)

/-- The first `k` slices. -/
def filledBy (k : Nat) : Nat := (o.slices.take k).sum

/-- With slice `k` the sum first reaches the quantity. -/
def FillsAt (k : Nat) : Prop :=
  o.first.originalQtyE8 ≤ o.filledBy (k + 1) ∧ ∀ j < k, o.filledBy (j + 1) < o.first.originalQtyE8

/-- The event of slice `k`. -/
structure Decodes (k : Nat) (ev : ExecEvent) : Prop where
  orderId : ev.orderId = o.first.clientOrderId
  remainingQty : ev.remainingQty = o.first.originalQtyE8 - o.filledBy (k + 1)
  filled : ev.status = .FILLED ↔ o.FillsAt k
  last : ev.status = .FILLED → k + 1 = o.events.length

/-- Every slice has its event, with the client's id and what remains; FILLED is the one that the sum
reaches the quantity with, and the last one. -/
def Correct : Prop :=
  o.events.length = o.slices.length ∧ ∀ k, ∀ ev ∈ o.events[k]?, o.Decodes k ev

/-- A count of slices that has not filled its registration. -/
def Unfilled (r : Registration) (slices : List Nat) : Prop :=
  slices = [] ∨ slices.sum < r.originalQtyE8

instance (r : Registration) (slices : List Nat) : Decidable (Unfilled r slices) :=
  inferInstanceAs (Decidable (_ ∨ _))

/-- The entry of the decoder. -/
def entry : Option PendingOrder :=
  if Unfilled o.last o.sinceLast then
    some
      { clientOrderId := o.last.clientOrderId, originalQtyE8 := o.last.originalQtyE8
        cumulativeFilledE8 := o.sinceLast.sum }
  else none

def slice (n : Nat) (events : List ExecEvent) : OrderHistory :=
  { o with
    slices := o.slices ++ [n]
    sinceLast := o.sinceLast ++ [n]
    events := o.events ++ events }

def registered (r : Registration) : Option OrderHistory → OrderHistory
  | none => { first := r, last := r }
  | some o => { o with last := r, sinceLast := [] }

/-! ## One slice more -/

variable {o} (n : Nat) (events : List ExecEvent)

theorem filledBy_slice {k : Nat} (hk : k ≤ o.slices.length) :
    (o.slice n events).filledBy k = o.filledBy k := by
  rw [filledBy, slice, filledBy]
  dsimp only
  rw [List.take_append_of_le_length hk]

theorem filledBy_slice_last :
    (o.slice n events).filledBy (o.slices.length + 1) = o.slices.sum + n := by
  have hall : (o.slices ++ [n]).take (o.slices.length + 1) = o.slices ++ [n] :=
    List.take_of_length_le (by rw [List.length_append, List.length_singleton])
  rw [filledBy, slice]
  dsimp only
  rw [hall, List.sum_append, List.sum_singleton]

/-- The earlier slices fill the order as they did. -/
theorem fillsAt_slice {k : Nat} (hk : k < o.slices.length) :
    (o.slice n events).FillsAt k ↔ o.FillsAt k := by
  unfold FillsAt
  rw [filledBy_slice n events (Nat.succ_le_of_lt hk)]
  refine and_congr Iff.rfl (forall_congr' fun j => forall_congr' fun hj => ?_)
  rw [filledBy_slice n events (Nat.succ_le_of_lt (Nat.lt_trans hj hk))]
  exact Iff.rfl

theorem filledBy_le_sum (k : Nat) : o.filledBy k ≤ o.slices.sum := by
  have hsplit : (o.slices.take k).sum + (o.slices.drop k).sum = o.slices.sum := by
    rw [← List.sum_append, List.take_append_drop]
  exact Nat.le.intro hsplit

/-- The order is unfilled exactly when no slice so far reached the quantity. -/
theorem unfilled_iff : Unfilled o.first o.slices ↔
    ∀ j < o.slices.length, o.filledBy (j + 1) < o.first.originalQtyE8 := by
  constructor
  · rintro (hnil | hlt) j hj
    · rw [hnil] at hj
      exact absurd hj (Nat.not_lt_zero j)
    · exact Nat.lt_of_le_of_lt (filledBy_le_sum (j + 1)) hlt
  · intro h
    by_cases hnil : o.slices = []
    · exact Or.inl hnil
    · have hpos : 0 < o.slices.length := List.length_pos_of_ne_nil hnil
      have hlast := h (o.slices.length - 1) (Nat.sub_one_lt_of_lt hpos)
      rw [Nat.sub_add_cancel hpos, filledBy, List.take_length] at hlast
      exact Or.inr hlast

theorem fillsAt_slice_last_iff (hunfilled : Unfilled o.first o.slices) :
    (o.slice n events).FillsAt o.slices.length ↔
      o.first.originalQtyE8 ≤ o.slices.sum + n := by
  unfold FillsAt
  rw [filledBy_slice_last]
  refine and_iff_left fun j hj => ?_
  rw [filledBy_slice n events (Nat.succ_le_of_lt hj)]
  exact unfilled_iff.mp hunfilled j hj

/-- An order that is filled was filled by one of its slices. -/
theorem exists_fillsAt (hfilled : ¬ Unfilled o.first o.slices) :
    ∃ k < o.slices.length, o.FillsAt k := by
  have hreached : ∃ j, j < o.slices.length ∧ o.first.originalQtyE8 ≤ o.filledBy (j + 1) := by
    by_contra hnone
    refine hfilled (unfilled_iff.mpr fun j hj => ?_)
    exact Nat.lt_of_not_le fun hle => hnone ⟨j, hj, hle⟩
  -- the first slice that reaches the quantity
  obtain ⟨hlt, hle⟩ := Nat.find_spec hreached
  refine ⟨Nat.find hreached, hlt, hle, fun j hj => ?_⟩
  have hbefore := Nat.find_min hreached hj
  exact Nat.lt_of_not_le fun hle => hbefore ⟨Nat.lt_trans hj hlt, hle⟩

/-- What the event of one slice more must be. -/
structure Extends (o : OrderHistory) (n : Nat) (ev : ExecEvent) : Prop where
  unfilled : Unfilled o.first o.slices
  orderId : ev.orderId = o.first.clientOrderId
  remainingQty : ev.remainingQty = o.first.originalQtyE8 - (o.slices.sum + n)
  filled : ev.status = .FILLED ↔ o.first.originalQtyE8 ≤ o.slices.sum + n

theorem Correct.slice {n : Nat} {ev : ExecEvent} (h : o.Correct) (hev : o.Extends n ev) :
    (o.slice n [ev]).Correct := by
  obtain ⟨hlength, hdecodes⟩ := h
  refine ⟨by simp [OrderHistory.slice, hlength], fun k ev' hev' => ?_⟩
  have hk := (List.getElem?_eq_some_iff.mp hev').1
  have hbound : k ≤ o.events.length := by
    simp only [OrderHistory.slice, List.length_append, List.length_singleton] at hk
    exact Nat.lt_succ_iff.mp hk
  rcases Nat.lt_or_eq_of_le hbound with hold | rfl
  · -- an earlier slice: it did not fill the order, so its event was not FILLED
    have hat : ev' ∈ o.events[k]? := by
      have hsame : (o.slice n [ev]).events[k]? = o.events[k]? := List.getElem?_append_left hold
      rwa [hsame] at hev'
    have hslices : k < o.slices.length := hlength ▸ hold
    obtain ⟨hid, hremaining, hfilled, -⟩ := hdecodes k ev' hat
    have hnot : ev'.status ≠ .FILLED := fun hstatus => by
      have hreached := (hfilled.mp hstatus).1
      exact absurd (unfilled_iff.mp hev.unfilled k hslices) (Nat.not_lt.mpr hreached)
    refine ⟨hid, ?_, ?_, fun hstatus => absurd hstatus hnot⟩
    · rw [filledBy_slice n [ev] (Nat.succ_le_of_lt hslices)]
      exact hremaining
    · rw [fillsAt_slice n [ev] hslices]
      exact hfilled
  · have hlast : ev' = ev := by
      have hget : (o.slice n [ev]).events[o.events.length]? = some ev := by
        simp [OrderHistory.slice]
      rw [hget] at hev'
      exact (Option.some.inj hev').symm
    subst hlast
    rw [hlength]
    refine ⟨hev.orderId, ?_, ?_, fun _ => by simp [OrderHistory.slice, hlength]⟩
    · rw [filledBy_slice_last]
      exact hev.remainingQty
    · rw [fillsAt_slice_last_iff n [ev'] hev.unfilled]
      exact hev.filled

/-- **One slice.** After it everything is right exactly when its event is there, and the order was
not filled before. -/
theorem slice_correct_iff (h : o.Correct) (n : Nat) (ev : Option ExecEvent) :
    (o.slice n ev.toList).Correct ↔ ∃ ev' ∈ ev, o.Extends n ev' := by
  constructor
  · rintro ⟨hlength, hdecodes⟩
    cases ev with
    | none =>
      have hold := h.1
      simp only [OrderHistory.slice, Option.toList_none, List.append_nil, List.length_append,
        List.length_singleton] at hlength
      omega
    | some ev =>
      have hget : (o.slice n [ev]).events[o.slices.length]? = some ev := by
        rw [← h.1]
        simp [OrderHistory.slice]
      obtain ⟨hid, hremaining, hfilled, -⟩ := hdecodes o.slices.length ev hget
      have hunfilled : Unfilled o.first o.slices := by
        by_contra hdone
        -- the FILLED of before would not be the last event
        obtain ⟨k, hk, hfills⟩ := exists_fillsAt hdone
        have hke : k < o.events.length := h.1 ▸ hk
        have hev : o.events[k]? = some o.events[k] := List.getElem?_eq_getElem hke
        have hstatus := (h.2 k _ hev).filled.mpr hfills
        have hev' : (o.slice n [ev]).events[k]? = some o.events[k] := by
          rw [← hev]
          exact List.getElem?_append_left hke
        have hend := (hdecodes k _ hev').last hstatus
        simp only [OrderHistory.slice, Option.toList_some, List.length_append,
          List.length_singleton] at hend
        omega
      rw [filledBy_slice_last] at hremaining
      rw [Option.toList_some, fillsAt_slice_last_iff n [ev] hunfilled] at hfilled
      exact ⟨ev, rfl, hunfilled, hid, hremaining, hfilled⟩
  · rintro ⟨ev', rfl, hev'⟩
    exact h.slice hev'

end OrderHistory

/-- The decoder, with the history of every order. -/
structure FillHistory where
  decoder : HyperliquidExecDecoder := {}
  orders : Nat → Option OrderHistory := fun _ => none

inductive HyperliquidInput where
  | register (exchOid clientOrderId originalQtyE8 : Nat)
  | fill (fill : HyperliquidFill) (recvNs : Nat)

namespace FillHistory

open OrderHistory

variable (h : FillHistory)

/-- An id of 0 is none: the decoder ignores its registration. -/
def step (h : FillHistory) : HyperliquidInput → FillHistory × List ExecEvent
  | .register exchOid clientOrderId originalQtyE8 =>
    ({ decoder := h.decoder.registerOrder exchOid clientOrderId originalQtyE8
       orders :=
         if exchOid = 0 then h.orders
         else Function.update h.orders exchOid
           (some (registered ⟨clientOrderId, originalQtyE8⟩ (h.orders exchOid))) }, [])
  | .fill fill recvNs =>
    let out := h.decoder.handleFill fill recvNs
    ({ decoder := out.1
       orders := Function.update h.orders fill.oid
         ((h.orders fill.oid).map (·.slice (truncE8Nat fill.sz) out.2.toList)) }, out.2.toList)

/-- What came in for the order was decoded right so far. -/
def CorrectFor (oid : Nat) (h : FillHistory) : Prop := ∀ o ∈ h.orders oid, o.Correct

/-- A slice that later registrations have not touched: neither the first registration nor the last
is filled yet, both are of the same client order, and they have the same quantity open, unless
the slice fills both. -/
def Undisturbed (oid : Nat) (h : FillHistory) (input : HyperliquidInput) : Prop :=
  match input with
  | .register _ _ _ => True
  | .fill fill _ => fill.oid = oid → ∀ o ∈ h.orders oid,
    Unfilled o.first o.slices ∧ Unfilled o.last o.sinceLast ∧
      o.last.clientOrderId = o.first.clientOrderId ∧
      o.last.originalQtyE8 - o.sinceLast.sum - truncE8Nat fill.sz =
        o.first.originalQtyE8 - o.slices.sum - truncE8Nat fill.sz

instance (oid : Nat) (h : FillHistory) :
    (input : HyperliquidInput) → Decidable (Undisturbed oid h input)
  | .register _ _ _ => isTrue trivial
  | .fill fill _ => inferInstanceAs (Decidable (fill.oid = oid → ∀ o ∈ h.orders oid, _ ∧ _ ∧ _ ∧ _))

/-- A frame of fills is a run of its fills. -/
theorem handleFills_eq_run (h : FillHistory) (fills : List HyperliquidFill) (recvNs : Nat) :
    h.decoder.handleFills fills recvNs =
      ((Machine.exec step h (fills.map (.fill · recvNs))).decoder,
        Machine.outputs step h (fills.map (.fill · recvNs))) := by
  induction fills generalizing h with
  | nil => rfl
  | cons fill fills ih =>
    rw [HyperliquidExecDecoder.handleFills]
    have hrest := ih (step h (.fill fill recvNs)).1
    simp only [step] at hrest
    simp only [hrest]
    rfl

variable {h : FillHistory} {oid : Nat}

/-- The decoder has the entries that the histories make. -/
def Entries (h : FillHistory) : Prop :=
  ∀ oid, oid ≠ 0 → h.decoder.pending.lookup oid = (h.orders oid).bind entry

theorem Entries.start : Entries {} := fun _ _ => rfl

/-- Registering makes an entry that counts from nothing. -/
theorem entry_registered (r : Registration) (o : Option OrderHistory) :
    (registered r o).entry =
      some
        { clientOrderId := r.clientOrderId, originalQtyE8 := r.originalQtyE8
          cumulativeFilledE8 := 0 } := by
  cases o with
  | none => exact if_pos (Or.inl rfl)
  | some o => exact if_pos (Or.inl rfl)

/-- One slice more is one for the entry. -/
theorem entry_slice (o : OrderHistory) (n : Nat) (events : List ExecEvent) :
    (o.slice n events).entry = o.entry.bind (·.slice n) := by
  have hsum : (o.sinceLast ++ [n]).sum = o.sinceLast.sum + n := by
    rw [List.sum_append, List.sum_singleton]
  have hunfilled : Unfilled (o.slice n events).last (o.slice n events).sinceLast ↔
      ¬ o.last.originalQtyE8 ≤ o.sinceLast.sum + n := by
    rw [← hsum, Nat.not_le]
    exact or_iff_right (List.append_ne_nil_of_right_ne_nil _ (List.cons_ne_nil n []))
  by_cases hlast : Unfilled o.last o.sinceLast
  · rw [entry, entry, if_pos hlast, Option.bind_some, PendingOrder.slice]
    by_cases hfilled : o.last.originalQtyE8 ≤ o.sinceLast.sum + n
    · rw [if_pos hfilled, if_neg (mt hunfilled.mp (not_not.mpr hfilled))]
    · rw [if_neg hfilled, if_pos (hunfilled.mpr hfilled)]
      show some (PendingOrder.mk _ _ (o.sinceLast ++ [n]).sum) = _
      rw [hsum]
      rfl
  · -- what had filled the last registration still does
    have hle : o.last.originalQtyE8 ≤ o.sinceLast.sum := Nat.not_lt.mp fun hlt => hlast (.inr hlt)
    have hfilled : ¬ Unfilled (o.slice n events).last (o.slice n events).sinceLast := fun hopen =>
      hunfilled.mp hopen (Nat.le_trans hle (Nat.le_add_right _ _))
    rw [entry, entry, if_neg hlast, if_neg hfilled]
    rfl

theorem Entries.register (hentries : Entries h) (exchOid clientOrderId originalQtyE8 : Nat) :
    Entries (step h (.register exchOid clientOrderId originalQtyE8)).1 := by
  intro oid hoid
  simp only [step, HyperliquidExecDecoder.lookup_registerOrder]
  by_cases hzero : exchOid = 0
  · rw [if_pos hzero, if_neg fun hboth => hboth.2 hzero]
    exact hentries oid hoid
  · rw [if_neg hzero]
    by_cases heq : oid = exchOid
    · subst heq
      rw [if_pos ⟨rfl, hzero⟩, Function.update_self, Option.bind_some, entry_registered]
    · rw [if_neg fun hboth => heq hboth.1, Function.update_of_ne heq]
      exact hentries oid hoid

theorem Entries.fill (hentries : Entries h) (fill : HyperliquidFill) (recvNs : Nat) :
    Entries (step h (.fill fill recvNs)).1 := by
  intro oid hoid
  simp only [step]
  by_cases heq : oid = fill.oid
  · subst heq
    rw [HyperliquidExecDecoder.lookup_handleFill_self, hentries fill.oid hoid,
      Function.update_self]
    cases h.orders fill.oid with
    | none => rfl
    | some o => exact (entry_slice o _ _).symm
  · rw [HyperliquidExecDecoder.lookup_handleFill_of_ne recvNs heq, Function.update_of_ne heq]
    exact hentries oid hoid

theorem Entries.step (hentries : Entries h) (input : HyperliquidInput) :
    Entries (FillHistory.step h input).1 := by
  cases input with
  | register exchOid clientOrderId originalQtyE8 =>
    exact hentries.register exchOid clientOrderId originalQtyE8
  | fill fill recvNs => exact hentries.fill fill recvNs

/-! ## Runs -/

/-- A registration changes nothing of what came in. -/
theorem correctFor_register (hcorrect : CorrectFor oid h)
    (exchOid clientOrderId originalQtyE8 : Nat) :
    CorrectFor oid (step h (.register exchOid clientOrderId originalQtyE8)).1 := by
  intro o ho
  simp only [step] at ho
  split at ho
  · exact hcorrect o ho
  · by_cases heq : oid = exchOid
    · rw [heq, Function.update_self, Option.mem_some_iff] at ho
      rw [← ho]
      cases hord : h.orders exchOid with
      | none => exact ⟨rfl, fun k ev hev => nomatch hev⟩
      | some o =>
        obtain ⟨hlength, hdecodes⟩ := hcorrect o (heq ▸ hord)
        refine ⟨hlength, fun k ev hev => ?_⟩
        obtain ⟨hid, hremaining, hfilled, hlast⟩ := hdecodes k ev hev
        exact ⟨hid, hremaining, hfilled, hlast⟩
    · rw [Function.update_of_ne heq] at ho
      exact hcorrect o ho

/-- **One fill.** -/
theorem correctFor_fill_iff (hoid : oid ≠ 0) (hentries : Entries h) (hcorrect : CorrectFor oid h)
    (fill : HyperliquidFill) (recvNs : Nat) :
    CorrectFor oid (step h (.fill fill recvNs)).1 ↔ Undisturbed oid h (.fill fill recvNs) := by
  by_cases heq : fill.oid = oid
  · subst heq
    have hentry := hentries fill.oid hoid
    simp only [CorrectFor, step, Function.update_self, Undisturbed, true_imp_iff]
    cases hord : h.orders fill.oid with
    | none => exact iff_of_true (fun o ho => nomatch ho) (fun o ho => nomatch ho)
    | some o =>
      rw [hord, Option.bind_some, entry] at hentry
      simp only [Option.map_some, Option.mem_def, Option.some.injEq, forall_eq']
      rw [slice_correct_iff (hcorrect o hord)]
      split at hentry
      · next hlast =>
        obtain ⟨ev, hout, hid, -, hremaining, hstatus⟩ :=
          HyperliquidExecDecoder.handleFill_of_lookup fill recvNs hentry
        dsimp only at hid hremaining hstatus
        rw [hout]
        constructor
        · rintro ⟨ev', hev', hunfilled, hid', hremaining', -⟩
          obtain rfl : ev = ev' := Option.some.inj hev'
          refine ⟨hunfilled, hlast, hid.symm.trans hid', ?_⟩
          rw [← hremaining, hremaining', Nat.sub_sub]
        · rintro ⟨hunfilled, -, hclient, hopen⟩
          refine ⟨ev, rfl, hunfilled, hid.trans hclient, ?_, ?_⟩
          · rw [hremaining, hopen, Nat.sub_sub]
          · rw [hstatus, hopen, Nat.sub_sub, Nat.sub_eq_zero_iff_le]
      · next hlast =>
        rw [HyperliquidExecDecoder.handleFill_of_none recvNs hentry]
        refine iff_of_false ?_ (fun hall => hlast hall.2.1)
        rintro ⟨_, hev', -⟩
        cases hev'
  · have hsame : (step h (.fill fill recvNs)).1.orders oid = h.orders oid :=
      Function.update_of_ne (Ne.symm heq) _ _
    refine iff_of_true ?_ (fun h => absurd h heq)
    intro o ho
    rw [hsame] at ho
    exact hcorrect o ho

/-- **Which slices add up.** Whatever registrations and fills come in, every slice of a registered
order is decoded right, from its first registration on, exactly when no slice comes after the
order is filled and no other registration has changed what is open of it. -/
theorem correct_iff_undisturbed (oid : Nat) (hoid : oid ≠ 0) (inputs : List HyperliquidInput) :
    Machine.AllStates step (CorrectFor oid) {} inputs ↔
      Machine.AlongRun step (Undisturbed oid) {} inputs := by
  refine Machine.allStates_iff_alongRun (J := Entries) (fun _ input hentries => hentries.step input)
    (fun h input hentries hcorrect => ?_) Entries.start (fun o ho => nomatch ho) inputs
  cases input with
  | register exchOid clientOrderId originalQtyE8 =>
    exact iff_of_true (correctFor_register hcorrect _ _ _) trivial
  | fill fill recvNs => exact correctFor_fill_iff hoid hentries hcorrect fill recvNs

/-! ## A retry registers again

An order of 1 is filled in two slices of a half. Between them the reconciler registers it again,
with its original quantity. -/

namespace Retry

def register : HyperliquidInput := .register 42 100 100000000

def half : HyperliquidInput :=
  .fill { oid := 42, side := "B", px := 50000, sz := 1 / 2, fee := 0, time := none } 1

end Retry

open Retry in
theorem correct_iff_undisturbed_once :
    Machine.AllStates step (CorrectFor 42) {} [register, half, half] :=
  (correct_iff_undisturbed 42 (by decide) [register, half, half]).mpr (by decide +kernel)

open Retry in
/-- The second half leaves a half open: the order is never reported filled. -/
theorem not_correct_of_retry :
    ¬ Machine.AllStates step (CorrectFor 42) {} [register, half, register, half] := by
  intro h
  let out := Machine.exec step {} [register, half, register, half]
  have hsome : (out.orders 42).isSome := by decide +kernel
  obtain ⟨o, ho⟩ := Option.isSome_iff_exists.mp hsome
  have hremains : ∀ o ∈ out.orders 42, ∃ ev ∈ o.events[1]?, ev.remainingQty = 50000000 ∧
      o.first.originalQtyE8 - o.filledBy 2 = 0 := by decide +kernel
  obtain ⟨ev, hev, hopen, hnone⟩ := hremains o ho
  have hdecodes := (h.final o ho).2 1 ev hev
  have hclash := hdecodes.remainingQty
  rw [hopen, hnone] at hclash
  exact absurd hclash (by decide)

end FillHistory

end BptCore.OrderGateway
