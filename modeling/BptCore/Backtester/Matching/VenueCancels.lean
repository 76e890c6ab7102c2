import BptCore.Backtester.Matching.HeldOrders
import BptCore.Backtester.Matching.SlotQueue
import Mathlib.Algebra.BigOperators.Group.List.Basic
import Mathlib.Algebra.Order.BigOperators.Group.List
import Mathlib.Tactic.GCongr
import Mathlib.Tactic.Linarith
import Mathlib.Tactic.Positivity
import Mathlib.Tactic.Ring

/-!
# What a cancel does to a level

Cancels that the venue's sizes show are taken out of the venue's slots in two passes, and slots with
no more than dust in them are dropped. Nothing else happens to the queue.

* **`Shrinks`** — what may happen to a slot.
* **`spreadCancels`** — the queue before the dust is dropped.
* **`FrameKept`** — slots of ours untouched and in place, venue slots no larger and not negative, and
  only dust dropped.
* **`distributeCancels_frame`** — a cancel keeps the frame, takes no more than it is told to but for
  the dust, and nothing gets ahead of an order of ours.
-/

namespace BptCore.Backtester

/-- No slot of the queue is negative. -/
def NonNeg (q : List Slot) : Prop := ∀ slot ∈ q, 0 ≤ slot.qty

instance (q : List Slot) : Decidable (NonNeg q) :=
  inferInstanceAs (Decidable (∀ slot ∈ q, 0 ≤ slot.qty))

/-- A slot of ours stays as it is, and a venue slot may get smaller. -/
structure Shrinks (slot slot' : Slot) : Prop where
  ours : slot.isOurs = true → slot' = slot
  keeps : slot' = { slot with qty := slot'.qty }
  le : slot'.qty ≤ slot.qty
  nonneg : 0 ≤ slot'.qty

namespace Shrinks

theorem refl {slot : Slot} (h : 0 ≤ slot.qty) : Shrinks slot slot := ⟨fun _ => rfl, rfl, le_rfl, h⟩

theorem isOurs {slot slot' : Slot} (h : Shrinks slot slot') : slot'.isOurs = slot.isOurs := by
  rw [h.keeps]

theorem trans {slot slot' slot'' : Slot} (h : Shrinks slot slot') (h' : Shrinks slot' slot'') :
    Shrinks slot slot'' where
  ours howner := by rw [h'.ours (h.isOurs.trans howner), h.ours howner]
  keeps := by
    rw [h'.keeps, h.keeps]
  le := h'.le.trans h.le
  nonneg := h'.nonneg

theorem take {slot : Slot} (hvenue : slot.isOurs = false) {x : ℚ} (hpos : 0 ≤ x)
    (hle : x ≤ slot.qty) : Shrinks slot { slot with qty := slot.qty - x } where
  ours howner := absurd (hvenue.symm.trans howner) Bool.false_ne_true
  keeps := rfl
  le := sub_le_self _ hpos
  nonneg := sub_nonneg.mpr hle

end Shrinks

theorem NonNeg.cons {slot : Slot} {q : List Slot} (h : NonNeg (slot :: q)) :
    0 ≤ slot.qty ∧ NonNeg q :=
  List.forall_mem_cons.mp h

theorem NonNeg.shrinks_refl {q : List Slot} (h : NonNeg q) : List.Forall₂ Shrinks q q :=
  List.forall₂_same.mpr fun slot hslot => .refl (h slot hslot)

/-! ## Quantities -/

theorem totalQty_cons (slot : Slot) (q : List Slot) :
    totalQty (slot :: q) = slot.qty + totalQty q := by
  rw [totalQty, List.map_cons, List.sum_cons, totalQty]

theorem totalQty_nonneg {q : List Slot} (h : NonNeg q) : 0 ≤ totalQty q := by
  refine List.sum_nonneg fun x hx => ?_
  obtain ⟨slot, hslot, rfl⟩ := List.mem_map.mp hx
  exact h slot hslot

theorem venueQty_nil : venueQty [] = 0 := rfl

theorem venueQty_cons_of_ours {slot : Slot} (h : slot.isOurs = true) (q : List Slot) :
    venueQty (slot :: q) = venueQty q := by
  rw [venueQty, List.filter_cons_of_neg (by rw [h]; decide), venueQty]

theorem venueQty_cons_of_venue {slot : Slot} (h : slot.isOurs = false) (q : List Slot) :
    venueQty (slot :: q) = slot.qty + venueQty q := by
  rw [venueQty, List.filter_cons_of_pos (by rw [h]; decide), totalQty_cons, venueQty]

theorem venueQty_append (q q' : List Slot) : venueQty (q ++ q') = venueQty q + venueQty q' := by
  rw [venueQty, List.filter_append, totalQty, List.map_append, List.sum_append]
  rfl

theorem venueQty_nonneg {q : List Slot} (h : NonNeg q) : 0 ≤ venueQty q :=
  totalQty_nonneg fun slot hslot => h slot (List.mem_of_mem_filter hslot)

theorem shrinks_trans {q q' q'' : List Slot} (h : List.Forall₂ Shrinks q q')
    (h' : List.Forall₂ Shrinks q' q'') : List.Forall₂ Shrinks q q'' := by
  induction h generalizing q'' with
  | nil => exact h'
  | cons hslot _ ih =>
    cases h' with
    | cons hslot' hq' => exact .cons (hslot.trans hslot') (ih hq')

theorem nonneg_of_shrinks {q q' : List Slot} (h : List.Forall₂ Shrinks q q') : NonNeg q' := by
  induction h with
  | nil => exact fun slot hslot => absurd hslot List.not_mem_nil
  | cons hslot _ ih => exact List.forall_mem_cons.mpr ⟨hslot.nonneg, ih⟩

/-! ## The two passes -/

/-- A pass that takes cancels out of the venue's slots: it takes as much as it says. -/
structure Takes (q : List Slot) (remaining : ℚ) (out : List Slot × ℚ) : Prop where
  shrinks : List.Forall₂ Shrinks q out.1
  left : 0 ≤ out.2
  balance : venueQty q - venueQty out.1 = remaining - out.2

namespace Takes

variable {slot : Slot} {q : List Slot} {remaining x : ℚ} {out : List Slot × ℚ}

theorem none (h : NonNeg q) (hrem : 0 ≤ remaining) : Takes q remaining (q, remaining) :=
  ⟨h.shrinks_refl, hrem, by rw [sub_self, sub_self]⟩

theorem skip (hslot : 0 ≤ slot.qty) (howner : slot.isOurs = true) (h : Takes q remaining out) :
    Takes (slot :: q) remaining (slot :: out.1, out.2) where
  shrinks := .cons (.refl hslot) h.shrinks
  left := h.left
  balance := by rw [venueQty_cons_of_ours howner, venueQty_cons_of_ours howner, h.balance]

theorem take (howner : slot.isOurs = false) (hpos : 0 ≤ x) (hle : x ≤ slot.qty)
    (h : Takes q (remaining - x) out) :
    Takes (slot :: q) remaining ({ slot with qty := slot.qty - x } :: out.1, out.2) where
  shrinks := .cons (.take howner hpos hle) h.shrinks
  left := h.left
  balance := by
    have hbal := h.balance
    have hnew : ({ slot with qty := slot.qty - x } : Slot).isOurs = false := howner
    rw [venueQty_cons_of_venue howner, venueQty_cons_of_venue hnew]
    linarith

end Takes

theorem share_nonneg {cancels n2 d qty : ℚ} (hcancels : 0 ≤ cancels) (hn2 : 0 ≤ n2) (hd : 0 ≤ d)
    (hqty : 0 ≤ qty) : 0 ≤ cancels * (((d + qty) * (d + qty) - d * d) / n2) := by
  have hsq : (d + qty) * (d + qty) - d * d = qty * (2 * d + qty) := by ring
  rw [hsq]
  positivity

theorem takes_cancelShares {cancels n2 remaining d : ℚ} {q : List Slot} (h : NonNeg q)
    (hcancels : 0 ≤ cancels) (hn2 : 0 ≤ n2) (hd : 0 ≤ d) (hrem : 0 ≤ remaining) :
    Takes q remaining (cancelShares cancels n2 remaining d q) := by
  induction q generalizing remaining d with
  | nil => exact .none h hrem
  | cons slot q ih =>
    obtain ⟨hslot, hq⟩ := h.cons
    rw [cancelShares]
    split
    · exact .none h hrem
    · dsimp only
      split
      · next howner => exact .skip hslot howner (ih hq (add_nonneg hd hslot) hrem)
      · next howner =>
        have hshare := share_nonneg hcancels hn2 hd hslot
        refine .take (Bool.eq_false_iff.mpr howner)
          (le_min (le_min hshare hslot) hrem) ((min_le_left _ _).trans (min_le_right _ _)) ?_
        exact ih hq (add_nonneg hd hslot) (sub_nonneg.mpr (min_le_right _ _))

theorem takes_cancelResidual {avail remaining : ℚ} {q : List Slot} (h : NonNeg q)
    (havail : 0 < avail) (hall : ∀ slot ∈ q, slot.isOurs = false → slot.qty ≤ avail)
    (hrem : 0 ≤ remaining) : Takes q remaining (cancelResidual avail remaining q) := by
  induction q generalizing remaining with
  | nil => exact .none h hrem
  | cons slot q ih =>
    obtain ⟨hslot, hq⟩ := h.cons
    have hrest : ∀ slot ∈ q, slot.isOurs = false → slot.qty ≤ avail :=
      fun s hs => hall s (List.mem_cons_of_mem _ hs)
    rw [cancelResidual]
    split
    · exact .none h hrem
    · split
      · next howner => exact .skip hslot howner (ih hq hrest hrem)
      · next howner =>
        have hvenue := Bool.eq_false_iff.mpr howner
        -- a slot's part of what is there is at most all of it
        have hfrac : slot.qty / avail ≤ 1 :=
          (div_le_one havail).mpr (hall slot List.mem_cons_self hvenue)
        have htake : min (remaining * (slot.qty / avail)) slot.qty ≤ remaining :=
          (min_le_left _ _).trans (mul_le_of_le_one_right hrem hfrac)
        refine .take hvenue (le_min (by positivity) hslot) (min_le_right _ _) ?_
        exact ih hq hrest (sub_nonneg.mpr htake)

theorem qty_le_venueQty {q : List Slot} (h : NonNeg q) {slot : Slot} (hslot : slot ∈ q)
    (howner : slot.isOurs = false) : slot.qty ≤ venueQty q := by
  have hmem : slot ∈ q.filter fun s => !s.isOurs := List.mem_filter.mpr ⟨hslot, by rw [howner]; rfl⟩
  refine List.single_le_sum (fun x hx => ?_) _ (List.mem_map_of_mem hmem)
  obtain ⟨s, hs, rfl⟩ := List.mem_map.mp hx
  exact h s (List.mem_of_mem_filter hs)

/-- `distribute_cancels` up to the slots that it erases, with the cancels that are left. -/
def spreadCancels (queue : List Slot) (cancels : ℚ) : List Slot × ℚ :=
  let shared := cancelShares cancels (totalQty queue * totalQty queue) cancels 0 queue
  if shared.2 > kQtyTol ∧ venueQty shared.1 > 0 then
    cancelResidual (venueQty shared.1) shared.2 shared.1
  else shared

/-- A slot that is not erased. -/
def stays (slot : Slot) : Bool := !(!slot.isOurs && decide (slot.qty ≤ kQtyTol))

theorem not_stays {slot : Slot} (h : ¬ stays slot = true) :
    slot.isOurs = false ∧ slot.qty ≤ kQtyTol := by
  simpa [stays] using h

theorem distributeCancels_eq (queue : List Slot) (cancels : ℚ) :
    distributeCancels queue cancels =
      if cancels ≤ 0 ∨ queue = [] ∨ totalQty queue ≤ 0 then queue
      else (spreadCancels queue cancels).1.filter stays := by
  unfold distributeCancels spreadCancels
  by_cases hnone : cancels ≤ 0 ∨ queue = []
  · rw [if_pos hnone, if_pos (hnone.imp_right .inl)]
  · rw [if_neg hnone]
    by_cases htotal : totalQty queue ≤ 0
    · rw [if_pos htotal, if_pos (.inr (.inr htotal))]
    · rw [if_neg htotal, if_neg (by tauto)]
      dsimp only
      split <;> rfl

theorem takes_spreadCancels {q : List Slot} (h : NonNeg q) {cancels : ℚ} (hcancels : 0 ≤ cancels) :
    Takes q cancels (spreadCancels q cancels) := by
  have hshared := takes_cancelShares h hcancels (mul_self_nonneg (totalQty q)) le_rfl hcancels
  rw [spreadCancels]
  split
  · next hmore =>
    have hkept := nonneg_of_shrinks hshared.shrinks
    have hresidual := takes_cancelResidual hkept hmore.2
      (fun slot hslot howner => qty_le_venueQty hkept hslot howner) hshared.left
    refine ⟨?_, hresidual.left, ?_⟩
    · exact shrinks_trans hshared.shrinks hresidual.shrinks
    · linarith [hshared.balance, hresidual.balance]
  · exact hshared

/-! ## The frame -/

/-- **What a cancel leaves of a queue**: every slot in its place, as `Shrinks` has it, but for venue
slots with no more than dust left, which are gone. -/
inductive FrameKept : List Slot → List Slot → Prop where
  | nil : FrameKept [] []
  | keep {slot slot' : Slot} {q q' : List Slot} (hslot : Shrinks slot slot') (hq : FrameKept q q') :
      FrameKept (slot :: q) (slot' :: q')
  | drop {slot slot' : Slot} {q q' : List Slot} (howner : slot.isOurs = false)
      (hslot : Shrinks slot slot') (hdust : slot'.qty ≤ kQtyTol) (hq : FrameKept q q') :
      FrameKept (slot :: q) q'

/-- The venue quantity in front of an order of ours. -/
def ahead (id : Nat) (q : List Slot) : ℚ :=
  venueQty (q.takeWhile fun slot => !(slot.isOurs && slot.ourOrderId == id))

namespace FrameKept

theorem of_shrinks {q settled : List Slot} (h : List.Forall₂ Shrinks q settled) :
    FrameKept q settled := by
  induction h with
  | nil => exact .nil
  | cons hslot _ ih => exact .keep hslot ih

theorem of_shrinks_stays {q settled : List Slot} (h : List.Forall₂ Shrinks q settled) :
    FrameKept q (settled.filter stays) := by
  induction h with
  | nil => exact .nil
  | @cons slot slot' q settled hslot _ ih =>
    by_cases hstays : stays slot' = true
    · rw [List.filter_cons_of_pos hstays]
      exact .keep hslot ih
    · rw [List.filter_cons_of_neg hstays]
      obtain ⟨howner, hdust⟩ := not_stays hstays
      exact .drop (hslot.isOurs.symm.trans howner) hslot hdust ih

theorem length_le {q q' : List Slot} (h : FrameKept q q') : q'.length ≤ q.length := by
  induction h with
  | nil => exact le_rfl
  | keep _ _ ih => exact Nat.succ_le_succ ih
  | drop _ _ _ _ ih => exact Nat.le_succ_of_le ih

theorem ahead_le {q q' : List Slot} (h : FrameKept q q') (hq : NonNeg q) (id : Nat) :
    ahead id q' ≤ ahead id q := by
  induction h with
  | nil => exact le_rfl
  | @keep slot slot' q q' hslot _ ih =>
    have hrest := ih hq.cons.2
    cases howner : slot.isOurs with
    | true =>
      -- a slot of ours is the same in both, so that both stop here or neither
      rw [hslot.ours howner, ahead, ahead, List.takeWhile_cons, List.takeWhile_cons]
      split
      · rwa [venueQty_cons_of_ours howner, venueQty_cons_of_ours howner]
      · exact le_rfl
    | false =>
      have howner' := hslot.isOurs.trans howner
      rw [ahead, ahead, List.takeWhile_cons_of_pos (by rw [howner']; rfl),
        List.takeWhile_cons_of_pos (by rw [howner]; rfl), venueQty_cons_of_venue howner',
        venueQty_cons_of_venue howner]
      exact add_le_add hslot.le hrest
  | @drop slot slot' q q' howner hslot _ _ ih =>
    have hrest := ih hq.cons.2
    have hpos := hq.cons.1
    rw [ahead, ahead, List.takeWhile_cons_of_pos (by rw [howner]; rfl),
      venueQty_cons_of_venue howner]
    exact hrest.trans (le_add_of_nonneg_left hpos)

end FrameKept

/-- What the dropped slots held, `1e-12` each at most. -/
theorem venueQty_filter_stays (settled : List Slot) :
    venueQty settled - venueQty (settled.filter stays) ≤
      kQtyTol * ((settled.length - (settled.filter stays).length : ℕ) : ℚ) := by
  induction settled with
  | nil => simp [venueQty_nil]
  | cons slot settled ih =>
    have hlen : (settled.filter stays).length ≤ settled.length := List.length_filter_le _ _
    by_cases hstays : stays slot = true
    · rw [List.filter_cons_of_pos hstays, List.length_cons, List.length_cons, Nat.add_sub_add_right]
      cases howner : slot.isOurs with
      | true => rwa [venueQty_cons_of_ours howner, venueQty_cons_of_ours howner]
      | false =>
        rwa [venueQty_cons_of_venue howner, venueQty_cons_of_venue howner, add_sub_add_left_eq_sub]
    · rw [List.filter_cons_of_neg hstays, List.length_cons, Nat.succ_sub hlen]
      obtain ⟨howner, hdust⟩ := not_stays hstays
      rw [venueQty_cons_of_venue howner, Nat.cast_succ]
      linarith

/-- **The frame of a cancel.** Slots of ours stay untouched and in place, the others keep their
order, and get no larger and not negative; a slot that is dropped is a venue slot with no more than
dust left. In all no more is removed than was cancelled, but for the dust, and no order of ours has
more of the venue in front of it. -/
theorem distributeCancels_frame (q : List Slot) (cancels : ℚ) (h : NonNeg q) :
    FrameKept q (distributeCancels q cancels) ∧
      venueQty q - venueQty (distributeCancels q cancels) ≤
        max cancels 0 + kQtyTol * ((q.length - (distributeCancels q cancels).length : ℕ) : ℚ) ∧
      ∀ id, ahead id (distributeCancels q cancels) ≤ ahead id q := by
  have hframe : FrameKept q (distributeCancels q cancels) := by
    rw [distributeCancels_eq]
    split
    · exact .of_shrinks h.shrinks_refl
    · next hsome =>
      have hcancels : 0 ≤ cancels := le_of_not_ge fun hle => hsome (.inl hle)
      exact .of_shrinks_stays (takes_spreadCancels h hcancels).shrinks
  refine ⟨hframe, ?_, hframe.ahead_le h⟩
  rw [distributeCancels_eq]
  split
  · rw [sub_self, Nat.sub_self, Nat.cast_zero, mul_zero, add_zero]
    exact le_max_right _ _
  · next hsome =>
    have hcancels : 0 ≤ cancels := le_of_not_ge fun hle => hsome (.inl hle)
    have htakes := takes_spreadCancels h hcancels
    have hdust := venueQty_filter_stays (spreadCancels q cancels).1
    rw [htakes.shrinks.length_eq]
    linarith [htakes.balance, htakes.left, le_max_left cancels 0]

def venueSlot (qty : ℚ) : Slot := ⟨qty, false, 0, 0⟩

/-- An order of ours between two venue slots. -/
def sandwiched : List Slot := [venueSlot 4, ⟨4, true, 7, 0⟩, venueSlot 4]

theorem distributeCancels_frame_sandwiched :
    FrameKept sandwiched (distributeCancels sandwiched 3) ∧
      ahead 7 (distributeCancels sandwiched 3) ≤ ahead 7 sandwiched :=
  have h := distributeCancels_frame sandwiched 3 (by decide +kernel)
  ⟨h.1, h.2.2 7⟩

/-- A slot of dust goes with the smallest of cancels. -/
theorem not_removes_at_most :
    NonNeg [venueSlot kQtyTol, venueSlot 1] ∧
      ¬ venueQty [venueSlot kQtyTol, venueSlot 1] -
          venueQty (distributeCancels [venueSlot kQtyTol, venueSlot 1] (kQtyTol / 10)) ≤
        kQtyTol / 10 := by
  decide +kernel

end BptCore.Backtester
