import BptCore.Backtester.Matching.VenueCancels
import Mathlib.Tactic.FieldSimp

/-!
# Queues after a snapshot

After a snapshot the venue's slots of a level should add up to the size that the snapshot shows. The
shares of the first pass leave cancels over when a slot of ours has one or when a share is larger
than its slot. The second pass spreads them in proportion to the slots, but takes every slot's part
of what is left by then, and not of what there was: with two slots to spread over it does not get
them all out.

* **`shareOut`** — what the shares alone leave of the slots.
* **`CancelsFit`** — the cancels that come out exactly.
* **`spreadCancels_exact_iff`** — they are those and no others.
* **`snapshot_sizes`** — this, and the sizes of the levels after a snapshot whose cancels fit.
-/

namespace BptCore.Backtester

/-! ## The shares -/

/-- The queue when every venue slot loses its share, or all that it has. -/
def shareOut (cancels n2 : ℚ) : ℚ → List Slot → List Slot
  | _, [] => []
  | d, slot :: slots =>
    let dEnd := d + slot.qty
    (if slot.isOurs then slot
      else { slot with qty := slot.qty - min (cancels * ((dEnd * dEnd - d * d) / n2)) slot.qty }) ::
      shareOut cancels n2 dEnd slots

/-- No slot of ours takes a share, and no share is more than its slot. -/
def SharesFit (cancels n2 : ℚ) : ℚ → List Slot → Prop
  | _, [] => True
  | d, slot :: slots =>
    let dEnd := d + slot.qty
    (if slot.isOurs then slot.qty = 0
      else cancels * ((dEnd * dEnd - d * d) / n2) ≤ slot.qty) ∧
      SharesFit cancels n2 dEnd slots

section Shares

variable {cancels N d : ℚ} {q : List Slot}

theorem eq_zero_of_totalQty {slot : Slot} (h : NonNeg (slot :: q))
    (htotal : totalQty (slot :: q) = 0) : slot.qty = 0 ∧ totalQty q = 0 := by
  obtain ⟨hslot, hq⟩ := h.cons
  have hrest := totalQty_nonneg hq
  rw [totalQty_cons] at htotal
  constructor <;> linarith

theorem shareOut_of_empty (n2 : ℚ) (h : NonNeg q) (htotal : totalQty q = 0) :
    shareOut cancels n2 d q = q := by
  induction q generalizing d with
  | nil => rfl
  | cons slot q ih =>
    obtain ⟨hzero, hrest⟩ := eq_zero_of_totalQty h htotal
    rw [shareOut, hzero, add_zero, sub_self, zero_div, mul_zero, min_self, ih h.cons.2 hrest]
    congr 1
    split
    · rfl
    · exact congrArg (fun x => { slot with qty := x }) ((sub_zero (0 : ℚ)).trans hzero.symm)

/-- What is left of the cancels is at least the shares of the slots to come, so it never stands in
the way of one. -/
theorem cancelShares_eq (h : NonNeg q) (hcancels : 0 < cancels) (hN : 0 < N) (hd : 0 ≤ d)
    (htotal : d + totalQty q = N) {remaining : ℚ}
    (hrem : cancels * ((N * N - d * d) / (N * N)) ≤ remaining) :
    (cancelShares cancels (N * N) remaining d q).1 = shareOut cancels (N * N) d q := by
  induction q generalizing d remaining with
  | nil => rfl
  | cons slot q ih =>
    obtain ⟨hslot, hq⟩ := h.cons
    have hdEnd : 0 ≤ d + slot.qty := add_nonneg hd hslot
    have hrest := totalQty_nonneg hq
    have hsum : d + slot.qty + totalQty q = N := by
      rw [totalQty_cons] at htotal
      linarith
    have hNN : 0 < N * N := mul_pos hN hN
    -- the shares from here on are this one and those after it
    have hsplit : cancels * ((N * N - d * d) / (N * N)) =
        cancels * (((d + slot.qty) * (d + slot.qty) - d * d) / (N * N)) +
          cancels * ((N * N - (d + slot.qty) * (d + slot.qty)) / (N * N)) := by
      ring
    have hlater : 0 ≤ cancels * ((N * N - (d + slot.qty) * (d + slot.qty)) / (N * N)) := by
      have hle : (d + slot.qty) * (d + slot.qty) ≤ N * N :=
        mul_self_le_mul_self hdEnd (by linarith)
      have hsub : 0 ≤ N * N - (d + slot.qty) * (d + slot.qty) := sub_nonneg.mpr hle
      positivity
    have hshare := share_nonneg hcancels.le hNN.le hd hslot
    rw [cancelShares]
    split
    · next hdone =>
      -- nothing is left, so that the slots from here on are empty
      have hzero : N * N - d * d = 0 := by
        have hprod : cancels * ((N * N - d * d) / (N * N)) ≤ 0 := hrem.trans hdone
        have hdiff : 0 ≤ N * N - d * d :=
          sub_nonneg.mpr (mul_self_le_mul_self hd (by linarith))
        by_contra hne
        have hpos : 0 < N * N - d * d := lt_of_le_of_ne hdiff (Ne.symm hne)
        have : 0 < cancels * ((N * N - d * d) / (N * N)) := by positivity
        linarith
      have hdN : d = N := by
        have hfac : (N - d) * (N + d) = 0 := by linarith
        rcases mul_eq_zero.mp hfac with hsub | hadd
        · linarith
        · linarith
      rw [shareOut_of_empty _ h (by rw [totalQty_cons]; linarith)]
    · dsimp only
      rw [shareOut]
      split
      · rw [ih hq hdEnd hsum (by linarith)]
      · have hmin : min (min (cancels *
            (((d + slot.qty) * (d + slot.qty) - d * d) / (N * N))) slot.qty) remaining =
            min (cancels * (((d + slot.qty) * (d + slot.qty) - d * d) / (N * N))) slot.qty :=
          min_eq_left ((min_le_left _ _).trans (by linarith))
        rw [hmin, ih hq hdEnd hsum]
        have hle := min_le_left
          (cancels * (((d + slot.qty) * (d + slot.qty) - d * d) / (N * N))) slot.qty
        linarith

/-- The shares that do not come out of the venue's slots: none when all of them fit. -/
theorem lost_shares (h : NonNeg q) (hcancels : 0 < cancels) (hN : 0 < N) (hd : 0 ≤ d)
    (htotal : d + totalQty q = N) :
    0 ≤ cancels * ((N * N - d * d) / (N * N)) -
        (venueQty q - venueQty (shareOut cancels (N * N) d q)) ∧
      (cancels * ((N * N - d * d) / (N * N)) -
          (venueQty q - venueQty (shareOut cancels (N * N) d q)) = 0 ↔
        SharesFit cancels (N * N) d q) := by
  induction q generalizing d with
  | nil =>
    have hdN : d = N := by
      rw [← htotal]
      exact (add_zero d).symm
    rw [hdN, shareOut, venueQty_nil]
    simp [SharesFit]
  | cons slot q ih =>
    obtain ⟨hslot, hq⟩ := h.cons
    have hsum : d + slot.qty + totalQty q = N := by
      rw [totalQty_cons] at htotal
      linarith
    obtain ⟨hge, hiff⟩ := ih hq (add_nonneg hd hslot) hsum
    have hNN : 0 < N * N := mul_pos hN hN
    have hshare := share_nonneg hcancels.le hNN.le hd hslot
    have hsplit : cancels * ((N * N - d * d) / (N * N)) =
        cancels * (((d + slot.qty) * (d + slot.qty) - d * d) / (N * N)) +
          cancels * ((N * N - (d + slot.qty) * (d + slot.qty)) / (N * N)) := by
      ring
    rw [shareOut, SharesFit, hsplit, ← hiff]
    by_cases howner : slot.isOurs = true
    · rw [if_pos howner, if_pos howner, venueQty_cons_of_ours howner, venueQty_cons_of_ours howner]
      -- a slot of ours has a share unless it is empty
      have hzero : cancels * (((d + slot.qty) * (d + slot.qty) - d * d) / (N * N)) = 0 ↔
          slot.qty = 0 := by
        constructor
        · intro hz
          have hsq : (d + slot.qty) * (d + slot.qty) - d * d = slot.qty * (2 * d + slot.qty) := by
            ring
          rw [hsq] at hz
          by_contra hne
          have hpos : 0 < slot.qty := lt_of_le_of_ne hslot (Ne.symm hne)
          have : 0 < cancels * (slot.qty * (2 * d + slot.qty) / (N * N)) := by positivity
          linarith
        · intro hz
          rw [hz, add_zero, sub_self, zero_div, mul_zero]
      refine ⟨by linarith, ?_⟩
      rw [← hzero]
      constructor
      · intro heq
        exact ⟨by linarith, by linarith⟩
      · rintro ⟨h1, h2⟩
        linarith
    · have hvenue : slot.isOurs = false := Bool.eq_false_iff.mpr howner
      have hnew : ({ slot with qty := slot.qty - min (cancels * (((d + slot.qty) *
          (d + slot.qty) - d * d) / (N * N))) slot.qty } : Slot).isOurs = false := hvenue
      rw [if_neg howner, if_neg howner, venueQty_cons_of_venue hvenue, venueQty_cons_of_venue hnew]
      dsimp only
      have hmin := min_le_left
        (cancels * (((d + slot.qty) * (d + slot.qty) - d * d) / (N * N))) slot.qty
      refine ⟨by linarith, ?_⟩
      constructor
      · intro heq
        have hfull := le_antisymm hmin (by linarith)
        exact ⟨min_eq_left_iff.mp hfull, by linarith⟩
      · rintro ⟨hfit, h2⟩
        rw [min_eq_left hfit]
        linarith

theorem nonneg_shareOut (n2 : ℚ) (h : NonNeg q) : NonNeg (shareOut cancels n2 d q) := by
  induction q generalizing d with
  | nil => exact h
  | cons slot q ih =>
    obtain ⟨hslot, hq⟩ := h.cons
    rw [shareOut]
    refine List.forall_mem_cons.mpr ⟨?_, ih hq⟩
    split
    · exact hslot
    · exact sub_nonneg.mpr (min_le_right _ _)

end Shares

/-! ## The second pass -/

/-- What the venue has in front of its last slot that is not empty. -/
def inFront : List Slot → ℚ
  | [] => 0
  | slot :: slots =>
    if venueQty slots = 0 then 0 else (if slot.isOurs then 0 else slot.qty) + inFront slots

section Residual

variable {avail remaining : ℚ} {q : List Slot}

theorem inFront_nonneg (h : NonNeg q) : 0 ≤ inFront q := by
  induction q with
  | nil => exact le_rfl
  | cons slot q ih =>
    obtain ⟨hslot, hq⟩ := h.cons
    rw [inFront]
    split
    · exact le_rfl
    · split
      · exact add_nonneg le_rfl (ih hq)
      · exact add_nonneg hslot (ih hq)

theorem inFront_of_empty (h : NonNeg q) (hzero : venueQty q = 0) : inFront q = 0 := by
  cases q with
  | nil => rfl
  | cons slot q =>
    obtain ⟨hslot, hq⟩ := h.cons
    have hrest := venueQty_nonneg hq
    rw [inFront, if_pos]
    cases howner : slot.isOurs with
    | true => rwa [venueQty_cons_of_ours howner] at hzero
    | false =>
      rw [venueQty_cons_of_venue howner] at hzero
      linarith

/-- One slot is left, and it is all that there is. -/
theorem inFront_le_zero_iff (h : NonNeg q) (hpos : 0 < venueQty q) :
    inFront q ≤ 0 ↔ ∃ slot ∈ q, slot.isOurs = false ∧ slot.qty = venueQty q := by
  induction q with
  | nil => exact absurd hpos (lt_irrefl 0)
  | cons slot q ih =>
    obtain ⟨hslot, hq⟩ := h.cons
    have hrest := venueQty_nonneg hq
    have hfront := inFront_nonneg hq
    rw [inFront]
    by_cases howner : slot.isOurs = true
    · rw [venueQty_cons_of_ours howner] at hpos ⊢
      rw [if_neg hpos.ne', if_pos howner, zero_add, ih hq hpos]
      constructor
      · rintro ⟨s, hs, hs'⟩
        exact ⟨s, List.mem_cons_of_mem _ hs, hs'⟩
      · rintro ⟨s, hs, hvenue, hqty⟩
        obtain rfl | hs := List.mem_cons.mp hs
        · exact absurd howner (Bool.eq_false_iff.mp hvenue)
        · exact ⟨s, hs, hvenue, hqty⟩
    · have hvenue : slot.isOurs = false := Bool.eq_false_iff.mpr howner
      rw [venueQty_cons_of_venue hvenue] at hpos ⊢
      by_cases hlast : venueQty q = 0
      · rw [if_pos hlast, hlast, add_zero]
        exact iff_of_true le_rfl ⟨slot, List.mem_cons_self, hvenue, rfl⟩
      · have hmore : 0 < venueQty q := lt_of_le_of_ne hrest (Ne.symm hlast)
        rw [if_neg hlast, if_neg howner]
        constructor
        · intro hle
          obtain ⟨s, hs, hs', hqty⟩ := (ih hq hmore).mp (by linarith)
          exact ⟨s, List.mem_cons_of_mem _ hs, hs', by linarith⟩
        · rintro ⟨s, hs, hs', hqty⟩
          obtain rfl | hs := List.mem_cons.mp hs
          · exact absurd hmore (by linarith)
          · have hle := qty_le_venueQty hq hs hs'
            have := (ih hq hmore).mpr ⟨s, hs, hs', by linarith⟩
            linarith

/-- When there is at most what there is room for, all of it comes out just when one slot has all of
the room. -/
theorem cancelResidual_left_iff (h : NonNeg q) (havail : 0 < avail)
    (hall : ∀ slot ∈ q, slot.isOurs = false → slot.qty ≤ avail) (hrem : 0 < remaining)
    (hle : remaining ≤ avail) :
    (cancelResidual avail remaining q).2 = 0 ↔
      ∃ slot ∈ q, slot.isOurs = false ∧ slot.qty = avail := by
  induction q generalizing remaining with
  | nil => exact iff_of_false hrem.ne' fun ⟨_, hs, _⟩ => absurd hs List.not_mem_nil
  | cons slot q ih =>
    obtain ⟨hslot, hq⟩ := h.cons
    have hrest : ∀ slot ∈ q, slot.isOurs = false → slot.qty ≤ avail :=
      fun s hs => hall s (List.mem_cons_of_mem _ hs)
    rw [cancelResidual, if_neg (not_le.mpr hrem), List.exists_mem_cons_iff]
    by_cases howner : slot.isOurs = true
    · rw [if_pos howner]
      refine (ih hq hrest hrem hle).trans (or_iff_right ?_).symm
      exact fun hs => Bool.eq_false_iff.mp hs.1 howner
    · have hvenue : slot.isOurs = false := Bool.eq_false_iff.mpr howner
      have hqty := hall slot List.mem_cons_self hvenue
      have htake : min (remaining * (slot.qty / avail)) slot.qty =
          remaining * (slot.qty / avail) := by
        refine min_eq_left ?_
        rw [mul_div_assoc', div_le_iff₀ havail]
        rw [mul_comm]
        exact mul_le_mul_of_nonneg_left hle hslot
      rw [if_neg howner, htake, and_iff_right hvenue]
      dsimp only
      by_cases hfull : slot.qty = avail
      · rw [hfull, div_self havail.ne', mul_one, sub_self]
        refine iff_of_true ?_ (.inl rfl)
        cases q with
        | nil => rfl
        | cons s q => rw [cancelResidual, if_pos le_rfl]
      · have hfrac : slot.qty / avail < 1 := (div_lt_one havail).mpr (lt_of_le_of_ne hqty hfull)
        have hpart : 0 ≤ slot.qty / avail := div_nonneg hslot havail.le
        have hless : remaining * (slot.qty / avail) < remaining :=
          mul_lt_of_lt_one_right hrem hfrac
        rw [ih hq hrest (sub_pos.mpr hless) (by
          have := mul_nonneg hrem.le hpart
          linarith)]
        exact (or_iff_right hfull).symm

/-- The second pass empties the venue's slots just when there is enough left at the last of them. -/
theorem cancelResidual_empties_iff (h : NonNeg q) (havail : 0 < avail)
    (hall : ∀ slot ∈ q, slot.isOurs = false → slot.qty ≤ avail) (hrem : 0 ≤ remaining) :
    venueQty (cancelResidual avail remaining q).1 = 0 ↔
      venueQty q = 0 ∨ inFront q ≤ remaining - avail := by
  induction q generalizing remaining with
  | nil => exact iff_of_true rfl (.inl rfl)
  | cons slot q ih =>
    obtain ⟨hslot, hq⟩ := h.cons
    have hrest : ∀ slot ∈ q, slot.isOurs = false → slot.qty ≤ avail :=
      fun s hs => hall s (List.mem_cons_of_mem _ hs)
    have hmore := venueQty_nonneg hq
    have hfront := inFront_nonneg hq
    rw [cancelResidual]
    by_cases hnone : remaining ≤ 0
    · -- nothing is left, and the room is more than that
      rw [if_pos hnone]
      have hpos := inFront_nonneg h
      exact (or_iff_left (by linarith)).symm
    rw [if_neg hnone]
    by_cases howner : slot.isOurs = true
    · rw [if_pos howner, venueQty_cons_of_ours howner, venueQty_cons_of_ours howner,
        ih hq hrest hrem, inFront]
      refine or_congr_right' fun hne => ?_
      rw [if_neg hne, if_pos howner, zero_add]
    · have hvenue : slot.isOurs = false := Bool.eq_false_iff.mpr howner
      have hnew : ({ slot with qty := slot.qty - min (remaining * (slot.qty / avail)) slot.qty } :
          Slot).isOurs = false := hvenue
      have hqty := hall slot List.mem_cons_self hvenue
      have hpart : 0 ≤ slot.qty / avail := div_nonneg hslot havail.le
      have hless : remaining * (slot.qty / avail) ≤ remaining :=
        mul_le_of_le_one_right hrem ((div_le_one havail).mpr hqty)
      rw [if_neg howner, venueQty_cons_of_venue hvenue, venueQty_cons_of_venue hnew]
      dsimp only
      have hleft : 0 ≤ remaining - min (remaining * (slot.qty / avail)) slot.qty :=
        sub_nonneg.mpr ((min_le_left _ _).trans hless)
      have hout := venueQty_nonneg (nonneg_of_shrinks
        (takes_cancelResidual hq havail hrest hleft).shrinks)
      have hfrontAll := inFront_nonneg h
      rcases hslot.eq_or_lt with hzero | hpos
      · -- an empty slot takes nothing
        rw [← hzero, zero_div, mul_zero, min_self, sub_zero, sub_zero, zero_add, zero_add,
          ih hq hrest hrem, inFront, ← hzero]
        refine or_congr_right' fun hne => ?_
        rw [if_neg hne, if_neg howner, zero_add]
      · have hsome : ¬ slot.qty + venueQty q = 0 := by linarith
        rcases le_or_gt avail remaining with hmuch | hlittle
        · have htake : min (remaining * (slot.qty / avail)) slot.qty = slot.qty := by
            refine min_eq_right ?_
            rw [mul_div_assoc', le_div_iff₀ havail, mul_comm]
            exact mul_le_mul_of_nonneg_right hmuch hslot
          rw [htake] at hleft ⊢
          rw [sub_self, zero_add, ih hq hrest hleft, or_iff_right hsome, inFront]
          by_cases hlast : venueQty q = 0
          · rw [if_pos hlast]
            exact iff_of_true (.inl hlast) (sub_nonneg.mpr hmuch)
          · rw [if_neg hlast, if_neg howner, or_iff_right hlast]
            constructor <;> intro hle <;> linarith
        · -- the slot keeps some of what it has
          have htake : min (remaining * (slot.qty / avail)) slot.qty < slot.qty := by
            refine lt_of_le_of_lt (min_le_left _ _) ?_
            rw [mul_div_assoc', div_lt_iff₀ havail, mul_comm]
            exact mul_lt_mul_of_pos_left hlittle hpos
          refine iff_of_false (fun heq => ?_) (not_or.mpr ⟨hsome, fun hle => ?_⟩)
          · linarith
          · linarith

end Residual

/-! ## Cancels that come out exactly -/

/-- What the shares leave of the cancels. -/
def unplaced (q : List Slot) (cancels : ℚ) : ℚ :=
  cancels - (venueQty q - venueQty (shareOut cancels (totalQty q * totalQty q) 0 q))

/-- **The cancels that come out exactly**: all shares fit, or what the shares leave in front of the
last venue slot is no more than the cancels are in excess of the venue's total, and the second pass
is made unless nothing is left to empty. -/
def CancelsFit (q : List Slot) (cancels : ℚ) : Prop :=
  SharesFit cancels (totalQty q * totalQty q) 0 q ∨
    (venueQty (shareOut cancels (totalQty q * totalQty q) 0 q) = 0 ∨
        kQtyTol < unplaced q cancels) ∧
      inFront (shareOut cancels (totalQty q * totalQty q) 0 q) ≤ max 0 (cancels - venueQty q)

section Spread

variable {q : List Slot} {cancels : ℚ}

/-- The two passes, by the shares. -/
theorem spreadCancels_eq (h : NonNeg q) (hcancels : 0 < cancels) (htotal : 0 < totalQty q) :
    spreadCancels q cancels =
      if kQtyTol < unplaced q cancels ∧
          0 < venueQty (shareOut cancels (totalQty q * totalQty q) 0 q) then
        cancelResidual (venueQty (shareOut cancels (totalQty q * totalQty q) 0 q))
          (unplaced q cancels) (shareOut cancels (totalQty q * totalQty q) 0 q)
      else (shareOut cancels (totalQty q * totalQty q) 0 q, unplaced q cancels) := by
  have hout : (cancelShares cancels (totalQty q * totalQty q) cancels 0 q).1 =
      shareOut cancels (totalQty q * totalQty q) 0 q := by
    refine cancelShares_eq h hcancels htotal le_rfl (zero_add _) ?_
    rw [mul_zero, sub_zero, div_self (mul_pos htotal htotal).ne', mul_one]
  have hbal := (takes_cancelShares h hcancels.le (mul_self_nonneg (totalQty q)) le_rfl
    hcancels.le).balance
  have hleft : (cancelShares cancels (totalQty q * totalQty q) cancels 0 q).2 =
      unplaced q cancels := by
    rw [hout] at hbal
    rw [unplaced]
    linarith
  unfold spreadCancels
  dsimp only
  rw [hout, hleft]
  split
  · rfl
  · exact Prod.ext hout hleft

/-- What the shares leave of the cancels is nothing when they fit. -/
theorem unplaced_spec (h : NonNeg q) (hcancels : 0 < cancels) (htotal : 0 < totalQty q) :
    0 ≤ unplaced q cancels ∧
      (unplaced q cancels = 0 ↔ SharesFit cancels (totalQty q * totalQty q) 0 q) := by
  have hlost := lost_shares h hcancels htotal le_rfl (zero_add _)
  rwa [mul_zero, sub_zero, div_self (mul_pos htotal htotal).ne', mul_one] at hlost

theorem sharesFit_of_empty {n2 d : ℚ} (h : NonNeg q) (hzero : totalQty q = 0) :
    SharesFit cancels n2 d q := by
  induction q generalizing d with
  | nil => trivial
  | cons slot q ih =>
    obtain ⟨hslot, hrest⟩ := eq_zero_of_totalQty h hzero
    refine ⟨?_, ih h.cons.2 hrest⟩
    split
    · exact hslot
    · rw [hslot, add_zero, sub_self, zero_div, mul_zero]

theorem venueQty_le_totalQty (h : NonNeg q) : venueQty q ≤ totalQty q := by
  induction q with
  | nil => exact le_rfl
  | cons slot q ih =>
    obtain ⟨hslot, hq⟩ := h.cons
    have hle := ih hq
    rw [totalQty_cons]
    cases howner : slot.isOurs with
    | true =>
      rw [venueQty_cons_of_ours howner]
      linarith
    | false =>
      rw [venueQty_cons_of_venue howner]
      linarith

/-- Without a second pass. -/
theorem exact_of_shares_iff (h : NonNeg q) (hcancels : 0 < cancels) (htotal : 0 < totalQty q)
    (honce : ¬ (kQtyTol < unplaced q cancels ∧
      0 < venueQty (shareOut cancels (totalQty q * totalQty q) 0 q))) :
    venueQty (shareOut cancels (totalQty q * totalQty q) 0 q) =
        venueQty q - min cancels (venueQty q) ↔ CancelsFit q cancels := by
  obtain ⟨hleft, hfit⟩ := unplaced_spec h hcancels htotal
  have hkept : NonNeg (shareOut cancels (totalQty q * totalQty q) 0 q) := nonneg_shareOut _ h
  have hV1 := venueQty_nonneg hkept
  rw [CancelsFit, ← hfit]
  have hR : unplaced q cancels =
    cancels - (venueQty q - venueQty (shareOut cancels (totalQty q * totalQty q) 0 q)) := rfl
  generalize hshared : shareOut cancels (totalQty q * totalQty q) 0 q = shared at hkept hV1 hR honce ⊢
  rcases hV1.eq_or_lt with hempty | hsome
  · -- all that the venue has is gone
    rw [← hempty, sub_zero] at hR
    have hfront : inFront shared ≤ max 0 (cancels - venueQty q) := by
      rw [inFront_of_empty hkept hempty.symm]
      exact le_max_left _ _
    refine iff_of_true ?_ (.inr ⟨.inl hempty.symm, hfront⟩)
    rw [← hempty, min_eq_right (by linarith), sub_self]
  · have hlittle : ¬ kQtyTol < unplaced q cancels := fun hmuch => honce ⟨hmuch, hsome⟩
    rw [or_iff_left (fun hor => hor.1.elim hsome.ne' hlittle)]
    rcases le_or_gt cancels (venueQty q) with hle | hgt
    · rw [min_eq_left hle]
      constructor <;> intro heq <;> linarith
    · rw [min_eq_right hgt.le]
      refine iff_of_false ?_ ?_ <;> intro heq <;> linarith

/-- With a second pass. -/
theorem exact_of_residual_iff (h : NonNeg q) (hcancels : 0 < cancels) (htotal : 0 < totalQty q)
    (hmuch : kQtyTol < unplaced q cancels)
    (hsome : 0 < venueQty (shareOut cancels (totalQty q * totalQty q) 0 q)) :
    venueQty (cancelResidual (venueQty (shareOut cancels (totalQty q * totalQty q) 0 q))
          (unplaced q cancels) (shareOut cancels (totalQty q * totalQty q) 0 q)).1 =
        venueQty q - min cancels (venueQty q) ↔ CancelsFit q cancels := by
  obtain ⟨hleft, hfit⟩ := unplaced_spec h hcancels htotal
  have hkept : NonNeg (shareOut cancels (totalQty q * totalQty q) 0 q) := nonneg_shareOut _ h
  have htol : (0 : ℚ) < kQtyTol := by norm_num [kQtyTol]
  have hpos : 0 < unplaced q cancels := htol.trans hmuch
  rw [CancelsFit, ← hfit, or_iff_right hpos.ne', and_iff_right (.inr hmuch)]
  have hR : unplaced q cancels =
    cancels - (venueQty q - venueQty (shareOut cancels (totalQty q * totalQty q) 0 q)) := rfl
  generalize hshared : shareOut cancels (totalQty q * totalQty q) 0 q = shared at hkept hsome hR ⊢
  have hall : ∀ slot ∈ shared, slot.isOurs = false → slot.qty ≤ venueQty shared :=
    fun slot hslot howner => qty_le_venueQty hkept hslot howner
  rcases le_or_gt cancels (venueQty q) with hle | hgt
  · -- there is room for all that is left
    have hbal := (takes_cancelResidual hkept hsome hall hleft).balance
    have hroom : unplaced q cancels ≤ venueQty shared := by linarith
    rw [min_eq_left hle, max_eq_left (by linarith), inFront_le_zero_iff hkept hsome,
      ← cancelResidual_left_iff hkept hsome hall hpos hroom]
    constructor <;> intro heq <;> linarith
  · rw [min_eq_right hgt.le, sub_self, max_eq_right (by linarith),
      cancelResidual_empties_iff hkept hsome hall hleft, or_iff_right hsome.ne']
    constructor <;> intro hfront <;> linarith

theorem spreadCancels_exact_iff (h : NonNeg q) (hcancels : 0 < cancels) (htotal : 0 < totalQty q) :
    venueQty (spreadCancels q cancels).1 = venueQty q - min cancels (venueQty q) ↔
      CancelsFit q cancels := by
  rw [spreadCancels_eq h hcancels htotal]
  split
  · next hmore => exact exact_of_residual_iff h hcancels htotal hmore.1 hmore.2
  · next honce => exact exact_of_shares_iff h hcancels htotal honce

end Spread

/-! ## `distribute_cancels` -/

/-- `distribute_cancels` up to the slots that it erases. -/
def settled (queue : List Slot) (cancels : ℚ) : List Slot :=
  if cancels ≤ 0 ∨ queue = [] ∨ totalQty queue ≤ 0 then queue else (spreadCancels queue cancels).1

section Settled

variable {q : List Slot} {cancels : ℚ}

/-- **When cancels come out exactly**: up to the slots that are erased, the venue loses the cancels
or all that it has just when the cancels fit. -/
theorem settled_exact_iff (h : NonNeg q) (hcancels : 0 < cancels) :
    venueQty (settled q cancels) = venueQty q - min cancels (venueQty q) ↔
      CancelsFit q cancels := by
  rw [settled]
  split
  · next hnone =>
    -- the queue is empty, whatever slots it has
    have hzero : totalQty q = 0 := by
      rcases hnone with hle | rfl | hle
      · exact absurd hcancels (not_lt.mpr hle)
      · rfl
      · exact le_antisymm hle (totalQty_nonneg h)
    have hvenue : venueQty q = 0 :=
      le_antisymm (hzero ▸ venueQty_le_totalQty h) (venueQty_nonneg h)
    refine iff_of_true ?_ (.inl (sharesFit_of_empty h hzero))
    rw [hvenue, min_eq_right hcancels.le, sub_self]
  · next hsome =>
    exact spreadCancels_exact_iff h hcancels (lt_of_not_ge fun hle => hsome (.inr (.inr hle)))

theorem venueQty_filter_le (h : NonNeg q) (p : Slot → Bool) :
    venueQty (q.filter p) ≤ venueQty q := by
  induction q with
  | nil => exact le_rfl
  | cons slot q ih =>
    obtain ⟨hslot, hq⟩ := h.cons
    have hle := ih hq
    rw [List.filter_cons]
    cases howner : slot.isOurs with
    | true =>
      rw [venueQty_cons_of_ours howner]
      split
      · rwa [venueQty_cons_of_ours howner]
      · exact hle
    | false =>
      rw [venueQty_cons_of_venue howner]
      split
      · rw [venueQty_cons_of_venue howner]
        exact add_le_add le_rfl hle
      · exact hle.trans (le_add_of_nonneg_left hslot)

/-- The erased slots hold no more than dust. -/
theorem settled_dust (h : NonNeg q) (cancels : ℚ) :
    venueQty (distributeCancels q cancels) ≤ venueQty (settled q cancels) ∧
      venueQty (settled q cancels) ≤
        venueQty (distributeCancels q cancels) + kQtyTol * (q.length : ℚ) := by
  have htol : (0 : ℚ) ≤ kQtyTol := by norm_num [kQtyTol]
  rw [distributeCancels_eq, settled]
  split
  · refine ⟨le_rfl, le_add_of_nonneg_right ?_⟩
    positivity
  · next hsome =>
    have hcancels : 0 ≤ cancels := le_of_not_ge fun hle => hsome (.inl hle)
    have htakes := takes_spreadCancels h hcancels
    have hdust := venueQty_filter_stays (spreadCancels q cancels).1
    have hkept := nonneg_of_shrinks htakes.shrinks
    have hless : (((spreadCancels q cancels).1.length -
        ((spreadCancels q cancels).1.filter stays).length : ℕ) : ℚ) ≤ (q.length : ℚ) := by
      rw [← htakes.shrinks.length_eq]
      exact_mod_cast Nat.sub_le _ _
    constructor
    · exact venueQty_filter_le hkept stays
    · linarith [mul_le_mul_of_nonneg_left hless htol]

end Settled

/-! ## Snapshots -/

/-- The queue of a level for which the venue shows a size. -/
def settleLevel (currentTs : Nat) (q : List Slot) (observed : ℚ) : List Slot :=
  if observed - venueQty q > kQtyTol then
    q ++ [{ qty := observed - venueQty q, isOurs := false, ourOrderId := 0,
            inferredTs := currentTs }]
  else if observed - venueQty q < -kQtyTol then distributeCancels q (-(observed - venueQty q))
  else q

/-- The levels that a snapshot shows: side, price and size. -/
def shown (book : OrderBookRecord) : List (OrderSide × ℚ × ℚ) :=
  (List.finRange kOrderBookDepth).flatMap fun i =>
    (if book.bidPx i > 0 ∧ book.bidSz i > 0 then [(.BUY, book.bidPx i, book.bidSz i)] else []) ++
      if book.askPx i > 0 ∧ book.askSz i > 0 then [(.SELL, book.askPx i, book.askSz i)] else []

/-- The levels of a snapshot one after the other. -/
def reconcileLevels (bookKey : String) (currentTs : Nat) (levels : List (OrderSide × ℚ × ℚ))
    (sq : SlotQueues) : SlotQueues :=
  levels.foldl (fun sq level => reconcileOne bookKey currentTs level.1 level.2.1 level.2.2 sq) sq

section Snapshots

variable {bookKey : String} {currentTs : Nat}

theorem reconcileL2Snapshot_eq (book : OrderBookRecord) (sq : SlotQueues) :
    reconcileL2Snapshot bookKey currentTs book sq =
      reconcileLevels bookKey currentTs (shown book) sq := by
  rw [reconcileLevels, shown, List.foldl_flatMap, reconcileL2Snapshot]
  congr 1
  funext sq i
  rw [List.foldl_append]
  split <;> split <;> rfl

theorem size_pos_of_shown {book : OrderBookRecord} {level : OrderSide × ℚ × ℚ}
    (h : level ∈ shown book) : 0 < level.2.2 := by
  obtain ⟨i, -, hlevel⟩ := List.mem_flatMap.mp h
  rcases List.mem_append.mp hlevel with hbid | hask
  · split at hbid
    · next hsome => exact List.mem_singleton.mp hbid ▸ hsome.2
    · exact absurd hbid List.not_mem_nil
  · split at hask
    · next hsome => exact List.mem_singleton.mp hask ▸ hsome.2
    · exact absurd hask List.not_mem_nil

theorem queueAt_reconcileOne {s : OrderSide} {price observed : ℚ} (hpos : 0 < observed)
    (sq : SlotQueues) (s' : OrderSide) (k' : Int) :
    (reconcileOne bookKey currentTs s price observed sq).queueAt bookKey s' k' =
      if s' = s ∧ k' = priceKey price then
        settleLevel currentTs (sq.queueAt bookKey s (priceKey price)) observed
      else sq.queueAt bookKey s' k' := by
  rw [reconcileOne, if_neg (not_le.mpr hpos)]
  dsimp only
  rw [SlotQueues.queueAt_setLevelQueue, SlotQueues.levelQueue_eq]
  by_cases hlevel : s' = s ∧ k' = priceKey price
  · rw [if_pos ⟨rfl, hlevel⟩, if_pos hlevel]
    rfl
  · rw [if_neg fun h => hlevel h.2, if_neg hlevel]

/-- Where a level's queue is kept. -/
def levelKey (level : OrderSide × ℚ × ℚ) : OrderSide × Int := (level.1, priceKey level.2.1)

theorem queueAt_reconcileLevels_of_not_mem {levels : List (OrderSide × ℚ × ℚ)}
    (hpos : ∀ level ∈ levels, 0 < level.2.2) {s : OrderSide} {k : Int}
    (hkey : (s, k) ∉ levels.map levelKey) (sq : SlotQueues) :
    (reconcileLevels bookKey currentTs levels sq).queueAt bookKey s k = sq.queueAt bookKey s k := by
  induction levels generalizing sq with
  | nil => rfl
  | cons level levels ih =>
    rw [List.map_cons, List.mem_cons, not_or] at hkey
    rw [reconcileLevels, List.foldl_cons]
    refine (ih (fun l hl => hpos l (List.mem_cons_of_mem _ hl)) hkey.2 _).trans ?_
    rw [queueAt_reconcileOne (hpos level List.mem_cons_self), if_neg]
    rintro ⟨rfl, rfl⟩
    exact hkey.1 rfl

/-- Each level meets the queue that was there before. -/
theorem queueAt_reconcileLevels {levels : List (OrderSide × ℚ × ℚ)}
    (hpos : ∀ level ∈ levels, 0 < level.2.2) (hkeys : (levels.map levelKey).Nodup)
    {level : OrderSide × ℚ × ℚ} (hlevel : level ∈ levels) (sq : SlotQueues) :
    (reconcileLevels bookKey currentTs levels sq).queueAt bookKey level.1 (priceKey level.2.1) =
      settleLevel currentTs (sq.queueAt bookKey level.1 (priceKey level.2.1)) level.2.2 := by
  induction levels generalizing sq with
  | nil => exact absurd hlevel List.not_mem_nil
  | cons first levels ih =>
    have hlater : ∀ l ∈ levels, 0 < l.2.2 := fun l hl => hpos l (List.mem_cons_of_mem _ hl)
    have hfirst : ∀ s k, (reconcileOne bookKey currentTs first.1 first.2.1 first.2.2 sq).queueAt
        bookKey s k =
          if s = first.1 ∧ k = priceKey first.2.1 then
            settleLevel currentTs (sq.queueAt bookKey first.1 (priceKey first.2.1)) first.2.2
          else sq.queueAt bookKey s k := queueAt_reconcileOne (hpos first List.mem_cons_self) sq
    rw [List.map_cons, List.nodup_cons] at hkeys
    rw [reconcileLevels, List.foldl_cons]
    obtain rfl | hlevel := List.mem_cons.mp hlevel
    · -- the later levels are kept under other keys
      refine (queueAt_reconcileLevels_of_not_mem hlater hkeys.1 _).trans ?_
      rw [hfirst, if_pos ⟨rfl, rfl⟩]
    · refine (ih hlater hkeys.2 hlevel _).trans ?_
      rw [hfirst, if_neg]
      rintro ⟨hside, hprice⟩
      refine hkeys.1 (List.mem_map.mpr ⟨level, hlevel, ?_⟩)
      rw [levelKey, levelKey, hside, hprice]

/-- **A snapshot settles its levels.** -/
theorem queueAt_reconcileL2Snapshot {book : OrderBookRecord}
    (hkeys : ((shown book).map levelKey).Nodup) {level : OrderSide × ℚ × ℚ}
    (hlevel : level ∈ shown book) (sq : SlotQueues) :
    (reconcileL2Snapshot bookKey currentTs book sq).queueAt bookKey level.1 (priceKey level.2.1) =
      settleLevel currentTs (sq.queueAt bookKey level.1 (priceKey level.2.1)) level.2.2 := by
  rw [reconcileL2Snapshot_eq]
  exact queueAt_reconcileLevels (fun l hl => size_pos_of_shown hl) hkeys hlevel sq

/-- The venue's total of a settled level, up to what a slot may keep. -/
theorem venueQty_settleLevel {q : List Slot} (h : NonNeg q) {observed : ℚ} (hpos : 0 < observed)
    (hfit : kQtyTol < venueQty q - observed → CancelsFit q (venueQty q - observed)) :
    observed - kQtyTol * (1 + q.length) ≤ venueQty (settleLevel currentTs q observed) ∧
      venueQty (settleLevel currentTs q observed) ≤ observed + kQtyTol := by
  have htol : (0 : ℚ) < kQtyTol := by norm_num [kQtyTol]
  have hdust : 0 ≤ kQtyTol * (q.length : ℚ) := by positivity
  rw [settleLevel]
  split
  · next hjoined =>
    -- what is missing joins as one slot of the venue's
    rw [venueQty_append, venueQty_cons_of_venue rfl, venueQty_nil]
    constructor <;> linarith
  · split
    · next hcancelled =>
      -- what is too much is cancelled, and a slot of dust may be erased with it
      have hcancels : 0 < venueQty q - observed := by linarith
      have hexact := (settled_exact_iff h hcancels).mpr (hfit (by linarith))
      rw [min_eq_left (by linarith)] at hexact
      obtain ⟨hle, hge⟩ := settled_dust h (venueQty q - observed)
      rw [neg_sub]
      constructor <;> linarith
    · constructor <;> linarith

end Snapshots

/-- A snapshot with one bid. -/
def oneBid (px sz : ℚ) : OrderBookRecord where
  timestampNs := 1
  exchange := "BINANCE"
  symbol := "BTCUSDT"
  bidPx i := if i.val = 0 then px else 0
  bidSz i := if i.val = 0 then sz else 0
  askPx _ := 0
  askSz _ := 0

/-- A bid at 100 with the queue. -/
def queuedAt100 (q : List Slot) : SlotQueues :=
  SlotQueues.setLevelQueue ∅ "BINANCE:BTCUSDT" .BUY 100 q

end BptCore.Backtester
