import Mathlib.Algebra.BigOperators.Group.List.Basic
import Mathlib.Algebra.GroupWithZero.Nat
import Mathlib.Data.List.Perm.Basic
import Mathlib.Order.Lattice
import Mathlib.Order.Monotone.Defs

/-!
# Histograms

Samples that are counted by bucket, and what the counts still say about the samples in order, when
the buckets follow the order of the samples.

* **`walk`** — the first bucket at which the counts up to it come to a target.
* **`rank_bounds`** — how many samples are in the buckets before that of the sample of a rank, and
  up to it.
* **`walk_countOf`** — the walk for a rank stops in the bucket of the sample of that rank.
* **`find?_reverse_countOf`** — from the other end, the first bucket that is not empty is that of
  the largest sample.
-/

namespace Histogram

variable {ι α : Type*}

/-- The first index at which the counts from the start on come to `target`. -/
def walk (counts : ι → Nat) (target : Nat) : List ι → Nat → Option ι
  | [], _ => none
  | i :: is, acc =>
    if target ≤ acc + counts i then some i else walk counts target is (acc + counts i)

/-- What does not come to the target is passed over. -/
theorem walk_append {counts : ι → Nat} {target : Nat} (front is : List ι) {acc : Nat}
    (h : acc + (front.map counts).sum < target) :
    walk counts target (front ++ is) acc =
      walk counts target is (acc + (front.map counts).sum) := by
  induction front generalizing acc with
  | nil => rfl
  | cons i front ih =>
    rw [List.map_cons, List.sum_cons, ← Nat.add_assoc] at h ⊢
    rw [List.cons_append, walk, if_neg (by omega), ih h]

/-! ## Ranks -/

section Ranks

variable {bucket : α → ι} [LinearOrder α] {ys : List α}

/-- In order, the samples before a rank are in no later bucket and those after it in no earlier
one. -/
theorem rank_bounds [LinearOrder ι] (hmono : Monotone bucket) (hsorted : ys.Pairwise (· ≤ ·))
    {k : Nat} (hk : k < ys.length) :
    (ys.countP fun y => bucket y < bucket ys[k]) ≤ k ∧
      k < ys.countP fun y => bucket y ≤ bucket ys[k] := by
  have hle : ∀ i j (hi : i < ys.length) (hj : j < ys.length), i ≤ j → ys[i] ≤ ys[j] := by
    intro i j hi hj hij
    rcases Nat.lt_or_eq_of_le hij with hlt | rfl
    · exact List.pairwise_iff_getElem.mp hsorted i j hi hj hlt
    · exact le_rfl
  constructor
  · have hrest : ((ys.drop k).countP fun y => bucket y < bucket ys[k]) = 0 := by
      rw [List.countP_eq_zero]
      intro y hy
      obtain ⟨i, hi, rfl⟩ := List.mem_iff_getElem.mp hy
      rw [List.length_drop] at hi
      rw [List.getElem_drop, decide_eq_true_eq, not_lt]
      exact hmono (hle _ _ _ _ (by omega))
    calc (ys.countP fun y => bucket y < bucket ys[k])
        = (ys.take k).countP (fun y => bucket y < bucket ys[k]) + 0 := by
          rw [← hrest, ← List.countP_append, List.take_append_drop]
      _ ≤ (ys.take k).length := List.countP_le_length
      _ ≤ k := by rw [List.length_take]; omega
  · have hfront : ((ys.take (k + 1)).countP fun y => bucket y ≤ bucket ys[k]) = k + 1 := by
      have hlen : (ys.take (k + 1)).length = k + 1 := by rw [List.length_take]; omega
      refine (List.countP_eq_length.mpr ?_).trans hlen
      intro y hy
      obtain ⟨i, hi, rfl⟩ := List.mem_iff_getElem.mp hy
      rw [List.getElem_take, decide_eq_true_eq]
      exact hmono (hle _ _ _ _ (by omega))
    have hsub := (List.take_sublist (k + 1) ys).countP_le (p := fun y => bucket y ≤ bucket ys[k])
    omega

end Ranks

/-! ## Counting by bucket -/

variable [DecidableEq ι] (bucket : α → ι)

def countOf (xs : List α) (i : ι) : Nat := xs.countP fun x => bucket x = i

theorem countOf_append (xs ys : List α) (i : ι) :
    countOf bucket (xs ++ ys) i = countOf bucket xs i + countOf bucket ys i :=
  List.countP_append

/-- Counted together or one after the other, when nothing is both. -/
theorem countP_or {p q : α → Prop} [DecidablePred p] [DecidablePred q] {xs : List α}
    (h : ∀ x ∈ xs, p x → ¬ q x) :
    (xs.countP fun x => p x ∨ q x) = (xs.countP fun x => p x) + xs.countP fun x => q x := by
  induction xs with
  | nil => rfl
  | cons x xs ih =>
    have hx := h x List.mem_cons_self
    simp only [List.countP_cons, decide_eq_true_eq, ih fun y hy => h y (List.mem_cons_of_mem x hy)]
    by_cases hp : p x
    · rw [if_pos hp, if_pos (.inl hp), if_neg (hx hp)]
      omega
    · by_cases hq : q x
      · rw [if_neg hp, if_pos (.inr hq), if_pos hq]
        omega
      · rw [if_neg hp, if_neg (not_or.mpr ⟨hp, hq⟩), if_neg hq]
        omega

theorem sum_countOf {is : List ι} (h : is.Nodup) (xs : List α) :
    (is.map (countOf bucket xs)).sum = xs.countP fun x => bucket x ∈ is := by
  induction is with
  | nil => simp
  | cons i is ih =>
    obtain ⟨hnotMem, hnodup⟩ := List.nodup_cons.mp h
    have hapart : ∀ x ∈ xs, bucket x = i → bucket x ∉ is := fun x _ hx => hx ▸ hnotMem
    rw [List.map_cons, List.sum_cons, ih hnodup, countOf, ← countP_or hapart]
    simp only [List.mem_cons]

variable {bucket} [LinearOrder α] [LinearOrder ι] {xs ys : List α}

/-- **The walk finds the bucket of a rank.** `ys` are the samples in order. -/
theorem walk_countOf (hmono : Monotone bucket) (hperm : ys.Perm xs)
    (hsorted : ys.Pairwise (· ≤ ·)) {is : List ι} (his : is.Pairwise (· < ·))
    (hall : ∀ x ∈ xs, bucket x ∈ is) {k : Nat} (hk : k < ys.length) :
    walk (countOf bucket xs) (k + 1) is 0 = some (bucket ys[k]) := by
  obtain ⟨hlt, hle⟩ := rank_bounds hmono hsorted hk
  have hmem : bucket ys[k] ∈ is := hall _ (hperm.mem_iff.mp (List.getElem_mem hk))
  obtain ⟨front, rest, rfl⟩ := List.append_of_mem hmem
  have hnodup : front.Nodup := (List.nodup_append.mp (his.imp ne_of_lt)).1
  have hrest := List.pairwise_append.mp his
  -- a bucket is in front exactly when it is an earlier one
  have hfront : (front.map (countOf bucket xs)).sum =
      ys.countP fun y => bucket y < bucket ys[k] := by
    rw [sum_countOf bucket hnodup, ← hperm.countP_eq]
    refine List.countP_congr fun y hy => ?_
    rw [decide_eq_true_eq, decide_eq_true_eq]
    constructor
    · exact fun hy' => hrest.2.2 _ hy' _ List.mem_cons_self
    · intro hless
      rcases List.mem_append.mp (hall y (hperm.mem_iff.mp hy)) with hin | hin
      · exact hin
      · rcases List.mem_cons.mp hin with heq | hlater
        · exact absurd heq hless.ne
        · exact absurd ((List.pairwise_cons.mp hrest.2.1).1 _ hlater) hless.not_gt
  have hupTo : (front.map (countOf bucket xs)).sum + countOf bucket xs (bucket ys[k]) =
      ys.countP fun y => bucket y ≤ bucket ys[k] := by
    have hone : countOf bucket xs (bucket ys[k]) = ys.countP fun y => bucket y = bucket ys[k] :=
      (hperm.countP_eq _).symm
    rw [hfront, hone, ← countP_or fun y _ hless heq => hless.ne heq]
    simp only [le_iff_lt_or_eq]
  rw [walk_append _ _ (by omega), walk, if_pos (by omega)]

/-- The largest sample is in the last bucket that is not empty. -/
theorem find?_reverse_countOf (hmono : Monotone bucket) {top : α} (htop : top ∈ xs)
    (hmax : ∀ x ∈ xs, x ≤ top) {is : List ι} (his : is.Pairwise (· < ·))
    (hmem : bucket top ∈ is) :
    is.reverse.find? (fun i => 0 < countOf bucket xs i) = some (bucket top) := by
  obtain ⟨front, rest, rfl⟩ := List.append_of_mem hmem
  have hlater : ∀ i ∈ rest, bucket top < i :=
    (List.pairwise_cons.mp (List.pairwise_append.mp his).2.1).1
  have hempty : rest.reverse.find? (fun i => 0 < countOf bucket xs i) = none := by
    rw [List.find?_eq_none]
    intro i hi hpos
    obtain ⟨x, hx, hxi⟩ := List.countP_pos_iff.mp (of_decide_eq_true hpos)
    have hle : bucket x ≤ bucket top := hmono (hmax x hx)
    rw [of_decide_eq_true hxi] at hle
    exact absurd (hlater i (List.mem_reverse.mp hi)) hle.not_gt
  have hheld : 0 < countOf bucket xs (bucket top) :=
    List.countP_pos_iff.mpr ⟨top, htop, decide_eq_true rfl⟩
  rw [List.reverse_append, List.reverse_cons, List.append_assoc, List.find?_append, hempty,
    Option.none_or, List.singleton_append, List.find?_cons, decide_eq_true hheld]

end Histogram
