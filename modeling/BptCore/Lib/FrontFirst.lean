import Mathlib.Algebra.BigOperators.Group.List.Basic
import Mathlib.Algebra.Order.BigOperators.Group.List
import Mathlib.Algebra.Order.Group.MinMax

/-!
# A demand served from the front

A demand meets a list of supplies. The first supply gives what it can, the next one serves what is
still wanted, and so on, until nothing is wanted or nothing is left.

* **`served`** — what each supply gives.
* **`exhausted_of_served`** — a supply gives only when those before it have given all.
* **`sum_served`** — in all, the demand or all that there is.
-/

namespace FrontFirst

universe u

variable {α : Type u} [AddCommGroup α] [LinearOrder α]

/-- What each supply gives, front first. -/
def served : α → List α → List α
  | _, [] => []
  | demand, x :: xs => min (max 0 demand) x :: served (demand - x) xs

variable {demand x : α} {xs : List α} [IsOrderedAddMonoid α]

theorem served_of_nonpos (hnone : demand ≤ 0) (h : ∀ x ∈ xs, 0 ≤ x) :
    served demand xs = List.replicate xs.length 0 := by
  induction xs generalizing demand with
  | nil => rfl
  | cons x xs ih =>
    obtain ⟨hx, hxs⟩ := List.forall_mem_cons.mp h
    rw [served, ih ((sub_le_self demand hx).trans hnone) hxs, max_eq_left hnone, min_eq_left hx]
    rfl

/-- No supply gives before those in front of it have given all that they have. -/
theorem exhausted_of_served (h : ∀ x ∈ xs, 0 ≤ x) {i j : Nat} {take : α}
    (htake : (served demand xs)[i]? = some take) (hpos : 0 < take) (hji : j < i) :
    (served demand xs)[j]? = xs[j]? := by
  induction xs generalizing demand i j with
  | nil => rfl
  | cons x xs ih =>
    obtain ⟨hx, hxs⟩ := List.forall_mem_cons.mp h
    cases i with
    | zero => exact absurd hji (Nat.not_lt_zero j)
    | succ i =>
      rw [served, List.getElem?_cons_succ] at htake
      cases j with
      | succ j =>
        rw [served, List.getElem?_cons_succ, List.getElem?_cons_succ]
        exact ih hxs htake (Nat.lt_of_succ_lt_succ hji)
      | zero =>
        -- something is still wanted after the first supply
        have hmore : 0 < demand - x := by
          by_contra hnone
          rw [served_of_nonpos (not_lt.mp hnone) hxs, List.getElem?_replicate] at htake
          split at htake
          · exact absurd (Option.some.inj htake) hpos.ne
          · cases htake
        have hle : x ≤ max 0 demand := (sub_pos.mp hmore).le.trans (le_max_right 0 demand)
        rw [served, List.getElem?_cons_zero, List.getElem?_cons_zero, min_eq_right hle]

/-- **The total**: what is wanted, or all that there is. -/
theorem sum_served (h : ∀ x ∈ xs, 0 ≤ x) :
    (served demand xs).sum = min (max 0 demand) xs.sum := by
  induction xs generalizing demand with
  | nil => exact (min_eq_right (le_max_left 0 demand)).symm
  | cons x xs ih =>
    obtain ⟨hx, hxs⟩ := List.forall_mem_cons.mp h
    have hrest := List.sum_nonneg hxs
    rw [served, List.sum_cons, List.sum_cons, ih hxs]
    rcases le_total demand x with hle | hle
    · -- the first supply serves it all
      have hfirst : max 0 demand ≤ x := max_le hx hle
      rw [max_eq_left (sub_nonpos.mpr hle), min_eq_left hrest, add_zero, min_eq_left hfirst,
        min_eq_left (hfirst.trans (le_add_of_nonneg_right hrest))]
    · rw [max_eq_right (hx.trans hle), min_eq_right hle, max_eq_right (sub_nonneg.mpr hle),
        ← min_add_add_left, add_sub_cancel]

end FrontFirst
