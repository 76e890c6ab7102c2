import Mathlib.Algebra.BigOperators.Group.List.Basic
import Mathlib.Algebra.Order.Group.Defs
import Mathlib.Data.List.Induction
import Mathlib.Order.Bounds.Basic
import Mathlib.Order.Lattice

/-!
# Drawdowns

A level that starts at nothing and moves by one step after the other, and how far it has come down
from where it was before. One pass with the highest level so far finds the deepest decline, in
whatever order preserving measure.

* **`level`** — the level after so many steps; **`levels`** — all of them.
* **`declines`** — from each level to each later one.
* **`follow`** — one step of the pass.
* **`Followed.run`** — level, peak and deepest decline after any steps.
-/

namespace Drawdown

variable {K L : Type*} [AddCommGroup K]

def level (steps : List K) (i : Nat) : K := (steps.take i).sum

def levels (steps : List K) : Set K := {x | ∃ i ≤ steps.length, level steps i = x}

/-- The declines from a level to the same or a later one, measured by `g`. -/
def declines (g : K → L) (steps : List K) : Set L :=
  {d | ∃ i j, i ≤ j ∧ j ≤ steps.length ∧ g (level steps i - level steps j) = d}

theorem level_length (steps : List K) : level steps steps.length = steps.sum := by
  unfold level
  rw [List.take_length]

/-- Earlier levels do not know of a later step. -/
theorem level_append {steps : List K} {i : Nat} (h : i ≤ steps.length) (more : List K) :
    level (steps ++ more) i = level steps i := by
  unfold level
  rw [List.take_append_of_le_length h]

variable [LinearOrder K] [LinearOrder L]

/-- The level, its peak and the deepest decline, after one more step. -/
def follow (g : K → L) (s : K × K × L) (x : K) : K × K × L :=
  let cum := s.1 + x
  let peak := max s.2.1 cum
  (cum, peak, max s.2.2 (g (peak - cum)))

/-- The pass has followed `steps`. -/
structure Followed (g : K → L) (steps : List K) (s : K × K × L) : Prop where
  cum : s.1 = steps.sum
  peak : IsGreatest (levels steps) s.2.1
  deepest : IsGreatest (declines g steps) s.2.2

theorem Followed.start (g : K → L) : Followed g [] (0, 0, g 0) where
  cum := rfl
  peak := by
    refine ⟨⟨0, le_rfl, rfl⟩, ?_⟩
    rintro x ⟨i, hi, rfl⟩
    exact le_of_eq (congrArg _ (Nat.le_zero.mp hi))
  deepest := by
    refine ⟨⟨0, 0, le_rfl, le_rfl, congrArg g (sub_self _)⟩, ?_⟩
    rintro d ⟨i, j, hij, hj, rfl⟩
    obtain rfl : j = 0 := Nat.le_zero.mp hj
    obtain rfl : i = 0 := Nat.le_zero.mp hij
    exact le_of_eq (congrArg g (sub_self _))

variable [IsOrderedAddMonoid K] {g : K → L} {steps : List K} {s : K × K × L}

theorem Followed.follow (hg : Monotone g) (h : Followed g steps s) (x : K) :
    Followed g (steps ++ [x]) (follow g s x) := by
  have hlength : (steps ++ [x]).length = steps.length + 1 := List.length_append
  have hlast : level (steps ++ [x]) (steps.length + 1) = s.1 + x := by
    rw [← hlength, level_length, List.sum_append, List.sum_singleton, h.cum]
  have hpeak : IsGreatest (levels (steps ++ [x])) (max s.2.1 (s.1 + x)) := by
    constructor
    · rcases max_choice s.2.1 (s.1 + x) with hmax | hmax
      · obtain ⟨i, hi, heq⟩ := h.peak.1
        exact ⟨i, by omega, by rw [level_append hi, heq, hmax]⟩
      · exact ⟨steps.length + 1, hlength.ge, hlast.trans hmax.symm⟩
    · rintro y ⟨i, hi, rfl⟩
      rcases Nat.lt_or_ge steps.length i with hlater | hearlier
      · obtain rfl : i = steps.length + 1 := by omega
        exact hlast.trans_le (le_max_right _ _)
      · rw [level_append hearlier]
        exact (h.peak.2 ⟨i, hearlier, rfl⟩).trans (le_max_left _ _)
  refine ⟨by rw [List.sum_append, List.sum_singleton, ← h.cum]; rfl, hpeak, ?_, ?_⟩
  · -- the deepest decline is the one before, or it ends here and began at the peak
    rcases max_choice s.2.2 (g (max s.2.1 (s.1 + x) - (s.1 + x))) with hmax | hmax
    · obtain ⟨i, j, hij, hj, heq⟩ := h.deepest.1
      refine ⟨i, j, hij, by omega, ?_⟩
      rw [level_append (hij.trans hj), level_append hj, heq]
      exact hmax.symm
    · obtain ⟨i, hi, heq⟩ := hpeak.1
      refine ⟨i, steps.length + 1, by omega, hlength.ge, ?_⟩
      rw [heq, hlast]
      exact hmax.symm
  · rintro d ⟨i, j, hij, hj, rfl⟩
    rcases Nat.lt_or_ge steps.length j with hlater | hearlier
    · obtain rfl : j = steps.length + 1 := by omega
      have hle : level (steps ++ [x]) i ≤ max s.2.1 (s.1 + x) := hpeak.2 ⟨i, by omega, rfl⟩
      rw [hlast]
      exact (hg (sub_le_sub_right hle _)).trans (le_max_right _ _)
    · rw [level_append (hij.trans hearlier), level_append hearlier]
      exact (h.deepest.2 ⟨i, j, hij, hearlier, rfl⟩).trans (le_max_left _ _)

/-- **One pass finds the deepest decline.** -/
theorem Followed.run (hg : Monotone g) (steps : List K) :
    Followed g steps (steps.foldl (Drawdown.follow g) (0, 0, g 0)) := by
  induction steps using List.reverseRecOn with
  | nil => exact Followed.start g
  | append_singleton steps x ih =>
    rw [List.foldl_append]
    exact ih.follow hg x

/-- Levels that never decline have nothing but the decline of no length. -/
theorem eq_of_monotone (hg : Monotone g) {d : L} (hd : IsGreatest (declines g steps) d)
    (h : ∀ i j, i ≤ j → j ≤ steps.length → level steps i ≤ level steps j) : d = g 0 := by
  obtain ⟨i, j, hij, hj, rfl⟩ := hd.1
  refine le_antisymm (hg (sub_nonpos.mpr (h i j hij hj))) (hd.2 ⟨0, 0, le_rfl, Nat.zero_le _, ?_⟩)
  rw [sub_self]

end Drawdown
