import Mathlib.Algebra.BigOperators.Group.List.Basic
import Mathlib.Algebra.Order.Field.Basic
import Mathlib.Data.List.Induction
import Mathlib.Tactic.Linarith
import Mathlib.Tactic.Ring

/-!
# Sums of hinges

Functions of one variable that are straight between neighbouring knots of a list, fall in front of
the first knot and rise behind the last one. Such a function has its least value at a knot.

* **`Hinged`** — the functions, closed under sums and non-negative factors.
* **`hinged_rise`**, **`hinged_fall`** — a single hinge on either side of its knot.
* **`Hinged.exists_knot_le`** — every value is at least the one at some knot.
* **`scanLeast`**, **`scanLeast_spec`** — the scan for the least value keeps the first that attains it.
-/

namespace Hinges

universe u v

section Hinged

variable {K : Type u} [Field K] [LinearOrder K] [IsStrictOrderedRing K]

/-- Straight where there is no knot, falling before the knots and rising behind them. -/
structure Hinged (knots : List K) (f : K → K) : Prop where
  straight : ∀ a x b, a ≤ x → x ≤ b → (∀ k ∈ knots, k ≤ a ∨ b ≤ k) →
    (b - a) * f x = (b - x) * f a + (x - a) * f b
  falls : ∀ a b, a ≤ b → (∀ k ∈ knots, b ≤ k) → f b ≤ f a
  rises : ∀ a b, a ≤ b → (∀ k ∈ knots, k ≤ a) → f a ≤ f b

variable {knots : List K} {f g : K → K}

omit [IsStrictOrderedRing K] in
theorem hinged_zero (knots : List K) : Hinged knots fun _ => 0 where
  straight a x b _ _ _ := by ring
  falls _ _ _ _ := le_refl 0
  rises _ _ _ _ := le_refl 0

theorem Hinged.add (hf : Hinged knots f) (hg : Hinged knots g) :
    Hinged knots fun x => f x + g x where
  straight a x b hax hxb hknots := by
    have hf' := hf.straight a x b hax hxb hknots
    have hg' := hg.straight a x b hax hxb hknots
    rw [mul_add, hf', hg']
    ring
  falls a b hab hknots := add_le_add (hf.falls a b hab hknots) (hg.falls a b hab hknots)
  rises a b hab hknots := add_le_add (hf.rises a b hab hknots) (hg.rises a b hab hknots)

theorem Hinged.mul (hf : Hinged knots f) {c : K} (hc : 0 ≤ c) : Hinged knots fun x => f x * c where
  straight a x b hax hxb hknots := by
    rw [← mul_assoc, hf.straight a x b hax hxb hknots]
    ring
  falls a b hab hknots := mul_le_mul_of_nonneg_right (hf.falls a b hab hknots) hc
  rises a b hab hknots := mul_le_mul_of_nonneg_right (hf.rises a b hab hknots) hc

/-- What rises behind its knot. -/
theorem hinged_rise {k : K} (hk : k ∈ knots) : Hinged knots fun x => max (x - k) 0 where
  straight a x b hax hxb hknots := by
    rcases hknots k hk with hbefore | hbehind
    · rw [max_eq_left (by linarith), max_eq_left (by linarith), max_eq_left (by linarith)]
      ring
    · rw [max_eq_right (by linarith), max_eq_right (by linarith), max_eq_right (by linarith)]
      ring
  falls a b hab hknots := by
    have hbk := hknots k hk
    rw [max_eq_right (by linarith)]
    exact le_max_right _ _
  rises a b hab _ := max_le_max_right 0 (by linarith)

/-- What falls up to its knot. -/
theorem hinged_fall {k : K} (hk : k ∈ knots) : Hinged knots fun x => max (k - x) 0 where
  straight a x b hax hxb hknots := by
    rcases hknots k hk with hbefore | hbehind
    · rw [max_eq_right (by linarith), max_eq_right (by linarith), max_eq_right (by linarith)]
      ring
    · rw [max_eq_left (by linarith), max_eq_left (by linarith), max_eq_left (by linarith)]
      ring
  falls a b hab _ := max_le_max_right 0 (by linarith)
  rises a b hab hknots := by
    have hka := hknots k hk
    rw [max_eq_right (by linarith)]
    exact le_max_right _ _

/-- A sum of hinged functions, one for each item of a list. -/
theorem hinged_sum {α : Type v} {items : List α} {term : α → K → K}
    (h : ∀ item ∈ items, Hinged knots (term item)) :
    Hinged knots fun x => (items.map fun item => term item x).sum := by
  induction items with
  | nil => exact hinged_zero knots
  | cons item items ih =>
    obtain ⟨hfirst, hrest⟩ := List.forall_mem_cons.mp h
    exact hfirst.add (ih hrest)

/-! ## Nearest knots -/

omit [Field K] [IsStrictOrderedRing K] in
/-- The nearest knot on one side, if there is one there. -/
theorem exists_nearest_le (knots : List K) (x : K) :
    (∀ k ∈ knots, x ≤ k) ∨ ∃ a ∈ knots, a ≤ x ∧ ∀ k ∈ knots, k ≤ a ∨ x ≤ k := by
  induction knots with
  | nil => exact Or.inl fun k hk => absurd hk List.not_mem_nil
  | cons k knots ih =>
    rcases le_total x k with hxk | hkx
    · rcases ih with hall | ⟨a, ha, hax, hnear⟩
      · exact Or.inl (List.forall_mem_cons.mpr ⟨hxk, hall⟩)
      · exact Or.inr ⟨a, List.mem_cons_of_mem k ha, hax,
          List.forall_mem_cons.mpr ⟨Or.inr hxk, hnear⟩⟩
    · rcases ih with hall | ⟨a, ha, hax, hnear⟩
      · refine Or.inr ⟨k, List.mem_cons_self, hkx, List.forall_mem_cons.mpr ⟨Or.inl le_rfl, ?_⟩⟩
        exact fun k' hk' => Or.inr (hall k' hk')
      · rcases le_total a k with hak | hka
        · refine Or.inr ⟨k, List.mem_cons_self, hkx, List.forall_mem_cons.mpr ⟨Or.inl le_rfl, ?_⟩⟩
          exact fun k' hk' => (hnear k' hk').imp_left hak.trans'
        · exact Or.inr ⟨a, List.mem_cons_of_mem k ha, hax,
            List.forall_mem_cons.mpr ⟨Or.inl hka, hnear⟩⟩

theorem exists_nearest_ge (knots : List K) (x : K) :
    (∀ k ∈ knots, k ≤ x) ∨ ∃ b ∈ knots, x ≤ b ∧ ∀ k ∈ knots, k ≤ x ∨ b ≤ k := by
  rcases exists_nearest_le (knots.map Neg.neg) (-x) with hall | ⟨a, ha, hax, hnear⟩
  · refine Or.inl fun k hk => ?_
    have := hall (-k) (List.mem_map_of_mem hk)
    linarith
  · obtain ⟨b, hb, rfl⟩ := List.mem_map.mp ha
    refine Or.inr ⟨b, hb, by linarith, fun k hk => ?_⟩
    rcases hnear (-k) (List.mem_map_of_mem hk) with hle | hge
    · exact Or.inr (by linarith)
    · exact Or.inl (by linarith)

/-- **The least value is at a knot.** -/
theorem Hinged.exists_knot_le (hf : Hinged knots f) (hne : knots ≠ []) (x : K) :
    ∃ k ∈ knots, f k ≤ f x := by
  by_cases hx : x ∈ knots
  · exact ⟨x, hx, le_rfl⟩
  have hapart : ∀ k ∈ knots, k ≤ x → ¬ x ≤ k := fun k hk hkx hxk => hx (le_antisymm hkx hxk ▸ hk)
  rcases exists_nearest_le knots x with hbehind | ⟨a, ha, hax, hleft⟩
  · rcases exists_nearest_ge knots x with hbefore | ⟨b, hb, hxb, hright⟩
    · obtain ⟨k, hk⟩ := List.exists_mem_of_ne_nil knots hne
      exact absurd (hbehind k hk) (hapart k hk (hbefore k hk))
    · -- in front of every knot the function falls to the nearest
      refine ⟨b, hb, hf.falls x b hxb fun k hk => ?_⟩
      exact (hright k hk).resolve_left fun hkx => hapart k hk hkx (hbehind k hk)
  · rcases exists_nearest_ge knots x with hbefore | ⟨b, hb, hxb, hright⟩
    · -- behind every knot it rises from the nearest
      refine ⟨a, ha, hf.rises a x hax fun k hk => ?_⟩
      exact (hleft k hk).resolve_right (hapart k hk (hbefore k hk))
    · -- between two neighbours it is no less than at the lower of them
      have hbetween : ∀ k ∈ knots, k ≤ a ∨ b ≤ k := fun k hk =>
        (hleft k hk).imp_right fun hxk => (hright k hk).resolve_left fun hkx => hapart k hk hkx hxk
      have hstraight := hf.straight a x b hax hxb hbetween
      have hax' : a < x := lt_of_le_of_ne hax fun heq => hx (heq ▸ ha)
      rcases le_or_gt (f a) (f x) with hle | hlt
      · exact ⟨a, ha, hle⟩
      · refine ⟨b, hb, le_of_not_gt fun hlt' => ?_⟩
        -- the value at `x` is the average of those at its neighbours, weighted by the distances
        have hleftPart : (b - x) * f x ≤ (b - x) * f a :=
          mul_le_mul_of_nonneg_left hlt.le (by linarith)
        have hrightPart : (x - a) * f x < (x - a) * f b :=
          mul_lt_mul_of_pos_left hlt' (by linarith)
        have hsplit : (b - a) * f x = (b - x) * f x + (x - a) * f x := by ring
        linarith

end Hinged

/-! ## The scan for the least value -/

section Scan

variable {α : Type u} {K : Type v} [LinearOrder α] [LinearOrder K] (f : α → K)

/-- One candidate: it replaces the best so far, of which `none` is worse than everything, when its
value is less. -/
def scanLeast (best : α × Option K) (x : α) : α × Option K :=
  if best.2.all (f x < ·) then (x, some (f x)) else best

/-- **The scan keeps the first candidate with the least value.** -/
theorem scanLeast_spec {xs : List α} (hsorted : xs.Pairwise (· ≤ ·)) (hne : xs ≠ []) (start : α) :
    let best := xs.foldl (scanLeast f) (start, none)
    best.2 = some (f best.1) ∧ best.1 ∈ xs ∧ (∀ x ∈ xs, f best.1 ≤ f x) ∧
      ∀ x ∈ xs, f x ≤ f best.1 → best.1 ≤ x := by
  induction xs using List.reverseRecOn with
  | nil => exact absurd rfl hne
  | append_singleton xs x ih =>
    obtain ⟨hxs, -, hlast⟩ := List.pairwise_append.mp hsorted
    rw [List.foldl_append, List.foldl_cons, List.foldl_nil]
    rcases List.eq_nil_or_concat xs with rfl | ⟨before, y, rfl⟩
    · simp [scanLeast]
    · rw [List.concat_eq_append] at *
      obtain ⟨hvalue, hmem, hleast, hfirst⟩ :=
        ih hxs (List.append_ne_nil_of_right_ne_nil before (List.cons_ne_nil y []))
      generalize (before ++ [y]).foldl (scanLeast f) (start, none) = best at *
      unfold scanLeast
      rw [hvalue, Option.all_some]
      by_cases hless : f x < f best.1
      · rw [if_pos (decide_eq_true hless)]
        refine ⟨rfl, List.mem_append_right _ (List.mem_singleton_self x), ?_, ?_⟩
        · intro z hz
          rcases List.mem_append.mp hz with hz | hz
          · exact hless.le.trans (hleast z hz)
          · exact (congrArg f (List.mem_singleton.mp hz)).ge
        · intro z hz hle
          rcases List.mem_append.mp hz with hz | hz
          · exact absurd (hless.trans_le (hleast z hz)) (not_lt.mpr hle)
          · exact (List.mem_singleton.mp hz).ge
      · rw [if_neg (by simpa using hless)]
        refine ⟨hvalue, List.mem_append_left _ hmem, ?_, ?_⟩
        · intro z hz
          rcases List.mem_append.mp hz with hz | hz
          · exact hleast z hz
          · exact (not_lt.mp hless).trans (congrArg f (List.mem_singleton.mp hz)).ge
        · intro z hz hle
          rcases List.mem_append.mp hz with hz | hz
          · exact hfirst z hz hle
          · exact hlast best.1 hmem z hz

end Scan

end Hinges
