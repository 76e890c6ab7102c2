import Mathlib.Algebra.Order.Field.Basic
import Mathlib.Algebra.Order.Field.Rat
import Mathlib.Algebra.Order.Floor.Ring
import Mathlib.Algebra.Order.Round
import Mathlib.Data.Int.Log
import Mathlib.Data.Rat.Floor
import Mathlib.Tactic.Linarith
import Mathlib.Tactic.Ring

/-!
# Rounding to a grid

The multiples of a positive step: the nearest one, however ties are broken, and the nearest ones on
either side. The multiples of the powers of a base are the numbers that a positional notation writes
with so many places behind the point, or with so many digits from the first one that is not 0 on; a
negative count of places leaves zeros before the point.

* **`Nearest`** — no integer is nearer than the one rounded to.
* **`Nearest.mul_eq_iff`** — on the grid, and only there, rounding changes nothing.
* **`Nearest.regained_iff`** — an integer counted in steps and rounded is regained by the rounding
  back exactly when some count of steps is near enough to it.
* **`Grid.roundDown_spec`**, **`Grid.roundUp_spec`** — a multiple on that side, less than a step
  away, and a multiple stays where it is.
* **`HasPlaces`**, **`HasDigits`** — by places, and by significant digits.
* **`hasDigits_of_abs_le`** — a carry into one digit more leaves one digit.
* **`HasDigits.hasPlaces`** — the places that so many digits come to, by the first of them.
-/

namespace BptCore

/-! ## To the nearest -/

/-- A rounding to the nearest integer. -/
def Nearest (r : ℚ → ℤ) : Prop := ∀ x (k : ℤ), |x - r x| ≤ |x - k|

theorem nearest_round : Nearest round := round_le

/-- `std::round`: halves away from zero. -/
def roundAway (x : ℚ) : ℤ := if 0 ≤ x then round x else -round (-x)

theorem nearest_roundAway : Nearest roundAway := by
  intro x k
  unfold roundAway
  split
  · exact round_le x k
  · have hneg : ∀ j : ℤ, |x - j| = |-x - (-j : ℤ)| := by
      intro j
      rw [← abs_neg, neg_sub, sub_eq_neg_add, Int.cast_neg, sub_neg_eq_add]
    rw [hneg, hneg k, Int.neg_neg]
    exact round_le (-x) (-k)

/-- The distance from a multiple, in steps. -/
theorem abs_mul_sub {step : ℚ} (hstep : 0 < step) (x : ℚ) (j : ℤ) :
    |j * step - x| = |x / step - j| * step := by
  rw [← abs_of_pos hstep, ← abs_mul, abs_of_pos hstep, abs_sub_comm, sub_mul,
    div_mul_cancel₀ _ hstep.ne']

namespace Nearest

variable {r : ℚ → ℤ} (hr : Nearest r)

include hr

theorem intCast (k : ℤ) : r k = k := by
  have h := hr k k
  rw [sub_self, abs_zero] at h
  have := sub_eq_zero.mp (abs_eq_zero.mp (le_antisymm h (abs_nonneg _)))
  exact_mod_cast this.symm

/-- An integer above the number is above the rounded number. -/
theorem le_intCast {x : ℚ} {k : ℤ} (h : x ≤ k) : r x ≤ k := by
  have hnear := hr x k
  rw [abs_of_nonpos (sub_nonpos.mpr h)] at hnear
  have hle : (r x : ℚ) - x ≤ k - x := by linarith [neg_abs_le (x - r x)]
  exact_mod_cast (sub_le_sub_iff_right x).mp hle

theorem intCast_le {x : ℚ} {k : ℤ} (h : k ≤ x) : k ≤ r x := by
  have hnear := hr x k
  rw [abs_of_nonneg (sub_nonneg.mpr h)] at hnear
  have hle : x - r x ≤ x - k := (le_abs_self _).trans hnear
  exact_mod_cast (sub_le_sub_iff_left x).mp hle

/-- The rounded multiple is half a step away at most. -/
theorem abs_mul_sub_le_half {step : ℚ} (hstep : 0 < step) (x : ℚ) :
    |r (x / step) * step - x| ≤ step / 2 := by
  have hhalf : |x / step - r (x / step)| ≤ 1 / 2 :=
    (hr _ (round (x / step))).trans (abs_sub_round _)
  calc |(r (x / step) : ℚ) * step - x|
      = |x / step - r (x / step)| * step := abs_mul_sub hstep x _
    _ ≤ 1 / 2 * step := mul_le_mul_of_nonneg_right hhalf hstep.le
    _ = step / 2 := by ring

theorem mul_eq_iff {step x : ℚ} (hstep : step ≠ 0) :
    r (x / step) * step = x ↔ ∃ k : ℤ, x = k * step := by
  constructor
  · exact fun h => ⟨_, h.symm⟩
  · rintro ⟨k, rfl⟩
    rw [mul_div_cancel_right₀ _ hstep, hr.intCast]

/-- The distance of the rounded multiple is the smallest. -/
theorem abs_mul_sub_le {step : ℚ} (hstep : 0 < step) (x : ℚ) (k : ℤ) :
    |r (x / step) * step - x| ≤ |k * step - x| := by
  rw [abs_mul_sub hstep, abs_mul_sub hstep]
  exact mul_le_mul_of_nonneg_right (hr _ k) hstep.le

/-- Half a unit above `n` is no multiple that `n` is rounded to while another is half a unit
below it: `n` would be a multiple itself. -/
theorem ne_half {step : ℚ} (hstep : 0 < step) {n k : ℤ} (hk : k * step - n = -(1 / 2)) :
    r (n / step) * step - n ≠ 1 / 2 := by
  intro hup
  set j := r (n / step)
  -- the two multiples are one unit apart, and `n` is midway
  have hunit : ((j - k : ℤ) : ℚ) * step = 1 := by
    push_cast
    linarith
  have hstep' : step = 1 / ((j - k : ℤ) : ℚ) := by
    have hne : ((j - k : ℤ) : ℚ) ≠ 0 := by
      intro h0
      rw [h0, zero_mul] at hunit
      exact absurd hunit (by norm_num)
    field_simp
    linarith
  have hmultiple : (n : ℚ) = ((n * (j - k) : ℤ) : ℚ) * step := by
    push_cast at hunit ⊢
    rw [mul_assoc, hunit, mul_one]
  have hnear := hr.abs_mul_sub_le hstep n (n * (j - k))
  rw [← hmultiple, sub_self, abs_zero] at hnear
  have := abs_eq_zero.mp (le_antisymm hnear (abs_nonneg _))
  rw [hup] at this
  exact absurd this (by norm_num)

theorem regained_iff {step : ℚ} (hstep : 0 < step) (n : ℤ) :
    ⌊r (n / step) * step + 1 / 2⌋ = n ↔
      ∃ k : ℤ, -(1 / 2) ≤ k * step - n ∧ k * step - n < 1 / 2 := by
  constructor
  · intro h
    obtain ⟨hle, hlt⟩ := Int.floor_eq_iff.mp h
    exact ⟨r (n / step), by linarith, by linarith⟩
  · rintro ⟨k, hle, hlt⟩
    have hnear := hr.abs_mul_sub_le hstep n k
    have hbound : |(k : ℚ) * step - n| ≤ 1 / 2 := abs_le.mpr ⟨hle, hlt.le⟩
    obtain ⟨hle', hle''⟩ := abs_le.mp (hnear.trans hbound)
    have hne : r (n / step) * step - n ≠ 1 / 2 := by
      intro hup
      rw [hup, abs_of_pos (by norm_num)] at hnear
      have hlow : k * step - n = -(1 / 2) := by
        rcases le_abs.mp hnear with h | h <;> linarith
      exact hr.ne_half hstep hlow hup
    have hlt' := lt_of_le_of_ne hle'' hne
    exact Int.floor_eq_iff.mpr ⟨by linarith, by linarith⟩

end Nearest

end BptCore

namespace Grid

/-! ## Down and up -/

variable {K : Type*} [Field K]

/-- A multiple of the step. -/
def IsMultiple (step x : K) : Prop := ∃ k : ℤ, x = k * step

theorem isMultiple_self (step : K) : IsMultiple step step := ⟨1, by rw [Int.cast_one, one_mul]⟩

variable [LinearOrder K] [FloorRing K]

def roundDown (step x : K) : K := ⌊x / step⌋ * step

def roundUp (step x : K) : K := ⌈x / step⌉ * step

theorem isMultiple_roundDown (step x : K) : IsMultiple step (roundDown step x) := ⟨_, rfl⟩

theorem isMultiple_roundUp (step x : K) : IsMultiple step (roundUp step x) := ⟨_, rfl⟩

variable [IsStrictOrderedRing K] {step : K} (hstep : 0 < step)
include hstep

theorem roundDown_spec (x : K) : roundDown step x ≤ x ∧ x < roundDown step x + step := by
  constructor
  · exact (le_div_iff₀ hstep).mp (Int.floor_le (x / step))
  · have hlt := (div_lt_iff₀ hstep).mp (Int.lt_floor_add_one (x / step))
    rwa [add_mul, one_mul] at hlt

theorem roundUp_spec (x : K) : x ≤ roundUp step x ∧ roundUp step x < x + step := by
  constructor
  · exact (div_le_iff₀ hstep).mp (Int.le_ceil (x / step))
  · have hlt := mul_lt_mul_of_pos_right (Int.ceil_lt_add_one (x / step)) hstep
    rwa [add_mul, one_mul, div_mul_cancel₀ _ hstep.ne'] at hlt

theorem le_roundDown {x y : K} (hy : IsMultiple step y) (h : y ≤ x) : y ≤ roundDown step x := by
  obtain ⟨k, rfl⟩ := hy
  have hk : k ≤ ⌊x / step⌋ := Int.le_floor.mpr ((le_div_iff₀ hstep).mpr h)
  exact mul_le_mul_of_nonneg_right (Int.cast_le.mpr hk) hstep.le

theorem roundUp_le {x y : K} (hy : IsMultiple step y) (h : x ≤ y) : roundUp step x ≤ y := by
  obtain ⟨k, rfl⟩ := hy
  have hk : ⌈x / step⌉ ≤ k := Int.ceil_le.mpr ((div_le_iff₀ hstep).mpr h)
  exact mul_le_mul_of_nonneg_right (Int.cast_le.mpr hk) hstep.le

theorem roundDown_of_isMultiple {x : K} (hx : IsMultiple step x) : roundDown step x = x :=
  le_antisymm (roundDown_spec hstep x).1 (le_roundDown hstep hx le_rfl)

theorem roundUp_of_isMultiple {x : K} (hx : IsMultiple step x) : roundUp step x = x :=
  le_antisymm (roundUp_le hstep hx le_rfl) (roundUp_spec hstep x).1

/-- A step within reach is left by the rounding down. -/
theorem step_le_roundDown {x : K} (h : step ≤ x) : step ≤ roundDown step x :=
  le_roundDown hstep (isMultiple_self step) h

/-- Less than a step is rounded down to nothing, or less. -/
theorem roundDown_lt_step {x : K} (h : x < step) : roundDown step x < step :=
  (roundDown_spec hstep x).1.trans_lt h

end Grid

namespace Places

/-! ## Places and significant digits -/

variable (b : ℕ)

/-- A multiple of the unit of the place `d`. -/
def HasPlaces (d : ℤ) (x : ℚ) : Prop := Grid.IsMultiple ((b : ℚ) ^ (-d)) x

def HasDigits (n : ℕ) (x : ℚ) : Prop := ∃ m e : ℤ, |m| < (b : ℤ) ^ n ∧ x = m * (b : ℚ) ^ e

variable {b} (hb : 1 < b) {x : ℚ}

theorem hasPlaces_zero_iff : HasPlaces b 0 x ↔ ∃ k : ℤ, x = k := by
  unfold HasPlaces Grid.IsMultiple
  simp only [neg_zero, zpow_zero, mul_one]

include hb

theorem unit_pos (d : ℤ) : (0 : ℚ) < (b : ℚ) ^ d :=
  zpow_pos (Nat.cast_pos.mpr (Nat.zero_lt_of_lt hb)) d

theorem HasPlaces.mono {d d' : ℤ} (h : HasPlaces b d x) (hle : d ≤ d') : HasPlaces b d' x := by
  obtain ⟨k, rfl⟩ := h
  obtain ⟨n, hn⟩ := Int.eq_ofNat_of_zero_le (sub_nonneg.mpr hle)
  refine ⟨k * (b : ℤ) ^ n, ?_⟩
  have hbase : (b : ℚ) ≠ 0 := Nat.cast_ne_zero.mpr (by omega)
  have hsplit : -d = (n : ℤ) + -d' := by omega
  rw [hsplit, zpow_add₀ hbase, zpow_natCast]
  push_cast
  ring

/-- A number of `n` digits or the one after the last of them, shifted by any places. -/
theorem hasDigits_of_abs_le {n : ℕ} (hn : 0 < n) {k : ℤ} (h : |k| ≤ (b : ℤ) ^ n) (e : ℤ) :
    HasDigits b n (k * (b : ℚ) ^ e) := by
  rcases h.lt_or_eq with hlt | hcarry
  · exact ⟨k, e, hlt, rfl⟩
  · -- the carry leaves a single digit
    have hbase : (b : ℚ) ≠ 0 := Nat.cast_ne_zero.mpr (by omega)
    have hone : (1 : ℤ) < (b : ℤ) ^ n := one_lt_pow₀ (by exact_mod_cast hb) hn.ne'
    have hshift : ((b : ℤ) ^ n : ℚ) * (b : ℚ) ^ e = (b : ℚ) ^ (n + e) := by
      rw [zpow_add₀ hbase, zpow_natCast]
      push_cast
      ring
    rcases (abs_eq (by positivity)).mp hcarry with hk | hk
    · refine ⟨1, n + e, by rwa [abs_one], ?_⟩
      rw [hk, Int.cast_one, one_mul, ← hshift]
      push_cast
      ring
    · refine ⟨-1, n + e, by rwa [abs_neg, abs_one], ?_⟩
      rw [hk, Int.cast_neg, Int.cast_neg, Int.cast_one, ← hshift]
      push_cast
      ring

/-- So many digits reach so many places behind the first. -/
theorem HasDigits.hasPlaces {n : ℕ} (h : HasDigits b n x) (hpos : 0 < x) :
    HasPlaces b (n - 1 - Int.log b x) x := by
  obtain ⟨m, e, hm, rfl⟩ := h
  have hbase : (b : ℚ) ≠ 0 := Nat.cast_ne_zero.mpr (by omega)
  have hunit : (0 : ℚ) < (b : ℚ) ^ e := unit_pos hb e
  have hlt : (m : ℚ) * (b : ℚ) ^ e < (b : ℚ) ^ ((n : ℤ) + e) := by
    rw [zpow_add₀ hbase, zpow_natCast]
    refine mul_lt_mul_of_pos_right ?_ hunit
    exact_mod_cast (le_abs_self m).trans_lt hm
  have hlog : Int.log b ((m : ℚ) * (b : ℚ) ^ e) < n + e := (Int.lt_zpow_iff_log_lt hb hpos).mp hlt
  have hplaces : HasPlaces b (-e) ((m : ℚ) * (b : ℚ) ^ e) := ⟨m, by rw [neg_neg]⟩
  exact hplaces.mono hb (by omega)

end Places
