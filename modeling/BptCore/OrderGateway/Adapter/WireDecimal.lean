import BptCore.Messages

/-!
# Decimals on the wire

The venues write prices and quantities as decimals; a decoder scales them by `1e8` and casts to
an integer, truncating toward zero, or rounds first where the quantity went through a contract
size. `std::stod` and the scaling are exact here.

* **`truncE8`**, **`roundE8`**, **`roundE8Nat`** — the conversions.
* **`truncE8_ofE8`**, **`roundE8Nat_ofE8`** — on a decimal with at most eight places either is
  exact.
-/

namespace BptCore.OrderGateway

/-- `static_cast<int64_t>(x * 1e8)`. -/
def truncE8 (x : ℚ) : Int :=
  if 0 ≤ x then (x * kScale).floor else -(-x * kScale).floor

/-- `static_cast<uint64_t>(x * 1e8)`. -/
def truncE8Nat (x : ℚ) : Nat := (truncE8 x).toNat

/-- `static_cast<uint64_t>(std::round(x * 1e8))`, halves away from zero. -/
def roundE8Nat (x : ℚ) : Nat := (x * kScale + 1 / 2).floor.toNat

/-- `static_cast<int64_t>(std::round(x * 1e8))`, halves away from zero. -/
def roundE8 (x : ℚ) : Int :=
  if 0 ≤ x then (x * kScale + 1 / 2).floor else -(-x * kScale + 1 / 2).floor

theorem truncE8_zero : truncE8 0 = 0 := by decide +kernel

theorem truncE8_ofE8 (n : Int) : truncE8 (ofE8 n) = n := by
  unfold truncE8
  split
  · rw [ofE8_mul_kScale, Rat.floor_intCast]
  · rw [← ofE8_neg, ofE8_mul_kScale, Rat.floor_intCast, Int.neg_neg]

theorem floor_add_half (n : Int) : ((n : ℚ) + 1 / 2).floor = n := by
  refine Int.le_antisymm ?_ ?_
  · refine Int.lt_add_one_iff.mp (Rat.floor_lt_iff.mpr ?_)
    push_cast
    linarith
  · refine Rat.le_floor_iff.mpr ?_
    linarith

@[simp] theorem roundE8_ofE8 (n : Int) : roundE8 (ofE8 n) = n := by
  unfold roundE8
  split
  · rw [ofE8_mul_kScale, floor_add_half]
  · rw [← ofE8_neg, ofE8_mul_kScale, floor_add_half, Int.neg_neg]

@[simp] theorem truncE8Nat_ofE8 (n : Nat) : truncE8Nat (ofE8 n) = n := by
  rw [truncE8Nat, truncE8_ofE8, Int.toNat_natCast]

@[simp] theorem roundE8Nat_ofE8 (n : Nat) : roundE8Nat (ofE8 n) = n := by
  rw [roundE8Nat, ofE8_mul_kScale, floor_add_half, Int.toNat_natCast]

end BptCore.OrderGateway
