import BptCore.Lib.Rounding
import BptCore.OrderGateway.Adapter.HyperliquidActions

/-!
# Prices that Hyperliquid takes

A price has five significant figures, or is an integer, and has no more places than its asset. The
places that are kept are counted before the rounding, which may carry into one digit more.

* **`keptDecimals`** — the places that `roundPriceForAsset` keeps.
* **`Allowed`** — the rules for a price.
* **`roundPriceForAsset_eq_self_iff`** — the prices that the rounding leaves alone.
* **`roundPriceForAsset_spec`** — a rounded price is within the rules and near, and stays.
-/

namespace BptCore.OrderGateway.HyperliquidActionEncoder

open Places

/-- The last place that is kept. -/
def keptDecimals (price : ℚ) (asset : AssetMeta) : ℤ :=
  min (max 0 (5 - (Int.log 10 price + 1))) asset.maxPxDecimals

/-- The places of the asset, and five figures or an integer. -/
structure Allowed (asset : AssetMeta) (x : ℚ) : Prop where
  places : HasPlaces 10 asset.maxPxDecimals x
  figures : (∃ k : ℤ, x = k) ∨ HasDigits 10 5 x

variable {asset : AssetMeta} {price : ℚ}

theorem roundPriceForAsset_of_pos (h : 0 < price) :
    roundPriceForAsset price asset =
      roundAway (price / 10 ^ (-keptDecimals price asset)) * 10 ^ (-keptDecimals price asset) := by
  unfold roundPriceForAsset
  rw [if_neg (not_le.mpr h)]
  show (roundAway (price * 10 ^ keptDecimals price asset) : ℚ) / 10 ^ keptDecimals price asset = _
  rw [zpow_neg, div_inv_eq_mul, div_eq_mul_inv]

theorem hasPlaces_roundPriceForAsset (h : 0 < price) :
    HasPlaces 10 (keptDecimals price asset) (roundPriceForAsset price asset) := by
  rw [roundPriceForAsset_of_pos h]
  exact ⟨_, rfl⟩

theorem roundPriceForAsset_nonneg (h : 0 < price) : 0 ≤ roundPriceForAsset price asset := by
  have hunit : (0 : ℚ) < 10 ^ (-keptDecimals price asset) := zpow_pos (by norm_num) _
  have hround : 0 ≤ roundAway (price / 10 ^ (-keptDecimals price asset)) :=
    nearest_roundAway.intCast_le (by rw [Int.cast_zero]; exact (div_pos h hunit).le)
  rw [roundPriceForAsset_of_pos h]
  exact mul_nonneg (by exact_mod_cast hround) hunit.le

/-- Where a place behind the point is kept, no more than five figures are. -/
theorem hasDigits_roundPriceForAsset (h : 0 < price) (hkept : 0 < keptDecimals price asset) :
    HasDigits 10 5 (roundPriceForAsset price asset) := by
  have hplaces : keptDecimals price asset ≤ 5 - (Int.log 10 price + 1) := by
    unfold keptDecimals at hkept ⊢
    omega
  set d := keptDecimals price asset with hd
  have hunit : (0 : ℚ) < 10 ^ (-d) := zpow_pos (by norm_num) _
  have hround : 0 ≤ roundAway (price / 10 ^ (-d)) :=
    nearest_roundAway.intCast_le (by rw [Int.cast_zero]; exact (div_pos h hunit).le)
  -- the number has five digits before it is rounded
  have hlt : price / 10 ^ (-d) ≤ ((10 ^ 5 : ℤ) : ℚ) := by
    rw [div_le_iff₀ hunit]
    calc price ≤ (10 : ℚ) ^ (Int.log 10 price + 1) :=
          (Int.lt_zpow_succ_log_self (by norm_num) price).le
      _ ≤ (10 : ℚ) ^ (5 + -d) := zpow_le_zpow_right₀ (by norm_num) (by omega)
      _ = ((10 ^ 5 : ℤ) : ℚ) * 10 ^ (-d) := by
          rw [zpow_add₀ (by norm_num)]
          norm_num
  have habs : |roundAway (price / 10 ^ (-d))| ≤ ((10 : ℕ) : ℤ) ^ 5 := by
    rw [abs_of_nonneg hround]
    exact nearest_roundAway.le_intCast hlt
  rw [roundPriceForAsset_of_pos h]
  exact hasDigits_of_abs_le (by norm_num) (by norm_num) habs _

theorem allowed_roundPriceForAsset (h : 0 < price) :
    Allowed asset (roundPriceForAsset price asset) where
  places := (hasPlaces_roundPriceForAsset h).mono (by norm_num) (min_le_right _ _)
  figures := by
    rcases le_or_gt (keptDecimals price asset) 0 with hkept | hkept
    · exact .inl (hasPlaces_zero_iff.mp ((hasPlaces_roundPriceForAsset h).mono (by norm_num) hkept))
    · exact .inr (hasDigits_roundPriceForAsset h hkept)

/-- A price within the rules has nothing beyond the last place that is kept. -/
theorem Allowed.hasPlaces (h : Allowed asset price) (hpos : 0 < price) :
    HasPlaces 10 (keptDecimals price asset) price := by
  have hfigures : HasPlaces 10 (max 0 (5 - (Int.log 10 price + 1))) price := by
    rcases h.figures with hint | hdigits
    · exact (hasPlaces_zero_iff.mpr hint).mono (by norm_num) (le_max_left _ _)
    · have hlast := hdigits.hasPlaces (by norm_num) hpos
      exact hlast.mono (by norm_num) (by push_cast; omega)
  unfold keptDecimals
  rcases min_choice (max 0 (5 - (Int.log 10 price + 1))) asset.maxPxDecimals with hmin | hmin
  · rw [hmin]
    exact hfigures
  · rw [hmin]
    exact h.places

/-- **The prices that stay.** -/
theorem roundPriceForAsset_eq_self_iff (hpos : 0 < price) :
    roundPriceForAsset price asset = price ↔ Allowed asset price := by
  constructor
  · intro h
    rw [← h]
    exact allowed_roundPriceForAsset hpos
  · intro h
    have hunit : (10 : ℚ) ^ (-keptDecimals price asset) ≠ 0 := (zpow_pos (by norm_num) _).ne'
    rw [roundPriceForAsset_of_pos hpos]
    exact (nearest_roundAway.mul_eq_iff hunit).mpr (h.hasPlaces hpos)

/-- **A rounded price.** It has no more places than the asset, is an integer or has five significant
figures at most, is half a unit of the last kept place away at most, and rounds to itself. -/
theorem roundPriceForAsset_spec (asset : AssetMeta) (price : ℚ) (hpos : 0 < price) :
    let rounded := roundPriceForAsset price asset
    HasPlaces 10 (max 0 asset.maxPxDecimals) rounded ∧
      ((∃ k : ℤ, rounded = k) ∨ HasDigits 10 5 rounded) ∧
      |rounded - price| ≤ 10 ^ (-keptDecimals price asset) / 2 ∧
      roundPriceForAsset rounded asset = rounded := by
  have hallowed : Allowed asset (roundPriceForAsset price asset) := allowed_roundPriceForAsset hpos
  refine ⟨hallowed.places.mono (by norm_num) (le_max_right _ _), hallowed.figures, ?_, ?_⟩
  · rw [roundPriceForAsset_of_pos hpos]
    exact nearest_roundAway.abs_mul_sub_le_half (zpow_pos (by norm_num) _) price
  · rcases (roundPriceForAsset_nonneg hpos).lt_or_eq with hrounded | hzero
    · exact (roundPriceForAsset_eq_self_iff hrounded).mpr hallowed
    · -- rounded down to nothing, which is not rounded
      exact if_pos hzero.ge

/-- Five nines and a 6 become 10, where one place less would be kept. -/
theorem roundPriceForAsset_spec_carry :
    let asset : AssetMeta := ⟨202, 2, 4⟩
    let rounded := roundPriceForAsset (999996 / 100000) asset
    (0 : ℚ) < 999996 / 100000 ∧ rounded = 10 ∧ HasPlaces 10 (max 0 asset.maxPxDecimals) rounded ∧
      ((∃ k : ℤ, rounded = k) ∨ HasDigits 10 5 rounded) ∧
      |rounded - 999996 / 100000| ≤ 10 ^ (-keptDecimals (999996 / 100000) asset) / 2 ∧
      roundPriceForAsset rounded asset = rounded :=
  ⟨by decide +kernel, by decide +kernel, roundPriceForAsset_spec _ _ (by decide +kernel)⟩

end BptCore.OrderGateway.HyperliquidActionEncoder
