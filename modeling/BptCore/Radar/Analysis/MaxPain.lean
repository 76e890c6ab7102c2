import BptCore.Lib.Hinges
import Mathlib.Algebra.Order.Field.Rat
import Mathlib.Data.List.Sort

/-!
# The max-pain strike

`max_pain_strike`: the strike of an expiry at which the holders of its options are paid the least.
The doubles are exact here; an open interest that is not finite is `none`, and so is the NaN that
is returned when there is no strike. What is left out of a surface point is not read.

* **`maxPainStrike`** — the listed strikes, tried from the lowest on.
* **`totalPayout`** — what the holders are paid at a settlement price.
* **`maxPainStrike_least`** — the strike has the least payout of all settlement prices.
-/

namespace BptCore.Radar

open Hinges

structure SurfacePoint where
  strikePrice : ℚ := 0
  optionSide : Int := 0
  openInterest : Option ℚ := none
  deriving DecidableEq, Repr

def kSideCall : Int := 0

/-- One turn of the loop that collects the strikes of points with a finite open interest. -/
def collectStrike (strikes : List ℚ) (p : SurfacePoint) : List ℚ :=
  if p.openInterest = none ∨ p.strikePrice ≤ 0 then strikes
  else if p.strikePrice ∈ strikes then strikes
  else strikes ++ [p.strikePrice]

def collectStrikes (points : List SurfacePoint) : List ℚ := points.foldl collectStrike []

/-- What the holders of a point are paid at the settlement price `S`. -/
def pointPain (p : SurfacePoint) (S : ℚ) : ℚ :=
  match p.openInterest with
  | none => 0
  | some openInterest =>
    if p.optionSide = kSideCall then
      let payout := S - p.strikePrice
      if payout > 0 then payout * openInterest else 0
    else
      let payout := p.strikePrice - S
      if payout > 0 then payout * openInterest else 0

def pain (points : List SurfacePoint) (S : ℚ) : ℚ := (points.map fun p => pointPain p S).sum

def maxPainStrike (points : List SurfacePoint) : Option ℚ :=
  let strikes := (collectStrikes points).insertionSort (· ≤ ·)
  match strikes with
  | [] => none
  | front :: _ => some (strikes.foldl (scanLeast (pain points)) (front, none)).1

/-! ## The strikes -/

theorem mem_collectStrike {strikes : List ℚ} {p : SurfacePoint}
    (hp : p.openInterest ≠ none ∧ 0 < p.strikePrice) (strike : ℚ) :
    strike ∈ collectStrike strikes p ↔ strike ∈ strikes ∨ strike = p.strikePrice := by
  rw [collectStrike, if_neg (not_or.mpr ⟨hp.1, not_le.mpr hp.2⟩)]
  by_cases hlisted : p.strikePrice ∈ strikes
  · rw [if_pos hlisted]
    exact ⟨Or.inl, fun hor => hor.elim id fun heq => heq ▸ hlisted⟩
  · rw [if_neg hlisted, List.mem_append, List.mem_singleton]

/-- With finite open interests and positive strikes, the strikes of all the points are collected. -/
theorem mem_collectStrikes {points : List SurfacePoint}
    (h : ∀ p ∈ points, p.openInterest ≠ none ∧ 0 < p.strikePrice) (strike : ℚ) :
    strike ∈ collectStrikes points ↔ strike ∈ points.map (·.strikePrice) := by
  induction points using List.reverseRecOn with
  | nil => exact Iff.rfl
  | append_singleton points p ih =>
    have hbefore := ih fun q hq => h q (List.mem_append_left _ hq)
    have hp := h p (List.mem_append_right _ (List.mem_singleton_self p))
    rw [collectStrikes, List.foldl_append, List.foldl_cons, List.foldl_nil, mem_collectStrike hp,
      List.map_append, List.mem_append, List.map_singleton, List.mem_singleton]
    exact or_congr_left hbefore

/-! ## The payout -/

/-- What the holders are paid at the settlement price `S`: calls for what it is above their
strikes, puts for what it is below. -/
def totalPayout (points : List SurfacePoint) (S : ℚ) : ℚ :=
  (points.map fun p =>
    (if p.optionSide = kSideCall then max (S - p.strikePrice) 0 else max (p.strikePrice - S) 0) *
      p.openInterest.getD 0).sum

theorem pointPain_eq (p : SurfacePoint) (S : ℚ) :
    pointPain p S =
      (if p.optionSide = kSideCall then max (S - p.strikePrice) 0
        else max (p.strikePrice - S) 0) * p.openInterest.getD 0 := by
  have hclip : ∀ payout openInterest : ℚ,
      (if payout > 0 then payout * openInterest else 0) = max payout 0 * openInterest := by
    intro payout openInterest
    by_cases hpos : payout > 0
    · rw [if_pos hpos, max_eq_left hpos.le]
    · rw [if_neg hpos, max_eq_right (not_lt.mp hpos), zero_mul]
  unfold pointPain
  cases p.openInterest with
  | none => exact (mul_zero _).symm
  | some openInterest =>
    simp only [hclip, Option.getD_some]
    exact (ite_mul _ _ _ _).symm

theorem pain_eq_totalPayout (points : List SurfacePoint) : pain points = totalPayout points := by
  funext S
  exact congrArg List.sum (List.map_congr_left fun p _ => pointPain_eq p S)

/-- The payout is a sum of hinges whose knots are the strikes. -/
theorem hinged_totalPayout {points : List SurfacePoint}
    (hoi : ∀ p ∈ points, 0 ≤ p.openInterest.getD 0) :
    Hinged (points.map (·.strikePrice)) (totalPayout points) := by
  refine hinged_sum fun p hp => ?_
  have hknot : p.strikePrice ∈ points.map (·.strikePrice) := List.mem_map_of_mem hp
  by_cases hcall : p.optionSide = kSideCall
  · simp only [if_pos hcall]
    exact (hinged_rise hknot).mul (hoi p hp)
  · simp only [if_neg hcall]
    exact (hinged_fall hknot).mul (hoi p hp)

/-! ## The least payout -/

/-- **Max pain.** For points with positive strikes and finite, non-negative open interests, the
strike found pays no more than any settlement price, and is the lowest listed one to do so. -/
theorem maxPainStrike_least (points : List SurfacePoint) (hne : points ≠ [])
    (hstrikes : ∀ p ∈ points, 0 < p.strikePrice)
    (hoi : ∀ p ∈ points, ∃ openInterest, p.openInterest = some openInterest ∧ 0 ≤ openInterest) :
    ∃ best, maxPainStrike points = some best ∧ best ∈ points.map (·.strikePrice) ∧
      (∀ S, 0 ≤ S → totalPayout points best ≤ totalPayout points S) ∧
      ∀ strike ∈ points.map (·.strikePrice),
        (∀ S, 0 ≤ S → totalPayout points strike ≤ totalPayout points S) → best ≤ strike := by
  have hlisted : ∀ p ∈ points, p.openInterest ≠ none ∧ 0 < p.strikePrice := fun p hp => by
    obtain ⟨openInterest, hsome, -⟩ := hoi p hp
    exact ⟨by rw [hsome]; exact Option.some_ne_none _, hstrikes p hp⟩
  have hpos : ∀ p ∈ points, 0 ≤ p.openInterest.getD 0 := fun p hp => by
    obtain ⟨openInterest, hsome, hnonneg⟩ := hoi p hp
    rw [hsome]
    exact hnonneg
  let strikes := (collectStrikes points).insertionSort (· ≤ ·)
  have hmem : ∀ strike, strike ∈ strikes ↔ strike ∈ points.map (·.strikePrice) := fun strike =>
    (List.mem_insertionSort _).trans (mem_collectStrikes hlisted strike)
  have hknots : points.map (·.strikePrice) ≠ [] := mt List.map_eq_nil_iff.mp hne
  -- tried in order, so that the first of the best is the lowest
  have hsorted : strikes.Pairwise (· ≤ ·) := List.pairwise_insertionSort _ _
  have hfound : ∃ front rest, strikes = front :: rest := by
    obtain ⟨strike, hstrike⟩ := List.exists_mem_of_ne_nil _ hknots
    exact List.exists_cons_of_ne_nil (List.ne_nil_of_mem ((hmem strike).mpr hstrike))
  obtain ⟨front, rest, hcons⟩ := hfound
  have hne' : strikes ≠ [] := hcons ▸ List.cons_ne_nil front rest
  obtain ⟨-, hbest, hleast, hfirst⟩ := scanLeast_spec (pain points) hsorted hne' front
  refine ⟨(strikes.foldl (scanLeast (pain points)) (front, none)).1, ?_, (hmem _).mp hbest, ?_, ?_⟩
  · unfold maxPainStrike
    simp only [strikes, hcons]
  · -- from the strikes to every price
    intro S _
    obtain ⟨knot, hknot, hle⟩ := (hinged_totalPayout hpos).exists_knot_le hknots S
    rw [← pain_eq_totalPayout] at hle ⊢
    exact (hleast knot ((hmem knot).mpr hknot)).trans hle
  · intro strike hstrike hmin
    refine hfirst strike ((hmem strike).mpr hstrike) ?_
    obtain ⟨p, hp, hpstrike⟩ := List.mem_map.mp ((hmem _).mp hbest)
    rw [pain_eq_totalPayout]
    rw [pain_eq_totalPayout] at hpstrike
    exact hmin _ (hpstrike ▸ (hstrikes p hp).le)

/-- Strikes out of order, one of them twice. -/
theorem maxPainStrike_least_chain :
    let points : List SurfacePoint :=
      [⟨110, 0, some 5⟩, ⟨100, 1, some 3⟩, ⟨100, 0, some 2⟩, ⟨120, 1, some 4⟩]
    ∃ best, maxPainStrike points = some best ∧ best ∈ points.map (·.strikePrice) ∧
      (∀ S, 0 ≤ S → totalPayout points best ≤ totalPayout points S) ∧
      ∀ strike ∈ points.map (·.strikePrice),
        (∀ S, 0 ≤ S → totalPayout points strike ≤ totalPayout points S) → best ≤ strike :=
  maxPainStrike_least [⟨110, 0, some 5⟩, ⟨100, 1, some 3⟩, ⟨100, 0, some 2⟩, ⟨120, 1, some 4⟩]
    (by decide) (by decide) (by decide +kernel)

example : maxPainStrike [⟨110, 0, some 5⟩, ⟨100, 1, some 3⟩, ⟨100, 0, some 2⟩, ⟨120, 1, some 4⟩] =
    some 110 := by decide +kernel

end BptCore.Radar
