import BptCore.Features.Ewma
import BptCore.Lib.ForwardFilter
import Mathlib.Data.Fin.VecNotation
import Mathlib.Tactic.FinCases

/-!
# The regime filter of the hidden Markov strategy

The filter keeps one probability for each of four regimes and moves them on with every observation
vector. The probabilities are exact here, where the source has doubles; `log` and `exp` are
parameters.

* **`HmmFilter.update`** — the forward step, its normalisation, and the reset of weights that sum to
  nothing.
* **`Params.chain`** — the chain that the parameters describe.
* **`updates_posterior`** — while the chain has weight the filter holds its exact shares.
* **`dominant_first`** — the dominant regime is the first of the most probable ones.
* **`updates_alpha`** — both for any number of observations, and that `alpha` is a distribution.
-/

namespace BptCore.Strategy.Hmm

open BptCore.Features
open BptCore.Lib.ForwardFilter

abbrev K : Nat := 4

abbrev D : Nat := 5

inductive State where
  | trendingUp | trendingDown | meanRevert | highVol
  deriving DecidableEq, Repr

namespace State

def toIndex : State → Fin K
  | trendingUp => 0
  | trendingDown => 1
  | meanRevert => 2
  | highVol => 3

def ofIndex (k : Fin K) : State := ![trendingUp, trendingDown, meanRevert, highVol] k

@[simp] theorem toIndex_ofIndex (k : Fin K) : (ofIndex k).toIndex = k := by
  fin_cases k <;> rfl

end State

/-- An observation vector: return, volatility, spread, book imbalance and volume score. -/
abbrev Observation := Fin D → ℚ

structure Params where
  A : Fin K → Fin K → ℚ
  mu : Fin K → Fin D → ℚ
  sigma : Fin K → Fin D → ℚ
  pi : Fin K → ℚ

def Params.defaultParams : Params where
  A := ![
    ![0.90, 0.03, 0.04, 0.03],
    ![0.03, 0.90, 0.04, 0.03],
    ![0.05, 0.05, 0.85, 0.05],
    ![0.05, 0.05, 0.05, 0.85]]
  mu := ![
    ![0.0008, 0.000142, 2.0, 0.62, 0.8],
    ![-0.0008, 0.000142, 2.0, 0.38, 0.8],
    ![0.0000, 0.000090, 1.2, 0.50, 0.2],
    ![0.0000, 0.000280, 6.0, 0.50, 1.8]]
  sigma := ![
    ![0.0004, 0.000035, 1.0, 0.12, 0.5],
    ![0.0004, 0.000035, 1.0, 0.12, 0.5],
    ![0.0003, 0.000020, 0.6, 0.08, 0.4],
    ![0.0010, 0.000080, 2.5, 0.15, 0.8]]
  pi := ![0.15, 0.15, 0.55, 0.15]

/-- `kMinProb`. -/
def minProb : ℚ := 1 / 10 ^ 300

structure HmmFilter where
  params : Params
  alpha : Fin K → ℚ := fun _ => 0
  initialized : Bool := false

namespace HmmFilter

variable (num : ExpNumerics) (f : HmmFilter)

def logEmission (k : Fin K) (obs : Observation) : ℚ :=
  (List.finRange D).foldl
    (fun logP d =>
      if f.params.sigma k d ≤ 0 then logP
      else
        let z := (obs d - f.params.mu k d) / f.params.sigma k d
        logP - (0.5 * z * z + num.log (f.params.sigma k d)))
    0

def emissionProb (k : Fin K) (obs : Observation) : ℚ :=
  max (num.exp (f.logEmission num k obs)) minProb

/-- The weights of a step, before they are normalised. -/
def newAlpha (obs : Observation) (k : Fin K) : ℚ :=
  if f.initialized then f.emissionProb num k obs * ∑ j, f.alpha j * f.params.A j k
  else f.params.pi k * f.emissionProb num k obs

def update (obs : Observation) : HmmFilter :=
  { f with
    alpha := normalise (fun _ => 1 / K) (f.newAlpha num obs)
    initialized := true }

def dominantIndex : Fin K :=
  ((List.finRange K).drop 1).foldl (fun best k => if f.alpha best < f.alpha k then k else best) 0

def dominant : State := State.ofIndex f.dominantIndex

def confidence : ℚ := f.alpha f.dominant.toIndex

def ready : Bool := f.initialized

end HmmFilter

open HmmFilter

/-- The filter after the first `n` observations of a stream. -/
def updates (num : ExpNumerics) (p : Params) (obs : ℕ → Observation) : ℕ → HmmFilter
  | 0 => { params := p }
  | n + 1 => (updates num p obs n).update num (obs n)

variable (num : ExpNumerics) (p : Params) (obs : ℕ → Observation)

@[simp] theorem updates_params (n : ℕ) : (updates num p obs n).params = p := by
  induction n with
  | zero => rfl
  | succ n ih => simpa [updates, update] using ih

@[simp] theorem updates_initialized (n : ℕ) : (updates num p obs (n + 1)).initialized = true := rfl

theorem emissionProb_pos (f : HmmFilter) (k : Fin K) (o : Observation) :
    0 < f.emissionProb num k o :=
  lt_max_of_lt_right (by simp [minProb])

/-! ## The chain -/

/-- The chain of the regimes: what they start with, where they step and what they emit. -/
def Params.chain : Chain (Fin K) Observation ℚ where
  init := p.pi
  trans := p.A
  emit := fun k o => ({ params := p } : HmmFilter).emissionProb num k o

structure Params.Nonneg : Prop where
  pi : ∀ k, 0 ≤ p.pi k
  A : ∀ j k, 0 ≤ p.A j k

variable {p}

theorem Params.Nonneg.chain (hp : p.Nonneg) : (p.chain num).Nonneg where
  init := hp.pi
  trans := hp.A
  emit k o := (emissionProb_pos num _ k o).le

variable (p) in
/-- The first weights are those of the paths of one regime. -/
theorem newAlpha_first : (updates num p obs 0).newAlpha num (obs 0) = joint (p.chain num) obs 0 := by
  funext k
  rw [joint_zero]
  simp [updates, newAlpha, Params.chain]

variable (p) in
/-- Later weights are a step of the chain from the shares that the filter holds. -/
theorem newAlpha_later (n : ℕ) (k : Fin K) :
    (updates num p obs (n + 1)).newAlpha num (obs (n + 1)) k
      = (p.chain num).emit k (obs (n + 1))
        * ∑ j, (updates num p obs (n + 1)).alpha j * (p.chain num).trans j k := by
  simp [newAlpha, Params.chain, emissionProb, logEmission]

/-- While some path has weight, the filter holds the share of each regime. -/
theorem updates_posterior (hp : p.Nonneg) (n : ℕ) (hn : 0 < total (p.chain num) obs n) :
    (updates num p obs (n + 1)).alpha = posterior (p.chain num) obs n := by
  induction n with
  | zero =>
    rw [updates, update, newAlpha_first]
    exact normalise_joint obs hn
  | succ n ih =>
    have hpos := total_pos_of_succ obs (hp.chain num) hn
    rw [updates, update]
    simp only [funext (newAlpha_later num p obs n), ih hpos]
    exact normalise_predict obs (hp.chain num) hn

theorem newAlpha_nonneg (hp : p.Nonneg) {f : HmmFilter} (hf : f.params = p)
    (hα : ∀ k, 0 ≤ f.alpha k) (o : Observation) (k : Fin K) : 0 ≤ f.newAlpha num o k := by
  have hemit := (emissionProb_pos num f k o).le
  unfold newAlpha
  split
  · exact mul_nonneg hemit (Finset.sum_nonneg fun j _ => mul_nonneg (hα j) (hf ▸ hp.A j k))
  · exact mul_nonneg (hf ▸ hp.pi k) hemit

theorem updates_nonneg (hp : p.Nonneg) (n : ℕ) (k : Fin K) :
    0 ≤ (updates num p obs n).alpha k := by
  induction n generalizing k with
  | zero => simp [updates]
  | succ n ih =>
    refine normalise_nonneg (fun _ => by simp) (fun j => ?_) k
    exact newAlpha_nonneg num hp (updates_params num p obs n) ih (obs n) j

variable (p) in
theorem updates_sum (n : ℕ) : ∑ k, (updates num p obs (n + 1)).alpha k = 1 :=
  normalise_sum (by simp)

/-- Parameters whose weights cannot all vanish, as those of the defaults. -/
theorem chain_total_pos (hp : p.Nonneg) (hpi : ∃ k, 0 < p.pi k) (hA : ∀ j, ∃ k, 0 < p.A j k)
    (n : ℕ) : 0 < total (p.chain num) obs n :=
  total_pos obs (hp.chain num) hpi hA (fun k o => emissionProb_pos num _ k o) n

/-! ## The dominant regime -/

/-- A scan for the best of an ascending list ends at the first of its best elements. -/
theorem foldl_best (α : Fin K → ℚ) (l : List (Fin K)) (best : Fin K)
    (hl : (best :: l).Pairwise (· < ·)) :
    (∀ k ∈ best :: l,
        α k ≤ α (l.foldl (fun best k => if α best < α k then k else best) best)) ∧
      ∀ k ∈ best :: l, k < l.foldl (fun best k => if α best < α k then k else best) best →
        α k < α (l.foldl (fun best k => if α best < α k then k else best) best) := by
  induction l generalizing best with
  | nil => simp
  | cons k l ih =>
    obtain ⟨hbest, hkl⟩ := List.pairwise_cons.mp hl
    have hk : best < k := hbest k (by simp)
    rw [List.foldl_cons]
    split
    · next hlt =>
      -- `k` takes over, and what beats `k` beats the one before it.
      obtain ⟨hmax, hfirst⟩ := ih k hkl
      have hb := hlt.trans_le (hmax k (by simp))
      refine ⟨fun j hj => ?_, fun j hj hjb => ?_⟩ <;> rcases List.mem_cons.mp hj with rfl | hj
      · exact hb.le
      · exact hmax j hj
      · exact hb
      · exact hfirst j hj hjb
    · next hge =>
      have hle : α k ≤ α best := not_lt.mp hge
      obtain ⟨hmax, hfirst⟩ :=
        ih best (List.pairwise_cons.mpr ⟨fun j hj => hbest j (by simp [hj]),
          (List.pairwise_cons.mp hkl).2⟩)
      refine ⟨fun j hj => ?_, fun j hj hjb => ?_⟩ <;>
        simp only [List.mem_cons] at hj <;> rcases hj with rfl | rfl | hj
      · exact hmax j (by simp)
      · exact hle.trans (hmax best (by simp))
      · exact hmax j (by simp [hj])
      · exact hfirst j (by simp) hjb
      · exact hle.trans_lt (hfirst best (by simp) (hk.trans hjb))
      · exact hfirst j (by simp [hj]) hjb

/-- No regime is more probable than the dominant one, and those before it are less probable. -/
theorem dominant_first (f : HmmFilter) :
    (∀ k, f.alpha k ≤ f.confidence) ∧
      ∀ k, k < f.dominant.toIndex → f.alpha k < f.confidence := by
  have h := foldl_best f.alpha ((List.finRange K).drop 1) 0 (by decide)
  have hall (k : Fin K) : k ∈ (0 : Fin K) :: (List.finRange K).drop 1 := by
    fin_cases k <;> decide
  simp only [confidence, dominant, State.toIndex_ofIndex]
  exact ⟨fun k => h.1 k (hall k), fun k hk => h.2 k (hall k) hk⟩

/-! ## Any number of observations -/

/-- However many observations the filter has seen, it holds a distribution, which is that of the
regimes given the observations while any path of the chain has weight. Its dominant regime is the
first of the most probable ones, and the confidence in it is at least a quarter. -/
theorem updates_alpha (hp : p.Nonneg) (n : ℕ) :
    (∀ k, 0 ≤ (updates num p obs (n + 1)).alpha k) ∧
      (∑ k, (updates num p obs (n + 1)).alpha k = 1) ∧
      (0 < total (p.chain num) obs n →
        (updates num p obs (n + 1)).alpha = posterior (p.chain num) obs n) ∧
      (∀ k, (updates num p obs (n + 1)).alpha k ≤ (updates num p obs (n + 1)).confidence) ∧
      (∀ k, k < (updates num p obs (n + 1)).dominant.toIndex →
        (updates num p obs (n + 1)).alpha k < (updates num p obs (n + 1)).confidence) ∧
      1 / 4 ≤ (updates num p obs (n + 1)).confidence := by
  have hsum := updates_sum num p obs n
  have hfirst := dominant_first (updates num p obs (n + 1))
  refine ⟨updates_nonneg num obs hp (n + 1), hsum, updates_posterior num obs hp n,
    hfirst.1, hfirst.2, ?_⟩
  have hle : ∑ k, (updates num p obs (n + 1)).alpha k
      ≤ ∑ _k : Fin K, (updates num p obs (n + 1)).confidence :=
    Finset.sum_le_sum fun k _ => hfirst.1 k
  rw [hsum] at hle
  simp only [Finset.sum_const, Finset.card_univ, Fintype.card_fin, nsmul_eq_mul] at hle
  push_cast at hle
  linarith

/-- Regimes that all emit alike: what is left to filter are the steps between them. -/
def evenParams : Params :=
  { Params.defaultParams with mu := fun _ _ => 0, sigma := fun _ _ => 1 }

/-- The numerics where the even parameters need them, at `log 1` and `exp 0`. -/
def evenNumerics : ExpNumerics := { log := fun x => x - 1, sqrt := id, exp := fun x => 1 + x }

theorem updates_alpha_even :
    ((updates evenNumerics evenParams (fun _ _ => 0) 2).alpha
        = posterior (evenParams.chain evenNumerics) (fun _ _ => 0) 1 ∧
      1 / 4 ≤ (updates evenNumerics evenParams (fun _ _ => 0) 2).confidence) ∧
      (updates evenNumerics evenParams (fun _ _ => 0) 2).dominant = .meanRevert ∧
      (updates evenNumerics evenParams (fun _ _ => 0) 2).confidence = 0.487 := by
  have hp : evenParams.Nonneg := ⟨by decide +kernel, by decide +kernel⟩
  obtain ⟨-, -, hpost, -, -, hconf⟩ := updates_alpha evenNumerics (fun _ _ => 0) hp 1
  have hpos := chain_total_pos evenNumerics (fun _ _ => 0) hp (by decide +kernel)
    (by decide +kernel) 1
  exact ⟨⟨hpost hpos, hconf⟩, by decide +kernel, by decide +kernel⟩

theorem defaultParams_nonneg : Params.defaultParams.Nonneg where
  pi := by decide +kernel
  A := by decide +kernel

/-- The default parameters never run out of weight: whatever is observed, the filter is exact. -/
theorem defaultParams_posterior (n : ℕ) :
    (updates num .defaultParams obs (n + 1)).alpha
      = posterior (Params.defaultParams.chain num) obs n :=
  updates_posterior num obs defaultParams_nonneg n
    (chain_total_pos num obs defaultParams_nonneg (by decide +kernel) (by decide +kernel) n)

end BptCore.Strategy.Hmm
