import Mathlib.Algebra.BigOperators.Fin
import Mathlib.Algebra.BigOperators.Field
import Mathlib.Algebra.Order.BigOperators.Group.Finset
import Mathlib.Algebra.Order.BigOperators.Ring.Finset
import Mathlib.Algebra.Order.Field.Basic
import Mathlib.Tactic.Ring

/-!
# Filtering the hidden states of a chain

A chain that cannot be seen takes a state at every time, and every state emits what can be seen. What
is known of the state at a time is the share that the paths ending in it have in the weight of all
paths.

* **`pathWeight`** — how a path and the observations made along it weigh together.
* **`joint`**, **`total`** — what the paths that end in one state weigh, and what all weigh.
* **`joint_succ`** — one more observation, without going through the paths again.
* **`normalise`** — weights scaled to sum to one, or a fallback where nothing weighs anything.
* **`normalise_predict`** — scaling at every step leaves the shares what they are.
-/

namespace BptCore.Lib.ForwardFilter

variable {S O 𝕜 : Type*} [Field 𝕜]

/-! ## Scaling -/

section Scaling

variable [Fintype S] [LinearOrder 𝕜] {fallback : S → 𝕜}

/-- Weights scaled to sum to one, or `fallback` where they sum to nothing. -/
def normalise (fallback v : S → 𝕜) : S → 𝕜 :=
  if 0 < ∑ s, v s then fun s => v s / ∑ r, v r else fallback

theorem normalise_of_pos {v : S → 𝕜} (hv : 0 < ∑ s, v s) (s : S) :
    normalise fallback v s = v s / ∑ r, v r := by
  simp [normalise, hv]

theorem normalise_sum {v : S → 𝕜} (hf : ∑ s, fallback s = 1) :
    ∑ s, normalise fallback v s = 1 := by
  unfold normalise
  split
  · next hpos => rw [← Finset.sum_div, div_self hpos.ne']
  · exact hf

variable [IsStrictOrderedRing 𝕜]

theorem normalise_nonneg {v : S → 𝕜} (hf : ∀ s, 0 ≤ fallback s) (hv : ∀ s, 0 ≤ v s) (s : S) :
    0 ≤ normalise fallback v s := by
  unfold normalise
  split
  · next hpos => exact div_nonneg (hv s) hpos.le
  · exact hf s

/-- A positive factor that all weights have scales away. -/
theorem normalise_smul (v : S → 𝕜) {a : 𝕜} (ha : 0 < a) :
    normalise fallback (fun s => a * v s) = normalise fallback v := by
  have hsum : ∑ s, a * v s = a * ∑ s, v s := (Finset.mul_sum ..).symm
  unfold normalise
  simp only [hsum, mul_pos_iff_of_pos_left ha]
  split
  · next hpos =>
    funext s
    rw [mul_div_mul_left _ _ ha.ne']
  · rfl

end Scaling

structure Chain (S O 𝕜 : Type*) where
  init : S → 𝕜
  trans : S → S → 𝕜
  emit : S → O → 𝕜

variable (c : Chain S O 𝕜) (obs : ℕ → O)

/-! ## The weight of the paths -/

/-- The states `p` of the first `n + 1` times, weighed with what is observed along them. -/
def pathWeight (n : ℕ) (p : Fin (n + 1) → S) : 𝕜 :=
  c.init (p 0) * (∏ i : Fin n, c.trans (p i.castSucc) (p i.succ))
    * ∏ i : Fin (n + 1), c.emit (p i) (obs i)

/-- A path that goes on to `s` weighs what it did, times the step to `s` and what `s` emits. -/
theorem pathWeight_snoc (n : ℕ) (p : Fin (n + 1) → S) (s : S) :
    pathWeight c obs (n + 1) (Fin.snoc p s : Fin (n + 2) → S)
      = pathWeight c obs n p * c.trans (p (Fin.last n)) s * c.emit s (obs (n + 1)) := by
  have hstep (i : Fin n) : (Fin.snoc p s : Fin (n + 2) → S) i.castSucc.succ = p i.succ := by
    rw [Fin.succ_castSucc, Fin.snoc_castSucc]
  unfold pathWeight
  rw [Fin.prod_univ_castSucc, Fin.prod_univ_castSucc (n := n + 1)]
  simp only [hstep, Fin.snoc_castSucc, Fin.snoc_last, Fin.succ_last, Fin.val_castSucc,
    Fin.val_last, Fin.snoc_apply_zero]
  ring

variable [Fintype S] [DecidableEq S]

def joint (n : ℕ) (s : S) : 𝕜 :=
  ∑ p : Fin (n + 1) → S with p (Fin.last n) = s, pathWeight c obs n p

def total (n : ℕ) : 𝕜 := ∑ s, joint c obs n s

/-- `total` is the weight of every path there is. -/
theorem total_eq (n : ℕ) : total c obs n = ∑ p : Fin (n + 1) → S, pathWeight c obs n p := by
  simpa only [total, joint] using
    Finset.sum_fiberwise Finset.univ (fun p : Fin (n + 1) → S => p (Fin.last n))
      (pathWeight c obs n)

theorem joint_zero (s : S) : joint c obs 0 s = c.init s * c.emit s (obs 0) := by
  unfold joint
  -- A path of one time is its only state.
  rw [Finset.sum_eq_single (fun _ : Fin 1 => s)]
  · simp [pathWeight]
  · intro p hp hne
    refine absurd (funext fun i => ?_) hne
    simpa [Subsingleton.elim i (Fin.last 0)] using hp
  · simp

/-- The forward recursion: the paths that end in `s` come from the paths that end anywhere. -/
theorem joint_succ (n : ℕ) (s : S) :
    joint c obs (n + 1) s = c.emit s (obs (n + 1)) * ∑ r, joint c obs n r * c.trans r s := by
  have hsplit : joint c obs (n + 1) s
      = ∑ p : Fin (n + 1) → S, pathWeight c obs (n + 1) (Fin.snoc p s : Fin (n + 2) → S) := by
    unfold joint
    rw [Finset.sum_filter, ← (Fin.snocEquiv fun _ => S).sum_comp, Fintype.sum_prod_type]
    simp [Fin.snocEquiv, Finset.sum_ite_eq']
  have hfibre : ∑ p : Fin (n + 1) → S, pathWeight c obs n p * c.trans (p (Fin.last n)) s
      = ∑ r, joint c obs n r * c.trans r s := by
    rw [← Finset.sum_fiberwise Finset.univ (fun p : Fin (n + 1) → S => p (Fin.last n))]
    refine Finset.sum_congr rfl fun r _ => ?_
    rw [joint, Finset.sum_mul]
    exact Finset.sum_congr rfl fun p hp => by rw [(Finset.mem_filter.mp hp).2]
  rw [hsplit, ← hfibre, Finset.mul_sum]
  exact Finset.sum_congr rfl fun p _ => by rw [pathWeight_snoc]; ring

section Ordered

variable [LinearOrder 𝕜] [IsStrictOrderedRing 𝕜]

structure Chain.Nonneg (c : Chain S O 𝕜) : Prop where
  init : ∀ s, 0 ≤ c.init s
  trans : ∀ r s, 0 ≤ c.trans r s
  emit : ∀ s o, 0 ≤ c.emit s o

variable {c} {fallback : S → 𝕜}

theorem joint_nonneg (h : c.Nonneg) (n : ℕ) (s : S) : 0 ≤ joint c obs n s := by
  refine Finset.sum_nonneg fun p _ => ?_
  refine mul_nonneg (mul_nonneg (h.init _) ?_) ?_
  · exact Finset.prod_nonneg fun i _ => h.trans _ _
  · exact Finset.prod_nonneg fun i _ => h.emit _ _

theorem total_nonneg (h : c.Nonneg) (n : ℕ) : 0 ≤ total c obs n :=
  Finset.sum_nonneg fun s _ => joint_nonneg obs h n s

/-- Where no path weighs anything, none does later. -/
theorem total_pos_of_succ (h : c.Nonneg) {n : ℕ} (hn : 0 < total c obs (n + 1)) :
    0 < total c obs n := by
  refine (total_nonneg obs h n).lt_of_ne fun h0 => hn.ne' ?_
  have hz (s : S) : joint c obs n s = 0 :=
    (Finset.sum_eq_zero_iff_of_nonneg fun s _ => joint_nonneg obs h n s).mp h0.symm s
      (Finset.mem_univ s)
  simp [total, joint_succ, hz]

/-! ## The shares of the weight -/

variable (c) in
/-- The share of the weight of all paths that the paths ending in `s` have. -/
def posterior (n : ℕ) (s : S) : 𝕜 := joint c obs n s / total c obs n

omit [IsStrictOrderedRing 𝕜] in
theorem normalise_joint {n : ℕ} (hn : 0 < total c obs n) :
    normalise fallback (joint c obs n) = posterior c obs n :=
  funext fun s => normalise_of_pos hn s

/-- A step of the recursion from the shares instead of the weights ends in the next shares. -/
theorem normalise_predict {n : ℕ} (h : c.Nonneg) (hn : 0 < total c obs (n + 1)) :
    normalise fallback
        (fun s => c.emit s (obs (n + 1)) * ∑ r, posterior c obs n r * c.trans r s)
      = posterior c obs (n + 1) := by
  have hpos := total_pos_of_succ obs h hn
  have hscale (s : S) : c.emit s (obs (n + 1)) * ∑ r, posterior c obs n r * c.trans r s
      = (total c obs n)⁻¹ * joint c obs (n + 1) s := by
    rw [joint_succ, Finset.mul_sum, Finset.mul_sum, Finset.mul_sum]
    refine Finset.sum_congr rfl fun r _ => ?_
    rw [posterior, div_eq_mul_inv]
    ring
  simp only [hscale]
  rw [normalise_smul _ (inv_pos.mpr hpos), normalise_joint obs hn]

/-- Where every state emits something and steps to something, a chain that starts in something
never runs out of weight. -/
theorem total_pos (h : c.Nonneg) (hinit : ∃ s, 0 < c.init s) (htrans : ∀ r, ∃ s, 0 < c.trans r s)
    (hemit : ∀ s o, 0 < c.emit s o) (n : ℕ) : 0 < total c obs n := by
  have hreach : ∃ s, 0 < joint c obs n s := by
    induction n with
    | zero =>
      obtain ⟨s, hs⟩ := hinit
      exact ⟨s, by rw [joint_zero]; exact mul_pos hs (hemit s _)⟩
    | succ n ih =>
      obtain ⟨r, hr⟩ := ih
      obtain ⟨s, hs⟩ := htrans r
      refine ⟨s, ?_⟩
      rw [joint_succ]
      refine mul_pos (hemit s _) (Finset.sum_pos' (fun t _ => ?_) ⟨r, Finset.mem_univ r, ?_⟩)
      · exact mul_nonneg (joint_nonneg obs h n t) (h.trans t s)
      · exact mul_pos hr hs
  obtain ⟨s, hs⟩ := hreach
  exact Finset.sum_pos' (fun t _ => joint_nonneg obs h n t) ⟨s, Finset.mem_univ s, hs⟩

end Ordered

end BptCore.Lib.ForwardFilter
