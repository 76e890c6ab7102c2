import Mathlib.Data.List.Perm.Subperm
import BptCore.Lib.Machine

/-!
# Numbers handed out once

A program numbers what it makes by a counter, keeps some of it for later and gives each away at some
time. `f` reads the number of an emission that gives one away, `held` are the numbers of what is
kept, and `next` is the counter.

* **`Fresh`** — what is kept has different numbers, all below the counter.
* **`outputs_nodup`** — the run rule: when no step makes a number up or keeps one that it gives
  away, no number is given away twice.
-/

namespace Machine

universe u v w

variable {σ : Type u} {ε : Type v} {ο : Type w} {step : σ → ε → σ × List ο}
  {f : ο → Option Nat} {held : σ → List Nat} {next : σ → Nat}

/-- What is kept has different numbers, and the counter is past them. -/
def Fresh (held : σ → List Nat) (next : σ → Nat) (s : σ) : Prop :=
  (held s).Nodup ∧ ∀ n ∈ held s, n < next s

/-- What a step gives away and keeps was kept before it or is new. -/
structure HandsOut (f : ο → Option Nat) (held : σ → List Nat) (next : σ → Nat) (s : σ)
    (r : σ × List ο) : Prop where
  nodup : (r.2.filterMap f ++ held r.1).Nodup
  origin : ∀ n ∈ r.2.filterMap f ++ held r.1, n ∈ held s ∨ next s ≤ n
  bound : ∀ n ∈ r.2.filterMap f ++ held r.1, n < next r.1
  mono : next s ≤ next r.1

theorem HandsOut.fresh {s : σ} {r : σ × List ο} (h : HandsOut f held next s r) :
    Fresh held next r.1 :=
  ⟨(List.nodup_append.mp h.nodup).2.1, fun n hn => h.bound n (List.mem_append_right _ hn)⟩

/-- A step that only gives away some of what was kept. -/
theorem HandsOut.of_subperm {s : σ} {r : σ × List ο} (hs : Fresh held next s)
    (hsub : List.Subperm (r.2.filterMap f ++ held r.1) (held s)) (hmono : next s ≤ next r.1) :
    HandsOut f held next s r where
  nodup := by
    obtain ⟨l, hperm, hsublist⟩ := hsub
    exact hperm.nodup_iff.mp (hsublist.nodup hs.1)
  origin n hn := .inl (hsub.subset hn)
  bound n hn := Nat.lt_of_lt_of_le (hs.2 n (hsub.subset hn)) hmono
  mono := hmono

/-- The numbers that a run gives away are those kept at its start and later ones, each once. -/
theorem outputs_handed (hstep : ∀ s e, Fresh held next s → HandsOut f held next s (step s e)) {s : σ}
    (hs : Fresh held next s) (es : List ε) :
    ((outputs step s es).filterMap f).Nodup ∧
      ∀ n ∈ (outputs step s es).filterMap f, n ∈ held s ∨ next s ≤ n := by
  induction es generalizing s with
  | nil => exact ⟨List.nodup_nil, fun n hn => absurd hn List.not_mem_nil⟩
  | cons e es ih =>
    have hone := hstep s e hs
    obtain ⟨hnodup, horigin⟩ := ih hone.fresh
    rw [outputs, List.filterMap_append]
    constructor
    · refine List.nodup_append.mpr ⟨(List.nodup_append.mp hone.nodup).1, hnodup, ?_⟩
      rintro n hnow m hlater rfl
      rcases horigin n hlater with hheld | hnew
      · exact (List.nodup_append.mp hone.nodup).2.2 n hnow n hheld rfl
      · have hlt := hone.bound n (List.mem_append_left _ hnow)
        omega
    · intro n hn
      rcases List.mem_append.mp hn with hnow | hlater
      · exact hone.origin n (List.mem_append_left _ hnow)
      rcases horigin n hlater with hheld | hnew
      · exact hone.origin n (List.mem_append_right _ hheld)
      · exact .inr (Nat.le_trans hone.mono hnew)

/-- **The run rule.** No number is given away twice. -/
theorem outputs_nodup (hstep : ∀ s e, Fresh held next s → HandsOut f held next s (step s e)) {s : σ}
    (hs : Fresh held next s) (es : List ε) : ((outputs step s es).filterMap f).Nodup :=
  (outputs_handed hstep hs es).1

end Machine
