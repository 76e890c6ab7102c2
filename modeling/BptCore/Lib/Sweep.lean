import BptCore.Lib.Machine

/-!
# Going through a list in place

A loop over the entries of a container that may change every entry and the state around it is a
run of the machine that takes the entries as its events and emits what becomes of them. This
module owns the two loops of that kind, and how an invariant of state and container passes through
them.

* **`sweep`** — every entry in turn.
* **`sweep_induction`** — the invariant rule, for entries that each meet an assumption which the
  turns of the others leave alone.
* **`forall_mem_sweep_iff`** — what every entry becomes.
* **`updateFirst`** — the first entry that is found, and no other.
* **`updateFirst_cases`** — the container before and after.
-/

namespace Sweep

universe u v

variable {σ : Type u} {α : Type v} (f : σ → α → σ × α)

/-- One turn of the loop. -/
def visit (s : σ) (a : α) : σ × List α := ((f s a).1, [(f s a).2])

/-- The state and the entries after the loop. -/
def sweep (s : σ) (l : List α) : σ × List α :=
  (Machine.exec (visit f) s l, Machine.outputs (visit f) s l)

theorem sweep_cons (s : σ) (a : α) (l : List α) :
    sweep f s (a :: l) =
      ((sweep f (f s a).1 l).1, (f s a).2 :: (sweep f (f s a).1 l).2) := rfl

variable {f}

/-- **The invariant rule.** At the turn of an entry the ones before it are done, and the ones
behind it are as they were. -/
theorem sweep_induction {I : σ → List α → Prop} {D : σ → α → Prop}
    (hstep : ∀ s pre a post, I s (pre ++ a :: post) → D s a →
      I (f s a).1 (pre ++ (f s a).2 :: post))
    (hframe : ∀ s pre a post, I s (pre ++ a :: post) → D s a →
      ∀ b ∈ post, D s b → D (f s a).1 b)
    {s : σ} {l : List α} (hI : I s l) (hD : ∀ a ∈ l, D s a) :
    I (sweep f s l).1 (sweep f s l).2 := by
  suffices h : ∀ pre, I s (pre ++ l) → I (sweep f s l).1 (pre ++ (sweep f s l).2) from h [] hI
  clear hI
  induction l generalizing s with
  | nil => exact fun pre h => h
  | cons a l ih =>
    intro pre hI
    have ha : D s a := hD a List.mem_cons_self
    have hrest : ∀ b ∈ l, D (f s a).1 b := fun b hb =>
      hframe s pre a l hI ha b hb (hD b (List.mem_cons_of_mem a hb))
    -- the entry is done: it joins the ones before
    have hnext := ih hrest (pre ++ [(f s a).2])
    rw [List.append_assoc, List.append_assoc, List.singleton_append] at hnext
    exact hnext (hstep s pre a l hI ha)

/-- Every entry becomes something with `Q` exactly when every turn makes such a thing of it. -/
theorem forall_mem_sweep_iff {Q : α → Prop} {s : σ} {l : List α} :
    (∀ a ∈ (sweep f s l).2, Q a) ↔ Machine.AlongRun (visit f) (fun s a => Q (f s a).2) s l := by
  rw [sweep, Machine.forall_outputs_iff_alongRun]
  simp only [visit, List.mem_singleton, forall_eq]

/-- What no turn changes of an entry, the loop does not change. -/
theorem map_sweep {β : Type*} {g : α → β} (hg : ∀ s a, g (f s a).2 = g a) (s : σ) (l : List α) :
    (sweep f s l).2.map g = l.map g := by
  induction l generalizing s with
  | nil => rfl
  | cons a l ih => rw [sweep_cons, List.map_cons, List.map_cons, hg, ih]

/-- An entry that no turn of its own changes is there after the loop. -/
theorem mem_sweep_of_fixed {a : α} (ha : ∀ s, (f s a).2 = a) {l : List α} (hmem : a ∈ l) (s : σ) :
    a ∈ (sweep f s l).2 := by
  induction l generalizing s with
  | nil => exact absurd hmem List.not_mem_nil
  | cons b l ih =>
    rw [sweep_cons]
    rcases List.mem_cons.mp hmem with rfl | hmem
    · rw [ha s]
      exact List.mem_cons_self
    · exact List.mem_cons_of_mem _ (ih hmem (f s b).1)

/-! ## The first entry that is found -/

variable (f)

/-- The loop that looks for an entry with `p`, handles it and returns. -/
def updateFirst (p : α → Bool) (s : σ) : List α → σ × List α
  | [] => (s, [])
  | a :: l =>
    if p a then ((f s a).1, (f s a).2 :: l)
    else ((updateFirst p s l).1, a :: (updateFirst p s l).2)

variable {f}

/-- Either no entry is found and nothing happens, or the first one found is handled. -/
theorem updateFirst_cases (p : α → Bool) (s : σ) (l : List α) :
    ((∀ a ∈ l, ¬ p a) ∧ updateFirst f p s l = (s, l)) ∨
      ∃ pre a post, l = pre ++ a :: post ∧ p a ∧
        updateFirst f p s l = ((f s a).1, pre ++ (f s a).2 :: post) := by
  induction l with
  | nil => exact Or.inl ⟨fun a ha => absurd ha List.not_mem_nil, rfl⟩
  | cons a l ih =>
    by_cases hp : p a
    · exact Or.inr ⟨[], a, l, rfl, hp, if_pos hp⟩
    · rw [updateFirst, if_neg hp]
      rcases ih with ⟨hnone, heq⟩ | ⟨pre, b, post, rfl, hb, heq⟩
      · rw [heq]
        exact Or.inl ⟨List.forall_mem_cons.mpr ⟨hp, hnone⟩, rfl⟩
      · rw [heq]
        exact Or.inr ⟨a :: pre, b, post, rfl, hb, rfl⟩

/-- What the handler does not change of an entry, the loop does not change. -/
theorem map_updateFirst {β : Type*} {g : α → β} (hg : ∀ s a, g (f s a).2 = g a) (p : α → Bool)
    (s : σ) (l : List α) : (updateFirst f p s l).2.map g = l.map g := by
  rcases updateFirst_cases (f := f) p s l with ⟨-, heq⟩ | ⟨pre, a, post, rfl, -, heq⟩
  · rw [heq]
  · simp only [heq, List.map_append, List.map_cons, hg]

end Sweep
