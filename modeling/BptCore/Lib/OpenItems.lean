import Mathlib.Algebra.Order.BigOperators.Group.Multiset
import Mathlib.Algebra.Order.Group.Multiset
import Mathlib.Tactic.GCongr

/-!
# Open items

Items that are open under a key, each served in parts until it is closed or leaves. The open items
are a multiset: nothing depends on where a system keeps them, nor on which it serves first.

* **`Service`** — what serves an item, and what that makes of it.
* **`Moves`** — from open items to open items, with what was served on the way, in order.
* **`Moves.sum_le`** — the accounting rule: what serves the items comes out of them.
* **`Moves.history`** — the induction rule: what every move keeps, of the items and of what was
  served so far, any moves keep.
* **`Course`**, **`Moves.tracks`** — the course of one item, picked out of any moves by its key.
-/

namespace OpenItems

/-- How items are served. -/
structure Service (I F K : Type*) where
  key : I → K
  target : F → K
  Fits : I → F → Prop
  closes : F → Bool
  after : I → F → I
  target_of_fits : ∀ {i f}, Fits i f → target f = key i
  key_after : ∀ i f, key (after i f) = key i

variable {I F K : Type*} (S : Service I F K)

/-- Open items are served, close when they are served out, or leave, as long as `L` lets those of
their key. -/
inductive Moves (L : K → Prop) : Multiset I → List F → Multiset I → Prop
  | done (s : Multiset I) : Moves L s [] s
  | serve {i : I} {f : F} {rest t : Multiset I} {fs : List F} (hfits : S.Fits i f)
      (hopen : S.closes f = false) (h : Moves L (S.after i f ::ₘ rest) fs t) :
      Moves L (i ::ₘ rest) (f :: fs) t
  | close {i : I} {f : F} {rest t : Multiset I} {fs : List F} (hfits : S.Fits i f)
      (hclosed : S.closes f = true) (h : Moves L rest fs t) : Moves L (i ::ₘ rest) (f :: fs) t
  | leave {i : I} {rest t : Multiset I} {fs : List F} (hleave : L (S.key i))
      (h : Moves L rest fs t) : Moves L (i ::ₘ rest) fs t

/-- The keys of open items. -/
def keys (s : Multiset I) : Multiset K := s.map S.key

variable {S} {L : K → Prop} {s t u : Multiset I} {fs gs : List F}

theorem Moves.trans (h : Moves S L s fs t) (h' : Moves S L t gs u) : Moves S L s (fs ++ gs) u := by
  induction h with
  | done s => exact h'
  | serve hfits hopen _ ih => exact .serve hfits hopen (ih h')
  | close hfits hclosed _ ih => exact .close hfits hclosed (ih h')
  | leave hleave _ ih => exact .leave hleave (ih h')

/-- Other open items stay out of it. -/
theorem Moves.frame (h : Moves S L s fs t) (u : Multiset I) : Moves S L (s + u) fs (t + u) := by
  induction h with
  | done s => exact .done _
  | serve hfits hopen _ ih =>
    rw [Multiset.cons_add] at ih ⊢
    exact .serve hfits hopen ih
  | close hfits hclosed _ ih =>
    rw [Multiset.cons_add]
    exact .close hfits hclosed ih
  | leave hleave _ ih =>
    rw [Multiset.cons_add]
    exact .leave hleave ih

/-- Open items leave. -/
theorem Moves.leave_all (u : Multiset I) (hs : ∀ i ∈ s, L (S.key i)) : Moves S L (s + u) [] u := by
  induction s using Multiset.induction_on with
  | empty => rw [Multiset.zero_add]; exact .done u
  | cons i s ih =>
    rw [Multiset.cons_add]
    exact .leave (hs i (Multiset.mem_cons_self i s))
      (ih fun j hj => hs j (Multiset.mem_cons_of_mem hj))

theorem keys_cons (i : I) (s : Multiset I) : keys S (i ::ₘ s) = S.key i ::ₘ keys S s :=
  Multiset.map_cons _ _ _

/-- No key comes in. -/
theorem Moves.keys_le (h : Moves S L s fs t) : keys S t ≤ keys S s := by
  induction h with
  | done s => exact le_refl _
  | serve hfits _ _ ih =>
    rw [keys_cons, S.key_after] at ih
    rw [keys_cons]
    exact ih
  | close _ _ _ ih =>
    rw [keys_cons]
    exact ih.trans (Multiset.le_cons_self _ _)
  | leave _ _ ih =>
    rw [keys_cons]
    exact ih.trans (Multiset.le_cons_self _ _)

/-- The key of an open item, by itself, is no other's. -/
theorem key_notMem {i : I} {rest : Multiset I} (h : (keys S (i ::ₘ rest)).Nodup) :
    S.key i ∉ keys S rest := by
  rw [keys_cons] at h
  exact (Multiset.nodup_cons.mp h).1

/-- **The history rule.** A property of what was served so far and of what is open, under distinct
keys, that every single move keeps. -/
theorem Moves.history {J : List F → Multiset I → Prop} (h : Moves S L s fs t)
    (hserve : ∀ hist i f rest, (keys S (i ::ₘ rest)).Nodup → S.Fits i f → S.closes f = false →
      J hist (i ::ₘ rest) → J (hist ++ [f]) (S.after i f ::ₘ rest))
    (hclose : ∀ hist i f rest, (keys S (i ::ₘ rest)).Nodup → S.Fits i f → S.closes f = true →
      J hist (i ::ₘ rest) → J (hist ++ [f]) rest)
    (hleave : ∀ hist i rest, (keys S (i ::ₘ rest)).Nodup → J hist (i ::ₘ rest) → J hist rest)
    {hist : List F} (hkeys : (keys S s).Nodup) (hJ : J hist s) : J (hist ++ fs) t := by
  induction h generalizing hist with
  | done s => rwa [List.append_nil]
  | @serve i f rest t fs hfits hopen _ ih =>
    have hnext := ih (by rwa [keys_cons, S.key_after, ← keys_cons])
      (hserve hist i f rest hkeys hfits hopen hJ)
    rwa [List.append_assoc] at hnext
  | @close i f rest t fs hfits hclosed _ ih =>
    have hnext := ih (by rw [keys_cons] at hkeys; exact (Multiset.nodup_cons.mp hkeys).2)
      (hclose hist i f rest hkeys hfits hclosed hJ)
    rwa [List.append_assoc] at hnext
  | @leave i rest t fs _ _ ih =>
    exact ih (by rw [keys_cons] at hkeys; exact (Multiset.nodup_cons.mp hkeys).2)
      (hleave hist i rest hkeys hJ)

/-- What serves the open items is aimed at one of them. -/
theorem Moves.target_mem_keys (h : Moves S L s fs t) : ∀ f ∈ fs, S.target f ∈ keys S s := by
  induction h with
  | done s => exact fun f hf => absurd hf List.not_mem_nil
  | @serve i f rest t fs hfits _ _ ih =>
    rw [keys_cons, S.key_after, ← keys_cons] at ih
    intro f' hf'
    rcases List.mem_cons.mp hf' with rfl | hf'
    · rw [S.target_of_fits hfits, keys_cons]
      exact Multiset.mem_cons_self _ _
    · exact ih f' hf'
  | @close i f rest t fs hfits _ _ ih =>
    intro f' hf'
    rw [keys_cons]
    rcases List.mem_cons.mp hf' with rfl | hf'
    · rw [S.target_of_fits hfits]
      exact Multiset.mem_cons_self _ _
    · exact Multiset.mem_cons_of_mem (ih f' hf')
  | @leave i rest t fs _ _ ih =>
    intro f' hf'
    rw [keys_cons]
    exact Multiset.mem_cons_of_mem (ih f' hf')

/-- A property of single items that serving keeps. -/
theorem Moves.forall {P : I → Prop} (h : Moves S L s fs t) (hafter : ∀ i f, P i → P (S.after i f))
    (hs : ∀ i ∈ s, P i) : ∀ i ∈ t, P i := by
  induction h with
  | done s => exact hs
  | @serve i f rest t fs _ _ _ ih =>
    refine ih fun j hj => ?_
    rcases Multiset.mem_cons.mp hj with rfl | hj
    · exact hafter i f (hs i (Multiset.mem_cons_self i rest))
    · exact hs j (Multiset.mem_cons_of_mem hj)
  | close _ _ _ ih => exact ih fun j hj => hs j (Multiset.mem_cons_of_mem hj)
  | leave _ _ ih => exact ih fun j hj => hs j (Multiset.mem_cons_of_mem hj)

/-- An open item stays open, is closed, or is one that may leave. -/
theorem Moves.mem_keys_cases (h : Moves S L s fs t) {k : K} (hk : k ∈ keys S s) :
    k ∈ keys S t ∨ (∃ f ∈ fs, S.target f = k ∧ S.closes f = true) ∨ L k := by
  induction h with
  | done s => exact Or.inl hk
  | @serve i f rest t fs hfits _ _ ih =>
    rw [keys_cons, S.key_after, ← keys_cons] at ih
    rcases ih hk with hopen | ⟨f', hf', hclosed⟩ | hleft
    · exact Or.inl hopen
    · exact Or.inr (Or.inl ⟨f', List.mem_cons_of_mem f hf', hclosed⟩)
    · exact Or.inr (Or.inr hleft)
  | @close i f rest t fs hfits hclosed _ ih =>
    rw [keys_cons] at hk
    rcases Multiset.mem_cons.mp hk with rfl | hk
    · exact Or.inr (Or.inl ⟨f, List.mem_cons_self, S.target_of_fits hfits, hclosed⟩)
    · rcases ih hk with hopen | ⟨f', hf', hclosed⟩ | hleft
      · exact Or.inl hopen
      · exact Or.inr (Or.inl ⟨f', List.mem_cons_of_mem f hf', hclosed⟩)
      · exact Or.inr (Or.inr hleft)
  | leave hleave _ ih =>
    rw [keys_cons] at hk
    rcases Multiset.mem_cons.mp hk with rfl | hk
    · exact Or.inr (Or.inr hleave)
    · exact ih hk

/-- An item that is served out is not open any more. -/
theorem Moves.target_notMem_of_closes (h : Moves S L s fs t) (hkeys : (keys S s).Nodup) {f : F}
    (hf : f ∈ fs) (hclosed : S.closes f = true) : S.target f ∉ keys S t := by
  induction h with
  | done s => exact absurd hf List.not_mem_nil
  | @serve i g rest t fs hfits hopen _ ih =>
    rcases List.mem_cons.mp hf with rfl | hf
    · exact absurd (hclosed.symm.trans hopen) Bool.false_ne_true.symm
    · exact ih (by rwa [keys_cons, S.key_after, ← keys_cons]) hf
  | @close i g rest t fs hfits _ hmore ih =>
    have hrest : (keys S rest).Nodup := by
      rw [keys_cons] at hkeys
      exact (Multiset.nodup_cons.mp hkeys).2
    rcases List.mem_cons.mp hf with rfl | hf
    · rw [S.target_of_fits hfits]
      exact fun hopen => key_notMem hkeys (Multiset.mem_of_le hmore.keys_le hopen)
    · exact ih hrest hf
  | leave _ _ ih =>
    rw [keys_cons] at hkeys
    exact ih (Multiset.nodup_cons.mp hkeys).2 hf

/-- What serves the items is an item's, and what is left of them is no more than the rest. -/
theorem Moves.sum_le {M : Type*} [AddCommMonoid M] [PartialOrder M] [IsOrderedAddMonoid M]
    {w : I → M} {v : F → M} (h : Moves S L s fs t)
    (hserve : ∀ i f, S.Fits i f → S.closes f = false → v f + w (S.after i f) ≤ w i)
    (hclose : ∀ i f, S.Fits i f → S.closes f = true → v f ≤ w i) (hleave : ∀ i, 0 ≤ w i) :
    (fs.map v).sum + (t.map w).sum ≤ (s.map w).sum := by
  induction h with
  | done s => exact le_of_eq (zero_add _)
  | @serve i f rest t fs hfits hopen _ ih =>
    rw [Multiset.map_cons, Multiset.sum_cons] at ih
    rw [List.map_cons, List.sum_cons, Multiset.map_cons, Multiset.sum_cons, add_assoc]
    calc v f + ((fs.map v).sum + (t.map w).sum)
        ≤ v f + (w (S.after i f) + (rest.map w).sum) := by gcongr
      _ = v f + w (S.after i f) + (rest.map w).sum := (add_assoc _ _ _).symm
      _ ≤ w i + (rest.map w).sum := by gcongr; exact hserve i f hfits hopen
  | @close i f rest t fs hfits hclosed _ ih =>
    rw [List.map_cons, List.sum_cons, Multiset.map_cons, Multiset.sum_cons, add_assoc]
    exact add_le_add (hclose i f hfits hclosed) ih
  | @leave i rest t fs _ _ ih =>
    rw [Multiset.map_cons, Multiset.sum_cons]
    exact ih.trans (le_add_of_nonneg_left (hleave i))

/-! ## One item -/

/-- The course of an item: what served it, in order, and what it has come to, if it is still open.
-/
inductive Course (S : Service I F K) (i₀ : I) : List F → Option I → Prop
  | opened : Course S i₀ [] (some i₀)
  | serve {fs : List F} {i : I} {f : F} (h : Course S i₀ fs (some i)) (hfits : S.Fits i f)
      (hopen : S.closes f = false) : Course S i₀ (fs ++ [f]) (some (S.after i f))
  | close {fs : List F} {i : I} {f : F} (h : Course S i₀ fs (some i)) (hfits : S.Fits i f)
      (hclosed : S.closes f = true) : Course S i₀ (fs ++ [f]) none
  | leave {fs : List F} {i : I} (h : Course S i₀ fs (some i)) : Course S i₀ fs none

theorem Course.key_eq {i₀ i : I} (h : Course S i₀ fs (some i)) : S.key i = S.key i₀ := by
  generalize hst : some i = st at h
  induction h generalizing i with
  | opened => cases hst; rfl
  | serve _ _ _ ih => cases hst; rw [S.key_after, ih rfl]
  | close => cases hst
  | leave => cases hst

section Tracks

variable [DecidableEq K]

/-- What served the items of one key, in order. -/
def servedOf (S : Service I F K) (k : K) (hist : List F) : List F :=
  hist.filter fun f => S.target f = k

/-- What was served so far, and what is open, agree with the course of the item. -/
def Tracks (S : Service I F K) (i₀ : I) (hist : List F) (s : Multiset I) : Prop :=
  (∃ i ∈ s, Course S i₀ (servedOf S (S.key i₀) hist) (some i)) ∨
    (Course S i₀ (servedOf S (S.key i₀) hist) none ∧ S.key i₀ ∉ keys S s)

variable {i₀ i : I} {hist : List F} {rest : Multiset I}

theorem servedOf_append (k : K) (hist hist' : List F) :
    servedOf S k (hist ++ hist') = servedOf S k hist ++ servedOf S k hist' :=
  List.filter_append _ _

theorem servedOf_singleton {k : K} {f : F} (h : S.target f = k) : servedOf S k [f] = [f] :=
  List.filter_cons_of_pos (decide_eq_true h)

theorem servedOf_singleton_ne {k : K} {f : F} (h : S.target f ≠ k) : servedOf S k [f] = [] :=
  List.filter_cons_of_neg (by rwa [decide_eq_true_iff])

/-- An open item is the tracked one, or has nothing to do with it. -/
theorem Tracks.cons_cases (h : Tracks S i₀ hist (i ::ₘ rest))
    (hkeys : (keys S (i ::ₘ rest)).Nodup) :
    (S.key i = S.key i₀ ∧ Course S i₀ (servedOf S (S.key i₀) hist) (some i)) ∨
      (S.key i ≠ S.key i₀ ∧ Tracks S i₀ hist rest) := by
  rcases h with ⟨j, hj, hcourse⟩ | ⟨hcourse, hnot⟩
  · rcases Multiset.mem_cons.mp hj with rfl | hj
    · exact Or.inl ⟨hcourse.key_eq, hcourse⟩
    · refine Or.inr ⟨fun heq => key_notMem hkeys ?_, Or.inl ⟨j, hj, hcourse⟩⟩
      rw [heq, ← hcourse.key_eq]
      exact Multiset.mem_map_of_mem S.key hj
  · rw [keys_cons, Multiset.mem_cons, not_or] at hnot
    exact Or.inr ⟨fun heq => hnot.1 heq.symm, Or.inr ⟨hcourse, hnot.2⟩⟩

/-- Another item comes in, or something is served that is not of the tracked item's key. -/
theorem Tracks.cons (h : Tracks S i₀ hist rest) (hne : S.key i ≠ S.key i₀) :
    Tracks S i₀ hist (i ::ₘ rest) := by
  rcases h with ⟨j, hj, hcourse⟩ | ⟨hcourse, hnot⟩
  · exact Or.inl ⟨j, Multiset.mem_cons_of_mem hj, hcourse⟩
  · refine Or.inr ⟨hcourse, ?_⟩
    rw [keys_cons, Multiset.mem_cons, not_or]
    exact ⟨fun heq => hne heq.symm, hnot⟩

theorem Tracks.append_of_ne {f : F} (h : Tracks S i₀ hist s) (hne : S.target f ≠ S.key i₀) :
    Tracks S i₀ (hist ++ [f]) s := by
  unfold Tracks at *
  rwa [servedOf_append, servedOf_singleton_ne hne, List.append_nil]

/-- **Any moves stay on the course of an item.** -/
theorem Moves.tracks (h : Moves S L s fs t) (hkeys : (keys S s).Nodup)
    (htracks : Tracks S i₀ hist s) : Tracks S i₀ (hist ++ fs) t := by
  refine h.history (J := Tracks S i₀) ?_ ?_ ?_ hkeys htracks
  · intro hist i f rest hnodup hfits hopen hJ
    rcases hJ.cons_cases hnodup with ⟨heq, hcourse⟩ | ⟨hne, hrest⟩
    · refine Or.inl ⟨S.after i f, Multiset.mem_cons_self _ _, ?_⟩
      rw [servedOf_append, servedOf_singleton ((S.target_of_fits hfits).trans heq)]
      exact hcourse.serve hfits hopen
    · refine Tracks.cons (hrest.append_of_ne ?_) ?_
      · rwa [S.target_of_fits hfits]
      · rwa [S.key_after]
  · intro hist i f rest hnodup hfits hclosed hJ
    rcases hJ.cons_cases hnodup with ⟨heq, hcourse⟩ | ⟨hne, hrest⟩
    · refine Or.inr ⟨?_, heq ▸ key_notMem hnodup⟩
      rw [servedOf_append, servedOf_singleton ((S.target_of_fits hfits).trans heq)]
      exact hcourse.close hfits hclosed
    · exact hrest.append_of_ne (by rwa [S.target_of_fits hfits])
  · intro hist i rest hnodup hJ
    rcases hJ.cons_cases hnodup with ⟨heq, hcourse⟩ | ⟨-, hrest⟩
    · exact Or.inr ⟨hcourse.leave, heq ▸ key_notMem hnodup⟩
    · exact hrest

/-- Nothing is served under a key that is not open. -/
theorem Moves.servedOf_eq_nil (h : Moves S L s fs t) {k : K} (hk : k ∉ keys S s) :
    servedOf S k fs = [] := by
  induction h with
  | done s => rfl
  | @serve i f rest t fs hfits _ _ ih =>
    rw [keys_cons, Multiset.mem_cons, not_or] at hk
    have hne : S.target f ≠ k := fun heq => hk.1 (heq.symm.trans (S.target_of_fits hfits))
    rw [← List.singleton_append, servedOf_append, servedOf_singleton_ne hne, List.nil_append]
    refine ih ?_
    rw [keys_cons, Multiset.mem_cons, not_or, S.key_after]
    exact hk
  | @close i f rest t fs hfits _ _ ih =>
    rw [keys_cons, Multiset.mem_cons, not_or] at hk
    have hne : S.target f ≠ k := fun heq => hk.1 (heq.symm.trans (S.target_of_fits hfits))
    rw [← List.singleton_append, servedOf_append, servedOf_singleton_ne hne, List.nil_append]
    exact ih hk.2
  | leave _ _ ih =>
    rw [keys_cons, Multiset.mem_cons, not_or] at hk
    exact ih hk.2

end Tracks

end OpenItems
