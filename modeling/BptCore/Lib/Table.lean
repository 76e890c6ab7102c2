import Mathlib.Algebra.BigOperators.Group.List.Basic
import Mathlib.Data.List.AList
import Mathlib.Data.List.Perm.Basic

/-!
# Hash tables as association lists

A hash map is a list of entries with distinct keys, Mathlib's `AList`, which carries the
distinctness as a field. What a program asks of a map beyond lookup, insertion and removal is
to go through its values; this module owns the facts about that.

* **`Table.emplace`** — insertion that leaves a held key alone.
* **`Table.countVals`** — how many values satisfy a predicate, and how the number changes when
  an entry is emplaced, overwritten or erased.
* **`Table.sumVals`** — what the values amount to.
* **`Table.AllVals`** — a predicate of every value, kept by the same operations.
* **`Table.ofPairs`** — the table of a list of pairs.
* **`Table.eraseAll`** — erasing a list of keys one after the other.
* **`Table.Inverse`**, **`Table.inverse_insert_iff`** — two tables that invert each other, and
  when writing a pair into both keeps them so.
-/

/-- A map from `K` to `V`, in iteration order. -/
abbrev Table (K : Type*) (V : Type*) := AList fun _ : K => V

namespace Table

open AList

variable {K V : Type*} [DecidableEq K]

/-- `emplace` of a hash map: a held key keeps its value. -/
def emplace (k : K) (v : V) (t : Table K V) : Table K V :=
  if k ∈ t then t else t.insert k v

/-- The values, in iteration order. -/
def vals (t : Table K V) : List V := t.entries.map Sigma.snd

theorem emplace_of_mem {k : K} {v : V} {t : Table K V} (h : k ∈ t) : emplace k v t = t :=
  if_pos h

theorem emplace_of_notMem {k : K} {v : V} {t : Table K V} (h : k ∉ t) :
    emplace k v t = t.insert k v :=
  if_neg h

theorem lookup_emplace (k k' : K) (v : V) (t : Table K V) :
    (emplace k' v t).lookup k = (t.lookup k).or (if k = k' then some v else none) := by
  unfold emplace
  by_cases hin : k' ∈ t
  · rw [if_pos hin]
    by_cases hk : k = k'
    · subst hk
      obtain ⟨w, hw⟩ := Option.isSome_iff_exists.mp (lookup_isSome.mpr hin)
      rw [hw]
      rfl
    · rw [if_neg hk, Option.or_none]
  · rw [if_neg hin]
    by_cases hk : k = k'
    · subst hk
      rw [lookup_insert, lookup_eq_none.mpr hin, if_pos rfl]
      rfl
    · rw [lookup_insert_ne hk, if_neg hk, Option.or_none]

theorem mem_of_lookup {k : K} {v : V} {t : Table K V} (h : t.lookup k = some v) : k ∈ t :=
  lookup_isSome.mp (by rw [h]; rfl)

/-- Looking a key up after erasing one. -/
theorem lookup_erase_eq (k k' : K) (t : Table K V) :
    (t.erase k').lookup k = if k = k' then none else t.lookup k := by
  by_cases h : k = k'
  · subst h; simp
  · rw [if_neg h, lookup_erase_ne h]

/-- Looking a key up after an insertion. -/
theorem lookup_insert_eq (k k' : K) (v : V) (t : Table K V) :
    (t.insert k' v).lookup k = if k = k' then some v else t.lookup k := by
  by_cases h : k = k'
  · subst h; simp
  · rw [if_neg h, lookup_insert_ne h]

/-- Erasing a key forgets what was inserted under it last. -/
theorem erase_insert_self (k : K) (v : V) (t : Table K V) : (t.insert k v).erase k = t.erase k :=
  AList.ext (List.kerase_cons_eq rfl)

/-- Erasing a key changes nothing when the key is not held, and only then. -/
theorem erase_eq_self_iff {k : K} {t : Table K V} : t.erase k = t ↔ t.lookup k = none := by
  constructor
  · intro h
    rw [← h, lookup_erase_eq, if_pos rfl]
  · intro h
    exact AList.ext (List.kerase_of_notMem_keys (lookup_eq_none.mp h))

/-! ## Every value -/

/-- Every value of the table satisfies `P`. -/
def AllVals (P : V → Prop) (t : Table K V) : Prop := ∀ k v, t.lookup k = some v → P v

theorem AllVals.empty (P : V → Prop) : AllVals P (∅ : Table K V) := by
  intro k v h
  simp at h

theorem AllVals.insert {P : V → Prop} {t : Table K V} (h : AllVals P t) {v : V} (hv : P v)
    (k : K) : AllVals P (t.insert k v) := by
  intro k' v' hk'
  rw [lookup_insert_eq] at hk'
  split at hk'
  · cases hk'; exact hv
  · exact h k' v' hk'

theorem AllVals.emplace {P : V → Prop} {t : Table K V} (h : AllVals P t) {v : V} (hv : P v)
    (k : K) : AllVals P (emplace k v t) := by
  unfold Table.emplace
  split
  · exact h
  · exact h.insert hv k

theorem AllVals.erase {P : V → Prop} {t : Table K V} (h : AllVals P t) (k : K) :
    AllVals P (t.erase k) := by
  intro k' v' hk'
  rw [lookup_erase_eq] at hk'
  split at hk'
  · cases hk'
  · exact h k' v' hk'

/-! ## Entries against lookups -/

theorem mem_entries_iff {k : K} {v : V} {t : Table K V} :
    (⟨k, v⟩ : Sigma fun _ : K => V) ∈ t.entries ↔ t.lookup k = some v :=
  (mem_lookup_iff (s := t)).symm

theorem mem_vals_iff {v : V} {t : Table K V} : v ∈ vals t ↔ ∃ k, t.lookup k = some v := by
  constructor
  · intro h
    obtain ⟨⟨k, v'⟩, hmem, rfl⟩ := List.mem_map.mp h
    exact ⟨k, mem_entries_iff.mp hmem⟩
  · rintro ⟨k, h⟩
    exact List.mem_map.mpr ⟨⟨k, v⟩, mem_entries_iff.mpr h, rfl⟩

/-- When every value knows its key, the values yield the keys, which are distinct. -/
theorem map_vals_eq_keys {f : V → K} {t : Table K V}
    (h : ∀ k v, t.lookup k = some v → f v = k) : (vals t).map f = t.keys := by
  rw [vals, List.map_map]
  refine List.map_congr_left fun e he => ?_
  exact h e.1 e.2 (mem_entries_iff.mp he)

/-- When every value knows its key, the value that knows a key is the one held under it. -/
theorem find?_vals {f : V → K} {t : Table K V} (h : ∀ k v, t.lookup k = some v → f v = k) (k : K) :
    (vals t).find? (fun v => f v == k) = t.lookup k := by
  cases hk : t.lookup k with
  | none =>
    refine List.find?_eq_none.mpr fun v hv hfound => ?_
    obtain ⟨k', hk'⟩ := mem_vals_iff.mp hv
    rw [h k' v hk', beq_iff_eq] at hfound
    rw [hfound, hk] at hk'
    cases hk'
  | some v =>
    have hsome : ((vals t).find? fun v => f v == k).isSome = true := by
      refine List.find?_isSome.mpr ⟨v, mem_vals_iff.mpr ⟨k, hk⟩, ?_⟩
      rw [h k v hk, beq_self_eq_true]
    obtain ⟨w, hw⟩ := Option.isSome_iff_exists.mp hsome
    obtain ⟨k', hk'⟩ := mem_vals_iff.mp (List.mem_of_find?_eq_some hw)
    have hkey := List.find?_some hw
    rw [h k' w hk', beq_iff_eq] at hkey
    rw [hw, ← hk', hkey, hk]

/-- Taking an entry out of the table takes its value out of the values. -/
theorem vals_perm_of_lookup {t : Table K V} {k : K} {v : V} (h : t.lookup k = some v) :
    (vals t).Perm (v :: vals (t.erase k)) := by
  obtain ⟨v', l₁, l₂, -, ht, her⟩ := List.exists_of_kerase (mem_keys.mp (mem_of_lookup h))
  -- the entry that `erase` takes out is the one `lookup` finds
  have hv : v' = v := by
    have hmem : t.lookup k = some v' := mem_entries_iff.mp (by rw [ht]; simp)
    exact Option.some.inj (hmem.symm.trans h)
  subst hv
  have herase : (t.erase k).entries = l₁ ++ l₂ := her
  rw [vals, vals, ht, herase, List.map_append, List.map_append]
  exact List.perm_middle

theorem vals_insert (k : K) (v : V) (t : Table K V) :
    vals (t.insert k v) = v :: vals (t.erase k) := rfl

/-! ## Counting values -/

/-- How many values satisfy `p`. -/
def countVals (p : V → Bool) (t : Table K V) : Nat := (vals t).countP p

/-- Taking an entry out of the table lowers the count by what its value counted for. -/
theorem countVals_of_lookup {p : V → Bool} {t : Table K V} {k : K} {v : V}
    (h : t.lookup k = some v) :
    countVals p t = countVals p (t.erase k) + if p v then 1 else 0 := by
  rw [countVals, (vals_perm_of_lookup h).countP_eq, List.countP_cons]
  rfl

/-- Inserting a value adds it to the count of the table without its key. -/
theorem countVals_insert (p : V → Bool) (k : K) (v : V) (t : Table K V) :
    countVals p (t.insert k v) = countVals p (t.erase k) + if p v then 1 else 0 := by
  rw [countVals, vals_insert, List.countP_cons]
  rfl

theorem erase_of_notMem {k : K} {t : Table K V} (h : k ∉ t) : t.erase k = t :=
  AList.ext (List.kerase_of_notMem_keys (mt mem_keys.mpr h))

/-- Overwriting a value by one that counts alike leaves the count. -/
theorem countVals_insert_of_lookup {p : V → Bool} {t : Table K V} {k : K} {v v' : V}
    (h : t.lookup k = some v) (hp : p v' = p v) :
    countVals p (t.insert k v') = countVals p t := by
  rw [countVals_insert, countVals_of_lookup h, hp]

theorem countVals_emplace_of_notMem {p : V → Bool} {t : Table K V} {k : K} (v : V)
    (h : k ∉ t) : countVals p (emplace k v t) = countVals p t + if p v then 1 else 0 := by
  rw [emplace_of_notMem h, countVals_insert, erase_of_notMem h]

/-! ## Summing values -/

section Sum

variable {M : Type*} [AddCommMonoid M]

/-- What the values amount to. -/
def sumVals (f : V → M) (t : Table K V) : M := ((vals t).map f).sum

theorem sumVals_of_lookup (f : V → M) {t : Table K V} {k : K} {v : V}
    (h : t.lookup k = some v) : sumVals f t = f v + sumVals f (t.erase k) := by
  rw [sumVals, ((vals_perm_of_lookup h).map f).sum_eq, List.map_cons, List.sum_cons]
  rfl

theorem sumVals_insert (f : V → M) (k : K) (v : V) (t : Table K V) :
    sumVals f (t.insert k v) = f v + sumVals f (t.erase k) := by
  rw [sumVals, vals_insert, List.map_cons, List.sum_cons]
  rfl

end Sum

/-! ## A list of pairs -/

/-- The pairs of a list inserted one after the other: the last one of a key stays. -/
def ofPairs (l : List (K × V)) : Table K V := l.foldl (fun t p => t.insert p.1 p.2) ∅

theorem lookup_foldl_insert (l : List (K × V)) (t : Table K V) (k : K) :
    (l.foldl (fun t p => t.insert p.1 p.2) t).lookup k =
      (l.reverse.lookup k).or (t.lookup k) := by
  induction l generalizing t with
  | nil => rfl
  | cons p l ih =>
    rw [List.foldl_cons, ih, lookup_insert_eq, List.reverse_cons, List.lookup_append,
      Option.or_assoc]
    congr 1
    by_cases hk : k = p.1
    · rw [if_pos hk, hk, List.lookup_cons_self]
      rfl
    · rw [if_neg hk, List.lookup_cons, beq_false_of_ne hk]
      rfl

theorem lookup_ofPairs (l : List (K × V)) (k : K) :
    (ofPairs l).lookup k = l.reverse.lookup k := by
  rw [ofPairs, lookup_foldl_insert, lookup_empty, Option.or_none]

/-- A key whose pairs all have one value. -/
theorem lookup_ofPairs_of_forall {l : List (K × V)} {k : K} {v : V}
    (h : ∀ p ∈ l, p.1 = k → p.2 = v) :
    (ofPairs l).lookup k = if k ∈ l.map Prod.fst then some v else none := by
  rw [lookup_ofPairs, List.lookup_eq_findSome?]
  by_cases hmem : k ∈ l.map Prod.fst
  · rw [if_pos hmem]
    obtain ⟨p, hp, hk⟩ := List.mem_map.mp hmem
    cases hfound : l.reverse.findSome? fun p => if k == p.1 then some p.2 else none with
    | none =>
      have := List.findSome?_eq_none_iff.mp hfound p (List.mem_reverse.mpr hp)
      simp [hk] at this
    | some w =>
      obtain ⟨q, hq, hw⟩ := List.exists_of_findSome?_eq_some hfound
      split at hw
      · next heq =>
        rw [← Option.some.inj hw, h q (List.mem_reverse.mp hq) (eq_of_beq heq).symm]
      · cases hw
  · rw [if_neg hmem, List.findSome?_eq_none_iff]
    intro p hp
    have hne : k ≠ p.1 := by
      rintro rfl
      exact hmem (List.mem_map_of_mem (List.mem_reverse.mp hp))
    simp [hne]

/-! ## Erasing a list of keys -/

/-- Erase the keys `ks`, one after the other. -/
def eraseAll (t : Table K V) (ks : List K) : Table K V := ks.foldl (fun t k => t.erase k) t

theorem AllVals.eraseAll {P : V → Prop} {t : Table K V} (h : AllVals P t) (ks : List K) :
    AllVals P (eraseAll t ks) := by
  induction ks generalizing t with
  | nil => exact h
  | cons k ks ih => exact ih (h.erase k)

/-! ## Two tables that invert each other -/

section Inverse

variable {L : Type*} [DecidableEq L]

/-- Each table holds the other's entries, turned round. -/
def Inverse (f : Table K L) (g : Table L K) : Prop :=
  ∀ k l, f.lookup k = some l ↔ g.lookup l = some k

theorem inverse_empty : Inverse (∅ : Table K L) ∅ := by
  intro k l
  simp

theorem Inverse.symm {f : Table K L} {g : Table L K} (h : Inverse f g) : Inverse g f :=
  fun l k => (h k l).symm

/-- Taking one pair out of both tables. -/
theorem Inverse.erase {f : Table K L} {g : Table L K} (h : Inverse f g) {k : K} {l : L}
    (hkl : f.lookup k = some l) : Inverse (f.erase k) (g.erase l) := by
  intro k' l'
  rw [lookup_erase_eq, lookup_erase_eq]
  by_cases hk : k' = k
  · subst hk
    rw [if_pos rfl]
    refine iff_of_false (fun hnone => by cases hnone) fun hl' => ?_
    split at hl'
    · cases hl'
    next hne => exact hne (Option.some.inj (((h k' l').mpr hl').symm.trans hkl))
  · rw [if_neg hk]
    by_cases hl : l' = l
    · subst hl
      rw [if_pos rfl]
      refine iff_of_false (fun hk' => ?_) (fun hnone => by cases hnone)
      exact hk (Option.some.inj (((h k' l').mp hk').symm.trans ((h k l').mp hkl)))
    · rw [if_neg hl]
      exact h k' l'

/-- What `k` had to do with before a pair is written must be `l` already: another partner would
still point to `k`. -/
theorem Inverse.eq_of_insert {f : Table K L} {g : Table L K} (h : Inverse f g) {k : K} {l l' : L}
    (hnew : Inverse (f.insert k l) (g.insert l k)) (hold : f.lookup k = some l') : l' = l := by
  by_contra hne
  have hback : (f.insert k l).lookup k = some l' :=
    (hnew k l').mpr (by rw [lookup_insert_eq, if_neg hne]; exact (h k l').mp hold)
  rw [lookup_insert_eq, if_pos rfl] at hback
  exact hne (Option.some.inj hback).symm

/-- Nothing but `l` points to `k`, when `l` has to do with `k` or `k` is free. -/
theorem Inverse.lookup_ne {f : Table K L} {g : Table L K} (h : Inverse f g) {k : K} {l l' : L}
    (hold : f.lookup k = some l ∨ f.lookup k = none) (hne : l' ≠ l) : g.lookup l' ≠ some k := by
  intro hback
  have hl' := (h k l').mpr hback
  rcases hold with hsame | hnone
  · exact hne (Option.some.inj (hl'.symm.trans hsame))
  · rw [hnone] at hl'
    cases hl'

/-- Writing one pair into both tables leaves them inverse when the pair was there already, or
neither side of it was. -/
theorem inverse_insert_iff {f : Table K L} {g : Table L K} (h : Inverse f g) (k : K) (l : L) :
    Inverse (f.insert k l) (g.insert l k) ↔
      f.lookup k = some l ∨ (f.lookup k = none ∧ g.lookup l = none) := by
  constructor
  · intro hnew
    cases hf : f.lookup k with
    | some l' => exact .inl (by rw [h.eq_of_insert hnew hf])
    | none =>
      refine .inr ⟨rfl, ?_⟩
      cases hg : g.lookup l with
      | none => rfl
      | some k' =>
        have hback := (h k' l).mpr hg
        rw [h.symm.eq_of_insert hnew.symm hg, hf] at hback
        cases hback
  · intro hold k' l'
    rw [lookup_insert_eq, lookup_insert_eq]
    by_cases hk : k' = k <;> by_cases hl : l' = l
    · simp [hk, hl]
    · rw [if_pos hk, if_neg hl, hk]
      exact iff_of_false (fun heq => hl (Option.some.inj heq).symm)
        (h.lookup_ne (hold.imp_right And.left) hl)
    · rw [if_neg hk, if_pos hl, hl]
      exact iff_of_false
        (h.symm.lookup_ne (hold.imp (h k l).mp And.right) hk)
        (fun heq => hk (Option.some.inj heq).symm)
    · rw [if_neg hk, if_neg hl]
      exact h k' l'

end Inverse

end Table
