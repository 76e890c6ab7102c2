import BptCore.Lib.Table

/-!
# A table with a secondary index

A program that keeps values under their ids and also wants to find them by something that they
carry holds a second table, from that key to the id. The two are written apart, and what either
write leaves behind is the subject here.

* **`Indexes`** — every entry of the index leads to a value of its key, and the key of every value
  has an entry.
* **`Indexes.insert_iff`**, **`Indexes.overwrite_iff`**, **`Indexes.erase_iff`** — when writing
  both tables, writing the values alone, and removing from both keep it so.
-/

namespace Table

open AList

variable {U V K : Type*} [DecidableEq U] [DecidableEq K]

/-- `x` is an index by `key` of the values of `t`. -/
structure Indexes (key : V → K) (t : Table U V) (x : Table K U) : Prop where
  leads : ∀ k u, x.lookup k = some u → ∃ v, t.lookup u = some v ∧ key v = k
  covers : ∀ u v, t.lookup u = some v → (x.lookup (key v)).isSome

namespace Indexes

theorem empty (key : V → K) : Indexes key (∅ : Table U V) ∅ where
  leads k u h := by simp at h
  covers u v h := by simp at h

variable {key : V → K} {t : Table U V} {x : Table K U}

/-- An entry that leads to `u` is under the key of its value. -/
theorem key_eq (h : Indexes key t x) {k : K} {u : U} {v : V} (hk : x.lookup k = some u)
    (hu : t.lookup u = some v) : key v = k := by
  obtain ⟨w, hw, hkey⟩ := h.leads k u hk
  rw [hu] at hw
  cases hw
  exact hkey

/-- A value written under its id and its id under its key: the entry of the value that was there
before must not be left behind. -/
theorem insert_iff (h : Indexes key t x) (u : U) (v : V) :
    Indexes key (t.insert u v) (x.insert (key v) u) ↔
      ∀ old, t.lookup u = some old → key old = key v ∨ x.lookup (key old) ≠ some u := by
  constructor
  · intro hnew old hold
    by_cases hsame : key old = key v
    · exact .inl hsame
    refine .inr fun hleft => hsame ?_
    have hentry : (x.insert (key v) u).lookup (key old) = some u := by
      rw [lookup_insert_eq, if_neg hsame]
      exact hleft
    exact (hnew.key_eq hentry (by rw [lookup_insert_eq, if_pos rfl])).symm
  · intro hold
    constructor
    · intro k u' hk
      rw [lookup_insert_eq] at hk
      split at hk
      · next hkey =>
        cases hk
        exact ⟨v, by rw [lookup_insert_eq, if_pos rfl], hkey.symm⟩
      next hkey =>
      obtain ⟨w, hw, rfl⟩ := h.leads k u' hk
      have hne : u' ≠ u := by
        rintro rfl
        rcases hold w hw with hsame | hother
        · exact hkey hsame
        · exact hother hk
      exact ⟨w, by rw [lookup_insert_eq, if_neg hne]; exact hw, rfl⟩
    · intro u' w hw
      rw [lookup_insert_eq]
      split
      · rfl
      next hkey =>
      rw [lookup_insert_eq] at hw
      split at hw
      · cases hw; exact absurd rfl hkey
      · exact h.covers u' w hw

/-- A value overwritten with the index as it is: its key stays, or another id stands under either
key already. -/
theorem overwrite_iff (h : Indexes key t x) {u : U} {old : V} (hold : t.lookup u = some old)
    (v : V) :
    Indexes key (t.insert u v) x ↔
      key old = key v ∨ (x.lookup (key old) ≠ some u ∧ (x.lookup (key v)).isSome) := by
  have hnow : (t.insert u v).lookup u = some v := by rw [lookup_insert_eq, if_pos rfl]
  constructor
  · intro hnew
    by_cases hsame : key old = key v
    · exact .inl hsame
    · exact .inr ⟨fun hleft => hsame (hnew.key_eq hleft hnow).symm, hnew.covers u v hnow⟩
  · intro hcond
    constructor
    · intro k u' hk
      obtain ⟨w, hw, rfl⟩ := h.leads k u' hk
      by_cases hu : u' = u
      · subst hu
        rw [hold] at hw
        cases hw
        rcases hcond with hsame | ⟨hother, -⟩
        · exact ⟨v, hnow, hsame.symm⟩
        · exact absurd hk hother
      · exact ⟨w, by rw [lookup_insert_eq, if_neg hu]; exact hw, rfl⟩
    · intro u' w hw
      rw [lookup_insert_eq] at hw
      split at hw
      · cases hw
        rcases hcond with hsame | ⟨-, hthere⟩
        · rw [← hsame]
          exact h.covers u old hold
        · exact hthere
      · exact h.covers u' w hw

/-- A value taken out and the entry of its key with it: no other value may have that key. -/
theorem erase_iff (h : Indexes key t x) {u : U} {old : V} (hold : t.lookup u = some old) :
    Indexes key (t.erase u) (x.erase (key old)) ↔
      ∀ u' v, t.lookup u' = some v → key v = key old → u' = u := by
  constructor
  · intro hnew u' v hv hkey
    by_contra hne
    have hthere := hnew.covers u' v (by rw [lookup_erase_eq, if_neg hne]; exact hv)
    rw [lookup_erase_eq, if_pos hkey] at hthere
    cases hthere
  · intro honly
    constructor
    · intro k u' hk
      rw [lookup_erase_eq] at hk
      split at hk
      · cases hk
      next hkey =>
      obtain ⟨w, hw, rfl⟩ := h.leads k u' hk
      have hne : u' ≠ u := by
        rintro rfl
        rw [hold] at hw
        cases hw
        exact hkey rfl
      exact ⟨w, by rw [lookup_erase_eq, if_neg hne]; exact hw, rfl⟩
    · intro u' w hw
      rw [lookup_erase_eq] at hw
      split at hw
      · cases hw
      next hne =>
      have hkey : key w ≠ key old := fun heq => hne (honly u' w hw heq)
      rw [lookup_erase_eq, if_neg hkey]
      exact h.covers u' w hw

end Indexes

end Table
