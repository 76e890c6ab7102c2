import Mathlib.Algebra.BigOperators.Group.List.Basic
import Mathlib.Algebra.Group.Basic
import Mathlib.Algebra.GroupWithZero.Nat
import Mathlib.Tactic.Common

/-!
# A ring of the latest items

An array that is written round and round keeps the latest items of a growing list, as many as it
has slots. A slot that was never written holds a blank. The counters that address it may be kept in
64 bits: as long as two of them are no further apart than the array is long, their kept values tell
them apart as well as the counters themselves.

* **`RingLog.Holds`** — which slot holds which item.
* **`RingLog.Holds.push`** — writing the next item over the oldest one.
* **`RingLog.Holds.mem_iff`** — what a search through the slots finds.
* **`RingLog.latest`**, **`sum_latest_concat`** — the latest items, and how a sum over them moves on.
* **`WrappingIndex.sub_ofNat`**, **`ofNat_eq_iff`** — difference and equality of two kept counters.
* **`WrappingIndex.and_mask`** — the slot of a kept counter is the slot of the counter, in an array
  of a power of two.
-/

universe u

namespace RingLog

variable {α : Type u} {blank : α} {slots items : List α}

/-- The slots hold the latest of the items, each at its number modulo the size. -/
structure Holds (blank : α) (slots items : List α) : Prop where
  latest : ∀ k x, items[k]? = some x → items.length ≤ k + slots.length →
    slots[k % slots.length]? = some x
  unwritten : ∀ j, items.length ≤ j → j < slots.length → slots[j]? = some blank

theorem holds_replicate (n : Nat) : Holds blank (List.replicate n blank) [] where
  latest k x hk := by simp at hk
  unwritten j _ hj := by
    rw [List.length_replicate] at hj
    rw [List.getElem?_replicate, if_pos hj]

/-- Two items that are less than a round apart have different slots. -/
theorem mod_ne {k m n : Nat} (hlt : k < m) (hround : m < k + n) : k % n ≠ m % n := by
  intro heq
  have hdvd : n ∣ m - k := Nat.dvd_of_mod_eq_zero (Nat.sub_mod_eq_zero_of_mod_eq heq.symm)
  have hle := Nat.le_of_dvd (Nat.sub_pos_of_lt hlt) hdvd
  omega

theorem Holds.push (h : Holds blank slots items) (hpos : 0 < slots.length) (x : α) :
    Holds blank (slots.set (items.length % slots.length) x) (items ++ [x]) where
  latest k y hk hround := by
    rw [List.length_append, List.length_singleton, List.length_set] at hround
    rw [List.length_set]
    rcases Nat.lt_or_ge k items.length with hlt | hge
    · rw [List.getElem?_append_left hlt] at hk
      rw [List.getElem?_set_ne (mod_ne hlt (by omega)).symm]
      exact h.latest k y hk (by omega)
    · rw [List.getElem?_append_right hge] at hk
      obtain rfl : k = items.length := by
        have hsingle := (List.getElem?_eq_some_iff.mp hk).1
        rw [List.length_singleton] at hsingle
        omega
      rw [Nat.sub_self] at hk
      rw [List.getElem?_set_self (Nat.mod_lt _ hpos)]
      simpa using hk
  unwritten j hj hlt := by
    rw [List.length_append, List.length_singleton] at hj
    rw [List.length_set] at hlt
    have hmod : items.length % slots.length = items.length := Nat.mod_eq_of_lt (by omega)
    rw [hmod, List.getElem?_set_ne (by omega)]
    exact h.unwritten j (by omega) hlt

/-- An item other than a blank is in a slot exactly when it is one of the latest. -/
theorem Holds.mem_iff (h : Holds blank slots items) {x : α} (hx : x ≠ blank) :
    x ∈ slots ↔ x ∈ items.drop (items.length - slots.length) := by
  constructor
  · intro hmem
    obtain ⟨j, hj⟩ := List.mem_iff_getElem?.mp hmem
    have hlt : j < slots.length := (List.getElem?_eq_some_iff.mp hj).1
    rcases Nat.lt_or_ge j items.length with hwritten | hblank
    · -- the last item that was written to slot `j`
      have hle := Nat.mod_le (items.length - 1 - j) slots.length
      have hround := Nat.mod_lt (items.length - 1 - j) (Nat.lt_of_le_of_lt (Nat.zero_le j) hlt)
      have hsplit := Nat.div_add_mod (items.length - 1 - j) slots.length
      let k := items.length - 1 - (items.length - 1 - j) % slots.length
      have hk : k = j + slots.length * ((items.length - 1 - j) / slots.length) := by
        show items.length - 1 - _ = _
        omega
      have hmod : k % slots.length = j := by
        rw [hk, Nat.add_mul_mod_self_left, Nat.mod_eq_of_lt hlt]
      have hklt : k < items.length := by
        show items.length - 1 - _ < _
        omega
      have hfound := h.latest k _ (List.getElem?_eq_getElem hklt) (by
        show _ ≤ items.length - 1 - _ + _
        omega)
      rw [hmod, hj] at hfound
      rw [Option.some.inj hfound]
      refine List.mem_iff_getElem?.mpr ⟨k - (items.length - slots.length), ?_⟩
      have hge : items.length - slots.length ≤ k := by
        show _ ≤ items.length - 1 - _
        omega
      rw [List.getElem?_drop, Nat.add_sub_cancel' hge, List.getElem?_eq_getElem hklt]
    · rw [h.unwritten j hblank hlt] at hj
      exact absurd (Option.some.inj hj).symm hx
  · intro hmem
    obtain ⟨i, hi⟩ := List.mem_iff_getElem?.mp hmem
    rw [List.getElem?_drop] at hi
    exact List.mem_of_getElem? (h.latest _ x hi (by omega))

/-! ## Sums over the latest items -/

/-- The last `n` items, or all when there are fewer. -/
def latest (n : Nat) (items : List α) : List α := items.drop (items.length - n)

theorem length_latest (n : Nat) (items : List α) :
    (latest n items).length = min items.length n := by
  rw [latest, List.length_drop]
  omega

/-- There is room for one more. -/
theorem latest_concat_of_lt {n : Nat} (hlt : items.length < n) (x : α) :
    latest n (items ++ [x]) = latest n items ++ [x] := by
  rw [latest, latest, List.length_append, List.length_singleton,
    Nat.sub_eq_zero_of_le (Nat.succ_le_of_lt hlt),
    Nat.sub_eq_zero_of_le (Nat.le_of_lt hlt)]
  rfl

/-- The item at the slot that is written next, when the ring is full: the oldest of the latest. -/
theorem Holds.oldest (h : Holds blank slots items) (hpos : 0 < slots.length)
    (hfull : slots.length ≤ items.length) :
    slots[items.length % slots.length]? = items[items.length - slots.length]? := by
  have hlt : items.length - slots.length < items.length := by omega
  have hslot := h.latest (items.length - slots.length) _ (List.getElem?_eq_getElem hlt) (by omega)
  rw [← Nat.mod_eq_sub_mod hfull] at hslot
  rw [hslot, List.getElem?_eq_getElem hlt]

/-- A sum over the latest items gives up the oldest one for the new one. -/
theorem sum_latest_concat {β : Type*} [AddCommGroup β] (f : α → β) {n : Nat} {old : α}
    (hfull : n ≤ items.length) (hold : items[items.length - n]? = some old) (x : α) :
    ((latest n (items ++ [x])).map f).sum = ((latest n items).map f).sum - f old + f x := by
  obtain ⟨hlt, hget⟩ := List.getElem?_eq_some_iff.mp hold
  have hnext : items.length + 1 - n = items.length - n + 1 := by omega
  rw [latest, latest, List.length_append, List.length_singleton, hnext,
    List.drop_append_of_le_length (by omega), List.drop_eq_getElem_cons hlt, hget, List.map_append,
    List.sum_append, List.map_singleton, List.sum_singleton, List.map_cons, List.sum_cons,
    add_sub_cancel_left]

end RingLog

namespace WrappingIndex

/-! ## Indices that wrap around -/

theorem toNat_ofNat (n : Nat) : (UInt64.ofNat n).toNat = n % 2 ^ 64 := UInt64.toNat_ofNat'

theorem ofNat_succ (n : Nat) : UInt64.ofNat (n + 1) = UInt64.ofNat n + 1 := by
  rw [UInt64.ofNat_add]
  rfl

/-- The difference is the true one when it fits. -/
theorem sub_ofNat {m n : Nat} (hle : m ≤ n) (hlt : n - m < 2 ^ 64) :
    (UInt64.ofNat n - UInt64.ofNat m).toNat = n - m := by
  rw [UInt64.toNat_sub, toNat_ofNat, toNat_ofNat]
  omega

theorem ofNat_eq_iff {m n : Nat} (hle : m ≤ n) (hlt : n - m < 2 ^ 64) :
    UInt64.ofNat n = UInt64.ofNat m ↔ n = m := by
  constructor
  · intro heq
    have hnat := congrArg UInt64.toNat heq
    rw [toNat_ofNat, toNat_ofNat] at hnat
    omega
  · rintro rfl
    rfl

/-- The lowest bits of a kept counter, by a mask one below a power of two. -/
theorem and_mask {mask : UInt64} {k : Nat} (hk : k ≤ 64) (hmask : mask.toNat = 2 ^ k - 1)
    (n : Nat) : (UInt64.ofNat n &&& mask).toNat = n % 2 ^ k := by
  rw [UInt64.toNat_and, hmask, Nat.and_two_pow_sub_one_eq_mod, toNat_ofNat]
  exact Nat.mod_mod_of_dvd n (Nat.pow_dvd_pow 2 hk)

end WrappingIndex
