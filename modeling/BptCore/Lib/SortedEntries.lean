import Mathlib.Data.List.Sort
import Mathlib.Order.Std
import Std.Data.TreeMap.Lemmas

/-!
# Finite maps as sorted lists of entries

A map kept as a contiguous array of entries in strictly increasing order of key, searched by
halving. The order is a comparator, so that one development serves both sort directions. This
module owns the facts about such arrays, independently of what they hold:

* **`lowerBound`**, **`lowerBound_append`** — the halving search, and the position it finds in an
  array on which its predicate holds of a prefix.
* **`insertIdx_boundary`**, **`modify_boundary`**, **`eraseIdx_boundary`** — an edit of the array
  at that position.
* **`Ordered`** — the entries strictly increase, so no key occurs twice.
* **`Ordered.split`** — what an ordered array looks like around a key.
* **`lookup`** — the array as a finite map; **`Ordered.lookup_eq_some_iff`** reads it as
  membership.
* **`Ordered.eq_of_lookup_eq`**, **`Ordered.eq_toList`** — an ordered array is determined by the
  map it holds, so it lists what a search tree with the same map lists.
-/

namespace SortedEntries

universe u v

/-! ## The halving search -/

section Search

variable {α : Type u}

/-- The loop of a lower-bound search: the window starts at `first` and has `len` entries, and
the entry in its middle decides which half is searched next. `fuel` bounds the rounds. -/
def lowerBoundLoop (before : α → Bool) (l : List α) : (fuel first len : Nat) → Nat
  | 0, first, _ => first
  | fuel + 1, first, len =>
    if len = 0 then first
    else
      match l[first + len / 2]? with
      | none => first
      | some x =>
        if before x then lowerBoundLoop before l fuel (first + len / 2 + 1) (len - len / 2 - 1)
        else lowerBoundLoop before l fuel first (len / 2)

/-- The first position whose entry is not `before`, for an array whose `before` entries come
first. -/
def lowerBound (before : α → Bool) (l : List α) : Nat :=
  lowerBoundLoop before l l.length 0 l.length

/-- The loop finds the boundary when the window holds it and the fuel outlasts the window. -/
theorem lowerBoundLoop_append {before : α → Bool} {a b : List α}
    (ha : ∀ x ∈ a, before x = true) (hb : ∀ x ∈ b, before x = false) (fuel first len : Nat)
    (hfuel : len ≤ fuel) (hfirst : first ≤ a.length) (hlast : a.length ≤ first + len)
    (hlen : first + len ≤ (a ++ b).length) :
    lowerBoundLoop before (a ++ b) fuel first len = a.length := by
  induction fuel generalizing first len with
  | zero =>
    show first = a.length
    omega
  | succ fuel ih =>
    rw [lowerBoundLoop]
    split
    · omega
    · have hmid : first + len / 2 < (a ++ b).length := by omega
      rw [List.getElem?_eq_getElem hmid]
      show (if before (a ++ b)[first + len / 2] then _ else _) = a.length
      rcases Nat.lt_or_ge (first + len / 2) a.length with hin | hout
      · -- the middle entry lies before the boundary: the right half is next
        have hbefore : before (a ++ b)[first + len / 2] = true := by
          rw [List.getElem_append_left hin]
          exact ha _ (List.getElem_mem hin)
        rw [if_pos hbefore]
        exact ih _ _ (by omega) (by omega) (by omega) (by omega)
      · have hnot : before (a ++ b)[first + len / 2] = false := by
          rw [List.getElem_append_right hout]
          exact hb _ (List.getElem_mem _)
        rw [hnot, if_neg Bool.false_ne_true]
        exact ih _ _ (by omega) hfirst (by omega) (by omega)

/-- The search finds the boundary between the entries with and without the predicate. -/
theorem lowerBound_append {before : α → Bool} {a b : List α}
    (ha : ∀ x ∈ a, before x = true) (hb : ∀ x ∈ b, before x = false) :
    lowerBound before (a ++ b) = a.length := by
  have hlen : a.length ≤ (a ++ b).length := by simp
  exact lowerBoundLoop_append ha hb _ _ _ (by omega) (by omega) (by omega) (by omega)

/-! The edits of an array at the boundary `a.length` of `a` and what follows it. -/

theorem insertIdx_boundary (a b : List α) (x : α) :
    (a ++ b).insertIdx a.length x = a ++ x :: b := by
  induction a with
  | nil => rfl
  | cons y a ih => exact congrArg (y :: ·) ih

theorem modify_boundary (f : α → α) (a b : List α) (x : α) :
    (a ++ x :: b).modify a.length f = a ++ f x :: b := by
  induction a with
  | nil => rfl
  | cons y a ih => exact congrArg (y :: ·) ih

theorem eraseIdx_boundary (a b : List α) (x : α) :
    (a ++ x :: b).eraseIdx a.length = a ++ b := by
  rw [List.eraseIdx_append_of_length_le (Nat.le_refl _), Nat.sub_self]
  rfl

end Search

/-! ## Ordered entries -/

section Order

variable {K : Type u} {V : Type v} (cmp : K → K → Ordering)

/-- The keys strictly increase along the array. -/
def Ordered (l : List (K × V)) : Prop := l.Pairwise fun e e' => cmp e.1 e'.1 = .lt

/-- The array as a finite map. -/
def lookup (k : K) : List (K × V) → Option V
  | [] => none
  | e :: l => if cmp e.1 k = .eq then some e.2 else lookup k l

variable {cmp}

@[simp] theorem ordered_nil : Ordered cmp ([] : List (K × V)) := List.Pairwise.nil

theorem ordered_cons {e : K × V} {l : List (K × V)} :
    Ordered cmp (e :: l) ↔ (∀ e' ∈ l, cmp e.1 e'.1 = .lt) ∧ Ordered cmp l :=
  List.pairwise_cons

theorem ordered_append {l l' : List (K × V)} :
    Ordered cmp (l ++ l') ↔
      Ordered cmp l ∧ Ordered cmp l' ∧ ∀ e ∈ l, ∀ e' ∈ l', cmp e.1 e'.1 = .lt :=
  List.pairwise_append

/-- A prefix of ordered entries is ordered. -/
theorem Ordered.take {l : List (K × V)} (h : Ordered cmp l) (n : Nat) :
    Ordered cmp (l.take n) :=
  h.sublist (List.take_sublist n l)

theorem ordered_toList [Std.TransCmp cmp] (t : Std.TreeMap K V cmp) : Ordered cmp t.toList :=
  Std.TreeMap.ordered_keys_toList

variable [Std.TransCmp cmp]

theorem ne_of_cmp_lt {k k' : K} (h : cmp k k' = .lt) : k ≠ k' := by
  rintro rfl
  have hself : cmp k k = .eq := Std.ReflCmp.compare_self
  rw [h] at hself
  cases hself

theorem cmp_lt_asymm {k k' : K} (h : cmp k k' = .lt) : cmp k' k ≠ .lt := by
  have hswap : cmp k' k = (cmp k k').swap := Std.OrientedCmp.eq_swap
  rw [hswap, h]
  exact Ordering.noConfusion

/-- Ordered entries are determined by what they contain. -/
theorem Ordered.eq_of_mem_iff {l l' : List (K × V)} (h : Ordered cmp l) (h' : Ordered cmp l')
    (hmem : ∀ e, e ∈ l ↔ e ∈ l') : l = l' := by
  have : Std.Irrefl fun e e' : K × V => cmp e.1 e'.1 = .lt := ⟨fun e he => ne_of_cmp_lt he rfl⟩
  have : Std.Antisymm fun e e' : K × V => cmp e.1 e'.1 = .lt :=
    ⟨fun e e' he he' => absurd he' (cmp_lt_asymm he)⟩
  exact List.Pairwise.eq_of_mem_iff h h' hmem

variable [Std.LawfulEqCmp cmp]

omit [Std.TransCmp cmp] in
theorem cmp_eq_iff {k k' : K} : cmp k k' = .eq ↔ k = k' :=
  ⟨Std.LawfulEqCmp.eq_of_compare, fun h => h ▸ Std.ReflCmp.compare_self⟩

/-- What ordered entries look like around a key: the entries below it, then those above it with
or without one that holds the key itself. -/
inductive SplitAt (cmp : K → K → Ordering) (k : K) : List (K × V) → Prop
  | absent (a b : List (K × V)) (ha : ∀ e ∈ a, cmp e.1 k = .lt) (hb : ∀ e ∈ b, cmp k e.1 = .lt) :
      SplitAt cmp k (a ++ b)
  | present (a b : List (K × V)) (v : V) (ha : ∀ e ∈ a, cmp e.1 k = .lt)
      (hb : ∀ e ∈ b, cmp k e.1 = .lt) : SplitAt cmp k (a ++ (k, v) :: b)

theorem Ordered.split {l : List (K × V)} (h : Ordered cmp l) (k : K) : SplitAt cmp k l := by
  induction l with
  | nil => exact .absent [] [] (by simp) (by simp)
  | cons e l ih =>
    obtain ⟨hhead, htail⟩ := ordered_cons.mp h
    cases hcmp : cmp e.1 k with
    | lt =>
      -- the head lies below the key, so the tail's split decides
      have ha : ∀ a : List (K × V), (∀ e ∈ a, cmp e.1 k = .lt) →
          ∀ e' ∈ e :: a, cmp e'.1 k = .lt := by
        intro a ha e' he'
        rcases List.mem_cons.mp he' with rfl | he'
        · exact hcmp
        · exact ha e' he'
      cases ih htail with
      | absent a b ha' hb => exact .absent (e :: a) b (ha a ha') hb
      | present a b v ha' hb => exact .present (e :: a) b v (ha a ha') hb
    | eq =>
      obtain rfl : e.1 = k := cmp_eq_iff.mp hcmp
      exact .present [] l e.2 (by simp) hhead
    | gt =>
      have hlt : cmp k e.1 = .lt := Std.OrientedCmp.lt_of_gt hcmp
      refine .absent [] (e :: l) (by simp) fun e' he' => ?_
      rcases List.mem_cons.mp he' with rfl | he'
      · exact hlt
      · exact Std.TransCmp.lt_trans hlt (hhead e' he')

/-! ## The map the entries hold -/

theorem Ordered.lookup_eq_some_iff {l : List (K × V)} (h : Ordered cmp l) {k : K} {v : V} :
    lookup cmp k l = some v ↔ (k, v) ∈ l := by
  induction l with
  | nil => simp [lookup]
  | cons e l ih =>
    obtain ⟨hhead, htail⟩ := ordered_cons.mp h
    rw [lookup]
    split
    next heq =>
      obtain rfl : e.1 = k := cmp_eq_iff.mp heq
      have hout : (e.1, v) ∉ l := fun hmem => ne_of_cmp_lt (hhead _ hmem) rfl
      constructor
      · rintro ⟨⟩
        exact List.mem_cons_self
      · intro hmem
        rcases List.mem_cons.mp hmem with heq' | hmem
        · exact congrArg (fun e : K × V => some e.2) heq'.symm
        · exact absurd hmem hout
    next hne =>
      have hhead' : (k, v) ≠ e := by
        rintro rfl
        exact hne (cmp_eq_iff.mpr rfl)
      rw [ih htail, List.mem_cons, or_iff_right hhead']

/-- Ordered entries are determined by the map they hold. -/
theorem Ordered.eq_of_lookup_eq {l l' : List (K × V)} (h : Ordered cmp l) (h' : Ordered cmp l')
    (hmap : ∀ k, lookup cmp k l = lookup cmp k l') : l = l' := by
  refine h.eq_of_mem_iff h' fun e => ?_
  rw [← h.lookup_eq_some_iff, ← h'.lookup_eq_some_iff, hmap]

theorem lookup_toList (t : Std.TreeMap K V cmp) (k : K) : lookup cmp k t.toList = t[k]? := by
  refine Option.ext fun v => ?_
  rw [(ordered_toList t).lookup_eq_some_iff, Std.TreeMap.mem_toList_iff_getElem?_eq_some]

/-- Ordered entries list what a search tree with the same map lists. -/
theorem Ordered.eq_toList {l : List (K × V)} (h : Ordered cmp l) {t : Std.TreeMap K V cmp}
    (hmap : ∀ k, lookup cmp k l = t[k]?) : l = t.toList :=
  h.eq_of_lookup_eq (ordered_toList t) fun k => by rw [hmap, lookup_toList]

end Order

end SortedEntries
