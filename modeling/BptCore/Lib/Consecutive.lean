import Mathlib.Data.List.Basic

/-!
# Consecutive items

The pairs of neighbours in a list, for what is computed from an item and the one before it.

* **`pairs`**, **`pairs_concat`** — the pairs, and the one that a further item adds.
* **`map_snd_pairs`** — their second items.
-/

namespace Consecutive

variable {α : Type*}

/-- Every item with the next one. -/
def pairs : List α → List (α × α)
  | a :: b :: rest => (a, b) :: pairs (b :: rest)
  | _ => []

@[simp] theorem pairs_cons_cons (a b : α) (rest : List α) :
    pairs (a :: b :: rest) = (a, b) :: pairs (b :: rest) := rfl

theorem pairs_concat (xs : List α) (a b : α) :
    pairs (xs ++ [a] ++ [b]) = pairs (xs ++ [a]) ++ [(a, b)] := by
  induction xs with
  | nil => rfl
  | cons x xs ih =>
    cases xs with
    | nil => rfl
    | cons y xs =>
      have hcons : pairs (x :: (y :: xs ++ [a] ++ [b])) =
          (x, y) :: pairs (y :: xs ++ [a] ++ [b]) := rfl
      show pairs (x :: (y :: xs ++ [a] ++ [b])) = _
      rw [hcons, ih]
      rfl

theorem map_snd_pairs (xs : List α) : (pairs xs).map Prod.snd = xs.tail := by
  induction xs with
  | nil => rfl
  | cons a xs ih =>
    cases xs with
    | nil => rfl
    | cons b rest => rw [pairs_cons_cons, List.map_cons, ih, List.tail_cons, List.tail_cons]

end Consecutive
