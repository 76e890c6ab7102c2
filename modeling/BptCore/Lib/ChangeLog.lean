import Mathlib.Logic.Function.Basic

/-!
# Numbered changes to a map

A map that changes one key at a time, and the log of its changes, numbered from 1 on. A reader that
has the map as it was at some number can follow it by the changes numbered after that.

* **`Change`** — one change, or a mark that changes nothing.
* **`replay`** — the changes, one after the other; **`replay_append`** puts two stretches together.
* **`upTo`** — the map after the change of a number; **`upTo_succ`** goes from one number to the next.
* **`Change.apply_eq_iff`** — when a change brings two maps together: when they differ only where
  it writes.
-/

namespace ChangeLog

variable {K V : Type*}

inductive Change (K V : Type*) where
  /-- A mark in the log. -/
  | keep
  | put (k : K) (v : V)
  | drop (k : K)

namespace Change

/-- The key that the change writes. -/
def Writes : Change K V → K → Prop
  | keep, _ => False
  | put k _, k' => k' = k
  | drop k, k' => k' = k

instance [DecidableEq K] (c : Change K V) (k : K) : Decidable (c.Writes k) :=
  match c with
  | keep => inferInstanceAs (Decidable False)
  | put k' _ => inferInstanceAs (Decidable (k = k'))
  | drop k' => inferInstanceAs (Decidable (k = k'))

variable [DecidableEq K]

def apply (c : Change K V) (m : K → Option V) : K → Option V :=
  match c with
  | keep => m
  | put k v => fun k' => if k' = k then some v else m k'
  | drop k => fun k' => if k' = k then none else m k'

theorem apply_of_not_writes {c : Change K V} {k : K} (h : ¬ c.Writes k) (m : K → Option V) :
    c.apply m k = m k := by
  cases c with
  | keep => rfl
  | put k' v => exact if_neg h
  | drop k' => exact if_neg h

/-- What a change writes does not depend on the map. -/
theorem apply_of_writes {c : Change K V} {k : K} (h : c.Writes k) (m m' : K → Option V) :
    c.apply m k = c.apply m' k := by
  cases c with
  | keep => exact h.elim
  | put k' v => exact (if_pos h).trans (if_pos h).symm
  | drop k' => exact (if_pos h).trans (if_pos h).symm

/-- A change brings two maps together when they differ only where it writes. -/
theorem apply_eq_iff {c : Change K V} {m m' : K → Option V} :
    c.apply m = c.apply m' ↔ ∀ k, ¬ c.Writes k → m k = m' k := by
  constructor
  · intro h k hk
    rw [← apply_of_not_writes hk m, h, apply_of_not_writes hk m']
  · intro h
    funext k
    by_cases hk : c.Writes k
    · exact apply_of_writes hk m m'
    · rw [apply_of_not_writes hk, apply_of_not_writes hk, h k hk]

end Change

variable [DecidableEq K]

def replay (m : K → Option V) (cs : List (Change K V)) : K → Option V :=
  cs.foldl (fun m c => c.apply m) m

@[simp] theorem replay_nil (m : K → Option V) : replay m [] = m := rfl

theorem replay_append (m : K → Option V) (cs cs' : List (Change K V)) :
    replay m (cs ++ cs') = replay (replay m cs) cs' :=
  List.foldl_append

/-- The map after the change of the number. -/
def upTo (m : K → Option V) (log : List (Change K V)) (n : Nat) : K → Option V :=
  replay m (log.take n)

theorem upTo_append {log : List (Change K V)} {n : Nat} (h : n ≤ log.length) (m : K → Option V)
    (cs : List (Change K V)) : upTo m (log ++ cs) n = upTo m log n := by
  rw [upTo, List.take_append_of_le_length h, upTo]

theorem upTo_length (m : K → Option V) (log : List (Change K V)) :
    upTo m log log.length = replay m log := by
  rw [upTo, List.take_length]

/-- The change of the next number. -/
theorem upTo_succ {log : List (Change K V)} {n : Nat} {c : Change K V} (h : log[n]? = some c)
    (m : K → Option V) : upTo m log (n + 1) = c.apply (upTo m log n) := by
  rw [upTo, List.take_add_one, h, replay_append]
  rfl

/-- From one number on to a later one, by the changes in between. -/
theorem upTo_eq_replay {log : List (Change K V)} {a b : Nat} (h : a ≤ b) (m : K → Option V) :
    upTo m log b = replay (upTo m log a) ((log.take b).drop a) := by
  have hsplit : log.take a ++ (log.take b).drop a = log.take b := by
    have htake : log.take a = (log.take b).take a := by rw [List.take_take, Nat.min_eq_left h]
    rw [htake, List.take_append_drop]
  rw [upTo, upTo, ← replay_append, hsplit]

end ChangeLog
