import Mathlib.Data.List.Sort

/-!
# Queues drained by time

A queue whose entries are due at times of their own. A drain up to a moment sorts it, takes the
entries that are due by then off its front, and leaves the rest.

* **`due`**, **`later`** — what a drain takes, and what it leaves.
* **`due_append_later_perm`** — together they are the queue.
* **`le_of_mem_due`**, **`lt_of_mem_later`** — each half is on its side of the moment.
-/

namespace DueQueue

variable {α : Type*} (time : α → Nat) (upto : Nat) (queue : List α)

def sorted : List α := queue.insertionSort fun a b => time a ≤ time b

def due : List α := (sorted time queue).takeWhile fun a => decide (time a ≤ upto)

def later : List α := (sorted time queue).dropWhile fun a => decide (time a ≤ upto)

theorem sorted_pairwise : (sorted time queue).Pairwise fun a b => time a ≤ time b := by
  have htrans : IsTrans α fun a b => time a ≤ time b := ⟨fun _ _ _ hab hbc => hab.trans hbc⟩
  have htotal : Std.Total fun a b : α => time a ≤ time b := ⟨fun a b => Nat.le_total _ _⟩
  exact List.pairwise_insertionSort _ queue

theorem due_append_later : due time upto queue ++ later time upto queue = sorted time queue :=
  List.takeWhile_append_dropWhile

theorem due_append_later_perm :
    (due time upto queue ++ later time upto queue).Perm queue := by
  rw [due_append_later]
  exact List.perm_insertionSort _ queue

variable {time upto queue}

theorem le_of_mem_due {a : α} (h : a ∈ due time upto queue) : time a ≤ upto :=
  of_decide_eq_true (List.all_eq_true.mp List.all_takeWhile a h)

/-- **Nothing due remains.** The first entry that is left is not due, and the others are due no
sooner than it. -/
theorem lt_of_mem_later {a : α} (h : a ∈ later time upto queue) : upto < time a := by
  have hsorted : (later time upto queue).Pairwise fun a b => time a ≤ time b :=
    (sorted_pairwise time queue).sublist (List.dropWhile_sublist _)
  cases hlater : later time upto queue with
  | nil => simp [hlater] at h
  | cons first rest =>
    rw [hlater] at h hsorted
    have hfirst : ¬ decide (time first ≤ upto) = true := by
      have hhead := List.head?_dropWhile_not (fun a => decide (time a ≤ upto)) (sorted time queue)
      rw [show (sorted time queue).dropWhile _ = first :: rest from hlater] at hhead
      simpa using hhead
    rw [decide_eq_true_iff] at hfirst
    rcases List.mem_cons.mp h with rfl | hrest
    · omega
    · have := (List.pairwise_cons.mp hsorted).1 a hrest
      omega

end DueQueue
