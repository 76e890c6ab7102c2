import Mathlib.Data.List.Basic

/-!
# Files that grow at the end

A set of files by name, in the order in which they came into being, and the one thing that is done
to it: bytes are added at the end of a file, which begins to exist if it did not before.

* **`append`** — bytes for the file of a name; no bytes open it.
* **`append_append`** — two parts are as one.
* **`append_new`**, **`append_last`** — a file that did not exist becomes the last one, and while it
  is that only its own bytes grow.
-/

namespace AppendFiles

variable {N β : Type*} [DecidableEq N]

/-- The files with their names, oldest first. -/
abbrev Disk (N β : Type*) := List (N × List β)

def append (name : N) (bytes : List β) : Disk N β → Disk N β
  | [] => [(name, bytes)]
  | (n, old) :: disk =>
    if n = name then (n, old ++ bytes) :: disk else (n, old) :: append name bytes disk

variable {name : N} {disk : Disk N β}

/-- Bytes in two parts. -/
theorem append_append (name : N) (bytes more : List β) (disk : Disk N β) :
    append name more (append name bytes disk) = append name (bytes ++ more) disk := by
  induction disk with
  | nil => exact if_pos rfl
  | cons f disk ih =>
    by_cases hname : f.1 = name
    · rw [append, if_pos hname, append, if_pos hname, append, if_pos hname, List.append_assoc]
    · rw [append, if_neg hname, append, if_neg hname, ih, append, if_neg hname]

theorem append_new (h : ∀ f ∈ disk, f.1 ≠ name) (bytes : List β) :
    append name bytes disk = disk ++ [(name, bytes)] := by
  induction disk with
  | nil => rfl
  | cons f disk ih =>
    have hne : f.1 ≠ name := h f List.mem_cons_self
    rw [append, if_neg hne, ih fun g hg => h g (List.mem_cons_of_mem f hg), List.cons_append]

theorem append_last (h : ∀ f ∈ disk, f.1 ≠ name) (old bytes : List β) :
    append name bytes (disk ++ [(name, old)]) = disk ++ [(name, old ++ bytes)] := by
  induction disk with
  | nil => exact if_pos rfl
  | cons f disk ih =>
    have hne : f.1 ≠ name := h f List.mem_cons_self
    rw [List.cons_append, append, if_neg hne, ih fun g hg => h g (List.mem_cons_of_mem f hg),
      List.cons_append]

end AppendFiles
