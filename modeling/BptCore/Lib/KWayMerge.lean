import Mathlib.Data.List.Basic
import Mathlib.Order.Lattice

/-!
# Merging any number of lists by a key

At each step the first of the lists whose head has the least key gives up its head. What comes out
carries the number of the list it came from, so a reader can tell equal items apart.

* **`KWayMerge.leastHead`** — the list that is next, **`Picks`** — what singles it out.
* **`KWayMerge.Merges`** — the items that come out until all lists are empty.
* **`KWayMerge.Merges.perm`**, **`Merges.filter`** — nothing is lost, nothing overtakes within a list.
* **`KWayMerge.Merges.sorted`** — sorted lists merge to a sorted one, equal keys by list number.
-/

universe u v

namespace KWayMerge

variable {α : Type u} {κ : Type v} [LinearOrder κ] (key : α → κ)

/-! ## The least head -/

/-- The heads from number `i` on, `best` the least one before them. A list that has run out has
no head. -/
def leastFrom (i : Nat) (best : Option (Nat × α)) : List (Option α) → Option (Nat × α)
  | [] => best
  | none :: heads => leastFrom (i + 1) best heads
  | some a :: heads =>
    leastFrom (i + 1)
      (match best with
        | none => some (i, a)
        | some (j, b) => if key a < key b then some (i, a) else some (j, b)) heads

def leastHead (heads : List (Option α)) : Option (Nat × α) := leastFrom key 0 none heads

/-- `a` is the head number `i`, no head has a smaller key and none before it an equal one. -/
def Picks (heads : List (Option α)) (i : Nat) (a : α) : Prop :=
  heads[i]? = some (some a) ∧
    ∀ j b, heads[j]? = some (some b) → key a ≤ key b ∧ (j < i → key a < key b)

/-- What a search has found among the heads it has seen. -/
def Found (heads : List (Option α)) : Option (Nat × α) → Prop
  | none => ∀ h ∈ heads, h = none
  | some (i, a) => Picks key heads i a

variable {key}

private theorem getElem?_snoc {heads : List (Option α)} {h : Option α} {j : Nat} {b : α}
    (hj : (heads ++ [h])[j]? = some (some b)) :
    heads[j]? = some (some b) ∨ j = heads.length ∧ h = some b := by
  rcases Nat.lt_or_ge j heads.length with hlt | hge
  · rw [List.getElem?_append_left hlt] at hj
    exact Or.inl hj
  · rw [List.getElem?_append_right hge] at hj
    rcases Nat.eq_zero_or_pos (j - heads.length) with hzero | hpos
    · rw [hzero] at hj
      exact Or.inr ⟨by omega, by simpa using hj⟩
    · rw [List.getElem?_eq_none (by rw [List.length_singleton]; omega)] at hj
      exact absurd hj (by simp)

theorem Picks.snoc {heads : List (Option α)} {i : Nat} {a : α} (hp : Picks key heads i a)
    {h : Option α} (hle : ∀ b, h = some b → key a ≤ key b) : Picks key (heads ++ [h]) i a := by
  have hi : i < heads.length := (List.getElem?_eq_some_iff.mp hp.1).1
  refine ⟨by rw [List.getElem?_append_left hi]; exact hp.1, fun j b hj => ?_⟩
  rcases getElem?_snoc hj with hold | ⟨rfl, hb⟩
  · exact hp.2 j b hold
  · exact ⟨hle b hb, fun hlt => absurd hlt (by omega)⟩

theorem leastFrom_found (pre heads : List (Option α)) (best : Option (Nat × α))
    (hbest : Found key pre best) : Found key (pre ++ heads) (leastFrom key pre.length best heads) := by
  induction heads generalizing pre best with
  | nil =>
    rw [List.append_nil]
    exact hbest
  | cons h heads ih =>
    have hsnoc : ∀ best', Found key (pre ++ [h]) best' →
        Found key (pre ++ h :: heads) (leastFrom key (pre.length + 1) best' heads) := by
      intro best' hfound
      have hrest := ih (pre ++ [h]) best' hfound
      rwa [List.append_assoc, List.singleton_append, List.length_append,
        List.length_singleton] at hrest
    cases h with
    | none =>
      refine hsnoc best ?_
      cases best with
      | none =>
        intro h hh
        rcases List.mem_append.mp hh with hpre | hlast
        · exact hbest h hpre
        · exact List.mem_singleton.mp hlast
      | some p => exact Picks.snoc hbest fun b hb => absurd hb (by simp)
    | some a =>
      refine hsnoc _ ?_
      have hlast : (pre ++ [some a])[pre.length]? = some (some a) := by simp
      cases best with
      | none =>
        refine ⟨hlast, fun j b hj => ?_⟩
        rcases getElem?_snoc hj with hold | ⟨rfl, hb⟩
        · exact absurd (hbest _ (List.mem_of_getElem? hold)) (by simp)
        · cases hb
          exact ⟨le_refl _, fun hlt => absurd hlt (Nat.lt_irrefl _)⟩
      | some p =>
        obtain ⟨i, b⟩ := p
        by_cases hlt : key a < key b
        · show Found key _ (if key a < key b then some (pre.length, a) else some (i, b))
          rw [if_pos hlt]
          refine ⟨hlast, fun j c hj => ?_⟩
          rcases getElem?_snoc hj with hold | ⟨rfl, hc⟩
          · have hless := lt_of_lt_of_le hlt (hbest.2 j c hold).1
            exact ⟨le_of_lt hless, fun _ => hless⟩
          · cases hc
            exact ⟨le_refl _, fun h => absurd h (Nat.lt_irrefl _)⟩
        · show Found key _ (if key a < key b then some (pre.length, a) else some (i, b))
          rw [if_neg hlt]
          refine Picks.snoc hbest fun c hc => ?_
          cases hc
          exact not_lt.mp hlt

theorem leastHead_found (heads : List (Option α)) : Found key heads (leastHead key heads) :=
  leastFrom_found [] heads none (fun h hh => absurd hh (by simp))

/-! ## The merge -/

variable (key) in
inductive Merges : List (List α) → List (Nat × α) → Prop where
  | done {lists : List (List α)} (hempty : ∀ l ∈ lists, l = []) : Merges lists []
  | step {lists : List (List α)} {i : Nat} {a : α} {rest : List α} {out : List (Nat × α)}
      (hi : lists[i]? = some (a :: rest)) (hpicks : Picks key (lists.map List.head?) i a)
      (hout : Merges (lists.set i rest) out) : Merges lists ((i, a) :: out)

variable {lists : List (List α)} {out : List (Nat × α)}

/-- The items of a list come out in its order. -/
theorem Merges.filter (h : Merges key lists out) (i : Nat) :
    (out.filter (·.1 = i)).map Prod.snd = lists[i]?.getD [] := by
  induction h with
  | done hempty =>
    rename_i lists
    cases hi : lists[i]? with
    | none => rfl
    | some l => exact (hempty l (List.mem_of_getElem? hi)).symm
  | step hj hpicks hout ih =>
    rename_i lists j a rest out
    have hlt : j < lists.length := (List.getElem?_eq_some_iff.mp hj).1
    rcases eq_or_ne j i with rfl | hne
    · rw [List.getElem?_set_self hlt] at ih
      simp [hj, ih]
    · rw [List.getElem?_set_ne hne] at ih
      simp [hne, ih]

theorem Merges.mem (h : Merges key lists out) {i : Nat} {a : α} (hmem : (i, a) ∈ out) :
    ∃ l, lists[i]? = some l ∧ a ∈ l := by
  have hfilter := h.filter i
  have ha : a ∈ (out.filter (·.1 = i)).map Prod.snd :=
    List.mem_map.mpr ⟨(i, a), List.mem_filter.mpr ⟨hmem, by simp⟩, rfl⟩
  rw [hfilter] at ha
  cases hi : lists[i]? with
  | none => simp [hi] at ha
  | some l => exact ⟨l, rfl, by simpa [hi] using ha⟩

/-- An item taken off a list is missing in the concatenation, and nothing else is. -/
theorem perm_flatten_set {i : Nat} {a : α} {rest : List α} (hi : lists[i]? = some (a :: rest)) :
    lists.flatten.Perm (a :: (lists.set i rest).flatten) := by
  induction lists generalizing i with
  | nil => simp at hi
  | cons l lists ih =>
    cases i with
    | zero =>
      have hl : l = a :: rest := by simpa using hi
      subst hl
      exact List.Perm.refl _
    | succ i =>
      have hrest := ih (i := i) (by simpa using hi)
      rw [List.set_cons_succ, List.flatten_cons, List.flatten_cons]
      exact (hrest.append_left l).trans List.perm_middle

/-- Nothing is lost and nothing is duplicated. -/
theorem Merges.perm (h : Merges key lists out) : (out.map Prod.snd).Perm lists.flatten := by
  induction h with
  | done hempty =>
    rw [List.flatten_eq_nil_iff.mpr hempty]
    exact List.Perm.refl _
  | step hi hpicks hout ih => exact (ih.cons _).trans (perm_flatten_set hi).symm

/-- The order of what sorted lists merge to. -/
def StableLe (key : α → κ) (p q : Nat × α) : Prop :=
  key p.2 < key q.2 ∨ key p.2 = key q.2 ∧ p.1 ≤ q.1

theorem Merges.sorted (h : Merges key lists out)
    (hsorted : ∀ l ∈ lists, l.Pairwise (key · ≤ key ·)) : out.Pairwise (StableLe key) := by
  induction h with
  | done => exact List.Pairwise.nil
  | step hi hpicks hout ih =>
    rename_i lists i a rest out
    have hlt : i < lists.length := (List.getElem?_eq_some_iff.mp hi).1
    have hcons := List.pairwise_cons.mp (hsorted _ (List.mem_of_getElem? hi))
    refine List.pairwise_cons.mpr ⟨?_, ih fun l hl => ?_⟩
    · rintro ⟨j, b⟩ hmem
      obtain ⟨l, hj, hb⟩ := hout.mem hmem
      rcases eq_or_ne i j with rfl | hne
      · -- a later item of the same list
        rw [List.getElem?_set_self hlt] at hj
        obtain rfl : rest = l := Option.some.inj hj
        rcases lt_or_eq_of_le (hcons.1 b hb) with hless | heq
        · exact Or.inl hless
        · exact Or.inr ⟨heq, Nat.le_refl i⟩
      · -- another list, whose head was not picked and is not above `b`
        rw [List.getElem?_set_ne hne] at hj
        cases l with
        | nil => exact absurd hb (by simp)
        | cons head tail =>
          have hhead : (lists.map List.head?)[j]? = some (some head) := by
            rw [List.getElem?_map, hj]; rfl
          have hhb : key head ≤ key b := by
            rcases List.mem_cons.mp hb with rfl | htail
            · exact le_refl _
            · exact (List.pairwise_cons.mp (hsorted _ (List.mem_of_getElem? hj))).1 b htail
          obtain ⟨hle, hbefore⟩ := hpicks.2 j head hhead
          rcases lt_or_eq_of_le (le_trans hle hhb) with hless | heq
          · exact Or.inl hless
          · refine Or.inr ⟨heq, Nat.le_of_not_lt fun hji => ?_⟩
            exact absurd (lt_of_lt_of_le (hbefore hji) hhb) (by rw [heq]; exact lt_irrefl _)
    · rcases List.mem_or_eq_of_mem_set hl with hold | rfl
      · exact hsorted l hold
      · exact hcons.2

end KWayMerge
