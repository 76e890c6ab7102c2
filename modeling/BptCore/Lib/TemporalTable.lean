import Mathlib.Data.List.Basic
import Mathlib.Order.Lattice

/-!
# Tables that keep their past

Every row of a table has a period of validity, that ends when another row takes its place or is
still open. A table answers two questions: which rows of a key are current, and which of them were
valid at some time. This module owns what a change of such a table may do, and what then stays.

* **`Period.Covers`** — the row was valid at the time.
* **`asOf`**, **`current`** — the rows of a key that were valid at a time, and those that are.
* **`Timeline`** — at every time at most one row of a key, and from the first on always one.
* **`Revision`** — a change at a time: open periods may end there, and new ones begin there.
* **`Revision.asOf_eq`** — a revision leaves what was valid before it.
* **`Timeline.revise`** — a revision keeps a timeline, if it leaves exactly one current row to the
  key of every row.
* **`Timeline.supersede`**, **`Timeline.insert`**, **`Timeline.relabel`** — the kinds of change: the
  current row of a key is followed by another one, a key has its first row, and rows change in what
  is neither key nor period. **`asOf_supersede`** and the like say the same of the past.
-/

namespace Temporal

/-- From a time on, and up to another one, which no longer belongs to it. -/
structure Period (T : Type*) where
  validFrom : T
  validTo : Option T := none
  deriving DecidableEq, Repr

variable {R K T : Type*} [LinearOrder T]

namespace Period

def Covers (p : Period T) (t : T) : Prop := p.validFrom ≤ t ∧ ∀ e ∈ p.validTo, t < e

instance (p : Period T) (t : T) : Decidable (p.Covers t) :=
  inferInstanceAs (Decidable (_ ∧ _))

/-- The period, ended at a time. -/
def close (p : Period T) (now : T) : Period T := { p with validTo := some now }

/-- Both ends are in the past. -/
def EndsBy (p : Period T) (now : T) : Prop := p.validFrom ≤ now ∧ ∀ e ∈ p.validTo, e ≤ now

theorem EndsBy.mono {p : Period T} {now now' : T} (h : p.EndsBy now) (hle : now ≤ now') :
    p.EndsBy now' :=
  ⟨h.1.trans hle, fun e he => (h.2 e he).trans hle⟩

theorem EndsBy.covers_iff {p : Period T} {now t : T} (h : p.EndsBy now) (ht : now ≤ t) :
    p.Covers t ↔ p.validTo = none := by
  constructor
  · rintro ⟨-, hto⟩
    cases hend : p.validTo with
    | none => rfl
    | some e => exact absurd (hto e hend) (not_lt.mpr ((h.2 e hend).trans ht))
  · intro hopen
    exact ⟨h.1.trans ht, by simp [hopen]⟩

theorem covers_close {p : Period T} {now t : T} (hopen : p.validTo = none) (ht : t < now) :
    (p.close now).Covers t ↔ p.Covers t := by
  simp [Covers, close, hopen, ht]

theorem not_covers_of_lt {p : Period T} {t : T} (h : t < p.validFrom) : ¬ p.Covers t :=
  fun hc => absurd hc.1 (not_le.mpr h)

end Period

/-! ## Questions to a table -/

section Queries

variable (key : R → K) (period : R → Period T) [DecidableEq K] (rows : List R) (k : K)

/-- The rows of a key that were valid at the time. -/
def asOf (t : T) : List R := rows.filter fun r => key r = k ∧ (period r).Covers t

/-- The rows of a key whose period is open. -/
def current : List R := rows.filter fun r => key r = k ∧ (period r).validTo = none

/-- What was valid at any one time, in a table that was last changed at `now`. -/
structure Timeline (now : T) : Prop where
  atMostOne : ∀ k t, (asOf key period rows k t).length ≤ 1
  persists : ∀ k t t', t ≤ t' → asOf key period rows k t ≠ [] → asOf key period rows k t' ≠ []
  past : ∀ r ∈ rows, (period r).EndsBy now
  currentRow : ∀ r ∈ rows, ∃ c, current key period rows (key r) = [c]

end Queries

section Timelines

variable {key : R → K} {period : R → Period T} [DecidableEq K] {rows : List R} {now : T}

omit [LinearOrder T] in
theorem mem_current {k : K} {r : R} :
    r ∈ current key period rows k ↔ r ∈ rows ∧ key r = k ∧ (period r).validTo = none := by
  simp [current]

theorem mem_asOf {k : K} {t : T} {r : R} :
    r ∈ asOf key period rows k t ↔ r ∈ rows ∧ key r = k ∧ (period r).Covers t := by
  simp [asOf]

/-- From the last change on, what is valid is what is current. -/
theorem asOf_eq_current (hpast : ∀ r ∈ rows, (period r).EndsBy now) (k : K) {t : T}
    (ht : now ≤ t) : asOf key period rows k t = current key period rows k := by
  refine List.filter_congr fun r hr => ?_
  simp only [(hpast r hr).covers_iff ht]

omit [LinearOrder T] in
theorem current_append (rows' : List R) (k : K) : current key period (rows ++ rows') k =
    current key period rows k ++ current key period rows' k :=
  List.filter_append ..

theorem Timeline.nil (now : T) : Timeline key period [] now where
  atMostOne := by simp [asOf]
  persists := by simp [asOf]
  past := by simp
  currentRow := by simp

namespace Timeline

variable (h : Timeline key period rows now)

include h

theorem mono {now' : T} (hle : now ≤ now') : Timeline key period rows now' :=
  { h with past := fun r hr => (h.past r hr).mono hle }

/-- A current row is the only one of its key. -/
theorem current_eq_singleton {k : K} {r : R} (hr : r ∈ current key period rows k) :
    current key period rows k = [r] := by
  obtain ⟨hmem, rfl, -⟩ := mem_current.mp hr
  obtain ⟨c, hc⟩ := h.currentRow r hmem
  rw [hc, List.mem_singleton] at hr
  rw [hc, hr]

theorem eq_of_mem_current {k : K} {r r' : R} (hr : r ∈ current key period rows k)
    (hr' : r' ∈ current key period rows k) : r = r' := by
  rw [h.current_eq_singleton hr', List.mem_singleton] at hr
  exact hr

/-- From the time on at which a row of the key was valid, exactly one is at every time. -/
theorem existsUnique {k : K} {t t' : T} (ht : t ≤ t') (hfirst : asOf key period rows k t ≠ []) :
    ∃ r, asOf key period rows k t' = [r] := by
  have hlength := h.atMostOne k t'
  match hasOf : asOf key period rows k t', hlength with
  | [], _ => exact absurd hasOf (h.persists k t t' ht hfirst)
  | [r], _ => exact ⟨r, rfl⟩

end Timeline

end Timelines

/-! ## Revisions -/

/-- A change of a table at a time: open rows may end there, and more rows follow that begin there.
The rows keep their keys; these may be read off more than the row, so there is one key before and
one after. -/
structure Revision (key key' : R → K) (period : R → Period T) (rows : List R) (now : T)
    (rows' : List R) where
  update : R → R
  added : List R
  rows_eq : rows' = rows.map update ++ added
  key_update : ∀ r ∈ rows, key' (update r) = key r
  period_update : ∀ r ∈ rows, period (update r) = period r ∨
    (period r).validTo = none ∧ period (update r) = (period r).close now
  added_from : ∀ r ∈ added, (period r).validFrom = now ∧ ∀ e ∈ (period r).validTo, e = now

section Revisions

variable {key key' : R → K} {period : R → Period T} {rows rows' : List R} {now : T}

namespace Revision

variable (v : Revision key key' period rows now rows')

theorem covers_update {r : R} (hr : r ∈ rows) {t : T} (ht : t < now) :
    (period (v.update r)).Covers t ↔ (period r).Covers t := by
  rcases v.period_update r hr with heq | ⟨hopen, heq⟩
  · rw [heq]
  · rw [heq, Period.covers_close hopen ht]

/-- **A revision leaves the past.** What was valid before it still is, in the rows as they are
now. -/
theorem asOf_eq [DecidableEq K] (k : K) {t : T} (ht : t < now) :
    asOf key' period rows' k t = (asOf key period rows k t).map v.update := by
  have hadded : (v.added.filter fun r => key' r = k ∧ (period r).Covers t) = [] := by
    refine List.filter_eq_nil_iff.mpr fun r hr => ?_
    have hbegins : t < (period r).validFrom := by rw [(v.added_from r hr).1]; exact ht
    simp [Period.not_covers_of_lt hbegins]
  conv_lhs => rw [asOf, v.rows_eq, List.filter_append, hadded, List.append_nil, List.filter_map]
  rw [asOf]
  congr 1
  refine List.filter_congr fun r hr => ?_
  simp only [Function.comp_apply, v.key_update r hr, v.covers_update hr ht]

include v in
theorem past (h : ∀ r ∈ rows, (period r).EndsBy now) : ∀ r ∈ rows', (period r).EndsBy now := by
  intro r hr
  rw [v.rows_eq, List.mem_append] at hr
  rcases hr with hold | hnew
  · obtain ⟨r, hr, rfl⟩ := List.mem_map.mp hold
    rcases v.period_update r hr with heq | ⟨-, heq⟩
    · rw [heq]
      exact h r hr
    · rw [heq]
      exact ⟨(h r hr).1, by simp [Period.close]⟩
  · obtain ⟨hfrom, hto⟩ := v.added_from r hnew
    exact ⟨hfrom.le, fun e he => (hto e he).le⟩

end Revision

/-- **A revision keeps a timeline**, if it leaves exactly one current row to the key of every row. -/
theorem Timeline.revise [DecidableEq K] (h : Timeline key period rows now)
    (v : Revision key key' period rows now rows')
    (hcurrent : ∀ r ∈ rows', ∃ c, current key' period rows' (key' r) = [c]) :
    Timeline key' period rows' now := by
  have hpast := v.past h.past
  have hone : ∀ k, (current key' period rows' k).length ≤ 1 := by
    intro k
    rcases hnil : current key' period rows' k with _ | ⟨r, rest⟩
    · simp
    · obtain ⟨hmem, hkey, -⟩ := mem_current.mp (hnil ▸ List.mem_cons_self : r ∈ _)
      obtain ⟨c, hc⟩ := hcurrent r hmem
      rw [hkey, hnil] at hc
      rw [hc]
      simp
  refine ⟨fun k t => ?_, fun k t t' ht hbefore => ?_, hpast, hcurrent⟩
  · rcases lt_or_ge t now with hlt | hge
    · rw [v.asOf_eq k hlt, List.length_map]
      exact h.atMostOne k t
    · rw [asOf_eq_current hpast k hge]
      exact hone k
  · rcases lt_or_ge t' now with hlt | hge
    · rw [v.asOf_eq k hlt, ne_eq, List.map_eq_nil_iff]
      rw [v.asOf_eq k (ht.trans_lt hlt), ne_eq, List.map_eq_nil_iff] at hbefore
      exact h.persists k t t' ht hbefore
    · -- a row of the key is there, so it has a current one
      obtain ⟨r, hr⟩ := List.exists_mem_of_ne_nil _ hbefore
      obtain ⟨hmem, rfl, -⟩ := mem_asOf.mp hr
      obtain ⟨c, hc⟩ := hcurrent r hmem
      rw [asOf_eq_current hpast _ hge, hc]
      simp

/-! ## The two kinds of change -/

/-- A change of the rows that leaves keys and periods is a revision at any time. -/
def Revision.relabel (now : T) (update : R → R) (hkey : ∀ r ∈ rows, key' (update r) = key r)
    (hperiod : ∀ r ∈ rows, period (update r) = period r) :
    Revision key key' period rows now (rows.map update) where
  update := update
  added := []
  rows_eq := (List.append_nil _).symm
  key_update := hkey
  period_update r hr := .inl (hperiod r hr)
  added_from := by simp

variable [DecidableEq K]

/-- The current rows of a key end at a time, and one row follows. -/
def Revision.supersede (k : K) (update : R → R) (new : R)
    (hkey : ∀ r ∈ rows, key' (update r) = key r)
    (hperiod : ∀ r ∈ rows, period (update r) =
      if key r = k ∧ (period r).validTo = none then (period r).close now else period r)
    (hnew : period new = { validFrom := now }) :
    Revision key key' period rows now (rows.map update ++ [new]) where
  update := update
  added := [new]
  rows_eq := rfl
  key_update := hkey
  period_update r hr := by
    rw [hperiod r hr]
    split
    · exact .inr ⟨(‹key r = k ∧ _›).2, rfl⟩
    · exact .inl rfl
  added_from := by simp [hnew]

omit [LinearOrder T] in
/-- What is current after a change that leaves keys and periods. -/
theorem current_map_relabel {update : R → R} (hkey : ∀ r ∈ rows, key' (update r) = key r)
    (hperiod : ∀ r ∈ rows, period (update r) = period r) (k : K) :
    current key' period (rows.map update) k = (current key period rows k).map update := by
  rw [current, current, List.filter_map]
  congr 1
  refine List.filter_congr fun r hr => ?_
  simp only [Function.comp_apply, hkey r hr, hperiod r hr]

omit [LinearOrder T] in
/-- What is current after the current rows of a key have ended and another one has followed. -/
theorem current_supersede {k : K} {update : R → R} {new : R}
    (hkey : ∀ r ∈ rows, key' (update r) = key r)
    (hperiod : ∀ r ∈ rows, period (update r) =
      if key r = k ∧ (period r).validTo = none then (period r).close now else period r)
    (hnewKey : key' new = k) (hnew : period new = { validFrom := now }) (k' : K) :
    current key' period (rows.map update ++ [new]) k' =
      if k' = k then [new] else (current key period rows k').map update := by
  have hold : current key' period (rows.map update) k' =
      if k' = k then [] else (current key period rows k').map update := by
    split
    · refine List.filter_eq_nil_iff.mpr fun r' hr' => ?_
      obtain ⟨r, hr, rfl⟩ := List.mem_map.mp hr'
      simp only [decide_eq_true_eq, hkey r hr, not_and]
      intro hk hopen
      rw [hperiod r hr] at hopen
      split at hopen
      · simp [Period.close] at hopen
      · exact ‹¬ (key r = k ∧ _)› ⟨hk.trans ‹k' = k›, hopen⟩
    · rw [current, current, List.filter_map]
      congr 1
      refine List.filter_congr fun r hr => ?_
      simp only [Function.comp_apply, hkey r hr, decide_eq_decide]
      refine and_congr_right fun hk => ?_
      rw [hperiod r hr, if_neg fun hc => ‹¬ k' = k› (hk.symm.trans hc.1)]
  have hadded : current key' period [new] k' = if k' = k then [new] else [] := by
    simp [current, hnewKey, hnew, List.filter_cons, eq_comm]
  rw [current_append, hold, hadded]
  split <;> simp

omit [LinearOrder T] in
theorem current_rekey (hkey : ∀ r ∈ rows, key' r = key r) (k : K) :
    current key' period rows k = current key period rows k :=
  List.filter_congr fun r hr => by rw [hkey r hr]

omit [LinearOrder T] in
/-- What is current after the first row of a key. -/
theorem current_insert {new : R} (hfirst : ∀ r ∈ rows, key r ≠ key new)
    (hnew : period new = { validFrom := now }) (k : K) :
    current key period (rows ++ [new]) k =
      if k = key new then [new] else current key period rows k := by
  have h : current key period (rows.map id ++ [new]) k =
      if k = key new then [new] else (current key period rows k).map id :=
    current_supersede (fun _ _ => rfl)
      (fun r hr => (if_neg fun hk => hfirst r hr hk.1).symm) rfl hnew k
  rwa [List.map_id, List.map_id] at h

theorem Timeline.relabel (h : Timeline key period rows now) {update : R → R}
    (hkey : ∀ r ∈ rows, key' (update r) = key r)
    (hperiod : ∀ r ∈ rows, period (update r) = period r) :
    Timeline key' period (rows.map update) now := by
  refine h.revise (Revision.relabel now update hkey hperiod) fun r' hr' => ?_
  obtain ⟨r, hr, rfl⟩ := List.mem_map.mp hr'
  obtain ⟨c, hc⟩ := h.currentRow r hr
  rw [hkey r hr, current_map_relabel hkey hperiod, hc]
  exact ⟨_, rfl⟩

theorem Timeline.supersede (h : Timeline key period rows now) {k : K} {update : R → R} {new : R}
    (hkey : ∀ r ∈ rows, key' (update r) = key r)
    (hperiod : ∀ r ∈ rows, period (update r) =
      if key r = k ∧ (period r).validTo = none then (period r).close now else period r)
    (hnewKey : key' new = k) (hnew : period new = { validFrom := now }) :
    Timeline key' period (rows.map update ++ [new]) now := by
  refine h.revise (Revision.supersede k update new hkey hperiod hnew) fun r' hr' => ?_
  rw [current_supersede hkey hperiod hnewKey hnew]
  by_cases hk : key' r' = k
  · exact ⟨new, if_pos hk⟩
  · rcases List.mem_append.mp hr' with hold | hlast
    · obtain ⟨r, hr, rfl⟩ := List.mem_map.mp hold
      obtain ⟨c, hc⟩ := h.currentRow r hr
      rw [if_neg hk, hkey r hr, hc]
      exact ⟨_, rfl⟩
    · exact absurd ((congrArg key' (List.mem_singleton.mp hlast)).trans hnewKey) hk

/-- The keys may be read off in another way, as long as they are the same. -/
theorem Timeline.rekey (h : Timeline key period rows now) (hkey : ∀ r ∈ rows, key' r = key r) :
    Timeline key' period rows now := by
  have hrelabel : Timeline key' period (rows.map id) now := h.relabel hkey fun _ _ => rfl
  rwa [List.map_id] at hrelabel

/-- The first row of a key. -/
theorem Timeline.insert (h : Timeline key period rows now) {new : R}
    (hfirst : ∀ r ∈ rows, key r ≠ key new) (hnew : period new = { validFrom := now }) :
    Timeline key period (rows ++ [new]) now := by
  have hsupersede : Timeline key period (rows.map id ++ [new]) now := by
    refine h.supersede (fun _ _ => rfl) (fun r hr => ?_) rfl hnew
    rw [if_neg fun hk => hfirst r hr hk.1]
    rfl
  rwa [List.map_id] at hsupersede

/-! ## The past after a change -/

theorem asOf_relabel {update : R → R} (hkey : ∀ r ∈ rows, key' (update r) = key r)
    (hperiod : ∀ r ∈ rows, period (update r) = period r) (k : K) (t : T) :
    asOf key' period (rows.map update) k t = (asOf key period rows k t).map update := by
  rw [asOf, asOf, List.filter_map]
  congr 1
  refine List.filter_congr fun r hr => ?_
  simp only [Function.comp_apply, hkey r hr, hperiod r hr]

theorem asOf_rekey (hkey : ∀ r ∈ rows, key' r = key r) (k : K) (t : T) :
    asOf key' period rows k t = asOf key period rows k t :=
  List.filter_congr fun r hr => by rw [hkey r hr]

theorem asOf_supersede {k : K} {update : R → R} {new : R}
    (hkey : ∀ r ∈ rows, key' (update r) = key r)
    (hperiod : ∀ r ∈ rows, period (update r) =
      if key r = k ∧ (period r).validTo = none then (period r).close now else period r)
    (hnew : period new = { validFrom := now }) (k' : K) {t : T} (ht : t < now) :
    asOf key' period (rows.map update ++ [new]) k' t = (asOf key period rows k' t).map update :=
  (Revision.supersede k update new hkey hperiod hnew).asOf_eq k' ht

theorem asOf_insert {new : R} (hnew : (period new).validFrom = now) (k : K) {t : T}
    (ht : t < now) : asOf key period (rows ++ [new]) k t = asOf key period rows k t := by
  rw [asOf, List.filter_append, List.filter_singleton, decide_eq_false, asOf]
  · simp
  · exact fun hc => Period.not_covers_of_lt (hnew.symm ▸ ht) hc.2

end Revisions

end Temporal
