import Mathlib.Algebra.BigOperators.Group.List.Basic
import Mathlib.Algebra.GroupWithZero.Nat
import Mathlib.Data.List.Range

/-!
# The Gregorian calendar

Seconds from the start of 1970 on, as a date and a time of the day, without leap seconds. A year is
found by walking through the years from 1970 on, and a month by walking through those of the year.

* **`locate`** — the stretch that a number falls into, of consecutive ones, and how far it is in.
* **`before`** — all that is before a stretch; **`before_locate`** puts the number together again.
* **`Civil.ofSeconds`**, **`Civil.toSeconds`** — to date and time and back.
-/

namespace Calendar

/-! ## Consecutive stretches -/

section Locate

variable (len : Nat → Nat)

/-- From the stretch `i` on, through `fuel` of them at most. -/
def locate : Nat → Nat → Nat → Nat × Nat
  | 0, i, n => (i, n)
  | fuel + 1, i, n => if n < len i then (i, n) else locate fuel (i + 1) (n - len i)

/-- What the stretches from `i` on to before `j` come to. -/
def before (i j : Nat) : Nat := ((List.range' i (j - i)).map len).sum

theorem before_self (i : Nat) : before len i i = 0 := by
  unfold before
  rw [Nat.sub_self]
  rfl

theorem before_succ {i j : Nat} (h : i < j) : before len i j = len i + before len (i + 1) j := by
  unfold before
  obtain ⟨k, hk⟩ := Nat.exists_eq_add_of_lt h
  rw [show j - i = k + 1 by omega, show j - (i + 1) = k by omega, List.range'_succ, List.map_cons,
    List.sum_cons]

theorem before_locate (fuel i n : Nat) :
    i ≤ (locate len fuel i n).1 ∧
      before len i (locate len fuel i n).1 + (locate len fuel i n).2 = n := by
  induction fuel generalizing i n with
  | zero => exact ⟨le_rfl, by rw [locate, before_self, Nat.zero_add]⟩
  | succ fuel ih =>
    rw [locate]
    by_cases hin : n < len i
    · rw [if_pos hin]
      exact ⟨le_rfl, by rw [before_self, Nat.zero_add]⟩
    · obtain ⟨hle, hsum⟩ := ih (i + 1) (n - len i)
      rw [if_neg hin]
      refine ⟨by omega, ?_⟩
      rw [before_succ len (by omega)]
      omega

end Locate

/-! ## Dates -/

def isLeap (year : Nat) : Bool := year % 4 = 0 && (year % 100 != 0 || year % 400 = 0)

def yearDays (year : Nat) : Nat := if isLeap year then 366 else 365

/-- The days of a month, January being 0. -/
def monthDays (year month : Nat) : Nat :=
  [31, if isLeap year then 29 else 28, 31, 30, 31, 30, 31, 31, 30, 31, 30, 31].getD month 31

/-- Months and days are counted from 1. -/
@[ext] structure Civil where
  year : Nat
  month : Nat
  day : Nat
  hour : Nat
  minute : Nat
  second : Nat
  deriving DecidableEq, Repr

namespace Civil

def ofSeconds (t : Nat) : Civil :=
  let days := t / 86400
  let rest := t % 86400
  let y := locate yearDays days 1970 days
  let m := locate (monthDays y.1) y.2 0 y.2
  { year := y.1
    month := m.1 + 1
    day := m.2 + 1
    hour := rest / 3600
    minute := rest % 3600 / 60
    second := rest % 60 }

def toSeconds (c : Civil) : Nat :=
  (before yearDays 1970 c.year + (before (monthDays c.year) 0 (c.month - 1) + (c.day - 1))) * 86400 +
    (c.hour * 3600 + (c.minute * 60 + c.second))

theorem toSeconds_ofSeconds (t : Nat) : toSeconds (ofSeconds t) = t := by
  have hyear := (before_locate yearDays (t / 86400) 1970 (t / 86400)).2
  set y := locate yearDays (t / 86400) 1970 (t / 86400) with hy
  have hmonth := (before_locate (monthDays y.1) y.2 0 y.2).2
  show (before yearDays 1970 y.1 + (before (monthDays y.1) 0 ((locate (monthDays y.1) y.2 0 y.2).1 +
    1 - 1) + ((locate (monthDays y.1) y.2 0 y.2).2 + 1 - 1))) * 86400 +
      (t % 86400 / 3600 * 3600 + (t % 86400 % 3600 / 60 * 60 + t % 86400 % 60)) = t
  rw [Nat.add_sub_cancel, Nat.add_sub_cancel, hmonth, hyear]
  omega

theorem ofSeconds_injective : Function.Injective ofSeconds :=
  Function.LeftInverse.injective toSeconds_ofSeconds

theorem hour_ofSeconds_lt (t : Nat) : (ofSeconds t).hour < 24 := by
  show t % 86400 / 3600 < 24
  omega

theorem minute_ofSeconds_lt (t : Nat) : (ofSeconds t).minute < 60 := by
  show t % 86400 % 3600 / 60 < 60
  omega

theorem second_ofSeconds_lt (t : Nat) : (ofSeconds t).second < 60 := Nat.mod_lt _ (by decide)

/-- The last second of a leap day. -/
example : ofSeconds 1709251199 = ⟨2024, 2, 29, 23, 59, 59⟩ := by decide +kernel

end Civil

end Calendar
