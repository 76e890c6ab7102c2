import Mathlib.Algebra.Order.Field.Rat

/-!
# Decimal texts

A number with a fixed count of decimal places, as the text that prints it.

* **`print`** — the text of so many units of the last place.
* **`value`** — the number that a text says, if it is a decimal.
* **`value_print`** — a printed number is read back.
-/

namespace BptCore.DecimalText

variable (places : Nat)

/-- The digits of `n`, with one at least before the point. -/
def digits (n : Nat) : List Char :=
  List.replicate (places + 1 - (Nat.toDigits 10 n).length) '0' ++ Nat.toDigits 10 n

def printNat (n : Nat) : List Char :=
  let ds := digits places n
  ds.take (ds.length - places) ++ '.' :: ds.drop (ds.length - places)

/-- `m` units of the last place. -/
def print (m : Int) : String :=
  String.ofList (if m < 0 then '-' :: printNat places m.natAbs else printNat places m.natAbs)

def valueNat (cs : List Char) : Option ℚ :=
  let whole := cs.takeWhile (· != '.')
  let fraction := (cs.dropWhile (· != '.')).tail
  if whole ≠ [] ∧ (whole ++ fraction).all Char.isDigit then
    some ((Nat.ofDigitChars 10 (whole ++ fraction) 0 : ℚ) / 10 ^ fraction.length)
  else none

def value (s : String) : Option ℚ :=
  match s.toList with
  | '-' :: cs => (valueNat cs).map fun x => -x
  | cs => valueNat cs

variable {places}

theorem isDigit_of_mem_digits {n : Nat} {c : Char} (h : c ∈ digits places n) :
    c.isDigit = true := by
  rcases List.mem_append.mp h with hzero | hdigit
  · rw [(List.mem_replicate.mp hzero).2]
    rfl
  · exact Nat.isDigit_of_mem_toDigits (by decide) (by decide) hdigit

theorem ofDigitChars_digits (n : Nat) : Nat.ofDigitChars 10 (digits places n) 0 = n := by
  rw [digits, Nat.ofDigitChars_append, Nat.ofDigitChars_replicate_zero, Nat.mul_zero,
    Nat.ofDigitChars_ten_toDigits]

theorem digits_injective : Function.Injective (digits places) := by
  intro n n' h
  rw [← @ofDigitChars_digits places n, h, ofDigitChars_digits]

/-- Digits end at the first character that is none. -/
theorem digits_append_inj {n n' : Nat} {c : Char} (hc : c.isDigit = false) {cs cs' : List Char}
    (h : digits places n ++ c :: cs = digits places n' ++ c :: cs') : n = n' ∧ cs = cs' := by
  have hfront : ∀ (m : Nat) (rest : List Char),
      (digits places m ++ c :: rest).takeWhile Char.isDigit = digits places m := by
    intro m rest
    rw [List.takeWhile_append_of_pos fun d hd => isDigit_of_mem_digits hd,
      List.takeWhile_cons_of_neg (by rw [hc]; decide), List.append_nil]
  have hdigits : digits places n = digits places n' := by
    rw [← hfront n cs, h, hfront]
  rw [hdigits] at h
  exact ⟨digits_injective hdigits, List.tail_eq_of_cons_eq (List.append_cancel_left h)⟩

variable (places) in
theorem lt_length_digits (n : Nat) : places < (digits places n).length := by
  simp only [digits, List.length_append, List.length_replicate]
  omega

/-- Digits before a point and digits after it. -/
theorem valueNat_point {whole fraction : List Char} (hne : whole ≠ [])
    (hdigits : ∀ c ∈ whole ++ fraction, c.isDigit = true) :
    valueNat (whole ++ '.' :: fraction) =
      some ((Nat.ofDigitChars 10 (whole ++ fraction) 0 : ℚ) / 10 ^ fraction.length) := by
  have hpoint : ∀ c ∈ whole, (c != '.') = true := by
    intro c hc
    have hdigit := hdigits c (List.mem_append_left _ hc)
    refine bne_iff_ne.mpr ?_
    rintro rfl
    exact absurd hdigit (by decide)
  have hwhole : (whole ++ '.' :: fraction).takeWhile (· != '.') = whole := by
    rw [List.takeWhile_append_of_pos hpoint]
    simp
  have hfraction : (whole ++ '.' :: fraction).dropWhile (· != '.') = '.' :: fraction := by
    rw [List.dropWhile_append_of_pos hpoint]
    simp
  simp only [valueNat, hwhole, hfraction, List.tail_cons]
  exact if_pos ⟨hne, List.all_eq_true.mpr hdigits⟩

theorem valueNat_printNat (n : Nat) : valueNat (printNat places n) = some ((n : ℚ) / 10 ^ places) := by
  have hlt := lt_length_digits places n
  have hwhole : (digits places n).take ((digits places n).length - places) ≠ [] := by
    intro hnil
    have := congrArg List.length hnil
    simp only [List.length_take, List.length_nil] at this
    omega
  have hlength : ((digits places n).drop ((digits places n).length - places)).length = places := by
    rw [List.length_drop]
    omega
  rw [printNat, valueNat_point hwhole, List.take_append_drop, ofDigitChars_digits, hlength]
  · rw [List.take_append_drop]
    exact fun c hc => isDigit_of_mem_digits hc

/-- Only the sign of a negative number stands before its digits. -/
theorem head?_printNat_ne (n : Nat) (cs : List Char) : printNat places n ≠ '-' :: cs := by
  intro heq
  have hlt := lt_length_digits places n
  obtain ⟨c, ds, hds⟩ := List.exists_cons_of_length_pos (Nat.zero_lt_of_lt hlt)
  obtain ⟨k, hk⟩ : ∃ k, (digits places n).length - places = k + 1 :=
    ⟨(digits places n).length - places - 1, by omega⟩
  have hdigit : c.isDigit = true :=
    isDigit_of_mem_digits (show c ∈ digits places n from hds ▸ List.mem_cons_self)
  rw [printNat, hk, hds, List.take_succ_cons, List.cons_append, List.cons.injEq] at heq
  rw [heq.1] at hdigit
  exact absurd hdigit (by decide)

theorem value_print (m : Int) : value (print places m) = some ((m : ℚ) / 10 ^ places) := by
  unfold value print
  rw [String.toList_ofList]
  by_cases hneg : m < 0
  · rw [if_pos hneg]
    show (valueNat (printNat places m.natAbs)).map (fun x => -x) = _
    have habs : ((m.natAbs : Nat) : ℚ) = -(m : ℚ) := by
      rw [← Int.cast_natCast, Int.ofNat_natAbs_of_nonpos hneg.le, Int.cast_neg]
    rw [valueNat_printNat, Option.map_some, habs, neg_div, neg_neg]
  · rw [if_neg hneg]
    have habs : ((m.natAbs : Nat) : ℚ) = (m : ℚ) := by
      rw [← Int.cast_natCast, Int.natAbs_of_nonneg (not_lt.mp hneg)]
    split
    · next cs heq => exact absurd heq (head?_printNat_ne _ cs)
    · rw [valueNat_printNat, habs]

example : print 6 (-1234567) = "-1.234567" := by decide +kernel

end BptCore.DecimalText
