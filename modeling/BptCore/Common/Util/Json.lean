import Mathlib.Algebra.Order.Field.Rat
import Mathlib.Algebra.Ring.Int.Defs
import Mathlib.Data.Rat.Defs

/-!
# JSON documents and numbers out of texts

A document as the parser hands it over: an object is the list of its fields, of which `find` takes
the one with the name. Where the code calls `as_string`, `as_object` or `to_number` on a value of
another kind it throws, which is `none` here; where it asks for the kind first, a value of another
kind is as good as none.

`std::stod` and `std::stoull`, as far as decimals go: blanks, a sign and digits, and whatever
follows them is left over. Both throw, which is `none`, where there is no digit and where the number
is out of range. The reading of a decimal is exact here; the words for infinities and hexadecimal
numbers are not read.
-/

namespace BptCore.Common

/-! ## Documents -/

/-- `boost::json::value`. -/
inductive Json where
  | null
  | bool (b : Bool)
  | num (x : ℚ)
  | str (s : String)
  | arr (items : List Json)
  | obj (fields : List (String × Json))

/-- `boost::json::object`. -/
abbrev JsonObject := List (String × Json)

namespace Json

/-- `as_string`. -/
def asString : Json → Option String
  | .str s => some s
  | _ => none

/-- `as_object`. -/
def asObject : Json → Option JsonObject
  | .obj fields => some fields
  | _ => none

theorem asObject_eq_some_iff {v : Json} {o : JsonObject} : v.asObject = some o ↔ v = .obj o := by
  cases v <;> simp [asObject]

/-- What a loop over the value goes through. -/
def elements : Json → List Json
  | .null => []
  | .arr items => items
  | .obj fields => fields.map Prod.snd
  | v => [v]

def isNumber : Json → Bool
  | .num _ => true
  | _ => false

/-- `to_number<uint64_t>`: only of a number that is one. -/
def toUInt64 : Json → Option Nat
  | .num x => if x.den = 1 ∧ 0 ≤ x.num ∧ x.num < 2 ^ 64 then some x.num.toNat else none
  | _ => none

/-- `to_number<int64_t>`. -/
def toInt64 : Json → Option Int
  | .num x => if x.den = 1 ∧ -2 ^ 63 ≤ x.num ∧ x.num < 2 ^ 63 then some x.num else none
  | _ => none

end Json

namespace JsonObject

variable (o : JsonObject)

def find (key : String) : Option Json := List.lookup key o

/-- A field that is read when it is a string. -/
def findString (key : String) : Option String := (o.find key).bind Json.asString

/-- A field that is read when it is a number. -/
def findNumber (key : String) : Option ℚ :=
  match o.find key with
  | some (.num x) => some x
  | _ => none

/-- A field that, when it is there, has to be a string: the empty string when it is not, and `none`
when the code throws. -/
def stringOrThrow (key : String) : Option String :=
  match o.find key with
  | none => some ""
  | some v => v.asString

end JsonObject

/-! ## Numbers out of texts -/

namespace NumberText

/-- `std::isspace`. -/
def isSpace (c : Char) : Bool := c = ' ' ∨ ('\t' ≤ c ∧ c ≤ '\r')

/-- Whether there is a minus, and what follows the sign. -/
def splitSign : List Char → Bool × List Char
  | '-' :: cs => (true, cs)
  | '+' :: cs => (false, cs)
  | cs => (false, cs)

def number (digits : List Char) : Nat := Nat.ofDigitChars 10 digits 0

/-- The digits after a point, and what follows them. -/
def splitFraction : List Char → List Char × List Char
  | '.' :: cs => (cs.takeWhile Char.isDigit, cs.dropWhile Char.isDigit)
  | cs => ([], cs)

/-- An exponent counts only with digits. -/
def splitExponent : List Char → Bool × Nat
  | 'e' :: cs | 'E' :: cs =>
    ((splitSign cs).1, number ((splitSign cs).2.takeWhile Char.isDigit))
  | _ => (false, 0)

def scale (x : ℚ) : Bool × Nat → ℚ
  | (true, n) => x / 10 ^ n
  | (false, n) => x * 10 ^ n

/-- Neither too small for a normal double nor rounded up beyond the largest one. -/
def inRange (x : ℚ) : Bool := x = 0 ∨ (1 ≤ |x| * 2 ^ 1022 ∧ |x| < 2 ^ 1024 - 2 ^ 970)

end NumberText

open NumberText

def stod (s : String) : Option ℚ :=
  let (minus, cs) := splitSign (s.toList.dropWhile isSpace)
  let whole := cs.takeWhile Char.isDigit
  let (fraction, cs) := splitFraction (cs.dropWhile Char.isDigit)
  let digits := whole ++ fraction
  let x := scale (number digits / 10 ^ fraction.length) (splitExponent cs)
  if digits ≠ [] ∧ inRange x then some (if minus then -x else x) else none

/-- A minus is taken in the arithmetic of 64 bits. -/
def stoull (s : String) : Option Nat :=
  let (minus, cs) := splitSign (s.toList.dropWhile isSpace)
  let digits := cs.takeWhile Char.isDigit
  if digits ≠ [] ∧ number digits < 2 ^ 64 then
    some (if minus then (2 ^ 64 - number digits) % 2 ^ 64 else number digits)
  else none

example : stod " -2.50e1x" = some (-25) := by decide +kernel
example : stod "" = none := by decide

end BptCore.Common
