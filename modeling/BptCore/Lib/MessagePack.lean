import BptCore.Lib.FixedCodec
import Mathlib.Data.List.Infix
import Mathlib.Data.UInt

/-!
# MessagePack

The part of the format that a JSON document needs: nothing, booleans, integers, doubles, strings,
arrays and maps from strings. A value starts with a tag, which says how many bytes of a number
follow it and what the two mean; most integers and sizes have several such forms.

* **`Form`**, **`Form.Means`** — a tag and its number, and the head that they stand for.
* **`shortest`** — the form that the writer takes; `width_shortest_le`: none is narrower.
* **`readHead_eq_some_iff`** — the reader takes every form.
* **`read_write`** — what is written is read back, whatever follows it.
* **`length_write_le`** — nothing shorter is read as the same value.
-/

universe u

namespace MessagePack

/-! ## Numbers -/

/-- The `w` lowest bytes of `n`, highest first. -/
def bigEndian (w n : Nat) : List UInt8 := (FixedCodec.toBytes w n).reverse

theorem length_bigEndian (w n : Nat) : (bigEndian w n).length = w := by
  rw [bigEndian, List.length_reverse, FixedCodec.length_toBytes]

theorem bigEndian_succ (w n : Nat) :
    bigEndian (w + 1) n = UInt8.ofNat (n / 256 ^ w) :: bigEndian w n := by
  have hsnoc : ∀ n, FixedCodec.toBytes (w + 1) n =
      FixedCodec.toBytes w n ++ [UInt8.ofNat (n / 256 ^ w)] := by
    induction w with
    | zero => intro n; rw [pow_zero, Nat.div_one]; rfl
    | succ w ih =>
      intro n
      rw [FixedCodec.toBytes, ih (n / 256), FixedCodec.toBytes, Nat.div_div_eq_div_mul,
        pow_succ']
      rfl
  rw [bigEndian, hsnoc n, List.reverse_append]
  rfl

def takeBytes (n : Nat) (bytes : List UInt8) : Option (List UInt8 × List UInt8) :=
  if n ≤ bytes.length then some (bytes.take n, bytes.drop n) else none

theorem takeBytes_eq_some_iff {n : Nat} {bytes bs rest : List UInt8} :
    takeBytes n bytes = some (bs, rest) ↔ bs.length = n ∧ bytes = bs ++ rest := by
  rw [takeBytes]
  constructor
  · intro h
    split at h
    · rename_i hle
      obtain ⟨rfl, rfl⟩ := Prod.mk.inj (Option.some.inj h)
      exact ⟨List.length_take_of_le hle, (List.take_append_drop n bytes).symm⟩
    · exact absurd h.symm (Option.some_ne_none _)
  · rintro ⟨rfl, rfl⟩
    rw [if_pos (by rw [List.length_append]; omega), List.take_left, List.drop_left]

/-- The number in the next `w` bytes. -/
def readNumber (w : Nat) (bytes : List UInt8) : Option (Nat × List UInt8) :=
  (takeBytes w bytes).map fun taken => (FixedCodec.ofBytes taken.1.reverse, taken.2)

theorem readNumber_eq_some_iff {w n : Nat} {bytes rest : List UInt8} :
    readNumber w bytes = some (n, rest) ↔ n < 256 ^ w ∧ bytes = bigEndian w n ++ rest := by
  rw [readNumber, Option.map_eq_some_iff]
  constructor
  · rintro ⟨⟨bs, rest'⟩, htake, heq⟩
    obtain ⟨hlen, rfl⟩ := takeBytes_eq_some_iff.mp htake
    obtain ⟨rfl, rfl⟩ := Prod.mk.inj heq
    have hrev : bs.reverse.length = w := by rw [List.length_reverse, hlen]
    refine ⟨hrev ▸ FixedCodec.ofBytes_lt bs.reverse, ?_⟩
    rw [bigEndian, ← hrev, FixedCodec.toBytes_ofBytes, List.reverse_reverse]
  · rintro ⟨hlt, rfl⟩
    refine ⟨(bigEndian w n, rest), takeBytes_eq_some_iff.mpr ⟨length_bigEndian w n, rfl⟩, ?_⟩
    rw [bigEndian, List.reverse_reverse, FixedCodec.ofBytes_toBytes hlt]

/-- `n` as a signed number of `w` bytes. -/
def signed (w n : Nat) : Int :=
  if 2 * n < 256 ^ w then n else n - (256 ^ w : ℕ)

/-! ## Heads -/

/-- What a value starts with: a scalar, or the size of what follows. -/
inductive Head where
  | nil
  | bool (b : Bool)
  | int (n : Int)
  | float (bits : UInt64)
  | str (size : Nat)
  | arr (size : Nat)
  | map (size : Nat)
  deriving DecidableEq, Repr

/-- The format has integers of 64 bits, with or without a sign, and sizes of 32. -/
def Head.Fits : Head → Prop
  | .int n => -2 ^ 63 ≤ n ∧ n < 2 ^ 64
  | .str size | .arr size | .map size => size < 2 ^ 32
  | .nil | .bool _ | .float _ => True

/-- How many bytes of a number follow a tag, and what head they make. -/
def tagged (tag : Nat) : Option (Nat × (Nat → Head)) :=
  if tag < 0x80 then some (0, fun _ => .int tag)
  else if tag < 0x90 then some (0, fun _ => .map (tag - 0x80))
  else if tag < 0xa0 then some (0, fun _ => .arr (tag - 0x90))
  else if tag < 0xc0 then some (0, fun _ => .str (tag - 0xa0))
  else if 0xe0 ≤ tag then some (0, fun _ => .int (tag - 256))
  else
    match tag with
    | 0xc0 => some (0, fun _ => .nil)
    | 0xc2 => some (0, fun _ => .bool false)
    | 0xc3 => some (0, fun _ => .bool true)
    | 0xcb => some (8, fun n => .float (UInt64.ofNat n))
    | 0xcc => some (1, fun n => .int n)
    | 0xcd => some (2, fun n => .int n)
    | 0xce => some (4, fun n => .int n)
    | 0xcf => some (8, fun n => .int n)
    | 0xd0 => some (1, fun n => .int (signed 1 n))
    | 0xd1 => some (2, fun n => .int (signed 2 n))
    | 0xd2 => some (4, fun n => .int (signed 4 n))
    | 0xd3 => some (8, fun n => .int (signed 8 n))
    | 0xd9 => some (1, .str)
    | 0xda => some (2, .str)
    | 0xdb => some (4, .str)
    | 0xdc => some (2, .arr)
    | 0xdd => some (4, .arr)
    | 0xde => some (2, .map)
    | 0xdf => some (4, .map)
    -- the families that JSON has no use for
    | _ => none

/-- A tag with the number after it. -/
structure Form where
  tag : UInt8
  width : Nat
  number : Nat
  deriving DecidableEq, Repr

namespace Form

def bytes (f : Form) : List UInt8 := f.tag :: bigEndian f.width f.number

theorem length_bytes (f : Form) : f.bytes.length = f.width + 1 := by
  rw [bytes, List.length_cons, length_bigEndian]

/-- The form is one of the head's. -/
def Means (f : Form) (head : Head) : Prop :=
  f.number < 256 ^ f.width ∧
    ∃ make, tagged f.tag.toNat = some (f.width, make) ∧ make f.number = head

end Form

def readHead : List UInt8 → Option (Head × List UInt8)
  | [] => none
  | tag :: bytes => do
    let (width, make) ← tagged tag.toNat
    let (number, rest) ← readNumber width bytes
    some (make number, rest)

/-- The reader takes any form of a head. -/
theorem readHead_eq_some_iff {head : Head} {bytes rest : List UInt8} :
    readHead bytes = some (head, rest) ↔ ∃ f : Form, f.Means head ∧ bytes = f.bytes ++ rest := by
  constructor
  · intro h
    cases bytes with
    | nil => exact absurd h.symm (Option.some_ne_none _)
    | cons tag bytes =>
      obtain ⟨⟨width, make⟩, htag, h⟩ := Option.bind_eq_some_iff.mp h
      obtain ⟨⟨number, rest'⟩, hnumber, h⟩ := Option.bind_eq_some_iff.mp h
      obtain ⟨rfl, rfl⟩ := Prod.mk.inj (Option.some.inj h)
      obtain ⟨hlt, rfl⟩ := readNumber_eq_some_iff.mp hnumber
      exact ⟨⟨tag, width, number⟩, ⟨hlt, make, htag, rfl⟩, rfl⟩
  · rintro ⟨f, ⟨hlt, make, htag, rfl⟩, rfl⟩
    have hnumber : readNumber f.width (bigEndian f.width f.number ++ rest) =
        some (f.number, rest) := readNumber_eq_some_iff.mpr ⟨hlt, rfl⟩
    show (tagged f.tag.toNat).bind _ = _
    rw [htag, Option.bind_some]
    show (readNumber f.width (bigEndian f.width f.number ++ rest)).bind _ = _
    rw [hnumber]
    rfl

/-! ## The shortest form -/

/-- A tag that says it all. -/
def fixed (tag : Nat) : Form := ⟨UInt8.ofNat tag, 0, 0⟩

def shortestNat (n : Nat) : Form :=
  if n < 0x80 then fixed n
  else if n < 2 ^ 8 then ⟨0xcc, 1, n⟩
  else if n < 2 ^ 16 then ⟨0xcd, 2, n⟩
  else if n < 2 ^ 32 then ⟨0xce, 4, n⟩
  else ⟨0xcf, 8, n⟩

/-- The form of `-n`. -/
def shortestNegative (n : Nat) : Form :=
  if n ≤ 32 then fixed (256 - n)
  else if n ≤ 2 ^ 7 then ⟨0xd0, 1, 2 ^ 8 - n⟩
  else if n ≤ 2 ^ 15 then ⟨0xd1, 2, 2 ^ 16 - n⟩
  else if n ≤ 2 ^ 31 then ⟨0xd2, 4, 2 ^ 32 - n⟩
  else ⟨0xd3, 8, 2 ^ 64 - n⟩

def shortest : Head → Form
  | .nil => fixed 0xc0
  | .bool b => fixed (if b then 0xc3 else 0xc2)
  | .int n => if 0 ≤ n then shortestNat n.toNat else shortestNegative (-n).toNat
  | .float bits => ⟨0xcb, 8, bits.toNat⟩
  | .str size =>
    if size < 32 then fixed (0xa0 + size)
    else if size < 2 ^ 8 then ⟨0xd9, 1, size⟩
    else if size < 2 ^ 16 then ⟨0xda, 2, size⟩
    else ⟨0xdb, 4, size⟩
  | .arr size =>
    if size < 16 then fixed (0x90 + size)
    else if size < 2 ^ 16 then ⟨0xdc, 2, size⟩
    else ⟨0xdd, 4, size⟩
  | .map size =>
    if size < 16 then fixed (0x80 + size)
    else if size < 2 ^ 16 then ⟨0xde, 2, size⟩
    else ⟨0xdf, 4, size⟩

def writeHead (head : Head) : List UInt8 := (shortest head).bytes

theorem means_fixed {tag : Nat} {head : Head} (h : tag < 256)
    (htag : tagged tag = some (0, fun _ => head)) : (fixed tag).Means head := by
  refine ⟨Nat.one_pos, fun _ => head, ?_, rfl⟩
  show tagged (UInt8.ofNat tag).toNat = some (0, fun _ => head)
  rw [UInt8.toNat_ofNat_of_lt' h, htag]

theorem means_wide {tag : UInt8} {width number : Nat} {make : Nat → Head} {head : Head}
    (h : number < 256 ^ width) (htag : tagged tag.toNat = some (width, make))
    (hmake : make number = head) : (Form.mk tag width number).Means head :=
  ⟨h, make, htag, hmake⟩

theorem means_shortestNat {n : Nat} (h : n < 2 ^ 64) : (shortestNat n).Means (.int n) := by
  unfold shortestNat
  split_ifs with h7 h8 h16 h32
  · exact means_fixed (by omega) (if_pos h7)
  · exact means_wide h8 rfl rfl
  · exact means_wide h16 rfl rfl
  · exact means_wide h32 rfl rfl
  · exact means_wide h rfl rfl

theorem signed_sub {w n : Nat} (hpos : 0 < n) (h : 2 * n ≤ 256 ^ w) :
    signed w (256 ^ w - n) = -n := by
  rw [signed, if_neg (by omega)]
  omega

theorem means_shortestNegative {n : Nat} (hpos : 0 < n) (h : n ≤ 2 ^ 63) :
    (shortestNegative n).Means (.int (-n)) := by
  unfold shortestNegative
  split_ifs with h5 h7 h15 h31
  · refine means_fixed (by omega) ?_
    simp only [tagged]
    rw [if_neg (by omega), if_neg (by omega), if_neg (by omega), if_neg (by omega),
      if_pos (by omega)]
    have hint : ((256 - n : ℕ) : Int) - 256 = -n := by omega
    rw [hint]
  · exact means_wide (by omega) rfl (congrArg Head.int (signed_sub (w := 1) hpos (by omega)))
  · exact means_wide (by omega) rfl (congrArg Head.int (signed_sub (w := 2) hpos (by omega)))
  · exact means_wide (by omega) rfl (congrArg Head.int (signed_sub (w := 4) hpos (by omega)))
  · exact means_wide (by omega) rfl (congrArg Head.int (signed_sub (w := 8) hpos (by omega)))

theorem means_shortest {head : Head} (h : head.Fits) : (shortest head).Means head := by
  cases head with
  | nil => exact means_fixed (by decide) rfl
  | bool b => cases b <;> exact means_fixed (by decide) rfl
  | int n =>
    obtain ⟨hge, hlt⟩ := h
    simp only [shortest]
    split_ifs with hpos
    · have hmeans := means_shortestNat (n := n.toNat) (by omega)
      rwa [Int.toNat_of_nonneg hpos] at hmeans
    · have hmeans := means_shortestNegative (n := (-n).toNat) (by omega) (by omega)
      rwa [Int.toNat_of_nonneg (by omega), neg_neg] at hmeans
  | float bits => exact means_wide bits.toNat_lt rfl (congrArg Head.float UInt64.ofNat_toNat)
  | str size =>
    simp only [shortest]
    split_ifs with h5 h8 h16
    · refine means_fixed (by omega) ?_
      simp only [tagged]
      rw [if_neg (by omega), if_neg (by omega), if_neg (by omega), if_pos (by omega),
        Nat.add_sub_cancel_left]
    · exact means_wide h8 rfl rfl
    · exact means_wide h16 rfl rfl
    · exact means_wide h rfl rfl
  | arr size =>
    simp only [shortest]
    split_ifs with h4 h16
    · refine means_fixed (by omega) ?_
      simp only [tagged]
      rw [if_neg (by omega), if_neg (by omega), if_pos (by omega), Nat.add_sub_cancel_left]
    · exact means_wide h16 rfl rfl
    · exact means_wide h rfl rfl
  | map size =>
    simp only [shortest]
    split_ifs with h4 h16
    · refine means_fixed (by omega) ?_
      simp only [tagged]
      rw [if_neg (by omega), if_pos (by omega), Nat.add_sub_cancel_left]
    · exact means_wide h16 rfl rfl
    · exact means_wide h rfl rfl

theorem width_int_le {n : Int} {w : Nat}
    (h : w = 8 ∨ w = 4 ∧ -2 ^ 31 ≤ n ∧ n < 2 ^ 32 ∨ w = 2 ∧ -2 ^ 15 ≤ n ∧ n < 2 ^ 16 ∨
      w = 1 ∧ -2 ^ 7 ≤ n ∧ n < 2 ^ 8 ∨ -32 ≤ n ∧ n < 2 ^ 7) :
    (shortest (.int n)).width ≤ w := by
  simp only [shortest, shortestNat, shortestNegative]
  split_ifs <;> dsimp only [fixed] <;> omega

theorem width_str_le {size w : Nat}
    (h : w = 4 ∨ w = 2 ∧ size < 2 ^ 16 ∨ w = 1 ∧ size < 2 ^ 8 ∨ size < 32) :
    (shortest (.str size)).width ≤ w := by
  simp only [shortest]
  split_ifs <;> dsimp only [fixed] <;> omega

theorem width_arr_le {size w : Nat} (h : w = 4 ∨ w = 2 ∧ size < 2 ^ 16 ∨ size < 16) :
    (shortest (.arr size)).width ≤ w := by
  simp only [shortest]
  split_ifs <;> dsimp only [fixed] <;> omega

theorem width_map_le {size w : Nat} (h : w = 4 ∨ w = 2 ∧ size < 2 ^ 16 ∨ size < 16) :
    (shortest (.map size)).width ≤ w := by
  simp only [shortest]
  split_ifs <;> dsimp only [fixed] <;> omega

theorem signed_mem {w n : Nat} (h : n < 256 ^ w) :
    -(256 ^ w : ℕ) ≤ 2 * signed w n ∧ 2 * signed w n < (256 ^ w : ℕ) := by
  unfold signed
  split_ifs <;> omega

/-- **The shortest form**: no form of a head has a number of fewer bytes. -/
theorem Form.Means.fits_and_width_le {f : Form} {head : Head} (h : f.Means head) :
    head.Fits ∧ (shortest head).width ≤ f.width := by
  obtain ⟨tag, width, number⟩ := f
  obtain ⟨hlt, make, htag, rfl⟩ := h
  have htag256 : tag.toNat < 256 := tag.toNat_lt
  simp only at hlt htag ⊢
  generalize tag.toNat = t at htag htag256
  unfold tagged at htag
  -- a tag stands for numbers in a range of its own, and the writer has a form of the tag's width
  -- or a narrower one for each of them
  split_ifs at htag with h7 h4 h4' h5 hneg
  · cases htag
    exact ⟨And.intro (by omega) (by omega), width_int_le (by omega)⟩
  · cases htag
    exact ⟨show t - 0x80 < 2 ^ 32 by omega, width_map_le (by omega)⟩
  · cases htag
    exact ⟨show t - 0x90 < 2 ^ 32 by omega, width_arr_le (by omega)⟩
  · cases htag
    exact ⟨show t - 0xa0 < 2 ^ 32 by omega, width_str_le (by omega)⟩
  · cases htag
    exact ⟨And.intro (by omega) (by omega), width_int_le (by omega)⟩
  · split at htag <;> cases htag
    case h_1.refl | h_2.refl | h_3.refl | h_4.refl => exact ⟨trivial, Nat.le_refl _⟩
    case h_5.refl | h_6.refl | h_7.refl | h_8.refl =>
      exact ⟨And.intro (by omega) (by omega), width_int_le (by omega)⟩
    case h_9.refl | h_10.refl | h_11.refl | h_12.refl =>
      obtain ⟨hge, hle⟩ := signed_mem hlt
      exact ⟨And.intro (by omega) (by omega), width_int_le (by omega)⟩
    case h_13.refl | h_14.refl | h_15.refl =>
      exact ⟨show number < 2 ^ 32 by omega, width_str_le (by omega)⟩
    case h_16.refl | h_17.refl =>
      exact ⟨show number < 2 ^ 32 by omega, width_arr_le (by omega)⟩
    case h_18.refl | h_19.refl =>
      exact ⟨show number < 2 ^ 32 by omega, width_map_le (by omega)⟩

theorem readHead_writeHead {head : Head} (h : head.Fits) (rest : List UInt8) :
    readHead (writeHead head ++ rest) = some (head, rest) :=
  readHead_eq_some_iff.mpr ⟨shortest head, means_shortest h, rfl⟩

theorem length_writeHead_le {head : Head} {bytes rest : List UInt8}
    (h : readHead bytes = some (head, rest)) :
    head.Fits ∧ (writeHead head).length + rest.length ≤ bytes.length := by
  obtain ⟨f, hmeans, rfl⟩ := readHead_eq_some_iff.mp h
  obtain ⟨hfits, hle⟩ := hmeans.fits_and_width_le
  refine ⟨hfits, ?_⟩
  rw [writeHead, Form.length_bytes, List.length_append, Form.length_bytes]
  omega

/-! ## Values -/

inductive Value where
  | nil
  | bool (b : Bool)
  | int (n : Int)
  | float (bits : UInt64)
  | str (s : List UInt8)
  | arr (items : List Value)
  | map (fields : List (List UInt8 × Value))

/-- A value that the format has, at every depth. -/
inductive Value.Fits : Value → Prop where
  | nil : Fits .nil
  | bool (b : Bool) : Fits (.bool b)
  | int {n : Int} (hn : (Head.int n).Fits) : Fits (.int n)
  | float (bits : UInt64) : Fits (.float bits)
  | str {s : List UInt8} (hs : (Head.str s.length).Fits) : Fits (.str s)
  | arr {items : List Value} (hsize : (Head.arr items.length).Fits)
      (hitems : ∀ v ∈ items, Fits v) : Fits (.arr items)
  | map {fields : List (List UInt8 × Value)} (hsize : (Head.map fields.length).Fits)
      (hkeys : ∀ f ∈ fields, (Head.str f.1.length).Fits) (hvalues : ∀ f ∈ fields, Fits f.2) :
      Fits (.map fields)

def writeStr (s : List UInt8) : List UInt8 := writeHead (.str s.length) ++ s

mutual

def write : Value → List UInt8
  | .nil => writeHead .nil
  | .bool b => writeHead (.bool b)
  | .int n => writeHead (.int n)
  | .float bits => writeHead (.float bits)
  | .str s => writeStr s
  | .arr items => writeHead (.arr items.length) ++ writeItems items
  | .map fields => writeHead (.map fields.length) ++ writeFields fields

def writeItems : List Value → List UInt8
  | [] => []
  | v :: items => write v ++ writeItems items

def writeFields : List (List UInt8 × Value) → List UInt8
  | [] => []
  | (key, v) :: fields => writeStr key ++ write v ++ writeFields fields

end

def writeField (field : List UInt8 × Value) : List UInt8 := writeStr field.1 ++ write field.2

theorem writeItems_eq (items : List Value) : writeItems items = items.flatMap write := by
  induction items with
  | nil => rfl
  | cons v items ih => rw [writeItems, ih, List.flatMap_cons]

theorem writeFields_eq (fields : List (List UInt8 × Value)) :
    writeFields fields = fields.flatMap writeField := by
  induction fields with
  | nil => rfl
  | cons f fields ih => rw [writeFields, ih, List.flatMap_cons, writeField]

/-! ## The reader -/

section Readers

variable {α : Type u}

/-- `n` things one after another. -/
def readMany (read : List UInt8 → Option (α × List UInt8)) :
    Nat → List UInt8 → Option (List α × List UInt8)
  | 0, bytes => some ([], bytes)
  | n + 1, bytes => do
    let (x, rest) ← read bytes
    let (xs, rest) ← readMany read n rest
    some (x :: xs, rest)

variable {read : List UInt8 → Option (α × List UInt8)} {write : α → List UInt8}

theorem readMany_flatMap {xs : List α}
    (h : ∀ x ∈ xs, ∀ rest, read (write x ++ rest) = some (x, rest)) (rest : List UInt8) :
    readMany read xs.length (xs.flatMap write ++ rest) = some (xs, rest) := by
  induction xs with
  | nil => rfl
  | cons x xs ih =>
    have hx := h x List.mem_cons_self (xs.flatMap write ++ rest)
    have hxs := ih fun y hy => h y (List.mem_cons_of_mem x hy)
    rw [List.flatMap_cons, List.append_assoc, List.length_cons, readMany, hx]
    show (readMany read xs.length (xs.flatMap write ++ rest)).bind _ = _
    rw [hxs]
    rfl

/-- What holds of the things that are read, and how long they are at least. -/
theorem readMany_eq_some {P : α → Prop}
    (h : ∀ bytes x rest, read bytes = some (x, rest) →
      P x ∧ (write x).length + rest.length ≤ bytes.length)
    {n : Nat} {bytes rest : List UInt8} {xs : List α}
    (hread : readMany read n bytes = some (xs, rest)) :
    xs.length = n ∧ (∀ x ∈ xs, P x) ∧
      (xs.flatMap write).length + rest.length ≤ bytes.length := by
  induction n generalizing bytes xs with
  | zero =>
    obtain ⟨rfl, rfl⟩ := Prod.mk.inj (Option.some.inj hread)
    refine ⟨rfl, fun x hx => absurd hx List.not_mem_nil, ?_⟩
    rw [List.flatMap_nil, List.length_nil, Nat.zero_add]
  | succ n ih =>
    obtain ⟨⟨x, rest₁⟩, hx, hread⟩ := Option.bind_eq_some_iff.mp hread
    obtain ⟨⟨xs', rest₂⟩, hxs, hread⟩ := Option.bind_eq_some_iff.mp hread
    obtain ⟨rfl, rfl⟩ := Prod.mk.inj (Option.some.inj hread)
    obtain ⟨hP, hle⟩ := h bytes x rest₁ hx
    obtain ⟨hlen, hall, hle'⟩ := ih hxs
    refine ⟨congrArg Nat.succ hlen, List.forall_mem_cons.mpr ⟨hP, hall⟩, ?_⟩
    rw [List.flatMap_cons, List.length_append]
    omega

end Readers

def readStr (bytes : List UInt8) : Option (List UInt8 × List UInt8) := do
  match ← readHead bytes with
  | (.str size, rest) => takeBytes size rest
  | _ => none

/-- A key and what `read` reads after it. -/
def readField (read : List UInt8 → Option (Value × List UInt8)) (bytes : List UInt8) :
    Option ((List UInt8 × Value) × List UInt8) := do
  let (key, rest) ← readStr bytes
  let (v, rest) ← read rest
  some ((key, v), rest)

/-- What the head says, from the bytes after it. -/
def readBody (read : List UInt8 → Option (Value × List UInt8)) (bytes : List UInt8) :
    Head → Option (Value × List UInt8)
  | .nil => some (.nil, bytes)
  | .bool b => some (.bool b, bytes)
  | .int n => some (.int n, bytes)
  | .float bits => some (.float bits, bytes)
  | .str size => (takeBytes size bytes).map fun r => (.str r.1, r.2)
  | .arr size => (readMany read size bytes).map fun r => (.arr r.1, r.2)
  | .map size => (readMany (readField read) size bytes).map fun r => (.map r.1, r.2)

/-- A value with fewer than `depth` others around one another in it. -/
def readValue : (depth : Nat) → List UInt8 → Option (Value × List UInt8)
  | 0, _ => none
  | depth + 1, bytes => do
    let (head, rest) ← readHead bytes
    readBody (readValue depth) rest head

/-- Every value is at least a byte, so no more of them are around one another than bytes. -/
def read (bytes : List UInt8) : Option (Value × List UInt8) := readValue bytes.length bytes

/-! ## What is written is read back -/

theorem readStr_eq_some_iff {bytes s rest : List UInt8} :
    readStr bytes = some (s, rest) ↔ readHead bytes = some (.str s.length, s ++ rest) := by
  rw [readStr]
  cases hhead : readHead bytes with
  | none => exact ⟨fun h => absurd h.symm (Option.some_ne_none _),
      fun h => absurd h.symm (Option.some_ne_none _)⟩
  | some r =>
    obtain ⟨head, tail⟩ := r
    cases head with
    | str size =>
      show takeBytes size tail = some (s, rest) ↔ _
      rw [takeBytes_eq_some_iff]
      simp only [Option.some.injEq, Prod.mk.injEq, Head.str.injEq]
      exact and_congr_left' eq_comm
    | _ => exact ⟨fun h => absurd h.symm (Option.some_ne_none _), fun h => by simp at h⟩

theorem readStr_writeStr {s : List UInt8} (h : (Head.str s.length).Fits) (rest : List UInt8) :
    readStr (writeStr s ++ rest) = some (s, rest) := by
  rw [writeStr, List.append_assoc]
  exact readStr_eq_some_iff.mpr (readHead_writeHead h _)

theorem readField_writeField {read : List UInt8 → Option (Value × List UInt8)}
    {field : List UInt8 × Value} (hkey : (Head.str field.1.length).Fits)
    (hread : ∀ rest, read (write field.2 ++ rest) = some (field.2, rest)) (rest : List UInt8) :
    readField read (writeField field ++ rest) = some (field, rest) := by
  rw [readField, writeField, List.append_assoc, readStr_writeStr hkey]
  show (read (write field.2 ++ rest)).bind _ = _
  rw [hread]
  rfl

theorem length_le_flatMap {α : Type u} {write : α → List UInt8} {x : α} {xs : List α}
    (h : x ∈ xs) : (write x).length ≤ (xs.flatMap write).length := by
  obtain ⟨l, r, rfl⟩ := List.append_of_mem h
  rw [List.flatMap_append, List.flatMap_cons, List.length_append, List.length_append]
  omega

theorem readValue_writeHead {head : Head} {v : Value} {body rest : List UInt8} {depth : Nat}
    (hhead : head.Fits) (hdepth : (writeHead head ++ body).length ≤ depth)
    (hbody : ∀ depth, body.length ≤ depth →
      readBody (readValue depth) (body ++ rest) head = some (v, rest)) :
    readValue depth (writeHead head ++ body ++ rest) = some (v, rest) := by
  rw [writeHead, List.length_append, Form.length_bytes] at hdepth
  obtain ⟨depth, rfl⟩ : ∃ d, depth = d + 1 := ⟨depth - 1, by omega⟩
  rw [List.append_assoc, readValue, readHead_writeHead hhead]
  exact hbody depth (by omega)

theorem readValue_write {v : Value} (h : v.Fits) :
    ∀ depth, (write v).length ≤ depth →
      ∀ rest, readValue depth (write v ++ rest) = some (v, rest) := by
  induction h with
  | nil =>
    intro depth hdepth rest
    rw [write, ← List.append_nil (writeHead _)] at hdepth ⊢
    exact readValue_writeHead trivial hdepth fun _ _ => rfl
  | bool b =>
    intro depth hdepth rest
    rw [write, ← List.append_nil (writeHead _)] at hdepth ⊢
    exact readValue_writeHead trivial hdepth fun _ _ => rfl
  | int hn =>
    intro depth hdepth rest
    rw [write, ← List.append_nil (writeHead _)] at hdepth ⊢
    exact readValue_writeHead hn hdepth fun _ _ => rfl
  | float bits =>
    intro depth hdepth rest
    rw [write, ← List.append_nil (writeHead _)] at hdepth ⊢
    exact readValue_writeHead trivial hdepth fun _ _ => rfl
  | str hs =>
    intro depth hdepth rest
    rw [write, writeStr] at hdepth ⊢
    refine readValue_writeHead hs hdepth fun _ _ => ?_
    rw [readBody, takeBytes_eq_some_iff.mpr ⟨rfl, rfl⟩]
    rfl
  | arr hsize _ ih =>
    intro depth hdepth rest
    rw [write, writeItems_eq] at hdepth ⊢
    refine readValue_writeHead hsize hdepth fun depth hle => ?_
    have hitems := readMany_flatMap
      (fun v hv rest => ih v hv depth ((length_le_flatMap hv).trans hle) rest) rest
    rw [readBody, hitems]
    rfl
  | @map fields hsize hkeys _ ih =>
    intro depth hdepth rest
    rw [write, writeFields_eq] at hdepth ⊢
    refine readValue_writeHead hsize hdepth fun depth hle => ?_
    have hfield : ∀ f ∈ fields, ∀ rest,
        readField (readValue depth) (writeField f ++ rest) = some (f, rest) := by
      intro f hf
      have hlen := (length_le_flatMap hf).trans hle
      rw [writeField, List.length_append] at hlen
      exact readField_writeField (hkeys f hf) (ih f hf depth (by omega))
    rw [readBody, readMany_flatMap hfield]
    rfl

/-- **What is written is read back**, and nothing of what follows it. -/
theorem read_write {v : Value} (h : v.Fits) (rest : List UInt8) :
    read (write v ++ rest) = some (v, rest) := by
  refine readValue_write h _ ?_ rest
  rw [List.length_append]
  omega

/-! ## Nothing shorter is read as the same -/

theorem length_writeStr_le {bytes s rest : List UInt8} (h : readStr bytes = some (s, rest)) :
    (Head.str s.length).Fits ∧ (writeStr s).length + rest.length ≤ bytes.length := by
  obtain ⟨hfits, hle⟩ := length_writeHead_le (readStr_eq_some_iff.mp h)
  refine ⟨hfits, ?_⟩
  rw [writeStr, List.length_append]
  rw [List.length_append] at hle
  omega

theorem readField_eq_some {read : List UInt8 → Option (Value × List UInt8)}
    (hread : ∀ bytes v rest, read bytes = some (v, rest) →
      v.Fits ∧ (write v).length + rest.length ≤ bytes.length)
    {bytes rest : List UInt8} {field : List UInt8 × Value}
    (h : readField read bytes = some (field, rest)) :
    ((Head.str field.1.length).Fits ∧ field.2.Fits) ∧
      (writeField field).length + rest.length ≤ bytes.length := by
  obtain ⟨⟨key, rest₁⟩, hkey, h⟩ := Option.bind_eq_some_iff.mp h
  obtain ⟨⟨v, rest₂⟩, hv, h⟩ := Option.bind_eq_some_iff.mp h
  obtain ⟨rfl, rfl⟩ := Prod.mk.inj (Option.some.inj h)
  obtain ⟨hkeyFits, hkeyLe⟩ := length_writeStr_le hkey
  obtain ⟨hvFits, hvLe⟩ := hread _ _ _ hv
  refine ⟨⟨hkeyFits, hvFits⟩, ?_⟩
  show (writeStr key ++ write v).length + rest₂.length ≤ bytes.length
  rw [List.length_append]
  omega

theorem readBody_eq_some {read : List UInt8 → Option (Value × List UInt8)}
    (hread : ∀ bytes v rest, read bytes = some (v, rest) →
      v.Fits ∧ (write v).length + rest.length ≤ bytes.length)
    {head : Head} (hhead : head.Fits) {bytes rest : List UInt8} {v : Value}
    (h : readBody read bytes head = some (v, rest)) :
    v.Fits ∧ (write v).length + rest.length ≤ (writeHead head).length + bytes.length := by
  cases head with
  | nil =>
    obtain ⟨rfl, rfl⟩ := Prod.mk.inj (Option.some.inj h)
    exact ⟨.nil, Nat.le_refl _⟩
  | bool b =>
    obtain ⟨rfl, rfl⟩ := Prod.mk.inj (Option.some.inj h)
    exact ⟨.bool b, Nat.le_refl _⟩
  | int n =>
    obtain ⟨rfl, rfl⟩ := Prod.mk.inj (Option.some.inj h)
    exact ⟨.int hhead, Nat.le_refl _⟩
  | float bits =>
    obtain ⟨rfl, rfl⟩ := Prod.mk.inj (Option.some.inj h)
    exact ⟨.float bits, Nat.le_refl _⟩
  | str size =>
    obtain ⟨⟨s, rest'⟩, htake, heq⟩ := Option.map_eq_some_iff.mp h
    obtain ⟨rfl, rfl⟩ := Prod.mk.inj heq
    obtain ⟨rfl, rfl⟩ := takeBytes_eq_some_iff.mp htake
    refine ⟨.str hhead, ?_⟩
    show (writeStr s).length + rest'.length ≤ _
    rw [writeStr, List.length_append, List.length_append]
    omega
  | arr size =>
    obtain ⟨⟨items, rest'⟩, hmany, heq⟩ := Option.map_eq_some_iff.mp h
    obtain ⟨rfl, rfl⟩ := Prod.mk.inj heq
    obtain ⟨rfl, hitems, hle⟩ := readMany_eq_some hread hmany
    refine ⟨.arr hhead hitems, ?_⟩
    show (write (.arr items)).length + rest'.length ≤ _
    rw [write, writeItems_eq, List.length_append]
    omega
  | map size =>
    obtain ⟨⟨fields, rest'⟩, hmany, heq⟩ := Option.map_eq_some_iff.mp h
    obtain ⟨rfl, rfl⟩ := Prod.mk.inj heq
    obtain ⟨rfl, hfields, hle⟩ :=
      readMany_eq_some (fun _ _ _ => readField_eq_some hread) hmany
    refine ⟨.map hhead (fun f hf => (hfields f hf).1) fun f hf => (hfields f hf).2, ?_⟩
    show (write (.map fields)).length + rest'.length ≤ _
    rw [write, writeFields_eq, List.length_append]
    omega

theorem readValue_eq_some {depth : Nat} {bytes rest : List UInt8} {v : Value}
    (h : readValue depth bytes = some (v, rest)) :
    v.Fits ∧ (write v).length + rest.length ≤ bytes.length := by
  induction depth generalizing bytes v rest with
  | zero => exact absurd h.symm (Option.some_ne_none _)
  | succ depth ih =>
    obtain ⟨⟨head, rest'⟩, hhead, hbody⟩ := Option.bind_eq_some_iff.mp h
    obtain ⟨hfits, hle⟩ := length_writeHead_le hhead
    obtain ⟨hv, hle'⟩ := readBody_eq_some (fun _ _ _ => ih) hfits hbody
    exact ⟨hv, hle'.trans hle⟩

theorem fits_of_read {bytes rest : List UInt8} {v : Value} (h : read bytes = some (v, rest)) :
    v.Fits :=
  (readValue_eq_some h).1

/-- **Nothing shorter is read as the same value**, with the same bytes after it. -/
theorem length_write_le {bytes rest : List UInt8} {v : Value} (h : read bytes = some (v, rest)) :
    (write v).length + rest.length ≤ bytes.length :=
  (readValue_eq_some h).2

end MessagePack
