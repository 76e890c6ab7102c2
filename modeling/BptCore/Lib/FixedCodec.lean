import Mathlib.Data.List.Basic
import Mathlib.Tactic.Ring

/-!
# Codecs of a fixed width

A value that is stored in a fixed number of bytes, and the layouts put together from such values.
A codec carries the proof that what it writes has its width and reads back as what was written, so
a layout is right by its construction.

* **`FixedCodec.toBytes`**, **`FixedCodec.ofBytes`** — a number in a given number of bytes, lowest
  byte first.
* **`FixedCodec`** — width, encoder and decoder; `FixedCodec.uint` and `FixedCodec.bytes` are its
  atoms.
* **`FixedCodec.prod`**, **`FixedCodec.map`** — a field after another, and a record of fields.
-/

universe u v

namespace FixedCodec

/-! ## Little-endian numbers -/

/-- The `w` lowest bytes of `n`, lowest first. -/
def toBytes : (w n : Nat) → List UInt8
  | 0, _ => []
  | w + 1, n => UInt8.ofNat n :: toBytes w (n / 256)

def ofBytes : List UInt8 → Nat
  | [] => 0
  | b :: bs => b.toNat + 256 * ofBytes bs

theorem length_toBytes (w n : Nat) : (toBytes w n).length = w := by
  induction w generalizing n with
  | zero => rfl
  | succ w ih => exact congrArg Nat.succ (ih (n / 256))

theorem ofBytes_toBytes {w n : Nat} (h : n < 256 ^ w) : ofBytes (toBytes w n) = n := by
  induction w generalizing n with
  | zero =>
    have hzero : n = 0 := by simpa using h
    exact hzero.symm
  | succ w ih =>
    have hdiv : n / 256 < 256 ^ w := by
      rw [pow_succ] at h
      exact Nat.div_lt_of_lt_mul (by omega)
    show (UInt8.ofNat n).toNat + 256 * ofBytes (toBytes w (n / 256)) = n
    rw [ih hdiv, UInt8.toNat_ofNat']
    show n % 256 + 256 * (n / 256) = n
    omega

theorem ofBytes_lt (bs : List UInt8) : ofBytes bs < 256 ^ bs.length := by
  induction bs with
  | nil => exact Nat.one_pos
  | cons b bs ih =>
    show b.toNat + 256 * ofBytes bs < 256 ^ (bs.length + 1)
    have hb : b.toNat < 256 := b.toNat_lt
    rw [pow_succ]
    omega

theorem toBytes_ofBytes (bs : List UInt8) : toBytes bs.length (ofBytes bs) = bs := by
  induction bs with
  | nil => rfl
  | cons b bs ih =>
    show UInt8.ofNat (b.toNat + 256 * ofBytes bs) ::
      toBytes bs.length ((b.toNat + 256 * ofBytes bs) / 256) = b :: bs
    have hb : b.toNat < 256 := b.toNat_lt
    have hdiv : (b.toNat + 256 * ofBytes bs) / 256 = ofBytes bs := by omega
    have hmod : UInt8.ofNat (b.toNat + 256 * ofBytes bs) = b := by
      apply UInt8.toNat_inj.mp
      rw [UInt8.toNat_ofNat']
      show (b.toNat + 256 * ofBytes bs) % 256 = b.toNat
      omega
    rw [hdiv, hmod, ih]

end FixedCodec

/-! ## Codecs -/

structure FixedCodec (α : Type u) where
  width : Nat
  encode : α → List UInt8
  decode : List UInt8 → α
  length_encode : ∀ a, (encode a).length = width
  decode_encode : ∀ a, decode (encode a) = a

namespace FixedCodec

variable {α : Type u} {β : Type v}

/-- A number type of `w` bytes. -/
def uint (w : Nat) (toNat : α → Nat) (ofNat : Nat → α) (hlt : ∀ a, toNat a < 256 ^ w)
    (hleft : ∀ a, ofNat (toNat a) = a) : FixedCodec α where
  width := w
  encode a := toBytes w (toNat a)
  decode bs := ofNat (ofBytes bs)
  length_encode a := length_toBytes w (toNat a)
  decode_encode a := by rw [ofBytes_toBytes (hlt a), hleft]

def uint8 : FixedCodec UInt8 :=
  uint 1 UInt8.toNat UInt8.ofNat UInt8.toNat_lt fun _ => UInt8.ofNat_toNat

def uint16 : FixedCodec UInt16 :=
  uint 2 UInt16.toNat UInt16.ofNat UInt16.toNat_lt fun _ => UInt16.ofNat_toNat

def uint32 : FixedCodec UInt32 :=
  uint 4 UInt32.toNat UInt32.ofNat UInt32.toNat_lt fun _ => UInt32.ofNat_toNat

def uint64 : FixedCodec UInt64 :=
  uint 8 UInt64.toNat UInt64.ofNat UInt64.toNat_lt fun _ => UInt64.ofNat_toNat

/-- An array of `n` bytes. -/
abbrev ByteArr (n : Nat) := { bs : List UInt8 // bs.length = n }

def bytes (n : Nat) : FixedCodec (ByteArr n) where
  width := n
  encode a := a.1
  decode bs := if h : bs.length = n then ⟨bs, h⟩ else ⟨List.replicate n 0, List.length_replicate⟩
  length_encode a := a.2
  decode_encode a := dif_pos a.2

/-- One field and then another. -/
def prod (c : FixedCodec α) (d : FixedCodec β) : FixedCodec (α × β) where
  width := c.width + d.width
  encode a := c.encode a.1 ++ d.encode a.2
  decode bs := (c.decode (bs.take c.width), d.decode (bs.drop c.width))
  length_encode a := by rw [List.length_append, c.length_encode, d.length_encode]
  decode_encode a := by
    rw [List.take_left' (c.length_encode a.1), List.drop_left' (c.length_encode a.1),
      c.decode_encode, d.decode_encode]

/-- The same bytes, read as a record. -/
def map (c : FixedCodec α) (mk : α → β) (fields : β → α) (hleft : ∀ b, mk (fields b) = b) :
    FixedCodec β where
  width := c.width
  encode b := c.encode (fields b)
  decode bs := mk (c.decode bs)
  length_encode b := c.length_encode (fields b)
  decode_encode b := by rw [c.decode_encode, hleft]

/-! ## Every value of the width is written -/

/-- Bytes of the width are what the value read from them is written as. -/
def Exact (c : FixedCodec α) : Prop :=
  ∀ bs : List UInt8, bs.length = c.width → c.encode (c.decode bs) = bs

/-- A number type whose values are all the numbers of `w` bytes. -/
theorem exact_uint {w : Nat} {toNat : α → Nat} {ofNat : Nat → α} {hlt : ∀ a, toNat a < 256 ^ w}
    {hleft : ∀ a, ofNat (toNat a) = a} (hright : ∀ n < 256 ^ w, toNat (ofNat n) = n) :
    (uint w toNat ofNat hlt hleft).Exact := by
  rintro bs rfl
  show toBytes bs.length (toNat (ofNat (ofBytes bs))) = bs
  rw [hright _ (ofBytes_lt bs), toBytes_ofBytes]

theorem exact_uint8 : uint8.Exact := exact_uint fun _ h => UInt8.toNat_ofNat_of_lt' h

theorem exact_uint16 : uint16.Exact := exact_uint fun _ h => UInt16.toNat_ofNat_of_lt' h

theorem exact_uint32 : uint32.Exact := exact_uint fun _ h => UInt32.toNat_ofNat_of_lt' h

theorem exact_uint64 : uint64.Exact := exact_uint fun _ h => UInt64.toNat_ofNat_of_lt' h

theorem exact_bytes (n : Nat) : (bytes n).Exact := by
  intro bs hbs
  show (if h : bs.length = n then (⟨bs, h⟩ : ByteArr n) else _).1 = bs
  rw [dif_pos (show bs.length = n from hbs)]

theorem Exact.prod {c : FixedCodec α} {d : FixedCodec β} (hc : c.Exact) (hd : d.Exact) :
    (c.prod d).Exact := by
  intro bs hbs
  replace hbs : bs.length = c.width + d.width := hbs
  show c.encode (c.decode (bs.take c.width)) ++ d.encode (d.decode (bs.drop c.width)) = bs
  rw [hc _ (by rw [List.length_take]; omega), hd _ (by rw [List.length_drop]; omega),
    List.take_append_drop]

theorem Exact.map {c : FixedCodec α} (hc : c.Exact) {mk : α → β} {fields : β → α}
    {hleft : ∀ b, mk (fields b) = b} (hright : ∀ a, fields (mk a) = a) :
    (c.map mk fields hleft).Exact := by
  intro bs hbs
  show c.encode (fields (mk (c.decode bs))) = bs
  rw [hright, hc bs hbs]

end FixedCodec
