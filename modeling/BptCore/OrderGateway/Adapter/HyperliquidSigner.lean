import BptCore.Lib.MessagePack

/-!
# The bytes that the Hyperliquid signer signs

An action is packed as MessagePack, in the order of its fields, and the nonce and a marker go after
it. The venue packs what it receives and has to arrive at the same bytes.

* **`mpPackValue`** — the packed action, from the helpers below it.
* **`JsonValue.unsigned`** — a document with one kind for the integers that have two.
* **`decode`** — the reader of the format, for documents.
* **`signedBytes`** — what is hashed for a signature.
* **`mpPackValue_uniquely_decodable`** — packed documents are read back and are the shortest of
  their kind, and different actions have different bytes.
-/

namespace BptCore.OrderGateway

open MessagePack (Value)

/-- `boost::json::value`, by its kinds. A double is its bits, a string its bytes. -/
inductive JsonValue where
  | null
  | bool (b : Bool)
  | int64 (n : Int64)
  | uint64 (n : UInt64)
  | double (bits : UInt64)
  | string (s : List UInt8)
  | array (items : List JsonValue)
  | object (fields : List (List UInt8 × JsonValue))

namespace HyperliquidSigner

/-! ## The encoder -/

/-- What the loop over `nbytes` appends. -/
def mpAppendBe (v : UInt64) : (nbytes : Nat) → List UInt8
  | 0 => []
  | i + 1 => ((v >>> UInt64.ofNat (8 * i)) &&& 0xff).toUInt8 :: mpAppendBe v i

def mpPackUint (v : UInt64) : List UInt8 :=
  if v ≤ 0x7f then [v.toUInt8]
  else if v ≤ 0xff then [0xcc, v.toUInt8]
  else if v ≤ 0xffff then 0xcd :: mpAppendBe v 2
  else if v ≤ 0xffffffff then 0xce :: mpAppendBe v 4
  else 0xcf :: mpAppendBe v 8

def mpPackInt (v : Int64) : List UInt8 :=
  if 0 ≤ v then mpPackUint v.toUInt64
  else if -32 ≤ v then [v.toUInt64.toUInt8]
  else if -128 ≤ v then [0xd0, v.toUInt64.toUInt8]
  else if -32768 ≤ v then 0xd1 :: mpAppendBe (v.toInt16.toInt64.toUInt64 &&& 0xffff) 2
  else if -2147483648 ≤ v then 0xd2 :: mpAppendBe (v.toInt32.toInt64.toUInt64 &&& 0xffffffff) 4
  else 0xd3 :: mpAppendBe v.toUInt64 8

def mpPackStr (s : List UInt8) : List UInt8 :=
  let n := UInt64.ofNat s.length
  (if n ≤ 31 then [(0xa0 ||| n).toUInt8]
    else if n ≤ 0xff then [0xd9, n.toUInt8]
    else if n ≤ 0xffff then 0xda :: mpAppendBe n 2
    else 0xdb :: mpAppendBe n 4) ++ s

def mpPackArrayHeader (n : UInt64) : List UInt8 :=
  if n ≤ 15 then [(0x90 ||| n).toUInt8]
  else if n ≤ 0xffff then 0xdc :: mpAppendBe n 2
  else 0xdd :: mpAppendBe n 4

def mpPackMapHeader (n : UInt64) : List UInt8 :=
  if n ≤ 15 then [(0x80 ||| n).toUInt8]
  else if n ≤ 0xffff then 0xde :: mpAppendBe n 2
  else 0xdf :: mpAppendBe n 4

def mpPackFloat64 (bits : UInt64) : List UInt8 := 0xcb :: mpAppendBe bits 8

mutual

def mpPackValue : JsonValue → List UInt8
  | .null => [0xc0]
  | .bool b => [if b then 0xc3 else 0xc2]
  | .int64 n => mpPackInt n
  | .uint64 n => mpPackUint n
  | .double bits => mpPackFloat64 bits
  | .string s => mpPackStr s
  | .array items => mpPackArrayHeader (UInt64.ofNat items.length) ++ mpPackItems items
  | .object fields => mpPackMapHeader (UInt64.ofNat fields.length) ++ mpPackFields fields

/-- The loop over an array. -/
def mpPackItems : List JsonValue → List UInt8
  | [] => []
  | v :: items => mpPackValue v ++ mpPackItems items

/-- The loop over an object. -/
def mpPackFields : List (List UInt8 × JsonValue) → List UInt8
  | [] => []
  | (key, v) :: fields => mpPackStr key ++ mpPackValue v ++ mpPackFields fields

end

/-- The first two steps of `sign_l1_action`: the action, the nonce, and no vault. -/
def signedBytes (action : JsonValue) (nonce : UInt64) : List UInt8 :=
  mpPackValue action ++ mpAppendBe nonce 8 ++ [0x00]

end HyperliquidSigner

/-! ## Documents as values of the format -/

namespace JsonValue

/-- All sizes are below 2^32, at every depth. -/
inductive Small : JsonValue → Prop where
  | null : Small .null
  | bool (b : Bool) : Small (.bool b)
  | int64 (n : Int64) : Small (.int64 n)
  | uint64 (n : UInt64) : Small (.uint64 n)
  | double (bits : UInt64) : Small (.double bits)
  | string {s : List UInt8} (hs : s.length < 2 ^ 32) : Small (.string s)
  | array {items : List JsonValue} (hsize : items.length < 2 ^ 32)
      (hitems : ∀ v ∈ items, Small v) : Small (.array items)
  | object {fields : List (List UInt8 × JsonValue)} (hsize : fields.length < 2 ^ 32)
      (hkeys : ∀ f ∈ fields, f.1.length < 2 ^ 32) (hvalues : ∀ f ∈ fields, Small f.2) :
      Small (.object fields)

mutual

/-- A signed integer that is not negative is the unsigned one. -/
def unsigned : JsonValue → JsonValue
  | .int64 n => if 0 ≤ n then .uint64 n.toUInt64 else .int64 n
  | .array items => .array (unsignedItems items)
  | .object fields => .object (unsignedFields fields)
  | v => v

def unsignedItems : List JsonValue → List JsonValue
  | [] => []
  | v :: items => v.unsigned :: unsignedItems items

def unsignedFields : List (List UInt8 × JsonValue) → List (List UInt8 × JsonValue)
  | [] => []
  | (key, v) :: fields => (key, v.unsigned) :: unsignedFields fields

end

mutual

def toValue : JsonValue → Value
  | .null => .nil
  | .bool b => .bool b
  | .int64 n => .int n.toInt
  | .uint64 n => .int n.toNat
  | .double bits => .float bits
  | .string s => .str s
  | .array items => .arr (toValues items)
  | .object fields => .map (toFields fields)

def toValues : List JsonValue → List Value
  | [] => []
  | v :: items => v.toValue :: toValues items

def toFields : List (List UInt8 × JsonValue) → List (List UInt8 × Value)
  | [] => []
  | (key, v) :: fields => (key, v.toValue) :: toFields fields

end

mutual

/-- The document that a value is, with unsigned integers where there are any. -/
def ofValue : Value → JsonValue
  | .nil => .null
  | .bool b => .bool b
  | .int n => if 0 ≤ n then .uint64 (UInt64.ofNat n.toNat) else .int64 (Int64.ofInt n)
  | .float bits => .double bits
  | .str s => .string s
  | .arr items => .array (ofValues items)
  | .map fields => .object (ofFields fields)

def ofValues : List Value → List JsonValue
  | [] => []
  | v :: items => ofValue v :: ofValues items

def ofFields : List (List UInt8 × Value) → List (List UInt8 × JsonValue)
  | [] => []
  | (key, v) :: fields => (key, ofValue v) :: ofFields fields

end

end JsonValue

namespace HyperliquidSigner

open MessagePack

/-! ## The encoder against the format -/

theorem toUInt8_eq_ofNat (v : UInt64) : v.toUInt8 = UInt8.ofNat v.toNat := by
  apply UInt8.toNat_inj.mp
  rw [UInt64.toNat_toUInt8, UInt8.toNat_ofNat']

theorem mpAppendBe_eq (v : UInt64) {w : Nat} (h : w ≤ 8) :
    mpAppendBe v w = bigEndian w v.toNat := by
  induction w with
  | zero => rfl
  | succ w ih =>
    rw [mpAppendBe, bigEndian_succ, ih (by omega)]
    congr 1
    apply UInt8.toNat_inj.mp
    have hshift : (UInt64.ofNat (8 * w)).toNat % 64 = 8 * w := by
      rw [UInt64.toNat_ofNat_of_lt' (by show 8 * w < 2 ^ 64; omega)]
      omega
    have hmask : ((0xff : UInt64)).toNat = 2 ^ 8 - 1 := rfl
    rw [UInt64.toNat_toUInt8, UInt64.toNat_and, UInt64.toNat_shiftRight, hshift, hmask,
      Nat.and_two_pow_sub_one_eq_mod, Nat.shiftRight_eq_div_pow, pow_mul, UInt8.toNat_ofNat']
    exact Nat.mod_mod _ _

theorem toNat_toUInt64 (v : Int64) : (v.toUInt64.toNat : Int) = v.toInt % 2 ^ 64 := by
  have hv : v.toInt = (v.toUInt64.toNat : Int).bmod (2 ^ 64) := BitVec.toInt_eq_toNat_bmod _
  have hlt : v.toUInt64.toNat < 2 ^ 64 := v.toUInt64.toNat_lt
  have hemod := Int.bmod_emod (x := v.toUInt64.toNat) (m := 2 ^ 64)
  rw [← hv] at hemod
  omega

theorem mpPackUint_eq (v : UInt64) : mpPackUint v = writeHead (.int v.toNat) := by
  have h7 : v ≤ 0x7f ↔ v.toNat < 0x80 := UInt64.le_iff_toNat_le.trans Nat.lt_succ_iff.symm
  have h8 : v ≤ 0xff ↔ v.toNat < 2 ^ 8 := UInt64.le_iff_toNat_le.trans Nat.lt_succ_iff.symm
  have h16 : v ≤ 0xffff ↔ v.toNat < 2 ^ 16 := UInt64.le_iff_toNat_le.trans Nat.lt_succ_iff.symm
  have h32 : v ≤ 0xffffffff ↔ v.toNat < 2 ^ 32 :=
    UInt64.le_iff_toNat_le.trans Nat.lt_succ_iff.symm
  rw [writeHead, shortest, if_pos (Int.natCast_nonneg _), Int.toNat_natCast, mpPackUint,
    shortestNat]
  simp only [h7, h8, h16, h32]
  split_ifs
  · rw [toUInt8_eq_ofNat]
    rfl
  · rw [toUInt8_eq_ofNat, Form.bytes, bigEndian_succ, pow_zero, Nat.div_one]
    rfl
  · rw [mpAppendBe_eq v (by omega)]
    rfl
  · rw [mpAppendBe_eq v (by omega)]
    rfl
  · rw [mpAppendBe_eq v (by omega)]
    rfl

/-- The lowest bits of a negative number, however many there were. -/
theorem ofNat_eq_of_mod_eq {m n : Nat} (h : m % 256 = n % 256) : UInt8.ofNat m = UInt8.ofNat n := by
  apply UInt8.toNat_inj.mp
  rw [UInt8.toNat_ofNat', UInt8.toNat_ofNat']
  exact h

theorem toNat_int16 {v : Int64} (hge : -2 ^ 15 ≤ v.toInt) (hlt : v.toInt < 0) :
    (v.toInt16.toInt64.toUInt64 &&& 0xffff).toNat = 2 ^ 16 - (-v.toInt).toNat := by
  have hsame : v.toInt16.toInt64.toInt = v.toInt := by
    rw [Int16.toInt_toInt64, Int64.toInt_toInt16, Int.bmod_eq_of_le (by omega) (by omega)]
  have hnat := toNat_toUInt64 v.toInt16.toInt64
  have hmask : (0xffff : UInt64).toNat = 2 ^ 16 - 1 := rfl
  rw [UInt64.toNat_and, hmask, Nat.and_two_pow_sub_one_eq_mod]
  omega

theorem toNat_int32 {v : Int64} (hge : -2 ^ 31 ≤ v.toInt) (hlt : v.toInt < 0) :
    (v.toInt32.toInt64.toUInt64 &&& 0xffffffff).toNat = 2 ^ 32 - (-v.toInt).toNat := by
  have hsame : v.toInt32.toInt64.toInt = v.toInt := by
    rw [Int32.toInt_toInt64, Int64.toInt_toInt32, Int.bmod_eq_of_le (by omega) (by omega)]
  have hnat := toNat_toUInt64 v.toInt32.toInt64
  have hmask : (0xffffffff : UInt64).toNat = 2 ^ 32 - 1 := rfl
  rw [UInt64.toNat_and, hmask, Nat.and_two_pow_sub_one_eq_mod]
  omega

theorem mpPackInt_eq (v : Int64) : mpPackInt v = writeHead (.int v.toInt) := by
  have hnat := toNat_toUInt64 v
  have hge : -2 ^ 63 ≤ v.toInt := v.le_toInt
  have hlt : v.toInt < 2 ^ 63 := v.toInt_lt
  have h0 : 0 ≤ v ↔ 0 ≤ v.toInt := Int64.le_iff_toInt_le
  have h5 : -32 ≤ v ↔ -32 ≤ v.toInt := Int64.le_iff_toInt_le
  have h7 : -128 ≤ v ↔ -128 ≤ v.toInt := Int64.le_iff_toInt_le
  have h15 : -32768 ≤ v ↔ -32768 ≤ v.toInt := Int64.le_iff_toInt_le
  have h31 : -2147483648 ≤ v ↔ -2147483648 ≤ v.toInt := Int64.le_iff_toInt_le
  rw [mpPackInt]
  simp only [h0, h5, h7, h15, h31]
  split_ifs with hpos hfix h8 h16 h32
  · have hsame : (v.toUInt64.toNat : Int) = v.toInt := by omega
    rw [mpPackUint_eq, hsame]
  all_goals rw [writeHead, shortest, if_neg hpos, shortestNegative]
  · rw [if_pos (by omega), toUInt8_eq_ofNat, ofNat_eq_of_mod_eq (n := 256 - (-v.toInt).toNat)]
    · rfl
    · omega
  · rw [if_neg (by omega), if_pos (by omega), Form.bytes, bigEndian_succ, pow_zero, Nat.div_one,
      toUInt8_eq_ofNat, ofNat_eq_of_mod_eq (n := 2 ^ 8 - (-v.toInt).toNat)]
    · rfl
    · omega
  · rw [if_neg (by omega), if_neg (by omega), if_pos (by omega), mpAppendBe_eq _ (by omega),
      toNat_int16 (by omega) (by omega)]
    rfl
  · rw [if_neg (by omega), if_neg (by omega), if_neg (by omega), if_pos (by omega),
      mpAppendBe_eq _ (by omega), toNat_int32 (by omega) (by omega)]
    rfl
  · have hsame : v.toUInt64.toNat = 2 ^ 64 - (-v.toInt).toNat := by omega
    rw [if_neg (by omega), if_neg (by omega), if_neg (by omega), if_neg (by omega),
      mpAppendBe_eq _ (by omega), hsame]
    rfl

/-- A size in the low bits of a tag. -/
theorem toUInt8_or {base n : UInt64} {a k : Nat} (hbase : base.toNat = 2 ^ k * a)
    (h : n.toNat < 2 ^ k) : (base ||| n).toUInt8 = UInt8.ofNat (base.toNat + n.toNat) := by
  rw [toUInt8_eq_ofNat, UInt64.toNat_or, hbase, Nat.two_pow_add_eq_or_of_lt h]

theorem mpPackArrayHeader_eq (n : UInt64) : mpPackArrayHeader n = writeHead (.arr n.toNat) := by
  have h4 : n ≤ 15 ↔ n.toNat < 16 := UInt64.le_iff_toNat_le.trans Nat.lt_succ_iff.symm
  have h16 : n ≤ 0xffff ↔ n.toNat < 2 ^ 16 := UInt64.le_iff_toNat_le.trans Nat.lt_succ_iff.symm
  rw [mpPackArrayHeader, writeHead, shortest]
  simp only [h4, h16]
  split_ifs with hfix
  · rw [toUInt8_or (a := 9) (k := 4) rfl hfix]
    rfl
  · rw [mpAppendBe_eq n (by omega)]
    rfl
  · rw [mpAppendBe_eq n (by omega)]
    rfl

theorem mpPackMapHeader_eq (n : UInt64) : mpPackMapHeader n = writeHead (.map n.toNat) := by
  have h4 : n ≤ 15 ↔ n.toNat < 16 := UInt64.le_iff_toNat_le.trans Nat.lt_succ_iff.symm
  have h16 : n ≤ 0xffff ↔ n.toNat < 2 ^ 16 := UInt64.le_iff_toNat_le.trans Nat.lt_succ_iff.symm
  rw [mpPackMapHeader, writeHead, shortest]
  simp only [h4, h16]
  split_ifs with hfix
  · rw [toUInt8_or (a := 8) (k := 4) rfl hfix]
    rfl
  · rw [mpAppendBe_eq n (by omega)]
    rfl
  · rw [mpAppendBe_eq n (by omega)]
    rfl

theorem toNat_size {size : Nat} (h : size < 2 ^ 32) : (UInt64.ofNat size).toNat = size :=
  UInt64.toNat_ofNat_of_lt' (by show size < 2 ^ 64; omega)

theorem mpPackStr_eq {s : List UInt8} (h : s.length < 2 ^ 32) : mpPackStr s = writeStr s := by
  have hn := toNat_size h
  rw [mpPackStr, writeStr, writeHead, shortest]
  generalize UInt64.ofNat s.length = n at hn
  have h5 : n ≤ 31 ↔ n.toNat < 32 := UInt64.le_iff_toNat_le.trans Nat.lt_succ_iff.symm
  have h8 : n ≤ 0xff ↔ n.toNat < 2 ^ 8 := UInt64.le_iff_toNat_le.trans Nat.lt_succ_iff.symm
  have h16 : n ≤ 0xffff ↔ n.toNat < 2 ^ 16 := UInt64.le_iff_toNat_le.trans Nat.lt_succ_iff.symm
  rw [← hn]
  simp only [h5, h8, h16]
  split_ifs with hfix
  · rw [toUInt8_or (a := 5) (k := 5) rfl hfix]
    rfl
  · rw [toUInt8_eq_ofNat, Form.bytes, bigEndian_succ, pow_zero, Nat.div_one]
    rfl
  · rw [mpAppendBe_eq n (by omega)]
    rfl
  · rw [mpAppendBe_eq n (by omega)]
    rfl

open JsonValue

theorem toValues_eq (items : List JsonValue) : toValues items = items.map toValue := by
  induction items with
  | nil => rfl
  | cons v items ih => rw [toValues, ih, List.map_cons]

theorem toFields_eq (fields : List (List UInt8 × JsonValue)) :
    toFields fields = fields.map fun f => (f.1, f.2.toValue) := by
  induction fields with
  | nil => rfl
  | cons f fields ih => rw [toFields, ih, List.map_cons]

theorem mpPackItems_eq {items : List JsonValue}
    (h : ∀ v ∈ items, mpPackValue v = write v.toValue) :
    mpPackItems items = writeItems (toValues items) := by
  induction items with
  | nil => rfl
  | cons v items ih =>
    rw [mpPackItems, toValues, writeItems, h v List.mem_cons_self,
      ih fun w hw => h w (List.mem_cons_of_mem v hw)]

theorem mpPackFields_eq {fields : List (List UInt8 × JsonValue)}
    (hkeys : ∀ f ∈ fields, f.1.length < 2 ^ 32)
    (h : ∀ f ∈ fields, mpPackValue f.2 = write f.2.toValue) :
    mpPackFields fields = writeFields (toFields fields) := by
  induction fields with
  | nil => rfl
  | cons f fields ih =>
    rw [mpPackFields, toFields, writeFields, h f List.mem_cons_self,
      mpPackStr_eq (hkeys f List.mem_cons_self),
      ih (fun g hg => hkeys g (List.mem_cons_of_mem f hg))
        fun g hg => h g (List.mem_cons_of_mem f hg)]

/-- **The encoder writes the format**: the document's value, every part in its shortest form. -/
theorem mpPackValue_eq_write {v : JsonValue} (h : v.Small) : mpPackValue v = write v.toValue := by
  induction h with
  | null => rfl
  | bool b => cases b <;> rfl
  | int64 n => rw [mpPackValue, mpPackInt_eq, toValue, write]
  | uint64 n => rw [mpPackValue, mpPackUint_eq, toValue, write]
  | double bits =>
    rw [mpPackValue, mpPackFloat64, mpAppendBe_eq bits (by omega), toValue, write]
    rfl
  | string hs => rw [mpPackValue, mpPackStr_eq hs, toValue, write]
  | array hsize _ ih =>
    rw [mpPackValue, mpPackArrayHeader_eq, toNat_size hsize, mpPackItems_eq ih, toValue, write,
      toValues_eq, List.length_map]
  | object hsize hkeys _ ih =>
    rw [mpPackValue, mpPackMapHeader_eq, toNat_size hsize, mpPackFields_eq hkeys ih, toValue, write,
      toFields_eq, List.length_map]

theorem fits_toValue {v : JsonValue} (h : v.Small) : v.toValue.Fits := by
  induction h with
  | null => exact .nil
  | bool b => exact .bool b
  | int64 n =>
    have hge : -2 ^ 63 ≤ n.toInt := n.le_toInt
    have hlt : n.toInt < 2 ^ 63 := n.toInt_lt
    exact .int ⟨hge, by omega⟩
  | uint64 n =>
    have hlt : n.toNat < 2 ^ 64 := n.toNat_lt
    exact .int ⟨by omega, by omega⟩
  | double bits => exact .float bits
  | string hs => exact .str hs
  | array hsize _ ih =>
    rw [toValue, toValues_eq]
    refine .arr (by rwa [List.length_map]) fun w hw => ?_
    obtain ⟨v, hv, rfl⟩ := List.mem_map.mp hw
    exact ih v hv
  | object hsize hkeys _ ih =>
    rw [toValue, toFields_eq]
    refine .map (by rwa [List.length_map]) (fun g hg => ?_) fun g hg => ?_
    · obtain ⟨f, hf, rfl⟩ := List.mem_map.mp hg
      exact hkeys f hf
    · obtain ⟨f, hf, rfl⟩ := List.mem_map.mp hg
      exact ih f hf

/-! ## The decoder -/

theorem ofValues_eq (items : List Value) : ofValues items = items.map ofValue := by
  induction items with
  | nil => rfl
  | cons v items ih => rw [ofValues, ih, List.map_cons]

theorem ofFields_eq (fields : List (List UInt8 × Value)) :
    ofFields fields = fields.map fun f => (f.1, ofValue f.2) := by
  induction fields with
  | nil => rfl
  | cons f fields ih => rw [ofFields, ih, List.map_cons]

theorem unsignedItems_eq (items : List JsonValue) : unsignedItems items = items.map unsigned := by
  induction items with
  | nil => rfl
  | cons v items ih => rw [unsignedItems, ih, List.map_cons]

theorem unsignedFields_eq (fields : List (List UInt8 × JsonValue)) :
    unsignedFields fields = fields.map fun f => (f.1, f.2.unsigned) := by
  induction fields with
  | nil => rfl
  | cons f fields ih => rw [unsignedFields, ih, List.map_cons]

theorem ofValue_toValue {v : JsonValue} (h : v.Small) : ofValue v.toValue = v.unsigned := by
  induction h with
  | null => rfl
  | bool b => rfl
  | int64 n =>
    have hnat := toNat_toUInt64 n
    have hlt : n.toInt < 2 ^ 63 := n.toInt_lt
    have hiff : 0 ≤ n ↔ 0 ≤ n.toInt := Int64.le_iff_toInt_le
    rw [toValue, ofValue, unsigned]
    simp only [hiff]
    split_ifs with hpos
    · have hsame : n.toInt.toNat = n.toUInt64.toNat := by omega
      rw [hsame, UInt64.ofNat_toNat]
    · rw [Int64.ofInt_toInt]
  | uint64 n =>
    rw [toValue, ofValue, if_pos (Int.natCast_nonneg _), Int.toNat_natCast, UInt64.ofNat_toNat]
    rfl
  | double bits => rfl
  | string _ => rfl
  | array _ _ ih =>
    rw [toValue, ofValue, unsigned, toValues_eq, ofValues_eq, unsignedItems_eq, List.map_map]
    exact congrArg JsonValue.array (List.map_congr_left ih)
  | object _ _ _ ih =>
    rw [toValue, ofValue, unsigned, toFields_eq, ofFields_eq, unsignedFields_eq, List.map_map]
    exact congrArg JsonValue.object
      (List.map_congr_left fun f hf => congrArg (Prod.mk f.1) (ih f hf))

theorem toValue_ofValue {x : Value} (h : x.Fits) : (ofValue x).toValue = x := by
  induction h with
  | nil => rfl
  | bool b => rfl
  | @int n hn =>
    obtain ⟨hge, hlt⟩ := hn
    rw [ofValue]
    split_ifs with hpos
    · have hnat : (UInt64.ofNat n.toNat).toNat = n.toNat :=
        UInt64.toNat_ofNat_of_lt' (by show n.toNat < 2 ^ 64; omega)
      rw [toValue, hnat, Int.toNat_of_nonneg hpos]
    · rw [toValue, Int64.toInt_ofInt_of_le hge (by omega)]
  | float bits => rfl
  | str _ => rfl
  | arr _ _ ih =>
    rw [ofValue, toValue, ofValues_eq, toValues_eq, List.map_map]
    exact congrArg Value.arr ((List.map_congr_left ih).trans (List.map_id _))
  | map _ _ _ ih =>
    rw [ofValue, toValue, ofFields_eq, toFields_eq, List.map_map]
    have hfields := List.map_congr_left fun f hf => congrArg (Prod.mk f.1) (ih f hf)
    exact congrArg Value.map (hfields.trans (List.map_id _))

/-- The document that the bytes start with, and the bytes after it. -/
def decode (bytes : List UInt8) : Option (JsonValue × List UInt8) :=
  (read bytes).map fun r => (ofValue r.1, r.2)

theorem decode_mpPackValue {v : JsonValue} (h : v.Small) (rest : List UInt8) :
    decode (mpPackValue v ++ rest) = some (v.unsigned, rest) := by
  rw [decode, mpPackValue_eq_write h, read_write (fits_toValue h), Option.map_some,
    ofValue_toValue h]

theorem length_mpPackValue_le {v : JsonValue} (h : v.Small) {bytes rest : List UInt8}
    (hdecode : decode bytes = some (v.unsigned, rest)) :
    (mpPackValue v).length + rest.length ≤ bytes.length := by
  obtain ⟨⟨x, rest'⟩, hread, heq⟩ := Option.map_eq_some_iff.mp hdecode
  obtain ⟨hx, rfl⟩ := Prod.mk.inj heq
  -- the value that was read is the document's own
  have hval : x = v.toValue := by
    rw [← toValue_ofValue (fits_of_read hread), hx, ← ofValue_toValue h,
      toValue_ofValue (fits_toValue h)]
  subst hval
  rw [mpPackValue_eq_write h]
  exact length_write_le hread

theorem mpAppendBe_injective {n m : UInt64} (h : mpAppendBe n 8 = mpAppendBe m 8) : n = m := by
  rw [mpAppendBe_eq n (by omega), mpAppendBe_eq m (by omega)] at h
  have hread : ∀ k : UInt64, readNumber 8 (bigEndian 8 k.toNat ++ []) = some (k.toNat, []) :=
    fun k => readNumber_eq_some_iff.mpr ⟨k.toNat_lt, rfl⟩
  have hsome := (hread n).symm.trans (h ▸ hread m)
  exact UInt64.toNat_inj.mp (Prod.mk.inj (Option.some.inj hsome)).1

theorem signedBytes_injective {v w : JsonValue} (hv : v.Small) (hw : w.Small) {n m : UInt64}
    (h : signedBytes v n = signedBytes w m) : v.unsigned = w.unsigned ∧ n = m := by
  rw [signedBytes, signedBytes, List.append_assoc, List.append_assoc] at h
  have hsome := (decode_mpPackValue hv _).symm.trans (h ▸ decode_mpPackValue hw _)
  obtain ⟨hvw, htail⟩ := Prod.mk.inj (Option.some.inj hsome)
  exact ⟨hvw, mpAppendBe_injective (List.append_cancel_right htail)⟩

/-- **The encoding is uniquely decodable and the shortest.** A packed document is read back,
whatever follows it; every part is written in a form than which the format has none shorter, so
that nothing shorter is read as the same document; and what is signed for different actions, or for
one action with different nonces, is different. -/
theorem mpPackValue_uniquely_decodable (v : JsonValue) (hv : v.Small) :
    (∀ rest, decode (mpPackValue v ++ rest) = some (v.unsigned, rest)) ∧
      (mpPackValue v = write v.toValue ∧
        ∀ (head : Head) (f : Form), f.Means head → (writeHead head).length ≤ f.bytes.length) ∧
      (∀ bytes rest, decode bytes = some (v.unsigned, rest) →
        (mpPackValue v).length + rest.length ≤ bytes.length) ∧
      ∀ w : JsonValue, w.Small → ∀ nonce nonce' : UInt64,
        signedBytes v nonce = signedBytes w nonce' →
          v.unsigned = w.unsigned ∧ nonce = nonce' := by
  refine ⟨decode_mpPackValue hv, ⟨mpPackValue_eq_write hv, fun head f hf => ?_⟩,
    fun _ _ => length_mpPackValue_le hv, fun _ hw _ _ => signedBytes_injective hv hw⟩
  rw [writeHead, Form.length_bytes, Form.length_bytes]
  exact Nat.succ_le_succ hf.fits_and_width_le.2

/-- `{"o": [-33, 256]}`. -/
def twoOrders : JsonValue := .object [([0x6f], .array [.int64 (-33), .uint64 256])]

theorem small_twoOrders : twoOrders.Small := by
  refine .object (by decide) (by decide) fun f hf => ?_
  obtain rfl := List.mem_singleton.mp hf
  refine .array (by decide) fun v hv => ?_
  rcases List.mem_pair.mp hv with rfl | rfl
  · exact .int64 (-33)
  · exact .uint64 256

theorem twoOrders_uniquely_decodable :
    mpPackValue twoOrders = [0x81, 0xa1, 0x6f, 0x92, 0xd0, 0xdf, 0xcd, 0x01, 0x00] ∧
      decode (mpPackValue twoOrders ++ [0xff]) = some (twoOrders.unsigned, [0xff]) :=
  ⟨by decide, (mpPackValue_uniquely_decodable twoOrders small_twoOrders).1 [0xff]⟩

end HyperliquidSigner

end BptCore.OrderGateway
