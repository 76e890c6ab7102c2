import BptCore.Canon.CanonReader

/-!
# The tape format

A tape file is nothing but records, one after the other: a header of 13 bytes, the time, the type
and a length, and so many payload bytes.

* **`WslogRecord.encode`** — a record as it stands in the file.
* **`WslogReader.next`** — a record off the front of the bytes.
* **`parseFile`** — all records of a file, if it is made of whole ones.
* **`parseFile_recordBytes`** — records read back.
-/

namespace BptCore.Recorder

open Canon (fread)

/-- An enumeration over a byte. A reader casts whatever byte it finds, so each is a value. -/
structure RecordType where
  value : UInt8
  deriving DecidableEq, Repr

namespace RecordType

def WS_FRAME : RecordType := ⟨0⟩
def SESSION_START : RecordType := ⟨1⟩
def SESSION_STOP : RecordType := ⟨2⟩
def CHECKPOINT : RecordType := ⟨3⟩
def WS_DISCONNECT : RecordType := ⟨4⟩
def WS_RECONNECT : RecordType := ⟨5⟩
def REST_RESPONSE : RecordType := ⟨6⟩

end RecordType

def kHeaderBytes : Nat := 13

structure WslogRecord where
  tsNs : UInt64
  type : RecordType
  payload : List UInt8
  deriving DecidableEq, Repr

namespace WslogRecord

/-- The payload is no longer than the length field can say. -/
def Fits (rec : WslogRecord) : Prop := rec.payload.length < 2 ^ 32

instance (rec : WslogRecord) : Decidable rec.Fits := inferInstanceAs (Decidable (_ < _))

/-- The length that is written, cast to 32 bits. -/
def length (rec : WslogRecord) : UInt32 := UInt32.ofNat rec.payload.length

/-- The payload as far as that length goes. -/
def written (rec : WslogRecord) : List UInt8 := rec.payload.take rec.length.toNat

def encode (rec : WslogRecord) : List UInt8 :=
  FixedCodec.uint64.encode rec.tsNs ++ (FixedCodec.uint8.encode rec.type.value ++
    (FixedCodec.uint32.encode rec.length ++ rec.written))

variable {rec : WslogRecord}

theorem toNat_length (h : rec.Fits) : rec.length.toNat = rec.payload.length := by
  unfold length
  rw [UInt32.toNat_ofNat']
  exact Nat.mod_eq_of_lt h

theorem length_encode (rec : WslogRecord) : rec.encode.length = kHeaderBytes + rec.written.length := by
  unfold encode
  rw [List.length_append, List.length_append, List.length_append,
    FixedCodec.uint64.length_encode, FixedCodec.uint8.length_encode,
    FixedCodec.uint32.length_encode]
  show 8 + (1 + (4 + _)) = 13 + _
  omega

theorem length_written (rec : WslogRecord) : rec.written.length = rec.length.toNat := by
  unfold written length
  rw [List.length_take, UInt32.toNat_ofNat']
  exact Nat.min_eq_left (Nat.mod_le _ _)

theorem written_of_fits (h : rec.Fits) : rec.written = rec.payload := by
  unfold written
  rw [toNat_length h, List.take_length]

end WslogRecord

/-- The records one after the other. -/
def recordBytes (recs : List WslogRecord) : List UInt8 := recs.flatMap WslogRecord.encode

@[simp] theorem recordBytes_nil : recordBytes [] = [] := rfl

@[simp] theorem recordBytes_append (recs recs' : List WslogRecord) :
    recordBytes (recs ++ recs') = recordBytes recs ++ recordBytes recs' :=
  List.flatMap_append

@[simp] theorem recordBytes_singleton (rec : WslogRecord) : recordBytes [rec] = rec.encode :=
  List.append_nil _

/-! ## Reading -/

/-- `WslogReader::next` on the bytes that are left, and what is left then. -/
def WslogReader.next (bytes : List UInt8) : Option WslogRecord × List UInt8 :=
  match fread 8 bytes with
  | (none, rest) => (none, rest)
  | (some ts, rest) =>
    match fread 1 rest with
    | (none, rest) => (none, rest)
    | (some type, rest) =>
      match fread 4 rest with
      | (none, rest) => (none, rest)
      | (some length, rest) =>
        match fread (FixedCodec.uint32.decode length).toNat rest with
        | (none, rest) => (none, rest)
        | (some payload, rest) =>
          (some ⟨FixedCodec.uint64.decode ts, ⟨FixedCodec.uint8.decode type⟩, payload⟩, rest)

/-- An item of the right length is read and the rest is left. -/
theorem fread_append {n : Nat} {item : List UInt8} (h : item.length = n) (tail : List UInt8) :
    fread n (item ++ tail) = (some item, tail) := by
  unfold fread
  rw [if_pos (by rw [List.length_append]; omega), List.take_left' h, List.drop_left' h]

theorem next_encode {rec : WslogRecord} (h : rec.Fits) (tail : List UInt8) :
    WslogReader.next (rec.encode ++ tail) = (some rec, tail) := by
  have hpayload : fread (FixedCodec.uint32.decode (FixedCodec.uint32.encode rec.length)).toNat
      (rec.written ++ tail) = (some rec.written, tail) := by
    rw [FixedCodec.uint32.decode_encode]
    exact fread_append rec.length_written tail
  unfold WslogReader.next WslogRecord.encode
  simp only [List.append_assoc]
  rw [fread_append (n := 8) (FixedCodec.uint64.length_encode _)]
  dsimp only
  rw [fread_append (n := 1) (FixedCodec.uint8.length_encode _)]
  dsimp only
  rw [fread_append (n := 4) (FixedCodec.uint32.length_encode _)]
  dsimp only
  rw [hpayload]
  dsimp only
  rw [FixedCodec.uint64.decode_encode, FixedCodec.uint8.decode_encode,
    WslogRecord.written_of_fits h]

/-- The records of a file, nothing if bytes are left that are no whole record. No file has more
records than bytes. -/
def parseWithin : Nat → List UInt8 → Option (List WslogRecord)
  | _, [] => some []
  | 0, _ :: _ => none
  | fuel + 1, bytes@(_ :: _) =>
    match WslogReader.next bytes with
    | (none, _) => none
    | (some rec, rest) => (parseWithin fuel rest).map (rec :: ·)

def parseFile (bytes : List UInt8) : Option (List WslogRecord) := parseWithin bytes.length bytes

theorem parseWithin_recordBytes {recs : List WslogRecord} (hfits : ∀ rec ∈ recs, rec.Fits)
    {fuel : Nat} (hfuel : recs.length ≤ fuel) :
    parseWithin fuel (recordBytes recs) = some recs := by
  induction recs generalizing fuel with
  | nil => cases fuel <;> rfl
  | cons rec recs ih =>
    obtain ⟨fuel, rfl⟩ : ∃ n, fuel = n + 1 := ⟨fuel - 1, by rw [List.length_cons] at hfuel; omega⟩
    have hrest := ih (fun rec' h => hfits rec' (List.mem_cons_of_mem rec h))
      (Nat.le_of_succ_le_succ hfuel)
    have hnext : WslogReader.next (recordBytes (rec :: recs)) = (some rec, recordBytes recs) :=
      next_encode (hfits rec List.mem_cons_self) _
    obtain ⟨b, bs, hbytes⟩ : ∃ b bs, recordBytes (rec :: recs) = b :: bs := by
      refine List.exists_cons_of_length_pos ?_
      show 0 < (rec.encode ++ recordBytes recs).length
      have hheader : 0 < kHeaderBytes := by decide
      rw [List.length_append, rec.length_encode]
      omega
    rw [hbytes] at hnext ⊢
    rw [parseWithin, hnext]
    dsimp only
    rw [hrest, Option.map_some]

/-- **Records read back.** -/
theorem parseFile_recordBytes {recs : List WslogRecord} (hfits : ∀ rec ∈ recs, rec.Fits) :
    parseFile (recordBytes recs) = some recs := by
  refine parseWithin_recordBytes hfits ?_
  induction recs with
  | nil => exact Nat.le_refl 0
  | cons rec recs ih =>
    have hrest := ih fun rec' h => hfits rec' (List.mem_cons_of_mem rec h)
    have hlength := rec.length_encode
    show recs.length + 1 ≤ (rec.encode ++ recordBytes recs).length
    rw [List.length_append]
    unfold kHeaderBytes at hlength
    omega

/-! ## Several files -/

/-- Each of the files is made of whole records, and in their order these are `recs`. -/
def Replays (files : List (String × List UInt8)) (recs : List WslogRecord) : Prop :=
  ∃ parts : List (List WslogRecord),
    List.Forall₂ (fun file part => parseFile file.2 = some part) files parts ∧ parts.flatten = recs

end BptCore.Recorder
