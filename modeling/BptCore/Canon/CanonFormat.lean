import BptCore.Lib.FixedCodec

/-!
# The canon file format

A canon file is a header of 96 bytes and then, one after the other, records of a header of 11 bytes
and as many payload bytes as that header announces. Numbers are little-endian and nothing is padded.

* **`CanonFileHeader.codec`**, **`CanonRecordHeader.codec`** — the two packed structures.
* **`CanonRecord.encode`** — a record as it stands in the file.
* **`image`** — a file of records.
-/

namespace BptCore.Canon

open FixedCodec (ByteArr)

def kMagic : ByteArr 4 := ⟨[0x42, 0x50, 0x54, 0x43], rfl⟩

def kSchemaVersion : UInt16 := 1

def kSbeTemplateFamily : UInt16 := 1

/-- An enumeration over a byte. A reader casts whatever byte it finds, so each is a value. -/
structure EventType where
  value : UInt8
  deriving DecidableEq, Repr

namespace EventType

def BBO : EventType := ⟨0⟩
def TRADE : EventType := ⟨1⟩
def BOOK : EventType := ⟨2⟩
def FUNDING : EventType := ⟨3⟩
def MARK : EventType := ⟨4⟩

end EventType

def kFileHeaderBytes : Nat := 96

structure CanonFileHeader where
  magic : ByteArr 4
  schemaVersion : UInt16
  sbeTemplateId : UInt16
  venueId : UInt8
  flags : UInt8
  dateUtc : UInt32
  producerKind : ByteArr 16
  producerSha : ByteArr 40
  reserved : ByteArr 26
  deriving DecidableEq

namespace CanonFileHeader

def codec : FixedCodec CanonFileHeader :=
  (FixedCodec.bytes 4 |>.prod <| .prod .uint16 <| .prod .uint16 <| .prod .uint8 <| .prod .uint8 <|
    .prod .uint32 <| .prod (.bytes 16) <| .prod (.bytes 40) <| .bytes 26).map
    (fun ⟨m, s, t, v, f, d, k, h, r⟩ => ⟨m, s, t, v, f, d, k, h, r⟩)
    (fun h => ⟨h.magic, h.schemaVersion, h.sbeTemplateId, h.venueId, h.flags, h.dateUtc,
      h.producerKind, h.producerSha, h.reserved⟩)
    fun _ => rfl

theorem width_codec : codec.width = kFileHeaderBytes := rfl

/-- All bytes zero. -/
instance : Inhabited CanonFileHeader := ⟨codec.decode (List.replicate kFileHeaderBytes 0)⟩

end CanonFileHeader

structure CanonRecordHeader where
  tsNs : UInt64
  eventT : UInt8
  sbeLen : UInt16
  deriving DecidableEq, Repr

namespace CanonRecordHeader

def codec : FixedCodec CanonRecordHeader :=
  (FixedCodec.uint64.prod <| .prod .uint8 .uint16).map
    (fun ⟨t, e, l⟩ => ⟨t, e, l⟩)
    (fun h => ⟨h.tsNs, h.eventT, h.sbeLen⟩)
    fun _ => rfl

theorem width_codec : codec.width = 11 := rfl

end CanonRecordHeader

structure CanonRecord where
  tsNs : UInt64
  type : EventType
  sbe : List UInt8
  deriving DecidableEq, Repr

/-! ## Records in a file -/

namespace CanonRecord

/-- The payload is no longer than the length field can say. -/
def Fits (rec : CanonRecord) : Prop := rec.sbe.length ≤ 65535

instance (rec : CanonRecord) : Decidable rec.Fits := inferInstanceAs (Decidable (_ ≤ _))

def header (rec : CanonRecord) : CanonRecordHeader :=
  ⟨rec.tsNs, rec.type.value, UInt16.ofNat rec.sbe.length⟩

def encode (rec : CanonRecord) : List UInt8 := CanonRecordHeader.codec.encode rec.header ++ rec.sbe

theorem sbeLen_header {rec : CanonRecord} (hfits : rec.Fits) :
    rec.header.sbeLen.toNat = rec.sbe.length := by
  have hlt : rec.sbe.length < 65536 := Nat.lt_succ_of_le hfits
  show (UInt16.ofNat rec.sbe.length).toNat = rec.sbe.length
  rw [UInt16.toNat_ofNat']
  exact Nat.mod_eq_of_lt hlt

theorem length_header (rec : CanonRecord) :
    (CanonRecordHeader.codec.encode rec.header).length = 11 :=
  CanonRecordHeader.codec.length_encode rec.header

theorem length_encode (rec : CanonRecord) : rec.encode.length = 11 + rec.sbe.length := by
  unfold encode
  rw [List.length_append, length_header]

end CanonRecord

/-- The records one after the other. -/
def recordBytes (recs : List CanonRecord) : List UInt8 := recs.flatMap CanonRecord.encode

@[simp] theorem recordBytes_nil : recordBytes [] = [] := rfl

@[simp] theorem recordBytes_cons (rec : CanonRecord) (recs : List CanonRecord) :
    recordBytes (rec :: recs) = rec.encode ++ recordBytes recs := rfl

@[simp] theorem recordBytes_append (recs recs' : List CanonRecord) :
    recordBytes (recs ++ recs') = recordBytes recs ++ recordBytes recs' :=
  List.flatMap_append

/-- A file of a header and records. -/
def image (hdr : CanonFileHeader) (recs : List CanonRecord) : List UInt8 :=
  CanonFileHeader.codec.encode hdr ++ recordBytes recs

theorem length_image (hdr : CanonFileHeader) (recs : List CanonRecord) :
    (image hdr recs).length = kFileHeaderBytes + (recordBytes recs).length := by
  unfold image
  rw [List.length_append, CanonFileHeader.codec.length_encode, CanonFileHeader.width_codec]

end BptCore.Canon
