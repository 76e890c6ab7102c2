import BptCore.Canon.CanonRecording
import Mathlib.Data.List.DropRight

/-!
# The Python reader

Research reads canon files with a reader of its own. It raises an exception where the reader of the
trading system ends the stream, and takes the block of a BBO or a trade from behind the message
header without looking at that.

* **`PythonReader.iterRecords`** — the generator: what it yields, and how it ends.
* **`PythonReader.readBbos`**, **`PythonReader.readTrades`** — the rows of the two tables.
* **`PythonReader.iterRecords_agrees`** — the two readers on any bytes.
* **`PythonReader.read_recorded`** — the tables of a recording.
-/

namespace BptCore.Canon

open Flyweight

namespace PythonReader

/-- What the reader raises: the `ValueError`s with what their texts tell, and the error of
`struct.unpack`. -/
inductive PyError where
  | truncatedFile (got : Nat)
  | notCanon (magic : List UInt8)
  | unsupportedVersion (version : Nat)
  | truncatedRecordHeader (got : Nat)
  | truncatedPayload (got needed : Nat)
  | structError
  deriving DecidableEq, Repr

structure FileHeader where
  schemaVersion : Nat
  sbeTemplateId : Nat
  venueId : Nat
  flags : Nat
  dateUtc : Nat
  producerKind : List Char
  producerSha : List Char
  deriving DecidableEq, Repr

/-- `rstrip` of null bytes, and `decode` as ASCII with replacement. -/
def text (bs : List UInt8) : List Char :=
  (bs.rdropWhile (· == 0)).map fun b => if b < 128 then Char.ofNat b.toNat else Char.ofNat 65533

/-- The header as it is returned. -/
def FileHeader.ofPacked (hdr : CanonFileHeader) : FileHeader where
  schemaVersion := hdr.schemaVersion.toNat
  sbeTemplateId := hdr.sbeTemplateId.toNat
  venueId := hdr.venueId.toNat
  flags := hdr.flags.toNat
  dateUtc := hdr.dateUtc.toNat
  producerKind := text hdr.producerKind.1
  producerSha := text hdr.producerSha.1

/-- `_parse_header`, and what is left of the file. -/
def parseHeader (bytes : List UInt8) : Except PyError (FileHeader × List UInt8) :=
  let buf := bytes.take kFileHeaderBytes
  if buf.length < kFileHeaderBytes then .error (.truncatedFile buf.length)
  else
    let hdr := CanonFileHeader.codec.decode buf
    if hdr.magic ≠ kMagic then .error (.notCanon hdr.magic.1)
    else if hdr.schemaVersion ≠ kSchemaVersion then
      .error (.unsupportedVersion hdr.schemaVersion.toNat)
    else .ok (.ofPacked hdr, bytes.drop kFileHeaderBytes)

/-- The loop of the generator: what it yields, and what it raises at its end if it does. A record
is yielded with the event type as it is, known or not. Every round takes bytes off the file. -/
def iterFrom : (fuel : Nat) → List UInt8 → List CanonRecord × Option PyError
  | 0, _ => ([], none)
  | fuel + 1, bytes =>
    let hdr := bytes.take 11
    if hdr = [] then ([], none)
    else if hdr.length < 11 then ([], some (.truncatedRecordHeader hdr.length))
    else
      let rh := CanonRecordHeader.codec.decode hdr
      let payload := (bytes.drop 11).take rh.sbeLen.toNat
      if payload.length < rh.sbeLen.toNat then
        ([], some (.truncatedPayload payload.length rh.sbeLen.toNat))
      else
        let rest := iterFrom fuel ((bytes.drop 11).drop rh.sbeLen.toNat)
        (⟨rh.tsNs, ⟨rh.eventT⟩, payload⟩ :: rest.1, rest.2)

def iterRecords (bytes : List UInt8) : List CanonRecord × Option PyError :=
  match parseHeader bytes with
  | .error e => ([], some e)
  | .ok (_, rest) => iterFrom rest.length rest

/-! ## The tables -/

structure BboRow where
  tsNs : Nat
  instrumentId : Nat
  bid : Nat
  bidQty : Nat
  ask : Nat
  askQty : Nat
  seqNum : Nat
  deriving DecidableEq, Repr

structure TradeRow where
  tsNs : Nat
  instrumentId : Nat
  price : Nat
  qty : Nat
  side : Nat
  seqNum : Nat
  deriving DecidableEq, Repr

/-- The block behind the message header, as much of it as there is. -/
def body (blockBytes : Nat) (rec : CanonRecord) : List UInt8 :=
  (rec.sbe.drop headerLength).take blockBytes

def bboRow (rec : CanonRecord) : Except PyError BboRow :=
  let b := body MdMarketDataBlockLength rec
  if b.length ≠ MdMarketDataBlockLength then .error .structError
  else
    .ok
      { tsNs := rec.tsNs.toNat, instrumentId := uintAt b 8 8, bid := uintAt b 16 8
        bidQty := uintAt b 24 8, ask := uintAt b 32 8, askQty := uintAt b 40 8
        seqNum := uintAt b 48 8 }

def tradeRow (rec : CanonRecord) : Except PyError TradeRow :=
  let b := body MdTradeBlockLength rec
  if b.length ≠ MdTradeBlockLength then .error .structError
  else
    .ok
      { tsNs := rec.tsNs.toNat, instrumentId := uintAt b 8 8, price := uintAt b 16 8
        qty := uintAt b 24 8, side := uintAt b 32 1, seqNum := uintAt b 33 8 }

/-- The loop of the table readers: a row for each record of the type, until one raises. -/
def rows {α : Type} (type : EventType) (row : CanonRecord → Except PyError α) :
    List CanonRecord → Except PyError (List α)
  | [] => .ok []
  | rec :: recs =>
    if rec.type ≠ type then rows type row recs
    else (row rec).bind fun r => (rows type row recs).map (r :: ·)

/-- A table of all records: the loop raises before the generator does. -/
def readTable {α : Type} (type : EventType) (row : CanonRecord → Except PyError α)
    (bytes : List UInt8) : Except PyError (List α) :=
  (rows type row (iterRecords bytes).1).bind fun table =>
    match (iterRecords bytes).2 with
    | none => .ok table
    | some e => .error e

def readBbos (bytes : List UInt8) : Except PyError (List BboRow) := readTable .BBO bboRow bytes

def readTrades (bytes : List UInt8) : Except PyError (List TradeRow) :=
  readTable .TRADE tradeRow bytes

/-! ## The two readers -/

theorem exact_recordHeader : CanonRecordHeader.codec.Exact :=
  (FixedCodec.exact_uint64.prod (FixedCodec.exact_uint8.prod FixedCodec.exact_uint16)).map
    fun _ => rfl

open FixedCodec in
theorem exact_fileHeader : CanonFileHeader.codec.Exact :=
  ((exact_bytes 4).prod <| exact_uint16.prod <| exact_uint16.prod <| exact_uint8.prod <|
    exact_uint8.prod <| exact_uint32.prod <| (exact_bytes 16).prod <| (exact_bytes 40).prod <|
    exact_bytes 26).map fun _ => rfl

theorem take_eq_nil_iff_of_pos {n : Nat} (hn : n ≠ 0) (bytes : List UInt8) :
    bytes.take n = [] ↔ bytes = [] := by
  rw [List.take_eq_nil_iff]
  exact or_iff_right hn

/-- What one round finds: the end, a part of a record, or a record. -/
theorem iterFrom_succ_cases (fuel : Nat) (bytes : List UInt8) :
    (bytes = [] ∧ iterFrom (fuel + 1) bytes = ([], none)) ∨
    (bytes ≠ [] ∧ CanonReader.nextRecord bytes = (none, []) ∧
      ∃ e, iterFrom (fuel + 1) bytes = ([], some e)) ∨
    ∃ rec rest, CanonReader.nextRecord bytes = (some rec, rest) ∧ bytes = rec.encode ++ rest ∧
      rec.Fits ∧
      iterFrom (fuel + 1) bytes = (rec :: (iterFrom fuel rest).1, (iterFrom fuel rest).2) := by
  by_cases hnil : bytes = []
  · refine .inl ⟨hnil, ?_⟩
    subst hnil
    rfl
  have hne : ¬ bytes.take 11 = [] := fun h => hnil ((take_eq_nil_iff_of_pos (by decide) bytes).mp h)
  by_cases hheader : bytes.length < 11
  · refine .inr (.inl ⟨hnil, ?_, ?_⟩)
    · unfold CanonReader.nextRecord fread
      rw [if_neg (by omega)]
    · refine ⟨.truncatedRecordHeader (bytes.take 11).length, ?_⟩
      rw [iterFrom, if_neg hne, if_pos (by rw [List.length_take]; omega)]
  have hread : fread 11 bytes = (some (bytes.take 11), bytes.drop 11) := if_pos (by omega)
  have hlen : (bytes.take 11).length = 11 := by
    rw [List.length_take]
    omega
  by_cases hpayload : (bytes.drop 11).length <
      (CanonRecordHeader.codec.decode (bytes.take 11)).sbeLen.toNat
  · refine .inr (.inl ⟨hnil, ?_, ?_⟩)
    · unfold CanonReader.nextRecord
      rw [hread]
      unfold fread
      simp only [if_neg (Nat.not_le.mpr hpayload)]
    · rw [iterFrom, if_neg hne, if_neg (by omega)]
      exact ⟨_, if_pos (by rw [List.length_take]; omega)⟩
  · -- the header and as many bytes as it announces are there
    have hle := Nat.not_lt.mp hpayload
    have hexact := exact_recordHeader (bytes.take 11) hlen
    generalize hrh : CanonRecordHeader.codec.decode (bytes.take 11) = rh at hpayload hle hexact
    have hsbe : ((bytes.drop 11).take rh.sbeLen.toNat).length = rh.sbeLen.toNat := by
      rw [List.length_take, Nat.min_eq_left hle]
    refine .inr (.inr ⟨⟨rh.tsNs, ⟨rh.eventT⟩, (bytes.drop 11).take rh.sbeLen.toNat⟩,
      (bytes.drop 11).drop rh.sbeLen.toNat, ?_, ?_, ?_, ?_⟩)
    · unfold CanonReader.nextRecord
      rw [hread]
      simp only [hrh]
      unfold fread
      rw [if_pos hle]
    · have hheaderEq : CanonRecord.header
          ⟨rh.tsNs, ⟨rh.eventT⟩, (bytes.drop 11).take rh.sbeLen.toNat⟩ = rh := by
        unfold CanonRecord.header
        rw [hsbe, UInt16.ofNat_toNat]
      rw [CanonRecord.encode, hheaderEq, hexact, List.append_assoc, List.take_append_drop,
        List.take_append_drop]
    · show ((bytes.drop 11).take rh.sbeLen.toNat).length ≤ 65535
      have hlt := rh.sbeLen.toNat_lt
      omega
    · rw [iterFrom, if_neg hne, if_neg (by omega)]
      simp only [hrh]
      exact if_neg (by rw [hsbe]; exact Nat.lt_irrefl _)

/-- Both loops find the same records. -/
theorem iterFrom_fst (fuel : Nat) (bytes : List UInt8) :
    (iterFrom fuel bytes).1 = CanonReader.recordsFrom fuel bytes := by
  induction fuel generalizing bytes with
  | zero => rfl
  | succ fuel ih =>
    rw [CanonReader.recordsFrom]
    obtain ⟨rfl, hiter⟩ | ⟨-, hnext, e, hiter⟩ | ⟨rec, rest, hnext, -, -, hiter⟩ :=
      iterFrom_succ_cases fuel bytes
    · rw [hiter]
      rfl
    · rw [hiter, hnext]
    · rw [hiter, hnext, ih rest]

/-- The generator ends without an exception on whole records only. -/
theorem iterFrom_eq_iff {fuel : Nat} {bytes : List UInt8} (hfuel : bytes.length ≤ fuel)
    {recs : List CanonRecord} :
    iterFrom fuel bytes = (recs, none) ↔
      bytes = recordBytes recs ∧ ∀ rec ∈ recs, rec.Fits := by
  induction fuel generalizing bytes recs with
  | zero =>
    obtain rfl : bytes = [] := List.length_eq_zero_iff.mp (Nat.le_zero.mp hfuel)
    cases recs with
    | nil => simp [iterFrom]
    | cons rec recs =>
      refine iff_of_false (by simp [iterFrom]) fun h => ?_
      have hlen := congrArg List.length h.1
      rw [recordBytes_cons, List.length_append, rec.length_encode, List.length_nil] at hlen
      omega
  | succ fuel ih =>
    obtain ⟨rfl, hiter⟩ | ⟨hne, hnext, e, hiter⟩ | ⟨rec, rest, hnext, hsplit, hfits, hiter⟩ :=
      iterFrom_succ_cases fuel bytes
    · rw [hiter]
      cases recs with
      | nil => simp
      | cons rec recs =>
        refine iff_of_false (by simp) fun h => ?_
        have hlen := congrArg List.length h.1
        rw [recordBytes_cons, List.length_append, rec.length_encode, List.length_nil] at hlen
        omega
    · rw [hiter]
      refine iff_of_false (by simp) ?_
      rintro ⟨hbytes, hall⟩
      cases recs with
      | nil => exact hne hbytes
      | cons rec recs =>
        rw [hbytes, recordBytes_cons,
          CanonReader.nextRecord_encode (hall rec List.mem_cons_self)] at hnext
        cases hnext
    · have hshort : rest.length ≤ fuel := by
        rw [hsplit, List.length_append, rec.length_encode] at hfuel
        omega
      rw [hiter]
      constructor
      · intro h
        obtain ⟨rfl, hend⟩ := Prod.mk.inj h
        have hwhole : iterFrom fuel rest = ((iterFrom fuel rest).1, none) := Prod.ext rfl hend
        obtain ⟨hrest, hall⟩ := (ih hshort).mp hwhole
        refine ⟨?_, List.forall_mem_cons.mpr ⟨hfits, hall⟩⟩
        rw [recordBytes_cons, ← hrest, hsplit]
      · rintro ⟨hbytes, hall⟩
        cases recs with
        | nil =>
          have hlen := congrArg List.length (hsplit.symm.trans hbytes)
          rw [recordBytes_nil, List.length_append, rec.length_encode, List.length_nil] at hlen
          omega
        | cons rec' recs =>
          rw [hbytes, recordBytes_cons,
            CanonReader.nextRecord_encode (hall rec' List.mem_cons_self)] at hnext
          cases hnext
          have hrest := (ih hshort).mpr
            ⟨rfl, fun r hr => hall r (List.mem_cons_of_mem rec hr)⟩
          rw [hrest]

theorem parseHeader_encode {hdr : CanonFileHeader} (hmagic : hdr.magic = kMagic)
    (hversion : hdr.schemaVersion = kSchemaVersion) (rest : List UInt8) :
    parseHeader (CanonFileHeader.codec.encode hdr ++ rest) = .ok (.ofPacked hdr, rest) := by
  have hlen : (CanonFileHeader.codec.encode hdr).length = kFileHeaderBytes :=
    CanonFileHeader.codec.length_encode hdr
  unfold parseHeader
  simp only [List.take_left' hlen, List.drop_left' hlen, hlen, CanonFileHeader.codec.decode_encode]
  rw [if_neg (Nat.lt_irrefl _), if_neg (not_not.mpr hmagic), if_neg (not_not.mpr hversion)]

theorem parseHeader_eq_ok {bytes rest : List UInt8} {fh : FileHeader}
    (h : parseHeader bytes = .ok (fh, rest)) :
    ∃ hdr : CanonFileHeader, hdr.magic = kMagic ∧ hdr.schemaVersion = kSchemaVersion ∧
      bytes = CanonFileHeader.codec.encode hdr ++ rest ∧ fh = .ofPacked hdr := by
  by_cases hlen : (bytes.take kFileHeaderBytes).length < kFileHeaderBytes
  · simp only [parseHeader, if_pos hlen] at h
    cases h
  simp only [parseHeader, if_neg hlen] at h
  have hexact := exact_fileHeader (bytes.take kFileHeaderBytes) (by
    rw [List.length_take] at hlen ⊢
    rw [CanonFileHeader.width_codec]
    omega)
  split at h
  · cases h
  next hmagic =>
    split at h
    · cases h
    next hversion =>
      cases h
      refine ⟨_, not_not.mp hmagic, not_not.mp hversion, ?_, rfl⟩
      rw [hexact, List.take_append_drop]

theorem validHeader_iff (hdr : CanonFileHeader) :
    CanonReader.validHeader hdr = true ↔ hdr.magic = kMagic ∧ hdr.schemaVersion ≤ kSchemaVersion ∧
      hdr.sbeTemplateId = kSbeTemplateFamily := by
  unfold CanonReader.validHeader
  split
  next h => exact iff_of_false (by simp) fun h' => h h'.1
  next h =>
    split
    next hv => exact iff_of_false (by simp) fun h' => absurd hv (UInt16.not_lt.mpr h'.2.1)
    next hv =>
      split
      next ht => exact iff_of_false (by simp) fun h' => ht h'.2.2
      next ht =>
        exact iff_of_true rfl ⟨not_not.mp h, UInt16.not_lt.mp hv, not_not.mp ht⟩

/-- A file that opens begins with the header that its reader has, and the reader goes on behind
it. -/
theorem ofFile_ok {bytes : List UInt8} (h : (CanonReader.ofFile (some bytes)).ok = true) :
    ∃ rest, bytes =
        CanonFileHeader.codec.encode (CanonReader.ofFile (some bytes)).header ++ rest ∧
      CanonReader.validHeader (CanonReader.ofFile (some bytes)).header = true := by
  by_cases hlen : kFileHeaderBytes ≤ bytes.length
  · have hread : fread kFileHeaderBytes bytes =
        (some (bytes.take kFileHeaderBytes), bytes.drop kFileHeaderBytes) := if_pos hlen
    have hexact := exact_fileHeader (bytes.take kFileHeaderBytes) (by
      rw [List.length_take, CanonFileHeader.width_codec, Nat.min_eq_left hlen])
    unfold CanonReader.ofFile at h ⊢
    simp only [hread, CanonReader.ok, Option.isSome_some, Bool.true_and] at h ⊢
    exact ⟨bytes.drop kFileHeaderBytes, by rw [hexact, List.take_append_drop], h⟩
  · have hread : fread kFileHeaderBytes bytes = (none, []) := if_neg hlen
    unfold CanonReader.ofFile at h
    simp only [hread, CanonReader.ok, Bool.and_false] at h
    cases h

/-- **Two readers of one format**, on any bytes. Where the Python reader takes the header, of the
template family that the other reader asks for, the other opens the file too, and both give the same
records, also when the file is cut off. Where the other reader opens a file of the current version,
the Python reader takes its header. And the Python reader ends without raising exactly on what a
writer may have left: a header and whole records. -/
theorem iterRecords_agrees (bytes : List UInt8) :
    (∀ fh rest, parseHeader bytes = .ok (fh, rest) → fh.sbeTemplateId = 1 →
      (CanonReader.ofFile (some bytes)).ok = true ∧
        (iterRecords bytes).1 = (CanonReader.ofFile (some bytes)).records) ∧
    ((CanonReader.ofFile (some bytes)).ok = true →
      (CanonReader.ofFile (some bytes)).header.schemaVersion = kSchemaVersion →
        ∃ fh rest, parseHeader bytes = .ok (fh, rest)) ∧
    ∀ recs, iterRecords bytes = (recs, none) ↔
      ∃ hdr : CanonFileHeader, hdr.magic = kMagic ∧ hdr.schemaVersion = kSchemaVersion ∧
        bytes = image hdr recs ∧ ∀ rec ∈ recs, rec.Fits := by
  refine ⟨?_, ?_, ?_⟩
  · intro fh rest hparse htemplate
    obtain ⟨hdr, hmagic, hversion, hbytes, hfh⟩ := parseHeader_eq_ok hparse
    have hfamily : hdr.sbeTemplateId = kSbeTemplateFamily := by
      rw [hfh] at htemplate
      exact UInt16.toNat_inj.mp htemplate
    have hvalid := (validHeader_iff hdr).mpr ⟨hmagic, hversion ▸ UInt16.le_refl _, hfamily⟩
    have hopen := CanonReader.ofFile_header hvalid rest
    rw [← hbytes] at hopen
    rw [hopen]
    refine ⟨rfl, ?_⟩
    unfold iterRecords
    rw [hparse]
    exact iterFrom_fst _ _
  · intro hok hversion
    obtain ⟨rest, hbytes, hvalid⟩ := ofFile_ok hok
    have hparse := parseHeader_encode ((validHeader_iff _).mp hvalid).1 hversion rest
    rw [← hbytes] at hparse
    exact ⟨_, rest, hparse⟩
  · intro recs
    unfold iterRecords
    constructor
    · intro h
      split at h
      next => simp at h
      next fh rest hparse =>
        obtain ⟨hdr, hmagic, hversion, hbytes, -⟩ := parseHeader_eq_ok hparse
        obtain ⟨hrest, hfits⟩ := (iterFrom_eq_iff (Nat.le_refl _)).mp h
        exact ⟨hdr, hmagic, hversion, by rw [hbytes, hrest]; rfl, hfits⟩
    · rintro ⟨hdr, hmagic, hversion, rfl, hfits⟩
      have hparse : parseHeader (image hdr recs) = .ok (.ofPacked hdr, recordBytes recs) :=
        parseHeader_encode hmagic hversion (recordBytes recs)
      rw [hparse]
      exact (iterFrom_eq_iff (Nat.le_refl _)).mpr ⟨rfl, hfits⟩

/-! ## The tables of a recording -/

/-- The rows of publications after number `seq`. -/
def bboRowsOf : (seq : Nat) → List Publication → List BboRow
  | _, [] => []
  | seq, pub :: pubs =>
    (match pub with
      | .bbo b =>
        [⟨b.timestampNs, b.instrumentId, b.bidPrice, b.bidQty, b.askPrice, b.askQty,
          pub.nextSeq seq⟩]
      | .trade _ | .book _ | .funding _ => []) ++ bboRowsOf (pub.nextSeq seq) pubs

def tradeRowsOf : (seq : Nat) → List Publication → List TradeRow
  | _, [] => []
  | seq, pub :: pubs =>
    (match pub with
      | .trade t =>
        [⟨t.timestampNs, t.instrumentId, t.price, t.qty, t.side, pub.nextSeq seq⟩]
      | .bbo _ | .book _ | .funding _ => []) ++ tradeRowsOf (pub.nextSeq seq) pubs

/-- A field of the block, read from behind the message header. -/
theorem uintAt_body {blockBytes offset width : Nat} (h : offset + width ≤ blockBytes)
    (rec : CanonRecord) :
    uintAt (body blockBytes rec) offset width = uintAt rec.sbe (headerLength + offset) width := by
  unfold uintAt body
  rw [List.drop_take, List.take_take, Nat.min_eq_left (by omega), List.drop_drop]

theorem tsNs_record {p : Publication} (h : p.Fits) (seqNum : Nat) :
    (p.record seqNum).tsNs.toNat = p.tsNs := by
  show (UInt64.ofNat p.tsNs).toNat = p.tsNs
  rw [UInt64.toNat_ofNat']
  exact Nat.mod_eq_of_lt (Publication.tsNs_lt h)

theorem sbe_record (pub : Publication) (seqNum : Nat) :
    (pub.record seqNum).sbe = pub.payload seqNum := rfl

theorem type_record (pub : Publication) (seqNum : Nat) :
    (pub.record seqNum).type = pub.eventType := rfl

theorem length_body_record {blockBytes : Nat} {pub : Publication}
    (h : pub.encodedLength = headerLength + blockBytes) (seqNum : Nat) :
    (body blockBytes (pub.record seqNum)).length = blockBytes := by
  rw [body, sbe_record, List.length_take, List.length_drop, pub.length_payload, h]
  omega

theorem bboRow_record {b : SbeBbo} (hb : b.Fits) {seqNum : Nat} (hseq : seqNum < 2 ^ 64) :
    bboRow ((Publication.bbo b).record seqNum) =
      .ok ⟨b.timestampNs, b.instrumentId, b.bidPrice, b.bidQty, b.askPrice, b.askQty, seqNum⟩ := by
  have h : Holds ((Publication.bbo b).payload seqNum) (bboWrites b seqNum) :=
    (Publication.bbo b).holds_payload seqNum
  have hlen : (body MdMarketDataBlockLength ((Publication.bbo b).record seqNum)).length =
      MdMarketDataBlockLength := length_body_record rfl seqNum
  have hts : ((Publication.bbo b).record seqNum).tsNs.toNat = b.timestampNs :=
    tsNs_record (p := .bbo b) hb seqNum
  have hread : ∀ {offset n : Nat}, offset + 8 ≤ MdMarketDataBlockLength → n < 2 ^ 64 →
      setField offset 8 n ∈ bboWrites b seqNum →
      uintAt (body MdMarketDataBlockLength ((Publication.bbo b).record seqNum)) offset 8 = n :=
    fun hle hn hw => by rw [uintAt_body hle, sbe_record, h.uintAt hw hn]
  simp only [SbeBbo.Fits, List.forall_mem_cons] at hb
  obtain ⟨-, hid, hbidPrice, hbidQty, haskPrice, haskQty, -⟩ := hb
  unfold bboRow
  simp only [hlen, hts]
  rw [if_neg (not_not.mpr rfl), hread (by decide) hid (by simp [bboWrites]),
    hread (by decide) hbidPrice (by simp [bboWrites]),
    hread (by decide) hbidQty (by simp [bboWrites]),
    hread (by decide) haskPrice (by simp [bboWrites]),
    hread (by decide) haskQty (by simp [bboWrites]), hread (by decide) hseq (by simp [bboWrites])]

theorem tradeRow_record {t : SbeTrade} (ht : t.Fits) {seqNum : Nat} (hseq : seqNum < 2 ^ 64) :
    tradeRow ((Publication.trade t).record seqNum) =
      .ok ⟨t.timestampNs, t.instrumentId, t.price, t.qty, t.side, seqNum⟩ := by
  have h : Holds ((Publication.trade t).payload seqNum) (tradeWrites t seqNum) :=
    (Publication.trade t).holds_payload seqNum
  have hlen : (body MdTradeBlockLength ((Publication.trade t).record seqNum)).length =
      MdTradeBlockLength := length_body_record rfl seqNum
  have hts : ((Publication.trade t).record seqNum).tsNs.toNat = t.timestampNs :=
    tsNs_record (p := .trade t) ht seqNum
  have hread : ∀ {offset width n : Nat}, offset + width ≤ MdTradeBlockLength → n < 256 ^ width →
      setField offset width n ∈ tradeWrites t seqNum →
      uintAt (body MdTradeBlockLength ((Publication.trade t).record seqNum)) offset width = n :=
    fun hle hn hw => by rw [uintAt_body hle, sbe_record, h.uintAt hw hn]
  simp only [SbeTrade.Fits, List.forall_mem_cons] at ht
  obtain ⟨⟨-, hid, hprice, hqty, -⟩, hside⟩ := ht
  have hside' : t.side < 256 ^ 1 := by
    have hall : ∀ n ∈ [0, 1, 255], n < 256 ^ 1 := by decide
    exact hall _ hside
  unfold tradeRow
  simp only [hlen, hts]
  rw [if_neg (not_not.mpr rfl), hread (by decide) hid (by simp [tradeWrites]),
    hread (by decide) hprice (by simp [tradeWrites]), hread (by decide) hqty (by simp [tradeWrites]),
    hread (by decide) hside' (by simp [tradeWrites]),
    hread (by decide) hseq (by simp [tradeWrites])]

theorem nextSeq_lt {seq : Nat} (hseq : seq < 2 ^ 64) (pub : Publication) :
    pub.nextSeq seq < 2 ^ 64 := by
  cases pub with
  | funding f => exact hseq
  | bbo _ | trade _ | book _ => exact Nat.mod_lt _ (by decide)

theorem rows_bbo {pubs : List Publication} (h : ∀ pub ∈ pubs, pub.Fits) {seq : Nat}
    (hseq : seq < 2 ^ 64) :
    rows .BBO bboRow (recordsOf seq pubs) = .ok (bboRowsOf seq pubs) := by
  induction pubs generalizing seq with
  | nil => rfl
  | cons pub pubs ih =>
    have hnext := nextSeq_lt hseq pub
    have hrest := ih (fun p hp => h p (List.mem_cons_of_mem pub hp)) hnext
    have hskip : pub.eventType ≠ .BBO →
        rows .BBO bboRow (recordsOf seq (pub :: pubs)) = .ok (bboRowsOf (pub.nextSeq seq) pubs) :=
      fun htype => (if_pos htype).trans hrest
    cases pub with
    | bbo b =>
      have hrow := bboRow_record (h _ List.mem_cons_self) hnext
      rw [recordsOf, rows, type_record, Publication.eventType, if_neg (not_not.mpr rfl), hrow, hrest]
      rfl
    | trade t => exact hskip (show EventType.TRADE ≠ .BBO by decide)
    | book b => exact hskip (show EventType.BOOK ≠ .BBO by decide)
    | funding f => exact hskip (show EventType.FUNDING ≠ .BBO by decide)

theorem rows_trade {pubs : List Publication} (h : ∀ pub ∈ pubs, pub.Fits) {seq : Nat}
    (hseq : seq < 2 ^ 64) :
    rows .TRADE tradeRow (recordsOf seq pubs) = .ok (tradeRowsOf seq pubs) := by
  induction pubs generalizing seq with
  | nil => rfl
  | cons pub pubs ih =>
    have hnext := nextSeq_lt hseq pub
    have hrest := ih (fun p hp => h p (List.mem_cons_of_mem pub hp)) hnext
    have hskip : pub.eventType ≠ .TRADE →
        rows .TRADE tradeRow (recordsOf seq (pub :: pubs)) =
          .ok (tradeRowsOf (pub.nextSeq seq) pubs) :=
      fun htype => (if_pos htype).trans hrest
    cases pub with
    | bbo b => exact hskip (show EventType.BBO ≠ .TRADE by decide)
    | trade t =>
      have hrow := tradeRow_record (h _ List.mem_cons_self) hnext
      rw [recordsOf, rows, type_record, Publication.eventType, if_neg (not_not.mpr rfl), hrow, hrest]
      rfl
    | book b => exact hskip (show EventType.BOOK ≠ .TRADE by decide)
    | funding f => exact hskip (show EventType.FUNDING ≠ .TRADE by decide)

/-- **The tables of a recording.** Whatever was published in a recording session, of numbers of the
wire type: the two tables of its file are read without an exception, and their rows are the published
BBOs and trades, in order, each with its number among the publications that carry one. -/
theorem read_recorded (cfg : CanonWriter.Config) (calls : List PublishCall)
    (h : ∀ call ∈ calls, call.pub.Fits) :
    ∃ file, CanonRecordingPublisher.recorded cfg calls = some file ∧
      readBbos file = .ok (bboRowsOf 0 (calls.map PublishCall.pub)) ∧
      readTrades file = .ok (tradeRowsOf 0 (calls.map PublishCall.pub)) := by
  have hfits : ∀ pub ∈ calls.map PublishCall.pub, pub.Fits := by
    intro pub hpub
    obtain ⟨call, hcall, rfl⟩ := List.mem_map.mp hpub
    exact h call hcall
  have hiter : iterRecords (image cfg.header (recordsOf 0 (calls.map PublishCall.pub))) =
      (recordsOf 0 (calls.map PublishCall.pub), none) := by
    have hparse : parseHeader (image cfg.header (recordsOf 0 (calls.map PublishCall.pub))) = _ :=
      parseHeader_encode rfl rfl _
    unfold iterRecords
    rw [hparse]
    exact (iterFrom_eq_iff (Nat.le_refl _)).mpr ⟨rfl, fits_recordsOf 0 _⟩
  refine ⟨_, CanonRecordingPublisher.recorded_eq cfg calls, ?_, ?_⟩
  · rw [readBbos, readTable, hiter, rows_bbo hfits (by decide)]
    rfl
  · rw [readTrades, readTable, hiter, rows_trade hfits (by decide)]
    rfl

/-- A BBO, a funding rate and a trade: the trade has the number 2. -/
theorem read_recorded_three :
    ∃ file, CanonRecordingPublisher.recorded {}
        [⟨.bbo ⟨7, 5, 1, 2, 3, 4⟩, dirtyScratch⟩, ⟨.funding ⟨3, 5, 10, 8, 9⟩, dirtyScratch⟩,
          ⟨.trade ⟨9, 5, 1, 2, 1⟩, dirtyScratch⟩] = some file ∧
      readBbos file = .ok [⟨7, 5, 1, 2, 3, 4, 1⟩] ∧ readTrades file = .ok [⟨9, 5, 1, 2, 1, 2⟩] := by
  refine read_recorded {} _ fun call hcall => ?_
  simp only [List.mem_cons, List.not_mem_nil, or_false] at hcall
  obtain rfl | rfl | rfl := hcall
  · show ∀ n ∈ [7, 5, 1, 2, 3, 4], n < 2 ^ 64
    decide
  · show (∀ n ∈ [5, 8, 9], n < 2 ^ 64) ∧ 10 < 2 ^ 32 ∧ 3 ∈ [0, 1, 2, 3, 4, 255]
    decide
  · show (∀ n ∈ [9, 5, 1, 2], n < 2 ^ 64) ∧ 1 ∈ [0, 1, 255]
    decide

end PythonReader

end BptCore.Canon
