import BptCore.Canon.CanonWriter

/-!
# The canon reader

`CanonReader` validates the file header once and then returns a record a call, until the bytes that
are left are no whole record. Whatever the size of the writer's buffer and wherever the producer
flushes, the file is its header and its records, and the reader gets the same records back, all of
them or those before a cut.

* **`CanonReader.next`** — the next record, nothing at the end or on a truncated read.
* **`Reads`** — what all calls of `next` return, the end of the stream included.
* **`reads_image`** — reading back the records of a file.
* **`reads_take_image`** — reading back a file that was cut off anywhere behind its header.
* **`canon_round_trip`** — the writer, the reader on the whole file and on any truncation.
-/

namespace BptCore.Canon

/-- `fread` of one item of `n` bytes: the item if there is that much, and what is left to read. -/
def fread (n : Nat) (bytes : List UInt8) : Option (List UInt8) × List UInt8 :=
  if n ≤ bytes.length then (some (bytes.take n), bytes.drop n) else (none, [])

/-- `rest` is the part of the file that was not read, `none` when it could not be opened. -/
structure CanonReader where
  rest : Option (List UInt8)
  openOk : Bool := false
  header : CanonFileHeader := default

namespace CanonReader

/-- `read_and_validate_header`, on the header that was read. -/
def validHeader (hdr : CanonFileHeader) : Bool :=
  if hdr.magic ≠ kMagic then false
  else if hdr.schemaVersion > kSchemaVersion then false
  else if hdr.sbeTemplateId ≠ kSbeTemplateFamily then false
  else true

/-- The constructor, on what the path holds. -/
def ofFile : Option (List UInt8) → CanonReader
  | none => { rest := none }
  | some bytes =>
    match fread kFileHeaderBytes bytes with
    | (none, rest) => { rest := some rest }
    | (some item, rest) =>
      let hdr := CanonFileHeader.codec.decode item
      { rest := some rest, openOk := validHeader hdr, header := hdr }

def ok (r : CanonReader) : Bool := r.rest.isSome && r.openOk

/-- A record off the front of the bytes. A short read takes all there is. -/
def nextRecord (bytes : List UInt8) : Option CanonRecord × List UInt8 :=
  match fread 11 bytes with
  | (none, rest) => (none, rest)
  | (some item, rest) =>
    let rh := CanonRecordHeader.codec.decode item
    match fread rh.sbeLen.toNat rest with
    | (none, rest) => (none, rest)
    | (some sbe, rest) => (some ⟨rh.tsNs, ⟨rh.eventT⟩, sbe⟩, rest)

def next (r : CanonReader) : Option CanonRecord × CanonReader :=
  match r.rest, r.openOk with
  | some bytes, true =>
    let (rec, rest) := nextRecord bytes
    (rec, { r with rest := some rest })
  | _, _ => (none, r)

/-- What the call number `k` of `next` returns, counted from 0. -/
def nextAt (r : CanonReader) : Nat → Option CanonRecord
  | 0 => r.next.1
  | k + 1 => nextAt r.next.2 k

/-- The calls of `next` return `recs` in order, and nothing from then on. -/
def Reads (r : CanonReader) (recs : List CanonRecord) : Prop := ∀ k, r.nextAt k = recs[k]?

/-! ## A record off the front -/

theorem nextRecord_encode {rec : CanonRecord} (hfits : rec.Fits) (tail : List UInt8) :
    nextRecord (rec.encode ++ tail) = (some rec, tail) := by
  have hsplit : rec.encode ++ tail
      = CanonRecordHeader.codec.encode rec.header ++ (rec.sbe ++ tail) := by
    rw [CanonRecord.encode, List.append_assoc]
  have hhdr : fread 11 (rec.encode ++ tail)
      = (some (CanonRecordHeader.codec.encode rec.header), rec.sbe ++ tail) := by
    unfold fread
    rw [hsplit, if_pos (by rw [List.length_append, rec.length_header]; omega),
      List.take_left' rec.length_header, List.drop_left' rec.length_header]
  have hsbe : fread rec.header.sbeLen.toNat (rec.sbe ++ tail) = (some rec.sbe, tail) := by
    unfold fread
    rw [CanonRecord.sbeLen_header hfits, if_pos (by simp), List.take_left, List.drop_left]
  unfold nextRecord
  simp only [hhdr, CanonRecordHeader.codec.decode_encode, hsbe]
  rfl

/-- Bytes that are no whole record. -/
def Torn (bytes : List UInt8) : Prop := nextRecord bytes = (none, [])

theorem torn_nil : Torn [] := rfl

/-- A record cut off anywhere, in its header or in its payload, is torn. -/
theorem torn_take_encode {rec : CanonRecord} (hfits : rec.Fits) {n : Nat}
    (hn : n < rec.encode.length) : Torn (rec.encode.take n) := by
  have hlen : (rec.encode.take n).length = n := by
    rw [List.length_take]; omega
  rw [rec.length_encode] at hn
  unfold Torn nextRecord
  by_cases hheader : 11 ≤ n
  · -- the header is whole, so it announces more than is there
    have htake : rec.encode.take n
        = CanonRecordHeader.codec.encode rec.header ++ rec.sbe.take (n - 11) := by
      rw [CanonRecord.encode, List.take_append, rec.length_header,
        List.take_of_length_le (by rw [rec.length_header]; exact hheader)]
    have hhdr : fread 11 (rec.encode.take n)
        = (some (CanonRecordHeader.codec.encode rec.header), rec.sbe.take (n - 11)) := by
      unfold fread
      rw [if_pos (by omega), htake, List.take_left' rec.length_header,
        List.drop_left' rec.length_header]
    have hshort : fread rec.header.sbeLen.toNat (rec.sbe.take (n - 11)) = (none, []) := by
      unfold fread
      rw [CanonRecord.sbeLen_header hfits, if_neg (by rw [List.length_take]; omega)]
    simp only [hhdr, CanonRecordHeader.codec.decode_encode, hshort]
  · have hhdr : fread 11 (rec.encode.take n) = (none, []) := by
      unfold fread
      rw [if_neg (by omega)]
    simp only [hhdr]

/-- Where a cut through the records falls: behind some whole ones, in the middle of the next. -/
theorem exists_take_recordBytes {recs : List CanonRecord} (hfits : ∀ rec ∈ recs, rec.Fits) (n : Nat)
    (hn : n ≤ (recordBytes recs).length) :
    ∃ j ≤ recs.length, ∃ tail, (recordBytes recs).take n = recordBytes (recs.take j) ++ tail ∧
      Torn tail ∧ (recordBytes (recs.take j)).length ≤ n ∧
      (j < recs.length → n < (recordBytes (recs.take (j + 1))).length) := by
  induction recs generalizing n with
  | nil =>
    have hzero : n = 0 := by simpa using hn
    subst hzero
    exact ⟨0, Nat.le_refl 0, [], rfl, torn_nil, Nat.le_refl 0, fun h => absurd h (Nat.lt_irrefl 0)⟩
  | cons rec recs ih =>
    rw [recordBytes_cons, List.length_append] at hn
    rw [recordBytes_cons, List.take_append]
    by_cases hcut : n < rec.encode.length
    · refine ⟨0, Nat.zero_le _, rec.encode.take n, ?_, ?_, ?_, fun _ => ?_⟩
      · rw [show n - rec.encode.length = 0 by omega]
        simp
      · exact torn_take_encode (hfits rec List.mem_cons_self) hcut
      · exact Nat.zero_le n
      · simpa using hcut
    · obtain ⟨j, hj, tail, htake, htorn, hle, hlt⟩ :=
        ih (fun r hr => hfits r (List.mem_cons_of_mem rec hr)) (n - rec.encode.length) (by omega)
      refine ⟨j + 1, Nat.succ_le_succ hj, tail, ?_, htorn, ?_, fun h => ?_⟩
      · rw [htake, List.take_of_length_le (by omega), List.take_succ_cons, recordBytes_cons,
          List.append_assoc]
      · rw [List.take_succ_cons, recordBytes_cons, List.length_append]
        omega
      · have hnext := hlt (Nat.lt_of_succ_lt_succ h)
        rw [List.take_succ_cons, recordBytes_cons, List.length_append]
        omega

/-! ## All calls -/

theorem reads_of_torn {r : CanonReader} {bytes : List UInt8} (hrest : r.rest = some bytes)
    (htorn : Torn bytes) : r.Reads [] := by
  have hnext : ∀ {r : CanonReader} {bytes}, r.rest = some bytes → Torn bytes →
      r.next.1 = none ∧ ∃ bytes', r.next.2.rest = some bytes' ∧ Torn bytes' := by
    intro r bytes hrest htorn
    unfold next
    rw [hrest]
    cases r.openOk with
    | false => exact ⟨rfl, bytes, hrest, htorn⟩
    | true =>
      have hnone : nextRecord bytes = (none, []) := htorn
      simp only [hnone]
      exact ⟨trivial, [], rfl, torn_nil⟩
  intro k
  induction k generalizing r bytes with
  | zero => exact (hnext hrest htorn).1
  | succ k ih =>
    obtain ⟨-, bytes', hrest', htorn'⟩ := hnext hrest htorn
    exact ih hrest' htorn'

theorem Reads.cons {r r' : CanonReader} {rec : CanonRecord} {recs : List CanonRecord}
    (hnext : r.next = (some rec, r')) (hreads : r'.Reads recs) : r.Reads (rec :: recs) := by
  intro k
  cases k with
  | zero =>
    show r.next.1 = some rec
    rw [hnext]
  | succ k =>
    show r.next.2.nextAt k = recs[k]?
    rw [hnext]
    exact hreads k

theorem reads_recordBytes {recs : List CanonRecord} (hfits : ∀ rec ∈ recs, rec.Fits)
    {tail : List UInt8} (htorn : Torn tail) (r : CanonReader) (hopen : r.openOk = true)
    (hrest : r.rest = some (recordBytes recs ++ tail)) : r.Reads recs := by
  induction recs generalizing r with
  | nil => exact reads_of_torn hrest htorn
  | cons rec recs ih =>
    have hnext : r.next = (some rec, { r with rest := some (recordBytes recs ++ tail) }) := by
      unfold next
      rw [hrest, hopen, recordBytes_cons, List.append_assoc]
      simp only [nextRecord_encode (hfits rec List.mem_cons_self)]
    exact .cons hnext (ih (fun r hr => hfits r (List.mem_cons_of_mem rec hr)) _ hopen rfl)

/-! ## A whole file, and a file cut off -/

variable {hdr : CanonFileHeader} {recs : List CanonRecord}

/-- A file that begins with a valid header opens, and its records are the rest. -/
theorem ofFile_header (hvalid : validHeader hdr = true) (rest : List UInt8) :
    ofFile (some (CanonFileHeader.codec.encode hdr ++ rest))
      = { rest := some rest, openOk := true, header := hdr } := by
  have hlen : (CanonFileHeader.codec.encode hdr).length = kFileHeaderBytes :=
    CanonFileHeader.codec.length_encode hdr
  have hread : fread kFileHeaderBytes (CanonFileHeader.codec.encode hdr ++ rest)
      = (some (CanonFileHeader.codec.encode hdr), rest) := by
    unfold fread
    rw [if_pos (by rw [List.length_append]; omega), List.take_left' hlen, List.drop_left' hlen]
  unfold ofFile
  simp only [hread, CanonFileHeader.codec.decode_encode, hvalid]

theorem reads_image (hvalid : validHeader hdr = true) (hfits : ∀ rec ∈ recs, rec.Fits) :
    (ofFile (some (image hdr recs))).ok = true ∧ (ofFile (some (image hdr recs))).header = hdr ∧
      (ofFile (some (image hdr recs))).Reads recs := by
  unfold image
  rw [ofFile_header hvalid]
  refine ⟨rfl, rfl, ?_⟩
  exact reads_recordBytes hfits torn_nil _ rfl (by rw [List.append_nil])

/-- A cut behind the header leaves the records that end before it. -/
theorem reads_take_image (hvalid : validHeader hdr = true) (hfits : ∀ rec ∈ recs, rec.Fits) {n : Nat}
    (hheader : kFileHeaderBytes ≤ n) (hn : n ≤ (image hdr recs).length) :
    ∃ j ≤ recs.length, (ofFile (some ((image hdr recs).take n))).Reads (recs.take j) ∧
      (image hdr (recs.take j)).length ≤ n ∧
      (j < recs.length → n < (image hdr (recs.take (j + 1))).length) := by
  have hlen : (CanonFileHeader.codec.encode hdr).length = kFileHeaderBytes :=
    CanonFileHeader.codec.length_encode hdr
  rw [length_image] at hn
  obtain ⟨j, hj, tail, htake, htorn, hle, hlt⟩ :=
    exists_take_recordBytes hfits (n - kFileHeaderBytes) (by omega)
  refine ⟨j, hj, ?_, ?_, fun h => ?_⟩
  · unfold image
    rw [List.take_append, List.take_of_length_le (by omega), hlen, htake, ofFile_header hvalid]
    exact reads_recordBytes (fun r hr => hfits r (List.mem_of_mem_take hr)) htorn _ rfl rfl
  · rw [length_image]
    omega
  · have hnext := hlt h
    rw [length_image]
    omega

end CanonReader

/-! ## Written and read back -/

open CanonReader CanonWriter

theorem validHeader_header (cfg : Config) : validHeader cfg.header = true := rfl

/-- What is written between opening and closing, byte for byte, and what `next` makes of it. -/
theorem canon_round_trip (cfg : Config) (calls : List Call)
    (hfits : ∀ rec ∈ Call.events calls, rec.Fits) :
    ∃ file, produced cfg calls = some file ∧
      file = CanonFileHeader.codec.encode cfg.header
        ++ (Call.events calls).flatMap
            (fun rec => CanonRecordHeader.codec.encode rec.header ++ rec.sbe) ∧
      (ofFile (some file)).ok = true ∧ (ofFile (some file)).header = cfg.header ∧
      (ofFile (some file)).Reads (Call.events calls) ∧
      ∀ n, kFileHeaderBytes ≤ n → n ≤ file.length →
        ∃ j ≤ (Call.events calls).length,
          (ofFile (some (file.take n))).Reads ((Call.events calls).take j) ∧
          (image cfg.header ((Call.events calls).take j)).length ≤ n ∧
          (j < (Call.events calls).length →
            n < (image cfg.header ((Call.events calls).take (j + 1))).length) := by
  have hread := reads_image (validHeader_header cfg) hfits
  refine ⟨_, produced_eq_image cfg calls hfits, rfl, hread.1, hread.2.1,
    hread.2.2, ?_⟩
  intro n hheader hn
  exact reads_take_image (validHeader_header cfg) hfits hheader hn

/-- Two small records and a flush between them, through a buffer of a single byte. -/
theorem canon_round_trip_two :
    (∀ rec ∈ Call.events [.writeEvent ⟨5, .BBO, [1, 2]⟩, .flush, .writeEvent ⟨6, .TRADE, []⟩],
      rec.Fits) ∧
    ∃ file, produced { bufferBytes := 1 }
        [.writeEvent ⟨5, .BBO, [1, 2]⟩, .flush, .writeEvent ⟨6, .TRADE, []⟩] = some file ∧
      (ofFile (some file)).Reads [⟨5, .BBO, [1, 2]⟩, ⟨6, .TRADE, []⟩] := by
  have hfits : ∀ rec ∈ Call.events [.writeEvent ⟨5, .BBO, [1, 2]⟩, .flush,
      .writeEvent ⟨6, .TRADE, []⟩], rec.Fits := by decide
  obtain ⟨file, hfile, -, -, -, hreads, -⟩ := canon_round_trip { bufferBytes := 1 } _ hfits
  exact ⟨hfits, file, hfile, hreads⟩

end BptCore.Canon
