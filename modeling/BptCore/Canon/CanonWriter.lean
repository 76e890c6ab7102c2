import BptCore.Canon.CanonFormat
import Mathlib.Tactic.Common

/-!
# The canon writer

`CanonWriter` gathers records in a buffer and hands the buffer to the file when the next record
would not fit, or when it is told to. A record larger than the whole buffer goes to the file
directly.

* **`OutFile.fwrite`** — a device with room for so many more bytes, or one that never fills.
* **`CanonWriter.writeEvent`**, **`flush`**, **`close`** — the calls of the producer.
* **`Written`** — what file and buffer hold together after any such calls.
* **`produced_eq_image`** — the file that is left at the end.
-/

namespace BptCore.Canon

open FixedCodec (ByteArr)

/-! ## The file -/

/-- A file opened for writing. `room` is how much its device still takes, `none` without a bound. -/
structure OutFile where
  bytes : List UInt8 := []
  room : Option Nat := none

namespace OutFile

/-- How many bytes went out, and the file after it. -/
def fwrite (f : OutFile) (data : List UInt8) : Nat × OutFile :=
  let n := match f.room with
    | none => data.length
    | some room => min data.length room
  (n, { bytes := f.bytes ++ data.take n, room := f.room.map (· - n) })

theorem fwrite_unbounded {f : OutFile} (hroom : f.room = none) (data : List UInt8) :
    f.fwrite data = (data.length, { bytes := f.bytes ++ data }) := by
  unfold fwrite
  rw [hroom]
  simp only [List.take_length, Option.map_none]

end OutFile

/-! ## The writer -/

/-- The bytes of `s` that a field of `n` takes, null-padded. -/
def nullPadded (n : Nat) (s : List UInt8) : ByteArr n :=
  ⟨s.take n ++ List.replicate (n - s.length) 0, by
    rw [List.length_append, List.length_take, List.length_replicate]; omega⟩

/-- `CanonWriter` with its configuration. The buffer is the part of it that is filled. -/
structure CanonWriter where
  producerKind : List UInt8
  producerSha : List UInt8
  venueId : UInt8
  dateUtc : UInt32
  bufferBytes : Nat
  fp : Option OutFile
  buffer : List UInt8
  eventsWritten : Nat
  bytesWritten : Nat

namespace CanonWriter

structure Config where
  producerKind : List UInt8 := []
  producerSha : List UInt8 := []
  venueId : UInt8 := 0
  dateUtc : UInt32 := 0
  bufferBytes : Nat := 2 ^ 20

def ofConfig (cfg : Config) : CanonWriter where
  producerKind := cfg.producerKind
  producerSha := cfg.producerSha
  venueId := cfg.venueId
  dateUtc := cfg.dateUtc
  bufferBytes := if cfg.bufferBytes = 0 then 2 ^ 20 else cfg.bufferBytes
  fp := none
  buffer := []
  eventsWritten := 0
  bytesWritten := 0

variable (w : CanonWriter)

def fileHeader : CanonFileHeader where
  magic := kMagic
  schemaVersion := kSchemaVersion
  sbeTemplateId := kSbeTemplateFamily
  venueId := w.venueId
  flags := 0
  dateUtc := w.dateUtc
  producerKind := nullPadded 16 w.producerKind
  producerSha := nullPadded 40 w.producerSha
  reserved := ⟨List.replicate 26 0, List.length_replicate⟩

def writeFileHeader (f : OutFile) : Bool × CanonWriter :=
  let (n, f) := f.fwrite (CanonFileHeader.codec.encode w.fileHeader)
  if n ≠ kFileHeaderBytes then (false, { w with fp := none })
  else (true, { w with fp := some f, bytesWritten := w.bytesWritten + kFileHeaderBytes })

/-- `open`. Here `file` is what `fopen` gives: a new file, or nothing when it fails. -/
def openFile (file : Option OutFile) : Bool × CanonWriter :=
  match w.fp, file with
  | some _, _ => (true, w)
  | none, none => (false, w)
  | none, some f => w.writeFileHeader f

/-- On a failed `fwrite` the buffer stays as it is. -/
def flushBufferToFp (f : OutFile) : Bool × CanonWriter :=
  if w.buffer.length = 0 then (true, w)
  else
    let (n, f) := f.fwrite w.buffer
    if n ≠ w.buffer.length then (false, { w with fp := some f })
    else (true, { w with fp := some f, buffer := [] })

def counted (total : Nat) : CanonWriter :=
  { w with eventsWritten := w.eventsWritten + 1, bytesWritten := w.bytesWritten + total }

/-- A record past the buffer, header and payload by a call each. -/
def writeDirect (rec : CanonRecord) (f : OutFile) : Bool × CanonWriter :=
  let (n, f) := f.fwrite (CanonRecordHeader.codec.encode rec.header)
  if n ≠ 11 then (false, { w with fp := some f })
  else
    let (n, f) := if rec.sbe.length > 0 then f.fwrite rec.sbe else (0, f)
    if n ≠ rec.sbe.length then (false, { w with fp := some f })
    else (true, { w with fp := some f }.counted rec.encode.length)

def writeBuffered (rec : CanonRecord) : CanonWriter :=
  { w with buffer := w.buffer ++ rec.encode }.counted rec.encode.length

def writeEvent (rec : CanonRecord) : Bool × CanonWriter :=
  match w.fp with
  | none => (false, w)
  | some f =>
    if rec.sbe.length > 65535 then (false, w)
    else if w.buffer.length + rec.encode.length ≤ w.bufferBytes then (true, w.writeBuffered rec)
    else
      match w.flushBufferToFp f with
      | (false, w) => (false, w)
      | (true, w) =>
        if rec.encode.length ≤ w.bufferBytes then (true, w.writeBuffered rec)
        else w.writeDirect rec (w.fp.getD f)

def flush : CanonWriter :=
  match w.fp with
  | none => w
  | some f => (w.flushBufferToFp f).2

/-- The file that is left behind, and the writer without one. -/
def close : Option OutFile × CanonWriter :=
  match w.fp with
  | none => (none, w)
  | some f =>
    let w := (w.flushBufferToFp f).2
    (w.fp, { w with fp := none })

/-- What a producer does between opening and closing. -/
inductive Call where
  | writeEvent (rec : CanonRecord)
  | flush
  deriving DecidableEq, Repr

def call (w : CanonWriter) : Call → CanonWriter
  | .writeEvent rec => (w.writeEvent rec).2
  | .flush => w.flush

/-- The events among the calls. -/
def Call.events : List Call → List CanonRecord
  | [] => []
  | .writeEvent rec :: calls => rec :: events calls
  | .flush :: calls => events calls

/-- The bytes of the file after a producer wrote to a device without a bound and closed it. -/
def produced (cfg : Config) (calls : List Call) : Option (List UInt8) :=
  let w := ((ofConfig cfg).openFile (some {})).2
  (calls.foldl call w).close.1.map (·.bytes)

/-! ## What file and buffer hold -/

/-- File and buffer together are the image of `recs`, and the counters say so. -/
structure Written (hdr : CanonFileHeader) (w : CanonWriter) (recs : List CanonRecord) : Prop where
  file : ∃ f, w.fp = some f ∧ f.room = none ∧ f.bytes ++ w.buffer = image hdr recs
  buffer_le : w.buffer.length ≤ w.bufferBytes
  eventsWritten : w.eventsWritten = recs.length
  bytesWritten : w.bytesWritten = (image hdr recs).length

section

variable {hdr : CanonFileHeader} {w : CanonWriter} {recs : List CanonRecord} {rec : CanonRecord}

theorem image_snoc (hdr : CanonFileHeader) (recs : List CanonRecord) (rec : CanonRecord) :
    image hdr (recs ++ [rec]) = image hdr recs ++ rec.encode := by
  simp [image]

theorem flushBufferToFp_unbounded {f : OutFile} (hfp : w.fp = some f) (hroom : f.room = none) :
    w.flushBufferToFp f
      = (true, { w with fp := some { bytes := f.bytes ++ w.buffer }, buffer := [] }) := by
  unfold flushBufferToFp
  cases hbuffer : w.buffer with
  | nil =>
    have hf : f = { bytes := f.bytes } := by rw [← hroom]
    rw [List.append_nil, ← hf, ← hfp, ← hbuffer, if_pos (by rw [hbuffer]; rfl)]
  | cons b bs =>
    rw [if_neg (by simp), OutFile.fwrite_unbounded hroom]
    exact if_neg (by simp)

/-- After a flush the file alone is the image. -/
theorem Written.flushBufferToFp (h : Written hdr w recs) {f : OutFile} (hfp : w.fp = some f) :
    ∃ w', w.flushBufferToFp f = (true, w') ∧ Written hdr w' recs ∧ w'.buffer = [] ∧
      w'.bufferBytes = w.bufferBytes := by
  obtain ⟨f', hfp', hroom, hbytes⟩ := h.file
  obtain rfl : f' = f := by rw [hfp] at hfp'; exact (Option.some.inj hfp').symm
  refine ⟨_, flushBufferToFp_unbounded hfp hroom, ?_, rfl, rfl⟩
  exact
    { file := ⟨_, rfl, rfl, by rw [← hbytes]; simp⟩
      buffer_le := Nat.zero_le _
      eventsWritten := h.eventsWritten
      bytesWritten := h.bytesWritten }

theorem Written.writeBuffered (h : Written hdr w recs)
    (hroom : w.buffer.length + rec.encode.length ≤ w.bufferBytes) :
    Written hdr (w.writeBuffered rec) (recs ++ [rec]) := by
  obtain ⟨f, hfp, hnone, hbytes⟩ := h.file
  exact
    { file := ⟨f, hfp, hnone, by
        show f.bytes ++ (w.buffer ++ rec.encode) = _
        rw [image_snoc, ← hbytes, List.append_assoc]⟩
      buffer_le := by
        show (w.buffer ++ rec.encode).length ≤ w.bufferBytes
        rw [List.length_append]
        exact hroom
      eventsWritten := by
        show w.eventsWritten + 1 = _
        rw [h.eventsWritten, List.length_append, List.length_singleton]
      bytesWritten := by
        show w.bytesWritten + rec.encode.length = _
        rw [h.bytesWritten, image_snoc, List.length_append] }

/-- A record that goes past the buffer goes past an empty one. -/
theorem Written.writeDirect (h : Written hdr w recs) (hbuffer : w.buffer = []) {f : OutFile}
    (hfp : w.fp = some f) :
    ∃ w', w.writeDirect rec f = (true, w') ∧ Written hdr w' (recs ++ [rec]) := by
  obtain ⟨f', hfp', hroom, hbytes⟩ := h.file
  obtain rfl : f' = f := by rw [hfp] at hfp'; exact (Option.some.inj hfp').symm
  rw [hbuffer, List.append_nil] at hbytes
  have hpayload : (if rec.sbe.length > 0
        then OutFile.fwrite { bytes := f'.bytes ++ CanonRecordHeader.codec.encode rec.header } rec.sbe
        else (0, { bytes := f'.bytes ++ CanonRecordHeader.codec.encode rec.header }))
      = (rec.sbe.length, { bytes := f'.bytes ++ rec.encode }) := by
    cases hsbe : rec.sbe with
    | nil => simp [CanonRecord.encode, hsbe]
    | cons b bs =>
      rw [if_pos (by simp), OutFile.fwrite_unbounded rfl]
      simp [CanonRecord.encode, hsbe]
  refine ⟨{ w with fp := some { bytes := f'.bytes ++ rec.encode } }.counted rec.encode.length, ?_, ?_⟩
  · unfold CanonWriter.writeDirect
    rw [OutFile.fwrite_unbounded hroom]
    simp only [rec.length_header, hpayload, ne_eq, not_true, if_false]
  · exact
      { file := ⟨_, rfl, rfl, by
          show (f'.bytes ++ rec.encode) ++ w.buffer = _
          rw [hbuffer, List.append_nil, image_snoc, hbytes]⟩
        buffer_le := h.buffer_le
        eventsWritten := by
          show w.eventsWritten + 1 = _
          rw [h.eventsWritten, List.length_append, List.length_singleton]
        bytesWritten := by
          show w.bytesWritten + rec.encode.length = _
          rw [h.bytesWritten, image_snoc, List.length_append] }

/-- The call succeeds, whether it buffers, flushes first or goes past the buffer. -/
theorem Written.writeEvent (h : Written hdr w recs) (hfits : rec.Fits) :
    ∃ w', w.writeEvent rec = (true, w') ∧ Written hdr w' (recs ++ [rec]) := by
  obtain ⟨f, hfp, -⟩ := h.file
  have hlen : ¬ rec.sbe.length > 65535 := Nat.not_lt.mpr hfits
  unfold CanonWriter.writeEvent
  rw [hfp]
  simp only [if_neg hlen]
  by_cases hroom : w.buffer.length + rec.encode.length ≤ w.bufferBytes
  · rw [if_pos hroom]
    exact ⟨_, rfl, h.writeBuffered hroom⟩
  · rw [if_neg hroom]
    obtain ⟨w', hflush, hwritten, hempty, hbytes⟩ := h.flushBufferToFp hfp
    rw [hflush]
    by_cases hsmall : rec.encode.length ≤ w'.bufferBytes
    · simp only [if_pos hsmall]
      exact ⟨_, rfl, hwritten.writeBuffered (by rw [hempty]; simpa using hsmall)⟩
    · obtain ⟨f', hfp', -⟩ := hwritten.file
      simp only [if_neg hsmall, hfp', Option.getD_some]
      exact hwritten.writeDirect hempty hfp'

theorem Written.flush (h : Written hdr w recs) : Written hdr w.flush recs := by
  obtain ⟨f, hfp, -⟩ := h.file
  obtain ⟨w', hflush, hwritten, -⟩ := h.flushBufferToFp hfp
  unfold CanonWriter.flush
  rw [hfp]
  simpa only [hflush] using hwritten

theorem Written.close (h : Written hdr w recs) :
    w.close.1.map (·.bytes) = some (image hdr recs) := by
  obtain ⟨f, hfp, -⟩ := h.file
  obtain ⟨w', hflush, hwritten, hempty, -⟩ := h.flushBufferToFp hfp
  obtain ⟨f', hfp', -, hbytes⟩ := hwritten.file
  unfold CanonWriter.close
  rw [hfp]
  simp only [hflush, hfp', Option.map_some]
  rw [← hbytes, hempty, List.append_nil]

theorem Written.run (calls : List Call) (h : Written hdr w recs)
    (hfits : ∀ rec ∈ Call.events calls, rec.Fits) :
    Written hdr (calls.foldl call w) (recs ++ Call.events calls) := by
  induction calls generalizing w recs with
  | nil =>
    show Written hdr w (recs ++ [])
    rwa [List.append_nil]
  | cons c calls ih =>
    cases c with
    | writeEvent rec =>
      obtain ⟨w', hwrite, hwritten⟩ := h.writeEvent (hfits rec List.mem_cons_self)
      have hrun := ih hwritten fun r hr => hfits r (List.mem_cons_of_mem rec hr)
      show Written hdr (calls.foldl call (w.writeEvent rec).2) (recs ++ (rec :: Call.events calls))
      rw [hwrite]
      simpa using hrun
    | flush => exact ih h.flush hfits

end

/-- The header a configuration asks for. -/
def Config.header (cfg : Config) : CanonFileHeader := (ofConfig cfg).fileHeader

theorem written_openFile (cfg : Config) :
    ((ofConfig cfg).openFile (some {})).1 = true ∧
      Written cfg.header ((ofConfig cfg).openFile (some {})).2 [] := by
  have hopen : (ofConfig cfg).openFile (some {})
      = (true, { ofConfig cfg with
          fp := some { bytes := CanonFileHeader.codec.encode cfg.header }
          bytesWritten := kFileHeaderBytes }) := by
    show (ofConfig cfg).writeFileHeader {} = _
    unfold writeFileHeader
    rw [OutFile.fwrite_unbounded rfl, CanonFileHeader.codec.length_encode,
      CanonFileHeader.width_codec]
    simp [Config.header, ofConfig]
  rw [hopen]
  refine ⟨rfl, ?_⟩
  exact
    { file := ⟨_, rfl, rfl, rfl⟩
      buffer_le := Nat.zero_le _
      eventsWritten := rfl
      bytesWritten := (length_image cfg.header []).symm }

theorem produced_eq_image (cfg : Config) (calls : List Call)
    (hfits : ∀ rec ∈ Call.events calls, rec.Fits) :
    produced cfg calls = some (image cfg.header (Call.events calls)) :=
  ((written_openFile cfg).2.run calls hfits).close

end CanonWriter

end BptCore.Canon
