import BptCore.Lib.AppendFiles
import BptCore.Lib.Calendar
import BptCore.Lib.DecimalText
import BptCore.Recorder.WslogFormat

/-!
# The tape

`Tape` gathers records in a buffer and hands the buffer to its file when the next record would not
fit, when it has not been flushed for a while, or when it is told to. A record larger than the whole
buffer goes to the file directly. A file that has been open for long enough is closed at the next
record, and a file named by the second of that record is opened. No call fails here.

* **`buildPath`** — the file of a record; **`buildPath_ne`**: those of records a second apart differ.
* **`writeRecord`**, **`flush`**, **`destroy`** — the calls of the producer.
-/

namespace BptCore.Recorder

open AppendFiles (Disk)
open DecimalText (digits)

structure Config where
  rootDir : String
  venueTag : String
  rotateIntervalSeconds : UInt32 := 3600
  bufferBytes : UInt32 := 1048576
  flushIntervalNs : UInt64 := 1000000000

/-! ## The names of the files -/

/-- `{root}/{venue}/YYYY-MM-DD/{venue}-HHMMSS.wslog`. -/
def buildPath (rootDir venueTag : String) (recvTsNs : UInt64) : String :=
  let tm := Calendar.Civil.ofSeconds (recvTsNs.toNat / 1000000000)
  let time := digits 1 tm.hour ++ (digits 1 tm.minute ++ (digits 1 tm.second ++ ".wslog".toList))
  let date := digits 3 tm.year ++ '-' :: (digits 1 tm.month ++ '-' :: (digits 1 tm.day ++ '/' ::
    (venueTag.toList ++ '-' :: time)))
  String.ofList (rootDir.toList ++ '/' :: (venueTag.toList ++ '/' :: date))

theorem length_twoDigits {n : Nat} (h : n < 100) : (digits 1 n).length = 2 := by
  revert n
  decide

/-- A path tells the second it is of. -/
theorem second_of_buildPath {rootDir venueTag : String} {a b : UInt64}
    (h : buildPath rootDir venueTag a = buildPath rootDir venueTag b) :
    a.toNat / 1000000000 = b.toNat / 1000000000 := by
  have hlen : ∀ m n, m < 100 → n < 100 → (digits 1 m).length = (digits 1 n).length :=
    fun m n hm hn => (length_twoDigits hm).trans (length_twoDigits hn).symm
  have hafterRoot := List.append_cancel_left (String.ofList_injective h)
  have hdate := List.append_cancel_left (List.tail_eq_of_cons_eq hafterRoot)
  -- the date, up to its separators
  obtain ⟨hyear, hafterYear⟩ :=
    DecimalText.digits_append_inj (by decide) (List.tail_eq_of_cons_eq hdate)
  obtain ⟨hmonth, hafterMonth⟩ := DecimalText.digits_append_inj (by decide) hafterYear
  obtain ⟨hday, hafterDay⟩ := DecimalText.digits_append_inj (by decide) hafterMonth
  have htime := List.tail_eq_of_cons_eq (List.append_cancel_left hafterDay)
  -- the time, two digits at a time
  set ca := Calendar.Civil.ofSeconds (a.toNat / 1000000000) with hca
  set cb := Calendar.Civil.ofSeconds (b.toNat / 1000000000) with hcb
  have hhours : ca.hour < 100 ∧ cb.hour < 100 :=
    ⟨(Calendar.Civil.hour_ofSeconds_lt _).trans (by decide),
      (Calendar.Civil.hour_ofSeconds_lt _).trans (by decide)⟩
  have hminutes : ca.minute < 100 ∧ cb.minute < 100 :=
    ⟨(Calendar.Civil.minute_ofSeconds_lt _).trans (by decide),
      (Calendar.Civil.minute_ofSeconds_lt _).trans (by decide)⟩
  have hseconds : ca.second < 100 ∧ cb.second < 100 :=
    ⟨(Calendar.Civil.second_ofSeconds_lt _).trans (by decide),
      (Calendar.Civil.second_ofSeconds_lt _).trans (by decide)⟩
  obtain ⟨hhour, hafterHour⟩ := List.append_inj htime (hlen _ _ hhours.1 hhours.2)
  obtain ⟨hminute, hafterMinute⟩ := List.append_inj hafterHour (hlen _ _ hminutes.1 hminutes.2)
  obtain ⟨hsecond, -⟩ := List.append_inj hafterMinute (hlen _ _ hseconds.1 hseconds.2)
  have hcivil : ca = cb :=
    Calendar.Civil.ext hyear hmonth hday (DecimalText.digits_injective hhour)
      (DecimalText.digits_injective hminute) (DecimalText.digits_injective hsecond)
  exact Calendar.Civil.ofSeconds_injective hcivil

theorem buildPath_ne {a b : UInt64} (h : a.toNat + 1000000000 ≤ b.toNat)
    (rootDir venueTag : String) : buildPath rootDir venueTag a ≠ buildPath rootDir venueTag b := by
  intro hpath
  have hsecond := second_of_buildPath hpath
  omega

/-! ## The tape -/

/-- `Tape` with its configuration and the files it has written. The buffer is the part of it that is
filled, and what stdio holds back counts as written. -/
structure Tape where
  rootDir : String
  venueTag : String
  rotateIntervalSeconds : UInt32
  bufferBytes : UInt32
  flushIntervalNs : UInt64
  rotateIntervalSeconds_ne : rotateIntervalSeconds ≠ 0
  /-- The path of the open file. -/
  fp : Option String := none
  currentFileStartNs : UInt64 := 0
  lastFlushNs : UInt64 := 0
  buffer : List UInt8 := []
  framesWritten : Nat := 0
  bytesWritten : Nat := 0
  disk : Disk String UInt8 := []

namespace Tape

def ofConfig (cfg : Config) : Tape where
  rootDir := cfg.rootDir
  venueTag := cfg.venueTag
  rotateIntervalSeconds := if cfg.rotateIntervalSeconds = 0 then 3600 else cfg.rotateIntervalSeconds
  bufferBytes := if cfg.bufferBytes = 0 then 1048576 else cfg.bufferBytes
  flushIntervalNs := cfg.flushIntervalNs
  rotateIntervalSeconds_ne := by
    split
    · decide
    · assumption

variable (t : Tape)

def fwrite (path : String) (data : List UInt8) : Tape :=
  { t with disk := AppendFiles.append path data t.disk }

/-- The filled part of the buffer goes to the file. -/
def writeBuffer (path : String) : Tape :=
  if t.buffer.length > 0 then { t.fwrite path t.buffer with buffer := [] } else t

def closeCurrent : Tape :=
  match t.fp with
  | none => t
  | some path => { t.writeBuffer path with fp := none }

def rotateNs : UInt64 := t.rotateIntervalSeconds.toUInt64 * 1000000000

/-- `fopen` for appending, of the path of a time. -/
def openFile (recvTsNs : UInt64) : Tape :=
  let path := buildPath t.rootDir t.venueTag recvTsNs
  { t.fwrite path [] with fp := some path, currentFileStartNs := recvTsNs }

def ensureFileOpen (recvTsNs : UInt64) : Tape :=
  if t.fp = none ∨ recvTsNs - t.currentFileStartNs ≥ t.rotateNs then
    t.closeCurrent.openFile recvTsNs
  else t

def counted (total : Nat) : Tape :=
  { t with framesWritten := t.framesWritten + 1, bytesWritten := t.bytesWritten + total }

/-- A record past the buffer, a call for each of its parts. -/
def writeDirect (path : String) (rec : WslogRecord) : Tape :=
  let t := t.fwrite path (FixedCodec.uint64.encode rec.tsNs)
  let t := t.fwrite path (FixedCodec.uint8.encode rec.type.value)
  let t := t.fwrite path (FixedCodec.uint32.encode rec.length)
  let t := if rec.length > 0 then t.fwrite path rec.written else t
  t.counted (kHeaderBytes + rec.length.toNat)

def autoFlush (path : String) (recvTsNs : UInt64) : Tape :=
  if t.flushIntervalNs > 0 ∧ recvTsNs - t.lastFlushNs ≥ t.flushIntervalNs then
    { t.writeBuffer path with lastFlushNs := recvTsNs }
  else t

def writeBuffered (path : String) (rec : WslogRecord) : Tape :=
  let t := { t with buffer := t.buffer ++ rec.encode }.counted (kHeaderBytes + rec.length.toNat)
  t.autoFlush path rec.tsNs

/-- The part of `write_record` after its file is open. -/
def writeOpen (path : String) (rec : WslogRecord) : Tape :=
  let total := kHeaderBytes + rec.length.toNat
  if t.buffer.length + total > t.bufferBytes.toNat then
    let t := t.writeBuffer path
    if total > t.bufferBytes.toNat then t.writeDirect path rec else t.writeBuffered path rec
  else t.writeBuffered path rec

/-- `write_record`, of the arguments as a record. -/
def writeRecord (rec : WslogRecord) : Tape :=
  let t := t.ensureFileOpen rec.tsNs
  match t.fp with
  | none => t
  | some path => t.writeOpen path rec

def writeFrame (recvTsNs : UInt64) (payload : List UInt8) : Tape :=
  t.writeRecord ⟨recvTsNs, .WS_FRAME, payload⟩

def writeMarker (recvTsNs : UInt64) (type : RecordType) (payload : List UInt8) : Tape :=
  t.writeRecord ⟨recvTsNs, type, payload⟩

/-- `flush`, at a time of the wall clock. -/
def flush (nowNs : UInt64) : Tape :=
  match t.fp with
  | none => t
  | some path => { t.writeBuffer path with lastFlushNs := nowNs }

/-- The record that the destructor writes. -/
def stopRecord (nowNs : UInt64) : WslogRecord where
  tsNs := nowNs
  type := .SESSION_STOP
  payload := "\x7b\"reason\":\"destructor\"\x7d".toList.map fun c => UInt8.ofNat c.toNat

/-- The destructor, at a time of the wall clock. -/
def destroy (nowNs : UInt64) : Tape :=
  match t.fp with
  | none => t
  | some _ => (t.writeRecord (stopRecord nowNs)).closeCurrent

/-! ## Calls -/

/-- What a producer does with a tape. -/
inductive Call where
  | writeFrame (recvTsNs : UInt64) (payload : List UInt8)
  | writeMarker (recvTsNs : UInt64) (type : RecordType) (payload : List UInt8)
  | flush (nowNs : UInt64)
  deriving DecidableEq, Repr

def call (t : Tape) : Call → Tape
  | .writeFrame recvTsNs payload => t.writeFrame recvTsNs payload
  | .writeMarker recvTsNs type payload => t.writeMarker recvTsNs type payload
  | .flush nowNs => t.flush nowNs

/-- The record that a call writes. -/
def Call.record? : Call → Option WslogRecord
  | .writeFrame recvTsNs payload => some ⟨recvTsNs, .WS_FRAME, payload⟩
  | .writeMarker recvTsNs type payload => some ⟨recvTsNs, type, payload⟩
  | .flush _ => none

def Call.records (calls : List Call) : List WslogRecord := calls.filterMap Call.record?

end Tape

end BptCore.Recorder
