import BptCore.Recorder.Tape
import Mathlib.Data.List.Forall2

/-!
# A tape, written and read back

Wherever a record ends in the buffer, whatever is flushed and whenever a file is closed, the files
hold whole records, and these with the ones that are still in the buffer are all records in order.

* **`Recorded`** — a tape with its files by their records.
* **`Recorded.writeRecord`** — a record is added at the end, in a new file or not.
* **`Kept.run`** — what any calls leave behind.
* **`tape_round_trip`** — the files at any time, after a flush, and after the end of the tape.
-/

namespace BptCore.Recorder.Tape

/-- A file by its records. -/
def image (file : String × List WslogRecord) : String × List UInt8 := (file.1, recordBytes file.2)

/-- The records `recs` are those of the files in order, then those of the buffer. The open file is
the last one, of no later than `last`, and older ones are of a second before at least. -/
structure Recorded (t : Tape) (last : UInt64) (recs : List WslogRecord)
    (earlier : List (String × List WslogRecord)) (path : String)
    (current pending : List WslogRecord) : Prop where
  fp : t.fp = some path
  disk : t.disk = earlier.map image ++ [(path, recordBytes current)]
  buffer : t.buffer = recordBytes pending
  records : earlier.flatMap (·.2) ++ (current ++ pending) = recs
  path_eq : path = buildPath t.rootDir t.venueTag t.currentFileStartNs
  older : ∀ file ∈ earlier, ∃ start : UInt64, file.1 = buildPath t.rootDir t.venueTag start ∧
    start.toNat + 1000000000 ≤ t.currentFileStartNs.toNat
  start_le : t.currentFileStartNs ≤ last

section

variable {t : Tape} {last : UInt64} {recs : List WslogRecord}
  {earlier : List (String × List WslogRecord)} {path : String} {current pending : List WslogRecord}
  {rec : WslogRecord}

theorem recordBytes_eq_nil (h : recordBytes recs = []) : recs = [] := by
  cases recs with
  | nil => rfl
  | cons rec recs =>
    have hlength := congrArg List.length (List.append_eq_nil_iff.mp h).1
    rw [rec.length_encode] at hlength
    have hheader : 0 < kHeaderBytes := by decide
    rw [List.length_nil] at hlength
    omega

/-! ## The open file -/

namespace Recorded

theorem ne_path (h : Recorded t last recs earlier path current pending) :
    ∀ file ∈ earlier.map image, file.1 ≠ path := by
  intro file hfile
  obtain ⟨file', hfile', rfl⟩ := List.mem_map.mp hfile
  obtain ⟨start, hstart, hle⟩ := h.older file' hfile'
  show file'.1 ≠ path
  rw [hstart, h.path_eq]
  exact buildPath_ne hle _ _

theorem append_disk (h : Recorded t last recs earlier path current pending) (data : List UInt8) :
    AppendFiles.append path data t.disk =
      earlier.map image ++ [(path, recordBytes current ++ data)] := by
  rw [h.disk]
  exact AppendFiles.append_last h.ne_path _ _

theorem mono (h : Recorded t last recs earlier path current pending) {last' : UInt64}
    (hle : last ≤ last') : Recorded t last' recs earlier path current pending :=
  { h with start_le := UInt64.le_trans h.start_le hle }

theorem flushedAt (h : Recorded t last recs earlier path current pending) (ns : UInt64) :
    Recorded { t with lastFlushNs := ns } last recs earlier path current pending :=
  ⟨h.fp, h.disk, h.buffer, h.records, h.path_eq, h.older, h.start_le⟩

theorem writeBuffer (h : Recorded t last recs earlier path current pending) :
    Recorded (t.writeBuffer path) last recs earlier path (current ++ pending) [] := by
  unfold Tape.writeBuffer
  by_cases hfilled : t.buffer.length > 0
  · rw [if_pos hfilled]
    exact
      { fp := h.fp
        disk := by
          show AppendFiles.append path t.buffer t.disk = _
          rw [h.append_disk, h.buffer, recordBytes_append]
        buffer := rfl
        records := by rw [List.append_nil, h.records]
        path_eq := h.path_eq
        older := h.older
        start_le := h.start_le }
  · -- no record is pending in an empty buffer
    have hempty : t.buffer = [] := List.length_eq_zero_iff.mp (by omega)
    obtain rfl : pending = [] := recordBytes_eq_nil (h.buffer.symm.trans hempty)
    rw [if_neg hfilled, List.append_nil]
    exact h

theorem autoFlush (h : Recorded t last recs earlier path current pending) (recvTsNs : UInt64) :
    ∃ current pending, Recorded (t.autoFlush path recvTsNs) last recs earlier path current pending := by
  unfold Tape.autoFlush
  split
  · exact ⟨_, _, h.writeBuffer.flushedAt recvTsNs⟩
  · exact ⟨_, _, h⟩

theorem writeBuffered (h : Recorded t last recs earlier path current pending)
    (rec : WslogRecord) :
    ∃ current pending, Recorded (t.writeBuffered path rec) last (recs ++ [rec]) earlier path current
      pending := by
  have hadded : Recorded ({ t with buffer := t.buffer ++ rec.encode }.counted
      (kHeaderBytes + rec.length.toNat)) last (recs ++ [rec]) earlier path current
        (pending ++ [rec]) :=
    { fp := h.fp
      disk := h.disk
      buffer := by
        show t.buffer ++ rec.encode = _
        rw [h.buffer, recordBytes_append, recordBytes_singleton]
      records := by rw [← h.records, List.append_assoc, List.append_assoc]
      path_eq := h.path_eq
      older := h.older
      start_le := h.start_le }
  exact hadded.autoFlush rec.tsNs

/-- The parts of a record that goes past the buffer are the record. -/
theorem writeDirect_eq (t : Tape) (path : String) (rec : WslogRecord) :
    t.writeDirect path rec =
      (t.fwrite path rec.encode).counted (kHeaderBytes + rec.length.toNat) := by
  have hsame : ∀ disk, disk = AppendFiles.append path rec.encode t.disk →
      { t with disk := disk }.counted (kHeaderBytes + rec.length.toNat) =
        (t.fwrite path rec.encode).counted (kHeaderBytes + rec.length.toNat) := by
    rintro disk rfl
    rfl
  unfold Tape.writeDirect
  dsimp only
  by_cases hlength : rec.length > 0
  · rw [if_pos hlength]
    refine hsame (AppendFiles.append path _ (AppendFiles.append path _ (AppendFiles.append path _
      (AppendFiles.append path _ t.disk)))) ?_
    rw [AppendFiles.append_append, AppendFiles.append_append, AppendFiles.append_append]
    rfl
  · -- no call for the payload, which is empty
    have hzero : rec.written = [] := by
      have hlen := rec.length_written
      have hlt : ¬ 0 < rec.length.toNat := fun hpos => hlength (UInt32.lt_iff_toNat_lt.mpr hpos)
      exact List.length_eq_zero_iff.mp (by omega)
    rw [if_neg hlength]
    refine hsame (AppendFiles.append path _ (AppendFiles.append path _ (AppendFiles.append path _
      t.disk))) ?_
    rw [AppendFiles.append_append, AppendFiles.append_append]
    unfold WslogRecord.encode
    rw [hzero, List.append_nil]

theorem writeDirect (h : Recorded t last recs earlier path current []) (rec : WslogRecord) :
    Recorded (t.writeDirect path rec) last (recs ++ [rec]) earlier path (current ++ [rec]) [] := by
  rw [writeDirect_eq]
  exact
    { fp := h.fp
      disk := by
        show AppendFiles.append path rec.encode t.disk = _
        rw [h.append_disk, recordBytes_append, recordBytes_singleton]
      buffer := h.buffer
      records := by
        rw [← h.records, List.append_nil, List.append_nil, List.append_assoc]
      path_eq := h.path_eq
      older := h.older
      start_le := h.start_le }

/-- A record goes into the buffer or past it, and the buffer to the file before if it has to. -/
theorem writeOpen (h : Recorded t last recs earlier path current pending) (rec : WslogRecord) :
    ∃ current pending, Recorded (t.writeOpen path rec) last (recs ++ [rec]) earlier path current
      pending := by
  unfold Tape.writeOpen
  dsimp only
  split
  · split
    · -- nothing is left in the buffer that this record could overtake
      exact ⟨_, _, h.writeBuffer.writeDirect rec⟩
    · exact h.writeBuffer.writeBuffered rec
  · exact h.writeBuffered rec

/-! ## The next file -/

/-- A file that has been open for the interval is one of a second before at least. -/
theorem start_add_le {now : UInt64} (hle : t.currentFileStartNs ≤ now)
    (hrotate : now - t.currentFileStartNs ≥ t.rotateNs) :
    t.currentFileStartNs.toNat + 1000000000 ≤ now.toNat := by
  have hsub : (now - t.currentFileStartNs).toNat = now.toNat - t.currentFileStartNs.toNat :=
    UInt64.toNat_sub_of_le _ _ hle
  have hlt : t.rotateIntervalSeconds.toNat < 2 ^ 32 := t.rotateIntervalSeconds.toNat_lt
  have hpos : 0 < t.rotateIntervalSeconds.toNat := by
    refine Nat.pos_of_ne_zero fun hzero => t.rotateIntervalSeconds_ne ?_
    exact UInt32.toNat_inj.mp hzero
  -- the seconds have 32 bits, so the product does not wrap
  have hrotateNs : t.rotateNs.toNat = t.rotateIntervalSeconds.toNat * 1000000000 := by
    unfold rotateNs
    rw [UInt64.toNat_mul, UInt32.toNat_toUInt64]
    exact Nat.mod_eq_of_lt (by show _ * 1000000000 < 2 ^ 64; omega)
  have hge := UInt64.le_iff_toNat_le.mp hrotate
  have hnow := UInt64.le_iff_toNat_le.mp hle
  omega

theorem closeCurrent_eq (h : Recorded t last recs earlier path current pending) :
    t.closeCurrent = { t.writeBuffer path with fp := none } := by
  unfold closeCurrent
  rw [h.fp]

/-- All that was written is in the file that is closed, and the next file is a new one. -/
theorem rotate (h : Recorded t last recs earlier path current pending) {now : UInt64}
    (hle : t.currentFileStartNs ≤ now) (hrotate : now - t.currentFileStartNs ≥ t.rotateNs) :
    ∃ path', Recorded (t.closeCurrent.openFile now) now recs
      (earlier ++ [(path, current ++ pending)]) path' [] [] := by
  have hflushed := h.writeBuffer
  have hstart : (t.writeBuffer path).currentFileStartNs = t.currentFileStartNs := by
    unfold Tape.writeBuffer
    split <;> rfl
  have hnow := start_add_le hle hrotate
  rw [h.closeCurrent_eq]
  set w := t.writeBuffer path with hw
  have holder : ∀ file ∈ earlier ++ [(path, current ++ pending)], ∃ start : UInt64,
      file.1 = buildPath w.rootDir w.venueTag start ∧
        start.toNat + 1000000000 ≤ now.toNat := by
    intro file hfile
    rcases List.mem_append.mp hfile with hearlier | hlast
    · obtain ⟨start, hpath, hbefore⟩ := hflushed.older file hearlier
      exact ⟨start, hpath, by rw [hstart] at hbefore; omega⟩
    · obtain rfl := List.mem_singleton.mp hlast
      exact ⟨w.currentFileStartNs, hflushed.path_eq, by rw [hstart]; exact hnow⟩
  have hnew : ∀ file ∈ w.disk, file.1 ≠ buildPath w.rootDir w.venueTag now := by
    intro file hfile
    have himage : w.disk = (earlier ++ [(path, current ++ pending)]).map image := by
      rw [hflushed.disk, List.map_append]
      rfl
    rw [himage] at hfile
    obtain ⟨file', hfile', rfl⟩ := List.mem_map.mp hfile
    obtain ⟨start, hpath, hbefore⟩ := holder file' hfile'
    show file'.1 ≠ _
    rw [hpath]
    exact buildPath_ne hbefore _ _
  exact ⟨_,
    { fp := rfl
      disk := by
        show AppendFiles.append _ [] w.disk = _
        rw [AppendFiles.append_new hnew, hflushed.disk, List.map_append]
        rfl
      buffer := hflushed.buffer
      records := by
        rw [List.flatMap_append, ← h.records]
        simp
      path_eq := rfl
      older := holder
      start_le := UInt64.le_refl now }⟩

end Recorded

/-! ## Any calls -/

/-- What calls leave behind: nothing has been written, or the records are recorded. -/
inductive Kept (t : Tape) (last : UInt64) (recs : List WslogRecord) : Prop
  | fresh (hrecs : recs = []) (hfp : t.fp = none) (hdisk : t.disk = []) (hbuffer : t.buffer = [])
  | recorded {earlier : List (String × List WslogRecord)} {path : String}
      {current pending : List WslogRecord} (h : Recorded t last recs earlier path current pending)

namespace Kept

theorem ensureFileOpen (h : Kept t last recs) {now : UInt64} (hle : last ≤ now) :
    ∃ earlier path current pending,
      Recorded (t.ensureFileOpen now) now recs earlier path current pending := by
  unfold Tape.ensureFileOpen
  cases h with
  | fresh hrecs hfp hdisk hbuffer =>
    have hclosed : t.closeCurrent = t := by
      unfold closeCurrent
      rw [hfp]
    rw [if_pos (.inl hfp), hclosed]
    exact ⟨[], _, [], [],
      { fp := rfl
        disk := by
          show AppendFiles.append _ [] t.disk = _
          rw [hdisk]
          rfl
        buffer := hbuffer
        records := hrecs.symm
        path_eq := rfl
        older := fun file hfile => absurd hfile List.not_mem_nil
        start_le := UInt64.le_refl now }⟩
  | recorded h =>
    have hstart := UInt64.le_trans h.start_le hle
    split
    · next hrotate =>
      obtain ⟨path', hrotated⟩ :=
        h.rotate hstart (hrotate.resolve_left fun hnone => by rw [h.fp] at hnone; cases hnone)
      exact ⟨_, _, _, _, hrotated⟩
    · exact ⟨_, _, _, _, h.mono hle⟩

theorem writeRecord (h : Kept t last recs) {rec : WslogRecord} (hle : last ≤ rec.tsNs) :
    ∃ earlier path current pending,
      Recorded (t.writeRecord rec) rec.tsNs (recs ++ [rec]) earlier path current pending := by
  obtain ⟨earlier, path, current, pending, hopen⟩ := h.ensureFileOpen hle
  obtain ⟨current', pending', hwritten⟩ := hopen.writeOpen rec
  unfold Tape.writeRecord
  dsimp only
  rw [hopen.fp]
  exact ⟨_, _, _, _, hwritten⟩

theorem flush (h : Kept t last recs) (nowNs : UInt64) : Kept (t.flush nowNs) last recs := by
  unfold Tape.flush
  cases h with
  | fresh hrecs hfp hdisk hbuffer =>
    rw [hfp]
    exact .fresh hrecs hfp hdisk hbuffer
  | recorded h =>
    rw [h.fp]
    exact .recorded (h.writeBuffer.flushedAt nowNs)

theorem mono (h : Kept t last recs) {last' : UInt64} (hle : last ≤ last') : Kept t last' recs := by
  cases h with
  | fresh hrecs hfp hdisk hbuffer => exact .fresh hrecs hfp hdisk hbuffer
  | recorded h => exact .recorded (h.mono hle)

/-- **Any calls** whose records are in the order of their times. -/
theorem run (calls : List Call) (h : Kept t last recs)
    (hsorted : (last :: (Call.records calls).map (·.tsNs)).Pairwise (· ≤ ·)) {bound : UInt64}
    (hbound : ∀ ts ∈ last :: (Call.records calls).map (·.tsNs), ts ≤ bound) :
    Kept (calls.foldl call t) bound (recs ++ Call.records calls) := by
  induction calls generalizing t last recs with
  | nil =>
    show Kept t bound (recs ++ [])
    rw [List.append_nil]
    exact h.mono (hbound last List.mem_cons_self)
  | cons c calls ih =>
    have hwrite : ∀ rec : WslogRecord, Call.records (c :: calls) = rec :: Call.records calls →
        Kept (calls.foldl call (t.writeRecord rec)) bound (recs ++ Call.records (c :: calls)) := by
      intro rec hrecs
      rw [hrecs, List.map_cons] at hsorted hbound
      obtain ⟨hfirst, hrest⟩ := List.pairwise_cons.mp hsorted
      obtain ⟨_, _, _, _, hwritten⟩ := h.writeRecord (hfirst rec.tsNs List.mem_cons_self)
      have hkept := ih (.recorded hwritten) hrest fun ts hts => hbound ts (List.mem_cons_of_mem _ hts)
      rwa [List.append_assoc, List.singleton_append, ← hrecs] at hkept
    cases c with
    | writeFrame recvTsNs payload => exact hwrite ⟨recvTsNs, .WS_FRAME, payload⟩ rfl
    | writeMarker recvTsNs type payload => exact hwrite ⟨recvTsNs, type, payload⟩ rfl
    | flush nowNs => exact ih (h.flush nowNs) hsorted hbound

end Kept

/-! ## Reading it back -/

/-- Every file is whole. -/
theorem Recorded.replays (h : Recorded t last recs earlier path current pending)
    (hfits : ∀ rec ∈ recs, rec.Fits) : Replays t.disk (earlier.flatMap (·.2) ++ current) := by
  have himage : t.disk = (earlier ++ [(path, current)]).map image := by
    rw [h.disk, List.map_append]
    rfl
  have hwhole : ∀ file ∈ earlier ++ [(path, current)], parseFile (image file).2 = some file.2 := by
    intro file hfile
    refine parseFile_recordBytes fun rec hrec => hfits rec ?_
    rw [← h.records]
    rcases List.mem_append.mp hfile with hearlier | hlast
    · exact List.mem_append_left _ (List.mem_flatMap.mpr ⟨file, hearlier, hrec⟩)
    · obtain rfl := List.mem_singleton.mp hlast
      exact List.mem_append_right _ (List.mem_append_left _ hrec)
  refine ⟨(earlier ++ [(path, current)]).map (·.2), ?_, ?_⟩
  · rw [himage, List.forall₂_map_left_iff, List.forall₂_map_right_iff, List.forall₂_same]
    exact hwhole
  · rw [← List.flatMap_def, List.flatMap_append]
    simp

/-- With nothing in the buffer the files are all there is. -/
theorem Recorded.replays_all (h : Recorded t last recs earlier path current [])
    (hfits : ∀ rec ∈ recs, rec.Fits) : Replays t.disk recs := by
  have hreplays := h.replays hfits
  rwa [← List.append_nil current, h.records] at hreplays

theorem replays_nil : Replays [] [] := ⟨[], .nil, rfl⟩

end

theorem fits_stopRecord (nowNs : UInt64) : (stopRecord nowNs).Fits := by
  show List.length _ < 2 ^ 32
  rw [stopRecord, List.length_map]
  decide +kernel

section

variable {t : Tape} {last : UInt64} {recs : List WslogRecord}

namespace Kept

/-- Files first, then the buffer. -/
theorem replays (h : Kept t last recs) (hfits : ∀ rec ∈ recs, rec.Fits) :
    ∃ onDisk pending, Replays t.disk onDisk ∧ parseFile t.buffer = some pending ∧
      onDisk ++ pending = recs := by
  cases h with
  | fresh hrecs hfp hdisk hbuffer =>
    rw [hdisk, hbuffer]
    exact ⟨[], [], replays_nil, rfl, hrecs.symm⟩
  | @recorded earlier path current pending h =>
    have hpending : ∀ rec ∈ pending, rec.Fits := fun rec hrec => hfits rec <| by
      rw [← h.records]
      exact List.mem_append_right _ (List.mem_append_right _ hrec)
    refine ⟨_, pending, h.replays hfits, ?_, ?_⟩
    · rw [h.buffer]
      exact parseFile_recordBytes hpending
    · rw [List.append_assoc, h.records]

theorem replays_flush (h : Kept t last recs) (hfits : ∀ rec ∈ recs, rec.Fits) (nowNs : UInt64) :
    Replays (t.flush nowNs).disk recs := by
  unfold Tape.flush
  cases h with
  | fresh hrecs hfp hdisk hbuffer =>
    rw [hfp, hrecs]
    show Replays t.disk []
    rw [hdisk]
    exact replays_nil
  | recorded h =>
    rw [h.fp]
    exact h.writeBuffer.replays_all hfits

/-- The marker of the end is a record like the others, and the last file is closed after it. -/
theorem replays_destroy {nowNs : UInt64} (h : Kept t nowNs recs)
    (hfits : ∀ rec ∈ recs, rec.Fits) :
    Replays (t.destroy nowNs).disk (recs ++ if t.fp = none then [] else [stopRecord nowNs]) := by
  unfold destroy
  by_cases hfp : t.fp = none
  · rw [if_pos hfp, List.append_nil, hfp]
    have hflush := h.replays_flush hfits 0
    unfold Tape.flush at hflush
    rwa [hfp] at hflush
  · obtain ⟨path, hpath⟩ := Option.ne_none_iff_exists'.mp hfp
    have hle : nowNs ≤ (stopRecord nowNs).tsNs := UInt64.le_refl nowNs
    obtain ⟨_, _, _, _, hstopped⟩ := h.writeRecord hle
    have hfits' : ∀ rec ∈ recs ++ [stopRecord nowNs], rec.Fits := by
      intro rec hrec
      rcases List.mem_append.mp hrec with hrec | hrec
      · exact hfits rec hrec
      · rw [List.mem_singleton.mp hrec]
        exact fits_stopRecord nowNs
    rw [if_neg hfp, hpath]
    show Replays ((t.writeRecord (stopRecord nowNs)).closeCurrent).disk _
    rw [hstopped.closeCurrent_eq]
    exact hstopped.writeBuffer.replays_all hfits'

end Kept

end

theorem kept_ofConfig (cfg : Config) : Kept (ofConfig cfg) 0 [] := .fresh rfl rfl rfl rfl

/-- **A tape read back.** The records of any calls in the order of their times are, at any time, in
the files and then in the buffer; after a flush they are all in the files, and at the end of the tape
so is the record that it writes itself. Each file is made of whole records. -/
theorem tape_round_trip (cfg : Config) (calls : List Call)
    (hfits : ∀ rec ∈ Call.records calls, rec.Fits)
    (hsorted : ((Call.records calls).map (·.tsNs)).Pairwise (· ≤ ·)) :
    let t := calls.foldl call (ofConfig cfg)
    (∃ onDisk pending, Replays t.disk onDisk ∧ parseFile t.buffer = some pending ∧
      onDisk ++ pending = Call.records calls) ∧
    (∀ nowNs, Replays (t.flush nowNs).disk (Call.records calls)) ∧
    ∀ nowNs, (∀ rec ∈ Call.records calls, rec.tsNs ≤ nowNs) →
      Replays (t.destroy nowNs).disk
        (Call.records calls ++ if t.fp = none then [] else [stopRecord nowNs]) := by
  intro t
  have hkept : ∀ bound : UInt64, (∀ rec ∈ Call.records calls, rec.tsNs ≤ bound) →
      Kept t bound (Call.records calls) := by
    intro bound hbound
    refine (kept_ofConfig cfg).run calls (List.pairwise_cons.mpr ⟨fun _ _ => UInt64.zero_le, hsorted⟩)
      fun ts hts => ?_
    rcases List.mem_cons.mp hts with rfl | hts
    · exact UInt64.zero_le
    · obtain ⟨rec, hrec, rfl⟩ := List.mem_map.mp hts
      exact hbound rec hrec
  -- no time bounds the records before the end of the tape
  have hlast : Kept t (UInt64.ofNat (2 ^ 64 - 1)) (Call.records calls) :=
    hkept _ fun rec _ => UInt64.le_iff_toNat_le.mpr (Nat.le_of_lt_succ rec.tsNs.toNat_lt)
  refine ⟨?_, fun nowNs => ?_, fun nowNs hnow => ?_⟩
  · exact hlast.replays hfits
  · exact hlast.replays_flush hfits nowNs
  · exact (hkept nowNs hnow).replays_destroy hfits

/-- Files of a second and a buffer of 20 bytes: a record that fits, one that does not, one larger
than the buffer, and two rotations. -/
theorem tape_round_trip_rotating :
    let cfg : Config :=
      { rootDir := "/data", venueTag := "okx", rotateIntervalSeconds := 1, bufferBytes := 20,
        flushIntervalNs := 0 }
    let calls : List Call :=
      [.writeFrame 1000000000 [1, 2, 3], .writeFrame 1000000001 [4, 5], .flush 7,
        .writeMarker 2500000000 .CHECKPOINT (List.replicate 30 9), .writeFrame 2500000001 [],
        .writeFrame 3600000000 []]
    let t := calls.foldl call (ofConfig cfg)
    (∃ onDisk pending, Replays t.disk onDisk ∧ parseFile t.buffer = some pending ∧
      onDisk ++ pending = Call.records calls) ∧
    Replays (t.flush 3700000000).disk (Call.records calls) ∧
    Replays (t.destroy 3700000000).disk (Call.records calls ++ [stopRecord 3700000000]) := by
  intro cfg calls t
  obtain ⟨hany, hflush, hdestroy⟩ := tape_round_trip cfg calls (by decide) (by decide)
  have hopen : ¬ t.fp = none := by decide +kernel
  have hended := hdestroy 3700000000 (by decide)
  rw [if_neg hopen] at hended
  exact ⟨hany, hflush _, hended⟩

end BptCore.Recorder.Tape
