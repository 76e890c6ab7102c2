import BptCore.Canon.CanonReader
import BptCore.Lib.KWayMerge

/-!
# The merge tool

`mergeMain` opens all inputs, refuses to merge across venues, and then writes the input record
with the smallest timestamp until no input has one left. Equal timestamps go by the order of the
inputs.

* **`Merge.openInputs`**, **`Merge.step`**, **`Merge.loop`** — the three parts of the tool.
* **`CanonReader.records`** — what a reader has still to return.
* **`Merge.loop_merges`** — the loop ends, and what it wrote is the merge of the inputs.
* **`mergeMain_stable`** — the output file, read back.
-/

namespace BptCore.Canon

open CanonWriter

namespace CanonReader

def recordsFrom : Nat → List UInt8 → List CanonRecord
  | 0, _ => []
  | n + 1, bytes =>
    match nextRecord bytes with
    | (none, _) => []
    | (some rec, rest) => rec :: recordsFrom n rest

/-- What the calls of `next` will return. -/
def records (r : CanonReader) : List CanonRecord :=
  match r.rest, r.openOk with
  | some bytes, true => recordsFrom bytes.length bytes
  | _, _ => []

theorem fread_some {n : Nat} {bytes item rest : List UInt8} (h : fread n bytes = (some item, rest)) :
    item.length = n ∧ rest.length + n = bytes.length := by
  unfold fread at h
  split at h
  · next hlen =>
    cases h
    rw [List.length_take, List.length_drop]
    omega
  · cases h

/-- A record takes its header off the bytes, and is no longer than the length field can say. -/
theorem nextRecord_some {bytes rest : List UInt8} {rec : CanonRecord}
    (h : nextRecord bytes = (some rec, rest)) : rec.Fits ∧ rest.length < bytes.length := by
  unfold nextRecord at h
  cases hheader : fread 11 bytes with
  | mk item rest' =>
    cases item with
    | none => simp [hheader] at h
    | some item =>
      simp only [hheader] at h
      cases hsbe : fread (CanonRecordHeader.codec.decode item).sbeLen.toNat rest' with
      | mk sbe rest'' =>
        cases sbe with
        | none => simp [hsbe] at h
        | some sbe =>
          simp only [hsbe] at h
          cases h
          have hlt := (CanonRecordHeader.codec.decode item).sbeLen.toNat_lt
          obtain ⟨-, hrest'⟩ := fread_some hheader
          obtain ⟨hlen, hrest⟩ := fread_some hsbe
          refine ⟨?_, by omega⟩
          show sbe.length ≤ 65535
          omega

theorem recordsFrom_eq {n : Nat} {bytes : List UInt8} (hn : bytes.length ≤ n) (m : Nat) :
    recordsFrom (n + m) bytes = recordsFrom n bytes := by
  induction n generalizing bytes with
  | zero =>
    have hnil : bytes = [] := List.length_eq_zero_iff.mp (Nat.le_zero.mp hn)
    subst hnil
    cases m with
    | zero => rfl
    | succ m => rw [Nat.zero_add]; rfl
  | succ n ih =>
    rw [show n + 1 + m = n + m + 1 by omega]
    unfold recordsFrom
    cases hnext : nextRecord bytes with
    | mk rec rest =>
      cases rec with
      | none => rfl
      | some rec =>
        have hlt := (nextRecord_some hnext).2
        exact congrArg (rec :: ·) (ih (by omega))

/-- The records that are left are the next one and what is left after it. -/
theorem records_eq (r : CanonReader) :
    r.records = match r.next.1 with
      | none => []
      | some rec => rec :: r.next.2.records := by
  unfold records next
  cases hrest : r.rest with
  | none => rfl
  | some bytes =>
    cases r.openOk with
    | false => rfl
    | true =>
      simp only
      cases hnext : nextRecord bytes with
      | mk rec rest =>
        cases rec with
        | none =>
          cases hlen : bytes.length with
          | zero => rfl
          | succ n => simp only [recordsFrom, hnext]
        | some rec =>
          have hlt := (nextRecord_some hnext).2
          obtain ⟨m, hm⟩ := Nat.exists_eq_add_of_lt hlt
          simp only
          rw [hm, recordsFrom, hnext]
          exact congrArg (rec :: ·) (recordsFrom_eq (Nat.le_refl _) m)

theorem fits_of_mem_records {r : CanonReader} {rec : CanonRecord} (h : rec ∈ r.records) :
    rec.Fits := by
  have hfrom : ∀ n bytes, rec ∈ recordsFrom n bytes → rec.Fits := by
    intro n
    induction n with
    | zero => intro bytes h; exact absurd h (by simp [recordsFrom])
    | succ n ih =>
      intro bytes h
      unfold recordsFrom at h
      cases hnext : nextRecord bytes with
      | mk found rest =>
        cases found with
        | none => simp [hnext] at h
        | some found =>
          simp only [hnext, List.mem_cons] at h
          rcases h with rfl | h
          · exact (nextRecord_some hnext).1
          · exact ih rest h
  unfold records at h
  split at h
  · exact hfrom _ _ h
  · exact absurd h (by simp)

end CanonReader

/-! ## The tool -/

namespace Merge

inductive Fatal where
  | cannotOpen (path : String)
  | acrossVenues (path : String) (venueId firstVenueId : UInt8)
  | outputOpen (path : String)
  deriving DecidableEq, Repr

def Fatal.message : Fatal → String
  | .cannotOpen path => "fatal: cannot open " ++ path ++ " as canon file\n"
  | .acrossVenues path venueId firstVenueId =>
    "fatal: cannot merge across venues. " ++ path ++ " has venue_id=" ++ toString venueId.toNat
      ++ " but first input has venue_id=" ++ toString firstVenueId.toNat ++ "\n"
  | .outputOpen path => "fatal: failed to open " ++ path ++ "\n"

/-- A path of the command line and what it holds. -/
structure Input where
  path : String
  file : Option (List UInt8)

def Input.reader (input : Input) : CanonReader := .ofFile input.file

structure Args where
  outputPath : String
  producerKind : List UInt8
  producerSha : List UInt8

/-- A reader and the record that was read ahead. -/
structure Cursor where
  reader : CanonReader
  head : Option CanonRecord

namespace Cursor

def prime (r : CanonReader) : Cursor := { reader := r.next.2, head := r.next.1 }

def refill (c : Cursor) : Cursor := prime c.reader

/-- The records the tool has yet to write. -/
def pending (c : Cursor) : List CanonRecord :=
  match c.head with
  | none => []
  | some rec => rec :: c.reader.records

end Cursor

/-- The loop over the inputs. `first` is the header of the first one, once it was seen. -/
def openInputs (first : Option CanonFileHeader) :
    List Input → Except Fatal (List Cursor × CanonFileHeader)
  | [] => .ok ([], first.getD default)
  | input :: inputs =>
    let r := input.reader
    if !r.ok then .error (.cannotOpen input.path)
    else
      let firstHeader := first.getD r.header
      if r.header.venueId ≠ firstHeader.venueId then
        .error (.acrossVenues input.path r.header.venueId firstHeader.venueId)
      else
        match openInputs (some firstHeader) inputs with
        | .error e => .error e
        | .ok (cursors, hdr) => .ok (Cursor.prime r :: cursors, hdr)

structure State where
  cursors : List Cursor
  writer : CanonWriter
  emitted : Nat := 0
  lastEmitTs : UInt64 := 0
  warnedNonMonotonic : Bool := false

def tsKey (rec : CanonRecord) : Nat := rec.tsNs.toNat

/-- One turn of the loop, nothing when all readers are drained. -/
def step (st : State) : Option State :=
  match KWayMerge.leastHead tsKey (st.cursors.map (·.head)) with
  | none => none
  | some (pick, rec) => some
      { cursors := st.cursors.modify pick Cursor.refill
        writer := (st.writer.writeEvent rec).2
        emitted := st.emitted + 1
        lastEmitTs := rec.tsNs
        warnedNonMonotonic := st.warnedNonMonotonic || rec.tsNs < st.lastEmitTs }

/-- `none` when the turns do not suffice. -/
def loop : Nat → State → Option State
  | 0, _ => none
  | turns + 1, st =>
    match step st with
    | none => some st
    | some st => loop turns st

def Args.config (args : Args) (first : CanonFileHeader) : Config where
  producerKind := args.producerKind
  producerSha := args.producerSha
  venueId := first.venueId
  dateUtc := first.dateUtc
  bufferBytes := 4 * 2 ^ 20

/-- More turns than the inputs have records. -/
def turns (inputs : List Input) : Nat :=
  (inputs.map fun input => (input.file.getD []).length).sum + 1

end Merge

open Merge in
/-- `main`, and the bytes of the output file. `out` is what `fopen` gives for the output path. -/
def mergeMain (args : Args) (inputs : List Input) (out : Option OutFile) :
    Except Fatal (Option (List UInt8)) :=
  match openInputs none inputs with
  | .error e => .error e
  | .ok (cursors, first) =>
    match (ofConfig (args.config first)).openFile out with
    | (false, _) => .error (.outputOpen args.outputPath)
    | (true, writer) =>
      .ok ((loop (turns inputs) { cursors, writer }).bind fun st =>
        st.writer.flush.close.1.map (·.bytes))

/-! ## What the readers have to give -/

namespace CanonReader

theorem nextRecord_none {bytes rest : List UInt8} (h : nextRecord bytes = (none, rest)) :
    rest = [] := by
  have hshort : ∀ {n : Nat} {bytes rest : List UInt8}, fread n bytes = (none, rest) → rest = [] := by
    intro n bytes rest h
    unfold fread at h
    split at h
    · cases h
    · cases h; rfl
  unfold nextRecord at h
  cases hheader : fread 11 bytes with
  | mk item rest' =>
    cases item with
    | none =>
      simp only [hheader, Prod.mk.injEq, true_and] at h
      exact h ▸ hshort hheader
    | some item =>
      simp only [hheader] at h
      cases hsbe : fread (CanonRecordHeader.codec.decode item).sbeLen.toNat rest' with
      | mk sbe rest'' =>
        cases sbe with
        | none =>
          simp only [hsbe, Prod.mk.injEq, true_and] at h
          exact h ▸ hshort hsbe
        | some sbe => simp [hsbe] at h

theorem records_next_of_none {r : CanonReader} (h : r.next.1 = none) : r.next.2.records = [] := by
  unfold next at h ⊢
  cases hrest : r.rest with
  | none => simp [records, hrest]
  | some bytes =>
    cases hopen : r.openOk with
    | false => simp [records, hrest, hopen]
    | true =>
      simp only [hrest, hopen] at h ⊢
      have hempty : (nextRecord bytes).2 = [] :=
        nextRecord_none (show nextRecord bytes = (none, _) from Prod.ext h rfl)
      rw [hempty]
      simp [records, recordsFrom]

theorem reads_records (r : CanonReader) : r.Reads r.records := by
  intro k
  induction k generalizing r with
  | zero =>
    show r.next.1 = r.records[0]?
    rw [records_eq]
    cases r.next.1 <;> rfl
  | succ k ih =>
    show r.next.2.nextAt k = r.records[k + 1]?
    rw [ih, records_eq r]
    cases hnext : r.next.1 with
    | none => rw [records_next_of_none hnext]; rfl
    | some rec => rfl

theorem length_rest_ofFile_le (file : Option (List UInt8)) :
    ((ofFile file).rest.getD []).length ≤ (file.getD []).length := by
  cases file with
  | none => exact Nat.le_refl 0
  | some bytes =>
    have hread : (fread kFileHeaderBytes bytes).2.length ≤ bytes.length := by
      unfold fread
      split
      · rw [List.length_drop]; omega
      · exact Nat.zero_le _
    unfold ofFile
    cases hitem : fread kFileHeaderBytes bytes with
    | mk item rest =>
      rw [hitem] at hread
      cases item with
      | none => simp only [hitem]; exact hread
      | some item => simp only [hitem]; exact hread

theorem length_records_le (r : CanonReader) : r.records.length ≤ (r.rest.getD []).length := by
  have hfrom : ∀ n bytes, (recordsFrom n bytes).length ≤ n := by
    intro n
    induction n with
    | zero => intro bytes; exact Nat.le_refl 0
    | succ n ih =>
      intro bytes
      unfold recordsFrom
      split
      · exact Nat.zero_le _
      · exact Nat.succ_le_succ (ih _)
  unfold records
  split
  · next hrest _ => rw [hrest]; exact hfrom _ _
  · exact Nat.zero_le _

end CanonReader

/-! ## The loop -/

namespace Merge

open KWayMerge (Merges leastHead leastHead_found)

theorem Cursor.pending_prime (r : CanonReader) : (Cursor.prime r).pending = r.records := by
  rw [CanonReader.records_eq]
  rfl

theorem Cursor.head_eq (c : Cursor) : c.head = c.pending.head? := by
  unfold Cursor.pending
  cases c.head <;> rfl

theorem map_head_eq (cursors : List Cursor) :
    cursors.map (·.head) = (cursors.map Cursor.pending).map List.head? := by
  rw [List.map_map]
  exact List.map_congr_left fun c _ => c.head_eq

theorem map_pending_modify {cursors : List Cursor} {i : Nat} {rec : CanonRecord}
    (hi : (cursors.map (·.head))[i]? = some (some rec)) :
    ∃ rest, (cursors.map Cursor.pending)[i]? = some (rec :: rest) ∧
      (cursors.modify i Cursor.refill).map Cursor.pending
        = (cursors.map Cursor.pending).set i rest := by
  rw [List.getElem?_map] at hi
  obtain ⟨c, hc, hhead⟩ := Option.map_eq_some_iff.mp hi
  have hlt : i < cursors.length := (List.getElem?_eq_some_iff.mp hc).1
  refine ⟨c.reader.records, ?_, ?_⟩
  · rw [List.getElem?_map, hc]
    simp [Cursor.pending, hhead]
  · rw [List.modify_eq_set_getElem?, hc]
    show (cursors.set i c.refill).map Cursor.pending = _
    rw [List.map_set, Cursor.refill, Cursor.pending_prime]

/-- The loop ends once all readers are drained, and what it wrote is the merge. -/
theorem loop_merges {hdr : CanonFileHeader} {recs : List CanonRecord} {st : State} {n : Nat}
    (hturns : (st.cursors.map Cursor.pending).flatten.length < n)
    (hfits : ∀ l ∈ st.cursors.map Cursor.pending, ∀ rec ∈ l, rec.Fits)
    (hwritten : Written hdr st.writer recs) :
    ∃ st' out, loop n st = some st' ∧ Merges tsKey (st.cursors.map Cursor.pending) out ∧
      Written hdr st'.writer (recs ++ out.map Prod.snd) := by
  induction n generalizing st recs with
  | zero => omega
  | succ n ih =>
    have hfound : KWayMerge.Found tsKey (st.cursors.map (·.head))
        (leastHead tsKey (st.cursors.map (·.head))) :=
      leastHead_found (st.cursors.map (·.head))
    unfold loop step
    cases hleast : leastHead tsKey (st.cursors.map (·.head)) with
    | none =>
      rw [hleast] at hfound
      refine ⟨st, [], rfl, .done fun l hl => ?_, by simpa using hwritten⟩
      obtain ⟨c, hc, rfl⟩ := List.mem_map.mp hl
      have hhead : c.head = none := hfound _ (List.mem_map.mpr ⟨c, hc, rfl⟩)
      rw [c.head_eq] at hhead
      exact List.head?_eq_none_iff.mp hhead
    | some p =>
      obtain ⟨pick, rec⟩ := p
      rw [hleast] at hfound
      obtain ⟨rest, hpick, hmodify⟩ := map_pending_modify hfound.1
      obtain ⟨w, hwrite, hwritten'⟩ := hwritten.writeEvent
        (hfits _ (List.mem_of_getElem? hpick) rec List.mem_cons_self)
      have hlength := (KWayMerge.perm_flatten_set hpick).length_eq
      rw [List.length_cons] at hlength
      let turned : State :=
        { cursors := st.cursors.modify pick Cursor.refill
          writer := (st.writer.writeEvent rec).2
          emitted := st.emitted + 1
          lastEmitTs := rec.tsNs
          warnedNonMonotonic := st.warnedNonMonotonic || rec.tsNs < st.lastEmitTs }
      have hpending : turned.cursors.map Cursor.pending =
          (st.cursors.map Cursor.pending).set pick rest := hmodify
      have hshorter : (turned.cursors.map Cursor.pending).flatten.length < n := by
        rw [hpending]
        omega
      have hfits' : ∀ l ∈ turned.cursors.map Cursor.pending, ∀ rec ∈ l, rec.Fits := by
        rw [hpending]
        intro l hl r hr
        rcases List.mem_or_eq_of_mem_set hl with hold | rfl
        · exact hfits l hold r hr
        · exact hfits _ (List.mem_of_getElem? hpick) r (List.mem_cons_of_mem rec hr)
      have hwrote : Written hdr turned.writer (recs ++ [rec]) := by
        show Written hdr (st.writer.writeEvent rec).2 (recs ++ [rec])
        rw [hwrite]
        exact hwritten'
      obtain ⟨st', out, hloop, hmerges, hwritten''⟩ := ih hshorter hfits' hwrote
      refine ⟨st', (pick, rec) :: out, hloop, ?_, ?_⟩
      · rw [hpending] at hmerges
        rw [map_head_eq] at hfound
        exact .step hpick hfound hmerges
      · rw [List.append_assoc] at hwritten''
        exact hwritten''

/-! ## The inputs -/

/-- All inputs open, and all are of one venue. -/
def Mergeable (inputs : List Input) : Prop :=
  (∀ input ∈ inputs, input.reader.ok = true) ∧
    ∀ input ∈ inputs, ∀ other ∈ inputs,
      input.reader.header.venueId = other.reader.header.venueId

theorem openInputs_cons_ok {first : Option CanonFileHeader} {input : Input} {inputs : List Input}
    {res : List Cursor × CanonFileHeader} :
    openInputs first (input :: inputs) = .ok res ↔
      input.reader.ok = true ∧
      input.reader.header.venueId = (first.getD input.reader.header).venueId ∧
      ∃ rest, openInputs (some (first.getD input.reader.header)) inputs = .ok rest ∧
        (Cursor.prime input.reader :: rest.1, rest.2) = res := by
  rw [openInputs]
  cases hok : input.reader.ok with
  | false => simp
  | true =>
    by_cases hvenue : input.reader.header.venueId = (first.getD input.reader.header).venueId
    · simp only [Bool.not_true, Bool.false_eq_true, if_false, if_neg (not_not.mpr hvenue)]
      cases hrest : openInputs (some (first.getD input.reader.header)) inputs with
      | error e => simp
      | ok rest => simp [← hvenue]
    · simp [hvenue]

theorem openInputs_some {hdr : CanonFileHeader} {inputs : List Input}
    (h : ∀ input ∈ inputs, input.reader.ok = true ∧ input.reader.header.venueId = hdr.venueId) :
    openInputs (some hdr) inputs = .ok (inputs.map fun input => Cursor.prime input.reader, hdr) := by
  induction inputs with
  | nil => rfl
  | cons input inputs ih =>
    obtain ⟨hok, hvenue⟩ := h input List.mem_cons_self
    have hrest := ih fun input hi => h input (List.mem_cons_of_mem _ hi)
    exact openInputs_cons_ok.mpr ⟨hok, hvenue, _, hrest, rfl⟩

theorem openInputs_some_ok {hdr : CanonFileHeader} {inputs : List Input}
    {res : List Cursor × CanonFileHeader} (h : openInputs (some hdr) inputs = .ok res) :
    ∀ input ∈ inputs, input.reader.ok = true ∧ input.reader.header.venueId = hdr.venueId := by
  induction inputs generalizing res with
  | nil => intro input hi; exact absurd hi (by simp)
  | cons input inputs ih =>
    obtain ⟨hok, hvenue, rest, hrest, -⟩ := openInputs_cons_ok.mp h
    intro other hother
    rcases List.mem_cons.mp hother with rfl | hother
    · exact ⟨hok, hvenue⟩
    · exact ih hrest other hother

/-- The tool goes on to the output exactly when the inputs can be merged. -/
theorem openInputs_ok_iff {inputs : List Input} :
    (∃ res, openInputs none inputs = .ok res) ↔ Mergeable inputs := by
  cases inputs with
  | nil => exact ⟨fun _ => ⟨by simp, by simp⟩, fun _ => ⟨_, rfl⟩⟩
  | cons input inputs =>
    constructor
    · rintro ⟨res, h⟩
      obtain ⟨hok, -, rest, hrest, -⟩ := openInputs_cons_ok.mp h
      have hall := openInputs_some_ok hrest
      have hvenue : ∀ other ∈ input :: inputs,
          other.reader.header.venueId = input.reader.header.venueId := by
        intro other hother
        rcases List.mem_cons.mp hother with rfl | hother
        · rfl
        · exact (hall other hother).2
      refine ⟨fun other hother => ?_, fun a ha b hb => (hvenue a ha).trans (hvenue b hb).symm⟩
      rcases List.mem_cons.mp hother with rfl | hother
      · exact hok
      · exact (hall other hother).1
    · rintro ⟨hok, hvenue⟩
      have hall : ∀ other ∈ inputs, other.reader.ok = true ∧
          other.reader.header.venueId = input.reader.header.venueId := fun other hother =>
        ⟨hok other (List.mem_cons_of_mem _ hother),
          hvenue other (List.mem_cons_of_mem _ hother) input List.mem_cons_self⟩
      have hrest := openInputs_some hall
      exact ⟨_, openInputs_cons_ok.mpr ⟨hok input List.mem_cons_self, rfl, _, hrest, rfl⟩⟩

theorem openInputs_cursors {first : Option CanonFileHeader} {inputs : List Input}
    {res : List Cursor × CanonFileHeader} (h : openInputs first inputs = .ok res) :
    res.1.map Cursor.pending = inputs.map (·.reader.records) := by
  induction inputs generalizing first res with
  | nil => cases h; rfl
  | cons input inputs ih =>
    obtain ⟨-, -, rest, hrest, rfl⟩ := openInputs_cons_ok.mp h
    rw [List.map_cons, List.map_cons, ih hrest, Cursor.pending_prime]

theorem length_flatten_records_le (inputs : List Input) :
    (inputs.map (·.reader.records)).flatten.length < turns inputs := by
  unfold turns
  refine Nat.lt_succ_of_le ?_
  induction inputs with
  | nil => exact Nat.le_refl 0
  | cons input inputs ih =>
    have hread : input.reader.records.length ≤ (input.file.getD []).length := by
      exact Nat.le_trans (CanonReader.length_records_le input.reader)
        (CanonReader.length_rest_ofFile_le input.file)
    rw [List.map_cons, List.flatten_cons, List.length_append, List.map_cons, List.sum_cons]
    exact Nat.add_le_add hread ih

end Merge

/-! ## The output -/

section

open Merge KWayMerge

variable {args : Args} {inputs : List Input}

variable (args) in
/-- The tool as a whole: refused inputs, or a file that holds the merge of their records. -/
theorem mergeMain_merges (hinputs : Mergeable inputs) :
    ∃ hdr out, mergeMain args inputs (some {}) = .ok (some (image hdr (out.map Prod.snd))) ∧
      CanonReader.validHeader hdr = true ∧
      Merges tsKey (inputs.map (·.reader.records)) out ∧
      ∀ rec ∈ out.map Prod.snd, rec.Fits := by
  obtain ⟨⟨cursors, first⟩, hopen⟩ := openInputs_ok_iff.mpr hinputs
  have hcursors : cursors.map Cursor.pending = inputs.map (·.reader.records) :=
    openInputs_cursors hopen
  obtain ⟨hok, hwritten⟩ := written_openFile (args.config first)
  have hfits : ∀ l ∈ inputs.map (·.reader.records), ∀ rec ∈ l, rec.Fits := by
    intro l hl rec hrec
    obtain ⟨input, -, rfl⟩ := List.mem_map.mp hl
    exact CanonReader.fits_of_mem_records hrec
  let start : State := { cursors, writer := ((ofConfig (args.config first)).openFile (some {})).2 }
  have hpending : start.cursors.map Cursor.pending = inputs.map (·.reader.records) := hcursors
  obtain ⟨st, out, hloop, hmerges, hdone⟩ :
      ∃ st out, loop (turns inputs) start = some st ∧
        Merges tsKey (start.cursors.map Cursor.pending) out ∧
        Written _ st.writer ([] ++ out.map Prod.snd) :=
    loop_merges (by rw [hpending]; exact length_flatten_records_le inputs)
      (by rw [hpending]; exact hfits) hwritten
  rw [hpending] at hmerges
  refine ⟨_, out, ?_, validHeader_header (args.config first), hmerges, fun rec hrec => ?_⟩
  · unfold mergeMain
    have hwriter : (ofConfig (args.config first)).openFile (some {})
        = (true, ((ofConfig (args.config first)).openFile (some {})).2) := Prod.ext hok rfl
    simp only [hopen]
    rw [hwriter]
    dsimp only
    rw [show loop (turns inputs)
      { cursors, writer := ((ofConfig (args.config first)).openFile (some {})).2 } = some st from hloop,
      Option.bind_some]
    exact congrArg Except.ok hdone.flush.close
  · obtain ⟨l, hl, hmem⟩ := List.mem_flatten.mp (hmerges.perm.mem_iff.mp hrec)
    exact hfits l hl rec hmem

theorem mergeMain_ok_iff :
    (∃ file, mergeMain args inputs (some {}) = .ok (some file)) ↔ Mergeable inputs := by
  constructor
  · rintro ⟨file, h⟩
    refine openInputs_ok_iff.mp ?_
    unfold mergeMain at h
    cases hopen : openInputs none inputs with
    | error e => simp [hopen] at h
    | ok res => exact ⟨res, rfl⟩
  · intro h
    obtain ⟨hdr, out, hfile, -⟩ := mergeMain_merges args h
    exact ⟨_, hfile⟩

/-- The output holds the records of all inputs and no others, each input's in its order; of sorted
inputs it is the stable merge. -/
theorem mergeMain_stable (args : Args) (inputs : List Input) :
    ((∃ file, mergeMain args inputs (some {}) = .ok (some file)) ↔ Mergeable inputs) ∧
    ∀ file, mergeMain args inputs (some {}) = .ok (some file) →
      ∃ out : List (Nat × CanonRecord),
        (CanonReader.ofFile (some file)).Reads (out.map Prod.snd) ∧
        (out.map Prod.snd).Perm (inputs.flatMap (·.reader.records)) ∧
        (∀ i, (out.filter (·.1 = i)).map Prod.snd
          = (inputs[i]?.map (·.reader.records)).getD []) ∧
        ((∀ input ∈ inputs, input.reader.records.Pairwise (·.tsNs ≤ ·.tsNs)) →
          out.Pairwise fun p q => p.2.tsNs < q.2.tsNs ∨ p.2.tsNs = q.2.tsNs ∧ p.1 ≤ q.1) := by
  refine ⟨mergeMain_ok_iff, fun file hfile => ?_⟩
  obtain ⟨hdr, out, hfile', hvalid, hmerges, hfits⟩ :=
    mergeMain_merges args (mergeMain_ok_iff.mp ⟨file, hfile⟩)
  obtain rfl : file = image hdr (out.map Prod.snd) := by
    rw [hfile] at hfile'
    simpa using hfile'
  refine ⟨out, (CanonReader.reads_image hvalid hfits).2.2, ?_, fun i => ?_, fun hsorted => ?_⟩
  · exact hmerges.perm
  · rw [hmerges.filter i, List.getElem?_map]
  · refine (hmerges.sorted ?_).imp fun {p q} h => ?_
    · intro l hl
      obtain ⟨input, hinput, rfl⟩ := List.mem_map.mp hl
      exact (hsorted input hinput).imp fun h => UInt64.le_iff_toNat_le.mp h
    · rcases h with hlt | ⟨heq, hle⟩
      · exact Or.inl (UInt64.lt_iff_toNat_lt.mpr hlt)
      · exact Or.inr ⟨UInt64.toNat_inj.mp heq, hle⟩

/-- Two files with a timestamp in common. -/
theorem mergeMain_stable_two :
    let hdr := (Config.header {})
    let a : List CanonRecord := [⟨1, .BBO, [7]⟩, ⟨3, .BBO, []⟩]
    let b : List CanonRecord := [⟨3, .TRADE, [8, 9]⟩]
    ∃ file, mergeMain ⟨"out", [], []⟩ [⟨"a", some (image hdr a)⟩, ⟨"b", some (image hdr b)⟩] (some {})
        = .ok (some file) ∧
      ∃ out : List (Nat × CanonRecord), (CanonReader.ofFile (some file)).Reads (out.map Prod.snd) := by
  intro hdr a b
  have ha := @CanonReader.reads_image hdr a (validHeader_header {}) (by decide)
  have hb := @CanonReader.reads_image hdr b (validHeader_header {}) (by decide)
  have hsame : ∀ input ∈ [Input.mk "a" (some (image hdr a)), Input.mk "b" (some (image hdr b))],
      input.reader.ok = true ∧ input.reader.header = hdr := by
    intro input hi
    simp only [List.mem_cons, List.not_mem_nil, or_false] at hi
    rcases hi with rfl | rfl
    · exact ⟨ha.1, ha.2.1⟩
    · exact ⟨hb.1, hb.2.1⟩
  obtain ⟨hok, hout⟩ := mergeMain_stable ⟨"out", [], []⟩
    [⟨"a", some (image hdr a)⟩, ⟨"b", some (image hdr b)⟩]
  obtain ⟨file, hfile⟩ := hok.mpr ⟨fun input hi => (hsame input hi).1, fun input hi other ho => by
    rw [(hsame input hi).2, (hsame other ho).2]⟩
  obtain ⟨out, hreads, -⟩ := hout file hfile
  exact ⟨file, hfile, out, hreads⟩

end

end BptCore.Canon
