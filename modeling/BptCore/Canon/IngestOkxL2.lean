import BptCore.Common.Book.OrderBookState
import BptCore.Lib.Machine
import BptCore.Lib.Table
import BptCore.MdGateway.Md.MdTypes

/-!
# Ingesting OKX order book history

The tool reads a file of lines, each a snapshot or an update of one instrument, folds them into a
book and writes the best levels after each line. A line is modelled by what the JSON reader finds in
it: a field is `none` when it is absent or not of the type read.

A history file interleaves the lines of several instruments. The events of an instrument are to
show the book that its own lines fold to. The tool folds all lines into one book, so an update is
right only if the levels that it leaves alone are those of its instrument.

* **`IngestOkxL2.Config`** — the command line, with a depth that the published books have room for.
* **`IngestOkxL2.readLine`** — the checks of a line, in the order in which they are made.
* **`IngestOkxL2.step`** — one line: the book of the tool, and the events written.
* **`IngestRun`** — the tool with the merged book of every instrument.
* **`ownContents`** — the events that an instrument's own lines call for.
* **`SeesOwnLevels`** — the book before an update differs from the instrument's at most where the
  update sets a level.
* **`book_events_of_own_lines`** — with that, events and books are those of the own lines.
-/

namespace BptCore.Canon

open BptCore.Book BptCore.MdGateway

/-- An element of a level: `none` when it is no string, `some none` for a string without a number. -/
abbrev L2Field := Option (Option ℚ)

/-- A level that is not an array is `none`. `ts` is 0 for a string without a number. -/
structure L2Line where
  instId : Option String := none
  action : Option String := none
  ts : Option Nat := none
  asks : Option (List (Option (List L2Field))) := none
  bids : Option (List (Option (List L2Field))) := none
  deriving DecidableEq

/-- What is left of a line once it was read: levels are (price, size). -/
structure L2Frame where
  instrumentId : Nat
  tsNs : Nat
  isSnapshot : Bool
  asks : List (ℚ × ℚ)
  bids : List (ℚ × ℚ)
  deriving DecidableEq

/-- A canon event before it is encoded. -/
inductive L2Content where
  | bbo (b : MdBbo)
  | book (b : MdOrderBook)
  deriving DecidableEq

def L2Content.instrumentId : L2Content → Nat
  | .bbo b => b.instrumentId
  | .book b => b.instrumentId

/-- An event with its number among the events of its kind in the file. -/
structure L2Event where
  seqNum : Nat
  content : L2Content
  deriving DecidableEq

namespace IngestOkxL2

/-! ## The book -/

/-- `BookState`: the levels of either side, best first. -/
abbrev BookState := MergedBook ℚ ℚ

/-- Price and size, 0 by default. A level with something else than strings in front is skipped. -/
def readLevel (lvl : List L2Field) : Option (ℚ × ℚ) :=
  if (lvl.take 3).any (·.isNone) then none
  else some ((lvl[0]?.join.join).getD 0, (lvl[1]?.join.join).getD 0)

def readLevels (arr : Option (List (Option (List L2Field)))) : List (ℚ × ℚ) :=
  (arr.getD []).filterMap fun lvl => lvl.bind readLevel

def applyLevel {c : Compare} (side : SideMap ℚ ℚ c) (lvl : ℚ × ℚ) : SideMap ℚ ℚ c :=
  if lvl.1 ≤ 0 then side
  else if lvl.2 ≤ 0 then side.erase lvl.1
  else side.insert lvl.1 lvl.2

def applyUpdateArray {c : Compare} (side : SideMap ℚ ℚ c) (lvls : List (ℚ × ℚ)) :
    SideMap ℚ ℚ c :=
  lvls.foldl applyLevel side

/-- A line folded into the book. A snapshot clears both sides first. -/
def applyFrame (book : BookState) (f : L2Frame) : BookState :=
  { asks := applyUpdateArray (if f.isSnapshot then ∅ else book.asks) f.asks
    bids := applyUpdateArray (if f.isSnapshot then ∅ else book.bids) f.bids }

/-! ## The tool -/

/-- The command line, and the canonical ids of the instruments of the mapping. -/
structure Config where
  symToId : Table String Nat
  depthLimit : Nat
  emitBbo : Bool
  emitBook : Bool
  depth_le : depthLimit ≤ kMaxBookLevels

/-- A depth beyond what a book has room for is refused. -/
def configOf (symToId : Table String Nat) (depthLimit : Nat) (emitBbo emitBook : Bool) :
    Except String Config :=
  if h : depthLimit > kMaxBookLevels then
    .error ("fatal: --depth " ++ toString depthLimit ++ " > kMaxBookLevels "
      ++ toString kMaxBookLevels ++ "\n")
  else .ok { symToId, depthLimit, emitBbo, emitBook, depth_le := Nat.le_of_not_gt h }

/-- Why a line is skipped. -/
inductive Skip where
  | badLine | unknownInst
  deriving DecidableEq, Repr

variable (cfg : Config)

/-- The checks of a line, `none` for one that is no JSON document. -/
def readLine : Option L2Line → Except Skip L2Frame
  | none => .error .badLine
  | some line =>
    match line.instId with
    | none => .error .badLine
    | some instId =>
      match cfg.symToId.lookup instId with
      | none => .error .unknownInst
      | some instrumentId =>
        match line.action, line.ts with
        | some action, some tsMs => .ok
            { instrumentId := instrumentId, tsNs := tsMs * 1000000 % 2 ^ 64
              isSnapshot := action == "snapshot"
              asks := readLevels line.asks, bids := readLevels line.bids }
        | _, _ => .error .badLine

/-- The loop that copies levels until there are `depthLimit` of them. -/
def topLevels {c : Compare} (side : SideMap ℚ ℚ c) : Levels :=
  ⟨side.toList.take cfg.depthLimit,
    Nat.le_trans (List.length_take_le _ _) cfg.depth_le⟩

def bboOf (book : BookState) (f : L2Frame) : MdBbo :=
  let bid := book.bids.toList.headD (0, 0)
  let ask := book.asks.toList.headD (0, 0)
  { timestampNs := f.tsNs, instrumentId := f.instrumentId
    bidPrice := bid.1, bidQty := bid.2, askPrice := ask.1, askQty := ask.2 }

def bookOf (book : BookState) (f : L2Frame) : MdOrderBook :=
  { timestampNs := f.tsNs, instrumentId := f.instrumentId
    bids := topLevels cfg book.bids, asks := topLevels cfg book.asks }

structure State where
  book : BookState := {}
  lineCount : Nat := 0
  snapshots : Nat := 0
  updates : Nat := 0
  skippedUnknownInst : Nat := 0
  bboEmitted : Nat := 0
  bookEmitted : Nat := 0
  badLine : Nat := 0

/-- The events after a line, none when no side has a level. -/
def emit (s : State) (f : L2Frame) : State × List L2Event :=
  if s.book.asks.toList = [] ∧ s.book.bids.toList = [] then (s, [])
  else
    ({ s with
        bboEmitted := if cfg.emitBbo then s.bboEmitted + 1 else s.bboEmitted
        bookEmitted := if cfg.emitBook then s.bookEmitted + 1 else s.bookEmitted },
      (if cfg.emitBbo then [⟨s.bboEmitted + 1, .bbo (bboOf s.book f)⟩] else []) ++
        (if cfg.emitBook then [⟨s.bookEmitted + 1, .book (bookOf cfg s.book f)⟩] else []))

/-- A line of the file. -/
def step (s : State) (line : Option L2Line) : State × List L2Event :=
  let s := { s with lineCount := s.lineCount + 1 }
  match readLine cfg line with
  | .error .badLine => ({ s with badLine := s.badLine + 1 }, [])
  | .error .unknownInst => ({ s with skippedUnknownInst := s.skippedUnknownInst + 1 }, [])
  | .ok f =>
    emit cfg
      { s with
        book := applyFrame s.book f
        snapshots := if f.isSnapshot then s.snapshots + 1 else s.snapshots
        updates := if f.isSnapshot then s.updates else s.updates + 1 } f

end IngestOkxL2

/-! ## The books of the instruments -/

open BptCore.Book BptCore.MdGateway

namespace IngestOkxL2

/-! ## Books with the same levels -/

def SameBook (a b : MergedBook ℚ ℚ) : Prop :=
  (∀ p : ℚ, a.bids[p]? = b.bids[p]?) ∧ ∀ p : ℚ, a.asks[p]? = b.asks[p]?

theorem SameBook.refl (a : MergedBook ℚ ℚ) : SameBook a a := ⟨fun _ => rfl, fun _ => rfl⟩

theorem toList_eq {c : Compare} {a b : SideMap ℚ ℚ c} (h : ∀ p : ℚ, a[p]? = b[p]?) :
    a.toList = b.toList := by
  refine (SortedEntries.ordered_toList a).eq_of_lookup_eq (SortedEntries.ordered_toList b) ?_
  intro p
  rw [SortedEntries.lookup_toList, SortedEntries.lookup_toList, h p]

/-- Two sides agree after the same levels exactly when they agree on the prices that were not set. -/
theorem mergeLevels_agree_iff {c : Compare} {a b : SideMap ℚ ℚ c} (lvls : List (ℚ × Option ℚ)) :
    (∀ p : ℚ, (mergeLevels a lvls)[p]? = (mergeLevels b lvls)[p]?) ↔
      ∀ p : ℚ, p ∉ lvls.map Prod.fst → a[p]? = b[p]? := by
  induction lvls generalizing a b with
  | nil => simp [mergeLevels]
  | cons lvl lvls ih =>
    show (∀ p : ℚ, (mergeLevels (mergeLevel a lvl) lvls)[p]?
      = (mergeLevels (mergeLevel b lvl) lvls)[p]?) ↔ _
    rw [ih]
    refine forall_congr' fun p => ?_
    rw [getElem?_mergeLevel, getElem?_mergeLevel, List.map_cons, List.mem_cons, not_or]
    by_cases hp : p = lvl.1
    · simp [hp]
    · simp [hp]

/-- A line as a delta: prices that are not positive are skipped, sizes that are not remove. -/
def changes (lvls : List (ℚ × ℚ)) : List (ℚ × Option ℚ) :=
  lvls.filterMap fun lvl =>
    if lvl.1 ≤ 0 then none else some (lvl.1, if lvl.2 ≤ 0 then none else some lvl.2)

def deltaOf (f : L2Frame) : BookDelta ℚ ℚ where
  isSnapshot := f.isSnapshot
  bids := changes f.bids
  asks := changes f.asks

theorem applyUpdateArray_eq {c : Compare} (side : SideMap ℚ ℚ c) (lvls : List (ℚ × ℚ)) :
    applyUpdateArray side lvls = mergeLevels side (changes lvls) := by
  induction lvls generalizing side with
  | nil => rfl
  | cons lvl lvls ih =>
    show applyUpdateArray (applyLevel side lvl) lvls = _
    rw [ih]
    unfold applyLevel changes
    rw [List.filterMap_cons]
    by_cases hprice : lvl.1 ≤ 0
    · simp [hprice]
    · by_cases hsize : lvl.2 ≤ 0
      · simp [hprice, hsize, mergeLevels, mergeLevel]
      · simp [hprice, hsize, mergeLevels, mergeLevel]

/-- The tool folds a line as the merged book does. -/
theorem applyFrame_eq (book : BookState) (f : L2Frame) :
    applyFrame book f = book.apply (deltaOf f) := by
  unfold applyFrame MergedBook.apply
  rw [applyUpdateArray_eq, applyUpdateArray_eq]
  rfl

/-- Two books agree on all levels that a line does not set. -/
def AgreeOff (f : L2Frame) (a b : MergedBook ℚ ℚ) : Prop :=
  (∀ p : ℚ, p ∉ (changes f.bids).map Prod.fst → a.bids[p]? = b.bids[p]?) ∧
    ∀ p : ℚ, p ∉ (changes f.asks).map Prod.fst → a.asks[p]? = b.asks[p]?

theorem sameBook_apply_iff (f : L2Frame) (a b : MergedBook ℚ ℚ) :
    SameBook (a.apply (deltaOf f)) (b.apply (deltaOf f)) ↔ f.isSnapshot = true ∨ AgreeOff f a b := by
  unfold MergedBook.apply deltaOf
  cases f.isSnapshot with
  | true => exact iff_of_true (SameBook.refl _) (Or.inl rfl)
  | false =>
    simp only [Bool.false_eq_true, if_false, false_or]
    exact and_congr (mergeLevels_agree_iff _) (mergeLevels_agree_iff _)

/-! ## The events -/

variable (cfg : Config)

/-- The contents of the events for a book: its best bid and ask, and its best levels. -/
def contentsOf (f : L2Frame) (book : MergedBook ℚ ℚ) : List L2Content :=
  if book.asks.toList = [] ∧ book.bids.toList = [] then []
  else
    (if cfg.emitBbo then [.bbo (bboOf book f)] else []) ++
      (if cfg.emitBook then [.book (bookOf cfg book f)] else [])

theorem contentsOf_congr {f : L2Frame} {a b : MergedBook ℚ ℚ} (h : SameBook a b) :
    contentsOf cfg f a = contentsOf cfg f b := by
  have hbids := toList_eq h.1
  have hasks := toList_eq h.2
  unfold contentsOf bboOf bookOf topLevels
  simp only [hbids, hasks]

theorem contentsOf_instrumentId {f : L2Frame} {book : MergedBook ℚ ℚ} {c : L2Content}
    (h : c ∈ contentsOf cfg f book) : c.instrumentId = f.instrumentId := by
  unfold contentsOf at h
  split at h
  · exact absurd h (by simp)
  · rcases List.mem_append.mp h with h | h
    · split at h
      · rw [List.mem_singleton.mp h]; rfl
      · exact absurd h (by simp)
    · split at h
      · rw [List.mem_singleton.mp h]; rfl
      · exact absurd h (by simp)

theorem map_content_emit (s : State) (f : L2Frame) :
    (emit cfg s f).2.map (·.content) = contentsOf cfg f s.book := by
  unfold emit contentsOf
  split
  · rfl
  · cases cfg.emitBbo <;> cases cfg.emitBook <;> rfl

theorem book_emit (s : State) (f : L2Frame) : (emit cfg s f).1.book = s.book := by
  unfold emit
  split <;> rfl

/-- The events of instrument `id` that its own lines call for, from its book `fold` on. -/
def ownContents (id : Nat) : MergedBook ℚ ℚ → List (Option L2Line) → List L2Content
  | _, [] => []
  | fold, line :: lines =>
    match readLine cfg line with
    | .error _ => ownContents id fold lines
    | .ok f =>
      if f.instrumentId = id then
        contentsOf cfg f (fold.apply (deltaOf f)) ++
          ownContents id (fold.apply (deltaOf f)) lines
      else ownContents id fold lines

/-- A line of instrument `id`. -/
def isOwn (id : Nat) (line : Option L2Line) : Bool :=
  match readLine cfg line with
  | .error _ => false
  | .ok f => f.instrumentId == id

theorem ownContents_filter (id : Nat) (fold : MergedBook ℚ ℚ) (lines : List (Option L2Line)) :
    ownContents cfg id fold (lines.filter (isOwn cfg id)) = ownContents cfg id fold lines := by
  induction lines generalizing fold with
  | nil => rfl
  | cons line lines ih =>
    rw [List.filter_cons]
    cases hread : readLine cfg line with
    | error e => simp [isOwn, hread, ownContents, ih]
    | ok f =>
      by_cases hown : f.instrumentId = id
      · simp [isOwn, hread, ownContents, hown, ih]
      · simp [isOwn, hread, ownContents, hown, ih]

end IngestOkxL2

/-! ## The run -/

/-- The tool, with the merged book of every instrument. -/
structure IngestRun where
  tool : IngestOkxL2.State := {}
  folds : Table Nat (MergedBook ℚ ℚ) := ∅

namespace IngestRun

open IngestOkxL2

variable (cfg : Config) (s : IngestRun)

def foldOf (id : Nat) : MergedBook ℚ ℚ := (s.folds.lookup id).getD {}

def foldsAfter (line : Option L2Line) : Table Nat (MergedBook ℚ ℚ) :=
  match readLine cfg line with
  | .error _ => s.folds
  | .ok f => s.folds.insert f.instrumentId ((s.foldOf f.instrumentId).apply (deltaOf f))

def step (s : IngestRun) (line : Option L2Line) : IngestRun × List L2Event :=
  let (tool, out) := IngestOkxL2.step cfg s.tool line
  ({ tool := tool, folds := s.foldsAfter cfg line }, out)

/-- After the line the book of the tool is the one of the line's instrument. -/
def ShowsOwnBook (s : IngestRun) (line : Option L2Line) : Prop :=
  match readLine cfg line with
  | .error _ => True
  | .ok f => SameBook (step cfg s line).1.tool.book ((step cfg s line).1.foldOf f.instrumentId)

/-- A snapshot, or an update that sets all levels in which the book of the tool differs from the
one of the line's instrument. -/
def SeesOwnLevels (s : IngestRun) (line : Option L2Line) : Prop :=
  match readLine cfg line with
  | .error _ => True
  | .ok f => f.isSnapshot = true ∨ AgreeOff f s.tool.book (s.foldOf f.instrumentId)

variable {cfg s}

theorem foldOf_step {line : Option L2Line} {f : L2Frame} (hread : readLine cfg line = .ok f)
    (id : Nat) :
    (step cfg s line).1.foldOf id =
      if id = f.instrumentId then (s.foldOf id).apply (deltaOf f) else s.foldOf id := by
  show (((s.foldsAfter cfg line).lookup id).getD {}) = _
  unfold foldsAfter
  rw [hread]
  simp only [Table.lookup_insert_eq]
  split
  · next heq => rw [heq]; rfl
  · rfl

theorem foldOf_step_error {line : Option L2Line} {e : Skip} (hread : readLine cfg line = .error e)
    (id : Nat) : (step cfg s line).1.foldOf id = s.foldOf id := by
  show (((s.foldsAfter cfg line).lookup id).getD {}) = _
  unfold foldsAfter
  rw [hread]
  rfl

theorem book_step {line : Option L2Line} {f : L2Frame} (hread : readLine cfg line = .ok f) :
    (step cfg s line).1.tool.book = s.tool.book.apply (deltaOf f) := by
  show (IngestOkxL2.step cfg s.tool line).1.book = _
  unfold IngestOkxL2.step
  simp only [hread, book_emit]
  exact applyFrame_eq _ f

theorem contents_step {line : Option L2Line} {f : L2Frame} (hread : readLine cfg line = .ok f) :
    (step cfg s line).2.map (·.content) = contentsOf cfg f (s.tool.book.apply (deltaOf f)) := by
  show (IngestOkxL2.step cfg s.tool line).2.map (·.content) = _
  unfold IngestOkxL2.step
  simp only [hread, map_content_emit]
  rw [applyFrame_eq]

theorem contents_step_error {line : Option L2Line} {e : Skip}
    (hread : readLine cfg line = .error e) :
    (step cfg s line).2 = [] ∧ (step cfg s line).1.tool.book = s.tool.book := by
  show (IngestOkxL2.step cfg s.tool line).2 = [] ∧ (IngestOkxL2.step cfg s.tool line).1.book = _
  unfold IngestOkxL2.step
  rw [hread]
  cases e <;> exact ⟨rfl, rfl⟩

/-- A line leaves the tool with the book of its instrument exactly when it saw its levels. -/
theorem showsOwnBook_iff (line : Option L2Line) :
    s.ShowsOwnBook cfg line ↔ s.SeesOwnLevels cfg line := by
  unfold ShowsOwnBook SeesOwnLevels
  cases hread : readLine cfg line with
  | error e => exact Iff.rfl
  | ok f =>
    simp only [book_step hread, foldOf_step hread]
    exact sameBook_apply_iff f _ _

/-! ## A whole file -/

/-- The events of instrument `id`, without their numbers in the file. -/
def eventsOf (id : Nat) (out : List L2Event) : List L2Content :=
  (out.map (·.content)).filter (·.instrumentId = id)

theorem eventsOf_contents {f : L2Frame} {out : List L2Event} {book : MergedBook ℚ ℚ}
    (hout : out.map (·.content) = contentsOf cfg f book) (id : Nat) :
    eventsOf id out = if f.instrumentId = id then contentsOf cfg f book else [] := by
  unfold eventsOf
  rw [hout]
  split
  · next heq =>
    refine List.filter_eq_self.mpr fun c hc => ?_
    rw [contentsOf_instrumentId cfg hc, heq]
    exact decide_eq_true rfl
  · next hne =>
    refine List.filter_eq_nil_iff.mpr fun c hc => ?_
    rw [contentsOf_instrumentId cfg hc]
    simpa using hne

/-- Line by line, as the book of the tool is the right one after each. -/
theorem eventsOf_outputs {lines : List (Option L2Line)}
    (h : Machine.AlongRun (step cfg) (SeesOwnLevels cfg) s lines) (id : Nat) :
    eventsOf id (Machine.outputs (step cfg) s lines)
      = ownContents cfg id (s.foldOf id) lines := by
  induction lines generalizing s with
  | nil => rfl
  | cons line lines ih =>
    obtain ⟨hline, hrest⟩ := h
    have hsplit : eventsOf id (Machine.outputs (step cfg) s (line :: lines))
        = eventsOf id (step cfg s line).2
          ++ eventsOf id (Machine.outputs (step cfg) (step cfg s line).1 lines) := by
      show eventsOf id ((step cfg s line).2 ++ _) = _
      simp [eventsOf]
    rw [hsplit, ih hrest]
    cases hread : readLine cfg line with
    | error e =>
      rw [(contents_step_error hread).1, foldOf_step_error hread]
      simp [eventsOf, ownContents, hread]
    | ok f =>
      have hshows := (showsOwnBook_iff line).mpr hline
      unfold ShowsOwnBook at hshows
      simp only [hread, book_step hread, foldOf_step hread, if_true] at hshows
      rw [eventsOf_contents (contents_step hread), foldOf_step hread]
      simp only [ownContents, hread]
      by_cases hown : f.instrumentId = id
      · subst hown
        rw [if_pos rfl, if_pos rfl, if_pos rfl, contentsOf_congr cfg hshows]
      · rw [if_neg hown, if_neg fun h => hown h.symm, if_neg hown]
        rfl

/-- From line to line the instrument changes at a snapshot only. `last` is the instrument of the
last line that was not skipped. -/
def SwitchesAtSnapshots (cfg : Config) : Option Nat → List (Option L2Line) → Prop
  | _, [] => True
  | last, line :: lines =>
    match readLine cfg line with
    | .error _ => SwitchesAtSnapshots cfg last lines
    | .ok f =>
      (f.isSnapshot = true ∨ last = none ∨ last = some f.instrumentId) ∧
        SwitchesAtSnapshots cfg (some f.instrumentId) lines

instance SwitchesAtSnapshots.decidable (cfg : Config) :
    ∀ (last : Option Nat) (lines : List (Option L2Line)),
      Decidable (SwitchesAtSnapshots cfg last lines)
  | _, [] => isTrue trivial
  | last, line :: lines => by
    unfold SwitchesAtSnapshots
    cases readLine cfg line with
    | error e => exact SwitchesAtSnapshots.decidable cfg last lines
    | ok f =>
      have := SwitchesAtSnapshots.decidable cfg (some f.instrumentId) lines
      exact inferInstanceAs (Decidable (_ ∧ _))

/-- Then each line sees the levels of its instrument. -/
theorem seesOwnLevels_of_switches {lines : List (Option L2Line)} {last : Option Nat}
    (hswitch : SwitchesAtSnapshots cfg last lines)
    (hbook : ∀ id, last = none ∨ last = some id → SameBook s.tool.book (s.foldOf id)) :
    Machine.AlongRun (step cfg) (SeesOwnLevels cfg) s lines := by
  induction lines generalizing s last with
  | nil => trivial
  | cons line lines ih =>
    unfold SwitchesAtSnapshots at hswitch
    cases hread : readLine cfg line with
    | error e =>
      simp only [hread] at hswitch
      refine ⟨by simp [SeesOwnLevels, hread], ih hswitch fun id hid => ?_⟩
      rw [(contents_step_error hread).2, foldOf_step_error hread]
      exact hbook id hid
    | ok f =>
      simp only [hread] at hswitch
      have hsees : s.SeesOwnLevels cfg line := by
        simp only [SeesOwnLevels, hread]
        rcases hswitch.1 with hsnapshot | hlast
        · exact Or.inl hsnapshot
        · have hsame := hbook f.instrumentId hlast
          exact Or.inr ⟨fun p _ => hsame.1 p, fun p _ => hsame.2 p⟩
      refine ⟨hsees, ih hswitch.2 fun id hid => ?_⟩
      obtain rfl : f.instrumentId = id := by simpa using hid
      have hshows := (showsOwnBook_iff line).mpr hsees
      simpa only [ShowsOwnBook, hread] using hshows

/-! ## The events of a file -/

/-- What the events of every instrument are to be, in a file of any interleaving. -/
def FollowsOwnLines (cfg : Config) (lines : List (Option L2Line)) : Prop :=
  ∀ id, eventsOf id (Machine.outputs (step cfg) {} lines) = ownContents cfg id {} lines

/-- Two instruments, the full depth, both kinds of events. -/
def twoInstruments : Config where
  symToId := (∅ : Table String Nat).insert "BTC-USDT-SWAP" 1 |>.insert "ETH-USDT-SWAP" 2
  depthLimit := kMaxBookLevels
  emitBbo := true
  emitBook := true
  depth_le := Nat.le_refl _

def levels (lvls : List (ℚ × ℚ)) : Option (List (Option (List L2Field))) :=
  some (lvls.map fun lvl => some [some (some lvl.1), some (some lvl.2), some (some 1)])

/-- A snapshot of either instrument, and then an update of the first. -/
def interleaved : List (Option L2Line) :=
  [some { instId := some "BTC-USDT-SWAP", action := some "snapshot", ts := some 1
          asks := levels [(101, 1)], bids := levels [(100, 1)] },
    some { instId := some "ETH-USDT-SWAP", action := some "snapshot", ts := some 2
           asks := levels [(11, 1)], bids := levels [(10, 1)] },
    some { instId := some "BTC-USDT-SWAP", action := some "update", ts := some 3
           asks := levels [], bids := levels [(100, 2)] }]

end IngestRun

end BptCore.Canon
