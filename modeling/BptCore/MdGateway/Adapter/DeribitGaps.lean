import BptCore.Lib.Machine
import BptCore.MdGateway.Adapter.DeribitMdDecoder
import Mathlib.Data.Finset.Basic

/-!
# Gaps in a Deribit stream

A change that does not follow on the last one of its symbol shows that the venue's stream has a
gap: the decoder drops the frame, forgets the symbol's change id and asks for a resubscription.
From then on the book is unknown until a snapshot comes. But with the change id the decoder has
forgotten the gap, too, and takes the next change for the first one of a stream.

* **`GapRun`** — a decoder with, for the record, the symbols that are in a gap.
* **`quiet_publishLevels_iff`** — when the levels of a frame make no book.
* **`quiet_in_gap_iff`** — the decoder is quiet in a gap exactly when no change frame that passes
  the check has a level for either side.
-/

namespace BptCore.MdGateway

/-- What happens to a decoder: frames, a connect, and the commands of the control thread. -/
inductive DeribitEvent where
  | frame (frame : DeribitFrame) (recvNs : Nat)
  | reset
  | subscribe (instrumentId : Nat) (symbol : String) (depth : Nat)
  | unsubscribe (instrumentId : Nat)

structure GapRun where
  decoder : DeribitMdDecoder
  gaps : Finset String := ∅

namespace GapRun

variable (s : GapRun)

/-- A detected gap opens, a processed snapshot closes it. -/
def gapsAfter (frame : DeribitFrame) : Finset String :=
  match DeribitMdDecoder.bookOf frame with
  | none => s.gaps
  | some (symbol, data) =>
    if s.decoder.subs.findId symbol = 0 then s.gaps
    else if s.decoder.gapAt symbol data then insert symbol s.gaps
    else if data.type = some "snapshot" then s.gaps.erase symbol
    else s.gaps

def step (s : GapRun) : DeribitEvent → GapRun × List MdOutput
  | .frame frame recvNs =>
    let (decoder, out) := s.decoder.decode frame recvNs
    ({ decoder := decoder, gaps := s.gapsAfter frame }, out)
  | .reset => ({ s with decoder := s.decoder.reset }, [])
  | .subscribe instrumentId symbol depth =>
    ({ s with
        decoder := { s.decoder with
          subs := s.decoder.subs.subscribe instrumentId symbol depth } }, [])
  | .unsubscribe instrumentId =>
    let (subs, symbol) := s.decoder.subs.unsubscribe instrumentId
    let decoder := { s.decoder with subs := subs }
    ({ s with decoder := if symbol = "" then decoder else decoder.forget symbol }, [])

/-- The frame may be published: it is of a symbol that is not in a gap, or a snapshot. -/
def Open (frame : DeribitFrame) : Prop :=
  match DeribitMdDecoder.bookOf frame with
  | none => False
  | some (symbol, data) => symbol ∉ s.gaps ∨ data.type = some "snapshot"

instance (frame : DeribitFrame) : Decidable (s.Open frame) := by
  unfold Open
  split <;> infer_instance

/-- Only such a frame makes the decoder publish a book. -/
def QuietInGap (s : GapRun) (e : DeribitEvent) : Prop :=
  MdOutput.Quiet (step s e).2 ∨
    match e with
    | .frame frame _ => s.Open frame
    | _ => False

instance (e : DeribitEvent) : Decidable (s.QuietInGap e) := by
  unfold QuietInGap
  cases e <;> infer_instance

/-- The frame lacks a side, or sets no level of one, within the room of the message. -/
def LacksSide (n : Nat) (data : DeribitObject) : Prop :=
  let isSnapshot := data.type == some "snapshot"
  match data.bids with
  | none => True
  | some bidsArr =>
    (listed n isSnapshot bidsArr).length ≤ kMaxBookLevels ∧
      match data.asks with
      | none => True
      | some asksArr =>
        (listed n isSnapshot asksArr).length ≤ kMaxBookLevels ∧
          (listed n isSnapshot bidsArr = [] ∨ listed n isSnapshot asksArr = [])

/-- A change frame of a subscribed symbol in a gap shows another gap, or lacks a side. -/
def NothingInGap (s : GapRun) : DeribitEvent → Prop
  | .frame frame _ =>
    match DeribitMdDecoder.bookOf frame with
    | none => True
    | some (symbol, data) =>
      symbol ∈ s.gaps → data.type ≠ some "snapshot" → s.decoder.subs.findId symbol ≠ 0 →
        s.decoder.gapAt symbol data = true ∨
          LacksSide (DeribitMdDecoder.maxLevels
            (s.decoder.subs.findDepth (s.decoder.subs.findId symbol))) data
  | _ => True

/-! ## One frame -/

theorem quiet_publishLevels_iff (recvNs instrumentId n : Nat) (data : DeribitObject) :
    MdOutput.Quiet (DeribitMdDecoder.publishLevels recvNs instrumentId n data) ↔
      LacksSide n data := by
  have hoverflow : ¬ MdOutput.Quiet [.overflow] := by decide
  unfold DeribitMdDecoder.publishLevels LacksSide
  cases data.bids with
  | none => exact iff_of_true MdOutput.quiet_nil trivial
  | some bidsArr =>
    simp only [parseLevels_empty]
    cases hb : (InlineVec.ofList? (listed n (data.type == some "snapshot") bidsArr) :
        Option Levels) with
    | none =>
      have hlong := InlineVec.ofList?_eq_none_iff.mp hb
      exact iff_of_false hoverflow fun h => absurd h.1 (Nat.not_le.mpr hlong)
    | some bids =>
      have hbids := InlineVec.ofList?_eq_some_iff.mp hb
      rw [← hbids]
      simp only [bids.fits, true_and]
      cases data.asks with
      | none => exact iff_of_true MdOutput.quiet_nil trivial
      | some asksArr =>
        simp only []
        cases ha : (InlineVec.ofList? (listed n (data.type == some "snapshot") asksArr) :
            Option Levels) with
        | none =>
          have hlong := InlineVec.ofList?_eq_none_iff.mp ha
          exact iff_of_false hoverflow fun h => absurd h.1 (Nat.not_le.mpr hlong)
        | some asks =>
          have hasks := InlineVec.ofList?_eq_some_iff.mp ha
          rw [← hasks]
          simp only [asks.fits, true_and]
          by_cases hboth : bids.data ≠ [] ∧ asks.data ≠ []
          · rw [if_pos hboth]
            exact iff_of_false (MdOutput.not_quiet_bookAndBbo _ _ _ _)
              fun h => h.elim hboth.1 hboth.2
          · rw [if_neg hboth]
            refine iff_of_true MdOutput.quiet_nil ?_
            by_contra hsides
            exact hboth (not_or.mp hsides)

theorem quietInGap_frame_iff (frame : DeribitFrame) (recvNs : Nat) :
    s.QuietInGap (.frame frame recvNs) ↔ s.NothingInGap (.frame frame recvNs) := by
  cases hbook : DeribitMdDecoder.bookOf frame with
  | none =>
    simp only [QuietInGap, NothingInGap, Open, hbook, or_false]
    exact iff_of_true (s.decoder.quiet_decode_of_not_book hbook recvNs) trivial
  | some book =>
    obtain ⟨symbol, data⟩ := book
    simp only [QuietInGap, NothingInGap, Open, hbook, step]
    rw [DeribitMdDecoder.decode_of_book s.decoder hbook, or_comm, or_iff_not_imp_left, not_or,
      not_not, and_imp]
    refine imp_congr_right fun hgap => imp_congr_right fun htype => ?_
    by_cases hid : s.decoder.subs.findId symbol = 0
    · rw [if_pos hid]
      exact iff_of_true MdOutput.quiet_nil fun h => absurd hid h
    · rw [if_neg hid, DeribitMdDecoder.handleBook]
      by_cases hagain : s.decoder.gapAt symbol data = true
      · rw [if_pos hagain]
        exact iff_of_true MdOutput.quiet_nil fun _ => .inl hagain
      · rw [if_neg hagain, quiet_publishLevels_iff]
        simp [hid, hagain]

/-- **When a gap stays quiet.** From a detected gap of a symbol to its next snapshot no change of
it makes an order book, exactly when every such change shows another gap or lacks a side. -/
theorem quiet_in_gap_iff (d : DeribitMdDecoder) (events : List DeribitEvent) :
    Machine.AlongRun step QuietInGap { decoder := d } events ↔
      Machine.AlongRun step NothingInGap { decoder := d } events := by
  refine Machine.alongRun_congr (J := fun _ => True) (fun _ _ _ => trivial) ?_ trivial events
  intro s e _
  cases e with
  | frame frame recvNs => exact s.quietInGap_frame_iff frame recvNs
  | reset => exact iff_of_true (.inl MdOutput.quiet_nil) trivial
  | subscribe instrumentId symbol depth => exact iff_of_true (.inl MdOutput.quiet_nil) trivial
  | unsubscribe instrumentId => exact iff_of_true (.inl MdOutput.quiet_nil) trivial

/-- The change after the gap is published, whatever it follows on. -/
theorem published_after_gap :
    let book (data : DeribitObject) : DeribitEvent := .frame
      { method := some "subscription"
        params := some
          { channel := some "book.BTC-PERPETUAL.100ms", data := some (.object data) } } 0
    let change (prev id : Nat) : DeribitEvent := book
      { type := some "change", prevChangeId := some prev, changeId := some id
        bids := some [[.text "change", .number 99, .number 5]]
        asks := some [[.text "new", .number 102, .number 7]] }
    let snapshot : DeribitEvent := book
      { type := some "snapshot", changeId := some 10
        bids := some [[.number 100, .number 1]], asks := some [[.number 101, .number 1]] }
    let start : GapRun := { decoder := {} }
    let events : List DeribitEvent :=
      [.subscribe 3001 "BTC-PERPETUAL" 5, snapshot, change 20 21, change 33 34]
    (Machine.exec step start (events.take 3)).gaps = {"BTC-PERPETUAL"} ∧
      (MdOutput.books (Machine.outputs step (Machine.exec step start (events.take 3))
        [change 33 34])).map (fun b => (b.bids.data, b.asks.data)) = [([(99, 5)], [(102, 7)])] ∧
      ¬ Machine.AlongRun step QuietInGap start events := by
  decide +kernel

end GapRun

end BptCore.MdGateway
