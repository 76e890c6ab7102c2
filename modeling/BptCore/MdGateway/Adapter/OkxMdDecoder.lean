import BptCore.MdGateway.Adapter.SubscriptionMap
import BptCore.MdGateway.Md.MdTypes
import BptCore.MdGateway.Md.SortedLadder

/-!
# The OKX market data decoder

An envelope of `arg` and `data`. A frame is modelled by what the JSON reader finds in it: a field
is `none` when it is absent, not of the type read, or a string that is no number.

* **`OkxMdDecoder.decode`** — one frame; its channel is classified by its first letter and by the
  depth of the subscription.
* **`OkxMdDecoder.handleBook`** — a frame merged into the ladders of its instrument, which are then
  published.
* **`decode_of_book`**, **`decode_of_not_book`** — the two kinds of frames.
-/

namespace BptCore.MdGateway

open BptCore.Book

/-- The fields of `data[0]` that the handlers read. A level that is not an array counts as an empty
one: either is skipped. -/
structure OkxEntry where
  bids : Option (List (List (Option ℚ))) := none
  asks : Option (List (List (Option ℚ))) := none
  px : Option ℚ := none
  sz : Option ℚ := none
  side : Option String := none
  fundingRate : Option ℚ := none
  nextFundingTime : Option Nat := none
  deriving DecidableEq

structure OkxFrame where
  event : Option String := none
  /-- `arg.channel` and `arg.instId`. -/
  channel : Option String := none
  instId : Option String := none
  action : Option String := none
  /-- The elements of `data`, `none` for one that is not an object. -/
  data : Option (List (Option OkxEntry)) := none
  deriving DecidableEq

structure OkxMdDecoder where
  subs : SubscriptionMap := {}
  bookState : Table Nat (Ladders ℚ ℚ) := ∅

/-- The channels `books` and `books5` are `Book`, `bbo-tbt` is `Bbo`. -/
inductive OkxChannel where
  | Bbo | Book | Trades | FundingRate
  deriving DecidableEq, Repr

/-- By the first letter, and by the depth for the rest. -/
def classify (channel : String) (depth : Nat) : OkxChannel :=
  if channel.toList.head? = some 't' then .Trades
  else if channel.toList.head? = some 'f' then .FundingRate
  else if depth = 0 then .Bbo
  else .Book

/-- Price and size of a level; a string that is no number leaves a zero. -/
def readLevel : List (Option ℚ) → Option (ℚ × ℚ)
  | px :: qty :: _ => some (px.getD 0, qty.getD 0)
  | _ => none

/-- `static_cast<int32_t>(std::round(rate * 1e6))`, halves away from zero. -/
def roundE6 (rate : ℚ) : Int :=
  if 0 ≤ rate then (rate * 1000000 + 1 / 2).floor else -(-rate * 1000000 + 1 / 2).floor

/-- The first level of a side, when it is there and has two elements. -/
def firstLevel (side : Option (List (List (Option ℚ)))) : Option (ℚ × ℚ) :=
  (side.bind (·.head?)).bind readLevel

namespace OkxMdDecoder

variable (d : OkxMdDecoder)

def handleBbo (entry : OkxEntry) (instrumentId recvNs : Nat) : List MdOutput :=
  match firstLevel entry.bids, firstLevel entry.asks with
  | some (bidPrice, bidQty), some (askPrice, askQty) =>
    [.bbo
      { timestampNs := recvNs, instrumentId := instrumentId, bidPrice := bidPrice
        bidQty := bidQty, askPrice := askPrice, askQty := askQty }]
  | _, _ => []

/-- The levels of the array, applied one after the other. -/
def applySide {c : Compare} (outer : List (List (Option ℚ))) (side : SortedLadder c ℚ ℚ) :
    SortedLadder c ℚ ℚ :=
  side.applyLevels (outer.filterMap readLevel)

/-- The ladders of an instrument, empty ones at its first frame. -/
def stateOf (instrumentId : Nat) : Ladders ℚ ℚ := (d.bookState.lookup instrumentId).getD {}

def store (instrumentId : Nat) (state : Ladders ℚ ℚ) : OkxMdDecoder :=
  { d with bookState := d.bookState.insert instrumentId state }

/-- The best `depth` levels of either ladder, when neither is empty. -/
def publishBook (state : Ladders ℚ ℚ) (instrumentId recvNs depth : Nat) : List MdOutput :=
  if state.bids.data = [] ∨ state.asks.data = [] then []
  else
    match InlineVec.empty.fill depth state.bids.data,
      InlineVec.empty.fill depth state.asks.data with
    | some bids, some asks => MdOutput.bookAndBbo recvNs instrumentId bids asks
    | _, _ => [.overflow]

def handleBook (entry : OkxEntry) (instrumentId recvNs depth : Nat) (isSnapshot : Bool) :
    OkxMdDecoder × List MdOutput :=
  let state := if isSnapshot then {} else d.stateOf instrumentId
  match entry.bids with
  | none => (d.store instrumentId state, [])
  | some outer =>
    let state := { state with bids := applySide outer state.bids }
    match entry.asks with
    | none => (d.store instrumentId state, [])
    | some outer =>
      let state := { state with asks := applySide outer state.asks }
      (d.store instrumentId state, publishBook state instrumentId recvNs depth)

def handleTrades (entry : OkxEntry) (instrumentId recvNs : Nat) : List MdOutput :=
  match entry.px, entry.sz, entry.side with
  | some price, some qty, some side =>
    [.trade
      { timestampNs := recvNs, instrumentId := instrumentId, price := price, qty := qty
        side := if side = "sell" then .SELL else .BUY }]
  | _, _, _ => []

/-- The adapter sets the callback when it is built. -/
def handleFundingRate (entry : OkxEntry) (instrumentId recvNs : Nat) : List MdOutput :=
  [.fundingRate
    { instrumentId := instrumentId, exchangeId := .OKX
      rateBps := roundE6 (entry.fundingRate.getD 0)
      nextFundingTsNs := entry.nextFundingTime.getD 0 * 1000000, collectedTsNs := recvNs }]

/-- A frame without an action counts as a snapshot. -/
def isSnapshot (frame : OkxFrame) : Bool :=
  match frame.action with
  | none => true
  | some action => action == "snapshot"

/-- The channel, the instrument and the entry of a data frame. -/
def dataOf (frame : OkxFrame) : Option (String × String × OkxEntry) :=
  match frame.event with
  | some _ => none
  | none => do
    let channel ← frame.channel
    let instId ← frame.instId
    let data ← frame.data
    let entry ← data.head?.join
    return (channel, instId, entry)

def decode (frame : OkxFrame) (recvNs : Nat) : OkxMdDecoder × List MdOutput :=
  match dataOf frame with
  | none => (d, [])
  | some (channel, instId, entry) =>
    let (instrumentId, depth) := d.subs.find instId
    if instrumentId = 0 then (d, [])
    else
      match classify channel depth with
      | .Bbo => (d, handleBbo entry instrumentId recvNs)
      | .Book => d.handleBook entry instrumentId recvNs depth (isSnapshot frame)
      | .Trades => (d, handleTrades entry instrumentId recvNs)
      | .FundingRate => (d, handleFundingRate entry instrumentId recvNs)

/-! ## The two kinds of frames -/

/-- The symbol, whether the frame is a snapshot, and its entry, for the frames that go to the book
or, without a depth, to the BBO. -/
def bookOf (frame : OkxFrame) : Option (String × Bool × OkxEntry) :=
  match dataOf frame with
  | none => none
  | some (channel, instId, entry) =>
    if channel.toList.head? = some 't' ∨ channel.toList.head? = some 'f' then none
    else some (instId, isSnapshot frame, entry)

theorem decode_of_book {frame : OkxFrame} {instId : String} {snapshot : Bool} {entry : OkxEntry}
    (h : bookOf frame = some (instId, snapshot, entry)) (recvNs : Nat) :
    d.decode frame recvNs =
      if (d.subs.find instId).1 = 0 then (d, [])
      else if (d.subs.find instId).2 = 0 then (d, handleBbo entry (d.subs.find instId).1 recvNs)
      else d.handleBook entry (d.subs.find instId).1 recvNs (d.subs.find instId).2 snapshot := by
  unfold bookOf at h
  cases hdata : dataOf frame with
  | none =>
    rw [hdata] at h
    cases h
  | some data =>
    obtain ⟨channel, instId', entry'⟩ := data
    rw [hdata] at h
    obtain ⟨hchannel, heq⟩ := Option.ite_none_left_eq_some.mp h
    obtain ⟨ht, hf⟩ := not_or.mp hchannel
    cases heq
    simp only [decode, hdata, classify, if_neg ht, if_neg hf]
    split
    · rfl
    · by_cases hdepth : (d.subs.find instId).2 = 0
      · simp only [if_pos hdepth]
      · simp only [if_neg hdepth]

theorem silent_handleTrades (entry : OkxEntry) (instrumentId recvNs : Nat) :
    MdOutput.Silent (handleTrades entry instrumentId recvNs) := by
  unfold handleTrades
  split
  · exact ⟨⟨rfl, by simp⟩, rfl⟩
  · exact MdOutput.silent_nil

theorem silent_handleFundingRate (entry : OkxEntry) (instrumentId recvNs : Nat) :
    MdOutput.Silent (handleFundingRate entry instrumentId recvNs) :=
  ⟨⟨rfl, by simp [handleFundingRate]⟩, rfl⟩

theorem quiet_handleBbo (entry : OkxEntry) (instrumentId recvNs : Nat) :
    MdOutput.Quiet (handleBbo entry instrumentId recvNs) := by
  unfold handleBbo
  split
  · exact ⟨rfl, by simp⟩
  · exact MdOutput.quiet_nil

theorem decode_of_not_book {frame : OkxFrame} (h : bookOf frame = none) (recvNs : Nat) :
    (d.decode frame recvNs).1 = d ∧ MdOutput.Silent (d.decode frame recvNs).2 := by
  unfold bookOf at h
  cases hdata : dataOf frame with
  | none =>
    rw [decode, hdata]
    exact ⟨rfl, MdOutput.silent_nil⟩
  | some data =>
    obtain ⟨channel, instId, entry⟩ := data
    simp only [hdata, ite_eq_left_iff, reduceCtorEq, imp_false, not_not] at h
    simp only [decode, hdata]
    by_cases hid : (d.subs.find instId).1 = 0
    · rw [if_pos hid]
      exact ⟨rfl, MdOutput.silent_nil⟩
    · rw [if_neg hid]
      unfold classify
      by_cases ht : channel.toList.head? = some 't'
      · rw [if_pos ht]
        exact ⟨rfl, silent_handleTrades _ _ _⟩
      · rw [if_neg ht, if_pos (h.resolve_left ht)]
        exact ⟨rfl, silent_handleFundingRate _ _ _⟩

/-! ## A book frame -/

theorem stateOf_store (instrumentId : Nat) (state : Ladders ℚ ℚ) (id : Nat) :
    (d.store instrumentId state).stateOf id =
      if id = instrumentId then state else d.stateOf id := by
  simp only [stateOf, store, Table.lookup_insert_eq]
  split <;> rfl

/-- The frame of the ladders that a frame with both sides amounts to. -/
def bookFrame (bids asks : List (List (Option ℚ))) (snapshot : Bool) : BookFrame ℚ ℚ :=
  { bidLevels := bids.filterMap readLevel, askLevels := asks.filterMap readLevel
    isSnapshot := snapshot }

theorem handleBook_of_sides {entry : OkxEntry} {bids asks : List (List (Option ℚ))}
    (hbids : entry.bids = some bids) (hasks : entry.asks = some asks)
    (instrumentId recvNs depth : Nat) (snapshot : Bool) :
    d.handleBook entry instrumentId recvNs depth snapshot =
      (d.store instrumentId ((d.stateOf instrumentId).apply (bookFrame bids asks snapshot)),
        publishBook ((d.stateOf instrumentId).apply (bookFrame bids asks snapshot))
          instrumentId recvNs depth) := by
  cases snapshot <;> simp only [handleBook, hbids, hasks] <;> rfl

/-- What is published of ladders that fit into the message. -/
theorem publishBook_of_fits {state : Ladders ℚ ℚ} {depth : Nat} (bids asks : Levels)
    (hbids : bids.data = state.bids.data.take depth)
    (hasks : asks.data = state.asks.data.take depth) (instrumentId recvNs : Nat) :
    publishBook state instrumentId recvNs depth =
      if state.bids.data = [] ∨ state.asks.data = [] then []
      else MdOutput.bookAndBbo recvNs instrumentId bids asks := by
  have hfill : ∀ {l : List (ℚ × ℚ)} {v : Levels}, v.data = l.take depth →
      (InlineVec.empty : Levels).fill depth l = some v := by
    intro l v h
    rw [InlineVec.fill_eq]
    exact InlineVec.ofList?_eq_some_iff.mpr h
  rw [publishBook, hfill hbids, hfill hasks]

/-- The frame lacks a side, or leaves one of the ladders `state` empty. -/
def LacksSide (state : Ladders ℚ ℚ) (entry : OkxEntry) (snapshot : Bool) : Prop :=
  match entry.bids, entry.asks with
  | some bids, some asks =>
    (state.apply (bookFrame bids asks snapshot)).bids.data = [] ∨
      (state.apply (bookFrame bids asks snapshot)).asks.data = []
  | _, _ => True

instance (state : Ladders ℚ ℚ) (entry : OkxEntry) (snapshot : Bool) :
    Decidable (LacksSide state entry snapshot) := by
  unfold LacksSide
  split <;> infer_instance

theorem silent_publishBook_iff (state : Ladders ℚ ℚ) (instrumentId recvNs depth : Nat) :
    MdOutput.Silent (publishBook state instrumentId recvNs depth) ↔
      state.bids.data = [] ∨ state.asks.data = [] := by
  have hoverflow : ¬ MdOutput.Silent [.overflow] := by decide
  unfold publishBook
  split
  next hside => exact iff_of_true MdOutput.silent_nil hside
  next hside =>
    refine iff_of_false ?_ hside
    split
    · exact fun h => MdOutput.not_quiet_bookAndBbo _ _ _ _ h.1
    · exact hoverflow

/-- When a frame publishes no book. -/
theorem silent_handleBook_iff (entry : OkxEntry) (instrumentId recvNs depth : Nat)
    (snapshot : Bool) :
    MdOutput.Silent (d.handleBook entry instrumentId recvNs depth snapshot).2 ↔
      LacksSide (d.stateOf instrumentId) entry snapshot := by
  unfold LacksSide
  cases hbids : entry.bids with
  | none =>
    rw [handleBook, hbids]
    exact iff_of_true MdOutput.silent_nil trivial
  | some bids =>
    cases hasks : entry.asks with
    | none =>
      simp only [handleBook, hbids, hasks]
      exact iff_of_true MdOutput.silent_nil trivial
    | some asks =>
      rw [d.handleBook_of_sides hbids hasks]
      exact silent_publishBook_iff _ _ _ _

end OkxMdDecoder

end BptCore.MdGateway
