import BptCore.Lib.Table
import BptCore.MdGateway.Adapter.SubscriptionMap
import BptCore.MdGateway.Md.MdTypes

/-!
# The Deribit market data decoder

Subscription notifications of four channels. A frame is modelled by what the JSON reader finds in
it: a field is `none` when it is absent or not of the type read.

* **`channelOf`** — the channel's kind and the symbol in its name.
* **`DeribitMdDecoder.handleBook`** — the gap check and then the frame's own levels.
* **`DeribitMdDecoder.decode`** — one frame.
* **`parseLevels_eq`** — the levels that a book frame yields for a side.
-/

namespace BptCore.MdGateway

/-- An element of a level's array. -/
inductive LevelField where
  | text (s : String)
  | number (x : ℚ)
  deriving DecidableEq, Repr

/-- `get_double` with the variable left at zero where it fails. -/
def LevelField.double : LevelField → ℚ
  | .text _ => 0
  | .number x => x

structure DeribitTrade where
  price : Option ℚ := none
  amount : Option ℚ := none
  direction : Option String := none

/-- The fields that the branches of `decode` read of an object. A level that is not an array
counts as an empty one: either is skipped. -/
structure DeribitObject where
  bestBidPrice : Option ℚ := none
  bestBidAmount : Option ℚ := none
  bestAskPrice : Option ℚ := none
  bestAskAmount : Option ℚ := none
  type : Option String := none
  prevChangeId : Option Nat := none
  changeId : Option Nat := none
  bids : Option (List (List LevelField)) := none
  asks : Option (List (List LevelField)) := none
  openInterest : Option ℚ := none
  markPrice : Option ℚ := none
  indexPrice : Option ℚ := none
  lastPrice : Option ℚ := none
  /-- `volume` of the nested `stats`. -/
  volume : Option ℚ := none
  funding8h : Option ℚ := none

/-- `params.data`. -/
inductive DeribitData where
  | object (data : DeribitObject)
  | array (trades : List (Option DeribitTrade))
  | scalar

structure DeribitParams where
  type : Option String := none
  channel : Option String := none
  data : Option DeribitData := none

structure DeribitFrame where
  method : Option String := none
  params : Option DeribitParams := none

structure DeribitMdDecoder where
  subs : SubscriptionMap := {}
  lastChangeId : Table String Nat := ∅
  testRequestPending : Bool := false

/-! ## Channel names -/

inductive DeribitChannel where
  | quote | trades | book | ticker
  deriving DecidableEq, Repr

/-- The position of the last `c`. -/
def rfind (c : Char) (s : List Char) : Option Nat :=
  if c ∈ s then some (s.length - 1 - s.reverse.idxOf c) else none

/-- The name from `first` on, without the cadence after its last dot. -/
def withoutCadence (first : Nat) (channel : List Char) : List Char :=
  match rfind '.' channel with
  | none => channel.drop first
  | some lastDot =>
    if lastDot > first then (channel.drop first).take (lastDot - first) else channel.drop first

def channelOf (channel : String) : Option (DeribitChannel × String) :=
  let name := channel.toList
  if channel.startsWith "quote." then some (.quote, String.ofList (name.drop 6))
  else if channel.startsWith "trades." then some (.trades, String.ofList (withoutCadence 7 name))
  else if channel.startsWith "book." then some (.book, String.ofList (withoutCadence 5 name))
  else if channel.startsWith "ticker." then some (.ticker, String.ofList (withoutCadence 7 name))
  else none

/-! ## Book levels -/

/-- One level: price and quantity in a snapshot, an action before them in a change. -/
def parseLevel (isSnapshot : Bool) (lvl : List LevelField) : Option (ℚ × ℚ) :=
  if isSnapshot then
    match lvl with
    | px :: qty :: _ => some (px.double, qty.double)
    | _ => none
  else
    match lvl with
    | .text action :: px :: qty :: _ =>
      if action = "delete" then none else some (px.double, qty.double)
    | _ => none

/-- The levels appended to `dst` until it has `maxLevels`. -/
def parseLevels (maxLevels : Nat) (isSnapshot : Bool) :
    List (List LevelField) → Levels → Option Levels
  | [], dst => some dst
  | lvl :: src, dst =>
    if maxLevels ≤ dst.size then some dst
    else
      match parseLevel isSnapshot lvl with
      | none => parseLevels maxLevels isSnapshot src dst
      | some lvl => (dst.emplaceBack lvl).bind (parseLevels maxLevels isSnapshot src)

/-- The levels that a side of the frame sets. -/
def setLevels (isSnapshot : Bool) (src : List (List LevelField)) : List (ℚ × ℚ) :=
  src.filterMap (parseLevel isSnapshot)

theorem parseLevels_eq (maxLevels : Nat) (isSnapshot : Bool) (src : List (List LevelField))
    (dst : Levels) :
    parseLevels maxLevels isSnapshot src dst = dst.fill maxLevels (setLevels isSnapshot src) := by
  induction src generalizing dst with
  | nil => rfl
  | cons lvl src ih =>
    rw [parseLevels, setLevels]
    cases hlvl : parseLevel isSnapshot lvl with
    | none =>
      rw [List.filterMap_cons_none hlvl]
      split
      next hfull => exact (InlineVec.fill_of_full hfull _).symm
      next => exact ih dst
    | some lvl' =>
      rw [List.filterMap_cons_some hlvl, InlineVec.fill]
      split
      · rfl
      · exact Option.bind_congr fun dst' _ => ih dst'

/-- The levels that a side of the frame puts into the published book. -/
def listed (maxLevels : Nat) (isSnapshot : Bool) (src : List (List LevelField)) : List (ℚ × ℚ) :=
  (setLevels isSnapshot src).take maxLevels

theorem parseLevels_empty (maxLevels : Nat) (isSnapshot : Bool) (src : List (List LevelField)) :
    parseLevels maxLevels isSnapshot src .empty =
      InlineVec.ofList? (listed maxLevels isSnapshot src) := by
  rw [parseLevels_eq, InlineVec.fill_eq]
  rfl

/-- `static_cast<int32_t>(rate * 1e6)`. -/
def truncE6 (rate : ℚ) : Int :=
  if 0 ≤ rate then (rate * 1000000).floor else -(-rate * 1000000).floor

/-! ## The decoder -/

namespace DeribitMdDecoder

variable (d : DeribitMdDecoder)

def handleQuote (recvNs instrumentId : Nat) (data : DeribitObject) : List MdOutput :=
  match data.bestBidPrice, data.bestBidAmount, data.bestAskPrice, data.bestAskAmount with
  | some bidPrice, some bidQty, some askPrice, some askQty =>
    [.bbo
      { timestampNs := recvNs, instrumentId := instrumentId, bidPrice := bidPrice
        bidQty := bidQty, askPrice := askPrice, askQty := askQty }]
  | _, _, _, _ => []

def handleTrades (recvNs instrumentId : Nat) (trades : List (Option DeribitTrade)) :
    List MdOutput :=
  trades.filterMap fun trade =>
    trade.map fun obj => .trade
      { timestampNs := recvNs, instrumentId := instrumentId, price := obj.price.getD 0
        qty := obj.amount.getD 0
        side := if obj.direction = some "sell" then .SELL else .BUY }

/-- The instrument statistics, and the funding rate where the instrument has one. The adapter sets
both callbacks when it is built. -/
def handleTicker (recvNs instrumentId : Nat) (data : DeribitObject) : List MdOutput :=
  let eightHoursNs := 8 * 3600 * 1000000000
  .instrumentStats
    { instrumentId := instrumentId, exchangeId := .DERIBIT, openInterest := data.openInterest
      volume24h := data.volume, markPrice := data.markPrice, indexPrice := data.indexPrice
      lastPrice := data.lastPrice, collectedTsNs := recvNs } ::
  match data.funding8h with
  | none => []
  | some rate =>
    if -3 / 2 < rate then
      [.fundingRate
        { instrumentId := instrumentId, exchangeId := .DERIBIT, rateBps := truncE6 rate
          nextFundingTsNs := (recvNs / eightHoursNs + 1) * eightHoursNs, collectedTsNs := recvNs }]
    else []

/-- The change a frame follows on is not the last one of its symbol. -/
def gapAt (symbol : String) (data : DeribitObject) : Bool :=
  data.type != some "snapshot" &&
    match data.prevChangeId, d.lastChangeId.lookup symbol with
    | some prev, some last => last != prev
    | _, _ => false

/-- The order book of a frame's own levels, when both sides have one. -/
def publishLevels (recvNs instrumentId maxLevels : Nat) (data : DeribitObject) : List MdOutput :=
  let isSnapshot := data.type == some "snapshot"
  match data.bids with
  | none => []
  | some bidsArr =>
    match parseLevels maxLevels isSnapshot bidsArr .empty with
    | none => [.overflow]
    | some bids =>
      match data.asks with
      | none => []
      | some asksArr =>
        match parseLevels maxLevels isSnapshot asksArr .empty with
        | none => [.overflow]
        | some asks =>
          if bids.data ≠ [] ∧ asks.data ≠ [] then
            MdOutput.bookAndBbo recvNs instrumentId bids asks
          else []

/-- How many levels a side of the published book has at most. -/
def maxLevels (depth : Nat) : Nat := if depth > 0 then depth else 1

def handleBook (recvNs instrumentId : Nat) (symbol : String) (data : DeribitObject) :
    DeribitMdDecoder × List MdOutput :=
  if d.gapAt symbol data then
    ({ d with lastChangeId := d.lastChangeId.erase symbol, subs := d.subs.requeue symbol }, [])
  else
    ({ d with
        lastChangeId := match data.changeId with
          | none => d.lastChangeId
          | some changeId => d.lastChangeId.insert symbol changeId },
      publishLevels recvNs instrumentId (maxLevels (d.subs.findDepth instrumentId)) data)

def handleNotification (recvNs : Nat) (channel : DeribitChannel) (symbol : String)
    (data : DeribitData) : DeribitMdDecoder × List MdOutput :=
  let instrumentId := d.subs.findId symbol
  if instrumentId = 0 then (d, [])
  else
    match channel, data with
    | .quote, .object data => (d, handleQuote recvNs instrumentId data)
    | .trades, .array trades => (d, handleTrades recvNs instrumentId trades)
    | .book, .object data => d.handleBook recvNs instrumentId symbol data
    | .ticker, .object data => (d, handleTicker recvNs instrumentId data)
    | _, _ => (d, [])

/-- What a subscription notification is about: its channel, the symbol and the data. -/
def notification? (frame : DeribitFrame) : Option (DeribitChannel × String × DeribitData) := do
  let params ← frame.params
  let channel ← params.channel
  let data ← params.data
  let (channel, symbol) ← channelOf channel
  return (channel, symbol, data)

def decode (frame : DeribitFrame) (recvNs : Nat) : DeribitMdDecoder × List MdOutput :=
  if frame.method = some "heartbeat" then
    if frame.params.bind DeribitParams.type = some "test_request" then
      ({ d with testRequestPending := true }, [])
    else (d, [])
  else if frame.method = some "subscription" then
    match notification? frame with
    | none => (d, [])
    | some (channel, symbol, data) => d.handleNotification recvNs channel symbol data
  else (d, [])

/-- The symbol and the data of a book notification. -/
def bookOf (frame : DeribitFrame) : Option (String × DeribitObject) :=
  if frame.method = some "subscription" then
    match notification? frame with
    | some (.book, symbol, .object data) => some (symbol, data)
    | _ => none
  else none

/-- Called before each connect. -/
def reset : DeribitMdDecoder := { d with lastChangeId := ∅ }

/-- Called when the symbol is unsubscribed. -/
def forget (symbol : String) : DeribitMdDecoder :=
  { d with lastChangeId := d.lastChangeId.erase symbol }

/-! ## What a frame does -/

theorem decode_of_book {frame : DeribitFrame} {symbol : String} {data : DeribitObject}
    (h : bookOf frame = some (symbol, data)) (recvNs : Nat) :
    d.decode frame recvNs =
      if d.subs.findId symbol = 0 then (d, [])
      else d.handleBook recvNs (d.subs.findId symbol) symbol data := by
  unfold bookOf at h
  split at h
  next hmethod =>
    have hheartbeat : frame.method ≠ some "heartbeat" := by rw [hmethod]; decide
    split at h
    next hnote =>
      cases h
      rw [decode, if_neg hheartbeat, if_pos hmethod, hnote]
      rfl
    next => cases h
  next => cases h

/-- Both sides fit into the message. -/
theorem publishLevels_of_fits {data : DeribitObject} {bidsArr asksArr : List (List LevelField)}
    (hbids : data.bids = some bidsArr) (hasks : data.asks = some asksArr)
    (recvNs instrumentId n : Nat) (bids asks : Levels)
    (hb : bids.data = listed n (data.type == some "snapshot") bidsArr)
    (ha : asks.data = listed n (data.type == some "snapshot") asksArr) :
    publishLevels recvNs instrumentId n data =
      if bids.data ≠ [] ∧ asks.data ≠ [] then MdOutput.bookAndBbo recvNs instrumentId bids asks
      else [] := by
  simp only [publishLevels, hbids, hasks, parseLevels_empty, InlineVec.ofList?_eq_some_iff.mpr hb,
    InlineVec.ofList?_eq_some_iff.mpr ha]

/-- A side does not fit into the message. -/
theorem publishLevels_of_overflow {data : DeribitObject} {bidsArr asksArr : List (List LevelField)}
    (hbids : data.bids = some bidsArr) (hasks : data.asks = some asksArr)
    (recvNs instrumentId : Nat) {n : Nat}
    (h : kMaxBookLevels < (listed n (data.type == some "snapshot") bidsArr).length ∨
      kMaxBookLevels < (listed n (data.type == some "snapshot") asksArr).length) :
    publishLevels recvNs instrumentId n data = [.overflow] := by
  simp only [publishLevels, hbids, hasks, parseLevels_empty]
  rcases h with h | h
  · rw [InlineVec.ofList?_eq_none_iff.mpr h]
  · rw [InlineVec.ofList?_eq_none_iff.mpr h]
    split <;> rfl

theorem quiet_handleQuote (recvNs instrumentId : Nat) (data : DeribitObject) :
    MdOutput.Quiet (handleQuote recvNs instrumentId data) := by
  unfold handleQuote
  split
  · exact ⟨rfl, by simp⟩
  · exact MdOutput.quiet_nil

theorem quiet_handleTrades (recvNs instrumentId : Nat) (trades : List (Option DeribitTrade)) :
    MdOutput.Quiet (handleTrades recvNs instrumentId trades) := by
  refine ⟨?_, by simp [handleTrades]⟩
  induction trades with
  | nil => rfl
  | cons trade trades ih => cases trade <;> exact ih

theorem quiet_handleTicker (recvNs instrumentId : Nat) (data : DeribitObject) :
    MdOutput.Quiet (handleTicker recvNs instrumentId data) := by
  unfold handleTicker
  split
  · exact ⟨rfl, by simp⟩
  · split <;> exact ⟨rfl, by simp⟩

/-- A frame that is not a book notification publishes no book. -/
theorem quiet_decode_of_not_book {frame : DeribitFrame} (h : bookOf frame = none) (recvNs : Nat) :
    MdOutput.Quiet (d.decode frame recvNs).2 := by
  by_cases hmethod : frame.method = some "subscription"
  · have hheartbeat : frame.method ≠ some "heartbeat" := by rw [hmethod]; decide
    rw [bookOf, if_pos hmethod] at h
    rw [decode, if_neg hheartbeat, if_pos hmethod]
    cases hnote : notification? frame with
    | none => exact MdOutput.quiet_nil
    | some note =>
      obtain ⟨channel, symbol, data⟩ := note
      rw [hnote] at h
      show MdOutput.Quiet (d.handleNotification recvNs channel symbol data).2
      unfold handleNotification
      by_cases hid : d.subs.findId symbol = 0
      · simp only [hid, if_true]
        exact MdOutput.quiet_nil
      · simp only [hid, if_false]
        split
        · exact quiet_handleQuote _ _ _
        · exact quiet_handleTrades _ _ _
        · cases h
        · exact quiet_handleTicker _ _ _
        · exact MdOutput.quiet_nil
  · unfold decode
    split
    · split <;> exact MdOutput.quiet_nil
    · exact MdOutput.quiet_nil

end DeribitMdDecoder

end BptCore.MdGateway
