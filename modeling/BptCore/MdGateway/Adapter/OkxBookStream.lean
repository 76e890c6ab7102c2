import BptCore.Common.Book.OrderBookState
import BptCore.Lib.Machine
import BptCore.MdGateway.Adapter.OkxMdDecoder

/-!
# The books of an OKX session

Frames of all the channels that the adapter subscribes to, interleaved over the symbols. The
ladders of a symbol are to be the merged book of its own books frames. What breaks this is that
mark prices and index tickers are classified as books, too, and count as snapshots without levels.

* **`buildSubscribePayload`** — the channels of one symbol, **`OkxMessage`** their frames.
* **`OkxRun`** — a decoder with the merged book of every symbol.
* **`books_follow_fold_iff`** — ladders and published books are the merged ones in a whole run
  exactly when no mark price and no index ticker meets a ladder with levels.
-/

namespace BptCore.MdGateway

open BptCore.Book

/-! ## The channels -/

/-- Channel and instrument of an argument of the subscribe request. -/
structure OkxArg where
  channel : String
  instId : String
  deriving DecidableEq, Repr

def buildSubscribePayload (symbol : String) (depth : Nat) : List OkxArg :=
  let bookChannel := if depth = 0 then "bbo-tbt" else if depth ≤ 5 then "books5" else "books"
  let name := symbol.toList
  let indexSymbol := name.take (name.length - 5)
  let both : List OkxArg := [⟨bookChannel, symbol⟩, ⟨"trades", symbol⟩]
  if name.length > 5 ∧ name.drop (name.length - 5) = "-SWAP".toList then
    both ++
      [⟨"funding-rate", symbol⟩, ⟨"mark-price", symbol⟩,
        ⟨"index-tickers", String.ofList indexSymbol⟩]
  else both

inductive BooksChannel where
  | books | books5
  deriving DecidableEq, Repr

def BooksChannel.wire : BooksChannel → String
  | books => "books"
  | books5 => "books5"

inductive BooksAction where
  | snapshot | update
  deriving DecidableEq, Repr

def BooksAction.wire : BooksAction → String
  | snapshot => "snapshot"
  | update => "update"

/-- The frames of the channels. A books frame without an action is a snapshot. -/
inductive OkxMessage where
  | books (channel : BooksChannel) (instId : String) (action : Option BooksAction)
      (bids asks : List (ℚ × ℚ))
  | trades (instId : String) (px sz : ℚ) (side : TradeSide)
  | fundingRate (instId : String) (rate : ℚ) (nextFundingTime : Nat)
  | markPrice (instId : String)
  | indexTickers (instId : String)
  deriving DecidableEq

def wireLevels (lvls : List (ℚ × ℚ)) : List (List (Option ℚ)) :=
  lvls.map fun lvl => [some lvl.1, some lvl.2]

theorem readLevels_wireLevels (lvls : List (ℚ × ℚ)) :
    (wireLevels lvls).filterMap readLevel = lvls := by
  induction lvls with
  | nil => rfl
  | cons lvl lvls ih => exact congrArg (lvl :: ·) ih

namespace OkxMessage

def arg : OkxMessage → OkxArg
  | .books channel instId .. => ⟨channel.wire, instId⟩
  | .trades instId .. => ⟨"trades", instId⟩
  | .fundingRate instId .. => ⟨"funding-rate", instId⟩
  | .markPrice instId => ⟨"mark-price", instId⟩
  | .indexTickers instId => ⟨"index-tickers", instId⟩

/-- The entry of the frame. The mark price and the index price are fields that nothing reads. -/
def entry : OkxMessage → OkxEntry
  | .books _ _ _ bids asks => { bids := some (wireLevels bids), asks := some (wireLevels asks) }
  | .trades _ px sz side =>
    { px := some px, sz := some sz, side := some (if side = .SELL then "sell" else "buy") }
  | .fundingRate _ rate nextFundingTime =>
    { fundingRate := some rate, nextFundingTime := some nextFundingTime }
  | .markPrice _ => {}
  | .indexTickers _ => {}

def frame (m : OkxMessage) : OkxFrame :=
  { channel := some m.arg.channel, instId := some m.arg.instId
    action := match m with
      | .books _ _ action .. => action.map BooksAction.wire
      | _ => none
    data := some [some m.entry] }

/-- The symbol of a books frame, and its levels. -/
def sides? : OkxMessage → Option (String × BookFrame ℚ ℚ)
  | .books _ instId action bids asks =>
    some (instId, { bidLevels := bids, askLevels := asks, isSnapshot := action ≠ some .update })
  | _ => none

end OkxMessage

/-! ## The run -/

/-- A decoder in a session, with the merged book of every symbol. -/
structure OkxRun where
  decoder : OkxMdDecoder
  folds : Table String (MergedBook ℚ ℚ) := ∅

namespace OkxRun

variable (s : OkxRun)

def foldOf (symbol : String) : MergedBook ℚ ℚ := (s.folds.lookup symbol).getD {}

/-- The merged books after a message: only a books frame changes one, that of its symbol. -/
def foldsAfter (m : OkxMessage) : Table String (MergedBook ℚ ℚ) :=
  match m.sides? with
  | none => s.folds
  | some (symbol, f) => s.folds.insert symbol ((s.foldOf symbol).apply (Ladders.deltaOf f))

/-- A message and the time at which its frame was received. -/
def step (s : OkxRun) (e : OkxMessage × Nat) : OkxRun × List MdOutput :=
  let (decoder, out) := s.decoder.decode e.1.frame e.2
  ({ decoder := decoder, folds := s.foldsAfter e.1 }, out)

/-- The ladders of every subscribed symbol list its merged book. -/
def ListsFolds (s : OkxRun) : Prop :=
  ∀ symbol, (s.decoder.subs.find symbol).1 ≠ 0 →
    (s.decoder.stateOf (s.decoder.subs.find symbol).1).Lists (s.foldOf symbol)

/-- The books that a message has to make the decoder publish: after a books frame of a subscribed
symbol the best `depth` levels of either side of its merged book, if it has both sides. -/
def expected (s : OkxRun) (m : OkxMessage) : List (Nat × List (ℚ × ℚ) × List (ℚ × ℚ)) :=
  match m.sides? with
  | none => []
  | some (symbol, f) =>
    let (instrumentId, depth) := s.decoder.subs.find symbol
    let fold := (s.foldOf symbol).apply (Ladders.deltaOf f)
    if instrumentId ≠ 0 ∧ fold.TwoSided then [(instrumentId, fold.top depth)] else []

def PublishesFold (s : OkxRun) (e : OkxMessage × Nat) : Prop :=
  .overflow ∉ (step s e).2 ∧
    (MdOutput.books (step s e).2).map (fun b => (b.instrumentId, b.bids.data, b.asks.data)) =
      s.expected e.1

instance (e : OkxMessage × Nat) : Decidable (s.PublishesFold e) :=
  inferInstanceAs (Decidable (_ ∧ _))

/-- A mark price or an index ticker of a subscribed symbol finds its ladders empty. -/
def SparesLadders (s : OkxRun) (e : OkxMessage × Nat) : Prop :=
  match e.1 with
  | .markPrice symbol | .indexTickers symbol =>
    (s.decoder.subs.find symbol).1 ≠ 0 →
      s.decoder.stateOf (s.decoder.subs.find symbol).1 = {}
  | _ => True

instance (e : OkxMessage × Nat) : Decidable (s.SparesLadders e) := by
  unfold SparesLadders
  split <;> infer_instance

/-! ## One frame -/

/-- Neither of the letters by which trades and funding rates are told. -/
def OtherLetter (channel : String) : Prop :=
  ¬(channel.toList.head? = some 't' ∨ channel.toList.head? = some 'f')

theorem otherLetter_wire (channel : BooksChannel) : OtherLetter channel.wire := by
  cases channel <;> unfold OtherLetter <;> decide +kernel

theorem isSnapshot_wire {frame : OkxFrame} {action : Option BooksAction}
    (h : frame.action = action.map BooksAction.wire) :
    OkxMdDecoder.isSnapshot frame = decide (action ≠ some .update) := by
  rw [OkxMdDecoder.isSnapshot, h]
  cases action with
  | none => rfl
  | some action =>
    show (action.wire == "snapshot") = _
    cases action <;> decide +kernel

/-- A books frame. -/
theorem bookOf_of_sides {m : OkxMessage} {symbol : String} {f : BookFrame ℚ ℚ}
    (h : m.sides? = some (symbol, f)) :
    OkxMdDecoder.bookOf m.frame = some (symbol, f.isSnapshot, m.entry) ∧
      m.entry.bids = some (wireLevels f.bidLevels) ∧
      m.entry.asks = some (wireLevels f.askLevels) ∧
      OkxMdDecoder.bookFrame (wireLevels f.bidLevels) (wireLevels f.askLevels) f.isSnapshot =
        f := by
  cases m with
  | books channel instId action bids asks =>
    cases h
    refine ⟨?_, rfl, rfl, ?_⟩
    · refine (if_neg (otherLetter_wire channel)).trans ?_
      rw [isSnapshot_wire rfl]
      rfl
    · simp only [OkxMdDecoder.bookFrame, readLevels_wireLevels]
  | _ => cases h

/-- A mark price or an index ticker. -/
theorem bookOf_price {m : OkxMessage} {symbol : String}
    (h : m = .markPrice symbol ∨ m = .indexTickers symbol) :
    OkxMdDecoder.bookOf m.frame = some (symbol, true, {}) := by
  have hmark : OtherLetter "mark-price" := by unfold OtherLetter; decide +kernel
  have hindex : OtherLetter "index-tickers" := by unfold OtherLetter; decide +kernel
  rcases h with rfl | rfl
  · exact if_neg hmark
  · exact if_neg hindex

/-- A message is a books frame, a mark price or an index ticker, or goes past the ladders. -/
theorem kind (m : OkxMessage) :
    (∃ symbol f, m.sides? = some (symbol, f)) ∨
      (m.sides? = none ∧ ∃ symbol, m = .markPrice symbol ∨ m = .indexTickers symbol) ∨
      (m.sides? = none ∧ (∀ symbol, ¬(m = .markPrice symbol ∨ m = .indexTickers symbol)) ∧
        OkxMdDecoder.bookOf m.frame = none) := by
  have htrades : "trades".toList.head? = some 't' := by decide +kernel
  have hfunding : "funding-rate".toList.head? = some 'f' := by decide +kernel
  cases m with
  | books channel instId action bids asks => exact .inl ⟨_, _, rfl⟩
  | trades instId px sz side => exact .inr (.inr ⟨rfl, by simp, if_pos (.inl htrades)⟩)
  | fundingRate instId rate nextFundingTime =>
    exact .inr (.inr ⟨rfl, by simp, if_pos (.inr hfunding)⟩)
  | markPrice symbol => exact .inr (.inl ⟨rfl, symbol, .inl rfl⟩)
  | indexTickers symbol => exact .inr (.inl ⟨rfl, symbol, .inr rfl⟩)

/-- A books frame of a subscribed symbol. -/
theorem decode_books {d : OkxMdDecoder} (hsubs : d.subs.Regular kMaxBookLevels) {m : OkxMessage}
    {symbol : String} {f : BookFrame ℚ ℚ} (h : m.sides? = some (symbol, f))
    (hid : (d.subs.find symbol).1 ≠ 0) (recvNs : Nat) :
    d.decode m.frame recvNs =
      (d.store (d.subs.find symbol).1 ((d.stateOf (d.subs.find symbol).1).apply f),
        OkxMdDecoder.publishBook ((d.stateOf (d.subs.find symbol).1).apply f)
          (d.subs.find symbol).1 recvNs (d.subs.find symbol).2) := by
  obtain ⟨hbook, hbids, hasks, hf⟩ := bookOf_of_sides h
  rw [d.decode_of_book hbook, if_neg hid, if_neg (hsubs.find_depth hid).1.ne',
    d.handleBook_of_sides hbids hasks, hf]

/-- A mark price or an index ticker of a subscribed symbol clears its ladders. -/
theorem decode_price {d : OkxMdDecoder} (hsubs : d.subs.Regular kMaxBookLevels) {m : OkxMessage}
    {symbol : String} (hm : m = .markPrice symbol ∨ m = .indexTickers symbol)
    (hid : (d.subs.find symbol).1 ≠ 0) (recvNs : Nat) :
    d.decode m.frame recvNs = (d.store (d.subs.find symbol).1 {}, []) := by
  rw [d.decode_of_book (bookOf_price hm), if_neg hid, if_neg (hsubs.find_depth hid).1.ne']
  rfl

/-! ## One step -/

variable {s}

/-- The merged books after a books frame. -/
def foldBooks (s : OkxRun) (symbol : String) (f : BookFrame ℚ ℚ) : OkxRun :=
  { s with folds := s.folds.insert symbol ((s.foldOf symbol).apply (Ladders.deltaOf f)) }

theorem foldOf_foldBooks (symbol : String) (f : BookFrame ℚ ℚ) (symbol' : String) :
    (s.foldBooks symbol f).foldOf symbol' =
      if symbol' = symbol then (s.foldOf symbol).apply (Ladders.deltaOf f)
      else s.foldOf symbol' := by
  simp only [foldOf, foldBooks, Table.lookup_insert_eq]
  split <;> rfl

theorem step_books {m : OkxMessage} {symbol : String} {f : BookFrame ℚ ℚ}
    (hm : m.sides? = some (symbol, f)) (hsubs : s.decoder.subs.Regular kMaxBookLevels)
    (hid : (s.decoder.subs.find symbol).1 ≠ 0) (recvNs : Nat) :
    let id := (s.decoder.subs.find symbol).1
    let state := (s.decoder.stateOf id).apply f
    step s (m, recvNs) =
      ({ s.foldBooks symbol f with decoder := s.decoder.store id state },
        OkxMdDecoder.publishBook state id recvNs (s.decoder.subs.find symbol).2) := by
  simp only [step, decode_books hsubs hm hid, foldsAfter, hm, foldBooks]

theorem step_books_unknown {m : OkxMessage} {symbol : String} {f : BookFrame ℚ ℚ}
    (hm : m.sides? = some (symbol, f)) (hid : (s.decoder.subs.find symbol).1 = 0) (recvNs : Nat) :
    step s (m, recvNs) = (s.foldBooks symbol f, []) := by
  simp only [step, s.decoder.decode_of_book (bookOf_of_sides hm).1, if_pos hid, foldsAfter, hm,
    foldBooks]

theorem step_price {m : OkxMessage} {symbol : String}
    (hm : m = .markPrice symbol ∨ m = .indexTickers symbol)
    (hsubs : s.decoder.subs.Regular kMaxBookLevels)
    (hid : (s.decoder.subs.find symbol).1 ≠ 0) (recvNs : Nat) :
    step s (m, recvNs) =
      ({ s with decoder := s.decoder.store (s.decoder.subs.find symbol).1 {} }, []) := by
  have hfolds : s.foldsAfter m = s.folds := by rcases hm with rfl | rfl <;> rfl
  simp only [step, decode_price hsubs hm hid, hfolds]

theorem step_price_unknown {m : OkxMessage} {symbol : String}
    (hm : m = .markPrice symbol ∨ m = .indexTickers symbol)
    (hid : (s.decoder.subs.find symbol).1 = 0) (recvNs : Nat) :
    step s (m, recvNs) = (s, []) := by
  have hfolds : s.foldsAfter m = s.folds := by rcases hm with rfl | rfl <;> rfl
  simp only [step, s.decoder.decode_of_book (bookOf_price hm), if_pos hid, hfolds]

theorem step_other {m : OkxMessage} (hsides : m.sides? = none)
    (hbook : OkxMdDecoder.bookOf m.frame = none) (recvNs : Nat) :
    (step s (m, recvNs)).1 = s ∧ MdOutput.Quiet (step s (m, recvNs)).2 := by
  obtain ⟨hsame, hsilent⟩ := s.decoder.decode_of_not_book hbook recvNs
  refine ⟨?_, hsilent.1⟩
  simp only [step, hsame, foldsAfter, hsides]

/-! ## The ladders -/

theorem ListsFolds.books (h : s.ListsFolds) (hsubs : s.decoder.subs.Regular kMaxBookLevels)
    {symbol : String} (f : BookFrame ℚ ℚ) (hid : (s.decoder.subs.find symbol).1 ≠ 0) :
    ListsFolds
      { s.foldBooks symbol f with
        decoder := s.decoder.store (s.decoder.subs.find symbol).1
          ((s.decoder.stateOf (s.decoder.subs.find symbol).1).apply f) } := by
  intro symbol' hid'
  show Ladders.Lists (OkxMdDecoder.stateOf _ (s.decoder.subs.find symbol').1)
    ((s.foldBooks symbol f).foldOf symbol')
  rw [OkxMdDecoder.stateOf_store, foldOf_foldBooks]
  by_cases hsame : symbol' = symbol
  · subst hsame
    rw [if_pos rfl, if_pos rfl]
    exact (h symbol' hid).apply f
  · -- another symbol has ladders of its own
    have hother : (s.decoder.subs.find symbol').1 ≠ (s.decoder.subs.find symbol).1 :=
      fun heq => hsame (hsubs.find_injective hid heq)
    rw [if_neg hother, if_neg hsame]
    exact h symbol' hid'

theorem ListsFolds.books_unknown (h : s.ListsFolds) {symbol : String} (f : BookFrame ℚ ℚ)
    (hid : (s.decoder.subs.find symbol).1 = 0) : (s.foldBooks symbol f).ListsFolds := by
  intro symbol' hid'
  have hother : symbol' ≠ symbol := fun heq => hid' (heq ▸ hid)
  rw [foldOf_foldBooks, if_neg hother]
  exact h symbol' hid'

/-- Clearing the ladders of a symbol is right when there is nothing on them. -/
theorem listsFolds_clear_iff (h : s.ListsFolds) {symbol : String}
    (hid : (s.decoder.subs.find symbol).1 ≠ 0) :
    ListsFolds { s with decoder := s.decoder.store (s.decoder.subs.find symbol).1 {} } ↔
      s.decoder.stateOf (s.decoder.subs.find symbol).1 = {} := by
  constructor
  · intro hcleared
    have hempty : Ladders.Lists (OkxMdDecoder.stateOf
        (s.decoder.store (s.decoder.subs.find symbol).1 {}) (s.decoder.subs.find symbol).1)
        (s.foldOf symbol) := hcleared symbol hid
    rw [OkxMdDecoder.stateOf_store, if_pos rfl] at hempty
    -- the merged book is empty, and so were the ladders
    have hbids := (h symbol hid).bids.trans hempty.bids.symm
    have hasks := (h symbol hid).asks.trans hempty.asks.symm
    generalize s.decoder.stateOf (s.decoder.subs.find symbol).1 = state at hbids hasks
    obtain ⟨⟨bids⟩, ⟨asks⟩⟩ := state
    obtain rfl : bids = [] := hbids
    obtain rfl : asks = [] := hasks
    rfl
  · intro hstate symbol' hid'
    show Ladders.Lists (OkxMdDecoder.stateOf _ (s.decoder.subs.find symbol').1) (s.foldOf symbol')
    rw [OkxMdDecoder.stateOf_store]
    split
    next heq =>
      rw [← hstate, ← heq]
      exact h symbol' hid'
    next => exact h symbol' hid'

theorem sparesLadders_of_sides {m : OkxMessage} {symbol : String} {f : BookFrame ℚ ℚ}
    (hm : m.sides? = some (symbol, f)) (recvNs : Nat) : s.SparesLadders (m, recvNs) := by
  cases m with
  | books channel instId action bids asks => trivial
  | _ => cases hm

theorem sparesLadders_price {m : OkxMessage} {symbol : String}
    (hm : m = .markPrice symbol ∨ m = .indexTickers symbol) (recvNs : Nat) :
    s.SparesLadders (m, recvNs) ↔
      ((s.decoder.subs.find symbol).1 ≠ 0 →
        s.decoder.stateOf (s.decoder.subs.find symbol).1 = {}) := by
  rcases hm with rfl | rfl <;> exact Iff.rfl

theorem listsFolds_step_iff (h : s.ListsFolds) (hsubs : s.decoder.subs.Regular kMaxBookLevels)
    (e : OkxMessage × Nat) : (step s e).1.ListsFolds ↔ s.SparesLadders e := by
  obtain ⟨m, recvNs⟩ := e
  obtain ⟨symbol, f, hm⟩ | ⟨-, symbol, hm⟩ | ⟨hsides, hprice, hbook⟩ := kind m
  · refine iff_of_true ?_ (sparesLadders_of_sides hm recvNs)
    by_cases hid : (s.decoder.subs.find symbol).1 = 0
    · rw [step_books_unknown hm hid]
      exact h.books_unknown f hid
    · rw [step_books hm hsubs hid]
      exact h.books hsubs f hid
  · rw [sparesLadders_price hm]
    by_cases hid : (s.decoder.subs.find symbol).1 = 0
    · rw [step_price_unknown hm hid]
      exact iff_of_true h fun hne => absurd hid hne
    · rw [step_price hm hsubs hid, listsFolds_clear_iff h hid]
      exact ⟨fun hstate _ => hstate, fun himp => himp hid⟩
  · rw [(step_other hsides hbook recvNs).1]
    refine iff_of_true h ?_
    cases m with
    | markPrice symbol => exact absurd (.inl rfl) (hprice symbol)
    | indexTickers symbol => exact absurd (.inr rfl) (hprice symbol)
    | _ => trivial

theorem regular_step (hsubs : s.decoder.subs.Regular kMaxBookLevels) (e : OkxMessage × Nat) :
    (step s e).1.decoder.subs.Regular kMaxBookLevels := by
  obtain ⟨m, recvNs⟩ := e
  obtain ⟨symbol, f, hm⟩ | ⟨-, symbol, hm⟩ | ⟨hsides, -, hbook⟩ := kind m
  · by_cases hid : (s.decoder.subs.find symbol).1 = 0
    · rw [step_books_unknown hm hid]
      exact hsubs
    · rw [step_books hm hsubs hid]
      exact hsubs
  · by_cases hid : (s.decoder.subs.find symbol).1 = 0
    · rw [step_price_unknown hm hid]
      exact hsubs
    · rw [step_price hm hsubs hid]
      exact hsubs
  · rw [(step_other hsides hbook recvNs).1]
    exact hsubs

/-! ## The published books -/

/-- Ladders that list a merged book publish its best levels. -/
theorem books_publishBook {state : Ladders ℚ ℚ} {fold : MergedBook ℚ ℚ} (h : state.Lists fold)
    {depth : Nat} (hdepth : depth ≤ kMaxBookLevels) (id recvNs : Nat) :
    .overflow ∉ OkxMdDecoder.publishBook state id recvNs depth ∧
      (MdOutput.books (OkxMdDecoder.publishBook state id recvNs depth)).map
          (fun b => (b.instrumentId, b.bids.data, b.asks.data)) =
        if fold.TwoSided then [(id, fold.top depth)] else [] := by
  have hfits : ∀ l : List (ℚ × ℚ), (l.take depth).length ≤ kMaxBookLevels := fun l =>
    (List.length_take_le depth l).trans hdepth
  rw [OkxMdDecoder.publishBook_of_fits ⟨_, hfits state.bids.data⟩ ⟨_, hfits state.asks.data⟩ rfl
    rfl, h.bids, h.asks]
  by_cases htwo : fold.TwoSided
  · rw [if_neg (not_or.mpr htwo), if_pos htwo]
    exact ⟨by simp [MdOutput.bookAndBbo], rfl⟩
  · have hside : fold.bids.toList = [] ∨ fold.asks.toList = [] := by
      by_contra hsides
      exact htwo (not_or.mp hsides)
    rw [if_pos hside, if_neg htwo]
    exact ⟨List.not_mem_nil, rfl⟩

theorem publishesFold_of_listsFolds (h : s.ListsFolds)
    (hsubs : s.decoder.subs.Regular kMaxBookLevels) (e : OkxMessage × Nat) :
    s.PublishesFold e := by
  obtain ⟨m, recvNs⟩ := e
  have hquiet : ∀ out : List MdOutput, MdOutput.Quiet out → .overflow ∉ out ∧
      (MdOutput.books out).map (fun b => (b.instrumentId, b.bids.data, b.asks.data)) = [] :=
    fun out hout => ⟨hout.2, by rw [hout.1, List.map_nil]⟩
  unfold PublishesFold expected
  obtain ⟨symbol, f, hm⟩ | ⟨hsides, symbol, hm⟩ | ⟨hsides, -, hbook⟩ := kind m
  · by_cases hid : (s.decoder.subs.find symbol).1 = 0
    · rw [step_books_unknown hm hid]
      simpa [hm, hid] using hquiet [] MdOutput.quiet_nil
    · rw [step_books hm hsubs hid]
      simpa [hm, hid] using
        books_publishBook ((h symbol hid).apply f) (hsubs.find_depth hid).2 _ recvNs
  · rw [hsides]
    by_cases hid : (s.decoder.subs.find symbol).1 = 0
    · rw [step_price_unknown hm hid]
      exact hquiet [] MdOutput.quiet_nil
    · rw [step_price hm hsubs hid]
      exact hquiet [] MdOutput.quiet_nil
  · rw [hsides]
    exact hquiet _ (step_other hsides hbook recvNs).2

/-- **When the books follow the folds.** In a session over symbols subscribed with depths from 1 to
`kMaxBookLevels`: the ladders list the merged books in every state, and every books frame publishes
the best levels of its symbol's, exactly when mark prices and index tickers only ever meet empty
ladders. -/
theorem books_follow_fold_iff {subs : SubscriptionMap} (hsubs : subs.Regular kMaxBookLevels)
    (messages : List (OkxMessage × Nat)) :
    let start : OkxRun := { decoder := { subs := subs } }
    (Machine.AllStates step ListsFolds start messages ∧
        Machine.AlongRun step PublishesFold start messages) ↔
      Machine.AlongRun step SparesLadders start messages := by
  intro start
  have hstart : start.ListsFolds := fun _ _ => Ladders.lists_empty
  have hiff : Machine.AllStates step ListsFolds start messages ↔
      Machine.AlongRun step SparesLadders start messages :=
    Machine.allStates_iff_alongRun (J := fun s : OkxRun => s.decoder.subs.Regular kMaxBookLevels)
      (fun s e hs => regular_step hs e) (fun s e hs h => listsFolds_step_iff h hs e) hsubs hstart
      messages
  have hpublished : Machine.AllStates step ListsFolds start messages →
      Machine.AlongRun step PublishesFold start messages :=
    Machine.AllStates.alongRun (J := fun s : OkxRun => s.decoder.subs.Regular kMaxBookLevels)
      (fun s e hs => regular_step hs e) (fun s e hs h => publishesFold_of_listsFolds h hs e) hsubs
  exact (and_iff_left_of_imp hpublished).trans hiff

/-- Two symbols, with a mark price before the first snapshot and trades in between. -/
theorem books_follow_fold_iff_session :
    let subs := (({} : SubscriptionMap).subscribe 1001 "BTC-USDT-SWAP" 10).subscribe
      1002 "ETH-USDT" 1
    let messages : List (OkxMessage × Nat) := [
      (.markPrice "BTC-USDT-SWAP", 1),
      (.books .books "BTC-USDT-SWAP" (some .snapshot) [(100, 1), (99, 2)] [(101, 1)], 2),
      (.books .books5 "ETH-USDT" none [(30, 1), (29, 1)] [(31, 4)], 3),
      (.trades "ETH-USDT" 30 1 .SELL, 4),
      (.books .books "BTC-USDT-SWAP" (some .update) [(100, 0)] [], 5)]
    Machine.AlongRun step PublishesFold { decoder := { subs := subs } } messages := by
  intro subs messages
  have hsubs : subs.Regular kMaxBookLevels :=
    ((SubscriptionMap.regular_empty _).subscribe rfl "BTC-USDT-SWAP" (by decide)
      (by decide)).subscribe rfl "ETH-USDT" (by decide) (by decide)
  exact ((books_follow_fold_iff hsubs messages).mpr (by decide +kernel)).2

/-- A mark price in between makes the next update's levels the whole book. -/
theorem book_lost_at_mark_price :
    let subs := ({} : SubscriptionMap).subscribe 1001 "BTC-USDT-SWAP" 10
    let start : OkxRun := { decoder := { subs := subs } }
    let update : OkxMessage × Nat :=
      (.books .books "BTC-USDT-SWAP" (some .update) [(98, 5)] [(103, 7)], 3)
    let messages : List (OkxMessage × Nat) := [
      (.books .books "BTC-USDT-SWAP" (some .snapshot) [(100, 1), (99, 2)] [(101, 1)], 1),
      (.markPrice "BTC-USDT-SWAP", 2)]
    (∀ e ∈ messages ++ [update], e.1.arg ∈ buildSubscribePayload "BTC-USDT-SWAP" 10) ∧
      (MdOutput.books (step (Machine.exec step start messages) update).2).map
        (fun b => (b.bids.data, b.asks.data)) = [([(98, 5)], [(103, 7)])] ∧
      (Machine.exec step start messages).expected update.1 =
        [(1001, [(100, 1), (99, 2), (98, 5)], [(101, 1), (103, 7)])] ∧
      ¬ Machine.AlongRun step PublishesFold start (messages ++ [update]) := by
  decide +kernel

end OkxRun

end BptCore.MdGateway
