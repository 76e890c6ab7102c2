import BptCore.MdGateway.Adapter.OkxMdDecoder

/-!
# The Hyperliquid market data decoder

Frames of three channels. A frame is modelled by what the JSON reader finds in it: a field is
`none` when it is absent, not of the type read, or a string that is no number.

* **`HyperliquidMdDecoder.decode`** — one frame.
* **`captureSide_eq`** — the levels of a side that go into the published book.
* **`decode_within_capacity`** — the depth is capped, so no level is appended to a full side.
-/

namespace BptCore.MdGateway

structure HyperliquidLevel where
  px : Option ℚ := none
  sz : Option ℚ := none
  deriving DecidableEq

/-- Price and size; a string that is no number leaves a zero. -/
def HyperliquidLevel.read (lvl : HyperliquidLevel) : ℚ × ℚ := (lvl.px.getD 0, lvl.sz.getD 0)

structure HyperliquidTrade where
  coin : Option String := none
  px : Option ℚ := none
  sz : Option ℚ := none
  side : Option String := none
  deriving DecidableEq

/-- The fields that the branches of `decode` read of an object. -/
structure HyperliquidObject where
  coin : Option String := none
  /-- The sides, `none` for one that is not an array, and in them the levels, `none` for one that
  is not an object. -/
  levels : Option (List (Option (List (Option HyperliquidLevel)))) := none
  /-- `funding` of the nested `ctx`. -/
  ctx : Option (Option ℚ) := none
  deriving DecidableEq

inductive HyperliquidData where
  | object (data : HyperliquidObject)
  | array (trades : List (Option HyperliquidTrade))
  | scalar
  deriving DecidableEq

structure HyperliquidFrame where
  channel : Option String := none
  data : Option HyperliquidData := none
  deriving DecidableEq

/-! ## Book levels -/

/-- The loop over a side, from its level `levelIdx` on. It stops at a level that is not an object,
and after the first one where no book is asked for. -/
def captureSide (depthCap : Nat) :
    Nat → List (Option HyperliquidLevel) → Levels → Option Levels
  | _, [], dst => some dst
  | _, none :: _, dst => some dst
  | levelIdx, some lvl :: side, dst =>
    if depthCap = 0 then some dst
    else
      -- levels past the cap are still read
      (if levelIdx < depthCap then dst.emplaceBack lvl.read else some dst).bind
        (captureSide depthCap (levelIdx + 1) side)

/-- The level that goes into the BBO, whose fields are zero otherwise. -/
def topOfSide : List (Option HyperliquidLevel) → ℚ × ℚ
  | some lvl :: _ => lvl.read
  | _ => (0, 0)

/-- The levels before the first one that is not an object. -/
def readable : List (Option HyperliquidLevel) → List (ℚ × ℚ)
  | some lvl :: side => lvl.read :: readable side
  | _ => []

/-- The levels before `levelIdx` are in `dst`, as far as the cap lets them. -/
theorem captureSide_eq {depthCap : Nat} (hpos : depthCap ≠ 0)
    (side : List (Option HyperliquidLevel)) {levelIdx : Nat} {dst : Levels}
    (hsize : dst.size = min levelIdx depthCap) :
    captureSide depthCap levelIdx side dst = dst.fill depthCap (readable side) := by
  induction side generalizing levelIdx dst with
  | nil => rfl
  | cons head side ih =>
    cases head with
    | none => rfl
    | some lvl =>
      rw [captureSide, if_neg hpos, readable, InlineVec.fill]
      by_cases hroom : levelIdx < depthCap
      · rw [if_pos hroom, if_neg (by omega)]
        refine Option.bind_congr fun dst' hdst' => ih ?_
        have hgrown := InlineVec.size_emplaceBack hdst'
        omega
      · -- from here on nothing is appended
        have hfull : depthCap ≤ dst.size := by omega
        rw [if_neg hroom, if_pos hfull, Option.bind_some, ih (by omega)]
        exact InlineVec.fill_of_full hfull _

theorem captureSide_isSome {depthCap : Nat} (hcap : depthCap ≤ kMaxBookLevels)
    (side : List (Option HyperliquidLevel)) : (captureSide depthCap 0 side .empty).isSome := by
  by_cases hpos : depthCap = 0
  · cases side with
    | nil => rfl
    | cons head side => cases head <;> simp [captureSide, hpos]
  · rw [captureSide_eq hpos side (by simp [InlineVec.size, InlineVec.empty]), InlineVec.fill_eq,
      Option.isSome_iff_ne_none, Ne, InlineVec.ofList?_eq_none_iff]
    have htake := List.length_take_le (depthCap - (InlineVec.empty : Levels).size) (readable side)
    simp only [InlineVec.empty, InlineVec.size, List.nil_append, List.length_nil] at htake ⊢
    omega

/-! ## The decoder -/

structure HyperliquidMdDecoder where
  subs : SubscriptionMap := {}

namespace HyperliquidMdDecoder

variable (d : HyperliquidMdDecoder)

/-- `depth_cap`. -/
def depthCap (instrumentId : Nat) : Nat := min (d.subs.findDepth instrumentId) kMaxBookLevels

/-- A side that is not an array is skipped, but counts. -/
def handleL2Book (recvNs : Nat) (book : HyperliquidObject) : List MdOutput :=
  match book.coin with
  | none => []
  | some coin =>
    let instrumentId := d.subs.findId coin
    if instrumentId = 0 then []
    else
      match book.levels with
      | some (bidSide :: askSide :: _) =>
        let bid := topOfSide (bidSide.getD [])
        let ask := topOfSide (askSide.getD [])
        match captureSide (d.depthCap instrumentId) 0 (bidSide.getD []) .empty,
          captureSide (d.depthCap instrumentId) 0 (askSide.getD []) .empty with
        | some bids, some asks =>
          .bbo
            { timestampNs := recvNs, instrumentId := instrumentId, bidPrice := bid.1
              bidQty := bid.2, askPrice := ask.1, askQty := ask.2 } ::
          if d.depthCap instrumentId > 0 ∧ (bids.data ≠ [] ∨ asks.data ≠ []) then
            [.orderBook
              { timestampNs := recvNs, instrumentId := instrumentId, bids := bids, asks := asks }]
          else []
        | _, _ => [.overflow]
      | _ => []

/-- Each trade names its own coin. -/
def handleTrade (recvNs : Nat) (obj : HyperliquidTrade) : Option MdOutput :=
  match obj.coin with
  | none => none
  | some coin =>
    let instrumentId := d.subs.findId coin
    if instrumentId = 0 then none
    else
      some (.trade
        { timestampNs := recvNs, instrumentId := instrumentId, price := obj.px.getD 0
          qty := obj.sz.getD 0, side := if obj.side = some "B" then .BUY else .SELL })

def handleTrades (recvNs : Nat) (trades : List (Option HyperliquidTrade)) : List MdOutput :=
  trades.filterMap fun trade => trade.bind (d.handleTrade recvNs)

/-- The adapter sets the callback when it is built. -/
def handleAssetCtx (recvNs : Nat) (data : HyperliquidObject) : List MdOutput :=
  match data.coin with
  | none => []
  | some coin =>
    let instrumentId := d.subs.findId coin
    if instrumentId = 0 then []
    else
      match data.ctx with
      | none => []
      | some funding =>
        [.fundingRate
          { instrumentId := instrumentId, exchangeId := .HYPERLIQUID
            rateBps := roundE6 (funding.getD 0), nextFundingTsNs := 0, collectedTsNs := recvNs }]

def decode (frame : HyperliquidFrame) (recvNs : Nat) : List MdOutput :=
  match frame.channel, frame.data with
  | some channel, some data =>
    if channel = "l2Book" then
      match data with
      | .object book => d.handleL2Book recvNs book
      | _ => []
    else if channel = "trades" then
      match data with
      | .array trades => d.handleTrades recvNs trades
      | _ => []
    else if channel = "activeAssetCtx" then
      match data with
      | .object data => d.handleAssetCtx recvNs data
      | _ => []
    else []
  | _, _ => []

/-! ## The capacity of a side -/

theorem handleL2Book_within_capacity (recvNs : Nat) (book : HyperliquidObject) :
    .overflow ∉ d.handleL2Book recvNs book := by
  have hcapture : ∀ instrumentId side,
      ∃ lvls, captureSide (d.depthCap instrumentId) 0 side .empty = some lvls := by
    intro instrumentId side
    exact Option.isSome_iff_exists.mp (captureSide_isSome (Nat.min_le_right _ _) side)
  unfold handleL2Book
  cases book.coin with
  | none => exact List.not_mem_nil
  | some coin =>
    dsimp only
    split
    · exact List.not_mem_nil
    · split
      next bidSide askSide _ _ =>
        obtain ⟨bids, hbids⟩ := hcapture (d.subs.findId coin) (bidSide.getD [])
        obtain ⟨asks, hasks⟩ := hcapture (d.subs.findId coin) (askSide.getD [])
        rw [hbids, hasks]
        dsimp only
        split <;> simp
      next => exact List.not_mem_nil

theorem handleTrades_within_capacity (recvNs : Nat) (trades : List (Option HyperliquidTrade)) :
    .overflow ∉ d.handleTrades recvNs trades := by
  intro h
  obtain ⟨trade, -, htrade⟩ := List.mem_filterMap.mp h
  obtain ⟨obj, -, hobj⟩ := Option.bind_eq_some_iff.mp htrade
  unfold handleTrade at hobj
  split at hobj
  · cases hobj
  · obtain ⟨-, hout⟩ := Option.ite_none_left_eq_some.mp hobj
    cases hout

theorem handleAssetCtx_within_capacity (recvNs : Nat) (data : HyperliquidObject) :
    .overflow ∉ d.handleAssetCtx recvNs data := by
  unfold handleAssetCtx
  cases data.coin with
  | none => exact List.not_mem_nil
  | some coin =>
    dsimp only
    split
    · exact List.not_mem_nil
    · cases data.ctx <;> simp

/-- Whatever the depth of the subscription and the frame, every level is appended below the
capacity. -/
theorem decode_within_capacity (frame : HyperliquidFrame) (recvNs : Nat) :
    .overflow ∉ d.decode frame recvNs := by
  unfold decode
  cases frame.channel with
  | none => exact List.not_mem_nil
  | some channel =>
    cases frame.data with
    | none => exact List.not_mem_nil
    | some data =>
      cases data with
      | object data =>
        dsimp only
        split_ifs
        · exact d.handleL2Book_within_capacity recvNs data
        · exact List.not_mem_nil
        · exact d.handleAssetCtx_within_capacity recvNs data
        · exact List.not_mem_nil
      | array trades =>
        dsimp only
        split_ifs
        · exact List.not_mem_nil
        · exact d.handleTrades_within_capacity recvNs trades
        · exact List.not_mem_nil
        · exact List.not_mem_nil
      | scalar =>
        dsimp only
        split_ifs <;> exact List.not_mem_nil

end HyperliquidMdDecoder

end BptCore.MdGateway
