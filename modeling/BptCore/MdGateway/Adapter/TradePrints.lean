import BptCore.MdGateway.Adapter.DeribitMdDecoder
import BptCore.MdGateway.Adapter.HyperliquidMdDecoder

/-!
# The prints of a trades frame

All three venues send trades in an array, which may have more than one. The Deribit and the
Hyperliquid decoder loop over it; the OKX decoder reads the first element alone.

* **`Print`** — a trade as a venue reports it, **`VenueFrame.Carries`** the trades frames on the
  wire.
* **`okx_published`**, **`hyperliquid_published`**, **`deribit_published`** — what the decoders
  make of such a frame.
* **`published_eq_prints_iff`** — which frames are published print by print.
-/

namespace BptCore.MdGateway

structure Print where
  price : ℚ
  qty : ℚ
  /-- Of the aggressor. -/
  side : TradeSide
  deriving DecidableEq

def Print.output (instrumentId recvNs : Nat) (p : Print) : MdOutput :=
  .trade
    { timestampNs := recvNs, instrumentId := instrumentId, price := p.price, qty := p.qty
      side := p.side }

/-! ## Trades on the wire -/

/-- OKX and Deribit spell the aggressor's side out. -/
def TradeSide.wire : TradeSide → String
  | .BUY => "buy"
  | .SELL => "sell"

/-- Hyperliquid names the side of the book that the aggressor joins. -/
def TradeSide.bookSide : TradeSide → String
  | .BUY => "B"
  | .SELL => "A"

/-- The element of the array is the trade `p`; other fields are left open. -/
def OkxEntry.IsPrint (element : Option OkxEntry) (p : Print) : Prop :=
  ∃ entry, element = some entry ∧
    entry.px = some p.price ∧ entry.sz = some p.qty ∧ entry.side = some p.side.wire

def HyperliquidTrade.IsPrint (coin : String) (element : Option HyperliquidTrade) (p : Print) :
    Prop :=
  ∃ trade, element = some trade ∧ trade.coin = some coin ∧
    trade.px = some p.price ∧ trade.sz = some p.qty ∧ trade.side = some p.side.bookSide

def DeribitTrade.IsPrint (element : Option DeribitTrade) (p : Print) : Prop :=
  ∃ trade, element = some trade ∧
    trade.price = some p.price ∧ trade.amount = some p.qty ∧ trade.direction = some p.side.wire

/-- The Deribit channel of a symbol's trades, such as `trades.BTC-PERPETUAL.100ms`. -/
def tradesChannel (symbol cadence : String) : String := "trades." ++ symbol ++ "." ++ cadence

/-- A venue's decoder, and a frame that it receives. -/
inductive VenueFrame where
  | okx (d : OkxMdDecoder) (frame : OkxFrame)
  | hyperliquid (d : HyperliquidMdDecoder) (frame : HyperliquidFrame)
  | deribit (d : DeribitMdDecoder) (frame : DeribitFrame)

namespace VenueFrame

def exchange : VenueFrame → ExchangeId
  | okx .. => .OKX
  | hyperliquid .. => .HYPERLIQUID
  | deribit .. => .DERIBIT

/-- The instrument that the decoder finds for a symbol, zero for one that is not subscribed. -/
def instrumentOf : VenueFrame → String → Nat
  | okx d _, symbol => (d.subs.find symbol).1
  | hyperliquid d _, symbol => d.subs.findId symbol
  | deribit d _, symbol => d.subs.findId symbol

def published (recvNs : Nat) : VenueFrame → List MdOutput
  | okx d frame => (d.decode frame recvNs).2
  | hyperliquid d frame => d.decode frame recvNs
  | deribit d frame => (d.decode frame recvNs).2

/-- The frame is one of the venue's trades channel for `symbol`, with the trades `prints`. -/
def Carries (symbol : String) (prints : List Print) : VenueFrame → Prop
  | okx _ frame =>
    frame.event = none ∧ frame.channel = some "trades" ∧ frame.instId = some symbol ∧
      ∃ data, frame.data = some data ∧ List.Forall₂ OkxEntry.IsPrint data prints
  | hyperliquid _ frame =>
    frame.channel = some "trades" ∧
      ∃ data, frame.data = some (.array data) ∧
        List.Forall₂ (HyperliquidTrade.IsPrint symbol) data prints
  | deribit _ frame =>
    frame.method = some "subscription" ∧ symbol ≠ "" ∧
      ∃ params cadence data, frame.params = some params ∧ '.' ∉ cadence.toList ∧
        params.channel = some (tradesChannel symbol cadence) ∧
        params.data = some (.array data) ∧ List.Forall₂ DeribitTrade.IsPrint data prints

end VenueFrame

/-! ## What the decoders make of them -/

/-- A loop that makes of every element what its print asks for. -/
theorem filterMap_eq_of_forall₂ {α β γ : Type*} {R : α → β → Prop} {f : α → Option γ} {g : β → γ}
    (hstep : ∀ a b, R a b → f a = some (g b)) {l : List α} {l' : List β}
    (h : List.Forall₂ R l l') : l.filterMap f = l'.map g := by
  induction h with
  | nil => rfl
  | cons hhead _ ih => rw [List.filterMap_cons_some (hstep _ _ hhead), List.map_cons, ih]

theorem wire_eq_sell_iff (side : TradeSide) : side.wire = "sell" ↔ side = .SELL := by
  cases side <;> decide

theorem bookSide_eq_B_iff (side : TradeSide) : side.bookSide = "B" ↔ side = .BUY := by
  cases side <;> decide

theorem ite_sell (side : TradeSide) :
    (if side = .SELL then .SELL else .BUY : TradeSide) = side := by
  cases side <;> rfl

theorem ite_buy (side : TradeSide) : (if side = .BUY then .BUY else .SELL : TradeSide) = side := by
  cases side <;> rfl

/-- The symbol is what stands between the prefix and the last dot. -/
theorem channelOf_tradesChannel {symbol cadence : String} (hsymbol : symbol ≠ "")
    (hcadence : '.' ∉ cadence.toList) :
    channelOf (tradesChannel symbol cadence) = some (.trades, symbol) := by
  have hname : (tradesChannel symbol cadence).toList =
      "trades.".toList ++ (symbol.toList ++ '.' :: cadence.toList) := by
    simp [tradesChannel, String.toList_append, List.append_assoc]
  have hpos : 0 < symbol.toList.length := by
    refine List.length_pos_iff.mpr fun hnil => hsymbol ?_
    exact String.toList_eq_nil_iff.mp hnil
  have hdot : rfind '.' (tradesChannel symbol cadence).toList =
      some (7 + symbol.toList.length) := by
    -- from the end, the cadence comes before the first dot
    have hidx : (tradesChannel symbol cadence).toList.reverse.idxOf '.' =
        cadence.toList.length := by
      rw [hname, List.reverse_append, List.reverse_append, List.reverse_cons, List.append_assoc,
        List.append_assoc, List.idxOf_append_of_notMem (by simpa using hcadence)]
      simp
    rw [rfind, if_pos (by rw [hname]; simp), hidx, hname]
    simp only [List.length_append, List.length_cons]
    congr 1
    have hprefix : "trades.".toList.length = 7 := by decide
    omega
  have hcut : withoutCadence 7 (tradesChannel symbol cadence).toList = symbol.toList := by
    have hdrop : (tradesChannel symbol cadence).toList.drop 7 =
        symbol.toList ++ '.' :: cadence.toList := by
      rw [hname]
      exact List.drop_left' (by decide)
    rw [withoutCadence, hdot, hdrop]
    dsimp only
    rw [if_pos (by omega), Nat.add_sub_cancel_left, List.take_left]
  have hquote : (tradesChannel symbol cadence).startsWith "quote." = false := by
    simp [tradesChannel]
  have htrades : (tradesChannel symbol cadence).startsWith "trades." = true := by
    simp [tradesChannel]
  simp only [channelOf, hquote, htrades, Bool.false_eq_true, if_false, if_true, hcut,
    String.ofList_toList]

theorem deribit_published {d : DeribitMdDecoder} {frame : DeribitFrame} {symbol : String}
    {prints : List Print} (h : (VenueFrame.deribit d frame).Carries symbol prints)
    (hsub : d.subs.findId symbol ≠ 0) (recvNs : Nat) :
    (d.decode frame recvNs).2 = prints.map (Print.output (d.subs.findId symbol) recvNs) := by
  obtain ⟨hmethod, hsymbol, params, cadence, data, hparams, hcadence, hchannel, hdata, hprints⟩ := h
  have hnote : DeribitMdDecoder.notification? frame = some (.trades, symbol, .array data) := by
    simp [DeribitMdDecoder.notification?, hparams, hchannel, hdata,
      channelOf_tradesChannel hsymbol hcadence]
  have hheartbeat : frame.method ≠ some "heartbeat" := by rw [hmethod]; decide
  rw [DeribitMdDecoder.decode, if_neg hheartbeat, if_pos hmethod, hnote]
  simp only [DeribitMdDecoder.handleNotification, if_neg hsub]
  refine filterMap_eq_of_forall₂ ?_ hprints
  rintro element p ⟨trade, rfl, hprice, hamount, hdirection⟩
  simp [Print.output, hprice, hamount, hdirection, wire_eq_sell_iff, ite_sell]

theorem hyperliquid_published {d : HyperliquidMdDecoder} {frame : HyperliquidFrame}
    {symbol : String} {prints : List Print}
    (h : (VenueFrame.hyperliquid d frame).Carries symbol prints)
    (hsub : d.subs.findId symbol ≠ 0) (recvNs : Nat) :
    d.decode frame recvNs = prints.map (Print.output (d.subs.findId symbol) recvNs) := by
  obtain ⟨hchannel, data, hdata, hprints⟩ := h
  have hbook : ("trades" : String) ≠ "l2Book" := by decide
  simp only [HyperliquidMdDecoder.decode, hchannel, hdata, if_neg hbook, if_true]
  refine filterMap_eq_of_forall₂ ?_ hprints
  rintro element p ⟨trade, rfl, hcoin, hpx, hsz, hside⟩
  simp [HyperliquidMdDecoder.handleTrade, Print.output, hcoin, hpx, hsz, hside, hsub,
    bookSide_eq_B_iff, ite_buy]

/-- The first trade, and no other. -/
theorem okx_published {d : OkxMdDecoder} {frame : OkxFrame} {symbol : String}
    {prints : List Print} (h : (VenueFrame.okx d frame).Carries symbol prints)
    (hsub : (d.subs.find symbol).1 ≠ 0) (recvNs : Nat) :
    (d.decode frame recvNs).2 =
      (prints.take 1).map (Print.output (d.subs.find symbol).1 recvNs) := by
  obtain ⟨hevent, hchannel, hinstId, data, hdata, hprints⟩ := h
  cases hprints with
  | nil =>
    -- `data_arr.at(0)` fails on an empty array
    have hnone : OkxMdDecoder.dataOf frame = none := by
      simp [OkxMdDecoder.dataOf, hevent, hchannel, hinstId, hdata]
    rw [OkxMdDecoder.decode, hnone]
    rfl
  | cons hhead _ =>
    obtain ⟨entry, rfl, hpx, hsz, hside⟩ := hhead
    have hentry : OkxMdDecoder.dataOf frame = some ("trades", symbol, entry) := by
      simp [OkxMdDecoder.dataOf, hevent, hchannel, hinstId, hdata]
    have hclass : ∀ depth, classify "trades" depth = .Trades := fun depth => if_pos (by decide)
    simp only [OkxMdDecoder.decode, hentry, if_neg hsub, hclass]
    simp [OkxMdDecoder.handleTrades, Print.output, hpx, hsz, hside, wire_eq_sell_iff, ite_sell]

/-! ## The prints of any frame -/

/-- **The lost prints.** A trades frame of a subscribed instrument is published print by print, in
order, whatever it carries and whatever the decoder has seen, exactly when it is not a frame of OKX
with more than one trade. -/
theorem published_eq_prints_iff {f : VenueFrame} {symbol : String} {prints : List Print}
    (hcarries : f.Carries symbol prints) (hsub : f.instrumentOf symbol ≠ 0) (recvNs : Nat) :
    f.published recvNs = prints.map (Print.output (f.instrumentOf symbol) recvNs) ↔
      f.exchange ≠ .OKX ∨ prints.length ≤ 1 := by
  cases f with
  | okx d frame =>
    rw [VenueFrame.published, okx_published hcarries hsub]
    constructor
    · intro heq
      have hlen := congrArg List.length heq
      simp only [List.length_map, List.length_take] at hlen
      right
      omega
    · intro h
      have hone : prints.length ≤ 1 := h.resolve_left fun hne => hne rfl
      rw [List.take_of_length_le hone]
      rfl
  | hyperliquid d frame =>
    exact iff_of_true (hyperliquid_published hcarries hsub recvNs) (.inl fun h => by cases h)
  | deribit d frame =>
    exact iff_of_true (deribit_published hcarries hsub recvNs) (.inl fun h => by cases h)

def twoPrints : List Print := [⟨60000, 1, .BUY⟩, ⟨60001, 2, .SELL⟩]

/-- A Hyperliquid frame with two trades. -/
theorem published_eq_prints_two :
    let f : VenueFrame := .hyperliquid { subs := ({} : SubscriptionMap).subscribe 7 "BTC" 0 }
      { channel := some "trades"
        data := some (.array
          [some ⟨some "BTC", some 60000, some 1, some "B"⟩,
            some ⟨some "BTC", some 60001, some 2, some "A"⟩]) }
    f.published 5 = twoPrints.map (Print.output 7 5) := by
  intro f
  have hcarries : f.Carries "BTC" twoPrints :=
    ⟨rfl, _, rfl, .cons ⟨_, rfl, rfl, rfl, rfl, rfl⟩ (.cons ⟨_, rfl, rfl, rfl, rfl, rfl⟩ .nil)⟩
  have hsub : f.instrumentOf "BTC" = 7 := by decide
  have h := (published_eq_prints_iff hcarries (by rw [hsub]; decide) 5).mpr (.inl (by decide))
  rwa [hsub] at h

/-- An OKX frame with two trades: the second is never published. -/
theorem published_okx_two :
    let f : VenueFrame := .okx { subs := ({} : SubscriptionMap).subscribe 7 "BTC-USDT-SWAP" 5 }
      { channel := some "trades", instId := some "BTC-USDT-SWAP"
        data := some
          [some { px := some 60000, sz := some 1, side := some "buy" },
            some { px := some 60001, sz := some 2, side := some "sell" }] }
    f.Carries "BTC-USDT-SWAP" twoPrints ∧ f.instrumentOf "BTC-USDT-SWAP" ≠ 0 ∧
      f.published 5 ≠ twoPrints.map (Print.output (f.instrumentOf "BTC-USDT-SWAP") 5) ∧
      f.published 5 = [Print.output 7 5 ⟨60000, 1, .BUY⟩] := by
  intro f
  refine ⟨⟨rfl, rfl, rfl, _, rfl, ?_⟩, by decide, by decide +kernel, by decide +kernel⟩
  exact .cons ⟨_, rfl, rfl, rfl, rfl⟩ (.cons ⟨_, rfl, rfl, rfl, rfl⟩ .nil)

end BptCore.MdGateway
