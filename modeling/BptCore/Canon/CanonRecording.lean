import BptCore.Canon.CanonSbe
import BptCore.Canon.MergeMain

/-!
# Recording and replaying canon

The venue decoders hand what they publish to a recording publisher, which encodes it on its stack
and gives the bytes to the canon writer. The backtest harness reads such files back, decodes each
record and hands it to the strategy, with the clock set to the record's time.

* **`encodeBbo`**, **`encodeTrade`**, **`encodeBook`**, **`encodeFunding`** — the encoders, over
  whatever the stack buffer held.
* **`Publication.decode_payload`** — what was encoded decodes to itself.
* **`CanonRecordingPublisher.recorded_eq`** — the file that a recording leaves.
* **`replayCanon`** — the harness, on any files.
* **`replayCanon_recorded`** — what the harness makes of recordings.
-/

namespace BptCore.Canon

open Flyweight MdGateway

/-! ## Encoders -/

def sbeSchemaId : Nat := 1
def sbeSchemaVersion : Nat := 14

/-- `sbeBlockLength` of the four messages, and of an entry of either side of a book. -/
def MdMarketDataBlockLength : Nat := 56
def MdTradeBlockLength : Nat := 41
def FundingRateBlockLength : Nat := 29
def MdOrderBookBlockLength : Nat := 24
def levelBlockLength : Nat := 16

/-- A setter of a message: a field of the block, which begins behind the header. -/
def setField (offset width n : Nat) : Write := .uint (headerLength + offset) width n

/-- The message header with the schema of the generated code. -/
def messageHeader (blockLength templateId : Nat) : List Write :=
  headerWrites blockLength templateId sbeSchemaId sbeSchemaVersion

def bboWrites (bbo : SbeBbo) (seqNum : Nat) : List Write :=
  messageHeader MdMarketDataBlockLength MdMarketDataId ++
    [setField 0 8 bbo.timestampNs, setField 8 8 bbo.instrumentId, setField 16 8 bbo.bidPrice,
      setField 24 8 bbo.bidQty, setField 32 8 bbo.askPrice, setField 40 8 bbo.askQty,
      setField 48 8 seqNum]

def tradeWrites (trade : SbeTrade) (seqNum : Nat) : List Write :=
  messageHeader MdTradeBlockLength MdTradeId ++
    [setField 0 8 trade.timestampNs, setField 8 8 trade.instrumentId, setField 16 8 trade.price,
      setField 24 8 trade.qty, setField 32 1 trade.side, setField 33 8 seqNum]

def fundingWrites (fr : SbeFunding) : List Write :=
  messageHeader FundingRateBlockLength FundingRateId ++
    [setField 0 1 fr.exchangeId, setField 1 8 fr.instrumentId, setField 9 4 fr.rateBps,
      setField 13 8 fr.nextFundingTsNs, setField 21 8 fr.collectedTsNs]

/-- An entry of either group. -/
def levelEntry (position : Nat) (lvl : Nat × Nat) : List Write :=
  [.uint position 8 lvl.1, .uint (position + 8) 8 lvl.2]

/-- `bidsCount` or `asksCount`, and an entry for each level. -/
def sideWrites (position : Nat) (lvls : List (Nat × Nat)) : List Write :=
  groupWrites levelBlockLength levelEntry position lvls

/-- The bytes of a side of so many levels. -/
def sideLength (n : Nat) : Nat := groupLength levelBlockLength n

def bidsPosition : Nat := headerLength + MdOrderBookBlockLength

def bookWrites (book : SbeBook) (seqNum : Nat) : List Write :=
  messageHeader MdOrderBookBlockLength MdOrderBookId ++
    [setField 0 8 book.timestampNs, setField 8 8 book.instrumentId, setField 16 8 seqNum] ++
    sideWrites bidsPosition book.bids.data ++
    sideWrites (bidsPosition + sideLength book.bids.size) book.asks.data

/-- The start of an encoder: `needed` bytes of the buffer are cleared, or nothing is done. -/
def encodeBlock (needed : Nat) (ws : List Write) (buf : List UInt8) : Nat × List UInt8 :=
  if buf.length < needed then (0, buf)
  else (needed, putAll (List.replicate needed 0 ++ buf.drop needed) ws)

def encodeBbo (bbo : SbeBbo) (seqNum : Nat) (buf : List UInt8) : Nat × List UInt8 :=
  encodeBlock (headerLength + MdMarketDataBlockLength) (bboWrites bbo seqNum) buf

def encodeTrade (trade : SbeTrade) (seqNum : Nat) (buf : List UInt8) : Nat × List UInt8 :=
  encodeBlock (headerLength + MdTradeBlockLength) (tradeWrites trade seqNum) buf

def encodeFunding (fr : SbeFunding) (buf : List UInt8) : Nat × List UInt8 :=
  encodeBlock (headerLength + FundingRateBlockLength) (fundingWrites fr) buf

/-- `MdEncoder::encode`. Nothing is cleared first. -/
def encodeBook (book : SbeBook) (seqNum : Nat) (buf : List UInt8) : Nat × List UInt8 :=
  if book.bids.size > kMaxBookLevels ∨ book.asks.size > kMaxBookLevels then (0, buf)
  else
    let needed := bidsPosition + sideLength book.bids.size + sideLength book.asks.size
    if buf.length < needed then (0, buf) else (needed, putAll buf (bookWrites book seqNum))

/-! ### Every byte of a message is a byte of a field -/

theorem tiles_bboWrites (bbo : SbeBbo) (seqNum : Nat) :
    Tiles 0 (headerLength + MdMarketDataBlockLength) (bboWrites bbo seqNum) :=
  (tiles_headerWrites _ _ _ _).append ⟨rfl, rfl, rfl, rfl, rfl, rfl, rfl, rfl⟩

theorem tiles_tradeWrites (trade : SbeTrade) (seqNum : Nat) :
    Tiles 0 (headerLength + MdTradeBlockLength) (tradeWrites trade seqNum) :=
  (tiles_headerWrites _ _ _ _).append ⟨rfl, rfl, rfl, rfl, rfl, rfl, rfl⟩

theorem tiles_fundingWrites (fr : SbeFunding) :
    Tiles 0 (headerLength + FundingRateBlockLength) (fundingWrites fr) :=
  (tiles_headerWrites _ _ _ _).append ⟨rfl, rfl, rfl, rfl, rfl, rfl⟩

theorem tiles_levelEntry (position : Nat) (lvl : Nat × Nat) :
    Tiles position (position + levelBlockLength) (levelEntry position lvl) := ⟨rfl, rfl, rfl⟩

theorem tiles_sideWrites (position : Nat) (lvls : List (Nat × Nat)) :
    Tiles position (position + sideLength lvls.length) (sideWrites position lvls) :=
  tiles_groupWrites tiles_levelEntry position lvls

theorem tiles_bookWrites (book : SbeBook) (seqNum : Nat) :
    Tiles 0 (bidsPosition + sideLength book.bids.size + sideLength book.asks.size)
      (bookWrites book seqNum) := by
  have hblock : Tiles headerLength bidsPosition
      [setField 0 8 book.timestampNs, setField 8 8 book.instrumentId, setField 16 8 seqNum] :=
    ⟨rfl, rfl, rfl, rfl⟩
  have hheader : Tiles 0 headerLength (messageHeader MdOrderBookBlockLength MdOrderBookId) :=
    tiles_headerWrites _ _ _ _
  exact ((hheader.append hblock).append (tiles_sideWrites _ _)).append (tiles_sideWrites _ _)

/-! ## What is recorded -/

/-- Numbers of the wire type: 64 bits, and for an enumeration one of its values. -/
def SbeBbo.Fits (b : SbeBbo) : Prop :=
  ∀ n ∈ [b.timestampNs, b.instrumentId, b.bidPrice, b.bidQty, b.askPrice, b.askQty], n < 2 ^ 64

def SbeTrade.Fits (t : SbeTrade) : Prop :=
  (∀ n ∈ [t.timestampNs, t.instrumentId, t.price, t.qty], n < 2 ^ 64) ∧ t.side ∈ [0, 1, 255]

def SbeBook.Fits (b : SbeBook) : Prop :=
  (b.timestampNs < 2 ^ 64 ∧ b.instrumentId < 2 ^ 64) ∧
    ∀ lvl ∈ b.bids.data ++ b.asks.data, lvl.1 < 2 ^ 64 ∧ lvl.2 < 2 ^ 64

def SbeFunding.Fits (f : SbeFunding) : Prop :=
  (∀ n ∈ [f.instrumentId, f.nextFundingTsNs, f.collectedTsNs], n < 2 ^ 64) ∧
    f.rateBps < 2 ^ 32 ∧ f.exchangeId ∈ [0, 1, 2, 3, 4, 255]

/-- The overloads of `publish`. -/
inductive Publication where
  | bbo (b : SbeBbo)
  | trade (t : SbeTrade)
  | book (b : SbeBook)
  | funding (f : SbeFunding)
  deriving DecidableEq

namespace Publication

def Fits : Publication → Prop
  | bbo b => b.Fits
  | trade t => t.Fits
  | book b => b.Fits
  | funding f => f.Fits

/-- The time under which it is recorded. -/
def tsNs : Publication → Nat
  | bbo b => b.timestampNs
  | trade t => t.timestampNs
  | book b => b.timestampNs
  | funding f => f.collectedTsNs

def eventType : Publication → EventType
  | bbo _ => .BBO
  | trade _ => .TRADE
  | book _ => .BOOK
  | funding _ => .FUNDING

/-- `CanonScratch`: the size of the buffer on the stack. -/
def scratchSize : Publication → Nat
  | book _ => 2048
  | bbo _ | trade _ | funding _ => 128

def encode (seqNum : Nat) (buf : List UInt8) : Publication → Nat × List UInt8
  | bbo b => encodeBbo b seqNum buf
  | trade t => encodeTrade t seqNum buf
  | book b => encodeBook b seqNum buf
  | funding f => encodeFunding f buf

def writes (seqNum : Nat) : Publication → List Write
  | bbo b => bboWrites b seqNum
  | trade t => tradeWrites t seqNum
  | book b => bookWrites b seqNum
  | funding f => fundingWrites f

/-- The length of the message. -/
def encodedLength : Publication → Nat
  | bbo _ => headerLength + MdMarketDataBlockLength
  | trade _ => headerLength + MdTradeBlockLength
  | book b => bidsPosition + sideLength b.bids.size + sideLength b.asks.size
  | funding _ => headerLength + FundingRateBlockLength

theorem tiles_writes (seqNum : Nat) (pub : Publication) :
    Tiles 0 pub.encodedLength (pub.writes seqNum) := by
  cases pub with
  | bbo b => exact tiles_bboWrites b seqNum
  | trade t => exact tiles_tradeWrites t seqNum
  | book b => exact tiles_bookWrites b seqNum
  | funding f => exact tiles_fundingWrites f

/-- Every message has room on the stack. -/
theorem encodedLength_le (pub : Publication) : pub.encodedLength ≤ pub.scratchSize := by
  cases pub with
  | bbo b => exact (by decide : 64 ≤ 128)
  | trade t => exact (by decide : 49 ≤ 128)
  | book b =>
    have hbids := b.bids.fits
    have hasks := b.asks.fits
    simp only [kMaxBookLevels] at hbids hasks
    simp only [encodedLength, scratchSize, bidsPosition, sideLength, groupLength, headerLength, dimensionsLength,
      MdOrderBookBlockLength, levelBlockLength, InlineVec.size]
    omega
  | funding f => exact (by decide : 37 ≤ 128)

/-- The bytes of the message, which the stack has no part in. -/
def payload (seqNum : Nat) (pub : Publication) : List UInt8 :=
  (putAll (List.replicate pub.encodedLength 0) (pub.writes seqNum)).take pub.encodedLength

/-- The encoder accepts, and the bytes it hands over are the message whatever was there before. -/
theorem encode_eq {buf : List UInt8} (pub : Publication) (seqNum : Nat)
    (hroom : pub.encodedLength ≤ buf.length) :
    (pub.encode seqNum buf).1 = pub.encodedLength ∧
      (pub.encode seqNum buf).2.take (pub.encode seqNum buf).1 = pub.payload seqNum := by
  have htiles := pub.tiles_writes seqNum
  have hsame : ∀ b : List UInt8, pub.encodedLength ≤ b.length →
      (putAll b (pub.writes seqNum)).take pub.encodedLength = pub.payload seqNum := fun b hb =>
    take_putAll_eq hb (by rw [List.length_replicate]) htiles.behind_le htiles.pairwise_disjoint
      fun i hi => htiles.cover (Nat.zero_le i) hi
  have hcleared : ∀ needed, needed ≤ buf.length →
      needed ≤ (List.replicate needed (0 : UInt8) ++ buf.drop needed).length := fun needed _ => by
    rw [List.length_append, List.length_replicate]
    exact Nat.le_add_right _ _
  have hfits := Nat.not_lt.mpr hroom
  cases pub with
  | bbo b =>
    have henc : encodeBbo b seqNum buf = _ := if_neg hfits
    rw [encode, henc]
    exact ⟨rfl, hsame _ (hcleared _ hroom)⟩
  | trade t =>
    have henc : encodeTrade t seqNum buf = _ := if_neg hfits
    rw [encode, henc]
    exact ⟨rfl, hsame _ (hcleared _ hroom)⟩
  | funding f =>
    have henc : encodeFunding f buf = _ := if_neg hfits
    rw [encode, henc]
    exact ⟨rfl, hsame _ (hcleared _ hroom)⟩
  | book b =>
    have hlevels : ¬ (b.bids.size > kMaxBookLevels ∨ b.asks.size > kMaxBookLevels) :=
      not_or.mpr ⟨Nat.not_lt.mpr b.bids.fits, Nat.not_lt.mpr b.asks.fits⟩
    have henc : encodeBook b seqNum buf =
        ((book b).encodedLength, putAll buf (bookWrites b seqNum)) := by
      rw [encodeBook, if_neg hlevels]
      exact if_neg hfits
    have hwritten : (putAll buf (bookWrites b seqNum)).take (book b).encodedLength =
        (book b).payload seqNum := hsame buf hroom
    rw [encode, henc]
    dsimp only
    exact ⟨rfl, hwritten⟩

theorem length_payload (pub : Publication) (seqNum : Nat) :
    (pub.payload seqNum).length = pub.encodedLength := by
  have htiles := pub.tiles_writes seqNum
  rw [payload, List.length_take, length_putAll fun w hw => by
    rw [List.length_replicate]; exact htiles.behind_le w hw, List.length_replicate, Nat.min_self]

theorem holds_payload (pub : Publication) (seqNum : Nat) :
    Holds (pub.payload seqNum) (pub.writes seqNum) :=
  have htiles := pub.tiles_writes seqNum
  holds_take_putAll (by rw [List.length_replicate]) htiles.behind_le htiles.pairwise_disjoint

end Publication

/-! ## Decoding what was encoded -/

section Decode

variable {fw : Flyweights} (hfw : fw.Documented) {buf : List UInt8}

include hfw

theorem decodeMessage_eq {α : Type} {templateId : Nat} (h : Accepted buf templateId)
    (read : Nat → Except Fault α) :
    decodeMessage fw buf templateId read =
      (read (headerLength + (headerAt buf).blockLength)).map some := by
  rw [decodeMessage, wrapForDecodeHeader_eq hfw, if_pos h]
  show (fw.wrapForDecode _ _ _ _).bind _ = _
  rw [hfw.wrapForDecode buf _ _ _ h.2.2]
  rfl

/-- A field that was written is read. -/
theorem blockField_eq {ws : List Write} (h : Holds buf ws) {offset width n : Nat}
    (hw : setField offset width n ∈ ws) (hn : n < 256 ^ width) :
    blockField fw buf offset width = .ok n := h.uint hfw hw hn

/-- The loop over a group that was written, into a vector with room for it. -/
theorem readLevels_eq {lvls : List (Nat × Nat)} {g : Group} {dst : SbeLevels}
    (hbuf : g.position + lvls.length * levelBlockLength ≤ buf.length)
    (hlvls : ∀ lvl ∈ lvls, lvl.1 < 2 ^ 64 ∧ lvl.2 < 2 ^ 64)
    (hlength : g.blockLength = levelBlockLength)
    (h : Holds buf (entryWrites levelBlockLength levelEntry g.position lvls))
    (hroom : dst.size + lvls.length ≤ kMaxBookLevels) :
    ∃ out : SbeLevels, out.data = dst.data ++ lvls ∧
      readLevels fw buf lvls.length g dst =
        .ok ({ g with position := g.position + lvls.length * levelBlockLength }, out) := by
  induction lvls generalizing g dst with
  | nil =>
    refine ⟨dst, (List.append_nil _).symm, ?_⟩
    rw [List.length_nil, Nat.zero_mul]
    rfl
  | cons lvl lvls ih =>
    obtain ⟨price, qty⟩ := lvl
    rw [List.length_cons, Nat.succ_mul] at hbuf
    rw [List.length_cons] at hroom
    obtain ⟨hprice, hqty⟩ := hlvls _ List.mem_cons_self
    have hprices : fw.uint buf g.position 8 = .ok price :=
      h.left.uint hfw List.mem_cons_self hprice
    have hqtys : fw.uint buf (g.position + 8) 8 = .ok qty :=
      h.left.uint hfw (List.mem_cons_of_mem _ List.mem_cons_self) hqty
    -- the level is appended, and the rest follows behind it
    have hnext : fw.next buf g = .ok g.advance := hfw.next buf g (by omega)
    have hplace : dst.size < kMaxBookLevels := by omega
    have hadvance : g.advance.position = g.position + levelBlockLength := by
      rw [Group.position_advance, hlength]
    obtain ⟨dst', hdst'⟩ : ∃ dst', dst.emplaceBack (price, qty) = some dst' :=
      ⟨_, dif_pos hplace⟩
    have hdata : dst'.data = dst.data ++ [(price, qty)] := by
      obtain ⟨_, heq⟩ := Option.dite_none_right_eq_some.mp hdst'
      cases heq
      rfl
    have hsize := InlineVec.size_emplaceBack hdst'
    have hroom' : dst'.size + lvls.length ≤ kMaxBookLevels := by omega
    obtain ⟨out, hout, hrest⟩ := ih (g := g.advance)
      (by rw [hadvance]; omega)
      (fun l hl => hlvls l (List.mem_cons_of_mem _ hl)) hlength
      (by rw [hadvance]; exact h.right) hroom'
    refine ⟨out, by rw [hout, hdata, List.append_assoc]; rfl, ?_⟩
    rw [List.length_cons, readLevels, hnext]
    show (if kMaxBookLevels ≤ dst.size then _ else _) = _
    rw [if_neg (Nat.not_le.mpr hplace), hprices, hqtys]
    simp only [Except.bind, hdst']
    rw [hrest, hadvance, Nat.succ_mul, Nat.add_assoc, Nat.add_comm levelBlockLength]
    rfl

theorem readSide_eq {lvls : SbeLevels} {position : Nat}
    (hbuf : position + sideLength lvls.size ≤ buf.length)
    (hlvls : ∀ lvl ∈ lvls.data, lvl.1 < 2 ^ 64 ∧ lvl.2 < 2 ^ 64)
    (h : Holds buf (sideWrites position lvls.data)) :
    readSide fw buf position = .ok (position + sideLength lvls.size, lvls) := by
  have hcount : lvls.data.length < 2 ^ 16 :=
    Nat.lt_of_le_of_lt lvls.fits (by decide)
  have hgroup : fw.group buf position =
      .ok ⟨levelBlockLength, lvls.data.length, position + dimensionsLength⟩ := by
    rw [hfw.group buf position (by unfold sideLength groupLength at hbuf; omega),
      h.left.groupAt (by decide) hcount]
  have hroom : (InlineVec.empty : SbeLevels).size + lvls.data.length ≤ kMaxBookLevels := by
    rw [InlineVec.size]
    simpa [InlineVec.empty] using lvls.fits
  obtain ⟨out, hout, hread⟩ := readLevels_eq hfw
    (g := ⟨levelBlockLength, lvls.data.length, position + dimensionsLength⟩)
    (by unfold sideLength groupLength InlineVec.size at hbuf; dsimp only; omega) hlvls rfl h.right
    hroom
  have hsame : out = lvls := by
    have hdata : out.data = lvls.data := by rw [hout]; rfl
    cases out
    cases lvls
    cases hdata
    rfl
  rw [readSide, hgroup]
  show (readLevels fw buf lvls.data.length _ _).map _ = _
  rw [hread, hsame, sideLength, groupLength, InlineVec.size, ← Nat.add_assoc]
  rfl

omit hfw in
/-- The header of a message is taken, and the block it announces is there. -/
theorem accepted_of_holds {ws : List Write} {blockLength templateId : Nat}
    (h : Holds buf (messageHeader blockLength templateId ++ ws)) (hblock : blockLength < 2 ^ 16)
    (htemplate : templateId < 2 ^ 16) (hbuf : headerLength + blockLength ≤ buf.length) :
    Accepted buf templateId ∧ (headerAt buf).blockLength = blockLength := by
  have hheader := Holds.headerAt h.left hblock htemplate (by decide)
  unfold Accepted
  rw [hheader]
  exact ⟨⟨by omega, rfl, hbuf⟩, rfl⟩

variable (seqNum : Nat)

theorem decodeBbo_payload {b : SbeBbo} (hb : b.Fits) :
    decodeBbo fw ((Publication.bbo b).payload seqNum) = .ok (some b) := by
  have h : Holds _ (bboWrites b seqNum) := (Publication.bbo b).holds_payload seqNum
  have hlen := (Publication.bbo b).length_payload seqNum
  obtain ⟨haccepted, -⟩ := accepted_of_holds h (by decide) (by decide) hlen.ge
  simp only [SbeBbo.Fits, List.forall_mem_cons] at hb
  obtain ⟨hts, hid, hbidPrice, hbidQty, haskPrice, haskQty, -⟩ := hb
  rw [decodeBbo, decodeMessage_eq hfw haccepted,
    blockField_eq hfw h.right (by simp) hts, blockField_eq hfw h.right (by simp) hid,
    blockField_eq hfw h.right (by simp) hbidPrice, blockField_eq hfw h.right (by simp) hbidQty,
    blockField_eq hfw h.right (by simp) haskPrice, blockField_eq hfw h.right (by simp) haskQty]
  rfl

theorem decodeTrade_payload {t : SbeTrade} (ht : t.Fits) :
    decodeTrade fw ((Publication.trade t).payload seqNum) = .ok (some t) := by
  have h : Holds _ (tradeWrites t seqNum) := (Publication.trade t).holds_payload seqNum
  have hlen := (Publication.trade t).length_payload seqNum
  obtain ⟨haccepted, -⟩ := accepted_of_holds h (by decide) (by decide) hlen.ge
  simp only [SbeTrade.Fits, List.forall_mem_cons] at ht
  obtain ⟨⟨hts, hid, hprice, hqty, -⟩, hside⟩ := ht
  have hside' : t.side < 256 ^ 1 := by
    have hall : ∀ n ∈ [0, 1, 255], n < 256 ^ 1 := by decide
    exact hall _ hside
  rw [decodeTrade, decodeMessage_eq hfw haccepted,
    blockField_eq hfw h.right (by simp) hts, blockField_eq hfw h.right (by simp) hid,
    blockField_eq hfw h.right (by simp) hprice, blockField_eq hfw h.right (by simp) hqty,
    blockField_eq hfw h.right (by simp) hside']
  rfl

theorem decodeFunding_payload {f : SbeFunding} (hf : f.Fits) :
    decodeFunding fw ((Publication.funding f).payload seqNum) = .ok (some f) := by
  have h : Holds _ (fundingWrites f) := (Publication.funding f).holds_payload seqNum
  have hlen := (Publication.funding f).length_payload seqNum
  obtain ⟨haccepted, -⟩ := accepted_of_holds h (by decide) (by decide) hlen.ge
  simp only [SbeFunding.Fits, List.forall_mem_cons] at hf
  obtain ⟨⟨hid, hnext, hcollected, -⟩, hrate, hexchange⟩ := hf
  have hexchange' : f.exchangeId < 256 ^ 1 := by
    have hall : ∀ n ∈ [0, 1, 2, 3, 4, 255], n < 256 ^ 1 := by decide
    exact hall _ hexchange
  rw [decodeFunding, decodeMessage_eq hfw haccepted,
    blockField_eq hfw h.right (by simp) hexchange', blockField_eq hfw h.right (by simp) hid,
    blockField_eq hfw h.right (by simp) hrate, blockField_eq hfw h.right (by simp) hnext,
    blockField_eq hfw h.right (by simp) hcollected]
  rfl

theorem decodeBook_payload {b : SbeBook} (hb : b.Fits) :
    decodeBook fw ((Publication.book b).payload seqNum) = .ok (some b) := by
  have h : Holds _ (bookWrites b seqNum) := (Publication.book b).holds_payload seqNum
  have hlen : (Publication.payload seqNum (.book b)).length =
      bidsPosition + sideLength b.bids.size + sideLength b.asks.size :=
    (Publication.book b).length_payload seqNum
  have hheader : Holds _ (messageHeader MdOrderBookBlockLength MdOrderBookId ++
      [setField 0 8 b.timestampNs, setField 8 8 b.instrumentId, setField 16 8 seqNum]) :=
    h.left.left
  obtain ⟨haccepted, hblock⟩ := accepted_of_holds hheader (by decide) (by decide)
    (by rw [hlen]; unfold bidsPosition; omega)
  obtain ⟨⟨hts, hid⟩, hlvls⟩ := hb
  have hbids : readSide fw ((Publication.book b).payload seqNum) bidsPosition =
      .ok (bidsPosition + sideLength b.bids.size, b.bids) :=
    readSide_eq hfw (by omega) (fun lvl hl => hlvls lvl (List.mem_append_left _ hl)) h.left.right
  have hasks : readSide fw ((Publication.book b).payload seqNum)
        (bidsPosition + sideLength b.bids.size) =
      .ok (bidsPosition + sideLength b.bids.size + sideLength b.asks.size, b.asks) :=
    readSide_eq hfw (by omega) (fun lvl hl => hlvls lvl (List.mem_append_right _ hl)) h.right
  rw [decodeBook, decodeMessage_eq hfw haccepted, hblock,
    blockField_eq hfw hheader.right (by simp) hts, blockField_eq hfw hheader.right (by simp) hid]
  show ((readSide fw _ bidsPosition).bind _).map some = _
  rw [hbids]
  show ((readSide fw _ (bidsPosition + sideLength b.bids.size)).bind _).map some = _
  rw [hasks]
  rfl

end Decode

/-! ## The recording publisher -/

structure CanonRecordingPublisher where
  writer : CanonWriter
  seq : Nat := 0
  bboCount : Nat := 0
  tradeCount : Nat := 0
  bookCount : Nat := 0
  fundingCount : Nat := 0

/-- A call of `publish`, with what its buffer on the stack happens to hold. -/
structure PublishCall where
  pub : Publication
  scratch : FixedCodec.ByteArr pub.scratchSize

/-- The sequence number after a publication: a funding rate carries none. -/
def Publication.nextSeq (seq : Nat) : Publication → Nat
  | .bbo _ | .trade _ | .book _ => (seq + 1) % 2 ^ 64
  | .funding _ => seq

/-- The record of a publication with its number. -/
def Publication.record (seqNum : Nat) (pub : Publication) : CanonRecord :=
  ⟨UInt64.ofNat pub.tsNs, pub.eventType, pub.payload seqNum⟩

/-- The records of publications after number `seq`. -/
def recordsOf : (seq : Nat) → List Publication → List CanonRecord
  | _, [] => []
  | seq, pub :: pubs => pub.record (pub.nextSeq seq) :: recordsOf (pub.nextSeq seq) pubs

theorem Publication.fits_record (seqNum : Nat) (pub : Publication) : (pub.record seqNum).Fits := by
  have hle := pub.encodedLength_le
  have hscratch : pub.scratchSize ≤ 65535 := by
    cases pub with
    | bbo b => exact (by decide : 128 ≤ 65535)
    | trade t => exact (by decide : 128 ≤ 65535)
    | book b => exact (by decide : 2048 ≤ 65535)
    | funding f => exact (by decide : 128 ≤ 65535)
  show (pub.payload seqNum).length ≤ 65535
  rw [pub.length_payload]
  exact Nat.le_trans hle hscratch

theorem fits_recordsOf (seq : Nat) (pubs : List Publication) :
    ∀ rec ∈ recordsOf seq pubs, rec.Fits := by
  induction pubs generalizing seq with
  | nil => exact fun rec hrec => absurd hrec List.not_mem_nil
  | cons pub pubs ih =>
    intro rec hrec
    rcases List.mem_cons.mp hrec with rfl | hrec
    · exact pub.fits_record _
    · exact ih _ rec hrec

namespace CanonRecordingPublisher

open CanonWriter

variable (p : CanonRecordingPublisher)

def counted : Publication → CanonRecordingPublisher
  | .bbo _ => { p with bboCount := p.bboCount + 1 }
  | .trade _ => { p with tradeCount := p.tradeCount + 1 }
  | .book _ => { p with bookCount := p.bookCount + 1 }
  | .funding _ => { p with fundingCount := p.fundingCount + 1 }

/-- What the writer answers is not looked at. -/
def publish (call : PublishCall) : CanonRecordingPublisher :=
  let p := { p with seq := call.pub.nextSeq p.seq }
  let (n, buf) := call.pub.encode p.seq call.scratch.1
  if n = 0 then p
  else
    { p with
        writer := (p.writer.writeEvent
          ⟨UInt64.ofNat call.pub.tsNs, call.pub.eventType, buf.take n⟩).2 }.counted call.pub

/-- The file after a recording session: the publisher is given a freshly opened writer, which is
flushed and closed at the end. -/
def recorded (cfg : Config) (calls : List PublishCall) : Option (List UInt8) :=
  let p : CanonRecordingPublisher := { writer := ((ofConfig cfg).openFile (some {})).2 }
  (calls.foldl publish p).writer.flush.close.1.map (·.bytes)

theorem writer_counted (pub : Publication) : (p.counted pub).writer = p.writer := by
  cases pub <;> rfl

theorem seq_counted (pub : Publication) : (p.counted pub).seq = p.seq := by
  cases pub <;> rfl

/-- One call: the publication's record goes to the writer, under the next number. -/
theorem publish_spec (call : PublishCall) :
    (p.publish call).writer =
        (p.writer.writeEvent (call.pub.record (call.pub.nextSeq p.seq))).2 ∧
      (p.publish call).seq = call.pub.nextSeq p.seq := by
  have hroom : call.pub.encodedLength ≤ call.scratch.1.length :=
    call.scratch.2.symm ▸ call.pub.encodedLength_le
  obtain ⟨hlen, hbytes⟩ := call.pub.encode_eq (call.pub.nextSeq p.seq) hroom
  have hpos : (call.pub.encode (call.pub.nextSeq p.seq) call.scratch.1).1 ≠ 0 := by
    rw [hlen]
    cases call.pub with
    | bbo b => exact (by decide : 64 ≠ 0)
    | trade t => exact (by decide : 49 ≠ 0)
    | book b =>
      show bidsPosition + sideLength b.bids.size + sideLength b.asks.size ≠ 0
      unfold sideLength groupLength dimensionsLength
      omega
    | funding f => exact (by decide : 37 ≠ 0)
  simp only [publish, if_neg hpos, hbytes]
  rw [writer_counted, seq_counted]
  exact ⟨rfl, rfl⟩

theorem written_foldl_publish {hdr : CanonFileHeader} {recs : List CanonRecord}
    (calls : List PublishCall) {p : CanonRecordingPublisher} (h : Written hdr p.writer recs) :
    Written hdr (calls.foldl publish p).writer
      (recs ++ recordsOf p.seq (calls.map PublishCall.pub)) := by
  induction calls generalizing p recs with
  | nil =>
    show Written hdr p.writer (recs ++ [])
    rwa [List.append_nil]
  | cons call calls ih =>
    obtain ⟨hwriter, hseq⟩ := p.publish_spec call
    obtain ⟨w', hwrite, hwritten⟩ :=
      h.writeEvent (call.pub.fits_record (call.pub.nextSeq p.seq))
    have hone : Written hdr (p.publish call).writer
        (recs ++ [call.pub.record (call.pub.nextSeq p.seq)]) := by
      rw [hwriter, hwrite]
      exact hwritten
    have hrest := ih hone
    rw [hseq, List.append_assoc] at hrest
    exact hrest

/-- A recording leaves the header and a record for each publication, and nothing of the stack. -/
theorem recorded_eq (cfg : Config) (calls : List PublishCall) :
    recorded cfg calls =
      some (image cfg.header (recordsOf 0 (calls.map PublishCall.pub))) := by
  have hwritten := written_foldl_publish calls
    (p := { writer := ((ofConfig cfg).openFile (some {})).2 }) (written_openFile cfg).2
  exact hwritten.flush.close

end CanonRecordingPublisher

/-! ## The harness -/

/-- What the harness does for a record: `set_simulation_time`, `push_heartbeat` and, for an
instrument of the strategy, `publish`. -/
inductive HarnessCall where
  | setSimulationTime (tsNs : Nat)
  | pushHeartbeat (tsNs : Nat)
  | publish (pub : Publication)
  deriving DecidableEq

section Replay

variable (fw : Flyweights) (ids : List Nat)

def clockCalls (tsNs : Nat) : List HarnessCall := [.setSimulationTime tsNs, .pushHeartbeat tsNs]

/-- A decoded event, when a decoder returned one: only those of the strategy's instruments are
handed on. -/
def handOn (instrumentId : Nat) (pub : Publication) : List HarnessCall :=
  if instrumentId ∈ ids then [.publish pub] else []

def replayRecord (rec : CanonRecord) : Except Fault (List HarnessCall) :=
  let tsNs := rec.tsNs.toNat
  let events : Except Fault (List HarnessCall) :=
    if rec.type = .BBO then
      (decodeBbo fw rec.sbe).map fun out => out.elim [] fun b =>
        handOn ids b.instrumentId (.bbo { b with timestampNs := tsNs })
    else if rec.type = .TRADE then
      (decodeTrade fw rec.sbe).map fun out => out.elim [] fun t =>
        handOn ids t.instrumentId (.trade { t with timestampNs := tsNs })
    else if rec.type = .BOOK then
      (decodeBook fw rec.sbe).map fun out => out.elim [] fun b =>
        handOn ids b.instrumentId (.book { b with timestampNs := tsNs })
    else .ok []
  events.map (clockCalls tsNs ++ ·)

/-- The loop over the records of a file, with the time of the last one. -/
def replayRecords : (lastTs : Nat) → List CanonRecord → Except Fault (List HarnessCall × Nat)
  | lastTs, [] => .ok ([], lastTs)
  | _, rec :: recs =>
    (replayRecord fw ids rec).bind fun calls =>
      (replayRecords rec.tsNs.toNat recs).map fun r => (calls ++ r.1, r.2)

/-- `replay_canon`, on what the paths hold. A file that does not open is skipped. -/
def replayCanon : (lastTs : Nat) → List (Option (List UInt8)) →
    Except Fault (List HarnessCall × Nat)
  | lastTs, [] => .ok ([], lastTs)
  | lastTs, file :: files =>
    let r := CanonReader.ofFile file
    (if r.ok then replayRecords fw ids lastTs r.records else .ok ([], lastTs)).bind fun s =>
      (replayCanon s.2 files).map fun t => (s.1 ++ t.1, t.2)

end Replay

/-- What the strategy's harness is to make of a publication. Funding rates only move the clock. -/
def Publication.delivered (ids : List Nat) (pub : Publication) : List HarnessCall :=
  clockCalls pub.tsNs ++
    match pub with
    | .bbo b => handOn ids b.instrumentId pub
    | .trade t => handOn ids t.instrumentId pub
    | .book b => handOn ids b.instrumentId pub
    | .funding _ => []

theorem Publication.tsNs_lt {pub : Publication} (h : pub.Fits) : pub.tsNs < 2 ^ 64 := by
  cases pub with
  | bbo b => exact h _ (by simp [tsNs])
  | trade t => exact h.1 _ (by simp [tsNs])
  | book b => exact h.1.1
  | funding f => exact h.1 _ (by simp [tsNs])

/-- The last time of publications, `lastTs` when there are none. -/
def lastTime (lastTs : Nat) (pubs : List Publication) : Nat :=
  (pubs.getLast?.map Publication.tsNs).getD lastTs

theorem lastTime_append (lastTs : Nat) (pubs pubs' : List Publication) :
    lastTime lastTs (pubs ++ pubs') = lastTime (lastTime lastTs pubs) pubs' := by
  unfold lastTime
  rw [List.getLast?_append]
  cases pubs'.getLast? <;> rfl

/-- A reader has only the records that its calls return. -/
theorem CanonReader.Reads.records_eq {r : CanonReader} {recs : List CanonRecord}
    (h : r.Reads recs) : r.records = recs :=
  List.ext_getElem? fun k => (r.reads_records k).symm.trans (h k)

section Replayed

variable {fw : Flyweights} (hfw : fw.Documented) (ids : List Nat)

include hfw

theorem replayRecord_record {pub : Publication} (h : pub.Fits) (seqNum : Nat) :
    replayRecord fw ids (pub.record seqNum) = .ok (pub.delivered ids) := by
  have hts : (UInt64.ofNat pub.tsNs).toNat = pub.tsNs := by
    rw [UInt64.toNat_ofNat']
    exact Nat.mod_eq_of_lt (Publication.tsNs_lt h)
  unfold replayRecord Publication.record
  simp only [hts]
  cases pub with
  | bbo b =>
    rw [Publication.eventType, if_pos rfl, decodeBbo_payload hfw seqNum h]
    rfl
  | trade t =>
    rw [Publication.eventType, if_neg (by decide), if_pos rfl, decodeTrade_payload hfw seqNum h]
    rfl
  | book b =>
    rw [Publication.eventType, if_neg (by decide), if_neg (by decide), if_pos rfl,
      decodeBook_payload hfw seqNum h]
    rfl
  | funding f =>
    rw [Publication.eventType, if_neg (by decide), if_neg (by decide), if_neg (by decide)]
    rfl

theorem replayRecords_recordsOf {pubs : List Publication} (h : ∀ pub ∈ pubs, pub.Fits)
    (seq lastTs : Nat) :
    replayRecords fw ids lastTs (recordsOf seq pubs) =
      .ok (pubs.flatMap (Publication.delivered ids), lastTime lastTs pubs) := by
  induction pubs generalizing seq lastTs with
  | nil => rfl
  | cons pub pubs ih =>
    have hpub := h pub List.mem_cons_self
    have hts : (pub.record (pub.nextSeq seq)).tsNs.toNat = pub.tsNs := by
      show (UInt64.ofNat pub.tsNs).toNat = pub.tsNs
      rw [UInt64.toNat_ofNat']
      exact Nat.mod_eq_of_lt (Publication.tsNs_lt hpub)
    have hlast : lastTime pub.tsNs pubs = lastTime lastTs (pub :: pubs) := by
      unfold lastTime
      cases pubs with
      | nil => rfl
      | cons next rest => rw [List.getLast?_cons_cons, List.getLast?_cons]; rfl
    rw [recordsOf, replayRecords, replayRecord_record hfw ids hpub]
    show (replayRecords fw ids _ (recordsOf _ pubs)).map _ = _
    rw [hts, ih fun p hp => h p (List.mem_cons_of_mem pub hp), hlast]
    rfl

end Replayed

open CanonReader CanonWriter in
/-- **Recorded and replayed.** Any recording sessions, of messages whose numbers are of the wire
type: whatever the stack buffers held and however the writers buffered, and with generated code that
does what is documented, the harness makes of the files, one after the other, exactly the calls for
the recorded publications. In order, each moves the clock, and those of the strategy's instruments
are handed on unchanged. No decoder refuses, throws or reads past the end. -/
theorem replayCanon_recorded {fw : Flyweights} (hfw : fw.Documented) (ids : List Nat)
    (sessions : List (Config × List PublishCall))
    (h : ∀ s ∈ sessions, ∀ call ∈ s.2, call.pub.Fits) (lastTs : Nat) :
    replayCanon fw ids lastTs
        (sessions.map fun s => CanonRecordingPublisher.recorded s.1 s.2) =
      .ok ((sessions.flatMap fun s => s.2.map PublishCall.pub).flatMap (Publication.delivered ids),
        lastTime lastTs (sessions.flatMap fun s => s.2.map PublishCall.pub)) := by
  induction sessions generalizing lastTs with
  | nil => rfl
  | cons s sessions ih =>
    have hfits : ∀ pub ∈ s.2.map PublishCall.pub, pub.Fits := by
      intro pub hpub
      obtain ⟨call, hcall, rfl⟩ := List.mem_map.mp hpub
      exact h s List.mem_cons_self call hcall
    obtain ⟨hok, -, hreads⟩ :=
      reads_image (validHeader_header s.1) (fits_recordsOf 0 (s.2.map PublishCall.pub))
    rw [List.map_cons, List.flatMap_cons, List.flatMap_append, lastTime_append, replayCanon,
      CanonRecordingPublisher.recorded_eq]
    show Except.bind (if CanonReader.ok _ then _ else _) _ = _
    rw [if_pos hok, hreads.records_eq, replayRecords_recordsOf hfw ids hfits]
    show (replayCanon fw ids _ _).map _ = _
    rw [ih fun s' hs' => h s' (List.mem_cons_of_mem s hs')]
    rfl

/-- A stack buffer that is not clean. -/
def dirtyScratch : FixedCodec.ByteArr 128 := ⟨List.replicate 128 170, List.length_replicate⟩

/-- A session with a BBO and a funding rate, and an empty one. -/
theorem replayCanon_recorded_two :
    replayCanon Flyweights.reference [5] 0
        [CanonRecordingPublisher.recorded {}
            [⟨.bbo ⟨7, 5, 1, 2, 3, 4⟩, dirtyScratch⟩, ⟨.funding ⟨3, 5, 10, 8, 9⟩, dirtyScratch⟩],
          CanonRecordingPublisher.recorded {} []] =
      .ok ([.setSimulationTime 7, .pushHeartbeat 7, .publish (.bbo ⟨7, 5, 1, 2, 3, 4⟩),
        .setSimulationTime 9, .pushHeartbeat 9], 9) :=
  replayCanon_recorded Flyweights.documented_reference [5]
    [({}, [⟨.bbo ⟨7, 5, 1, 2, 3, 4⟩, dirtyScratch⟩, ⟨.funding ⟨3, 5, 10, 8, 9⟩, dirtyScratch⟩]),
      ({}, [])]
    (by
      intro s hs call hcall
      simp only [List.mem_cons, List.not_mem_nil, or_false] at hs
      obtain rfl | rfl := hs
      · simp only [List.mem_cons, List.not_mem_nil, or_false] at hcall
        obtain rfl | rfl := hcall
        · show ∀ n ∈ [7, 5, 1, 2, 3, 4], n < 2 ^ 64
          decide
        · show (∀ n ∈ [5, 8, 9], n < 2 ^ 64) ∧ 10 < 2 ^ 32 ∧ 3 ∈ [0, 1, 2, 3, 4, 255]
          decide
      · exact absurd hcall List.not_mem_nil) 0

end BptCore.Canon
