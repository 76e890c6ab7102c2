import BptCore.Lib.Flyweight
import BptCore.MdGateway.Md.MdTypes

/-!
# Decoding canon payloads

The payload of a canon record is a message header with its block, and for a book two groups behind
it. The decoders check the template and that the block announced by the header is there. Then they
read the fields at the offsets of the schema, whose block may be longer than the one announced,
and the groups, whose sizes nobody has checked.

* **`wrapForDecodeHeader`** — the only check, **`Accepted`** what passes it.
* **`decodeBbo`**, **`decodeTrade`**, **`decodeBook`**, **`decodeFunding`** — the decoders, over
  what the generated code does.
* **`safe_readLevels_iff`** — the loop over a group.
* **`decoders_safe_iff`** — the payloads that every decoder reads without passing the end and
  without an exception.
-/

namespace BptCore.Canon

open Flyweight MdGateway

/-- Integers and doubles are kept as the numbers that their bytes make. -/
structure SbeBbo where
  timestampNs : Nat
  instrumentId : Nat
  bidPrice : Nat
  bidQty : Nat
  askPrice : Nat
  askQty : Nat
  deriving DecidableEq, Repr

structure SbeTrade where
  timestampNs : Nat
  instrumentId : Nat
  price : Nat
  qty : Nat
  side : Nat
  deriving DecidableEq, Repr

abbrev SbeLevels := InlineVec (Nat × Nat) kMaxBookLevels

structure SbeBook where
  timestampNs : Nat
  instrumentId : Nat
  bids : SbeLevels
  asks : SbeLevels
  deriving DecidableEq

structure SbeFunding where
  exchangeId : Nat
  instrumentId : Nat
  rateBps : Nat
  nextFundingTsNs : Nat
  collectedTsNs : Nat
  deriving DecidableEq, Repr

/-- `sbeTemplateId` of the four messages. -/
def MdMarketDataId : Nat := 7
def MdTradeId : Nat := 8
def FundingRateId : Nat := 18
def MdOrderBookId : Nat := 20

section Decoders

variable (fw : Flyweights) (buf : List UInt8)

/-- The header of a payload that may be decoded. -/
def wrapForDecodeHeader (expected : Nat) : Except Fault (Option Header) :=
  if buf.length < headerLength then .ok none
  else
    (fw.header buf).bind fun hdr =>
      if hdr.templateId ≠ expected then .ok none
      else if buf.length < headerLength + hdr.blockLength then .ok none
      else .ok (some hdr)

/-- The start of each decoder: `none` is its `false`, and `read` gets the position behind the
block. -/
def decodeMessage {α : Type} (templateId : Nat) (read : Nat → Except Fault α) :
    Except Fault (Option α) :=
  (wrapForDecodeHeader fw buf templateId).bind fun hdr? =>
    match hdr? with
    | none => .ok none
    | some hdr =>
      (fw.wrapForDecode buf headerLength hdr.blockLength hdr.version).bind fun position =>
        (read position).map some

/-- A field of the block, which begins behind the header. -/
def blockField (offset width : Nat) : Except Fault Nat := fw.uint buf (headerLength + offset) width

def decodeBbo : Except Fault (Option SbeBbo) :=
  decodeMessage fw buf MdMarketDataId fun _ =>
    (blockField fw buf 0 8).bind fun timestampNs =>
    (blockField fw buf 8 8).bind fun instrumentId =>
    (blockField fw buf 16 8).bind fun bidPrice =>
    (blockField fw buf 24 8).bind fun bidQty =>
    (blockField fw buf 32 8).bind fun askPrice =>
    (blockField fw buf 40 8).bind fun askQty =>
    .ok
      { timestampNs := timestampNs, instrumentId := instrumentId, bidPrice := bidPrice
        bidQty := bidQty, askPrice := askPrice, askQty := askQty }

/-- The getter of an enumeration hands on the byte it finds. -/
def decodeTrade : Except Fault (Option SbeTrade) :=
  decodeMessage fw buf MdTradeId fun _ =>
    (blockField fw buf 0 8).bind fun timestampNs =>
    (blockField fw buf 8 8).bind fun instrumentId =>
    (blockField fw buf 16 8).bind fun price =>
    (blockField fw buf 24 8).bind fun qty =>
    (blockField fw buf 32 1).bind fun side =>
    .ok
      { timestampNs := timestampNs, instrumentId := instrumentId, price := price, qty := qty
        side := side }

/-- The loop over a group, `left` of whose entries have not been visited; an entry is a price and
a quantity. It ends behind the first entry that there is no room for. -/
def readLevels : (left : Nat) → Group → SbeLevels → Except Fault (Group × SbeLevels)
  | 0, g, dst => .ok (g, dst)
  | left + 1, g, dst =>
    (fw.next buf g).bind fun g' =>
      -- the size is looked at only after the move to the entry
      if kMaxBookLevels ≤ dst.size then .ok (g', dst)
      else
        (fw.uint buf g.position 8).bind fun price =>
        (fw.uint buf (g.position + 8) 8).bind fun qty =>
          match dst.emplaceBack (price, qty) with
          | none => .error .pastEnd
          | some dst' => readLevels left g' dst'

/-- The group at a position, and the position behind what was read of it. -/
def readSide (position : Nat) : Except Fault (Nat × SbeLevels) :=
  (fw.group buf position).bind fun g =>
    (readLevels fw buf g.count g .empty).map fun r => (r.1.position, r.2)

def decodeBook : Except Fault (Option SbeBook) :=
  decodeMessage fw buf MdOrderBookId fun position =>
    (blockField fw buf 0 8).bind fun timestampNs =>
    (blockField fw buf 8 8).bind fun instrumentId =>
    (readSide fw buf position).bind fun bids =>
    -- the asks are taken to begin where the loop over the bids stopped
    (readSide fw buf bids.1).bind fun asks =>
    .ok { timestampNs := timestampNs, instrumentId := instrumentId, bids := bids.2, asks := asks.2 }

def decodeFunding : Except Fault (Option SbeFunding) :=
  decodeMessage fw buf FundingRateId fun _ =>
    (blockField fw buf 0 1).bind fun exchangeId =>
    (blockField fw buf 1 8).bind fun instrumentId =>
    (blockField fw buf 9 4).bind fun rateBps =>
    (blockField fw buf 13 8).bind fun nextFundingTsNs =>
    (blockField fw buf 21 8).bind fun collectedTsNs =>
    .ok
      { exchangeId := exchangeId, instrumentId := instrumentId, rateBps := rateBps
        nextFundingTsNs := nextFundingTsNs, collectedTsNs := collectedTsNs }

end Decoders

/-! ## The check -/

/-- The payload passes the check: the block that its header announces is there. -/
def Accepted (buf : List UInt8) (templateId : Nat) : Prop :=
  headerLength ≤ buf.length ∧ (headerAt buf).templateId = templateId ∧
    headerLength + (headerAt buf).blockLength ≤ buf.length

instance (buf : List UInt8) (templateId : Nat) : Decidable (Accepted buf templateId) :=
  inferInstanceAs (Decidable (_ ∧ _))

variable {fw : Flyweights} (hfw : fw.Documented) (buf : List UInt8)

include hfw

theorem wrapForDecodeHeader_eq (templateId : Nat) :
    wrapForDecodeHeader fw buf templateId =
      .ok (if Accepted buf templateId then some (headerAt buf) else none) := by
  unfold wrapForDecodeHeader
  by_cases hlen : buf.length < headerLength
  · have hnot : ¬ Accepted buf templateId := fun h => absurd h.1 (Nat.not_le.mpr hlen)
    rw [if_pos hlen, if_neg hnot]
  · have hle := Nat.not_lt.mp hlen
    rw [if_neg hlen, hfw.header buf hle]
    show (if _ then _ else _) = _
    by_cases htemplate : (headerAt buf).templateId = templateId
    · by_cases hblock : buf.length < headerLength + (headerAt buf).blockLength
      · have hnot : ¬ Accepted buf templateId := fun h => absurd h.2.2 (Nat.not_le.mpr hblock)
        rw [if_neg (not_not.mpr htemplate), if_pos hblock, if_neg hnot]
      · have haccepted : Accepted buf templateId := ⟨hle, htemplate, Nat.not_lt.mp hblock⟩
        rw [if_neg (not_not.mpr htemplate), if_neg hblock, if_pos haccepted]
    · have hnot : ¬ Accepted buf templateId := fun h => absurd h.2.1 htemplate
      rw [if_pos htemplate, if_neg hnot]

theorem safe_decodeMessage_iff {α : Type} (templateId : Nat) (read : Nat → Except Fault α) :
    Safe (decodeMessage fw buf templateId read) ↔
      (Accepted buf templateId → Safe (read (headerLength + (headerAt buf).blockLength))) := by
  rw [decodeMessage, wrapForDecodeHeader_eq hfw]
  by_cases haccepted : Accepted buf templateId
  · rw [if_pos haccepted]
    show Safe ((fw.wrapForDecode _ _ _ _).bind _) ↔ _
    rw [hfw.wrapForDecode buf _ _ _ haccepted.2.2]
    show Safe ((read _).map some) ↔ _
    simp only [haccepted, true_implies]
    exact safe_map_iff _ _
  · rw [if_neg haccepted]
    exact iff_of_true (safe_ok _) fun h => absurd h haccepted

/-! ## The block -/

theorem safe_blockField_bind {α : Type} (offset width : Nat) (f : Nat → Except Fault α) :
    Safe ((blockField fw buf offset width).bind f) ↔
      headerLength + offset + width ≤ buf.length ∧
        Safe (f (uintAt buf (headerLength + offset) width)) :=
  hfw.safe_uint_bind buf (headerLength + offset) width f

/-- The last field that is read ends 48 bytes into the block. -/
theorem safe_decodeBbo_iff :
    Safe (decodeBbo fw buf) ↔
      (Accepted buf MdMarketDataId → headerLength + 48 ≤ buf.length) := by
  rw [decodeBbo, safe_decodeMessage_iff hfw]
  refine imp_congr_right fun _ => ?_
  simp only [safe_blockField_bind hfw, safe_ok, and_true]
  omega

theorem safe_decodeTrade_iff :
    Safe (decodeTrade fw buf) ↔ (Accepted buf MdTradeId → headerLength + 33 ≤ buf.length) := by
  rw [decodeTrade, safe_decodeMessage_iff hfw]
  refine imp_congr_right fun _ => ?_
  simp only [safe_blockField_bind hfw, safe_ok, and_true]
  omega

theorem safe_decodeFunding_iff :
    Safe (decodeFunding fw buf) ↔
      (Accepted buf FundingRateId → headerLength + 29 ≤ buf.length) := by
  rw [decodeFunding, safe_decodeMessage_iff hfw]
  refine imp_congr_right fun _ => ?_
  simp only [safe_blockField_bind hfw, safe_ok, and_true]
  omega

/-! ## The groups -/

omit hfw

/-- How many of `left` entries a loop visits that has `size` levels already. -/
def visited (left size : Nat) : Nat := min left (kMaxBookLevels + 1 - size)

/-- The entries that the loop visits are within the buffer, and so are the two fields of those that
it reads, whatever the length of an entry. -/
def LevelsFit (buf : List UInt8) (left size : Nat) (g : Group) : Prop :=
  g.position + visited left size * g.blockLength ≤ buf.length ∧
    ∀ i < min left (kMaxBookLevels - size), g.position + i * g.blockLength + 16 ≤ buf.length

/-- A group at `position` is within the buffer as far as it is read. -/
def SideFits (buf : List UInt8) (position : Nat) : Prop :=
  position + dimensionsLength ≤ buf.length ∧
    LevelsFit buf (groupAt buf position).count 0 (groupAt buf position)

/-- The position behind the entries that the loop visits. -/
def sideEnd (buf : List UInt8) (position : Nat) : Nat :=
  position + dimensionsLength +
    visited (groupAt buf position).count 0 * (groupAt buf position).blockLength

/-- One round: the entry itself, its fields, and then the rest. -/
theorem levelsFit_succ_iff {left size : Nat} (hsize : size < kMaxBookLevels) (g : Group) :
    LevelsFit buf (left + 1) size g ↔
      g.position + g.blockLength ≤ buf.length ∧ g.position + 16 ≤ buf.length ∧
        LevelsFit buf left (size + 1) g.advance := by
  have hvisited : visited (left + 1) size = visited left (size + 1) + 1 := by
    simp only [visited]
    omega
  have hread : min (left + 1) (kMaxBookLevels - size) =
      min left (kMaxBookLevels - (size + 1)) + 1 := by omega
  have hfields : (∀ i < min left (kMaxBookLevels - (size + 1)) + 1,
        g.position + i * g.blockLength + 16 ≤ buf.length) ↔
      g.position + 16 ≤ buf.length ∧ ∀ i < min left (kMaxBookLevels - (size + 1)),
        g.advance.position + i * g.blockLength + 16 ≤ buf.length := by
    rw [Nat.forall_lt_succ_left]
    refine and_congr (by simp) (forall₂_congr fun i _ => ?_)
    rw [Group.position_advance, Nat.succ_mul]
    omega
  have hentries : g.position + (visited left (size + 1) + 1) * g.blockLength =
      g.advance.position + visited left (size + 1) * g.blockLength := by
    rw [Group.position_advance, Nat.succ_mul]
    omega
  rw [LevelsFit, hvisited, hread, hfields, hentries]
  constructor
  · rintro ⟨hend, hfirst, hrest⟩
    refine ⟨?_, hfirst, hend, hrest⟩
    rw [Group.position_advance] at hend
    omega
  · rintro ⟨-, hfirst, hend, hrest⟩
    exact ⟨hend, hfirst, hrest⟩

include hfw

theorem safe_readLevels_iff (left : Nat) (g : Group) (dst : SbeLevels)
    (hpos : g.position ≤ buf.length) :
    Safe (readLevels fw buf left g dst) ↔ LevelsFit buf left dst.size g := by
  induction left generalizing g dst with
  | zero => exact iff_of_true (safe_ok _) ⟨by simpa [visited] using hpos, by simp⟩
  | succ left ih =>
    rw [readLevels, hfw.safe_next_bind]
    by_cases hfull : kMaxBookLevels ≤ dst.size
    · -- the entry behind the last level is visited, but not read
      have hsize : dst.size = kMaxBookLevels := le_antisymm dst.fits hfull
      rw [if_pos hfull]
      simp [LevelsFit, visited, hsize, safe_ok]
    · have hroom := Nat.not_le.mp hfull
      obtain ⟨dst', hdst'⟩ : ∃ dst', dst.emplaceBack
          (uintAt buf g.position 8, uintAt buf (g.position + 8) 8) = some dst' :=
        ⟨_, dif_pos hroom⟩
      rw [levelsFit_succ_iff buf hroom, if_neg hfull, hfw.safe_uint_bind, hfw.safe_uint_bind,
        hdst']
      refine and_congr_right fun hentry => ?_
      have hrest := ih g.advance dst' hentry
      rw [InlineVec.size_emplaceBack hdst'] at hrest
      rw [← and_assoc]
      exact and_congr (by omega) hrest

/-- Where the loop leaves the group. -/
theorem position_readLevels {left : Nat} {g : Group} {dst : SbeLevels} {r : Group × SbeLevels}
    (h : readLevels fw buf left g dst = .ok r) :
    r.1.position = g.position + visited left dst.size * g.blockLength := by
  induction left generalizing g dst with
  | zero =>
    cases h
    simp [visited]
  | succ left ih =>
    rw [readLevels] at h
    obtain ⟨g', hg', h⟩ := bind_eq_ok h
    have hle : g.position + g.blockLength ≤ buf.length := by
      by_contra hlt
      rw [hfw.next_throws buf g (Nat.not_le.mp hlt)] at hg'
      cases hg'
    rw [hfw.next buf g hle] at hg'
    cases hg'
    split at h
    next hfull =>
      have hsize : dst.size = kMaxBookLevels := le_antisymm dst.fits hfull
      cases h
      simp [visited, hsize, Group.advance]
    next hroom =>
      obtain ⟨price, -, h⟩ := bind_eq_ok h
      obtain ⟨qty, -, h⟩ := bind_eq_ok h
      cases hdst' : dst.emplaceBack (price, qty) with
      | none =>
        rw [hdst'] at h
        cases h
      | some dst' =>
        rw [hdst'] at h
        have hvisited : visited (left + 1) dst.size = visited left (dst.size + 1) + 1 := by
          simp only [visited]
          omega
        rw [ih h, InlineVec.size_emplaceBack hdst', hvisited, Group.position_advance,
          Group.blockLength_advance, Nat.succ_mul]
        omega

theorem safe_readSide_iff (position : Nat) :
    Safe (readSide fw buf position) ↔ SideFits buf position := by
  rw [readSide, hfw.safe_group_bind, safe_map_iff]
  exact and_congr_right fun hle => safe_readLevels_iff hfw buf _ _ _ hle

theorem position_readSide {position : Nat} {r : Nat × SbeLevels}
    (h : readSide fw buf position = .ok r) : r.1 = sideEnd buf position := by
  have hfits := (safe_readSide_iff hfw buf position).mp ⟨r, h⟩
  rw [readSide, hfw.group buf position hfits.1] at h
  obtain ⟨lvls, hlvls, h⟩ := map_eq_ok h
  rw [← h]
  exact position_readLevels hfw buf hlvls

theorem safe_readSide_bind {α : Type} {p : Prop} (position : Nat)
    (f : Nat × SbeLevels → Except Fault α)
    (hf : ∀ lvls, Safe (f (sideEnd buf position, lvls)) ↔ p) :
    Safe ((readSide fw buf position).bind f) ↔ SideFits buf position ∧ p := by
  rw [← safe_readSide_iff hfw]
  constructor
  · rintro ⟨a, ha⟩
    obtain ⟨r, hr, hrest⟩ := bind_eq_ok ha
    refine ⟨⟨r, hr⟩, (hf r.2).mp ⟨a, ?_⟩⟩
    rwa [← position_readSide hfw buf hr]
  · rintro ⟨⟨r, hr⟩, hp⟩
    rw [hr]
    obtain ⟨a, ha⟩ := (hf r.2).mpr hp
    rw [← position_readSide hfw buf hr] at ha
    exact ⟨a, ha⟩

/-- The two fields of the block, then the bids, and the asks behind them. -/
theorem safe_decodeBook_iff :
    Safe (decodeBook fw buf) ↔
      (Accepted buf MdOrderBookId →
        headerLength + 16 ≤ buf.length ∧
          SideFits buf (headerLength + (headerAt buf).blockLength) ∧
          SideFits buf (sideEnd buf (headerLength + (headerAt buf).blockLength))) := by
  rw [decodeBook, safe_decodeMessage_iff hfw]
  refine imp_congr_right fun _ => ?_
  have hasks : ∀ bids,
      Safe ((readSide fw buf (sideEnd buf (headerLength + (headerAt buf).blockLength))).bind
        fun asks => Except.ok
          ({ timestampNs := uintAt buf (headerLength + 0) 8
             instrumentId := uintAt buf (headerLength + 8) 8, bids := bids, asks := asks.2 } :
            SbeBook)) ↔
      SideFits buf (sideEnd buf (headerLength + (headerAt buf).blockLength)) ∧ True := fun bids =>
    safe_readSide_bind hfw buf _ _ fun asks => iff_of_true (safe_ok _) trivial
  rw [safe_blockField_bind hfw, safe_blockField_bind hfw, safe_readSide_bind hfw buf _ _ hasks,
    and_true, ← and_assoc]
  exact and_congr_left fun _ => by omega

omit hfw

/-- A payload with this header and so many further bytes, all zero. -/
def payload (blockLength templateId : UInt8) (rest : Nat) : List UInt8 :=
  [blockLength, 0, templateId, 0, 1, 0, 14, 0] ++ List.replicate rest 0

end BptCore.Canon
