import BptCore.Messaging.OrderCommands
import BptCore.OrderGateway.Adapter.AccountSnapshots
import BptCore.Strategy.Strategy.Reconciler

/-!
# Reports of the gateway on the wire

The gateway encodes an execution report and an account snapshot on its stack and offers the bytes
to a stream each. The strategy's client wraps what arrives; its service and its strategy read one
message after the other, and share the cursor over the groups of a snapshot.

* **`offerAll`** — what the publications leave on a stream.
* **`reports_delivered`** — what a strategy reads of the reports.
* **`snapshots_delivered`** — what a strategy reads of the snapshots, wherever the service left the
  cursor.
-/

universe u

namespace BptCore.Messaging

open Flyweight OrderGateway Strategy

/-! ## Publishing -/

section Offer

variable {α : Type u} (encode : α → Option (List UInt8))

/-- The stream after the publications, each with the answers to its offers. An encoder that throws
leaves nothing, and a publication that is still tried is the last. -/
def offerAll : List (α × List ClaimCode) → List (List UInt8)
  | [] => []
  | (a, codes) :: calls =>
    match encode a with
    | none => offerAll calls
    | some message =>
      match published codes with
      | none => []
      | some true => message :: offerAll calls
      | some false => offerAll calls

/-- The values that reach the stream: those before the publication that does not return, when they
are encoded and not dropped. -/
def delivered (calls : List (α × List ClaimCode)) : List α :=
  ((calls.takeWhile fun c => encode c.1 = none ∨ published c.2 ≠ none).filter fun c =>
    (encode c.1).isSome ∧ published c.2 = some true).map Prod.fst

variable {encode}

theorem offerAll_eq (calls : List (α × List ClaimCode)) :
    offerAll encode calls = (delivered encode calls).filterMap encode := by
  induction calls with
  | nil => rfl
  | cons c calls ih =>
    obtain ⟨a, codes⟩ := c
    unfold delivered at ih ⊢
    rw [offerAll]
    cases hencode : encode a with
    | none =>
      rw [List.takeWhile_cons_of_pos (by simp [hencode]),
        List.filter_cons_of_neg (by simp [hencode])]
      exact ih
    | some message =>
      cases hcodes : published codes with
      | none =>
        rw [List.takeWhile_cons_of_neg (by simp [hencode, hcodes])]
        rfl
      | some ok =>
        rw [List.takeWhile_cons_of_pos (by simp [hcodes])]
        cases ok with
        | false =>
          rw [List.filter_cons_of_neg (by simp [hcodes])]
          exact ih
        | true =>
          rw [List.filter_cons_of_pos (by simp [hencode, hcodes]), List.map_cons,
            List.filterMap_cons_some hencode]
          exact congrArg (message :: ·) ih

/-- A subscriber that makes `f a` of the message of every `a` offered makes it of those delivered,
in order. -/
theorem map_offerAll {β : Type u} {handle : List UInt8 → β} {f : α → β}
    {calls : List (α × List ClaimCode)}
    (h : ∀ c ∈ calls, ∀ message, encode c.1 = some message → handle message = f c.1) :
    (offerAll encode calls).map handle = (delivered encode calls).map f := by
  have hmem : ∀ a ∈ delivered encode calls,
      ∃ message, encode a = some message ∧ handle message = f a := by
    intro a ha
    obtain ⟨c, hc, rfl⟩ := List.mem_map.mp ha
    obtain ⟨hcall, hsent⟩ := List.mem_filter.mp hc
    obtain ⟨message, hmessage⟩ := Option.isSome_iff_exists.mp (of_decide_eq_true hsent).1
    exact ⟨message, hmessage, h c ((List.takeWhile_prefix _).subset hcall) message hmessage⟩
  rw [offerAll_eq]
  generalize delivered encode calls = as at hmem
  induction as with
  | nil => rfl
  | cons a as ih =>
    obtain ⟨message, hmessage, hhandle⟩ := hmem a List.mem_cons_self
    rw [List.filterMap_cons_some hmessage, List.map_cons, List.map_cons, hhandle,
      ih fun b hb => hmem b (List.mem_cons_of_mem a hb)]

end Offer

/-! ## Execution reports -/

namespace WireEnum

def execStatus : WireEnum ExecStatus where
  value
    | .ACKED => 0
    | .FILLED => 1
    | .PARTIAL => 2
    | .REJECTED => 3
    | .CANCELLED => 4
  get n := [ExecStatus.ACKED, .FILLED, .PARTIAL, .REJECTED, .CANCELLED][n]?
  value_lt a := by cases a <;> decide
  get_value a := by cases a <;> rfl

/-- The reasons include the null value. -/
def rejectReason : WireEnum RejectReason where
  value
    | .OK => 0
    | .INVALID_PRICE => 1
    | .INVALID_QTY => 2
    | .INSUFFICIENT_BALANCE => 3
    | .RATE_LIMITED => 4
    | .EXCHANGE_ERROR => 5
    | .RISK_REJECTED => 6
    | .DUPLICATE_ORDER_ID => 7
    | .NULL_VALUE => 255
  get n :=
    if n = 255 then some .NULL_VALUE
    else [RejectReason.OK, .INVALID_PRICE, .INVALID_QTY, .INSUFFICIENT_BALANCE, .RATE_LIMITED,
      .EXCHANGE_ERROR, .RISK_REJECTED, .DUPLICATE_ORDER_ID][n]?
  value_lt a := by cases a <;> decide
  get_value a := by cases a <;> rfl

end WireEnum

/-- The source of a rejection, the last byte of the block, is not set. -/
def ExecutionReport : Template where
  id := 14
  blockLength := 86
  block := [⟨0, 8⟩, ⟨8, 8⟩, ⟨16, 1⟩, ⟨17, 8⟩, ⟨25, 1⟩, ⟨26, 1⟩, ⟨27, 1⟩, ⟨28, 8⟩, ⟨36, 8⟩, ⟨44, 8⟩,
    ⟨52, 1⟩, ⟨53, 8⟩, ⟨61, 8⟩, ⟨69, 8⟩, ⟨77, 8⟩]

/-- The setters in the order of the calls. A currency is cut to the field. -/
def reportSetters (m : ExecReport) : List Write :=
  [setUint 0 8 m.orderId, setUint 8 8 m.exchangeOrderId, setEnum .exchangeId 16 m.exchangeId,
    setUint 17 8 m.instrumentId, setEnum .execStatus 25 m.status, setEnum .orderSide 26 m.side,
    setEnum .orderType 27 m.orderType, setInt 28 8 m.price, setUint 36 8 m.filledQty,
    setUint 44 8 m.remainingQty, setEnum .rejectReason 52 m.rejectReason, setInt 53 8 m.fee,
    setText 61 8 m.feeCurrency, setUint 69 8 m.exchangeTsNs, setUint 77 8 m.localTsNs]

def reportWrites (m : ExecReport) : List Write := ExecutionReport.header ++ reportSetters m

/-- `SbeExecutionReportCodec::encode`, over a scratch buffer of 256 bytes that it clears. -/
def encodeReport (m : ExecReport) : List UInt8 :=
  (putAll (List.replicate 256 0) (reportWrites m)).take ExecutionReport.length

section ReportHandler

variable (buf : List UInt8)

/-- What the handlers read of a report; `none` for one with a null enumeration. -/
def readReport : Except Fault (Option ExecReport) :=
  (getUint buf 0 8).bind fun orderId =>
  (getUint buf 8 8).bind fun exchangeOrderId =>
  (getEnum buf .exchangeId 16).bind fun exchangeId? =>
  (getUint buf 17 8).bind fun instrumentId =>
  (getEnum buf .execStatus 25).bind fun status? =>
  (getEnum buf .orderSide 26).bind fun side? =>
  (getEnum buf .orderType 27).bind fun orderType? =>
  (getInt buf 28 8).bind fun price =>
  (getUint buf 36 8).bind fun filledQty =>
  (getUint buf 44 8).bind fun remainingQty =>
  (getEnum buf .rejectReason 52).bind fun rejectReason? =>
  (getInt buf 53 8).bind fun fee =>
  (getText buf 61 8).bind fun feeCurrency =>
  (getUint buf 69 8).bind fun exchangeTsNs =>
  (getUint buf 77 8).map fun localTsNs =>
    exchangeId?.bind fun exchangeId => status?.bind fun status => side?.bind fun side =>
    orderType?.bind fun orderType => rejectReason?.map fun rejectReason =>
      { orderId := orderId, exchangeOrderId := exchangeOrderId, exchangeId := exchangeId
        instrumentId := instrumentId, status := status, side := side, orderType := orderType
        price := price, filledQty := filledQty, remainingQty := remainingQty
        rejectReason := rejectReason, fee := fee, feeCurrency := feeCurrency
        exchangeTsNs := exchangeTsNs, localTsNs := localTsNs }

/-- A fragment of the stream, as the client's handlers take it: short ones and other templates are
passed over. -/
def handleMessage {α : Type} (templateId : Nat) (read : Except Fault (Option α)) :
    Except Fault (Option α) :=
  if buf.length < headerLength then .ok none
  else
    (sbe.header buf).bind fun hdr =>
      if hdr.templateId = templateId then (wrapMessage buf).bind fun _ => read else .ok none

/-- `handle_exec_report_fragment`, with the handler's reads. -/
def handleExecReportFragment : Except Fault (Option ExecReport) :=
  handleMessage buf ExecutionReport.id (readReport buf)

end ReportHandler

theorem handleMessage_framed {α : Type} {buf : List UInt8} {t : Template} {ws : List Write}
    (h : Framed buf t ws) (read : Except Fault (Option α)) :
    handleMessage buf t.id read = read := by
  have hlen : ¬ buf.length < headerLength :=
    Nat.not_lt.mpr (Nat.le_trans (Nat.le_add_right _ _) h.length)
  rw [handleMessage, if_neg hlen, h.header]
  show (if t.id = t.id then (wrapMessage buf).bind _ else _) = _
  rw [if_pos rfl, h.wrapMessage]
  rfl

/-- Numbers of the wire type, and a currency without null characters. -/
def ReportFits (m : ExecReport) : Prop :=
  (∀ n ∈ [m.orderId, m.exchangeOrderId, m.instrumentId, m.filledQty, m.remainingQty,
      m.exchangeTsNs, m.localTsNs], n < 2 ^ 64) ∧
    SignedFits 8 m.price ∧ SignedFits 8 m.fee ∧ 0 ∉ bytesOf m.feeCurrency

theorem framed_encodeReport (m : ExecReport) :
    Framed (encodeReport m) ExecutionReport (reportSetters m) :=
  framed_take_putAll rfl (by rw [List.length_replicate]; decide)

theorem handleExecReportFragment_encode {m : ExecReport} (hm : ReportFits m) :
    handleExecReportFragment (encodeReport m) =
      .ok (some { m with feeCurrency := cut 8 m.feeCurrency }) := by
  have hframed := framed_encodeReport m
  have hset := hframed.holds.right
  obtain ⟨hnums, hprice, hfee, hnull⟩ := hm
  simp only [List.forall_mem_cons] at hnums
  obtain ⟨horder, hexchangeOrder, hinstrument, hfilled, hremaining, hts, hlocal, -⟩ := hnums
  rw [handleExecReportFragment, handleMessage_framed hframed, readReport,
    getUint_eq hset (by simp [reportSetters]) horder,
    getUint_eq hset (by simp [reportSetters]) hexchangeOrder,
    getEnum_eq hset (a := m.exchangeId) (by simp [reportSetters]),
    getUint_eq hset (by simp [reportSetters]) hinstrument,
    getEnum_eq hset (a := m.status) (by simp [reportSetters]),
    getEnum_eq hset (a := m.side) (by simp [reportSetters]),
    getEnum_eq hset (a := m.orderType) (by simp [reportSetters]),
    getInt_eq hset (by simp [reportSetters]) hprice,
    getUint_eq hset (by simp [reportSetters]) hfilled,
    getUint_eq hset (by simp [reportSetters]) hremaining,
    getEnum_eq hset (a := m.rejectReason) (by simp [reportSetters]),
    getInt_eq hset (by simp [reportSetters]) hfee,
    getText_eq hset (by simp [reportSetters]) hnull,
    getUint_eq hset (by simp [reportSetters]) hts,
    getUint_eq hset (by simp [reportSetters]) hlocal]
  rfl

/-- **Reports delivered.** For any reports, of numbers of the wire type and currencies without null
characters, whatever the publication answers: the strategy reads every message of the stream,
without an exception, as the report it stands for, in order, none missing and none twice but for the
reports dropped and those behind a publication that does not return; only a currency of more than
eight bytes is cut. -/
theorem reports_delivered (calls : List (ExecReport × List ClaimCode))
    (h : ∀ c ∈ calls, ReportFits c.1) :
    (offerAll (some ∘ encodeReport) calls).map handleExecReportFragment =
      (delivered (some ∘ encodeReport) calls).map fun m =>
        .ok (some { m with feeCurrency := cut 8 m.feeCurrency }) := by
  refine map_offerAll fun c hc message hmessage => ?_
  obtain rfl : encodeReport c.1 = message := Option.some.inj hmessage
  exact handleExecReportFragment_encode (h c hc)

/-- A fill whose currency does not fit. -/
def sampleReport : ExecReport where
  orderId := 7
  exchangeOrderId := 900
  exchangeId := .OKX
  instrumentId := 5
  status := .PARTIAL
  side := .SELL
  orderType := .LIMIT
  price := 100
  filledQty := 2
  remainingQty := 1
  rejectReason := .NULL_VALUE
  fee := -3
  feeCurrency := "USDT-SWAP"
  exchangeTsNs := 11
  localTsNs := 12

/-- The report is published after the stream pushed back, and dropped the second time. -/
def sampleCalls : List (ExecReport × List ClaimCode) :=
  [(sampleReport, [.BACK_PRESSURED, .claimed]), (sampleReport, [.NOT_CONNECTED])]

theorem reports_delivered_two :
    (∀ c ∈ sampleCalls, ReportFits c.1) ∧
      (offerAll (some ∘ encodeReport) sampleCalls).map handleExecReportFragment =
        [.ok (some { sampleReport with feeCurrency := cut 8 "USDT-SWAP" })] := by
  have hfits : ∀ c ∈ sampleCalls, ReportFits c.1 := by
    have hsample : ReportFits sampleReport := by
      refine ⟨?_, ?_, ?_, ?_⟩
      · show ∀ n ∈ [7, 900, 5, 2, 1, 11, 12], n < 2 ^ 64
        decide
      · exact ⟨by decide, by decide⟩
      · exact ⟨by decide, by decide⟩
      · show 0 ∉ bytesOf "USDT-SWAP"
        decide
    intro c hc
    simp only [sampleCalls, List.mem_cons, List.not_mem_nil, or_false] at hc
    obtain rfl | rfl := hc <;> exact hsample
  exact ⟨hfits, reports_delivered _ hfits⟩

/-! ## Account snapshots -/

/-- The block of the message, ahead of its two groups. -/
def AccountSnapshotBlock : Template where
  id := 27
  blockLength := 33
  block := [⟨0, 1⟩, ⟨1, 8⟩, ⟨9, 8⟩, ⟨17, 8⟩, ⟨25, 8⟩]

/-- `sbeBlockLength` of the groups. -/
def positionBlockLength : Nat := 56
def balanceBlockLength : Nat := 24

def kMaxPositions : Nat := 500
def kMaxCurrencyBalances : Nat := 32

def positionEntry (position : Nat) (p : OrderGateway.AccountPosition) : List Write :=
  [.chars position 32 (bytesOf p.exchangeSymbol), .int (position + 32) 8 p.netQtyE8,
    .int (position + 40) 8 p.avgEntryPriceE8, .int (position + 48) 8 p.unrealizedPnlE8]

def balanceEntry (position : Nat) (b : OrderGateway.CurrencyBalance) : List Write :=
  [.chars position 8 (bytesOf b.ccy), .int (position + 8) 8 b.equityE8,
    .int (position + 16) 8 b.availableBalanceE8]

section EncodeSnapshot

variable (snapshot : AccountSnapshotData)

/-- The rows that are encoded. -/
def encodedPositions : List OrderGateway.AccountPosition := snapshot.positions.take kMaxPositions

def encodedBalances : List OrderGateway.CurrencyBalance :=
  snapshot.currencyBalances.take kMaxCurrencyBalances

def snapshotSetters : List Write :=
  [setEnum .exchangeId 0 snapshot.exchangeId, setUint 1 8 snapshot.correlationId,
    setUint 9 8 snapshot.timestampNs, setInt 17 8 snapshot.availableBalanceE8,
    setInt 25 8 snapshot.totalEquityE8]

/-- Where the second group begins. -/
def balancesPosition : Nat :=
  AccountSnapshotBlock.length + groupLength positionBlockLength (encodedPositions snapshot).length

def snapshotLength : Nat :=
  balancesPosition snapshot + groupLength balanceBlockLength (encodedBalances snapshot).length

def snapshotWrites : List Write :=
  AccountSnapshotBlock.header ++ snapshotSetters snapshot ++
    groupWrites positionBlockLength positionEntry AccountSnapshotBlock.length
      (encodedPositions snapshot) ++
    groupWrites balanceBlockLength balanceEntry (balancesPosition snapshot)
      (encodedBalances snapshot)

/-- `putExchangeSymbol` and `putCcy` throw on texts that the fields have no room for. -/
def SnapshotTooLarge : Prop :=
  (∃ p ∈ encodedPositions snapshot, 32 < (bytesOf p.exchangeSymbol).length) ∨
    ∃ b ∈ encodedBalances snapshot, 8 < (bytesOf b.ccy).length

instance : Decidable (SnapshotTooLarge snapshot) := inferInstanceAs (Decidable (_ ∨ _))

/-- The message, over a scratch buffer of 64 KiB that is cleared. -/
def snapshotBytes : List UInt8 :=
  (putAll (List.replicate (64 * 1024) 0) (snapshotWrites snapshot)).take (snapshotLength snapshot)

/-- `SbeAccountSnapshotCodec::encode`. -/
def encodeSnapshot : Option (List UInt8) :=
  if SnapshotTooLarge snapshot then none else some (snapshotBytes snapshot)

end EncodeSnapshot

theorem tiles_positionEntry (position : Nat) (p : OrderGateway.AccountPosition) :
    Tiles position (position + positionBlockLength) (positionEntry position p) :=
  ⟨rfl, rfl, rfl, rfl, rfl⟩

theorem tiles_balanceEntry (position : Nat) (b : OrderGateway.CurrencyBalance) :
    Tiles position (position + balanceBlockLength) (balanceEntry position b) :=
  ⟨rfl, rfl, rfl, rfl⟩

theorem tiles_snapshotWrites (snapshot : AccountSnapshotData) :
    Tiles 0 (snapshotLength snapshot) (snapshotWrites snapshot) := by
  have hheader : Tiles 0 headerLength AccountSnapshotBlock.header := tiles_headerWrites _ _ _ _
  have hblock : Tiles headerLength AccountSnapshotBlock.length (snapshotSetters snapshot) :=
    ⟨rfl, rfl, rfl, rfl, rfl, rfl⟩
  exact ((hheader.append hblock).append (tiles_groupWrites tiles_positionEntry _ _)).append
    (tiles_groupWrites tiles_balanceEntry _ _)

/-- The scratch buffer has room for any snapshot. -/
theorem snapshotLength_le (snapshot : AccountSnapshotData) :
    snapshotLength snapshot ≤ 64 * 1024 := by
  have hpositions : (encodedPositions snapshot).length ≤ kMaxPositions := List.length_take_le _ _
  have hbalances : (encodedBalances snapshot).length ≤ kMaxCurrencyBalances :=
    List.length_take_le _ _
  unfold kMaxPositions at hpositions
  unfold kMaxCurrencyBalances at hbalances
  unfold snapshotLength balancesPosition groupLength positionBlockLength balanceBlockLength
    dimensionsLength
  show 8 + 33 + _ + _ ≤ _
  omega

/-! ### The handlers -/

section ReadSnapshot

variable (buf : List UInt8)

def readPosition (position : Nat) : Except Fault Strategy.AccountPosition :=
  (textAt buf position 32).bind fun exchangeSymbol =>
  (intAt buf (position + 32) 8).bind fun netQtyE8 =>
  (intAt buf (position + 40) 8).bind fun avgEntryPriceE8 =>
  (intAt buf (position + 48) 8).map fun unrealizedPnlE8 =>
    { exchangeSymbol := exchangeSymbol, netQtyE8 := netQtyE8, avgEntryPriceE8 := avgEntryPriceE8
      unrealizedPnlE8 := unrealizedPnlE8 }

def readBalance (position : Nat) : Except Fault Strategy.CurrencyBalance :=
  (textAt buf position 8).bind fun ccy =>
  (intAt buf (position + 8) 8).bind fun equityE8 =>
  (intAt buf (position + 16) 8).map fun availableBalanceE8 =>
    { ccy := ccy, equityE8 := equityE8, availableBalanceE8 := availableBalanceE8 }

end ReadSnapshot

/-- A message that was wrapped. Its groups have one cursor, which reading them moves. -/
structure SnapshotMessage where
  buf : List UInt8
  /-- The position behind the block. -/
  blockEnd : Nat
  position : Nat

namespace SnapshotMessage

variable (snap : SnapshotMessage)

def sbeRewind : SnapshotMessage := { snap with position := snap.blockEnd }

/-- `positions().count()`, for the log line of `StrategyService::on_account_snapshot`. -/
def positionsCount : Except Fault (Nat × SnapshotMessage) :=
  (sbe.group snap.buf snap.position).map fun g => (g.count, { snap with position := g.position })

def positions : Except Fault (List Strategy.AccountPosition × SnapshotMessage) :=
  (readGroup sbe snap.buf (readPosition snap.buf) snap.position).map fun r =>
    (r.2, { snap with position := r.1 })

def currencyBalances : Except Fault (List Strategy.CurrencyBalance × SnapshotMessage) :=
  (readGroup sbe snap.buf (readBalance snap.buf) snap.position).map fun r =>
    (r.2, { snap with position := r.1 })

/-- The reads of a strategy: it rewinds first, and takes the groups in the order of the schema. -/
def read : Except Fault AccountSnapshot :=
  let snap := snap.sbeRewind
  (getEnum snap.buf .exchangeId 0).bind fun exchangeId =>
  (getUint snap.buf 1 8).bind fun correlationId =>
  (getUint snap.buf 9 8).bind fun timestampNs =>
  (getInt snap.buf 17 8).bind fun availableBalanceE8 =>
  (getInt snap.buf 25 8).bind fun totalEquityE8 =>
  snap.positions.bind fun (positions, snap) =>
  snap.currencyBalances.map fun (currencyBalances, _) =>
    { exchangeId := exchangeId, correlationId := correlationId, timestampNs := timestampNs
      availableBalanceE8 := availableBalanceE8, totalEquityE8 := totalEquityE8
      positions := positions, currencyBalances := currencyBalances }

end SnapshotMessage

/-- `handle_account_snapshot_fragment`, with the service's log line and the strategy's reads. -/
def handleAccountSnapshotFragment (buf : List UInt8) : Except Fault (Option AccountSnapshot) :=
  if buf.length < headerLength then .ok none
  else
    (sbe.header buf).bind fun hdr =>
      if hdr.templateId = AccountSnapshotBlock.id then
        (sbe.wrapForDecode buf headerLength hdr.blockLength hdr.version).bind fun blockEnd =>
        (SnapshotMessage.positionsCount ⟨buf, blockEnd, blockEnd⟩).bind fun (_, snap) =>
        snap.read.map some
      else .ok none

/-! ### From the encoder to the strategy -/

/-- Numbers of the wire type, and texts without null characters. -/
def SnapshotFits (s : AccountSnapshotData) : Prop :=
  (s.correlationId < 2 ^ 64 ∧ s.timestampNs < 2 ^ 64 ∧ SignedFits 8 s.availableBalanceE8 ∧
      SignedFits 8 s.totalEquityE8) ∧
    (∀ p ∈ s.positions, (∀ n ∈ [p.netQtyE8, p.avgEntryPriceE8, p.unrealizedPnlE8],
      SignedFits 8 n) ∧ 0 ∉ bytesOf p.exchangeSymbol) ∧
    ∀ b ∈ s.currencyBalances, (∀ n ∈ [b.equityE8, b.availableBalanceE8], SignedFits 8 n) ∧
      0 ∉ bytesOf b.ccy

/-- The row of a position as a strategy sees it. -/
def receivedPosition (p : OrderGateway.AccountPosition) : Strategy.AccountPosition where
  exchangeSymbol := p.exchangeSymbol
  netQtyE8 := p.netQtyE8
  avgEntryPriceE8 := p.avgEntryPriceE8
  unrealizedPnlE8 := p.unrealizedPnlE8

def receivedBalance (b : OrderGateway.CurrencyBalance) : Strategy.CurrencyBalance where
  ccy := b.ccy
  equityE8 := b.equityE8
  availableBalanceE8 := b.availableBalanceE8

/-- A snapshot without the rows that are not encoded. -/
def receivedSnapshot (s : AccountSnapshotData) : AccountSnapshot where
  exchangeId := s.exchangeId
  correlationId := s.correlationId
  timestampNs := s.timestampNs
  availableBalanceE8 := s.availableBalanceE8
  totalEquityE8 := s.totalEquityE8
  positions := (encodedPositions s).map receivedPosition
  currencyBalances := (encodedBalances s).map receivedBalance

theorem readPosition_eq {buf : List UInt8} {position : Nat} {p : OrderGateway.AccountPosition}
    (hnums : ∀ n ∈ [p.netQtyE8, p.avgEntryPriceE8, p.unrealizedPnlE8], SignedFits 8 n)
    (hnull : 0 ∉ bytesOf p.exchangeSymbol) (hlen : (bytesOf p.exchangeSymbol).length ≤ 32)
    (h : Holds buf (positionEntry position p)) :
    readPosition buf position = .ok (receivedPosition p) := by
  simp only [List.forall_mem_cons] at hnums
  obtain ⟨hqty, hentry, hpnl, -⟩ := hnums
  rw [readPosition, textAt_eq h (by simp [positionEntry]) hnull, cut_eq_self hlen,
    intAt_eq h (by simp [positionEntry]) hqty, intAt_eq h (by simp [positionEntry]) hentry,
    intAt_eq h (by simp [positionEntry]) hpnl]
  rfl

theorem readBalance_eq {buf : List UInt8} {position : Nat} {b : OrderGateway.CurrencyBalance}
    (hnums : ∀ n ∈ [b.equityE8, b.availableBalanceE8], SignedFits 8 n) (hnull : 0 ∉ bytesOf b.ccy)
    (hlen : (bytesOf b.ccy).length ≤ 8) (h : Holds buf (balanceEntry position b)) :
    readBalance buf position = .ok (receivedBalance b) := by
  simp only [List.forall_mem_cons] at hnums
  obtain ⟨hequity, havailable, -⟩ := hnums
  rw [readBalance, textAt_eq h (by simp [balanceEntry]) hnull, cut_eq_self hlen,
    intAt_eq h (by simp [balanceEntry]) hequity, intAt_eq h (by simp [balanceEntry]) havailable]
  rfl

theorem length_snapshotBytes (s : AccountSnapshotData) :
    (snapshotBytes s).length = snapshotLength s := by
  have hroom : snapshotLength s ≤ (List.replicate (64 * 1024) (0 : UInt8)).length := by
    rw [List.length_replicate]
    exact snapshotLength_le s
  have hfits : ∀ w ∈ snapshotWrites s, w.field.behind ≤ snapshotLength s :=
    (tiles_snapshotWrites s).behind_le
  rw [snapshotBytes, List.length_take, length_putAll fun w hw => Nat.le_trans (hfits w hw) hroom,
    Nat.min_eq_left hroom]

theorem holds_snapshotBytes (s : AccountSnapshotData) :
    Holds (snapshotBytes s) (snapshotWrites s) := by
  refine holds_take_putAll ?_ (tiles_snapshotWrites s).behind_le
    (tiles_snapshotWrites s).pairwise_disjoint
  rw [List.length_replicate]
  exact snapshotLength_le s

section Received

variable {s : AccountSnapshotData} (hs : SnapshotFits s) (hlarge : ¬ SnapshotTooLarge s)

include hs hlarge

/-- The first group is read from behind the block, and leaves the cursor at the second. -/
theorem positions_snapshotBytes :
    SnapshotMessage.positions
        ⟨snapshotBytes s, AccountSnapshotBlock.length, AccountSnapshotBlock.length⟩ =
      .ok ((encodedPositions s).map receivedPosition,
        ⟨snapshotBytes s, AccountSnapshotBlock.length, balancesPosition s⟩) := by
  have hholds := holds_snapshotBytes s
  have hread : ∀ position, ∀ p ∈ encodedPositions s,
      Holds (snapshotBytes s) (positionEntry position p) →
        readPosition (snapshotBytes s) position = .ok (receivedPosition p) := by
    intro position p hp hentry
    obtain ⟨hnums, hnull⟩ := hs.2.1 p (List.mem_of_mem_take hp)
    exact readPosition_eq hnums hnull (Nat.not_lt.mp fun hlt => hlarge (.inl ⟨p, hp, hlt⟩)) hentry
  have hcount : (encodedPositions s).length < 2 ^ 16 :=
    Nat.lt_of_le_of_lt (List.length_take_le kMaxPositions _) (by decide)
  have hgroup := readGroup_eq Flyweights.documented_reference hread (by decide) hcount
    (by rw [length_snapshotBytes, snapshotLength, balancesPosition]; omega) hholds.left.right
  rw [SnapshotMessage.positions, hgroup]
  rfl

theorem currencyBalances_snapshotBytes :
    SnapshotMessage.currencyBalances
        ⟨snapshotBytes s, AccountSnapshotBlock.length, balancesPosition s⟩ =
      .ok ((encodedBalances s).map receivedBalance,
        ⟨snapshotBytes s, AccountSnapshotBlock.length, snapshotLength s⟩) := by
  have hholds := holds_snapshotBytes s
  have hread : ∀ position, ∀ b ∈ encodedBalances s,
      Holds (snapshotBytes s) (balanceEntry position b) →
        readBalance (snapshotBytes s) position = .ok (receivedBalance b) := by
    intro position b hb hentry
    obtain ⟨hnums, hnull⟩ := hs.2.2 b (List.mem_of_mem_take hb)
    exact readBalance_eq hnums hnull (Nat.not_lt.mp fun hlt => hlarge (.inr ⟨b, hb, hlt⟩)) hentry
  have hcount : (encodedBalances s).length < 2 ^ 16 :=
    Nat.lt_of_le_of_lt (List.length_take_le kMaxCurrencyBalances _) (by decide)
  have hgroup := readGroup_eq Flyweights.documented_reference hread (by decide) hcount
    (length_snapshotBytes s).ge hholds.right
  rw [SnapshotMessage.currencyBalances, hgroup]
  rfl

/-- Rewinding makes the reads independent of the cursor. -/
theorem read_snapshotBytes (position : Nat) :
    SnapshotMessage.read ⟨snapshotBytes s, AccountSnapshotBlock.length, position⟩ =
      .ok (receivedSnapshot s) := by
  have hset : Holds (snapshotBytes s) (snapshotSetters s) := (holds_snapshotBytes s).left.left.right
  obtain ⟨hcorrelation, hts, havailable, hequity⟩ := hs.1
  rw [SnapshotMessage.read]
  show (getEnum (snapshotBytes s) .exchangeId 0).bind _ = _
  rw [getEnum_eq hset (a := s.exchangeId) (by simp [snapshotSetters])]
  show (getUint (snapshotBytes s) 1 8).bind _ = _
  rw [getUint_eq hset (by simp [snapshotSetters]) hcorrelation]
  show (getUint (snapshotBytes s) 9 8).bind _ = _
  rw [getUint_eq hset (by simp [snapshotSetters]) hts]
  show (getInt (snapshotBytes s) 17 8).bind _ = _
  rw [getInt_eq hset (by simp [snapshotSetters]) havailable]
  show (getInt (snapshotBytes s) 25 8).bind _ = _
  rw [getInt_eq hset (by simp [snapshotSetters]) hequity]
  show (SnapshotMessage.positions ⟨snapshotBytes s, AccountSnapshotBlock.length,
    AccountSnapshotBlock.length⟩).bind _ = _
  rw [positions_snapshotBytes hs hlarge]
  show (SnapshotMessage.currencyBalances ⟨snapshotBytes s, AccountSnapshotBlock.length,
    balancesPosition s⟩).map _ = _
  rw [currencyBalances_snapshotBytes hs hlarge]
  rfl

theorem handleAccountSnapshotFragment_snapshotBytes :
    handleAccountSnapshotFragment (snapshotBytes s) = .ok (some (receivedSnapshot s)) := by
  have hfw := Flyweights.documented_reference
  have hlen := length_snapshotBytes s
  have hblock : AccountSnapshotBlock.length + dimensionsLength ≤ (snapshotBytes s).length := by
    rw [hlen, snapshotLength, balancesPosition, groupLength]
    omega
  have hheaderLength : headerLength ≤ (snapshotBytes s).length :=
    Nat.le_trans (by decide) (Nat.le_trans (Nat.le_add_right _ _) hblock)
  have hheader : sbe.header (snapshotBytes s) =
      .ok ⟨AccountSnapshotBlock.blockLength, AccountSnapshotBlock.id, sbeSchemaVersion⟩ := by
    rw [hfw.header _ hheaderLength, Holds.headerAt (holds_snapshotBytes s).left.left.left
      AccountSnapshotBlock.blockLength_lt AccountSnapshotBlock.id_lt (by decide)]
  have hwrap : sbe.wrapForDecode (snapshotBytes s) headerLength AccountSnapshotBlock.blockLength
      sbeSchemaVersion = .ok AccountSnapshotBlock.length :=
    hfw.wrapForDecode _ _ _ _ (Nat.le_trans (Nat.le_add_right _ _) hblock)
  have hgroup : sbe.group (snapshotBytes s) AccountSnapshotBlock.length =
      .ok (groupAt (snapshotBytes s) AccountSnapshotBlock.length) := hfw.group _ _ hblock
  rw [handleAccountSnapshotFragment, if_neg (Nat.not_lt.mpr hheaderLength), hheader]
  show (sbe.wrapForDecode _ _ _ _).bind _ = _
  rw [hwrap]
  show (SnapshotMessage.positionsCount ⟨snapshotBytes s, AccountSnapshotBlock.length,
    AccountSnapshotBlock.length⟩).bind _ = _
  rw [SnapshotMessage.positionsCount, hgroup]
  show (SnapshotMessage.read ⟨snapshotBytes s, AccountSnapshotBlock.length, _⟩).map some = _
  rw [read_snapshotBytes hs hlarge]
  rfl

end Received

/-- **Snapshots delivered.** For any snapshots, of numbers of the wire type and texts without null
characters, whatever the publication answers: every message of the stream is read, without an
exception, as the snapshot it stands for, in order, with its first 500 positions and its first 32
balances unchanged; missing are only the snapshots for which the encoder throws, those dropped, and
those behind a publication that does not return. What a strategy reads does not depend on where the
service or anyone before it left the cursor. -/
theorem snapshots_delivered (calls : List (AccountSnapshotData × List ClaimCode))
    (h : ∀ c ∈ calls, SnapshotFits c.1) :
    (offerAll encodeSnapshot calls).map handleAccountSnapshotFragment =
        (delivered encodeSnapshot calls).map (fun s => .ok (some (receivedSnapshot s))) ∧
      ∀ c ∈ calls, ∀ message, encodeSnapshot c.1 = some message → ∀ position,
        SnapshotMessage.read ⟨message, AccountSnapshotBlock.length, position⟩ =
          .ok (receivedSnapshot c.1) := by
  have hencode : ∀ {s : AccountSnapshotData} {message : List UInt8},
      encodeSnapshot s = some message → ¬ SnapshotTooLarge s ∧ snapshotBytes s = message := by
    intro s message hmessage
    unfold encodeSnapshot at hmessage
    split at hmessage
    next => cases hmessage
    next hlarge => exact ⟨hlarge, Option.some.inj hmessage⟩
  refine ⟨map_offerAll fun c hc message hmessage => ?_, fun c hc message hmessage position => ?_⟩
  · obtain ⟨hlarge, rfl⟩ := hencode hmessage
    exact handleAccountSnapshotFragment_snapshotBytes (h c hc) hlarge
  · obtain ⟨hlarge, rfl⟩ := hencode hmessage
    exact read_snapshotBytes (h c hc) hlarge position

/-- A long and a short position, and a balance. -/
def sampleSnapshot : AccountSnapshotData where
  exchangeId := .OKX
  correlationId := 3
  timestampNs := 4
  availableBalanceE8 := 500
  totalEquityE8 := -600
  positions := [⟨"BTC-USDT-SWAP", -7, 100, 1⟩, ⟨"ETH-USDT-SWAP", 8, 50, -2⟩]
  currencyBalances := [⟨"USDT", 900, 800⟩]

theorem snapshots_delivered_two :
    (∀ c ∈ [(sampleSnapshot, [ClaimCode.claimed]), (sampleSnapshot, [.NOT_CONNECTED])],
        SnapshotFits c.1) ∧
      (offerAll encodeSnapshot
          [(sampleSnapshot, [.claimed]), (sampleSnapshot, [.NOT_CONNECTED])]).map
          handleAccountSnapshotFragment =
        [.ok (some (receivedSnapshot sampleSnapshot))] := by
  have hfits : ∀ c ∈ [(sampleSnapshot, [ClaimCode.claimed]), (sampleSnapshot, [.NOT_CONNECTED])],
      SnapshotFits c.1 := by
    have hsample : SnapshotFits sampleSnapshot := by
      refine ⟨⟨by decide, by decide, ⟨by decide, by decide⟩, ⟨by decide, by decide⟩⟩, ?_, ?_⟩
      · show ∀ p ∈ ([⟨"BTC-USDT-SWAP", -7, 100, 1⟩, ⟨"ETH-USDT-SWAP", 8, 50, -2⟩] :
          List OrderGateway.AccountPosition), _ ∧ 0 ∉ bytesOf p.exchangeSymbol
        decide
      · show ∀ b ∈ ([⟨"USDT", 900, 800⟩] : List OrderGateway.CurrencyBalance),
          _ ∧ 0 ∉ bytesOf b.ccy
        decide
    intro c hc
    simp only [List.mem_cons, List.not_mem_nil, or_false] at hc
    obtain rfl | rfl := hc <;> exact hsample
  exact ⟨hfits, (snapshots_delivered _ hfits).1⟩

end BptCore.Messaging
