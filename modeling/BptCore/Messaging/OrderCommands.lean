import BptCore.Lib.Flyweight
import BptCore.OrderGateway.OrderProcessor
import BptCore.Strategy.Order.Requests

/-!
# Order commands on the wire

The strategy's gateway client checks an order, claims room in the stream's log and encodes the
message into it. The gateway's subscriber tells the messages of the stream apart by their template
and decodes them into the events of the order processor.

* **`published`** — the loop around a claim, over what the publication answers.
* **`ClientCall.send`** — the calls of `AeronOrderGatewayClient`: the answer, and the message.
* **`handleFragment`** — `OrderSubscriber`, over what the generated code does.
* **`commands_delivered`** — what the gateway makes of the stream after any calls.
-/

namespace BptCore.Messaging

open Flyweight OrderGateway Strategy

/-! ## Values on the wire -/

/-- An enumeration over a byte. `get` knows the values that have a name. -/
structure WireEnum (α : Type) where
  value : α → Nat
  get : Nat → Option α
  value_lt : ∀ a, value a < 256
  get_value : ∀ a, get (value a) = some a

namespace WireEnum

def exchangeId : WireEnum ExchangeId where
  value := ExchangeId.value
  get n := [ExchangeId.ALL, .BINANCE, .OKX, .HYPERLIQUID, .DERIBIT][n]?
  value_lt a := by cases a <;> decide
  get_value a := by cases a <;> rfl

def orderSide : WireEnum OrderSide where
  value
    | .BUY => 0
    | .SELL => 1
  get n := [OrderSide.BUY, .SELL][n]?
  value_lt a := by cases a <;> decide
  get_value a := by cases a <;> rfl

def orderType : WireEnum OrderType where
  value
    | .MARKET => 0
    | .LIMIT => 1
  get n := [OrderType.MARKET, .LIMIT][n]?
  value_lt a := by cases a <;> decide
  get_value a := by cases a <;> rfl

def timeInForce : WireEnum TimeInForce where
  value
    | .GTC => 0
    | .IOC => 1
    | .FOK => 2
  get n := [TimeInForce.GTC, .IOC, .FOK][n]?
  value_lt a := by cases a <;> decide
  get_value a := by cases a <;> rfl

end WireEnum

/-- The bytes of a text. -/
def bytesOf (s : String) : List UInt8 := s.toByteArray.data.toList

/-- The text of bytes; bytes that are no text are read as an empty one. -/
def textOf (bs : List UInt8) : String := (String.fromUTF8? ⟨bs.toArray⟩).getD ""

theorem textOf_bytesOf (s : String) : textOf (bytesOf s) = s := by
  have hvalid := s.isValidUTF8
  unfold textOf bytesOf String.fromUTF8?
  rw [Array.toArray_toList, dif_pos hvalid]
  rfl

theorem bytesOf_empty : bytesOf "" = [] := rfl

/-- The text of the first bytes of a text. -/
def cut (width : Nat) (s : String) : String := textOf ((bytesOf s).take width)

theorem cut_eq_self {width : Nat} {s : String} (h : (bytesOf s).length ≤ width) :
    cut width s = s := by
  rw [cut, List.take_of_length_le h, textOf_bytesOf]

/-! ## Messages with a block only -/

def sbeSchemaId : Nat := 1
def sbeSchemaVersion : Nat := 14

/-- The header's fields, and those of the block as fields of the message. -/
def fieldsOf (block : List Field) : List Field :=
  [⟨0, 2⟩, ⟨2, 2⟩, ⟨4, 2⟩, ⟨6, 2⟩] ++ block.map fun f => ⟨headerLength + f.offset, f.width⟩

/-- A message with a block only: `sbeTemplateId`, `sbeBlockLength` and the fields that are set, in
the order in which they are. -/
structure Template where
  id : Nat
  blockLength : Nat
  block : List Field
  id_lt : id < 2 ^ 16 := by decide
  blockLength_lt : blockLength < 2 ^ 16 := by decide
  disjoint : (fieldsOf block).Pairwise Field.Disjoint := by decide
  fits : ∀ f ∈ fieldsOf block, f.behind ≤ headerLength + blockLength := by decide

/-- The symbol is set last, and stands before the flags. -/
def NewOrder : Template where
  id := 10
  blockLength := 77
  block := [⟨0, 8⟩, ⟨8, 1⟩, ⟨9, 8⟩, ⟨17, 1⟩, ⟨18, 1⟩, ⟨19, 1⟩, ⟨20, 8⟩, ⟨28, 8⟩, ⟨36, 8⟩, ⟨76, 1⟩,
    ⟨44, 32⟩]

def CancelOrder : Template where
  id := 11
  blockLength := 25
  block := [⟨0, 8⟩, ⟨8, 1⟩, ⟨9, 8⟩, ⟨17, 8⟩]

def CancelAll : Template where
  id := 12
  blockLength := 17
  block := [⟨0, 1⟩, ⟨1, 8⟩, ⟨9, 8⟩]

def ModifyOrder : Template where
  id := 13
  blockLength := 41
  block := [⟨0, 8⟩, ⟨8, 1⟩, ⟨9, 8⟩, ⟨17, 8⟩, ⟨25, 8⟩, ⟨33, 8⟩]

def AccountSnapshotRequest : Template where
  id := 26
  blockLength := 17
  block := [⟨0, 1⟩, ⟨1, 8⟩, ⟨9, 8⟩]

/-- `sbeBlockAndHeaderLength`. -/
def Template.length (t : Template) : Nat := headerLength + t.blockLength

/-- `wrapAndApplyHeader`. -/
def Template.header (t : Template) : List Write :=
  headerWrites t.blockLength t.id sbeSchemaId sbeSchemaVersion

/-- The setters, at offsets of the block. -/
def setUint (offset width n : Nat) : Write := .uint (headerLength + offset) width n

def setInt (offset width : Nat) (n : Int) : Write := .int (headerLength + offset) width n

def setEnum {α : Type} (e : WireEnum α) (offset : Nat) (a : α) : Write :=
  .uint (headerLength + offset) 1 (e.value a)

def setText (offset width : Nat) (s : String) : Write :=
  .chars (headerLength + offset) width (bytesOf s)

section Getters

/-- The operations of the generated code. -/
abbrev sbe : Flyweights := Flyweights.reference

variable (buf : List UInt8)

/-- The accessors, of a block or of the entry of a group, at offsets of the buffer. -/
def intAt (offset width : Nat) : Except Fault Int := (sbe.uint buf offset width).map (toSigned width)

/-- The text up to the first null character of the field. -/
def textAt (offset width : Nat) : Except Fault String :=
  (sbe.field buf offset width).map fun bs => textOf (charsOf bs)

/-- The getters of a message, at offsets of its block. -/
def getUint (offset width : Nat) : Except Fault Nat := sbe.uint buf (headerLength + offset) width

def getInt (offset width : Nat) : Except Fault Int := intAt buf (headerLength + offset) width

/-- `get`: the null value is `none` where the enumeration has no name for it, and any other value
without a name throws. -/
def getEnum {α : Type} (e : WireEnum α) (offset : Nat) : Except Fault (Option α) :=
  (getUint buf offset 1).bind fun n =>
    match e.get n with
    | some a => .ok (some a)
    | none => if n = 255 then .ok none else .error .thrown

def getText (offset width : Nat) : Except Fault String := textAt buf (headerLength + offset) width

/-- `wrap` of the header and `wrapForDecode`: the block that the header announces is there. -/
def wrapMessage : Except Fault Unit :=
  (sbe.header buf).bind fun hdr =>
    (sbe.wrapForDecode buf headerLength hdr.blockLength hdr.version).map fun _ => ()

end Getters

/-! ### Reading what was set -/

section Reading

variable {buf : List UInt8} {ws : List Write} (h : Holds buf ws)

include h

theorem intAt_eq {offset width : Nat} {n : Int} (hw : Write.int offset width n ∈ ws)
    (hn : SignedFits width n) : intAt buf offset width = .ok n := by
  rw [intAt, h.uint Flyweights.documented_reference hw (toNat_emod_lt width n)]
  exact congrArg Except.ok (toSigned_emod hn)

theorem textAt_eq {offset width : Nat} {s : String}
    (hw : Write.chars offset width (bytesOf s) ∈ ws) (hnull : 0 ∉ bytesOf s) :
    textAt buf offset width = .ok (cut width s) := by
  have hread := Flyweights.documented_reference.field buf offset width (h _ hw).1
  rw [textAt, hread]
  exact congrArg (fun bs => Except.ok (textOf bs)) (h.chars hw hnull)

theorem getUint_eq {offset width n : Nat} (hw : setUint offset width n ∈ ws)
    (hn : n < 256 ^ width) : getUint buf offset width = .ok n :=
  h.uint Flyweights.documented_reference hw hn

theorem getInt_eq {offset width : Nat} {n : Int} (hw : setInt offset width n ∈ ws)
    (hn : SignedFits width n) : getInt buf offset width = .ok n := intAt_eq h hw hn

theorem getEnum_eq {α : Type} {e : WireEnum α} {offset : Nat} {a : α}
    (hw : setEnum e offset a ∈ ws) : getEnum buf e offset = .ok (some a) := by
  have hlt : e.value a < 256 ^ 1 := e.value_lt a
  have hread : getUint buf offset 1 = .ok (e.value a) := getUint_eq h hw hlt
  rw [getEnum, hread]
  show (match e.get (e.value a) with | some a => _ | none => _) = _
  rw [e.get_value a]

theorem getText_eq {offset width : Nat} {s : String} (hw : setText offset width s ∈ ws)
    (hnull : 0 ∉ bytesOf s) : getText buf offset width = .ok (cut width s) := textAt_eq h hw hnull

end Reading

/-- A message of a template, with its header, as long as it should be. -/
structure Framed (buf : List UInt8) (t : Template) (ws : List Write) : Prop where
  length : t.length ≤ buf.length
  holds : Holds buf (t.header ++ ws)

/-- What a template's setters leave at the beginning of a buffer. -/
theorem framed_take_putAll {buf : List UInt8} {t : Template} {ws : List Write}
    (hws : (t.header ++ ws).map Write.field = fieldsOf t.block) (hbuf : t.length ≤ buf.length) :
    Framed ((putAll buf (t.header ++ ws)).take t.length) t ws := by
  have hfits : ∀ w ∈ t.header ++ ws, w.field.behind ≤ t.length := fun w hw =>
    t.fits w.field (hws ▸ List.mem_map_of_mem hw)
  refine ⟨?_, holds_take_putAll hbuf hfits (hws ▸ t.disjoint)⟩
  rw [List.length_take, length_putAll fun w hw => Nat.le_trans (hfits w hw) hbuf,
    Nat.min_eq_left hbuf]

theorem Framed.header {buf : List UInt8} {t : Template} {ws : List Write} (h : Framed buf t ws) :
    sbe.header buf = .ok ⟨t.blockLength, t.id, sbeSchemaVersion⟩ := by
  have hlen : headerLength ≤ buf.length := Nat.le_trans (Nat.le_add_right _ _) h.length
  rw [Flyweights.documented_reference.header buf hlen,
    Holds.headerAt h.holds.left t.blockLength_lt t.id_lt (by decide)]

theorem Framed.wrapMessage {buf : List UInt8} {t : Template} {ws : List Write}
    (h : Framed buf t ws) : wrapMessage buf = .ok () := by
  rw [Messaging.wrapMessage, h.header]
  show (sbe.wrapForDecode buf _ _ _).map _ = _
  rw [Flyweights.documented_reference.wrapForDecode buf _ _ _ h.length]
  rfl

/-! ## The gateway client -/

/-- What the publication answers to a claim. -/
inductive ClaimCode where
  | claimed
  | NOT_CONNECTED | PUBLICATION_CLOSED | MAX_POSITION_EXCEEDED
  | BACK_PRESSURED | ADMIN_ACTION
  deriving DecidableEq, Repr

/-- The loop of `Publisher::publish` under `kRetryOnBackpressure`, over the answers: whether the
message goes out, `none` while it is still tried. -/
def published : List ClaimCode → Option Bool
  | [] => none
  | .claimed :: _ => some true
  | .BACK_PRESSURED :: codes | .ADMIN_ACTION :: codes => published codes
  | .NOT_CONNECTED :: _ | .PUBLICATION_CLOSED :: _ | .MAX_POSITION_EXCEEDED :: _ => some false

/-- The calls of `IOrderGatewayClient` that send. -/
inductive ClientRequest where
  | newOrder (order : OutboundNewOrder)
  | cancel (cancel : CancelOrderRequest)
  | cancelAll (exchangeId : ExchangeId) (instrumentId : Nat)
  | modify (modify : ModifyOrderRequest)
  | accountSnapshot (exchangeId : ExchangeId) (correlationId : Nat)
  deriving DecidableEq, Repr

namespace ClientRequest

/-- The checks of `send_new_order`. -/
def refused : ClientRequest → Bool
  | newOrder o => o.quantity == 0 || (o.orderType != .MARKET && decide (o.price ≤ 0)) ||
      o.exchangeSymbol == ""
  | _ => false

def template : ClientRequest → Template
  | newOrder _ => NewOrder
  | cancel _ => CancelOrder
  | cancelAll _ _ => CancelAll
  | modify _ => ModifyOrder
  | accountSnapshot _ _ => AccountSnapshotRequest

/-- The setters in the order of the calls. -/
def setters (nowNs : Nat) : ClientRequest → List Write
  | newOrder o =>
    [setUint 0 8 o.orderId, setEnum .exchangeId 8 o.exchangeId, setUint 9 8 o.instrumentId,
      setEnum .orderSide 17 o.side, setEnum .orderType 18 o.orderType,
      setEnum .timeInForce 19 o.tif, setInt 20 8 o.price, setUint 28 8 o.quantity,
      setUint 36 8 nowNs, setUint 76 1 o.execInst, setText 44 32 o.exchangeSymbol]
  | cancel c =>
    [setUint 0 8 c.orderId, setEnum .exchangeId 8 c.exchangeId, setUint 9 8 c.instrumentId,
      setUint 17 8 nowNs]
  | cancelAll exchangeId instrumentId =>
    [setEnum .exchangeId 0 exchangeId, setUint 1 8 instrumentId, setUint 9 8 nowNs]
  | modify m =>
    [setUint 0 8 m.orderId, setEnum .exchangeId 8 m.exchangeId, setUint 9 8 m.instrumentId,
      setInt 17 8 m.newPrice, setUint 25 8 m.newQuantity, setUint 33 8 nowNs]
  | accountSnapshot exchangeId correlationId =>
    [setEnum .exchangeId 0 exchangeId, setUint 1 8 correlationId, setUint 9 8 nowNs]

def writes (nowNs : Nat) (r : ClientRequest) : List Write := r.template.header ++ r.setters nowNs

/-- `putExchangeSymbol` throws on a symbol that the field has no room for. -/
def tooLarge : ClientRequest → Bool
  | newOrder o => decide (32 < (bytesOf o.exchangeSymbol).length)
  | _ => false

end ClientRequest

/-- A call, with the reading of the clock, the answers of the publication and what the claimed room
happens to hold. -/
structure ClientCall where
  request : ClientRequest
  nowNs : Nat
  codes : List ClaimCode
  room : FixedCodec.ByteArr request.template.length

/-- How a call ends: with an answer (`true` where the call has none), with an exception that leaves
the claim aborted, or not at all while the publication pushes back. -/
inductive CallResult where
  | returned (ok : Bool)
  | threw
  | blocked
  deriving DecidableEq, Repr

namespace ClientCall

variable (c : ClientCall)

def message : List UInt8 := putAll c.room.1 (c.request.writes c.nowNs)

def send : CallResult × List (List UInt8) :=
  if c.request.refused then (.returned false, [])
  else
    match published c.codes with
    | none => (.blocked, [])
    -- a message that was dropped is not reported to the caller
    | some false => (.returned true, [])
    | some true =>
      if c.request.tooLarge then (.threw, []) else (.returned true, [c.message])

end ClientCall

/-- The stream after the calls; one that does not return is the last. -/
def sendAll : List ClientCall → List (List UInt8)
  | [] => []
  | c :: cs => if c.send.1 = .blocked then [] else c.send.2 ++ sendAll cs

/-! ## The gateway's subscriber -/

inductive InboundEvent where
  | newOrder (event : NewOrderEvent)
  | cancel (event : CancelOrderEvent)
  | cancelAll (event : CancelAllEvent)
  | modify (event : ModifyOrderEvent)
  | accountSnapshotRequest (exchangeId : ExchangeId) (correlationId : Nat)
  deriving DecidableEq, Repr

section Subscriber

variable (buf : List UInt8)

/-- The decoders yield `none` for a message with a null enumeration: the code goes on with it, but
the events of the model have no such value. -/
def decodeNewOrder : Except Fault (Option InboundEvent) :=
  (wrapMessage buf).bind fun _ =>
  (getUint buf 0 8).bind fun orderId =>
  (getUint buf 9 8).bind fun instrumentId =>
  (getEnum buf .exchangeId 8).bind fun exchangeId? =>
  (getEnum buf .orderSide 17).bind fun side? =>
  (getEnum buf .orderType 18).bind fun orderType? =>
  (getEnum buf .timeInForce 19).bind fun tif? =>
  (getInt buf 20 8).bind fun price =>
  (getUint buf 28 8).bind fun quantity =>
  (getUint buf 76 1).bind fun execInst =>
  (getText buf 44 32).map fun exchangeSymbol =>
    exchangeId?.bind fun exchangeId => side?.bind fun side => orderType?.bind fun orderType =>
    tif?.map fun tif => .newOrder
      { orderId := orderId, instrumentId := instrumentId, exchangeId := exchangeId, side := side
        orderType := orderType, tif := tif, price := price, quantity := quantity
        execInst := execInst, exchangeSymbol := exchangeSymbol }

def decodeCancel : Except Fault (Option InboundEvent) :=
  (wrapMessage buf).bind fun _ =>
  (getUint buf 0 8).bind fun orderId =>
  (getEnum buf .exchangeId 8).map fun exchangeId? =>
    exchangeId?.map fun exchangeId => .cancel { orderId := orderId, exchangeId := exchangeId }

def decodeModify : Except Fault (Option InboundEvent) :=
  (wrapMessage buf).bind fun _ =>
  (getUint buf 0 8).bind fun orderId =>
  (getEnum buf .exchangeId 8).bind fun exchangeId? =>
  (getInt buf 17 8).bind fun newPrice =>
  (getUint buf 25 8).map fun newQuantity =>
    exchangeId?.map fun exchangeId => .modify
      { orderId := orderId, exchangeId := exchangeId, newPrice := newPrice
        newQuantity := newQuantity }

def decodeCancelAll : Except Fault (Option InboundEvent) :=
  (wrapMessage buf).bind fun _ =>
  (getEnum buf .exchangeId 0).bind fun exchangeId? =>
  (getUint buf 1 8).map fun instrumentId =>
    exchangeId?.map fun exchangeId =>
      .cancelAll { exchangeId := exchangeId, instrumentId := instrumentId }

/-- Wrapped by the subscriber itself, and read by its handler. -/
def decodeAccountSnapshotRequest : Except Fault (Option InboundEvent) :=
  (wrapMessage buf).bind fun _ =>
  (getEnum buf .exchangeId 0).bind fun exchangeId? =>
  (getUint buf 1 8).map fun correlationId =>
    exchangeId?.map fun exchangeId => .accountSnapshotRequest exchangeId correlationId

/-- The branches of `handle_fragment`. -/
def decodeTemplate (templateId : Nat) : Except Fault (Option InboundEvent) :=
  if templateId = NewOrder.id then decodeNewOrder buf
  else if templateId = CancelOrder.id then decodeCancel buf
  else if templateId = CancelAll.id then decodeCancelAll buf
  else if templateId = ModifyOrder.id then decodeModify buf
  else if templateId = AccountSnapshotRequest.id then decodeAccountSnapshotRequest buf
  else .ok none

/-- `handle_fragment`: short fragments and unknown templates are passed over. -/
def handleFragment : Except Fault (Option InboundEvent) :=
  if buf.length < headerLength then .ok none
  else (sbe.header buf).bind fun hdr => decodeTemplate buf hdr.templateId

end Subscriber

/-! ## From the client to the gateway -/

namespace ClientRequest

/-- Numbers of the wire type, and a symbol without null characters. -/
def Fits : ClientRequest → Prop
  | newOrder o =>
    (∀ n ∈ [o.orderId, o.instrumentId, o.quantity], n < 2 ^ 64) ∧ o.execInst < 256 ∧
      SignedFits 8 o.price ∧ 0 ∉ bytesOf o.exchangeSymbol
  | cancel c => c.orderId < 2 ^ 64 ∧ c.instrumentId < 2 ^ 64
  | cancelAll _ instrumentId => instrumentId < 2 ^ 64
  | modify m =>
    (∀ n ∈ [m.orderId, m.instrumentId, m.newQuantity], n < 2 ^ 64) ∧ SignedFits 8 m.newPrice
  | accountSnapshot _ correlationId => correlationId < 2 ^ 64

/-- The event that the request is to become. -/
def event : ClientRequest → InboundEvent
  | newOrder o => .newOrder
      { orderId := o.orderId, instrumentId := o.instrumentId, exchangeId := o.exchangeId
        side := o.side, orderType := o.orderType, tif := o.tif, price := o.price
        quantity := o.quantity, execInst := o.execInst, exchangeSymbol := o.exchangeSymbol }
  | cancel c => .cancel { orderId := c.orderId, exchangeId := c.exchangeId }
  | cancelAll exchangeId instrumentId =>
    .cancelAll { exchangeId := exchangeId, instrumentId := instrumentId }
  | modify m => .modify
      { orderId := m.orderId, exchangeId := m.exchangeId, newPrice := m.newPrice
        newQuantity := m.newQuantity }
  | accountSnapshot exchangeId correlationId => .accountSnapshotRequest exchangeId correlationId

theorem map_field_writes (r : ClientRequest) (nowNs : Nat) :
    (r.writes nowNs).map Write.field = fieldsOf r.template.block := by
  cases r <;> rfl

theorem decodeTemplate_framed {r : ClientRequest} {nowNs : Nat} {buf : List UInt8}
    (h : Framed buf r.template (r.setters nowNs)) (hfits : r.Fits) (hsymbol : r.tooLarge = false) :
    decodeTemplate buf r.template.id = .ok (some r.event) := by
  have hwrap := h.wrapMessage
  have hset := h.holds.right
  cases r with
  | newOrder o =>
    simp only [Fits, List.forall_mem_cons] at hfits
    obtain ⟨⟨horder, hinstrument, hquantity, -⟩, hinst, hprice, hnull⟩ := hfits
    have htext : (bytesOf o.exchangeSymbol).length ≤ 32 := by simpa [tooLarge] using hsymbol
    show decodeNewOrder buf = _
    rw [decodeNewOrder, hwrap, getUint_eq hset (by simp [setters]) horder,
      getUint_eq hset (by simp [setters]) hinstrument,
      getEnum_eq hset (a := o.exchangeId) (by simp [setters]),
      getEnum_eq hset (a := o.side) (by simp [setters]),
      getEnum_eq hset (a := o.orderType) (by simp [setters]),
      getEnum_eq hset (a := o.tif) (by simp [setters]),
      getInt_eq hset (by simp [setters]) hprice, getUint_eq hset (by simp [setters]) hquantity,
      getUint_eq hset (by simp [setters]) hinst, getText_eq hset (by simp [setters]) hnull,
      cut_eq_self htext]
    rfl
  | cancel o =>
    show decodeCancel buf = _
    rw [decodeCancel, hwrap, getUint_eq hset (by simp [setters]) hfits.1,
      getEnum_eq hset (a := o.exchangeId) (by simp [setters])]
    rfl
  | cancelAll exchangeId instrumentId =>
    show decodeCancelAll buf = _
    rw [decodeCancelAll, hwrap, getEnum_eq hset (a := exchangeId) (by simp [setters]),
      getUint_eq hset (n := instrumentId) (by simp [setters]) hfits]
    rfl
  | modify m =>
    simp only [Fits, List.forall_mem_cons] at hfits
    obtain ⟨⟨horder, -, hquantity, -⟩, hprice⟩ := hfits
    show decodeModify buf = _
    rw [decodeModify, hwrap, getUint_eq hset (by simp [setters]) horder,
      getEnum_eq hset (a := m.exchangeId) (by simp [setters]),
      getInt_eq hset (by simp [setters]) hprice, getUint_eq hset (by simp [setters]) hquantity]
    rfl
  | accountSnapshot exchangeId correlationId =>
    show decodeAccountSnapshotRequest buf = _
    rw [decodeAccountSnapshotRequest, hwrap, getEnum_eq hset (a := exchangeId) (by simp [setters]),
      getUint_eq hset (n := correlationId) (by simp [setters]) hfits]
    rfl

end ClientRequest

namespace ClientCall

variable {c : ClientCall}

theorem framed_message (c : ClientCall) :
    Framed c.message c.request.template (c.request.setters c.nowNs) := by
  have hfits : ∀ w ∈ c.request.writes c.nowNs, w.field.behind ≤ c.room.1.length := fun w hw =>
    c.room.2.ge.trans' (c.request.template.fits w.field
      (c.request.map_field_writes c.nowNs ▸ List.mem_map_of_mem hw))
  have hwhole : c.message.take c.request.template.length = c.message := by
    refine List.take_of_length_le ?_
    rw [message, length_putAll hfits, c.room.2]
  rw [← hwhole]
  exact framed_take_putAll (c.request.map_field_writes c.nowNs) c.room.2.ge

theorem handleFragment_message (hfits : c.request.Fits) (hsymbol : c.request.tooLarge = false) :
    handleFragment c.message = .ok (some c.request.event) := by
  have hframed := c.framed_message
  have hlen : ¬ c.message.length < headerLength :=
    Nat.not_lt.mpr (Nat.le_trans (Nat.le_add_right _ _) hframed.length)
  rw [handleFragment, if_neg hlen, hframed.header]
  exact ClientRequest.decodeTemplate_framed hframed hfits hsymbol

/-- The message of the call reaches the stream: it passes the checks, it is claimed, and its symbol
has room. -/
def Sent (c : ClientCall) : Prop :=
  c.request.refused = false ∧ published c.codes = some true ∧ c.request.tooLarge = false

instance (c : ClientCall) : Decidable c.Sent := inferInstanceAs (Decidable (_ ∧ _))

theorem send_snd (c : ClientCall) : c.send.2 = if c.Sent then [c.message] else [] := by
  by_cases hsent : c.Sent
  · obtain ⟨hrefused, hcodes, hsymbol⟩ := hsent
    rw [if_pos ⟨hrefused, hcodes, hsymbol⟩, send]
    simp only [hrefused, hcodes, hsymbol, Bool.false_eq_true, if_false]
  · rw [if_neg hsent, send]
    split
    next => rfl
    next hrefused =>
      split
      next => rfl
      next => rfl
      next hcodes =>
        split
        next => rfl
        next hsymbol =>
          exact absurd ⟨Bool.eq_false_iff.mpr hrefused, hcodes, Bool.eq_false_iff.mpr hsymbol⟩ hsent

/-- The caller is told of an order that fails the checks, and of nothing else. -/
theorem send_fst_eq_refusal_iff (c : ClientCall) :
    c.send.1 = .returned false ↔ c.request.refused = true := by
  unfold send
  cases c.request.refused with
  | true => simp
  | false =>
    cases published c.codes with
    | none => simp
    | some ok =>
      cases ok with
      | false => simp
      | true => cases c.request.tooLarge <;> simp

end ClientCall

/-- The calls up to the first that does not return. -/
def returning (calls : List ClientCall) : List ClientCall :=
  calls.takeWhile fun c => c.send.1 ≠ .blocked

theorem sendAll_eq (calls : List ClientCall) :
    sendAll calls = ((returning calls).filter (·.Sent)).map ClientCall.message := by
  induction calls with
  | nil => rfl
  | cons c calls ih =>
    by_cases hblocked : c.send.1 = .blocked
    · rw [sendAll, if_pos hblocked, returning, List.takeWhile_cons_of_neg (by simp [hblocked])]
      rfl
    · have hreturning : returning (c :: calls) = c :: returning calls :=
        List.takeWhile_cons_of_pos (by simp [hblocked])
      rw [sendAll, if_neg hblocked, hreturning, c.send_snd, ih]
      by_cases hsent : c.Sent
      · rw [if_pos hsent, List.filter_cons_of_pos (by simp [hsent])]
        rfl
      · rw [if_neg hsent, List.filter_cons_of_neg (by simp [hsent])]
        rfl

/-- **Commands delivered.** For any calls of the client, of numbers of the wire type and symbols
without null characters, whatever the publication answers and whatever the claimed room held: the
subscriber decodes every message of the stream, without an exception, to the event of the call it
stands for, in order, none missing and none twice; what does not get there is what the client
refused, what the publication dropped, and orders whose symbol is too large, for which the client
throws. No order without a quantity, without a price where it needs one, or without a symbol ever
reaches the gateway, and the caller is told of those orders only. -/
theorem commands_delivered (calls : List ClientCall) (h : ∀ c ∈ calls, c.request.Fits) :
    (sendAll calls).map handleFragment =
        ((returning calls).filter (·.Sent)).map (fun c => .ok (some c.request.event)) ∧
      (∀ e, .ok (some (.newOrder e)) ∈ (sendAll calls).map handleFragment →
        0 < e.quantity ∧ (e.orderType ≠ .MARKET → 0 < e.price) ∧ e.exchangeSymbol ≠ "") ∧
      ∀ c ∈ calls, c.send.1 = .returned false ↔ c.request.refused = true := by
  have hdecoded : (sendAll calls).map handleFragment =
      ((returning calls).filter (·.Sent)).map (fun c => .ok (some c.request.event)) := by
    rw [sendAll_eq, List.map_map]
    refine List.map_congr_left fun c hc => ?_
    obtain ⟨hcall, hsent⟩ := List.mem_filter.mp hc
    have hmem : c ∈ calls := (List.takeWhile_prefix _).subset hcall
    exact c.handleFragment_message (h c hmem) (of_decide_eq_true hsent).2.2
  refine ⟨hdecoded, fun e he => ?_, fun c _ => c.send_fst_eq_refusal_iff⟩
  rw [hdecoded] at he
  obtain ⟨c, hc, heq⟩ := List.mem_map.mp he
  have hrefused := (of_decide_eq_true (List.mem_filter.mp hc).2 : c.Sent).1
  have hevent : c.request.event = .newOrder e := Option.some.inj (Except.ok.inj heq)
  cases hrequest : c.request with
  | newOrder o =>
    rw [hrequest] at hevent hrefused
    cases hevent
    simp only [ClientRequest.refused, Bool.or_eq_false_iff, beq_eq_false_iff_ne, Bool.and_eq_false_iff,
      bne_eq_false_iff_eq, decide_eq_false_iff_not, not_le] at hrefused
    obtain ⟨⟨hquantity, hprice⟩, hsymbol⟩ := hrefused
    exact ⟨Nat.pos_of_ne_zero hquantity, fun htype => hprice.resolve_left htype, hsymbol⟩
  | cancel _ | cancelAll _ _ | modify _ | accountSnapshot _ _ =>
    rw [hrequest] at hevent
    cases hevent

/-- A limit order over a room that is not clean, after the publication pushed back once. -/
def sampleOrder : ClientCall where
  request := .newOrder
    { orderId := 7, exchangeId := .OKX, instrumentId := 5, side := .SELL, orderType := .LIMIT
      tif := .GTC, price := 100, quantity := 3, execInst := 1, exchangeSymbol := "BTC-USDT" }
  nowNs := 9
  codes := [.BACK_PRESSURED, .claimed]
  room := ⟨List.replicate 85 170, rfl⟩

/-- A cancel that no subscriber is there for. -/
def droppedCancel : ClientCall where
  request := .cancel { orderId := 7, exchangeId := .OKX, instrumentId := 5 }
  nowNs := 10
  codes := [.NOT_CONNECTED]
  room := ⟨List.replicate 33 170, rfl⟩

theorem commands_delivered_two :
    (∀ c ∈ [sampleOrder, droppedCancel], c.request.Fits) ∧
      (sendAll [sampleOrder, droppedCancel]).map handleFragment =
        [.ok (some sampleOrder.request.event)] := by
  have hfits : ∀ c ∈ [sampleOrder, droppedCancel], c.request.Fits := by
    intro c hc
    simp only [List.mem_cons, List.not_mem_nil, or_false] at hc
    obtain rfl | rfl := hc
    · show (∀ n ∈ [7, 5, 3], n < 2 ^ 64) ∧ 1 < 256 ∧ SignedFits 8 100 ∧ 0 ∉ bytesOf "BTC-USDT"
      decide
    · exact ⟨by decide, by decide⟩
  exact ⟨hfits, (commands_delivered _ hfits).1⟩

end BptCore.Messaging
