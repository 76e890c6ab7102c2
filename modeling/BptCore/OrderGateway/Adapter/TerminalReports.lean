import BptCore.Lib.Machine
import BptCore.OrderGateway.Adapter.ExecDecoder

/-!
# How often an order ends

The end of an order can reach a decoder twice: in the answer to a request and on the order
channel, or in a replay. The decoders drop a repeat only where both reports are CANCELLED items of
the OKX or Deribit channel, with no `reset` between.

* **`ExecDecoder.step`** — a decoder fed messages and resets.
* **`EndNotice`**, **`ExecDecoder.notice`** — what an input says of the end of one order.
* **`EndNotice.total`** — the terminal events that a list of such notices makes.
* **`EndsOnce`** — the notices that make at most one.
* **`terminal_events_le_one_iff`** — a decoder emits at most one terminal event for an order
  exactly when what it is told of the order's end is of that form.
-/

namespace BptCore.OrderGateway

/-! ## Notices of an end -/

/-- What an input says of an order: nothing of its end, an end that is always passed on, an end
that is dropped as a repeat, or that the memory of repeats is cleared. -/
inductive EndNotice where
  | silent | passed | filtered | cleared
  deriving DecidableEq, Repr

namespace EndNotice

/-- The terminal events of a notice; `cancelled` says whether the order is remembered. -/
def count (cancelled : Bool) : EndNotice → Nat
  | silent | cleared => 0
  | passed => 1
  | filtered => if cancelled then 0 else 1

def after (cancelled : Bool) : EndNotice → Bool
  | silent | passed => cancelled
  | filtered => true
  | cleared => false

/-- A status that is always passed on. -/
def ofStatus (s : ExecStatus) : EndNotice := if s.terminal then passed else silent

/-- A status of the order channel, where a repeated CANCELLED is dropped. -/
def ofChannelStatus (s : ExecStatus) : EndNotice :=
  if s = .CANCELLED then filtered else ofStatus s

/-- The terminal events of a list of notices. -/
def total : Bool → List EndNotice → Nat
  | _, [] => 0
  | cancelled, n :: ns => n.count cancelled + total (n.after cancelled) ns

end EndNotice

/-- No notice of an end. -/
def Unended (ns : List EndNotice) : Prop := ∀ n ∈ ns, n = .silent ∨ n = .cleared

/-- Nothing but repeats that are dropped, until the memory of them is cleared. -/
def OnlyRepeats : List EndNotice → Prop
  | [] => True
  | .silent :: ns | .filtered :: ns => OnlyRepeats ns
  | .passed :: _ => False
  | .cleared :: ns => Unended ns

/-- One notice of the end, with what comes after it dropped as its repeat. -/
def EndsOnce : List EndNotice → Prop
  | [] => True
  | .silent :: ns | .cleared :: ns => EndsOnce ns
  | .passed :: ns => Unended ns
  | .filtered :: ns => OnlyRepeats ns

theorem unended_cons {n : EndNotice} {ns : List EndNotice} :
    Unended (n :: ns) ↔ (n = .silent ∨ n = .cleared) ∧ Unended ns :=
  List.forall_mem_cons

theorem total_eq_zero_iff (ns : List EndNotice) :
    EndNotice.total false ns = 0 ↔ Unended ns := by
  induction ns with
  | nil => exact iff_of_true rfl fun n hn => absurd hn List.not_mem_nil
  | cons n ns ih =>
    rw [unended_cons, ← ih]
    cases n <;> simp [EndNotice.total, EndNotice.count, EndNotice.after]

theorem total_true_eq_zero_iff (ns : List EndNotice) :
    EndNotice.total true ns = 0 ↔ OnlyRepeats ns := by
  induction ns with
  | nil => exact iff_of_true rfl trivial
  | cons n ns ih =>
    cases n with
    | silent => simpa [EndNotice.total, EndNotice.count, EndNotice.after, OnlyRepeats] using ih
    | passed => simp [EndNotice.total, EndNotice.count, OnlyRepeats]
    | filtered => simpa [EndNotice.total, EndNotice.count, EndNotice.after, OnlyRepeats] using ih
    | cleared =>
      simpa [EndNotice.total, EndNotice.count, EndNotice.after, OnlyRepeats] using
        total_eq_zero_iff ns

theorem total_le_one_iff (ns : List EndNotice) :
    EndNotice.total false ns ≤ 1 ↔ EndsOnce ns := by
  induction ns with
  | nil => exact iff_of_true (Nat.zero_le 1) trivial
  | cons n ns ih =>
    cases n with
    | silent => simpa [EndNotice.total, EndNotice.count, EndNotice.after, EndsOnce] using ih
    | cleared => simpa [EndNotice.total, EndNotice.count, EndNotice.after, EndsOnce] using ih
    | passed =>
      show 1 + EndNotice.total false ns ≤ 1 ↔ Unended ns
      rw [← total_eq_zero_iff]
      omega
    | filtered =>
      show 1 + EndNotice.total true ns ≤ 1 ↔ OnlyRepeats ns
      rw [← total_true_eq_zero_iff]
      omega

/-! ## The decoders -/

/-- What is delivered to a decoder. -/
inductive DecoderInput where
  | message (m : VenueMessage) (recvNs : Nat)
  | reset

namespace ExecDecoder

/-- `reset()`, which the decoders that remember repeats have. -/
def reset : ExecDecoder → ExecDecoder
  | .okx d => .okx d.reset
  | .deribit d => .deribit d.reset
  | dec => dec

def step (dec : ExecDecoder) : DecoderInput → ExecDecoder × List ExecEvent
  | .message m recvNs => ((dec.decode m recvNs).1, (dec.decode m recvNs).2.toList)
  | .reset => (dec.reset, [])

/-- A terminal event of the order. -/
def isEnd (orderId : Nat) (ev : ExecEvent) : Bool := ev.orderId = orderId && ev.status.terminal

/-- What a message says of the end of the order. -/
def messageNotice (orderId : Nat) : ExecDecoder → VenueMessage → EndNotice
  | .binance d, .binanceReport m =>
    if m.eventType = "executionReport" ∧ d.orderIdOf m.clientOrderId = orderId then
      match BinanceExecDecoder.reportStatus m.execType
        (truncE8Nat m.quantity - truncE8Nat m.cumulativeQty) with
      | some (status, _) => .ofStatus status
      | none => .silent
    else .silent
  | .binance _, .binanceResponse m id _ _ =>
    if id = orderId then
      if m.code.isSome then .passed
      else .ofStatus (BinanceExecDecoder.responseStatus m.status).1
    else .silent
  | .okx d, .okxOrderAck m =>
    if d.orderIdOf m.clOrdId = orderId ∧ m.sCode ≠ "0" then .passed else .silent
  | .okx d, .okxOrderItem m =>
    if d.orderIdOf m.clOrdId = orderId ∧ m.px.isSome then
      .ofChannelStatus (OKXExecDecoder.itemStatus m.state).1
    else .silent
  | .deribit d, .deribitNotification m =>
    if d.orderIdOf m.label = orderId then
      .ofChannelStatus (DeribitExecDecoder.notificationStatus (m.orderState.getD "")
        (m.filledAmount.getD 0)).1
    else .silent
  | .deribit d, .deribitResponse m =>
    if d.orderIdOf m.label = orderId ∧
        (m.orderState.getD "" = "filled" ∨ m.orderState.getD "" = "cancelled" ∨
          m.orderState.getD "" = "rejected") then .passed
    else .silent
  | _, _ => .silent

def notice (orderId : Nat) (dec : ExecDecoder) : DecoderInput → EndNotice
  | .message m _ => dec.messageNotice orderId m
  | .reset =>
    match dec with
    | .okx _ | .deribit _ => .cleared
    | .binance _ | .hyperliquid _ => .silent

/-- The decoder remembers a CANCELLED of the order. -/
def hasCancelled (orderId : Nat) : ExecDecoder → Bool
  | .okx d => orderId ∈ d.repeats.cancelledOrders
  | .deribit d => orderId ∈ d.repeats.cancelledOrders
  | .binance _ | .hyperliquid _ => false

/-! ### One input -/

/-- What an input does: the terminal events it makes for the order, and whether the decoder
remembers the order's CANCELLED afterwards. -/
structure Does (orderId : Nat) (n : EndNotice) (dec dec' : ExecDecoder) (evs : List ExecEvent) :
    Prop where
  count : evs.countP (isEnd orderId) = n.count (dec.hasCancelled orderId)
  after : dec'.hasCancelled orderId = n.after (dec.hasCancelled orderId)

/-- What the filter of repeats does with an event of the order channel. -/
theorem letThrough_does (f : RepeatFilter) (ev : ExecEvent) (orderId : Nat) :
    let n : EndNotice := if ev.orderId = orderId then .ofChannelStatus ev.status else .silent
    (if (f.letThrough ev).2 then some ev else none).toList.countP (isEnd orderId) =
        n.count (orderId ∈ f.cancelledOrders) ∧
      decide (orderId ∈ (f.letThrough ev).1.cancelledOrders) =
        n.after (orderId ∈ f.cancelledOrders) := by
  unfold RepeatFilter.letThrough
  by_cases hid : ev.orderId = orderId
  · cases hstatus : ev.status with
    | ACKED =>
      dsimp only
      split <;> simp [isEnd, hstatus, hid, ExecStatus.terminal, EndNotice.ofChannelStatus,
        EndNotice.ofStatus, EndNotice.count, EndNotice.after]
    | CANCELLED =>
      dsimp only
      split <;> simp_all [isEnd, ExecStatus.terminal, EndNotice.ofChannelStatus,
        EndNotice.count, EndNotice.after]
    | FILLED => simp [isEnd, hstatus, hid, ExecStatus.terminal, EndNotice.ofChannelStatus,
        EndNotice.ofStatus, EndNotice.count, EndNotice.after]
    | PARTIAL => simp [isEnd, hstatus, hid, ExecStatus.terminal, EndNotice.ofChannelStatus,
        EndNotice.ofStatus, EndNotice.count, EndNotice.after]
    | REJECTED => simp [isEnd, hstatus, hid, ExecStatus.terminal, EndNotice.ofChannelStatus,
        EndNotice.ofStatus, EndNotice.count, EndNotice.after]
  · -- an event of another order
    have hother : ∀ b : Bool, (if b then some ev else none).toList.countP (isEnd orderId) = 0 := by
      intro b
      cases b <;> simp [isEnd, hid]
    simp only [if_neg hid, hother]
    refine ⟨rfl, ?_⟩
    cases ev.status with
    | ACKED =>
      dsimp only
      split <;> rfl
    | CANCELLED =>
      dsimp only
      split
      · rfl
      · simp [EndNotice.after, Ne.symm hid]
    | FILLED => rfl
    | PARTIAL => rfl
    | REJECTED => rfl

/-- An event that no filter sees. -/
theorem countP_event (ev : ExecEvent) (orderId : Nat) (c : Bool) :
    [ev].countP (isEnd orderId) =
      (if ev.orderId = orderId then EndNotice.ofStatus ev.status else .silent).count c := by
  unfold EndNotice.ofStatus
  by_cases hid : ev.orderId = orderId
  · by_cases hterm : ev.status.terminal = true
    · simp [isEnd, hid, hterm, EndNotice.count]
    · simp [isEnd, hid, hterm, EndNotice.count]
  · simp [isEnd, hid, EndNotice.count]

theorem after_ofStatus (s : ExecStatus) (c : Bool) : (EndNotice.ofStatus s).after c = c := by
  unfold EndNotice.ofStatus
  split <;> rfl

variable {orderId : Nat}

/-- What is silent leaves the decoder's memory and emits no end of the order. -/
theorem does_silent {dec dec' : ExecDecoder} {evs : List ExecEvent}
    (hevs : ∀ ev ∈ evs, ev.orderId ≠ orderId)
    (hmem : dec'.hasCancelled orderId = dec.hasCancelled orderId) :
    Does orderId .silent dec dec' evs := by
  refine ⟨List.countP_eq_zero.mpr fun ev hev => ?_, hmem⟩
  simp [isEnd, hevs ev hev]

theorem does_binanceReport (hid : orderId ≠ 0) (d : BinanceExecDecoder)
    (m : BinanceExecutionReport) (recvNs : Nat) :
    Does orderId (messageNotice orderId (binance d) (.binanceReport m)) (binance d) (binance d)
      (d.handleExecutionReport m recvNs).toList := by
  simp only [messageNotice, BinanceExecDecoder.handleExecutionReport]
  by_cases htype : m.eventType = "executionReport"
  · by_cases hcloid : d.orderIdOf m.clientOrderId = orderId
    · simp only [htype, hcloid, hid, ne_eq, not_true_eq_false, if_false, and_self, if_true,
        sub_if_gt]
      cases BinanceExecDecoder.reportStatus m.execType
        (truncE8Nat m.quantity - truncE8Nat m.cumulativeQty) with
      | none => exact ⟨rfl, rfl⟩
      | some status =>
        refine ⟨?_, (after_ofStatus _ _).symm⟩
        rw [Option.map_some, Option.toList_some, countP_event _ _ false, if_pos rfl]
        rfl
    · simp only [htype, hcloid, and_false, if_false, ne_eq, not_true_eq_false]
      refine does_silent (fun ev hev => ?_) rfl
      split at hev
      · cases hev
      · obtain ⟨s, -, rfl⟩ := Option.map_eq_some_iff.mp (Option.mem_toList.mp hev)
        exact hcloid
  · simp only [htype, false_and, if_false, ne_eq, not_false_eq_true, if_true]
    exact does_silent (by simp) rfl

theorem does_binanceResponse (d : BinanceExecDecoder) (m : BinanceOrderResponse) (id : Nat)
    (side : OrderSide) (orderType : OrderType) (recvNs : Nat) :
    Does orderId (messageNotice orderId (binance d) (.binanceResponse m id side orderType))
      (binance d) (binance d)
      [BinanceExecDecoder.handleOrderResponse m id side orderType recvNs] := by
  -- an error body is a REJECTED
  have hspec : (BinanceExecDecoder.handleOrderResponse m id side orderType recvNs).orderId = id ∧
      (BinanceExecDecoder.handleOrderResponse m id side orderType recvNs).status =
        if m.code.isSome then .REJECTED
        else (BinanceExecDecoder.responseStatus m.status).1 := by
    unfold BinanceExecDecoder.handleOrderResponse
    cases m.code <;> exact ⟨rfl, rfl⟩
  have hnotice : messageNotice orderId (binance d) (.binanceResponse m id side orderType) =
      if id = orderId then
        .ofStatus (if m.code.isSome then .REJECTED
          else (BinanceExecDecoder.responseStatus m.status).1)
      else .silent := by
    show (if id = orderId then if m.code.isSome then EndNotice.passed else _
      else EndNotice.silent) = _
    by_cases hcode : m.code.isSome
    · simp only [if_pos hcode]
      rfl
    · simp only [if_neg hcode]
  rw [hnotice]
  refine ⟨?_, ?_⟩
  · rw [countP_event _ _ false, hspec.1, hspec.2]
    rfl
  · split
    · exact (after_ofStatus _ _).symm
    · rfl

theorem does_okxOrderAck (hid : orderId ≠ 0) (d : OKXExecDecoder) (m : OKXOrderAck)
    (recvNs : Nat) :
    Does orderId (messageNotice orderId (okx d) (.okxOrderAck m)) (okx d) (okx d)
      (d.handleOrderAck m recvNs).toList := by
  simp only [messageNotice, OKXExecDecoder.handleOrderAck]
  by_cases hcloid : d.orderIdOf m.clOrdId = orderId
  · by_cases hcode : m.sCode = "0"
    · simp only [hcloid, hid, hcode, if_false, if_true, ne_eq, not_true_eq_false, and_false]
      exact does_silent (by simp) rfl
    · simp only [hcloid, hid, hcode, if_false, ne_eq, not_false_eq_true, and_self, if_true]
      refine ⟨?_, rfl⟩
      rw [Option.toList_some, countP_event _ _ false, if_pos rfl]
      rfl
  · simp only [hcloid, false_and, if_false]
    refine does_silent (fun ev hev => ?_) rfl
    split at hev
    · cases hev
    · split at hev
      · cases hev
      · obtain rfl := List.mem_singleton.mp hev
        exact hcloid

theorem does_okxOrderItem (hid : orderId ≠ 0) (d : OKXExecDecoder) (m : OKXOrderItem)
    (recvNs : Nat) :
    Does orderId (messageNotice orderId (okx d) (.okxOrderItem m)) (okx d)
      (okx (d.handleOrdersChannelItem m recvNs).1)
      (d.handleOrdersChannelItem m recvNs).2.toList := by
  simp only [messageNotice, OKXExecDecoder.handleOrdersChannelItem]
  cases hev : d.itemEvent m recvNs with
  | none =>
    have hquiet : ¬(d.orderIdOf m.clOrdId = orderId ∧ m.px.isSome = true) := by
      rintro ⟨hcloid, hpx⟩
      obtain ⟨px, hpx⟩ := Option.isSome_iff_exists.mp hpx
      simp [OKXExecDecoder.itemEvent, hcloid, hid, hpx] at hev
    rw [if_neg hquiet]
    exact does_silent (by simp) rfl
  | some ev =>
    -- the event has the registered id, and its item had a price
    have hspec : ev.orderId = d.orderIdOf m.clOrdId ∧ m.px.isSome = true ∧
        ev.status = (OKXExecDecoder.itemStatus m.state).1 := by
      unfold OKXExecDecoder.itemEvent at hev
      split at hev
      · cases hev
      · obtain ⟨px, hpx, rfl⟩ := Option.map_eq_some_iff.mp hev
        exact ⟨rfl, by rw [hpx]; rfl, rfl⟩
    have hdoes := letThrough_does d.repeats ev orderId
    simp only [hspec.1, hspec.2.1, hspec.2.2, and_true] at hdoes ⊢
    exact ⟨hdoes.1, hdoes.2⟩

theorem does_deribitNotification (hid : orderId ≠ 0) (d : DeribitExecDecoder) (m : DeribitOrder)
    (recvNs : Nat) :
    Does orderId (messageNotice orderId (deribit d) (.deribitNotification m)) (deribit d)
      (deribit (d.handleSubscriptionEvent m recvNs).1)
      (d.handleSubscriptionEvent m recvNs).2.toList := by
  simp only [messageNotice, DeribitExecDecoder.handleSubscriptionEvent]
  by_cases hzero : d.orderIdOf m.label = 0
  · rw [if_pos hzero, if_neg (by rw [hzero]; exact hid.symm)]
    exact does_silent (by simp) rfl
  · rw [if_neg hzero]
    -- remembering the venue's id leaves the memory of repeats
    have hrepeats : (d.rememberExchOid (m.orderId.getD "")
        (d.notificationEvent m recvNs).orderId).repeats = d.repeats := by
      unfold DeribitExecDecoder.rememberExchOid
      split <;> rfl
    have hdoes := letThrough_does d.repeats (d.notificationEvent m recvNs) orderId
    refine ⟨?_, ?_⟩
    · simp only [DeribitExecDecoder.suppressRepeat, hrepeats]
      exact hdoes.1
    · simp only [DeribitExecDecoder.suppressRepeat, hrepeats]
      exact hdoes.2

/-- The answer to a request speaks up about an order at its end. -/
theorem handleOrderResponse_event (d : DeribitExecDecoder) (m : DeribitOrder) (recvNs : Nat) :
    (d.handleOrderResponse m recvNs).2 =
      if d.orderIdOf m.label ≠ 0 ∧ (m.orderState.getD "" = "filled" ∨
          m.orderState.getD "" = "cancelled" ∨ m.orderState.getD "" = "rejected") then
        some (d.responseEvent m recvNs)
      else none := by
  simp only [DeribitExecDecoder.handleOrderResponse]
  by_cases hzero : d.orderIdOf m.label = 0
  · rw [if_pos hzero, if_neg fun h => h.1 hzero]
  · rw [if_neg hzero]
    split
    next hworking => rw [if_neg (by tauto)]
    next hend => rw [if_pos (by tauto)]

theorem does_deribitResponse (hid : orderId ≠ 0) (d : DeribitExecDecoder) (m : DeribitOrder)
    (recvNs : Nat) :
    Does orderId (messageNotice orderId (deribit d) (.deribitResponse m)) (deribit d)
      (deribit (d.handleOrderResponse m recvNs).1)
      (d.handleOrderResponse m recvNs).2.toList := by
  have hmem : (deribit (d.handleOrderResponse m recvNs).1).hasCancelled orderId =
      (deribit d).hasCancelled orderId := by
    simp only [DeribitExecDecoder.handleOrderResponse, hasCancelled]
    split
    · rfl
    · unfold DeribitExecDecoder.rememberExchOid
      split <;> split <;> rfl
  have hterm : (d.responseEvent m recvNs).status.terminal = true := by
    simp only [DeribitExecDecoder.responseEvent]
    split
    · rfl
    · split <;> rfl
  rw [handleOrderResponse_event]
  simp only [messageNotice]
  by_cases hlabel : d.orderIdOf m.label = orderId
  · have hzero : d.orderIdOf m.label ≠ 0 := by
      rw [hlabel]
      exact hid
    by_cases hend : m.orderState.getD "" = "filled" ∨ m.orderState.getD "" = "cancelled" ∨
        m.orderState.getD "" = "rejected"
    · rw [if_pos ⟨hlabel, hend⟩, if_pos ⟨hzero, hend⟩]
      refine ⟨?_, hmem⟩
      have hev : isEnd orderId (d.responseEvent m recvNs) = true :=
        Bool.and_eq_true_iff.mpr ⟨decide_eq_true hlabel, hterm⟩
      rw [Option.toList_some, List.countP_singleton, if_pos hev]
      rfl
    · rw [if_neg fun h => hend h.2, if_neg fun h => hend h.2]
      exact does_silent (by simp) hmem
  · rw [if_neg fun h => hlabel h.1]
    refine does_silent (fun ev hev => ?_) hmem
    split at hev
    · obtain rfl := List.mem_singleton.mp hev
      exact hlabel
    · cases hev

/-- **One input** makes the terminal events of its notice. -/
theorem does_step (hid : orderId ≠ 0) {dec : ExecDecoder} (hvenue : dec.venue ≠ .HYPERLIQUID)
    (input : DecoderInput) :
    Does orderId (dec.notice orderId input) dec (step dec input).1 (step dec input).2 := by
  cases input with
  | reset =>
    cases dec with
    | binance d => exact ⟨rfl, rfl⟩
    | okx d => exact ⟨rfl, rfl⟩
    | deribit d => exact ⟨rfl, rfl⟩
    | hyperliquid d => exact absurd rfl hvenue
  | message m recvNs =>
    cases dec with
    | binance d =>
      cases m with
      | binanceReport m => exact does_binanceReport hid d m recvNs
      | binanceResponse m id side orderType =>
        exact does_binanceResponse d m id side orderType recvNs
      | _ => exact ⟨rfl, rfl⟩
    | okx d =>
      cases m with
      | okxOrderAck m => exact does_okxOrderAck hid d m recvNs
      | okxOrderItem m => exact does_okxOrderItem hid d m recvNs
      | _ => exact ⟨rfl, rfl⟩
    | deribit d =>
      cases m with
      | deribitNotification m => exact does_deribitNotification hid d m recvNs
      | deribitResponse m => exact does_deribitResponse hid d m recvNs
      | _ => exact ⟨rfl, rfl⟩
    | hyperliquid d => exact absurd rfl hvenue

/-- A notice depends on the decoder through the ids it has registered. -/
theorem notice_okx_congr {d d' : OKXExecDecoder} (h : ∀ c, d'.orderIdOf c = d.orderIdOf c)
    (input : DecoderInput) : (okx d').notice orderId input = (okx d).notice orderId input := by
  cases input with
  | reset => rfl
  | message m recvNs => cases m <;> simp only [notice, messageNotice, h]

theorem notice_deribit_congr {d d' : DeribitExecDecoder}
    (h : ∀ label, d'.orderIdOf label = d.orderIdOf label) (input : DecoderInput) :
    (deribit d').notice orderId input = (deribit d).notice orderId input := by
  cases input with
  | reset => rfl
  | message m recvNs => cases m <;> simp only [notice, messageNotice, h]

/-- What the inputs say of an order's end does not change as they are taken. -/
theorem notice_step {dec : ExecDecoder} (hvenue : dec.venue ≠ .HYPERLIQUID)
    (input input' : DecoderInput) :
    (step dec input).1.notice orderId input' = dec.notice orderId input' := by
  cases dec with
  | binance d =>
    cases input with
    | reset => rfl
    | message m recvNs => cases m <;> rfl
  | okx d =>
    cases input with
    | reset =>
      have hsame : ∀ c, d.reset.orderIdOf c = d.orderIdOf c := fun _ => rfl
      exact notice_okx_congr hsame input'
    | message m recvNs =>
      cases m with
      | okxOrderItem m =>
        exact notice_okx_congr (handleOrdersChannelItem_orderIdOf d m recvNs) input'
      | _ => rfl
  | deribit d =>
    cases input with
    | reset =>
      have hsame : ∀ label, d.reset.orderIdOf label = d.orderIdOf label := fun _ => rfl
      exact notice_deribit_congr hsame input'
    | message m recvNs =>
      cases m with
      | deribitNotification m =>
        exact notice_deribit_congr (handleSubscriptionEvent_orderIdOf d m recvNs) input'
      | deribitResponse m =>
        exact notice_deribit_congr (handleOrderResponse_orderIdOf d m recvNs) input'
      | _ => rfl
  | hyperliquid d => exact absurd rfl hvenue

theorem venue_step (dec : ExecDecoder) (input : DecoderInput) :
    (step dec input).1.venue = dec.venue := by
  cases input with
  | reset => cases dec <;> rfl
  | message m recvNs => exact venue_decode dec m recvNs

/-! ## Runs -/

/-- The terminal events of a run are those of its notices. -/
theorem countP_outputs (hid : orderId ≠ 0) {dec : ExecDecoder} (hvenue : dec.venue ≠ .HYPERLIQUID)
    (inputs : List DecoderInput) :
    (Machine.outputs step dec inputs).countP (isEnd orderId) =
      EndNotice.total (dec.hasCancelled orderId) (inputs.map (dec.notice orderId)) := by
  induction inputs generalizing dec with
  | nil => rfl
  | cons input inputs ih =>
    obtain ⟨hcount, hafter⟩ := does_step hid hvenue input
    have hrest := ih (by rw [venue_step]; exact hvenue : (step dec input).1.venue ≠ .HYPERLIQUID)
    have hsame : inputs.map ((step dec input).1.notice orderId) =
        inputs.map (dec.notice orderId) :=
      List.map_congr_left fun input' _ => notice_step hvenue input input'
    rw [Machine.outputs, List.countP_append, hcount, hrest, hafter, hsame]
    rfl

/-- **An order ends once exactly when its end is told once.** For every order, every decoder of
the three venues that remembers no CANCELLED of it, and every sequence of messages and resets: at
most one terminal event of the order is emitted exactly when nothing follows the first notice of
its end, or that is a CANCELLED of the order channel and is followed only by the like, before any
reset. -/
theorem terminal_events_le_one_iff {dec : ExecDecoder} (hid : orderId ≠ 0)
    (hvenue : dec.venue ≠ .HYPERLIQUID) (hopen : dec.hasCancelled orderId = false)
    (inputs : List DecoderInput) :
    (Machine.outputs step dec inputs).countP (isEnd orderId) ≤ 1 ↔
      EndsOnce (inputs.map (dec.notice orderId)) := by
  rw [countP_outputs hid hvenue, hopen]
  exact total_le_one_iff _

/-- A filled Deribit order, as both the answer to the request and the channel report it. -/
def filledOrder : DeribitOrder where
  label := some "bpt-1"
  orderId := some "USDC-7"
  direction := some "buy"
  orderType := some "limit"
  price := some 100
  averagePrice := some 100
  filledAmount := some 2
  amount := some 2
  commission := some 0
  instrumentName := some "BTC_USDC-PERPETUAL"
  lastUpdateTimestamp := some 1
  orderState := some "filled"

def deribitOfOne : ExecDecoder :=
  deribit
    { exchOidNumber := fun _ => 7
      labelToOrderId := (∅ : Table String Nat).insert "bpt-1" 1 }

/-- A cancelled order that the channel reports twice. -/
theorem terminal_events_le_one_iff_replayed :
    let notification : DecoderInput :=
      .message (.deribitNotification { filledOrder with orderState := some "cancelled" }) 5
    (Machine.outputs step deribitOfOne [notification, notification]).countP (isEnd 1) ≤ 1 ↔
      EndsOnce [.filtered, .filtered] := by
  intro notification
  exact terminal_events_le_one_iff (by decide) (by decide) (by decide) _

/-- The order fills at once: the answer says so, and the channel says so again. -/
theorem filled_twice :
    ¬ ∀ (dec : ExecDecoder) (orderId : Nat) (inputs : List DecoderInput),
      orderId ≠ 0 → dec.venue ≠ .HYPERLIQUID → dec.hasCancelled orderId = false →
        (Machine.outputs step dec inputs).countP (isEnd orderId) ≤ 1 := by
  intro h
  have htwo := h deribitOfOne 1
    [.message (.deribitResponse filledOrder) 5, .message (.deribitNotification filledOrder) 6]
    (by decide) (by decide) (by decide)
  have hcount : (Machine.outputs step deribitOfOne [.message (.deribitResponse filledOrder) 5,
      .message (.deribitNotification filledOrder) 6]).countP (isEnd 1) = 2 := by decide +kernel
  omega

end ExecDecoder

end BptCore.OrderGateway
