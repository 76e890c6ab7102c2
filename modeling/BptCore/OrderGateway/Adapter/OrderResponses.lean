import BptCore.OrderGateway.Adapter.DeribitOrderAdapter
import BptCore.OrderGateway.Adapter.OKXExecDecoder
import BptCore.OrderGateway.OrderProcessor

/-!
# What an answer to an order request tells

The gateway holds a new order as pending until an event of it comes. An answer that makes no event
and leaves no venue id behind tells nothing: the order stays pending, its slot taken, and cannot be
cancelled on Deribit, where a cancel needs the venue id.

* **`DeribitOrderAdapter.tells_iff`** — an error tells nothing, nor does a result without an order
  of the label, its venue id and its end.
* **`OKXExecDecoder.tells_iff`** — only a refusal tells something.
* **`response_tells_iff`** — both.
* **`pending_kept`** — without an event the order is pending for good.
-/

namespace BptCore.OrderGateway

open Common (Json JsonObject)

/-! ## Deribit -/

namespace DeribitOrderAdapter

/-- The answer to the request of the number: no notification. -/
def Answers (rpcId : Nat) (root : Json) : Prop :=
  ∃ o : JsonObject, root = .obj o ∧ o.find "method" = none ∧
    (o.find "id").bind Json.toUInt64 = some rpcId

/-- An event of the order, or its venue id. -/
def Tells (orderId : Nat) (r : DeribitOrderAdapter × List Output) : Prop :=
  (∃ ev, .exec ev ∈ r.2 ∧ ev.orderId = orderId) ∨ r.1.decoder.getExchangeOrderId orderId ≠ ""

/-- The order object of an answer that is no error and no login. -/
def orderOf : Json → Option JsonObject
  | .obj o =>
    match JsonObject.find o "error", JsonObject.find o "result" with
    | none, some (.obj res) =>
      match JsonObject.find res "access_token", JsonObject.find res "order" with
      | none, some (.obj order) => some order
      | _, _ => none
    | _, _ => none
  | _ => none

/-- The states at which an answer makes an event. -/
def AtItsEnd (order : JsonObject) : Prop :=
  (order.findString "order_state").getD "" ∈ ["filled", "cancelled", "rejected"]

instance (order : JsonObject) : Decidable (AtItsEnd order) := inferInstanceAs (Decidable (_ ∈ _))

/-- The venue id is known already, or the answer has an order of the label with its venue id or at
its end. -/
def Informative (a : DeribitOrderAdapter) (orderId : Nat) (root : Json) : Prop :=
  a.decoder.getExchangeOrderId orderId ≠ "" ∨
    ∃ order ∈ orderOf root, orderId ≠ 0 ∧
      a.decoder.orderIdOf (order.findString "label") = orderId ∧
      ((order.findString "order_id").getD "" ≠ "" ∨ AtItsEnd order)

variable {a : DeribitOrderAdapter}

/-- A message that makes no event and tells the decoder nothing. -/
def Mute (message : Option DeribitMessage) : Prop :=
  message = none ∨ message = some .ignored ∨ message = some .authenticated ∨
    ∃ rpcId, message = some (.error rpcId)

theorem mute_readError (rpcId : Nat) (err : Json) : Mute (DeribitMessage.readError rpcId err) := by
  unfold DeribitMessage.readError
  cases err.asObject with
  | none => exact .inl rfl
  | some fields =>
    cases hcode : fields.find "code" with
    | none =>
      cases hmessage : fields.stringOrThrow "message" with
      | none => exact .inl (by simp [hcode, hmessage])
      | some _ => exact .inr (.inr (.inr ⟨rpcId, by simp [hcode, hmessage]⟩))
    | some code =>
      cases hint : code.toInt64 with
      | none => exact .inl (by simp [hcode, hint])
      | some _ =>
        cases hmessage : fields.stringOrThrow "message" with
        | none => exact .inl (by simp [hcode, hint, hmessage])
        | some _ => exact .inr (.inr (.inr ⟨rpcId, by simp [hcode, hint, hmessage]⟩))

/-- A result is an order, or mute. -/
theorem readResult_cases {o : JsonObject} (herror : o.find "error" = none) :
    match orderOf (.obj o) with
    | some order => DeribitMessage.readResult o = some (.orderResponse (.ofJson order))
    | none => Mute (DeribitMessage.readResult o) := by
  simp only [orderOf, herror, DeribitMessage.readResult]
  cases o.find "result" with
  | none => exact .inr (.inl rfl)
  | some result =>
    cases result with
    | obj res =>
      dsimp only
      cases JsonObject.find res "access_token" with
      | some _ => exact .inr (.inr (.inl rfl))
      | none =>
        cases JsonObject.find res "order" with
        | none => exact .inr (.inl rfl)
        | some order =>
          cases order with
          | obj fields => rfl
          | null | bool | num | str | arr => exact .inl rfl
    | null | bool | num | str | arr => exact .inr (.inl rfl)

/-- An answer that nobody waits for is an order, or mute. -/
theorem read_answer_cases {awaited : Nat → Bool} {rpcId : Nat} {root : Json}
    (hanswers : Answers rpcId root) (hnone : awaited rpcId = false) :
    match orderOf root with
    | some order => DeribitMessage.read awaited root = some (.orderResponse (.ofJson order))
    | none => Mute (DeribitMessage.read awaited root) := by
  obtain ⟨o, rfl, hmethod, hid⟩ := hanswers
  obtain ⟨id, hfind, hnumber⟩ := Option.bind_eq_some_iff.mp hid
  have hread : DeribitMessage.read awaited (.obj o) =
      (o.find "error").elim (DeribitMessage.readResult o) (DeribitMessage.readError rpcId) := by
    simp only [DeribitMessage.read, hmethod, hfind, DeribitMessage.readAnswer, hnumber]
    cases o.find "error" <;> simp [hnone]
  cases herror : o.find "error" with
  | some err =>
    rw [herror] at hread
    simp only [orderOf, herror]
    rw [hread]
    exact mute_readError rpcId err
  | none =>
    rw [herror] at hread
    rw [hread]
    exact readResult_cases herror

theorem getExchangeOrderId_rememberExchOid (d : DeribitExecDecoder) (exchOid : String)
    (orderId orderId' : Nat) :
    (d.rememberExchOid exchOid orderId').getExchangeOrderId orderId =
      if exchOid ≠ "" ∧ orderId = orderId' then exchOid else d.getExchangeOrderId orderId := by
  unfold DeribitExecDecoder.rememberExchOid
  by_cases hoid : exchOid = ""
  · simp [hoid]
  · simp only [if_neg hoid, DeribitExecDecoder.getExchangeOrderId, Table.lookup_insert_eq]
    by_cases hid : orderId = orderId' <;> simp [hid, hoid]

/-- An order object is of an unknown label, or it is remembered, and makes an event at its end. -/
theorem handleOrderResponse_cases (d : DeribitExecDecoder) (order : JsonObject) (recvNs : Nat) :
    let orderId := d.orderIdOf (order.findString "label")
    let d' := d.rememberExchOid ((order.findString "order_id").getD "") orderId
    let r := d.handleOrderResponse (.ofJson order) recvNs
    (orderId = 0 ∧ r = (d, none)) ∨
      (orderId ≠ 0 ∧ ¬AtItsEnd order ∧ r = (d', none)) ∨
      (orderId ≠ 0 ∧ AtItsEnd order ∧ r = (d', some (d.responseEvent (.ofJson order) recvNs))) := by
  have hend : AtItsEnd order ↔
      ¬((order.findString "order_state").getD "" ≠ "filled" ∧
        (order.findString "order_state").getD "" ≠ "cancelled" ∧
        (order.findString "order_state").getD "" ≠ "rejected") := by
    simp only [AtItsEnd, List.mem_cons, List.not_mem_nil, or_false]
    tauto
  by_cases hzero : d.orderIdOf (order.findString "label") = 0
  · exact .inl ⟨hzero, if_pos hzero⟩
  refine .inr ?_
  by_cases hstate : AtItsEnd order
  · exact .inr ⟨hzero, hstate, (if_neg hzero).trans (if_neg (hend.mp hstate))⟩
  · exact .inl ⟨hzero, hstate, (if_neg hzero).trans (if_pos (not_not.mp (mt hend.mpr hstate)))⟩

/-- What the decoder makes of an order object tells something of an order exactly when it is of
its label, with its venue id or at its end, or the venue id was known. -/
theorem handleOrderResponse_tells_iff (d : DeribitExecDecoder) (order : JsonObject)
    (recvNs orderId : Nat) :
    (∃ ev ∈ (d.handleOrderResponse (.ofJson order) recvNs).2, ev.orderId = orderId) ∨
        (d.handleOrderResponse (.ofJson order) recvNs).1.getExchangeOrderId orderId ≠ "" ↔
      d.getExchangeOrderId orderId ≠ "" ∨
        (orderId ≠ 0 ∧ d.orderIdOf (order.findString "label") = orderId ∧
          ((order.findString "order_id").getD "" ≠ "" ∨ AtItsEnd order)) := by
  have hid := getExchangeOrderId_rememberExchOid d ((order.findString "order_id").getD "") orderId
    (d.orderIdOf (order.findString "label"))
  have hcases := handleOrderResponse_cases d order recvNs
  dsimp only at hcases
  generalize d.handleOrderResponse (.ofJson order) recvNs = r at hcases ⊢
  rcases hcases with ⟨hzero, rfl⟩ | ⟨hne, hend, rfl⟩ | ⟨hne, hend, rfl⟩
  · -- an unknown label
    constructor
    · rintro (⟨ev, hmem, -⟩ | hknown)
      · exact absurd hmem (Option.not_mem_none ev)
      · exact .inl hknown
    · rintro (hknown | ⟨hne, hlabel, -⟩)
      · exact .inr hknown
      · exact absurd (hlabel.symm.trans hzero) hne
  · -- an order that still works: only its venue id
    dsimp only
    rw [hid]
    constructor
    · rintro (⟨ev, hmem, -⟩ | hknown)
      · exact absurd hmem (Option.not_mem_none ev)
      split at hknown
      · next hnew => exact .inr ⟨hnew.2 ▸ hne, hnew.2.symm, .inl hnew.1⟩
      · exact .inl hknown
    · rintro (hknown | ⟨-, hlabel, hoid | hstate⟩)
      · refine .inr ?_
        split
        · next hnew => exact hnew.1
        · exact hknown
      · exact .inr (by rw [if_pos ⟨hoid, hlabel.symm⟩]; exact hoid)
      · exact absurd hstate hend
  · -- an order at its end: an event
    dsimp only
    rw [hid]
    constructor
    · rintro (⟨ev, hmem, rfl⟩ | hknown)
      · cases hmem
        exact .inr ⟨hne, rfl, .inr hend⟩
      split at hknown
      · next hnew => exact .inr ⟨hnew.2 ▸ hne, hnew.2.symm, .inl hnew.1⟩
      · exact .inl hknown
    · rintro (hknown | ⟨-, hlabel, -⟩)
      · refine .inr ?_
        split
        · next hnew => exact hnew.1
        · exact hknown
      · exact .inl ⟨_, rfl, hlabel⟩

/-- **Deribit.** An answer to the request tells something of an order exactly when it is
informative. -/
theorem tells_iff (a : DeribitOrderAdapter) {rpcId : Nat} {root : Json}
    (hanswers : Answers rpcId root) (hnone : rpcId ∉ a.pendingResponses) (orderId recvNs : Nat) :
    Tells orderId (a.handleMessage (some root) recvNs) ↔ Informative a orderId root := by
  have hawaited : a.pendingResponses.contains rpcId = false := by simpa using hnone
  have hcases := @read_answer_cases (a.pendingResponses.contains ·) rpcId root hanswers hawaited
  unfold Tells Informative handleMessage
  rw [Option.bind_some]
  cases horder : orderOf root with
  | some order =>
    rw [horder] at hcases
    rw [hcases]
    have htells := handleOrderResponse_tells_iff a.decoder order recvNs orderId
    simpa using htells
  | none =>
    rw [horder] at hcases
    rcases hcases with hmute | hmute | hmute | ⟨rpcId', hmute⟩ <;> rw [hmute] <;>
      simp [endSession]

end DeribitOrderAdapter

/-! ## OKX -/

namespace OKXExecDecoder

variable (d : OKXExecDecoder)

/-- An answer to a request: no push of a channel. -/
def Answer (root : Json) : Prop := ∃ o : JsonObject, root = .obj o ∧ o.find "arg" = none

/-- The items of the answer to an order request. -/
def ackItems : Json → Option (List Json)
  | .obj o =>
    match JsonObject.find o "event", JsonObject.find o "op", JsonObject.find o "data" with
    | none, some (.str "order"), some (.arr items) => some items
    | _, _, _ => none
  | _ => none

/-- The item refuses the order. -/
def Refuses (orderId : Nat) (item : Json) : Prop :=
  ∃ ack ∈ d.readOrderAck item, orderId ≠ 0 ∧ d.orderIdOf ack.clOrdId = orderId ∧ ack.sCode ≠ "0"

/-- An item refuses the order, and those before it can be read. -/
def Refused (orderId : Nat) (root : Json) : Prop :=
  ∃ items ∈ ackItems root, ∃ before item after, items = before ++ item :: after ∧
    (∀ other ∈ before, d.readOrderAck other ≠ none) ∧ d.Refuses orderId item

variable {d}

theorem handleOrderAck_iff (ack : OKXOrderAck) (recvNs orderId : Nat) :
    (∃ ev ∈ d.handleOrderAck ack recvNs, ev.orderId = orderId) ↔
      orderId ≠ 0 ∧ d.orderIdOf ack.clOrdId = orderId ∧ ack.sCode ≠ "0" := by
  unfold handleOrderAck
  split
  · next hzero =>
    refine iff_of_false (fun ⟨ev, hmem, _⟩ => Option.not_mem_none ev hmem) ?_
    rintro ⟨hne, hid, -⟩
    exact hne (hid.symm.trans hzero)
  next hne =>
  split
  · next hcode =>
    refine iff_of_false (fun ⟨ev, hmem, _⟩ => Option.not_mem_none ev hmem) ?_
    rintro ⟨-, -, hrefused⟩
    exact hrefused hcode
  · next hcode =>
    constructor
    · rintro ⟨ev, hmem, rfl⟩
      cases hmem
      exact ⟨hne, rfl, hcode⟩
    · rintro ⟨-, hid, -⟩
      exact ⟨_, rfl, hid⟩

/-- The items are gone through up to the first that cannot be read. -/
theorem handleOrderAcks_iff (items : List Json) (recvNs orderId : Nat) :
    (∃ ev ∈ d.handleOrderAcks items recvNs, ev.orderId = orderId) ↔
      ∃ before item after, items = before ++ item :: after ∧
        (∀ other ∈ before, d.readOrderAck other ≠ none) ∧ d.Refuses orderId item := by
  induction items with
  | nil => simp [handleOrderAcks]
  | cons item items ih =>
    unfold handleOrderAcks
    cases hread : d.readOrderAck item with
    | none =>
      refine iff_of_false (fun ⟨ev, hmem, _⟩ => List.not_mem_nil hmem) ?_
      rintro ⟨before, item', after, heq, hbefore, ack, hack, -⟩
      cases before with
      | nil =>
        cases (List.cons.inj heq).1
        rw [hread] at hack
        exact Option.not_mem_none ack hack
      | cons first before =>
        cases (List.cons.inj heq).1
        exact hbefore item List.mem_cons_self hread
    | some ack =>
      have hone := handleOrderAck_iff (d := d) ack recvNs orderId
      dsimp only
      constructor
      · rintro ⟨ev, hmem, hid⟩
        rcases List.mem_append.mp hmem with hnow | hlater
        · have hrefuses := hone.mp ⟨ev, Option.mem_toList.mp hnow, hid⟩
          exact ⟨[], item, items, rfl, fun _ h => absurd h List.not_mem_nil, ack, hread, hrefuses⟩
        · obtain ⟨before, item', after, rfl, hbefore, hrefuses⟩ := ih.mp ⟨ev, hlater, hid⟩
          refine ⟨item :: before, item', after, rfl, fun other hother => ?_, hrefuses⟩
          rcases List.mem_cons.mp hother with rfl | hin
          · simp [hread]
          · exact hbefore other hin
      · rintro ⟨before, item', after, heq, hbefore, hrefuses⟩
        cases before with
        | nil =>
          obtain ⟨rfl, rfl⟩ := List.cons.inj heq
          obtain ⟨ack', hack, hall⟩ := hrefuses
          rw [hread] at hack
          cases hack
          obtain ⟨ev, hmem, hid⟩ := hone.mpr hall
          exact ⟨ev, List.mem_append_left _ (Option.mem_toList.mpr hmem), hid⟩
        | cons first before =>
          obtain ⟨rfl, rfl⟩ := List.cons.inj heq
          have hbehind : ∀ other ∈ before, d.readOrderAck other ≠ none :=
            fun other hother => hbefore other (List.mem_cons_of_mem _ hother)
          obtain ⟨ev, hmem, hid⟩ := ih.mpr ⟨before, item', after, rfl, hbehind, hrefuses⟩
          exact ⟨ev, List.mem_append_right _ hmem, hid⟩

theorem readEvent_ne_orderAcks (o : JsonObject) (event : Json) (items : List Json) :
    OKXMessage.readEvent o event ≠ some (.orderAcks items) := by
  unfold OKXMessage.readEvent
  cases event.asString with
  | none => simp
  | some name =>
    cases o.stringOrThrow "code" <;> cases o.stringOrThrow "msg" <;>
      by_cases herror : name = "error" <;> by_cases hlogin : name = "login" <;>
        simp [herror, hlogin]

theorem readChannel_ne_orderAcks (o : JsonObject) (items : List Json) :
    OKXMessage.readChannel o ≠ some (.orderAcks items) := by
  unfold OKXMessage.readChannel
  split
  · next arg _ _ _ _ =>
    cases arg.asObject with
    | none => simp
    | some fields =>
      cases hchannel : fields.find "channel" with
      | none => simp [hchannel]
      | some channel =>
        cases hname : channel.asString with
        | none => simp [hchannel, hname]
        | some name => by_cases horders : name = "orders" <;> simp [hchannel, hname, horders]
  · simp

/-- Only the answer to an order request has items. -/
theorem read_eq_orderAcks_iff {root : Json} {items : List Json} :
    OKXMessage.read root = some (.orderAcks items) ↔ ackItems root = some items := by
  cases root with
  | obj o =>
    simp only [OKXMessage.read, ackItems]
    cases JsonObject.find o "event" with
    | some event => simp [readEvent_ne_orderAcks]
    | none =>
      cases JsonObject.find o "op" with
      | none => simp [readChannel_ne_orderAcks]
      | some op =>
        cases op with
        | str name =>
          by_cases hname : name = "order"
          · subst hname
            cases hdata : JsonObject.find o "data" with
            | none => simp [OKXMessage.readOp, Json.asString, hdata]
            | some data => cases data <;> simp [OKXMessage.readOp, Json.asString, hdata]
          · simp [OKXMessage.readOp, Json.asString, hname]
        | null | bool | num | arr | obj => simp [OKXMessage.readOp, Json.asString]
  | null | bool | num | str | arr => simp [OKXMessage.read, ackItems]

/-- **OKX.** An answer tells something of an order exactly when it refuses it. -/
theorem tells_iff (d : OKXExecDecoder) (root : Json) (orderId recvNs : Nat) :
    (∃ ev ∈ d.handleAnswer root recvNs, ev.orderId = orderId) ↔ d.Refused orderId root := by
  unfold handleAnswer Refused
  cases hitems : ackItems root with
  | some items =>
    rw [read_eq_orderAcks_iff.mpr hitems]
    simp [handleOrderAcks_iff]
  | none =>
    have hread : ∀ items, OKXMessage.read root ≠ some (.orderAcks items) := by
      intro items h
      rw [read_eq_orderAcks_iff, hitems] at h
      cases h
    refine iff_of_false ?_ (by simp)
    split
    · next items h => exact absurd h (hread items)
    · simp

end OKXExecDecoder

/-! ## Both venues -/

/-- **Answers to order requests.** On Deribit an answer that no thread waits for makes an event of
the order, or leaves its venue id behind, exactly when it is informative; on OKX, where no venue id
is kept, exactly when it refuses the order. -/
theorem response_tells_iff (orderId recvNs : Nat) :
    (∀ (a : DeribitOrderAdapter) (rpcId : Nat) (root : Json),
      DeribitOrderAdapter.Answers rpcId root → rpcId ∉ a.pendingResponses →
        (DeribitOrderAdapter.Tells orderId (a.handleMessage (some root) recvNs) ↔
          a.Informative orderId root)) ∧
      ∀ (d : OKXExecDecoder) (root : Json), OKXExecDecoder.Answer root →
        ((∃ ev ∈ d.handleAnswer root recvNs, ev.orderId = orderId) ↔ d.Refused orderId root) :=
  ⟨fun a _ _ hanswers hnone => a.tells_iff hanswers hnone orderId recvNs,
    fun d root _ => d.tells_iff root orderId recvNs⟩

namespace DeribitOrderAdapter

/-- The adapter has sent order 7 as request 2, and waits for what comes. -/
def sentSeven : DeribitOrderAdapter where
  sessionPrefix := "5f00aa11"
  decoder := { exchOidNumber := fun _ => 0, labelToOrderId := AList.singleton "5f00aa11G7" 7 }
  loggedIn := true
  jsonrpcId := 3
  io := .ready

/-- Deribit has not the money for it. -/
def notEnoughFunds : Json :=
  .obj [("jsonrpc", .str "2.0"), ("id", .num 2),
    ("error", .obj [("code", .num 10009), ("message", .str "not_enough_funds")])]

/-- Deribit has taken it. -/
def takenSeven : Json :=
  .obj [("jsonrpc", .str "2.0"), ("id", .num 2),
    ("result", .obj [("order", .obj [("label", .str "5f00aa11G7"), ("order_id", .str "ETH-349249"),
      ("order_state", .str "open")])])]

theorem informative_takenSeven : sentSeven.Informative 7 takenSeven :=
  .inr ⟨_, rfl, by decide, by decide, .inl (by decide)⟩

end DeribitOrderAdapter

theorem response_tells_iff_sentSeven :
    DeribitOrderAdapter.Tells 7
      (DeribitOrderAdapter.sentSeven.handleMessage (some DeribitOrderAdapter.takenSeven) 0) :=
  ((response_tells_iff 7 0).1 DeribitOrderAdapter.sentSeven 2 DeribitOrderAdapter.takenSeven
    ⟨_, rfl, by decide, by decide⟩ (by decide)).mpr DeribitOrderAdapter.informative_takenSeven

/-- The error is logged, and tells nothing of the order. -/
theorem error_tells_nothing :
    ¬DeribitOrderAdapter.Tells 7
      (DeribitOrderAdapter.sentSeven.handleMessage (some DeribitOrderAdapter.notEnoughFunds) 0) := by
  have hout : (DeribitOrderAdapter.sentSeven.handleMessage
      (some DeribitOrderAdapter.notEnoughFunds) 0).2 = [] := by decide +kernel
  have hid : (DeribitOrderAdapter.sentSeven.handleMessage
      (some DeribitOrderAdapter.notEnoughFunds) 0).1.decoder.getExchangeOrderId 7 = "" := by
    decide +kernel
  rintro (⟨ev, hmem, -⟩ | hknown)
  · rw [hout] at hmem
    exact absurd hmem List.not_mem_nil
  · exact hknown hid

/-! ## An order that is told nothing of -/

namespace OrderProcessor

variable {cfg : ProcessorSettings} {p : OrderProcessor} {orderId : Nat} {st : OrderState}

/-- The step is an event of the order. -/
def IsEventOf (orderId : Nat) : ProcessorEvent → Prop
  | .execEvent event _ => event.orderId = orderId
  | _ => False

theorem get_removeAll_of_notMem {m : OrderStateManager} {ids : List Nat} (h : orderId ∉ ids) :
    (m.removeAll ids).get orderId = m.get orderId := by
  induction ids generalizing m with
  | nil => rfl
  | cons id ids ih =>
    obtain ⟨hne, hrest⟩ := not_or.mp fun hor => h (List.mem_cons.mpr hor)
    show ((m.remove id).removeAll ids).get orderId = m.get orderId
    rw [ih hrest, OrderStateManager.get_remove, if_neg hne]

/-- A pending order is not stale, whatever its age. -/
theorem notMem_staleOrders (hheld : p.HeldWell cfg) (hget : p.stateMgr.get orderId = some st)
    (hpending : st.lifecycle = .PENDING) (nowNs timeoutNs : Nat) :
    orderId ∉ (p.stateMgr.staleOrders nowNs timeoutNs).map OrderState.orderId := by
  intro hmem
  obtain ⟨stale, hstale, rfl⟩ := List.mem_map.mp hmem
  obtain ⟨hval, htest⟩ := List.mem_filter.mp hstale
  obtain ⟨id, hid⟩ := Table.mem_vals_iff.mp hval
  rw [hheld.key id stale hid, show p.stateMgr.get id = some stale from hid] at hget
  cases hget
  simp [OrderState.stale, hpending] at htest

/-- A step that is no event of a pending order leaves it as it is. -/
theorem pending_step (hheld : p.HeldWell cfg) (hget : p.stateMgr.get orderId = some st)
    (hpending : st.lifecycle = .PENDING) {e : ProcessorEvent} (he : ¬IsEventOf orderId e) :
    (p.step cfg e).1.stateMgr.get orderId = some st := by
  cases e with
  | newOrder order nowNs nowS status =>
    show (p.onNewOrder cfg order nowNs nowS status).1.stateMgr.get orderId = some st
    rcases p.onNewOrder_spec cfg order nowNs nowS status with ⟨-, hrouted⟩ | ⟨-, haway⟩
    · rw [hrouted.held, OrderStateManager.get_insert, if_neg]
      · exact hget
      · rintro ⟨heq, hnone⟩
        rw [show (order.toOrderState nowNs).orderId = orderId from heq.symm, hget] at hnone
        cases hnone
    · rw [haway.held]
      exact hget
  | execEvent event nowNs =>
    show (p.onExecEvent cfg event nowNs).1.stateMgr.get orderId = some st
    rw [onExecEvent_get, if_neg fun heq => he heq.symm]
    exact hget
  | cancel cancel =>
    show (p.onCancel cfg cancel).1.stateMgr.get orderId = some st
    rw [onCancel_fst]
    exact hget
  | cancelAll cancelAll =>
    show (p.onCancelAll cfg cancelAll).1.stateMgr.get orderId = some st
    rw [onCancelAll_fst]
    split <;> exact hget
  | modify modify =>
    show (p.onModify cfg modify).1.stateMgr.get orderId = some st
    rw [onModify_fst]
    exact hget
  | checkStaleOrders staleTimeoutNs nowNs =>
    show (p.stateMgr.removeAll _).get orderId = some st
    rw [get_removeAll_of_notMem (notMem_staleOrders hheld hget hpending nowNs staleTimeoutNs)]
    exact hget

/-- **Pending for good.** While no event of it comes, a pending order is held as it is: cancels,
kill switch and the sweep of stale orders all pass it by. -/
theorem pending_kept (hheld : p.HeldWell cfg) (hget : p.stateMgr.get orderId = some st)
    (hpending : st.lifecycle = .PENDING) {es : List ProcessorEvent}
    (hes : ∀ e ∈ es, ¬IsEventOf orderId e) :
    (Machine.exec (step cfg) p es).stateMgr.get orderId = some st := by
  have hrun : Machine.AlongRun (step cfg) (fun _ e => ¬IsEventOf orderId e) p es :=
    Machine.AlongRun.of_forall_mem (fun e he _ => hes e he) p
  exact (Machine.AllStates.of_assumption
    (I := fun q => q.HeldWell cfg ∧ q.stateMgr.get orderId = some st)
    (fun q e hq he => ⟨hq.1.step e, pending_step hq.1 hq.2 hpending he⟩) ⟨hheld, hget⟩ hrun).final.2

end OrderProcessor

end BptCore.OrderGateway
