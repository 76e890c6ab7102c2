import BptCore.Common.Util.Json
import BptCore.OrderGateway.Adapter.HyperliquidOrderAdapter

/-!
# What Hyperliquid answers to an order

The answer to a new order as the text that comes, from the document on. An answer that makes no
event and registers no venue id leaves the order pending: no fill is attributed to it, no cancel is
sent for it, and the sweep of stale orders does not look at it.

* **`parseOrderResponse`** — what the emitter reads of a document.
* **`Silent`** — the answers that say ok and no more.
* **`tells_iff`** — an answer makes an event or registers an id unless it is silent.
* **`unheard_run`** — an order without either is never heard of again.
-/

namespace BptCore.OrderGateway

open Common (Json JsonObject)

namespace HyperliquidExecEmitter

/-! ## Reading -/

/-- `oid` has to be an unsigned number where it is there. -/
def readOid (o : JsonObject) : Option (Option Nat) :=
  match o.find "oid" with
  | none => some none
  | some v => v.toUInt64.map some

/-- The first of the keys that the status has, in the order in which they are looked for. -/
def readEntry (s0 : JsonObject) : Option OrderStatusEntry :=
  match s0.find "resting", s0.find "filled", s0.find "error" with
  | some v, _, _ => v.asObject.bind fun o => (readOid o).map fun oid => { resting := some oid }
  | none, some v, _ => v.asObject.bind fun o => (readOid o).map fun oid => { filled := some oid }
  | none, none, some v => v.asString.map fun err => { error := some err }
  | none, none, none => some {}

/-- `statuses[0]`, if it has come to that. -/
def readStatuses (data : JsonObject) : Option (Option OrderStatusEntry) :=
  match data.find "statuses" with
  | some (.arr (s0 :: _)) => s0.asObject.bind fun s0 => (readEntry s0).map some
  | _ => some none

def readData (response : JsonObject) : Option (Option OrderStatusEntry) :=
  match response.find "data" with
  | none => some none
  | some v => v.asObject.bind readStatuses

def readResponse (rj : JsonObject) : Option (Option OrderStatusEntry) :=
  match rj.find "response" with
  | none => some none
  | some v => v.asObject.bind readData

/-- The answer's document; without the status ok nothing else of it is read. -/
def readRoot (root : Json) : Option OrderResponse :=
  root.asObject.bind fun rj =>
    (rj.stringOrThrow "status").bind fun status =>
      if status ≠ "ok" then some (.parsed status none)
      else (readResponse rj).map (.parsed status)

/-- The answer's text, `none` when it is not a document. -/
def parseOrderResponse (resp : Option Json) : OrderResponse := (resp.bind readRoot).getD .malformed

/-! ## Answers that say ok and no more -/

/-- A status with none of the keys, or an immediate fill without an id. -/
inductive SilentEntry (s0 : JsonObject) : Prop where
  | filled (f : JsonObject) (hresting : s0.find "resting" = none)
      (hfilled : s0.find "filled" = some (.obj f))
      (hoid : ∀ v, f.find "oid" = some v → v.toUInt64 = some 0)
  | other (hresting : s0.find "resting" = none) (hfilled : s0.find "filled" = none)
      (herror : s0.find "error" = none)

/-- The path to the first status breaks off, or it is a silent one. -/
inductive SilentResponse (rj : JsonObject) : Prop where
  | noResponse (h : rj.find "response" = none)
  | noData (response : JsonObject) (hresponse : rj.find "response" = some (.obj response))
      (h : response.find "data" = none)
  | noStatus (response data : JsonObject) (hresponse : rj.find "response" = some (.obj response))
      (hdata : response.find "data" = some (.obj data))
      (h : ∀ s0 rest, data.find "statuses" ≠ some (.arr (s0 :: rest)))
  | status (response data s0 : JsonObject) (rest : List Json)
      (hresponse : rj.find "response" = some (.obj response))
      (hdata : response.find "data" = some (.obj data))
      (hstatuses : data.find "statuses" = some (.arr (.obj s0 :: rest))) (h : SilentEntry s0)

/-- The answer says ok, and nothing of the order. -/
def Silent (resp : Option Json) : Prop :=
  ∃ rj : JsonObject, resp = some (.obj rj) ∧ rj.find "status" = some (.str "ok") ∧
    SilentResponse rj

/-- A status that was read, and has nothing to report or register. -/
def SaysNothing : Option OrderStatusEntry → Prop
  | none => True
  | some s0 =>
    s0.resting = none ∧ s0.filled.bind ackedOid = none ∧ (s0.filled = none → s0.error = none)

theorem ackedOid_eq_none_iff (oid : Option Nat) : ackedOid oid = none ↔ oid.getD 0 = 0 := by
  unfold ackedOid
  split
  · next h => exact iff_of_true rfl h
  · next h => exact iff_of_false (fun h' => absurd h' (Option.some_ne_none _)) h

theorem readOid_zero_iff (f : JsonObject) :
    (∃ oid, readOid f = some oid ∧ ackedOid oid = none) ↔
      ∀ v, f.find "oid" = some v → v.toUInt64 = some 0 := by
  simp only [ackedOid_eq_none_iff]
  unfold readOid
  cases f.find "oid" with
  | none => exact iff_of_true ⟨none, rfl, rfl⟩ fun v hv => absurd hv.symm (Option.some_ne_none v)
  | some v =>
    constructor
    · rintro ⟨oid, hoid, hzero⟩ v' hv'
      obtain rfl := Option.some.inj hv'
      obtain ⟨n, hn, rfl⟩ := Option.map_eq_some_iff.mp hoid
      rw [hn, show n = 0 from hzero]
    · intro h
      exact ⟨some 0, by simp only [h v rfl, Option.map_some], rfl⟩

theorem silentEntry_iff (s0 : JsonObject) :
    (∃ e, readEntry s0 = some e ∧ SaysNothing (some e)) ↔ SilentEntry s0 := by
  unfold readEntry
  cases hresting : s0.find "resting" with
  | some v =>
    -- a resting order is reported
    refine iff_of_false ?_ ?_
    · rintro ⟨e, he, hnothing⟩
      obtain ⟨o, -, he⟩ := Option.bind_eq_some_iff.mp he
      obtain ⟨oid, -, rfl⟩ := Option.map_eq_some_iff.mp he
      exact absurd hnothing.1 (Option.some_ne_none oid)
    · rintro (⟨f, hnone, -, -⟩ | ⟨hnone, -, -⟩) <;>
        exact absurd (hresting.symm.trans hnone) (Option.some_ne_none v)
  | none =>
    cases hfilled : s0.find "filled" with
    | some v =>
      constructor
      · rintro ⟨e, he, hnothing⟩
        obtain ⟨f, hf, he⟩ := Option.bind_eq_some_iff.mp he
        obtain ⟨oid, hoid, rfl⟩ := Option.map_eq_some_iff.mp he
        obtain rfl := Json.asObject_eq_some_iff.mp hf
        exact .filled f hresting hfilled ((readOid_zero_iff f).mp ⟨oid, hoid, hnothing.2.1⟩)
      · rintro (⟨f, -, hf, hzero⟩ | ⟨-, hnone, -⟩)
        · obtain rfl := Option.some.inj (hfilled.symm.trans hf)
          obtain ⟨oid, hoid, hacked⟩ := (readOid_zero_iff f).mpr hzero
          refine ⟨{ filled := some oid }, ?_, rfl, hacked, fun _ => rfl⟩
          simp only [Json.asObject, Option.bind_some, hoid, Option.map_some]
        · exact absurd (hfilled.symm.trans hnone) (Option.some_ne_none v)
    | none =>
      cases herror : s0.find "error" with
      | some v =>
        refine iff_of_false ?_ ?_
        · rintro ⟨e, he, hnothing⟩
          obtain ⟨err, -, rfl⟩ := Option.map_eq_some_iff.mp he
          exact absurd (hnothing.2.2 rfl) (Option.some_ne_none err)
        · rintro (⟨f, -, hf, -⟩ | ⟨-, -, hnone⟩)
          · exact absurd (hf.symm.trans hfilled) (Option.some_ne_none _)
          · exact absurd (herror.symm.trans hnone) (Option.some_ne_none v)
      | none =>
        exact iff_of_true ⟨{}, rfl, rfl, rfl, fun _ => rfl⟩ (.other hresting hfilled herror)

theorem silentStatuses_iff (data : JsonObject) :
    (∃ entry, readStatuses data = some entry ∧ SaysNothing entry) ↔
      (∀ s0 rest, data.find "statuses" ≠ some (.arr (s0 :: rest))) ∨
        ∃ s0 rest, data.find "statuses" = some (.arr (.obj s0 :: rest)) ∧ SilentEntry s0 := by
  unfold readStatuses
  split
  · next v rest hstatuses =>
    constructor
    · rintro ⟨entry, hentry, hnothing⟩
      obtain ⟨s0, hs0, hentry⟩ := Option.bind_eq_some_iff.mp hentry
      obtain ⟨e, he, rfl⟩ := Option.map_eq_some_iff.mp hentry
      obtain rfl := Json.asObject_eq_some_iff.mp hs0
      exact .inr ⟨s0, rest, hstatuses, (silentEntry_iff s0).mp ⟨e, he, hnothing⟩⟩
    · rintro (hnone | ⟨s0, rest', hfirst, hsilent⟩)
      · exact absurd hstatuses (hnone v rest)
      · obtain ⟨rfl, rfl⟩ : v = .obj s0 ∧ rest = rest' := by
          rw [hstatuses] at hfirst
          simpa using hfirst
        obtain ⟨e, he, hnothing⟩ := (silentEntry_iff s0).mpr hsilent
        exact ⟨some e, by simp only [Json.asObject, Option.bind_some, he, Option.map_some], hnothing⟩
  · next hnone => exact iff_of_true ⟨none, rfl, trivial⟩ (.inl hnone)

theorem silentResponse_iff (rj : JsonObject) :
    (∃ entry, readResponse rj = some entry ∧ SaysNothing entry) ↔ SilentResponse rj := by
  constructor
  · rintro ⟨entry, hentry, hnothing⟩
    cases hresponse : rj.find "response" with
    | none => exact .noResponse hresponse
    | some v =>
      simp only [readResponse, hresponse] at hentry
      obtain ⟨response, hobj, hinner⟩ := Option.bind_eq_some_iff.mp hentry
      obtain rfl := Json.asObject_eq_some_iff.mp hobj
      cases hdata : response.find "data" with
      | none => exact .noData response hresponse hdata
      | some v =>
        simp only [readData, hdata] at hinner
        obtain ⟨data, hobj, hstatuses⟩ := Option.bind_eq_some_iff.mp hinner
        obtain rfl := Json.asObject_eq_some_iff.mp hobj
        rcases (silentStatuses_iff data).mp ⟨entry, hstatuses, hnothing⟩ with hnone | hfirst
        · exact .noStatus response data hresponse hdata hnone
        · obtain ⟨s0, rest, hstatuses, hsilent⟩ := hfirst
          exact .status response data s0 rest hresponse hdata hstatuses hsilent
  · -- down to the statuses, and what is read of them
    have hdown : ∀ response data : JsonObject, rj.find "response" = some (.obj response) →
        response.find "data" = some (.obj data) → readResponse rj = readStatuses data := by
      intro response data hresponse hdata
      simp only [readResponse, hresponse, Json.asObject, Option.bind_some, readData, hdata]
    rintro (h | ⟨response, hresponse, h⟩ | ⟨response, data, hresponse, hdata, h⟩ |
      ⟨response, data, s0, rest, hresponse, hdata, hstatuses, h⟩)
    · exact ⟨none, by simp only [readResponse, h], trivial⟩
    · exact ⟨none, by simp only [readResponse, hresponse, Json.asObject, Option.bind_some, readData, h],
        trivial⟩
    · rw [hdown response data hresponse hdata]
      exact (silentStatuses_iff data).mpr (.inl h)
    · rw [hdown response data hresponse hdata]
      exact (silentStatuses_iff data).mpr (.inr ⟨s0, rest, hstatuses, h⟩)

theorem find_of_stringOrThrow {o : JsonObject} {key text : String}
    (h : o.stringOrThrow key = some text) (hne : text ≠ "") : o.find key = some (.str text) := by
  unfold JsonObject.stringOrThrow at h
  cases hfind : o.find key with
  | none =>
    rw [hfind] at h
    exact absurd (Option.some.inj h).symm hne
  | some v =>
    rw [hfind] at h
    cases v with
    | str s => exact congrArg (fun s => some (Json.str s)) (Option.some.inj h)
    | null | bool _ | num _ | arr _ | obj _ => cases h

/-- **The silent answers** are the ones of which the emitter reads nothing. -/
theorem silent_iff (resp : Option Json) :
    (∃ entry, parseOrderResponse resp = .parsed "ok" entry ∧ SaysNothing entry) ↔ Silent resp := by
  constructor
  · rintro ⟨entry, hparse, hnothing⟩
    have hread : resp.bind readRoot = some (.parsed "ok" entry) := by
      unfold parseOrderResponse at hparse
      cases hroot : resp.bind readRoot with
      | none =>
        rw [hroot] at hparse
        exact absurd hparse (by simp)
      | some r =>
        rw [hroot] at hparse
        exact congrArg some hparse
    obtain ⟨root, rfl, hroot⟩ := Option.bind_eq_some_iff.mp hread
    obtain ⟨rj, hobj, hrj⟩ := Option.bind_eq_some_iff.mp hroot
    obtain rfl := Json.asObject_eq_some_iff.mp hobj
    obtain ⟨status, hstatus, hrest⟩ := Option.bind_eq_some_iff.mp hrj
    split at hrest
    · next hne =>
      injection hrest with hrest
      injection hrest with hok
      exact absurd hok hne
    · obtain ⟨entry', hentry, heq⟩ := Option.map_eq_some_iff.mp hrest
      injection heq with hstatusOk heq
      subst heq
      rw [hstatusOk] at hstatus
      exact ⟨rj, rfl, find_of_stringOrThrow hstatus (by decide),
        (silentResponse_iff rj).mp ⟨entry', hentry, hnothing⟩⟩
  · rintro ⟨rj, rfl, hstatus, hsilent⟩
    obtain ⟨entry, hentry, hnothing⟩ := (silentResponse_iff rj).mpr hsilent
    refine ⟨entry, ?_, hnothing⟩
    simp only [parseOrderResponse, Option.bind_some, readRoot, Json.asObject,
      JsonObject.stringOrThrow, hstatus, Json.asString, ne_eq, not_true_eq_false, if_false, hentry,
      Option.map_some, Option.getD_some]

/-! ## Reporting -/

/-- The event is the order's acknowledgement or its end. -/
def Answers (orderId : Nat) (ev : ExecEvent) : Prop :=
  ev.orderId = orderId ∧ (ev.status.terminal = true ∨ ev.status = .ACKED)

theorem emitOrderResponse_of_saysNothing {entry : Option OrderStatusEntry}
    (h : SaysNothing entry) (ctx : OrderContext) (nowNs : Nat) :
    emitOrderResponse (.parsed "ok" entry) ctx nowNs = (none, []) := by
  cases entry with
  | none => rfl
  | some s0 =>
    obtain ⟨resting, filled, error⟩ := s0
    obtain rfl : resting = none := h.1
    cases filled with
    | none =>
      obtain rfl : error = none := h.2.2 rfl
      rfl
    | some oid =>
      show (ackedOid oid, ([] : List ExecEvent)) = _
      rw [show ackedOid oid = none from h.2.1]

/-- What is read reports something or has an id to register, unless it says nothing. -/
theorem emitOrderResponse_iff (resp : OrderResponse) (ctx : OrderContext) (nowNs : Nat) :
    ((∃ ev ∈ (emitOrderResponse resp ctx nowNs).2, Answers ctx.clientOrderId ev) ∨
        (emitOrderResponse resp ctx nowNs).1.isSome = true) ↔
      ¬ ∃ entry, resp = .parsed "ok" entry ∧ SaysNothing entry := by
  have hrejected : ∃ ev ∈ [emitRejected ctx nowNs], Answers ctx.clientOrderId ev :=
    ⟨_, List.mem_singleton_self _, rfl, .inl rfl⟩
  constructor
  · rintro heffect ⟨entry, rfl, hnothing⟩
    rw [emitOrderResponse_of_saysNothing hnothing] at heffect
    rcases heffect with ⟨ev, hev, -⟩ | hacked
    · exact absurd hev List.not_mem_nil
    · exact absurd hacked (by decide)
  · intro h
    cases resp with
    | malformed => exact .inl hrejected
    | parsed status entry =>
      by_cases hok : status = "ok"
      · subst hok
        cases entry with
        | none => exact absurd ⟨none, rfl, trivial⟩ h
        | some s0 =>
          obtain ⟨resting, filled, error⟩ := s0
          cases resting with
          | some oid => exact .inl ⟨_, List.mem_singleton_self _, rfl, .inr rfl⟩
          | none =>
            cases filled with
            | some oid =>
              -- only the id counts
              refine .inr (Option.isSome_iff_ne_none.mpr fun hacked => h ⟨_, rfl, rfl, hacked, ?_⟩)
              exact fun hfilled => absurd hfilled (Option.some_ne_none oid)
            | none =>
              cases error with
              | some err => exact .inl hrejected
              | none => exact absurd ⟨_, rfl, rfl, rfl, fun _ => rfl⟩ h
      · refine .inl ?_
        unfold emitOrderResponse
        dsimp only
        rw [if_pos hok]
        exact hrejected

end HyperliquidExecEmitter

namespace HyperliquidOrderAdapter

open HyperliquidExecEmitter

/-- The answer makes an event that acknowledges or ends the order, or registers a venue id for
it. -/
def Tells (a : HyperliquidOrderAdapter) (req : NewOrderRequest) (resp : Option Json)
    (nowNs : Nat) : Prop :=
  (∃ ev ∈ (a.sendNewOrder req (.body (parseOrderResponse resp)) nowNs).2,
      Answers req.orderId ev) ∨
    ∃ oid, oid ≠ 0 ∧ answered a.assetMeta req (parseOrderResponse resp) nowNs =
      some (req.orderId, oid, req.quantity)

theorem sendNewOrder_events (a : HyperliquidOrderAdapter) {req : NewOrderRequest}
    (hsymbol : req.exchangeSymbol ∈ a.assetMeta) (resp : OrderResponse) (nowNs : Nat) :
    (a.sendNewOrder req (.body resp) nowNs).2 =
      (emitOrderResponse resp (context req) nowNs).2 := by
  unfold sendNewOrder
  rw [if_neg (not_not_intro hsymbol)]
  dsimp only
  cases (emitOrderResponse resp (context req) nowNs).1 <;> rfl

theorem answered_iff {assetMeta : List String} {req : NewOrderRequest}
    (hsymbol : req.exchangeSymbol ∈ assetMeta) (resp : OrderResponse) (nowNs : Nat) :
    (∃ oid, oid ≠ 0 ∧
        answered assetMeta req resp nowNs = some (req.orderId, oid, req.quantity)) ↔
      (emitOrderResponse resp (context req) nowNs).1.isSome = true := by
  constructor
  · rintro ⟨oid, -, h⟩
    rw [answered, if_pos hsymbol] at h
    obtain ⟨x, hx, -⟩ := Option.map_eq_some_iff.mp h
    rw [hx]
    rfl
  · intro h
    obtain ⟨oid, hoid⟩ := Option.isSome_iff_exists.mp h
    have hanswered : answered assetMeta req resp nowNs =
        some (req.orderId, oid, req.quantity) := by
      rw [answered, if_pos hsymbol, hoid]
      rfl
    exact ⟨oid, answered_oid_ne_zero hanswered, hanswered⟩

/-- **What an answer tells.** An order of an unknown symbol is rejected without one; of the others
every answer acknowledges or ends the order or registers its venue id, unless it is silent. -/
theorem orderResponse_tells_iff (a : HyperliquidOrderAdapter) (req : NewOrderRequest)
    (resp : Option Json) (nowNs : Nat) :
    a.Tells req resp nowNs ↔ req.exchangeSymbol ∉ a.assetMeta ∨ ¬ Silent resp := by
  by_cases hsymbol : req.exchangeSymbol ∈ a.assetMeta
  · have hemit := emitOrderResponse_iff (parseOrderResponse resp) (context req) nowNs
    rw [silent_iff] at hemit
    unfold Tells
    rw [sendNewOrder_events a hsymbol, answered_iff hsymbol, or_iff_right (not_not_intro hsymbol)]
    exact hemit
  · refine iff_of_true (.inl ?_) (.inl hsymbol)
    unfold sendNewOrder
    rw [if_pos hsymbol]
    exact ⟨_, List.mem_singleton_self _, rfl, .inl rfl⟩

/-- The answer that the venue gives to actions that are not orders. -/
def defaultAnswer : Json :=
  .obj [("status", .str "ok"), ("response", .obj [("type", .str "default")])]

def sentEight : NewOrderRequest where
  orderId := 8
  instrumentId := 100103
  side := .BUY
  orderType := .LIMIT
  tif := .GTC
  price := 9000000000000
  quantity := 1000000
  execInst := 0
  exchangeSymbol := "BTC"

theorem defaultAnswer_tells_nothing :
    ¬ ({ assetMeta := ["BTC"] } : HyperliquidOrderAdapter).Tells sentEight (some defaultAnswer)
      1 := by
  rintro (⟨ev, hev, -⟩ | ⟨oid, -, hanswered⟩)
  · exact absurd hev List.not_mem_nil
  · exact absurd hanswered.symm (Option.some_ne_none _)

/-! ## After a silent answer -/

/-- Nothing in the adapter stands for the order. -/
structure Unheard (a : HyperliquidOrderAdapter) (orderId : Nat) : Prop where
  unmapped : a.clientToExchOid.lookup orderId = none
  unregistered : ∀ oid po, a.decoder.pending.lookup oid = some po → po.clientOrderId ≠ orderId
  notLost : ∀ c ∈ a.candidates, c.clientOrderId ≠ orderId
  notCancelled : ∀ x, a.cancelInFlight = some x → x.1 ≠ orderId

/-- The event sends no order of the id. -/
def SendsOther (orderId : Nat) : Event → Prop
  | .newOrder req _ _ => req.orderId ≠ orderId
  | .cancel _ | .cancelReply _ _ | .reconcile _ _ _ | .userFill _ _ => True

theorem emitOrderResponse_orderId {resp : OrderResponse} {ctx : OrderContext} {nowNs : Nat}
    {ev : ExecEvent} (h : ev ∈ (emitOrderResponse resp ctx nowNs).2) :
    ev.orderId = ctx.clientOrderId := by
  unfold emitOrderResponse at h
  split at h
  · rw [List.mem_singleton.mp h]
    rfl
  split at h
  · rw [List.mem_singleton.mp h]
    rfl
  split at h
  · exact absurd h List.not_mem_nil
  split at h
  · rw [List.mem_singleton.mp h]
    rfl
  · exact absurd h List.not_mem_nil
  · rw [List.mem_singleton.mp h]
    rfl
  · exact absurd h List.not_mem_nil

theorem emitCancelResponse_orderId {resp : CancelResponse} {clientId nowNs : Nat} {ev : ExecEvent}
    (h : ev ∈ (emitCancelResponse resp clientId nowNs).2) : ev.orderId = clientId := by
  unfold emitCancelResponse at h
  split at h
  · exact absurd h List.not_mem_nil
  split at h
  · exact absurd h List.not_mem_nil
  split at h
  · exact absurd h List.not_mem_nil
  · rw [List.mem_singleton.mp h]

variable {a : HyperliquidOrderAdapter} {orderId : Nat}

/-- Ids of another order. -/
theorem Unheard.assign (h : a.Unheard orderId) {clientId : Nat} (hne : clientId ≠ orderId)
    (exchOid qtyE8 : Nat) : (a.assign clientId exchOid qtyE8).Unheard orderId where
  unmapped := by
    show (a.clientToExchOid.insert clientId exchOid).lookup orderId = none
    rw [Table.lookup_insert_eq, if_neg (Ne.symm hne), h.unmapped]
  unregistered oid po hpo := by
    rw [show (a.assign clientId exchOid qtyE8).decoder =
      a.decoder.registerOrder exchOid clientId qtyE8 from rfl,
      HyperliquidExecDecoder.lookup_registerOrder] at hpo
    split at hpo
    · obtain rfl := Option.some.inj hpo
      exact hne
    · exact h.unregistered oid po hpo
  notLost := h.notLost
  notCancelled := h.notCancelled

theorem Unheard.sendNewOrder (h : a.Unheard orderId) {req : NewOrderRequest}
    (hne : req.orderId ≠ orderId) (reply : OrderReply) (nowNs : Nat) :
    (a.sendNewOrder req reply nowNs).1.Unheard orderId ∧
      ∀ ev ∈ (a.sendNewOrder req reply nowNs).2, ev.orderId ≠ orderId := by
  by_cases hsymbol : req.exchangeSymbol ∈ a.assetMeta
  · cases reply with
    | lost =>
      unfold HyperliquidOrderAdapter.sendNewOrder
      rw [if_neg (not_not_intro hsymbol)]
      refine ⟨⟨h.unmapped, h.unregistered, fun c hc => ?_, h.notCancelled⟩, ?_⟩
      · rcases List.mem_append.mp hc with hc | hc
        · exact h.notLost c hc
        · rw [List.mem_singleton.mp hc]
          exact hne
      · exact fun ev hev => absurd hev List.not_mem_nil
    | body resp =>
      constructor
      · rw [sendNewOrder_body]
        cases hanswered : answered a.assetMeta req resp nowNs with
        | none => exact h
        | some ids =>
          rw [answered, if_pos hsymbol] at hanswered
          obtain ⟨oid, -, rfl⟩ := Option.map_eq_some_iff.mp hanswered
          exact h.assign hne oid req.quantity
      · rw [sendNewOrder_events a hsymbol]
        intro ev hev
        rw [emitOrderResponse_orderId hev]
        exact hne
  · unfold HyperliquidOrderAdapter.sendNewOrder
    rw [if_pos hsymbol]
    refine ⟨h, fun ev hev => ?_⟩
    rw [List.mem_singleton.mp hev]
    exact hne

theorem Unheard.answerCancel (h : a.Unheard orderId) {clientId : Nat} (hne : clientId ≠ orderId)
    (exchOid : Nat) (reply : Option CancelResponse) (nowNs : Nat) :
    (a.answerCancel clientId exchOid reply nowNs).1.Unheard orderId ∧
      ∀ ev ∈ (a.answerCancel clientId exchOid reply nowNs).2, ev.orderId ≠ orderId := by
  have hidle : ({ a with cancelInFlight := none } : HyperliquidOrderAdapter).Unheard orderId :=
    ⟨h.unmapped, h.unregistered, h.notLost, fun x hx => absurd hx.symm (Option.some_ne_none x)⟩
  unfold HyperliquidOrderAdapter.answerCancel
  cases reply with
  | none => exact ⟨hidle, fun ev hev => absurd hev List.not_mem_nil⟩
  | some resp =>
    dsimp only
    have hevents : ∀ ev ∈ (emitCancelResponse resp clientId nowNs).2, ev.orderId ≠ orderId :=
      fun ev hev => emitCancelResponse_orderId hev ▸ hne
    split
    · refine ⟨⟨?_, h.unregistered, h.notLost, hidle.notCancelled⟩, hevents⟩
      show (a.clientToExchOid.erase clientId).lookup orderId = none
      rw [Table.lookup_erase_eq, if_neg (Ne.symm hne), h.unmapped]
    · exact ⟨hidle, hevents⟩

theorem Unheard.onReconcileTerminal (h : a.Unheard orderId) {c : Candidate}
    (hne : c.clientOrderId ≠ orderId) (r : MatchResult) (nowNs : Nat) :
    (a.onReconcileTerminal c r nowNs).1.Unheard orderId ∧
      ∀ ev ∈ (a.onReconcileTerminal c r nowNs).2, ev.orderId ≠ orderId := by
  unfold HyperliquidOrderAdapter.onReconcileTerminal
  split
  · exact ⟨h, fun ev hev => absurd hev List.not_mem_nil⟩
  cases r.kind with
  | OpenOrder | UserFill =>
    refine ⟨h.assign hne r.exchOid c.quantityE8, fun ev hev => ?_⟩
    rw [List.mem_singleton.mp hev]
    exact hne
  | None | Ambiguous =>
    refine ⟨h, fun ev hev => ?_⟩
    rw [List.mem_singleton.mp hev]
    exact hne

theorem Unheard.userFill (h : a.Unheard orderId) (fill : HyperliquidFill) (recvNs : Nat) :
    (step a (.userFill fill recvNs)).1.Unheard orderId ∧
      ∀ ev ∈ (step a (.userFill fill recvNs)).2, ev.orderId ≠ orderId := by
  show ({ a with decoder := (a.decoder.handleFill fill recvNs).1 } :
      HyperliquidOrderAdapter).Unheard orderId ∧
    ∀ ev ∈ (a.decoder.handleFill fill recvNs).2.toList, ev.orderId ≠ orderId
  cases hlookup : a.decoder.pending.lookup fill.oid with
  | none =>
    rw [HyperliquidExecDecoder.handleFill_of_none recvNs hlookup]
    exact ⟨h, fun ev hev => absurd hev List.not_mem_nil⟩
  | some po =>
    have hpo := h.unregistered fill.oid po hlookup
    refine ⟨⟨h.unmapped, fun oid po' hpo' => ?_, h.notLost, h.notCancelled⟩, ?_⟩
    · by_cases hoid : oid = fill.oid
      · -- a slice leaves the client's id as it is
        subst hoid
        rw [HyperliquidExecDecoder.lookup_handleFill_self, hlookup] at hpo'
        obtain ⟨-, hslice⟩ := Option.ite_none_left_eq_some.mp hpo'
        obtain rfl := Option.some.inj hslice
        exact hpo
      · rw [HyperliquidExecDecoder.lookup_handleFill_of_ne recvNs hoid] at hpo'
        exact h.unregistered oid po' hpo'
    · obtain ⟨ev, hout, hid, -⟩ := HyperliquidExecDecoder.handleFill_of_lookup fill recvNs hlookup
      rw [hout]
      intro ev' hev'
      rw [List.mem_singleton.mp hev', hid]
      exact hpo

/-- Whatever else is sent and comes, the order is not heard of. -/
theorem Unheard.step (h : a.Unheard orderId) {e : Event} (hother : SendsOther orderId e) :
    (step a e).1.Unheard orderId ∧ ∀ ev ∈ (step a e).2, ev.orderId ≠ orderId := by
  have hsame : a.Unheard orderId ∧ ∀ ev ∈ ([] : List ExecEvent), ev.orderId ≠ orderId :=
    ⟨h, fun ev hev => absurd hev List.not_mem_nil⟩
  cases e with
  | newOrder req reply nowNs =>
    rw [HyperliquidOrderAdapter.step]
    split
    · exact hsame
    · exact h.sendNewOrder hother reply nowNs
  | cancel req =>
    simp only [HyperliquidOrderAdapter.step]
    split
    · exact hsame
    refine ⟨?_, hsame.2⟩
    unfold sendCancel
    split
    · exact h
    next exchOid hlookup =>
      split
      · refine ⟨h.unmapped, h.unregistered, h.notLost, ?_⟩
        -- an order without a venue id is not cancelled
        rintro x hx rfl
        obtain rfl := Option.some.inj hx
        exact absurd (hlookup.symm.trans h.unmapped) (Option.some_ne_none exchOid)
      · exact h
  | cancelReply reply nowNs =>
    simp only [HyperliquidOrderAdapter.step]
    cases hflight : a.cancelInFlight with
    | none => exact hsame
    | some x => exact h.answerCancel (h.notCancelled x hflight) x.2 reply nowNs
  | reconcile openOrders userFills nowNs =>
    simp only [HyperliquidOrderAdapter.step]
    cases hcandidates : a.candidates with
    | nil => exact hsame
    | cons c rest =>
      have hrest : ({ a with candidates := rest } : HyperliquidOrderAdapter).Unheard orderId :=
        ⟨h.unmapped, h.unregistered, fun c' hc' => h.notLost c' (hcandidates ▸ List.mem_cons_of_mem c hc'),
          h.notCancelled⟩
      exact hrest.onReconcileTerminal (h.notLost c (hcandidates ▸ List.mem_cons_self)) _ nowNs
  | userFill fill recvNs => exact h.userFill fill recvNs

theorem unheard_run (h : a.Unheard orderId) {es : List Event}
    (hothers : ∀ e ∈ es, SendsOther orderId e) :
    ∀ ev ∈ Machine.outputs step a es, ev.orderId ≠ orderId := by
  have hrun : Machine.AlongRun step (fun _ e => SendsOther orderId e) a es :=
    Machine.AlongRun.of_forall_mem (fun e he _ => hothers e he) a
  exact Machine.forall_outputs_iff_alongRun.mpr
    (Machine.AlongRun.of_assumption (I := fun a => a.Unheard orderId)
      (fun a e ha he => (ha.step he).1) (fun a e ha he => (ha.step he).2) h hrun)

theorem sendNewOrder_of_silent {req : NewOrderRequest} (hsymbol : req.exchangeSymbol ∈ a.assetMeta)
    {resp : Option Json} (hsilent : Silent resp) (nowNs : Nat) :
    a.sendNewOrder req (.body (parseOrderResponse resp)) nowNs = (a, []) := by
  obtain ⟨entry, hparse, hnothing⟩ := (silent_iff resp).mpr hsilent
  unfold sendNewOrder
  rw [if_neg (not_not_intro hsymbol), hparse]
  dsimp only
  rw [emitOrderResponse_of_saysNothing hnothing]

/-- **A silent answer is the last of an order**: no event of the adapter is ever of it. -/
theorem silent_answer_last {req : NewOrderRequest} (h : a.Unheard req.orderId)
    (hsymbol : req.exchangeSymbol ∈ a.assetMeta) {resp : Option Json} (hsilent : Silent resp)
    (nowNs : Nat) {es : List Event} (hothers : ∀ e ∈ es, SendsOther req.orderId e) :
    ∀ ev ∈ Machine.outputs step a (.newOrder req (.body (parseOrderResponse resp)) nowNs :: es),
      ev.orderId ≠ req.orderId := by
  have hstep : step a (.newOrder req (.body (parseOrderResponse resp)) nowNs) = (a, []) := by
    rw [step, sendNewOrder_of_silent hsymbol hsilent, ite_self]
  rw [Machine.outputs, hstep]
  exact unheard_run h hothers

end HyperliquidOrderAdapter

end BptCore.OrderGateway
