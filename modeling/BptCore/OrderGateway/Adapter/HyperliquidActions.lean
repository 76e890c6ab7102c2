import BptCore.OrderGateway.Adapter.ActionEncoders
import BptCore.OrderGateway.Adapter.HyperliquidOrderAdapter
import Mathlib.Data.Int.Log

/-!
# The actions of the Hyperliquid adapter

An order is an object with the asset, the side, price, size and time in force; a cancel names the
asset and the venue's order id, and a modify an order id with a new object. The adapter looks the
venue id up for a cancel only: a modify goes out with the client's id, as a buy that is good till
cancelled.

* **`buildOrderObject`** and the actions around it.
* **`ModifyRun`** — an adapter that also sends modifies, with the orders it has sent.
* **`ModifyIsOwn`** — a modify names what a cancel would name, with the order's side and time in
  force.
* **`modifies_own_iff`** — the runs in which every modify does.
-/

namespace BptCore.OrderGateway

open Common (Json JsonObject)

namespace HyperliquidActionEncoder

structure AssetMeta where
  assetIdx : Int
  szDecimals : Int
  maxPxDecimals : Int
  deriving DecidableEq, Repr

inductive HlTif where
  | Gtc | Alo | Ioc
  deriving DecidableEq, Repr

def tifToString : HlTif → String
  | .Alo => "Alo"
  | .Ioc => "Ioc"
  | .Gtc => "Gtc"

theorem tifToString_injective {t t' : HlTif} (h : tifToString t = tifToString t') : t = t' := by
  cases t <;> cases t' <;> first | rfl | exact absurd h (by decide)

/-- Eight places, without the zeros at the end. -/
def floatToWire (v : ℚ) : String :=
  let digits := (DecimalText.print 8 (round (v * 10 ^ 8))).toList.reverse.dropWhile (· = '0')
  let s := String.ofList (if digits.head? = some '.' then digits.tail else digits).reverse
  if s = "-0" then "0" else s

/-- Five significant figures, and no more places than the asset has. -/
def roundPriceForAsset (price : ℚ) (asset : AssetMeta) : ℚ :=
  if price ≤ 0 then price
  else
    let intDigits := Int.log 10 price + 1
    let decimals := min (max 0 (5 - intDigits)) asset.maxPxDecimals
    let scale : ℚ := 10 ^ decimals
    roundAway (price * scale) / scale

def buildOrderObject (asset : AssetMeta) (isBuy : Bool) (price size : ℚ) (tif : HlTif) :
    JsonObject :=
  [("a", .num asset.assetIdx), ("b", .bool isBuy),
    ("p", .str (floatToWire (roundPriceForAsset price asset))), ("s", .str (floatToWire size)),
    ("r", .bool false), ("t", .obj [("limit", .obj [("tif", .str (tifToString tif))])])]

def buildOrderAction (asset : AssetMeta) (isBuy : Bool) (price size : ℚ) (tif : HlTif) :
    JsonObject :=
  [("type", .str "order"), ("orders", .arr [.obj (buildOrderObject asset isBuy price size tif)]),
    ("grouping", .str "na")]

def buildCancelAction (asset : AssetMeta) (exchOid : Nat) : JsonObject :=
  [("type", .str "cancel"),
    ("cancels", .arr [.obj [("a", .num asset.assetIdx), ("o", .num exchOid)]])]

/-- A modify request has no side, and the action is a buy. -/
def buildModifyAction (asset : AssetMeta) (clientOrExchOid : Nat) (price size : ℚ) : JsonObject :=
  [("type", .str "modify"),
    ("modifies", .arr [.obj [("oid", .num clientOrExchOid),
      ("order", .obj (buildOrderObject asset true price size .Gtc))]])]

/-! ## What an action says -/

/-- The one entry of the list that an action has. -/
def entryOf (action : JsonObject) (key : String) : Option JsonObject :=
  match action.find key with
  | some (.arr [v]) => v.asObject
  | _ => none

/-- What an order object says of the side and of the time in force. -/
def terms (order : JsonObject) : Option (Json × Json) := do
  let limit ← (← (← order.find "t").asObject).find "limit"
  some (← order.find "b", ← (← limit.asObject).find "tif")

/-- The asset and the order id that a cancel is for. -/
def cancelTarget (action : JsonObject) : Option (Json × Json) := do
  let cancel ← entryOf action "cancels"
  some (← cancel.find "a", ← cancel.find "o")

/-- The asset and the order id that a modify is for. -/
def modifyTarget (action : JsonObject) : Option (Json × Json) := do
  let modify ← entryOf action "modifies"
  let order ← (← modify.find "order").asObject
  some (← order.find "a", ← modify.find "oid")

def modifyTerms (action : JsonObject) : Option (Json × Json) := do
  let modify ← entryOf action "modifies"
  terms (← (← modify.find "order").asObject)

def orderTerms (action : JsonObject) : Option (Json × Json) := do
  terms (← entryOf action "orders")

theorem cancelTarget_build (asset : AssetMeta) (exchOid : Nat) :
    cancelTarget (buildCancelAction asset exchOid) =
      some (.num asset.assetIdx, .num exchOid) := rfl

theorem modifyTarget_build (asset : AssetMeta) (oid : Nat) (price size : ℚ) :
    modifyTarget (buildModifyAction asset oid price size) =
      some (.num asset.assetIdx, .num oid) := rfl

theorem orderTerms_build (asset : AssetMeta) (isBuy : Bool) (price size : ℚ) (tif : HlTif) :
    orderTerms (buildOrderAction asset isBuy price size tif) =
      some (.bool isBuy, .str (tifToString tif)) := rfl

theorem modifyTerms_build (asset : AssetMeta) (oid : Nat) (price size : ℚ) :
    modifyTerms (buildModifyAction asset oid price size) =
      some (.bool true, .str (tifToString .Gtc)) := rfl

end HyperliquidActionEncoder

open HyperliquidActionEncoder

/-! ## The adapter -/

namespace HyperliquidOrderAdapter

/-- Post-only first; a market order takes what it can. -/
def hlTif (req : NewOrderRequest) : HlTif :=
  if req.execInst &&& kExecInstPostOnly ≠ 0 then .Alo
  else if req.tif = .IOC ∨ req.orderType = .MARKET then .Ioc
  else .Gtc

def newOrderAction (asset : AssetMeta) (req : NewOrderRequest) : JsonObject :=
  buildOrderAction asset (req.side = .BUY) (ofE8 req.price) (ofE8 req.quantity) (hlTif req)

variable (a : HyperliquidOrderAdapter) (assets : Table String AssetMeta)

/-- The action of `do_send_cancel_blocking`, for an order with a venue id and a known symbol. -/
def cancelAction (req : CancelRequest) : Option JsonObject := do
  let exchOid ← a.clientToExchOid.lookup req.orderId
  let asset ← assets.lookup req.nativeSymbol
  some (buildCancelAction asset exchOid)

/-- The action of `do_send_modify_blocking`. -/
def modifyAction (assets : Table String AssetMeta) (req : ModifyRequest) : Option JsonObject := do
  let asset ← assets.lookup req.nativeSymbol
  some (buildModifyAction asset req.orderId (ofE8 req.newPrice) (ofE8 req.newQuantity))

end HyperliquidOrderAdapter

/-! ## Runs with modifies -/

/-- An adapter with its assets, and the request of every order that it has sent. -/
structure ModifyRun where
  assets : Table String AssetMeta
  adapter : HyperliquidOrderAdapter
  sent : Table Nat NewOrderRequest := ∅

inductive ModifyEvent where
  | adapter (e : HyperliquidOrderAdapter.Event)
  | modify (req : ModifyRequest)

namespace ModifyRun

open HyperliquidOrderAdapter

def start (assets : Table String AssetMeta) : ModifyRun where
  assets := assets
  adapter := { assetMeta := assets.keys }

variable (s : ModifyRun)

/-- The executor sends nothing while it waits for the answer to a cancel. -/
def sendModify (req : ModifyRequest) : Option JsonObject :=
  if s.adapter.cancelInFlight.isSome then none else modifyAction s.assets req

/-- The requests after an event of the adapter. -/
def sentAfter : HyperliquidOrderAdapter.Event → Table Nat NewOrderRequest
  | .newOrder req _ _ =>
    if s.adapter.cancelInFlight.isSome ∨ req.exchangeSymbol ∉ s.adapter.assetMeta then s.sent
    else s.sent.insert req.orderId req
  | .cancel _ | .cancelReply _ _ | .reconcile _ _ _ | .userFill _ _ => s.sent

/-- The actions are those of the modifies. -/
def step (s : ModifyRun) : ModifyEvent → ModifyRun × List JsonObject
  | .adapter e =>
    ({ s with adapter := (s.adapter.step e).1, sent := s.sentAfter e }, [])
  | .modify req => (s, (s.sendModify req).toList)

/-- **A modify is of its own order**: it is for what a cancel would be for now, and has the side and
the time in force that the order was sent with. -/
def ModifyIsOwn (s : ModifyRun) : ModifyEvent → Prop
  | .adapter _ => True
  | .modify req => ∀ action, s.sendModify req = some action →
    ∀ cancel, s.adapter.cancelAction s.assets ⟨req.orderId, req.nativeSymbol⟩ = some cancel →
      ∀ order, s.sent.lookup req.orderId = some order →
        modifyTarget action = cancelTarget cancel ∧
          ∀ asset, modifyTerms action = orderTerms (newOrderAction asset order)

/-- The venue's id is the client's by chance, and the order is what a modify is sent as. -/
def LooksModified (s : ModifyRun) : ModifyEvent → Prop
  | .adapter _ => True
  | .modify req => s.adapter.cancelInFlight = none → req.nativeSymbol ∈ s.assets →
    ∀ exchOid order, s.adapter.clientToExchOid.lookup req.orderId = some exchOid →
      s.sent.lookup req.orderId = some order →
        exchOid = req.orderId ∧ order.side = .BUY ∧ hlTif order = .Gtc

theorem modifyTarget_eq_iff (asset : AssetMeta) (oid exchOid : Nat) (price size : ℚ) :
    modifyTarget (buildModifyAction asset oid price size) =
        cancelTarget (buildCancelAction asset exchOid) ↔ exchOid = oid := by
  rw [modifyTarget_build, cancelTarget_build]
  simp [eq_comm]

theorem modifyTerms_eq_iff (asset asset' : AssetMeta) (oid : Nat) (price size : ℚ)
    (order : NewOrderRequest) :
    modifyTerms (buildModifyAction asset oid price size) =
        orderTerms (newOrderAction asset' order) ↔ order.side = .BUY ∧ hlTif order = .Gtc := by
  rw [modifyTerms_build, newOrderAction, orderTerms_build]
  constructor
  · intro h
    simp only [Option.some.injEq, Prod.mk.injEq, Json.bool.injEq, Json.str.injEq] at h
    exact ⟨of_decide_eq_true h.1.symm, (tifToString_injective h.2).symm⟩
  · rintro ⟨hside, htif⟩
    rw [hside, htif]
    rfl

theorem sendModify_eq_some_iff {s : ModifyRun} {req : ModifyRequest} {action : JsonObject} :
    s.sendModify req = some action ↔
      s.adapter.cancelInFlight = none ∧ ∃ asset, s.assets.lookup req.nativeSymbol = some asset ∧
        buildModifyAction asset req.orderId (ofE8 req.newPrice) (ofE8 req.newQuantity) =
          action := by
  rw [sendModify, modifyAction]
  cases s.adapter.cancelInFlight with
  | some c => simp
  | none => simp [Option.bind_eq_some_iff]

theorem cancelAction_eq_some_iff {a : HyperliquidOrderAdapter} {assets : Table String AssetMeta}
    {req : CancelRequest} {action : JsonObject} :
    a.cancelAction assets req = some action ↔
      ∃ exchOid asset, a.clientToExchOid.lookup req.orderId = some exchOid ∧
        assets.lookup req.nativeSymbol = some asset ∧ buildCancelAction asset exchOid = action := by
  simp [cancelAction, Option.bind_eq_some_iff]

theorem modifyIsOwn_iff (s : ModifyRun) (e : ModifyEvent) :
    s.ModifyIsOwn e ↔ s.LooksModified e := by
  cases e with
  | adapter e => exact Iff.rfl
  | modify req =>
    constructor
    · intro h hidle hsym exchOid order hoid hsent
      obtain ⟨asset, hasset⟩ := Option.isSome_iff_exists.mp (AList.lookup_isSome.mpr hsym)
      have hown := h _ (sendModify_eq_some_iff.mpr ⟨hidle, asset, hasset, rfl⟩) _
        (cancelAction_eq_some_iff.mpr ⟨exchOid, asset, hoid, hasset, rfl⟩) order hsent
      exact ⟨(modifyTarget_eq_iff ..).mp hown.1, (modifyTerms_eq_iff ..).mp (hown.2 asset)⟩
    · intro h action haction cancel hcancel order hsent
      obtain ⟨hidle, asset, hasset, rfl⟩ := sendModify_eq_some_iff.mp haction
      obtain ⟨exchOid, asset', hoid, hasset', rfl⟩ := cancelAction_eq_some_iff.mp hcancel
      -- both actions look up one symbol
      obtain rfl : asset = asset' := Option.some.inj (hasset.symm.trans hasset')
      obtain ⟨hid, hterms⟩ := h hidle (Table.mem_of_lookup hasset) exchOid order hoid hsent
      exact ⟨(modifyTarget_eq_iff ..).mpr hid, fun _ => (modifyTerms_eq_iff ..).mpr hterms⟩

/-- **When modifies are of their own orders**: in the runs in which every modify is for a buy that
is good till cancelled and whose venue id is the client's. -/
theorem modifies_own_iff (assets : Table String AssetMeta) (events : List ModifyEvent) :
    Machine.AlongRun step ModifyIsOwn (start assets) events ↔
      Machine.AlongRun step LooksModified (start assets) events :=
  Machine.alongRun_iff_of_kept (J := fun _ => True) (fun _ _ _ _ => trivial)
    (fun s e _ => modifyIsOwn_iff s e) trivial events

def btc : Table String AssetMeta := AList.singleton "BTC" ⟨3, 5, 1⟩

def sellOrder : NewOrderRequest where
  orderId := 8
  instrumentId := 100103
  price := 7219800000000
  quantity := 20000
  side := .SELL
  orderType := .LIMIT
  tif := .GTC
  execInst := 0
  exchangeSymbol := "BTC"

/-- The venue calls order 8 123, and the modify is of whatever it calls 8, as a buy. -/
theorem not_modifies_own_sell :
    ¬ Machine.AlongRun step ModifyIsOwn (start btc)
      [.adapter (.newOrder sellOrder (.body (.parsed "ok" (some { resting := some (some 123) }))) 0),
        .modify ⟨8, 7219900000000, 20000, "BTC"⟩] := by
  intro h
  have hown := h.2.1 _ (by rfl) _ (by rfl) sellOrder (by rfl)
  exact absurd ((modifyTarget_eq_iff ..).mp hown.1) (by decide)

end ModifyRun

end BptCore.OrderGateway
