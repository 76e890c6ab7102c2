import BptCore.OrderGateway.Adapter.ActionEncoders
import BptCore.OrderGateway.Adapter.WireDecimal
import BptCore.OrderGateway.Risk.PreTradeRiskGate

/-!
# What the wire orders say

Whether the venue can tell from an encoded order what was asked for. A reader takes the documented
fields of each venue and scales the decimals as the gateway's own decoders do, on OKX through the
contract value.

* **`OrderTerms`** — what an order asks for.
* **`OKXOrder.read_encoded`**, **`BinanceOrder.read_encoded`**, **`DeribitOrder.read_encoded`** —
  what is read of the encoded orders.
* **`printed_iff`** — the prices and quantities that survive six places.
* **`wire_order_tells_iff`** — the orders that each venue reads as they were asked for.
-/

namespace BptCore.OrderGateway

open Common (Json JsonObject)

/-- What an order asks for; a market order has no price. -/
structure OrderTerms where
  side : OrderSide
  orderType : OrderType
  tif : TimeInForce
  postOnly : Bool
  priceE8 : Option Int
  quantityE8 : Nat
  deriving DecidableEq, Repr

/-- The terms of a request. -/
def NewOrderRequest.terms (req : NewOrderRequest) : OrderTerms where
  side := req.side
  orderType := req.orderType
  tif := req.tif
  postOnly := decide (req.execInst &&& kExecInstPostOnly ≠ 0)
  priceE8 := if req.orderType = .MARKET then none else some req.price
  quantityE8 := req.quantity

/-! ## The readers -/

section Readers

-- what a market order is taken to say, which states no time in force
variable (unstated : TimeInForce)

namespace OKXOrder

def readSide (s : String) : Option OrderSide :=
  if s = "buy" then some .BUY else if s = "sell" then some .SELL else none

/-- The type, the time in force and whether the order is post-only, which are one field. -/
def readOrdType (s : String) : Option (OrderType × TimeInForce × Bool) :=
  if s = "market" then some (.MARKET, unstated, false)
  else if s = "limit" then some (.LIMIT, .GTC, false)
  else if s = "post_only" then some (.LIMIT, .GTC, true)
  else if s = "ioc" then some (.LIMIT, .IOC, false)
  else if s = "fok" then some (.LIMIT, .FOK, false)
  else none

def readPrice (arg : JsonObject) : OrderType → Option (Option Int)
  | .MARKET => some none
  | .LIMIT => do return some (truncE8 (← DecimalText.value (← arg.findString "px")))

def readArg (contractSizes : OKXActionEncoder.ContractSizes) (arg : JsonObject) :
    Option OrderTerms := do
  let instId ← arg.findString "instId"
  let side ← readSide (← arg.findString "side")
  let (orderType, tif, postOnly) ← readOrdType unstated (← arg.findString "ordType")
  let price ← readPrice arg orderType
  let sz ← DecimalText.value (← arg.findString "sz")
  return ⟨side, orderType, tif, postOnly, price, roundE8Nat (sz * contractSizes.ctVal instId)⟩

def read (contractSizes : OKXActionEncoder.ContractSizes) (msg : JsonObject) :
    Option OrderTerms :=
  match msg.find "args" with
  | some (.arr [.obj arg]) => readArg unstated contractSizes arg
  | _ => none

end OKXOrder

namespace BinanceOrder

def readSide (s : String) : Option OrderSide :=
  if s = "BUY" then some .BUY else if s = "SELL" then some .SELL else none

def readType (s : String) : Option (OrderType × Bool) :=
  if s = "MARKET" then some (.MARKET, false)
  else if s = "LIMIT" then some (.LIMIT, false)
  else if s = "LIMIT_MAKER" then some (.LIMIT, true)
  else none

def readTif (s : String) : Option TimeInForce :=
  if s = "GTC" then some .GTC else if s = "IOC" then some .IOC
  else if s = "FOK" then some .FOK else none

/-- The time in force and the price. -/
def readPriced (params : List (String × String)) :
    OrderType → Option (TimeInForce × Option Int)
  | .MARKET => some (unstated, none)
  | .LIMIT => do
    let tif ← readTif (← params.lookup "timeInForce")
    return (tif, some (truncE8 (← DecimalText.value (← params.lookup "price"))))

def read (params : List (String × String)) : Option OrderTerms := do
  let side ← readSide (← params.lookup "side")
  let (orderType, postOnly) ← readType (← params.lookup "type")
  let (tif, price) ← readPriced unstated params orderType
  let quantity ← DecimalText.value (← params.lookup "quantity")
  return ⟨side, orderType, tif, postOnly, price, truncE8Nat quantity⟩

end BinanceOrder

namespace DeribitOrder

def readSide (s : String) : Option OrderSide :=
  if s = "private/buy" then some .BUY else if s = "private/sell" then some .SELL else none

def readType (s : String) : Option OrderType :=
  if s = "market" then some .MARKET else if s = "limit" then some .LIMIT else none

def readTif (s : String) : Option TimeInForce :=
  if s = "good_til_cancelled" then some .GTC else if s = "immediate_or_cancel" then some .IOC
  else if s = "fill_or_kill" then some .FOK else none

/-- `post_only` is false when it is not there. -/
def readPostOnly (params : JsonObject) : Bool :=
  match params.find "post_only" with
  | some (.bool b) => b
  | _ => false

def readPriced (params : JsonObject) : OrderType → Option (TimeInForce × Option Int)
  | .MARKET => some (unstated, none)
  | .LIMIT => do
    let tif ← readTif (← params.findString "time_in_force")
    return (tif, some (truncE8 (← params.findNumber "price")))

def read (msg : JsonObject) : Option OrderTerms := do
  let side ← readSide (← msg.findString "method")
  let params ← (← msg.find "params").asObject
  let orderType ← readType (← params.findString "type")
  let (tif, price) ← readPriced unstated params orderType
  let amount ← params.findNumber "amount"
  return ⟨side, orderType, tif, readPostOnly params, price, truncE8Nat amount⟩

end DeribitOrder

end Readers

/-! ## What is read of the encoded orders -/

/-- What is left of a decimal with six places. -/
def sixPlaces (x : ℚ) : ℚ := round (x * 10 ^ 6) / 10 ^ 6

@[simp] theorem value_stdToString (x : ℚ) :
    DecimalText.value (stdToString x) = some (sixPlaces x) :=
  DecimalText.value_print _

variable (unstated : TimeInForce) (req : NewOrderRequest) (cloid : String)

namespace OKXOrder

variable (codes : Table String Int) (sizes : OKXActionEncoder.ContractSizes)

theorem readSide_sideStr (side : OrderSide) :
    readSide (OKXActionEncoder.sideStr side) = some side := by
  cases side <;> rfl

theorem readOrdType_market (execInst : Nat) :
    readOrdType unstated (OKXActionEncoder.ordTypeStr .MARKET execInst) =
      some (.MARKET, unstated, false) := rfl

theorem readOrdType_limit (execInst : Nat) :
    readOrdType unstated (OKXActionEncoder.ordTypeStr .LIMIT execInst) =
      some (.LIMIT, .GTC, decide (execInst &&& kExecInstPostOnly ≠ 0)) := by
  unfold OKXActionEncoder.ordTypeStr
  by_cases h : execInst &&& kExecInstPostOnly = 0
  · simp [h, readOrdType]
  · simp [h, readOrdType]

theorem read_encoded (reqId : Nat) :
    read unstated sizes
        (OKXActionEncoder.buildOrderAction (req.flaggedSpec cloid) reqId codes sizes) =
      some
        { side := req.side
          orderType := req.orderType
          tif := if req.orderType = .MARKET then unstated else .GTC
          postOnly := if req.orderType = .MARKET then false else req.terms.postOnly
          priceE8 := if req.orderType = .MARKET then none
            else some (truncE8 (sixPlaces (ofE8 req.price)))
          quantityE8 := roundE8Nat (sixPlaces (ofE8 req.quantity / sizes.ctVal req.exchangeSymbol) *
            sizes.ctVal req.exchangeSymbol) } := by
  show readArg unstated sizes (OKXActionEncoder.orderArg (req.flaggedSpec cloid) codes sizes) = _
  obtain ⟨_, _, price, quantity, side, orderType, tif, execInst, instId⟩ := req
  cases orderType <;> cases hcode : codes.lookup instId <;>
    simp [OKXActionEncoder.orderArg, OKXActionEncoder.sizeToContracts, NewOrderRequest.flaggedSpec,
      NewOrderRequest.spec, NewOrderRequest.terms, hcode, readArg, readPrice,
      JsonObject.findString, JsonObject.find, List.lookup_cons, Json.asString, readSide_sideStr,
      readOrdType_market, readOrdType_limit]

end OKXOrder

namespace BinanceOrder

theorem readSide_sideStr (side : OrderSide) :
    readSide (BinanceActionEncoder.sideStr side) = some side := by
  cases side <;> rfl

theorem readTif_tifStr (tif : TimeInForce) :
    readTif (BinanceActionEncoder.tifStr tif) = some tif := by
  cases tif <;> rfl

theorem readType_typeStr (orderType : OrderType) (execInst : Nat) :
    readType (BinanceActionEncoder.typeStr orderType execInst) =
      some (orderType,
        if orderType = .MARKET then false else decide (execInst &&& kExecInstPostOnly ≠ 0)) := by
  unfold BinanceActionEncoder.typeStr
  cases orderType with
  | MARKET => rfl
  | LIMIT =>
    by_cases h : execInst &&& kExecInstPostOnly = 0
    · simp [h, readType]
    · simp [h, readType]

theorem read_encoded :
    read unstated (BinanceActionEncoder.buildNewOrderParams (req.flaggedSpec cloid)) =
      some
        { side := req.side
          orderType := req.orderType
          tif := if req.orderType = .MARKET then unstated else req.tif
          postOnly := if req.orderType = .MARKET then false else req.terms.postOnly
          priceE8 := if req.orderType = .MARKET then none
            else some (truncE8 (sixPlaces (ofE8 req.price)))
          quantityE8 := truncE8Nat (sixPlaces (ofE8 req.quantity)) } := by
  obtain ⟨_, _, price, quantity, side, orderType, tif, execInst, symbol⟩ := req
  cases orderType <;>
    simp [BinanceActionEncoder.buildNewOrderParams, NewOrderRequest.flaggedSpec,
      NewOrderRequest.spec, NewOrderRequest.terms, read, readPriced, List.lookup_cons, readSide_sideStr,
      readType_typeStr, readTif_tifStr]

end BinanceOrder

namespace DeribitOrder

/-- The method of the request tells the side. -/
theorem readSide_method (side : OrderSide) :
    readSide (if side = .BUY then "private/buy" else "private/sell") = some side := by
  cases side <;> rfl

theorem readTif_tifStr (tif : TimeInForce) :
    readTif (DeribitActionEncoder.tifStr tif) = some tif := by
  cases tif <;> rfl

theorem readType_typeStr (orderType : OrderType) :
    readType (DeribitActionEncoder.typeStr orderType) = some orderType := by
  cases orderType <;> rfl

theorem read_buildNewOrderMsg (spec : OrderSpec) (reqId : Nat) :
    read unstated (DeribitActionEncoder.buildNewOrderMsg spec reqId) =
      some
        { side := spec.side
          orderType := spec.orderType
          tif := if spec.orderType = .MARKET then unstated else spec.tif
          postOnly := false
          priceE8 := if spec.orderType = .MARKET then none
            else some (truncE8 (DeribitActionEncoder.wirePrice spec))
          quantityE8 := spec.quantityE8 } := by
  cases htype : spec.orderType <;>
    simp [DeribitActionEncoder.buildNewOrderMsg, DeribitActionEncoder.orderParams, htype, read,
      readPriced, readPostOnly, JsonObject.findString, JsonObject.findNumber, JsonObject.find,
      List.lookup_cons, Json.asString, Json.asObject, readSide_method, readType_typeStr,
      readTif_tifStr]

theorem read_encoded (reqId : Nat) :
    read unstated (DeribitActionEncoder.buildNewOrderMsg (req.spec cloid) reqId) =
      some
        { side := req.side
          orderType := req.orderType
          tif := if req.orderType = .MARKET then unstated else req.tif
          postOnly := false
          priceE8 := if req.orderType = .MARKET then none
            else some (truncE8 (DeribitActionEncoder.wirePrice (req.spec cloid)))
          quantityE8 := req.quantity } :=
  read_buildNewOrderMsg unstated (req.spec cloid) reqId

end DeribitOrder

/-! ## The prices and quantities that survive -/

theorem truncE8_grid (r : ℚ → ℤ) (step p : ℤ) :
    truncE8 (r (ofE8 p / ofE8 step) * ofE8 step) = r ((p : ℚ) / step) * step := by
  have hratio : ofE8 p / ofE8 step = (p : ℚ) / step :=
    div_div_div_cancel_right₀ kScale_pos.ne' _ _
  have hgrid : r (ofE8 p / ofE8 step) * ofE8 step = ofE8 (r ((p : ℚ) / step) * step) := by
    rw [hratio, ofE8, ofE8, Int.cast_mul, mul_div_assoc]
  rw [hgrid, truncE8_ofE8]

/-- A price on a grid of `step` units, and no other, is read as it was. -/
theorem truncE8_grid_iff {r : ℚ → ℤ} (hr : Nearest r) {step : ℤ} (hstep : step ≠ 0) (p : ℤ) :
    truncE8 (r (ofE8 p / ofE8 step) * ofE8 step) = p ↔ step ∣ p := by
  have hcast : (step : ℚ) ≠ 0 := Int.cast_ne_zero.mpr hstep
  rw [truncE8_grid]
  calc r ((p : ℚ) / step) * step = p
      ↔ ((r ((p : ℚ) / step) : ℚ) * step = p) := by exact_mod_cast Iff.rfl
    _ ↔ ∃ k : ℤ, (p : ℚ) = k * step := hr.mul_eq_iff hcast
    _ ↔ step ∣ p := by
      constructor
      · rintro ⟨k, hk⟩
        exact ⟨k, by rw [mul_comm]; exact_mod_cast hk⟩
      · rintro ⟨k, rfl⟩
        exact ⟨k, by push_cast; rw [mul_comm]⟩

theorem sixPlaces_eq (x : ℚ) : sixPlaces x = round (x / ofE8 100) * ofE8 100 := by
  have hplace : ofE8 100 = 1 / 10 ^ 6 := by decide +kernel
  rw [sixPlaces, hplace, div_div_eq_mul_div, div_one, mul_one_div]

theorem printed_iff (p : ℤ) : truncE8 (sixPlaces (ofE8 p)) = p ↔ 100 ∣ p := by
  rw [sixPlaces_eq]
  exact truncE8_grid_iff nearest_round (by decide) p

theorem round_natCast_div_nonneg (q : Nat) {step : ℚ} (hstep : 0 < step) :
    0 ≤ round ((q : ℚ) / step) := by
  rw [round_eq]
  refine Int.floor_nonneg.mpr ?_
  have : 0 ≤ (q : ℚ) / step := div_nonneg (Nat.cast_nonneg _) hstep.le
  linarith

theorem printed_nat_iff (q : Nat) : truncE8Nat (sixPlaces (ofE8 q)) = q ↔ 100 ∣ q := by
  have hsign : 0 ≤ truncE8 (sixPlaces (ofE8 q)) := by
    rw [sixPlaces_eq, truncE8_grid]
    exact mul_nonneg (round_natCast_div_nonneg q (by norm_num)) (by norm_num)
  rw [truncE8Nat, ← Int.natCast_inj, Int.toNat_of_nonneg hsign, printed_iff]
  exact Int.natCast_dvd_natCast

/-- A size in contracts of a value is read as it was when a millionth of a contract is near
enough to it. -/
theorem contracts_iff {ctVal : ℚ} (hpos : 0 < ctVal) (q : Nat) :
    roundE8Nat (sixPlaces (ofE8 q / ctVal) * ctVal) = q ↔
      ∃ k : ℤ, -(1 / 2) ≤ k * (100 * ctVal) - q ∧ k * (100 * ctVal) - q < 1 / 2 := by
  have hstep : 0 < 100 * ctVal := by linarith
  have hmillionths : ofE8 q / ctVal * 10 ^ 6 = ((q : ℤ) : ℚ) / (100 * ctVal) := by
    rw [ofE8, kScale]
    field_simp
    ring
  have hscaled : sixPlaces (ofE8 q / ctVal) * ctVal * kScale =
      round (((q : ℤ) : ℚ) / (100 * ctVal)) * (100 * ctVal) := by
    rw [sixPlaces, hmillionths, kScale]
    ring
  have hsign : 0 ≤ ⌊round (((q : ℤ) : ℚ) / (100 * ctVal)) * (100 * ctVal) + 1 / 2⌋ := by
    have hround : (0 : ℚ) ≤ round (((q : ℤ) : ℚ) / (100 * ctVal)) :=
      Int.cast_nonneg (round_natCast_div_nonneg q hstep)
    have := mul_nonneg hround hstep.le
    exact Int.floor_nonneg.mpr (by linarith)
  rw [roundE8Nat, hscaled, ← Int.natCast_inj]
  show ((⌊round (((q : ℤ) : ℚ) / (100 * ctVal)) * (100 * ctVal) + 1 / 2⌋.toNat : Nat) : ℤ) = q ↔ _
  rw [Int.toNat_of_nonneg hsign]
  exact nearest_round.regained_iff hstep q

theorem OKXActionEncoder.ContractSizes.ctVal_pos (sizes : ContractSizes) (instId : String) :
    0 < sizes.ctVal instId := by
  unfold ctVal
  cases h : sizes.sizes.lookup instId with
  | none => exact one_pos
  | some ctVal => exact sizes.positive _ _ h

/-- The grid that an option's price is put on. -/
def optionStep (priceE8 : Int) : Int := if priceE8 < 500000 then 10000 else 50000

theorem wirePrice_iff :
    truncE8 (DeribitActionEncoder.wirePrice (req.spec cloid)) = req.price ↔
      (DeribitActionEncoder.isOption req.exchangeSymbol = true →
        optionStep req.price ∣ req.price) := by
  have htick : DeribitActionEncoder.tickForOptionPrice (ofE8 req.price) =
      ofE8 (optionStep req.price) := by
    unfold DeribitActionEncoder.tickForOptionPrice optionStep
    by_cases h : req.price < 500000
    · rw [if_pos h, if_pos (ofE8_lt_iff.mpr h)]
    · rw [if_neg h, if_neg (mt ofE8_lt_iff.mp h)]
  have hstep : optionStep req.price ≠ 0 := by
    unfold optionStep
    split <;> decide
  unfold DeribitActionEncoder.wirePrice
  show truncE8 (if DeribitActionEncoder.isOption req.exchangeSymbol = true then
    roundAway (ofE8 req.price / DeribitActionEncoder.tickForOptionPrice (ofE8 req.price)) *
      DeribitActionEncoder.tickForOptionPrice (ofE8 req.price) else ofE8 req.price) = _ ↔ _
  by_cases hoption : DeribitActionEncoder.isOption req.exchangeSymbol = true
  · rw [if_pos hoption, htick, truncE8_grid_iff nearest_roundAway hstep]
    exact ⟨fun h _ => h, fun h => h hoption⟩
  · rw [if_neg hoption, truncE8_ofE8]
    exact iff_of_true rfl fun h => absurd h hoption

/-! ## The orders that are read as they were asked for -/

/-- OKX: a limit order is GTC with a price of six places, a market order has no flag and the time
in force of one, and the contracts have six places near enough. -/
def OKXKeeps (sizes : OKXActionEncoder.ContractSizes) : Prop :=
  (req.orderType = .MARKET → req.tif = unstated ∧ req.terms.postOnly = false) ∧
    (req.orderType = .LIMIT → req.tif = .GTC ∧ 100 ∣ req.price) ∧
    ∃ k : ℤ, -(1 / 2) ≤ k * (100 * sizes.ctVal req.exchangeSymbol) - req.quantity ∧
      k * (100 * sizes.ctVal req.exchangeSymbol) - req.quantity < 1 / 2

/-- Binance: the quantity and the price of a limit order have six places. -/
def BinanceKeeps : Prop :=
  (req.orderType = .MARKET → req.tif = unstated ∧ req.terms.postOnly = false) ∧
    (req.orderType = .LIMIT → 100 ∣ req.price) ∧ 100 ∣ req.quantity

/-- Deribit: the order is not post-only, and the limit price of an option is on its tick. -/
def DeribitKeeps : Prop :=
  req.terms.postOnly = false ∧ (req.orderType = .MARKET → req.tif = unstated) ∧
    (req.orderType = .LIMIT → DeribitActionEncoder.isOption req.exchangeSymbol = true →
      optionStep req.price ∣ req.price)

theorem OKXOrder.keeps_iff (codes : Table String Int) (sizes : OKXActionEncoder.ContractSizes)
    (reqId : Nat) :
    OKXOrder.read unstated sizes
        (OKXActionEncoder.buildOrderAction (req.flaggedSpec cloid) reqId codes sizes) =
        some req.terms ↔
      OKXKeeps unstated req sizes := by
  have hquantity := contracts_iff (sizes.ctVal_pos req.exchangeSymbol) req.quantity
  rw [OKXOrder.read_encoded, OKXKeeps, ← hquantity]
  cases htype : req.orderType with
  | MARKET => simp [NewOrderRequest.terms, htype, @eq_comm _ unstated, and_assoc]
  | LIMIT => simp [NewOrderRequest.terms, htype, printed_iff, @eq_comm _ TimeInForce.GTC, and_assoc]

theorem BinanceOrder.keeps_iff :
    BinanceOrder.read unstated (BinanceActionEncoder.buildNewOrderParams (req.flaggedSpec cloid)) =
        some req.terms ↔
      BinanceKeeps unstated req := by
  rw [BinanceOrder.read_encoded, BinanceKeeps]
  cases htype : req.orderType with
  | MARKET => simp [NewOrderRequest.terms, htype, printed_nat_iff, @eq_comm _ unstated, and_assoc]
  | LIMIT => simp [NewOrderRequest.terms, htype, printed_iff, printed_nat_iff]

theorem DeribitOrder.keeps_iff (reqId : Nat) :
    DeribitOrder.read unstated (DeribitActionEncoder.buildNewOrderMsg (req.spec cloid) reqId) =
        some req.terms ↔
      DeribitKeeps unstated req := by
  have hprice := wirePrice_iff req cloid
  rw [DeribitOrder.read_encoded, DeribitKeeps]
  cases htype : req.orderType with
  | MARKET => simp [NewOrderRequest.terms, htype, @eq_comm _ unstated, and_comm]
  | LIMIT => simp [NewOrderRequest.terms, htype, hprice]

/-- **What the wire orders say.** Each of the three encoders tells its venue the order that was
asked for, side, type, time in force, post-only flag, price and quantity, exactly when the order
is of those that it keeps. -/
theorem wire_order_tells_iff (codes : Table String Int)
    (sizes : OKXActionEncoder.ContractSizes) (reqId : Nat) :
    (OKXOrder.read unstated sizes
          (OKXActionEncoder.buildOrderAction (req.flaggedSpec cloid) reqId codes sizes) =
          some req.terms ↔
        OKXKeeps unstated req sizes) ∧
      (BinanceOrder.read unstated
            (BinanceActionEncoder.buildNewOrderParams (req.flaggedSpec cloid)) =
            some req.terms ↔
        BinanceKeeps unstated req) ∧
      (DeribitOrder.read unstated
            (DeribitActionEncoder.buildNewOrderMsg (req.spec cloid) reqId) =
            some req.terms ↔
        DeribitKeeps unstated req) :=
  ⟨OKXOrder.keeps_iff unstated req cloid codes sizes reqId,
    BinanceOrder.keeps_iff unstated req cloid, DeribitOrder.keeps_iff unstated req cloid reqId⟩

/-! ## Where it goes wrong -/

namespace LostTerms

def limits : RiskSettings where
  limits := { maxOrderSizeUsd := 1000000, maxNotionalPerOrderUsd := 1000000
              maxOpenOrdersPerVenue := 10, maxOrdersPerSecond := 10 }
  maxPositionUsd := 1000000
  maxDailyLossUsd := 0
  breaker := {}

def order (exchange : ExchangeId) (tif : TimeInForce) (quantity execInst : Nat) : NewOrderEvent where
  orderId := 7
  instrumentId := 1
  exchangeId := exchange
  side := .BUY
  orderType := .LIMIT
  tif := tif
  price := 100000000
  quantity := quantity
  execInst := execInst
  exchangeSymbol := "BTC-USDT"

/-- The request of an order that the gate lets through. -/
def accepted (o : NewOrderEvent) : Option NewOrderRequest :=
  match (PreTradeRiskGate.evaluate limits {} o 0).2, (AdapterCall.sendNewOrder o).workItem with
  | none, .newOrder req => some req
  | _, _ => none

def readOKX (req : NewOrderRequest) : Option OrderTerms :=
  OKXOrder.read .GTC ⟨∅, Table.AllVals.empty _⟩
    (OKXActionEncoder.buildOrderAction (req.flaggedSpec "G7") 1 ∅ ⟨∅, Table.AllVals.empty _⟩)

def readDeribit (req : NewOrderRequest) : Option OrderTerms :=
  DeribitOrder.read .GTC (DeribitActionEncoder.buildNewOrderMsg (req.spec "G7") 1)

def readBinance (req : NewOrderRequest) : Option OrderTerms :=
  BinanceOrder.read .GTC (BinanceActionEncoder.buildNewOrderParams (req.flaggedSpec "G7"))

end LostTerms

open LostTerms in
/-- An IOC order rests on OKX, a post-only order takes on Deribit, and on Binance 0.0000004 is
nothing. -/
theorem ioc_rests_postOnly_takes_small_vanishes :
    ((accepted (order .OKX .IOC 100000000 0)).bind readOKX).map (fun t => (t.orderType, t.tif)) =
        some (.LIMIT, .GTC) ∧
      ((accepted (order .DERIBIT .GTC 100000000 kExecInstPostOnly)).bind readDeribit).map
          OrderTerms.postOnly = some false ∧
      ((accepted (order .BINANCE .GTC 40 0)).bind readBinance).map OrderTerms.quantityE8 =
        some 0 := by
  decide +kernel

end BptCore.OrderGateway
