import BptCore.Common.Util.Json
import BptCore.OrderGateway.Adapter.HyperliquidReconciler

/-!
# The reports that the reconciler reads

Open orders and fills as the documents that the venue sends. The entries that have the shape of a
lost order are counted, and two of a report are ambiguous, of whatever orders they are: an order
that was executed in two slices is not found.

* **`tryMatch`** — what two reports say of a lost order.
* **`tryMatch_eq`** — for times within range it is the match of the entries' fields.
* **`tryMatch_perm`** — the order of the entries does not matter.
* **`MatchesByOid`** — an answer by the orders that the entries are of.
* **`matchesByOid_iff`** — it is one as long as no report has two entries of one order alone.
-/

namespace BptCore.OrderGateway

open Common (Json JsonObject stod)

namespace HyperliquidReports

open HyperliquidReconciler (sideMatches)

/-! ## The entries -/

def coinOf (o : JsonObject) : String := (o.findString "coin").getD ""

/-- 0 for what is no number. -/
def parseDecimalString (o : JsonObject) (key : String) : ℚ :=
  ((o.findString key).bind stod).getD 0

def decimalE8 (o : JsonObject) (key : String) : Int := roundE8 (parseDecimalString o key)

/-- The milliseconds of `time` in nanoseconds, in the arithmetic of 64 bits. -/
def timeNs (o : JsonObject) : Option Nat :=
  ((o.find "time").bind Json.toInt64).map fun ms => (ms * 1000000 % 2 ^ 64).toNat

/-- The venue's id of the order that the entry is of. -/
def oidOf (o : JsonObject) : Option Nat :=
  (o.find "oid").bind fun v => v.toUInt64.or (v.toInt64.map fun n => (n % 2 ^ 64).toNat)

def getOid (o : JsonObject) : Nat := (oidOf o).getD 0

/-- `static_cast<int64_t>` of the quantity. -/
def signedQuantity (c : Candidate) : Int := (c.quantityE8 : Int).bmod (2 ^ 64)

def openOrderMatches (o : JsonObject) (c : Candidate) (priceTickE8 : Int) : Bool :=
  coinOf o = c.exchangeSymbol && sideMatches (o.findString "side") c.side &&
    decimalE8 o "sz" = signedQuantity c &&
    |decimalE8 o "limitPx" - c.priceE8| ≤ priceTickE8

def userFillMatches (o : JsonObject) (c : Candidate) (priceTickE8 : Int) : Bool :=
  coinOf o = c.exchangeSymbol && sideMatches (o.findString "side") c.side &&
    ((timeNs o).any fun time => c.sentNs ≤ (time + 1000000000) % 2 ^ 64) &&
    |decimalE8 o "px" - c.priceE8| ≤ priceTickE8 &&
    0 < decimalE8 o "sz" && decimalE8 o "sz" ≤ signedQuantity c

/-! ## The match -/

/-- The fills and the open orders that have the shape decide. -/
def resolve (fills orders : List JsonObject) : MatchResult :=
  if 1 < fills.length ∨ 1 < orders.length then { kind := .Ambiguous }
  else
    match fills with
    | fill :: _ =>
      { kind := .UserFill
        exchOid := getOid fill
        fillPriceE8 := decimalE8 fill "px"
        fillFeeE8 := decimalE8 fill "fee"
        fillQtyE8 := (decimalE8 fill "sz").toNat
        fillTimeNs := (timeNs fill).getD 0 }
    | [] =>
      match orders with
      | order :: _ => { kind := .OpenOrder, exchOid := getOid order }
      | [] => {}

/-- The entries of a report are its objects. -/
def entries (report : List Json) : List JsonObject := report.filterMap Json.asObject

variable (c : Candidate) (openOrders userFills : List Json) (priceTickE8 : Int)

def matchingFills : List JsonObject := (entries userFills).filter (userFillMatches · c priceTickE8)

def matchingOrders : List JsonObject :=
  (entries openOrders).filter (openOrderMatches · c priceTickE8)

def tryMatch : MatchResult :=
  resolve (matchingFills c userFills priceTickE8) (matchingOrders c openOrders priceTickE8)

/-! ## In terms of the entries' fields -/

def readOpenOrder (o : JsonObject) : HyperliquidOpenOrder where
  coin := o.findString "coin"
  side := o.findString "side"
  sz := (o.findString "sz").bind stod
  limitPx := (o.findString "limitPx").bind stod
  oid := oidOf o

def readUserFill (o : JsonObject) : HyperliquidUserFill where
  coin := o.findString "coin"
  side := o.findString "side"
  px := (o.findString "px").bind stod
  sz := (o.findString "sz").bind stod
  fee := (o.findString "fee").bind stod
  time := ((o.find "time").bind Json.toInt64).map Int.toNat
  oid := oidOf o

/-- The time of the entry is one that 64 bits hold in nanoseconds, the skew included. -/
def TimeInRange (o : JsonObject) : Prop :=
  ∀ ms, (o.find "time").bind Json.toInt64 = some ms →
    0 ≤ ms ∧ ms * 1000000 + 1000000000 < 2 ^ 64

theorem timeNs_of_inRange {o : JsonObject} (h : TimeInRange o) :
    timeNs o = (readUserFill o).time.map (· * 1000000) := by
  show _ = (((o.find "time").bind Json.toInt64).map Int.toNat).map (· * 1000000)
  unfold timeNs
  cases htime : (o.find "time").bind Json.toInt64 with
  | none => rfl
  | some ms =>
    obtain ⟨hnonneg, hlt⟩ := h ms htime
    have hmod : ms * 1000000 % 2 ^ 64 = ms * 1000000 := Int.emod_eq_of_lt (by omega) (by omega)
    rw [Option.map_some, hmod, Option.map_some, Option.map_some]
    exact congrArg some (by omega)

variable {c openOrders userFills priceTickE8}

theorem signedQuantity_eq (hquantity : c.quantityE8 < 2 ^ 63) :
    signedQuantity c = c.quantityE8 := by
  unfold signedQuantity
  rw [Int.bmod_eq_of_le] <;> omega

theorem abs_le_iff_natAbs (htick : 0 ≤ priceTickE8) (x : Int) :
    |x| ≤ priceTickE8 ↔ x.natAbs ≤ priceTickE8.toNat := by
  rw [Int.abs_eq_natAbs]
  omega

theorem openOrderMatches_eq (hquantity : c.quantityE8 < 2 ^ 63) (htick : 0 ≤ priceTickE8)
    (o : JsonObject) :
    openOrderMatches o c priceTickE8 =
      HyperliquidReconciler.openOrderMatches (readOpenOrder o) c priceTickE8 := by
  unfold openOrderMatches HyperliquidReconciler.openOrderMatches
  rw [signedQuantity_eq hquantity]
  simp only [abs_le_iff_natAbs htick]
  rfl

theorem userFillMatches_eq (hquantity : c.quantityE8 < 2 ^ 63) (htick : 0 ≤ priceTickE8)
    {o : JsonObject} (htime : TimeInRange o) :
    userFillMatches o c priceTickE8 =
      HyperliquidReconciler.userFillMatches (readUserFill o) c priceTickE8 := by
  unfold userFillMatches HyperliquidReconciler.userFillMatches
  rw [signedQuantity_eq hquantity, timeNs_of_inRange htime]
  simp only [abs_le_iff_natAbs htick]
  cases hms : (readUserFill o).time with
  | none => rfl
  | some ms =>
    have hlt : ms * 1000000 + 1000000000 < 2 ^ 64 := by
      obtain ⟨n, hn, rfl⟩ := Option.map_eq_some_iff.mp hms
      have hrange := htime n hn
      omega
    rw [Option.map_some, Option.any_some, Nat.mod_eq_of_lt hlt]
    rfl

/-- **The match of the entries' fields**, for times, a quantity and a tick in range. -/
theorem tryMatch_eq (hquantity : c.quantityE8 < 2 ^ 63) (htick : 0 ≤ priceTickE8)
    (htimes : ∀ o ∈ entries userFills, TimeInRange o) :
    tryMatch c openOrders userFills priceTickE8 =
      HyperliquidReconciler.tryMatch c ((entries openOrders).map readOpenOrder)
        ((entries userFills).map readUserFill) priceTickE8 := by
  have hfills : ((entries userFills).map readUserFill).filter
      (HyperliquidReconciler.userFillMatches · c priceTickE8) =
        (matchingFills c userFills priceTickE8).map readUserFill := by
    rw [List.filter_map]
    exact congrArg _ (List.filter_congr fun o ho =>
      (userFillMatches_eq hquantity htick (htimes o ho)).symm)
  have horders : ((entries openOrders).map readOpenOrder).filter
      (HyperliquidReconciler.openOrderMatches · c priceTickE8) =
        (matchingOrders c openOrders priceTickE8).map readOpenOrder := by
    rw [List.filter_map]
    exact congrArg _ (List.filter_congr fun o _ =>
      (openOrderMatches_eq hquantity htick o).symm)
  have htime : ∀ fill ∈ matchingFills c userFills priceTickE8, TimeInRange fill := fun fill hfill =>
    htimes fill (List.mem_filter.mp hfill).1
  unfold tryMatch resolve HyperliquidReconciler.tryMatch
  rw [hfills, horders]
  simp only [List.length_map]
  split
  · rfl
  · cases hmatch : matchingFills c userFills priceTickE8 with
    | nil => cases matchingOrders c openOrders priceTickE8 <;> rfl
    | cons fill rest =>
      have hns : (timeNs fill).getD 0 = (readUserFill fill).time.getD 0 * 1000000 := by
        rw [timeNs_of_inRange (htime fill (hmatch ▸ List.mem_cons_self))]
        cases (readUserFill fill).time with
        | none => rfl
        | some ms => rfl
      dsimp only [List.map_cons]
      rw [hns]
      rfl

/-! ## The order of the entries -/

theorem resolve_perm {fills fills' orders orders' : List JsonObject} (hfills : fills'.Perm fills)
    (horders : orders'.Perm orders) : resolve fills' orders' = resolve fills orders := by
  unfold resolve
  rw [hfills.length_eq, horders.length_eq]
  split
  · rfl
  next hfew =>
    rw [not_or, not_lt, not_lt] at hfew
    -- a list of one entry has one order
    have hone : ∀ {l l' : List JsonObject}, l.length ≤ 1 → l'.Perm l → l' = l := by
      intro l l' hlen hperm
      match l with
      | [] => exact hperm.eq_nil
      | [o] => exact List.perm_singleton.mp hperm
    rw [hone hfew.1 hfills, hone hfew.2 horders]

/-- **Any order of the entries** gives the same result. -/
theorem tryMatch_perm {openOrders' userFills' : List Json} (horders : openOrders'.Perm openOrders)
    (hfills : userFills'.Perm userFills) :
    tryMatch c openOrders' userFills' priceTickE8 = tryMatch c openOrders userFills priceTickE8 :=
  resolve_perm ((hfills.filterMap _).filter _) ((horders.filterMap _).filter _)

/-! ## Orders and entries -/

/-- What entries of a fill report and an order report that have the shape are to come to: only two
orders are ambiguous, and one order is found. -/
structure ByOid (fills orders : List JsonObject) (r : MatchResult) : Prop where
  ambiguous : r.kind = .Ambiguous → ∃ e ∈ fills ++ orders, ∃ e' ∈ fills ++ orders,
    ∃ x y, oidOf e = some x ∧ oidOf e' = some y ∧ x ≠ y
  found : ∀ x, fills ++ orders ≠ [] → (∀ e ∈ fills ++ orders, oidOf e = some x) →
    (r.kind = .UserFill ∨ r.kind = .OpenOrder) ∧ r.exchOid = x

/-- Entries of two orders. -/
def TwoOids (es : List JsonObject) : Prop :=
  ∃ e ∈ es, ∃ e' ∈ es, ∃ x y, oidOf e = some x ∧ oidOf e' = some y ∧ x ≠ y

theorem byOid_iff (fills orders : List JsonObject) :
    ByOid fills orders (resolve fills orders) ↔
      (fills.length ≤ 1 ∧ orders.length ≤ 1) ∨ TwoOids (fills ++ orders) := by
  by_cases hfew : fills.length ≤ 1 ∧ orders.length ≤ 1
  · refine iff_of_true ?_ (.inl hfew)
    unfold resolve
    rw [if_neg (by omega)]
    have hoid : ∀ {e : JsonObject} {x : Nat}, oidOf e = some x → getOid e = x := fun h => by
      rw [getOid, h, Option.getD_some]
    match fills, orders with
    | fill :: _, _ =>
      exact ⟨fun h => MatchKind.noConfusion h, fun x _ hall =>
        ⟨.inl rfl, hoid (hall fill (List.mem_append_left _ List.mem_cons_self))⟩⟩
    | [], order :: _ =>
      exact ⟨fun h => MatchKind.noConfusion h, fun x _ hall =>
        ⟨.inr rfl, hoid (hall order (List.mem_append_right _ List.mem_cons_self))⟩⟩
    | [], [] => exact ⟨fun h => MatchKind.noConfusion h, fun x hne => absurd rfl hne⟩
  · -- an ambiguous result is right for two orders only
    have hambiguous : resolve fills orders = { kind := .Ambiguous } := by
      unfold resolve
      rw [if_pos (by omega)]
    rw [hambiguous, or_iff_right hfew]
    constructor
    · exact fun h => h.ambiguous rfl
    · rintro ⟨e, he, e', he', x, y, hx, hy, hne⟩
      refine ⟨fun _ => ⟨e, he, e', he', x, y, hx, hy, hne⟩, fun z _ hall => ?_⟩
      rw [hall e he] at hx
      rw [hall e' he'] at hy
      exact absurd ((Option.some.inj hx).symm.trans (Option.some.inj hy)) hne

/-- **A match by orders**: any order of the entries gives the same answer, and the answer goes by
the orders that they are of. -/
structure MatchesByOid (c : Candidate) (openOrders userFills : List Json) (priceTickE8 : Int) :
    Prop where
  anyOrder : ∀ openOrders' userFills' : List Json, openOrders'.Perm openOrders →
    userFills'.Perm userFills →
      (tryMatch c openOrders' userFills' priceTickE8).kind =
          (tryMatch c openOrders userFills priceTickE8).kind ∧
        (tryMatch c openOrders' userFills' priceTickE8).exchOid =
          (tryMatch c openOrders userFills priceTickE8).exchOid
  byOid : ByOid (matchingFills c userFills priceTickE8) (matchingOrders c openOrders priceTickE8)
    (tryMatch c openOrders userFills priceTickE8)

/-- **When the match goes by orders**: when no report has two entries of the shape, or when two
orders have entries of it. -/
theorem matchesByOid_iff (c : Candidate) (openOrders userFills : List Json) (priceTickE8 : Int) :
    MatchesByOid c openOrders userFills priceTickE8 ↔
      ((matchingFills c userFills priceTickE8).length ≤ 1 ∧
          (matchingOrders c openOrders priceTickE8).length ≤ 1) ∨
        TwoOids (matchingFills c userFills priceTickE8 ++
          matchingOrders c openOrders priceTickE8) := by
  rw [← byOid_iff]
  refine ⟨fun h => h.byOid, fun h => ⟨fun openOrders' userFills' horders hfills => ?_, h⟩⟩
  rw [tryMatch_perm horders hfills]
  exact ⟨rfl, rfl⟩

/-- A buy of 0.0002 BTC, sent at the time of its fills. -/
def slicedOrder : Candidate where
  clientOrderId := 42
  instrumentId := 100103
  side := .BUY
  orderType := .LIMIT
  priceE8 := 7219800000000
  quantityE8 := 20000
  exchangeSymbol := "BTC"
  sentNs := 1700000000000000000

/-- One slice of it, of 0.0001 BTC. -/
def slice : Json :=
  .obj [("coin", .str "BTC"), ("side", .str "B"), ("sz", .str "0.0001"), ("px", .str "72198.0"),
    ("fee", .str "0.0005"), ("time", .num 1700000000000), ("oid", .num 123)]

/-- An order that was executed in two slices is ambiguous. -/
theorem not_matchesByOid_sliced : ¬ MatchesByOid slicedOrder [] [slice, slice] 100000000 := by
  intro h
  obtain ⟨hkind, -⟩ := h.byOid.found 123 (List.ne_nil_of_length_pos (by decide +kernel))
    (by decide +kernel)
  exact absurd hkind (by decide +kernel)

end HyperliquidReports

end BptCore.OrderGateway
