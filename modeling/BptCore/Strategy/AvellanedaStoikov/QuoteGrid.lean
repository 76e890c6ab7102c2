import BptCore.Lib.Rounding
import BptCore.Strategy.AvellanedaStoikov.QuoteDesk
import Mathlib.Data.Rat.Floor

/-!
# Quotes on the grid of an instrument

A quote is rounded to a tick on its passive side first, and then again, to the aggressive side, by
the pre-flight checks of every order; its quantity goes down to whole lots, but never below one.

* **`quotePrice_spec`** — the passive tick.
* **`normalise_passive`** — the second rounding of the price finds it on the grid.
* **`quotes_onGrid`** — what is passed on of a quote and of its replacement, and when nothing is.
-/

namespace BptCore.Strategy.QuoteDesk

open Grid

/-- The instruments have tick and lot sizes. -/
def HasGrid (cache : InstrumentCache) : Prop :=
  ∀ id, ∀ inst ∈ cache id, 0 < inst.tickSize ∧ 0 < inst.lotSize

/-- The price is no more aggressive than the one asked for. -/
def Passive (side : OrderSide) (asked price : ℚ) : Prop :=
  match side with
  | .BUY => price ≤ asked
  | .SELL => asked ≤ price

/-- A price on the passive tick: a multiple of the tick, not beyond the price asked for, and less
than a tick away from it. -/
structure OnPassiveTick (tick : ℚ) (side : OrderSide) (asked price : ℚ) : Prop where
  multiple : IsMultiple tick price
  passive : Passive side asked price
  near : |asked - price| < tick

/-- A quantity in whole lots: the one asked for rounded down, or one lot when less is asked for. -/
structure InLots (lot asked quantity : ℚ) : Prop where
  multiple : IsMultiple lot quantity
  positive : 0 < quantity
  within : lot ≤ asked → quantity ≤ asked ∧ asked < quantity + lot
  oneLot : 0 < asked → asked < lot → quantity = lot

theorem rat_ceil_eq (x : ℚ) : x.ceil = ⌈x⌉ :=
  eq_of_forall_ge_iff fun _ => Rat.ceil_le_iff.trans Int.ceil_le.symm

variable {env : Surroundings} {instrumentId : Nat} {inst : Instrument}

section Price

variable (hinst : env.cache instrumentId = some inst) (htick : 0 < inst.tickSize)
include hinst htick

theorem quotePrice_eq (side : OrderSide) (price : ℚ) :
    quotePrice env instrumentId side price =
      match side with
      | .BUY => roundDown inst.tickSize price
      | .SELL => roundUp inst.tickSize price := by
  unfold quotePrice
  rw [hinst]
  dsimp only
  rw [if_pos htick]
  cases side with
  | BUY => rfl
  | SELL =>
    dsimp only
    rw [roundUp, rat_ceil_eq]

theorem quotePrice_spec (side : OrderSide) (price : ℚ) :
    OnPassiveTick inst.tickSize side price (quotePrice env instrumentId side price) := by
  rw [quotePrice_eq hinst htick]
  cases side with
  | BUY =>
    obtain ⟨hle, hlt⟩ := roundDown_spec htick price
    refine ⟨isMultiple_roundDown _ _, hle, ?_⟩
    rw [abs_of_nonneg (sub_nonneg.mpr hle)]
    exact sub_lt_iff_lt_add'.mpr hlt
  | SELL =>
    obtain ⟨hle, hlt⟩ := roundUp_spec htick price
    refine ⟨isMultiple_roundUp _ _, hle, ?_⟩
    rw [abs_of_nonpos (sub_nonpos.mpr hle), neg_sub]
    exact sub_lt_iff_lt_add'.mpr hlt

end Price

/-- The lots that the pre-flight checks make of a quantity. -/
def inLots (lot quantity : ℚ) : ℚ := max (roundDown lot quantity) lot

theorem inLots_spec {lot : ℚ} (hlot : 0 < lot) (asked : ℚ) : InLots lot asked (inLots lot asked) := by
  unfold inLots
  have hmultiple : IsMultiple lot (max (roundDown lot asked) lot) := by
    rcases max_choice (roundDown lot asked) lot with hmax | hmax
    · rw [hmax]
      exact isMultiple_roundDown _ _
    · rw [hmax]
      exact isMultiple_self lot
  refine ⟨hmultiple, lt_max_of_lt_right hlot, fun hwhole => ?_, fun _ hless => ?_⟩
  · rw [max_eq_left (step_le_roundDown hlot hwhole)]
    exact roundDown_spec hlot asked
  · exact max_eq_right (roundDown_lt_step hlot hless).le

/-- The pre-flight checks of a price that is on the grid already. -/
theorem normalise_passive (hinst : env.cache instrumentId = some inst)
    (htick : 0 < inst.tickSize) (hlot : 0 < inst.lotSize) (side : OrderSide) {price : ℚ}
    (hprice : IsMultiple inst.tickSize price) (qty : ℚ) :
    normaliseAndValidate env.cache instrumentId side .LIMIT price qty =
      if inst.status = .ACTIVE ∧ 0 < price then some (price, inLots inst.lotSize qty, inst.symbol)
      else none := by
  -- on the grid the aggressive rounding has nothing left to do
  have hup : (price / inst.tickSize).ceil * inst.tickSize = price := by
    rw [rat_ceil_eq]
    exact roundUp_of_isMultiple htick hprice
  have hdown : (price / inst.tickSize).floor * inst.tickSize = price :=
    roundDown_of_isMultiple htick hprice
  have hlimit : OrderType.LIMIT ≠ .MARKET := by decide
  have hchecks : normaliseAndValidate env.cache instrumentId side .LIMIT price qty =
      if inst.status ≠ .ACTIVE then none
      else if inLots inst.lotSize qty ≤ 0 then none
      else if OrderType.LIMIT ≠ .MARKET ∧ price ≤ 0 then none
      else some (price, inLots inst.lotSize qty, inst.symbol) := by
    unfold normaliseAndValidate
    rw [hinst]
    dsimp only
    rw [if_pos (show OrderType.LIMIT ≠ .MARKET ∧ inst.tickSize > 0 from ⟨hlimit, htick⟩),
      if_pos hlot]
    cases side with
    | BUY =>
      dsimp only
      rw [hup]
      rfl
    | SELL =>
      dsimp only
      rw [hdown]
      rfl
  -- one lot at least goes out, so that the check of the quantity refuses nothing
  rw [hchecks, if_neg (not_le.mpr (inLots_spec hlot qty).positive)]
  by_cases hactive : inst.status = .ACTIVE
  · rw [if_neg (not_not.mpr hactive)]
    by_cases hpos : 0 < price
    · rw [if_neg (fun h => not_le.mpr hpos h.2), if_pos ⟨hactive, hpos⟩]
    · rw [if_pos ⟨hlimit, not_lt.mp hpos⟩, if_neg (fun h => hpos h.2)]
  · rw [if_pos hactive, if_neg (fun h => hactive h.1)]

/-! ## The calls -/

variable (d : QuoteDesk) (exchangeId : ExchangeId) (side : OrderSide) (price qty : ℚ)
  (tag : OrderTag)

/-- What a quote sends: nothing for an instrument that is not traded or a price that rounds to
nothing, else the order at the passive tick and in whole lots. -/
theorem sendQuote_sent (hinst : env.cache instrumentId = some inst) (htick : 0 < inst.tickSize)
    (hlot : 0 < inst.lotSize) :
    (d.sendQuote env instrumentId exchangeId side price qty tag).2.2 =
      if inst.status = .ACTIVE ∧ 0 < quotePrice env instrumentId side price then
        [.newOrder (({ nextOrderId := d.nextOrderId } : OrderSends).outbound
          { instrumentId := instrumentId, exchangeId := some exchangeId, side := side
            type := .LIMIT, tif := .GTC, price := quotePrice env instrumentId side price
            qty := qty, postOnly := true }
          (quotePrice env instrumentId side price) (inLots inst.lotSize qty) inst.symbol)]
      else [] := by
  have honTick := (quotePrice_spec hinst htick side price).multiple
  unfold sendQuote sendNewOrder
  dsimp only
  rw [normalise_passive hinst htick hlot side honTick qty]
  by_cases hpasses : inst.status = .ACTIVE ∧ 0 < quotePrice env instrumentId side price
  · rw [if_pos hpasses, if_pos hpasses]
    dsimp only
    split <;> rfl
  · rw [if_neg hpasses, if_neg hpasses]

/-- An instrument without refdata is not quoted. -/
theorem sendQuote_unknown (hnone : env.cache instrumentId = none) :
    (d.sendQuote env instrumentId exchangeId side price qty tag).2.2 = [] := by
  unfold sendQuote sendNewOrder normaliseAndValidate
  dsimp only
  rw [hnone]

/-- What is passed on of a quote: an order at a price on the passive tick, in whole lots. -/
def PassedOn (env : Surroundings) (instrumentId : Nat) (side : OrderSide) (price qty : ℚ)
    (order : OutboundNewOrder) : Prop :=
  ∃ inst, env.cache instrumentId = some inst ∧ inst.status = .ACTIVE ∧
    ∃ price' quantity, OnPassiveTick inst.tickSize side price price' ∧ 0 < price' ∧
      InLots inst.lotSize qty quantity ∧
      order.price = roundE8 price' ∧ order.quantity = (roundE8 quantity).toNat

/-- **Quotes are on the grid.** Where instruments have tick and lot sizes, what is passed on of a
quote is at a positive multiple of the tick, within a tick of the price asked for and not more
aggressive, and in whole lots: rounded down, or one lot when less than that is asked for. A quote of
a positive quantity is refused exactly when the instrument is unknown or not active, or the price
comes to nothing. The new price of a live quote is rounded in the same way. -/
theorem quotes_onGrid (hgrid : HasGrid env.cache) :
    (∀ call ∈ (d.sendQuote env instrumentId exchangeId side price qty tag).2.2,
      ∃ order, call = .newOrder order ∧ PassedOn env instrumentId side price qty order) ∧
    (0 < qty → ((d.sendQuote env instrumentId exchangeId side price qty tag).2.2 = [] ↔
      ∀ inst ∈ env.cache instrumentId, inst.status = .ACTIVE →
        quotePrice env instrumentId side price ≤ 0)) ∧
    ∀ handle, ∀ call ∈ d.modifyQuote env handle price qty,
      ∃ s modify, handle.bind d.om.lookup.lookup = some s ∧ s.status.live ∧
        call = .modify modify ∧ ∀ inst ∈ env.cache s.instrumentId,
          ∃ price', OnPassiveTick inst.tickSize s.side price price' ∧
            modify.newPrice = roundE8 price' := by
  refine ⟨fun call hcall => ?_, fun _ => ?_, fun handle call hcall => ?_⟩
  · cases hinst : env.cache instrumentId with
    | none =>
      rw [d.sendQuote_unknown exchangeId side price qty tag hinst] at hcall
      exact absurd hcall List.not_mem_nil
    | some inst =>
      obtain ⟨htick, hlot⟩ := hgrid instrumentId inst hinst
      rw [d.sendQuote_sent exchangeId side price qty tag hinst htick hlot] at hcall
      split at hcall
      · next hpasses =>
        exact ⟨_, List.mem_singleton.mp hcall, inst, hinst, hpasses.1, _, _,
          quotePrice_spec hinst htick side price, hpasses.2, inLots_spec hlot qty, rfl, rfl⟩
      · exact absurd hcall List.not_mem_nil
  · cases hinst : env.cache instrumentId with
    | none =>
      refine iff_of_true (d.sendQuote_unknown exchangeId side price qty tag hinst) ?_
      exact fun inst hmem => absurd hmem.symm (Option.some_ne_none inst)
    | some inst =>
      obtain ⟨htick, hlot⟩ := hgrid instrumentId inst hinst
      rw [d.sendQuote_sent exchangeId side price qty tag hinst htick hlot]
      split
      · next hpasses =>
        refine iff_of_false (List.cons_ne_nil _ _) fun hrefused => ?_
        exact not_le.mpr hpasses.2 (hrefused inst rfl hpasses.1)
      · next hrefused =>
        refine iff_of_true rfl fun other hother hactive => ?_
        obtain rfl : inst = other := Option.some.inj hother
        exact not_lt.mp fun hpos => hrefused ⟨hactive, hpos⟩
  · unfold modifyQuote at hcall
    split at hcall
    · next s hs =>
      split at hcall
      · next hlive =>
        refine ⟨s, _, hs, hlive, List.mem_singleton.mp hcall, fun inst hinst => ?_⟩
        exact ⟨_, quotePrice_spec hinst (hgrid _ inst hinst).1 s.side price, rfl⟩
      · exact absurd hcall List.not_mem_nil
    · exact absurd hcall List.not_mem_nil

/-- An option whose lot is a tenth of a contract, for the instrument of any id. -/
def tenthLot : Surroundings where
  cache id := some
    { instrumentId := id, symbol := "BTC-C", exchange := "DERIBIT", baseCurrency := "BTC"
      quoteCurrency := "BTC", type := .OPTION, status := .ACTIVE, lotSize := 1 / 10
      tickSize := 1 / 2, contractSize := 1, expiryDate := 0, optionSide := .CALL
      strikePrice := 0 }
  accepts _ := true
  makerBps := none
  simNs := 0
  wallNs := 0
  hostNs := 0

theorem hasGrid_tenthLot : HasGrid tenthLot.cache := by
  rintro id inst hinst
  obtain rfl := Option.some.inj hinst
  exact ⟨show (0 : ℚ) < 1 / 2 by decide +kernel, show (0 : ℚ) < 1 / 10 by decide +kernel⟩

theorem quotes_onGrid_tenthLot :
    let d : QuoteDesk := { nextOrderId := 1 }
    (∀ call ∈ (d.sendQuote tenthLot 7 .DERIBIT .BUY (1003 / 10) (17 / 100) .quote).2.2,
      ∃ order, call = .newOrder order ∧
        PassedOn tenthLot 7 .BUY (1003 / 10) (17 / 100) order) ∧
    (d.sendQuote tenthLot 7 .DERIBIT .BUY (1003 / 10) (17 / 100) .quote).2.2 ≠ [] := by
  intro d
  obtain ⟨honGrid, hrefused, -⟩ :=
    d.quotes_onGrid .DERIBIT .BUY (1003 / 10) (17 / 100) .quote hasGrid_tenthLot
  refine ⟨honGrid, fun hnone => ?_⟩
  have hprice := (hrefused (by decide +kernel)).mp hnone _ rfl rfl
  exact absurd hprice (by decide +kernel)

/-- A quote of less than a lot is not refused: one lot goes out, more than is asked for. What
replaces the quantity of a live quote is not brought into lots. -/
theorem quote_exceeds_request :
    let d : QuoteDesk := { nextOrderId := 1 }
    let sent := d.sendQuote tenthLot 7 .DERIBIT .BUY 100 (7 / 100) .quote
    roundDown (1 / 10 : ℚ) (7 / 100) = 0 ∧
      sent.2.2 = [.newOrder
        { orderId := 1, exchangeId := .DERIBIT, instrumentId := 7, side := .BUY
          orderType := .LIMIT, tif := .GTC, price := 10000000000, quantity := 10000000
          execInst := 1, exchangeSymbol := "BTC-C" }] ∧
      roundE8 (7 / 100) = 7000000 ∧
      sent.1.modifyQuote tenthLot sent.2.1 100 (7 / 100) = [.modify
        { orderId := 1, exchangeId := .DERIBIT, instrumentId := 7, newPrice := 10000000000
          newQuantity := 7000000 }] := by
  decide +kernel

end BptCore.Strategy.QuoteDesk
