import BptCore.Backtester.Results.PositionBooks
import BptCore.Lib.Machine
import Mathlib.Data.List.Dedup

/-!
# The equity account

The collector values every position at its average cost and adds up what was realized. A cash
book knows neither: it has the money that the fills moved, what is held, and the last mids. The
two agree, and what a key has realized is spread over its round trips.

* **`step`** — the two handlers as a machine that emits the round trips it closes, each with the
  key of the fill that closed it.
* **`cashFlow`**, **`netOf`**, **`midOf`**, **`feesOf`** — what a run amounts to, read off its
  events.
* **`Accounts`**, **`accounts_exec`** — the tables of the collector against these, as an invariant.
* **`currentEquity_exec`**, **`equityAccount`** — the equity is the cash book's.
-/

namespace BptCore.Backtester.ResultsCollector

open AverageCost Machine

/-- What the collector is given: a fill, or a market event. -/
inductive Input where
  | fill (fill : FillReport)
  | market (event : MarketEvent)

/-- The key that a fill is booked under. -/
def fillKey (fill : FillReport) : String := keyOf fill.exchange fill.symbol

/-- The round trips that a handler added, under the key. -/
def addedTrips (before after : ResultsCollector) (key : String) : List (String × RoundTrip) :=
  (after.roundTrips.drop before.roundTrips.length).map fun trip => (key, trip)

def step (r : ResultsCollector) : Input → ResultsCollector × List (String × RoundTrip)
  | .fill fill => (r.onFill fill, addedTrips r (r.onFill fill) (fillKey fill))
  | .market event => (r.onMarketEvent event, [])

/-! ## What a run amounts to -/

/-- The quantity that a fill adds to the position: negative for a sale. -/
def signedQty (fill : FillReport) : ℚ :=
  match fill.side with
  | .BUY => fill.lastFillQty
  | .SELL => -fill.lastFillQty

namespace Input

/-- The quantity of a fill is a positive multiple of 1e-8. -/
def Lawful : Input → Prop
  | fill f => ∃ n : Nat, 0 < n ∧ f.lastFillQty = ofE8 n
  | market _ => True

/-- The key that the input trades. -/
def traded : Input → Option String
  | fill f => some (fillKey f)
  | market _ => none

/-- The money that the input brings in: a sale earns, a purchase costs. -/
def cash : Input → ℚ
  | fill f =>
    match f.side with
    | .BUY => -(f.lastFillQty * f.lastFillPrice)
    | .SELL => f.lastFillQty * f.lastFillPrice
  | market _ => 0

/-- What the input adds to the position of the key. -/
def qty (key : String) : Input → ℚ
  | fill f => if fillKey f = key then signedQty f else 0
  | market _ => 0

/-- What the venue charges for the input. -/
def fee (fees : Table String FeeRates) : Input → ℚ
  | fill f => feeOf { startingCapital := 0, feesByVenue := fees } f
  | market _ => 0

/-- The mid that the input shows for the key: of a book with both touches. -/
def mid (key : String) : Input → Option ℚ
  | fill _ => none
  | market (.trade _) => none
  | market (.orderBook ob) =>
    if keyOf ob.exchange ob.symbol = key ∧ ob.touch .BUY > 0 ∧ ob.touch .SELL > 0 then
      some ((ob.touch .BUY + ob.touch .SELL) * (1 / 2))
    else none

end Input

/-- The sales of a run less its purchases. -/
def cashFlow (es : List Input) : ℚ := (es.map Input.cash).sum

/-- The net quantity of a key. -/
def netOf (key : String) (es : List Input) : ℚ := (es.map (Input.qty key)).sum

/-- The fees of a run. -/
def feesOf (fees : Table String FeeRates) (es : List Input) : ℚ := (es.map (Input.fee fees)).sum

/-- The last mid of a key. -/
def midOf (key : String) (es : List Input) : Option ℚ := (es.filterMap (Input.mid key)).getLast?

/-- The keys of a run, each once. -/
def tradedKeys (es : List Input) : List String := (es.filterMap Input.traded).dedup

/-- Every key that is not flat has a mid. -/
def MidsKnown (es : List Input) : Prop :=
  ∀ key ∈ tradedKeys es, netOf key es ≠ 0 → (midOf key es).isSome

instance (es : List Input) : Decidable (MidsKnown es) :=
  inferInstanceAs (Decidable (∀ key ∈ tradedKeys es, _ → _))

/-- What the run holds, at the last mids. -/
def heldAtMid (es : List Input) : ℚ :=
  ((tradedKeys es).map fun key => netOf key es * (midOf key es).getD 0).sum

/-- What the round trips of a key have realized. -/
def tripsRealized (key : String) (closed : List (String × RoundTrip)) : ℚ :=
  ((closed.filter fun trip => trip.1 = key).map fun trip => trip.2.realizedPnl).sum

/-- What the open round trip of a key has realized. -/
def openAccrued (r : ResultsCollector) (key : String) : ℚ := (r.openRealized.lookup key).getD 0

theorem cashFlow_append (es : List Input) (e : Input) :
    cashFlow (es ++ [e]) = cashFlow es + e.cash := by
  simp [cashFlow]

theorem netOf_append (key : String) (es : List Input) (e : Input) :
    netOf key (es ++ [e]) = netOf key es + e.qty key := by
  simp [netOf]

theorem feesOf_append (fees : Table String FeeRates) (es : List Input) (e : Input) :
    feesOf fees (es ++ [e]) = feesOf fees es + e.fee fees := by
  simp [feesOf]

theorem midOf_append (key : String) (es : List Input) (e : Input) :
    midOf key (es ++ [e]) = (e.mid key).or (midOf key es) := by
  cases hmid : e.mid key with
  | none => simp [midOf, hmid]
  | some mid => simp [midOf, hmid]

theorem mem_tradedKeys_append {key : String} {es : List Input} {e : Input} :
    key ∈ tradedKeys (es ++ [e]) ↔ key ∈ tradedKeys es ∨ e.traded = some key := by
  simp [tradedKeys, List.mem_dedup, or_comm]

theorem tripsRealized_append (key : String) (closed closed' : List (String × RoundTrip)) :
    tripsRealized key (closed ++ closed') =
      tripsRealized key closed + tripsRealized key closed' := by
  simp [tripsRealized]

/-- What is not traded is flat. -/
theorem netOf_of_notMem {key : String} {es : List Input} (h : key ∉ tradedKeys es) :
    netOf key es = 0 := by
  induction es using List.reverseRec with
  | nil => rfl
  | append_singleton es e ih =>
    rw [mem_tradedKeys_append, not_or] at h
    rw [netOf_append, ih h.1, zero_add]
    cases e with
    | fill f => exact if_neg fun hkey => h.2 (congrArg some hkey)
    | market ev => rfl

/-- The keys that a run does not trade need no mid. -/
theorem midsKnown_iff {es : List Input} :
    MidsKnown es ↔ ∀ key, netOf key es ≠ 0 → (midOf key es).isSome := by
  constructor
  · intro h key hopen
    exact h key (by_contra fun hnot => hopen (netOf_of_notMem hnot)) hopen
  · exact fun h key _ => h key

/-! ## One fill -/

/-- On the lattice of 1e-8, what counts as flat is flat. -/
theorem isFlat_iff {net : ℚ} (h : ∃ n : Int, net = ofE8 n) : |net| < kFlatTol ↔ net = 0 := by
  obtain ⟨n, rfl⟩ := h
  constructor
  · intro hsmall
    have hone : kFlatTol < ofE8 1 := by decide +kernel
    have hhi := ofE8_lt_iff.mp ((abs_lt.mp hsmall).2.trans hone)
    have hlo := ofE8_lt_iff.mp ((ofE8_neg 1 ▸ neg_lt_neg hone).trans (abs_lt.mp hsmall).1)
    rw [ofE8_eq_zero_iff]
    omega
  · intro hzero
    rw [hzero, abs_zero]
    decide +kernel

theorem signedQty_eq {fill : FillReport} {qty : Nat} (h : fill.lastFillQty = ofE8 qty) :
    signedQty fill = ofE8 (fill.side.signed qty) := by
  unfold signedQty OrderSide.signed
  cases fill.side with
  | BUY => exact h
  | SELL => exact (congrArg Neg.neg h).trans (ofE8_neg qty).symm

theorem applyFill_openTsNs (pos : Position) (fillQty fillPrice : ℚ) (side : OrderSide) :
    (applyFill pos fillQty fillPrice side).1.openTsNs = pos.openTsNs := by
  cases side with
  | BUY =>
    simp only [applyFill, buy]
    split_ifs <;> rfl
  | SELL =>
    simp only [applyFill, sell]
    split_ifs <;> rfl

theorem applyFill_realizedPnl (pos : Position) (fillQty fillPrice : ℚ) (side : OrderSide) :
    (applyFill pos fillQty fillPrice side).1.realizedPnl =
      pos.realizedPnl + (applyFill pos fillQty fillPrice side).2 := by
  cases side with
  | BUY =>
    simp only [applyFill, buy]
    split_ifs <;> rfl
  | SELL =>
    simp only [applyFill, sell]
    split_ifs <;> rfl

variable (r : ResultsCollector)

/-- What a fill makes of its position, with what it realizes. -/
def filled (fill : FillReport) : Position × ℚ :=
  applyFill (r.positionOf (fillKey fill)) fill.lastFillQty fill.lastFillPrice fill.side

/-- What a position put into the cash book: what it realized, less its cost. -/
def paid (pos : Position) : ℚ := pos.realizedPnl - pos.avgCost * pos.netQty

/-- A lawful fill moves the net quantity by its own, and what the position paid by its cash. -/
theorem filled_spec {fill : FillReport} (hlawful : (Input.fill fill).Lawful)
    (hlattice : ∃ n : Int, (r.positionOf (fillKey fill)).netQty = ofE8 n) :
    (r.filled fill).1.netQty = (r.positionOf (fillKey fill)).netQty + signedQty fill ∧
      paid (r.filled fill).1 =
        paid (r.positionOf (fillKey fill)) + (Input.fill fill).cash := by
  obtain ⟨qty, hpos, hqty⟩ := hlawful
  obtain ⟨net, hnet⟩ := hlattice
  have hsigned := signedQty_eq hqty
  have hcash : (Input.fill fill).cash = -(fill.lastFillPrice * signedQty fill) := by
    cases hside : fill.side with
    | BUY => simp only [Input.cash, signedQty, hside, mul_comm]
    | SELL => simp only [Input.cash, signedQty, hside, mul_neg, neg_neg, mul_comm]
  have hne : signedQty fill ≠ 0 := by
    rw [hsigned, Ne, ofE8_eq_zero_iff]
    cases fill.side with
    | BUY => exact Int.natCast_ne_zero.mpr (ne_of_gt hpos)
    | SELL => exact neg_ne_zero.mpr (Int.natCast_ne_zero.mpr (ne_of_gt hpos))
  have htrade : collectorPositionBook (r.filled fill).1 =
      (collectorPositionBook (r.positionOf (fillKey fill))).trade (signedQty fill)
        fill.lastFillPrice := by
    rw [filled, hqty, hsigned]
    exact collectorFill_eq_trade _ hnet fill.side hpos fill.lastFillPrice
  constructor
  · exact (congrArg Book.net htrade).trans (Book.trade_net _)
  · have hmoved := Book.trade_cash (b := collectorPositionBook (r.positionOf (fillKey fill)))
      fill.lastFillPrice hne
    rw [← htrade] at hmoved
    rw [hcash, ← sub_eq_add_neg]
    exact hmoved

/-! ## The handler of fills -/

/-- The fill leads away from flat. -/
def opens (fill : FillReport) : Bool :=
  |(r.positionOf (fillKey fill)).netQty| < kFlatTol && !(|(r.filled fill).1.netQty| < kFlatTol)

/-- The fill leads back to flat. -/
def closes (fill : FillReport) : Bool :=
  !(|(r.positionOf (fillKey fill)).netQty| < kFlatTol) && |(r.filled fill).1.netQty| < kFlatTol

/-- What the open round trip has realized with the fill. -/
def accrued (fill : FillReport) : ℚ := r.openAccrued (fillKey fill) + (r.filled fill).2

theorem positions_onFill (fill : FillReport) :
    (r.onFill fill).positions = r.positions.insert (fillKey fill)
      { (r.filled fill).1 with
        openTsNs := if r.opens fill then fill.simulationTs else if r.closes fill then 0
                    else (r.filled fill).1.openTsNs } := rfl

theorem openRealized_onFill (fill : FillReport) :
    (r.onFill fill).openRealized = r.openRealized.insert (fillKey fill)
      (if r.opens fill || r.closes fill then 0 else r.accrued fill) := rfl

theorem roundTrips_onFill (fill : FillReport) :
    (r.onFill fill).roundTrips = r.roundTrips ++
      if r.closes fill then [⟨(r.filled fill).1.openTsNs, fill.simulationTs, r.accrued fill⟩]
      else [] := rfl

/-- A fill of a flat position realizes nothing. -/
theorem filled_realized_of_flat {fill : FillReport}
    (hflat : (r.positionOf (fillKey fill)).netQty = 0) : (r.filled fill).2 = 0 := by
  unfold filled applyFill
  cases fill.side with
  | BUY => simp only [buy, hflat, ge_iff_le, le_refl, if_true]
  | SELL => simp only [sell, hflat, le_refl, if_true]

/-- What the fill closes: the round trip that its position was in. -/
theorem addedTrips_onFill (fill : FillReport) :
    addedTrips r (r.onFill fill) (fillKey fill) =
      if r.closes fill then
        [(fillKey fill,
          ⟨(r.positionOf (fillKey fill)).openTsNs, fill.simulationTs, r.accrued fill⟩)]
      else [] := by
  rw [addedTrips, roundTrips_onFill, List.drop_left, filled, applyFill_openTsNs]
  split <;> rfl

theorem positionOf_onFill_self (fill : FillReport) :
    (r.onFill fill).positionOf (fillKey fill) =
      { (r.filled fill).1 with
        openTsNs := if r.opens fill then fill.simulationTs else if r.closes fill then 0
                    else (r.filled fill).1.openTsNs } := by
  rw [positionOf, positions_onFill, AList.lookup_insert, Option.getD_some]

theorem positionOf_onFill_of_ne (fill : FillReport) {key : String} (hkey : fillKey fill ≠ key) :
    (r.onFill fill).positionOf key = r.positionOf key := by
  rw [positionOf, positions_onFill, AList.lookup_insert_ne hkey.symm, positionOf]

theorem openAccrued_onFill_self (fill : FillReport) :
    (r.onFill fill).openAccrued (fillKey fill) =
      if r.opens fill || r.closes fill then 0 else r.accrued fill := by
  rw [openAccrued, openRealized_onFill, AList.lookup_insert, Option.getD_some]

theorem openAccrued_onFill_of_ne (fill : FillReport) {key : String} (hkey : fillKey fill ≠ key) :
    (r.onFill fill).openAccrued key = r.openAccrued key := by
  rw [openAccrued, openRealized_onFill, AList.lookup_insert_ne hkey.symm, openAccrued]

/-- Together the positions paid the cash of the fill. -/
theorem sumVals_paid_onFill {fill : FillReport}
    (hpaid : paid (r.filled fill).1 =
      paid (r.positionOf (fillKey fill)) + (Input.fill fill).cash) :
    Table.sumVals paid (r.onFill fill).positions =
      Table.sumVals paid r.positions + (Input.fill fill).cash := by
  rw [positions_onFill, Table.sumVals_insert]
  have hinserted : ∀ ts, paid { (r.filled fill).1 with openTsNs := ts } =
      paid (r.positionOf (fillKey fill)) + (Input.fill fill).cash := fun _ => hpaid
  rw [hinserted]
  -- a key without a position stands for a flat one, which has paid nothing
  cases hheld : r.positions.lookup (fillKey fill) with
  | none =>
    have hflat : paid (r.positionOf (fillKey fill)) = 0 := by
      rw [positionOf, hheld]
      decide +kernel
    rw [hflat, zero_add, add_comm, Table.erase_of_notMem (AList.lookup_eq_none.mp hheld)]
  | some pos =>
    have hpos : r.positionOf (fillKey fill) = pos := by rw [positionOf, hheld, Option.getD_some]
    rw [hpos, Table.sumVals_of_lookup paid hheld, add_right_comm]

/-! ## The invariant -/

/-- The tables of the collector and the round trips it closed, against the events of the run. -/
structure Accounts (fees : Table String FeeRates) (r : ResultsCollector)
    (closed : List (String × RoundTrip)) (es : List Input) : Prop where
  rates : r.feesByVenue = fees
  keys : ∀ key, key ∈ r.positions ↔ key ∈ tradedKeys es
  net : ∀ key, (r.positionOf key).netQty = netOf key es
  paid : Table.sumVals paid r.positions = cashFlow es
  mids : ∀ key, r.midPrices.lookup key = midOf key es
  feesPaid : r.totalFeesPaid = feesOf fees es
  trips : r.roundTrips = closed.map Prod.snd
  realized : ∀ key,
    tripsRealized key closed + r.openAccrued key = (r.positionOf key).realizedPnl
  /-- Between two round trips nothing is accrued. -/
  flat : ∀ key, netOf key es = 0 → r.openAccrued key = 0

/-- Net quantities are multiples of 1e-8. -/
theorem netOf_lattice {es : List Input} (hlawful : ∀ e ∈ es, e.Lawful) (key : String) :
    ∃ n : Int, netOf key es = ofE8 n := by
  induction es with
  | nil => exact ⟨0, ofE8_zero.symm⟩
  | cons e es ih =>
    obtain ⟨n, hn⟩ := ih fun e' he' => hlawful e' (List.mem_cons_of_mem e he')
    have hsum : netOf key (e :: es) = e.qty key + netOf key es := List.sum_cons
    have hone : ∃ m : Int, e.qty key = ofE8 m := by
      cases e with
      | market event => exact ⟨0, ofE8_zero.symm⟩
      | fill f =>
        obtain ⟨qty, -, hqty⟩ := hlawful (.fill f) List.mem_cons_self
        by_cases hkey : fillKey f = key
        · refine ⟨f.side.signed qty, (if_pos hkey).trans ?_⟩
          exact signedQty_eq hqty
        · exact ⟨0, (if_neg hkey).trans ofE8_zero.symm⟩
    obtain ⟨m, hm⟩ := hone
    exact ⟨m + n, by rw [hsum, hm, hn, ofE8_add]⟩

section Step

variable {fees : Table String FeeRates} {r : ResultsCollector} {closed : List (String × RoundTrip)}
  {es : List Input} (h : Accounts fees r closed es) (hlawful : ∀ e ∈ es, e.Lawful)
include h hlawful

theorem Accounts.filled_spec {fill : FillReport} (hfill : (Input.fill fill).Lawful) :
    (r.filled fill).1.netQty = netOf (fillKey fill) (es ++ [.fill fill]) ∧
      ResultsCollector.paid (r.filled fill).1 =
        ResultsCollector.paid (r.positionOf (fillKey fill)) + (Input.fill fill).cash := by
  have hlattice : ∃ n : Int, (r.positionOf (fillKey fill)).netQty = ofE8 n :=
    h.net (fillKey fill) ▸ netOf_lattice hlawful (fillKey fill)
  obtain ⟨hnet, hpaid⟩ := r.filled_spec hfill hlattice
  refine ⟨?_, hpaid⟩
  rw [hnet, netOf_append, h.net]
  exact congrArg _ (if_pos rfl).symm

/-- A fill opens, or closes, exactly as the net quantities say. -/
theorem Accounts.opens_closes {fill : FillReport} (hfill : (Input.fill fill).Lawful) :
    (r.opens fill = true ↔ netOf (fillKey fill) es = 0 ∧
      netOf (fillKey fill) (es ++ [.fill fill]) ≠ 0) ∧
    (r.closes fill = true ↔ netOf (fillKey fill) es ≠ 0 ∧
      netOf (fillKey fill) (es ++ [.fill fill]) = 0) := by
  have hafter : ∀ e ∈ es ++ [.fill fill], e.Lawful := fun e he =>
    (List.mem_append.mp he).elim (hlawful e) fun he' => List.mem_singleton.mp he' ▸ hfill
  have hnet := (h.filled_spec hlawful hfill).1
  have hflat := isFlat_iff (netOf_lattice hlawful (fillKey fill))
  have hflat' := isFlat_iff (netOf_lattice hafter (fillKey fill))
  simp only [opens, closes, h.net, hnet, Bool.and_eq_true, Bool.not_eq_true', decide_eq_true_eq,
    decide_eq_false_iff_not, hflat, hflat', ne_eq, and_self]

theorem Accounts.onFill {fill : FillReport} (hfill : (Input.fill fill).Lawful) :
    Accounts fees (r.onFill fill) (closed ++ addedTrips r (r.onFill fill) (fillKey fill))
      (es ++ [.fill fill]) := by
  obtain ⟨hnet, hpaid⟩ := h.filled_spec hlawful hfill
  obtain ⟨hopens, hcloses⟩ := h.opens_closes hlawful hfill
  have hself := r.positionOf_onFill_self fill
  refine
    { rates := h.rates, keys := fun key => ?_, net := fun key => ?_, paid := ?_
      mids := fun key => ?_, feesPaid := ?_, trips := ?_, realized := fun key => ?_
      flat := fun key hflat => ?_ }
  · rw [positions_onFill, AList.mem_insert, h.keys, mem_tradedKeys_append, or_comm]
    exact or_congr_right ⟨fun hkey => hkey ▸ rfl, fun hkey => (Option.some.inj hkey).symm⟩
  · by_cases hkey : fillKey fill = key
    · subst hkey
      rw [hself]
      exact hnet
    · rw [r.positionOf_onFill_of_ne fill hkey, h.net, netOf_append]
      exact ((congrArg _ (if_neg hkey)).trans (add_zero _)).symm
  · rw [r.sumVals_paid_onFill hpaid, h.paid, cashFlow_append]
  · rw [midOf_append]
    exact h.mids key
  · rw [feesOf_append, ← h.feesPaid, ← h.rates]
    rfl
  · rw [List.map_append, ← h.trips, roundTrips_onFill, addedTrips_onFill, filled,
      applyFill_openTsNs]
    split <;> rfl
  · -- what the fill realizes goes to the accumulator of its key, or with it into a trip
    rw [tripsRealized_append, addedTrips_onFill]
    by_cases hkey : fillKey fill = key
    · subst hkey
      have hbefore := h.realized (fillKey fill)
      have hrealized : ((r.onFill fill).positionOf (fillKey fill)).realizedPnl =
          (r.positionOf (fillKey fill)).realizedPnl + (r.filled fill).2 := by
        rw [hself]
        exact applyFill_realizedPnl _ _ _ _
      rw [hrealized, openAccrued_onFill_self, ← hbefore]
      by_cases hclosed : r.closes fill = true
      · -- the trip takes the accumulator along
        simp only [hclosed, Bool.or_true, if_true, accrued]
        simp [tripsRealized, add_assoc]
      · by_cases hopened : r.opens fill = true
        · -- the accumulator is reset, which loses nothing: the position was flat
          have hflat := (hopens.mp hopened).1
          have hzero := r.filled_realized_of_flat ((h.net (fillKey fill)).trans hflat)
          simp [hclosed, hopened, hzero, h.flat (fillKey fill) hflat, tripsRealized]
        · simp [hclosed, hopened, accrued, tripsRealized, add_assoc]
    · rw [r.positionOf_onFill_of_ne fill hkey, r.openAccrued_onFill_of_ne fill hkey,
        ← h.realized key]
      have hnone : tripsRealized key (if r.closes fill then
          [(fillKey fill,
            ⟨(r.positionOf (fillKey fill)).openTsNs, fill.simulationTs, r.accrued fill⟩)]
          else []) = 0 := by
        split
        · simp [tripsRealized, hkey]
        · rfl
      rw [hnone, add_zero]
  · by_cases hkey : fillKey fill = key
    · subst hkey
      rw [openAccrued_onFill_self]
      -- flat after the fill: it was flat already and realized nothing, or the trip is closed
      by_cases hbefore : netOf (fillKey fill) es = 0
      · have hzero := r.filled_realized_of_flat ((h.net (fillKey fill)).trans hbefore)
        rw [accrued, hzero, h.flat (fillKey fill) hbefore, add_zero, ite_self]
      · rw [hcloses.mpr ⟨hbefore, hflat⟩, Bool.or_true, if_pos rfl]
    · rw [r.openAccrued_onFill_of_ne fill hkey]
      refine h.flat key ?_
      rw [netOf_append] at hflat
      exact ((congrArg _ (if_neg hkey)).trans (add_zero _)).symm.trans hflat

end Step

/-- A market event moves mids only. -/
theorem onMarketEvent_eq (r : ResultsCollector) (event : MarketEvent) :
    ∃ midPrices : Table String ℚ, r.onMarketEvent event = { r with midPrices } ∧
      ∀ key, midPrices.lookup key = ((Input.market event).mid key).or (r.midPrices.lookup key) := by
  cases event with
  | trade t => exact ⟨r.midPrices, rfl, fun _ => rfl⟩
  | orderBook ob =>
    by_cases htouch : ob.touch .BUY > 0 ∧ ob.touch .SELL > 0
    · refine ⟨_, if_pos htouch, fun key => ?_⟩
      rw [Table.lookup_insert_eq]
      by_cases hkey : key = keyOf ob.exchange ob.symbol
      · rw [if_pos hkey, Input.mid, if_pos ⟨hkey.symm, htouch⟩]
        rfl
      · rw [if_neg hkey, Input.mid, if_neg fun hboth => hkey hboth.1.symm]
        rfl
    · refine ⟨r.midPrices, if_neg htouch, fun key => ?_⟩
      rw [Input.mid, if_neg fun hboth => htouch hboth.2]
      rfl

theorem Accounts.onMarketEvent {fees : Table String FeeRates} {r : ResultsCollector}
    {closed : List (String × RoundTrip)} {es : List Input} (h : Accounts fees r closed es)
    (event : MarketEvent) :
    Accounts fees (r.onMarketEvent event) closed (es ++ [.market event]) := by
  obtain ⟨midPrices, heq, hmids⟩ := onMarketEvent_eq r event
  rw [heq]
  have hnet : ∀ key, netOf key (es ++ [.market event]) = netOf key es := fun key =>
    (netOf_append key es _).trans (add_zero _)
  exact
    { rates := h.rates
      keys := fun key => by
        rw [mem_tradedKeys_append]
        exact (h.keys key).trans
          ⟨Or.inl, fun hor => hor.elim id fun hnone => absurd hnone.symm (Option.some_ne_none _)⟩
      net := fun key => (h.net key).trans (hnet key).symm
      paid := h.paid.trans ((cashFlow_append es _).trans (add_zero _)).symm
      mids := fun key => by rw [midOf_append, ← h.mids, ← hmids]
      feesPaid := h.feesPaid.trans ((feesOf_append fees es _).trans (add_zero _)).symm
      trips := h.trips
      realized := h.realized
      flat := fun key hflat => h.flat key ((hnet key).symm.trans hflat) }

/-- A collector that was given nothing yet. -/
def fresh (startingCapital : ℚ) (fees : Table String FeeRates) : ResultsCollector :=
  { startingCapital, feesByVenue := fees }

theorem Accounts.fresh (startingCapital : ℚ) (fees : Table String FeeRates) :
    Accounts fees (fresh startingCapital fees) [] [] :=
  { rates := rfl
    keys := fun key => iff_of_false (AList.notMem_empty key) List.not_mem_nil
    net := fun _ => rfl
    paid := rfl
    mids := fun _ => rfl
    feesPaid := rfl
    trips := rfl
    realized := fun _ => add_zero _
    flat := fun _ _ => rfl }

variable (startingCapital : ℚ) (fees : Table String FeeRates)

/-- **The invariant of a run.** -/
theorem accounts_exec {es : List Input} (hlawful : ∀ e ∈ es, e.Lawful) :
    Accounts fees (exec step (ResultsCollector.fresh startingCapital fees) es)
      (outputs step (ResultsCollector.fresh startingCapital fees) es) es := by
  induction es using List.reverseRec with
  | nil => exact Accounts.fresh startingCapital fees
  | append_singleton es e ih =>
    have hbefore : ∀ e' ∈ es, e'.Lawful := fun e' he' => hlawful e' (List.mem_append_left _ he')
    have hlast : e.Lawful := hlawful e (List.mem_append_right _ (List.mem_singleton_self e))
    rw [exec_append, outputs_append]
    cases e with
    | fill f =>
      have hnext := (ih hbefore).onFill hbefore hlast
      simpa [exec, outputs, step] using hnext
    | market event =>
      have hnext := (ih hbefore).onMarketEvent event
      simpa [exec, outputs, step] using hnext

theorem startingCapital_exec (es : List Input) :
    (exec step (ResultsCollector.fresh startingCapital fees) es).startingCapital =
      startingCapital := by
  refine exec_of_inductive (I := fun r : ResultsCollector => r.startingCapital = startingCapital)
    (fun r e hr => ?_) rfl es
  cases e with
  | fill f => exact hr
  | market event =>
    obtain ⟨midPrices, heq, -⟩ := onMarketEvent_eq r event
    exact (congrArg ResultsCollector.startingCapital heq).trans hr

/-! ## The equity -/

/-- A position of a lawful run, valued at its cost, is what it paid and what it holds. -/
theorem Accounts.unrealized {fees : Table String FeeRates} {r : ResultsCollector}
    {closed : List (String × RoundTrip)} {es : List Input} (h : Accounts fees r closed es)
    (hlawful : ∀ e ∈ es, e.Lawful) (hmids : MidsKnown es) {key : String} {pos : Position}
    (hpos : r.positions.lookup key = some pos) :
    (if |pos.netQty| < kFlatTol then 0
      else match r.midPrices.lookup key with
        | none => 0
        | some mid => pos.netQty * (mid - pos.avgCost)) =
      netOf key es * (midOf key es).getD 0 - pos.avgCost * pos.netQty := by
  have hnet : pos.netQty = netOf key es := by
    rw [← h.net key, positionOf, hpos, Option.getD_some]
  have htraded : key ∈ tradedKeys es := (h.keys key).mp (Table.mem_of_lookup hpos)
  have hflat := isFlat_iff (netOf_lattice hlawful key)
  rw [hnet, h.mids key]
  by_cases hzero : netOf key es = 0
  · rw [if_pos (hflat.mpr hzero), hzero, zero_mul, mul_zero, sub_zero]
  · obtain ⟨mid, hmid⟩ := Option.isSome_iff_exists.mp (hmids key htraded hzero)
    rw [if_neg (mt hflat.mp hzero), hmid, Option.getD_some]
    ring

/-- The positions and the keys of the run are the same. -/
theorem Accounts.keys_perm {fees : Table String FeeRates} {r : ResultsCollector}
    {closed : List (String × RoundTrip)} {es : List Input} (h : Accounts fees r closed es) :
    r.positions.keys.Perm (tradedKeys es) :=
  (List.perm_ext_iff_of_nodup (AList.keys_nodup r.positions) (List.nodup_dedup _)).mpr fun key =>
    h.keys key

/-- **The equity is the cash book's.** -/
theorem Accounts.currentEquity {fees : Table String FeeRates} {r : ResultsCollector}
    {closed : List (String × RoundTrip)} {es : List Input} (h : Accounts fees r closed es)
    (hlawful : ∀ e ∈ es, e.Lawful) (hmids : MidsKnown es) :
    r.currentEquity = r.startingCapital + cashFlow es + heldAtMid es - feesOf fees es := by
  let atMid : String → ℚ := fun key => netOf key es * (midOf key es).getD 0
  have hunrealized : r.totalUnrealizedPnl =
      (r.positions.entries.map fun entry =>
        atMid entry.1 - entry.2.avgCost * entry.2.netQty).sum := by
    refine congrArg List.sum (List.map_congr_left fun entry hentry => ?_)
    exact h.unrealized hlawful hmids (Table.mem_entries_iff.mp hentry)
  -- the table has the keys of the run in an order of its own
  have hheld : (r.positions.entries.map fun entry => atMid entry.1).sum = heldAtMid es := by
    rw [heldAtMid, ← (h.keys_perm.map atMid).sum_eq, AList.keys, List.keys, List.map_map]
    rfl
  have hsplit : r.totalRealizedPnl + r.totalUnrealizedPnl = cashFlow es + heldAtMid es := by
    rw [hunrealized, totalRealizedPnl, Table.sumVals, Table.vals, List.map_map,
      ← List.sum_map_add, ← h.paid, ← hheld, Table.sumVals, Table.vals, List.map_map,
      ← List.sum_map_add]
    -- position by position, the cost that is not in the value is in what was paid
    refine congrArg List.sum (List.map_congr_left fun entry _ => ?_)
    show entry.2.realizedPnl + (atMid entry.1 - entry.2.avgCost * entry.2.netQty) =
      entry.2.realizedPnl - entry.2.avgCost * entry.2.netQty + atMid entry.1
    ring
  rw [ResultsCollector.currentEquity, h.feesPaid, add_assoc r.startingCapital, hsplit,
    add_assoc]

/-! ## Round trips -/

/-- What a fill does to the round trip of its key: it closes one exactly when it leads back to
flat, and a fill between two open positions, whichever side they are on, leaves it open. -/
structure KeepsRoundTrip (r : ResultsCollector) (es : List Input) (fill : FillReport) : Prop where
  fromFlat : netOf (fillKey fill) es = 0 → (step r (.fill fill)).2 = []
  toFlat : netOf (fillKey fill) es ≠ 0 → netOf (fillKey fill) (es ++ [.fill fill]) = 0 →
    (step r (.fill fill)).2 = [(fillKey fill,
      ⟨(r.positionOf (fillKey fill)).openTsNs, fill.simulationTs, r.accrued fill⟩)]
  within : netOf (fillKey fill) es ≠ 0 → netOf (fillKey fill) (es ++ [.fill fill]) ≠ 0 →
    (step r (.fill fill)).2 = [] ∧
    ((step r (.fill fill)).1.positionOf (fillKey fill)).openTsNs =
      (r.positionOf (fillKey fill)).openTsNs ∧
    (step r (.fill fill)).1.openAccrued (fillKey fill) = r.accrued fill

theorem Accounts.keepsRoundTrip {fees : Table String FeeRates} {r : ResultsCollector}
    {closed : List (String × RoundTrip)} {es : List Input} (h : Accounts fees r closed es)
    (hlawful : ∀ e ∈ es, e.Lawful) {fill : FillReport} (hfill : (Input.fill fill).Lawful) :
    KeepsRoundTrip r es fill := by
  obtain ⟨hopens, hcloses⟩ := h.opens_closes hlawful hfill
  have hadded : (step r (.fill fill)).2 = _ := r.addedTrips_onFill fill
  refine ⟨fun hflat => ?_, fun hopen hflat => ?_, fun hopen hstill => ?_⟩
  · rw [hadded, if_neg fun hclosed => (hcloses.mp hclosed).1 hflat]
  · rw [hadded, if_pos (hcloses.mpr ⟨hopen, hflat⟩)]
  · have hclosed : r.closes fill = false :=
      Bool.eq_false_iff.mpr fun hclosed => hstill (hcloses.mp hclosed).2
    have hopened : r.opens fill = false :=
      Bool.eq_false_iff.mpr fun hopened => hopen (hopens.mp hopened).1
    refine ⟨by rw [hadded, hclosed]; rfl, ?_, ?_⟩
    · show ((r.onFill fill).positionOf (fillKey fill)).openTsNs = _
      rw [r.positionOf_onFill_self fill, hopened, hclosed]
      exact applyFill_openTsNs _ _ _ _
    · show (r.onFill fill).openAccrued (fillKey fill) = _
      rw [r.openAccrued_onFill_self fill, hopened, hclosed]
      rfl

/-- **The equity account.** After any fills of positive multiples of 1e-8 and any market events,
the equity is the starting capital with the cash of the fills, what is held at the last mids,
less the fees, as long as every key that is not flat has a mid; what the closed round trips of a
key realized, with what the open one has so far, is what the key realized; and the next fill
closes a round trip only when it leads back to flat, not when it crosses to the other side. -/
theorem equityAccount {es : List Input} (hlawful : ∀ e ∈ es, e.Lawful) :
    let r := exec step (ResultsCollector.fresh startingCapital fees) es
    let closed := outputs step (ResultsCollector.fresh startingCapital fees) es
    (MidsKnown es →
      r.currentEquity = startingCapital + cashFlow es + heldAtMid es - feesOf fees es) ∧
    r.roundTrips = closed.map Prod.snd ∧
    (∀ key, tripsRealized key closed + r.openAccrued key = (r.positionOf key).realizedPnl) ∧
    ∀ fill : FillReport, (Input.fill fill).Lawful → KeepsRoundTrip r es fill := by
  intro r closed
  have haccounts := accounts_exec startingCapital fees hlawful
  refine ⟨fun hmids => ?_, haccounts.trips, haccounts.realized, fun fill hfill =>
    haccounts.keepsRoundTrip hlawful hfill⟩
  have hequity := haccounts.currentEquity hlawful hmids
  rw [startingCapital_exec] at hequity
  exact hequity

/-- A fill of a sample run. -/
def sampleFill (symbol : String) (side : OrderSide) (qty price : ℚ) : Input :=
  .fill
    { orderId := 1, clientOrderId := 1, exchange := "OKX", symbol, orderType := .LIMIT, side
      liquidityRole := .TAKER, originalQty := qty, orderPrice := price, lastFillQty := qty
      lastFillPrice := price, cumulativeFillQty := qty, isFullyFilled := true, simulationTs := 7 }

/-- A long that is flipped and half closed, beside a round trip of another key. -/
def sampleRun : List Input :=
  [sampleFill "BTC" .BUY 2 100, sampleFill "ETH" .BUY 1 10, sampleFill "BTC" .SELL 5 110,
    sampleFill "ETH" .SELL 1 12, sampleFill "BTC" .BUY 1 105,
    .market (.orderBook
      { timestampNs := 9, exchange := "OKX", symbol := "BTC", bidPx := fun _ => 101
        bidSz := fun _ => 1, askPx := fun _ => 103, askSz := fun _ => 1 })]

theorem equityAccount_sampleRun :
    let fees : Table String FeeRates := Table.ofPairs [("OKX", ⟨1, 5⟩)]
    let r := exec step (ResultsCollector.fresh 1000 fees) sampleRun
    r.currentEquity =
        1000 + cashFlow sampleRun + heldAtMid sampleRun - feesOf fees sampleRun ∧
      cashFlow sampleRun = 247 ∧ heldAtMid sampleRun = -204 ∧
      tripsRealized "OKX:BTC" (outputs step (ResultsCollector.fresh 1000 fees) sampleRun) +
        r.openAccrued "OKX:BTC" = (r.positionOf "OKX:BTC").realizedPnl ∧
      r.openAccrued "OKX:BTC" = 25 := by
  intro fees r
  have hlawful : ∀ e ∈ sampleRun, e.Lawful := by
    simp only [sampleRun, List.forall_mem_cons]
    exact ⟨⟨200000000, by decide +kernel⟩, ⟨100000000, by decide +kernel⟩,
      ⟨500000000, by decide +kernel⟩, ⟨100000000, by decide +kernel⟩,
      ⟨100000000, by decide +kernel⟩, trivial, fun e he => absurd he List.not_mem_nil⟩
  obtain ⟨hequity, -, hrealized, -⟩ := equityAccount 1000 fees hlawful
  exact ⟨hequity (by decide +kernel), by decide +kernel, by decide +kernel, hrealized "OKX:BTC",
    by decide +kernel⟩

end BptCore.Backtester.ResultsCollector
