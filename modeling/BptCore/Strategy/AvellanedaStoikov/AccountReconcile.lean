import BptCore.OrderGateway.Adapter.AccountSnapshots
import BptCore.Strategy.AvellanedaStoikov.AvellanedaStoikovStrategy
import Mathlib.Data.List.Induction

/-!
# Reconciling with the exchanges

The strategy beside the accounts that its fills move: the position of every instrument in base
currency, and what each account holds of every currency. Venues answer truthfully, each in its own
units, and the adapters publish the answers.

* **`Accounts`** — the truth; **`Truthful`** — an answer that tells it.
* **`Clean`** — a snapshot that finds nothing and changes nothing.
* **`Agrees`** — the positions that the exchange's view comes near enough to.
* **`clean_snapshots_iff`** — when the snapshots of a run are clean.
-/

namespace BptCore.Strategy

namespace AvellanedaStoikov

open OrderGateway (AccountResponse AccountSnapshotData VenueBalance VenuePosition
  fetchAccountSnapshot passesBalance)

/-- The message as the strategy reads it. -/
def message (d : AccountSnapshotData) : AccountSnapshot where
  exchangeId := some d.exchangeId
  correlationId := d.correlationId
  timestampNs := d.timestampNs
  availableBalanceE8 := d.availableBalanceE8
  totalEquityE8 := d.totalEquityE8
  positions := d.positions.map fun p =>
    ⟨p.exchangeSymbol, p.netQtyE8, p.avgEntryPriceE8, p.unrealizedPnlE8⟩
  currencyBalances := d.currencyBalances.map fun b => ⟨b.ccy, b.equityE8, b.availableBalanceE8⟩

/-- Whether the baseline has been taken, with the baseline. -/
def baseline {Sig : Type} (s : AvellanedaStoikov Sig) :
    Bool × Table (Option ExchangeId × String) Int :=
  (s.initialCcyEquityCaptured, s.initialCcyEquityE8)

/-! ## The accounts -/

/-- What the venues have listed: the account and the currency that a spot instrument trades, and the
base currency of one unit of a venue's position. -/
structure Listing where
  base : Nat → Option (ExchangeId × String)
  unit : Nat → ℚ

/-- The positions by instrument, in units of `1e-8`, and what the accounts hold. -/
structure Accounts where
  position : Nat → Int
  holdings : ExchangeId → String → ℚ

/-- A fill, whose other leg and fees are settled. -/
def Accounts.fill (m : Listing) (a : Accounts) (id : Nat) (qty : Int)
    (settled : ExchangeId → String → ℚ) : Accounts where
  position i := a.position i + if i = id then qty else 0
  holdings e ccy :=
    a.holdings e ccy + (if m.base id = some (e, ccy) then ofE8 qty else 0) + settled e ccy

/-- The first snapshot since the universe was built, with what its account held. -/
structure FirstSnapshot where
  exchange : ExchangeId
  response : AccountResponse
  holdings : String → ℚ

structure Ledger (Sig : Type) where
  strategy : AvellanedaStoikov Sig
  accounts : Accounts
  first : Option FirstSnapshot := none

inductive LedgerEvent where
  | callback (c : Callback) (settled : ExchangeId → String → ℚ) (env : Surroundings)
      (h : ∀ snap, c ≠ .accountSnapshot snap)
  | snapshot (exchange : ExchangeId) (response : AccountResponse) (correlationId nowNs : Nat)
      (env : Surroundings)

namespace Ledger

variable {Sig : Type} (cfg : Config Sig) (m : Listing) (l : Ledger Sig)

/-- A report of a fill moves the account of its order's instrument. -/
def accountsAfter (settled : ExchangeId → String → ℚ) : Callback → Accounts
  | .execReport rpt _ =>
    match l.strategy.desk.om.lookup.lookup rpt.orderId with
    | some os =>
      if rpt.status.isFill then
        l.accounts.fill m os.instrumentId (rpt.side.signed rpt.filledQty) settled
      else l.accounts
    | none => l.accounts
  | _ => l.accounts

def firstAfter : Callback → Option FirstSnapshot
  | .instrumentSnapshot _ => none
  | _ => l.first

def published (exchange : ExchangeId) (response : AccountResponse) (correlationId nowNs : Nat) :
    AccountSnapshot :=
  message (fetchAccountSnapshot exchange response correlationId nowNs)

def step (l : Ledger Sig) : LedgerEvent → Ledger Sig × List Sent
  | .callback c settled env _ =>
    let r := l.strategy.step cfg (c, env)
    ({ strategy := r.1, accounts := l.accountsAfter m settled c, first := l.firstAfter c }, r.2)
  | .snapshot exchange response correlationId nowNs env =>
    let r := l.strategy.step cfg (.accountSnapshot (published exchange response correlationId nowNs), env)
    ({ l with
        strategy := r.1
        first := l.first.or (some ⟨exchange, response, l.accounts.holdings exchange⟩) }, r.2)

/-- A strategy that has just been made. -/
def init (nextOrderId : Nat) (accounts : Accounts) : Ledger Sig where
  strategy := { desk := { nextOrderId := nextOrderId } }
  accounts := accounts

/-! ## What is asked of a snapshot -/

/-- The tracker has the true position of every instrument of the universe. -/
def Tracks : Prop :=
  ∀ id st, l.strategy.state.lookup id = some st →
    l.strategy.positions.netQty id st.exchangeId = l.accounts.position id

/-- A spot instrument whose currency is known. -/
def isSpot (exchange : ExchangeId) (st : InstrumentState Sig) : Bool :=
  decide (st.exchangeId = exchange ∧ st.instrumentType = .SPOT ∧ st.baseCcy ≠ "")

/-- The spot instrument that a symbol of the exchange stands for. -/
def spotOf (exchange : ExchangeId) (symbol : String) : Option (InstrumentState Sig) :=
  (Table.vals l.strategy.state).reverse.find? fun st => isSpot exchange st && st.symbol == symbol

/-- The rows of a currency say what the account holds of it, and the rows of a symbol the position
of the instrument that it stands for, in units of the venue; one that is open has a row. -/
structure Truthful (exchange : ExchangeId) (r : AccountResponse) : Prop where
  balances : ∀ b ∈ r.balances, b.eq = l.accounts.holdings exchange b.ccy
  positions : ∀ id st, l.strategy.state.lookup id = some st → st.exchangeId = exchange →
    l.spotOf exchange st.symbol = none →
      (∀ p ∈ r.positions, p.symbol = st.symbol →
        p.qty = ofE8 (l.accounts.position id) / m.unit id) ∧
      (l.accounts.position id ≠ 0 → st.symbol ∈ r.positions.map (·.symbol))

def TruthfulEvent (l : Ledger Sig) : LedgerEvent → Prop
  | .callback .. => True
  | .snapshot exchange response _ _ _ => l.Truthful m exchange response

/-- When the tracker is right, the snapshot finds no divergence, and leaves every position. -/
def Clean (l : Ledger Sig) : LedgerEvent → Prop
  | .callback .. => True
  | .snapshot exchange response correlationId nowNs _ =>
    l.Tracks →
      let r := l.strategy.onAccountSnapshot (published exchange response correlationId nowNs)
      r.2 = 0 ∧ r.1.positions = l.strategy.positions

/-- The adapter has a row of the currency. -/
def HasRow (exchange : ExchangeId) (r : AccountResponse) (ccy : String) : Prop :=
  ∃ b ∈ r.balances, passesBalance exchange b = true ∧ b.ccy = ccy

instance (exchange : ExchangeId) (r : AccountResponse) (ccy : String) :
    Decidable (HasRow exchange r ccy) :=
  inferInstanceAs (Decidable (∃ b ∈ r.balances, passesBalance exchange b = true ∧ b.ccy = ccy))

/-- What the account has gained of a currency since the first snapshot; nothing when that was of
another exchange, or when either snapshot has no row of the currency. -/
def gained (exchange : ExchangeId) (r : AccountResponse) (ccy : String) : Int :=
  match l.first with
  | none => 0
  | some f =>
    if f.exchange = exchange ∧ HasRow exchange f.response ccy ∧ HasRow exchange r ccy then
      OrderGateway.roundE8 (l.accounts.holdings exchange ccy) - OrderGateway.roundE8 (f.holdings ccy)
    else 0

/-- A contract, in units of the venue for units of base currency. -/
def inVenueUnits (id : Nat) : Int :=
  OrderGateway.roundE8 (ofE8 (l.accounts.position id) / m.unit id)

/-- What the exchange makes of an instrument: of spot the gain of the currency, of a contract the
count of its units. -/
def reported (exchange : ExchangeId) (r : AccountResponse) (id : Nat) (symbol : String) : Int :=
  match l.spotOf exchange symbol with
  | some spot => l.gained exchange r spot.baseCcy
  | none => l.inVenueUnits m id

/-- Of every instrument on the exchange this is near enough to the position. -/
def Agrees (l : Ledger Sig) : LedgerEvent → Prop
  | .callback .. => True
  | .snapshot exchange response _ _ _ =>
    l.Tracks →
      ∀ id st, l.strategy.state.lookup id = some st → st.exchangeId = exchange →
        |l.accounts.position id - l.reported m exchange response id st.symbol| ≤
          kDivergenceThresholdE8

/-! ## The exchange's view -/

section View

variable {l}

/-- One spot instrument drops what was seen under its symbol, for what its currency gained. -/
theorem lookup_spotView (exchange : ExchangeId) (currencies : Table String Int)
    (baseline : Table (Option ExchangeId × String) Int) (view : Table String Int)
    (st : InstrumentState Sig) (symbol : String) :
    (spotView (some exchange) currencies baseline view st).lookup symbol =
      if isSpot exchange st && st.symbol == symbol then
        match currencies.lookup st.baseCcy, baseline.lookup (some exchange, st.baseCcy) with
        | some current, some initial => some (current - initial)
        | _, _ => none
      else view.lookup symbol := by
  have hinsert : ∀ v, (view.insert st.symbol v).lookup symbol =
      if st.symbol = symbol then some v else view.lookup symbol := by
    intro v
    rw [Table.lookup_insert_eq]
    exact if_congr eq_comm rfl rfl
  have herase : (view.erase st.symbol).lookup symbol =
      if st.symbol = symbol then none else view.lookup symbol := by
    rw [Table.lookup_erase_eq]
    exact if_congr eq_comm rfl rfl
  unfold spotView isSpot
  by_cases hspot : st.exchangeId = exchange ∧ st.instrumentType = .SPOT ∧ st.baseCcy ≠ ""
  · rw [if_pos ⟨congrArg some hspot.1, hspot.2⟩, decide_eq_true hspot, Bool.true_and]
    simp only [beq_iff_eq]
    cases currencies.lookup st.baseCcy with
    | none => exact herase
    | some current =>
      cases baseline.lookup (some exchange, st.baseCcy) with
      | none => exact herase
      | some initial => exact hinsert _
  · rw [if_neg fun h => hspot ⟨Option.some.inj h.1, h.2⟩, decide_eq_false hspot, Bool.false_and]
    rfl

/-- The symbols that a spot instrument stands for are seen through its currency. -/
theorem lookup_foldl_spotView (exchange : ExchangeId) (currencies : Table String Int)
    (baseline : Table (Option ExchangeId × String) Int) (sts : List (InstrumentState Sig))
    (raw : Table String Int) (symbol : String) :
    (sts.foldl (spotView (some exchange) currencies baseline) raw).lookup symbol =
      match sts.reverse.find? fun st => isSpot exchange st && st.symbol == symbol with
      | some spot =>
        match currencies.lookup spot.baseCcy, baseline.lookup (some exchange, spot.baseCcy) with
        | some current, some initial => some (current - initial)
        | _, _ => none
      | none => raw.lookup symbol := by
  induction sts using List.reverseRecOn with
  | nil => rfl
  | append_singleton sts st ih =>
    rw [List.foldl_concat, lookup_spotView, List.reverse_concat, List.find?_cons]
    cases isSpot exchange st && st.symbol == symbol with
    | true => rfl
    | false => exact ih

theorem lookup_currencies {exchange : ExchangeId} {r : AccountResponse}
    (hbalances : ∀ b ∈ r.balances, b.eq = l.accounts.holdings exchange b.ccy)
    (correlationId nowNs : Nat) (ccy : String) :
    (extractExchangeCurrencyBalances (published exchange r correlationId nowNs)).lookup ccy =
      if HasRow exchange r ccy then
        some (OrderGateway.roundE8 (l.accounts.holdings exchange ccy))
      else none := by
  unfold extractExchangeCurrencyBalances published message fetchAccountSnapshot
  simp only [List.map_map]
  rw [Table.lookup_ofPairs_of_forall (v := OrderGateway.roundE8 (l.accounts.holdings exchange ccy))]
  · refine if_congr ?_ rfl rfl
    simp only [HasRow, List.map_map, List.mem_map, List.mem_filter, Function.comp_apply,
      OrderGateway.balanceRow, and_assoc]
  · intro p hp hccy
    obtain ⟨b, hb, rfl⟩ := List.mem_map.mp hp
    have hmem := (List.mem_filter.mp hb).1
    show OrderGateway.roundE8 b.eq = _
    rw [hbalances b hmem]
    exact congrArg (fun ccy => OrderGateway.roundE8 (l.accounts.holdings exchange ccy)) hccy

/-- A contract's symbol is seen as the count of its units. -/
theorem lookup_positions {exchange : ExchangeId} {r : AccountResponse} {id : Nat} {symbol : String}
    (hqty : ∀ p ∈ r.positions, p.symbol = symbol →
      p.qty = ofE8 (l.accounts.position id) / m.unit id)
    (hopen : l.accounts.position id ≠ 0 → symbol ∈ r.positions.map (·.symbol))
    (correlationId nowNs : Nat) :
    ((extractExchangePositions (published exchange r correlationId nowNs)).lookup symbol).getD 0 =
      l.inVenueUnits m id := by
  unfold extractExchangePositions published message fetchAccountSnapshot
  simp only [List.map_map]
  rw [Table.lookup_ofPairs_of_forall (v := l.inVenueUnits m id)]
  · split
    · rfl
    · next hnone =>
      -- no row is left: the position is flat, in units of the venue at least
      have hzero : ofE8 (l.accounts.position id) / m.unit id = 0 := by
        by_contra hne
        have hposition : l.accounts.position id ≠ 0 := by
          intro h
          rw [h, ofE8_zero, zero_div] at hne
          exact hne rfl
        obtain ⟨p, hp, hsymbol⟩ := List.mem_map.mp (hopen hposition)
        refine hnone (List.mem_map.mpr ⟨_, List.mem_map.mpr ⟨p, ?_, rfl⟩, hsymbol⟩)
        refine List.mem_filter.mpr ⟨hp, decide_eq_true ?_⟩
        rw [hqty p hp hsymbol]
        exact hne
      rw [inVenueUnits, hzero, ← ofE8_zero, OrderGateway.roundE8_ofE8]
      rfl
  · intro p hp hsymbol
    obtain ⟨q, hq, rfl⟩ := List.mem_map.mp hp
    have hmem := (List.mem_filter.mp hq).1
    show OrderGateway.roundE8 q.qty = _
    rw [hqty q hmem hsymbol]
    rfl

end View

/-! ## The baseline -/

/-- The baseline is what the first snapshot's account held, where it had rows. -/
structure Baseline : Prop where
  none_eq : l.first = none → l.strategy.baseline = (false, ∅)
  some_eq : ∀ f, l.first = some f → l.strategy.baseline.1 = true ∧
    ∀ ex ccy, l.strategy.baseline.2.lookup (ex, ccy) =
      if ex = some f.exchange ∧ HasRow f.exchange f.response ccy then
        some (OrderGateway.roundE8 (f.holdings ccy))
      else none

theorem Baseline.start (nextOrderId : Nat) (accounts : Accounts) :
    Baseline (init nextOrderId accounts : Ledger Sig) where
  none_eq _ := rfl
  some_eq f h := by cases h

end Ledger

/-- The callbacks other than snapshots leave the baseline. -/
theorem step_baseline {Sig : Type} (cfg : Config Sig) (s : AvellanedaStoikov Sig) {c : Callback}
    (haccount : ∀ snap, c ≠ .accountSnapshot snap)
    (hrefdata : ∀ resolved, c ≠ .instrumentSnapshot resolved) (env : Surroundings) :
    (s.step cfg (c, env)).1.baseline = s.baseline := by
  have hupdate : ∀ id f, (s.update id f).baseline = s.baseline := by
    intro id f
    unfold update
    split <;> rfl
  cases c with
  | instrumentSnapshot resolved => exact absurd rfl (hrefdata resolved)
  | accountSnapshot snap => exact absurd rfl (haccount snap)
  | trade tick => exact hupdate _ _
  | orderBook book => exact hupdate _ _
  | toxicityUpdate update => exact hupdate _ _
  | instrumentDelta inst inUniverse updateType =>
    show (s.onInstrumentDelta cfg inst inUniverse updateType).baseline = _
    unfold onInstrumentDelta
    cases updateType with
    | ADD =>
      dsimp only
      split <;> rfl
    | MODIFY | REMOVE => rfl
  | bbo tick =>
    show (s.onBbo cfg env tick).1.baseline = _
    unfold onBbo
    split
    · rfl
    · split
      · rfl
      · split <;> rfl
  | refdataStaleChanged stale =>
    show (s.onRefdataStaleChanged env stale).1.baseline = _
    unfold onRefdataStaleChanged
    split
    · rfl
    · dsimp only
      split <;> rfl
  | execReport rpt source =>
    show (s.onExecReport cfg env rpt source).1.baseline = _
    unfold onExecReport
    dsimp only
    split
    · rfl
    · split <;> rfl

theorem lookup_enterAll (ex ex' : Option ExchangeId) (rows : Table String Int) (ccy : String) :
    (enterAll ex rows ∅).lookup (ex', ccy) = if ex' = ex then rows.lookup ccy else none := by
  have henter : enterAll ex rows ∅ = .ofPairs (rows.entries.map fun e => ((ex, e.1), e.2)) := by
    rw [Table.ofPairs, List.foldl_map]
    rfl
  have hpair : ∀ p ∈ rows.entries.map fun e => ((ex, e.1), e.2), p.1 = (ex', ccy) →
      ex' = ex ∧ rows.lookup ccy = some p.2 := by
    intro p hp hkey
    obtain ⟨e, he, rfl⟩ := List.mem_map.mp hp
    obtain ⟨rfl, rfl⟩ := Prod.mk.inj hkey
    exact ⟨rfl, Table.mem_entries_iff.mp he⟩
  rw [henter, Table.lookup_ofPairs_of_forall (v := (rows.lookup ccy).getD 0)]
  · split
    · next hmem =>
      obtain ⟨p, hp, hkey⟩ := List.mem_map.mp hmem
      obtain ⟨hex, hrow⟩ := hpair p hp hkey
      rw [if_pos hex, hrow]
      rfl
    · next hnone =>
      split
      · next hex =>
        cases hrow : rows.lookup ccy with
        | none => rfl
        | some v =>
          subst hex
          refine absurd (List.mem_map.mpr ⟨((ex', ccy), v), ?_, rfl⟩) hnone
          exact List.mem_map.mpr ⟨⟨ccy, v⟩, Table.mem_entries_iff.mpr hrow, rfl⟩
      · rfl
  · intro p hp hkey
    rw [(hpair p hp hkey).2]
    rfl

section Snapshot

variable {Sig : Type} (s : AvellanedaStoikov Sig)

theorem onAccountSnapshot_baseline (snap : AccountSnapshot) :
    (s.onAccountSnapshot snap).1.baseline =
      if s.baseline.1 then s.baseline
      else (true, enterAll snap.exchangeId (extractExchangeCurrencyBalances snap) s.baseline.2) := by
  unfold onAccountSnapshot captureBaseline baseline
  dsimp only
  split <;> simp_all

theorem mem_symbolMap {exchange : ExchangeId} {p : Nat × String} :
    p ∈ s.symbolMap (some exchange) ↔
      ∃ st, s.state.lookup p.1 = some st ∧ st.exchangeId = exchange ∧ st.symbol = p.2 := by
  unfold symbolMap
  rw [List.mem_filterMap]
  constructor
  · rintro ⟨e, he, hsome⟩
    split at hsome
    · next hex =>
      cases hsome
      exact ⟨e.2, Table.mem_entries_iff.mp he, Option.some.inj hex, rfl⟩
    · cases hsome
  · rintro ⟨st, hst, hex, hsymbol⟩
    refine ⟨⟨p.1, st⟩, Table.mem_entries_iff.mpr hst, ?_⟩
    rw [if_pos (congrArg some hex), hsymbol]

/-- A snapshot finds nothing, and then changes no position, precisely when the view through the
baseline that it leaves is near enough to every position. -/
theorem onAccountSnapshot_clean_iff {snap : AccountSnapshot} {exchange : ExchangeId}
    (hex : snap.exchangeId = some exchange) :
    ((s.onAccountSnapshot snap).2 = 0 ∧
        (s.onAccountSnapshot snap).1.positions = s.positions) ↔
      ∀ id st, s.state.lookup id = some st → st.exchangeId = exchange →
        |s.positions.netQty id exchange -
            (((Table.vals s.state).foldl
              (spotView (some exchange) (extractExchangeCurrencyBalances snap)
                (s.onAccountSnapshot snap).1.baseline.2)
              (extractExchangePositions snap)).lookup st.symbol).getD 0| ≤
          kDivergenceThresholdE8 := by
  let view := (Table.vals s.state).foldl
    (spotView (some exchange) (extractExchangeCurrencyBalances snap)
      (s.onAccountSnapshot snap).1.baseline.2)
    (extractExchangePositions snap)
  let found := reconcile s.positions view exchange kDivergenceThresholdE8
    (s.symbolMap (some exchange))
  have hresult : (s.onAccountSnapshot snap).2 = found.length ∧
      (s.onAccountSnapshot snap).1.positions =
        seedAll (extractExchangePositionRows snap) found s.positions := by
    unfold found view
    unfold onAccountSnapshot divergences exchangeView symbolMap baseline
    simp only [hex, captureBaseline_state, captureBaseline_positions, and_self]
  rw [hresult.1, hresult.2, List.length_eq_zero_iff]
  constructor
  · rintro ⟨hfound, -⟩ id st hst hstex
    have hall := (reconcile_eq_nil_iff _ _ _ _ _).mp hfound
    exact hall (id, st.symbol) ((mem_symbolMap s).mpr ⟨st, hst, hstex, rfl⟩)
  · intro hall
    have hfound : found = [] := by
      refine (reconcile_eq_nil_iff _ _ _ _ _).mpr fun p hp => ?_
      obtain ⟨st, hst, hstex, hsymbol⟩ := (mem_symbolMap s).mp hp
      rw [← hsymbol]
      exact hall p.1 st hst hstex
    rw [hfound]
    exact ⟨rfl, rfl⟩

end Snapshot

namespace Ledger

variable {Sig : Type} {cfg : Config Sig} {m : Listing} {l : Ledger Sig}

/-- A snapshot leaves the baseline of the first one, which may be this one. -/
theorem Baseline.after_snapshot (h : l.Baseline) {exchange : ExchangeId} {r : AccountResponse}
    (hbalances : ∀ b ∈ r.balances, b.eq = l.accounts.holdings exchange b.ccy)
    (correlationId nowNs : Nat) :
    let after :=
      (l.strategy.onAccountSnapshot (published exchange r correlationId nowNs)).1.baseline
    let f := l.first.getD ⟨exchange, r, l.accounts.holdings exchange⟩
    after.1 = true ∧ ∀ ex ccy, after.2.lookup (ex, ccy) =
      if ex = some f.exchange ∧ HasRow f.exchange f.response ccy then
        some (OrderGateway.roundE8 (f.holdings ccy))
      else none := by
  dsimp only
  rw [onAccountSnapshot_baseline]
  cases hl : l.first with
  | none =>
    rw [h.none_eq hl, if_neg Bool.false_ne_true]
    refine ⟨rfl, fun ex ccy => ?_⟩
    dsimp only
    rw [lookup_enterAll, lookup_currencies hbalances, ← ite_and]
    rfl
  | some f =>
    obtain ⟨hcaptured, hlookup⟩ := h.some_eq f hl
    rw [if_pos hcaptured]
    exact ⟨hcaptured, hlookup⟩

theorem Baseline.step (h : l.Baseline) {e : LedgerEvent} (he : l.TruthfulEvent m e) :
    (l.step cfg m e).1.Baseline := by
  cases e with
  | callback c settled env haccount =>
    by_cases hrefdata : ∃ resolved, c = .instrumentSnapshot resolved
    · obtain ⟨resolved, rfl⟩ := hrefdata
      exact ⟨fun _ => rfl, fun f hf => by cases hf⟩
    · have hbaseline := step_baseline cfg l.strategy haccount
        (fun resolved hc => hrefdata ⟨resolved, hc⟩) env
      have hfirst : l.firstAfter c = l.first := by
        cases c with
        | instrumentSnapshot resolved => exact absurd ⟨resolved, rfl⟩ hrefdata
        | _ => rfl
      constructor
      · intro hnone
        exact hbaseline.trans (h.none_eq (hfirst.symm.trans hnone))
      · intro f hf
        have hsome := h.some_eq f (hfirst.symm.trans hf)
        rw [← hbaseline] at hsome
        exact hsome
  | snapshot exchange r correlationId nowNs env =>
    have hafter := h.after_snapshot he.balances correlationId nowNs
    have hfirst : (l.step cfg m (.snapshot exchange r correlationId nowNs env)).1.first =
        some (l.first.getD ⟨exchange, r, l.accounts.holdings exchange⟩) := Option.or_some
    constructor
    · intro hnone
      rw [hfirst] at hnone
      cases hnone
    · intro f hf
      rw [hfirst] at hf
      rw [← Option.some.inj hf]
      exact hafter

/-- The exchange's view, through the baseline that the snapshot leaves. -/
theorem lookup_view (h : l.Baseline) {exchange : ExchangeId} {r : AccountResponse}
    (ht : l.Truthful m exchange r) (correlationId nowNs : Nat) {id : Nat}
    {st : InstrumentState Sig} (hst : l.strategy.state.lookup id = some st)
    (hex : st.exchangeId = exchange) :
    (((Table.vals l.strategy.state).foldl
      (spotView (some exchange)
        (extractExchangeCurrencyBalances (published exchange r correlationId nowNs))
        (l.strategy.onAccountSnapshot (published exchange r correlationId nowNs)).1.baseline.2)
      (extractExchangePositions (published exchange r correlationId nowNs))).lookup
        st.symbol).getD 0 =
      l.reported m exchange r id st.symbol := by
  rw [lookup_foldl_spotView]
  unfold reported
  cases hspot : l.spotOf exchange st.symbol with
  | none =>
    obtain ⟨hqty, hopen⟩ := ht.positions id st hst hex hspot
    rw [spotOf] at hspot
    rw [hspot]
    exact lookup_positions m hqty hopen correlationId nowNs
  | some spot =>
    rw [spotOf] at hspot
    rw [hspot]
    dsimp only
    rw [lookup_currencies ht.balances, (h.after_snapshot ht.balances correlationId nowNs).2]
    unfold gained
    cases l.first with
    | none =>
      by_cases hrow : HasRow exchange r spot.baseCcy
      · simp [hrow]
      · simp [hrow]
    | some f =>
      by_cases hsame : f.exchange = exchange
      · subst hsame
        by_cases hrow : HasRow f.exchange r spot.baseCcy
        · by_cases hfirst : HasRow f.exchange f.response spot.baseCcy
          · simp [hrow, hfirst]
          · simp [hrow, hfirst]
        · simp [hrow]
      · by_cases hrow : HasRow exchange r spot.baseCcy
        · simp [hrow, hsame, Ne.symm hsame]
        · simp [hrow, hsame]

/-! ## Clean snapshots -/

theorem clean_iff_agrees (h : l.Baseline) {e : LedgerEvent} (he : l.TruthfulEvent m e) :
    l.Clean e ↔ l.Agrees m e := by
  cases e with
  | callback => exact Iff.rfl
  | snapshot exchange r correlationId nowNs env =>
    refine forall_congr' fun htracks => ?_
    have hexchange : (published exchange r correlationId nowNs).exchangeId = some exchange := rfl
    refine (onAccountSnapshot_clean_iff l.strategy hexchange).trans ?_
    refine forall₄_congr fun id st hst hex => ?_
    have hqty := htracks id st hst
    rw [hex] at hqty
    rw [lookup_view h he correlationId nowNs hst hex, hqty]

/-- A hundredth of a bitcoin a contract. -/
def swaps : Listing where
  base _ := none
  unit _ := 1 / 100

def nothing : Accounts where
  position _ := 0
  holdings _ _ := 0

/-- A bitcoin is bought, and the exchange counts a hundred contracts. -/
def contractsEvents : List LedgerEvent :=
  [.callback (.instrumentSnapshot [swap]) (fun _ _ => 0) calm (by nofun),
   .callback (.bbo (swapTick 1 100 102)) (fun _ _ => 0) calm (by nofun),
   .callback (.execReport (swapReport 1 .FILLED .BUY 100000000) .EXCHANGE) (fun _ _ => 0) calm
     (by nofun),
   .snapshot .OKX ⟨1000, 1000, [], [⟨"BTC-USDT-SWAP", 100, 100, 0⟩]⟩ 7 3 calm]

/-- The bitcoin is on the books. -/
def bought : Ledger Unit :=
  Machine.exec (step swapConfig swaps) (init 1 nothing) (contractsEvents.take 3)

theorem bought_state : ∀ e ∈ bought.strategy.state.entries, e.1 = 102 ∧
    e.2.symbol = "BTC-USDT-SWAP" ∧
    bought.strategy.positions.netQty e.1 e.2.exchangeId = bought.accounts.position e.1 := by
  decide +kernel

theorem contracts_truthful :
    Machine.AlongRun (step swapConfig swaps) (TruthfulEvent swaps) (init 1 nothing)
      contractsEvents := by
  refine ⟨trivial, trivial, trivial, ⟨?_, ?_⟩, trivial⟩
  · intro b hb
    exact absurd hb List.not_mem_nil
  · intro id st hst hex hspot
    obtain ⟨hid, hsymbol, -⟩ := bought_state ⟨id, st⟩ (Table.mem_entries_iff.mpr hst)
    obtain rfl : id = 102 := hid
    have hqty : 100 = ofE8 (bought.accounts.position 102) / (1 / 100) := by decide +kernel
    refine ⟨fun p hp _ => ?_, fun _ => ?_⟩
    · obtain rfl := List.mem_singleton.mp hp
      exact hqty
    · exact List.mem_singleton.mpr hsymbol

end Ledger

end AvellanedaStoikov

end BptCore.Strategy
