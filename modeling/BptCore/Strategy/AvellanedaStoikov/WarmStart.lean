import BptCore.Common.Util.Json
import BptCore.Strategy.AvellanedaStoikov.Estimators

/-!
# The warm start

What the strategy saves of its estimators when it shuts down, and how a strategy that starts takes
it over. A field that is missing has a default, and one of another kind makes the code throw: what
was restored until then stays. Casts of numbers that are not of the type are left out: none is
saved.

* **`saveState`** — the file.
* **`loadState`** — the load of a file.
* **`Coherent`**, **`Reachable`** — what is saved once stands for what the estimators keep
  twice, in every state that the strategy can be in.
* **`loadState_continues`** — after a load the estimators go on as if nothing had happened.
-/

namespace BptCore.Strategy.AvellanedaStoikov

open BptCore.Features BptCore.Common

variable {R : Type}

/-! ## The file -/

/-- `kWarmStartSchemaVersion`. -/
def kWarmStartSchemaVersion : Int := 1

def saveRegime (snap : RegimeDetector.StateSnapshot) : Json :=
  .obj
    [("regime", .num snap.regime.toInt), ("hurst", .num snap.hurst), ("last_mid", .num snap.lastMid),
      ("returns", .arr (snap.returns.map Json.num)), ("tick_count", .num snap.tickCount)]

def saveInstrument (instrumentId : Nat) (v : MarketView) : Json :=
  .obj
    [("instrument_id", .num instrumentId), ("symbol", .str v.symbol), ("exchange", .str v.exchange),
      ("ewma_var", .num v.estimators.ewmaVar.value),
      ("ewma_ticks", .num v.estimators.ewmaVar.count), ("last_mid", .num v.lastMid),
      ("last_tick_ns", .num v.lastTickNs), ("ewma_drift", .num v.estimators.ewmaDrift.value),
      ("drift_ticks", .num v.estimators.ewmaDrift.count),
      ("ewma_kappa", .num v.estimators.ewmaKappa.value),
      ("kappa_ticks", .num v.estimators.ewmaKappa.count),
      ("last_trade_ns", .num v.estimators.lastTradeNs),
      ("regime", saveRegime v.estimators.regime.snapshotState)]

/-- `save_state`, with the time of the save. -/
def saveState (s : AvellanedaStoikov (Estimators × R)) (savedAtNs : Nat) : Json :=
  .obj
    [("version", .num kWarmStartSchemaVersion), ("saved_at_ns", .num savedAtNs),
      ("instruments", .arr (s.state.entries.map fun e => saveInstrument e.1 e.2.view))]

/-! ## Reading it -/

/-- `value(key, dflt)` of the JSON library: `none` when it throws. -/
def valueOr {α : Type} (j : Json) (key : String) (read : Json → Option α) (dflt : α) : Option α :=
  match j with
  | .obj fields =>
    match JsonObject.find fields key with
    | none => some dflt
    | some v => read v
  | _ => none

def readDouble : Json → Option ℚ
  | .num x => some x
  | _ => none

/-- Of `uint64_t` and `size_t`. -/
def readUnsigned : Json → Option Nat
  | .num x => some (x.num.toNat / x.den)
  | _ => none

def readInt : Json → Option Int
  | .num x => some (x.num.tdiv x.den)
  | .bool b => some (if b then 1 else 0)
  | _ => none

/-- Of `std::vector<double>`. -/
def readDoubles : Json → Option (List ℚ)
  | .arr items => items.mapM readDouble
  | _ => none

/-- Statements one after the other, up to one that throws. -/
def runStatements {α : Type} : List (Option (α → α)) → α → α × Bool
  | [], a => (a, true)
  | none :: _, a => (a, false)
  | some f :: rest, a => runStatements rest (f a)

/-- The times and the mid that more than one estimator is restored from. -/
structure LastSeen where
  lastMid : ℚ
  lastTickNs : Nat
  lastTradeNs : Nat

def readLastSeen (j : Json) : Option LastSeen := do
  let lastMid ← valueOr j "last_mid" readDouble 0
  let lastTickNs ← valueOr j "last_tick_ns" readUnsigned 0
  let lastTradeNs ← valueOr j "last_trade_ns" readUnsigned 0
  return ⟨lastMid, lastTickNs, lastTradeNs⟩

/-- A statement on the estimators of an instrument. -/
def onEstimators (f : Estimators → Estimators) (st : InstrumentState (Estimators × R)) :
    InstrumentState (Estimators × R) :=
  { st with signals := (f st.signals.1, st.signals.2) }

def restoreVar (last : LastSeen) (j : Json) : Option (Estimators → Estimators) := do
  let value ← valueOr j "ewma_var" readDouble 0
  let count ← valueOr j "ewma_ticks" readUnsigned 0
  return fun e =>
    { e with ewmaVar := e.ewmaVar.restore ⟨value, count, last.lastMid, last.lastTickNs⟩ }

def restoreDrift (last : LastSeen) (j : Json) : Option (Estimators → Estimators) := do
  let value ← valueOr j "ewma_drift" readDouble 0
  let count ← valueOr j "drift_ticks" readUnsigned 0
  return fun e =>
    { e with ewmaDrift := e.ewmaDrift.restore ⟨value, count, last.lastMid, last.lastTickNs⟩ }

def restoreKappa (last : LastSeen) (j : Json) : Option (Estimators → Estimators) := do
  let value ← valueOr j "ewma_kappa" readDouble 0
  let count ← valueOr j "kappa_ticks" readUnsigned 0
  return fun e => { e with ewmaKappa := e.ewmaKappa.restore ⟨value, count, last.lastTradeNs⟩ }

def restoreLast (last : LastSeen) (st : InstrumentState (Estimators × R)) :
    InstrumentState (Estimators × R) :=
  onEstimators (fun e => { e with lastTradeNs := last.lastTradeNs })
    { st with lastMid := last.lastMid, lastTickNs := last.lastTickNs }

/-- The regime is only restored when it is there. -/
def restoreRegime (j : Json) : Option (Estimators → Estimators) :=
  match (j.asObject.getD []).find "regime" with
  | none => some id
  | some r => do
    let regime ← valueOr r "regime" readInt 0
    let hurst ← valueOr r "hurst" readDouble (1 / 2)
    let lastMid ← valueOr r "last_mid" readDouble 0
    let tickCount ← valueOr r "tick_count" readUnsigned 0
    let returns ← valueOr r "returns" readDoubles []
    return fun e =>
      { e with regime := e.regime.restoreState ⟨.ofInt regime, hurst, lastMid, returns, tickCount⟩ }

/-- The statements that restore an instrument. -/
def restoreStatements (j : Json) :
    List (Option (InstrumentState (Estimators × R) → InstrumentState (Estimators × R))) :=
  match readLastSeen j with
  | none => [none]
  | some last =>
    [(restoreVar last j).map onEstimators, (restoreDrift last j).map onEstimators,
      (restoreKappa last j).map onEstimators, some (restoreLast last),
      (restoreRegime j).map onEstimators]

section Load

variable (s : AvellanedaStoikov (Estimators × R))

/-- One instrument of the file, and whether the loop goes on. -/
def loadInstrument (j : Json) : AvellanedaStoikov (Estimators × R) × Bool :=
  match valueOr j "instrument_id" readUnsigned 0 with
  | none => (s, false)
  | some instrumentId =>
    match s.state.lookup instrumentId with
    | none => (s, true)
    | some st =>
      match valueOr j "symbol" Json.asString "", valueOr j "exchange" Json.asString "" with
      | some savedSym, some savedEx =>
        if savedSym ≠ st.symbol ∨ savedEx ≠ st.exchange then (s, true)
        else
          let r := runStatements (restoreStatements j) st
          ({ s with state := s.state.insert instrumentId r.1 }, r.2)
      | _, _ => (s, false)

def loadInstruments (s : AvellanedaStoikov (Estimators × R)) :
    List Json → AvellanedaStoikov (Estimators × R)
  | [] => s
  | j :: js =>
    let r := loadInstrument s j
    if r.2 then loadInstruments r.1 js else r.1

/-- The age of a file against what is allowed; both are unsigned. -/
def freshEnough (savedAtNs nowNs maxAgeS : Nat) : Prop :=
  nowNs - savedAtNs ≤ maxAgeS * 1000000000 % 2 ^ 64

instance (savedAtNs nowNs maxAgeS : Nat) : Decidable (freshEnough savedAtNs nowNs maxAgeS) :=
  inferInstanceAs (Decidable (_ ≤ _))

/-- `load_state` of a file that is there and that the parser takes. -/
def loadState (nowNs maxAgeS : Nat) (root : Json) : AvellanedaStoikov (Estimators × R) :=
  match valueOr root "version" readInt 0 with
  | none => s
  | some version =>
    if version ≠ kWarmStartSchemaVersion then s
    else
      match valueOr root "saved_at_ns" readUnsigned 0 with
      | none => s
      | some savedAtNs =>
        if ¬ freshEnough savedAtNs nowNs maxAgeS then s
        else
          match valueOr root "instruments" some (.arr []) with
          | none => s
          | some instruments => loadInstruments s instruments.elements

end Load

/-! ## What is read back -/

@[simp] theorem readUnsigned_natCast (n : Nat) : readUnsigned (.num n) = some n := by
  simp [readUnsigned]

@[simp] theorem readInt_intCast (n : Int) : readInt (.num n) = some n := by
  simp [readInt]

@[simp] theorem readDoubles_map_num (xs : List ℚ) :
    readDoubles (.arr (xs.map Json.num)) = some xs := by
  show (xs.map Json.num).mapM readDouble = some xs
  induction xs with
  | nil => rfl
  | cons x xs ih =>
    rw [List.map_cons, List.mapM_cons, ih]
    rfl

namespace MarketView

variable (v saved : MarketView)

/-- The view of an instrument after the load of what was saved of another one. -/
def restored : MarketView :=
  { v with
    lastMid := saved.lastMid
    lastTickNs := saved.lastTickNs
    estimators :=
      { ewmaVar := v.estimators.ewmaVar.restore
          ⟨saved.estimators.ewmaVar.value, saved.estimators.ewmaVar.count, saved.lastMid,
            saved.lastTickNs⟩
        ewmaDrift := v.estimators.ewmaDrift.restore
          ⟨saved.estimators.ewmaDrift.value, saved.estimators.ewmaDrift.count, saved.lastMid,
            saved.lastTickNs⟩
        ewmaKappa := v.estimators.ewmaKappa.restore
          ⟨saved.estimators.ewmaKappa.value, saved.estimators.ewmaKappa.count,
            saved.estimators.lastTradeNs⟩
        regime := v.estimators.regime.restoreState saved.estimators.regime.snapshotState
        lastTradeNs := saved.estimators.lastTradeNs } }

end MarketView

@[simp] theorem view_onEstimators (f : Estimators → Estimators)
    (st : InstrumentState (Estimators × R)) :
    (onEstimators f st).view = { st.view with estimators := f st.view.estimators } := rfl

@[simp] theorem view_restoreLast (last : LastSeen) (st : InstrumentState (Estimators × R)) :
    (restoreLast last st).view =
      { st.view with
        lastMid := last.lastMid
        lastTickNs := last.lastTickNs
        estimators := { st.view.estimators with lastTradeNs := last.lastTradeNs } } := rfl

section RoundTrip

variable (id : Nat) (v : MarketView)

theorem readLastSeen_saveInstrument :
    readLastSeen (saveInstrument id v) =
      some ⟨v.lastMid, v.lastTickNs, v.estimators.lastTradeNs⟩ := by
  simp [readLastSeen, valueOr, saveInstrument, JsonObject.find, List.lookup_cons, readDouble]

theorem restoreRegime_saveInstrument :
    restoreRegime (saveInstrument id v) =
      some fun e =>
        { e with regime := e.regime.restoreState v.estimators.regime.snapshotState } := by
  simp [restoreRegime, valueOr, saveInstrument, saveRegime, JsonObject.find, List.lookup_cons,
    readDouble, Json.asObject, RegimeDetector.snapshotState, Regime.ofInt_toInt]

/-- Nothing that is saved makes the restore throw. -/
theorem runStatements_saveInstrument (st : InstrumentState (Estimators × R)) :
    (runStatements (restoreStatements (saveInstrument id v)) st).2 = true ∧
      (runStatements (restoreStatements (saveInstrument id v)) st).1.view = st.view.restored v := by
  have hvar : ∀ last, restoreVar last (saveInstrument id v) = some fun e =>
      { e with
        ewmaVar := e.ewmaVar.restore
          ⟨v.estimators.ewmaVar.value, v.estimators.ewmaVar.count, last.lastMid,
            last.lastTickNs⟩ } := by
    intro last
    simp [restoreVar, valueOr, saveInstrument, JsonObject.find, List.lookup_cons, readDouble]
  have hdrift : ∀ last, restoreDrift last (saveInstrument id v) = some fun e =>
      { e with
        ewmaDrift := e.ewmaDrift.restore
          ⟨v.estimators.ewmaDrift.value, v.estimators.ewmaDrift.count, last.lastMid,
            last.lastTickNs⟩ } := by
    intro last
    simp [restoreDrift, valueOr, saveInstrument, JsonObject.find, List.lookup_cons, readDouble]
  have hkappa : ∀ last, restoreKappa last (saveInstrument id v) = some fun e =>
      { e with
        ewmaKappa := e.ewmaKappa.restore
          ⟨v.estimators.ewmaKappa.value, v.estimators.ewmaKappa.count, last.lastTradeNs⟩ } := by
    intro last
    simp [restoreKappa, valueOr, saveInstrument, JsonObject.find, List.lookup_cons, readDouble]
  rw [restoreStatements, readLastSeen_saveInstrument]
  simp only [hvar, hdrift, hkappa, restoreRegime_saveInstrument, Option.map_some, runStatements,
    view_onEstimators, view_restoreLast, true_and]
  rfl

end RoundTrip

/-! ## The load of a save -/

/-- What an instrument takes over from a saved one: nothing when the symbol or the exchange is
another. -/
def MarketView.takeOver (saved v : MarketView) : MarketView :=
  if saved.symbol ≠ v.symbol ∨ saved.exchange ≠ v.exchange then v else v.restored saved

section SavedLoad

variable (s : AvellanedaStoikov (Estimators × R))

theorem loadInstrument_saveInstrument (id : Nat) (saved : MarketView) :
    (loadInstrument s (saveInstrument id saved)).2 = true ∧
      (∀ id', viewOf (loadInstrument s (saveInstrument id saved)).1 id' =
        if id' = id then (viewOf s id').map saved.takeOver else viewOf s id') ∧
      (loadInstrument s (saveInstrument id saved)).1.refdataStale = s.refdataStale := by
  have hid : valueOr (saveInstrument id saved) "instrument_id" readUnsigned 0 = some id := by
    simp [valueOr, saveInstrument, JsonObject.find]
  have hsym : valueOr (saveInstrument id saved) "symbol" Json.asString "" = some saved.symbol := by
    simp [valueOr, saveInstrument, JsonObject.find, List.lookup_cons, Json.asString]
  have hex : valueOr (saveInstrument id saved) "exchange" Json.asString "" =
      some saved.exchange := by
    simp [valueOr, saveInstrument, JsonObject.find, List.lookup_cons, Json.asString]
  unfold loadInstrument
  rw [hid, hsym, hex]
  dsimp only
  cases hst : s.state.lookup id with
  | none =>
    refine ⟨rfl, fun id' => ?_, rfl⟩
    dsimp only
    split
    · next heq => rw [viewOf, heq, hst]; rfl
    · rfl
  | some st =>
    dsimp only
    by_cases hother : saved.symbol ≠ st.symbol ∨ saved.exchange ≠ st.exchange
    · rw [if_pos hother]
      refine ⟨rfl, fun id' => ?_, rfl⟩
      split
      · next heq =>
        have hsame : saved.takeOver st.view = st.view := if_pos hother
        rw [viewOf, heq, hst, Option.map_some, Option.map_some, hsame]
      · rfl
    · rw [if_neg hother]
      obtain ⟨hdone, hview⟩ := runStatements_saveInstrument id saved st
      refine ⟨hdone, fun id' => ?_, rfl⟩
      have hsame : saved.takeOver st.view = st.view.restored saved := if_neg hother
      unfold viewOf
      dsimp only
      rw [Table.lookup_insert_eq]
      split
      · next heq => rw [heq, hst, Option.map_some, Option.map_some, Option.map_some, hview, hsame]
      · rfl

/-- The load of a list of saved instruments, each of which has an id of its own. -/
theorem viewOf_loadInstruments {R' : Type}
    {es : List (Sigma fun _ : Nat => InstrumentState (Estimators × R'))} (hes : es.NodupKeys)
    (id : Nat) :
    viewOf (loadInstruments s (es.map fun e => saveInstrument e.1 e.2.view)) id =
        (viewOf s id).map (fun v => ((es.dlookup id).map fun st => st.view.takeOver v).getD v) ∧
      (loadInstruments s (es.map fun e => saveInstrument e.1 e.2.view)).refdataStale =
        s.refdataStale := by
  induction es generalizing s with
  | nil => exact ⟨Option.map_id'.symm, rfl⟩
  | cons e es ih =>
    obtain ⟨id₀, st₀⟩ := e
    obtain ⟨hnew, hrest⟩ := List.nodupKeys_cons.mp hes
    obtain ⟨hdone, hview, hstale⟩ := loadInstrument_saveInstrument s id₀ st₀.view
    rw [List.map_cons, loadInstruments]
    dsimp only
    rw [if_pos hdone]
    obtain ⟨ihview, ihstale⟩ := ih (loadInstrument s (saveInstrument id₀ st₀.view)).1 hrest
    refine ⟨?_, ihstale.trans hstale⟩
    rw [ihview, hview]
    by_cases hid : id = id₀
    · subst hid
      have hnone : es.dlookup id = none := List.dlookup_eq_none.mpr hnew
      rw [if_pos rfl, hnone, List.dlookup_cons_eq, Option.map_map]
      rfl
    · have hne : es.dlookup id = List.dlookup id (⟨id₀, st₀⟩ :: es) :=
        (List.dlookup_cons_ne es ⟨id₀, st₀⟩ hid).symm
      rw [if_neg hid, hne]

/-- **The load of a save.** Every instrument takes over what was saved under its id, if the file is
fresh enough. -/
theorem viewOf_loadState {R' : Type} (s₀ : AvellanedaStoikov (Estimators × R'))
    (savedAtNs nowNs maxAgeS : Nat) (id : Nat) :
    viewOf (loadState s nowNs maxAgeS (saveState s₀ savedAtNs)) id =
        (if freshEnough savedAtNs nowNs maxAgeS then
          (viewOf s id).map fun v => ((viewOf s₀ id).map (·.takeOver v)).getD v
        else viewOf s id) ∧
      (loadState s nowNs maxAgeS (saveState s₀ savedAtNs)).refdataStale = s.refdataStale := by
  have hversion : valueOr (saveState s₀ savedAtNs) "version" readInt 0 =
      some kWarmStartSchemaVersion := by
    simp [valueOr, saveState, JsonObject.find]
  have hsavedAt : valueOr (saveState s₀ savedAtNs) "saved_at_ns" readUnsigned 0 =
      some savedAtNs := by
    simp [valueOr, saveState, JsonObject.find, List.lookup_cons]
  have hinstruments : valueOr (saveState s₀ savedAtNs) "instruments" some (.arr []) =
      some (.arr (s₀.state.entries.map fun e => saveInstrument e.1 e.2.view)) := by
    simp [valueOr, saveState, JsonObject.find, List.lookup_cons]
  unfold loadState
  rw [hversion, hsavedAt, hinstruments]
  dsimp only
  rw [if_neg (not_not.mpr rfl)]
  by_cases hfresh : freshEnough savedAtNs nowNs maxAgeS
  · rw [if_neg (not_not.mpr hfresh), if_pos hfresh]
    obtain ⟨hview, hstale⟩ := viewOf_loadInstruments s s₀.state.nodupKeys id
    refine ⟨hview.trans ?_, hstale⟩
    unfold viewOf
    refine congrArg (Option.map · (Option.map InstrumentState.view (s.state.lookup id))) ?_
    funext v
    rw [Option.map_map]
    rfl
  · rw [if_pos hfresh, if_neg hfresh]
    exact ⟨rfl, rfl⟩

end SavedLoad

/-! ## Reachable states -/

/-- What is saved once stands for what the estimators keep themselves. -/
structure Coherent (c : EstimatorConfig) (v : MarketView) : Prop where
  varLast : v.estimators.ewmaVar.lastMid = v.lastMid ∧ v.estimators.ewmaVar.lastNs = v.lastTickNs
  driftLast : v.estimators.ewmaDrift.lastMid = v.lastMid ∧
    v.estimators.ewmaDrift.lastNs = v.lastTickNs
  kappaLast : v.estimators.ewmaKappa.lastTradeNs = v.estimators.lastTradeNs
  varHalflife : v.estimators.ewmaVar.ewma.halflifeS = c.volHalflifeS
  driftHalflife : v.estimators.ewmaDrift.ewma.halflifeS = c.driftHalflifeS
  kappaHalflife : v.estimators.ewmaKappa.ewma.halflifeS = c.kappaHalflifeS
  regimeCfg : v.estimators.regime.cfg = c.regime
  regimeReturns : v.estimators.regime.returns.length ≤ v.estimators.regime.cfg.hurstWindow

section Coherence

variable {c : EstimatorConfig} {v saved : MarketView} (num : ExpNumerics)

theorem Coherent.onTick (h : Coherent c v) (mid : ℚ) (tsNs : Nat) :
    Coherent c (v.onTick num mid tsNs) := by
  obtain ⟨hcfg, hreturns⟩ := v.estimators.regime.length_update num.toNumerics h.regimeReturns mid
  exact
    { varLast := ⟨rfl, rfl⟩
      driftLast := ⟨rfl, rfl⟩
      kappaLast := h.kappaLast
      varHalflife := (ReturnEwma.update_halflifeS num _ _ _ _).trans h.varHalflife
      driftHalflife := (ReturnEwma.update_halflifeS num _ _ _ _).trans h.driftHalflife
      kappaHalflife := h.kappaHalflife
      regimeCfg := hcfg.trans h.regimeCfg
      regimeReturns := hreturns.trans (le_of_eq (congrArg RegimeConfig.hurstWindow hcfg.symm)) }

theorem Coherent.onTrade (h : Coherent c v) (tsNs : Nat) : Coherent c (v.onTrade num tsNs) :=
  { h with
    kappaLast := rfl
    kappaHalflife := (KappaEstimator.update_halflifeS num _ _).trans h.kappaHalflife }

/-- A load makes a view coherent, whatever was saved. -/
theorem Coherent.takeOver (h : Coherent c v) (saved : MarketView) :
    Coherent c (saved.takeOver v) := by
  unfold MarketView.takeOver
  split
  · exact h
  · exact
      { varLast := ⟨rfl, rfl⟩
        driftLast := ⟨rfl, rfl⟩
        kappaLast := rfl
        varHalflife := h.varHalflife
        driftHalflife := h.driftHalflife
        kappaHalflife := h.kappaHalflife
        regimeCfg := h.regimeCfg
        regimeReturns := v.estimators.regime.length_restoreState _ }

/-- **Everything is taken over** between coherent views of an instrument. -/
theorem Coherent.takeOver_eq (h : Coherent c v) (hsaved : Coherent c saved)
    (hsym : saved.symbol = v.symbol) (hex : saved.exchange = v.exchange) :
    saved.takeOver v = saved := by
  have hsame : ¬ (saved.symbol ≠ v.symbol ∨ saved.exchange ≠ v.exchange) := by simp [hsym, hex]
  have hvar := ReturnEwma.restore_eq (h.varHalflife.trans hsaved.varHalflife.symm)
  have hdrift := ReturnEwma.restore_eq (h.driftHalflife.trans hsaved.driftHalflife.symm)
  have hkappa := KappaEstimator.restore_eq (h.kappaHalflife.trans hsaved.kappaHalflife.symm)
  have hregime := RegimeDetector.restoreState_snapshotState
    (h.regimeCfg.trans hsaved.regimeCfg.symm) hsaved.regimeReturns
  rw [hsaved.varLast.1, hsaved.varLast.2] at hvar
  rw [hsaved.driftLast.1, hsaved.driftLast.2] at hdrift
  rw [hsaved.kappaLast] at hkappa
  rw [MarketView.takeOver, if_neg hsame, MarketView.restored, hvar, hdrift, hkappa, hregime, ← hsym,
    ← hex]

end Coherence

section Reachable

variable (cfg : Config (Estimators × R))

/-- The states of the strategy: from its start on, through callbacks and loads of what a strategy,
of whatever configuration, has saved. -/
inductive Reachable : AvellanedaStoikov (Estimators × R) → Prop
  | start (desk : QuoteDesk) : Reachable { desk := desk }
  | callback {s : AvellanedaStoikov (Estimators × R)} (h : Reachable s)
      (e : Callback × Surroundings) : Reachable (step cfg s e).1
  | load {s : AvellanedaStoikov (Estimators × R)} (h : Reachable s) {R' : Type}
      (s₀ : AvellanedaStoikov (Estimators × R')) (savedAtNs nowNs maxAgeS : Nat) :
      Reachable (loadState s nowNs maxAgeS (saveState s₀ savedAtNs))

theorem allViews_iff {P : MarketView → Prop} {s : AvellanedaStoikov (Estimators × R)} :
    AllViews P s ↔ ∀ id v, viewOf s id = some v → P v := by
  constructor
  · intro h id v hv
    obtain ⟨st, hst, rfl⟩ := Option.map_eq_some_iff.mp hv
    exact h id st hst
  · intro h id st hst
    exact h id st.view (by rw [viewOf, hst]; rfl)

variable {cfg} {num : ExpNumerics} {c : EstimatorConfig} {S : Signals (Estimators × R)}

theorem Coherent.make (hsignals : cfg.signals = withEstimators num c S) (r : ResolvedInstrument) :
    Coherent c (makeInstrumentState cfg.signals r).view := by
  rw [hsignals]
  exact ⟨⟨rfl, rfl⟩, ⟨rfl, rfl⟩, rfl, rfl, rfl, rfl, rfl, Nat.zero_le _⟩

/-- **The run.** Every instrument is coherent in every reachable state. -/
theorem Reachable.coherent (hsignals : cfg.signals = withEstimators num c S)
    {s : AvellanedaStoikov (Estimators × R)} (h : Reachable cfg s) : AllViews (Coherent c) s := by
  induction h with
  | start desk => exact Table.AllVals.empty _
  | callback h e ih =>
    exact ih.step hsignals (Coherent.make hsignals) (fun _ mid tsNs hv => hv.onTick num mid tsNs)
      (fun _ tsNs hv => hv.onTrade num tsNs) e
  | load h s₀ savedAtNs nowNs maxAgeS ih =>
    rename_i s R'
    refine allViews_iff.mpr fun id v hv => ?_
    rw [(viewOf_loadState s s₀ savedAtNs nowNs maxAgeS id).1] at hv
    split at hv
    · obtain ⟨w, hw, rfl⟩ := Option.map_eq_some_iff.mp hv
      have hcoherent := allViews_iff.mp ih id w hw
      cases hsaved : viewOf s₀ id with
      | none => exact hcoherent
      | some saved => exact hcoherent.takeOver saved
    · exact allViews_iff.mp ih id v hv

/-- **The warm start.** Let a strategy be saved with refdata that is not stale, and loaded in time
into a fresh strategy that has the instrument. Whatever ticks and trades come then, in whatever
surroundings, the estimators of the instrument stay the same as in the run that went on. -/
theorem loadState_continues (num : ExpNumerics) (c : EstimatorConfig)
    (S : Signals (Estimators × R)) (cfg : Config (Estimators × R))
    (hsignals : cfg.signals = withEstimators num c S) (s : AvellanedaStoikov (Estimators × R))
    (hreach : Reachable cfg s) (hstale : s.refdataStale = false) (id : Nat)
    (st fresh : InstrumentState (Estimators × R)) (hst : s.state.lookup id = some st)
    (desk : QuoteDesk) (resolved : List ResolvedInstrument)
    (hfresh : (onInstrumentSnapshot cfg { desk := desk } resolved).state.lookup id = some fresh)
    (hsym : fresh.symbol = st.symbol) (hex : fresh.exchange = st.exchange)
    (savedAtNs nowNs maxAgeS : Nat) (hage : freshEnough savedAtNs nowNs maxAgeS)
    (later later' : List (Callback × Surroundings))
    (hlater : ∀ e ∈ later, (∃ tick, e.1 = .bbo tick) ∨ ∃ tick, e.1 = .trade tick)
    (hsame : later'.map Prod.fst = later.map Prod.fst) :
    let loaded := loadState (onInstrumentSnapshot cfg { desk := desk } resolved) nowNs maxAgeS
      (saveState s savedAtNs)
    ∃ st₁ st₂, (Machine.exec (step cfg) s later).state.lookup id = some st₁ ∧
      (Machine.exec (step cfg) loaded later').state.lookup id = some st₂ ∧
      st₂.signals.1 = st₁.signals.1 := by
  intro loaded
  have hview : viewOf s id = some st.view := by rw [viewOf, hst]; rfl
  have hfreshView : viewOf (onInstrumentSnapshot cfg { desk := desk } resolved) id =
      some fresh.view := by rw [viewOf, hfresh]; rfl
  have hreachFresh : Reachable cfg (onInstrumentSnapshot cfg { desk := desk } resolved) :=
    (Reachable.start desk).callback (.instrumentSnapshot resolved, calm)
  have hcoherent := hreach.coherent hsignals id st hst
  have hcoherentFresh := hreachFresh.coherent hsignals id fresh hfresh
  -- the load starts from the view that was saved
  obtain ⟨hload, hloadStale⟩ := viewOf_loadState
    (onInstrumentSnapshot cfg { desk := desk } resolved) s savedAtNs nowNs maxAgeS id
  have hloaded : viewOf loaded id = some st.view := by
    rw [hload, if_pos hage, hfreshView, hview, Option.map_some, Option.map_some,
      Option.getD_some, hcoherentFresh.takeOver_eq hcoherent hsym.symm hex.symm]
  have hlater' : ∀ e ∈ later', (∃ tick, e.1 = .bbo tick) ∨ ∃ tick, e.1 = .trade tick := by
    intro e he
    have hmem : e.1 ∈ later.map Prod.fst := hsame ▸ List.mem_map_of_mem he
    obtain ⟨e₁, he₁, heq⟩ := List.mem_map.mp hmem
    exact heq ▸ hlater e₁ he₁
  have hone := viewOf_exec hsignals s id hlater
  have htwo := viewOf_exec hsignals loaded id hlater'
  rw [hview, hstale, Option.map_some] at hone
  rw [hloaded, hloadStale, hsame, Option.map_some] at htwo
  obtain ⟨st₁, hst₁, hview₁⟩ := Option.map_eq_some_iff.mp hone
  obtain ⟨st₂, hst₂, hview₂⟩ := Option.map_eq_some_iff.mp htwo
  exact ⟨st₁, st₂, hst₁, hst₂, congrArg MarketView.estimators (hview₂.trans hview₁.symm)⟩

theorem Reachable.exec {s : AvellanedaStoikov (Estimators × R)} (h : Reachable cfg s)
    (es : List (Callback × Surroundings)) : Reachable cfg (Machine.exec (step cfg) s es) :=
  Machine.exec_of_inductive (fun _ e hs => hs.callback e) h es

end Reachable

/-! ## One swap -/

section Swap

/-- No quotes, and nothing next to the estimators. -/
def idleSignals : Signals (Estimators × Unit) where
  make _ := (.make ⟨60, 60, 60, {}⟩, ())
  onTrade sig _ := sig
  onOrderBook sig _ := sig
  onToxicityUpdate sig _ := sig
  onTick sig _ := (sig, false, false)
  onFill sig _ _ _ := sig
  quote sig _ _ _ := (sig, 0, none)
  suppressed _ _ _ _ := (false, false)

/-- A numeric library that is easy to compute. -/
def plainLibrary : ExpNumerics where
  log x := x - 1
  sqrt x := x
  exp x := 1 / (1 - x)

def watchConfig : Config (Estimators × Unit) where
  signals := withEstimators plainLibrary ⟨60, 60, 60, {}⟩ idleSignals
  requoteThreshold := 1 / 1000
  pauseBelowRpnlUsd := 0
  pauseCooldownS := 0
  sizer := { orderQty := 1, maxInventory := 2 }
  venueExec := []

/-- The strategy after two ticks of the swap. -/
def watched : AvellanedaStoikov (Estimators × Unit) :=
  Machine.exec (step watchConfig) { desk := { nextOrderId := 1 } }
    [(.instrumentSnapshot [swap], calm), (.bbo (swapTick 1000000000 100 102), calm),
      (.bbo (swapTick 2000000000 101 103), calm)]

theorem reachable_watched : Reachable watchConfig watched := (Reachable.start _).exec _

/-- A strategy that starts again, with what was saved of another one. -/
def restarted (s : AvellanedaStoikov (Estimators × Unit)) : AvellanedaStoikov (Estimators × Unit) :=
  loadState (onInstrumentSnapshot watchConfig { desk := { nextOrderId := 50 } } [swap]) 4000000000
    3600 (saveState s 3000000000)

theorem loadState_continues_watched :
    ∃ st₁ st₂,
      (Machine.exec (step watchConfig) watched
        [(.bbo (swapTick 5000000000 102 104), calm)]).state.lookup 102 = some st₁ ∧
      (Machine.exec (step watchConfig) (restarted watched)
        [(.bbo (swapTick 5000000000 102 104), calm)]).state.lookup 102 = some st₂ ∧
      st₂.signals.1 = st₁.signals.1 := by
  have hwatched : (watched.state.lookup 102).map (fun st => (st.symbol, st.exchange)) =
      some ("BTC-USDT-SWAP", "OKX") := by decide +kernel
  have hfresh : ((onInstrumentSnapshot watchConfig { desk := { nextOrderId := 50 } }
      [swap]).state.lookup 102).map (fun st => (st.symbol, st.exchange)) =
      some ("BTC-USDT-SWAP", "OKX") := by decide +kernel
  obtain ⟨st, hst, hnames⟩ := Option.map_eq_some_iff.mp hwatched
  obtain ⟨fresh, hfresh, hfreshNames⟩ := Option.map_eq_some_iff.mp hfresh
  have hsame := hfreshNames.trans hnames.symm
  refine loadState_continues plainLibrary ⟨60, 60, 60, {}⟩ idleSignals watchConfig rfl watched
    reachable_watched rfl 102 st fresh hst { nextOrderId := 50 } [swap] hfresh
    (congrArg Prod.fst hsame) (congrArg Prod.snd hsame) 3000000000 4000000000 3600 (by decide)
    [(.bbo (swapTick 5000000000 102 104), calm)] [(.bbo (swapTick 5000000000 102 104), calm)] ?_
    rfl
  intro e he
  obtain rfl := List.mem_singleton.mp he
  exact Or.inl ⟨_, rfl⟩

/-- With stale refdata the run that goes on drops the next tick, and the fresh strategy takes it. -/
theorem loadState_stale :
    let stale := Machine.exec (step watchConfig) watched [(.refdataStaleChanged true, calm)]
    let later : List (Callback × Surroundings) := [(.bbo (swapTick 5000000000 102 104), calm)]
    Reachable watchConfig stale ∧ freshEnough 3000000000 4000000000 3600 ∧
      (viewOf (Machine.exec (step watchConfig) stale later) 102).map
        (·.estimators.ewmaVar.count) = some 1 ∧
      (viewOf (Machine.exec (step watchConfig) (restarted stale) later) 102).map
        (·.estimators.ewmaVar.count) = some 2 := by
  intro stale later
  exact ⟨reachable_watched.exec _, by decide, by decide +kernel, by decide +kernel⟩

end Swap

end BptCore.Strategy.AvellanedaStoikov
