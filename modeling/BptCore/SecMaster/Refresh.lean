import BptCore.Lib.Machine
import BptCore.SecMaster.History

/-!
# The refresh of the security master

For every venue the refresher opens a row in the log of runs, fetches what the venue lists, and
upserts it in a second transaction. An upsert that fails is counted, and the loop goes on; but the
server refuses whatever follows a failed statement.

* **`runOneVenue`** — both transactions and the fetch between them.
* **`VenueStep`** — what the refresh of a venue can do to the tables.
* **`Upserts`** — the upserts of a fetch, one after the other.
-/

namespace BptCore.SecMaster

open Temporal

/-- The roll-up of the two outcomes of a row. -/
def IngestStats.count (stats : IngestStats) : Outcome × Outcome → IngestStats
  | (.added, _) | (_, .added) => { stats with rowsAdded := stats.rowsAdded + 1 }
  | (.modified, _) | (_, .modified) => { stats with rowsModified := stats.rowsModified + 1 }
  | (.unchanged, .unchanged) => { stats with rowsUnchanged := stats.rowsUnchanged + 1 }

def IngestStats.record (stats : IngestStats) : Except DbError (Outcome × Outcome) → IngestStats
  | .ok outcomes => stats.count outcomes
  | .error _ => { stats with errorCount := stats.errorCount + 1 }

/-- One call of `_run_one_venue`: the venue's code, the times at which its transactions begin, and
what the ingester yields, `none` when it raises. -/
structure VenueRun where
  code : String
  startedAt : Time
  fetched : Option (List NormalizedInstrument)
  upsertAt : Time

inductive VenueError where
  | db (e : DbError)
  | fetchFailed
  deriving DecidableEq, Repr

section Handler

variable (upper : String → String)

/-- The body of the `try` of the loop. -/
def upsertRow (exchangeId : Nat) (inst : NormalizedInstrument) : Sql (Outcome × Outcome) := do
  let (instId, instOutcome) ← upsertInstrument upper inst
  let (_, listingOutcome) ← upsertListing instId exchangeId inst
  upsertSymbology instId "venue_native" inst.venueNativeSymbol
  return (instOutcome, listingOutcome)

/-- The loop over the normalized rows. -/
def upsertRows (exchangeId : Nat) : List NormalizedInstrument → IngestStats → Sql IngestStats
  | [], stats => return stats
  | inst :: rest, stats => do
    -- the handler goes on with the next row
    let r ← (upsertRow upper exchangeId inst).attempt
    upsertRows exchangeId rest (stats.record r)

/-- The first transaction: the venue's exchange, and a row in the log of runs. -/
def openRun (code : String) : Sql (Nat × Nat) := do
  let exchangeId ← exchangeIdByCode code
  let runId ← startIngestRun code
  return (exchangeId, runId)

/-- The second transaction. -/
def ingest (exchangeId runId : Nat) (rows : List NormalizedInstrument) : Sql IngestStats := do
  let stats ← upsertRows upper exchangeId rows {}
  finishIngestRun runId stats (if stats.errorCount = 0 then .ok else .partially)
  return stats

/-- `_run_one_venue`, with what it returns or raises. -/
def runOneVenue (conn : Conn) (v : VenueRun) : Except VenueError IngestStats × Conn :=
  match transaction v.startedAt (openRun v.code) conn with
  | (.error e, conn) => (.error (.db e), conn)
  | (.ok (exchangeId, runId), conn) =>
    match v.fetched with
    | none => (.error .fetchFailed, conn)
    | some rows =>
      match transaction v.upsertAt (ingest upper exchangeId runId rows) conn with
      | (.error e, conn) => (.error (.db e), conn)
      | (.ok stats, conn) => (.ok stats, conn)

/-- The refresh as a machine, with the report of every venue. -/
def step (conn : Conn) (v : VenueRun) : Conn × List (Except VenueError IngestStats) :=
  ((runOneVenue upper conn v).2, [(runOneVenue upper conn v).1])

end Handler

/-! ## The upserts of a fetch -/

variable {upper : String → String} {exchangeId : Nat}

/-- The three upserts of a row, when all of them succeed. -/
inductive RowUpsert (upper : String → String) (exchangeId : Nat) (inst : NormalizedInstrument)
    (tx : Tx) : Outcome × Outcome → Tx → Prop
  | intro {instId listingId : Nat} {instOutcome listingOutcome : Outcome} {tx₁ tx₂ : Tx}
      {symbology : List SymbologyRow}
      (hinstrument : InstrumentUpsert upper inst tx (instId, instOutcome) tx₁)
      (hlisting : ListingUpsert instId exchangeId inst tx₁ (listingId, listingOutcome) tx₂) :
      RowUpsert upper exchangeId inst tx (instOutcome, listingOutcome)
        { tx₂ with db := { tx₂.db with symbology := symbology } }

/-- The upserts of a list of rows, with their outcomes. -/
inductive Upserts (upper : String → String) (exchangeId : Nat) :
    List NormalizedInstrument → Tx → List (Outcome × Outcome) → Tx → Prop
  | nil (tx : Tx) : Upserts upper exchangeId [] tx [] tx
  | cons {inst : NormalizedInstrument} {rest : List NormalizedInstrument} {tx tx₁ tx₂ : Tx}
      {o : Outcome × Outcome} {os : List (Outcome × Outcome)}
      (hrow : RowUpsert upper exchangeId inst tx o tx₁)
      (hrest : Upserts upper exchangeId rest tx₁ os tx₂) :
      Upserts upper exchangeId (inst :: rest) tx (o :: os) tx₂

theorem proper_upsertRow (upper : String → String) (exchangeId : Nat)
    (inst : NormalizedInstrument) : (upsertRow upper exchangeId inst).Proper :=
  .bind (proper_upsertInstrument upper inst) fun _ =>
    .bind (proper_upsertListing _ exchangeId inst) fun _ =>
      .bind (proper_upsertSymbology _ _ _) fun _ => .pure _

theorem proper_upsertRows (upper : String → String) (exchangeId : Nat)
    (rows : List NormalizedInstrument) (stats : IngestStats) :
    (upsertRows upper exchangeId rows stats).Proper := by
  induction rows generalizing stats with
  | nil => exact .pure _
  | cons inst rest ih => exact .bind (proper_upsertRow upper exchangeId inst).attempt fun _ => ih _

theorem uses_upsertRows (upper : String → String) (exchangeId : Nat)
    (rows : List NormalizedInstrument) (stats : IngestStats) :
    (upsertRows upper exchangeId rows stats).Uses rows.length := by
  induction rows generalizing stats with
  | nil => exact .pure _
  | cons inst rest ih =>
    have hrow : (upsertRow upper exchangeId inst).Uses 1 :=
      .bind (uses_upsertInstrument upper inst) fun _ =>
        .bind (n := 0) (m := 0) (uses_upsertListing _ exchangeId inst) fun _ =>
          .bind (n := 0) (m := 0) (uses_upsertSymbology _ _ _) fun _ => .pure _
    rw [List.length_cons, Nat.add_comm]
    exact .bind hrow.attempt fun _ => ih _

theorem InstrumentUpsert.aborted_eq {inst : NormalizedInstrument} {tx tx' : Tx}
    {r : Nat × Outcome} (h : InstrumentUpsert upper inst tx r tx') : tx'.aborted = tx.aborted := by
  cases h <;> rfl

theorem ListingUpsert.aborted_eq {instrumentId : Nat} {inst : NormalizedInstrument} {tx tx' : Tx}
    {r : Nat × Outcome} (h : ListingUpsert instrumentId exchangeId inst tx r tx') :
    tx'.aborted = tx.aborted := by
  cases h <;> rfl

theorem InstrumentUpsert.now_eq {inst : NormalizedInstrument} {tx tx' : Tx}
    {r : Nat × Outcome} (h : InstrumentUpsert upper inst tx r tx') : tx'.now = tx.now := by
  cases h <;> rfl

theorem ListingUpsert.now_eq {instrumentId : Nat} {inst : NormalizedInstrument} {tx tx' : Tx}
    {r : Nat × Outcome} (h : ListingUpsert instrumentId exchangeId inst tx r tx') :
    tx'.now = tx.now := by
  cases h <;> rfl

theorem RowUpsert.aborted_eq {inst : NormalizedInstrument} {tx tx' : Tx} {o : Outcome × Outcome}
    (h : RowUpsert upper exchangeId inst tx o tx') : tx'.aborted = tx.aborted := by
  obtain ⟨hinstrument, hlisting⟩ := h
  exact hlisting.aborted_eq.trans hinstrument.aborted_eq

theorem RowUpsert.now_eq {inst : NormalizedInstrument} {tx tx' : Tx} {o : Outcome × Outcome}
    (h : RowUpsert upper exchangeId inst tx o tx') : tx'.now = tx.now := by
  obtain ⟨hinstrument, hlisting⟩ := h
  exact hlisting.now_eq.trans hinstrument.now_eq

theorem upsertRow_eq_ok {inst : NormalizedInstrument} {tx tx' : Tx} {o : Outcome × Outcome}
    (h : upsertRow upper exchangeId inst tx = (.ok o, tx')) :
    tx.aborted = false ∧ RowUpsert upper exchangeId inst tx o tx' := by
  obtain ⟨⟨instId, instOutcome⟩, tx₁, hinstrument, h⟩ := Sql.bind_eq_ok.mp h
  obtain ⟨⟨listingId, listingOutcome⟩, tx₂, hlisting, h⟩ := Sql.bind_eq_ok.mp h
  obtain ⟨_, tx₃, hsymbology, h⟩ := Sql.bind_eq_ok.mp h
  obtain ⟨rfl, rfl⟩ := Sql.pure_eq_ok.mp h
  obtain ⟨hgo, hinstrument⟩ := (upsertInstrument_eq_ok upper).mp hinstrument
  obtain ⟨-, hlisting⟩ := upsertListing_eq_ok.mp hlisting
  obtain ⟨rows, rfl⟩ := upsertSymbology_eq_ok hsymbology
  exact ⟨hgo, .intro hinstrument hlisting⟩

/-- **All or nothing.** When the transaction is not aborted after the loop, every upsert of it has
succeeded. -/
theorem upsertRows_eq_ok {rows : List NormalizedInstrument} {stats stats' : IngestStats}
    {tx tx' : Tx} (h : upsertRows upper exchangeId rows stats tx = (.ok stats', tx'))
    (hgo : tx'.aborted = false) :
    ∃ os, Upserts upper exchangeId rows tx os tx' ∧ stats' = os.foldl IngestStats.count stats := by
  induction rows generalizing stats tx with
  | nil =>
    obtain ⟨rfl, rfl⟩ := Sql.pure_eq_ok.mp h
    exact ⟨[], .nil _, rfl⟩
  | cons inst rest ih =>
    obtain ⟨r, tx₁, hrow, hrest⟩ := Sql.bind_eq_ok.mp h
    have hresult : upsertRow upper exchangeId inst tx = (r, tx₁) := by
      obtain ⟨hr, htx⟩ := Prod.mk.inj hrow
      exact Prod.ext (Except.ok.inj hr) htx
    cases r with
    | error e =>
      -- it aborts the transaction, which stays so to the end of the loop
      have haborted : tx₁.aborted = true := by
        have := (proper_upsertRow upper exchangeId inst).raised tx e
        rw [hresult] at this
        exact this rfl
      have := (proper_upsertRows upper exchangeId rest (stats.record (.error e))).aborted tx₁
        haborted
      rw [hrest, hgo] at this
      cases this
    | ok o =>
      obtain ⟨os, hupserts, hstats⟩ := ih hrest
      exact ⟨o :: os, .cons (upsertRow_eq_ok hresult).2 hupserts, hstats⟩

/-! ## The refresh of a venue -/

def exchangeOf (code : String) : Option Nat :=
  (exchanges.find? fun e => e.2 = code).map Prod.fst

/-- With the row in the log of runs. -/
def Conn.opened (conn : Conn) (v : VenueRun) : Conn where
  db := { conn.db with
    ingestRun := conn.db.ingestRun ++
      [{ id := conn.sequences.ingestRun, source := v.code, startedAt := v.startedAt }] }
  sequences := { conn.sequences with ingestRun := conn.sequences.ingestRun + 1 }

/-- With the row of the run finished. -/
def Tx.finished (tx : Tx) (runId : Nat) (stats : IngestStats) : Conn where
  db := { tx.db with ingestRun := tx.db.ingestRun.map (·.finish runId tx.now stats .ok) }
  sequences := tx.sequences

theorem openRun_eq (conn : Conn) (v : VenueRun) :
    transaction v.startedAt (openRun v.code) conn =
      match exchangeOf v.code with
      | none => (.error .unknownExchange, conn)
      | some exchangeId => (.ok (exchangeId, conn.sequences.ingestRun), conn.opened v) := by
  have hexchange : exchangeIdByCode v.code (conn.beginAt v.startedAt) =
      match exchangeOf v.code with
      | none => (.error .unknownExchange, conn.beginAt v.startedAt)
      | some exchangeId => (.ok exchangeId, conn.beginAt v.startedAt) := by
    simp only [exchangeIdByCode, Sql.fetch, Sql.execute, exchangeOf, Conn.beginAt]
    cases exchanges.find? fun e => e.2 = v.code <;> rfl
  have hopen : openRun v.code (conn.beginAt v.startedAt) =
      match exchangeOf v.code with
      | none => (.error .unknownExchange, conn.beginAt v.startedAt)
      | some exchangeId =>
        (.ok (exchangeId, conn.sequences.ingestRun), (conn.opened v).beginAt v.startedAt) := by
    simp only [openRun, bind, hexchange]
    cases exchangeOf v.code <;> rfl
  rw [transaction, hopen]
  cases exchangeOf v.code <;> rfl

/-- What the refresh of a venue can do, with what it reports. -/
inductive VenueStep (upper : String → String) (conn : Conn) (v : VenueRun) :
    Except VenueError IngestStats → Conn → Prop
  | unknown (hcode : exchangeOf v.code = none) :
      VenueStep upper conn v (.error (.db .unknownExchange)) conn
  | notFetched {exchangeId : Nat} (hcode : exchangeOf v.code = some exchangeId)
      (hfetched : v.fetched = none) :
      VenueStep upper conn v (.error .fetchFailed) (conn.opened v)
  | rolledBack {exchangeId : Nat} {rows : List NormalizedInstrument} {sequences : Sequences}
      (hcode : exchangeOf v.code = some exchangeId) (hfetched : v.fetched = some rows)
      (hle : (conn.opened v).sequences.Le sequences)
      (huses : sequences.instrument ≤ conn.sequences.instrument + rows.length) :
      VenueStep upper conn v (.error (.db .inFailedTransaction))
        { conn.opened v with sequences := sequences }
  | committed {exchangeId : Nat} {rows : List NormalizedInstrument}
      {os : List (Outcome × Outcome)} {tx : Tx}
      (hcode : exchangeOf v.code = some exchangeId) (hfetched : v.fetched = some rows)
      (hupserts : Upserts upper exchangeId rows ((conn.opened v).beginAt v.upsertAt) os tx) :
      VenueStep upper conn v (.ok (os.foldl IngestStats.count {}))
        (tx.finished conn.sequences.ingestRun (os.foldl IngestStats.count {}))

theorem foldl_count_errorCount (os : List (Outcome × Outcome)) (stats : IngestStats) :
    (os.foldl IngestStats.count stats).errorCount = stats.errorCount := by
  induction os generalizing stats with
  | nil => rfl
  | cons o os ih =>
    rw [List.foldl_cons, ih]
    unfold IngestStats.count
    split <;> rfl

/-- The second transaction commits exactly when it is not aborted after the loop. -/
theorem ingest_cases (upper : String → String) (exchangeId runId : Nat)
    (rows : List NormalizedInstrument) (tx : Tx) :
    (∃ os tx', Upserts upper exchangeId rows tx os tx' ∧
        upsertRows upper exchangeId rows {} tx = (.ok (os.foldl IngestStats.count {}), tx') ∧
        ingest upper exchangeId runId rows tx = (.ok (os.foldl IngestStats.count {}),
          { tx' with db := (tx'.finished runId (os.foldl IngestStats.count {})).db })) ∨
      ∃ tx', tx'.aborted = true ∧ tx.sequences.Le tx'.sequences ∧
        tx'.sequences.instrument ≤ tx.sequences.instrument + rows.length ∧
        (∃ stats, upsertRows upper exchangeId rows {} tx = (.ok stats, tx')) ∧
        ingest upper exchangeId runId rows tx = (.error .inFailedTransaction, tx') := by
  have hloop : ∃ stats tx', upsertRows upper exchangeId rows {} tx = (.ok stats, tx') := by
    generalize ({} : IngestStats) = stats
    induction rows generalizing stats tx with
    | nil => exact ⟨_, _, rfl⟩
    | cons inst rest ih => exact ih _ _
  obtain ⟨stats, tx', hloop⟩ := hloop
  have hle := (proper_upsertRows upper exchangeId rows {}).sequences_le tx
  have huses := uses_upsertRows upper exchangeId rows {} tx
  rw [hloop] at hle huses
  have hingest : ingest upper exchangeId runId rows tx =
      (do
        finishIngestRun runId stats (if stats.errorCount = 0 then .ok else .partially)
        return stats : Sql IngestStats) tx' := by
    simp only [ingest, bind, hloop]
  -- the loop does not raise: it is the log that cannot be written after a failed statement
  cases hgo : tx'.aborted with
  | true =>
    refine .inr ⟨tx', hgo, hle, huses, ⟨stats, hloop⟩, ?_⟩
    simp only [hingest, bind, finishIngestRun, Sql.update, Sql.execute_of_aborted hgo]
  | false =>
    obtain ⟨os, hupserts, rfl⟩ := upsertRows_eq_ok hloop hgo
    refine .inl ⟨os, tx', hupserts, hloop, ?_⟩
    simp only [hingest, foldl_count_errorCount, if_true, bind, finishIngestRun, Sql.update,
      Sql.execute, hgo]
    rfl

theorem runOneVenue_step (upper : String → String) (conn : Conn) (v : VenueRun) :
    VenueStep upper conn v (runOneVenue upper conn v).1 (runOneVenue upper conn v).2 := by
  rw [runOneVenue, openRun_eq]
  cases hcode : exchangeOf v.code with
  | none => exact .unknown hcode
  | some exchangeId =>
    simp only
    cases hfetched : v.fetched with
    | none => exact .notFetched hcode hfetched
    | some rows =>
      simp only [transaction]
      rcases ingest_cases upper exchangeId conn.sequences.ingestRun rows
        ((conn.opened v).beginAt v.upsertAt) with ⟨os, tx, hupserts, -, h⟩ |
          ⟨tx, -, hle, huses, -, h⟩
      · rw [h]
        exact .committed hcode hfetched hupserts
      · rw [h]
        exact .rolledBack hcode hfetched hle huses

/-! ## Over a run -/

theorem RowUpsert.sound {inst : NormalizedInstrument} {tx tx' : Tx} {o : Outcome × Outcome}
    (hrow : RowUpsert upper exchangeId inst tx o tx') (h : Sound tx.db tx.sequences tx.now) :
    Sound tx'.db tx'.sequences tx'.now ∧ ∀ t < tx.now, SamePast tx.db tx'.db t := by
  obtain ⟨hinstrument, hlisting⟩ := hrow
  rename_i tx₁ tx₂ symbology
  obtain ⟨h₁, row, hcurrent, -⟩ := h.instrumentUpsert hinstrument
  rw [← hinstrument.now_eq] at h₁
  obtain ⟨h₂, -⟩ := h₁.listingUpsert hcurrent hlisting
  refine ⟨?_, fun t ht => ?_⟩
  · rw [← hlisting.now_eq] at h₂
    exact h₂.later rfl rfl (.refl _) le_rfl
  · have hpast₁ := h.samePast_instrumentUpsert hinstrument ht
    have hpast₂ := h₁.samePast_listingUpsert hcurrent hlisting (hinstrument.now_eq.symm ▸ ht)
    exact (hpast₁.trans hpast₂).trans (.of_eq rfl rfl)

theorem Upserts.sound {rows : List NormalizedInstrument} {tx tx' : Tx}
    {os : List (Outcome × Outcome)} (hupserts : Upserts upper exchangeId rows tx os tx')
    (h : Sound tx.db tx.sequences tx.now) :
    Sound tx'.db tx'.sequences tx.now ∧ ∀ t < tx.now, SamePast tx.db tx'.db t := by
  induction hupserts with
  | nil tx => exact ⟨h, fun t _ => .refl _ t⟩
  | cons hrow hrest ih =>
    obtain ⟨hsound, hpast⟩ := hrow.sound h
    obtain ⟨hsound', hpast'⟩ := ih hsound
    rw [hrow.now_eq] at hsound' hpast'
    exact ⟨hsound', fun t ht => (hpast t ht).trans (hpast' t ht)⟩

/-- The tables of a connection, last written at `now` or before. -/
def Conn.SoundAt (conn : Conn) (now : Time) : Prop := Sound conn.db conn.sequences now

theorem Conn.SoundAt.opened {conn : Conn} {now now' : Time} (h : conn.SoundAt now)
    (hle : now ≤ now') (v : VenueRun) : (conn.opened v).SoundAt now' :=
  h.later rfl rfl ⟨le_rfl, le_rfl, Nat.le_succ _⟩ hle

/-- **The refresh of a venue keeps the invariant and the past.** -/
theorem VenueStep.sound {conn conn' : Conn} {v : VenueRun} {r : Except VenueError IngestStats}
    {now : Time} (hstep : VenueStep upper conn v r conn') (h : conn.SoundAt now)
    (hnow : now ≤ v.upsertAt) :
    conn'.SoundAt v.upsertAt ∧ ∀ t < v.upsertAt, SamePast conn.db conn'.db t := by
  cases hstep with
  | unknown => exact ⟨h.later rfl rfl (.refl _) hnow, fun t _ => .refl _ t⟩
  | notFetched => exact ⟨h.opened hnow v, fun t _ => .of_eq rfl rfl⟩
  | rolledBack hcode hfetched hle huses =>
    exact ⟨(h.opened hnow v).later rfl rfl hle le_rfl, fun t _ => .of_eq rfl rfl⟩
  | committed hcode hfetched hupserts =>
    obtain ⟨hsound, hpast⟩ := hupserts.sound (h.opened hnow v)
    refine ⟨hsound.later rfl rfl (.refl _) le_rfl, fun t ht => ?_⟩
    have hopen : SamePast conn.db (conn.opened v).db t := .of_eq rfl rfl
    exact (hopen.trans (hpast t ht)).trans (.of_eq rfl rfl)

/-- The transactions begin one after the other: the clock does not go back. -/
def InOrder : Time → List VenueRun → Prop
  | _, [] => True
  | now, v :: vs => now ≤ v.startedAt ∧ v.startedAt ≤ v.upsertAt ∧ InOrder v.upsertAt vs

instance InOrder.decidable : ∀ now vs, Decidable (InOrder now vs)
  | _, [] => isTrue trivial
  | _, v :: vs =>
    have := InOrder.decidable v.upsertAt vs
    inferInstanceAs (Decidable (_ ∧ _))

/-- When the last of the runs has begun to write. -/
def lastAt : Time → List VenueRun → Time
  | now, [] => now
  | _, v :: vs => lastAt v.upsertAt vs

theorem inOrder_append {now : Time} {vs ws : List VenueRun} :
    InOrder now (vs ++ ws) ↔ InOrder now vs ∧ InOrder (lastAt now vs) ws := by
  induction vs generalizing now with
  | nil => exact (iff_of_eq (true_and _)).symm
  | cons v vs ih => simp only [List.cons_append, InOrder, ih, lastAt, and_assoc]

theorem exec_sound (upper : String → String) {conn : Conn} {now : Time} (h : conn.SoundAt now)
    {vs : List VenueRun} (horder : InOrder now vs) :
    (Machine.exec (step upper) conn vs).SoundAt (lastAt now vs) := by
  induction vs generalizing conn now with
  | nil => exact h
  | cons v vs ih =>
    obtain ⟨hstart, hupsert, hrest⟩ := horder
    exact ih ((runOneVenue_step upper conn v).sound h (hstart.trans hupsert)).1 hrest

theorem exec_samePast (upper : String → String) {conn : Conn} {now : Time} (h : conn.SoundAt now)
    {vs : List VenueRun} (horder : InOrder now vs) {t : Time} (ht : ∀ v ∈ vs, t < v.upsertAt) :
    SamePast conn.db (Machine.exec (step upper) conn vs).db t := by
  induction vs generalizing conn now with
  | nil => exact .refl _ t
  | cons v vs ih =>
    obtain ⟨hstart, hupsert, hrest⟩ := horder
    have hstep := (runOneVenue_step upper conn v).sound h (hstart.trans hupsert)
    have hpast := hstep.2 t (ht v List.mem_cons_self)
    exact hpast.trans (ih hstep.1 hrest fun w hw => ht w (List.mem_cons_of_mem v hw))

/-- The tables after refreshes of an empty master. -/
def master (upper : String → String) (vs : List VenueRun) : Conn :=
  Machine.exec (step upper) {} vs

theorem master_sound (upper : String → String) {vs : List VenueRun} (horder : InOrder 0 vs) :
    (master upper vs).SoundAt (lastAt 0 vs) :=
  exec_sound upper (show ({} : Conn).SoundAt 0 from Sound.empty) horder

/-- **The history is complete and stays.** After any refreshes, failed ones among them, every symbol
and every listing of a symbol has exactly one version at every time from its first one on, and no
later refresh changes what was valid before it. -/
theorem history_kept (upper : String → String) {vs ws : List VenueRun}
    (horder : InOrder 0 (vs ++ ws)) :
    (∀ s t t', t ≤ t' → (master upper vs).db.instrumentsAsOf s t ≠ [] →
        ∃ r, (master upper vs).db.instrumentsAsOf s t' = [r]) ∧
      (∀ s exchangeId t t', t ≤ t' → (master upper vs).db.listingsAsOf s exchangeId t ≠ [] →
        ∃ l, (master upper vs).db.listingsAsOf s exchangeId t' = [l]) ∧
      ∀ t, (∀ w ∈ ws, t < w.upsertAt) →
        SamePast (master upper vs).db (master upper (vs ++ ws)).db t := by
  obtain ⟨hbefore, hafter⟩ := inOrder_append.mp horder
  have h := master_sound upper hbefore
  refine ⟨fun s t t' ht hfirst => h.instruments.existsUnique ht hfirst,
    fun s exchangeId t t' ht hfirst => h.listings.existsUnique ht hfirst, fun t ht => ?_⟩
  rw [master, master, Machine.exec_append]
  exact exec_samePast upper h hafter ht

/-! A perpetual on one venue, found by another venue to settle otherwise, and by the first to have
another tick size. -/

def samplePerp : NormalizedInstrument where
  canonicalSymbol := "BTC/USDT:PERPETUAL"
  class_ := .linearPerp
  baseCcy := "BTC"
  quoteCcy := "USDT"
  settleCcy := "USDT"
  multiplier := 1 / 100
  venueNativeSymbol := "BTC-USDT-SWAP"
  tickSize := 1 / 10
  lotSize := 1
  status := .live

def sampleElsewhere : NormalizedInstrument :=
  { samplePerp with settleCcy := "USDC", venueNativeSymbol := "BTC" }

def sampleRuns : List VenueRun :=
  [{ code := "okx", startedAt := 10, fetched := some [samplePerp], upsertAt := 11 },
   { code := "hl", startedAt := 20, fetched := some [sampleElsewhere], upsertAt := 21 }]

def sampleLater : List VenueRun :=
  [{ code := "okx", startedAt := 30, upsertAt := 31,
     fetched := some [{ samplePerp with tickSize := 1 / 100 }] }]

theorem history_kept_sample :
    (master id sampleRuns).db.listingsAsOf "BTC/USDT:PERPETUAL" 2 11 ≠ [] ∧
      (∃ l, (master id sampleRuns).db.listingsAsOf "BTC/USDT:PERPETUAL" 2 40 = [l]) ∧
      SamePast (master id sampleRuns).db (master id (sampleRuns ++ sampleLater)).db 30 := by
  have hfirst : (master id sampleRuns).db.listingsAsOf "BTC/USDT:PERPETUAL" 2 11 ≠ [] := by
    decide +kernel
  have horder : InOrder 0 (sampleRuns ++ sampleLater) := by decide
  obtain ⟨-, hlistings, hpast⟩ := history_kept id horder
  exact ⟨hfirst, hlistings _ 2 11 40 (by decide) hfirst, hpast 30 (by decide)⟩

/-- **What the join as of a time tells.** It finds the listing that was valid then if the row of the
instrument that the listing refers to had begun by then, and nothing otherwise. A listing that is
still current refers to the current row of its symbol, so from a change of the instrument on it is
gone from all times before. -/
theorem join_as_of (upper : String → String) {vs : List VenueRun} (horder : InOrder 0 vs)
    (s : String) (exchangeId : Nat) (t : Time) :
    ((master upper vs).db.asOfJoin s exchangeId t).map Prod.snd =
        ((master upper vs).db.listingsAsOf s exchangeId t).filter
          (fun l => (master upper vs).db.RowBegunBy t l) ∧
      ∀ r, (master upper vs).db.currentInstrument s = some r → t < r.period.validFrom →
        (∀ l ∈ (master upper vs).db.listingsAsOf s exchangeId t, l.period.validTo = none) →
        (master upper vs).db.asOfJoin s exchangeId t = [] := by
  have h := master_sound upper horder
  have hjoin := h.asOfJoin_eq s exchangeId t
  refine ⟨hjoin, fun r hr hbefore hcurrent => ?_⟩
  obtain ⟨hmem, hsymbol, hopen⟩ := h.currentInstrument_eq_some.mp hr
  rw [← List.map_eq_nil_iff (f := Prod.snd), hjoin, List.filter_eq_nil_iff]
  rintro l hl hbegun
  obtain ⟨r', hr', hid, hfrom⟩ := of_decide_eq_true hbegun
  obtain ⟨hlisting, hlineage, -⟩ := mem_asOf.mp hl
  -- the listing refers to the current row, which begins later
  have hopen' := h.open_of_open hlisting (hcurrent l hl) hr' hid
  have hsymbol' : r'.canonicalSymbol = s := by
    have := (Prod.mk.inj hlineage).1
    rwa [← hid, symbolOf_eq h.instrumentIds hr', Option.some.injEq] at this
  have heq : r' = r := h.instruments.eq_of_mem_current (k := s)
    (mem_current.mpr ⟨hr', hsymbol', hopen'⟩) (mem_current.mpr ⟨hmem, hsymbol, hopen⟩)
  exact absurd (heq ▸ hfrom) (not_le.mpr hbefore)

theorem join_as_of_sample :
    ((master id sampleRuns).db.asOfJoin "BTC/USDT:PERPETUAL" 2 15).map Prod.snd =
        ((master id sampleRuns).db.listingsAsOf "BTC/USDT:PERPETUAL" 2 15).filter
          (fun l => (master id sampleRuns).db.RowBegunBy 15 l) ∧
      (master id sampleRuns).db.asOfJoin "BTC/USDT:PERPETUAL" 2 15 = [] ∧
      ((master id sampleRuns).db.listingsAsOf "BTC/USDT:PERPETUAL" 2 15).length = 1 := by
  have horder : InOrder 0 sampleRuns := by decide
  obtain ⟨hjoin, hlost⟩ := join_as_of id horder "BTC/USDT:PERPETUAL" 2 15
  refine ⟨hjoin, ?_, by decide +kernel⟩
  exact hlost ⟨2, "BTC/USDT:PERPETUAL", sampleElsewhere.instrumentFields id, ⟨21, none⟩⟩
    (by decide +kernel) (by decide) (by decide +kernel)

end BptCore.SecMaster
