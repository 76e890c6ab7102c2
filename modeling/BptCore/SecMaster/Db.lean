import BptCore.Lib.Rounding
import BptCore.Lib.TemporalTable

/-!
# The tables of the security master

An instrument is known by its canonical symbol, and is listed at exchanges. Both tables keep their
past: a change ends the current row and inserts another one, with an id of its own. A listing refers
to a row of the instrument table, so it has to follow its instrument to the new row.

* **`Sql`** — a program in a transaction. Once a statement has failed, all further ones do.
* **`upsertInstrument`**, **`upsertListing`**, **`upsertSymbology`** — the three upserts.
* **`startIngestRun`**, **`finishIngestRun`** — the log of the refreshes.
* **`transaction`** — what is kept of a transaction, when it returns and when it raises.
-/

namespace BptCore.SecMaster

open Temporal

/-- Microseconds since the epoch. -/
abbrev Time := Nat

/-- Days since the epoch. -/
abbrev Date := Nat

inductive InstrumentClass where
  | spot | linearPerp | inversePerp | future | option | index
  deriving DecidableEq, Repr

inductive PutCall where
  | C | P
  deriving DecidableEq, Repr

inductive ListingStatus where
  | live | suspended | delisted
  deriving DecidableEq, Repr

/-- One row produced by a venue ingester. Its texts are such as a text column takes and its numbers
are finite, so that every error is one of the server. -/
structure NormalizedInstrument where
  canonicalSymbol : String
  class_ : InstrumentClass
  baseCcy : String
  quoteCcy : String
  settleCcy : String
  multiplier : ℚ
  expiry : Option Date := none
  strike : Option ℚ := none
  putcall : Option PutCall := none
  venueNativeSymbol : String
  tickSize : ℚ
  lotSize : ℚ
  minQty : Option ℚ := none
  minNotional : Option ℚ := none
  makerBps : Option ℚ := none
  takerBps : Option ℚ := none
  listedAt : Option Date := none
  status : ListingStatus
  deriving DecidableEq, Repr

/-! ## The tables -/

/-- The columns of `INSTRUMENT_DIFF_FIELDS`. -/
structure InstrumentFields where
  class_ : InstrumentClass
  baseCcy : String
  quoteCcy : String
  settleCcy : String
  expiry : Option Date
  strike : Option ℚ
  putcall : Option PutCall
  deriving DecidableEq, Repr

/-- The columns of `LISTING_DIFF_FIELDS`. -/
structure ListingFields where
  venueNativeSymbol : String
  tickSize : ℚ
  lotSize : ℚ
  minQty : Option ℚ
  minNotional : Option ℚ
  makerBps : Option ℚ
  takerBps : Option ℚ
  multiplier : ℚ
  status : ListingStatus
  deriving DecidableEq, Repr

structure InstrumentRow where
  id : Nat
  canonicalSymbol : String
  fields : InstrumentFields
  period : Period Time
  deriving DecidableEq, Repr

structure ListingRow where
  id : Nat
  instrumentId : Nat
  exchangeId : Nat
  fields : ListingFields
  listedAt : Option Date
  period : Period Time
  deriving DecidableEq, Repr

structure SymbologyRow where
  instrumentId : Nat
  vendor : String
  value : String
  validFrom : Time
  deriving DecidableEq, Repr

inductive IngestStatus where
  | running | ok | partially
  deriving DecidableEq, Repr

structure IngestStats where
  rowsAdded : Nat := 0
  rowsModified : Nat := 0
  rowsUnchanged : Nat := 0
  errorCount : Nat := 0
  deriving DecidableEq, Repr

structure IngestRunRow where
  id : Nat
  source : String
  startedAt : Time
  finishedAt : Option Time := none
  status : IngestStatus := .running
  stats : IngestStats := {}
  deriving DecidableEq, Repr

structure Db where
  instrument : List InstrumentRow := []
  listing : List ListingRow := []
  symbology : List SymbologyRow := []
  ingestRun : List IngestRunRow := []
  deriving DecidableEq, Repr

/-- The ids that are given next. What a sequence has given is not taken back. -/
structure Sequences where
  instrument : Nat := 1
  listing : Nat := 1
  ingestRun : Nat := 1
  deriving DecidableEq, Repr

/-- No id has been taken back. -/
structure Sequences.Le (a b : Sequences) : Prop where
  instrument : a.instrument ≤ b.instrument
  listing : a.listing ≤ b.listing
  ingestRun : a.ingestRun ≤ b.ingestRun

theorem Sequences.Le.refl (a : Sequences) : a.Le a := ⟨le_rfl, le_rfl, le_rfl⟩

theorem Sequences.Le.trans {a b c : Sequences} (hab : a.Le b) (hbc : b.Le c) : a.Le c :=
  ⟨hab.instrument.trans hbc.instrument, hab.listing.trans hbc.listing,
    hab.ingestRun.trans hbc.ingestRun⟩

/-- The seeded rows of the exchange table. -/
def exchanges : List (Nat × String) := [(1, "binance"), (2, "okx"), (3, "hl"), (4, "deribit")]

/-! ## What a column holds -/

inductive DbError where
  | numericOverflow | checkViolation | uniqueViolation | foreignKeyViolation | inFailedTransaction
  | unknownExchange
  deriving DecidableEq, Repr

/-- A number in a column `NUMERIC(precision, scale)`: rounded, halves away from zero, and refused
when it has too many digits before the point. -/
def numeric (precision scale : Nat) (x : ℚ) : Except DbError ℚ :=
  let rounded := roundAway (x / (1 / 10 ^ scale)) * (1 / 10 ^ scale : ℚ)
  if |rounded| < 10 ^ (precision - scale) then .ok rounded else .error .numericOverflow

/-- The same of a column that may be null. -/
def numericOrNull (precision scale : Nat) : Option ℚ → Except DbError (Option ℚ)
  | none => .ok none
  | some x => (numeric precision scale x).map some

/-- What a column holds, it holds as it is. -/
theorem numeric_idem {precision scale : Nat} {x y : ℚ} (h : numeric precision scale x = .ok y) :
    numeric precision scale y = .ok y := by
  simp only [numeric] at h ⊢
  split at h
  · rename_i hfits
    cases h
    have hstep : (1 / 10 ^ scale : ℚ) ≠ 0 := by positivity
    have hsame := (nearest_roundAway.mul_eq_iff hstep).mpr
      ⟨roundAway (x / (1 / 10 ^ scale)), rfl⟩
    rw [hsame, if_pos hfits]
  · cases h

theorem numericOrNull_idem {precision scale : Nat} {x y : Option ℚ}
    (h : numericOrNull precision scale x = .ok y) : numericOrNull precision scale y = .ok y := by
  cases x with
  | none =>
    cases h
    rfl
  | some x =>
    rw [numericOrNull] at h
    rcases hx : numeric precision scale x with e | z
    · rw [hx] at h
      cases h
    · rw [hx] at h
      cases h
      rw [numericOrNull, numeric_idem hx]
      rfl

def InstrumentFields.stored (f : InstrumentFields) : Except DbError InstrumentFields := do
  let strike ← numericOrNull 20 8 f.strike
  return { f with strike := strike }

def ListingFields.stored (f : ListingFields) : Except DbError ListingFields := do
  let tickSize ← numeric 20 10 f.tickSize
  let lotSize ← numeric 20 10 f.lotSize
  let minQty ← numericOrNull 20 10 f.minQty
  let minNotional ← numericOrNull 20 4 f.minNotional
  let makerBps ← numericOrNull 6 3 f.makerBps
  let takerBps ← numericOrNull 6 3 f.takerBps
  let multiplier ← numeric 20 10 f.multiplier
  return { f with
    tickSize := tickSize, lotSize := lotSize, minQty := minQty, minNotional := minNotional,
    makerBps := makerBps, takerBps := takerBps, multiplier := multiplier }

theorem InstrumentFields.stored_idem {f g : InstrumentFields} (h : f.stored = .ok g) :
    g.stored = .ok g := by
  rw [stored] at h
  rcases hs : numericOrNull 20 8 f.strike with e | strike
  · rw [hs] at h
    cases h
  · rw [hs] at h
    cases h
    rw [stored, numericOrNull_idem hs]
    rfl

theorem ListingFields.stored_eq_ok {f g : ListingFields} : f.stored = .ok g ↔
    numeric 20 10 f.tickSize = .ok g.tickSize ∧ numeric 20 10 f.lotSize = .ok g.lotSize ∧
      numericOrNull 20 10 f.minQty = .ok g.minQty ∧
      numericOrNull 20 4 f.minNotional = .ok g.minNotional ∧
      numericOrNull 6 3 f.makerBps = .ok g.makerBps ∧
      numericOrNull 6 3 f.takerBps = .ok g.takerBps ∧
      numeric 20 10 f.multiplier = .ok g.multiplier ∧
      f.venueNativeSymbol = g.venueNativeSymbol ∧ f.status = g.status := by
  rw [stored]
  rcases numeric 20 10 f.tickSize with _ | tickSize
  · exact iff_of_false nofun nofun
  rcases numeric 20 10 f.lotSize with _ | lotSize
  · exact iff_of_false nofun nofun
  rcases numericOrNull 20 10 f.minQty with _ | minQty
  · exact iff_of_false nofun nofun
  rcases numericOrNull 20 4 f.minNotional with _ | minNotional
  · exact iff_of_false nofun nofun
  rcases numericOrNull 6 3 f.makerBps with _ | makerBps
  · exact iff_of_false nofun nofun
  rcases numericOrNull 6 3 f.takerBps with _ | takerBps
  · exact iff_of_false nofun nofun
  rcases numeric 20 10 f.multiplier with _ | multiplier
  · exact iff_of_false nofun nofun
  cases g
  simp [bind, Except.bind, pure, Except.pure]
  tauto

theorem ListingFields.stored_idem {f g : ListingFields} (h : f.stored = .ok g) :
    g.stored = .ok g := by
  obtain ⟨htick, hlot, hqty, hnotional, hmaker, htaker, hmultiplier, -, -⟩ := stored_eq_ok.mp h
  exact stored_eq_ok.mpr ⟨numeric_idem htick, numeric_idem hlot, numericOrNull_idem hqty,
    numericOrNull_idem hnotional, numericOrNull_idem hmaker, numericOrNull_idem htaker,
    numeric_idem hmultiplier, rfl, rfl⟩

/-! ## Transactions -/

/-- A transaction under way. Its `now()` is when it began. -/
structure Tx where
  now : Time
  db : Db
  sequences : Sequences
  aborted : Bool := false
  deriving DecidableEq, Repr

/-- A program in a transaction; an error is what it raises. -/
def Sql (α : Type) : Type := Tx → Except DbError α × Tx

namespace Sql

instance : Monad Sql where
  pure a := fun tx => (.ok a, tx)
  bind x f := fun tx =>
    match x tx with
    | (.ok a, tx) => f a tx
    | (.error e, tx) => (.error e, tx)

/-- One statement. The server refuses it when one before it has failed, and the transaction is
aborted when it fails itself. -/
def execute {α : Type} (statement : Tx → Except DbError α × Tx) : Sql α := fun tx =>
  if tx.aborted then (.error .inFailedTransaction, tx)
  else
    match statement tx with
    | (.ok a, tx) => (.ok a, tx)
    | (.error e, tx) => (.error e, { tx with aborted := true })

/-- A query. -/
def fetch {α : Type} (query : Db → α) : Sql α := execute fun tx => (.ok (query tx.db), tx)

/-- A write that cannot fail. -/
def update (write : Tx → Db) : Sql Unit := execute fun tx => (.ok (), { tx with db := write tx })

/-- `try … except` around a program: what it has written before it raised stays. -/
def attempt {α : Type} (x : Sql α) : Sql (Except DbError α) := fun tx => (.ok (x tx).1, (x tx).2)

variable {α β : Type} {tx tx' : Tx}

theorem pure_eq_ok {a b : α} : (pure a : Sql α) tx = (.ok b, tx') ↔ a = b ∧ tx = tx' := by
  simp [pure]

theorem bind_eq_ok {x : Sql α} {f : α → Sql β} {b : β} :
    (x >>= f) tx = (.ok b, tx') ↔ ∃ a t, x tx = (.ok a, t) ∧ f a t = (.ok b, tx') := by
  simp only [bind]
  rcases hx : x tx with ⟨_ | a, t⟩
  · simp
  · simp

theorem execute_eq_ok {statement : Tx → Except DbError α × Tx} {a : α} :
    execute statement tx = (.ok a, tx') ↔ tx.aborted = false ∧ statement tx = (.ok a, tx') := by
  unfold execute
  cases tx.aborted
  · rcases hs : statement tx with ⟨_ | b, t⟩
    · simp
    · simp
  · simp

theorem fetch_eq_ok {query : Db → α} {a : α} :
    fetch query tx = (.ok a, tx') ↔ tx.aborted = false ∧ query tx.db = a ∧ tx = tx' := by
  simp [fetch, execute_eq_ok]

theorem update_eq_ok {write : Tx → Db} {u : Unit} :
    update write tx = (.ok u, tx') ↔ tx.aborted = false ∧ { tx with db := write tx } = tx' := by
  simp [update, execute_eq_ok]

/-- What every program does to a transaction, also one that raises: it leaves the time, takes no id
back, an aborted transaction stays so, and one that raises aborts it. -/
structure Proper (x : Sql α) : Prop where
  now_eq : ∀ tx, (x tx).2.now = tx.now
  sequences_le : ∀ tx : Tx, tx.sequences.Le (x tx).2.sequences
  aborted : ∀ tx, tx.aborted = true → (x tx).2.aborted = true
  raised : ∀ tx e, (x tx).1 = .error e → (x tx).2.aborted = true

theorem Proper.pure (a : α) : Proper (pure a : Sql α) where
  now_eq _ := rfl
  sequences_le _ := .refl _
  aborted _ h := h
  raised _ _ h := by cases h

theorem Proper.bind {x : Sql α} {f : α → Sql β} (hx : Proper x) (hf : ∀ a, Proper (f a)) :
    Proper (x >>= f) where
  now_eq tx := by
    have h := hx.now_eq tx
    simp only [Bind.bind]
    rcases hr : x tx with ⟨_ | a, t⟩ <;> rw [hr] at h
    · exact h
    · exact ((hf a).now_eq t).trans h
  sequences_le tx := by
    have h := hx.sequences_le tx
    simp only [Bind.bind]
    rcases hr : x tx with ⟨_ | a, t⟩ <;> rw [hr] at h
    · exact h
    · exact h.trans ((hf a).sequences_le t)
  aborted tx htx := by
    have h := hx.aborted tx htx
    simp only [Bind.bind]
    rcases hr : x tx with ⟨_ | a, t⟩ <;> rw [hr] at h
    · exact h
    · exact (hf a).aborted t h
  raised tx e herror := by
    have h := hx.raised tx e
    simp only [Bind.bind] at herror ⊢
    rcases hr : x tx with ⟨e' | a, t⟩
    · rw [hr] at herror h
      obtain rfl : e' = e := Except.error.inj herror
      exact h rfl
    · rw [hr] at herror
      exact (hf a).raised t e herror

theorem Proper.execute {statement : Tx → Except DbError α × Tx}
    (hnow : ∀ tx, (statement tx).2.now = tx.now)
    (hle : ∀ tx : Tx, tx.sequences.Le (statement tx).2.sequences) :
    Proper (Sql.execute statement) where
  now_eq tx := by
    have h := hnow tx
    unfold Sql.execute
    split
    · rfl
    · rcases hr : statement tx with ⟨_ | a, t⟩ <;> rw [hr] at h <;> exact h
  sequences_le tx := by
    have h := hle tx
    unfold Sql.execute
    split
    · exact .refl _
    · rcases hr : statement tx with ⟨_ | a, t⟩ <;> rw [hr] at h <;> exact h
  aborted tx htx := by simp [Sql.execute, htx]
  raised tx e herror := by
    unfold Sql.execute at herror ⊢
    split
    · assumption
    · rename_i hgo
      rw [if_neg hgo] at herror
      rcases hr : statement tx with ⟨e' | a, t⟩
      · rfl
      · rw [hr] at herror
        cases herror

theorem Proper.fetch (query : Db → α) : Proper (Sql.fetch query) :=
  .execute (fun _ => rfl) fun _ => .refl _

theorem Proper.update (write : Tx → Db) : Proper (Sql.update write) :=
  .execute (fun _ => rfl) fun _ => .refl _

/-- A program that is tried leaves the time and an aborted transaction; it never raises. -/
theorem Proper.attempt {x : Sql α} (hx : Proper x) : Proper x.attempt where
  now_eq := hx.now_eq
  sequences_le := hx.sequences_le
  aborted := hx.aborted
  raised _ _ h := by cases h

/-- The program takes at most `n` ids of the instrument table, also when it raises. -/
def Uses (n : Nat) (x : Sql α) : Prop :=
  ∀ tx, (x tx).2.sequences.instrument ≤ tx.sequences.instrument + n

theorem Uses.pure (a : α) : Uses 0 (pure a : Sql α) := fun _ => le_rfl

theorem Uses.bind {n m : Nat} {x : Sql α} {f : α → Sql β} (hx : Uses n x)
    (hf : ∀ a, Uses m (f a)) : Uses (n + m) (x >>= f) := by
  intro tx
  have h := hx tx
  simp only [Bind.bind]
  rcases hr : x tx with ⟨_ | a, t⟩ <;> rw [hr] at h
  · exact h.trans (Nat.add_le_add_left (Nat.le_add_right n m) _)
  · rw [← Nat.add_assoc]
    exact (hf a t).trans (Nat.add_le_add_right h m)

theorem Uses.execute {n : Nat} {statement : Tx → Except DbError α × Tx}
    (h : ∀ tx, (statement tx).2.sequences.instrument ≤ tx.sequences.instrument + n) :
    Uses n (Sql.execute statement) := by
  intro tx
  have htx := h tx
  unfold Sql.execute
  split
  · exact Nat.le_add_right _ _
  · rcases hr : statement tx with ⟨_ | a, t⟩ <;> rw [hr] at htx <;> exact htx

theorem Uses.fetch (query : Db → α) : Uses 0 (Sql.fetch query) := .execute fun _ => le_rfl

theorem Uses.update (write : Tx → Db) : Uses 0 (Sql.update write) := .execute fun _ => le_rfl

theorem Uses.attempt {n : Nat} {x : Sql α} (h : Uses n x) : Uses n x.attempt := h

/-- Nothing succeeds in an aborted transaction but what asks nothing of the server. -/
theorem execute_of_aborted {statement : Tx → Except DbError α × Tx} (h : tx.aborted = true) :
    Sql.execute statement tx = (.error .inFailedTransaction, tx) := by
  simp [Sql.execute, h]

end Sql

/-! ## Instruments -/

section Instruments

/-- The current row of a symbol. -/
def Db.currentInstrument (db : Db) (canonicalSymbol : String) : Option InstrumentRow :=
  (current (·.canonicalSymbol) (·.period) db.instrument canonicalSymbol).head?

def UINT32_LIMIT : Nat := 2 ^ 32

/-- The next row of the instrument table. -/
def Tx.newInstrument (tx : Tx) (canonicalSymbol : String) (fields : InstrumentFields) :
    InstrumentRow where
  id := tx.sequences.instrument
  canonicalSymbol := canonicalSymbol
  fields := fields
  period := { validFrom := tx.now }

def Tx.addInstrument (tx : Tx) (canonicalSymbol : String) (fields : InstrumentFields) : Tx :=
  { tx with
    sequences := { tx.sequences with instrument := tx.sequences.instrument + 1 }
    db := { tx.db with
      instrument := tx.db.instrument ++ [tx.newInstrument canonicalSymbol fields] } }

/-- `INSERT INTO instrument`, with the index that one row of a symbol is current at most. An insert
that fails has used up its id. -/
def insertInstrument (canonicalSymbol : String) (fields : InstrumentFields) : Sql Nat :=
  Sql.execute fun tx =>
    let id := tx.sequences.instrument
    let refused : Tx := { tx with sequences := { tx.sequences with instrument := id + 1 } }
    match fields.stored with
    | .error e => (.error e, refused)
    | .ok fields =>
      if UINT32_LIMIT ≤ id then (.error .checkViolation, refused)
      else if tx.db.currentInstrument canonicalSymbol ≠ none then
        (.error .uniqueViolation, refused)
      else (.ok id, tx.addInstrument canonicalSymbol fields)

def InstrumentRow.closeId (id : Nat) (now : Time) (r : InstrumentRow) : InstrumentRow :=
  if r.id = id then { r with period := r.period.close now } else r

/-- `UPDATE instrument SET valid_to = now() WHERE id = %s`. -/
def closeInstrument (id : Nat) : Sql Unit :=
  Sql.update fun tx => { tx.db with instrument := tx.db.instrument.map (·.closeId id tx.now) }

def ListingRow.repoint (oldId newId : Nat) (l : ListingRow) : ListingRow :=
  if l.instrumentId = oldId ∧ l.period.validTo = none then { l with instrumentId := newId } else l

/-- The key of the index on current listings. -/
def ListingRow.indexKey (l : ListingRow) : Nat × Nat := (l.instrumentId, l.exchangeId)

/-- The index that one listing is current at most, of an instrument row at an exchange. -/
def listingIndexHolds (rows : List ListingRow) : Prop :=
  ((rows.filter fun l => l.period.validTo = none).map ListingRow.indexKey).Nodup

instance (rows : List ListingRow) : Decidable (listingIndexHolds rows) :=
  inferInstanceAs (Decidable (List.Nodup _))

/-- `UPDATE listing SET instrument_id = %s WHERE instrument_id = %s AND valid_to IS NULL`. -/
def repointListings (oldId newId : Nat) : Sql Unit :=
  Sql.execute fun tx =>
    let listing := tx.db.listing.map (·.repoint oldId newId)
    if ¬ listingIndexHolds listing then (.error .uniqueViolation, tx)
    else (.ok (), { tx with db := { tx.db with listing := listing } })

inductive Outcome where
  | added | modified | unchanged
  deriving DecidableEq, Repr

variable (upper : String → String)

/-- `fields_now` of `upsert_instrument`; `upper` is `str.upper`. -/
def NormalizedInstrument.instrumentFields (inst : NormalizedInstrument) : InstrumentFields where
  class_ := inst.class_
  baseCcy := upper inst.baseCcy
  quoteCcy := upper inst.quoteCcy
  settleCcy := upper inst.settleCcy
  expiry := inst.expiry
  strike := inst.strike
  putcall := inst.putcall

def upsertInstrument (inst : NormalizedInstrument) : Sql (Nat × Outcome) := do
  let current ← Sql.fetch (·.currentInstrument inst.canonicalSymbol)
  match current with
  | none =>
    let newId ← insertInstrument inst.canonicalSymbol (inst.instrumentFields upper)
    return (newId, .added)
  | some current =>
    if current.fields = inst.instrumentFields upper then return (current.id, .unchanged)
    else
      -- the current row ends first: the index has room for one
      closeInstrument current.id
      let newId ← insertInstrument inst.canonicalSymbol (inst.instrumentFields upper)
      -- the listings of other venues would be left with a row that has ended
      repointListings current.id newId
      return (newId, .modified)

theorem insertInstrument_eq_ok {canonicalSymbol : String} {fields : InstrumentFields}
    {tx tx' : Tx} {id : Nat} : insertInstrument canonicalSymbol fields tx = (.ok id, tx') ↔
      tx.aborted = false ∧ tx.sequences.instrument = id ∧ id < UINT32_LIMIT ∧
        tx.db.currentInstrument canonicalSymbol = none ∧
        ∃ f, fields.stored = .ok f ∧ tx.addInstrument canonicalSymbol f = tx' := by
  rw [insertInstrument, Sql.execute_eq_ok]
  refine and_congr_right fun _ => ?_
  rcases hstored : fields.stored with e | f
  · simp
  · simp only [ne_eq, ite_not]
    split
    · simp only [Prod.mk.injEq, reduceCtorEq, false_and, false_iff]
      rintro ⟨rfl, hlt, -⟩
      omega
    · split
      · simp only [Prod.mk.injEq, Except.ok.injEq, exists_eq_left', true_and, *]
        constructor
        · rintro ⟨rfl, rfl⟩
          exact ⟨rfl, by omega, rfl⟩
        · rintro ⟨rfl, -, rfl⟩
          exact ⟨rfl, rfl⟩
      · simp [*]

/-- The instrument's row is closed and followed by another, and its current listings go over. -/
def Tx.reviseInstrument (tx : Tx) (oldId : Nat) (canonicalSymbol : String)
    (fields : InstrumentFields) : Tx :=
  { tx with
    sequences := { tx.sequences with instrument := tx.sequences.instrument + 1 }
    db := { tx.db with
      instrument := tx.db.instrument.map (·.closeId oldId tx.now) ++
        [tx.newInstrument canonicalSymbol fields]
      listing := tx.db.listing.map (·.repoint oldId tx.sequences.instrument) } }

/-- What `upsert_instrument` can do, with the id and the outcome that it returns. -/
inductive InstrumentUpsert (inst : NormalizedInstrument) (tx : Tx) : Nat × Outcome → Tx → Prop
  | added {fields : InstrumentFields}
      (hnone : tx.db.currentInstrument inst.canonicalSymbol = none)
      (hid : tx.sequences.instrument < UINT32_LIMIT)
      (hstored : (inst.instrumentFields upper).stored = .ok fields) :
      InstrumentUpsert inst tx (tx.sequences.instrument, .added)
        (tx.addInstrument inst.canonicalSymbol fields)
  | unchanged {current : InstrumentRow}
      (hcurrent : tx.db.currentInstrument inst.canonicalSymbol = some current)
      (hfields : current.fields = inst.instrumentFields upper) :
      InstrumentUpsert inst tx (current.id, .unchanged) tx
  | modified {current : InstrumentRow} {fields : InstrumentFields}
      (hcurrent : tx.db.currentInstrument inst.canonicalSymbol = some current)
      (hfields : current.fields ≠ inst.instrumentFields upper)
      (hclosed : Db.currentInstrument
        { tx.db with instrument := tx.db.instrument.map (·.closeId current.id tx.now) }
        inst.canonicalSymbol = none)
      (hid : tx.sequences.instrument < UINT32_LIMIT)
      (hstored : (inst.instrumentFields upper).stored = .ok fields)
      (hindex : listingIndexHolds
        (tx.db.listing.map (·.repoint current.id tx.sequences.instrument))) :
      InstrumentUpsert inst tx (tx.sequences.instrument, .modified)
        (tx.reviseInstrument current.id inst.canonicalSymbol fields)

theorem upsertInstrument_eq_ok {inst : NormalizedInstrument} {tx tx' : Tx} {r : Nat × Outcome} :
    upsertInstrument upper inst tx = (.ok r, tx') ↔
      tx.aborted = false ∧ InstrumentUpsert upper inst tx r tx' := by
  simp only [upsertInstrument, Sql.bind_eq_ok, Sql.fetch_eq_ok]
  constructor
  · rintro ⟨current, _, ⟨hgo, hcurrent, rfl⟩, h⟩
    refine ⟨hgo, ?_⟩
    rcases current with _ | current
    · obtain ⟨newId, t, hinsert, hreturn⟩ := Sql.bind_eq_ok.mp h
      obtain ⟨-, rfl, hid, hnone, f, hstored, rfl⟩ := insertInstrument_eq_ok.mp hinsert
      obtain ⟨rfl, rfl⟩ := Sql.pure_eq_ok.mp hreturn
      exact .added hnone hid hstored
    · simp only at h
      split at h
      · obtain ⟨rfl, rfl⟩ := Sql.pure_eq_ok.mp h
        exact .unchanged hcurrent ‹_›
      · simp only [Sql.bind_eq_ok, closeInstrument, Sql.update_eq_ok, repointListings,
          Sql.execute_eq_ok] at h
        obtain ⟨_, t₁, ⟨-, rfl⟩, newId, t₂, hinsert, _, t₃, ⟨-, hrepoint⟩, hreturn⟩ := h
        obtain ⟨-, rfl, hid, hclosed, f, hstored, rfl⟩ := insertInstrument_eq_ok.mp hinsert
        obtain ⟨rfl, rfl⟩ := Sql.pure_eq_ok.mp hreturn
        split at hrepoint
        · simp at hrepoint
        · obtain rfl : _ = t₃ := (Prod.mk.inj hrepoint).2
          exact .modified hcurrent ‹_› hclosed hid hstored (not_not.mp ‹_›)
  · rintro ⟨hgo, h⟩
    refine ⟨tx.db.currentInstrument inst.canonicalSymbol, tx, ⟨hgo, rfl, rfl⟩, ?_⟩
    cases h with
    | added hnone hid hstored =>
      rw [hnone]
      exact Sql.bind_eq_ok.mpr ⟨_, _, insertInstrument_eq_ok.mpr
        ⟨hgo, rfl, hid, hnone, _, hstored, rfl⟩, rfl⟩
    | unchanged hcurrent hfields =>
      rw [hcurrent]
      simp only
      rw [if_pos hfields]
      rfl
    | modified hcurrent hfields hclosed hid hstored hindex =>
      rw [hcurrent]
      simp only
      rw [if_neg hfields]
      refine Sql.bind_eq_ok.mpr ⟨(), _, Sql.update_eq_ok.mpr ⟨hgo, rfl⟩, ?_⟩
      refine Sql.bind_eq_ok.mpr ⟨_, _, insertInstrument_eq_ok.mpr
        ⟨hgo, rfl, hid, hclosed, _, hstored, rfl⟩, ?_⟩
      refine Sql.bind_eq_ok.mpr ⟨(), _, Sql.execute_eq_ok.mpr ⟨hgo, ?_⟩, rfl⟩
      exact if_neg (not_not.mpr hindex)

end Instruments

/-! ## Listings -/

def Db.currentListing (db : Db) (instrumentId exchangeId : Nat) : Option ListingRow :=
  (current ListingRow.indexKey (·.period) db.listing (instrumentId, exchangeId)).head?

def Db.hasInstrument (db : Db) (id : Nat) : Prop := ∃ r ∈ db.instrument, r.id = id

instance (db : Db) (id : Nat) : Decidable (db.hasInstrument id) :=
  inferInstanceAs (Decidable (∃ r ∈ db.instrument, r.id = id))

/-- The next row of the listing table. -/
def Tx.newListing (tx : Tx) (instrumentId exchangeId : Nat) (fields : ListingFields)
    (listedAt : Option Date) : ListingRow where
  id := tx.sequences.listing
  instrumentId := instrumentId
  exchangeId := exchangeId
  fields := fields
  listedAt := listedAt
  period := { validFrom := tx.now }

def Tx.addListing (tx : Tx) (instrumentId exchangeId : Nat) (fields : ListingFields)
    (listedAt : Option Date) : Tx :=
  { tx with
    sequences := { tx.sequences with listing := tx.sequences.listing + 1 }
    db := { tx.db with
      listing := tx.db.listing ++ [tx.newListing instrumentId exchangeId fields listedAt] } }

/-- `INSERT INTO listing`. -/
def insertListing (instrumentId exchangeId : Nat) (fields : ListingFields)
    (listedAt : Option Date) : Sql Nat :=
  Sql.execute fun tx =>
    let id := tx.sequences.listing
    let refused : Tx := { tx with sequences := { tx.sequences with listing := id + 1 } }
    match fields.stored with
    | .error e => (.error e, refused)
    | .ok fields =>
      let tx' := tx.addListing instrumentId exchangeId fields listedAt
      if ¬ listingIndexHolds tx'.db.listing then (.error .uniqueViolation, refused)
      else if ¬ (tx.db.hasInstrument instrumentId ∧ exchangeId ∈ exchanges.map Prod.fst) then
        (.error .foreignKeyViolation, refused)
      else (.ok id, tx')

def ListingRow.closeId (id : Nat) (now : Time) (l : ListingRow) : ListingRow :=
  if l.id = id then { l with period := l.period.close now } else l

/-- `UPDATE listing SET valid_to = now() WHERE id = %s`. -/
def closeListing (id : Nat) : Sql Unit :=
  Sql.update fun tx => { tx.db with listing := tx.db.listing.map (·.closeId id tx.now) }

/-- The row is closed and followed by another. -/
def Tx.reviseListing (tx : Tx) (oldId instrumentId exchangeId : Nat) (fields : ListingFields)
    (listedAt : Option Date) : Tx :=
  { tx with
    sequences := { tx.sequences with listing := tx.sequences.listing + 1 }
    db := { tx.db with
      listing := tx.db.listing.map (·.closeId oldId tx.now) ++
        [tx.newListing instrumentId exchangeId fields listedAt] } }

/-- `fields_now` of `upsert_listing`. -/
def NormalizedInstrument.listingFields (inst : NormalizedInstrument) : ListingFields where
  venueNativeSymbol := inst.venueNativeSymbol
  tickSize := inst.tickSize
  lotSize := inst.lotSize
  minQty := inst.minQty
  minNotional := inst.minNotional
  makerBps := inst.makerBps
  takerBps := inst.takerBps
  multiplier := inst.multiplier
  status := inst.status

def upsertListing (instrumentId exchangeId : Nat) (inst : NormalizedInstrument) :
    Sql (Nat × Outcome) := do
  let current ← Sql.fetch (·.currentListing instrumentId exchangeId)
  match current with
  | none =>
    let newId ← insertListing instrumentId exchangeId inst.listingFields inst.listedAt
    return (newId, .added)
  | some current =>
    if current.fields = inst.listingFields then return (current.id, .unchanged)
    else
      closeListing current.id
      let newId ← insertListing instrumentId exchangeId inst.listingFields inst.listedAt
      return (newId, .modified)

theorem insertListing_eq_ok {instrumentId exchangeId : Nat} {fields : ListingFields}
    {listedAt : Option Date} {tx tx' : Tx} {id : Nat} :
    insertListing instrumentId exchangeId fields listedAt tx = (.ok id, tx') ↔
      tx.aborted = false ∧ tx.sequences.listing = id ∧
        (tx.db.hasInstrument instrumentId ∧ exchangeId ∈ exchanges.map Prod.fst) ∧
        ∃ f, fields.stored = .ok f ∧
          listingIndexHolds (tx.addListing instrumentId exchangeId f listedAt).db.listing ∧
          tx.addListing instrumentId exchangeId f listedAt = tx' := by
  rw [insertListing, Sql.execute_eq_ok]
  refine and_congr_right fun _ => ?_
  rcases hstored : fields.stored with e | f
  · simp
  · simp only [ite_not]
    split
    · split
      · simp [*]
      · rename_i hforeign
        simp only [Prod.mk.injEq, reduceCtorEq, false_and, false_iff]
        exact fun h => hforeign h.2.1
    · simp [*]

/-- What `upsert_listing` can do. -/
inductive ListingUpsert (instrumentId exchangeId : Nat) (inst : NormalizedInstrument) (tx : Tx) :
    Nat × Outcome → Tx → Prop
  | added {fields : ListingFields}
      (hnone : tx.db.currentListing instrumentId exchangeId = none)
      (hstored : inst.listingFields.stored = .ok fields)
      (hindex : listingIndexHolds
        (tx.addListing instrumentId exchangeId fields inst.listedAt).db.listing)
      (hforeign : tx.db.hasInstrument instrumentId ∧ exchangeId ∈ exchanges.map Prod.fst) :
      ListingUpsert instrumentId exchangeId inst tx (tx.sequences.listing, .added)
        (tx.addListing instrumentId exchangeId fields inst.listedAt)
  | unchanged {current : ListingRow}
      (hcurrent : tx.db.currentListing instrumentId exchangeId = some current)
      (hfields : current.fields = inst.listingFields) :
      ListingUpsert instrumentId exchangeId inst tx (current.id, .unchanged) tx
  | modified {current : ListingRow} {fields : ListingFields}
      (hcurrent : tx.db.currentListing instrumentId exchangeId = some current)
      (hfields : current.fields ≠ inst.listingFields)
      (hstored : inst.listingFields.stored = .ok fields)
      (hindex : listingIndexHolds
        (tx.reviseListing current.id instrumentId exchangeId fields inst.listedAt).db.listing)
      (hforeign : tx.db.hasInstrument instrumentId ∧ exchangeId ∈ exchanges.map Prod.fst) :
      ListingUpsert instrumentId exchangeId inst tx (tx.sequences.listing, .modified)
        (tx.reviseListing current.id instrumentId exchangeId fields inst.listedAt)

theorem upsertListing_eq_ok {instrumentId exchangeId : Nat} {inst : NormalizedInstrument}
    {tx tx' : Tx} {r : Nat × Outcome} :
    upsertListing instrumentId exchangeId inst tx = (.ok r, tx') ↔
      tx.aborted = false ∧ ListingUpsert instrumentId exchangeId inst tx r tx' := by
  simp only [upsertListing, Sql.bind_eq_ok, Sql.fetch_eq_ok]
  constructor
  · rintro ⟨current, _, ⟨hgo, hcurrent, rfl⟩, h⟩
    refine ⟨hgo, ?_⟩
    rcases current with _ | current
    · obtain ⟨newId, t, hinsert, hreturn⟩ := Sql.bind_eq_ok.mp h
      obtain ⟨-, rfl, hforeign, f, hstored, hindex, rfl⟩ := insertListing_eq_ok.mp hinsert
      obtain ⟨rfl, rfl⟩ := Sql.pure_eq_ok.mp hreturn
      exact .added hcurrent hstored hindex hforeign
    · simp only at h
      split at h
      · obtain ⟨rfl, rfl⟩ := Sql.pure_eq_ok.mp h
        exact .unchanged hcurrent ‹_›
      · simp only [Sql.bind_eq_ok, closeListing, Sql.update_eq_ok] at h
        obtain ⟨_, t₁, ⟨-, rfl⟩, newId, t₂, hinsert, hreturn⟩ := h
        obtain ⟨-, rfl, hforeign, f, hstored, hindex, rfl⟩ := insertListing_eq_ok.mp hinsert
        obtain ⟨rfl, rfl⟩ := Sql.pure_eq_ok.mp hreturn
        exact .modified hcurrent ‹_› hstored hindex hforeign
  · rintro ⟨hgo, h⟩
    refine ⟨tx.db.currentListing instrumentId exchangeId, tx, ⟨hgo, rfl, rfl⟩, ?_⟩
    cases h with
    | added hnone hstored hindex hforeign =>
      rw [hnone]
      exact Sql.bind_eq_ok.mpr ⟨_, _, insertListing_eq_ok.mpr
        ⟨hgo, rfl, hforeign, _, hstored, hindex, rfl⟩, rfl⟩
    | unchanged hcurrent hfields =>
      rw [hcurrent]
      simp only
      rw [if_pos hfields]
      rfl
    | modified hcurrent hfields hstored hindex hforeign =>
      rw [hcurrent]
      simp only
      rw [if_neg hfields]
      refine Sql.bind_eq_ok.mpr ⟨(), _, Sql.update_eq_ok.mpr ⟨hgo, rfl⟩, ?_⟩
      exact Sql.bind_eq_ok.mpr ⟨_, _, insertListing_eq_ok.mpr
        ⟨hgo, rfl, hforeign, _, hstored, hindex, rfl⟩, rfl⟩

/-! ## Symbology and the log of runs -/

/-- `INSERT INTO symbology … ON CONFLICT DO NOTHING`. -/
def upsertSymbology (instrumentId : Nat) (vendor value : String) : Sql Unit :=
  Sql.execute fun tx =>
    if ∃ r ∈ tx.db.symbology,
        r.instrumentId = instrumentId ∧ r.vendor = vendor ∧ r.value = value then (.ok (), tx)
    else if ¬ tx.db.hasInstrument instrumentId then (.error .foreignKeyViolation, tx)
    else
      let row : SymbologyRow :=
        { instrumentId := instrumentId, vendor := vendor, value := value, validFrom := tx.now }
      (.ok (), { tx with db := { tx.db with symbology := tx.db.symbology ++ [row] } })

/-- The row was there, or is inserted. -/
theorem upsertSymbology_eq_ok {instrumentId : Nat} {vendor value : String} {tx tx' : Tx} {u : Unit}
    (h : upsertSymbology instrumentId vendor value tx = (.ok u, tx')) :
    ∃ rows, tx' = { tx with db := { tx.db with symbology := rows } } := by
  obtain ⟨-, h⟩ := Sql.execute_eq_ok.mp h
  split at h
  · exact ⟨tx.db.symbology, (Prod.mk.inj h).2.symm⟩
  · split at h
    · simp at h
    · exact ⟨_, (Prod.mk.inj h).2.symm⟩

theorem exists_upsertSymbology {instrumentId : Nat} {vendor value : String} {tx : Tx}
    (hgo : tx.aborted = false) (hin : tx.db.hasInstrument instrumentId) :
    ∃ tx', upsertSymbology instrumentId vendor value tx = (.ok (), tx') := by
  simp only [upsertSymbology, Sql.execute_eq_ok, hin, not_true_eq_false, if_false, hgo, true_and]
  split
  · exact ⟨_, rfl⟩
  · exact ⟨_, rfl⟩

def startIngestRun (source : String) : Sql Nat :=
  Sql.execute fun tx =>
    let id := tx.sequences.ingestRun
    let row : IngestRunRow := { id := id, source := source, startedAt := tx.now }
    (.ok id, { tx with
      sequences := { tx.sequences with ingestRun := id + 1 }
      db := { tx.db with ingestRun := tx.db.ingestRun ++ [row] } })

def IngestRunRow.finish (runId : Nat) (now : Time) (stats : IngestStats) (status : IngestStatus)
    (r : IngestRunRow) : IngestRunRow :=
  if r.id = runId then { r with finishedAt := some now, status := status, stats := stats } else r

def finishIngestRun (runId : Nat) (stats : IngestStats) (status : IngestStatus) : Sql Unit :=
  Sql.update fun tx =>
    { tx.db with ingestRun := tx.db.ingestRun.map (·.finish runId tx.now stats status) }

def exchangeIdByCode (code : String) : Sql Nat := fun tx =>
  match Sql.fetch (fun _ => exchanges.find? fun e => e.2 = code) tx with
  | (.ok (some e), tx) => (.ok e.1, tx)
  | (.ok none, tx) => (.error .unknownExchange, tx)
  | (.error e, tx) => (.error e, tx)

/-! ## What every upsert leaves -/

theorem proper_upsertInstrument (upper : String → String) (inst : NormalizedInstrument) :
    (upsertInstrument upper inst).Proper := by
  have hinsert (s : String) (f : InstrumentFields) : (insertInstrument s f).Proper := by
    refine .execute (fun tx => ?_) fun tx => ?_
    · split
      · rfl
      · simp only
        split_ifs <;> rfl
    · split
      · exact ⟨Nat.le_succ _, le_rfl, le_rfl⟩
      · simp only
        split_ifs <;> exact ⟨Nat.le_succ _, le_rfl, le_rfl⟩
  refine .bind (.fetch _) fun current => ?_
  cases current with
  | none => exact .bind (hinsert _ _) fun _ => .pure _
  | some current =>
    simp only
    split
    · exact .pure _
    · refine .bind (.update _) fun _ => .bind (hinsert _ _) fun newId =>
        .bind (.execute (fun tx => ?_) fun tx => ?_) fun _ => .pure _
      · simp only
        split <;> rfl
      · simp only
        split <;> exact .refl _

theorem proper_upsertListing (instrumentId exchangeId : Nat) (inst : NormalizedInstrument) :
    (upsertListing instrumentId exchangeId inst).Proper := by
  have hinsert (f : ListingFields) (d : Option Date) :
      (insertListing instrumentId exchangeId f d).Proper := by
    refine .execute (fun tx => ?_) fun tx => ?_
    · split
      · rfl
      · simp only
        split_ifs <;> rfl
    · split
      · exact ⟨le_rfl, Nat.le_succ _, le_rfl⟩
      · simp only
        split_ifs <;> exact ⟨le_rfl, Nat.le_succ _, le_rfl⟩
  refine .bind (.fetch _) fun current => ?_
  cases current with
  | none => exact .bind (hinsert _ _) fun _ => .pure _
  | some current =>
    simp only
    split
    · exact .pure _
    · exact .bind (.update _) fun _ => .bind (hinsert _ _) fun _ => .pure _

theorem proper_upsertSymbology (instrumentId : Nat) (vendor value : String) :
    (upsertSymbology instrumentId vendor value).Proper := by
  refine .execute (fun tx => ?_) fun tx => ?_
  · split
    · rfl
    · split <;> rfl
  · split
    · exact .refl _
    · split <;> exact .refl _

theorem uses_upsertInstrument (upper : String → String) (inst : NormalizedInstrument) :
    (upsertInstrument upper inst).Uses 1 := by
  have hinsert (s : String) (f : InstrumentFields) : (insertInstrument s f).Uses 1 := by
    refine .execute fun tx => ?_
    split
    · exact le_rfl
    · simp only
      split_ifs <;> exact le_rfl
  refine .bind (n := 0) (m := 1) (.fetch _) fun current => ?_
  cases current with
  | none => exact .bind (hinsert _ _) fun _ => .pure _
  | some current =>
    simp only
    split
    · exact fun _ => Nat.le_succ _
    · refine .bind (n := 0) (m := 1) (.update _) fun _ => .bind (hinsert _ _) fun newId =>
        .bind (n := 0) (m := 0) (.execute fun tx => ?_) fun _ => .pure _
      simp only
      split <;> exact le_rfl

theorem uses_upsertListing (instrumentId exchangeId : Nat) (inst : NormalizedInstrument) :
    (upsertListing instrumentId exchangeId inst).Uses 0 := by
  have hinsert (f : ListingFields) (d : Option Date) :
      (insertListing instrumentId exchangeId f d).Uses 0 := by
    refine .execute fun tx => ?_
    split
    · exact le_rfl
    · simp only
      split_ifs <;> exact le_rfl
  refine .bind (n := 0) (m := 0) (.fetch _) fun current => ?_
  cases current with
  | none => exact .bind (hinsert _ _) fun _ => .pure _
  | some current =>
    simp only
    split
    · exact .pure _
    · exact .bind (n := 0) (m := 0) (.update _) fun _ => .bind (hinsert _ _) fun _ => .pure _

theorem uses_upsertSymbology (instrumentId : Nat) (vendor value : String) :
    (upsertSymbology instrumentId vendor value).Uses 0 := by
  refine .execute fun tx => ?_
  split
  · exact le_rfl
  · split <;> exact le_rfl

/-! ## The connection -/

/-- The database between two transactions. -/
structure Conn where
  db : Db := {}
  sequences : Sequences := {}
  deriving DecidableEq, Repr

def Conn.beginAt (conn : Conn) (now : Time) : Tx :=
  { now := now, db := conn.db, sequences := conn.sequences }

/-- A transaction of a program: committed when it returns, rolled back when it raises. -/
def transaction {α : Type} (now : Time) (body : Sql α) (conn : Conn) : Except DbError α × Conn :=
  match body (conn.beginAt now) with
  | (.ok a, tx) => (.ok a, { db := tx.db, sequences := tx.sequences })
  | (.error e, tx) => (.error e, { conn with sequences := tx.sequences })

end BptCore.SecMaster
