import BptCore.SecMaster.Refresh

/-!
# What a refresh leaves to be read

Whatever the history, the tables tell one set of columns of a symbol now, and one of a symbol at an
exchange. This module says what a refresh does to these, without rows, ids or times: a fetch whose
numbers fit is put over what was there, row by row, and any other leaves it.

* **`Db.view`** — what is current, by symbol, and by symbol and exchange.
* **`View.refresh`** — a refresh of it.
* **`refresh_refines`** — the tables and the reports, after any refreshes, are those of `View`.
* **`refresh_again`** — the same fetch a second time.
-/

namespace BptCore.SecMaster

open Temporal

/-- What is current of every symbol, and of every symbol at every exchange. -/
@[ext]
structure View where
  instrument : String → Option InstrumentFields := fun _ => none
  listing : String × Nat → Option ListingFields := fun _ => none

/-- The current rows of `instrument`, and of `listing` joined with these. -/
def Db.view (db : Db) : View where
  instrument s := (db.currentInstrument s).map (·.fields)
  listing k := (db.currentInstrument k.1).bind fun r =>
    (db.currentListing r.id k.2).map (·.fields)

/-- The outcome of an upsert, told by what was current. -/
def outcomeOf {F : Type} [DecidableEq F] (before : Option F) (now : F) : Outcome :=
  match before with
  | none => .added
  | some f => if f = now then .unchanged else .modified

/-! ## The view of the tables -/

section Tables

variable {db db' : Db} {sequences sequences' : Sequences} {now now' : Time}

/-- Of a symbol at an exchange, the current listing of its lineage. -/
theorem Sound.view_listing (h : Sound db sequences now) (s : String) (exchangeId : Nat) :
    db.view.listing (s, exchangeId) =
      (current (lineage db.instrument) (·.period) db.listing (some s, exchangeId)).head?.map
        (·.fields) := by
  cases hcurrent : db.currentInstrument s with
  | none =>
    have hnil :
        current (lineage db.instrument) (·.period) db.listing (some s, exchangeId) = [] := by
      refine List.filter_eq_nil_iff.mpr fun l hl => ?_
      obtain ⟨r, hr, hid⟩ := h.refers l hl
      have hne := h.currentInstrument_eq_none.mp hcurrent r hr
      simp [lineage, ← hid, symbolOf_eq h.instrumentIds hr, hne]
    simp [Db.view, hcurrent, hnil]
  | some r =>
    obtain ⟨hmem, rfl, hopen⟩ := h.currentInstrument_eq_some.mp hcurrent
    have hsame : db.currentListing r.id exchangeId =
        (current (lineage db.instrument) (·.period) db.listing
          (some r.canonicalSymbol, exchangeId)).head? := by
      refine Option.ext fun l => ?_
      rw [h.currentListing_eq_some hmem hopen]
      constructor
      · intro hl
        rw [h.listings.current_eq_singleton hl]
        rfl
      · exact fun hl => List.mem_of_mem_head? hl
    simp [Db.view, hcurrent, hsame]

/-- A listing is put in the place of the current one of its lineage, or is the first of it. -/
theorem Sound.view_listing_append (h : Sound db sequences now) (h' : Sound db' sequences' now')
    {s : String} {exchangeId : Nat} (new : ListingRow) (update : ListingRow → ListingRow)
    (hfields : ∀ l, (update l).fields = l.fields)
    (hrows : ∀ k, current (lineage db'.instrument) (·.period) db'.listing k =
      if k = (some s, exchangeId) then [new]
      else (current (lineage db.instrument) (·.period) db.listing k).map update) :
    db'.view.listing = Function.update db.view.listing (s, exchangeId) (some new.fields) := by
  funext ⟨s', exchangeId'⟩
  rw [h'.view_listing, hrows, Function.update_apply, h.view_listing]
  by_cases hk : (s', exchangeId') = (s, exchangeId)
  · obtain ⟨rfl, rfl⟩ := Prod.mk.inj hk
    rw [if_pos rfl, if_pos rfl]
    rfl
  · rw [if_neg hk, if_neg fun heq => hk (by simpa using heq)]
    simp only [List.head?_map, Option.map_map, Function.comp_def, hfields]

/-- The rows of the listings have changed in what the view does not show. -/
theorem Sound.view_listing_relabel (h : Sound db sequences now) (h' : Sound db' sequences' now')
    (update : ListingRow → ListingRow) (hfields : ∀ l, (update l).fields = l.fields)
    (hrows : ∀ k, current (lineage db'.instrument) (·.period) db'.listing k =
      (current (lineage db.instrument) (·.period) db.listing k).map update) :
    db'.view.listing = db.view.listing := by
  funext ⟨s, exchangeId⟩
  rw [h'.view_listing, hrows, h.view_listing]
  simp only [List.head?_map, Option.map_map, Function.comp_def, hfields]

end Tables

/-! ## The view after an upsert -/

section Upserts

variable {upper : String → String} {inst : NormalizedInstrument} {tx tx' : Tx} {exchangeId : Nat}

theorem Sound.view_instrumentUpsert (h : Sound tx.db tx.sequences tx.now) {r : Nat × Outcome}
    (hupsert : InstrumentUpsert upper inst tx r tx') :
    r.2 = outcomeOf (tx.db.view.instrument inst.canonicalSymbol) (inst.instrumentFields upper) ∧
      tx'.db.view.instrument = Function.update tx.db.view.instrument inst.canonicalSymbol
        (inst.instrumentFields upper).stored.toOption ∧
      tx'.db.view.listing = tx.db.view.listing := by
  have h' := (h.instrumentUpsert hupsert).1
  cases hupsert with
  | @added fields hnone hid hstored =>
    refine ⟨by simp [Db.view, hnone, outcomeOf], ?_, ?_⟩
    · funext s
      have hrows : current (·.canonicalSymbol) (·.period)
          (tx.addInstrument inst.canonicalSymbol fields).db.instrument s =
            if s = inst.canonicalSymbol then [tx.newInstrument inst.canonicalSymbol fields]
            else current (·.canonicalSymbol) (·.period) tx.db.instrument s :=
        current_insert (h.currentInstrument_eq_none.mp hnone) rfl s
      simp only [Db.view, Db.currentInstrument, hrows, Function.update_apply, hstored]
      split
      · rfl
      · rfl
    · refine h.view_listing_relabel h' id (fun _ => rfl) fun k => ?_
      rw [List.map_id]
      refine current_rekey (fun l hl => ?_) k
      have heq := lineage_map_append id (tx.newInstrument inst.canonicalSymbol fields)
        (fun _ => rfl) (fun _ => rfl) (h.refers l hl)
      rwa [List.map_id] at heq
  | @unchanged current hcurrent hfields =>
    have hmem := (h.currentInstrument_eq_some.mp hcurrent).1
    have hview : tx.db.view.instrument inst.canonicalSymbol = some current.fields := by
      simp [Db.view, hcurrent]
    refine ⟨by simp [hview, outcomeOf, hfields], ?_, rfl⟩
    rw [← hfields, h.instrumentStored current hmem]
    show tx.db.view.instrument =
      Function.update tx.db.view.instrument inst.canonicalSymbol (some current.fields)
    rw [← hview, Function.update_eq_self]
  | @modified current fields hcurrent hfields hclosed hid hstored hindex =>
    refine ⟨by simp [Db.view, hcurrent, outcomeOf, hfields], ?_, ?_⟩
    · funext s
      have hrows : Temporal.current (·.canonicalSymbol) (·.period)
          (tx.reviseInstrument current.id inst.canonicalSymbol fields).db.instrument s =
            if s = inst.canonicalSymbol then [tx.newInstrument inst.canonicalSymbol fields]
            else (Temporal.current (·.canonicalSymbol) (·.period) tx.db.instrument s).map
              (InstrumentRow.closeId current.id tx.now) := by
        refine current_supersede (fun r _ => InstrumentRow.closeId_canonicalSymbol _ _ r)
          (fun r hr => ?_) rfl rfl s
        rw [InstrumentRow.closeId_period]
        exact if_congr (h.id_eq_iff hcurrent hr) rfl rfl
      simp only [Db.view, Db.currentInstrument, hrows, Function.update_apply, hstored]
      split
      · rfl
      · simp only [List.head?_map, Option.map_map, Function.comp_def, InstrumentRow.closeId_fields]
    · exact h.view_listing_relabel h' _ (ListingRow.repoint_fields _ _)
        (current_map_relabel (fun l hl => h.lineage_repoint hcurrent fields hl)
          fun l _ => ListingRow.repoint_period _ _ l)

theorem IsCurrent.view_listing {instrumentId : Nat} {s : String} {row : InstrumentRow}
    (hrow : IsCurrent tx.db instrumentId s row) (h : Sound tx.db tx.sequences tx.now)
    (exchangeId : Nat) :
    tx.db.view.listing (s, exchangeId) =
      (tx.db.currentListing instrumentId exchangeId).map (·.fields) := by
  have hcurrent := h.currentInstrument_eq_some.mpr ⟨hrow.mem, hrow.symbol, hrow.isOpen⟩
  simp [Db.view, hcurrent, hrow.id_eq]

theorem Sound.view_listingUpsert {instrumentId : Nat} {s : String} {row : InstrumentRow}
    (h : Sound tx.db tx.sequences tx.now) (hrow : IsCurrent tx.db instrumentId s row)
    {r : Nat × Outcome} (hupsert : ListingUpsert instrumentId exchangeId inst tx r tx') :
    r.2 = outcomeOf (tx.db.view.listing (s, exchangeId)) inst.listingFields ∧
      tx'.db.view.instrument = tx.db.view.instrument ∧
      tx'.db.view.listing = Function.update tx.db.view.listing (s, exchangeId)
        inst.listingFields.stored.toOption := by
  have h' := (h.listingUpsert hrow hupsert).1
  have hview := hrow.view_listing h exchangeId
  have hkey (fields : ListingFields) : lineage tx.db.instrument
      (tx.newListing instrumentId exchangeId fields inst.listedAt) = (some s, exchangeId) :=
    congrArg (·, exchangeId) (hrow.symbolOf_eq h)
  cases hupsert with
  | @added fields hnone hstored hindex hforeign =>
    refine ⟨by simp [hview, hnone, outcomeOf], rfl, ?_⟩
    rw [hstored]
    refine h.view_listing_append h'
      (tx.newListing instrumentId exchangeId fields inst.listedAt) id (fun _ => rfl) fun k => ?_
    rw [← hrow.id_eq, h.currentListing_eq_none hrow.mem hrow.isOpen, hrow.symbol] at hnone
    have hfirst : ∀ l ∈ tx.db.listing, lineage tx.db.instrument l ≠ lineage tx.db.instrument
        (tx.newListing instrumentId exchangeId fields inst.listedAt) := by
      intro l hl
      rw [hkey]
      exact hnone l hl
    rw [List.map_id, ← hkey fields]
    exact current_insert hfirst rfl k
  | @unchanged current hcurrent hfields =>
    rw [hcurrent] at hview
    refine ⟨by simp [hview, outcomeOf, hfields], rfl, ?_⟩
    have hmem : current ∈ tx.db.listing := by
      rw [← hrow.id_eq, h.currentListing_eq_some hrow.mem hrow.isOpen] at hcurrent
      exact (mem_current.mp hcurrent).1
    rw [← hfields, h.listingStored current hmem]
    show tx.db.view.listing =
      Function.update tx.db.view.listing (s, exchangeId) ((some current).map (·.fields))
    rw [← hview, Function.update_eq_self]
  | @modified current fields hcurrent hfields hstored hindex hforeign =>
    refine ⟨by simp [hview, hcurrent, outcomeOf, hfields], rfl, ?_⟩
    rw [hstored]
    refine h.view_listing_append h'
      (tx.newListing instrumentId exchangeId fields inst.listedAt) _
      (ListingRow.closeId_fields current.id tx.now) fun k => ?_
    refine current_supersede (fun l _ => by simp [lineage]) (fun l hl => ?_)
      (hkey fields) rfl k
    rw [ListingRow.closeId_period]
    exact if_congr (h.listing_id_eq_iff hrow hcurrent hl) rfl rfl

end Upserts

/-! ## Refreshes of a view -/

section Refresh

variable (upper : String → String)

/-- Every number of the row fits its column. -/
def NormalizedInstrument.fits (inst : NormalizedInstrument) : Bool :=
  (inst.instrumentFields upper).stored.isOk && inst.listingFields.stored.isOk

namespace View

/-- The row of a fetch, in the place of what was there. -/
def put (w : View) (exchangeId : Nat) (inst : NormalizedInstrument) : View where
  instrument := Function.update w.instrument inst.canonicalSymbol
    (inst.instrumentFields upper).stored.toOption
  listing := Function.update w.listing (inst.canonicalSymbol, exchangeId)
    inst.listingFields.stored.toOption

def outcomes (w : View) (exchangeId : Nat) (inst : NormalizedInstrument) : Outcome × Outcome :=
  (outcomeOf (w.instrument inst.canonicalSymbol) (inst.instrumentFields upper),
    outcomeOf (w.listing (inst.canonicalSymbol, exchangeId)) inst.listingFields)

/-- A row as a machine, with its outcomes. -/
def upsert (exchangeId : Nat) (w : View) (inst : NormalizedInstrument) :
    View × List (Outcome × Outcome) :=
  (w.put upper exchangeId inst, [w.outcomes upper exchangeId inst])

/-- The report of a fetch that is taken. -/
def report (w : View) (exchangeId : Nat) (rows : List NormalizedInstrument) : IngestStats :=
  (Machine.outputs (upsert upper exchangeId) w rows).foldl IngestStats.count {}

/-- The refresh of a venue, with its report: `none` when the fetch is not taken. -/
def refresh (w : View) (v : VenueRun) : View × List (Option IngestStats) :=
  match exchangeOf v.code, v.fetched with
  | some exchangeId, some rows =>
    if rows.all (·.fits upper) then
      (Machine.exec (upsert upper exchangeId) w rows, [some (w.report upper exchangeId rows)])
    else (w, [none])
  | _, _ => (w, [none])

end View

end Refresh

/-! ## The tables follow the view -/

section Refines

variable {upper : String → String} {exchangeId : Nat}

theorem fits_iff {inst : NormalizedInstrument} : inst.fits upper = true ↔
    (∃ f, (inst.instrumentFields upper).stored = .ok f) ∧
      ∃ f, inst.listingFields.stored = .ok f := by
  have hok {α : Type} (x : Except DbError α) : x.isOk = true ↔ ∃ a, x = .ok a := by
    cases x <;> simp [Except.isOk, Except.toBool]
  rw [NormalizedInstrument.fits, Bool.and_eq_true, hok, hok]

theorem InstrumentUpsert.stored {inst : NormalizedInstrument} {tx tx' : Tx} {r : Nat × Outcome}
    (h : Sound tx.db tx.sequences tx.now) (hupsert : InstrumentUpsert upper inst tx r tx') :
    ∃ f, (inst.instrumentFields upper).stored = .ok f := by
  obtain ⟨-, row, -, hstored⟩ := h.instrumentUpsert hupsert
  exact ⟨_, hstored⟩

theorem ListingUpsert.stored {instrumentId : Nat} {s : String} {row : InstrumentRow}
    {inst : NormalizedInstrument} {tx tx' : Tx} {r : Nat × Outcome}
    (h : Sound tx.db tx.sequences tx.now) (hrow : IsCurrent tx.db instrumentId s row)
    (hupsert : ListingUpsert instrumentId exchangeId inst tx r tx') :
    ∃ f, inst.listingFields.stored = .ok f := by
  cases hupsert with
  | added hnone hstored hindex hforeign => exact ⟨_, hstored⟩
  | @unchanged current hcurrent hfields =>
    rw [← hrow.id_eq, h.currentListing_eq_some hrow.mem hrow.isOpen] at hcurrent
    exact ⟨_, hfields ▸ h.listingStored current (mem_current.mp hcurrent).1⟩
  | modified hcurrent hfields hstored hindex hforeign => exact ⟨_, hstored⟩

/-- **A row that is upserted** fits, and does to the view what it does to any. -/
theorem RowUpsert.view {inst : NormalizedInstrument} {tx tx' : Tx} {o : Outcome × Outcome}
    (hrow : RowUpsert upper exchangeId inst tx o tx') (h : Sound tx.db tx.sequences tx.now) :
    inst.fits upper = true ∧ o = tx.db.view.outcomes upper exchangeId inst ∧
      tx'.db.view = tx.db.view.put upper exchangeId inst := by
  obtain ⟨hinstrument, hlisting⟩ := hrow
  rename_i tx₁ tx₂ symbology
  obtain ⟨houtcome, hview, hkept⟩ := h.view_instrumentUpsert hinstrument
  obtain ⟨h₁, row, hcurrent, -⟩ := h.instrumentUpsert hinstrument
  rw [← hinstrument.now_eq] at h₁
  obtain ⟨houtcome', hkept', hview'⟩ := h₁.view_listingUpsert hcurrent hlisting
  refine ⟨fits_iff.mpr ⟨hinstrument.stored h, hlisting.stored h₁ hcurrent⟩, ?_, ?_⟩
  · rw [hkept] at houtcome'
    exact Prod.ext houtcome houtcome'
  · rw [hkept] at hview'
    exact View.ext (hkept'.trans hview) hview'

theorem Upserts.view {rows : List NormalizedInstrument} {tx tx' : Tx}
    {os : List (Outcome × Outcome)} (hupserts : Upserts upper exchangeId rows tx os tx')
    (h : Sound tx.db tx.sequences tx.now) :
    rows.all (·.fits upper) = true ∧
      os = Machine.outputs (View.upsert upper exchangeId) tx.db.view rows ∧
      tx'.db.view = Machine.exec (View.upsert upper exchangeId) tx.db.view rows := by
  induction hupserts with
  | nil tx => exact ⟨rfl, rfl, rfl⟩
  | cons hrow hrest ih =>
    obtain ⟨hfits, houtcomes, hview⟩ := hrow.view h
    obtain ⟨hall, hos, hview'⟩ := ih (hrow.sound h).1
    rw [hview] at hos hview'
    refine ⟨by rw [List.all_cons, hfits, hall]; rfl, ?_, hview'⟩
    rw [houtcomes, hos]
    rfl

/-- An upserted row takes one id of the instrument table at most. -/
theorem RowUpsert.uses {inst : NormalizedInstrument} {tx tx' : Tx} {o : Outcome × Outcome}
    (hrow : RowUpsert upper exchangeId inst tx o tx') :
    tx'.sequences.instrument ≤ tx.sequences.instrument + 1 := by
  obtain ⟨hinstrument, hlisting⟩ := hrow
  rename_i tx₁ tx₂ symbology
  have hfirst : tx₁.sequences.instrument ≤ tx.sequences.instrument + 1 := by
    cases hinstrument with
    | added => exact le_rfl
    | unchanged => exact Nat.le_succ _
    | modified => exact le_rfl
  have hsecond : tx₂.sequences.instrument = tx₁.sequences.instrument := by
    cases hlisting <;> rfl
  exact hsecond.trans_le hfirst

theorem Upserts.uses {rows : List NormalizedInstrument} {tx tx' : Tx}
    {os : List (Outcome × Outcome)} (hupserts : Upserts upper exchangeId rows tx os tx') :
    tx'.sequences.instrument ≤ tx.sequences.instrument + rows.length := by
  induction hupserts with
  | nil tx => exact le_rfl
  | cons hrow hrest ih =>
    have hone := hrow.uses
    rw [List.length_cons]
    omega

/-! ## What fits is taken -/

theorem Sound.exists_upsertRow {inst : NormalizedInstrument} {tx : Tx}
    (h : Sound tx.db tx.sequences tx.now) (hgo : tx.aborted = false)
    (hfits : inst.fits upper = true) (hexchange : exchangeId ∈ exchanges.map Prod.fst)
    (hroom : tx.sequences.instrument < UINT32_LIMIT) :
    ∃ o tx', upsertRow upper exchangeId inst tx = (.ok o, tx') := by
  obtain ⟨⟨fields, hfields⟩, listingFields, hlistingFields⟩ := fits_iff.mp hfits
  obtain ⟨r, tx₁, hinstrument⟩ := h.exists_instrumentUpsert hfields hroom
  obtain ⟨h₁, row, hcurrent, -⟩ := h.instrumentUpsert hinstrument
  rw [← hinstrument.now_eq] at h₁
  obtain ⟨r', tx₂, hlisting⟩ := h₁.exists_listingUpsert hcurrent hlistingFields hexchange
  have hgo₁ := hinstrument.aborted_eq.trans hgo
  have hgo₂ := hlisting.aborted_eq.trans hgo₁
  have hin : tx₂.db.hasInstrument r.1 := by
    rw [Db.hasInstrument, (h₁.listingUpsert hcurrent hlisting).2]
    exact ⟨row, hcurrent.mem, hcurrent.id_eq⟩
  obtain ⟨tx₃, hsymbology⟩ : ∃ tx₃, upsertSymbology r.1 "venue_native" inst.venueNativeSymbol tx₂ =
      (.ok (), tx₃) := exists_upsertSymbology hgo₂ hin
  refine ⟨(r.2, r'.2), tx₃, ?_⟩
  refine Sql.bind_eq_ok.mpr ⟨r, tx₁, (upsertInstrument_eq_ok upper).mpr ⟨hgo, hinstrument⟩, ?_⟩
  refine Sql.bind_eq_ok.mpr ⟨r', tx₂, upsertListing_eq_ok.mpr ⟨hgo₁, hlisting⟩, ?_⟩
  exact Sql.bind_eq_ok.mpr ⟨(), tx₃, hsymbology, rfl⟩

theorem Sound.exists_upsertRows {rows : List NormalizedInstrument} {tx : Tx}
    (h : Sound tx.db tx.sequences tx.now) (hgo : tx.aborted = false)
    (hfits : rows.all (·.fits upper) = true) (hexchange : exchangeId ∈ exchanges.map Prod.fst)
    (hroom : tx.sequences.instrument + rows.length ≤ UINT32_LIMIT) (stats : IngestStats) :
    ∃ stats' tx', upsertRows upper exchangeId rows stats tx = (.ok stats', tx') ∧
      tx'.aborted = false := by
  induction rows generalizing tx stats with
  | nil => exact ⟨stats, tx, rfl, hgo⟩
  | cons inst rest ih =>
    rw [List.all_cons, Bool.and_eq_true] at hfits
    rw [List.length_cons] at hroom
    obtain ⟨o, tx₁, hok⟩ := h.exists_upsertRow hgo hfits.1 hexchange (by omega)
    have hrow := (upsertRow_eq_ok hok).2
    have hone := hrow.uses
    obtain ⟨stats', tx', hrest, hgo'⟩ := ih (hrow.sound h).1 (hrow.aborted_eq.trans hgo) hfits.2
      (by omega) (stats.record (.ok o))
    refine ⟨stats', tx', ?_, hgo'⟩
    refine Sql.bind_eq_ok.mpr ⟨.ok o, tx₁, ?_, hrest⟩
    simp only [Sql.attempt, hok]

theorem mem_exchanges_of_exchangeOf {code : String} (h : exchangeOf code = some exchangeId) :
    exchangeId ∈ exchanges.map Prod.fst := by
  obtain ⟨e, he, rfl⟩ := Option.map_eq_some_iff.mp h
  exact List.mem_map_of_mem (List.mem_of_find?_eq_some he)

/-- Of a venue that is known, a fetch that fits is taken, as long as there are ids. -/
theorem Conn.SoundAt.exists_ok {conn : Conn} {now : Time} (h : conn.SoundAt now) {v : VenueRun}
    (hnow : now ≤ v.upsertAt) {rows : List NormalizedInstrument}
    (hcode : exchangeOf v.code = some exchangeId) (hfetched : v.fetched = some rows)
    (hfits : rows.all (·.fits upper) = true)
    (hroom : conn.sequences.instrument + rows.length ≤ UINT32_LIMIT) :
    ∃ stats, (runOneVenue upper conn v).1 = .ok stats := by
  rw [runOneVenue, openRun_eq, hcode]
  simp only [hfetched, transaction]
  rcases ingest_cases upper exchangeId conn.sequences.ingestRun rows
    ((conn.opened v).beginAt v.upsertAt) with ⟨os, tx, -, -, hok⟩ |
      ⟨tx, haborted, -, -, ⟨stats, hloop⟩, -⟩
  · rw [hok]
    exact ⟨_, rfl⟩
  · -- the loop has not been aborted
    have hopened : Sound ((conn.opened v).beginAt v.upsertAt).db
        ((conn.opened v).beginAt v.upsertAt).sequences
        ((conn.opened v).beginAt v.upsertAt).now := h.opened hnow v
    have hexists : ∃ stats' tx', upsertRows upper exchangeId rows {}
        ((conn.opened v).beginAt v.upsertAt) = (.ok stats', tx') ∧ tx'.aborted = false :=
      Sound.exists_upsertRows hopened rfl hfits (mem_exchanges_of_exchangeOf hcode) hroom {}
    obtain ⟨stats', tx', hloop', hgo⟩ := hexists
    rw [hloop] at hloop'
    rw [(Prod.mk.inj hloop').2, hgo] at haborted
    cases haborted

end Refines

/-! ## Over a run -/

section Runs

variable {upper : String → String}

def VenueRun.rowCount (v : VenueRun) : Nat := (v.fetched.getD []).length

theorem VenueRun.rowCount_eq {v : VenueRun} {rows : List NormalizedInstrument}
    (hfetched : v.fetched = some rows) : v.rowCount = rows.length := by
  simp [VenueRun.rowCount, hfetched]

/-- How many rows the runs have fetched. -/
def fetchedRows : List VenueRun → Nat
  | [] => 0
  | v :: vs => v.rowCount + fetchedRows vs

/-- **The refresh of a venue is one of the view.** -/
theorem runOneVenue_refines (upper : String → String) {conn : Conn} {now : Time} {v : VenueRun}
    (h : conn.SoundAt now) (hnow : now ≤ v.upsertAt)
    (hroom : conn.sequences.instrument + v.rowCount ≤ UINT32_LIMIT) :
    conn.db.view.refresh upper v =
        ((runOneVenue upper conn v).2.db.view, [(runOneVenue upper conn v).1.toOption]) ∧
      (runOneVenue upper conn v).2.sequences.instrument ≤
        conn.sequences.instrument + v.rowCount := by
  have hstep := runOneVenue_step upper conn v
  rcases hrun : runOneVenue upper conn v with ⟨r, conn'⟩
  rw [hrun] at hstep
  cases hstep with
  | unknown hcode =>
    refine ⟨?_, Nat.le_add_right _ _⟩
    simp only [View.refresh, hcode]
    rfl
  | notFetched hcode hfetched =>
    refine ⟨?_, Nat.le_add_right _ _⟩
    simp only [View.refresh, hcode, hfetched]
    rfl
  | @rolledBack exchangeId rows sequences hcode hfetched hle huses =>
    have hcount := VenueRun.rowCount_eq hfetched
    -- had the rows fitted, the transaction would have been committed
    have hnot : ¬ rows.all (·.fits upper) = true := by
      intro hfits
      obtain ⟨stats, hok⟩ := h.exists_ok hnow hcode hfetched hfits (hcount ▸ hroom)
      rw [hrun] at hok
      cases hok
    refine ⟨?_, hcount ▸ huses⟩
    simp only [View.refresh, hcode, hfetched, if_neg hnot]
    rfl
  | @committed exchangeId rows os tx hcode hfetched hupserts =>
    have hcount := VenueRun.rowCount_eq hfetched
    obtain ⟨hfits, hos, hview⟩ := hupserts.view (h.opened hnow v)
    refine ⟨?_, hcount ▸ hupserts.uses⟩
    have hsame : ((conn.opened v).beginAt v.upsertAt).db.view = conn.db.view := rfl
    rw [hsame] at hos hview
    simp only [View.refresh, hcode, hfetched, if_pos hfits, ← hview, View.report, ← hos]
    rfl

theorem exec_refines (upper : String → String) {conn : Conn} {now : Time} {vs : List VenueRun}
    (h : conn.SoundAt now) (horder : InOrder now vs)
    (hroom : conn.sequences.instrument + fetchedRows vs ≤ UINT32_LIMIT) :
    (Machine.exec (step upper) conn vs).db.view =
        Machine.exec (View.refresh upper) conn.db.view vs ∧
      (Machine.outputs (step upper) conn vs).map Except.toOption =
        Machine.outputs (View.refresh upper) conn.db.view vs := by
  induction vs generalizing conn now with
  | nil => exact ⟨rfl, rfl⟩
  | cons v vs ih =>
    obtain ⟨hstart, hupsert, hrest⟩ := horder
    have hnow := hstart.trans hupsert
    rw [fetchedRows] at hroom
    obtain ⟨hrefresh, huses⟩ := runOneVenue_refines upper h hnow (by omega)
    have hsound := ((runOneVenue_step upper conn v).sound h hnow).1
    obtain ⟨hview, houtputs⟩ := ih hsound hrest (by omega)
    constructor
    · rw [Machine.exec_cons, Machine.exec_cons, hrefresh]
      exact hview
    · simp only [Machine.outputs, hrefresh, List.map_append]
      exact congrArg ([(runOneVenue upper conn v).1.toOption] ++ ·) houtputs

/-- **The tables refine the view.** After any refreshes of an empty master, failed ones among them,
what is current is what the fetches have put one over the other, each as a whole or not at all: not
at all when the venue is unknown, the fetch fails, or a number of any row does not fit its column.
The reports are told by the view too. A symbol that a venue lists no more stays as it was. -/
theorem refresh_refines (upper : String → String) {vs : List VenueRun} (horder : InOrder 0 vs)
    (hroom : fetchedRows vs < UINT32_LIMIT) :
    (master upper vs).db.view = Machine.exec (View.refresh upper) {} vs ∧
      (Machine.outputs (step upper) {} vs).map Except.toOption =
        Machine.outputs (View.refresh upper) {} vs := by
  have hempty : ({} : Conn).SoundAt 0 := Sound.empty
  refine exec_refines upper hempty horder ?_
  show 1 + fetchedRows vs ≤ UINT32_LIMIT
  rw [Nat.add_comm]
  exact hroom

/-- The last fetch has a row with a number that does not fit. -/
def sampleRefused : List VenueRun :=
  sampleRuns ++
    [{ code := "okx", startedAt := 30, upsertAt := 31,
       fetched := some
        [{ samplePerp with tickSize := 1 / 2 },
         { samplePerp with canonicalSymbol := "BTC/USDT", lotSize := 10 ^ 10 }] }]

theorem refresh_refines_sample :
    (master id sampleRefused).db.view = Machine.exec (View.refresh id) {} sampleRefused ∧
      (Machine.outputs (step id) {} sampleRefused).map Except.toOption =
        Machine.outputs (View.refresh id) {} sampleRefused ∧
      Machine.outputs (View.refresh id) {} sampleRefused =
        [some { rowsAdded := 1 }, some { rowsAdded := 1 }, none] := by
  obtain ⟨hview, hreports⟩ := refresh_refines id (show InOrder 0 sampleRefused by decide)
    (by decide)
  exact ⟨hview, hreports, by decide +kernel⟩

end Runs

/-! ## The log of runs -/

section Log

variable {upper : String → String}

/-- What a row of the log tells, besides its id. -/
def IngestRunRow.told (r : IngestRunRow) :
    String × Time × Option Time × IngestStatus × IngestStats :=
  (r.source, r.startedAt, r.finishedAt, r.status, r.stats)

/-- What the log tells of a run with its report. -/
def VenueRun.told (v : VenueRun) (r : Except VenueError IngestStats) :
    List (String × Time × Option Time × IngestStatus × IngestStats) :=
  match exchangeOf v.code, r with
  | none, _ => []
  | some _, .ok stats => [(v.code, v.startedAt, some v.upsertAt, .ok, stats)]
  | some _, .error _ => [(v.code, v.startedAt, none, .running, {})]

structure Conn.LogSound (conn : Conn) : Prop where
  ids : (conn.db.ingestRun.map (·.id)).Pairwise (· < ·)
  fresh : ∀ r ∈ conn.db.ingestRun, r.id < conn.sequences.ingestRun
  clean : ∀ r ∈ conn.db.ingestRun, r.status ≠ .partially ∧ r.stats.errorCount = 0

/-- One more row, with the id that was next. -/
theorem Conn.LogSound.append {conn conn' : Conn} (h : conn.LogSound) {row : IngestRunRow}
    (hlog : conn'.db.ingestRun = conn.db.ingestRun ++ [row])
    (hid : row.id = conn.sequences.ingestRun)
    (hnext : conn.sequences.ingestRun < conn'.sequences.ingestRun)
    (hclean : row.status ≠ .partially ∧ row.stats.errorCount = 0) : conn'.LogSound where
  ids := by
    rw [hlog, List.map_append, List.map_cons, List.map_nil, List.pairwise_append]
    refine ⟨h.ids, List.pairwise_singleton _ _, ?_⟩
    simp only [List.mem_map, List.mem_singleton]
    rintro _ ⟨r, hr, rfl⟩ _ rfl
    exact hid ▸ h.fresh r hr
  fresh r hr := by
    rw [hlog, List.mem_append, List.mem_singleton] at hr
    rcases hr with hr | rfl
    · exact (h.fresh r hr).trans hnext
    · exact hid ▸ hnext
  clean r hr := by
    rw [hlog, List.mem_append, List.mem_singleton] at hr
    rcases hr with hr | rfl
    · exact h.clean r hr
    · exact hclean

theorem RowUpsert.log {exchangeId : Nat} {inst : NormalizedInstrument} {tx tx' : Tx}
    {o : Outcome × Outcome} (hrow : RowUpsert upper exchangeId inst tx o tx') :
    tx'.db.ingestRun = tx.db.ingestRun ∧ tx'.sequences.ingestRun = tx.sequences.ingestRun := by
  obtain ⟨hinstrument, hlisting⟩ := hrow
  cases hinstrument <;> cases hlisting <;> exact ⟨rfl, rfl⟩

theorem Upserts.log {exchangeId : Nat} {rows : List NormalizedInstrument} {tx tx' : Tx}
    {os : List (Outcome × Outcome)} (hupserts : Upserts upper exchangeId rows tx os tx') :
    tx'.db.ingestRun = tx.db.ingestRun ∧ tx'.sequences.ingestRun = tx.sequences.ingestRun ∧
      tx'.now = tx.now := by
  induction hupserts with
  | nil tx => exact ⟨rfl, rfl, rfl⟩
  | cons hrow hrest ih =>
    obtain ⟨hlog, hsequence, hnow⟩ := ih
    exact ⟨hlog.trans hrow.log.1, hsequence.trans hrow.log.2, hnow.trans hrow.now_eq⟩

/-- The row of a run that is finished. -/
def VenueRun.finishedRow (v : VenueRun) (id : Nat) (stats : IngestStats) : IngestRunRow where
  id := id
  source := v.code
  startedAt := v.startedAt
  finishedAt := some v.upsertAt
  status := .ok
  stats := stats

/-- The row that a run has opened is finished, and no other. -/
theorem Conn.LogSound.finish {conn : Conn} (h : conn.LogSound) (v : VenueRun)
    (stats : IngestStats) :
    (conn.opened v).db.ingestRun.map (·.finish conn.sequences.ingestRun v.upsertAt stats .ok) =
      conn.db.ingestRun ++ [v.finishedRow conn.sequences.ingestRun stats] := by
  have hother : conn.db.ingestRun.map
      (·.finish conn.sequences.ingestRun v.upsertAt stats .ok) = conn.db.ingestRun := by
    refine (List.map_congr_left fun r hr => ?_).trans (List.map_id _)
    exact if_neg (h.fresh r hr).ne
  rw [Conn.opened, List.map_append, hother]
  simp [IngestRunRow.finish, VenueRun.finishedRow]

theorem VenueStep.log {conn conn' : Conn} {v : VenueRun} {r : Except VenueError IngestStats}
    (hstep : VenueStep upper conn v r conn') (h : conn.LogSound) :
    conn'.LogSound ∧ conn'.db.ingestRun.map IngestRunRow.told =
      conn.db.ingestRun.map IngestRunRow.told ++ v.told r := by
  have hclean : IngestStatus.running ≠ .partially ∧ ({} : IngestStats).errorCount = 0 :=
    ⟨nofun, rfl⟩
  cases hstep with
  | unknown hcode => exact ⟨h, by simp [VenueRun.told, hcode]⟩
  | notFetched hcode hfetched =>
    refine ⟨h.append rfl rfl (Nat.lt_succ_self _) hclean, ?_⟩
    simp [VenueRun.told, hcode, Conn.opened, IngestRunRow.told]
  | rolledBack hcode hfetched hle huses =>
    refine ⟨h.append rfl rfl hle.ingestRun hclean, ?_⟩
    simp [VenueRun.told, hcode, Conn.opened, IngestRunRow.told]
  | @committed exchangeId rows os tx hcode hfetched hupserts =>
    obtain ⟨hlog, hsequence, hnow⟩ := hupserts.log
    have hfinished : (tx.finished conn.sequences.ingestRun
        (os.foldl IngestStats.count {})).db.ingestRun = conn.db.ingestRun ++
          [v.finishedRow conn.sequences.ingestRun (os.foldl IngestStats.count {})] := by
      simp only [Tx.finished, hlog, hnow]
      exact h.finish v _
    refine ⟨h.append hfinished rfl ?_ ⟨nofun, foldl_count_errorCount os {}⟩, ?_⟩
    · show conn.sequences.ingestRun < tx.sequences.ingestRun
      rw [hsequence]
      exact Nat.lt_succ_self _
    · rw [hfinished]
      simp [VenueRun.told, hcode, VenueRun.finishedRow, IngestRunRow.told]

theorem exec_log (upper : String → String) {conn : Conn} (h : conn.LogSound)
    (vs : List VenueRun) :
    (Machine.exec (step upper) conn vs).LogSound ∧
      (Machine.exec (step upper) conn vs).db.ingestRun.map IngestRunRow.told =
        conn.db.ingestRun.map IngestRunRow.told ++
          (vs.zip (Machine.outputs (step upper) conn vs)).flatMap fun p => p.1.told p.2 := by
  induction vs generalizing conn with
  | nil => exact ⟨h, (List.append_nil _).symm⟩
  | cons v vs ih =>
    obtain ⟨hlog, htold⟩ := (runOneVenue_step upper conn v).log h
    obtain ⟨hlog', htold'⟩ := ih hlog
    refine ⟨hlog', htold'.trans ?_⟩
    rw [htold, List.append_assoc]
    rfl

/-- **The log of runs tells the reports.** It has one row for each run of a known venue, in their
order: finished with the counts of the report when this is ok, and left as it was opened otherwise.
No run is ever recorded as partial, or with an error: a row that fails aborts the transaction, and
the log is not written in it. -/
theorem run_log (upper : String → String) (vs : List VenueRun) :
    (master upper vs).db.ingestRun.map IngestRunRow.told =
        (vs.zip (Machine.outputs (step upper) {} vs)).flatMap (fun p => p.1.told p.2) ∧
      ((master upper vs).db.ingestRun.map (·.id)).Pairwise (· < ·) ∧
      ∀ r ∈ (master upper vs).db.ingestRun, r.status ≠ .partially ∧ r.stats.errorCount = 0 := by
  have hempty : ({} : Conn).LogSound := ⟨List.Pairwise.nil, by simp, by simp⟩
  obtain ⟨hlog, htold⟩ := exec_log upper hempty vs
  exact ⟨htold, hlog.ids, hlog.clean⟩

end Log

/-! ## The same fetch again -/

section Again

variable (upper : String → String) {exchangeId : Nat}

/-- The row reads back as it was fetched: no number has more places than its column. -/
def NormalizedInstrument.settled (inst : NormalizedInstrument) : Bool :=
  (inst.instrumentFields upper).stored.toOption = some (inst.instrumentFields upper) ∧
    inst.listingFields.stored.toOption = some inst.listingFields

variable {upper}

namespace View

theorem exec_of_notMem {w : View} {rows : List NormalizedInstrument} {s : String}
    (hs : s ∉ rows.map (·.canonicalSymbol)) :
    (Machine.exec (upsert upper exchangeId) w rows).instrument s = w.instrument s ∧
      (Machine.exec (upsert upper exchangeId) w rows).listing (s, exchangeId) =
        w.listing (s, exchangeId) := by
  induction rows generalizing w with
  | nil => exact ⟨rfl, rfl⟩
  | cons inst rest ih =>
    rw [List.map_cons, List.mem_cons, not_or] at hs
    obtain ⟨hinstrument, hlisting⟩ := ih (w := w.put upper exchangeId inst) hs.2
    refine ⟨hinstrument.trans (Function.update_of_ne hs.1 _ _), hlisting.trans ?_⟩
    exact Function.update_of_ne (fun heq => hs.1 (Prod.mk.inj heq).1) _ _

/-- Of a fetch with one row a symbol, each row has its outcome by itself. -/
theorem outputs_of_nodup {w : View} {rows : List NormalizedInstrument}
    (hnodup : (rows.map (·.canonicalSymbol)).Nodup) :
    Machine.outputs (upsert upper exchangeId) w rows = rows.map (w.outcomes upper exchangeId) := by
  induction rows generalizing w with
  | nil => rfl
  | cons inst rest ih =>
    rw [List.map_cons, List.nodup_cons] at hnodup
    rw [Machine.outputs, ih hnodup.2, List.map_cons]
    refine congrArg (w.outcomes upper exchangeId inst :: ·)
      (List.map_congr_left fun other hin => ?_)
    have hne : other.canonicalSymbol ≠ inst.canonicalSymbol :=
      fun heq => hnodup.1 (heq ▸ List.mem_map_of_mem hin)
    simp [outcomes, upsert, put, Function.update_of_ne, hne]

/-- What a view tells of the rows of a fetch is what their columns hold. -/
def Holds (upper : String → String) (exchangeId : Nat) (w : View)
    (inst : NormalizedInstrument) : Prop :=
  w.instrument inst.canonicalSymbol = (inst.instrumentFields upper).stored.toOption ∧
    w.listing (inst.canonicalSymbol, exchangeId) = inst.listingFields.stored.toOption

theorem holds_exec {w : View} {rows : List NormalizedInstrument}
    (hnodup : (rows.map (·.canonicalSymbol)).Nodup) : ∀ inst ∈ rows,
      (Machine.exec (upsert upper exchangeId) w rows).Holds upper exchangeId inst := by
  induction rows generalizing w with
  | nil => simp
  | cons first rest ih =>
    rw [List.map_cons, List.nodup_cons] at hnodup
    intro inst hin
    rcases List.mem_cons.mp hin with rfl | hin
    · obtain ⟨hinstrument, hlisting⟩ := exec_of_notMem (w := w.put upper exchangeId inst) hnodup.1
      exact ⟨hinstrument.trans (Function.update_self _ _ _),
        hlisting.trans (Function.update_self _ _ _)⟩
    · exact ih hnodup.2 inst hin

/-- What holds already is put in vain. -/
theorem exec_of_holds {w : View} {rows : List NormalizedInstrument}
    (h : ∀ inst ∈ rows, w.Holds upper exchangeId inst) :
    Machine.exec (upsert upper exchangeId) w rows = w := by
  induction rows with
  | nil => rfl
  | cons inst rest ih =>
    obtain ⟨hinstrument, hlisting⟩ := h inst List.mem_cons_self
    have hput : w.put upper exchangeId inst = w := by
      rw [put, ← hinstrument, ← hlisting, Function.update_eq_self, Function.update_eq_self]
    rw [Machine.exec_cons, upsert, hput]
    exact ih fun other hin => h other (List.mem_cons_of_mem inst hin)

/-- A row that holds already is unchanged when it reads back as it was fetched, and changes what
does not otherwise. -/
theorem outcomes_of_holds {w : View} {inst : NormalizedInstrument}
    (h : w.Holds upper exchangeId inst) (hfits : inst.fits upper = true) :
    (w.outcomes upper exchangeId inst = (.unchanged, .unchanged) ↔ inst.settled upper = true) ∧
      ∀ stats : IngestStats, stats.count (w.outcomes upper exchangeId inst) =
        if inst.settled upper = true then { stats with rowsUnchanged := stats.rowsUnchanged + 1 }
        else { stats with rowsModified := stats.rowsModified + 1 } := by
  obtain ⟨⟨f, hf⟩, g, hg⟩ := fits_iff.mp hfits
  rw [Holds, hf, hg] at h
  have hsettled : inst.settled upper = true ↔
      f = inst.instrumentFields upper ∧ g = inst.listingFields := by
    simp [NormalizedInstrument.settled, hf, hg, Except.toOption]
  simp only [outcomes, h.1, h.2, hsettled, outcomeOf, Except.toOption]
  by_cases hinstrument : f = inst.instrumentFields upper
  · by_cases hlisting : g = inst.listingFields
    · simp [hinstrument, hlisting, IngestStats.count]
    · simp [hinstrument, hlisting, IngestStats.count]
  · by_cases hlisting : g = inst.listingFields
    · simp [hinstrument, hlisting, IngestStats.count]
    · simp [hinstrument, hlisting, IngestStats.count]

theorem foldl_count_of_holds {w : View} {rows : List NormalizedInstrument}
    (h : ∀ inst ∈ rows, w.Holds upper exchangeId inst)
    (hfits : rows.all (·.fits upper) = true) (stats : IngestStats) :
    (rows.map (w.outcomes upper exchangeId)).foldl IngestStats.count stats =
      { stats with
        rowsModified := stats.rowsModified + rows.countP (fun inst => ! inst.settled upper)
        rowsUnchanged := stats.rowsUnchanged + rows.countP (·.settled upper) } := by
  induction rows generalizing stats with
  | nil => rfl
  | cons inst rest ih =>
    rw [List.all_cons, Bool.and_eq_true] at hfits
    have hrest := ih (fun other hin => h other (List.mem_cons_of_mem inst hin)) hfits.2
    rw [List.map_cons, List.foldl_cons, hrest,
      (outcomes_of_holds (h inst List.mem_cons_self) hfits.1).2]
    by_cases hsettled : inst.settled upper = true
    · simp [hsettled, Nat.add_assoc, Nat.add_comm 1]
    · simp [hsettled, Nat.add_assoc, Nat.add_comm 1]

end View

/-- The rows that an upsert adds to both tables. -/
def rowsAddedBy (o : Outcome × Outcome) : Nat :=
  (if o.1 = .unchanged then 0 else 1) + if o.2 = .unchanged then 0 else 1

theorem rowsAddedBy_eq_zero {o : Outcome × Outcome} :
    rowsAddedBy o = 0 ↔ o = (.unchanged, .unchanged) := by
  obtain ⟨instOutcome, listingOutcome⟩ := o
  cases instOutcome <;> cases listingOutcome <;> decide

/-- How many rows the two tables have. -/
def Db.rowCount (db : Db) : Nat := db.instrument.length + db.listing.length

theorem RowUpsert.tables {inst : NormalizedInstrument} {tx tx' : Tx} {o : Outcome × Outcome}
    (hrow : RowUpsert upper exchangeId inst tx o tx') :
    tx'.db.rowCount = tx.db.rowCount + rowsAddedBy o ∧ (o = (.unchanged, .unchanged) →
      tx'.db.instrument = tx.db.instrument ∧ tx'.db.listing = tx.db.listing) := by
  obtain ⟨hinstrument, hlisting⟩ := hrow
  cases hinstrument <;> cases hlisting <;>
    simp [Db.rowCount, rowsAddedBy, Tx.addInstrument, Tx.addListing, Tx.reviseInstrument,
      Tx.reviseListing] <;> omega

/-- The two tables stay as they are exactly when nothing is added or modified. -/
theorem Upserts.tables {rows : List NormalizedInstrument} {tx tx' : Tx}
    {os : List (Outcome × Outcome)} (hupserts : Upserts upper exchangeId rows tx os tx') :
    (tx'.db.instrument = tx.db.instrument ∧ tx'.db.listing = tx.db.listing) ↔
      ∀ o ∈ os, o = (.unchanged, .unchanged) := by
  have hgrows : tx'.db.rowCount = tx.db.rowCount + (os.map rowsAddedBy).sum := by
    induction hupserts with
    | nil tx => rfl
    | cons hrow hrest ih =>
      rw [ih, hrow.tables.1, List.map_cons, List.sum_cons, Nat.add_assoc]
  constructor
  · rintro ⟨hinstrument, hlisting⟩ o ho
    have hsame : tx'.db.rowCount = tx.db.rowCount := by
      rw [Db.rowCount, Db.rowCount, hinstrument, hlisting]
    have hsum : (os.map rowsAddedBy).sum = 0 := by omega
    exact rowsAddedBy_eq_zero.mp
      (List.sum_eq_zero_iff_forall_eq_nat.mp hsum _ (List.mem_map_of_mem ho))
  · intro hunchanged
    clear hgrows
    induction hupserts with
    | nil tx => exact ⟨rfl, rfl⟩
    | cons hrow hrest ih =>
      obtain ⟨hinstrument, hlisting⟩ := hrow.tables.2 (hunchanged _ List.mem_cons_self)
      obtain ⟨hinstrument', hlisting'⟩ := ih fun o ho => hunchanged o (List.mem_cons_of_mem _ ho)
      exact ⟨hinstrument'.trans hinstrument, hlisting'.trans hlisting⟩

/-- What a refresh has done that reports ok: the upserts of its rows, from what it has opened. -/
theorem VenueStep.of_ok {conn conn' : Conn} {v : VenueRun} {stats : IngestStats}
    (hstep : VenueStep upper conn v (.ok stats) conn') :
    ∃ exchangeId rows os tx, exchangeOf v.code = some exchangeId ∧ v.fetched = some rows ∧
      Upserts upper exchangeId rows ((conn.opened v).beginAt v.upsertAt) os tx ∧
      stats = os.foldl IngestStats.count {} ∧ conn'.db.view = tx.db.view ∧
      conn'.db.instrument = tx.db.instrument ∧ conn'.db.listing = tx.db.listing := by
  cases hstep with
  | committed hcode hfetched hupserts =>
    exact ⟨_, _, _, _, hcode, hfetched, hupserts, rfl, rfl, rfl, rfl⟩

theorem master_concat (upper : String → String) (vs : List VenueRun) (v : VenueRun) :
    master upper (vs ++ [v]) = (runOneVenue upper (master upper vs) v).2 := by
  rw [master, Machine.exec_append]
  rfl

/-- **The same fetch a second time.** When a refresh has succeeded and the venue lists the same,
each symbol once, then another refresh leaves what is current; it reports as modified the rows that
do not read back as they were fetched, and all others as unchanged. It leaves the two tables exactly
when there are no rows of the first kind: each of them is superseded by a copy of itself, at every
refresh. -/
theorem refresh_again (upper : String → String) {vs : List VenueRun} {v w : VenueRun}
    (horder : InOrder 0 (vs ++ [v, w])) (hcode : w.code = v.code)
    (hsame : w.fetched = v.fetched) {rows : List NormalizedInstrument}
    (hfetched : v.fetched = some rows) (hnodup : (rows.map (·.canonicalSymbol)).Nodup)
    {stats stats' : IngestStats} (hok : (runOneVenue upper (master upper vs) v).1 = .ok stats)
    (hok' : (runOneVenue upper (master upper (vs ++ [v])) w).1 = .ok stats') :
    stats' = { rowsModified := rows.countP fun inst => ! inst.settled upper
               rowsUnchanged := rows.countP (·.settled upper) } ∧
      (master upper (vs ++ [v, w])).db.view = (master upper (vs ++ [v])).db.view ∧
      ((master upper (vs ++ [v, w])).db.instrument = (master upper (vs ++ [v])).db.instrument ∧
          (master upper (vs ++ [v, w])).db.listing = (master upper (vs ++ [v])).db.listing ↔
        ∀ inst ∈ rows, inst.settled upper = true) := by
  have hone := master_concat upper vs v
  have htwo : master upper (vs ++ [v, w]) = (runOneVenue upper (master upper (vs ++ [v])) w).2 := by
    rw [← master_concat, List.append_assoc]
    rfl
  obtain ⟨hbefore, hstart, hupsert, hstart', hupsert', -⟩ := inOrder_append.mp horder
  have h := master_sound upper hbefore
  have hnow := hstart.trans hupsert
  have hstep := runOneVenue_step upper (master upper vs) v
  have hstep' := runOneVenue_step upper (master upper (vs ++ [v])) w
  have h' := (hstep.sound h hnow).1
  rw [← hone] at h' hstep
  rw [hok] at hstep
  rw [← htwo, hok'] at hstep'
  obtain ⟨exchangeId, rows₁, os, tx, hexchange, hrows, hupserts, -, hfirst, -, -⟩ := hstep.of_ok
  obtain ⟨exchangeId', rows₂, os', tx', hexchange', hrows', hupserts', rfl, hsecond,
    hinstrument, hlisting⟩ := hstep'.of_ok
  -- the two refreshes upsert the same rows at the same exchange
  obtain rfl : rows = rows₁ := Option.some.inj (hfetched.symm.trans hrows)
  obtain rfl : rows = rows₂ := Option.some.inj (hrows.symm.trans (hsame.symm.trans hrows'))
  obtain rfl : exchangeId = exchangeId' :=
    Option.some.inj (hexchange.symm.trans (hcode ▸ hexchange'))
  obtain ⟨-, -, hview⟩ := hupserts.view (h.opened hnow v)
  obtain ⟨hfits, hos', hview'⟩ := hupserts'.view (h'.opened (hstart'.trans hupsert') w)
  -- what the first has left is what the second puts
  have hopened : (((master upper (vs ++ [v])).opened w).beginAt w.upsertAt).db.view =
      (master upper (vs ++ [v])).db.view := rfl
  have hholds : ∀ inst ∈ rows, (master upper (vs ++ [v])).db.view.Holds upper exchangeId inst := by
    rw [hfirst, hview]
    exact View.holds_exec hnodup
  rw [hopened] at hos' hview'
  rw [View.outputs_of_nodup hnodup] at hos'
  refine ⟨?_, ?_, ?_⟩
  · rw [hos', View.foldl_count_of_holds hholds hfits]
    simp
  · rw [hsecond, hview', View.exec_of_holds hholds]
  · have htables := hupserts'.tables
    rw [hos', List.forall_mem_map] at htables
    rw [hinstrument, hlisting]
    refine htables.trans (forall₂_congr fun inst hin => ?_)
    exact (View.outcomes_of_holds (hholds inst hin) (List.all_eq_true.mp hfits inst hin)).1

/-- Two rows, of which one has a tick size with more places than its column. -/
def sampleFetch : List NormalizedInstrument :=
  [samplePerp, { samplePerp with canonicalSymbol := "PEPE/USDT", tickSize := 1 / 10 ^ 11 }]

def sampleRefresh (t : Time) : VenueRun where
  code := "okx"
  startedAt := t
  fetched := some sampleFetch
  upsertAt := t + 1

theorem refresh_again_sample :
    (master id [sampleRefresh 10, sampleRefresh 20]).db.view =
        (master id [sampleRefresh 10]).db.view ∧
      ¬ ((master id [sampleRefresh 10, sampleRefresh 20]).db.instrument =
          (master id [sampleRefresh 10]).db.instrument ∧
        (master id [sampleRefresh 10, sampleRefresh 20]).db.listing =
          (master id [sampleRefresh 10]).db.listing) := by
  have horder : InOrder 0 ([] ++ [sampleRefresh 10, sampleRefresh 20]) := by decide
  have hok : (runOneVenue id (master id []) (sampleRefresh 10)).1 = .ok { rowsAdded := 2 } := by
    decide +kernel
  have hok' : (runOneVenue id (master id ([] ++ [sampleRefresh 10])) (sampleRefresh 20)).1 =
      .ok { rowsModified := 1, rowsUnchanged := 1 } := by
    decide +kernel
  have hnodup : (sampleFetch.map (·.canonicalSymbol)).Nodup := by decide +kernel
  obtain ⟨-, hview, htables⟩ := refresh_again id horder rfl rfl rfl hnodup hok hok'
  refine ⟨hview, fun hsame => ?_⟩
  have hsettled := htables.mp hsame
  revert hsettled
  decide +kernel

end Again

end BptCore.SecMaster
