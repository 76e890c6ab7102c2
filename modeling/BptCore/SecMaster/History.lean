import BptCore.SecMaster.Db
import Mathlib.Data.List.Nodup

/-!
# The history of instruments and listings

A symbol keeps its history in the rows of the instrument table that carry it, and a symbol at an
exchange in the listings that refer to any of these rows.

* **`lineage`** — symbol and exchange of a listing, by way of the row that it refers to.
* **`Sound`** — what holds of the tables between the upserts: ids are given once, both histories are
  timelines, a listing does not outlast its instrument's row, and every number fits its column.
* **`Sound.instrumentUpsert`**, **`Sound.listingUpsert`** — an upsert keeps it.
* **`SamePast`** — what was valid before a time, with what it said; an upsert leaves it.
* **`Sound.asOfJoin_eq`** — the join of both tables as of a time, next to the listing's own history.
-/

namespace BptCore.SecMaster

open Temporal

/-! ## Rows and their symbols -/

/-- The symbol of an id of the instrument table. -/
def symbolOf (rows : List InstrumentRow) (id : Nat) : Option String :=
  (rows.find? fun r => r.id = id).map (·.canonicalSymbol)

def lineage (rows : List InstrumentRow) (l : ListingRow) : Option String × Nat :=
  (symbolOf rows l.instrumentId, l.exchangeId)

@[simp] theorem InstrumentRow.closeId_id (id now : Nat) (r : InstrumentRow) :
    (r.closeId id now).id = r.id := by
  unfold InstrumentRow.closeId
  split <;> rfl

@[simp] theorem InstrumentRow.closeId_canonicalSymbol (id now : Nat) (r : InstrumentRow) :
    (r.closeId id now).canonicalSymbol = r.canonicalSymbol := by
  unfold InstrumentRow.closeId
  split <;> rfl

@[simp] theorem InstrumentRow.closeId_fields (id now : Nat) (r : InstrumentRow) :
    (r.closeId id now).fields = r.fields := by
  unfold InstrumentRow.closeId
  split <;> rfl

theorem InstrumentRow.closeId_period (id now : Nat) (r : InstrumentRow) :
    (r.closeId id now).period = if r.id = id then r.period.close now else r.period := by
  unfold InstrumentRow.closeId
  split <;> rfl

@[simp] theorem ListingRow.closeId_id (id now : Nat) (l : ListingRow) :
    (l.closeId id now).id = l.id := by
  unfold ListingRow.closeId
  split <;> rfl

@[simp] theorem ListingRow.closeId_instrumentId (id now : Nat) (l : ListingRow) :
    (l.closeId id now).instrumentId = l.instrumentId := by
  unfold ListingRow.closeId
  split <;> rfl

@[simp] theorem ListingRow.closeId_exchangeId (id now : Nat) (l : ListingRow) :
    (l.closeId id now).exchangeId = l.exchangeId := by
  unfold ListingRow.closeId
  split <;> rfl

@[simp] theorem ListingRow.closeId_fields (id now : Nat) (l : ListingRow) :
    (l.closeId id now).fields = l.fields := by
  unfold ListingRow.closeId
  split <;> rfl

@[simp] theorem ListingRow.closeId_listedAt (id now : Nat) (l : ListingRow) :
    (l.closeId id now).listedAt = l.listedAt := by
  unfold ListingRow.closeId
  split <;> rfl

theorem ListingRow.closeId_period (id now : Nat) (l : ListingRow) :
    (l.closeId id now).period = if l.id = id then l.period.close now else l.period := by
  unfold ListingRow.closeId
  split <;> rfl

@[simp] theorem ListingRow.repoint_id (oldId newId : Nat) (l : ListingRow) :
    (l.repoint oldId newId).id = l.id := by
  unfold ListingRow.repoint
  split <;> rfl

@[simp] theorem ListingRow.repoint_exchangeId (oldId newId : Nat) (l : ListingRow) :
    (l.repoint oldId newId).exchangeId = l.exchangeId := by
  unfold ListingRow.repoint
  split <;> rfl

@[simp] theorem ListingRow.repoint_fields (oldId newId : Nat) (l : ListingRow) :
    (l.repoint oldId newId).fields = l.fields := by
  unfold ListingRow.repoint
  split <;> rfl

@[simp] theorem ListingRow.repoint_listedAt (oldId newId : Nat) (l : ListingRow) :
    (l.repoint oldId newId).listedAt = l.listedAt := by
  unfold ListingRow.repoint
  split <;> rfl

@[simp] theorem ListingRow.repoint_period (oldId newId : Nat) (l : ListingRow) :
    (l.repoint oldId newId).period = l.period := by
  unfold ListingRow.repoint
  split <;> rfl

theorem ListingRow.repoint_instrumentId (oldId newId : Nat) (l : ListingRow) :
    (l.repoint oldId newId).instrumentId =
      if l.instrumentId = oldId ∧ l.period.validTo = none then newId else l.instrumentId := by
  unfold ListingRow.repoint
  split <;> rfl

section Symbols

variable {rows : List InstrumentRow}

theorem symbolOf_eq (hids : (rows.map (·.id)).Nodup) {r : InstrumentRow} (hr : r ∈ rows) :
    symbolOf rows r.id = some r.canonicalSymbol := by
  rw [symbolOf]
  have hfind : (rows.find? fun r' => r'.id = r.id) = some r := by
    induction rows with
    | nil => cases hr
    | cons first rest ih =>
      rw [List.map_cons, List.nodup_cons] at hids
      rcases List.mem_cons.mp hr with rfl | hin
      · simp
      · have hne : first.id ≠ r.id := fun heq => hids.1 (heq ▸ List.mem_map_of_mem hin)
        rw [List.find?_cons_of_neg (by simpa using hne)]
        exact ih hids.2 hin
  rw [hfind]
  rfl

theorem eq_of_id_eq (hids : (rows.map (·.id)).Nodup) {r r' : InstrumentRow} (hr : r ∈ rows)
    (hr' : r' ∈ rows) (h : r.id = r'.id) : r = r' :=
  List.inj_on_of_nodup_map hids hr hr' h

/-- One more row, while others change in what symbols do not depend on. -/
theorem symbolOf_map_append (update : InstrumentRow → InstrumentRow) (new : InstrumentRow)
    (hid : ∀ r, (update r).id = r.id)
    (hsymbol : ∀ r, (update r).canonicalSymbol = r.canonicalSymbol) (id : Nat) :
    symbolOf (rows.map update ++ [new]) id =
      (symbolOf rows id).or (if new.id = id then some new.canonicalSymbol else none) := by
  simp only [symbolOf, List.find?_append, List.find?_map, Function.comp_def, hid]
  cases hfind : rows.find? fun r => r.id = id with
  | none =>
    simp only [Option.map_none, Option.none_or, List.find?_cons, List.find?_nil]
    by_cases hnew : new.id = id
    · simp [hnew]
    · simp [hnew]
  | some r => simp [hsymbol]

theorem symbolOf_of_fresh {id : Nat} (hfresh : ∀ r ∈ rows, r.id < id) :
    symbolOf rows id = none := by
  rw [symbolOf, Option.map_eq_none_iff, List.find?_eq_none]
  intro r hr
  simpa using (hfresh r hr).ne

theorem symbolOf_of_hasInstrument {db : Db} {id : Nat} (h : db.hasInstrument id) :
    ∃ s, symbolOf db.instrument id = some s := by
  obtain ⟨r, hr, rfl⟩ := h
  cases hfind : symbolOf db.instrument r.id with
  | some s => exact ⟨s, rfl⟩
  | none =>
    rw [symbolOf, Option.map_eq_none_iff, List.find?_eq_none] at hfind
    exact absurd (decide_eq_true rfl) (hfind r hr)

/-- A new row leaves the lineage of the listings that refer to others. -/
theorem lineage_map_append (update : InstrumentRow → InstrumentRow) (new : InstrumentRow)
    (hid : ∀ r, (update r).id = r.id)
    (hsymbol : ∀ r, (update r).canonicalSymbol = r.canonicalSymbol) {l : ListingRow}
    {db : Db} (hrefers : db.hasInstrument l.instrumentId) :
    lineage (db.instrument.map update ++ [new]) l = lineage db.instrument l := by
  obtain ⟨s, hs⟩ := symbolOf_of_hasInstrument hrefers
  rw [lineage, lineage, symbolOf_map_append update new hid hsymbol, hs]
  rfl

end Symbols

/-! ## The invariant -/

structure Sound (db : Db) (sequences : Sequences) (now : Time) : Prop where
  instrumentIds : (db.instrument.map (·.id)).Nodup
  instrumentFresh : ∀ r ∈ db.instrument, r.id < sequences.instrument
  listingIds : (db.listing.map (·.id)).Nodup
  listingFresh : ∀ l ∈ db.listing, l.id < sequences.listing
  refers : ∀ l ∈ db.listing, db.hasInstrument l.instrumentId
  instruments : Timeline (·.canonicalSymbol) (·.period) db.instrument now
  listings : Timeline (lineage db.instrument) (·.period) db.listing now
  outlasts : ∀ l ∈ db.listing, ∀ r ∈ db.instrument, r.id = l.instrumentId →
    ∀ e ∈ r.period.validTo, ∃ c ∈ l.period.validTo, c ≤ e
  instrumentStored : ∀ r ∈ db.instrument, r.fields.stored = .ok r.fields
  listingStored : ∀ l ∈ db.listing, l.fields.stored = .ok l.fields

namespace Sound

theorem empty : Sound {} {} 0 where
  instrumentIds := List.nodup_nil
  instrumentFresh := by simp
  listingIds := List.nodup_nil
  listingFresh := by simp
  refers := by simp
  instruments := .nil 0
  listings := .nil 0
  outlasts := by simp
  instrumentStored := by simp
  listingStored := by simp

variable {db : Db} {sequences : Sequences} {now : Time} (h : Sound db sequences now)

include h

/-- Later, with more ids given, and whatever has become of the other tables. -/
theorem later {db' : Db} {sequences' : Sequences} {now' : Time}
    (hinstrument : db'.instrument = db.instrument) (hlisting : db'.listing = db.listing)
    (hle : sequences.Le sequences') (hnow : now ≤ now') : Sound db' sequences' now' where
  instrumentIds := hinstrument ▸ h.instrumentIds
  instrumentFresh r hr := (h.instrumentFresh r (hinstrument ▸ hr)).trans_le hle.instrument
  listingIds := hlisting ▸ h.listingIds
  listingFresh l hl := (h.listingFresh l (hlisting ▸ hl)).trans_le hle.listing
  refers l hl := by
    rw [Db.hasInstrument, hinstrument]
    exact h.refers l (hlisting ▸ hl)
  instruments := hinstrument ▸ h.instruments.mono hnow
  listings := by
    rw [hinstrument, hlisting]
    exact h.listings.mono hnow
  outlasts := by
    rw [hinstrument, hlisting]
    exact h.outlasts
  instrumentStored r hr := h.instrumentStored r (hinstrument ▸ hr)
  listingStored l hl := h.listingStored l (hlisting ▸ hl)

/-! ### What is current -/

theorem currentInstrument_eq_some {s : String} {r : InstrumentRow} :
    db.currentInstrument s = some r ↔
      r ∈ db.instrument ∧ r.canonicalSymbol = s ∧ r.period.validTo = none := by
  rw [Db.currentInstrument, ← mem_current]
  constructor
  · exact fun hr => List.mem_of_mem_head? hr
  · intro hr
    rw [h.instruments.current_eq_singleton hr]
    rfl

theorem currentInstrument_eq_none {s : String} :
    db.currentInstrument s = none ↔ ∀ r ∈ db.instrument, r.canonicalSymbol ≠ s := by
  rw [Db.currentInstrument, List.head?_eq_none_iff]
  constructor
  · rintro hnone r hr rfl
    obtain ⟨c, hc⟩ := h.instruments.currentRow r hr
    exact absurd (hc.symm.trans hnone) (List.cons_ne_nil _ _)
  · intro hnone
    refine List.filter_eq_nil_iff.mpr fun r hr => ?_
    simp [hnone r hr]

/-- The row of a current listing is current. -/
theorem open_of_open {l : ListingRow} (hl : l ∈ db.listing) (hopen : l.period.validTo = none)
    {r : InstrumentRow} (hr : r ∈ db.instrument) (hid : r.id = l.instrumentId) :
    r.period.validTo = none := by
  cases hend : r.period.validTo with
  | none => rfl
  | some e =>
    obtain ⟨c, hc, -⟩ := h.outlasts l hl r hr hid e hend
    rw [hopen] at hc
    cases hc

/-- To be current under an id of the instrument table, or under its symbol, is the same when the row
with the id is current. -/
theorem mem_current_lineage {r : InstrumentRow} (hr : r ∈ db.instrument)
    (hcurrent : r.period.validTo = none) (exchangeId : Nat) {l : ListingRow} :
    l ∈ current (lineage db.instrument) (·.period) db.listing
        (some r.canonicalSymbol, exchangeId) ↔
      l ∈ current ListingRow.indexKey (·.period) db.listing (r.id, exchangeId) := by
  simp only [mem_current, lineage, ListingRow.indexKey, Prod.mk.injEq]
  refine and_congr_right fun hl => and_congr_left fun hopen => and_congr_left fun _ => ?_
  obtain ⟨r', hr', hid'⟩ := h.refers l hl
  constructor
  · intro hsymbol
    rw [← hid', symbolOf_eq h.instrumentIds hr', Option.some.injEq] at hsymbol
    have hmem : r ∈ current (·.canonicalSymbol) (·.period) db.instrument r.canonicalSymbol :=
      mem_current.mpr ⟨hr, rfl, hcurrent⟩
    have hmem' : r' ∈ current (·.canonicalSymbol) (·.period) db.instrument r.canonicalSymbol :=
      mem_current.mpr ⟨hr', hsymbol, h.open_of_open hl hopen hr' hid'⟩
    rw [← hid', h.instruments.eq_of_mem_current hmem hmem']
  · rintro rfl'
    rw [rfl', symbolOf_eq h.instrumentIds hr]

theorem currentListing_eq_some {r : InstrumentRow} (hr : r ∈ db.instrument)
    (hcurrent : r.period.validTo = none) {exchangeId : Nat} {l : ListingRow} :
    db.currentListing r.id exchangeId = some l ↔
      l ∈ current (lineage db.instrument) (·.period) db.listing
        (some r.canonicalSymbol, exchangeId) := by
  rw [Db.currentListing, h.mem_current_lineage hr hcurrent exchangeId]
  constructor
  · exact fun hl => List.mem_of_mem_head? hl
  · intro hl
    have hsingle : current ListingRow.indexKey (·.period) db.listing (r.id, exchangeId) = [l] := by
      have hmem := (h.mem_current_lineage hr hcurrent exchangeId).mpr hl
      rw [← h.listings.current_eq_singleton hmem]
      refine List.filter_congr fun l' hl' => ?_
      have := h.mem_current_lineage hr hcurrent exchangeId (l := l')
      simp only [mem_current, hl', true_and] at this
      exact decide_eq_decide.mpr this.symm
    rw [hsingle]
    rfl

theorem currentListing_eq_none {r : InstrumentRow} (hr : r ∈ db.instrument)
    (hcurrent : r.period.validTo = none) {exchangeId : Nat} :
    db.currentListing r.id exchangeId = none ↔
      ∀ l ∈ db.listing, lineage db.instrument l ≠ (some r.canonicalSymbol, exchangeId) := by
  constructor
  · intro hnone l hl hlineage
    obtain ⟨c, hc⟩ := h.listings.currentRow l hl
    rw [hlineage] at hc
    have hsome := (h.currentListing_eq_some hr hcurrent).mpr (hc ▸ List.mem_singleton_self c)
    rw [hnone] at hsome
    cases hsome
  · intro hnone
    cases hfound : db.currentListing r.id exchangeId with
    | none => rfl
    | some l =>
      obtain ⟨hl, hlineage, -⟩ := mem_current.mp ((h.currentListing_eq_some hr hcurrent).mp hfound)
      exact absurd hlineage (hnone l hl)

end Sound

/-! ## An upsert of an instrument -/

section InstrumentUpsert

variable {upper : String → String} {inst : NormalizedInstrument} {tx tx' : Tx}

/-- The current row of the symbol, after the upsert: it has the id that the upsert returns. -/
structure IsCurrent (db : Db) (id : Nat) (s : String) (r : InstrumentRow) : Prop where
  mem : r ∈ db.instrument
  id_eq : r.id = id
  symbol : r.canonicalSymbol = s
  isOpen : r.period.validTo = none

/-- To have the id of a current row is to be current under its symbol. -/
theorem Sound.id_eq_iff {db : Db} {sequences : Sequences} {now : Time}
    (h : Sound db sequences now) {current : InstrumentRow} {s : String}
    (hcurrent : db.currentInstrument s = some current) {r : InstrumentRow}
    (hr : r ∈ db.instrument) :
    r.id = current.id ↔ r.canonicalSymbol = s ∧ r.period.validTo = none := by
  obtain ⟨hmem, hsymbol, hopen⟩ := h.currentInstrument_eq_some.mp hcurrent
  constructor
  · intro hid
    rw [eq_of_id_eq h.instrumentIds hr hmem hid]
    exact ⟨hsymbol, hopen⟩
  · intro hkey
    have heq := h.instruments.eq_of_mem_current (k := s)
      (mem_current.mpr ⟨hr, hkey⟩) (mem_current.mpr ⟨hmem, hsymbol, hopen⟩)
    rw [heq]

theorem Sound.addInstrument (h : Sound tx.db tx.sequences tx.now) {s : String}
    (hnone : ∀ r ∈ tx.db.instrument, r.canonicalSymbol ≠ s) {fields : InstrumentFields}
    (hstored : fields.stored = .ok fields) :
    Sound (tx.addInstrument s fields).db (tx.addInstrument s fields).sequences tx.now where
  instrumentIds := by
    simp only [Tx.addInstrument, List.map_append, List.map_cons, List.map_nil]
    refine h.instrumentIds.append (List.nodup_singleton _) ?_
    rw [List.disjoint_singleton]
    intro hin
    obtain ⟨r, hr, hid⟩ := List.mem_map.mp hin
    exact absurd hid (h.instrumentFresh r hr).ne
  instrumentFresh := by
    simp only [Tx.addInstrument, List.mem_append, List.mem_singleton]
    rintro r (hr | rfl)
    · exact (h.instrumentFresh r hr).trans (Nat.lt_succ_self _)
    · exact Nat.lt_succ_self _
  listingIds := h.listingIds
  listingFresh := h.listingFresh
  refers l hl := by
    obtain ⟨r, hr, hid⟩ := h.refers l hl
    exact ⟨r, List.mem_append_left _ hr, hid⟩
  instruments := h.instruments.insert hnone rfl
  listings := by
    refine h.listings.rekey fun l hl => ?_
    have heq := lineage_map_append id (tx.newInstrument s fields) (fun _ => rfl) (fun _ => rfl)
      (h.refers l hl)
    rwa [List.map_id] at heq
  outlasts := by
    simp only [Tx.addInstrument, List.mem_append, List.mem_singleton]
    rintro l hl r (hr | rfl) hid e he
    · exact h.outlasts l hl r hr hid e he
    · cases he
  instrumentStored := by
    simp only [Tx.addInstrument, List.mem_append, List.mem_singleton]
    rintro r (hr | rfl)
    · exact h.instrumentStored r hr
    · exact hstored
  listingStored := h.listingStored

/-- Repointed or not, a listing keeps its lineage: the new row has the symbol of the old one. -/
theorem Sound.lineage_repoint (h : Sound tx.db tx.sequences tx.now) {current : InstrumentRow}
    {s : String} (hcurrent : tx.db.currentInstrument s = some current)
    (fields : InstrumentFields) {l : ListingRow} (hl : l ∈ tx.db.listing) :
    lineage (tx.reviseInstrument current.id s fields).db.instrument
        (l.repoint current.id tx.sequences.instrument) = lineage tx.db.instrument l := by
  obtain ⟨hmem, rfl, -⟩ := h.currentInstrument_eq_some.mp hcurrent
  have hkeep := lineage_map_append (InstrumentRow.closeId current.id tx.now)
    (tx.newInstrument current.canonicalSymbol fields)
    (InstrumentRow.closeId_id _ _) (InstrumentRow.closeId_canonicalSymbol _ _) (h.refers l hl)
  by_cases hgoes : l.instrumentId = current.id ∧ l.period.validTo = none
  · -- the listing goes over to the new row
    rw [lineage, lineage, ListingRow.repoint_instrumentId, if_pos hgoes, Tx.reviseInstrument,
      symbolOf_map_append _ _ (InstrumentRow.closeId_id _ _)
        (InstrumentRow.closeId_canonicalSymbol _ _),
      symbolOf_of_fresh h.instrumentFresh, hgoes.1, symbolOf_eq h.instrumentIds hmem]
    simp [Tx.newInstrument]
  · rw [ListingRow.repoint, if_neg hgoes]
    exact hkeep

theorem Sound.reviseInstrument (h : Sound tx.db tx.sequences tx.now) {current : InstrumentRow}
    {s : String} (hcurrent : tx.db.currentInstrument s = some current)
    {fields : InstrumentFields} (hstored : fields.stored = .ok fields) :
    Sound (tx.reviseInstrument current.id s fields).db
      (tx.reviseInstrument current.id s fields).sequences tx.now where
  instrumentIds := by
    simp only [Tx.reviseInstrument, List.map_append, List.map_map, Function.comp_def,
      InstrumentRow.closeId_id, List.map_cons, List.map_nil]
    refine h.instrumentIds.append (List.nodup_singleton _) ?_
    rw [List.disjoint_singleton]
    intro hin
    obtain ⟨r, hr, hid⟩ := List.mem_map.mp hin
    exact absurd hid (h.instrumentFresh r hr).ne
  instrumentFresh := by
    simp only [Tx.reviseInstrument, List.mem_append, List.mem_map, List.mem_singleton]
    rintro r (⟨r, hr, rfl⟩ | rfl)
    · rw [InstrumentRow.closeId_id]
      exact (h.instrumentFresh r hr).trans (Nat.lt_succ_self _)
    · exact Nat.lt_succ_self _
  listingIds := by
    simp only [Tx.reviseInstrument, List.map_map, Function.comp_def, ListingRow.repoint_id]
    exact h.listingIds
  listingFresh := by
    simp only [Tx.reviseInstrument, List.mem_map]
    rintro l ⟨l, hl, rfl⟩
    rw [ListingRow.repoint_id]
    exact h.listingFresh l hl
  refers := by
    simp only [Tx.reviseInstrument, List.mem_map]
    rintro l ⟨l, hl, rfl⟩
    rw [ListingRow.repoint_instrumentId]
    split
    · exact ⟨_, List.mem_append_right _ (List.mem_singleton_self _), rfl⟩
    · obtain ⟨r, hr, hid⟩ := h.refers l hl
      exact ⟨r.closeId current.id tx.now, List.mem_append_left _ (List.mem_map_of_mem hr),
        (InstrumentRow.closeId_id _ _ r).trans hid⟩
  instruments := by
    refine h.instruments.supersede (fun r _ => InstrumentRow.closeId_canonicalSymbol _ _ r)
      (fun r hr => ?_) rfl rfl
    rw [InstrumentRow.closeId_period]
    exact if_congr (h.id_eq_iff hcurrent hr) rfl rfl
  listings := h.listings.relabel (fun l hl => h.lineage_repoint hcurrent fields hl)
    fun l _ => ListingRow.repoint_period _ _ l
  outlasts := by
    simp only [Tx.reviseInstrument, List.mem_map, List.mem_append, List.mem_singleton]
    rintro l ⟨l, hl, rfl⟩ r hr hid e he
    rcases hr with ⟨r, hr, rfl⟩ | rfl
    · rw [InstrumentRow.closeId_id, ListingRow.repoint_instrumentId] at hid
      rw [ListingRow.repoint_period]
      split at hid
      · exact absurd hid (h.instrumentFresh r hr).ne
      · rw [InstrumentRow.closeId_period] at he
        split at he
        · -- the row ends now, and the listing that did not go over had ended before
          cases hopen : l.period.validTo with
          | none =>
            rename_i hstays hcloses
            exact absurd ⟨hid.symm.trans hcloses, hopen⟩ hstays
          | some c =>
            obtain rfl : tx.now = e := Option.some.inj he
            exact ⟨c, rfl, (h.listings.past l hl).2 c hopen⟩
        · exact h.outlasts l hl r hr hid e he
    · cases he
  instrumentStored := by
    simp only [Tx.reviseInstrument, List.mem_append, List.mem_map, List.mem_singleton]
    rintro r (⟨r, hr, rfl⟩ | rfl)
    · rw [InstrumentRow.closeId_fields]
      exact h.instrumentStored r hr
    · exact hstored
  listingStored := by
    simp only [Tx.reviseInstrument, List.mem_map]
    rintro l ⟨l, hl, rfl⟩
    rw [ListingRow.repoint_fields]
    exact h.listingStored l hl

/-- **An upsert of an instrument keeps the invariant**, and leaves a current row of the symbol under
the id it returns. -/
theorem Sound.instrumentUpsert (h : Sound tx.db tx.sequences tx.now) {r : Nat × Outcome}
    (hupsert : InstrumentUpsert upper inst tx r tx') :
    Sound tx'.db tx'.sequences tx.now ∧ ∃ row, IsCurrent tx'.db r.1 inst.canonicalSymbol row ∧
      (inst.instrumentFields upper).stored = .ok row.fields := by
  cases hupsert with
  | added hnone hid hstored =>
    have hidem := InstrumentFields.stored_idem hstored
    exact ⟨h.addInstrument (h.currentInstrument_eq_none.mp hnone) hidem,
      _, ⟨List.mem_append_right _ (List.mem_singleton_self _), rfl, rfl, rfl⟩, hstored⟩
  | unchanged hcurrent hfields =>
    obtain ⟨hmem, hsymbol, hopen⟩ := h.currentInstrument_eq_some.mp hcurrent
    exact ⟨h, _, ⟨hmem, rfl, hsymbol, hopen⟩, hfields ▸ h.instrumentStored _ hmem⟩
  | modified hcurrent hfields hclosed hid hstored hindex =>
    have hidem := InstrumentFields.stored_idem hstored
    exact ⟨h.reviseInstrument hcurrent hidem,
      _, ⟨List.mem_append_right _ (List.mem_singleton_self _), rfl, rfl, rfl⟩, hstored⟩

end InstrumentUpsert

/-! ## An upsert of a listing -/

section ListingUpsert

variable {inst : NormalizedInstrument} {tx tx' : Tx} {instrumentId exchangeId : Nat} {s : String}
  {row : InstrumentRow}

theorem listing_eq_of_id_eq {rows : List ListingRow} (hids : (rows.map (·.id)).Nodup)
    {l l' : ListingRow} (hl : l ∈ rows) (hl' : l' ∈ rows) (h : l.id = l'.id) : l = l' :=
  List.inj_on_of_nodup_map hids hl hl' h

theorem IsCurrent.symbolOf_eq {db : Db} {sequences : Sequences} {now : Time}
    (h : Sound db sequences now) (hrow : IsCurrent db instrumentId s row) :
    symbolOf db.instrument instrumentId = some s := by
  rw [← hrow.id_eq, SecMaster.symbolOf_eq h.instrumentIds hrow.mem, hrow.symbol]

/-- To have the id of a current listing is to be current in its lineage. -/
theorem Sound.listing_id_eq_iff {db : Db} {sequences : Sequences} {now : Time}
    (h : Sound db sequences now) (hrow : IsCurrent db instrumentId s row) {current : ListingRow}
    (hcurrent : db.currentListing instrumentId exchangeId = some current) {l : ListingRow}
    (hl : l ∈ db.listing) :
    l.id = current.id ↔
      lineage db.instrument l = (some s, exchangeId) ∧ l.period.validTo = none := by
  rw [← hrow.id_eq, h.currentListing_eq_some hrow.mem hrow.isOpen, hrow.symbol] at hcurrent
  constructor
  · intro hid
    obtain ⟨hmem, hkey⟩ := mem_current.mp hcurrent
    rw [listing_eq_of_id_eq h.listingIds hl hmem hid]
    exact hkey
  · intro hkey
    rw [h.listings.eq_of_mem_current (mem_current.mpr ⟨hl, hkey⟩) hcurrent]

/-- Another listing of a current row follows the current one of its lineage, if there is any. -/
theorem Sound.appendListing (h : Sound tx.db tx.sequences tx.now)
    (hrow : IsCurrent tx.db instrumentId s row) (update : ListingRow → ListingRow)
    {fields : ListingFields} (listedAt : Option Date) (hid : ∀ l, (update l).id = l.id)
    (hindexKey : ∀ l, (update l).indexKey = l.indexKey)
    (hfields : ∀ l, (update l).fields = l.fields)
    (hperiod : ∀ l ∈ tx.db.listing, (update l).period =
      if lineage tx.db.instrument l = (some s, exchangeId) ∧ l.period.validTo = none then
        l.period.close tx.now else l.period)
    (hstored : fields.stored = .ok fields) :
    Sound
      { tx.db with listing :=
          tx.db.listing.map update ++ [tx.newListing instrumentId exchangeId fields listedAt] }
      { tx.sequences with listing := tx.sequences.listing + 1 } tx.now where
  instrumentIds := h.instrumentIds
  instrumentFresh := h.instrumentFresh
  listingIds := by
    simp only [List.map_append, List.map_map, Function.comp_def, hid, List.map_cons, List.map_nil]
    refine h.listingIds.append (List.nodup_singleton _) ?_
    rw [List.disjoint_singleton]
    intro hin
    obtain ⟨l, hl, heq⟩ := List.mem_map.mp hin
    exact absurd heq (h.listingFresh l hl).ne
  listingFresh := by
    simp only [List.mem_append, List.mem_map, List.mem_singleton]
    rintro l (⟨l, hl, rfl⟩ | rfl)
    · rw [hid]
      exact (h.listingFresh l hl).trans (Nat.lt_succ_self _)
    · exact Nat.lt_succ_self _
  refers := by
    simp only [List.mem_append, List.mem_map, List.mem_singleton]
    rintro l (⟨l, hl, rfl⟩ | rfl)
    · rw [(Prod.mk.inj (hindexKey l)).1]
      exact h.refers l hl
    · exact ⟨row, hrow.mem, hrow.id_eq⟩
  instruments := h.instruments
  listings := by
    refine h.listings.supersede (fun l _ => ?_) hperiod ?_ rfl
    · obtain ⟨hinstrumentId, hexchangeId⟩ := Prod.mk.inj (hindexKey l)
      rw [lineage, lineage, hinstrumentId, hexchangeId]
    · have hsymbol : symbolOf tx.db.instrument instrumentId = some s := hrow.symbolOf_eq h
      exact congrArg (·, exchangeId) hsymbol
  outlasts := by
    simp only [List.mem_append, List.mem_map, List.mem_singleton]
    rintro l (⟨l, hl, rfl⟩ | rfl) r hr hrefers e he
    · rw [(Prod.mk.inj (hindexKey l)).1] at hrefers
      obtain ⟨c, hc, hle⟩ := h.outlasts l hl r hr hrefers e he
      refine ⟨c, ?_, hle⟩
      -- an ended listing stays as it was
      rw [hperiod l hl, if_neg fun hopen => by rw [hopen.2] at hc; cases hc]
      exact hc
    · -- the row is current, so it does not end
      have heq := eq_of_id_eq h.instrumentIds hr hrow.mem (hrefers.trans hrow.id_eq.symm)
      rw [heq, hrow.isOpen] at he
      cases he
  instrumentStored := h.instrumentStored
  listingStored := by
    simp only [List.mem_append, List.mem_map, List.mem_singleton]
    rintro l (⟨l, hl, rfl⟩ | rfl)
    · rw [hfields]
      exact h.listingStored l hl
    · exact hstored

theorem Sound.addListing (h : Sound tx.db tx.sequences tx.now)
    (hrow : IsCurrent tx.db instrumentId s row)
    (hnone : tx.db.currentListing instrumentId exchangeId = none) {fields : ListingFields}
    (listedAt : Option Date) (hstored : fields.stored = .ok fields) :
    Sound (tx.addListing instrumentId exchangeId fields listedAt).db
      (tx.addListing instrumentId exchangeId fields listedAt).sequences tx.now := by
  rw [← hrow.id_eq, h.currentListing_eq_none hrow.mem hrow.isOpen, hrow.symbol] at hnone
  have happend := h.appendListing hrow id listedAt (fun _ => rfl) (fun _ => rfl) (fun _ => rfl)
    (fun l hl => (if_neg fun hkey => hnone l hl hkey.1).symm) hstored
  rwa [List.map_id] at happend

theorem Sound.reviseListing (h : Sound tx.db tx.sequences tx.now)
    (hrow : IsCurrent tx.db instrumentId s row) {current : ListingRow}
    (hcurrent : tx.db.currentListing instrumentId exchangeId = some current)
    {fields : ListingFields} (listedAt : Option Date) (hstored : fields.stored = .ok fields) :
    Sound (tx.reviseListing current.id instrumentId exchangeId fields listedAt).db
      (tx.reviseListing current.id instrumentId exchangeId fields listedAt).sequences tx.now :=
  h.appendListing hrow _ listedAt (ListingRow.closeId_id _ _)
    (fun l => by simp [ListingRow.indexKey]) (ListingRow.closeId_fields _ _)
    (fun l hl => by
      rw [ListingRow.closeId_period]
      exact if_congr (h.listing_id_eq_iff hrow hcurrent hl) rfl rfl) hstored

/-- **An upsert of a listing of a current row keeps the invariant**, and leaves the instruments. -/
theorem Sound.listingUpsert (h : Sound tx.db tx.sequences tx.now)
    (hrow : IsCurrent tx.db instrumentId s row) {r : Nat × Outcome}
    (hupsert : ListingUpsert instrumentId exchangeId inst tx r tx') :
    Sound tx'.db tx'.sequences tx.now ∧ tx'.db.instrument = tx.db.instrument := by
  cases hupsert with
  | added hnone hstored hindex hforeign =>
    exact ⟨h.addListing hrow hnone _ (ListingFields.stored_idem hstored), rfl⟩
  | unchanged hcurrent hfields => exact ⟨h, rfl⟩
  | modified hcurrent hfields hstored hindex hforeign =>
    exact ⟨h.reviseListing hrow hcurrent _ (ListingFields.stored_idem hstored), rfl⟩

end ListingUpsert

/-! ## Every upsert that fits succeeds -/

section Progress

variable {upper : String → String} {inst : NormalizedInstrument} {tx : Tx}

theorem Sound.listingIndexHolds {db : Db} {sequences : Sequences} {now : Time}
    (h : Sound db sequences now) : listingIndexHolds db.listing := by
  refine List.Nodup.map_on (fun l hl l' hl' heq => ?_) (h.listingIds.of_map.filter _)
  obtain ⟨hmem, hopen⟩ := List.mem_filter.mp hl
  obtain ⟨hmem', hopen'⟩ := List.mem_filter.mp hl'
  obtain ⟨hinstrumentId, hexchangeId⟩ := Prod.mk.inj heq
  have hlineage : lineage db.instrument l = lineage db.instrument l' := by
    rw [lineage, lineage, hinstrumentId, hexchangeId]
  exact h.listings.eq_of_mem_current (k := lineage db.instrument l')
    (mem_current.mpr ⟨hmem, hlineage, of_decide_eq_true hopen⟩)
    (mem_current.mpr ⟨hmem', rfl, of_decide_eq_true hopen'⟩)

/-- No index and no foreign key is in the way of an instrument whose numbers fit. -/
theorem Sound.exists_instrumentUpsert (h : Sound tx.db tx.sequences tx.now)
    {fields : InstrumentFields} (hfits : (inst.instrumentFields upper).stored = .ok fields)
    (hroom : tx.sequences.instrument < UINT32_LIMIT) :
    ∃ r tx', InstrumentUpsert upper inst tx r tx' := by
  cases hcurrent : tx.db.currentInstrument inst.canonicalSymbol with
  | none => exact ⟨_, _, .added hcurrent hroom hfits⟩
  | some current =>
    by_cases hfields : current.fields = inst.instrumentFields upper
    · exact ⟨_, _, .unchanged hcurrent hfields⟩
    · refine ⟨_, _, .modified hcurrent hfields ?_ hroom hfits ?_⟩
      · -- the current row of the symbol has just been closed
        rw [Db.currentInstrument, List.head?_eq_none_iff]
        refine List.filter_eq_nil_iff.mpr fun r' hr' => ?_
        obtain ⟨r, hr, rfl⟩ := List.mem_map.mp hr'
        have hiff := h.id_eq_iff hcurrent hr
        simp only [decide_eq_true_eq, InstrumentRow.closeId_canonicalSymbol,
          InstrumentRow.closeId_period]
        rintro ⟨hsymbol, hopen⟩
        split at hopen
        · cases hopen
        · exact ‹¬ r.id = _› (hiff.mpr ⟨hsymbol, hopen⟩)
      · exact (h.reviseInstrument hcurrent (InstrumentFields.stored_idem hfits)).listingIndexHolds

theorem Sound.exists_listingUpsert {instrumentId exchangeId : Nat} {s : String}
    {row : InstrumentRow} (h : Sound tx.db tx.sequences tx.now)
    (hrow : IsCurrent tx.db instrumentId s row) {fields : ListingFields}
    (hfits : inst.listingFields.stored = .ok fields)
    (hexchange : exchangeId ∈ exchanges.map Prod.fst) :
    ∃ r tx', ListingUpsert instrumentId exchangeId inst tx r tx' := by
  have hforeign : tx.db.hasInstrument instrumentId := ⟨row, hrow.mem, hrow.id_eq⟩
  have hidem := ListingFields.stored_idem hfits
  cases hcurrent : tx.db.currentListing instrumentId exchangeId with
  | none =>
    have hindex := (h.addListing hrow hcurrent inst.listedAt hidem).listingIndexHolds
    exact ⟨_, _, .added hcurrent hfits hindex ⟨hforeign, hexchange⟩⟩
  | some current =>
    by_cases hfields : current.fields = inst.listingFields
    · exact ⟨_, _, .unchanged hcurrent hfields⟩
    · have hindex := (h.reviseListing hrow hcurrent inst.listedAt hidem).listingIndexHolds
      exact ⟨_, _, .modified hcurrent hfields hfits hindex ⟨hforeign, hexchange⟩⟩

end Progress

/-! ## The past -/

/-- What a row says besides its period, and of a listing besides the row it refers to. -/
def InstrumentRow.said (r : InstrumentRow) : Nat × InstrumentFields := (r.id, r.fields)

def ListingRow.said (l : ListingRow) : Nat × ListingFields × Option Date :=
  (l.id, l.fields, l.listedAt)

def Db.instrumentsAsOf (db : Db) (s : String) (t : Time) : List InstrumentRow :=
  asOf (·.canonicalSymbol) (·.period) db.instrument s t

/-- The listings of a symbol at an exchange that were valid at a time, whichever row of the symbol
they refer to now. -/
def Db.listingsAsOf (db : Db) (s : String) (exchangeId : Nat) (t : Time) : List ListingRow :=
  asOf (lineage db.instrument) (·.period) db.listing (some s, exchangeId) t

/-- As of the time, both tables say the same. -/
structure SamePast (db db' : Db) (t : Time) : Prop where
  instruments : ∀ s,
    (db'.instrumentsAsOf s t).map InstrumentRow.said =
      (db.instrumentsAsOf s t).map InstrumentRow.said
  listings : ∀ s exchangeId,
    (db'.listingsAsOf s exchangeId t).map ListingRow.said =
      (db.listingsAsOf s exchangeId t).map ListingRow.said

theorem SamePast.refl (db : Db) (t : Time) : SamePast db db t := ⟨fun _ => rfl, fun _ _ => rfl⟩

theorem SamePast.trans {db₁ db₂ db₃ : Db} {t : Time} (h : SamePast db₁ db₂ t)
    (h' : SamePast db₂ db₃ t) : SamePast db₁ db₃ t where
  instruments s := (h'.instruments s).trans (h.instruments s)
  listings s exchangeId := (h'.listings s exchangeId).trans (h.listings s exchangeId)

/-- The same tables have the same past. -/
theorem SamePast.of_eq {db db' : Db} {t : Time} (hinstrument : db'.instrument = db.instrument)
    (hlisting : db'.listing = db.listing) : SamePast db db' t where
  instruments s := by rw [Db.instrumentsAsOf, Db.instrumentsAsOf, hinstrument]
  listings s exchangeId := by
    rw [Db.listingsAsOf, Db.listingsAsOf, hinstrument, hlisting]

section Past

variable {upper : String → String} {inst : NormalizedInstrument} {tx tx' : Tx} {t : Time}

theorem Sound.samePast_instrumentUpsert (h : Sound tx.db tx.sequences tx.now)
    {r : Nat × Outcome} (hupsert : InstrumentUpsert upper inst tx r tx') (ht : t < tx.now) :
    SamePast tx.db tx'.db t := by
  cases hupsert with
  | @added fields hnone hid hstored =>
    refine ⟨fun s => congrArg (List.map _) (asOf_insert rfl s ht), fun s exchangeId =>
      congrArg (List.map _) (asOf_rekey (fun l hl => ?_) _ t)⟩
    have heq := lineage_map_append id (tx.newInstrument inst.canonicalSymbol fields)
      (fun _ => rfl) (fun _ => rfl) (h.refers l hl)
    rwa [List.map_id] at heq
  | unchanged => exact .refl _ t
  | @modified current fields hcurrent =>
    refine ⟨fun s => ?_, fun s exchangeId => ?_⟩
    · have hperiod : ∀ r ∈ tx.db.instrument, (r.closeId current.id tx.now).period =
          if r.canonicalSymbol = inst.canonicalSymbol ∧ r.period.validTo = none then
            r.period.close tx.now else r.period := by
        intro r hr
        rw [InstrumentRow.closeId_period]
        exact if_congr (h.id_eq_iff hcurrent hr) rfl rfl
      refine (congrArg (List.map _) (asOf_supersede
        (fun r _ => InstrumentRow.closeId_canonicalSymbol _ _ r) hperiod rfl s ht)).trans ?_
      rw [List.map_map]
      refine List.map_congr_left fun r _ => ?_
      simp [InstrumentRow.said]
    · refine (congrArg (List.map _) (asOf_relabel
        (fun l hl => h.lineage_repoint hcurrent fields hl)
        (fun l _ => ListingRow.repoint_period _ _ l) _ t)).trans ?_
      rw [List.map_map]
      refine List.map_congr_left fun l _ => ?_
      simp [ListingRow.said]

theorem Sound.samePast_listingUpsert {instrumentId exchangeId : Nat} {s : String}
    {row : InstrumentRow} (h : Sound tx.db tx.sequences tx.now)
    (hrow : IsCurrent tx.db instrumentId s row) {r : Nat × Outcome}
    (hupsert : ListingUpsert instrumentId exchangeId inst tx r tx') (ht : t < tx.now) :
    SamePast tx.db tx'.db t := by
  cases hupsert with
  | added => exact ⟨fun _ => rfl, fun s _ => congrArg (List.map _) (asOf_insert rfl _ ht)⟩
  | unchanged => exact .refl _ t
  | @modified current fields hcurrent =>
    have hperiod : ∀ l ∈ tx.db.listing, (l.closeId current.id tx.now).period =
        if lineage tx.db.instrument l = (some s, exchangeId) ∧ l.period.validTo = none then
          l.period.close tx.now else l.period := by
      intro l hl
      rw [ListingRow.closeId_period]
      exact if_congr (h.listing_id_eq_iff hrow hcurrent hl) rfl rfl
    refine ⟨fun _ => rfl, fun s' exchangeId' => ?_⟩
    refine (congrArg (List.map _) (asOf_supersede
      (fun l _ => by simp [lineage, Tx.reviseListing]) hperiod rfl _ ht)).trans ?_
    rw [List.map_map]
    refine List.map_congr_left fun l _ => ?_
    simp [ListingRow.said]

end Past

/-! ## The join of both tables -/

/-- `instrument i JOIN listing l ON l.instrument_id = i.id`, both as of a time. -/
def Db.asOfJoin (db : Db) (s : String) (exchangeId : Nat) (t : Time) :
    List (InstrumentRow × ListingRow) :=
  (db.instrumentsAsOf s t).flatMap fun r =>
    (db.listing.filter fun l =>
      l.instrumentId = r.id ∧ l.exchangeId = exchangeId ∧ l.period.Covers t).map (r, ·)

/-- The row that the listing refers to had begun by the time. -/
def Db.RowBegunBy (db : Db) (t : Time) (l : ListingRow) : Prop :=
  ∃ r ∈ db.instrument, r.id = l.instrumentId ∧ r.period.validFrom ≤ t

instance (db : Db) (t : Time) (l : ListingRow) : Decidable (db.RowBegunBy t l) :=
  inferInstanceAs (Decidable (∃ r ∈ db.instrument, _ ∧ _))

/-- **The join as of a time** finds the listing that was valid then when the row that it refers to
now had begun by then, and nothing otherwise. -/
theorem Sound.asOfJoin_eq {db : Db} {sequences : Sequences} {now : Time}
    (h : Sound db sequences now) (s : String) (exchangeId : Nat) (t : Time) :
    (db.asOfJoin s exchangeId t).map Prod.snd =
      (db.listingsAsOf s exchangeId t).filter fun l => db.RowBegunBy t l := by
  -- a listing of the lineage refers to a row of the symbol, and that row was valid if it had begun
  have hvalid : ∀ l ∈ db.listing, l.period.Covers t → ∀ r ∈ db.instrument,
      r.id = l.instrumentId → (symbolOf db.instrument l.instrumentId = some s ∧
        r.period.validFrom ≤ t ↔ r ∈ db.instrumentsAsOf s t) := by
    intro l hl hcovers r hr hid
    rw [← hid, symbolOf_eq h.instrumentIds hr, Option.some.injEq, Db.instrumentsAsOf, mem_asOf]
    constructor
    · rintro ⟨hsymbol, hfrom⟩
      refine ⟨hr, hsymbol, hfrom, fun e he => ?_⟩
      obtain ⟨c, hc, hle⟩ := h.outlasts l hl r hr hid e he
      exact (hcovers.2 c hc).trans_le hle
    · rintro ⟨-, hsymbol, hcovered⟩
      exact ⟨hsymbol, hcovered.1⟩
  have hlistings : (db.listingsAsOf s exchangeId t).filter (fun l => db.RowBegunBy t l) =
      db.listing.filter fun l => (∃ r ∈ db.instrumentsAsOf s t, l.instrumentId = r.id) ∧
        l.exchangeId = exchangeId ∧ l.period.Covers t := by
    rw [Db.listingsAsOf, asOf, List.filter_filter]
    refine List.filter_congr fun l hl => ?_
    rw [Bool.eq_iff_iff]
    simp only [Bool.and_eq_true, decide_eq_true_eq, lineage, Prod.mk.injEq]
    constructor
    · rintro ⟨⟨r, hr, hid, hfrom⟩, ⟨hsymbol, hexchange⟩, hcovers⟩
      exact ⟨⟨r, (hvalid l hl hcovers r hr hid).mp ⟨hsymbol, hfrom⟩, hid.symm⟩, hexchange,
        hcovers⟩
    · rintro ⟨⟨r, hr, hid⟩, hexchange, hcovers⟩
      have hmem := (mem_asOf.mp hr).1
      obtain ⟨hsymbol, hfrom⟩ := (hvalid l hl hcovers r hmem hid.symm).mpr hr
      exact ⟨⟨r, hmem, hid.symm, hfrom⟩, ⟨hsymbol, hexchange⟩, hcovers⟩
  rw [hlistings, Db.asOfJoin]
  have hlength := h.instruments.atMostOne s t
  rcases hrows : db.instrumentsAsOf s t with _ | ⟨r, rest⟩
  · simp
  · rw [← Db.instrumentsAsOf, hrows, List.length_cons] at hlength
    obtain rfl := List.eq_nil_of_length_eq_zero (Nat.le_zero.mp (Nat.le_of_succ_le_succ hlength))
    simp [Function.comp_def]

end BptCore.SecMaster
