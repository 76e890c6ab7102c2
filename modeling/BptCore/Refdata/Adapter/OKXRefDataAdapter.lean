import BptCore.Refdata.Adapter.OKXRefdataDecoder
import BptCore.Refdata.RefdataService

/-!
# The OKX refdata adapter

The adapter asks the venue for the listing of its spot instruments and for that of its swaps: at the
start for the registry alone, and then at every poll for whatever has changed. `none` is a request
that fails, or an answer that is not a document.
-/

namespace BptCore.Refdata

open BptCore.Common

namespace OKXRefDataAdapter

variable (m : InstrumentMapping)

/-- What a request comes to: the instruments, unless something throws. -/
def request (instType : String) (body : Option Json) : Option (List Instrument) :=
  body.bind (OKXRefdataDecoder.parseInstruments m instType)

/-- The registry, and whether the adapter is ready. Without the spot instruments it is not. -/
def fetchSnapshot (spot swap : Option Json) (r : InstrumentRegistry) : InstrumentRegistry × Bool :=
  match request m "SPOT" spot with
  | none => (r, false)
  | some insts => ((insts ++ (request m "SWAP" swap).getD []).foldl InstrumentRegistry.add r, true)

/-- The instruments of an answer, each to `notify`. -/
def notifyAll (ts : Nat) : RefdataService → List Instrument → RefdataService × List RefDataDelta
  | s, [] => (s, [])
  | s, inst :: insts =>
    let (s, deltas) := s.refreshInstrument inst ts
    let out := notifyAll ts s insts
    (out.1, deltas ++ out.2)

/-- The two requests fail each for itself. -/
def fetchInstrumentListing (spot swap : Option Json) (ts : Nat) (s : RefdataService) :
    RefdataService × List RefDataDelta :=
  let (s, spotDeltas) := notifyAll ts s ((request m "SPOT" spot).getD [])
  let (s, swapDeltas) := notifyAll ts s ((request m "SWAP" swap).getD [])
  (s, spotDeltas ++ swapDeltas)

/-- The answer is a listing: it is read, and the venue says that the request was good. -/
def listing (instType : String) (body : Option Json) : Option (List Instrument) := do
  let body ← body
  let o ← body.asObject
  if o.stringOrThrow "code" = some "0" then OKXRefdataDecoder.parseInstruments m instType body
  else none

/-- The tradable instruments of a poll in which both requests succeed. -/
def listings (spot swap : Option Json) : Option (List Instrument) := do
  let spotInsts ← listing m "SPOT" spot
  let swapInsts ← listing m "SWAP" swap
  some (spotInsts ++ swapInsts)

/-! ## A poll in which both requests succeed -/

theorem notifyAll_cons (ts : Nat) (s : RefdataService) (inst : Instrument)
    (insts : List Instrument) :
    notifyAll ts s (inst :: insts) =
      ((notifyAll ts (s.refreshInstrument inst ts).1 insts).1,
        (s.refreshInstrument inst ts).2 ++ (notifyAll ts (s.refreshInstrument inst ts).1 insts).2) :=
  rfl

theorem notifyAll_append (ts : Nat) (s : RefdataService) (insts insts' : List Instrument) :
    notifyAll ts s (insts ++ insts') =
      ((notifyAll ts (notifyAll ts s insts).1 insts').1,
        (notifyAll ts s insts).2 ++ (notifyAll ts (notifyAll ts s insts).1 insts').2) := by
  induction insts generalizing s with
  | nil => rfl
  | cons inst insts ih =>
    rw [List.cons_append, notifyAll_cons, ih, notifyAll_cons, List.append_assoc]

variable {m}

theorem request_of_listing {instType : String} {body : Option Json} {insts : List Instrument}
    (h : listing m instType body = some insts) : request m instType body = some insts := by
  obtain ⟨body', rfl, h⟩ := Option.bind_eq_some_iff.mp h
  obtain ⟨o, -, h⟩ := Option.bind_eq_some_iff.mp h
  split at h
  · exact h
  · cases h

theorem listed_of_request {instType : String} {body : Option Json} {insts : List Instrument}
    (h : request m instType body = some insts) : ∀ inst ∈ insts, OKXRefdataDecoder.Listed inst := by
  obtain ⟨body', -, h⟩ := Option.bind_eq_some_iff.mp h
  exact OKXRefdataDecoder.listed_of_parseInstruments h

/-- Whatever the answers are, only listed instruments go to `notify`. -/
theorem listed_of_mem_request {instType : String} {body : Option Json} :
    ∀ inst ∈ (request m instType body).getD [], OKXRefdataDecoder.Listed inst := by
  intro inst hmem
  cases hbody : request m instType body with
  | none => exact absurd (hbody ▸ hmem) List.not_mem_nil
  | some insts =>
    rw [hbody] at hmem
    exact listed_of_request hbody inst hmem

theorem listed_of_listings {spot swap : Option Json} {insts : List Instrument}
    (h : listings m spot swap = some insts) : ∀ inst ∈ insts, OKXRefdataDecoder.Listed inst := by
  obtain ⟨spotInsts, hspot, h⟩ := Option.bind_eq_some_iff.mp h
  obtain ⟨swapInsts, hswap, h⟩ := Option.bind_eq_some_iff.mp h
  obtain rfl := Option.some.inj h
  intro inst hmem
  rcases List.mem_append.mp hmem with hmem | hmem
  · exact listed_of_request (request_of_listing hspot) inst hmem
  · exact listed_of_request (request_of_listing hswap) inst hmem

/-- Then the poll notifies of every tradable instrument. -/
theorem fetchInstrumentListing_of_listings {spot swap : Option Json} {insts : List Instrument}
    (h : listings m spot swap = some insts) (ts : Nat) (s : RefdataService) :
    fetchInstrumentListing m spot swap ts s = notifyAll ts s insts := by
  obtain ⟨spotInsts, hspot, h⟩ := Option.bind_eq_some_iff.mp h
  obtain ⟨swapInsts, hswap, h⟩ := Option.bind_eq_some_iff.mp h
  obtain rfl := Option.some.inj h
  rw [notifyAll_append, fetchInstrumentListing, request_of_listing hspot, request_of_listing hswap]
  rfl

/-! ## What `notify` does -/

/-- The stored instrument after one of its uid was handed to `notify`. -/
def refreshed (existing : Option Instrument) (inst : Instrument) : Instrument :=
  match existing with
  | none => inst
  | some existing => if InstrumentRegistry.SameContent existing inst then existing else inst

theorem refreshed_twice (existing : Option Instrument) (inst : Instrument) :
    refreshed (some (refreshed existing inst)) inst = refreshed existing inst := by
  have hself : InstrumentRegistry.SameContent inst inst := ⟨rfl, rfl, rfl, rfl, rfl, rfl⟩
  cases existing with
  | none => exact if_pos hself
  | some existing =>
    by_cases hsame : InstrumentRegistry.SameContent existing inst
    · have hkeep : refreshed (some existing) inst = existing := if_pos hsame
      rw [hkeep, hkeep]
    · have htake : refreshed (some existing) inst = inst := if_neg hsame
      rw [htake]
      exact if_pos hself

theorem lookup_refreshInstrument (s : RefdataService) (inst : Instrument) (ts uid : Nat) :
    (s.refreshInstrument inst ts).1.registry.instrumentsByUid.lookup uid =
      if uid = inst.instUid then
        some (refreshed (s.registry.instrumentsByUid.lookup inst.instUid) inst)
      else s.registry.instrumentsByUid.lookup uid := by
  unfold RefdataService.refreshInstrument InstrumentRegistry.updateIfChanged
  cases hlookup : s.registry.instrumentsByUid.lookup inst.instUid with
  | none => exact Table.lookup_insert_eq _ _ _ _
  | some existing =>
    by_cases hsame : InstrumentRegistry.SameContent existing inst
    · simp only [if_pos hsame, refreshed, Bool.false_eq_true, if_false]
      split
      · next huid => rw [huid, hlookup]
      · rfl
    · simp only [if_neg hsame, refreshed, if_true]
      exact Table.lookup_insert_eq _ _ _ _

/-- Of a changed instrument there is a delta. -/
theorem modify_of_changed {s : RefdataService} {inst existing : Instrument} {ts : Nat}
    (hlookup : s.registry.instrumentsByUid.lookup inst.instUid = some existing)
    (hchanged : ¬ InstrumentRegistry.SameContent existing inst) :
    ∃ d ∈ (s.refreshInstrument inst ts).2, d.updateType = some .MODIFY ∧
      d.instrument = inst.block := by
  unfold RefdataService.refreshInstrument InstrumentRegistry.updateIfChanged
  simp only [hlookup, if_neg hchanged, if_true]
  exact ⟨_, List.mem_singleton_self _, rfl, rfl⟩

/-- Every delta is a modification. -/
theorem updateType_of_mem_refreshInstrument {s : RefdataService} {inst : Instrument} {ts : Nat}
    {d : RefDataDelta} (h : d ∈ (s.refreshInstrument inst ts).2) :
    d.updateType = some .MODIFY := by
  unfold RefdataService.refreshInstrument at h
  dsimp only at h
  split at h
  · rw [List.mem_singleton.mp h]
    rfl
  · exact absurd h List.not_mem_nil

theorem updateType_of_mem_notifyAll {ts : Nat} {s : RefdataService} {insts : List Instrument}
    {d : RefDataDelta} (h : d ∈ (notifyAll ts s insts).2) : d.updateType = some .MODIFY := by
  induction insts generalizing s with
  | nil => exact absurd h List.not_mem_nil
  | cons inst insts ih =>
    rw [notifyAll_cons] at h
    rcases List.mem_append.mp h with hhead | htail
    · exact updateType_of_mem_refreshInstrument hhead
    · exact ih htail

/-- An instrument that does not come up stays. -/
theorem lookup_notifyAll_of_notMem {uid : Nat} {insts : List Instrument}
    (h : ∀ inst ∈ insts, inst.instUid ≠ uid) (ts : Nat) (s : RefdataService) :
    (notifyAll ts s insts).1.registry.instrumentsByUid.lookup uid =
      s.registry.instrumentsByUid.lookup uid := by
  induction insts generalizing s with
  | nil => rfl
  | cons inst insts ih =>
    rw [notifyAll_cons]
    show (notifyAll ts _ insts).1.registry.instrumentsByUid.lookup uid = _
    rw [ih (fun i hi => h i (List.mem_cons_of_mem inst hi)), lookup_refreshInstrument,
      if_neg (h inst List.mem_cons_self).symm]

/-- One that comes up, always the same under its uid, is refreshed. -/
theorem lookup_notifyAll_of_mem {inst : Instrument} {insts : List Instrument} (hmem : inst ∈ insts)
    (honce : ∀ inst' ∈ insts, inst'.instUid = inst.instUid → inst' = inst) (ts : Nat)
    (s : RefdataService) :
    (notifyAll ts s insts).1.registry.instrumentsByUid.lookup inst.instUid =
      some (refreshed (s.registry.instrumentsByUid.lookup inst.instUid) inst) := by
  induction insts generalizing s with
  | nil => exact absurd hmem List.not_mem_nil
  | cons first insts ih =>
    have honce' : ∀ inst' ∈ insts, inst'.instUid = inst.instUid → inst' = inst := fun i hi =>
      honce i (List.mem_cons_of_mem first hi)
    rw [notifyAll_cons]
    show (notifyAll ts _ insts).1.registry.instrumentsByUid.lookup inst.instUid = _
    by_cases hrest : ∃ inst' ∈ insts, inst'.instUid = inst.instUid
    · -- it comes up again
      obtain ⟨inst', hmem', huid'⟩ := hrest
      obtain rfl := honce' inst' hmem' huid'
      rw [ih hmem' honce', lookup_refreshInstrument]
      split
      · next huid =>
        obtain rfl := honce first List.mem_cons_self huid.symm
        rw [refreshed_twice]
      · rfl
    · have hfirst : inst = first := by
        rcases List.mem_cons.mp hmem with heq | hin
        · exact heq
        · exact absurd ⟨inst, hin, rfl⟩ hrest
      subst hfirst
      rw [lookup_notifyAll_of_notMem (fun i hi huid => hrest ⟨i, hi, huid⟩),
        lookup_refreshInstrument, if_pos rfl]

/-- Of a changed one there is a delta. -/
theorem modify_of_mem {inst existing : Instrument} {insts : List Instrument} (hmem : inst ∈ insts)
    (honce : ∀ inst' ∈ insts, inst'.instUid = inst.instUid → inst' = inst) {ts : Nat}
    {s : RefdataService}
    (hlookup : s.registry.instrumentsByUid.lookup inst.instUid = some existing)
    (hchanged : ¬ InstrumentRegistry.SameContent existing inst) :
    ∃ d ∈ (notifyAll ts s insts).2, d.updateType = some .MODIFY ∧ d.instrument = inst.block := by
  induction insts generalizing s with
  | nil => exact absurd hmem List.not_mem_nil
  | cons first insts ih =>
    rw [notifyAll_cons]
    by_cases huid : first.instUid = inst.instUid
    · obtain rfl := honce first List.mem_cons_self huid
      obtain ⟨d, hd, hspec⟩ := modify_of_changed hlookup hchanged
      exact ⟨d, List.mem_append_left _ hd, hspec⟩
    · have hin : inst ∈ insts := by
        rcases List.mem_cons.mp hmem with heq | hin
        · exact absurd (congrArg Instrument.instUid heq.symm) huid
        · exact hin
      have hlookup' : (s.refreshInstrument first ts).1.registry.instrumentsByUid.lookup
          inst.instUid = some existing := by
        rw [lookup_refreshInstrument, if_neg (Ne.symm huid), hlookup]
      obtain ⟨d, hd, hspec⟩ := ih hin (fun i hi => honce i (List.mem_cons_of_mem first hi)) hlookup'
      exact ⟨d, List.mem_append_right _ hd, hspec⟩

end OKXRefDataAdapter

end BptCore.Refdata
