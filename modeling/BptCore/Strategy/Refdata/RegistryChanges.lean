import BptCore.Lib.ChangeLog
import BptCore.Refdata.RefdataService
import BptCore.Strategy.Refdata.RefdataClient

/-!
# The registry and its deltas

The registry as a client sees it is a map of instruments, and a delta is a change of that map.

* **`change`** — what a delta stands for.
* **`view_applyUpdate`**, **`view_snapshot`** — the cache follows a delta, and takes a snapshot.
* **`Publishes`** — what the service puts on the delta stream leads from the registry before to the
  one after: one lemma for each way.
-/

namespace BptCore.Strategy.Refdata

open BptCore.Refdata ChangeLog

/-! ## Maps of instruments -/

/-- The instruments of a table, by id. -/
def view (t : Table Nat Instrument) : Nat → Option Instrument := fun id => t.lookup id

/-- The registry as a client sees it. -/
def registryView (r : InstrumentRegistry) : Nat → Option Instrument := fun id =>
  (r.instrumentsByUid.lookup id).map fun inst => ofBlock inst.block

/-- What a delta does to a map of instruments; a heartbeat does nothing. -/
def change (msg : RefDataDelta) : Change Nat Instrument :=
  match msg.updateType with
  | none => .keep
  | some .ADD | some .MODIFY => .put msg.instrument.instrumentId (ofBlock msg.instrument)
  | some .REMOVE => .drop msg.instrument.instrumentId

/-- The cache follows a delta. -/
theorem view_applyUpdate (t : Table Nat Instrument) (msg : RefDataDelta) :
    view (InstrumentCache.applyUpdate t msg) = (change msg).apply (view t) := by
  funext id
  unfold InstrumentCache.applyUpdate change view
  cases msg.updateType with
  | none => rfl
  | some updateType =>
    cases updateType with
    | ADD => exact Table.lookup_insert_eq _ _ _ _
    | MODIFY => exact Table.lookup_insert_eq _ _ _ _
    | REMOVE => exact Table.lookup_erase_eq _ _ _

/-- The first entry of an id counts. -/
theorem view_instrumentsOf (blocks : List InstrumentBlock) (id : Nat) :
    view (InstrumentCache.instrumentsOf blocks) id =
      (blocks.find? fun b => b.instrumentId == id).map ofBlock := by
  have hfold : ∀ (t : Table Nat Instrument),
      (blocks.foldl (fun t b => Table.emplace b.instrumentId (ofBlock b) t) t).lookup id =
        (t.lookup id).or ((blocks.find? fun b => b.instrumentId == id).map ofBlock) := by
    induction blocks with
    | nil => exact fun t => (Option.or_none).symm
    | cons b blocks ih =>
      intro t
      rw [List.foldl_cons, ih, Table.lookup_emplace, Option.or_assoc, List.find?_cons]
      by_cases hid : id = b.instrumentId
      · rw [if_pos hid, hid, beq_self_eq_true]
        rfl
      · rw [if_neg hid, beq_eq_false_iff_ne.mpr (Ne.symm hid), Option.none_or]
  exact hfold ∅

/-- The blocks of all instruments are the registry as the client sees it. -/
theorem view_blocks (r : InstrumentRegistry) :
    view (InstrumentCache.instrumentsOf (r.getAll.map BptCore.Refdata.Instrument.block)) =
      registryView r := by
  funext id
  rw [view_instrumentsOf, List.find?_map, Option.map_map]
  show Option.map _ (r.getAll.find? fun inst => inst.instUid == id) = _
  rw [InstrumentRegistry.getAll, Table.find?_vals r.keyed]
  rfl

/-- **A snapshot of everything** is the registry as the client sees it. -/
theorem view_snapshot (r : InstrumentRegistry) {request : RefdataRequest}
    (hall : request.canonicalFilters = [] ∧ request.instruments = []) (seqStart nowNs : Nat) :
    view (InstrumentCache.instrumentsOf
      (RefdataSnapshotPublisher.snapshot r request seqStart nowNs).instruments) =
        registryView r := by
  have hmatch : ∀ inst : BptCore.Refdata.Instrument,
      RefdataSnapshotPublisher.matchesFilter inst request = true := fun inst => by
    unfold RefdataSnapshotPublisher.matchesFilter
    rw [hall.1, hall.2, if_neg (not_not.mpr rfl), if_neg (not_not.mpr rfl)]
  show view (InstrumentCache.instrumentsOf
    ((r.getAll.filter _).map BptCore.Refdata.Instrument.block)) = _
  rw [List.filter_eq_self.mpr fun inst _ => hmatch inst]
  exact view_blocks r

theorem registryView_add (r : InstrumentRegistry) (inst : BptCore.Refdata.Instrument) :
    registryView (r.add inst) =
      (Change.put inst.instUid (ofBlock inst.block)).apply (registryView r) := by
  funext id
  show Option.map _ ((r.instrumentsByUid.insert inst.instUid inst).lookup id) =
    if id = inst.instUid then some (ofBlock inst.block) else registryView r id
  rw [Table.lookup_insert_eq]
  split <;> rfl

theorem registryView_remove (r : InstrumentRegistry) (instUid : Nat) :
    registryView (r.remove instUid) = (Change.drop instUid).apply (registryView r) := by
  funext id
  show Option.map _ ((r.instrumentsByUid.erase instUid).lookup id) =
    if id = instUid then none else registryView r id
  rw [Table.lookup_erase_eq]
  split <;> rfl

/-! ## What the service publishes -/

/-- The deltas have the next numbers, and lead from the registry before to the one after. -/
structure Publishes (s : RefdataService) (out : RefdataService × List RefDataDelta) : Prop where
  seq : out.1.seq = s.seq + out.2.length
  numbers : out.2.map RefDataDelta.deltaSeqNum = List.range' (s.seq + 1) out.2.length
  registry : registryView out.1.registry = replay (registryView s.registry) (out.2.map change)

theorem publishes_change (s : RefdataService) (updateType : Sbe.DeltaUpdateType)
    (inst : BptCore.Refdata.Instrument) (nowNs : Nat) :
    Publishes s ((s.changeInstrument updateType inst nowNs).1,
      [(s.changeInstrument updateType inst nowNs).2]) where
  seq := rfl
  numbers := rfl
  registry := by
    cases updateType with
    | ADD => exact registryView_add s.registry inst
    | MODIFY => exact registryView_add s.registry inst
    | REMOVE => exact registryView_remove s.registry inst.instUid

theorem publishes_heartbeat (s : RefdataService) (nowNs : Nat) :
    Publishes s ((s.publishHeartbeat nowNs).1, [(s.publishHeartbeat nowNs).2]) :=
  ⟨rfl, rfl, rfl⟩

theorem publishes_refresh (s : RefdataService) (inst : BptCore.Refdata.Instrument) (nowNs : Nat) :
    Publishes s (s.refreshInstrument inst nowNs) := by
  unfold RefdataService.refreshInstrument InstrumentRegistry.updateIfChanged
  dsimp only
  cases s.registry.instrumentsByUid.lookup inst.instUid with
  | none => exact ⟨rfl, rfl, registryView_add s.registry inst⟩
  | some existing =>
    dsimp only
    split
    · exact ⟨rfl, rfl, rfl⟩
    · exact ⟨rfl, rfl, registryView_add s.registry inst⟩

/-- An instrument of the registry, published again, changes nothing. -/
theorem put_of_mem_getAll {r : InstrumentRegistry} {inst : BptCore.Refdata.Instrument}
    (h : inst ∈ r.getAll) :
    (Change.put inst.instUid (ofBlock inst.block)).apply (registryView r) = registryView r := by
  obtain ⟨uid, huid⟩ := Table.mem_vals_iff.mp h
  obtain rfl : inst.instUid = uid := r.keyed uid inst huid
  funext id
  show (if id = inst.instUid then some (ofBlock inst.block) else registryView r id) = _
  split
  · next hid =>
    rw [hid, registryView, huid]
    rfl
  · rfl

theorem publishes_refreshMapping (s : RefdataService) (nowNs : Nat) :
    Publishes s (s.refreshMapping nowNs) := by
  have hall : ∀ insts : List BptCore.Refdata.Instrument, ∀ s' : RefdataService,
      (∀ inst ∈ insts, inst ∈ s'.registry.getAll) →
        Publishes s' (RefdataService.republishInstruments nowNs s' insts) := by
    intro insts
    induction insts with
    | nil => exact fun s' _ => ⟨rfl, rfl, rfl⟩
    | cons inst insts ih =>
      intro s' hin
      have hrest := ih (s'.publishDelta .MODIFY inst nowNs).1 fun i hi =>
        hin i (List.mem_cons_of_mem inst hi)
      refine ⟨?_, ?_, ?_⟩
      · rw [RefdataService.republishInstruments, List.length_cons, hrest.seq]
        show s'.seq + 1 + _ = _
        omega
      · rw [RefdataService.republishInstruments, List.map_cons, List.length_cons, hrest.numbers,
          List.range'_succ]
        rfl
      · rw [RefdataService.republishInstruments, List.map_cons, hrest.registry]
        show replay (registryView s'.registry) _ =
          replay ((Change.put inst.instUid (ofBlock inst.block)).apply (registryView s'.registry)) _
        rw [put_of_mem_getAll (hin inst List.mem_cons_self)]
  exact hall s.registry.getAll s fun inst h => h

end BptCore.Strategy.Refdata
