import BptCore.Lib.Machine
import BptCore.Refdata.Adapter.OKXRefDataAdapter
import BptCore.Strategy.Refdata.RegistryChanges

/-!
# The listings of OKX

The registry and a consumer of the deltas, while the venue's listings are polled. What a poll finds
goes out as a modification, whether it is new or not, and the entries that do not trade are dropped
before anything is compared.

* **`ListingSystem`** — the service and a consumer that replays every delta.
* **`Reflected`** — a poll has brought both to the tradable instruments, and has said what changed.
* **`SameInstruments`** — the listing has the instruments of the registry, and no others.
* **`reflected_iff`** — every poll of a run does the first exactly when each finds the second.
-/

namespace BptCore.Strategy.Refdata

open BptCore.Refdata BptCore.Common ChangeLog Machine

/-! ## The system -/

structure ListingSystem where
  service : RefdataService
  /-- `isReady` of the adapter. -/
  ready : Bool
  consumer : Table Nat Instrument

/-- An instrument of another venue. -/
structure OtherVenueInstrument where
  inst : BptCore.Refdata.Instrument
  uid : inst.instUid % INST_UID_MULTIPLIER ≠ EXCHANGE_ID_OKX

inductive ListingEvent where
  /-- The poll, with the mapping and the two answers that it finds. -/
  | poll (m : InstrumentMapping) (spot swap : Option Json) (nowNs : Nat)
  | otherVenue (other : OtherVenueInstrument) (nowNs : Nat)
  | refreshMapping (nowNs : Nat)
  | heartbeat (nowNs : Nat)

namespace ListingSystem

/-- After the snapshots of all venues, with a consumer that has taken one. -/
def start (m : InstrumentMapping) (others : List OtherVenueInstrument) (spot swap : Option Json) :
    ListingSystem :=
  let (registry, ready) := OKXRefDataAdapter.fetchSnapshot m spot swap
    (others.foldl (fun r other => r.add other.inst) .empty)
  { service := { registry := registry }
    ready := ready
    consumer := InstrumentCache.instrumentsOf
      (registry.getAll.map BptCore.Refdata.Instrument.block) }

variable (s : ListingSystem)

/-- The service has published deltas, and the consumer has replayed them. -/
def published (out : RefdataService × List RefDataDelta) : ListingSystem × List RefDataDelta :=
  ({ s with service := out.1, consumer := out.2.foldl InstrumentCache.applyUpdate s.consumer },
    out.2)

/-- An adapter without its snapshot is not polled. -/
def step (s : ListingSystem) : ListingEvent → ListingSystem × List RefDataDelta
  | .poll m spot swap nowNs =>
    if s.ready then
      s.published (OKXRefDataAdapter.fetchInstrumentListing m spot swap nowNs s.service)
    else (s, [])
  | .otherVenue other nowNs => s.published (s.service.refreshInstrument other.inst nowNs)
  | .refreshMapping nowNs => s.published (s.service.refreshMapping nowNs)
  | .heartbeat nowNs =>
    s.published ((s.service.publishHeartbeat nowNs).1, [(s.service.publishHeartbeat nowNs).2])

end ListingSystem

/-! ## The claim about a poll -/

def IsOKX (uid : Nat) : Prop := uid % INST_UID_MULTIPLIER = EXCHANGE_ID_OKX

/-- The registry has the instrument as one of the venue that trades. -/
structure TradesInRegistry (r : InstrumentRegistry) (inst : BptCore.Refdata.Instrument) : Prop where
  stored : r.instrumentsByUid.lookup inst.instUid = some inst
  active : inst.status = .ACTIVE
  venue : IsOKX inst.instUid

structure TradesAtConsumer (t : Table Nat Instrument) (inst : Instrument) : Prop where
  stored : t.lookup inst.instrumentId = some inst
  active : inst.status = .ACTIVE
  venue : IsOKX inst.instrumentId

/-- What a poll with these tradable instruments and these deltas has to have done. -/
structure Reflected (before after : ListingSystem) (deltas : List RefDataDelta)
    (listing : List BptCore.Refdata.Instrument) : Prop where
  registry : ∀ inst, TradesInRegistry after.service.registry inst ↔ inst ∈ listing
  consumer : ∀ inst, TradesAtConsumer after.consumer inst ↔ ∃ i ∈ listing, ofBlock i.block = inst
  added : ∀ inst ∈ listing,
    before.service.registry.instrumentsByUid.lookup inst.instUid = none →
      ∃ d ∈ deltas, d.updateType = some .ADD ∧ d.instrument = inst.block
  modified : ∀ inst ∈ listing, ∀ existing,
    before.service.registry.instrumentsByUid.lookup inst.instUid = some existing →
      existing ≠ inst → ∃ d ∈ deltas, d.updateType = some .MODIFY ∧ d.instrument = inst.block
  gone : ∀ existing, TradesInRegistry before.service.registry existing →
    (∀ inst ∈ listing, inst.instUid ≠ existing.instUid) →
      ∃ d ∈ deltas, d.instrument.instrumentId = existing.instUid ∧
        (d.updateType = some .REMOVE ∨
          d.updateType = some .MODIFY ∧ fromSbeStatus d.instrument.status ≠ .ACTIVE)

/-- Every poll in which both requests succeed is reflected. -/
def Reflects (s : ListingSystem) (e : ListingEvent) : Prop :=
  match e with
  | .poll m spot swap _ => s.ready = true →
    ∀ listing, OKXRefDataAdapter.listings m spot swap = some listing →
      Reflected s (s.step e).1 (s.step e).2 listing
  | .otherVenue _ _ | .refreshMapping _ | .heartbeat _ => True

/-! ## The condition -/

/-- The listing has the instruments of the registry and no others, each once, and where one differs
it differs in a field that is compared. -/
structure SameInstruments (r : InstrumentRegistry) (listing : List BptCore.Refdata.Instrument) :
    Prop where
  known : ∀ inst ∈ listing, r.instrumentsByUid.lookup inst.instUid ≠ none
  still : ∀ uid existing, IsOKX uid → r.instrumentsByUid.lookup uid = some existing →
    ∃ inst ∈ listing, inst.instUid = uid
  once : ∀ inst ∈ listing, ∀ inst' ∈ listing, inst'.instUid = inst.instUid → inst' = inst
  compared : ∀ inst ∈ listing, ∀ existing, r.instrumentsByUid.lookup inst.instUid = some existing →
    InstrumentRegistry.SameContent existing inst → existing = inst

def FindsSame (s : ListingSystem) (e : ListingEvent) : Prop :=
  match e with
  | .poll m spot swap _ => s.ready = true →
    ∀ listing, OKXRefDataAdapter.listings m spot swap = some listing →
      SameInstruments s.service.registry listing
  | .otherVenue _ _ | .refreshMapping _ | .heartbeat _ => True

/-! ## What every run keeps -/

/-- One publication after another. -/
theorem Publishes.append {s : RefdataService} {out out' : RefdataService × List RefDataDelta}
    (h : Publishes s out) (h' : Publishes out.1 out') :
    Publishes s (out'.1, out.2 ++ out'.2) where
  seq := by
    show out'.1.seq = _
    rw [h'.seq, h.seq, List.length_append, Nat.add_assoc]
  numbers := by
    rw [List.map_append, h.numbers, h'.numbers, h.seq, List.length_append,
      List.range'_append_1.symm, Nat.add_right_comm]
  registry := by
    rw [List.map_append, replay_append, ← h.registry]
    exact h'.registry

theorem publishes_notifyAll (ts : Nat) (s : RefdataService)
    (insts : List BptCore.Refdata.Instrument) :
    Publishes s (OKXRefDataAdapter.notifyAll ts s insts) := by
  induction insts generalizing s with
  | nil => exact ⟨rfl, rfl, rfl⟩
  | cons inst insts ih =>
    rw [OKXRefDataAdapter.notifyAll_cons]
    exact (publishes_refresh s inst ts).append (ih _)

theorem publishes_fetchInstrumentListing (m : InstrumentMapping) (spot swap : Option Json)
    (ts : Nat) (s : RefdataService) :
    Publishes s (OKXRefDataAdapter.fetchInstrumentListing m spot swap ts s) :=
  (publishes_notifyAll ts s _).append (publishes_notifyAll ts _ _)

/-- The consumer follows every delta. -/
theorem view_replayed (deltas : List RefDataDelta) (t : Table Nat Instrument) :
    view (deltas.foldl InstrumentCache.applyUpdate t) = replay (view t) (deltas.map change) := by
  induction deltas generalizing t with
  | nil => rfl
  | cons d deltas ih =>
    rw [List.foldl_cons, ih, view_applyUpdate]
    rfl

/-- Of the venue the registry has only instruments that trade. -/
def OnlyTrading (r : InstrumentRegistry) : Prop :=
  ∀ uid inst, IsOKX uid → r.instrumentsByUid.lookup uid = some inst → inst.status = .ACTIVE

theorem OnlyTrading.add {r : InstrumentRegistry} (h : OnlyTrading r)
    {inst : BptCore.Refdata.Instrument} (hinst : IsOKX inst.instUid → inst.status = .ACTIVE) :
    OnlyTrading (r.add inst) := by
  intro uid inst' hvenue hlookup
  rw [show (r.add inst).instrumentsByUid = r.instrumentsByUid.insert inst.instUid inst from rfl,
    Table.lookup_insert_eq] at hlookup
  split at hlookup
  · next huid =>
    obtain rfl := Option.some.inj hlookup
    exact hinst (huid ▸ hvenue)
  · exact h uid inst' hvenue hlookup

theorem OnlyTrading.foldl_add {insts : List BptCore.Refdata.Instrument} {r : InstrumentRegistry}
    (h : OnlyTrading r)
    (hinsts : ∀ inst ∈ insts, IsOKX inst.instUid → inst.status = .ACTIVE) :
    OnlyTrading (insts.foldl InstrumentRegistry.add r) := by
  induction insts generalizing r with
  | nil => exact h
  | cons inst insts ih =>
    exact ih (h.add (hinsts inst List.mem_cons_self)) fun i hi =>
      hinsts i (List.mem_cons_of_mem inst hi)

theorem OnlyTrading.refreshInstrument {s : RefdataService} (h : OnlyTrading s.registry)
    {inst : BptCore.Refdata.Instrument} (hinst : IsOKX inst.instUid → inst.status = .ACTIVE)
    (ts : Nat) : OnlyTrading (s.refreshInstrument inst ts).1.registry := by
  intro uid inst' hvenue hlookup
  rw [OKXRefDataAdapter.lookup_refreshInstrument] at hlookup
  split at hlookup
  · next huid =>
    obtain rfl := Option.some.inj hlookup
    subst huid
    unfold OKXRefDataAdapter.refreshed
    split
    · exact hinst hvenue
    · next existing hexisting =>
      split
      · exact h _ existing hvenue hexisting
      · exact hinst hvenue
  · exact h uid inst' hvenue hlookup

theorem OnlyTrading.notifyAll {s : RefdataService} (h : OnlyTrading s.registry)
    {insts : List BptCore.Refdata.Instrument}
    (hinsts : ∀ inst ∈ insts, OKXRefdataDecoder.Listed inst) (ts : Nat) :
    OnlyTrading (OKXRefDataAdapter.notifyAll ts s insts).1.registry := by
  induction insts generalizing s with
  | nil => exact h
  | cons inst insts ih =>
    rw [OKXRefDataAdapter.notifyAll_cons]
    exact ih (h.refreshInstrument (fun _ => (hinsts inst List.mem_cons_self).active) ts)
      fun i hi => hinsts i (List.mem_cons_of_mem inst hi)

theorem OnlyTrading.fetchInstrumentListing {s : RefdataService} (h : OnlyTrading s.registry)
    (m : InstrumentMapping) (spot swap : Option Json) (ts : Nat) :
    OnlyTrading (OKXRefDataAdapter.fetchInstrumentListing m spot swap ts s).1.registry :=
  (h.notifyAll OKXRefDataAdapter.listed_of_mem_request ts).notifyAll
    OKXRefDataAdapter.listed_of_mem_request ts

/-- The mapping is loaded anew without a change of the registry. -/
theorem registry_refreshMapping (s : RefdataService) (nowNs : Nat) :
    (s.refreshMapping nowNs).1.registry = s.registry := by
  have hall : ∀ (insts : List BptCore.Refdata.Instrument) (s' : RefdataService),
      (RefdataService.republishInstruments nowNs s' insts).1.registry = s'.registry := by
    intro insts
    induction insts with
    | nil => exact fun s' => rfl
    | cons inst insts ih => exact fun s' => ih (s'.publishDelta .MODIFY inst nowNs).1
  exact hall s.registry.getAll s

namespace ListingSystem

/-- What holds in every state: the consumer has what the registry has. -/
structure Kept (s : ListingSystem) : Prop where
  inSync : view s.consumer = registryView s.service.registry
  onlyTrading : OnlyTrading s.service.registry

theorem Kept.published {s : ListingSystem} (h : s.Kept)
    {out : RefdataService × List RefDataDelta} (hout : Publishes s.service out)
    (honly : OnlyTrading out.1.registry) : (s.published out).1.Kept where
  inSync := by
    show view (out.2.foldl InstrumentCache.applyUpdate s.consumer) = _
    rw [view_replayed, h.inSync]
    exact hout.registry.symm
  onlyTrading := honly

theorem step_poll_of_ready {s : ListingSystem} (hready : s.ready = true) (m : InstrumentMapping)
    (spot swap : Option Json) (nowNs : Nat) :
    s.step (.poll m spot swap nowNs) =
      s.published (OKXRefDataAdapter.fetchInstrumentListing m spot swap nowNs s.service) :=
  if_pos hready

theorem Kept.step {s : ListingSystem} (h : s.Kept) (e : ListingEvent) : (s.step e).1.Kept := by
  cases e with
  | poll m spot swap nowNs =>
    by_cases hready : s.ready = true
    · rw [step_poll_of_ready hready]
      exact h.published (publishes_fetchInstrumentListing m spot swap nowNs s.service)
        (h.onlyTrading.fetchInstrumentListing m spot swap nowNs)
    · rw [show s.step (.poll m spot swap nowNs) = (s, []) from if_neg hready]
      exact h
  | otherVenue other nowNs =>
    exact h.published (publishes_refresh s.service other.inst nowNs)
      (h.onlyTrading.refreshInstrument (fun hvenue => absurd hvenue other.uid) nowNs)
  | refreshMapping nowNs =>
    refine h.published (publishes_refreshMapping s.service nowNs) ?_
    rw [registry_refreshMapping]
    exact h.onlyTrading
  | heartbeat nowNs => exact h.published (publishes_heartbeat s.service nowNs) h.onlyTrading

theorem kept_start (m : InstrumentMapping) (others : List OtherVenueInstrument)
    (spot swap : Option Json) : (start m others spot swap).Kept where
  inSync := view_blocks _
  onlyTrading := by
    have hothers : OnlyTrading (others.foldl (fun r other => r.add other.inst) .empty) := by
      rw [← List.foldl_map]
      refine OnlyTrading.foldl_add (fun uid inst _ h => ?_) fun inst hmem hvenue => ?_
      · cases h
      · obtain ⟨other, -, rfl⟩ := List.mem_map.mp hmem
        exact absurd hvenue other.uid
    show OnlyTrading (OKXRefDataAdapter.fetchSnapshot m spot swap _).1
    unfold OKXRefDataAdapter.fetchSnapshot
    split
    · exact hothers
    · next insts hspot =>
      refine hothers.foldl_add fun inst hmem _ => ?_
      rcases List.mem_append.mp hmem with hmem | hmem
      · exact (OKXRefDataAdapter.listed_of_request hspot inst hmem).active
      · exact (OKXRefDataAdapter.listed_of_mem_request inst hmem).active

/-! ## One poll -/

section Poll

variable {s : ListingSystem} {listing : List BptCore.Refdata.Instrument} {ts : Nat}

/-- The service after a poll with this listing, and its deltas. -/
def poll (s : ListingSystem) (listing : List BptCore.Refdata.Instrument) (ts : Nat) :
    ListingSystem × List RefDataDelta :=
  s.published (OKXRefDataAdapter.notifyAll ts s.service listing)

theorem Kept.poll (h : s.Kept) (hlisted : ∀ inst ∈ listing, OKXRefdataDecoder.Listed inst)
    (ts : Nat) : (s.poll listing ts).1.Kept :=
  h.published (publishes_notifyAll ts s.service listing) (h.onlyTrading.notifyAll hlisted ts)

/-- The consumer has what the registry has. -/
theorem Kept.lookup_consumer (h : s.Kept) (uid : Nat) :
    s.consumer.lookup uid =
      (s.service.registry.instrumentsByUid.lookup uid).map fun inst => ofBlock inst.block :=
  congrFun h.inSync uid

theorem Kept.tradesAtConsumer_iff (h : s.Kept) (inst : Instrument) :
    TradesAtConsumer s.consumer inst ↔
      ∃ i, TradesInRegistry s.service.registry i ∧ ofBlock i.block = inst := by
  constructor
  · intro htrades
    have hstored := htrades.stored
    rw [h.lookup_consumer] at hstored
    obtain ⟨i, hi, rfl⟩ := Option.map_eq_some_iff.mp hstored
    exact ⟨i, ⟨hi, h.onlyTrading _ i htrades.venue hi, htrades.venue⟩, rfl⟩
  · rintro ⟨i, htrades, rfl⟩
    refine ⟨?_, ?_, htrades.venue⟩
    · rw [h.lookup_consumer]
      show Option.map _ (s.service.registry.instrumentsByUid.lookup i.instUid) = _
      rw [htrades.stored]
      rfl
    · show fromSbeStatus (toSbeStatus i.status) = .ACTIVE
      rw [htrades.active]
      rfl

/-- With the same instruments, what is listed is what is stored afterwards. -/
theorem lookup_poll_of_same (hsame : SameInstruments s.service.registry listing)
    {inst : BptCore.Refdata.Instrument} (hmem : inst ∈ listing) :
    (s.poll listing ts).1.service.registry.instrumentsByUid.lookup inst.instUid = some inst := by
  show (OKXRefDataAdapter.notifyAll ts s.service listing).1.registry.instrumentsByUid.lookup _ = _
  rw [OKXRefDataAdapter.lookup_notifyAll_of_mem hmem (hsame.once inst hmem)]
  cases hlookup : s.service.registry.instrumentsByUid.lookup inst.instUid with
  | none => rfl
  | some existing =>
    unfold OKXRefDataAdapter.refreshed
    dsimp only
    split
    · next hcontent => rw [hsame.compared inst hmem existing hlookup hcontent]
    · rfl

theorem registry_of_same (hlisted : ∀ inst ∈ listing, OKXRefdataDecoder.Listed inst)
    (hsame : SameInstruments s.service.registry listing) (inst : BptCore.Refdata.Instrument) :
    TradesInRegistry (s.poll listing ts).1.service.registry inst ↔ inst ∈ listing := by
  constructor
  · intro htrades
    by_cases hmem : ∃ inst' ∈ listing, inst'.instUid = inst.instUid
    · obtain ⟨inst', hmem', huid⟩ := hmem
      have hstored := htrades.stored
      rw [← huid, lookup_poll_of_same hsame hmem'] at hstored
      exact Option.some.inj hstored ▸ hmem'
    · -- it was there before, so it is listed
      have hbefore : s.service.registry.instrumentsByUid.lookup inst.instUid = some inst := by
        rw [← OKXRefDataAdapter.lookup_notifyAll_of_notMem
          (fun i hi huid => hmem ⟨i, hi, huid⟩) ts s.service]
        exact htrades.stored
      exact absurd (hsame.still _ inst htrades.venue hbefore) hmem
  · intro hmem
    exact ⟨lookup_poll_of_same hsame hmem, (hlisted inst hmem).active, (hlisted inst hmem).uid⟩

theorem reflected_of_same (hkept : s.Kept)
    (hlisted : ∀ inst ∈ listing, OKXRefdataDecoder.Listed inst)
    (hsame : SameInstruments s.service.registry listing) :
    Reflected s (s.poll listing ts).1 (s.poll listing ts).2 listing where
  registry := registry_of_same hlisted hsame
  consumer inst := by
    rw [(hkept.poll hlisted ts).tradesAtConsumer_iff]
    simp only [registry_of_same hlisted hsame]
  added inst hmem hnone := absurd hnone (hsame.known inst hmem)
  modified inst hmem existing hlookup hne :=
    OKXRefDataAdapter.modify_of_mem hmem (hsame.once inst hmem) hlookup fun hcontent =>
      hne (hsame.compared inst hmem existing hlookup hcontent)
  gone existing htrades hgone := by
    obtain ⟨inst, hmem, huid⟩ := hsame.still _ existing htrades.venue htrades.stored
    exact absurd huid (hgone inst hmem)

/-- The registry has one instrument under a uid. -/
theorem once_of_reflected
    (h : Reflected s (s.poll listing ts).1 (s.poll listing ts).2 listing) :
    ∀ inst ∈ listing, ∀ inst' ∈ listing, inst'.instUid = inst.instUid → inst' = inst := by
  intro inst hmem inst' hmem' huid
  have hstored := ((h.registry inst).mpr hmem).stored
  have hstored' := ((h.registry inst').mpr hmem').stored
  rw [huid] at hstored'
  exact Option.some.inj (hstored'.symm.trans hstored)

theorem same_of_reflected (hkept : s.Kept)
    (h : Reflected s (s.poll listing ts).1 (s.poll listing ts).2 listing) :
    SameInstruments s.service.registry listing where
  known inst hmem hnone := by
    -- all that the poll publishes are modifications
    obtain ⟨d, hd, hadd, -⟩ := h.added inst hmem hnone
    rw [OKXRefDataAdapter.updateType_of_mem_notifyAll hd] at hadd
    exact absurd hadd (by decide)
  still uid existing hvenue hlookup := by
    by_contra hgone
    obtain rfl := s.service.registry.keyed uid existing hlookup
    have hafter : TradesInRegistry (s.poll listing ts).1.service.registry existing := by
      refine ⟨?_, hkept.onlyTrading _ existing hvenue hlookup, hvenue⟩
      rw [← hlookup]
      exact OKXRefDataAdapter.lookup_notifyAll_of_notMem
        (fun i hi huid => hgone ⟨i, hi, huid⟩) ts s.service
    exact hgone ⟨existing, (h.registry existing).mp hafter, rfl⟩
  once := once_of_reflected h
  compared inst hmem existing hlookup hcontent := by
    have hstored := ((h.registry inst).mpr hmem).stored
    have hafter := OKXRefDataAdapter.lookup_notifyAll_of_mem hmem (once_of_reflected h inst hmem)
      ts s.service
    rw [hlookup, show OKXRefDataAdapter.refreshed (some existing) inst = existing from
      if_pos hcontent] at hafter
    exact Option.some.inj (hafter.symm.trans hstored)

end Poll

/-! ## Runs -/

theorem reflects_iff_findsSame {s : ListingSystem} (hkept : s.Kept) (e : ListingEvent) :
    Reflects s e ↔ FindsSame s e := by
  cases e with
  | poll m spot swap nowNs =>
    refine forall_congr' fun hready => forall_congr' fun listing => forall_congr' fun hlisting => ?_
    have hlisted := OKXRefDataAdapter.listed_of_listings hlisting
    rw [step_poll_of_ready hready, OKXRefDataAdapter.fetchInstrumentListing_of_listings hlisting]
    exact ⟨same_of_reflected hkept, reflected_of_same hkept hlisted⟩
  | otherVenue other nowNs => exact Iff.rfl
  | refreshMapping nowNs => exact Iff.rfl
  | heartbeat nowNs => exact Iff.rfl

/-- **The listings are reflected** after every poll of a run exactly when each poll finds the
instruments that the registry has. -/
theorem reflected_iff (m : InstrumentMapping) (others : List OtherVenueInstrument)
    (spot swap : Option Json) (events : List ListingEvent) :
    AlongRun step Reflects (start m others spot swap) events ↔
      AlongRun step FindsSame (start m others spot swap) events :=
  alongRun_iff_of_kept (J := Kept) (fun _ e hkept _ => hkept.step e)
    (fun _ e hkept => reflects_iff_findsSame hkept e) (kept_start m others spot swap) events

/-- An answer with one instrument in this state, or with none. -/
def spotAnswer (states : List String) : Json :=
  .obj [("code", .str "0"), ("data", .arr (states.map fun state =>
    .obj [("instId", .str "BTC-USDT"), ("state", .str state), ("baseCcy", .str "BTC"),
      ("quoteCcy", .str "USDT"), ("tickSz", .str "0.1"), ("lotSz", .str "0.00001"),
      ("ctVal", .str "")]))]

def spotMapping : InstrumentMapping := ⟨Table.ofPairs [("2_BTC-USDT", 2001)]⟩

def btcUsdt : BptCore.Refdata.Instrument where
  instUid := 200102
  venue := "OKX"
  venueSymbol := "BTC-USDT"
  instType := .SPOT
  base := "BTC"
  quote := "USDT"
  tickSize := 1 / 10
  lotSize := 1 / 100000
  contractMultiplier := 1
  status := .ACTIVE

/-- An instrument that is suspended goes on trading for the registry. -/
theorem not_reflected_of_suspended :
    ¬ AlongRun step Reflects
      (start spotMapping [] (some (spotAnswer ["live"])) (some (spotAnswer [])))
      [.poll spotMapping (some (spotAnswer ["suspend"])) (some (spotAnswer [])) 1] := by
  intro h
  have hreflected := h.1 (by decide +kernel) [] (by decide +kernel)
  have hstored : TradesInRegistry
      ((start spotMapping [] (some (spotAnswer ["live"])) (some (spotAnswer []))).step
        (.poll spotMapping (some (spotAnswer ["suspend"])) (some (spotAnswer [])) 1)).1.service.registry
      btcUsdt := ⟨by decide +kernel, rfl, rfl⟩
  exact absurd ((hreflected.registry btcUsdt).mp hstored) List.not_mem_nil

end ListingSystem

end BptCore.Strategy.Refdata
