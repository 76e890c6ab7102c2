import BptCore.Lib.Machine
import BptCore.Strategy.Refdata.RateCaches
import BptCore.Strategy.Refdata.RegistryChanges

/-!
# What a delta does to the client

The instrument cache knows which deltas are old. The client around it does not ask: it removes the
rates of a removed instrument and looks for somebody to tell whatever the cache made of the delta.

* **`RatedRefdataClient`** — the client with its caches of rates, on its streams.
* **`Ignored`**, **`Taken`** — what an old delta should do, and what the next one should.
* **`NothingLeft`** — no cache has anything under the id of an old delta, and the next one removes
  nothing.
* **`deltas_handled_iff`** — the runs in which every delta is handled as it should be.
-/

namespace BptCore.Strategy.Refdata

open BptCore.Refdata ChangeLog Machine

/-! ## The client with its caches of rates -/

/-- A call of the handler. -/
def RefdataCall.isCallback : RefdataCall → Bool
  | .removeRates _ => false
  | .snapshotComplete _ | .delta _ _ | .gapDetected => true

structure RatedRefdataClient where
  client : AeronRefdataClient := {}
  feeCache : FeeCache
  fundingRateCache : FundingRateCache

/-- What reaches a client that asks for everything. The stream of states goes to the handler and
changes nothing here. -/
inductive RefdataEvent where
  | subscribe (correlationId : Nat)
  | snapshot (msg : RefDataSnapshot)
  | delta (msg : RefDataDelta)
  | feeSchedule (msg : FeeSchedule)
  | fundingRate (msg : FundingRate)

namespace RatedRefdataClient

def init (maxStalenessNs : Nat) : RatedRefdataClient where
  feeCache := { maxStalenessNs := maxStalenessNs }
  fundingRateCache := { maxStalenessNs := maxStalenessNs }

/-- The part of a call that is not the handler's. -/
def perform (c : RatedRefdataClient) : RefdataCall → RatedRefdataClient
  | .removeRates instrumentId =>
    { c with
      feeCache := c.feeCache.remove instrumentId
      fundingRateCache := c.fundingRateCache.remove instrumentId }
  | .snapshotComplete _ | .delta _ _ | .gapDetected => c

/-- The client after the calls, and the callbacks among them. -/
def after (c : RatedRefdataClient) (out : AeronRefdataClient × List RefdataCall) :
    RatedRefdataClient × List RefdataCall :=
  (out.2.foldl perform { c with client := out.1 }, out.2.filter (·.isCallback))

def step (c : RatedRefdataClient) : RefdataEvent → RatedRefdataClient × List RefdataCall
  | .subscribe correlationId => ({ c with client := (c.client.subscribe correlationId []).1 }, [])
  | .snapshot msg => c.after (c.client.handleSnapshot msg)
  | .delta msg => c.after (c.client.handleDelta msg)
  | .feeSchedule msg =>
    let feeCache := c.feeCache.update msg.exchangeId msg.instrumentId msg.makerFeeBps msg.takerFeeBps
      msg.updatedTs
    ({ c with feeCache := feeCache }, [])
  | .fundingRate msg =>
    let fundingRateCache := c.fundingRateCache.update msg.exchangeId msg.instrumentId msg.rateBps
      msg.nextFundingTs msg.collectedTs
    ({ c with fundingRateCache := fundingRateCache }, [])

/-! ## What a delta should do -/

variable (c : RatedRefdataClient) (msg : RefDataDelta)

/-- The snapshot has the delta already. -/
def Old : Prop := msg.deltaSeqNum ≤ c.client.cache.snapshotSeqNum

/-- Newer than the snapshot, and the first or the one after the last. -/
def Next : Prop :=
  c.client.cache.snapshotSeqNum < msg.deltaSeqNum ∧
    (c.client.cache.lastDeltaSeq = 0 ∨ msg.deltaSeqNum = c.client.cache.lastDeltaSeq + 1)

instance : Decidable (c.Old msg) := inferInstanceAs (Decidable (_ ≤ _))

instance : Decidable (c.Next msg) := inferInstanceAs (Decidable (_ ∧ _))

/-- No cache changes and nobody is told. -/
structure Ignored (out : RatedRefdataClient × List RefdataCall) : Prop where
  cache : out.1.client.cache = c.client.cache
  feeCache : out.1.feeCache = c.feeCache
  fundingRateCache : out.1.fundingRateCache = c.fundingRateCache
  callbacks : out.2 = []

/-- Rates by instrument, without those of an instrument that the delta removes. -/
def ratesAfter {V : Type} (rates : Nat → Option V) : Nat → Option V := fun id =>
  if msg.updateType = some .REMOVE ∧ id = msg.instrument.instrumentId then none else rates id

/-- The caches follow the delta and the handler hears of it once. -/
structure Taken (out : RatedRefdataClient × List RefdataCall) : Prop where
  instruments : view out.1.client.cache.cache = (change msg).apply (view c.client.cache.cache)
  lastDeltaSeq : out.1.client.cache.lastDeltaSeq = msg.deltaSeqNum
  exchangeFees : out.1.feeCache.exchangeSlots = c.feeCache.exchangeSlots
  fees : (fun id => out.1.feeCache.perInstrument.lookup id) =
    ratesAfter msg fun id => c.feeCache.perInstrument.lookup id
  fundingRates : (fun id => out.1.fundingRateCache.rates.lookup id) =
    ratesAfter msg fun id => c.fundingRateCache.rates.lookup id
  callback : ∃ inst updateType, inst.instrumentId = msg.instrument.instrumentId ∧
    msg.updateType = some updateType ∧ out.2 = [.delta inst updateType]

/-- An update that comes when there is a snapshot is ignored when it is old and taken when it is
next. -/
def DeltaHandled (c : RatedRefdataClient) : RefdataEvent → Prop
  | .delta msg => msg.updateType ≠ none → c.client.cache.snapshotReceived = true →
      (c.Old msg → c.Ignored (c.step (.delta msg))) ∧
        (c.Next msg → c.Taken msg (c.step (.delta msg)))
  | .subscribe _ | .snapshot _ | .feeSchedule _ | .fundingRate _ => True

/-- Nothing is held under the id of an old delta: no instrument, and no rates if it is a removal.
A delta that is next is no removal. -/
def NothingLeft (c : RatedRefdataClient) : RefdataEvent → Prop
  | .delta msg => msg.updateType ≠ none → c.client.cache.snapshotReceived = true →
      (c.Old msg → c.client.cache.get msg.instrument.instrumentId = none ∧
        (msg.updateType = some .REMOVE →
          c.feeCache.perInstrument.lookup msg.instrument.instrumentId = none ∧
            c.fundingRateCache.rates.lookup msg.instrument.instrumentId = none)) ∧
        (c.Next msg → msg.updateType ≠ some .REMOVE)
  | .subscribe _ | .snapshot _ | .feeSchedule _ | .fundingRate _ => True

/-! ## What it does -/

/-- The callback that an update ends in, if the cache has the instrument then. -/
def callback (cache : InstrumentCache) (id : Nat) (updateType : Sbe.DeltaUpdateType) :
    List RefdataCall :=
  match cache.get id with
  | some inst => [.delta inst updateType]
  | none => []

theorem callback_eq_nil_iff {cache : InstrumentCache} {id : Nat}
    {updateType : Sbe.DeltaUpdateType} : callback cache id updateType = [] ↔ cache.get id = none := by
  unfold callback
  cases cache.get id with
  | none => exact iff_of_true rfl rfl
  | some inst => exact iff_of_false (by simp) (by simp)

/-- The rates go when the update is a removal, whatever the cache made of it. -/
theorem after_updateCalls (client : AeronRefdataClient) (cache : InstrumentCache) (id : Nat)
    (updateType : Sbe.DeltaUpdateType) :
    c.after (client, AeronRefdataClient.updateCalls cache id updateType) =
      ({ client := client
         feeCache := if updateType = .REMOVE then c.feeCache.remove id else c.feeCache
         fundingRateCache :=
           if updateType = .REMOVE then c.fundingRateCache.remove id else c.fundingRateCache },
        callback cache id updateType) := by
  unfold after AeronRefdataClient.updateCalls callback
  by_cases hremove : updateType = .REMOVE
  · rw [if_pos hremove, if_pos hremove, if_pos hremove]
    cases cache.get id <;> rfl
  · rw [if_neg hremove, if_neg hremove, if_neg hremove]
    cases cache.get id <;> rfl

variable {c msg} {updateType : Sbe.DeltaUpdateType}

theorem ignored_iff (hupdate : msg.updateType = some updateType)
    (hreceived : c.client.cache.snapshotReceived = true) (hold : c.Old msg) :
    c.Ignored (c.step (.delta msg)) ↔
      c.client.cache.get msg.instrument.instrumentId = none ∧
        (msg.updateType = some .REMOVE →
          c.feeCache.perInstrument.lookup msg.instrument.instrumentId = none ∧
            c.fundingRateCache.rates.lookup msg.instrument.instrumentId = none) := by
  have hstep : c.step (.delta msg) =
      c.after (c.client, AeronRefdataClient.updateCalls c.client.cache
        msg.instrument.instrumentId updateType) :=
    congrArg c.after (AeronRefdataClient.handleDelta_staleUpdate hreceived hupdate hold)
  rw [hstep, after_updateCalls, hupdate, Option.some_inj]
  constructor
  · rintro ⟨-, hfees, hrates, hcallbacks⟩
    refine ⟨callback_eq_nil_iff.mp hcallbacks, fun hremove => ⟨?_, ?_⟩⟩
    · exact c.feeCache.remove_eq_self_iff.mp ((if_pos hremove).symm.trans hfees)
    · exact c.fundingRateCache.remove_eq_self_iff.mp ((if_pos hremove).symm.trans hrates)
  · rintro ⟨hget, hrates⟩
    refine ⟨rfl, ?_, ?_, callback_eq_nil_iff.mpr hget⟩
    · show ite _ _ _ = _
      split
      · next hremove => exact c.feeCache.remove_eq_self_iff.mpr (hrates hremove).1
      · rfl
    · show ite _ _ _ = _
      split
      · next hremove => exact c.fundingRateCache.remove_eq_self_iff.mpr (hrates hremove).2
      · rfl

/-- The instrument that an update leaves behind, none after a removal. -/
theorem lookup_applyUpdate (t : Table Nat Instrument) (hupdate : msg.updateType = some updateType) :
    (InstrumentCache.applyUpdate t msg).lookup msg.instrument.instrumentId =
      if updateType = .REMOVE then none else some (ofBlock msg.instrument) := by
  have hview := congrFun (view_applyUpdate t msg) msg.instrument.instrumentId
  unfold view change at hview
  rw [hview, hupdate]
  cases updateType with
  | ADD => exact if_pos rfl
  | MODIFY => exact if_pos rfl
  | REMOVE => exact if_pos rfl

theorem ratesAfter_of_ne {V : Type} (hupdate : msg.updateType = some updateType)
    (h : updateType ≠ .REMOVE) (rates : Nat → Option V) : ratesAfter msg rates = rates := by
  funext id
  refine if_neg fun hremove => h ?_
  exact Option.some_inj.mp (hupdate.symm.trans hremove.1)

theorem taken_iff (hupdate : msg.updateType = some updateType)
    (hreceived : c.client.cache.snapshotReceived = true) (hnext : c.Next msg) :
    c.Taken msg (c.step (.delta msg)) ↔ msg.updateType ≠ some .REMOVE := by
  have hstep := congrArg c.after
    (AeronRefdataClient.handleDelta_nextUpdate hreceived hupdate hnext.1 hnext.2)
  have hget := lookup_applyUpdate c.client.cache.cache hupdate
  rw [show c.step (.delta msg) = _ from hstep, after_updateCalls, hupdate, Ne, Option.some_inj]
  constructor
  · -- nothing is left in the cache for the handler to hear of
    rintro ⟨-, -, -, -, -, inst, updateType', -, -, hcallback⟩ hremove
    rw [if_pos hremove] at hget
    unfold callback InstrumentCache.get at hcallback
    rw [hget] at hcallback
    cases hcallback
  · intro hkeep
    rw [if_neg hkeep] at hget
    simp only [if_neg hkeep]
    refine ⟨view_applyUpdate _ _, rfl, rfl, (ratesAfter_of_ne hupdate hkeep _).symm,
      (ratesAfter_of_ne hupdate hkeep _).symm, ofBlock msg.instrument, updateType, rfl, hupdate, ?_⟩
    unfold callback InstrumentCache.get
    rw [hget]

/-- In any state at all. -/
theorem deltaHandled_iff (c : RatedRefdataClient) (ev : RefdataEvent) :
    c.DeltaHandled ev ↔ c.NothingLeft ev := by
  cases ev with
  | delta msg =>
    refine imp_congr_right fun hsome => imp_congr_right fun hreceived => ?_
    obtain ⟨updateType, hupdate⟩ := Option.ne_none_iff_exists'.mp hsome
    exact and_congr (imp_congr_right (ignored_iff hupdate hreceived))
      (imp_congr_right (taken_iff hupdate hreceived))
  | subscribe correlationId => exact Iff.rfl
  | snapshot msg => exact Iff.rfl
  | feeSchedule msg => exact Iff.rfl
  | fundingRate msg => exact Iff.rfl

/-- And so in any run, from any state. -/
theorem alongRun_deltaHandled_iff (c : RatedRefdataClient) (es : List RefdataEvent) :
    AlongRun step DeltaHandled c es ↔ AlongRun step NothingLeft c es :=
  alongRun_congr (J := fun _ => True) (fun _ _ _ => trivial) (fun c ev _ => c.deltaHandled_iff ev)
    trivial es

/-- **When deltas are handled as they should be.** In any run of a client that asks for everything,
old updates do nothing at all and the next ones are applied and told of once, exactly when no old
update finds anything under its id and no next one is a removal. -/
theorem deltas_handled_iff (maxStalenessNs : Nat) (es : List RefdataEvent) :
    AlongRun step DeltaHandled (init maxStalenessNs) es ↔
      AlongRun step NothingLeft (init maxStalenessNs) es :=
  alongRun_deltaHandled_iff _ es

instance (c : RatedRefdataClient) (ev : RefdataEvent) : Decidable (c.NothingLeft ev) :=
  match ev with
  | .delta msg => inferInstanceAs (Decidable (msg.updateType ≠ none → _))
  | .subscribe _ | .snapshot _ | .feeSchedule _ | .fundingRate _ => inferInstanceAs (Decidable True)

/-! A snapshot of number 5 has an instrument, whose fees are known. -/

namespace Removals

def block : InstrumentBlock where
  instrumentId := 1
  symbol := "BTC-USDT"
  exchange := "OKX"
  baseCurrency := "BTC"
  quoteCurrency := "USDT"
  instrumentType := some .SPOT
  status := some .ACTIVE
  lotSize := 1 / 1000
  tickSize := 1 / 10
  contractSize := 1
  expiryDate := 0
  optionSide := some .NA
  strikePrice := 0

def events (deltaSeqNum : Nat) : List RefdataEvent :=
  [.subscribe 2001, .snapshot ⟨2001, 5, 0, [block]⟩, .feeSchedule ⟨some .OKX, 1, 8, 10, 1⟩,
    .delta ⟨deltaSeqNum, 0, some .REMOVE, block⟩]

end Removals

open Removals in
/-- The removal of number 5, which comes late, takes the fees away and tells the handler of an
instrument that is still there. The one of number 6 tells nobody. -/
theorem not_deltas_handled :
    ¬ AlongRun step DeltaHandled (init 0) (events 5) ∧
      ¬ AlongRun step DeltaHandled (init 0) (events 6) := by
  constructor
  · intro hhandled
    exact absurd ((alongRun_deltaHandled_iff _ _).mp hhandled) (by decide +kernel)
  · intro hhandled
    exact absurd ((alongRun_deltaHandled_iff _ _).mp hhandled) (by decide +kernel)

end RatedRefdataClient

end BptCore.Strategy.Refdata
