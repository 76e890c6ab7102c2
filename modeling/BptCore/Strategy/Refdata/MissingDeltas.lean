import BptCore.Strategy.Refdata.Replication

/-!
# Missing deltas

The client follows the registry by the numbers of the deltas. A delta that is lost shows at the next
one, unless that is the first after the snapshot, or a heartbeat.

* **`NoneMissing`** — the cache is what all deltas up to the last processed number make of the
  snapshot.
* **`PassesOverNothing`** — what a message passes over does not matter.
* **`none_missing_iff`** — the first holds in every state of a run exactly when the second does at
  every step of it.
-/

namespace BptCore.Strategy.Refdata

open BptCore.Refdata ChangeLog Machine

namespace Replication

/-- The changes with numbers after `a`, up to `b`. -/
def changesBetween (s : Replication) (a b : Nat) : List (Change Nat Instrument) :=
  ((s.log.take b).drop a).map change

/-- **Nothing is missing**: once the client has processed a delta or heartbeat with a number that is
newer than the snapshot it holds, its cache is what all deltas up to that number make of the
snapshot. -/
def NoneMissing (s : Replication) : Prop :=
  ∀ msg, s.applied = some msg → s.client.cache.snapshotReceived = true →
    msg.snapshotSeqNum < s.processed →
      view s.client.cache.cache =
        replay (view (InstrumentCache.instrumentsOf msg.instruments))
          (s.changesBetween msg.snapshotSeqNum s.processed)

variable {registry : InstrumentRegistry} {s : Replication}

theorem replay_changesBetween (registry : InstrumentRegistry) (s : Replication) {a b : Nat}
    (h : a ≤ b) : replay (s.contents registry a) (s.changesBetween a b) = s.contents registry b := by
  unfold contents changesBetween
  rw [upTo_eq_replay h, List.map_drop, List.map_take]

/-- The numbers go up from one delta to the next. -/
theorem contents_next (registry : InstrumentRegistry) {s : Replication} {n : Nat}
    {msg : RefDataDelta} (h : s.log[n]? = some msg) :
    s.contents registry (n + 1) = (change msg).apply (s.contents registry n) := by
  refine upTo_succ ?_ _
  rw [List.getElem?_map, h]
  rfl

/-- In terms of the contents at a number. -/
theorem Kept.noneMissing_iff (h : s.Kept registry)
    (hreceived : s.client.cache.snapshotReceived = true)
    (hnewer : s.client.cache.snapshotSeqNum < s.processed) :
    s.NoneMissing ↔ view s.client.cache.cache = s.contents registry s.processed := by
  obtain ⟨msg, happlied, hseq, hshows⟩ := h.held hreceived
  have hreplay : replay (view (InstrumentCache.instrumentsOf msg.instruments))
      (s.changesBetween msg.snapshotSeqNum s.processed) = s.contents registry s.processed := by
    rw [hshows.2]
    exact replay_changesBetween registry s (by omega)
  constructor
  · intro hmissing
    rw [hmissing msg happlied hreceived (by omega), hreplay]
  · intro hview msg' happlied' _ _
    obtain rfl : msg = msg' := Option.some.inj (happlied.symm.trans happlied')
    rw [hview, hreplay]

/-- Before anything newer than the snapshot is processed, nothing can be missing. -/
theorem Kept.noneMissing_of_le (h : s.Kept registry)
    (hle : s.client.cache.snapshotReceived = true →
      s.processed ≤ s.client.cache.snapshotSeqNum) : s.NoneMissing := by
  intro msg happlied hreceived hnewer
  obtain ⟨msg', happlied', hseq, -⟩ := h.held hreceived
  obtain rfl : msg' = msg := Option.some.inj (happlied'.symm.trans happlied)
  have := hle hreceived
  omega

/-- The number that the cache has come to. -/
def position (s : Replication) : Nat := max s.client.cache.snapshotSeqNum s.processed

theorem Kept.view_position (h : s.Kept registry) (hmissing : s.NoneMissing)
    (hreceived : s.client.cache.snapshotReceived = true) :
    view s.client.cache.cache = s.contents registry s.position := by
  unfold position
  by_cases hle : s.processed ≤ s.client.cache.snapshotSeqNum
  · rw [max_eq_left hle]
    exact h.fresh hreceived hle
  · rw [max_eq_right (not_le.mp hle).le]
    exact (h.noneMissing_iff hreceived (not_le.mp hle)).mp hmissing

/-- What a message passes over does not matter. A delta that is taken without a gap being seen may
pass over deltas: they change no other instrument. A snapshot may be older than what has been
processed: the deltas in between change nothing. -/
def PassesOverNothing (s : Replication) : ReplicationEvent → Prop
  | .takeDelta => ∀ msg, s.deltas.head? = some msg → s.client.cache.snapshotReceived = true →
      s.client.cache.snapshotSeqNum < msg.deltaSeqNum → ¬ s.client.ShowsGap msg →
        ∀ id, ¬ (change msg).Writes id →
          replay (view s.client.cache.cache)
            (s.changesBetween s.position (msg.deltaSeqNum - 1)) id = view s.client.cache.cache id
  | .takeSnapshot => ∀ msg, s.snapshots.head? = some msg →
      msg.correlationId = s.client.correlationId →
        replay (view (InstrumentCache.instrumentsOf msg.instruments))
            (s.changesBetween msg.snapshotSeqNum s.processed) =
          view (InstrumentCache.instrumentsOf msg.instruments)
  | .change _ _ _ | .refresh _ _ | .refreshMapping _ | .heartbeat _ | .serveRequest _
  | .republish _ | .subscribe _ | .loseDelta _ => True

theorem takeDelta_iff (h : s.Kept registry) (hmissing : s.NoneMissing) :
    (s.step .takeDelta).1.NoneMissing ↔ s.PassesOverNothing .takeDelta := by
  cases hdeltas : s.deltas with
  | nil =>
    unfold step PassesOverNothing
    rw [hdeltas]
    exact iff_of_true hmissing fun msg hmsg => nomatch hmsg
  | cons msg deltas =>
    have hafter := h.takeDelta hdeltas
    have hin : msg ∈ s.deltas := by rw [hdeltas]; exact List.mem_cons_self
    have hahead := h.ahead msg hin
    have hclient : (s.step .takeDelta).1.client = (s.client.handleDelta msg).1 := by
      unfold step
      rw [hdeltas]
    have hprocessed' : (s.step .takeDelta).1.processed = s.processedAfter msg := by
      unfold step
      rw [hdeltas]
    have hlog : (s.step .takeDelta).1.log = s.log := by
      unfold step
      rw [hdeltas]
    have hcond : s.PassesOverNothing .takeDelta ↔
        (s.client.cache.snapshotReceived = true →
          s.client.cache.snapshotSeqNum < msg.deltaSeqNum → ¬ s.client.ShowsGap msg →
            ∀ id, ¬ (change msg).Writes id →
              replay (view s.client.cache.cache)
                (s.changesBetween s.position (msg.deltaSeqNum - 1)) id =
                  view s.client.cache.cache id) := by
      unfold PassesOverNothing
      rw [hdeltas]
      exact ⟨fun hall => hall msg rfl, fun hone msg' hmsg' => Option.some.inj hmsg' ▸ hone⟩
    rw [hcond]
    cases s.takesDelta msg with
    | discarded hnone hclient' hprocessed =>
      refine iff_of_true (hafter.noneMissing_of_le fun hreceived => ?_) fun hreceived => ?_
      · rw [hclient, hclient', hnone] at hreceived
        cases hreceived
      · rw [hnone] at hreceived
        cases hreceived
    | stale hreceived hstale hcache hprocessed =>
      refine iff_of_true (hafter.noneMissing_of_le fun _ => ?_) fun _ hnewer => ?_
      · rw [hclient, hprocessed', hprocessed, hcache]
        exact hstale
      · exact absurd hstale (not_le.mpr hnewer)
    | gap hreceived hgap hcache hprocessed =>
      refine iff_of_true (hafter.noneMissing_of_le fun hreceived => ?_) fun _ _ hnot => ?_
      · rw [hprocessed', hprocessed]
        exact Nat.zero_le _
      · exact absurd hgap hnot
    | taken hreceived hnewer hgap hcache hstill hseq hprocessed =>
      obtain ⟨n, hnumber, hn⟩ := h.logged hin
      have hposition : s.position ≤ n := by
        unfold position
        omega
      -- both sides of the cache are the delta applied to something
      have hleft : view (s.step .takeDelta).1.client.cache.cache =
          (change msg).apply (view s.client.cache.cache) := by
        rw [hclient, hcache, view_applyUpdate]
      have hright : (s.step .takeDelta).1.contents registry (s.step .takeDelta).1.processed =
          (change msg).apply (replay (view s.client.cache.cache)
            (s.changesBetween s.position (msg.deltaSeqNum - 1))) := by
        rw [hprocessed', hprocessed, hnumber]
        show upTo _ ((s.step .takeDelta).1.log.map change) (n + 1) = _
        rw [hlog]
        show s.contents registry (n + 1) = _
        rw [contents_next registry hn, h.view_position hmissing hreceived, Nat.add_sub_cancel,
          replay_changesBetween registry s hposition]
      rw [hafter.noneMissing_iff (by rw [hclient]; exact hstill)
        (by rw [hclient, hseq, hprocessed', hprocessed]; exact hnewer), hleft, hright,
        Change.apply_eq_iff]
      exact ⟨fun hsame _ _ _ id hid => (hsame id hid).symm,
        fun hsame id hid => (hsame hreceived hnewer hgap id hid).symm⟩

theorem takeSnapshot_iff (hmissing : s.NoneMissing) :
    (s.step .takeSnapshot).1.NoneMissing ↔ s.PassesOverNothing .takeSnapshot := by
  cases hsnapshots : s.snapshots with
  | nil =>
    unfold step PassesOverNothing
    rw [hsnapshots]
    exact iff_of_true hmissing fun msg hmsg => nomatch hmsg
  | cons msg snapshots =>
    have hcond : s.PassesOverNothing .takeSnapshot ↔
        (msg.correlationId = s.client.correlationId →
          replay (view (InstrumentCache.instrumentsOf msg.instruments))
              (s.changesBetween msg.snapshotSeqNum s.processed) =
            view (InstrumentCache.instrumentsOf msg.instruments)) := by
      unfold PassesOverNothing
      rw [hsnapshots]
      exact ⟨fun hall => hall msg rfl, fun hone msg' hmsg' => Option.some.inj hmsg' ▸ hone⟩
    rw [hcond]
    unfold step AeronRefdataClient.handleSnapshot
    rw [hsnapshots]
    dsimp only
    by_cases hown : msg.correlationId = s.client.correlationId
    · rw [if_pos hown, if_neg (not_not.mpr hown)]
      constructor
      · intro hafter _
        by_cases hnewer : msg.snapshotSeqNum < s.processed
        · exact (hafter msg rfl rfl hnewer).symm
        · -- nothing is in between
          have hnone : s.changesBetween msg.snapshotSeqNum s.processed = [] := by
            unfold changesBetween
            rw [List.drop_eq_nil_of_le ((List.length_take_le _ _).trans (not_lt.mp hnewer))]
            rfl
          rw [hnone, replay_nil]
      · intro hsame msg' hmsg' _ _
        cases hmsg'
        exact (hsame hown).symm
    · rw [if_neg hown, if_pos hown]
      exact iff_of_true hmissing fun hown' => absurd hown' hown

theorem NoneMissing.published (h : s.Kept registry) (hmissing : s.NoneMissing)
    (out : RefdataService × List RefDataDelta) : (s.published out).NoneMissing := by
  intro msg happlied hreceived hnewer
  have hsame : (s.published out).changesBetween msg.snapshotSeqNum s.processed =
      s.changesBetween msg.snapshotSeqNum s.processed := by
    unfold changesBetween Replication.published
    rw [List.take_append_of_le_length h.processed_le]
  show view s.client.cache.cache = replay _ ((s.published out).changesBetween _ s.processed)
  rw [hsame]
  exact hmissing msg happlied hreceived hnewer

/-- A step from a state where nothing is missing leads to one exactly under the condition. -/
theorem step_iff (h : s.Kept registry) (hmissing : s.NoneMissing) (ev : ReplicationEvent) :
    (s.step ev).1.NoneMissing ↔ s.PassesOverNothing ev := by
  cases ev with
  | takeDelta => exact takeDelta_iff h hmissing
  | takeSnapshot => exact takeSnapshot_iff hmissing
  | change updateType inst nowNs => exact iff_of_true (hmissing.published h _) trivial
  | refresh inst nowNs => exact iff_of_true (hmissing.published h _) trivial
  | refreshMapping nowNs => exact iff_of_true (hmissing.published h _) trivial
  | heartbeat nowNs => exact iff_of_true (hmissing.published h _) trivial
  | serveRequest nowNs =>
    refine iff_of_true ?_ trivial
    unfold step
    cases s.requests with
    | nil => exact hmissing
    | cons request requests => exact hmissing
  | republish nowNs => exact iff_of_true hmissing trivial
  | subscribe correlationId => exact iff_of_true hmissing trivial
  | loseDelta i => exact iff_of_true hmissing trivial

/-- A delta with the next number passes over nothing. -/
theorem passesOverNothing_of_next
    (hnext : ∀ msg, s.deltas.head? = some msg → msg.deltaSeqNum = s.position + 1) :
    s.PassesOverNothing .takeDelta := by
  intro msg hmsg _ _ _ id _
  have hnone : s.changesBetween s.position s.position = [] := by
    unfold changesBetween
    rw [List.drop_eq_nil_of_le (List.length_take_le _ _)]
    rfl
  rw [hnext msg hmsg, Nat.add_sub_cancel, hnone, replay_nil]

/-- **When the replica follows the registry.** Take any run of one service and one client that asks
for everything. Its cache is at all times what the deltas make of the snapshot it holds, up to the
last one it has processed, exactly when along the run no message passes over a change that
matters: a delta or heartbeat that the client takes for the next one, or a late snapshot. -/
theorem none_missing_iff (registry : InstrumentRegistry) (es : List ReplicationEvent) :
    AllStates step NoneMissing (start registry) es ↔
      AlongRun step PassesOverNothing (start registry) es :=
  allStates_iff_alongRun (J := Kept registry) (fun _ ev h => h.step ev)
    (fun _ ev h hmissing => step_iff h hmissing ev) (start_kept registry)
    ((start_kept registry).noneMissing_of_le nofun) es

/-! Two instruments are listed after the snapshot, and the delta of the first is lost. The delta of
the second is the first that the client sees. -/

namespace FirstDeltaLost

def instrument (uid : Nat) : BptCore.Refdata.Instrument where
  instUid := uid
  venue := "OKX"
  venueSymbol := "BTC-USDT"
  instType := .SPOT
  base := "BTC"
  quote := "USDT"
  tickSize := 1 / 10
  lotSize := 1 / 1000
  contractMultiplier := 1
  status := .ACTIVE

def events : List ReplicationEvent :=
  [.subscribe 2001, .serveRequest 0, .takeSnapshot, .refresh (instrument 1) 0,
    .refresh (instrument 2) 0, .loseDelta 0, .takeDelta]

end FirstDeltaLost

open FirstDeltaLost in
theorem not_none_missing :
    ¬ ∀ registry es, AllStates step NoneMissing (start registry) es := by
  intro h
  have hmissing : (exec step (start .empty) events).NoneMissing := (h .empty events).final
  have hview := congrFun (hmissing _ rfl rfl (by decide +kernel)) 1
  -- the first instrument is in the registry and not in the cache
  have hcache : (view (exec step (start .empty) events).client.cache.cache 1).isSome = false := by
    decide +kernel
  rw [hview] at hcache
  exact absurd hcache (by decide +kernel)

end Replication

end BptCore.Strategy.Refdata
