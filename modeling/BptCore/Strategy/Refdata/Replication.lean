import BptCore.Lib.Machine
import BptCore.Strategy.Refdata.RegistryChanges

/-!
# Replication of the registry

One refdata service and one client that asks for all instruments. The two streams between them keep
their messages in order, each with a delay of its own, and the delta stream loses some.

* **`Replication`** — the service, the streams and the client, with the log of all deltas and the
  number of the last one that the client has processed.
* **`TakesDelta`** — what the client makes of a delta.
* **`Kept`** — what every run keeps: the log tells how the registry came about, and a snapshot shows
  it as it was.
-/

namespace BptCore.Strategy.Refdata

open BptCore.Refdata ChangeLog Machine

/-! ## The system -/

/-- The requests and the two streams are in flight, in order. -/
structure Replication where
  server : RefdataService := {}
  requests : List RefdataRequest := []
  snapshots : List RefDataSnapshot := []
  deltas : List RefDataDelta := []
  client : AeronRefdataClient := {}
  /-- Every delta and heartbeat that was published, in order. -/
  log : List RefDataDelta := []
  /-- The snapshot that the client took last. -/
  applied : Option RefDataSnapshot := none
  /-- The number of the last delta or heartbeat that the client has processed without signalling a
  gap; 0 while there is none. -/
  processed : Nat := 0

inductive ReplicationEvent where
  /-- A change of the registry. -/
  | change (updateType : Sbe.DeltaUpdateType) (inst : BptCore.Refdata.Instrument) (nowNs : Nat)
  /-- An instrument comes with a listing. -/
  | refresh (inst : BptCore.Refdata.Instrument) (nowNs : Nat)
  | refreshMapping (nowNs : Nat)
  | heartbeat (nowNs : Nat)
  | serveRequest (nowNs : Nat)
  | republish (nowNs : Nat)
  | subscribe (correlationId : Nat)
  | takeSnapshot
  | takeDelta
  /-- The message at this place of the delta stream is lost. -/
  | loseDelta (i : Nat)

namespace Replication

def start (registry : InstrumentRegistry) : Replication :=
  { server := { registry := registry } }

variable (s : Replication)

/-- The service has published deltas. -/
def published (out : RefdataService × List RefDataDelta) : Replication :=
  { s with server := out.1, deltas := s.deltas ++ out.2, log := s.log ++ out.2 }

/-- What the client calls for the delta at the front of the stream signals a gap. -/
def signalsGap (msg : RefDataDelta) : Bool :=
  (s.client.handleDelta msg).2.any fun
    | .gapDetected => true
    | .snapshotComplete _ | .delta _ _ | .removeRates _ => false

/-- What the client has processed, after a delta. One that comes before there is a snapshot is
discarded, and with a gap the client starts over. -/
def processedAfter (msg : RefDataDelta) : Nat :=
  if s.client.cache.snapshotReceived = false then s.processed
  else if s.signalsGap msg then 0
  else msg.deltaSeqNum

def step (s : Replication) : ReplicationEvent → Replication × List RefdataCall
  | .change updateType inst nowNs =>
    let (server, delta) := s.server.changeInstrument updateType inst nowNs
    (s.published (server, [delta]), [])
  | .refresh inst nowNs => (s.published (s.server.refreshInstrument inst nowNs), [])
  | .refreshMapping nowNs => (s.published (s.server.refreshMapping nowNs), [])
  | .heartbeat nowNs =>
    let (server, delta) := s.server.publishHeartbeat nowNs
    (s.published (server, [delta]), [])
  | .serveRequest nowNs =>
    match s.requests with
    | [] => (s, [])
    | request :: requests =>
      ({ s with requests := requests
                snapshots := s.snapshots ++ (s.server.handleRequest request nowNs).toList }, [])
  | .republish nowNs =>
    ({ s with snapshots := s.snapshots ++ (s.server.republishSnapshot nowNs).toList }, [])
  | .subscribe correlationId =>
    -- without filters: the client asks for everything
    let (client, request) := s.client.subscribe correlationId []
    ({ s with client := client, requests := s.requests ++ [request] }, [])
  | .takeSnapshot =>
    match s.snapshots with
    | [] => (s, [])
    | msg :: snapshots =>
      let (client, calls) := s.client.handleSnapshot msg
      ({ s with
         snapshots := snapshots
         client := client
         applied := if msg.correlationId = s.client.correlationId then some msg else s.applied },
        calls)
  | .takeDelta =>
    match s.deltas with
    | [] => (s, [])
    | msg :: deltas =>
      let (client, calls) := s.client.handleDelta msg
      ({ s with deltas := deltas, client := client, processed := s.processedAfter msg }, calls)
  | .loseDelta i => ({ s with deltas := s.deltas.eraseIdx i }, [])

/-! ## What every run keeps -/

/-- The instruments, as the deltas up to a number have left them. -/
def contents (registry : InstrumentRegistry) (s : Replication) (n : Nat) :
    Nat → Option Instrument :=
  upTo (registryView registry) (s.log.map change) n

/-- A snapshot shows the registry as it was at its number. -/
def Shows (registry : InstrumentRegistry) (s : Replication) (msg : RefDataSnapshot) : Prop :=
  msg.snapshotSeqNum ≤ s.log.length ∧
    view (InstrumentCache.instrumentsOf msg.instruments) =
      s.contents registry msg.snapshotSeqNum

structure Kept (registry : InstrumentRegistry) (s : Replication) : Prop where
  numbered : s.log.map RefDataDelta.deltaSeqNum = List.range' 1 s.log.length
  seq : s.server.seq = s.log.length
  current : registryView s.server.registry = s.contents registry s.log.length
  sent : s.deltas.Sublist s.log
  ahead : ∀ msg ∈ s.deltas, s.processed < msg.deltaSeqNum
  processed_le : s.processed ≤ s.log.length
  requests : ∀ r ∈ s.requests, r.canonicalFilters = [] ∧ r.instruments = []
  snapshots : ∀ msg ∈ s.snapshots, s.Shows registry msg
  held : s.client.cache.snapshotReceived = true → ∃ msg, s.applied = some msg ∧
    msg.snapshotSeqNum = s.client.cache.snapshotSeqNum ∧ s.Shows registry msg
  fresh : s.client.cache.snapshotReceived = true →
    s.processed ≤ s.client.cache.snapshotSeqNum →
      view s.client.cache.cache = s.contents registry s.client.cache.snapshotSeqNum

variable {registry : InstrumentRegistry} {s : Replication}

theorem start_kept (registry : InstrumentRegistry) : (start registry).Kept registry where
  numbered := rfl
  seq := rfl
  current := rfl
  sent := .refl _
  ahead := List.forall_mem_nil _
  processed_le := Nat.le_refl 0
  requests := List.forall_mem_nil _
  snapshots := List.forall_mem_nil _
  held h := nomatch h
  fresh h := nomatch h

theorem contents_published (out : RefdataService × List RefDataDelta) {n : Nat}
    (h : n ≤ s.log.length) : (s.published out).contents registry n = s.contents registry n := by
  unfold contents published
  rw [List.map_append]
  exact upTo_append (by rwa [List.length_map]) _ _

theorem Shows.published {msg : RefDataSnapshot} (h : s.Shows registry msg)
    (out : RefdataService × List RefDataDelta) : (s.published out).Shows registry msg := by
  refine ⟨h.1.trans ?_, ?_⟩
  · rw [Replication.published, List.length_append]
    exact Nat.le_add_right _ _
  · rw [contents_published out h.1]
    exact h.2

/-- **The service publishes**: the log and the registry go on together. -/
theorem Kept.published (h : s.Kept registry) {out : RefdataService × List RefDataDelta}
    (hout : Publishes s.server out) : (s.published out).Kept registry where
  numbered := by
    show (s.log ++ out.2).map RefDataDelta.deltaSeqNum = List.range' 1 (s.log ++ out.2).length
    rw [List.map_append, h.numbered, hout.numbers, h.seq, List.length_append, Nat.add_comm,
      List.range'_append_1]
  seq := by
    show out.1.seq = (s.log ++ out.2).length
    rw [hout.seq, h.seq, List.length_append]
  current := by
    show registryView out.1.registry = upTo _ ((s.log ++ out.2).map change) (s.log ++ out.2).length
    rw [← List.length_map change, upTo_length, List.map_append, replay_append, hout.registry,
      h.current, contents, ← List.length_map change, upTo_length]
  sent := h.sent.append (.refl _)
  ahead := by
    intro msg hmsg
    rcases List.mem_append.mp hmsg with hold | hnew
    · exact h.ahead msg hold
    · have hin := List.mem_map_of_mem (f := RefDataDelta.deltaSeqNum) hnew
      rw [hout.numbers, h.seq, List.mem_range'_1] at hin
      have := h.processed_le
      show s.processed < msg.deltaSeqNum
      omega
  processed_le := by
    show s.processed ≤ (s.log ++ out.2).length
    rw [List.length_append]
    exact h.processed_le.trans (Nat.le_add_right _ _)
  requests := h.requests
  snapshots msg hmsg := (h.snapshots msg hmsg).published out
  held hreceived := by
    obtain ⟨msg, happlied, hseq, hshows⟩ := h.held hreceived
    exact ⟨msg, happlied, hseq, hshows.published out⟩
  fresh hreceived hle := by
    obtain ⟨msg, -, hseq, hshows⟩ := h.held hreceived
    show view s.client.cache.cache = (s.published out).contents registry _
    rw [contents_published out (hseq ▸ hshows.1)]
    exact h.fresh hreceived hle

/-- **A snapshot** of everything shows the registry of the moment. -/
theorem Kept.shows (h : s.Kept registry) {request : RefdataRequest}
    (hall : request.canonicalFilters = [] ∧ request.instruments = []) {nowNs : Nat}
    {msg : RefDataSnapshot} (hmsg : msg ∈
      (RefdataSnapshotPublisher.publish s.server.registry request s.server.seq nowNs).toList) :
    s.Shows registry msg := by
  unfold RefdataSnapshotPublisher.publish at hmsg
  dsimp only at hmsg
  split at hmsg
  · cases hmsg
  · obtain rfl := List.mem_singleton.mp hmsg
    show s.server.seq ≤ s.log.length ∧ _ = s.contents registry s.server.seq
    rw [h.seq, ← h.current]
    exact ⟨Nat.le_refl _, view_snapshot s.server.registry hall _ nowNs⟩

/-- Snapshots are sent. -/
theorem Kept.send (h : s.Kept registry) {requests : List RefdataRequest}
    (hrequests : ∀ r ∈ requests, r ∈ s.requests) {msgs : List RefDataSnapshot}
    (hmsgs : ∀ msg ∈ msgs, s.Shows registry msg) :
    ({ s with requests := requests, snapshots := s.snapshots ++ msgs } : Replication).Kept
      registry :=
  { h with
    requests := fun r hr => h.requests r (hrequests r hr)
    snapshots := fun msg hmsg => by
      rcases List.mem_append.mp hmsg with hold | hnew
      · exact h.snapshots msg hold
      · exact hmsgs msg hnew }

/-! ## The client -/

/-- The deltas of the stream have increasing numbers. -/
theorem Kept.front (h : s.Kept registry) {msg : RefDataDelta} {deltas : List RefDataDelta}
    (hdeltas : s.deltas = msg :: deltas) : ∀ msg' ∈ deltas, msg.deltaSeqNum < msg'.deltaSeqNum := by
  have hnumbers := h.sent.map RefDataDelta.deltaSeqNum
  rw [h.numbered] at hnumbers
  have hsorted := List.Pairwise.sublist hnumbers List.pairwise_lt_range'
  rw [hdeltas, List.map_cons, List.pairwise_cons] at hsorted
  exact fun msg' hmsg' => hsorted.1 _ (List.mem_map_of_mem hmsg')

/-- A delta of the stream is in the log, at its number. -/
theorem Kept.logged (h : s.Kept registry) {msg : RefDataDelta} (hmsg : msg ∈ s.deltas) :
    ∃ n, msg.deltaSeqNum = n + 1 ∧ s.log[n]? = some msg := by
  obtain ⟨n, hn⟩ := List.mem_iff_getElem?.mp (h.sent.subset hmsg)
  have hnumber : (s.log.map RefDataDelta.deltaSeqNum)[n]? = some msg.deltaSeqNum := by
    rw [List.getElem?_map, hn]
    rfl
  rw [h.numbered, List.getElem?_range'] at hnumber
  · exact ⟨n, by have := Option.some.inj hnumber; omega, hn⟩
  · exact (List.getElem?_eq_some_iff.mp hn).1

/-- The number of the front of the stream is within the log. -/
theorem Kept.number_le (h : s.Kept registry) {msg : RefDataDelta} (hmsg : msg ∈ s.deltas) :
    msg.deltaSeqNum ≤ s.log.length := by
  obtain ⟨n, hnumber, hn⟩ := h.logged hmsg
  have := (List.getElem?_eq_some_iff.mp hn).1
  omega

theorem signalsGap_iff (s : Replication) (msg : RefDataDelta) :
    s.signalsGap msg = true ↔ RefdataCall.gapDetected ∈ (s.client.handleDelta msg).2 := by
  unfold signalsGap
  rw [List.any_eq_true]
  constructor
  · rintro ⟨call, hcall, hgap⟩
    cases call with
    | gapDetected => exact hcall
    | snapshotComplete all => cases hgap
    | delta inst updateType => cases hgap
    | removeRates instrumentId => cases hgap
  · exact fun h => ⟨_, h, rfl⟩

/-- What a delta makes of the client and of the number it has processed. -/
inductive TakesDelta (s : Replication) (msg : RefDataDelta) (client : AeronRefdataClient)
    (processed : Nat) : Prop where
  | discarded (hnone : s.client.cache.snapshotReceived = false) (hclient : client = s.client)
      (hprocessed : processed = s.processed)
  | stale (hreceived : s.client.cache.snapshotReceived = true)
      (hstale : msg.deltaSeqNum ≤ s.client.cache.snapshotSeqNum)
      (hcache : client.cache = s.client.cache) (hprocessed : processed = msg.deltaSeqNum)
  | gap (hreceived : s.client.cache.snapshotReceived = true) (hgap : s.client.ShowsGap msg)
      (hcache : client.cache = InstrumentCache.reset) (hprocessed : processed = 0)
  | taken (hreceived : s.client.cache.snapshotReceived = true)
      (hnewer : s.client.cache.snapshotSeqNum < msg.deltaSeqNum) (hgap : ¬ s.client.ShowsGap msg)
      (hcache : client.cache.cache = InstrumentCache.applyUpdate s.client.cache.cache msg)
      (hstill : client.cache.snapshotReceived = true)
      (hseq : client.cache.snapshotSeqNum = s.client.cache.snapshotSeqNum)
      (hprocessed : processed = msg.deltaSeqNum)

theorem takesDelta (s : Replication) (msg : RefDataDelta) :
    s.TakesDelta msg (s.client.handleDelta msg).1 (s.processedAfter msg) := by
  unfold processedAfter
  cases hreceived : s.client.cache.snapshotReceived with
  | false =>
    rw [AeronRefdataClient.handleDelta_discarded hreceived]
    exact .discarded hreceived rfl (if_pos rfl)
  | true =>
    rw [if_neg (by simp)]
    by_cases hstale : msg.deltaSeqNum ≤ s.client.cache.snapshotSeqNum
    · obtain ⟨hcache, hnone⟩ := AeronRefdataClient.handleDelta_stale hreceived hstale
      rw [if_neg fun h => hnone ((s.signalsGap_iff msg).mp h)]
      exact .stale hreceived hstale hcache rfl
    · by_cases hgap : s.client.ShowsGap msg
      · have hout := AeronRefdataClient.handleDelta_gap hreceived hgap
        rw [if_pos ((s.signalsGap_iff msg).mpr (by rw [hout]; exact List.mem_cons_self)), hout]
        exact .gap hreceived hgap rfl rfl
      · obtain ⟨hcache, hstill, hseq, hnone⟩ :=
          AeronRefdataClient.handleDelta_taken hreceived (not_le.mp hstale) hgap
        rw [if_neg fun h => hnone ((s.signalsGap_iff msg).mp h)]
        exact .taken hreceived (not_le.mp hstale) hgap hcache hstill hseq rfl

/-- **A delta** leaves what the run keeps. -/
theorem Kept.takeDelta (h : s.Kept registry) {msg : RefDataDelta} {deltas : List RefDataDelta}
    (hdeltas : s.deltas = msg :: deltas) : (s.step .takeDelta).1.Kept registry := by
  have hin : msg ∈ s.deltas := by rw [hdeltas]; exact List.mem_cons_self
  have hahead : ∀ msg' ∈ deltas, msg.deltaSeqNum < msg'.deltaSeqNum := h.front hdeltas
  have hsent : deltas.Sublist s.log :=
    (List.sublist_cons_self msg deltas).trans (hdeltas ▸ h.sent)
  have hold : ∀ msg' ∈ deltas, s.processed < msg'.deltaSeqNum := fun msg' hmsg' =>
    h.ahead msg' (by rw [hdeltas]; exact List.mem_cons_of_mem msg hmsg')
  have hle := h.number_le hin
  have hstep : (s.step .takeDelta).1 =
      { s with deltas := deltas
               client := (s.client.handleDelta msg).1
               processed := s.processedAfter msg } := by
    unfold step
    rw [hdeltas]
  rw [hstep]
  cases s.takesDelta msg with
  | discarded hnone hclient hprocessed =>
    rw [hclient, hprocessed]
    exact { h with sent := hsent, ahead := hold }
  | stale hreceived hstale hcache hprocessed =>
    rw [hprocessed]
    refine { h with
      sent := hsent, ahead := hahead, processed_le := hle, held := ?_, fresh := ?_ }
    · dsimp only
      rw [hcache]
      exact h.held
    · dsimp only
      rw [hcache]
      have hprocessed := h.ahead msg hin
      exact fun hreceived _ => h.fresh hreceived (by omega)
  | gap hreceived hgap hcache hprocessed =>
    rw [hprocessed]
    refine { h with
      sent := hsent, ahead := fun msg' hmsg' => (hold msg' hmsg').trans_le' (Nat.zero_le _)
      processed_le := Nat.zero_le _, held := ?_, fresh := ?_ }
    · dsimp only
      rw [hcache]
      exact fun h => nomatch h
    · dsimp only
      rw [hcache]
      exact fun h => nomatch h
  | taken hreceived hnewer hgap hcache hstill hseq hprocessed =>
    rw [hprocessed]
    refine { h with
      sent := hsent, ahead := hahead, processed_le := hle, held := ?_, fresh := ?_ }
    · dsimp only
      rw [hseq]
      exact fun _ => h.held hreceived
    · dsimp only
      rw [hseq]
      exact fun _ hle => absurd hle (not_le.mpr hnewer)

/-- **A snapshot** that the client takes shows the registry at its number. -/
theorem Kept.takeSnapshot (h : s.Kept registry) {msg : RefDataSnapshot}
    {snapshots : List RefDataSnapshot} (hsnapshots : s.snapshots = msg :: snapshots) :
    (s.step .takeSnapshot).1.Kept registry := by
  have hrest : ∀ msg' ∈ snapshots, s.Shows registry msg' := fun msg' hmsg' =>
    h.snapshots msg' (by rw [hsnapshots]; exact List.mem_cons_of_mem msg hmsg')
  have hshows := h.snapshots msg (by rw [hsnapshots]; exact List.mem_cons_self)
  unfold step
  rw [hsnapshots]
  dsimp only
  unfold AeronRefdataClient.handleSnapshot
  by_cases hown : msg.correlationId = s.client.correlationId
  · rw [if_pos hown, if_neg (not_not.mpr hown)]
    exact { h with
      snapshots := hrest
      held := fun _ => ⟨msg, rfl, rfl, hshows⟩
      fresh := fun _ _ => hshows.2 }
  · rw [if_neg hown, if_pos hown]
    exact { h with snapshots := hrest }

/-- **The step lemma.** -/
theorem Kept.step (h : s.Kept registry) (ev : ReplicationEvent) :
    (s.step ev).1.Kept registry := by
  cases ev with
  | change updateType inst nowNs => exact h.published (publishes_change s.server updateType inst nowNs)
  | refresh inst nowNs => exact h.published (publishes_refresh s.server inst nowNs)
  | refreshMapping nowNs => exact h.published (publishes_refreshMapping s.server nowNs)
  | heartbeat nowNs => exact h.published (publishes_heartbeat s.server nowNs)
  | serveRequest nowNs =>
    unfold Replication.step
    cases hrequests : s.requests with
    | nil => exact h
    | cons request requests =>
      refine h.send (fun r hr => hrequests ▸ List.mem_cons_of_mem request hr) fun msg hmsg => ?_
      exact h.shows (h.requests request (by rw [hrequests]; exact List.mem_cons_self)) hmsg
  | republish nowNs => exact h.send (fun r hr => hr) fun msg hmsg => h.shows ⟨rfl, rfl⟩ hmsg
  | subscribe correlationId =>
    refine { h with requests := fun r hr => ?_ }
    rcases List.mem_append.mp hr with hold | hnew
    · exact h.requests r hold
    · rw [List.mem_singleton.mp hnew]
      exact ⟨rfl, rfl⟩
  | takeSnapshot =>
    cases hsnapshots : s.snapshots with
    | nil =>
      unfold Replication.step
      rw [hsnapshots]
      exact h
    | cons msg snapshots => exact h.takeSnapshot hsnapshots
  | takeDelta =>
    cases hdeltas : s.deltas with
    | nil =>
      unfold Replication.step
      rw [hdeltas]
      exact h
    | cons msg deltas => exact h.takeDelta hdeltas
  | loseDelta i =>
    exact { h with
      sent := (List.eraseIdx_sublist _ _).trans h.sent
      ahead := fun msg hmsg => h.ahead msg (List.mem_of_mem_eraseIdx hmsg) }

end Replication

end BptCore.Strategy.Refdata
