import BptCore.Refdata.RefdataService
import BptCore.Strategy.App.StrategyService
import BptCore.Strategy.Refdata.RefdataClient

/-!
# After a gap

The refdata client with the service as its handler. A gap empties the cache, and from then on every
delta is discarded until a snapshot is taken again.

* **`RefdataNode`** — the client and the service, with the requests that were sent.
* **`Recoverable`** — an empty cache can be filled again.
* **`recoverable_iff`** — it always can along a run exactly when gaps show only while the
  correlation id of the client is that of the broadcasts.
* **`stays_empty`** — where it cannot, the broadcasts never fill it.
-/

namespace BptCore.Strategy

open BptCore.Refdata Machine
open BptCore.Strategy.Refdata (AeronRefdataClient RefdataCall)

/-- The calls that the client makes when a message of one of the two streams arrives. -/
def ServiceEvent.ofRefdataStreams : ServiceEvent → Bool
  | .refdataSnapshotComplete _ _ | .refdataDelta _ _ | .refdataGapDetected => true
  | _ => false

/-- A message of one of the two streams, or anything else that the service is called for. A snapshot
comes with what is saved of the strategy's state. -/
inductive RefdataNodeEvent where
  | snapshot (msg : RefDataSnapshot) (saved : Option String)
  | delta (msg : RefDataDelta)
  | other (ev : ServiceEvent) (h : ev.ofRefdataStreams = false)

/-- What the service subscribes with: first itself, for everything, and then the strategy, when it
is started, with filters of its own. -/
structure SubscribeConfig where
  service : ServiceConfig
  correlationId : Nat
  startFilters : Option (List CanonicalFilter)

structure RefdataNode (S : IStrategy) where
  client : AeronRefdataClient := {}
  service : StrategyService S
  requests : List RefdataRequest := []
  /-- How many requests had been sent when a gap last emptied the cache, while there has been no
  snapshot since. -/
  lostAt : Option Nat := none

namespace RefdataNode

variable {S : IStrategy} (cfg : SubscribeConfig)

def init : RefdataNode S := { service := StrategyService.init cfg.service }

variable (n : RefdataNode S)

def subscribe (filters : List CanonicalFilter) : RefdataNode S :=
  let (client, request) := n.client.subscribe cfg.correlationId filters
  { n with client := client, requests := n.requests ++ [request] }

def ofSbeUpdate : Sbe.DeltaUpdateType → DeltaUpdateType
  | .ADD => .ADD
  | .MODIFY => .MODIFY
  | .REMOVE => .REMOVE

/-- The service takes an event. It subscribes when the startup gate has let it, and when it starts a
strategy that does. -/
def serve (ev : ServiceEvent) : RefdataNode S :=
  let n' := { n with service := (n.service.step cfg.service ev).1 }
  match ev with
  | .startupTick =>
    if n.service.startupGate.mdSubscribeSent = false ∧ n'.service.startupGate.mdSubscribeSent then
      n'.subscribe cfg []
    else n'
  | .refdataSnapshotComplete _ _ =>
    match n.service.startupGate.onRefdataSnapshotComplete.2, cfg.startFilters with
    | true, some filters => n'.subscribe cfg filters
    | _, _ => n'
  | _ => n'

/-- The handler's answer to a call of the client. -/
def handle (saved : Option String) (n : RefdataNode S) : RefdataCall → RefdataNode S
  | .snapshotComplete all => n.serve cfg (.refdataSnapshotComplete all saved)
  | .delta inst updateType => n.serve cfg (.refdataDelta inst (ofSbeUpdate updateType))
  | .gapDetected => n.serve cfg .refdataGapDetected
  -- the caches of the rates, not the handler
  | .removeRates _ => n

def step (n : RefdataNode S) : RefdataNodeEvent → RefdataNode S × List RefdataCall
  | .snapshot msg saved =>
    let (client, calls) := n.client.handleSnapshot msg
    let n := { n with
      client := client
      lostAt := if msg.correlationId = n.client.correlationId then none else n.lostAt }
    (calls.foldl (handle cfg saved) n, calls)
  | .delta msg =>
    let (client, calls) := n.client.handleDelta msg
    let n := { n with
      client := client
      lostAt := if n.client.cache.snapshotReceived = true ∧ n.client.ShowsGap msg then
        some n.requests.length else n.lostAt }
    (calls.foldl (handle cfg none) n, calls)
  | .other ev _ => (n.serve cfg ev, [])

/-- **Recovery is possible**: a request has been sent since the gap, or the next snapshot that the
service broadcasts, whatever it has in its registry by then, is taken. -/
def Recoverable : Prop :=
  ∀ sent, n.lostAt = some sent → sent < n.requests.length ∨
    ∀ (server : RefdataService) nowNs msg, server.republishSnapshot nowNs = some msg →
      (n.client.handleSnapshot msg).1.cache.snapshotReceived = true

/-! ## What a step does to the client -/

/-- The service leaves the cache alone. It leaves the whole client alone, or subscribes. -/
structure Serves (n n' : RefdataNode S) : Prop where
  cache : n'.client.cache = n.client.cache
  lostAt : n'.lostAt = n.lostAt
  sends : (n'.client = n.client ∧ n'.requests = n.requests) ∨
    n'.requests.length = n.requests.length + 1

theorem serves_subscribe (service : StrategyService S) (filters : List CanonicalFilter) :
    n.Serves ({ n with service := service }.subscribe cfg filters) where
  cache := rfl
  lostAt := rfl
  sends := Or.inr List.length_append

theorem serve_serves (ev : ServiceEvent) : n.Serves (n.serve cfg ev) := by
  have hkept : n.Serves { n with service := (n.service.step cfg.service ev).1 } :=
    ⟨rfl, rfl, Or.inl ⟨rfl, rfl⟩⟩
  unfold serve
  dsimp only
  split
  · split
    · exact n.serves_subscribe cfg _ _
    · exact hkept
  · split
    · exact n.serves_subscribe cfg _ _
    · exact hkept
  · exact hkept

/-- The calls for a delta are not about snapshots: the service does not subscribe for them, and not
when a gap is detected either. -/
theorem handle_delta_calls {calls : List RefdataCall}
    (hcalls : ∀ call ∈ calls, ∀ all, call ≠ .snapshotComplete all) (n : RefdataNode S) :
    (calls.foldl (handle cfg none) n).client = n.client ∧
      (calls.foldl (handle cfg none) n).requests = n.requests ∧
      (calls.foldl (handle cfg none) n).lostAt = n.lostAt := by
  induction calls generalizing n with
  | nil => exact ⟨rfl, rfl, rfl⟩
  | cons call calls ih =>
    obtain ⟨hclient, hrequests, hlost⟩ :=
      ih (fun c hc => hcalls c (List.mem_cons_of_mem call hc)) (handle cfg none n call)
    rw [List.foldl_cons, hclient, hrequests, hlost]
    cases call with
    | snapshotComplete all => exact absurd rfl (hcalls _ List.mem_cons_self all)
    | delta inst updateType => exact ⟨rfl, rfl, rfl⟩
    | gapDetected => exact ⟨rfl, rfl, rfl⟩
    | removeRates instrumentId => exact ⟨rfl, rfl, rfl⟩

theorem step_delta (msg : RefDataDelta) :
    (n.step cfg (.delta msg)).1.client = (n.client.handleDelta msg).1 ∧
      (n.step cfg (.delta msg)).1.requests = n.requests ∧
      (n.step cfg (.delta msg)).1.lostAt =
        if n.client.cache.snapshotReceived = true ∧ n.client.ShowsGap msg then
          some n.requests.length else n.lostAt :=
  handle_delta_calls cfg (AeronRefdataClient.snapshotComplete_notMem_handleDelta n.client msg) _

/-- A snapshot that is taken ends the loss, whatever the service then does. -/
theorem step_snapshot (msg : RefDataSnapshot) (saved : Option String) :
    if msg.correlationId = n.client.correlationId then
      (n.step cfg (.snapshot msg saved)).1.lostAt = none
    else (n.step cfg (.snapshot msg saved)).1 = n := by
  unfold step
  dsimp only
  split
  · next hown =>
    rw [AeronRefdataClient.handleSnapshot_own hown]
    let cache := Refdata.InstrumentCache.applySnapshot msg
    exact (serve_serves cfg { n with client := { n.client with cache := cache }, lostAt := none }
      (.refdataSnapshotComplete cache.getAll saved)).lostAt
  · next hown =>
    rw [AeronRefdataClient.handleSnapshot_other hown]
    rfl

/-! ## Recovery -/

/-- What is lost is still lost. -/
def Kept (n : RefdataNode S) : Prop :=
  ∀ sent, n.lostAt = some sent →
    sent ≤ n.requests.length ∧ n.client.cache.snapshotReceived = false

variable {cfg} {n : RefdataNode S}

theorem Serves.kept {n' : RefdataNode S} (h : n.Serves n') (hkept : n.Kept) : n'.Kept := by
  intro sent hsent
  rw [h.lostAt] at hsent
  obtain ⟨hle, hnone⟩ := hkept sent hsent
  refine ⟨?_, by rw [h.cache, hnone]⟩
  rcases h.sends with ⟨-, hsame⟩ | hmore
  · rwa [hsame]
  · omega

/-- The broadcasts carry the correlation id 0. -/
theorem republishSnapshot_correlationId {server : RefdataService} {nowNs : Nat}
    {msg : RefDataSnapshot} (h : server.republishSnapshot nowNs = some msg) :
    msg.correlationId = 0 := by
  unfold RefdataService.republishSnapshot RefdataSnapshotPublisher.publish at h
  dsimp only at h
  split at h
  · cases h
  · rw [← Option.some.inj h]
    rfl

/-- An empty cache takes the broadcasts exactly when the client's own id is theirs. -/
theorem takes_broadcasts_iff {c : AeronRefdataClient} (hnone : c.cache.snapshotReceived = false) :
    (∀ (server : RefdataService) nowNs msg, server.republishSnapshot nowNs = some msg →
      (c.handleSnapshot msg).1.cache.snapshotReceived = true) ↔ c.correlationId = 0 := by
  constructor
  · intro h
    have htaken := h {} 0 _ rfl
    by_contra hid
    rw [AeronRefdataClient.handleSnapshot_other (Ne.symm hid), hnone] at htaken
    cases htaken
  · intro hid server nowNs msg hmsg
    have hown : msg.correlationId = c.correlationId := by
      rw [republishSnapshot_correlationId hmsg, hid]
    rw [AeronRefdataClient.handleSnapshot_own hown]
    rfl

/-- The gaps that show while the client's own id is that of the broadcasts do no harm. -/
def GapsAreHarmless (n : RefdataNode S) : RefdataNodeEvent → Prop
  | .delta msg => n.client.cache.snapshotReceived = true → n.client.ShowsGap msg →
      n.client.correlationId = 0
  | .snapshot _ _ | .other _ _ => True

theorem start_kept : (init cfg : RefdataNode S).Kept := nofun

/-- **The step lemma**, one half: what is lost stays lost. -/
theorem Kept.step (h : n.Kept) (ev : RefdataNodeEvent) : (n.step cfg ev).1.Kept := by
  cases ev with
  | snapshot msg saved =>
    have hstep := n.step_snapshot cfg msg saved
    split at hstep
    · intro sent hsent
      rw [hstep] at hsent
      cases hsent
    · rwa [hstep]
  | delta msg =>
    obtain ⟨hclient, hrequests, hlost⟩ := n.step_delta cfg msg
    intro sent hsent
    rw [hlost] at hsent
    rw [hrequests, hclient]
    split at hsent
    · next hgap =>
      cases hsent
      rw [AeronRefdataClient.handleDelta_gap hgap.1 hgap.2]
      exact ⟨Nat.le_refl _, rfl⟩
    · obtain ⟨hle, hnone⟩ := h sent hsent
      rw [AeronRefdataClient.handleDelta_discarded hnone]
      exact ⟨hle, hnone⟩
  | other ev hother => exact (serve_serves cfg n ev).kept h

/-- The other half: recovery stays possible exactly when the gap is harmless. -/
theorem step_iff (h : n.Kept) (hrecoverable : n.Recoverable) (ev : RefdataNodeEvent) :
    (n.step cfg ev).1.Recoverable ↔ n.GapsAreHarmless ev := by
  cases ev with
  | snapshot msg saved =>
    refine iff_of_true ?_ trivial
    have hstep := n.step_snapshot cfg msg saved
    split at hstep
    · intro sent hsent
      rw [hstep] at hsent
      cases hsent
    · rwa [hstep]
  | delta msg =>
    obtain ⟨hclient, hrequests, hlost⟩ := n.step_delta cfg msg
    unfold Recoverable
    rw [hclient, hrequests, hlost]
    by_cases hgap : n.client.cache.snapshotReceived = true ∧ n.client.ShowsGap msg
    · -- no request has been sent since the gap
      have hout := AeronRefdataClient.handleDelta_gap hgap.1 hgap.2
      have hempty : (n.client.handleDelta msg).1.cache.snapshotReceived = false := by
        rw [hout]
        rfl
      have htakes := takes_broadcasts_iff hempty
      rw [n.client.handleDelta_correlationId msg] at htakes
      rw [if_pos hgap]
      constructor
      · intro hafter _ _
        rcases hafter _ rfl with hsent | hbroadcast
        · exact absurd hsent (lt_irrefl _)
        · exact htakes.mp hbroadcast
      · intro hharmless sent _
        exact Or.inr (htakes.mpr (hharmless hgap.1 hgap.2))
    · rw [if_neg hgap]
      refine iff_of_true (fun sent hsent => ?_) fun hreceived hshows => absurd ⟨hreceived, hshows⟩ hgap
      rw [AeronRefdataClient.handleDelta_discarded (h sent hsent).2]
      exact hrecoverable sent hsent
  | other ev hother =>
    refine iff_of_true (fun sent hsent => ?_) trivial
    have hserves := serve_serves cfg n ev
    have hsent' : n.lostAt = some sent := hserves.lostAt ▸ hsent
    rcases hserves.sends with ⟨hclient, hrequests⟩ | hmore
    · unfold step
      rw [hclient, hrequests]
      exact hrecoverable sent hsent'
    · have := (h sent hsent').1
      exact Or.inl (show sent < (n.serve cfg ev).requests.length by omega)

/-- **When a gap can be recovered from.** Take any run of the client with the service as its
handler. In every state where a gap has left the cache empty, a request has been sent since or the
next broadcast is taken, exactly when gaps show only while the client's correlation id is that of
the broadcasts, 0. -/
theorem recoverable_iff (S : IStrategy) (cfg : SubscribeConfig) (es : List RefdataNodeEvent) :
    AllStates (step cfg) Recoverable (init cfg : RefdataNode S) es ↔
      AlongRun (step cfg) GapsAreHarmless (init cfg : RefdataNode S) es :=
  allStates_iff_alongRun (J := Kept) (fun _ ev h => h.step ev)
    (fun _ ev h hrecoverable => step_iff h hrecoverable ev) start_kept nofun es

/-! ## Without a request

Once the strategy is started nobody subscribes any more, so a cache that does not take the
broadcasts stays as a gap has left it. -/

theorem deliver_startupGate (s : StrategyService S) (calls : List Callback) :
    (s.deliver calls).1.startupGate = s.startupGate :=
  rfl

/-- An active gate stays active, whatever the service is called for. -/
theorem step_active {cfg : ServiceConfig} {s : StrategyService S}
    (h : s.startupGate.phase = .Active) (ev : ServiceEvent) :
    (s.step cfg ev).1.startupGate.phase = .Active := by
  cases ev with
  | bbo tick =>
    show (s.onBbo tick).1.startupGate.phase = _
    unfold StrategyService.onBbo
    split <;> exact h
  | trade tick =>
    show (s.onTrade tick).1.startupGate.phase = _
    unfold StrategyService.onTrade
    split <;> exact h
  | orderBook book =>
    show (s.onOrderBook book).1.startupGate.phase = _
    unfold StrategyService.onOrderBook
    split <;> exact h
  | refdataReady exchangesLoaded =>
    show (s.startupGate.onRefdataReady _ _).phase = _
    unfold StartupGate.onRefdataReady
    split <;> exact h
  | refdataSnapshotComplete all saved =>
    show s.startupGate.onRefdataSnapshotComplete.1.phase = _
    unfold StartupGate.onRefdataSnapshotComplete
    rw [if_pos (by rw [h]; decide)]
    exact h
  | consoleCommand cmd =>
    show (s.onConsoleCommand cmd).startupGate.phase = _
    unfold StrategyService.onConsoleCommand
    split
    · exact h
    · split <;> exact h
  | startupTick =>
    show (s.startupGate.tick _ _).phase = _
    unfold StartupGate.tick
    rw [h]
    exact h
  | checkServiceLiveness nowNs =>
    unfold StrategyService.step StrategyService.checkServiceLiveness
    dsimp only
    split
    · split <;> exact h
    · exact h
  | checkRefdataWatchdog nowNs lastHeartbeatNs =>
    show (s.checkRefdataWatchdog nowNs lastHeartbeatNs).1.startupGate.phase = _
    unfold StrategyService.checkRefdataWatchdog
    split
    · exact h
    · rw [deliver_startupGate]
      exact h
  | mdServiceHeartbeat _ | refdataError | refdataDelta _ _ | refdataGapDetected | volSurface _
  | pricerReady | execReport _ | ogHeartbeat _ | accountSnapshot _ | toxicityUpdate _
  | flattenRequested | shutdownFlatten | flattenTick => exact h

/-- The cache is empty, and neither the broadcasts nor the service will change that. -/
structure Stuck (n : RefdataNode S) : Prop where
  empty : n.client.cache.snapshotReceived = false
  foreign : n.client.correlationId ≠ 0
  started : n.service.startupGate.phase = .Active

/-- The snapshots that come are the broadcasts of the service. -/
def OnlyBroadcasts (_ : RefdataNode S) : RefdataNodeEvent → Prop
  | .snapshot msg _ => ∃ (server : RefdataService) (nowNs : Nat),
      server.republishSnapshot nowNs = some msg
  | .delta _ | .other _ _ => True

theorem Stuck.step (h : n.Stuck) {ev : RefdataNodeEvent} (hev : n.OnlyBroadcasts ev) :
    (n.step cfg ev).1.Stuck := by
  cases ev with
  | snapshot msg saved =>
    obtain ⟨server, nowNs, hmsg⟩ := hev
    have hother : msg.correlationId ≠ n.client.correlationId := by
      rw [republishSnapshot_correlationId hmsg]
      exact h.foreign.symm
    have hstep := n.step_snapshot cfg msg saved
    rw [if_neg hother] at hstep
    rwa [hstep]
  | delta msg =>
    unfold RefdataNode.step
    dsimp only
    rw [AeronRefdataClient.handleDelta_discarded h.empty]
    exact ⟨h.empty, h.foreign, h.started⟩
  | other ev hother =>
    have hstarted : (n.service.step cfg.service ev).1.startupGate.phase = .Active :=
      step_active h.started ev
    have hkept : (n.serve cfg ev).client = n.client ∧
        (n.serve cfg ev).service = (n.service.step cfg.service ev).1 := by
      unfold serve
      dsimp only
      split
      · -- the gate has sent its request, or never will
        have htick : (n.service.step cfg.service .startupTick).1.startupGate =
            n.service.startupGate := by
          show n.service.startupGate.tick _ _ = _
          unfold StartupGate.tick
          rw [h.started]
        rw [if_neg]
        · exact ⟨rfl, rfl⟩
        · rw [htick]
          exact fun hsent => absurd (hsent.1.symm.trans hsent.2) Bool.false_ne_true
      · cases hother
      · exact ⟨rfl, rfl⟩
    refine ⟨?_, ?_, ?_⟩
    · show (n.serve cfg ev).client.cache.snapshotReceived = false
      rw [hkept.1]
      exact h.empty
    · show (n.serve cfg ev).client.correlationId ≠ 0
      rw [hkept.1]
      exact h.foreign
    · show (n.serve cfg ev).service.startupGate.phase = _
      rw [hkept.2]
      exact hstarted

/-- **For good.** From such a state on, however long the service keeps publishing, the client never
has a snapshot again. -/
theorem stays_empty (h : n.Stuck) {es : List RefdataNodeEvent}
    (hes : AlongRun (step cfg) OnlyBroadcasts n es) :
    AllStates (step cfg) (fun n => n.client.cache.snapshotReceived = false) n es :=
  (AllStates.of_assumption (fun _ _ h hev => h.step hev) h hes).imp fun _ h => h.empty

/-! The client takes the snapshot of its request, the strategy is started, and the third delta after
the snapshot comes without the second. -/

namespace GapAfterStart

def quiet : IStrategy where
  State := Unit
  initial := ()
  handle s _ := (s, [])
  sends _ _ := False
  sends_iff _ _ := by simp

def config : SubscribeConfig where
  service := { configuredExchangesMask := 0, hasOrderGw := false, mdStalenessThresholdMs := 5000 }
  correlationId := 2001
  startFilters := some []

def snapshot : RefDataSnapshot where
  correlationId := 2001
  snapshotSeqNum := 4
  timestampNs := 0
  instruments := []

def delta (seq : Nat) : RefDataDelta where
  deltaSeqNum := seq
  timestampNs := 0
  updateType := some .REMOVE
  instrument :=
    { instrumentId := 1, symbol := "", exchange := "", baseCurrency := "", quoteCurrency := ""
      instrumentType := none, status := none, lotSize := 0, tickSize := 0, contractSize := 0
      expiryDate := 0, optionSide := none, strikePrice := 0 }

def events : List RefdataNodeEvent :=
  [.other (.refdataReady 0) rfl, .other .startupTick rfl, .other .startupTick rfl,
    .snapshot snapshot none, .delta (delta 5), .delta (delta 7)]

end GapAfterStart

open GapAfterStart in
theorem not_recoverable :
    ¬ ∀ (S : IStrategy) cfg es, AllStates (step cfg) Recoverable (init cfg : RefdataNode S) es := by
  intro h
  have hfinal : (exec (step config) (init config : RefdataNode quiet) events).Recoverable :=
    (h quiet config events).final
  -- two requests, of the gate and of the strategy, and none after the gap
  rcases hfinal 2 (by decide +kernel) with hsent | hbroadcast
  · exact absurd hsent (by decide +kernel)
  · exact absurd (hbroadcast {} 0 _ rfl) (by decide +kernel)

end RefdataNode

end BptCore.Strategy
