import BptCore.Backtester.Matching.DrainTimes

/-!
# Simulated time

Market events come in the order of their timestamps. In between, orders are submitted and
cancelled, by the fill callbacks too, at whatever time it then is.

* **`KeepsTime`** — what one event does to the queues and to the clock.
* **`Timeline`** — the engine, with a ledger of the delays it has drawn, and of when each order was
  matched and each report handed over.
* **`OnTime`** — nothing has happened before its delay was over, and what is due has happened.
* **`simulated_time`** — so it is in every state, and the clock never goes back.
-/

namespace BptCore.Backtester

open Machine

namespace MatchingEngine

variable {e : MatchingEngine} {ids : Nat → Prop}

/-! ## One event -/

/-- The order that an event brings in, with the submit-to-match delay that is drawn for it. -/
def takenBy (e : MatchingEngine) : EngineEvent → List (OpenOrder × Nat)
  | .submit o =>
    let o : OpenOrder := { o.order with submittedTs := e.currentTs }
    if e.refuses o then [] else [(o, e.latency e.drawn)]
  | .market _ | .cancel _ _ _ => []

/-- The submits that an event matches, with the clock at each match. -/
def matchesOf (e : MatchingEngine) : EngineEvent → List (PendingSubmit × Nat)
  | .market event => e.dueMatches event.timestampNs
  | .submit o =>
    let o : OpenOrder := { o.order with submittedTs := e.currentTs }
    if e.refuses o then [] else (e.queued o).dueMatches e.currentTs
  | .cancel _ _ _ => []

/-- The fills that an event makes, with the match-to-report delays that are drawn for them. -/
def drawsOf (e : MatchingEngine) (ev : EngineEvent) : List (FillReport × Nat) :=
  reportDraws e.latency (e.drawn + (e.takenBy ev).length) (matchedFills (e.step ev).2)

/-- The reports that an event hands over. -/
def reportsOf (e : MatchingEngine) (ev : EngineEvent) : List PendingFill :=
  let before := e.beforeReports ev
  match ev with
  | .market _ => before.dueReports before.currentTs
  | .submit o =>
    if e.refuses { o.order with submittedTs := e.currentTs } then []
    else before.dueReports before.currentTs
  | .cancel _ _ _ => []

/-- An event moves the clock to its timestamp; nothing else does. -/
def clockAfter (e : MatchingEngine) : EngineEvent → Nat
  | .market event => event.timestampNs
  | .submit _ | .cancel _ _ _ => e.currentTs

/-- Nothing is left that is due by then. -/
def Settled (e : MatchingEngine) (ts : Nat) : Prop :=
  (∀ ps ∈ e.pendingSubmits, ts < ps.scheduledMatchTs) ∧
    ∀ pf ∈ e.pendingFills, ts < pf.scheduledReportTs

/-- What one event does to the queues and to the clock, apart from the books. -/
structure KeepsTime (ids : Nat → Prop) (e : MatchingEngine) (ev : EngineEvent) : Prop where
  clock : (e.step ev).1.currentTs = e.clockAfter ev
  settled : (e.step ev).1.Settled (e.clockAfter ev)
  submits : (((e.matchesOf ev).map Prod.fst ++ (e.step ev).1.pendingSubmits : List PendingSubmit) :
      Multiset PendingSubmit) ≤ (e.pendingSubmits ++ (e.takenBy ev).map scheduledSubmit : List _)
  draws : (e.reportsOf ev ++ (e.step ev).1.pendingFills).Perm
    (e.pendingFills ++ (e.drawsOf ev).map scheduledFill)
  reports : ∀ pf ∈ e.reportsOf ev, pf.scheduledReportTs ≤ e.clockAfter ev
  handed : deliveredFills (e.step ev).2 = (e.reportsOf ev).map PendingFill.fill
  resting : RestingIds ids (e.step ev).1.pending
  matched : ∀ fr ∈ matchedFills (e.step ev).2,
    (∃ m ∈ e.matchesOf ev, m.1.order.orderId = fr.orderId ∧ m.2 = fr.simulationTs) ∨
      ids fr.orderId ∧ fr.simulationTs = e.clockAfter ev

theorem keepsTime_market (h : RestingIds ids e.pending) {event : MarketEvent}
    (hms : ∀ m ∈ e.matchesOf (.market event), ids m.1.order.orderId) :
    KeepsTime ids e (.market event) := by
  -- the stages in turn: submits that are due, the event itself, fills that are due
  let submitted := e.drainPendingSubmits event.timestampNs
  let applied := submitted.1.applyEvent event
  let scheduled := applied.1.scheduleFills applied.2
  have hsubmitted : DrainsSubmits ids event.timestampNs e submitted := drainPendingSubmits_spec h hms
  obtain ⟨happlied, hfills⟩ := applyEvent_acts hsubmitted.resting event
  have hscheduled : scheduled = { applied.1 with
      pendingFills := e.pendingFills ++
        (reportDraws e.latency e.drawn (submitted.2 ++ applied.2)).map scheduledFill
      latency := e.latency
      drawn := e.drawn + submitted.2.length + applied.2.length } := by
    show applied.1.scheduleFills applied.2 = _
    rw [scheduleFills_draws, happlied.fills, happlied.latency, happlied.drawn, hsubmitted.fills,
      hsubmitted.latency, hsubmitted.drawn, reportDraws_append, List.map_append, List.append_assoc]
  have hclock : scheduled.currentTs = event.timestampNs := by
    rw [hscheduled]
    exact happlied.clock
  have hpending : scheduled.pendingFills = e.pendingFills ++
      (e.drawsOf (.market event)).map scheduledFill := by
    rw [hscheduled, drawsOf, step, matchedFills_outputs]
    rfl
  have hsubmits : scheduled.pendingSubmits = submitted.1.pendingSubmits := by
    rw [hscheduled]
    exact happlied.submits
  refine ⟨hclock, ⟨fun ps hps => ?_, fun pf hpf => ?_⟩, ?_, ?_, fun pf hpf => ?_, ?_, ?_, ?_⟩
  · exact hsubmitted.later ps (hsubmits ▸ hps)
  · rw [clockAfter, ← hclock]
    exact DueQueue.lt_of_mem_later hpf
  · show (((e.dueMatches event.timestampNs).map Prod.fst ++ scheduled.pendingSubmits : List _) :
      Multiset PendingSubmit) ≤ (e.pendingSubmits ++ [] : List _)
    rw [hsubmits, List.append_nil, Multiset.coe_eq_coe.mpr hsubmitted.submits]
  · rw [← hpending]
    exact DueQueue.due_append_later_perm _ _ _
  · rw [clockAfter, ← hclock]
    exact DueQueue.le_of_mem_due hpf
  · rw [step, deliveredFills_outputs]
    rfl
  · show RestingIds ids scheduled.pending
    rw [hscheduled]
    exact happlied.resting
  · rw [step, matchedFills_outputs]
    intro fr hfr
    rcases List.mem_append.mp hfr with hearly | hlate
    · exact Or.inl (hsubmitted.matched fr hearly)
    · exact Or.inr (hfills fr hlate)

theorem getLastD_eq {ts : Nat} {times : List Nat} (h : ∀ t ∈ times, t = ts) :
    times.getLastD ts = ts := by
  rw [List.getLastD_eq_getLast?]
  cases hlast : times.getLast? with
  | none => rfl
  | some t => exact h t (List.mem_of_getLast? hlast)

theorem keepsTime_refused (h : RestingIds ids e.pending) (hsettled : e.Settled e.currentTs)
    {o : Submission} (hrefuses : e.refuses { o.order with submittedTs := e.currentTs } = true) :
    KeepsTime ids e (.submit o) := by
  have hstep : e.step (.submit o) = (e, []) := by
    rw [step, submitOrder_of_refuses hrefuses]
    rfl
  have htaken : e.takenBy (.submit o) = [] := if_pos hrefuses
  have hmatches : e.matchesOf (.submit o) = [] := if_pos hrefuses
  have hreports : e.reportsOf (.submit o) = [] := if_pos hrefuses
  have hdraws : e.drawsOf (.submit o) = [] := by
    rw [drawsOf, hstep]
    rfl
  refine ⟨?_, ?_, ?_, ?_, ?_, ?_, ?_, ?_⟩
  · rw [hstep]
    rfl
  · rwa [hstep]
  · rw [hstep, htaken, hmatches, List.map_nil, List.map_nil, List.nil_append, List.append_nil]
  · rw [hstep, hreports, hdraws, List.map_nil, List.nil_append, List.append_nil]
  · rw [hreports]
    exact fun pf hpf => absurd hpf List.not_mem_nil
  · rw [hstep, hreports]
    rfl
  · rwa [hstep]
  · rw [hstep]
    exact fun fr hfr => absurd hfr List.not_mem_nil

theorem keepsTime_taken (h : RestingIds ids e.pending) {o : Submission}
    (hrefuses : e.refuses { o.order with submittedTs := e.currentTs } = false)
    (hms : ∀ m ∈ e.matchesOf (.submit o), ids m.1.order.orderId) :
    KeepsTime ids e (.submit o) := by
  let queued := e.queued { o.order with submittedTs := e.currentTs }
  let submitted := queued.drainPendingSubmits e.currentTs
  have hnot : ¬ e.refuses { o.order with submittedTs := e.currentTs } = true := by simp [hrefuses]
  have htaken : e.takenBy (.submit o) =
      [({ o.order with submittedTs := e.currentTs }, e.latency e.drawn)] := if_neg hnot
  have hmatches : e.matchesOf (.submit o) = queued.dueMatches e.currentTs := if_neg hnot
  have hbefore : e.beforeReports (.submit o) = submitted.1 := if_neg hnot
  have hreports : e.reportsOf (.submit o) = submitted.1.dueReports submitted.1.currentTs := by
    rw [← hbefore]
    exact if_neg hnot
  have hstep : e.step (.submit o) = ((submitted.1.drainPendingFills submitted.1.currentTs).1,
      Outcome.outputs
        { engine := (submitted.1.drainPendingFills submitted.1.currentTs).1
          matched := submitted.2
          deliveries := (submitted.1.dueReports submitted.1.currentTs).map PendingFill.fill }) := by
    rw [step, submitOrder_of_not_refuses hrefuses]
    rfl
  rw [hmatches] at hms
  have hsubmitted : DrainsSubmits ids e.currentTs queued submitted :=
    drainPendingSubmits_spec (show RestingIds ids queued.pending from h) hms
  -- the drain is up to the clock, so the clock stays
  have hclock : submitted.1.currentTs = e.currentTs := by
    rw [hsubmitted.clock]
    refine getLastD_eq fun t ht => ?_
    obtain ⟨m, hm, rfl⟩ := List.mem_map.mp ht
    have hbounds : e.currentTs ≤ m.2 ∧ _ ∧ m.2 ≤ max e.currentTs e.currentTs := matchTimes_bounds hm
    rw [max_self] at hbounds
    exact le_antisymm hbounds.2.2 hbounds.1
  have hpending : submitted.1.pendingFills = e.pendingFills ++
      (e.drawsOf (.submit o)).map scheduledFill := by
    rw [hsubmitted.fills, drawsOf, htaken, hstep, matchedFills_outputs]
    rfl
  refine ⟨?_, ⟨fun ps hps => ?_, fun pf hpf => ?_⟩, ?_, ?_, fun pf hpf => ?_, ?_, ?_, ?_⟩
  · rw [hstep]
    exact hclock
  · rw [hstep] at hps
    exact hsubmitted.later ps hps
  · rw [hstep] at hpf
    rw [clockAfter, ← hclock]
    exact DueQueue.lt_of_mem_later hpf
  · rw [hstep, hmatches, htaken]
    exact le_of_eq (Multiset.coe_eq_coe.mpr hsubmitted.submits)
  · rw [hstep, hreports, ← hpending]
    exact DueQueue.due_append_later_perm _ _ _
  · rw [hreports] at hpf
    rw [clockAfter, ← hclock]
    exact DueQueue.le_of_mem_due hpf
  · rw [hstep, hreports, deliveredFills_outputs]
  · rw [hstep]
    exact hsubmitted.resting
  · rw [hstep, matchedFills_outputs, hmatches]
    exact fun fr hfr => Or.inl (hsubmitted.matched fr hfr)

theorem cancelOrder_acts (h : RestingIds ids e.pending) (exchange symbol : String) (orderId : Nat) :
    let out := (e.cancelOrder exchange symbol orderId).1
    out.currentTs = e.currentTs ∧ out.pendingSubmits.Sublist e.pendingSubmits ∧
      RestingIds ids out.pending := by
  unfold cancelOrder
  dsimp only
  split
  · refine ⟨rfl, .refl _, h.insert _ fun o ho => ?_⟩
    exact h (key exchange symbol) o (List.mem_of_mem_eraseP ho)
  · split
    · exact ⟨rfl, List.eraseP_sublist, h⟩
    · exact ⟨rfl, .refl _, h⟩

theorem keepsTime_cancel (h : RestingIds ids e.pending) (hsettled : e.Settled e.currentTs)
    (exchange symbol : String) (orderId : Nat) :
    KeepsTime ids e (.cancel exchange symbol orderId) := by
  obtain ⟨hclock, hsubmits, hresting⟩ := cancelOrder_acts h exchange symbol orderId
  have hfills := e.cancelOrder_pendingFills exchange symbol orderId
  refine ⟨hclock, ⟨fun ps hps => hsettled.1 ps (hsubmits.subset hps), fun pf hpf => ?_⟩, ?_, ?_,
    fun pf hpf => (nomatch hpf), rfl, hresting, fun fr hfr => nomatch hfr⟩
  · exact hsettled.2 pf (hfills ▸ hpf)
  · show (((e.cancelOrder exchange symbol orderId).1.pendingSubmits : List _) :
      Multiset PendingSubmit) ≤ (e.pendingSubmits ++ [] : List _)
    rw [List.append_nil]
    exact Multiset.coe_le.mpr hsubmits.subperm
  · show (e.cancelOrder exchange symbol orderId).1.pendingFills.Perm (e.pendingFills ++ [])
    rw [hfills, List.append_nil]

/-- **The step lemma.** -/
theorem step_keepsTime (h : RestingIds ids e.pending) (hsettled : e.Settled e.currentTs)
    {ev : EngineEvent} (hms : ∀ m ∈ e.matchesOf ev, ids m.1.order.orderId) : KeepsTime ids e ev := by
  cases ev with
  | market event => exact keepsTime_market h hms
  | submit o =>
    cases hrefuses : e.refuses { o.order with submittedTs := e.currentTs } with
    | true => exact keepsTime_refused h hsettled hrefuses
    | false => exact keepsTime_taken h hrefuses hms
  | cancel exchange symbol orderId => exact keepsTime_cancel h hsettled exchange symbol orderId

/-- An event is no earlier than the clock. -/
def NotBefore (e : MatchingEngine) : EngineEvent → Prop
  | .market event => e.currentTs ≤ event.timestampNs
  | .submit _ | .cancel _ _ _ => True

theorem le_clockAfter {ev : EngineEvent} (h : e.NotBefore ev) : e.currentTs ≤ e.clockAfter ev := by
  cases ev with
  | market event => exact h
  | submit o => exact le_refl _
  | cancel exchange symbol orderId => exact le_refl _

/-- The matches of an event are within the time that it takes, and none is early. -/
theorem matchesOf_bounds {ev : EngineEvent} (h : e.NotBefore ev) {m : PendingSubmit × Nat}
    (hm : m ∈ e.matchesOf ev) :
    e.currentTs ≤ m.2 ∧ m.1.scheduledMatchTs ≤ m.2 ∧ m.2 ≤ e.clockAfter ev := by
  cases ev with
  | market event =>
    have hbounds := matchTimes_bounds hm
    rw [max_eq_right h] at hbounds
    exact hbounds
  | submit o =>
    unfold matchesOf at hm
    dsimp only at hm
    split at hm
    · cases hm
    · have hbounds : e.currentTs ≤ m.2 ∧ _ ∧ m.2 ≤ max e.currentTs e.currentTs :=
        matchTimes_bounds hm
      rwa [max_self] at hbounds
  | cancel exchange symbol orderId => cases hm

theorem matchesOf_pairwise (ev : EngineEvent) :
    ((e.matchesOf ev).map Prod.snd).Pairwise (· ≤ ·) := by
  cases ev with
  | market event => exact matchTimes_pairwise _ _ _
  | submit o =>
    unfold matchesOf
    dsimp only
    split
    · exact .nil
    · exact matchTimes_pairwise _ _ _
  | cancel exchange symbol orderId => exact .nil

/-- The readings of the clock in an event: before it, at each match, and after it. -/
def readings (e : MatchingEngine) (ev : EngineEvent) : List Nat :=
  e.currentTs :: ((e.matchesOf ev).map Prod.snd ++ [(e.step ev).1.currentTs])

theorem readings_pairwise {ev : EngineEvent} (h : e.NotBefore ev)
    (hclock : (e.step ev).1.currentTs = e.clockAfter ev) : (e.readings ev).Pairwise (· ≤ ·) := by
  have hmatch : ∀ t ∈ (e.matchesOf ev).map Prod.snd, e.currentTs ≤ t ∧ t ≤ e.clockAfter ev :=
    fun t ht => by
      obtain ⟨m, hm, rfl⟩ := List.mem_map.mp ht
      exact ⟨(matchesOf_bounds h hm).1, (matchesOf_bounds h hm).2.2⟩
  unfold readings
  rw [hclock, List.pairwise_cons, List.pairwise_append]
  refine ⟨fun t ht => ?_, matchesOf_pairwise ev, List.pairwise_singleton _ _, fun t ht t' ht' => ?_⟩
  · rcases List.mem_append.mp ht with hin | hlast
    · exact (hmatch t hin).1
    · rw [List.mem_singleton.mp hlast]
      exact le_clockAfter h
  · rw [List.mem_singleton.mp ht']
    exact (hmatch t ht).2

end MatchingEngine

/-! ## The run -/

open MatchingEngine

/-- The engine, with what it has drawn and when it has acted. -/
structure Timeline where
  engine : MatchingEngine
  /-- The orders that were taken, each with the submit-to-match delay drawn for it. -/
  taken : List (OpenOrder × Nat) := []
  /-- The submits that were matched, each with the clock at its match. -/
  matched : List (PendingSubmit × Nat) := []
  /-- The fills, each with the match-to-report delay drawn for it. -/
  filled : List (FillReport × Nat) := []
  /-- The reports that were handed over, each with the clock of the drain. -/
  reported : List (PendingFill × Nat) := []

namespace Timeline

def start (latency : Nat → Nat) : Timeline := { engine := MatchingEngine.start latency }

def step (t : Timeline) (ev : EngineEvent) : Timeline × List EngineOutput :=
  let e := t.engine
  ({ engine := (e.step ev).1
     taken := t.taken ++ e.takenBy ev
     matched := t.matched ++ e.matchesOf ev
     filled := t.filled ++ e.drawsOf ev
     reported := t.reported ++ (e.reportsOf ev).map fun pf => (pf, (e.step ev).1.currentTs) },
    (e.step ev).2)

/-- Nothing is early, and nothing is left that is due. -/
structure OnTime (t : Timeline) : Prop where
  /-- What waits or was matched was taken, and is due once its delay is over. -/
  submits : ((t.matched.map Prod.fst ++ t.engine.pendingSubmits : List PendingSubmit) :
    Multiset PendingSubmit) ≤ (t.taken.map scheduledSubmit : List PendingSubmit)
  /-- No order is matched before it is due. -/
  matched : ∀ m ∈ t.matched, m.1.scheduledMatchTs ≤ m.2 ∧ m.2 ≤ t.engine.currentTs
  /-- A fill is that of an order that has been matched by then. -/
  filled : ∀ x ∈ t.filled, ∃ m ∈ t.matched, m.1.order.orderId = x.1.orderId ∧
    m.2 ≤ x.1.simulationTs ∧ x.1.simulationTs ≤ t.engine.currentTs
  /-- What waits or was reported is a fill, and is due once its delay is over. -/
  reports : (t.reported.map Prod.fst ++ t.engine.pendingFills).Perm (t.filled.map scheduledFill)
  /-- No report is handed over before it is due. -/
  reported : ∀ r ∈ t.reported, r.1.scheduledReportTs ≤ r.2 ∧ r.2 ≤ t.engine.currentTs
  /-- What rests has been matched. -/
  resting : RestingIds (fun id => ∃ m ∈ t.matched, m.1.order.orderId = id) t.engine.pending
  settled : t.engine.Settled t.engine.currentTs

theorem start_onTime (latency : Nat → Nat) : (start latency).OnTime where
  submits := le_refl _
  matched := List.forall_mem_nil _
  filled := List.forall_mem_nil _
  reports := .refl _
  reported := List.forall_mem_nil _
  resting _ := List.forall_mem_nil _
  settled := ⟨List.forall_mem_nil _, List.forall_mem_nil _⟩

/-- The ids of the orders that are matched, up to the end of an event. -/
def matchedBy (t : Timeline) (ev : EngineEvent) (id : Nat) : Prop :=
  ∃ m ∈ t.matched ++ t.engine.matchesOf ev, m.1.order.orderId = id

theorem OnTime.keepsTime {t : Timeline} (h : t.OnTime) (ev : EngineEvent) :
    KeepsTime (t.matchedBy ev) t.engine ev := by
  refine step_keepsTime (h.resting.imp fun id hid => ?_) h.settled fun m hm => ?_
  · obtain ⟨m, hm, hid⟩ := hid
    exact ⟨m, List.mem_append_left _ hm, hid⟩
  · exact ⟨m, List.mem_append_right _ hm, rfl⟩

theorem mem_drawsOf {e : MatchingEngine} {ev : EngineEvent} {x : FillReport × Nat}
    (hx : x ∈ e.drawsOf ev) : x.1 ∈ matchedFills (e.step ev).2 := by
  have hdraws : ∀ n fills, (reportDraws e.latency n fills).map Prod.fst = fills := fun n fills => by
    induction fills generalizing n with
    | nil => rfl
    | cons fill fills ih => rw [reportDraws, List.map_cons, ih]
  rw [← hdraws (e.drawn + (e.takenBy ev).length) (matchedFills (e.step ev).2)]
  exact List.mem_map_of_mem hx

/-- **The step lemma.** -/
theorem OnTime.step {t : Timeline} (h : t.OnTime) {ev : EngineEvent}
    (hdue : t.engine.NotBefore ev) : (t.step ev).1.OnTime := by
  have hkeeps := h.keepsTime ev
  have hclock : (t.step ev).1.engine.currentTs = t.engine.clockAfter ev := hkeeps.clock
  have hle : t.engine.currentTs ≤ t.engine.clockAfter ev := le_clockAfter hdue
  -- what was matched before, and what is matched now
  have hmatched : ∀ m ∈ t.matched ++ t.engine.matchesOf ev,
      m.1.scheduledMatchTs ≤ m.2 ∧ m.2 ≤ t.engine.clockAfter ev := fun m hm => by
    rcases List.mem_append.mp hm with hold | hnew
    · exact ⟨(h.matched m hold).1, (h.matched m hold).2.trans hle⟩
    · exact (matchesOf_bounds hdue hnew).2
  refine ⟨?_, ?_, fun x hx => ?_, ?_, fun r hr => ?_, hkeeps.resting, ?_⟩
  · show (((t.matched ++ t.engine.matchesOf ev).map Prod.fst ++ (t.engine.step ev).1.pendingSubmits :
      List _) : Multiset PendingSubmit) ≤
        ((t.taken ++ t.engine.takenBy ev).map scheduledSubmit : List _)
    rw [List.map_append, List.map_append, List.append_assoc, ← Multiset.coe_add,
      ← Multiset.coe_add]
    calc ((t.matched.map Prod.fst : List _) : Multiset PendingSubmit) +
          ((t.engine.matchesOf ev).map Prod.fst ++ (t.engine.step ev).1.pendingSubmits : List _)
        ≤ (t.matched.map Prod.fst : List _) +
          (t.engine.pendingSubmits ++ (t.engine.takenBy ev).map scheduledSubmit : List _) :=
          add_le_add_right hkeeps.submits _
      _ = (t.matched.map Prod.fst ++ t.engine.pendingSubmits : List _) +
          ((t.engine.takenBy ev).map scheduledSubmit : List _) := by
          rw [← Multiset.coe_add, ← Multiset.coe_add, add_assoc]
      _ ≤ _ := add_le_add_left h.submits _
  · rw [hclock]
    exact hmatched
  · rw [hclock]
    rcases List.mem_append.mp hx with hold | hnew
    · obtain ⟨m, hm, hid, hts, hnow⟩ := h.filled x hold
      exact ⟨m, List.mem_append_left _ hm, hid, hts, hnow.trans hle⟩
    · rcases hkeeps.matched x.1 (mem_drawsOf hnew) with ⟨m, hm, hid, hts⟩ | ⟨⟨m, hm, hid⟩, hts⟩
      · have hbounds := matchesOf_bounds hdue hm
        exact ⟨m, List.mem_append_right _ hm, hid, hts.le, hts ▸ hbounds.2.2⟩
      · exact ⟨m, hm, hid, hts ▸ (hmatched m hm).2, hts.le⟩
  · show ((t.reported ++ _).map Prod.fst ++ (t.engine.step ev).1.pendingFills).Perm
      ((t.filled ++ t.engine.drawsOf ev).map scheduledFill)
    rw [List.map_append, List.map_map, List.map_append, List.append_assoc,
      show (Prod.fst ∘ fun pf : PendingFill => (pf, (t.engine.step ev).1.currentTs)) = id from rfl,
      List.map_id]
    refine (hkeeps.draws.append_left _).trans ?_
    rw [← List.append_assoc]
    exact h.reports.append_right _
  · rw [hclock]
    rcases List.mem_append.mp hr with hold | hnew
    · exact ⟨(h.reported r hold).1, (h.reported r hold).2.trans hle⟩
    · obtain ⟨pf, hpf, rfl⟩ := List.mem_map.mp hnew
      refine ⟨?_, hkeeps.clock.le⟩
      show pf.scheduledReportTs ≤ (t.engine.step ev).1.currentTs
      rw [hkeeps.clock]
      exact hkeeps.reports pf hpf
  · rw [hclock]
    exact hkeeps.settled

/-- The timestamps of the market events. -/
def marketTimes (es : List EngineEvent) : List Nat :=
  es.filterMap fun
    | .market event => some event.timestampNs
    | .submit _ | .cancel _ _ _ => none

/-- Market events in the order of their timestamps find the clock no later than they are. -/
theorem alongRun_notBefore {t : Timeline} (h : t.OnTime) {es : List EngineEvent}
    (hordered : (marketTimes es).Pairwise (· ≤ ·))
    (hlater : ∀ ts ∈ marketTimes es, t.engine.currentTs ≤ ts) :
    AlongRun step (fun t ev => t.engine.NotBefore ev) t es := by
  induction es generalizing t with
  | nil => trivial
  | cons ev es ih =>
    have hclock : (t.step ev).1.engine.currentTs = t.engine.clockAfter ev := (h.keepsTime ev).clock
    cases ev with
    | market event =>
      have hcons : marketTimes (.market event :: es) = event.timestampNs :: marketTimes es := rfl
      rw [hcons] at hordered hlater
      have hdue : t.engine.NotBefore (.market event) := hlater _ List.mem_cons_self
      refine ⟨hdue, ih (h.step hdue) (List.pairwise_cons.mp hordered).2 ?_⟩
      rw [hclock]
      exact (List.pairwise_cons.mp hordered).1
    | submit o => exact ⟨trivial, ih (h.step trivial) hordered (hclock ▸ hlater)⟩
    | cancel exchange symbol orderId =>
      exact ⟨trivial, ih (h.step trivial) hordered (hclock ▸ hlater)⟩

/-- The clock only goes forward in an event, and what is due by a market event is gone after it. -/
def KeepsClock (t : Timeline) (ev : EngineEvent) : Prop :=
  (t.engine.readings ev).Pairwise (· ≤ ·) ∧
    ∀ event, ev = .market event → (t.engine.step ev).1.Settled event.timestampNs

/-- **Simulated time.** Take any run of the engine whose market events come in the order of their
timestamps, under any latency; orders are submitted and cancelled in between at will. In every
state nothing has been matched or reported before its delay was over, and nothing that is due is
left; and no event turns the clock back. -/
theorem simulated_time (latency : Nat → Nat) (es : List EngineEvent)
    (hordered : (marketTimes es).Pairwise (· ≤ ·)) :
    AllStates step OnTime (start latency) es ∧ AlongRun step KeepsClock (start latency) es := by
  have hdue := alongRun_notBefore (start_onTime latency) hordered fun ts _ => Nat.zero_le ts
  have hkept : ∀ (t : Timeline) ev, t.OnTime → t.engine.NotBefore ev → (t.step ev).1.OnTime :=
    fun t ev h hdue => h.step hdue
  refine ⟨.of_assumption hkept (start_onTime latency) hdue,
    .of_assumption hkept (fun t ev h hdue => ?_) (start_onTime latency) hdue⟩
  have hkeeps := h.keepsTime ev
  refine ⟨readings_pairwise hdue hkeeps.clock, ?_⟩
  rintro event rfl
  exact hkeeps.settled

/-! The buy takes 3 nanoseconds to be matched and its fill 10 to be reported. -/

namespace DelayedBuy

def latency (n : Nat) : Nat := if n = 0 then 3 else 10

def quote (timestampNs : Nat) : MarketEvent :=
  .orderBook
    { timestampNs := timestampNs, exchange := "OKX", symbol := "BTC"
      bidPx := ![98, 0, 0, 0, 0], bidSz := ![1, 0, 0, 0, 0]
      askPx := ![99, 0, 0, 0, 0], askSz := ![2, 0, 0, 0, 0] }

def events : List EngineEvent :=
  [.market (quote 1), .submit HalfEaten.buy, .market (quote 3), .market (quote 5),
    .market (quote 14)]

end DelayedBuy

open DelayedBuy in
theorem simulated_time_delayedBuy :
    (exec step (start latency) events).matched.map Prod.snd = [4] ∧
      (exec step (start latency) events).reported.map Prod.snd = [14] ∧
      AllStates step OnTime (start latency) events ∧
      AlongRun step KeepsClock (start latency) events :=
  ⟨by decide +kernel, by decide +kernel, simulated_time latency events (by decide)⟩

end Timeline

end BptCore.Backtester
