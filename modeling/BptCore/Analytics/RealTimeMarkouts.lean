import BptCore.Analytics.AnalyticsService
import Mathlib.Data.List.Count
import Mathlib.Data.List.Perm.Subperm

/-!
# Markouts in real time

A tick carries the wall clock, and the fill that it is compared with the steady clock. What the two
show at one moment differs by the time between their epochs, and so does the time that seems to
have passed since the fill.

* **`realObservation`** — what a fill's markouts are to be: the first mid of each horizon.
* **`RealTime`** — the observations of a run are those of its fills, one of each at most.
* **`subperm_expected`** — they are by the timestamps that the service reads.
* **`realTime_iff`** — and in real time, in every run, exactly when the clocks have one epoch.
-/

namespace BptCore.Analytics

open MarkoutTracker AnalyticsService

/-- What the clocks show at the start of real time. -/
structure Clocks where
  wall : Nat := 0
  steady : Nat := 0

/-- An event as the service sees it. -/
def Clocks.stamp (clocks : Clocks) : Event → Event
  | .bbo instrumentId bid ask timeNs => .bbo instrumentId bid ask (timeNs + clocks.wall)
  | .execReport rpt first timeNs => .execReport rpt first (timeNs + clocks.steady)

def Event.timeNs : Event → Nat
  | .bbo _ _ _ timeNs => timeNs
  | .execReport _ _ timeNs => timeNs

/-- The mid of an instrument that an event brings, with its time. -/
def Event.mid (key : Nat) : Event → Option (Nat × ℚ)
  | .bbo instrumentId bid ask timeNs =>
    if instrumentId = key ∧ ¬ (bid ≤ 0 ∨ ask ≤ 0 ∨ ask ≤ bid) then
      some (timeNs, (bid + ask) / 2)
    else none
  | .execReport .. => none

def mids (key : Nat) (es : List Event) : List (Nat × ℚ) := es.filterMap (Event.mid key)

/-- The markout by the first mid from a time on. -/
def markoutAt (pf : PendingFill) (mids : List (Nat × ℚ)) (dueNs : Nat) : Option ℚ :=
  (mids.find? fun m => dueNs ≤ m.1).map fun m => computeMarkoutBps pf m.2

/-- The observation of a fill, once there is a markout of every horizon. -/
def PendingFill.observed (pf : PendingFill) (m1 m5 m30 : Option ℚ) : Option Observation :=
  m1.bind fun m1 => m5.bind fun m5 => m30.map fun m30 =>
    { pf.observation with markout1sBps := m1, markout5sBps := m5, markout30sBps := m30 }

/-- What a fill's markouts are to be, with the mids that follow it. -/
def realObservation (cfg : Config) (pf : PendingFill) (filledNs : Nat) (mids : List (Nat × ℚ)) :
    Option Observation :=
  PendingFill.observed pf (markoutAt pf mids (filledNs + cfg.horizon1Ns))
    (markoutAt pf mids (filledNs + cfg.horizon2Ns)) (markoutAt pf mids (filledNs + cfg.horizon3Ns))

/-- The fill that an event brings, with the instrument that it is recorded for. -/
def AnalyticsService.fillOf (s : AnalyticsService) : Event → Option (Nat × PendingFill)
  | .bbo .. => none
  | .execReport rpt first timeNs =>
    if rpt.status.isFill then
      let key := s.route first rpt.instrumentId
      some (key,
        { instrumentId := if (s.getOrCreate key).lastMid > 0 then key else 0
          fillTsNs := timeNs
          sideSign := sideSign rpt.side
          fillPrice := ofE8 rpt.price
          fillMid := (s.getOrCreate key).lastMid })
    else none

section RealTime

variable (settings : Settings) (clocks : Clocks)

/-- One event, which the service sees by its clocks. -/
def timedStep (s : AnalyticsService) (e : Event) : AnalyticsService × List (Nat × Observation) :=
  s.step settings (clocks.stamp e)

/-- The observations of a run's fills, each by the real time of the fill and of the mids that follow
it. -/
def expected : AnalyticsService → List Event → List (Nat × Observation)
  | _, [] => []
  | s, e :: es =>
    ((s.fillOf (clocks.stamp e)).bind fun fill =>
      (realObservation settings.mtCfg fill.2 e.timeNs (mids fill.1 es)).map (fill.1, ·)).toList ++
    expected (timedStep settings clocks s e).1 es

/-- Every observation of a run is that of one of its fills, and no fill has two. -/
def RealTime (es : List Event) : Prop :=
  (Machine.outputs (timedStep settings clocks) {} es).Subperm
    (expected settings clocks {} es)

end RealTime

/-! ## One fill -/

/-- The markout of a horizon, logged or to come. -/
def Mark.awaits (m : Mark) (later : Option ℚ) : Option ℚ := if m.logged then some m.bps else later

/-- The observation of a pending fill, when the mids follow. -/
def PendingFill.finish (cfg : Config) (pf : PendingFill) (mids : List (Nat × ℚ)) :
    Option Observation :=
  PendingFill.observed pf
    (Mark.awaits pf.mark1s (markoutAt pf mids (pf.fillTsNs + cfg.horizon1Ns)))
    (Mark.awaits pf.mark5s (markoutAt pf mids (pf.fillTsNs + cfg.horizon2Ns)))
    (Mark.awaits pf.mark30s (markoutAt pf mids (pf.fillTsNs + cfg.horizon3Ns)))

section Fill

variable {cfg : Config} {pf : PendingFill} {mid : ℚ} {nowNs : Nat} {rest : List (Nat × ℚ)}

theorem elapsed_ge_iff {horizonNs : Nat} (hpos : 0 < horizonNs) :
    pf.elapsed nowNs ≥ horizonNs ↔ pf.fillTsNs + horizonNs ≤ nowNs := by
  unfold PendingFill.elapsed
  split <;> omega

/-- A tick marks a horizon when it is the first to reach it. -/
theorem awaits_check (m : Mark) {horizonNs : Nat} (hpos : 0 < horizonNs) :
    Mark.awaits (m.check (computeMarkoutBps pf mid) (pf.elapsed nowNs ≥ horizonNs))
        (markoutAt pf rest (pf.fillTsNs + horizonNs)) =
      Mark.awaits m (markoutAt pf ((nowNs, mid) :: rest) (pf.fillTsNs + horizonNs)) := by
  unfold Mark.check
  cases hlogged : m.logged with
  | true => simp [Mark.awaits, hlogged]
  | false =>
    by_cases hreached : pf.elapsed nowNs ≥ horizonNs
    · have hdue := (elapsed_ge_iff hpos).mp hreached
      simp [Mark.awaits, hlogged, hreached, markoutAt, hdue]
    · have hdue := mt (elapsed_ge_iff hpos).mpr hreached
      simp [Mark.awaits, hlogged, hreached, markoutAt, hdue]

theorem finish_check (h1 : 0 < cfg.horizon1Ns) (h2 : 0 < cfg.horizon2Ns)
    (h3 : 0 < cfg.horizon3Ns) :
    PendingFill.finish cfg (pf.check cfg mid nowNs) rest =
      PendingFill.finish cfg pf ((nowNs, mid) :: rest) := by
  show PendingFill.observed pf
    (Mark.awaits (pf.mark1s.check _ _) (markoutAt pf rest (pf.fillTsNs + _)))
    (Mark.awaits (pf.mark5s.check _ _) (markoutAt pf rest (pf.fillTsNs + _)))
    (Mark.awaits (pf.mark30s.check _ _) (markoutAt pf rest (pf.fillTsNs + _))) = _
  rw [awaits_check _ h1, awaits_check _ h2, awaits_check _ h3]
  rfl

theorem finish_of_done (h : pf.done = true) :
    PendingFill.finish cfg pf rest = some pf.observation := by
  unfold PendingFill.done at h
  rw [Bool.and_eq_true, Bool.and_eq_true] at h
  obtain ⟨⟨h1, h5⟩, h30⟩ := h
  simp only [PendingFill.finish, Mark.awaits, h1, h5, h30, if_true]
  rfl

/-- The observations that a tick completes. -/
def completes (cfg : Config) (pending : List PendingFill) (mid : ℚ) (nowNs : Nat) :
    List Observation :=
  ((pending.map (PendingFill.check cfg · mid nowNs)).filter PendingFill.done).map
    PendingFill.observation

/-- What a tick leaves pending. -/
def leaves (cfg : Config) (pending : List PendingFill) (mid : ℚ) (nowNs : Nat) :
    List PendingFill :=
  (pending.map (PendingFill.check cfg · mid nowNs)).filter fun pf => !pf.done

/-- What a tick completes and what it leaves pending come to what was pending before it. -/
theorem count_finish_tick (h1 : 0 < cfg.horizon1Ns) (h2 : 0 < cfg.horizon2Ns)
    (h3 : 0 < cfg.horizon3Ns) (pending : List PendingFill) (o : Observation) :
    (pending.filterMap (PendingFill.finish cfg · ((nowNs, mid) :: rest))).count o =
      (completes cfg pending mid nowNs).count o +
        ((leaves cfg pending mid nowNs).filterMap (PendingFill.finish cfg · rest)).count o := by
  unfold completes leaves
  induction pending with
  | nil => rfl
  | cons pf pending ih =>
    have hfinish : PendingFill.finish cfg (pf.check cfg mid nowNs) rest =
        PendingFill.finish cfg pf ((nowNs, mid) :: rest) := finish_check h1 h2 h3
    cases hdone : (pf.check cfg mid nowNs).done with
    | true =>
      have hsome : PendingFill.finish cfg (pf.check cfg mid nowNs) rest = some _ :=
        finish_of_done hdone
      rw [hfinish] at hsome
      simp only [List.map_cons, List.filter_cons, hdone, Bool.not_true, Bool.false_eq_true,
        if_true, if_false, List.filterMap_cons, hsome, List.count_cons, ih]
      omega
    | false =>
      simp only [List.map_cons, List.filter_cons, hdone, Bool.not_false, Bool.false_eq_true,
        if_true, if_false, List.filterMap_cons, hfinish]
      cases PendingFill.finish cfg pf ((nowNs, mid) :: rest) with
      | none => exact ih
      | some o' =>
        simp only [List.count_cons, ih]
        omega

end Fill

/-! ## One instrument -/

section Instrument

variable {settings : Settings} {s : AnalyticsService} {key : Nat}

/-- The pending fills of an instrument. -/
def pendingOf (s : AnalyticsService) (key : Nat) : List PendingFill :=
  (s.getOrCreate key).tracker.pending

/-- Between the events no observation waits. -/
def Drained (s : AnalyticsService) : Prop := ∀ key, (s.getOrCreate key).tracker.completed = []

theorem getOrCreate_put (id : Nat) (st : InstrumentState) :
    (s.put id st).getOrCreate key = if key = id then st else s.getOrCreate key := by
  unfold AnalyticsService.put AnalyticsService.getOrCreate
  rw [Table.lookup_insert_eq]
  split <;> rfl

theorem drained_put (h : Drained s) {id : Nat} {st : InstrumentState}
    (hst : st.tracker.completed = []) : Drained (s.put id st) := by
  intro key
  rw [getOrCreate_put]
  split
  · exact hst
  · exact h key

/-- An instrument that a report was routed to is where it stays. -/
theorem route_put (first instrumentId : Nat) (st : InstrumentState) :
    (s.put (s.route first instrumentId) st).route first (s.route first instrumentId) =
      s.route first instrumentId := by
  generalize hkey : s.route first instrumentId = key
  have hfirst : key = 0 → first ∈ s.state → first = key := by
    intro hzero hmem
    unfold AnalyticsService.route at hkey
    split at hkey
    · rw [← hkey, AnalyticsService.begin, if_pos hmem]
    · next hnamed =>
      subst hkey
      have hkeys := AList.mem_keys.mp hmem
      exact absurd ⟨hzero, fun hempty => absurd (hempty ▸ hkeys) List.not_mem_nil⟩ hnamed
  unfold AnalyticsService.route
  split
  · next hzero =>
    unfold AnalyticsService.begin AnalyticsService.put
    split
    · next hmem =>
      rcases (AList.mem_insert s.state).mp hmem with heq | hmem
      · exact heq
      · exact hfirst hzero.1 hmem
    · rfl
  · rfl

/-- A valid tick moves the mid and passes the observations that it completes on. -/
theorem onBbo_eq (h : Drained s) {id : Nat} {bid ask : ℚ} {nowNs : Nat}
    (hvalid : ¬ (bid ≤ 0 ∨ ask ≤ 0 ∨ ask ≤ bid)) :
    s.onBbo settings id bid ask nowNs =
      (s.put id
        { lastMid := (bid + ask) / 2
          tracker := { pending := leaves settings.mtCfg (pendingOf s id) ((bid + ask) / 2) nowNs } },
        (completes settings.mtCfg (pendingOf s id) ((bid + ask) / 2) nowNs).map (id, ·)) := by
  unfold AnalyticsService.onBbo
  rw [if_neg hvalid]
  simp only [MarkoutTracker.onTick, MarkoutTracker.consume, h id, List.nil_append]
  split
  · rfl
  · next hnone =>
    have hempty := List.length_eq_zero_iff.mp (Nat.eq_zero_of_not_pos hnone)
    simp only [completes, leaves, pendingOf, hempty, List.map_nil]

theorem pendingOf_onBbo (h : Drained s) {id : Nat} {bid ask : ℚ} {nowNs : Nat}
    (hvalid : ¬ (bid ≤ 0 ∨ ask ≤ 0 ∨ ask ≤ bid)) :
    pendingOf (s.onBbo settings id bid ask nowNs).1 key =
      if key = id then leaves settings.mtCfg (pendingOf s id) ((bid + ask) / 2) nowNs
      else pendingOf s key := by
  rw [onBbo_eq h hvalid, pendingOf, getOrCreate_put]
  split <;> rfl

theorem getOrCreate_onExecReport_of_none {rpt : ExecReport} {first nowNs : Nat}
    (h : s.fillOf (.execReport rpt first nowNs) = none) :
    (s.onExecReport settings rpt first nowNs).getOrCreate key = s.getOrCreate key := by
  simp only [AnalyticsService.fillOf] at h
  unfold AnalyticsService.onExecReport
  split at h
  · cases h
  · next hfill =>
    rw [if_neg hfill, getOrCreate_put]
    split
    · next hkey => rw [hkey]
    · rfl

/-- A fill is recorded last, when the oldest has made room for it if need be. -/
theorem getOrCreate_onExecReport_of_some {rpt : ExecReport} {first nowNs : Nat}
    {fill : Nat × PendingFill} (h : s.fillOf (.execReport rpt first nowNs) = some fill) :
    (s.onExecReport settings rpt first nowNs).getOrCreate key =
      if key = fill.1 then
        { s.getOrCreate key with
          tracker :=
            { (s.getOrCreate key).tracker with
              pending :=
                (if (pendingOf s key).length ≥ settings.mtCfg.maxPending then
                  (pendingOf s key).tail else pendingOf s key) ++ [fill.2] } }
      else s.getOrCreate key := by
  simp only [AnalyticsService.fillOf] at h
  unfold AnalyticsService.onExecReport
  split at h
  · next hfill =>
    cases h
    rw [if_pos hfill, AnalyticsService.onExecFill, route_put, getOrCreate_put, getOrCreate_put]
    split
    · next hkey =>
      simp only [if_true, hkey]
      rfl
    · next hkey => rw [getOrCreate_put, if_neg hkey]
  · cases h

theorem drained_step (h : Drained s) (e : Event) : Drained (s.step settings e).1 := by
  cases e with
  | bbo id bid ask nowNs =>
    show Drained (s.onBbo settings id bid ask nowNs).1
    by_cases hvalid : bid ≤ 0 ∨ ask ≤ 0 ∨ ask ≤ bid
    · rw [AnalyticsService.onBbo, if_pos hvalid]
      exact h
    · rw [onBbo_eq h hvalid]
      exact drained_put h rfl
  | execReport rpt first nowNs =>
    intro key
    show ((s.onExecReport settings rpt first nowNs).getOrCreate key).tracker.completed = []
    cases hfill : s.fillOf (.execReport rpt first nowNs) with
    | none =>
      rw [getOrCreate_onExecReport_of_none hfill]
      exact h key
    | some fill =>
      rw [getOrCreate_onExecReport_of_some hfill]
      split
      · exact h key
      · exact h key

end Instrument

/-! ## Runs -/

section Runs

variable {settings : Settings}

theorem horizons_pos (settings : Settings) :
    0 < settings.mtCfg.horizon1Ns ∧ 0 < settings.mtCfg.horizon2Ns ∧
      0 < settings.mtCfg.horizon3Ns :=
  ⟨Nat.succ_pos _, Nat.succ_pos _, Nat.succ_pos _⟩

theorem horizons_le (settings : Settings) :
    settings.mtCfg.horizon1Ns ≤ settings.mtCfg.horizon3Ns ∧
      settings.mtCfg.horizon2Ns ≤ settings.mtCfg.horizon3Ns := by
  show 1000000000 ≤ 30000000000 ∧ 5000000000 ≤ 30000000000
  norm_num

theorem timedStep_zero (s : AnalyticsService) (e : Event) :
    timedStep settings {} s e = s.step settings e := by
  cases e <;> rfl

theorem timedStep_bbo (s : AnalyticsService) (instrumentId : Nat) (bid ask : ℚ) (timeNs : Nat) :
    timedStep settings clocks s (.bbo instrumentId bid ask timeNs) =
      s.onBbo settings instrumentId bid ask (timeNs + clocks.wall) := rfl

theorem count_map_key (key id : Nat) (o : Observation) (os : List Observation) :
    (os.map (id, ·)).count (key, o) = if key = id then os.count o else 0 := by
  split
  · next hkey =>
    subst hkey
    exact List.count_map_of_injective os (Prod.mk key) (fun _ _ h => (Prod.mk.inj h).2) o
  · next hkey =>
    refine List.count_eq_zero.mpr fun hmem => ?_
    obtain ⟨o', -, heq⟩ := List.mem_map.mp hmem
    exact hkey (Prod.mk.inj heq).1.symm

theorem mids_bbo {id key : Nat} {bid ask : ℚ} {nowNs : Nat} (es : List Event)
    (hvalid : ¬ (bid ≤ 0 ∨ ask ≤ 0 ∨ ask ≤ bid)) :
    mids key (.bbo id bid ask nowNs :: es) =
      if key = id then (nowNs, (bid + ask) / 2) :: mids key es else mids key es := by
  unfold mids
  rw [List.filterMap_cons]
  by_cases hkey : key = id
  · simp [Event.mid, hkey, hvalid]
  · simp [Event.mid, Ne.symm hkey, hkey]

/-- A fill that is just recorded awaits what it is to be. -/
theorem finish_of_fillOf {s : AnalyticsService} {rpt : ExecReport} {first nowNs : Nat}
    {fill : Nat × PendingFill} (h : s.fillOf (.execReport rpt first nowNs) = some fill)
    (cfg : Config) (mids : List (Nat × ℚ)) :
    PendingFill.finish cfg fill.2 mids = realObservation cfg fill.2 nowNs mids := by
  simp only [AnalyticsService.fillOf] at h
  split at h
  · cases h
    rfl
  · cases h

theorem filterMap_one {α β : Type} (f : α → Option β) (a : α) :
    [a].filterMap f = (f a).toList := by
  rw [List.filterMap_cons]
  cases f a <;> rfl

/-- How often an observation is still to come from what is pending. -/
def due (settings : Settings) (s : AnalyticsService) (es : List Event) (key : Nat)
    (o : Observation) : Nat :=
  ((pendingOf s key).filterMap (PendingFill.finish settings.mtCfg · (mids key es))).count o

variable (settings) in
/-- A tick takes what it completes out of what is to come. -/
theorem due_bbo {s : AnalyticsService} (h : Drained s) (id : Nat) (bid ask : ℚ) (nowNs : Nat)
    (es : List Event) (key : Nat) (o : Observation) :
    (s.onBbo settings id bid ask nowNs).2.count (key, o) +
        due settings (s.onBbo settings id bid ask nowNs).1 es key o =
      due settings s (.bbo id bid ask nowNs :: es) key o := by
  unfold due
  by_cases hvalid : bid ≤ 0 ∨ ask ≤ 0 ∨ ask ≤ bid
  · have hsame : mids key (.bbo id bid ask nowNs :: es) = mids key es := by
      simp [mids, Event.mid, hvalid]
    rw [hsame, AnalyticsService.onBbo, if_pos hvalid]
    exact Nat.zero_add _
  · obtain ⟨h1, h2, h3⟩ := horizons_pos settings
    rw [pendingOf_onBbo h hvalid, onBbo_eq h hvalid, count_map_key, mids_bbo es hvalid]
    by_cases hkey : key = id
    · rw [if_pos hkey, if_pos hkey, if_pos hkey, ← hkey, count_finish_tick h1 h2 h3]
    · rw [if_neg hkey, if_neg hkey, if_neg hkey]
      exact Nat.zero_add _

variable (settings) in
/-- A fill brings its own observation, and may take that of the oldest one away. -/
theorem due_fill {s : AnalyticsService} {rpt : ExecReport} {first nowNs : Nat}
    {fill : Nat × PendingFill} (hfill : s.fillOf (.execReport rpt first nowNs) = some fill)
    (es : List Event) (key : Nat) (o : Observation) :
    due settings (s.onExecReport settings rpt first nowNs) es key o ≤
      due settings s (.execReport rpt first nowNs :: es) key o +
        if key = fill.1 then
          (realObservation settings.mtCfg fill.2 nowNs (mids fill.1 es)).toList.count o
        else 0 := by
  have hsame : mids key (.execReport rpt first nowNs :: es) = mids key es := rfl
  unfold due
  rw [hsame, pendingOf, getOrCreate_onExecReport_of_some hfill]
  by_cases hkey : key = fill.1
  · have hroom : (if (pendingOf s key).length ≥ settings.mtCfg.maxPending then
        (pendingOf s key).tail else pendingOf s key).Sublist (pendingOf s key) := by
      split
      · exact List.tail_sublist _
      · exact List.Sublist.refl _
    have hle := (hroom.filterMap (PendingFill.finish settings.mtCfg · (mids key es))).count_le o
    have hlast : [fill.2].filterMap (PendingFill.finish settings.mtCfg · (mids key es)) =
        (realObservation settings.mtCfg fill.2 nowNs (mids key es)).toList := by
      rw [← finish_of_fillOf hfill, filterMap_one]
    rw [if_pos hkey, if_pos hkey, List.filterMap_append, List.count_append, hlast, ← hkey]
    exact Nat.add_le_add_right hle _
  · rw [if_neg hkey, if_neg hkey]
    exact le_rfl

variable (settings) in
/-- Of any observation there are no more in what follows than the pending fills and those to come
account for. -/
theorem count_outputs_le (es : List Event) (s : AnalyticsService) (h : Drained s) (key : Nat)
    (o : Observation) :
    (Machine.outputs (timedStep settings {}) s es).count (key, o) ≤
      due settings s es key o + (expected settings {} s es).count (key, o) := by
  induction es generalizing s with
  | nil => exact Nat.zero_le _
  | cons e es ih =>
    rw [Machine.outputs, expected, List.count_append, List.count_append, timedStep_zero]
    have hrest := ih (s.step settings e).1 (drained_step h e)
    cases e with
    | bbo id bid ask nowNs =>
      have hdue := due_bbo settings h id bid ask nowNs es key o
      show (s.onBbo settings id bid ask nowNs).2.count (key, o) + _ ≤ _ + (0 + _)
      have hrest : _ ≤ due settings (s.onBbo settings id bid ask nowNs).1 es key o + _ := hrest
      omega
    | execReport rpt first nowNs =>
      have hrest : _ ≤ due settings (s.onExecReport settings rpt first nowNs) es key o + _ := hrest
      show 0 + _ ≤ _ + (((s.fillOf (.execReport rpt first nowNs)).bind fun fill =>
        (realObservation settings.mtCfg fill.2 nowNs (mids fill.1 es)).map
          (fill.1, ·)).toList.count (key, o) + _)
      cases hfill : s.fillOf (.execReport rpt first nowNs) with
      | none =>
        have hdue : due settings (s.onExecReport settings rpt first nowNs) es key o =
            due settings s (.execReport rpt first nowNs :: es) key o := by
          rw [due, pendingOf, getOrCreate_onExecReport_of_none hfill]
          rfl
        show _ ≤ _ + (0 + _)
        omega
      | some fill =>
        have hdue := due_fill settings hfill es key o
        rw [Option.bind_some, Option.toList_map, count_map_key]
        omega

/-- By the timestamps that the service reads, the observations are those of the fills. -/
theorem subperm_expected (es : List Event) :
    (Machine.outputs (timedStep settings {}) {} es).Subperm (expected settings {} {} es) := by
  refine List.subperm_ext_iff.mpr fun observed _ => ?_
  have hle := count_outputs_le settings es {} (fun _ => rfl) observed.1 observed.2
  have hnone : due settings {} es observed.1 observed.2 = 0 := rfl
  rw [hnone, Nat.zero_add] at hle
  exact hle

end Runs

/-! ## Two clocks -/

section TwoClocks

variable {settings : Settings}

theorem outputs_stamp (clocks : Clocks) (es : List Event) (s : AnalyticsService) :
    Machine.outputs (timedStep settings clocks) s es =
      Machine.outputs (timedStep settings {}) s (es.map clocks.stamp) := by
  induction es generalizing s with
  | nil => rfl
  | cons e es ih =>
    rw [List.map_cons, Machine.outputs, Machine.outputs, ih, timedStep_zero]
    rfl

/-- Clocks of one epoch move every event by the same time. -/
theorem mids_stamp (epoch key : Nat) (es : List Event) :
    mids key (es.map (Clocks.stamp { wall := epoch, steady := epoch })) =
      (mids key es).map fun m => (m.1 + epoch, m.2) := by
  unfold mids
  induction es with
  | nil => rfl
  | cons e es ih =>
    rw [List.map_cons, List.filterMap_cons, List.filterMap_cons, ih]
    cases e with
    | bbo id bid ask timeNs =>
      by_cases hquote : id = key ∧ ¬ (bid ≤ 0 ∨ ask ≤ 0 ∨ ask ≤ bid)
      · simp only [Clocks.stamp, Event.mid, if_pos hquote, List.map_cons]
      · simp only [Clocks.stamp, Event.mid, if_neg hquote]
    | execReport rpt first timeNs => rfl

theorem realObservation_stamp (cfg : Config) (pf : PendingFill) (epoch filledNs : Nat)
    (mids : List (Nat × ℚ)) :
    realObservation cfg pf (filledNs + epoch) (mids.map fun m => (m.1 + epoch, m.2)) =
      realObservation cfg pf filledNs mids := by
  have hmarkout : ∀ horizonNs, markoutAt pf (mids.map fun m : Nat × ℚ => (m.1 + epoch, m.2))
      (filledNs + epoch + horizonNs) = markoutAt pf mids (filledNs + horizonNs) := by
    intro horizonNs
    unfold markoutAt
    rw [List.find?_map, Option.map_map]
    have hdue : ((fun m : Nat × ℚ => decide (filledNs + epoch + horizonNs ≤ m.1)) ∘
        fun m : Nat × ℚ => (m.1 + epoch, m.2)) =
          fun m : Nat × ℚ => decide (filledNs + horizonNs ≤ m.1) := by
      funext m
      simp only [Function.comp_apply, decide_eq_decide]
      omega
    rw [hdue]
    rfl
  unfold realObservation
  rw [hmarkout, hmarkout, hmarkout]

theorem expected_stamp (epoch : Nat) (es : List Event) (s : AnalyticsService) :
    expected settings { wall := epoch, steady := epoch } s es =
      expected settings {} s (es.map (Clocks.stamp { wall := epoch, steady := epoch })) := by
  induction es generalizing s with
  | nil => rfl
  | cons e es ih =>
    have hfill : s.fillOf (Clocks.stamp {} (Clocks.stamp { wall := epoch, steady := epoch } e)) =
        s.fillOf (Clocks.stamp { wall := epoch, steady := epoch } e) := by
      cases e <;> rfl
    have htime : (Clocks.stamp { wall := epoch, steady := epoch } e).timeNs = e.timeNs + epoch := by
      cases e <;> rfl
    rw [List.map_cons, expected, expected, ih, timedStep_zero, hfill, htime]
    simp only [mids_stamp, realObservation_stamp, timedStep]

theorem realTime_of_same_epoch {clocks : Clocks} (h : clocks.wall = clocks.steady)
    (es : List Event) : RealTime settings clocks es := by
  obtain ⟨wall, steady⟩ := clocks
  cases h
  unfold RealTime
  rw [outputs_stamp, expected_stamp]
  exact subperm_expected _

def boughtReport : ExecReport where
  orderId := 1
  exchangeOrderId := 1
  exchangeId := .OKX
  instrumentId := 1
  status := .FILLED
  side := .BUY
  orderType := .LIMIT
  price := 10000000000
  filledQty := 100000000
  remainingQty := 0
  rejectReason := .OK
  fee := 0
  feeCurrency := "USDT"
  exchangeTsNs := 0
  localTsNs := 0

/-- An instrument is bought at 100. -/
def oneFill : List Event := [.bbo 1 99 101 0, .execReport boughtReport 1 0]

/-- Then its market moves twice. -/
def moves (first second : Nat) : List Event := [.bbo 1 100 102 first, .bbo 1 101 103 second]

/-- The fill, as it is recorded. -/
def bought (fillTsNs : Nat) : PendingFill where
  instrumentId := 1
  fillTsNs := fillTsNs
  sideSign := 1
  fillPrice := 100
  fillMid := 100

theorem quoted_eq (clocks : Clocks) :
    timedStep settings clocks {} (.bbo 1 99 101 0) =
      (AnalyticsService.put {} 1 { lastMid := 100, tracker := {} }, []) := by
  have hvalid : ¬ ((99 : ℚ) ≤ 0 ∨ (101 : ℚ) ≤ 0 ∨ (101 : ℚ) ≤ 99) := by norm_num
  have hmid : ((99 : ℚ) + 101) / 2 = 100 := by norm_num
  show AnalyticsService.onBbo settings {} 1 99 101 (0 + clocks.wall) = _
  rw [onBbo_eq (fun _ => rfl) hvalid, hmid]
  rfl

theorem quoted_fillOf (steadyNs : Nat) :
    (AnalyticsService.put {} 1 { lastMid := 100, tracker := {} }).fillOf
      (.execReport boughtReport 1 steadyNs) = some (1, bought steadyNs) := by
  have hroute : (AnalyticsService.put {} 1 { lastMid := 100, tracker := {} }).route 1
      boughtReport.instrumentId = 1 := rfl
  have hprice : ofE8 boughtReport.price = 100 := by decide +kernel
  have hfill : boughtReport.status.isFill = true := rfl
  have hmid : (0 : ℚ) < 100 := by norm_num
  simp only [AnalyticsService.fillOf, hroute, getOrCreate_put, if_true, hprice, hfill, hmid]
  rfl

/-- The service with the fill pending. -/
def holding (settings : Settings) (fillTsNs : Nat) : AnalyticsService :=
  (AnalyticsService.put {} 1 { lastMid := 100, tracker := {} }).onExecReport settings boughtReport 1
    fillTsNs

theorem pendingOf_holding (fillTsNs : Nat) :
    pendingOf (holding settings fillTsNs) 1 = [bought fillTsNs] := by
  unfold pendingOf holding
  rw [getOrCreate_onExecReport_of_some (quoted_fillOf fillTsNs), if_pos rfl]
  have hnone : pendingOf (AnalyticsService.put {} 1 { lastMid := 100, tracker := {} }) 1 = [] := rfl
  simp only [hnone, List.tail_nil, ite_self, List.nil_append]

theorem drained_holding (fillTsNs : Nat) : Drained (holding settings fillTsNs) :=
  drained_step (drained_put (fun _ => rfl) rfl) (.execReport boughtReport 1 fillTsNs)

theorem mids_moves (first second : Nat) :
    mids 1 (moves first second) = [(first, 101), (second, 102)] := by
  have hfirst : ¬ ((100 : ℚ) ≤ 0 ∨ (102 : ℚ) ≤ 0 ∨ (102 : ℚ) ≤ 100) := by norm_num
  have hsecond : ¬ ((101 : ℚ) ≤ 0 ∨ (103 : ℚ) ≤ 0 ∨ (103 : ℚ) ≤ 101) := by norm_num
  rw [moves, mids_bbo _ hfirst, if_pos rfl, mids_bbo _ hsecond, if_pos rfl]
  norm_num [mids]

variable (settings) in
/-- The markout of the first horizon tells which mid it took. -/
theorem realObservation_moves (fillTsNs filledNs first second : Nat)
    (hsecond : filledNs + settings.mtCfg.horizon3Ns ≤ second) :
    ∃ o, realObservation settings.mtCfg (bought fillTsNs) filledNs [(first, 101), (second, 102)] =
        some o ∧
      o.markout1sBps = if filledNs + settings.mtCfg.horizon1Ns ≤ first then 100 else 200 := by
  have hmarkout : ∀ horizonNs ≤ settings.mtCfg.horizon3Ns,
      markoutAt (bought fillTsNs) [(first, 101), (second, 102)] (filledNs + horizonNs) =
        some (if filledNs + horizonNs ≤ first then 100 else 200) := by
    intro horizonNs hle
    have hdue : filledNs + horizonNs ≤ second := by omega
    unfold markoutAt
    by_cases hfirst : filledNs + horizonNs ≤ first
    · rw [List.find?_cons_of_pos (by simpa using hfirst), if_pos hfirst]
      norm_num [computeMarkoutBps, bought]
    · rw [List.find?_cons_of_neg (by simpa using hfirst),
        List.find?_cons_of_pos (by simpa using hdue), if_neg hfirst]
      norm_num [computeMarkoutBps, bought]
  unfold realObservation
  rw [hmarkout _ (horizons_le settings).1, hmarkout _ (horizons_le settings).2, hmarkout _ le_rfl]
  exact ⟨_, rfl, rfl⟩

/-- A tick that is late enough leaves nothing pending. -/
theorem leaves_eq_nil {cfg : Config} {pending : List PendingFill} {mid : ℚ} {nowNs : Nat}
    (h : ∀ pf ∈ pending, pf.elapsed nowNs ≥ cfg.horizon1Ns ∧ pf.elapsed nowNs ≥ cfg.horizon2Ns ∧
      pf.elapsed nowNs ≥ cfg.horizon3Ns) : leaves cfg pending mid nowNs = [] := by
  unfold leaves
  refine List.filter_eq_nil_iff.mpr fun pf hpf => ?_
  obtain ⟨pf, hmem, rfl⟩ := List.mem_map.mp hpf
  obtain ⟨h1, h2, h3⟩ := h pf hmem
  have hlogged : ∀ (m : Mark) (bps : ℚ), (m.check bps true).logged = true := by
    intro m bps
    unfold Mark.check
    cases hm : m.logged <;> simp [hm]
  simp [PendingFill.done, PendingFill.check, h1, h2, h3, hlogged]

/-- The fill is observed by the timestamps that the clocks give. -/
theorem outputs_moves (clocks : Clocks) (first second : Nat)
    (hsecond : clocks.steady + settings.mtCfg.horizon3Ns ≤ second + clocks.wall)
    (o : Observation) :
    (Machine.outputs (timedStep settings clocks) {} (oneFill ++ moves first second)).count (1, o) =
      (realObservation settings.mtCfg (bought clocks.steady) clocks.steady
        [(first + clocks.wall, 101), (second + clocks.wall, 102)]).toList.count o := by
  let s₁ := holding settings clocks.steady
  let s₂ := (s₁.onBbo settings 1 100 102 (first + clocks.wall)).1
  let s₃ := (s₂.onBbo settings 1 101 103 (second + clocks.wall)).1
  have hfilled : timedStep settings clocks (AnalyticsService.put {} 1 { lastMid := 100, tracker := {} })
      (.execReport boughtReport 1 0) = (s₁, []) := by
    show ((AnalyticsService.put {} 1 _).onExecReport settings boughtReport 1 (0 + clocks.steady), [])
      = _
    rw [Nat.zero_add]
    rfl
  have hrun : Machine.outputs (timedStep settings clocks) {} (oneFill ++ moves first second) =
      (s₁.onBbo settings 1 100 102 (first + clocks.wall)).2 ++
        ((s₂.onBbo settings 1 101 103 (second + clocks.wall)).2 ++ []) := by
    rw [oneFill, List.cons_append, Machine.outputs, quoted_eq]
    dsimp only
    rw [List.cons_append, Machine.outputs, hfilled]
    dsimp only
    rw [List.nil_append, List.nil_append, List.nil_append, moves, Machine.outputs, Machine.outputs,
      Machine.outputs, timedStep_bbo, timedStep_bbo]
  have hdrained : Drained s₁ := drained_holding clocks.steady
  have hdrained' : Drained s₂ :=
    drained_step hdrained (.bbo 1 100 102 (first + clocks.wall))
  have hdue : (s₁.onBbo settings 1 100 102 (first + clocks.wall)).2.count (1, o) +
      due settings s₂ [.bbo 1 101 103 (second + clocks.wall)] 1 o =
        due settings s₁ (moves (first + clocks.wall) (second + clocks.wall)) 1 o :=
    due_bbo settings hdrained 1 100 102 (first + clocks.wall) _ 1 o
  have hdue' : (s₂.onBbo settings 1 101 103 (second + clocks.wall)).2.count (1, o) +
      due settings s₃ [] 1 o = due settings s₂ [.bbo 1 101 103 (second + clocks.wall)] 1 o :=
    due_bbo settings hdrained' 1 101 103 (second + clocks.wall) [] 1 o
  -- the second tick completes what the first one left
  have hend : due settings s₃ [] 1 o = 0 := by
    have hpending : pendingOf s₃ 1 = [] := by
      rw [pendingOf_onBbo hdrained' (by norm_num), if_pos rfl,
        pendingOf_onBbo hdrained (by norm_num), if_pos rfl, pendingOf_holding]
      refine leaves_eq_nil fun pf hpf => ?_
      obtain ⟨old, hold, rfl⟩ := List.mem_map.mp (List.mem_of_mem_filter hpf)
      have hfilled : (PendingFill.check settings.mtCfg old ((100 + 102) / 2)
          (first + clocks.wall)).fillTsNs = clocks.steady := by
        rw [List.mem_singleton.mp hold]
        rfl
      obtain ⟨h1, h2, h3⟩ := horizons_pos settings
      obtain ⟨hle1, hle2⟩ := horizons_le settings
      exact ⟨(elapsed_ge_iff h1).mpr (by omega), (elapsed_ge_iff h2).mpr (by omega),
        (elapsed_ge_iff h3).mpr (by omega)⟩
    rw [due, hpending]
    rfl
  have hstart : due settings s₁ (moves (first + clocks.wall) (second + clocks.wall)) 1 o =
      (realObservation settings.mtCfg (bought clocks.steady) clocks.steady
        [(first + clocks.wall, 101), (second + clocks.wall, 102)]).toList.count o := by
    rw [due, pendingOf_holding, mids_moves, filterMap_one]
    rfl
  rw [hrun, List.append_nil, List.count_append, ← hstart]
  omega

theorem expected_moves (clocks : Clocks) (first second : Nat) :
    expected settings clocks {} (oneFill ++ moves first second) =
      ((realObservation settings.mtCfg (bought clocks.steady) 0
        [(first, 101), (second, 102)]).map (1, ·)).toList := by
  have hfill : (AnalyticsService.put {} 1 { lastMid := 100, tracker := {} }).fillOf
      (clocks.stamp (.execReport boughtReport 1 0)) = some (1, bought clocks.steady) := by
    show AnalyticsService.fillOf _ (.execReport boughtReport 1 (0 + clocks.steady)) = _
    rw [Nat.zero_add, quoted_fillOf]
  rw [oneFill, List.cons_append, expected, quoted_eq, List.cons_append, expected, hfill]
  show [] ++ ((Option.map _ (realObservation _ _ 0 (mids 1 (moves first second)))).toList ++ []) = _
  rw [mids_moves, List.append_nil]
  rfl

/-- Where the clocks disagree on whether the first horizon has passed, the fill is observed with a
mid that is not the first one of it. -/
theorem not_realTime_moves (clocks : Clocks) (first second : Nat)
    (hreal : settings.mtCfg.horizon3Ns ≤ second)
    (hclocks : clocks.steady + settings.mtCfg.horizon3Ns ≤ second + clocks.wall)
    (hdiffer : ¬ (settings.mtCfg.horizon1Ns ≤ first ↔
      clocks.steady + settings.mtCfg.horizon1Ns ≤ first + clocks.wall)) :
    ¬ RealTime settings clocks (oneFill ++ moves first second) := by
  intro h
  obtain ⟨o, ho, hmark⟩ :=
    realObservation_moves settings clocks.steady clocks.steady _ _ hclocks
  obtain ⟨o', ho', hmark'⟩ :=
    realObservation_moves settings clocks.steady 0 first second (by omega)
  have hcount := h.count_le (1, o)
  rw [outputs_moves clocks first second hclocks, ho, expected_moves, ho'] at hcount
  have hne : o ≠ o' := by
    rintro rfl
    rw [hmark, Nat.zero_add] at hmark'
    refine hdiffer ⟨fun hfirst => ?_, fun hfirst => ?_⟩
    · rw [if_pos hfirst] at hmark'
      split at hmark'
      · assumption
      · norm_num at hmark'
    · rw [if_pos hfirst] at hmark'
      split at hmark'
      · assumption
      · norm_num at hmark'
  have hone : (some o).toList.count o = 1 := by simp
  have hzero : ((some o').map ((1 : Nat), ·)).toList.count (1, o) = 0 := by
    simp [Ne.symm hne]
  omega

/-- **Markouts.** In every run the markouts of a fill are by the first mids of their horizons, and
each fill has one observation at most, exactly when the clock of the ticks and the clock of the
fills have one epoch. -/
theorem realTime_iff (settings : Settings) (clocks : Clocks) :
    (∀ es, RealTime settings clocks es) ↔ clocks.wall = clocks.steady := by
  constructor
  · intro h
    by_contra hne
    obtain ⟨h1, -, -⟩ := horizons_pos settings
    obtain ⟨hle, -⟩ := horizons_le settings
    rcases Nat.lt_or_gt_of_ne hne with hlate | hearly
    · refine not_realTime_moves clocks settings.mtCfg.horizon1Ns
        (settings.mtCfg.horizon3Ns + (clocks.steady - clocks.wall)) ?_ ?_ ?_ (h _) <;> omega
    · refine not_realTime_moves clocks
        (settings.mtCfg.horizon1Ns - min settings.mtCfg.horizon1Ns (clocks.wall - clocks.steady))
        settings.mtCfg.horizon3Ns ?_ ?_ ?_ (h _) <;> omega
  · exact realTime_of_same_epoch

/-- With the wall clock of these years and a machine that has been up for a quarter of an hour, the
first tick after a fill passes for that of its every horizon, 10 ms later. -/
theorem not_realTime_after_10ms :
    ¬ RealTime {} { wall := 1700000000000000000, steady := 900000000000 }
      (oneFill ++ moves 10000000 30000000000) :=
  not_realTime_moves _ _ _ (by decide) (by decide) (by decide)

end TwoClocks

end BptCore.Analytics
