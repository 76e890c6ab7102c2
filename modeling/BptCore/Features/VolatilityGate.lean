import BptCore.Lib.SlidingWindow
import BptCore.Messages

/-!
# The volatility gate

`VolatilityGate` halts an instrument for a while when its mid has moved too far within a rolling
window. How often and how far it tripped is left out: it is only logged. Of the updates alone: an
update whose mid is too far from an earlier one of the window trips the gate, and a trip lasts for
the halt duration.

* **`updateAndCheck`**, **`isHalted`** — the two calls.
* **`Trips`** — an update that comes after others and trips the gate.
* **`history_run`** — the queue of the gate is the window of the updates.
* **`isHalted_iff`** — the gate is halted exactly while some trip lasts.
-/

namespace BptCore.Features

/-- A `maxBpsPerWindow` of 0 disables the gate. -/
structure VolGateConfig where
  maxBpsPerWindow : ℚ := 0
  windowNs : Nat := 1000000000
  haltDurationNs : Nat := 5000000000

structure VolatilityGate where
  /-- Times and mids, oldest first. -/
  history : List (Nat × ℚ) := []
  haltEndNs : Nat := 0
  deriving DecidableEq, Repr

namespace VolatilityGate

variable (cfg : VolGateConfig) (g : VolatilityGate)

/-- A sample enters the window; the answer is whether the gate is halted. -/
def updateAndCheck (mid : ℚ) (nowNs : Nat) : VolatilityGate × Bool :=
  if cfg.maxBpsPerWindow ≤ 0 ∨ mid ≤ 0 then (g, false)
  else
    let recent := g.history.dropWhile fun sample => cfg.windowNs < u64Sub nowNs sample.1
    let maxBps := recent.foldl (fun bps sample => max bps |(sample.2 - mid) / mid * 10000|) 0
    let haltEndNs := if maxBps > cfg.maxBpsPerWindow then nowNs + cfg.haltDurationNs else g.haltEndNs
    ({ history := recent ++ [(nowNs, mid)], haltEndNs := haltEndNs }, nowNs < haltEndNs)

def isHalted (nowNs : Nat) : Bool := cfg.maxBpsPerWindow > 0 ∧ nowNs < g.haltEndNs

/-- A gate that is on answers an update with the state that it leaves. -/
theorem updateAndCheck_eq_isHalted {mid : ℚ} (hon : 0 < cfg.maxBpsPerWindow) (hmid : 0 < mid)
    (nowNs : Nat) :
    (g.updateAndCheck cfg mid nowNs).2 = (g.updateAndCheck cfg mid nowNs).1.isHalted cfg nowNs := by
  unfold updateAndCheck isHalted
  rw [if_neg (not_or.mpr ⟨not_le.mpr hon, not_le.mpr hmid⟩)]
  simp [hon]

/-- A gate that is off never halts. -/
theorem updateAndCheck_of_disabled (hoff : cfg.maxBpsPerWindow ≤ 0) (mid : ℚ) (nowNs : Nat) :
    g.updateAndCheck cfg mid nowNs = (g, false) :=
  if_pos (.inl hoff)

end VolatilityGate

end BptCore.Features

namespace BptCore.Features.VolatilityGate

/-! ## Over a history -/

open SlidingWindow

variable (cfg : VolGateConfig)

/-- How far an earlier mid is from the one of an update, in basis points of the latter. -/
def moveBps (earlier mid : ℚ) : ℚ := |(earlier - mid) / mid * 10000|

/-- The gate after a list of updates, each a time and a mid. -/
def run (updates : List (Nat × ℚ)) : VolatilityGate :=
  updates.foldl (fun g u => (g.updateAndCheck cfg u.2 u.1).1) {}

/-- The update `u` is too far from one of the updates `before` it that are still in its window. -/
def Trips (before : List (Nat × ℚ)) (u : Nat × ℚ) : Prop :=
  ∃ sample ∈ before, u.1 ≤ sample.1 + cfg.windowNs ∧ cfg.maxBpsPerWindow < moveBps sample.2 u.2

/-- A trip of the updates that still lasts at the time `t`. -/
def LastingTrip (updates : List (Nat × ℚ)) (t : Nat) : Prop :=
  ∃ before u after, updates = before ++ u :: after ∧ Trips cfg before u ∧
    t < u.1 + cfg.haltDurationNs

variable {cfg}

/-- The scan of the window exceeds a threshold when one of its samples does. -/
theorem lt_foldl_max_iff (f : Nat × ℚ → ℚ) (samples : List (Nat × ℚ)) (start threshold : ℚ) :
    threshold < samples.foldl (fun bps sample => max bps (f sample)) start ↔
      threshold < start ∨ ∃ sample ∈ samples, threshold < f sample := by
  induction samples generalizing start with
  | nil => simp
  | cons sample samples ih =>
    rw [List.foldl_cons, ih, lt_max_iff, or_assoc]
    simp

/-- On times up to now the unsigned age test is the cutoff of the window. -/
theorem dropWhile_age {samples : List (Nat × ℚ)} {now : Nat} (hnow : now < 2 ^ 64)
    (hle : ∀ sample ∈ samples, sample.1 ≤ now) (span : Nat) :
    (samples.dropWhile fun sample => span < u64Sub now sample.1) =
      evict Prod.fst (now - span) samples := by
  refine dropWhile_congr fun sample hsample => ?_
  rw [u64Sub_of_le hnow (hle sample hsample), decide_eq_decide]
  omega

section Run

variable {updates : List (Nat × ℚ)}

/-- One more update, with the queue known. -/
theorem updateAndCheck_fst {g : VolatilityGate} {u : Nat × ℚ} (hon : 0 < cfg.maxBpsPerWindow)
    (hmid : 0 < u.2) (hnow : u.1 < 2 ^ 64) (hle : ∀ sample ∈ g.history, sample.1 ≤ u.1) :
    (g.updateAndCheck cfg u.2 u.1).1.history = slide Prod.fst cfg.windowNs g.history u ∧
      (g.updateAndCheck cfg u.2 u.1).1.haltEndNs =
        if ∃ sample ∈ evict Prod.fst (u.1 - cfg.windowNs) g.history,
            cfg.maxBpsPerWindow < moveBps sample.2 u.2
        then u.1 + cfg.haltDurationNs else g.haltEndNs := by
  have hmove : cfg.maxBpsPerWindow <
      (evict Prod.fst (u.1 - cfg.windowNs) g.history).foldl
        (fun bps sample => max bps |(sample.2 - u.2) / u.2 * 10000|) 0 ↔
      ∃ sample ∈ evict Prod.fst (u.1 - cfg.windowNs) g.history,
        cfg.maxBpsPerWindow < moveBps sample.2 u.2 := by
    refine (lt_foldl_max_iff (fun sample => moveBps sample.2 u.2) _ 0 _).trans ?_
    exact or_iff_right (not_lt.mpr hon.le)
  rw [updateAndCheck, if_neg (not_or.mpr ⟨not_le.mpr hon, not_le.mpr hmid⟩)]
  simp only [dropWhile_age hnow hle, gt_iff_lt, hmove]
  exact ⟨rfl, trivial⟩

/-- **The queue is the window of the updates.** -/
theorem history_run (hon : 0 < cfg.maxBpsPerWindow) (hordered : Ordered Prod.fst updates)
    (hmids : ∀ u ∈ updates, 0 < u.2) (htimes : ∀ u ∈ updates, u.1 < 2 ^ 64) :
    (run cfg updates).history = window Prod.fst cfg.windowNs updates := by
  rw [← foldl_slide cfg.windowNs hordered]
  induction updates using List.reverseRecOn with
  | nil => rfl
  | append_singleton before u ih =>
    obtain ⟨hbefore, -, hlast⟩ := List.pairwise_append.mp hordered
    have hhistory := ih hbefore (fun v hv => hmids v (List.mem_append_left _ hv))
      fun v hv => htimes v (List.mem_append_left _ hv)
    have hmem : u ∈ before ++ [u] := List.mem_append_right _ (List.mem_singleton_self u)
    have hle : ∀ sample ∈ (run cfg before).history, sample.1 ≤ u.1 := by
      intro sample hsample
      rw [hhistory, foldl_slide cfg.windowNs hbefore] at hsample
      exact hlast sample (mem_of_mem_window _ _ hsample) u (List.mem_singleton_self u)
    rw [run, List.foldl_append, List.foldl_append, ← hhistory]
    exact (updateAndCheck_fst hon (hmids u hmem) (htimes u hmem) hle).1

/-- The samples of the window against which an update is held are the recent ones before it. -/
theorem trips_iff {before : List (Nat × ℚ)} {u : Nat × ℚ} (hon : 0 < cfg.maxBpsPerWindow)
    (hordered : Ordered Prod.fst (before ++ [u])) (hmids : ∀ v ∈ before, 0 < v.2)
    (htimes : ∀ v ∈ before, v.1 < 2 ^ 64) :
    (∃ sample ∈ evict Prod.fst (u.1 - cfg.windowNs) (run cfg before).history,
      cfg.maxBpsPerWindow < moveBps sample.2 u.2) ↔ Trips cfg before u := by
  have hbefore := (List.pairwise_append.mp hordered).1
  have hwindow : evict Prod.fst (u.1 - cfg.windowNs) (run cfg before).history =
      before.filter fun sample => u.1 ≤ sample.1 + cfg.windowNs := by
    -- one more update slides the window, and then takes its place at the end of either list
    have hslide := foldl_slide cfg.windowNs hordered
    rw [List.foldl_append, foldl_slide cfg.windowNs hbefore, window_append, List.filter_append,
      List.filter_cons_of_pos (by simp), List.filter_nil] at hslide
    rw [history_run hon hbefore hmids htimes]
    exact List.append_cancel_right hslide
  rw [hwindow]
  simp only [Trips, List.mem_filter, decide_eq_true_eq, and_assoc]

/-- A trip of one more update is a trip of an earlier one or its own. -/
theorem lastingTrip_concat {before : List (Nat × ℚ)} {u : Nat × ℚ} {t : Nat} :
    LastingTrip cfg (before ++ [u]) t ↔
      LastingTrip cfg before t ∨ Trips cfg before u ∧ t < u.1 + cfg.haltDurationNs := by
  constructor
  · rintro ⟨pre, v, post, hsplit, htrips, hlasts⟩
    rcases List.eq_nil_or_concat post with rfl | ⟨post', w, rfl⟩
    · obtain ⟨rfl, hlast⟩ := List.append_inj' hsplit rfl
      obtain rfl := List.singleton_inj.mp hlast
      exact Or.inr ⟨htrips, hlasts⟩
    · rw [List.concat_eq_append, ← List.cons_append, ← List.append_assoc] at hsplit
      exact Or.inl ⟨pre, v, post', (List.append_inj' hsplit rfl).1, htrips, hlasts⟩
  · rintro (⟨pre, v, post, rfl, htrips, hlasts⟩ | ⟨htrips, hlasts⟩)
    · exact ⟨pre, v, post ++ [u], by rw [List.append_assoc, List.cons_append], htrips, hlasts⟩
    · exact ⟨before, u, [], rfl, htrips, hlasts⟩

/-- A halt that lasts has a cause that lasts, and ends no later. -/
theorem lt_haltEndNs_iff (hon : 0 < cfg.maxBpsPerWindow) (hordered : Ordered Prod.fst updates)
    (hmids : ∀ u ∈ updates, 0 < u.2) (htimes : ∀ u ∈ updates, u.1 < 2 ^ 64) (t : Nat) :
    t < (run cfg updates).haltEndNs ↔ LastingTrip cfg updates t := by
  induction updates using List.reverseRecOn with
  | nil =>
    refine iff_of_false (Nat.not_lt_zero t) ?_
    rintro ⟨before, u, after, hsplit, -⟩
    exact List.append_ne_nil_of_right_ne_nil before (List.cons_ne_nil u after) hsplit.symm
  | append_singleton before u ih =>
    obtain ⟨hbefore, -, hlast⟩ := List.pairwise_append.mp hordered
    have hmidsB : ∀ v ∈ before, 0 < v.2 := fun v hv => hmids v (List.mem_append_left _ hv)
    have htimesB : ∀ v ∈ before, v.1 < 2 ^ 64 := fun v hv => htimes v (List.mem_append_left _ hv)
    have hmem : u ∈ before ++ [u] := List.mem_append_right _ (List.mem_singleton_self u)
    have hhistory := history_run hon hbefore hmidsB htimesB
    have hle : ∀ sample ∈ (run cfg before).history, sample.1 ≤ u.1 := by
      intro sample hsample
      rw [hhistory] at hsample
      exact hlast sample (mem_of_mem_window _ _ hsample) u (List.mem_singleton_self u)
    have hnext := (updateAndCheck_fst hon (hmids u hmem) (htimes u hmem) hle).2
    have htrips_iff := trips_iff hon hordered hmidsB htimesB
    rw [lastingTrip_concat, run, List.foldl_append, List.foldl_cons, List.foldl_nil, ← run, hnext]
    by_cases htrips : Trips cfg before u
    · -- an earlier trip that lasts is outlasted by the new one
      rw [if_pos (htrips_iff.mpr htrips)]
      constructor
      · exact fun hlasts => Or.inr ⟨htrips, hlasts⟩
      · rintro (⟨pre, v, post, rfl, -, hlasts⟩ | ⟨-, hlasts⟩)
        · have hvu := hlast v (by simp) u (List.mem_singleton_self u)
          omega
        · exact hlasts
    · rw [if_neg (mt htrips_iff.mp htrips), ih hbefore hmidsB htimesB]
      exact ⟨Or.inl, fun hor => hor.resolve_right fun hown => htrips hown.1⟩

end Run

/-- **The gate.** With updates in order, it is halted at a later time exactly when some update less
than a halt duration ago was too far from one before it that was in its window. -/
theorem isHalted_iff (cfg : VolGateConfig) (updates : List (Nat × ℚ)) (t : Nat)
    (hon : 0 < cfg.maxBpsPerWindow) (hordered : Ordered Prod.fst updates)
    (hmids : ∀ u ∈ updates, 0 < u.2) (htimes : ∀ u ∈ updates, u.1 < 2 ^ 64)
    (hlater : ∀ u ∈ updates, u.1 ≤ t) :
    (run cfg updates).isHalted cfg t = true ↔
      ∃ before u after, updates = before ++ u :: after ∧ t - u.1 < cfg.haltDurationNs ∧
        ∃ sample ∈ before, u.1 ≤ sample.1 + cfg.windowNs ∧
          cfg.maxBpsPerWindow < |(sample.2 - u.2) / u.2 * 10000| := by
  have hhalted : (run cfg updates).isHalted cfg t = true ↔ t < (run cfg updates).haltEndNs := by
    simp [isHalted, hon]
  rw [hhalted, lt_haltEndNs_iff hon hordered hmids htimes]
  constructor
  · rintro ⟨before, u, after, hsplit, htrips, hlasts⟩
    have hle := hlater u (hsplit ▸ by simp)
    exact ⟨before, u, after, hsplit, by omega, htrips⟩
  · rintro ⟨before, u, after, hsplit, hlasts, htrips⟩
    have hle := hlater u (hsplit ▸ by simp)
    exact ⟨before, u, after, hsplit, htrips, by omega⟩

/-- A jump of 1 % within a second, looked at two seconds later. -/
theorem isHalted_iff_jump :
    (run { maxBpsPerWindow := 50 } [(1000000000, 100), (1500000000, 101)]).isHalted
        { maxBpsPerWindow := 50 } 3500000000 = true ↔
      ∃ before u after,
        [(1000000000, (100 : ℚ)), (1500000000, 101)] = before ++ u :: after ∧
        3500000000 - u.1 < 5000000000 ∧
        ∃ sample ∈ before, u.1 ≤ sample.1 + 1000000000 ∧
          50 < |(sample.2 - u.2) / u.2 * 10000| :=
  isHalted_iff { maxBpsPerWindow := 50 } [(1000000000, 100), (1500000000, 101)] 3500000000
    (by decide) (by decide) (by decide) (by decide) (by decide)

end BptCore.Features.VolatilityGate
