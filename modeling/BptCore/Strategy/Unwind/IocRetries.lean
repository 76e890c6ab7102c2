import BptCore.Strategy.Unwind.UnwindOrders

/-!
# Whether an unwind goes on

A record in the IOC phase waits for the report of its order: no tick looks at it any more. So it
goes on as long as an order is out, and when none is, it stands still and `pending` stays true.

* **`Advances`** — the record is passive, or its order is out.
* **`Served`** — the IOC orders that a call comes to do go out, and no record starts without a
  price.
* **`advancing_iff`** — over any run.
* **`stuck_run`** — what becomes of a record that was not served.
-/

namespace BptCore.Strategy.Unwinding

open GracefulUnwinder

/-- The record is one that a tick brings forward, or the report of its order does. -/
def Advances (w : Unwinding) (r : Record) : Prop :=
  r.phase = .kPassive ∨ ∃ o ∈ w.desk.outstanding, r.hUnwind = some o.orderId ∧ o.For r

/-- No unfinished record stands still, and none has gone for more IOC attempts than it has. -/
def Advancing (cfg : Config) (w : Unwinding) : Prop :=
  ∀ r ∈ w.records, (r.phase ≠ .kDone → w.Advances r) ∧ r.attempt ≤ cfg.maxRetries

/-! ## When a call serves its records -/

/-- The order manager accepts the request, and the gateway takes the order. -/
def accepted (env : UnwindEnv) (d : Desk) (request : NewOrderRequest) : Bool :=
  match normaliseAndValidate env.cache request.instrumentId request.side request.type request.price
      request.qty with
  | none => false
  | some (price, quantity, symbol) =>
    env.gateway (d.orders.outbound request price quantity symbol)

section

variable (cfg : Config) (positions : PositionTracker) (env : UnwindEnv) (d : Desk) (r : Record)

/-- The next IOC order of a record. -/
def nextIoc : NewOrderRequest :=
  iocRequest r (unwindSide (netOf positions r)) |netOf positions r|
    (cfg.crossBps + (r.attempt + 1 : Nat) * 10)

/-- A record that is due for an IOC order has one out after the attempt, or no retries left. -/
def IocServed : Prop :=
  flat positions r ∨ r.retriesLeft = 0 ∨
    if (nextIoc cfg positions r).price ≤ 0 then r.hUnwind.isSome
    else accepted env d (nextIoc cfg positions r)

instance : Decidable (IocServed cfg positions env d r) :=
  inferInstanceAs (Decidable (_ ∨ _ ∨ _))

/-- The turn of a record in `tick` that times out. -/
def TickServed : Prop :=
  r.phase = .kPassive → timedOut cfg env r → d.live r.hUnwind ∨ IocServed cfg positions env d r

instance : Decidable (TickServed cfg positions env d r) :=
  inferInstanceAs (Decidable (_ → _ → _))

end

/-- The condition on a call: no instrument with a position is armed without a price, and where the
call comes to send an IOC order, it goes out. -/
def Served (cfg : Config) (w : Unwinding) : UnwindEvent → Prop
  | .arm env instruments => ∀ inst ∈ instruments,
    flat w.positions (Record.armed cfg env inst) ∨ 0 < inst.priceRef
  | .tick env => Machine.AlongRun (Sweep.visit (tickRecord cfg w.positions env))
    (TickServed cfg w.positions env) w.desk w.records
  | .report env rpt => w.desk.Genuine rpt → rpt.status.terminal →
    ∀ order ∈ w.desk.orders.om.lookup.lookup rpt.orderId, ∀ r ∈ w.records,
      r.hUnwind = some rpt.orderId → r.phase = .kIoc →
        IocServed cfg (w.positionsAfter order rpt) env (w.desk.report rpt env.wallNs)
          { r with hUnwind := none }
  | .moved _ => True

/-! ## One record -/

/-- A record in the IOC phase has an order. -/
def Waits (r : Record) : Prop := r.phase = .kIoc → r.hUnwind.isSome

section

variable {cfg : Config} {positions : PositionTracker} {env : UnwindEnv} {d : Desk} {r : Record}

theorem sendNewOrder_isSome (request : NewOrderRequest) :
    (d.sendNewOrder env request).2.isSome = accepted env d request := by
  unfold Desk.sendNewOrder accepted
  cases normaliseAndValidate env.cache request.instrumentId request.side request.type request.price
      request.qty with
  | none => rfl
  | some sized =>
    dsimp only
    split
    · next htaken => rw [htaken]; rfl
    · next hrefused => rw [Bool.not_eq_true] at hrefused; rw [hrefused]; rfl

theorem waits_of_ne (h : r.phase ≠ .kIoc) : Waits r := fun hioc => absurd hioc h

theorem sendIoc_waits (hioc : r.phase = .kIoc) (side : OrderSide) (qty crossBps : ℚ) :
    Waits (sendIoc env d r side qty crossBps).2 ↔
      if (iocRequest r side qty crossBps).price ≤ 0 then r.hUnwind.isSome
      else accepted env d (iocRequest r side qty crossBps) := by
  unfold sendIoc
  rw [show (iocRequest r side qty crossBps).price = crossPrice r.unwindPrice side crossBps from rfl]
  split
  · exact ⟨fun hwaits => hwaits hioc, fun hsome _ => hsome⟩
  · rw [← sendNewOrder_isSome]
    exact ⟨fun hwaits => hwaits hioc, fun hsome _ => hsome⟩

theorem advanceIoc_waits (hioc : r.phase = .kIoc) :
    Waits (advanceIoc cfg positions env d r).2 ↔ IocServed cfg positions env d r := by
  unfold advanceIoc IocServed
  split
  · next hflat => exact iff_of_true (waits_of_ne Phase.noConfusion) (Or.inl hflat)
  · next hflat =>
    rw [or_iff_right hflat]
    split
    · next hleft => exact iff_of_true (waits_of_ne Phase.noConfusion) (Or.inl hleft)
    · next hleft =>
      rw [or_iff_right hleft]
      exact sendIoc_waits (r := { r with
        retriesLeft := r.retriesLeft - 1, attempt := r.attempt + 1 }) hioc _ _ _

theorem tickRecord_waits (h : Waits r) :
    Waits (tickRecord cfg positions env d r).2 ↔ TickServed cfg positions env d r := by
  unfold tickRecord TickServed
  split
  · next hphase => exact iff_of_true h fun hpassive => absurd hpassive hphase
  · next hphase =>
    rw [not_not] at hphase
    split
    · next hflat =>
      exact iff_of_true (waits_of_ne Phase.noConfusion) fun _ _ => Or.inr (Or.inl hflat)
    · split
      · next htimeout =>
        rw [forall_prop_of_true hphase, forall_prop_of_true htimeout]
        dsimp only
        split
        -- the order whose cancel goes out is the one that the record waits for
        · next hlive =>
          refine iff_of_true (fun _ => ?_) (Or.inl hlive)
          show r.hUnwind.isSome
          cases hhandle : r.hUnwind with
          | none =>
            rw [hhandle] at hlive
            cases hlive
          | some orderId => rfl
        · next hlive =>
          rw [or_iff_right hlive]
          exact advanceIoc_waits (r := { r with phase := .kIoc }) rfl
      · next htimeout =>
        have hserved : r.phase = .kPassive → timedOut cfg env r →
            d.live r.hUnwind ∨ IocServed cfg positions env d r := fun _ h => absurd h htimeout
        refine iff_of_true (waits_of_ne ?_) hserved
        have hpassive : ∀ r' : Record, r'.phase = r.phase → r'.phase ≠ .kIoc := by
          intro r' hsame
          rw [hsame, hphase]
          exact Phase.noConfusion
        split
        · dsimp only
          split
          · exact hpassive _ rfl
          · refine hpassive _ ?_
            unfold sendPassive
            split <;> rfl
        · exact hpassive r rfl

theorem onTerminal_waits :
    Waits (onTerminal cfg positions env d r).2 ↔
      (r.phase = .kIoc → IocServed cfg positions env d { r with hUnwind := none }) := by
  unfold onTerminal
  dsimp only
  split
  · next hflat => exact iff_of_true (waits_of_ne Phase.noConfusion) fun _ => Or.inl hflat
  · split
    · next hphase =>
      refine iff_of_true (waits_of_ne ?_) fun hioc => absurd (hphase.symm.trans hioc) Phase.noConfusion
      unfold sendPassive
      split
      · rw [hphase]; exact Phase.noConfusion
      · rw [hphase]; exact Phase.noConfusion
    · next hphase =>
      rw [forall_prop_of_true hphase]
      exact advanceIoc_waits (r := { r with hUnwind := none }) hphase
    · next hphase =>
      refine iff_of_true (waits_of_ne ?_) fun hioc => absurd (hphase.symm.trans hioc) Phase.noConfusion
      rw [hphase]
      exact Phase.noConfusion

/-! ## One call -/

theorem armInstrument_waits (s : Desk × List Record) (inst : GracefulUnwinder.Instrument) :
    (∀ r ∈ (armInstrument cfg positions env s inst).2, Waits r) ↔
      (∀ r ∈ s.2, Waits r) ∧
        (flat positions (Record.armed cfg env inst) ∨ 0 < inst.priceRef) := by
  unfold armInstrument
  dsimp only
  split
  · next hflat => exact (and_iff_left (Or.inl hflat)).symm
  · next hflat =>
    rw [or_iff_right hflat]
    split
    -- the record starts in the IOC phase, without an order
    · next hprice =>
      have hioc : (Record.armed cfg env inst).phase = .kIoc := if_pos hprice
      refine iff_of_false (fun hwaits => ?_) fun h => absurd h.2 (not_lt.mpr hprice)
      have hlast := hwaits (Record.armed cfg env inst)
        (List.mem_append_right _ (List.mem_singleton.mpr rfl)) hioc
      cases hlast
    · next hprice =>
      have hpassive : (Record.armed cfg env inst).phase = .kPassive := if_neg hprice
      rw [and_iff_left (not_le.mp hprice), List.forall_mem_append, List.forall_mem_singleton]
      refine and_iff_left (waits_of_ne ?_)
      unfold sendPassive
      split
      · rw [hpassive]; exact Phase.noConfusion
      · rw [hpassive]; exact Phase.noConfusion

theorem arm_waits (instruments : List GracefulUnwinder.Instrument) :
    (∀ r ∈ (arm cfg positions env d instruments).2, Waits r) ↔
      ∀ inst ∈ instruments, flat positions (Record.armed cfg env inst) ∨ 0 < inst.priceRef := by
  suffices hfold : ∀ s : Desk × List Record,
      (∀ r ∈ (instruments.foldl (armInstrument cfg positions env) s).2, Waits r) ↔
        (∀ r ∈ s.2, Waits r) ∧
          ∀ inst ∈ instruments, flat positions (Record.armed cfg env inst) ∨ 0 < inst.priceRef by
    rw [arm, hfold]
    exact and_iff_right fun _ hr => absurd hr List.not_mem_nil
  induction instruments with
  | nil => exact fun s => (and_iff_left fun _ h => absurd h List.not_mem_nil).symm
  | cons inst instruments ih =>
    intro s
    rw [List.foldl_cons, ih, armInstrument_waits, List.forall_mem_cons, and_assoc]

theorem tick_waits {records : List Record} (h : ∀ r ∈ records, Waits r) :
    (∀ r ∈ (tick cfg positions env d records).2, Waits r) ↔
      Machine.AlongRun (Sweep.visit (tickRecord cfg positions env)) (TickServed cfg positions env) d
        records := by
  rw [tick, Sweep.forall_mem_sweep_iff]
  exact Machine.alongRun_congr_of_mem (fun r hr _ => tickRecord_waits (h r hr)) d

theorem onExecReport_waits {records : List Record} {rpt : ExecReport} (hlinked : Linked d records)
    (hgenuine : d.Genuine rpt) (h : ∀ r ∈ records, Waits r) :
    (∀ r ∈ (onExecReport cfg positions env (d.report rpt env.wallNs) records rpt).2, Waits r) ↔
      (rpt.status.terminal → ∀ r ∈ records, r.hUnwind = some rpt.orderId → r.phase = .kIoc →
        IocServed cfg positions env (d.report rpt env.wallNs) { r with hUnwind := none }) := by
  unfold onExecReport
  split
  · next hterminal =>
    rw [forall_prop_of_true hterminal]
    rcases Sweep.updateFirst_cases (f := onTerminal cfg positions env) (isReported rpt)
      (d.report rpt env.wallNs) records with ⟨hnone, heq⟩ | ⟨pre, r, post, rfl, hr, heq⟩
    · rw [heq]
      exact iff_of_true h fun r hr hhandle _ =>
        absurd (hlinked.isReported_of_held hgenuine hr hhandle) (hnone r hr)
    · have hhandle : r.hUnwind = some rpt.orderId := (of_decide_eq_true hr).2
      have hcons : Linked d (r :: (pre ++ post)) := hlinked.perm List.perm_middle.symm
      -- the record that is found is the only one with the order
      have hothers : ∀ r' ∈ pre ++ post, r'.hUnwind ≠ some rpt.orderId := fun r' hr' =>
        hcons.ne_of_held hhandle hr'
      have hwaits : ∀ r' ∈ pre ++ post, Waits r' := fun r' hr' =>
        h r' (List.perm_middle.mem_iff.mpr (List.mem_cons_of_mem r hr'))
      rw [heq]
      constructor
      · intro hnew r' hr' hhandle'
        rcases List.mem_cons.mp (List.perm_middle.mem_iff.mp hr') with rfl | hr'
        · refine onTerminal_waits.mp (hnew _ ?_)
          exact List.mem_append_right _ List.mem_cons_self
        · exact absurd hhandle' (hothers r' hr')
      · intro hserved r' hr'
        rcases List.mem_cons.mp (List.perm_middle.mem_iff.mp hr') with rfl | hr'
        · refine onTerminal_waits.mpr (hserved r ?_ hhandle)
          exact List.mem_append_right _ List.mem_cons_self
        · exact hwaits r' hr'
  · next hopen => exact iff_of_true h fun hterminal => absurd hterminal hopen

/-! ## The retries -/

/-- The IOC attempts that a record has made and those that it has left. -/
def budget (r : Record) : Nat := r.attempt + r.retriesLeft

theorem advanceIoc_budget : budget (advanceIoc cfg positions env d r).2 = budget r := by
  unfold advanceIoc
  split
  · rfl
  · split
    · rfl
    · next hleft =>
      have hspent : r.attempt + 1 + (r.retriesLeft - 1) = r.attempt + r.retriesLeft := by omega
      unfold sendIoc
      dsimp only
      split
      · exact hspent
      · exact hspent

theorem sendPassive_budget (side : OrderSide) (qty : ℚ) :
    budget (sendPassive env d r side qty).2 = budget r := by
  unfold sendPassive
  split <;> rfl

theorem tickRecord_budget : budget (tickRecord cfg positions env d r).2 = budget r := by
  unfold tickRecord
  split
  · rfl
  · split
    · rfl
    · split
      · dsimp only
        split
        · rfl
        · exact advanceIoc_budget
      · split
        · dsimp only
          split
          · rfl
          · exact sendPassive_budget _ _
        · rfl

theorem onTerminal_budget : budget (onTerminal cfg positions env d r).2 = budget r := by
  unfold onTerminal
  dsimp only
  split
  · rfl
  · split
    · exact sendPassive_budget _ _
    · exact advanceIoc_budget
    · rfl

end

/-- Every record accounts for the retries that it was armed with. -/
def Budgeted (cfg : Config) (records : List Record) : Prop :=
  ∀ r ∈ records, budget r = cfg.maxRetries

theorem Budgeted.of_map {cfg : Config} {records records' : List Record} (h : Budgeted cfg records)
    (hmap : records'.map budget = records.map budget) : Budgeted cfg records' := by
  unfold Budgeted at h ⊢
  rw [← List.forall_mem_map (f := budget) (P := fun n => n = cfg.maxRetries)] at h ⊢
  rw [hmap]
  exact h

theorem Budgeted.arm (cfg : Config) (positions : PositionTracker) (env : UnwindEnv) (d : Desk)
    (instruments : List GracefulUnwinder.Instrument) :
    Budgeted cfg (arm cfg positions env d instruments).2 := by
  suffices hfold : ∀ s : Desk × List Record, Budgeted cfg s.2 →
      Budgeted cfg (instruments.foldl (armInstrument cfg positions env) s).2 from
    hfold (d, []) fun _ hr => absurd hr List.not_mem_nil
  induction instruments with
  | nil => exact fun s hs => hs
  | cons inst instruments ih =>
    intro s hs
    refine ih _ ?_
    have harmed : budget (Record.armed cfg env inst) = cfg.maxRetries := Nat.zero_add _
    unfold armInstrument
    dsimp only
    split
    · exact hs
    · split
      · exact List.forall_mem_append.mpr ⟨hs, List.forall_mem_singleton.mpr harmed⟩
      · refine List.forall_mem_append.mpr ⟨hs, List.forall_mem_singleton.mpr ?_⟩
        rw [sendPassive_budget, harmed]

theorem budgeted_venueStep (cfg : Config) (w : Unwinding) (e : UnwindEvent)
    (h : Budgeted cfg w.records) : Budgeted cfg (w.venueStep cfg e).1.records := by
  unfold venueStep
  split
  · cases e with
    | arm env instruments => exact .arm cfg w.positions env w.desk instruments
    | tick env => exact h.of_map (Sweep.map_sweep (fun _ _ => tickRecord_budget) _ _)
    | report env rpt =>
      unfold step next
      dsimp only
      split
      · exact h
      · unfold onExecReport
        split
        · exact h.of_map (Sweep.map_updateFirst (fun _ _ => onTerminal_budget) _ _ _)
        · exact h
    | moved positions => exact h
  · exact h

/-! ## The run -/

section Run

variable {cfg : Config} {w : Unwinding}

theorem advancing_iff_waits (hlinked : Linked w.desk w.records) (hbudget : Budgeted cfg w.records) :
    Advancing cfg w ↔ ∀ r ∈ w.records, Waits r := by
  constructor
  · intro h r hr hioc
    rcases (h r hr).1 (by rw [hioc]; exact Phase.noConfusion) with hpassive | ⟨o, -, ho, -⟩
    · exact absurd (hioc.symm.trans hpassive) Phase.noConfusion
    · rw [ho]
      rfl
  · intro h r hr
    have hspent : r.attempt + r.retriesLeft = cfg.maxRetries := hbudget r hr
    refine ⟨fun hdone => ?_, by omega⟩
    cases hphase : r.phase with
    | kPassive => exact Or.inl hphase
    | kIoc =>
      obtain ⟨orderId, hhandle⟩ := Option.isSome_iff_exists.mp (h r hr hphase)
      obtain ⟨o, ho, rfl, hfor⟩ := hlinked.held r hr orderId hhandle
      exact Or.inr ⟨o, ho, hhandle, hfor⟩
    | kDone => exact absurd hphase hdone

/-- **One call.** -/
theorem waits_venueStep (e : UnwindEvent) (hlinked : Linked w.desk w.records)
    (h : ∀ r ∈ w.records, Waits r) :
    (∀ r ∈ (w.venueStep cfg e).1.records, Waits r) ↔ Served cfg w e := by
  unfold venueStep
  split
  · next hpossible =>
    cases e with
    | arm env instruments => exact arm_waits instruments
    | tick env => exact tick_waits h
    | report env rpt =>
      have hgenuine : w.desk.Genuine rpt := hpossible
      unfold step next Served
      dsimp only
      rw [forall_prop_of_true hgenuine]
      cases hlookup : w.desk.orders.om.lookup.lookup rpt.orderId with
      | none => exact iff_of_true h fun _ order horder => nomatch horder
      | some order =>
        dsimp only
        rw [onExecReport_waits hlinked hgenuine h]
        simp only [Option.mem_def, Option.some.injEq, forall_eq']
    | moved positions => exact iff_of_true h trivial
  -- a report that does not come
  · next hnever =>
    refine iff_of_true h ?_
    cases e with
    | arm env instruments => exact absurd trivial hnever
    | tick env => exact absurd trivial hnever
    | report env rpt => exact fun hgenuine => absurd hgenuine hnever
    | moved positions => exact absurd trivial hnever

end Run

/-- **When an unwind goes on.** In a run of any calls, with any prices, clocks and answers of the
gateway, no unfinished record ever stands still without an order, with its retries kept to, exactly
as long as every call serves its records. -/
theorem advancing_iff (cfg : Config) (nextOrderId : Nat) (sent : List SendEvent)
    (positions : PositionTracker) (es : List UnwindEvent) :
    Machine.AllStates (venueStep cfg) (Advancing cfg) (start nextOrderId sent positions) es ↔
      Machine.AlongRun (venueStep cfg) (Served cfg) (start nextOrderId sent positions) es := by
  refine Machine.allStates_iff_alongRun
    (J := fun w => Linked w.desk w.records ∧ Budgeted cfg w.records)
    (fun w e hw => ⟨linked_venueStep cfg w e hw.1, budgeted_venueStep cfg w e hw.2⟩)
    (fun w e hw hadvancing => ?_)
    ⟨linked_start nextOrderId sent positions, fun _ hr => absurd hr List.not_mem_nil⟩
    (fun _ hr => absurd hr List.not_mem_nil) es
  rw [advancing_iff_waits (linked_venueStep cfg w e hw.1) (budgeted_venueStep cfg w e hw.2)]
  exact waits_venueStep e hw.1 ((advancing_iff_waits hw.1 hw.2).mp hadvancing)

/-! ## Records that were not served -/

instance (o : OpenOrder) (r : Record) : Decidable (o.For r) :=
  inferInstanceAs (Decidable (_ ∧ _))

instance (w : Unwinding) (r : Record) : Decidable (w.Advances r) :=
  inferInstanceAs (Decidable (_ ∨ ∃ o ∈ w.desk.outstanding, _ ∧ o.For r))

instance (cfg : Config) : DecidablePred (Advancing cfg) := fun w =>
  inferInstanceAs (Decidable (∀ r ∈ w.records, _ ∧ _))

/-- Without a reference price the record starts in the IOC phase without an order; and so it ends up
when the gateway does not take its IOC order after the timeout. -/
theorem not_advancing :
    ¬ Machine.AllStates (venueStep {}) (Advancing {}) longTwo
        [.arm (unwindEnv true 0) [pricedAt 0]] ∧
    ¬ Machine.AllStates (venueStep {}) (Advancing {}) longTwo
        [.arm (unwindEnv true 0) [pricedAt 100], .report (unwindEnv false 8) (reportOn 1 .REJECTED 0),
          .tick (unwindEnv false 45)] := by
  decide +kernel

section Stuck

variable {cfg : Config} {w : Unwinding} {r : Record}

/-- A call that is not `arm` leaves a record in the IOC phase without an order as it is. -/
theorem stuck_venueStep (hioc : r.phase = .kIoc) (hnone : r.hUnwind = none) (hr : r ∈ w.records)
    {e : UnwindEvent} (harm : ∀ env instruments, e ≠ .arm env instruments) :
    r ∈ (w.venueStep cfg e).1.records := by
  unfold venueStep
  split
  · cases e with
    | arm env instruments => exact absurd rfl (harm env instruments)
    | tick env =>
      refine Sweep.mem_sweep_of_fixed (fun d => ?_) hr w.desk
      rw [tickRecord, if_pos (by rw [hioc]; exact Phase.noConfusion)]
    | report env rpt =>
      unfold step next
      dsimp only
      split
      · exact hr
      · unfold onExecReport
        split
        · next order _ _ =>
          rcases Sweep.updateFirst_cases
            (f := onTerminal cfg (w.positionsAfter order rpt) env) (isReported rpt)
            (w.desk.report rpt env.wallNs) w.records with ⟨-, heq⟩ | ⟨pre, r', post, hmem, hr', heq⟩
          · rw [heq]
            exact hr
          · rw [heq]
            rw [hmem] at hr
            -- the record found has an order
            have hne : r ≠ r' := by
              rintro rfl
              have hsome := (of_decide_eq_true hr').2
              rw [hnone] at hsome
              cases hsome
            refine List.perm_middle.mem_iff.mpr (List.mem_cons_of_mem _ ?_)
            exact (List.mem_cons.mp (List.perm_middle.mem_iff.mp hr)).resolve_left hne
        · exact hr
    | moved positions => exact hr
  · exact hr

/-- **A record that was not served stays so**: the unwind is pending after every later call. -/
theorem stuck_run (hioc : r.phase = .kIoc) (hnone : r.hUnwind = none) (hr : r ∈ w.records)
    {es : List UnwindEvent} (harm : ∀ e ∈ es, ∀ env instruments, e ≠ .arm env instruments) :
    ∀ b ∈ Machine.outputs (venueStep cfg) w es, b = true := by
  induction es generalizing w with
  | nil => exact fun b hb => absurd hb List.not_mem_nil
  | cons e es ih =>
    have hnext : r ∈ (w.venueStep cfg e).1.records :=
      stuck_venueStep hioc hnone hr (harm e List.mem_cons_self)
    intro b hb
    rcases List.mem_append.mp hb with hb | hb
    · unfold venueStep at hb hnext
      split at hb
      · next hpossible =>
        rw [if_pos hpossible] at hnext
        rw [List.mem_singleton.mp hb]
        refine List.any_eq_true.mpr ⟨r, hnext, decide_eq_true ?_⟩
        rw [hioc]
        exact Phase.noConfusion
      · cases hb
    · exact ih hnext (fun e' he' => harm e' (List.mem_cons_of_mem e he')) b hb

end Stuck

end BptCore.Strategy.Unwinding
