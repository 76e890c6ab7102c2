import BptCore.Strategy.AvellanedaStoikov.OrderSlots

/-!
# The quotes and their handles

The quoting places a quote only into an empty slot, and a slot is emptied when its order is over.
What loses a quote is a universe that is built anew, an instrument that is removed, and a report
that brings back an order that was over.

* **`HandlesOpen`** — every handle holds an open order of its slot: this is never lost.
* **`QuotesHeld`** — every open quote is held, so there is one at most of an instrument and side.
* **`quotes_held_iff`** — when every open quote is held throughout a run.
-/

namespace BptCore.Strategy

namespace AvellanedaStoikov

variable {Sig : Type} {cfg : Config Sig} {env : Surroundings}

/-! ## The strategy -/

/-- The order that a slot of an instrument holds. -/
def holder (s : AvellanedaStoikov Sig) (instrumentId : Nat) (slot : Slot) : Option Nat :=
  (s.state.lookup instrumentId).bind fun st => st.handle slot

/-- Every handle holds an open order of its instrument and slot. -/
structure HandlesOpen (s : AvellanedaStoikov Sig) : Prop where
  fresh : s.desk.Fresh
  own : ∀ id st, s.state.lookup id = some st → st.instrumentId = id
  opened : ∀ id slot orderId, s.holder id slot = some orderId →
    openSlot s.desk orderId = some (id, slot)

/-- Every open order in a slot of the kind has its handle. -/
def HoldsAll (kind : Slot → Prop) (s : AvellanedaStoikov Sig) : Prop :=
  ∀ id slot orderId, kind slot → openSlot s.desk orderId = some (id, slot) →
    s.holder id slot = some orderId

section Steps

variable {s s' : AvellanedaStoikov Sig} {kind : Slot → Prop}

theorem HandlesOpen.holdsOpen (h : s.HandlesOpen) {id : Nat} {st : InstrumentState Sig}
    (hst : s.state.lookup id = some st) : HoldsOpen s.desk st := by
  intro slot orderId hhandle
  rw [h.own id st hst]
  refine h.opened id slot orderId ?_
  rw [holder, hst]
  exact hhandle

theorem HoldsAll.holdsSlot (h : s.HoldsAll kind) {id : Nat} {st : InstrumentState Sig}
    (hst : s.state.lookup id = some st) (hown : st.instrumentId = id) {slot : Slot}
    (hkind : kind slot) : HoldsSlot s.desk st slot := by
  intro orderId hopen
  rw [hown] at hopen
  have hheld := h id slot orderId hkind hopen
  rwa [holder, hst] at hheld

theorem holder_commit (id : Nat) (w : Work Sig) (k : Nat) (slot : Slot) :
    (s.commit id w).1.holder k slot = if k = id then w.st.handle slot else s.holder k slot := by
  unfold holder commit
  dsimp only
  rw [Table.lookup_insert_eq]
  split <;> rfl

theorem own_commit (hown : ∀ k st, s.state.lookup k = some st → st.instrumentId = k) {id : Nat}
    {w : Work Sig} (hid : w.st.instrumentId = id) :
    ∀ k st, (s.commit id w).1.state.lookup k = some st → st.instrumentId = k := by
  intro k st hst
  have hinsert : (s.commit id w).1.state = s.state.insert id w.st := rfl
  rw [hinsert, Table.lookup_insert_eq] at hst
  split at hst
  · next hk =>
    cases hst
    rw [hid, hk]
  · exact hown k st hst

/-- The work on an instrument leaves the handles open. -/
theorem HandlesOpen.commit (h : s.HandlesOpen) {id : Nat} {st : InstrumentState Sig}
    (hst : s.state.lookup id = some st) {w : Work Sig}
    (hled : Led { desk := s.desk, st := st } w) : (s.commit id w).1.HandlesOpen where
  fresh := hled.fresh
  own := own_commit h.own (hled.instrumentId.trans (h.own id st hst))
  opened k slot orderId hheld := by
    have hid := h.own id st hst
    rw [holder_commit] at hheld
    split at hheld
    · next hk =>
      have hopen := hled.holdsOpen slot orderId hheld
      rwa [hled.instrumentId, hid, ← hk] at hopen
    · next hk =>
      exact (hled.elsewhere k slot orderId (by rwa [hid])).mpr (h.opened k slot orderId hheld)

/-- It loses no order. -/
theorem HoldsAll.commit (h : s.HoldsAll kind) (hopen : s.HandlesOpen) {id : Nat}
    {st : InstrumentState Sig} (hst : s.state.lookup id = some st) {w : Work Sig}
    (hled : Led { desk := s.desk, st := st } w) : (s.commit id w).1.HoldsAll kind := by
  intro k slot orderId hkind hslot
  have hid := hopen.own id st hst
  rw [holder_commit]
  split
  · next hk =>
    refine hled.holdsSlot slot (h.holdsSlot hst hid hkind) orderId ?_
    rw [hled.instrumentId, hid, ← hk]
    exact hslot
  · next hk =>
    exact h k slot orderId hkind ((hled.elsewhere k slot orderId (by rwa [hid])).mp hslot)

/-- The states of some instruments are dropped, and no order changes its slot. -/
structure Drops (gone : Nat → Prop) (s s' : AvellanedaStoikov Sig) : Prop where
  fresh : s'.desk.Fresh
  own : ∀ id st, s'.state.lookup id = some st → st.instrumentId = id
  openSlot_eq : ∀ orderId, openSlot s'.desk orderId = openSlot s.desk orderId
  holder_none : ∀ id slot, gone id → s'.holder id slot = none
  holder_eq : ∀ id slot, ¬ gone id → s'.holder id slot = s.holder id slot

variable {gone : Nat → Prop}

theorem HandlesOpen.drops (h : s.HandlesOpen) (hdrops : Drops gone s s') : s'.HandlesOpen where
  fresh := hdrops.fresh
  own := hdrops.own
  opened id slot orderId hheld := by
    rw [hdrops.openSlot_eq]
    by_cases hgone : gone id
    · rw [hdrops.holder_none id slot hgone] at hheld
      cases hheld
    · rw [hdrops.holder_eq id slot hgone] at hheld
      exact h.opened id slot orderId hheld

/-- Every order stays held when no open one is of an instrument that is dropped. -/
theorem HoldsAll.drops_iff (h : s.HoldsAll kind) (hdrops : Drops gone s s') :
    s'.HoldsAll kind ↔ ∀ id slot orderId, kind slot →
      openSlot s.desk orderId = some (id, slot) → ¬ gone id := by
  unfold HoldsAll
  refine forall₃_congr fun id slot orderId => forall_congr' fun hkind => ?_
  rw [hdrops.openSlot_eq]
  refine forall_congr' fun hopen => ?_
  by_cases hgone : gone id
  · rw [hdrops.holder_none id slot hgone]
    exact iff_of_false (Option.some_ne_none _).symm (not_not.mpr hgone)
  · rw [hdrops.holder_eq id slot hgone]
    exact iff_of_true (h id slot orderId hkind hopen) hgone

end Steps

/-! ## Reports -/

section Reports

variable {s s' : AvellanedaStoikov Sig} {rpt : ExecReport}

/-- What a report settles: the handle of an order that it ends is reset. -/
structure Settles (env : Surroundings) (rpt : ExecReport) (s s' : AvellanedaStoikov Sig) :
    Prop where
  fresh : s'.desk.Fresh
  own : ∀ id st, s'.state.lookup id = some st → st.instrumentId = id
  openSlot_eq : ∀ orderId,
    openSlot s'.desk orderId = openSlot (s.desk.onExecReport env rpt) orderId
  holder_iff : ∀ id slot orderId, s'.holder id slot = some orderId ↔
    s.holder id slot = some orderId ∧ ¬ (rpt.status.terminal = true ∧ orderId = rpt.orderId)

/-- The report brings back an order of the kind that was over. -/
def Revives (kind : Slot → Prop) (s : AvellanedaStoikov Sig) (rpt : ExecReport) : Prop :=
  ∃ os, s.desk.om.lookup.lookup rpt.orderId = some os ∧ os.status.terminal = true ∧
    kind (.ofOrder ((s.desk.tags.lookup rpt.orderId).getD .quote) os.side) ∧
    rpt.status.terminal = false

theorem HandlesOpen.settles (h : s.HandlesOpen) (hsettles : Settles env rpt s s') :
    s'.HandlesOpen where
  fresh := hsettles.fresh
  own := hsettles.own
  opened id slot orderId hheld := by
    obtain ⟨hold, hnot⟩ := (hsettles.holder_iff id slot orderId).mp hheld
    have hopen := h.opened id slot orderId hold
    rw [hsettles.openSlot_eq, openSlot_onExecReport]
    split
    · next hid =>
      -- the report goes on with the order that the slot holds
      have hgoes : rpt.status.terminal = false := by
        by_contra hterminal
        exact hnot ⟨Bool.not_eq_false _ ▸ hterminal, hid.symm⟩
      unfold openSlot at hopen
      split at hopen
      · cases hopen
      · next os hos =>
        split at hopen
        · cases hopen
        · rw [if_neg (Bool.not_eq_true _ ▸ hgoes)]
          exact hopen
    · exact hopen

/-- Every order stays held, but for one that is brought back. -/
theorem holdsAll_iff_not_revives {kind : Slot → Prop} (hopen : s.HandlesOpen)
    (h : s.HoldsAll kind) (hsettles : Settles env rpt s s') :
    s'.HoldsAll kind ↔ ¬ s.Revives kind rpt := by
  constructor
  · rintro hafter ⟨os, hos, hterminal, hkind, hgoes⟩
    have hslot : openSlot s'.desk rpt.orderId = some (os.instrumentId,
        .ofOrder ((s.desk.tags.lookup rpt.orderId).getD .quote) os.side) := by
      rw [hsettles.openSlot_eq, openSlot_onExecReport, if_pos rfl, hos]
      exact if_neg (Bool.not_eq_true _ ▸ hgoes)
    have hheld := hafter _ _ _ hkind hslot
    obtain ⟨os', hos', hnot, -⟩ := openSlot_eq_some_iff.mp
      (hopen.opened _ _ _ ((hsettles.holder_iff _ _ _).mp hheld).1)
    rw [hos] at hos'
    cases hos'
    rw [hterminal] at hnot
    cases hnot
  · intro hnot id slot orderId hkind hslot
    rw [hsettles.openSlot_eq, openSlot_onExecReport] at hslot
    rw [hsettles.holder_iff]
    split at hslot
    · next hid =>
      subst hid
      split at hslot
      · cases hslot
      · next os hos =>
        split at hslot
        · cases hslot
        · next hgoes =>
          cases hslot
          refine ⟨h _ _ _ hkind (openSlot_eq_some_iff.mpr ⟨os, hos, ?_, rfl, rfl⟩),
            fun hends => hgoes hends.1⟩
          by_contra hterminal
          exact hnot ⟨os, hos, Bool.not_eq_false _ ▸ hterminal, hkind, Bool.not_eq_true _ ▸ hgoes⟩
    · next hid =>
      exact ⟨h id slot orderId hkind hslot, fun hends => hid hends.2.symm⟩

/-- A fill touches neither handles nor orders: a pause cancels, and a cancel ends nothing. -/
structure SameSlots (w w' : Work Sig) : Prop where
  fresh : w.desk.Fresh → w'.desk.Fresh
  instrumentId : w'.st.instrumentId = w.st.instrumentId
  handle : ∀ slot, w'.st.handle slot = w.st.handle slot
  openSlot_eq : ∀ orderId, openSlot w'.desk orderId = openSlot w.desk orderId

theorem fillWork_sameSlots (w : Work Sig) (tag : OrderTag) (rpt : ExecReport) (prior after : ℚ) :
    SameSlots w (fillWork cfg env w tag rpt prior after) := by
  unfold fillWork
  dsimp only
  split
  · unfold pause cancelQuotes
    refine ⟨fun h => (h.sendCancel env _).sendCancel env _, rfl, fun _ => rfl, fun orderId => ?_⟩
    dsimp only
    rw [openSlot_sendCancel, openSlot_sendCancel]
  · exact ⟨fun h => h, rfl, fun _ => rfl, fun _ => rfl⟩

theorem backoff_handle (st : InstrumentState Sig) (status : ExecStatus) (source : RejectSource) :
    (backoff env st status source).instrumentId = st.instrumentId ∧
      ∀ slot, (backoff env st status source).handle slot = st.handle slot := by
  unfold backoff
  split
  · exact ⟨rfl, fun _ => rfl⟩
  · split <;> exact ⟨rfl, fun _ => rfl⟩

variable (cfg env) in
theorem reportWork_slots (w : Work Sig) (tag : OrderTag) (rpt : ExecReport)
    (source : RejectSource) (prior after : ℚ) (own : Slot)
    (hown : ∀ slot, w.st.handle slot = some rpt.orderId → slot = own) :
    (w.desk.Fresh → (reportWork cfg env w tag rpt source prior after).desk.Fresh) ∧
    (reportWork cfg env w tag rpt source prior after).st.instrumentId = w.st.instrumentId ∧
    (∀ slot orderId,
      (reportWork cfg env w tag rpt source prior after).st.handle slot = some orderId ↔
        w.st.handle slot = some orderId ∧
          ¬ (rpt.status.terminal = true ∧ orderId = rpt.orderId)) ∧
    ∀ orderId, openSlot (reportWork cfg env w tag rpt source prior after).desk orderId =
      openSlot w.desk orderId := by
  have hfill : SameSlots w
      (if rpt.status.isFill then fillWork cfg env w tag rpt prior after else w) := by
    split
    · exact fillWork_sameSlots w tag rpt prior after
    · exact ⟨fun h => h, rfl, fun _ => rfl, fun _ => rfl⟩
  unfold reportWork
  dsimp only
  generalize (if rpt.status.isFill then fillWork cfg env w tag rpt prior after else w) = w₁
    at hfill ⊢
  refine ⟨hfill.fresh, ?_, fun slot orderId => ?_, hfill.openSlot_eq⟩
  · rw [(backoff_handle _ _ _).1]
    split
    · rw [InstrumentState.release_instrumentId, hfill.instrumentId]
    · exact hfill.instrumentId
  · rw [(backoff_handle _ _ _).2]
    split
    · next hends =>
      rw [w₁.st.handle_release fun slot h => hown slot (hfill.handle slot ▸ h), hfill.handle]
      split
      · next hheld =>
        refine iff_of_false (Option.some_ne_none _).symm ?_
        rintro ⟨h, hnot⟩
        exact hnot ⟨hends, Option.some.inj (h.symm.trans hheld)⟩
      · next hother =>
        refine ⟨fun h => ⟨h, ?_⟩, And.left⟩
        rintro ⟨-, rfl⟩
        exact hother h
    · next hgoes =>
      rw [hfill.handle]
      exact ⟨fun h => ⟨h, fun hends => hgoes hends.1⟩, And.left⟩

/-- An order of the report that is held is on record under the instrument and slot of its handle. -/
theorem HandlesOpen.held (h : s.HandlesOpen) {id : Nat} {slot : Slot} {orderId : Nat}
    (hheld : s.holder id slot = some orderId) {os : OrderState}
    (hos : s.desk.om.lookup.lookup orderId = some os) :
    os.instrumentId = id ∧ .ofOrder ((s.desk.tags.lookup orderId).getD .quote) os.side = slot := by
  obtain ⟨os', hos', -, hid, hslot⟩ := openSlot_eq_some_iff.mp (h.opened id slot _ hheld)
  rw [hos] at hos'
  cases hos'
  exact ⟨hid, hslot⟩

theorem settles_commit (h : s.HandlesOpen) {os : OrderState}
    (hos : s.desk.om.lookup.lookup rpt.orderId = some os) {st : InstrumentState Sig}
    (hst : s.state.lookup os.instrumentId = some st) (positions : PositionTracker)
    (tag : OrderTag) (source : RejectSource) (prior after : ℚ) :
    Settles env rpt s
      (commit { s with desk := s.desk.onExecReport env rpt, positions := positions }
        os.instrumentId
        (reportWork cfg env { desk := s.desk.onExecReport env rpt, st := st } tag rpt source prior
          after)).1 := by
  have hheld : ∀ slot, s.holder os.instrumentId slot = st.handle slot := by
    intro slot
    unfold holder
    rw [hst]
    rfl
  obtain ⟨hfresh, hid, hhandle, hslots⟩ := reportWork_slots cfg env
    { desk := s.desk.onExecReport env rpt, st := st } tag rpt source prior after
    (.ofOrder ((s.desk.tags.lookup rpt.orderId).getD .quote) os.side)
    fun slot hslot => (h.held ((hheld slot).trans hslot) hos).2.symm
  refine ⟨hfresh (h.fresh.onExecReport env rpt),
    own_commit h.own (hid.trans (h.own _ _ hst)), hslots, fun k slot orderId => ?_⟩
  rw [holder_commit]
  split
  · next hk =>
    rw [hk, hheld]
    exact hhandle slot orderId
  · next hk =>
    refine ⟨fun hother => ⟨hother, ?_⟩, And.left⟩
    rintro ⟨-, rfl⟩
    exact hk (h.held hother hos).1.symm

variable (cfg env) in
/-- A report is work on the instrument of its order, or only touches its record. -/
theorem onExecReport_cases (s : AvellanedaStoikov Sig) (rpt : ExecReport) (source : RejectSource) :
    ((∀ os, s.desk.om.lookup.lookup rpt.orderId = some os →
        s.state.lookup os.instrumentId = none) ∧
      s.onExecReport cfg env rpt source = ({ s with desk := s.desk.onExecReport env rpt }, [])) ∨
    ∃ os st tag prior after, s.desk.om.lookup.lookup rpt.orderId = some os ∧
      s.state.lookup os.instrumentId = some st ∧
      s.onExecReport cfg env rpt source =
        commit
          { s with
            desk := s.desk.onExecReport env rpt
            positions :=
              if rpt.status.isFill then
                s.positions.onFill os.instrumentId st.exchangeId rpt.side rpt.filledQty rpt.price
              else s.positions }
          os.instrumentId
          (reportWork cfg env { desk := s.desk.onExecReport env rpt, st := st } tag rpt source prior
            after) := by
  by_cases hunknown : ∀ os, s.desk.om.lookup.lookup rpt.orderId = some os →
      s.state.lookup os.instrumentId = none
  · exact .inl ⟨hunknown, s.onExecReport_of_unknown cfg env source hunknown⟩
  · push Not at hunknown
    obtain ⟨os, hos, hsome⟩ := hunknown
    obtain ⟨st, hst⟩ := Option.ne_none_iff_exists'.mp hsome
    exact .inr ⟨os, st, _, _, _, hos, hst, s.onExecReport_of_lookup cfg env source hos hst⟩

theorem onExecReport_settles (h : s.HandlesOpen) (rpt : ExecReport) (source : RejectSource) :
    Settles env rpt s (s.onExecReport cfg env rpt source).1 := by
  rcases onExecReport_cases cfg env s rpt source with
    ⟨hunknown, heq⟩ | ⟨os, st, tag, prior, after, hos, hst, heq⟩
  · rw [heq]
    refine ⟨h.fresh.onExecReport env rpt, h.own, fun _ => rfl,
      fun id slot orderId => ⟨fun hheld => ⟨hheld, ?_⟩, And.left⟩⟩
    rintro ⟨-, rfl⟩
    obtain ⟨os, hos, -, rfl, -⟩ := openSlot_eq_some_iff.mp (h.opened id slot _ hheld)
    have hnone := hunknown os hos
    unfold holder at hheld
    dsimp only at hheld
    rw [hnone] at hheld
    cases hheld
  · rw [heq]
    exact settles_commit h hos hst _ _ _ _ _

end Reports

/-! ## Every callback -/

/-- The callback forgets the state of the instrument. -/
def Callback.Forgets : Callback → Nat → Prop
  | .instrumentSnapshot _, _ => True
  | .instrumentDelta inst _ .REMOVE, id => id = inst.instrument.instrumentId
  | _, _ => False

section Callbacks

variable {s : AvellanedaStoikov Sig}

/-- Emplacing a fresh state overwrites nothing, so no handle changes. -/
theorem lookup_emplace_make (t : Table Nat (InstrumentState Sig)) (r : ResolvedInstrument) (k : Nat) :
    (t.emplace r.instrument.instrumentId (makeInstrumentState cfg.signals r)).lookup k =
      (t.lookup k).or
        (if k = r.instrument.instrumentId then some (makeInstrumentState cfg.signals r) else none) :=
  Table.lookup_emplace _ _ _ _

theorem Drops.refl (h : s.HandlesOpen) : Drops (fun _ => False) s s where
  fresh := h.fresh
  own := h.own
  openSlot_eq _ := rfl
  holder_none _ _ hgone := hgone.elim
  holder_eq _ _ _ := rfl

theorem update_drops (h : s.HandlesOpen) (id : Nat)
    (f : InstrumentState Sig → InstrumentState Sig)
    (hf : ∀ st, (f st).instrumentId = st.instrumentId ∧
      ∀ slot, (f st).handle slot = st.handle slot) :
    Drops (fun _ => False) s (s.update id f) := by
  unfold update
  split
  · exact .refl h
  · next st hst =>
    refine ⟨h.fresh, ?_, fun _ => rfl, fun _ _ hgone => hgone.elim, fun k slot _ => ?_⟩
    · intro k st' hst'
      dsimp only at hst'
      rw [Table.lookup_insert_eq] at hst'
      split at hst'
      · next hk =>
        cases hst'
        rw [(hf st).1, h.own id st hst, hk]
      · exact h.own k st' hst'
    · unfold holder
      dsimp only
      rw [Table.lookup_insert_eq]
      split
      · next hk =>
        rw [hk, hst]
        exact (hf st).2 slot
      · rfl

theorem onInstrumentSnapshot_drops (h : s.HandlesOpen) (resolved : List ResolvedInstrument) :
    Drops (fun _ => True) s (s.onInstrumentSnapshot cfg resolved) := by
  -- every state of the new universe is fresh, under its own id
  have hmade : ∀ k st, (s.onInstrumentSnapshot cfg resolved).state.lookup k = some st →
      st.instrumentId = k ∧ ∀ slot, st.handle slot = none := by
    refine List.foldlRecOn (motive := fun t : Table Nat (InstrumentState Sig) =>
      ∀ k st, t.lookup k = some st → st.instrumentId = k ∧ ∀ slot, st.handle slot = none)
      resolved _ ?_ ?_
    · intro k st hst
      simp at hst
    · intro t ht r _ k st hst
      rw [lookup_emplace_make] at hst
      rcases Option.or_eq_some_iff.mp hst with hold | ⟨-, hnew⟩
      · exact ht k st hold
      · split at hnew
        · next hk =>
          cases hnew
          exact ⟨hk.symm, fun slot => by cases slot <;> rfl⟩
        · cases hnew
  refine ⟨h.fresh, fun k st hst => (hmade k st hst).1, fun _ => rfl, fun k slot _ => ?_,
    fun _ _ hstays => absurd trivial hstays⟩
  unfold holder
  cases hst : (s.onInstrumentSnapshot cfg resolved).state.lookup k with
  | none => rfl
  | some st => exact (hmade k st hst).2 slot

theorem onInstrumentDelta_drops (h : s.HandlesOpen) (inst : ResolvedInstrument)
    (inUniverse : Bool) (updateType : DeltaUpdateType) :
    Drops (Callback.Forgets (.instrumentDelta inst inUniverse updateType)) s
      (s.onInstrumentDelta cfg inst inUniverse updateType) := by
  unfold onInstrumentDelta
  cases updateType with
  | MODIFY => exact .refl h
  | ADD =>
    dsimp only
    split
    · refine ⟨h.fresh, fun k st hst => ?_, fun _ => rfl, fun _ _ hgone => hgone.elim,
        fun k slot _ => ?_⟩
      · rw [lookup_emplace_make] at hst
        rcases Option.or_eq_some_iff.mp hst with hold | ⟨-, hnew⟩
        · exact h.own k st hold
        · split at hnew
          · next hk =>
            cases hnew
            exact hk.symm
          · cases hnew
      · unfold holder
        dsimp only
        rw [lookup_emplace_make]
        cases s.state.lookup k with
        | some st => rfl
        | none =>
          rw [Option.none_or]
          split
          · cases slot <;> rfl
          · rfl
    · exact .refl h
  | REMOVE =>
    refine ⟨h.fresh, fun k st hst => ?_, fun _ => rfl, fun k slot hgone => ?_,
      fun k slot hstays => ?_⟩
    · dsimp only at hst
      rw [Table.lookup_erase_eq] at hst
      split at hst
      · cases hst
      · exact h.own k st hst
    · unfold holder
      dsimp only
      have hk : k = inst.instrument.instrumentId := hgone
      rw [Table.lookup_erase_eq, if_pos hk]
      rfl
    · unfold holder
      dsimp only
      have hk : k ≠ inst.instrument.instrumentId := hstays
      rw [Table.lookup_erase_eq, if_neg hk]

theorem onRefdataStaleChanged_drops (h : s.HandlesOpen) (stale : Bool) :
    Drops (fun _ => False) s (s.onRefdataStaleChanged env stale).1 := by
  have hstate := (s.onRefdataStaleChanged_rest env stale).1
  have hdesk := s.onRefdataStaleChanged_desk env
    (P := fun d => d.Fresh ∧ ∀ orderId, openSlot d orderId = openSlot s.desk orderId)
    (fun d handle hd => ⟨hd.1.sendCancel env handle,
      fun orderId => (openSlot_sendCancel handle orderId).trans (hd.2 orderId)⟩)
    ⟨h.fresh, fun _ => rfl⟩ stale
  refine ⟨hdesk.1, hstate ▸ h.own, hdesk.2, fun _ _ hgone => hgone.elim, fun id slot _ => ?_⟩
  unfold holder
  rw [hstate]

variable (cfg) in
/-- A tick is work on its instrument, or nothing. -/
theorem onBbo_cases (env : Surroundings) (s : AvellanedaStoikov Sig) (tick : MdMarketData) :
    s.onBbo cfg env tick = (s, []) ∨
      ∃ st, s.state.lookup tick.instrumentId = some st ∧
        s.onBbo cfg env tick = s.commit tick.instrumentId (s.tickWork cfg env st tick) := by
  unfold onBbo
  split
  · exact .inl rfl
  · split
    · exact .inl rfl
    · next st hst =>
      split
      · exact .inl rfl
      · exact .inr ⟨st, hst, rfl⟩

/-- Of the callbacks, only ticks and reports do more than forget instruments. -/
theorem step_drops (h : s.HandlesOpen) {c : Callback} (hbbo : ∀ tick, c ≠ .bbo tick)
    (hreport : ∀ rpt source, c ≠ .execReport rpt source) (env : Surroundings) :
    Drops c.Forgets s (s.step cfg (c, env)).1 := by
  cases c with
  | bbo tick => exact absurd rfl (hbbo tick)
  | execReport rpt source => exact absurd rfl (hreport rpt source)
  | instrumentSnapshot resolved => exact onInstrumentSnapshot_drops h resolved
  | instrumentDelta inst inUniverse updateType =>
    exact onInstrumentDelta_drops h inst inUniverse updateType
  | trade tick => exact update_drops h _ _ fun st => ⟨rfl, fun _ => rfl⟩
  | orderBook book => exact update_drops h _ _ fun st => ⟨rfl, fun _ => rfl⟩
  | toxicityUpdate update => exact update_drops h _ _ fun st => ⟨rfl, fun _ => rfl⟩
  | refdataStaleChanged stale => exact onRefdataStaleChanged_drops h stale
  | accountSnapshot snap =>
    have hstate := s.onAccountSnapshot_state snap
    have hdesk := s.onAccountSnapshot_desk snap
    show Drops _ s (s.onAccountSnapshot snap).1
    refine ⟨hdesk ▸ h.fresh, hstate ▸ h.own, fun orderId => by rw [hdesk],
      fun _ _ hgone => hgone.elim, fun k slot _ => ?_⟩
    unfold holder
    rw [hstate]

variable (cfg) in
theorem HandlesOpen.step (h : s.HandlesOpen) (e : Callback × Surroundings) :
    (s.step cfg e).1.HandlesOpen := by
  obtain ⟨c, env⟩ := e
  have hother : (∀ tick, c ≠ .bbo tick) → (∀ rpt source, c ≠ .execReport rpt source) →
      (s.step cfg (c, env)).1.HandlesOpen :=
    fun hbbo hreport => h.drops (step_drops h hbbo hreport env)
  cases c with
  | bbo tick =>
    rcases onBbo_cases cfg env s tick with hskip | ⟨st, hst, hwork⟩
    · exact (congrArg (fun r => r.1.HandlesOpen) hskip).mpr h
    · refine (congrArg (fun r => r.1.HandlesOpen) hwork).mpr ?_
      exact h.commit hst (tickWork_led h.fresh (h.holdsOpen hst) tick)
  | execReport rpt source => exact h.settles (onExecReport_settles h rpt source)
  | _ => exact hother (fun _ h => by cases h) (fun _ _ h => by cases h)

theorem HandlesOpen.start (nextOrderId : Nat) :
    HandlesOpen ({ desk := { nextOrderId := nextOrderId } } : AvellanedaStoikov Sig) where
  fresh orderId h := by cases h
  own id st hst := by cases hst
  opened id slot orderId h := by cases h

/-- What a callback must not meet: an open order of an instrument that it forgets, or an order that
is over and that its report brings back. -/
def KeepsOrders (kind : Slot → Prop) (s : AvellanedaStoikov Sig) : Callback × Surroundings → Prop
  | (.execReport rpt _, _) => ¬ s.Revives kind rpt
  | (c, _) => ∀ id slot orderId, kind slot → openSlot s.desk orderId = some (id, slot) →
    ¬ c.Forgets id

variable (cfg) in
theorem holdsAll_step_iff {kind : Slot → Prop} (hopen : s.HandlesOpen) (h : s.HoldsAll kind)
    (e : Callback × Surroundings) : (s.step cfg e).1.HoldsAll kind ↔ s.KeepsOrders kind e := by
  obtain ⟨c, env⟩ := e
  have hother : (∀ tick, c ≠ .bbo tick) → (∀ rpt source, c ≠ .execReport rpt source) →
      ((s.step cfg (c, env)).1.HoldsAll kind ↔ ∀ id slot orderId, kind slot →
        openSlot s.desk orderId = some (id, slot) → ¬ c.Forgets id) :=
    fun hbbo hreport => h.drops_iff (step_drops hopen hbbo hreport env)
  cases c with
  | bbo tick =>
    refine iff_of_true ?_ fun _ _ _ _ _ hforgets => hforgets
    rcases onBbo_cases cfg env s tick with hskip | ⟨st, hst, hwork⟩
    · exact (congrArg (fun r => r.1.HoldsAll kind) hskip).mpr h
    · refine (congrArg (fun r => r.1.HoldsAll kind) hwork).mpr ?_
      exact h.commit hopen hst (tickWork_led hopen.fresh (hopen.holdsOpen hst) tick)
  | execReport rpt source =>
    exact holdsAll_iff_not_revives hopen h (onExecReport_settles hopen rpt source)
  | _ => exact hother (fun _ h => by cases h) (fun _ _ h => by cases h)

theorem HoldsAll.start (kind : Slot → Prop) (nextOrderId : Nat) :
    HoldsAll kind ({ desk := { nextOrderId := nextOrderId } } : AvellanedaStoikov Sig) := by
  intro id slot orderId _ hslot
  cases hslot

end Callbacks

/-! ## The quotes of a run -/

/-- The order is a quote on record that is not over. -/
def OpenQuote (s : AvellanedaStoikov Sig) (orderId : Nat) (os : OrderState) : Prop :=
  s.desk.om.lookup.lookup orderId = some os ∧ os.status.terminal = false ∧
    (s.desk.tags.lookup orderId).getD .quote = .quote

/-- Of an instrument and side there is one open quote at most, and the instrument's handle of the
side holds it. -/
structure QuotesHeld (s : AvellanedaStoikov Sig) : Prop where
  held : ∀ orderId os, s.OpenQuote orderId os →
    ∃ st, s.state.lookup os.instrumentId = some st ∧ (st.quoteSide os.side).handle = some orderId
  one : ∀ orderId os orderId' os', s.OpenQuote orderId os → s.OpenQuote orderId' os' →
    os.instrumentId = os'.instrumentId → os.side = os'.side → orderId = orderId'

/-- No callback meets an open quote of an instrument that it forgets, and no report brings back a
quote that was over. -/
def KeepsQuotes (s : AvellanedaStoikov Sig) : Callback × Surroundings → Prop
  | (.execReport rpt _, _) => ∀ os, s.desk.om.lookup.lookup rpt.orderId = some os →
    (s.desk.tags.lookup rpt.orderId).getD .quote = .quote → os.status.terminal = true →
      rpt.status.terminal = true
  | (c, _) => ∀ orderId os, s.OpenQuote orderId os → ¬ c.Forgets os.instrumentId

/-- The slots of the quotes. -/
def Slot.IsQuote (slot : Slot) : Prop := slot ≠ .unwind

theorem isQuote_ofOrder_iff {tag : OrderTag} {side : OrderSide} :
    (Slot.ofOrder tag side).IsQuote ↔ tag = .quote := by
  cases tag <;> cases side <;> simp [Slot.IsQuote, Slot.ofOrder]

theorem openSlot_quote_iff {s : AvellanedaStoikov Sig} {orderId id : Nat} {slot : Slot} :
    (slot.IsQuote ∧ openSlot s.desk orderId = some (id, slot)) ↔
      ∃ os, s.OpenQuote orderId os ∧ os.instrumentId = id ∧ .ofOrder .quote os.side = slot := by
  rw [openSlot_eq_some_iff]
  constructor
  · rintro ⟨hquote, os, hos, hopen, hid, rfl⟩
    have htag := isQuote_ofOrder_iff.mp hquote
    exact ⟨os, ⟨hos, hopen, htag⟩, hid, by rw [htag]⟩
  · rintro ⟨os, ⟨hos, hopen, htag⟩, hid, rfl⟩
    exact ⟨isQuote_ofOrder_iff.mpr rfl, os, hos, hopen, hid, by rw [htag]⟩

theorem quotesHeld_iff {s : AvellanedaStoikov Sig} : s.QuotesHeld ↔ s.HoldsAll Slot.IsQuote := by
  constructor
  · intro h id slot orderId hquote hopen
    obtain ⟨os, hos, rfl, rfl⟩ := openSlot_quote_iff.mp ⟨hquote, hopen⟩
    obtain ⟨st, hst, hhandle⟩ := h.held orderId os hos
    rw [holder, hst]
    exact (st.handle_quoteSide os.side).symm.trans hhandle
  · intro h
    have hholds : ∀ orderId os, s.OpenQuote orderId os →
        s.holder os.instrumentId (.ofOrder .quote os.side) = some orderId := by
      intro orderId os hquote
      obtain ⟨hkind, hopen⟩ := openSlot_quote_iff.mpr ⟨os, hquote, rfl, rfl⟩
      exact h _ _ orderId hkind hopen
    constructor
    · intro orderId os hquote
      obtain ⟨st, hst, hhandle⟩ := Option.bind_eq_some_iff.mp (hholds orderId os hquote)
      exact ⟨st, hst, (st.handle_quoteSide os.side).trans hhandle⟩
    · intro orderId os orderId' os' hquote hquote' hid hside
      have hheld := hholds orderId os hquote
      rw [hid, hside, hholds orderId' os' hquote'] at hheld
      exact (Option.some.inj hheld).symm

theorem keepsQuotes_iff {s : AvellanedaStoikov Sig} (e : Callback × Surroundings) :
    s.KeepsOrders Slot.IsQuote e ↔ s.KeepsQuotes e := by
  obtain ⟨c, env⟩ := e
  have hother : (∀ id slot orderId, slot.IsQuote → openSlot s.desk orderId = some (id, slot) →
      ¬ c.Forgets id) ↔ ∀ orderId os, s.OpenQuote orderId os → ¬ c.Forgets os.instrumentId := by
    constructor
    · intro hkeeps orderId os hquote
      obtain ⟨hkind, hslot⟩ := openSlot_quote_iff.mpr ⟨os, hquote, rfl, rfl⟩
      exact hkeeps _ _ orderId hkind hslot
    · intro hkeeps id slot orderId hkind hslot
      obtain ⟨os, hquote, rfl, -⟩ := openSlot_quote_iff.mp ⟨hkind, hslot⟩
      exact hkeeps orderId os hquote
  cases c with
  | execReport rpt source =>
    constructor
    · intro hnot os hos htag hterminal
      by_contra hgoes
      exact hnot ⟨os, hos, hterminal, isQuote_ofOrder_iff.mpr htag, Bool.not_eq_true _ ▸ hgoes⟩
    · rintro hkeeps ⟨os, hos, hterminal, hkind, hgoes⟩
      rw [hkeeps os hos (isQuote_ofOrder_iff.mp hkind) hterminal] at hgoes
      cases hgoes
  | _ => exact hother

/-- Throughout a run every open quote is the one that its handle holds, precisely when no callback
forgets an instrument with an open quote, and no report brings back a quote that was over. -/
theorem quotes_held_iff (cfg : Config Sig) (nextOrderId : Nat)
    (es : List (Callback × Surroundings)) :
    Machine.AllStates (step cfg) QuotesHeld { desk := { nextOrderId := nextOrderId } } es ↔
      Machine.AlongRun (step cfg) KeepsQuotes { desk := { nextOrderId := nextOrderId } } es := by
  refine Machine.allStates_iff_alongRun (J := HandlesOpen) (fun s e h => h.step cfg e)
    (fun s e hopen hquotes => ?_) (.start nextOrderId)
    (quotesHeld_iff.mpr (.start _ nextOrderId)) es
  rw [quotesHeld_iff, ← keepsQuotes_iff]
  exact holdsAll_step_iff cfg hopen (quotesHeld_iff.mp hquotes) e

/-! ## A universe built twice -/

/-- The refdata come again after a quote is out, and the next tick quotes anew. -/
def rebuiltEvents : List (Callback × Surroundings) :=
  [(.instrumentSnapshot [swap], calm), (.bbo (swapTick 1 100 102), calm),
   (.instrumentSnapshot [swap], calm), (.bbo (swapTick 2 100 102), calm)]

/-- Two bids of the swap rest on the venue. -/
theorem quotes_rest_twice :
    ¬ Machine.AllStates (step swapConfig) QuotesHeld { desk := { nextOrderId := 1 } }
      rebuiltEvents := by
  intro h
  let s := Machine.exec (step swapConfig) { desk := { nextOrderId := 1 } } rebuiltEvents
  have hquotes : s.QuotesHeld := h.final
  have hbid : ∀ orderId ∈ [1, 3], ∃ os, s.OpenQuote orderId os ∧ os.instrumentId = 102 ∧
      os.side = .BUY := by
    intro orderId hmem
    have hrecord : (s.desk.om.lookup.lookup orderId).map
        (fun os => (os.status.terminal, os.instrumentId, os.side)) = some (false, 102, .BUY) ∧
        (s.desk.tags.lookup orderId).getD .quote = .quote := by
      revert orderId
      decide +kernel
    obtain ⟨os, hos, hfields⟩ := Option.map_eq_some_iff.mp hrecord.1
    simp only [Prod.mk.injEq] at hfields
    exact ⟨os, ⟨hos, hfields.1, hrecord.2⟩, hfields.2⟩
  obtain ⟨os, hfirst, hid, hside⟩ := hbid 1 (by decide)
  obtain ⟨os', hthird, hid', hside'⟩ := hbid 3 (by decide)
  have hone := hquotes.one 1 os 3 os' hfirst hthird (hid.trans hid'.symm) (hside.trans hside'.symm)
  exact absurd hone (by decide)

end AvellanedaStoikov

end BptCore.Strategy
