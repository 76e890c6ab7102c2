import BptCore.Strategy.Unwind.UnwindOrders

/-!
# One order at a time

An unwind must not trade more than the position that it closes: what two orders on one instrument
fill together may take the position through zero. So an instrument has one unwind order
outstanding at most, on the side that reduces the position, and no larger than what is left of it.

* **`OneWithin`** — the property, of a state.
* **`Careful`** — what is asked of a call. A tick that finds a cancel unanswered is the case that
  the code does not see: to it the order is no longer live, and it sends another.
* **`Sound`** — the invariant, one lemma for a turn and one for a report.
* **`one_order_run`** — over any run of careful calls.
-/

namespace BptCore.Strategy

open GracefulUnwinder

/-! ## The size of an order -/

/-- The side of an unwind order is the one against the position. -/
theorem signed_unwindSide (n : Int) : -(unwindSide (ofE8 n)).signed n = (n.natAbs : Int) := by
  unfold unwindSide
  split
  · next hlong =>
    have hpos : 0 < n := by
      rw [gt_iff_lt, ← ofE8_zero, ofE8_lt_iff] at hlong
      exact hlong
    show - -n = (n.natAbs : Int)
    omega
  · next hshort =>
    have hneg : n ≤ 0 := ofE8_nonpos_iff.mp (not_lt.mp hshort)
    show -n = (n.natAbs : Int)
    omega

theorem abs_ofE8 (n : Int) : |ofE8 n| = ofE8 (n.natAbs : Int) := by
  rcases Int.natAbs_eq n with h | h
  · rw [abs_of_nonneg (ofE8_nonneg_iff.mpr (by omega)), ← h]
  · rw [abs_of_nonpos (ofE8_nonpos_iff.mpr (by omega)), ← ofE8_neg]
    congr 1
    omega

/-! ## The property -/

/-- The position that an order trades on. -/
def OpenOrder.netQty (o : OpenOrder) (positions : PositionTracker) : Int :=
  positions.netQty o.instrumentId o.exchangeId

/-- What is left of the order is within the position, and on the side that reduces it. -/
def OpenOrder.Within (o : OpenOrder) (positions : PositionTracker) : Prop :=
  (o.remaining : Int) ≤ -o.side.signed (o.netQty positions)

instance (o : OpenOrder) (positions : PositionTracker) : Decidable (o.Within positions) :=
  inferInstanceAs (Decidable (_ ≤ _))

/-- One unwind order per instrument at most, no larger than the position that is left: whatever
part of it fills brings the position closer to zero by just that. -/
structure OneWithin (w : Unwinding) : Prop where
  one : (w.desk.outstanding.map OpenOrder.key).Nodup
  within : ∀ o ∈ w.desk.outstanding, o.remaining ≤ (o.netQty w.positions).natAbs
  closing : ∀ o ∈ w.desk.outstanding, ∀ qty ≤ o.remaining,
    (o.netQty w.positions + o.side.signed qty).natAbs + qty = (o.netQty w.positions).natAbs

/-- What a part of an order does that is on the side against a position and within it: it comes off
both. -/
theorem signed_closes {side : OrderSide} {net : Int} {remaining qty : Nat}
    (h : (remaining : Int) ≤ -side.signed net) (hqty : qty ≤ remaining) :
    (net + side.signed qty).natAbs + qty = net.natAbs ∧
      ((remaining - qty : Nat) : Int) ≤ -side.signed (net + side.signed qty) := by
  cases side with
  | BUY =>
    have hbuy : (remaining : Int) ≤ -net := h
    show (net + qty).natAbs + qty = net.natAbs ∧ ((remaining - qty : Nat) : Int) ≤ -(net + qty)
    omega
  | SELL =>
    have hsell : (remaining : Int) ≤ - -net := h
    show (net + -qty).natAbs + qty = net.natAbs ∧
      ((remaining - qty : Nat) : Int) ≤ - -(net + -qty)
    omega

theorem OpenOrder.Within.closing {o : OpenOrder} {positions : PositionTracker}
    (h : o.Within positions) {qty : Nat} (hqty : qty ≤ o.remaining) :
    (o.netQty positions + o.side.signed qty).natAbs + qty = (o.netQty positions).natAbs :=
  (signed_closes h hqty).1

theorem OpenOrder.Within.natAbs {o : OpenOrder} {positions : PositionTracker}
    (h : o.Within positions) : o.remaining ≤ (o.netQty positions).natAbs := by
  have hclosed := h.closing (Nat.le_refl o.remaining)
  omega

/-! ## The invariant -/

/-- An instrument has one order at most, the one that its record holds. -/
structure Sound (positions : PositionTracker) (d : Desk) (records : List Record) : Prop where
  linked : Linked d records
  one : (d.outstanding.map OpenOrder.key).Nodup
  within : ∀ o ∈ d.outstanding, o.Within positions
  distinct : (records.map Record.key).Nodup
  owned : ∀ r ∈ records, ∀ o ∈ d.outstanding, o.key = r.key → r.hUnwind = some o.orderId

namespace Sound

variable {cfg : Config} {positions : PositionTracker} {env : UnwindEnv} {d : Desk} {r : Record}
  {records rest pre post : List Record} {rpt : ExecReport}

theorem perm (h : Sound positions d records) {records' : List Record}
    (hperm : records'.Perm records) : Sound positions d records' where
  linked := h.linked.perm hperm
  one := h.one
  within := h.within
  distinct := ((hperm.map _).nodup_iff).mpr h.distinct
  owned r hr := h.owned r (hperm.mem_iff.mp hr)

theorem tail (h : Sound positions d (r :: rest)) : Sound positions d rest where
  linked := h.linked.tail
  one := h.one
  within := h.within
  distinct := (List.nodup_cons.mp h.distinct).2
  owned r' hr' := h.owned r' (List.mem_cons_of_mem r hr')

theorem key_ne (h : Sound positions d (r :: rest)) {r' : Record} (hr' : r' ∈ rest) :
    r'.key ≠ r.key := fun heq =>
  (List.nodup_cons.mp h.distinct).1 (List.mem_map.mpr ⟨r', hr', heq⟩)

/-- A record of an instrument that has none, and no order. -/
theorem cons_none (h : Sound positions d rest) (hnone : r.hUnwind = none)
    (hkey : ∀ r' ∈ rest, r'.key ≠ r.key) (hfree : ∀ o ∈ d.outstanding, o.key ≠ r.key) :
    Sound positions d (r :: rest) where
  linked := h.linked.cons_none hnone
  one := h.one
  within := h.within
  distinct := List.nodup_cons.mpr ⟨fun hmem => by
    obtain ⟨r', hr', heq⟩ := List.mem_map.mp hmem
    exact hkey r' hr' heq, h.distinct⟩
  owned r' hr' o ho heq := by
    rcases List.mem_cons.mp hr' with rfl | hr'
    · exact absurd heq (hfree o ho)
    · exact h.owned r' hr' o ho heq

theorem same (h : Sound positions d (r :: rest)) {r' : Record} (hsame : r'.Same r)
    (hhandle : r'.hUnwind = r.hUnwind) : Sound positions d (r' :: rest) where
  linked := h.linked.same hsame hhandle
  one := h.one
  within := h.within
  distinct := by
    rw [List.map_cons, hsame.key]
    exact h.distinct
  owned x hx o ho heq := by
    rcases List.mem_cons.mp hx with rfl | hx
    · rw [hhandle]
      exact h.owned r List.mem_cons_self o ho (heq.trans hsame.key)
    · exact h.owned x (List.mem_cons_of_mem r hx) o ho heq

/-- Another desk with the same orders outstanding. -/
theorem desk (h : Sound positions d records) {d' : Desk} (hvalid : d'.Valid)
    (hout : d'.outstanding = d.outstanding) : Sound positions d' records where
  linked := h.linked.desk hvalid hout
  one := hout ▸ h.one
  within := hout ▸ h.within
  distinct := h.distinct
  owned := hout ▸ h.owned

/-- An order for the whole of a position is within it. -/
theorem within_placed {request : NewOrderRequest} (hcloses : Closes positions r request)
    (hlot : LotWithin env.cache r.instrumentId |netOf positions r|) {price quantity : ℚ}
    {symbol : String}
    (hsized : normaliseAndValidate env.cache request.instrumentId request.side request.type
      request.price request.qty = some (price, quantity, symbol)) :
    (OpenOrder.placed (d.orders.outbound request price quantity symbol)).Within positions := by
  have hnet : (OpenOrder.placed (d.orders.outbound request price quantity symbol)).netQty positions
      = positions.netQty r.instrumentId r.exchangeId := by
    show positions.netQty request.instrumentId (request.exchangeId.getD .ALL) = _
    rw [hcloses.instrumentId, hcloses.exchangeId]
    rfl
  have hside : request.side = unwindSide (ofE8 (positions.netQty r.instrumentId r.exchangeId)) :=
    hcloses.side
  rw [hcloses.instrumentId, hcloses.qty] at hsized
  obtain ⟨hpositive, hqty⟩ := normaliseAndValidate_qty hlot le_rfl hsized
  rw [netOf, abs_ofE8] at hqty
  have hround := roundE8_le hpositive hqty
  unfold OpenOrder.Within
  rw [hnet]
  show ((roundE8 quantity).toNat : Int) ≤ -request.side.signed _
  rw [hside, signed_unwindSide]
  exact Int.ofNat_le.mpr hround

theorem key_placed {request : NewOrderRequest} (hcloses : Closes positions r request)
    (price quantity : ℚ) (symbol : String) :
    (OpenOrder.placed (d.orders.outbound request price quantity symbol)).key = r.key := by
  show PositionTracker.key request.instrumentId (request.exchangeId.getD .ALL) = _
  rw [hcloses.instrumentId, hcloses.exchangeId]
  rfl

/-- The order of a record that had none. -/
theorem place (h : Sound positions d (r :: rest)) (hnone : r.hUnwind = none) {r' : Record}
    (hsame : r'.Same r) (hhandle : r'.hUnwind = some d.orders.nextOrderId)
    {request : NewOrderRequest} (hcloses : Closes positions r request)
    (hlot : LotWithin env.cache r.instrumentId |netOf positions r|) {price quantity : ℚ}
    {symbol : String}
    (hsized : normaliseAndValidate env.cache request.instrumentId request.side request.type
      request.price request.qty = some (price, quantity, symbol)) :
    Sound positions
      (d.place (d.orders.outbound request price quantity symbol) price quantity env.wallNs)
      (r' :: rest) := by
  have hkey := key_placed (d := d) hcloses price quantity symbol
  -- no order of the instrument is outstanding: the record would have it
  have hfree : ∀ o ∈ d.outstanding, o.key ≠ r.key := by
    intro o ho heq
    have howned := h.owned r List.mem_cons_self o ho heq
    rw [hnone] at howned
    cases howned
  refine ⟨?_, ?_, ?_, ?_, ?_⟩
  · exact h.linked.tail.place (hcloses.instrumentId.trans hsame.1.symm)
      (hcloses.exchangeId.trans (congrArg some hsame.2.1.symm)) hhandle price quantity symbol
      env.wallNs
  · refine List.nodup_cons.mpr ⟨fun hmem => ?_, h.one⟩
    obtain ⟨o, ho, heq⟩ := List.mem_map.mp hmem
    exact hfree o ho (heq.trans hkey)
  · exact List.forall_mem_cons.mpr ⟨within_placed hcloses hlot hsized, h.within⟩
  · rw [List.map_cons, hsame.key]
    exact h.distinct
  · intro x hx o ho heq
    rcases List.mem_cons.mp hx with rfl | hx
    · rcases List.mem_cons.mp ho with rfl | ho
      · exact hhandle
      · exact absurd (heq.trans hsame.key) (hfree o ho)
    · rcases List.mem_cons.mp ho with rfl | ho
      · exact absurd (heq.symm.trans hkey) (h.key_ne hx)
      · exact h.owned x (List.mem_cons_of_mem r hx) o ho heq

/-- **One turn**: a record that sends has no order, and a position of a lot at least. -/
theorem turn_cons (h : Sound positions d (r :: rest)) {out : Desk × Record}
    (hturn : Turn positions env d r out)
    (hready : ¬ flat positions r → ¬ d.live r.hUnwind →
      r.hUnwind = none ∧ LotWithin env.cache r.instrumentId |netOf positions r|) :
    Sound positions out.1 (out.2 :: rest) := by
  cases hturn with
  | kept same handle => exact h.same same handle
  | cancelled same handle =>
    exact (h.same same handle).desk (h.linked.valid.sendCancel r.hUnwind env.wallNs) rfl
  | sent request same closes notFlat notLive handle =>
    obtain ⟨hnone, hlot⟩ := hready notFlat notLive
    rcases d.sendNewOrder_cases env request with
      ⟨d', heq, hom, hout, hnext⟩ | ⟨price, quantity, symbol, hsized, -, heq⟩
    · rw [heq] at handle ⊢
      exact (h.same same (handle.trans hnone.symm)).desk
        (h.linked.valid.unsent hom hout hnext) hout
    · rw [heq] at handle ⊢
      exact h.place hnone same handle closes hlot hsized

theorem turn (h : Sound positions d (pre ++ r :: post)) {out : Desk × Record}
    (hturn : Turn positions env d r out)
    (hready : ¬ flat positions r → ¬ d.live r.hUnwind →
      r.hUnwind = none ∧ LotWithin env.cache r.instrumentId |netOf positions r|) :
    Sound positions out.1 (pre ++ out.2 :: post) :=
  ((h.perm List.perm_middle.symm).turn_cons hturn hready).perm List.perm_middle

end Sound

/-! ## `tick` -/

/-- `OrderHandle::cancel_pending`: the cancel of the order is out and not answered. -/
def Desk.cancelPending (d : Desk) : Option Nat → Bool
  | none => false
  | some orderId =>
    match d.orders.om.lookup.lookup orderId with
    | none => false
    | some s => s.status == .CancelPending

section Tick

variable (cfg : Config) (positions : PositionTracker) (env : UnwindEnv) (d : Desk) (r : Record)

/-- The tick comes to act on the record. -/
def due : Bool :=
  r.phase = .kPassive ∧ ¬ flat positions r ∧ (timedOut cfg env r ∨ stepDue cfg env r)

/-- A record that a tick acts on does not wait for the answer to a cancel; and if it has no order,
the order manager does not make one larger than the position. -/
def TickCareful : Prop :=
  due cfg positions env r → ¬ d.cancelPending r.hUnwind ∧
    (r.hUnwind = none → LotWithin env.cache r.instrumentId |netOf positions r|)

instance : Decidable (TickCareful cfg positions env d r) :=
  inferInstanceAs (Decidable (_ → _ ∧ (_ → _)))

variable {cfg positions env d r}

theorem tickRecord_of_not_due (h : ¬ due cfg positions env r) :
    ∃ r' : Record, tickRecord cfg positions env d r = (d, r') ∧ r'.Same r ∧
      r'.hUnwind = r.hUnwind := by
  rw [due, decide_eq_true_iff] at h
  unfold tickRecord
  split
  · exact ⟨r, rfl, ⟨rfl, rfl, rfl⟩, rfl⟩
  · next hphase =>
    split
    · exact ⟨_, rfl, ⟨rfl, rfl, rfl⟩, rfl⟩
    · next hflat =>
      have hacts : ¬ (timedOut cfg env r ∨ stepDue cfg env r) := fun hacts =>
        h ⟨not_not.mp hphase, hflat, hacts⟩
      rw [if_neg (fun htimeout => hacts (Or.inl htimeout)),
        if_neg (fun hstep => hacts (Or.inr hstep))]
      exact ⟨r, rfl, ⟨rfl, rfl, rfl⟩, rfl⟩

/-- To the unwinder an order that is outstanding is live, or its cancel is pending. -/
theorem Linked.live_or_cancelPending {records : List Record} (h : Linked d records)
    (hr : r ∈ records) {orderId : Nat} (hhandle : r.hUnwind = some orderId) :
    d.live r.hUnwind ∨ d.cancelPending r.hUnwind := by
  obtain ⟨o, ho, rfl, -⟩ := h.held r hr orderId hhandle
  obtain ⟨s, hs, hterminal, -⟩ := h.valid.tracked o ho
  rw [hhandle]
  unfold Desk.live Desk.cancelPending
  dsimp only
  rw [hs]
  dsimp only
  cases hstatus : s.status with
  | Live => exact Or.inl rfl
  | PartiallyFilled => exact Or.inl rfl
  | CancelPending => exact Or.inr rfl
  | Filled => exact absurd (by rw [hstatus]; rfl) hterminal
  | Cancelled => exact absurd (by rw [hstatus]; rfl) hterminal
  | Rejected => exact absurd (by rw [hstatus]; rfl) hterminal

/-- What a turn does not touch: the records of the orders of others. -/
theorem GracefulUnwinder.Turn.lookup_other {out : Desk × Record}
    (hturn : Turn positions env d r out) {orderId : Nat} (hlt : orderId < d.orders.nextOrderId)
    (hne : r.hUnwind ≠ some orderId) :
    out.1.orders.om.lookup.lookup orderId = d.orders.om.lookup.lookup orderId := by
  cases hturn with
  | kept same handle => rfl
  | cancelled same handle =>
    show (d.orders.om.sendCancelHandle r.hUnwind env.wallNs).1.lookup.lookup orderId = _
    rw [OrderManager.lookup_sendCancelHandle, if_neg hne]
  | sent request same closes notFlat notLive handle =>
    rcases d.sendNewOrder_cases env request with
      ⟨d', heq, hom, -, -⟩ | ⟨price, quantity, symbol, -, -, heq⟩
    · rw [heq]
      dsimp only
      rw [hom]
    · rw [heq]
      exact AList.lookup_insert_ne (Nat.ne_of_lt hlt)

/-- A turn puts out orders of its own instrument only. -/
theorem GracefulUnwinder.Turn.mem_outstanding {out : Desk × Record}
    (hturn : Turn positions env d r out) {o : OpenOrder} (ho : o ∈ out.1.outstanding) :
    o ∈ d.outstanding ∨ o.key = r.key := by
  cases hturn with
  | kept same handle => exact Or.inl ho
  | cancelled same handle => exact Or.inl ho
  | sent request same closes notFlat notLive handle =>
    rcases d.sendNewOrder_cases env request with
      ⟨d', heq, -, hout, -⟩ | ⟨price, quantity, symbol, -, -, heq⟩
    · rw [heq] at ho
      dsimp only at ho
      rw [hout] at ho
      exact Or.inl ho
    · rw [heq] at ho
      rcases List.mem_cons.mp ho with rfl | ho
      · exact Or.inr (Sound.key_placed closes price quantity symbol)
      · exact Or.inl ho

theorem TickCareful.other {pre post : List Record}
    (h : Sound positions d (pre ++ r :: post)) {out : Desk × Record}
    (hturn : Turn positions env d r out) {r' : Record} (hr' : r' ∈ post)
    (hcareful : TickCareful cfg positions env d r') : TickCareful cfg positions env out.1 r' := by
  intro hdue
  obtain ⟨hpending, hlot⟩ := hcareful hdue
  refine ⟨?_, hlot⟩
  cases hhandle : r'.hUnwind with
  | none => exact Bool.false_ne_true
  | some orderId =>
    rw [hhandle] at hpending
    have hmem : r' ∈ pre ++ r :: post := List.mem_append_right _ (List.mem_cons_of_mem r hr')
    obtain ⟨o, ho, rfl, -⟩ := h.linked.held r' hmem orderId hhandle
    -- the order is not the one of the record whose turn it is
    have hne : r.hUnwind ≠ some o.orderId := fun hsame =>
      (h.linked.perm List.perm_middle.symm).ne_of_held hsame (List.mem_append_right pre hr') hhandle
    have hlookup := hturn.lookup_other (h.linked.valid.lt ho) hne
    unfold Desk.cancelPending at hpending ⊢
    dsimp only at hpending ⊢
    rw [hlookup]
    exact hpending

/-- **`tick`.** -/
theorem Sound.tick {records : List Record} (h : Sound positions d records)
    (hcareful : ∀ r ∈ records, TickCareful cfg positions env d r) :
    Sound positions (tick cfg positions env d records).1 (tick cfg positions env d records).2 := by
  refine Sweep.sweep_induction (I := Sound positions) (D := TickCareful cfg positions env)
    (fun d pre r post hsound hr => ?_)
    (fun d pre r post hsound _ r' hr' hcareful => hcareful.other hsound (tickRecord_turn cfg) hr')
    h hcareful
  by_cases hdue : due cfg positions env r
  · obtain ⟨hpending, hlot⟩ := hr hdue
    refine hsound.turn (tickRecord_turn cfg) fun _ hlive => ?_
    have hmem : r ∈ pre ++ r :: post := List.mem_append_right _ List.mem_cons_self
    cases hhandle : r.hUnwind with
    | none => exact ⟨rfl, hlot hhandle⟩
    | some orderId =>
      rcases hsound.linked.live_or_cancelPending hmem hhandle with h | h
      · exact absurd h hlive
      · exact absurd h hpending
  · obtain ⟨r', heq, hsame, hhandle⟩ := tickRecord_of_not_due (d := d) hdue
    rw [heq]
    exact ((hsound.perm List.perm_middle.symm).same hsame hhandle).perm List.perm_middle

end Tick

/-! ## `arm` -/

section Arm

variable (cfg : Config) (positions : PositionTracker) (env : UnwindEnv)

/-- The instruments that get a record. -/
def unflat (instruments : List GracefulUnwinder.Instrument) : List GracefulUnwinder.Instrument :=
  instruments.filter fun inst => ¬ flat positions (Record.armed cfg env inst)

/-- The instrument has no unwind order, and the order manager does not make a first one that is
larger than the position. -/
def ArmCareful (d : Desk) (inst : GracefulUnwinder.Instrument) : Prop :=
  (∀ o ∈ d.outstanding, o.key ≠ inst.key) ∧
    (0 < inst.priceRef →
      LotWithin env.cache inst.instrumentId |netOf positions (Record.armed cfg env inst)|)

instance (d : Desk) (inst : GracefulUnwinder.Instrument) :
    Decidable (ArmCareful cfg positions env d inst) :=
  inferInstanceAs (Decidable ((∀ o ∈ d.outstanding, _) ∧ (_ → _)))

variable {cfg positions env}

theorem GracefulUnwinder.Turn.key {d : Desk} {r : Record} {out : Desk × Record}
    (hturn : Turn positions env d r out) : out.2.key = r.key := by
  cases hturn with
  | kept same handle => exact same.key
  | cancelled same handle => exact same.key
  | sent request same closes notFlat notLive handle => exact same.key

/-- The turn of an instrument that has neither a record nor an order. -/
theorem Sound.armInstrument {s : Desk × List Record} (h : Sound positions s.1 s.2)
    {inst : GracefulUnwinder.Instrument} (hnew : ∀ r ∈ s.2, r.key ≠ inst.key)
    (hcareful : ArmCareful cfg positions env s.1 inst) :
    Sound positions (armInstrument cfg positions env s inst).1
      (armInstrument cfg positions env s inst).2 := by
  have hcons : Sound positions s.1 (Record.armed cfg env inst :: s.2) :=
    h.cons_none rfl hnew hcareful.1
  unfold GracefulUnwinder.armInstrument
  dsimp only
  split
  · exact h
  · next hflat =>
    split
    · exact hcons.perm (List.perm_append_singleton _ _)
    · next hprice =>
      have hturn : Turn positions env s.1 (Record.armed cfg env inst) _ :=
        .sendPassive ⟨rfl, rfl, rfl⟩ rfl hflat Bool.false_ne_true
      exact (hcons.turn_cons hturn fun _ _ => ⟨rfl, hcareful.2 (not_le.mp hprice)⟩).perm
        (List.perm_append_singleton _ _)

/-- **`arm`.** -/
theorem Sound.arm {d : Desk} {records : List Record} (h : Sound positions d records)
    {instruments : List GracefulUnwinder.Instrument}
    (hdistinct : ((unflat cfg positions env instruments).map Instrument.key).Nodup)
    (hcareful : ∀ inst ∈ unflat cfg positions env instruments,
      ArmCareful cfg positions env d inst) :
    Sound positions (arm cfg positions env d instruments).1
      (arm cfg positions env d instruments).2 := by
  suffices hfold : ∀ s : Desk × List Record, Sound positions s.1 s.2 →
      (∀ inst ∈ unflat cfg positions env instruments, (∀ r ∈ s.2, r.key ≠ inst.key) ∧
        ArmCareful cfg positions env s.1 inst) →
      Sound positions (instruments.foldl (GracefulUnwinder.armInstrument cfg positions env) s).1
        (instruments.foldl (GracefulUnwinder.armInstrument cfg positions env) s).2 by
    refine hfold (d, []) ?_ fun inst hinst =>
      ⟨fun _ hr => absurd hr List.not_mem_nil, hcareful inst hinst⟩
    exact ⟨⟨h.linked.valid, fun _ hr => absurd hr List.not_mem_nil, List.nodup_nil⟩, h.one,
      h.within, List.nodup_nil, fun _ hr => absurd hr List.not_mem_nil⟩
  clear hcareful
  induction instruments with
  | nil => exact fun s hs _ => hs
  | cons inst instruments ih =>
    intro s hs hcareful
    rw [List.foldl_cons]
    by_cases hflat : flat positions (Record.armed cfg env inst)
    · have hskip : unflat cfg positions env (inst :: instruments) =
          unflat cfg positions env instruments :=
        List.filter_cons_of_neg (by simp only [hflat, not_true, decide_false, Bool.false_eq_true,
          not_false_iff])
      rw [hskip] at hdistinct hcareful
      rw [show GracefulUnwinder.armInstrument cfg positions env s inst = s from if_pos hflat]
      exact ih hdistinct s hs hcareful
    · have hmeets : unflat cfg positions env (inst :: instruments) =
          inst :: unflat cfg positions env instruments :=
        List.filter_cons_of_pos (decide_eq_true hflat)
      rw [hmeets] at hdistinct hcareful
      rw [List.map_cons, List.nodup_cons] at hdistinct
      obtain ⟨hnew, harm⟩ := hcareful inst List.mem_cons_self
      refine ih hdistinct.2 _ (hs.armInstrument hnew harm) fun inst' hinst' => ?_
      have hne : inst.key ≠ inst'.key := fun heq =>
        hdistinct.1 (List.mem_map.mpr ⟨inst', hinst', heq.symm⟩)
      obtain ⟨hnew', hfree', hlot'⟩ := hcareful inst' (List.mem_cons_of_mem inst hinst')
      rcases armInstrument_cases cfg positions env s inst with
        ⟨hflat', -⟩ | ⟨-, out, hturn, heq⟩
      · exact absurd hflat' hflat
      -- what the turn adds is of its own instrument
      · rw [heq]
        refine ⟨fun r hr => ?_, fun o ho => ?_, hlot'⟩
        · rcases List.mem_append.mp hr with hr | hr
          · exact hnew' r hr
          · rw [List.mem_singleton.mp hr, hturn.key]
            exact hne
        · rcases hturn.mem_outstanding ho with ho | hkey
          · exact hfree' o ho
          · rw [hkey]
            exact hne

end Arm

/-! ## `on_exec_report` -/

section Report

variable {cfg : Config} {positions : PositionTracker} {env : UnwindEnv} {d : Desk}
  {records : List Record} {rpt : ExecReport}

/-- The part of an order that fills comes off the order and off the position. -/
theorem OpenOrder.Within.filled {o o' : OpenOrder} (h : o.Within positions)
    {positions' : PositionTracker} {qty : Nat} (hqty : qty ≤ o.remaining)
    (hside : o'.side = o.side) (hremaining : o'.remaining = o.remaining - qty)
    (hnet : o'.netQty positions' = o.netQty positions + o.side.signed qty) :
    o'.Within positions' := by
  unfold OpenOrder.Within
  rw [hnet, hside, hremaining]
  exact (signed_closes h hqty).2

/-- A report on an outstanding order leaves every order that it does not end within its position. -/
theorem Sound.within_after {w : Unwinding} (h : Sound w.positions w.desk w.records)
    (hgenuine : w.desk.Genuine rpt) {order : OrderState}
    (horder : w.desk.orders.om.lookup.lookup rpt.orderId = some order)
    {named : OpenOrder} (hnamed : named ∈ w.desk.outstanding) (hid : named.orderId = rpt.orderId) :
    ∀ o ∈ Desk.outstandingAfter rpt w.desk.outstanding, o.Within (w.positionsAfter order rpt) := by
  intro o ho
  obtain ⟨-, o₀, ho₀, rfl⟩ := Desk.mem_outstandingAfter ho
  obtain ⟨-, hside, hfits⟩ := hgenuine named hnamed hid
  unfold Unwinding.positionsAfter OpenOrder.after
  by_cases hfill : rpt.status.isFill
  · rw [if_pos hfill]
    -- the position that moves is the one of the order that is named
    have hkey : PositionTracker.key order.instrumentId order.exchangeId = named.key := by
      obtain ⟨s, hs, -, hinst, hex⟩ := h.linked.valid.tracked named hnamed
      rw [hid, horder] at hs
      obtain rfl := Option.some.inj hs
      rw [hinst, hex]
      rfl
    have hmoved : ∀ o : OpenOrder, o.netQty (w.positions.onFill order.instrumentId
        order.exchangeId rpt.side rpt.filledQty rpt.price) =
          o.netQty w.positions + if o.key = named.key then rpt.side.signed rpt.filledQty else 0 := by
      intro o
      rw [← hkey]
      exact PositionTracker.netQty_onFill w.positions order.instrumentId order.exchangeId rpt.side
        rpt.filledQty rpt.price o.instrumentId o.exchangeId
    by_cases hsame : o₀ = named
    · subst hsame
      rw [if_pos ⟨hid, hfill⟩]
      refine (h.within o₀ ho₀).filled (hfits hfill) rfl rfl ?_
      have hnet := hmoved o₀
      rw [if_pos rfl] at hnet
      rw [hside]
      exact hnet
    · have hother : o₀.orderId ≠ rpt.orderId := fun heq =>
        hsame (h.linked.valid.eq_of_orderId ho₀ hnamed (heq.trans hid.symm))
      have hkeys : o₀.key ≠ named.key := fun heq =>
        hsame (List.inj_on_of_nodup_map h.one ho₀ hnamed heq)
      rw [if_neg (fun hboth => hother hboth.1)]
      have hnet := hmoved o₀
      rw [if_neg hkeys, Int.add_zero] at hnet
      unfold OpenOrder.Within
      rw [hnet]
      exact h.within o₀ ho₀
  · rw [if_neg hfill, if_neg (fun hboth => hfill hboth.2)]
    exact h.within o₀ ho₀

/-- A report after which no record holds an order that it ended. -/
theorem Sound.report_desk (h : Sound positions d records) {positions' : PositionTracker}
    (wallNs : Nat)
    (hwithin : ∀ o ∈ Desk.outstandingAfter rpt d.outstanding, o.Within positions')
    (hkept : rpt.status.terminal → ∀ r ∈ records, r.hUnwind ≠ some rpt.orderId) :
    Sound positions' (d.report rpt wallNs) records where
  linked := h.linked.report_desk wallNs hkept
  one := Desk.nodup_outstandingAfter (fun o => by
    obtain ⟨-, hinst, hex, -⟩ := o.after_same rpt
    rw [OpenOrder.key, OpenOrder.key, hinst, hex]) h.one
  within := hwithin
  distinct := h.distinct
  owned r hr o ho heq := by
    obtain ⟨-, o₀, ho₀, rfl⟩ := Desk.mem_outstandingAfter ho
    obtain ⟨hid, hinst, hex, -⟩ := o₀.after_same rpt
    rw [OpenOrder.key, hinst, hex] at heq
    rw [hid]
    exact h.owned r hr o₀ ho₀ heq

/-- **`on_exec_report`.** -/
theorem Sound.onExecReport (h : Sound positions d records) (hgenuine : d.Genuine rpt)
    {positions' : PositionTracker}
    (hwithin : ∀ o ∈ Desk.outstandingAfter rpt d.outstanding, o.Within positions')
    (hlot : rpt.status.terminal → ∀ r ∈ records, r.hUnwind = some rpt.orderId →
      ¬ flat positions' r → LotWithin env.cache r.instrumentId |netOf positions' r|) :
    Sound positions' (onExecReport cfg positions' env (d.report rpt env.wallNs) records rpt).1
      (onExecReport cfg positions' env (d.report rpt env.wallNs) records rpt).2 := by
  unfold GracefulUnwinder.onExecReport
  split
  · next hterminal =>
    rcases Sweep.updateFirst_cases (f := onTerminal cfg positions' env) (isReported rpt)
      (d.report rpt env.wallNs) records with ⟨hnone, heq⟩ | ⟨pre, r, post, rfl, hr, heq⟩
    · rw [heq]
      exact h.report_desk env.wallNs hwithin fun _ r hr hhandle =>
        hnone r hr (h.linked.isReported_of_held hgenuine hr hhandle)
    · rw [heq]
      have hhandle : r.hUnwind = some rpt.orderId := (of_decide_eq_true hr).2
      have hcons : Sound positions d (r :: (pre ++ post)) := h.perm List.perm_middle.symm
      have hfreed : Sound positions' (d.report rpt env.wallNs) (pre ++ post) :=
        hcons.tail.report_desk env.wallNs hwithin fun _ _ hr' =>
          hcons.linked.ne_of_held hhandle hr'
      -- the one order of the instrument has ended
      have hfree : ∀ o ∈ Desk.outstandingAfter rpt d.outstanding, o.key ≠ r.key := by
        intro o ho hkey
        obtain ⟨hkept, o₀, ho₀, rfl⟩ := Desk.mem_outstandingAfter ho
        obtain ⟨hid, hinst, hex, -⟩ := o₀.after_same rpt
        rw [OpenOrder.key, hinst, hex] at hkey
        have howned := hcons.owned r List.mem_cons_self o₀ ho₀ hkey
        rw [hhandle] at howned
        exact hkept hterminal (hid.trans (Option.some.inj howned).symm)
      have hreset := (hfreed.cons_none (r := { r with hUnwind := none }) rfl
        (fun _ hr' => hcons.key_ne hr') hfree).perm List.perm_middle
      have hmem : r ∈ pre ++ r :: post := List.mem_append_right _ List.mem_cons_self
      exact hreset.turn (onTerminal_turn cfg) fun hflat _ =>
        ⟨rfl, hlot hterminal r hmem hhandle hflat⟩
  · next hopen => exact h.report_desk env.wallNs hwithin fun hterminal => absurd hterminal hopen

end Report

/-! ## The run -/

namespace Unwinding

/-- The condition on a call: no tick acts on a record whose cancel is pending; an instrument gets
a record only when it has no unwind order, and one; the lots of the order manager are no larger
than a position that an order is sent for; and what else moves the positions leaves every order
within its own. -/
def Careful (cfg : Config) (w : Unwinding) : UnwindEvent → Prop
  | .arm env instruments =>
    ((unflat cfg w.positions env instruments).map Instrument.key).Nodup ∧
      ∀ inst ∈ unflat cfg w.positions env instruments, ArmCareful cfg w.positions env w.desk inst
  | .tick env => ∀ r ∈ w.records, TickCareful cfg w.positions env w.desk r
  | .report env rpt => ∀ order ∈ w.desk.orders.om.lookup.lookup rpt.orderId,
    ((∀ o ∈ w.desk.outstanding, o.orderId ≠ rpt.orderId) →
      ∀ o ∈ w.desk.outstanding, o.Within (w.positionsAfter order rpt)) ∧
    (rpt.status.terminal → ∀ r ∈ w.records, r.hUnwind = some rpt.orderId →
      ¬ flat (w.positionsAfter order rpt) r →
        LotWithin env.cache r.instrumentId |netOf (w.positionsAfter order rpt) r|)
  | .moved positions => ∀ o ∈ w.desk.outstanding, o.Within positions

instance (cfg : Config) (w : Unwinding) : ∀ e, Decidable (Careful cfg w e)
  | .arm env instruments => inferInstanceAs (Decidable (List.Nodup _ ∧
      ∀ inst ∈ unflat cfg w.positions env instruments, _))
  | .tick _ => inferInstanceAs (Decidable (∀ r ∈ w.records, _))
  | .report _ rpt => inferInstanceAs (Decidable
      (∀ order ∈ w.desk.orders.om.lookup.lookup rpt.orderId,
        ((∀ o ∈ w.desk.outstanding, _ ≠ _) → ∀ o ∈ w.desk.outstanding, _) ∧
          (_ → ∀ r ∈ w.records, _ → _ → _)))
  | .moved _ => inferInstanceAs (Decidable (∀ o ∈ w.desk.outstanding, _))

variable {cfg : Config} {w : Unwinding}

/-- **One call.** -/
theorem sound_venueStep (h : Sound w.positions w.desk w.records) {e : UnwindEvent}
    (hcareful : Careful cfg w e) :
    Sound (w.venueStep cfg e).1.positions (w.venueStep cfg e).1.desk
      (w.venueStep cfg e).1.records := by
  unfold venueStep
  split
  · next hpossible =>
    cases e with
    | arm env instruments => exact h.arm hcareful.1 hcareful.2
    | tick env => exact h.tick hcareful
    | report env rpt =>
      have hgenuine : w.desk.Genuine rpt := hpossible
      unfold step next
      dsimp only
      split
      · exact h
      · next order horder =>
        obtain ⟨hother, hlot⟩ := hcareful order horder
        refine h.onExecReport hgenuine ?_ hlot
        by_cases hnamed : ∃ o ∈ w.desk.outstanding, o.orderId = rpt.orderId
        · obtain ⟨named, hmem, hid⟩ := hnamed
          exact h.within_after hgenuine horder hmem hid
        -- the report is on another order, the unwind orders are as they were
        · have hne : ∀ o ∈ w.desk.outstanding, o.orderId ≠ rpt.orderId := fun o ho heq =>
            hnamed ⟨o, ho, heq⟩
          intro o ho
          obtain ⟨-, o₀, ho₀, rfl⟩ := Desk.mem_outstandingAfter ho
          rw [OpenOrder.after_of_ne (hne o₀ ho₀)]
          exact hother hne o₀ ho₀
    | moved positions => exact ⟨h.linked, h.one, hcareful, h.distinct, h.owned⟩
  · exact h

theorem OneWithin.of_sound (h : Sound w.positions w.desk w.records) : OneWithin w where
  one := h.one
  within o ho := (h.within o ho).natAbs
  closing o ho _ hqty := (h.within o ho).closing hqty

/-- **One order at a time.** In every state of a run of careful calls, whatever the order they come
in, an instrument has one unwind order outstanding at most, and no part of it that may still fill
takes the position through zero. -/
theorem one_order_run (cfg : Config) (nextOrderId : Nat) (sent : List SendEvent)
    (positions : PositionTracker) {es : List UnwindEvent}
    (hcareful : Machine.AlongRun (venueStep cfg) (Careful cfg)
      (start nextOrderId sent positions) es) :
    Machine.AllStates (venueStep cfg) OneWithin (start nextOrderId sent positions) es := by
  have hstart : Sound (start nextOrderId sent positions).positions
      (start nextOrderId sent positions).desk (start nextOrderId sent positions).records :=
    ⟨linked_start nextOrderId sent positions, List.nodup_nil,
      fun _ ho => absurd ho List.not_mem_nil, List.nodup_nil, fun _ hr => absurd hr List.not_mem_nil⟩
  have hsound : Machine.AllStates (venueStep cfg)
      (fun w => Sound w.positions w.desk w.records) (start nextOrderId sent positions) es :=
    .of_assumption (I := fun w => Sound w.positions w.desk w.records)
      (fun _ _ h hcareful => sound_venueStep h hcareful) hstart hcareful
  exact hsound.imp fun _ => OneWithin.of_sound

/-- A step, a partial fill, the timeout and an IOC order that closes the position, every cancel
answered before the next tick that acts. -/
theorem one_order_run_longTwo :
    Machine.AllStates (venueStep {}) OneWithin longTwo
      [.arm (unwindEnv true 0) [pricedAt 100], .tick (unwindEnv true 8),
        .report (unwindEnv true 9) (reportOn 1 .CANCELLED 0),
        .report (unwindEnv true 10) (reportOn 2 .PARTIAL 50000000), .tick (unwindEnv true 45),
        .report (unwindEnv true 46) (reportOn 2 .CANCELLED 0),
        .report (unwindEnv true 47) (reportOn 3 .FILLED 150000000)] :=
  one_order_run {} 1 [] (({} : PositionTracker).onFill 7 .BINANCE .BUY 200000000 10000000000)
    (by decide +kernel)

/-- Two ticks with the cancel of the first unanswered: each order is for the whole position, and
when both fill, the position of 2 is one of -2. -/
theorem not_one_within :
    ¬ Machine.AllStates (venueStep {}) OneWithin longTwo
        [.arm (unwindEnv true 0) [pricedAt 100], .tick (unwindEnv true 8),
          .tick (unwindEnv true 16)] ∧
      (Machine.exec (venueStep {}) longTwo
        [.arm (unwindEnv true 0) [pricedAt 100], .tick (unwindEnv true 8),
          .tick (unwindEnv true 16), .report (unwindEnv true 17) (reportOn 1 .FILLED 200000000),
          .report (unwindEnv true 17) (reportOn 2 .FILLED 200000000)]).positions.netQty 7 .BINANCE =
        -200000000 := by
  refine ⟨fun h => ?_, by decide +kernel⟩
  have hone := h.imp (fun w (hw : OneWithin w) => hw.one)
  exact absurd hone (by decide +kernel)

end Unwinding

end BptCore.Strategy
