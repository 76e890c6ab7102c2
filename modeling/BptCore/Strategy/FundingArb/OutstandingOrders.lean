import BptCore.Strategy.FundingArb.HedgedPairs

/-!
# Outstanding orders

Between two positions a pair waits for the end of one leg's order, and nothing else moves it on. Its
state is changed before the send, and ids of orders are cleared after one, so that what a send may
bring decides whether the order that the pair waits for is still there.

* **`Attended`** — every pair that waits for an order has it, once no call is in progress.
* **`KeepsOrder`** — what the return of a call must not clear.
* **`Ids`** — which leg may hold the id of an order.
* **`stays_attended`** — no pair is stuck when no return clears the order that it waits for.
-/

namespace BptCore.Strategy

namespace FundingArb

/-- An order of the base whose end has not been reported. -/
def Outstanding (orders : Table Nat LegOrder) (orderToBase : Table Nat String) (base : String)
    (orderId : Nat) : Prop :=
  orderId ≠ 0 ∧ orderToBase.lookup orderId = some base ∧
    ∃ o, orders.lookup orderId = some o ∧ o.ended = false

/-- The rest of a callback that clears a leg's id. -/
def AndThen.clears : AndThen → Option Leg
  | .closeLeg leg _ => some leg
  | .evaluated _ => none

namespace Trading

/-- The order that a pair of the base waits for is outstanding. -/
def AttendedAt (t : Trading) (base : String) : Prop :=
  ∀ p, t.strategy.pairs.lookup base = some p → ∀ leg, awaited p.state = some leg →
    Outstanding t.orders t.strategy.orderToBase base (p.leg leg).orderId

/-- Between the callbacks every pair that waits for an order has it. -/
def Attended (t : Trading) : Prop := t.strategy.sends = [] → ∀ base, t.AttendedAt base

/-- A call that returns clears no id of the leg whose order the pair waits for: neither as refused,
nor in the rest of the callback that made it. -/
def KeepsOrder (t : Trading) : Callback → Prop
  | .sendReturned accepted =>
    ∀ send ∈ t.strategy.sends.head?, ∀ p ∈ t.strategy.pairs.lookup send.base,
      (accepted = false → awaited p.state ≠ some send.leg) ∧
        ∀ leg ∈ send.andThen.clears, awaited p.state ≠ some leg
  | _ => True

instance (t : Trading) : (cb : Callback) → Decidable (t.KeepsOrder cb)
  | .sendReturned _ =>
    inferInstanceAs (Decidable (∀ send ∈ t.strategy.sends.head?, ∀ p ∈ _, _ ∧ ∀ leg ∈ _, _))
  | .instrumentSnapshot _ _ | .instrumentDelta _ _ | .bbo _ _ | .trade _ | .execReport _ =>
    isTrue trivial

end Trading

/-! ## Ids -/

/-- An order's id that no leg but one of the base may hold. -/
def Owns (s : FundingArb) (base : String) (leg : Leg) (orderId : Nat) : Prop :=
  orderId ≠ 0 ∧ orderId < s.nextOrderId ∧
    ∀ b p leg', s.pairs.lookup b = some p → (p.leg leg').orderId = orderId → b = base ∧ leg' = leg

structure Ids (s : FundingArb) : Prop where
  pos : 0 < s.nextOrderId
  named : ∀ base p, s.pairs.lookup base = some p → p.baseAsset = base
  fresh : ∀ id base, s.orderToBase.lookup id = some base → id ≠ 0 ∧ id < s.nextOrderId
  owned : ∀ base p leg, s.pairs.lookup base = some p → (p.leg leg).orderId ≠ 0 →
    Owns s base leg (p.leg leg).orderId
  sends : ∀ send ∈ s.sends, Owns s send.base send.leg send.orderId ∧
    ∀ leg orderId, send.andThen = .closeLeg leg orderId → Owns s send.base leg orderId

/-- A pair in place of another: each leg keeps its id, loses it, or takes a new one. -/
structure Renewed (s s' : FundingArb) (base : String) (p q : ArbPair) : Prop where
  pairs : s'.pairs = s.pairs.insert base q
  next : s.nextOrderId ≤ s'.nextOrderId
  named : q.baseAsset = p.baseAsset
  fresh : ∀ id b, s'.orderToBase.lookup id = some b → id ≠ 0 ∧ id < s'.nextOrderId
  leg : ∀ leg, (q.leg leg).orderId = (p.leg leg).orderId ∨ (q.leg leg).orderId = 0 ∨
    (q.leg leg).orderId = s.nextOrderId ∧ s.nextOrderId < s'.nextOrderId ∧
      ∀ leg', (q.leg leg').orderId = s.nextOrderId → leg' = leg

section Ids

variable {s s' : FundingArb} {base : String} {p q : ArbPair}

theorem Renewed.owns (h : Renewed s s' base p q) (hp : s.pairs.lookup base = some p) {b : String}
    {leg : Leg} {orderId : Nat} (hown : Owns s b leg orderId) : Owns s' b leg orderId := by
  obtain ⟨hne, hlt, honly⟩ := hown
  refine ⟨hne, Nat.lt_of_lt_of_le hlt h.next, fun b' p' leg' hp' heq => ?_⟩
  rw [h.pairs, Table.lookup_insert_eq] at hp'
  split at hp'
  · next hb =>
    cases hp'
    subst hb
    rcases h.leg leg' with hsame | hzero | ⟨hnew, -, -⟩
    · exact honly b' p leg' hp (hsame ▸ heq)
    · exact absurd (heq.symm.trans hzero) hne
    · omega
  · exact honly b' p' leg' hp' heq

theorem Ids.renew (h : Ids s) (hp : s.pairs.lookup base = some p) (hnew : Renewed s s' base p q)
    (hsends : ∀ send ∈ s'.sends, send ∈ s.sends ∨
      Owns s' send.base send.leg send.orderId ∧
        ∀ leg orderId, send.andThen = .closeLeg leg orderId → Owns s send.base leg orderId) :
    Ids s' := by
  refine ⟨Nat.lt_of_lt_of_le h.pos hnew.next, fun b q' hq => ?_, hnew.fresh,
    fun b q' leg hq hne => ?_, fun send hsend => ?_⟩
  · rw [hnew.pairs, Table.lookup_insert_eq] at hq
    split at hq
    · next hb =>
      cases hq
      rw [hb, hnew.named]
      exact h.named base p hp
    · exact h.named b q' hq
  · have hq' := hq
    rw [hnew.pairs, Table.lookup_insert_eq] at hq
    split at hq
    · next hb =>
      cases hq
      subst hb
      rcases hnew.leg leg with hsame | hzero | ⟨hid, hlt, honly⟩
      · rw [hsame] at hne ⊢
        exact hnew.owns hp (h.owned b p leg hp hne)
      · exact absurd hzero hne
      · -- a new id is of no other pair
        refine ⟨hne, hid ▸ hlt, fun b' p' leg' hp' heq => ?_⟩
        rw [hnew.pairs, Table.lookup_insert_eq] at hp'
        split at hp'
        · next hb =>
          cases hp'
          exact ⟨hb, honly leg' (heq.trans hid)⟩
        · have hold := (h.owned b' p' leg' hp' (heq ▸ hne)).2.1
          omega
    · exact hnew.owns hp (h.owned b q' leg hq hne)
  · rcases hsends send hsend with hold | ⟨hown, hclose⟩
    · obtain ⟨hown, hclose⟩ := h.sends send hold
      exact ⟨hnew.owns hp hown, fun leg id heq => hnew.owns hp (hclose leg id heq)⟩
    · exact ⟨hown, fun leg id heq => hnew.owns hp (hclose leg id heq)⟩

end Ids

/-! ## Outstanding orders -/

section Outstanding

variable {orders : Table Nat LegOrder} {orderToBase : Table Nat String} {base : String} {id : Nat}

theorem Outstanding.place (h : Outstanding orders orderToBase base id) {orderId : Nat}
    (hne : id ≠ orderId) (o : LegOrder) (b : String) :
    Outstanding (orders.insert orderId o) (orderToBase.insert orderId b) base id := by
  obtain ⟨hid, hbase, o', ho', hended⟩ := h
  refine ⟨hid, ?_, o', ?_, hended⟩
  · rw [Table.lookup_insert_eq, if_neg hne]
    exact hbase
  · rw [Table.lookup_insert_eq, if_neg hne]
    exact ho'

theorem Outstanding.erase (h : Outstanding orders orderToBase base id) {orderId : Nat}
    (hne : id ≠ orderId) : Outstanding orders (orderToBase.erase orderId) base id := by
  refine ⟨h.1, ?_, h.2.2⟩
  rw [Table.lookup_erase_eq, if_neg hne]
  exact h.2.1

theorem Outstanding.report (h : Outstanding orders orderToBase base id) {rpt : ExecReport}
    (hrpt : rpt.status.terminal → id ≠ rpt.orderId) :
    Outstanding (recordReport orders rpt) orderToBase base id := by
  obtain ⟨hid, hbase, o, ho, hended⟩ := h
  refine ⟨hid, hbase, ?_⟩
  by_cases heq : id = rpt.orderId
  · have hopen : rpt.status.terminal = false := by
      rw [← Bool.not_eq_true]
      exact fun hterminal => hrpt hterminal heq
    rw [heq] at ho
    refine ⟨o.reported rpt, ?_, ?_⟩
    · rw [lookup_recordReport ho, if_pos heq]
    · show (o.ended || rpt.status.terminal) = false
      rw [hended, hopen]
      rfl
  · refine ⟨o, ?_, hended⟩
    unfold recordReport
    cases hold : orders.lookup rpt.orderId with
    | none => exact ho
    | some o' =>
      dsimp only
      rw [Table.lookup_insert_eq, if_neg heq]
      exact ho

end Outstanding

/-! ## What the work on a pair comes to -/

/-- The work sends nothing, and the pair waits for what it has waited for, or for nothing. -/
structure Quiet (s : FundingArb) (p : ArbPair) (w : Work) : Prop where
  sending : w.sending = none
  sent : ∀ orders, w.sent.foldl recordCall orders = orders
  orderToBase : w.orderToBase = s.orderToBase
  next : w.nextOrderId = s.nextOrderId
  named : w.pair.baseAsset = p.baseAsset
  orderId : ∀ leg, (w.pair.leg leg).orderId = (p.leg leg).orderId
  waits : awaited w.pair.state = none ∨ w.pair.state = p.state

/-- The work sends one order, of the leg that the pair then waits for. -/
structure Sent (s : FundingArb) (p : ArbPair) (w : Work) (leg : Leg) : Prop where
  sending : w.sending = some (leg, s.nextOrderId)
  sent : ∃ order : OutboundNewOrder, order.orderId = s.nextOrderId ∧
    w.sent = [.sendNewOrder order]
  orderToBase : w.orderToBase = s.orderToBase.insert s.nextOrderId p.baseAsset
  next : w.nextOrderId = s.nextOrderId + 1
  named : w.pair.baseAsset = p.baseAsset
  orderId : ∀ leg', (w.pair.leg leg').orderId =
    if leg' = leg then s.nextOrderId else (p.leg leg').orderId
  waits : awaited w.pair.state = some leg

section Work

variable {s : FundingArb} {p q : ArbPair} {cfg : Config}

/-- A pair in which only states, quantities and prices have changed. -/
def SameIds (p q : ArbPair) : Prop :=
  q.baseAsset = p.baseAsset ∧ ∀ leg, (q.leg leg).orderId = (p.leg leg).orderId

theorem Quiet.of_same {w : Work} (h : Quiet s q w) (hsame : SameIds p q)
    (hwaits : awaited w.pair.state = none ∨ w.pair.state = p.state) : Quiet s p w :=
  ⟨h.sending, h.sent, h.orderToBase, h.next, h.named.trans hsame.1,
    fun leg => (h.orderId leg).trans (hsame.2 leg), hwaits⟩

theorem Sent.of_same {w : Work} {leg : Leg} (h : Sent s q w leg) (hsame : SameIds p q) :
    Sent s p w leg := by
  refine ⟨h.sending, h.sent, ?_, h.next, h.named.trans hsame.1, fun leg' => ?_, h.waits⟩
  · rw [h.orderToBase, hsame.1]
  · rw [h.orderId, hsame.2 leg']

/-- Work that has sent nothing yet. -/
structure Unsent (s : FundingArb) (p : ArbPair) (w : Work) : Prop where
  sent : w.sent = []
  orderToBase : w.orderToBase = s.orderToBase
  next : w.nextOrderId = s.nextOrderId
  ids : SameIds p w.pair

theorem Unsent.sendLegOrder {w : Work} (h : Unsent s p w) (hgw : cfg.hasOrderGw = true) {leg : Leg}
    (hawaited : awaited w.pair.state = some leg) (side : OrderSide) (qty : Nat) :
    Sent s p (sendLegOrder cfg w leg side qty) leg := by
  unfold FundingArb.sendLegOrder
  rw [if_pos hgw]
  refine ⟨by rw [← h.next]; rfl, ⟨legOrder cfg w.nextOrderId (w.pair.leg leg) side qty, h.next, ?_⟩,
    ?_, by rw [← h.next], ?_, fun leg' => ?_, ?_⟩
  · dsimp only
    rw [h.sent, List.nil_append]
  · rw [← h.orderToBase, ← h.next, ← h.ids.1]
    rfl
  · exact (setOrderId_rest w.pair leg w.nextOrderId).1.trans h.ids.1
  · refine ((leg_setOrderId w.pair leg leg' w.nextOrderId).2).trans ?_
    rw [h.next, h.ids.2 leg']
  · show awaited (w.pair.setOrderId leg w.nextOrderId).state = some leg
    rw [(setOrderId_rest w.pair leg w.nextOrderId).2.1]
    exact hawaited

theorem quiet_work (hsame : SameIds p q) (hawaited : awaited q.state = none ∨ q.state = p.state) :
    Quiet s p { s.work p with pair := q } :=
  ⟨rfl, fun _ => rfl, rfl, rfl, hsame.1, hsame.2, hawaited⟩

/-- After the end of an order a pair waits for a new one, or for none. -/
theorem handleTerminal_cases (s : FundingArb) (p : ArbPair) (hgw : cfg.hasOrderGw = true)
    (status : ExecStatus) :
    (Quiet s p (handleTerminal cfg (s.work p) status) ∧
      awaited (handleTerminal cfg (s.work p) status).pair.state = none) ∨
    ∃ leg, Sent s p (handleTerminal cfg (s.work p) status) leg := by
  have hsame : ∀ state direction, SameIds p { p with state := state, direction := direction } :=
    fun _ _ => ⟨rfl, fun leg => by cases leg <;> rfl⟩
  have hflat : SameIds p p.flattened := ⟨rfl, fun leg => by cases leg <;> rfl⟩
  have hrefl : SameIds p p := ⟨rfl, fun _ => rfl⟩
  have hstate : (s.work p).pair.state = p.state := rfl
  unfold handleTerminal
  rw [hstate]
  cases hp : p.state with
  | IDLE => exact .inl ⟨quiet_work hrefl (.inr rfl), by rw [hstate, hp]; rfl⟩
  | ACTIVE => exact .inl ⟨quiet_work hrefl (.inr rfl), by rw [hstate, hp]; rfl⟩
  | ENTERING_FIRST_LEG =>
    dsimp only
    split
    · exact .inr ⟨_, Unsent.sendLegOrder ⟨rfl, rfl, rfl, hsame _ _⟩ hgw rfl _ _⟩
    · exact .inl ⟨quiet_work (hsame _ _) (.inl rfl), rfl⟩
  | ENTERING_SECOND_LEG =>
    dsimp only
    split
    · exact .inl ⟨quiet_work (hsame _ _) (.inl rfl), rfl⟩
    · exact .inr ⟨_, Unsent.sendLegOrder ⟨rfl, rfl, rfl, hsame _ _⟩ hgw rfl _ _⟩
  | EXITING_FIRST_LEG =>
    dsimp only
    split
    · exact .inr ⟨_, Unsent.sendLegOrder ⟨rfl, rfl, rfl, hsame _ _⟩ hgw rfl _ _⟩
    · exact .inl ⟨quiet_work (hsame _ _) (.inl rfl), rfl⟩
  | EXITING_SECOND_LEG => exact .inl ⟨quiet_work hflat (.inl rfl), rfl⟩
  | UNWINDING => exact .inl ⟨quiet_work hflat (.inl rfl), rfl⟩

theorem quiet_cancelOverdue (s : FundingArb) (p : ArbPair) (leg : LegState) (nowNs : Nat) :
    Quiet s p (cancelOverdue cfg (s.work p) leg nowNs) := by
  unfold cancelOverdue
  split
  · exact ⟨rfl, fun _ => rfl, rfl, rfl, rfl, fun _ => rfl, .inr rfl⟩
  · exact ⟨rfl, fun _ => rfl, rfl, rfl, rfl, fun _ => rfl, .inr rfl⟩

/-- An evaluation leaves a pair as it was, or has it wait for a new order. -/
theorem evaluatePair_cases (s : FundingArb) (p : ArbPair) (hgw : cfg.hasOrderGw = true)
    (rates : FundingRateCache) (nowNs : Nat) :
    Quiet s p (evaluatePair cfg rates (s.work p) nowNs) ∨
    ∃ leg, Sent s p (evaluatePair cfg rates (s.work p) nowNs) leg := by
  have hsame : SameIds p p := ⟨rfl, fun _ => rfl⟩
  have hstate : (s.work p).pair.state = p.state := rfl
  unfold evaluatePair
  rw [hstate]
  cases hp : p.state with
  | IDLE =>
    dsimp only
    split
    · exact .inl (quiet_work hsame (.inr rfl))
    · have htrack : ∀ rateBps, SameIds p (trackSign p rateBps) := fun _ =>
        ⟨rfl, fun leg => by cases leg <;> rfl⟩
      split
      · unfold enterPosition
        dsimp only
        split
        · exact .inl (quiet_work (htrack _) (.inr rfl))
        · refine .inr ⟨.spot, Unsent.sendLegOrder ?_ hgw rfl _ _⟩
          exact ⟨rfl, rfl, rfl, rfl, fun leg => by cases leg <;> rfl⟩
      · exact .inl (quiet_work (htrack _) (.inr rfl))
  | ACTIVE =>
    dsimp only
    split
    · refine .inr ⟨.perp, Unsent.sendLegOrder ?_ hgw rfl _ _⟩
      exact ⟨rfl, rfl, rfl, rfl, fun leg => by cases leg <;> rfl⟩
    · exact .inl (quiet_work hsame (.inr rfl))
  | ENTERING_FIRST_LEG => exact .inl (quiet_cancelOverdue s p _ _)
  | ENTERING_SECOND_LEG => exact .inl (quiet_cancelOverdue s p _ _)
  | EXITING_FIRST_LEG => exact .inl (quiet_work hsame (.inr rfl))
  | EXITING_SECOND_LEG => exact .inl (quiet_work hsame (.inr rfl))
  | UNWINDING => exact .inl (quiet_work hsame (.inr rfl))

end Work

/-! ## Callbacks -/

/-- The invariant, which holds inside the calls as well. -/
structure Attending (t : Trading) : Prop where
  ids : Ids t.strategy
  attended : ∀ base, t.AttendedAt base

section Attending

variable {s : FundingArb} {orders : Table Nat LegOrder} {base : String} {p : ArbPair} {w : Work}

theorem lookup_commit (s : FundingArb) (base : String) (w : Work) (b : String) :
    (s.commit base w).pairs.lookup b = if b = base then some w.pair else s.pairs.lookup b :=
  Table.lookup_insert_eq _ _ _ _

/-- The work on a pair is committed once. -/
theorem commit_commit (s : FundingArb) (base : String) (w w' : Work) :
    (s.commit base w).commit base w' = s.commit base w' := by
  unfold commit
  dsimp only
  rw [AList.insert_insert]

theorem Attending.quiet (hids : Ids s) (hp : s.pairs.lookup base = some p)
    (hothers : ∀ b, b ≠ base → Trading.AttendedAt ⟨s, orders⟩ b) (hw : Quiet s p w)
    (hbase : awaited w.pair.state = none ∨ Trading.AttendedAt ⟨s, orders⟩ base) :
    Attending ⟨s.commit base w, orders⟩ := by
  have hnew : Renewed s (s.commit base w) base p w.pair := by
    refine ⟨rfl, hw.next.ge, hw.named, fun id b hid => ?_, fun leg => .inl (hw.orderId leg)⟩
    have hid' : w.orderToBase.lookup id = some b := hid
    rw [hw.orderToBase] at hid'
    show id ≠ 0 ∧ id < w.nextOrderId
    rw [hw.next]
    exact hids.fresh id b hid'
  refine ⟨hids.renew hp hnew fun send hsend => .inl hsend, fun b q hq leg hleg => ?_⟩
  have hq' : (s.commit base w).pairs.lookup b = some q := hq
  show Outstanding orders w.orderToBase b _
  rw [hw.orderToBase]
  rw [lookup_commit] at hq'
  split at hq'
  · next hb =>
    cases hq'
    subst hb
    rcases hbase with hnone | hat
    · rw [hnone] at hleg
      cases hleg
    · rcases hw.waits with hnone | hsame
      · rw [hnone] at hleg
        cases hleg
      · rw [hsame] at hleg
        rw [hw.orderId]
        exact hat p hp leg hleg
  · next hb => exact hothers b hb q hq' leg hleg

theorem Attending.sent (hids : Ids s) (hp : s.pairs.lookup base = some p)
    (hothers : ∀ b, b ≠ base → Trading.AttendedAt ⟨s, orders⟩ b) {leg : Leg} (hw : Sent s p w leg)
    {andThen : AndThen}
    (hclose : ∀ leg' id, andThen = .closeLeg leg' id → Owns s base leg' id) :
    Attending
      ⟨{ s.commit base w with sends := ⟨base, leg, s.nextOrderId, andThen⟩ :: s.sends },
        w.sent.foldl recordCall orders⟩ := by
  obtain ⟨order, horder, hsent⟩ := hw.sent
  have hnamed := hids.named base p hp
  have hplaced : w.sent.foldl recordCall orders =
      orders.insert s.nextOrderId
        { instrumentId := order.instrumentId, side := order.side, quantity := order.quantity } := by
    rw [hsent, ← horder]
    rfl
  have hnew : Renewed s
      { s.commit base w with sends := ⟨base, leg, s.nextOrderId, andThen⟩ :: s.sends }
      base p w.pair := by
    refine ⟨rfl, ?_, hw.named, fun id b hid => ?_, fun leg' => ?_⟩
    · show s.nextOrderId ≤ w.nextOrderId
      rw [hw.next]
      omega
    · have hid' : w.orderToBase.lookup id = some b := hid
      show id ≠ 0 ∧ id < w.nextOrderId
      rw [hw.orderToBase, Table.lookup_insert_eq] at hid'
      rw [hw.next]
      have hpos := hids.pos
      split at hid'
      · omega
      · have hold := hids.fresh id b hid'
        omega
    · rw [hw.orderId]
      split
      · next hleg =>
        refine .inr (.inr ⟨rfl, ?_, fun leg'' heq => ?_⟩)
        · show s.nextOrderId < w.nextOrderId
          rw [hw.next]
          omega
        · rw [hw.orderId] at heq
          split at heq
          · next hleg' => exact hleg'.trans hleg.symm
          · -- the other leg's id is older
            have hne : (p.leg leg'').orderId ≠ 0 := by
              rw [heq]
              exact hids.pos.ne'
            have hold := (hids.owned base p leg'' hp hne).2.1
            omega
      · exact .inl rfl
  have hpair : (s.commit base w).pairs.lookup base = some w.pair := by
    rw [lookup_commit, if_pos rfl]
  have hid : (w.pair.leg leg).orderId = s.nextOrderId := by rw [hw.orderId, if_pos rfl]
  have hown : Owns { s.commit base w with sends := ⟨base, leg, s.nextOrderId, andThen⟩ :: s.sends }
      base leg s.nextOrderId := by
    refine ⟨hids.pos.ne', ?_, fun b q leg' hq heq => ?_⟩
    · show s.nextOrderId < w.nextOrderId
      rw [hw.next]
      omega
    · have hq' : (s.commit base w).pairs.lookup b = some q := hq
      rw [lookup_commit] at hq'
      split at hq'
      · next hb =>
        cases hq'
        rcases hnew.leg leg with hsame | hzero | ⟨-, -, honly⟩
        · have hne : (p.leg leg).orderId ≠ 0 := by
            rw [← hsame, hid]
            exact hids.pos.ne'
          have hold := (hids.owned base p leg hp hne).2.1
          omega
        · exact absurd (hid.symm.trans hzero) hids.pos.ne'
        · exact ⟨hb, honly leg' heq⟩
      · have hold := (hids.owned b q leg' hq' (heq ▸ hids.pos.ne')).2.1
        omega
  refine ⟨hids.renew hp hnew fun send hsend => ?_, fun b q hq leg' hleg => ?_⟩
  · rcases List.mem_cons.mp hsend with rfl | hold
    · exact .inr ⟨hown, hclose⟩
    · exact .inl hold
  · show Outstanding (w.sent.foldl recordCall orders) w.orderToBase b _
    rw [hplaced, hw.orderToBase, hnamed]
    have hq' : (s.commit base w).pairs.lookup b = some q := hq
    rw [lookup_commit] at hq'
    split at hq'
    · next hb =>
      cases hq'
      subst hb
      rw [hw.waits] at hleg
      cases hleg
      rw [hid]
      refine ⟨hids.pos.ne', ?_,
        { instrumentId := order.instrumentId, side := order.side, quantity := order.quantity },
        ?_, rfl⟩
      · rw [Table.lookup_insert_eq, if_pos rfl]
      · rw [Table.lookup_insert_eq, if_pos rfl]
    · next hb =>
      have hold := hothers b hb q hq' leg' hleg
      exact hold.place (Nat.ne_of_lt (hids.fresh _ b hold.2.1).2) _ _

/-- A leg whose order the pair does not wait for loses it. -/
theorem Attending.closeLeg (h : Attending ⟨s, orders⟩) (hp : s.pairs.lookup base = some p)
    {leg : Leg} {orderId : Nat} (hown : Owns s base leg orderId)
    (hne : awaited p.state ≠ some leg) :
    Attending ⟨s.commit base ((s.work p).andThen (.closeLeg leg orderId)), orders⟩ := by
  have hnew : Renewed s (s.commit base ((s.work p).andThen (.closeLeg leg orderId))) base p
      (p.setOrderId leg 0) := by
    refine ⟨rfl, le_rfl, (setOrderId_rest p leg 0).1, fun id b hid => ?_, fun leg' => ?_⟩
    · have hid' : (s.orderToBase.erase orderId).lookup id = some b := hid
      rw [Table.lookup_erase_eq] at hid'
      split at hid'
      · cases hid'
      · exact h.ids.fresh id b hid'
    · rw [(leg_setOrderId p leg leg' 0).2]
      split
      · exact .inr (.inl rfl)
      · exact .inl rfl
  refine ⟨h.ids.renew hp hnew fun send hsend => .inl hsend, fun b q hq leg' hleg => ?_⟩
  show Outstanding orders (s.orderToBase.erase orderId) b _
  have hq' : (s.commit base ((s.work p).andThen (.closeLeg leg orderId))).pairs.lookup b = some q := hq
  rw [lookup_commit] at hq'
  split at hq'
  · next hb =>
    cases hq'
    subst hb
    have hstate : awaited p.state = some leg' := by
      rw [← hleg, ← (setOrderId_rest p leg 0).2.1]
      rfl
    have hother : leg' ≠ leg := by
      rintro rfl
      exact hne hstate
    have hid : ((p.setOrderId leg 0).leg leg').orderId = (p.leg leg').orderId := by
      rw [(leg_setOrderId p leg leg' 0).2, if_neg hother]
    show Outstanding orders (s.orderToBase.erase orderId) b ((p.setOrderId leg 0).leg leg').orderId
    rw [hid]
    exact (h.attended b p hp leg' hstate).erase fun heq => hother (hown.2.2 b p leg' hp heq).2
  · next hb =>
    exact (h.attended b q hq' leg' hleg).erase fun heq => hb (hown.2.2 b q leg' hq' heq).1

/-- The end of a callback, whose rest closes no leg that the pair waits for. -/
theorem Attending.finish (hids : Ids s) (hp : s.pairs.lookup base = some p)
    (hothers : ∀ b, b ≠ base → Trading.AttendedAt ⟨s, orders⟩ b)
    {andThen : AndThen}
    (hw : (Quiet s p w ∧ (awaited w.pair.state = none ∨ Trading.AttendedAt ⟨s, orders⟩ base) ∧
        ∀ leg ∈ andThen.clears, awaited w.pair.state ≠ some leg) ∨
      ∃ leg, Sent s p w leg)
    (hclose : ∀ leg id, andThen = .closeLeg leg id → Owns s base leg id) :
    Attending
      ⟨(s.finish base w andThen).1, (s.finish base w andThen).2.foldl recordCall orders⟩ := by
  unfold FundingArb.finish
  rcases hw with ⟨hquiet, hbase, hne⟩ | ⟨leg, hsent⟩
  · rw [hquiet.sending]
    show Attending ⟨s.commit base (w.andThen andThen), w.sent.foldl recordCall orders⟩
    rw [hquiet.sent]
    cases andThen with
    | evaluated nowNs =>
      refine Attending.quiet hids hp hothers ?_ hbase
      refine ⟨hquiet.sending, hquiet.sent, hquiet.orderToBase, hquiet.next, hquiet.named,
        fun leg => ?_, hquiet.waits⟩
      rw [← hquiet.orderId leg]
      cases leg <;> rfl
    | closeLeg leg id =>
      have hown := hclose leg id rfl
      have hmid := Attending.quiet hids hp hothers hquiet hbase
      have hpair : (s.commit base w).pairs.lookup base = some w.pair := by
        rw [lookup_commit, if_pos rfl]
      have hown' : Owns (s.commit base w) base leg id := by
        refine ⟨hown.1, Nat.lt_of_lt_of_eq hown.2.1 hquiet.next.symm, fun b q leg' hq heq => ?_⟩
        rw [lookup_commit] at hq
        split at hq
        · next hb =>
          cases hq
          subst hb
          exact hown.2.2 b p leg' hp ((hquiet.orderId leg').symm.trans heq)
        · exact hown.2.2 b q leg' hq heq
      have hclosed := hmid.closeLeg hpair hown' (hne leg rfl)
      rw [commit_commit] at hclosed
      exact hclosed
  · rw [hsent.sending]
    exact Attending.sent hids hp hothers hsent hclose

variable {cfg : Config} {t : Trading}

theorem Attending.onBbo (hgw : cfg.hasOrderGw = true) (h : Attending t) (tick : MdMarketData)
    (rates : FundingRateCache) :
    Attending
      ⟨(t.strategy.onBbo cfg rates tick).1,
        (t.strategy.onBbo cfg rates tick).2.foldl recordCall t.orders⟩ := by
  unfold FundingArb.onBbo
  split
  · exact h
  · next base _ =>
    split
    · exact h
    · next p hp =>
      split
      · exact h
      · dsimp only
        have hids : SameIds p (setBbo p tick) := by
          unfold setBbo
          split
          · exact ⟨rfl, fun leg => by cases leg <;> rfl⟩
          · exact ⟨rfl, fun leg => by cases leg <;> rfl⟩
        have hstate : (setBbo p tick).state = p.state := by
          unfold setBbo
          split <;> rfl
        have hset : Quiet t.strategy p (t.strategy.work (setBbo p tick)) :=
          quiet_work hids (.inr hstate)
        split
        · refine Attending.finish h.ids hp (fun b _ => h.attended b) ?_ nofun
          rcases evaluatePair_cases t.strategy (setBbo p tick) hgw rates tick.timestampNs with
            hquiet | ⟨leg, hsent⟩
          · refine .inl ⟨hquiet.of_same hids ?_, .inr (h.attended base), nofun⟩
            rw [← hstate]
            exact hquiet.waits
          · exact .inr ⟨leg, hsent.of_same hids⟩
        · exact Attending.quiet h.ids hp (fun b _ => h.attended b) hset (.inr (h.attended base))

theorem sameIds_handleFill (p : ArbPair) (leg : LegState) (rpt : ExecReport) :
    SameIds p (handleFill p leg rpt) ∧ (handleFill p leg rpt).state = p.state := by
  unfold handleFill
  split
  · exact ⟨⟨rfl, fun leg => by cases leg <;> rfl⟩, rfl⟩
  · exact ⟨⟨rfl, fun leg => by cases leg <;> rfl⟩, rfl⟩

theorem findLeg_isSome {base : String} {p : ArbPair} {leg : Leg} {orderId : Nat}
    (hbase : s.orderToBase.lookup orderId = some base) (hp : s.pairs.lookup base = some p)
    (horder : (p.leg leg).orderId = orderId) : s.findLeg orderId ≠ none := by
  unfold findLeg
  rw [hbase]
  dsimp only
  rw [hp]
  dsimp only
  split
  · exact nofun
  · next hspot =>
    cases leg with
    | spot => exact absurd horder hspot
    | perp =>
      rw [if_pos (show p.perp.orderId = orderId from horder)]
      exact nofun

theorem Attending.onExecReport (hgw : cfg.hasOrderGw = true) (h : Attending t) (rpt : ExecReport) :
    Attending
      ⟨(t.strategy.onExecReport cfg rpt).1,
        (t.strategy.onExecReport cfg rpt).2.foldl recordCall (recordReport t.orders rpt)⟩ := by
  unfold FundingArb.onExecReport
  cases hfound : t.strategy.findLeg rpt.orderId with
  | none =>
    -- an order that a pair waits for is found
    refine ⟨h.ids, fun base p hp leg hleg => ?_⟩
    have hout := h.attended base p hp leg hleg
    exact hout.report fun _ heq =>
      findLeg_isSome (heq ▸ hout.2.1) hp heq hfound
  | some found =>
    obtain ⟨base, p, leg⟩ := found
    obtain ⟨hbase, hp, horder⟩ := findLeg_eq_some hfound
    have hothers : ∀ b, b ≠ base →
        Trading.AttendedAt ⟨t.strategy, recordReport t.orders rpt⟩ b := by
      intro b hb q hq leg' hleg'
      have hout := h.attended b q hq leg' hleg'
      refine hout.report fun _ heq => hb ?_
      have hof := hout.2.1
      rw [heq, hbase] at hof
      exact (Option.some.inj hof).symm
    have hfill : ∀ q, q = (if rpt.status.isFill then handleFill p (p.leg leg) rpt else p) →
        SameIds p q ∧ q.state = p.state := by
      rintro q rfl
      split
      · exact sameIds_handleFill p _ rpt
      · exact ⟨⟨rfl, fun _ => rfl⟩, rfl⟩
    dsimp only
    generalize hq : (if rpt.status.isFill then handleFill p (p.leg leg) rpt else p) = q
    obtain ⟨hids, hstate⟩ := hfill q hq.symm
    split
    · have hown : Owns t.strategy base leg rpt.orderId := by
        rw [← horder]
        refine h.ids.owned base p leg hp ?_
        rw [horder]
        exact (h.ids.fresh _ _ hbase).1
      refine Attending.finish h.ids hp hothers ?_ fun leg' id heq => ?_
      · rcases handleTerminal_cases t.strategy q hgw rpt.status with
          ⟨hquiet, hnone⟩ | ⟨leg', hsent⟩
        · refine .inl ⟨hquiet.of_same hids (.inl hnone), .inl hnone, fun leg' _ => ?_⟩
          rw [hnone]
          exact nofun
        · exact .inr ⟨leg', hsent.of_same hids⟩
      · cases heq
        exact hown
    · next hopen =>
      refine Attending.quiet h.ids hp hothers (quiet_work hids (.inr hstate)) (.inr ?_)
      intro q' hq' leg' hleg'
      exact (h.attended base q' hq' leg' hleg').report fun hterminal => absurd hterminal hopen

theorem Attending.sendReturned (h : Attending t) {accepted : Bool}
    (hkeeps : t.KeepsOrder (.sendReturned accepted)) :
    Attending ⟨t.strategy.sendReturned accepted, t.orders⟩ := by
  unfold FundingArb.sendReturned
  split
  · exact h
  · next send sends hsends =>
    have hmem : send ∈ t.strategy.sends := by
      rw [hsends]
      exact List.mem_cons_self
    obtain ⟨hown, hclose⟩ := h.ids.sends send hmem
    have hpopped : Attending ⟨{ t.strategy with sends := sends }, t.orders⟩ := by
      refine ⟨⟨h.ids.pos, h.ids.named, h.ids.fresh, h.ids.owned, fun send' hsend' => ?_⟩, h.attended⟩
      refine h.ids.sends send' ?_
      rw [hsends]
      exact List.mem_cons_of_mem _ hsend'
    dsimp only
    split
    · exact hpopped
    · next p hp =>
      obtain ⟨hrefused, hrest⟩ := hkeeps send (by rw [hsends]; rfl) p hp
      -- the rest of the callback, from any state that has the pair wait for the same
      have hthen : ∀ (s : FundingArb) (q : ArbPair), Attending ⟨s, t.orders⟩ →
          s.pairs.lookup send.base = some q → q.state = p.state →
          (∀ leg id, send.andThen = .closeLeg leg id → Owns s send.base leg id) →
          Attending ⟨s.commit send.base ((s.work q).andThen send.andThen), t.orders⟩ := by
        intro s q hs hq hstate hcloses
        cases handThen : send.andThen with
        | evaluated nowNs =>
          refine Attending.quiet hs.ids hq (fun b _ => hs.attended b) ?_ (.inr (hs.attended _))
          exact quiet_work ⟨rfl, fun leg => by cases leg <;> rfl⟩ (.inr rfl)
        | closeLeg leg id =>
          refine hs.closeLeg hq (hcloses leg id handThen) ?_
          rw [hstate]
          refine hrest leg ?_
          rw [handThen]
          rfl
      cases accepted with
      | true => exact hthen _ p hpopped hp rfl hclose
      | false =>
        have hclosed := hpopped.closeLeg hp hown (hrefused rfl)
        have hdone := hthen _ (p.setOrderId send.leg 0) hclosed (by rw [lookup_commit, if_pos rfl]; rfl)
          (setOrderId_rest p send.leg 0).2.1 fun leg id heq => ?_
        · rw [commit_commit] at hdone
          exact hdone
        · obtain ⟨hne, hlt, honly⟩ := hclose leg id heq
          refine ⟨hne, hlt, fun b q leg' hq hid => ?_⟩
          rw [lookup_commit] at hq
          split at hq
          · next hb =>
            cases hq
            have hid' : ((p.setOrderId send.leg 0).leg leg').orderId = id := hid
            rw [(leg_setOrderId p send.leg leg' 0).2] at hid'
            split at hid'
            · exact absurd hid'.symm hne
            · exact honly b p leg' (hb ▸ hp) hid'
          · exact honly b q leg' hq hid

/-- A snapshot makes pairs that wait for nothing. -/
theorem Attending.onInstrumentSnapshot (h : Attending t) (cfg : Config) (cache : InstrumentCache)
    (allIds : List Nat) :
    Attending ⟨t.strategy.onInstrumentSnapshot cfg cache allIds, t.orders⟩ := by
  have hresolved := resolved_onInstrumentSnapshot cfg t.strategy cache allIds
  refine ⟨⟨?_, fun base p hp => ?_, fun id base hid => ?_, fun base p leg hp hne => ?_,
    fun send hsend => ?_⟩, fun base p hp leg hleg => ?_⟩
  · rw [hresolved.nextOrderId]
    exact h.ids.pos
  · exact (hresolved.made base p hp).1.baseAsset
  · rw [hresolved.orderToBase] at hid
    cases hid
  · exact absurd ((hresolved.made base p hp).1.quiet leg) hne
  · rw [hresolved.sends] at hsend
    cases hsend
  · rw [(hresolved.made base p hp).1.idle] at hleg
    cases hleg

end Attending

/-! ## Runs -/

namespace Trading

theorem attending_init {nextOrderId : Nat} (hpos : 0 < nextOrderId) :
    Attending (init nextOrderId) where
  ids :=
    { pos := hpos
      named := fun base p hp => by simp [init] at hp
      fresh := fun id base hid => by simp [init] at hid
      owned := fun base p leg hp => by simp [init] at hp
      sends := fun send hsend => by simp [init] at hsend }
  attended base p hp := by simp [init] at hp

theorem attending_step {cfg : Config} (hgw : cfg.hasOrderGw = true) (t : Trading) (cb : Callback)
    (h : Attending t) (hkeeps : t.KeepsOrder cb) : Attending (t.step cfg cb).1 := by
  cases cb with
  | instrumentSnapshot cache allIds =>
    show Attending
      ⟨(t.strategy.step cfg (.instrumentSnapshot cache allIds)).1,
        (t.strategy.step cfg (.instrumentSnapshot cache allIds)).2.foldl recordCall t.orders⟩
    unfold FundingArb.step
    dsimp only
    split
    · exact h.onInstrumentSnapshot cfg cache allIds
    · exact h
  | instrumentDelta inst updateType => exact h
  | trade tick => exact h
  | bbo tick rates =>
    show Attending
      ⟨(t.strategy.step cfg (.bbo tick rates)).1,
        (t.strategy.step cfg (.bbo tick rates)).2.foldl recordCall t.orders⟩
    unfold FundingArb.step
    dsimp only
    split
    · exact h.onBbo hgw tick rates
    · exact h
  | execReport rpt => exact h.onExecReport hgw rpt
  | sendReturned accepted => exact h.sendReturned hkeeps

/-- **No pair is stuck.** When no call that returns clears the id of the order that its pair waits
for, between the callbacks of a run every pair that waits for an order has it, and the order has not
ended. -/
theorem stays_attended {cfg : Config} (hgw : cfg.hasOrderGw = true) {nextOrderId : Nat}
    (hpos : 0 < nextOrderId) {cbs : List Callback}
    (hkeeps : Machine.AlongRun (step cfg) KeepsOrder (init nextOrderId) cbs) :
    Machine.AllStates (step cfg) Attended (init nextOrderId) cbs :=
  (Machine.AllStates.of_assumption (attending_step hgw) (attending_init hpos) hkeeps).imp
    fun _ h _ => h.attended

/-- Both legs are filled inside the send of the first. -/
theorem filled_inside_attended :
    Machine.AllStates (step btcConfig) Attended (init 1)
      (btcEntry ++ [btcReport 1 .FILLED .BUY 1000000, btcReport 2 .FILLED .SELL 1000000,
        .sendReturned true, .sendReturned true, btcTick 202 2 99 101 0, .sendReturned true]) :=
  stays_attended rfl (by decide) (by decide +kernel)

theorem not_attended_of_cleared {t : Trading} (hsends : t.strategy.sends = []) {base : String}
    {leg : Leg}
    (hcleared : ∃ p ∈ t.strategy.pairs.lookup base,
      awaited p.state = some leg ∧ (p.leg leg).orderId = 0) : ¬ t.Attended := by
  obtain ⟨p, hp, hleg, hzero⟩ := hcleared
  intro hattended
  exact (hattended hsends base p hp leg hleg).1 hzero

/-- The second leg is cancelled inside the send that the fill of the first leg makes. The order that
unwinds the first leg is sent, and its id is cleared by the rest of the fill's report. -/
theorem unwind_loses_its_order :
    let t := Machine.exec (step btcConfig) (init 1)
      (btcEntry ++ [.sendReturned true, btcReport 1 .FILLED .BUY 1000000,
        btcReport 2 .CANCELLED .SELL 0, .sendReturned true, .sendReturned true])
    ¬ t.Attended ∧ (t.strategy.pairs.lookup "BTC").map (·.state) = some .UNWINDING ∧
      netQty t.orders 102 = 1000000 := by
  refine ⟨@not_attended_of_cleared _ ?_ "BTC" .spot ?_, ?_⟩
  · decide +kernel
  · decide +kernel
  · decide +kernel

end Trading

end FundingArb

end BptCore.Strategy
