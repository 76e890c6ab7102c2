import BptCore.Strategy.Unwind.GracefulUnwinder
import Mathlib.Data.List.Nodup

/-!
# The handles of an unwind

What holds of the unwind orders and of the records' handles whatever the calls and whatever the
gateway answers: an order that a record holds is outstanding and its own, and no two records hold
the same one. The reports are those of a venue, which says nothing of an outstanding order that
contradicts it.

* **`Turn`** — what a call can do to one record and to the desk.
* **`Linked`** — the invariant of desk and records, one lemma for a turn and one for a report.
* **`linked_run`** — it holds throughout.
-/

namespace BptCore.Strategy

open GracefulUnwinder

/-! ## One send -/

namespace Desk

variable {d : Desk}

/-- The gateway has the order under a new id, or nothing went out. -/
theorem sendNewOrder_cases (d : Desk) (env : UnwindEnv) (request : NewOrderRequest) :
    (∃ d', d.sendNewOrder env request = (d', none) ∧ d'.orders.om = d.orders.om ∧
        d'.outstanding = d.outstanding ∧ d.orders.nextOrderId ≤ d'.orders.nextOrderId) ∨
      ∃ price quantity symbol,
        normaliseAndValidate env.cache request.instrumentId request.side request.type request.price
          request.qty = some (price, quantity, symbol) ∧
        env.gateway (d.orders.outbound request price quantity symbol) ∧
        d.sendNewOrder env request =
          (d.place (d.orders.outbound request price quantity symbol) price quantity env.wallNs,
            some d.orders.nextOrderId) := by
  unfold sendNewOrder
  cases normaliseAndValidate env.cache request.instrumentId request.side request.type request.price
      request.qty with
  | none => exact Or.inl ⟨d, rfl, rfl, rfl, Nat.le_refl _⟩
  | some sized =>
    obtain ⟨price, quantity, symbol⟩ := sized
    dsimp only
    split
    · next htaken => exact Or.inr ⟨price, quantity, symbol, rfl, htaken, rfl⟩
    · exact Or.inl ⟨d.refuse, rfl, rfl, rfl, Nat.le_succ _⟩

/-- The order manager's record of an outstanding order. -/
def Tracks (d : Desk) (o : OpenOrder) : Prop :=
  ∃ s, d.orders.om.lookup.lookup o.orderId = some s ∧ ¬ s.status.terminal ∧
    s.instrumentId = o.instrumentId ∧ s.exchangeId = o.exchangeId

/-- What the desk keeps: ids are handed out in order, and an outstanding order is on record. -/
structure Valid (d : Desk) : Prop where
  recorded : ∀ orderId, d.orders.om.Tracks orderId → orderId < d.orders.nextOrderId
  ids : (d.outstanding.map (·.orderId)).Nodup
  tracked : ∀ o ∈ d.outstanding, d.Tracks o

theorem Valid.lt (h : Valid d) {o : OpenOrder} (ho : o ∈ d.outstanding) :
    o.orderId < d.orders.nextOrderId := by
  obtain ⟨s, hs, -⟩ := h.tracked o ho
  refine h.recorded o.orderId ?_
  rw [OrderManager.Tracks, hs]
  rfl

theorem Valid.eq_of_orderId (h : Valid d) {o o' : OpenOrder} (ho : o ∈ d.outstanding)
    (ho' : o' ∈ d.outstanding) (hid : o.orderId = o'.orderId) : o = o' :=
  List.inj_on_of_nodup_map h.ids ho ho' hid

theorem Valid.unsent (h : Valid d) {d' : Desk} (hom : d'.orders.om = d.orders.om)
    (hout : d'.outstanding = d.outstanding)
    (hnext : d.orders.nextOrderId ≤ d'.orders.nextOrderId) : Valid d' where
  recorded orderId htracks := by
    rw [hom] at htracks
    exact Nat.lt_of_lt_of_le (h.recorded orderId htracks) hnext
  ids := hout ▸ h.ids
  tracked o ho := by
    rw [hout] at ho
    rw [Tracks, hom]
    exact h.tracked o ho

theorem Valid.place (h : Valid d) (request : NewOrderRequest) (price quantity : ℚ)
    (symbol : String) (wallNs : Nat) :
    Valid (d.place (d.orders.outbound request price quantity symbol) price quantity wallNs) where
  recorded orderId htracks := by
    rcases (OrderManager.tracks_store _ _ _).mp htracks with rfl | htracks
    · exact Nat.lt_succ_self _
    · exact Nat.lt_succ_of_lt (h.recorded orderId htracks)
  ids := by
    refine List.nodup_cons.mpr ⟨fun hmem => ?_, h.ids⟩
    obtain ⟨o, ho, hid⟩ := List.mem_map.mp hmem
    have hlt := h.lt ho
    rw [hid] at hlt
    exact Nat.lt_irrefl _ hlt
  tracked o ho := by
    rcases List.mem_cons.mp ho with rfl | ho
    · exact ⟨.placed (d.orders.outbound request price quantity symbol) price quantity wallNs,
        AList.lookup_insert _, Bool.false_ne_true, rfl, rfl⟩
    · obtain ⟨s, hs, hrest⟩ := h.tracked o ho
      -- the record of another order
      have hne : o.orderId ≠ d.orders.nextOrderId := Nat.ne_of_lt (h.lt ho)
      exact ⟨s, (AList.lookup_insert_ne hne).trans hs, hrest⟩

/-- The records of the orders that are neither ended nor sent anew stay on record. -/
theorem Valid.of_records (h : Valid d) {om : OrderManager} {outstanding : List OpenOrder}
    (htracks : ∀ orderId, om.Tracks orderId ↔ d.orders.om.Tracks orderId)
    (hids : (outstanding.map (·.orderId)).Nodup)
    (htracked : ∀ o ∈ outstanding,
      Desk.Tracks { orders := { d.orders with om := om }, outstanding := outstanding } o) :
    Valid { orders := { d.orders with om := om }, outstanding := outstanding } where
  recorded orderId hon := h.recorded orderId ((htracks orderId).mp hon)
  ids := hids
  tracked := htracked

theorem cancelPending_terminal {s : OrderState} (h : ¬ s.status.terminal) (nowNs : Nat) :
    ¬ (OrderManager.cancelPending s nowNs).status.terminal := by
  unfold OrderManager.cancelPending
  split
  · exact Bool.false_ne_true
  · exact h

theorem cancelPending_same (s : OrderState) (nowNs : Nat) :
    (OrderManager.cancelPending s nowNs).instrumentId = s.instrumentId ∧
      (OrderManager.cancelPending s nowNs).exchangeId = s.exchangeId := by
  unfold OrderManager.cancelPending
  split
  · exact ⟨rfl, rfl⟩
  · exact ⟨rfl, rfl⟩

theorem Valid.sendCancel (h : Valid d) (handle : Option Nat) (wallNs : Nat) :
    Valid (d.sendCancel handle wallNs) := by
  refine h.of_records (fun orderId => ?_) h.ids fun o ho => ?_
  · rw [OrderManager.Tracks, OrderManager.lookup_sendCancelHandle, OrderManager.Tracks]
    split
    · rw [Option.isSome_map]
    · exact Iff.rfl
  · obtain ⟨s, hs, hlive, hinst, hex⟩ := h.tracked o ho
    rw [Tracks, OrderManager.lookup_sendCancelHandle, hs]
    split
    · exact ⟨_, rfl, cancelPending_terminal hlive wallNs,
        (cancelPending_same s wallNs).1.trans hinst, (cancelPending_same s wallNs).2.trans hex⟩
    · exact ⟨s, rfl, hlive, hinst, hex⟩

end Desk

/-! ## One report -/

/-- A report does not touch what an order is about. -/
theorem OpenOrder.after_same (rpt : ExecReport) (o : OpenOrder) :
    (o.after rpt).orderId = o.orderId ∧ (o.after rpt).instrumentId = o.instrumentId ∧
      (o.after rpt).exchangeId = o.exchangeId ∧ (o.after rpt).side = o.side := by
  unfold OpenOrder.after
  split
  · exact ⟨rfl, rfl, rfl, rfl⟩
  · exact ⟨rfl, rfl, rfl, rfl⟩

theorem OpenOrder.after_of_ne {rpt : ExecReport} {o : OpenOrder} (h : o.orderId ≠ rpt.orderId) :
    o.after rpt = o :=
  if_neg fun hboth => h hboth.1

namespace Desk

variable {d : Desk} {rpt : ExecReport}

/-- Nothing in a report contradicts the outstanding order that it names. -/
def Genuine (d : Desk) (rpt : ExecReport) : Prop :=
  ∀ o ∈ d.outstanding, o.orderId = rpt.orderId →
    o.instrumentId = rpt.instrumentId ∧ o.side = rpt.side ∧
      (rpt.status.isFill → rpt.filledQty ≤ o.remaining)

instance (d : Desk) (rpt : ExecReport) : Decidable (d.Genuine rpt) :=
  inferInstanceAs (Decidable (∀ o ∈ d.outstanding, _ → _))

theorem mem_outstandingAfter {l : List OpenOrder} {o : OpenOrder}
    (ho : o ∈ outstandingAfter rpt l) :
    (rpt.status.terminal → o.orderId ≠ rpt.orderId) ∧ ∃ o₀ ∈ l, o = o₀.after rpt := by
  unfold outstandingAfter at ho
  split at ho
  · obtain ⟨hmem, hne⟩ := List.mem_filter.mp ho
    have hne : o.orderId ≠ rpt.orderId := of_decide_eq_true hne
    exact ⟨fun _ => hne, o, hmem, (OpenOrder.after_of_ne hne).symm⟩
  · next hterminal =>
    obtain ⟨o₀, hmem, rfl⟩ := List.mem_map.mp ho
    exact ⟨fun h => absurd h hterminal, o₀, hmem, rfl⟩

/-- An order that the report does not end stays outstanding. -/
theorem after_mem {l : List OpenOrder} {o : OpenOrder} (ho : o ∈ l)
    (hkept : rpt.status.terminal → o.orderId ≠ rpt.orderId) :
    o.after rpt ∈ outstandingAfter rpt l := by
  unfold outstandingAfter
  split
  · next hterminal =>
    rw [OpenOrder.after_of_ne (hkept hterminal)]
    exact List.mem_filter.mpr ⟨ho, decide_eq_true (hkept hterminal)⟩
  · exact List.mem_map_of_mem ho

/-- What a report does not touch of the orders that it leaves outstanding stays distinct. -/
theorem nodup_outstandingAfter {β : Type*} {g : OpenOrder → β} (hg : ∀ o, g (o.after rpt) = g o)
    {l : List OpenOrder} (h : (l.map g).Nodup) : ((outstandingAfter rpt l).map g).Nodup := by
  unfold outstandingAfter
  split
  · exact h.sublist (List.filter_sublist.map g)
  · rw [List.map_map, show g ∘ OpenOrder.after rpt = g from funext hg]
    exact h

theorem applyReport_same (s : OrderState) (rpt : ExecReport) (nowNs : Nat) :
    (OrderManager.applyReport s rpt nowNs).instrumentId = s.instrumentId ∧
      (OrderManager.applyReport s rpt nowNs).exchangeId = s.exchangeId := by
  unfold OrderManager.applyReport OrderManager.recordFill
  dsimp only
  split
  · exact ⟨rfl, rfl⟩
  · exact ⟨rfl, rfl⟩

theorem Valid.report (h : Valid d) (rpt : ExecReport) (wallNs : Nat) :
    Valid (d.report rpt wallNs) := by
  refine h.of_records (fun orderId => d.orders.om.tracks_onExecReport rpt wallNs orderId)
    (nodup_outstandingAfter (fun o => (o.after_same rpt).1) h.ids) fun o ho => ?_
  obtain ⟨hkept, o₀, ho₀, rfl⟩ := mem_outstandingAfter ho
  obtain ⟨hid, hinst, hex, -⟩ := o₀.after_same rpt
  obtain ⟨s, hs, hlive, hsame⟩ := h.tracked o₀ ho₀
  rw [Tracks, hid, hinst, hex, OrderManager.lookup_onExecReport, hs]
  split
  · next hnamed =>
    -- the report does not end the order it is about
    have hopen : ¬ rpt.status.terminal := fun hterminal => hkept hterminal (hid.trans hnamed.symm)
    refine ⟨_, rfl, ?_, (applyReport_same s rpt wallNs).1.trans hsame.1,
      (applyReport_same s rpt wallNs).2.trans hsame.2⟩
    show ¬ (OrderManager.statusOf rpt.status).terminal
    rw [OrderManager.terminal_statusOf]
    exact hopen
  · exact ⟨s, rfl, hlive, hsame⟩

end Desk

/-! ## One turn -/

namespace GracefulUnwinder

/-- What no call changes of a record. -/
def Record.Same (r' r : Record) : Prop :=
  r'.instrumentId = r.instrumentId ∧ r'.exchangeId = r.exchangeId ∧ r'.lotSize = r.lotSize

theorem Record.Same.key {r' r : Record} (h : r'.Same r) : r'.key = r.key := by
  rw [Record.key, Record.key, h.1, h.2.1]

theorem Record.Same.netOf {r' r : Record} (h : r'.Same r) (positions : PositionTracker) :
    netOf positions r' = netOf positions r := by
  rw [GracefulUnwinder.netOf, GracefulUnwinder.netOf, h.1, h.2.1]

theorem Record.Same.flat {r' r : Record} (h : r'.Same r) (positions : PositionTracker) :
    flat positions r' = flat positions r := by
  rw [GracefulUnwinder.flat, GracefulUnwinder.flat, h.netOf, h.2.2]

/-- A request for the whole of the position that the record unwinds. -/
structure Closes (positions : PositionTracker) (r : Record) (request : NewOrderRequest) : Prop where
  instrumentId : request.instrumentId = r.instrumentId
  exchangeId : request.exchangeId = some r.exchangeId
  side : request.side = unwindSide (netOf positions r)
  qty : request.qty = |netOf positions r|

variable (cfg : Config) (positions : PositionTracker) (env : UnwindEnv)

/-- What a call can do to a record at its turn, and to the desk. -/
inductive Turn (d : Desk) (r : Record) : Desk × Record → Prop
  | kept {r' : Record} (same : r'.Same r) (handle : r'.hUnwind = r.hUnwind) : Turn d r (d, r')
  | cancelled {r' : Record} (same : r'.Same r) (handle : r'.hUnwind = r.hUnwind) :
    Turn d r (d.sendCancel r.hUnwind env.wallNs, r')
  /-- Only a record without a live order sends, and for a position that is not flat. -/
  | sent {r' : Record} (request : NewOrderRequest) (same : r'.Same r)
    (closes : Closes positions r request) (notFlat : ¬ flat positions r)
    (notLive : ¬ d.live r.hUnwind) (handle : r'.hUnwind = (d.sendNewOrder env request).2) :
    Turn d r ((d.sendNewOrder env request).1, r')

variable {positions env} {d : Desk} {r r' : Record}

theorem Turn.sendPassive (same : r'.Same r) (handle : r'.hUnwind = r.hUnwind)
    (notFlat : ¬ flat positions r) (notLive : ¬ d.live r.hUnwind) :
    Turn positions env d r
      (sendPassive env d r' (unwindSide (netOf positions r')) |netOf positions r'|) := by
  unfold GracefulUnwinder.sendPassive
  split
  · exact .kept same handle
  · refine .sent _ same ⟨same.1, congrArg some same.2.1, ?_, ?_⟩ notFlat notLive rfl
    · exact congrArg unwindSide (same.netOf positions)
    · exact congrArg abs (same.netOf positions)

theorem Turn.advanceIoc (same : r'.Same r) (handle : r'.hUnwind = r.hUnwind)
    (notLive : ¬ d.live r.hUnwind) :
    Turn positions env d r (advanceIoc cfg positions env d r') := by
  unfold GracefulUnwinder.advanceIoc
  split
  · exact .kept same handle
  · next hflat =>
    rw [same.flat] at hflat
    split
    · exact .kept same handle
    · unfold sendIoc
      dsimp only
      split
      · exact .kept same handle
      · refine .sent _ same ⟨same.1, congrArg some same.2.1, ?_, ?_⟩ hflat notLive rfl
        · exact congrArg unwindSide (same.netOf positions)
        · exact congrArg abs (same.netOf positions)

/-- **`tick`, one record.** -/
theorem tickRecord_turn : Turn positions env d r (tickRecord cfg positions env d r) := by
  have hsame : r.Same r := ⟨rfl, rfl, rfl⟩
  unfold tickRecord
  split
  · exact .kept hsame rfl
  · split
    · exact .kept hsame rfl
    · next hflat =>
      split
      -- the timeout
      · dsimp only
        split
        · exact .cancelled hsame rfl
        · next hlive => exact .advanceIoc cfg hsame rfl hlive
      · split
        -- a step towards the market
        · dsimp only
          split
          · exact .cancelled hsame rfl
          · next hlive => exact .sendPassive hsame rfl hflat hlive
        · exact .kept hsame rfl

/-- **`on_exec_report`, the record whose order has ended.** -/
theorem onTerminal_turn :
    Turn positions env d { r with hUnwind := none } (onTerminal cfg positions env d r) := by
  have hsame : Record.Same { r with hUnwind := none } { r with hUnwind := none } := ⟨rfl, rfl, rfl⟩
  have hlive : ¬ d.live none := Bool.false_ne_true
  unfold onTerminal
  dsimp only
  split
  · exact .kept hsame rfl
  · next hflat =>
    split
    · exact .sendPassive hsame rfl hflat hlive
    · exact .advanceIoc cfg hsame rfl hlive
    · exact .kept hsame rfl

variable (positions env) in
/-- The turn of an instrument in `arm`: none when its position is flat, else that of a new record. -/
theorem armInstrument_cases (s : Desk × List Record) (inst : GracefulUnwinder.Instrument) :
    (flat positions (Record.armed cfg env inst) ∧ armInstrument cfg positions env s inst = s) ∨
      (¬ flat positions (Record.armed cfg env inst) ∧
        ∃ out, Turn positions env s.1 (Record.armed cfg env inst) out ∧
          armInstrument cfg positions env s inst = (out.1, s.2 ++ [out.2])) := by
  unfold armInstrument
  dsimp only
  split
  · next hflat => exact Or.inl ⟨hflat, rfl⟩
  · next hflat =>
    have hsame : (Record.armed cfg env inst).Same (Record.armed cfg env inst) := ⟨rfl, rfl, rfl⟩
    refine Or.inr ⟨hflat, ?_⟩
    split
    · exact ⟨_, .kept hsame rfl, rfl⟩
    · exact ⟨_, .sendPassive hsame rfl hflat Bool.false_ne_true, rfl⟩

end GracefulUnwinder

/-! ## Desk and records -/

/-- The order trades the instrument of the record. -/
def OpenOrder.For (o : OpenOrder) (r : Record) : Prop :=
  o.instrumentId = r.instrumentId ∧ o.exchangeId = r.exchangeId

/-- The orders that the records hold. -/
def handles (records : List Record) : List Nat := records.filterMap (·.hUnwind)

/-- An order that a record holds is outstanding, and its own. -/
structure Linked (d : Desk) (records : List Record) : Prop where
  valid : d.Valid
  held : ∀ r ∈ records, ∀ orderId, r.hUnwind = some orderId →
    ∃ o ∈ d.outstanding, o.orderId = orderId ∧ o.For r
  apart : (handles records).Nodup

namespace Linked

variable {cfg : Config} {positions : PositionTracker} {env : UnwindEnv} {d : Desk} {r : Record}
  {records rest pre post : List Record} {rpt : ExecReport}

/-- The order of the records does not matter. -/
theorem perm (h : Linked d records) {records' : List Record} (hperm : records'.Perm records) :
    Linked d records' where
  valid := h.valid
  held r hr := h.held r (hperm.mem_iff.mp hr)
  apart := ((hperm.filterMap _).nodup_iff).mpr h.apart

/-- A record without an order. -/
theorem cons_none (h : Linked d records) (hnone : r.hUnwind = none) : Linked d (r :: records) where
  valid := h.valid
  held r' hr' := by
    rcases List.mem_cons.mp hr' with rfl | hr'
    · rw [hnone]
      exact fun _ h => nomatch h
    · exact h.held r' hr'
  apart := by
    rw [handles, List.filterMap_cons_none hnone]
    exact h.apart

theorem tail (h : Linked d (r :: rest)) : Linked d rest where
  valid := h.valid
  held r' hr' := h.held r' (List.mem_cons_of_mem r hr')
  apart := h.apart.sublist ((List.sublist_cons_self r rest).filterMap _)

/-- Another desk with the same orders outstanding. -/
theorem desk (h : Linked d records) {d' : Desk} (hvalid : d'.Valid)
    (hout : d'.outstanding = d.outstanding) : Linked d' records where
  valid := hvalid
  held := hout ▸ h.held
  apart := h.apart

/-- The record keeps the order that it has. -/
theorem same (h : Linked d (r :: rest)) {r' : Record} (hsame : r'.Same r)
    (hhandle : r'.hUnwind = r.hUnwind) : Linked d (r' :: rest) where
  valid := h.valid
  held x hx orderId hx' := by
    rcases List.mem_cons.mp hx with rfl | hx
    · rw [hhandle] at hx'
      obtain ⟨o, ho, hid, hinst, hex⟩ := h.held r List.mem_cons_self orderId hx'
      exact ⟨o, ho, hid, hinst.trans hsame.1.symm, hex.trans hsame.2.1.symm⟩
    · exact h.held x (List.mem_cons_of_mem r hx) orderId hx'
  apart := by
    have hsame : handles (r' :: rest) = handles (r :: rest) := by
      rw [handles, handles, List.filterMap_cons, List.filterMap_cons, hhandle]
    rw [hsame]
    exact h.apart

/-- The order of a record is out under the next id. -/
theorem place (h : Linked d rest) {request : NewOrderRequest} {r' : Record}
    (hinst : request.instrumentId = r'.instrumentId)
    (hex : request.exchangeId = some r'.exchangeId)
    (hhandle : r'.hUnwind = some d.orders.nextOrderId) (price quantity : ℚ) (symbol : String)
    (wallNs : Nat) :
    Linked (d.place (d.orders.outbound request price quantity symbol) price quantity wallNs)
      (r' :: rest) where
  valid := h.valid.place request price quantity symbol wallNs
  held x hx orderId hx' := by
    rcases List.mem_cons.mp hx with rfl | hx
    · rw [hhandle] at hx'
      obtain rfl := Option.some.inj hx'
      refine ⟨_, List.mem_cons_self, rfl, hinst, ?_⟩
      show request.exchangeId.getD .ALL = x.exchangeId
      rw [hex]
      rfl
    · obtain ⟨o, ho, hrest⟩ := h.held x hx orderId hx'
      exact ⟨o, List.mem_cons_of_mem _ ho, hrest⟩
  apart := by
    rw [handles, List.filterMap_cons_some hhandle]
    refine List.nodup_cons.mpr ⟨fun hmem => ?_, h.apart⟩
    -- the ids that the records hold came before
    obtain ⟨x, hx, hx'⟩ := List.mem_filterMap.mp hmem
    obtain ⟨o, ho, hid, -⟩ := h.held x hx _ hx'
    have hlt := h.valid.lt ho
    rw [hid] at hlt
    exact Nat.lt_irrefl _ hlt

/-- **One turn.** -/
theorem turn_cons (h : Linked d (r :: rest)) {out : Desk × Record}
    (hturn : Turn positions env d r out) : Linked out.1 (out.2 :: rest) := by
  cases hturn with
  | kept same handle => exact h.same same handle
  | cancelled same handle =>
    exact (h.same same handle).desk (h.valid.sendCancel r.hUnwind env.wallNs) rfl
  | sent request same closes notFlat notLive handle =>
    rcases d.sendNewOrder_cases env request with
      ⟨d', heq, hom, hout, hnext⟩ | ⟨price, quantity, symbol, -, -, heq⟩
    · rw [heq] at handle ⊢
      exact (h.tail.desk (h.valid.unsent hom hout hnext) hout).cons_none handle
    · rw [heq] at handle ⊢
      exact h.tail.place (closes.instrumentId.trans same.1.symm)
        (closes.exchangeId.trans (congrArg some same.2.1.symm)) handle price quantity symbol
        env.wallNs

theorem turn (h : Linked d (pre ++ r :: post)) {out : Desk × Record}
    (hturn : Turn positions env d r out) : Linked out.1 (pre ++ out.2 :: post) :=
  ((h.perm List.perm_middle.symm).turn_cons hturn).perm List.perm_middle

/-- A record of its own holds the order. -/
theorem ne_of_held (h : Linked d (r :: rest)) {orderId : Nat} (hr : r.hUnwind = some orderId)
    {r' : Record} (hr' : r' ∈ rest) : r'.hUnwind ≠ some orderId := by
  intro heq
  have hnodup := h.apart
  rw [handles, List.filterMap_cons_some hr] at hnodup
  exact (List.nodup_cons.mp hnodup).1 (List.mem_filterMap.mpr ⟨r', hr', heq⟩)

/-- A report after which no record holds an order that it ended. -/
theorem report_desk (h : Linked d records) (wallNs : Nat)
    (hkept : rpt.status.terminal → ∀ r ∈ records, r.hUnwind ≠ some rpt.orderId) :
    Linked (d.report rpt wallNs) records where
  valid := h.valid.report rpt wallNs
  held r hr orderId hr' := by
    obtain ⟨o, ho, rfl, hfor⟩ := h.held r hr orderId hr'
    obtain ⟨hid, hinst, hex, -⟩ := o.after_same rpt
    refine ⟨o.after rpt, Desk.after_mem ho fun hterminal heq => ?_, hid, hinst.trans hfor.1,
      hex.trans hfor.2⟩
    exact hkept hterminal r hr (hr'.trans (congrArg some heq))
  apart := h.apart

/-- A report does not find another record's order. -/
theorem isReported_of_held (h : Linked d records) (hgenuine : d.Genuine rpt) {r : Record}
    (hr : r ∈ records) (hhandle : r.hUnwind = some rpt.orderId) : isReported rpt r := by
  obtain ⟨o, ho, hid, hinst, -⟩ := h.held r hr _ hhandle
  exact decide_eq_true ⟨hinst.symm.trans (hgenuine o ho hid).1, hhandle⟩

/-- **One report.** -/
theorem onExecReport (h : Linked d records) (hgenuine : d.Genuine rpt) :
    Linked (onExecReport cfg positions env (d.report rpt env.wallNs) records rpt).1
      (onExecReport cfg positions env (d.report rpt env.wallNs) records rpt).2 := by
  unfold GracefulUnwinder.onExecReport
  split
  · next hterminal =>
    rcases Sweep.updateFirst_cases (f := onTerminal cfg positions env) (isReported rpt)
      (d.report rpt env.wallNs) records with ⟨hnone, heq⟩ | ⟨pre, r, post, rfl, hr, heq⟩
    · rw [heq]
      exact h.report_desk env.wallNs fun _ r hr hhandle =>
        hnone r hr (h.isReported_of_held hgenuine hr hhandle)
    · rw [heq]
      have hhandle : r.hUnwind = some rpt.orderId := (of_decide_eq_true hr).2
      -- the record that is found, first without its order and then at its turn
      have hcons : Linked d (r :: (pre ++ post)) := h.perm List.perm_middle.symm
      have hfreed : Linked (d.report rpt env.wallNs) (pre ++ post) :=
        hcons.tail.report_desk env.wallNs fun _ _ hr' => hcons.ne_of_held hhandle hr'
      have hreset := (hfreed.cons_none (r := { r with hUnwind := none }) rfl).perm List.perm_middle
      exact hreset.turn (onTerminal_turn cfg)
  · next hopen => exact h.report_desk env.wallNs fun hterminal => absurd hterminal hopen

theorem tick (h : Linked d records) :
    Linked (tick cfg positions env d records).1 (tick cfg positions env d records).2 :=
  Sweep.sweep_induction (D := fun _ _ => True)
    (fun _ _ _ _ hlinked _ => hlinked.turn (tickRecord_turn cfg)) (fun _ _ _ _ _ _ _ _ _ => trivial)
    h (fun _ _ => trivial)

theorem armInstrument {s : Desk × List Record} (h : Linked s.1 s.2)
    (inst : GracefulUnwinder.Instrument) :
    Linked (armInstrument cfg positions env s inst).1 (armInstrument cfg positions env s inst).2 := by
  rcases armInstrument_cases cfg positions env s inst with
    ⟨-, heq⟩ | ⟨-, out, hturn, heq⟩
  · rw [heq]
    exact h
  · rw [heq]
    exact ((h.cons_none rfl).turn_cons hturn).perm (List.perm_append_singleton _ _)

theorem arm (h : d.Valid) (instruments : List GracefulUnwinder.Instrument) :
    Linked (arm cfg positions env d instruments).1 (arm cfg positions env d instruments).2 := by
  suffices hfold : ∀ s : Desk × List Record, Linked s.1 s.2 →
      Linked (instruments.foldl (GracefulUnwinder.armInstrument cfg positions env) s).1
        (instruments.foldl (GracefulUnwinder.armInstrument cfg positions env) s).2 from
    hfold (d, []) ⟨h, fun _ hr => absurd hr List.not_mem_nil, List.nodup_nil⟩
  induction instruments with
  | nil => exact fun s hs => hs
  | cons inst instruments ih => exact fun s hs => ih _ (hs.armInstrument inst)

end Linked

/-! ## The run -/

namespace Unwinding

/-- The calls that can come: a venue does not contradict itself about an order. -/
def Possible (w : Unwinding) : UnwindEvent → Prop
  | .report _ rpt => w.desk.Genuine rpt
  | _ => True

instance (w : Unwinding) : ∀ e : UnwindEvent, Decidable (w.Possible e)
  | .arm _ _ => instDecidableTrue
  | .tick _ => instDecidableTrue
  | .report _ rpt => inferInstanceAs (Decidable (w.desk.Genuine rpt))
  | .moved _ => instDecidableTrue

/-- The calls of an unwind among its venues: a report that none of them sends does not come. -/
def venueStep (cfg : Config) (w : Unwinding) (e : UnwindEvent) : Unwinding × List Bool :=
  if w.Possible e then w.step cfg e else (w, [])

/-- Before the first call: what the order manager sent before, and whatever positions there are. -/
def start (nextOrderId : Nat) (sent : List SendEvent) (positions : PositionTracker) : Unwinding where
  desk := { orders := Machine.exec OrderSends.step { nextOrderId := nextOrderId } sent }
  positions := positions

theorem linked_start (nextOrderId : Nat) (sent : List SendEvent) (positions : PositionTracker) :
    Linked (start nextOrderId sent positions).desk (start nextOrderId sent positions).records where
  valid :=
    { recorded := (OrderSends.fresh_run nextOrderId sent).final.recorded
      ids := List.nodup_nil
      tracked := fun _ ho => absurd ho List.not_mem_nil }
  held _ hr := absurd hr List.not_mem_nil
  apart := List.nodup_nil

/-- **One call.** -/
theorem linked_venueStep (cfg : Config) (w : Unwinding) (e : UnwindEvent)
    (h : Linked w.desk w.records) :
    Linked (w.venueStep cfg e).1.desk (w.venueStep cfg e).1.records := by
  unfold venueStep
  split
  · next hpossible =>
    cases e with
    | arm env instruments => exact .arm h.valid instruments
    | tick env => exact h.tick
    | report env rpt =>
      unfold step next
      dsimp only
      split
      · exact h
      · exact h.onExecReport hpossible
    | moved positions => exact h
  · exact h

/-- **The handles of a run.** -/
theorem linked_run (cfg : Config) (nextOrderId : Nat) (sent : List SendEvent)
    (positions : PositionTracker) (es : List UnwindEvent) :
    Machine.AllStates (venueStep cfg) (fun w => Linked w.desk w.records)
      (start nextOrderId sent positions) es :=
  .of_inductive (linked_venueStep cfg) (linked_start nextOrderId sent positions) es

/-! ## An unwind of a long position -/

/-- A long position of 2, and nothing sent before. -/
def longTwo : Unwinding :=
  start 1 [] (({} : PositionTracker).onFill 7 .BINANCE .BUY 200000000 10000000000)

def tradable : Strategy.Instrument where
  instrumentId := 7
  symbol := "BTCUSDT"
  exchange := "BINANCE"
  baseCurrency := "BTC"
  quoteCurrency := "USDT"
  type := .SPOT
  status := .ACTIVE
  lotSize := 1 / 100
  tickSize := 1 / 10
  contractSize := 1
  expiryDate := 0
  optionSide := .NA
  strikePrice := 0

/-- The instrument is known, and the gateway takes every order or none, `seconds` into the run. -/
def unwindEnv (takes : Bool) (seconds : Nat) : UnwindEnv where
  cache instrumentId := if instrumentId = 7 then some tradable else none
  gateway _ := takes
  nowNs := seconds * 1000000000
  wallNs := 0

def pricedAt (priceRef : ℚ) : GracefulUnwinder.Instrument where
  instrumentId := 7
  exchangeId := .BINANCE
  tickSize := 1 / 10
  lotSize := 1 / 100
  priceRef := priceRef

/-- What the venue reports of an unwind order. -/
def reportOn (orderId : Nat) (status : ExecStatus) (filledQty : Nat) : ExecReport where
  orderId := orderId
  exchangeOrderId := orderId
  exchangeId := .BINANCE
  instrumentId := 7
  status := status
  side := .SELL
  orderType := .LIMIT
  price := 10000000000
  filledQty := filledQty
  remainingQty := 0
  rejectReason := .OK
  fee := 0
  feeCurrency := ""
  exchangeTsNs := 0
  localTsNs := 0

end Unwinding

end BptCore.Strategy
