import BptCore.Lib.Machine
import BptCore.Strategy.Hmm.HmmStrategy

/-!
# Positions and regimes of the hidden Markov strategy

A position that a signal has opened is there until the regime changes. The fill that opens it keeps
the id of its order, and the exits wait for an id of 0, which only a transition brings about; so no
run ever sends an exit.

* **`Turn.sendOrder_cases`** — what a call of `send_order` can do.
* **`Turn.Follows`** — what every part of a callback keeps, and what it may send.
* **`Turn.Sound`** — a position outside a transition carries the id of an order that has ended.
* **`Turn.Outcome`** — a callback leaves an instrument in transition, or lets it enter a regime, or
  trades within one.
* **`no_exits`** — no exit is ever sent, and only another regime takes a position away.
* **`regime_change_flat`** — a regime begins without a position, unless the close was not sent.
* **`closes_pile_up`** — every bar of an unfinished transition closes the whole position once more.
-/

namespace BptCore.Strategy.Hmm

open BptCore.Features

/-- What the transitions and the exits go by. -/
structure Control where
  exchangeId : ExchangeId
  regime : State
  targetRegime : State
  transitioning : Bool
  hasMomentumPosition : Bool
  momentumOrderId : Nat
  hasReversionPosition : Bool
  reversionOrderId : Nat

def InstrumentState.control (st : InstrumentState) : Control where
  exchangeId := st.exchangeId
  regime := st.regime
  targetRegime := st.targetRegime
  transitioning := st.transitioning
  hasMomentumPosition := st.hasMomentumPosition
  momentumOrderId := st.momentumOrderId
  hasReversionPosition := st.hasReversionPosition
  reversionOrderId := st.reversionOrderId

/-- An action for an instrument; an order of it is for one of the purposes. -/
def Action.For (id : Nat) (purposes : List Purpose) : Action → Prop
  | .sent purpose order => purpose ∈ purposes ∧ order.instrumentId = id
  | .unsent purpose => purpose ∈ purposes
  | .cancel request => request.instrumentId = id

theorem Action.For.mono {id : Nat} {purposes more : List Purpose} {a : Action}
    (h : a.For id purposes) (hsub : purposes ⊆ more) : a.For id more := by
  cases a with
  | sent purpose order => exact ⟨hsub h.1, h.2⟩
  | unsent purpose => exact hsub h
  | cancel request => exact h

namespace Turn

variable (cfg : Config) (num : ExpNumerics) (env : Surroundings) {t t' t'' : Turn}

theorem of_outboundOrder {side : OrderSide} {tif : TimeInForce} {price qty : ℚ}
    {order : OutboundNewOrder} (h : t.outboundOrder cfg env side tif price qty = some order) :
    order.orderId = t.nextOrderId ∧ order.instrumentId = t.id ∧ order.side = side := by
  unfold outboundOrder at h
  dsimp only at h
  split at h
  · split at h
    · cases h
    · cases h
      exact ⟨rfl, rfl, rfl⟩
  · cases h

/-- A call of `send_order` spends an id and notes it under the instrument, or there is no order. -/
theorem sendOrder_cases (t : Turn) (purpose : Purpose) (side : OrderSide) (tif : TimeInForce)
    (price qty : ℚ) :
    (t.nextOrderId ≠ 0 ∧ ∃ order, order.instrumentId = t.id ∧
      t.sendOrder cfg env purpose side tif price qty =
        ({ t with
            orderToInstrument := t.orderToInstrument.insert t.nextOrderId t.id
            nextOrderId := t.nextOrderId + 1
            actions := t.actions ++ [.sent purpose order] }, t.nextOrderId)) ∨
      ∃ n, t.nextOrderId ≤ n ∧ t.sendOrder cfg env purpose side tif price qty =
        ({ t with nextOrderId := n, actions := t.actions ++ [.unsent purpose] }, 0) := by
  unfold sendOrder
  split
  · exact .inr ⟨t.nextOrderId, le_rfl, rfl⟩
  · next order horder =>
    obtain ⟨hid, hinst, -⟩ := of_outboundOrder cfg env horder
    dsimp only
    split
    · next h => exact .inl ⟨hid ▸ h.2, order, hinst, by rw [hid]⟩
    · exact .inr ⟨t.nextOrderId + 1, Nat.le_succ _, rfl⟩

/-! ## What every part of a callback keeps -/

/-- The ids that the instrument and the strategy know are ids that were handed out. -/
structure Issued (t : Turn) : Prop where
  orders : ∀ orderId ∈ t.orderToInstrument, orderId ≠ 0 ∧ orderId < t.nextOrderId
  momentum : t.st.momentumOrderId ≠ 0 → t.st.momentumOrderId < t.nextOrderId
  reversion : t.st.reversionOrderId ≠ 0 → t.st.reversionOrderId < t.nextOrderId

/-- An id may be given up. -/
theorem Issued.modify {f : InstrumentState → InstrumentState}
    (hm : (f t.st).momentumOrderId = t.st.momentumOrderId ∨ (f t.st).momentumOrderId = 0)
    (hr : (f t.st).reversionOrderId = t.st.reversionOrderId ∨ (f t.st).reversionOrderId = 0)
    (h : t.Issued) : (t.modify f).Issued where
  orders := h.orders
  momentum hne := by
    have heq := hm.resolve_right hne
    exact heq ▸ h.momentum (heq ▸ hne)
  reversion hne := by
    have heq := hr.resolve_right hne
    exact heq ▸ h.reversion (heq ▸ hne)

/-- The instrument, its exchange and the positions stay; ids only grow, and what is sent is for one
of the purposes. -/
structure Follows (purposes : List Purpose) (t t' : Turn) : Prop where
  id : t'.id = t.id
  exchangeId : t'.st.exchangeId = t.st.exchangeId
  positions : t'.positions = t.positions
  nextOrderId : t.nextOrderId ≤ t'.nextOrderId
  orders : ∀ orderId ∈ t'.orderToInstrument,
    orderId ∈ t.orderToInstrument ∨ t.nextOrderId ≤ orderId
  issued : t.Issued → t'.Issued
  actions : t.actions <+: t'.actions
  purposes : ∀ a ∈ t'.actions, a ∈ t.actions ∨ a.For t.id purposes

namespace Follows

variable {purposes more : List Purpose}

theorem refl (t : Turn) : Follows purposes t t where
  id := rfl
  exchangeId := rfl
  positions := rfl
  nextOrderId := le_rfl
  orders _ h := .inl h
  issued h := h
  actions := List.prefix_rfl
  purposes _ h := .inl h

theorem trans (h : Follows purposes t t') (h' : Follows purposes t' t'') :
    Follows purposes t t'' where
  id := h'.id.trans h.id
  exchangeId := h'.exchangeId.trans h.exchangeId
  positions := h'.positions.trans h.positions
  nextOrderId := h.nextOrderId.trans h'.nextOrderId
  orders orderId hmem := by
    rcases h'.orders orderId hmem with hmem | hle
    · exact h.orders orderId hmem
    · exact .inr (h.nextOrderId.trans hle)
  issued := h'.issued ∘ h.issued
  actions := h.actions.trans h'.actions
  purposes a hmem := by
    rcases h'.purposes a hmem with hmem | hp
    · exact h.purposes a hmem
    · exact .inr (h.id ▸ hp)

theorem mono (h : Follows purposes t t') (hsub : purposes ⊆ more) : Follows more t t' where
  __ := h
  purposes a hmem := (h.purposes a hmem).imp_right fun hp => hp.mono hsub

theorem netQty (h : Follows purposes t t') : t'.netQty = t.netQty := by
  rw [Turn.netQty, Turn.netQty, h.positions, h.id, h.exchangeId]

theorem modify (t : Turn) {f : InstrumentState → InstrumentState}
    (hf : (f t.st).exchangeId = t.st.exchangeId) (hi : t.Issued → (t.modify f).Issued) :
    Follows purposes t (t.modify f) where
  id := rfl
  exchangeId := hf
  positions := rfl
  nextOrderId := le_rfl
  orders _ h := .inl h
  issued := hi
  actions := List.prefix_rfl
  purposes _ h := .inl h

end Follows

/-- A part of a callback that neither changes the regime nor opens or gives up a position. -/
structure Quiet (purposes : List Purpose) (t t' : Turn) : Prop extends
    Follows purposes t t' where
  control : t'.st.control = t.st.control

namespace Quiet

variable {purposes more : List Purpose}

theorem refl (t : Turn) : Quiet purposes t t where
  __ := Follows.refl t
  control := rfl

theorem trans (h : Quiet purposes t t') (h' : Quiet purposes t' t'') : Quiet purposes t t'' where
  __ := h.toFollows.trans h'.toFollows
  control := h'.control.trans h.control

theorem mono (h : Quiet purposes t t') (hsub : purposes ⊆ more) : Quiet more t t' where
  __ := h.toFollows.mono hsub
  control := h.control

theorem modify (t : Turn) {f : InstrumentState → InstrumentState}
    (hf : (f t.st).control = t.st.control) : Quiet purposes t (t.modify f) where
  __ := Follows.modify t (congrArg Control.exchangeId hf)
    (Issued.modify (.inl (congrArg Control.momentumOrderId hf))
      (.inl (congrArg Control.reversionOrderId hf)))
  control := hf

end Quiet

section Orders

variable (t : Turn) (purpose : Purpose) (side : OrderSide) (tif : TimeInForce) (price qty : ℚ)

theorem sendOrder_quiet :
    Quiet [purpose] t (t.sendOrder cfg env purpose side tif price qty).1 := by
  have hsent (a b : Action) (ha : a.For t.id [purpose]) (hmem : b ∈ t.actions ++ [a]) :
      b ∈ t.actions ∨ b.For t.id [purpose] := by
    rcases List.mem_append.mp hmem with hmem | hmem
    · exact .inl hmem
    · exact .inr (List.mem_singleton.mp hmem ▸ ha)
  rcases t.sendOrder_cases cfg env purpose side tif price qty with
    ⟨hne, order, hinst, h⟩ | ⟨n, hn, h⟩ <;> rw [h]
  · refine ⟨⟨rfl, rfl, rfl, Nat.le_succ _, fun orderId hmem => ?_, fun hi => ⟨fun orderId hmem => ?_,
      fun h0 => Nat.lt_succ_of_lt (hi.momentum h0), fun h0 => Nat.lt_succ_of_lt (hi.reversion h0)⟩,
      List.prefix_append _ _, fun a => hsent _ a ⟨List.mem_singleton_self _, hinst⟩⟩, rfl⟩
    · rcases (AList.mem_insert _).mp hmem with rfl | hmem
      · exact .inr le_rfl
      · exact .inl hmem
    · rcases (AList.mem_insert _).mp hmem with rfl | hmem
      · exact ⟨hne, Nat.lt_succ_self _⟩
      · exact ⟨(hi.orders orderId hmem).1, Nat.lt_succ_of_lt (hi.orders orderId hmem).2⟩
  · exact ⟨⟨rfl, rfl, rfl, hn, fun orderId hmem => .inl hmem, fun hi => ⟨fun orderId hmem =>
      ⟨(hi.orders orderId hmem).1, (hi.orders orderId hmem).2.trans_le hn⟩,
      fun h0 => (hi.momentum h0).trans_le hn, fun h0 => (hi.reversion h0).trans_le hn⟩,
      List.prefix_append _ _, fun a => hsent _ a (List.mem_singleton_self _)⟩, rfl⟩

theorem sendOrder_lt (h : (t.sendOrder cfg env purpose side tif price qty).2 ≠ 0) :
    (t.sendOrder cfg env purpose side tif price qty).2
      < (t.sendOrder cfg env purpose side tif price qty).1.nextOrderId := by
  rcases t.sendOrder_cases cfg env purpose side tif price qty with ⟨-, order, -, heq⟩ | ⟨n, -, heq⟩
  · rw [heq]
    exact Nat.lt_succ_self _
  · rw [heq] at h
    exact absurd rfl h

/-- A call that does not return an id says so among the actions. -/
theorem unsent_of_sendOrder (h : (t.sendOrder cfg env purpose side tif price qty).2 = 0) :
    .unsent purpose ∈ (t.sendOrder cfg env purpose side tif price qty).1.actions := by
  rcases t.sendOrder_cases cfg env purpose side tif price qty with
    ⟨hne, order, -, heq⟩ | ⟨n, -, heq⟩
  · rw [heq] at h
    exact absurd h hne
  · rw [heq]
    exact List.mem_append_right _ (List.mem_singleton_self _)

variable {purposes : List Purpose}

theorem cancelOrder_st (orderId : Nat) : (t.cancelOrder cfg orderId).st = t.st := by
  unfold cancelOrder
  split <;> rfl

theorem cancelOrder_quiet (orderId : Nat) : Quiet purposes t (t.cancelOrder cfg orderId) := by
  unfold cancelOrder
  split
  · exact .refl t
  · refine ⟨⟨rfl, rfl, rfl, le_rfl, fun _ hmem => .inl hmem, fun hi => ⟨hi.1, hi.2, hi.3⟩,
      List.prefix_append _ _, fun a hmem => ?_⟩, rfl⟩
    rcases List.mem_append.mp hmem with hmem | hmem
    · exact .inl hmem
    · rw [List.mem_singleton.mp hmem]
      exact .inr rfl

end Orders

/-! ## Market making -/

section MarketMaking

variable (t : Turn) {purposes : List Purpose}

theorem mmCancelQuotes_quiet : Quiet purposes t (t.mmCancelQuotes cfg) := by
  have hside (u : Turn) (orderId : Nat) (f : InstrumentState → InstrumentState)
      (hf : ∀ st, (f st).control = st.control) : Quiet purposes u
        (if orderId ≠ 0 then (u.cancelOrder cfg orderId).modify f else u) := by
    split
    · exact (cancelOrder_quiet cfg u orderId).trans (.modify _ (hf _))
    · exact .refl u
  exact (hside t t.st.mmBidId ({ · with mmBidId := 0 }) fun _ => rfl).trans
    (hside _ _ ({ · with mmAskId := 0 }) fun _ => rfl)

theorem mmSendQuotes_quiet (newBid newAsk qty : ℚ) :
    Quiet [.quote] t (t.mmSendQuotes cfg env newBid newAsk qty) := by
  unfold mmSendQuotes
  have hside (u : Turn) (side : OrderSide) (price : ℚ) (f : Nat → InstrumentState → InstrumentState)
      (hf : ∀ n st, (f n st).control = st.control) (room : Prop) [Decidable room] :
      Quiet [.quote] u
        (if room then
          (u.sendOrder cfg env .quote side .GTC price qty).1.modify
            (f (u.sendOrder cfg env .quote side .GTC price qty).2)
        else u) := by
    split
    · exact (sendOrder_quiet cfg env u ..).trans (.modify _ (hf _ _))
    · exact .refl u
  refine (hside t .BUY newBid (fun n st => { st with mmBidId := n, mmBidPrice := newBid })
    (fun _ _ => rfl) (ofE8 t.netQty * t.st.mid < cfg.mmMaxInventoryUsd)).trans ?_
  refine (hside _ .SELL newAsk (fun n st => { st with mmAskId := n, mmAskPrice := newAsk })
    (fun _ _ => rfl) (ofE8 t.netQty * t.st.mid > -cfg.mmMaxInventoryUsd)).trans ?_
  exact .modify _ rfl

theorem mmQuote_quiet : Quiet [.quote] t (t.mmQuote cfg num env) := by
  unfold mmQuote
  split
  · exact .refl t
  split
  · exact .refl t
  split
  · exact .refl t
  dsimp only
  split
  · exact .refl t
  split
  · exact .refl t
  split
  · exact mmCancelQuotes_quiet cfg t
  · exact (mmCancelQuotes_quiet cfg t).trans (mmSendQuotes_quiet cfg env _ _ _ _)

end MarketMaking

/-! ## Transitions -/

/-- A position outside a transition carries the id of an order that has ended, and a transition goes
to another regime. -/
structure Sound (t : Turn) : Prop where
  issued : t.Issued
  target : t.st.transitioning = true → t.st.targetRegime ≠ t.st.regime
  momentum : t.st.transitioning = false → t.st.hasMomentumPosition = true →
    t.st.momentumOrderId ≠ 0 ∧ t.st.momentumOrderId ∉ t.orderToInstrument
  reversion : t.st.transitioning = false → t.st.hasReversionPosition = true →
    t.st.reversionOrderId ≠ 0 ∧ t.st.reversionOrderId ∉ t.orderToInstrument

end Turn

namespace Control

variable (c c' : Control)

/-- The instrument is in transition, and its positions are what they were. -/
structure Waits : Prop where
  transitioning : c'.transitioning = true
  target : c'.targetRegime ≠ c'.regime
  regime : c'.regime = c.regime
  momentum : c'.hasMomentumPosition = c.hasMomentumPosition
  reversion : c'.hasReversionPosition = c.hasReversionPosition

/-- The instrument has come to another regime, where it has no position yet. -/
structure Entered : Prop where
  transitioning : c'.transitioning = false
  regime : c'.regime ≠ c.regime
  momentum : c'.hasMomentumPosition = false
  reversion : c'.hasReversionPosition = false

/-- The instrument stays in its regime and gives no position up. -/
structure Trades : Prop where
  before : c.transitioning = false
  transitioning : c'.transitioning = false
  regime : c'.regime = c.regime
  momentum : c.hasMomentumPosition = true → c'.hasMomentumPosition = true
  reversion : c.hasReversionPosition = true → c'.hasReversionPosition = true

end Control

namespace Turn

variable (cfg : Config) (num : ExpNumerics) (env : Surroundings) {t t' t'' : Turn}

/-- Where a callback leaves an instrument, and what it has sent on the way. -/
inductive Outcome (t t' : Turn) : Prop
  | waits (follows : Follows [.close] t t') (control : t.st.control.Waits t'.st.control)
  | entered (follows : Follows [.entry, .quote, .close] t t')
      (control : t.st.control.Entered t'.st.control)
      (flat : t.netQty = 0 ∨ .unsent .close ∈ t'.actions)
  | trades (follows : Follows [.entry, .quote] t t') (control : t.st.control.Trades t'.st.control)
      (sound : t'.Sound)

namespace Outcome

theorem sound (h : Outcome t t') (ht : t.Sound) : t'.Sound := by
  cases h with
  | waits follows control =>
    have hin : t'.st.transitioning = true := control.transitioning
    refine ⟨follows.issued ht.issued, fun _ => control.target, fun hout => ?_, fun hout => ?_⟩ <;>
      · rw [hin] at hout
        cases hout
  | entered follows control =>
    have hout : t'.st.transitioning = false := control.transitioning
    have hm : t'.st.hasMomentumPosition = false := control.momentum
    have hr : t'.st.hasReversionPosition = false := control.reversion
    refine ⟨follows.issued ht.issued, fun hin => ?_, fun _ hpos => ?_, fun _ hpos => ?_⟩
    · rw [hout] at hin
      cases hin
    · rw [hm] at hpos
      cases hpos
    · rw [hr] at hpos
      cases hpos
  | trades _ _ sound => exact sound

theorem refl (ht : t.Sound) : Outcome t t := by
  cases htr : t.st.transitioning with
  | true => exact .waits (.refl t) ⟨htr, ht.target htr, rfl, rfl, rfl⟩
  | false =>
    exact .trades (.refl t) ⟨htr, htr, rfl, fun h => h, fun h => h⟩ ht

/-- A step into a transition, or within it, comes before what becomes of it. -/
theorem after (h : Follows [.close] t t') (hin : t'.st.transitioning = true)
    (hregime : t'.st.regime = t.st.regime)
    (hm : t'.st.hasMomentumPosition = t.st.hasMomentumPosition)
    (hr : t'.st.hasReversionPosition = t.st.hasReversionPosition) (h' : Outcome t' t'') :
    Outcome t t'' := by
  cases h' with
  | waits follows control =>
    exact .waits (h.trans follows) ⟨control.transitioning, control.target,
      control.regime.trans hregime, control.momentum.trans hm, control.reversion.trans hr⟩
  | entered follows control flat =>
    refine .entered ((h.mono (by simp)).trans follows) ⟨control.transitioning, fun heq => ?_,
      control.momentum, control.reversion⟩ (h.netQty ▸ flat)
    exact control.regime (heq.trans hregime.symm)
  | trades _ control _ =>
    have hbefore : t'.st.transitioning = false := control.before
    rw [hin] at hbefore
    cases hbefore

/-- What a quiet part leads to. -/
theorem after_quiet (h : Quiet [] t t') (h' : Outcome t' t'') : Outcome t t'' := by
  have hc : t'.st.control = t.st.control := h.control
  cases h' with
  | waits follows control =>
    exact .waits ((h.toFollows.mono (by simp)).trans follows) (hc ▸ control)
  | entered follows control flat =>
    exact .entered ((h.toFollows.mono (by simp)).trans follows) (hc ▸ control)
      (h.toFollows.netQty ▸ flat)
  | trades follows control sound =>
    exact .trades ((h.toFollows.mono (by simp)).trans follows) (hc ▸ control) sound

/-- Trading in the regime that the instrument is in, or has just come to. -/
theorem then_trades (h : Outcome t t') (hout : t'.st.transitioning = false)
    (follows : Follows [.entry, .quote] t' t'') (control : t'.st.control.Trades t''.st.control)
    (hm : t''.st.hasMomentumPosition = t'.st.hasMomentumPosition)
    (hr : t''.st.hasReversionPosition = t'.st.hasReversionPosition) (sound : t''.Sound) :
    Outcome t t'' := by
  cases h with
  | waits _ waits =>
    have hin : t'.st.transitioning = true := waits.transitioning
    rw [hout] at hin
    cases hin
  | entered follows' entered flat =>
    refine .entered (follows'.trans (follows.mono (by simp))) ⟨control.transitioning, ?_,
      hm.trans entered.momentum, hr.trans entered.reversion⟩
      (flat.imp_right fun hmem => follows.actions.subset hmem)
    exact fun heq => entered.regime (control.regime.symm.trans heq)
  | trades follows' trades _ =>
    exact .trades (follows'.trans follows) ⟨trades.before, control.transitioning,
      control.regime.trans trades.regime, control.momentum ∘ trades.momentum,
      control.reversion ∘ trades.reversion⟩ sound

end Outcome

/-- A quiet part keeps a turn sound. -/
theorem Quiet.sound {purposes : List Purpose} (h : Quiet purposes t t') (ht : t.Sound) :
    t'.Sound := by
  obtain ⟨follows, hc⟩ := h
  have htr : t'.st.transitioning = t.st.transitioning := congrArg Control.transitioning hc
  have hregime : t'.st.regime = t.st.regime := congrArg Control.regime hc
  have htarget : t'.st.targetRegime = t.st.targetRegime := congrArg Control.targetRegime hc
  have hm : t'.st.hasMomentumPosition = t.st.hasMomentumPosition :=
    congrArg Control.hasMomentumPosition hc
  have hmid : t'.st.momentumOrderId = t.st.momentumOrderId := congrArg Control.momentumOrderId hc
  have hr : t'.st.hasReversionPosition = t.st.hasReversionPosition :=
    congrArg Control.hasReversionPosition hc
  have hrid : t'.st.reversionOrderId = t.st.reversionOrderId := congrArg Control.reversionOrderId hc
  refine ⟨follows.issued ht.issued, ?_, ?_, ?_⟩
  · rw [htr, hregime, htarget]
    exact ht.target
  · rw [htr, hm, hmid]
    intro hout hpos
    obtain ⟨hne, hnot⟩ := ht.momentum hout hpos
    refine ⟨hne, fun hmem => ?_⟩
    rcases follows.orders _ hmem with hmem | hle
    · exact hnot hmem
    · exact absurd (ht.issued.momentum hne) (not_lt.mpr hle)
  · rw [htr, hr, hrid]
    intro hout hpos
    obtain ⟨hne, hnot⟩ := ht.reversion hout hpos
    refine ⟨hne, fun hmem => ?_⟩
    rcases follows.orders _ hmem with hmem | hle
    · exact hnot hmem
    · exact absurd (ht.issued.reversion hne) (not_lt.mpr hle)

section Transition

variable (t : Turn)

theorem sendFlat_quiet (purpose : Purpose) :
    Quiet [purpose] t (t.sendFlat cfg env purpose).1 :=
  sendOrder_quiet cfg env t ..

theorem enterRegime_follows : Follows [.quote] t (t.enterRegime cfg num env) ∧
    (t.enterRegime cfg num env).st.control =
      { t.st.control with
        regime := t.st.targetRegime
        transitioning := false
        hasMomentumPosition := false
        hasReversionPosition := false } := by
  unfold enterRegime
  dsimp only
  split
  · exact ⟨(Follows.modify t rfl (Issued.modify (.inl rfl) (.inl rfl))).trans
      (mmQuote_quiet cfg num env _).toFollows, (mmQuote_quiet cfg num env _).control⟩
  · exact ⟨.modify t rfl (Issued.modify (.inl rfl) (.inl rfl)), rfl⟩

/-- The new regime, reached from a turn in transition that is flat or could not send its close. -/
theorem enterRegime_outcome (h : Follows [.close] t t')
    (hregime : t'.st.control = t.st.control) (htarget : t.st.targetRegime ≠ t.st.regime)
    (hflat : t.netQty = 0 ∨ .unsent .close ∈ t'.actions) :
    Outcome t (t'.enterRegime cfg num env) := by
  obtain ⟨follows, hc⟩ := enterRegime_follows cfg num env t'
  have hto : t'.st.targetRegime = t.st.targetRegime := congrArg Control.targetRegime hregime
  refine .entered ((h.mono (by simp)).trans (follows.mono (by simp))) ?_
    (hflat.imp_right fun hmem => follows.actions.subset hmem)
  rw [hc]
  exact ⟨rfl, fun heq => htarget (hto.symm.trans heq), rfl, rfl⟩

theorem checkTransitionComplete_outcome (hin : t.st.transitioning = true)
    (htarget : t.st.targetRegime ≠ t.st.regime) :
    Outcome t (t.checkTransitionComplete cfg num env) := by
  have hwaits : t.st.control.Waits t.st.control := ⟨hin, htarget, rfl, rfl, rfl⟩
  unfold checkTransitionComplete
  split
  · exact .waits (.refl t) hwaits
  split
  · exact .waits (.refl t) hwaits
  split
  · dsimp only
    have hsend := sendFlat_quiet cfg env t .close
    have hnoted := hsend.trans (.modify (f := fun st =>
      { st with closeOrderId := (t.sendFlat cfg env .close).2 }) _ rfl)
    split
    · have hclosing := hnoted.trans (.modify (f := fun st => { st with closingPosition := true }) _ rfl)
      exact .waits hclosing.toFollows (hclosing.control ▸ hwaits)
    · next hid =>
      refine enterRegime_outcome cfg num env t hnoted.toFollows hnoted.control htarget (.inr ?_)
      exact unsent_of_sendOrder cfg env t .close _ _ _ _ (not_not.mp hid)
  · next hnet =>
    exact enterRegime_outcome cfg num env t (.refl t) rfl htarget (.inl (not_not.mp hnet))

theorem cancelTracked_momentum :
    let u := t.cancelTracked cfg (·.momentumOrderId) ({ · with momentumOrderId := 0 })
    Follows [] t u ∧ u.st.control = { t.st.control with momentumOrderId := 0 } := by
  unfold cancelTracked
  dsimp only
  split
  · have hq : Quiet [] t (t.cancelOrder cfg t.st.momentumOrderId) := cancelOrder_quiet cfg t _
    exact ⟨hq.toFollows.trans (.modify _ rfl (Issued.modify (.inr rfl) (.inl rfl))),
      congrArg (fun c : Control => { c with momentumOrderId := 0 }) hq.control⟩
  · next h0 =>
    refine ⟨.refl t, ?_⟩
    rw [← not_not.mp h0]
    rfl

theorem cancelTracked_reversion :
    let u := t.cancelTracked cfg (·.reversionOrderId) ({ · with reversionOrderId := 0 })
    Follows [] t u ∧ u.st.control = { t.st.control with reversionOrderId := 0 } := by
  unfold cancelTracked
  dsimp only
  split
  · have hq : Quiet [] t (t.cancelOrder cfg t.st.reversionOrderId) := cancelOrder_quiet cfg t _
    exact ⟨hq.toFollows.trans (.modify _ rfl (Issued.modify (.inl rfl) (.inr rfl))),
      congrArg (fun c : Control => { c with reversionOrderId := 0 }) hq.control⟩
  · next h0 =>
    refine ⟨.refl t, ?_⟩
    rw [← not_not.mp h0]
    rfl

theorem cancelTracked_quiet {get : InstrumentState → Nat}
    {clear : InstrumentState → InstrumentState} (hclear : ∀ st, (clear st).control = st.control) :
    Quiet [] t (t.cancelTracked cfg get clear) := by
  unfold cancelTracked
  dsimp only
  split
  · exact (cancelOrder_quiet cfg t _).trans (.modify _ (hclear _))
  · exact .refl t

/-- Withdrawing leaves the instrument without an id of a signal's order. -/
theorem withdraw_follows : Follows [] t (t.withdraw cfg) ∧
    (t.withdraw cfg).st.control =
      { t.st.control with momentumOrderId := 0, reversionOrderId := 0 } := by
  unfold withdraw
  obtain ⟨hm, hmc⟩ := cancelTracked_momentum cfg t
  generalize t.cancelTracked cfg _ _ = u at hm hmc ⊢
  obtain ⟨hr, hrc⟩ := cancelTracked_reversion cfg u
  generalize u.cancelTracked cfg _ _ = v at hr hrc ⊢
  have hbid : Quiet [] v (v.cancelTracked cfg (·.mmBidId) ({ · with mmBidId := 0 })) :=
    cancelTracked_quiet cfg v fun _ => rfl
  generalize v.cancelTracked cfg _ _ = w at hbid ⊢
  have hask : Quiet [] w (w.cancelTracked cfg (·.mmAskId) ({ · with mmAskId := 0 })) :=
    cancelTracked_quiet cfg w fun _ => rfl
  refine ⟨hm.trans (hr.trans (hbid.trans hask).toFollows), ?_⟩
  rw [hask.control, hbid.control, hrc, hmc]

theorem beginTransition_outcome {target : State} (htarget : target ≠ t.st.regime) :
    Outcome t (t.beginTransition cfg num env target) := by
  unfold beginTransition
  dsimp only
  generalize hbegun : t.modify (·.inTransition target) = begun
  have hfrom : Follows [.close] t begun ∧
      begun.st.control = { t.st.control with targetRegime := target, transitioning := true } := by
    subst hbegun
    exact ⟨.modify t rfl (Issued.modify (.inl rfl) (.inl rfl)), rfl⟩
  obtain ⟨follows, hc⟩ := withdraw_follows cfg begun
  rw [hfrom.2] at hc
  have hin : (begun.withdraw cfg).st.transitioning = true := congrArg Control.transitioning hc
  have hregime : (begun.withdraw cfg).st.regime = t.st.regime := congrArg Control.regime hc
  have hto : (begun.withdraw cfg).st.targetRegime ≠ (begun.withdraw cfg).st.regime := by
    rw [hregime]
    exact (congrArg Control.targetRegime hc).trans_ne htarget
  refine .after (hfrom.1.trans (follows.mono (by simp))) hin hregime
    (congrArg Control.hasMomentumPosition hc) (congrArg Control.hasReversionPosition hc) ?_
  split
  · exact checkTransitionComplete_outcome cfg num env _ hin hto
  · exact .waits (.refl _) ⟨hin, hto, rfl, rfl, rfl⟩

theorem evaluateRegime_outcome (ht : t.Sound) : Outcome t (t.evaluateRegime cfg num env) := by
  unfold evaluateRegime
  split
  · exact .refl ht
  have hobserved : Quiet [] t (t.modify (·.observed num)) := .modify t rfl
  refine .after_quiet hobserved ?_
  have hsound := hobserved.sound ht
  generalize t.modify (·.observed num) = u at hsound ⊢
  dsimp only
  split
  · have hdwell : Quiet [] u (u.modify fun st => { st with regimeDwell := st.regimeDwell + 1 }) :=
      .modify u rfl
    exact .after_quiet hdwell (.refl (hdwell.sound hsound))
  · next hregime =>
    split
    · exact .refl hsound
    · exact beginTransition_outcome cfg num env u hregime

end Transition

/-! ## Signals -/

section Signals

variable (t : Turn)

/-- Trading in a regime: what an instrument without a position may do, and what one with a position
leaves alone. -/
structure Signals (t t' : Turn) : Prop where
  follows : Follows [.entry, .quote] t t'
  transitioning : t'.st.transitioning = false
  regime : t'.st.regime = t.st.regime
  momentum : t'.st.hasMomentumPosition = t.st.hasMomentumPosition
  reversion : t'.st.hasReversionPosition = t.st.hasReversionPosition
  sound : t'.Sound

theorem Quiet.signals (h : Quiet [.entry, .quote] t t') (ht : t.Sound)
    (hout : t.st.transitioning = false) : Signals t t' where
  follows := h.toFollows
  transitioning := (congrArg Control.transitioning h.control).trans hout
  regime := congrArg Control.regime h.control
  momentum := congrArg Control.hasMomentumPosition h.control
  reversion := congrArg Control.hasReversionPosition h.control
  sound := h.sound ht

theorem Signals.then (h : Outcome t t') (h' : Signals t' t'')
    (hout : t'.st.transitioning = false) : Outcome t t'' :=
  h.then_trades hout h'.follows
    ⟨hout, h'.transitioning, h'.regime, fun hpos => h'.momentum.trans hpos,
      fun hpos => h'.reversion.trans hpos⟩ h'.momentum h'.reversion h'.sound

theorem Signals.noteMomentum (h : Signals t t') (hpos : t'.st.hasMomentumPosition = false) {n : Nat}
    (hn : n ≠ 0 → n < t'.nextOrderId) :
    Signals t (t'.modify ({ · with momentumOrderId := n })) := by
  have hs := h.sound
  have hissued : (t'.modify ({ · with momentumOrderId := n })).Issued :=
    ⟨hs.issued.orders, hn, hs.issued.reversion⟩
  refine ⟨h.follows.trans (.modify _ rfl fun _ => hissued), h.transitioning, h.regime, h.momentum,
    h.reversion, hissued, hs.target, fun _ hhas => ?_, hs.reversion⟩
  exact absurd (hpos.symm.trans hhas) Bool.false_ne_true

theorem Signals.noteReversion (h : Signals t t') (hpos : t'.st.hasReversionPosition = false)
    {n : Nat} (hn : n ≠ 0 → n < t'.nextOrderId) :
    Signals t (t'.modify ({ · with reversionOrderId := n })) := by
  have hs := h.sound
  have hissued : (t'.modify ({ · with reversionOrderId := n })).Issued :=
    ⟨hs.issued.orders, hs.issued.momentum, hn⟩
  refine ⟨h.follows.trans (.modify _ rfl fun _ => hissued), h.transitioning, h.regime, h.momentum,
    h.reversion, hissued, hs.target, hs.momentum, fun _ hhas => ?_⟩
  exact absurd (hpos.symm.trans hhas) Bool.false_ne_true

theorem momentumCheckSignal_signals (ht : t.Sound) (hout : t.st.transitioning = false)
    (hpos : t.st.hasMomentumPosition = false) : Signals t (t.momentumCheckSignal cfg env) := by
  have hstay : Signals t t := (Quiet.refl t).signals t ht hout
  unfold momentumCheckSignal
  split
  · exact hstay
  · next side _ =>
    dsimp only
    split
    · exact hstay
    · have hside : Quiet [.entry, .quote] t (t.modify ({ · with momentumSide := side })) :=
        .modify t rfl
      generalize t.modify ({ · with momentumSide := side }) = u at hside ⊢
      have hsend := hside.trans ((sendOrder_quiet cfg env u .entry side .IOC
        (u.st.aggressPrice cfg side) (t.st.roundQty cfg.momentumQtyUsd t.st.mid)).mono (by simp))
      have hcalm := hsend.signals t ht hout
      exact hcalm.noteMomentum t (hcalm.momentum.trans hpos) (sendOrder_lt cfg env u _ _ _ _ _)

theorem reversionCheckSignal_signals (ht : t.Sound) (hout : t.st.transitioning = false)
    (hpos : t.st.hasReversionPosition = false) : Signals t (t.reversionCheckSignal cfg env) := by
  have hstay : Signals t t := (Quiet.refl t).signals t ht hout
  unfold reversionCheckSignal
  split
  · exact hstay
  · next side _ =>
    dsimp only
    split
    · exact hstay
    · generalize hu : t.modify _ = u
      have hside : Quiet [.entry, .quote] t u := by
        subst hu
        exact .modify t rfl
      have hsend := hside.trans ((sendOrder_quiet cfg env u .entry side .IOC
        (u.st.aggressPrice cfg side) (t.st.roundQty cfg.reversionQtyUsd t.st.mid)).mono (by simp))
      have hcalm := hsend.signals t ht hout
      exact hcalm.noteReversion t (hcalm.reversion.trans hpos) (sendOrder_lt cfg env u _ _ _ _ _)

/-- An exit finds the id of the order that opened the position. -/
theorem momentumCheckExit_eq (ht : t.Sound) (hout : t.st.transitioning = false)
    (hpos : t.st.hasMomentumPosition = true) (mid : ℚ) : t.momentumCheckExit cfg env mid = t := by
  simp [momentumCheckExit, hpos, (ht.momentum hout hpos).1]

theorem reversionCheckExit_eq (ht : t.Sound) (hout : t.st.transitioning = false)
    (hpos : t.st.hasReversionPosition = true) (mid : ℚ) :
    t.reversionCheckExit cfg env mid = t := by
  simp [reversionCheckExit, hpos, (ht.reversion hout hpos).1]

theorem dispatch_signals (ht : t.Sound) (hout : t.st.transitioning = false) :
    Signals t (t.dispatch cfg num env) := by
  have hstay : Signals t t := (Quiet.refl t).signals t ht hout
  have hmomentum : Signals t
      (if t.st.spreadBps ≤ cfg.maxSpreadBps ∧ ¬ t.st.hasMomentumPosition then
        t.momentumCheckSignal cfg env
      else if t.st.hasMomentumPosition then t.momentumCheckExit cfg env t.st.mid else t) := by
    split
    · next h => exact momentumCheckSignal_signals cfg env t ht hout (Bool.eq_false_iff.mpr h.2)
    · split
      · next h => rwa [momentumCheckExit_eq cfg env t ht hout h]
      · exact hstay
  have hreversion : Signals t
      (if t.st.spreadBps ≤ cfg.maxSpreadBps ∧ ¬ t.st.hasReversionPosition then
        t.reversionCheckSignal cfg env
      else if t.st.hasReversionPosition then t.reversionCheckExit cfg env t.st.mid else t) := by
    split
    · next h => exact reversionCheckSignal_signals cfg env t ht hout (Bool.eq_false_iff.mpr h.2)
    · split
      · next h => rwa [reversionCheckExit_eq cfg env t ht hout h]
      · exact hstay
  unfold dispatch
  simp only [decide_eq_true_eq]
  split
  · exact hmomentum
  · exact hmomentum
  · exact hreversion
  · split
    · exact ((mmQuote_quiet cfg num env t).mono (by simp)).signals t ht hout
    · exact (mmCancelQuotes_quiet cfg t).signals t ht hout

/-- A tick within a bar does nothing. -/
theorem intraBar_eq (ht : t.Sound) (hout : t.st.transitioning = false) :
    t.intraBar cfg env = t := by
  unfold intraBar
  split
  all_goals first | rfl | split
  · next h => exact momentumCheckExit_eq cfg env t ht hout h _
  · rfl
  · next h => exact momentumCheckExit_eq cfg env t ht hout h _
  · rfl
  · next h => exact reversionCheckExit_eq cfg env t ht hout h _
  · rfl

end Signals

end Turn

/-! ## Ticks -/

namespace InstrumentState

variable (cfg : Config) (num : ExpNumerics) (st : InstrumentState)

theorem closeFeatures_control : (st.closeFeatures cfg num).control = st.control := by
  have hatr (st : InstrumentState) : (st.closeAtr cfg).control = st.control := by
    unfold closeAtr
    dsimp only
    split <;> rfl
  have hreturn (st : InstrumentState) : (st.closeReturn cfg num).control = st.control := by
    unfold closeReturn
    dsimp only
    split <;> rfl
  have hema (st : InstrumentState) : (st.momentumUpdateEma cfg).control = st.control := by
    unfold momentumUpdateEma
    split <;> rfl
  unfold closeFeatures
  rw [hema, ← hatr st, ← hreturn (st.closeAtr cfg)]
  rfl

end InstrumentState

namespace Turn

variable (cfg : Config) (num : ExpNumerics) (env : Surroundings) {t t' t'' : Turn}

section Ticks

variable (t : Turn)

/-- What a quiet end of a callback leaves of its outcome. -/
theorem Outcome.then_quiet (h : Outcome t t') (h' : Quiet [] t' t'') (ht : t.Sound) :
    Outcome t t'' := by
  have hsound := h'.sound (h.sound ht)
  have hc : t''.st.control = t'.st.control := h'.control
  cases h with
  | waits follows control =>
    exact .waits (follows.trans (h'.toFollows.mono (by simp))) (hc ▸ control)
  | entered follows control flat =>
    exact .entered (follows.trans (h'.toFollows.mono (by simp))) (hc ▸ control)
      (flat.imp_right fun hmem => h'.toFollows.actions.subset hmem)
  | trades follows control _ =>
    exact .trades (follows.trans (h'.toFollows.mono (by simp))) (hc ▸ control) hsound

theorem onBarClose_outcome (ht : t.Sound) : Outcome t (t.onBarClose cfg num env) := by
  have hfeatures : Quiet [] t (t.modify (·.closeFeatures cfg num)) :=
    .modify t (t.st.closeFeatures_control cfg num)
  have hsound := hfeatures.sound ht
  unfold onBarClose
  dsimp only
  refine .after_quiet hfeatures ?_
  generalize t.modify (·.closeFeatures cfg num) = u at hsound ⊢
  split
  · have hwarming : Quiet [] u (u.modify ({ · with warmingUp := true })) := .modify u rfl
    exact .after_quiet hwarming (.refl (hwarming.sound hsound))
  · have houtcome := evaluateRegime_outcome cfg num env u hsound
    split
    · exact houtcome
    · next hout =>
      have hout := Bool.eq_false_iff.mpr hout
      exact (dispatch_signals cfg num env _ (houtcome.sound hsound) hout).then _ houtcome hout

theorem bar_outcome (ht : t.Sound) : Outcome t (t.bar cfg num env) := by
  unfold bar
  split
  · have hopen : Quiet [] t (t.modify (·.openBar)) := .modify t rfl
    exact .after_quiet hopen (.refl (hopen.sound ht))
  · have hextend : Quiet [] t (t.modify (·.extendBar)) := .modify t rfl
    have hsound := hextend.sound ht
    dsimp only
    refine .after_quiet hextend ?_
    generalize t.modify (·.extendBar) = u at hsound ⊢
    split
    · exact (onBarClose_outcome cfg num env u hsound).then_quiet u (.modify _ rfl) hsound
    · exact .refl hsound

/-- Erasing the orders that are waited for. -/
theorem mem_foldl_erase {orderId : Nat} (ids : List Nat) (orders : Table Nat Nat)
    (hmem : orderId ∈ ids.foldl (fun orders id => orders.erase id) orders) : orderId ∈ orders := by
  induction ids generalizing orders with
  | nil => exact hmem
  | cons id ids ih => exact (AList.mem_erase.mp (ih _ hmem)).2

theorem timeOut_outcome (ht : t.Sound) (hin : t.st.transitioning = true) :
    Outcome t (t.timeOut cfg num env) := by
  unfold timeOut
  dsimp only
  generalize horders : (if t.st.closeOrderId ≠ 0 then _ else _ : Table Nat Nat) = orders
  have hsub : ∀ orderId ∈ orders, orderId ∈ t.orderToInstrument := by
    intro orderId hmem
    rw [← horders] at hmem
    split at hmem
    · exact mem_foldl_erase _ _ (AList.mem_erase.mp hmem).2
    · exact mem_foldl_erase _ _ hmem
  generalize hu : Turn.modify _ _ = u
  have hfrom : Quiet [] t u := by
    subst hu
    exact ⟨⟨rfl, rfl, rfl, le_rfl, fun orderId hmem => .inl (hsub orderId hmem),
      fun hi => ⟨fun orderId hmem => hi.orders orderId (hsub orderId hmem), hi.momentum,
        hi.reversion⟩, List.prefix_rfl, fun _ hmem => .inl hmem⟩, rfl⟩
  have hsound := hfrom.sound ht
  have hin' : u.st.transitioning = true :=
    (congrArg Control.transitioning hfrom.control).trans hin
  exact .after_quiet hfrom
    (checkTransitionComplete_outcome cfg num env u hin' (hsound.target hin'))

theorem onBbo_outcome (ht : t.Sound) (tick : MdMarketData) :
    Outcome t (t.onBbo cfg num env tick) := by
  unfold onBbo
  split
  · exact .refl ht
  have hquoted : Quiet [] t (t.modify (·.quoted tick)) := .modify t rfl
  have hsound := hquoted.sound ht
  dsimp only
  refine .after_quiet hquoted ?_
  generalize t.modify (·.quoted tick) = u at hsound ⊢
  have hbar := bar_outcome cfg num env u hsound
  have hbarsound := hbar.sound hsound
  generalize u.bar cfg num env = v at hbar hbarsound ⊢
  split
  · split
    · next hlate =>
      -- what times out is a transition that the bar has not completed
      cases hbar with
      | waits follows control =>
        exact .after follows hlate.1 control.regime control.momentum control.reversion
          (timeOut_outcome cfg num env v hbarsound hlate.1)
      | entered _ control =>
        have hout : v.st.transitioning = false := control.transitioning
        rw [hout] at hlate
        cases hlate.1
      | trades _ control _ =>
        have hout : v.st.transitioning = false := control.transitioning
        rw [hout] at hlate
        cases hlate.1
    · exact hbar
  · next hcalm =>
    rw [not_or] at hcalm
    rw [intraBar_eq cfg env v hbarsound (Bool.eq_false_iff.mpr hcalm.2)]
    exact hbar

end Ticks

/-! ## Reports -/

section Reports

variable (t : Turn) (rpt : ExecReport)

theorem forget_quiet (orderId : Nat) : Quiet [] t (t.forget orderId) := by
  have hsub (other : Nat) (hmem : other ∈ t.orderToInstrument.erase orderId) :
      other ∈ t.orderToInstrument := (AList.mem_erase.mp hmem).2
  exact ⟨⟨rfl, rfl, rfl, le_rfl, fun other hmem => .inl (hsub other hmem),
    fun hi => ⟨fun other hmem => hi.orders other (hsub other hmem), hi.momentum, hi.reversion⟩,
    List.prefix_rfl, fun _ hmem => .inl hmem⟩, rfl⟩

theorem noLongerPending_quiet : Quiet [] t (t.noLongerPending rpt) := by
  unfold noLongerPending
  have hpending : Quiet [] t (t.modify fun st =>
      { st with pendingCancels := st.pendingCancels.filter (· ≠ rpt.orderId) }) := .modify t rfl
  dsimp only
  split
  · exact hpending.trans (.modify _ rfl)
  · exact hpending

theorem transitionReport_outcome (ht : t.Sound) (hin : t.st.transitioning = true) :
    Outcome t (t.transitionReport cfg num env rpt) := by
  have hfrom := noLongerPending_quiet t rpt
  have hsound := hfrom.sound ht
  have hin' : (t.noLongerPending rpt).st.transitioning = true :=
    (congrArg Control.transitioning hfrom.control).trans hin
  refine .after_quiet hfrom ?_
  unfold transitionReport
  dsimp only
  split
  · exact checkTransitionComplete_outcome cfg num env _ hin' (hsound.target hin')
  · exact .refl hsound

variable {rpt}

/-- The report that opens a position in a trend, or that ends an order without one. -/
theorem momentumReport_control (hown : rpt.orderId = t.st.momentumOrderId)
    (hpos : t.st.hasMomentumPosition = false) :
    (t.st.momentumReport cfg rpt).control =
      if rpt.status = .FILLED then { t.st.control with hasMomentumPosition := true }
      else { t.st.control with momentumOrderId := 0 } := by
  unfold InstrumentState.momentumReport
  rw [if_pos hown]
  split
  · rw [if_neg (by rw [hpos]; exact Bool.false_ne_true)]
    dsimp only
    split <;> rfl
  · rfl

theorem reversionReport_control (hown : rpt.orderId = t.st.reversionOrderId)
    (hpos : t.st.hasReversionPosition = false) :
    (t.st.reversionReport rpt).control =
      if rpt.status = .FILLED then { t.st.control with hasReversionPosition := true }
      else { t.st.control with reversionOrderId := 0 } := by
  unfold InstrumentState.reversionReport
  rw [if_pos hown]
  split
  · rw [if_neg (by rw [hpos]; exact Bool.false_ne_true)]
    rfl
  · rfl

/-- A report that is none of the instrument's signals. -/
theorem quietReport_outcome (ht : t.Sound) {f : InstrumentState → InstrumentState}
    (hf : (f t.st).control = t.st.control) : Outcome t ((t.modify f).forget rpt.orderId) := by
  have hquiet : Quiet [] t ((t.modify f).forget rpt.orderId) :=
    (Quiet.modify t hf).trans (forget_quiet _ rpt.orderId)
  exact .after_quiet hquiet (.refl (hquiet.sound ht))

/-- A report that opens a position, or ends an order without one: what has to be seen of the
positions after it. -/
theorem signalReport_outcome (ht : t.Sound) (hout : t.st.transitioning = false) {orderId : Nat}
    {f : InstrumentState → InstrumentState} {c : Control} (hc : (f t.st).control = c)
    (hx : c.exchangeId = t.st.exchangeId) (htr : c.transitioning = false)
    (hregime : c.regime = t.st.regime)
    (hmid : c.momentumOrderId = t.st.momentumOrderId ∨ c.momentumOrderId = 0)
    (hrid : c.reversionOrderId = t.st.reversionOrderId ∨ c.reversionOrderId = 0)
    (hm : t.st.hasMomentumPosition = true → c.hasMomentumPosition = true)
    (hr : t.st.hasReversionPosition = true → c.hasReversionPosition = true)
    (hmended : c.hasMomentumPosition = true →
      c.momentumOrderId ≠ 0 ∧ c.momentumOrderId ∉ t.orderToInstrument.erase orderId)
    (hrended : c.hasReversionPosition = true →
      c.reversionOrderId ≠ 0 ∧ c.reversionOrderId ∉ t.orderToInstrument.erase orderId) :
    Outcome t ((t.modify f).forget orderId) := by
  subst hc
  have hmodify : Follows [.entry, .quote] t (t.modify f) := .modify t hx (.modify hmid hrid)
  have hfollows := hmodify.trans ((forget_quiet (t.modify f) orderId).toFollows.mono (by simp))
  refine .trades hfollows ⟨hout, htr, hregime, hm, hr⟩
    ⟨hfollows.issued ht.issued, fun hin => ?_, fun _ => hmended, fun _ => hrended⟩
  exact absurd (hin.symm.trans htr) (by simp)

/-- A report in a trend. The order of a position has ended and is not reported on again. -/
theorem momentumReport_outcome (ht : t.Sound) (hout : t.st.transitioning = false)
    (hknown : rpt.orderId ∈ t.orderToInstrument) :
    Outcome t ((t.modify (·.momentumReport cfg rpt)).forget rpt.orderId) := by
  by_cases hown : rpt.orderId = t.st.momentumOrderId
  · have hpos : t.st.hasMomentumPosition = false := by
      cases hhas : t.st.hasMomentumPosition with
      | false => rfl
      | true => exact absurd (hown ▸ hknown) (ht.momentum hout hhas).2
    have hnone : ¬ t.st.hasMomentumPosition = true := by simp [hpos]
    have hreversion (hhas : t.st.hasReversionPosition = true) : t.st.reversionOrderId ≠ 0 ∧
        t.st.reversionOrderId ∉ t.orderToInstrument.erase rpt.orderId :=
      ⟨(ht.reversion hout hhas).1, fun hmem => (ht.reversion hout hhas).2 (AList.mem_erase.mp hmem).2⟩
    have hc := momentumReport_control cfg t hown hpos
    split at hc
    · refine signalReport_outcome t ht hout hc rfl hout rfl (.inl rfl) (.inl rfl) (fun _ => rfl)
        (fun h => h) (fun _ => ⟨?_, fun hmem => ?_⟩) hreversion
      · exact hown.symm.trans_ne (ht.issued.orders _ hknown).1
      · exact (AList.mem_erase.mp hmem).1 hown.symm
    · exact signalReport_outcome t ht hout hc rfl hout rfl (.inr rfl) (.inl rfl)
        (fun h => absurd h hnone) (fun h => h) (fun h => absurd h hnone) hreversion
  · exact quietReport_outcome t ht (by rw [InstrumentState.momentumReport, if_neg hown])

theorem reversionReport_outcome (ht : t.Sound) (hout : t.st.transitioning = false)
    (hknown : rpt.orderId ∈ t.orderToInstrument) :
    Outcome t ((t.modify (·.reversionReport rpt)).forget rpt.orderId) := by
  by_cases hown : rpt.orderId = t.st.reversionOrderId
  · have hpos : t.st.hasReversionPosition = false := by
      cases hhas : t.st.hasReversionPosition with
      | false => rfl
      | true => exact absurd (hown ▸ hknown) (ht.reversion hout hhas).2
    have hnone : ¬ t.st.hasReversionPosition = true := by simp [hpos]
    have hmomentum (hhas : t.st.hasMomentumPosition = true) : t.st.momentumOrderId ≠ 0 ∧
        t.st.momentumOrderId ∉ t.orderToInstrument.erase rpt.orderId :=
      ⟨(ht.momentum hout hhas).1, fun hmem => (ht.momentum hout hhas).2 (AList.mem_erase.mp hmem).2⟩
    have hc := reversionReport_control t hown hpos
    split at hc
    · refine signalReport_outcome t ht hout hc rfl hout rfl (.inl rfl) (.inl rfl) (fun h => h)
        (fun _ => rfl) hmomentum (fun _ => ⟨?_, fun hmem => ?_⟩)
      · exact hown.symm.trans_ne (ht.issued.orders _ hknown).1
      · exact (AList.mem_erase.mp hmem).1 hown.symm
    · exact signalReport_outcome t ht hout hc rfl hout rfl (.inl rfl) (.inr rfl)
        (fun h => h) (fun h => absurd h hnone) hmomentum (fun h => absurd h hnone)
  · exact quietReport_outcome t ht (by rw [InstrumentState.reversionReport, if_neg hown])

theorem terminalReport_outcome (ht : t.Sound) (hknown : rpt.orderId ∈ t.orderToInstrument)
    (source : RejectSource) : Outcome t (t.terminalReport cfg num env rpt source) := by
  have hbackoff : Quiet [] t (t.modify (·.backoff rpt.status source)) := by
    refine .modify t ?_
    unfold InstrumentState.backoff
    dsimp only
    repeat' split
    all_goals rfl
  have hsound := hbackoff.sound ht
  have hknown' : rpt.orderId ∈ (t.modify (·.backoff rpt.status source)).orderToInstrument := hknown
  refine .after_quiet hbackoff ?_
  unfold terminalReport
  dsimp only
  generalize t.modify (·.backoff rpt.status source) = u at hsound hknown' ⊢
  split
  · next hin =>
    exact (transitionReport_outcome cfg num env u rpt hsound hin).then_quiet u (forget_quiet _ _)
      hsound
  · next hout =>
    have hout := Bool.eq_false_iff.mpr hout
    split
    · exact momentumReport_outcome cfg u hsound hout hknown'
    · exact momentumReport_outcome cfg u hsound hout hknown'
    · exact reversionReport_outcome u hsound hout hknown'
    · refine quietReport_outcome u hsound ?_
      unfold InstrumentState.mmReport
      split
      · rfl
      · split <;> rfl

theorem filled_sound (ht : t.Sound) : (t.filled rpt).Sound := by
  unfold filled
  split
  · exact ⟨⟨ht.issued.1, ht.issued.2, ht.issued.3⟩, ht.target, ht.momentum, ht.reversion⟩
  · exact ht

theorem onExecReport_outcome (ht : t.Sound) (hknown : rpt.orderId ∈ t.orderToInstrument)
    (source : RejectSource) :
    Outcome (t.filled rpt) (t.onExecReport cfg num env rpt source) := by
  have hsound := (filled_sound t ht : (t.filled rpt).Sound)
  have hknown' : rpt.orderId ∈ (t.filled rpt).orderToInstrument := by
    unfold filled
    split <;> exact hknown
  unfold onExecReport
  dsimp only
  split
  · exact terminalReport_outcome cfg num env _ hsound hknown' source
  · exact .refl hsound

end Reports

end Turn

end BptCore.Strategy.Hmm

namespace BptCore.Strategy.HmmStrategy

open BptCore.Features Hmm

variable (cfg : Config) (num : ExpNumerics) {s : HmmStrategy}

/-! ## The strategy -/

/-- Every instrument would begin its turn soundly. -/
structure Sound (s : HmmStrategy) : Prop where
  issued : ∀ orderId ∈ s.orderToInstrument, orderId ≠ 0 ∧ orderId < s.nextOrderId
  turns : ∀ id st, s.state.lookup id = some st → (s.turn id st).Sound

theorem Sound.start (nextOrderId : Nat) : Sound { nextOrderId := nextOrderId } where
  issued orderId hmem := by cases hmem
  turns id st h := by cases h

/-- A new instrument has no position and knows no order. -/
theorem fresh_sound (h : s.Sound) (id : Nat) (r : Resolved) : (s.turn id r.fresh).Sound where
  issued := ⟨h.issued, absurd rfl, absurd rfl⟩
  target h := by cases h
  momentum _ h := by cases h
  reversion _ h := by cases h

theorem Sound.onInstrumentSnapshot (h : s.Sound) (resolved : List Resolved) :
    (s.onInstrumentSnapshot resolved).Sound := by
  have hfresh (resolved : List Resolved) (table : Table Nat InstrumentState)
      (htable : table.AllVals fun st => ∃ r : Resolved, st = r.fresh) :
      (resolved.foldl (fun table r => table.emplace r.instrumentId r.fresh) table).AllVals
        fun st => ∃ r : Resolved, st = r.fresh := by
    induction resolved generalizing table with
    | nil => exact htable
    | cons r resolved ih => exact ih _ (htable.emplace ⟨r, rfl⟩ r.instrumentId)
  unfold HmmStrategy.onInstrumentSnapshot
  split
  · refine ⟨h.issued, fun id st hlookup => ?_⟩
    obtain ⟨r, rfl⟩ := hfresh resolved ∅ (.empty _) id st hlookup
    exact fresh_sound h id r
  · exact h

/-- A turn that ends soundly, and has only spent ids that were new, keeps the strategy sound. -/
theorem Sound.commit (h : s.Sound) {t : Turn} (ht : t.Sound) (hnext : s.nextOrderId ≤ t.nextOrderId)
    (horders : ∀ orderId ∈ t.orderToInstrument,
      orderId ∈ s.orderToInstrument ∨ s.nextOrderId ≤ orderId) : (s.commit t).1.Sound where
  issued := ht.issued.orders
  turns id st hlookup := by
    rw [HmmStrategy.commit, Table.lookup_insert_eq] at hlookup
    split at hlookup
    · next hid =>
      cases hlookup
      exact ⟨⟨ht.issued.1, ht.issued.2, ht.issued.3⟩, ht.target, ht.momentum, ht.reversion⟩
    · -- the ids of another instrument are older than what was spent
      have hst := h.turns id st hlookup
      have hnot {orderId : Nat} (hlt : orderId < s.nextOrderId)
          (hmem : orderId ∉ s.orderToInstrument) : orderId ∉ t.orderToInstrument := fun hin =>
        (horders orderId hin).elim hmem (not_le.mpr hlt)
      refine ⟨⟨ht.issued.orders, fun hne => (hst.issued.momentum hne).trans_le hnext,
        fun hne => (hst.issued.reversion hne).trans_le hnext⟩, hst.target, fun hout hpos => ?_,
        fun hout hpos => ?_⟩
      · obtain ⟨hne, hmem⟩ := hst.momentum hout hpos
        exact ⟨hne, hnot (hst.issued.momentum hne) hmem⟩
      · obtain ⟨hne, hmem⟩ := hst.reversion hout hpos
        exact ⟨hne, hnot (hst.issued.reversion hne) hmem⟩

/-- A callback had the turn of an instrument, from `t`, where the fill of a report is counted in, to
`t'`. -/
structure Moved (s : HmmStrategy) (r : HmmStrategy × List Action) (id : Nat) (st : InstrumentState)
    (t t' : Turn) : Prop where
  found : s.state.lookup id = some st
  begins : t.id = id ∧ t.st = st ∧ t.actions = [] ∧ t.nextOrderId = s.nextOrderId ∧
    t.orderToInstrument = s.orderToInstrument
  sound : t.Sound
  outcome : Turn.Outcome t t'
  result : r = s.commit t'

theorem withTurn_of_none {id : Nat} (h : s.state.lookup id = none) (f : Turn → Turn) :
    s.withTurn id f = (s, []) := by
  rw [withTurn, h]

theorem withTurn_of_lookup {id : Nat} {st : InstrumentState} (h : s.state.lookup id = some st)
    (f : Turn → Turn) : s.withTurn id f = s.commit (f (s.turn id st)) := by
  rw [withTurn, h]

/-- A callback has the turn of one instrument, or does nothing to any. -/
theorem step_cases (hs : s.Sound) (e : Hmm.Callback × Hmm.Surroundings) :
    (∃ id st t t', Moved s (s.step cfg num e) id st t t') ∨
      (s.step cfg num e).2 = [] ∧ (s.step cfg num e).1.Sound ∧
        ∀ id st, s.state.lookup id = some st →
          (s.step cfg num e).1.state.lookup id = some st := by
  have hidle : (s, ([] : List Action)).2 = [] ∧ (s, ([] : List Action)).1.Sound ∧
      ∀ id st, s.state.lookup id = some st → (s, ([] : List Action)).1.state.lookup id = some st :=
    ⟨rfl, hs, fun _ _ h => h⟩
  -- a turn that is had from the state of the instrument itself
  have hturn (inst : Nat) (f : Turn → Turn) (hf : ∀ t : Turn, t.Sound → Turn.Outcome t (f t)) :
      (∃ id st t t', Moved s (s.withTurn inst f) id st t t') ∨
        (s.withTurn inst f).2 = [] ∧ (s.withTurn inst f).1.Sound ∧
          ∀ id st, s.state.lookup id = some st →
            (s.withTurn inst f).1.state.lookup id = some st := by
    cases hlookup : s.state.lookup inst with
    | none =>
      rw [withTurn_of_none hlookup]
      exact .inr hidle
    | some st =>
      have hsound := hs.turns inst st hlookup
      exact .inl ⟨inst, st, s.turn inst st, f (s.turn inst st), hlookup, ⟨rfl, rfl, rfl, rfl, rfl⟩,
        hsound, hf _ hsound, withTurn_of_lookup hlookup f⟩
  obtain ⟨cb, env⟩ := e
  cases cb with
  | instrumentSnapshot resolved =>
    refine .inr ⟨rfl, hs.onInstrumentSnapshot resolved, fun id st hlookup => ?_⟩
    have hne : s.state.keys ≠ [] := by
      intro hnil
      have hmem : id ∈ s.state := Table.mem_of_lookup hlookup
      rw [AList.mem_keys, hnil] at hmem
      cases hmem
    simp [step, HmmStrategy.onInstrumentSnapshot, hne, hlookup]
  | instrumentDelta inst updateType => exact .inr hidle
  | bbo tick => exact hturn tick.instrumentId _ fun t ht => t.onBbo_outcome cfg num env ht tick
  | trade tick =>
    refine hturn tick.instrumentId (tradeTurn tick) fun t ht => ?_
    have hquiet : Turn.Quiet [] t (tradeTurn tick t) := by
      unfold tradeTurn
      split
      · exact .refl t
      · exact .modify t rfl
    exact .after_quiet hquiet (.refl (hquiet.sound ht))
  | orderBook book =>
    refine hturn book.instrumentId (bookTurn book) fun t ht => ?_
    have hquiet : Turn.Quiet [] t (bookTurn book t) := by
      unfold bookTurn
      dsimp only
      split
      · exact .modify t rfl
      · exact .refl t
    exact .after_quiet hquiet (.refl (hquiet.sound ht))
  | execReport rpt source =>
    unfold step
    dsimp only
    split
    · exact .inr hidle
    · next id hid =>
      cases hlookup : s.state.lookup id with
      | none =>
        rw [withTurn_of_none hlookup]
        exact .inr hidle
      | some st =>
        have hsound := hs.turns id st hlookup
        have hknown : rpt.orderId ∈ (s.turn id st).orderToInstrument := Table.mem_of_lookup hid
        have hfilled : ((s.turn id st).filled rpt).id = id ∧ ((s.turn id st).filled rpt).st = st ∧
            ((s.turn id st).filled rpt).actions = [] ∧
            ((s.turn id st).filled rpt).nextOrderId = s.nextOrderId ∧
            ((s.turn id st).filled rpt).orderToInstrument = s.orderToInstrument := by
          unfold Turn.filled
          split <;> exact ⟨rfl, rfl, rfl, rfl, rfl⟩
        exact .inl ⟨id, st, (s.turn id st).filled rpt, _, hlookup, hfilled,
          Turn.filled_sound _ hsound, Turn.onExecReport_outcome cfg num env _ hsound hknown source,
          withTurn_of_lookup hlookup _⟩

/-- Whatever comes of a turn, it follows from where the turn began. -/
theorem follows_of_outcome {t t' : Turn} (h : Turn.Outcome t t') :
    Turn.Follows [.entry, .quote, .close] t t' := by
  cases h with
  | waits follows => exact follows.mono (by simp)
  | entered follows => exact follows
  | trades follows => exact follows.mono (by simp)

theorem Sound.step (hs : s.Sound) (e : Hmm.Callback × Hmm.Surroundings) :
    (s.step cfg num e).1.Sound := by
  rcases step_cases cfg num hs e with ⟨id, st, t, t', h⟩ | ⟨-, hsound, -⟩
  · obtain ⟨-, -, -, hnext, horders⟩ := h.begins
    have hfollows := follows_of_outcome h.outcome
    rw [h.result]
    refine hs.commit (h.outcome.sound h.sound) (hnext ▸ hfollows.nextOrderId) fun orderId hmem => ?_
    rw [← horders, ← hnext]
    exact hfollows.orders orderId hmem
  · exact hsound

/-- The state of an instrument before and after a turn, its own or another's. -/
theorem Moved.lookup {r : HmmStrategy × List Action} {id id' : Nat} {st st' : InstrumentState}
    {t t' : Turn} (h : Moved s r id st t t') (hafter : r.1.state.lookup id' = some st') :
    id' = id ∧ st' = t'.st ∨ id' ≠ id ∧ s.state.lookup id' = some st' := by
  have hid : t'.id = id := (follows_of_outcome h.outcome).id.trans h.begins.1
  rw [h.result, HmmStrategy.commit, Table.lookup_insert_eq, hid] at hafter
  split at hafter
  · next heq => exact .inl ⟨heq, (Option.some.inj hafter).symm⟩
  · next hne => exact .inr ⟨hne, hafter⟩

/-- What a turn did is for its instrument. -/
theorem Moved.action {r : HmmStrategy × List Action} {id : Nat} {st : InstrumentState} {t t' : Turn}
    (h : Moved s r id st t t') {purposes : List Purpose} (hfollows : Turn.Follows purposes t t')
    {a : Action} (ha : a ∈ r.2) : a.For id purposes := by
  rw [h.result] at ha
  rcases hfollows.purposes a ha with hmem | hfor
  · rw [h.begins.2.2.1] at hmem
    cases hmem
  · exact h.begins.1 ▸ hfor

/-! ## Runs -/

/-- Only another regime takes a position away. -/
def HoldsPositions (s : HmmStrategy) (e : Hmm.Callback × Hmm.Surroundings) : Prop :=
  ∀ id st st', s.state.lookup id = some st → (s.step cfg num e).1.state.lookup id = some st' →
    st'.regime = st.regime →
      (st.hasMomentumPosition = true → st'.hasMomentumPosition = true) ∧
        (st.hasReversionPosition = true → st'.hasReversionPosition = true)

/-- A regime begins without a position, or else the order that was to close it was not sent; and in
a transition nothing but closes are sent. -/
def BeginsFlat (s : HmmStrategy) (e : Hmm.Callback × Hmm.Surroundings) : Prop :=
  ∀ id st st', s.state.lookup id = some st → (s.step cfg num e).1.state.lookup id = some st' →
    (st'.regime ≠ st.regime →
      (s.step cfg num e).1.positions.netQty id st'.exchangeId = 0 ∨
        .unsent .close ∈ (s.step cfg num e).2) ∧
      (st'.transitioning = true → ∀ purpose order, .sent purpose order ∈ (s.step cfg num e).2 →
        order.instrumentId = id → purpose = .close)

theorem Sound.holdsPositions (hs : s.Sound) (e : Hmm.Callback × Hmm.Surroundings) :
    HoldsPositions cfg num s e := by
  intro id st st' hbefore hafter hregime
  rcases step_cases cfg num hs e with ⟨id', st₀, t, t', h⟩ | ⟨-, -, hsame⟩
  · rcases h.lookup hafter with ⟨rfl, rfl⟩ | ⟨-, hother⟩
    · obtain rfl : st₀ = st := Option.some.inj (h.found.symm.trans hbefore)
      have hst := h.begins.2.1
      subst hst
      cases h.outcome with
      | waits _ control => exact ⟨fun hpos => control.momentum.trans hpos,
          fun hpos => control.reversion.trans hpos⟩
      | entered _ control => exact absurd hregime control.regime
      | trades _ control => exact ⟨control.momentum, control.reversion⟩
    · obtain rfl := Option.some.inj (hbefore.symm.trans hother)
      exact ⟨fun h => h, fun h => h⟩
  · obtain rfl := Option.some.inj ((hsame id st hbefore).symm.trans hafter)
    exact ⟨fun h => h, fun h => h⟩

theorem Sound.beginsFlat (hs : s.Sound) (e : Hmm.Callback × Hmm.Surroundings) :
    BeginsFlat cfg num s e := by
  intro id st st' hbefore hafter
  rcases step_cases cfg num hs e with ⟨id', st₀, t, t', h⟩ | ⟨hnone, -, hsame⟩
  · rcases h.lookup hafter with ⟨rfl, rfl⟩ | ⟨hne, hother⟩
    · obtain rfl : st₀ = st := Option.some.inj (h.found.symm.trans hbefore)
      obtain ⟨hid, hst, -⟩ := h.begins
      subst hst
      constructor
      · intro hregime
        cases h.outcome with
        | waits _ control => exact absurd control.regime hregime
        | entered follows _ flat =>
          rw [h.result]
          refine flat.imp_left fun hnet => ?_
          rw [← follows.netQty, Turn.netQty, follows.id, hid] at hnet
          exact hnet
        | trades _ control => exact absurd control.regime hregime
      · intro hin purpose order hsent _
        cases h.outcome with
        | waits follows => exact List.mem_singleton.mp (h.action follows hsent).1
        | entered _ control => exact absurd (hin.symm.trans control.transitioning) (by simp)
        | trades _ control => exact absurd (hin.symm.trans control.transitioning) (by simp)
    · obtain rfl := Option.some.inj (hbefore.symm.trans hother)
      refine ⟨fun hregime => absurd rfl hregime, fun _ purpose order hsent hinst => ?_⟩
      exact absurd (hinst.symm.trans (h.action (follows_of_outcome h.outcome) hsent).2) hne
  · obtain rfl := Option.some.inj ((hsame id st hbefore).symm.trans hafter)
    refine ⟨fun hregime => absurd rfl hregime, fun _ purpose order hsent => ?_⟩
    rw [hnone] at hsent
    cases hsent

/-- **No run of the strategy sends an exit.** Whatever becomes of the price, a momentum or reversion
position that has been opened is given up only by a change of regime: its stop, its target and the
turn of its signal set nothing off. -/
theorem no_exits (nextOrderId : Nat) (es : List (Hmm.Callback × Hmm.Surroundings)) :
    (∀ a ∈ Machine.outputs (step cfg num) { nextOrderId := nextOrderId } es,
        a ≠ .unsent .exit ∧ ∀ order, a ≠ .sent .exit order) ∧
      Machine.AlongRun (step cfg num) (HoldsPositions cfg num) { nextOrderId := nextOrderId } es := by
  have hstart := Sound.start nextOrderId
  constructor
  · rw [Machine.forall_outputs_iff_alongRun]
    refine Machine.AlongRun.of_inductive (fun s e (hs : s.Sound) => hs.step cfg num e)
      (fun s e hs a ha => ?_) hstart es
    rcases step_cases cfg num hs e with ⟨id, st, t, t', h⟩ | ⟨hnone, -, -⟩
    · have hfor := h.action (follows_of_outcome h.outcome) ha
      constructor
      · rintro rfl
        simp [Action.For] at hfor
      · rintro order rfl
        simp [Action.For] at hfor
    · rw [hnone] at ha
      cases ha
  · exact .of_inductive (fun s e (hs : s.Sound) => hs.step cfg num e)
      (fun s e hs => hs.holdsPositions cfg num e) hstart es

/-- **A regime begins flat.** In every run, the step that changes the regime of an instrument leaves
it without a position, unless the order that was to close it could not be sent; and a step that
leaves the instrument in transition sends nothing for it but closes. -/
theorem regime_change_flat (nextOrderId : Nat) (es : List (Hmm.Callback × Hmm.Surroundings)) :
    Machine.AlongRun (step cfg num) (BeginsFlat cfg num) { nextOrderId := nextOrderId } es :=
  Machine.AlongRun.of_inductive (J := Sound) (fun _ e hs => hs.step cfg num e)
    (fun _ e hs => hs.beginsFlat cfg num e) (Sound.start nextOrderId) es

end BptCore.Strategy.HmmStrategy
