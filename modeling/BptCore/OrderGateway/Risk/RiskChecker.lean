import BptCore.Messages
import Mathlib.Data.Fintype.Basic

/-!
# The pre-trade risk checker

`RiskChecker.check` runs its tests in the order of the source, kill switch, duplicate id, open
orders of the venue, orders per second, order size, notional, and claims an open-order slot of
the venue when all of them pass. The double arithmetic of the size test is exact here.

* **`check_spec`** — everything a call does: it either accepts, with `Accepted` listing what
  was tested and what was recorded, or refuses and leaves switch, slots and ring alone.
* **`onOrderClosed`** — the slot given back, never below zero.
-/

namespace BptCore.OrderGateway

/-- The limits `RiskChecker` is built with. -/
structure RiskLimits where
  maxOrderSizeUsd : ℚ
  maxNotionalPerOrderUsd : ℚ
  maxOpenOrdersPerVenue : Nat
  maxOrdersPerSecond : Nat

def kMaxVenues : Nat := 4

def kDupRingSize : Nat := 1024

/-- `venue_idx`: an exchange whose value has no slot of its own uses slot 0. -/
def venueIdx (exchange : ExchangeId) : Fin kMaxVenues :=
  if h : exchange.value < kMaxVenues then ⟨exchange.value, h⟩ else ⟨0, by decide⟩

/-- The last `kDupRingSize` accepted ids. A slot not yet written holds 0. -/
structure DupRing where
  slots : List Nat
  head : Nat
  length_slots : slots.length = kDupRingSize

namespace DupRing

def empty : DupRing where
  slots := List.replicate kDupRingSize 0
  head := 0
  length_slots := List.length_replicate

def contains (r : DupRing) (orderId : Nat) : Bool := r.slots.any (· == orderId)

def push (r : DupRing) (orderId : Nat) : DupRing where
  slots := r.slots.set (r.head % kDupRingSize) orderId
  head := r.head + 1
  length_slots := by rw [List.length_set]; exact r.length_slots

end DupRing

structure RiskChecker where
  tradingEnabled : Bool := true
  openOrders : Fin kMaxVenues → Nat := fun _ => 0
  rateWindowS : Nat := 0
  ordersThisWindow : Nat := 0
  dupRing : DupRing := .empty

/-- Price times quantity in USD. -/
def orderSize (price : Int) (quantity : Nat) : ℚ := ofE8 price * ofE8 quantity

namespace RiskChecker

variable (lim : RiskLimits) (rc : RiskChecker)

/-- A new second starts with an empty window. -/
def rollWindow (nowS : Nat) : RiskChecker :=
  if rc.rateWindowS ≠ nowS then { rc with rateWindowS := nowS, ordersThisWindow := 0 } else rc

/-- The slot and the id of an accepted order. -/
def claim (exchange : ExchangeId) (orderId : Nat) : RiskChecker :=
  { rc with
    ordersThisWindow := rc.ordersThisWindow + 1
    dupRing := rc.dupRing.push orderId
    openOrders := Function.update rc.openOrders (venueIdx exchange)
      (rc.openOrders (venueIdx exchange) + 1) }

def check (exchange : ExchangeId) (price : Int) (quantity orderId nowS : Nat) :
    RiskChecker × Except RejectReason Unit :=
  if !rc.tradingEnabled then (rc, .error .RISK_REJECTED)
  else if rc.dupRing.contains orderId then (rc, .error .DUPLICATE_ORDER_ID)
  else if rc.openOrders (venueIdx exchange) ≥ lim.maxOpenOrdersPerVenue then
    (rc, .error .RISK_REJECTED)
  else
    let rc := rc.rollWindow nowS
    -- the window's count is taken back on every refusal below
    if rc.ordersThisWindow ≥ lim.maxOrdersPerSecond then (rc, .error .RATE_LIMITED)
    -- without a price there is no notional to test
    else if price ≤ 0 ∧ quantity > 0 then (rc.claim exchange orderId, .ok ())
    else if orderSize price quantity > lim.maxOrderSizeUsd then (rc, .error .RISK_REJECTED)
    else if orderSize price quantity > lim.maxNotionalPerOrderUsd then
      (rc, .error .RISK_REJECTED)
    else (rc.claim exchange orderId, .ok ())

def onOrderClosed (exchange : ExchangeId) : RiskChecker :=
  { rc with
    openOrders := Function.update rc.openOrders (venueIdx exchange)
      (rc.openOrders (venueIdx exchange) - 1) }

def setTradingEnabled (enabled : Bool) : RiskChecker := { rc with tradingEnabled := enabled }

/-! ## What a call to `check` does -/

/-- The size test of an accepted order: a market order skips it. -/
def SizeOk (price : Int) (quantity : Nat) : Prop :=
  (price ≤ 0 ∧ 0 < quantity) ∨
    (orderSize price quantity ≤ lim.maxOrderSizeUsd ∧
      orderSize price quantity ≤ lim.maxNotionalPerOrderUsd)

/-- An accepting call, from `rc` to `rc'`. -/
structure Accepted (exchange : ExchangeId) (price : Int) (quantity orderId : Nat)
    (rc' : RiskChecker) : Prop where
  enabled : rc.tradingEnabled = true
  fresh : rc.dupRing.contains orderId = false
  slotFree : rc.openOrders (venueIdx exchange) < lim.maxOpenOrdersPerVenue
  sized : SizeOk lim price quantity
  stillEnabled : rc'.tradingEnabled = rc.tradingEnabled
  ring : rc'.dupRing = rc.dupRing.push orderId
  slots : rc'.openOrders = Function.update rc.openOrders (venueIdx exchange)
    (rc.openOrders (venueIdx exchange) + 1)

/-- A refusing call, from `rc` to `rc'`. -/
structure Refused (rc' : RiskChecker) : Prop where
  switch : rc'.tradingEnabled = rc.tradingEnabled
  ring : rc'.dupRing = rc.dupRing
  slots : rc'.openOrders = rc.openOrders

theorem rollWindow_refused (nowS : Nat) : Refused rc (rc.rollWindow nowS) := by
  unfold rollWindow
  split <;> exact ⟨rfl, rfl, rfl⟩

/-- **The two outcomes of `check`.** -/
theorem check_spec (exchange : ExchangeId) (price : Int) (quantity orderId nowS : Nat) :
    let out := check lim rc exchange price quantity orderId nowS
    (out.2 = .ok () ∧ Accepted lim rc exchange price quantity orderId out.1) ∨
      (∃ reason, out.2 = .error reason) ∧ Refused rc out.1 := by
  have hroll := rollWindow_refused rc nowS
  simp only [check]
  split
  · exact .inr ⟨⟨_, rfl⟩, rfl, rfl, rfl⟩
  next hswitch =>
  split
  · exact .inr ⟨⟨_, rfl⟩, rfl, rfl, rfl⟩
  next hdup =>
  split
  · exact .inr ⟨⟨_, rfl⟩, rfl, rfl, rfl⟩
  next hslot =>
  split
  · exact .inr ⟨⟨_, rfl⟩, hroll⟩
  -- what the first three tests and the new window leave for an accepting branch
  have haccept : SizeOk lim price quantity →
      Accepted lim rc exchange price quantity orderId
        ((rc.rollWindow nowS).claim exchange orderId) := fun hsize =>
    { enabled := by simpa using hswitch
      fresh := by simpa using hdup
      slotFree := not_le.mp hslot
      sized := hsize
      stillEnabled := hroll.switch
      ring := by rw [← hroll.ring]; rfl
      slots := by rw [← hroll.slots]; rfl }
  split
  · next hmarket => exact .inl ⟨rfl, haccept (.inl hmarket)⟩
  split
  · exact .inr ⟨⟨_, rfl⟩, hroll⟩
  next hsize =>
  split
  · exact .inr ⟨⟨_, rfl⟩, hroll⟩
  next hnotional =>
  exact .inl ⟨rfl, haccept (.inr ⟨not_lt.mp hsize, not_lt.mp hnotional⟩)⟩

variable {lim rc}

theorem onOrderClosed_openOrders (exchange : ExchangeId) (i : Fin kMaxVenues) :
    (rc.onOrderClosed exchange).openOrders i =
      if i = venueIdx exchange then rc.openOrders i - 1 else rc.openOrders i := by
  simp only [onOrderClosed, Function.update_apply]
  split
  · next h => rw [h]
  · rfl

/-- Claiming a slot and giving it back restores the counters. -/
theorem Accepted.openOrders_onOrderClosed {exchange : ExchangeId} {price : Int}
    {quantity orderId : Nat} {rc' : RiskChecker}
    (h : Accepted lim rc exchange price quantity orderId rc') :
    (rc'.onOrderClosed exchange).openOrders = rc.openOrders := by
  funext i
  rw [onOrderClosed_openOrders, h.slots]
  by_cases hi : i = venueIdx exchange
  · rw [if_pos hi, hi, Function.update_self, Nat.add_sub_cancel]
  · rw [if_neg hi, Function.update_of_ne hi]

end RiskChecker

/-! ## Slots of the venues

A venue is an exchange other than the wildcard. Distinct venues have distinct slots; DERIBIT,
whose value is out of the array, has slot 0, which the wildcard maps to as well. -/

theorem venueIdx_injOn {v w : ExchangeId} (hv : v ≠ .ALL) (hw : w ≠ .ALL)
    (h : venueIdx v = venueIdx w) : v = w := by
  cases v <;> cases w <;> simp_all [venueIdx, ExchangeId.value, kMaxVenues]

end BptCore.OrderGateway
