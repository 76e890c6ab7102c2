import BptCore.Lib.Table
import BptCore.Messages

/-!
# The caches of rates

What the strategy knows of fees and funding, by instrument. A fee that has the instrument id 0 is
the default of its exchange and has a place of its own.

* **`FeeCache`** — no instrument has the id 0.
* **`FundingRateCache`** — the last rate of each instrument.
* **`remove_eq_self_iff`** — removing an instrument changes a cache that has an entry of it, and no
  other.
-/

namespace BptCore.Strategy.Refdata

/-! ## Messages -/

structure FeeSchedule where
  exchangeId : Option ExchangeId
  instrumentId : Nat
  makerFeeBps : Int
  takerFeeBps : Int
  updatedTs : Nat
  deriving DecidableEq, Repr

structure FundingRate where
  exchangeId : Option ExchangeId
  instrumentId : Nat
  rateBps : Int
  nextFundingTs : Nat
  collectedTs : Nat
  deriving DecidableEq, Repr

/-! ## Fees -/

structure FeeScheduleEntry where
  makerBps : Int := 0
  takerBps : Int := 0
  updatedTs : Nat := 0
  deriving DecidableEq, Repr

structure FeeCache where
  maxStalenessNs : Nat
  /-- The default of each exchange. -/
  exchangeSlots : Fin 8 → FeeScheduleEntry := fun _ => {}
  perInstrument : Table Nat FeeScheduleEntry := ∅
  lookup_zero : perInstrument.lookup 0 = none := by rfl

namespace FeeCache

/-- `static_cast<uint8_t>(exchange_id)`, the null value included. -/
def slotIndex : Option ExchangeId → Nat
  | none => 255
  | some ex => ex.value

variable (c : FeeCache)

def update (exchangeId : Option ExchangeId) (instrumentId : Nat) (makerBps takerBps : Int)
    (updatedTs : Nat) : FeeCache :=
  if hid : instrumentId = 0 then
    if h : slotIndex exchangeId < 8 then
      let entry : FeeScheduleEntry := ⟨makerBps, takerBps, updatedTs⟩
      { c with exchangeSlots := Function.update c.exchangeSlots ⟨slotIndex exchangeId, h⟩ entry }
    else c
  else
    { c with
      perInstrument := c.perInstrument.insert instrumentId ⟨makerBps, takerBps, updatedTs⟩
      lookup_zero := by rw [Table.lookup_insert_eq, if_neg (Ne.symm hid), c.lookup_zero] }

def remove (instrumentId : Nat) : FeeCache :=
  if instrumentId = 0 then c
  else
    { c with
      perInstrument := c.perInstrument.erase instrumentId
      lookup_zero := by
        rw [Table.lookup_erase_eq]
        split
        · rfl
        · exact c.lookup_zero }

/-- The fees of an instrument, else those of its exchange, and nothing when they are too old. -/
def get (exchangeId : Option ExchangeId) (instrumentId nowNs : Nat) : Option FeeScheduleEntry :=
  match (if instrumentId ≠ 0 then c.perInstrument.lookup instrumentId else none) with
  | some e => if u64Sub nowNs e.updatedTs ≤ c.maxStalenessNs then some e else none
  | none =>
    if h : slotIndex exchangeId < 8 then
      let e := c.exchangeSlots ⟨slotIndex exchangeId, h⟩
      if e.updatedTs = 0 then none
      else if u64Sub nowNs e.updatedTs > c.maxStalenessNs then none
      else some e
    else none

theorem lookup_remove (instrumentId id : Nat) :
    (c.remove instrumentId).perInstrument.lookup id =
      if id = instrumentId then none else c.perInstrument.lookup id := by
  unfold remove
  by_cases hzero : instrumentId = 0
  · rw [if_pos hzero]
    split
    · next hid => rw [hid, hzero, c.lookup_zero]
    · rfl
  · rw [if_neg hzero]
    exact Table.lookup_erase_eq _ _ _

@[simp] theorem exchangeSlots_remove (instrumentId : Nat) :
    (c.remove instrumentId).exchangeSlots = c.exchangeSlots := by
  unfold remove
  split <;> rfl

theorem remove_eq_self_iff {instrumentId : Nat} :
    c.remove instrumentId = c ↔ c.perInstrument.lookup instrumentId = none := by
  constructor
  · intro h
    rw [← h, lookup_remove, if_pos rfl]
  · intro h
    unfold remove
    split
    · rfl
    · cases c
      congr
      exact Table.erase_eq_self_iff.mpr h

end FeeCache

/-! ## Funding -/

structure FundingRateEntry where
  exchangeId : Option ExchangeId
  instrumentId : Nat
  rateBps : Int
  nextFundingTs : Nat
  collectedTs : Nat
  deriving DecidableEq, Repr

structure FundingRateCache where
  maxStalenessNs : Nat
  rates : Table Nat FundingRateEntry := ∅

namespace FundingRateCache

variable (c : FundingRateCache)

def update (exchangeId : Option ExchangeId) (instrumentId : Nat) (rateBps : Int)
    (nextFundingTs collectedTs : Nat) : FundingRateCache :=
  let entry : FundingRateEntry := ⟨exchangeId, instrumentId, rateBps, nextFundingTs, collectedTs⟩
  { c with rates := c.rates.insert instrumentId entry }

def remove (instrumentId : Nat) : FundingRateCache :=
  { c with rates := c.rates.erase instrumentId }

def get (instrumentId nowNs : Nat) : Option FundingRateEntry :=
  match c.rates.lookup instrumentId with
  | none => none
  | some e => if u64Sub nowNs e.collectedTs > c.maxStalenessNs then none else some e

theorem lookup_remove (instrumentId id : Nat) :
    (c.remove instrumentId).rates.lookup id =
      if id = instrumentId then none else c.rates.lookup id :=
  Table.lookup_erase_eq _ _ _

theorem remove_eq_self_iff {instrumentId : Nat} :
    c.remove instrumentId = c ↔ c.rates.lookup instrumentId = none := by
  rw [← Table.erase_eq_self_iff]
  constructor
  · exact fun h => congrArg rates h
  · intro h
    unfold remove
    rw [h]

/-- A removed instrument has no rate, and the others have theirs. -/
theorem get_remove (instrumentId id nowNs : Nat) :
    (c.remove instrumentId).get id nowNs = if id = instrumentId then none else c.get id nowNs := by
  unfold get
  rw [lookup_remove]
  by_cases hid : id = instrumentId
  · rw [if_pos hid, if_pos hid]
  · rw [if_neg hid, if_neg hid]
    rfl

end FundingRateCache

/-- A removed instrument has the fees of its exchange, and the others have theirs. -/
theorem FeeCache.get_remove (c : FeeCache) (exchangeId : Option ExchangeId)
    (instrumentId id nowNs : Nat) :
    (c.remove instrumentId).get exchangeId id nowNs =
      c.get exchangeId (if id = instrumentId then 0 else id) nowNs := by
  have hstaleness : (c.remove instrumentId).maxStalenessNs = c.maxStalenessNs := by
    unfold FeeCache.remove
    split <;> rfl
  unfold FeeCache.get
  rw [FeeCache.lookup_remove, FeeCache.exchangeSlots_remove, hstaleness]
  by_cases hid : id = instrumentId
  · rw [if_pos hid, if_pos hid, ite_self, if_neg (fun h => h rfl)]
  · rw [if_neg hid, if_neg hid]

end BptCore.Strategy.Refdata
