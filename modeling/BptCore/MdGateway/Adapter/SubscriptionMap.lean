import BptCore.Lib.Table

/-!
# The registry of subscriptions

What an adapter is subscribed to, by instrument and by venue symbol, with the subscribe frames
that the IO thread still has to send.

* **`SubscriptionMap.find`** — the decoders' lookup.
* **`SubscriptionMap.Regular`** — every symbol has an instrument of its own and a depth in bounds;
  subscribing another instrument keeps it so.
-/

namespace BptCore.MdGateway

structure SubscriptionMap.Entry where
  symbol : String
  depth : Nat := 0
  deriving DecidableEq, Repr

structure SubscriptionMap where
  byId : Table Nat SubscriptionMap.Entry := ∅
  bySymbol : Table String Nat := ∅
  pending : List SubscriptionMap.Entry := []

namespace SubscriptionMap

variable (m : SubscriptionMap)

def subscribe (instrumentId : Nat) (symbol : String) (depth : Nat) : SubscriptionMap :=
  { byId := m.byId.insert instrumentId { symbol := symbol, depth := depth }
    bySymbol := m.bySymbol.insert symbol instrumentId
    -- an instrument that is there already is not asked for again
    pending := if (m.byId.lookup instrumentId).isNone then
        m.pending ++ [{ symbol := symbol, depth := depth }]
      else m.pending }

/-- The symbol that was removed is empty when the instrument was not there. -/
def unsubscribe (instrumentId : Nat) : SubscriptionMap × String :=
  match m.byId.lookup instrumentId with
  | none => (m, "")
  | some it =>
    ({ m with
        byId := m.byId.erase instrumentId
        bySymbol := m.bySymbol.erase it.symbol }, it.symbol)

def requeue (symbol : String) : SubscriptionMap :=
  match (m.bySymbol.lookup symbol).bind m.byId.lookup with
  | none => m
  | some it => { m with pending := m.pending ++ [it] }

theorem byId_requeue (symbol : String) : (m.requeue symbol).byId = m.byId := by
  unfold requeue
  split <;> rfl

def findId (symbol : String) : Nat := (m.bySymbol.lookup symbol).getD 0

def findDepth (instrumentId : Nat) : Nat := ((m.byId.lookup instrumentId).map Entry.depth).getD 0

/-- Instrument and depth of a symbol, both zero when it is not subscribed. -/
def find (symbol : String) : Nat × Nat :=
  match m.bySymbol.lookup symbol with
  | none => (0, 0)
  | some id =>
    match m.byId.lookup id with
    | none => (0, 0)
    | some it => (id, it.depth)

/-! ## A mix of subscribed symbols -/

/-- Every symbol has an instrument of its own, with a depth from 1 to `maxDepth`. -/
structure Regular (maxDepth : Nat) (m : SubscriptionMap) : Prop where
  entry : ∀ symbol id, m.bySymbol.lookup symbol = some id →
    ∃ it, m.byId.lookup id = some it ∧ 0 < it.depth ∧ it.depth ≤ maxDepth
  injective : ∀ symbol symbol' id, m.bySymbol.lookup symbol = some id →
    m.bySymbol.lookup symbol' = some id → symbol = symbol'

theorem regular_empty (maxDepth : Nat) : Regular maxDepth {} where
  entry := by
    intro symbol id h
    cases h
  injective := by
    intro symbol symbol' id h
    cases h

variable {m} {maxDepth : Nat}

/-- Subscribing another instrument. -/
theorem Regular.subscribe (h : m.Regular maxDepth) {instrumentId depth : Nat}
    (hid : m.byId.lookup instrumentId = none) (symbol : String) (hpos : 0 < depth)
    (hdepth : depth ≤ maxDepth) : (m.subscribe instrumentId symbol depth).Regular maxDepth := by
  have hother : ∀ s, m.bySymbol.lookup s ≠ some instrumentId := by
    intro s hs
    obtain ⟨it, hit, -⟩ := h.entry s instrumentId hs
    rw [hid] at hit
    cases hit
  constructor
  · intro s id hs
    simp only [SubscriptionMap.subscribe, Table.lookup_insert_eq] at hs ⊢
    split at hs
    · cases hs
      exact ⟨_, if_pos rfl, hpos, hdepth⟩
    · have hne : id ≠ instrumentId := fun heq => hother s (heq ▸ hs)
      rw [if_neg hne]
      exact h.entry s id hs
  · intro s s' id hs hs'
    simp only [SubscriptionMap.subscribe, Table.lookup_insert_eq] at hs hs'
    split at hs <;> split at hs'
    next heq heq' => exact heq.trans heq'.symm
    next => cases hs; exact absurd hs' (hother s')
    next => cases hs'; exact absurd hs (hother s)
    next => exact h.injective s s' id hs hs'

/-- What is found of a subscribed symbol. -/
theorem Regular.find_depth (h : m.Regular maxDepth) {symbol : String}
    (hid : (m.find symbol).1 ≠ 0) : 0 < (m.find symbol).2 ∧ (m.find symbol).2 ≤ maxDepth := by
  unfold find at hid ⊢
  cases hsymbol : m.bySymbol.lookup symbol with
  | none => simp [hsymbol] at hid
  | some id =>
    obtain ⟨it, hit, hdepth⟩ := h.entry symbol id hsymbol
    simpa only [hit] using hdepth

theorem Regular.find_injective (h : m.Regular maxDepth) {symbol symbol' : String}
    (hid : (m.find symbol).1 ≠ 0) (heq : (m.find symbol').1 = (m.find symbol).1) :
    symbol' = symbol := by
  have hlookup : ∀ s, (m.find s).1 ≠ 0 → m.bySymbol.lookup s = some (m.find s).1 := by
    intro s hs
    unfold find at hs ⊢
    cases hsymbol : m.bySymbol.lookup s with
    | none => simp [hsymbol] at hs
    | some id =>
      obtain ⟨it, hit, -⟩ := h.entry s id hsymbol
      simp only [hit]
  exact h.injective symbol' symbol _ (heq ▸ hlookup symbol' (heq ▸ hid)) (hlookup symbol hid)

/-! ## The depths of the subscriptions -/

def DepthsLe (maxDepth : Nat) (m : SubscriptionMap) : Prop :=
  ∀ instrumentId it, m.byId.lookup instrumentId = some it → it.depth ≤ maxDepth

theorem DepthsLe.subscribe (h : m.DepthsLe maxDepth) (instrumentId : Nat) (symbol : String)
    {depth : Nat} (hdepth : depth ≤ maxDepth) :
    (m.subscribe instrumentId symbol depth).DepthsLe maxDepth := by
  intro id it hit
  simp only [SubscriptionMap.subscribe, Table.lookup_insert_eq] at hit
  split at hit
  · cases hit
    exact hdepth
  · exact h id it hit

theorem DepthsLe.unsubscribe (h : m.DepthsLe maxDepth) (instrumentId : Nat) :
    (m.unsubscribe instrumentId).1.DepthsLe maxDepth := by
  unfold SubscriptionMap.unsubscribe
  split
  · exact h
  · intro id it hit
    simp only [Table.lookup_erase_eq] at hit
    split at hit
    · cases hit
    · exact h id it hit

theorem DepthsLe.findDepth (h : m.DepthsLe maxDepth) (instrumentId : Nat) :
    m.findDepth instrumentId ≤ maxDepth := by
  unfold SubscriptionMap.findDepth
  cases hit : m.byId.lookup instrumentId with
  | none => exact Nat.zero_le _
  | some it => exact h instrumentId it hit

theorem DepthsLe.find (h : m.DepthsLe maxDepth) (symbol : String) :
    (m.find symbol).2 ≤ maxDepth := by
  unfold SubscriptionMap.find
  split
  · exact Nat.zero_le _
  · split
    · exact Nat.zero_le _
    next it hit => exact h _ it hit

end SubscriptionMap

end BptCore.MdGateway
