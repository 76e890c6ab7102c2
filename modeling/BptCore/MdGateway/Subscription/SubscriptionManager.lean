import BptCore.Lib.Machine
import BptCore.Lib.Table
import Mathlib.Data.Finset.Basic

/-!
# The subscription manager

Consumers send the whole set of instruments they want, each under its own correlation id. The
manager keeps the set of every consumer and, for every instrument that somebody wants, who does;
the venue adapters hear only of an instrument's first wanter and of its last.

* **`SubscriptionManager.applyRequests`** — one batch: the body of its first loop is `dropOld`,
  that of its second `wantNew`.
* **`dropOld_cases`**, **`wantNew_cases`** — what one round of either loop can do.
* **`Counted`** — the invariant between batches: the wanters of an instrument are the consumers
  whose set has it.
* **`subscriptions_follow_desired_sets`** — over any sequence of batches, the adapters hold the
  union of the latest sets, their calls alternate, and every entry is acknowledged once.
-/

namespace BptCore.MdGateway

inductive AckStatus where
  | OK | REJECTED | NOT_FOUND
  deriving DecidableEq, Repr

structure SubscribeRequest where
  instrumentId : Nat
  exchange : String
  symbol : String
  depth : Nat := 0
  deriving DecidableEq, Repr

structure SubscribedInstrument where
  instrumentId : Nat
  exchange : String
  symbol : String
  depth : Nat
  /-- The correlation ids that requested the instrument. -/
  wanters : Finset Nat := ∅

/-- What the manager calls: the adapters, by their `exchange_name`, and the ack publisher. -/
inductive ManagerCall where
  | subscribe (exchange : String) (instrumentId : Nat) (symbol : String) (depth : Nat)
  | unsubscribe (exchange : String) (instrumentId : Nat)
  | publishAck (correlationId instrumentId : Nat) (exchange : String) (status : AckStatus)
  deriving DecidableEq, Repr

structure SubscriptionManager where
  /-- The exchange names of the added adapters. -/
  adapters : List String
  active : Table Nat SubscribedInstrument := ∅
  /-- The desired set of every consumer, in iteration order. -/
  perConsumer : Table Nat (List Nat) := ∅

/-- The arguments of one `apply_requests`. -/
structure SubscribeBatch where
  correlationId : Nat
  desired : List SubscribeRequest
  deriving DecidableEq, Repr

/-- An entry of the group of a wire message. -/
structure BatchInstrument where
  instrumentId : Nat
  exchange : String
  symbol : String
  depth : UInt8
  deriving DecidableEq, Repr

structure MdSubscribeBatch where
  correlationId : Nat
  instruments : List BatchInstrument
  deriving DecidableEq, Repr

namespace SubscriptionManager

variable (m : SubscriptionManager)

def findAdapter (exchange : String) : Option String := m.adapters.find? (exchange == ·)

/-- The body of the first loop of `apply_requests`: the consumer no longer wants `oldId` unless
its new set has it. -/
def dropOld (correlationId : Nat) (newSet : List Nat) (m : SubscriptionManager) (oldId : Nat) :
    SubscriptionManager × List ManagerCall :=
  if oldId ∈ newSet then (m, [])
  else
    match m.active.lookup oldId with
    | none => (m, [])
    | some it =>
      let wanters := it.wanters.erase correlationId
      if wanters = ∅ then
        ({ m with active := m.active.erase oldId },
          match m.findAdapter it.exchange with
          | none => []
          | some adapter => [.unsubscribe adapter oldId])
      else ({ m with active := m.active.insert oldId { it with wanters := wanters } }, [])

/-- The body of the second loop: the consumer wants what `d` names. -/
def wantNew (correlationId : Nat) (m : SubscriptionManager) (d : SubscribeRequest) :
    SubscriptionManager × List ManagerCall :=
  match m.findAdapter d.exchange with
  | none => (m, [.publishAck correlationId d.instrumentId d.exchange .NOT_FOUND])
  | some adapter =>
    let it := (m.active.lookup d.instrumentId).getD
      { instrumentId := d.instrumentId, exchange := d.exchange, symbol := d.symbol
        depth := d.depth }
    ({ m with
        active := m.active.insert d.instrumentId
          { it with wanters := insert correlationId it.wanters } },
      (if it.wanters = ∅ then [.subscribe adapter d.instrumentId d.symbol d.depth] else []) ++
        [.publishAck correlationId d.instrumentId d.exchange .OK])

/-- What the consumer wanted so far. -/
def prevSet (correlationId : Nat) : List Nat := (m.perConsumer.lookup correlationId).getD []

def newSet (desired : List SubscribeRequest) : List Nat :=
  (desired.map SubscribeRequest.instrumentId).dedup

/-- The manager after the first loop, with the new set committed. -/
def dropped (b : SubscribeBatch) : SubscriptionManager :=
  let m' := Machine.exec (dropOld b.correlationId (newSet b.desired)) m (m.prevSet b.correlationId)
  { m' with perConsumer := m'.perConsumer.insert b.correlationId (newSet b.desired) }

def applyRequests (m : SubscriptionManager) (b : SubscribeBatch) :
    SubscriptionManager × List ManagerCall :=
  (Machine.exec (wantNew b.correlationId) (m.dropped b) b.desired,
    Machine.outputs (dropOld b.correlationId (newSet b.desired)) m (m.prevSet b.correlationId) ++
      Machine.outputs (wantNew b.correlationId) (m.dropped b) b.desired)

/-- The exchange field of the wire has eight characters. -/
def canonicalize (exchange : String) : String :=
  if exchange = "HYPERLIQ" then "HYPERLIQUID" else exchange

def applyBatch (m : SubscriptionManager) (msg : MdSubscribeBatch) :
    SubscriptionManager × List ManagerCall :=
  m.applyRequests
    { correlationId := msg.correlationId
      desired := msg.instruments.map fun g =>
        { instrumentId := g.instrumentId, exchange := canonicalize g.exchange
          symbol := g.symbol, depth := g.depth.toNat } }

/-! ## Who wants what -/

/-- The consumer `c` is among the wanters of the instrument `i`. -/
def Wants (c i : Nat) : Prop := ∃ it, m.active.lookup i = some it ∧ c ∈ it.wanters

def isActive (i : Nat) : Bool := (m.active.lookup i).isSome

/-- Every active instrument has a wanter, and sits on its exchange's adapter. -/
structure Kept (exchangeOf : Nat → String) : Prop where
  wanted : ∀ i it, m.active.lookup i = some it → it.wanters ≠ ∅
  home : ∀ i it, m.active.lookup i = some it → m.findAdapter it.exchange = some (exchangeOf i)

variable {m} {exchangeOf : Nat → String}

theorem Kept.isActive_iff (h : m.Kept exchangeOf) {i : Nat} :
    m.isActive i ↔ ∃ c, m.Wants c i := by
  constructor
  · intro hact
    obtain ⟨it, hit⟩ := Option.isSome_iff_exists.mp hact
    obtain ⟨c, hc⟩ := Finset.nonempty_iff_ne_empty.mpr (h.wanted i it hit)
    exact ⟨c, it, hit, hc⟩
  · rintro ⟨c, it, hit, -⟩
    exact Option.isSome_iff_exists.mpr ⟨it, hit⟩

/-- The entry of one instrument is overwritten. -/
theorem wants_insert (i : Nat) (it : SubscribedInstrument) (c j : Nat) :
    Wants { m with active := m.active.insert i it } c j ↔
      if j = i then c ∈ it.wanters else m.Wants c j := by
  unfold Wants
  simp only [Table.lookup_insert_eq]
  split <;> simp

theorem wants_erase (i c j : Nat) :
    Wants { m with active := m.active.erase i } c j ↔ j ≠ i ∧ m.Wants c j := by
  unfold Wants
  simp only [Table.lookup_erase_eq]
  split <;> simp [*]

/-- An instrument is active when its entry is there. -/
theorem isActive_insert (i : Nat) (it : SubscribedInstrument) (j : Nat) :
    isActive { m with active := m.active.insert i it } j = (j == i || m.isActive j) := by
  unfold isActive
  simp only [Table.lookup_insert_eq]
  by_cases h : j = i <;> simp [h]

theorem isActive_erase (i j : Nat) :
    isActive { m with active := m.active.erase i } j = (j != i && m.isActive j) := by
  unfold isActive
  simp only [Table.lookup_erase_eq]
  by_cases h : j = i <;> simp [h]

/-! ## One round of either loop -/

theorem dropOld_cases (h : m.Kept exchangeOf) (correlationId : Nat) (new : List Nat) (i : Nat) :
    (dropOld correlationId new m i = (m, []) ∧ (i ∈ new ∨ m.active.lookup i = none)) ∨
    ∃ it, m.active.lookup i = some it ∧ i ∉ new ∧
      ((it.wanters.erase correlationId = ∅ ∧
          dropOld correlationId new m i =
            ({ m with active := m.active.erase i }, [.unsubscribe (exchangeOf i) i])) ∨
        (it.wanters.erase correlationId ≠ ∅ ∧
          dropOld correlationId new m i =
            ({ m with
                active := m.active.insert i
                  { it with wanters := it.wanters.erase correlationId } }, []))) := by
  unfold dropOld
  by_cases hnew : i ∈ new
  · exact .inl ⟨if_pos hnew, .inl hnew⟩
  rw [if_neg hnew]
  cases hit : m.active.lookup i with
  | none => exact .inl ⟨rfl, .inr rfl⟩
  | some it =>
    refine .inr ⟨it, rfl, hnew, ?_⟩
    by_cases hempty : it.wanters.erase correlationId = ∅
    · refine .inl ⟨hempty, ?_⟩
      simp only [hempty, if_true, h.home i it hit]
    · exact .inr ⟨hempty, if_neg hempty⟩

theorem wantNew_cases (h : m.Kept exchangeOf) (correlationId : Nat) {d : SubscribeRequest}
    (hd : m.findAdapter d.exchange = some (exchangeOf d.instrumentId)) :
    (∃ it, m.active.lookup d.instrumentId = some it ∧
      wantNew correlationId m d =
        ({ m with
            active := m.active.insert d.instrumentId
              { it with wanters := insert correlationId it.wanters } },
          [.publishAck correlationId d.instrumentId d.exchange .OK])) ∨
    (m.active.lookup d.instrumentId = none ∧
      wantNew correlationId m d =
        ({ m with
            active := m.active.insert d.instrumentId
              { instrumentId := d.instrumentId, exchange := d.exchange, symbol := d.symbol
                depth := d.depth, wanters := {correlationId} } },
          [.subscribe (exchangeOf d.instrumentId) d.instrumentId d.symbol d.depth,
            .publishAck correlationId d.instrumentId d.exchange .OK])) := by
  unfold wantNew
  rw [hd]
  cases hit : m.active.lookup d.instrumentId with
  | none => exact .inr ⟨rfl, rfl⟩
  | some it =>
    refine .inl ⟨it, rfl, ?_⟩
    simp [h.wanted _ it hit]

/-! ### The invariant of the entries -/

theorem Kept.insert (h : m.Kept exchangeOf) {i : Nat} {it : SubscribedInstrument}
    (hwanted : it.wanters ≠ ∅) (hhome : m.findAdapter it.exchange = some (exchangeOf i)) :
    Kept { m with active := m.active.insert i it } exchangeOf where
  wanted := by
    intro j jt hjt
    rw [Table.lookup_insert_eq] at hjt
    split at hjt
    · cases hjt; exact hwanted
    · exact h.wanted j jt hjt
  home := by
    intro j jt hjt
    rw [Table.lookup_insert_eq] at hjt
    split at hjt
    next heq => cases hjt; subst heq; exact hhome
    next => exact h.home j jt hjt

theorem Kept.erase (h : m.Kept exchangeOf) (i : Nat) :
    Kept { m with active := m.active.erase i } exchangeOf where
  wanted := by
    intro j jt hjt
    rw [Table.lookup_erase_eq] at hjt
    split at hjt
    · cases hjt
    · exact h.wanted j jt hjt
  home := by
    intro j jt hjt
    rw [Table.lookup_erase_eq] at hjt
    split at hjt
    · cases hjt
    · exact h.home j jt hjt

theorem Kept.dropOld (h : m.Kept exchangeOf) (correlationId : Nat) (new : List Nat) (i : Nat) :
    (dropOld correlationId new m i).1.Kept exchangeOf := by
  obtain ⟨heq, -⟩ | ⟨it, hit, -, ⟨-, heq⟩ | ⟨hne, heq⟩⟩ := dropOld_cases h correlationId new i
  · rw [heq]; exact h
  · rw [heq]; exact h.erase i
  · rw [heq]; exact h.insert hne (h.home i it hit)

theorem Kept.wantNew (h : m.Kept exchangeOf) (correlationId : Nat) {d : SubscribeRequest}
    (hd : m.findAdapter d.exchange = some (exchangeOf d.instrumentId)) :
    (wantNew correlationId m d).1.Kept exchangeOf := by
  obtain ⟨it, hit, heq⟩ | ⟨-, heq⟩ := wantNew_cases h correlationId hd
  · rw [heq]; exact h.insert (Finset.insert_ne_empty _ _) (h.home _ it hit)
  · rw [heq]; exact h.insert (Finset.singleton_ne_empty _) hd

/-! ### Who wants what afterwards -/

/-- A round of the first loop takes the consumer off the instrument, unless its new set has it. -/
theorem wants_dropOld (h : m.Kept exchangeOf) (correlationId : Nat) (new : List Nat) (i c j : Nat) :
    (dropOld correlationId new m i).1.Wants c j ↔
      m.Wants c j ∧ ¬(c = correlationId ∧ j = i ∧ j ∉ new) := by
  obtain ⟨heq, hwhy⟩ | ⟨it, hit, hnew, ⟨hempty, heq⟩ | ⟨-, heq⟩⟩ :=
    dropOld_cases h correlationId new i
  · -- nothing changes: the set has the instrument, or nobody wants it
    rw [heq]
    refine (and_iff_left_of_imp ?_).symm
    rintro ⟨it, hit, -⟩ ⟨-, rfl, hnew⟩
    rcases hwhy with hin | hnone
    · exact hnew hin
    · rw [hnone] at hit
      cases hit
  · rw [heq, wants_erase]
    by_cases hj : j = i
    · subst hj
      -- the last wanter was the consumer itself
      have hone : ∀ c, m.Wants c j → c = correlationId := by
        rintro c ⟨it', hit', hc⟩
        rw [hit] at hit'
        cases hit'
        by_contra hne
        have hmem : c ∈ it.wanters.erase correlationId := Finset.mem_erase.mpr ⟨hne, hc⟩
        rw [hempty] at hmem
        exact Finset.notMem_empty c hmem
      simp only [ne_eq, not_true_eq_false, false_and, false_iff, not_and, true_and]
      intro hw
      simp [hone c hw, hnew]
    · simp [hj]
  · rw [heq, wants_insert]
    by_cases hj : j = i
    · subst hj
      simp [Wants, hit, hnew, and_comm]
    · simp [hj]

/-- A round of the second loop puts the consumer on the instrument. -/
theorem wants_wantNew (h : m.Kept exchangeOf) (correlationId : Nat) {d : SubscribeRequest}
    (hd : m.findAdapter d.exchange = some (exchangeOf d.instrumentId)) (c j : Nat) :
    (wantNew correlationId m d).1.Wants c j ↔
      m.Wants c j ∨ (c = correlationId ∧ j = d.instrumentId) := by
  obtain ⟨it, hit, heq⟩ | ⟨hnone, heq⟩ := wantNew_cases h correlationId hd
  · rw [heq, wants_insert]
    by_cases hj : j = d.instrumentId
    · subst hj
      simp [Wants, hit, or_comm]
    · simp [hj]
  · rw [heq, wants_insert]
    by_cases hj : j = d.instrumentId
    · subst hj
      simp [Wants, hnone]
    · simp [hj]

/-! ### What the adapters hear -/

/-- The calls about the instrument `i`: whether each is a `subscribe`. -/
def callFor (i : Nat) : ManagerCall → Option Bool
  | .subscribe _ j _ _ => if j = i then some true else none
  | .unsubscribe _ j => if j = i then some false else none
  | .publishAck .. => none

/-- The instruments that the adapters hold, each with its adapter's exchange. -/
def onVenue (held : Finset (String × Nat)) : ManagerCall → Finset (String × Nat)
  | .subscribe exchange i _ _ => insert (exchange, i) held
  | .unsubscribe exchange i => held.erase (exchange, i)
  | .publishAck .. => held

/-- The adapters hold the active instruments, each on its own exchange. -/
def Mirrors (exchangeOf : Nat → String) (m : SubscriptionManager)
    (held : Finset (String × Nat)) : Prop :=
  ∀ exchange i, (exchange, i) ∈ held ↔ m.isActive i ∧ exchange = exchangeOf i

/-- The calls between two states tell the adapters what changed: each instrument's calls are the
switches of its activity, and what the adapters hold stays what is active. -/
structure Tells (exchangeOf : Nat → String) (m : SubscriptionManager) (calls : List ManagerCall)
    (m' : SubscriptionManager) : Prop where
  switches : ∀ i, Machine.Switches (m.isActive i) (calls.filterMap (callFor i)) (m'.isActive i)
  mirrors : ∀ held, Mirrors exchangeOf m held → Mirrors exchangeOf m' (calls.foldl onVenue held)

theorem Tells.nil (m : SubscriptionManager) : Tells exchangeOf m [] m :=
  ⟨fun _ => rfl, fun _ h => h⟩

theorem Tells.append {m m' m'' : SubscriptionManager} {calls calls' : List ManagerCall}
    (h : Tells exchangeOf m calls m') (h' : Tells exchangeOf m' calls' m'') :
    Tells exchangeOf m (calls ++ calls') m'' where
  switches := by
    intro i
    rw [List.filterMap_append]
    exact (h.switches i).append (h'.switches i)
  mirrors := by
    intro held hheld
    rw [List.foldl_append]
    exact h'.mirrors _ (h.mirrors held hheld)

/-- An instrument that was not active is subscribed. -/
theorem tells_subscribe {i : Nat} (hnone : m.active.lookup i = none) (it : SubscribedInstrument)
    (symbol : String) (depth correlationId : Nat) (exchange : String) :
    Tells exchangeOf m
      [.subscribe (exchangeOf i) i symbol depth, .publishAck correlationId i exchange .OK]
      { m with active := m.active.insert i it } where
  switches := by
    intro j
    rw [isActive_insert]
    by_cases hj : j = i
    · subst hj
      simp [List.filterMap_cons, callFor, Machine.Switches, isActive, hnone]
    · simp [List.filterMap_cons, callFor, Machine.Switches, hj, Ne.symm hj]
  mirrors := by
    intro held hheld e j
    rw [isActive_insert]
    show (e, j) ∈ insert (exchangeOf i, i) held ↔ _
    rw [Finset.mem_insert, hheld e j]
    by_cases hj : j = i
    · subst hj
      simp [isActive, hnone]
    · simp [hj]

/-- An active instrument is unsubscribed. -/
theorem tells_unsubscribe {i : Nat} {it : SubscribedInstrument}
    (hit : m.active.lookup i = some it) :
    Tells exchangeOf m [.unsubscribe (exchangeOf i) i] { m with active := m.active.erase i } where
  switches := by
    intro j
    rw [isActive_erase]
    by_cases hj : j = i
    · subst hj
      simp [callFor, Machine.Switches, isActive, hit]
    · simp [callFor, Machine.Switches, hj, Ne.symm hj]
  mirrors := by
    intro held hheld e j
    rw [isActive_erase]
    show (e, j) ∈ held.erase (exchangeOf i, i) ↔ _
    rw [Finset.mem_erase, hheld e j]
    by_cases hj : j = i
    · subst hj
      refine iff_of_false ?_ (by simp)
      rintro ⟨hne, -, rfl⟩
      exact hne rfl
    · simp [hj]

/-- Overwriting an active instrument's entry is nothing the adapters hear of. -/
theorem tells_update {i : Nat} {it : SubscribedInstrument} (hit : m.active.lookup i = some it)
    (it' : SubscribedInstrument) {calls : List ManagerCall}
    (hcalls : ∀ call ∈ calls, ∃ c j e s, call = .publishAck c j e s) :
    Tells exchangeOf m calls { m with active := m.active.insert i it' } := by
  have hsame : ∀ j, isActive { m with active := m.active.insert i it' } j = m.isActive j := by
    intro j
    rw [isActive_insert]
    by_cases hj : j = i
    · subst hj
      simp [isActive, hit]
    · simp [hj]
  have hnone : ∀ j, calls.filterMap (callFor j) = [] := by
    intro j
    rw [List.filterMap_eq_nil_iff]
    intro call hcall
    obtain ⟨c, k, e, s, rfl⟩ := hcalls call hcall
    rfl
  have hheld : ∀ held, calls.foldl onVenue held = held := by
    intro held
    induction calls with
    | nil => rfl
    | cons call calls ih =>
      obtain ⟨c, k, e, s, rfl⟩ := hcalls call List.mem_cons_self
      exact ih (fun call' h' => hcalls call' (List.mem_cons_of_mem _ h')) fun j => by
        simpa [callFor] using hnone j
  refine ⟨fun j => ?_, fun held hm e j => ?_⟩
  · rw [hnone, hsame]
    rfl
  · rw [hheld, hsame]
    exact hm e j

theorem tells_dropOld (h : m.Kept exchangeOf) (correlationId : Nat) (new : List Nat) (i : Nat) :
    Tells exchangeOf m (dropOld correlationId new m i).2 (dropOld correlationId new m i).1 := by
  obtain ⟨heq, -⟩ | ⟨it, hit, -, ⟨-, heq⟩ | ⟨-, heq⟩⟩ := dropOld_cases h correlationId new i
  · rw [heq]; exact .nil m
  · rw [heq]; exact tells_unsubscribe hit
  · rw [heq]; exact tells_update hit _ fun _ hcall => absurd hcall List.not_mem_nil

theorem tells_wantNew (h : m.Kept exchangeOf) (correlationId : Nat) {d : SubscribeRequest}
    (hd : m.findAdapter d.exchange = some (exchangeOf d.instrumentId)) :
    Tells exchangeOf m (wantNew correlationId m d).2 (wantNew correlationId m d).1 := by
  obtain ⟨it, hit, heq⟩ | ⟨hnone, heq⟩ := wantNew_cases h correlationId hd
  · rw [heq]
    refine tells_update hit _ fun call hcall => ?_
    exact ⟨_, _, _, _, List.mem_singleton.mp hcall⟩
  · rw [heq]; exact tells_subscribe hnone _ _ _ _ _

/-! ## One batch -/

/-- Every entry names the adapter of its instrument's exchange. -/
def Known (adapters : List String) (exchangeOf : Nat → String) (b : SubscribeBatch) : Prop :=
  ∀ d ∈ b.desired, d.exchange ∈ adapters ∧ d.exchange = exchangeOf d.instrumentId

/-- The invariant between batches: a consumer is among an instrument's wanters when its own set
has the instrument. -/
structure Counted (adapters : List String) (exchangeOf : Nat → String) (m : SubscriptionManager) :
    Prop where
  kept : m.Kept exchangeOf
  wants : ∀ c i, m.Wants c i ↔ i ∈ m.prevSet c
  adapters_eq : m.adapters = adapters

theorem counted_empty (adapters : List String) (exchangeOf : Nat → String) :
    Counted adapters exchangeOf { adapters := adapters } where
  kept := ⟨fun _ _ h => by simp at h, fun _ _ h => by simp at h⟩
  wants := by simp [Wants, prevSet]
  adapters_eq := rfl

theorem findAdapter_of_mem {exchange : String} (h : exchange ∈ m.adapters) :
    m.findAdapter exchange = some exchange := by
  unfold findAdapter
  cases hf : m.adapters.find? (exchange == ·) with
  | none =>
    have hnot := List.find?_eq_none.mp hf exchange h
    simp at hnot
  | some adapter =>
    have heq := List.find?_some hf
    rw [beq_iff_eq.mp heq]

theorem adapters_dropOld (correlationId : Nat) (new : List Nat) (m : SubscriptionManager)
    (i : Nat) :
    (dropOld correlationId new m i).1.adapters = m.adapters ∧
      (dropOld correlationId new m i).1.perConsumer = m.perConsumer := by
  unfold dropOld
  split
  · exact ⟨rfl, rfl⟩
  · split
    · exact ⟨rfl, rfl⟩
    · dsimp only
      split <;> exact ⟨rfl, rfl⟩

theorem adapters_wantNew (correlationId : Nat) (m : SubscriptionManager) (d : SubscribeRequest) :
    (wantNew correlationId m d).1.adapters = m.adapters ∧
      (wantNew correlationId m d).1.perConsumer = m.perConsumer := by
  unfold wantNew
  split <;> exact ⟨rfl, rfl⟩

/-- The first loop: the consumer is taken off what it wanted and no longer wants. -/
theorem dropped_spec (h : m.Kept exchangeOf) (correlationId : Nat) (new old : List Nat) :
    let m' := Machine.exec (dropOld correlationId new) m old
    m'.Kept exchangeOf ∧ m'.adapters = m.adapters ∧ m'.perConsumer = m.perConsumer ∧
      (∀ c i, m'.Wants c i ↔ m.Wants c i ∧ ¬(c = correlationId ∧ i ∈ old ∧ i ∉ new)) ∧
      Tells exchangeOf m (Machine.outputs (dropOld correlationId new) m old) m' := by
  induction old generalizing m with
  | nil => exact ⟨h, rfl, rfl, by simp [Machine.exec], .nil m⟩
  | cons i old ih =>
    obtain ⟨hkept, hadapters, hper, hwants, htells⟩ := ih (h.dropOld correlationId new i)
    have hfix := adapters_dropOld correlationId new m i
    refine ⟨hkept, hadapters.trans hfix.1, hper.trans hfix.2, fun c j => ?_,
      (tells_dropOld h correlationId new i).append htells⟩
    rw [Machine.exec_cons, hwants, wants_dropOld h, List.mem_cons]
    tauto

/-- The second loop: the consumer is put on everything it names. -/
theorem wanted_spec (h : m.Kept exchangeOf) {correlationId : Nat} {desired : List SubscribeRequest}
    (hknown : Known m.adapters exchangeOf ⟨correlationId, desired⟩) :
    let m' := Machine.exec (wantNew correlationId) m desired
    m'.Kept exchangeOf ∧ m'.adapters = m.adapters ∧ m'.perConsumer = m.perConsumer ∧
      (∀ c i, m'.Wants c i ↔
        m.Wants c i ∨ (c = correlationId ∧ ∃ d ∈ desired, i = d.instrumentId)) ∧
      Tells exchangeOf m (Machine.outputs (wantNew correlationId) m desired) m' := by
  induction desired generalizing m with
  | nil => exact ⟨h, rfl, rfl, by simp [Machine.exec], .nil m⟩
  | cons d desired ih =>
    obtain ⟨hmem, hhome⟩ := hknown d List.mem_cons_self
    have hd : m.findAdapter d.exchange = some (exchangeOf d.instrumentId) := by
      rw [findAdapter_of_mem hmem, hhome]
    have hfix := adapters_wantNew correlationId m d
    have hrest : Known (wantNew correlationId m d).1.adapters exchangeOf
        ⟨correlationId, desired⟩ := by
      rw [hfix.1]
      exact fun d' hd' => hknown d' (List.mem_cons_of_mem d hd')
    obtain ⟨hkept, hadapters, hper, hwants, htells⟩ := ih (h.wantNew correlationId hd) hrest
    refine ⟨hkept, hadapters.trans hfix.1, hper.trans hfix.2, fun c j => ?_,
      (tells_wantNew h correlationId hd).append htells⟩
    rw [Machine.exec_cons, hwants, wants_wantNew h correlationId hd]
    simp only [List.mem_cons, exists_eq_or_imp]
    tauto

/-- **One batch** keeps the counts, tells the adapters what changed, and replaces the set of its
consumer alone. -/
theorem applyRequests_spec {adapters : List String} (h : Counted adapters exchangeOf m)
    {b : SubscribeBatch} (hknown : Known adapters exchangeOf b) :
    Counted adapters exchangeOf (applyRequests m b).1 ∧
      Tells exchangeOf m (applyRequests m b).2 (applyRequests m b).1 ∧
      ∀ c, (applyRequests m b).1.prevSet c =
        if c = b.correlationId then newSet b.desired else m.prevSet c := by
  obtain ⟨hkept₁, hadapters₁, hper₁, hwants₁, htells₁⟩ :=
    dropped_spec h.kept b.correlationId (newSet b.desired) (m.prevSet b.correlationId)
  -- committing the set touches neither the entries nor the adapters
  have hkept : (m.dropped b).Kept exchangeOf := ⟨hkept₁.wanted, hkept₁.home⟩
  have hadapters : (m.dropped b).adapters = adapters := hadapters₁.trans h.adapters_eq
  obtain ⟨hkept₂, hadapters₂, hper₂, hwants₂, htells₂⟩ :=
    wanted_spec hkept (by rw [hadapters]; exact hknown)
  have hsets : ∀ c, (applyRequests m b).1.prevSet c =
      if c = b.correlationId then newSet b.desired else m.prevSet c := by
    intro c
    have hper : (applyRequests m b).1.perConsumer =
        m.perConsumer.insert b.correlationId (newSet b.desired) :=
      hper₂.trans (congrArg (AList.insert _ _) hper₁)
    rw [prevSet, hper, Table.lookup_insert_eq]
    split
    · rfl
    · rfl
  refine ⟨⟨hkept₂, fun c i => ?_, hadapters₂.trans hadapters⟩, ?_, hsets⟩
  · rw [hsets c]
    refine (hwants₂ c i).trans ?_
    rw [show (m.dropped b).Wants c i ↔ _ from hwants₁ c i, h.wants c i]
    have hnew : i ∈ newSet b.desired ↔ ∃ d ∈ b.desired, i = d.instrumentId := by
      simp [newSet, eq_comm]
    rw [← hnew]
    by_cases hc : c = b.correlationId
    · subst hc
      simp only [true_and, if_true]
      tauto
    · simp [hc]
  · have htold : Tells exchangeOf m _ (m.dropped b) := ⟨htells₁.switches, htells₁.mirrors⟩
    exact htold.append htells₂

/-! ## Runs of batches -/

/-- The desired set a consumer sent last. -/
def latestDesired (batches : List SubscribeBatch) (c : Nat) : List SubscribeRequest :=
  ((batches.filter fun b => b.correlationId == c).getLast?).elim [] SubscribeBatch.desired

/-- Whether a call is an acknowledgement. -/
def isAck : ManagerCall → Bool
  | .publishAck .. => true
  | _ => false

/-- The acknowledgements that a batch asks for: one for each entry. -/
def acksOf (b : SubscribeBatch) : List ManagerCall :=
  b.desired.map fun d => .publishAck b.correlationId d.instrumentId d.exchange .OK

theorem acks_dropOld (correlationId : Nat) (new old : List Nat) (m : SubscriptionManager) :
    (Machine.outputs (dropOld correlationId new) m old).filter isAck = [] := by
  rw [List.filter_eq_nil_iff, Machine.forall_outputs_iff_alongRun]
  refine .of_forall_mem (fun i _ s => ?_) m
  unfold dropOld
  split
  · simp
  · split
    · simp
    · dsimp only
      split
      · split <;> simp [isAck]
      · simp

theorem acks_wantNew {correlationId : Nat} {desired : List SubscribeRequest}
    (hmem : ∀ d ∈ desired, d.exchange ∈ m.adapters) :
    (Machine.outputs (wantNew correlationId) m desired).filter isAck =
      acksOf ⟨correlationId, desired⟩ := by
  induction desired generalizing m with
  | nil => rfl
  | cons d desired ih =>
    have hrest : ∀ d' ∈ desired, d'.exchange ∈ (wantNew correlationId m d).1.adapters := by
      rw [(adapters_wantNew correlationId m d).1]
      exact fun d' hd' => hmem d' (List.mem_cons_of_mem d hd')
    have hone : (wantNew correlationId m d).2.filter isAck =
        [.publishAck correlationId d.instrumentId d.exchange .OK] := by
      simp only [wantNew, findAdapter_of_mem (hmem d List.mem_cons_self)]
      split <;> rfl
    rw [Machine.outputs, List.filter_append, hone, ih hrest]
    rfl

theorem acks_applyRequests {adapters : List String} (h : Counted adapters exchangeOf m)
    {b : SubscribeBatch} (hknown : Known adapters exchangeOf b) :
    (applyRequests m b).2.filter isAck = acksOf b := by
  have hadapters : (m.dropped b).adapters = adapters :=
    (dropped_spec h.kept b.correlationId (newSet b.desired)
      (m.prevSet b.correlationId)).2.1.trans h.adapters_eq
  show List.filter isAck (_ ++ _) = _
  rw [List.filter_append, acks_dropOld, List.nil_append]
  refine acks_wantNew ?_
  rw [hadapters]
  exact fun d hd => (hknown d hd).1

/-- A run from a counted state: what it keeps, tells, remembers and acknowledges. -/
theorem run_spec {adapters : List String} {batches : List SubscribeBatch}
    (h : Counted adapters exchangeOf m) (hknown : ∀ b ∈ batches, Known adapters exchangeOf b) :
    Counted adapters exchangeOf (Machine.exec applyRequests m batches) ∧
      Tells exchangeOf m (Machine.outputs applyRequests m batches)
        (Machine.exec applyRequests m batches) ∧
      (∀ c, (Machine.exec applyRequests m batches).prevSet c =
        ((batches.filter fun b => b.correlationId == c).getLast?).elim (m.prevSet c) fun b =>
          newSet b.desired) ∧
      (Machine.outputs applyRequests m batches).filter isAck = batches.flatMap acksOf := by
  induction batches generalizing m with
  | nil => exact ⟨h, .nil m, fun _ => rfl, rfl⟩
  | cons b batches ih =>
    have hb := hknown b List.mem_cons_self
    obtain ⟨hone, htells₁, hset₁⟩ := applyRequests_spec h hb
    obtain ⟨hrun, htells, hset, hacks⟩ := ih hone fun b' h' => hknown b' (List.mem_cons_of_mem b h')
    refine ⟨hrun, htells₁.append htells, fun c => ?_, ?_⟩
    · rw [Machine.exec_cons, hset, hset₁, List.filter_cons]
      by_cases hc : b.correlationId = c
      · rw [if_pos hc.symm, if_pos (beq_iff_eq.mpr hc), List.getLast?_cons]
        cases (batches.filter fun b => b.correlationId == c).getLast? <;> rfl
      · rw [if_neg (Ne.symm hc), if_neg (mt beq_iff_eq.mp hc)]
    · rw [Machine.outputs, List.filter_append, acks_applyRequests h hb, hacks, List.flatMap_cons]

/-- **The feeds follow the consumers.** Whatever batches the consumers send, with known exchanges
and a fixed exchange for every instrument: the adapters hold exactly the instruments of the sets
that the consumers sent last, each instrument's calls alternate, a `subscribe` first, and the
acknowledgements are one for each entry of each batch. -/
theorem subscriptions_follow_desired_sets {adapters : List String} {exchangeOf : Nat → String}
    {batches : List SubscribeBatch} (hknown : ∀ b ∈ batches, Known adapters exchangeOf b) :
    let calls := Machine.outputs applyRequests { adapters := adapters } batches
    (∀ exchange i, (exchange, i) ∈ calls.foldl onVenue ∅ ↔
      ∃ c, ∃ d ∈ latestDesired batches c, d.exchange = exchange ∧ d.instrumentId = i) ∧
    (∀ i, ∃ held, Machine.Switches false (calls.filterMap (callFor i)) held) ∧
    calls.filter isAck = batches.flatMap acksOf := by
  obtain ⟨hcounted, htells, hsets, hacks⟩ := run_spec (counted_empty adapters exchangeOf) hknown
  have hempty : Mirrors exchangeOf { adapters := adapters } ∅ := by
    intro exchange i
    simp [isActive]
  refine ⟨fun exchange i => ?_, fun i => ⟨_, htells.switches i⟩, hacks⟩
  -- active, wanted, in somebody's set, named by somebody's last batch
  have hlatest : ∀ c, i ∈ (Machine.exec applyRequests { adapters := adapters } batches).prevSet c ↔
      ∃ d ∈ latestDesired batches c, d.instrumentId = i := by
    intro c
    rw [hsets c, latestDesired]
    cases (batches.filter fun b => b.correlationId == c).getLast? with
    | none => simp [prevSet]
    | some b => simp [newSet]
  have hhome : ∀ c, ∀ d ∈ latestDesired batches c, d.exchange = exchangeOf d.instrumentId := by
    intro c d hd
    rw [latestDesired] at hd
    cases hlast : (batches.filter fun b => b.correlationId == c).getLast? with
    | none => simp [hlast] at hd
    | some b =>
      have hmem : b ∈ batches := (List.mem_filter.mp (List.mem_of_getLast? hlast)).1
      rw [hlast] at hd
      exact (hknown b hmem d hd).2
  rw [htells.mirrors ∅ hempty exchange i, hcounted.kept.isActive_iff]
  simp only [hcounted.wants, hlatest]
  constructor
  · rintro ⟨⟨c, d, hd, rfl⟩, rfl⟩
    exact ⟨c, d, hd, hhome c d hd, rfl⟩
  · rintro ⟨c, d, hd, rfl, rfl⟩
    exact ⟨⟨c, d, hd, rfl⟩, hhome c d hd⟩

/-- Two consumers share one instrument; the first drops it, then asks for it and another twice. -/
theorem subscriptions_follow_desired_sets_shared :
    let btc : SubscribeRequest := ⟨1001, "BINANCE", "BTCUSDT", 0⟩
    let eth : SubscribeRequest := ⟨1002, "OKX", "ETH-USDT-SWAP", 5⟩
    let batches : List SubscribeBatch := [⟨10, [btc]⟩, ⟨20, [btc]⟩, ⟨10, []⟩, ⟨10, [eth, eth, btc]⟩]
    let calls := Machine.outputs applyRequests { adapters := ["BINANCE", "OKX"] } batches
    calls.filter isAck = batches.flatMap acksOf ∧
      calls.filterMap (callFor 1001) = [true] ∧ calls.filterMap (callFor 1002) = [true] := by
  intro btc eth batches calls
  have hknown : ∀ b ∈ batches,
      Known ["BINANCE", "OKX"] (fun i => if i = 1001 then "BINANCE" else "OKX") b := by
    simp [batches, Known, btc, eth]
  exact ⟨(subscriptions_follow_desired_sets hknown).2.2, by decide, by decide⟩

end SubscriptionManager

end BptCore.MdGateway
