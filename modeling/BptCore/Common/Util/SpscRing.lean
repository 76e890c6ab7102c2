import BptCore.Lib.Machine
import BptCore.Lib.RingLog
import Mathlib.Data.List.Basic

/-!
# Queues and rings between a producer and a consumer

The frame queue is a ring of fixed-size slots. What either side sees of it is the list of the
occupied slots, oldest first. `try_push` and `try_pop` of the two lock-free queues are then the loads
and stores they are made of, so that the turns of the two threads interleave at every access to the
shared memory. The indices are 64 bits wide and wrap around.

* **`SpscQueue.tryPush`** — refuses a payload that exceeds a slot, and any when the ring is full.
* **`SpscQueue.tryPop`** — the oldest slot.
* **`Ring`** — mask, full test and admission of a queue; **`ExecEventQueue.ring`** and
  **`SpscQueue.ring`** are the two.
* **`Ring.step`** — the next access of one of the threads.
* **`Ring.Safe`** — which slots hold what, wherever the threads stand.
* **`rings_are_fifo`** — what is popped is what was pushed, and no slot is written too early.
* **`SpscQueue.tryPush_of_returned`**, **`SpscQueue.tryPop_of_returned`** — push and pop return what
  the queue of the unread slots answers.
-/

namespace BptCore.Common

/-! ## The frame queue -/

structure SpscQueue (α : Type*) (capacity maxPayloadBytes : Nat) where
  slots : List α := []
  fits : slots.length ≤ capacity := by simp

namespace SpscQueue

variable {α : Type*} {capacity maxPayloadBytes : Nat}

def tryPush (q : SpscQueue α capacity maxPayloadBytes) (slot : α) (payloadSize : Nat) :
    Option (SpscQueue α capacity maxPayloadBytes) :=
  if payloadSize > maxPayloadBytes then none
  else if h : q.slots.length < capacity then
    some ⟨q.slots ++ [slot], by rw [List.length_append]; exact h⟩
  else none

def tryPop (q : SpscQueue α capacity maxPayloadBytes) :
    Option (α × SpscQueue α capacity maxPayloadBytes) :=
  match hslots : q.slots with
  | [] => none
  | slot :: slots => some (slot, ⟨slots, by
      have hfits := q.fits
      rw [hslots, List.length_cons] at hfits
      exact Nat.le_of_succ_le hfits⟩)

end SpscQueue

/-! ## Rings -/

/-- What the queues differ in. `full` is the test of the producer, on head and tail. -/
structure Ring (α : Type*) where
  logCapacity : Fin 64
  mask : UInt64
  full : UInt64 → UInt64 → Bool
  admits : α → Bool
  toNat_mask : mask.toNat = 2 ^ logCapacity.val - 1
  full_iff : ∀ h t, full h t = true ↔ 2 ^ logCapacity.val ≤ (h - t).toNat

/-! ## The two queues -/

theorem two_pow_lt (k : Fin 64) : 2 ^ k.val < 2 ^ 64 := Nat.pow_lt_pow_right (by decide) k.isLt

/-- `capacity - 1`. -/
def maskOf (k : Fin 64) : UInt64 := UInt64.ofNat (2 ^ k.val) - 1

theorem toNat_maskOf (k : Fin 64) : (maskOf k).toNat = 2 ^ k.val - 1 := by
  have hpos := Nat.two_pow_pos k.val
  have hlt := two_pow_lt k
  unfold maskOf
  rw [UInt64.toNat_sub, WrappingIndex.toNat_ofNat, Nat.mod_eq_of_lt hlt]
  show (2 ^ 64 - 1 + 2 ^ k.val) % 2 ^ 64 = _
  omega

namespace ExecEventQueue

/-- `ExecEventQueue` of capacity `2 ^ k`. -/
def ring (Event : Type*) (k : Fin 64) : Ring Event where
  logCapacity := k
  mask := maskOf k
  full h t := h - t > maskOf k
  admits _ := true
  toNat_mask := toNat_maskOf k
  full_iff h t := by
    have hpos := Nat.two_pow_pos k.val
    rw [decide_eq_true_iff, gt_iff_lt, UInt64.lt_iff_toNat_lt, toNat_maskOf]
    omega

end ExecEventQueue

namespace SpscQueue

/-- A slot: the time and as many bytes as `len` says. -/
structure Slot where
  recvNs : UInt64
  data : List UInt8
  deriving DecidableEq, Repr

/-- `SpscQueue` of capacity `2 ^ k`. A payload that exceeds a slot is refused at once. -/
def ring (k : Fin 64) (maxPayloadBytes : Nat) : Ring Slot where
  logCapacity := k
  mask := maskOf k
  full h t := h - t ≥ UInt64.ofNat (2 ^ k.val)
  admits slot := !(slot.data.length > maxPayloadBytes)
  toNat_mask := toNat_maskOf k
  full_iff h t := by
    rw [decide_eq_true_iff, ge_iff_le, UInt64.le_iff_toNat_le, WrappingIndex.toNat_ofNat,
      Nat.mod_eq_of_lt (two_pow_lt k)]

end SpscQueue

/-! ## The threads -/

namespace Ring

variable {α : Type*}

/-- Where the producer stands in `try_push`, with what it has loaded. -/
inductive Producer (α : Type*) where
  | idle
  | loadTail (v : α) (h : UInt64)
  | writeSlot (v : α) (h : UInt64)
  | storeHead (v : α) (h : UInt64)

/-- Where the consumer stands in `try_pop`. -/
inductive Consumer where
  | idle
  | loadHead (t : UInt64)
  | readSlot (t : UInt64)
  | storeTail (t : UInt64)

/-- The shared memory and the threads. `held` marks the slots that were written and that the
consumer has not given back; it is not part of the program. -/
structure State (α : Type*) where
  head : UInt64
  tail : UInt64
  slots : Nat → α
  producer : Producer α := .idle
  consumer : Consumer := .idle
  held : Nat → Bool := fun _ => false

/-- Whose turn it is. A producer that stands still calls `try_push` with the value. -/
inductive Turn (α : Type*) where
  | producer (v : α)
  | consumer

inductive Output (α : Type*) where
  | pushReturned (v : α) (ok : Bool)
  | read (v : α)
  | popReturned (ok : Bool)

variable (q : Ring α)

/-- `slots_[i & mask_]`. -/
def slotOf (i : UInt64) : Nat := (i &&& q.mask).toNat

def produce (v : α) (s : State α) : State α × List (Output α) :=
  match s.producer with
  | .idle =>
    if !q.admits v then (s, [.pushReturned v false])
    else ({ s with producer := .loadTail v s.head }, [])
  | .loadTail v h =>
    if q.full h s.tail then ({ s with producer := .idle }, [.pushReturned v false])
    else ({ s with producer := .writeSlot v h }, [])
  | .writeSlot v h =>
    ({ s with
        slots := Function.update s.slots (q.slotOf h) v
        held := Function.update s.held (q.slotOf h) true
        producer := .storeHead v h }, [])
  | .storeHead v h =>
    ({ s with head := h + 1, producer := .idle }, [.pushReturned v true])

def consume (s : State α) : State α × List (Output α) :=
  match s.consumer with
  | .idle => ({ s with consumer := .loadHead s.tail }, [])
  | .loadHead t =>
    if s.head = t then ({ s with consumer := .idle }, [.popReturned false])
    else ({ s with consumer := .readSlot t }, [])
  | .readSlot t => ({ s with consumer := .storeTail t }, [.read (s.slots (q.slotOf t))])
  | .storeTail t =>
    ({ s with
        tail := t + 1
        held := Function.update s.held (q.slotOf t) false
        consumer := .idle }, [.popReturned true])

/-- One access to the shared memory. -/
def step (s : State α) : Turn α → State α × List (Output α)
  | .producer v => q.produce v s
  | .consumer => q.consume s

/-- Both indices at the same number, all slots free. -/
def start (index : Nat) (slots : Nat → α) : State α where
  head := UInt64.ofNat index
  tail := UInt64.ofNat index
  slots := slots

/-- The values whose push returned true. -/
def pushed (out : List (Output α)) : List α :=
  out.filterMap fun
    | .pushReturned v true => some v
    | _ => none

def popped (out : List (Output α)) : List α :=
  out.filterMap fun
    | .read v => some v
    | _ => none

/-- The slot that is written is not one that the consumer has yet to read or is reading. -/
def WritesFreeSlot (s : State α) : Turn α → Prop
  | .producer _ =>
    match s.producer with
    | .writeSlot _ h => s.held (q.slotOf h) = false
    | _ => True
  | .consumer => True

/-! ## What the slots hold -/

def capacity : Nat := 2 ^ q.logCapacity.val

/-- The numbers of the pushes that were written to a slot, the one in progress included. -/
def written (s : State α) (pushes : Nat) : Nat :=
  match s.producer with
  | .storeHead _ _ => pushes + 1
  | _ => pushes

/-- Where the producer stands, after `ps` was pushed and `r` slots were given back. -/
def ProducerAt (index : Nat) (ps : List α) (r : Nat) (s : State α) : Prop :=
  match s.producer with
  | .idle => True
  | .loadTail _ h => h = s.head
  | .writeSlot _ h => h = s.head ∧ ps.length < r + q.capacity
  | .storeHead v h => h = s.head ∧ ps.length < r + q.capacity ∧
      s.slots ((index + ps.length) % q.capacity) = v

/-- Where the consumer stands, after `rs` was read. -/
def ConsumerAt (ps rs : List α) (r : Nat) (s : State α) : Prop :=
  match s.consumer with
  | .idle => rs.length = r
  | .loadHead t => t = s.tail ∧ rs.length = r
  | .readSlot t => t = s.tail ∧ rs.length = r ∧ r < ps.length
  | .storeTail t => t = s.tail ∧ rs.length = r + 1 ∧ r < ps.length

/-- The indices count pushes and slots given back from `index` on, and the slots in between hold
the values in between. -/
structure Safe (index : Nat) (ps rs : List α) (r : Nat) (s : State α) : Prop where
  head : s.head = UInt64.ofNat (index + ps.length)
  tail : s.tail = UInt64.ofNat (index + r)
  prefix_read : rs = ps.take rs.length
  le : r ≤ ps.length
  room : ps.length ≤ r + q.capacity
  slots : ∀ k x, r ≤ k → ps[k]? = some x → s.slots ((index + k) % q.capacity) = x
  held : ∀ i, s.held i = true →
    ∃ k, r ≤ k ∧ k < written s ps.length ∧ (index + k) % q.capacity = i
  producerAt : q.ProducerAt index ps r s
  consumerAt : ConsumerAt ps rs r s

theorem safe_start (index : Nat) (slots : Nat → α) : q.Safe index [] [] 0 (start index slots) where
  head := rfl
  tail := rfl
  prefix_read := rfl
  le := Nat.le_refl 0
  room := Nat.zero_le _
  slots k x _ hx := by simp at hx
  held i hi := absurd hi (by simp [start])
  producerAt := trivial
  consumerAt := rfl

variable {q} {index r : Nat} {ps rs : List α} {s : State α}

theorem capacity_lt : q.capacity < 2 ^ 64 := two_pow_lt q.logCapacity

theorem slotOf_ofNat (n : Nat) : q.slotOf (UInt64.ofNat n) = n % q.capacity :=
  WrappingIndex.and_mask (Nat.le_of_lt q.logCapacity.isLt) q.toNat_mask n

/-- The producer's test, on the numbers that the indices stand for. -/
theorem Safe.full_iff (h : q.Safe index ps rs r s) :
    q.full s.head s.tail = true ↔ q.capacity ≤ ps.length - r := by
  have hle := h.le
  have hroom := h.room
  have hcap := q.capacity_lt
  rw [q.full_iff, h.head, h.tail, WrappingIndex.sub_ofNat (by omega) (by omega)]
  show q.capacity ≤ _ ↔ _
  rw [show index + ps.length - (index + r) = ps.length - r by omega]

/-- The consumer's test. -/
theorem Safe.head_eq_tail_iff (h : q.Safe index ps rs r s) : s.head = s.tail ↔ ps.length = r := by
  have hle := h.le
  have hroom := h.room
  have hcap := q.capacity_lt
  rw [h.head, h.tail, WrappingIndex.ofNat_eq_iff (by omega) (by omega)]
  omega

/-- The slot of the next push, when it is admitted, is none that is held. -/
theorem Safe.not_held (h : q.Safe index ps rs r s) (hroom : ps.length < r + q.capacity)
    (hwritten : written s ps.length = ps.length) :
    s.held ((index + ps.length) % q.capacity) = false := by
  cases hheld : s.held ((index + ps.length) % q.capacity) with
  | false => rfl
  | true =>
    obtain ⟨k, hk, hlt, heq⟩ := h.held _ hheld
    rw [hwritten] at hlt
    exact absurd heq (RingLog.mod_ne (by omega) (by omega))

/-- **A turn of the producer.** -/
theorem Safe.produce (h : q.Safe index ps rs r s) (v : α) :
    q.Safe index (ps ++ pushed (q.produce v s).2) (rs ++ popped (q.produce v s).2) r
        (q.produce v s).1 ∧
      q.WritesFreeSlot s (.producer v) := by
  have hat := h.producerAt
  have hheld := h.held
  unfold ProducerAt at hat
  unfold Ring.produce WritesFreeSlot
  unfold written at hheld
  cases hpc : s.producer with
  | idle =>
    simp only [hpc] at hheld ⊢
    refine ⟨?_, trivial⟩
    split
    · simpa [pushed, popped] using h
    · simp only [pushed, popped, List.filterMap_nil, List.append_nil]
      exact { h with held := hheld, producerAt := rfl }
  | loadTail v h' =>
    simp only [hpc] at hat hheld ⊢
    subst hat
    refine ⟨?_, trivial⟩
    split
    · simp only [pushed, popped, List.filterMap_cons, List.filterMap_nil, List.append_nil]
      exact { h with held := hheld, producerAt := trivial }
    · next hfull =>
      simp only [pushed, popped, List.filterMap_nil, List.append_nil]
      have hroom := mt h.full_iff.mpr hfull
      have hle := h.le
      exact { h with held := hheld, producerAt := ⟨rfl, by omega⟩ }
  | writeSlot v h' =>
    simp only [hpc] at hat hheld ⊢
    obtain ⟨rfl, hroom⟩ := hat
    have hslot : q.slotOf s.head = (index + ps.length) % q.capacity := by
      rw [h.head, slotOf_ofNat]
    rw [hslot]
    refine ⟨?_, h.not_held hroom (by simp [written, hpc])⟩
    simp only [pushed, popped, List.filterMap_nil, List.append_nil]
    exact
      { h with
        slots := fun k x hk hx => by
          have hlt := (List.getElem?_eq_some_iff.mp hx).1
          show Function.update s.slots _ v _ = x
          rw [Function.update_of_ne (RingLog.mod_ne (by omega) (by omega))]
          exact h.slots k x hk hx
        held := fun i hi => by
          show ∃ k, r ≤ k ∧ k < ps.length + 1 ∧ _
          by_cases hi' : i = (index + ps.length) % q.capacity
          · exact ⟨ps.length, h.le, Nat.lt_succ_self _, hi'.symm⟩
          · have hold : Function.update s.held _ true i = true := hi
            rw [Function.update_of_ne hi'] at hold
            obtain ⟨k, hk, hlt, heq⟩ := hheld i hold
            exact ⟨k, hk, by omega, heq⟩
        producerAt := ⟨rfl, hroom, Function.update_self ..⟩ }
  | storeHead v h' =>
    simp only [hpc] at hat hheld ⊢
    obtain ⟨rfl, hroom, hv⟩ := hat
    refine ⟨?_, trivial⟩
    have hle := h.le
    have hlen : rs.length ≤ ps.length := by
      have hread := congrArg List.length h.prefix_read
      rw [List.length_take] at hread
      omega
    simp only [pushed, popped, List.filterMap_cons, List.filterMap_nil, List.append_nil]
    exact
      { head := by
          rw [List.length_append, List.length_singleton, ← Nat.add_assoc,
            WrappingIndex.ofNat_succ, ← h.head]
        tail := h.tail
        prefix_read := by
          rw [List.take_append_of_le_length hlen]
          exact h.prefix_read
        le := by rw [List.length_append]; omega
        room := by rw [List.length_append, List.length_singleton]; omega
        slots := fun k x hk hx => by
          rcases Nat.lt_or_ge k ps.length with hlt | hge
          · rw [List.getElem?_append_left hlt] at hx
            exact h.slots k x hk hx
          · have hklt := (List.getElem?_eq_some_iff.mp hx).1
            rw [List.length_append, List.length_singleton] at hklt
            obtain rfl : k = ps.length := by omega
            rw [List.getElem?_append_right (Nat.le_refl _), Nat.sub_self] at hx
            exact hv.trans (by simpa using hx)
        held := fun i hi => by
          show ∃ k, r ≤ k ∧ k < (ps ++ [v]).length ∧ _
          rw [List.length_append, List.length_singleton]
          exact hheld i hi
        producerAt := trivial
        consumerAt := by
          have hcons := h.consumerAt
          unfold ConsumerAt at hcons ⊢
          cases hc : s.consumer with
          | idle => simpa only [hc] using hcons
          | loadHead t => simpa only [hc] using hcons
          | readSlot t =>
            simp only [hc] at hcons ⊢
            exact ⟨hcons.1, hcons.2.1, by rw [List.length_append]; omega⟩
          | storeTail t =>
            simp only [hc] at hcons ⊢
            exact ⟨hcons.1, hcons.2.1, by rw [List.length_append]; omega⟩ }

/-- How many slots were given back. -/
def released (out : List (Output α)) : Nat :=
  out.countP fun
    | .popReturned ok => ok
    | _ => false

theorem ProducerAt.later (h : q.ProducerAt index ps r s) : q.ProducerAt index ps (r + 1) s := by
  unfold ProducerAt at h ⊢
  cases hpc : s.producer with
  | idle => trivial
  | loadTail v h' => simpa only [hpc] using h
  | writeSlot v h' =>
    simp only [hpc] at h ⊢
    exact ⟨h.1, by omega⟩
  | storeHead v h' =>
    simp only [hpc] at h ⊢
    exact ⟨h.1, by omega, h.2.2⟩

/-- **A turn of the consumer.** -/
theorem Safe.consume (h : q.Safe index ps rs r s) :
    q.Safe index (ps ++ pushed (q.consume s).2) (rs ++ popped (q.consume s).2)
      (r + released (q.consume s).2) (q.consume s).1 := by
  have hat := h.consumerAt
  unfold ConsumerAt at hat
  unfold Ring.consume
  cases hpc : s.consumer with
  | idle =>
    simp only [hpc, pushed, popped, released, List.filterMap_nil, List.append_nil,
      List.countP_nil, Nat.add_zero] at hat ⊢
    exact { h with consumerAt := ⟨rfl, hat⟩ }
  | loadHead t =>
    simp only [hpc] at hat ⊢
    obtain ⟨rfl, hread⟩ := hat
    split
    · simp only [pushed, popped, released, List.filterMap_cons, List.filterMap_nil,
        List.append_nil, List.countP_singleton, Bool.false_eq_true, if_false, Nat.add_zero]
      exact { h with consumerAt := hread }
    · next hne =>
      simp only [pushed, popped, released, List.filterMap_nil, List.append_nil, List.countP_nil,
        Nat.add_zero]
      have hle := h.le
      have hneq := mt h.head_eq_tail_iff.mpr hne
      exact { h with consumerAt := ⟨rfl, hread, by omega⟩ }
  | readSlot t =>
    simp only [hpc] at hat ⊢
    obtain ⟨rfl, hread, hlt⟩ := hat
    have hx : ps[r]? = some ps[r] := List.getElem?_eq_getElem hlt
    have htaken : rs = ps.take r := by rw [← hread]; exact h.prefix_read
    have hslot : s.slots (q.slotOf s.tail) = ps[r] := by
      rw [h.tail, slotOf_ofNat]
      exact h.slots r _ (Nat.le_refl r) hx
    simp only [hslot, pushed, popped, released, List.filterMap_cons, List.filterMap_nil,
      List.append_nil, List.countP_singleton, Bool.false_eq_true, if_false, Nat.add_zero]
    exact
      { h with
        prefix_read := by
          rw [List.length_append, List.length_singleton, hread, List.take_add_one, hx, ← htaken]
          rfl
        consumerAt := ⟨rfl, by rw [List.length_append, List.length_singleton, hread], hlt⟩ }
  | storeTail t =>
    simp only [hpc] at hat ⊢
    obtain ⟨rfl, hread, hlt⟩ := hat
    have hslot : q.slotOf s.tail = (index + r) % q.capacity := by
      rw [h.tail, slotOf_ofNat]
    simp only [hslot, pushed, popped, released, List.filterMap_cons, List.filterMap_nil,
      List.append_nil, List.countP_singleton, if_true]
    have hroom := h.room
    exact
      { head := h.head
        tail := by rw [← Nat.add_assoc, WrappingIndex.ofNat_succ, ← h.tail]
        prefix_read := h.prefix_read
        le := hlt
        room := by omega
        slots := fun k x hk hx => h.slots k x (Nat.le_of_succ_le hk) hx
        held := fun i hi => by
          have hold : Function.update s.held _ false i = true := hi
          by_cases hi' : i = (index + r) % q.capacity
          · rw [hi', Function.update_self] at hold
            exact absurd hold (by decide)
          · rw [Function.update_of_ne hi'] at hold
            obtain ⟨k, hk, hlt', heq⟩ := h.held i hold
            have hne : k ≠ r := by
              rintro rfl
              exact hi' heq.symm
            exact ⟨k, by omega, hlt', heq⟩
        producerAt := h.producerAt.later
        consumerAt := hread }

/-- **A turn of either thread.** -/
theorem Safe.step (h : q.Safe index ps rs r s) (turn : Turn α) :
    (∃ r', q.Safe index (ps ++ pushed (q.step s turn).2) (rs ++ popped (q.step s turn).2) r'
      (q.step s turn).1) ∧ q.WritesFreeSlot s turn := by
  cases turn with
  | producer v =>
    obtain ⟨hsafe, hfree⟩ := h.produce v
    exact ⟨⟨r, hsafe⟩, hfree⟩
  | consumer => exact ⟨⟨_, h.consume⟩, trivial⟩

/-- **Any interleaving.** -/
theorem Safe.run (h : q.Safe index ps rs r s) (turns : List (Turn α)) :
    (∃ r', q.Safe index (ps ++ pushed (Machine.outputs q.step s turns))
      (rs ++ popped (Machine.outputs q.step s turns)) r' (Machine.exec q.step s turns)) ∧
      Machine.AlongRun q.step q.WritesFreeSlot s turns := by
  induction turns generalizing ps rs r s with
  | nil =>
    refine ⟨⟨r, ?_⟩, trivial⟩
    simpa [Machine.outputs, Machine.exec, pushed, popped] using h
  | cons turn turns ih =>
    obtain ⟨⟨r', hsafe⟩, hfree⟩ := h.step turn
    obtain ⟨hrest, hfrees⟩ := ih hsafe
    refine ⟨?_, hfree, hfrees⟩
    have hpushed : pushed (Machine.outputs q.step s (turn :: turns)) =
        pushed (q.step s turn).2 ++
          pushed (Machine.outputs q.step (q.step s turn).1 turns) := List.filterMap_append
    have hpopped : popped (Machine.outputs q.step s (turn :: turns)) =
        popped (q.step s turn).2 ++
          popped (Machine.outputs q.step (q.step s turn).1 turns) := List.filterMap_append
    rw [hpushed, hpopped, ← List.append_assoc, ← List.append_assoc]
    exact hrest

/-- What is popped is a prefix of what was pushed, and no slot is written that is in use. -/
def Fifo (q : Ring α) (index : Nat) (slots : Nat → α) (turns : List (Turn α)) : Prop :=
  popped (Machine.outputs q.step (start index slots) turns) <+:
      pushed (Machine.outputs q.step (start index slots) turns) ∧
    Machine.AlongRun q.step q.WritesFreeSlot (start index slots) turns

theorem fifo (q : Ring α) (index : Nat) (slots : Nat → α) (turns : List (Turn α)) :
    q.Fifo index slots turns := by
  obtain ⟨⟨r, hsafe⟩, hfree⟩ := (q.safe_start index slots).run turns
  have htaken := hsafe.prefix_read
  rw [List.nil_append, List.nil_append] at htaken
  refine ⟨?_, hfree⟩
  rw [htaken]
  exact List.take_prefix _ _

/-! ## The queue of unread slots -/

/-- The value that is on its way into the ring. -/
def Producer.inFlight : Producer α → Option α
  | .idle => none
  | .loadTail v _ | .writeSlot v _ | .storeHead v _ => some v

/-- It is one that the queue admits. -/
def InFlightAdmitted (q : Ring α) (s : State α) : Prop :=
  ∀ v, s.producer.inFlight = some v → q.admits v = true

theorem InFlightAdmitted.step (h : q.InFlightAdmitted s) (turn : Turn α) :
    q.InFlightAdmitted (q.step s turn).1 := by
  cases turn with
  | producer v =>
    show q.InFlightAdmitted (q.produce v s).1
    unfold InFlightAdmitted at h ⊢
    unfold Ring.produce
    cases hpc : s.producer with
    | idle =>
      cases hadmits : q.admits v with
      | false => simp [hpc, Producer.inFlight]
      | true => simpa [Producer.inFlight] using hadmits
    | loadTail v h' =>
      rw [hpc] at h
      simp only
      split
      · simp [Producer.inFlight]
      · exact h
    | writeSlot v h' =>
      rw [hpc] at h
      exact h
    | storeHead v h' => simp [Producer.inFlight]
  | consumer =>
    have hsame : (q.consume s).1.producer = s.producer := by
      unfold Ring.consume
      split
      · rfl
      · split <;> rfl
      · rfl
      · rfl
    show ∀ v, (q.consume s).1.producer.inFlight = some v → _
    rw [hsame]
    exact h

end Ring

namespace SpscQueue

open Common.Ring

variable {k : Fin 64} {maxPayloadBytes index r : Nat} {ps rs : List Slot} {s : Ring.State Slot}

/-- The queue that the ring stands for: the slots that were pushed and not given back. -/
def unread (h : (ring k maxPayloadBytes).Safe index ps rs r s) :
    SpscQueue Slot (2 ^ k.val) maxPayloadBytes where
  slots := ps.drop r
  fits := by
    have hroom := h.room
    rw [List.length_drop]
    exact Nat.sub_le_iff_le_add'.mpr hroom

/-- A push returns what the queue answers, and leaves the queue that it leaves. -/
theorem tryPush_of_returned (h : (ring k maxPayloadBytes).Safe index ps rs r s)
    (hadmitted : (ring k maxPayloadBytes).InFlightAdmitted s) {v v' : Slot} {ok : Bool}
    (hout : .pushReturned v ok ∈ ((ring k maxPayloadBytes).produce v' s).2) :
    ((unread h).tryPush v v.data.length).map (·.slots)
      = if ok then some ((ps ++ [v]).drop r) else none := by
  have hle := h.le
  have hlen : (unread h).slots.length = ps.length - r := List.length_drop
  unfold Ring.produce at hout
  unfold tryPush
  cases hpc : s.producer with
  | idle =>
    simp only [hpc] at hout
    split at hout
    · next hlarge =>
      simp only [List.mem_singleton, Ring.Output.pushReturned.injEq] at hout
      obtain ⟨rfl, rfl⟩ := hout
      rw [if_pos (by simpa [ring] using hlarge)]
      rfl
    · exact absurd hout (by simp)
  | loadTail w h' =>
    have hat := h.producerAt
    unfold ProducerAt at hat
    simp only [hpc] at hout hat
    subst hat
    split at hout
    · next hfull =>
      simp only [List.mem_singleton, Ring.Output.pushReturned.injEq] at hout
      obtain ⟨rfl, rfl⟩ := hout
      have hcap := h.full_iff.mp hfull
      have hnone : ¬ (unread h).slots.length < 2 ^ k.val := by
        rw [hlen]
        exact Nat.not_lt.mpr hcap
      rw [dif_neg hnone]
      split <;> rfl
    · exact absurd hout (by simp)
  | writeSlot w h' =>
    simp only [hpc] at hout
    exact absurd hout (by simp)
  | storeHead w h' =>
    have hat := h.producerAt
    have hsmall := hadmitted w
    unfold ProducerAt at hat
    simp only [hpc] at hout hat hsmall
    obtain ⟨-, hroom, -⟩ := hat
    simp only [List.mem_singleton, Ring.Output.pushReturned.injEq] at hout
    obtain ⟨rfl, rfl⟩ := hout
    have hfits : (unread h).slots.length < 2 ^ k.val := by
      rw [hlen]
      exact Nat.sub_lt_left_of_lt_add hle hroom
    rw [if_neg (by simpa [ring, Producer.inFlight] using hsmall), dif_pos hfits, if_pos rfl,
      List.drop_append_of_le_length hle]
    rfl

theorem map_tryPop {α : Type*} {capacity : Nat} (a : SpscQueue α capacity maxPayloadBytes) :
    a.tryPop.map (fun p => (p.1, p.2.slots)) = a.slots.head?.map (fun x => (x, a.slots.tail)) := by
  unfold tryPop
  split
  · next hslots => rw [hslots]; rfl
  · next slot slots hslots => simp [hslots]

/-- A pop returns what the queue answers: the oldest slot, which was read, or nothing. -/
theorem tryPop_of_returned (h : (ring k maxPayloadBytes).Safe index ps rs r s) {ok : Bool}
    (hout : .popReturned ok ∈ ((ring k maxPayloadBytes).consume s).2) :
    (unread h).tryPop.map (fun p => (p.1, p.2.slots))
      = if ok then rs.getLast?.map (fun x => (x, ps.drop (r + 1))) else none := by
  have hat := h.consumerAt
  rw [map_tryPop]
  show (ps.drop r).head?.map (fun x => (x, (ps.drop r).tail)) = _
  unfold ConsumerAt at hat
  unfold Ring.consume at hout
  cases hpc : s.consumer with
  | idle =>
    simp only [hpc] at hout
    exact absurd hout (by simp)
  | loadHead t =>
    simp only [hpc] at hout hat
    obtain ⟨rfl, -⟩ := hat
    split at hout
    · next hempty =>
      simp only [List.mem_singleton, Ring.Output.popReturned.injEq] at hout
      subst hout
      rw [List.drop_eq_nil_of_le (Nat.le_of_eq (h.head_eq_tail_iff.mp hempty))]
      rfl
    · exact absurd hout (by simp)
  | readSlot t =>
    simp only [hpc] at hout
    exact absurd hout (by simp)
  | storeTail t =>
    simp only [hpc] at hout hat
    obtain ⟨-, hread, hlt⟩ := hat
    simp only [List.mem_singleton, Ring.Output.popReturned.injEq] at hout
    subst hout
    have htaken : rs = ps.take (r + 1) := by rw [← hread]; exact h.prefix_read
    have hlast : rs.getLast? = ps[r]? := by
      rw [List.getLast?_eq_getElem?, hread, htaken, List.getElem?_take_of_lt (by omega)]
      rfl
    rw [if_pos rfl, hlast, List.head?_drop, List.tail_drop]

end SpscQueue

/-- For either queue, any capacity, any index to start from, wrapping or not, and any interleaving
of the accesses of producer and consumer. -/
theorem rings_are_fifo (logCapacity : Fin 64) (index : Nat) :
    (∀ (Event : Type) (slots : Nat → Event) (turns : List (Ring.Turn Event)),
      (ExecEventQueue.ring Event logCapacity).Fifo index slots turns) ∧
    ∀ (maxPayloadBytes : Nat) (slots : Nat → SpscQueue.Slot)
      (turns : List (Ring.Turn SpscQueue.Slot)),
      (SpscQueue.ring logCapacity maxPayloadBytes).Fifo index slots turns :=
  ⟨fun _ => Ring.fifo _ index, fun _ => Ring.fifo _ index⟩

end BptCore.Common
