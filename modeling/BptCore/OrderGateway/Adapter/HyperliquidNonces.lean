import BptCore.Lib.RetryLoop
import Mathlib.Data.UInt

/-!
# The nonces of the Hyperliquid signer

The venue refuses a nonce that it has seen. `next_nonce` takes the clock in milliseconds, or the
last nonce and one more when the clock is not past it, in a retry loop on the last nonce.

* **`nextNonce`** — what a call makes of its clock reading and of the last nonce.
* **`nonces_increasing`** — whoever calls, and whatever the clock does, the nonces increase.
-/

namespace BptCore.OrderGateway.HyperliquidNonces

open RetryLoop (State Event Done)

def nextNonce (nowMs prev : UInt64) : UInt64 :=
  if nowMs < prev + 1 then prev + 1 else nowMs

variable {Thread : Type*} [DecidableEq Thread]

/-- `last_nonce_` before the first call. -/
def start : State Thread UInt64 UInt64 where
  shared := 0

/-- A call begins with its clock reading. -/
def step (s : State Thread UInt64 UInt64) (e : Event Thread UInt64) :
    State Thread UInt64 UInt64 × List (Done Thread UInt64 UInt64) :=
  RetryLoop.step nextNonce s e

theorem le_nextNonce (nowMs prev : UInt64) : nowMs ≤ nextNonce nowMs prev := by
  unfold nextNonce
  split
  · next hlt => exact UInt64.le_of_lt hlt
  · exact UInt64.le_refl nowMs

theorem lt_nextNonce {prev : UInt64} (h : prev < 0xffffffffffffffff) (nowMs : UInt64) :
    prev < nextNonce nowMs prev := by
  -- short of the last number, one more does not wrap
  have hsucc : prev < prev + 1 := by
    rw [UInt64.lt_iff_toNat_lt] at h ⊢
    have hmax : (0xffffffffffffffff : UInt64).toNat = 2 ^ 64 - 1 := rfl
    rw [UInt64.toNat_add]
    show prev.toNat < (prev.toNat + 1) % 2 ^ 64
    omega
  unfold nextNonce
  split
  · exact hsucc
  · next hge => exact UInt64.lt_of_lt_of_le hsucc (UInt64.not_lt.mp hge)

/-- Calls one after another, up to the last nonce there is. -/
theorem sequential_increasing {last : UInt64} (hlast : last < 0xffffffffffffffff)
    {clocks : List UInt64}
    (h : ∀ n ∈ RetryLoop.sequential nextNonce last clocks, n < 0xffffffffffffffff) :
    (∀ n ∈ RetryLoop.sequential nextNonce last clocks, last < n) ∧
      (RetryLoop.sequential nextNonce last clocks).Pairwise (· < ·) := by
  induction clocks generalizing last with
  | nil => exact ⟨fun n hn => absurd hn List.not_mem_nil, List.Pairwise.nil⟩
  | cons nowMs clocks ih =>
    have hnext := h _ List.mem_cons_self
    have hlt := lt_nextNonce hlast nowMs
    obtain ⟨hall, hpair⟩ := ih hnext fun n hn => h n (List.mem_cons_of_mem _ hn)
    refine ⟨List.forall_mem_cons.mpr ⟨hlt, fun n hn => UInt64.lt_trans hlt (hall n hn)⟩, ?_⟩
    exact List.pairwise_cons.mpr ⟨hall, hpair⟩

/-- **The nonces increase.** In any interleaving of the steps of any threads, with any clock, the
nonces below the last one there is are different, increase in the order of the exchanges, and are no
earlier than the clock readings of their calls. -/
theorem nonces_increasing (events : List (Event Thread UInt64))
    (h : ∀ d ∈ Machine.outputs step start events, d.value < 0xffffffffffffffff) :
    ((Machine.outputs step start events).map Done.value).Nodup ∧
      (Machine.outputs step start events).Pairwise (fun d d' => d.value < d'.value) ∧
      ∀ d ∈ Machine.outputs step start events, d.arg ≤ d.value := by
  have hseq : (Machine.outputs step start events).map Done.value =
      RetryLoop.sequential nextNonce 0 ((Machine.outputs step start events).map Done.arg) :=
    RetryLoop.values_eq_sequential start events
  have hsmall : ∀ n ∈ (Machine.outputs step start events).map Done.value,
      n < 0xffffffffffffffff := by
    intro n hn
    obtain ⟨d, hd, rfl⟩ := List.mem_map.mp hn
    exact h d hd
  have hpair : ((Machine.outputs step start events).map Done.value).Pairwise (· < ·) := by
    rw [hseq] at hsmall ⊢
    exact (sequential_increasing (by decide) hsmall).2
  exact ⟨hpair.imp fun hlt => UInt64.ne_of_lt hlt, List.pairwise_map.mp hpair,
    RetryLoop.forall_done le_nextNonce start events⟩

/-- Two threads read the clock at 5; the second one's exchange fails twice. Then the clock is back
at 3. -/
def contended : List (Event Nat UInt64) :=
  [.begin 0 5, .begin 1 5, .load 0, .load 1, .exchange 0 false, .exchange 1 false,
    .exchange 1 true, .exchange 1 false, .begin 0 3, .load 0, .exchange 0 false]

theorem nonces_increasing_contended :
    Machine.outputs step start contended = [⟨0, 5, 5⟩, ⟨1, 5, 6⟩, ⟨0, 3, 7⟩] ∧
      ((Machine.outputs step start contended).map Done.value).Nodup :=
  ⟨by decide, (nonces_increasing contended (by decide)).1⟩

end BptCore.OrderGateway.HyperliquidNonces
