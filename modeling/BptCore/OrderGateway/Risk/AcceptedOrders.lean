import BptCore.Lib.Machine
import BptCore.Lib.RingLog
import BptCore.OrderGateway.Risk.RiskChecker

/-!
# The counters of the risk checker and the orders it accepted

A checker with trading enabled and fixed limits, called by a gateway whose clock does not run
backwards. The window's count and the ring of ids are to stand for the orders that were accepted:
how many in the current second, and which ids last.

* **`RiskRun`** — a checker with the orders it accepted so far.
* **`RiskChecker.check_cases`** — the outcomes of a call, and what each leaves behind.
* **`Faithful`** — count and ring agree with the accepted orders.
* **`check_answers_history`** — the answers of a whole run.
-/

namespace BptCore.OrderGateway

namespace RiskChecker

variable {lim : RiskLimits} {rc : RiskChecker}

variable (lim) in
/-- With trading enabled a call finds a duplicate, or is refused before the window is looked at,
after it, or because it is full, or claims its slot. -/
theorem check_cases (henabled : rc.tradingEnabled = true) (exchange : ExchangeId) (price : Int)
    (quantity orderId nowS : Nat) :
    (rc.dupRing.contains orderId = true ∧
      check lim rc exchange price quantity orderId nowS = (rc, .error .DUPLICATE_ORDER_ID)) ∨
    rc.dupRing.contains orderId = false ∧
      (check lim rc exchange price quantity orderId nowS = (rc, .error .RISK_REJECTED) ∨
      (lim.maxOrdersPerSecond ≤ (rc.rollWindow nowS).ordersThisWindow ∧
        check lim rc exchange price quantity orderId nowS
          = (rc.rollWindow nowS, .error .RATE_LIMITED)) ∨
      check lim rc exchange price quantity orderId nowS
        = (rc.rollWindow nowS, .error .RISK_REJECTED) ∨
      ((rc.rollWindow nowS).ordersThisWindow < lim.maxOrdersPerSecond ∧
        check lim rc exchange price quantity orderId nowS
          = ((rc.rollWindow nowS).claim exchange orderId, .ok ()))) := by
  unfold check
  rw [if_neg (by rw [henabled]; decide)]
  cases hdup : rc.dupRing.contains orderId with
  | true => exact .inl ⟨rfl, rfl⟩
  | false =>
    refine .inr ⟨rfl, ?_⟩
    rw [if_neg (by decide)]
    split
    · exact .inl rfl
    by_cases hrate : (rc.rollWindow nowS).ordersThisWindow ≥ lim.maxOrdersPerSecond
    · simp only [if_pos hrate]
      exact .inr (.inl ⟨hrate, trivial⟩)
    simp only [if_neg hrate]
    have hroom : (rc.rollWindow nowS).ordersThisWindow < lim.maxOrdersPerSecond :=
      Nat.lt_of_not_ge hrate
    split
    · exact .inr (.inr (.inr ⟨hroom, rfl⟩))
    split
    · exact .inr (.inr (.inl rfl))
    split
    · exact .inr (.inr (.inl rfl))
    · exact .inr (.inr (.inr ⟨hroom, rfl⟩))

theorem rollWindow_rateWindowS (nowS : Nat) : (rc.rollWindow nowS).rateWindowS = nowS := by
  unfold rollWindow
  split
  · rfl
  · next h => exact not_not.mp h

/-- The tokens of a second that are gone: the count is of the window's second. -/
def tokensUsed (rc : RiskChecker) (second : Nat) : Nat :=
  if rc.rateWindowS = second then rc.ordersThisWindow else 0

/-- A new window starts without a token gone, as far as the clock can still come. -/
theorem tokensUsed_rollWindow {nowS second : Nat} (hwindow : rc.rateWindowS ≤ nowS)
    (hsecond : nowS ≤ second) : (rc.rollWindow nowS).tokensUsed second = rc.tokensUsed second := by
  unfold rollWindow
  split
  · next hne =>
    unfold tokensUsed
    rw [if_neg (show ¬ rc.rateWindowS = second by omega)]
    split <;> rfl
  · rfl

end RiskChecker

/-! ## The run -/

/-- A checker with the orders that it accepted, (id, second), oldest first, and with the last
second it was called in. -/
structure RiskRun where
  checker : RiskChecker := {}
  accepted : List (Nat × Nat) := []
  nowS : Nat := 0

inductive RiskCall where
  | check (exchange : ExchangeId) (price : Int) (quantity orderId nowS : Nat)
  | onOrderClosed (exchange : ExchangeId)

namespace RiskRun

variable (lim : RiskLimits) (s : RiskRun)

def step (s : RiskRun) : RiskCall → RiskRun × List (Except RejectReason Unit)
  | .check exchange price quantity orderId nowS =>
    let (checker, answer) := RiskChecker.check lim s.checker exchange price quantity orderId nowS
    ({ checker := checker
       accepted := match answer with
         | .ok () => s.accepted ++ [(orderId, nowS)]
         | .error _ => s.accepted
       nowS := nowS },
      [answer])
  | .onOrderClosed exchange => ({ s with checker := s.checker.onOrderClosed exchange }, [])

@[simp] theorem nowS_check (exchange : ExchangeId) (price : Int) (quantity orderId nowS : Nat) :
    (step lim s (.check exchange price quantity orderId nowS)).1.nowS = nowS := rfl

@[simp] theorem nowS_onOrderClosed (exchange : ExchangeId) :
    (step lim s (.onOrderClosed exchange)).1.nowS = s.nowS := rfl

/-- The id is not zero, and the clock has not run backwards. -/
def Regular (s : RiskRun) : RiskCall → Prop
  | .check _ _ _ orderId nowS => orderId ≠ 0 ∧ s.nowS ≤ nowS
  | .onOrderClosed _ => True

instance (e : RiskCall) : Decidable (s.Regular e) := by
  unfold Regular
  split <;> infer_instance

def acceptedIn (second : Nat) : Nat := s.accepted.countP (·.2 = second)

/-- The last `n` ids that were accepted. -/
def lastIds (n : Nat) : List Nat :=
  (s.accepted.map Prod.fst).drop (s.accepted.length - n)

/-- In no second more orders were accepted than are allowed. -/
def WithinRate : Prop := ∀ second, s.acceptedIn second ≤ lim.maxOrdersPerSecond

/-- The answers to a call, against the orders accepted before it. -/
def AnswersHistory (s : RiskRun) : RiskCall → Prop
  | .onOrderClosed _ => True
  | .check exchange price quantity orderId nowS =>
    let (rc', answer) := RiskChecker.check lim s.checker exchange price quantity orderId nowS
    (answer = .error .RATE_LIMITED → s.acceptedIn nowS = lim.maxOrdersPerSecond) ∧
    (answer = .error .DUPLICATE_ORDER_ID ↔ orderId ∈ s.lastIds kDupRingSize) ∧
    ((∃ reason, answer = .error reason) →
      rc'.dupRing = s.checker.dupRing ∧
        ∀ second, nowS ≤ second → rc'.tokensUsed second = s.checker.tokensUsed second)

/-! ## Count and ring -/

structure Faithful (s : RiskRun) : Prop where
  enabled : s.checker.tradingEnabled = true
  ring : RingLog.Holds 0 s.checker.dupRing.slots (s.accepted.map Prod.fst)
  head : s.checker.dupRing.head = s.accepted.length
  count : s.checker.ordersThisWindow = s.acceptedIn s.checker.rateWindowS
  past : ∀ p ∈ s.accepted, p.2 ≤ s.checker.rateWindowS
  clock : s.checker.rateWindowS ≤ s.nowS

theorem faithful_start : Faithful {} where
  enabled := rfl
  ring := RingLog.holds_replicate kDupRingSize
  head := rfl
  count := rfl
  past p hp := absurd hp (by simp)
  clock := Nat.le_refl 0

variable {lim s}

/-- The window after the clock was read counts the orders of the current second. -/
theorem Faithful.count_rollWindow (h : s.Faithful) {nowS : Nat} (hnow : s.nowS ≤ nowS) :
    (s.checker.rollWindow nowS).ordersThisWindow = s.acceptedIn nowS := by
  unfold RiskChecker.rollWindow
  split
  · next hne =>
    -- nothing was accepted in a second that has only begun
    have hclock := h.clock
    refine (List.countP_eq_zero.mpr fun p hp => ?_).symm
    have hpast := h.past p hp
    rw [decide_eq_true_iff]
    omega
  · next heq =>
    rw [h.count, not_not.mp heq]

theorem Faithful.contains_iff (h : s.Faithful) {orderId : Nat} (hid : orderId ≠ 0) :
    s.checker.dupRing.contains orderId = true ↔ orderId ∈ s.lastIds kDupRingSize := by
  have hmem : s.checker.dupRing.contains orderId = true ↔ orderId ∈ s.checker.dupRing.slots := by
    unfold DupRing.contains
    simp
  rw [hmem, h.ring.mem_iff hid, s.checker.dupRing.length_slots, List.length_map]
  exact Iff.rfl

/-- A call that accepts nothing leaves count and ring as they stand for the same orders. -/
theorem Faithful.rollWindow (h : s.Faithful) {nowS : Nat} (hnow : s.nowS ≤ nowS) :
    Faithful { checker := s.checker.rollWindow nowS, accepted := s.accepted, nowS } := by
  have hkept := RiskChecker.rollWindow_refused s.checker nowS
  have hwindow : (s.checker.rollWindow nowS).rateWindowS = nowS :=
    RiskChecker.rollWindow_rateWindowS nowS
  have hclock := h.clock
  exact
    { enabled := hkept.switch.trans h.enabled
      ring := by
        show RingLog.Holds 0 (s.checker.rollWindow nowS).dupRing.slots _
        rw [hkept.ring]
        exact h.ring
      head := by
        show (s.checker.rollWindow nowS).dupRing.head = _
        rw [hkept.ring]
        exact h.head
      count := by
        show (s.checker.rollWindow nowS).ordersThisWindow = _
        rw [h.count_rollWindow hnow]
        exact congrArg s.acceptedIn hwindow.symm
      past := fun p hp => by
        have hpast := h.past p hp
        show p.2 ≤ (s.checker.rollWindow nowS).rateWindowS
        omega
      clock := Nat.le_of_eq hwindow }

theorem Faithful.wait (h : s.Faithful) {nowS : Nat} (hnow : s.nowS ≤ nowS) :
    Faithful { s with nowS } :=
  { h with clock := Nat.le_trans h.clock hnow }

theorem Faithful.claim (h : s.Faithful) (hwindow : s.checker.rateWindowS = s.nowS)
    (exchange : ExchangeId) (orderId : Nat) :
    Faithful { checker := s.checker.claim exchange orderId
               accepted := s.accepted ++ [(orderId, s.nowS)], nowS := s.nowS } where
  enabled := h.enabled
  ring := by
    have hlen := s.checker.dupRing.length_slots
    have hpush := h.ring.push (by rw [hlen]; decide) orderId
    rw [List.length_map, hlen, ← h.head] at hpush
    rw [List.map_append]
    exact hpush
  head := by
    rw [List.length_append, List.length_singleton, ← h.head]
    rfl
  count := by
    show s.checker.ordersThisWindow + 1 =
      (s.accepted ++ [(orderId, s.nowS)]).countP (·.2 = s.checker.rateWindowS)
    rw [List.countP_append, h.count, hwindow]
    simp [acceptedIn]
  past p hp := by
    show p.2 ≤ s.checker.rateWindowS
    rcases List.mem_append.mp hp with hold | hnew
    · exact h.past p hold
    · rw [List.mem_singleton.mp hnew, hwindow]
  clock := h.clock

theorem Faithful.closed (h : s.Faithful) (exchange : ExchangeId) :
    Faithful { s with checker := s.checker.onOrderClosed exchange } :=
  { h with }

/-- **One call.** It keeps count and ring faithful, its answer is what the accepted orders call
for, and no second gets more orders than allowed. -/
theorem Faithful.step (h : s.Faithful) (hrate : s.WithinRate lim) {e : RiskCall}
    (hregular : s.Regular e) :
    (RiskRun.step lim s e).1.Faithful ∧ (RiskRun.step lim s e).1.WithinRate lim ∧
      s.AnswersHistory lim e := by
  cases e with
  | onOrderClosed exchange => exact ⟨h.closed exchange, hrate, trivial⟩
  | check exchange price quantity orderId nowS =>
    obtain ⟨hid, hnow⟩ := hregular
    have hdup := h.contains_iff hid
    have hcount := h.count_rollWindow hnow
    have hkept := RiskChecker.rollWindow_refused s.checker nowS
    have htokens : ∀ second, nowS ≤ second →
        (s.checker.rollWindow nowS).tokensUsed second = s.checker.tokensUsed second := fun _ =>
      RiskChecker.tokensUsed_rollWindow (Nat.le_trans h.clock hnow)
    rcases RiskChecker.check_cases lim h.enabled exchange price quantity orderId nowS with
      ⟨hring, hout⟩ | ⟨hring, hcases⟩
    · simp only [RiskRun.step, AnswersHistory, hout]
      exact ⟨h.wait hnow, hrate, by simp, by simpa using hdup.mp hring, by simp⟩
    have hfresh : orderId ∉ s.lastIds kDupRingSize := fun hmem =>
      absurd (hdup.mpr hmem) (by rw [hring]; decide)
    rcases hcases with hout | ⟨hfull, hout⟩ | hout | ⟨hroom, hout⟩
    · simp only [RiskRun.step, AnswersHistory, hout]
      exact ⟨h.wait hnow, hrate, by simp, by simpa using hfresh, by simp⟩
    · simp only [RiskRun.step, AnswersHistory, hout]
      refine ⟨h.rollWindow hnow, hrate, fun _ => ?_, by simpa using hfresh,
        fun _ => ⟨hkept.ring, htokens⟩⟩
      rw [hcount] at hfull
      exact Nat.le_antisymm (hrate nowS) hfull
    · simp only [RiskRun.step, AnswersHistory, hout]
      exact ⟨h.rollWindow hnow, hrate, by simp, by simpa using hfresh,
        fun _ => ⟨hkept.ring, htokens⟩⟩
    · simp only [RiskRun.step, AnswersHistory, hout]
      refine ⟨(h.rollWindow hnow).claim (RiskChecker.rollWindow_rateWindowS nowS) exchange orderId,
        fun second => ?_, by simp, by simpa using hfresh, by simp⟩
      rw [hcount] at hroom
      have hold := hrate second
      unfold acceptedIn at hold hroom ⊢
      rw [List.countP_append, List.countP_singleton]
      by_cases hsecond : nowS = second
      · subst hsecond
        rw [if_pos (decide_eq_true rfl)]
        omega
      · rw [if_neg (by simpa using hsecond)]
        omega

theorem Faithful.run (h : s.Faithful) (hrate : s.WithinRate lim) {calls : List RiskCall}
    (hcalls : Machine.AlongRun (RiskRun.step lim) Regular s calls) :
    Machine.AllStates (RiskRun.step lim) (WithinRate lim) s calls ∧
      Machine.AlongRun (RiskRun.step lim) (AnswersHistory lim) s calls := by
  induction calls generalizing s with
  | nil => exact ⟨hrate, trivial⟩
  | cons e calls ih =>
    obtain ⟨hfaithful', hrate', hanswer⟩ := h.step hrate hcalls.1
    obtain ⟨hstates, hanswers⟩ := ih hfaithful' hrate' hcalls.2
    exact ⟨⟨hrate, hstates⟩, hanswer, hanswers⟩

/-- **A whole run.** In every state the rate is kept, and every answer is the one that the orders
accepted before it call for. -/
theorem check_answers_history (lim : RiskLimits) (calls : List RiskCall)
    (hcalls : Machine.AlongRun (step lim) Regular {} calls) :
    Machine.AllStates (step lim) (WithinRate lim) {} calls ∧
      Machine.AlongRun (step lim) (AnswersHistory lim) {} calls :=
  faithful_start.run (fun _ => Nat.zero_le _) hcalls

/-- One order a second, called with two ids twice each. -/
theorem check_answers_history_repeated :
    let lim : RiskLimits := { maxOrderSizeUsd := 1, maxNotionalPerOrderUsd := 1
                              maxOpenOrdersPerVenue := 9, maxOrdersPerSecond := 1 }
    let calls : List RiskCall := [.check .OKX 0 1 7 5, .check .OKX 0 1 8 5, .onOrderClosed .OKX,
      .check .OKX 0 1 7 6, .check .OKX 0 1 8 6]
    Machine.AlongRun (step lim) Regular {} calls ∧
      Machine.AlongRun (step lim) (AnswersHistory lim) {} calls := by
  intro lim calls
  have hcalls : Machine.AlongRun (step lim) Regular {} calls := by
    simp [calls, Machine.AlongRun, Regular]
  exact ⟨hcalls, (check_answers_history lim calls hcalls).2⟩

end RiskRun

end BptCore.OrderGateway
