import BptCore.Features.RealizedVol

/-!
# The exponentially weighted estimators

Means whose weights decay with the time that has passed: of the variance and the drift of the
returns of a mid, and of the rate at which trades arrive. The exponential, the logarithm and the
square root are those of the numeric library; the rest of the arithmetic is exact.

* **`TimeWeightedEwma`** — the mean itself.
* **`ReturnEwma`** — a mean over returns, of which `EwmaVariance` and `EwmaDrift` are two.
* **`KappaEstimator`** — the mean over trades.
-/

namespace BptCore.Features

/-- `std::exp`, with the others. -/
structure ExpNumerics extends Numerics where
  exp : ℚ → ℚ

/-- A time in seconds. -/
def secondsOfNs (ns : Nat) : ℚ := ns / 1000000000

structure TimeWeightedEwma where
  halflifeS : ℚ
  value : ℚ := 0
  count : Nat := 0
  deriving DecidableEq, Repr

variable (num : ExpNumerics)

namespace TimeWeightedEwma

variable (e : TimeWeightedEwma)

def update (obs dtS : ℚ) : TimeWeightedEwma :=
  if dtS ≤ 0 then e
  else
    let lambda := num.exp (-dtS / e.halflifeS)
    { e with value := lambda * e.value + (1 - lambda) * obs, count := e.count + 1 }

def restore (value : ℚ) (count : Nat) : TimeWeightedEwma := { e with value := value, count := count }

@[simp] theorem update_halflifeS (obs dtS : ℚ) : (e.update num obs dtS).halflifeS = e.halflifeS := by
  unfold update
  split
  · rfl
  · rfl

end TimeWeightedEwma

/-! ## Returns -/

/-- A mean over the returns of a mid. -/
structure ReturnEwma where
  ewma : TimeWeightedEwma
  lastMid : ℚ := 0
  lastNs : Nat := 0
  deriving DecidableEq, Repr

/-- What is saved of it. -/
structure ReturnEwma.Snapshot where
  value : ℚ
  count : Nat
  lastMid : ℚ
  lastNs : Nat

namespace ReturnEwma

variable (e : ReturnEwma)

/-- A mid: what is observed is made of the logarithmic return by the root of the time. -/
def update (observe : ℚ → ℚ) (mid : ℚ) (tsNs : Nat) : ReturnEwma :=
  let ewma :=
    if e.lastMid > 0 ∧ tsNs > e.lastNs then
      let dtS := secondsOfNs (tsNs - e.lastNs)
      if dtS > 0 then
        let logRet := num.log (mid / e.lastMid)
        let normRet := logRet / num.sqrt dtS
        e.ewma.update num (observe normRet) dtS
      else e.ewma
    else e.ewma
  { ewma := ewma, lastMid := mid, lastNs := tsNs }

def restore (s : Snapshot) : ReturnEwma :=
  { ewma := e.ewma.restore s.value s.count, lastMid := s.lastMid, lastNs := s.lastNs }

def value : ℚ := e.ewma.value

def count : Nat := e.ewma.count

@[simp] theorem update_halflifeS (observe : ℚ → ℚ) (mid : ℚ) (tsNs : Nat) :
    (e.update num observe mid tsNs).ewma.halflifeS = e.ewma.halflifeS := by
  unfold update
  dsimp only
  split
  · split
    · exact e.ewma.update_halflifeS num _ _
    · rfl
  · rfl

/-- An estimator with the same half-life takes over everything from a snapshot. -/
theorem restore_eq {e e' : ReturnEwma} (h : e.ewma.halflifeS = e'.ewma.halflifeS) :
    e.restore ⟨e'.value, e'.count, e'.lastMid, e'.lastNs⟩ = e' := by
  unfold restore TimeWeightedEwma.restore
  rw [h]
  rfl

end ReturnEwma

abbrev EwmaVariance := ReturnEwma

def EwmaVariance.update (e : EwmaVariance) (mid : ℚ) (tsNs : Nat) : EwmaVariance :=
  ReturnEwma.update num e (fun normRet => normRet * normRet) mid tsNs

abbrev EwmaDrift := ReturnEwma

def EwmaDrift.update (e : EwmaDrift) (mid : ℚ) (tsNs : Nat) : EwmaDrift :=
  ReturnEwma.update num e (fun normRet => normRet) mid tsNs

/-! ## Trades -/

structure KappaEstimator where
  ewma : TimeWeightedEwma
  lastTradeNs : Nat := 0
  deriving DecidableEq, Repr

structure KappaEstimator.Snapshot where
  value : ℚ
  count : Nat
  lastTradeNs : Nat

namespace KappaEstimator

variable (e : KappaEstimator)

/-- A trade: the arrival rate on either side. -/
def update (tradeTsNs : Nat) : KappaEstimator :=
  let ewma :=
    if e.lastTradeNs > 0 ∧ tradeTsNs > e.lastTradeNs then
      let dtS := secondsOfNs (tradeTsNs - e.lastTradeNs)
      if dtS > 0 then
        let arrivalRate := 1 / 2 / dtS
        e.ewma.update num arrivalRate dtS
      else e.ewma
    else e.ewma
  { ewma := ewma, lastTradeNs := tradeTsNs }

def restore (s : Snapshot) : KappaEstimator :=
  { ewma := e.ewma.restore s.value s.count, lastTradeNs := s.lastTradeNs }

def value : ℚ := e.ewma.value

def count : Nat := e.ewma.count

@[simp] theorem update_halflifeS (tradeTsNs : Nat) :
    (e.update num tradeTsNs).ewma.halflifeS = e.ewma.halflifeS := by
  unfold update
  dsimp only
  split
  · split
    · exact e.ewma.update_halflifeS num _ _
    · rfl
  · rfl

theorem restore_eq {e e' : KappaEstimator} (h : e.ewma.halflifeS = e'.ewma.halflifeS) :
    e.restore ⟨e'.value, e'.count, e'.lastTradeNs⟩ = e' := by
  unfold restore TimeWeightedEwma.restore
  rw [h]
  rfl

end KappaEstimator

end BptCore.Features
