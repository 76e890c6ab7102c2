import BptCore.Lib.Machine
import BptCore.Lib.Table
import BptCore.MdGateway.Md.MdTypes
import BptCore.OrderGateway.Risk.BreakerWindows

/-!
# The market data publisher

`MdPublisher` stands between the decoders of an adapter and the stream to the strategies. A message
is validated against the last mid of its instrument, the result goes into the drop-rate breaker, and
what passes is numbered and offered.

* **`MdValidator.validate`**, **`MdPublisher.step`** — the code.
* **`WellFormed`**, **`InBand`** — what validation asks of a message, and of its price against a
  reference.
* **`Explained`** — what becomes of a message, told by the log of what became of those before it.
* **`publisher_exact`** — every run of the publisher is explained.
* **`silenced_by_jump`** — what a jump of the price does to an instrument.
-/

namespace BptCore.MdGateway

open SlidingWindow

/-- The overloads of `publish`. -/
inductive MdMessage where
  | bbo (b : MdBbo)
  | trade (t : MdTrade)
  | book (b : MdOrderBook)
  deriving DecidableEq

namespace MdMessage

def instrumentId : MdMessage → Nat
  | bbo b => b.instrumentId
  | trade t => t.instrumentId
  | book b => b.instrumentId

/-- The price that is compared with the last mid. -/
def quoted : MdMessage → ℚ
  | bbo b => (b.bidPrice + b.askPrice) * (1 / 2)
  | trade t => t.price
  | book b => (b.bids.front.1 + b.asks.front.1) * (1 / 2)

end MdMessage

/-! ## The validator -/

/-- The counters that thin out the log lines are not modelled. -/
structure MdValidator where
  lastMid : Table Nat ℚ := ∅

namespace MdValidator

variable (maxDeviationRatio : ℚ) (v : MdValidator)

/-- The comparison with the last mid, when there is one. -/
def deviates (m : MdMessage) : Bool :=
  match v.lastMid.lookup m.instrumentId with
  | some last => decide (|m.quoted - last| / last > maxDeviationRatio)
  | none => false

/-- The loop over neighbouring levels of a side. -/
def ordered (before : ℚ → ℚ → Bool) : List (ℚ × ℚ) → Bool
  | a :: b :: rest => before a.1 b.1 && ordered before (b :: rest)
  | [_] | [] => true

/-- The checks on a message alone, in the order of the code; `true` for `OK`. -/
def checked : MdMessage → Bool
  | .bbo b =>
    if b.bidPrice ≤ 0 ∨ b.askPrice ≤ 0 then false
    else if b.bidQty ≤ 0 ∨ b.askQty ≤ 0 then false
    else if b.askPrice ≤ b.bidPrice then false
    else true
  | .trade t =>
    if t.price ≤ 0 then false
    else if t.qty ≤ 0 then false
    else true
  | .book b =>
    if b.bids.data.isEmpty || b.asks.data.isEmpty then false
    else if b.bids.front.1 ≤ 0 ∨ b.asks.front.1 ≤ 0 then false
    else if b.asks.front.1 ≤ b.bids.front.1 then false
    else if !ordered (fun p q => decide (p > q)) b.bids.data then false
    else if !ordered (fun p q => decide (p < q)) b.asks.data then false
    else true

/-- Only a BBO that passes becomes the new reference. -/
def validate (m : MdMessage) : MdValidator × Bool :=
  if !checked m then (v, false)
  else if v.deviates maxDeviationRatio m then (v, false)
  else
    match m with
    | .bbo b => ({ lastMid := v.lastMid.insert b.instrumentId m.quoted }, true)
    | .trade _ | .book _ => (v, true)

end MdValidator

/-! ## The publisher -/

structure PublisherSettings where
  /-- `max_price_deviation_pct` / 100. -/
  maxDeviationRatio : ℚ
  breaker : ValidationDropBreaker.Config

structure MdPublisher where
  validator : MdValidator := {}
  breaker : ValidationDropBreaker := {}
  seq : Nat := 0
  published : Nat := 0
  backpressureDrops : Nat := 0
  validationDrops : Nat := 0

/-- What became of a message, with its sequence number. -/
inductive Outcome where
  | suppressed
  | invalid
  | sent (seq : Nat)
  | dropped (seq : Nat)
  deriving DecidableEq

/-- A call of `publish`, with the reading of the clock and whether the publication takes the message,
or the reset of the validator when the adapter connects. -/
inductive PublisherEvent where
  | publish (m : MdMessage) (nowNs : Nat) (taken : Bool)
  | reset
  deriving DecidableEq

/-- The time of a call. -/
def PublisherEvent.nowNs? : PublisherEvent → Option Nat
  | .publish _ nowNs _ => some nowNs
  | .reset => none

inductive PublisherEntry where
  | publish (m : MdMessage) (nowNs : Nat) (taken : Bool) (outcome : Outcome)
  | reset
  deriving DecidableEq

namespace MdPublisher

variable (cfg : PublisherSettings) (p : MdPublisher)

/-- The three overloads of `publish`, which differ in what is validated and encoded. A book of the
source's type always has room in the buffer it is encoded to. -/
def publish (m : MdMessage) (nowNs : Nat) (taken : Bool) : MdPublisher × Outcome :=
  if p.breaker.tripped then ({ p with validationDrops := p.validationDrops + 1 }, .suppressed)
  else
    let (validator, ok) := p.validator.validate cfg.maxDeviationRatio m
    let breaker := p.breaker.record cfg.breaker (!ok) nowNs
    if !ok then
      ({ p with
         validator := validator
         breaker := breaker
         validationDrops := p.validationDrops + 1 }, .invalid)
    else
      let seq := p.seq + 1
      if taken then
        ({ p with
           validator := validator, breaker := breaker, seq := seq
           published := p.published + 1 }, .sent seq)
      else
        ({ p with
           validator := validator, breaker := breaker, seq := seq
           backpressureDrops := p.backpressureDrops + 1 }, .dropped seq)

def step (p : MdPublisher) : PublisherEvent → MdPublisher × List PublisherEntry
  | .publish m nowNs taken =>
    ((p.publish cfg m nowNs taken).1, [.publish m nowNs taken (p.publish cfg m nowNs taken).2])
  | .reset => ({ p with validator := {} }, [.reset])

end MdPublisher

/-! ## What validation asks -/

/-- Prices and quantities are above zero and a book is uncrossed and sorted. Beyond the best level
of a book, only the order is asked for. -/
def WellFormed : MdMessage → Prop
  | .bbo b => 0 < b.bidPrice ∧ b.bidPrice < b.askPrice ∧ 0 < b.bidQty ∧ 0 < b.askQty
  | .trade t => 0 < t.price ∧ 0 < t.qty
  | .book b =>
    (b.bids.data ≠ [] ∧ b.asks.data ≠ []) ∧
      (0 < b.bids.front.1 ∧ b.bids.front.1 < b.asks.front.1) ∧
      b.bids.data.Pairwise (fun p q => p.1 > q.1) ∧ b.asks.data.Pairwise (fun p q => p.1 < q.1)

/-- The price is as near to the reference as the ratio asks. -/
def InBand (maxDeviationRatio reference price : ℚ) : Prop :=
  |price - reference| ≤ maxDeviationRatio * reference

namespace MdValidator

theorem ordered_iff {b : ℚ → ℚ → Bool}
    (htrans : ∀ p q r, b p q = true → b q r = true → b p r = true) (l : List (ℚ × ℚ)) :
    ordered b l = true ↔ l.Pairwise fun p q => b p.1 q.1 = true := by
  induction l with
  | nil => simp [ordered]
  | cons p l ih =>
    cases l with
    | nil => simp [ordered]
    | cons q rest =>
      rw [ordered, Bool.and_eq_true, ih, List.pairwise_cons (a := p), List.forall_mem_cons]
      constructor
      · rintro ⟨hpq, hrest⟩
        -- what comes behind `q` is also behind `p`
        have hbehind := (List.pairwise_cons.mp hrest).1
        exact ⟨⟨hpq, fun r hr => htrans _ _ _ hpq (hbehind r hr)⟩, hrest⟩
      · rintro ⟨⟨hpq, -⟩, hrest⟩
        exact ⟨hpq, hrest⟩

/-- A check that returns early. -/
theorem check_eq_true_iff {c : Prop} [Decidable c] {rest : Bool} :
    (if c then false else rest) = true ↔ ¬ c ∧ rest = true := by
  split <;> simp_all

theorem checked_iff (m : MdMessage) : checked m = true ↔ WellFormed m := by
  cases m with
  | bbo b =>
    simp only [checked, WellFormed, check_eq_true_iff, not_or, not_le, and_true]
    constructor
    · rintro ⟨⟨hbid, -⟩, ⟨hbidQty, haskQty⟩, hcrossed⟩
      exact ⟨hbid, hcrossed, hbidQty, haskQty⟩
    · rintro ⟨hbid, hcrossed, hbidQty, haskQty⟩
      exact ⟨⟨hbid, hbid.trans hcrossed⟩, ⟨hbidQty, haskQty⟩, hcrossed⟩
  | trade t =>
    simp only [checked, WellFormed, check_eq_true_iff, not_le, and_true]
  | book b =>
    have hbids := ordered_iff (b := fun p q => decide (p > q))
      (fun _ _ _ h h' => decide_eq_true ((of_decide_eq_true h').trans (of_decide_eq_true h)))
      b.bids.data
    have hasks := ordered_iff (b := fun p q => decide (p < q))
      (fun _ _ _ h h' => decide_eq_true ((of_decide_eq_true h).trans (of_decide_eq_true h')))
      b.asks.data
    simp only [decide_eq_true_eq] at hbids hasks
    simp only [checked, WellFormed, check_eq_true_iff, Bool.or_eq_true, List.isEmpty_iff, not_or,
      not_le, Bool.not_eq_true', Bool.not_eq_false, hbids, hasks, and_true, ne_eq]
    constructor
    · rintro ⟨hsides, ⟨hbid, -⟩, hcrossed, horder⟩
      exact ⟨hsides, ⟨hbid, hcrossed⟩, horder⟩
    · rintro ⟨hsides, ⟨hbid, hcrossed⟩, horder⟩
      exact ⟨hsides, ⟨hbid, hbid.trans hcrossed⟩, hcrossed, horder⟩

end MdValidator

/-! ## The law of the publisher -/

namespace PublisherEntry

/-- The result that the breaker records, with its time. -/
def result? : PublisherEntry → Option (Nat × Bool)
  | .publish _ nowNs _ .invalid => some (nowNs, true)
  | .publish _ nowNs _ (.sent _) | .publish _ nowNs _ (.dropped _) => some (nowNs, false)
  | .publish _ _ _ .suppressed | .reset => none

/-- The number of a message that was offered. -/
def seq? : PublisherEntry → Option Nat
  | .publish _ _ _ (.sent n) | .publish _ _ _ (.dropped n) => some n
  | .publish _ _ _ .invalid | .publish _ _ _ .suppressed | .reset => none

/-- The event that left the entry. -/
def event : PublisherEntry → PublisherEvent
  | .publish m nowNs taken _ => .publish m nowNs taken
  | .reset => .reset

def isSent : PublisherEntry → Bool
  | .publish _ _ _ (.sent _) => true
  | _ => false

def isDropped : PublisherEntry → Bool
  | .publish _ _ _ (.dropped _) => true
  | _ => false

def isRefused : PublisherEntry → Bool
  | .publish _ _ _ .invalid | .publish _ _ _ .suppressed => true
  | _ => false

/-- The reference of an instrument after the entry, from the one before it. -/
def reference (id : Nat) (last : Option ℚ) : PublisherEntry → Option ℚ
  | .publish (.bbo b) _ _ (.sent _) | .publish (.bbo b) _ _ (.dropped _) =>
    if id = b.instrumentId then some (MdMessage.bbo b).quoted else last
  | .reset => none
  | _ => last

end PublisherEntry

section Law

open PublisherEntry

/-- The mid of the last BBO of the instrument that was offered since the adapter connected. -/
def reference (id : Nat) (log : List PublisherEntry) : Option ℚ :=
  log.foldl (PublisherEntry.reference id) none

def results (log : List PublisherEntry) : List (Nat × Bool) := log.filterMap result?

/-- How many messages were numbered. -/
def numbered (log : List PublisherEntry) : Nat := (log.filterMap seq?).length

variable (cfg : PublisherSettings)

/-- After some result so far the share of drops in the window was beyond the threshold. -/
def Tripped (log : List PublisherEntry) : Prop :=
  ∃ es, es <+: OrderGateway.recorded cfg.breaker.enabled (results log) ∧ es ≠ [] ∧
    OrderGateway.rateExceeds cfg.breaker.minEvents cfg.breaker.thresholdPct
      (window Prod.fst cfg.breaker.windowNs es) = true

def Passes (log : List PublisherEntry) (m : MdMessage) : Prop :=
  WellFormed m ∧
    ∀ last, reference m.instrumentId log = some last → InBand cfg.maxDeviationRatio last m.quoted

/-- What becomes of a message after the entries of the log. -/
inductive Explained (log : List PublisherEntry) : PublisherEntry → Prop where
  | reset : Explained log .reset
  | suppressed {m : MdMessage} {nowNs : Nat} {taken : Bool} (htripped : Tripped cfg log) :
    Explained log (.publish m nowNs taken .suppressed)
  | invalid {m : MdMessage} {nowNs : Nat} {taken : Bool} (hopen : ¬ Tripped cfg log)
    (hfails : ¬ Passes cfg log m) : Explained log (.publish m nowNs taken .invalid)
  | sent {m : MdMessage} {nowNs : Nat} (hopen : ¬ Tripped cfg log) (hpasses : Passes cfg log m) :
    Explained log (.publish m nowNs true (.sent (numbered log + 1)))
  | dropped {m : MdMessage} {nowNs : Nat} (hopen : ¬ Tripped cfg log)
    (hpasses : Passes cfg log m) :
    Explained log (.publish m nowNs false (.dropped (numbered log + 1)))

/-- The counters of a publisher with this log. -/
structure Accounts (log : List PublisherEntry) (p : MdPublisher) : Prop where
  seqs : log.filterMap seq? = List.range' 1 p.seq
  published : p.published = log.countP isSent
  backpressureDrops : p.backpressureDrops = log.countP isDropped
  validationDrops : p.validationDrops = log.countP isRefused

/-- A publisher in the state that its log leaves it in. -/
structure Agrees (log : List PublisherEntry) (p : MdPublisher) : Prop extends Accounts log p where
  lastMid : ∀ id, p.validator.lastMid.lookup id = reference id log
  positive : ∀ id last, reference id log = some last → 0 < last
  breaker : p.breaker = ValidationDropBreaker.run cfg.breaker (results log)

variable {cfg} {log : List PublisherEntry} {p : MdPublisher}

theorem reference_concat (id : Nat) (log : List PublisherEntry) (e : PublisherEntry) :
    reference id (log ++ [e]) = e.reference id (reference id log) := by
  rw [reference, List.foldl_append]
  rfl

theorem WellFormed.quoted_pos {m : MdMessage} (h : WellFormed m) : 0 < m.quoted := by
  cases m with
  | bbo b =>
    obtain ⟨hbid, hcrossed, -, -⟩ := h
    show 0 < (b.bidPrice + b.askPrice) * (1 / 2)
    linarith
  | trade t => exact h.1
  | book b =>
    obtain ⟨-, ⟨hbid, hcrossed⟩, -⟩ := h
    show 0 < (b.bids.front.1 + b.asks.front.1) * (1 / 2)
    linarith

/-- The comparison of the code is the band around the reference. -/
theorem deviates_eq_false_iff (h : Agrees cfg log p) (m : MdMessage) :
    p.validator.deviates cfg.maxDeviationRatio m = false ↔
      ∀ last, reference m.instrumentId log = some last →
        InBand cfg.maxDeviationRatio last m.quoted := by
  rw [MdValidator.deviates, h.lastMid]
  cases href : reference m.instrumentId log with
  | none => simp
  | some last =>
    have hpos := h.positive _ _ href
    simp only [Option.some.injEq, forall_eq', InBand, decide_eq_false_iff_not, gt_iff_lt, not_lt]
    exact div_le_iff₀ hpos

theorem validate_snd (h : Agrees cfg log p) (m : MdMessage) :
    (p.validator.validate cfg.maxDeviationRatio m).2 = true ↔ Passes cfg log m := by
  rw [Passes, ← deviates_eq_false_iff h, ← MdValidator.checked_iff]
  unfold MdValidator.validate
  cases MdValidator.checked m <;> cases p.validator.deviates cfg.maxDeviationRatio m <;>
    cases m <;> simp

/-- The latch of the breaker, when the clock does not go back. -/
theorem tripped_iff (h : Agrees cfg log p) (hclock : Ordered Prod.fst (results log)) :
    p.breaker.tripped = true ↔ Tripped cfg log := by
  rw [h.breaker]
  exact (ValidationDropBreaker.rateExact cfg.breaker hclock).tripped

theorem results_concat (log : List PublisherEntry) (e : PublisherEntry) :
    results (log ++ [e]) = results log ++ e.result?.toList := by
  rw [results, List.filterMap_append]
  cases h : e.result? <;> simp [h, results]

theorem run_results_concat (breaker : ValidationDropBreaker.Config) (log : List PublisherEntry)
    {e : PublisherEntry} {nowNs : Nat} {isDrop : Bool} (he : e.result? = some (nowNs, isDrop)) :
    ValidationDropBreaker.run breaker (results (log ++ [e])) =
      (ValidationDropBreaker.run breaker (results log)).record breaker isDrop nowNs := by
  rw [results_concat, he, ValidationDropBreaker.run, Option.toList_some, List.foldl_append]
  rfl

/-- A message that is not numbered leaves the references and the numbers alone. -/
theorem Agrees.refused (h : Agrees cfg log p) {m : MdMessage} {nowNs : Nat} {taken : Bool}
    {outcome : Outcome} (houtcome : outcome = .invalid ∨ outcome = .suppressed)
    {breaker : ValidationDropBreaker}
    (hbreaker : breaker = ValidationDropBreaker.run cfg.breaker
      (results (log ++ [.publish m nowNs taken outcome]))) :
    Agrees cfg (log ++ [.publish m nowNs taken outcome])
      { p with breaker := breaker, validationDrops := p.validationDrops + 1 } := by
  have hreference : ∀ id, reference id (log ++ [.publish m nowNs taken outcome]) =
      reference id log := by
    intro id
    rw [reference_concat]
    obtain rfl | rfl := houtcome <;> cases m <;> rfl
  refine
    { seqs := ?_, published := ?_, backpressureDrops := ?_, validationDrops := ?_
      lastMid := fun id => (h.lastMid id).trans (hreference id).symm
      positive := fun id last hlast => h.positive id last (hreference id ▸ hlast)
      breaker := hbreaker }
  · rw [List.filterMap_append, h.seqs]
    obtain rfl | rfl := houtcome <;> simp [seq?]
  · rw [List.countP_append, ← h.published]
    obtain rfl | rfl := houtcome <;> rfl
  · rw [List.countP_append, ← h.backpressureDrops]
    obtain rfl | rfl := houtcome <;> rfl
  · rw [List.countP_append, ← h.validationDrops]
    obtain rfl | rfl := houtcome <;> rfl

/-- What a message that passes does to the references, whether the publication takes it or not. -/
theorem lookup_validate (h : Agrees cfg log p) {m : MdMessage} (hpasses : Passes cfg log m)
    {nowNs : Nat} {taken : Bool} {outcome : Outcome} {n : Nat}
    (houtcome : outcome = .sent n ∨ outcome = .dropped n) (id : Nat) :
    (p.validator.validate cfg.maxDeviationRatio m).1.lastMid.lookup id =
      reference id (log ++ [.publish m nowNs taken outcome]) := by
  have hchecked := (MdValidator.checked_iff m).mpr hpasses.1
  have hband := (deviates_eq_false_iff h m).mpr hpasses.2
  rw [reference_concat, ← h.lastMid]
  unfold MdValidator.validate
  simp only [hchecked, hband, Bool.not_true, Bool.false_eq_true, if_false]
  cases m with
  | bbo b =>
    obtain rfl | rfl := houtcome <;> exact Table.lookup_insert_eq _ _ _ _
  | trade t | book b => obtain rfl | rfl := houtcome <;> rfl

/-- A message that passes gets the next number, and may be the new reference. -/
theorem Agrees.offered (h : Agrees cfg log p) {m : MdMessage} (hpasses : Passes cfg log m)
    (nowNs : Nat) (taken : Bool) :
    Agrees cfg
      (log ++ [.publish m nowNs taken (if taken then .sent (p.seq + 1) else .dropped (p.seq + 1))])
      { p with
        validator := (p.validator.validate cfg.maxDeviationRatio m).1
        breaker := p.breaker.record cfg.breaker false nowNs
        seq := p.seq + 1
        published := if taken then p.published + 1 else p.published
        backpressureDrops := if taken then p.backpressureDrops else p.backpressureDrops + 1 } := by
  have hlookup : ∀ id, (p.validator.validate cfg.maxDeviationRatio m).1.lastMid.lookup id =
      reference id (log ++
        [.publish m nowNs taken (if taken then .sent (p.seq + 1) else .dropped (p.seq + 1))]) :=
    lookup_validate h hpasses (n := p.seq + 1) (by cases taken <;> simp)
  refine
    { seqs := ?_, published := ?_, backpressureDrops := ?_, validationDrops := ?_
      lastMid := hlookup, positive := fun id last hlast => ?_, breaker := ?_ }
  · rw [List.filterMap_append, h.seqs, List.range'_concat]
    cases taken <;> simp [seq?, Nat.add_comm]
  · rw [List.countP_append, ← h.published]
    cases taken <;> rfl
  · rw [List.countP_append, ← h.backpressureDrops]
    cases taken <;> rfl
  · rw [List.countP_append, ← h.validationDrops]
    cases taken <;> rfl
  · rw [reference_concat] at hlast
    have hquoted := hpasses.1.quoted_pos
    have hold := h.positive id last
    cases m with
    | bbo b =>
      have hchosen : (if id = b.instrumentId then some (MdMessage.bbo b).quoted
          else reference id log) = some last := by cases taken <;> exact hlast
      split at hchosen
      next => exact Option.some.inj hchosen ▸ hquoted
      next => exact hold hchosen
    | trade t | book b => exact hold (by cases taken <;> exact hlast)
  · rw [h.breaker]
    refine (run_results_concat cfg.breaker log ?_).symm
    cases taken <;> rfl

/-- What `publish` does, by what the publisher's log says of the message. -/
theorem publish_eq (h : Agrees cfg log p) (m : MdMessage) (nowNs : Nat) (taken : Bool) :
    (p.breaker.tripped = true ∧ p.publish cfg m nowNs taken =
        ({ p with validationDrops := p.validationDrops + 1 }, .suppressed)) ∨
      (p.breaker.tripped = false ∧ ¬ Passes cfg log m ∧ p.publish cfg m nowNs taken =
        ({ p with
           breaker := p.breaker.record cfg.breaker true nowNs
           validationDrops := p.validationDrops + 1 }, .invalid)) ∨
      (p.breaker.tripped = false ∧ Passes cfg log m ∧ p.publish cfg m nowNs taken =
        ({ p with
           validator := (p.validator.validate cfg.maxDeviationRatio m).1
           breaker := p.breaker.record cfg.breaker false nowNs
           seq := p.seq + 1
           published := if taken then p.published + 1 else p.published
           backpressureDrops := if taken then p.backpressureDrops else p.backpressureDrops + 1 },
          if taken then .sent (p.seq + 1) else .dropped (p.seq + 1))) := by
  have hok := validate_snd h m
  cases htripped : p.breaker.tripped with
  | true => exact .inl ⟨rfl, by simp [MdPublisher.publish, htripped]⟩
  | false =>
    refine .inr ?_
    cases hvalid : (p.validator.validate cfg.maxDeviationRatio m).2 with
    | true =>
      refine .inr ⟨rfl, hok.mp hvalid, ?_⟩
      cases taken <;> simp [MdPublisher.publish, htripped, hvalid]
    | false =>
      have hkept : (p.validator.validate cfg.maxDeviationRatio m).1 = p.validator := by
        revert hvalid
        unfold MdValidator.validate
        cases MdValidator.checked m <;> cases p.validator.deviates cfg.maxDeviationRatio m <;>
          cases m <;> simp
      refine .inl ⟨rfl, fun hpasses => ?_, ?_⟩
      · rw [hok.mpr hpasses] at hvalid
        cases hvalid
      · simp [MdPublisher.publish, htripped, hvalid, hkept]

/-- **Step.** The publisher agrees with its log. -/
theorem Agrees.step (h : Agrees cfg log p) (e : PublisherEvent) :
    Agrees cfg (log ++ (p.step cfg e).2) (p.step cfg e).1 := by
  cases e with
  | reset =>
    have hnone : ∀ id, reference id (log ++ [.reset]) = none := fun id => reference_concat id log _
    refine
      { seqs := ?_, published := ?_, backpressureDrops := ?_, validationDrops := ?_
        lastMid := fun id => (hnone id).symm
        positive := fun id last hlast => absurd (hlast.symm.trans (hnone id)) (Option.some_ne_none _)
        breaker := ?_ }
    · exact (List.filterMap_append ..).trans ((List.append_nil _).trans h.seqs)
    · show p.published = (log ++ [PublisherEntry.reset]).countP isSent
      rw [List.countP_append]
      exact h.published
    · show p.backpressureDrops = (log ++ [PublisherEntry.reset]).countP isDropped
      rw [List.countP_append]
      exact h.backpressureDrops
    · show p.validationDrops = (log ++ [PublisherEntry.reset]).countP isRefused
      rw [List.countP_append]
      exact h.validationDrops
    · show p.breaker = ValidationDropBreaker.run cfg.breaker (results (log ++ [.reset]))
      rw [h.breaker, results_concat]
      exact congrArg _ (List.append_nil _).symm
  | publish m nowNs taken =>
    show Agrees cfg (log ++ [.publish m nowNs taken (p.publish cfg m nowNs taken).2])
      (p.publish cfg m nowNs taken).1
    obtain ⟨-, hpublish⟩ | ⟨-, -, hpublish⟩ | ⟨-, hpasses, hpublish⟩ :=
      publish_eq h m nowNs taken
    · rw [hpublish]
      refine h.refused (.inr rfl) ?_
      rw [results_concat, h.breaker]
      exact congrArg _ (List.append_nil _).symm
    · rw [hpublish]
      refine h.refused (.inl rfl) ?_
      rw [run_results_concat cfg.breaker log rfl, h.breaker]
    · rw [hpublish]
      exact h.offered hpasses nowNs taken

theorem Agrees.seq (h : Agrees cfg log p) : p.seq = numbered log := by
  rw [numbered, h.seqs, List.length_range']

/-- **Explanation.** While the clock does not go back, the entry of a step follows from the log. -/
theorem Agrees.explained (h : Agrees cfg log p) (hclock : Ordered Prod.fst (results log))
    {e : PublisherEvent} {entry : PublisherEntry} (hentry : entry ∈ (p.step cfg e).2) :
    Explained cfg log entry := by
  have htripped := tripped_iff h hclock
  cases e with
  | reset =>
    obtain rfl : entry = .reset := List.mem_singleton.mp hentry
    exact .reset
  | publish m nowNs taken =>
    obtain rfl : entry = .publish m nowNs taken (p.publish cfg m nowNs taken).2 :=
      List.mem_singleton.mp hentry
    obtain ⟨hlatched, hpublish⟩ | ⟨hopen, hfails, hpublish⟩ | ⟨hopen, hpasses, hpublish⟩ :=
      publish_eq h m nowNs taken
    · rw [hpublish]
      exact .suppressed (htripped.mp hlatched)
    · rw [hpublish]
      exact .invalid (fun ht => by rw [htripped.mpr ht] at hopen; cases hopen) hfails
    · have hopen' : ¬ Tripped cfg log := fun ht => by
        rw [htripped.mpr ht] at hopen
        cases hopen
      rw [hpublish, h.seq]
      cases taken with
      | true => exact .sent hopen' hpasses
      | false => exact .dropped hopen' hpasses

theorem map_event_outputs (cfg : PublisherSettings) (p : MdPublisher) (es : List PublisherEvent) :
    (Machine.outputs (MdPublisher.step cfg) p es).map event = es := by
  induction es generalizing p with
  | nil => rfl
  | cons e es ih =>
    rw [Machine.outputs, List.map_append, ih]
    cases e <;> rfl

/-- The results of a log have times of its calls, in order. -/
theorem results_sublist (log : List PublisherEntry) :
    List.Sublist ((results log).map Prod.fst)
      ((log.map event).filterMap PublisherEvent.nowNs?) := by
  induction log with
  | nil => exact List.Sublist.refl _
  | cons e log ih =>
    rw [results, List.filterMap_cons, List.map_cons, List.filterMap_cons]
    rcases e with ⟨m, nowNs, taken, outcome⟩ | _
    · cases outcome with
      | suppressed => exact ih.cons nowNs
      | invalid | sent n | dropped n => exact ih.cons_cons nowNs
    · exact ih

theorem tripped_mono {pre post : List PublisherEntry} (h : Tripped cfg pre) :
    Tripped cfg (pre ++ post) := by
  obtain ⟨es, hprefix, hne, hrate⟩ := h
  refine ⟨es, hprefix.trans ?_, hne, hrate⟩
  have hresults : results (pre ++ post) = results pre ++ results post := List.filterMap_append ..
  rw [hresults]
  unfold OrderGateway.recorded
  split
  · exact List.prefix_append _ _
  · exact List.prefix_rfl

/-! ### Runs -/

/-- The publisher after the events, and its log. -/
def MdPublisher.run (cfg : PublisherSettings) (es : List PublisherEvent) : MdPublisher :=
  Machine.exec (MdPublisher.step cfg) {} es

def MdPublisher.entries (cfg : PublisherSettings) (es : List PublisherEvent) : List PublisherEntry :=
  Machine.outputs (MdPublisher.step cfg) {} es

theorem agrees_init (cfg : PublisherSettings) : Agrees cfg [] {} where
  seqs := rfl
  published := rfl
  backpressureDrops := rfl
  validationDrops := rfl
  lastMid _ := rfl
  positive _ _ h := nomatch h
  breaker := rfl

theorem agrees_run (cfg : PublisherSettings) (es : List PublisherEvent) :
    Agrees cfg (MdPublisher.entries cfg es) (MdPublisher.run cfg es) :=
  Machine.agrees_exec (fun _ _ e h => h.step e) (agrees_init cfg) es

/-- Every call is sent, dropped or refused. -/
theorem countP_log (log : List PublisherEntry) :
    log.countP isSent + log.countP isDropped + log.countP isRefused =
      (log.map event).countP fun e => e.nowNs?.isSome := by
  induction log with
  | nil => rfl
  | cons e log ih =>
    simp only [List.countP_cons, List.map_cons]
    rw [← ih]
    rcases e with ⟨m, nowNs, taken, outcome⟩ | _
    · cases outcome <;> simp only [isSent, isDropped, isRefused, event, PublisherEvent.nowNs?] <;>
        simp <;> omega
    · rfl

/-- **The publisher exactly.** For any calls whose clock does not go back, with any answers of the
publication and any reconnects in between: what becomes of a message follows from what became of
those before it. It is suppressed once the drop rate was beyond the threshold, and for good; until
then it is refused exactly when it is malformed or off the band around the last mid of its
instrument offered since the adapter connected, and otherwise it gets the next number, whether it is
sent or dropped. The numbers run from 1 without a gap, and the counters account for every call. -/
theorem publisher_exact (cfg : PublisherSettings) (es : List PublisherEvent)
    (hclock : Ordered id (es.filterMap PublisherEvent.nowNs?)) :
    (∀ pre entry post, MdPublisher.entries cfg es = pre ++ entry :: post → Explained cfg pre entry) ∧
      (∀ pre post, MdPublisher.entries cfg es = pre ++ post → Tripped cfg pre →
        ∀ entry ∈ post, entry.seq? = none) ∧
      Accounts (MdPublisher.entries cfg es) (MdPublisher.run cfg es) ∧
      (MdPublisher.run cfg es).published + (MdPublisher.run cfg es).backpressureDrops +
          (MdPublisher.run cfg es).validationDrops =
        es.countP fun e => e.nowNs?.isSome := by
  have hevents : (MdPublisher.entries cfg es).map event = es := map_event_outputs cfg {} es
  -- the results before an entry are in the order of the clock
  have hresults : ∀ pre post, MdPublisher.entries cfg es = pre ++ post →
      Ordered Prod.fst (results pre) := by
    intro pre post hlog
    have hsub : List.Sublist ((results pre).map Prod.fst) (es.filterMap PublisherEvent.nowNs?) := by
      refine (results_sublist pre).trans ?_
      rw [← hevents, hlog, List.map_append, List.filterMap_append]
      exact List.sublist_append_left _ _
    exact List.pairwise_map.mp (List.Pairwise.sublist hsub hclock)
  have hexplained : ∀ pre entry post, MdPublisher.entries cfg es = pre ++ entry :: post →
      Explained cfg pre entry := by
    intro pre entry post hlog
    have hlaw := Machine.explained_of_agrees (A := Agrees cfg)
      (X := fun log entry => Ordered Prod.fst (results log) → Explained cfg log entry)
      (fun _ _ e h => h.step e)
      (fun log p e h pre' entry' post' hstep hclock' => by
        have hlen := congrArg List.length hstep
        have hone : (p.step cfg e).2.length = 1 := by cases e <;> rfl
        obtain rfl : pre' = [] := List.length_eq_zero_iff.mp (by
          rw [hone, List.length_append, List.length_cons] at hlen
          omega)
        rw [List.append_nil] at hclock' ⊢
        exact h.explained hclock' (by rw [hstep]; exact List.mem_cons_self))
      (agrees_init cfg) hlog
    exact hlaw (hresults pre _ hlog)
  refine ⟨hexplained, ?_, (agrees_run cfg es).toAccounts, ?_⟩
  · intro pre post hlog htripped entry hentry
    obtain ⟨before, behind, rfl⟩ := List.append_of_mem hentry
    have hentry' := hexplained (pre ++ before) entry behind (by rw [hlog, List.append_assoc])
    cases hentry' with
    | reset => rfl
    | suppressed _ => rfl
    | invalid _ _ => rfl
    | sent hopen _ => exact absurd (tripped_mono htripped) hopen
    | dropped hopen _ => exact absurd (tripped_mono htripped) hopen
  · have hagrees := agrees_run cfg es
    rw [hagrees.published, hagrees.backpressureDrops, hagrees.validationDrops, countP_log, hevents]

def sampleQuote (bid ask : ℚ) : MdMessage :=
  .bbo { timestampNs := 1, instrumentId := 7, bidPrice := bid, bidQty := 1, askPrice := ask
         askQty := 1 }

def sampleSettings : PublisherSettings where
  maxDeviationRatio := 1 / 10
  breaker := { windowNs := 10, thresholdPct := 66, minEvents := 4, enabled := true }

/-- A quote, a crossed one, one off the band, and the same after a reconnect; two more crossed ones
trip the breaker. -/
def sampleEvents : List PublisherEvent :=
  [.publish (sampleQuote 99 101) 1 true, .publish (sampleQuote 101 99) 2 true,
    .publish (sampleQuote 149 151) 3 true, .reset, .publish (sampleQuote 149 151) 4 false,
    .publish (sampleQuote 101 99) 5 true, .publish (sampleQuote 101 99) 6 true,
    .publish (sampleQuote 149 151) 7 true]

theorem publisher_exact_sample :
    (∀ pre entry post, MdPublisher.entries sampleSettings sampleEvents = pre ++ entry :: post →
        Explained sampleSettings pre entry) ∧
      (MdPublisher.entries sampleSettings sampleEvents).filterMap PublisherEntry.seq? = [1, 2] ∧
      (MdPublisher.run sampleSettings sampleEvents).breaker.tripped = true :=
  ⟨(publisher_exact sampleSettings sampleEvents (by decide)).1, by decide +kernel,
    by decide +kernel⟩

/-! ### A jump of the price -/

/-- A step that keeps the adapter connected, with nothing within the band but at the reference. -/
def Frozen (cfg : PublisherSettings) (id : Nat) (last : ℚ) : PublisherEvent → Prop
  | .publish (.bbo b) _ _ =>
    b.instrumentId = id → InBand cfg.maxDeviationRatio last (MdMessage.bbo b).quoted →
      (MdMessage.bbo b).quoted = last
  | .publish (.trade _) _ _ | .publish (.book _) _ _ => True
  | .reset => False

/-- What a numbered message of the instrument is then. -/
def AtReference (cfg : PublisherSettings) (id : Nat) (last : ℚ) (entry : PublisherEntry) : Prop :=
  ∀ m nowNs taken outcome, entry = .publish m nowNs taken outcome → entry.seq?.isSome →
    m.instrumentId = id →
      InBand cfg.maxDeviationRatio last m.quoted ∧ ∀ b, m = .bbo b → m.quoted = last

theorem frozen_of_bbos {id : Nat} {last : ℚ} {during : List PublisherEvent}
    (hconnected : .reset ∉ during)
    (hbbos : ∀ b nowNs taken, .publish (.bbo b) nowNs taken ∈ during → b.instrumentId = id →
      InBand cfg.maxDeviationRatio last (MdMessage.bbo b).quoted →
        (MdMessage.bbo b).quoted = last) :
    ∀ e ∈ during, Frozen cfg id last e := by
  intro e he
  rcases e with ⟨m, nowNs, taken⟩ | _
  · cases m with
    | bbo b => exact hbbos b nowNs taken he
    | trade _ | book _ => trivial
  · exact hconnected he

theorem Agrees.frozen {id : Nat} {last : ℚ} (h : Agrees cfg log p)
    (hlast : reference id log = some last) {e : PublisherEvent} (hfrozen : Frozen cfg id last e) :
    reference id (log ++ (p.step cfg e).2) = some last ∧
      ∀ entry ∈ (p.step cfg e).2, AtReference cfg id last entry := by
  cases e with
  | reset => exact hfrozen.elim
  | publish m nowNs taken =>
    show reference id (log ++ [.publish m nowNs taken (p.publish cfg m nowNs taken).2]) = _ ∧
      ∀ entry ∈ [PublisherEntry.publish m nowNs taken (p.publish cfg m nowNs taken).2], _
    rw [reference_concat, hlast, List.forall_mem_singleton]
    obtain ⟨-, hpublish⟩ | ⟨-, -, hpublish⟩ | ⟨-, hpasses, hpublish⟩ :=
      publish_eq h m nowNs taken
    · rw [hpublish]
      refine ⟨by cases m <;> rfl, fun _ _ _ _ heq hseq => ?_⟩
      cases hseq
    · rw [hpublish]
      refine ⟨by cases m <;> rfl, fun _ _ _ _ heq hseq => ?_⟩
      cases hseq
    · rw [hpublish]
      have hband : m.instrumentId = id → InBand cfg.maxDeviationRatio last m.quoted := by
        rintro rfl
        exact hpasses.2 last hlast
      have hat : ∀ b, m = .bbo b → b.instrumentId = id → m.quoted = last := by
        rintro b rfl hid
        exact hfrozen hid (hband hid)
      refine ⟨?_, fun m' _ _ _ heq _ hid => ?_⟩
      · cases m with
        | bbo b =>
          have hsame : (if id = b.instrumentId then some (MdMessage.bbo b).quoted else some last) =
              some last := by
            split
            next hid => rw [hat b rfl hid.symm]
            next => rfl
          cases taken <;> exact hsame
        | trade t | book b => cases taken <;> rfl
      · obtain ⟨rfl, -⟩ := PublisherEntry.publish.inj heq
        exact ⟨hband hid, fun b hb => hat b hb (by rw [hb] at hid; exact hid)⟩

theorem Agrees.frozen_run {id : Nat} {last : ℚ} (h : Agrees cfg log p)
    (hlast : reference id log = some last) {es : List PublisherEvent}
    (hfrozen : ∀ e ∈ es, Frozen cfg id last e) :
    reference id (log ++ Machine.outputs (MdPublisher.step cfg) p es) = some last ∧
      ∀ entry ∈ Machine.outputs (MdPublisher.step cfg) p es, AtReference cfg id last entry := by
  induction es generalizing log p with
  | nil => exact ⟨(List.append_nil log).symm ▸ hlast, fun _ h => absurd h List.not_mem_nil⟩
  | cons e es ih =>
    obtain ⟨hkept, hfirst⟩ := h.frozen hlast (hfrozen e List.mem_cons_self)
    obtain ⟨hend, hrest⟩ := ih (h.step e) hkept fun e' he' =>
      hfrozen e' (List.mem_cons_of_mem e he')
    refine ⟨by rw [Machine.outputs, ← List.append_assoc]; exact hend, fun entry hentry => ?_⟩
    rcases List.mem_append.mp hentry with hentry | hentry
    · exact hfirst entry hentry
    · exact hrest entry hentry

/-- **Silenced by a jump.** Let an instrument have a reference, and let the adapter stay connected.
If the mids of the instrument's BBOs jump off the band and stay there, the reference does not
follow: not one of the BBOs is offered, however long the run, and of trades and books only those
still within the old band. And with a ratio of 0, at which the deviation check is meant to be off,
no BBO is offered whose mid is not exactly the first one's. -/
theorem silenced_by_jump (cfg : PublisherSettings) (before during : List PublisherEvent) (id : Nat)
    (last : ℚ) (hlast : reference id (MdPublisher.entries cfg before) = some last)
    (hconnected : .reset ∉ during) :
    ((∀ b nowNs taken, .publish (.bbo b) nowNs taken ∈ during → b.instrumentId = id →
        ¬ InBand cfg.maxDeviationRatio last (MdMessage.bbo b).quoted) →
      reference id (MdPublisher.entries cfg (before ++ during)) = some last ∧
        ∀ m nowNs taken outcome,
          .publish m nowNs taken outcome ∈
              Machine.outputs (MdPublisher.step cfg) (MdPublisher.run cfg before) during →
            m.instrumentId = id → (∃ n, outcome = .sent n ∨ outcome = .dropped n) →
              (∀ b, m ≠ .bbo b) ∧ InBand cfg.maxDeviationRatio last m.quoted) ∧
      (cfg.maxDeviationRatio = 0 →
        ∀ b nowNs taken outcome,
          .publish (.bbo b) nowNs taken outcome ∈
              Machine.outputs (MdPublisher.step cfg) (MdPublisher.run cfg before) during →
            b.instrumentId = id → (∃ n, outcome = .sent n ∨ outcome = .dropped n) →
              (MdMessage.bbo b).quoted = last) := by
  have hagrees := agrees_run cfg before
  have hseq : ∀ {m nowNs taken outcome}, (∃ n, outcome = .sent n ∨ outcome = .dropped n) →
      (PublisherEntry.publish m nowNs taken outcome).seq?.isSome = true := by
    rintro m nowNs taken outcome ⟨n, rfl | rfl⟩ <;> rfl
  constructor
  · intro hjump
    have hfrozen : ∀ e ∈ during, Frozen cfg id last e :=
      frozen_of_bbos hconnected fun b nowNs taken he hid hband =>
        absurd hband (hjump b nowNs taken he hid)
    obtain ⟨hend, hentries⟩ := hagrees.frozen_run hlast hfrozen
    refine ⟨?_, fun m nowNs taken outcome hmem hid hnumbered => ?_⟩
    · rw [MdPublisher.entries, Machine.outputs_append]
      exact hend
    · obtain ⟨hband, -⟩ := hentries _ hmem m nowNs taken outcome rfl (hseq hnumbered) hid
      refine ⟨?_, hband⟩
      rintro b rfl
      have hevent : PublisherEvent.publish (.bbo b) nowNs taken ∈ during := by
        rw [← map_event_outputs cfg (MdPublisher.run cfg before) during]
        exact List.mem_map_of_mem hmem
      exact hjump b nowNs taken hevent hid hband
  · intro hzero
    have hfrozen : ∀ e ∈ during, Frozen cfg id last e := by
      refine frozen_of_bbos hconnected fun b nowNs taken he hid hband => ?_
      rw [InBand, hzero, zero_mul] at hband
      exact sub_eq_zero.mp (abs_nonpos_iff.mp hband)
    obtain ⟨-, hentries⟩ := hagrees.frozen_run hlast hfrozen
    intro b nowNs taken outcome hmem hid hnumbered
    exact (hentries _ hmem (.bbo b) nowNs taken outcome rfl (hseq hnumbered) hid).2 b rfl

theorem silenced_by_jump_sample :
    reference 7 (MdPublisher.entries sampleSettings
        ([.publish (sampleQuote 99 101) 1 true] ++ [.publish (sampleQuote 149 151) 3 true]))
      = some 100 ∧
    ∀ m nowNs taken outcome,
      .publish m nowNs taken outcome ∈ Machine.outputs (MdPublisher.step sampleSettings)
          (MdPublisher.run sampleSettings [.publish (sampleQuote 99 101) 1 true])
          [.publish (sampleQuote 149 151) 3 true] →
        m.instrumentId = 7 → (∃ n, outcome = .sent n ∨ outcome = .dropped n) →
          (∀ b, m ≠ .bbo b) ∧ InBand sampleSettings.maxDeviationRatio 100 m.quoted :=
  (silenced_by_jump sampleSettings [.publish (sampleQuote 99 101) 1 true]
    [.publish (sampleQuote 149 151) 3 true] 7 100 (by decide +kernel) (by decide)).1
    (by
      intro b nowNs taken hmem _
      obtain ⟨hquote, -, -⟩ := PublisherEvent.publish.inj (List.mem_singleton.mp hmem)
      rw [hquote, InBand]
      decide +kernel)

end Law

end BptCore.MdGateway
