import BptCore.Messages

/-!
# Market data messages

What the venue decoders hand to the publishers. A book side is an `InlineVec`, whose storage has
room for `kMaxBookLevels` levels and which does not check that a level still fits.

* **`InlineVec.emplaceBack`** — appending, `none` where the code writes past the storage.
* **`InlineVec.fill_eq`** — appending a list's first elements one after the other.
* **`MdOutput`** — the calls of a decoder: `publish` and the two callbacks.
-/

namespace BptCore.MdGateway

def kMaxBookLevels : Nat := 20

structure InlineVec (α : Type*) (n : Nat) where
  data : List α := []
  fits : data.length ≤ n := by simp
  deriving DecidableEq

namespace InlineVec

variable {α : Type*} {n : Nat}

def empty : InlineVec α n := ⟨[], Nat.zero_le n⟩

def size (v : InlineVec α n) : Nat := v.data.length

/-- Appending to a full vector is undefined behaviour. -/
def emplaceBack (v : InlineVec α n) (x : α) : Option (InlineVec α n) :=
  if h : v.data.length < n then
    some ⟨v.data ++ [x], by rw [List.length_append]; exact h⟩
  else none

theorem size_emplaceBack {v w : InlineVec α n} {x : α} (h : v.emplaceBack x = some w) :
    w.size = v.size + 1 := by
  obtain ⟨_, heq⟩ := Option.dite_none_right_eq_some.mp h
  cases heq
  exact List.length_append

/-- `v[0]`: the storage of an empty vector holds default values. -/
def front [Inhabited α] (v : InlineVec α n) : α := v.data.headD default

/-- The vector with the elements `l`, when its storage has room for them. -/
def ofList? (l : List α) : Option (InlineVec α n) :=
  if h : l.length ≤ n then some ⟨l, h⟩ else none

theorem ofList?_data (v : InlineVec α n) : ofList? v.data = some v := dif_pos v.fits

theorem ofList?_eq_some_iff {l : List α} {v : InlineVec α n} : ofList? l = some v ↔ v.data = l := by
  constructor
  · intro h
    obtain ⟨_, heq⟩ := Option.dite_none_right_eq_some.mp h
    cases heq
    rfl
  · rintro rfl
    exact ofList?_data v

theorem ofList?_eq_none_iff {l : List α} :
    (ofList? l : Option (InlineVec α n)) = none ↔ n < l.length := by
  unfold ofList?
  split <;> simp <;> omega

/-- Appending, and then the rest. -/
theorem emplaceBack_bind_ofList? (v : InlineVec α n) (x : α) (l : List α) :
    ((v.emplaceBack x).bind fun w => ofList? (w.data ++ l) : Option (InlineVec α n)) =
      ofList? (v.data ++ x :: l) := by
  unfold emplaceBack
  split
  · simp [List.append_assoc]
  · next hfull =>
    refine (ofList?_eq_none_iff.mpr ?_).symm
    simp only [List.length_append, List.length_cons]
    omega

/-- The loop of the decoders: elements are appended until there are `n'` of them. -/
def fill (n' : Nat) : List α → InlineVec α n → Option (InlineVec α n)
  | [], v => some v
  | x :: l, v => if n' ≤ v.size then some v else (v.emplaceBack x).bind (fill n' l)

theorem fill_of_full {n' : Nat} {v : InlineVec α n} (h : n' ≤ v.size) (l : List α) :
    v.fill n' l = some v := by
  cases l with
  | nil => rfl
  | cons x l => exact if_pos h

theorem fill_eq (n' : Nat) (l : List α) (v : InlineVec α n) :
    v.fill n' l = ofList? (v.data ++ l.take (n' - v.size)) := by
  induction l generalizing v with
  | nil => simp [fill, ofList?_data]
  | cons x l ih =>
    by_cases hfull : n' ≤ v.size
    · rw [fill_of_full hfull, Nat.sub_eq_zero_of_le hfull, List.take_zero, List.append_nil,
        ofList?_data]
    · -- the element is appended and leaves room for one less
      obtain ⟨room, hroom⟩ : ∃ room, n' - v.size = room + 1 :=
        Nat.exists_eq_add_one_of_ne_zero (by omega)
      rw [fill, if_neg hfull, hroom, List.take_succ_cons, ← emplaceBack_bind_ofList?]
      refine Option.bind_congr fun w hw => ?_
      have hsize : n' - w.size = room := by
        have hlen := size_emplaceBack hw
        omega
      rw [ih, hsize]

end InlineVec

/-- One side of a published book, (price, quantity), best first. -/
abbrev Levels := InlineVec (ℚ × ℚ) kMaxBookLevels

structure MdBbo where
  timestampNs : Nat
  instrumentId : Nat
  bidPrice : ℚ
  bidQty : ℚ
  askPrice : ℚ
  askQty : ℚ
  deriving DecidableEq

inductive TradeSide where
  | BUY | SELL
  deriving DecidableEq, Repr

structure MdTrade where
  timestampNs : Nat
  instrumentId : Nat
  price : ℚ
  qty : ℚ
  side : TradeSide
  deriving DecidableEq

structure MdOrderBook where
  timestampNs : Nat
  instrumentId : Nat
  bids : Levels
  asks : Levels
  deriving DecidableEq

structure FundingRateUpdate where
  instrumentId : Nat
  exchangeId : ExchangeId
  rateBps : Int
  nextFundingTsNs : Nat
  collectedTsNs : Nat
  deriving DecidableEq

/-- A statistic that the venue does not report is `none`, the source's NaN. -/
structure InstrumentStatsUpdate where
  instrumentId : Nat
  exchangeId : ExchangeId
  openInterest : Option ℚ
  volume24h : Option ℚ
  markPrice : Option ℚ
  indexPrice : Option ℚ
  lastPrice : Option ℚ
  collectedTsNs : Nat
  deriving DecidableEq

/-- `overflow` stands for a level appended to a full side: from there on the behaviour of the
code is undefined. -/
inductive MdOutput where
  | orderBook (book : MdOrderBook)
  | bbo (bbo : MdBbo)
  | trade (trade : MdTrade)
  | fundingRate (update : FundingRateUpdate)
  | instrumentStats (update : InstrumentStatsUpdate)
  | overflow
  deriving DecidableEq

namespace MdOutput

def book? : MdOutput → Option MdOrderBook
  | .orderBook book => some book
  | _ => none

/-- The book with its derived BBO, as both book decoders publish them. -/
def bookAndBbo (recvNs instrumentId : Nat) (bids asks : Levels) : List MdOutput :=
  [.orderBook { timestampNs := recvNs, instrumentId := instrumentId, bids := bids, asks := asks },
    .bbo
      { timestampNs := recvNs, instrumentId := instrumentId
        bidPrice := bids.front.1, bidQty := bids.front.2
        askPrice := asks.front.1, askQty := asks.front.2 }]

/-- The order books among a decoder's calls. -/
def books (out : List MdOutput) : List MdOrderBook := out.filterMap book?

def bbo? : MdOutput → Option MdBbo
  | .bbo b => some b
  | _ => none

/-- No order book is published, and nothing undefined happens. -/
def Quiet (out : List MdOutput) : Prop := books out = [] ∧ .overflow ∉ out

instance (out : List MdOutput) : Decidable (Quiet out) := inferInstanceAs (Decidable (_ ∧ _))

/-- Nor is a BBO published. -/
def Silent (out : List MdOutput) : Prop := Quiet out ∧ out.filterMap bbo? = []

instance (out : List MdOutput) : Decidable (Silent out) := inferInstanceAs (Decidable (_ ∧ _))

theorem quiet_nil : Quiet [] := ⟨rfl, List.not_mem_nil⟩

theorem silent_nil : Silent [] := ⟨quiet_nil, rfl⟩

theorem not_quiet_bookAndBbo (recvNs instrumentId : Nat) (bids asks : Levels) :
    ¬ Quiet (bookAndBbo recvNs instrumentId bids asks) := by
  rintro ⟨h, -⟩
  cases h

end MdOutput

end BptCore.MdGateway
