import BptCore.Lib.SortedEntries

/-!
# The folded order book

What a stream of snapshots and deltas amounts to, whatever a decoder keeps of it: per side the map
from prices to quantities that results when every frame is applied in turn. A level is either set
to a quantity or gone.

`OrderBookState` folds book frames into one search tree a side. Only the order of the prices
and the sign of the quantities matter to it, so both stay type parameters; a price type with a
linear order is what the doubles without NaN are.

* **`Compare`** — the two sort directions of a side.
* **`MergedBook.apply`** — one frame.
* **`MergedBook.top`** — the best levels of either side, best first.
* **`OrderBookState.apply`** — one frame folded in, after a snapshot's clearing.
* **`foldLevel_eq`** — a level of the fold is a level of the merged book, gone at a quantity that is
  not positive.
-/

namespace BptCore.Book

/-! ## The merged book -/

section MergedBook

/-- `std::less<>`, smallest price first, or `std::greater<>`, largest price first. -/
inductive Compare where
  | less | greater
  deriving DecidableEq, Repr

namespace Compare

variable {P : Type*} [LinearOrder P]

/-- The order of the keys: `a` sorts before `b` when the result is `lt`. -/
def cmp : Compare → P → P → Ordering
  | less, a, b => compare a b
  | greater, a, b => compare b a

instance (c : Compare) : Std.TransCmp (c.cmp : P → P → Ordering) := by
  cases c
  · exact inferInstanceAs (Std.TransCmp (compare : P → P → Ordering))
  · exact inferInstanceAs (Std.TransCmp fun a b : P => compare b a)

instance (c : Compare) : Std.LawfulEqCmp (c.cmp : P → P → Ordering) := by
  cases c
  · exact inferInstanceAs (Std.LawfulEqCmp (compare : P → P → Ordering))
  · exact inferInstanceAs (Std.LawfulEqCmp fun a b : P => compare b a)

end Compare

variable (P Q : Type*)

/-- A frame's levels, each with its new quantity, or `none` for a level that is gone. -/
structure BookDelta where
  isSnapshot : Bool
  bids : List (P × Option Q)
  asks : List (P × Option Q)

variable [LinearOrder P]

/-- One side of the book: `std::map<double, double, Compare>`. -/
abbrev SideMap (c : Compare) := Std.TreeMap P Q (c.cmp : P → P → Ordering)

structure MergedBook where
  bids : SideMap P Q .greater := ∅
  asks : SideMap P Q .less := ∅

variable {P Q}

def mergeLevel {c : Compare} (side : SideMap P Q c) (lvl : P × Option Q) : SideMap P Q c :=
  match lvl.2 with
  | some qty => side.insert lvl.1 qty
  | none => side.erase lvl.1

def mergeLevels {c : Compare} (side : SideMap P Q c) (lvls : List (P × Option Q)) :
    SideMap P Q c :=
  lvls.foldl mergeLevel side

namespace MergedBook

def apply (b : MergedBook P Q) (d : BookDelta P Q) : MergedBook P Q :=
  { bids := mergeLevels (if d.isSnapshot then ∅ else b.bids) d.bids
    asks := mergeLevels (if d.isSnapshot then ∅ else b.asks) d.asks }

/-- Both sides have a level. -/
def TwoSided (b : MergedBook P Q) : Prop := b.bids.toList ≠ [] ∧ b.asks.toList ≠ []

instance [DecidableEq Q] (b : MergedBook P Q) : Decidable b.TwoSided :=
  inferInstanceAs (Decidable (_ ∧ _))

/-- The best `n` levels of the bids and of the asks, best first. -/
def top (b : MergedBook P Q) (n : Nat) : List (P × Q) × List (P × Q) :=
  (b.bids.toList.take n, b.asks.toList.take n)

end MergedBook

/-- Looking a price up after one level. -/
theorem getElem?_mergeLevel {c : Compare} (side : SideMap P Q c) (lvl : P × Option Q) (p : P) :
    (mergeLevel side lvl)[p]? = if p = lvl.1 then lvl.2 else side[p]? := by
  have hkey : c.cmp lvl.1 p = .eq ↔ p = lvl.1 :=
    SortedEntries.cmp_eq_iff.trans eq_comm
  obtain ⟨price, qty⟩ := lvl
  cases qty with
  | some qty =>
    show (side.insert price qty)[p]? = _
    rw [Std.TreeMap.getElem?_insert]
    simp only [hkey]
  | none =>
    show (side.erase price)[p]? = _
    rw [Std.TreeMap.getElem?_erase]
    simp only [hkey]

end MergedBook

/-! ## The fold -/

variable (P Q : Type*)

/-- The arguments of `OrderBookState::apply`: one frame's levels, (price, qty). -/
structure BookFrame where
  bidLevels : List (P × Q)
  askLevels : List (P × Q)
  seqNum : Nat := 0
  timestampNs : Nat := 0
  isSnapshot : Bool := false
  deriving DecidableEq, Repr

variable [LinearOrder P]

structure OrderBookState where
  bids : SideMap P Q .greater := ∅
  asks : SideMap P Q .less := ∅
  lastSeqNum : Nat := 0
  lastUpdateNs : Nat := 0

variable {P Q}

variable [Zero Q] [LT Q] [DecidableLT Q]

/-- The body of the loop of `fold_into`: one level. -/
def foldLevel {c : Compare} (side : SideMap P Q c) (lvl : P × Q) : SideMap P Q c :=
  if 0 < lvl.2 then side.insert lvl.1 lvl.2 else side.erase lvl.1

def foldInto {c : Compare} (side : SideMap P Q c) (deltas : List (P × Q)) : SideMap P Q c :=
  deltas.foldl foldLevel side

def OrderBookState.apply (b : OrderBookState P Q) (f : BookFrame P Q) : OrderBookState P Q :=
  { bids := foldInto (if f.isSnapshot then ∅ else b.bids) f.bidLevels
    asks := foldInto (if f.isSnapshot then ∅ else b.asks) f.askLevels
    lastSeqNum := f.seqNum
    lastUpdateNs := f.timestampNs }

/-- A quantity that is not positive means that the level is gone. -/
theorem foldLevel_eq {c : Compare} (side : SideMap P Q c) (lvl : P × Q) :
    foldLevel side lvl = mergeLevel side (lvl.1, if 0 < lvl.2 then some lvl.2 else none) := by
  unfold foldLevel
  split <;> rfl

/-- Looking a price up after one level. -/
theorem getElem?_foldLevel {c : Compare} (side : SideMap P Q c) (lvl : P × Q) (p : P) :
    (foldLevel side lvl)[p]? =
      if p = lvl.1 then (if 0 < lvl.2 then some lvl.2 else none) else side[p]? := by
  rw [foldLevel_eq, getElem?_mergeLevel]

end BptCore.Book
