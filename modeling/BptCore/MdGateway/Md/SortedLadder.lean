import BptCore.Common.Book.OrderBookState
import BptCore.Lib.Table
import Mathlib.Algebra.Ring.Int.Defs

/-!
# The sorted ladder

One side of a decoder's book: an array of (price, qty) levels, searched by halving, in which an
update overwrites, inserts or removes one level.

* **`SortedLadder.apply`** — one update; **`SortedLadder.apply_data`** says what it does to the
  levels around its price, and the ordering and the map follow from that.
* **`SortedLadder.run`** — any sequence of updates and clearings.
* **`Ladders.apply`** — a whole frame, both sides; **`Ladders.Lists.apply`** follows it on the
  merged book.
* **`ladders_refine_plain_map_and_book`** — a ladder stays sorted without zero quantities, holds
  the map that the updates make, and lists the levels of an `OrderBookState` fed the same.
-/

namespace BptCore.MdGateway

open BptCore.Book SortedEntries

structure SortedLadder (c : Compare) (P Q : Type*) where
  data : List (P × Q) := []
  deriving DecidableEq, Repr

namespace SortedLadder

variable {c : Compare} {P Q : Type*} [LinearOrder P] [Zero Q] [DecidableEq Q]

/-- A zero quantity removes the level, any other sets it. -/
def apply (l : SortedLadder c P Q) (price : P) (qty : Q) : SortedLadder c P Q :=
  let it := lowerBound (fun lvl => c.cmp lvl.1 price == .lt) l.data
  let found := (l.data[it]?).any fun lvl => lvl.1 == price
  if qty = 0 then
    if found then { data := l.data.eraseIdx it } else l
  else if found then { data := l.data.modify it fun lvl => (lvl.1, qty) }
  else { data := l.data.insertIdx it (price, qty) }

/-- The updates of a ladder's owner. -/
inductive Op (P Q : Type*) where
  | apply (price : P) (qty : Q)
  | clear

def step (l : SortedLadder c P Q) : Op P Q → SortedLadder c P Q
  | .apply price qty => l.apply price qty
  | .clear => {}

def run (ops : List (Op P Q)) : SortedLadder c P Q := ops.foldl step {}

/-! ## One update -/

/-- What an update leaves at its own price. -/
def levelAt (price : P) (qty : Q) : List (P × Q) := if qty = 0 then [] else [(price, qty)]

omit [LinearOrder P] in
theorem mem_levelAt {price : P} {qty : Q} {e : P × Q} :
    e ∈ levelAt price qty ↔ qty ≠ 0 ∧ e = (price, qty) := by
  unfold levelAt
  split <;> simp_all

omit [Zero Q] [DecidableEq Q] in
/-- The search stops behind the levels that sort before the price. -/
theorem lowerBound_data {price : P} {a b : List (P × Q)} (ha : ∀ e ∈ a, c.cmp e.1 price = .lt)
    (hb : ∀ e ∈ b, c.cmp e.1 price ≠ .lt) :
    lowerBound (fun lvl : P × Q => c.cmp lvl.1 price == .lt) (a ++ b) = a.length :=
  lowerBound_append (fun e he => beq_iff_eq.mpr (ha e he))
    (fun e he => beq_eq_false_iff_ne.mpr (hb e he))

/-- An update at a price that the ladder does not have. -/
theorem apply_absent {price : P} {a b : List (P × Q)} (ha : ∀ e ∈ a, c.cmp e.1 price = .lt)
    (hb : ∀ e ∈ b, c.cmp price e.1 = .lt) (qty : Q) :
    (apply (c := c) ⟨a ++ b⟩ price qty).data = a ++ levelAt price qty ++ b := by
  have hit := lowerBound_data ha fun e he => cmp_lt_asymm (hb e he)
  have hfound : ((a ++ b)[a.length]?).any (fun lvl => lvl.1 == price) = false := by
    rw [List.getElem?_append_right (Nat.le_refl _), Nat.sub_self]
    cases b with
    | nil => rfl
    | cons e b => exact beq_eq_false_iff_ne.mpr (ne_of_cmp_lt (hb e List.mem_cons_self)).symm
  simp only [apply, hit, hfound, levelAt, Bool.false_eq_true, if_false]
  split
  · simp
  · simp [insertIdx_boundary]

/-- An update at a price that the ladder has. -/
theorem apply_present {price : P} {a b : List (P × Q)} {v : Q}
    (ha : ∀ e ∈ a, c.cmp e.1 price = .lt) (hb : ∀ e ∈ b, c.cmp price e.1 = .lt) (qty : Q) :
    (apply (c := c) ⟨a ++ (price, v) :: b⟩ price qty).data = a ++ levelAt price qty ++ b := by
  have hfrom : ∀ e ∈ (price, v) :: b, c.cmp e.1 price ≠ .lt := by
    intro e he
    rcases List.mem_cons.mp he with rfl | he
    · exact fun h => ne_of_cmp_lt h rfl
    · exact cmp_lt_asymm (hb e he)
  have hit := lowerBound_data ha hfrom
  have hfound : ((a ++ (price, v) :: b)[a.length]?).any (fun lvl => lvl.1 == price) = true := by
    rw [List.getElem?_append_right (Nat.le_refl _), Nat.sub_self]
    exact beq_iff_eq.mpr rfl
  simp only [apply, hit, hfound, levelAt, if_true]
  split
  · simp [eraseIdx_boundary]
  · simp [modify_boundary]

/-- **One update.** The levels that sort before and after the price stay, and between them stands
what the update leaves. -/
theorem apply_data {l : SortedLadder c P Q} (h : Ordered c.cmp l.data) (price : P) (qty : Q) :
    ∃ a b, (∀ e ∈ a, c.cmp e.1 price = .lt) ∧ (∀ e ∈ b, c.cmp price e.1 = .lt) ∧
      (∀ e, e ∈ a ∨ e ∈ b ↔ e ∈ l.data ∧ e.1 ≠ price) ∧ Ordered c.cmp a ∧ Ordered c.cmp b ∧
      (l.apply price qty).data = a ++ levelAt price qty ++ b := by
  obtain ⟨data⟩ := l
  cases h.split price with
  | absent a b ha hb =>
    obtain ⟨hoa, hob, -⟩ := ordered_append.mp h
    refine ⟨a, b, ha, hb, fun e => ?_, hoa, hob, apply_absent ha hb qty⟩
    have hne : e ∈ a ∨ e ∈ b → e.1 ≠ price := by
      rintro (he | he)
      · exact ne_of_cmp_lt (ha e he)
      · exact (ne_of_cmp_lt (hb e he)).symm
    simpa using hne
  | present a b v ha hb =>
    obtain ⟨hoa, hob, -⟩ := ordered_append.mp h
    refine ⟨a, b, ha, hb, fun e => ?_, hoa, (ordered_cons.mp hob).2, apply_present ha hb qty⟩
    have hne : e ∈ a ∨ e ∈ b → e.1 ≠ price := by
      rintro (he | he)
      · exact ne_of_cmp_lt (ha e he)
      · exact (ne_of_cmp_lt (hb e he)).symm
    constructor
    · intro he
      refine ⟨?_, hne he⟩
      rcases he with he | he <;> simp [he]
    · rintro ⟨he, hprice⟩
      rcases List.mem_append.mp he with he | he
      · exact .inl he
      · rcases List.mem_cons.mp he with rfl | he
        · exact absurd rfl hprice
        · exact .inr he

theorem ordered_apply {l : SortedLadder c P Q} (h : Ordered c.cmp l.data) (price : P) (qty : Q) :
    Ordered c.cmp (l.apply price qty).data := by
  obtain ⟨a, b, ha, hb, -, hoa, hob, hdata⟩ := apply_data h price qty
  have hmid : Ordered c.cmp (levelAt price qty ++ b) := by
    refine ordered_append.mpr ⟨?_, hob, fun e he e' he' => ?_⟩
    · unfold levelAt
      split
      · exact ordered_nil
      · exact List.pairwise_singleton _ _
    · obtain rfl := (mem_levelAt.mp he).2
      exact hb e' he'
  rw [hdata, List.append_assoc]
  refine ordered_append.mpr ⟨hoa, hmid, fun e he e' he' => ?_⟩
  rcases List.mem_append.mp he' with he' | he'
  · obtain rfl := (mem_levelAt.mp he').2
    exact ha e he
  · exact Std.TransCmp.lt_trans (ha e he) (hb e' he')

theorem mem_apply {l : SortedLadder c P Q} (h : Ordered c.cmp l.data) (price : P) (qty : Q)
    (e : P × Q) :
    e ∈ (l.apply price qty).data ↔ (qty ≠ 0 ∧ e = (price, qty)) ∨ (e ∈ l.data ∧ e.1 ≠ price) := by
  obtain ⟨a, b, -, -, hmem, -, -, hdata⟩ := apply_data h price qty
  rw [hdata, ← hmem e, ← mem_levelAt, List.mem_append, List.mem_append]
  tauto

/-- Looking a price up after an update. -/
theorem lookup_apply {l : SortedLadder c P Q} (h : Ordered c.cmp l.data) (price : P) (qty : Q)
    (p : P) :
    lookup c.cmp p (l.apply price qty).data =
      if p = price then (if qty = 0 then none else some qty) else lookup c.cmp p l.data := by
  refine Option.ext fun v => ?_
  rw [(ordered_apply h price qty).lookup_eq_some_iff, mem_apply h]
  split
  next heq =>
    subst heq
    by_cases hq : qty = 0 <;> simp [hq, eq_comm]
  next hne =>
    rw [h.lookup_eq_some_iff]
    simp [hne]

end SortedLadder

/-! ## Runs of updates -/

section Quantities

variable {P Q : Type*} [Zero Q] [LE Q]

/-- The update's quantity is one that a venue can report. -/
def SortedLadder.Op.Nonneg : SortedLadder.Op P Q → Prop
  | .apply _ qty => 0 ≤ qty
  | .clear => True

instance [DecidableLE Q] : (op : SortedLadder.Op P Q) → Decidable op.Nonneg
  | .apply _ qty => inferInstanceAs (Decidable (0 ≤ qty))
  | .clear => inferInstanceAs (Decidable True)

/-- The quantities of the frame are ones that a venue can report. -/
def FrameNonneg (f : BookFrame P Q) : Prop :=
  (∀ lvl ∈ f.bidLevels, 0 ≤ lvl.2) ∧ ∀ lvl ∈ f.askLevels, 0 ≤ lvl.2

instance [DecidableLE Q] (f : BookFrame P Q) : Decidable (FrameNonneg f) :=
  inferInstanceAs (Decidable (_ ∧ _))

end Quantities

section Runs

variable {c : Compare} {P Q : Type*} [LinearOrder P] [LinearOrder Q] [Zero Q]

namespace SortedLadder

/-- The update of a plain map: a positive quantity is set, zero erases. -/
def Op.onMap (t : Table P Q) : Op P Q → Table P Q
  | .apply price qty => if 0 < qty then t.insert price qty else t.erase price
  | .clear => ∅

/-- The ladder is sorted without zero quantities and holds the map `m`. -/
structure Holds (l : SortedLadder c P Q) (m : P → Option Q) : Prop where
  ordered : Ordered c.cmp l.data
  nonzero : ∀ lvl ∈ l.data, lvl.2 ≠ 0
  lookup_eq : ∀ p, lookup c.cmp p l.data = m p

omit [LinearOrder Q] in
theorem holds_empty : Holds ({} : SortedLadder c P Q) fun _ => none where
  ordered := ordered_nil
  nonzero := fun _ h => absurd h List.not_mem_nil
  lookup_eq := fun _ => rfl

/-- One update of the ladder is the same update of the map it holds. -/
theorem Holds.apply {l : SortedLadder c P Q} {m : P → Option Q} (h : l.Holds m) (price : P)
    {qty : Q} (hqty : 0 ≤ qty) :
    (l.apply price qty).Holds fun p =>
      if p = price then (if 0 < qty then some qty else none) else m p where
  ordered := ordered_apply h.ordered price qty
  nonzero := by
    intro lvl hlvl
    rcases (mem_apply h.ordered price qty lvl).mp hlvl with ⟨hne, rfl⟩ | ⟨hmem, -⟩
    · exact hne
    · exact h.nonzero lvl hmem
  lookup_eq := by
    intro p
    rw [lookup_apply h.ordered, h.lookup_eq]
    rcases hqty.eq_or_lt with hzero | hpos
    · simp [← hzero]
    · simp [hpos, hpos.ne']

/-- A run of the ladder holds the map that the same run makes of a plain one. -/
theorem holds_run {ops : List (Op P Q)} (hops : ∀ op ∈ ops, op.Nonneg) :
    (run ops : SortedLadder c P Q).Holds (ops.foldl Op.onMap ∅).lookup := by
  have hfrom : ∀ (l : SortedLadder c P Q) (t : Table P Q), l.Holds t.lookup →
      (ops.foldl step l).Holds (ops.foldl Op.onMap t).lookup := by
    induction ops with
    | nil => exact fun l t h => h
    | cons op ops ih =>
      intro l t h
      refine ih (fun op' hop' => hops op' (List.mem_cons_of_mem op hop')) _ _ ?_
      have hop := hops op List.mem_cons_self
      cases op with
      | apply price qty =>
        have hone := h.apply price hop
        refine ⟨hone.ordered, hone.nonzero, fun p => (hone.lookup_eq p).trans ?_⟩
        show _ = (if 0 < qty then t.insert price qty else t.erase price).lookup p
        by_cases hpos : 0 < qty
        · simp only [hpos, if_true, Table.lookup_insert_eq]
        · simp only [hpos, if_false, Table.lookup_erase_eq]
      | clear => exact holds_empty
  exact hfrom {} ∅ holds_empty

omit [LinearOrder Q] in
/-- A ladder that holds what a side of the folded book holds lists the same levels. -/
theorem Holds.data_eq {l : SortedLadder c P Q} {side : SideMap P Q c}
    (h : l.Holds fun p => side[p]?) : l.data = side.toList :=
  h.ordered.eq_toList h.lookup_eq

/-- The levels of one frame, applied one after the other. -/
def applyLevels (l : SortedLadder c P Q) (levels : List (P × Q)) : SortedLadder c P Q :=
  levels.foldl (fun l lvl => l.apply lvl.1 lvl.2) l

theorem Holds.applyLevels {l : SortedLadder c P Q} {side : SideMap P Q c}
    (h : l.Holds fun p => side[p]?) {levels : List (P × Q)} (hlevels : ∀ lvl ∈ levels, 0 ≤ lvl.2) :
    (l.applyLevels levels).Holds fun p => (foldInto side levels)[p]? := by
  induction levels generalizing l side with
  | nil => exact h
  | cons lvl levels ih =>
    refine ih ?_ fun lvl' h' => hlevels lvl' (List.mem_cons_of_mem lvl h')
    have hone := h.apply lvl.1 (hlevels lvl List.mem_cons_self)
    exact ⟨hone.ordered, hone.nonzero, fun p =>
      (hone.lookup_eq p).trans (getElem?_foldLevel side lvl p).symm⟩

/-- What an update says of its level. -/
def asChange (lvl : P × Q) : P × Option Q := (lvl.1, if lvl.2 = 0 then none else some lvl.2)

/-- An update of a ladder that lists a side of the merged book is the update of that side. -/
theorem data_apply_eq {l : SortedLadder c P Q} {side : SideMap P Q c}
    (h : l.data = side.toList) (lvl : P × Q) :
    (l.apply lvl.1 lvl.2).data = (mergeLevel side (asChange lvl)).toList := by
  have hordered : Ordered c.cmp l.data := h ▸ ordered_toList side
  refine (ordered_apply hordered lvl.1 lvl.2).eq_toList fun p => ?_
  rw [lookup_apply hordered, getElem?_mergeLevel, h, lookup_toList]
  rfl

theorem data_applyLevels_eq {l : SortedLadder c P Q} {side : SideMap P Q c}
    (h : l.data = side.toList) (levels : List (P × Q)) :
    (l.applyLevels levels).data = (mergeLevels side (levels.map asChange)).toList := by
  induction levels generalizing l side with
  | nil => exact h
  | cons lvl levels ih => exact ih (data_apply_eq h lvl)

end SortedLadder

/-! ## Both sides -/

/-- A decoder's book of one instrument. -/
structure Ladders (P Q : Type*) where
  bids : SortedLadder .greater P Q := {}
  asks : SortedLadder .less P Q := {}
  deriving DecidableEq, Repr

namespace Ladders

/-- One frame: a snapshot clears both sides before its levels are applied. -/
def apply (s : Ladders P Q) (f : BookFrame P Q) : Ladders P Q :=
  { bids := (if f.isSnapshot then {} else s.bids).applyLevels f.bidLevels
    asks := (if f.isSnapshot then {} else s.asks).applyLevels f.askLevels }

end Ladders

namespace Ladders

/-- The ladders hold what the folded book holds. -/
structure Holds (s : Ladders P Q) (b : OrderBookState P Q) : Prop where
  bids : s.bids.Holds fun p => b.bids[p]?
  asks : s.asks.Holds fun p => b.asks[p]?

omit [LinearOrder Q] in
theorem holds_empty : Holds ({} : Ladders P Q) {} :=
  ⟨SortedLadder.holds_empty, SortedLadder.holds_empty⟩

/-- A frame folded into both keeps them in agreement. -/
theorem Holds.apply {s : Ladders P Q} {b : OrderBookState P Q} (h : s.Holds b)
    {f : BookFrame P Q} (hf : FrameNonneg f) : (s.apply f).Holds (b.apply f) := by
  by_cases hsnap : f.isSnapshot
  · simp only [Ladders.apply, OrderBookState.apply, hsnap, if_true]
    exact ⟨holds_empty.bids.applyLevels hf.1, holds_empty.asks.applyLevels hf.2⟩
  · simp only [Ladders.apply, OrderBookState.apply, hsnap]
    exact ⟨h.bids.applyLevels hf.1, h.asks.applyLevels hf.2⟩

theorem Holds.foldl {s : Ladders P Q} {b : OrderBookState P Q} (h : s.Holds b)
    {frames : List (BookFrame P Q)} (hframes : ∀ f ∈ frames, FrameNonneg f) :
    (frames.foldl Ladders.apply s).Holds (frames.foldl OrderBookState.apply b) := by
  induction frames generalizing s b with
  | nil => exact h
  | cons f frames ih =>
    exact ih (h.apply (hframes f List.mem_cons_self)) fun f' hf' =>
      hframes f' (List.mem_cons_of_mem f hf')

/-- What a frame of the ladders does to the merged book. -/
def deltaOf (f : BookFrame P Q) : BookDelta P Q :=
  { isSnapshot := f.isSnapshot
    bids := f.bidLevels.map SortedLadder.asChange
    asks := f.askLevels.map SortedLadder.asChange }

/-- The ladders list the merged book. -/
structure Lists (s : Ladders P Q) (b : MergedBook P Q) : Prop where
  bids : s.bids.data = b.bids.toList
  asks : s.asks.data = b.asks.toList

omit [LinearOrder Q] [Zero Q] in
theorem lists_empty : Lists ({} : Ladders P Q) {} := ⟨rfl, rfl⟩

theorem Lists.apply {s : Ladders P Q} {b : MergedBook P Q} (h : s.Lists b) (f : BookFrame P Q) :
    (s.apply f).Lists (b.apply (deltaOf f)) := by
  obtain ⟨bids, asks, seqNum, timestampNs, isSnapshot⟩ := f
  cases isSnapshot with
  | true =>
    exact ⟨SortedLadder.data_applyLevels_eq lists_empty.bids bids,
      SortedLadder.data_applyLevels_eq lists_empty.asks asks⟩
  | false =>
    exact ⟨SortedLadder.data_applyLevels_eq h.bids bids,
      SortedLadder.data_applyLevels_eq h.asks asks⟩

end Ladders

/-- **The ladder is the map its updates make.** Whatever updates and clearings a ladder goes
through, it is strictly sorted, best first, without a zero quantity, and its levels are the
entries of a plain map after the same; and two ladders fed a book's frames list the sides of an
`OrderBookState` fed the same frames. -/
theorem ladders_refine_plain_map_and_book {ops : List (SortedLadder.Op P Q)}
    (hops : ∀ op ∈ ops, op.Nonneg) {frames : List (BookFrame P Q)}
    (hframes : ∀ f ∈ frames, FrameNonneg f) :
    (∀ c : Compare,
      Ordered c.cmp (SortedLadder.run ops : SortedLadder c P Q).data ∧
      (∀ lvl ∈ (SortedLadder.run ops : SortedLadder c P Q).data, lvl.2 ≠ 0) ∧
      ∀ p, lookup c.cmp p (SortedLadder.run ops : SortedLadder c P Q).data =
        (ops.foldl SortedLadder.Op.onMap ∅).lookup p) ∧
    (frames.foldl Ladders.apply {}).bids.data =
      (frames.foldl OrderBookState.apply {}).bids.toList ∧
    (frames.foldl Ladders.apply {}).asks.data =
      (frames.foldl OrderBookState.apply {}).asks.toList := by
  have hboth := Ladders.holds_empty.foldl hframes
  refine ⟨fun c => ?_, hboth.bids.data_eq, hboth.asks.data_eq⟩
  have hrun : (SortedLadder.run ops : SortedLadder c P Q).Holds _ := SortedLadder.holds_run hops
  exact ⟨hrun.ordered, hrun.nonzero, hrun.lookup_eq⟩

theorem ladders_refine_plain_map_and_book_deleted :
    lookup Compare.greater.cmp 7
        (SortedLadder.run [.apply 9 2, .apply 7 1, .apply 9 0, .apply 8 0] :
          SortedLadder .greater Int Int).data =
      ([.apply 9 2, .apply 7 1, .apply 9 0, .apply 8 0].foldl SortedLadder.Op.onMap
        (∅ : Table Int Int)).lookup 7 ∧
    ([⟨[(9, 2), (7, 1)], [(11, 3)], 0, 0, true⟩, ⟨[(9, 0), (8, 4)], [(12, 0)], 0, 0, false⟩].foldl
      Ladders.apply ({} : Ladders Int Int)).bids.data = [(8, 4), (7, 1)] := by
  have hops : ∀ op ∈ ([.apply 9 2, .apply 7 1, .apply 9 0, .apply 8 0] :
      List (SortedLadder.Op Int Int)), op.Nonneg := by decide
  have hframes : ∀ f ∈ ([⟨[(9, 2), (7, 1)], [(11, 3)], 0, 0, true⟩,
      ⟨[(9, 0), (8, 4)], [(12, 0)], 0, 0, false⟩] : List (BookFrame Int Int)),
      FrameNonneg f := by decide
  have hboth := ladders_refine_plain_map_and_book hops hframes
  exact ⟨(hboth.1 .greater).2.2 7, hboth.2.1.trans (by decide)⟩

end Runs

end BptCore.MdGateway
