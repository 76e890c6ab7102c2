import Mathlib.Algebra.Order.Field.Basic
import Mathlib.Tactic.FieldSimp
import Mathlib.Tactic.Linarith
import Mathlib.Tactic.Ring

/-!
# Average-cost position accounting

A position is a signed quantity that was entered at an average price. A trade of a signed
quantity either adds to the position, and moves the average, or reduces it, and realizes a gain;
a reduction beyond flat opens the other side at the price of the trade.

* **`Book.trade`** — one trade against a position.
* **`trade_buy_of_nonneg`** and its like — the four kinds of trade spelled out.
* **`trade_cash`** — what is realized, plus what went into the position, is the cash that moved.
* **`Book.Same`**, **`Same.trade`** — the average of a flat position means nothing, and no trade
  can tell.
* **`Book.Within`**, **`within_trade`** — the average of an open position lies among the prices it
  was entered at.
-/

namespace AverageCost

variable {K : Type*} [Field K]

/-- A position with what its reductions have realized. -/
structure Book (K : Type*) where
  net : K
  avg : K
  realized : K

namespace Book

/-- The same position, whatever the average when it is flat. -/
structure Same (b c : Book K) : Prop where
  net : b.net = c.net
  avg : b.net ≠ 0 → b.avg = c.avg
  realized : b.realized = c.realized

theorem Same.refl (b : Book K) : Same b b := ⟨rfl, fun _ => rfl, rfl⟩

theorem Same.symm {b c : Book K} (h : Same b c) : Same c b :=
  ⟨h.net.symm, fun hne => (h.avg (h.net ▸ hne)).symm, h.realized.symm⟩

theorem Same.trans {a b c : Book K} (h : Same a b) (h' : Same b c) : Same a c :=
  ⟨h.net.trans h'.net, fun hne => (h.avg hne).trans (h'.avg (h.net ▸ hne)),
    h.realized.trans h'.realized⟩

variable [LinearOrder K]

/-- The trade goes with the position, or opens one. -/
def Adds (b : Book K) (δ : K) : Prop := 0 ≤ b.net * δ

instance (b : Book K) (δ : K) : Decidable (b.Adds δ) := inferInstanceAs (Decidable (_ ≤ _))

/-- What one unit of the position gains when it is given up at `price`. -/
def gain (b : Book K) (price : K) : K := if 0 < b.net then price - b.avg else b.avg - price

/-- A trade of the signed quantity `δ` at `price`. -/
def trade (b : Book K) (δ price : K) : Book K :=
  if b.Adds δ then
    { net := b.net + δ
      avg := (b.avg * |b.net| + price * |δ|) / (|b.net| + |δ|)
      realized := b.realized }
  else
    { net := b.net + δ
      avg := if |b.net| < |δ| then price else b.avg
      realized := b.realized + min |δ| |b.net| * b.gain price }

variable (b : Book K) {δ price : K}

theorem trade_net : (b.trade δ price).net = b.net + δ := by
  unfold trade
  split <;> rfl

theorem trade_realized_of_adds (h : b.Adds δ) : (b.trade δ price).realized = b.realized := by
  rw [trade, if_pos h]

theorem trade_avg_of_not_adds (h : ¬ b.Adds δ) :
    (b.trade δ price).avg = if |b.net| < |δ| then price else b.avg := by
  rw [trade, if_neg h]

theorem trade_realized_of_not_adds (h : ¬ b.Adds δ) :
    (b.trade δ price).realized = b.realized + min |δ| |b.net| * b.gain price := by
  rw [trade, if_neg h]

variable {b} [IsStrictOrderedRing K]

/-! ## Adding -/

section Adds

variable (h : b.Adds δ) (hδ : δ ≠ 0)
include h

include hδ

/-- Adding puts the price of the trade into the position. -/
theorem trade_avg_mul_of_adds :
    (b.trade δ price).avg * (b.trade δ price).net = b.avg * b.net + price * δ := by
  have hpos : 0 < |b.net| + |δ| := add_pos_of_nonneg_of_pos (abs_nonneg _) (abs_pos.mpr hδ)
  have hne : |b.net| + |δ| ≠ 0 := ne_of_gt hpos
  rw [trade, if_pos h]
  dsimp only
  rcases mul_nonneg_iff.mp h with ⟨hnet, hd⟩ | ⟨hnet, hd⟩
  · rw [abs_of_nonneg hnet, abs_of_nonneg hd] at hne ⊢
    field_simp
  · rw [abs_of_nonpos hnet, abs_of_nonpos hd] at hne ⊢
    have hne' : b.net + δ ≠ 0 := fun hzero => hne (by linarith)
    rw [show b.avg * -b.net + price * -δ = -(b.avg * b.net + price * δ) by ring,
      show -b.net + -δ = -(b.net + δ) by ring, neg_div_neg_eq, div_mul_cancel₀ _ hne']

end Adds

/-! ## Reducing -/

/-- A reduction goes against an open position. -/
theorem opposite_of_not_adds (h : ¬ b.Adds δ) : (0 < b.net ∧ δ < 0) ∨ (b.net < 0 ∧ 0 < δ) :=
  mul_neg_iff.mp (not_le.mp h)

/-! ## The four kinds of trade

A purchase or a sale of the positive quantity `q`, along the position or against it. -/

section Kinds

variable (b) {q : K} (hq : 0 < q)
include hq

theorem trade_buy_of_nonneg (hnet : 0 ≤ b.net) :
    b.trade q price =
      { net := b.net + q
        avg := (b.avg * b.net + price * q) / (b.net + q)
        realized := b.realized } := by
  have hadds : b.Adds q := mul_nonneg hnet (le_of_lt hq)
  rw [trade, if_pos hadds, abs_of_nonneg hnet, abs_of_pos hq]

theorem trade_buy_of_neg (hnet : b.net < 0) :
    b.trade q price =
      { net := b.net + q
        avg := if -b.net < q then price else b.avg
        realized := b.realized + min q (-b.net) * (b.avg - price) } := by
  have hadds : ¬ b.Adds q := not_le.mpr (mul_neg_of_neg_of_pos hnet hq)
  rw [trade, if_neg hadds, gain, if_neg (not_lt.mpr (le_of_lt hnet)), abs_of_neg hnet,
    abs_of_pos hq]

theorem trade_sell_of_nonpos (hnet : b.net ≤ 0) :
    b.trade (-q) price =
      { net := b.net - q
        avg := (b.avg * -b.net + price * q) / (-b.net + q)
        realized := b.realized } := by
  have hadds : b.Adds (-q) := mul_nonneg_of_nonpos_of_nonpos hnet (neg_nonpos.mpr (le_of_lt hq))
  rw [trade, if_pos hadds, abs_of_nonpos hnet, abs_neg, abs_of_pos hq, sub_eq_add_neg]

theorem trade_sell_of_pos (hnet : 0 < b.net) :
    b.trade (-q) price =
      { net := b.net - q
        avg := if b.net < q then price else b.avg
        realized := b.realized + min q b.net * (price - b.avg) } := by
  have hadds : ¬ b.Adds (-q) := not_le.mpr (mul_neg_of_pos_of_neg hnet (neg_neg_of_pos hq))
  rw [trade, if_neg hadds, gain, if_pos hnet, abs_of_pos hnet, abs_neg, abs_of_pos hq,
    ← sub_eq_add_neg]

end Kinds

/-! ## Cash -/

variable (price) in
/-- **Cash.** What is realized, less what the position is worth at its average, moves by the cash
of the trade. -/
theorem trade_cash (hδ : δ ≠ 0) :
    (b.trade δ price).realized - (b.trade δ price).avg * (b.trade δ price).net =
      b.realized - b.avg * b.net - price * δ := by
  by_cases h : b.Adds δ
  · rw [trade_avg_mul_of_adds h hδ, trade_realized_of_adds b h]
    ring
  · rw [trade_avg_of_not_adds b h, trade_realized_of_not_adds b h, trade_net, gain]
    rcases opposite_of_not_adds h with ⟨hnet, hd⟩ | ⟨hnet, hd⟩
    · rw [abs_of_pos hnet, abs_of_neg hd, if_pos hnet]
      by_cases hflip : b.net < -δ
      · rw [if_pos hflip, min_eq_right (le_of_lt hflip)]
        ring
      · rw [if_neg hflip, min_eq_left (not_lt.mp hflip)]
        ring
    · rw [abs_of_neg hnet, abs_of_pos hd, if_neg (not_lt.mpr (le_of_lt hnet))]
      by_cases hflip : -b.net < δ
      · rw [if_pos hflip, min_eq_right (le_of_lt hflip)]
        ring
      · rw [if_neg hflip, min_eq_left (not_lt.mp hflip)]
        ring

/-! ## The average of a flat position -/

/-- A trade makes the same of the same position. -/
theorem Same.trade {b c : Book K} (h : Same b c) (δ price : K) :
    Same (b.trade δ price) (c.trade δ price) := by
  -- a flat position enters the new average with weight 0
  have hweight : b.avg * |b.net| = c.avg * |c.net| := by
    by_cases hzero : b.net = 0
    · rw [← h.net, hzero, abs_zero, mul_zero, mul_zero]
    · rw [h.avg hzero, h.net]
  have hadds : b.Adds δ ↔ c.Adds δ := by rw [Adds, Adds, h.net]
  by_cases hb : b.Adds δ
  · have hc := hadds.mp hb
    simp only [Book.trade, if_pos hb, if_pos hc, hweight]
    exact ⟨by rw [h.net], fun _ => by rw [h.net], h.realized⟩
  · have hc := mt hadds.mpr hb
    have hopen : b.net ≠ 0 := by
      rcases opposite_of_not_adds hb with ⟨hnet, -⟩ | ⟨hnet, -⟩
      · exact ne_of_gt hnet
      · exact ne_of_lt hnet
    have hgain : b.gain price = c.gain price := by rw [gain, gain, h.net, h.avg hopen]
    simp only [Book.trade, if_neg hb, if_neg hc, hgain, h.net, h.avg hopen, h.realized]
    exact Same.refl _

/-! ## Where the average lies -/

/-- The average of an open position lies between two of the prices. -/
def Within (b : Book K) (prices : List K) : Prop :=
  b.net ≠ 0 → ∃ lo ∈ prices, ∃ hi ∈ prices, lo ≤ b.avg ∧ b.avg ≤ hi

/-- The prices that a position was entered at on the side it is on: a trade that adds brings its
price, one that opens a side starts afresh, one that reduces leaves them. -/
def entries (net δ price : K) (prices : List K) : List K :=
  if net + δ = 0 then []
  else if 0 < net * δ then price :: prices
  else if net = 0 ∨ |net| < |δ| then [price]
  else prices

/-- A weighted mean lies between what it is taken of. -/
theorem mean_between {x y v w : K} (hv : 0 ≤ v) (hw : 0 < w) :
    min x y ≤ (x * v + y * w) / (v + w) ∧ (x * v + y * w) / (v + w) ≤ max x y := by
  have hpos : 0 < v + w := add_pos_of_nonneg_of_pos hv hw
  rw [le_div_iff₀ hpos, div_le_iff₀ hpos, mul_add, mul_add]
  constructor
  · exact add_le_add (mul_le_mul_of_nonneg_right (min_le_left x y) hv)
      (mul_le_mul_of_nonneg_right (min_le_right x y) (le_of_lt hw))
  · exact add_le_add (mul_le_mul_of_nonneg_right (le_max_left x y) hv)
      (mul_le_mul_of_nonneg_right (le_max_right x y) (le_of_lt hw))

variable (price) in
/-- **The average stays among the entry prices.** -/
theorem within_trade {prices : List K} (hδ : δ ≠ 0) (h : b.Within prices) :
    (b.trade δ price).Within (entries b.net δ price prices) := by
  intro hopen
  rw [trade_net] at hopen
  rw [entries, if_neg hopen]
  have hown : ∀ avg : K, avg = price →
      ∃ lo ∈ [price], ∃ hi ∈ [price], lo ≤ avg ∧ avg ≤ hi := fun avg havg =>
    ⟨price, List.mem_singleton_self price, price, List.mem_singleton_self price,
      le_of_eq havg.symm, le_of_eq havg⟩
  by_cases hadds : b.Adds δ
  · by_cases hflat : b.net = 0
    · -- opened from flat
      rw [if_neg (by rw [hflat, zero_mul]; exact lt_irrefl 0), if_pos (Or.inl hflat)]
      refine hown _ ?_
      rw [trade, if_pos hadds]
      dsimp only
      rw [hflat, abs_zero, mul_zero, zero_add, zero_add,
        mul_div_cancel_right₀ _ (ne_of_gt (abs_pos.mpr hδ))]
    · -- added to: the mean of the old average and the price
      have hside : 0 < b.net * δ := lt_of_le_of_ne hadds (mul_ne_zero hflat hδ).symm
      rw [if_pos hside]
      obtain ⟨lo, hlo, hi, hhi, hle, hge⟩ := h hflat
      have hmean := mean_between (x := b.avg) (y := price) (abs_nonneg b.net) (abs_pos.mpr hδ)
      have havg : (b.trade δ price).avg = (b.avg * |b.net| + price * |δ|) / (|b.net| + |δ|) := by
        rw [trade, if_pos hadds]
      rw [havg]
      have hlower : ∃ lo ∈ price :: prices, lo ≤ min b.avg price := by
        rcases min_choice b.avg price with hmin | hmin
        · exact ⟨lo, List.mem_cons_of_mem _ hlo, by rw [hmin]; exact hle⟩
        · exact ⟨price, List.mem_cons_self, by rw [hmin]⟩
      have hupper : ∃ hi ∈ price :: prices, max b.avg price ≤ hi := by
        rcases max_choice b.avg price with hmax | hmax
        · exact ⟨hi, List.mem_cons_of_mem _ hhi, by rw [hmax]; exact hge⟩
        · exact ⟨price, List.mem_cons_self, by rw [hmax]⟩
      obtain ⟨lo', hlo', hle'⟩ := hlower
      obtain ⟨hi', hhi', hge'⟩ := hupper
      exact ⟨lo', hlo', hi', hhi', hle'.trans hmean.1, hmean.2.trans hge'⟩
  · -- reduced, or flipped
    have hneg : ¬ 0 < b.net * δ := fun hside => hadds (le_of_lt hside)
    have hflat : b.net ≠ 0 := fun hzero => hadds (by rw [Adds, hzero, zero_mul])
    rw [if_neg hneg, trade_avg_of_not_adds b hadds]
    by_cases hflip : |b.net| < |δ|
    · rw [if_pos hflip, if_pos (Or.inr hflip)]
      exact hown _ rfl
    · rw [if_neg hflip, if_neg (fun hor => hor.elim hflat hflip)]
      exact h hflat

end Book

end AverageCost
