import BptCore.Backtester.Matching.HeldOrders

/-!
# Resting orders and their slots

An order that rests with a slot is kept twice: in the table of the resting orders, and in the queue
of its level. The match of an order and the backstop keep the two in step, and serve or drop the
orders that the engine holds, and nothing else.

* **`Consistent`** — the invariant: level by level, the slots of ours are those of the resting
  orders, for what is left of each.
* **`Advances`** — what a part of the engine does: it keeps the invariant, and the fills it makes
  serve the held orders.
-/

namespace BptCore.Backtester

open OpenItems

/-- The resting orders with a slot in the queue of a level, with what is left of them. -/
def seededAt (orders : List OpenOrder) (s : OrderSide) (k : Int) : List (Nat × ℚ) :=
  (orders.filter fun o => o.queueSeeded && o.side == s && priceKey o.price == k).map
    fun o => (o.orderId, o.openQty)

/-- The queues and the table of the resting orders are in step. -/
structure Consistent (waiting : Multiset OpenOrder) (pending : Table String (List OpenOrder))
    (sq : SlotQueues) : Prop where
  unseeded : ∀ o ∈ waiting, o.queueSeeded = false
  slots : ∀ bk s k, (ours (sq.queueAt bk s k)).Perm (seededAt (restingIn pending bk) s k)
  left : ∀ bk, ∀ o ∈ restingIn pending bk, o.queueSeeded = true → kQtyTol < o.openQty
  own : ∀ bk, ∀ o ∈ restingIn pending bk, MatchingEngine.key o.exchange o.symbol = bk
  distinct : ((waiting + restingOrders pending).map OpenOrder.orderId).Nodup

theorem keys_heldOrders (waiting : Multiset OpenOrder) (pending : Table String (List OpenOrder)) :
    keys orderService (heldOrders waiting pending) =
      (waiting + restingOrders pending).map OpenOrder.orderId := by
  rw [keys, heldOrders, Multiset.map_map]
  rfl

theorem Consistent.keys_nodup {waiting : Multiset OpenOrder}
    {pending : Table String (List OpenOrder)} {sq : SlotQueues}
    (h : Consistent waiting pending sq) :
    (keys orderService (heldOrders waiting pending)).Nodup := by
  rw [keys_heldOrders]
  exact h.distinct

/-- What a part of the engine does to the orders and the queues. It drops no orders but those of
`L`. -/
structure Advances (L : Nat → Prop) (waiting : Multiset OpenOrder)
    (pending : Table String (List OpenOrder)) (fs : List FillReport)
    (waiting' : Multiset OpenOrder) (pending' : Table String (List OpenOrder)) (sq' : SlotQueues) :
    Prop where
  consistent : Consistent waiting' pending' sq'
  moves : Moves orderService L (heldOrders waiting pending) fs (heldOrders waiting' pending')

variable {waiting waiting' waiting'' : Multiset OpenOrder}
  {pending pending' pending'' : Table String (List OpenOrder)} {sq sq' sq'' : SlotQueues}
  {fs gs : List FillReport} {L : Nat → Prop}

theorem Advances.trans (h : Advances L waiting pending fs waiting' pending' sq')
    (h' : Advances L waiting' pending' gs waiting'' pending'' sq'') :
    Advances L waiting pending (fs ++ gs) waiting'' pending'' sq'' where
  consistent := h'.consistent
  moves := h.moves.trans h'.moves

theorem Advances.refl (h : Consistent waiting pending sq) :
    Advances L waiting pending [] waiting pending sq where
  consistent := h
  moves := .done _

/-! ## One book written -/

/-- The table with the orders of one book replaced. -/
structure Written (pending : Table String (List OpenOrder)) (bk : String)
    (orders : List OpenOrder) (pending' : Table String (List OpenOrder)) : Prop where
  lookup : ∀ bk', restingIn pending' bk' = if bk' = bk then orders else restingIn pending bk'
  all : restingOrders pending' = orders + restingOrders (pending.erase bk)

theorem Written.insert (pending : Table String (List OpenOrder)) (bk : String)
    (orders : List OpenOrder) : Written pending bk orders (pending.insert bk orders) where
  lookup bk' := by
    unfold restingIn
    rw [Table.lookup_insert_eq]
    split <;> rfl
  all := restingOrders_insert pending bk orders

theorem Written.rfl (pending : Table String (List OpenOrder)) (bk : String) :
    Written pending bk (restingIn pending bk) pending where
  lookup bk' := by
    split
    · next h => rw [h]
    · exact Eq.refl _
  all := restingOrders_eq pending bk

/-- **One book.** The invariant is kept when one book is written, if its levels agree with its new
orders, and no id comes in. -/
theorem Consistent.write (h : Consistent waiting pending sq) {bk : String}
    {orders : List OpenOrder} (hwritten : Written pending bk orders pending')
    (hunseeded : ∀ o ∈ waiting', o.queueSeeded = false)
    (hslots : ∀ s k, (ours (sq'.queueAt bk s k)).Perm (seededAt orders s k))
    (hothers : ∀ bk' s k, bk' ≠ bk → ours (sq'.queueAt bk' s k) = ours (sq.queueAt bk' s k))
    (hleft : ∀ o ∈ orders, o.queueSeeded = true → kQtyTol < o.openQty)
    (hown : ∀ o ∈ orders, MatchingEngine.key o.exchange o.symbol = bk)
    (hids : (waiting' + orders).map OpenOrder.orderId ≤
      (waiting + restingIn pending bk).map OpenOrder.orderId) :
    Consistent waiting' pending' sq' where
  unseeded := hunseeded
  slots bk' s k := by
    rw [hwritten.lookup]
    split
    · next hbk => rw [hbk]; exact hslots s k
    · next hbk => rw [hothers bk' s k hbk]; exact h.slots bk' s k
  left bk' o ho := by
    rw [hwritten.lookup] at ho
    split at ho
    · exact hleft o ho
    · exact h.left bk' o ho
  own bk' o ho := by
    rw [hwritten.lookup] at ho
    split at ho
    · next hbk => rw [hbk]; exact hown o ho
    · exact h.own bk' o ho
  distinct := by
    refine Multiset.nodup_of_le ?_ h.distinct
    rw [hwritten.all, restingOrders_eq pending bk, ← add_assoc, ← add_assoc, Multiset.map_add,
      Multiset.map_add _ (waiting + _)]
    exact add_le_add_left hids _

/-- A waiting order is dropped. -/
theorem Consistent.drop {o : OpenOrder} (h : Consistent (o ::ₘ waiting) pending sq) :
    Consistent waiting pending sq where
  unseeded o' ho' := h.unseeded o' (Multiset.mem_cons_of_mem ho')
  slots := h.slots
  left := h.left
  own := h.own
  distinct := by
    refine Multiset.nodup_of_le (Multiset.map_le_map ?_) h.distinct
    rw [Multiset.cons_add]
    exact Multiset.le_cons_self _ _

/-! ## An order comes to rest -/

theorem seededAt_append (orders orders' : List OpenOrder) (s : OrderSide) (k : Int) :
    seededAt (orders ++ orders') s k = seededAt orders s k ++ seededAt orders' s k := by
  rw [seededAt, List.filter_append, List.map_append]
  rfl

theorem seededAt_singleton (o : OpenOrder) (s : OrderSide) (k : Int) :
    seededAt [o] s k =
      if o.queueSeeded = true ∧ o.side = s ∧ priceKey o.price = k then [(o.orderId, o.openQty)]
      else [] := by
  unfold seededAt
  by_cases h : o.queueSeeded = true ∧ o.side = s ∧ priceKey o.price = k
  · obtain ⟨hseeded, hside, hkey⟩ := h
    rw [if_pos ⟨hseeded, hside, hkey⟩,
      List.filter_cons_of_pos (by simp [hseeded, hside, hkey])]
    rfl
  · rw [if_neg h, List.filter_cons_of_neg (by simpa [and_assoc] using h)]
    rfl

/-- The table with one more order at the end of a book. -/
theorem restingOrders_push (pending : Table String (List OpenOrder)) (bk : String)
    (o : OpenOrder) : restingOrders (pending.insert bk (restingIn pending bk ++ [o])) =
      o ::ₘ restingOrders pending := by
  rw [restingOrders_insert, restingOrders_eq pending bk, ← Multiset.coe_add,
    add_right_comm, Multiset.coe_singleton, add_comm, Multiset.singleton_add]

theorem heldOrders_push (waiting : Multiset OpenOrder) (pending : Table String (List OpenOrder))
    (bk : String) (o : OpenOrder) :
    heldOrders waiting (pending.insert bk (restingIn pending bk ++ [o])) =
      o.bare ::ₘ heldOrders waiting pending := by
  rw [heldOrders, restingOrders_push, Multiset.add_cons, Multiset.map_cons]
  rfl

theorem heldOrders_cons (o : OpenOrder) (waiting : Multiset OpenOrder)
    (pending : Table String (List OpenOrder)) :
    heldOrders (o ::ₘ waiting) pending = o.bare ::ₘ heldOrders waiting pending := by
  rw [heldOrders, Multiset.cons_add, Multiset.map_cons]
  rfl

/-- **An order comes to rest** at the end of its book, with a slot for what is left of it or
without. -/
theorem Consistent.push {o o' : OpenOrder} (h : Consistent (o ::ₘ waiting) pending sq)
    (hid : o'.orderId = o.orderId) {bk : String}
    (hown : MatchingEngine.key o'.exchange o'.symbol = bk)
    (hleft : o'.queueSeeded = true → kQtyTol < o'.openQty)
    (hslots : ∀ s k, ours (sq'.queueAt bk s k) = ours (sq.queueAt bk s k) ++ seededAt [o'] s k)
    (hothers : ∀ bk' s k, bk' ≠ bk → ours (sq'.queueAt bk' s k) = ours (sq.queueAt bk' s k)) :
    Consistent waiting (pending.insert bk (restingIn pending bk ++ [o'])) sq' := by
  refine h.write (.insert _ _ _) (fun o ho => h.unseeded o (Multiset.mem_cons_of_mem ho))
    (fun s k => ?_) hothers (fun x hx => ?_) (fun x hx => ?_) ?_
  · rw [hslots, seededAt_append]
    exact (h.slots bk s k).append_right _
  · rcases List.mem_append.mp hx with hx | hx
    · exact h.left bk x hx
    · rw [List.mem_singleton.mp hx]
      exact hleft
  · rcases List.mem_append.mp hx with hx | hx
    · exact h.own bk x hx
    · rw [List.mem_singleton.mp hx]
      exact hown
  · rw [← Multiset.coe_add, ← add_assoc, Multiset.coe_singleton, add_comm, Multiset.singleton_add,
      Multiset.map_cons, hid, Multiset.cons_add, Multiset.map_cons]

/-- `rest` puts a slot of the order at the back of its level, perhaps behind one of the venue. -/
theorem Consistent.rest {e : MatchingEngine} {o o' : OpenOrder} (book : OrderBookRecord)
    (h : Consistent (o ::ₘ waiting) e.pending e.slotQueues) (hid : o'.orderId = o.orderId)
    (hleft : kQtyTol < o'.openQty) :
    Consistent waiting (e.rest o' book).pending (e.rest o' book).slotQueues := by
  have hid' : ({ o' with queueSeeded := true } : OpenOrder).orderId = o.orderId := hid
  unfold MatchingEngine.rest
  refine h.push hid' rfl (fun _ => hleft) (fun s k => ?_) (fun bk' s k hbk => ?_)
  · rw [SlotQueues.queueAt_setLevelQueue, seededAt_singleton]
    dsimp only
    by_cases hlevel : s = o'.side ∧ k = priceKey o'.price
    · obtain ⟨rfl, rfl⟩ := hlevel
      simp only [and_self, if_true]
      rw [ours_append, SlotQueues.levelQueue_eq]
      congr 1
      split
      · rw [ours_append]
        exact List.append_nil _
      · rfl
    · rw [if_neg (fun h => hlevel h.2), if_neg (fun h => hlevel ⟨h.2.1.symm, h.2.2.symm⟩),
        List.append_nil]
  · rw [SlotQueues.queueAt_setLevelQueue, if_neg (fun h => hbk h.1)]

theorem heldOrders_rest (e : MatchingEngine) (o : OpenOrder) (book : OrderBookRecord) :
    heldOrders waiting (e.rest o book).pending = o.bare ::ₘ heldOrders waiting e.pending :=
  heldOrders_push waiting e.pending _ { o with queueSeeded := true }

/-! ## An order is matched -/

section Matched

variable {e : MatchingEngine} {o : OpenOrder}

/-- The other orders stay out of the match of one that waits. -/
theorem moves_waiting {t : Multiset OpenOrder} (h : Moves orderService L {o.bare} fs t) :
    Moves orderService L (heldOrders (o ::ₘ waiting) pending) fs
      (t + heldOrders waiting pending) := by
  rw [heldOrders_cons, ← Multiset.singleton_add]
  exact h.frame _

theorem moves_dropped (hL : L o.orderId) :
    Moves orderService L (heldOrders (o ::ₘ waiting) pending) [] (heldOrders waiting pending) := by
  rw [heldOrders_cons]
  exact .leave hL (.done _)

/-- What is left of an order comes to rest, if it is more than the tolerance. -/
theorem advances_rest_left (h : Consistent (o ::ₘ waiting) e.pending e.slotQueues) {o' : OpenOrder}
    (hid : o'.orderId = o.orderId) (hmoves : Moves orderService L {o.bare} fs (leftOver o'))
    (book : OrderBookRecord) :
    let out := if o'.filledQty < o'.quantity - kQtyTol then (e.rest o' book, fs) else (e, fs)
    Advances L (o ::ₘ waiting) e.pending out.2 waiting out.1.pending out.1.slotQueues := by
  dsimp only
  split
  · next hrests =>
    have hleft : kQtyTol < o'.openQty := lt_sub_comm.mp hrests
    refine ⟨h.rest book hid hleft, ?_⟩
    rw [leftOver, if_pos hleft] at hmoves
    rw [heldOrders_rest, ← Multiset.singleton_add]
    exact moves_waiting hmoves
  · next hdone =>
    refine ⟨h.drop, ?_⟩
    rw [leftOver_eq_zero (not_lt.mp (mt lt_sub_comm.mp hdone))] at hmoves
    rw [← zero_add (heldOrders waiting e.pending)]
    exact moves_waiting hmoves

/-- A market order gets what the book has of it, and the rest of it is dropped. -/
theorem moves_fillMarket {book : OrderBookRecord} {currentTs : Nat} (htype : o.type = .MARKET)
    (hL : (kQtyTol < o.openQty ∧ o.openQty ≤ depth (book.levels (opposite o.side)) + kQtyTol) ∨
      L o.orderId) :
    Moves orderService L (heldOrders (o ::ₘ waiting) pending)
      (MatchingEngine.fillMarket o book currentTs).2 (heldOrders waiting pending) := by
  have hopen : o.openQty ≤ kQtyTol → L o.orderId := fun hle =>
    hL.resolve_left fun hwanted => not_lt.mpr hle hwanted.1
  have hall : Moves orderService L (heldOrders (o ::ₘ waiting) pending) _
      (_ + heldOrders waiting pending) :=
    moves_waiting (fillMarket_moves book currentTs htype hopen)
  rcases hL with ⟨-, hdepth⟩ | hleave
  · rwa [leftOver_eq_zero (fillMarket_openQty book currentTs hdepth), zero_add] at hall
  · -- what the book does not have is dropped
    obtain ⟨filledQty, horder⟩ := fillMarket_order o book currentTs
    have hdropped := hall.trans (.leave_all _ fun x hx => by
      rw [eq_of_mem_leftOver hx, horder]
      exact hleave)
    rwa [List.append_nil] at hdropped

/-- What the match of an order does at once, and what is held of it afterwards. -/
theorem advances_processPendingSubmit (h : Consistent (o ::ₘ waiting) e.pending e.slotQueues)
    (hL : Completes e.books o ∨ L o.orderId) :
    Advances L (o ::ₘ waiting) e.pending (e.processPendingSubmit o).2 waiting
      (e.processPendingSubmit o).1.pending (e.processPendingSubmit o).1.slotQueues := by
  unfold MatchingEngine.processPendingSubmit
  unfold Completes at hL
  dsimp only
  split
  · next hbook =>
    rw [hbook] at hL
    split
    · next htype => exact ⟨h.drop, moves_dropped (hL.resolve_left fun hne => hne htype)⟩
    · refine ⟨h.push rfl rfl (fun hseeded => ?_) (fun s k => ?_) (fun _ _ _ _ => rfl), ?_⟩
      · rw [h.unseeded o (Multiset.mem_cons_self o waiting)] at hseeded
        cases hseeded
      · rw [seededAt_singleton, h.unseeded o (Multiset.mem_cons_self o waiting),
          if_neg (fun hseeded => Bool.false_ne_true hseeded.1), List.append_nil]
      · show Moves _ L _ [] (heldOrders waiting (e.pending.insert _ (restingIn _ _ ++ [o])))
        rw [heldOrders_push, heldOrders_cons]
        exact .done _
  · next book hbook =>
    rw [hbook] at hL
    split
    · next htype =>
      exact ⟨h.drop, moves_fillMarket htype (hL.imp_left fun hwanted =>
        ⟨hwanted.1, hwanted.2 htype⟩)⟩
    · have hopen : o.openQty ≤ kQtyTol → L o.orderId := fun hle =>
        hL.resolve_left fun hcompletes => not_lt.mpr hle hcompletes.1
      -- the match at the limit, when the order crosses; else there is none
      let matched :=
        if MatchingEngine.crosses o book ∧ o.type = .LIMIT then
          MatchingEngine.fillBookUntil o book (some o.price) .LIMIT e.currentTs
        else (o, [])
      have hmatched : Moves orderService L {o.bare} matched.2 (leftOver matched.1) ∧
          ∃ filledQty, matched.1 = { o with filledQty := filledQty } := by
        by_cases hcrosses : MatchingEngine.crosses o book ∧ o.type = .LIMIT
        · rw [show matched = _ from if_pos hcrosses]
          exact ⟨walkLevels_moves (fun _ => rfl) rfl hopen _, walkLevels_order _ _ _ _ _ _⟩
        · rw [show matched = _ from if_neg hcrosses]
          exact ⟨moves_leftOver hopen, o.filledQty, rfl⟩
      obtain ⟨hmoves, filledQty, horder⟩ := hmatched
      have hid : matched.1.orderId = o.orderId := by rw [horder]
      exact advances_rest_left h hid hmoves book

end Matched

theorem processPendingSubmit_books (e : MatchingEngine) (o : OpenOrder) :
    (e.processPendingSubmit o).1.books = e.books := by
  unfold MatchingEngine.processPendingSubmit
  dsimp only
  split
  · split <;> rfl
  · split
    · rfl
    · split
      · split <;> rfl
      · split <;> rfl

/-! ## The submits that are due -/

/-- The orders that wait to be matched. -/
def waitingOrders (submits : List PendingSubmit) : Multiset OpenOrder :=
  (submits.map PendingSubmit.order : List OpenOrder)

theorem waitingOrders_cons (ps : PendingSubmit) (submits : List PendingSubmit) :
    waitingOrders (ps :: submits) = ps.order ::ₘ waitingOrders submits := by
  rw [waitingOrders, List.map_cons, ← Multiset.cons_coe]
  rfl

theorem waitingOrders_perm {submits submits' : List PendingSubmit} (h : submits.Perm submits') :
    waitingOrders submits = waitingOrders submits' :=
  Multiset.coe_eq_coe.mpr (h.map PendingSubmit.order)

/-- The submits that are due complete, but for those of `L`. -/
def DueComplete (L : Nat → Prop) (books : Table String OrderBookRecord) (uptoTs : Nat)
    (submits : List PendingSubmit) : Prop :=
  ∀ ps ∈ submits, ps.scheduledMatchTs ≤ uptoTs → Completes books ps.order ∨ L ps.order.orderId

theorem advances_matchDue {uptoTs : Nat} {e : MatchingEngine} {submits : List PendingSubmit}
    (h : Consistent (waitingOrders submits) e.pending e.slotQueues)
    (hL : DueComplete L e.books uptoTs submits) :
    let out := MatchingEngine.matchDue uptoTs e submits
    Advances L (waitingOrders submits) e.pending out.2.2 (waitingOrders out.2.1) out.1.pending
      out.1.slotQueues := by
  induction submits generalizing e with
  | nil => exact Advances.refl h
  | cons ps submits ih =>
    unfold MatchingEngine.matchDue
    split
    · exact Advances.refl h
    · next hdue =>
      rw [waitingOrders_cons] at h ⊢
      have hone := advances_processPendingSubmit
        (e := { e with currentTs := max e.currentTs ps.scheduledMatchTs }) h
        (hL ps List.mem_cons_self (not_lt.mp hdue))
      refine hone.trans (ih hone.consistent ?_)
      rw [processPendingSubmit_books]
      exact fun ps' hps' => hL ps' (List.mem_cons_of_mem ps hps')

namespace MatchingEngine

variable (e : MatchingEngine)

/-- The orders that the engine holds. -/
def held : Multiset OpenOrder := heldOrders (waitingOrders e.pendingSubmits) e.pending

/-- The engine's queues and its table of resting orders are in step. -/
def InStep : Prop := Consistent (waitingOrders e.pendingSubmits) e.pending e.slotQueues

/-- From engine to engine: what `Advances` says, with the submits that wait. -/
def Serves (L : Nat → Prop) (e : MatchingEngine) (fs : List FillReport) (e' : MatchingEngine) :
    Prop :=
  Advances L (waitingOrders e.pendingSubmits) e.pending fs (waitingOrders e'.pendingSubmits)
    e'.pending e'.slotQueues

/-- Scheduling fills changes the pending fills and the draws. -/
theorem scheduleFills_eq (fills : List FillReport) : ∃ pendingFills drawn, e.scheduleFills fills =
    { e with pendingFills := pendingFills, drawn := drawn } := by
  induction fills generalizing e with
  | nil => exact ⟨e.pendingFills, e.drawn, rfl⟩
  | cons fill fills ih =>
    obtain ⟨pendingFills, drawn, hrest⟩ := ih (e.scheduleFill fill)
    exact ⟨pendingFills, drawn, hrest⟩

theorem drainPendingSubmits_serves {e : MatchingEngine} (h : e.InStep) {uptoTs : Nat}
    (hL : DueComplete L e.books uptoTs e.pendingSubmits) :
    e.Serves L (e.drainPendingSubmits uptoTs).2 (e.drainPendingSubmits uptoTs).1 := by
  let sorted := e.pendingSubmits.insertionSort fun a b => a.scheduledMatchTs ≤ b.scheduledMatchTs
  let out := matchDue uptoTs e sorted
  have hperm : sorted.Perm e.pendingSubmits := List.perm_insertionSort _ _
  have hsorted : waitingOrders sorted = waitingOrders e.pendingSubmits := waitingOrders_perm hperm
  have hmatched : Advances L (waitingOrders sorted) e.pending out.2.2 (waitingOrders out.2.1)
      out.1.pending out.1.slotQueues :=
    advances_matchDue (hsorted ▸ h) fun ps hps => hL ps (hperm.mem_iff.mp hps)
  obtain ⟨pendingFills, drawn, hscheduled⟩ :=
    scheduleFills_eq { out.1 with pendingSubmits := out.2.1 } out.2.2
  show Advances L _ _ out.2.2
    (waitingOrders (scheduleFills { out.1 with pendingSubmits := out.2.1 } out.2.2).pendingSubmits)
    (scheduleFills { out.1 with pendingSubmits := out.2.1 } out.2.2).pending
    (scheduleFills { out.1 with pendingSubmits := out.2.1 } out.2.2).slotQueues
  rw [hscheduled, ← hsorted]
  exact hmatched

end MatchingEngine

/-! ## The backstop -/

/-- The price at which a resting order is filled once it crosses, 0 while it does not. -/
def crossingPx (book : OrderBookRecord) (o : OpenOrder) : ℚ :=
  match o.side with
  | .BUY => if book.touch .SELL > 0 ∧ book.touch .SELL ≤ o.price then book.touch .SELL else 0
  | .SELL => if book.touch .BUY > 0 ∧ book.touch .BUY ≥ o.price then book.touch .BUY else 0

theorem respects_crossingPx {book : OrderBookRecord} {o : OpenOrder} (h : 0 < crossingPx book o) :
    Respects o.side o.price (crossingPx book o) 0 := by
  unfold crossingPx Respects at *
  cases hside : o.side with
  | BUY =>
    rw [hside] at h
    dsimp only at h ⊢
    rw [add_zero]
    split
    · next hcross => exact hcross.2
    · next hcross => rw [if_neg hcross] at h; exact absurd h (lt_irrefl 0)
  | SELL =>
    rw [hside] at h
    dsimp only at h ⊢
    rw [sub_zero]
    split
    · next hcross => exact hcross.2
    · next hcross => rw [if_neg hcross] at h; exact absurd h (lt_irrefl 0)

theorem crossingFill_eq (book : OrderBookRecord) (currentTs : Nat) (o : OpenOrder) :
    MatchingEngine.crossingFill book currentTs o =
      if o.type ≠ .LIMIT ∨ o.queueSeeded then none
      else if crossingPx book o ≤ 0 then none
      else some
        { orderId := o.orderId
          clientOrderId := o.clientOrderId
          exchange := book.exchange
          symbol := book.symbol
          orderType := .LIMIT
          side := o.side
          liquidityRole := .MAKER
          originalQty := o.quantity
          orderPrice := o.price
          lastFillQty := o.quantity - o.filledQty
          lastFillPrice := crossingPx book o
          cumulativeFillQty := o.quantity
          isFullyFilled := true
          simulationTs := currentTs } :=
  rfl

/-- A fill of an order that has come to cross. -/
theorem fitsOrder_crossing {book : OrderBookRecord} {currentTs : Nat} {o : OpenOrder}
    {fr : FillReport} (h : MatchingEngine.crossingFill book currentTs o = some fr) :
    FitsOrder o.bare fr ∧ fr.isFullyFilled = true ∧ o.queueSeeded = false := by
  rw [crossingFill_eq] at h
  split at h
  · cases h
  · next hcond =>
    rw [not_or, Bool.not_eq_true] at hcond
    split at h
    · cases h
    · next hpx =>
      cases h
      refine ⟨⟨rfl, rfl, fun hopen => hopen.resolve_left Bool.noConfusion, ?_, le_refl _, ?_,
        fun _ => ?_⟩, rfl, hcond.2⟩
      · exact (add_sub_cancel o.filledQty o.quantity).symm
      · rw [eq_comm, decide_eq_true_iff]
        show o.quantity - o.quantity ≤ kQtyTol
        rw [sub_self]
        exact le_of_lt kQtyTol_pos
      · exact respects_crossingPx (not_le.mp hpx)

/-- The orders that have come to cross are filled and close; the others stay. -/
theorem moves_crossing (book : OrderBookRecord) (currentTs : Nat) (orders : List OpenOrder) :
    Moves orderService L ((orders : Multiset OpenOrder).map OpenOrder.bare)
      (orders.filterMap (MatchingEngine.crossingFill book currentTs))
      (((orders.filter fun o => (MatchingEngine.crossingFill book currentTs o).isNone) :
        Multiset OpenOrder).map OpenOrder.bare) := by
  induction orders with
  | nil => exact .done _
  | cons o orders ih =>
    rw [← Multiset.cons_coe, Multiset.map_cons]
    cases hfill : MatchingEngine.crossingFill book currentTs o with
    | none =>
      rw [List.filterMap_cons_none hfill,
        List.filter_cons_of_pos
          (p := fun o => (MatchingEngine.crossingFill book currentTs o).isNone)
          (by rw [hfill]; rfl), ← Multiset.cons_coe, Multiset.map_cons]
      have hframed := ih.frame {o.bare}
      rwa [add_comm, Multiset.singleton_add, add_comm, Multiset.singleton_add] at hframed
    | some fr =>
      obtain ⟨hfits, hfull, -⟩ := fitsOrder_crossing hfill
      rw [List.filterMap_cons_some hfill,
        List.filter_cons_of_neg
          (p := fun o => (MatchingEngine.crossingFill book currentTs o).isNone)
          (by rw [hfill]; exact Bool.false_ne_true)]
      exact .close hfits hfull ih

theorem seededAt_filter {p : OpenOrder → Bool} {orders : List OpenOrder}
    (hp : ∀ o ∈ orders, o.queueSeeded = true → p o = true) (s : OrderSide) (k : Int) :
    seededAt (orders.filter p) s k = seededAt orders s k := by
  unfold seededAt
  rw [List.filter_filter]
  congr 1
  refine List.filter_congr fun o ho => ?_
  cases hseeded : o.queueSeeded with
  | true => rw [hp o ho hseeded, Bool.and_true]
  | false => rfl

theorem crossingFill_of_seeded {book : OrderBookRecord} {currentTs : Nat} {o : OpenOrder}
    (h : o.queueSeeded = true) : MatchingEngine.crossingFill book currentTs o = none :=
  if_pos (Or.inr h)

/-- The orders of a book, of the held orders. -/
theorem heldOrders_eq (waiting : Multiset OpenOrder) (pending : Table String (List OpenOrder))
    (bk : String) : heldOrders waiting pending =
      (restingIn pending bk : Multiset OpenOrder).map OpenOrder.bare +
        (waiting + restingOrders (pending.erase bk)).map OpenOrder.bare := by
  rw [heldOrders, restingOrders_eq pending bk, ← Multiset.map_add]
  congr 1
  exact add_left_comm _ _ _

theorem Written.held {bk : String} {orders : List OpenOrder}
    (h : Written pending bk orders pending') (waiting : Multiset OpenOrder) :
    heldOrders waiting pending' = (orders : Multiset OpenOrder).map OpenOrder.bare +
      (waiting + restingOrders (pending.erase bk)).map OpenOrder.bare := by
  rw [heldOrders, h.all, ← Multiset.map_add]
  congr 1
  exact add_left_comm _ _ _

/-- Orders of a book that are served among themselves. -/
theorem Written.moves {bk : String} {orders : List OpenOrder}
    (h : Written pending bk orders pending')
    (hmoves : Moves orderService L ((restingIn pending bk : Multiset OpenOrder).map OpenOrder.bare)
      fs ((orders : Multiset OpenOrder).map OpenOrder.bare)) :
    Moves orderService L (heldOrders waiting pending) fs (heldOrders waiting pending') := by
  rw [heldOrders_eq waiting pending bk, h.held]
  exact hmoves.frame _

theorem advances_fillCrossingLimits {e : MatchingEngine} (bk : String)
    (h : Consistent waiting e.pending e.slotQueues) :
    Advances L waiting e.pending (e.fillCrossingLimits bk).2 waiting
      (e.fillCrossingLimits bk).1.pending (e.fillCrossingLimits bk).1.slotQueues := by
  unfold MatchingEngine.fillCrossingLimits
  split
  · next book orders hbook horders =>
    split
    · exact Advances.refl h
    · have hresting : restingIn e.pending bk = orders := by rw [restingIn, horders]; rfl
      have hwritten := Written.insert e.pending bk
        (orders.filter fun o => (MatchingEngine.crossingFill book e.currentTs o).isNone)
      constructor
      · refine h.write hwritten h.unseeded (fun s k => ?_) (fun _ _ _ _ => rfl) (fun o ho => ?_)
          (fun o ho => ?_) ?_
        · rw [seededAt_filter fun o _ hseeded => by rw [crossingFill_of_seeded hseeded]; rfl,
            ← hresting]
          exact h.slots bk s k
        · exact h.left bk o (hresting ▸ (List.mem_filter.mp ho).1)
        · exact h.own bk o (hresting ▸ (List.mem_filter.mp ho).1)
        · rw [hresting]
          exact Multiset.map_le_map (add_le_add_right
            (Multiset.coe_le.mpr List.filter_sublist.subperm) waiting)
      · refine hwritten.moves ?_
        rw [hresting]
        exact moves_crossing book e.currentTs orders
  · exact Advances.refl h

end BptCore.Backtester
