import BptCore.OrderGateway.Adapter.HyperliquidOrderAdapter

/-!
# The venue ids of the Hyperliquid adapter

The maps between client ids and venue ids are written by the executor and by the reconciler,
without regard to what they hold. They stay inverse to each other as long as every event that
ties two ids together finds the pair already tied, or both ids free.

* **`step_maps`** — what one event can do to the maps.
* **`HoldsInFlight`** — a cancel on its way is for a pair that the maps hold.
* **`NamesOwnOrder`** — the ids that an event ties together are free, or tied already.
* **`maps_inverse_iff`** — the maps are inverse in every state of a run exactly when every step
  names its own order.
-/

namespace BptCore.OrderGateway.HyperliquidOrderAdapter

variable {a : HyperliquidOrderAdapter}

/-- The maps are inverse to each other. -/
def MapsInverse (a : HyperliquidOrderAdapter) : Prop :=
  Table.Inverse a.clientToExchOid a.exchOidToClient

/-- The cancel that is on its way is for a pair that the maps hold. -/
def HoldsInFlight (a : HyperliquidOrderAdapter) : Prop :=
  ∀ clientId exchOid, a.cancelInFlight = some (clientId, exchOid) →
    a.clientToExchOid.lookup clientId = some exchOid

/-- The pair that the event ties together is tied already, or has two free ids. -/
def NamesOwnOrder (a : HyperliquidOrderAdapter) (e : Event) : Prop :=
  ∀ clientId exchOid qty, a.assignment e = some (clientId, exchOid, qty) →
    a.clientToExchOid.lookup clientId = some exchOid ∨
      (a.clientToExchOid.lookup clientId = none ∧ a.exchOidToClient.lookup exchOid = none)

/-- The maps of two states agree. -/
def SameMaps (a a' : HyperliquidOrderAdapter) : Prop :=
  a'.clientToExchOid = a.clientToExchOid ∧ a'.exchOidToClient = a.exchOidToClient

/-- What an event leaves of the maps. -/
inductive MapsStep (a : HyperliquidOrderAdapter) (e : Event) (a' : HyperliquidOrderAdapter) : Prop
  | tied (c x q : Nat) (hassign : a.assignment e = some (c, x, q))
      (hclient : a'.clientToExchOid = a.clientToExchOid.insert c x)
      (hoid : a'.exchOidToClient = a.exchOidToClient.insert x c)
  | same (hassign : a.assignment e = none) (hmaps : SameMaps a a')
  | untied (c x : Nat) (hassign : a.assignment e = none) (hflight : a.cancelInFlight = some (c, x))
      (hclient : a'.clientToExchOid = a.clientToExchOid.erase c)
      (hoid : a'.exchOidToClient = a.exchOidToClient.erase x)

theorem mapsStep_newOrder (a : HyperliquidOrderAdapter) (req : NewOrderRequest)
    (reply : OrderReply) (nowNs : Nat) :
    MapsStep a (.newOrder req reply nowNs) (step a (.newOrder req reply nowNs)).1 := by
  by_cases hbusy : a.cancelInFlight.isSome
  · refine .same ?_ ?_
    · cases reply <;> simp [assignment, hbusy]
    · rw [step, if_pos hbusy]
      exact ⟨rfl, rfl⟩
  rw [step, if_neg hbusy]
  cases reply with
  | lost =>
    refine .same rfl ?_
    unfold sendNewOrder
    split <;> exact ⟨rfl, rfl⟩
  | body resp =>
    have hassign : a.assignment (.newOrder req (.body resp) nowNs) =
        answered a.assetMeta req resp nowNs := if_neg hbusy
    rw [sendNewOrder_body]
    cases hans : answered a.assetMeta req resp nowNs with
    | none => exact .same (hassign.trans hans) ⟨rfl, rfl⟩
    | some p => exact .tied p.1 p.2.1 p.2.2 (hassign.trans hans) rfl rfl

theorem mapsStep_cancelReply (a : HyperliquidOrderAdapter) (reply : Option CancelResponse)
    (nowNs : Nat) :
    MapsStep a (.cancelReply reply nowNs) (step a (.cancelReply reply nowNs)).1 := by
  rw [step]
  cases hflight : a.cancelInFlight with
  | none => exact .same rfl ⟨rfl, rfl⟩
  | some p =>
    obtain ⟨c, x⟩ := p
    dsimp only
    unfold answerCancel
    cases reply with
    | none => exact .same rfl ⟨rfl, rfl⟩
    | some resp =>
      dsimp only
      split
      · exact .untied c x rfl hflight rfl rfl
      · exact .same rfl ⟨rfl, rfl⟩

theorem mapsStep_reconcile (a : HyperliquidOrderAdapter) (openOrders : List HyperliquidOpenOrder)
    (userFills : List HyperliquidUserFill) (nowNs : Nat) :
    MapsStep a (.reconcile openOrders userFills nowNs)
      (step a (.reconcile openOrders userFills nowNs)).1 := by
  cases hcand : a.candidates with
  | nil =>
    simp only [step, hcand]
    exact .same (by simp [assignment, hcand]) ⟨rfl, rfl⟩
  | cons c rest =>
    simp only [step, hcand, onReconcileTerminal]
    by_cases hmem : c.clientOrderId ∈ a.clientToExchOid
    · rw [if_pos hmem]
      exact .same (by simp [assignment, hcand, hmem]) ⟨rfl, rfl⟩
    · rw [if_neg hmem]
      have htied : ∀ kind, (kind = .OpenOrder ∨ kind = .UserFill) →
          (HyperliquidReconciler.tryMatch c openOrders userFills priceTickE8).kind = kind →
          a.assignment (.reconcile openOrders userFills nowNs) = some (c.clientOrderId,
            (HyperliquidReconciler.tryMatch c openOrders userFills priceTickE8).exchOid,
            c.quantityE8) := by
        rintro kind (rfl | rfl) hkind <;> simp only [assignment, hcand, if_neg hmem, hkind]
      cases hkind : (HyperliquidReconciler.tryMatch c openOrders userFills priceTickE8).kind with
      | OpenOrder => exact .tied _ _ _ (htied _ (.inl rfl) hkind) rfl rfl
      | UserFill => exact .tied _ _ _ (htied _ (.inr rfl) hkind) rfl rfl
      | None => exact .same (by simp only [assignment, hcand, if_neg hmem, hkind]) ⟨rfl, rfl⟩
      | Ambiguous => exact .same (by simp only [assignment, hcand, if_neg hmem, hkind]) ⟨rfl, rfl⟩

/-- **One event** ties the pair of its assignment, unties the pair of an answered cancel, or
leaves the maps. -/
theorem step_maps (a : HyperliquidOrderAdapter) (e : Event) : MapsStep a e (step a e).1 := by
  cases e with
  | newOrder req reply nowNs => exact mapsStep_newOrder a req reply nowNs
  | cancel req =>
    refine .same rfl ?_
    simp only [step, sendCancel]
    split
    · exact ⟨rfl, rfl⟩
    · split
      · exact ⟨rfl, rfl⟩
      · split <;> exact ⟨rfl, rfl⟩
  | cancelReply reply nowNs => exact mapsStep_cancelReply a reply nowNs
  | reconcile openOrders userFills nowNs => exact mapsStep_reconcile a openOrders userFills nowNs
  | userFill fill recvNs => exact .same rfl ⟨rfl, rfl⟩

/-! ## What a run keeps -/

/-- An order's answer leaves the executor as it was. -/
theorem cancelInFlight_sendNewOrder (a : HyperliquidOrderAdapter) (req : NewOrderRequest)
    (reply : OrderReply) (nowNs : Nat) :
    (a.sendNewOrder req reply nowNs).1.cancelInFlight = a.cancelInFlight := by
  unfold sendNewOrder
  split
  · rfl
  · cases reply with
    | lost => rfl
    | body resp =>
      dsimp only
      split <;> rfl

/-- A recovery writes an id that was free: every pair the maps held stays. -/
theorem onReconcileTerminal_spec (a : HyperliquidOrderAdapter) (c : Candidate) (r : MatchResult)
    (nowNs : Nat) :
    (a.onReconcileTerminal c r nowNs).1.cancelInFlight = a.cancelInFlight ∧
      ∀ client x, a.clientToExchOid.lookup client = some x →
        (a.onReconcileTerminal c r nowNs).1.clientToExchOid.lookup client = some x := by
  unfold onReconcileTerminal
  split
  · exact ⟨rfl, fun _ _ h => h⟩
  next hmem =>
    have hassign : ∀ client x, a.clientToExchOid.lookup client = some x →
        (a.assign c.clientOrderId r.exchOid c.quantityE8).clientToExchOid.lookup client =
          some x := by
      intro client x hx
      have hne : client ≠ c.clientOrderId := by
        rintro rfl
        exact hmem (Table.mem_of_lookup hx)
      show (a.clientToExchOid.insert c.clientOrderId r.exchOid).lookup client = some x
      rw [Table.lookup_insert_eq, if_neg hne]
      exact hx
    cases r.kind with
    | None => exact ⟨rfl, fun _ _ h => h⟩
    | OpenOrder => exact ⟨rfl, hassign⟩
    | UserFill => exact ⟨rfl, hassign⟩
    | Ambiguous => exact ⟨rfl, fun _ _ h => h⟩

theorem HoldsInFlight.step {a : HyperliquidOrderAdapter} (h : a.HoldsInFlight) (e : Event) :
    (step a e).1.HoldsInFlight := by
  cases e with
  | newOrder req reply nowNs =>
    rw [HyperliquidOrderAdapter.step]
    split
    · exact h
    next hidle =>
      intro c x hflight
      rw [cancelInFlight_sendNewOrder] at hflight
      simp [hflight] at hidle
  | cancel req =>
    simp only [HyperliquidOrderAdapter.step]
    split
    · exact h
    · unfold sendCancel
      split
      · exact h
      next x hx =>
        split
        · intro c y hflight
          obtain ⟨rfl, rfl⟩ := Prod.mk.inj (Option.some.inj hflight)
          exact hx
        · exact h
  | cancelReply reply nowNs =>
    rw [HyperliquidOrderAdapter.step]
    cases hflight : a.cancelInFlight with
    | none => exact h
    | some p =>
      -- the answer ends the flight
      have hidle : (a.answerCancel p.1 p.2 reply nowNs).1.cancelInFlight = none := by
        unfold answerCancel
        cases reply with
        | none => rfl
        | some resp =>
          dsimp only
          split <;> rfl
      intro c x hc
      rw [show (a.answerCancel p.1 p.2 reply nowNs).1.cancelInFlight = some (c, x) from hc] at hidle
      cases hidle
  | reconcile openOrders userFills nowNs =>
    simp only [HyperliquidOrderAdapter.step]
    split
    · exact h
    next c rest hcand =>
      obtain ⟨hflight, hkept⟩ := onReconcileTerminal_spec { a with candidates := rest } c
        (HyperliquidReconciler.tryMatch c openOrders userFills priceTickE8) nowNs
      intro client x hx
      exact hkept client x (h client x (hflight.symm.trans hx))
  | userFill fill recvNs => exact h

/-- **One event**, from inverse maps: it leaves them inverse exactly when it names its own
order. -/
theorem mapsInverse_step_iff {a : HyperliquidOrderAdapter} (hflight : a.HoldsInFlight)
    (h : a.MapsInverse) (e : Event) : (step a e).1.MapsInverse ↔ a.NamesOwnOrder e := by
  unfold MapsInverse
  cases step_maps a e with
  | tied c x q hassign hclient hoid =>
    rw [hclient, hoid, Table.inverse_insert_iff h]
    constructor
    · rintro hpair c' x' q' hassign'
      rw [hassign] at hassign'
      cases hassign'
      exact hpair
    · intro hown
      exact hown c x q hassign
  | same hassign hmaps =>
    rw [hmaps.1, hmaps.2]
    refine iff_of_true h fun c x q hassign' => ?_
    rw [hassign] at hassign'
    cases hassign'
  | untied c x hassign hcancel hclient hoid =>
    rw [hclient, hoid]
    refine iff_of_true (h.erase (hflight c x hcancel)) fun c' x' q' hassign' => ?_
    rw [hassign] at hassign'
    cases hassign'

/-- **The maps stay inverse exactly when every event names its own order.** For every run of an
adapter from its start: the maps invert each other in every state exactly when no answer and no
recovery ties an id that is already tied to another. -/
theorem maps_inverse_iff (assetMeta : List String) (es : List Event) :
    Machine.AllStates step MapsInverse { assetMeta := assetMeta } es ↔
      Machine.AlongRun step NamesOwnOrder { assetMeta := assetMeta } es := by
  have hflight : HoldsInFlight { assetMeta := assetMeta } := by
    intro c x hc
    cases hc
  exact Machine.allStates_iff_alongRun (J := HoldsInFlight) (fun _ e h => h.step e)
    (fun _ e hJ hP => mapsInverse_step_iff hJ hP e) hflight Table.inverse_empty es

/-- Two orders of one shape: the first rests, the answer to the second is lost before the venue
has it, and the reconciler finds the first. -/
def sameShapeRun : List Event :=
  let order (id : Nat) : NewOrderRequest :=
    ⟨id, 100, 7219800000000, 10000, .BUY, .LIMIT, .GTC, 0, "BTC"⟩
  let resting : HyperliquidOpenOrder :=
    ⟨some "BTC", some "B", some (1 / 10000), some 72198, some 7⟩
  [.newOrder (order 1) (.body (.parsed "ok" (some { resting := some (some 7) }))) 1000,
    .newOrder (order 2) .lost 2000,
    .reconcile [resting] [] 3000]

/-- Afterwards both orders have the venue id 7, which is the second's. -/
theorem maps_not_inverse_same_shape :
    ¬ ∀ (assetMeta : List String) (es : List Event),
      Machine.AllStates step MapsInverse { assetMeta := assetMeta } es := by
  intro h
  have hfinal := (h ["BTC"] sameShapeRun).final 1 7
  have hclient : (Machine.exec step { assetMeta := ["BTC"] } sameShapeRun).clientToExchOid.lookup 1
      = some 7 := by decide +kernel
  have hoid : (Machine.exec step { assetMeta := ["BTC"] } sameShapeRun).exchOidToClient.lookup 7
      = some 2 := by decide +kernel
  rw [hclient, hoid] at hfinal
  simp at hfinal

end BptCore.OrderGateway.HyperliquidOrderAdapter
