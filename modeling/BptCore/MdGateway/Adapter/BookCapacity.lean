import BptCore.MdGateway.Adapter.DeribitMdDecoder
import BptCore.MdGateway.Adapter.LostFrames
import BptCore.MdGateway.Subscription.SubscriptionManager

/-!
# The capacity of a published side

A side of `MdOrderBook` has room for `kMaxBookLevels` levels. The loops of the OKX and the Deribit
decoder stop at the depth of the subscription, any byte that a consumer has sent; nothing between
the wire and the loop compares it with the capacity.

* **`BookGateway`** — the manager, the commands on their way to the two adapters, the decoders.
* **`OkxMdDecoder.Fits`**, **`DeribitMdDecoder.Fits`** — the frames whose sides have room, up to
  the depth of their subscription.
* **`appended_below_capacity_iff`** — in a whole run every level is appended below the capacity
  exactly when every frame fits.
* **`appended_below_capacity_of_shallow`** — subscriptions that are no deeper than a side are
  enough.
-/

namespace BptCore.MdGateway

open BptCore.Book

/-- A side with these levels has room for them, up to the depth. -/
def HasRoom (depth : Nat) (lvls : List (ℚ × ℚ)) : Prop := min depth lvls.length ≤ kMaxBookLevels

theorem hasRoom_of_le {depth : Nat} (h : depth ≤ kMaxBookLevels) (lvls : List (ℚ × ℚ)) :
    HasRoom depth lvls :=
  (Nat.min_le_left _ _).trans h

theorem hasRoom_iff_ofList? (depth : Nat) (lvls : List (ℚ × ℚ)) :
    HasRoom depth lvls ↔ ∃ v : Levels, InlineVec.ofList? (lvls.take depth) = some v := by
  rw [HasRoom, ← List.length_take, ← Nat.not_lt,
    ← InlineVec.ofList?_eq_none_iff (n := kMaxBookLevels), ← Ne, Option.ne_none_iff_exists']

/-! ## OKX -/

namespace OkxMdDecoder

variable (d : OkxMdDecoder)

/-- Ladders of which one is empty are not published. -/
def LaddersFit (depth : Nat) (state : Ladders ℚ ℚ) : Prop :=
  state.bids.data = [] ∨ state.asks.data = [] ∨
    (HasRoom depth state.bids.data ∧ HasRoom depth state.asks.data)

/-- The ladders that a book frame of a subscribed instrument leaves have room, up to the depth. -/
def Fits (frame : OkxFrame) : Prop :=
  match bookOf frame with
  | none => True
  | some (instId, snapshot, entry) =>
    (d.subs.find instId).1 ≠ 0 →
      match entry.bids, entry.asks with
      | some bids, some asks =>
        LaddersFit (d.subs.find instId).2
          ((d.stateOf (d.subs.find instId).1).apply (bookFrame bids asks snapshot))
      | _, _ => True

theorem publishBook_below_capacity_iff (state : Ladders ℚ ℚ) (instrumentId recvNs depth : Nat) :
    .overflow ∉ publishBook state instrumentId recvNs depth ↔ LaddersFit depth state := by
  unfold publishBook LaddersFit
  split
  next hside => exact iff_of_true List.not_mem_nil (or_assoc.mp (.inl hside))
  next hside =>
    obtain ⟨hbids, hasks⟩ := not_or.mp hside
    have hfill : ∀ lvls : List (ℚ × ℚ), (InlineVec.empty : Levels).fill depth lvls =
        InlineVec.ofList? (lvls.take depth) := fun lvls => InlineVec.fill_eq depth lvls _
    simp only [hbids, hasks, false_or, hasRoom_iff_ofList?, hfill]
    split
    next bids asks hb ha =>
      exact iff_of_true (by simp [MdOutput.bookAndBbo]) ⟨⟨bids, hb⟩, ⟨asks, ha⟩⟩
    next hfull =>
      refine iff_of_false (fun h => h List.mem_cons_self) ?_
      rintro ⟨⟨bids, hb⟩, ⟨asks, ha⟩⟩
      exact hfull bids asks hb ha

theorem laddersFit_of_le {depth : Nat} (h : depth ≤ kMaxBookLevels) (state : Ladders ℚ ℚ) :
    LaddersFit depth state :=
  .inr (.inr ⟨hasRoom_of_le h _, hasRoom_of_le h _⟩)

theorem decode_below_capacity_iff (frame : OkxFrame) (recvNs : Nat) :
    .overflow ∉ (d.decode frame recvNs).2 ↔ d.Fits frame := by
  unfold Fits
  cases hbook : bookOf frame with
  | none => exact iff_of_true (d.decode_of_not_book hbook recvNs).2.1.2 trivial
  | some book =>
    obtain ⟨instId, snapshot, entry⟩ := book
    rw [d.decode_of_book hbook]
    by_cases hid : (d.subs.find instId).1 = 0
    · rw [if_pos hid]
      exact iff_of_true List.not_mem_nil fun hne => absurd hid hne
    · rw [if_neg hid]
      simp only [ne_eq, hid, not_false_eq_true, true_implies]
      by_cases hdepth : (d.subs.find instId).2 = 0
      · -- without a depth the frame goes to the BBO
        rw [if_pos hdepth, hdepth]
        refine iff_of_true (quiet_handleBbo _ _ _).2 ?_
        cases entry.bids with
        | none => trivial
        | some bids =>
          cases entry.asks with
          | none => trivial
          | some asks => exact laddersFit_of_le (Nat.zero_le _) _
      · rw [if_neg hdepth]
        cases hbids : entry.bids with
        | none =>
          rw [handleBook, hbids]
          exact iff_of_true List.not_mem_nil trivial
        | some bids =>
          cases hasks : entry.asks with
          | none =>
            simp only [handleBook, hbids, hasks]
            exact iff_of_true List.not_mem_nil trivial
          | some asks =>
            rw [d.handleBook_of_sides hbids hasks]
            exact publishBook_below_capacity_iff _ _ _ _

theorem subs_decode (frame : OkxFrame) (recvNs : Nat) :
    (d.decode frame recvNs).1.subs = d.subs := by
  cases hbook : bookOf frame with
  | none => rw [(d.decode_of_not_book hbook recvNs).1]
  | some book =>
    obtain ⟨instId, snapshot, entry⟩ := book
    rw [d.decode_of_book hbook]
    split
    · rfl
    · split
      · rfl
      · unfold handleBook
        dsimp only
        cases entry.bids with
        | none => rfl
        | some bids => cases entry.asks <;> rfl

theorem fits_of_depthsLe (h : d.subs.DepthsLe kMaxBookLevels) (frame : OkxFrame) :
    d.Fits frame := by
  unfold Fits
  split
  · trivial
  · intro _
    split
    · exact laddersFit_of_le (h.find _) _
    · trivial

end OkxMdDecoder

/-! ## Deribit -/

namespace DeribitMdDecoder

variable (d : DeribitMdDecoder)

/-- The loop over the asks runs only after the one over the bids. -/
def ObjectFits (depth : Nat) (data : DeribitObject) : Prop :=
  let isSnapshot := data.type == some "snapshot"
  match data.bids with
  | none => True
  | some bidsArr =>
    HasRoom depth (setLevels isSnapshot bidsArr) ∧
      match data.asks with
      | none => True
      | some asksArr => HasRoom depth (setLevels isSnapshot asksArr)

/-- A book frame of a subscribed instrument that shows no gap sets levels that have room, up to
the depth. -/
def Fits (frame : DeribitFrame) : Prop :=
  match bookOf frame with
  | none => True
  | some (symbol, data) =>
    d.subs.findId symbol ≠ 0 → d.gapAt symbol data = false →
      ObjectFits (d.subs.findDepth (d.subs.findId symbol)) data

/-- Without a depth the loops stop at one level, which always has room. -/
theorem hasRoom_maxLevels_iff (depth : Nat) (lvls : List (ℚ × ℚ)) :
    HasRoom (maxLevels depth) lvls ↔ HasRoom depth lvls := by
  unfold maxLevels
  split
  next => exact Iff.rfl
  next hzero =>
    exact iff_of_true (hasRoom_of_le (by decide) _) (hasRoom_of_le (by omega) _)

theorem publishLevels_below_capacity_iff (recvNs instrumentId depth : Nat) (data : DeribitObject) :
    .overflow ∉ publishLevels recvNs instrumentId (maxLevels depth) data ↔
      ObjectFits depth data := by
  unfold publishLevels ObjectFits
  simp only [← hasRoom_maxLevels_iff depth, hasRoom_iff_ofList?, parseLevels_empty, listed]
  cases data.bids with
  | none => exact iff_of_true List.not_mem_nil trivial
  | some bidsArr =>
    dsimp only
    cases (InlineVec.ofList? ((setLevels (data.type == some "snapshot") bidsArr).take
        (maxLevels depth)) : Option Levels) with
    | none => exact iff_of_false (fun h => h List.mem_cons_self) (by simp)
    | some bids =>
      cases data.asks with
      | none => exact iff_of_true List.not_mem_nil ⟨⟨bids, rfl⟩, trivial⟩
      | some asksArr =>
        dsimp only
        cases (InlineVec.ofList? ((setLevels (data.type == some "snapshot") asksArr).take
            (maxLevels depth)) : Option Levels) with
        | none => exact iff_of_false (fun h => h List.mem_cons_self) (by simp)
        | some asks =>
          refine iff_of_true ?_ ⟨⟨bids, rfl⟩, ⟨asks, rfl⟩⟩
          dsimp only
          split <;> simp [MdOutput.bookAndBbo]

theorem decode_below_capacity_iff (frame : DeribitFrame) (recvNs : Nat) :
    .overflow ∉ (d.decode frame recvNs).2 ↔ d.Fits frame := by
  unfold Fits
  cases hbook : bookOf frame with
  | none => exact iff_of_true (d.quiet_decode_of_not_book hbook recvNs).2 trivial
  | some book =>
    obtain ⟨symbol, data⟩ := book
    rw [d.decode_of_book hbook]
    by_cases hid : d.subs.findId symbol = 0
    · rw [if_pos hid]
      exact iff_of_true List.not_mem_nil fun hne => absurd hid hne
    · rw [if_neg hid, handleBook]
      simp only [ne_eq, hid, not_false_eq_true, true_implies]
      cases hgap : d.gapAt symbol data with
      | true => exact iff_of_true List.not_mem_nil fun h => by cases h
      | false =>
        simp only [Bool.false_eq_true, if_false, true_implies]
        exact publishLevels_below_capacity_iff recvNs _ _ data

theorem byId_decode (frame : DeribitFrame) (recvNs : Nat) :
    (d.decode frame recvNs).1.subs.byId = d.subs.byId := by
  unfold decode
  split
  · split <;> rfl
  · split
    · split
      · rfl
      · unfold handleNotification
        dsimp only
        split
        · rfl
        · split
          all_goals try rfl
          unfold handleBook
          split
          · exact SubscriptionMap.byId_requeue _ _
          · rfl
    · rfl

theorem fits_of_depthsLe (h : d.subs.DepthsLe kMaxBookLevels) (frame : DeribitFrame) :
    d.Fits frame := by
  unfold Fits
  split
  · trivial
  · intro _ _
    unfold ObjectFits
    dsimp only
    split
    · trivial
    · refine ⟨hasRoom_of_le (h.findDepth _) _, ?_⟩
      split
      · trivial
      · exact hasRoom_of_le (h.findDepth _) _

/-- The drain of the Deribit adapter: the decoder forgets a symbol that leaves. -/
def applyCmd (d : DeribitMdDecoder) : SubCmd → DeribitMdDecoder
  | .subscribe instrumentId symbol depth =>
    { d with subs := d.subs.subscribe instrumentId symbol depth }
  | .unsubscribe instrumentId =>
    let (subs, symbol) := d.subs.unsubscribe instrumentId
    let d := { d with subs := subs }
    if symbol = "" then d else d.forget symbol

end DeribitMdDecoder

/-! ## From the wire to the decoders -/

structure BookGateway where
  manager : SubscriptionManager
  okxCmds : List SubCmd := []
  okx : OkxMdDecoder := {}
  deribitCmds : List SubCmd := []
  deribit : DeribitMdDecoder := {}

/-- A batch is applied on the control thread; each adapter's publisher thread applies its commands
and parses frames, in any order with the rest. A connect resets the Deribit decoder. -/
inductive BookGatewayEvent where
  | batch (msg : MdSubscribeBatch)
  | okxDrain
  | okxFrame (frame : OkxFrame) (recvNs : Nat)
  | deribitDrain
  | deribitFrame (frame : DeribitFrame) (recvNs : Nat)
  | deribitConnect

/-- The command that a call leaves in the queue of the adapter `exchange`. -/
def commandOf (exchange : String) : ManagerCall → Option SubCmd
  | .subscribe e instrumentId symbol depth =>
    if e = exchange then some (.subscribe instrumentId symbol depth) else none
  | .unsubscribe e instrumentId => if e = exchange then some (.unsubscribe instrumentId) else none
  | .publishAck .. => none

namespace BookGateway

variable (g : BookGateway)

def step (g : BookGateway) : BookGatewayEvent → BookGateway × List MdOutput
  | .batch msg =>
    let (manager, calls) := g.manager.applyBatch msg
    ({ g with
        manager := manager
        okxCmds := g.okxCmds ++ calls.filterMap (commandOf "OKX")
        deribitCmds := g.deribitCmds ++ calls.filterMap (commandOf "DERIBIT") }, [])
  | .okxDrain =>
    ({ g with okx := g.okxCmds.foldl OkxMdAdapter.applyCmd g.okx, okxCmds := [] }, [])
  | .okxFrame frame recvNs =>
    let (okx, out) := g.okx.decode frame recvNs
    ({ g with okx := okx }, out)
  | .deribitDrain =>
    ({ g with
        deribit := g.deribitCmds.foldl DeribitMdDecoder.applyCmd g.deribit, deribitCmds := [] }, [])
  | .deribitFrame frame recvNs =>
    let (deribit, out) := g.deribit.decode frame recvNs
    ({ g with deribit := deribit }, out)
  | .deribitConnect => ({ g with deribit := g.deribit.reset }, [])

/-- The frame that is parsed has room. -/
def Fits (g : BookGateway) : BookGatewayEvent → Prop
  | .okxFrame frame _ => g.okx.Fits frame
  | .deribitFrame frame _ => g.deribit.Fits frame
  | _ => True

theorem step_below_capacity_iff (e : BookGatewayEvent) :
    (∀ o ∈ (step g e).2, o ≠ .overflow) ↔ g.Fits e := by
  have hmem : ∀ out : List MdOutput, (∀ o ∈ out, o ≠ .overflow) ↔ .overflow ∉ out := by
    intro out
    exact ⟨fun h hin => h _ hin rfl, fun h o ho heq => h (heq ▸ ho)⟩
  cases e with
  | okxFrame frame recvNs => exact (hmem _).trans (g.okx.decode_below_capacity_iff frame recvNs)
  | deribitFrame frame recvNs =>
    exact (hmem _).trans (g.deribit.decode_below_capacity_iff frame recvNs)
  | batch msg => exact iff_of_true (by simp [step]) trivial
  | okxDrain => exact iff_of_true (by simp [step]) trivial
  | deribitDrain => exact iff_of_true (by simp [step]) trivial
  | deribitConnect => exact iff_of_true (by simp [step]) trivial

/-- **The unchecked depth.** Whatever batches arrive, whenever the adapters apply them and whatever
frames they parse: no level of a run is appended to a full side exactly when every book frame has
room, that is, when no side has more than `kMaxBookLevels` levels within the depth that its
subscription asks for. -/
theorem appended_below_capacity_iff (adapters : List String) (events : List BookGatewayEvent) :
    (∀ o ∈ Machine.outputs step { manager := { adapters := adapters } } events, o ≠ .overflow) ↔
      Machine.AlongRun step Fits { manager := { adapters := adapters } } events := by
  rw [Machine.forall_outputs_iff_alongRun]
  exact Machine.alongRun_congr (J := fun _ => True) (fun _ _ _ => trivial)
    (fun g e _ => g.step_below_capacity_iff e) trivial events

/-! ## Shallow subscriptions -/

def CmdsLe (maxDepth : Nat) (cmds : List SubCmd) : Prop :=
  ∀ instrumentId symbol depth, SubCmd.subscribe instrumentId symbol depth ∈ cmds → depth ≤ maxDepth

theorem cmdsLe_nil (maxDepth : Nat) : CmdsLe maxDepth [] := by
  intro instrumentId symbol depth h
  cases h

/-- Every depth on the way from the wire to the decoders is at most `maxDepth`. -/
structure Shallow (maxDepth : Nat) (g : BookGateway) : Prop where
  okxCmds : CmdsLe maxDepth g.okxCmds
  okx : g.okx.subs.DepthsLe maxDepth
  deribitCmds : CmdsLe maxDepth g.deribitCmds
  deribit : g.deribit.subs.DepthsLe maxDepth

/-- A batch of the run asks for no more than `maxDepth` levels. -/
def AsksFor (maxDepth : Nat) : BookGatewayEvent → Prop
  | .batch msg => ∀ g ∈ msg.instruments, g.depth.toNat ≤ maxDepth
  | _ => True

/-- The first loop subscribes nothing. -/
theorem subscribe_notMem_dropOld (c : Nat) (new old : List Nat) (m : SubscriptionManager)
    {exchange symbol : String} {instrumentId depth : Nat} :
    .subscribe exchange instrumentId symbol depth ∉
      Machine.outputs (SubscriptionManager.dropOld c new) m old := by
  have hnot : ∀ call ∈ Machine.outputs (SubscriptionManager.dropOld c new) m old,
      call ≠ .subscribe exchange instrumentId symbol depth := by
    rw [Machine.forall_outputs_iff_alongRun]
    refine .of_forall_mem (fun i _ s => ?_) m
    unfold SubscriptionManager.dropOld
    split
    · simp
    · split
      · simp
      · dsimp only
        split
        · split <;> simp
        · simp
  exact fun h => hnot _ h rfl

theorem depth_of_wantNew {c : Nat} {desired : List SubscribeRequest} {m : SubscriptionManager}
    {exchange symbol : String} {instrumentId depth : Nat}
    (h : .subscribe exchange instrumentId symbol depth ∈
      Machine.outputs (SubscriptionManager.wantNew c) m desired) :
    ∃ d ∈ desired, depth = d.depth := by
  have hwant : ∀ call ∈ Machine.outputs (SubscriptionManager.wantNew c) m desired,
      call = .subscribe exchange instrumentId symbol depth → ∃ d ∈ desired, depth = d.depth := by
    rw [Machine.forall_outputs_iff_alongRun]
    refine .of_forall_mem (fun d hd s => ?_) m
    rintro call hcall rfl
    refine ⟨d, hd, ?_⟩
    unfold SubscriptionManager.wantNew at hcall
    split at hcall
    · simp at hcall
    · dsimp only at hcall
      split at hcall
      · simp only [List.cons_append, List.nil_append, List.mem_cons, List.not_mem_nil, or_false,
          ManagerCall.subscribe.injEq, reduceCtorEq] at hcall
        exact hcall.2.2.2
      · simp at hcall
  exact hwant _ h rfl

/-- The depth of a call is one that the batch names. -/
theorem depth_of_applyBatch {m : SubscriptionManager} {msg : MdSubscribeBatch}
    {exchange symbol : String} {instrumentId depth : Nat}
    (h : .subscribe exchange instrumentId symbol depth ∈ (m.applyBatch msg).2) :
    ∃ g ∈ msg.instruments, depth = g.depth.toNat := by
  obtain hin | hin := List.mem_append.mp h
  · exact absurd hin (subscribe_notMem_dropOld _ _ _ _)
  · obtain ⟨d, hd, hdepth⟩ := depth_of_wantNew hin
    obtain ⟨g, hg, rfl⟩ := List.mem_map.mp hd
    exact ⟨g, hg, hdepth⟩

theorem cmdsLe_batch {maxDepth : Nat} {msg : MdSubscribeBatch} (m : SubscriptionManager)
    (hmsg : ∀ g ∈ msg.instruments, g.depth.toNat ≤ maxDepth) {cmds : List SubCmd}
    (hcmds : CmdsLe maxDepth cmds) (exchange : String) :
    CmdsLe maxDepth (cmds ++ (m.applyBatch msg).2.filterMap (commandOf exchange)) := by
  intro instrumentId symbol depth hmem
  obtain hold | hnew := List.mem_append.mp hmem
  · exact hcmds _ _ _ hold
  · obtain ⟨call, hcall, hcmd⟩ := List.mem_filterMap.mp hnew
    unfold commandOf at hcmd
    split at hcmd
    · split at hcmd
      · cases hcmd
        obtain ⟨g, hg, rfl⟩ := depth_of_applyBatch hcall
        exact hmsg g hg
      · cases hcmd
    · split at hcmd <;> cases hcmd
    · cases hcmd

/-- The drain of an adapter, whose decoder `D` has the subscriptions `subs`. -/
theorem depthsLe_drain {D : Type} (subs : D → SubscriptionMap) {applyCmd : D → SubCmd → D}
    {maxDepth : Nat} {cmds : List SubCmd} (hcmds : CmdsLe maxDepth cmds)
    (hsubscribe : ∀ d instrumentId symbol depth, (subs d).DepthsLe maxDepth → depth ≤ maxDepth →
      (subs (applyCmd d (.subscribe instrumentId symbol depth))).DepthsLe maxDepth)
    (hunsubscribe : ∀ d instrumentId, (subs d).DepthsLe maxDepth →
      (subs (applyCmd d (.unsubscribe instrumentId))).DepthsLe maxDepth)
    {d : D} (h : (subs d).DepthsLe maxDepth) :
    (subs (cmds.foldl applyCmd d)).DepthsLe maxDepth := by
  induction cmds generalizing d with
  | nil => exact h
  | cons cmd cmds ih =>
    refine ih (fun _ _ _ hmem => hcmds _ _ _ (List.mem_cons_of_mem _ hmem)) ?_
    cases cmd with
    | subscribe instrumentId symbol depth =>
      exact hsubscribe d _ _ _ h (hcmds _ _ _ List.mem_cons_self)
    | unsubscribe instrumentId => exact hunsubscribe d _ h

theorem depthsLe_okxDrain {maxDepth : Nat} {cmds : List SubCmd} (hcmds : CmdsLe maxDepth cmds)
    {d : OkxMdDecoder} (h : d.subs.DepthsLe maxDepth) :
    (cmds.foldl OkxMdAdapter.applyCmd d).subs.DepthsLe maxDepth :=
  depthsLe_drain OkxMdDecoder.subs hcmds
    (fun _ _ _ _ hd hdepth => hd.subscribe _ _ hdepth) (fun _ _ hd => hd.unsubscribe _) h

theorem depthsLe_deribitDrain {maxDepth : Nat} {cmds : List SubCmd}
    (hcmds : CmdsLe maxDepth cmds) {d : DeribitMdDecoder} (h : d.subs.DepthsLe maxDepth) :
    (cmds.foldl DeribitMdDecoder.applyCmd d).subs.DepthsLe maxDepth := by
  refine depthsLe_drain DeribitMdDecoder.subs hcmds
    (fun _ _ _ _ hd hdepth => hd.subscribe _ _ hdepth) (fun d instrumentId hd => ?_) h
  have hleft := hd.unsubscribe instrumentId
  unfold DeribitMdDecoder.applyCmd
  dsimp only
  split <;> exact hleft

theorem Shallow.step {maxDepth : Nat} {g : BookGateway} (h : g.Shallow maxDepth)
    {e : BookGatewayEvent} (he : AsksFor maxDepth e) : (step g e).1.Shallow maxDepth := by
  cases e with
  | batch msg =>
    exact ⟨cmdsLe_batch _ he h.okxCmds _, h.okx, cmdsLe_batch _ he h.deribitCmds _, h.deribit⟩
  | okxDrain =>
    exact ⟨cmdsLe_nil _, depthsLe_okxDrain h.okxCmds h.okx, h.deribitCmds, h.deribit⟩
  | okxFrame frame recvNs =>
    -- a frame changes the ladders, not the subscriptions
    refine ⟨h.okxCmds, ?_, h.deribitCmds, h.deribit⟩
    show ((g.okx.decode frame recvNs).1.subs).DepthsLe maxDepth
    rw [OkxMdDecoder.subs_decode]
    exact h.okx
  | deribitDrain =>
    exact ⟨h.okxCmds, h.okx, cmdsLe_nil _, depthsLe_deribitDrain h.deribitCmds h.deribit⟩
  | deribitFrame frame recvNs =>
    -- a gap queues an entry again, which leaves the depths as they are
    refine ⟨h.okxCmds, h.okx, h.deribitCmds, fun id it hit => h.deribit id it ?_⟩
    rwa [← DeribitMdDecoder.byId_decode g.deribit frame recvNs]
  | deribitConnect => exact ⟨h.okxCmds, h.okx, h.deribitCmds, h.deribit⟩

/-- Subscriptions no deeper than a side are enough, whatever the frames carry. -/
theorem appended_below_capacity_of_shallow (adapters : List String)
    {events : List BookGatewayEvent} (h : ∀ e ∈ events, AsksFor kMaxBookLevels e) :
    Machine.AlongRun step Fits { manager := { adapters := adapters } } events := by
  refine Machine.AlongRun.of_assumption (I := Shallow kMaxBookLevels)
    (fun _ _ hg he => hg.step he) ?_ ?_ (.of_forall_mem (fun e he _ => h e he) _)
  · intro g e hg _
    cases e with
    | okxFrame frame recvNs => exact g.okx.fits_of_depthsLe hg.okx frame
    | deribitFrame frame recvNs => exact g.deribit.fits_of_depthsLe hg.deribit frame
    | _ => trivial
  · exact ⟨cmdsLe_nil _, by simp [SubscriptionMap.DepthsLe], cmdsLe_nil _,
      by simp [SubscriptionMap.DepthsLe]⟩

/-- A subscription of 25 levels, and a snapshot with 21 bids. -/
def deepRun : List BookGatewayEvent :=
  [.batch ⟨1, [⟨7, "OKX", "BTC-USDT-SWAP", 25⟩, ⟨8, "DERIBIT", "BTC-PERPETUAL", 25⟩]⟩,
    .okxDrain,
    .okxFrame
      { channel := some "books", instId := some "BTC-USDT-SWAP", action := some "snapshot"
        data := some
          [some
            { bids := some ((List.range 21).map fun k => [some (100 - k : ℚ), some 1])
              asks := some [[some 101, some 1]] }] } 0,
    .deribitDrain,
    .deribitFrame
      { method := some "subscription"
        params := some
          { channel := some "book.BTC-PERPETUAL.100ms"
            data := some (.object
              { type := some "snapshot", changeId := some 1
                bids := some ((List.range 21).map fun k => [.number (100 - k : ℚ), .number 1])
                asks := some [[.number 101, .number 1]] }) } } 0]

theorem appended_past_capacity :
    Machine.outputs step { manager := { adapters := ["OKX", "DERIBIT"] } } deepRun =
      [.overflow, .overflow] := by
  decide +kernel

end BookGateway

end BptCore.MdGateway
