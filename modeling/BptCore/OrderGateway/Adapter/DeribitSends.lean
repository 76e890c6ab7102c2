import BptCore.Lib.Tickets
import BptCore.OrderGateway.Adapter.DeribitOrderAdapter

/-!
# What the Deribit adapter sends

The frames that wait to be sent are in the queue or in the executor's hand. A frame of the queue is
sent by the drain after a login, and by nothing else: one that is queued after the drain waits for
the next session, and one of an order that was cancelled meanwhile is sent nevertheless.

* **`Takes`** — what a step can do.
* **`sends_once`** — no frame is sent twice.
* **`Drained`**, **`QueuesInTime`** — the queue of a session that has logged in, and what keeps it
  empty.
* **`NoLateOrder`**, **`CancelsInTime`** — no new order goes out after its cancel, and what keeps it
  so.
* **`deribit_sends`** — all three, over every interleaving.
-/

namespace BptCore.OrderGateway

open Common (Json)

/-- The frame in the executor's hand. -/
def ExecutorPoint.frame : ExecutorPoint → Option NewOrderFrame
  | .queueing frame | .sending frame => some frame
  | _ => none

namespace DeribitOrderAdapter

/-! ## What a step can do -/

/-- The frames not yet handed to a session. -/
def openFrames (a : DeribitOrderAdapter) : List NewOrderFrame :=
  a.executor.frame.toList ++ a.pendingSends

/-- The order whose cancel a step is done with. -/
def accepts (a : DeribitOrderAdapter) : Event → Option Nat
  | .cancel req =>
    if a.executor = .idle ∧ a.decoder.getExchangeOrderId req.orderId = "" then some req.orderId
    else none
  | .executor _ _ =>
    match a.executor with
    | .cancelling orderId _ _ => some orderId
    | _ => none
  | _ => none

/-- Nothing is queued once the drain has finished. -/
def Drained (a : DeribitOrderAdapter) : Prop :=
  a.loggedIn = true → a.io = .ready → a.pendingSends = []

/-- The executor does not queue a frame after the drain, and the drain does not break off. -/
def QueuesInTime (a : DeribitOrderAdapter) : Event → Prop
  | .executor _ _ =>
    match a.executor with
    | .queueing _ => a.io ≠ .ready
    | _ => True
  | .io failing => a.io = .draining → failing = true → a.pendingSends.length ≤ 1
  | _ => True

/-- Past the answer to the login the flag is up. -/
def FlagUp (a : DeribitOrderAdapter) : Prop :=
  a.io = .down ∨ a.io = .connecting ∨ a.io = .up ∨ a.loggedIn = true

/-- Nothing happens to the frames and the cancels. -/
structure Quiet (a : DeribitOrderAdapter) (r : DeribitOrderAdapter × List Output) : Prop where
  openFrames : r.1.openFrames = a.openFrames
  pendingSends : r.1.pendingSends = a.pendingSends
  cancelAccepted : r.1.cancelAccepted = a.cancelAccepted
  jsonrpcId : a.jsonrpcId ≤ r.1.jsonrpcId
  silent : ∀ frame result, .newOrder frame result ∉ r.2
  ready : r.1.io = .ready → a.io = .ready
  flag : a.FlagUp → r.1.FlagUp

/-- What a step can do. -/
inductive Takes (a : DeribitOrderAdapter) : Event → DeribitOrderAdapter × List Output → Prop
  | quiet {e : Event} {r : DeribitOrderAdapter × List Output} (hnone : a.accepts e = none)
      (hintime : a.QueuesInTime e) (hquiet : Quiet a r) : Takes a e r
  | begins {req : NewOrderRequest} (hidle : a.executor = .idle) :
      Takes a (.newOrder req) (a.beginNewOrder req, [])
  | accepts {e : Event} {out : List Output} {orderId : Nat} (hsome : a.accepts e = some orderId)
      (hopen : a.openFrames = a.pendingSends)
      (hsilent : ∀ frame result, .newOrder frame result ∉ out) :
      Takes a e
        ({ a with executor := .idle, cancelAccepted := orderId :: a.cancelAccepted }, out)
  | queues {failing : Bool} {nowNs : Nat} {frame : NewOrderFrame}
      (hexecutor : a.executor = .queueing frame) (hio : a.io ≠ .draining) :
      Takes a (.executor failing nowNs)
        ({ a with executor := .idle, pendingSends := a.pendingSends ++ [frame] }, [])
  | sends {failing : Bool} {nowNs : Nat} {frame : NewOrderFrame} {out : List Output}
      (hexecutor : a.executor = .sending frame)
      (hsilent : ∀ frame result, .newOrder frame result ∉ out) :
      Takes a (.executor failing nowNs)
        ({ a with executor := .idle }, .newOrder frame (a.send failing) :: out)
  | drained {failing : Bool} (hio : a.io = .draining) (hempty : a.pendingSends = []) :
      Takes a (.io failing) ({ a with io := .ready }, [])
  | drains {frame : NewOrderFrame} {rest : List NewOrderFrame} (hio : a.io = .draining)
      (hpending : a.pendingSends = frame :: rest) :
      Takes a (.io false) ({ a with pendingSends := rest }, [.newOrder frame .sent])
  | drops {frame : NewOrderFrame} {rest : List NewOrderFrame} (hio : a.io = .draining)
      (hpending : a.pendingSends = frame :: rest) :
      Takes a (.io true) ({ a with pendingSends := rest, io := .ready }, [.newOrder frame .threw])

variable {a : DeribitOrderAdapter}

theorem Quiet.refl (a : DeribitOrderAdapter) : Quiet a (a, []) where
  openFrames := rfl
  pendingSends := rfl
  cancelAccepted := rfl
  jsonrpcId := Nat.le_refl _
  silent _ _ := List.not_mem_nil
  ready := id
  flag := id

/-- The end of a session, whatever the decoder has learnt. -/
theorem quiet_endSession (decoder : DeribitExecDecoder) :
    Quiet a ({ a with decoder := decoder }.endSession, []) where
  openFrames := rfl
  pendingSends := rfl
  cancelAccepted := rfl
  jsonrpcId := Nat.le_refl _
  silent _ _ := List.not_mem_nil
  ready h := nomatch h
  flag _ := .inl rfl

/-- What the decoder makes of an order changes only the decoder. -/
theorem quiet_decoder (decoder : DeribitExecDecoder) (ev : Option ExecEvent) :
    Quiet a ({ a with decoder := decoder }, ev.toList.map .exec) where
  openFrames := rfl
  pendingSends := rfl
  cancelAccepted := rfl
  jsonrpcId := Nat.le_refl _
  silent frame result h := by
    obtain ⟨_, _, hexec⟩ := List.mem_map.mp h
    cases hexec
  ready := id
  flag := id

theorem quiet_handleMessage (root : Option Json) (recvNs : Nat) :
    Quiet a (a.handleMessage root recvNs) := by
  unfold handleMessage
  split
  · exact quiet_endSession a.decoder
  · exact Quiet.refl a
  · exact Quiet.refl a
  · exact
      { openFrames := rfl
        pendingSends := rfl
        cancelAccepted := rfl
        jsonrpcId := Nat.le_succ _
        silent := fun frame result h => by simp at h
        ready := id
        flag := id }
  · split
    · exact Quiet.refl a
    split
    · exact quiet_endSession _
    · exact quiet_decoder _ _
  · exact ⟨rfl, rfl, rfl, Nat.le_refl _, fun _ _ => List.not_mem_nil, id, id⟩
  · exact
      { openFrames := rfl
        pendingSends := rfl
        cancelAccepted := rfl
        jsonrpcId := Nat.le_refl _
        silent := fun _ _ => List.not_mem_nil
        ready := fun h => nomatch h
        flag := fun _ => .inr (.inr (.inr rfl)) }
  · exact quiet_decoder _ _

theorem quiet_continueIo (failing : Bool) (hio : a.io ≠ .draining) :
    Quiet a (a.continueIo failing) := by
  unfold continueIo
  cases hpoint : a.io with
  | authenticated =>
    dsimp only
    cases failing with
    | true => exact quiet_endSession a.decoder
    | false =>
      exact
        { openFrames := rfl
          pendingSends := rfl
          cancelAccepted := rfl
          jsonrpcId := Nat.le_add_right _ _
          silent := fun frame result h => by simp at h
          ready := fun h => nomatch h
          flag := fun h => by simpa [FlagUp, hpoint] using h }
  | draining => exact absurd hpoint hio
  | down | connecting | up | ready => exact Quiet.refl a

/-- The session runs past the handshake. -/
theorem send_of_draining (hio : a.io = .draining) (failing : Bool) :
    a.send failing = if failing then .threw else .sent := by
  simp [send, running, hio]

theorem takes_drain (hio : a.io = .draining) (failing : Bool) :
    Takes a (.io failing) (a.continueIo failing) := by
  have hsend := send_of_draining hio failing
  unfold continueIo
  split
  · next hpoint => rw [hio] at hpoint; cases hpoint
  · split
    · next hpending => exact .drained hio hpending
    next frame rest hpending =>
    cases failing with
    | true =>
      split
      · next hsent => rw [hsend] at hsent; cases hsent
      · exact .drops hio hpending
      · next hrefused => rw [hsend] at hrefused; cases hrefused
    | false =>
      split
      · exact .drains hio hpending
      · next hthrew => rw [hsend] at hthrew; cases hthrew
      · next hrefused => rw [hsend] at hrefused; cases hrefused
  · next hother => exact absurd hio hother

/-- A step does one of these things. -/
theorem step_takes (a : DeribitOrderAdapter) (e : Event) : Takes a e (step a e) := by
  cases e with
  | newOrder req =>
    by_cases hidle : a.executor = .idle
    · simp only [step, hidle, if_true]
      exact .begins hidle
    · simp only [step, if_neg hidle]
      exact .quiet rfl trivial (Quiet.refl a)
  | cancel req =>
    show Takes a (.cancel req) (if a.executor = .idle then a.beginCancel req else a, [])
    by_cases hidle : a.executor = .idle
    · rw [if_pos hidle]
      unfold beginCancel
      dsimp only
      split
      · next hoid =>
        have hopen : a.openFrames = a.pendingSends := by simp [openFrames, hidle, ExecutorPoint.frame]
        have hsome : a.accepts (.cancel req) = some req.orderId := if_pos ⟨hidle, hoid⟩
        have hsilent : ∀ frame result, Output.newOrder frame result ∉ ([] : List Output) :=
          fun _ _ => List.not_mem_nil
        have htakes := Takes.accepts hsome hopen hsilent
        rwa [← hidle] at htakes
      · next hoid =>
        refine .quiet (if_neg fun h => hoid h.2) trivial ?_
        exact
          { openFrames := by simp [openFrames, hidle, ExecutorPoint.frame]
            pendingSends := rfl
            cancelAccepted := rfl
            jsonrpcId := Nat.le_succ _
            silent := fun _ _ => List.not_mem_nil
            ready := id
            flag := id }
    · rw [if_neg hidle]
      exact .quiet (if_neg fun h => hidle h.1) trivial (Quiet.refl a)
  | executor failing nowNs =>
    simp only [step, continueExecutor]
    cases hexecutor : a.executor with
    | idle =>
      exact .quiet (by simp [accepts, hexecutor]) (by simp [QueuesInTime, hexecutor]) (Quiet.refl a)
    | queueing frame =>
      by_cases hio : a.io = .draining
      · simp only [hio, if_true]
        exact .quiet (by simp [accepts, hexecutor]) (by simp [QueuesInTime, hexecutor, hio])
          (Quiet.refl a)
      · simp only [if_neg hio]
        exact .queues hexecutor hio
    | sending frame =>
      refine .sends hexecutor fun frame' result h => ?_
      split at h <;> simp at h
    | cancelling orderId exchOid rpcId =>
      refine .accepts (by simp [accepts, hexecutor]) (by simp [openFrames, hexecutor, ExecutorPoint.frame]) ?_
      intro frame result h
      split at h <;> simp at h
  | connect =>
    refine .quiet rfl trivial ?_
    simp only [step]
    split
    · exact ⟨rfl, rfl, rfl, Nat.le_refl _, fun _ _ => List.not_mem_nil, fun h => (nomatch h),
        fun _ => .inr (.inl rfl)⟩
    · exact Quiet.refl a
  | handshake =>
    refine .quiet rfl trivial ?_
    simp only [step]
    split
    · exact ⟨rfl, rfl, rfl, Nat.le_succ _, fun _ _ h => by simp [completeHandshake] at h,
        fun h => (nomatch h), fun _ => .inr (.inr (.inl rfl))⟩
    · exact Quiet.refl a
  | message root recvNs =>
    refine .quiet rfl trivial ?_
    simp only [step]
    split
    · exact quiet_handleMessage root recvNs
    · exact Quiet.refl a
  | io failing =>
    by_cases hio : a.io = .draining
    · exact takes_drain hio failing
    · exact .quiet rfl (fun h => absurd h hio) (quiet_continueIo failing hio)
  | disconnect =>
    refine .quiet rfl trivial ?_
    simp only [step]
    split
    · exact quiet_endSession a.decoder
    · exact Quiet.refl a
  | sendAndWait =>
    refine .quiet rfl trivial ?_
    simp only [step]
    split
    · exact ⟨rfl, rfl, rfl, Nat.le_succ _, fun _ _ => List.not_mem_nil, id, id⟩
    · exact Quiet.refl a
  | giveUp rpcId =>
    exact .quiet rfl trivial ⟨rfl, rfl, rfl, Nat.le_refl _, fun _ _ => List.not_mem_nil, id, id⟩

/-! ## No frame is sent twice -/

/-- The number of a frame that a session took, or may have taken when it threw. -/
def handed : Output → Option Nat
  | .newOrder _ .refused => none
  | .newOrder frame _ => some frame.rpcId
  | _ => none

def openIds (a : DeribitOrderAdapter) : List Nat := a.openFrames.map NewOrderFrame.rpcId

theorem handed_eq_nil {out : List Output} (h : ∀ frame result, .newOrder frame result ∉ out) :
    out.filterMap handed = [] := by
  refine List.filterMap_eq_nil_iff.mpr fun o ho => ?_
  cases o with
  | newOrder frame result => exact absurd ho (h frame result)
  | cancel | request | exec => rfl

theorem Takes.handsOut {e : Event} {r : DeribitOrderAdapter × List Output} (h : Takes a e r)
    (hfresh : Machine.Fresh openIds jsonrpcId a) :
    Machine.HandsOut handed openIds jsonrpcId a r := by
  cases h with
  | quiet _ _ hquiet =>
    refine .of_subperm hfresh ?_ hquiet.jsonrpcId
    rw [handed_eq_nil hquiet.silent, openIds, hquiet.openFrames]
    exact List.Subperm.refl _
  | accepts _ hopen hsilent =>
    refine .of_subperm hfresh ?_ (Nat.le_refl _)
    rw [handed_eq_nil hsilent, openIds, openIds, hopen]
    exact List.Subperm.refl _
  | @begins req hidle =>
    have hids : (a.beginNewOrder req).openIds = a.jsonrpcId :: a.openIds := by
      simp only [openIds, openFrames, beginNewOrder, hidle]
      split <;> rfl
    refine ⟨?_, ?_, ?_, Nat.le_succ _⟩
    · show (a.beginNewOrder req).openIds.Nodup
      rw [hids]
      exact List.nodup_cons.mpr ⟨fun hin => Nat.lt_irrefl _ (hfresh.2 _ hin), hfresh.1⟩
    · show ∀ n ∈ (a.beginNewOrder req).openIds, _
      rw [hids]
      intro n hn
      rcases List.mem_cons.mp hn with rfl | hin
      · exact .inr (Nat.le_refl _)
      · exact .inl hin
    · show ∀ n ∈ (a.beginNewOrder req).openIds, n < a.jsonrpcId + 1
      rw [hids]
      intro n hn
      rcases List.mem_cons.mp hn with rfl | hin
      · exact Nat.lt_succ_self _
      · exact Nat.lt_succ_of_lt (hfresh.2 n hin)
  | queues hexecutor _ =>
    refine .of_subperm hfresh ?_ (Nat.le_refl _)
    simp only [openIds, openFrames, hexecutor]
    exact (List.perm_append_singleton _ _).map _ |>.subperm
  | @sends failing nowNs frame out hexecutor hsilent =>
    refine .of_subperm hfresh ?_ (Nat.le_refl _)
    rw [List.filterMap_cons, handed_eq_nil hsilent]
    simp only [openIds, openFrames, hexecutor, ExecutorPoint.frame]
    cases a.send failing with
    | refused => exact (List.sublist_cons_self _ _).subperm
    | sent | threw => exact List.Subperm.refl _
  | drained _ hempty => exact .of_subperm hfresh (List.Subperm.refl _) (Nat.le_refl _)
  | drains _ hpending | drops _ hpending =>
    refine .of_subperm hfresh ?_ (Nat.le_refl _)
    simp only [openIds, openFrames, hpending]
    exact (List.perm_middle.symm.map _).subperm

/-- No session is handed a frame twice. -/
theorem sends_once {a : DeribitOrderAdapter} (hfresh : Machine.Fresh openIds jsonrpcId a)
    (es : List Event) : ((Machine.outputs step a es).filterMap handed).Nodup :=
  Machine.outputs_nodup (fun a e h => (step_takes a e).handsOut h) hfresh es

/-! ## The queue of a session that has logged in -/

theorem Takes.flagUp {e : Event} {r : DeribitOrderAdapter × List Output} (h : Takes a e r)
    (hflag : a.FlagUp) : r.1.FlagUp := by
  cases h with
  | quiet _ _ hquiet => exact hquiet.flag hflag
  | begins | accepts | queues | sends | drains => exact hflag
  | drained hio | drops hio =>
    rcases hflag with hdown | hconnecting | hup | hlogged
    · rw [hio] at hdown; cases hdown
    · rw [hio] at hconnecting; cases hconnecting
    · rw [hio] at hup; cases hup
    · exact .inr (.inr (.inr hlogged))

theorem FlagUp.ready (h : a.FlagUp) (hio : a.io = .ready) : a.loggedIn = true := by
  simpa [FlagUp, hio] using h

/-- A step keeps the queue of a drained session empty exactly when it is in time. -/
theorem Takes.drained_iff {e : Event} {r : DeribitOrderAdapter × List Output} (h : Takes a e r)
    (hflag : a.FlagUp) (hdrained : a.Drained) : r.1.Drained ↔ a.QueuesInTime e := by
  have hempty : a.io = .ready → a.pendingSends = [] := fun hio => hdrained (hflag.ready hio) hio
  cases h with
  | quiet _ hintime hquiet =>
    refine iff_of_true (fun _ hio => ?_) hintime
    rw [hquiet.pendingSends]
    exact hempty (hquiet.ready hio)
  | begins => exact iff_of_true (fun _ hio => hempty hio) trivial
  | accepts hsome =>
    refine iff_of_true (fun _ hio => hempty hio) ?_
    cases e with
    | executor failing nowNs =>
      simp only [QueuesInTime]
      split
      · next hexecutor => simp [DeribitOrderAdapter.accepts, hexecutor] at hsome
      · trivial
    | cancel => trivial
    | newOrder | connect | handshake | message | io | disconnect | sendAndWait | giveUp =>
      cases hsome
  | queues hexecutor _ =>
    simp only [QueuesInTime, hexecutor]
    refine ⟨fun hnew hio => ?_, fun hio _ hready => absurd hready hio⟩
    exact absurd (hnew (hflag.ready hio) hio) (by simp)
  | sends hexecutor _ =>
    refine iff_of_true (fun _ hio => hempty hio) ?_
    simp [QueuesInTime, hexecutor]
  | drained hio hnil =>
    refine iff_of_true (fun _ _ => hnil) fun _ _ => ?_
    simp [hnil]
  | drains hio _ =>
    refine iff_of_true (fun _ hready => ?_) fun _ hfailing => by cases hfailing
    rw [show _ = IoPoint.ready from hready] at hio
    cases hio
  | @drops frame rest hio hpending =>
    have hlogged : a.loggedIn = true := by simpa [FlagUp, hio] using hflag
    simp only [QueuesInTime, hio, hpending, Drained, hlogged, List.length_cons, forall_const]
    simp

/-! ## No new order after its cancel -/

/-- A new order goes out only while no cancel of it has been accepted. -/
def NoLateOrder (a : DeribitOrderAdapter) (e : Event) : Prop :=
  ∀ frame result, .newOrder frame result ∈ (step a e).2 → frame.request.orderId ∉ a.cancelAccepted

/-- A cancel finds no frame of its order in the queue, and an order is not requested after its
cancel. -/
def CancelsInTime (a : DeribitOrderAdapter) (e : Event) : Prop :=
  (∀ orderId ∈ a.accepts e, ∀ frame ∈ a.pendingSends, frame.request.orderId ≠ orderId) ∧
    match e with
    | .newOrder req => a.executor = .idle → req.orderId ∉ a.cancelAccepted
    | _ => True

/-- No frame that is still to be sent is of a cancelled order. -/
def CancelsKept (a : DeribitOrderAdapter) : Prop :=
  ∀ frame ∈ a.openFrames, frame.request.orderId ∉ a.cancelAccepted

theorem Takes.cancelsKept {e : Event} {r : DeribitOrderAdapter × List Output} (h : Takes a e r)
    (hkept : a.CancelsKept) (hcancels : a.CancelsInTime e) : r.1.CancelsKept := by
  cases h with
  | quiet _ _ hquiet =>
    intro frame hframe
    rw [hquiet.openFrames] at hframe
    rw [hquiet.cancelAccepted]
    exact hkept frame hframe
  | @begins req hidle =>
    have hopen : (a.beginNewOrder req).openFrames =
        ⟨a.jsonrpcId, clientOrderId a.sessionPrefix req.orderId, req⟩ :: a.openFrames := by
      simp only [openFrames, beginNewOrder, hidle]
      split <;> rfl
    intro frame hframe
    rw [show _ = _ from hopen] at hframe
    rcases List.mem_cons.mp hframe with rfl | hold
    · exact hcancels.2 hidle
    · exact hkept frame hold
  | @accepts e out orderId hsome hopen hsilent =>
    intro frame hframe hin
    have hpending : frame ∈ a.pendingSends := hframe
    rcases List.mem_cons.mp hin with heq | hold
    · exact hcancels.1 orderId hsome frame hpending heq
    · exact hkept frame (by rw [hopen]; exact hpending) hold
  | queues hexecutor _ =>
    intro frame hframe
    refine hkept frame ?_
    simp only [openFrames, hexecutor, ExecutorPoint.frame] at hframe ⊢
    exact (List.perm_append_singleton _ _).subset hframe
  | sends hexecutor _ =>
    intro frame hframe
    exact hkept frame (List.mem_append_right _ hframe)
  | drained => exact hkept
  | drains _ hpending | drops _ hpending =>
    intro frame hframe
    refine hkept frame ?_
    simp only [openFrames, hpending] at hframe ⊢
    exact List.Sublist.subset (List.Sublist.append_left (List.sublist_cons_self _ _) _) hframe

theorem Takes.noLateOrder {e : Event} (h : Takes a e (step a e)) (hkept : a.CancelsKept) :
    a.NoLateOrder e := by
  unfold NoLateOrder
  generalize step a e = r at h
  intro frame result hout
  cases h with
  | quiet _ _ hquiet => exact absurd hout (hquiet.silent frame result)
  | begins | queues | drained => exact absurd hout List.not_mem_nil
  | accepts _ _ hsilent => exact absurd hout (hsilent frame result)
  | sends hexecutor hsilent =>
    rcases List.mem_cons.mp hout with heq | hother
    · cases heq
      refine hkept frame ?_
      simp [openFrames, hexecutor, ExecutorPoint.frame]
    · exact absurd hother (hsilent frame result)
  | drains _ hpending | drops _ hpending =>
    cases List.mem_singleton.mp hout
    refine hkept frame ?_
    simp [openFrames, hpending]

/-! ## Every interleaving -/

/-- The adapter before its first session. -/
def start (sessionPrefix : String) (exchOidNumber : String → Nat) : DeribitOrderAdapter where
  sessionPrefix := sessionPrefix
  decoder := { exchOidNumber := exchOidNumber }

/-- **The frames of the adapter.** Over every interleaving of the two threads no frame is sent
twice; when every cancel is in time, no new order goes out after its cancel; and the queue of a
session that has logged in and drained it is empty throughout exactly when every frame is queued
in time. -/
theorem deribit_sends (sessionPrefix : String) (exchOidNumber : String → Nat) (es : List Event) :
    ((Machine.outputs step (start sessionPrefix exchOidNumber) es).filterMap handed).Nodup ∧
      (Machine.AlongRun step CancelsInTime (start sessionPrefix exchOidNumber) es →
        Machine.AlongRun step NoLateOrder (start sessionPrefix exchOidNumber) es) ∧
      (Machine.AllStates step Drained (start sessionPrefix exchOidNumber) es ↔
        Machine.AlongRun step QueuesInTime (start sessionPrefix exchOidNumber) es) := by
  have hfresh : Machine.Fresh openIds jsonrpcId (start sessionPrefix exchOidNumber) :=
    ⟨List.nodup_nil, fun n hn => absurd hn List.not_mem_nil⟩
  have hkept : (start sessionPrefix exchOidNumber).CancelsKept :=
    fun frame hframe => absurd hframe List.not_mem_nil
  refine ⟨sends_once hfresh es, fun hcancels => ?_, ?_⟩
  · exact Machine.AlongRun.of_assumption
      (fun a e hk hc => (step_takes a e).cancelsKept hk hc)
      (fun a e hk _ => (step_takes a e).noLateOrder hk) hkept hcancels
  · exact Machine.allStates_iff_alongRun (fun a e hflag => (step_takes a e).flagUp hflag)
      (fun a e hflag hdrained => (step_takes a e).drained_iff hflag hdrained)
      (.inl rfl) (fun hlogged => absurd hlogged (by simp [start])) es

/-! ## Where it goes wrong -/

def loginAnswer : Event :=
  .message (some (.obj [("id", .num 1), ("result", .obj [("access_token", .str "t")])])) 0

def buy : NewOrderRequest where
  orderId := 7
  instrumentId := 1
  price := 100000000
  quantity := 100000000
  side := .BUY
  orderType := .LIMIT
  tif := .GTC
  execInst := 0
  exchangeSymbol := "BTC-PERPETUAL"

/-- The order finds the flag down, and is queued when the queue has been drained. -/
def queuedLate : List Event :=
  [.connect, .handshake, .newOrder buy, loginAnswer, .io false, .io false, .executor false 0]

/-- The order is queued, its cancel knows no venue id, and the login sends it. -/
def cancelledQueued : List Event :=
  [.connect, .handshake, .newOrder buy, .executor false 0, .cancel ⟨7, "BTC-PERPETUAL"⟩,
    loginAnswer, .io false, .io false]

instance (a : DeribitOrderAdapter) : Decidable a.Drained :=
  inferInstanceAs (Decidable (_ → _ → _))

theorem queue_left_and_late_order :
    ¬Machine.AllStates step Drained (start "" fun _ => 0) queuedLate ∧
      ¬Machine.AlongRun step NoLateOrder (start "" fun _ => 0) cancelledQueued := by
  refine ⟨by decide +kernel, fun hrun => ?_⟩
  obtain ⟨-, -, -, -, -, -, -, hlast, -⟩ := hrun
  refine hlast ⟨2, "G7", buy⟩ .sent ?_ ?_
  · decide +kernel
  · decide +kernel

end DeribitOrderAdapter

end BptCore.OrderGateway
