import BptCore.Common.Util.SpscRing
import BptCore.Lib.Machine
import BptCore.MdGateway.Adapter.OkxMdDecoder
import Mathlib.Data.Finset.Basic

/-!
# The OKX adapter and its lost frames

Three threads share an adapter: the IO thread pushes the frames it receives, the control thread
leaves commands, and the publisher thread applies these and parses the frames. Only the publisher
thread changes the subscriptions, which live in the decoder here. An unsubscribed symbol is not
told to the venue, and its ladders stay.

A books frame is lost when the queue refuses it, or when it is parsed while its symbol is not
subscribed. The book of the symbol is unknown from there on, until a snapshot is decoded. Neither
the queue nor the decoder leaves a note of the loss, and the ladders stay what they were: the next
update is applied to them and published.

* **`OkxMdAdapter.pushFrame`**, **`drain`**, **`popFrame`** — what each thread does.
* **`LossRun`** — an adapter with, for the record, the symbols that miss a frame. A loss at the
  queue becomes due with the next frame that the queue takes.
* **`silent_pop_iff`** — when the frame that is parsed next publishes no book.
* **`no_book_across_loss_iff`** — no book is published across a lost frame exactly when every
  frame of a symbol that misses one leaves it without a side.
-/

namespace BptCore.MdGateway

/-! ## The adapter -/

inductive SubCmd where
  | subscribe (instrumentId : Nat) (symbol : String) (depth : Nat)
  | unsubscribe (instrumentId : Nat)
  deriving DecidableEq, Repr

structure Slot (F : Type*) where
  recvNs : Nat
  data : F

def QUEUE_CAPACITY : Nat := 512

def SLOT_BYTES : Nat := 16384

/-- The payloads of the slots are left open; `OkxFrame` is what is parsed of one. -/
structure OkxMdAdapter (F : Type*) where
  decoder : OkxMdDecoder := {}
  subCmdQ : List SubCmd := []
  frameQueue : Common.SpscQueue (Slot F) QUEUE_CAPACITY SLOT_BYTES := {}
  droppedFrames : Nat := 0

namespace OkxMdAdapter

variable {F : Type*} (a : OkxMdAdapter F)

/-- `subscribe` and `unsubscribe` of the control thread. -/
def command (cmd : SubCmd) : OkxMdAdapter F := { a with subCmdQ := a.subCmdQ ++ [cmd] }

def pushFrame (payload : F) (payloadSize recvNs : Nat) : OkxMdAdapter F :=
  match a.frameQueue.tryPush { recvNs := recvNs, data := payload } payloadSize with
  | none => { a with droppedFrames := a.droppedFrames + 1 }
  | some frameQueue => { a with frameQueue := frameQueue }

/-- The body of the drain: nothing is sent to the venue for a symbol that leaves. -/
def applyCmd (d : OkxMdDecoder) : SubCmd → OkxMdDecoder
  | .subscribe instrumentId symbol depth =>
    { d with subs := d.subs.subscribe instrumentId symbol depth }
  | .unsubscribe instrumentId => { d with subs := (d.subs.unsubscribe instrumentId).1 }

def drain : OkxMdAdapter F :=
  { a with decoder := a.subCmdQ.foldl applyCmd a.decoder, subCmdQ := [] }

def popFrame (parse : F → OkxFrame) : OkxMdAdapter F × List MdOutput :=
  match a.frameQueue.tryPop with
  | none => (a, [])
  | some (slot, frameQueue) =>
    let (decoder, out) := a.decoder.decode (parse slot.data) slot.recvNs
    ({ a with decoder := decoder, frameQueue := frameQueue }, out)

end OkxMdAdapter

/-! ## Lost frames -/

/-- The symbol of a books frame, and whether it is a snapshot. -/
def booksOf (frame : OkxFrame) : Option (String × Bool) :=
  match OkxMdDecoder.bookOf frame with
  | none => none
  | some (symbol, snapshot, _) =>
    if frame.channel = some "books" ∨ frame.channel = some "books5" then some (symbol, snapshot)
    else none

/-- A queued frame with the symbols of the books frames that were dropped right before it. -/
structure QueuedFrame where
  frame : OkxFrame
  droppedBefore : Finset String

/-- What the three threads of the adapter do. -/
inductive OkxAdapterEvent where
  | receive (frame : OkxFrame) (payloadSize recvNs : Nat)
  | command (cmd : SubCmd)
  | drain
  | pop

structure LossRun where
  adapter : OkxMdAdapter QueuedFrame := {}
  /-- Symbols of the books frames dropped since the queue last took a frame. -/
  dropped : Finset String := ∅
  /-- Symbols with a lost books frame and no decoded snapshot since. -/
  missing : Finset String := ∅

namespace LossRun

variable (s : LossRun)

def droppedAfter (frame : OkxFrame) (payloadSize recvNs : Nat) : Finset String :=
  match s.adapter.frameQueue.tryPush
      { recvNs := recvNs, data := { frame := frame, droppedBefore := s.dropped } } payloadSize with
  | some _ => ∅
  | none =>
    match booksOf frame with
    | some (symbol, _) => insert symbol s.dropped
    | none => s.dropped

/-- The symbols that miss a frame when the queued one is parsed. -/
def missingAt (q : QueuedFrame) : Finset String := s.missing ∪ q.droppedBefore

/-- A parsed frame is ignored when its symbol is not subscribed; a snapshot makes up for what was
lost. -/
def missingAfter (q : QueuedFrame) : Finset String :=
  match booksOf q.frame with
  | none => s.missingAt q
  | some (symbol, snapshot) =>
    if (s.adapter.decoder.subs.find symbol).1 = 0 then insert symbol (s.missingAt q)
    else if snapshot then (s.missingAt q).erase symbol
    else s.missingAt q

def step (s : LossRun) : OkxAdapterEvent → LossRun × List MdOutput
  | .receive frame payloadSize recvNs =>
    ({ s with
        adapter := s.adapter.pushFrame { frame := frame, droppedBefore := s.dropped } payloadSize
          recvNs
        dropped := s.droppedAfter frame payloadSize recvNs }, [])
  | .command cmd => ({ s with adapter := s.adapter.command cmd }, [])
  | .drain => ({ s with adapter := s.adapter.drain }, [])
  | .pop =>
    let (adapter, out) := s.adapter.popFrame QueuedFrame.frame
    ({ s with
        adapter := adapter
        missing := match s.adapter.frameQueue.tryPop with
          | none => s.missing
          | some (slot, _) => s.missingAfter slot.data }, out)

/-! ## What is to be published -/

/-- The frame may publish a book: its symbol misses nothing, or it is a books snapshot. -/
def Sound (q : QueuedFrame) : Prop :=
  match OkxMdDecoder.bookOf q.frame with
  | none => False
  | some (symbol, _, _) => symbol ∉ s.missingAt q ∨ booksOf q.frame = some (symbol, true)

/-- The depth at which the symbol of a book frame is subscribed. -/
def depthOf (q : QueuedFrame) : Nat :=
  match OkxMdDecoder.bookOf q.frame with
  | none => 0
  | some (symbol, _, _) => (s.adapter.decoder.subs.find symbol).2

/-- Without a depth there are no books, and the BBO that is published is the frame's own. -/
def NoBook (depth : Nat) (out : List MdOutput) : Prop :=
  MdOutput.Quiet out ∧ (depth ≠ 0 → MdOutput.Silent out)

/-- No book and no BBO derived of one is published from a frame that is not sound. -/
def NoBookAcrossLoss (s : LossRun) : OkxAdapterEvent → Prop
  | .pop =>
    match s.adapter.frameQueue.tryPop with
    | none => (step s .pop).2 = []
    | some (slot, _) => s.Sound slot.data ∨ NoBook (s.depthOf slot.data) (step s .pop).2
  | e => (step s e).2 = []

instance (q : QueuedFrame) : Decidable (s.Sound q) := by
  unfold Sound
  split <;> infer_instance

instance (e : OkxAdapterEvent) : Decidable (s.NoBookAcrossLoss e) := by
  unfold NoBookAcrossLoss NoBook
  split
  · split <;> infer_instance
  · infer_instance

/-- The next frame, when it is of a symbol that misses one and no books snapshot, lacks a side or
leaves one of the ladders empty. -/
def LeavesSideEmpty (s : LossRun) : OkxAdapterEvent → Prop
  | .pop =>
    match s.adapter.frameQueue.tryPop with
    | none => True
    | some (slot, _) =>
      match OkxMdDecoder.bookOf slot.data.frame with
      | none => True
      | some (symbol, snapshot, entry) =>
        let (instrumentId, depth) := s.adapter.decoder.subs.find symbol
        symbol ∈ s.missingAt slot.data → booksOf slot.data.frame ≠ some (symbol, true) →
          instrumentId ≠ 0 → depth ≠ 0 →
            OkxMdDecoder.LacksSide (s.adapter.decoder.stateOf instrumentId) entry snapshot
  | _ => True

/-! ## One frame -/

variable {s}

theorem step_pop {slot : Slot QueuedFrame}
    {queue : Common.SpscQueue (Slot QueuedFrame) QUEUE_CAPACITY SLOT_BYTES}
    (hpop : s.adapter.frameQueue.tryPop = some (slot, queue)) :
    (step s .pop).2 = (s.adapter.decoder.decode slot.data.frame slot.recvNs).2 := by
  simp only [step, OkxMdAdapter.popFrame, hpop]

theorem silent_pop_iff :
    s.NoBookAcrossLoss .pop ↔ s.LeavesSideEmpty .pop := by
  cases hpop : s.adapter.frameQueue.tryPop with
  | none =>
    simp only [NoBookAcrossLoss, LeavesSideEmpty, hpop]
    exact iff_of_true (by simp only [step, OkxMdAdapter.popFrame, hpop]) trivial
  | some popped =>
    obtain ⟨slot, queue⟩ := popped
    simp only [NoBookAcrossLoss, LeavesSideEmpty, hpop, step_pop hpop]
    cases hbook : OkxMdDecoder.bookOf slot.data.frame with
    | none =>
      obtain ⟨-, hsilent⟩ := s.adapter.decoder.decode_of_not_book hbook slot.recvNs
      exact iff_of_true (.inr ⟨hsilent.1, fun _ => hsilent⟩) trivial
    | some book =>
      obtain ⟨symbol, snapshot, entry⟩ := book
      simp only [Sound, depthOf, hbook]
      rw [s.adapter.decoder.decode_of_book hbook, or_iff_not_imp_left, not_or, not_not, and_imp]
      refine imp_congr_right fun hmissing => imp_congr_right fun hnosnapshot => ?_
      by_cases hid : (s.adapter.decoder.subs.find symbol).1 = 0
      · rw [if_pos hid]
        exact iff_of_true ⟨MdOutput.quiet_nil, fun _ => MdOutput.silent_nil⟩ fun h => absurd hid h
      · rw [if_neg hid]
        by_cases hdepth : (s.adapter.decoder.subs.find symbol).2 = 0
        · rw [if_pos hdepth]
          exact iff_of_true ⟨OkxMdDecoder.quiet_handleBbo _ _ _, fun h => absurd hdepth h⟩
            fun _ h => absurd hdepth h
        · rw [if_neg hdepth, ← OkxMdDecoder.silent_handleBook_iff]
          exact ⟨fun h _ _ => h.2 hdepth, fun h => ⟨(h hid hdepth).1, fun _ => h hid hdepth⟩⟩

/-- **When no book is published across a lost frame.** Whatever the three threads do, in whatever
order: from a lost books frame of a symbol to the next books snapshot decoded for it no order book
and no derived BBO is published, exactly when every frame that is parsed for it in between lacks a
side or leaves one of its ladders empty. -/
theorem no_book_across_loss_iff (events : List OkxAdapterEvent) :
    Machine.AlongRun step NoBookAcrossLoss {} events ↔
      Machine.AlongRun step LeavesSideEmpty {} events := by
  refine Machine.alongRun_congr (J := fun _ => True) (fun _ _ _ => trivial) ?_ trivial events
  intro s e _
  cases e with
  | pop => exact silent_pop_iff
  | receive frame payloadSize recvNs => exact iff_of_true rfl trivial
  | command cmd => exact iff_of_true rfl trivial
  | drain => exact iff_of_true rfl trivial

/-- The best bid is removed by a frame that exceeds a slot, or that comes while the symbol is not
subscribed; the next update is published with the bid. -/
theorem book_across_loss :
    let books (action : String) (bids asks : List (List (Option ℚ))) : OkxFrame :=
      { channel := some "books", instId := some "BTC-USDT-SWAP", action := some action
        data := some [some { bids := some bids, asks := some asks }] }
    let subscribed : List OkxAdapterEvent :=
      [.command (.subscribe 1001 "BTC-USDT-SWAP" 10), .drain,
        .receive (books "snapshot" [[some 100, some 1], [some 99, some 2]] [[some 101, some 1]])
          900 1, .pop]
    let removal : OkxFrame := books "update" [[some 100, some 0]] []
    let oversized : List OkxAdapterEvent := subscribed ++ [.receive removal 20000 2]
    let resubscribed : List OkxAdapterEvent := subscribed ++
      [.command (.unsubscribe 1001), .drain, .receive removal 900 2, .pop,
        .command (.subscribe 1001 "BTC-USDT-SWAP" 10), .drain]
    let update : List OkxAdapterEvent :=
      [.receive (books "update" [] [[some 102, some 3]]) 900 3, .pop]
    ∀ run ∈ [oversized, resubscribed],
      (Machine.exec step {} (run ++ update)).missing = {"BTC-USDT-SWAP"} ∧
      (MdOutput.books (Machine.outputs step (Machine.exec step {} run) update)).map
        (fun b => (b.bids.data, b.asks.data)) = [([(100, 1), (99, 2)], [(101, 1), (102, 3)])] ∧
      ¬ Machine.AlongRun step NoBookAcrossLoss {} (run ++ update) := by
  decide +kernel

end LossRun

end BptCore.MdGateway
