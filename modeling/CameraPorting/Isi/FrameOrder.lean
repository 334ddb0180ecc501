import CameraPorting.Isi.BufferOwnership
import CameraPorting.Isi.SlotSafety

namespace CameraPorting.Isi.FrameOrder

open CameraPorting.Kernel.Media
open CameraPorting.Isi.Device
open CameraPorting.Isi.Channel
open CameraPorting.Isi.CaptureQueue
open CameraPorting.Isi.BufferRotation
open CameraPorting.Isi.CaptureStream
open CameraPorting.Isi.BufferOwnership
open CameraPorting.Isi.SlotSafety
open CameraPorting.Isi.Formats
open CameraPorting.Library.Runs
open CameraPorting.Library.SlotRotation

/-- The nodes in the order in which they are filled. -/
def line (cap : MxcIsiCapDev) : List BufRef := cap.outActive ++ cap.outPending

def latched (cap : MxcIsiCapDev) (status : U32) : MxcIsiCapDev :=
  { cap with isi := mxcIsiCleanIrqStatus { cap.isi with status := status } status }

/-- Whether a step ends a frame: an interrupt that stores one in capture mode and is not
skipped. -/
def endsFrame (cap : MxcIsiCapDev) : StreamOp → Bool
  | .bufQueue _ => false
  | .frameDone status =>
      status &&& chnlStsFrmStrdMask != 0#32 && !cap.isi.m2mEnabled &&
        !headSlotActive (latched cap status)

def endedFrame (cap : MxcIsiCapDev) (op : StreamOp) : List (BufRef × U32) :=
  if endsFrame cap op then
    match cap.outActive with
    | [] => []
    | r :: _ => [(r, (cap.buf r).sequence)]
  else []

def framesOf (cap : MxcIsiCapDev) (ops : List StreamOp) : List (BufRef × U32) :=
  trace streamStep endedFrame cap ops

theorem irqHandler_eq (cap : MxcIsiCapDev) (status : U32) :
    mxcIsiIrqHandler cap status =
      if status &&& chnlStsFrmStrdMask ≠ 0#32 then
        if cap.isi.m2mEnabled then latched cap status
        else mxcIsiCapFrameWriteDone (latched cap status)
      else latched cap status :=
  rfl

theorem rotation_irqHandler_eq {cap : MxcIsiCapDev} (h : Marked cap) (status : U32) :
    bufRotation (mxcIsiIrqHandler cap status) =
      if endsFrame cap (.frameDone status) then (bufRotation cap).advance isDiscard
      else bufRotation cap := by
  have hlatched : bufRotation (latched cap status) = bufRotation cap := rfl
  have hmarked : Marked (latched cap status) := h
  have hdone := rotation_frameWriteDone hmarked
  rw [irqHandler_eq]
  unfold endsFrame
  dsimp only
  by_cases hstored : status &&& chnlStsFrmStrdMask = 0#32
  · simp [hstored, hlatched]
  · rcases cap.isi.m2mEnabled with _ | _
    · rw [if_pos hstored, if_neg Bool.false_ne_true, hdone, hlatched]
      by_cases hskip : headSlotActive (latched cap status) = true
      · simp [hskip]
      · simp [hstored, hskip]
    · simp [hstored, hlatched]

/-- A step takes the node of the frame it ends off the line, and puts the buffer it queues
at the end. -/
theorem passes_streamStep {cap : MxcIsiCapDev} (h : Rotating cap) {op : StreamOp}
    (hop : MayQueue cap op) :
    Rotation.Passes isDiscard (bufRotation cap) (bufRotation (streamStep cap op))
      ((endedFrame cap op).map Prod.fst) (queuedIn [op]) := by
  cases op with
  | bufQueue i => exact Rotation.passes_enqueue rfl
  | frameDone status =>
      have hrot := rotation_irqHandler_eq h.marked status
      obtain ⟨a, rest, hactive⟩ : ∃ a rest, cap.outActive = a :: rest := by
        refine List.exists_cons_of_length_pos ?_
        have hslots : cap.outActive.length = 2 := h.full.slots
        omega
      change Rotation.Passes isDiscard (bufRotation cap)
        (bufRotation (mxcIsiIrqHandler cap status)) _ _
      unfold endedFrame
      rw [hrot]
      rcases endsFrame cap (.frameDone status) with _ | _
      · exact Rotation.passes_refl
      · rw [hactive]
        exact Rotation.passes_advance h.sorted hactive

theorem passes_exec {cap : MxcIsiCapDev} {ops : List StreamOp} (h : Rotating cap)
    (hops : Along streamStep MayQueue cap ops) :
    Rotation.Passes isDiscard (bufRotation cap) (bufRotation (exec streamStep cap ops))
      ((framesOf cap ops).map Prod.fst) (queuedIn ops) := by
  induction ops generalizing cap with
  | nil => exact Rotation.passes_refl
  | cons op ops ih =>
      have hrest := ih (rotating_streamStep h hops.1).1 hops.2
      rw [queuedIn_cons]
      change Rotation.Passes isDiscard _ _
        ((endedFrame cap op ++ framesOf (streamStep cap op) ops).map Prod.fst) _
      rw [List.map_append]
      exact (passes_streamStep h hops.1).trans hrest

section Numbers

/-- The two active nodes carry the numbers of the frame that is stored next and of the one
after it. -/
def Numbered (cap : MxcIsiCapDev) : Prop :=
  ∃ a b, cap.outActive = [a, b] ∧ (cap.buf a).sequence + 1#32 = cap.frameCount ∧
    (cap.buf b).sequence = cap.frameCount

theorem refillOutbuf_numbers {cap : MxcIsiCapDev} {r : BufRef}
    (hnext : nextOutbuf cap = some r) :
    (refillOutbuf cap).outActive = cap.outActive ++ [r] ∧
      (refillOutbuf cap).frameCount = cap.frameCount ∧
      ((refillOutbuf cap).buf r).sequence = cap.frameCount ∧
      ∀ r', r' ≠ r → (refillOutbuf cap).buf r' = cap.buf r' := by
  unfold nextOutbuf at hnext
  unfold refillOutbuf
  rcases hpending : cap.outPending with _ | ⟨p, ps⟩
  · rw [hpending] at hnext
    rcases hdiscard : cap.outDiscard with _ | ⟨d, ds⟩
    · rw [hdiscard] at hnext
      cases hnext
    · rw [hdiscard] at hnext
      cases hnext
      refine ⟨rfl, rfl, ?_, fun r' hr' => ?_⟩
      · simp [mxcIsiChannelSetOutbuf, setSequence]
      · simp [mxcIsiChannelSetOutbuf, setSequence, hr']
  · rw [hpending] at hnext
    cases hnext
    refine ⟨rfl, rfl, ?_, fun r' hr' => ?_⟩
    · simp [mxcIsiChannelSetOutbuf, setSequence, setState]
    · simp [mxcIsiChannelSetOutbuf, setSequence, setState, hr']

theorem numbered_bufQueue {cap : MxcIsiCapDev} (h : Numbered cap) {i : Nat}
    (hi : BufRef.user i ∉ cap.outPending ++ cap.outActive) :
    Numbered (capVb2BufferQueue cap (.user i)) := by
  obtain ⟨a, b, hactive, ha, hb⟩ := h
  have hbuf : ∀ r ∈ cap.outActive, (capVb2BufferQueue cap (.user i)).buf r = cap.buf r := by
    intro r hr
    refine Function.update_of_ne ?_ _ _
    rintro rfl
    exact hi (List.mem_append_right _ hr)
  refine ⟨a, b, hactive, ?_, ?_⟩
  · rw [hbuf a (by rw [hactive]; simp)]
    exact ha
  · rw [hbuf b (by rw [hactive]; simp)]
    exact hb

theorem numbered_served {cap : MxcIsiCapDev} (hrot : Rotating cap) {a b : BufRef}
    (hactive : cap.outActive = [a, b]) (hb : (cap.buf b).sequence = cap.frameCount) :
    Numbered (refillOutbuf (retireOutbuf cap a [b])) ∧
      (refillOutbuf (retireOutbuf cap a [b])).frameCount = cap.frameCount + 1#32 := by
  obtain ⟨r, hnext, hrb⟩ := exists_nextOutbuf hrot hactive
  obtain ⟨hbuf, -, hrest, -, hcount, -, -, -⟩ := retireOutbuf_spec cap a [b]
  obtain ⟨hactive', hcount', hr, hothers⟩ := refillOutbuf_numbers hnext
  have hab : b ≠ a := by
    have hnodup := hrot.nodup
    rw [hactive] at hnodup
    rintro rfl
    exact absurd (List.nodup_append.mp (List.nodup_append.mp hnodup).1).2.1 (by simp)
  rw [hrest] at hactive'
  rw [hcount] at hcount' hr
  refine ⟨⟨b, r, hactive', ?_, hr.trans hcount'.symm⟩, hcount'⟩
  rw [hothers b hrb.symm, hbuf b hab, hb, hcount']

theorem endsFrame_frameDone {cap : MxcIsiCapDev} {a b : BufRef}
    (hactive : cap.outActive = [a, b]) (status : U32) :
    endsFrame cap (.frameDone status) =
      (status &&& chnlStsFrmStrdMask != 0#32 && !cap.isi.m2mEnabled &&
        !slotActive (latched cap status).isi (cap.buf a).id) := by
  have hlist : (latched cap status).outActive = [a, b] := hactive
  unfold endsFrame headSlotActive
  dsimp only
  rw [hlist]
  rfl

theorem frameWriteDone_latched {cap : MxcIsiCapDev} {a b : BufRef}
    (hactive : cap.outActive = [a, b]) (status : U32) :
    mxcIsiCapFrameWriteDone (latched cap status) =
      if slotActive (latched cap status).isi (cap.buf a).id then latched cap status
      else refillOutbuf (retireOutbuf (latched cap status) a [b]) := by
  have hlist : (latched cap status).outActive = [a, b] := hactive
  unfold mxcIsiCapFrameWriteDone
  rw [hlist]
  rfl

theorem irqHandler_served {cap : MxcIsiCapDev} {status : U32} {a b : BufRef}
    (hactive : cap.outActive = [a, b]) (hends : endsFrame cap (.frameDone status) = true) :
    mxcIsiIrqHandler cap status =
      refillOutbuf (retireOutbuf (latched cap status) a [b]) := by
  rw [endsFrame_frameDone hactive] at hends
  simp only [Bool.and_eq_true, bne_iff_ne, ne_eq, Bool.not_eq_true'] at hends
  obtain ⟨⟨hstored, hm2m⟩, hskip⟩ := hends
  rw [irqHandler_eq, if_pos hstored, hm2m, if_neg Bool.false_ne_true,
    frameWriteDone_latched hactive, hskip, if_neg Bool.false_ne_true]

theorem irqHandler_kept {cap : MxcIsiCapDev} {status : U32} {a b : BufRef}
    (hactive : cap.outActive = [a, b]) (hends : endsFrame cap (.frameDone status) = false) :
    mxcIsiIrqHandler cap status = latched cap status := by
  rw [endsFrame_frameDone hactive] at hends
  rw [irqHandler_eq]
  split_ifs with hstored hm2m
  · rfl
  · have hskip : slotActive (latched cap status).isi (cap.buf a).id = true := by
      simpa [hstored, hm2m] using hends
    rw [frameWriteDone_latched hactive, hskip, if_pos rfl]
  · rfl

theorem numbered_streamStep {cap : MxcIsiCapDev} (hrot : Rotating cap) (h : Numbered cap)
    {op : StreamOp} (hop : MayQueue cap op) :
    Numbered (streamStep cap op) ∧
      (endedFrame cap op = [] ∧ (streamStep cap op).frameCount = cap.frameCount ∨
        ∃ r, endedFrame cap op = [(r, cap.frameCount - 1#32)] ∧
          (streamStep cap op).frameCount = cap.frameCount + 1#32) := by
  cases op with
  | bufQueue i => exact ⟨numbered_bufQueue h hop, .inl ⟨rfl, rfl⟩⟩
  | frameDone status =>
      obtain ⟨a, b, hactive, ha, hb⟩ := h
      have hframe : endedFrame cap (.frameDone status) =
          if endsFrame cap (.frameDone status) then [(a, (cap.buf a).sequence)] else [] := by
        unfold endedFrame
        rw [hactive]
      rw [hframe]
      change Numbered (mxcIsiIrqHandler cap status) ∧
        (_ ∧ (mxcIsiIrqHandler cap status).frameCount = _ ∨
          ∃ r, _ ∧ (mxcIsiIrqHandler cap status).frameCount = _)
      rcases hends : endsFrame cap (.frameDone status) with _ | _
      · rw [irqHandler_kept hactive hends]
        exact ⟨⟨a, b, hactive, ha, hb⟩, .inl ⟨rfl, rfl⟩⟩
      · have hlatched : Rotating (latched cap status) :=
          ⟨hrot.marked, hrot.sorted, hrot.full, hrot.held⟩
        obtain ⟨hnumbered, hcount⟩ := numbered_served hlatched hactive hb
        rw [irqHandler_served hactive hends]
        refine ⟨hnumbered, .inr ⟨a, ?_, hcount⟩⟩
        rw [if_pos rfl, ← ha, BitVec.add_sub_cancel]

theorem numbers_exec {cap : MxcIsiCapDev} {ops : List StreamOp} (hrot : Rotating cap)
    (h : Numbered cap) (hops : Along streamStep MayQueue cap ops) :
    (exec streamStep cap ops).frameCount =
        cap.frameCount + BitVec.ofNat 32 (framesOf cap ops).length ∧
      ∀ k f, (framesOf cap ops)[k]? = some f →
        f.2 = cap.frameCount - 1#32 + BitVec.ofNat 32 k := by
  induction ops generalizing cap with
  | nil => exact ⟨(BitVec.add_zero _).symm, fun k f hf => by simp [framesOf, trace] at hf⟩
  | cons op ops ih =>
      obtain ⟨hnumbered, hstep⟩ := numbered_streamStep hrot h hops.1
      obtain ⟨hcount, hframes⟩ := ih (rotating_streamStep hrot hops.1).1 hnumbered hops.2
      have hcons : framesOf cap (op :: ops) =
          endedFrame cap op ++ framesOf (streamStep cap op) ops := rfl
      rw [hcons, exec_cons, hcount]
      rcases hstep with ⟨hnone, hsame⟩ | ⟨r, hone, hnext⟩
      · rw [hnone, hsame]
        refine ⟨rfl, fun k f hf => ?_⟩
        rw [← hsame]
        exact hframes k f hf
      · rw [hone, hnext]
        constructor
        · rw [List.length_append, List.length_singleton, BitVec.ofNat_add, BitVec.add_assoc]
        · intro k f hf
          cases k with
          | zero =>
              obtain rfl := Option.some.inj hf
              exact (BitVec.add_zero _).symm
          | succ k =>
              rw [hframes k f hf, hnext, Nat.add_comm k 1, BitVec.ofNat_add, ← BitVec.add_assoc,
                BitVec.sub_add_cancel, BitVec.add_sub_cancel]

theorem numbered_programOutbufs {cap : MxcIsiCapDev} (hactive : cap.outActive = [])
    (hdiscard : cap.outDiscard = []) {u : BufRef} {rest : List BufRef}
    (hpending : cap.outPending = u :: rest) (hu : u.isUser = true) :
    Numbered (programOutbufs cap) ∧ (programOutbufs cap).frameCount = 1#32 := by
  have hne : BufRef.discard 0 ≠ u := by
    rintro rfl
    exact Bool.noConfusion hu
  refine ⟨⟨.discard 0, u, ?_, ?_, ?_⟩, rfl⟩
  · simp [programOutbufs, addDiscard, hdiscard, hactive, hpending, startOutbuf, setSequence,
      setState, mxcIsiChannelSetOutbuf]
  · simp [programOutbufs, addDiscard, hdiscard, hactive, hpending, startOutbuf, setSequence,
      setState, mxcIsiChannelSetOutbuf, hne]
  · simp [programOutbufs, addDiscard, hdiscard, hactive, hpending, startOutbuf, setSequence,
      setState, mxcIsiChannelSetOutbuf]

theorem numbered_startStreaming {cap started : MxcIsiCapDev} {hostdata : Bool}
    {alloc : Nat → Option U32} (h : Startable cap)
    (hstart : capVb2StartStreaming cap hostdata alloc cap.outPending.length =
      (started, .ok ())) :
    Numbered started ∧ started.frameCount = 1#32 := by
  obtain ⟨hcount, size, dma, allocs, rfl⟩ := startStreaming_ok hstart
  obtain ⟨u, rest, hcons⟩ := List.exists_cons_of_length_pos
    (show 0 < cap.outPending.length by omega)
  exact numbered_programOutbufs h.active h.discard hcons
    (h.users u (by rw [hcons]; exact List.mem_cons_self))

theorem numbered_exec {cap : MxcIsiCapDev} {ops : List StreamOp} (hrot : Rotating cap)
    (h : Numbered cap) (hops : Along streamStep MayQueue cap ops) :
    Numbered (exec streamStep cap ops) := by
  refine (exec_of_along (I := fun cap => Rotating cap ∧ Numbered cap) ?_ ⟨hrot, h⟩ hops).2
  intro cap op hI hop
  exact ⟨(rotating_streamStep hI.1 hop).1, (numbered_streamStep hI.1 hI.2 hop).1⟩

end Numbers

/-- A node in the line is filled when its turn has come: with `k` nodes ahead of it, `k`
more frames are stored first, whatever is queued meanwhile; its own frame carries the
number of frames since the start of the stream, and users are completed in that order. -/
theorem filled_in_turn {cap started : MxcIsiCapDev} {hostdata : Bool}
    {alloc : Nat → Option U32} (h : Startable cap)
    (hstart : capVb2StartStreaming cap hostdata alloc cap.outPending.length =
      (started, .ok ()))
    (pre post : List StreamOp) (hops : Along streamStep MayQueue started (pre ++ post))
    (k : Nat) (r : BufRef)
    (hr : (line (exec streamStep started pre))[k]? = some r) :
    let mid := exec streamStep started pre
    let final := exec streamStep mid post
    let frames := framesOf mid post
    (frames.length ≤ k → (line final)[k - frames.length]? = some r) ∧
      (k < frames.length →
        frames[k]? = some (r, BitVec.ofNat 32 ((framesOf started pre).length + k))) ∧
      final.completed.map Prod.fst =
        mid.completed.map Prod.fst ++ (frames.map Prod.fst).filter BufRef.isUser := by
  obtain ⟨hpre, hpost⟩ := along_append.mp hops
  have hrotating := (rotating_startStreaming h hstart).1
  obtain ⟨hnumbered, hone⟩ := numbered_startStreaming h hstart
  have hmid := (rotating_exec hrotating hpre).1
  have hcount := (numbers_exec hrotating hnumbered hpre).1
  have hnumber := (numbers_exec hmid (numbered_exec hrotating hnumbered hpre) hpost).2
  obtain ⟨⟨added, -, hline⟩, hcompleted⟩ := passes_exec hmid hpost
  have hsplit : (((framesOf (exec streamStep started pre) post).map Prod.fst) ++
      line (exec streamStep (exec streamStep started pre) post))[k]? = some r := by
    change line (exec streamStep started pre) ++ added = _ ++ line _ at hline
    rw [← hline]
    obtain ⟨hlt, -⟩ := List.getElem?_eq_some_iff.mp hr
    rw [List.getElem?_append_left hlt]
    exact hr
  refine ⟨fun hle => ?_, fun hlt => ?_, ?_⟩
  · rw [List.getElem?_append_right (by rw [List.length_map]; exact hle), List.length_map] at hsplit
    exact hsplit
  · rw [List.getElem?_append_left (by rw [List.length_map]; exact hlt), List.getElem?_map]
      at hsplit
    obtain ⟨f, hf, hfst⟩ := Option.map_eq_some_iff.mp hsplit
    have hsnd := hnumber k f hf
    rw [hcount, hone, BitVec.add_comm 1#32, BitVec.add_sub_cancel, ← BitVec.ofNat_add] at hsnd
    rw [hf, ← hfst, ← hsnd]
  · rw [not_isDiscard] at hcompleted
    exact hcompleted

/-- The second of the two buffers queued on the board is stored in the third frame. -/
theorem filled_in_turn_board :
    (framesOf boardStarted [.frameDone 0x20000200#32, .frameDone 0x20000100#32, .bufQueue 0,
      .frameDone 0x20000200#32])[2]? = some (.user 1, 2#32) :=
  (filled_in_turn startable_boardQueued boardQueued_start []
    [.frameDone 0x20000200#32, .frameDone 0x20000100#32, .bufQueue 0,
      .frameDone 0x20000200#32] (by decide) 2 (.user 1) (by decide)).2.1 (by decide)

theorem remaining_eq {cap : MxcIsiCapDev} (h : (bufRotation cap).Sorted isDiscard) :
    cap.completed.map Prod.fst ++ remaining cap = (bufRotation cap).history isDiscard := by
  have hpending : cap.outPending.filter BufRef.isUser = cap.outPending := by
    refine List.filter_eq_self.mpr fun r hr => ?_
    have hr' := h.pending_user r hr
    simpa [isDiscard] using hr'
  unfold remaining Rotation.history Rotation.line
  rw [not_isDiscard, List.filter_append]
  change _ = cap.completed.map Prod.fst ++
    (cap.outActive.filter BufRef.isUser ++ cap.outPending.filter BufRef.isUser)
  rw [hpending]

/-- Buffers come back in the order in which they were handed over. -/
def InOrder (s : Vb2Capture) : Prop :=
  s.queued = s.cap.completed.map Prod.fst ++ remaining s.cap

theorem history_irqHandler {s : Vb2Capture} (h : Books s) (status : U32) :
    (bufRotation (mxcIsiIrqHandler s.cap status)).history isDiscard =
      (bufRotation s.cap).history isDiscard := by
  rcases hstreaming : s.streaming with _ | _
  · obtain ⟨hpending, hactive, -, hcompleted⟩ :=
      irqHandler_idle s.cap status (h.idle hstreaming).1
    simp [Rotation.history, Rotation.line, bufRotation, hpending, hactive, hcompleted]
  · obtain ⟨hmarked, hfull⟩ := h.running hstreaming
    rw [rotation_irqHandler_eq hmarked]
    split
    · obtain ⟨a, rest, hactive⟩ : ∃ a rest, s.cap.outActive = a :: rest := by
        refine List.exists_cons_of_length_pos ?_
        have hslots : s.cap.outActive.length = 2 := hfull.slots
        omega
      have hpasses := Rotation.passes_advance h.sorted (q := bufRotation s.cap) hactive
      exact hpasses.history.trans (List.append_nil _)
    · rfl

theorem history_started {s : Vb2Capture} (h : Books s) {started : MxcIsiCapDev}
    {hostdata : Bool} {alloc : Nat → Option U32}
    (hstart : capVb2StartStreaming s.cap hostdata alloc s.owned.length =
      (started, .ok ())) :
    (bufRotation started).history isDiscard = (bufRotation s.cap).history isDiscard := by
  obtain ⟨-, size, dma, allocs, rfl⟩ := startStreaming_ok hstart
  rw [rotation_programOutbufs]
  exact Rotation.history_start h.sorted (by simp [discardNodes])

theorem history_vb2Step {s : Vb2Capture} {op : Vb2Op} (h : Books s)
    (hop : Vb2Contract s op) (hkeep : StartKeepsBuffers s op) :
    ∃ new, (vb2Step s op).queued = s.queued ++ new ∧
      (bufRotation (vb2Step s op).cap).history isDiscard =
        (bufRotation s.cap).history isDiscard ++ new := by
  cases op with
  | bufQueue i =>
      exact ⟨[.user i], rfl,
        Rotation.Passes.history (Rotation.passes_enqueue (q := bufRotation s.cap) rfl)⟩
  | frameDone status =>
      exact ⟨[], (List.append_nil _).symm,
        (history_irqHandler h status).trans (List.append_nil _).symm⟩
  | stopStreaming =>
      refine ⟨[], (List.append_nil _).symm, ?_⟩
      change (bufRotation (capVb2StopStreaming s.cap)).history isDiscard = _
      rw [(stopStreaming_spec (h.running hop).1).2.1, (Rotation.history_drain h.sorted).1,
        List.append_nil]
  | startStreaming hostdata alloc =>
      rcases hstart : capVb2StartStreaming s.cap hostdata alloc s.owned.length with
        ⟨cap, e | u⟩
      · rw [vb2Step_startFailed hstart]
        refine ⟨[], (List.append_nil _).symm, ?_⟩
        rw [(startStreaming_error hstart).1, List.append_nil]
      · rw [vb2Step_started hstart]
        exact ⟨[], (List.append_nil _).symm, (history_started h hstart).trans
          (List.append_nil _).symm⟩

/-- The capture queue is a FIFO over its whole life: in every run in which no start fails
while buffers are handed over, the buffers come back in the order in which vb2 handed them
over, whether a frame was stored in them or a stop returned them. -/
theorem buffers_in_order {s : Vb2Capture} (hs : Fresh s) (ops : List Vb2Op)
    (hops : Along vb2Step (fun s op => Vb2Contract s op ∧ StartKeepsBuffers s op) s ops) :
    Always vb2Step InOrder s ops := by
  have hinit : Books s ∧ s.queued = (bufRotation s.cap).history isDiscard := by
    refine ⟨hs.books_hold, ?_⟩
    obtain ⟨⟨hpending, hactive, -⟩, -, ⟨-, hqueued, -, hdone⟩, -⟩ := hs
    simp [Rotation.history, Rotation.line, bufRotation, hpending, hactive, hqueued, hdone]
  have halways := always_of_along (I := fun s : Vb2Capture =>
    Books s ∧ s.queued = (bufRotation s.cap).history isDiscard) ?_ hinit hops
  · refine halways.imp fun s hI => ?_
    unfold InOrder
    rw [remaining_eq hI.1.sorted]
    exact hI.2
  · intro s op hI hop
    obtain ⟨new, hqueued, hhistory⟩ := history_vb2Step hI.1 hop.1 hop.2
    exact ⟨(books_vb2Step hI.1 hop.1 hop.2).2, by rw [hqueued, hhistory, hI.2]⟩

theorem buffers_in_order_board : Always vb2Step InOrder boardVb2 boardRun := by
  exact buffers_in_order fresh_boardVb2 boardRun ⟨⟨by decide, trivial⟩, ⟨by decide, trivial⟩,
    ⟨by decide, .inr ⟨by decide, rfl, fun _ _ => rfl⟩⟩, ⟨trivial, trivial⟩, ⟨by decide, trivial⟩,
    trivial⟩

end CameraPorting.Isi.FrameOrder
