import CameraPorting.Isi.SlotSafety

/-!
The mem2mem node of a channel, translated from `imx8-isi-m2m.c`, with what vb2 and the
mem2mem framework do around its callbacks: buffers are handed over when their queue starts
or while it streams, a job runs while both queues stream and have a ready buffer, and a
stop waits for the job to end.
-/

namespace CameraPorting.Isi.Mem2mem

open CameraPorting.Kernel.Media
open CameraPorting.Isi.Device
open CameraPorting.Isi.Channel
open CameraPorting.Isi.CaptureQueue
open CameraPorting.Isi.SlotSafety

inductive QueueType where
  | output | capture
  deriving DecidableEq

/-- One queue of the context. `queued` are the buffers vb2 keeps until the queue starts,
`owned` those it counts as owned by the driver, `ready` is the ready list of the
framework; `handed` and `completed` collect all buffers handed over and given back. -/
structure M2mQueueCtx where
  buf : Nat → MxcIsiBuffer
  streaming : Bool
  queued : List Nat
  owned : List Nat
  ready : List Nat
  handed : List Nat
  completed : List (Nat × Vb2BufferState)

structure MxcIsiM2mDev where
  isi : MxcIsiDev
  srcF : MxcIsiFrame
  dstF : MxcIsiFrame
  src : M2mQueueCtx
  dst : M2mQueueCtx
  outActive : List Nat
  frameCount : U32
  aborting : Bool

def queueOf (m : MxcIsiM2mDev) : QueueType → M2mQueueCtx
  | .output => m.src
  | .capture => m.dst

def setQueue (m : MxcIsiM2mDev) (type : QueueType) (q : M2mQueueCtx) : MxcIsiM2mDev :=
  match type with
  | .output => { m with src := q }
  | .capture => { m with dst := q }

def setBuf (q : M2mQueueCtx) (i : Nat) (b : MxcIsiBuffer) : M2mQueueCtx :=
  { q with buf := Function.update q.buf i b }

def vb2BufferDone (q : M2mQueueCtx) (i : Nat) (state : Vb2BufferState) : M2mQueueCtx :=
  { setBuf q i { q.buf i with state := state } with
    owned := q.owned.erase i
    completed := q.completed ++ [(i, state)] }

def m2mVb2BufferQueue (q : M2mQueueCtx) (i : Nat) : M2mQueueCtx :=
  { q with ready := q.ready ++ [i] }

def enqueueInDriver (q : M2mQueueCtx) (i : Nat) : M2mQueueCtx :=
  m2mVb2BufferQueue
    { setBuf q i { q.buf i with state := .active } with
      owned := q.owned ++ [i]
      handed := q.handed ++ [i] } i

def qbuf (q : M2mQueueCtx) (i : Nat) (planes : List Vb2Plane) : M2mQueueCtx :=
  let q := setBuf q i { q.buf i with planes := planes }
  if q.streaming then enqueueInDriver q i else { q with queued := q.queued ++ [i] }

def bufAddr (buf : MxcIsiBuffer) : FrameAddr :=
  planeAddr buf.planes.length buf.planeDmaAddr buf.paddr

def mxcIsiChannelSetOutbuf (m : MxcIsiM2mDev) (i : Nat) : MxcIsiM2mDev :=
  let buf := m.dst.buf i
  let paddr := bufAddr buf
  let slot := outbufSlot m.isi buf.sequence
  { m with
    isi := { m.isi with regs := writeOutbuf slot paddr m.isi.regs }
    dst := setBuf m.dst i { buf with paddr := paddr, id := slot.getD buf.id } }

def activateDst (m : MxcIsiM2mDev) (sequence : U32) : Option MxcIsiM2mDev :=
  match m.dst.ready with
  | [] => none
  | i :: rest =>
      let buf := { m.dst.buf i with state := .active, sequence := sequence }
      let m := mxcIsiChannelSetOutbuf { m with dst := setBuf m.dst i buf } i
      some { m with
        dst := { m.dst with ready := rest }
        outActive := m.outActive ++ [i] }

def retireDst (m : MxcIsiM2mDev) : MxcIsiM2mDev :=
  match m.outActive with
  | [] => m
  | i :: rest => { m with dst := vb2BufferDone m.dst i .done, outActive := rest }

/-- `mxc_isi_m2m_frame_write_done`, up to the end of the job. -/
def mxcIsiM2mFrameWriteDone (m : MxcIsiM2mDev) : MxcIsiM2mDev :=
  if m.aborting then { m with isi := mxcIsiChannelDisable m.isi }
  else
    match m.src.ready with
    | [] => m
    | i :: rest =>
        let m := { m with src := vb2BufferDone { m.src with ready := rest } i .done }
        let m := retireDst m
        let m := { m with frameCount := m.frameCount + 1#32 }
        (activateDst m m.frameCount).getD m

/-- `mxc_isi_irq_handler`; `curr` says whether the context has a job running. -/
def mxcIsiIrqHandler (m : MxcIsiM2mDev) (curr : Bool) (status : U32) : MxcIsiM2mDev :=
  let m := { m with isi := mxcIsiCleanIrqStatus { m.isi with status := status } status }
  if status &&& chnlStsFrmStrdMask ≠ 0#32 then
    if m.isi.m2mEnabled && curr then mxcIsiM2mFrameWriteDone m else m
  else m

def mxcIsiChannelSetM2mSrcAddr (m : MxcIsiM2mDev) (i : Nat) : MxcIsiM2mDev :=
  let buf := m.src.buf i
  let paddr := { buf.paddr with y := buf.planeDmaAddr 0 }
  { m with
    isi := { m.isi with regs := writel paddr.y .inBufAddr m.isi.regs }
    src := setBuf m.src i { buf with paddr := paddr } }

def mxcIsiM2mDeviceRun (m : MxcIsiM2mDev) : MxcIsiM2mDev :=
  match m.src.ready with
  | [] => m
  | i :: _ =>
      let m := mxcIsiChannelSetM2mSrcAddr m i
      { m with isi := mxcIsiChannelEnable m.isi m.isi.m2mEnabled }

def mxcIsiM2mJobReady (m : MxcIsiM2mDev) : Bool :=
  1 ≤ m.src.ready.length && 1 ≤ m.dst.ready.length

def mxcIsiM2mJobAbort (m : MxcIsiM2mDev) : MxcIsiM2mDev := { m with aborting := true }

def m2mVb2StartStreaming (m : MxcIsiM2mDev) (type : QueueType) (count : Nat) :
    MxcIsiM2mDev × Ret :=
  match type with
  | .output => (m, .ok ())
  | .capture =>
      if count < 2 then (m, .error .einval)
      else
        match activateDst m 0#32 with
        | none => (m, .ok ())
        | some m =>
            match activateDst m 1#32 with
            | none => (m, .ok ())
            | some m => ({ m with frameCount := 1#32, aborting := false }, .ok ())

def returnAll (q : M2mQueueCtx) (is : List Nat) : M2mQueueCtx :=
  is.foldl (fun q i => vb2BufferDone q i .error) q

/-- `m2m_vb2_stop_streaming`, which both queues share. -/
def m2mVb2StopStreaming (m : MxcIsiM2mDev) : MxcIsiM2mDev :=
  let m := { m with src := returnAll { m.src with ready := [] } m.src.ready }
  let m := { m with dst := returnAll { m.dst with ready := [] } m.dst.ready }
  { m with dst := returnAll m.dst m.outActive, outActive := [] }

/-- `vb2_streamon`: it hands over what is queued and starts the driver; after a failure it
takes the buffers back. -/
def vb2Streamon (m : MxcIsiM2mDev) (type : QueueType) : MxcIsiM2mDev × Ret :=
  let queue := queueOf m type
  if queue.streaming then (m, .ok ())
  else
    let q := queue.queued.foldl enqueueInDriver { queue with queued := [] }
    match m2mVb2StartStreaming (setQueue m type q) type q.owned.length with
    | (m, .ok ()) => (setQueue m type { queueOf m type with streaming := true }, .ok ())
    | (m, .error e) =>
        (setQueue m type { queueOf m type with owned := [], queued := queue.queued }, .error e)

def upscales (m : MxcIsiM2mDev) : Bool :=
  m.srcF.width < m.dstF.width || m.srcF.height < m.dstF.height

def channelConfig (m : MxcIsiM2mDev) : MxcIsiM2mDev :=
  match m.srcF.fmt, m.dstF.fmt with
  | some srcFmt, some dstFmt =>
      { m with isi := mxcIsiChannelConfig m.isi m.srcF m.dstF srcFmt dstFmt }
  | _, _ => m

/-- `mxc_isi_m2m_streamon`; `refuse` stands for the checks of vb2 itself. -/
def mxcIsiM2mStreamon (m : MxcIsiM2mDev) (type : QueueType) (refuse : Option Errno) :
    MxcIsiM2mDev × Ret :=
  if upscales m then (m, .error .einval)
  else
    let m := match type with
      | .output => m
      | .capture => channelConfig { m with frameCount := 0#32 }
    match refuse with
    | some e => (m, .error e)
    | none => vb2Streamon m type

def v4l2M2mStreamoff (m : MxcIsiM2mDev) (type : QueueType) : MxcIsiM2mDev :=
  let m := if (queueOf m type).streaming then m2mVb2StopStreaming m else m
  setQueue m type
    { queueOf m type with streaming := false, queued := [], owned := [], ready := [] }

def otherSlot : MxcIsiBufId → MxcIsiBufId
  | .buf1 => .buf2
  | .buf2 => .buf1

/-- The node: whether its job runs, whether a stop waits for the job, and the slot that the
hardware writes in the next frame. -/
structure M2mNode where
  dev : MxcIsiM2mDev
  running : Bool
  cancelling : Bool
  nextSlot : MxcIsiBufId

/-- A STREAMOFF is two steps, as it waits for the job in between. -/
inductive M2mOp where
  | qbuf (type : QueueType) (index : Nat) (planes : List Vb2Plane)
  | streamon (type : QueueType) (refuse : Option Errno)
  | cancelJob (type : QueueType)
  | streamoff (type : QueueType)
  | deviceRun
  | frameDone (status : U32)

/-- `mxc_isi_m2m_streamoff` up to the wait of `v4l2_m2m_cancel_job`. -/
def cancelJob (s : M2mNode) (type : QueueType) : M2mNode :=
  let dev := match type with
    | .output => s.dev
    | .capture => { s.dev with isi := mxcIsiChannelDisable s.dev.isi }
  if s.running then { s with dev := mxcIsiM2mJobAbort dev, cancelling := true }
  else { s with dev := dev }

def frameDone (s : M2mNode) (status : U32) : M2mNode :=
  let stored := s.running && status &&& chnlStsFrmStrdMask != 0#32
  { s with
    dev := mxcIsiIrqHandler s.dev s.running status
    running := s.running && !(stored && s.dev.isi.m2mEnabled)
    nextSlot := if stored then otherSlot s.nextSlot else s.nextSlot }

/-- The hardware starts over at the first slot when the CAPTURE queue starts. -/
def streamon (s : M2mNode) (type : QueueType) (refuse : Option Errno) : M2mNode :=
  let dev := (mxcIsiM2mStreamon s.dev type refuse).1
  { s with
    dev := dev
    nextSlot := if !s.dev.dst.streaming && dev.dst.streaming then .buf1 else s.nextSlot }

def m2mStep (s : M2mNode) : M2mOp → M2mNode
  | .qbuf type i planes =>
      { s with dev := setQueue s.dev type (qbuf (queueOf s.dev type) i planes) }
  | .streamon type refuse => streamon s type refuse
  | .cancelJob type => cancelJob s type
  | .streamoff type => { s with dev := v4l2M2mStreamoff s.dev type, cancelling := false }
  | .deviceRun => { s with dev := mxcIsiM2mDeviceRun s.dev, running := true }
  | .frameDone status => frameDone s status

/-- What vb2, the framework and the hardware promise: a buffer is queued when it is not
queued yet, a job is run when both queues stream and the driver says that it is ready, a
stop waits for the job, and the status of a stored frame reports one slot active, the one
that was not written. Left out is the start that hands over a buffer which a failed start
has left on the ready list: the list is intrusive, and `list_add_tail` corrupts it. -/
def M2mContract (s : M2mNode) : M2mOp → Prop
  | .qbuf type i _ => i ∉ (queueOf s.dev type).queued ∧ i ∉ (queueOf s.dev type).owned
  | .streamon type refuse =>
      upscales s.dev = false → refuse = none → (queueOf s.dev type).streaming = false →
        ∀ i ∈ (queueOf s.dev type).queued, i ∉ (queueOf s.dev type).ready
  | .streamoff _ => s.running = false
  | .deviceRun => s.dev.src.streaming = true ∧ s.dev.dst.streaming = true ∧
      mxcIsiM2mJobReady s.dev = true ∧ s.running = false ∧ s.cancelling = false
  | .frameDone status => s.running = true → status &&& chnlStsFrmStrdMask ≠ 0#32 →
      ReportsOne status ∧ slotActive { s.dev.isi with status := status } s.nextSlot = false
  | _ => True

end CameraPorting.Isi.Mem2mem
