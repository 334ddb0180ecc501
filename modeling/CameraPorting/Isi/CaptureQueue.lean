import CameraPorting.Isi.Channel

/-!
The buffer queue of the capture device, translated from `imx8-isi-cap.c`, with
`mxc_isi_channel_set_outbuf` of `imx8-isi-hw.c` and the interrupt handler of
`imx8-isi-core.c`. The intrusive lists are lists of the nodes linked on them.
-/

namespace CameraPorting.Isi.CaptureQueue

open CameraPorting.Kernel.Media
open CameraPorting.Isi.Device
open CameraPorting.Isi.Channel

def chnlOutBufCtrlLoadBuf1AddrMask : U32 := 0x4000#32
def chnlOutBufCtrlLoadBuf2AddrMask : U32 := 0x8000#32

def mxcIsiUpdateBufPaddr (buf : MxcIsiBuffer) (memplanes : Nat) :
    MxcIsiBuffer × Ret :=
  let paddr := { buf.paddr with cb := 0#32, cr := 0#32 }
  match memplanes with
  | 3 =>
      ({ buf with paddr := ⟨buf.planeDmaAddr 0, buf.planeDmaAddr 1,
          buf.planeDmaAddr 2⟩ }, .ok ())
  | 2 =>
      ({ buf with paddr := { paddr with y := buf.planeDmaAddr 0
                                        cb := buf.planeDmaAddr 1 } }, .ok ())
  | 1 => ({ buf with paddr := { paddr with y := buf.planeDmaAddr 0 } }, .ok ())
  | _ => ({ buf with paddr := paddr }, .error .einval)

/-- The plane addresses `mxc_isi_channel_set_outbuf` puts into `paddr`: two or
three planes fill the chroma addresses, one plane leaves them as they were. -/
def planeAddr (numPlanes : Nat) (dma : Nat → U32) (paddr : FrameAddr) :
    FrameAddr :=
  let paddr := { paddr with y := dma 0 }
  if numPlanes = 2 then { paddr with cb := dma 1 }
  else if numPlanes = 3 then { paddr with cb := dma 1, cr := dma 2 }
  else paddr

def outbufAddr (cap : MxcIsiCapDev) (buf : MxcIsiBuffer) : FrameAddr :=
  if buf.discard then
    planeAddr cap.pix.numPlanes cap.discardBufferDma buf.paddr
  else planeAddr buf.planes.length buf.planeDmaAddr buf.paddr

/-- The slot chosen by `mxc_isi_channel_set_outbuf`: by the sequence number for
the two buffers programmed at stream start, later by the status. -/
def outbufSlot (isi : MxcIsiDev) (framecount : U32) : Option MxcIsiBufId :=
  if framecount = 0#32 ∨ (isBufActive isi 2 ∧ framecount ≠ 1#32) then some .buf1
  else if framecount = 1#32 ∨ isBufActive isi 1 then some .buf2
  else none

def writeOutbuf (slot : Option MxcIsiBufId) (paddr : FrameAddr)
    (regs : ChnlRegs) : ChnlRegs :=
  let val := regs .outBufCtrl
  match slot with
  | some .buf1 =>
      let regs := writel paddr.y .outBuf1AddrY regs
      let regs := writel paddr.cb .outBuf1AddrU regs
      let regs := writel paddr.cr .outBuf1AddrV regs
      writel (val ^^^ chnlOutBufCtrlLoadBuf1AddrMask) .outBufCtrl regs
  | some .buf2 =>
      let regs := writel paddr.y .outBuf2AddrY regs
      let regs := writel paddr.cb .outBuf2AddrU regs
      let regs := writel paddr.cr .outBuf2AddrV regs
      writel (val ^^^ chnlOutBufCtrlLoadBuf2AddrMask) .outBufCtrl regs
  | none => writel val .outBufCtrl regs

def mxcIsiChannelSetOutbuf (cap : MxcIsiCapDev) (r : BufRef) : MxcIsiCapDev :=
  let buf := cap.buf r
  let paddr := outbufAddr cap buf
  let slot := outbufSlot cap.isi buf.sequence
  { cap with
    isi := { cap.isi with regs := writeOutbuf slot paddr cap.isi.regs }
    buf := Function.update cap.buf r
      { buf with paddr := paddr, id := slot.getD buf.id }
    addrWrites := cap.addrWrites ++ slot.toList }

def warn (cap : MxcIsiCapDev) (fault : ListFault) : MxcIsiCapDev :=
  { cap with faults := cap.faults ++ [fault] }

def setSequence (cap : MxcIsiCapDev) (r : BufRef) (sequence : U32) :
    MxcIsiCapDev :=
  { cap with buf := Function.update cap.buf r { cap.buf r with sequence := sequence } }

def setState (cap : MxcIsiCapDev) (r : BufRef) (state : Vb2BufferState) :
    MxcIsiCapDev :=
  { cap with buf := Function.update cap.buf r { cap.buf r with state := state } }

def vb2BufferDone (cap : MxcIsiCapDev) (r : BufRef) (state : Vb2BufferState) :
    MxcIsiCapDev :=
  { setState cap r state with completed := cap.completed ++ [(r, state)] }

/-- The test of `mxc_isi_cap_frame_write_done` that skips the interrupt: the
slot of the oldest active buffer is the one the hardware reports active. -/
def slotActive (isi : MxcIsiDev) (id : MxcIsiBufId) : Bool :=
  isBufActive isi 1 && id == .buf1 || isBufActive isi 2 && id == .buf2

def retireOutbuf (cap : MxcIsiCapDev) (r : BufRef) (rest : List BufRef) :
    MxcIsiCapDev :=
  let cap := { cap with outActive := rest }
  let cap := if (cap.buf r).discard then
      { cap with outDiscard := cap.outDiscard ++ [r] }
    else vb2BufferDone cap r .done
  { cap with frameCount := cap.frameCount + 1#32 }

/-- The slot just freed is given the oldest pending buffer, or a discard buffer
when userspace has not queued one in time. -/
def refillOutbuf (cap : MxcIsiCapDev) : MxcIsiCapDev :=
  match cap.outPending with
  | [] =>
      match cap.outDiscard with
      | [] => warn cap .emptyDiscard
      | r :: rest =>
          let cap := mxcIsiChannelSetOutbuf (setSequence cap r cap.frameCount) r
          { cap with outDiscard := rest, outActive := cap.outActive ++ [r] }
  | r :: rest =>
      let cap := mxcIsiChannelSetOutbuf (setSequence cap r cap.frameCount) r
      let cap := setState cap r .active
      { cap with outPending := rest, outActive := cap.outActive ++ [r] }

def mxcIsiCapFrameWriteDone (cap : MxcIsiCapDev) : MxcIsiCapDev :=
  match cap.outActive with
  | [] => warn cap .emptyActive
  | r :: rest =>
      if slotActive cap.isi (cap.buf r).id then cap
      else refillOutbuf (retireOutbuf cap r rest)

/-- `mxc_isi_irq_handler`. In mem2mem mode the frame belongs to the other video
node of the channel, and the capture device is not touched. -/
def mxcIsiIrqHandler (cap : MxcIsiCapDev) (status : U32) : MxcIsiCapDev :=
  let cap := { cap with
    isi := mxcIsiCleanIrqStatus { cap.isi with status := status } status }
  if status &&& chnlStsFrmStrdMask ≠ 0#32 then
    if cap.isi.m2mEnabled then cap else mxcIsiCapFrameWriteDone cap
  else cap

def capVb2BufferQueue (cap : MxcIsiCapDev) (r : BufRef) : MxcIsiCapDev :=
  -- `list_add_tail` of a node that no list holds; one still linked would corrupt the list
  let mdataplanes := (cap.dstF.fmt.map MxcIsiFmt.mdataplanes).getD 0
  { cap with
    buf := Function.update cap.buf r
      (mxcIsiUpdateBufPaddr (cap.buf r) mdataplanes).1
    outPending := cap.outPending ++ [r] }

def pageAlign (size : U32) : Nat :=
  (size.toNat + 4095) / 4096 * 4096

def freeDiscardBuffers (cap : MxcIsiCapDev) (n : Nat) : MxcIsiCapDev :=
  { cap with
    dmaAllocs := (List.range n).foldl (fun allocs i =>
      allocs.erase ⟨cap.discardBufferDma i, pageAlign (cap.discardSize i)⟩)
      cap.dmaAllocs }

/-- The allocation loop of `cap_vb2_start_streaming`, for `todo` planes from `i`
on. `alloc i` is the answer of `dma_alloc_coherent` for plane `i`. -/
def allocDiscardBuffers (alloc : Nat → Option U32) :
    (todo i : Nat) → MxcIsiCapDev → MxcIsiCapDev × Ret
  | 0, _, cap => (cap, .ok ())
  | todo + 1, i, cap =>
      let size := cap.dstF.sizeimage i
      let cap := { cap with discardSize := Function.update cap.discardSize i size }
      match alloc i with
      | none => (freeDiscardBuffers cap i, .error .enomem)
      | some dma =>
          allocDiscardBuffers alloc todo (i + 1) { cap with
            discardBufferDma := Function.update cap.discardBufferDma i dma
            dmaAllocs := cap.dmaAllocs ++ [⟨dma, pageAlign size⟩] }

def addDiscard (cap : MxcIsiCapDev) (k : Fin 2) : MxcIsiCapDev :=
  { cap with
    buf := Function.update cap.buf (.discard k)
      { cap.buf (.discard k) with discard := true }
    outDiscard := cap.outDiscard ++ [.discard k] }

def startOutbuf (cap : MxcIsiCapDev) (r : BufRef) (sequence : U32) :
    MxcIsiCapDev :=
  mxcIsiChannelSetOutbuf (setState (setSequence cap r sequence) r .active) r

/-- The locked part of `cap_vb2_start_streaming`. -/
def programOutbufs (cap : MxcIsiCapDev) : MxcIsiCapDev :=
  let cap := addDiscard (addDiscard cap 0) 1
  let cap := match cap.outDiscard with
    | [] => warn cap .firstEntryOfEmpty
    | r :: rest =>
        let cap := startOutbuf cap r 0#32
        { cap with outDiscard := rest, outActive := cap.outActive ++ [r] }
  let cap := match cap.outPending with
    | [] => warn cap .firstEntryOfEmpty
    | r :: rest =>
        let cap := startOutbuf cap r 1#32
        { cap with outPending := rest, outActive := cap.outActive ++ [r] }
  { cap with frameCount := 1#32 }

/-- `hostdata` says whether `mxc_isi_get_hostdata` finds the channel. -/
def capVb2StartStreaming (cap : MxcIsiCapDev) (hostdata : Bool)
    (alloc : Nat → Option U32) (count : Nat) : MxcIsiCapDev × Ret :=
  if count < 2 then (cap, .error .enobufs)
  else if !hostdata then (cap, .error .einval)
  else
    match allocDiscardBuffers alloc cap.pix.numPlanes 0 cap with
    | (cap, .error e) => (cap, .error e)
    | (cap, .ok ()) => (programOutbufs cap, .ok ())

def returnActive (cap : MxcIsiCapDev) (r : BufRef) : MxcIsiCapDev :=
  if (cap.buf r).discard then cap else vb2BufferDone cap r .error

def capVb2StopStreaming (cap : MxcIsiCapDev) : MxcIsiCapDev :=
  let cap := { cap with isi := mxcIsiChannelDisable cap.isi }
  let cap := cap.outActive.foldl returnActive cap
  let cap := cap.outPending.foldl (fun cap r => vb2BufferDone cap r .error) cap
  let cap := { cap with outActive := [], outPending := [], outDiscard := [] }
  freeDiscardBuffers cap cap.pix.numPlanes

end CameraPorting.Isi.CaptureQueue
