import CameraPorting.Kernel.Media

namespace CameraPorting.Isi.Device

open CameraPorting.Kernel.Media

inductive ChnlReg where
  | ctrl | imgCtrl | outBufCtrl | imgCfg | ier | sts
  | scaleFactor | scaleOffset | cropUlc | cropLrc
  | cscCoeff0 | cscCoeff1 | cscCoeff2 | cscCoeff3 | cscCoeff4 | cscCoeff5
  | outBuf1AddrY | outBuf1AddrU | outBuf1AddrV | outBufPitch
  | inBufAddr | inBufPitch | memRdCtrl
  | outBuf2AddrY | outBuf2AddrU | outBuf2AddrV | sclImgCfg
  deriving DecidableEq, Repr

abbrev ChnlRegs := ChnlReg → U32

/-- `writel(v, mxc_isi->regs + r)`; `readl` is function application. -/
def writel (v : U32) (r : ChnlReg) (regs : ChnlRegs) : ChnlRegs :=
  Function.update regs r v

@[simp] theorem writel_self (v : U32) (r : ChnlReg) (regs : ChnlRegs) :
    writel v r regs r = v := by
  simp [writel]

@[simp] theorem writel_ne {r r' : ChnlReg} (h : r' ≠ r) (v : U32)
    (regs : ChnlRegs) : writel v r regs r' = regs r' := by
  simp [writel, h]

inductive MxcIsiBufId where
  | buf1 | buf2
  deriving DecidableEq, Repr

structure FrameAddr where
  y : U32
  cb : U32
  cr : U32
  deriving DecidableEq, Repr

inductive Vb2BufferState where
  | dequeued | active | done | error
  deriving DecidableEq, Repr

/-- One plane of a `struct vb2_buffer`. The device keeps the default 32-bit DMA
mask, so a DMA address fits the 32-bit address registers. -/
structure Vb2Plane where
  dmaAddr : U32
  length : U32
  deriving DecidableEq, Repr

structure MxcIsiBuffer where
  planes : List Vb2Plane
  state : Vb2BufferState
  sequence : U32
  paddr : FrameAddr
  id : MxcIsiBufId
  discard : Bool
  deriving DecidableEq, Repr

def MxcIsiBuffer.planeDmaAddr (b : MxcIsiBuffer) (i : Nat) : U32 :=
  (b.planes[i]?.map Vb2Plane.dmaAddr).getD 0

/-- `vb2_plane_size`: zero for a plane the buffer does not have. -/
def MxcIsiBuffer.planeSize (b : MxcIsiBuffer) (i : Nat) : U32 :=
  (b.planes[i]?.map Vb2Plane.length).getD 0

instance neZeroBufDiscard : NeZero 2 := ⟨Nat.succ_ne_zero 1⟩

/-- A node that can be linked on a list of the capture device: a buffer of the
vb2 queue, or one of the two nodes `buf_discard[2]` inside the device. -/
inductive BufRef where
  | user (index : Nat)
  | discard (index : Fin 2)
  deriving DecidableEq, Repr

def BufRef.isUser : BufRef → Bool
  | .user _ => true
  | .discard _ => false

@[simp] theorem BufRef.isUser_user (i : Nat) : (BufRef.user i).isUser = true := rfl

@[simp] theorem BufRef.isUser_discard (k : Fin 2) :
    (BufRef.discard k).isUser = false := rfl

structure MxcIsiFmt where
  fourcc : U32
  mbusCode : U32
  color : U32
  memplanes : Nat
  depth : List Nat
  mdataplanes : Nat
  deriving DecidableEq, Repr

/-- `fmt->depth[i]`; entries a table row leaves out are zero. -/
def MxcIsiFmt.depthAt (fmt : MxcIsiFmt) (i : Nat) : Nat :=
  fmt.depth.getD i 0

/-- `struct mxc_isi_frame`. The arrays have `MXC_MAX_PLANES` = 3 entries. The
format pointer is `none` when it points to no table entry. -/
structure MxcIsiFrame where
  oWidth : U32
  oHeight : U32
  cWidth : U32
  cHeight : U32
  hOff : U32
  vOff : U32
  width : U32
  height : U32
  sizeimage : Nat → U32
  bytesperline : Nat → U32
  fmt : Option MxcIsiFmt

def setFrameBounds (f : MxcIsiFrame) (width height : U32) : MxcIsiFrame :=
  { f with
    oWidth := width
    oHeight := height
    cWidth := width
    cHeight := height
    width := width
    height := height }

structure V4l2PlanePixFormat where
  sizeimage : U32
  bytesperline : U32
  deriving DecidableEq, Repr

structure V4l2PixFormatMplane where
  width : U32
  height : U32
  pixelformat : U32
  numPlanes : Nat
  planeFmt : Nat → V4l2PlanePixFormat

structure MxcIsiChanSrc where
  srcDc0 : U32
  srcDc1 : U32
  srcMipi0 : U32
  srcMipi1 : U32
  srcHdmi : U32
  srcCsi : U32
  srcMem : U32
  deriving DecidableEq, Repr

structure MxcIsiPanicThd where
  mask : U32
  offset : Nat
  threshold : U32
  deriving DecidableEq, Repr

/-- `struct mxc_isi_plat_data`: the input selectors and the panic thresholds of
the SoC, and the interrupt enable masks its `ier_reg` table adds. -/
structure MxcIsiPlatData where
  chanSrc : MxcIsiChanSrc
  panicSetThdY : MxcIsiPanicThd
  panicSetThdU : MxcIsiPanicThd
  panicSetThdV : MxcIsiPanicThd
  ierMasks : U32
  deriving DecidableEq, Repr

/-- `enum isi_input_interface`, and any other value of the device tree. -/
inductive IsiInputInterface where
  | dc0 | dc1 | mipi0Csi2 | mipi1Csi2 | hdmi | mem | parallelCsi | invalid
  deriving DecidableEq, Repr

/-- `struct mxc_isi_dev`. `chain` says whether the chain regmap exists, `inPort`
and `subInPort` are two entries of `interface`. -/
structure MxcIsiDev where
  regs : ChnlRegs
  pdata : MxcIsiPlatData
  status : U32
  bufActiveReverse : Bool
  m2mEnabled : Bool
  isStreaming : Bool
  chain : Bool
  chainCtrl : U32
  chainBuf : Bool
  inPort : IsiInputInterface
  subInPort : U32
  alpha : U8
  alphaen : Bool
  hflip : Bool
  vflip : Bool
  cscen : Bool
  scale : Bool

structure DmaAlloc where
  dmaAddr : U32
  size : Nat
  deriving DecidableEq, Repr

/-- The `dev_warn` branches of the capture interrupt, and a `list_first_entry`
taken of an empty list, which C leaves undefined. -/
inductive ListFault where
  | emptyActive | emptyDiscard | firstEntryOfEmpty
  deriving DecidableEq, Repr

/-- `struct mxc_isi_cap_dev` with the channel it drives. `completed` collects the
calls of `vb2_buffer_done`, `faults` the accesses to an empty list, `addrWrites`
the slots whose address registers were written, in order. -/
structure MxcIsiCapDev where
  isi : MxcIsiDev
  pix : V4l2PixFormatMplane
  srcF : MxcIsiFrame
  dstF : MxcIsiFrame
  buf : BufRef → MxcIsiBuffer
  outPending : List BufRef
  outActive : List BufRef
  outDiscard : List BufRef
  frameCount : U32
  discardSize : Nat → U32
  discardBufferDma : Nat → U32
  dmaAllocs : List DmaAlloc
  completed : List (BufRef × Vb2BufferState)
  faults : List ListFault
  addrWrites : List MxcIsiBufId

end CameraPorting.Isi.Device
