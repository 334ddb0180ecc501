import CameraPorting.Isi.Device

/-!
The register programming of one ISI channel, translated from `imx8-isi-hw.c`.
Reads of a register are applications of the register contents, writes are
`writel`; delays are left out.
-/

namespace CameraPorting.Isi.Channel

open CameraPorting.Kernel.Media
open CameraPorting.Isi.Device

def isi2K : U32 := 2048#32

def chnlCtrlChnlEnMask : U32 := 0x80000000#32
def chnlCtrlClkEnMask : U32 := 0x40000000#32
def chnlCtrlChnlBypassMask : U32 := 0x20000000#32
def chnlCtrlChainBufMask : U32 := 0x6000000#32
def chnlCtrlSwRst : U32 := 0x1000000#32
def chnlCtrlMipiVcIdMask : U32 := 0xc0#32
def chnlCtrlSrcTypeMask : U32 := 0x10#32
def chnlCtrlSrcInputMask : U32 := 0x7#32

def chnlImgCtrlFormatMask : U32 := 0x3f000000#32
def chnlImgCtrlGblAlphaValMask : U32 := 0xff0000#32
def chnlImgCtrlGblAlphaEnMask : U32 := 0x8000#32
def chnlImgCtrlDecXMask : U32 := 0xc00#32
def chnlImgCtrlDecYMask : U32 := 0x300#32
def chnlImgCtrlVflipEnMask : U32 := 0x40#32
def chnlImgCtrlHflipEnMask : U32 := 0x20#32
def chnlImgCtrlYcbcrModeMask : U32 := 0x8#32
def chnlImgCtrlCscModeMask : U32 := 0x6#32
def chnlImgCtrlCscBypassMask : U32 := 0x1#32

/-- `CHNL_STS_FRM_STRD_MASK`, the frame-done bit of the status word. -/
def chnlStsFrmStrdMask : U32 := 0x20000000#32

/-- The frame-received and AXI write error enables of `CHNL_IER`. -/
def chnlIerFrameMasks : U32 :=
  0x20000000#32 ||| 0x8000000#32 ||| 0x10000000#32 ||| 0x4000000#32

def isiDownscaleThreshold : U32 := 0x4000#32

/-- `coeffs[YUV2RGB]` and `coeffs[RGB2YUV]`, in register order. -/
def coeffsYuv2Rgb : List U32 :=
  [0x0000012a, 0x012a0198, 0x0730079c, 0x0204012a, 0x01f00000, 0x01800180]

def coeffsRgb2Yuv : List U32 :=
  [0x00810041, 0x07db0019, 0x007007b6, 0x07a20070, 0x001007ee, 0x00800080]

def isRgb (pixFmt : U32) : Bool :=
  [v4l2PixFmtRgb565, v4l2PixFmtRgb24, v4l2PixFmtRgb32, v4l2PixFmtBgr32,
    v4l2PixFmtXrgb32, v4l2PixFmtXbgr32, v4l2PixFmtBgr24, v4l2PixFmtRgba32,
    v4l2PixFmtAbgr32, v4l2PixFmtArgb32].contains pixFmt

def isYuv (pixFmt : U32) : Bool :=
  [v4l2PixFmtYuyv, v4l2PixFmtYuv32, v4l2PixFmtYuv444m, v4l2PixFmtYuv24,
    v4l2PixFmtNv12].contains pixFmt

/-- Whether the status word of the last interrupt reports hardware buffer
`bufId` (1 or 2) active; early SoC revisions swap the two bits. -/
def isBufActive (isi : MxcIsiDev) (bufId : Nat) : Bool :=
  if bufId = 1 then
    if isi.bufActiveReverse then isi.status &&& 0x100#32 != 0#32
    else isi.status &&& 0x200#32 != 0#32
  else
    if isi.bufActiveReverse then isi.status &&& 0x200#32 != 0#32
    else isi.status &&& 0x100#32 != 0#32

def chainBuf (isi : MxcIsiDev) (frm : MxcIsiFrame) : MxcIsiDev :=
  let val := isi.regs .ctrl &&& ~~~chnlCtrlChainBufMask
  if isi2K < frm.oWidth then
    { isi with
      regs := writel (val ||| 1#32 <<< 25) .ctrl isi.regs
      chainCtrl := if isi.chain then chnlCtrlClkEnMask else isi.chainCtrl
      chainBuf := true }
  else
    { isi with regs := writel val .ctrl isi.regs, chainBuf := false }

def mxcIsiChannelSwReset (isi : MxcIsiDev) : MxcIsiDev :=
  let val := isi.regs .ctrl ||| chnlCtrlSwRst
  { isi with
    regs := writel (val &&& ~~~chnlCtrlSwRst) .ctrl (writel val .ctrl isi.regs) }

def mxcIsiChannelInit (isi : MxcIsiDev) : MxcIsiDev :=
  let isi := mxcIsiChannelSwReset isi
  { isi with regs := writel (isi.regs .ctrl ||| 1#32 <<< 30) .ctrl isi.regs }

def mxcIsiChannelDeinit (isi : MxcIsiDev) : MxcIsiDev :=
  let isi := mxcIsiChannelSwReset isi
  { isi with
    regs := writel 0#32 .ctrl isi.regs
    chainCtrl := if isi.chainBuf && isi.chain then 0#32 else isi.chainCtrl }

def mxcIsiChannelSourceConfig (isi : MxcIsiDev) : MxcIsiDev :=
  let src := isi.pdata.chanSrc
  let val := isi.regs .ctrl &&&
    ~~~(chnlCtrlMipiVcIdMask ||| chnlCtrlSrcInputMask ||| chnlCtrlSrcTypeMask)
  let vc := if isi.subInPort ≤ 3#32 then isi.subInPort <<< 6 else 0#32
  let sel := match isi.inPort with
    | .mipi0Csi2 => src.srcMipi0 ||| vc
    | .mipi1Csi2 => src.srcMipi1 ||| vc
    | .dc0 => src.srcDc0
    | .dc1 => src.srcDc1
    | .hdmi => src.srcHdmi
    | .parallelCsi => src.srcCsi
    | .mem => src.srcMem ||| 1#32 <<< 4
    | .invalid => 0#32
  { isi with regs := writel (val ||| sel) .ctrl isi.regs }

def mxcIsiChannelSetFlip (isi : MxcIsiDev) : MxcIsiDev :=
  let val := isi.regs .imgCtrl &&&
    ~~~(chnlImgCtrlVflipEnMask ||| chnlImgCtrlHflipEnMask)
  let val := if isi.vflip then val ||| 1#32 <<< 6 else val
  let val := if isi.hflip then val ||| 1#32 <<< 5 else val
  { isi with regs := writel val .imgCtrl isi.regs }

/-- The six writes of the colour conversion coefficients. -/
def writeCoeffs (coeffs : List U32) (regs : ChnlRegs) : ChnlRegs :=
  ([ChnlReg.cscCoeff0, .cscCoeff1, .cscCoeff2, .cscCoeff3, .cscCoeff4,
    .cscCoeff5].zip coeffs).foldl (fun regs w => writel w.2 w.1 regs) regs

def mxcIsiChannelSetCsc (isi : MxcIsiDev) (srcFmt dstFmt : MxcIsiFmt) :
    MxcIsiDev :=
  let val := isi.regs .imgCtrl &&&
    ~~~(chnlImgCtrlFormatMask ||| chnlImgCtrlYcbcrModeMask |||
      chnlImgCtrlCscBypassMask ||| chnlImgCtrlCscModeMask)
  let val := val ||| dstFmt.color <<< 24
  if isYuv srcFmt.fourcc && isRgb dstFmt.fourcc then
    { isi with
      cscen := true
      regs := writel (val ||| 1#32 <<< 1 ||| 1#32 <<< 3) .imgCtrl
        (writeCoeffs coeffsYuv2Rgb isi.regs) }
  else if isRgb srcFmt.fourcc && isYuv dstFmt.fourcc then
    { isi with
      cscen := true
      regs := writel (val ||| 3#32 <<< 1) .imgCtrl
        (writeCoeffs coeffsRgb2Yuv isi.regs) }
  else
    { isi with cscen := false, regs := writel (val ||| 1#32) .imgCtrl isi.regs }

def mxcIsiChannelSetAlpha (isi : MxcIsiDev) : MxcIsiDev :=
  let val := isi.regs .imgCtrl &&&
    ~~~(chnlImgCtrlGblAlphaValMask ||| chnlImgCtrlGblAlphaEnMask)
  let val := if isi.alphaen then
      val ||| (isi.alpha.setWidth 32 <<< 16 ||| 1#32 <<< 15)
    else val
  { isi with regs := writel val .imgCtrl isi.regs }

def mxcIsiChannelSetPanicThreshold (isi : MxcIsiDev) : MxcIsiDev :=
  let setThd (val : U32) (thd : MxcIsiPanicThd) : U32 :=
    (val &&& ~~~thd.mask) ||| thd.threshold <<< thd.offset
  let val := isi.regs .outBufCtrl
  let val := setThd val isi.pdata.panicSetThdY
  let val := setThd val isi.pdata.panicSetThdU
  let val := setThd val isi.pdata.panicSetThdV
  { isi with regs := writel val .outBufCtrl isi.regs }

def mxcIsiChannelClearScaling (isi : MxcIsiDev) : MxcIsiDev :=
  let regs := writel 0x10001000#32 .scaleFactor isi.regs
  { isi with
    regs := writel (regs .imgCtrl &&&
      ~~~(chnlImgCtrlDecXMask ||| chnlImgCtrlDecYMask)) .imgCtrl regs }

/-- Decimation and its `DEC` field for a quotient of source and destination
size, with the scale factor of the axis. -/
def axisScaling (src dst : U32) : U32 × U32 :=
  let dec := src / dst
  if 1#32 < dec then
    if dec < 4#32 then (1#32, src * 0x1000#32 / (dst * 2#32))
    else if dec < 8#32 then (2#32, src * 0x1000#32 / (dst * 4#32))
    else (3#32, src * 0x1000#32 / (dst * 8#32))
  else (0#32, src * 0x1000#32 / dst)

def mxcIsiChannelSetScaling (isi : MxcIsiDev) (srcF dstF : MxcIsiFrame) :
    MxcIsiDev :=
  if dstF.height = srcF.height ∧ dstF.width = srcF.width then
    mxcIsiChannelClearScaling { isi with scale := false }
  else
    let (xdec, xscale) := axisScaling srcF.width dstF.width
    let (ydec, yscale) := axisScaling srcF.height dstF.height
    let val0 := isi.regs .imgCtrl ||| chnlImgCtrlYcbcrModeMask
    let val0 := val0 &&& ~~~(chnlImgCtrlDecXMask ||| chnlImgCtrlDecYMask)
    let regs := writel (val0 ||| (xdec <<< 10 ||| ydec <<< 8)) .imgCtrl isi.regs
    let xscale := if isiDownscaleThreshold < xscale then isiDownscaleThreshold
      else xscale
    let yscale := if isiDownscaleThreshold < yscale then isiDownscaleThreshold
      else yscale
    let regs := writel (xscale ||| yscale <<< 16) .scaleFactor regs
    let regs := writel (dstF.oWidth ||| dstF.oHeight <<< 16) .sclImgCfg regs
    { isi with scale := true, regs := writel 0#32 .scaleOffset regs }

/-- The two writes of the frame size and, at the end, of the bypass bit frame
the calls that program one aspect each. -/
def mxcIsiChannelConfig (isi : MxcIsiDev) (srcF dstF : MxcIsiFrame)
    (srcFmt dstFmt : MxcIsiFmt) : MxcIsiDev :=
  let isi := chainBuf isi srcF
  let val := srcF.oWidth ||| srcF.oHeight <<< 16
  let isi := { isi with regs := writel val .sclImgCfg (writel val .imgCfg isi.regs) }
  let isi := mxcIsiChannelSetCsc isi srcFmt dstFmt
  let isi := mxcIsiChannelSetScaling isi srcF dstF
  let isi := mxcIsiChannelSourceConfig isi
  let isi := { isi with regs := writel (dstF.bytesperline 0) .outBufPitch isi.regs }
  let isi := mxcIsiChannelSetFlip isi
  let isi := mxcIsiChannelSetAlpha isi
  let isi := mxcIsiChannelSetPanicThreshold isi
  let val := isi.regs .ctrl &&& ~~~chnlCtrlChnlBypassMask
  let val := if !isi.cscen && !isi.scale then val ||| 1#32 <<< 29 else val
  { isi with regs := writel val .ctrl isi.regs }

/-- `CHNL_STS` is write-one-to-clear. -/
def mxcIsiCleanIrqStatus (isi : MxcIsiDev) (val : U32) : MxcIsiDev :=
  { isi with regs := writel (isi.regs .sts &&& ~~~val) .sts isi.regs }

def mxcIsiEnableIrq (isi : MxcIsiDev) : MxcIsiDev :=
  { isi with regs := writel (chnlIerFrameMasks ||| isi.pdata.ierMasks) .ier isi.regs }

def mxcIsiDisableIrq (isi : MxcIsiDev) : MxcIsiDev :=
  { isi with regs := writel 0#32 .ier isi.regs }

def mxcIsiM2mStartRead (isi : MxcIsiDev) : MxcIsiDev :=
  let val := isi.regs .memRdCtrl &&& ~~~1#32
  { isi with regs := writel (val ||| 1#32) .memRdCtrl (writel val .memRdCtrl isi.regs) }

def mxcIsiChannelEnable (isi : MxcIsiDev) (m2mEnabled : Bool) : MxcIsiDev :=
  let val := isi.regs .ctrl ||| 0xff#32 <<< 16
  let val := if m2mEnabled then
      (val &&& ~~~(chnlCtrlSrcTypeMask ||| chnlCtrlSrcInputMask)) |||
        (isi.pdata.chanSrc.srcMem ||| 1#32 <<< 4)
    else val
  let val := (val &&& ~~~chnlCtrlChnlEnMask) ||| 1#32 <<< 31
  let isi := { isi with regs := writel val .ctrl isi.regs }
  let isi := mxcIsiCleanIrqStatus isi (isi.regs .sts)
  let isi := mxcIsiEnableIrq isi
  if m2mEnabled then mxcIsiM2mStartRead isi else isi

def mxcIsiChannelDisable (isi : MxcIsiDev) : MxcIsiDev :=
  let isi := mxcIsiDisableIrq isi
  { isi with
    regs := writel (isi.regs .ctrl &&& ~~~(chnlCtrlChnlEnMask ||| chnlCtrlClkEnMask))
      .ctrl isi.regs }

/-- The enable bit of `CHNL_CTRL`: the channel is running. -/
def channelEnabled (isi : MxcIsiDev) : Bool :=
  (isi.regs .ctrl).getLsbD 31

@[simp] theorem channelEnabled_channelEnable (isi : MxcIsiDev) (m2m : Bool) :
    channelEnabled (mxcIsiChannelEnable isi m2m) = true := by
  cases m2m <;>
    simp [channelEnabled, mxcIsiChannelEnable, mxcIsiCleanIrqStatus,
      mxcIsiEnableIrq, mxcIsiM2mStartRead]

@[simp] theorem channelEnabled_channelDisable (isi : MxcIsiDev) :
    channelEnabled (mxcIsiChannelDisable isi) = false := by
  simp [channelEnabled, mxcIsiChannelDisable, mxcIsiDisableIrq,
    chnlCtrlChnlEnMask]

@[simp] theorem channelEnabled_channelDeinit (isi : MxcIsiDev) :
    channelEnabled (mxcIsiChannelDeinit isi) = false := by
  simp [channelEnabled, mxcIsiChannelDeinit]

theorem isStreaming_channelEnable (isi : MxcIsiDev) (m2m : Bool) :
    (mxcIsiChannelEnable isi m2m).isStreaming = isi.isStreaming := by
  cases m2m <;> rfl

/-- A change of the registers of the channel and of the driver's notes about them. -/
def ProgramsOnly (isi isi' : MxcIsiDev) : Prop :=
  ∃ regs chainCtrl chainBuf cscen scale,
    isi' = { isi with
      regs := regs, chainCtrl := chainCtrl, chainBuf := chainBuf, cscen := cscen, scale := scale }

theorem ProgramsOnly.trans {isi isi' isi'' : MxcIsiDev} (h : ProgramsOnly isi isi')
    (h' : ProgramsOnly isi' isi'') : ProgramsOnly isi isi'' := by
  obtain ⟨_, _, _, _, _, rfl⟩ := h
  obtain ⟨regs, chainCtrl, chainBuf, cscen, scale, rfl⟩ := h'
  exact ⟨regs, chainCtrl, chainBuf, cscen, scale, rfl⟩

theorem programsOnly_writeRegs (isi : MxcIsiDev) (regs : ChnlRegs) :
    ProgramsOnly isi { isi with regs := regs } :=
  ⟨regs, _, _, _, _, rfl⟩

theorem programsOnly_chainBuf (isi : MxcIsiDev) (frm : MxcIsiFrame) :
    ProgramsOnly isi (chainBuf isi frm) := by
  unfold chainBuf
  split
  · exact ⟨_, _, _, _, _, rfl⟩
  · exact ⟨_, _, _, _, _, rfl⟩

theorem programsOnly_setCsc (isi : MxcIsiDev) (srcFmt dstFmt : MxcIsiFmt) :
    ProgramsOnly isi (mxcIsiChannelSetCsc isi srcFmt dstFmt) := by
  unfold mxcIsiChannelSetCsc
  dsimp only
  split
  · exact ⟨_, _, _, _, _, rfl⟩
  · split
    · exact ⟨_, _, _, _, _, rfl⟩
    · exact ⟨_, _, _, _, _, rfl⟩

theorem programsOnly_setScaling (isi : MxcIsiDev) (srcF dstF : MxcIsiFrame) :
    ProgramsOnly isi (mxcIsiChannelSetScaling isi srcF dstF) := by
  unfold mxcIsiChannelSetScaling
  split
  · exact ⟨_, _, _, _, _, rfl⟩
  · exact ⟨_, _, _, _, _, rfl⟩

theorem programsOnly_channelConfig (isi : MxcIsiDev) (srcF dstF : MxcIsiFrame)
    (srcFmt dstFmt : MxcIsiFmt) :
    ProgramsOnly isi (mxcIsiChannelConfig isi srcF dstF srcFmt dstFmt) := by
  let size := srcF.oWidth ||| srcF.oHeight <<< 16
  have hsize := (programsOnly_chainBuf isi srcF).trans
    (programsOnly_writeRegs _ (writel size .sclImgCfg
      (writel size .imgCfg (chainBuf isi srcF).regs)))
  have hcsc := hsize.trans (programsOnly_setCsc _ srcFmt dstFmt)
  have hscaling := hcsc.trans (programsOnly_setScaling _ srcF dstF)
  exact hscaling.trans (programsOnly_writeRegs _ _)

theorem isStreaming_channelConfig (isi : MxcIsiDev) (srcF dstF : MxcIsiFrame)
    (srcFmt dstFmt : MxcIsiFmt) :
    (mxcIsiChannelConfig isi srcF dstF srcFmt dstFmt).isStreaming = isi.isStreaming := by
  obtain ⟨_, _, _, _, _, h⟩ := programsOnly_channelConfig isi srcF dstF srcFmt dstFmt
  rw [h]

@[simp] theorem m2mEnabled_channelEnable (isi : MxcIsiDev) (m2m : Bool) :
    (mxcIsiChannelEnable isi m2m).m2mEnabled = isi.m2mEnabled := by
  cases m2m <;> rfl

theorem m2mEnabled_channelConfig (isi : MxcIsiDev) (srcF dstF : MxcIsiFrame)
    (srcFmt dstFmt : MxcIsiFmt) :
    (mxcIsiChannelConfig isi srcF dstF srcFmt dstFmt).m2mEnabled = isi.m2mEnabled := by
  obtain ⟨_, _, _, _, _, h⟩ := programsOnly_channelConfig isi srcF dstF srcFmt dstFmt
  rw [h]

end CameraPorting.Isi.Channel
