import CameraPorting.Isi.Formats
import CameraPorting.Library.RegisterFields

namespace CameraPorting.Isi.ChannelConfig

open CameraPorting.Kernel.Media
open CameraPorting.Isi.Device
open CameraPorting.Isi.Channel
open CameraPorting.Isi.Formats
open CameraPorting.Library.RegisterFields

/-- The parts of the channel that the configuration reads besides the registers. -/
structure ChannelSettings where
  pdata : MxcIsiPlatData
  inPort : IsiInputInterface
  subInPort : U32
  alpha : U8
  alphaen : Bool
  hflip : Bool
  vflip : Bool
  deriving DecidableEq, Repr

def settings (isi : MxcIsiDev) : ChannelSettings :=
  ⟨isi.pdata, isi.inPort, isi.subInPort, isi.alpha, isi.alphaen, isi.hflip, isi.vflip⟩

theorem settings_programsOnly {isi isi' : MxcIsiDev} (h : ProgramsOnly isi isi') :
    settings isi' = settings isi := by
  obtain ⟨_, _, _, _, _, rfl⟩ := h
  rfl

/-- `mxc_imx8_chan_src` and the selectors of the i.MX8MN. -/
def chanSrcs : List MxcIsiChanSrc :=
  [⟨0#32, 1#32, 2#32, 3#32, 4#32, 4#32, 5#32⟩, mxcImx8mnData.chanSrc]

/-- `mxc_imx8_isi_thd_v0` and `mxc_imx8_isi_thd_v1`; `mxc_isi_soc_match` copies the
second over the first on late chips. -/
def setThds : List (MxcIsiPanicThd × MxcIsiPanicThd × MxcIsiPanicThd) :=
  [(⟨0x03#32, 0, 0x2#32⟩, ⟨0x18#32, 3, 0x2#32⟩, ⟨0xc0#32, 6, 0x2#32⟩),
    (mxcImx8mnData.panicSetThdY, mxcImx8mnData.panicSetThdU, mxcImx8mnData.panicSetThdV)]

/-- The platform data of the driver. -/
def DriverPlatData (pdata : MxcIsiPlatData) : Prop :=
  pdata.chanSrc ∈ chanSrcs ∧
    (pdata.panicSetThdY, pdata.panicSetThdU, pdata.panicSetThdV) ∈ setThds

/-- Whether the configuration converts colours. -/
def usesCsc (srcFmt dstFmt : MxcIsiFmt) : Bool :=
  (isYuv srcFmt.fourcc && isRgb dstFmt.fourcc) || (isRgb srcFmt.fourcc && isYuv dstFmt.fourcc)

def usesScaling (srcF dstF : MxcIsiFrame) : Bool :=
  !decide (dstF.height = srcF.height ∧ dstF.width = srcF.width)

/-- A frame size as `CHNL_IMG_CFG` and `CHNL_SCL_IMG_CFG` hold it. -/
def imgSize (f : MxcIsiFrame) : U32 := f.oWidth ||| f.oHeight <<< 16

/-- The fields that a configuration is responsible for, register by register. -/
def configuredFields (pdata : MxcIsiPlatData) : ChnlReg → U32
  | .ctrl =>
      chnlCtrlChainBufMask |||
        (chnlCtrlMipiVcIdMask ||| chnlCtrlSrcInputMask ||| chnlCtrlSrcTypeMask) |||
        chnlCtrlChnlBypassMask
  | .imgCtrl =>
      (chnlImgCtrlFormatMask ||| chnlImgCtrlYcbcrModeMask ||| chnlImgCtrlCscBypassMask |||
        chnlImgCtrlCscModeMask) |||
        (chnlImgCtrlDecXMask ||| chnlImgCtrlDecYMask) |||
        (chnlImgCtrlVflipEnMask ||| chnlImgCtrlHflipEnMask) |||
        (chnlImgCtrlGblAlphaValMask ||| chnlImgCtrlGblAlphaEnMask)
  | .outBufCtrl => pdata.panicSetThdY.mask ||| pdata.panicSetThdU.mask ||| pdata.panicSetThdV.mask
  | .imgCfg | .sclImgCfg | .scaleFactor | .outBufPitch => BitVec.allOnes 32
  | _ => 0#32

/-- `CHNL_OUT_BUF_CTRL_LOAD_BUF1_ADDR_MASK` and its sibling for the second slot. -/
def loadBufMasks : U32 := 0x4000#32 ||| 0x8000#32

/-- What holds of the registers after a configuration, with those before it. -/
structure Configured (isi isi' : MxcIsiDev) (srcF dstF : MxcIsiFrame)
    (srcFmt dstFmt : MxcIsiFmt) : Prop where
  loadBits : isi'.regs .outBufCtrl &&& loadBufMasks = isi.regs .outBufCtrl &&& loadBufMasks
  otherCtrl :
    isi'.regs .ctrl &&& ~~~configuredFields isi.pdata .ctrl =
      isi.regs .ctrl &&& ~~~configuredFields isi.pdata .ctrl
  chaining :
    isi'.regs .ctrl &&& chnlCtrlChainBufMask =
      if isi2K < srcF.oWidth then 1#32 <<< 25 else 0#32
  bypass :
    isi'.regs .ctrl &&& chnlCtrlChnlBypassMask =
      if usesCsc srcFmt dstFmt || usesScaling srcF dstF then 0#32 else chnlCtrlChnlBypassMask
  sclImgCfg :
    isi'.regs .sclImgCfg = if usesScaling srcF dstF then imgSize dstF else imgSize srcF

theorem foldl_writel_ne {r : ChnlReg} (writes : List (ChnlReg × U32)) (regs : ChnlRegs)
    (h : ∀ w ∈ writes, r ≠ w.1) :
    writes.foldl (fun regs w => writel w.2 w.1 regs) regs r = regs r := by
  induction writes generalizing regs with
  | nil => rfl
  | cons w writes ih =>
      obtain ⟨hw, hwrites⟩ := List.forall_mem_cons.mp h
      rw [List.foldl_cons, ih _ hwrites, writel_ne hw]

def coeffRegs : List ChnlReg :=
  [.cscCoeff0, .cscCoeff1, .cscCoeff2, .cscCoeff3, .cscCoeff4, .cscCoeff5]

theorem writeCoeffs_ne {r : ChnlReg} (hr : r ∉ coeffRegs) (coeffs : List U32)
    (regs : ChnlRegs) : writeCoeffs coeffs regs r = regs r := by
  apply foldl_writel_ne
  rintro ⟨reg, v⟩ hw rfl
  exact hr (List.of_mem_zip hw).1

theorem setCsc_ne {r : ChnlReg} (himg : r ≠ .imgCtrl) (hr : r ∉ coeffRegs)
    (isi : MxcIsiDev) (srcFmt dstFmt : MxcIsiFmt) :
    (mxcIsiChannelSetCsc isi srcFmt dstFmt).regs r = isi.regs r := by
  unfold mxcIsiChannelSetCsc
  dsimp only
  split
  · simp only [writel_ne himg, writeCoeffs_ne hr]
  · split
    · simp only [writel_ne himg, writeCoeffs_ne hr]
    · simp only [writel_ne himg]

theorem setScaling_ne {r : ChnlReg}
    (hr : r ∉ [ChnlReg.imgCtrl, .scaleFactor, .sclImgCfg, .scaleOffset])
    (isi : MxcIsiDev) (srcF dstF : MxcIsiFrame) :
    (mxcIsiChannelSetScaling isi srcF dstF).regs r = isi.regs r := by
  simp only [List.mem_cons, List.not_mem_nil, or_false, not_or] at hr
  obtain ⟨himg, hfactor, hcfg, hoffset⟩ := hr
  unfold mxcIsiChannelSetScaling
  split
  · change writel _ .imgCtrl (writel _ .scaleFactor isi.regs) r = isi.regs r
    rw [writel_ne himg, writel_ne hfactor]
  · dsimp only
    rw [writel_ne hoffset, writel_ne hcfg, writel_ne hfactor, writel_ne himg]

@[simp] theorem cscen_setCsc (isi : MxcIsiDev) (srcFmt dstFmt : MxcIsiFmt) :
    (mxcIsiChannelSetCsc isi srcFmt dstFmt).cscen = usesCsc srcFmt dstFmt := by
  unfold mxcIsiChannelSetCsc usesCsc
  dsimp only
  split
  next h => simp [h]
  next h =>
    split
    next h' => simp [h']
    next h' => simp_all

theorem cscen_setScaling (isi : MxcIsiDev) (srcF dstF : MxcIsiFrame) :
    (mxcIsiChannelSetScaling isi srcF dstF).cscen = isi.cscen := by
  unfold mxcIsiChannelSetScaling
  split
  · rfl
  · rfl

theorem scale_setScaling (isi : MxcIsiDev) (srcF dstF : MxcIsiFrame) :
    (mxcIsiChannelSetScaling isi srcF dstF).scale = usesScaling srcF dstF := by
  unfold mxcIsiChannelSetScaling usesScaling
  split
  next h =>
    rw [decide_eq_true h]
    rfl
  next h =>
    rw [decide_eq_false h]
    rfl

def chainBits (frm : MxcIsiFrame) : U32 :=
  if isi2K < frm.oWidth then 1#32 <<< 25 else 0#32

/-- The bits that `mxc_isi_channel_source_config` sets. -/
def sourceBits (set : ChannelSettings) : U32 :=
  let src := set.pdata.chanSrc
  let vc := if set.subInPort ≤ 3#32 then set.subInPort <<< 6 else 0#32
  match set.inPort with
  | .mipi0Csi2 => src.srcMipi0 ||| vc
  | .mipi1Csi2 => src.srcMipi1 ||| vc
  | .dc0 => src.srcDc0
  | .dc1 => src.srcDc1
  | .hdmi => src.srcHdmi
  | .parallelCsi => src.srcCsi
  | .mem => src.srcMem ||| 1#32 <<< 4
  | .invalid => 0#32

def bypassBits (srcF dstF : MxcIsiFrame) (srcFmt dstFmt : MxcIsiFmt) : U32 :=
  if usesCsc srcFmt dstFmt || usesScaling srcF dstF then 0#32 else chnlCtrlChnlBypassMask

def sourceMask : U32 := chnlCtrlMipiVcIdMask ||| chnlCtrlSrcInputMask ||| chnlCtrlSrcTypeMask

theorem virtualChannel_within (port : U32) :
    Within (if port ≤ 3#32 then port <<< 6 else 0#32) sourceMask := by
  by_cases h : port ≤ 3#32
  · rw [if_pos h]
    have hport : port = 0#32 ∨ port = 1#32 ∨ port = 2#32 ∨ port = 3#32 := by
      have hle : port.toNat ≤ 3 := BitVec.le_def.mp h
      have hcases : port.toNat = 0 ∨ port.toNat = 1 ∨ port.toNat = 2 ∨ port.toNat = 3 := by
        omega
      simpa only [← BitVec.toNat_inj, BitVec.toNat_ofNat] using hcases
    rcases hport with rfl | rfl | rfl | rfl
    · decide
    · decide
    · decide
    · decide
  · rw [if_neg h]
    decide

/-- The sources of the i.MX8 select with three bits, the virtual channels with two. -/
theorem sourceBits_within {set : ChannelSettings} (hpdata : DriverPlatData set.pdata) :
    Within (sourceBits set) sourceMask := by
  have hsrcs : ∀ src ∈ chanSrcs, Within src.srcMipi0 sourceMask ∧
      Within src.srcMipi1 sourceMask ∧ Within src.srcDc0 sourceMask ∧
      Within src.srcDc1 sourceMask ∧ Within src.srcHdmi sourceMask ∧
      Within src.srcCsi sourceMask ∧ Within src.srcMem sourceMask := by
    decide
  obtain ⟨hmipi0, hmipi1, hdc0, hdc1, hhdmi, hcsi, hmem⟩ := hsrcs _ hpdata.1
  have hvc := virtualChannel_within set.subInPort
  unfold sourceBits
  dsimp only
  cases set.inPort with
  | dc0 => exact hdc0
  | dc1 => exact hdc1
  | mipi0Csi2 => exact within_or_iff.mpr ⟨hmipi0, hvc⟩
  | mipi1Csi2 => exact within_or_iff.mpr ⟨hmipi1, hvc⟩
  | hdmi => exact hhdmi
  | mem => exact within_or_iff.mpr ⟨hmem, by decide⟩
  | parallelCsi => exact hcsi
  | invalid => exact BitVec.zero_or

theorem ctrl_chainBuf (isi : MxcIsiDev) (frm : MxcIsiFrame) :
    (chainBuf isi frm).regs .ctrl =
      (isi.regs .ctrl &&& ~~~chnlCtrlChainBufMask) ||| chainBits frm := by
  unfold chainBuf chainBits
  dsimp only
  split
  · simp only [writel_self]
  · simp only [writel_self, BitVec.or_zero]

theorem chainBuf_ne {r : ChnlReg} (hr : r ≠ .ctrl) (isi : MxcIsiDev) (frm : MxcIsiFrame) :
    (chainBuf isi frm).regs r = isi.regs r := by
  unfold chainBuf
  dsimp only
  split
  · simp only [writel_ne hr]
  · simp only [writel_ne hr]

/-- The channel before the source is selected. -/
def scaledChannel (isi : MxcIsiDev) (srcF dstF : MxcIsiFrame) (srcFmt dstFmt : MxcIsiFmt) :
    MxcIsiDev :=
  let isi := chainBuf isi srcF
  let isi := { isi with
    regs := writel (imgSize srcF) .sclImgCfg (writel (imgSize srcF) .imgCfg isi.regs) }
  mxcIsiChannelSetScaling (mxcIsiChannelSetCsc isi srcFmt dstFmt) srcF dstF

theorem settings_scaledChannel (isi : MxcIsiDev) (srcF dstF : MxcIsiFrame)
    (srcFmt dstFmt : MxcIsiFmt) :
    settings (scaledChannel isi srcF dstF srcFmt dstFmt) = settings isi := by
  unfold scaledChannel
  rw [settings_programsOnly (programsOnly_setScaling _ srcF dstF),
    settings_programsOnly (programsOnly_setCsc _ srcFmt dstFmt)]
  exact settings_programsOnly ((programsOnly_chainBuf isi srcF).trans (programsOnly_writeRegs _ _))

theorem scaledChannel_ne {r : ChnlReg} (hctrl : r ≠ .ctrl)
    (hr : r ∉ [ChnlReg.imgCtrl, .scaleFactor, .sclImgCfg, .scaleOffset])
    (hcoeff : r ∉ coeffRegs) (hcfg : r ≠ .imgCfg) (isi : MxcIsiDev) (srcF dstF : MxcIsiFrame)
    (srcFmt dstFmt : MxcIsiFmt) :
    (scaledChannel isi srcF dstF srcFmt dstFmt).regs r = isi.regs r := by
  have himg : r ≠ .imgCtrl := fun h => hr (by simp [h])
  have hscl : r ≠ .sclImgCfg := fun h => hr (by simp [h])
  unfold scaledChannel
  rw [setScaling_ne hr, setCsc_ne himg hcoeff]
  simp only [writel_ne hscl, writel_ne hcfg, chainBuf_ne hctrl]

/-- The channel before the bypass is decided. -/
def sourcedChannel (isi : MxcIsiDev) (dstF : MxcIsiFrame) : MxcIsiDev :=
  let isi := mxcIsiChannelSourceConfig isi
  let isi := { isi with regs := writel (dstF.bytesperline 0) .outBufPitch isi.regs }
  mxcIsiChannelSetPanicThreshold (mxcIsiChannelSetAlpha (mxcIsiChannelSetFlip isi))

theorem sourcedChannel_ne {r : ChnlReg}
    (hr : r ∉ [ChnlReg.ctrl, .imgCtrl, .outBufCtrl, .outBufPitch]) (isi : MxcIsiDev)
    (dstF : MxcIsiFrame) : (sourcedChannel isi dstF).regs r = isi.regs r := by
  simp only [List.mem_cons, List.not_mem_nil, or_false, not_or] at hr
  obtain ⟨hctrl, himg, hout, hpitch⟩ := hr
  simp only [sourcedChannel, mxcIsiChannelSetPanicThreshold, mxcIsiChannelSetAlpha,
    mxcIsiChannelSetFlip, mxcIsiChannelSourceConfig, writel_ne hctrl, writel_ne himg,
    writel_ne hout, writel_ne hpitch]

theorem regs_channelConfig (isi : MxcIsiDev) (srcF dstF : MxcIsiFrame)
    (srcFmt dstFmt : MxcIsiFmt) :
    let scaled := scaledChannel isi srcF dstF srcFmt dstFmt
    let sourced := sourcedChannel scaled dstF
    let val := sourced.regs .ctrl &&& ~~~chnlCtrlChnlBypassMask
    (mxcIsiChannelConfig isi srcF dstF srcFmt dstFmt).regs =
      writel (if !scaled.cscen && !scaled.scale then val ||| 1#32 <<< 29 else val) .ctrl
        sourced.regs :=
  rfl

/-- `CHNL_CTRL` is passed through three calls. -/
def programmedCtrl (set : ChannelSettings) (srcF dstF : MxcIsiFrame)
    (srcFmt dstFmt : MxcIsiFmt) (ctrl : U32) : U32 :=
  (((((ctrl &&& ~~~chnlCtrlChainBufMask) ||| chainBits srcF) &&& ~~~sourceMask) |||
        sourceBits set) &&&
    ~~~chnlCtrlChnlBypassMask) ||| bypassBits srcF dstF srcFmt dstFmt

theorem ctrl_channelConfig (isi : MxcIsiDev) (srcF dstF : MxcIsiFrame)
    (srcFmt dstFmt : MxcIsiFmt) :
    (mxcIsiChannelConfig isi srcF dstF srcFmt dstFmt).regs .ctrl =
      programmedCtrl (settings isi) srcF dstF srcFmt dstFmt (isi.regs .ctrl) := by
  have hctrl : (scaledChannel isi srcF dstF srcFmt dstFmt).regs .ctrl =
      (isi.regs .ctrl &&& ~~~chnlCtrlChainBufMask) ||| chainBits srcF := by
    unfold scaledChannel
    rw [setScaling_ne (by decide), setCsc_ne (by decide) (by decide)]
    exact ctrl_chainBuf isi srcF
  have hsource : (sourcedChannel (scaledChannel isi srcF dstF srcFmt dstFmt) dstF).regs .ctrl =
      (((isi.regs .ctrl &&& ~~~chnlCtrlChainBufMask) ||| chainBits srcF) &&& ~~~sourceMask) |||
        sourceBits (settings isi) := by
    rw [← hctrl, ← settings_scaledChannel isi srcF dstF srcFmt dstFmt]
    rfl
  have hcscen : (scaledChannel isi srcF dstF srcFmt dstFmt).cscen = usesCsc srcFmt dstFmt := by
    unfold scaledChannel
    rw [cscen_setScaling, cscen_setCsc]
  have hscale : (scaledChannel isi srcF dstF srcFmt dstFmt).scale = usesScaling srcF dstF :=
    scale_setScaling _ srcF dstF
  rw [regs_channelConfig, writel_self, hsource, hcscen, hscale]
  unfold programmedCtrl bypassBits
  rcases usesCsc srcFmt dstFmt with _ | _
  · rcases usesScaling srcF dstF with _ | _
    · rfl
    · exact BitVec.or_zero.symm
  · exact BitVec.or_zero.symm

/-- The format and the colour conversion. -/
def cscBits (srcFmt dstFmt : MxcIsiFmt) : U32 :=
  dstFmt.color <<< 24 |||
    (if isYuv srcFmt.fourcc && isRgb dstFmt.fourcc then 1#32 <<< 1 ||| 1#32 <<< 3
    else if isRgb srcFmt.fourcc && isYuv dstFmt.fourcc then 3#32 <<< 1 else 1#32)

def cscMask : U32 :=
  chnlImgCtrlFormatMask ||| chnlImgCtrlYcbcrModeMask ||| chnlImgCtrlCscBypassMask |||
    chnlImgCtrlCscModeMask

def decMask : U32 := chnlImgCtrlDecXMask ||| chnlImgCtrlDecYMask

def scalingImgCtrl (srcF dstF : MxcIsiFrame) (imgCtrl : U32) : U32 :=
  if usesScaling srcF dstF then
    ((imgCtrl ||| chnlImgCtrlYcbcrModeMask) &&& ~~~decMask) |||
      ((axisScaling srcF.width dstF.width).1 <<< 10 |||
        (axisScaling srcF.height dstF.height).1 <<< 8)
  else imgCtrl &&& ~~~decMask

def flipImgCtrl (set : ChannelSettings) (imgCtrl : U32) : U32 :=
  let val := imgCtrl &&& ~~~(chnlImgCtrlVflipEnMask ||| chnlImgCtrlHflipEnMask)
  let val := if set.vflip then val ||| 1#32 <<< 6 else val
  if set.hflip then val ||| 1#32 <<< 5 else val

def alphaImgCtrl (set : ChannelSettings) (imgCtrl : U32) : U32 :=
  let val := imgCtrl &&& ~~~(chnlImgCtrlGblAlphaValMask ||| chnlImgCtrlGblAlphaEnMask)
  if set.alphaen then val ||| (set.alpha.setWidth 32 <<< 16 ||| 1#32 <<< 15) else val

theorem imgCtrl_setCsc (isi : MxcIsiDev) (srcFmt dstFmt : MxcIsiFmt) :
    (mxcIsiChannelSetCsc isi srcFmt dstFmt).regs .imgCtrl =
      (isi.regs .imgCtrl &&& ~~~cscMask) ||| cscBits srcFmt dstFmt := by
  unfold mxcIsiChannelSetCsc cscBits
  dsimp only
  split
  · simp only [writel_self, BitVec.or_assoc]
    rfl
  · split
    · simp only [writel_self, BitVec.or_assoc]
      rfl
    · simp only [writel_self, BitVec.or_assoc]
      rfl

theorem imgCtrl_setScaling (isi : MxcIsiDev) (srcF dstF : MxcIsiFrame) :
    (mxcIsiChannelSetScaling isi srcF dstF).regs .imgCtrl =
      scalingImgCtrl srcF dstF (isi.regs .imgCtrl) := by
  unfold mxcIsiChannelSetScaling scalingImgCtrl usesScaling
  split
  next h =>
    rw [decide_eq_true h]
    rfl
  next h =>
    rw [decide_eq_false h]
    rfl

theorem imgCtrl_channelConfig (isi : MxcIsiDev) (srcF dstF : MxcIsiFrame)
    (srcFmt dstFmt : MxcIsiFmt) :
    (mxcIsiChannelConfig isi srcF dstF srcFmt dstFmt).regs .imgCtrl =
      alphaImgCtrl (settings isi) (flipImgCtrl (settings isi) (scalingImgCtrl srcF dstF
        ((isi.regs .imgCtrl &&& ~~~cscMask) ||| cscBits srcFmt dstFmt))) := by
  have himg : (scaledChannel isi srcF dstF srcFmt dstFmt).regs .imgCtrl =
      scalingImgCtrl srcF dstF
        ((isi.regs .imgCtrl &&& ~~~cscMask) ||| cscBits srcFmt dstFmt) := by
    have hchain := chainBuf_ne (r := .imgCtrl) (by decide) isi srcF
    unfold scaledChannel
    rw [imgCtrl_setScaling, imgCtrl_setCsc, ← hchain]
    rfl
  rw [regs_channelConfig, writel_ne (by decide), ← himg,
    ← settings_scaledChannel isi srcF dstF srcFmt dstFmt]
  rfl

def setThd (val : U32) (thd : MxcIsiPanicThd) : U32 :=
  (val &&& ~~~thd.mask) ||| thd.threshold <<< thd.offset

theorem outBufCtrl_channelConfig (isi : MxcIsiDev) (srcF dstF : MxcIsiFrame)
    (srcFmt dstFmt : MxcIsiFmt) :
    (mxcIsiChannelConfig isi srcF dstF srcFmt dstFmt).regs .outBufCtrl =
      setThd (setThd (setThd (isi.regs .outBufCtrl) isi.pdata.panicSetThdY)
        isi.pdata.panicSetThdU) isi.pdata.panicSetThdV := by
  have hout : (scaledChannel isi srcF dstF srcFmt dstFmt).regs .outBufCtrl =
      isi.regs .outBufCtrl :=
    scaledChannel_ne (by decide) (by decide) (by decide) (by decide) isi srcF dstF srcFmt dstFmt
  have hpdata : (scaledChannel isi srcF dstF srcFmt dstFmt).pdata = isi.pdata :=
    congrArg ChannelSettings.pdata (settings_scaledChannel isi srcF dstF srcFmt dstFmt)
  rw [regs_channelConfig, writel_ne (by decide), ← hout, ← hpdata]
  rfl

theorem imgCfg_channelConfig (isi : MxcIsiDev) (srcF dstF : MxcIsiFrame)
    (srcFmt dstFmt : MxcIsiFmt) :
    (mxcIsiChannelConfig isi srcF dstF srcFmt dstFmt).regs .imgCfg = imgSize srcF := by
  rw [regs_channelConfig, writel_ne (by decide), sourcedChannel_ne (by decide)]
  unfold scaledChannel
  rw [setScaling_ne (by decide), setCsc_ne (by decide) (by decide)]
  rfl

theorem outBufPitch_channelConfig (isi : MxcIsiDev) (srcF dstF : MxcIsiFrame)
    (srcFmt dstFmt : MxcIsiFmt) :
    (mxcIsiChannelConfig isi srcF dstF srcFmt dstFmt).regs .outBufPitch =
      dstF.bytesperline 0 := by
  rw [regs_channelConfig, writel_ne (by decide)]
  rfl

theorem sclImgCfg_setScaling (isi : MxcIsiDev) (srcF dstF : MxcIsiFrame) :
    (mxcIsiChannelSetScaling isi srcF dstF).regs .sclImgCfg =
      if usesScaling srcF dstF then imgSize dstF else isi.regs .sclImgCfg := by
  unfold mxcIsiChannelSetScaling usesScaling
  split
  next h =>
    rw [decide_eq_true h]
    rfl
  next h =>
    rw [decide_eq_false h]
    rfl

theorem sclImgCfg_channelConfig (isi : MxcIsiDev) (srcF dstF : MxcIsiFrame)
    (srcFmt dstFmt : MxcIsiFmt) :
    (mxcIsiChannelConfig isi srcF dstF srcFmt dstFmt).regs .sclImgCfg =
      if usesScaling srcF dstF then imgSize dstF else imgSize srcF := by
  rw [regs_channelConfig, writel_ne (by decide), sourcedChannel_ne (by decide)]
  have hcsc (isi : MxcIsiDev) : (mxcIsiChannelSetCsc isi srcFmt dstFmt).regs .sclImgCfg =
      isi.regs .sclImgCfg :=
    setCsc_ne (by decide) (by decide) isi srcFmt dstFmt
  unfold scaledChannel
  rw [sclImgCfg_setScaling, hcsc]
  rfl

theorem scaleFactor_setScaling (isi isi' : MxcIsiDev) (srcF dstF : MxcIsiFrame) :
    (mxcIsiChannelSetScaling isi srcF dstF).regs .scaleFactor =
      (mxcIsiChannelSetScaling isi' srcF dstF).regs .scaleFactor := by
  unfold mxcIsiChannelSetScaling
  split
  · rfl
  · rfl

theorem scaleFactor_channelConfig (isi isi' : MxcIsiDev) (srcF dstF : MxcIsiFrame)
    (srcFmt dstFmt : MxcIsiFmt) :
    (mxcIsiChannelConfig isi srcF dstF srcFmt dstFmt).regs .scaleFactor =
      (mxcIsiChannelConfig isi' srcF dstF srcFmt dstFmt).regs .scaleFactor := by
  rw [regs_channelConfig, writel_ne (by decide), sourcedChannel_ne (by decide),
    regs_channelConfig, writel_ne (by decide), sourcedChannel_ne (by decide)]
  exact scaleFactor_setScaling _ _ srcF dstF

theorem agreeOn_flip {field x y : U32} (h : AgreeOn field x y) (set : ChannelSettings) :
    AgreeOn (field ||| (chnlImgCtrlVflipEnMask ||| chnlImgCtrlHflipEnMask))
      (flipImgCtrl set x) (flipImgCtrl set y) :=
  ((h.clear _).orIf set.vflip _).orIf set.hflip _

theorem agreeOn_alpha {field x y : U32} (h : AgreeOn field x y) (set : ChannelSettings) :
    AgreeOn (field ||| (chnlImgCtrlGblAlphaValMask ||| chnlImgCtrlGblAlphaEnMask))
      (alphaImgCtrl set x) (alphaImgCtrl set y) :=
  (h.clear _).orIf set.alphaen _

/-- The YCbCr mode that the colour step may have set or cleared is set again where
the channel scales. -/
theorem agreeOn_scaling {field x y : U32} (h : AgreeOn field x y) (srcF dstF : MxcIsiFrame) :
    AgreeOn (field ||| decMask) (scalingImgCtrl srcF dstF x) (scalingImgCtrl srcF dstF y) := by
  unfold scalingImgCtrl
  split
  · exact (h.or _).update decMask _
  · exact h.clear decMask

theorem agreeOn_ctrl (set : ChannelSettings) (srcF dstF : MxcIsiFrame)
    (srcFmt dstFmt : MxcIsiFmt) (x y : U32) :
    AgreeOn (configuredFields set.pdata .ctrl)
      (programmedCtrl set srcF dstF srcFmt dstFmt x)
      (programmedCtrl set srcF dstF srcFmt dstFmt y) := by
  have hchain := (AgreeOn.zero x y).update chnlCtrlChainBufMask (chainBits srcF)
  have hsource := hchain.update sourceMask (sourceBits set)
  have hbypass := hsource.update chnlCtrlChnlBypassMask (bypassBits srcF dstF srcFmt dstFmt)
  apply hbypass.mono
  simp only [configuredFields]
  decide

theorem agreeOn_imgCtrl (set : ChannelSettings) (srcF dstF : MxcIsiFrame)
    (srcFmt dstFmt : MxcIsiFmt) (x y : U32) :
    AgreeOn (configuredFields set.pdata .imgCtrl)
      (alphaImgCtrl set (flipImgCtrl set (scalingImgCtrl srcF dstF
        ((x &&& ~~~cscMask) ||| cscBits srcFmt dstFmt))))
      (alphaImgCtrl set (flipImgCtrl set (scalingImgCtrl srcF dstF
        ((y &&& ~~~cscMask) ||| cscBits srcFmt dstFmt)))) := by
  have hcsc := (AgreeOn.zero x y).update cscMask (cscBits srcFmt dstFmt)
  have hflip := agreeOn_flip (agreeOn_scaling hcsc srcF dstF) set
  apply (agreeOn_alpha hflip set).mono
  simp only [configuredFields]
  decide

theorem agreeOn_outBufCtrl (pdata : MxcIsiPlatData) (x y : U32) :
    AgreeOn (configuredFields pdata .outBufCtrl)
      (setThd (setThd (setThd x pdata.panicSetThdY) pdata.panicSetThdU) pdata.panicSetThdV)
      (setThd (setThd (setThd y pdata.panicSetThdY) pdata.panicSetThdU) pdata.panicSetThdV) := by
  have hy := (AgreeOn.zero x y).update pdata.panicSetThdY.mask
    (pdata.panicSetThdY.threshold <<< pdata.panicSetThdY.offset)
  have hu := hy.update pdata.panicSetThdU.mask
    (pdata.panicSetThdU.threshold <<< pdata.panicSetThdU.offset)
  have hv := hu.update pdata.panicSetThdV.mask
    (pdata.panicSetThdV.threshold <<< pdata.panicSetThdV.offset)
  rw [BitVec.zero_or] at hv
  exact hv

theorem agreeOn_channelConfig {isi isi' : MxcIsiDev} (hset : settings isi' = settings isi)
    (srcF dstF : MxcIsiFrame) (srcFmt dstFmt : MxcIsiFmt) (r : ChnlReg) :
    AgreeOn (configuredFields isi.pdata r)
      ((mxcIsiChannelConfig isi srcF dstF srcFmt dstFmt).regs r)
      ((mxcIsiChannelConfig isi' srcF dstF srcFmt dstFmt).regs r) := by
  have hpdata : isi'.pdata = isi.pdata := congrArg ChannelSettings.pdata hset
  cases r with
  | ctrl =>
      rw [ctrl_channelConfig, ctrl_channelConfig, hset]
      exact agreeOn_ctrl (settings isi) srcF dstF srcFmt dstFmt _ _
  | imgCtrl =>
      rw [imgCtrl_channelConfig, imgCtrl_channelConfig, hset]
      exact agreeOn_imgCtrl (settings isi) srcF dstF srcFmt dstFmt _ _
  | outBufCtrl =>
      rw [outBufCtrl_channelConfig, outBufCtrl_channelConfig, hpdata]
      exact agreeOn_outBufCtrl isi.pdata _ _
  | imgCfg =>
      rw [imgCfg_channelConfig, imgCfg_channelConfig]
      rfl
  | sclImgCfg =>
      rw [sclImgCfg_channelConfig, sclImgCfg_channelConfig]
      rfl
  | scaleFactor =>
      rw [scaleFactor_channelConfig isi isi']
      rfl
  | outBufPitch =>
      rw [outBufPitch_channelConfig, outBufPitch_channelConfig]
      rfl
  | _ =>
      simp only [configuredFields]
      exact AgreeOn.zero _ _

theorem configured_channelConfig {isi : MxcIsiDev} (hpdata : DriverPlatData isi.pdata)
    (srcF dstF : MxcIsiFrame) (srcFmt dstFmt : MxcIsiFmt) :
    Configured isi (mxcIsiChannelConfig isi srcF dstF srcFmt dstFmt) srcF dstF srcFmt dstFmt := by
  have hsource : Within (sourceBits (settings isi)) sourceMask := sourceBits_within hpdata
  have hsourceApart {field : U32} (h : sourceMask &&& field = 0#32) :
      sourceBits (settings isi) &&& field = 0#32 := apart_of_within hsource h
  have hchain : Within (chainBits srcF) chnlCtrlChainBufMask := by
    unfold chainBits
    split
    · decide
    · exact BitVec.zero_or
  have hbypass : Within (bypassBits srcF dstF srcFmt dstFmt) chnlCtrlChnlBypassMask := by
    unfold bypassBits
    split
    · exact BitVec.zero_or
    · exact BitVec.or_self
  refine ⟨?_, ?_, ?_, ?_, sclImgCfg_channelConfig isi srcF dstF srcFmt dstFmt⟩
  · have hthds : ∀ thds ∈ setThds, ∀ thd ∈ [thds.1, thds.2.1, thds.2.2],
        thd.mask &&& loadBufMasks = 0#32 ∧
          thd.threshold <<< thd.offset &&& loadBufMasks = 0#32 := by
      decide
    have hkeeps : ∀ thd ∈ [isi.pdata.panicSetThdY, isi.pdata.panicSetThdU,
        isi.pdata.panicSetThdV], ∀ val, setThd val thd &&& loadBufMasks = val &&& loadBufMasks :=
      fun thd hthd val =>
        update_and_apart val (hthds _ hpdata.2 thd hthd).1 (hthds _ hpdata.2 thd hthd).2
    rw [outBufCtrl_channelConfig, hkeeps _ (by simp), hkeeps _ (by simp), hkeeps _ (by simp)]
  · rw [ctrl_channelConfig]
    unfold programmedCtrl
    have hapart {mask : U32} (h : Within mask (configuredFields isi.pdata .ctrl)) :
        mask &&& ~~~configuredFields isi.pdata .ctrl = 0#32 := and_not_of_within h
    have hfields : Within chnlCtrlChainBufMask (configuredFields isi.pdata .ctrl) ∧
        Within sourceMask (configuredFields isi.pdata .ctrl) ∧
        Within chnlCtrlChnlBypassMask (configuredFields isi.pdata .ctrl) := by
      simp only [configuredFields]
      decide
    obtain ⟨hchainField, hsourceField, hbypassField⟩ := hfields
    rw [update_and_apart _ (hapart hbypassField) (apart_of_within hbypass (hapart hbypassField)),
      update_and_apart _ (hapart hsourceField) (hsourceApart (hapart hsourceField)),
      update_and_apart _ (hapart hchainField) (apart_of_within hchain (hapart hchainField))]
  · rw [ctrl_channelConfig]
    unfold programmedCtrl
    rw [update_and_apart _ (by decide) (apart_of_within hbypass (by decide)),
      update_and_apart _ (by decide) (hsourceApart (by decide)), update_and_within _ (by decide)]
    unfold chainBits
    split
    · rfl
    · rfl
  · rw [ctrl_channelConfig]
    unfold programmedCtrl
    rw [update_and_within _ (by decide)]
    unfold bypassBits
    split
    · rfl
    · rfl

/-- What a configuration is responsible for does not depend on what the registers held
before, and all else of the shared registers is left alone. -/
theorem channelConfig_overwrites {isi isi' : MxcIsiDev} (hset : settings isi' = settings isi)
    (hpdata : DriverPlatData isi.pdata) (srcF dstF : MxcIsiFrame) (srcFmt dstFmt : MxcIsiFmt) :
    let run := mxcIsiChannelConfig isi srcF dstF srcFmt dstFmt
    let run' := mxcIsiChannelConfig isi' srcF dstF srcFmt dstFmt
    (∀ r, run.regs r &&& configuredFields isi.pdata r =
        run'.regs r &&& configuredFields isi.pdata r) ∧
      Configured isi run srcF dstF srcFmt dstFmt ∧
      Configured isi' run' srcF dstF srcFmt dstFmt := by
  have hpdata' : isi'.pdata = isi.pdata := congrArg ChannelSettings.pdata hset
  refine ⟨agreeOn_channelConfig hset srcF dstF srcFmt dstFmt, ?_, ?_⟩
  · exact configured_channelConfig hpdata srcF dstF srcFmt dstFmt
  · rw [← hpdata'] at hpdata
    exact configured_channelConfig hpdata srcF dstF srcFmt dstFmt

/-- A board whose registers were all set before, beside one fresh from reset. -/
theorem channelConfig_overwrites_board :
    let isi := boardCapture.isi
    let run := mxcIsiChannelConfig isi (setFrameBounds zeroFrame 2592#32 1944#32)
      (setFrameBounds zeroFrame 1280#32 960#32) mxcIsiOutFormat0 mxcIsiOutFormat0
    let run' := mxcIsiChannelConfig { isi with regs := fun _ => BitVec.allOnes 32 }
      (setFrameBounds zeroFrame 2592#32 1944#32)
      (setFrameBounds zeroFrame 1280#32 960#32) mxcIsiOutFormat0 mxcIsiOutFormat0
    ∀ r, run.regs r &&& configuredFields isi.pdata r =
      run'.regs r &&& configuredFields isi.pdata r := by
  have hpdata : DriverPlatData boardCapture.isi.pdata := by
    unfold DriverPlatData
    decide
  have hset : settings { boardCapture.isi with regs := fun _ => BitVec.allOnes 32 } =
      settings boardCapture.isi := by
    decide
  exact (channelConfig_overwrites hset hpdata _ _ _ _).1

end CameraPorting.Isi.ChannelConfig
