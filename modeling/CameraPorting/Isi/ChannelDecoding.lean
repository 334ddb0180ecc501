import CameraPorting.Isi.ChannelConfig
import CameraPorting.Library.BitFields

namespace CameraPorting.Isi.ChannelDecoding

open CameraPorting.Kernel.Media
open CameraPorting.Isi.Device
open CameraPorting.Isi.Channel
open CameraPorting.Isi.Formats
open CameraPorting.Isi.ChannelConfig
open CameraPorting.Library.BitFields
open CameraPorting.Library.RegisterFields (Within apart_of_within)

structure CtrlFields where
  bypass : U32
  chainBuf : U32
  virtualChannel : U32
  srcType : U32
  srcInput : U32
  deriving DecidableEq

structure ImgCtrlFields where
  format : U32
  alpha : U32
  alphaEnable : U32
  decX : U32
  decY : U32
  vflip : U32
  hflip : U32
  ycbcrMode : U32
  cscMode : U32
  cscBypass : U32
  deriving DecidableEq

/-- A frame size. -/
structure SizeFields where
  width : U32
  height : U32
  deriving DecidableEq

structure ChannelImage where
  ctrl : CtrlFields
  imgCtrl : ImgCtrlFields
  input : SizeFields
  output : SizeFields
  pitch : U32
  deriving DecidableEq

def decodeCtrl (v : U32) : CtrlFields where
  bypass := slice 32 29 29 v
  chainBuf := slice 32 26 25 v
  virtualChannel := slice 32 7 6 v
  srcType := slice 32 4 4 v
  srcInput := slice 32 2 0 v

def decodeImgCtrl (v : U32) : ImgCtrlFields where
  format := slice 32 29 24 v
  alpha := slice 32 23 16 v
  alphaEnable := slice 32 15 15 v
  decX := slice 32 11 10 v
  decY := slice 32 9 8 v
  vflip := slice 32 6 6 v
  hflip := slice 32 5 5 v
  ycbcrMode := slice 32 3 3 v
  cscMode := slice 32 2 1 v
  cscBypass := slice 32 0 0 v

def decodeSize (v : U32) : SizeFields where
  width := slice 32 12 0 v
  height := slice 32 28 16 v

def decodeChannel (regs : ChnlRegs) : ChannelImage where
  ctrl := decodeCtrl (regs .ctrl)
  imgCtrl := decodeImgCtrl (regs .imgCtrl)
  input := decodeSize (regs .imgCfg)
  output := decodeSize (regs .sclImgCfg)
  pitch := regs .outBufPitch

def bit (b : Bool) : U32 := if b then 1#32 else 0#32

/-- The selector of the input. -/
def srcInput (set : ChannelSettings) : U32 :=
  match set.inPort with
  | .mipi0Csi2 => set.pdata.chanSrc.srcMipi0
  | .mipi1Csi2 => set.pdata.chanSrc.srcMipi1
  | .dc0 => set.pdata.chanSrc.srcDc0
  | .dc1 => set.pdata.chanSrc.srcDc1
  | .hdmi => set.pdata.chanSrc.srcHdmi
  | .parallelCsi => set.pdata.chanSrc.srcCsi
  | .mem => set.pdata.chanSrc.srcMem
  | .invalid => 0#32

/-- The two receivers have virtual channels. -/
def virtualChannel (set : ChannelSettings) : U32 :=
  match set.inPort with
  | .mipi0Csi2 | .mipi1Csi2 => if set.subInPort ≤ 3#32 then set.subInPort else 0#32
  | _ => 0#32

def ctrlImage (set : ChannelSettings) (srcF dstF : MxcIsiFrame) (srcFmt dstFmt : MxcIsiFmt) :
    CtrlFields where
  bypass := bit (!(usesCsc srcFmt dstFmt || usesScaling srcF dstF))
  chainBuf := bit (isi2K < srcF.oWidth)
  virtualChannel := virtualChannel set
  srcType := bit (set.inPort = .mem)
  srcInput := srcInput set

/-- The decimation of an axis, 0 without scaling. -/
def decimation (srcF dstF : MxcIsiFrame) (src dst : U32) : U32 :=
  if usesScaling srcF dstF then (axisScaling src dst).1 else 0#32

/-- The scaler works in YCbCr as well. -/
def imgCtrlImage (set : ChannelSettings) (srcF dstF : MxcIsiFrame)
    (srcFmt dstFmt : MxcIsiFmt) : ImgCtrlFields where
  format := dstFmt.color
  alpha := if set.alphaen then set.alpha.setWidth 32 else 0#32
  alphaEnable := bit set.alphaen
  decX := decimation srcF dstF srcF.width dstF.width
  decY := decimation srcF dstF srcF.height dstF.height
  vflip := bit set.vflip
  hflip := bit set.hflip
  ycbcrMode := bit (usesScaling srcF dstF || (isYuv srcFmt.fourcc && isRgb dstFmt.fourcc))
  cscMode :=
    if isYuv srcFmt.fourcc && isRgb dstFmt.fourcc then 1#32
    else if isRgb srcFmt.fourcc && isYuv dstFmt.fourcc then 3#32 else 0#32
  cscBypass := bit (!usesCsc srcFmt dstFmt)

/-- What a configuration is to leave in the registers. -/
def channelImage (set : ChannelSettings) (srcF dstF : MxcIsiFrame)
    (srcFmt dstFmt : MxcIsiFmt) : ChannelImage where
  ctrl := ctrlImage set srcF dstF srcFmt dstFmt
  imgCtrl := imgCtrlImage set srcF dstF srcFmt dstFmt
  input := ⟨srcF.oWidth, srcF.oHeight⟩
  output := if usesScaling srcF dstF then ⟨dstF.oWidth, dstF.oHeight⟩
    else ⟨srcF.oWidth, srcF.oHeight⟩
  pitch := dstF.bytesperline 0

/-- The sizes of a frame fit the fields of the hardware. -/
structure SizeFits (f : MxcIsiFrame) : Prop where
  width : Fits 13 f.oWidth
  height : Fits 13 f.oHeight

theorem decodeSize_imgSize {f : MxcIsiFrame} (h : SizeFits f) :
    decodeSize (imgSize f) = ⟨f.oWidth, f.oHeight⟩ := by
  have hwidth : slice 32 12 0 (imgSize f) = f.oWidth := by
    rw [imgSize, slice_or, slice_self (by decide) h.width,
      slice_shiftLeft_above (by decide) (by decide), BitVec.or_zero]
  have hheight : slice 32 28 16 (imgSize f) = f.oHeight := by
    rw [imgSize, slice_or, slice_of_fits (by decide) h.width (by decide),
      slice_shiftLeft_self (by decide) h.height, BitVec.zero_or]
  rw [decodeSize, hwidth, hheight]

section Ctrl

theorem subInPort_cases {port : U32} (h : port ≤ 3#32) :
    port = 0#32 ∨ port = 1#32 ∨ port = 2#32 ∨ port = 3#32 := by
  have hle : port.toNat ≤ 3 := BitVec.le_def.mp h
  have hcases : port.toNat = 0 ∨ port.toNat = 1 ∨ port.toNat = 2 ∨ port.toNat = 3 := by
    omega
  simpa only [← BitVec.toNat_inj, BitVec.toNat_ofNat] using hcases

/-- The selectors of the two SoCs have three bits. -/
theorem selectors_fit {src : MxcIsiChanSrc} (hsrc : src ∈ chanSrcs) :
    Fits 3 src.srcDc0 ∧ Fits 3 src.srcDc1 ∧ Fits 3 src.srcMipi0 ∧ Fits 3 src.srcMipi1 ∧
      Fits 3 src.srcHdmi ∧ Fits 3 src.srcCsi ∧ Fits 3 src.srcMem := by
  have hall : ∀ src ∈ chanSrcs, Fits 3 src.srcDc0 ∧ Fits 3 src.srcDc1 ∧ Fits 3 src.srcMipi0 ∧
      Fits 3 src.srcMipi1 ∧ Fits 3 src.srcHdmi ∧ Fits 3 src.srcCsi ∧ Fits 3 src.srcMem := by
    decide
  exact hall src hsrc

theorem selector_fields {sel : U32} (hsel : Fits 3 sel) :
    slice 32 7 6 sel = 0#32 ∧ slice 32 4 4 sel = 0#32 ∧ slice 32 2 0 sel = sel :=
  ⟨slice_of_fits (by decide) hsel (by decide), slice_of_fits (by decide) hsel (by decide),
    slice_self (by decide) hsel⟩

theorem virtualChannel_fields (port : U32) :
    let vc := if port ≤ 3#32 then port <<< 6 else 0#32
    slice 32 7 6 vc = (if port ≤ 3#32 then port else 0#32) ∧ slice 32 4 4 vc = 0#32 ∧
      slice 32 2 0 vc = 0#32 := by
  by_cases h : port ≤ 3#32
  · rcases subInPort_cases h with rfl | rfl | rfl | rfl
    · decide
    · decide
    · decide
    · decide
  · dsimp only
    rw [if_neg h, if_neg h]
    decide

theorem sourceBits_fields {set : ChannelSettings} (hpdata : DriverPlatData set.pdata) :
    slice 32 7 6 (sourceBits set) = virtualChannel set ∧
      slice 32 4 4 (sourceBits set) = bit (set.inPort = .mem) ∧
      slice 32 2 0 (sourceBits set) = srcInput set := by
  obtain ⟨hdc0, hdc1, hmipi0, hmipi1, hhdmi, hcsi, hmem⟩ := selectors_fit hpdata.1
  obtain ⟨hvc, hvcType, hvcInput⟩ := virtualChannel_fields set.subInPort
  unfold sourceBits virtualChannel srcInput bit
  cases set.inPort with
  | dc0 => exact selector_fields hdc0
  | dc1 => exact selector_fields hdc1
  | hdmi => exact selector_fields hhdmi
  | parallelCsi => exact selector_fields hcsi
  | invalid =>
      dsimp only
      decide
  | mipi0Csi2 =>
      simp only [slice_or, selector_fields hmipi0, hvc, hvcType, hvcInput]
      simp
  | mipi1Csi2 =>
      simp only [slice_or, selector_fields hmipi1, hvc, hvcType, hvcInput]
      simp
  | mem =>
      simp only [slice_or, selector_fields hmem]
      refine ⟨by decide, by decide, ?_⟩
      rw [show slice 32 2 0 (1#32 <<< 4) = 0#32 by decide, BitVec.or_zero]

theorem decodeCtrl_programmed {set : ChannelSettings} (hpdata : DriverPlatData set.pdata)
    (srcF dstF : MxcIsiFrame) (srcFmt dstFmt : MxcIsiFmt) (ctrl : U32) :
    decodeCtrl (programmedCtrl set srcF dstF srcFmt dstFmt ctrl) =
      ctrlImage set srcF dstF srcFmt dstFmt := by
  have hwithin := sourceBits_within hpdata
  obtain ⟨hvc, htype, hinput⟩ := sourceBits_fields hpdata
  -- a field of the source is set by the second call and left alone by the third
  have hsource : ∀ high low, fieldMask 32 high low &&& chnlCtrlChnlBypassMask = 0#32 →
      fieldMask 32 high low &&& ~~~sourceMask = 0#32 →
      slice 32 high low (programmedCtrl set srcF dstF srcFmt dstFmt ctrl) =
        slice 32 high low (sourceBits set) := by
    intro high low hbypass hfield
    have hbits : slice 32 high low (bypassBits srcF dstF srcFmt dstFmt) = 0#32 := by
      apply slice_of_apart
      unfold bypassBits
      split
      · exact BitVec.zero_and
      · rw [BitVec.and_comm]
        exact hbypass
    rw [programmedCtrl, slice_update_apart hbypass hbits, slice_update_within hfield]
  have hbypass : slice 32 29 29 (programmedCtrl set srcF dstF srcFmt dstFmt ctrl) =
      bit (!(usesCsc srcFmt dstFmt || usesScaling srcF dstF)) := by
    rw [programmedCtrl, slice_update_within (by decide), bypassBits, bit]
    cases usesCsc srcFmt dstFmt || usesScaling srcF dstF <;> decide
  have hchain : slice 32 26 25 (programmedCtrl set srcF dstF srcFmt dstFmt ctrl) =
      bit (isi2K < srcF.oWidth) := by
    have hbits : slice 32 26 25 (bypassBits srcF dstF srcFmt dstFmt) = 0#32 := by
      unfold bypassBits
      split <;> decide
    have hapart : slice 32 26 25 (sourceBits set) = 0#32 :=
      slice_of_apart (apart_of_within hwithin (by decide))
    rw [programmedCtrl, slice_update_apart (by decide) hbits,
      slice_update_apart (by decide) hapart, slice_update_within (by decide), chainBits, bit]
    by_cases h : isi2K < srcF.oWidth
    · rw [if_pos h, if_pos (decide_eq_true h)]
      decide
    · rw [if_neg h, if_neg (by rw [decide_eq_false h]; exact Bool.false_ne_true)]
      decide
  rw [decodeCtrl, ctrlImage, hbypass, hchain, hsource 7 6 (by decide) (by decide),
    hsource 4 4 (by decide) (by decide), hsource 2 0 (by decide) (by decide), hvc, htype, hinput]

end Ctrl

section ImgCtrl

def flipMask : U32 := chnlImgCtrlVflipEnMask ||| chnlImgCtrlHflipEnMask

def alphaMask : U32 := chnlImgCtrlGblAlphaValMask ||| chnlImgCtrlGblAlphaEnMask

def flipBits (set : ChannelSettings) : U32 := bit set.vflip <<< 6 ||| bit set.hflip <<< 5

def alphaBits (set : ChannelSettings) : U32 :=
  if set.alphaen then set.alpha.setWidth 32 <<< 16 ||| 1#32 <<< 15 else 0#32

theorem flipImgCtrl_eq (set : ChannelSettings) (v : U32) :
    flipImgCtrl set v = (v &&& ~~~flipMask) ||| flipBits set := by
  unfold flipImgCtrl flipBits bit flipMask
  cases set.vflip <;> cases set.hflip <;> simp [BitVec.or_assoc]

theorem alphaImgCtrl_eq (set : ChannelSettings) (v : U32) :
    alphaImgCtrl set v = (v &&& ~~~alphaMask) ||| alphaBits set := by
  unfold alphaImgCtrl alphaBits alphaMask
  cases set.alphaen <;> simp

/-- The bits of the decimation, and the mode bit that the scaler adds. -/
def decBits (srcF dstF : MxcIsiFrame) : U32 :=
  decimation srcF dstF srcF.width dstF.width <<< 10 |||
    decimation srcF dstF srcF.height dstF.height <<< 8

def scalerMode (srcF dstF : MxcIsiFrame) : U32 :=
  if usesScaling srcF dstF then chnlImgCtrlYcbcrModeMask else 0#32

theorem scalingImgCtrl_eq (srcF dstF : MxcIsiFrame) (v : U32) :
    scalingImgCtrl srcF dstF v =
      ((v ||| scalerMode srcF dstF) &&& ~~~decMask) ||| decBits srcF dstF := by
  unfold scalingImgCtrl scalerMode decBits decimation
  cases usesScaling srcF dstF <;> simp

theorem axisScaling_fits (src dst : U32) : Fits 2 (axisScaling src dst).1 := by
  unfold axisScaling
  dsimp only
  split_ifs <;>
    · dsimp only
      decide

theorem decimation_fits (srcF dstF : MxcIsiFrame) (src dst : U32) :
    Fits 2 (decimation srcF dstF src dst) := by
  unfold decimation
  split
  · exact axisScaling_fits src dst
  · decide

theorem bit_fits (b : Bool) : Fits 1 (bit b) := by
  cases b <;> decide

theorem alphaBits_apart {high low : Nat} (set : ChannelSettings) (hw : high < 32)
    (h : high < 15 ∨ 24 ≤ low) : slice 32 high low (alphaBits set) = 0#32 := by
  have halpha : Fits 8 (set.alpha.setWidth 32) := by
    unfold Fits
    rw [BitVec.toNat_setWidth]
    exact lt_of_le_of_lt (Nat.mod_le _ _) set.alpha.isLt
  unfold alphaBits
  split
  · rcases h with h | h
    · rw [slice_or, slice_shiftLeft_above hw (by omega), slice_shiftLeft_above hw h,
        BitVec.or_zero]
    · have hone : Fits 1 1#32 := by decide
      rw [slice_or, slice_shiftLeft_below hw halpha h, slice_shiftLeft_below hw hone (by omega),
        BitVec.or_zero]
  · exact slice_of_apart BitVec.zero_and

theorem flipBits_apart {high low : Nat} (set : ChannelSettings) (hw : high < 32)
    (h : high < 5 ∨ 7 ≤ low) : slice 32 high low (flipBits set) = 0#32 := by
  unfold flipBits
  rcases h with h | h
  · rw [slice_or, slice_shiftLeft_above hw (by omega), slice_shiftLeft_above hw h, BitVec.or_zero]
  · rw [slice_or, slice_shiftLeft_below hw (bit_fits _) h,
      slice_shiftLeft_below hw (bit_fits _) (by omega), BitVec.or_zero]

theorem decBits_apart {high low : Nat} (srcF dstF : MxcIsiFrame) (hw : high < 32)
    (h : high < 8 ∨ 12 ≤ low) : slice 32 high low (decBits srcF dstF) = 0#32 := by
  unfold decBits
  rcases h with h | h
  · rw [slice_or, slice_shiftLeft_above hw (by omega), slice_shiftLeft_above hw h, BitVec.or_zero]
  · rw [slice_or, slice_shiftLeft_below hw (decimation_fits _ _ _ _) h,
      slice_shiftLeft_below hw (decimation_fits _ _ _ _) (by omega), BitVec.or_zero]

/-- The value of `CHNL_IMG_CTRL` after the four calls that pass it on. -/
def programmedImgCtrl (set : ChannelSettings) (srcF dstF : MxcIsiFrame)
    (srcFmt dstFmt : MxcIsiFmt) (v : U32) : U32 :=
  alphaImgCtrl set (flipImgCtrl set (scalingImgCtrl srcF dstF
    ((v &&& ~~~cscMask) ||| cscBits srcFmt dstFmt)))

section Fields

variable (set : ChannelSettings) (srcF dstF : MxcIsiFrame) (srcFmt dstFmt : MxcIsiFmt) (v : U32)

theorem alpha_fields :
    slice 32 23 16 (programmedImgCtrl set srcF dstF srcFmt dstFmt v) =
        (if set.alphaen then set.alpha.setWidth 32 else 0#32) ∧
      slice 32 15 15 (programmedImgCtrl set srcF dstF srcFmt dstFmt v) = bit set.alphaen := by
  have halpha : Fits 8 (set.alpha.setWidth 32) := by
    unfold Fits
    rw [BitVec.toNat_setWidth]
    exact lt_of_le_of_lt (Nat.mod_le _ _) set.alpha.isLt
  have hone : Fits 1 1#32 := by decide
  rw [programmedImgCtrl, alphaImgCtrl_eq, slice_update_within (by decide),
    slice_update_within (by decide), alphaBits, bit]
  cases set.alphaen with
  | false => exact ⟨slice_of_apart BitVec.zero_and, slice_of_apart BitVec.zero_and⟩
  | true =>
      rw [if_pos rfl, if_pos rfl, if_pos rfl]
      constructor
      · rw [slice_or, slice_shiftLeft_self (by decide) halpha,
          slice_shiftLeft_below (by decide) hone (by decide), BitVec.or_zero]
      · rw [slice_or, slice_shiftLeft_above (by decide) (by decide), BitVec.zero_or,
          slice_shiftLeft_self (by decide) hone]

theorem flip_fields :
    slice 32 6 6 (programmedImgCtrl set srcF dstF srcFmt dstFmt v) = bit set.vflip ∧
      slice 32 5 5 (programmedImgCtrl set srcF dstF srcFmt dstFmt v) = bit set.hflip := by
  have hfield : ∀ high low, fieldMask 32 high low &&& alphaMask = 0#32 →
      slice 32 high low (alphaBits set) = 0#32 →
      fieldMask 32 high low &&& ~~~flipMask = 0#32 →
      slice 32 high low (programmedImgCtrl set srcF dstF srcFmt dstFmt v) =
        slice 32 high low (flipBits set) := by
    intro high low hmask halpha hflip
    rw [programmedImgCtrl, alphaImgCtrl_eq, slice_update_apart hmask halpha, flipImgCtrl_eq,
      slice_update_within hflip]
  rw [hfield 6 6 (by decide) (alphaBits_apart set (by decide) (by decide)) (by decide),
    hfield 5 5 (by decide) (alphaBits_apart set (by decide) (by decide)) (by decide), flipBits]
  constructor
  · rw [slice_or, slice_shiftLeft_self (by decide) (bit_fits _),
      slice_shiftLeft_below (by decide) (bit_fits _) (by decide), BitVec.or_zero]
  · rw [slice_or, slice_shiftLeft_above (by decide) (by decide), BitVec.zero_or,
      slice_shiftLeft_self (by decide) (bit_fits _)]

/-- A field beside alpha and flips is that of the scaling. -/
theorem scaling_field {high low : Nat} (hw : high < 32) (hapart : 7 ≤ low ∨ high < 5)
    (hbeside : high < 15 ∨ 24 ≤ low)
    (halpha : fieldMask 32 high low &&& alphaMask = 0#32)
    (hflip : fieldMask 32 high low &&& flipMask = 0#32) :
    slice 32 high low (programmedImgCtrl set srcF dstF srcFmt dstFmt v) =
      slice 32 high low (scalingImgCtrl srcF dstF
        ((v &&& ~~~cscMask) ||| cscBits srcFmt dstFmt)) := by
  rw [programmedImgCtrl, alphaImgCtrl_eq, slice_update_apart halpha
    (alphaBits_apart set hw hbeside), flipImgCtrl_eq,
    slice_update_apart hflip (flipBits_apart set hw hapart.symm)]

theorem decimation_fields :
    slice 32 11 10 (programmedImgCtrl set srcF dstF srcFmt dstFmt v) =
        decimation srcF dstF srcF.width dstF.width ∧
      slice 32 9 8 (programmedImgCtrl set srcF dstF srcFmt dstFmt v) =
        decimation srcF dstF srcF.height dstF.height := by
  rw [scaling_field set srcF dstF srcFmt dstFmt v (by decide) (by decide) (by decide)
      (by decide) (by decide),
    scaling_field set srcF dstF srcFmt dstFmt v (by decide) (by decide) (by decide)
      (by decide) (by decide), scalingImgCtrl_eq, slice_update_within (by decide),
    slice_update_within (by decide), decBits]
  constructor
  · rw [slice_or, slice_shiftLeft_self (by decide) (decimation_fits _ _ _ _),
      slice_shiftLeft_below (by decide) (decimation_fits _ _ _ _) (by decide), BitVec.or_zero]
  · rw [slice_or, slice_shiftLeft_above (by decide) (by decide), BitVec.zero_or,
      slice_shiftLeft_self (by decide) (decimation_fits _ _ _ _)]

/-- A field of the colour conversion; the scaler may add its mode bit. -/
theorem csc_field {high low : Nat} (hw : high < 32) (hapart : 12 ≤ low ∨ high < 5)
    (hbeside : high < 8 ∨ 24 ≤ low)
    (halpha : fieldMask 32 high low &&& alphaMask = 0#32)
    (hflip : fieldMask 32 high low &&& flipMask = 0#32)
    (hdec : fieldMask 32 high low &&& decMask = 0#32)
    (hcsc : fieldMask 32 high low &&& ~~~cscMask = 0#32) :
    slice 32 high low (programmedImgCtrl set srcF dstF srcFmt dstFmt v) =
      slice 32 high low (cscBits srcFmt dstFmt) ||| slice 32 high low (scalerMode srcF dstF) := by
  rw [scaling_field set srcF dstF srcFmt dstFmt v hw (by omega) (by omega) halpha hflip,
    scalingImgCtrl_eq, slice_update_apart hdec (decBits_apart srcF dstF hw (by omega)), slice_or,
    slice_update_within hcsc]

/-- What `mxc_isi_channel_set_csc` sets beside the format. -/
def conversionBits : U32 :=
  if isYuv srcFmt.fourcc && isRgb dstFmt.fourcc then 1#32 <<< 1 ||| 1#32 <<< 3
  else if isRgb srcFmt.fourcc && isYuv dstFmt.fourcc then 3#32 <<< 1 else 1#32

theorem conversion_fields :
    slice 32 3 3 (conversionBits srcFmt dstFmt) =
        bit (isYuv srcFmt.fourcc && isRgb dstFmt.fourcc) ∧
      slice 32 2 1 (conversionBits srcFmt dstFmt) =
        (if isYuv srcFmt.fourcc && isRgb dstFmt.fourcc then 1#32
        else if isRgb srcFmt.fourcc && isYuv dstFmt.fourcc then 3#32 else 0#32) ∧
      slice 32 0 0 (conversionBits srcFmt dstFmt) = bit (!usesCsc srcFmt dstFmt) ∧
      slice 32 29 24 (conversionBits srcFmt dstFmt) = 0#32 := by
  unfold conversionBits usesCsc
  generalize (isYuv srcFmt.fourcc && isRgb dstFmt.fourcc) = yuv2rgb
  generalize (isRgb srcFmt.fourcc && isYuv dstFmt.fourcc) = rgb2yuv
  revert yuv2rgb rgb2yuv
  decide

theorem csc_fields (hcolor : Fits 6 dstFmt.color) :
    slice 32 29 24 (programmedImgCtrl set srcF dstF srcFmt dstFmt v) = dstFmt.color ∧
      slice 32 3 3 (programmedImgCtrl set srcF dstF srcFmt dstFmt v) =
        bit (usesScaling srcF dstF || (isYuv srcFmt.fourcc && isRgb dstFmt.fourcc)) ∧
      slice 32 2 1 (programmedImgCtrl set srcF dstF srcFmt dstFmt v) =
        (if isYuv srcFmt.fourcc && isRgb dstFmt.fourcc then 1#32
        else if isRgb srcFmt.fourcc && isYuv dstFmt.fourcc then 3#32 else 0#32) ∧
      slice 32 0 0 (programmedImgCtrl set srcF dstF srcFmt dstFmt v) =
        bit (!usesCsc srcFmt dstFmt) := by
  have hbits : cscBits srcFmt dstFmt =
      dstFmt.color <<< 24 ||| conversionBits srcFmt dstFmt := rfl
  obtain ⟨hmode, hcsc, hbypass, hformat⟩ := conversion_fields srcFmt dstFmt
  have hscaler : slice 32 29 24 (scalerMode srcF dstF) = 0#32 ∧
      slice 32 3 3 (scalerMode srcF dstF) = bit (usesScaling srcF dstF) ∧
      slice 32 2 1 (scalerMode srcF dstF) = 0#32 ∧
      slice 32 0 0 (scalerMode srcF dstF) = 0#32 := by
    unfold scalerMode
    cases usesScaling srcF dstF <;> decide
  obtain ⟨hscalerFormat, hscalerMode, hscalerCsc, hscalerBypass⟩ := hscaler
  have hfield : ∀ high low, high < 5 → (fieldMask 32 high low &&& alphaMask = 0#32) →
      (fieldMask 32 high low &&& flipMask = 0#32) → (fieldMask 32 high low &&& decMask = 0#32) →
      (fieldMask 32 high low &&& ~~~cscMask = 0#32) →
      slice 32 high low (programmedImgCtrl set srcF dstF srcFmt dstFmt v) =
        slice 32 high low (conversionBits srcFmt dstFmt) |||
          slice 32 high low (scalerMode srcF dstF) := by
    intro high low hhigh halpha hflip hdec hwithin
    rw [csc_field set srcF dstF srcFmt dstFmt v (by omega) (.inr hhigh) (.inl (by omega)) halpha
      hflip hdec hwithin, hbits, slice_or, slice_shiftLeft_above (by omega) (by omega),
      BitVec.zero_or]
  refine ⟨?_, ?_, ?_, ?_⟩
  · rw [csc_field set srcF dstF srcFmt dstFmt v (by decide) (by decide) (by decide) (by decide)
      (by decide) (by decide) (by decide), hbits, slice_or,
      slice_shiftLeft_self (by decide) hcolor, hformat, hscalerFormat, BitVec.or_zero,
      BitVec.or_zero]
  · rw [hfield 3 3 (by decide) (by decide) (by decide) (by decide) (by decide), hmode,
      hscalerMode]
    cases usesScaling srcF dstF <;>
      cases isYuv srcFmt.fourcc && isRgb dstFmt.fourcc <;> rfl
  · rw [hfield 2 1 (by decide) (by decide) (by decide) (by decide) (by decide), hcsc,
      hscalerCsc, BitVec.or_zero]
  · rw [hfield 0 0 (by decide) (by decide) (by decide) (by decide) (by decide), hbypass,
      hscalerBypass, BitVec.or_zero]

theorem decodeImgCtrl_programmed (hcolor : Fits 6 dstFmt.color) :
    decodeImgCtrl (programmedImgCtrl set srcF dstF srcFmt dstFmt v) =
      imgCtrlImage set srcF dstF srcFmt dstFmt := by
  obtain ⟨halpha, halphaEnable⟩ := alpha_fields set srcF dstF srcFmt dstFmt v
  obtain ⟨hvflip, hhflip⟩ := flip_fields set srcF dstF srcFmt dstFmt v
  obtain ⟨hdecX, hdecY⟩ := decimation_fields set srcF dstF srcFmt dstFmt v
  obtain ⟨hformat, hmode, hcsc, hbypass⟩ := csc_fields set srcF dstF srcFmt dstFmt v hcolor
  rw [decodeImgCtrl, imgCtrlImage, halpha, halphaEnable, hvflip, hhflip, hdecX, hdecY, hformat,
    hmode, hcsc, hbypass]

end Fields

end ImgCtrl

theorem color_fits : ∀ fmt ∈ mxcIsiOutFormats, Fits 6 fmt.color := by
  decide

/-- The programming of a channel is exact: whatever the registers held, each of its fields
holds after a configuration what the formats, the input and the controls ask for, and none
is disturbed by the calls that program the fields beside it. -/
theorem channelConfig_exact {isi : MxcIsiDev} (hpdata : DriverPlatData isi.pdata)
    {srcF dstF : MxcIsiFrame} (hsrc : SizeFits srcF) (hdst : SizeFits dstF)
    (srcFmt : MxcIsiFmt) {dstFmt : MxcIsiFmt} (hfmt : dstFmt ∈ mxcIsiOutFormats) :
    decodeChannel (mxcIsiChannelConfig isi srcF dstF srcFmt dstFmt).regs =
      channelImage (settings isi) srcF dstF srcFmt dstFmt := by
  have hset : DriverPlatData (settings isi).pdata := hpdata
  have hctrl := decodeCtrl_programmed hset srcF dstF srcFmt dstFmt (isi.regs .ctrl)
  have himg := decodeImgCtrl_programmed (settings isi) srcF dstF srcFmt dstFmt
    (isi.regs .imgCtrl) (color_fits dstFmt hfmt)
  rw [decodeChannel, channelImage, ctrl_channelConfig, hctrl, imgCtrl_channelConfig]
  rw [programmedImgCtrl] at himg
  rw [himg, imgCfg_channelConfig, decodeSize_imgSize hsrc, sclImgCfg_channelConfig,
    outBufPitch_channelConfig]
  cases usesScaling srcF dstF with
  | false => rw [if_neg Bool.false_ne_true, if_neg Bool.false_ne_true, decodeSize_imgSize hsrc]
  | true => rw [if_pos rfl, if_pos rfl, decodeSize_imgSize hdst]

/-- A channel of the board whose registers were all set before. -/
def usedChannel : MxcIsiDev :=
  { boardCapture.isi with regs := fun _ => BitVec.allOnes 32, hflip := true }

theorem channelConfig_exact_board :
    decodeChannel (mxcIsiChannelConfig usedChannel (setFrameBounds zeroFrame 2592#32 1944#32)
        (setFrameBounds zeroFrame 1280#32 960#32) mxcIsiOutFormat0 mxcIsiOutFormat0).regs =
      channelImage (settings usedChannel) (setFrameBounds zeroFrame 2592#32 1944#32)
        (setFrameBounds zeroFrame 1280#32 960#32) mxcIsiOutFormat0 mxcIsiOutFormat0 := by
  have hpdata : DriverPlatData usedChannel.pdata := by
    unfold DriverPlatData
    decide
  have hfmt : mxcIsiOutFormat0 ∈ mxcIsiOutFormats := by decide
  exact channelConfig_exact hpdata ⟨by decide, by decide⟩ ⟨by decide, by decide⟩ _ hfmt

end CameraPorting.Isi.ChannelDecoding
