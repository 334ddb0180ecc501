import CameraPorting.Isi.CaptureQueue

namespace CameraPorting.Isi.Formats

open CameraPorting.Kernel.Media
open CameraPorting.Isi.Device

def mxcIsiOutFmtArgb32 : U32 := 0x2#32
def mxcIsiOutFmtXrgb32 : U32 := 0x5#32
def mxcIsiOutFmtRgb32P : U32 := 0x6#32
def mxcIsiOutFmtBgr32P : U32 := 0x7#32
def mxcIsiOutFmtRgb565 : U32 := 0xa#32
def mxcIsiOutFmtRaw8 : U32 := 0xb#32
def mxcIsiOutFmtRaw10 : U32 := 0xc#32
def mxcIsiOutFmtRaw12 : U32 := 0xe#32
def mxcIsiOutFmtYuv444_1P8 : U32 := 0x13#32
def mxcIsiOutFmtYuv444_3P8P : U32 := 0x12#32
def mxcIsiOutFmtYuv422_1P8P : U32 := 0x20#32
def mxcIsiOutFmtYuv420_2P8P : U32 := 0x31#32

/-- A table row; no row sets `mdataplanes`. -/
def outFmt (fourcc : U32) (depth : List Nat) (color mbusCode : U32) : MxcIsiFmt :=
  { fourcc := fourcc
    mbusCode := mbusCode
    color := color
    memplanes := depth.length
    depth := depth
    mdataplanes := 0 }

def mxcIsiOutFormats : List MxcIsiFmt :=
  [outFmt v4l2PixFmtGrey [8] mxcIsiOutFmtRaw8 mediaBusFmtY8_1x8,
    outFmt v4l2PixFmtY10 [16] mxcIsiOutFmtRaw10 mediaBusFmtY10_1x10,
    outFmt v4l2PixFmtY12 [16] mxcIsiOutFmtRaw12 mediaBusFmtY12_1x12,
    outFmt v4l2PixFmtSbggr8 [8] mxcIsiOutFmtRaw8 mediaBusFmtSbggr8_1x8,
    outFmt v4l2PixFmtSgbrg8 [8] mxcIsiOutFmtRaw8 mediaBusFmtSgbrg8_1x8,
    outFmt v4l2PixFmtSgrbg8 [8] mxcIsiOutFmtRaw8 mediaBusFmtSgrbg8_1x8,
    outFmt v4l2PixFmtSrggb8 [8] mxcIsiOutFmtRaw8 mediaBusFmtSrggb8_1x8,
    outFmt v4l2PixFmtSbggr10 [16] mxcIsiOutFmtRaw10 mediaBusFmtSbggr10_1x10,
    outFmt v4l2PixFmtSgbrg10 [16] mxcIsiOutFmtRaw10 mediaBusFmtSgbrg10_1x10,
    outFmt v4l2PixFmtSgrbg10 [16] mxcIsiOutFmtRaw10 mediaBusFmtSgrbg10_1x10,
    outFmt v4l2PixFmtSrggb10 [16] mxcIsiOutFmtRaw10 mediaBusFmtSrggb10_1x10,
    outFmt v4l2PixFmtSbggr12 [16] mxcIsiOutFmtRaw12 mediaBusFmtSbggr12_1x12,
    outFmt v4l2PixFmtSgbrg12 [16] mxcIsiOutFmtRaw12 mediaBusFmtSgbrg12_1x12,
    outFmt v4l2PixFmtSgrbg12 [16] mxcIsiOutFmtRaw12 mediaBusFmtSgrbg12_1x12,
    outFmt v4l2PixFmtSrggb12 [16] mxcIsiOutFmtRaw12 mediaBusFmtSrggb12_1x12,
    outFmt v4l2PixFmtRgb565 [16] mxcIsiOutFmtRgb565 mediaBusFmtRgb565_1x16,
    outFmt v4l2PixFmtRgb24 [24] mxcIsiOutFmtBgr32P mediaBusFmtRgb888_1x24,
    outFmt v4l2PixFmtBgr24 [24] mxcIsiOutFmtRgb32P mediaBusFmtBgr888_1x24,
    outFmt v4l2PixFmtYuyv [16] mxcIsiOutFmtYuv422_1P8P mediaBusFmtYuyv8_1x16,
    outFmt v4l2PixFmtYuv32 [32] mxcIsiOutFmtYuv444_1P8 mediaBusFmtAyuv8_1x32,
    outFmt v4l2PixFmtNv12 [8, 8] mxcIsiOutFmtYuv420_2P8P mediaBusFmtYuyv8_1x16,
    outFmt v4l2PixFmtYuv444m [8, 8, 8] mxcIsiOutFmtYuv444_3P8P mediaBusFmtYuv8_1x24,
    outFmt v4l2PixFmtXbgr32 [32] mxcIsiOutFmtXrgb32 mediaBusFmtRgb888_1x24,
    outFmt v4l2PixFmtAbgr32 [32] mxcIsiOutFmtArgb32 mediaBusFmtRgb888_1x24]

/-- Row 0 of `mxc_isi_out_formats`, the format of a freshly registered device. -/
def mxcIsiOutFormat0 : MxcIsiFmt :=
  outFmt v4l2PixFmtGrey [8] mxcIsiOutFmtRaw8 mediaBusFmtY8_1x8

/-- `mxc_isi_find_format`: the first row whose FourCC or media bus code is the
one asked for; else row `index`, when that is not negative. -/
def mxcIsiFindFormat (pixelformat mbusCode : Option U32) (index : Int) :
    Option MxcIsiFmt :=
  if index ≥ mxcIsiOutFormats.length then none
  else
    match mxcIsiOutFormats.find? (fun fmt =>
        pixelformat == some fmt.fourcc || mbusCode == some fmt.mbusCode) with
    | some fmt => some fmt
    | none => if index < 0 then none else mxcIsiOutFormats[index.toNat]?

/-- `mxc_isi_get_src_fmt`: the pixel link format of the code the sensor sends. -/
def mxcIsiGetSrcFmt (code : U32) : MxcIsiFmt :=
  if code = mediaBusFmtYuyv8_1x16 ∨ code = mediaBusFmtYvyu8_2x8 ∨
      code = mediaBusFmtAyuv8_1x32 ∨ code = mediaBusFmtUyvy8_2x8 ∨
      code = mediaBusFmtYuyv8_2x8 then
    outFmt v4l2PixFmtYuv32 [32] 0#32 0#32
  else outFmt v4l2PixFmtRgb32 [32] 0#32 0#32

def mxcImx8mnData : MxcIsiPlatData :=
  { chanSrc := ⟨0#32, 0#32, 0#32, 1#32, 0#32, 0#32, 2#32⟩
    panicSetThdY := ⟨0x0000f#32, 0, 0x7#32⟩
    panicSetThdU := ⟨0x00f00#32, 8, 0x7#32⟩
    panicSetThdV := ⟨0xf0000#32, 16, 0x7#32⟩
    ierMasks := 0xfc0000#32 }

def mxcIsiProbe (regs : ChnlRegs) (pdata : MxcIsiPlatData)
    (bufActiveReverse chain : Bool) (inPort : IsiInputInterface)
    (subInPort : U32) : MxcIsiDev :=
  { regs := regs
    pdata := pdata
    status := 0#32
    bufActiveReverse := bufActiveReverse
    m2mEnabled := false
    isStreaming := false
    chain := chain
    chainCtrl := 0#32
    chainBuf := false
    inPort := inPort
    subInPort := subInPort
    alpha := 0#8
    alphaen := false
    hflip := false
    vflip := false
    cscen := false
    scale := false }

def zeroFrame : MxcIsiFrame :=
  { oWidth := 0#32, oHeight := 0#32, cWidth := 0#32, cHeight := 0#32
    hOff := 0#32, vOff := 0#32, width := 0#32, height := 0#32
    sizeimage := fun _ => 0#32, bytesperline := fun _ => 0#32, fmt := none }

def zeroBuffer : MxcIsiBuffer :=
  { planes := []
    state := .dequeued
    sequence := 0#32
    paddr := ⟨0#32, 0#32, 0#32⟩
    id := .buf1
    discard := false }

/-- The capture device after `isi_cap_probe` and `mxc_isi_register_cap_device`. -/
def mxcIsiRegisterCapDevice (isi : MxcIsiDev) : MxcIsiCapDev :=
  { isi := isi
    pix := ⟨0#32, 0#32, 0#32, 0, fun _ => ⟨0#32, 0#32⟩⟩
    srcF := { zeroFrame with fmt := some mxcIsiOutFormat0 }
    dstF := { zeroFrame with
      width := 1280#32, height := 800#32, fmt := some mxcIsiOutFormat0 }
    buf := fun _ => zeroBuffer
    outPending := []
    outActive := []
    outDiscard := []
    frameCount := 0#32
    discardSize := fun _ => 0#32
    discardBufferDma := fun _ => 0#32
    dmaAllocs := []
    completed := []
    faults := []
    addrWrites := [] }

/-- The capture device of channel 0 of an i.MX8MP, behind the first receiver. -/
def boardCapture : MxcIsiCapDev :=
  mxcIsiRegisterCapDevice
    (mxcIsiProbe (fun _ => 0#32) mxcImx8mnData true true .mipi0Csi2 0#32)

end CameraPorting.Isi.Formats
