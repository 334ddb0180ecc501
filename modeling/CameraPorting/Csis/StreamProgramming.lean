import CameraPorting.Csis.Receiver

/-!
The registers of the MIPI CSI-2 receiver and of the display mix gasket, and the
functions of `imx8-mipi-csi2-sam.c` that program them. A register keeps what was
written to it; delays are left out.
-/

namespace CameraPorting.Csis.StreamProgramming

open CameraPorting.Kernel.Media
open CameraPorting.Csis.Receiver

inductive CsisReg where
  | cmnCtrl | clkCtrl | intmsk | intsrc | dphyctrl | dphybctrlL | dphybctrlH
  | ispconfigCh0 | ispconfigCh1 | ispconfigCh2 | ispconfigCh3
  | ispresolCh0 | ispresolCh1 | ispresolCh2 | ispresolCh3
  | ispsyncCh0
  deriving DecidableEq, Repr

inductive GasketReg where
  | ctrl | hsize | vsize
  deriving DecidableEq, Repr

def mipiCsisCmnCtrlUpdateShadow : U32 := 1 <<< 16
def mipiCsisCmnCtrlHdrMode : U32 := 1 <<< 11
def mipiCsisCmnCtrlLaneNrMask : U32 := 3 <<< 8
def mipiCsisCmnCtrlUpdateShadowCtrl : U32 := 1 <<< 2
def mipiCsisCmnCtrlReset : U32 := 1 <<< 1
def mipiCsisCmnCtrlEnable : U32 := 1 <<< 0

/-- The bits `0xE0000` of `CMN_CTRL` that only the HDR branch writes. -/
def cmnCtrlHdrShadow : U32 := 0xe0000

def mipiCsisClkCtrlClkgateTrailCh0 : U32 := 15 <<< 16
def mipiCsisClkCtrlClkgateEnMsk : U32 := 0xf <<< 4
def mipiCsisClkCtrlWclkSrc : U32 := 1 <<< 0

def mipiCsisDphyctrlHssMask : U32 := 0xff <<< 24
def mipiCsisDphyctrlSclksMask : U32 := 3 <<< 22
def mipiCsisDphyctrlEnable : U32 := 0x1f <<< 0

def mipiCsisIspconfigPixelModeMask : U32 := 3 <<< 12
def pixelModeDualPixelMode : U32 := 1
def mipiCsisIspcfgAlign32bit : U32 := 1 <<< 11
def mipiCsisIspcfgFmtMask : U32 := 0x3f <<< 2

def gasketCtrlDataTypeMask : U32 := 0x3f <<< 8
def gasketCtrlDualCompEnable : U32 := 1 <<< 1
def gasketCtrlEnable : U32 := 1 <<< 0

def gasketCtrlDataTypeYuv422_8 : U32 := 0x1e
def gasketCtrlDataTypeRgb888 : U32 := 0x24
def gasketCtrlDataTypeRaw8 : U32 := 0x2a
def gasketCtrlDataTypeRaw10 : U32 := 0x2b
def gasketCtrlDataTypeRaw12 : U32 := 0x2c

/-- The macro `GASKET_0_CTRL_DATA_TYPE`. -/
def gasketCtrlDataType (x : U32) : U32 := (x &&& 0x3f) <<< 8

/-- `struct csi_state`. The lane count, the settle values and the clock source come
from the device tree. -/
structure CsiConf (ρ : Type) where
  state : CsiState ρ
  hdr : Bool
  numLanes : U32
  hsSettle : U32
  clkSettle : U32
  wclkExt : Bool

/-- The driver's data with the two register blocks. -/
structure CsiDev (ρ : Type) extends CsiConf ρ where
  regs : CsisReg → U32
  gasket : GasketReg → U32

variable {ρ : Type}

def mipiCsisWrite (reg : CsisReg) (val : U32) (dev : CsiDev ρ) : CsiDev ρ :=
  { dev with regs := Function.update dev.regs reg val }

def regmapWrite (reg : GasketReg) (val : U32) (dev : CsiDev ρ) : CsiDev ρ :=
  { dev with gasket := Function.update dev.gasket reg val }

@[simp] theorem mipiCsisWrite_regs_self (reg : CsisReg) (val : U32) (dev : CsiDev ρ) :
    (mipiCsisWrite reg val dev).regs reg = val := by
  simp [mipiCsisWrite]

@[simp] theorem mipiCsisWrite_regs_ne {reg reg' : CsisReg} (h : reg' ≠ reg) (val : U32)
    (dev : CsiDev ρ) : (mipiCsisWrite reg val dev).regs reg' = dev.regs reg' := by
  simp [mipiCsisWrite, h]

@[simp] theorem mipiCsisWrite_toCsiConf (reg : CsisReg) (val : U32) (dev : CsiDev ρ) :
    (mipiCsisWrite reg val dev).toCsiConf = dev.toCsiConf := rfl

@[simp] theorem mipiCsisWrite_gasket (reg : CsisReg) (val : U32) (dev : CsiDev ρ) :
    (mipiCsisWrite reg val dev).gasket = dev.gasket := rfl

@[simp] theorem regmapWrite_gasket_self (reg : GasketReg) (val : U32) (dev : CsiDev ρ) :
    (regmapWrite reg val dev).gasket reg = val := by
  simp [regmapWrite]

@[simp] theorem regmapWrite_gasket_ne {reg reg' : GasketReg} (h : reg' ≠ reg) (val : U32)
    (dev : CsiDev ρ) : (regmapWrite reg val dev).gasket reg' = dev.gasket reg' := by
  simp [regmapWrite, h]

@[simp] theorem regmapWrite_toCsiConf (reg : GasketReg) (val : U32) (dev : CsiDev ρ) :
    (regmapWrite reg val dev).toCsiConf = dev.toCsiConf := rfl

@[simp] theorem regmapWrite_regs (reg : GasketReg) (val : U32) (dev : CsiDev ρ) :
    (regmapWrite reg val dev).regs = dev.regs := rfl

def regmapUpdateBits (reg : GasketReg) (mask val : U32) (dev : CsiDev ρ) : CsiDev ρ :=
  regmapWrite reg ((dev.gasket reg &&& ~~~mask) ||| (val &&& mask)) dev

def mipiCsisCleanIrq (dev : CsiDev ρ) : CsiDev ρ :=
  let dev := mipiCsisWrite .intsrc (dev.regs .intsrc) dev
  mipiCsisWrite .intmsk (dev.regs .intmsk) dev

def mipiCsisEnableInterrupts (on : Bool) (dev : CsiDev ρ) : CsiDev ρ :=
  let dev := mipiCsisCleanIrq dev
  let val := dev.regs .intmsk
  let val := if on then val ||| 0x0fffff1f#32 else val &&& ~~~0x0fffff1f#32
  mipiCsisWrite .intmsk val dev

theorem mipiCsisEnableInterrupts_regs {reg : CsisReg} (hmsk : reg ≠ .intmsk)
    (hsrc : reg ≠ .intsrc) (on : Bool) (dev : CsiDev ρ) :
    (mipiCsisEnableInterrupts on dev).regs reg = dev.regs reg := by
  simp [mipiCsisEnableInterrupts, mipiCsisCleanIrq, hmsk, hsrc]

@[simp] theorem mipiCsisEnableInterrupts_toCsiConf (on : Bool) (dev : CsiDev ρ) :
    (mipiCsisEnableInterrupts on dev).toCsiConf = dev.toCsiConf := rfl

def mipiCsisSwReset (dev : CsiDev ρ) : CsiDev ρ :=
  mipiCsisWrite .cmnCtrl (dev.regs .cmnCtrl ||| mipiCsisCmnCtrlReset) dev

def mipiCsisSystemEnable (on : Bool) (dev : CsiDev ρ) : CsiDev ρ :=
  let val := dev.regs .cmnCtrl
  let val := if on then val ||| mipiCsisCmnCtrlEnable else val &&& ~~~mipiCsisCmnCtrlEnable
  let dev := mipiCsisWrite .cmnCtrl val dev
  let val := dev.regs .dphyctrl &&& ~~~mipiCsisDphyctrlEnable
  let val := if on then
      val ||| ((1#32 <<< (dev.numLanes + 1#32)) - 1#32) &&& mipiCsisDphyctrlEnable
    else val
  mipiCsisWrite .dphyctrl val dev

@[simp] theorem mipiCsisSystemEnable_toCsiConf (on : Bool) (dev : CsiDev ρ) :
    (mipiCsisSystemEnable on dev).toCsiConf = dev.toCsiConf := rfl

theorem mipiCsisSystemEnable_regs {reg : CsisReg} (hcmn : reg ≠ .cmnCtrl)
    (hdphy : reg ≠ .dphyctrl) (on : Bool) (dev : CsiDev ρ) :
    (mipiCsisSystemEnable on dev).regs reg = dev.regs reg := by
  simp [mipiCsisSystemEnable, hcmn, hdphy]

def mipiCsisSetFormat (dev : CsiDev ρ) : CsiDev ρ :=
  let fmtReg := dev.state.csisFmt.fmtReg
  let val := (dev.regs .ispconfigCh0 &&& ~~~mipiCsisIspcfgFmtMask) ||| fmtReg
  let dev := mipiCsisWrite .ispconfigCh0 val dev
  let val := dev.regs .ispconfigCh0 &&& ~~~mipiCsisIspconfigPixelModeMask
  let val := if fmtReg = mipiCsisIspcfgFmtYcbcr422_8bit then
      val ||| pixelModeDualPixelMode <<< 12
    else val
  let dev := mipiCsisWrite .ispconfigCh0 val dev
  let val := dev.state.format.width ||| dev.state.format.height <<< 16
  let dev := mipiCsisWrite .ispresolCh0 val dev
  if dev.hdr then
    let dev := mipiCsisWrite .ispresolCh1 val dev
    let dev := mipiCsisWrite .ispresolCh2 val dev
    let dev := mipiCsisWrite .ispresolCh3 val dev
    let dev := mipiCsisWrite .ispconfigCh1 (fmtReg ||| 1#32) dev
    let dev := mipiCsisWrite .ispconfigCh2 (fmtReg ||| 2#32) dev
    mipiCsisWrite .ispconfigCh3 (fmtReg ||| 3#32) dev
  else dev

def mipiCsisSetHsyncSettle (dev : CsiDev ρ) : CsiDev ρ :=
  let val := dev.regs .dphyctrl &&& ~~~mipiCsisDphyctrlHssMask
  mipiCsisWrite .dphyctrl (val ||| (dev.hsSettle <<< 24 ||| dev.clkSettle <<< 22)) dev

def mipiCsisSetParams (dev : CsiDev ρ) : CsiDev ρ :=
  let val := dev.regs .cmnCtrl &&& ~~~mipiCsisCmnCtrlLaneNrMask
  let val := val ||| (dev.numLanes - 1#32) <<< 8
  let dev := mipiCsisWrite .cmnCtrl (val ||| mipiCsisCmnCtrlHdrMode) dev
  let dev := mipiCsisSetFormat dev
  let dev := mipiCsisSetHsyncSettle dev
  let val := dev.regs .ispconfigCh0
  let val := if dev.state.csisFmt.dataAlignment = 32 then val ||| mipiCsisIspcfgAlign32bit
    else val &&& ~~~mipiCsisIspcfgAlign32bit
  let dev := mipiCsisWrite .ispconfigCh0 val dev
  let dev := mipiCsisWrite .ispsyncCh0 0#32 dev
  let val := dev.regs .clkCtrl &&& ~~~mipiCsisClkCtrlWclkSrc
  let val := if dev.wclkExt then val ||| mipiCsisClkCtrlWclkSrc else val
  let val := (val ||| mipiCsisClkCtrlClkgateTrailCh0) &&& ~~~mipiCsisClkCtrlClkgateEnMsk
  let dev := mipiCsisWrite .clkCtrl val dev
  let dev := mipiCsisWrite .dphybctrlL 0x1f4#32 dev
  let dev := mipiCsisWrite .dphybctrlH 0#32 dev
  let val := dev.regs .cmnCtrl |||
    (mipiCsisCmnCtrlUpdateShadow ||| mipiCsisCmnCtrlUpdateShadowCtrl)
  let val := if dev.hdr then val ||| mipiCsisCmnCtrlHdrMode ||| cmnCtrlHdrShadow else val
  mipiCsisWrite .cmnCtrl val dev

/-- The value of the format register after `__mipi_csis_set_format`. -/
def ispconfigOf (fmtReg val : U32) : U32 :=
  (((val &&& ~~~mipiCsisIspcfgFmtMask) ||| fmtReg) &&& ~~~mipiCsisIspconfigPixelModeMask) |||
    (if fmtReg = mipiCsisIspcfgFmtYcbcr422_8bit then pixelModeDualPixelMode <<< 12 else 0)

@[simp] theorem mipiCsisSetFormat_toCsiConf (dev : CsiDev ρ) :
    (mipiCsisSetFormat dev).toCsiConf = dev.toCsiConf := by
  rw [mipiCsisSetFormat]
  split_ifs <;> rfl

@[simp] theorem mipiCsisSetFormat_gasket (dev : CsiDev ρ) :
    (mipiCsisSetFormat dev).gasket = dev.gasket := by
  rw [mipiCsisSetFormat]
  split_ifs <;> rfl

@[simp] theorem mipiCsisSetFormat_ispconfigCh0 (dev : CsiDev ρ) :
    (mipiCsisSetFormat dev).regs .ispconfigCh0 =
      ispconfigOf dev.state.csisFmt.fmtReg (dev.regs .ispconfigCh0) := by
  rw [mipiCsisSetFormat, ispconfigOf]
  split_ifs <;> simp

@[simp] theorem mipiCsisSetFormat_ispresolCh0 (dev : CsiDev ρ) :
    (mipiCsisSetFormat dev).regs .ispresolCh0 =
      dev.state.format.width ||| dev.state.format.height <<< 16 := by
  rw [mipiCsisSetFormat]
  split_ifs <;> simp

@[simp] theorem mipiCsisSetFormat_cmnCtrl (dev : CsiDev ρ) :
    (mipiCsisSetFormat dev).regs .cmnCtrl = dev.regs .cmnCtrl := by
  rw [mipiCsisSetFormat]
  split_ifs <;> simp

@[simp] theorem mipiCsisSetFormat_dphyctrl (dev : CsiDev ρ) :
    (mipiCsisSetFormat dev).regs .dphyctrl = dev.regs .dphyctrl := by
  rw [mipiCsisSetFormat]
  split_ifs <;> simp

@[simp] theorem mipiCsisSetParams_toCsiConf (dev : CsiDev ρ) :
    (mipiCsisSetParams dev).toCsiConf = dev.toCsiConf := by
  simp [mipiCsisSetParams, mipiCsisSetHsyncSettle]

@[simp] theorem mipiCsisSetParams_gasket (dev : CsiDev ρ) :
    (mipiCsisSetParams dev).gasket = dev.gasket := by
  simp [mipiCsisSetParams, mipiCsisSetHsyncSettle]

@[simp] theorem mipiCsisSetParams_ispconfigCh0 (dev : CsiDev ρ) :
    (mipiCsisSetParams dev).regs .ispconfigCh0 =
      if dev.state.csisFmt.dataAlignment = 32 then
        ispconfigOf dev.state.csisFmt.fmtReg (dev.regs .ispconfigCh0) |||
          mipiCsisIspcfgAlign32bit
      else ispconfigOf dev.state.csisFmt.fmtReg (dev.regs .ispconfigCh0) &&&
        ~~~mipiCsisIspcfgAlign32bit := by
  simp [mipiCsisSetParams, mipiCsisSetHsyncSettle]

@[simp] theorem mipiCsisSetParams_ispresolCh0 (dev : CsiDev ρ) :
    (mipiCsisSetParams dev).regs .ispresolCh0 =
      dev.state.format.width ||| dev.state.format.height <<< 16 := by
  simp [mipiCsisSetParams, mipiCsisSetHsyncSettle]

@[simp] theorem mipiCsisSetParams_cmnCtrl (dev : CsiDev ρ) :
    (mipiCsisSetParams dev).regs .cmnCtrl =
      ((dev.regs .cmnCtrl &&& ~~~mipiCsisCmnCtrlLaneNrMask) ||| (dev.numLanes - 1#32) <<< 8 |||
        mipiCsisCmnCtrlHdrMode |||
        (mipiCsisCmnCtrlUpdateShadow ||| mipiCsisCmnCtrlUpdateShadowCtrl)) |||
      (if dev.hdr then mipiCsisCmnCtrlHdrMode ||| cmnCtrlHdrShadow else 0) := by
  rcases hhdr : dev.hdr with _ | _ <;>
    simp [mipiCsisSetParams, mipiCsisSetHsyncSettle, hhdr, BitVec.or_assoc]

@[simp] theorem mipiCsisSetParams_dphyctrl (dev : CsiDev ρ) :
    (mipiCsisSetParams dev).regs .dphyctrl =
      (dev.regs .dphyctrl &&& ~~~mipiCsisDphyctrlHssMask) |||
        (dev.hsSettle <<< 24 ||| dev.clkSettle <<< 22) := by
  simp [mipiCsisSetParams, mipiCsisSetHsyncSettle]

/-- The switch of `disp_mix_gasket_config` over the media bus code. -/
def gasketFmtVal (code : U32) : Option U32 :=
  if code = mediaBusFmtRgb888_1x24 then some gasketCtrlDataTypeRgb888
  else if [mediaBusFmtYuyv8_2x8, mediaBusFmtYvyu8_2x8, mediaBusFmtUyvy8_2x8,
      mediaBusFmtVyuy8_2x8].contains code then some gasketCtrlDataTypeYuv422_8
  else if [mediaBusFmtSbggr8_1x8, mediaBusFmtSrggb8_1x8, mediaBusFmtSgrbg8_1x8,
      mediaBusFmtSgbrg8_1x8, mediaBusFmtY8_1x8].contains code then some gasketCtrlDataTypeRaw8
  else if [mediaBusFmtSbggr10_1x10, mediaBusFmtSgbrg10_1x10, mediaBusFmtSgrbg10_1x10,
      mediaBusFmtSrggb10_1x10, mediaBusFmtY10_1x10].contains code then
    some gasketCtrlDataTypeRaw10
  else if [mediaBusFmtSbggr12_1x12, mediaBusFmtSgbrg12_1x12, mediaBusFmtSgrbg12_1x12,
      mediaBusFmtSrggb12_1x12, mediaBusFmtY12_1x12].contains code then
    some gasketCtrlDataTypeRaw12
  else none

/-- The read of `GASKET_0_CTRL` is written back with bits added; none is cleared. -/
def dispMixGasketConfig (dev : CsiDev ρ) : CsiDev ρ :=
  match gasketFmtVal dev.state.csisFmt.code with
  | none => dev
  | some fmtVal =>
      let val := dev.gasket .ctrl
      let val := if fmtVal = gasketCtrlDataTypeYuv422_8 then val ||| gasketCtrlDualCompEnable
        else val
      let dev := regmapWrite .ctrl (val ||| gasketCtrlDataType fmtVal) dev
      let mf := dev.state.format
      if mf.width = 0 ∨ mf.height = 0 then dev
      else regmapWrite .vsize mf.height (regmapWrite .hsize mf.width dev)

@[simp] theorem dispMixGasketConfig_toCsiConf (dev : CsiDev ρ) :
    (dispMixGasketConfig dev).toCsiConf = dev.toCsiConf := by
  rw [dispMixGasketConfig]
  split
  · rfl
  · dsimp only
    split_ifs <;> rfl

@[simp] theorem dispMixGasketConfig_regs (dev : CsiDev ρ) :
    (dispMixGasketConfig dev).regs = dev.regs := by
  rw [dispMixGasketConfig]
  split
  · rfl
  · dsimp only
    split_ifs <;> rfl

theorem dispMixGasketConfig_ctrl {dev : CsiDev ρ} {fmtVal : U32}
    (h : gasketFmtVal dev.state.csisFmt.code = some fmtVal) :
    (dispMixGasketConfig dev).gasket .ctrl = dev.gasket .ctrl |||
      ((if fmtVal = gasketCtrlDataTypeYuv422_8 then gasketCtrlDualCompEnable else 0) |||
        gasketCtrlDataType fmtVal) := by
  rw [dispMixGasketConfig, h]
  dsimp only
  split_ifs <;> simp [BitVec.or_assoc]

theorem dispMixGasketConfig_hsize {dev : CsiDev ρ} {fmtVal : U32}
    (h : gasketFmtVal dev.state.csisFmt.code = some fmtVal) :
    (dispMixGasketConfig dev).gasket .hsize =
      if dev.state.format.width = 0 ∨ dev.state.format.height = 0 then dev.gasket .hsize
      else dev.state.format.width := by
  rw [dispMixGasketConfig, h]
  dsimp only
  split_ifs <;> simp_all

theorem dispMixGasketConfig_vsize {dev : CsiDev ρ} {fmtVal : U32}
    (h : gasketFmtVal dev.state.csisFmt.code = some fmtVal) :
    (dispMixGasketConfig dev).gasket .vsize =
      if dev.state.format.width = 0 ∨ dev.state.format.height = 0 then dev.gasket .vsize
      else dev.state.format.height := by
  rw [dispMixGasketConfig, h]
  dsimp only
  split_ifs <;> simp_all

def dispMixGasketEnable (enable : Bool) (dev : CsiDev ρ) : CsiDev ρ :=
  if enable then regmapUpdateBits .ctrl gasketCtrlEnable gasketCtrlEnable dev
  else regmapUpdateBits .ctrl gasketCtrlEnable 0 dev

@[simp] theorem dispMixGasketEnable_regs (enable : Bool) (dev : CsiDev ρ) :
    (dispMixGasketEnable enable dev).regs = dev.regs := by
  cases enable <;> rfl

@[simp] theorem dispMixGasketEnable_toCsiConf (enable : Bool) (dev : CsiDev ρ) :
    (dispMixGasketEnable enable dev).toCsiConf = dev.toCsiConf := by
  cases enable <;> rfl

def mipiCsisStartStream (dev : CsiDev ρ) : CsiDev ρ :=
  let dev := mipiCsisSwReset dev
  let dev := dispMixGasketConfig dev
  let dev := mipiCsisSetParams dev
  let dev := mipiCsisSystemEnable true dev
  let dev := dispMixGasketEnable true dev
  mipiCsisEnableInterrupts true dev

/-- The registers that only the programming of the format and the parameters writes. -/
theorem mipiCsisStartStream_regs {reg : CsisReg} (hmsk : reg ≠ .intmsk) (hsrc : reg ≠ .intsrc)
    (hcmn : reg ≠ .cmnCtrl) (hdphy : reg ≠ .dphyctrl) (dev : CsiDev ρ) :
    (mipiCsisStartStream dev).regs reg =
      (mipiCsisSetParams (dispMixGasketConfig (mipiCsisSwReset dev))).regs reg := by
  rw [mipiCsisStartStream, mipiCsisEnableInterrupts_regs hmsk hsrc, dispMixGasketEnable_regs,
    mipiCsisSystemEnable_regs hcmn hdphy]

def mipiCsisStopStream (dev : CsiDev ρ) : CsiDev ρ :=
  let dev := mipiCsisEnableInterrupts false dev
  let dev := mipiCsisSystemEnable false dev
  dispMixGasketEnable false dev

@[simp] theorem mipiCsisStartStream_toCsiConf (dev : CsiDev ρ) :
    (mipiCsisStartStream dev).toCsiConf = dev.toCsiConf := by
  simp [mipiCsisStartStream, mipiCsisSwReset]

@[simp] theorem mipiCsisStopStream_toCsiConf (dev : CsiDev ρ) :
    (mipiCsisStopStream dev).toCsiConf = dev.toCsiConf := by
  simp [mipiCsisStopStream]

/-- The switch of `csis_s_fmt`. -/
def csisSFmtCodes : List (U32 × U32) :=
  [(v4l2PixFmtSbggr8, mediaBusFmtSbggr8_1x8), (v4l2PixFmtSgbrg8, mediaBusFmtSgbrg8_1x8),
    (v4l2PixFmtSgrbg8, mediaBusFmtSgrbg8_1x8), (v4l2PixFmtSrggb8, mediaBusFmtSrggb8_1x8),
    (v4l2PixFmtGrey, mediaBusFmtY8_1x8),
    (v4l2PixFmtSbggr10, mediaBusFmtSbggr10_1x10), (v4l2PixFmtSgbrg10, mediaBusFmtSgbrg10_1x10),
    (v4l2PixFmtSgrbg10, mediaBusFmtSgrbg10_1x10), (v4l2PixFmtSrggb10, mediaBusFmtSrggb10_1x10),
    (v4l2PixFmtY10, mediaBusFmtY10_1x10),
    (v4l2PixFmtSbggr12, mediaBusFmtSbggr12_1x12), (v4l2PixFmtSgbrg12, mediaBusFmtSgbrg12_1x12),
    (v4l2PixFmtSgrbg12, mediaBusFmtSgrbg12_1x12), (v4l2PixFmtSrggb12, mediaBusFmtSrggb12_1x12),
    (v4l2PixFmtY12, mediaBusFmtY12_1x12)]

/-- The row `csis_s_fmt` picks; `format` is an `int64_t`. -/
def csisSFmtRow (format : BitVec 64) : Option CsisPixFormat :=
  match csisSFmtCodes.find? fun row => row.1.setWidth 64 == format with
  | none => none
  | some row => findCsisFormat row.2

structure CsiSamFormat where
  format : BitVec 64
  width : U32
  height : U32
  deriving DecidableEq, Repr

def csisSFmt (fmt : CsiSamFormat) (dev : CsiDev ρ) : CsiDev ρ × Ret :=
  match csisSFmtRow fmt.format with
  | none => (dev, .error .einval)
  | some csisFormat =>
      let format := { dev.state.format with width := fmt.width, height := fmt.height }
      let dev := { dev with state := { dev.state with csisFmt := csisFormat, format := format } }
      (mipiCsisSetParams (dispMixGasketConfig dev), .ok ())

def csisSHdr (enable : Bool) (dev : CsiDev ρ) : CsiDev ρ :=
  { dev with hdr := enable }

def mipiCsisSStream (enable : Bool) (dev : CsiDev ρ) : CsiDev ρ :=
  if enable then mipiCsisStartStream dev else mipiCsisStopStream dev

/-- What the device tree and the hardware give `mipi_csis_probe`. -/
structure CsisBoard (ρ : Type) where
  sensor : ρ
  remoteSensor : Bool
  maxNumLanes : U32
  numLanes : U32
  hsSettle : U32
  clkSettle : U32
  wclkExt : Bool
  regs : CsisReg → U32
  gasket : GasketReg → U32

/-- `mipi_csis_probe` with the initial format of `mipi_csis_subdev_init`. -/
def mipiCsisProbe (board : CsisBoard ρ) : Except Errno (CsiDev ρ) :=
  if board.numLanes = 0 ∨ board.maxNumLanes < board.numLanes then .error .einval
  else
    .ok
      { state :=
          { csisFmt := mipiCsisFormat0
            format := ⟨mipiCsisFormat0.code, 1920, 1080⟩
            remoteSensor := board.remoteSensor
            sensor := board.sensor }
        hdr := false
        numLanes := board.numLanes
        hsSettle := board.hsSettle
        clkSettle := board.clkSettle
        wclkExt := board.wclkExt
        regs := board.regs
        gasket := board.gasket }

/-- The operations that reach the receiver through its pad, its stream operation and
`csis_priv_ioctl`. -/
inductive CsisOp where
  | setFmt (mf : MbusFramefmt)
  | getFmt
  | sStream (enable : Bool)
  | sFmt (fmt : CsiSamFormat)
  | sHdr (enable : Bool)
  | reset
  deriving DecidableEq, Repr

def csisStep (ops : PadOps ρ) (dev : CsiDev ρ) : CsisOp → CsiDev ρ
  | .setFmt mf => { dev with state := (mipiCsisSetFmt ops dev.state mf).1 }
  | .getFmt => { dev with state := (mipiCsisGetFmt ops dev.state).1 }
  | .sStream enable => mipiCsisSStream enable dev
  | .sFmt fmt => (csisSFmt fmt dev).1
  | .sHdr enable => csisSHdr enable dev
  | .reset => mipiCsisSwReset dev

@[simp] theorem mipiCsisSStream_toCsiConf (enable : Bool) (dev : CsiDev ρ) :
    (mipiCsisSStream enable dev).toCsiConf = dev.toCsiConf := by
  cases enable
  · exact mipiCsisStopStream_toCsiConf dev
  · exact mipiCsisStartStream_toCsiConf dev

/-- The device tree's part of the data. -/
def fixedPart (conf : CsiConf ρ) : U32 × U32 × U32 :=
  (conf.numLanes, conf.hsSettle, conf.clkSettle)

theorem csisStep_fixedPart (ops : PadOps ρ) (dev : CsiDev ρ) (op : CsisOp) :
    fixedPart (csisStep ops dev op).toCsiConf = fixedPart dev.toCsiConf := by
  cases op with
  | setFmt mf => rfl
  | getFmt => rfl
  | sHdr enable => rfl
  | reset => rfl
  | sStream enable => rw [csisStep, mipiCsisSStream_toCsiConf]
  | sFmt fmt =>
      rw [csisStep, csisSFmt]
      split
      · rfl
      · simp [fixedPart]

theorem findCsisFormat_mem {code : U32} {fmt : CsisPixFormat}
    (h : findCsisFormat code = some fmt) : fmt ∈ mipiCsisFormats :=
  List.mem_of_find?_eq_some h

theorem csisSFmtRow_mem {format : BitVec 64} {fmt : CsisPixFormat}
    (h : csisSFmtRow format = some fmt) : fmt ∈ mipiCsisFormats := by
  rw [csisSFmtRow] at h
  split at h
  · exact absurd h nofun
  · exact findCsisFormat_mem h

theorem mipiCsisSetFmt_csisFmt (ops : PadOps ρ) {state : CsiState ρ}
    (h : state.csisFmt ∈ mipiCsisFormats) (mf : MbusFramefmt) :
    (mipiCsisSetFmt ops state mf).1.csisFmt ∈ mipiCsisFormats := by
  rw [mipiCsisSetFmt]
  split_ifs
  · exact h
  · split
    · exact h
    · split
      · next hfind => exact findCsisFormat_mem hfind
      · exact List.mem_cons_self

theorem mipiCsisGetFmt_csisFmt (ops : PadOps ρ) (state : CsiState ρ) :
    (mipiCsisGetFmt ops state).1.csisFmt = state.csisFmt := by
  rw [mipiCsisGetFmt]
  split_ifs
  · rfl
  · split <;> rfl

/-- The receiver only ever holds a row of the format table. -/
theorem csisStep_csisFmt (ops : PadOps ρ) {dev : CsiDev ρ}
    (h : dev.state.csisFmt ∈ mipiCsisFormats) (op : CsisOp) :
    (csisStep ops dev op).state.csisFmt ∈ mipiCsisFormats := by
  cases op with
  | setFmt mf => exact mipiCsisSetFmt_csisFmt ops h mf
  | getFmt =>
      change (mipiCsisGetFmt ops dev.state).1.csisFmt ∈ mipiCsisFormats
      rwa [mipiCsisGetFmt_csisFmt]
  | sHdr enable => exact h
  | reset => exact h
  | sStream enable => rwa [csisStep, mipiCsisSStream_toCsiConf]
  | sFmt fmt =>
      rw [csisStep, csisSFmt]
      split
      · exact h
      · next row hrow => simpa using csisSFmtRow_mem hrow

end CameraPorting.Csis.StreamProgramming
