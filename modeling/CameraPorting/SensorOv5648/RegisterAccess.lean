import CameraPorting.SensorOv5648.Modes
import CameraPorting.Library.MaskedWrites

/-!
The register accesses of `ov5648.c`: its I/O helpers, the steps of the power-up
initialisation, the mode programming and the control setters. Delays are left
out.
-/

namespace CameraPorting.SensorOv5648.RegisterAccess

open CameraPorting.Kernel.Media
open CameraPorting.Kernel.I2c
open CameraPorting.SensorOv5648.Registers
open CameraPorting.SensorOv5648.Modes

/-- The registers of the sensor, and the image that a reset restores. -/
structure Chip where
  regs : U16 → U8
  resetImage : U16 → U8

/-- A byte stored at `address`; the reset bit restores every register. -/
def Chip.store (chip : Chip) (address : U16) (value : U8) : Chip :=
  if address = swResetReg ∧ value.getLsbD 0 = true then { chip with regs := chip.resetImage }
  else { chip with regs := Function.update chip.regs address value }

abbrev Routine (α : Type) := Driver (I2cClient Chip) α

def ov5648Read (address : U16) : Routine U8 := do
  i2cTransfer
  i2cTransfer
  let client ← get
  pure (client.chip.regs address)

def ov5648Write (address : U16) (value : U8) : Routine Unit := do
  i2cTransfer
  modify fun client => { client with chip := client.chip.store address value }

def ov5648WriteSequence : List RegisterValue → Routine Unit
  | [] => pure ()
  | ⟨address, value⟩ :: rest => do
      ov5648Write address value
      ov5648WriteSequence rest

def ov5648UpdateBits (address : U16) (mask bits : U8) : Routine Unit := do
  let value ← ov5648Read address
  ov5648Write address (value &&& ~~~mask ||| bits)

def ov5648SwReset : Routine Unit := ov5648Write swResetReg swResetReset

def ov5648SwStandby (standby : Bool) : Routine Unit :=
  ov5648Write swStandbyReg (if standby then 0#8 else swStandbyStreamOn)

def ov5648ChipIdCheck : Routine Unit := do
  let high ← ov5648Read chipIdHReg
  if high ≠ chipIdHValue then throw .einval
  let low ← ov5648Read chipIdLReg
  if low ≠ chipIdLValue then throw .einval

def ov5648AvddInternalPower (on : Bool) : Routine Unit :=
  ov5648Write aPwcPkO0Reg (if on then 0#8 else aPwcPkO0BpRegulatorN)

def ov5648PadConfigure : Routine Unit := do
  ov5648Write padOen1Reg 0#8
  ov5648Write padOen2Reg 0#8
  ov5648Write padPkReg (padPkDriveStrength1x ||| padPkFrexN)

def ov5648MipiConfigure (lanesCount : U32) : Routine Unit := do
  ov5648Write mipiCtrl0Reg
    (mipiCtrl0ClkLaneAutogate ||| mipiCtrl0LaneSelectLane1 ||| mipiCtrl0IdleLp11)
  ov5648Write mipiScCtrl0Reg
    (mipiScCtrl0MipiLanes lanesCount ||| mipiScCtrl0PhyLpRxPd ||| mipiScCtrl0MipiEn)

def ov5648BlackLevelConfigure : Routine Unit := do
  ov5648Write blcCtrl1Reg (blcCtrl1StartLine 2)
  ov5648Write blcCtrl2Reg (blcCtrl2AutoEn ||| blcCtrl2ResetFrameNum 5)
  ov5648Write blcLineNumReg (blcLineNum 4)
  ov5648UpdateBits blcCtrl5Reg blcCtrl5UpdateEn blcCtrl5UpdateEn

def ov5648IspConfigure : Routine Unit := do
  let bits := ispCtrl0BlackCorrectEn ||| ispCtrl0WhiteCorrectEn
  ov5648UpdateBits ispCtrl0Reg bits bits
  ov5648Write ispCtrl1Reg ispCtrl1AwbEn
  ov5648Write ispCtrl2Reg (ispCtrl2WinEn ||| ispCtrl2AwbGainEn)
  ov5648Write ispCtrl3Reg (ispCtrl3BufEn ||| ispCtrl3BinAutoEn)
  ov5648Write ispCtrl4Reg 0#8
  ov5648Write ispCtrl1fReg ispCtrl1fOutputEn
  ov5648Write ispCtrl4bReg (ispCtrl4bPostBinHEn ||| ispCtrl4bPostBinVEn)
  ov5648Write aecCtrl0Reg (aecCtrl0Debug ||| aecCtrl0StartSelEn)
  ov5648Write manualCtrlReg (manualCtrlFrameDelay 1)

/-- `ov5648_mode_pll1_rate`, in `unsigned long`. -/
def ov5648ModePll1Rate (xvclkRate : Nat) (config : Pll1Config) : Nat :=
  let rate := xvclkRate * config.pllMul.toNat % 2 ^ 64
  if config.pllPreDiv = 5 then rate * 3 % 2 ^ 64 / 2
  else if config.pllPreDiv = 7 then rate * 5 % 2 ^ 64 / 2
  else rate / config.pllPreDiv.toNat

def ov5648ModePll1Configure (mode : Ov5648Mode) (mbusCode : U32) : Routine Unit :=
  if is8Bit mbusCode then configure mode.pll1Config.1 8
  else if is10Bit mbusCode then configure mode.pll1Config.2 10
  else throw .einval
where
  /-- The writes, for the configuration and the bits of the media bus code. -/
  configure (config : Pll1Config) (bits : U32) : Routine Unit := do
    ov5648Write pllCtrl0Reg (pllCtrl0PllChargePump 1 ||| pllCtrl0Bits bits)
    ov5648Write pllDivReg (pllDivRootDiv config.rootDiv ||| pllDivPllPreDiv config.pllPreDiv)
    ov5648Write pllMulReg (pllMul config.pllMul)
    ov5648Write pllCtrl1Reg (pllCtrl1SysDiv config.sysDiv ||| pllCtrl1MipiDiv config.mipiDiv)
    ov5648Write srbCtrlReg (srbCtrlSclkDiv config.sclkDiv ||| srbCtrlSclkArbiterEn)

def ov5648ModePll2Configure (mode : Ov5648Mode) : Routine Unit := do
  let config := mode.pll2Config
  ov5648Write pllsDivReg (pllsDivPllsPreDiv config.pllsPreDiv |||
    pllsDivPllsDivR config.pllsDivR ||| pllsDivPllsSelDiv config.selDiv)
  ov5648Write pllsMulReg (pllsMul config.pllsMul)
  ov5648Write pllsCtrlReg (pllsCtrlPllChargePump 1 ||| pllsCtrlSysDiv config.sysDiv)

def ov5648ModeConfigure (mode : Ov5648Mode) (mbusCode : U32) : Routine Unit := do
  ov5648Write cropStartXHReg (cropStartXH mode.cropStartX)
  ov5648Write cropStartXLReg (cropStartXL mode.cropStartX)
  ov5648Write offsetXHReg (offsetXH mode.offsetX)
  ov5648Write offsetXLReg (offsetXL mode.offsetX)
  ov5648Write outputSizeXHReg (outputSizeXH mode.outputSizeX)
  ov5648Write outputSizeXLReg (outputSizeXL mode.outputSizeX)
  ov5648Write cropEndXHReg (cropEndXH mode.cropEndX)
  ov5648Write cropEndXLReg (cropEndXL mode.cropEndX)
  ov5648Write htsHReg (htsH mode.hts)
  ov5648Write htsLReg (htsL mode.hts)
  ov5648Write cropStartYHReg (cropStartYH mode.cropStartY)
  ov5648Write cropStartYLReg (cropStartYL mode.cropStartY)
  ov5648Write offsetYHReg (offsetYH mode.offsetY)
  ov5648Write offsetYLReg (offsetYL mode.offsetY)
  ov5648Write outputSizeYHReg (outputSizeYH mode.outputSizeY)
  ov5648Write outputSizeYLReg (outputSizeYL mode.outputSizeY)
  ov5648Write cropEndYHReg (cropEndYH mode.cropEndY)
  ov5648Write cropEndYLReg (cropEndYL mode.cropEndY)
  ov5648Write vtsHReg (vtsH mode.vts)
  ov5648Write vtsLReg (vtsL mode.vts)
  ov5648UpdateBits tc20Reg (tc20Debug ||| tc20BinningVertEn)
    (if mode.binningY then tc20BinningVertEn else 0#8)
  ov5648UpdateBits tc21Reg tc21BinningHorzEn
    (if mode.binningX then tc21BinningHorzEn else 0#8)
  ov5648Write subIncXReg (subIncXOdd mode.incXOdd ||| subIncXEven mode.incXEven)
  ov5648Write subIncYReg (subIncYOdd mode.incYOdd ||| subIncYEven mode.incYEven)
  ov5648ModePll1Configure mode mbusCode
  ov5648ModePll2Configure mode
  ov5648WriteSequence mode.registerValues

/-- `ov5648_mode_mipi_clk_rate`: zero for a code it does not know. -/
def ov5648ModeMipiClkRate (xvclkRate : Nat) (mode : Ov5648Mode) (mbusCode : U32) : Nat :=
  if is8Bit mbusCode then rate mode.pll1Config.1
  else if is10Bit mbusCode then rate mode.pll1Config.2
  else 0
where
  rate (config : Pll1Config) : Nat :=
    ov5648ModePll1Rate xvclkRate config / config.sysDiv.toNat / config.mipiDiv.toNat / 2

def ov5648ExposureAutoConfigure (enable : Bool) : Routine Unit :=
  ov5648UpdateBits manualCtrlReg manualCtrlAecManualEn
    (if enable then 0#8 else manualCtrlAecManualEn)

/-- `ov5648_exposure_configure`; `manual` says whether the exposure control is in
manual mode. -/
def ov5648ExposureConfigure (manual : Bool) (exposure : U32) : Routine Unit := do
  if !manual then throw .einval
  ov5648Write exposureCtrlHhReg (exposureCtrlHh exposure)
  ov5648Write exposureCtrlHReg (exposureCtrlH exposure)
  ov5648Write exposureCtrlLReg (exposureCtrlL exposure)

def ov5648ExposureValue : Routine U32 := do
  let exposureHh ← ov5648Read exposureCtrlHhReg
  let exposureH ← ov5648Read exposureCtrlHReg
  let exposureL ← ov5648Read exposureCtrlLReg
  pure (exposureCtrlHhValue (exposureHh.setWidth 32) |||
    exposureCtrlHValue (exposureH.setWidth 32) ||| exposureCtrlLValue (exposureL.setWidth 32))

def ov5648GainAutoConfigure (enable : Bool) : Routine Unit :=
  ov5648UpdateBits manualCtrlReg manualCtrlAgcManualEn
    (if enable then 0#8 else manualCtrlAgcManualEn)

def ov5648GainConfigure (gainAuto : Bool) (gain : U32) : Routine Unit := do
  if gainAuto then throw .einval
  ov5648Write gainCtrlHReg (gainCtrlH gain)
  ov5648Write gainCtrlLReg (gainCtrlL gain)

def ov5648GainValue : Routine U32 := do
  let gainH ← ov5648Read gainCtrlHReg
  let gainL ← ov5648Read gainCtrlLReg
  pure (gainCtrlHValue (gainH.setWidth 32) ||| gainCtrlLValue (gainL.setWidth 32))

def ov5648WhiteBalanceAutoConfigure (enable : Bool) : Routine Unit :=
  ov5648Write awbCtrlReg (if enable then 0#8 else awbCtrlGainManualEn)

def ov5648WhiteBalanceConfigure (whiteBalanceAuto : Bool) (redBalance blueBalance : U32) :
    Routine Unit := do
  if whiteBalanceAuto then throw .einval
  ov5648Write gainRedManHReg (gainRedManH redBalance)
  ov5648Write gainRedManLReg (gainRedManL redBalance)
  ov5648Write gainBlueManHReg (gainBlueManH blueBalance)
  ov5648Write gainBlueManLReg (gainBlueManL blueBalance)

def ov5648FlipVertConfigure (enable : Bool) : Routine Unit :=
  let bits := tc20FlipVertIspEn ||| tc20FlipVertSensorEn
  ov5648UpdateBits tc20Reg bits (if enable then bits else 0#8)

def ov5648FlipHorzConfigure (enable : Bool) : Routine Unit :=
  let bits := tc21FlipHorzIspEn ||| tc21FlipHorzSensorEn
  ov5648UpdateBits tc21Reg bits (if enable then bits else 0#8)

def ov5648TestPatternConfigure (index : Nat) : Routine Unit :=
  match ov5648TestPatternBits[index]? with
  | none => throw .einval
  | some bits => ov5648Write ispCtrl3dReg bits

end CameraPorting.SensorOv5648.RegisterAccess
