import CameraPorting.Kernel.I2c

namespace CameraPorting.SensorOv5648.Registers

open CameraPorting.Kernel.Media
open CameraPorting.Kernel.I2c

def swStandbyReg : U16 := 0x0100#16
def swResetReg : U16 := 0x0103#16
def chipIdHReg : U16 := 0x300a#16
def chipIdLReg : U16 := 0x300b#16
def padOen1Reg : U16 := 0x3001#16
def padOen2Reg : U16 := 0x3002#16
def padPkReg : U16 := 0x3011#16
def aPwcPkO0Reg : U16 := 0x3013#16
def mipiScCtrl0Reg : U16 := 0x3018#16
def pllCtrl0Reg : U16 := 0x3034#16
def pllCtrl1Reg : U16 := 0x3035#16
def pllMulReg : U16 := 0x3036#16
def pllDivReg : U16 := 0x3037#16
def pllsMulReg : U16 := 0x303b#16
def pllsCtrlReg : U16 := 0x303c#16
def pllsDivReg : U16 := 0x303d#16
def srbCtrlReg : U16 := 0x3106#16
def exposureCtrlHhReg : U16 := 0x3500#16
def exposureCtrlHReg : U16 := 0x3501#16
def exposureCtrlLReg : U16 := 0x3502#16
def manualCtrlReg : U16 := 0x3503#16
def gainCtrlHReg : U16 := 0x350a#16
def gainCtrlLReg : U16 := 0x350b#16
def aecCtrl0Reg : U16 := 0x3a00#16
def cropStartXHReg : U16 := 0x3800#16
def cropStartXLReg : U16 := 0x3801#16
def cropStartYHReg : U16 := 0x3802#16
def cropStartYLReg : U16 := 0x3803#16
def cropEndXHReg : U16 := 0x3804#16
def cropEndXLReg : U16 := 0x3805#16
def cropEndYHReg : U16 := 0x3806#16
def cropEndYLReg : U16 := 0x3807#16
def outputSizeXHReg : U16 := 0x3808#16
def outputSizeXLReg : U16 := 0x3809#16
def outputSizeYHReg : U16 := 0x380a#16
def outputSizeYLReg : U16 := 0x380b#16
def htsHReg : U16 := 0x380c#16
def htsLReg : U16 := 0x380d#16
def vtsHReg : U16 := 0x380e#16
def vtsLReg : U16 := 0x380f#16
def offsetXHReg : U16 := 0x3810#16
def offsetXLReg : U16 := 0x3811#16
def offsetYHReg : U16 := 0x3812#16
def offsetYLReg : U16 := 0x3813#16
def subIncXReg : U16 := 0x3814#16
def subIncYReg : U16 := 0x3815#16
def tc20Reg : U16 := 0x3820#16
def tc21Reg : U16 := 0x3821#16
def psramCtrl1Reg : U16 := 0x3f01#16
def psramCtrlfReg : U16 := 0x3f0f#16
def blcCtrl1Reg : U16 := 0x4001#16
def blcCtrl2Reg : U16 := 0x4002#16
def blcLineNumReg : U16 := 0x4004#16
def blcCtrl5Reg : U16 := 0x4005#16
def mipiCtrl0Reg : U16 := 0x4800#16
def ispCtrl0Reg : U16 := 0x5000#16
def ispCtrl1Reg : U16 := 0x5001#16
def ispCtrl2Reg : U16 := 0x5002#16
def ispCtrl3Reg : U16 := 0x5003#16
def ispCtrl4Reg : U16 := 0x5004#16
def ispCtrl1fReg : U16 := 0x501f#16
def ispCtrl3dReg : U16 := 0x503d#16
def ispCtrl4bReg : U16 := 0x504b#16
def awbCtrlReg : U16 := 0x5180#16
def gainRedManHReg : U16 := 0x5186#16
def gainRedManLReg : U16 := 0x5187#16
def gainBlueManHReg : U16 := 0x518a#16
def gainBlueManLReg : U16 := 0x518b#16

def genmask (high low : Nat) : U32 :=
  (0xffffffff#32 <<< low) &&& (0xffffffff#32 >>> (31 - high))

/-- `BIT(n)` in a register. -/
def bit (n : Nat) : U8 := 1#8 <<< n

/-- The bits from 8 up to `high` of a value, for the high register of a pair. -/
def highBits (high : Nat) (v : U32) : U8 := ((v &&& genmask high 8) >>> 8).setWidth 8

/-- The low byte of a value, for the low register of a pair. -/
def lowBits (v : U32) : U8 := (v &&& genmask 7 0).setWidth 8

/-- A value placed into the field from `low` to `high` of a register. -/
def fieldBits (high low : Nat) (v : U32) : U8 := ((v <<< low) &&& genmask high low).setWidth 8

def cropStartXH (v : U32) : U8 := highBits 11 v
def cropStartXL (v : U32) : U8 := lowBits v
def cropStartYH (v : U32) : U8 := highBits 11 v
def cropStartYL (v : U32) : U8 := lowBits v
def cropEndXH (v : U32) : U8 := highBits 11 v
def cropEndXL (v : U32) : U8 := lowBits v
def cropEndYH (v : U32) : U8 := highBits 11 v
def cropEndYL (v : U32) : U8 := lowBits v
def outputSizeXH (v : U32) : U8 := highBits 11 v
def outputSizeXL (v : U32) : U8 := lowBits v
def outputSizeYH (v : U32) : U8 := highBits 11 v
def outputSizeYL (v : U32) : U8 := lowBits v
def htsH (v : U32) : U8 := highBits 12 v
def htsL (v : U32) : U8 := lowBits v
def vtsH (v : U32) : U8 := highBits 15 v
def vtsL (v : U32) : U8 := lowBits v
def offsetXH (v : U32) : U8 := highBits 11 v
def offsetXL (v : U32) : U8 := lowBits v
def offsetYH (v : U32) : U8 := highBits 11 v
def offsetYL (v : U32) : U8 := lowBits v
def gainCtrlH (v : U32) : U8 := highBits 9 v
def gainCtrlL (v : U32) : U8 := lowBits v
def gainRedManH (v : U32) : U8 := highBits 11 v
def gainRedManL (v : U32) : U8 := lowBits v
def gainBlueManH (v : U32) : U8 := highBits 11 v
def gainBlueManL (v : U32) : U8 := lowBits v

def exposureCtrlHh (v : U32) : U8 := ((v &&& genmask 19 16) >>> 16).setWidth 8
def exposureCtrlH (v : U32) : U8 := highBits 15 v
def exposureCtrlL (v : U32) : U8 := lowBits v

def exposureCtrlHhValue (v : U32) : U32 := (v <<< 16) &&& genmask 19 16
def exposureCtrlHValue (v : U32) : U32 := (v <<< 8) &&& genmask 15 8
def exposureCtrlLValue (v : U32) : U32 := v &&& genmask 7 0
def gainCtrlHValue (v : U32) : U32 := (v <<< 8) &&& genmask 9 8
def gainCtrlLValue (v : U32) : U32 := v &&& genmask 7 0

def subIncXOdd (v : U32) : U8 := fieldBits 7 4 v
def subIncXEven (v : U32) : U8 := fieldBits 3 0 v
def subIncYOdd (v : U32) : U8 := fieldBits 7 4 v
def subIncYEven (v : U32) : U8 := fieldBits 3 0 v

def pllCtrl0PllChargePump (v : U32) : U8 := fieldBits 6 4 v
def pllCtrl0Bits (v : U32) : U8 := fieldBits 3 0 v
def pllCtrl1SysDiv (v : U32) : U8 := fieldBits 7 4 v
def pllCtrl1MipiDiv (v : U32) : U8 := fieldBits 3 0 v
def pllMul (v : U32) : U8 := fieldBits 7 0 v
def pllDivRootDiv (v : U32) : U8 := fieldBits 4 4 (v - 1#32)
def pllDivPllPreDiv (v : U32) : U8 := fieldBits 3 0 v
def pllsMul (v : U32) : U8 := fieldBits 4 0 v
def pllsCtrlPllChargePump (v : U32) : U8 := fieldBits 6 4 v
def pllsCtrlSysDiv (v : U32) : U8 := fieldBits 3 0 v
def pllsDivPllsPreDiv (v : U32) : U8 := fieldBits 5 4 v
def pllsDivPllsDivR (v : U32) : U8 := fieldBits 2 2 (v - 1#32)
def pllsDivPllsSelDiv (v : U32) : U8 := fieldBits 1 0 v
def srbCtrlSclkDiv (v : U32) : U8 := fieldBits 3 2 v
def srbCtrlSclkArbiterEn : U8 := bit 0

def mipiScCtrl0MipiLanes (v : U32) : U8 := fieldBits 7 5 v
def blcCtrl1StartLine (v : U32) : U8 := fieldBits 5 0 v
def blcCtrl2ResetFrameNum (v : U32) : U8 := fieldBits 5 0 v
def blcLineNum (v : U32) : U8 := fieldBits 7 0 v
def manualCtrlFrameDelay (v : U32) : U8 := fieldBits 5 4 v

def swStandbyStreamOn : U8 := bit 0
def swResetReset : U8 := bit 0
def chipIdHValue : U8 := 0x56#8
def chipIdLValue : U8 := 0x48#8
def padPkDriveStrength1x : U8 := 0#8
def padPkFrexN : U8 := bit 1
def aPwcPkO0BpRegulatorN : U8 := bit 3
def mipiScCtrl0PhyLpRxPd : U8 := bit 3
def mipiScCtrl0MipiEn : U8 := bit 2
def mipiCtrl0ClkLaneAutogate : U8 := bit 5
def mipiCtrl0LaneSelectLane1 : U8 := 0#8
def mipiCtrl0IdleLp11 : U8 := bit 2
def blcCtrl2AutoEn : U8 := bit 6
def blcCtrl5UpdateEn : U8 := bit 1
def ispCtrl0BlackCorrectEn : U8 := bit 2
def ispCtrl0WhiteCorrectEn : U8 := bit 1
def ispCtrl1AwbEn : U8 := bit 0
def ispCtrl2WinEn : U8 := bit 6
def ispCtrl2AwbGainEn : U8 := bit 0
def ispCtrl3BufEn : U8 := bit 3
def ispCtrl3BinAutoEn : U8 := bit 1
def ispCtrl1fOutputEn : U8 := 3#8
def ispCtrl4bPostBinHEn : U8 := bit 5
def ispCtrl4bPostBinVEn : U8 := bit 4
def aecCtrl0Debug : U8 := bit 6
def aecCtrl0StartSelEn : U8 := bit 3
def manualCtrlAgcManualEn : U8 := bit 1
def manualCtrlAecManualEn : U8 := bit 0
def awbCtrlGainManualEn : U8 := bit 3
def tc20Debug : U8 := bit 6
def tc20FlipVertIspEn : U8 := bit 2
def tc20FlipVertSensorEn : U8 := bit 1
def tc20BinningVertEn : U8 := bit 0
def tc21FlipHorzIspEn : U8 := bit 2
def tc21FlipHorzSensorEn : U8 := bit 1
def tc21BinningHorzEn : U8 := bit 0
def ispCtrl3dPatternEn : U8 := bit 7
def ispCtrl3dRollingBarEn : U8 := bit 6
def ispCtrl3dPatternColorBars : U8 := 0#8
def ispCtrl3dPatternRandomData : U8 := 1#8
def ispCtrl3dPatternColorSquares : U8 := 2#8

end CameraPorting.SensorOv5648.Registers
