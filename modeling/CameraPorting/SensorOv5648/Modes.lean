import CameraPorting.SensorOv5648.Registers

namespace CameraPorting.SensorOv5648.Modes

open CameraPorting.Kernel.Media
open CameraPorting.Kernel.I2c
open CameraPorting.SensorOv5648.Registers

/-- `struct ov5648_register_value`; the delay after the write is left out. -/
structure RegisterValue where
  address : U16
  value : U8
  deriving DecidableEq, Repr

structure Pll1Config where
  pllPreDiv : U32
  pllMul : U32
  sysDiv : U32
  rootDiv : U32
  sclkDiv : U32
  mipiDiv : U32
  deriving DecidableEq, Repr

structure Pll2Config where
  pllsPreDiv : U32
  pllsDivR : U32
  pllsMul : U32
  sysDiv : U32
  selDiv : U32
  deriving DecidableEq, Repr

structure V4l2Fract where
  numerator : U32
  denominator : U32
  deriving DecidableEq, Repr

/-- `struct ov5648_mode`. The frame intervals and the PLL1 configurations are
those for 8 bits and for 10 bits; a mode without extra registers has none in
`registerValues`. -/
structure Ov5648Mode where
  cropStartX : U32
  offsetX : U32
  outputSizeX : U32
  cropEndX : U32
  hts : U32
  cropStartY : U32
  offsetY : U32
  outputSizeY : U32
  cropEndY : U32
  vts : U32
  binningX : Bool
  binningY : Bool
  incXOdd : U32
  incXEven : U32
  incYOdd : U32
  incYEven : U32
  frameInterval : V4l2Fract × V4l2Fract
  pll1Config : Pll1Config × Pll1Config
  pll2Config : Pll2Config
  registerValues : List RegisterValue
  deriving DecidableEq, Repr

def ov5648XvclkRate : Nat := 24000000

def ov5648Pll1ConfigNative8Bits : Pll1Config := ⟨3, 84, 2, 1, 1, 1⟩

def ov5648Pll1ConfigNative10Bits : Pll1Config := ⟨3, 105, 2, 1, 1, 1⟩

def ov5648Pll2ConfigNative : Pll2Config := ⟨3, 1, 25, 1, 1⟩

/-- A mode with the native clocks and no binning; `inc` is the odd increment of
both axes. -/
def nativeMode (cropStartX offsetX outputSizeX cropEndX hts : U32)
    (cropStartY offsetY outputSizeY cropEndY vts : U32) (inc : U32)
    (interval : V4l2Fract) : Ov5648Mode :=
  { cropStartX := cropStartX, offsetX := offsetX, outputSizeX := outputSizeX
    cropEndX := cropEndX, hts := hts
    cropStartY := cropStartY, offsetY := offsetY, outputSizeY := outputSizeY
    cropEndY := cropEndY, vts := vts
    binningX := false, binningY := false
    incXOdd := inc, incXEven := 1, incYOdd := inc, incYEven := 1
    frameInterval := (interval, interval)
    pll1Config := (ov5648Pll1ConfigNative8Bits, ov5648Pll1ConfigNative10Bits)
    pll2Config := ov5648Pll2ConfigNative
    registerValues := [] }

/-- `ov5648_modes`; the three small sizes bin horizontally. -/
def ov5648Modes : List Ov5648Mode :=
  [nativeMode 16 0 2592 2607 2816 6 0 1944 1949 1984 1 ⟨1, 15⟩,
    nativeMode 512 0 1600 2111 2816 378 0 1200 1577 1984 1 ⟨1, 15⟩,
    nativeMode 352 0 1920 2271 2816 438 0 1080 1517 1984 1 ⟨1, 15⟩,
    { nativeMode 16 8 1280 2607 1912 6 6 960 1949 1496 3 ⟨1, 30⟩ with binningX := true },
    { nativeMode 16 8 1280 2607 1912 254 2 720 1701 1496 3 ⟨1, 30⟩ with binningX := true },
    { nativeMode 0 8 640 2623 1896 0 2 480 1953 984 7 ⟨1, 30⟩ with binningX := true }]

def ov5648Mode0 : Ov5648Mode := nativeMode 16 0 2592 2607 2816 6 0 1944 1949 1984 1 ⟨1, 15⟩

def ov5648MbusCodes : List U32 :=
  [mediaBusFmtSbggr8_1x8, mediaBusFmtSgbrg8_1x8, mediaBusFmtSgrbg8_1x8,
    mediaBusFmtSrggb8_1x8, mediaBusFmtSbggr10_1x10, mediaBusFmtSgbrg10_1x10,
    mediaBusFmtSgrbg10_1x10, mediaBusFmtSrggb10_1x10]

/-- The codes of 8 bits, as the `switch` statements of the driver group them. -/
def is8Bit (code : U32) : Bool :=
  [mediaBusFmtSbggr8_1x8, mediaBusFmtSgbrg8_1x8, mediaBusFmtSgrbg8_1x8,
    mediaBusFmtSrggb8_1x8].contains code

def is10Bit (code : U32) : Bool :=
  [mediaBusFmtSbggr10_1x10, mediaBusFmtSgbrg10_1x10, mediaBusFmtSgrbg10_1x10,
    mediaBusFmtSrggb10_1x10].contains code

def ov5648InitSequence : List RegisterValue :=
  [⟨psramCtrl1Reg, 0x0d#8⟩, ⟨psramCtrlfReg, 0xf5#8⟩]

def ov5648LinkFreqMenu : List Nat := [210000000, 168000000]

def ov5648TestPatternBits : List U8 :=
  [0#8, ispCtrl3dPatternEn ||| ispCtrl3dPatternRandomData,
    ispCtrl3dPatternEn ||| ispCtrl3dPatternColorBars,
    ispCtrl3dPatternEn ||| ispCtrl3dRollingBarEn ||| ispCtrl3dPatternColorBars,
    ispCtrl3dPatternEn ||| ispCtrl3dPatternColorSquares,
    ispCtrl3dPatternEn ||| ispCtrl3dRollingBarEn ||| ispCtrl3dPatternColorSquares]

theorem bits_of_mem_mbusCodes {code : U32} (h : code ∈ ov5648MbusCodes) :
    is8Bit code = true ∨ is8Bit code = false ∧ is10Bit code = true := by
  simp only [ov5648MbusCodes, List.mem_cons, List.mem_nil_iff, or_false] at h
  rcases h with rfl | rfl | rfl | rfl | rfl | rfl | rfl | rfl
  · exact .inl rfl
  · exact .inl rfl
  · exact .inl rfl
  · exact .inl rfl
  · exact .inr ⟨rfl, rfl⟩
  · exact .inr ⟨rfl, rfl⟩
  · exact .inr ⟨rfl, rfl⟩
  · exact .inr ⟨rfl, rfl⟩

end CameraPorting.SensorOv5648.Modes
