import CameraPorting.Kernel.Media
import Mathlib.Data.List.Basic

/-!
The format negotiation of `imx219.c`: the media bus codes and their Bayer order
under flips, the modes, and the pad format with the control limits that follow
the mode. Register tables are left out, and so are the writes to a sensor in use
that a change of a limit brings about.
-/

namespace CameraPorting.SensorImx219.Sensor

open CameraPorting.Kernel.Media

/-- `codes`: every group of four is a bit depth, with the order for no flip, a
horizontal flip, a vertical flip and both. -/
def imx219Codes : List U32 :=
  [mediaBusFmtSrggb10_1x10, mediaBusFmtSgrbg10_1x10, mediaBusFmtSgbrg10_1x10,
    mediaBusFmtSbggr10_1x10, mediaBusFmtSrggb8_1x8, mediaBusFmtSgrbg8_1x8,
    mediaBusFmtSgbrg8_1x8, mediaBusFmtSbggr8_1x8]

structure Imx219Mode where
  width : U32
  height : U32
  vtsDef : U32
  deriving DecidableEq, Repr

def imx219Vts15fps : U32 := 0x0dc6
def imx219Vts30fps1080p : U32 := 0x06e3
def imx219Vts30fpsBinned : U32 := 0x06e3
def imx219Vts30fps640x480 : U32 := 0x06e3
def imx219VtsMax : Int := 0xffff
def imx219VblankMin : Int := 4
def imx219PplDefault : Int := 3448
def imx219ExposureDefault : Int := 0x640

def supportedModes : List Imx219Mode :=
  [⟨3280, 2464, imx219Vts15fps⟩, ⟨1920, 1080, imx219Vts30fps1080p⟩,
    ⟨1640, 1232, imx219Vts30fpsBinned⟩, ⟨640, 480, imx219Vts30fps640x480⟩]

structure CtrlRange where
  minimum : Int
  maximum : Int
  step : Int
  defaultValue : Int
  val : Int
  deriving DecidableEq, Repr

def CtrlRange.setCtrl (ctrl : CtrlRange) (val : Int) : CtrlRange :=
  { ctrl with val := max ctrl.minimum (min ctrl.maximum val) }

/-- `__v4l2_ctrl_modify_range`: new limits, to which the value is clamped. -/
def CtrlRange.modifyRange (ctrl : CtrlRange) (minimum maximum step defaultValue : Int) :
    CtrlRange :=
  CtrlRange.setCtrl ⟨minimum, maximum, step, defaultValue, ctrl.val⟩ ctrl.val

/-- `struct imx219`, without the parts that power and stream the sensor. -/
structure Imx219 where
  fmt : MbusFramefmt
  tryFmt : MbusFramefmt
  mode : Imx219Mode
  hflip : Bool
  vflip : Bool
  vblank : CtrlRange
  exposure : CtrlRange
  hblank : CtrlRange
  deriving DecidableEq, Repr

/-- The index of a code, `0` for one that is not in the table. -/
def codeIndex (code : U32) : Nat :=
  let i := imx219Codes.idxOf code
  if i ≥ imx219Codes.length then 0 else i

theorem codeIndex_lt (code : U32) : codeIndex code < 8 := by
  have hlength : imx219Codes.length = 8 := rfl
  unfold codeIndex
  dsimp only
  split <;> omega

theorem codeIndex_getD {i : Nat} (h : i < 8) : codeIndex (imx219Codes.getD i 0) = i := by
  revert i
  decide

theorem getD_codeIndex {code : U32} (hcode : code ∈ imx219Codes) :
    imx219Codes.getD (codeIndex code) 0 = code := by
  have hlt : imx219Codes.idxOf code < imx219Codes.length := List.idxOf_lt_length_of_mem hcode
  unfold codeIndex
  rw [if_neg (Nat.not_le.mpr hlt), List.getD_eq_getElem?_getD, List.getElem?_eq_getElem hlt,
    List.getElem_idxOf]
  rfl

/-- `imx219_get_format_code`: the code of the same depth whose Bayer order the flips
give. -/
def imx219GetFormatCode (s : Imx219) (code : U32) : U32 :=
  let i := codeIndex code / 4 * 4 + (if s.vflip then 2 else 0) + (if s.hflip then 1 else 0)
  imx219Codes.getD i 0

def updateExposure (s : Imx219) (exposureMax : Int) : Imx219 :=
  { s with
    exposure := s.exposure.modifyRange s.exposure.minimum exposureMax s.exposure.step
      (if exposureMax < imx219ExposureDefault then exposureMax else imx219ExposureDefault) }

/-- `imx219_set_ctrl` for the vertical blanking, called when its value changes. -/
def imx219SetCtrlVblank (before s : Imx219) : Imx219 :=
  if before.vblank.val = s.vblank.val then s
  else updateExposure s (s.mode.height.toNat + s.vblank.val - 4)

def updateLimits (s : Imx219) (mode : Imx219Mode) : Imx219 :=
  let height : Int := mode.height.toNat
  let vtsDef : Int := mode.vtsDef.toNat
  let ranged := imx219SetCtrlVblank s { s with
    vblank := s.vblank.modifyRange imx219VblankMin (imx219VtsMax - height) 1 (vtsDef - height) }
  let set := imx219SetCtrlVblank ranged { ranged with
    vblank := ranged.vblank.setCtrl (vtsDef - height) }
  let exposed := updateExposure set (vtsDef - 4)
  let hblank := imx219PplDefault - mode.width.toNat
  { exposed with hblank := exposed.hblank.modifyRange hblank hblank 1 hblank }

def imx219UpdatePadFormat (mode : Imx219Mode) (format : MbusFramefmt) : MbusFramefmt :=
  { format with width := mode.width, height := mode.height }

def imx219ModeSize (mode : Imx219Mode) : U32 × U32 := (mode.width, mode.height)

def imx219GetPadFormat (which : FormatWhence) (s : Imx219) : Imx219 × MbusFramefmt :=
  match which with
  | .try =>
      let tryFmt := { s.tryFmt with code := imx219GetFormatCode s s.tryFmt.code }
      ({ s with tryFmt := tryFmt }, tryFmt)
  | .active => (s, imx219UpdatePadFormat s.mode ⟨imx219GetFormatCode s s.fmt.code, 0, 0⟩)

/-- `imx219_set_pad_format`, with the format it leaves in the caller's structure. It
does not fail. -/
def imx219SetPadFormat (nearest : NearestSize) (which : FormatWhence) (format : MbusFramefmt)
    (s : Imx219) : Imx219 × MbusFramefmt :=
  let code := imx219GetFormatCode s (imx219Codes.getD (codeIndex format.code) 0)
  match nearest.pick imx219ModeSize supportedModes format.width format.height with
  | none => (s, format)
  | some mode =>
      let filled := imx219UpdatePadFormat mode { format with code := code }
      match which with
      | .try => ({ s with tryFmt := filled }, filled)
      | .active =>
          if s.mode ≠ mode ∨ s.fmt.code ≠ filled.code then
            (updateLimits { s with fmt := filled, mode := mode } mode, filled)
          else (s, filled)

end CameraPorting.SensorImx219.Sensor
