import CameraPorting.Kernel.PadEnumeration
import CameraPorting.SensorImx219.RegisterLists
import Mathlib.Tactic.Simps.Basic

namespace CameraPorting.SensorImx219.Driver

open CameraPorting.Kernel.Media
open CameraPorting.Kernel.I2c
open CameraPorting.Kernel.PadEnumeration
open CameraPorting.SensorImx219.Sensor hiding imx219GetFormatCode imx219GetPadFormat
  imx219SetPadFormat updateExposure updateLimits
open CameraPorting.SensorImx219.RegisterLists

structure RegWrite where
  reg : U16
  len : Nat
  val : U32
  deriving DecidableEq, Repr

/-- The registers of the sensor, their values after a power-up, and the writes the
driver has asked for, the latest first. -/
structure Imx219Chip where
  regs : U16 → U8
  resetRegs : U16 → U8
  requests : List RegWrite

abbrev Imx219Client := I2cClient Imx219Chip

/-- The low `len` bytes of a value, the high one first, stored from `reg` on. -/
def storeBytes (val : U32) : Nat → U16 → (U16 → U8) → U16 → U8
  | 0, _, regs => regs
  | len + 1, reg, regs => storeBytes val len (reg + 1)
      (Function.update regs reg ((val >>> (8 * len)).setWidth 8))

def imx219WriteReg (reg : U16) (len : Nat) (val : U32) : Driver Imx219Client Unit :=
  fun client =>
    if 4 < len then (.error .einval, client)
    else
      match i2cTransfer { client with chip := { client.chip with
          requests := ⟨reg, len, val⟩ :: client.chip.requests } } with
      | (.ok (), client) => (.ok (), { client with chip := { client.chip with
          regs := storeBytes val len reg client.chip.regs } })
      | (.error _, client) => (.error .eio, client)

theorem writeReg_run {len : Nat} (hlen : len ≤ 4) (reg : U16) (val : U32)
    (client : Imx219Client) :
    ∃ after : Imx219Client, after.faults = client.faults.drop 1 ∧
      after.chip.requests = ⟨reg, len, val⟩ :: client.chip.requests ∧
      ((NoFault 1 client.faults ∧ imx219WriteReg reg len val client = (.ok (), after) ∧
          after.chip.regs = storeBytes val len reg client.chip.regs) ∨
        (¬NoFault 1 client.faults ∧ imx219WriteReg reg len val client = (.error .eio, after) ∧
          after.chip.regs = client.chip.regs)) := by
  unfold imx219WriteReg
  rw [if_neg (Nat.not_lt.mpr hlen)]
  rcases i2cTransfer_run { client with chip := { client.chip with
      requests := ⟨reg, len, val⟩ :: client.chip.requests } } with
    ⟨hok, hrun⟩ | ⟨hfault, e, hrun⟩
  · rw [hrun]
    exact ⟨_, rfl, rfl, .inl ⟨hok, rfl, rfl⟩⟩
  · rw [hrun]
    exact ⟨_, rfl, rfl, .inr ⟨hfault, rfl, rfl⟩⟩

theorem writeReg_tooLong {len : Nat} (hlen : 4 < len) (reg : U16) (val : U32)
    (client : Imx219Client) : imx219WriteReg reg len val client = (.error .einval, client) := by
  unfold imx219WriteReg
  rw [if_pos hlen]

def imx219WriteRegs : List Imx219Reg → Driver Imx219Client Unit
  | [] => pure ()
  | ⟨address, val⟩ :: rest => do
      imx219WriteReg address 1 (val.setWidth 32)
      imx219WriteRegs rest

inductive Imx219Ctrl where
  | pixelRate | vblank | hblank | exposure | analogueGain | digitalGain | hflip | vflip
  | testPattern | testPatternRed | testPatternGreenr | testPatternBlue | testPatternGreenb
  deriving DecidableEq, Repr

inductive CtrlType where
  | integer | boolean | menu
  deriving DecidableEq, Repr

/-- `struct v4l2_ctrl`. `cur` is the current value; `val` is the value being set, which
stays when setting it fails. -/
structure V4l2Ctrl where
  type : CtrlType
  minimum : Int
  maximum : Int
  step : Int
  defaultValue : Int
  cur : Int
  val : Int
  readOnly : Bool
  grabbed : Bool
  deriving DecidableEq, Repr

@[simps]
def V4l2Ctrl.withVal (ctrl : V4l2Ctrl) (val : Int) : V4l2Ctrl := { ctrl with val := val }

@[simps]
def V4l2Ctrl.withCur (ctrl : V4l2Ctrl) (cur : Int) : V4l2Ctrl := { ctrl with cur := cur }

@[simps]
def V4l2Ctrl.withGrabbed (ctrl : V4l2Ctrl) (grabbed : Bool) : V4l2Ctrl :=
  { ctrl with grabbed := grabbed }

@[simps]
def V4l2Ctrl.withRange (ctrl : V4l2Ctrl) (minimum maximum step defaultValue : Int) :
    V4l2Ctrl :=
  { ctrl with
    minimum := minimum
    maximum := maximum
    step := step
    defaultValue := defaultValue }

/-- `struct imx219`, with the runtime-PM references of the driver and whether someone
else holds the device in use. -/
structure Imx219Device where
  client : Imx219Client
  fmt : MbusFramefmt
  tryFmt : MbusFramefmt
  mode : Imx219Mode
  ctrls : Imx219Ctrl → V4l2Ctrl
  streaming : Bool
  pmRefs : Int
  othersHold : Bool

abbrev Imx219Routine (α : Type) := Driver Imx219Device α

def withCtrl (s : Imx219Device) (id : Imx219Ctrl) (ctrl : V4l2Ctrl) : Imx219Device :=
  { s with ctrls := Function.update s.ctrls id ctrl }

def withClient (s : Imx219Device) (client : Imx219Client) : Imx219Device :=
  { s with client := client }

def onClient {α : Type} (x : Driver Imx219Client α) : Imx219Routine α := fun s =>
  let (r, client) := x s.client
  (r, withClient s client)

/-- `pm_runtime_get_if_in_use`; the reference it takes is returned by the same call. -/
def inUse (s : Imx219Device) : Bool := s.othersHold || decide (0 < s.pmRefs)

def imx219TestPatternVal : List U32 := [0, 2, 1, 3, 4]

def writeCtrl (id : Imx219Ctrl) (s : Imx219Device) : Driver Imx219Client Unit :=
  let val := BitVec.ofInt 32 (s.ctrls id).val
  match id with
  | .analogueGain => imx219WriteReg imx219RegAnalogGain 1 val
  | .exposure => imx219WriteReg imx219RegExposure 2 val
  | .digitalGain => imx219WriteReg imx219RegDigitalGain 2 val
  | .testPattern => imx219WriteReg imx219RegTestPattern 2
      (imx219TestPatternVal.getD (s.ctrls .testPattern).val.toNat 0)
  | .hflip | .vflip => imx219WriteReg imx219RegOrientation 1
      (BitVec.ofInt 32 (s.ctrls .hflip).val ||| BitVec.ofInt 32 (s.ctrls .vflip).val <<< 1)
  | .vblank => imx219WriteReg imx219RegVts 2 (s.mode.height + val)
  | .testPatternRed => imx219WriteReg imx219RegTestpRed 2 val
  | .testPatternGreenr => imx219WriteReg imx219RegTestpGreenr 2 val
  | .testPatternBlue => imx219WriteReg imx219RegTestpBlue 2 val
  | .testPatternGreenb => imx219WriteReg imx219RegTestpGreenb 2 val
  | .pixelRate | .hblank => throw .einval

def applyCtrl (id : Imx219Ctrl) : Imx219Routine Unit := fun s =>
  if inUse s then onClient (writeCtrl id s) s else (.ok (), s)

/-- The end of `set_ctrl` in the control framework, for a value that is valid: it is
made current when it differs and `s_ctrl` accepts it. -/
def v4l2SetCtrl (sCtrl : Imx219Routine Unit) (id : Imx219Ctrl) (val : Int) :
    Imx219Routine Unit := fun s =>
  let s := withCtrl s id ((s.ctrls id).withVal val)
  if (s.ctrls id).grabbed then (.error .ebusy, s)
  else if val = (s.ctrls id).cur then (.ok (), s)
  else
    match sCtrl s with
    | (.ok (), s) => (.ok (), withCtrl s id ((s.ctrls id).withCur val))
    | (.error e, s) => (.error e, s)

/-- The nearest value in the limits; the steps of the controls are `1`. -/
def clampTo (minimum maximum val : Int) : Int := max minimum (min maximum val)

section ClampTo

variable {minimum maximum val : Int}

theorem clampTo_mem (hlimits : minimum ≤ maximum) (val : Int) :
    minimum ≤ clampTo minimum maximum val ∧ clampTo minimum maximum val ≤ maximum := by
  unfold clampTo
  omega

theorem clampTo_of_mem (hmin : minimum ≤ val) (hmax : val ≤ maximum) :
    clampTo minimum maximum val = val := by
  unfold clampTo
  omega

theorem clampTo_of_ge (hlimits : minimum ≤ maximum) (hmax : maximum ≤ val) :
    clampTo minimum maximum val = maximum := by
  unfold clampTo
  omega

end ClampTo

/-- `__v4l2_ctrl_modify_range`: new limits first, and then a value that fits them. The
driver ignores its result. -/
def v4l2CtrlModifyRange (sCtrl : Imx219Routine Unit) (id : Imx219Ctrl)
    (minimum maximum step defaultValue : Int) (s : Imx219Device) : Imx219Device :=
  if step = 0 ∨ maximum < minimum ∨ defaultValue < minimum ∨ maximum < defaultValue then s
  else
    let ranged := withCtrl s id ((s.ctrls id).withRange minimum maximum step defaultValue)
    (v4l2SetCtrl sCtrl id (clampTo minimum maximum (s.ctrls id).cur) ranged).2

/-- The limits of the exposure for `exposureMax`. The driver's `s_ctrl` for the exposure
is `applyCtrl`. -/
def updateExposure (exposureMax : Int) (s : Imx219Device) : Imx219Device :=
  v4l2CtrlModifyRange (applyCtrl .exposure) .exposure (s.ctrls .exposure).minimum exposureMax
    (s.ctrls .exposure).step
    (if exposureMax < imx219ExposureDefault then exposureMax else imx219ExposureDefault) s

def imx219SetCtrl (id : Imx219Ctrl) : Imx219Routine Unit := fun s =>
  match id with
  | .vblank => applyCtrl .vblank
      (updateExposure (s.mode.height.toNat + (s.ctrls .vblank).val - 4) s)
  | id => applyCtrl id s

/-- What the framework makes of a value from a user: a menu index out of range is
refused. -/
def validateNew (ctrl : V4l2Ctrl) (val : Int) : Option Int :=
  match ctrl.type with
  | .integer => some (clampTo ctrl.minimum ctrl.maximum val)
  | .boolean => some (if val = 0 then 0 else 1)
  | .menu => if val < ctrl.minimum ∨ ctrl.maximum < val then none else some val

def v4l2SCtrl (id : Imx219Ctrl) (val : Int) (s : Imx219Device) : Imx219Device :=
  if (s.ctrls id).readOnly then s
  else
    match validateNew (s.ctrls id) val with
    | none => withCtrl s id ((s.ctrls id).withVal val)
    | some val => (v4l2SetCtrl (imx219SetCtrl id) id val s).2

def imx219Ctrls : List Imx219Ctrl :=
  [.pixelRate, .vblank, .hblank, .exposure, .analogueGain, .digitalGain, .hflip, .vflip,
    .testPattern, .testPatternRed, .testPatternGreenr, .testPatternBlue, .testPatternGreenb]

/-- `__v4l2_ctrl_handler_setup`: `s_ctrl` with the current value of every control that
is not read-only, up to the first failure. -/
def v4l2CtrlHandlerSetup : List Imx219Ctrl → Imx219Routine Unit
  | [] => pure ()
  | id :: rest => do
      let s ← get
      if !(s.ctrls id).readOnly then
        modify fun s => withCtrl s id ((s.ctrls id).withVal (s.ctrls id).cur)
        imx219SetCtrl id
      v4l2CtrlHandlerSetup rest

def imx219GetFormatCode (s : Imx219Device) (code : U32) : U32 :=
  let i := codeIndex code / 4 * 4 + (if (s.ctrls .vflip).val = 0 then 0 else 2) +
    (if (s.ctrls .hflip).val = 0 then 0 else 1)
  imx219Codes.getD i 0

def imx219EnumMbusCode (s : Imx219Device) (index : U32) : Except Errno U32 :=
  if imx219Codes.length / 4 ≤ index.toNat then .error .einval
  else .ok (imx219GetFormatCode s (imx219Codes.getD (index.toNat * 4) 0))

def imx219EnumFrameSize (s : Imx219Device) (code index : U32) : Except Errno FrameSizeRange :=
  match supportedModes[index.toNat]? with
  | none => .error .einval
  | some mode =>
      if code ≠ imx219GetFormatCode s s.fmt.code then .error .einval
      else .ok (.exactly mode.width mode.height)

def imx219GetPadFormat (which : FormatWhence) (s : Imx219Device) :
    Imx219Device × MbusFramefmt :=
  match which with
  | .try =>
      let tryFmt := { s.tryFmt with code := imx219GetFormatCode s s.tryFmt.code }
      ({ s with tryFmt := tryFmt }, tryFmt)
  | .active => (s, imx219UpdatePadFormat s.mode ⟨imx219GetFormatCode s s.fmt.code, 0, 0⟩)

/-- The limits that follow a mode, as `imx219_set_pad_format` updates them. -/
def updateLimits (mode : Imx219Mode) (s : Imx219Device) : Imx219Device :=
  let height : Int := mode.height.toNat
  let vtsDef : Int := mode.vtsDef.toNat
  let hblank := imx219PplDefault - mode.width.toNat
  let s := v4l2CtrlModifyRange (imx219SetCtrl .vblank) .vblank imx219VblankMin
    (imx219VtsMax - height) 1 (vtsDef - height) s
  let s := (v4l2SetCtrl (imx219SetCtrl .vblank) .vblank
    (clampTo (s.ctrls .vblank).minimum (s.ctrls .vblank).maximum (vtsDef - height)) s).2
  let s := updateExposure (vtsDef - 4) s
  v4l2CtrlModifyRange (imx219SetCtrl .hblank) .hblank hblank hblank 1 hblank s

/-- `imx219_set_pad_format`, with the format it leaves in the caller's structure. It
does not fail. -/
def imx219SetPadFormat (nearest : NearestSize) (which : FormatWhence) (format : MbusFramefmt)
    (s : Imx219Device) : Imx219Device × MbusFramefmt :=
  let code := imx219GetFormatCode s (imx219Codes.getD (codeIndex format.code) 0)
  match nearest.pick imx219ModeSize supportedModes format.width format.height with
  | none => (s, format)
  | some mode =>
      let filled := imx219UpdatePadFormat mode { format with code := code }
      match which with
      | .try => ({ s with tryFmt := filled }, filled)
      | .active =>
          if s.mode ≠ mode ∨ s.fmt.code ≠ filled.code then
            (updateLimits mode { s with fmt := filled, mode := mode }, filled)
          else (s, filled)

def raw8Codes : List U32 :=
  [mediaBusFmtSrggb8_1x8, mediaBusFmtSgrbg8_1x8, mediaBusFmtSgbrg8_1x8, mediaBusFmtSbggr8_1x8]

def raw10Codes : List U32 :=
  [mediaBusFmtSrggb10_1x10, mediaBusFmtSgrbg10_1x10, mediaBusFmtSgbrg10_1x10,
    mediaBusFmtSbggr10_1x10]

def imx219SetFramefmt (code : U32) : Driver Imx219Client Unit :=
  if code ∈ raw8Codes then imx219WriteRegs raw8FramefmtRegs
  else if code ∈ raw10Codes then imx219WriteRegs raw10FramefmtRegs
  else throw .einval

def imx219StartStreaming : Imx219Routine Unit := do
  let s ← get
  onClient (imx219WriteRegs (imx219RegList s.mode))
  onClient (imx219SetFramefmt s.fmt.code)
  v4l2CtrlHandlerSetup imx219Ctrls
  onClient (imx219WriteReg imx219RegModeSelect 1 imx219ModeStreaming)

/-- `imx219_stop_streaming`, which only reports a failed write. -/
def imx219StopStreaming (s : Imx219Device) : Imx219Device :=
  (onClient (imx219WriteReg imx219RegModeSelect 1 imx219ModeStandby) s).2

def grabFlips (grabbed : Bool) (s : Imx219Device) : Imx219Device :=
  let s := withCtrl s .vflip ((s.ctrls .vflip).withGrabbed grabbed)
  withCtrl s .hflip ((s.ctrls .hflip).withGrabbed grabbed)

/-- A sensor that no one holds is powered up when someone takes hold of it. -/
def powerUp (s : Imx219Device) : Imx219Device :=
  if inUse s then s
  else withClient s { s.client with chip := { s.client.chip with
    regs := s.client.chip.resetRegs } }

def pmRuntimeGet (s : Imx219Device) : Imx219Device := { powerUp s with pmRefs := s.pmRefs + 1 }

def pmRuntimePut (s : Imx219Device) : Imx219Device := { s with pmRefs := s.pmRefs - 1 }

/-- `imx219_set_stream`; `denied` is what `pm_runtime_get_sync` fails with. -/
def imx219SetStream (enable : Bool) (denied : Option Errno) : Imx219Routine Unit := fun s =>
  if s.streaming = enable then (.ok (), s)
  else if enable then
    match denied with
    | some e => (.error e, pmRuntimePut { s with pmRefs := s.pmRefs + 1 })
    | none =>
        match imx219StartStreaming (pmRuntimeGet s) with
        | (.ok (), s) => (.ok (), grabFlips true { s with streaming := true })
        | (.error e, s) => (.error e, pmRuntimePut s)
  else (.ok (), grabFlips false { pmRuntimePut (imx219StopStreaming s) with streaming := false })

def imx219Suspend (s : Imx219Device) : Imx219Device :=
  if s.streaming then imx219StopStreaming s else s

def imx219Resume : Imx219Routine Unit := fun s =>
  if s.streaming then
    match imx219StartStreaming s with
    | (.ok (), s) => (.ok (), s)
    | (.error e, s) => (.error e, { imx219StopStreaming s with streaming := false })
  else (.ok (), s)

def newCtrl (type : CtrlType) (minimum maximum defaultValue : Int) : V4l2Ctrl :=
  { type := type, minimum := minimum, maximum := maximum, step := 1
    defaultValue := defaultValue, cur := defaultValue, val := defaultValue
    readOnly := false, grabbed := false }

def imx219InitControls (mode : Imx219Mode) : Imx219Ctrl → V4l2Ctrl
  | .pixelRate => { newCtrl .integer 182400000 182400000 182400000 with readOnly := true }
  | .vblank => newCtrl .integer imx219VblankMin (imx219VtsMax - mode.height.toNat)
      (mode.vtsDef.toNat - mode.height.toNat)
  | .hblank => { newCtrl .integer (imx219PplDefault - mode.width.toNat)
      (imx219PplDefault - mode.width.toNat) (imx219PplDefault - mode.width.toNat) with
        readOnly := true }
  | .exposure => newCtrl .integer 4 (mode.vtsDef.toNat - 4)
      (if (mode.vtsDef.toNat : Int) - 4 < imx219ExposureDefault then mode.vtsDef.toNat - 4
        else imx219ExposureDefault)
  | .analogueGain => newCtrl .integer 0 232 0
  | .digitalGain => newCtrl .integer 0x0100 0x0fff 0x0100
  | .hflip | .vflip => newCtrl .boolean 0 1 0
  | .testPattern => newCtrl .menu 0 4 0
  | .testPatternRed | .testPatternGreenr | .testPatternBlue | .testPatternGreenb =>
      newCtrl .integer 0 0x03ff 0x03ff

def imx219Mode0 : Imx219Mode := ⟨3280, 2464, imx219Vts15fps⟩

def probedDevice (client : Imx219Client) (tryFmt : MbusFramefmt) : Imx219Device :=
  { client := client
    fmt := ⟨mediaBusFmtSrggb10_1x10, 3280, 2464⟩
    tryFmt := tryFmt
    mode := imx219Mode0
    ctrls := imx219InitControls imx219Mode0
    streaming := false
    pmRefs := 0
    othersHold := false }

/-- What users, the media core and the power management do to the driver. -/
inductive Imx219Op where
  | sCtrl (id : Imx219Ctrl) (val : Int)
  | setPadFormat (which : FormatWhence) (format : MbusFramefmt)
  | setStream (enable : Bool) (denied : Option Errno)
  | suspend
  | resume
  | othersHold (held : Bool)

def imx219Step (nearest : NearestSize) (s : Imx219Device) : Imx219Op → Imx219Device
  | .sCtrl id val => v4l2SCtrl id val s
  | .setPadFormat which format => (imx219SetPadFormat nearest which format s).1
  | .setStream enable denied => (imx219SetStream enable denied s).2
  | .suspend => imx219Suspend s
  | .resume => (imx219Resume s).2
  | .othersHold held => { (if held then powerUp s else s) with othersHold := held }

def withMode (s : Imx219Device) (fmt : MbusFramefmt) (mode : Imx219Mode) : Imx219Device :=
  { s with fmt := fmt, mode := mode }

/-- The format that is stored for a request, with the mode that was picked for it. -/
def filledFormat (s : Imx219Device) (format : MbusFramefmt) (mode : Imx219Mode) : MbusFramefmt :=
  imx219UpdatePadFormat mode { format with
    code := imx219GetFormatCode s (imx219Codes.getD (codeIndex format.code) 0) }

def FormatChanges (s : Imx219Device) (format : MbusFramefmt) (mode : Imx219Mode) : Prop :=
  s.mode ≠ mode ∨ s.fmt.code ≠ (filledFormat s format mode).code

instance (s : Imx219Device) (format : MbusFramefmt) (mode : Imx219Mode) :
    Decidable (FormatChanges s format mode) :=
  inferInstanceAs (Decidable (_ ∨ _))

theorem setPadFormat_active {nearest : NearestSize} {format : MbusFramefmt}
    {mode : Imx219Mode} {s : Imx219Device}
    (hpick : nearest.pick imx219ModeSize supportedModes format.width format.height = some mode) :
    (FormatChanges s format mode ∧ (imx219SetPadFormat nearest .active format s).1 =
        updateLimits mode (withMode s (filledFormat s format mode) mode)) ∨
      (¬FormatChanges s format mode ∧ (imx219SetPadFormat nearest .active format s).1 = s) := by
  unfold imx219SetPadFormat
  dsimp only
  rw [hpick]
  dsimp only
  split
  · rename_i hchanges
    exact .inl ⟨hchanges, rfl⟩
  · rename_i hsame
    exact .inr ⟨hsame, rfl⟩

end CameraPorting.SensorImx219.Driver
