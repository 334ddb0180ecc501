import CameraPorting.Kernel.PadEnumeration
import CameraPorting.SensorOv5648.RegisterAccess

namespace CameraPorting.SensorOv5648.Sensor

open CameraPorting.Kernel.Media
open CameraPorting.Kernel.I2c
open CameraPorting.Kernel.PadEnumeration
open CameraPorting.SensorOv5648.Registers
open CameraPorting.SensorOv5648.Modes
open CameraPorting.SensorOv5648.RegisterAccess

/-- The enable counts of the supplies and the clock, and the outcomes of the
enable calls to come; after these every one succeeds. The kernel refuses to disable
at a count of zero, so a count never goes below it. -/
structure Supplies where
  dovdd : Nat
  avdd : Nat
  dvdd : Nat
  xvclk : Nat
  faults : List (Option Errno)

structure Ov5648Ctrls where
  exposureManual : Bool
  exposure : U32
  gainAuto : Bool
  gain : U32
  whiteBalanceAuto : Bool
  redBalance : U32
  blueBalance : U32
  hflip : Bool
  vflip : Bool
  testPattern : Nat
  deriving DecidableEq, Repr

inductive Ov5648Cluster where
  | exposureAuto | autogain | autoWhiteBalance | hflip | vflip | testPattern
  deriving DecidableEq, Repr

/-- `struct ov5648`. `hasAvdd` says whether an AVDD supply is given;
`linkFreq` is the menu index of the link frequency control; `suspended` is
`pm_runtime_suspended`. -/
structure Ov5648 where
  client : I2cClient Chip
  supplies : Supplies
  hasAvdd : Bool
  xvclkRate : Nat
  numDataLanes : U32
  linkFrequencies : List Nat
  mode : Ov5648Mode
  mbusCode : U32
  streaming : Bool
  ctrls : Ov5648Ctrls
  linkFreq : Nat
  pixelRate : Nat
  tryFmt : MbusFramefmt
  pmEnabled : Bool
  suspended : Bool

abbrev SensorRoutine (α : Type) := Driver Ov5648 α

def onClient {α : Type} (x : Routine α) : SensorRoutine α := fun s =>
  let (r, client) := x s.client
  (r, { s with client := client })

/-- `ov5648_state_mipi_configure`. The pixel rate control is clamped to its
range. -/
def ov5648StateMipiConfigure (mode : Ov5648Mode) (mbusCode : U32) : SensorRoutine Unit := do
  let s ← get
  let mipiClkRate := ov5648ModeMipiClkRate s.xvclkRate mode mbusCode
  if mipiClkRate = 0 then throw .einval
  let i := ov5648LinkFreqMenu.idxOf mipiClkRate
  if i ≠ ov5648LinkFreqMenu.length ∧ mipiClkRate ∈ s.linkFrequencies then
    modify fun s => { s with linkFreq := i }
  if is8Bit mbusCode then setPixelRate mipiClkRate 8
  else if is10Bit mbusCode then setPixelRate mipiClkRate 10
  else throw .einval
where
  setPixelRate (mipiClkRate bitsPerSample : Nat) : SensorRoutine Unit :=
    modify fun s => { s with
      pixelRate := max 1 (min 2147483647
        (mipiClkRate * 2 * s.numDataLanes.toNat / bitsPerSample)) }

def ov5648StateConfigure (mode : Ov5648Mode) (mbusCode : U32) : SensorRoutine Unit := do
  let s ← get
  if s.streaming then throw .ebusy
  if s.pmEnabled && !s.suspended then onClient (ov5648ModeConfigure mode mbusCode)
  ov5648StateMipiConfigure mode mbusCode
  modify fun s => { s with mode := mode, mbusCode := mbusCode }

def ov5648SensorInit : SensorRoutine Unit := do
  onClient ov5648SwReset
  onClient (ov5648SwStandby true)
  onClient ov5648ChipIdCheck
  let s ← get
  onClient (ov5648AvddInternalPower (!s.hasAvdd))
  onClient (ov5648WriteSequence ov5648InitSequence)
  onClient ov5648PadConfigure
  onClient (ov5648MipiConfigure s.numDataLanes)
  onClient ov5648IspConfigure
  onClient ov5648BlackLevelConfigure
  let s ← get
  ov5648StateConfigure s.mode s.mbusCode

def supplyEnable (enable : Supplies → Supplies) : SensorRoutine Unit := fun s =>
  match s.supplies.faults with
  | [] => (.ok (), { s with supplies := enable s.supplies })
  | none :: rest =>
      (.ok (), { s with supplies := { enable s.supplies with faults := rest } })
  | some e :: rest => (.error e, { s with supplies := { s.supplies with faults := rest } })

/-- What follows the label `disable` of `ov5648_sensor_power`; none of it is checked
for an error. -/
def powerOff (s : Ov5648) : Ov5648 :=
  { s with supplies := { s.supplies with
      xvclk := s.supplies.xvclk - 1
      dvdd := s.supplies.dvdd - 1
      avdd := if s.hasAvdd then s.supplies.avdd - 1 else s.supplies.avdd
      dovdd := s.supplies.dovdd - 1 } }

/-- The power-up half of `ov5648_sensor_power`. With its clock and supplies the
sensor starts from the reset image. -/
def powerOn : SensorRoutine Unit := do
  let s ← get
  supplyEnable fun p => { p with dovdd := p.dovdd + 1 }
  if s.hasAvdd then supplyEnable fun p => { p with avdd := p.avdd + 1 }
  supplyEnable fun p => { p with dvdd := p.dvdd + 1 }
  supplyEnable fun p => { p with xvclk := p.xvclk + 1 }
  modify fun s => { s with client := { s.client with
    chip := { s.client.chip with regs := s.client.chip.resetImage } } }
  ov5648SensorInit

def ov5648SensorPower (on : Bool) : SensorRoutine Unit := fun s =>
  if on then
    match powerOn s with
    | (.ok (), s) => (.ok (), s)
    | (.error e, s) => (.error e, powerOff s)
  else (.ok (), powerOff s)

/-- `ov5648_s_ctrl` for the first control of a cluster. `vals` are the values the
control framework passes, and `exposureIsNew` is the flag `is_new` of the exposure
control. -/
def ov5648SCtrl (cluster : Ov5648Cluster) (vals : Ov5648Ctrls) (exposureIsNew : Bool) :
    SensorRoutine Unit := do
  let s ← get
  if s.suspended then return ()
  onClient (setCluster cluster vals exposureIsNew)
where
  /-- The cases of its `switch`. -/
  setCluster (cluster : Ov5648Cluster) (vals : Ov5648Ctrls) (exposureIsNew : Bool) :
      Routine Unit :=
    match cluster with
    | .exposureAuto => do
        ov5648ExposureAutoConfigure (!vals.exposureManual)
        if vals.exposureManual && exposureIsNew then
          ov5648ExposureConfigure vals.exposureManual vals.exposure
    | .autogain => do
        ov5648GainAutoConfigure vals.gainAuto
        if !vals.gainAuto then ov5648GainConfigure vals.gainAuto vals.gain
    | .autoWhiteBalance => do
        ov5648WhiteBalanceAutoConfigure vals.whiteBalanceAuto
        if !vals.whiteBalanceAuto then
          ov5648WhiteBalanceConfigure vals.whiteBalanceAuto vals.redBalance vals.blueBalance
    | .hflip => ov5648FlipHorzConfigure vals.hflip
    | .vflip => ov5648FlipVertConfigure vals.vflip
    | .testPattern => ov5648TestPatternConfigure vals.testPattern

def ov5648Clusters : List Ov5648Cluster :=
  [.exposureAuto, .autogain, .autoWhiteBalance, .hflip, .vflip, .testPattern]

/-- `__v4l2_ctrl_handler_setup`: `s_ctrl` for every cluster, with the current
values marked as new. -/
def v4l2CtrlHandlerSetup : List Ov5648Cluster → SensorRoutine Unit
  | [] => pure ()
  | cluster :: rest => do
      let s ← get
      ov5648SCtrl cluster s.ctrls true
      v4l2CtrlHandlerSetup rest

def ov5648Suspend : SensorRoutine Unit := do
  let s ← get
  if s.streaming then onClient (ov5648SwStandby true)
  ov5648SensorPower false

/-- The part of `ov5648_resume` whose failure leads to its label `error_power`. -/
def resumeControls : SensorRoutine Unit := do
  v4l2CtrlHandlerSetup ov5648Clusters
  let s ← get
  if s.streaming then onClient (ov5648SwStandby false)

def ov5648Resume : SensorRoutine Unit := do
  ov5648SensorPower true
  fun s =>
    match resumeControls s with
    | (.ok (), s) => (.ok (), s)
    | (.error e, s) => (.error e, powerOff s)

/-- The runtime-PM core resumes a suspended device; the device counts as not
suspended while its callback runs, and stays suspended when that fails. -/
def pmRuntimeResume : SensorRoutine Unit := fun s =>
  if s.suspended then
    match ov5648Resume { s with suspended := false } with
    | (.ok (), s) => (.ok (), s)
    | (.error e, s) => (.error e, { s with suspended := true })
  else (.ok (), s)

def pmRuntimeSuspend : SensorRoutine Unit := fun s =>
  if s.suspended then (.ok (), s)
  else
    match ov5648Suspend s with
    | (.ok (), s) => (.ok (), { s with suspended := true })
    | (.error e, s) => (.error e, s)

def ov5648ModeSize (mode : Ov5648Mode) : U32 × U32 := (mode.outputSizeX, mode.outputSizeY)

def ov5648MbusFormatFill (mbusCode : U32) (mode : Ov5648Mode) : MbusFramefmt :=
  { code := mbusCode, width := mode.outputSizeX, height := mode.outputSizeY }

def ov5648FindFormat (code : U32) : U32 :=
  if code ∈ ov5648MbusCodes then code else mediaBusFmtSbggr8_1x8

theorem findFormat_mem (code : U32) : ov5648FindFormat code ∈ ov5648MbusCodes := by
  unfold ov5648FindFormat
  split
  · assumption
  · decide

def ov5648GetFmt (s : Ov5648) (which : FormatWhence) : MbusFramefmt :=
  match which with
  | .try => s.tryFmt
  | .active => ov5648MbusFormatFill s.mbusCode s.mode

/-- `ov5648_set_fmt`; it returns the format it leaves in the caller's structure,
which a call that fails before filling it leaves as it was. -/
def ov5648SetFmt (nearest : NearestSize) (which : FormatWhence) (format : MbusFramefmt)
    (s : Ov5648) : Ov5648 × MbusFramefmt × Ret :=
  if s.streaming then (s, format, .error .ebusy)
  else
    let mbusCode := ov5648FindFormat format.code
    match nearest.pick ov5648ModeSize ov5648Modes format.width format.height with
    | none => (s, format, .error .einval)
    | some mode =>
        let filled := ov5648MbusFormatFill mbusCode mode
        match which with
        | .try => ({ s with tryFmt := filled }, filled, .ok ())
        | .active =>
            if s.mode ≠ mode ∨ s.mbusCode ≠ mbusCode then
              let (ret, s) := ov5648StateConfigure mode mbusCode s
              (s, filled, ret)
            else (s, filled, .ok ())

def ov5648EnumMbusCode (index : U32) : Except Errno U32 := enumEntry ov5648MbusCodes index

def ov5648EnumFrameSize (index : U32) : Except Errno FrameSizeRange :=
  (enumEntry ov5648Modes index).map fun mode =>
    { minWidth := mode.outputSizeX, maxWidth := mode.outputSizeX
      minHeight := mode.outputSizeY, maxHeight := mode.outputSizeY }

def modeInterval (mode : Ov5648Mode) (mbusCode : U32) : Except Errno V4l2Fract :=
  if is8Bit mbusCode then .ok mode.frameInterval.1
  else if is10Bit mbusCode then .ok mode.frameInterval.2
  else .error .einval

def ov5648EnumFrameInterval (code width height index : U32) : Except Errno V4l2Fract :=
  if 0 < index.toNat then .error .einval
  else
    match findMode 0 ov5648Modes with
    | none => .error .einval
    | some mode => modeInterval mode code
where
  /-- The loop over the modes; `intervalIndex` counts those of the size. -/
  findMode (intervalIndex : Nat) : List Ov5648Mode → Option Ov5648Mode
    | [] => none
    | mode :: rest =>
        if mode.outputSizeX = width ∧ mode.outputSizeY = height then
          if intervalIndex = index.toNat then some mode else findMode (intervalIndex + 1) rest
        else findMode intervalIndex rest

def ov5648GFrameInterval (s : Ov5648) : Except Errno V4l2Fract := modeInterval s.mode s.mbusCode

def ov5648CtrlsInit (s : Ov5648) : Ov5648 :=
  { s with
    ctrls :=
      { exposureManual := false, exposure := 512
        gainAuto := true, gain := 16
        whiteBalanceAuto := true, redBalance := 1024, blueBalance := 1024
        hflip := false, vflip := false
        testPattern := 0 }
    linkFreq := 0
    pixelRate := 1 }

def ov5648StateInit : SensorRoutine Unit :=
  ov5648StateConfigure ov5648Mode0 mediaBusFmtSbggr8_1x8

def ov5648Probe : SensorRoutine Unit := do
  let s ← get
  if s.xvclkRate ≠ ov5648XvclkRate then throw .einval
  onClient ov5648ChipIdCheck
  modify ov5648CtrlsInit
  ov5648StateInit
  modify fun s => { s with pmEnabled := true, suspended := true }

end CameraPorting.SensorOv5648.Sensor
