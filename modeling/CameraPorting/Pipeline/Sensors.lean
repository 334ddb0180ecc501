import CameraPorting.SensorImx219.Sensor
import CameraPorting.SensorOv5648.Transfers

namespace CameraPorting.Pipeline.Sensors

open CameraPorting.Kernel.Media
open CameraPorting.SensorImx219.Sensor
open CameraPorting.SensorOv5648.Registers
open CameraPorting.SensorOv5648.Modes
open CameraPorting.SensorOv5648.Sensor
open CameraPorting.SensorOv5648.PowerUp
open CameraPorting.SensorOv5648.Transfers

inductive BoardSensor where
  | ov5648 (s : Ov5648)
  | imx219 (s : Imx219)

def sensorPadOps (nearest : NearestSize) : PadOps BoardSensor where
  setFmt
    | .ov5648 s, mf =>
        let (s, mf, ret) := ov5648SetFmt nearest .active mf s
        (.ov5648 s, mf, ret)
    | .imx219 s, mf =>
        let (s, mf) := imx219SetPadFormat nearest .active mf s
        (.imx219 s, mf, .ok ())
  getFmt
    | .ov5648 s => (.ov5648 s, .ok (ov5648GetFmt s .active))
    | .imx219 s =>
        let (s, mf) := imx219GetPadFormat .active s
        (.imx219 s, .ok mf)

def activeFormat : BoardSensor → MbusFramefmt
  | .ov5648 s => ov5648GetFmt s .active
  | .imx219 s => (imx219GetPadFormat .active s).2

def givenCode : BoardSensor → U32 → U32
  | .ov5648 _, code => ov5648FindFormat code
  | .imx219 s, code => imx219GetFormatCode s (imx219Codes.getD (codeIndex code) 0)

def givenSize (nearest : NearestSize) : BoardSensor → U32 → U32 → Option (U32 × U32)
  | .ov5648 _, width, height =>
      (nearest.pick ov5648ModeSize ov5648Modes width height).map ov5648ModeSize
  | .imx219 _, width, height =>
      (nearest.pick imx219ModeSize supportedModes width height).map imx219ModeSize

/-- The codes the sensor can deliver: for the OV5648 those of its table, for the
IMX219 those of the table whose Bayer order is the one of the current flips. -/
def Delivers : BoardSensor → U32 → Prop
  | .ov5648 _, code => code ∈ ov5648MbusCodes
  | .imx219 s, code => imx219GetFormatCode s code = code

/-- When the sensor's `set_fmt` fails. -/
def SensorRefuses (nearest : NearestSize) : BoardSensor → MbusFramefmt → Prop
  | .ov5648 s, mf => SetFmtFails nearest s mf
  | .imx219 _, _ => False

/-- What the probe of the OV5648 checks. -/
def Clocked : BoardSensor → Prop
  | .ov5648 s => s.xvclkRate = ov5648XvclkRate
  | .imx219 _ => True

theorem codeIndex_getFormatCode (s : Imx219) (code : U32) :
    codeIndex (imx219GetFormatCode s code) / 4 = codeIndex code / 4 := by
  have hlt := codeIndex_lt code
  have hindex : codeIndex code / 4 * 4 + (if s.vflip then 2 else 0) +
      (if s.hflip then 1 else 0) < 8 := by
    split <;> split <;> omega
  unfold imx219GetFormatCode
  rw [codeIndex_getD hindex]
  split <;> split <;> omega

theorem getFormatCode_congr {s t : Imx219} (hv : t.vflip = s.vflip) (hh : t.hflip = s.hflip)
    {code code' : U32} (h : codeIndex code / 4 = codeIndex code' / 4) :
    imx219GetFormatCode t code = imx219GetFormatCode s code' := by
  unfold imx219GetFormatCode
  rw [hv, hh, h]

theorem getFormatCode_getFormatCode (s : Imx219) (code : U32) :
    imx219GetFormatCode s (imx219GetFormatCode s code) = imx219GetFormatCode s code :=
  getFormatCode_congr rfl rfl (codeIndex_getFormatCode s code)

theorem givenCode_eq_iff (sensor : BoardSensor) (code : U32) :
    givenCode sensor code = code ↔ Delivers sensor code := by
  cases sensor with
  | ov5648 s =>
      change ov5648FindFormat code = code ↔ code ∈ ov5648MbusCodes
      constructor
      · intro h
        rw [← h]
        exact findFormat_mem code
      · intro h
        exact if_pos h
  | imx219 s =>
      change imx219GetFormatCode s (imx219Codes.getD (codeIndex code) 0) = code ↔
        imx219GetFormatCode s code = code
      rw [getFormatCode_congr rfl rfl (congrArg (· / 4) (codeIndex_getD (codeIndex_lt code)))]

theorem setCtrlVblank_format (before s : Imx219) :
    (imx219SetCtrlVblank before s).fmt = s.fmt ∧ (imx219SetCtrlVblank before s).mode = s.mode ∧
      (imx219SetCtrlVblank before s).hflip = s.hflip ∧
      (imx219SetCtrlVblank before s).vflip = s.vflip := by
  unfold imx219SetCtrlVblank
  split
  · exact ⟨rfl, rfl, rfl, rfl⟩
  · exact ⟨rfl, rfl, rfl, rfl⟩

theorem updateLimits_format (s : Imx219) (mode : Imx219Mode) :
    (updateLimits s mode).fmt = s.fmt ∧ (updateLimits s mode).mode = s.mode ∧
      (updateLimits s mode).hflip = s.hflip ∧ (updateLimits s mode).vflip = s.vflip := by
  let height : Int := mode.height.toNat
  let vtsDef : Int := mode.vtsDef.toNat
  let ranged := imx219SetCtrlVblank s { s with
    vblank := s.vblank.modifyRange imx219VblankMin (imx219VtsMax - height) 1 (vtsDef - height) }
  obtain ⟨hfmt, hmode, hh, hv⟩ := setCtrlVblank_format s { s with
    vblank := s.vblank.modifyRange imx219VblankMin (imx219VtsMax - height) 1 (vtsDef - height) }
  obtain ⟨hfmt', hmode', hh', hv'⟩ := setCtrlVblank_format ranged { ranged with
    vblank := ranged.vblank.setCtrl (vtsDef - height) }
  exact ⟨hfmt'.trans hfmt, hmode'.trans hmode, hh'.trans hh, hv'.trans hv⟩

theorem imx219_setFmt (nearest : NearestSize) (s : Imx219) (mf : MbusFramefmt) :
    ∃ mode t, nearest.pick imx219ModeSize supportedModes mf.width mf.height = some mode ∧
      imx219SetPadFormat nearest .active mf s =
        (t, ⟨givenCode (.imx219 s) mf.code, mode.width, mode.height⟩) ∧
      activeFormat (.imx219 t) = ⟨givenCode (.imx219 s) mf.code, mode.width, mode.height⟩ := by
  obtain ⟨mode, -, hpick⟩ := nearest.pick_mem imx219ModeSize
    (show supportedModes ≠ [] by decide) mf.width mf.height
  have hactive : ∀ t : Imx219, t.mode = mode → t.fmt.code = givenCode (.imx219 s) mf.code →
      t.hflip = s.hflip → t.vflip = s.vflip →
        activeFormat (.imx219 t) = ⟨givenCode (.imx219 s) mf.code, mode.width, mode.height⟩ := by
    intro t hmode hcode hh hv
    change MbusFramefmt.mk (imx219GetFormatCode t t.fmt.code) t.mode.width t.mode.height = _
    rw [hmode, hcode, getFormatCode_congr hv hh rfl]
    congr 1
    exact getFormatCode_getFormatCode s _
  unfold imx219SetPadFormat
  rw [hpick]
  dsimp only
  split
  · obtain ⟨hfmt, hmode, hh, hv⟩ := updateLimits_format { s with
      fmt := imx219UpdatePadFormat mode { mf with code := givenCode (.imx219 s) mf.code }
      mode := mode } mode
    exact ⟨mode, _, rfl, rfl, hactive _ hmode (congrArg MbusFramefmt.code hfmt) hh hv⟩
  · rename_i hsame
    rw [not_or, not_not, not_not] at hsame
    exact ⟨mode, s, rfl, rfl, hactive s hsame.1 hsame.2 rfl rfl⟩

/-- `set_fmt` of either sensor: it is refused, or the active format is then the code
and the size the sensor takes. -/
theorem sensor_setFmt (nearest : NearestSize) {sensor : BoardSensor} (hclock : Clocked sensor)
    (mf : MbusFramefmt) :
    (¬SensorRefuses nearest sensor mf ∧ ∃ size after filled,
        givenSize nearest sensor mf.width mf.height = some size ∧
        (sensorPadOps nearest).setFmt sensor mf = (after, filled, .ok ()) ∧
        filled.code = givenCode sensor mf.code ∧
        activeFormat after = ⟨givenCode sensor mf.code, size.1, size.2⟩) ∨
      (SensorRefuses nearest sensor mf ∧ ∃ after filled e,
        (sensorPadOps nearest).setFmt sensor mf = (after, filled, .error e)) := by
  cases sensor with
  | ov5648 s =>
      rcases setFmt_outcome nearest hclock mf with
        ⟨hok, mode, -, t, hpick, hset, hmode, hcode, -⟩ | ⟨hfails, client, filled, e, hset⟩
      · refine .inl ⟨hok, ov5648ModeSize mode, .ov5648 t,
        ov5648MbusFormatFill (ov5648FindFormat mf.code) mode, ?_, ?_, rfl, ?_⟩
        · exact congrArg (Option.map ov5648ModeSize) hpick
        · change (let (s, mf, ret) := ov5648SetFmt nearest .active mf s
            (BoardSensor.ov5648 s, mf, ret)) = _
          rw [hset]
        · change ov5648MbusFormatFill t.mbusCode t.mode = _
          rw [hmode, hcode]
          rfl
      · refine .inr ⟨hfails, .ov5648 (withClient s client), filled, e, ?_⟩
        change (let (s, mf, ret) := ov5648SetFmt nearest .active mf s
          (BoardSensor.ov5648 s, mf, ret)) = _
        rw [hset]
  | imx219 s =>
      obtain ⟨mode, t, hpick, hset, hactive⟩ := imx219_setFmt nearest s mf
      refine .inl ⟨id, imx219ModeSize mode, .imx219 t,
        ⟨givenCode (.imx219 s) mf.code, mode.width, mode.height⟩, ?_, ?_, rfl, hactive⟩
      · exact congrArg (Option.map imx219ModeSize) hpick
      · change (let (s, mf) := imx219SetPadFormat nearest .active mf s
          (BoardSensor.imx219 s, mf, (.ok () : Ret))) = _
        rw [hset]

theorem sensor_getFmt (nearest : NearestSize) (sensor : BoardSensor) :
    (sensorPadOps nearest).getFmt sensor = (sensor, .ok (activeFormat sensor)) := by
  cases sensor with
  | ov5648 s => rfl
  | imx219 s => rfl

end CameraPorting.Pipeline.Sensors
