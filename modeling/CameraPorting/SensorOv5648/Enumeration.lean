import CameraPorting.SensorOv5648.FormatProjection

namespace CameraPorting.SensorOv5648.Enumeration

open CameraPorting.Kernel.Media
open CameraPorting.Kernel.I2c
open CameraPorting.Kernel.PadEnumeration
open CameraPorting.SensorOv5648.Modes
open CameraPorting.SensorOv5648.RegisterAccess
open CameraPorting.SensorOv5648.Sensor
open CameraPorting.SensorOv5648.LinkRates
open CameraPorting.SensorOv5648.StreamRestore
open CameraPorting.SensorOv5648.FormatProjection

/-- Code and size of the format are enumerated. -/
def Enumerated (format : MbusFramefmt) : Prop :=
  Enumerates ov5648EnumMbusCode format.code ∧
    Enumerates ov5648EnumFrameSize (.exactly format.width format.height)

def Fixed (nearest : NearestSize) (s : Ov5648) (which : FormatWhence) (format : MbusFramefmt) :
    Prop :=
  (ov5648SetFmt nearest which format s).2 = (format, .ok ())

/-- What is to hold between the enumerations and `ov5648_set_fmt` on the sensor `s`. -/
structure Agrees (nearest : NearestSize) (s : Ov5648) : Prop where
  fixed : ∀ which format, Fixed nearest s which format ↔ Enumerated format
  codesOnce : EnumeratesOnce ov5648EnumMbusCode
  codeIndices : InitialIndices ov5648EnumMbusCode
  sizesOnce : EnumeratesOnce ov5648EnumFrameSize
  sizeIndices : InitialIndices ov5648EnumFrameSize
  intervals : ∀ which format index,
    (∃ interval, ov5648EnumFrameInterval format.code format.width format.height index =
        .ok interval) ↔
      index = 0 ∧ Fixed nearest s which format
  reported : ∀ format index interval,
    ov5648EnumFrameInterval format.code format.width format.height index = .ok interval →
      ∃ t, ov5648SetFmt nearest .active format s = (t, format, .ok ()) ∧
        ov5648GFrameInterval t = .ok interval

def modeRange (mode : Ov5648Mode) : FrameSizeRange :=
  .exactly mode.outputSizeX mode.outputSizeY

theorem enumFrameSize_eq : ov5648EnumFrameSize = enumEntry (ov5648Modes.map modeRange) :=
  funext fun index => enumEntry_map modeRange ov5648Modes index

theorem exactly_inj {width height width' height' : U32} :
    FrameSizeRange.exactly width height = .exactly width' height' ↔
      width = width' ∧ height = height' := by
  simp only [FrameSizeRange.exactly, FrameSizeRange.mk.injEq]
  tauto

theorem enumerated_iff (format : MbusFramefmt) :
    Enumerated format ↔ format.code ∈ ov5648MbusCodes ∧
      ∃ mode ∈ ov5648Modes, mode.outputSizeX = format.width ∧
        mode.outputSizeY = format.height := by
  have hcode : Enumerates ov5648EnumMbusCode format.code ↔ format.code ∈ ov5648MbusCodes :=
    enumerates_iff (by decide) format.code
  rw [Enumerated, hcode, enumFrameSize_eq, enumerates_iff (by decide)]
  simp only [List.mem_map, modeRange, exactly_inj]

theorem findMode_eq (width height : U32) (modes : List Ov5648Mode) :
    ov5648EnumFrameInterval.findMode width height 0 0 modes =
      modes.find? fun mode => mode.outputSizeX = width ∧ mode.outputSizeY = height := by
  induction modes with
  | nil => rfl
  | cons mode rest ih =>
      rw [ov5648EnumFrameInterval.findMode, List.find?_cons, ih]
      split
      · rename_i hsize
        simp [hsize]
      · rename_i hsize
        simp only [hsize, decide_false]

theorem mem_mbusCodes_iff {code : U32} :
    code ∈ ov5648MbusCodes ↔ is8Bit code = true ∨ is10Bit code = true := by
  constructor
  · intro h
    rcases bits_of_mem_mbusCodes h with h8 | ⟨-, h10⟩
    · exact .inl h8
    · exact .inr h10
  · simp only [is8Bit, is10Bit, ov5648MbusCodes, List.contains_iff_mem, List.mem_cons,
      List.not_mem_nil, or_false]
    tauto

theorem modeInterval_ok_iff (mode : Ov5648Mode) (code : U32) :
    (∃ interval, modeInterval mode code = .ok interval) ↔ code ∈ ov5648MbusCodes := by
  rw [mem_mbusCodes_iff]
  unfold modeInterval
  rcases is8Bit code with _ | _
  · rcases is10Bit code with _ | _
    · simp
    · simp
  · simp

theorem findMode_eq_some {width height : U32} {mode : Ov5648Mode} :
    ov5648EnumFrameInterval.findMode width height 0 0 ov5648Modes = some mode ↔
      mode ∈ ov5648Modes ∧ mode.outputSizeX = width ∧ mode.outputSizeY = height := by
  rw [findMode_eq]
  constructor
  · intro h
    exact ⟨List.mem_of_find?_eq_some h, by simpa using List.find?_some h⟩
  · rintro ⟨hmode, hwidth, hheight⟩
    cases hfind : ov5648Modes.find? fun other =>
        other.outputSizeX = width ∧ other.outputSizeY = height with
    | none =>
        rw [List.find?_eq_none] at hfind
        exact absurd (decide_eq_true ⟨hwidth, hheight⟩) (hfind mode hmode)
    | some found =>
        obtain ⟨hfoundX, hfoundY⟩ : found.outputSizeX = width ∧ found.outputSizeY = height := by
          simpa using List.find?_some hfind
        have hsize : ov5648ModeSize found = ov5648ModeSize mode := by
          rw [ov5648ModeSize, ov5648ModeSize, hfoundX, hfoundY, hwidth, hheight]
        rw [mode_eq_of_size found (List.mem_of_find?_eq_some hfind) mode hmode hsize]

theorem enumFrameInterval_eq_ok {code width height index : U32} {interval : V4l2Fract} :
    ov5648EnumFrameInterval code width height index = .ok interval ↔
      index = 0 ∧ ∃ mode ∈ ov5648Modes, (mode.outputSizeX = width ∧ mode.outputSizeY = height) ∧
        modeInterval mode code = .ok interval := by
  rcases eq_or_ne index 0 with rfl | hindex
  · simp only [true_and]
    constructor
    · intro h
      cases hfind : ov5648EnumFrameInterval.findMode width height 0 0 ov5648Modes with
      | none =>
          rw [ov5648EnumFrameInterval, if_neg (by decide), hfind] at h
          exact absurd h nofun
      | some mode =>
          rw [ov5648EnumFrameInterval, if_neg (by decide), hfind] at h
          obtain ⟨hmode, hsize⟩ := findMode_eq_some.mp hfind
          exact ⟨mode, hmode, hsize, h⟩
    · rintro ⟨mode, hmode, hsize, hinterval⟩
      rw [ov5648EnumFrameInterval, if_neg (by decide), findMode_eq_some.mpr ⟨hmode, hsize⟩]
      exact hinterval
  · have hpos : 0 < index.toNat := by
      rw [Nat.pos_iff_ne_zero]
      exact fun h => hindex (BitVec.eq_of_toNat_eq h)
    rw [ov5648EnumFrameInterval, if_pos hpos]
    constructor
    · intro h
      exact absurd h nofun
    · rintro ⟨h, -⟩
      exact absurd h hindex

section Fixed

variable {nearest : NearestSize} {s : Ov5648}

theorem fixed_iff (hnearest : nearest.Minimises) (hrate : s.xvclkRate = ov5648XvclkRate)
    (hfaults : s.client.faults = []) (hidle : s.streaming = false) (which : FormatWhence)
    (format : MbusFramefmt) : Fixed nearest s which format ↔ Enumerated format := by
  rw [enumerated_iff]
  constructor
  · intro h
    obtain ⟨mode, hmode, hpick⟩ := nearest.pick_mem ov5648ModeSize
      (show ov5648Modes ≠ [] by decide) format.width format.height
    obtain ⟨t, hset, -⟩ := setFmt_idle hrate hfaults hidle format hmode hpick which
    rw [Fixed, hset, Prod.mk.injEq] at h
    have hcode := congrArg MbusFramefmt.code h.1
    refine ⟨?_, mode, hmode, congrArg MbusFramefmt.width h.1, congrArg MbusFramefmt.height h.1⟩
    rw [← hcode]
    exact findFormat_mem format.code
  · rintro ⟨hcode, mode, hmode, hwidth, hheight⟩
    have hpick := hnearest.pick_self mode_eq_of_size hmode rfl
    rw [hwidth, hheight] at hpick
    obtain ⟨t, hset, -⟩ := setFmt_idle hrate hfaults hidle format hmode hpick which
    rw [Fixed, hset, findFormat_of_mem hcode, ov5648MbusFormatFill, hwidth, hheight]

theorem setFmt_enumerated (hnearest : nearest.Minimises) (hrate : s.xvclkRate = ov5648XvclkRate)
    (hfaults : s.client.faults = []) (hidle : s.streaming = false) {format : MbusFramefmt}
    (hcode : format.code ∈ ov5648MbusCodes) {mode : Ov5648Mode} (hmode : mode ∈ ov5648Modes)
    (hwidth : mode.outputSizeX = format.width) (hheight : mode.outputSizeY = format.height) :
    ∃ t, ov5648SetFmt nearest .active format s = (t, format, .ok ()) ∧ t.mode = mode ∧
      t.mbusCode = format.code := by
  have hpick := hnearest.pick_self mode_eq_of_size hmode rfl
  rw [hwidth, hheight] at hpick
  obtain ⟨t, hset, -, -, -, htmode, htcode, -⟩ :=
    setFmt_idle hrate hfaults hidle format hmode hpick .active
  rw [findFormat_of_mem hcode] at hset htcode
  refine ⟨t, ?_, htmode, htcode⟩
  rw [hset, ov5648MbusFormatFill, hwidth, hheight]

/-- The enumerations list the formats that `ov5648_set_fmt` leaves as they are. -/
theorem enumeration_agrees (hnearest : nearest.Minimises) (hrate : s.xvclkRate = ov5648XvclkRate)
    (hfaults : s.client.faults = []) (hidle : s.streaming = false) : Agrees nearest s := by
  refine
    { fixed := fixed_iff hnearest hrate hfaults hidle
      codesOnce := enumeratesOnce_of_nodup (by decide)
      codeIndices := initialIndices_enumEntry _
      sizesOnce := ?_
      sizeIndices := ?_
      intervals := ?_
      reported := ?_ }
  · rw [enumFrameSize_eq]
    exact enumeratesOnce_of_nodup (by decide)
  · rw [enumFrameSize_eq]
    exact initialIndices_enumEntry _
  · intro which format index
    rw [fixed_iff hnearest hrate hfaults hidle, enumerated_iff]
    simp only [enumFrameInterval_eq_ok]
    constructor
    · rintro ⟨interval, hindex, mode, hmode, hsize, hinterval⟩
      exact ⟨hindex, (modeInterval_ok_iff mode _).mp ⟨interval, hinterval⟩, mode, hmode, hsize⟩
    · rintro ⟨hindex, hcode, mode, hmode, hsize⟩
      obtain ⟨interval, hinterval⟩ := (modeInterval_ok_iff mode format.code).mpr hcode
      exact ⟨interval, hindex, mode, hmode, hsize, hinterval⟩
  · intro format index interval h
    obtain ⟨-, mode, hmode, ⟨hwidth, hheight⟩, hinterval⟩ := enumFrameInterval_eq_ok.mp h
    have hcode := (modeInterval_ok_iff mode _).mp ⟨interval, hinterval⟩
    obtain ⟨t, hset, htmode, htcode⟩ :=
      setFmt_enumerated hnearest hrate hfaults hidle hcode hmode hwidth hheight
    refine ⟨t, hset, ?_⟩
    rw [ov5648GFrameInterval, htmode, htcode, hinterval]

end Fixed

/-- The powered sensor. -/
theorem poweredSensor_enumeration : Agrees leastError poweredSensor :=
  enumeration_agrees leastError_minimises (by decide +kernel) (by decide +kernel)
    (by decide +kernel)

end CameraPorting.SensorOv5648.Enumeration
