import CameraPorting.SensorImx219.FormatNegotiation

namespace CameraPorting.SensorImx219.Enumeration

open CameraPorting.Kernel.Media
open CameraPorting.Kernel.PadEnumeration
open CameraPorting.SensorImx219.Sensor hiding imx219GetFormatCode imx219GetPadFormat
  imx219SetPadFormat updateExposure updateLimits
open CameraPorting.SensorImx219.Driver
open CameraPorting.SensorImx219.StreamState
open CameraPorting.SensorImx219.ProgrammedFormat
open CameraPorting.SensorImx219.FormatNegotiation

/-- The format is left as it is. -/
def Kept (nearest : NearestSize) (which : FormatWhence) (s : Imx219Device)
    (format : MbusFramefmt) : Prop :=
  (imx219SetPadFormat nearest which format s).2 = format

/-- The code is enumerated, and the size is for that code. -/
def Enumerated (s : Imx219Device) (format : MbusFramefmt) : Prop :=
  Enumerates (imx219EnumMbusCode s) format.code ∧
    Enumerates (imx219EnumFrameSize s format.code)
      (FrameSizeRange.exactly format.width format.height)

def SizeSupported (width height : U32) : Prop :=
  ∃ mode ∈ supportedModes, imx219ModeSize mode = (width, height)

theorem kept_iff {nearest : NearestSize} (hnearest : nearest.Minimises) (which : FormatWhence)
    (s : Imx219Device) (format : MbusFramefmt) :
    Kept nearest which s format ↔ imx219GetFormatCode s format.code = format.code ∧
      SizeSupported format.width format.height := by
  constructor
  · intro h
    obtain ⟨mode, hmode, hpick⟩ := nearest.pick_mem imx219ModeSize
      (show supportedModes ≠ [] by decide) format.width format.height
    rw [Kept, setPadFormat_answer hpick] at h
    refine ⟨congrArg MbusFramefmt.code h, mode, hmode, ?_⟩
    exact congrArg (fun format => (format.width, format.height)) h
  · rintro ⟨hcode, mode, hmode, hsize⟩
    rw [Kept, setPadFormat_answer (hnearest.pick_self modeSize_inj hmode hsize), answerFor, hcode]
    exact congrArg₂ (MbusFramefmt.mk _) (congrArg Prod.fst hsize) (congrArg Prod.snd hsize)

theorem enumerates_code_iff (s : Imx219Device) (code : U32) :
    Enumerates (imx219EnumMbusCode s) code ↔ imx219GetFormatCode s code = code := by
  constructor
  · rintro ⟨index, h⟩
    unfold imx219EnumMbusCode at h
    split at h
    · exact absurd h nofun
    · rw [← Except.ok.inj h]
      exact getFormatCode_congr rfl (codeGroup_getFormatCode s _)
  · intro h
    have hgroup := codeGroup_lt code
    refine ⟨BitVec.ofNat 32 (codeGroup code), ?_⟩
    have hindex : (BitVec.ofNat 32 (codeGroup code)).toNat = codeGroup code := by
      rw [BitVec.toNat_ofNat]
      omega
    unfold imx219EnumMbusCode
    rw [hindex, if_neg (show ¬imx219Codes.length / 4 ≤ codeGroup code from Nat.not_le.mpr hgroup)]
    have hfirst : codeGroup (imx219Codes.getD (codeGroup code * 4) 0) = codeGroup code := by
      change codeIndex (imx219Codes.getD _ 0) / 4 = _
      rw [codeIndex_getD (by omega)]
      omega
    rw [getFormatCode_congr rfl hfirst, h]

theorem enumerates_size_iff (s : Imx219Device) (code width height : U32) :
    Enumerates (imx219EnumFrameSize s code) (FrameSizeRange.exactly width height) ↔
      code = imx219GetFormatCode s s.fmt.code ∧ SizeSupported width height := by
  constructor
  · rintro ⟨index, h⟩
    unfold imx219EnumFrameSize at h
    split at h
    · exact absurd h nofun
    · rename_i mode hmode
      split at h
      · exact absurd h nofun
      · rename_i hcode
        have hrange := Except.ok.inj h
        refine ⟨not_not.mp hcode, mode, List.mem_of_getElem? hmode, ?_⟩
        exact congrArg (fun range => (range.minWidth, range.minHeight)) hrange
  · rintro ⟨hcode, mode, hmode, hsize⟩
    obtain ⟨i, hi, hget⟩ := List.getElem_of_mem hmode
    refine ⟨BitVec.ofNat 32 i, ?_⟩
    have hindex : (BitVec.ofNat 32 i).toNat = i := by
      have hlength : supportedModes.length = 4 := rfl
      rw [BitVec.toNat_ofNat]
      omega
    unfold imx219EnumFrameSize
    rw [hindex, List.getElem?_eq_getElem hi, hget]
    dsimp only
    rw [if_neg (not_not.mpr hcode)]
    exact congrArg (fun size : U32 × U32 => Except.ok (FrameSizeRange.exactly size.1 size.2)) hsize

def OtherDepth (s : Imx219Device) (format : MbusFramefmt) : Prop :=
  imx219GetFormatCode s format.code = format.code ∧
    SizeSupported format.width format.height ∧
      requestedDepth format.code ≠ requestedDepth s.fmt.code

/-- What is enumerated is what is accepted, but for the sizes of the depth that the
active format does not have. -/
theorem kept_enumerated_iff {nearest : NearestSize} (hnearest : nearest.Minimises)
    (which : FormatWhence) (s : Imx219Device) (format : MbusFramefmt) :
    (Kept nearest which s format ↔ Enumerated s format) ↔ ¬OtherDepth s format := by
  have hactive : imx219GetFormatCode s format.code = format.code →
      (format.code = imx219GetFormatCode s s.fmt.code ↔
        requestedDepth format.code = requestedDepth s.fmt.code) := by
    intro hcode
    rw [requestedDepth_inj]
    constructor
    · intro h
      rw [h, codeGroup_getFormatCode]
    · intro h
      rw [← hcode]
      exact getFormatCode_congr rfl h
  rw [kept_iff hnearest, Enumerated, enumerates_code_iff, enumerates_size_iff, OtherDepth]
  constructor
  · rintro hagree ⟨hcode, hsize, hdepth⟩
    exact hdepth ((hactive hcode).mp (hagree.mp ⟨hcode, hsize⟩).2.1)
  · intro hother
    constructor
    · rintro ⟨hcode, hsize⟩
      refine ⟨hcode, (hactive hcode).mpr ?_, hsize⟩
      by_contra hdepth
      exact hother ⟨hcode, hsize, hdepth⟩
    · rintro ⟨hcode, -, hsize⟩
      exact ⟨hcode, hsize⟩

theorem kept_enumerated_binned :
    Kept leastError .active (boardDevice []) ⟨mediaBusFmtSrggb10_1x10, 1640, 1232⟩ ↔
      Enumerated (boardDevice []) ⟨mediaBusFmtSrggb10_1x10, 1640, 1232⟩ := by
  refine (kept_enumerated_iff leastError_minimises .active _ _).mpr ?_
  rintro ⟨-, -, hdepth⟩
  revert hdepth
  decide

/-- Eight bits are enumerated and accepted, but not with any size while ten are active. -/
theorem otherDepth_accepted :
    ¬(Kept leastError .active (boardDevice []) ⟨mediaBusFmtSrggb8_1x8, 640, 480⟩ ↔
      Enumerated (boardDevice []) ⟨mediaBusFmtSrggb8_1x8, 640, 480⟩) := by
  intro hagree
  have hkept : Kept leastError .active (boardDevice []) ⟨mediaBusFmtSrggb8_1x8, 640, 480⟩ := by
    change (imx219SetPadFormat leastError .active ⟨mediaBusFmtSrggb8_1x8, 640, 480⟩
      (boardDevice [])).2 = _
    decide +kernel
  obtain ⟨-, hsize⟩ := hagree.mp hkept
  have hcode := ((enumerates_size_iff _ _ _ _).mp hsize).1
  revert hcode
  decide

end CameraPorting.SensorImx219.Enumeration
