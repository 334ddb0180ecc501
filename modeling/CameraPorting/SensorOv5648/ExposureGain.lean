import CameraPorting.SensorOv5648.ModeDecoding

namespace CameraPorting.SensorOv5648.ExposureGain

open CameraPorting.Kernel.Media
open CameraPorting.Kernel.I2c
open CameraPorting.Library.BitFields
open CameraPorting.Library.MaskedWrites
open CameraPorting.SensorOv5648.Registers
open CameraPorting.SensorOv5648.RegisterAccess
open CameraPorting.SensorOv5648.RegisterPrograms
open CameraPorting.SensorOv5648.ModeDecoding

def exposureRegisters : List U16 := [exposureCtrlHhReg, exposureCtrlHReg, exposureCtrlLReg]

def gainRegisters : List U16 := [gainCtrlHReg, gainCtrlLReg]

def exposureOf (regs : U16 → U8) : U32 :=
  exposureCtrlHhValue ((regs exposureCtrlHhReg).setWidth 32) |||
    exposureCtrlHValue ((regs exposureCtrlHReg).setWidth 32) |||
      exposureCtrlLValue ((regs exposureCtrlLReg).setWidth 32)

def gainOf (regs : U16 → U8) : U32 :=
  gainCtrlHValue ((regs gainCtrlHReg).setWidth 32) |||
    gainCtrlLValue ((regs gainCtrlLReg).setWidth 32)

def exposureProgram (exposure : U32) : Program :=
  [.full exposureCtrlHhReg (exposureCtrlHh exposure),
    .full exposureCtrlHReg (exposureCtrlH exposure),
    .full exposureCtrlLReg (exposureCtrlL exposure)]

def gainProgram (gain : U32) : Program :=
  [.full gainCtrlHReg (gainCtrlH gain), .full gainCtrlLReg (gainCtrlL gain)]

/-- Without a fault, the routine reads a value off the registers. -/
def ReadsOff (value : Routine U32) (valueOf : (U16 → U8) → U32) : Prop :=
  ∀ client, client.faults = [] → value client = (.ok (valueOf client.chip.regs), client)

theorem readsOff_exposureValue : ReadsOff ov5648ExposureValue exposureOf := by
  intro client hfaults
  unfold ov5648ExposureValue
  rw [driver_bind_ok (read_ok hfaults _), driver_bind_ok (read_ok hfaults _),
    driver_bind_ok (read_ok hfaults _)]
  rfl

theorem readsOff_gainValue : ReadsOff ov5648GainValue gainOf := by
  intro client hfaults
  unfold ov5648GainValue
  rw [driver_bind_ok (read_ok hfaults _), driver_bind_ok (read_ok hfaults _)]
  rfl

theorem programs_exposureConfigure (exposure : U32) :
    Programs (ov5648ExposureConfigure true exposure) (exposureProgram exposure) := by
  apply programs_unless_throw rfl
  apply programs_cons (programs_write (by decide) _)
  apply programs_cons (programs_write (by decide) _)
  exact programs_write (by decide) _

theorem programs_gainConfigure (gain : U32) :
    Programs (ov5648GainConfigure false gain) (gainProgram gain) := by
  apply programs_unless_throw rfl
  apply programs_cons (programs_write (by decide) _)
  exact programs_write (by decide) _

theorem exposureOf_eq (regs : U16 → U8) :
    exposureOf regs = place 32 19 16 ((regs exposureCtrlHhReg).setWidth 32) |||
      place 32 15 8 ((regs exposureCtrlHReg).setWidth 32) |||
        place 32 7 0 ((regs exposureCtrlLReg).setWidth 32) := by
  simp only [place, BitVec.setWidth_eq, BitVec.shiftLeft_zero]
  rfl

theorem gainOf_eq (regs : U16 → U8) :
    gainOf regs = place 32 9 8 ((regs gainCtrlHReg).setWidth 32) |||
      place 32 7 0 ((regs gainCtrlLReg).setWidth 32) := by
  simp only [place, BitVec.setWidth_eq, BitVec.shiftLeft_zero]
  rfl

theorem exposureOf_of_holds {exposure : U32} (hfits : Fits 20 exposure) {regs : U16 → U8}
    (h : Holds (exposureProgram exposure) regs) : exposureOf regs = exposure := by
  simp only [exposureProgram, holds_full_cons] at h
  obtain ⟨hhh, hh, hl, -⟩ := h
  have hhh : regs exposureCtrlHhReg = slice 8 19 16 exposure := hhh
  have hh : regs exposureCtrlHReg = slice 8 15 8 exposure := hh
  have hl : regs exposureCtrlLReg = slice 8 7 0 exposure := hl
  rw [exposureOf_eq, hhh, hh, hl, place_slice (by decide) (by decide),
    place_slice (by decide) (by decide), place_slice (by decide) (by decide),
    ← BitVec.and_or_distrib_left, ← BitVec.and_or_distrib_left,
    fieldMask_or (by decide) (by decide) (by decide),
    fieldMask_or (by decide) (by decide) (by decide), and_fieldMask_of_fits (by decide) hfits]

theorem gainOf_of_holds {gain : U32} (hfits : Fits 10 gain) {regs : U16 → U8}
    (h : Holds (gainProgram gain) regs) : gainOf regs = gain := by
  simp only [gainProgram, holds_full_cons] at h
  obtain ⟨hh, hl, -⟩ := h
  have hh : regs gainCtrlHReg = slice 8 9 8 gain := hh
  have hl : regs gainCtrlLReg = slice 8 7 0 gain := hl
  rw [gainOf_eq, hh, hl, place_slice (by decide) (by decide), place_slice (by decide) (by decide),
    ← BitVec.and_or_distrib_left, fieldMask_or (by decide) (by decide) (by decide),
    and_fieldMask_of_fits (by decide) hfits]

/-- A register whose bits beyond its field are zero is a slice of the value read. -/
theorem slice_place_byte {high low : Nat} (hhigh : high < 32) {r : U8}
    (hr : Fits (high + 1 - low) r) :
    slice 8 high low (place 32 high low (r.setWidth 32)) = r := by
  have hwide : Fits (high + 1 - low) (r.setWidth 32) := by
    change (r.setWidth 32).toNat < _
    rw [BitVec.toNat_setWidth_of_le (by decide)]
    exact hr
  rw [slice_place hhigh hhigh hwide]
  simp

theorem fits_byte (r : U8) : Fits 8 r := r.isLt

theorem slice_byte_apart {high low high' low' : Nat} (hhigh : high < 32) (hhigh' : high' < 32)
    (hapart : high < low' ∨ high' < low) (r : U8) :
    slice 8 high' low' (place 32 high low (r.setWidth 32)) = 0#8 :=
  slice_place_apart hhigh hhigh' hapart _

/-- The registers hold the exposure read from them when their unused bits are zero. -/
theorem holds_exposureOf {regs : U16 → U8} (hunused : Fits 4 (regs exposureCtrlHhReg)) :
    Holds (exposureProgram (exposureOf regs)) regs := by
  simp only [exposureProgram, holds_full_cons]
  refine ⟨?_, ?_, ?_, by simp [Holds]⟩
  · change _ = slice 8 19 16 _
    rw [exposureOf_eq, slice_or, slice_or, slice_place_byte (by decide) hunused,
      slice_byte_apart (by decide) (by decide) (by decide),
      slice_byte_apart (by decide) (by decide) (by decide), BitVec.or_zero, BitVec.or_zero]
  · change _ = slice 8 15 8 _
    rw [exposureOf_eq, slice_or, slice_or, slice_place_byte (by decide) (fits_byte _),
      slice_byte_apart (by decide) (by decide) (by decide),
      slice_byte_apart (by decide) (by decide) (by decide), BitVec.zero_or, BitVec.or_zero]
  · change _ = slice 8 7 0 _
    rw [exposureOf_eq, slice_or, slice_or, slice_place_byte (by decide) (fits_byte _),
      slice_byte_apart (by decide) (by decide) (by decide),
      slice_byte_apart (by decide) (by decide) (by decide), BitVec.zero_or, BitVec.zero_or]

theorem holds_gainOf {regs : U16 → U8} (hunused : Fits 2 (regs gainCtrlHReg)) :
    Holds (gainProgram (gainOf regs)) regs := by
  simp only [gainProgram, holds_full_cons]
  refine ⟨?_, ?_, by simp [Holds]⟩
  · change _ = slice 8 9 8 _
    rw [gainOf_eq, slice_or, slice_place_byte (by decide) hunused,
      slice_byte_apart (by decide) (by decide) (by decide), BitVec.or_zero]
  · change _ = slice 8 7 0 _
    rw [gainOf_eq, slice_or, slice_place_byte (by decide) (fits_byte _),
      slice_byte_apart (by decide) (by decide) (by decide), BitVec.zero_or]

theorem exposureOf_congr {regs regs' : U16 → U8}
    (h : ∀ address, address ∉ gainRegisters → regs' address = regs address) :
    exposureOf regs' = exposureOf regs := by
  unfold exposureOf
  rw [h _ (by decide), h _ (by decide), h _ (by decide)]

theorem gainOf_congr {regs regs' : U16 → U8}
    (h : ∀ address, address ∉ exposureRegisters → regs' address = regs address) :
    gainOf regs' = gainOf regs := by
  unfold gainOf
  rw [h _ (by decide), h _ (by decide)]

/-- What the driver is to do when it sets a value of the one kind: the value is read back,
the value of the other kind and all other registers stay. -/
structure SetsValue (configure : Routine Unit) (value other : Routine U32) (v : U32)
    (registers : List U16) (client : I2cClient Chip) : Prop where
  succeeds : (configure client).1 = .ok ()
  readBack : (value (configure client).2).1 = .ok v
  other : (other (configure client).2).1 = (other client).1
  others : ∀ address, address ∉ registers →
    (configure client).2.chip.regs address = client.chip.regs address

/-- To set what is read leaves the sensor as it is. -/
def WritesBack (configure : U32 → Routine Unit) (value : Routine U32)
    (client : I2cClient Chip) : Prop :=
  ∃ v, value client = (.ok v, client) ∧ configure v client = (.ok (), client)

section Codec

variable {configure : Routine Unit} {value other : Routine U32}
  {valueOf otherOf : (U16 → U8) → U32} {ops : Program} {v : U32} {client : I2cClient Chip}

/-- A routine sets a value when its program leaves registers that hold it, and the other
value is in none of them. -/
theorem setsValue_of_program (hconfigure : Programs configure ops)
    (hvalue : ReadsOff value valueOf) (hother : ReadsOff other otherOf)
    (hnodup : (ops.map MaskedWrite.addr).Nodup)
    (hheld : ∀ regs, Holds ops regs → valueOf regs = v)
    (hkept : ∀ regs regs' : U16 → U8,
      (∀ address, address ∉ ops.map MaskedWrite.addr → regs' address = regs address) →
        otherOf regs' = otherOf regs)
    (hfaults : client.faults = []) :
    SetsValue configure value other v (ops.map MaskedWrite.addr) client := by
  have hrun := hconfigure client hfaults
  have hafter : (afterProgram ops client).faults = [] := hfaults
  have hothers : ∀ address, address ∉ ops.map MaskedWrite.addr →
      run ops client.chip.regs address = client.chip.regs address :=
    fun address haddress => run_of_not_mem haddress _
  constructor
  · rw [hrun]
  · rw [hrun, hvalue _ hafter, afterProgram_regs, hheld _ (holds_run hnodup _)]
  · rw [hrun, hother _ hafter, hother _ hfaults, afterProgram_regs, hkept _ _ hothers]
  · rw [hrun]
    exact hothers

theorem afterProgram_of_holds (h : Holds ops client.chip.regs) :
    afterProgram ops client = client := by
  unfold afterProgram
  rw [run_of_holds h]

theorem writesBack_of_holds {configure : U32 → Routine Unit} {program : U32 → Program}
    (hconfigure : ∀ v, Programs (configure v) (program v)) (hvalue : ReadsOff value valueOf)
    (hholds : Holds (program (valueOf client.chip.regs)) client.chip.regs)
    (hfaults : client.faults = []) : WritesBack configure value client := by
  refine ⟨_, hvalue client hfaults, ?_⟩
  rw [hconfigure _ client hfaults, afterProgram_of_holds hholds]

end Codec

theorem setsExposure {client : I2cClient Chip} (hfaults : client.faults = []) {exposure : U32}
    (hfits : Fits 20 exposure) :
    SetsValue (ov5648ExposureConfigure true exposure) ov5648ExposureValue ov5648GainValue
      exposure exposureRegisters client := by
  apply setsValue_of_program (programs_exposureConfigure exposure) readsOff_exposureValue
    readsOff_gainValue
  · change exposureRegisters.Nodup
    decide
  · exact fun regs h => exposureOf_of_holds hfits h
  · exact fun regs regs' h => gainOf_congr h
  · exact hfaults

theorem setsGain {client : I2cClient Chip} (hfaults : client.faults = []) {gain : U32}
    (hfits : Fits 10 gain) :
    SetsValue (ov5648GainConfigure false gain) ov5648GainValue ov5648ExposureValue gain
      gainRegisters client := by
  apply setsValue_of_program (programs_gainConfigure gain) readsOff_gainValue
    readsOff_exposureValue
  · change gainRegisters.Nodup
    decide
  · exact fun regs h => gainOf_of_holds hfits h
  · exact fun regs regs' h => exposureOf_congr h
  · exact hfaults

/-- Exposure and gain over their whole ranges, in manual mode and without faults. -/
theorem exposure_gain_codec {client : I2cClient Chip} (hfaults : client.faults = []) :
    (∀ exposure : U32, 16 ≤ exposure.toNat → exposure.toNat ≤ 1048575 →
      SetsValue (ov5648ExposureConfigure true exposure) ov5648ExposureValue ov5648GainValue
        exposure exposureRegisters client) ∧
      (∀ gain : U32, 16 ≤ gain.toNat → gain.toNat ≤ 1023 →
        SetsValue (ov5648GainConfigure false gain) ov5648GainValue ov5648ExposureValue gain
          gainRegisters client) ∧
      (Fits 4 (client.chip.regs exposureCtrlHhReg) →
        WritesBack (ov5648ExposureConfigure true) ov5648ExposureValue client) ∧
      (Fits 2 (client.chip.regs gainCtrlHReg) →
        WritesBack (ov5648GainConfigure false) ov5648GainValue client) := by
  refine ⟨?_, ?_, ?_, ?_⟩
  · intro exposure _ hmax
    exact setsExposure hfaults (Nat.lt_succ_of_le hmax)
  · intro gain _ hmax
    exact setsGain hfaults (Nat.lt_succ_of_le hmax)
  · intro hunused
    exact writesBack_of_holds programs_exposureConfigure readsOff_exposureValue
      (holds_exposureOf hunused) hfaults
  · intro hunused
    exact writesBack_of_holds programs_gainConfigure readsOff_gainValue
      (holds_gainOf hunused) hfaults

/-- A sensor whose registers are all ones. -/
theorem exposure_gain_codec_ones :
    SetsValue (ov5648ExposureConfigure true 0x12345) ov5648ExposureValue ov5648GainValue 0x12345
      exposureRegisters ⟨⟨fun _ => 0xff#8, fun _ => 0#8⟩, []⟩ :=
  (exposure_gain_codec rfl).1 0x12345 (by decide) (by decide)

end CameraPorting.SensorOv5648.ExposureGain
