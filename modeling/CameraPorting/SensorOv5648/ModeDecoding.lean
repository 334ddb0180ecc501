import Mathlib.Tactic.MkIffOfInductiveProp
import CameraPorting.Library.BitFields
import CameraPorting.Library.RegisterFields
import CameraPorting.SensorOv5648.FormatAtomicity

namespace CameraPorting.SensorOv5648.ModeDecoding

open CameraPorting.Kernel.Media
open CameraPorting.Kernel.I2c
open CameraPorting.Library.BitFields
open CameraPorting.Library.MaskedWrites
open CameraPorting.Library.RegisterFields (AgreeOn)
open CameraPorting.SensorOv5648.Registers
open CameraPorting.SensorOv5648.Modes
open CameraPorting.SensorOv5648.RegisterAccess
open CameraPorting.SensorOv5648.RegisterPrograms
open CameraPorting.SensorOv5648.FormatAtomicity

/-- The value of a high and a low register, whose last bit is `high`. -/
def pairValue (high : Nat) (highByte lowByte : U8) : U32 :=
  place 32 high 8 (highByte.setWidth 32) ||| place 32 7 0 (lowByte.setWidth 32)

structure AxisTiming where
  cropStart : U32
  offset : U32
  outputSize : U32
  cropEnd : U32
  total : U32
  incOdd : U32
  incEven : U32
  binning : Bool
  deriving DecidableEq

def decodeHorizontal (regs : U16 → U8) : AxisTiming where
  cropStart := pairValue 11 (regs cropStartXHReg) (regs cropStartXLReg)
  offset := pairValue 11 (regs offsetXHReg) (regs offsetXLReg)
  outputSize := pairValue 11 (regs outputSizeXHReg) (regs outputSizeXLReg)
  cropEnd := pairValue 11 (regs cropEndXHReg) (regs cropEndXLReg)
  total := pairValue 12 (regs htsHReg) (regs htsLReg)
  incOdd := slice 32 7 4 (regs subIncXReg)
  incEven := slice 32 3 0 (regs subIncXReg)
  binning := (regs tc21Reg).getLsbD 0

def decodeVertical (regs : U16 → U8) : AxisTiming where
  cropStart := pairValue 11 (regs cropStartYHReg) (regs cropStartYLReg)
  offset := pairValue 11 (regs offsetYHReg) (regs offsetYLReg)
  outputSize := pairValue 11 (regs outputSizeYHReg) (regs outputSizeYLReg)
  cropEnd := pairValue 11 (regs cropEndYHReg) (regs cropEndYLReg)
  total := pairValue 15 (regs vtsHReg) (regs vtsLReg)
  incOdd := slice 32 7 4 (regs subIncYReg)
  incEven := slice 32 3 0 (regs subIncYReg)
  binning := (regs tc20Reg).getLsbD 0

/-- The positions of the comment on the PLL1 clock tree. -/
def decodePll1 (regs : U16 → U8) : Pll1Config where
  pllPreDiv := slice 32 3 0 (regs pllDivReg)
  pllMul := slice 32 7 0 (regs pllMulReg)
  sysDiv := slice 32 7 4 (regs pllCtrl1Reg)
  rootDiv := slice 32 4 4 (regs pllDivReg) + 1#32
  sclkDiv := slice 32 3 2 (regs srbCtrlReg)
  mipiDiv := slice 32 3 0 (regs pllCtrl1Reg)

/-- The positions of the comment on the PLL2 clock tree. -/
def decodePll2 (regs : U16 → U8) : Pll2Config where
  pllsPreDiv := slice 32 5 4 (regs pllsDivReg)
  pllsDivR := slice 32 2 2 (regs pllsDivReg) + 1#32
  pllsMul := slice 32 4 0 (regs pllsMulReg)
  sysDiv := slice 32 3 0 (regs pllsCtrlReg)
  selDiv := slice 32 1 0 (regs pllsDivReg)

/-- A mode as its registers hold it; `bits` is the setting for the divider after the
root divider. -/
structure ModeImage where
  horizontal : AxisTiming
  vertical : AxisTiming
  bits : U32
  pll1 : Pll1Config
  pll2 : Pll2Config
  deriving DecidableEq

def decodeMode (regs : U16 → U8) : ModeImage where
  horizontal := decodeHorizontal regs
  vertical := decodeVertical regs
  bits := slice 32 3 0 (regs pllCtrl0Reg)
  pll1 := decodePll1 regs
  pll2 := decodePll2 regs

def horizontalTiming (mode : Ov5648Mode) : AxisTiming where
  cropStart := mode.cropStartX
  offset := mode.offsetX
  outputSize := mode.outputSizeX
  cropEnd := mode.cropEndX
  total := mode.hts
  incOdd := mode.incXOdd
  incEven := mode.incXEven
  binning := mode.binningX

def verticalTiming (mode : Ov5648Mode) : AxisTiming where
  cropStart := mode.cropStartY
  offset := mode.offsetY
  outputSize := mode.outputSizeY
  cropEnd := mode.cropEndY
  total := mode.vts
  incOdd := mode.incYOdd
  incEven := mode.incYEven
  binning := mode.binningY

/-- The PLL1 configuration for the bits of a media bus code. -/
def selectedPll1 (mode : Ov5648Mode) (mbusCode : U32) : Pll1Config :=
  if is8Bit mbusCode then mode.pll1Config.1 else mode.pll1Config.2

def selectedBits (mbusCode : U32) : U32 := if is8Bit mbusCode then 8 else 10

def modeImage (mode : Ov5648Mode) (mbusCode : U32) : ModeImage where
  horizontal := horizontalTiming mode
  vertical := verticalTiming mode
  bits := selectedBits mbusCode
  pll1 := selectedPll1 mode mbusCode
  pll2 := mode.pll2Config

/-- The sizes fit 12 bits and the total its own width. -/
@[mk_iff] structure AxisFits (totalBits : Nat) (axis : AxisTiming) : Prop where
  cropStart : Fits 12 axis.cropStart
  offset : Fits 12 axis.offset
  outputSize : Fits 12 axis.outputSize
  cropEnd : Fits 12 axis.cropEnd
  total : Fits totalBits axis.total
  incOdd : Fits 4 axis.incOdd
  incEven : Fits 4 axis.incEven

@[mk_iff] structure Pll1Fits (config : Pll1Config) : Prop where
  pllPreDiv : Fits 4 config.pllPreDiv
  pllMul : Fits 8 config.pllMul
  sysDiv : Fits 4 config.sysDiv
  rootDiv : config.rootDiv = 1 ∨ config.rootDiv = 2
  sclkDiv : Fits 2 config.sclkDiv
  mipiDiv : Fits 4 config.mipiDiv

@[mk_iff] structure Pll2Fits (config : Pll2Config) : Prop where
  pllsPreDiv : Fits 2 config.pllsPreDiv
  pllsDivR : config.pllsDivR = 1 ∨ config.pllsDivR = 2
  pllsMul : Fits 5 config.pllsMul
  sysDiv : Fits 4 config.sysDiv
  selDiv : Fits 2 config.selDiv

/-- Every field of the mode fits its register field. -/
structure ModeFits (mode : Ov5648Mode) (mbusCode : U32) : Prop where
  horizontal : AxisFits 13 (horizontalTiming mode)
  vertical : AxisFits 16 (verticalTiming mode)
  pll1 : Pll1Fits (selectedPll1 mode mbusCode)
  pll2 : Pll2Fits mode.pll2Config

instance (totalBits : Nat) (axis : AxisTiming) : Decidable (AxisFits totalBits axis) :=
  decidable_of_iff' _ (axisFits_iff totalBits axis)

instance (config : Pll1Config) : Decidable (Pll1Fits config) :=
  decidable_of_iff' _ (pll1Fits_iff config)

instance (config : Pll2Config) : Decidable (Pll2Fits config) :=
  decidable_of_iff' _ (pll2Fits_iff config)

theorem modeFits_of_mem {mode : Ov5648Mode} (hmode : mode ∈ ov5648Modes) (mbusCode : U32) :
    ModeFits mode mbusCode := by
  have hfields : ∀ mode ∈ ov5648Modes,
      AxisFits 13 (horizontalTiming mode) ∧ AxisFits 16 (verticalTiming mode) ∧
        Pll1Fits mode.pll1Config.1 ∧ Pll1Fits mode.pll1Config.2 ∧ Pll2Fits mode.pll2Config := by
    decide +kernel
  obtain ⟨hx, hy, h8, h10, hpll2⟩ := hfields mode hmode
  refine ⟨hx, hy, ?_, hpll2⟩
  unfold selectedPll1
  split
  · exact h8
  · exact h10

/-- The registers `ov5648_mode_configure` addresses. -/
def modeRegisters : List U16 :=
  [cropStartXHReg, cropStartXLReg, offsetXHReg, offsetXLReg, outputSizeXHReg, outputSizeXLReg,
    cropEndXHReg, cropEndXLReg, htsHReg, htsLReg, cropStartYHReg, cropStartYLReg, offsetYHReg,
    offsetYLReg, outputSizeYHReg, outputSizeYLReg, cropEndYHReg, cropEndYLReg, vtsHReg, vtsLReg,
    tc20Reg, tc21Reg, subIncXReg, subIncYReg, pllCtrl0Reg, pllDivReg, pllMulReg, pllCtrl1Reg,
    srbCtrlReg, pllsDivReg, pllsMulReg, pllsCtrlReg]

theorem modeProgram_registers (mode : Ov5648Mode) (mbusCode : U32) :
    (modeProgram mode mbusCode).map MaskedWrite.addr = modeRegisters := by
  rw [addresses_of_outline
    (RegisterImage.outline_modeProgram mode ov5648Mode0 mbusCode mediaBusFmtSbggr8_1x8)]
  decide +kernel

section Fields

theorem highBits_eq (high : Nat) (v : U32) : highBits high v = slice 8 high 8 v := rfl

theorem lowBits_eq (v : U32) : lowBits v = slice 8 7 0 v := rfl

theorem fieldBits_eq (high low : Nat) (v : U32) : fieldBits high low v = place 8 high low v :=
  rfl

theorem pairValue_parts {high : Nat} (hlow : 8 ≤ high) (hhigh : high < 16) {v : U32}
    (hv : Fits (high + 1) v) : pairValue high (highBits high v) (lowBits v) = v := by
  rw [pairValue, highBits_eq, lowBits_eq, place_slice (by omega) (by omega),
    place_slice (by omega) (by omega), ← BitVec.and_or_distrib_left,
    fieldMask_or (by omega) (by omega) (by omega), and_fieldMask_of_fits (by omega) hv]

theorem slice_fieldBits {high low : Nat} (hhigh : high < 8) {v : U32}
    (hv : Fits (high + 1 - low) v) : slice 32 high low (fieldBits high low v) = v := by
  rw [fieldBits_eq, slice_place (by omega) hhigh hv, BitVec.setWidth_eq]

/-- A field is read past the others of its register. -/
theorem slice_or_fieldBits {high low high' low' : Nat} (hhigh : high < 8) (hhigh' : high' < 8)
    (hapart : high < low' ∨ high' < low) (r : U8) (v : U32) :
    slice 32 high' low' (r ||| fieldBits high low v) = slice 32 high' low' r := by
  rw [slice_or, fieldBits_eq, slice_place_apart (by omega) hhigh' hapart, BitVec.or_zero]

theorem slice_fieldBits_or {high low high' low' : Nat} (hhigh : high < 8) (hhigh' : high' < 8)
    (hapart : high < low' ∨ high' < low) (r : U8) (v : U32) :
    slice 32 high' low' (fieldBits high low v ||| r) = slice 32 high' low' r := by
  rw [BitVec.or_comm]
  exact slice_or_fieldBits hhigh hhigh' hapart r v

theorem slice_divider {bit : Nat} (hbit : bit < 8) {v : U32} (hv : v = 1 ∨ v = 2) :
    slice 32 bit bit (fieldBits bit bit (v - 1#32)) + 1#32 = v := by
  have hfits : Fits (bit + 1 - bit) (v - 1#32) := by
    rw [Nat.add_sub_cancel_left]
    rcases hv with rfl | rfl
    · decide
    · decide
  rw [slice_fieldBits hbit hfits, BitVec.sub_add_cancel]

end Fields

theorem pll1_decoded {config : Pll1Config} {bits : U32} {regs : U16 → U8}
    (h : Holds (pll1Program config bits) regs) (hfits : Pll1Fits config)
    (hbits : Fits 4 bits) :
    decodePll1 regs = config ∧ slice 32 3 0 (regs pllCtrl0Reg) = bits := by
  simp only [pll1Program, holds_full_cons] at h
  obtain ⟨hctrl0, hdiv, hmul, hctrl1, hsrb, -⟩ := h
  have harbiter : srbCtrlSclkArbiterEn = fieldBits 0 0 1 := by decide
  have hpreDiv : slice 32 3 0 (regs pllDivReg) = config.pllPreDiv := by
    rw [hdiv, pllDivRootDiv, slice_fieldBits_or (by decide) (by decide) (by decide)]
    exact slice_fieldBits (by decide) hfits.pllPreDiv
  have hmul : slice 32 7 0 (regs pllMulReg) = config.pllMul := by
    rw [hmul]
    exact slice_fieldBits (by decide) hfits.pllMul
  have hsysDiv : slice 32 7 4 (regs pllCtrl1Reg) = config.sysDiv := by
    rw [hctrl1, pllCtrl1MipiDiv, slice_or_fieldBits (by decide) (by decide) (by decide)]
    exact slice_fieldBits (by decide) hfits.sysDiv
  have hrootDiv : slice 32 4 4 (regs pllDivReg) + 1#32 = config.rootDiv := by
    rw [hdiv, pllDivPllPreDiv, slice_or_fieldBits (by decide) (by decide) (by decide)]
    exact slice_divider (by decide) hfits.rootDiv
  have hsclkDiv : slice 32 3 2 (regs srbCtrlReg) = config.sclkDiv := by
    rw [hsrb, harbiter, slice_or_fieldBits (by decide) (by decide) (by decide)]
    exact slice_fieldBits (by decide) hfits.sclkDiv
  have hmipiDiv : slice 32 3 0 (regs pllCtrl1Reg) = config.mipiDiv := by
    rw [hctrl1, pllCtrl1SysDiv, slice_fieldBits_or (by decide) (by decide) (by decide)]
    exact slice_fieldBits (by decide) hfits.mipiDiv
  constructor
  · simp only [decodePll1, hpreDiv, hmul, hsysDiv, hrootDiv, hsclkDiv, hmipiDiv]
  · rw [hctrl0, pllCtrl0PllChargePump, slice_fieldBits_or (by decide) (by decide) (by decide)]
    exact slice_fieldBits (by decide) hbits

theorem pll2_decoded {config : Pll2Config} {regs : U16 → U8}
    (h : Holds (pll2Program config) regs) (hfits : Pll2Fits config) :
    decodePll2 regs = config := by
  simp only [pll2Program, holds_full_cons] at h
  obtain ⟨hdiv, hmul, hctrl, -⟩ := h
  rw [pllsDivPllsPreDiv, pllsDivPllsDivR, pllsDivPllsSelDiv] at hdiv
  have hpreDiv : slice 32 5 4 (regs pllsDivReg) = config.pllsPreDiv := by
    rw [hdiv, slice_or_fieldBits (by decide) (by decide) (by decide),
      slice_or_fieldBits (by decide) (by decide) (by decide)]
    exact slice_fieldBits (by decide) hfits.pllsPreDiv
  have hdivR : slice 32 2 2 (regs pllsDivReg) + 1#32 = config.pllsDivR := by
    rw [hdiv, slice_or_fieldBits (by decide) (by decide) (by decide),
      slice_fieldBits_or (by decide) (by decide) (by decide)]
    exact slice_divider (by decide) hfits.pllsDivR
  have hmul : slice 32 4 0 (regs pllsMulReg) = config.pllsMul := by
    rw [hmul]
    exact slice_fieldBits (by decide) hfits.pllsMul
  have hsysDiv : slice 32 3 0 (regs pllsCtrlReg) = config.sysDiv := by
    rw [hctrl, pllsCtrlPllChargePump, slice_fieldBits_or (by decide) (by decide) (by decide)]
    exact slice_fieldBits (by decide) hfits.sysDiv
  have hselDiv : slice 32 1 0 (regs pllsDivReg) = config.selDiv := by
    rw [hdiv, BitVec.or_assoc, slice_fieldBits_or (by decide) (by decide) (by decide),
      slice_fieldBits_or (by decide) (by decide) (by decide)]
    exact slice_fieldBits (by decide) hfits.selDiv
  simp only [decodePll2, hpreDiv, hdivR, hmul, hsysDiv, hselDiv]

theorem pair_decoded {regs : U16 → U8} {highAddr lowAddr : U16} {high : Nat} {v : U32}
    (hhigh : regs highAddr = highBits high v) (hlow : regs lowAddr = lowBits v)
    (hfrom : 8 ≤ high) (hto : high < 16) (hv : Fits (high + 1) v) :
    pairValue high (regs highAddr) (regs lowAddr) = v := by
  rw [hhigh, hlow]
  exact pairValue_parts hfrom hto hv

theorem increments_decoded {odd even : U32} {r : U8}
    (h : r = fieldBits 7 4 odd ||| fieldBits 3 0 even) (hodd : Fits 4 odd) (heven : Fits 4 even) :
    slice 32 7 4 r = odd ∧ slice 32 3 0 r = even := by
  subst h
  constructor
  · rw [slice_or_fieldBits (by decide) (by decide) (by decide)]
    exact slice_fieldBits (by decide) hodd
  · rw [slice_fieldBits_or (by decide) (by decide) (by decide)]
    exact slice_fieldBits (by decide) heven

theorem timing_decoded {mode : Ov5648Mode} {regs : U16 → U8}
    (h : Holds (timingProgram mode) regs) (hx : AxisFits 13 (horizontalTiming mode))
    (hy : AxisFits 16 (verticalTiming mode)) :
    decodeHorizontal regs = horizontalTiming mode ∧ decodeVertical regs = verticalTiming mode ∧
      (regs tc20Reg).getLsbD 6 = false := by
  simp only [timingProgram, holds_full_cons] at h
  obtain ⟨hcsxh, hcsxl, hoxh, hoxl, hsxh, hsxl, hcexh, hcexl, hhtsh, hhtsl, hcsyh, hcsyl, hoyh,
    hoyl, hsyh, hsyl, hceyh, hceyl, hvtsh, hvtsl, hflags⟩ := h
  rw [holds_cons, holds_cons, holds_full_cons, holds_full_cons] at hflags
  obtain ⟨htc20, htc21, hincx, hincy, -⟩ := hflags
  have hbinningX := congrArg (BitVec.getLsbD · 0) htc21
  have hbinningY := congrArg (BitVec.getLsbD · 0) htc20
  have hdebug := congrArg (BitVec.getLsbD · 6) htc20
  simp only [flagWrite, BitVec.getLsbD_and] at hbinningX hbinningY hdebug
  obtain ⟨hoddX, hevenX⟩ := increments_decoded hincx hx.incOdd hx.incEven
  obtain ⟨hoddY, hevenY⟩ := increments_decoded hincy hy.incOdd hy.incEven
  refine ⟨?_, ?_, ?_⟩
  · simp only [decodeHorizontal, horizontalTiming, AxisTiming.mk.injEq]
    refine ⟨pair_decoded hcsxh hcsxl (by decide) (by decide) hx.cropStart,
      pair_decoded hoxh hoxl (by decide) (by decide) hx.offset,
      pair_decoded hsxh hsxl (by decide) (by decide) hx.outputSize,
      pair_decoded hcexh hcexl (by decide) (by decide) hx.cropEnd,
      pair_decoded hhtsh hhtsl (by decide) (by decide) hx.total, hoddX, hevenX, ?_⟩
    cases hmode : mode.binningX <;> simpa [hmode, tc21BinningHorzEn, bit] using hbinningX
  · simp only [decodeVertical, verticalTiming, AxisTiming.mk.injEq]
    refine ⟨pair_decoded hcsyh hcsyl (by decide) (by decide) hy.cropStart,
      pair_decoded hoyh hoyl (by decide) (by decide) hy.offset,
      pair_decoded hsyh hsyl (by decide) (by decide) hy.outputSize,
      pair_decoded hceyh hceyl (by decide) (by decide) hy.cropEnd,
      pair_decoded hvtsh hvtsl (by decide) (by decide) hy.total, hoddY, hevenY, ?_⟩
    cases hmode : mode.binningY <;>
      simpa [hmode, tc20Debug, tc20BinningVertEn, bit] using hbinningY
  · cases hmode : mode.binningY <;>
      simpa [hmode, tc20Debug, tc20BinningVertEn, bit] using hdebug

theorem selectedBits_fits (mbusCode : U32) : Fits 4 (selectedBits mbusCode) := by
  unfold selectedBits
  split
  · decide
  · decide

theorem mode_decoded {mode : Ov5648Mode} {mbusCode : U32} {regs : U16 → U8}
    (h : Holds (modeProgram mode mbusCode) regs) (hfits : ModeFits mode mbusCode) :
    decodeMode regs = modeImage mode mbusCode ∧ (regs tc20Reg).getLsbD 6 = false := by
  have hpll1 : (if is8Bit mbusCode then pll1Program mode.pll1Config.1 8
      else pll1Program mode.pll1Config.2 10) =
        pll1Program (selectedPll1 mode mbusCode) (selectedBits mbusCode) := by
    unfold selectedPll1 selectedBits
    split
    · rfl
    · rfl
  rw [modeProgram, hpll1] at h
  simp only [Holds, List.forall_mem_append] at h
  obtain ⟨htiming, hfirst, hsecond⟩ := h
  obtain ⟨hx, hy, hdebug⟩ := timing_decoded htiming hfits.horizontal hfits.vertical
  obtain ⟨hconfig, hbits⟩ := pll1_decoded hfirst hfits.pll1 (selectedBits_fits mbusCode)
  refine ⟨?_, hdebug⟩
  simp only [decodeMode, modeImage, hx, hy, hconfig, hbits, pll2_decoded hsecond hfits.pll2]

theorem regs_of_attempts {x : Routine Unit} {ops : Program} (h : Attempts x ops)
    {client after : I2cClient Chip} (hrun : x client = (.ok (), after)) :
    after.chip.regs = run ops client.chip.regs := by
  have hchip := h.chip client
  rcases h.transfers client with ⟨hok, -⟩ | ⟨-, e, _, herror⟩
  · rw [hrun, completed_of_noFault hok] at hchip
    rw [hchip]
    rfl
  · rw [hrun] at herror
    exact absurd (congrArg Prod.fst herror) nofun

/-- The registers of a mode hold that mode; the debug bit is clear, and nothing else
changes. -/
theorem modeConfigure_exact {mode : Ov5648Mode} {mbusCode : U32}
    (hvalues : mode.registerValues = []) (hcode : mbusCode ∈ ov5648MbusCodes)
    (hfits : ModeFits mode mbusCode) {client after : I2cClient Chip}
    (hrun : ov5648ModeConfigure mode mbusCode client = (.ok (), after)) :
    decodeMode after.chip.regs = modeImage mode mbusCode ∧
      (after.chip.regs tc20Reg).getLsbD 6 = false ∧
      AgreeOn (~~~(tc20Debug ||| tc20BinningVertEn)) (after.chip.regs tc20Reg)
        (client.chip.regs tc20Reg) ∧
      AgreeOn (~~~tc21BinningHorzEn) (after.chip.regs tc21Reg) (client.chip.regs tc21Reg) ∧
      ∀ address, address ∉ modeRegisters →
        after.chip.regs address = client.chip.regs address := by
  have hnodup : ((modeProgram mode mbusCode).map MaskedWrite.addr).Nodup :=
    (modeProgram_addresses mode mbusCode).1
  rw [regs_of_attempts (attempts_modeConfigure hvalues (bits_of_mem_mbusCodes hcode)) hrun]
  obtain ⟨himage, hdebug⟩ := mode_decoded (holds_run hnodup client.chip.regs) hfits
  have hvert : flagWrite tc20Reg (tc20Debug ||| tc20BinningVertEn) tc20BinningVertEn rfl
      mode.binningY ∈ modeProgram mode mbusCode := by
    apply List.mem_append_left
    simp [timingProgram]
  have hhorz : flagWrite tc21Reg tc21BinningHorzEn tc21BinningHorzEn rfl mode.binningX ∈
      modeProgram mode mbusCode := by
    apply List.mem_append_left
    simp [timingProgram]
  refine ⟨himage, hdebug, run_outside hnodup hvert _, run_outside hnodup hhorz _, ?_⟩
  intro address haddress
  apply run_of_not_mem
  rwa [modeProgram_registers]

/-- The smallest mode, on a sensor whose registers are all ones. -/
theorem modeConfigure_exact_vga :
    ∃ after, ov5648ModeConfigure ov5648Modes[5] mediaBusFmtSrggb10_1x10
        ⟨⟨fun _ => 0xff#8, fun _ => 0#8⟩, []⟩ = (.ok (), after) ∧
      decodeMode after.chip.regs = modeImage ov5648Modes[5] mediaBusFmtSrggb10_1x10 := by
  have hrun : ov5648ModeConfigure ov5648Modes[5] mediaBusFmtSrggb10_1x10
      ⟨⟨fun _ => 0xff#8, fun _ => 0#8⟩, []⟩ = _ :=
    programs_modeConfigure rfl (.inr ⟨by decide, by decide⟩) _ rfl
  refine ⟨_, hrun, ?_⟩
  exact (modeConfigure_exact rfl (by decide) (modeFits_of_mem (by decide) _) hrun).1

end CameraPorting.SensorOv5648.ModeDecoding
