import Mathlib.Data.Rat.Floor
import Mathlib.Algebra.Order.Floor.Semifield
import Mathlib.Tactic.FieldSimp
import CameraPorting.SensorOv5648.ModeDecoding

namespace CameraPorting.SensorOv5648.Pll1Clock

open CameraPorting.Kernel.Media
open CameraPorting.Kernel.I2c
open CameraPorting.Library.BitFields
open CameraPorting.Library.MaskedWrites
open CameraPorting.SensorOv5648.Registers
open CameraPorting.SensorOv5648.Modes
open CameraPorting.SensorOv5648.RegisterAccess
open CameraPorting.SensorOv5648.RegisterPrograms
open CameraPorting.SensorOv5648.FormatAtomicity
open CameraPorting.SensorOv5648.ModeDecoding

/-- What the pre-divider divides by: 5 stands for 1.5 and 7 for 2.5. -/
def preDivider (pllPreDiv : U32) : ℚ :=
  if pllPreDiv = 5 then 3 / 2 else if pllPreDiv = 7 then 5 / 2 else pllPreDiv.toNat

/-- `MIPI_CLK` of the clock tree. -/
def mipiClk (xvclkRate : Nat) (config : Pll1Config) : ℚ :=
  xvclkRate / preDivider config.pllPreDiv * config.pllMul.toNat / config.sysDiv.toNat /
    config.mipiDiv.toNat / 2

/-- What is multiplied by the half of `n`, in 64 bits, and divided by the dividers and by
2 comes out as what is divided by the half of `n` instead. -/
def HalvesMeet (n product dividers : Nat) : Prop :=
  let wraps := n * product / 2 ^ 64
  n * wraps * 2 ^ 64 ≤ (n * n - 4) * product + 4 * (product % (n * dividers)) ∧
    (n * n - 4) * product + 4 * (product % (n * dividers)) <
      n * wraps * 2 ^ 64 + 4 * (n * dividers)

instance (n product dividers : Nat) : Decidable (HalvesMeet n product dividers) :=
  inferInstanceAs (Decidable (_ ∧ _))

/-- The product fits 64 bits, or for a pre-divider of a half number the two ways to use it
give the same. -/
def RateFits (xvclkRate : Nat) (config : Pll1Config) : Prop :=
  let product := xvclkRate * config.pllMul.toNat
  let dividers := config.sysDiv.toNat * config.mipiDiv.toNat
  if config.pllPreDiv = 5 then HalvesMeet 3 product dividers
  else if config.pllPreDiv = 7 then HalvesMeet 5 product dividers
  else product < 2 ^ 64

instance (xvclkRate : Nat) (config : Pll1Config) : Decidable (RateFits xvclkRate config) :=
  inferInstanceAs (Decidable (ite ..))

theorem halvesMeet_iff {n dividers : Nat} (hn : 2 ≤ n) (hdividers : 0 < dividers)
    (product : Nat) :
    n * product % 2 ^ 64 / (4 * dividers) = product / (n * dividers) ↔
      HalvesMeet n product dividers := by
  unfold HalvesMeet
  obtain ⟨extra, hextra⟩ : ∃ extra, n * n = 4 + extra := Nat.exists_eq_add_of_le (by nlinarith)
  have hproduct := Nat.div_add_mod product (n * dividers)
  have hwrapped := Nat.div_add_mod (n * product) (2 ^ 64)
  generalize n * product % 2 ^ 64 = rest at *
  generalize n * product / 2 ^ 64 = wraps at *
  generalize product / (n * dividers) = quotient at *
  generalize product % (n * dividers) = left at *
  have hscaled : n * rest + n * wraps * 2 ^ 64 = 4 * product + extra * product := by
    calc n * rest + n * wraps * 2 ^ 64 = n * (2 ^ 64 * wraps + rest) := by ring
      _ = n * n * product := by rw [hwrapped, Nat.mul_assoc]
      _ = 4 * product + extra * product := by rw [hextra, Nat.add_mul]
  have hlower : n * (4 * dividers * quotient) + 4 * left = 4 * product := by
    rw [← hproduct]
    ring
  have hupper : n * (4 * dividers * (quotient + 1)) + 4 * left =
      4 * product + 4 * (n * dividers) := by
    rw [← hproduct]
    ring
  have hn0 : 0 < n := by omega
  have hquotient : rest / (4 * dividers) = quotient ↔
      4 * dividers * quotient ≤ rest ∧ rest < 4 * dividers * (quotient + 1) := by
    rw [Nat.div_eq_iff (by omega), Nat.mul_comm quotient, Nat.mul_succ]
    omega
  rw [hquotient, hextra, Nat.add_sub_cancel_left, ← Nat.mul_le_mul_left_iff hn0,
    ← Nat.mul_lt_mul_left hn0]
  omega

theorem halvesMeet_of_lt {n product dividers : Nat} (hn : 3 ≤ n) (hlt : n * product < 2 ^ 64) :
    HalvesMeet n product dividers ↔ n * product < 4 * dividers := by
  obtain ⟨extra, hextra⟩ : ∃ extra, n * n = 4 + extra :=
    Nat.exists_eq_add_of_le (by nlinarith)
  simp only [HalvesMeet, Nat.div_eq_of_lt hlt, hextra, Nat.add_sub_cancel_left, Nat.mul_zero,
    Nat.zero_mul, Nat.zero_add, Nat.zero_le, true_and]
  rcases Nat.lt_or_ge product (n * dividers) with hsmall | hlarge
  · rw [Nat.mod_eq_of_lt hsmall]
    constructor
    · intro h
      have hscaled : n * (n * product) < n * (4 * dividers) := by
        calc n * (n * product) = extra * product + 4 * product := by
              rw [← Nat.mul_assoc, hextra, Nat.add_mul, Nat.add_comm]
          _ < 4 * (n * dividers) := by omega
          _ = n * (4 * dividers) := Nat.mul_left_comm 4 n dividers
      exact Nat.lt_of_mul_lt_mul_left hscaled
    · intro h
      have hscaled := Nat.mul_lt_mul_of_pos_left h (show 0 < n by omega)
      rw [← Nat.mul_assoc, hextra, Nat.add_mul, Nat.mul_left_comm n 4] at hscaled
      omega
  · have hfive : 5 * product ≤ extra * product := Nat.mul_le_mul_right _ (by nlinarith)
    have hthree : 3 * product ≤ n * product := Nat.mul_le_mul_right _ hn
    have hdividers : 3 * dividers ≤ n * dividers := Nat.mul_le_mul_right _ hn
    constructor
    · omega
    · omega

theorem mipiClkRate_eq {mbusCode : U32} (hcode : mbusCode ∈ ov5648MbusCodes) (xvclkRate : Nat)
    (mode : Ov5648Mode) :
    ov5648ModeMipiClkRate xvclkRate mode mbusCode =
      ov5648ModeMipiClkRate.rate xvclkRate (selectedPll1 mode mbusCode) := by
  unfold ov5648ModeMipiClkRate selectedPll1
  rcases bits_of_mem_mbusCodes hcode with h8 | ⟨h8, h10⟩
  · rw [h8, if_pos rfl, if_pos rfl]
  · rw [h8, h10, if_neg Bool.false_ne_true, if_pos rfl, if_neg Bool.false_ne_true]

def wholeDivider (config : Pll1Config) : Nat :=
  config.pllPreDiv.toNat * config.sysDiv.toNat * config.mipiDiv.toNat * 2

theorem floor_mipiClk (xvclkRate : Nat) (config : Pll1Config) :
    ⌊mipiClk xvclkRate config⌋₊ =
      xvclkRate * config.pllMul.toNat /
        (if config.pllPreDiv = 5 then 3 * (config.sysDiv.toNat * config.mipiDiv.toNat)
          else if config.pllPreDiv = 7 then 5 * (config.sysDiv.toNat * config.mipiDiv.toNat)
          else wholeDivider config) := by
  rw [← Nat.floor_div_eq_div (K := ℚ)]
  congr 1
  unfold mipiClk preDivider wholeDivider
  split
  · push_cast
    field_simp
  · split
    · push_cast
      field_simp
    · push_cast
      field_simp

theorem rate_eq (xvclkRate : Nat) (config : Pll1Config) :
    ov5648ModeMipiClkRate.rate xvclkRate config =
      if config.pllPreDiv = 5 then
        3 * (xvclkRate * config.pllMul.toNat) % 2 ^ 64 /
          (4 * (config.sysDiv.toNat * config.mipiDiv.toNat))
      else if config.pllPreDiv = 7 then
        5 * (xvclkRate * config.pllMul.toNat) % 2 ^ 64 /
          (4 * (config.sysDiv.toNat * config.mipiDiv.toNat))
      else xvclkRate * config.pllMul.toNat % 2 ^ 64 / wholeDivider config := by
  have hhalf : 2 * (config.sysDiv.toNat * (config.mipiDiv.toNat * 2)) =
      4 * (config.sysDiv.toNat * config.mipiDiv.toNat) := by ring
  unfold ov5648ModeMipiClkRate.rate ov5648ModePll1Rate
  split
  · rw [Nat.div_div_eq_div_mul, Nat.div_div_eq_div_mul, Nat.div_div_eq_div_mul, hhalf,
      Nat.mod_mul_mod, Nat.mul_comm 3]
  · split
    · rw [Nat.div_div_eq_div_mul, Nat.div_div_eq_div_mul, Nat.div_div_eq_div_mul, hhalf,
        Nat.mod_mul_mod, Nat.mul_comm 5]
    · rw [Nat.div_div_eq_div_mul, Nat.div_div_eq_div_mul, Nat.div_div_eq_div_mul, wholeDivider,
        Nat.mul_assoc, Nat.mul_assoc]

theorem mod_div_eq_iff {modulus divider : Nat} (hpos : 0 < divider) (hle : divider ≤ modulus)
    (product : Nat) : product % modulus / divider = product / divider ↔ product < modulus := by
  constructor
  · intro h
    by_contra hwraps
    have hmod : product % modulus + modulus ≤ product := by
      have hquotient := Nat.div_pos (not_lt.mp hwraps) (hpos.trans_le hle)
      calc product % modulus + modulus ≤ product % modulus + modulus * (product / modulus) :=
            Nat.add_le_add_left (Nat.le_mul_of_pos_right _ hquotient) _
        _ = product := Nat.mod_add_div product modulus
    have hmore : product % modulus / divider + 1 ≤ product / divider := by
      rw [← Nat.add_div_right _ hpos]
      exact Nat.div_le_div_right ((Nat.add_le_add_left hle _).trans hmod)
    omega
  · intro h
    rw [Nat.mod_eq_of_lt h]

theorem wholeDivider_le {config : Pll1Config} (hfits : Pll1Fits config) :
    wholeDivider config ≤ 2 ^ 64 := by
  have hpre : config.pllPreDiv.toNat < 16 := hfits.pllPreDiv
  have hsys : config.sysDiv.toNat < 16 := hfits.sysDiv
  have hmipi : config.mipiDiv.toNat < 16 := hfits.mipiDiv
  calc wholeDivider config ≤ 16 * 16 * 16 * 2 :=
        Nat.mul_le_mul_right _ (Nat.mul_le_mul (Nat.mul_le_mul hpre.le hsys.le) hmipi.le)
    _ ≤ 2 ^ 64 := by norm_num

theorem toNat_pos {v : U32} (h : v ≠ 0) : 0 < v.toNat := by
  rw [Nat.pos_iff_ne_zero]
  intro hzero
  exact h (BitVec.eq_of_toNat_eq hzero)

theorem rate_fits_iff {config : Pll1Config} (hfits : Pll1Fits config) (hpre : config.pllPreDiv ≠ 0)
    (hsys : config.sysDiv ≠ 0) (hmipi : config.mipiDiv ≠ 0) (xvclkRate : Nat) :
    ov5648ModeMipiClkRate.rate xvclkRate config = ⌊mipiClk xvclkRate config⌋₊ ↔
      RateFits xvclkRate config := by
  have hdividers : 0 < config.sysDiv.toNat * config.mipiDiv.toNat :=
    Nat.mul_pos (toNat_pos hsys) (toNat_pos hmipi)
  rw [rate_eq, floor_mipiClk]
  unfold RateFits
  split
  · exact halvesMeet_iff (by decide) hdividers _
  · split
    · exact halvesMeet_iff (by decide) hdividers _
    · apply mod_div_eq_iff _ (wholeDivider_le hfits)
      rw [wholeDivider, Nat.mul_assoc config.pllPreDiv.toNat]
      exact Nat.mul_pos (Nat.mul_pos (toNat_pos hpre) hdividers) Nat.two_pos

/-- At the rate that the driver asks for, its computation is right for the pre-dividers
that are whole numbers. -/
theorem rateFits_ov5648XvclkRate {config : Pll1Config} (hfits : Pll1Fits config)
    (hmul : config.pllMul ≠ 0) :
    RateFits ov5648XvclkRate config ↔ config.pllPreDiv ≠ 5 ∧ config.pllPreDiv ≠ 7 := by
  have hmulPos := toNat_pos hmul
  have hmulLt : config.pllMul.toNat < 256 := hfits.pllMul
  have hdividers : config.sysDiv.toNat * config.mipiDiv.toNat ≤ 16 * 16 :=
    Nat.mul_le_mul (show _ < 16 from hfits.sysDiv).le (show _ < 16 from hfits.mipiDiv).le
  unfold RateFits ov5648XvclkRate
  split
  · rename_i h5
    rw [halvesMeet_of_lt (by decide) (by omega)]
    simp only [h5, ne_eq, not_true_eq_false, false_and, iff_false]
    omega
  · split
    · rename_i h7
      rw [halvesMeet_of_lt (by decide) (by omega)]
      simp only [h7, ne_eq, not_true_eq_false, and_false, iff_false]
      omega
    · rename_i h5 h7
      simp only [h5, h7, ne_eq, not_false_eq_true, and_self, iff_true]
      omega

theorem attempts_pll1Configure {mbusCode : U32} (hcode : mbusCode ∈ ov5648MbusCodes)
    (mode : Ov5648Mode) :
    Attempts (ov5648ModePll1Configure mode mbusCode)
      (pll1Program (selectedPll1 mode mbusCode) (selectedBits mbusCode)) := by
  unfold ov5648ModePll1Configure selectedPll1 selectedBits
  rcases bits_of_mem_mbusCodes hcode with h8 | ⟨h8, h10⟩
  · rw [h8, if_pos rfl, if_pos rfl, if_pos rfl]
    exact attempts_pll1 _ _
  · rw [h8, h10, if_neg Bool.false_ne_true, if_pos rfl, if_neg Bool.false_ne_true,
      if_neg Bool.false_ne_true]
    exact attempts_pll1 _ _

theorem pll1Configure_decoded {mode : Ov5648Mode} {mbusCode : U32}
    (hcode : mbusCode ∈ ov5648MbusCodes) (hfits : Pll1Fits (selectedPll1 mode mbusCode))
    {client after : I2cClient Chip}
    (hrun : ov5648ModePll1Configure mode mbusCode client = (.ok (), after)) :
    decodePll1 after.chip.regs = selectedPll1 mode mbusCode := by
  have hnodup : ((pll1Program (selectedPll1 mode mbusCode) (selectedBits mbusCode)).map
      MaskedWrite.addr).Nodup := by
    simp only [pll1Program, MaskedWrite.full, List.map_cons, List.map_nil]
    decide
  rw [regs_of_attempts (attempts_pll1Configure hcode mode) hrun]
  exact (pll1_decoded (holds_run hnodup _) hfits (selectedBits_fits mbusCode)).1

/-- The computed clock is that of the registers exactly when the rate fits. -/
theorem mipiClkRate_documented_iff {mode : Ov5648Mode} {mbusCode : U32}
    (hcode : mbusCode ∈ ov5648MbusCodes) (hfits : Pll1Fits (selectedPll1 mode mbusCode))
    (hpre : (selectedPll1 mode mbusCode).pllPreDiv ≠ 0)
    (hsys : (selectedPll1 mode mbusCode).sysDiv ≠ 0)
    (hmipi : (selectedPll1 mode mbusCode).mipiDiv ≠ 0) (xvclkRate : Nat)
    {client after : I2cClient Chip}
    (hrun : ov5648ModePll1Configure mode mbusCode client = (.ok (), after)) :
    ov5648ModeMipiClkRate xvclkRate mode mbusCode =
        ⌊mipiClk xvclkRate (decodePll1 after.chip.regs)⌋₊ ↔
      RateFits xvclkRate (selectedPll1 mode mbusCode) := by
  rw [pll1Configure_decoded hcode hfits hrun, mipiClkRate_eq hcode]
  exact rate_fits_iff hfits hpre hsys hmipi xvclkRate

/-- The first mode, at the rate that the driver asks for. -/
theorem mipiClkRate_documented_mode0 :
    ∃ after, ov5648ModePll1Configure ov5648Mode0 mediaBusFmtSbggr8_1x8
        ⟨⟨fun _ => 0#8, fun _ => 0#8⟩, []⟩ = (.ok (), after) ∧
      ov5648ModeMipiClkRate ov5648XvclkRate ov5648Mode0 mediaBusFmtSbggr8_1x8 =
        ⌊mipiClk ov5648XvclkRate (decodePll1 after.chip.regs)⌋₊ := by
  have hrun := (attempts_pll1Configure (show mediaBusFmtSbggr8_1x8 ∈ ov5648MbusCodes by decide)
    ov5648Mode0).programs ⟨⟨fun _ => 0#8, fun _ => 0#8⟩, []⟩ rfl
  refine ⟨_, hrun, ?_⟩
  exact (mipiClkRate_documented_iff (by decide) (by decide) (by decide) (by decide) (by decide)
    ov5648XvclkRate hrun).mpr (by decide)

def halfDividedMode : Ov5648Mode :=
  { ov5648Mode0 with pll1Config := (⟨5, 84, 2, 1, 1, 1⟩, ⟨5, 105, 2, 1, 1, 1⟩) }

/-- Multiplied by 1.5 where the clock tree divides by it: 756 MHz for 336 MHz. -/
theorem halfDividedMode_computed :
    ∃ after, ov5648ModePll1Configure halfDividedMode mediaBusFmtSbggr8_1x8
        ⟨⟨fun _ => 0#8, fun _ => 0#8⟩, []⟩ = (.ok (), after) ∧
      Pll1Fits (selectedPll1 halfDividedMode mediaBusFmtSbggr8_1x8) ∧
      ov5648ModeMipiClkRate ov5648XvclkRate halfDividedMode mediaBusFmtSbggr8_1x8 = 756000000 ∧
      ⌊mipiClk ov5648XvclkRate (decodePll1 after.chip.regs)⌋₊ = 336000000 := by
  have hrun := (attempts_pll1Configure (show mediaBusFmtSbggr8_1x8 ∈ ov5648MbusCodes by decide)
    halfDividedMode).programs ⟨⟨fun _ => 0#8, fun _ => 0#8⟩, []⟩ rfl
  have hclk : mipiClk ov5648XvclkRate (selectedPll1 halfDividedMode mediaBusFmtSbggr8_1x8) =
      (336000000 : Nat) := by decide +kernel
  refine ⟨_, hrun, by decide, by decide, ?_⟩
  rw [pll1Configure_decoded (by decide) (by decide) hrun, hclk, Nat.floor_natCast]

end CameraPorting.SensorOv5648.Pll1Clock
