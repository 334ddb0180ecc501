import CameraPorting.SensorOv5648.Sensor
import CameraPorting.Library.MaskedWrites

namespace CameraPorting.SensorOv5648.RegisterPrograms

open CameraPorting.Kernel.Media
open CameraPorting.Kernel.I2c
open CameraPorting.Library.MaskedWrites
open CameraPorting.SensorOv5648.Registers
open CameraPorting.SensorOv5648.Modes
open CameraPorting.SensorOv5648.RegisterAccess
open CameraPorting.SensorOv5648.Sensor

abbrev Program := List (MaskedWrite U16 8)

/-- The client after a program has run on its registers. -/
def afterProgram (ops : Program) (client : I2cClient Chip) : I2cClient Chip :=
  { client with chip := { client.chip with regs := run ops client.chip.regs } }

theorem afterProgram_regs (ops : Program) (client : I2cClient Chip) :
    (afterProgram ops client).chip.regs = run ops client.chip.regs := rfl

/-- Without a fault, the routine succeeds and does to the registers what the
program does. -/
def Programs (x : Routine Unit) (ops : Program) : Prop :=
  ∀ client, client.faults = [] → x client = (.ok (), afterProgram ops client)

theorem programs_pure : Programs (pure ()) [] := by
  intro client _
  rfl

theorem programs_bind {x y : Routine Unit} {ops more : Program} (hx : Programs x ops)
    (hy : Programs y more) : Programs (x >>= fun _ => y) (ops ++ more) := by
  intro client hfaults
  rw [driver_bind_ok (hx client hfaults), hy (afterProgram ops client) hfaults]
  simp only [afterProgram, run_append]

theorem programs_cons {x y : Routine Unit} {op : MaskedWrite U16 8} {ops : Program}
    (hx : Programs x [op]) (hy : Programs y ops) :
    Programs (x >>= fun _ => y) (op :: ops) :=
  programs_bind hx hy

theorem write_ok {client : I2cClient Chip} (hfaults : client.faults = []) (address : U16)
    (value : U8) :
    ov5648Write address value client =
      (.ok (), { client with chip := client.chip.store address value }) := by
  unfold ov5648Write
  rw [driver_bind_ok (i2cTransfer_ok hfaults)]
  rfl

theorem read_ok {client : I2cClient Chip} (hfaults : client.faults = []) (address : U16) :
    ov5648Read address client = (.ok (client.chip.regs address), client) := by
  unfold ov5648Read
  rw [driver_bind_ok (i2cTransfer_ok hfaults), driver_bind_ok (i2cTransfer_ok hfaults)]
  rfl

theorem store_of_ne {chip : Chip} {address : U16} (h : address ≠ swResetReg) (value : U8) :
    chip.store address value = { chip with regs := Function.update chip.regs address value } := by
  unfold Chip.store
  rw [if_neg]
  rintro ⟨heq, -⟩
  exact h heq

theorem programs_write {address : U16} (h : address ≠ swResetReg) (value : U8) :
    Programs (ov5648Write address value) [.full address value] := by
  intro client hfaults
  rw [write_ok hfaults, store_of_ne h, afterProgram, run_cons, run_nil, apply_full]

theorem programs_updateBits (op : MaskedWrite U16 8) (h : op.addr ≠ swResetReg) :
    Programs (ov5648UpdateBits op.addr op.mask op.bits) [op] := by
  intro client hfaults
  unfold ov5648UpdateBits
  rw [driver_bind_ok (read_ok hfaults op.addr), write_ok hfaults, store_of_ne h]
  rfl

/-- The transfers of a write: an update of part of a register reads it first. -/
def writeTransfers (op : MaskedWrite U16 8) : Nat := if op.mask = BitVec.allOnes 8 then 1 else 3

def programTransfers : Program → Nat
  | [] => 0
  | op :: ops => writeTransfers op + programTransfers ops

/-- The writes of a program that come before its first transfer that fails. -/
def completed : Program → List (Option Errno) → Program
  | [], _ => []
  | op :: ops, faults =>
      if NoFault (writeTransfers op) faults then
        op :: completed ops (faults.drop (writeTransfers op))
      else []

def runOn (ops : Program) (chip : Chip) : Chip := { chip with regs := run ops chip.regs }

theorem runOn_append (ops more : Program) (chip : Chip) :
    runOn (ops ++ more) chip = runOn more (runOn ops chip) := by
  unfold runOn
  rw [run_append]

/-- The routine makes the writes of the program, as far as its transfers succeed. -/
structure Attempts (x : Routine Unit) (ops : Program) : Prop where
  transfers : Transfers (programTransfers ops) x
  chip : ∀ client, (x client).2.chip = runOn (completed ops client.faults) client.chip

theorem programTransfers_append (ops more : Program) :
    programTransfers (ops ++ more) = programTransfers ops + programTransfers more := by
  induction ops with
  | nil => exact (Nat.zero_add _).symm
  | cons op ops ih => rw [List.cons_append, programTransfers, programTransfers, ih, Nat.add_assoc]

theorem completed_initial (ops : Program) (faults : List (Option Errno)) :
    completed ops faults <+: ops := by
  induction ops generalizing faults with
  | nil => exact List.nil_prefix
  | cons op ops ih =>
      unfold completed
      split
      · exact List.cons_prefix_cons.mpr ⟨rfl, ih _⟩
      · exact List.nil_prefix

/-- A program whose transfers succeed is completed, and what follows it goes on with
the outcomes that are left. -/
theorem completed_append_of_noFault {ops : Program} (more : Program)
    {faults : List (Option Errno)} (h : NoFault (programTransfers ops) faults) :
    completed (ops ++ more) faults =
      ops ++ completed more (faults.drop (programTransfers ops)) := by
  induction ops generalizing faults with
  | nil => rfl
  | cons op ops ih =>
      rw [programTransfers, noFault_add] at h
      rw [List.cons_append, completed, if_pos h.1, ih h.2, programTransfers, List.drop_drop,
        List.cons_append]

theorem completed_append_of_fault {ops : Program} (more : Program)
    {faults : List (Option Errno)} (h : ¬NoFault (programTransfers ops) faults) :
    completed (ops ++ more) faults = completed ops faults := by
  induction ops generalizing faults with
  | nil => exact absurd (fun _ hmem => absurd hmem List.not_mem_nil) h
  | cons op ops ih =>
      rw [programTransfers, noFault_add] at h
      rw [List.cons_append, completed, completed]
      by_cases hop : NoFault (writeTransfers op) faults
      · rw [if_pos hop, if_pos hop, ih fun hrest => h ⟨hop, hrest⟩]
      · rw [if_neg hop, if_neg hop]

theorem completed_of_noFault {ops : Program} {faults : List (Option Errno)}
    (h : NoFault (programTransfers ops) faults) : completed ops faults = ops := by
  have hnil := completed_append_of_noFault [] h
  rwa [List.append_nil, completed, List.append_nil] at hnil

theorem attempts_pure : Attempts (pure ()) [] where
  transfers := transfers_pure ()
  chip _ := rfl

theorem attempts_bind {x y : Routine Unit} {ops more : Program} (hx : Attempts x ops)
    (hy : Attempts y more) : Attempts (x >>= fun _ => y) (ops ++ more) where
  transfers := by
    rw [programTransfers_append, Nat.add_comm]
    exact transfers_bind hx.transfers fun _ => hy.transfers
  chip client := by
    have hchip := hx.chip client
    rcases hx.transfers client with ⟨hok, a, after, hrun, hafter⟩ | ⟨hfault, e, after, hrun⟩
    · rw [hrun, completed_of_noFault hok] at hchip
      rw [driver_bind_ok hrun, hy.chip after, hafter, completed_append_of_noFault more hok,
        runOn_append]
      exact congrArg (runOn _) hchip
    · rw [hrun] at hchip
      rw [driver_bind_error hrun, completed_append_of_fault more hfault]
      exact hchip

theorem attempts_cons {x y : Routine Unit} {op : MaskedWrite U16 8} {ops : Program}
    (hx : Attempts x [op]) (hy : Attempts y ops) :
    Attempts (x >>= fun _ => y) (op :: ops) :=
  attempts_bind hx hy

theorem transfer_chip (client : I2cClient Chip) :
    (i2cTransfer client).2.chip = client.chip := by
  unfold i2cTransfer
  split
  · rfl
  · rfl
  · rfl

theorem transfers_write (address : U16) (value : U8) :
    Transfers 1 (ov5648Write address value) := by
  refine transfers_bind transfers_i2cTransfer fun _ => ?_
  exact transfers_modify fun _ => rfl

theorem transfers_read (address : U16) : Transfers 2 (ov5648Read address) := by
  refine transfers_bind transfers_i2cTransfer fun _ => ?_
  refine transfers_bind transfers_i2cTransfer fun _ => ?_
  exact transfers_bind transfers_get fun _ => transfers_pure _

theorem write_chip (address : U16) (value : U8) (client : I2cClient Chip) :
    (ov5648Write address value client).2.chip =
      if NoFault 1 client.faults then client.chip.store address value else client.chip := by
  have hchip := transfer_chip client
  unfold ov5648Write
  rcases transfers_i2cTransfer client with ⟨hok, a, after, hrun, -⟩ | ⟨hfault, e, after, hrun⟩
  · rw [hrun] at hchip
    rw [driver_bind_ok hrun, if_pos hok, ← hchip]
    rfl
  · rw [hrun] at hchip
    rw [driver_bind_error hrun, if_neg hfault]
    exact hchip

theorem read_chip (address : U16) (client : I2cClient Chip) :
    (ov5648Read address client).2.chip = client.chip := by
  have hstays : Preserves (fun c : I2cClient Chip => c.chip = client.chip)
      (ov5648Read address) := by
    refine preserves_bind (fun c hc => (transfer_chip c).trans hc) fun _ => ?_
    refine preserves_bind (fun c hc => (transfer_chip c).trans hc) fun _ => ?_
    exact preserves_get_bind fun _ hc => hc
  exact hstays client rfl

theorem read_value {address : U16} {client after : I2cClient Chip} {value : U8}
    (h : ov5648Read address client = (.ok value, after)) : after.chip.regs address = value := by
  unfold ov5648Read at h
  obtain ⟨_, _, -, hrest⟩ := driver_bind_inv h
  obtain ⟨_, last, -, hlast⟩ := driver_bind_inv hrest
  rw [driver_bind_ok (driver_get last), driver_pure] at hlast
  obtain ⟨hvalue, rfl⟩ := Prod.mk.inj hlast
  exact Except.ok.inj hvalue

theorem writeTransfers_full (address : U16) (value : U8) :
    writeTransfers (.full address value) = 1 := if_pos rfl

theorem attempts_write {address : U16} (h : address ≠ swResetReg) (value : U8) :
    Attempts (ov5648Write address value) [.full address value] where
  transfers := transfers_write address value
  chip client := by
    rw [write_chip, store_of_ne h, completed, completed]
    rw [writeTransfers_full]
    split
    · rw [runOn, run_cons, run_nil, apply_full]
    · rfl

theorem attempts_updateBits (op : MaskedWrite U16 8) (haddr : op.addr ≠ swResetReg)
    (hmask : op.mask ≠ BitVec.allOnes 8) :
    Attempts (ov5648UpdateBits op.addr op.mask op.bits) [op] := by
  have hthree : writeTransfers op = 3 := if_neg hmask
  have htransfers : Transfers 3 (ov5648UpdateBits op.addr op.mask op.bits) :=
    transfers_bind (transfers_read op.addr) fun _ => transfers_write op.addr _
  refine ⟨?_, ?_⟩
  · rw [programTransfers, programTransfers, hthree]
    exact htransfers
  · intro client
    have hread := read_chip op.addr client
    have hsplit := noFault_add 2 1 client.faults
    rw [completed, completed, hthree]
    unfold ov5648UpdateBits
    rcases transfers_read op.addr client with
      ⟨hok, value, after, hrun, hafter⟩ | ⟨hfault, e, after, hrun⟩
    · have hvalue := read_value hrun
      rw [hrun] at hread
      dsimp only at hread
      rw [driver_bind_ok hrun, write_chip, store_of_ne haddr, hafter, ← hvalue, hread]
      by_cases hlast : NoFault 1 (client.faults.drop 2)
      · rw [if_pos hlast, if_pos (hsplit.mpr ⟨hok, hlast⟩)]
        rfl
      · rw [if_neg hlast, if_neg fun h => hlast (hsplit.mp h).2]
        rfl
    · rw [hrun] at hread
      rw [driver_bind_error hrun, if_neg fun h => hfault (hsplit.mp h).1]
      exact hread

/-- Without faults, what a routine attempts it does. -/
theorem Attempts.programs {x : Routine Unit} {ops : Program} (h : Attempts x ops) :
    Programs x ops := by
  intro client hfaults
  have hnone : NoFault (programTransfers ops) client.faults := by
    rw [hfaults]
    intro fault hmem
    rw [List.take_nil] at hmem
    exact absurd hmem List.not_mem_nil
  have hchip := h.chip client
  rw [completed_of_noFault hnone] at hchip
  rcases h.transfers client with ⟨-, a, after, hrun, hafter⟩ | ⟨hfault, -⟩
  · rw [hrun] at hchip
    rw [hfaults, List.drop_nil] at hafter
    obtain ⟨chip, faults⟩ := after
    dsimp only at hchip hafter
    rw [hrun, hchip, hafter, ← hfaults]
    rfl
  · exact absurd hnone hfault

/-- A write to part of a register, the bits given by a condition. -/
def flagWrite (address : U16) (mask bits : U8) (h : bits &&& ~~~mask = 0#8) (enable : Bool) :
    MaskedWrite U16 8 :=
  ⟨address, mask, if enable then bits else 0#8, by
    cases enable with
    | false => exact BitVec.zero_and
    | true => exact h⟩

def pll1Program (config : Pll1Config) (bits : U32) : Program :=
  [.full pllCtrl0Reg (pllCtrl0PllChargePump 1 ||| pllCtrl0Bits bits),
    .full pllDivReg (pllDivRootDiv config.rootDiv ||| pllDivPllPreDiv config.pllPreDiv),
    .full pllMulReg (pllMul config.pllMul),
    .full pllCtrl1Reg (pllCtrl1SysDiv config.sysDiv ||| pllCtrl1MipiDiv config.mipiDiv),
    .full srbCtrlReg (srbCtrlSclkDiv config.sclkDiv ||| srbCtrlSclkArbiterEn)]

def pll2Program (config : Pll2Config) : Program :=
  [.full pllsDivReg (pllsDivPllsPreDiv config.pllsPreDiv |||
      pllsDivPllsDivR config.pllsDivR ||| pllsDivPllsSelDiv config.selDiv),
    .full pllsMulReg (pllsMul config.pllsMul),
    .full pllsCtrlReg (pllsCtrlPllChargePump 1 ||| pllsCtrlSysDiv config.sysDiv)]

def timingProgram (mode : Ov5648Mode) : Program :=
  [.full cropStartXHReg (cropStartXH mode.cropStartX),
    .full cropStartXLReg (cropStartXL mode.cropStartX),
    .full offsetXHReg (offsetXH mode.offsetX),
    .full offsetXLReg (offsetXL mode.offsetX),
    .full outputSizeXHReg (outputSizeXH mode.outputSizeX),
    .full outputSizeXLReg (outputSizeXL mode.outputSizeX),
    .full cropEndXHReg (cropEndXH mode.cropEndX),
    .full cropEndXLReg (cropEndXL mode.cropEndX),
    .full htsHReg (htsH mode.hts),
    .full htsLReg (htsL mode.hts),
    .full cropStartYHReg (cropStartYH mode.cropStartY),
    .full cropStartYLReg (cropStartYL mode.cropStartY),
    .full offsetYHReg (offsetYH mode.offsetY),
    .full offsetYLReg (offsetYL mode.offsetY),
    .full outputSizeYHReg (outputSizeYH mode.outputSizeY),
    .full outputSizeYLReg (outputSizeYL mode.outputSizeY),
    .full cropEndYHReg (cropEndYH mode.cropEndY),
    .full cropEndYLReg (cropEndYL mode.cropEndY),
    .full vtsHReg (vtsH mode.vts),
    .full vtsLReg (vtsL mode.vts),
    flagWrite tc20Reg (tc20Debug ||| tc20BinningVertEn) tc20BinningVertEn rfl mode.binningY,
    flagWrite tc21Reg tc21BinningHorzEn tc21BinningHorzEn rfl mode.binningX,
    .full subIncXReg (subIncXOdd mode.incXOdd ||| subIncXEven mode.incXEven),
    .full subIncYReg (subIncYOdd mode.incYOdd ||| subIncYEven mode.incYEven)]

/-- The program of a mode, for a media bus code of the driver's table. -/
def modeProgram (mode : Ov5648Mode) (mbusCode : U32) : Program :=
  timingProgram mode ++
    ((if is8Bit mbusCode then pll1Program mode.pll1Config.1 8
      else pll1Program mode.pll1Config.2 10) ++ pll2Program mode.pll2Config)

theorem writeTransfers_flag {address : U16} {mask bits : U8} {h : bits &&& ~~~mask = 0#8}
    {enable : Bool} (hmask : mask ≠ BitVec.allOnes 8) :
    writeTransfers (flagWrite address mask bits h enable) = 3 := if_neg hmask

theorem attempts_pll1 (config : Pll1Config) (bits : U32) :
    Attempts (ov5648ModePll1Configure.configure config bits) (pll1Program config bits) := by
  unfold ov5648ModePll1Configure.configure pll1Program
  iterate 4 apply attempts_cons (attempts_write (by decide) _)
  exact attempts_write (by decide) _

theorem attempts_pll2 (mode : Ov5648Mode) :
    Attempts (ov5648ModePll2Configure mode) (pll2Program mode.pll2Config) := by
  unfold ov5648ModePll2Configure pll2Program
  iterate 2 apply attempts_cons (attempts_write (by decide) _)
  exact attempts_write (by decide) _

theorem programs_flag {address : U16} {mask bits : U8} {h : bits &&& ~~~mask = 0#8}
    (haddress : address ≠ swResetReg) (enable : Bool) :
    Programs (ov5648UpdateBits address mask (if enable then bits else 0#8))
      [flagWrite address mask bits h enable] :=
  programs_updateBits (flagWrite address mask bits h enable) haddress

theorem attempts_flag {address : U16} {mask bits : U8} {h : bits &&& ~~~mask = 0#8}
    (haddress : address ≠ swResetReg) (hmask : mask ≠ BitVec.allOnes 8) (enable : Bool) :
    Attempts (ov5648UpdateBits address mask (if enable then bits else 0#8))
      [flagWrite address mask bits h enable] :=
  attempts_updateBits (flagWrite address mask bits h enable) haddress hmask

/-- The configuration of a mode makes the writes of its program in order, up to the
first transfer that fails. -/
theorem attempts_modeConfigure {mode : Ov5648Mode} {mbusCode : U32}
    (hvalues : mode.registerValues = [])
    (hcode : is8Bit mbusCode = true ∨ is8Bit mbusCode = false ∧ is10Bit mbusCode = true) :
    Attempts (ov5648ModeConfigure mode mbusCode) (modeProgram mode mbusCode) := by
  have hpll1 : Attempts (ov5648ModePll1Configure mode mbusCode)
      (if is8Bit mbusCode then pll1Program mode.pll1Config.1 8
        else pll1Program mode.pll1Config.2 10) := by
    unfold ov5648ModePll1Configure
    rcases hcode with h8 | ⟨h8, h10⟩
    · rw [if_pos h8, if_pos h8]
      exact attempts_pll1 _ _
    · rw [if_neg (Bool.eq_false_iff.mp h8), if_pos h10, if_neg (Bool.eq_false_iff.mp h8)]
      exact attempts_pll1 _ _
  have hrest : Attempts (do
      ov5648ModePll1Configure mode mbusCode
      ov5648ModePll2Configure mode
      ov5648WriteSequence mode.registerValues)
      ((if is8Bit mbusCode then pll1Program mode.pll1Config.1 8
        else pll1Program mode.pll1Config.2 10) ++ pll2Program mode.pll2Config) := by
    apply attempts_bind hpll1
    rw [hvalues, ← List.append_nil (pll2Program mode.pll2Config)]
    exact attempts_bind (attempts_pll2 mode) attempts_pure
  unfold ov5648ModeConfigure modeProgram timingProgram
  iterate 20 apply attempts_cons (attempts_write (by decide) _)
  apply attempts_cons (attempts_flag (by decide) (by decide) _)
  apply attempts_cons (attempts_flag (by decide) (by decide) _)
  apply attempts_cons (attempts_write (by decide) _)
  apply attempts_cons (attempts_write (by decide) _)
  exact hrest

theorem programs_modeConfigure {mode : Ov5648Mode} {mbusCode : U32}
    (hvalues : mode.registerValues = [])
    (hcode : is8Bit mbusCode = true ∨ is8Bit mbusCode = false ∧ is10Bit mbusCode = true) :
    Programs (ov5648ModeConfigure mode mbusCode) (modeProgram mode mbusCode) :=
  (attempts_modeConfigure hvalues hcode).programs

theorem programTransfers_timingProgram (mode : Ov5648Mode) :
    programTransfers (timingProgram mode) = 28 := by
  have hvert : writeTransfers (flagWrite tc20Reg (tc20Debug ||| tc20BinningVertEn)
      tc20BinningVertEn rfl mode.binningY) = 3 := writeTransfers_flag (by decide)
  have hhorz : writeTransfers (flagWrite tc21Reg tc21BinningHorzEn
      tc21BinningHorzEn rfl mode.binningX) = 3 := writeTransfers_flag (by decide)
  simp only [timingProgram, programTransfers, writeTransfers_full]
  rw [hvert, hhorz]

theorem programTransfers_modeProgram (mode : Ov5648Mode) (mbusCode : U32) :
    programTransfers (modeProgram mode mbusCode) = 36 := by
  have hpll1 : ∀ config bits, programTransfers (pll1Program config bits) = 5 := by
    intro config bits
    simp only [pll1Program, programTransfers, writeTransfers_full]
  have hpll2 : programTransfers (pll2Program mode.pll2Config) = 3 := by
    simp only [pll2Program, programTransfers, writeTransfers_full]
  unfold modeProgram
  rw [programTransfers_append, programTransfers_append, programTransfers_timingProgram,
    hpll2]
  split
  · rw [hpll1]
  · rw [hpll1]

/-- What the initialisation writes after the reset. -/
def initProgram (hasAvdd : Bool) (lanesCount : U32) : Program :=
  [.full swStandbyReg 0#8,
    .full aPwcPkO0Reg (if !hasAvdd then 0#8 else aPwcPkO0BpRegulatorN),
    .full psramCtrl1Reg 0x0d#8,
    .full psramCtrlfReg 0xf5#8,
    .full padOen1Reg 0#8,
    .full padOen2Reg 0#8,
    .full padPkReg (padPkDriveStrength1x ||| padPkFrexN),
    .full mipiCtrl0Reg
      (mipiCtrl0ClkLaneAutogate ||| mipiCtrl0LaneSelectLane1 ||| mipiCtrl0IdleLp11),
    .full mipiScCtrl0Reg
      (mipiScCtrl0MipiLanes lanesCount ||| mipiScCtrl0PhyLpRxPd ||| mipiScCtrl0MipiEn),
    ⟨ispCtrl0Reg, ispCtrl0BlackCorrectEn ||| ispCtrl0WhiteCorrectEn,
      ispCtrl0BlackCorrectEn ||| ispCtrl0WhiteCorrectEn, rfl⟩,
    .full ispCtrl1Reg ispCtrl1AwbEn,
    .full ispCtrl2Reg (ispCtrl2WinEn ||| ispCtrl2AwbGainEn),
    .full ispCtrl3Reg (ispCtrl3BufEn ||| ispCtrl3BinAutoEn),
    .full ispCtrl4Reg 0#8,
    .full ispCtrl1fReg ispCtrl1fOutputEn,
    .full ispCtrl4bReg (ispCtrl4bPostBinHEn ||| ispCtrl4bPostBinVEn),
    .full aecCtrl0Reg (aecCtrl0Debug ||| aecCtrl0StartSelEn),
    .full manualCtrlReg (manualCtrlFrameDelay 1),
    .full blcCtrl1Reg (blcCtrl1StartLine 2),
    .full blcCtrl2Reg (blcCtrl2AutoEn ||| blcCtrl2ResetFrameNum 5),
    .full blcLineNumReg (blcLineNum 4),
    ⟨blcCtrl5Reg, blcCtrl5UpdateEn, blcCtrl5UpdateEn, rfl⟩]

/-- Whether the control of the cluster that switches between automatic and manual
stands at manual; the clusters of one control have no such switch. -/
def manualMode (vals : Ov5648Ctrls) : Ov5648Cluster → Bool
  | .exposureAuto => vals.exposureManual
  | .autogain => !vals.gainAuto
  | .autoWhiteBalance => !vals.whiteBalanceAuto
  | .hflip | .vflip | .testPattern => false

/-- What setting a cluster always writes. -/
def switchProgram (vals : Ov5648Ctrls) : Ov5648Cluster → Program
  | .exposureAuto =>
      [flagWrite manualCtrlReg manualCtrlAecManualEn manualCtrlAecManualEn rfl
        vals.exposureManual]
  | .autogain =>
      [flagWrite manualCtrlReg manualCtrlAgcManualEn manualCtrlAgcManualEn rfl (!vals.gainAuto)]
  | .autoWhiteBalance =>
      [.full awbCtrlReg (if vals.whiteBalanceAuto then 0#8 else awbCtrlGainManualEn)]
  | .hflip =>
      [flagWrite tc21Reg (tc21FlipHorzIspEn ||| tc21FlipHorzSensorEn)
        (tc21FlipHorzIspEn ||| tc21FlipHorzSensorEn) rfl vals.hflip]
  | .vflip =>
      [flagWrite tc20Reg (tc20FlipVertIspEn ||| tc20FlipVertSensorEn)
        (tc20FlipVertIspEn ||| tc20FlipVertSensorEn) rfl vals.vflip]
  | .testPattern => [.full ispCtrl3dReg (ov5648TestPatternBits.getD vals.testPattern 0#8)]

/-- What it writes in manual mode. -/
def valueProgram (vals : Ov5648Ctrls) : Ov5648Cluster → Program
  | .exposureAuto =>
      [.full exposureCtrlHhReg (exposureCtrlHh vals.exposure),
        .full exposureCtrlHReg (exposureCtrlH vals.exposure),
        .full exposureCtrlLReg (exposureCtrlL vals.exposure)]
  | .autogain =>
      [.full gainCtrlHReg (gainCtrlH vals.gain), .full gainCtrlLReg (gainCtrlL vals.gain)]
  | .autoWhiteBalance =>
      [.full gainRedManHReg (gainRedManH vals.redBalance),
        .full gainRedManLReg (gainRedManL vals.redBalance),
        .full gainBlueManHReg (gainBlueManH vals.blueBalance),
        .full gainBlueManLReg (gainBlueManL vals.blueBalance)]
  | .hflip | .vflip | .testPattern => []

def clusterProgram (vals : Ov5648Ctrls) (cluster : Ov5648Cluster) : Program :=
  switchProgram vals cluster ++
    if manualMode vals cluster then valueProgram vals cluster else []

theorem programs_unless_throw {b : Bool} {x : Routine Unit} {ops : Program} (hb : b = false)
    (hx : Programs x ops) : Programs (do
      if b then throw .einval
      x) ops := by
  subst hb
  exact hx

theorem programs_when {b : Bool} {x : Routine Unit} {ops : Program}
    (hx : b = true → Programs x ops) :
    Programs (if b then x else pure ()) (if b then ops else []) := by
  cases b with
  | false => exact programs_pure
  | true => exact hx rfl

theorem programs_whiteBalance (vals : Ov5648Ctrls) (h : vals.whiteBalanceAuto = false) :
    Programs (ov5648WhiteBalanceConfigure vals.whiteBalanceAuto vals.redBalance
      vals.blueBalance) (valueProgram vals .autoWhiteBalance) := by
  apply programs_unless_throw h
  apply programs_cons (programs_write (by decide) _)
  apply programs_cons (programs_write (by decide) _)
  apply programs_cons (programs_write (by decide) _)
  exact programs_write (by decide) _

theorem programs_gain (vals : Ov5648Ctrls) (h : vals.gainAuto = false) :
    Programs (ov5648GainConfigure vals.gainAuto vals.gain) (valueProgram vals .autogain) := by
  apply programs_unless_throw h
  apply programs_cons (programs_write (by decide) _)
  exact programs_write (by decide) _

theorem programs_exposure (vals : Ov5648Ctrls) (h : vals.exposureManual = true) :
    Programs (ov5648ExposureConfigure vals.exposureManual vals.exposure)
      (valueProgram vals .exposureAuto) := by
  have hthrow : (!vals.exposureManual) = false := by
    rw [h]
    rfl
  apply programs_unless_throw hthrow
  apply programs_cons (programs_write (by decide) _)
  apply programs_cons (programs_write (by decide) _)
  exact programs_write (by decide) _

theorem programs_switch (address : U16) (bits : U8) (haddress : address ≠ swResetReg)
    (h : bits &&& ~~~bits = 0#8) (enable : Bool) :
    Programs (ov5648UpdateBits address bits (if enable then 0#8 else bits))
      [flagWrite address bits bits h (!enable)] := by
  have hflag := programs_flag (h := h) haddress (!enable)
  cases enable with
  | false => exact hflag
  | true => exact hflag

theorem programs_setCluster {vals : Ov5648Ctrls} (hpattern : vals.testPattern < 6)
    (cluster : Ov5648Cluster) :
    Programs (ov5648SCtrl.setCluster cluster vals true) (clusterProgram vals cluster) := by
  cases cluster with
  | exposureAuto =>
      have hswitch := programs_switch manualCtrlReg manualCtrlAecManualEn (by decide) rfl
        (!vals.exposureManual)
      rw [Bool.not_not] at hswitch
      refine programs_bind hswitch ?_
      rw [Bool.and_true]
      exact programs_when (programs_exposure vals)
  | autogain =>
      refine programs_bind (programs_switch _ _ (by decide) rfl vals.gainAuto) ?_
      refine programs_when fun h => programs_gain vals ?_
      rwa [Bool.not_eq_true'] at h
  | autoWhiteBalance =>
      refine programs_bind (programs_write (by decide) _) ?_
      refine programs_when fun h => programs_whiteBalance vals ?_
      rwa [Bool.not_eq_true'] at h
  | hflip => exact programs_flag (by decide) vals.hflip
  | vflip => exact programs_flag (by decide) vals.vflip
  | testPattern =>
      have hbits : ov5648TestPatternBits[vals.testPattern]? =
          some (ov5648TestPatternBits.getD vals.testPattern 0#8) := by
        rw [List.getD_eq_getElem?_getD, List.getElem?_eq_getElem hpattern, Option.getD_some]
      change Programs (ov5648TestPatternConfigure vals.testPattern) _
      unfold ov5648TestPatternConfigure
      rw [hbits]
      exact programs_write (by decide) _

/-- In manual mode, an exposure that is not new is left alone. -/
theorem programs_setExposureSwitch (vals : Ov5648Ctrls) :
    Programs (ov5648SCtrl.setCluster .exposureAuto vals false)
      (switchProgram vals .exposureAuto) := by
  have hswitch := programs_switch manualCtrlReg manualCtrlAecManualEn (by decide) rfl
    (!vals.exposureManual)
  rw [Bool.not_not] at hswitch
  rw [← List.append_nil (switchProgram vals .exposureAuto)]
  refine programs_bind hswitch ?_
  rw [Bool.and_false]
  exact programs_pure

end CameraPorting.SensorOv5648.RegisterPrograms
