import CameraPorting.SensorOv5648.RegisterPrograms

namespace CameraPorting.SensorOv5648.PowerUp

open CameraPorting.Kernel.Media
open CameraPorting.Kernel.I2c
open CameraPorting.Library.MaskedWrites
open CameraPorting.SensorOv5648.Registers
open CameraPorting.SensorOv5648.Modes
open CameraPorting.SensorOv5648.RegisterAccess
open CameraPorting.SensorOv5648.Sensor
open CameraPorting.SensorOv5648.RegisterPrograms

/-- A sensor that does not stream, with nothing that fails from here on. The code
and the mode are entries of the tables. -/
structure Quiet (s : Ov5648) : Prop where
  transfers : s.client.faults = []
  supplies : s.supplies.faults = []
  xvclkRate : s.xvclkRate = ov5648XvclkRate
  pmEnabled : s.pmEnabled = true
  idle : s.streaming = false
  mode_mem : s.mode ∈ ov5648Modes
  code_mem : s.mbusCode ∈ ov5648MbusCodes
  pattern_lt : s.ctrls.testPattern < 6

/-- The same sensor on the same board, in the same configuration. -/
structure SameConfig (s t : Ov5648) : Prop where
  resetImage : t.client.chip.resetImage = s.client.chip.resetImage
  hasAvdd : t.hasAvdd = s.hasAvdd
  numDataLanes : t.numDataLanes = s.numDataLanes
  mode : t.mode = s.mode
  mbusCode : t.mbusCode = s.mbusCode
  ctrls : t.ctrls = s.ctrls

def withClient (s : Ov5648) (client : I2cClient Chip) : Ov5648 := { s with client := client }

def withSupplies (s : Ov5648) (supplies : Supplies) : Ov5648 := { s with supplies := supplies }

def withLink (s : Ov5648) (linkFreq pixelRate : Nat) : Ov5648 :=
  { s with linkFreq := linkFreq, pixelRate := pixelRate }

def withMode (s : Ov5648) (mode : Ov5648Mode) (mbusCode : U32) : Ov5648 :=
  { s with mode := mode, mbusCode := mbusCode }

theorem registerValues_of_mem {mode : Ov5648Mode} (h : mode ∈ ov5648Modes) :
    mode.registerValues = [] := by
  have hall : ∀ m ∈ ov5648Modes, m.registerValues = [] := by decide
  exact hall mode h

theorem pll1Config_of_mem {mode : Ov5648Mode} (h : mode ∈ ov5648Modes) :
    mode.pll1Config = (ov5648Pll1ConfigNative8Bits, ov5648Pll1ConfigNative10Bits) := by
  have hall : ∀ m ∈ ov5648Modes,
      m.pll1Config = (ov5648Pll1ConfigNative8Bits, ov5648Pll1ConfigNative10Bits) := by
    decide
  exact hall mode h

theorem mipiClkRate_ne_zero {mode : Ov5648Mode} {mbusCode : U32} (hmode : mode ∈ ov5648Modes)
    (hcode : mbusCode ∈ ov5648MbusCodes) :
    ov5648ModeMipiClkRate ov5648XvclkRate mode mbusCode ≠ 0 := by
  unfold ov5648ModeMipiClkRate
  rw [pll1Config_of_mem hmode]
  rcases bits_of_mem_mbusCodes hcode with h8 | ⟨h8, h10⟩
  · rw [if_pos h8]
    decide
  · rw [if_neg (Bool.eq_false_iff.mp h8), if_pos h10]
    decide

theorem pixelRate_spec {mbusCode : U32} (hcode : mbusCode ∈ ov5648MbusCodes) (rate : Nat)
    (s : Ov5648) :
    ∃ pixelRate, (if is8Bit mbusCode then ov5648StateMipiConfigure.setPixelRate rate 8
      else if is10Bit mbusCode then ov5648StateMipiConfigure.setPixelRate rate 10
      else throw .einval : SensorRoutine Unit) s =
        (.ok (), { s with pixelRate := pixelRate }) := by
  rcases bits_of_mem_mbusCodes hcode with h8 | ⟨h8, h10⟩
  · rw [if_pos h8]
    exact ⟨_, rfl⟩
  · rw [if_neg (Bool.eq_false_iff.mp h8), if_pos h10]
    exact ⟨_, rfl⟩

/-- The link frequency and pixel rate controls apart, the configuration of the
link changes nothing. -/
theorem stateMipiConfigure_spec {s : Ov5648} (hrate : s.xvclkRate = ov5648XvclkRate)
    {mode : Ov5648Mode} {mbusCode : U32} (hmode : mode ∈ ov5648Modes)
    (hcode : mbusCode ∈ ov5648MbusCodes) :
    ∃ linkFreq pixelRate, ov5648StateMipiConfigure mode mbusCode s =
      (.ok (), withLink s linkFreq pixelRate) := by
  have hne := mipiClkRate_ne_zero hmode hcode
  rw [← hrate] at hne
  unfold ov5648StateMipiConfigure
  rw [driver_bind_ok (driver_get s)]
  simp only [if_neg hne]
  split
  · rw [driver_bind_ok (driver_modify _ s)]
    obtain ⟨pixelRate, h⟩ := pixelRate_spec hcode _ _
    exact ⟨_, pixelRate, h⟩
  · obtain ⟨pixelRate, h⟩ := pixelRate_spec hcode _ s
    exact ⟨s.linkFreq, pixelRate, h⟩

theorem onClient_run {α : Type} {x : Routine α} {s : Ov5648} {r : Except Errno α}
    {client : I2cClient Chip} (h : x s.client = (r, client)) :
    onClient x s = (r, withClient s client) := by
  unfold onClient
  rw [h]
  rfl

theorem onClient_programs {x : Routine Unit} {ops : Program} (h : Programs x ops) {s : Ov5648}
    (hfaults : s.client.faults = []) :
    onClient x s = (.ok (), withClient s (afterProgram ops s.client)) :=
  onClient_run (h s.client hfaults)

theorem onClient_bind {α : Type} {x : Routine Unit} {ops : Program} (h : Programs x ops)
    {s : Ov5648} (f : Unit → SensorRoutine α) (hfaults : s.client.faults = []) :
    (onClient x >>= f) s = f () (withClient s (afterProgram ops s.client)) :=
  driver_bind_ok (onClient_programs h hfaults) f

/-- A mode and a code of the tables can always be configured; the registers follow
while the sensor is not suspended. -/
theorem stateConfigure_spec {s : Ov5648} (h : Quiet s) {mode : Ov5648Mode} {mbusCode : U32}
    (hmode : mode ∈ ov5648Modes) (hcode : mbusCode ∈ ov5648MbusCodes) :
    ∃ linkFreq pixelRate, ov5648StateConfigure mode mbusCode s =
      (.ok (), withMode (withLink (withClient s (if s.suspended then s.client
        else afterProgram (modeProgram mode mbusCode) s.client)) linkFreq pixelRate)
          mode mbusCode) := by
  unfold ov5648StateConfigure
  rw [driver_bind_ok (driver_get s), h.idle, h.pmEnabled]
  rcases s.suspended with _ | _
  · have hprogram := onClient_programs
      (programs_modeConfigure (registerValues_of_mem hmode) (bits_of_mem_mbusCodes hcode))
      h.transfers
    obtain ⟨linkFreq, pixelRate, hmipi⟩ := stateMipiConfigure_spec
      (s := withClient s (afterProgram (modeProgram mode mbusCode) s.client)) h.xvclkRate
      hmode hcode
    refine ⟨linkFreq, pixelRate, ?_⟩
    change (onClient (ov5648ModeConfigure mode mbusCode) >>= fun _ =>
      ov5648StateMipiConfigure mode mbusCode >>= _) s = _
    rw [driver_bind_ok hprogram, driver_bind_ok hmipi]
    rfl
  · obtain ⟨linkFreq, pixelRate, hmipi⟩ := stateMipiConfigure_spec (s := s) h.xvclkRate hmode hcode
    refine ⟨linkFreq, pixelRate, ?_⟩
    change (ov5648StateMipiConfigure mode mbusCode >>= _) s = _
    rw [driver_bind_ok hmipi]
    rfl

/-- The client after a power-up or a reset. -/
def resetClient (client : I2cClient Chip) : I2cClient Chip :=
  { client with chip := { client.chip with regs := client.chip.resetImage } }

/-- The reset image holds the chip id the driver looks for. -/
def ChipIdOk (chip : Chip) : Prop :=
  chip.resetImage chipIdHReg = chipIdHValue ∧ chip.resetImage chipIdLReg = chipIdLValue

theorem afterProgram_reset (ops : Program) (client : I2cClient Chip) :
    (afterProgram ops (resetClient client)).chip.regs = run ops client.chip.resetImage := rfl

theorem swReset_ok {s : Ov5648} (h : s.client.faults = []) :
    onClient ov5648SwReset s = (.ok (), withClient s (resetClient s.client)) :=
  onClient_run (write_ok h swResetReg swResetReset)

theorem chipIdCheck_ok {client : I2cClient Chip} (hfaults : client.faults = [])
    (hhigh : client.chip.regs chipIdHReg = chipIdHValue)
    (hlow : client.chip.regs chipIdLReg = chipIdLValue) :
    ov5648ChipIdCheck client = (.ok (), client) := by
  unfold ov5648ChipIdCheck
  rw [driver_bind_ok (read_ok hfaults chipIdHReg), hhigh]
  change (ov5648Read chipIdLReg >>= _) client = _
  rw [driver_bind_ok (read_ok hfaults chipIdLReg), hlow]
  rfl

theorem chipIdCheck_error {client : I2cClient Chip} (hfaults : client.faults = [])
    (h : ¬(client.chip.regs chipIdHReg = chipIdHValue ∧
      client.chip.regs chipIdLReg = chipIdLValue)) :
    ov5648ChipIdCheck client = (.error .einval, client) := by
  unfold ov5648ChipIdCheck
  rw [driver_bind_ok (read_ok hfaults chipIdHReg)]
  by_cases hhigh : client.chip.regs chipIdHReg = chipIdHValue
  · have hlow : client.chip.regs chipIdLReg ≠ chipIdLValue := fun hlow => h ⟨hhigh, hlow⟩
    rw [hhigh]
    change (ov5648Read chipIdLReg >>= _) client = _
    rw [driver_bind_ok (read_ok hfaults chipIdLReg)]
    simp only [if_pos hlow]
    rfl
  · simp only [if_pos (show client.chip.regs chipIdHReg ≠ chipIdHValue from hhigh)]
    rfl

theorem programs_padConfigure : Programs ov5648PadConfigure
    [.full padOen1Reg 0#8, .full padOen2Reg 0#8,
      .full padPkReg (padPkDriveStrength1x ||| padPkFrexN)] := by
  apply programs_cons (programs_write (by decide) _)
  apply programs_cons (programs_write (by decide) _)
  exact programs_write (by decide) _

theorem programs_avddInternalPower (on : Bool) : Programs (ov5648AvddInternalPower on)
    [.full aPwcPkO0Reg (if on then 0#8 else aPwcPkO0BpRegulatorN)] :=
  programs_write (by decide) _

theorem programs_mipiConfigure (lanesCount : U32) : Programs (ov5648MipiConfigure lanesCount)
    [.full mipiCtrl0Reg
        (mipiCtrl0ClkLaneAutogate ||| mipiCtrl0LaneSelectLane1 ||| mipiCtrl0IdleLp11),
      .full mipiScCtrl0Reg
        (mipiScCtrl0MipiLanes lanesCount ||| mipiScCtrl0PhyLpRxPd ||| mipiScCtrl0MipiEn)] := by
  apply programs_cons (programs_write (by decide) _)
  exact programs_write (by decide) _

theorem programs_initSequence : Programs (ov5648WriteSequence ov5648InitSequence)
    [.full psramCtrl1Reg 0x0d#8, .full psramCtrlfReg 0xf5#8] := by
  apply programs_cons (programs_write (by decide) _)
  apply programs_cons (programs_write (by decide) _)
  exact programs_pure

theorem programs_ispConfigure : Programs ov5648IspConfigure
    [⟨ispCtrl0Reg, ispCtrl0BlackCorrectEn ||| ispCtrl0WhiteCorrectEn,
        ispCtrl0BlackCorrectEn ||| ispCtrl0WhiteCorrectEn, rfl⟩,
      .full ispCtrl1Reg ispCtrl1AwbEn,
      .full ispCtrl2Reg (ispCtrl2WinEn ||| ispCtrl2AwbGainEn),
      .full ispCtrl3Reg (ispCtrl3BufEn ||| ispCtrl3BinAutoEn),
      .full ispCtrl4Reg 0#8,
      .full ispCtrl1fReg ispCtrl1fOutputEn,
      .full ispCtrl4bReg (ispCtrl4bPostBinHEn ||| ispCtrl4bPostBinVEn),
      .full aecCtrl0Reg (aecCtrl0Debug ||| aecCtrl0StartSelEn),
      .full manualCtrlReg (manualCtrlFrameDelay 1)] := by
  refine programs_cons (programs_updateBits ⟨ispCtrl0Reg,
    ispCtrl0BlackCorrectEn ||| ispCtrl0WhiteCorrectEn,
    ispCtrl0BlackCorrectEn ||| ispCtrl0WhiteCorrectEn, rfl⟩ (by decide)) ?_
  iterate 7 apply programs_cons (programs_write (by decide) _)
  exact programs_write (by decide) _

theorem programs_blackLevelConfigure : Programs ov5648BlackLevelConfigure
    [.full blcCtrl1Reg (blcCtrl1StartLine 2),
      .full blcCtrl2Reg (blcCtrl2AutoEn ||| blcCtrl2ResetFrameNum 5),
      .full blcLineNumReg (blcLineNum 4),
      ⟨blcCtrl5Reg, blcCtrl5UpdateEn, blcCtrl5UpdateEn, rfl⟩] := by
  iterate 3 apply programs_cons (programs_write (by decide) _)
  exact programs_updateBits ⟨blcCtrl5Reg, blcCtrl5UpdateEn, blcCtrl5UpdateEn, rfl⟩ (by decide)

theorem afterProgram_afterProgram (ops more : Program) (client : I2cClient Chip) :
    afterProgram more (afterProgram ops client) = afterProgram (ops ++ more) client := by
  simp only [afterProgram, run_append]

theorem Quiet.withClient {s : Ov5648} (h : Quiet s) {client : I2cClient Chip}
    (hfaults : client.faults = []) : Quiet (withClient s client) :=
  { h with transfers := hfaults }

/-- The sensor as its initialisation finds it: reset, and in standby. -/
def inStandby (s : Ov5648) : Ov5648 :=
  withClient s (afterProgram [.full swStandbyReg 0#8] (resetClient s.client))

theorem standby_ok {s : Ov5648} (hfaults : s.client.faults = []) :
    onClient (ov5648SwStandby true) (withClient s (resetClient s.client)) =
      (.ok (), inStandby s) :=
  onClient_programs (programs_write (by decide) 0#8) hfaults

/-- Up to its last step, the configuration of the current mode, the initialisation of
a chip with the right id is a program. -/
theorem sensorInit_spec {s : Ov5648} (hfaults : s.client.faults = [])
    (hid : ChipIdOk s.client.chip) :
    ov5648SensorInit s = ov5648StateConfigure s.mode s.mbusCode (withClient s
      (afterProgram (initProgram s.hasAvdd s.numDataLanes) (resetClient s.client))) := by
  have hquiet : (inStandby s).client.faults = [] := hfaults
  have hcheck : onClient ov5648ChipIdCheck (inStandby s) = (.ok (), inStandby s) := by
    unfold onClient
    rw [chipIdCheck_ok hquiet hid.1 hid.2]
  unfold ov5648SensorInit
  rw [driver_bind_ok (swReset_ok hfaults), driver_bind_ok (standby_ok hfaults),
    driver_bind_ok hcheck, driver_bind_ok (driver_get (inStandby s)),
    onClient_bind (programs_avddInternalPower _), onClient_bind programs_initSequence,
    onClient_bind programs_padConfigure, onClient_bind (programs_mipiConfigure _),
    onClient_bind programs_ispConfigure, onClient_bind programs_blackLevelConfigure,
    driver_bind_ok (driver_get _)]
  · rfl
  all_goals exact hfaults

theorem sensorInit_ok {s : Ov5648} (h : Quiet s) (hsuspended : s.suspended = false)
    (hid : ChipIdOk s.client.chip) :
    ∃ linkFreq pixelRate, ov5648SensorInit s = (.ok (), withLink (withClient s
      (afterProgram (initProgram s.hasAvdd s.numDataLanes ++ modeProgram s.mode s.mbusCode)
        (resetClient s.client))) linkFreq pixelRate) := by
  obtain ⟨linkFreq, pixelRate, hconfigure⟩ := stateConfigure_spec
    (s := withClient s (afterProgram (initProgram s.hasAvdd s.numDataLanes)
      (resetClient s.client))) (h.withClient h.transfers) h.mode_mem h.code_mem
  refine ⟨linkFreq, pixelRate, ?_⟩
  rw [sensorInit_spec h.transfers hid, hconfigure, ← afterProgram_afterProgram, if_neg]
  · rfl
  · exact Bool.eq_false_iff.mp hsuspended

theorem sensorInit_error {s : Ov5648} (h : Quiet s) (hid : ¬ChipIdOk s.client.chip) :
    ov5648SensorInit s = (.error .einval, withClient s
      (afterProgram [.full swStandbyReg 0#8] (resetClient s.client))) := by
  have hfaults : (inStandby s).client.faults = [] := h.transfers
  have hcheck : onClient ov5648ChipIdCheck (inStandby s) = (.error .einval, inStandby s) := by
    unfold onClient
    rw [chipIdCheck_error hfaults hid]
  unfold ov5648SensorInit
  rw [driver_bind_ok (swReset_ok h.transfers), driver_bind_ok (standby_ok h.transfers),
    driver_bind_error hcheck]
  rfl

theorem supplyEnable_ok {s : Ov5648} (h : s.supplies.faults = [])
    (enable : Supplies → Supplies) :
    supplyEnable enable s = (.ok (), withSupplies s (enable s.supplies)) := by
  unfold supplyEnable
  rw [h]
  rfl

/-- The supplies after a power-up. -/
def suppliesOn (hasAvdd : Bool) (p : Supplies) : Supplies :=
  { p with
    dovdd := p.dovdd + 1
    avdd := if hasAvdd then p.avdd + 1 else p.avdd
    dvdd := p.dvdd + 1
    xvclk := p.xvclk + 1 }

theorem supplyEnable_bind {α : Type} {s : Ov5648} (enable : Supplies → Supplies)
    (f : Unit → SensorRoutine α) (h : s.supplies.faults = []) :
    (supplyEnable enable >>= f) s = f () (withSupplies s (enable s.supplies)) :=
  driver_bind_ok (supplyEnable_ok h enable) f

/-- With its supplies on, the sensor is initialised from the reset image. -/
theorem powerOn_spec {s : Ov5648} (h : s.supplies.faults = []) :
    powerOn s = ov5648SensorInit (withClient
      (withSupplies s (suppliesOn s.hasAvdd s.supplies)) (resetClient s.client)) := by
  unfold powerOn
  rw [driver_bind_ok (driver_get s), supplyEnable_bind]
  · rcases s.hasAvdd with _ | _
    · change (supplyEnable _ >>= _) _ = _
      rw [supplyEnable_bind, supplyEnable_bind, driver_bind_ok (driver_modify _ _)]
      · rfl
      all_goals exact h
    · change (supplyEnable _ >>= _) _ = _
      rw [supplyEnable_bind]
      · change (supplyEnable _ >>= _) _ = _
        rw [supplyEnable_bind, supplyEnable_bind, driver_bind_ok (driver_modify _ _)]
        · rfl
        all_goals exact h
      all_goals exact h
  · exact h

/-- The programs of all clusters, in the order the replay sets them. -/
def clustersProgram (ctrls : Ov5648Ctrls) (clusters : List Ov5648Cluster) : Program :=
  clusters.flatMap (clusterProgram ctrls)

theorem sCtrl_ok {s : Ov5648} (h : Quiet s) (hsuspended : s.suspended = false)
    {vals : Ov5648Ctrls} {cluster : Ov5648Cluster} {isNew : Bool} {ops : Program}
    (hops : Programs (ov5648SCtrl.setCluster cluster vals isNew) ops) :
    ov5648SCtrl cluster vals isNew s = (.ok (), withClient s (afterProgram ops s.client)) := by
  unfold ov5648SCtrl
  rw [driver_bind_ok (driver_get s), hsuspended]
  exact onClient_programs hops h.transfers

theorem handlerSetup_ok {s : Ov5648} (h : Quiet s) (hsuspended : s.suspended = false)
    (clusters : List Ov5648Cluster) :
    v4l2CtrlHandlerSetup clusters s =
      (.ok (), withClient s (afterProgram (clustersProgram s.ctrls clusters) s.client)) := by
  induction clusters generalizing s with
  | nil => rfl
  | cons cluster rest ih =>
      have hrest := ih (s := withClient s (afterProgram (clusterProgram s.ctrls cluster)
        s.client)) (h.withClient h.transfers) hsuspended
      unfold v4l2CtrlHandlerSetup
      rw [driver_bind_ok (driver_get s), driver_bind_ok
        (sCtrl_ok h hsuspended (programs_setCluster h.pattern_lt cluster)), hrest]
      change _ = (_, withClient s (afterProgram
        (clusterProgram s.ctrls cluster ++ clustersProgram s.ctrls rest) s.client))
      rw [← afterProgram_afterProgram]
      rfl

/-- What a power-up writes, as a function of the board and the configuration. -/
def powerUpProgram (s : Ov5648) : Program :=
  initProgram s.hasAvdd s.numDataLanes ++
    (modeProgram s.mode s.mbusCode ++ clustersProgram s.ctrls ov5648Clusters)

theorem sensorPower_ok {s : Ov5648} (h : Quiet s) (hsuspended : s.suspended = false)
    (hid : ChipIdOk s.client.chip) :
    ∃ linkFreq pixelRate, ov5648SensorPower true s = (.ok (), withLink (withClient
      (withSupplies s (suppliesOn s.hasAvdd s.supplies))
      (afterProgram (initProgram s.hasAvdd s.numDataLanes ++ modeProgram s.mode s.mbusCode)
        (resetClient s.client))) linkFreq pixelRate) := by
  have hpowered : Quiet (withClient (withSupplies s (suppliesOn s.hasAvdd s.supplies))
      (resetClient s.client)) := { h with }
  obtain ⟨linkFreq, pixelRate, hinit⟩ := sensorInit_ok hpowered hsuspended hid
  refine ⟨linkFreq, pixelRate, ?_⟩
  unfold ov5648SensorPower
  rw [if_pos rfl, powerOn_spec h.supplies, hinit]
  rfl

theorem resumeControls_ok {s : Ov5648} (h : Quiet s) (hsuspended : s.suspended = false) :
    resumeControls s =
      (.ok (), withClient s (afterProgram (clustersProgram s.ctrls ov5648Clusters) s.client)) := by
  unfold resumeControls
  rw [driver_bind_ok (handlerSetup_ok h hsuspended ov5648Clusters),
    driver_bind_ok (driver_get _), if_neg]
  · rfl
  · exact Bool.eq_false_iff.mp h.idle

theorem resume_ok {s : Ov5648} (h : Quiet s) (hsuspended : s.suspended = false)
    (hid : ChipIdOk s.client.chip) :
    ∃ linkFreq pixelRate, ov5648Resume s = (.ok (), withLink (withClient
      (withSupplies s (suppliesOn s.hasAvdd s.supplies))
      (afterProgram (powerUpProgram s) (resetClient s.client))) linkFreq pixelRate) := by
  obtain ⟨linkFreq, pixelRate, hpower⟩ := sensorPower_ok h hsuspended hid
  let powered := withLink (withClient (withSupplies s (suppliesOn s.hasAvdd s.supplies))
      (afterProgram (initProgram s.hasAvdd s.numDataLanes ++ modeProgram s.mode s.mbusCode)
        (resetClient s.client))) linkFreq pixelRate
  have hpowered : Quiet powered := { h with }
  refine ⟨linkFreq, pixelRate, ?_⟩
  unfold ov5648Resume
  rw [driver_bind_ok hpower, resumeControls_ok hpowered hsuspended, powerUpProgram,
    ← List.append_assoc, ← afterProgram_afterProgram]
  rfl

/-- A runtime resume on a chip with the right id: the registers are those of the
power-up program. -/
theorem pmRuntimeResume_ok {s : Ov5648} (h : Quiet s) (hsuspended : s.suspended = true)
    (hid : ChipIdOk s.client.chip) :
    ∃ t, pmRuntimeResume s = (.ok (), t) ∧ Quiet t ∧ SameConfig s t ∧ t.suspended = false ∧
      t.client.chip.regs = run (powerUpProgram s) s.client.chip.resetImage := by
  let awake : Ov5648 := { s with suspended := false }
  have hawake : Quiet awake := { h with }
  obtain ⟨linkFreq, pixelRate, hresume⟩ := resume_ok hawake rfl hid
  refine ⟨withLink (withClient (withSupplies awake (suppliesOn s.hasAvdd s.supplies))
    (afterProgram (powerUpProgram s) (resetClient s.client))) linkFreq pixelRate, ?_,
    { h with }, ⟨rfl, rfl, rfl, rfl, rfl, rfl⟩, rfl, afterProgram_reset _ _⟩
  unfold pmRuntimeResume
  rw [if_pos hsuspended, hresume]
  rfl

theorem pmRuntimeResume_error {s : Ov5648} (h : Quiet s) (hsuspended : s.suspended = true)
    (hid : ¬ChipIdOk s.client.chip) :
    ∃ t, pmRuntimeResume s = (.error .einval, t) ∧ Quiet t ∧ SameConfig s t ∧
      t.suspended = true := by
  let awake : Ov5648 := { s with suspended := false }
  have hawake : Quiet awake := { h with }
  have hpowered : Quiet (withClient (withSupplies awake (suppliesOn s.hasAvdd s.supplies))
      (resetClient s.client)) := { h with }
  let t := powerOff (withClient (withSupplies awake (suppliesOn s.hasAvdd s.supplies))
    (afterProgram [.full swStandbyReg 0#8] (resetClient s.client)))
  have hpower : ov5648SensorPower true awake = (.error .einval, t) := by
    unfold ov5648SensorPower
    rw [if_pos rfl, powerOn_spec hawake.supplies, sensorInit_error hpowered hid]
    rfl
  have hresume : ov5648Resume awake = (.error .einval, t) := driver_bind_error hpower _
  refine ⟨{ t with suspended := true }, ?_, { h with }, ⟨rfl, rfl, rfl, rfl, rfl, rfl⟩, rfl⟩
  unfold pmRuntimeResume
  rw [if_pos hsuspended, hresume]

theorem pmRuntimeSuspend_ok {s : Ov5648} (h : Quiet s) :
    ∃ t, pmRuntimeSuspend s = (.ok (), t) ∧ Quiet t ∧ SameConfig s t ∧ t.suspended = true := by
  unfold pmRuntimeSuspend
  rcases hsuspended : s.suspended with _ | _
  · have hsuspend : ov5648Suspend s = (.ok (), powerOff s) := by
      unfold ov5648Suspend
      rw [driver_bind_ok (driver_get s), h.idle]
      rfl
    rw [hsuspend]
    exact ⟨_, rfl, { h with }, ⟨rfl, rfl, rfl, rfl, rfl, rfl⟩, rfl⟩
  · exact ⟨s, rfl, h, ⟨rfl, rfl, rfl, rfl, rfl, rfl⟩, hsuspended⟩

end CameraPorting.SensorOv5648.PowerUp
