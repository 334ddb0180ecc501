import CameraPorting.SensorOv5648.StreamBalance

namespace CameraPorting.SensorOv5648.StreamRestore

open CameraPorting.Kernel.Media
open CameraPorting.Kernel.I2c
open CameraPorting.Library.MaskedWrites
open CameraPorting.SensorOv5648.Registers
open CameraPorting.SensorOv5648.Modes
open CameraPorting.SensorOv5648.RegisterAccess
open CameraPorting.SensorOv5648.Sensor
open CameraPorting.SensorOv5648.RegisterPrograms
open CameraPorting.SensorOv5648.PowerUp
open CameraPorting.SensorOv5648.RegisterImage
open CameraPorting.SensorOv5648.StreamBalance

def Powered (s : Ov5648) : Prop :=
  0 < s.supplies.dovdd ∧ (s.hasAvdd = true → 0 < s.supplies.avdd) ∧ 0 < s.supplies.dvdd ∧
    0 < s.supplies.xvclk

/-- A probed and powered sensor with nothing that fails from here on. -/
structure Serviceable (s : Ov5648) : Prop where
  transfers : s.client.faults = []
  supplies : s.supplies.faults = []
  xvclkRate : s.xvclkRate = ov5648XvclkRate
  pmEnabled : s.pmEnabled = true
  awake : s.suspended = false
  powered : Powered s
  chipId : ChipIdOk s.client.chip
  mode_mem : s.mode ∈ ov5648Modes
  code_mem : s.mbusCode ∈ ov5648MbusCodes
  pattern_lt : s.ctrls.testPattern < 6

def suspended (s : Ov5648) : Ov5648 := (ov5648Suspend s).2

def resumed (s : Ov5648) : Ov5648 := (ov5648Resume (suspended s)).2

/-- What a suspend and the resume after it promise. The mode registers are those of
the mode when configuring it again changes nothing. -/
structure RestoresStreaming (s : Ov5648) : Prop where
  suspend_ok : (ov5648Suspend s).1 = .ok ()
  resume_ok : (ov5648Resume (suspended s)).1 = .ok ()
  mode : (resumed s).mode = s.mode
  mbusCode : (resumed s).mbusCode = s.mbusCode
  ctrls : (resumed s).ctrls = s.ctrls
  streaming : (resumed s).streaming = s.streaming
  powered : Powered (resumed s)
  modeRegisters : (ov5648ModeConfigure (resumed s).mode (resumed s).mbusCode
    (resumed s).client).2 = (resumed s).client
  standby : (resumed s).client.chip.regs swStandbyReg = swStandbyStreamOn ↔
    (resumed s).streaming = true

theorem Serviceable.quiet {s : Ov5648} (h : Serviceable s) (hidle : s.streaming = false) :
    Quiet s :=
  { transfers := h.transfers
    supplies := h.supplies
    xvclkRate := h.xvclkRate
    pmEnabled := h.pmEnabled
    idle := hidle
    mode_mem := h.mode_mem
    code_mem := h.code_mem
    pattern_lt := h.pattern_lt }

theorem suspend_idle {s : Ov5648} (hidle : s.streaming = false) :
    ov5648Suspend s = (.ok (), powerOff s) := by
  unfold ov5648Suspend
  rw [driver_bind_ok (driver_get s), hidle]
  rfl

theorem suspend_streaming {s : Ov5648} (hstreaming : s.streaming = true)
    (hfaults : s.client.faults = []) :
    ov5648Suspend s =
      (.ok (), powerOff (withClient s (afterProgram [.full swStandbyReg 0#8] s.client))) := by
  have hstandby : Programs (ov5648SwStandby true) [.full swStandbyReg 0#8] :=
    programs_write (by decide) _
  unfold ov5648Suspend
  rw [driver_bind_ok (driver_get s), hstreaming]
  change (onClient (ov5648SwStandby true) >>= _) s = _
  rw [onClient_bind hstandby _ hfaults]
  rfl

/-- The registers of the initialisation, of any mode and of the controls do not
include the standby register, which the initialisation writes first. -/
theorem standby_apart (s : Ov5648) :
    Apart swStandbyReg ((initProgram s.hasAvdd s.numDataLanes).tail ++
      (modeProgram s.mode s.mbusCode ++ clustersProgram s.ctrls ov5648Clusters))
      [.full swStandbyReg 0#8] := by
  let standby : Program := [.full swStandbyReg 0#8]
  have hmode : outlinesApart (outline (modeProgram ov5648Mode0 mediaBusFmtSbggr8_1x8))
      (outline standby) = true := by
    decide +kernel
  have hcluster : ∀ cluster ∈ ov5648Clusters,
      outlinesApart (outline (fullProgram plainCtrls cluster)) (outline standby) = true := by
    decide +kernel
  refine Apart.append_left (apart_of_outlines ?_ _) (Apart.append_left ?_ (clusters_apart ?_))
  · change outlinesApart (outline (initProgram true 0).tail) (outline standby) = true
    decide +kernel
  · apply apart_of_outlines
    rw [outline_modeProgram s.mode ov5648Mode0 s.mbusCode mediaBusFmtSbggr8_1x8]
    exact hmode
  · intro cluster hmem
    apply apart_of_outlines
    rw [outline_fullProgram]
    exact hcluster cluster hmem

theorem powerUp_standby (s : Ov5648) (regs : U16 → U8) :
    run (powerUpProgram s) regs swStandbyReg = 0#8 := by
  have hsplit : powerUpProgram s = [.full swStandbyReg 0#8] ++
      ((initProgram s.hasAvdd s.numDataLanes).tail ++
        (modeProgram s.mode s.mbusCode ++ clustersProgram s.ctrls ov5648Clusters)) := rfl
  rw [hsplit, run_append, ← run_comm (standby_apart s), run_cons, run_nil, apply_full,
    Function.update_self]

theorem poweredUp_standby (s : Ov5648) (client : I2cClient Chip) :
    (afterProgram (powerUpProgram s) client).chip.regs swStandbyReg = 0#8 := by
  rw [afterProgram_regs, powerUp_standby]

theorem powerUp_mode (s : Ov5648) (regs : U16 → U8) :
    run (modeProgram s.mode s.mbusCode) (run (powerUpProgram s) regs) =
      run (powerUpProgram s) regs := by
  funext a
  refine run_replace (covers_refl a _) (clusters_apart fun cluster _ => ?_) regs
  exact cluster_apart_mode a s.ctrls cluster s.mode s.mbusCode

theorem restores_of_idle {s : Ov5648} (h : Serviceable s) (hidle : s.streaming = false) :
    RestoresStreaming s := by
  have hquiet : Quiet (powerOff s) := { h.quiet hidle with }
  obtain ⟨linkFreq, pixelRate, hresume⟩ := resume_ok hquiet h.awake h.chipId
  have hsuspend := suspend_idle hidle
  have hsuspended : suspended s = powerOff s := congrArg Prod.snd hsuspend
  let t := withLink (withClient
    (withSupplies (powerOff s) (suppliesOn s.hasAvdd (powerOff s).supplies))
    (afterProgram (powerUpProgram s) (resetClient s.client))) linkFreq pixelRate
  have hrun : ov5648Resume (suspended s) = (.ok (), t) := by
    rw [hsuspended]
    exact hresume
  have hresumed : resumed s = t := congrArg Prod.snd hrun
  have hmode : (ov5648ModeConfigure s.mode s.mbusCode t.client).2 = t.client := by
    have hprogram := programs_modeConfigure (registerValues_of_mem h.mode_mem)
      (bits_of_mem_mbusCodes h.code_mem) t.client h.transfers
    rw [hprogram]
    change afterProgram (modeProgram s.mode s.mbusCode)
      (afterProgram (powerUpProgram s) (resetClient s.client)) = _
    unfold afterProgram
    rw [powerUp_mode]
    rfl
  refine ⟨congrArg Prod.fst hsuspend, congrArg Prod.fst hrun, ?_, ?_, ?_, ?_, ?_, ?_, ?_⟩
  all_goals rw [hresumed]
  · rfl
  · rfl
  · rfl
  · rfl
  · obtain ⟨hdovdd, havdd, hdvdd, hxvclk⟩ := h.powered
    refine ⟨?_, fun hhas => ?_, ?_, ?_⟩
    · change 0 < s.supplies.dovdd - 1 + 1
      omega
    · have hhas' : s.hasAvdd = true := hhas
      have havdd' := havdd hhas'
      change 0 < (if s.hasAvdd = true then
        (if s.hasAvdd = true then s.supplies.avdd - 1 else s.supplies.avdd) + 1
          else if s.hasAvdd = true then s.supplies.avdd - 1 else s.supplies.avdd)
      rw [if_pos hhas', if_pos hhas']
      omega
    · change 0 < s.supplies.dvdd - 1 + 1
      omega
    · change 0 < s.supplies.xvclk - 1 + 1
      omega
  · exact hmode
  · have hzero : t.client.chip.regs swStandbyReg = 0#8 := poweredUp_standby s (resetClient s.client)
    have hidle' : t.streaming = false := hidle
    rw [hzero, hidle']
    decide

theorem resume_streaming {s : Ov5648} (hstreaming : s.streaming = true)
    (hfaults : s.client.faults = []) (hsupplies : s.supplies.faults = [])
    (hid : ChipIdOk s.client.chip) : (ov5648Resume s).1 = .error .ebusy := by
  let powered := withClient (withSupplies s (suppliesOn s.hasAvdd s.supplies))
    (resetClient s.client)
  have hbusy : ∃ t, ov5648SensorInit powered = (.error .ebusy, t) := by
    have hfaults' : powered.client.faults = [] := hfaults
    rw [sensorInit_spec hfaults' hid]
    unfold ov5648StateConfigure
    rw [driver_bind_ok (driver_get _)]
    change ∃ t, (if s.streaming = true then _ else _ : SensorRoutine Unit) _ = _
    rw [hstreaming, if_pos rfl]
    exact ⟨_, rfl⟩
  obtain ⟨t, hinit⟩ := hbusy
  have hpower : ov5648SensorPower true s = (.error .ebusy, powerOff t) := by
    unfold ov5648SensorPower
    rw [if_pos rfl, powerOn_spec hsupplies, hinit]
  unfold ov5648Resume
  rw [driver_bind_error hpower]

/-- Where nothing fails, a suspend and the resume after it restore the sensor exactly
when it does not stream. -/
theorem suspendResume_restores_iff {s : Ov5648} (h : Serviceable s) :
    RestoresStreaming s ↔ s.streaming = false := by
  constructor
  · intro hrestores
    rcases hstreaming : s.streaming with _ | _
    · rfl
    · have hsuspended : suspended s =
          powerOff (withClient s (afterProgram [.full swStandbyReg 0#8] s.client)) :=
        congrArg Prod.snd (suspend_streaming hstreaming h.transfers)
      have hok := hrestores.resume_ok
      rw [hsuspended, resume_streaming] at hok
      · exact absurd hok nofun
      · exact hstreaming
      · exact h.transfers
      · exact h.supplies
      · exact h.chipId
  · exact restores_of_idle h

def poweredSensor : Ov5648 := (pmRuntimeResume probedSensor).2

theorem poweredSensor_restored : RestoresStreaming poweredSensor := by
  have hserviceable : Serviceable poweredSensor :=
    { transfers := by decide +kernel
      supplies := by decide +kernel
      xvclkRate := by decide +kernel
      pmEnabled := by decide +kernel
      awake := by decide +kernel
      powered := by
        unfold Powered
        decide +kernel
      chipId := by
        unfold ChipIdOk
        decide +kernel
      mode_mem := by decide +kernel
      code_mem := by decide +kernel
      pattern_lt := by decide +kernel }
  have hidle : poweredSensor.streaming = false := by decide +kernel
  exact (suspendResume_restores_iff hserviceable).mpr hidle

def streamingSensor : Ov5648 := (streamStep (probedDevice probedSensor) streamOn).sensor

/-- A sensor that streams is not resumed: the call ends with `EBUSY`. -/
theorem streamingSensor_not_resumed :
    streamingSensor.streaming = true ∧ (ov5648Suspend streamingSensor).1 = .ok () ∧
      ¬RestoresStreaming streamingSensor := by
  have hstreaming : streamingSensor.streaming = true := by decide +kernel
  have hsuspend : (ov5648Suspend streamingSensor).1 = .ok () := by decide +kernel
  have hbusy : (ov5648Resume (suspended streamingSensor)).1 = .error .ebusy := by decide +kernel
  refine ⟨hstreaming, hsuspend, fun hrestores => ?_⟩
  have hok := hrestores.resume_ok
  rw [hbusy] at hok
  exact absurd hok nofun

end CameraPorting.SensorOv5648.StreamRestore
