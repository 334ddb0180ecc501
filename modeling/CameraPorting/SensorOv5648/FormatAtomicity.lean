import CameraPorting.SensorOv5648.StreamRestore

namespace CameraPorting.SensorOv5648.FormatAtomicity

open CameraPorting.Kernel.Media
open CameraPorting.Kernel.I2c
open CameraPorting.Library.MaskedWrites
open CameraPorting.SensorOv5648.Registers
open CameraPorting.SensorOv5648.Modes
open CameraPorting.SensorOv5648.RegisterAccess
open CameraPorting.SensorOv5648.Sensor
open CameraPorting.SensorOv5648.RegisterPrograms
open CameraPorting.SensorOv5648.PowerUp
open CameraPorting.SensorOv5648.Transfers
open CameraPorting.SensorOv5648.RegisterImage
open CameraPorting.SensorOv5648.StreamBalance
open CameraPorting.SensorOv5648.StreamRestore

/-- The registers of the mode, the binning bits and the PLLs are those of the driver's
mode and media bus code. -/
def RegistersMatch (s : Ov5648) : Prop :=
  Holds (modeProgram s.mode s.mbusCode) s.client.chip.regs

/-- A powered sensor that does not stream, with the registers of its format. -/
structure Configured (s : Ov5648) : Prop where
  pmEnabled : s.pmEnabled = true
  awake : s.suspended = false
  idle : s.streaming = false
  xvclkRate : s.xvclkRate = ov5648XvclkRate
  mode_mem : s.mode ∈ ov5648Modes
  code_mem : s.mbusCode ∈ ov5648MbusCodes
  registers : RegistersMatch s

/-- The sensor streams, as the registers say, the format `ov5648_get_fmt` reports. -/
structure Sends (s : Ov5648) (format : MbusFramefmt) : Prop where
  streaming : s.streaming = true
  reported : ov5648GetFmt s .active = format
  registers : RegistersMatch s

/-- What a failed request is to leave: the format with its controls, its registers, and
so every stream-on that succeeds afterwards sends it. -/
structure KeepsFormat (s t : Ov5648) : Prop where
  mode : t.mode = s.mode
  mbusCode : t.mbusCode = s.mbusCode
  linkFreq : t.linkFreq = s.linkFreq
  pixelRate : t.pixelRate = s.pixelRate
  registers : RegistersMatch t
  streams : ∀ pmRefs call u, call.enable = true → ov5648SStream call ⟨t, pmRefs⟩ = (.ok (), u) →
    Sends u.sensor (ov5648GetFmt s .active)

def FailsAtomically (nearest : NearestSize) (s : Ov5648) (format : MbusFramefmt) : Prop :=
  ∀ e, (ov5648SetFmt nearest .active format s).2.2 = .error e →
    KeepsFormat s (ov5648SetFmt nearest .active format s).1

/-- No transfer of the mode configuration fails, or all writes before the first that does
are writes of the current format too. -/
def FailsBeforeChange (nearest : NearestSize) (s : Ov5648) (format : MbusFramefmt) : Prop :=
  ∀ mode, nearest.pick ov5648ModeSize ov5648Modes format.width format.height = some mode →
    NoFault 36 s.client.faults ∨
      completed (modeProgram mode (ov5648FindFormat format.code)) s.client.faults <+:
        modeProgram s.mode s.mbusCode

theorem modeProgram_addresses (mode : Ov5648Mode) (mbusCode : U32) :
    ((modeProgram mode mbusCode).map MaskedWrite.addr).Nodup ∧
      swStandbyReg ∉ (modeProgram mode mbusCode).map MaskedWrite.addr := by
  rw [addresses_of_outline
    (outline_modeProgram mode ov5648Mode0 mbusCode mediaBusFmtSbggr8_1x8)]
  decide +kernel

theorem registersMatch_write {s : Ov5648} (h : RegistersMatch s) (value : U8) :
    RegistersMatch (withClient s (ov5648Write swStandbyReg value s.client).2) := by
  unfold RegistersMatch
  change Holds (modeProgram s.mode s.mbusCode) (ov5648Write swStandbyReg value s.client).2.chip.regs
  rw [write_chip, store_of_ne (by decide)]
  split
  · exact h.update (modeProgram_addresses s.mode s.mbusCode).2 value
  · exact h

theorem streamOn_awake {t : Ov5648} (hawake : t.suspended = false) {pmRefs : Int}
    {call : StreamCall} {u : Ov5648Device} (hon : call.enable = true)
    (hrun : ov5648SStream call ⟨t, pmRefs⟩ = (.ok (), u)) :
    u.sensor = { withClient t (ov5648Write swStandbyReg swStandbyStreamOn t.client).2 with
      streaming := true } := by
  have hresume : pmRuntimeResume t = (.ok (), t) := by
    unfold pmRuntimeResume
    rw [if_neg (Bool.eq_false_iff.mp hawake)]
  unfold ov5648SStream at hrun
  rw [hon, if_pos rfl] at hrun
  obtain ⟨_, d, hget, hstart⟩ := driver_bind_inv hrun
  have hd : d.sensor = t := by
    unfold pmRuntimeGetSync at hget
    rw [driver_bind_ok (driver_modify _ _)] at hget
    cases hdenied : call.denied with
    | some e =>
        rw [hdenied] at hget
        exact absurd (congrArg Prod.fst hget) nofun
    | none =>
        rw [hdenied] at hget
        dsimp only at hget
        rw [onSensor_ok (d := ⟨t, pmRefs + 1⟩) hresume] at hget
        exact (congrArg (fun r => r.2.sensor) hget).symm
  obtain ⟨_, d', hwrite, hstreaming⟩ := driver_bind_inv hstart
  have hd' := congrArg (fun r => r.2.sensor) hwrite
  rw [← congrArg (fun r => r.2.sensor) hstreaming, ← hd]
  change { d'.sensor with streaming := true } = _
  rw [← hd']
  rfl

theorem sends_of_registersMatch {t : Ov5648} (hawake : t.suspended = false)
    (h : RegistersMatch t) {pmRefs : Int} {call : StreamCall} {u : Ov5648Device}
    (hon : call.enable = true) (hrun : ov5648SStream call ⟨t, pmRefs⟩ = (.ok (), u)) :
    Sends u.sensor (ov5648GetFmt t .active) := by
  rw [streamOn_awake hawake hon hrun]
  exact ⟨rfl, rfl, registersMatch_write h swStandbyStreamOn⟩

/-- What a cut short configuration leaves is the old format exactly when the writes made
are writes of the old format. -/
theorem keepsFormat_iff {s : Ov5648} (h : Configured s) (mode : Ov5648Mode) (mbusCode : U32)
    {client : I2cClient Chip}
    (hchip : client.chip =
      runOn (completed (modeProgram mode mbusCode) s.client.faults) s.client.chip) :
    KeepsFormat s (withClient s client) ↔
      completed (modeProgram mode mbusCode) s.client.faults <+:
        modeProgram s.mode s.mbusCode := by
  have hregisters : RegistersMatch (withClient s client) ↔
      completed (modeProgram mode mbusCode) s.client.faults <+:
        modeProgram s.mode s.mbusCode := by
    unfold RegistersMatch
    change Holds (modeProgram s.mode s.mbusCode) client.chip.regs ↔ _
    rw [hchip]
    exact holds_run_prefix_iff (completed_initial _ _) (outline_modeProgram _ _ _ _)
      (modeProgram_addresses _ _).1 h.registers
  rw [← hregisters]
  constructor
  · intro hkeeps
    exact hkeeps.registers
  · intro hmatch
    exact
      { mode := rfl
        mbusCode := rfl
        linkFreq := rfl
        pixelRate := rfl
        registers := hmatch
        streams := fun _ _ _ hon hrun =>
          sends_of_registersMatch (t := withClient s client) h.awake hmatch hon hrun }

/-- For every powered sensor that holds its format, every request and every outcome of
the transfers to come: an error of `ov5648_set_fmt` leaves the format and its registers
exactly when the first transfer that fails comes before the first write in which the
two formats differ. -/
theorem setFmt_atomic_iff (nearest : NearestSize) {s : Ov5648} (h : Configured s)
    (format : MbusFramefmt) :
    FailsAtomically nearest s format ↔ FailsBeforeChange nearest s format := by
  obtain ⟨mode, hmode, hpick⟩ := nearest.pick_mem ov5648ModeSize
    (show ov5648Modes ≠ [] by decide) format.width format.height
  have hcondition : FailsBeforeChange nearest s format ↔ NoFault 36 s.client.faults ∨
      completed (modeProgram mode (ov5648FindFormat format.code)) s.client.faults <+:
        modeProgram s.mode s.mbusCode := by
    unfold FailsBeforeChange
    rw [hpick]
    constructor
    · intro hall
      exact hall mode rfl
    · rintro hmode' _ ⟨⟩
      exact hmode'
  rw [hcondition]
  unfold FailsAtomically ov5648SetFmt
  rw [if_neg (Bool.eq_false_iff.mp h.idle), hpick]
  dsimp only
  by_cases hchange : s.mode ≠ mode ∨ s.mbusCode ≠ ov5648FindFormat format.code
  · rw [if_pos hchange]
    rcases stateConfigure_outcome h.xvclkRate h.idle hmode (findFormat_mem format.code) with
      ⟨hok, client, -, hrun⟩ | ⟨⟨-, -, hfault⟩, e, client, hchip, hrun⟩
    · have hnone : NoFault 36 s.client.faults :=
        not_not.mp fun hfault => hok ⟨h.pmEnabled, h.awake, hfault⟩
      rw [hrun]
      exact iff_of_true nofun (.inl hnone)
    · rw [hrun, ← keepsFormat_iff h mode _ hchip]
      constructor
      · intro hkeeps
        exact .inr (hkeeps e rfl)
      · rintro (hok | hkeeps) _ -
        · exact absurd hok hfault
        · exact hkeeps
  · rw [if_neg hchange]
    rw [not_or, not_not, not_not] at hchange
    refine iff_of_true nofun (.inr ?_)
    rw [← hchange.1, ← hchange.2]
    exact completed_initial _ _

def withFaults (s : Ov5648) (faults : List (Option Errno)) : Ov5648 :=
  withClient s { s.client with faults := faults }

theorem Configured.withFaults {s : Ov5648} (h : Configured s) (faults : List (Option Errno)) :
    Configured (withFaults s faults) := { h with }

theorem poweredSensor_configured : Configured poweredSensor where
  pmEnabled := by decide +kernel
  awake := by decide +kernel
  idle := by decide +kernel
  xvclkRate := by decide +kernel
  mode_mem := by decide +kernel
  code_mem := by decide +kernel
  registers := by
    unfold RegistersMatch Holds
    decide +kernel

theorem failsBeforeChange_of_sameMode {nearest : NearestSize} {s : Ov5648}
    {format : MbusFramefmt}
    (hpick : nearest.pick ov5648ModeSize ov5648Modes format.width format.height = some s.mode)
    (hfault : ¬NoFault 28 s.client.faults) : FailsBeforeChange nearest s format := by
  intro mode hmode
  obtain rfl := Option.some.inj (hpick.symm.trans hmode)
  rw [← programTransfers_timingProgram s.mode] at hfault
  refine .inr ?_
  rw [modeProgram, modeProgram, completed_append_of_fault _ hfault]
  exact (completed_initial _ _).trans (List.prefix_append _ _)

theorem codeChange_atomic :
    FailsAtomically leastError
      (withFaults poweredSensor (List.replicate 20 none ++ [some .eremoteio]))
      ⟨mediaBusFmtSbggr10_1x10, 2592, 1944⟩ := by
  refine (setFmt_atomic_iff leastError (poweredSensor_configured.withFaults _) _).mpr ?_
  refine failsBeforeChange_of_sameMode ?_ ?_
  · decide +kernel
  · decide +kernel

/-- The seventh transfer of a change to 1600x1200 fails: the registers already say 1600
columns, the driver still reports 2592. -/
theorem halfConfigured_not_atomic :
    Configured (withFaults poweredSensor (List.replicate 6 none ++ [some .eremoteio])) ∧
      ¬FailsAtomically leastError
        (withFaults poweredSensor (List.replicate 6 none ++ [some .eremoteio]))
        ⟨mediaBusFmtSbggr8_1x8, 1600, 1200⟩ := by
  refine ⟨poweredSensor_configured.withFaults _, fun hatomic => ?_⟩
  have hkeeps := hatomic .eremoteio (by decide +kernel)
  have hmatch := hkeeps.registers
  revert hmatch
  unfold RegistersMatch Holds
  decide +kernel

end CameraPorting.SensorOv5648.FormatAtomicity
