import CameraPorting.SensorOv5648.PowerUp

namespace CameraPorting.SensorOv5648.Transfers

open CameraPorting.Kernel.Media
open CameraPorting.Kernel.I2c
open CameraPorting.SensorOv5648.Registers
open CameraPorting.SensorOv5648.Modes
open CameraPorting.SensorOv5648.RegisterAccess
open CameraPorting.SensorOv5648.Sensor
open CameraPorting.SensorOv5648.RegisterPrograms
open CameraPorting.SensorOv5648.PowerUp

theorem transfers_modeConfigure {mode : Ov5648Mode} {mbusCode : U32}
    (hmode : mode ∈ ov5648Modes) (hcode : mbusCode ∈ ov5648MbusCodes) :
    Transfers 36 (ov5648ModeConfigure mode mbusCode) := by
  have hattempts := attempts_modeConfigure (registerValues_of_mem hmode)
    (bits_of_mem_mbusCodes hcode)
  rw [← programTransfers_modeProgram mode mbusCode]
  exact hattempts.transfers

/-- A powered sensor has one of the transfers of a mode configuration fail. -/
def ModeTransferFails (s : Ov5648) : Prop :=
  s.pmEnabled = true ∧ s.suspended = false ∧ ¬NoFault 36 s.client.faults

/-- The configuration of an idle sensor. When it fails with a transfer it has made the
writes before that one and nothing else; or else the link is configured, and the mode
and the code are taken. -/
theorem stateConfigure_outcome {s : Ov5648} (hrate : s.xvclkRate = ov5648XvclkRate)
    (hidle : s.streaming = false) {mode : Ov5648Mode} {mbusCode : U32}
    (hmode : mode ∈ ov5648Modes) (hcode : mbusCode ∈ ov5648MbusCodes) :
    (¬ModeTransferFails s ∧ ∃ client, (∃ n, client.faults = s.client.faults.drop n) ∧
        ov5648StateConfigure mode mbusCode s = (.ok (),
          withMode (ov5648StateMipiConfigure mode mbusCode (withClient s client)).2 mode
            mbusCode)) ∨
      (ModeTransferFails s ∧ ∃ e client,
        client.chip =
          runOn (completed (modeProgram mode mbusCode) s.client.faults) s.client.chip ∧
        ov5648StateConfigure mode mbusCode s = (.error e, withClient s client)) := by
  have hconfigured : ∀ client,
      (ov5648StateMipiConfigure mode mbusCode >>= fun _ => modify fun s =>
        { s with mode := mode, mbusCode := mbusCode }) (withClient s client) = (.ok (),
          withMode (ov5648StateMipiConfigure mode mbusCode (withClient s client)).2 mode
            mbusCode) := by
    intro client
    obtain ⟨linkFreq, pixelRate, hmipi⟩ :=
      stateMipiConfigure_spec (s := withClient s client) hrate hmode hcode
    rw [driver_bind_ok hmipi, hmipi]
    rfl
  unfold ov5648StateConfigure ModeTransferFails
  rw [driver_bind_ok (driver_get s), hidle]
  rcases hpowered : s.pmEnabled && !s.suspended with _ | _
  · refine .inl ⟨?_, s.client, ⟨0, rfl⟩, hconfigured s.client⟩
    rintro ⟨henabled, hawake, -⟩
    rw [henabled, hawake] at hpowered
    exact Bool.noConfusion hpowered
  · rw [Bool.and_eq_true, Bool.not_eq_true'] at hpowered
    rcases transfers_modeConfigure hmode hcode s.client with
      ⟨hok, _, client, hrun, hclient⟩ | ⟨hfault, e, client, hrun⟩
    · refine .inl ⟨fun h => h.2.2 hok, client, ⟨36, hclient⟩, ?_⟩
      change (onClient (ov5648ModeConfigure mode mbusCode) >>= _) s = _
      rw [driver_bind_ok (onClient_run hrun)]
      exact hconfigured client
    · have hchip := (attempts_modeConfigure (registerValues_of_mem hmode)
        (bits_of_mem_mbusCodes hcode)).chip s.client
      rw [hrun] at hchip
      exact .inr ⟨⟨hpowered.1, hpowered.2, hfault⟩, e, client, hchip,
        driver_bind_error (onClient_run hrun) _⟩

/-- When `ov5648_set_fmt` fails on the active format: while the sensor streams, or
when the format is not the current one and a transfer fails. -/
def SetFmtFails (nearest : NearestSize) (s : Ov5648) (format : MbusFramefmt) : Prop :=
  s.streaming = true ∨
    (∃ mode, nearest.pick ov5648ModeSize ov5648Modes format.width format.height = some mode ∧
      (s.mode ≠ mode ∨ s.mbusCode ≠ ov5648FindFormat format.code)) ∧ ModeTransferFails s

/-- `ov5648_set_fmt` on the active format: an error changes nothing but the client; else
the format is the current one, or it is configured. -/
theorem setFmt_outcome (nearest : NearestSize) {s : Ov5648}
    (hrate : s.xvclkRate = ov5648XvclkRate) (format : MbusFramefmt) :
    (¬SetFmtFails nearest s format ∧ ∃ mode ∈ ov5648Modes, ∃ t,
        nearest.pick ov5648ModeSize ov5648Modes format.width format.height = some mode ∧
        ov5648SetFmt nearest .active format s =
          (t, ov5648MbusFormatFill (ov5648FindFormat format.code) mode, .ok ()) ∧
        t.mode = mode ∧ t.mbusCode = ov5648FindFormat format.code ∧
        (t = s ∨ ∃ client, (∃ n, client.faults = s.client.faults.drop n) ∧
          t = withMode (ov5648StateMipiConfigure mode (ov5648FindFormat format.code)
            (withClient s client)).2 mode (ov5648FindFormat format.code))) ∨
      (SetFmtFails nearest s format ∧ ∃ client filled e,
        ov5648SetFmt nearest .active format s = (withClient s client, filled, .error e)) := by
  unfold ov5648SetFmt
  rcases hstreaming : s.streaming with _ | _
  · obtain ⟨mode, hmem, hpick⟩ := nearest.pick_mem ov5648ModeSize
      (show ov5648Modes ≠ [] by decide) format.width format.height
    rw [if_neg Bool.false_ne_true, hpick]
    dsimp only
    by_cases hchange : s.mode ≠ mode ∨ s.mbusCode ≠ ov5648FindFormat format.code
    · rw [if_pos hchange]
      rcases stateConfigure_outcome hrate hstreaming hmem (findFormat_mem format.code) with
        ⟨hok, client, hclient, hrun⟩ | ⟨hfault, e, client, -, hrun⟩
      · rw [hrun]
        refine .inl ⟨?_, mode, hmem, _, rfl, rfl, rfl, rfl, .inr ⟨client, hclient, rfl⟩⟩
        rintro (h | ⟨-, h⟩)
        · exact Bool.noConfusion (hstreaming.symm.trans h)
        · exact hok h
      · exact .inr ⟨.inr ⟨⟨mode, hpick, hchange⟩, hfault⟩, client, _, e, by rw [hrun]⟩
    · rw [if_neg hchange]
      rw [not_or, not_not, not_not] at hchange
      refine .inl ⟨?_, mode, hmem, s, rfl, rfl, hchange.1, hchange.2, .inl rfl⟩
      rintro (h | ⟨⟨other, hother, h⟩, -⟩)
      · exact Bool.noConfusion (hstreaming.symm.trans h)
      · obtain rfl : mode = other := Option.some.inj (hpick.symm.trans hother)
        rcases h with h | h
        · exact h hchange.1
        · exact h hchange.2
  · exact .inr ⟨.inl hstreaming, s.client, format, .ebusy, rfl⟩

end CameraPorting.SensorOv5648.Transfers
