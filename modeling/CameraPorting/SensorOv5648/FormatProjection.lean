import CameraPorting.SensorOv5648.LinkRates
import CameraPorting.SensorOv5648.StreamRestore

namespace CameraPorting.SensorOv5648.FormatProjection

open CameraPorting.Kernel.Media
open CameraPorting.Kernel.I2c
open CameraPorting.SensorOv5648.Modes
open CameraPorting.SensorOv5648.RegisterAccess
open CameraPorting.SensorOv5648.Sensor
open CameraPorting.SensorOv5648.RegisterPrograms
open CameraPorting.SensorOv5648.PowerUp
open CameraPorting.SensorOv5648.Transfers
open CameraPorting.SensorOv5648.LinkRates
open CameraPorting.SensorOv5648.StreamRestore

def defaultCode : U32 := ov5648MbusCodes.head (by decide)

/-- The format has the size of a mode that no other mode of the table is nearer to the
request than. -/
def NearestMode (request answer : MbusFramefmt) : Prop :=
  ∃ mode ∈ ov5648Modes, (answer.width, answer.height) = ov5648ModeSize mode ∧
    ∀ other ∈ ov5648Modes, sizeError request.width request.height (ov5648ModeSize mode) ≤
      sizeError request.width request.height (ov5648ModeSize other)

structure TryKeeps (s t : Ov5648) : Prop where
  mode : t.mode = s.mode
  mbusCode : t.mbusCode = s.mbusCode
  ctrls : t.ctrls = s.ctrls
  linkFreq : t.linkFreq = s.linkFreq
  pixelRate : t.pixelRate = s.pixelRate
  client : t.client = s.client

/-- A call that succeeds with `answer` and leaves `t`. The answer is the same for both
kinds of formats, and asked for again it is returned unchanged; the kind it was set for
then needs no transfer, whatever the client would do with one. -/
structure Projects (nearest : NearestSize) (s : Ov5648) (which : FormatWhence)
    (request : MbusFramefmt) (t : Ov5648) (answer : MbusFramefmt) : Prop where
  size : NearestMode request answer
  code : answer.code = if request.code ∈ ov5648MbusCodes then request.code else defaultCode
  whence : ∀ other, (ov5648SetFmt nearest other request s).2 = (answer, .ok ())
  fixed : ∀ other, (ov5648SetFmt nearest other answer t).2 = (answer, .ok ())
  again : ∀ client, ov5648SetFmt nearest which answer (withClient t client) =
    (withClient t client, answer, .ok ())
  reads : ov5648GetFmt t which = answer
  tryKeeps : which = .try → TryKeeps s t
  activeKeeps : which = .active → t.tryFmt = s.tryFmt

theorem findFormat_of_mem {code : U32} (h : code ∈ ov5648MbusCodes) :
    ov5648FindFormat code = code := if_pos h

theorem mode_eq_of_size : ∀ mode ∈ ov5648Modes, ∀ other ∈ ov5648Modes,
    ov5648ModeSize mode = ov5648ModeSize other → mode = other := by
  decide

theorem not_modeTransferFails {s : Ov5648} (hfaults : s.client.faults = []) :
    ¬ModeTransferFails s := by
  rintro ⟨-, -, hfault⟩
  refine hfault ?_
  rw [hfaults]
  intro fault hmem
  rw [List.take_nil] at hmem
  exact absurd hmem List.not_mem_nil

theorem setFmt_idle {nearest : NearestSize} {s : Ov5648} (hrate : s.xvclkRate = ov5648XvclkRate)
    (hfaults : s.client.faults = []) (hidle : s.streaming = false) (request : MbusFramefmt)
    {mode : Ov5648Mode} (hmode : mode ∈ ov5648Modes)
    (hpick : nearest.pick ov5648ModeSize ov5648Modes request.width request.height = some mode)
    (which : FormatWhence) :
    ∃ t, ov5648SetFmt nearest which request s =
        (t, ov5648MbusFormatFill (ov5648FindFormat request.code) mode, .ok ()) ∧
      t.streaming = false ∧ t.xvclkRate = ov5648XvclkRate ∧ t.client.faults = [] ∧
      match which with
      | .try => t = { s with
          tryFmt := ov5648MbusFormatFill (ov5648FindFormat request.code) mode }
      | .active => t.mode = mode ∧ t.mbusCode = ov5648FindFormat request.code ∧
          t.tryFmt = s.tryFmt := by
  cases which with
  | «try» =>
      unfold ov5648SetFmt
      rw [if_neg (Bool.eq_false_iff.mp hidle), hpick]
      exact ⟨_, rfl, hidle, hrate, hfaults, rfl⟩
  | active =>
      rcases setFmt_outcome nearest hrate request with
        ⟨-, picked, -, t, hpicked, hrun, htmode, htcode, hstate⟩ | ⟨hfails, -⟩
      · obtain rfl := Option.some.inj (hpick.symm.trans hpicked)
        rcases hstate with rfl | ⟨client, ⟨n, hclient⟩, rfl⟩
        · exact ⟨_, hrun, hidle, hrate, hfaults, htmode, htcode, rfl⟩
        · rw [hfaults, List.drop_nil] at hclient
          rw [stateMipiConfigure_state (s := withClient s client) hrate hmode
            (findFormat_mem request.code)] at hrun
          exact ⟨_, hrun, hidle, hrate, hclient, rfl, rfl, rfl⟩
      · rcases hfails with hstreams | ⟨-, htransfer⟩
        · exact absurd (hidle.symm.trans hstreams) Bool.false_ne_true
        · exact absurd htransfer (not_modeTransferFails hfaults)

theorem setFmt_current {nearest : NearestSize} {t : Ov5648} (hidle : t.streaming = false)
    (answer : MbusFramefmt) {mode : Ov5648Mode}
    (hpick : nearest.pick ov5648ModeSize ov5648Modes answer.width answer.height = some mode)
    (hfill : ov5648MbusFormatFill (ov5648FindFormat answer.code) mode = answer)
    {which : FormatWhence}
    (hcurrent : match which with
      | .try => t.tryFmt = answer
      | .active => t.mode = mode ∧ t.mbusCode = ov5648FindFormat answer.code) :
    ov5648SetFmt nearest which answer t = (t, answer, .ok ()) := by
  unfold ov5648SetFmt
  rw [if_neg (Bool.eq_false_iff.mp hidle), hpick]
  dsimp only
  rw [hfill]
  cases which with
  | «try» =>
      dsimp only at hcurrent ⊢
      rw [← hcurrent]
  | active =>
      dsimp only at hcurrent ⊢
      rw [if_neg]
      rintro (h | h)
      · exact h hcurrent.1
      · exact h hcurrent.2

/-- Without I2C errors `ov5648_set_fmt` projects every request of an idle sensor onto the
tables, and refuses it while the sensor streams. -/
theorem setFmt_projects {nearest : NearestSize} (hnearest : nearest.Minimises) {s : Ov5648}
    (hrate : s.xvclkRate = ov5648XvclkRate) (hfaults : s.client.faults = [])
    (which : FormatWhence) (request : MbusFramefmt) :
    (s.streaming = true →
        ov5648SetFmt nearest which request s = (s, request, .error .ebusy)) ∧
      (s.streaming = false →
        ∃ t answer, ov5648SetFmt nearest which request s = (t, answer, .ok ()) ∧
          Projects nearest s which request t answer) := by
  constructor
  · intro hstreaming
    unfold ov5648SetFmt
    rw [if_pos hstreaming]
  · intro hidle
    obtain ⟨mode, hmode, hpick⟩ := nearest.pick_mem ov5648ModeSize
      (show ov5648Modes ≠ [] by decide) request.width request.height
    obtain ⟨t, hset, hquiet, hrate', hfaults', ht⟩ :=
      setFmt_idle hrate hfaults hidle request hmode hpick which
    have hagain : ov5648FindFormat (ov5648FindFormat request.code) =
        ov5648FindFormat request.code := findFormat_of_mem (findFormat_mem request.code)
    have hself := hnearest.pick_self mode_eq_of_size hmode rfl
    refine ⟨t, _, hset, ?_⟩
    refine
      { size := ⟨mode, hmode, rfl, hnearest.pick_le hpick⟩
        code := rfl
        whence := ?_
        fixed := ?_
        again := ?_
        reads := ?_
        tryKeeps := ?_
        activeKeeps := ?_ }
    · intro other
      obtain ⟨u, hother, -⟩ := setFmt_idle hrate hfaults hidle request hmode hpick other
      rw [hother]
    · intro other
      obtain ⟨u, hother, -⟩ := setFmt_idle hrate' hfaults' hquiet
        (ov5648MbusFormatFill (ov5648FindFormat request.code) mode) hmode hself other
      rw [hother]
      change (ov5648MbusFormatFill (ov5648FindFormat (ov5648FindFormat request.code)) mode, _) = _
      rw [hagain]
    · intro client
      refine setFmt_current (t := withClient t client) hquiet
        (ov5648MbusFormatFill (ov5648FindFormat request.code) mode) hself ?_ ?_
      · exact congrArg (ov5648MbusFormatFill · mode) hagain
      · cases which with
        | «try» =>
            rw [ht]
            rfl
        | active => exact ⟨ht.1, ht.2.1.trans hagain.symm⟩
    · cases which with
      | «try» =>
          rw [ht]
          rfl
      | active =>
          change ov5648MbusFormatFill t.mbusCode t.mode = _
          rw [ht.1, ht.2.1]
    · rintro rfl
      rw [ht]
      exact ⟨rfl, rfl, rfl, rfl, rfl, rfl⟩
    · rintro rfl
      exact ht.2.2

/-- A powered sensor is asked for a code it does not have and for a size between two of
its modes. -/
theorem poweredSensor_projects :
    ∃ t answer, ov5648SetFmt leastError .active ⟨mediaBusFmtRgb888_1x24, 1300, 700⟩
        poweredSensor = (t, answer, .ok ()) ∧
      Projects leastError poweredSensor .active ⟨mediaBusFmtRgb888_1x24, 1300, 700⟩ t
        answer := by
  have hidle : poweredSensor.streaming = false := by decide +kernel
  have hrate : poweredSensor.xvclkRate = ov5648XvclkRate := by decide +kernel
  have hfaults : poweredSensor.client.faults = [] := by decide +kernel
  exact (setFmt_projects leastError_minimises hrate hfaults .active _).2 hidle

end CameraPorting.SensorOv5648.FormatProjection
