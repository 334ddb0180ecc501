import CameraPorting.SensorImx219.FormatNegotiation
import CameraPorting.SensorImx219.TimingRuns

namespace CameraPorting.SensorImx219.FormatReset

open CameraPorting.Kernel.Media
open CameraPorting.Kernel.I2c
open CameraPorting.Library.Runs
open CameraPorting.SensorImx219.Sensor hiding imx219GetFormatCode imx219GetPadFormat
  imx219SetPadFormat updateExposure updateLimits
open CameraPorting.SensorImx219.Driver
open CameraPorting.SensorImx219.StreamState
open CameraPorting.SensorImx219.TimingControls
open CameraPorting.SensorImx219.TimingRuns
open CameraPorting.SensorImx219.ProgrammedFormat
open CameraPorting.SensorImx219.FormatNegotiation

/-- The range of a control: its minimum, maximum, step and default. -/
def range (ctrl : V4l2Ctrl) : Int × Int × Int × Int :=
  (ctrl.minimum, ctrl.maximum, ctrl.step, ctrl.defaultValue)

def timingCtrls : List Imx219Ctrl := [.vblank, .exposure, .hblank]

/-- The mode, and the current values and ranges of the timing controls. -/
structure SameSettings (s t : Imx219Device) : Prop where
  mode : t.mode = s.mode
  cur : ∀ id ∈ timingCtrls, (t.ctrls id).cur = (s.ctrls id).cur
  range : ∀ id ∈ timingCtrls, range (t.ctrls id) = range (s.ctrls id)

/-- The default of the exposure for a maximum. -/
def exposureDefault (maximum : Int) : Int :=
  if maximum < imx219ExposureDefault then maximum else imx219ExposureDefault

def ExposureDefault (s : Imx219Device) : Prop :=
  (s.ctrls .exposure).defaultValue = exposureDefault (s.ctrls .exposure).maximum

def FaultFree (s : Imx219Device) : Prop := s.client.faults = []

/-- The blanking of a line of the current mode. -/
def modeHblank (s : Imx219Device) : Int := 3448 - s.mode.width.toNat

/-- The blanking of a frame of the current mode, for its default rate. -/
def modeVblank (s : Imx219Device) : Int := s.mode.vtsDef.toNat - modeHeight s

/-- The timing controls fit the mode and each other, but for a horizontal blanking that
another mode may have left behind; no transfer fails. -/
structure Tuned (s : Imx219Device) : Prop extends Tunable s where
  faults : FaultFree s
  vblank_range : range (s.ctrls .vblank) = (4, 0xffff - modeHeight s, 1, modeVblank s)
  vblank_min : 4 ≤ (s.ctrls .vblank).cur
  vblank_max : (s.ctrls .vblank).cur ≤ 0xffff - modeHeight s
  exposure_max : (s.ctrls .exposure).maximum = modeHeight s + (s.ctrls .vblank).cur - 4
  exposure_default : ExposureDefault s
  exposure_fits : (s.ctrls .exposure).cur ≤ (s.ctrls .exposure).maximum
  hblank_range : range (s.ctrls .hblank) = (modeHblank s, modeHblank s, 1, modeHblank s)
  hblank_readOnly : (s.ctrls .hblank).readOnly = true

section Ranges

variable {sCtrl : Imx219Routine Unit} {id : Imx219Ctrl} {s : Imx219Device}

theorem v4l2SetCtrl_range (hsCtrl : ∀ t, (sCtrl t).2.ctrls = t.ctrls) (val : Int) :
    range ((v4l2SetCtrl sCtrl id val s).2.ctrls id) = range (s.ctrls id) := by
  have hasked : range ((withCtrl s id ((s.ctrls id).withVal val)).ctrls id) =
      range (s.ctrls id) := by
    rw [withCtrl_self]
    rfl
  rcases v4l2SetCtrl_outcome sCtrl id val s with hrun | ⟨t, rfl, hrun | hrun⟩
  · rwa [hrun]
  · rwa [hrun, hsCtrl]
  · rw [hrun, withCtrl_self, hsCtrl, ← hasked]
    rfl

theorem modifyRange_range (hsCtrl : ∀ t, (sCtrl t).2.ctrls = t.ctrls)
    {minimum maximum step defaultValue : Int}
    (hcheck : ¬(step = 0 ∨ maximum < minimum ∨ defaultValue < minimum ∨ maximum < defaultValue)) :
    range ((v4l2CtrlModifyRange sCtrl id minimum maximum step defaultValue s).ctrls id) =
      (minimum, maximum, step, defaultValue) := by
  unfold v4l2CtrlModifyRange
  rw [if_neg hcheck, v4l2SetCtrl_range hsCtrl, withCtrl_self]
  rfl

end Ranges

theorem exposureDefault_updateExposure {s : Imx219Device} (hs : ExposureDefault s)
    (exposureMax : Int) : ExposureDefault (updateExposure exposureMax s) := by
  by_cases hcheck : (s.ctrls .exposure).step = 0 ∨ exposureMax < (s.ctrls .exposure).minimum ∨
      exposureDefault exposureMax < (s.ctrls .exposure).minimum ∨
      exposureMax < exposureDefault exposureMax
  · have hkept : updateExposure exposureMax s = s := if_pos hcheck
    rwa [hkept]
  · have hrange : range ((updateExposure exposureMax s).ctrls .exposure) =
        ((s.ctrls .exposure).minimum, exposureMax, (s.ctrls .exposure).step,
          exposureDefault exposureMax) :=
      modifyRange_range (applyCtrl_ctrls .exposure) hcheck
    simp only [range, Prod.mk.injEq] at hrange
    obtain ⟨-, hmax, -, hdefault⟩ := hrange
    rw [ExposureDefault, hmax, hdefault]

theorem exposureDefault_stableOn : StableOn [.vblank, .hblank] ExposureDefault where
  apply id s hs := by
    rw [ExposureDefault, applyCtrl_ctrls]
    exact hs
  ctrl s id ctrl hid _ _ hs := by
    have hne : Imx219Ctrl.exposure ≠ id := by
      rintro rfl
      exact absurd hid (by decide)
    rw [ExposureDefault, withCtrl_of_ne s hne]
    exact hs

theorem preserves_exposureDefault : Preserves ExposureDefault (imx219SetCtrl .vblank) := by
  intro s hs
  exact exposureDefault_stableOn.apply .vblank _ (exposureDefault_updateExposure hs _)

theorem exposureDefault_updateLimits {s : Imx219Device} (hs : ExposureDefault s)
    (mode : Imx219Mode) : ExposureDefault (updateLimits mode s) := by
  have hstable := exposureDefault_stableOn
  unfold updateLimits
  refine modifyRange_stable hstable (hstable.apply .hblank) (by simp) _ _ _ _ ?_
  refine exposureDefault_updateExposure ?_ _
  refine preserves_v4l2SetCtrl hstable preserves_exposureDefault (by simp) _ _ ?_
  exact modifyRange_stable hstable preserves_exposureDefault (by simp) _ _ _ _ hs

theorem writeReg_faults {client : Imx219Client} (h : client.faults = []) (reg : U16) (len : Nat)
    (val : U32) : (imx219WriteReg reg len val client).2.faults = [] := by
  rcases Nat.lt_or_ge 4 len with hlong | hlen
  · rw [writeReg_tooLong hlong]
    exact h
  · obtain ⟨after, hfaults, -, ⟨-, hrun, -⟩ | ⟨-, hrun, -⟩⟩ := writeReg_run hlen reg val client
    · rw [hrun, hfaults, h]
      rfl
    · rw [hrun, hfaults, h]
      rfl

theorem faultFree_controlStable : ControlStable FaultFree where
  apply id s hs := by
    unfold applyCtrl
    split
    · change (writeCtrl id s s.client).2.faults = []
      unfold writeCtrl
      cases id with
      | pixelRate | hblank => exact hs
      | _ => exact writeReg_faults hs _ _ _
    · exact hs
  ctrl _ _ _ _ _ hs := hs

theorem writeOk_of_faultFree {s : Imx219Device} (hs : FaultFree s) (n : Nat) : WriteOk n s := by
  rw [WriteOk, hs]
  rfl

theorem modeBlanks_of_mode {s t : Imx219Device} (h : t.mode = s.mode) :
    modeHeight t = modeHeight s ∧ modeVblank t = modeVblank s ∧ modeHblank t = modeHblank s := by
  unfold modeVblank modeHblank modeHeight
  rw [h]
  exact ⟨rfl, rfl, rfl⟩

theorem tuned_of_same {s t : Imx219Device} (h : Tuned s) (hsame : SameTiming s t)
    (hfaults : FaultFree t) : Tuned t := by
  have hvblank := hsame.ctrls .vblank (by decide)
  have hexposure := hsame.ctrls .exposure (by decide)
  have hhblank := hsame.ctrls .hblank (by decide)
  obtain ⟨hheight, hmodeVblank, hmodeHblank⟩ := modeBlanks_of_mode hsame.mode
  exact
    { mode_mem := by rw [hsame.mode]; exact h.mode_mem
      vblank := by rw [hvblank]; exact ⟨h.vblank.type, h.vblank.step, h.vblank.grabbed⟩
      exposure := by
        rw [hexposure]
        exact ⟨h.exposure.type, h.exposure.step, h.exposure.grabbed⟩
      exposure_minimum := by rw [hexposure]; exact h.exposure_minimum
      exposure_cur := by rw [hexposure]; exact h.exposure_cur
      hblank_grabbed := by rw [hhblank]; exact h.hblank_grabbed
      faults := hfaults
      vblank_range := by rw [hvblank, hheight, hmodeVblank]; exact h.vblank_range
      vblank_min := by rw [hvblank]; exact h.vblank_min
      vblank_max := by rw [hvblank, hheight]; exact h.vblank_max
      exposure_max := by rw [hvblank, hexposure, hheight]; exact h.exposure_max
      exposure_default := by rw [ExposureDefault, hexposure]; exact h.exposure_default
      exposure_fits := by rw [hexposure]; exact h.exposure_fits
      hblank_range := by rw [hhblank, hmodeHblank]; exact h.hblank_range
      hblank_readOnly := by rw [hhblank]; exact h.hblank_readOnly }

section FaultFree

variable {v : Int} {s t : Imx219Device}

theorem vblankTried_busy (h : VblankTried v s t) (hfaults : FaultFree s) (huse : inUse s = true) :
    FaultFree t ∧ (t.ctrls .vblank).cur = v := by
  by_cases hnew : v = (s.ctrls .vblank).cur
  · obtain ⟨hcur, -, hkept⟩ := h.unchanged hnew
    exact ⟨hkept.trans hfaults, hcur⟩
  · by_cases hlt : modeHeight s + v - 4 < (s.ctrls .exposure).cur
    · obtain ⟨hkept, -, hcur⟩ := h.busy_shrinks huse hnew hlt
      rw [if_pos (writeOk_of_faultFree hfaults 1)] at hcur
      exact ⟨by rw [FaultFree, hkept, hfaults, List.drop_nil], hcur⟩
    · obtain ⟨hkept, -, hcur⟩ := h.busy_fits huse hnew (by omega)
      rw [if_pos (writeOk_of_faultFree hfaults 0)] at hcur
      exact ⟨by rw [FaultFree, hkept, hfaults, List.drop_nil], hcur⟩

theorem vblankTried_fits (h : VblankTried v s t) (hfaults : FaultFree s)
    (hfits : (s.ctrls .exposure).cur ≤ modeHeight s + (s.ctrls .vblank).cur - 4) :
    (t.ctrls .vblank).cur = v ∧ (t.ctrls .exposure).cur ≤ modeHeight s + v - 4 := by
  by_cases hnew : v = (s.ctrls .vblank).cur
  · obtain ⟨hcur, hexposure, -⟩ := h.unchanged hnew
    refine ⟨hcur, ?_⟩
    rw [hexposure, hnew]
    exact hfits
  · rcases huse : inUse s with _ | _
    · exact h.idle huse hnew
    · refine ⟨(vblankTried_busy h hfaults huse).2, ?_⟩
      by_cases hlt : modeHeight s + v - 4 < (s.ctrls .exposure).cur
      · obtain ⟨-, hexposure, -⟩ := h.busy_shrinks huse hnew hlt
        rw [hexposure, if_pos (writeOk_of_faultFree hfaults 0)]
      · obtain ⟨-, hexposure, -⟩ := h.busy_fits huse hnew (by omega)
        omega

theorem exposureUpdated_fits {exposureMax : Int} (h : ExposureUpdated exposureMax s t)
    (hfaults : FaultFree s) : (t.ctrls .exposure).cur ≤ exposureMax := by
  rcases h.outcome with ⟨hfits, hcur, -⟩ | ⟨-, ⟨-, hcur, -⟩ | ⟨-, -, hcur⟩⟩
  · omega
  · omega
  · rw [hcur, if_pos (writeOk_of_faultFree hfaults 0)]

end FaultFree

section Steps

variable {s : Imx219Device}

theorem Tuned.vblank_limits (h : Tuned s) :
    (s.ctrls .vblank).minimum = 4 ∧ (s.ctrls .vblank).maximum = 0xffff - modeHeight s := by
  have hrange := h.vblank_range
  simp only [range, Prod.mk.injEq] at hrange
  exact ⟨hrange.1, hrange.2.1⟩

theorem tuned_withVal (h : Tuned s) (id : Imx219Ctrl) (val : Int) :
    Tuned (withCtrl s id ((s.ctrls id).withVal val)) := by
  refine tuned_of_same h ⟨rfl, fun other _ => ?_⟩ h.faults
  rcases eq_or_ne other id with rfl | hother
  · rw [withCtrl_self]
    rfl
  · rw [withCtrl_of_ne s hother]
    rfl

/-- The exposure moves within the limits of the frames. -/
theorem Tuned.withExposure (h : Tuned s) {t : Imx219Device} (hmode : t.mode = s.mode)
    (hothers : ∀ other, other ≠ .exposure → t.ctrls other = s.ctrls other)
    (hfaults : FaultFree t) (hsettable : Settable (t.ctrls .exposure))
    (hminimum : (t.ctrls .exposure).minimum = 4)
    (hmaximum : (t.ctrls .exposure).maximum = (s.ctrls .exposure).maximum)
    (hdefault : ExposureDefault t) (hmin : 4 ≤ (t.ctrls .exposure).cur)
    (hfits : (t.ctrls .exposure).cur ≤ (t.ctrls .exposure).maximum) : Tuned t := by
  obtain ⟨hheight, hmodeVblank, hmodeHblank⟩ := modeBlanks_of_mode hmode
  have hvblank := hothers .vblank (by decide)
  have hhblank := hothers .hblank (by decide)
  exact
    { mode_mem := by rw [hmode]; exact h.mode_mem
      vblank := by rw [hvblank]; exact h.vblank
      exposure := hsettable
      exposure_minimum := hminimum
      exposure_cur := hmin
      hblank_grabbed := by rw [hhblank]; exact h.hblank_grabbed
      faults := hfaults
      vblank_range := by rw [hvblank, hheight, hmodeVblank]; exact h.vblank_range
      vblank_min := by rw [hvblank]; exact h.vblank_min
      vblank_max := by rw [hvblank, hheight]; exact h.vblank_max
      exposure_max := by rw [hmaximum, hvblank, hheight]; exact h.exposure_max
      exposure_default := hdefault
      exposure_fits := hfits
      hblank_range := by rw [hhblank, hmodeHblank]; exact h.hblank_range
      hblank_readOnly := by rw [hhblank]; exact h.hblank_readOnly }

theorem tuned_setVblank (h : Tuned s) {v : Int} (hv : 4 ≤ v) (hmax : v ≤ 0xffff - modeHeight s) :
    Tuned (v4l2SetCtrl (imx219SetCtrl .vblank) .vblank v s).2 := by
  have htried := h.vblankTried hv hmax
  have hfaults : FaultFree (v4l2SetCtrl (imx219SetCtrl .vblank) .vblank v s).2 := by
    have hstable := faultFree_controlStable.stableOn [.vblank, .exposure]
    exact preserves_v4l2SetCtrl hstable (preserves_imx219SetCtrl hstable (by simp) .vblank)
      (by simp) v s h.faults
  have hdefault : ExposureDefault (v4l2SetCtrl (imx219SetCtrl .vblank) .vblank v s).2 :=
    preserves_v4l2SetCtrl exposureDefault_stableOn preserves_exposureDefault (by simp) v s
      h.exposure_default
  generalize (v4l2SetCtrl (imx219SetCtrl .vblank) .vblank v s).2 = t at htried hfaults hdefault
  obtain ⟨hheight, hvblank, hhblank⟩ := modeBlanks_of_mode htried.mode
  have hrelated := h.exposure_max
  have hfit := h.exposure_fits
  obtain ⟨hcur, hfits⟩ := vblankTried_fits htried h.faults (by omega)
  have hmaximum : (t.ctrls .exposure).maximum = modeHeight s + v - 4 := by
    by_cases hnew : v = (s.ctrls .vblank).cur
    · rw [(htried.unchanged hnew).2.1, hrelated, hnew]
    · exact htried.maximum hnew
  exact
    { htried.tunable h.toTunable with
      faults := hfaults
      vblank_range := by rw [htried.vblank, hheight, hvblank]; exact h.vblank_range
      vblank_min := by omega
      vblank_max := by omega
      exposure_max := by omega
      exposure_default := hdefault
      exposure_fits := by omega
      hblank_range := by rw [htried.hblank, hhblank]; exact h.hblank_range
      hblank_readOnly := by rw [htried.hblank]; exact h.hblank_readOnly }

theorem tuned_setExposure (h : Tuned s) {val : Int} (hval : 4 ≤ val)
    (hmax : val ≤ (s.ctrls .exposure).maximum) :
    Tuned (v4l2SetCtrl (applyCtrl .exposure) .exposure val s).2 := by
  have hfaults : FaultFree (v4l2SetCtrl (applyCtrl .exposure) .exposure val s).2 :=
    preserves_v4l2SetCtrl (faultFree_controlStable.stableOn [.exposure])
      (faultFree_controlStable.apply .exposure) (by simp) val s h.faults
  rcases eq_or_ne val (s.ctrls .exposure).cur with hsame | hnew
  · rw [v4l2SetCtrl_same h.exposure.grabbed hsame]
    exact tuned_withVal h .exposure val
  · have hasked : CtrlAsked .exposure val s
        (v4l2SetCtrl (applyCtrl .exposure) .exposure val s).2 :=
      ctrlAsked_register (by decide) (by decide) (fun _ => rfl) h.exposure.grabbed hnew
    generalize (v4l2SetCtrl (applyCtrl .exposure) .exposure val s).2 = t at hasked hfaults
    have hctrl := hasked.ctrl
    have hcur : (t.ctrls .exposure).cur = val := by
      rcases hasked.outcome with ⟨-, hset, -⟩ | ⟨-, -, hset⟩
      · exact hset
      · rw [hset, if_pos (writeOk_of_faultFree h.faults 0)]
    have hmaximum : (t.ctrls .exposure).maximum = (s.ctrls .exposure).maximum := by
      rw [hctrl]
      rfl
    apply h.withExposure hasked.mode hasked.others hfaults
    · rw [hctrl]
      exact ⟨h.exposure.type, h.exposure.step, h.exposure.grabbed⟩
    · rw [hctrl]
      exact h.exposure_minimum
    · exact hmaximum
    · rw [ExposureDefault, hctrl]
      exact h.exposure_default
    · omega
    · omega

end Steps

section UpdateLimits

variable {s : Imx219Device}

/-- Without failing transfers the limits of a mode bring its default blanking. -/
theorem updateLimits_reached (h : Tunable s) (hfaults : FaultFree s) :
    ((updateLimits s.mode s).ctrls .vblank).cur = modeVblank s ∧
      ((updateLimits s.mode s).ctrls .exposure).cur ≤ s.mode.vtsDef.toNat - 4 := by
  rcases huse : inUse s with _ | _
  · obtain ⟨hvblank, hexposure, -⟩ :=
      (updateLimits_updated h).reached_iff.mp (limitsReached_idle h huse)
    exact ⟨hvblank, hexposure⟩
  · obtain ⟨first, second, third, hfirst, hsecond, hthird, hlast⟩ := updateLimits_spec h
    have hranged : FaultFree (rangedFor s.mode s) := hfaults
    obtain ⟨hfirstFaults, -⟩ := vblankTried_busy hfirst hranged huse
    obtain ⟨hsecondFaults, hcur⟩ :=
      vblankTried_busy hsecond hfirstFaults (hfirst.inUse.trans huse)
    refine ⟨?_, ?_⟩
    · rw [hlast.others .vblank (by decide), hthird.others .vblank (by decide), hcur]
      rfl
    · rw [hlast.others .exposure (by decide)]
      exact exposureUpdated_fits hthird hsecondFaults

theorem updateLimits_hblank (h : Tunable s) : ((updateLimits s.mode s).ctrls .hblank).cur =
    if inUse s = true then (s.ctrls .hblank).cur else modeHblank s := by
  obtain ⟨first, second, third, hfirst, hsecond, hthird, hlast⟩ := updateLimits_spec h
  obtain ⟨hkept, huse⟩ := hblank_before hfirst hsecond hthird
  rw [hlast.cur, hkept, huse]
  rfl

theorem updateLimits_vblankRange (h : Tunable s) :
    range ((updateLimits s.mode s).ctrls .vblank) =
      (4, 0xffff - modeHeight s, 1, modeVblank s) := by
  obtain ⟨first, second, third, hfirst, hsecond, hthird, hlast⟩ := updateLimits_spec h
  rw [hlast.others .vblank (by decide), hthird.others .vblank (by decide), hsecond.vblank,
    hfirst.vblank, rangedFor_vblank]
  rfl

theorem updateLimits_hblankRange (s : Imx219Device) :
    range ((updateLimits s.mode s).ctrls .hblank) =
      (modeHblank s, modeHblank s, 1, modeHblank s) := by
  unfold updateLimits
  exact modifyRange_range (applyCtrl_ctrls .hblank) (by omega)

theorem updateLimits_exposure (h : Tuned s) (hvblank : (s.ctrls .vblank).cur = modeVblank s) :
    ((updateLimits s.mode s).ctrls .exposure).cur = (s.ctrls .exposure).cur := by
  obtain ⟨first, second, third, hfirst, hsecond, hthird, hlast⟩ := updateLimits_spec h.toTunable
  have hother := rangedFor_of_ne s.mode s (show Imx219Ctrl.exposure ≠ .vblank by decide)
  have hranged := rangedFor_vblankCur s.mode s
  have hclamp : clampTo 4 (0xffff - modeHeight s) (s.ctrls .vblank).cur =
      ((rangedFor s.mode s).ctrls .vblank).cur := by
    rw [hranged]
    exact clampTo_of_mem h.vblank_min h.vblank_max
  obtain ⟨hfirstCur, hfirstExposure, -⟩ := hfirst.unchanged hclamp
  rw [hclamp, hranged, hvblank] at hfirstCur
  obtain ⟨-, hsecondExposure, -⟩ := hsecond.unchanged hfirstCur.symm
  have hfits : (second.ctrls .exposure).cur ≤ s.mode.vtsDef.toNat - 4 := by
    have hfit := h.exposure_fits
    have hrelated := h.exposure_max
    rw [hsecondExposure, hfirstExposure, hother]
    unfold modeVblank at hvblank
    omega
  rw [hlast.others .exposure (by decide)]
  rcases hthird.outcome with ⟨-, hcur, -⟩ | ⟨hlt, -⟩
  · rw [hcur, hsecondExposure, hfirstExposure, hother]
  · omega

theorem tuned_updateLimits (h : Tunable s) (hfaults : FaultFree s)
    (hdefault : ExposureDefault s) (hreadOnly : (s.ctrls .hblank).readOnly = true) :
    Tuned (updateLimits s.mode s) := by
  have hupdated := updateLimits_updated h
  obtain ⟨-, hroom, hvts, hvtsMin, -⟩ := supportedModes_limits s.mode h.mode_mem
  obtain ⟨hheight, hmodeVblank, hmodeHblank⟩ := modeBlanks_of_mode hupdated.mode
  obtain ⟨hvblank, hexposure⟩ := updateLimits_reached h hfaults
  have hmaximum := hupdated.exposure_maximum
  have hvblankRange := updateLimits_vblankRange h
  have hmodeHeight : modeHeight s = s.mode.height.toNat := rfl
  unfold modeVblank at hvblank
  exact
    { mode_mem := by rw [hupdated.mode]; exact h.mode_mem
      vblank := hupdated.vblank
      exposure := hupdated.exposure
      exposure_minimum := hupdated.exposure_minimum
      exposure_cur := hupdated.exposure_cur
      hblank_grabbed := hupdated.hblank_grabbed
      faults := updateLimits_stable (faultFree_controlStable.stableOn _) s.mode hfaults
      vblank_range := by rw [hvblankRange, hheight, hmodeVblank]
      vblank_min := by omega
      vblank_max := by omega
      exposure_max := by omega
      exposure_default := exposureDefault_updateLimits hdefault s.mode
      exposure_fits := by omega
      hblank_range := by rw [updateLimits_hblankRange, hmodeHblank]
      hblank_readOnly := hupdated.hblank_readOnly.trans hreadOnly }

end UpdateLimits

section Runs

variable {s : Imx219Device}

theorem tuned_withCtrl (h : Tuned s) {id : Imx219Ctrl} (hid : id ∉ timingCtrls)
    (ctrl : V4l2Ctrl) : Tuned (withCtrl s id ctrl) := by
  refine tuned_of_same h ⟨rfl, fun other hother => ?_⟩ h.faults
  have hne : other ≠ id := by
    rintro rfl
    exact hid hother
  rw [withCtrl_of_ne s hne]
  rfl

theorem tuned_stableOn {ids : List Imx219Ctrl} (hids : ∀ id ∈ ids, id ∉ timingCtrls) :
    StableOn ids Tuned where
  apply id s hs := by
    have hfaults := faultFree_controlStable.apply id s hs.faults
    have hmode := (sameFormat_controlStable s).apply id s ⟨rfl, rfl⟩
    refine tuned_of_same hs ⟨hmode.mode, fun other _ => ?_⟩ hfaults
    rw [applyCtrl_ctrls]
    rfl
  ctrl s id ctrl hid _ _ hs := tuned_withCtrl hs (hids id hid) ctrl

theorem preserves_tuned_applyCtrl (id : Imx219Ctrl) : Preserves Tuned (applyCtrl id) := by
  have hstable : StableOn [] Tuned := tuned_stableOn fun _ hmem => absurd hmem List.not_mem_nil
  exact hstable.apply id

/-- The limits of the exposure, updated for the blanking they already have. -/
theorem tuned_updateExposure (h : Tuned s) :
    Tuned (updateExposure (modeHeight s + (s.ctrls .vblank).cur - 4) s) := by
  have hrelated := h.exposure_max
  have hcur := h.exposure_cur
  have hfit := h.exposure_fits
  have hupdated := updateExposure_spec h.exposure h.exposure_minimum hcur
    (show 4 ≤ modeHeight s + (s.ctrls .vblank).cur - 4 by omega)
  have hfaults : FaultFree (updateExposure (modeHeight s + (s.ctrls .vblank).cur - 4) s) :=
    updateExposure_stable (faultFree_controlStable.stableOn [.exposure]) (by simp) _ h.faults
  have hfits := (exposureUpdated_fits hupdated h.faults).trans hupdated.maximum.ge
  exact h.withExposure hupdated.mode hupdated.others hfaults hupdated.settable hupdated.minimum
    (hupdated.maximum.trans hrelated.symm)
    (exposureDefault_updateExposure h.exposure_default _)
    (hupdated.exposure_cur hcur (by omega)) hfits

theorem tuned_streamStable : StreamStable Tuned where
  write _ _ _ _ s hs := tuned_of_same hs ⟨rfl, fun _ _ => rfl⟩ (writeReg_faults hs.faults _ _ _)
  setup id s hs := by
    have hasked := tuned_withVal hs id (s.ctrls id).cur
    by_cases hid : id = .vblank
    · subst hid
      have hexposure := tuned_updateExposure hasked
      rw [withCtrl_self] at hexposure
      have hset := preserves_tuned_applyCtrl .vblank _ hexposure
      unfold imx219SetCtrl
      dsimp only
      rw [withCtrl_self]
      exact hset
    · rw [imx219SetCtrl_of_ne hid]
      exact preserves_tuned_applyCtrl id _ hasked
  grab _ s hs := tuned_withCtrl (tuned_withCtrl hs (by decide) _) (by decide) _
  powerUp s hs := by
    unfold powerUp
    split
    · exact hs
    · exact tuned_of_same hs ⟨rfl, fun _ _ => rfl⟩ hs.faults
  flags _ _ _ _ hs := tuned_of_same hs ⟨rfl, fun _ _ => rfl⟩ hs.faults

theorem tuned_sCtrl (h : Tuned s) (id : Imx219Ctrl) (val : Int) : Tuned (v4l2SCtrl id val s) := by
  unfold v4l2SCtrl
  split
  · exact h
  · rename_i hwritable
    split
    · exact tuned_withVal h id val
    · rename_i set hvalid
      by_cases hvblank : id = .vblank
      · subst hvblank
        obtain ⟨hmin, hmax⟩ := h.vblank_limits
        unfold validateNew at hvalid
        rw [h.vblank.type, hmin, hmax] at hvalid
        obtain rfl := Option.some.inj hvalid
        have hclamp := clampTo_mem (h.vblank_min.trans h.vblank_max) val
        exact tuned_setVblank h hclamp.1 hclamp.2
      · rw [imx219SetCtrl_of_ne hvblank]
        by_cases hexposure : id = .exposure
        · subst hexposure
          unfold validateNew at hvalid
          rw [h.exposure.type, h.exposure_minimum] at hvalid
          obtain rfl := Option.some.inj hvalid
          have hclamp := clampTo_mem (h.exposure_cur.trans h.exposure_fits) val
          exact tuned_setExposure h hclamp.1 hclamp.2
        · have hid : id ∉ timingCtrls := by
            intro hmem
            simp only [timingCtrls, List.mem_cons, List.not_mem_nil, or_false] at hmem
            rcases hmem with rfl | rfl | rfl
            · exact hvblank rfl
            · exact hexposure rfl
            · exact hwritable h.hblank_readOnly
          have hstable : StableOn [id] Tuned := tuned_stableOn fun other hother => by
            rwa [List.mem_singleton.mp hother]
          exact preserves_v4l2SetCtrl hstable (preserves_tuned_applyCtrl id) (by simp) set s h

theorem tuned_setPadFormat (h : Tuned s) (nearest : NearestSize) (which : FormatWhence)
    (format : MbusFramefmt) : Tuned (imx219SetPadFormat nearest which format s).1 := by
  obtain ⟨mode, hmode, hpick⟩ := nearest.pick_mem imx219ModeSize
    (show supportedModes ≠ [] by decide) format.width format.height
  cases which with
  | «try» =>
      rw [setPadFormat_try hpick]
      exact tuned_of_same h ⟨rfl, fun _ _ => rfl⟩ h.faults
  | active =>
      rcases setPadFormat_active (s := s) hpick with ⟨-, hrun⟩ | ⟨-, hrun⟩
      · have htunable : Tunable (withMode s (filledFormat s format mode) mode) :=
          { mode_mem := hmode
            vblank := h.vblank
            exposure := h.exposure
            exposure_minimum := h.exposure_minimum
            exposure_cur := h.exposure_cur
            hblank_grabbed := h.hblank_grabbed }
        rw [hrun]
        exact tuned_updateLimits htunable h.faults h.exposure_default h.hblank_readOnly
      · rwa [hrun]

theorem tuned_step (h : Tuned s) (nearest : NearestSize) (op : Imx219Op) :
    Tuned (imx219Step nearest s op) := by
  cases op with
  | sCtrl id val => exact tuned_sCtrl h id val
  | setPadFormat which format => exact tuned_setPadFormat h nearest which format
  | setStream | suspend | resume | othersHold => exact tuned_streamStable.step nearest rfl h

theorem tuned_probed {client : Imx219Client} (hfaults : client.faults = [])
    (tryFmt : MbusFramefmt) : Tuned (probedDevice client tryFmt) where
  mode_mem := show imx219Mode0 ∈ supportedModes by decide
  vblank := ⟨rfl, rfl, rfl⟩
  exposure := ⟨rfl, rfl, rfl⟩
  exposure_minimum := rfl
  exposure_cur := show 4 ≤ (imx219InitControls imx219Mode0 .exposure).cur by decide
  hblank_grabbed := rfl
  faults := hfaults
  vblank_range := rfl
  vblank_min := show 4 ≤ (imx219InitControls imx219Mode0 .vblank).cur by decide
  vblank_max := show (imx219InitControls imx219Mode0 .vblank).cur ≤
    0xffff - (imx219Mode0.height.toNat : Int) by decide
  exposure_max := show (imx219InitControls imx219Mode0 .exposure).maximum =
    imx219Mode0.height.toNat + (imx219InitControls imx219Mode0 .vblank).cur - 4 by decide
  exposure_default := show (imx219InitControls imx219Mode0 .exposure).defaultValue =
    exposureDefault (imx219InitControls imx219Mode0 .exposure).maximum by decide
  exposure_fits := show (imx219InitControls imx219Mode0 .exposure).cur ≤
    (imx219InitControls imx219Mode0 .exposure).maximum by decide
  hblank_range := rfl
  hblank_readOnly := rfl

end Runs

/-- The device after its own format was set again. -/
def resetFormat (nearest : NearestSize) (s : Imx219Device) : Imx219Device :=
  (imx219SetPadFormat nearest .active (imx219GetPadFormat .active s).2 s).1

/-- The stored code is the one of the flips, or there is nothing left of what was set: the
frames have their default blanking, and the blanking of the lines is the one of the mode
or cannot be set. -/
def ResetHarmless (s : Imx219Device) : Prop :=
  s.fmt.code = imx219GetFormatCode s s.fmt.code ∨
    (s.ctrls .vblank).cur = modeVblank s ∧
      (inUse s = true ∨ (s.ctrls .hblank).cur = modeHblank s)

instance (s : Imx219Device) : Decidable (ResetHarmless s) :=
  inferInstanceAs (Decidable (_ ∨ _ ∧ (_ ∨ _)))

theorem Tuned.sameRange {s t : Imx219Device} (hs : Tuned s) (ht : Tuned t)
    (hmode : t.mode = s.mode) (hvblank : (t.ctrls .vblank).cur = (s.ctrls .vblank).cur) :
    ∀ id ∈ timingCtrls, range (t.ctrls id) = range (s.ctrls id) := by
  obtain ⟨hheight, hmodeVblank, hmodeHblank⟩ := modeBlanks_of_mode hmode
  have hmaximum : (t.ctrls .exposure).maximum = (s.ctrls .exposure).maximum := by
    rw [ht.exposure_max, hs.exposure_max, hheight, hvblank]
  have hdefault : (t.ctrls .exposure).defaultValue = (s.ctrls .exposure).defaultValue := by
    rw [ht.exposure_default, hs.exposure_default, hmaximum]
  intro id hid
  simp only [timingCtrls, List.mem_cons, List.not_mem_nil, or_false] at hid
  rcases hid with rfl | rfl | rfl
  · rw [ht.vblank_range, hs.vblank_range, hheight, hmodeVblank]
  · simp only [range, ht.exposure_minimum, hs.exposure_minimum, hmaximum, ht.exposure.step,
      hs.exposure.step, hdefault]
  · rw [ht.hblank_range, hs.hblank_range, hmodeHblank]

/-- The limits of the mode a device has are updated without effect exactly when they ask
for what the controls already have. -/
theorem sameSettings_updateLimits {s : Imx219Device} (hs : Tuned s) :
    SameSettings s (updateLimits s.mode s) ↔ (s.ctrls .vblank).cur = modeVblank s ∧
      (inUse s = true ∨ (s.ctrls .hblank).cur = modeHblank s) := by
  have hvblank := (updateLimits_reached hs.toTunable hs.faults).1
  have hhblank := updateLimits_hblank hs.toTunable
  constructor
  · intro h
    refine ⟨?_, ?_⟩
    · rw [← h.cur .vblank (by decide), hvblank]
    · rw [h.cur .hblank (by decide)] at hhblank
      rcases huse : inUse s with _ | _
      · rw [huse] at hhblank
        exact .inr hhblank
      · exact .inl rfl
  · rintro ⟨hdefault, hline⟩
    have htuned := tuned_updateLimits hs.toTunable hs.faults hs.exposure_default
      hs.hblank_readOnly
    have hmode := (updateLimits_updated hs.toTunable).mode
    refine ⟨hmode, fun id hid => ?_, hs.sameRange htuned hmode (hvblank.trans hdefault.symm)⟩
    simp only [timingCtrls, List.mem_cons, List.not_mem_nil, or_false] at hid
    rcases hid with rfl | rfl | rfl
    · rw [hvblank, hdefault]
    · exact updateLimits_exposure hs hdefault
    · rw [hhblank]
      rcases hline with huse | hcur
      · rw [if_pos huse]
      · rw [hcur]
        split <;> rfl

theorem resetFormat_sameSettings {nearest : NearestSize} (hnearest : nearest.Minimises)
    {s : Imx219Device} (hs : Tuned s) :
    SameSettings s (resetFormat nearest s) ↔ ResetHarmless s := by
  have hpick : nearest.pick imx219ModeSize supportedModes
      (imx219GetPadFormat .active s).2.width (imx219GetPadFormat .active s).2.height =
        some s.mode := hnearest.pick_self modeSize_inj hs.mode_mem rfl
  have hcode : (filledFormat s (imx219GetPadFormat .active s).2 s.mode).code =
      imx219GetFormatCode s s.fmt.code := by
    rw [filledFormat_eq]
    exact getFormatCode_congr rfl (codeGroup_getFormatCode s s.fmt.code)
  rcases setPadFormat_active (s := s) hpick with ⟨hchanges, hrun⟩ | ⟨hsame, hrun⟩
  · have hstale : s.fmt.code ≠ imx219GetFormatCode s s.fmt.code := by
      rw [← hcode]
      exact hchanges.resolve_left (not_not.mpr rfl)
    have htuned : Tuned (withMode s (filledFormat s (imx219GetPadFormat .active s).2 s.mode)
        s.mode) := tuned_of_same hs ⟨rfl, fun _ _ => rfl⟩ hs.faults
    have hiff := sameSettings_updateLimits htuned
    rw [resetFormat, hrun, ResetHarmless, or_iff_right hstale]
    exact ⟨fun h => hiff.mp ⟨h.mode, h.cur, h.range⟩,
      fun h => have hkept := hiff.mpr h; ⟨hkept.mode, hkept.cur, hkept.range⟩⟩
  · rw [resetFormat, hrun]
    have hstored := not_not.mp (not_or.mp hsame).2
    exact ⟨fun _ => .inl (hstored.trans hcode), fun _ => ⟨rfl, fun _ _ => rfl, fun _ _ => rfl⟩⟩

/-- From probe on and without failing transfers: setting the current format again changes
nothing exactly when no flip has changed the code since it was stored, or the timing is
the one of a fresh format anyway. -/
theorem resetFormat_keeps_iff {nearest : NearestSize} (hnearest : nearest.Minimises)
    {client : Imx219Client} (hfaults : client.faults = []) (tryFmt : MbusFramefmt)
    (ops : List Imx219Op) :
    SameSettings (exec (imx219Step nearest) (probedDevice client tryFmt) ops)
        (resetFormat nearest (exec (imx219Step nearest) (probedDevice client tryFmt) ops)) ↔
      ResetHarmless (exec (imx219Step nearest) (probedDevice client tryFmt) ops) := by
  have hany : Along (imx219Step nearest) (fun _ _ => True) (probedDevice client tryFmt) ops :=
    along_of_forall (fun _ _ => trivial) _ ops
  apply resetFormat_sameSettings hnearest
  exact exec_of_along (I := Tuned) (fun _ op hs _ => tuned_step hs nearest op)
    (tuned_probed hfaults tryFmt) hany

theorem resetFormat_keeps_vblank :
    SameSettings (exec (imx219Step leastError) (boardDevice []) [.sCtrl .vblank 2000])
      (resetFormat leastError
        (exec (imx219Step leastError) (boardDevice []) [.sCtrl .vblank 2000])) := by
  refine (resetFormat_keeps_iff leastError_minimises rfl _ _).mpr (.inl ?_)
  decide +kernel

/-- Longer frames, and then a flip. -/
def framesThenFlip : List Imx219Op := [.sCtrl .vblank 2000, .sCtrl .hflip 1]

/-- The frames are shortened to their default. -/
theorem framesThenFlip_reset :
    ¬SameSettings (exec (imx219Step leastError) (boardDevice []) framesThenFlip)
      (resetFormat leastError (exec (imx219Step leastError) (boardDevice []) framesThenFlip)) := by
  intro h
  have hcur := h.cur .vblank (by decide)
  revert hcur
  decide +kernel

end CameraPorting.SensorImx219.FormatReset
