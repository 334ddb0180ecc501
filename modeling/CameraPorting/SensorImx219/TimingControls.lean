import CameraPorting.SensorImx219.StreamState

namespace CameraPorting.SensorImx219.TimingControls

open CameraPorting.Kernel.Media
open CameraPorting.Kernel.I2c
open CameraPorting.Library.Runs
open CameraPorting.SensorImx219.Sensor hiding imx219GetFormatCode imx219GetPadFormat
  imx219SetPadFormat updateExposure updateLimits
open CameraPorting.SensorImx219.RegisterLists
open CameraPorting.SensorImx219.Driver
open CameraPorting.SensorImx219.StreamState

def modeHeight (s : Imx219Device) : Int := s.mode.height.toNat

/-- The timing controls fit the mode and each other, and no frame length the driver has
asked for is out of range. -/
structure TimingOk (s : Imx219Device) : Prop where
  vblank_min : 4 ≤ (s.ctrls .vblank).cur
  vblank_max : (s.ctrls .vblank).cur ≤ 0xffff - modeHeight s
  exposure_max : (s.ctrls .exposure).maximum = modeHeight s + (s.ctrls .vblank).cur - 4
  exposure_cur : (s.ctrls .exposure).minimum ≤ (s.ctrls .exposure).cur ∧
    (s.ctrls .exposure).cur ≤ (s.ctrls .exposure).maximum
  hblank_cur : (s.ctrls .hblank).cur = 3448 - s.mode.width.toNat
  hblank_min : (s.ctrls .hblank).minimum = 3448 - s.mode.width.toNat
  hblank_max : (s.ctrls .hblank).maximum = 3448 - s.mode.width.toNat
  frameLength : ∀ w ∈ s.client.chip.requests, w.reg = imx219RegVts → w.val.toNat ≤ 0xffff

structure Settable (ctrl : V4l2Ctrl) : Prop where
  type : ctrl.type = .integer
  step : ctrl.step = 1
  grabbed : ctrl.grabbed = false

structure TimingInvariant (s : Imx219Device) : Prop extends TimingOk s where
  mode_mem : s.mode ∈ supportedModes
  vblank : Settable (s.ctrls .vblank)
  exposure : Settable (s.ctrls .exposure)
  vblank_minimum : (s.ctrls .vblank).minimum = 4
  vblank_maximum : (s.ctrls .vblank).maximum = 0xffff - modeHeight s
  vblank_readOnly : (s.ctrls .vblank).readOnly = false
  exposure_minimum : (s.ctrls .exposure).minimum = 4
  hblank_readOnly : (s.ctrls .hblank).readOnly = true
  hblank_grabbed : (s.ctrls .hblank).grabbed = false

/-- The transfer after the next `n` succeeds. -/
def WriteOk (n : Nat) (s : Imx219Device) : Prop := s.client.faults.getD n none = none

instance (n : Nat) (s : Imx219Device) : Decidable (WriteOk n s) :=
  inferInstanceAs (Decidable (_ = _))

theorem writeOk_of_drop {s t : Imx219Device} (h : t.client.faults = s.client.faults.drop 1)
    (n : Nat) : WriteOk n t ↔ WriteOk (n + 1) s := by
  unfold WriteOk
  rw [h, List.getD_eq_getElem?_getD, List.getD_eq_getElem?_getD, List.getElem?_drop,
    Nat.add_comm]

theorem writeReg_outcome (reg : U16) {len : Nat} (hlen : len ≤ 4) (val : U32)
    (client : Imx219Client) :
    ∃ after : Imx219Client, after.faults = client.faults.drop 1 ∧
      after.chip.requests = ⟨reg, len, val⟩ :: client.chip.requests ∧
      ((client.faults.getD 0 none = none ∧ imx219WriteReg reg len val client = (.ok (), after)) ∨
        (client.faults.getD 0 none ≠ none ∧
          imx219WriteReg reg len val client = (.error .eio, after))) := by
  obtain ⟨after, hfaults, hrequests, hrun⟩ := writeReg_run hlen reg val client
  refine ⟨after, hfaults, hrequests, ?_⟩
  rw [ne_eq, ← noFault_one_iff]
  exact hrun.imp (fun h => ⟨h.1, h.2.1⟩) (fun h => ⟨h.1, h.2.1⟩)

/-- Setting a control of one register: nothing is written while the device is not in
use, else one transfer decides. -/
theorem applyCtrl_outcome {id : Imx219Ctrl} {s : Imx219Device} {reg : U16} {len : Nat}
    {val : U32} (hlen : len ≤ 4) (hwrite : writeCtrl id s = imx219WriteReg reg len val) :
    (inUse s = false ∧ applyCtrl id s = (.ok (), s)) ∨
      (inUse s = true ∧ ∃ after : Imx219Client, after.faults = s.client.faults.drop 1 ∧
        after.chip.requests = ⟨reg, len, val⟩ :: s.client.chip.requests ∧
        ((WriteOk 0 s ∧ applyCtrl id s = (.ok (), withClient s after)) ∨
          (¬WriteOk 0 s ∧ applyCtrl id s = (.error .eio, withClient s after)))) := by
  unfold applyCtrl onClient
  rcases inUse s with _ | _
  · exact .inl ⟨rfl, rfl⟩
  · obtain ⟨after, hfaults, hrequests, hrun⟩ := writeReg_outcome reg hlen val s.client
    refine .inr ⟨rfl, after, hfaults, hrequests, ?_⟩
    rw [if_pos rfl, hwrite]
    rcases hrun with ⟨hok, hrun⟩ | ⟨hfault, hrun⟩
    · rw [hrun]
      exact .inl ⟨hok, rfl⟩
    · rw [hrun]
      exact .inr ⟨hfault, rfl⟩

/-- What setting the timing controls does not touch; a frame length it asks for is in
range. -/
structure TimingFrame (s t : Imx219Device) : Prop where
  mode : t.mode = s.mode
  fmt : t.fmt = s.fmt
  othersHold : t.othersHold = s.othersHold
  pmRefs : t.pmRefs = s.pmRefs
  frameLength : ∀ w ∈ t.client.chip.requests, w.reg = imx219RegVts →
    w ∈ s.client.chip.requests ∨ w.val.toNat ≤ 0xffff

theorem TimingFrame.refl (s : Imx219Device) : TimingFrame s s :=
  ⟨rfl, rfl, rfl, rfl, fun _ hw _ => .inl hw⟩

theorem TimingFrame.trans {s t u : Imx219Device} (h : TimingFrame s t) (h' : TimingFrame t u) :
    TimingFrame s u where
  mode := h'.mode.trans h.mode
  fmt := h'.fmt.trans h.fmt
  othersHold := h'.othersHold.trans h.othersHold
  pmRefs := h'.pmRefs.trans h.pmRefs
  frameLength := by
    intro w hw hreg
    rcases h'.frameLength w hw hreg with hmem | hrange
    · exact h.frameLength w hmem hreg
    · exact .inr hrange

theorem TimingFrame.inUse {s t : Imx219Device} (h : TimingFrame s t) :
    Driver.inUse t = Driver.inUse s := by
  unfold Driver.inUse
  rw [h.othersHold, h.pmRefs]

theorem TimingFrame.modeHeight {s t : Imx219Device} (h : TimingFrame s t) :
    TimingControls.modeHeight t = TimingControls.modeHeight s := by
  unfold TimingControls.modeHeight
  rw [h.mode]

theorem timingFrame_write {s : Imx219Device} {after : Imx219Client} {w : RegWrite}
    (hrequests : after.chip.requests = w :: s.client.chip.requests)
    (hw : w.reg = imx219RegVts → w.val.toNat ≤ 0xffff) : TimingFrame s (withClient s after) where
  mode := rfl
  fmt := rfl
  othersHold := rfl
  pmRefs := rfl
  frameLength := by
    intro w' hw' hreg
    have hmem : w' ∈ w :: s.client.chip.requests := by
      rw [← hrequests]
      exact hw'
    rcases List.mem_cons.mp hmem with rfl | hmem
    · exact .inr (hw hreg)
    · exact .inl hmem

theorem timingFrame_ctrl (s : Imx219Device) (id : Imx219Ctrl) (ctrl : V4l2Ctrl) :
    TimingFrame s (withCtrl s id ctrl) :=
  ⟨rfl, rfl, rfl, rfl, fun _ hw _ => .inl hw⟩

/-- A control that was asked for `val`: outside of use it takes the value, in use the
next transfer decides. -/
structure CtrlAsked (id : Imx219Ctrl) (val : Int) (s t : Imx219Device) : Prop
    extends TimingFrame s t where
  others : ∀ other, other ≠ id → t.ctrls other = s.ctrls other
  ctrl : t.ctrls id = ((s.ctrls id).withVal val).withCur (t.ctrls id).cur
  outcome :
    (Driver.inUse s = false ∧ (t.ctrls id).cur = val ∧ t.client.faults = s.client.faults) ∨
      (Driver.inUse s = true ∧ t.client.faults = s.client.faults.drop 1 ∧
        (t.ctrls id).cur = if WriteOk 0 s then val else (s.ctrls id).cur)

/-- What `updateExposure` leaves, for a limit that is not below the minimum. -/
structure ExposureUpdated (exposureMax : Int) (s t : Imx219Device) : Prop
    extends TimingFrame s t where
  others : ∀ id, id ≠ .exposure → t.ctrls id = s.ctrls id
  settable : Settable (t.ctrls .exposure)
  minimum : (t.ctrls .exposure).minimum = 4
  maximum : (t.ctrls .exposure).maximum = exposureMax
  outcome :
    ((s.ctrls .exposure).cur ≤ exposureMax ∧ (t.ctrls .exposure).cur = (s.ctrls .exposure).cur ∧
        t.client.faults = s.client.faults) ∨
      (exposureMax < (s.ctrls .exposure).cur ∧
        ((Driver.inUse s = false ∧ (t.ctrls .exposure).cur = exposureMax ∧
            t.client.faults = s.client.faults) ∨
          (Driver.inUse s = true ∧ t.client.faults = s.client.faults.drop 1 ∧
            (t.ctrls .exposure).cur =
              if WriteOk 0 s then exposureMax else (s.ctrls .exposure).cur)))

section SetCtrl

variable {sCtrl : Imx219Routine Unit} {id : Imx219Ctrl} {val : Int} {s t : Imx219Device}
  {e : Errno}

theorem v4l2SetCtrl_same (hgrabbed : (s.ctrls id).grabbed = false)
    (hval : val = (s.ctrls id).cur) :
    v4l2SetCtrl sCtrl id val s = (.ok (), withCtrl s id ((s.ctrls id).withVal val)) := by
  unfold v4l2SetCtrl
  dsimp only
  rw [withCtrl_self, if_neg (show ¬((s.ctrls id).withVal val).grabbed = true from
    Bool.eq_false_iff.mp hgrabbed), if_pos (show val = ((s.ctrls id).withVal val).cur from hval)]

theorem v4l2SetCtrl_ok (hgrabbed : (s.ctrls id).grabbed = false)
    (hval : val ≠ (s.ctrls id).cur)
    (hrun : sCtrl (withCtrl s id ((s.ctrls id).withVal val)) = (.ok (), t)) :
    v4l2SetCtrl sCtrl id val s = (.ok (), withCtrl t id ((t.ctrls id).withCur val)) := by
  unfold v4l2SetCtrl
  dsimp only
  rw [withCtrl_self, if_neg (show ¬((s.ctrls id).withVal val).grabbed = true from
    Bool.eq_false_iff.mp hgrabbed), if_neg (show ¬val = ((s.ctrls id).withVal val).cur from hval),
    hrun]

theorem v4l2SetCtrl_error (hgrabbed : (s.ctrls id).grabbed = false)
    (hval : val ≠ (s.ctrls id).cur)
    (hrun : sCtrl (withCtrl s id ((s.ctrls id).withVal val)) = (.error e, t)) :
    v4l2SetCtrl sCtrl id val s = (.error e, t) := by
  unfold v4l2SetCtrl
  dsimp only
  rw [withCtrl_self, if_neg (show ¬((s.ctrls id).withVal val).grabbed = true from
    Bool.eq_false_iff.mp hgrabbed), if_neg (show ¬val = ((s.ctrls id).withVal val).cur from hval),
    hrun]

end SetCtrl

theorem ctrlAsked_register {id : Imx219Ctrl} {reg : U16} {len : Nat}
    {bytes : Imx219Device → U32} (hlen : len ≤ 4) (hreg : reg ≠ imx219RegVts)
    (hwrite : ∀ s, writeCtrl id s = imx219WriteReg reg len (bytes s)) {s : Imx219Device}
    (hgrabbed : (s.ctrls id).grabbed = false) {val : Int} (hval : val ≠ (s.ctrls id).cur) :
    CtrlAsked id val s (v4l2SetCtrl (applyCtrl id) id val s).2 := by
  let asked := withCtrl s id ((s.ctrls id).withVal val)
  have hasked : asked.ctrls id = (s.ctrls id).withVal val := withCtrl_self s id _
  have hframe : TimingFrame s asked := timingFrame_ctrl s id _
  have hothers : ∀ other, other ≠ id → asked.ctrls other = s.ctrls other :=
    fun other hother => withCtrl_of_ne s hother _
  rcases applyCtrl_outcome hlen (hwrite asked) with ⟨hfree, hrun⟩ |
    ⟨huse, after, hfaults, hrequests, hrun⟩
  · rw [v4l2SetCtrl_ok hgrabbed hval hrun]
    exact
      { hframe.trans (timingFrame_ctrl asked id _) with
        others := fun other hother => (withCtrl_of_ne asked hother _).trans (hothers other hother)
        ctrl := by simp [hasked]
        outcome := .inl ⟨hfree, by simp, rfl⟩ }
  · have hwritten : TimingFrame s (withClient asked after) :=
      hframe.trans (timingFrame_write hrequests fun h => absurd h hreg)
    rcases hrun with ⟨hok, hrun⟩ | ⟨hfault, hrun⟩
    · rw [v4l2SetCtrl_ok hgrabbed hval hrun]
      exact
        { hwritten.trans (timingFrame_ctrl (withClient asked after) id _) with
          others := fun other hother =>
            (withCtrl_of_ne (withClient asked after) hother _).trans (hothers other hother)
          ctrl := by
            rw [withCtrl_self]
            exact congrArg (fun ctrl => V4l2Ctrl.withCur ctrl val) hasked
          outcome := .inr ⟨huse, hfaults, by
            rw [withCtrl_self, if_pos (show WriteOk 0 s from hok)]
            rfl⟩ }
    · rw [v4l2SetCtrl_error hgrabbed hval hrun]
      exact
        { hwritten with
          others := hothers
          ctrl := hasked.trans (by rw [show (withClient asked after).ctrls id = _ from hasked]; rfl)
          outcome := .inr ⟨huse, hfaults, by
            rw [show (withClient asked after).ctrls id = _ from hasked,
              if_neg (show ¬WriteOk 0 s from hfault)]
            rfl⟩ }

/-- The exposure limits follow at once; the exposure itself follows a limit it no longer
fits, unless the device is in use and the write fails. -/
theorem updateExposure_spec {s : Imx219Device} (hset : Settable (s.ctrls .exposure))
    (hmin : (s.ctrls .exposure).minimum = 4) (hcur : 4 ≤ (s.ctrls .exposure).cur)
    {exposureMax : Int} (hmax : 4 ≤ exposureMax) :
    ExposureUpdated exposureMax s (updateExposure exposureMax s) := by
  have hdefault : ¬((s.ctrls .exposure).step = 0 ∨ exposureMax < (s.ctrls .exposure).minimum ∨
      (if exposureMax < imx219ExposureDefault then exposureMax else imx219ExposureDefault) <
        (s.ctrls .exposure).minimum ∨
      exposureMax < (if exposureMax < imx219ExposureDefault then exposureMax
        else imx219ExposureDefault)) := by
    have hexposure : imx219ExposureDefault = 1600 := rfl
    rw [hset.step, hmin, hexposure]
    split <;> omega
  unfold updateExposure v4l2CtrlModifyRange
  rw [if_neg hdefault, hmin]
  let ranged := withCtrl s .exposure ((s.ctrls .exposure).withRange 4 exposureMax
    (s.ctrls .exposure).step
    (if exposureMax < imx219ExposureDefault then exposureMax else imx219ExposureDefault))
  have hranged : ranged.ctrls .exposure = (s.ctrls .exposure).withRange 4 exposureMax
      (s.ctrls .exposure).step
      (if exposureMax < imx219ExposureDefault then exposureMax else imx219ExposureDefault) :=
    withCtrl_self ..
  have hgrabbed : (ranged.ctrls .exposure).grabbed = false := by
    rw [hranged]
    exact hset.grabbed
  have hframe : TimingFrame s ranged := timingFrame_ctrl s .exposure _
  have hothers : ∀ id, id ≠ .exposure → ranged.ctrls id = s.ctrls id :=
    fun id hid => withCtrl_of_ne s hid _
  change ExposureUpdated exposureMax s (v4l2SetCtrl (applyCtrl .exposure) .exposure
    (clampTo 4 exposureMax (s.ctrls .exposure).cur) ranged).2
  by_cases hfits : (s.ctrls .exposure).cur ≤ exposureMax
  · have hclamp : clampTo 4 exposureMax (s.ctrls .exposure).cur = (s.ctrls .exposure).cur :=
      clampTo_of_mem (by omega) hfits
    rw [hclamp, v4l2SetCtrl_same hgrabbed (by rw [hranged]; rfl)]
    exact
      { hframe.trans (timingFrame_ctrl ranged .exposure _) with
        others := fun id hid => (withCtrl_of_ne ranged hid _).trans (hothers id hid)
        settable := by
          rw [withCtrl_self, hranged]
          exact ⟨hset.type, hset.step, hset.grabbed⟩
        minimum := by rw [withCtrl_self, hranged]; rfl
        maximum := by rw [withCtrl_self, hranged]; rfl
        outcome := .inl ⟨hfits, by rw [withCtrl_self, hranged]; rfl, rfl⟩ }
  · have hlt : exposureMax < (s.ctrls .exposure).cur := by omega
    have hclamp : clampTo 4 exposureMax (s.ctrls .exposure).cur = exposureMax :=
      clampTo_of_ge (by omega) hlt.le
    have hne : exposureMax ≠ (ranged.ctrls .exposure).cur := by
      rw [hranged]
      exact Int.ne_of_lt hlt
    rw [hclamp]
    have hasked : CtrlAsked .exposure exposureMax ranged
        (v4l2SetCtrl (applyCtrl .exposure) .exposure exposureMax ranged).2 :=
      ctrlAsked_register (by decide) (by decide) (fun _ => rfl) hgrabbed hne
    have hctrl := hasked.ctrl
    rw [hranged] at hctrl
    refine
      { hframe.trans hasked.toTimingFrame with
        others := fun id hid => (hasked.others id hid).trans (hothers id hid)
        settable := ?_
        minimum := ?_
        maximum := ?_
        outcome := .inr ⟨hlt, ?_⟩ }
    · rw [hctrl]
      exact ⟨hset.type, hset.step, hset.grabbed⟩
    · rw [hctrl]
      rfl
    · rw [hctrl]
      rfl
    · rcases hasked.outcome with ⟨hfree, hval, hfaults⟩ | ⟨huse, hfaults, hval⟩
      · exact .inl ⟨hfree, hval, hfaults⟩
      · rw [hranged] at hval
        exact .inr ⟨huse, hfaults, hval⟩

theorem frameLength_toNat {mode : Imx219Mode} {v : Int} (hv : 0 ≤ v)
    (hmax : (mode.height.toNat : Int) + v ≤ 0xffff) :
    ((mode.height + BitVec.ofInt 32 v : U32)).toNat ≤ 0xffff := by
  rw [BitVec.toNat_add, BitVec.toNat_ofInt]
  omega

theorem ctrlAsked_vblank {s : Imx219Device} {v : Int} (hasked : (s.ctrls .vblank).val = v)
    (hv : 4 ≤ v) (hmax : v ≤ 0xffff - modeHeight s) :
    ∃ t, CtrlAsked .vblank v s t ∧
      (((applyCtrl .vblank s).1 = .ok () ∧
          t = withCtrl (applyCtrl .vblank s).2 .vblank
            (((applyCtrl .vblank s).2.ctrls .vblank).withCur v)) ∨
        ((∃ e, (applyCtrl .vblank s).1 = .error e) ∧ t = (applyCtrl .vblank s).2)) := by
  have hval : (s.ctrls .vblank).withVal v = s.ctrls .vblank := by
    rw [← hasked]
    rfl
  have hrange : (s.mode.height + BitVec.ofInt 32 (s.ctrls .vblank).val).toNat ≤ 0xffff := by
    rw [hasked]
    unfold modeHeight at hmax
    exact frameLength_toNat (by omega) (by omega)
  have hwrite : writeCtrl .vblank s = imx219WriteReg imx219RegVts 2
      (s.mode.height + BitVec.ofInt 32 (s.ctrls .vblank).val) := rfl
  rcases applyCtrl_outcome (by decide) hwrite with
    ⟨hfree, hrun⟩ | ⟨huse, after, hfaults, hrequests, hrun⟩
  · refine ⟨withCtrl s .vblank ((s.ctrls .vblank).withCur v), ?_, .inl ?_⟩
    · exact
        { timingFrame_ctrl s .vblank _ with
          others := fun other hother => withCtrl_of_ne s hother _
          ctrl := by
            rw [withCtrl_self, hval]
            rfl
          outcome := .inl ⟨hfree, by rw [withCtrl_self]; rfl, rfl⟩ }
    · rw [hrun]
      exact ⟨rfl, rfl⟩
  · have hwritten : TimingFrame s (withClient s after) :=
      timingFrame_write hrequests fun _ => hrange
    rcases hrun with ⟨hok, hrun⟩ | ⟨hfault, hrun⟩
    · refine ⟨withCtrl (withClient s after) .vblank ((s.ctrls .vblank).withCur v), ?_, .inl ?_⟩
      · exact
          { hwritten.trans (timingFrame_ctrl (withClient s after) .vblank _) with
            others := fun other hother => withCtrl_of_ne (withClient s after) hother _
            ctrl := by
              rw [withCtrl_self, hval]
              rfl
            outcome := .inr ⟨huse, hfaults, by
              rw [withCtrl_self, if_pos hok]
              rfl⟩ }
      · rw [hrun]
        exact ⟨rfl, rfl⟩
    · refine ⟨withClient s after, ?_, .inr ?_⟩
      · exact
          { hwritten with
            others := fun _ _ => rfl
            ctrl := by
              rw [hval]
              rfl
            outcome := .inr ⟨huse, hfaults, by
              rw [if_neg hfault]
              rfl⟩ }
      · rw [hrun]
        exact ⟨⟨.eio, rfl⟩, rfl⟩

/-- What setting the vertical blanking to `v` leaves. In use, a limit that the exposure
no longer fits takes a transfer of its own, before that of the frame length. -/
structure VblankTried (v : Int) (s t : Imx219Device) : Prop extends TimingFrame s t where
  hblank : t.ctrls .hblank = s.ctrls .hblank
  vblank : t.ctrls .vblank = ((s.ctrls .vblank).withVal v).withCur (t.ctrls .vblank).cur
  settable : Settable (t.ctrls .exposure)
  minimum : (t.ctrls .exposure).minimum = 4
  exposure_cur : 4 ≤ (t.ctrls .exposure).cur
  unchanged : v = (s.ctrls .vblank).cur → (t.ctrls .vblank).cur = v ∧
    t.ctrls .exposure = s.ctrls .exposure ∧ t.client.faults = s.client.faults
  maximum : v ≠ (s.ctrls .vblank).cur →
    (t.ctrls .exposure).maximum = TimingControls.modeHeight s + v - 4
  idle : Driver.inUse s = false → v ≠ (s.ctrls .vblank).cur → (t.ctrls .vblank).cur = v ∧
    (t.ctrls .exposure).cur ≤ TimingControls.modeHeight s + v - 4
  busy_fits : Driver.inUse s = true → v ≠ (s.ctrls .vblank).cur →
    (s.ctrls .exposure).cur ≤ TimingControls.modeHeight s + v - 4 →
      t.client.faults = s.client.faults.drop 1 ∧
        (t.ctrls .exposure).cur = (s.ctrls .exposure).cur ∧
          (t.ctrls .vblank).cur = if WriteOk 0 s then v else (s.ctrls .vblank).cur
  busy_shrinks : Driver.inUse s = true → v ≠ (s.ctrls .vblank).cur →
    TimingControls.modeHeight s + v - 4 < (s.ctrls .exposure).cur →
      t.client.faults = s.client.faults.drop 2 ∧
        (t.ctrls .exposure).cur = (if WriteOk 0 s then TimingControls.modeHeight s + v - 4
          else (s.ctrls .exposure).cur) ∧
          (t.ctrls .vblank).cur = if WriteOk 1 s then v else (s.ctrls .vblank).cur

/-- A new value: the limits of the exposure come first, then the frame length. -/
theorem vblankTried_new {s e t : Imx219Device} {v : Int} (hnew : v ≠ (s.ctrls .vblank).cur)
    (hexposure : ExposureUpdated (modeHeight s + v - 4)
      (withCtrl s .vblank ((s.ctrls .vblank).withVal v)) e)
    (hcur : 4 ≤ (s.ctrls .exposure).cur) (hmax : 4 ≤ modeHeight s + v - 4)
    (hasked : CtrlAsked .vblank v e t) : VblankTried v s t := by
  let asked := withCtrl s .vblank ((s.ctrls .vblank).withVal v)
  have hother : asked.ctrls .exposure = s.ctrls .exposure := withCtrl_of_ne s (by decide) _
  have hexp : t.ctrls .exposure = e.ctrls .exposure := hasked.others .exposure (by decide)
  have hvblank : e.ctrls .vblank = (s.ctrls .vblank).withVal v :=
    (hexposure.others .vblank (by decide)).trans (withCtrl_self s .vblank _)
  have huse : Driver.inUse e = Driver.inUse s := hexposure.inUse
  have houtcome := hexposure.outcome
  change ((asked.ctrls .exposure).cur ≤ _ ∧ _ = (asked.ctrls .exposure).cur ∧
    _ = s.client.faults) ∨ (_ < (asked.ctrls .exposure).cur ∧
      ((Driver.inUse s = false ∧ _ ∧ _ = s.client.faults) ∨
        (Driver.inUse s = true ∧ _ = s.client.faults.drop 1 ∧
          _ = if WriteOk 0 s then _ else (asked.ctrls .exposure).cur))) at houtcome
  rw [hother] at houtcome
  have hlast := hasked.outcome
  rw [huse, hvblank] at hlast
  refine
    { (timingFrame_ctrl s .vblank _).trans (hexposure.toTimingFrame.trans hasked.toTimingFrame) with
      hblank := ?_
      vblank := ?_
      settable := by rw [hexp]; exact hexposure.settable
      minimum := by rw [hexp]; exact hexposure.minimum
      exposure_cur := ?_
      unchanged := fun h => absurd h hnew
      maximum := fun _ => by rw [hexp]; exact hexposure.maximum
      idle := ?_
      busy_fits := ?_
      busy_shrinks := ?_ }
  · exact (hasked.others .hblank (by decide)).trans ((hexposure.others .hblank (by decide)).trans
      (withCtrl_of_ne s (by decide) _))
  · have hctrl := hasked.ctrl
    rw [hvblank] at hctrl
    exact hctrl
  · rw [hexp]
    rcases houtcome with ⟨-, hval, -⟩ | ⟨-, ⟨-, hval, -⟩ | ⟨-, -, hval⟩⟩
    · omega
    · omega
    · split at hval <;> omega
  · intro hfree _
    rw [hexp]
    rcases hlast with ⟨-, hval, -⟩ | ⟨hbusy, -⟩
    · refine ⟨hval, ?_⟩
      rcases houtcome with ⟨hfits, hval, -⟩ | ⟨-, ⟨-, hval, -⟩ | ⟨hbusy, -⟩⟩
      · omega
      · omega
      · exact absurd (hfree.symm.trans hbusy) (by decide)
    · exact absurd (hfree.symm.trans hbusy) (by decide)
  · intro hbusy _ hfits
    rw [hexp]
    rcases hlast with ⟨hfree, -⟩ | ⟨-, hfaults, hval⟩
    · exact absurd (hfree.symm.trans hbusy) (by decide)
    · rcases houtcome with ⟨-, hexpval, hexpfaults⟩ | ⟨hlt, -⟩
      · refine ⟨by rw [hfaults, hexpfaults], hexpval, ?_⟩
        have hok : WriteOk 0 e ↔ WriteOk 0 s := by
          unfold WriteOk
          rw [hexpfaults]
        rw [hval]
        simp only [hok, V4l2Ctrl.withVal_cur]
      · omega
  · intro hbusy _ hlt
    rw [hexp]
    rcases hlast with ⟨hfree, -⟩ | ⟨-, hfaults, hval⟩
    · exact absurd (hfree.symm.trans hbusy) (by decide)
    · rcases houtcome with ⟨hfits, -⟩ | ⟨-, ⟨hfree, -⟩ | ⟨-, hexpfaults, hexpval⟩⟩
      · omega
      · exact absurd (hfree.symm.trans hbusy) (by decide)
      · refine ⟨by rw [hfaults, hexpfaults, List.drop_drop], hexpval, ?_⟩
        rw [hval]
        simp only [writeOk_of_drop hexpfaults, V4l2Ctrl.withVal_cur, Nat.zero_add]

theorem vblankTried_spec {s : Imx219Device} (hgrabbed : (s.ctrls .vblank).grabbed = false)
    (hset : Settable (s.ctrls .exposure)) (hmin : (s.ctrls .exposure).minimum = 4)
    (hcur : 4 ≤ (s.ctrls .exposure).cur) (hheight : 4 ≤ modeHeight s) {v : Int} (hv : 4 ≤ v)
    (hmax : v ≤ 0xffff - modeHeight s) :
    VblankTried v s (v4l2SetCtrl (imx219SetCtrl .vblank) .vblank v s).2 := by
  by_cases hnew : v = (s.ctrls .vblank).cur
  · rw [v4l2SetCtrl_same hgrabbed hnew]
    have hother : (withCtrl s .vblank ((s.ctrls .vblank).withVal v)).ctrls .exposure =
        s.ctrls .exposure := withCtrl_of_ne s (by decide) _
    exact
      { timingFrame_ctrl s .vblank _ with
        hblank := withCtrl_of_ne s (by decide) _
        vblank := by
          rw [withCtrl_self]
          rfl
        settable := by rw [hother]; exact hset
        minimum := by rw [hother]; exact hmin
        exposure_cur := by rw [hother]; exact hcur
        unchanged := fun _ => ⟨by rw [withCtrl_self, hnew]; rfl, hother, rfl⟩
        maximum := fun h => absurd hnew h
        idle := fun _ h => absurd hnew h
        busy_fits := fun _ h => absurd hnew h
        busy_shrinks := fun _ h => absurd hnew h }
  · let asked := withCtrl s .vblank ((s.ctrls .vblank).withVal v)
    let e := updateExposure (modeHeight s + v - 4) asked
    have hasked : (asked.ctrls .vblank).val = v := by
      rw [show asked.ctrls .vblank = _ from withCtrl_self s .vblank _]
      rfl
    have hother : asked.ctrls .exposure = s.ctrls .exposure := withCtrl_of_ne s (by decide) _
    have hexposure : ExposureUpdated (modeHeight s + v - 4) asked e := by
      refine updateExposure_spec ?_ ?_ ?_ (by omega)
      · rw [hother]
        exact hset
      · rw [hother]
        exact hmin
      · rw [hother]
        exact hcur
    have hvblank : (e.ctrls .vblank).val = v := by
      rw [hexposure.others .vblank (by decide)]
      exact hasked
    have hheight' : modeHeight e = modeHeight s := hexposure.modeHeight
    have hsCtrl : imx219SetCtrl .vblank asked = applyCtrl .vblank e := by
      unfold imx219SetCtrl
      dsimp only
      rw [hasked]
      rfl
    obtain ⟨t, hctrl, hrun⟩ := ctrlAsked_vblank hvblank hv (by rw [hheight']; exact hmax)
    have hresult : (v4l2SetCtrl (imx219SetCtrl .vblank) .vblank v s).2 = t := by
      rcases happly : applyCtrl .vblank e with ⟨err | _, u⟩
      · rw [happly] at hrun
        rw [v4l2SetCtrl_error hgrabbed hnew (hsCtrl.trans happly)]
        rcases hrun with ⟨hok, -⟩ | ⟨-, rfl⟩
        · exact absurd hok nofun
        · rfl
      · rw [happly] at hrun
        rw [v4l2SetCtrl_ok hgrabbed hnew (hsCtrl.trans happly)]
        rcases hrun with ⟨-, rfl⟩ | ⟨⟨err, herr⟩, -⟩
        · rfl
        · exact absurd herr nofun
    rw [hresult]
    exact vblankTried_new hnew hexposure hcur (by omega) hctrl

/-- What `updateLimits` makes of the horizontal blanking. In use its value cannot
follow: the driver has no register for it. -/
structure HblankUpdated (hblank : Int) (s t : Imx219Device) : Prop extends TimingFrame s t where
  others : ∀ id, id ≠ .hblank → t.ctrls id = s.ctrls id
  client : t.client = s.client
  minimum : (t.ctrls .hblank).minimum = hblank
  maximum : (t.ctrls .hblank).maximum = hblank
  readOnly : (t.ctrls .hblank).readOnly = (s.ctrls .hblank).readOnly
  grabbed : (t.ctrls .hblank).grabbed = (s.ctrls .hblank).grabbed
  cur : (t.ctrls .hblank).cur =
    if Driver.inUse s = true then (s.ctrls .hblank).cur else hblank

theorem hblankUpdated_spec {s : Imx219Device} (hgrabbed : (s.ctrls .hblank).grabbed = false)
    (hblank : Int) :
    HblankUpdated hblank s
      (v4l2CtrlModifyRange (imx219SetCtrl .hblank) .hblank hblank hblank 1 hblank s) := by
  have hcheck : ¬((1 : Int) = 0 ∨ hblank < hblank ∨ hblank < hblank ∨ hblank < hblank) := by
    omega
  have hclamp : clampTo hblank hblank (s.ctrls .hblank).cur = hblank :=
    le_antisymm (clampTo_mem le_rfl _).2 (clampTo_mem le_rfl _).1
  let ranged := withCtrl s .hblank ((s.ctrls .hblank).withRange hblank hblank 1 hblank)
  have hranged : ranged.ctrls .hblank = (s.ctrls .hblank).withRange hblank hblank 1 hblank :=
    withCtrl_self ..
  have hflag : (ranged.ctrls .hblank).grabbed = false := by
    rw [hranged]
    exact hgrabbed
  unfold v4l2CtrlModifyRange
  rw [if_neg hcheck, hclamp]
  change HblankUpdated hblank s
    (v4l2SetCtrl (imx219SetCtrl .hblank) .hblank hblank ranged).2
  have hframe : TimingFrame s ranged := timingFrame_ctrl s .hblank _
  have hothers : ∀ id, id ≠ .hblank → ranged.ctrls id = s.ctrls id :=
    fun id hid => withCtrl_of_ne s hid _
  by_cases hnew : hblank = (ranged.ctrls .hblank).cur
  · rw [v4l2SetCtrl_same hflag hnew]
    rw [hranged] at hnew
    exact
      { hframe.trans (timingFrame_ctrl ranged .hblank _) with
        others := fun id hid => (withCtrl_of_ne ranged hid _).trans (hothers id hid)
        client := rfl
        minimum := by rw [withCtrl_self, hranged]; rfl
        maximum := by rw [withCtrl_self, hranged]; rfl
        readOnly := by rw [withCtrl_self, hranged]; rfl
        grabbed := by rw [withCtrl_self, hranged]; rfl
        cur := by
          rw [withCtrl_self, hranged]
          split
          · rfl
          · exact hnew.symm }
  · let asked := withCtrl ranged .hblank ((ranged.ctrls .hblank).withVal hblank)
    have hasked : asked.ctrls .hblank =
        ((s.ctrls .hblank).withRange hblank hblank 1 hblank).withVal hblank := by
      rw [show asked.ctrls .hblank = _ from withCtrl_self ranged .hblank _, hranged]
    have haskedFrame : TimingFrame s asked := hframe.trans (timingFrame_ctrl ranged .hblank _)
    have haskedOthers : ∀ id, id ≠ .hblank → asked.ctrls id = s.ctrls id :=
      fun id hid => (withCtrl_of_ne ranged hid _).trans (hothers id hid)
    rcases huse : Driver.inUse s with _ | _
    · have hrun : imx219SetCtrl .hblank asked = (.ok (), asked) := by
        change (if Driver.inUse s = true then _ else _) = _
        rw [huse]
        rfl
      rw [v4l2SetCtrl_ok hflag hnew hrun]
      exact
        { haskedFrame.trans (timingFrame_ctrl asked .hblank _) with
          others := fun id hid => (withCtrl_of_ne asked hid _).trans (haskedOthers id hid)
          client := rfl
          minimum := by rw [withCtrl_self, hasked]; rfl
          maximum := by rw [withCtrl_self, hasked]; rfl
          readOnly := by rw [withCtrl_self, hasked]; rfl
          grabbed := by rw [withCtrl_self, hasked]; rfl
          cur := by rw [withCtrl_self, huse]; rfl }
    · have hrun : imx219SetCtrl .hblank asked = (.error .einval, asked) := by
        change (if Driver.inUse s = true then _ else _) = _
        rw [huse]
        rfl
      rw [v4l2SetCtrl_error hflag hnew hrun]
      exact
        { haskedFrame with
          others := haskedOthers
          client := rfl
          minimum := by rw [hasked]; rfl
          maximum := by rw [hasked]; rfl
          readOnly := by rw [hasked]; rfl
          grabbed := by rw [hasked]; rfl
          cur := by rw [hasked, huse]; rfl }

/-- The modes leave room for the smallest blanking and for the largest frame length,
and their widths tell them apart. -/
theorem supportedModes_limits : ∀ mode ∈ supportedModes,
    4 ≤ mode.height.toNat ∧ mode.height.toNat + 4 ≤ mode.vtsDef.toNat ∧
      mode.vtsDef.toNat ≤ 0xffff ∧ 8 ≤ mode.vtsDef.toNat ∧
      ∀ other ∈ supportedModes, other.width.toNat = mode.width.toNat → other = mode := by
  decide

/-- A device whose limits can be updated, in whatever relation its controls are. -/
structure Tunable (s : Imx219Device) : Prop where
  mode_mem : s.mode ∈ supportedModes
  vblank : Settable (s.ctrls .vblank)
  exposure : Settable (s.ctrls .exposure)
  exposure_minimum : (s.ctrls .exposure).minimum = 4
  exposure_cur : 4 ≤ (s.ctrls .exposure).cur
  hblank_grabbed : (s.ctrls .hblank).grabbed = false

theorem TimingInvariant.tunable {s : Imx219Device} (h : TimingInvariant s) : Tunable s where
  mode_mem := h.mode_mem
  vblank := h.vblank
  exposure := h.exposure
  exposure_minimum := h.exposure_minimum
  exposure_cur := by
    rw [← h.exposure_minimum]
    exact h.toTimingOk.exposure_cur.1
  hblank_grabbed := h.hblank_grabbed

theorem VblankTried.tunable {v : Int} {s t : Imx219Device} (h : VblankTried v s t)
    (hs : Tunable s) : Tunable t where
  mode_mem := by
    rw [h.mode]
    exact hs.mode_mem
  vblank := by
    rw [h.vblank]
    exact ⟨hs.vblank.type, hs.vblank.step, hs.vblank.grabbed⟩
  exposure := h.settable
  exposure_minimum := h.minimum
  exposure_cur := h.exposure_cur
  hblank_grabbed := by
    rw [h.hblank]
    exact hs.hblank_grabbed

theorem Tunable.vblankTried {s : Imx219Device} (h : Tunable s) {v : Int} (hv : 4 ≤ v)
    (hmax : v ≤ 0xffff - modeHeight s) :
    VblankTried v s (v4l2SetCtrl (imx219SetCtrl .vblank) .vblank v s).2 := by
  refine vblankTried_spec h.vblank.grabbed h.exposure h.exposure_minimum h.exposure_cur ?_ hv hmax
  have hheight := (supportedModes_limits s.mode h.mode_mem).1
  unfold modeHeight
  omega

def rangedFor (mode : Imx219Mode) (s : Imx219Device) : Imx219Device :=
  withCtrl s .vblank ((s.ctrls .vblank).withRange imx219VblankMin
    (imx219VtsMax - mode.height.toNat) 1 (mode.vtsDef.toNat - mode.height.toNat))

theorem rangedFor_vblank (mode : Imx219Mode) (s : Imx219Device) :
    (rangedFor mode s).ctrls .vblank = (s.ctrls .vblank).withRange imx219VblankMin
      (imx219VtsMax - mode.height.toNat) 1 (mode.vtsDef.toNat - mode.height.toNat) :=
  withCtrl_self ..

theorem rangedFor_of_ne (mode : Imx219Mode) (s : Imx219Device) {id : Imx219Ctrl}
    (hid : id ≠ .vblank) : (rangedFor mode s).ctrls id = s.ctrls id :=
  withCtrl_of_ne s hid _

theorem rangedFor_vblankCur (mode : Imx219Mode) (s : Imx219Device) :
    ((rangedFor mode s).ctrls .vblank).cur = (s.ctrls .vblank).cur := by
  rw [rangedFor_vblank]
  rfl

theorem hblank_before {mode : Imx219Mode} {s first second third : Imx219Device} {v v' limit : Int}
    (hfirst : VblankTried v (rangedFor mode s) first) (hsecond : VblankTried v' first second)
    (hthird : ExposureUpdated limit second third) :
    third.ctrls .hblank = s.ctrls .hblank ∧ inUse third = inUse s := by
  constructor
  · rw [hthird.others .hblank (by decide), hsecond.hblank, hfirst.hblank]
    exact rangedFor_of_ne mode s (by decide)
  · rw [hthird.inUse, hsecond.inUse, hfirst.inUse]
    rfl

theorem tunable_rangedFor {s : Imx219Device} (h : Tunable s) : Tunable (rangedFor s.mode s) := by
  have hexposure := rangedFor_of_ne s.mode s (show Imx219Ctrl.exposure ≠ .vblank by decide)
  have hhblank := rangedFor_of_ne s.mode s (show Imx219Ctrl.hblank ≠ .vblank by decide)
  exact
    { mode_mem := h.mode_mem
      vblank := by
        rw [rangedFor_vblank]
        exact ⟨h.vblank.type, rfl, h.vblank.grabbed⟩
      exposure := by
        rw [hexposure]
        exact h.exposure
      exposure_minimum := by
        rw [hexposure]
        exact h.exposure_minimum
      exposure_cur := by
        rw [hexposure]
        exact h.exposure_cur
      hblank_grabbed := by
        rw [hhblank]
        exact h.hblank_grabbed }

/-- The limits are updated in four steps: the vertical blanking is brought into its new
limits and then to its default, the exposure and the horizontal blanking follow. -/
theorem updateLimits_spec {s : Imx219Device} (h : Tunable s) :
    ∃ first second third,
      VblankTried (clampTo 4 (0xffff - modeHeight s) (s.ctrls .vblank).cur) (rangedFor s.mode s)
        first ∧
      VblankTried (s.mode.vtsDef.toNat - modeHeight s) first second ∧
      ExposureUpdated (s.mode.vtsDef.toNat - 4) second third ∧
      HblankUpdated (3448 - s.mode.width.toNat) third (updateLimits s.mode s) := by
  obtain ⟨hheight, hroom, hvts, hvtsMin, -⟩ := supportedModes_limits s.mode h.mode_mem
  have hranged := rangedFor_vblank s.mode s
  have htunable := tunable_rangedFor h
  have hcheck : ¬((1 : Int) = 0 ∨ imx219VtsMax - (s.mode.height.toNat : Int) < imx219VblankMin ∨
      (s.mode.vtsDef.toNat : Int) - s.mode.height.toNat < imx219VblankMin ∨
      imx219VtsMax - (s.mode.height.toNat : Int) <
        (s.mode.vtsDef.toNat : Int) - s.mode.height.toNat) := by
    unfold imx219VtsMax imx219VblankMin
    omega
  have hlimits : 4 ≤ 0xffff - modeHeight s := by
    unfold modeHeight
    omega
  have hclamp := clampTo_mem hlimits (s.ctrls .vblank).cur
  have hfirst := htunable.vblankTried hclamp.1 hclamp.2
  let first := (v4l2SetCtrl (imx219SetCtrl .vblank) .vblank
    (clampTo 4 (0xffff - modeHeight s) (s.ctrls .vblank).cur) (rangedFor s.mode s)).2
  have hfirstMin : (first.ctrls .vblank).minimum = 4 := by
    rw [hfirst.vblank, hranged]
    rfl
  have hfirstMax : (first.ctrls .vblank).maximum = 0xffff - modeHeight s := by
    rw [hfirst.vblank, hranged]
    rfl
  have hfirstHeight : modeHeight first = modeHeight s := hfirst.modeHeight
  have hdefault : clampTo (first.ctrls .vblank).minimum (first.ctrls .vblank).maximum
      (s.mode.vtsDef.toNat - modeHeight s) = s.mode.vtsDef.toNat - modeHeight s := by
    rw [hfirstMin, hfirstMax]
    apply clampTo_of_mem
    · unfold modeHeight
      omega
    · unfold modeHeight
      omega
  have hdefaultMin : 4 ≤ (s.mode.vtsDef.toNat : Int) - modeHeight s := by
    unfold modeHeight
    omega
  have hdefaultMax : (s.mode.vtsDef.toNat : Int) - modeHeight s ≤ 0xffff - modeHeight first := by
    rw [hfirstHeight]
    omega
  have hsecond := (hfirst.tunable htunable).vblankTried hdefaultMin hdefaultMax
  let second := (v4l2SetCtrl (imx219SetCtrl .vblank) .vblank
    (s.mode.vtsDef.toNat - modeHeight s) first).2
  have hsecondTunable : Tunable second := hsecond.tunable (hfirst.tunable htunable)
  have hlimit : 4 ≤ (s.mode.vtsDef.toNat : Int) - 4 := by omega
  have hthird := updateExposure_spec hsecondTunable.exposure hsecondTunable.exposure_minimum
    hsecondTunable.exposure_cur hlimit
  refine ⟨first, second, updateExposure (s.mode.vtsDef.toNat - 4) second, hfirst, hsecond,
    hthird, ?_⟩
  have hgrabbed : ((updateExposure (s.mode.vtsDef.toNat - 4) second).ctrls .hblank).grabbed =
      false := by
    rw [hthird.others .hblank (by decide)]
    exact hsecondTunable.hblank_grabbed
  have hresult := hblankUpdated_spec hgrabbed (3448 - s.mode.width.toNat)
  have hupdate : updateLimits s.mode s = v4l2CtrlModifyRange (imx219SetCtrl .hblank) .hblank
      (3448 - s.mode.width.toNat) (3448 - s.mode.width.toNat) 1 (3448 - s.mode.width.toNat)
      (updateExposure (s.mode.vtsDef.toNat - 4) second) := by
    have hstep : v4l2CtrlModifyRange (imx219SetCtrl .vblank) .vblank imx219VblankMin
        (imx219VtsMax - s.mode.height.toNat) 1 (s.mode.vtsDef.toNat - s.mode.height.toNat) s =
        first := by
      unfold v4l2CtrlModifyRange
      rw [if_neg hcheck]
      rfl
    unfold updateLimits
    dsimp only
    rw [hstep]
    change v4l2CtrlModifyRange _ _ _ _ _ _ (updateExposure _ (v4l2SetCtrl _ _
      (clampTo (first.ctrls .vblank).minimum (first.ctrls .vblank).maximum
        (s.mode.vtsDef.toNat - modeHeight s)) first).2) = _
    rw [hdefault]
    rfl
  rw [hupdate]
  exact hresult

structure LimitsUpdated (s t : Imx219Device) : Prop extends TimingFrame s t where
  vblank : Settable (t.ctrls .vblank)
  vblank_minimum : (t.ctrls .vblank).minimum = 4
  vblank_maximum : (t.ctrls .vblank).maximum = 0xffff - TimingControls.modeHeight s
  vblank_readOnly : (t.ctrls .vblank).readOnly = (s.ctrls .vblank).readOnly
  exposure : Settable (t.ctrls .exposure)
  exposure_minimum : (t.ctrls .exposure).minimum = 4
  exposure_maximum : (t.ctrls .exposure).maximum = s.mode.vtsDef.toNat - 4
  exposure_cur : 4 ≤ (t.ctrls .exposure).cur
  hblank_minimum : (t.ctrls .hblank).minimum = 3448 - s.mode.width.toNat
  hblank_maximum : (t.ctrls .hblank).maximum = 3448 - s.mode.width.toNat
  hblank_readOnly : (t.ctrls .hblank).readOnly = (s.ctrls .hblank).readOnly
  hblank_grabbed : (t.ctrls .hblank).grabbed = false

structure LimitsReached (t : Imx219Device) : Prop where
  vblank : (t.ctrls .vblank).cur = t.mode.vtsDef.toNat - modeHeight t
  exposure : (t.ctrls .exposure).cur ≤ t.mode.vtsDef.toNat - 4
  hblank : (t.ctrls .hblank).cur = 3448 - t.mode.width.toNat

theorem ExposureUpdated.exposure_cur {exposureMax : Int} {s t : Imx219Device}
    (h : ExposureUpdated exposureMax s t) (hcur : 4 ≤ (s.ctrls .exposure).cur)
    (hmax : 4 ≤ exposureMax) : 4 ≤ (t.ctrls .exposure).cur := by
  rcases h.outcome with ⟨-, hval, -⟩ | ⟨-, ⟨-, hval, -⟩ | ⟨-, -, hval⟩⟩
  · omega
  · omega
  · rw [hval]
    split <;> omega

theorem updateLimits_updated {s : Imx219Device} (h : Tunable s) :
    LimitsUpdated s (updateLimits s.mode s) := by
  obtain ⟨-, -, -, hvtsMin, -⟩ := supportedModes_limits s.mode h.mode_mem
  obtain ⟨first, second, third, hfirst, hsecond, hthird, hlast⟩ := updateLimits_spec h
  have hframe : TimingFrame s (updateLimits s.mode s) :=
    (timingFrame_ctrl s .vblank _).trans (hfirst.toTimingFrame.trans
      (hsecond.toTimingFrame.trans (hthird.toTimingFrame.trans hlast.toTimingFrame)))
  have hvblank : (updateLimits s.mode s).ctrls .vblank = second.ctrls .vblank :=
    (hlast.others .vblank (by decide)).trans (hthird.others .vblank (by decide))
  have hexposure : (updateLimits s.mode s).ctrls .exposure = third.ctrls .exposure :=
    hlast.others .exposure (by decide)
  have hhblank := (hblank_before hfirst hsecond hthird).1
  have hranged := rangedFor_vblank s.mode s
  refine
    { hframe with
      vblank := ?_
      vblank_minimum := ?_
      vblank_maximum := ?_
      vblank_readOnly := ?_
      exposure := by rw [hexposure]; exact hthird.settable
      exposure_minimum := by rw [hexposure]; exact hthird.minimum
      exposure_maximum := by rw [hexposure]; exact hthird.maximum
      exposure_cur := ?_
      hblank_minimum := hlast.minimum
      hblank_maximum := hlast.maximum
      hblank_readOnly := ?_
      hblank_grabbed := ?_ }
  · rw [hvblank, hsecond.vblank, hfirst.vblank, hranged]
    exact ⟨h.vblank.type, rfl, h.vblank.grabbed⟩
  · rw [hvblank, hsecond.vblank, hfirst.vblank, hranged]
    rfl
  · rw [hvblank, hsecond.vblank, hfirst.vblank, hranged]
    rfl
  · rw [hvblank, hsecond.vblank, hfirst.vblank, hranged]
    rfl
  · rw [hexposure]
    exact hthird.exposure_cur hsecond.exposure_cur (by omega)
  · rw [hlast.readOnly, hhblank]
  · rw [hlast.grabbed, hhblank]
    exact h.hblank_grabbed

theorem LimitsUpdated.timingOk_iff {s t : Imx219Device} (h : LimitsUpdated s t)
    (hmode : s.mode ∈ supportedModes)
    (hframeLength : ∀ w ∈ s.client.chip.requests, w.reg = imx219RegVts → w.val.toNat ≤ 0xffff) :
    TimingOk t ↔ LimitsReached t := by
  obtain ⟨-, hroom, hvts, -, -⟩ := supportedModes_limits s.mode hmode
  have hheight : modeHeight t = s.mode.height.toNat := h.modeHeight
  have hmaximum := h.exposure_maximum
  have hminimum := h.exposure_minimum
  constructor
  · intro hok
    have hmax := hok.exposure_max
    refine ⟨?_, ?_, hok.hblank_cur⟩
    · rw [h.mode]
      omega
    · have hcur := hok.exposure_cur.2
      rw [h.mode]
      omega
  · rintro ⟨hvblank, hexposure, hhblank⟩
    rw [h.mode] at hvblank hexposure hhblank
    refine
      { vblank_min := by omega
        vblank_max := by omega
        exposure_max := by omega
        exposure_cur := ?_
        hblank_cur := by rw [h.mode]; exact hhblank
        hblank_min := by rw [h.mode]; exact h.hblank_minimum
        hblank_max := by rw [h.mode]; exact h.hblank_maximum
        frameLength := ?_ }
    · have hcur := h.exposure_cur
      omega
    · intro w hw hreg
      rcases h.frameLength w hw hreg with hmem | hrange
      · exact hframeLength w hmem hreg
      · exact hrange

theorem LimitsUpdated.timingInvariant {s t : Imx219Device} (h : LimitsUpdated s t)
    (hmode : s.mode ∈ supportedModes) (hvblank : (s.ctrls .vblank).readOnly = false)
    (hhblank : (s.ctrls .hblank).readOnly = true) (hok : TimingOk t) : TimingInvariant t :=
  { hok with
    mode_mem := by rw [h.mode]; exact hmode
    vblank := h.vblank
    exposure := h.exposure
    vblank_minimum := h.vblank_minimum
    vblank_maximum := by rw [h.modeHeight]; exact h.vblank_maximum
    vblank_readOnly := h.vblank_readOnly.trans hvblank
    exposure_minimum := h.exposure_minimum
    hblank_readOnly := h.hblank_readOnly.trans hhblank
    hblank_grabbed := h.hblank_grabbed }

theorem limitsReached_idle {s : Imx219Device} (h : Tunable s) (hidle : inUse s = false) :
    LimitsReached (updateLimits s.mode s) := by
  obtain ⟨-, -, -, hvtsMin, -⟩ := supportedModes_limits s.mode h.mode_mem
  obtain ⟨first, second, third, hfirst, hsecond, hthird, hlast⟩ := updateLimits_spec h
  have hupdated := updateLimits_updated h
  have hfirstIdle : inUse first = false := hfirst.inUse.trans hidle
  have hsecondIdle : inUse second = false := hsecond.inUse.trans hfirstIdle
  have hthirdIdle : inUse third = false := hthird.inUse.trans hsecondIdle
  refine ⟨?_, ?_, ?_⟩
  · rw [hupdated.mode, hupdated.modeHeight, hlast.others .vblank (by decide),
      hthird.others .vblank (by decide)]
    by_cases hnew : s.mode.vtsDef.toNat - modeHeight s = (first.ctrls .vblank).cur
    · exact (hsecond.unchanged hnew).1
    · exact (hsecond.idle hfirstIdle hnew).1
  · rw [hupdated.mode, hlast.others .exposure (by decide)]
    rcases hthird.outcome with ⟨hfits, hval, -⟩ | ⟨-, ⟨-, hval, -⟩ | ⟨hbusy, -⟩⟩
    · omega
    · omega
    · exact absurd (hsecondIdle.symm.trans hbusy) (by decide)
  · rw [hupdated.mode, hlast.cur, hthirdIdle]
    rfl

/-- In use, the default blanking of the current mode needs the writes of the frame
length and, when the exposure no longer fits, of the exposure. The exposure is tried
once more at the end. -/
def DefaultFits (s : Imx219Device) : Prop :=
  s.mode.vtsDef.toNat - modeHeight s ≠ (s.ctrls .vblank).cur →
    if (s.mode.vtsDef.toNat : Int) - 4 < (s.ctrls .exposure).cur then
      (WriteOk 0 s ∨ WriteOk 2 s) ∧ WriteOk 1 s
    else WriteOk 0 s

theorem writeOk_after {s t : Imx219Device} {n : Nat}
    (hfaults : t.client.faults = s.client.faults.drop n) : WriteOk 0 t ↔ WriteOk n s := by
  unfold WriteOk
  rw [hfaults, List.getD_eq_getElem?_getD, List.getD_eq_getElem?_getD, List.getElem?_drop,
    Nat.add_zero]

theorem ExposureUpdated.fits_iff {exposureMax : Int} {s t : Imx219Device}
    (h : ExposureUpdated exposureMax s t) (huse : Driver.inUse s = true) :
    (t.ctrls .exposure).cur ≤ exposureMax ↔
      ((s.ctrls .exposure).cur ≤ exposureMax ∨ WriteOk 0 s) := by
  rcases h.outcome with ⟨hfits, hval, -⟩ | ⟨hlt, ⟨hfree, -⟩ | ⟨-, -, hval⟩⟩
  · rw [hval]
    exact ⟨.inl, fun _ => hfits⟩
  · exact absurd (hfree.symm.trans huse) (by decide)
  · rw [hval]
    by_cases hok : WriteOk 0 s
    · rw [if_pos hok]
      exact ⟨fun _ => .inr hok, fun _ => le_refl _⟩
    · rw [if_neg hok]
      exact ⟨.inl, fun hor => hor.resolve_right hok⟩

theorem reached_iff {v : Int} {s t u : Imx219Device} (huse : inUse s = true)
    (hexposure : (s.ctrls .exposure).cur ≤ modeHeight s + (s.ctrls .vblank).cur - 4)
    (hvblank : VblankTried v s t) (hlast : ExposureUpdated (modeHeight s + v - 4) t u) :
    ((t.ctrls .vblank).cur = v ∧ (u.ctrls .exposure).cur ≤ modeHeight s + v - 4) ↔
      (v ≠ (s.ctrls .vblank).cur →
        if modeHeight s + v - 4 < (s.ctrls .exposure).cur then
          (WriteOk 0 s ∨ WriteOk 2 s) ∧ WriteOk 1 s
        else WriteOk 0 s) := by
  have hcur : ∀ n, (t.ctrls .vblank).cur = (if WriteOk n s then v else (s.ctrls .vblank).cur) →
      v ≠ (s.ctrls .vblank).cur → ((t.ctrls .vblank).cur = v ↔ WriteOk n s) := by
    intro n h hne
    rw [h]
    by_cases hok : WriteOk n s
    · simp [hok]
    · simp [hok, hne.symm]
  rw [hlast.fits_iff (hvblank.inUse.trans huse)]
  by_cases hnew : v = (s.ctrls .vblank).cur
  · obtain ⟨hsame, hexp, -⟩ := hvblank.unchanged hnew
    refine ⟨fun _ hne => absurd hnew hne, fun _ => ⟨hsame, .inl ?_⟩⟩
    rw [hexp, hnew]
    exact hexposure
  · by_cases hlt : modeHeight s + v - 4 < (s.ctrls .exposure).cur
    · obtain ⟨hfaults, hexp, hv⟩ := hvblank.busy_shrinks huse hnew hlt
      have hfits : (t.ctrls .exposure).cur ≤ modeHeight s + v - 4 ↔ WriteOk 0 s := by
        rw [hexp]
        by_cases hok : WriteOk 0 s
        · simp [hok]
        · simp [hok, hlt]
      rw [if_pos hlt, hcur 1 hv hnew, hfits, writeOk_after hfaults]
      exact ⟨fun h _ => ⟨h.2, h.1⟩, fun h => ⟨(h hnew).2, (h hnew).1⟩⟩
    · obtain ⟨-, hexp, hv⟩ := hvblank.busy_fits huse hnew (by omega)
      rw [if_neg hlt, hcur 0 hv hnew, hexp]
      exact ⟨fun h _ => h.1, fun h => ⟨h hnew, .inl (by omega)⟩⟩

theorem LimitsUpdated.reached_iff {s t : Imx219Device} (h : LimitsUpdated s t) :
    LimitsReached t ↔ (t.ctrls .vblank).cur = s.mode.vtsDef.toNat - TimingControls.modeHeight s ∧
      (t.ctrls .exposure).cur ≤ s.mode.vtsDef.toNat - 4 ∧
        (t.ctrls .hblank).cur = 3448 - s.mode.width.toNat := by
  rw [← h.modeHeight, ← h.mode]
  exact ⟨fun hall => ⟨hall.vblank, hall.exposure, hall.hblank⟩,
    fun hall => ⟨hall.1, hall.2.1, hall.2.2⟩⟩

/-- In use and in the same mode: the first step has nothing to change. -/
theorem limitsReached_iff {s : Imx219Device} (h : TimingInvariant s) (huse : inUse s = true) :
    LimitsReached (updateLimits s.mode s) ↔ DefaultFits s := by
  obtain ⟨first, second, third, hfirst, hsecond, hthird, hlast⟩ := updateLimits_spec h.tunable
  have hupdated := updateLimits_updated h.tunable
  have hrangedCur := rangedFor_vblankCur s.mode s
  have hclamp : clampTo 4 (0xffff - modeHeight s) (s.ctrls .vblank).cur =
      ((rangedFor s.mode s).ctrls .vblank).cur := by
    rw [hrangedCur]
    exact clampTo_of_mem h.vblank_min h.vblank_max
  obtain ⟨hfirstCur, hfirstExposure, hfirstFaults⟩ := hfirst.unchanged hclamp
  rw [hclamp, hrangedCur] at hfirstCur
  rw [rangedFor_of_ne s.mode s (by decide)] at hfirstExposure
  have hfirstOk : ∀ n, WriteOk n first ↔ WriteOk n s := by
    intro n
    unfold WriteOk
    rw [hfirstFaults]
    rfl
  have hheight : modeHeight first = modeHeight s := hfirst.modeHeight
  have hlimit : modeHeight first + (s.mode.vtsDef.toNat - modeHeight s) - 4 =
      (s.mode.vtsDef.toNat : Int) - 4 := by
    omega
  have hhblank : ((updateLimits s.mode s).ctrls .hblank).cur = 3448 - s.mode.width.toNat := by
    rw [hlast.cur, (hblank_before hfirst hsecond hthird).1, h.hblank_cur]
    split <;> rfl
  rw [← hlimit] at hthird
  have hexposure : (first.ctrls .exposure).cur ≤
      modeHeight first + (first.ctrls .vblank).cur - 4 := by
    have hcur := h.toTimingOk.exposure_cur.2
    have hmax := h.exposure_max
    rw [hfirstExposure]
    omega
  have hiff := reached_iff (hfirst.inUse.trans huse) hexposure hsecond hthird
  rw [hlimit, hfirstCur, hfirstExposure] at hiff
  rw [← hthird.others .vblank (by decide), ← hlast.others .vblank (by decide),
    ← hlast.others .exposure (by decide)] at hiff
  rw [hupdated.reached_iff, ← and_assoc, and_iff_left hhblank, hiff]
  unfold DefaultFits
  simp only [hfirstOk]

end CameraPorting.SensorImx219.TimingControls
