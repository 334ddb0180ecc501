import CameraPorting.SensorImx219.TimingControls

namespace CameraPorting.SensorImx219.TimingRuns

open CameraPorting.Kernel.Media
open CameraPorting.Kernel.I2c
open CameraPorting.Library.Runs
open CameraPorting.SensorImx219.Sensor hiding imx219GetFormatCode imx219GetPadFormat
  imx219SetPadFormat updateExposure updateLimits
open CameraPorting.SensorImx219.RegisterLists
open CameraPorting.SensorImx219.Driver
open CameraPorting.SensorImx219.StreamState
open CameraPorting.SensorImx219.TimingControls

/-- The frame lengths a client was asked for are in range. -/
def FrameLengthsOk (client : Imx219Client) : Prop :=
  ∀ w ∈ client.chip.requests, w.reg = imx219RegVts → w.val.toNat ≤ 0xffff

theorem preserves_writeReg {reg : U16} {val : U32}
    (h : reg = imx219RegVts → val.toNat ≤ 0xffff) (len : Nat) :
    Preserves FrameLengthsOk (imx219WriteReg reg len val) := by
  intro client hclient
  by_cases hlen : len ≤ 4
  · obtain ⟨after, -, hrequests, hrun⟩ := writeReg_outcome reg hlen val client
    have hafter : FrameLengthsOk after := by
      intro w hw hreg
      rw [hrequests] at hw
      rcases List.mem_cons.mp hw with rfl | hmem
      · exact h hreg
      · exact hclient w hmem hreg
    rcases hrun with ⟨-, hrun⟩ | ⟨-, hrun⟩
    · rw [hrun]
      exact hafter
    · rw [hrun]
      exact hafter
  · rw [writeReg_tooLong (Nat.not_le.mp hlen)]
    exact hclient

/-- A device whose timing controls differ at most in the value they were last asked
for. -/
structure SameTiming (s t : Imx219Device) : Prop where
  mode : t.mode = s.mode
  ctrls : ∀ id ∈ [Imx219Ctrl.vblank, .exposure, .hblank],
    t.ctrls id = (s.ctrls id).withVal (t.ctrls id).val

theorem SameTiming.refl (s : Imx219Device) : SameTiming s s := ⟨rfl, fun _ _ => rfl⟩

theorem timingInvariant_of_same {s t : Imx219Device} (h : TimingInvariant s)
    (hsame : SameTiming s t) (hclient : FrameLengthsOk t.client) : TimingInvariant t := by
  have hvblank := hsame.ctrls .vblank (by decide)
  have hexposure := hsame.ctrls .exposure (by decide)
  have hhblank := hsame.ctrls .hblank (by decide)
  have hheight : modeHeight t = modeHeight s := by
    unfold modeHeight
    rw [hsame.mode]
  exact
    { vblank_min := by rw [hvblank]; exact h.vblank_min
      vblank_max := by rw [hvblank, hheight]; exact h.vblank_max
      exposure_max := by rw [hvblank, hexposure, hheight]; exact h.exposure_max
      exposure_cur := by rw [hexposure]; exact h.toTimingOk.exposure_cur
      hblank_cur := by rw [hhblank, hsame.mode]; exact h.hblank_cur
      hblank_min := by rw [hhblank, hsame.mode]; exact h.hblank_min
      hblank_max := by rw [hhblank, hsame.mode]; exact h.hblank_max
      frameLength := hclient
      mode_mem := by rw [hsame.mode]; exact h.mode_mem
      vblank := by rw [hvblank]; exact ⟨h.vblank.type, h.vblank.step, h.vblank.grabbed⟩
      exposure := by
        rw [hexposure]
        exact ⟨h.exposure.type, h.exposure.step, h.exposure.grabbed⟩
      vblank_minimum := by rw [hvblank]; exact h.vblank_minimum
      vblank_maximum := by rw [hvblank, hheight]; exact h.vblank_maximum
      vblank_readOnly := by rw [hvblank]; exact h.vblank_readOnly
      exposure_minimum := by rw [hexposure]; exact h.exposure_minimum
      hblank_readOnly := by rw [hhblank]; exact h.hblank_readOnly
      hblank_grabbed := by rw [hhblank]; exact h.hblank_grabbed }

theorem timingInvariant_withClient {s : Imx219Device} (h : TimingInvariant s)
    {client : Imx219Client} (hclient : FrameLengthsOk client) :
    TimingInvariant (withClient s client) :=
  timingInvariant_of_same h ⟨rfl, fun _ _ => rfl⟩ hclient

theorem preserves_onClient {x : Driver Imx219Client Unit} (hx : Preserves FrameLengthsOk x) :
    Preserves TimingInvariant (onClient x) :=
  fun s hs => timingInvariant_withClient hs (hx s.client hs.frameLength)

theorem timingInvariant_withVal {s : Imx219Device} (h : TimingInvariant s) (id : Imx219Ctrl)
    (val : Int) : TimingInvariant (withCtrl s id ((s.ctrls id).withVal val)) := by
  refine timingInvariant_of_same h ⟨rfl, fun other _ => ?_⟩ h.frameLength
  rcases eq_or_ne other id with rfl | hother
  · rw [withCtrl_self]
    rfl
  · rw [withCtrl_of_ne s hother]
    rfl

theorem timingInvariant_other {s : Imx219Device} (h : TimingInvariant s) {id : Imx219Ctrl}
    (hid : id ∉ [Imx219Ctrl.vblank, .exposure, .hblank]) (ctrl : V4l2Ctrl) :
    TimingInvariant (withCtrl s id ctrl) := by
  refine timingInvariant_of_same h ⟨rfl, fun other hother => ?_⟩ h.frameLength
  have hne : other ≠ id := by
    rintro rfl
    exact hid hother
  rw [withCtrl_of_ne s hne]
  rfl

theorem preserves_writeCtrl {id : Imx219Ctrl} (hid : id ≠ .vblank) (s : Imx219Device) :
    Preserves FrameLengthsOk (writeCtrl id s) := by
  unfold writeCtrl
  cases id with
  | vblank => exact absurd rfl hid
  | pixelRate | hblank => exact preserves_throw _
  | _ => exact preserves_writeReg (fun h => absurd h (by decide)) _

theorem preserves_applyCtrl {id : Imx219Ctrl} (hid : id ≠ .vblank) :
    Preserves TimingInvariant (applyCtrl id) := by
  intro s hs
  unfold applyCtrl
  split
  · exact preserves_onClient (preserves_writeCtrl hid s) s hs
  · exact hs

theorem imx219SetCtrl_of_ne {id : Imx219Ctrl} (hid : id ≠ .vblank) :
    imx219SetCtrl id = applyCtrl id := by
  funext s
  cases id with
  | vblank => exact absurd rfl hid
  | _ => rfl

theorem timingInvariant_withExposure {s t : Imx219Device} (h : TimingInvariant s)
    (hframe : TimingFrame s t)
    (hothers : ∀ other, other ≠ .exposure → t.ctrls other = s.ctrls other)
    (hsettable : Settable (t.ctrls .exposure)) (hminimum : (t.ctrls .exposure).minimum = 4)
    (hmaximum : (t.ctrls .exposure).maximum = (s.ctrls .exposure).maximum)
    (hmin : (t.ctrls .exposure).minimum ≤ (t.ctrls .exposure).cur)
    (hmax : (t.ctrls .exposure).cur ≤ (t.ctrls .exposure).maximum) : TimingInvariant t := by
  have hvblank := hothers .vblank (by decide)
  have hhblank := hothers .hblank (by decide)
  exact
    { vblank_min := by rw [hvblank]; exact h.vblank_min
      vblank_max := by rw [hvblank, hframe.modeHeight]; exact h.vblank_max
      exposure_max := by rw [hmaximum, hvblank, hframe.modeHeight]; exact h.exposure_max
      exposure_cur := ⟨hmin, hmax⟩
      hblank_cur := by rw [hhblank, hframe.mode]; exact h.hblank_cur
      hblank_min := by rw [hhblank, hframe.mode]; exact h.hblank_min
      hblank_max := by rw [hhblank, hframe.mode]; exact h.hblank_max
      frameLength := fun w hw hreg =>
        (hframe.frameLength w hw hreg).elim (fun hmem => h.frameLength w hmem hreg) id
      mode_mem := by rw [hframe.mode]; exact h.mode_mem
      vblank := by rw [hvblank]; exact h.vblank
      exposure := hsettable
      vblank_minimum := by rw [hvblank]; exact h.vblank_minimum
      vblank_maximum := by rw [hvblank, hframe.modeHeight]; exact h.vblank_maximum
      vblank_readOnly := by rw [hvblank]; exact h.vblank_readOnly
      exposure_minimum := hminimum
      hblank_readOnly := by rw [hhblank]; exact h.hblank_readOnly
      hblank_grabbed := by rw [hhblank]; exact h.hblank_grabbed }

theorem timingInvariant_exposure {s : Imx219Device} (h : TimingInvariant s) {val : Int}
    (hval : (s.ctrls .exposure).minimum ≤ val ∧ val ≤ (s.ctrls .exposure).maximum) :
    TimingInvariant (v4l2SetCtrl (applyCtrl .exposure) .exposure val s).2 := by
  rcases eq_or_ne val (s.ctrls .exposure).cur with hsame | hnew
  · rw [v4l2SetCtrl_same h.exposure.grabbed hsame]
    exact timingInvariant_withVal h .exposure val
  · have hasked : CtrlAsked .exposure val s
        (v4l2SetCtrl (applyCtrl .exposure) .exposure val s).2 :=
      ctrlAsked_register (by decide) (by decide) (fun _ => rfl) h.exposure.grabbed hnew
    generalize (v4l2SetCtrl (applyCtrl .exposure) .exposure val s).2 = t at hasked
    have hctrl := hasked.ctrl
    have hcur : (s.ctrls .exposure).minimum ≤ (t.ctrls .exposure).cur ∧
        (t.ctrls .exposure).cur ≤ (s.ctrls .exposure).maximum := by
      have hold := h.toTimingOk.exposure_cur
      rcases hasked.outcome with ⟨-, hset, -⟩ | ⟨-, -, hset⟩
      · rw [hset]
        exact hval
      · rw [hset]
        split
        · exact hval
        · exact hold
    apply timingInvariant_withExposure h hasked.toTimingFrame hasked.others
    · rw [hctrl]
      exact ⟨h.exposure.type, h.exposure.step, h.exposure.grabbed⟩
    · rw [hctrl]
      exact h.exposure_minimum
    · rw [hctrl]
      rfl
    · rw [hctrl]
      exact hcur.1
    · rw [hctrl]
      exact hcur.2

/-- In use, a new blanking needs the write of the frame length, and of the exposure
before it when the exposure no longer fits. -/
def VblankFits (s : Imx219Device) (val : Int) : Prop :=
  val ≠ (s.ctrls .vblank).cur →
    if modeHeight s + val - 4 < (s.ctrls .exposure).cur then WriteOk 0 s ∧ WriteOk 1 s
    else WriteOk 0 s

/-- A blanking in its limits keeps the relation exactly when it becomes current and the
exposure fits it. -/
theorem vblankTried_timingOk_iff {s t : Imx219Device} (h : TimingInvariant s) {val : Int}
    (hval : 4 ≤ val) (hmax : val ≤ 0xffff - modeHeight s) (htried : VblankTried val s t) :
    TimingOk t ↔ (t.ctrls .vblank).cur = val ∧
      (t.ctrls .exposure).cur ≤ modeHeight s + val - 4 := by
  have hheight := htried.modeHeight
  have hminimum := htried.minimum
  have hcur := htried.exposure_cur
  have hmaximum : (t.ctrls .exposure).maximum = modeHeight s + val - 4 := by
    by_cases hnew : val = (s.ctrls .vblank).cur
    · rw [(htried.unchanged hnew).2.1, hnew]
      exact h.exposure_max
    · exact htried.maximum hnew
  constructor
  · intro hok
    have hrelated := hok.exposure_max
    have hfits := hok.exposure_cur.2
    omega
  · rintro ⟨hvblank, hexposure⟩
    exact
      { vblank_min := by omega
        vblank_max := by omega
        exposure_max := by omega
        exposure_cur := by omega
        hblank_cur := by rw [htried.hblank, htried.mode]; exact h.hblank_cur
        hblank_min := by rw [htried.hblank, htried.mode]; exact h.hblank_min
        hblank_max := by rw [htried.hblank, htried.mode]; exact h.hblank_max
        frameLength := fun w hw hreg =>
          (htried.frameLength w hw hreg).elim (fun hmem => h.frameLength w hmem hreg) id }

theorem vblankTried_timingInvariant {s t : Imx219Device} (h : TimingInvariant s) {val : Int}
    (htried : VblankTried val s t) (hok : TimingOk t) : TimingInvariant t :=
  { hok with
    mode_mem := by rw [htried.mode]; exact h.mode_mem
    vblank := by
      rw [htried.vblank]
      exact ⟨h.vblank.type, h.vblank.step, h.vblank.grabbed⟩
    exposure := htried.settable
    vblank_minimum := by rw [htried.vblank]; exact h.vblank_minimum
    vblank_maximum := by rw [htried.vblank, htried.modeHeight]; exact h.vblank_maximum
    vblank_readOnly := by rw [htried.vblank]; exact h.vblank_readOnly
    exposure_minimum := htried.minimum
    hblank_readOnly := by rw [htried.hblank]; exact h.hblank_readOnly
    hblank_grabbed := by rw [htried.hblank]; exact h.hblank_grabbed }

theorem vblankTried_reached_iff {s t : Imx219Device} (h : TimingInvariant s) {val : Int}
    (htried : VblankTried val s t) :
    ((t.ctrls .vblank).cur = val ∧ (t.ctrls .exposure).cur ≤ modeHeight s + val - 4) ↔
      (inUse s = true → VblankFits s val) := by
  have hrelated := h.exposure_max
  have hfit := h.toTimingOk.exposure_cur.2
  by_cases hnew : val = (s.ctrls .vblank).cur
  · obtain ⟨hcur, hexposure, -⟩ := htried.unchanged hnew
    refine ⟨fun _ _ hne => absurd hnew hne, fun _ => ⟨hcur, ?_⟩⟩
    rw [hexposure]
    omega
  · rcases huse : inUse s with _ | _
    · exact ⟨fun _ hbusy => absurd hbusy Bool.false_ne_true, fun _ => htried.idle huse hnew⟩
    · unfold VblankFits
      by_cases hlt : modeHeight s + val - 4 < (s.ctrls .exposure).cur
      · obtain ⟨-, hexposure, hcur⟩ := htried.busy_shrinks huse hnew hlt
        rw [if_pos hlt, hexposure, hcur]
        constructor
        · rintro ⟨hv, he⟩ - -
          constructor
          · by_contra hfault
            rw [if_neg hfault] at he
            omega
          · by_contra hfault
            rw [if_neg hfault] at hv
            exact hnew hv.symm
        · intro hwrites
          obtain ⟨hfirst, hsecond⟩ := hwrites rfl hnew
          rw [if_pos hfirst, if_pos hsecond]
          exact ⟨rfl, le_refl _⟩
      · obtain ⟨-, hexposure, hcur⟩ := htried.busy_fits huse hnew (by omega)
        rw [if_neg hlt, hexposure, hcur]
        constructor
        · rintro ⟨hv, -⟩ - -
          by_contra hfault
          rw [if_neg hfault] at hv
          exact hnew hv.symm
        · intro hwrites
          rw [if_pos (hwrites rfl hnew)]
          exact ⟨rfl, by omega⟩

theorem timing_room {s : Imx219Device} (h : TimingInvariant s) : 4 ≤ 0xffff - modeHeight s := by
  have hmin := h.vblank_min
  have hmax := h.vblank_max
  omega

theorem vblank_sCtrl {s : Imx219Device} (h : TimingInvariant s) (val : Int) :
    (TimingOk (v4l2SCtrl .vblank val s) ↔
      (inUse s = true → VblankFits s (clampTo 4 (0xffff - modeHeight s) val))) ∧
    (TimingOk (v4l2SCtrl .vblank val s) → TimingInvariant (v4l2SCtrl .vblank val s)) := by
  have hclamp := clampTo_mem (timing_room h) val
  have hrun : v4l2SCtrl .vblank val s = (v4l2SetCtrl (imx219SetCtrl .vblank) .vblank
      (clampTo 4 (0xffff - modeHeight s) val) s).2 := by
    unfold v4l2SCtrl validateNew
    rw [h.vblank_readOnly, h.vblank.type, h.vblank_minimum, h.vblank_maximum]
    rfl
  have htried := h.tunable.vblankTried hclamp.1 hclamp.2
  rw [hrun]
  exact ⟨(vblankTried_timingOk_iff h hclamp.1 hclamp.2 htried).trans
    (vblankTried_reached_iff h htried), vblankTried_timingInvariant h htried⟩

theorem timingInvariant_sCtrl {s : Imx219Device} (h : TimingInvariant s) {id : Imx219Ctrl}
    (hid : id ≠ .vblank) (val : Int) : TimingInvariant (v4l2SCtrl id val s) := by
  unfold v4l2SCtrl
  split
  · exact h
  · rename_i hwritable
    split
    · exact timingInvariant_withVal h id val
    · rename_i set hvalid
      rw [imx219SetCtrl_of_ne hid]
      by_cases hexposure : id = .exposure
      · subst hexposure
        unfold validateNew at hvalid
        rw [h.exposure.type] at hvalid
        obtain rfl := Option.some.inj hvalid
        have hcur := h.toTimingOk.exposure_cur
        exact timingInvariant_exposure h (clampTo_mem (hcur.1.trans hcur.2) val)
      · have hother : id ∉ [Imx219Ctrl.vblank, .exposure, .hblank] := by
          simp only [List.mem_cons, List.not_mem_nil, or_false, not_or]
          refine ⟨hid, hexposure, ?_⟩
          rintro rfl
          exact hwritable h.hblank_readOnly
        have hval := timingInvariant_withVal h id set
        have hset := preserves_applyCtrl hid _ hval
        rcases v4l2SetCtrl_outcome (applyCtrl id) id set s with hrun | ⟨t, rfl, hrun | hrun⟩
        · rwa [hrun]
        · rwa [hrun]
        · rw [hrun]
          exact timingInvariant_other hset hother _

/-- A setup of the controls asks for the values they have: the exposure limits stay. -/
theorem updateExposure_same {s : Imx219Device} (h : TimingInvariant s) :
    TimingInvariant (updateExposure (modeHeight s + (s.ctrls .vblank).cur - 4) s) ∧
      (updateExposure (modeHeight s + (s.ctrls .vblank).cur - 4) s).ctrls .vblank =
        s.ctrls .vblank := by
  have hrelated := h.exposure_max
  have hminimum := h.exposure_minimum
  have hcur := h.toTimingOk.exposure_cur
  have hupdated := updateExposure_spec h.exposure h.exposure_minimum (by omega)
    (show 4 ≤ modeHeight s + (s.ctrls .vblank).cur - 4 by omega)
  generalize updateExposure (modeHeight s + (s.ctrls .vblank).cur - 4) s = t at hupdated
  have hsame : (t.ctrls .exposure).cur = (s.ctrls .exposure).cur := by
    rcases hupdated.outcome with ⟨-, hval, -⟩ | ⟨hlt, -⟩
    · exact hval
    · omega
  have hmaximum := hupdated.maximum
  have hlimit := hupdated.minimum
  refine ⟨?_, hupdated.others .vblank (by decide)⟩
  exact timingInvariant_withExposure h hupdated.toTimingFrame hupdated.others hupdated.settable
    hlimit (hmaximum.trans hrelated.symm) (by omega) (by omega)

theorem setVblank_same {s : Imx219Device} (h : TimingInvariant s)
    (hval : (s.ctrls .vblank).val = (s.ctrls .vblank).cur) :
    TimingInvariant (imx219SetCtrl .vblank s).2 := by
  obtain ⟨hupdated, hsame⟩ := updateExposure_same h
  unfold imx219SetCtrl
  dsimp only
  rw [hval]
  change TimingInvariant (applyCtrl .vblank
    (updateExposure (modeHeight s + (s.ctrls .vblank).cur - 4) s)).2
  generalize updateExposure (modeHeight s + (s.ctrls .vblank).cur - 4) s = t at hupdated hsame
  unfold applyCtrl
  split
  · refine preserves_onClient (preserves_writeReg (fun _ => ?_) 2) t hupdated
    have hmin := hupdated.vblank_min
    have hmax := hupdated.vblank_max
    rw [hsame] at hmin hmax ⊢
    rw [hval]
    unfold modeHeight at hmax
    exact frameLength_toNat (by omega) (by omega)
  · exact hupdated

theorem timingInvariant_streamStable : StreamStable TimingInvariant where
  write _ len _ hval := preserves_onClient (preserves_writeReg (fun _ => hval) len)
  setup id s hs := by
    have hasked := timingInvariant_withVal hs id (s.ctrls id).cur
    by_cases hid : id = .vblank
    · subst hid
      refine setVblank_same hasked ?_
      rw [withCtrl_self]
      rfl
    · rw [imx219SetCtrl_of_ne hid]
      exact preserves_applyCtrl hid _ hasked
  grab _ _ hs := timingInvariant_other (timingInvariant_other hs (by decide) _) (by decide) _
  powerUp s hs := by
    unfold powerUp
    split
    · exact hs
    · exact timingInvariant_withClient hs hs.frameLength
  flags _ _ _ _ hs := timingInvariant_of_same hs ⟨rfl, fun _ _ => rfl⟩ hs.frameLength

theorem tunable_withMode {s : Imx219Device} (h : TimingInvariant s) (fmt : MbusFramefmt)
    {mode : Imx219Mode} (hmode : mode ∈ supportedModes) : Tunable (withMode s fmt mode) :=
  { mode_mem := hmode
    vblank := h.vblank
    exposure := h.exposure
    exposure_minimum := h.exposure_minimum
    exposure_cur := h.tunable.exposure_cur
    hblank_grabbed := h.hblank_grabbed }

/-- In use, the limits can only be updated for the current mode: nothing can be written
for the horizontal blanking of another one. -/
theorem updateLimits_timingOk_iff {s : Imx219Device} (h : TimingInvariant s)
    (fmt : MbusFramefmt) {mode : Imx219Mode} (hmode : mode ∈ supportedModes) :
    TimingOk (updateLimits mode (withMode s fmt mode)) ↔
      (inUse s = true → s.mode = mode ∧ DefaultFits s) := by
  have htunable := tunable_withMode h fmt hmode
  have hupdated : LimitsUpdated (withMode s fmt mode) (updateLimits mode (withMode s fmt mode)) :=
    updateLimits_updated htunable
  rw [hupdated.timingOk_iff hmode h.frameLength]
  rcases huse : inUse s with _ | _
  · exact ⟨fun _ hbusy => absurd hbusy Bool.false_ne_true,
      fun _ => limitsReached_idle htunable huse⟩
  · by_cases hsame : s.mode = mode
    · subst hsame
      have hstart : TimingInvariant (withMode s fmt s.mode) :=
        timingInvariant_of_same h ⟨rfl, fun _ _ => rfl⟩ h.frameLength
      have hiff := limitsReached_iff hstart huse
      exact ⟨fun hreached _ => ⟨rfl, hiff.mp hreached⟩, fun hfits => hiff.mpr (hfits rfl).2⟩
    · refine ⟨fun hreached => ?_, fun hfits => absurd (hfits rfl).1 hsame⟩
      obtain ⟨first, second, third, hfirst, hsecond, hthird, hlast⟩ := updateLimits_spec htunable
      obtain ⟨hkept, hbusy⟩ := hblank_before hfirst hsecond hthird
      have hstale : ((updateLimits mode (withMode s fmt mode)).ctrls .hblank).cur = _ := hlast.cur
      rw [if_pos (hbusy.trans huse), hkept] at hstale
      have hasked := (hupdated.reached_iff.mp hreached).2.2
      have hwidths := (supportedModes_limits mode hmode).2.2.2.2 s.mode h.mode_mem
      have hwidth : s.mode.width.toNat = mode.width.toNat := by
        have heq : (3448 : Int) - s.mode.width.toNat = 3448 - mode.width.toNat :=
          h.hblank_cur.symm.trans (hstale.symm.trans hasked)
        omega
      exact absurd (hwidths hwidth) hsame

/-- The steps whose writes decide: a vertical blanking, and a format that changes what
the driver stores. -/
def TimingFits (nearest : NearestSize) (s : Imx219Device) : Imx219Op → Prop
  | .sCtrl .vblank val =>
      inUse s = true → VblankFits s (clampTo 4 (0xffff - modeHeight s) val)
  | .setPadFormat .active format => ∀ mode,
      nearest.pick imx219ModeSize supportedModes format.width format.height = some mode →
        FormatChanges s format mode → inUse s = true → s.mode = mode ∧ DefaultFits s
  | _ => True

theorem timing_setPadFormat {nearest : NearestSize} {s : Imx219Device} (h : TimingInvariant s)
    (format : MbusFramefmt) :
    (TimingOk (imx219SetPadFormat nearest .active format s).1 ↔
      TimingFits nearest s (.setPadFormat .active format)) ∧
    (TimingOk (imx219SetPadFormat nearest .active format s).1 →
      TimingInvariant (imx219SetPadFormat nearest .active format s).1) := by
  obtain ⟨mode, hmode, hpick⟩ := nearest.pick_mem imx219ModeSize
    (show supportedModes ≠ [] by decide) format.width format.height
  have hfits : TimingFits nearest s (.setPadFormat .active format) ↔
      (FormatChanges s format mode → inUse s = true → s.mode = mode ∧ DefaultFits s) := by
    constructor
    · intro hall
      exact hall mode hpick
    · intro hone other hother
      obtain rfl := Option.some.inj (hpick.symm.trans hother)
      exact hone
  rw [hfits]
  rcases setPadFormat_active (s := s) hpick with ⟨hchanges, hrun⟩ | ⟨hsame, hrun⟩
  · rw [hrun, updateLimits_timingOk_iff h _ hmode]
    refine ⟨⟨fun hok _ => hok, fun hok => hok hchanges⟩, fun hok => ?_⟩
    exact (updateLimits_updated (tunable_withMode h _ hmode)).timingInvariant hmode
      h.vblank_readOnly h.hblank_readOnly ((updateLimits_timingOk_iff h _ hmode).mpr hok)
  · rw [hrun]
    exact ⟨⟨fun _ hchanges => absurd hchanges hsame, fun _ => h.toTimingOk⟩, fun _ => h⟩

theorem timing_step {nearest : NearestSize} {s : Imx219Device} (h : TimingInvariant s)
    (op : Imx219Op) :
    (TimingOk (imx219Step nearest s op) ↔ TimingFits nearest s op) ∧
      (TimingOk (imx219Step nearest s op) → TimingInvariant (imx219Step nearest s op)) := by
  have hkept : ∀ t, TimingInvariant t → (TimingOk t ↔ True) ∧ (TimingOk t → TimingInvariant t) :=
    fun t ht => ⟨iff_true_intro ht.toTimingOk, fun _ => ht⟩
  cases op with
  | sCtrl id val =>
      by_cases hid : id = .vblank
      · subst hid
        exact vblank_sCtrl h val
      · have hfits : TimingFits nearest s (.sCtrl id val) ↔ True := by
          cases id with
          | vblank => exact absurd rfl hid
          | _ => exact Iff.rfl
        rw [hfits]
        exact hkept _ (timingInvariant_sCtrl h hid val)
  | setPadFormat which format =>
      cases which with
      | active => exact timing_setPadFormat h format
      | «try» =>
          refine hkept _ ?_
          change TimingInvariant (imx219SetPadFormat nearest .try format s).1
          unfold imx219SetPadFormat
          dsimp only
          split
          · exact h
          · exact timingInvariant_of_same h ⟨rfl, fun _ _ => rfl⟩ h.frameLength
  | setStream | suspend | resume | othersHold =>
      exact hkept _ (timingInvariant_streamStable.step nearest rfl h)

/-- From a device whose timing controls are in relation, whatever fails. -/
theorem timing_run (nearest : NearestSize) {start : Imx219Device}
    (hstart : TimingInvariant start) (ops : List Imx219Op) :
    Always (imx219Step nearest) TimingOk start ops ↔
      Along (imx219Step nearest) (TimingFits nearest) start ops := by
  refine always_iff_along_of_exact (E := fun _ _ => True) (fun s hs => hs.toTimingOk)
    (fun s op hs _ hop => ?_) (fun s op hs _ hok => (timing_step hs op).1.mp hok) hstart
    (along_of_forall (fun _ _ => trivial) start ops)
  exact (timing_step hs op).2 ((timing_step hs op).1.mpr hop)

theorem timingInvariant_probed (client : Imx219Client) (tryFmt : MbusFramefmt)
    (hclient : FrameLengthsOk client) : TimingInvariant (probedDevice client tryFmt) where
  vblank_min := show (4 : Int) ≤ (imx219InitControls imx219Mode0 .vblank).cur by decide
  vblank_max := show (imx219InitControls imx219Mode0 .vblank).cur ≤
    0xffff - (imx219Mode0.height.toNat : Int) by decide
  exposure_max := show (imx219InitControls imx219Mode0 .exposure).maximum =
    imx219Mode0.height.toNat + (imx219InitControls imx219Mode0 .vblank).cur - 4 by decide
  exposure_cur := show (imx219InitControls imx219Mode0 .exposure).minimum ≤
      (imx219InitControls imx219Mode0 .exposure).cur ∧
    (imx219InitControls imx219Mode0 .exposure).cur ≤
      (imx219InitControls imx219Mode0 .exposure).maximum by decide
  hblank_cur := rfl
  hblank_min := rfl
  hblank_max := rfl
  frameLength := hclient
  mode_mem := show imx219Mode0 ∈ supportedModes by decide
  vblank := ⟨rfl, rfl, rfl⟩
  exposure := ⟨rfl, rfl, rfl⟩
  vblank_minimum := rfl
  vblank_maximum := rfl
  vblank_readOnly := rfl
  exposure_minimum := rfl
  hblank_readOnly := rfl
  hblank_grabbed := rfl

/-- From probe on, whatever fails: the timing controls are in relation after every
operation of a run exactly when the writes that a new vertical blanking takes succeed,
and a format for a sensor in use keeps its mode and the writes of the mode's default
blanking succeed. -/
theorem timing_ok_iff (nearest : NearestSize) (regs resetRegs : U16 → U8)
    (faults : List (Option Errno)) (tryFmt : MbusFramefmt) (ops : List Imx219Op) :
    Always (imx219Step nearest) TimingOk (probedDevice ⟨⟨regs, resetRegs, []⟩, faults⟩ tryFmt)
        ops ↔
      Along (imx219Step nearest) (TimingFits nearest)
        (probedDevice ⟨⟨regs, resetRegs, []⟩, faults⟩ tryFmt) ops := by
  refine timing_run nearest (timingInvariant_probed _ tryFmt ?_) ops
  intro w hw
  exact absurd hw List.not_mem_nil

def modeWhileStreaming : List Imx219Op :=
  [.setStream true none, .setPadFormat .active ⟨mediaBusFmtSrggb10_1x10, 640, 480⟩]

def longerFrame : List Imx219Op := [.setStream true none, .sCtrl .vblank 2000]

/-- Without any failure the horizontal blanking stays behind the mode; and a frame
length that is not written leaves exposures longer than the frame. -/
theorem timing_lost :
    ¬Always (imx219Step leastError) TimingOk (boardDevice []) modeWhileStreaming ∧
      ¬Always (imx219Step leastError) TimingOk
        (boardDevice (List.replicate 69 none ++ [some .eremoteio])) longerFrame := by
  constructor
  · intro hok
    have hblank := hok.last.hblank_cur
    have hstale : ((exec (imx219Step leastError) (boardDevice []) modeWhileStreaming).ctrls
          .hblank).cur ≠ 3448 -
        (exec (imx219Step leastError) (boardDevice []) modeWhileStreaming).mode.width.toNat := by
      decide +kernel
    exact hstale hblank
  · intro hok
    have hmax := hok.last.exposure_max
    have hlong : ((exec (imx219Step leastError)
          (boardDevice (List.replicate 69 none ++ [some .eremoteio])) longerFrame).ctrls
            .exposure).maximum ≠
        modeHeight (exec (imx219Step leastError)
          (boardDevice (List.replicate 69 none ++ [some .eremoteio])) longerFrame) +
        ((exec (imx219Step leastError)
          (boardDevice (List.replicate 69 none ++ [some .eremoteio])) longerFrame).ctrls
            .vblank).cur - 4 := by
      decide +kernel
    exact hlong hmax

end CameraPorting.SensorImx219.TimingRuns
