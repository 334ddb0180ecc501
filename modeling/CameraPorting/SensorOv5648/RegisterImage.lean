import CameraPorting.SensorOv5648.PowerUp
import CameraPorting.Library.Runs

namespace CameraPorting.SensorOv5648.RegisterImage

open CameraPorting.Kernel.Media
open CameraPorting.Kernel.I2c
open CameraPorting.Library.MaskedWrites
open CameraPorting.Library.Runs
open CameraPorting.SensorOv5648.Registers
open CameraPorting.SensorOv5648.Modes
open CameraPorting.SensorOv5648.RegisterAccess
open CameraPorting.SensorOv5648.Sensor
open CameraPorting.SensorOv5648.RegisterPrograms
open CameraPorting.SensorOv5648.PowerUp

/-- What the media core and the control framework ask of the driver. `vals` are
the new control values, `exposureIsNew` says whether the exposure is among the
controls that are set. -/
inductive SensorOp where
  | setFmt (which : FormatWhence) (format : MbusFramefmt)
  | sCtrl (cluster : Ov5648Cluster) (vals : Ov5648Ctrls) (exposureIsNew : Bool)
  | runtimeSuspend
  | runtimeResume

/-- A control keeps its value when the driver fails to set it. -/
def sensorStep (nearest : NearestSize) (s : Ov5648) : SensorOp → Ov5648
  | .setFmt which format => (ov5648SetFmt nearest which format s).1
  | .sCtrl cluster vals exposureIsNew =>
      match ov5648SCtrl cluster vals exposureIsNew s with
      | (.ok (), t) => { t with ctrls := vals }
      | (.error _, t) => t
  | .runtimeSuspend => (pmRuntimeSuspend s).2
  | .runtimeResume => (pmRuntimeResume s).2

def SameCluster (u v : Ov5648Ctrls) : Ov5648Cluster → Prop
  | .exposureAuto => u.exposureManual = v.exposureManual ∧ u.exposure = v.exposure
  | .autogain => u.gainAuto = v.gainAuto ∧ u.gain = v.gain
  | .autoWhiteBalance => u.whiteBalanceAuto = v.whiteBalanceAuto ∧
      u.redBalance = v.redBalance ∧ u.blueBalance = v.blueBalance
  | .hflip => u.hflip = v.hflip
  | .vflip => u.vflip = v.vflip
  | .testPattern => u.testPattern = v.testPattern

/-- What the control framework keeps to: a call sets the controls of one cluster,
menu indices are in range, and on a powered sensor an exposure that is not new in
manual mode is the one that is set already. -/
def CoreAllows (s : Ov5648) : SensorOp → Prop
  | .sCtrl cluster vals exposureIsNew =>
      (∀ other, other ≠ cluster → SameCluster s.ctrls vals other) ∧ vals.testPattern < 6 ∧
        (s.suspended = false → cluster = .exposureAuto → vals.exposureManual = true →
          exposureIsNew = false →
            s.ctrls.exposureManual = true ∧ s.ctrls.exposure = vals.exposure)
  | _ => True

/-- The registers that hold the values of a cluster in manual mode. -/
def valueRegisters : Ov5648Cluster → List U16
  | .exposureAuto => [exposureCtrlHhReg, exposureCtrlHReg, exposureCtrlLReg]
  | .autogain => [gainCtrlHReg, gainCtrlLReg]
  | .autoWhiteBalance => [gainRedManHReg, gainRedManLReg, gainBlueManHReg, gainBlueManLReg]
  | .hflip | .vflip | .testPattern => []

/-- A value register whose automatic control is on. -/
def SetByTheChip (ctrls : Ov5648Ctrls) (a : U16) : Prop :=
  ∃ cluster, manualMode ctrls cluster = false ∧ a ∈ valueRegisters cluster

/-- A sensor as `ov5648_probe` leaves it, on a board where nothing fails. -/
structure Probed (s : Ov5648) : Prop extends Quiet s where
  suspended : s.suspended = true

/-- While the sensor is powered, its registers are those of a power-up in the
current configuration. -/
structure ImageInvariant (start s : Ov5648) : Prop extends Quiet s where
  resetImage : s.client.chip.resetImage = start.client.chip.resetImage
  hasAvdd : s.hasAvdd = start.hasAvdd
  numDataLanes : s.numDataLanes = start.numDataLanes
  chipId : s.suspended = false → ChipIdOk s.client.chip
  image : s.suspended = false → ∀ a, ¬SetByTheChip s.ctrls a →
    s.client.chip.regs a = run (powerUpProgram s) s.client.chip.resetImage a

theorem outline_timingProgram (mode mode' : Ov5648Mode) :
    outline (timingProgram mode) = outline (timingProgram mode') := rfl

theorem outline_pll1Program (config config' : Pll1Config) (bits bits' : U32) :
    outline (pll1Program config bits) = outline (pll1Program config' bits') := rfl

theorem outline_pll2Program (config config' : Pll2Config) :
    outline (pll2Program config) = outline (pll2Program config') := rfl

/-- Which bits a mode owns depends neither on the mode nor on the code. -/
theorem outline_modeProgram (mode mode' : Ov5648Mode) (mbusCode mbusCode' : U32) :
    outline (modeProgram mode mbusCode) = outline (modeProgram mode' mbusCode') := by
  have hpll1 : ∀ (m : Ov5648Mode) (code : U32),
      outline (if is8Bit code then pll1Program m.pll1Config.1 8
        else pll1Program m.pll1Config.2 10) = outline (pll1Program mode.pll1Config.1 8) := by
    intro m code
    split
    · exact outline_pll1Program _ _ _ _
    · exact outline_pll1Program _ _ _ _
  unfold modeProgram
  rw [outline_append, outline_append, outline_append, outline_append, hpll1, hpll1,
    outline_timingProgram mode mode', outline_pll2Program mode.pll2Config mode'.pll2Config]

theorem outline_switchProgram (vals vals' : Ov5648Ctrls) (cluster : Ov5648Cluster) :
    outline (switchProgram vals cluster) = outline (switchProgram vals' cluster) := by
  cases cluster <;> rfl

theorem outline_valueProgram (vals vals' : Ov5648Ctrls) (cluster : Ov5648Cluster) :
    outline (valueProgram vals cluster) = outline (valueProgram vals' cluster) := by
  cases cluster <;> rfl

def fullProgram (vals : Ov5648Ctrls) (cluster : Ov5648Cluster) : Program :=
  switchProgram vals cluster ++ valueProgram vals cluster

def plainCtrls : Ov5648Ctrls :=
  ⟨false, 0, false, 0, false, 0, 0, false, false, 0⟩

theorem mem_clusters (cluster : Ov5648Cluster) : cluster ∈ ov5648Clusters := by
  cases cluster <;> decide

theorem outline_fullProgram (vals : Ov5648Ctrls) (cluster : Ov5648Cluster) :
    outline (fullProgram vals cluster) = outline (fullProgram plainCtrls cluster) := by
  cases cluster <;> rfl

/-- The modes and the control clusters share no bit of any register, and neither do
two clusters. -/
theorem outlines_apart : ∀ cluster ∈ ov5648Clusters,
    outlinesApart (outline (fullProgram plainCtrls cluster))
        (outline (modeProgram ov5648Mode0 mediaBusFmtSbggr8_1x8)) = true ∧
      (∀ other ∈ ov5648Clusters, other ≠ cluster →
        outlinesApart (outline (fullProgram plainCtrls other))
          (outline (fullProgram plainCtrls cluster)) = true) ∧
      outlinesApart (outline (valueProgram plainCtrls cluster))
        (outline (switchProgram plainCtrls cluster)) = true := by
  decide +kernel

theorem cluster_apart_mode (a : U16) (vals : Ov5648Ctrls) (cluster : Ov5648Cluster)
    (mode : Ov5648Mode) (mbusCode : U32) :
    Apart a (fullProgram vals cluster) (modeProgram mode mbusCode) := by
  apply apart_of_outlines
  rw [outline_fullProgram, outline_modeProgram mode ov5648Mode0 mbusCode mediaBusFmtSbggr8_1x8]
  exact (outlines_apart cluster (mem_clusters cluster)).1

theorem cluster_apart_cluster (a : U16) (vals vals' : Ov5648Ctrls)
    {cluster other : Ov5648Cluster} (h : other ≠ cluster) :
    Apart a (fullProgram vals other) (fullProgram vals' cluster) := by
  apply apart_of_outlines
  rw [outline_fullProgram vals, outline_fullProgram vals']
  exact (outlines_apart cluster (mem_clusters cluster)).2.1 other (mem_clusters other) h

theorem value_apart_switch (a : U16) (vals : Ov5648Ctrls) (cluster : Ov5648Cluster) :
    Apart a (valueProgram vals cluster) (switchProgram vals cluster) := by
  apply apart_of_outlines
  rw [outline_valueProgram vals plainCtrls, outline_switchProgram vals plainCtrls]
  exact (outlines_apart cluster (mem_clusters cluster)).2.2

theorem covers_refl (a : U16) (ops : Program) : Covers a ops ops := covers_of_eq rfl

theorem full_covers_cluster (a : U16) (vals : Ov5648Ctrls) (cluster : Ov5648Cluster) :
    Covers a (fullProgram vals cluster) (clusterProgram vals cluster) := by
  refine (covers_refl a _).append ?_
  split
  · exact covers_refl a _
  · exact covers_of_untouched rfl

theorem full_covers_switch (a : U16) (vals : Ov5648Ctrls) (cluster : Ov5648Cluster) :
    Covers a (fullProgram vals cluster) (switchProgram vals cluster) := by
  rw [← List.append_nil (switchProgram vals cluster)]
  exact (covers_refl a _).append (covers_of_untouched rfl)

theorem clusters_apart {a : U16} {vals : Ov5648Ctrls} {clusters : List Ov5648Cluster}
    {ops : Program}
    (h : ∀ cluster ∈ clusters, Apart a (fullProgram vals cluster) ops) :
    Apart a (clustersProgram vals clusters) ops := by
  induction clusters with
  | nil =>
      intro i hi
      rw [clustersProgram, List.flatMap_nil, touched, BitVec.getLsbD_zero] at hi
      exact Bool.noConfusion hi
  | cons cluster rest ih =>
      rw [clustersProgram, List.flatMap_cons]
      refine Apart.append_left ?_ (ih fun other hmem => h other (List.mem_cons_of_mem _ hmem))
      exact (h cluster List.mem_cons_self).of_covers (full_covers_cluster a vals cluster)
        (covers_refl a ops)

theorem valueRegisters_eq (vals : Ov5648Ctrls) (cluster : Ov5648Cluster) :
    valueRegisters cluster = (valueProgram vals cluster).map MaskedWrite.addr := by
  cases cluster <;> rfl

theorem value_mask (vals : Ov5648Ctrls) (cluster : Ov5648Cluster) :
    ∀ op ∈ valueProgram vals cluster, op.mask = BitVec.allOnes 8 := by
  cases cluster <;> simp [valueProgram, MaskedWrite.full]

theorem touched_value_of_mem {a : U16} {cluster : Ov5648Cluster}
    (h : a ∈ valueRegisters cluster) (vals : Ov5648Ctrls) :
    touched a (valueProgram vals cluster) = BitVec.allOnes 8 := by
  rw [valueRegisters_eq vals] at h
  obtain ⟨op, hmem, rfl⟩ := List.mem_map.mp h
  exact touched_eq_allOnes hmem (value_mask vals cluster op hmem)

theorem touched_value_of_not_mem {a : U16} {cluster : Ov5648Cluster}
    (h : a ∉ valueRegisters cluster) (vals : Ov5648Ctrls) :
    touched a (valueProgram vals cluster) = 0#8 := by
  refine touched_eq_zero fun op hmem heq => h ?_
  rw [valueRegisters_eq vals, ← heq]
  exact List.mem_map_of_mem hmem

theorem manualMode_congr {cur vals : Ov5648Ctrls} {cluster : Ov5648Cluster}
    (h : SameCluster cur vals cluster) : manualMode cur cluster = manualMode vals cluster := by
  cases cluster with
  | exposureAuto => exact h.1
  | autogain => exact congrArg not h.1
  | autoWhiteBalance => exact congrArg not h.1
  | hflip | vflip | testPattern => rfl

theorem switchProgram_congr {cur vals : Ov5648Ctrls} {cluster : Ov5648Cluster}
    (h : SameCluster cur vals cluster) :
    switchProgram cur cluster = switchProgram vals cluster := by
  cases cluster with
  | exposureAuto => simp only [switchProgram, h.1]
  | autogain => simp only [switchProgram, h.1]
  | autoWhiteBalance => simp only [switchProgram, h.1]
  | hflip =>
      have hflip : cur.hflip = vals.hflip := h
      simp only [switchProgram, hflip]
  | vflip =>
      have hflip : cur.vflip = vals.vflip := h
      simp only [switchProgram, hflip]
  | testPattern =>
      have hpattern : cur.testPattern = vals.testPattern := h
      simp only [switchProgram, hpattern]

theorem valueProgram_congr {cur vals : Ov5648Ctrls} {cluster : Ov5648Cluster}
    (h : SameCluster cur vals cluster) :
    valueProgram cur cluster = valueProgram vals cluster := by
  cases cluster with
  | exposureAuto => simp only [valueProgram, h.2]
  | autogain => simp only [valueProgram, h.2]
  | autoWhiteBalance => simp only [valueProgram, h.2.1, h.2.2]
  | hflip | vflip | testPattern => rfl

theorem clusterProgram_congr {cur vals : Ov5648Ctrls} {cluster : Ov5648Cluster}
    (h : SameCluster cur vals cluster) :
    clusterProgram cur cluster = clusterProgram vals cluster := by
  unfold clusterProgram
  rw [switchProgram_congr h, valueProgram_congr h, manualMode_congr h]

theorem clustersProgram_congr {cur vals : Ov5648Ctrls} {clusters : List Ov5648Cluster}
    (h : ∀ cluster ∈ clusters, SameCluster cur vals cluster) :
    clustersProgram cur clusters = clustersProgram vals clusters := by
  induction clusters with
  | nil => rfl
  | cons cluster rest ih =>
      simp only [clustersProgram, List.flatMap_cons] at ih ⊢
      rw [clusterProgram_congr (h cluster List.mem_cons_self),
        ih fun other hmem => h other (List.mem_cons_of_mem _ hmem)]

/-- To set part of a cluster anew is to have replayed the controls with the new
values. -/
theorem image_replace {cur vals : Ov5648Ctrls} {cluster : Ov5648Cluster}
    (hsame : ∀ other, other ≠ cluster → SameCluster cur vals other) {a : U16}
    {old new rest : Program} (hold : clusterProgram cur cluster = old ++ rest)
    (hnew : clusterProgram vals cluster = new ++ rest) (hcovers : Covers a new old)
    (hrest : Apart a rest new) (hfull : Covers a (fullProgram vals cluster) new)
    (front : Program) (regs : U16 → U8) :
    run new (run (front ++ clustersProgram cur ov5648Clusters) regs) a =
      run (front ++ clustersProgram vals ov5648Clusters) regs a := by
  obtain ⟨before, after, hsplit⟩ := List.append_of_mem (mem_clusters cluster)
  have hnodup : (before ++ cluster :: after).Nodup := by
    rw [← hsplit]
    decide
  have hne : ∀ other, other ∈ before ∨ other ∈ after → other ≠ cluster := by
    rintro other hmem rfl
    rw [List.nodup_append, List.nodup_cons] at hnodup
    rcases hmem with hmem | hmem
    · exact hnodup.2.2 other hmem other List.mem_cons_self rfl
    · exact hnodup.2.1.1 hmem
  have hbefore : clustersProgram cur before = clustersProgram vals before :=
    clustersProgram_congr fun other hmem => hsame other (hne other (.inl hmem))
  have hafter : clustersProgram cur after = clustersProgram vals after :=
    clustersProgram_congr fun other hmem => hsame other (hne other (.inr hmem))
  have hshape : ∀ v : Ov5648Ctrls, front ++ clustersProgram v ov5648Clusters =
      (front ++ clustersProgram v before) ++
        (clusterProgram v cluster ++ clustersProgram v after) := by
    intro v
    rw [hsplit, clustersProgram, List.flatMap_append, List.flatMap_cons, List.append_assoc]
    rfl
  rw [hshape cur, hshape vals, hold, hnew, hbefore, hafter, List.append_assoc old,
    List.append_assoc new]
  refine run_replace hcovers (hrest.append_left ?_) regs
  refine clusters_apart fun other hmem => ?_
  exact (cluster_apart_cluster a vals vals (hne other (.inr hmem))).of_covers
    (covers_refl a _) hfull

theorem image_setCluster {cur vals : Ov5648Ctrls} {cluster : Ov5648Cluster}
    (hsame : ∀ other, other ≠ cluster → SameCluster cur vals other) {a : U16}
    (ha : ¬SetByTheChip vals a) {front : Program} {regs reset : U16 → U8}
    (hregs : ¬SetByTheChip cur a →
      regs a = run (front ++ clustersProgram cur ov5648Clusters) reset a) :
    run (clusterProgram vals cluster) regs a =
      run (front ++ clustersProgram vals ov5648Clusters) reset a := by
  have hswitch : Covers a (switchProgram vals cluster) (switchProgram cur cluster) :=
    covers_of_eq (touched_of_outline a (outline_switchProgram cur vals cluster))
  have hvalue : Covers a (if manualMode vals cluster then valueProgram vals cluster else [])
      (if manualMode cur cluster then valueProgram cur cluster else []) := by
    by_cases hvals : manualMode vals cluster = true
    · rw [if_pos hvals]
      split
      · exact covers_of_eq (touched_of_outline a (outline_valueProgram cur vals cluster))
      · exact covers_of_untouched rfl
    · -- in automatic mode only the value registers are left, and these are not compared
      have hmem : a ∉ valueRegisters cluster := fun hmem =>
        ha ⟨cluster, Bool.eq_false_iff.mpr hvals, hmem⟩
      apply covers_of_untouched
      split
      · exact touched_value_of_not_mem hmem cur
      · rfl
  have hreplace := image_replace hsame (List.append_nil (clusterProgram cur cluster)).symm
    (List.append_nil (clusterProgram vals cluster)).symm (hswitch.append hvalue)
    (fun i hi => absurd hi (by simp [touched])) (full_covers_cluster a vals cluster) front reset
  rw [← hreplace]
  by_cases hcur : SetByTheChip cur a
  · -- the cluster goes from automatic to manual mode and sets its value registers
    obtain ⟨other, hauto, hmem⟩ := hcur
    have hmanual : manualMode vals other = true := by
      rcases hmode : manualMode vals other with _ | _
      · exact absurd ⟨other, hmode, hmem⟩ ha
      · rfl
    have hother : other = cluster := by
      by_contra hne
      rw [manualMode_congr (hsame other hne), hmanual] at hauto
      exact Bool.noConfusion hauto
    subst hother
    apply run_determined
    rw [clusterProgram, if_pos hmanual, touched_append, touched_value_of_mem hmem,
      BitVec.or_allOnes]
  · exact run_congr _ (hregs hcur)

/-- An exposure that is not new leaves nothing to set but the switch. -/
theorem image_setExposureSwitch {cur vals : Ov5648Ctrls}
    (hsame : ∀ cluster, SameCluster cur vals cluster) {a : U16}
    (ha : ¬SetByTheChip vals a) {front : Program} {regs reset : U16 → U8}
    (hregs : ¬SetByTheChip cur a →
      regs a = run (front ++ clustersProgram cur ov5648Clusters) reset a) :
    run (switchProgram vals .exposureAuto) regs a =
      run (front ++ clustersProgram vals ov5648Clusters) reset a := by
  have hcur : ¬SetByTheChip cur a := by
    rintro ⟨cluster, hauto, hmem⟩
    rw [manualMode_congr (hsame cluster)] at hauto
    exact ha ⟨cluster, hauto, hmem⟩
  rw [run_congr _ (hregs hcur)]
  refine image_replace (fun other _ => hsame other) (clusterProgram_congr (hsame .exposureAuto))
    rfl (covers_refl a _) ?_ (full_covers_switch a vals .exposureAuto) front reset
  split
  · exact value_apart_switch a vals .exposureAuto
  · exact fun i hi => absurd hi (by simp [touched])

theorem powerUpProgram_congr {s t : Ov5648} (hasAvdd : t.hasAvdd = s.hasAvdd)
    (hlanes : t.numDataLanes = s.numDataLanes) (hmode : t.mode = s.mode)
    (hcode : t.mbusCode = s.mbusCode) (hctrls : t.ctrls = s.ctrls) :
    powerUpProgram t = powerUpProgram s := by
  unfold powerUpProgram
  rw [hasAvdd, hlanes, hmode, hcode, hctrls]

theorem imageInvariant_setFmt {nearest : NearestSize} {start s : Ov5648}
    (h : ImageInvariant start s) (which : FormatWhence) (format : MbusFramefmt) :
    ImageInvariant start (ov5648SetFmt nearest which format s).1 := by
  obtain ⟨mode, hmem, hpick⟩ := nearest.pick_mem ov5648ModeSize
    (show ov5648Modes ≠ [] by decide) format.width format.height
  unfold ov5648SetFmt
  rw [if_neg (Bool.eq_false_iff.mp h.idle), hpick]
  cases which with
  | «try» => exact { h with }
  | active =>
      dsimp only
      split
      · obtain ⟨linkFreq, pixelRate, hconfigure⟩ :=
          stateConfigure_spec h.toQuiet hmem (findFormat_mem format.code)
        rw [hconfigure]
        rcases hsuspended : s.suspended with _ | _
        · refine { h with mode_mem := hmem, code_mem := findFormat_mem format.code, image := ?_ }
          intro _ a ha
          change (afterProgram (modeProgram mode (ov5648FindFormat format.code))
            s.client).chip.regs a = _
          rw [afterProgram_regs, run_congr _ (h.image hsuspended a ha)]
          refine run_replace (covers_of_eq (touched_of_outline a (outline_modeProgram _ _ _ _)))
            (clusters_apart fun cluster _ => ?_) _
          exact cluster_apart_mode a s.ctrls cluster mode _
        · exact { h with
            mode_mem := hmem, code_mem := findFormat_mem format.code
            chipId := fun hpowered => absurd (hsuspended.symm.trans hpowered) (by decide)
            image := fun hpowered => absurd (hsuspended.symm.trans hpowered) (by decide) }
      · exact h

theorem imageInvariant_sCtrl {nearest : NearestSize} {start s : Ov5648}
    (h : ImageInvariant start s) {cluster : Ov5648Cluster} {vals : Ov5648Ctrls} {isNew : Bool}
    (hcore : CoreAllows s (.sCtrl cluster vals isNew)) :
    ImageInvariant start (sensorStep nearest s (.sCtrl cluster vals isNew)) := by
  obtain ⟨hsame, hpattern, hexposure⟩ := hcore
  rcases hsuspended : s.suspended with _ | _
  · -- the program the call runs, and what it leaves in a register
    have hset : ∃ ops, Programs (ov5648SCtrl.setCluster cluster vals isNew) ops ∧
        ∀ a, ¬SetByTheChip vals a → run ops s.client.chip.regs a =
          run (powerUpProgram { s with ctrls := vals }) s.client.chip.resetImage a := by
      have himage : ∀ a, ¬SetByTheChip s.ctrls a → s.client.chip.regs a =
          run ((initProgram s.hasAvdd s.numDataLanes ++ modeProgram s.mode s.mbusCode) ++
            clustersProgram s.ctrls ov5648Clusters) s.client.chip.resetImage a := by
        intro a ha
        rw [h.image hsuspended a ha, powerUpProgram, List.append_assoc]
      have hgoal : powerUpProgram { s with ctrls := vals } =
          (initProgram s.hasAvdd s.numDataLanes ++ modeProgram s.mode s.mbusCode) ++
            clustersProgram vals ov5648Clusters := by
        rw [powerUpProgram, List.append_assoc]
      rw [hgoal]
      have hall : Programs (ov5648SCtrl.setCluster cluster vals true)
          (clusterProgram vals cluster) := programs_setCluster hpattern cluster
      by_cases hskip : cluster = .exposureAuto ∧ isNew = false
      · obtain ⟨rfl, rfl⟩ := hskip
        refine ⟨_, programs_setExposureSwitch vals, fun a ha => ?_⟩
        rcases hmanual : vals.exposureManual with _ | _
        · -- in automatic mode the switch is all there is to set
          have hswitch : switchProgram vals .exposureAuto = clusterProgram vals .exposureAuto := by
            rw [clusterProgram, manualMode, hmanual]
            exact (List.append_nil _).symm
          rw [hswitch]
          exact image_setCluster hsame ha (himage a)
        · obtain ⟨hcur, hvalue⟩ := hexposure hsuspended rfl hmanual rfl
          refine image_setExposureSwitch (fun other => ?_) ha (himage a)
          by_cases hother : other = .exposureAuto
          · subst hother
            exact ⟨hcur.trans hmanual.symm, hvalue⟩
          · exact hsame other hother
      · have hnew : ov5648SCtrl.setCluster cluster vals isNew =
            ov5648SCtrl.setCluster cluster vals true := by
          rcases isNew with _ | _
          · cases cluster with
            | exposureAuto => exact absurd ⟨rfl, rfl⟩ hskip
            | autogain | autoWhiteBalance | hflip | vflip | testPattern => rfl
          · rfl
        rw [hnew]
        exact ⟨_, hall, fun a ha => image_setCluster hsame ha (himage a)⟩
    obtain ⟨ops, hops, himage⟩ := hset
    have hcall := sCtrl_ok h.toQuiet hsuspended hops
    simp only [sensorStep, hcall]
    exact { h with pattern_lt := hpattern, image := fun _ a ha => himage a ha }
  · have hcall : ov5648SCtrl cluster vals isNew s = (.ok (), s) := by
      unfold ov5648SCtrl
      rw [driver_bind_ok (driver_get s), hsuspended]
      rfl
    simp only [sensorStep, hcall]
    exact { h with
      pattern_lt := hpattern
      chipId := fun hpowered => absurd (hsuspended.symm.trans hpowered) (by decide)
      image := fun hpowered => absurd (hsuspended.symm.trans hpowered) (by decide) }

theorem ImageInvariant.of_sameConfig {start s t : Ov5648} (h : ImageInvariant start s)
    (hquiet : Quiet t) (hsame : SameConfig s t)
    (hid : t.suspended = false → ChipIdOk t.client.chip)
    (himage : t.suspended = false → ∀ a, ¬SetByTheChip t.ctrls a →
      t.client.chip.regs a = run (powerUpProgram t) t.client.chip.resetImage a) :
    ImageInvariant start t :=
  { hquiet with
    resetImage := hsame.resetImage.trans h.resetImage
    hasAvdd := hsame.hasAvdd.trans h.hasAvdd
    numDataLanes := hsame.numDataLanes.trans h.numDataLanes
    chipId := hid
    image := himage }

theorem imageInvariant_suspend {start s : Ov5648} (h : ImageInvariant start s) :
    ImageInvariant start (pmRuntimeSuspend s).2 := by
  obtain ⟨t, hsuspend, hquiet, hsame, hsuspended⟩ := pmRuntimeSuspend_ok h.toQuiet
  rw [hsuspend]
  refine h.of_sameConfig hquiet hsame (fun hpowered => ?_) (fun hpowered => ?_)
  · exact absurd (hsuspended.symm.trans hpowered) (by decide)
  · exact absurd (hsuspended.symm.trans hpowered) (by decide)

theorem imageInvariant_resume {start s : Ov5648} (h : ImageInvariant start s) :
    ImageInvariant start (pmRuntimeResume s).2 := by
  rcases hsuspended : s.suspended with _ | _
  · have hcall : pmRuntimeResume s = (.ok (), s) := by
      unfold pmRuntimeResume
      rw [if_neg (Bool.eq_false_iff.mp hsuspended)]
    rw [hcall]
    exact h
  · by_cases hid : ChipIdOk s.client.chip
    · obtain ⟨t, hresume, hquiet, hsame, -, hregs⟩ :=
        pmRuntimeResume_ok h.toQuiet hsuspended hid
      rw [hresume]
      refine h.of_sameConfig hquiet hsame (fun _ => ?_) (fun _ a _ => ?_)
      · rwa [ChipIdOk, hsame.resetImage]
      · rw [hregs, hsame.resetImage, powerUpProgram_congr hsame.hasAvdd hsame.numDataLanes
          hsame.mode hsame.mbusCode hsame.ctrls]
    · obtain ⟨t, hresume, hquiet, hsame, hstays⟩ :=
        pmRuntimeResume_error h.toQuiet hsuspended hid
      rw [hresume]
      refine h.of_sameConfig hquiet hsame (fun hpowered => ?_) (fun hpowered => ?_)
      · exact absurd (hstays.symm.trans hpowered) (by decide)
      · exact absurd (hstays.symm.trans hpowered) (by decide)

theorem imageInvariant_step {nearest : NearestSize} {start s : Ov5648} {op : SensorOp}
    (h : ImageInvariant start s) (hcore : CoreAllows s op) :
    ImageInvariant start (sensorStep nearest s op) := by
  cases op with
  | setFmt which format => exact imageInvariant_setFmt h which format
  | sCtrl cluster vals isNew => exact imageInvariant_sCtrl h hcore
  | runtimeSuspend => exact imageInvariant_suspend h
  | runtimeResume => exact imageInvariant_resume h

theorem imageInvariant_start {start : Ov5648} (h : Probed start) :
    ImageInvariant start start :=
  { h.toQuiet with
    resetImage := rfl
    hasAvdd := rfl
    numDataLanes := rfl
    chipId := fun hpowered => absurd (h.suspended.symm.trans hpowered) (by decide)
    image := fun hpowered => absurd (h.suspended.symm.trans hpowered) (by decide) }

/-- The registers after a resume of the sensor, had it been given this mode, media
bus code and controls before. -/
def powerUpImage (start : Ov5648) (mode : Ov5648Mode) (mbusCode : U32) (ctrls : Ov5648Ctrls) :
    U16 → U8 :=
  (pmRuntimeResume { start with
    mode := mode, mbusCode := mbusCode, ctrls := ctrls }).2.client.chip.regs

/-- Whatever sequence of format changes, control changes, suspends and resumes a
probed sensor goes through: while it is powered, its registers are a function of the
current mode, media bus code and controls, the values the chip sets itself apart. -/
theorem registers_eq_powerUpImage (nearest : NearestSize) {start : Ov5648}
    (hstart : Probed start) {ops : List SensorOp}
    (hcore : Along (sensorStep nearest) CoreAllows start ops) {t : Ov5648}
    (ht : t = exec (sensorStep nearest) start ops) (hpowered : t.suspended = false) :
    ∀ a, ¬SetByTheChip t.ctrls a →
      t.client.chip.regs a = powerUpImage start t.mode t.mbusCode t.ctrls a := by
  intro a ha
  have h : ImageInvariant start t := by
    rw [ht]
    exact exec_of_along (fun s op hs hop => imageInvariant_step hs hop)
      (imageInvariant_start hstart) hcore
  let fresh : Ov5648 := { start with mode := t.mode, mbusCode := t.mbusCode, ctrls := t.ctrls }
  have hfresh : Quiet fresh := { hstart.toQuiet with
    mode_mem := h.mode_mem, code_mem := h.code_mem, pattern_lt := h.pattern_lt }
  have hid : ChipIdOk fresh.client.chip := by
    have hchip := h.chipId hpowered
    rwa [ChipIdOk, h.resetImage] at hchip
  obtain ⟨u, hresume, -, -, -, hregs⟩ := pmRuntimeResume_ok hfresh hstart.suspended hid
  have hprogram : powerUpProgram t = powerUpProgram fresh :=
    powerUpProgram_congr h.hasAvdd h.numDataLanes rfl rfl rfl
  change _ = (pmRuntimeResume fresh).2.client.chip.regs a
  rw [hresume, hregs, h.image hpowered a ha, h.resetImage, hprogram]

/-- A sensor after its probe, on a board with two lanes and both link frequencies. -/
def probedSensor : Ov5648 where
  client :=
    { chip :=
        { regs := fun _ => 0#8
          resetImage := fun a =>
            if a = chipIdHReg then chipIdHValue
            else if a = chipIdLReg then chipIdLValue else 0#8 }
      faults := [] }
  supplies := ⟨0, 0, 0, 0, []⟩
  hasAvdd := true
  xvclkRate := ov5648XvclkRate
  numDataLanes := 2
  linkFrequencies := ov5648LinkFreqMenu
  mode := ov5648Mode0
  mbusCode := mediaBusFmtSbggr8_1x8
  streaming := false
  ctrls := ⟨false, 512, true, 16, true, 1024, 1024, false, false, 0⟩
  linkFreq := 0
  pixelRate := 1
  tryFmt := ⟨0, 0, 0⟩
  pmEnabled := true
  suspended := true

theorem probed_probedSensor : Probed probedSensor :=
  { transfers := rfl
    supplies := rfl
    xvclkRate := rfl
    pmEnabled := rfl
    idle := rfl
    mode_mem := by decide
    code_mem := by decide
    pattern_lt := by decide
    suspended := rfl }

def flippedCtrls : Ov5648Ctrls := ⟨false, 512, true, 16, true, 1024, 1024, true, false, 0⟩

/-- A power-up, a binned mode and a horizontal flip of the powered sensor: the bits
for binning and flip share a register. -/
def flipOps : List SensorOp :=
  [.runtimeResume, .setFmt .active ⟨mediaBusFmtSrggb10_1x10, 1280, 720⟩,
    .sCtrl .hflip flippedCtrls true]

def flippedSensor : Ov5648 := exec (sensorStep leastError) probedSensor flipOps

theorem core_allows_flipOps :
    Along (sensorStep leastError) CoreAllows probedSensor flipOps := by
  have hctrls : (sensorStep leastError (sensorStep leastError probedSensor .runtimeResume)
      (.setFmt .active ⟨mediaBusFmtSrggb10_1x10, 1280, 720⟩)).ctrls =
        ⟨false, 512, true, 16, true, 1024, 1024, false, false, 0⟩ := by
    decide +kernel
  have hpattern : flippedCtrls.testPattern < 6 := by decide
  refine ⟨trivial, trivial, ⟨?_, hpattern, ?_⟩, trivial⟩
  · rw [hctrls]
    intro other hother
    cases other with
    | exposureAuto | autogain => exact ⟨rfl, rfl⟩
    | autoWhiteBalance => exact ⟨rfl, rfl, rfl⟩
    | hflip => exact absurd rfl hother
    | vflip | testPattern => rfl
  · intro _ hcluster
    exact Ov5648Cluster.noConfusion hcluster

theorem flippedSensor_tc21 :
    flippedSensor.client.chip.regs tc21Reg =
      powerUpImage probedSensor flippedSensor.mode flippedSensor.mbusCode flippedSensor.ctrls
        tc21Reg := by
  have hpowered : flippedSensor.suspended = false := by decide +kernel
  have hend : flippedSensor = exec (sensorStep leastError) probedSensor flipOps := by
    unfold flippedSensor
    exact Eq.refl _
  have hvalue : ¬SetByTheChip flippedSensor.ctrls tc21Reg := by
    rintro ⟨cluster, -, hmem⟩
    revert hmem
    cases cluster <;> decide
  exact registers_eq_powerUpImage leastError probed_probedSensor core_allows_flipOps
    hend hpowered tc21Reg hvalue

end CameraPorting.SensorOv5648.RegisterImage
