import CameraPorting.Pipeline.RawFormat
import CameraPorting.SensorImx219.FormatNegotiation

/-!
The negotiation of a stream start with the whole IMX219 driver behind the receiver is the
one with the sensor of the negotiation model: relations between subdevs that their pad
operations keep, carried through the receiver and the ISI.
-/

namespace CameraPorting.Pipeline.SensorRefinement

open CameraPorting.Kernel.Media
open CameraPorting.Library.Runs
open CameraPorting.Isi.Device
open CameraPorting.Isi.Formats
open CameraPorting.Isi.Ioctls
open CameraPorting.Csis.Receiver
open CameraPorting.SensorImx219.Sensor hiding imx219GetFormatCode imx219GetPadFormat
  imx219SetPadFormat updateExposure updateLimits
open CameraPorting.SensorImx219.Driver
open CameraPorting.SensorImx219.StreamState
open CameraPorting.SensorImx219.ProgrammedFormat
open CameraPorting.SensorImx219.FormatNegotiation
open CameraPorting.Pipeline.Sensors (BoardSensor sensorPadOps updateLimits_format activeFormat
  sensor_getFmt Delivers givenCode givenCode_eq_iff Clocked)
open CameraPorting.Pipeline.RawFormat

section Refines

variable {ρ τ : Type} {ops : PadOps ρ} {abstract : PadOps τ} {R : ρ → τ → Prop}

/-- The pad operations keep the relation, and give their callers the same. -/
structure Refines (ops : PadOps ρ) (abstract : PadOps τ) (R : ρ → τ → Prop) : Prop where
  setFmt : ∀ {r a}, R r a → ∀ mf,
    R (ops.setFmt r mf).1 (abstract.setFmt a mf).1 ∧ (ops.setFmt r mf).2 = (abstract.setFmt a mf).2
  getFmt : ∀ {r a}, R r a →
    R (ops.getFmt r).1 (abstract.getFmt a).1 ∧ (ops.getFmt r).2 = (abstract.getFmt a).2

structure ReceiverRelated (R : ρ → τ → Prop) (csis : CsiState ρ) (csis' : CsiState τ) : Prop where
  csisFmt : csis.csisFmt = csis'.csisFmt
  format : csis.format = csis'.format
  remoteSensor : csis.remoteSensor = csis'.remoteSensor
  sensor : R csis.sensor csis'.sensor

theorem refines_mipiCsis (h : Refines ops abstract R) :
    Refines (mipiCsisPadOps ops) (mipiCsisPadOps abstract) (ReceiverRelated R) where
  setFmt {csis csis'} hrelated mf := by
    obtain ⟨hfmt, hformat, hremote, hsensor⟩ := hrelated
    obtain ⟨hafter, hanswer⟩ := h.setFmt hsensor mf
    change ReceiverRelated R (mipiCsisSetFmt ops csis mf).1 (mipiCsisSetFmt abstract csis' mf).1 ∧
      (mipiCsisSetFmt ops csis mf).2 = (mipiCsisSetFmt abstract csis' mf).2
    unfold mipiCsisSetFmt
    rw [← hremote]
    rcases hset : ops.setFmt csis.sensor mf with ⟨sensor, filled, ret⟩
    rcases hset' : abstract.setFmt csis'.sensor mf with ⟨sensor', filled', ret'⟩
    rw [hset, hset'] at hafter hanswer
    obtain ⟨rfl, rfl⟩ := Prod.mk.inj hanswer
    split
    · exact ⟨⟨hfmt, hformat, hremote, hsensor⟩, rfl⟩
    · rcases ret with e | _
      · exact ⟨⟨hfmt, hformat, rfl, hafter⟩, rfl⟩
      · dsimp only
        rcases findCsisFormat filled.code with _ | row
        · exact ⟨⟨rfl, hformat, rfl, hafter⟩, rfl⟩
        · exact ⟨⟨rfl, hformat, rfl, hafter⟩, rfl⟩
  getFmt {csis csis'} hrelated := by
    obtain ⟨hfmt, hformat, hremote, hsensor⟩ := hrelated
    obtain ⟨hafter, hanswer⟩ := h.getFmt hsensor
    change ReceiverRelated R (mipiCsisGetFmt ops csis).1 (mipiCsisGetFmt abstract csis').1 ∧
      (mipiCsisGetFmt ops csis).2 = (mipiCsisGetFmt abstract csis').2
    unfold mipiCsisGetFmt
    rw [← hremote]
    rcases hget : ops.getFmt csis.sensor with ⟨sensor, answer⟩
    rcases hget' : abstract.getFmt csis'.sensor with ⟨sensor', answer'⟩
    rw [hget, hget'] at hafter hanswer
    obtain rfl : answer = answer' := hanswer
    split
    · exact ⟨⟨hfmt, hformat, hremote, hsensor⟩, rfl⟩
    · rcases answer with e | mf
      · exact ⟨⟨hfmt, hformat, rfl, hafter⟩, rfl⟩
      · exact ⟨⟨hfmt, rfl, rfl, hafter⟩, rfl⟩

theorem sourceFmtInit_refines (h : Refines ops abstract R) (remote : Bool) {r : ρ} {a : τ}
    (hrelated : R r a) (cap : MxcIsiCapDev) :
    R (mxcIsiSourceFmtInit ops remote r cap).1 (mxcIsiSourceFmtInit abstract remote a cap).1 ∧
      (mxcIsiSourceFmtInit ops remote r cap).2 = (mxcIsiSourceFmtInit abstract remote a cap).2 := by
  have hbounds : ∀ {r : ρ} {a : τ} (mf : MbusFramefmt), R r a →
      R (mxcIsiSourceFmtInit.sourceBounds r cap mf).1
          (mxcIsiSourceFmtInit.sourceBounds a cap mf).1 ∧
        (mxcIsiSourceFmtInit.sourceBounds r cap mf).2 =
          (mxcIsiSourceFmtInit.sourceBounds a cap mf).2 := by
    intro r a mf hra
    rw [sourceBounds_eq, sourceBounds_eq]
    exact ⟨hra, rfl⟩
  unfold mxcIsiSourceFmtInit
  split
  · exact ⟨hrelated, rfl⟩
  · obtain ⟨hset, hanswer⟩ := h.setFmt hrelated
      ⟨(frameFmt cap.dstF).mbusCode, cap.dstF.width, cap.dstF.height⟩
    rcases hrun : ops.setFmt r
      ⟨(frameFmt cap.dstF).mbusCode, cap.dstF.width, cap.dstF.height⟩ with ⟨r₁, filled, ret⟩
    rcases hrun' : abstract.setFmt a
      ⟨(frameFmt cap.dstF).mbusCode, cap.dstF.width, cap.dstF.height⟩ with ⟨a₁, filled', ret'⟩
    rw [hrun, hrun'] at hset hanswer
    obtain ⟨rfl, rfl⟩ := Prod.mk.inj hanswer
    dsimp only at hset ⊢
    split
    · exact ⟨hset, rfl⟩
    · obtain ⟨hget, hformat⟩ := h.getFmt hset
      rcases hgot : ops.getFmt r₁ with ⟨r₂, answer⟩
      rcases hgot' : abstract.getFmt a₁ with ⟨a₂, answer'⟩
      rw [hgot, hgot'] at hget hformat
      obtain rfl : answer = answer' := hformat
      rcases answer with e | mf
      · dsimp only
        split
        · exact ⟨hget, rfl⟩
        · exact hbounds _ hget
      · exact hbounds mf hget

end Refines

def devicePadOps (nearest : NearestSize) : PadOps Imx219Device where
  setFmt s mf :=
    let (s, mf) := imx219SetPadFormat nearest .active mf s
    (s, mf, .ok ())
  getFmt s :=
    let (s, mf) := imx219GetPadFormat .active s
    (s, .ok mf)

structure FlipShown (on : Bool) (ctrl : V4l2Ctrl) : Prop where
  type : ctrl.type = .boolean
  readOnly : ctrl.readOnly = false
  val : on = decide (ctrl.val ≠ 0)
  cur : on = decide (ctrl.cur ≠ 0)

/-- A sensor of the negotiation model that shows what the driver negotiates with: its formats,
its mode and its flips. -/
structure Shows (a : Imx219) (s : Imx219Device) : Prop where
  fmt : a.fmt = s.fmt
  mode : a.mode = s.mode
  hflip : FlipShown a.hflip (s.ctrls .hflip)
  vflip : FlipShown a.vflip (s.ctrls .vflip)

theorem Shows.getFormatCode {a : Imx219} {s : Imx219Device} (h : Shows a s) (code : U32) :
    SensorImx219.Sensor.imx219GetFormatCode a code = imx219GetFormatCode s code := by
  unfold SensorImx219.Sensor.imx219GetFormatCode imx219GetFormatCode
  rw [h.hflip.val, h.vflip.val]
  simp

theorem Shows.of_kept {a b : Imx219} {s t : Imx219Device} (h : Shows a s)
    (hs : NegotiationKept s t) (hfmt : b.fmt = a.fmt) (hmode : b.mode = a.mode)
    (hhflip : b.hflip = a.hflip) (hvflip : b.vflip = a.vflip) : Shows b t where
  fmt := by rw [hfmt, h.fmt, hs.fmt]
  mode := by rw [hmode, h.mode, hs.mode]
  hflip := by rw [hhflip, hs.hflip]; exact h.hflip
  vflip := by rw [hvflip, hs.vflip]; exact h.vflip

theorem Shows.setPadFormat (nearest : NearestSize) {a : Imx219} {s : Imx219Device}
    (h : Shows a s) (which : FormatWhence) (mf : MbusFramefmt) :
    Shows (SensorImx219.Sensor.imx219SetPadFormat nearest which mf a).1
        (imx219SetPadFormat nearest which mf s).1 ∧
      (SensorImx219.Sensor.imx219SetPadFormat nearest which mf a).2 =
        (imx219SetPadFormat nearest which mf s).2 := by
  obtain ⟨mode, -, hpick⟩ := nearest.pick_mem imx219ModeSize
    (show supportedModes ≠ [] by decide) mf.width mf.height
  have hfilled : imx219UpdatePadFormat mode { mf with
      code := SensorImx219.Sensor.imx219GetFormatCode a
        (imx219Codes.getD (codeIndex mf.code) 0) } = filledFormat s mf mode := by
    rw [h.getFormatCode]
    rfl
  have hanswer : (imx219SetPadFormat nearest which mf s).2 = filledFormat s mf mode := by
    rw [setPadFormat_answer hpick, filledFormat_eq]
  unfold SensorImx219.Sensor.imx219SetPadFormat
  rw [hpick, hanswer]
  dsimp only
  rw [hfilled]
  cases which with
  | «try» =>
      rw [setPadFormat_try hpick]
      exact ⟨{ h with }, rfl⟩
  | active =>
      dsimp only
      rw [h.mode, h.fmt]
      rcases setPadFormat_active (s := s) hpick with ⟨hchanges, hrun⟩ | ⟨hsame, hrun⟩
      · have hshown : Shows { a with fmt := filledFormat s mf mode, mode := mode }
            (withMode s (filledFormat s mf mode) mode) :=
          ⟨rfl, rfl, h.hflip, h.vflip⟩
        obtain ⟨hfmt, hmode, hhflip, hvflip⟩ := updateLimits_format
          { a with fmt := filledFormat s mf mode, mode := mode } mode
        unfold FormatChanges at hchanges
        rw [if_pos hchanges, hrun]
        exact ⟨hshown.of_kept (updateLimits_negotiationKept mode _) hfmt hmode hhflip hvflip, rfl⟩
      · unfold FormatChanges at hsame
        rw [if_neg hsame, hrun]
        exact ⟨h, rfl⟩

theorem Shows.setCtrl {a : Imx219} {s : Imx219Device} (h : Shows a s) {id : Imx219Ctrl}
    {ctrl : V4l2Ctrl} (hctrl : ∀ on, FlipShown on (s.ctrls id) → FlipShown on ctrl) :
    Shows a (withCtrl s id ctrl) := by
  have hflips : ∀ flip on, FlipShown on (s.ctrls flip) →
      FlipShown on ((withCtrl s id ctrl).ctrls flip) := by
    intro flip on hshown
    rcases eq_or_ne flip id with rfl | hne
    · rw [withCtrl_self]
      exact hctrl on hshown
    · rw [withCtrl_of_ne s hne]
      exact hshown
  exact ⟨h.fmt, h.mode, hflips .hflip _ h.hflip, hflips .vflip _ h.vflip⟩

theorem shows_clientFree (a : Imx219) : ClientFree (Shows a) := fun _ _ h => { h with }

theorem shows_stableOn {ids : List Imx219Ctrl}
    (hids : ∀ flip ∈ [Imx219Ctrl.hflip, .vflip], flip ∉ ids) (a : Imx219) :
    StableOn ids (Shows a) where
  apply := (shows_clientFree a).preserves_applyCtrl
  ctrl s id ctrl hid hgrabbed hreadOnly h :=
    h.of_kept ((negotiationKept_stableOn hids s).ctrl s id ctrl hid hgrabbed hreadOnly
      ⟨⟨rfl, rfl⟩, rfl, rfl⟩) rfl rfl rfl rfl

theorem shows_streamStable (a : Imx219) : StreamStable (Shows a) where
  write _ _ _ _ _ h := { h with }
  setup id s h := by
    have hstable : StableOn [.exposure] (Shows a) := shows_stableOn (by decide) a
    apply preserves_imx219SetCtrl hstable (by simp)
    apply h.setCtrl
    intro on hshown
    exact { hshown with val := hshown.cur }
  grab grabbed s h := by
    have hvflip : Shows a (withCtrl s .vflip ((s.ctrls .vflip).withGrabbed grabbed)) :=
      h.setCtrl fun on hshown => { hshown with }
    exact hvflip.setCtrl fun on hshown => { hshown with }
  powerUp s h := by
    unfold powerUp
    split
    · exact h
    · exact { h with }
  flags _ _ _ _ h := { h with }

def withFlip (a : Imx219) (id : Imx219Ctrl) (on : Bool) : Imx219 :=
  match id with
  | .hflip => { a with hflip := on }
  | .vflip => { a with vflip := on }
  | _ => a

theorem withFlip_of_notMem (a : Imx219) {id : Imx219Ctrl}
    (hid : id ∉ [Imx219Ctrl.hflip, .vflip]) (on : Bool) : withFlip a id on = a := by
  cases id with
  | hflip | vflip => exact absurd hid (by decide)
  | _ => rfl

theorem Shows.setFlip {a : Imx219} {s t : Imx219Device} (h : Shows a s) {id : Imx219Ctrl}
    (hid : id ∈ [Imx219Ctrl.hflip, .vflip]) {on : Bool} (hsame : SameFormat s t)
    (hself : FlipShown on (t.ctrls id)) (hothers : ∀ other ≠ id, t.ctrls other = s.ctrls other) :
    Shows (withFlip a id on) t := by
  simp only [List.mem_cons, List.not_mem_nil, or_false] at hid
  rcases hid with rfl | rfl
  · refine ⟨h.fmt.trans hsame.fmt.symm, h.mode.trans hsame.mode.symm, hself, ?_⟩
    rw [hothers .vflip (by decide)]
    exact h.vflip
  · refine ⟨h.fmt.trans hsame.fmt.symm, h.mode.trans hsame.mode.symm, ?_, hself⟩
    rw [hothers .hflip (by decide)]
    exact h.hflip

theorem Shows.flipShown {a : Imx219} {s : Imx219Device} (h : Shows a s) {id : Imx219Ctrl}
    (hid : id ∈ [Imx219Ctrl.hflip, .vflip]) : ∃ on, FlipShown on (s.ctrls id) := by
  simp only [List.mem_cons, List.not_mem_nil, or_false] at hid
  rcases hid with rfl | rfl
  · exact ⟨_, h.hflip⟩
  · exact ⟨_, h.vflip⟩

theorem Shows.flipTaken {a : Imx219} {s : Imx219Device} (h : Shows a s) {id : Imx219Ctrl}
    (hid : id ∈ [Imx219Ctrl.hflip, .vflip]) {val : Int} (htaken : FlipTaken s (.sCtrl id val)) :
    Shows (withFlip a id (decide (val ≠ 0))) (v4l2SCtrl id val s) := by
  obtain ⟨on, hshown⟩ := h.flipShown hid
  obtain ⟨v, hvalid, hok⟩ := htaken hid
  have hval : decide (val ≠ 0) = decide (v ≠ 0) := by
    unfold validateNew at hvalid
    rw [hshown.type] at hvalid
    obtain rfl := Option.some.inj hvalid
    split
    · rename_i hzero
      rw [hzero]
    · rename_i hset
      simpa using hset
  unfold v4l2SCtrl
  rw [hshown.readOnly, if_neg Bool.false_ne_true, hvalid, hval]
  dsimp only
  rcases v4l2SetCtrl_ok_inv hok with ⟨hcur, hrun⟩ | ⟨t, hset, hrun⟩
  · rw [hrun]
    refine h.setFlip hid ⟨rfl, rfl⟩ ?_ fun other hother => withCtrl_of_ne s hother _
    rw [withCtrl_self]
    exact ⟨hshown.type, hshown.readOnly, rfl, by rw [hcur]; rfl⟩
  · have happly : imx219SetCtrl id = applyCtrl id := by
      simp only [List.mem_cons, List.not_mem_nil, or_false] at hid
      rcases hid with rfl | rfl
      · rfl
      · rfl
    rw [happly] at hset
    have hctrls : t.ctrls = (withCtrl s id ((s.ctrls id).withVal v)).ctrls :=
      (congrArg (fun r => r.2.ctrls) hset).symm.trans (applyCtrl_ctrls id _)
    have hsame : SameFormat s t := by
      have hkept := (sameFormat_clientFree s).preserves_applyCtrl id
        (withCtrl s id ((s.ctrls id).withVal v)) ⟨rfl, rfl⟩
      rwa [hset] at hkept
    rw [hrun]
    refine h.setFlip hid { hsame with } ?_ fun other hother => ?_
    · rw [withCtrl_self, hctrls, withCtrl_self]
      exact ⟨hshown.type, hshown.readOnly, rfl, rfl⟩
    · rw [withCtrl_of_ne t hother, hctrls, withCtrl_of_ne s hother]

/-- The operations of the driver on the sensor of the negotiation model, where all but
flips and formats do nothing. -/
def shownStep (nearest : NearestSize) (a : Imx219) : Imx219Op → Imx219
  | .sCtrl id val => withFlip a id (decide (val ≠ 0))
  | .setPadFormat which format =>
      (SensorImx219.Sensor.imx219SetPadFormat nearest which format a).1
  | .setStream .. | .suspend | .resume | .othersHold _ => a

theorem Shows.step (nearest : NearestSize) {a : Imx219} {s : Imx219Device} (h : Shows a s)
    {op : Imx219Op} (htaken : FlipTaken s op) :
    Shows (shownStep nearest a op) (imx219Step nearest s op) := by
  cases op with
  | sCtrl id val =>
      by_cases hid : id ∈ [Imx219Ctrl.hflip, .vflip]
      · exact h.flipTaken hid htaken
      · have hstable : StableOn [id, .exposure] (Shows a) := by
          refine shows_stableOn (fun flip hflip hmem => ?_) a
          rcases List.mem_cons.mp hmem with rfl | hmem
          · exact hid hflip
          · rw [List.mem_singleton.mp hmem] at hflip
            exact absurd hflip (by decide)
        change Shows (withFlip a id _) (v4l2SCtrl id val s)
        rw [withFlip_of_notMem a hid]
        unfold v4l2SCtrl
        split
        · exact h
        · split
          · exact hstable.ctrl s id _ (by simp) rfl rfl h
          · exact preserves_v4l2SetCtrl hstable (preserves_imx219SetCtrl hstable (by simp) id)
              (by simp) _ s h
  | setPadFormat which format => exact (h.setPadFormat nearest which format).1
  | setStream | suspend | resume | othersHold =>
      exact (shows_streamStable a).step nearest rfl h

def ShownBy (s : Imx219Device) (sensor : BoardSensor) : Prop :=
  ∃ a, sensor = .imx219 a ∧ Shows a s

theorem refines_device (nearest : NearestSize) :
    Refines (devicePadOps nearest) (sensorPadOps nearest) ShownBy where
  setFmt := by
    rintro s - ⟨a, rfl, h⟩ mf
    obtain ⟨hshown, hanswer⟩ := h.setPadFormat nearest .active mf
    exact ⟨⟨_, rfl, hshown⟩, congrArg (·, (.ok () : Ret)) hanswer.symm⟩
  getFmt := by
    rintro s - ⟨a, rfl, h⟩
    refine ⟨⟨a, rfl, h⟩, ?_⟩
    change Except.ok (imx219UpdatePadFormat s.mode ⟨imx219GetFormatCode s s.fmt.code, 0, 0⟩) =
      Except.ok (imx219UpdatePadFormat a.mode
        ⟨SensorImx219.Sensor.imx219GetFormatCode a a.fmt.code, 0, 0⟩)
    rw [h.getFormatCode, h.fmt, h.mode]

/-- A camera: the receiver with the sensor behind it, and the capture device. -/
structure Camera (ρ : Type) where
  csis : CsiState ρ
  cap : MxcIsiCapDev

/-- What users do to a camera: to its sensor, and S_FMT and the negotiation of a stream
start at its capture node. -/
inductive CameraCall where
  | sensor (op : Imx219Op)
  | sFmt (busy : Bool) (pix : V4l2PixFormatMplane)
  | start (remote : Bool)

/-- The result of an S_FMT or of a start, or the format that the sensor leaves in a
request. -/
inductive CameraAnswer where
  | ret (ret : Ret)
  | format (mf : MbusFramefmt)
  deriving DecidableEq

section Camera

variable {ρ : Type} (ops : PadOps ρ) (sensorCall : ρ → Imx219Op → ρ × Option MbusFramefmt)

/-- A call, and what of its answer the negotiation is about. A control, a stream or a
suspend is answered by the bus and the power of the sensor: that answer is left out. -/
def cameraCall (c : Camera ρ) : CameraCall → Camera ρ × Option CameraAnswer
  | .sensor op =>
      let (sensor, filled) := sensorCall c.csis.sensor op
      (⟨{ c.csis with sensor := sensor }, c.cap⟩, filled.map .format)
  | .sFmt busy pix =>
      let (cap, _, ret) := mxcIsiCapSFmtMplane c.cap busy pix
      (⟨c.csis, cap⟩, some (.ret ret))
  | .start remote =>
      let (csis, cap, ret) := mxcIsiSourceFmtInit (mipiCsisPadOps ops) remote c.csis c.cap
      (⟨csis, cap⟩, some (.ret ret))

def cameraStep (c : Camera ρ) (call : CameraCall) : Camera ρ :=
  (cameraCall ops sensorCall c call).1

def answers (c : Camera ρ) (calls : List CameraCall) : List CameraAnswer :=
  trace (cameraStep ops sensorCall) (fun c call => (cameraCall ops sensorCall c call).2.toList)
    c calls

end Camera

/-- The operations of the whole driver, with the format that `set_fmt` fills in. -/
def deviceCall (nearest : NearestSize) (s : Imx219Device) (op : Imx219Op) :
    Imx219Device × Option MbusFramefmt :=
  (imx219Step nearest s op,
    match op with
    | .setPadFormat which format => some (imx219SetPadFormat nearest which format s).2
    | .sCtrl .. | .setStream .. | .suspend | .resume | .othersHold _ => none)

abbrev driverStep (nearest : NearestSize) :
    Camera Imx219Device → CameraCall → Camera Imx219Device :=
  cameraStep (devicePadOps nearest) (deviceCall nearest)

def boardCall (nearest : NearestSize) :
    BoardSensor → Imx219Op → BoardSensor × Option MbusFramefmt
  | .imx219 a, op =>
      (.imx219 (shownStep nearest a op),
        match op with
        | .setPadFormat which format =>
            some (SensorImx219.Sensor.imx219SetPadFormat nearest which format a).2
        | .sCtrl .. | .setStream .. | .suspend | .resume | .othersHold _ => none)
  | .ov5648 s, _ => (.ov5648 s, none)

abbrev modelStep (nearest : NearestSize) : Camera BoardSensor → CameraCall → Camera BoardSensor :=
  cameraStep (sensorPadOps nearest) (boardCall nearest)

/-- No change of a flip is refused or fails. -/
def CallTaken (c : Camera Imx219Device) : CameraCall → Prop
  | .sensor op => FlipTaken c.csis.sensor op
  | .sFmt .. | .start _ => True

structure CameraRelated (c : Camera Imx219Device) (m : Camera BoardSensor) : Prop where
  csis : ReceiverRelated ShownBy c.csis m.csis
  cap : c.cap = m.cap

theorem cameraCall_related (nearest : NearestSize) {c : Camera Imx219Device}
    {m : Camera BoardSensor} (h : CameraRelated c m) {call : CameraCall}
    (htaken : CallTaken c call) :
    (cameraCall (devicePadOps nearest) (deviceCall nearest) c call).2 =
        (cameraCall (sensorPadOps nearest) (boardCall nearest) m call).2 ∧
      CameraRelated (cameraCall (devicePadOps nearest) (deviceCall nearest) c call).1
        (cameraCall (sensorPadOps nearest) (boardCall nearest) m call).1 := by
  cases call with
  | sensor op =>
      obtain ⟨a, ha, hshows⟩ := h.csis.sensor
      have hrun : boardCall nearest m.csis.sensor op = boardCall nearest (.imx219 a) op :=
        congrArg (boardCall nearest · op) ha
      have hfilled : (deviceCall nearest c.csis.sensor op).2 =
          (boardCall nearest m.csis.sensor op).2 := by
        rw [hrun]
        cases op with
        | setPadFormat which format =>
            exact congrArg some (hshows.setPadFormat nearest which format).2.symm
        | sCtrl | setStream | suspend | resume | othersHold => rfl
      refine ⟨congrArg (Option.map CameraAnswer.format) hfilled,
        ⟨h.csis.csisFmt, h.csis.format, h.csis.remoteSensor, ?_⟩, h.cap⟩
      exact ⟨shownStep nearest a op, congrArg Prod.fst hrun, hshows.step nearest htaken⟩
  | sFmt busy pix =>
      unfold cameraCall
      rw [h.cap]
      exact ⟨rfl, h.csis, rfl⟩
  | start remote =>
      obtain ⟨hafter, hsame⟩ := sourceFmtInit_refines (refines_mipiCsis (refines_device nearest))
        remote h.csis c.cap
      unfold cameraCall
      rw [← h.cap]
      exact ⟨congrArg (fun r => some (CameraAnswer.ret r.2)) hsame, hafter,
        congrArg Prod.fst hsame⟩

/-- While no change of a flip is refused or fails, the whole driver and the sensor of the
negotiation model answer alike, and leave the same receiver and capture device. -/
theorem run_related (nearest : NearestSize) {c : Camera Imx219Device} {m : Camera BoardSensor}
    (h : CameraRelated c m) {calls : List CameraCall}
    (htaken : Along (driverStep nearest) CallTaken c calls) :
    answers (devicePadOps nearest) (deviceCall nearest) c calls =
        answers (sensorPadOps nearest) (boardCall nearest) m calls ∧
      CameraRelated (exec (driverStep nearest) c calls) (exec (modelStep nearest) m calls) := by
  refine trace_related (fun c m call h htaken => ?_) h htaken
  obtain ⟨hanswer, hafter⟩ := cameraCall_related nearest h htaken
  exact ⟨congrArg Option.toList hanswer, hafter⟩

def probedSensor (tryFmt : MbusFramefmt) : Imx219 where
  fmt := ⟨mediaBusFmtSrggb10_1x10, 3280, 2464⟩
  tryFmt := tryFmt
  mode := imx219Mode0
  hflip := false
  vflip := false
  vblank := ⟨4, 63071, 1, 1062, 1062⟩
  exposure := ⟨4, 3522, 1, 1600, 1600⟩
  hblank := ⟨168, 168, 1, 168, 168⟩

theorem shows_probed (client : Imx219Client) (tryFmt : MbusFramefmt) :
    Shows (probedSensor tryFmt) (probedDevice client tryFmt) where
  fmt := rfl
  mode := rfl
  hflip := ⟨rfl, rfl, rfl, rfl⟩
  vflip := ⟨rfl, rfl, rfl, rfl⟩

def withSensor {ρ τ : Type} (c : Camera ρ) (sensor : τ) : Camera τ :=
  ⟨⟨c.csis.csisFmt, c.csis.format, c.csis.remoteSensor, sensor⟩, c.cap⟩

def probedCamera (c : Camera Unit) (client : Imx219Client) (tryFmt : MbusFramefmt) :
    Camera Imx219Device :=
  withSensor c (probedDevice client tryFmt)

def probedModel (c : Camera Unit) (tryFmt : MbusFramefmt) : Camera BoardSensor :=
  withSensor c (.imx219 (probedSensor tryFmt))

theorem probed_related (c : Camera Unit) (client : Imx219Client) (tryFmt : MbusFramefmt) :
    CameraRelated (probedCamera c client tryFmt) (probedModel c tryFmt) :=
  ⟨⟨rfl, rfl, rfl, _, rfl, shows_probed client tryFmt⟩, rfl⟩

/-- From probe on, while no change of a flip is refused or fails, the whole driver answers as
the sensor of the negotiation model does, and leaves the same receiver and capture device. -/
theorem driver_refines (nearest : NearestSize) (c : Camera Unit) (client : Imx219Client)
    (tryFmt : MbusFramefmt) {calls : List CameraCall}
    (htaken : Along (driverStep nearest) CallTaken (probedCamera c client tryFmt) calls) :
    answers (devicePadOps nearest) (deviceCall nearest) (probedCamera c client tryFmt) calls =
        answers (sensorPadOps nearest) (boardCall nearest) (probedModel c tryFmt) calls ∧
      CameraRelated (exec (driverStep nearest) (probedCamera c client tryFmt) calls)
        (exec (modelStep nearest) (probedModel c tryFmt) calls) :=
  run_related nearest (probed_related c client tryFmt) htaken

def board : Camera Unit := ⟨⟨mipiCsisFormat0, ⟨0, 0, 0⟩, true, ()⟩, boardCapture⟩

def boardClient : Imx219Client := ⟨⟨fun _ => 0#8, fun _ => 0#8, []⟩, []⟩

def flipAfterStream : List CameraCall :=
  [.sensor (.setStream true none), .sensor (.setStream false none), .sensor (.sCtrl .hflip 1)]

theorem flipAfterStream_taken : Along (driverStep leastError) CallTaken
    (probedCamera board boardClient ⟨mediaBusFmtSrggb10_1x10, 3280, 2464⟩) flipAfterStream := by
  refine ⟨trivial, trivial, fun _ => ⟨1, ?_, ?_⟩, trivial⟩
  · decide +kernel
  · decide +kernel

def flippedCapture : List CameraCall :=
  flipAfterStream ++ [.sensor (.setPadFormat .active ⟨mediaBusFmtSgrbg8_1x8, 1920, 1080⟩),
    .sFmt false (pix1080p v4l2PixFmtSgrbg8), .start true]

theorem driver_refines_flippedCapture :
    answers (devicePadOps leastError) (deviceCall leastError)
        (probedCamera board boardClient ⟨mediaBusFmtSrggb10_1x10, 3280, 2464⟩) flippedCapture =
        answers (sensorPadOps leastError) (boardCall leastError)
          (probedModel board ⟨mediaBusFmtSrggb10_1x10, 3280, 2464⟩) flippedCapture ∧
      CameraRelated (exec (driverStep leastError)
          (probedCamera board boardClient ⟨mediaBusFmtSrggb10_1x10, 3280, 2464⟩) flippedCapture)
        (exec (modelStep leastError)
          (probedModel board ⟨mediaBusFmtSrggb10_1x10, 3280, 2464⟩) flippedCapture) :=
  driver_refines leastError board boardClient _
    (along_append.mpr ⟨flipAfterStream_taken, trivial, trivial, trivial, trivial⟩)

/-- The three drivers agree on the format of the row, the IMX219 driver in all its state. -/
structure CameraAgreement (fmt : MxcIsiFmt) (c : Camera Imx219Device) : Prop where
  code : (imx219GetPadFormat .active c.csis.sensor).2.code = fmt.mbusCode
  receiver : findCsisFormat fmt.mbusCode = some c.csis.csisFmt
  width : c.cap.srcF.width = (imx219GetPadFormat .active c.csis.sensor).2.width
  height : c.cap.srcF.height = (imx219GetPadFormat .active c.csis.sensor).2.height

theorem CameraRelated.agreement_iff {c : Camera Imx219Device} {m : Camera BoardSensor}
    (h : CameraRelated c m) (fmt : MxcIsiFmt) :
    CameraAgreement fmt c ↔ RawAgreement fmt m.csis m.cap := by
  have hactive : (imx219GetPadFormat .active c.csis.sensor).2 = activeFormat m.csis.sensor := by
    have hget := ((refines_device leastError).getFmt h.csis.sensor).2
    rw [sensor_getFmt] at hget
    exact Except.ok.inj hget
  constructor
  · rintro ⟨hcode, hreceiver, hwidth, hheight⟩
    rw [hactive] at hcode hwidth hheight
    rw [h.cap] at hwidth hheight
    exact ⟨hcode, hreceiver.trans (congrArg some h.csis.csisFmt), hwidth, hheight⟩
  · rintro ⟨hcode, hreceiver, hwidth, hheight⟩
    rw [← hactive] at hcode hwidth hheight
    rw [← h.cap] at hwidth hheight
    exact ⟨hcode, hreceiver.trans (congrArg some h.csis.csisFmt.symm), hwidth, hheight⟩

theorem codeOrder_inj : ∀ i < 8, ∀ j < 8, i / 4 = j / 4 →
    codeOrder (imx219Codes.getD i 0) = codeOrder (imx219Codes.getD j 0) → i = j := by
  decide

theorem codeOrder_mem {code : U32} {order : BayerOrder} (h : codeOrder code = some order) :
    code ∈ imx219Codes := by
  unfold codeOrder at h
  split at h
  · rename_i hcode
    rcases hcode with rfl | rfl <;> decide
  · split at h
    · rename_i hcode
      rcases hcode with rfl | rfl <;> decide
    · split at h
      · rename_i hcode
        rcases hcode with rfl | rfl <;> decide
      · split at h
        · rename_i hcode
          rcases hcode with rfl | rfl <;> decide
        · exact absurd h nofun

/-- The sensor sends a code as it is when its order is the one asked of the flips. -/
theorem getFormatCode_self_iff (s : Imx219Device) (code : U32) :
    imx219GetFormatCode s code = code ↔ codeOrder code = some (askedOrder s) := by
  constructor
  · intro h
    rw [← codeOrder_getFormatCode s code, h]
  · intro horder
    have hmem := codeOrder_mem horder
    have hgroup := codeGroup_lt code
    have hflips := flipIndex_lt s
    have hsame := codeOrder_getFormatCode s code
    rw [← horder, getFormatCode_eq] at hsame
    have hindex : codeGroup code * 4 + flipIndex s = codeIndex code := by
      apply codeOrder_inj _ (by omega) _ (codeIndex_lt code)
      · change _ = codeGroup code
        omega
      · rw [getD_codeIndex hmem]
        exact hsame
    rw [getFormatCode_eq, hindex, getD_codeIndex hmem]

theorem Shows.flipsCurrent {a : Imx219} {s : Imx219Device} (h : Shows a s) : FlipsCurrent s := by
  intro id hid
  obtain ⟨on, hshown⟩ := h.flipShown hid
  have hsame := hshown.val.symm.trans hshown.cur
  simpa [not_iff_not] using hsame

theorem delivers_iff {s : Imx219Device} {sensor : BoardSensor} (h : ShownBy s sensor)
    (code : U32) : Delivers sensor code ↔ codeOrder code = some (currentOrder s) := by
  obtain ⟨a, rfl, hshows⟩ := h
  change SensorImx219.Sensor.imx219GetFormatCode a code = code ↔ _
  rw [hshows.getFormatCode, getFormatCode_self_iff,
    (askedOrder_eq_iff s).mpr hshows.flipsCurrent]

/-- After an S_FMT with a raw format, a negotiation of the model that succeeds ends in
agreement exactly when the sensor delivers the code. -/
theorem negotiated_agreement_iff (nearest : NearestSize) {remote : Bool}
    {csis : CsiState BoardSensor} (hclock : Clocked csis.sensor) {cap : MxcIsiCapDev}
    {fmt : MxcIsiFmt} (hrow : fmt ∈ mxcIsiOutFormats) (hraw : RawRow fmt)
    (hdst : cap.dstF.fmt = some fmt) (hok : (negotiate nearest remote csis cap).2.2 = .ok ()) :
    RawAgreement fmt (negotiate nearest remote csis cap).1
        (negotiate nearest remote csis cap).2.1 ↔
      Delivers csis.sensor fmt.mbusCode := by
  have hrequest : (⟨fmt.mbusCode, cap.dstF.width, cap.dstF.height⟩ : MbusFramefmt) =
      ⟨(frameFmt cap.dstF).mbusCode, cap.dstF.width, cap.dstF.height⟩ := by
    rw [frameFmt, hdst]
    rfl
  rcases negotiate_outcome nearest remote hclock hrequest with
    ⟨-, hfails⟩ | ⟨-, -, hcode, hreceiver, hwidth, hheight⟩
  · exact absurd hok hfails
  · rw [← givenCode_eq_iff]
    constructor
    · intro hagreement
      exact hcode.symm.trans hagreement.code
    · intro hgiven
      obtain ⟨row, hfound⟩ := csisRow_of_raw hrow hraw
      dsimp only at hreceiver
      rw [hgiven] at hreceiver
      refine ⟨hcode.trans hgiven, ?_, hwidth, hheight⟩
      rw [hreceiver row hfound, hfound]

/-- A stream start after an S_FMT. -/
def startAfterSFmt (nearest : NearestSize) (c : Camera Imx219Device) (busy : Bool)
    (pix : V4l2PixFormatMplane) (remote : Bool) : Camera Imx219Device × Option CameraAnswer :=
  cameraCall (devicePadOps nearest) (deviceCall nearest)
    (driverStep nearest c (.sFmt busy pix)) (.start remote)

theorem CameraRelated.agreement_after_start (nearest : NearestSize) {c : Camera Imx219Device}
    {m : Camera BoardSensor} (h : CameraRelated c m) {busy : Bool} {pix : V4l2PixFormatMplane}
    {fmt : MxcIsiFmt} (hrow : fmt ∈ mxcIsiOutFormats) (hraw : RawRow fmt)
    (hfourcc : pix.pixelformat = fmt.fourcc)
    (hset : (mxcIsiCapSFmtMplane c.cap busy pix).2.2 = .ok ()) {remote : Bool}
    (hstart : (startAfterSFmt nearest c busy pix remote).2 = some (.ret (.ok ()))) :
    CameraAgreement fmt (startAfterSFmt nearest c busy pix remote).1 ↔
      codeOrder fmt.mbusCode = some (currentOrder c.csis.sensor) := by
  obtain ⟨-, hformat⟩ := cameraCall_related nearest h
    (show CallTaken c (.sFmt busy pix) from trivial)
  obtain ⟨hanswer, hended⟩ := cameraCall_related nearest hformat
    (show CallTaken _ (.start remote) from trivial)
  obtain ⟨a, ha, -⟩ := h.csis.sensor
  have hclock : Clocked m.csis.sensor := by
    rw [ha]
    trivial
  have hdst : (mxcIsiCapSFmtMplane m.cap busy pix).1.dstF.fmt = some fmt := by
    rw [← h.cap]
    exact (sFmt_ok hset hrow hfourcc).1
  have hok : (negotiate nearest remote m.csis (mxcIsiCapSFmtMplane m.cap busy pix).1).2.2 =
      .ok () := CameraAnswer.ret.inj (Option.some.inj (hanswer.symm.trans hstart))
  rw [← delivers_iff h.csis.sensor, ← negotiated_agreement_iff nearest hclock hrow hraw hdst hok]
  exact hended.agreement_iff fmt

/-- From probe on, while no change of a flip is refused or fails: a stream start that succeeds
with a raw format ends in agreement exactly when the order of the format is the one that the
flips make. -/
theorem start_agrees_iff (nearest : NearestSize) (c : Camera Unit) (client : Imx219Client)
    (tryFmt : MbusFramefmt) {calls : List CameraCall}
    (htaken : Along (driverStep nearest) CallTaken (probedCamera c client tryFmt) calls)
    {busy : Bool} {pix : V4l2PixFormatMplane} {fmt : MxcIsiFmt} (hrow : fmt ∈ mxcIsiOutFormats)
    (hraw : RawRow fmt) (hfourcc : pix.pixelformat = fmt.fourcc)
    (hset : (mxcIsiCapSFmtMplane (exec (driverStep nearest) (probedCamera c client tryFmt)
      calls).cap busy pix).2.2 = .ok ())
    {remote : Bool} (hstart : (startAfterSFmt nearest (exec (driverStep nearest)
      (probedCamera c client tryFmt) calls) busy pix remote).2 = some (.ret (.ok ()))) :
    CameraAgreement fmt (startAfterSFmt nearest (exec (driverStep nearest)
        (probedCamera c client tryFmt) calls) busy pix remote).1 ↔
      codeOrder fmt.mbusCode = some (currentOrder (exec (driverStep nearest)
        (probedCamera c client tryFmt) calls).csis.sensor) :=
  (run_related nearest (probed_related c client tryFmt) htaken).2.agreement_after_start nearest hrow
    hraw hfourcc hset hstart

/-- The filter is GRBG behind a horizontal flip. -/
theorem grbg_agrees : CameraAgreement (bayerRow v4l2PixFmtSgrbg8 mediaBusFmtSgrbg8_1x8)
    (startAfterSFmt leastError (exec (driverStep leastError)
      (probedCamera board boardClient ⟨mediaBusFmtSrggb10_1x10, 3280, 2464⟩) flipAfterStream)
      false (pix1080p v4l2PixFmtSgrbg8) true).1 := by
  refine (start_agrees_iff leastError board boardClient ⟨mediaBusFmtSrggb10_1x10, 3280, 2464⟩
    flipAfterStream_taken
    (show bayerRow v4l2PixFmtSgrbg8 mediaBusFmtSgrbg8_1x8 ∈ mxcIsiOutFormats by decide)
    (by decide) rfl ?_ ?_).mpr ?_
  · decide +kernel
  · decide +kernel
  · decide +kernel

end CameraPorting.Pipeline.SensorRefinement
