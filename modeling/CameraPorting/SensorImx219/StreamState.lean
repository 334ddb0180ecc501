import CameraPorting.Library.Runs
import CameraPorting.SensorImx219.Driver

namespace CameraPorting.SensorImx219.StreamState

open CameraPorting.Kernel.Media
open CameraPorting.Kernel.I2c
open CameraPorting.Library.Runs
open CameraPorting.SensorImx219.Sensor hiding imx219GetFormatCode imx219GetPadFormat
  imx219SetPadFormat updateExposure updateLimits
open CameraPorting.SensorImx219.RegisterLists
open CameraPorting.SensorImx219.Driver

@[simp] theorem withCtrl_self (s : Imx219Device) (id : Imx219Ctrl) (ctrl : V4l2Ctrl) :
    (withCtrl s id ctrl).ctrls id = ctrl :=
  Function.update_self ..

theorem withCtrl_of_ne (s : Imx219Device) {id other : Imx219Ctrl} (h : other ≠ id)
    (ctrl : V4l2Ctrl) : (withCtrl s id ctrl).ctrls other = s.ctrls other :=
  Function.update_of_ne h ..

theorem applyCtrl_ctrls (id : Imx219Ctrl) (s : Imx219Device) :
    (applyCtrl id s).2.ctrls = s.ctrls := by
  unfold applyCtrl
  split
  · rfl
  · rfl

/-- What setting a value leaves: the value that was asked for, with what `s_ctrl` made of
it, made current or not. -/
theorem v4l2SetCtrl_outcome (sCtrl : Imx219Routine Unit) (id : Imx219Ctrl) (val : Int)
    (s : Imx219Device) :
    (v4l2SetCtrl sCtrl id val s).2 = withCtrl s id ((s.ctrls id).withVal val) ∨
      ∃ t, (sCtrl (withCtrl s id ((s.ctrls id).withVal val))).2 = t ∧
        ((v4l2SetCtrl sCtrl id val s).2 = t ∨
          (v4l2SetCtrl sCtrl id val s).2 = withCtrl t id ((t.ctrls id).withCur val)) := by
  unfold v4l2SetCtrl
  dsimp only
  split
  · exact .inl rfl
  · split
    · exact .inl rfl
    · rcases sCtrl (withCtrl s id ((s.ctrls id).withVal val)) with ⟨e | _, t⟩
      · exact .inr ⟨t, rfl, .inl rfl⟩
      · exact .inr ⟨t, rfl, .inr rfl⟩

theorem v4l2SetCtrl_ok_inv {sCtrl : Imx219Routine Unit} {id : Imx219Ctrl} {val : Int}
    {s : Imx219Device} (h : (v4l2SetCtrl sCtrl id val s).1 = .ok ()) :
    (val = (s.ctrls id).cur ∧
        (v4l2SetCtrl sCtrl id val s).2 = withCtrl s id ((s.ctrls id).withVal val)) ∨
      ∃ t, sCtrl (withCtrl s id ((s.ctrls id).withVal val)) = (.ok (), t) ∧
        (v4l2SetCtrl sCtrl id val s).2 = withCtrl t id ((t.ctrls id).withCur val) := by
  unfold v4l2SetCtrl at h ⊢
  dsimp only at h ⊢
  split at h
  · exact absurd h nofun
  · rename_i hgrabbed
    rw [if_neg hgrabbed]
    split at h
    · rename_i hval
      rw [if_pos hval]
      rw [withCtrl_self] at hval
      exact .inl ⟨hval, rfl⟩
    · rename_i hval
      rw [if_neg hval]
      rcases hrun : sCtrl (withCtrl s id ((s.ctrls id).withVal val)) with ⟨e | _, t⟩
      · rw [hrun] at h
        exact absurd h nofun
      · exact .inr ⟨t, rfl, rfl⟩

/-- A property that looks at nothing behind the client. -/
def ClientFree (P : Imx219Device → Prop) : Prop := ∀ s client, P s → P (withClient s client)

section ClientFree

variable {P : Imx219Device → Prop}

theorem ClientFree.preserves_onClient (hP : ClientFree P) {α : Type}
    (x : Driver Imx219Client α) : Preserves P (onClient x) :=
  fun s hs => hP s _ hs

theorem ClientFree.preserves_applyCtrl (hP : ClientFree P) (id : Imx219Ctrl) :
    Preserves P (applyCtrl id) := by
  intro s hs
  unfold applyCtrl
  split
  · exact hP.preserves_onClient _ s hs
  · exact hs

end ClientFree

/-- A property that setting controls cannot break: it survives the writes of the
controls and looks at no control but for the flags that setting leaves alone. -/
structure ControlStable (P : Imx219Device → Prop) : Prop where
  apply : ∀ id, Preserves P (applyCtrl id)
  ctrl : ∀ s id ctrl, ctrl.grabbed = (s.ctrls id).grabbed →
    ctrl.readOnly = (s.ctrls id).readOnly → P s → P (withCtrl s id ctrl)

/-- A property that setting the controls in `ids` cannot break. -/
structure StableOn (ids : List Imx219Ctrl) (P : Imx219Device → Prop) : Prop where
  apply : ∀ id, Preserves P (applyCtrl id)
  ctrl : ∀ s id ctrl, id ∈ ids → ctrl.grabbed = (s.ctrls id).grabbed →
    ctrl.readOnly = (s.ctrls id).readOnly → P s → P (withCtrl s id ctrl)

section StableOn

variable {ids : List Imx219Ctrl} {P : Imx219Device → Prop}

theorem ControlStable.stableOn (hP : ControlStable P) (ids : List Imx219Ctrl) :
    StableOn ids P where
  apply := hP.apply
  ctrl s id ctrl _ := hP.ctrl s id ctrl

theorem preserves_v4l2SetCtrl (hP : StableOn ids P) {sCtrl : Imx219Routine Unit}
    (hsCtrl : Preserves P sCtrl) {id : Imx219Ctrl} (hid : id ∈ ids) (val : Int) :
    Preserves P (v4l2SetCtrl sCtrl id val) := by
  intro s hs
  have hval : P (withCtrl s id ((s.ctrls id).withVal val)) := hP.ctrl s id _ hid rfl rfl hs
  have hset := hsCtrl _ hval
  rcases v4l2SetCtrl_outcome sCtrl id val s with hrun | ⟨t, ht, hrun | hrun⟩
  · rwa [hrun]
  · rwa [hrun, ← ht]
  · rw [hrun, ← ht]
    exact hP.ctrl _ id _ hid rfl rfl hset

theorem modifyRange_stable (hP : StableOn ids P) {sCtrl : Imx219Routine Unit}
    (hsCtrl : Preserves P sCtrl) {id : Imx219Ctrl} (hid : id ∈ ids)
    (minimum maximum step defaultValue : Int) {s : Imx219Device} (hs : P s) :
    P (v4l2CtrlModifyRange sCtrl id minimum maximum step defaultValue s) := by
  unfold v4l2CtrlModifyRange
  split
  · exact hs
  · apply preserves_v4l2SetCtrl hP hsCtrl hid
    exact hP.ctrl s id _ hid rfl rfl hs

theorem updateExposure_stable (hP : StableOn ids P) (hexposure : .exposure ∈ ids)
    (exposureMax : Int) {s : Imx219Device} (hs : P s) : P (updateExposure exposureMax s) :=
  modifyRange_stable hP (hP.apply .exposure) hexposure _ _ _ _ hs

theorem preserves_imx219SetCtrl (hP : StableOn ids P) (hexposure : .exposure ∈ ids)
    (id : Imx219Ctrl) : Preserves P (imx219SetCtrl id) := by
  intro s hs
  unfold imx219SetCtrl
  split
  · exact hP.apply .vblank _ (updateExposure_stable hP hexposure _ hs)
  · exact hP.apply id s hs

theorem updateLimits_stable (hP : StableOn [.vblank, .exposure, .hblank] P)
    (mode : Imx219Mode) {s : Imx219Device} (hs : P s) : P (updateLimits mode s) := by
  have hsCtrl := preserves_imx219SetCtrl hP (by simp)
  unfold updateLimits
  apply modifyRange_stable hP (hsCtrl .hblank) (by simp)
  apply updateExposure_stable hP (by simp)
  apply preserves_v4l2SetCtrl hP (hsCtrl .vblank) (by simp)
  exact modifyRange_stable hP (hsCtrl .vblank) (by simp) _ _ _ _ hs

end StableOn

section ControlStable

variable {P : Imx219Device → Prop}

theorem v4l2SCtrl_stable (hP : ControlStable P) (id : Imx219Ctrl) (val : Int)
    {s : Imx219Device} (hs : P s) : P (v4l2SCtrl id val s) := by
  have hon := hP.stableOn [id, .exposure]
  unfold v4l2SCtrl
  split
  · exact hs
  · split
    · exact hP.ctrl s id _ rfl rfl hs
    · exact preserves_v4l2SetCtrl hon (preserves_imx219SetCtrl hon (by simp) id) (by simp) _ s hs

/-- The set-up of the controls sets each to the value it has. -/
theorem handlerSetup_of_setup
    (hsetup : ∀ id s, P s →
      P (imx219SetCtrl id (withCtrl s id ((s.ctrls id).withVal (s.ctrls id).cur))).2)
    (ids : List Imx219Ctrl) : Preserves P (v4l2CtrlHandlerSetup ids) := by
  induction ids with
  | nil => exact preserves_pure ()
  | cons id rest ih =>
      unfold v4l2CtrlHandlerSetup
      apply preserves_get_bind
      intro s hs
      dsimp only
      split
      · have hset := hsetup id s hs
        rw [driver_bind_ok (driver_modify _ s)]
        rcases hrun : imx219SetCtrl id (withCtrl s id ((s.ctrls id).withVal (s.ctrls id).cur))
          with ⟨e | _, t⟩
        · rw [driver_bind_error hrun]
          rwa [hrun] at hset
        · rw [driver_bind_ok hrun]
          rw [hrun] at hset
          exact ih t hset
      · exact ih s hs

theorem ControlStable.setup (hP : ControlStable P) (id : Imx219Ctrl) (s : Imx219Device)
    (hs : P s) :
    P (imx219SetCtrl id (withCtrl s id ((s.ctrls id).withVal (s.ctrls id).cur))).2 := by
  apply preserves_imx219SetCtrl (hP.stableOn [.exposure]) (by simp)
  exact hP.ctrl s id _ rfl rfl hs

theorem preserves_handlerSetup (hP : ControlStable P) (ids : List Imx219Ctrl) :
    Preserves P (v4l2CtrlHandlerSetup ids) :=
  handlerSetup_of_setup hP.setup ids

theorem startStreaming_stable (hP : ControlStable P) (hclient : ClientFree P) :
    Preserves P imx219StartStreaming := by
  unfold imx219StartStreaming
  apply preserves_get_bind
  intro s hs
  refine preserves_bind (hclient.preserves_onClient _) (fun _ => ?_) s hs
  refine preserves_bind (hclient.preserves_onClient _) fun _ => ?_
  refine preserves_bind (preserves_handlerSetup hP _) fun _ => ?_
  exact hclient.preserves_onClient _

end ControlStable

theorem onClient_bind {α β : Type} (x : Driver Imx219Client α) (f : α → Driver Imx219Client β) :
    onClient (x >>= f) = onClient x >>= fun a => onClient (f a) := by
  funext s
  rcases hrun : x s.client with ⟨e | a, client⟩
  · have hfirst : onClient x s = (.error e, withClient s client) := by
      unfold onClient
      rw [hrun]
    rw [driver_bind_error hfirst]
    unfold onClient
    rw [driver_bind_error hrun]
  · have hfirst : onClient x s = (.ok a, withClient s client) := by
      unfold onClient
      rw [hrun]
    rw [driver_bind_ok hfirst]
    unfold onClient
    rw [driver_bind_ok hrun]
    rfl

/-- A property that starting and stopping streams cannot break: it survives the writes
of two bytes, the power-ups, the flags and the grabs, and setting a control to the value
it has. -/
structure StreamStable (P : Imx219Device → Prop) : Prop where
  write : ∀ reg len (val : U32), val.toNat ≤ 0xffff →
    Preserves P (onClient (imx219WriteReg reg len val))
  setup : ∀ id s, P s →
    P (imx219SetCtrl id (withCtrl s id ((s.ctrls id).withVal (s.ctrls id).cur))).2
  grab : ∀ grabbed s, P s → P (grabFlips grabbed s)
  powerUp : ∀ s, P s → P (powerUp s)
  flags : ∀ s streaming pmRefs othersHold, P s →
    P { s with streaming := streaming, pmRefs := pmRefs, othersHold := othersHold }

section StreamStable

variable {P : Imx219Device → Prop}

theorem StreamStable.writeRegs (hP : StreamStable P) (regs : List Imx219Reg) :
    Preserves P (onClient (imx219WriteRegs regs)) := by
  induction regs with
  | nil => exact fun _ hs => hs
  | cons reg rest ih =>
      unfold imx219WriteRegs
      rw [onClient_bind]
      refine preserves_bind (hP.write _ _ _ ?_) fun _ => ih
      rw [BitVec.toNat_setWidth]
      have hbyte := reg.val.isLt
      omega

theorem StreamStable.setFramefmt (hP : StreamStable P) (code : U32) :
    Preserves P (onClient (imx219SetFramefmt code)) := by
  unfold imx219SetFramefmt
  split
  · exact hP.writeRegs _
  · split
    · exact hP.writeRegs _
    · exact fun _ hs => hs

theorem StreamStable.startStreaming (hP : StreamStable P) :
    Preserves P imx219StartStreaming := by
  unfold imx219StartStreaming
  apply preserves_get_bind
  intro s hs
  refine preserves_bind (hP.writeRegs _) (fun _ => ?_) s hs
  refine preserves_bind (hP.setFramefmt _) fun _ => ?_
  refine preserves_bind (handlerSetup_of_setup hP.setup imx219Ctrls) fun _ => ?_
  exact hP.write _ _ _ (by decide)

theorem StreamStable.stopStreaming (hP : StreamStable P) {s : Imx219Device} (hs : P s) :
    P (imx219StopStreaming s) :=
  hP.write _ _ _ (by decide) s hs

theorem StreamStable.setStream (hP : StreamStable P) (enable : Bool) (denied : Option Errno) :
    Preserves P (imx219SetStream enable denied) := by
  intro s hs
  unfold imx219SetStream
  split
  · exact hs
  · split
    · cases denied with
      | some e => exact hP.flags s s.streaming (s.pmRefs + 1 - 1) s.othersHold hs
      | none =>
          have hgot : P (pmRuntimeGet s) :=
            hP.flags (Driver.powerUp s) _ (s.pmRefs + 1) _ (hP.powerUp s hs)
          have hstart := hP.startStreaming _ hgot
          dsimp only
          rcases hrun : imx219StartStreaming (pmRuntimeGet s) with ⟨e | _, t⟩
          · rw [hrun] at hstart
            exact hP.flags t t.streaming (t.pmRefs - 1) t.othersHold hstart
          · rw [hrun] at hstart
            exact hP.grab true _ (hP.flags t true t.pmRefs t.othersHold hstart)
    · exact hP.grab false _ (hP.flags (imx219StopStreaming s) false
        ((imx219StopStreaming s).pmRefs - 1) _ (hP.stopStreaming hs))

theorem StreamStable.resume (hP : StreamStable P) : Preserves P imx219Resume := by
  intro s hs
  have hstart := hP.startStreaming s hs
  unfold imx219Resume
  split
  · rcases hrun : imx219StartStreaming s with ⟨e | _, t⟩
    · rw [hrun] at hstart
      exact hP.flags _ false _ _ (hP.stopStreaming hstart)
    · rwa [hrun] at hstart
  · exact hs

/-- Any operation that sets neither a control nor a format. -/
def managesStream : Imx219Op → Bool
  | .sCtrl .. | .setPadFormat .. => false
  | .setStream .. | .suspend | .resume | .othersHold _ => true

theorem StreamStable.step (hP : StreamStable P) (nearest : NearestSize) {op : Imx219Op}
    (hop : managesStream op = true) {s : Imx219Device} (hs : P s) :
    P (imx219Step nearest s op) := by
  cases op with
  | sCtrl | setPadFormat => exact absurd hop Bool.false_ne_true
  | setStream enable denied => exact hP.setStream enable denied s hs
  | suspend =>
      change P (imx219Suspend s)
      unfold imx219Suspend
      split
      · exact hP.stopStreaming hs
      · exact hs
  | resume => exact hP.resume s hs
  | othersHold held =>
      cases held with
      | false => exact hP.flags s _ _ false hs
      | true => exact hP.flags (Driver.powerUp s) _ _ true (hP.powerUp s hs)

end StreamStable

/-- The streaming state of the driver: the flag, the references and the grabbed flips. -/
structure SameStreamState (s t : Imx219Device) : Prop where
  streaming : t.streaming = s.streaming
  pmRefs : t.pmRefs = s.pmRefs
  vflip : (t.ctrls .vflip).grabbed = (s.ctrls .vflip).grabbed
  hflip : (t.ctrls .hflip).grabbed = (s.ctrls .hflip).grabbed

theorem sameStreamState_clientFree (s : Imx219Device) : ClientFree (SameStreamState s) :=
  fun _ _ ht => { ht with }

theorem sameStreamState_controlStable (s : Imx219Device) :
    ControlStable (SameStreamState s) where
  apply := (sameStreamState_clientFree s).preserves_applyCtrl
  ctrl t id ctrl hgrabbed _ ht := by
    have hkeep : ∀ other, ((withCtrl t id ctrl).ctrls other).grabbed =
        (t.ctrls other).grabbed := by
      intro other
      rcases eq_or_ne other id with rfl | hother
      · rw [withCtrl_self, hgrabbed]
      · rw [withCtrl_of_ne t hother]
    refine { ht with vflip := ?_, hflip := ?_ }
    · rw [hkeep, ht.vflip]
    · rw [hkeep, ht.hflip]

theorem startStreaming_sameStreamState (s : Imx219Device) :
    SameStreamState s (imx219StartStreaming s).2 :=
  startStreaming_stable (sameStreamState_controlStable s) (sameStreamState_clientFree s) s
    ⟨rfl, rfl, rfl, rfl⟩

theorem setPadFormat_sameStreamState (nearest : NearestSize) (which : FormatWhence)
    (format : MbusFramefmt) (s : Imx219Device) :
    SameStreamState s (imx219SetPadFormat nearest which format s).1 := by
  unfold imx219SetPadFormat
  dsimp only
  split
  · exact ⟨rfl, rfl, rfl, rfl⟩
  · cases which with
    | «try» => exact ⟨rfl, rfl, rfl, rfl⟩
    | active =>
        dsimp only
        split
        · exact updateLimits_stable ((sameStreamState_controlStable s).stableOn _) _
            ⟨rfl, rfl, rfl, rfl⟩
        · exact ⟨rfl, rfl, rfl, rfl⟩

theorem powerUp_sameStreamState (s : Imx219Device) : SameStreamState s (powerUp s) := by
  unfold powerUp
  split
  · exact ⟨rfl, rfl, rfl, rfl⟩
  · exact ⟨rfl, rfl, rfl, rfl⟩

/-- The flag, the reference and the grabs agree. -/
def StreamAgrees (s : Imx219Device) : Prop :=
  (s.streaming = true ∧ s.pmRefs = 1 ∧ (s.ctrls .vflip).grabbed = true ∧
      (s.ctrls .hflip).grabbed = true) ∨
    (s.streaming = false ∧ s.pmRefs = 0 ∧ (s.ctrls .vflip).grabbed = false ∧
      (s.ctrls .hflip).grabbed = false)

instance (s : Imx219Device) : Decidable (StreamAgrees s) := by
  unfold StreamAgrees
  infer_instance

theorem StreamAgrees.of_same {s t : Imx219Device} (hs : StreamAgrees s)
    (h : SameStreamState s t) : StreamAgrees t := by
  unfold StreamAgrees
  rw [h.streaming, h.pmRefs, h.vflip, h.hflip]
  exact hs

/-- A resume of a streaming sensor starts it again. -/
def ResumeStarts (s : Imx219Device) : Imx219Op → Prop
  | .resume => s.streaming = true → (imx219StartStreaming s).1 = .ok ()
  | _ => True

theorem streamAgrees_setStream {s : Imx219Device} (hs : StreamAgrees s) (enable : Bool)
    (denied : Option Errno) : StreamAgrees (imx219SetStream enable denied s).2 := by
  unfold imx219SetStream
  by_cases hsame : s.streaming = enable
  · rw [if_pos hsame]
    exact hs
  · rw [if_neg hsame]
    cases enable with
    | false =>
        rw [if_neg Bool.false_ne_true]
        rcases hs with ⟨-, hrefs, -, -⟩ | ⟨hidle, -⟩
        · refine .inr ⟨rfl, ?_, rfl, rfl⟩
          change s.pmRefs - 1 = 0
          omega
        · exact absurd hidle hsame
    | true =>
        rw [if_pos rfl]
        rcases hs with ⟨hstreaming, -⟩ | ⟨hidle, hrefs, hvflip, hhflip⟩
        · exact absurd hstreaming hsame
        · cases denied with
          | some e =>
              refine .inr ⟨hidle, ?_, hvflip, hhflip⟩
              change s.pmRefs + 1 - 1 = 0
              omega
          | none =>
              have hpower := powerUp_sameStreamState s
              have hgot : (pmRuntimeGet s).pmRefs = 1 := by
                change s.pmRefs + 1 = 1
                omega
              have hstart := startStreaming_sameStreamState (pmRuntimeGet s)
              dsimp only
              rcases hrun : imx219StartStreaming (pmRuntimeGet s) with ⟨e | _, t⟩
              · rw [hrun] at hstart
                refine .inr ⟨?_, ?_, ?_, ?_⟩
                · exact hstart.streaming.trans (hpower.streaming.trans hidle)
                · have hrefs' : t.pmRefs = 1 := hstart.pmRefs.trans hgot
                  change t.pmRefs - 1 = 0
                  omega
                · exact hstart.vflip.trans (hpower.vflip.trans hvflip)
                · exact hstart.hflip.trans (hpower.hflip.trans hhflip)
              · rw [hrun] at hstart
                exact .inl ⟨rfl, hstart.pmRefs.trans hgot, rfl, rfl⟩

theorem streamAgrees_resume {s : Imx219Device} (hs : StreamAgrees s)
    (hstarts : ResumeStarts s .resume) : StreamAgrees (imx219Resume s).2 := by
  unfold imx219Resume
  rcases hstreaming : s.streaming with _ | _
  · exact hs
  · have hstart := startStreaming_sameStreamState s
    have hok := hstarts hstreaming
    rw [if_pos rfl]
    rcases hrun : imx219StartStreaming s with ⟨e | _, t⟩
    · rw [hrun] at hok
      exact absurd hok nofun
    · rw [hrun] at hstart
      exact hs.of_same hstart

/-- A resume that fails forgets the stream but keeps its reference. -/
theorem resumeStarts_of_agrees {s : Imx219Device} (hs : StreamAgrees s)
    (hafter : StreamAgrees (imx219Resume s).2) : ResumeStarts s .resume := by
  intro hstreaming
  have hstart := startStreaming_sameStreamState s
  have hrefs : s.pmRefs = 1 := by
    rcases hs with ⟨-, hrefs, -⟩ | ⟨hidle, -⟩
    · exact hrefs
    · exact absurd (hstreaming.symm.trans hidle) (by decide)
  unfold imx219Resume at hafter
  rw [hstreaming, if_pos rfl] at hafter
  rcases hrun : imx219StartStreaming s with ⟨e | _, t⟩
  · rw [hrun] at hafter hstart
    rcases hafter with ⟨hflag, -⟩ | ⟨-, hzero, -⟩
    · exact absurd hflag Bool.false_ne_true
    · have hone : t.pmRefs = 1 := hstart.pmRefs.trans hrefs
      have hzero' : t.pmRefs = 0 := hzero
      omega
  · rfl

theorem streamAgrees_step (nearest : NearestSize) {s : Imx219Device} (hs : StreamAgrees s)
    {op : Imx219Op} (hop : ResumeStarts s op) : StreamAgrees (imx219Step nearest s op) := by
  cases op with
  | sCtrl id val =>
      exact hs.of_same
        (v4l2SCtrl_stable (sameStreamState_controlStable s) id val ⟨rfl, rfl, rfl, rfl⟩)
  | setPadFormat which format =>
      exact hs.of_same (setPadFormat_sameStreamState nearest which format s)
  | setStream enable denied => exact streamAgrees_setStream hs enable denied
  | suspend =>
      change StreamAgrees (imx219Suspend s)
      unfold imx219Suspend
      split
      · exact hs.of_same ⟨rfl, rfl, rfl, rfl⟩
      · exact hs
  | resume => exact streamAgrees_resume hs hop
  | othersHold held =>
      cases held with
      | false => exact hs.of_same ⟨rfl, rfl, rfl, rfl⟩
      | true => exact hs.of_same { powerUp_sameStreamState s with }

/-- From an agreeing device, whatever fails: flag, reference and grabs agree after every
operation of a run exactly when every resume of a streaming sensor starts it again. -/
theorem streamState_agrees_iff (nearest : NearestSize) {start : Imx219Device}
    (hstart : StreamAgrees start) (ops : List Imx219Op) :
    Always (imx219Step nearest) StreamAgrees start ops ↔
      Along (imx219Step nearest) ResumeStarts start ops := by
  refine always_iff_along_of_exact (E := fun _ _ => True) (fun _ hs => hs)
    (fun s op hs _ hop => streamAgrees_step nearest hs hop) (fun s op hs _ hafter => ?_) hstart
    (along_of_forall (fun _ _ => trivial) start ops)
  cases op with
  | resume => exact resumeStarts_of_agrees hs hafter
  | sCtrl | setPadFormat | setStream | suspend | othersHold => trivial

/-- A sensor that is freshly probed, on a bus with the given faults. -/
def boardDevice (faults : List (Option Errno)) : Imx219Device :=
  probedDevice ⟨⟨fun _ => 0#8, fun _ => 0#8, []⟩, faults⟩ ⟨mediaBusFmtSrggb10_1x10, 3280, 2464⟩

theorem streamState_agrees_board :
    Always (imx219Step leastError) StreamAgrees (boardDevice [])
      [.setStream true none, .suspend, .resume, .setStream false none] := by
  have hstart : StreamAgrees (boardDevice []) := by decide +kernel
  have hstarts : (imx219StartStreaming (imx219Step leastError (imx219Step leastError
      (boardDevice []) (.setStream true none)) .suspend)).1 = .ok () := by
    decide +kernel
  have hresume : ResumeStarts (imx219Step leastError (imx219Step leastError
      (boardDevice []) (.setStream true none)) .suspend) .resume := fun _ => hstarts
  exact (streamState_agrees_iff leastError hstart _).mpr
    ⟨trivial, trivial, hresume, trivial, trivial⟩

/-- A suspend, and a resume whose first write fails: the stream is gone, its reference
and the grabs stay. -/
def failedResume : List Imx219Op := [.setStream true none, .suspend, .resume]

theorem failedResume_keeps_reference :
    ¬Always (imx219Step leastError) StreamAgrees
      (boardDevice (List.replicate 70 none ++ [some .eremoteio])) failedResume := by
  intro hagrees
  have hlast := hagrees.last
  have hend : ¬StreamAgrees (exec (imx219Step leastError)
      (boardDevice (List.replicate 70 none ++ [some .eremoteio])) failedResume) := by
    decide +kernel
  exact hend hlast

end CameraPorting.SensorImx219.StreamState
