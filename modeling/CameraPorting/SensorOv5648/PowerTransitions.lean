import CameraPorting.SensorOv5648.PowerUp

namespace CameraPorting.SensorOv5648.PowerTransitions

open CameraPorting.Kernel.Media
open CameraPorting.Kernel.I2c
open CameraPorting.SensorOv5648.Modes
open CameraPorting.SensorOv5648.RegisterAccess
open CameraPorting.SensorOv5648.Sensor
open CameraPorting.SensorOv5648.PowerUp

def withSuspended (s : Ov5648) (suspended : Bool) : Ov5648 := { s with suspended := suspended }

/-- A property that the initialisation of the sensor cannot break. -/
structure InitStable (P : Ov5648 → Prop) : Prop where
  client : ∀ s client, P s → P (withClient s client)
  reconfigure : ∀ s, P s → P (ov5648StateConfigure s.mode s.mbusCode s).2

/-- A property that power transitions cannot break. -/
structure PowerStable (P : Ov5648 → Prop) : Prop extends InitStable P where
  supplies : ∀ s supplies, P s → P (withSupplies s supplies)
  suspended : ∀ s suspended, P s → P (withSuspended s suspended)

variable {P : Ov5648 → Prop}

theorem preserves_onClient (hP : InitStable P) {α : Type} (x : Routine α) :
    Preserves P (onClient x) := by
  intro s hs
  exact hP.client s (x s.client).2 hs

theorem preserves_sensorInit (hP : InitStable P) : Preserves P ov5648SensorInit := by
  unfold ov5648SensorInit
  iterate 3 refine preserves_bind (preserves_onClient hP _) fun _ => ?_
  apply preserves_get_bind
  intro board hboard
  refine preserves_bind (preserves_onClient hP _) (fun _ => ?_) board hboard
  iterate 5 refine preserves_bind (preserves_onClient hP _) fun _ => ?_
  apply preserves_get_bind
  exact hP.reconfigure

theorem preserves_supplyEnable (hP : PowerStable P) (enable : Supplies → Supplies) :
    Preserves P (supplyEnable enable) := by
  intro s hs
  unfold supplyEnable
  rcases s.supplies.faults with _ | ⟨_ | e, rest⟩
  · exact hP.supplies s _ hs
  · exact hP.supplies s _ hs
  · exact hP.supplies s _ hs

theorem powerOff_stable (hP : PowerStable P) {s : Ov5648} (hs : P s) : P (powerOff s) :=
  hP.supplies s _ hs

theorem preserves_powerOn (hP : PowerStable P) : Preserves P powerOn := by
  have hrest : Preserves P (do
      supplyEnable fun p => { p with dvdd := p.dvdd + 1 }
      supplyEnable fun p => { p with xvclk := p.xvclk + 1 }
      modify fun s => { s with client := { s.client with
        chip := { s.client.chip with regs := s.client.chip.resetImage } } }
      ov5648SensorInit) := by
    iterate 2 refine preserves_bind (preserves_supplyEnable hP _) fun _ => ?_
    refine preserves_bind (preserves_modify fun s hs => ?_) fun _ => ?_
    · exact hP.client s (resetClient s.client) hs
    · exact preserves_sensorInit hP.toInitStable
  unfold powerOn
  apply preserves_get_bind
  intro board hboard
  refine preserves_bind (preserves_supplyEnable hP _) (fun _ => ?_) board hboard
  rcases board.hasAvdd with _ | _
  · exact hrest
  · exact preserves_bind (preserves_supplyEnable hP _) fun _ => hrest

theorem preserves_sensorPower (hP : PowerStable P) (on : Bool) :
    Preserves P (ov5648SensorPower on) := by
  intro s hs
  cases on with
  | false => exact powerOff_stable hP hs
  | true =>
      have hreached := preserves_powerOn hP s hs
      unfold ov5648SensorPower
      rcases hrun : powerOn s with ⟨e | _, t⟩
      · rw [hrun] at hreached
        exact powerOff_stable hP hreached
      · rwa [hrun] at hreached

theorem preserves_sCtrl (hP : PowerStable P) (cluster : Ov5648Cluster) (vals : Ov5648Ctrls)
    (exposureIsNew : Bool) : Preserves P (ov5648SCtrl cluster vals exposureIsNew) := by
  unfold ov5648SCtrl
  apply preserves_get_bind
  intro s hs
  rcases s.suspended with _ | _
  · exact preserves_onClient hP.toInitStable _ s hs
  · exact hs

theorem preserves_handlerSetup (hP : PowerStable P) (clusters : List Ov5648Cluster) :
    Preserves P (v4l2CtrlHandlerSetup clusters) := by
  induction clusters with
  | nil => exact preserves_pure ()
  | cons cluster rest ih =>
      unfold v4l2CtrlHandlerSetup
      apply preserves_get_bind
      intro s hs
      exact preserves_bind (preserves_sCtrl hP cluster s.ctrls true) (fun _ => ih) s hs

theorem preserves_resumeControls (hP : PowerStable P) : Preserves P resumeControls := by
  unfold resumeControls
  refine preserves_bind (preserves_handlerSetup hP _) fun _ => ?_
  apply preserves_get_bind
  intro s hs
  rcases s.streaming with _ | _
  · exact hs
  · rw [if_pos rfl]
    exact preserves_onClient hP.toInitStable _ s hs

theorem preserves_suspend (hP : PowerStable P) : Preserves P ov5648Suspend := by
  unfold ov5648Suspend
  apply preserves_get_bind
  intro s hs
  rcases s.streaming with _ | _
  · exact preserves_sensorPower hP false s hs
  · refine preserves_bind (preserves_onClient hP.toInitStable _) (fun _ => ?_) s hs
    exact preserves_sensorPower hP false

theorem preserves_resume (hP : PowerStable P) : Preserves P ov5648Resume := by
  unfold ov5648Resume
  refine preserves_bind (preserves_sensorPower hP true) fun _ => ?_
  intro s hs
  have hreached := preserves_resumeControls hP s hs
  dsimp only
  rcases hrun : resumeControls s with ⟨e | _, t⟩
  · rw [hrun] at hreached
    exact powerOff_stable hP hreached
  · rwa [hrun] at hreached

theorem preserves_pmRuntimeResume (hP : PowerStable P) : Preserves P pmRuntimeResume := by
  intro s hs
  have hreached : P (ov5648Resume { s with suspended := false }).2 :=
    preserves_resume hP _ (hP.suspended s false hs)
  unfold pmRuntimeResume
  rcases s.suspended with _ | _
  · exact hs
  · rw [if_pos rfl]
    rcases hrun : ov5648Resume { s with suspended := false } with ⟨e | _, t⟩
    · rw [hrun] at hreached
      exact hP.suspended t true hreached
    · rwa [hrun] at hreached

theorem preserves_pmRuntimeSuspend (hP : PowerStable P) : Preserves P pmRuntimeSuspend := by
  intro s hs
  have hreached := preserves_suspend hP s hs
  unfold pmRuntimeSuspend
  rcases s.suspended with _ | _
  · rw [if_neg Bool.false_ne_true]
    rcases hrun : ov5648Suspend s with ⟨e | _, t⟩
    · rwa [hrun] at hreached
    · rw [hrun] at hreached
      exact hP.suspended t true hreached
  · exact hs

theorem preserves_setPixelRate (hlink : ∀ s linkFreq pixelRate, P s →
    P (withLink s linkFreq pixelRate)) (rate : Nat) (mbusCode : U32) :
    Preserves P (if is8Bit mbusCode then ov5648StateMipiConfigure.setPixelRate rate 8
      else if is10Bit mbusCode then ov5648StateMipiConfigure.setPixelRate rate 10
      else throw .einval : SensorRoutine Unit) := by
  split
  · exact preserves_modify fun s hs => hlink s s.linkFreq _ hs
  · split
    · exact preserves_modify fun s hs => hlink s s.linkFreq _ hs
    · exact preserves_throw _

theorem preserves_stateMipiConfigure (hlink : ∀ s linkFreq pixelRate, P s →
    P (withLink s linkFreq pixelRate)) (mode : Ov5648Mode) (mbusCode : U32) :
    Preserves P (ov5648StateMipiConfigure mode mbusCode) := by
  unfold ov5648StateMipiConfigure
  apply preserves_get_bind
  intro s hs
  dsimp only
  split
  · exact hs
  · split
    · refine preserves_bind (preserves_modify fun t ht => ?_)
        (fun _ => preserves_setPixelRate hlink _ mbusCode) s hs
      exact hlink t _ t.pixelRate ht
    · exact preserves_setPixelRate hlink _ mbusCode s hs

def withFormat (s : Ov5648) (mode : Ov5648Mode) (mbusCode : U32) : Ov5648 :=
  { s with mode := mode, mbusCode := mbusCode }

theorem preserves_stateConfigure (hclient : ∀ s client, P s → P (withClient s client))
    (hlink : ∀ s linkFreq pixelRate, P s → P (withLink s linkFreq pixelRate))
    (hformat : ∀ s mode mbusCode, P s → P (withFormat s mode mbusCode)) (mode : Ov5648Mode)
    (mbusCode : U32) : Preserves P (ov5648StateConfigure mode mbusCode) := by
  have hconfigured : Preserves P (ov5648StateMipiConfigure mode mbusCode >>= fun _ =>
      modify fun s => { s with mode := mode, mbusCode := mbusCode }) := by
    refine preserves_bind (preserves_stateMipiConfigure hlink mode mbusCode) fun _ => ?_
    exact preserves_modify fun s hs => hformat s mode mbusCode hs
  unfold ov5648StateConfigure
  apply preserves_get_bind
  intro s hs
  dsimp only
  split
  · exact hs
  · split
    · exact preserves_bind (x := onClient (ov5648ModeConfigure mode mbusCode))
        (fun t ht => hclient t _ ht) (fun _ => hconfigured) s hs
    · exact hconfigured s hs

theorem streaming_powerStable (streaming : Bool) :
    PowerStable fun s => s.streaming = streaming where
  client _ _ h := h
  supplies _ _ h := h
  suspended _ _ h := h
  reconfigure s h := preserves_stateConfigure (P := fun s => s.streaming = streaming)
    (fun _ _ h => h) (fun _ _ _ h => h) (fun _ _ _ h => h) s.mode s.mbusCode s h

end CameraPorting.SensorOv5648.PowerTransitions
