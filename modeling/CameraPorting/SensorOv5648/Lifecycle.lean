import CameraPorting.Library.Runs
import CameraPorting.Library.Unwinding
import CameraPorting.SensorOv5648.RegisterImage
import CameraPorting.SensorOv5648.Transfers

namespace CameraPorting.SensorOv5648.Lifecycle

open CameraPorting.Kernel.Media
open CameraPorting.Kernel.I2c
open CameraPorting.Library.EnableCounts
open CameraPorting.Library.Runs
open CameraPorting.Library.Unwinding
open CameraPorting.SensorOv5648.Registers
open CameraPorting.SensorOv5648.Modes
open CameraPorting.SensorOv5648.RegisterAccess
open CameraPorting.SensorOv5648.Sensor
open CameraPorting.SensorOv5648.RegisterPrograms
open CameraPorting.SensorOv5648.PowerUp
open CameraPorting.SensorOv5648.RegisterImage
open CameraPorting.SensorOv5648.Transfers

/-- What the driver takes and has to give back itself; the cleanup of its entity does
nothing and is left out. -/
inductive Ov5648Resource where
  | endpointNode | endpoint | mutex | controls | runtimePm | subdev
  deriving DecidableEq, Repr

/-- The device node: the lanes and link frequencies of its endpoint, and the rate of its
clock. -/
structure Ov5648Node where
  endpoint : Option (U32 × List Nat)
  xvclkRate : Nat
  deriving DecidableEq, Repr

/-- The driver, with the outcomes of the kernel calls to come. -/
structure Ov5648Module where
  sensor : Ov5648
  power : Power Ov5648Resource Errno
  bound : Bool

abbrev ModuleRoutine (α : Type) := Driver Ov5648Module α

def withPower (s : Ov5648Module) (power : Power Ov5648Resource Errno) : Ov5648Module :=
  { s with power := power }

def withSensor (s : Ov5648Module) (sensor : Ov5648) : Ov5648Module := { s with sensor := sensor }

def kernelCall (x : Driver (Power Ov5648Resource Errno) Unit) : ModuleRoutine Unit :=
  onPart Ov5648Module.power withPower x

def onSensor (x : SensorRoutine Unit) : ModuleRoutine Unit :=
  onPart Ov5648Module.sensor withSensor x

def take (resources : List Ov5648Resource) (s : Ov5648Module) : Ov5648Module :=
  withPower s { s.power with counts := increaseAll s.power.counts resources }

def giveBack (resources : List Ov5648Resource) (s : Ov5648Module) : Ov5648Module :=
  withPower s { s.power with counts := decreaseAll s.power.counts resources }

/-- The allocated sensor with what its endpoint says. -/
def parsedSensor (endpoint : U32 × List Nat) (s : Ov5648Module) : Ov5648Module :=
  withSensor s { s.sensor with
    numDataLanes := endpoint.1
    linkFrequencies := endpoint.2
    streaming := false
    pmEnabled := false }

/-- The graph endpoint; its node is put whether or not it can be parsed. -/
def parseEndpoint (endpoint : Option (U32 × List Nat)) : ModuleRoutine Unit :=
  match endpoint with
  | none => throw .einval
  | some endpoint => do
      modify (take [.endpointNode])
      onError (giveBack [.endpointNode]) (kernelCall (enable .endpoint))
      modify fun s => parsedSensor endpoint (giveBack [.endpointNode] s)

/-- The DOVDD regulator. The check after it looks at the DVDD regulator once more. -/
def getDovdd (s : Ov5648Module) : Ov5648Module := (kernelCall attempt s).2

/-- The AVDD regulator, without which the internal one is used. -/
def getAvdd (s : Ov5648Module) : Ov5648Module :=
  let (result, t) := kernelCall attempt s
  withSensor t { t.sensor with hasAvdd := result.isOk }

/-- `ov5648_ctrls_init`: an error of any control shows in the handler at the end. -/
def initControls : ModuleRoutine Unit := do
  modify (take [.controls])
  onError (giveBack [.controls]) (kernelCall attempt)
  modify fun s => withSensor s (ov5648CtrlsInit s.sensor)

def pmRuntimeEnable (s : Ov5648Module) : Ov5648Module :=
  take [.runtimePm] (withSensor s { s.sensor with pmEnabled := true, suspended := true })

def pmRuntimeDisable (s : Ov5648Module) : Ov5648Module :=
  giveBack [.runtimePm] (withSensor s { s.sensor with pmEnabled := false })

/-- `ov5648_probe` from the clock on, up to the label `error_endpoint`. -/
def setupSensor (node : Ov5648Node) : ModuleRoutine Unit := do
  kernelCall attempt
  rejectIf (node.xvclkRate ≠ ov5648XvclkRate) .einval
  modify fun s => withSensor s { s.sensor with xvclkRate := node.xvclkRate }
  kernelCall attempt
  onSensor (onClient ov5648ChipIdCheck)
  modify (take [.mutex])
  onError (giveBack [.mutex]) do
    initControls
    onError (giveBack [.controls]) do
      onSensor ov5648StateInit
      modify pmRuntimeEnable
      onError pmRuntimeDisable (kernelCall (enable .subdev))

/-- The two lines, the regulators, and what comes after them. -/
def acquireSensor (node : Ov5648Node) : ModuleRoutine Unit := do
  kernelCall attempt
  kernelCall attempt
  kernelCall attempt
  modify getDovdd
  modify getAvdd
  setupSensor node

def probeSensor (node : Ov5648Node) : ModuleRoutine Unit := do
  failingWith .enomem (kernelCall attempt)
  parseEndpoint node.endpoint
  onError (giveBack [.endpoint]) (acquireSensor node)

def ov5648Probe (node : Ov5648Node) : ModuleRoutine Unit := do
  probeSensor node
  modify fun s => { s with bound := true }

/-- `ov5648_remove`; the parsed endpoint is not freed. -/
def ov5648Remove (s : Ov5648Module) : Ov5648Module :=
  { giveBack [.mutex] (giveBack [.controls] (pmRuntimeDisable (giveBack [.subdev] s))) with
    bound := false }

inductive LifecycleCall where
  | probe (node : Ov5648Node)
  | remove
  deriving DecidableEq

def lifecycleStep (s : Ov5648Module) : LifecycleCall → Ov5648Module
  | .probe node => (ov5648Probe node s).2
  | .remove => ov5648Remove s

/-- The driver core probes a device that is not bound, and removes one that is. -/
def LifecycleFits (s : Ov5648Module) : LifecycleCall → Prop
  | .probe _ => s.bound = false
  | .remove => s.bound = true

def moduleCounts (s : Ov5648Module) : Ov5648Resource → Nat := s.power.counts

section Holding

theorem giveBack_counts (resources : List Ov5648Resource) (s : Ov5648Module) :
    moduleCounts (giveBack resources s) = decreaseAll (moduleCounts s) resources := rfl

theorem takes_kernelCall {resources : List Ov5648Resource}
    {x : Driver (Power Ov5648Resource Errno) Unit} (hx : Takes Power.counts resources x) :
    Takes moduleCounts resources (kernelCall x) :=
  takes_onPart hx (fun _ => rfl) fun _ _ => rfl

theorem takes_attemptCall : Takes moduleCounts [] (kernelCall attempt) :=
  takes_kernelCall takes_attempt

theorem takes_enableCall (r : Ov5648Resource) : Takes moduleCounts [r] (kernelCall (enable r)) :=
  takes_kernelCall (takes_enable r)

theorem takes_take (resources : List Ov5648Resource) :
    Takes moduleCounts resources (modify (take resources) : ModuleRoutine Unit) :=
  takes_modify fun _ => rfl

theorem takes_onSensor (x : SensorRoutine Unit) : Takes moduleCounts [] (onSensor x) :=
  takes_of_keeps (keeps_onPart x fun _ _ => rfl)

theorem getDovdd_counts (s : Ov5648Module) : moduleCounts (getDovdd s) = moduleCounts s :=
  attempt_counts s.power

theorem getAvdd_counts (s : Ov5648Module) : moduleCounts (getAvdd s) = moduleCounts s :=
  attempt_counts s.power

theorem takes_parseEndpoint (endpoint : Option (U32 × List Nat)) :
    Takes moduleCounts [.endpoint] (parseEndpoint endpoint) := by
  rcases endpoint with _ | endpoint
  · exact takes_throw _ _
  · have hnode := takes_bind_onError (takes_take [.endpointNode])
      (fun _ => takes_enableCall .endpoint) (giveBack_counts [.endpointNode]) (List.Perm.refl _)
    have hgiveBack : ∀ s, moduleCounts (parsedSensor endpoint (giveBack [.endpointNode] s)) =
        decreaseAll (moduleCounts s) [.endpointNode] := fun _ => rfl
    have hparse := takes_bind_giveBack [Ov5648Resource.endpoint] hnode hgiveBack
      (List.Perm.swap _ _ _)
    rwa [bind_assoc] at hparse

theorem takes_initControls : Takes moduleCounts [.controls] initControls :=
  takes_bind_onError_modify (takes_take [.controls]) takes_attemptCall
    (giveBack_counts [.controls]) (List.Perm.refl _) fun _ => rfl

theorem takes_setupSensor (node : Ov5648Node) :
    Takes moduleCounts [.mutex, .controls, .runtimePm, .subdev] (setupSensor node) := by
  have henable : Takes moduleCounts [.runtimePm] (modify pmRuntimeEnable : ModuleRoutine Unit) :=
    takes_modify fun _ => rfl
  have hpm := takes_bind_onError henable (fun _ => takes_enableCall .subdev)
    (fun _ => rfl : ∀ s, moduleCounts (pmRuntimeDisable s) =
      decreaseAll (moduleCounts s) [.runtimePm]) (List.Perm.refl _)
  have hstate := takes_bind (takes_onSensor ov5648StateInit) fun _ => hpm
  have hcontrols := takes_bind_onError takes_initControls (fun _ => hstate)
    (giveBack_counts [.controls]) (List.Perm.refl _)
  have hmutex := takes_bind_onError (takes_take [.mutex]) (fun _ => hcontrols)
    (giveBack_counts [.mutex]) (List.Perm.refl _)
  refine takes_bind takes_attemptCall fun _ => ?_
  refine takes_bind (takes_rejectIf _ _) fun _ => ?_
  refine takes_bind (takes_of_keeps fun _ => rfl) fun _ => ?_
  refine takes_bind takes_attemptCall fun _ => ?_
  exact takes_bind (takes_onSensor _) fun _ => hmutex

/-- What the driver holds of a bound sensor. -/
def boundResources : List Ov5648Resource := [.endpoint, .mutex, .controls, .runtimePm, .subdev]

theorem takes_acquireSensor (node : Ov5648Node) :
    Takes moduleCounts [.mutex, .controls, .runtimePm, .subdev] (acquireSensor node) := by
  refine takes_bind takes_attemptCall fun _ => ?_
  refine takes_bind takes_attemptCall fun _ => ?_
  refine takes_bind takes_attemptCall fun _ => ?_
  refine takes_bind (takes_of_keeps getDovdd_counts) fun _ => ?_
  exact takes_bind (takes_of_keeps getAvdd_counts) fun _ => takes_setupSensor node

theorem takes_probeSensor (node : Ov5648Node) :
    Takes moduleCounts boundResources (probeSensor node) := by
  refine takes_bind (takes_failingWith takes_attemptCall .enomem) fun _ => ?_
  exact takes_bind_onError (takes_parseEndpoint node.endpoint) (fun _ => takes_acquireSensor node)
    (giveBack_counts [.endpoint]) (List.Perm.refl _)

end Holding

section Binding

theorem keeps_call (x : Driver (Power Ov5648Resource Errno) Unit) :
    Keeps Ov5648Module.bound (kernelCall x) :=
  keeps_onPart x fun _ _ => rfl

theorem keeps_sensor (x : SensorRoutine Unit) : Keeps Ov5648Module.bound (onSensor x) :=
  keeps_onPart x fun _ _ => rfl

theorem keeps_setupSensor (node : Ov5648Node) : Keeps Ov5648Module.bound (setupSensor node) := by
  refine keeps_bind (keeps_call _) fun _ => ?_
  refine keeps_bind (keeps_rejectIf _ _) fun _ => ?_
  refine keeps_bind (fun _ => rfl) fun _ => ?_
  refine keeps_bind (keeps_call _) fun _ => ?_
  refine keeps_bind (keeps_sensor _) fun _ => ?_
  refine keeps_bind (fun _ => rfl) fun _ => keeps_onError ?_ fun _ => rfl
  have hcontrols : Keeps Ov5648Module.bound initControls :=
    keeps_bind (fun _ => rfl) fun _ =>
      keeps_bind (keeps_onError (keeps_call _) fun _ => rfl) fun _ _ => rfl
  refine keeps_bind hcontrols fun _ => keeps_onError ?_ fun _ => rfl
  refine keeps_bind (keeps_sensor _) fun _ => keeps_bind (fun _ => rfl) fun _ => ?_
  exact keeps_onError (keeps_call _) fun _ => rfl

theorem keeps_probeSensor (node : Ov5648Node) : Keeps Ov5648Module.bound (probeSensor node) := by
  have hparse : Keeps Ov5648Module.bound (parseEndpoint node.endpoint) := by
    unfold parseEndpoint
    split
    · exact fun _ => rfl
    · exact keeps_bind (fun _ => rfl) fun _ =>
        keeps_bind (keeps_onError (keeps_call _) fun _ => rfl) fun _ _ => rfl
  refine keeps_bind (keeps_failingWith (keeps_call _) _) fun _ => ?_
  refine keeps_bind hparse fun _ => keeps_onError ?_ fun _ => rfl
  refine keeps_bind (keeps_call _) fun _ => keeps_bind (keeps_call _) fun _ => ?_
  refine keeps_bind (keeps_call _) fun _ => keeps_bind (keeps_call attempt) fun _ => ?_
  exact keeps_bind (keeps_call attempt) fun _ => keeps_setupSensor node

end Binding

def heldResources (bound : Bool) : List Ov5648Resource := if bound then boundResources else []

def removals (calls : List LifecycleCall) : Nat := calls.count .remove

/-- Beside what was held at the start the driver holds what a bound sensor needs, and the
endpoints that were not freed. -/
def Leaks (start : Ov5648Module) (leaked : Nat) (s : Ov5648Module) : Prop :=
  moduleCounts s =
    increaseAll (moduleCounts start) (heldResources s.bound ++ List.replicate leaked .endpoint)

theorem leaks_probe {start s : Ov5648Module} {leaked : Nat} (h : Leaks start leaked s)
    (hbound : s.bound = false) (node : Ov5648Node) :
    Leaks start leaked (lifecycleStep s (.probe node)) := by
  have hkept := keeps_probeSensor node s
  unfold Leaks at h
  rw [hbound] at h
  change Leaks start leaked ((probeSensor node >>= fun _ => modify _) s).2
  rcases hrun : probeSensor node s with ⟨e | _, t⟩
  · rw [hrun] at hkept
    rw [bind_error hrun, Leaks, (takes_probeSensor node).error hrun, h,
      show t.bound = false from hkept.trans hbound]
  · rw [bind_ok hrun]
    change moduleCounts t = increaseAll _ (boundResources ++ _)
    rw [(takes_probeSensor node).ok hrun, h, ← increaseAll_append]
    exact increaseAll_perm List.perm_append_comm _

theorem leaks_remove {start s : Ov5648Module} {leaked : Nat} (h : Leaks start leaked s)
    (hbound : s.bound = true) : Leaks start (leaked + 1) (lifecycleStep s .remove) := by
  unfold Leaks at h ⊢
  rw [hbound] at h
  change decreaseAll (moduleCounts s) [.subdev, .runtimePm, .controls, .mutex] =
    increaseAll _ ([] ++ List.replicate (leaked + 1) .endpoint)
  rw [h]
  apply decreaseAll_increaseAll_part
  refine List.Perm.cons _ (List.perm_append_comm.trans (List.Perm.append_left _ ?_))
  decide

theorem leaks_exec {start s : Ov5648Module} {leaked : Nat} (h : Leaks start leaked s)
    {calls : List LifecycleCall} (hfits : Along lifecycleStep LifecycleFits s calls) :
    Leaks start (leaked + removals calls) (exec lifecycleStep s calls) := by
  induction calls generalizing s leaked with
  | nil => exact h
  | cons call calls ih =>
      cases call with
      | probe node => exact ih (leaks_probe h hfits.1 node) hfits.2
      | remove =>
          have hrest := ih (leaks_remove h hfits.1) hfits.2
          rwa [Nat.add_assoc, Nat.add_comm 1, removals, ← List.count_cons_self] at hrest

/-- Whatever calls fail, a probe that fails leaves nothing behind, and a driver that is
removed leaves the endpoint that its probe had parsed, and nothing else: after any run one
endpoint is still held for each remove. -/
theorem endpoint_leaks {start : Ov5648Module} (hstart : start.bound = false)
    (calls : List LifecycleCall) (hfits : Along lifecycleStep LifecycleFits start calls) :
    Leaks start (removals calls) (exec lifecycleStep start calls) := by
  have hnone : Leaks start 0 start := by
    unfold Leaks
    rw [hstart]
    rfl
  have hall := leaks_exec hnone hfits
  rwa [Nat.zero_add] at hall

/-- A driver that is not bound, and a sensor in its reset state. -/
def boardModule (outcomes : List (Option Errno)) : Ov5648Module where
  sensor := { probedSensor with client :=
    { probedSensor.client with chip :=
      { probedSensor.client.chip with regs := probedSensor.client.chip.resetImage } } }
  power := ⟨fun _ => 0, outcomes⟩
  bound := false

def boardNode : Ov5648Node := ⟨some (2, ov5648LinkFreqMenu), ov5648XvclkRate⟩

/-- A probe whose first call fails, and one that binds the driver until it is removed. -/
def boardCalls : List LifecycleCall := [.probe boardNode, .probe boardNode, .remove]

theorem endpoint_leaks_board : Leaks (boardModule [some .enomem]) (removals boardCalls)
    (exec lifecycleStep (boardModule [some .enomem]) boardCalls) :=
  endpoint_leaks rfl boardCalls ⟨rfl, rfl, rfl, trivial⟩

section Acceptance

def ChipIdMatches (client : I2cClient Chip) : Prop :=
  client.chip.regs chipIdHReg = chipIdHValue ∧ client.chip.regs chipIdLReg = chipIdLValue

theorem read_ok_iff (address : U16) (client : I2cClient Chip) :
    (NoFault 2 client.faults ∧ ∃ after, ov5648Read address client =
        (.ok (client.chip.regs address), after) ∧ after.chip = client.chip ∧
        after.faults = client.faults.drop 2) ∨
      (¬NoFault 2 client.faults ∧ ∃ e after, ov5648Read address client = (.error e, after)) := by
  have hchip := read_chip address client
  rcases transfers_read address client with ⟨hok, value, after, hrun, hafter⟩ | hfailed
  · rw [hrun] at hchip
    have hvalue := read_value hrun
    rw [show after.chip = client.chip from hchip] at hvalue
    refine .inl ⟨hok, after, ?_, hchip, hafter⟩
    rw [hrun, hvalue]
  · exact .inr hfailed

theorem chipIdCheck_ok_iff (client : I2cClient Chip) :
    (ov5648ChipIdCheck client).1 = .ok () ↔ NoFault 4 client.faults ∧ ChipIdMatches client := by
  unfold ov5648ChipIdCheck ChipIdMatches
  rw [noFault_add 2 2]
  rcases read_ok_iff chipIdHReg client with ⟨hok, after, hrun, hchip, hafter⟩ | ⟨hfault, e, t, hrun⟩
  · rw [driver_bind_ok hrun]
    by_cases hhigh : client.chip.regs chipIdHReg = chipIdHValue
    · rw [hhigh]
      change ((ov5648Read chipIdLReg >>= _) after).1 = _ ↔ _
      rcases read_ok_iff chipIdLReg after with ⟨hok', last, hrun', -, -⟩ | ⟨hfault', e, t, hrun'⟩
      · rw [hafter] at hok'
        rw [driver_bind_ok hrun', hchip]
        by_cases hlow : client.chip.regs chipIdLReg = chipIdLValue
        · rw [hlow]
          exact ⟨fun _ => ⟨⟨hok, hok'⟩, rfl, rfl⟩, fun _ => rfl⟩
        · simp only [if_pos hlow]
          exact ⟨nofun, fun h => absurd h.2.2 hlow⟩
      · rw [hafter] at hfault'
        rw [driver_bind_error hrun']
        exact ⟨nofun, fun h => absurd h.1.2 hfault'⟩
    · simp only [if_pos (show client.chip.regs chipIdHReg ≠ chipIdHValue from hhigh)]
      exact ⟨nofun, fun h => absurd h.2.1 hhigh⟩
  · rw [driver_bind_error hrun]
    exact ⟨nofun, fun h => absurd h.1.1 hfault⟩

theorem stateInit_ok {s : Ov5648} (hrate : s.xvclkRate = ov5648XvclkRate)
    (hidle : s.streaming = false) (hpm : s.pmEnabled = false) :
    (ov5648StateInit s).1 = .ok () := by
  unfold ov5648StateInit
  rcases stateConfigure_outcome hrate hidle (show ov5648Mode0 ∈ ov5648Modes by decide)
    (show mediaBusFmtSbggr8_1x8 ∈ ov5648MbusCodes by decide) with
    ⟨-, client, -, hrun⟩ | ⟨hfails, -⟩
  · rw [hrun]
  · exact absurd (hfails.1.symm.trans hpm) nofun

/-- The state after calls that succeeded and took the resources. -/
def afterCalls (resources : List Ov5648Resource) (calls : Nat) (s : Ov5648Module) : Ov5648Module :=
  withPower s (taken resources calls s.power)

theorem succeedsFrom_attemptCall :
    SucceedsFrom (fun s : Ov5648Module => NoFailure 1 s.power.outcomes) (afterCalls [] 1)
      (kernelCall attempt) :=
  succeedsFrom_onPart succeedsFrom_attempt

theorem succeedsFrom_enableCall (r : Ov5648Resource) :
    SucceedsFrom (fun s : Ov5648Module => NoFailure 1 s.power.outcomes) (afterCalls [r] 1)
      (kernelCall (enable r)) :=
  succeedsFrom_onPart (succeedsFrom_enable r)

theorem succeedsFrom_onSensor (x : SensorRoutine Unit) :
    SucceedsFrom (fun s : Ov5648Module => (x s.sensor).1 = .ok ())
      (fun s => withSensor s (x s.sensor).2) (onSensor x) :=
  succeedsFrom_onPart (succeedsFrom_self x)

theorem succeedsFrom_initControls :
    SucceedsFrom (fun s : Ov5648Module => NoFailure 1 s.power.outcomes)
      (fun s => withSensor (afterCalls [] 1 (take [.controls] s)) (ov5648CtrlsInit s.sensor))
      initControls := by
  have hchain := succeedsFrom_bind (succeedsFrom_modify (take [.controls]))
    (succeedsFrom_bind (succeedsFrom_onError succeedsFrom_attemptCall (giveBack [.controls]))
      (succeedsFrom_modify fun s => withSensor s (ov5648CtrlsInit s.sensor)))
  refine hchain.congr (fun s => ?_) fun s => rfl
  rw [true_and, and_true]
  rfl

theorem setupSensor_ok_iff (node : Ov5648Node) {s : Ov5648Module}
    (hidle : s.sensor.streaming = false) (hpm : s.sensor.pmEnabled = false) :
    (setupSensor node s).1 = .ok () ↔ node.xvclkRate = ov5648XvclkRate ∧
      NoFault 4 s.sensor.client.faults ∧ ChipIdMatches s.sensor.client ∧
      NoFailure 4 s.power.outcomes := by
  have hpmChain := succeedsFrom_bind (succeedsFrom_onSensor ov5648StateInit)
    (succeedsFrom_bind (succeedsFrom_modify pmRuntimeEnable)
      (succeedsFrom_onError (succeedsFrom_enableCall .subdev) pmRuntimeDisable))
  have hcontrols := succeedsFrom_bind succeedsFrom_initControls
    (succeedsFrom_onError hpmChain (giveBack [.controls]))
  have hchain := succeedsFrom_bind succeedsFrom_attemptCall
    (succeedsFrom_bind (succeedsFrom_rejectIf (node.xvclkRate ≠ ov5648XvclkRate) Errno.einval)
    (succeedsFrom_bind
      (succeedsFrom_modify fun s : Ov5648Module =>
        withSensor s { s.sensor with xvclkRate := node.xvclkRate })
    (succeedsFrom_bind succeedsFrom_attemptCall
    (succeedsFrom_bind (succeedsFrom_onSensor (onClient ov5648ChipIdCheck))
    (succeedsFrom_bind (succeedsFrom_modify (take [.mutex]))
      (succeedsFrom_onError hcontrols (giveBack [.mutex])))))))
  refine (hchain.ok_iff s).trans ?_
  change NoFailure 1 s.power.outcomes ∧ ¬node.xvclkRate ≠ ov5648XvclkRate ∧ True ∧
    NoFailure 1 (s.power.outcomes.drop 1) ∧
    (ov5648ChipIdCheck s.sensor.client).1 = .ok () ∧ True ∧
    NoFailure 1 ((s.power.outcomes.drop 1).drop 1) ∧
    (ov5648StateInit _).1 = .ok () ∧ True ∧
    NoFailure 1 (((s.power.outcomes.drop 1).drop 1).drop 1) ↔ _
  rw [chipIdCheck_ok_iff, noFailure_add 1 3, noFailure_add 1 2, noFailure_add 1 1, not_not]
  simp only [List.drop_drop]
  constructor
  · rintro ⟨h0, hrate, -, h1, hid, -, h2, -, -, h3⟩
    exact ⟨hrate, hid.1, hid.2, h0, h1, h2, h3⟩
  · rintro ⟨hrate, hbus, hid, h0, h1, h2, h3⟩
    exact ⟨h0, hrate, trivial, h1, ⟨hbus, hid⟩, trivial, h2, stateInit_ok hrate hidle hpm,
      trivial, h3⟩

theorem getDovdd_outcomes (s : Ov5648Module) :
    (getDovdd s).power.outcomes = s.power.outcomes.drop 1 := attempt_outcomes s.power

theorem getAvdd_outcomes (s : Ov5648Module) :
    (getAvdd s).power.outcomes = s.power.outcomes.drop 1 := attempt_outcomes s.power

/-- When the driver binds. The supplies DOVDD and AVDD are asked for in the sixth and the
seventh call, and it is of no importance what these return. -/
structure ProbeAccepts (node : Ov5648Node) (s : Ov5648Module) : Prop where
  endpoint : node.endpoint ≠ none
  xvclk : node.xvclkRate = ov5648XvclkRate
  chipId : ChipIdMatches s.sensor.client
  transfers : NoFault 4 s.sensor.client.faults
  calls : NoFailure 5 s.power.outcomes
  laterCalls : NoFailure 4 (s.power.outcomes.drop 7)

theorem acquireSensor_ok_iff (node : Ov5648Node) {s : Ov5648Module}
    (hidle : s.sensor.streaming = false) (hpm : s.sensor.pmEnabled = false) :
    (acquireSensor node s).1 = .ok () ↔ node.xvclkRate = ov5648XvclkRate ∧
      NoFault 4 s.sensor.client.faults ∧ ChipIdMatches s.sensor.client ∧
      NoFailure 3 s.power.outcomes ∧ NoFailure 4 (s.power.outcomes.drop 5) := by
  have hchain := succeedsFrom_bind succeedsFrom_attemptCall
    (succeedsFrom_bind succeedsFrom_attemptCall (succeedsFrom_bind succeedsFrom_attemptCall
    (succeedsFrom_bind (succeedsFrom_modify getDovdd) (succeedsFrom_bind
      (succeedsFrom_modify getAvdd) (succeedsFrom_self (setupSensor node))))))
  refine (hchain.ok_iff s).trans ?_
  have hsetup := @setupSensor_ok_iff node
    (getAvdd (getDovdd (afterCalls [] 1 (afterCalls [] 1 (afterCalls [] 1 s))))) hidle hpm
  rw [getAvdd_outcomes, getDovdd_outcomes] at hsetup
  rw [hsetup, noFailure_add 1 2, noFailure_add 1 1]
  change NoFailure 1 s.power.outcomes ∧ NoFailure 1 (s.power.outcomes.drop 1) ∧
    NoFailure 1 ((s.power.outcomes.drop 1).drop 1) ∧ True ∧ True ∧
    _ ∧ NoFault 4 s.sensor.client.faults ∧ ChipIdMatches s.sensor.client ∧
    NoFailure 4 (((((s.power.outcomes.drop 1).drop 1).drop 1).drop 1).drop 1) ↔ _
  simp only [List.drop_drop]
  tauto

theorem succeedsFrom_parseEndpoint (endpoint : U32 × List Nat) :
    SucceedsFrom (fun s : Ov5648Module => NoFailure 1 s.power.outcomes)
      (fun s => parsedSensor endpoint (giveBack [.endpointNode]
        (afterCalls [.endpoint] 1 (take [.endpointNode] s))))
      (parseEndpoint (some endpoint)) := by
  have hchain := succeedsFrom_bind (succeedsFrom_modify (take [.endpointNode]))
    (succeedsFrom_bind (succeedsFrom_onError (succeedsFrom_enableCall .endpoint)
        (giveBack [.endpointNode]))
      (succeedsFrom_modify fun s => parsedSensor endpoint (giveBack [.endpointNode] s)))
  refine hchain.congr (fun s => ?_) fun s => rfl
  rw [true_and, and_true]
  rfl

/-- The driver binds exactly when the device tree has an endpoint and the right clock, the
chip has its id, and every call goes through but for those for DOVDD and AVDD: that DOVDD
could not be found goes unnoticed. -/
theorem ov5648Probe_ok_iff (node : Ov5648Node) (s : Ov5648Module) :
    (ov5648Probe node s).1 = .ok () ↔ ProbeAccepts node s := by
  rcases hendpoint : node.endpoint with _ | endpoint
  · have hparse : SucceedsFrom (fun _ => False) id (parseEndpoint node.endpoint) := by
      rw [hendpoint]
      exact succeedsFrom_throw _
    have hchain := succeedsFrom_bind (succeedsFrom_bind
      (succeedsFrom_failingWith succeedsFrom_attemptCall .enomem)
      (succeedsFrom_bind hparse
        (succeedsFrom_onError (succeedsFrom_self (acquireSensor node)) (giveBack [.endpoint]))))
      (succeedsFrom_modify fun s : Ov5648Module => { s with bound := true })
    refine (hchain.ok_iff s).trans ⟨fun h => h.1.2.1.elim, fun h => ?_⟩
    exact absurd hendpoint h.endpoint
  · have hchain := succeedsFrom_bind (succeedsFrom_bind
      (succeedsFrom_failingWith succeedsFrom_attemptCall .enomem)
      (succeedsFrom_bind (succeedsFrom_parseEndpoint endpoint)
        (succeedsFrom_onError (succeedsFrom_self (acquireSensor node)) (giveBack [.endpoint]))))
      (succeedsFrom_modify fun s : Ov5648Module => { s with bound := true })
    rw [← hendpoint] at hchain
    refine (hchain.ok_iff s).trans ?_
    have hacquire := @acquireSensor_ok_iff node (parsedSensor endpoint (giveBack [.endpointNode]
      (afterCalls [.endpoint] 1 (take [.endpointNode] (afterCalls [] 1 s))))) rfl rfl
    rw [hacquire]
    change (NoFailure 1 s.power.outcomes ∧ NoFailure 1 (s.power.outcomes.drop 1) ∧ _ ∧
      NoFault 4 s.sensor.client.faults ∧ ChipIdMatches s.sensor.client ∧
      NoFailure 3 ((s.power.outcomes.drop 1).drop 1) ∧
      NoFailure 4 (((s.power.outcomes.drop 1).drop 1).drop 5)) ∧ True ↔ _
    simp only [List.drop_drop, and_true]
    constructor
    · rintro ⟨h0, h1, hrate, hbus, hid, h2, h7⟩
      refine ⟨hendpoint ▸ nofun, hrate, hid, hbus, ?_, h7⟩
      rw [noFailure_add 1 4, noFailure_add 1 3, List.drop_drop]
      exact ⟨h0, h1, h2⟩
    · intro h
      have hcalls := h.calls
      rw [noFailure_add 1 4, noFailure_add 1 3, List.drop_drop] at hcalls
      exact ⟨hcalls.1, hcalls.2.1, h.xvclk, h.transfers, h.chipId, hcalls.2.2, h.laterCalls⟩

end Acceptance

end CameraPorting.SensorOv5648.Lifecycle
