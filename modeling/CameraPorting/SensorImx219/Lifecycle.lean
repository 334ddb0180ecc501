import CameraPorting.Library.Runs
import CameraPorting.Library.Unwinding
import CameraPorting.SensorImx219.RegisterCodec

namespace CameraPorting.SensorImx219.Lifecycle

open CameraPorting.Kernel.Media
open CameraPorting.Kernel.I2c
open CameraPorting.Kernel.I2cMessages
open CameraPorting.Library.ByteMemory
open CameraPorting.Library.EnableCounts
open CameraPorting.Library.Runs
open CameraPorting.Library.Unwinding
open CameraPorting.SensorImx219.RegisterLists
open CameraPorting.SensorImx219.RegisterCodec

/-- What the driver takes and has to give back itself: the supplies and the clock, the
endpoint node with what is parsed of it, the handler of the controls with its mutex, the
pads of the entity and the registered subdevice. -/
inductive Imx219Resource where
  | vana | vdig | vddl | xclk | endpointNode | endpoint | controls | entity | subdev
  deriving DecidableEq, Repr

def imx219SupplyName : List Imx219Resource := [.vana, .vdig, .vddl]

def imx219XclkFreq : U32 := 24000000
def imx219DefaultLinkFreq : Nat := 456000000

/-- `struct v4l2_fwnode_endpoint`, as far as the driver reads it. -/
structure FwnodeEndpoint where
  numDataLanes : Nat
  linkFrequencies : List Nat
  deriving DecidableEq, Repr

/-- The device node: its endpoint, the rate of its clock, as far as the driver keeps it, and
whether it has a reset line. -/
structure Imx219Node where
  endpoint : Option FwnodeEndpoint
  xclkFreq : U32
  hasReset : Bool
  deriving DecidableEq, Repr

/-- The driver and its device, with the outcomes of the kernel calls to come. Without a
runtime-PM status the driver is not bound. -/
structure Imx219Module where
  bus : BusClient
  power : Power Imx219Resource Errno
  resetGpio : Option Bool
  pm : Option RpmStatus

abbrev ModuleRoutine (α : Type) := Driver Imx219Module α

def withPower (s : Imx219Module) (power : Power Imx219Resource Errno) : Imx219Module :=
  { s with power := power }

def kernelCall (x : Driver (Power Imx219Resource Errno) Unit) : ModuleRoutine Unit :=
  onPart Imx219Module.power withPower x

def onBus (x : Driver BusClient Unit) : ModuleRoutine Unit :=
  onPart Imx219Module.bus (fun s bus => { s with bus := bus }) x

def giveBack (resources : List Imx219Resource) (s : Imx219Module) : Imx219Module :=
  withPower s { s.power with counts := decreaseAll s.power.counts resources }

def regulatorBulkEnable (supplies : List Imx219Resource) : ModuleRoutine Unit :=
  kernelCall (enableAll supplies)

def regulatorBulkDisable (supplies : List Imx219Resource) : Imx219Module → Imx219Module :=
  giveBack supplies

def clkPrepareEnable (clk : Imx219Resource) : ModuleRoutine Unit := kernelCall (enable clk)

def clkDisableUnprepare (clk : Imx219Resource) : Imx219Module → Imx219Module := giveBack [clk]

/-- `gpiod_set_value_cansleep` of the reset line; without a line it does nothing. -/
def setResetGpio (value : Bool) (s : Imx219Module) : Imx219Module :=
  { s with resetGpio := s.resetGpio.map fun _ => value }

def imx219PowerOn : ModuleRoutine Unit := do
  regulatorBulkEnable imx219SupplyName
  onError (regulatorBulkDisable imx219SupplyName) (clkPrepareEnable .xclk)
  modify (setResetGpio true)

def imx219PowerOff (s : Imx219Module) : Imx219Module :=
  clkDisableUnprepare .xclk (regulatorBulkDisable imx219SupplyName (setResetGpio false s))

/-- What the driver can use: two lanes, and the one link frequency. -/
def checkEndpoint (epCfg : FwnodeEndpoint) : ModuleRoutine Unit := do
  rejectIf (epCfg.numDataLanes ≠ 2) .einval
  rejectIf (epCfg.linkFrequencies.length = 0) .einval
  rejectIf (epCfg.linkFrequencies.length ≠ 1 ∨
    epCfg.linkFrequencies.headD 0 ≠ imx219DefaultLinkFreq) .einval

/-- `fwnode_graph_get_next_endpoint` takes a reference of the node it finds. -/
def fwnodeGraphGetNextEndpoint (s : Imx219Module) : Imx219Module :=
  withPower s { s.power with counts := increase s.power.counts .endpointNode }

/-- `imx219_check_hwcfg`. Its one label frees the parsed endpoint and puts the node, after
a success as well; a parse that fails leaves nothing to free. -/
def imx219CheckHwcfg (endpoint : Option FwnodeEndpoint) : ModuleRoutine Unit :=
  match endpoint with
  | none => throw .einval
  | some epCfg => do
      modify fwnodeGraphGetNextEndpoint
      onError (giveBack [.endpointNode]) do
        failingWith .einval (kernelCall (enable .endpoint))
        onError (giveBack [.endpoint]) (checkEndpoint epCfg)
      modify (giveBack [.endpoint, .endpointNode])

def imx219FreeControls : Imx219Module → Imx219Module := giveBack [.controls]

/-- `imx219_init_controls`: an error of any control shows in the handler at the end. -/
def imx219InitControls : ModuleRoutine Unit := do
  kernelCall (enable .controls)
  onError imx219FreeControls (kernelCall attempt)

def mediaEntityCleanup : Imx219Module → Imx219Module := giveBack [.entity]

/-- The line is requested with its value high; nobody looks whether that failed. -/
def requestResetGpio (node : Imx219Node) (s : Imx219Module) : Imx219Module :=
  { s with resetGpio := if node.hasReset then some true else none }

def registerSensor : ModuleRoutine Unit := do
  onBus imx219IdentifyModule
  onBus (imx219WriteReg imx219RegModeSelect 1 imx219ModeStreaming)
  onBus (imx219WriteReg imx219RegModeSelect 1 imx219ModeStandby)
  imx219InitControls
  onError imx219FreeControls do
    kernelCall (enable .entity)
    onError mediaEntityCleanup (kernelCall (enable .subdev))

def probeSensor (node : Imx219Node) : ModuleRoutine Unit := do
  failingWith .enomem (kernelCall attempt)
  failingWith .einval (imx219CheckHwcfg node.endpoint)
  kernelCall attempt
  rejectIf (node.xclkFreq ≠ imx219XclkFreq) .einval
  kernelCall attempt
  modify (requestResetGpio node)
  imx219PowerOn
  onError imx219PowerOff registerSensor

/-- `imx219_probe`, without the mode and the format that it starts with. -/
def imx219Probe (node : Imx219Node) : ModuleRoutine Unit := do
  probeSensor node
  modify fun s => { s with pm := some .active }

def imx219Remove (s : Imx219Module) : Imx219Module :=
  let s := imx219FreeControls (mediaEntityCleanup (giveBack [.subdev] s))
  let s := if s.pm = some .suspended then s else imx219PowerOff s
  { s with pm := none }

inductive LifecycleCall where
  | probe (node : Imx219Node)
  | runtimeSuspend
  | runtimeResume
  | remove

/-- A runtime resume that fails leaves the device suspended. -/
def lifecycleStep (s : Imx219Module) : LifecycleCall → Imx219Module
  | .probe node => (imx219Probe node s).2
  | .runtimeSuspend => { imx219PowerOff s with pm := some .suspended }
  | .runtimeResume =>
      match imx219PowerOn s with
      | (.ok (), s) => { s with pm := some .active }
      | (.error _, s) => s
  | .remove => imx219Remove s

/-- The driver core probes a device that is not bound and removes one that is; the power
management suspends an active device and resumes a suspended one. -/
def LifecycleFits (s : Imx219Module) : LifecycleCall → Prop
  | .probe _ => s.pm = none
  | .runtimeSuspend => s.pm = some .active
  | .runtimeResume => s.pm = some .suspended
  | .remove => s.pm ≠ none

def moduleCounts (s : Imx219Module) : Imx219Resource → Nat := s.power.counts

section Holding

theorem giveBack_counts (resources : List Imx219Resource) (s : Imx219Module) :
    moduleCounts (giveBack resources s) = decreaseAll (moduleCounts s) resources := rfl

theorem takes_kernelCall {resources : List Imx219Resource}
    {x : Driver (Power Imx219Resource Errno) Unit} (hx : Takes Power.counts resources x) :
    Takes moduleCounts resources (kernelCall x) :=
  takes_onPart hx (fun _ => rfl) fun _ _ => rfl

theorem takes_take (r : Imx219Resource) : Takes moduleCounts [r] (kernelCall (enable r)) :=
  takes_kernelCall (takes_enable r)

theorem takes_onBus (x : Driver BusClient Unit) : Takes moduleCounts [] (onBus x) :=
  takes_of_keeps fun _ => rfl

/-- What the sensor needs to be powered, in the order in which it is enabled. -/
def powerSupplies : List Imx219Resource := imx219SupplyName ++ [.xclk]

theorem takes_powerOn : Takes moduleCounts powerSupplies imx219PowerOn :=
  takes_bind_onError_modify (takes_kernelCall (takes_enableAll imx219SupplyName))
    (takes_take .xclk) (giveBack_counts imx219SupplyName)
    (List.Perm.refl _) fun _ => rfl

theorem powerOff_counts (s : Imx219Module) :
    moduleCounts (imx219PowerOff s) = decreaseAll (moduleCounts s) powerSupplies := rfl

theorem takes_checkEndpoint (epCfg : FwnodeEndpoint) :
    Takes moduleCounts [] (checkEndpoint epCfg) := by
  refine takes_bind (takes_rejectIf _ _) fun _ => ?_
  exact takes_bind (takes_rejectIf _ _) fun _ => takes_rejectIf _ _

/-- The check of the hardware configuration holds the node and the endpoint only while it
runs. -/
theorem takes_checkHwcfg (endpoint : Option FwnodeEndpoint) :
    Takes moduleCounts [] (imx219CheckHwcfg endpoint) := by
  rcases endpoint with _ | epCfg
  · exact takes_throw _ _
  · have hparse := takes_bind_onError
      (takes_failingWith (takes_take .endpoint) .einval)
      (fun _ => takes_checkEndpoint epCfg) (giveBack_counts [.endpoint]) (List.Perm.refl _)
    have hget : Takes moduleCounts [.endpointNode]
        (modify fwnodeGraphGetNextEndpoint : ModuleRoutine Unit) := takes_modify fun _ => rfl
    have hnode := takes_bind_onError hget (fun _ => hparse) (giveBack_counts [.endpointNode])
      (List.Perm.refl _)
    have hall := takes_bind_giveBack [] hnode (giveBack_counts [.endpoint, .endpointNode])
      (List.Perm.swap _ _ _)
    rwa [bind_assoc] at hall

theorem takes_initControls : Takes moduleCounts [.controls] imx219InitControls :=
  takes_bind_onError (takes_take .controls)
    (fun _ => takes_kernelCall takes_attempt) (giveBack_counts [.controls]) (List.Perm.refl _)

/-- What the driver holds of a bound sensor whether or not this is powered. -/
def boundResources : List Imx219Resource := [.controls, .entity, .subdev]

theorem takes_registerSensor : Takes moduleCounts boundResources registerSensor := by
  have hregister := takes_bind_onError (takes_take .entity)
    (fun _ => takes_take .subdev) (giveBack_counts [.entity])
    (List.Perm.refl _)
  have hcontrols := takes_bind_onError takes_initControls (fun _ => hregister)
    (giveBack_counts [.controls]) (List.Perm.refl _)
  refine takes_bind (takes_onBus imx219IdentifyModule) fun _ => ?_
  refine takes_bind (takes_onBus _) fun _ => ?_
  exact takes_bind (takes_onBus _) fun _ => hcontrols

theorem takes_probeSensor (node : Imx219Node) :
    Takes moduleCounts (powerSupplies ++ boundResources) (probeSensor node) := by
  have hpowered := takes_bind_onError takes_powerOn (fun _ => takes_registerSensor)
    powerOff_counts (List.Perm.refl _)
  refine takes_bind (takes_failingWith (takes_kernelCall takes_attempt) .enomem) fun _ => ?_
  refine takes_bind (takes_failingWith (takes_checkHwcfg node.endpoint) .einval) fun _ => ?_
  refine takes_bind (takes_kernelCall takes_attempt) fun _ => ?_
  refine takes_bind (takes_rejectIf _ _) fun _ => ?_
  refine takes_bind (takes_kernelCall takes_attempt) fun _ => ?_
  exact takes_bind (takes_modify fun _ => rfl) fun _ => hpowered

end Holding

section Binding

variable {γ : Type} {view : Imx219Module → γ}

theorem keeps_powerOn (hpower : ∀ s power, view (withPower s power) = view s)
    (hreset : ∀ s, view (setResetGpio true s) = view s) : Keeps view imx219PowerOn := by
  refine keeps_bind (keeps_onPart _ hpower) fun _ => ?_
  exact keeps_bind (keeps_onError (keeps_onPart _ hpower) fun s => hpower s _) fun _ => hreset

theorem keeps_checkHwcfg (hpower : ∀ s power, view (withPower s power) = view s)
    (endpoint : Option FwnodeEndpoint) : Keeps view (imx219CheckHwcfg endpoint) := by
  rcases endpoint with _ | epCfg
  · exact fun _ => rfl
  · refine keeps_bind (fun s => hpower s _) fun _ => ?_
    refine keeps_bind (keeps_onError ?_ fun s => hpower s _) fun _ s => hpower s _
    refine keeps_bind (keeps_failingWith (keeps_onPart _ hpower) _) fun _ => ?_
    refine keeps_onError ?_ fun s => hpower s _
    refine keeps_bind (keeps_rejectIf _ _) fun _ => ?_
    exact keeps_bind (keeps_rejectIf _ _) fun _ => keeps_rejectIf _ _

theorem keeps_registerSensor (hpower : ∀ s power, view (withPower s power) = view s)
    (hbus : ∀ (s : Imx219Module) bus, view { s with bus := bus } = view s) :
    Keeps view registerSensor := by
  refine keeps_bind (keeps_onPart _ hbus) fun _ => ?_
  refine keeps_bind (keeps_onPart _ hbus) fun _ => ?_
  refine keeps_bind (keeps_onPart _ hbus) fun _ => ?_
  have hcontrols : Keeps view imx219InitControls := keeps_bind (keeps_onPart _ hpower) fun _ =>
    keeps_onError (keeps_onPart _ hpower) fun s => hpower s _
  refine keeps_bind hcontrols fun _ => keeps_onError ?_ fun s => hpower s _
  exact keeps_bind (keeps_onPart _ hpower) fun _ =>
    keeps_onError (keeps_onPart _ hpower) fun s => hpower s _

theorem keeps_pm_probeSensor (node : Imx219Node) :
    Keeps Imx219Module.pm (probeSensor node) := by
  have hpower : ∀ s power, (withPower s power).pm = s.pm := fun _ _ => rfl
  refine keeps_bind (keeps_failingWith (keeps_onPart _ hpower) _) fun _ => ?_
  refine keeps_bind (keeps_failingWith (keeps_checkHwcfg hpower _) _) fun _ => ?_
  refine keeps_bind (keeps_onPart _ hpower) fun _ => ?_
  refine keeps_bind (keeps_rejectIf _ _) fun _ => ?_
  refine keeps_bind (keeps_onPart _ hpower) fun _ => ?_
  refine keeps_bind (fun _ => rfl) fun _ => ?_
  refine keeps_bind (keeps_powerOn hpower fun _ => rfl) fun _ => ?_
  exact keeps_onError (keeps_registerSensor hpower fun _ _ => rfl) fun _ => rfl

def LineAt (value : Bool) (line : Option Bool) : Prop := ∀ v ∈ line, v = value

theorem lineAt_setResetGpio (value : Bool) (s : Imx219Module) :
    LineAt value (setResetGpio value s).resetGpio := by
  intro v hv
  obtain ⟨_, -, rfl⟩ := Option.map_eq_some_iff.mp hv
  rfl

theorem ensures_powerOn : Ensures (fun s => LineAt true s.resetGpio) imx219PowerOn := by
  refine ensures_bind fun _ => ensures_bind fun _ s a t hrun => ?_
  obtain ⟨-, rfl⟩ := Prod.mk.inj hrun
  exact lineAt_setResetGpio true s

/-- A power-up that fails has not got to the reset line. -/
theorem powerOn_error_line {s t : Imx219Module} {e : Errno}
    (hrun : imx219PowerOn s = (.error e, t)) : t.resetGpio = s.resetGpio := by
  have hpower : ∀ s power, (withPower s power).resetGpio = s.resetGpio := fun _ _ => rfl
  have hclk : Keeps Imx219Module.resetGpio
      (regulatorBulkEnable imx219SupplyName >>= fun _ =>
        onError (regulatorBulkDisable imx219SupplyName) (clkPrepareEnable .xclk)) :=
    keeps_bind (keeps_onPart _ hpower) fun _ =>
      keeps_onError (keeps_onPart _ hpower) fun s => hpower s _
  have hkept := hclk s
  unfold imx219PowerOn at hrun
  rw [← bind_assoc] at hrun
  rcases bind_inv hrun with ⟨_, _, -, hlast⟩ | ⟨_, hfailed, -⟩
  · exact absurd (congrArg Prod.fst hlast) nofun
  · rwa [hfailed] at hkept

theorem ensures_probeSensor (node : Imx219Node) :
    Ensures (fun s => LineAt true s.resetGpio) (probeSensor node) := by
  iterate 6 refine ensures_bind fun _ => ?_
  intro s a t hrun
  rcases bind_inv hrun with ⟨_, u, hpower, hrest⟩ | ⟨e, -, h⟩
  · rcases onError_inv hrest with ⟨_, hregister, -⟩ | ⟨e, _, -, h, -⟩
    · have hkeeps : Keeps Imx219Module.resetGpio registerSensor :=
        keeps_registerSensor (fun _ _ => rfl) fun _ _ => rfl
      have hkept := hkeeps u
      rw [hregister] at hkept
      rw [show t.resetGpio = u.resetGpio from hkept]
      exact ensures_powerOn s _ u hpower
    · exact absurd h nofun
  · exact absurd h nofun

end Binding

def heldResources : Option RpmStatus → List Imx219Resource
  | none => []
  | some .suspended => boundResources
  | some .active => powerSupplies ++ boundResources

/-- The driver holds, beside what was held at the start, what it needs in its state, and the
sensor of a bound driver is out of reset while it is active. -/
structure Accounted (start s : Imx219Module) : Prop where
  counts : moduleCounts s = increaseAll (moduleCounts start) (heldResources s.pm)
  line : ∀ status, s.pm = some status → LineAt (decide (status = .active)) s.resetGpio

theorem accounted_probe {start s : Imx219Module} (h : Accounted start s) (hpm : s.pm = none)
    (node : Imx219Node) : Accounted start (lifecycleStep s (.probe node)) := by
  have hheld := h.counts
  rw [hpm] at hheld
  have hpm' := keeps_pm_probeSensor node s
  change Accounted start ((probeSensor node >>= fun _ => modify _) s).2
  rcases hrun : probeSensor node s with ⟨e | _, t⟩
  · rw [bind_error hrun]
    rw [hrun] at hpm'
    have hnone : t.pm = none := hpm'.trans hpm
    refine ⟨?_, fun status hstatus => absurd (hnone.symm.trans hstatus) nofun⟩
    rw [hnone, (takes_probeSensor node).error hrun]
    exact hheld
  · rw [bind_ok hrun]
    refine ⟨?_, fun status hstatus => ?_⟩
    · change moduleCounts t = _
      rw [(takes_probeSensor node).ok hrun, hheld]
      rfl
    · obtain rfl : RpmStatus.active = status := Option.some.inj hstatus
      exact ensures_probeSensor node s _ t hrun

theorem accounted_runtimeSuspend {start s : Imx219Module} (h : Accounted start s)
    (hpm : s.pm = some .active) : Accounted start (lifecycleStep s .runtimeSuspend) where
  counts := by
    have hheld := h.counts
    rw [hpm] at hheld
    change moduleCounts (imx219PowerOff s) = _
    rw [powerOff_counts, hheld]
    exact decreaseAll_increaseAll_part List.perm_append_comm _
  line status hstatus := by
    obtain rfl : RpmStatus.suspended = status := Option.some.inj hstatus
    exact lineAt_setResetGpio false s

theorem accounted_runtimeResume {start s : Imx219Module} (h : Accounted start s)
    (hpm : s.pm = some .suspended) : Accounted start (lifecycleStep s .runtimeResume) := by
  have hheld := h.counts
  rw [hpm] at hheld
  unfold lifecycleStep
  rcases hrun : imx219PowerOn s with ⟨e | _, t⟩
  · have hkeeps : Keeps Imx219Module.pm imx219PowerOn :=
      keeps_powerOn (fun _ _ => rfl) fun _ => rfl
    have hpm' := hkeeps s
    rw [hrun] at hpm'
    change Accounted start t
    refine ⟨?_, fun status hstatus => ?_⟩
    · rw [takes_powerOn.error hrun, hheld, show t.pm = _ from hpm'.trans hpm]
    · rw [powerOn_error_line hrun]
      exact h.line status (hpm'.symm.trans hstatus)
  · refine ⟨?_, fun status hstatus => ?_⟩
    · change moduleCounts t = _
      rw [takes_powerOn.ok hrun, hheld, ← increaseAll_append]
      exact increaseAll_perm List.perm_append_comm _
    · obtain rfl : RpmStatus.active = status := Option.some.inj hstatus
      exact ensures_powerOn s _ t hrun

theorem accounted_remove {start s : Imx219Module} (h : Accounted start s)
    (hpm : s.pm ≠ none) : Accounted start (lifecycleStep s .remove) := by
  have hheld := h.counts
  have hbound : decreaseAll (moduleCounts s) [.subdev, .entity, .controls] =
      increaseAll (moduleCounts start)
        (if s.pm = some .suspended then [] else powerSupplies) := by
    rw [hheld]
    apply decreaseAll_increaseAll_part
    rcases hstatus : s.pm with _ | _ | _
    · exact absurd hstatus hpm
    · decide
    · decide
  refine ⟨?_, fun _ hnone => absurd hnone nofun⟩
  change moduleCounts (if s.pm = some .suspended then _ else _) = _
  split at hbound
  · rename_i hsuspended
    rw [if_pos hsuspended]
    exact hbound
  · rename_i hactive
    rw [if_neg hactive, powerOff_counts]
    change decreaseAll (decreaseAll (moduleCounts s) [.subdev, .entity, .controls]) _ = _
    rw [hbound, decreaseAll_increaseAll (List.Perm.refl _)]
    rfl

theorem accounted_step {start : Imx219Module} (s : Imx219Module) (call : LifecycleCall)
    (h : Accounted start s) (hfits : LifecycleFits s call) :
    Accounted start (lifecycleStep s call) := by
  cases call with
  | probe node => exact accounted_probe h hfits node
  | runtimeSuspend => exact accounted_runtimeSuspend h hfits
  | runtimeResume => exact accounted_runtimeResume h hfits
  | remove => exact accounted_remove h hfits

/-- Whatever calls fail, the driver holds exactly what its state needs after every call of
a run: nothing after a probe that failed or a remove, the controls, the entity and the
subdevice while it is bound, and the supplies and the clock while the sensor is active. -/
theorem resources_accounted {s : Imx219Module} (hpm : s.pm = none) (calls : List LifecycleCall)
    (hfits : Along lifecycleStep LifecycleFits s calls) :
    Always lifecycleStep (Accounted s) s calls := by
  refine always_of_along accounted_step ⟨?_, fun _ hstatus => ?_⟩ hfits
  · rw [hpm]
    rfl
  · exact absurd (hpm.symm.trans hstatus) nofun

def boardModule (outcomes : List (Option Errno)) : Imx219Module where
  bus := ⟨⟨⟨fun reg => if reg = 0x0000#16 then 0x02#8 else if reg = 0x0001#16 then 0x19#8 else 0#8,
    0#16⟩, []⟩, []⟩
  power := ⟨fun _ => 0, outcomes⟩
  resetGpio := none
  pm := none

/-- The device tree of a board that the driver can drive. -/
def boardNode : Imx219Node := ⟨some ⟨2, [456000000]⟩, 24000000, true⟩

/-- A probe that finds no endpoint, and one that binds the driver until it is removed. -/
def boardCalls : List LifecycleCall :=
  [.probe { boardNode with endpoint := none }, .probe boardNode, .runtimeSuspend, .runtimeResume,
    .remove]

theorem resources_accounted_board :
    Always lifecycleStep (Accounted (boardModule [])) (boardModule []) boardCalls := by
  refine resources_accounted rfl boardCalls ⟨rfl, rfl, ?_, ?_, ?_, trivial⟩
  · rfl
  · rfl
  · exact nofun

section Acceptance

theorem identifyModule_faults (client : BusClient) :
    (imx219IdentifyModule client).2.faults = client.faults.drop 1 := by
  have hread : (imx219ReadReg imx219RegChipId 2 client).2.faults = client.faults.drop 1 := by
    unfold imx219ReadReg
    dsimp only
    rw [if_neg (by decide)]
    rcases i2cTransferMessages_run [.write [(imx219RegChipId >>> 8).setWidth 8,
      (imx219RegChipId &&& 0xff#16).setWidth 8], .read 2] client with ⟨-, hrun⟩ | ⟨-, e, hrun⟩
    · rw [hrun]
    · rw [hrun]
  rcases hrun : imx219ReadReg imx219RegChipId 2 client with ⟨e | val, t⟩
  · rw [hrun] at hread
    unfold imx219IdentifyModule
    rw [bind_error hrun]
    exact hread
  · rw [hrun] at hread
    unfold imx219IdentifyModule
    rw [bind_ok hrun]
    split
    · exact hread
    · exact hread

def ChipIdMatches (client : BusClient) : Prop :=
  client.chip.device.regs 0x0000#16 = 0x02#8 ∧ client.chip.device.regs 0x0001#16 = 0x19#8

theorem succeedsFrom_identifyModule :
    SucceedsFrom (fun client => NoFault 1 client.faults ∧ ChipIdMatches client)
      (fun client => (imx219IdentifyModule client).2) imx219IdentifyModule := by
  intro client
  have hiff := identifyModule_ok_iff client
  rcases hrun : imx219IdentifyModule client with ⟨e | _, t⟩
  · rw [hrun] at hiff
    exact .inr ⟨fun h => absurd (hiff.mpr h) nofun, e, t, rfl⟩
  · rw [hrun] at hiff
    exact .inl ⟨hiff.mp rfl, Prod.ext rfl (congrArg Prod.snd hrun).symm⟩

theorem succeedsFrom_writeReg {len : Nat} (hlen : len ≤ 4) (reg : U16) (val : U32) :
    SucceedsFrom (fun client => NoFault 1 client.faults)
      (fun client => ⟨client.chip.after
        [.write (bigEndian 2 reg.toNat ++ bigEndian len val.toNat)], client.faults.drop 1⟩)
      (imx219WriteReg reg len val) := by
  intro client
  rcases writeReg_run hlen reg val client with h | ⟨hfault, hrun⟩
  · exact .inl h
  · exact .inr ⟨hfault, .eio, _, hrun⟩

/-- The state after calls that succeeded and took the resources. -/
def afterCalls (resources : List Imx219Resource) (calls : Nat) (s : Imx219Module) : Imx219Module :=
  withPower s (taken resources calls s.power)

theorem afterCalls_afterCalls (rs more : List Imx219Resource) (n m : Nat) (s : Imx219Module) :
    afterCalls more m (afterCalls rs n s) = afterCalls (rs ++ more) (n + m) s := by
  unfold afterCalls
  rw [← taken_taken]
  rfl

theorem afterCalls_outcomes (resources : List Imx219Resource) (calls : Nat) (s : Imx219Module) :
    (afterCalls resources calls s).power.outcomes = s.power.outcomes.drop calls := rfl

theorem succeedsFrom_attemptCall :
    SucceedsFrom (fun s : Imx219Module => NoFailure 1 s.power.outcomes) (afterCalls [] 1)
      (kernelCall attempt) :=
  succeedsFrom_onPart succeedsFrom_attempt

theorem succeedsFrom_take (r : Imx219Resource) :
    SucceedsFrom (fun s : Imx219Module => NoFailure 1 s.power.outcomes) (afterCalls [r] 1)
      (kernelCall (enable r)) :=
  succeedsFrom_onPart (succeedsFrom_enable r)

theorem succeedsFrom_bulkEnable (supplies : List Imx219Resource) :
    SucceedsFrom (fun s : Imx219Module => NoFailure supplies.length s.power.outcomes)
      (afterCalls supplies supplies.length) (regulatorBulkEnable supplies) :=
  succeedsFrom_onPart (succeedsFrom_enableAll supplies)

theorem succeedsFrom_powerOn :
    SucceedsFrom (fun s : Imx219Module => NoFailure 4 s.power.outcomes)
      (fun s => setResetGpio true (afterCalls powerSupplies 4 s)) imx219PowerOn := by
  have hclk := succeedsFrom_onError (succeedsFrom_take .xclk)
    (regulatorBulkDisable imx219SupplyName)
  have hchain := succeedsFrom_bind (succeedsFrom_bulkEnable imx219SupplyName)
    (succeedsFrom_bind hclk (succeedsFrom_modify (setResetGpio true)))
  refine hchain.congr (fun s => ?_) fun s => ?_
  · rw [noFailure_add 3 1, and_true]
    rfl
  · exact congrArg (setResetGpio true) (afterCalls_afterCalls imx219SupplyName [.xclk] 3 1 s)

theorem succeedsFrom_register :
    SucceedsFrom (fun s : Imx219Module => NoFailure 4 s.power.outcomes)
      (afterCalls boundResources 4)
      (imx219InitControls >>= fun _ => onError imx219FreeControls do
        kernelCall (enable .entity)
        onError mediaEntityCleanup (kernelCall (enable .subdev))) := by
  have hcontrols := succeedsFrom_bind (succeedsFrom_take .controls)
    (succeedsFrom_onError succeedsFrom_attemptCall imx219FreeControls)
  have hentity := succeedsFrom_bind (succeedsFrom_take .entity)
    (succeedsFrom_onError (succeedsFrom_take .subdev) mediaEntityCleanup)
  have hchain := succeedsFrom_bind hcontrols (succeedsFrom_onError hentity imx219FreeControls)
  refine hchain.congr (fun s => ?_) fun s => ?_
  · rw [noFailure_add 2 2, noFailure_add 1 1, noFailure_add 1 1]
    simp only [Function.comp_apply, afterCalls_outcomes, List.drop_drop]
  · simp only [Function.comp_apply, afterCalls_afterCalls]
    rfl

theorem succeedsFrom_onBus {P : BusClient → Prop} {f : BusClient → BusClient}
    {x : Driver BusClient Unit} (hx : SucceedsFrom P f x) :
    SucceedsFrom (fun s : Imx219Module => P s.bus) (fun s => { s with bus := f s.bus }) (onBus x) :=
  succeedsFrom_onPart hx

/-- What the bus and the calls have to let through for a powered sensor to be bound. -/
theorem registerSensor_ok_iff (s : Imx219Module) : (registerSensor s).1 = .ok () ↔
    ChipIdMatches s.bus ∧ NoFault 3 s.bus.faults ∧ NoFailure 4 s.power.outcomes := by
  have hwrite := fun val => succeedsFrom_onBus
    (succeedsFrom_writeReg (show 1 ≤ 4 by decide) imx219RegModeSelect val)
  have hchain := succeedsFrom_bind (succeedsFrom_onBus succeedsFrom_identifyModule)
    (succeedsFrom_bind (hwrite imx219ModeStreaming)
      (succeedsFrom_bind (hwrite imx219ModeStandby) succeedsFrom_register))
  refine (hchain.ok_iff s).trans ?_
  dsimp only
  rw [identifyModule_faults, noFault_add 1 2, noFault_add 1 1, List.drop_drop]
  tauto

/-- Two lanes, and the default link frequency alone. -/
def EndpointFits (epCfg : FwnodeEndpoint) : Prop := epCfg = ⟨2, [imx219DefaultLinkFreq]⟩

theorem succeedsFrom_checkEndpoint (epCfg : FwnodeEndpoint) :
    SucceedsFrom (fun _ => EndpointFits epCfg) id (checkEndpoint epCfg) := by
  have hchain := succeedsFrom_bind (σ := Imx219Module)
    (succeedsFrom_rejectIf (epCfg.numDataLanes ≠ 2) Errno.einval)
    (succeedsFrom_bind (succeedsFrom_rejectIf (epCfg.linkFrequencies.length = 0) Errno.einval)
      (succeedsFrom_rejectIf (epCfg.linkFrequencies.length ≠ 1 ∨
        epCfg.linkFrequencies.headD 0 ≠ imx219DefaultLinkFreq) Errno.einval))
  refine hchain.congr (fun _ => ?_) fun _ => rfl
  obtain ⟨lanes, freqs⟩ := epCfg
  unfold EndpointFits
  rcases freqs with _ | ⟨freq, _ | ⟨other, rest⟩⟩
  · simp
  · simp
  · simp

theorem succeedsFrom_checkHwcfg (epCfg : FwnodeEndpoint) :
    SucceedsFrom (fun s : Imx219Module => NoFailure 1 s.power.outcomes ∧ EndpointFits epCfg)
      (fun s => giveBack [.endpoint, .endpointNode]
        (afterCalls [.endpoint] 1 (fwnodeGraphGetNextEndpoint s)))
      (imx219CheckHwcfg (some epCfg)) := by
  have hparse := succeedsFrom_bind
    (succeedsFrom_failingWith (succeedsFrom_take .endpoint) .einval)
    (succeedsFrom_onError (succeedsFrom_checkEndpoint epCfg) (giveBack [.endpoint]))
  have hchain := succeedsFrom_bind (succeedsFrom_modify fwnodeGraphGetNextEndpoint)
    (succeedsFrom_bind (succeedsFrom_onError hparse (giveBack [.endpointNode]))
      (succeedsFrom_modify (giveBack [.endpoint, .endpointNode])))
  refine hchain.congr (fun s => ?_) fun s => rfl
  rw [true_and, and_true]
  rfl

/-- When the driver binds: the device tree says what it can drive, the chip has its id, and
every call and every transfer that it makes goes through. -/
structure ProbeAccepts (node : Imx219Node) (s : Imx219Module) : Prop where
  endpoint : node.endpoint = some ⟨2, [imx219DefaultLinkFreq]⟩
  xclk : node.xclkFreq = imx219XclkFreq
  chipId : ChipIdMatches s.bus
  transfers : NoFault 3 s.bus.faults
  calls : NoFailure 12 s.power.outcomes

theorem noFailure_probe (outcomes : List (Option Errno)) : NoFailure 12 outcomes ↔
    NoFailure 1 outcomes ∧ NoFailure 1 (outcomes.drop 1) ∧ NoFailure 1 (outcomes.drop 2) ∧
      NoFailure 1 (outcomes.drop 3) ∧ NoFailure 4 (outcomes.drop 4) ∧
      NoFailure 4 (outcomes.drop 8) := by
  rw [noFailure_add 1 11, noFailure_add 1 10, noFailure_add 1 9, noFailure_add 1 8,
    noFailure_add 4 4]
  simp only [List.drop_drop]

theorem probeSensor_ok_iff (node : Imx219Node) (s : Imx219Module) :
    (probeSensor node s).1 = .ok () ↔ ProbeAccepts node s := by
  have hpower := succeedsFrom_bind succeedsFrom_powerOn
    (succeedsFrom_onError (succeedsFrom_self registerSensor) imx219PowerOff)
  rcases hendpoint : node.endpoint with _ | epCfg
  · have hcheck : SucceedsFrom (fun _ => False) id (imx219CheckHwcfg node.endpoint) := by
      rw [hendpoint]
      exact succeedsFrom_throw _
    have hchain := succeedsFrom_bind
      (succeedsFrom_failingWith succeedsFrom_attemptCall .enomem)
      (succeedsFrom_bind (succeedsFrom_failingWith hcheck .einval)
      (succeedsFrom_bind succeedsFrom_attemptCall
      (succeedsFrom_bind (succeedsFrom_rejectIf (node.xclkFreq ≠ imx219XclkFreq) Errno.einval)
      (succeedsFrom_bind succeedsFrom_attemptCall
      (succeedsFrom_bind (succeedsFrom_modify (requestResetGpio node)) hpower)))))
    refine (hchain.ok_iff s).trans ⟨fun h => h.2.1.elim, fun h => ?_⟩
    exact absurd (hendpoint.symm.trans h.endpoint) nofun
  · have hchain := succeedsFrom_bind
      (succeedsFrom_failingWith succeedsFrom_attemptCall .enomem)
      (succeedsFrom_bind (succeedsFrom_failingWith (succeedsFrom_checkHwcfg epCfg) .einval)
      (succeedsFrom_bind succeedsFrom_attemptCall
      (succeedsFrom_bind (succeedsFrom_rejectIf (node.xclkFreq ≠ imx219XclkFreq) Errno.einval)
      (succeedsFrom_bind succeedsFrom_attemptCall
      (succeedsFrom_bind (succeedsFrom_modify (requestResetGpio node)) hpower)))))
    rw [← hendpoint] at hchain
    refine (hchain.ok_iff s).trans ?_
    rw [registerSensor_ok_iff]
    change NoFailure 1 s.power.outcomes ∧ (NoFailure 1 (s.power.outcomes.drop 1) ∧ _) ∧
      NoFailure 1 ((s.power.outcomes.drop 1).drop 1) ∧ _ ∧
      NoFailure 1 (((s.power.outcomes.drop 1).drop 1).drop 1) ∧ True ∧
      NoFailure 4 ((((s.power.outcomes.drop 1).drop 1).drop 1).drop 1) ∧
      ChipIdMatches s.bus ∧ NoFault 3 s.bus.faults ∧
      NoFailure 4 (((((s.power.outcomes.drop 1).drop 1).drop 1).drop 1).drop 4) ↔ _
    simp only [List.drop_drop, not_not]
    constructor
    · rintro ⟨h0, ⟨h1, hfits⟩, h2, hxclk, h3, -, h4, hid, hbus, h8⟩
      exact ⟨hendpoint.trans (congrArg some hfits), hxclk, hid, hbus,
        (noFailure_probe _).mpr ⟨h0, h1, h2, h3, h4, h8⟩⟩
    · intro h
      obtain ⟨h0, h1, h2, h3, h4, h8⟩ := (noFailure_probe _).mp h.calls
      have hfits : EndpointFits epCfg := Option.some.inj (hendpoint.symm.trans h.endpoint)
      exact ⟨h0, ⟨h1, hfits⟩, h2, h.xclk, h3, trivial, h4, h.chipId, h.transfers, h8⟩

/-- The driver binds exactly the boards that it can drive; which call is the first to fail
makes no difference. -/
theorem imx219Probe_ok_iff (node : Imx219Node) (s : Imx219Module) :
    (imx219Probe node s).1 = .ok () ↔ ProbeAccepts node s := by
  rw [← probeSensor_ok_iff]
  unfold imx219Probe
  rcases hrun : probeSensor node s with ⟨e | _, t⟩
  · rw [bind_error hrun]
  · rw [bind_ok hrun]
    exact ⟨fun _ => rfl, fun _ => rfl⟩

end Acceptance

theorem probe_board : (imx219Probe boardNode (boardModule [])).1 = .ok () := by
  refine (imx219Probe_ok_iff boardNode (boardModule [])).mpr ⟨rfl, rfl, ⟨rfl, rfl⟩, ?_, ?_⟩
  · exact fun _ h => absurd h List.not_mem_nil
  · exact fun _ h => absurd h List.not_mem_nil

end CameraPorting.SensorImx219.Lifecycle
