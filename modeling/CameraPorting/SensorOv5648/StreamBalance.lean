import CameraPorting.Library.Runs
import CameraPorting.SensorOv5648.Transfers
import CameraPorting.SensorOv5648.PowerTransitions
import CameraPorting.SensorOv5648.RegisterImage

namespace CameraPorting.SensorOv5648.StreamBalance

open CameraPorting.Kernel.Media
open CameraPorting.Kernel.I2c
open CameraPorting.Library.Runs
open CameraPorting.SensorOv5648.Modes
open CameraPorting.SensorOv5648.RegisterAccess
open CameraPorting.SensorOv5648.Sensor
open CameraPorting.SensorOv5648.RegisterPrograms
open CameraPorting.SensorOv5648.PowerUp
open CameraPorting.SensorOv5648.Transfers
open CameraPorting.SensorOv5648.PowerTransitions
open CameraPorting.SensorOv5648.RegisterImage

/-- The sensor with the runtime-PM references of its driver: the ones it took less
the ones it returned. -/
structure Ov5648Device where
  sensor : Ov5648
  pmRefs : Int

/-- A call of `ov5648_s_stream`. `denied` is a refusal of the runtime-PM core to
resume the device; `idles` says whether the core suspends the device when the last
reference is returned. -/
structure StreamCall where
  enable : Bool
  denied : Option Errno
  idles : Bool

def onSensor {α : Type} (x : SensorRoutine α) : Driver Ov5648Device α := fun d =>
  let (r, sensor) := x d.sensor
  (r, { d with sensor := sensor })

def pmRuntimeGetSync (denied : Option Errno) : Driver Ov5648Device Unit := do
  modify fun d => { d with pmRefs := d.pmRefs + 1 }
  match denied with
  | some e => throw e
  | none => onSensor pmRuntimeResume

def pmRuntimePutNoidle (d : Ov5648Device) : Ov5648Device := { d with pmRefs := d.pmRefs - 1 }

/-- `pm_runtime_put`; what the suspend returns is not seen by the caller. -/
def pmRuntimePut (idles : Bool) (d : Ov5648Device) : Ov5648Device :=
  if d.pmRefs = 1 ∧ idles = true then
    { sensor := (pmRuntimeSuspend d.sensor).2, pmRefs := d.pmRefs - 1 }
  else { d with pmRefs := d.pmRefs - 1 }

def withStreaming (d : Ov5648Device) (streaming : Bool) : Ov5648Device :=
  { d with sensor := { d.sensor with streaming := streaming } }

def ov5648SStream (call : StreamCall) : Driver Ov5648Device Unit := do
  if call.enable then
    fun d => match pmRuntimeGetSync call.denied d with
      | (.ok (), d) => (.ok (), d)
      | (.error e, d) => (.error e, pmRuntimePutNoidle d)
  onSensor (onClient (ov5648SwStandby (!call.enable)))
  modify fun d => withStreaming d call.enable
  if !call.enable then modify fun d => pmRuntimePut call.idles d

def streamStep (d : Ov5648Device) (call : StreamCall) : Ov5648Device := (ov5648SStream call d).2

/-- The driver holds one reference while it streams and none otherwise. -/
def StreamBalanced (d : Ov5648Device) : Prop :=
  d.pmRefs = if d.sensor.streaming then 1 else 0

def CallKeepsBalance (d : Ov5648Device) (call : StreamCall) : Prop :=
  StreamBalanced (streamStep d call) ∧ ∀ e, (ov5648SStream call d).1 = .error e →
    (streamStep d call).sensor.streaming = d.sensor.streaming ∧
      (streamStep d call).pmRefs = d.pmRefs

def GetSyncFails (d : Ov5648Device) (denied : Option Errno) : Prop :=
  (pmRuntimeGetSync denied d).1 ≠ .ok ()

/-- The next transfer, which writes the standby register, fails. -/
def StandbyFails (d : Ov5648Device) : Prop := ¬NoFault 1 d.sensor.client.faults

/-- The calls that keep the balance: a stream-on whose get fails, or that starts an
idle sensor with a write that succeeds; a stream-off of a streaming sensor, or one
whose write fails. -/
def StreamCallFits (d : Ov5648Device) (call : StreamCall) : Prop :=
  match call.enable with
  | true => GetSyncFails d call.denied ∨
      (d.sensor.streaming = false ∧ ¬StandbyFails (pmRuntimeGetSync call.denied d).2)
  | false => d.sensor.streaming = true ∨ StandbyFails d

theorem onSensor_ok {α : Type} {x : SensorRoutine α} {d : Ov5648Device} {a : α} {s : Ov5648}
    (h : x d.sensor = (.ok a, s)) : onSensor x d = (.ok a, { d with sensor := s }) := by
  unfold onSensor
  rw [h]

section PowerStable

variable {P : Ov5648 → Prop}

theorem preserves_onSensor {α : Type} {x : SensorRoutine α} (hx : Preserves P x) :
    Preserves (fun d : Ov5648Device => P d.sensor) (onSensor x) :=
  fun d hd => hx d.sensor hd

theorem preserves_getSync (hP : PowerStable P) (denied : Option Errno) :
    Preserves (fun d => P d.sensor) (pmRuntimeGetSync denied) := by
  refine preserves_bind (preserves_modify fun _ hd => hd) fun _ => ?_
  cases denied with
  | some e => exact preserves_throw e
  | none => exact preserves_onSensor (preserves_pmRuntimeResume hP)

theorem put_stable (hP : PowerStable P) (idles : Bool) {d : Ov5648Device} (hd : P d.sensor) :
    P (pmRuntimePut idles d).sensor := by
  unfold pmRuntimePut
  split
  · exact preserves_pmRuntimeSuspend hP d.sensor hd
  · exact hd

theorem preserves_sStream (hP : PowerStable P)
    (hstreaming : ∀ s streaming, P s → P { s with streaming := streaming })
    (call : StreamCall) : Preserves (fun d => P d.sensor) (ov5648SStream call) := by
  have hrest : Preserves (fun d => P d.sensor) (do
      onSensor (onClient (ov5648SwStandby (!call.enable)))
      modify fun d => withStreaming d call.enable
      if !call.enable then modify fun d => pmRuntimePut call.idles d) := by
    refine preserves_bind (preserves_onSensor (preserves_onClient hP.toInitStable _)) fun _ => ?_
    refine preserves_bind (preserves_modify fun d hd => hstreaming d.sensor _ hd) fun _ => ?_
    split
    · exact preserves_modify fun _ hd => put_stable hP call.idles hd
    · exact preserves_pure ()
  unfold ov5648SStream
  by_cases henable : call.enable = true
  · rw [if_pos henable]
    refine preserves_bind (fun d hd => ?_) fun _ => hrest
    have hgot := preserves_getSync hP call.denied d hd
    rcases hget : pmRuntimeGetSync call.denied d with ⟨_ | _, t⟩
    · rwa [hget] at hgot
    · rwa [hget] at hgot
  · rw [if_neg henable]
    exact hrest

end PowerStable

theorem getSync_frame (denied : Option Errno) (d : Ov5648Device) :
    (pmRuntimeGetSync denied d).2.pmRefs = d.pmRefs + 1 ∧
      (pmRuntimeGetSync denied d).2.sensor.streaming = d.sensor.streaming := by
  refine ⟨?_, preserves_getSync (streaming_powerStable d.sensor.streaming) denied d rfl⟩
  unfold pmRuntimeGetSync
  rw [driver_bind_ok (driver_modify _ d)]
  cases denied with
  | some e => rfl
  | none => rfl

theorem put_frame (idles : Bool) (d : Ov5648Device) :
    (pmRuntimePut idles d).pmRefs = d.pmRefs - 1 ∧
      (pmRuntimePut idles d).sensor.streaming = d.sensor.streaming := by
  refine ⟨?_, put_stable (streaming_powerStable d.sensor.streaming) idles rfl⟩
  unfold pmRuntimePut
  split
  · rfl
  · rfl

theorem swStandby_outcome (standby : Bool) (d : Ov5648Device) :
    (¬StandbyFails d ∧ ∃ client, onSensor (onClient (ov5648SwStandby standby)) d =
        (.ok (), { d with sensor := withClient d.sensor client })) ∨
      (StandbyFails d ∧ ∃ e client, onSensor (onClient (ov5648SwStandby standby)) d =
        (.error e, { d with sensor := withClient d.sensor client })) := by
  rcases transfers_write _ _ d.sensor.client with ⟨hok, _, client, hrun, -⟩ |
    ⟨hfault, e, client, hrun⟩
  · refine .inl ⟨fun h => h hok, client, ?_⟩
    unfold onSensor onClient ov5648SwStandby
    rw [hrun]
    rfl
  · refine .inr ⟨hfault, e, client, ?_⟩
    unfold onSensor onClient ov5648SwStandby
    rw [hrun]
    rfl

theorem streamOn_outcome (d : Ov5648Device) {call : StreamCall} (hon : call.enable = true) :
    (GetSyncFails d call.denied ∧ ∃ e t, ov5648SStream call d = (.error e, t) ∧
        t.pmRefs = d.pmRefs ∧ t.sensor.streaming = d.sensor.streaming) ∨
      (¬GetSyncFails d call.denied ∧ StandbyFails (pmRuntimeGetSync call.denied d).2 ∧
        ∃ e t, ov5648SStream call d = (.error e, t) ∧ t.pmRefs = d.pmRefs + 1 ∧
          t.sensor.streaming = d.sensor.streaming) ∨
      (¬GetSyncFails d call.denied ∧ ¬StandbyFails (pmRuntimeGetSync call.denied d).2 ∧
        ∃ t, ov5648SStream call d = (.ok (), t) ∧ t.pmRefs = d.pmRefs + 1 ∧
          t.sensor.streaming = true) := by
  obtain ⟨hrefs, hstreaming⟩ := getSync_frame call.denied d
  unfold ov5648SStream GetSyncFails
  rw [hon, if_pos rfl]
  rcases hget : pmRuntimeGetSync call.denied d with ⟨e | _, t⟩
  · rw [hget] at hrefs hstreaming
    refine .inl ⟨nofun, e, pmRuntimePutNoidle t, ?_, ?_, ?_⟩
    · refine driver_bind_error ?_ _
      rw [hget]
    · change t.pmRefs - 1 = d.pmRefs
      rw [hrefs, Int.add_sub_cancel]
    · exact hstreaming
  · rw [hget] at hrefs hstreaming
    have hstart : (fun d => match pmRuntimeGetSync call.denied d with
        | (.ok (), d) => (.ok (), d)
        | (.error e, d) => (.error e, pmRuntimePutNoidle d) : Driver Ov5648Device Unit) d =
          (.ok (), t) := by
      dsimp only
      rw [hget]
    rw [driver_bind_ok hstart]
    rcases swStandby_outcome (!true) t with ⟨hok, client, hrun⟩ | ⟨hfault, e, client, hrun⟩
    · refine .inr (.inr ⟨fun h => h rfl, hok, ?_⟩)
      change ∃ s, (onSensor (onClient (ov5648SwStandby (!true))) >>= _) t = _ ∧ _
      rw [driver_bind_ok hrun]
      exact ⟨_, rfl, hrefs, rfl⟩
    · refine .inr (.inl ⟨fun h => h rfl, hfault, e, _, driver_bind_error hrun _, hrefs, ?_⟩)
      exact hstreaming

theorem streamOff_outcome (d : Ov5648Device) {call : StreamCall} (hoff : call.enable = false) :
    (StandbyFails d ∧ ∃ e t, ov5648SStream call d = (.error e, t) ∧
        t.pmRefs = d.pmRefs ∧ t.sensor.streaming = d.sensor.streaming) ∨
      (¬StandbyFails d ∧ ∃ t, ov5648SStream call d = (.ok (), t) ∧
        t.pmRefs = d.pmRefs - 1 ∧ t.sensor.streaming = false) := by
  unfold ov5648SStream
  rw [hoff, if_neg Bool.false_ne_true]
  rcases swStandby_outcome (!false) d with ⟨hok, client, hrun⟩ | ⟨hfault, e, client, hrun⟩
  · refine .inr ⟨hok, ?_⟩
    change ∃ t, (onSensor (onClient (ov5648SwStandby (!false))) >>= _) d = _ ∧ _
    rw [driver_bind_ok hrun]
    exact ⟨_, rfl, put_frame call.idles _⟩
  · exact .inl ⟨hfault, e, _, driver_bind_error hrun _, rfl, rfl⟩

theorem callKeepsBalance_of_fits {d : Ov5648Device} (hd : StreamBalanced d) {call : StreamCall}
    (hcall : StreamCallFits d call) : CallKeepsBalance d call := by
  unfold CallKeepsBalance streamStep StreamBalanced
  unfold StreamBalanced at hd
  unfold StreamCallFits at hcall
  cases henable : call.enable with
  | true =>
      rw [henable] at hcall
      rcases streamOn_outcome d henable with ⟨-, e, t, hrun, hrefs, hstreaming⟩ |
        ⟨hget, hstandby, -⟩ | ⟨hget, -, t, hrun, hrefs, hstreaming⟩
      · rw [hrun]
        refine ⟨?_, fun _ _ => ⟨hstreaming, hrefs⟩⟩
        change t.pmRefs = if t.sensor.streaming then 1 else 0
        rw [hrefs, hd, hstreaming]
      · rcases hcall with hfails | ⟨-, hok⟩
        · exact absurd hfails hget
        · exact absurd hstandby hok
      · rcases hcall with hfails | ⟨hidle, -⟩
        · exact absurd hfails hget
        · rw [hrun]
          refine ⟨?_, nofun⟩
          change t.pmRefs = if t.sensor.streaming then 1 else 0
          rw [hrefs, hd, hidle, hstreaming]
          rfl
  | false =>
      rw [henable] at hcall
      rcases streamOff_outcome d henable with ⟨-, e, t, hrun, hrefs, hstreaming⟩ |
        ⟨hok, t, hrun, hrefs, hstreaming⟩
      · rw [hrun]
        refine ⟨?_, fun _ _ => ⟨hstreaming, hrefs⟩⟩
        change t.pmRefs = if t.sensor.streaming then 1 else 0
        rw [hrefs, hd, hstreaming]
      · rcases hcall with hstreams | hfails
        · rw [hrun]
          refine ⟨?_, nofun⟩
          change t.pmRefs = if t.sensor.streaming then 1 else 0
          rw [hrefs, hd, hstreams, hstreaming]
          rfl
        · exact absurd hfails hok

theorem fits_of_callKeepsBalance {d : Ov5648Device} (hd : StreamBalanced d) {call : StreamCall}
    (hcall : CallKeepsBalance d call) : StreamCallFits d call := by
  unfold CallKeepsBalance streamStep StreamBalanced at hcall
  unfold StreamBalanced at hd
  unfold StreamCallFits
  cases henable : call.enable with
  | true =>
      rcases streamOn_outcome d henable with ⟨hget, -⟩ |
        ⟨-, -, e, t, hrun, hrefs, -⟩ | ⟨-, hok, t, hrun, hrefs, hstreaming⟩
      · exact .inl hget
      · rw [hrun] at hcall
        have hkept : t.pmRefs = d.pmRefs := (hcall.2 e rfl).2
        omega
      · rw [hrun] at hcall
        refine .inr ⟨?_, hok⟩
        rcases hd' : d.sensor.streaming with _ | _
        · rfl
        · rw [hd', if_pos rfl] at hd
          have hone : t.pmRefs = 1 := by
            have h := hcall.1
            rwa [hstreaming, if_pos rfl] at h
          omega
  | false =>
      rcases streamOff_outcome d henable with ⟨hfails, -⟩ | ⟨-, t, hrun, hrefs, hstreaming⟩
      · exact .inr hfails
      · rw [hrun] at hcall
        refine .inl ?_
        rcases hd' : d.sensor.streaming with _ | _
        · rw [hd', if_neg Bool.false_ne_true] at hd
          have hzero : t.pmRefs = 0 := by
            have h := hcall.1
            rwa [hstreaming, if_neg Bool.false_ne_true] at h
          omega
        · rfl

/-- For every sequence of calls, from a balanced device: all of them keep the balance
exactly when each of them fits the state it finds. -/
theorem sStream_balanced_iff {start : Ov5648Device} (hstart : StreamBalanced start)
    (calls : List StreamCall) :
    Along streamStep CallKeepsBalance start calls ↔
      Along streamStep StreamCallFits start calls := by
  refine along_iff_along (E := fun _ _ => True) (fun d call hd _ hcall => ?_)
    (fun d call hd _ hcall => fits_of_callKeepsBalance hd hcall) hstart ?_
  · have hkeeps := callKeepsBalance_of_fits hd hcall
    exact ⟨hkeeps, hkeeps.1⟩
  · exact along_of_forall (fun _ _ => trivial) start calls

def probedDevice (sensor : Ov5648) : Ov5648Device := { sensor := sensor, pmRefs := 0 }

def streamOn : StreamCall := ⟨true, none, true⟩

def streamOff : StreamCall := ⟨false, none, true⟩

theorem balanced_once :
    Along streamStep CallKeepsBalance (probedDevice probedSensor) [streamOn, streamOff] := by
  have hon : StreamCallFits (probedDevice probedSensor) streamOn := by
    refine .inr ⟨rfl, fun hfails => hfails ?_⟩
    have hget : (pmRuntimeGetSync streamOn.denied
        (probedDevice probedSensor)).2.sensor.client.faults = [] := by
      decide +kernel
    rw [hget]
    exact fun fault hmem => absurd hmem List.not_mem_nil
  have hoff : StreamCallFits (streamStep (probedDevice probedSensor) streamOn) streamOff := by
    have hstreams : (streamStep (probedDevice probedSensor) streamOn).sensor.streaming = true := by
      decide +kernel
    exact .inl hstreams
  have hstart : StreamBalanced (probedDevice probedSensor) := rfl
  exact (sStream_balanced_iff hstart _).mpr ⟨hon, hoff, trivial⟩

/-- The board's sensor, on a bus that fails right after the 81 transfers of the
power-up. -/
def failingStartSensor : Ov5648 :=
  withClient probedSensor
    { probedSensor.client with faults := List.replicate 81 none ++ [some .eremoteio] }

/-- A stream-on whose last write fails keeps its reference. -/
theorem streamOn_leaks_reference :
    ¬ Along streamStep CallKeepsBalance (probedDevice failingStartSensor) [streamOn] := by
  rintro ⟨⟨-, hkept⟩, -⟩
  have herror : (ov5648SStream streamOn (probedDevice failingStartSensor)).1 =
      .error .eremoteio := by
    decide +kernel
  have hrefs : (streamStep (probedDevice failingStartSensor) streamOn).pmRefs = 1 := by
    decide +kernel
  have hsame := (hkept _ herror).2
  rw [hrefs] at hsame
  exact absurd hsame (by decide)

end CameraPorting.SensorOv5648.StreamBalance
