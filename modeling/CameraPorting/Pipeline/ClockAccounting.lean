import CameraPorting.Library.Runs
import CameraPorting.Library.Unwinding
import CameraPorting.Pipeline.RuntimePower

namespace CameraPorting.Pipeline.ClockAccounting

open CameraPorting.Kernel.Media
open CameraPorting.Kernel.I2c
open CameraPorting.Library.EnableCounts
open CameraPorting.Library.Runs
open CameraPorting.Library.Unwinding
open CameraPorting.Pipeline.RuntimePower

section Driver

variable {ρ ν : Type} [DecidableEq ρ]

structure PmDriver (ρ ν : Type) where
  probe : ν → PowerRoutine ρ Unit
  runtimeResume : PowerRoutine ρ Unit
  runtimeSuspend : PowerRoutine ρ Unit

/-- A device; without a runtime-PM status it is not bound. -/
structure PmDevice (ρ : Type) where
  power : Power ρ Errno
  status : Option RpmStatus

inductive PmCall (ν : Type) where
  | probe (node : ν)
  | runtimeResume
  | runtimeSuspend
  | remove

def PmDevice.after (s : PmDevice ρ) (x : PowerRoutine ρ Unit) (status : RpmStatus) : PmDevice ρ :=
  match x s.power with
  | (.ok (), power) => ⟨power, some status⟩
  | (.error _, power) => ⟨power, s.status⟩

/-- A device is suspended when its runtime power management is enabled. Removing it disables
that and nothing else. -/
def pmStep (driver : PmDriver ρ ν) (s : PmDevice ρ) : PmCall ν → PmDevice ρ
  | .probe node => s.after (driver.probe node) .suspended
  | .runtimeResume => s.after driver.runtimeResume .active
  | .runtimeSuspend => s.after driver.runtimeSuspend .suspended
  | .remove => { s with status := none }

/-- The driver core probes a device that is not bound and removes one that is; the power
management resumes a suspended device and suspends an active one. -/
def PmFits (s : PmDevice ρ) : PmCall ν → Prop
  | .probe _ => s.status = none
  | .runtimeResume => s.status = some .suspended
  | .runtimeSuspend => s.status = some .active
  | .remove => s.status ≠ none

/-- A driver that enables `order` to resume and disables it again to suspend, and whose probe
leaves what `kept` says enabled. -/
structure Balanced (driver : PmDriver ρ ν) (order : List ρ)
    (kept : ν → Power ρ Errno → List ρ) : Prop where
  probe : ∀ node p, (driver.probe node p).2.counts = increaseAll p.counts (kept node p)
  resume : Enables driver.runtimeResume order
  suspend : ∃ order', Suspends driver.runtimeSuspend order' ∧ order'.Perm order

/-- What an active device needs. -/
def heldBy (order : List ρ) (status : Option RpmStatus) : List ρ :=
  if status = some .active then order else []

def leftEnabled (order : List ρ) (kept : ν → Power ρ Errno → List ρ) (s : PmDevice ρ) :
    PmCall ν → List ρ
  | .probe node => kept node s.power
  | .runtimeResume =>
      if failure order s.power.outcomes = none then [] else enabled order s.power.outcomes
  | .runtimeSuspend => []
  | .remove => heldBy order s.status

omit [DecidableEq ρ] in
theorem after_ok {s : PmDevice ρ} {x : PowerRoutine ρ Unit} {p : Power ρ Errno}
    (h : x s.power = (.ok (), p)) (status : RpmStatus) : s.after x status = ⟨p, some status⟩ := by
  unfold PmDevice.after
  rw [h]

omit [DecidableEq ρ] in
theorem after_error {s : PmDevice ρ} {x : PowerRoutine ρ Unit} {p : Power ρ Errno} {e : Errno}
    (h : x s.power = (.error e, p)) (status : RpmStatus) : s.after x status = ⟨p, s.status⟩ := by
  unfold PmDevice.after
  rw [h]

omit [DecidableEq ρ] in
theorem after_power (s : PmDevice ρ) (x : PowerRoutine ρ Unit) (status : RpmStatus) :
    (s.after x status).power = (x s.power).2 := by
  rcases hrun : x s.power with ⟨e | _, p⟩
  · rw [after_error hrun]
  · rw [after_ok hrun]

variable {driver : PmDriver ρ ν} {order : List ρ} {kept : ν → Power ρ Errno → List ρ}

/-- The counts in terms of those at the start, what was left enabled by then, and what the
state needs. -/
def Accounted (order : List ρ) (start : ρ → Nat) (left : List ρ) (s : PmDevice ρ) : Prop :=
  s.power.counts = increaseAll start (left ++ heldBy order s.status)

theorem accounted_probe (h : Balanced driver order kept) {start : ρ → Nat} {left : List ρ}
    {s : PmDevice ρ} (hs : Accounted order start left s) (hstatus : s.status = none) (node : ν) :
    Accounted order start (left ++ kept node s.power) (pmStep driver s (.probe node)) := by
  have hcounts : (pmStep driver s (.probe node)).power.counts =
      increaseAll start (left ++ kept node s.power) := by
    unfold pmStep
    rw [after_power, h.probe, hs, hstatus, ← increaseAll_append]
    change increaseAll start ((left ++ []) ++ _) = _
    rw [List.append_nil]
  unfold Accounted
  rw [hcounts]
  have hheld : heldBy order (pmStep driver s (.probe node)).status = [] := by
    change heldBy order (s.after (driver.probe node) .suspended).status = []
    rcases hrun : driver.probe node s.power with ⟨e | _, p⟩
    · rw [after_error hrun, hstatus]
      rfl
    · rw [after_ok hrun]
      rfl
  rw [hheld, List.append_nil]

theorem accounted_resume (h : Balanced driver order kept) {start : ρ → Nat} {left : List ρ}
    {s : PmDevice ρ} (hs : Accounted order start left s) (hstatus : s.status = some .suspended) :
    Accounted order start (left ++ leftEnabled order kept s .runtimeResume)
      (pmStep driver s .runtimeResume) := by
  have hbase : s.power.counts = increaseAll start left := by
    rw [hs, hstatus]
    exact congrArg (increaseAll start) (List.append_nil left)
  obtain ⟨hresult, hcounts⟩ := enableInOrder_spec order s.power
  rw [← h.resume] at hresult hcounts
  unfold Accounted leftEnabled pmStep
  dsimp only
  rcases hrun : driver.runtimeResume s.power with ⟨e | _, p⟩
  · rw [hrun] at hresult hcounts
    have hfails : failure order s.power.outcomes ≠ none := by
      intro hnone
      rw [hnone] at hresult
      exact absurd hresult nofun
    rw [after_error hrun, if_neg hfails, hstatus]
    change p.counts = increaseAll start ((left ++ _) ++ [])
    rw [List.append_nil, increaseAll_append, ← hbase]
    exact hcounts
  · rw [hrun] at hresult hcounts
    have hnone : failure order s.power.outcomes = none := by
      rcases hfailure : failure order s.power.outcomes with _ | e
      · rfl
      · rw [hfailure] at hresult
        exact absurd hresult nofun
    rw [after_ok hrun, if_pos hnone, List.append_nil]
    rw [enabled_of_failure_eq_none hnone, hbase, ← increaseAll_append] at hcounts
    exact hcounts

theorem accounted_suspend (h : Balanced driver order kept) {start : ρ → Nat} {left : List ρ}
    {s : PmDevice ρ} (hs : Accounted order start left s) (hstatus : s.status = some .active) :
    Accounted order start (left ++ leftEnabled order kept s .runtimeSuspend)
      (pmStep driver s .runtimeSuspend) := by
  obtain ⟨order', hsuspend, hperm⟩ := h.suspend
  have hbase : s.power.counts = increaseAll start (left ++ order) := by
    rw [hs, hstatus]
    rfl
  unfold Accounted leftEnabled pmStep
  dsimp only
  rw [List.append_nil]
  rcases hrun : driver.runtimeSuspend s.power with ⟨e | _, p⟩
  · rw [after_error hrun, hstatus]
    exact (hsuspend.error _ e p hrun).trans hbase
  · rw [after_ok hrun]
    change p.counts = increaseAll start (left ++ [])
    rw [List.append_nil, hsuspend.ok _ p hrun, hbase]
    exact decreaseAll_increaseAll_part (List.Perm.append_left left hperm.symm) start

theorem accounted_step (h : Balanced driver order kept) {start : ρ → Nat} {left : List ρ}
    {s : PmDevice ρ} (hs : Accounted order start left s) (call : PmCall ν) (hfits : PmFits s call) :
    Accounted order start (left ++ leftEnabled order kept s call) (pmStep driver s call) := by
  cases call with
  | probe node => exact accounted_probe h hs hfits node
  | runtimeResume => exact accounted_resume h hs hfits
  | runtimeSuspend => exact accounted_suspend h hs hfits
  | remove =>
      change s.power.counts = increaseAll start ((left ++ heldBy order s.status) ++ [])
      rw [List.append_nil]
      exact hs

/-- What a run has left enabled is what its calls have, one after the other. -/
theorem accounted_exec (h : Balanced driver order kept) {start : ρ → Nat} {left : List ρ}
    {s : PmDevice ρ} (hs : Accounted order start left s) {calls : List (PmCall ν)}
    (hfits : Along (pmStep driver) PmFits s calls) :
    Accounted order start (left ++ trace (pmStep driver) (leftEnabled order kept) s calls)
      (exec (pmStep driver) s calls) := by
  induction calls generalizing s left with
  | nil =>
      rw [trace, List.append_nil]
      exact hs
  | cons call calls ih =>
      rw [trace, exec_cons, ← List.append_assoc]
      exact ih (accounted_step h hs call hfits.1) hfits.2

end Driver

structure CsisNode where
  busWidth : Option U32
  hasEndpoint : Bool
  dataLanes : U32
  noResetControl : Bool
  clockFrequency : U32
  deriving DecidableEq, Repr

def attemptIf {ρ : Type} (needed : Bool) : PowerRoutine ρ Unit :=
  if needed then attempt else pure ()

def mipiCsisProbeResources (node : CsisNode) : PowerRoutine CsisResource Unit := do
  failingWith .enomem attempt
  rejectIf (node.busWidth = none) .einval
  rejectIf (node.hasEndpoint = false) .einval
  rejectIf (node.dataLanes = 0 ∨ node.busWidth.getD 0 < node.dataLanes) .einval
  -- the PHY regulator, whose voltage may stay what it is
  attempt
  -- the match data and the gasket
  failingWith .einval attempt
  attempt
  attemptIf (!node.noResetControl)
  -- the registers and the interrupt
  attempt
  attempt
  -- `mipi_csis_clk_get`
  failingWith .enodev attempt
  failingWith .enodev attempt
  failingWith .enodev attempt
  failingWith .einval (attemptIf (node.clockFrequency ≠ 0))

/-- `mipi_csis_probe`: nothing disables the clocks again, whatever fails after them. -/
def mipiCsisProbe (node : CsisNode) : PowerRoutine CsisResource Unit := do
  mipiCsisProbeResources node
  mipiCsisClkEnable
  -- the interrupt handler and the pads
  attempt
  attempt

def mipiCsisDriver : PmDriver CsisResource CsisNode :=
  ⟨mipiCsisProbe, mipiCsisRuntimeResume, mipiCsisRuntimeSuspend⟩

structure IsiNode where
  id : Int
  noResetControl : Bool
  deriving DecidableEq, Repr

def mxcIsiMaxDevs : Int := 8

def mxcIsiProbeResources (node : IsiNode) : PowerRoutine IsiClock Unit := do
  failingWith .enomem attempt
  -- the match data, the version of the SoC and the interface property
  failingWith .einval attempt
  failingWith .einval attempt
  attempt
  rejectIf (mxcIsiMaxDevs ≤ node.id ∨ node.id < 0) .einval
  attemptIf (!node.noResetControl)
  -- `mxc_imx8mn_clk_get` and the registers
  attempt
  attempt
  attempt
  attempt
  attempt

def disableClocks (ops : MxcIsiDevOps) (p : Power IsiClock Errno) : Power IsiClock Errno :=
  (mxcIsiClkDisable ops p).2

def mxcIsiProbe (ops : MxcIsiDevOps) (node : IsiNode) : PowerRoutine IsiClock Unit := do
  mxcIsiProbeResources node
  mxcIsiClkEnable ops
  onError (disableClocks ops) do
    -- the interrupt and its handler
    attempt
    attempt
  modify (disableClocks ops)

def mxcIsiDriver (ops : MxcIsiDevOps) : PmDriver IsiClock IsiNode :=
  ⟨mxcIsiProbe ops, mxcIsiRuntimeResume ops, mxcIsiRuntimeSuspend ops⟩

section Probes

variable {ρ : Type}

theorem keeps_attempt : Keeps Power.counts (attempt : PowerRoutine ρ Unit) := attempt_counts

theorem keeps_failingAttempt (e : Errno) :
    Keeps Power.counts (failingWith e attempt : PowerRoutine ρ Unit) :=
  keeps_failingWith keeps_attempt e

theorem keeps_attemptIf (needed : Bool) :
    Keeps Power.counts (attemptIf needed : PowerRoutine ρ Unit) := by
  cases needed with
  | false => exact fun _ => rfl
  | true => exact keeps_attempt

theorem keeps_mipiCsisProbeResources (node : CsisNode) :
    Keeps Power.counts (mipiCsisProbeResources node) := by
  refine keeps_bind (keeps_failingAttempt _) fun _ => keeps_bind (keeps_rejectIf _ _) fun _ => ?_
  refine keeps_bind (keeps_rejectIf _ _) fun _ => keeps_bind (keeps_rejectIf _ _) fun _ => ?_
  refine keeps_bind keeps_attempt fun _ => keeps_bind (keeps_failingAttempt _) fun _ => ?_
  refine keeps_bind keeps_attempt fun _ => keeps_bind (keeps_attemptIf _) fun _ => ?_
  refine keeps_bind keeps_attempt fun _ => keeps_bind keeps_attempt fun _ => ?_
  refine keeps_bind (keeps_failingAttempt _) fun _ => ?_
  refine keeps_bind (keeps_failingAttempt _) fun _ => ?_
  exact keeps_bind (keeps_failingAttempt _) fun _ => keeps_failingWith (keeps_attemptIf _) _

theorem keeps_mxcIsiProbeResources (node : IsiNode) :
    Keeps Power.counts (mxcIsiProbeResources node) := by
  refine keeps_bind (keeps_failingAttempt _) fun _ => ?_
  refine keeps_bind (keeps_failingAttempt _) fun _ => ?_
  refine keeps_bind (keeps_failingAttempt _) fun _ => keeps_bind keeps_attempt fun _ => ?_
  refine keeps_bind (keeps_rejectIf _ _) fun _ => keeps_bind (keeps_attemptIf _) fun _ => ?_
  refine keeps_bind keeps_attempt fun _ => keeps_bind keeps_attempt fun _ => ?_
  exact keeps_bind keeps_attempt fun _ => keeps_bind keeps_attempt fun _ => keeps_attempt

end Probes

def csisClocks : List CsisResource := [.mipiClk, .dispAxi, .dispApb]

theorem enables_mipiCsisClkEnable : Enables mipiCsisClkEnable csisClocks := by
  apply enables_cons
  apply enables_cons
  apply enables_one

/-- A probe of the receiver that gets to the clocks keeps what it enables of them. -/
def csisKept (node : CsisNode) (p : Power CsisResource Errno) : List CsisResource :=
  match mipiCsisProbeResources node p with
  | (.ok (), p) => enabled csisClocks p.outcomes
  | (.error _, _) => []

/-- A probe of the ISI keeps clocks only when it could not enable all of them. -/
def isiKept (node : IsiNode) (p : Power IsiClock Errno) : List IsiClock :=
  match mxcIsiProbeResources node p with
  | (.ok (), p) => if failure isiOrder p.outcomes = none then [] else enabled isiOrder p.outcomes
  | (.error _, _) => []

theorem mipiCsisProbe_counts (node : CsisNode) (p : Power CsisResource Errno) :
    (mipiCsisProbe node p).2.counts = increaseAll p.counts (csisKept node p) := by
  have hkept := keeps_mipiCsisProbeResources node p
  unfold mipiCsisProbe csisKept
  rcases hrun : mipiCsisProbeResources node p with ⟨e | _, q⟩
  · rw [hrun] at hkept
    rw [bind_error hrun]
    exact hkept
  · rw [hrun] at hkept
    rw [bind_ok hrun]
    have hcounts := (enableInOrder_spec csisClocks q).2
    rw [← enables_mipiCsisClkEnable, show q.counts = p.counts from hkept] at hcounts
    rcases hclk : mipiCsisClkEnable q with ⟨e | _, r⟩
    · rw [hclk] at hcounts
      rw [bind_error hclk]
      exact hcounts
    · rw [hclk] at hcounts
      have hrest : Keeps Power.counts
          (attempt >>= fun _ => attempt : PowerRoutine CsisResource Unit) :=
        keeps_bind keeps_attempt fun _ => keeps_attempt
      rw [bind_ok hclk]
      exact (hrest r).trans hcounts

theorem balanced_mipiCsis : Balanced mipiCsisDriver csisOrder csisKept where
  probe := mipiCsisProbe_counts
  resume := enables_mipiCsisRuntimeResume
  suspend := ⟨csisOrder, suspends_mipiCsis, List.Perm.refl _⟩

/-- The order of `mxc_imx8mn_clk_disable`, which disables the roots first. -/
def isiDisableOrder : List IsiClock := [.clkRootDispAxi, .clkRootDispApb, .clkDispAxi, .clkDispApb]

theorem disableClocks_counts (p : Power IsiClock Errno) :
    (disableClocks mxcImx8mnClkOps p).counts =
      decreaseAll p.counts isiDisableOrder := by
  unfold disableClocks
  exact congrArg (fun r => r.2.counts) (disables_mxcImx8mnClkDisable p)

theorem mxcIsiProbe_counts (node : IsiNode) (p : Power IsiClock Errno) :
    (mxcIsiProbe mxcImx8mnClkOps node p).2.counts = increaseAll p.counts (isiKept node p) := by
  have hkept := keeps_mxcIsiProbeResources node p
  unfold mxcIsiProbe isiKept
  rcases hrun : mxcIsiProbeResources node p with ⟨e | _, q⟩
  · rw [hrun] at hkept
    rw [bind_error hrun]
    exact hkept
  · rw [hrun] at hkept
    rw [bind_ok hrun]
    obtain ⟨hresult, hcounts⟩ := enableInOrder_spec isiOrder q
    have henables : Enables (mxcIsiClkEnable mxcImx8mnClkOps) isiOrder :=
      enables_mxcIsiRuntimeResume
    rw [← henables] at hresult hcounts
    rw [show q.counts = p.counts from hkept] at hcounts
    rcases hclk : mxcIsiClkEnable mxcImx8mnClkOps q with ⟨e | _, r⟩
    · rw [hclk] at hresult hcounts
      have hfails : failure isiOrder q.outcomes ≠ none := by
        intro hnone
        rw [hnone] at hresult
        exact absurd hresult nofun
      rw [bind_error hclk]
      dsimp only
      rw [if_neg hfails]
      exact hcounts
    · rw [hclk] at hresult hcounts
      have hnone : failure isiOrder q.outcomes = none := by
        rcases hfailure : failure isiOrder q.outcomes with _ | e
        · rfl
        · rw [hfailure] at hresult
          exact absurd hresult nofun
      have hirq : Keeps Power.counts
          (attempt >>= fun _ => attempt : PowerRoutine IsiClock Unit) :=
        keeps_bind keeps_attempt fun _ => keeps_attempt
      let requests : PowerRoutine IsiClock Unit :=
        onError (disableClocks mxcImx8mnClkOps) (attempt >>= fun _ => attempt) >>= fun _ =>
          modify (disableClocks mxcImx8mnClkOps)
      have hdisabled : (requests r).2.counts = decreaseAll r.counts isiDisableOrder :=
        cleanup_always (fun c => decreaseAll c isiDisableOrder) hirq disableClocks_counts r
      rw [bind_ok hclk, hdisabled]
      dsimp only
      rw [if_pos hnone, show r.counts = _ from hcounts, enabled_of_failure_eq_none hnone]
      exact decreaseAll_increaseAll (by decide) p.counts

theorem balanced_mxcIsi : Balanced (mxcIsiDriver mxcImx8mnClkOps) isiOrder isiKept where
  probe := mxcIsiProbe_counts
  resume := enables_mxcIsiRuntimeResume
  suspend := ⟨_, suspends_of_disables disables_mxcImx8mnClkDisable, by decide⟩

section Runs

/-- A run of a driver on a device that is not bound: what is enabled at its end beside what
the device needs is what the calls have left enabled. -/
theorem accounted_run {ρ ν : Type} [DecidableEq ρ] {driver : PmDriver ρ ν} {order : List ρ}
    {kept : ν → Power ρ Errno → List ρ} (h : Balanced driver order kept) {s : PmDevice ρ}
    (hstatus : s.status = none) {calls : List (PmCall ν)}
    (hfits : Along (pmStep driver) PmFits s calls) :
    Accounted order s.power.counts (trace (pmStep driver) (leftEnabled order kept) s calls)
      (exec (pmStep driver) s calls) := by
  have hstart : Accounted order s.power.counts [] s := by
    unfold Accounted
    rw [hstatus]
    rfl
  exact accounted_exec h hstart hfits

/-- The counts of the receiver and of the ISI after any runs of probes, resumes, suspends and
removes, whichever of their calls fail. The ISI leaves enabled what an enable sequence that
failed had got to, and what was active when it was removed; the receiver also the clocks of
every probe that got to them, successful or not. -/
theorem clocks_accounted {csis : PmDevice CsisResource} {isi : PmDevice IsiClock}
    (hcsis : csis.status = none) (hisi : isi.status = none) (csisCalls : List (PmCall CsisNode))
    (isiCalls : List (PmCall IsiNode))
    (hcsisFits : Along (pmStep mipiCsisDriver) PmFits csis csisCalls)
    (hisiFits : Along (pmStep (mxcIsiDriver mxcImx8mnClkOps)) PmFits isi isiCalls) :
    Accounted csisOrder csis.power.counts
        (trace (pmStep mipiCsisDriver) (leftEnabled csisOrder csisKept) csis csisCalls)
        (exec (pmStep mipiCsisDriver) csis csisCalls) ∧
      Accounted isiOrder isi.power.counts
        (trace (pmStep (mxcIsiDriver mxcImx8mnClkOps)) (leftEnabled isiOrder isiKept) isi isiCalls)
        (exec (pmStep (mxcIsiDriver mxcImx8mnClkOps)) isi isiCalls) :=
  ⟨accounted_run balanced_mipiCsis hcsis hcsisFits, accounted_run balanced_mxcIsi hisi hisiFits⟩

def idleDevice (ρ : Type) (outcomes : List (Option Errno)) : PmDevice ρ :=
  ⟨⟨fun _ => 0, outcomes⟩, none⟩

def csisBoardNode : CsisNode := ⟨some 4, true, 2, true, 0⟩

def isiBoardNode : IsiNode := ⟨0, true⟩

/-- The last call of the receiver's probe fails and its clocks stay enabled; the ISI is bound
and removed again. -/
theorem clocks_accounted_board :
    Accounted csisOrder (fun _ => 0) csisClocks
        (exec (pmStep mipiCsisDriver)
          (idleDevice CsisResource (List.replicate 13 none ++ [some .enomem]))
          [.probe csisBoardNode]) ∧
      Accounted isiOrder (fun _ => 0) []
        (exec (pmStep (mxcIsiDriver mxcImx8mnClkOps)) (idleDevice IsiClock [])
          [.probe isiBoardNode, .runtimeResume, .runtimeSuspend, .remove]) :=
  @clocks_accounted (idleDevice CsisResource (List.replicate 13 none ++ [some .enomem]))
    (idleDevice IsiClock []) rfl rfl [.probe csisBoardNode]
    [.probe isiBoardNode, .runtimeResume, .runtimeSuspend, .remove] ⟨rfl, trivial⟩
    ⟨rfl, rfl, rfl, nofun, trivial⟩

end Runs

end CameraPorting.Pipeline.ClockAccounting
