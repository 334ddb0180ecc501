import CameraPorting.Kernel.I2c
import CameraPorting.Library.EnableCounts

/-!
Runtime resume and suspend of the receiver and of the ISI with the clocks of the
i.MX8MN: the enable counts they leave. The resets and the reset controls that gate the
clocks of the display mix have no counts and are left out.
-/

namespace CameraPorting.Pipeline.RuntimePower

open CameraPorting.Kernel.Media
open CameraPorting.Kernel.I2c
open CameraPorting.Library.EnableCounts

section Calls

variable {ρ : Type} [DecidableEq ρ]

abbrev PowerRoutine (ρ α : Type) := Driver (Power ρ Errno) α

def clkPrepareEnable (clk : ρ) : PowerRoutine ρ Unit := enable clk

def clkDisableUnprepare (clk : ρ) : PowerRoutine ρ Unit :=
  modify fun p => { p with counts := decrease p.counts clk }

def regulatorEnable (regulator : ρ) : PowerRoutine ρ Unit := enable regulator

/-- A disable that fails leaves the regulator enabled; one without an enable is refused. -/
def regulatorDisable (regulator : ρ) : PowerRoutine ρ Unit := fun p =>
  if p.counts regulator = 0 then (.error .eio, p)
  else
    match p.outcomes with
    | [] => (.ok (), { p with counts := decrease p.counts regulator })
    | none :: rest => (.ok (), ⟨decrease p.counts regulator, rest⟩)
    | some e :: rest => (.error e, { p with outcomes := rest })

end Calls

inductive CsisResource where
  | mipiPhyRegulator | mipiClk | dispAxi | dispApb
  deriving DecidableEq

def mipiCsisClkEnable : PowerRoutine CsisResource Unit := do
  clkPrepareEnable .mipiClk
  clkPrepareEnable .dispAxi
  clkPrepareEnable .dispApb

def mipiCsisClkDisable : PowerRoutine CsisResource Unit := do
  clkDisableUnprepare .mipiClk
  clkDisableUnprepare .dispAxi
  clkDisableUnprepare .dispApb

def mipiCsisRuntimeSuspend : PowerRoutine CsisResource Unit := do
  regulatorDisable .mipiPhyRegulator
  mipiCsisClkDisable

def mipiCsisRuntimeResume : PowerRoutine CsisResource Unit := do
  regulatorEnable .mipiPhyRegulator
  mipiCsisClkEnable

/-- The clocks of a `mxc_isi_dev`. -/
inductive IsiClock where
  | clkDispAxi | clkDispApb | clkRootDispAxi | clkRootDispApb
  deriving DecidableEq

def mxcImx8mnClkEnable : PowerRoutine IsiClock Unit := do
  clkPrepareEnable .clkDispAxi
  clkPrepareEnable .clkDispApb
  clkPrepareEnable .clkRootDispAxi
  clkPrepareEnable .clkRootDispApb

def mxcImx8mnClkDisable : PowerRoutine IsiClock Unit := do
  clkDisableUnprepare .clkRootDispAxi
  clkDisableUnprepare .clkRootDispApb
  clkDisableUnprepare .clkDispAxi
  clkDisableUnprepare .clkDispApb

/-- The clock operations of `struct mxc_isi_dev_ops`. -/
structure MxcIsiDevOps where
  clkEnable : PowerRoutine IsiClock Unit
  clkDisable : PowerRoutine IsiClock Unit

def mxcImx8mnClkOps : MxcIsiDevOps := ⟨mxcImx8mnClkEnable, mxcImx8mnClkDisable⟩

/-- With operations given, the check of `mxc_isi_clk_enable` lets every call pass. -/
def mxcIsiClkEnable (ops : MxcIsiDevOps) : PowerRoutine IsiClock Unit := ops.clkEnable

def mxcIsiClkDisable (ops : MxcIsiDevOps) : PowerRoutine IsiClock Unit := ops.clkDisable

def mxcIsiRuntimeSuspend (ops : MxcIsiDevOps) : PowerRoutine IsiClock Unit := mxcIsiClkDisable ops

def mxcIsiRuntimeResume (ops : MxcIsiDevOps) : PowerRoutine IsiClock Unit := mxcIsiClkEnable ops

section Balance

variable {ρ : Type} [DecidableEq ρ]

/-- The routine enables the resources in order, up to the first failure. -/
def Enables (x : PowerRoutine ρ Unit) (order : List ρ) : Prop := ∀ p, x p = enableInOrder order p

/-- The routine disables the resources. -/
def Disables (x : PowerRoutine ρ Unit) (order : List ρ) : Prop :=
  ∀ p, x p = (.ok (), { p with counts := decreaseAll p.counts order })

theorem enables_one (r : ρ) : Enables (enable r) [r] := by
  intro p
  rw [enableInOrder]
  rcases (enable r p : Except Errno Unit × Power ρ Errno) with ⟨_ | _, q⟩
  · rfl
  · rfl

theorem enables_cons {x : PowerRoutine ρ Unit} {order : List ρ} (r : ρ) (hx : Enables x order) :
    Enables ((enable r : PowerRoutine ρ Unit) >>= fun _ => x) (r :: order) := by
  intro p
  rw [enableInOrder]
  rcases hrun : (enable r p : Except Errno Unit × Power ρ Errno) with ⟨e | _, q⟩
  · exact driver_bind_error hrun _
  · rw [driver_bind_ok hrun]
    exact hx q

theorem disables_one (r : ρ) : Disables (clkDisableUnprepare r) [r] := fun _ => rfl

theorem disables_cons {x : PowerRoutine ρ Unit} {order : List ρ} (r : ρ) (hx : Disables x order) :
    Disables (clkDisableUnprepare r >>= fun _ => x) (r :: order) := by
  intro p
  rw [driver_bind_ok (disables_one r p), hx]
  rfl

/-- A suspend that succeeds disables all resources, one that fails none; with all enabled
and no failure to come it succeeds. -/
structure Suspends (suspend : PowerRoutine ρ Unit) (order : List ρ) : Prop where
  ok : ∀ p q, suspend p = (.ok (), q) → q.counts = decreaseAll p.counts order
  error : ∀ p e q, suspend p = (.error e, q) → q.counts = p.counts
  runs : ∀ counts, (∀ r ∈ order, counts r ≠ 0) → (suspend ⟨counts, []⟩).1 = .ok ()

/-- A resume that fails leaves every count, and one that succeeds is undone by the suspend,
whose calls may fail in their turn. -/
structure ResumeBalanced (resume suspend : PowerRoutine ρ Unit) (p : Power ρ Errno) : Prop where
  failed : ∀ e q, resume p = (.error e, q) → q.counts = p.counts
  cycled : ∀ q, resume p = (.ok (), q) → ∀ outcomes r u, suspend ⟨q.counts, outcomes⟩ = (r, u) →
    u.counts = if r = .ok () then p.counts else q.counts
  suspends : ∀ q, resume p = (.ok (), q) → (suspend ⟨q.counts, []⟩).1 = .ok ()

/-- No enable fails, or the first one does. -/
def FailsFirst (order : List ρ) (outcomes : List (Option Errno)) : Prop :=
  failure order outcomes = none ∨ enabled order outcomes = []

instance (order : List ρ) (outcomes : List (Option Errno)) :
    Decidable (FailsFirst order outcomes) :=
  inferInstanceAs (Decidable (_ ∨ _))

theorem resumeBalanced_iff {resume suspend : PowerRoutine ρ Unit} {order order' : List ρ}
    (hresume : Enables resume order) (hsuspend : Suspends suspend order')
    (hperm : order'.Perm order) (p : Power ρ Errno) :
    ResumeBalanced resume suspend p ↔ FailsFirst order p.outcomes := by
  obtain ⟨hresult, hcounts⟩ := enableInOrder_spec order p
  rw [← hresume] at hresult hcounts
  constructor
  · intro h
    rcases hfailure : failure order p.outcomes with _ | e
    · exact .inl hfailure
    · rw [hfailure] at hresult
      have hkept := h.failed e _ (Prod.ext hresult rfl)
      rw [hcounts] at hkept
      exact .inr (increaseAll_eq_iff.mp hkept)
  · intro h
    have hok : ∀ q, resume p = (.ok (), q) → q.counts = increaseAll p.counts order := by
      intro q hq
      rw [hq] at hresult hcounts
      rcases hfailure : failure order p.outcomes with _ | e
      · rwa [enabled_of_failure_eq_none hfailure] at hcounts
      · rw [hfailure] at hresult
        exact absurd hresult nofun
    refine ⟨?_, ?_, ?_⟩
    · intro e q hq
      rw [hq] at hresult hcounts
      rcases h with hnone | hempty
      · rw [hnone] at hresult
        exact absurd hresult nofun
      · rw [hcounts, hempty]
        rfl
    · intro q hq outcomes r u hrun
      cases r with
      | error e =>
          rw [if_neg nofun]
          exact hsuspend.error ⟨q.counts, outcomes⟩ e u hrun
      | ok _ =>
          rw [if_pos rfl, hsuspend.ok _ u hrun, hok q hq]
          exact decreaseAll_increaseAll hperm p.counts
    · intro q hq
      apply hsuspend.runs
      intro r hmem
      have hpos := List.count_pos_iff.mpr (hperm.subset hmem)
      rw [hok q hq, increaseAll_apply]
      omega

end Balance

def csisOrder : List CsisResource := [.mipiPhyRegulator, .mipiClk, .dispAxi, .dispApb]

def isiOrder : List IsiClock := [.clkDispAxi, .clkDispApb, .clkRootDispAxi, .clkRootDispApb]

theorem enables_mipiCsisRuntimeResume : Enables mipiCsisRuntimeResume csisOrder := by
  apply enables_cons
  apply enables_cons
  apply enables_cons
  apply enables_one

theorem enables_mxcIsiRuntimeResume :
    Enables (mxcIsiRuntimeResume mxcImx8mnClkOps) isiOrder := by
  apply enables_cons
  apply enables_cons
  apply enables_cons
  apply enables_one

theorem disables_mipiCsisClkDisable :
    Disables mipiCsisClkDisable [.mipiClk, .dispAxi, .dispApb] := by
  apply disables_cons
  apply disables_cons
  apply disables_one

theorem disables_mxcImx8mnClkDisable : Disables mxcImx8mnClkDisable
    [.clkRootDispAxi, .clkRootDispApb, .clkDispAxi, .clkDispApb] := by
  apply disables_cons
  apply disables_cons
  apply disables_cons
  apply disables_one

theorem regulatorDisable_cases {ρ : Type} [DecidableEq ρ] (r : ρ) (p : Power ρ Errno) :
    (∃ rest, regulatorDisable r p = (.ok (), ⟨decrease p.counts r, rest⟩)) ∨
      ∃ e rest, regulatorDisable r p = (.error e, ⟨p.counts, rest⟩) := by
  obtain ⟨counts, outcomes⟩ := p
  unfold regulatorDisable
  split
  · exact .inr ⟨_, _, rfl⟩
  · rcases outcomes with _ | ⟨_ | e, rest⟩
    · exact .inl ⟨_, rfl⟩
    · exact .inl ⟨_, rfl⟩
    · exact .inr ⟨_, _, rfl⟩

theorem suspends_mipiCsis : Suspends mipiCsisRuntimeSuspend csisOrder := by
  have hrest := disables_mipiCsisClkDisable
  refine ⟨?_, ?_, ?_⟩
  · intro p q hrun
    unfold mipiCsisRuntimeSuspend at hrun
    rcases regulatorDisable_cases .mipiPhyRegulator p with ⟨rest, hok⟩ | ⟨e, rest, herror⟩
    · rw [driver_bind_ok hok, hrest, Prod.mk.injEq] at hrun
      rw [← hrun.2]
      rfl
    · rw [driver_bind_error herror] at hrun
      exact absurd (congrArg Prod.fst hrun) nofun
  · intro p e q hrun
    unfold mipiCsisRuntimeSuspend at hrun
    rcases regulatorDisable_cases .mipiPhyRegulator p with ⟨rest, hok⟩ | ⟨e', rest, herror⟩
    · rw [driver_bind_ok hok, hrest] at hrun
      exact absurd (congrArg Prod.fst hrun) nofun
    · rw [driver_bind_error herror, Prod.mk.injEq] at hrun
      rw [← hrun.2]
  · intro counts hcounts
    have hok : regulatorDisable .mipiPhyRegulator (⟨counts, []⟩ : Power CsisResource Errno) =
        (.ok (), ⟨decrease counts .mipiPhyRegulator, []⟩) := by
      unfold regulatorDisable
      rw [if_neg (hcounts _ (by decide))]
    unfold mipiCsisRuntimeSuspend
    rw [driver_bind_ok hok, hrest]

theorem suspends_of_disables {ρ : Type} [DecidableEq ρ] {x : PowerRoutine ρ Unit} {order : List ρ}
    (h : Disables x order) : Suspends x order := by
  refine ⟨?_, ?_, ?_⟩
  · intro p q hrun
    rw [h, Prod.mk.injEq] at hrun
    rw [← hrun.2]
  · intro p e q hrun
    rw [h] at hrun
    exact absurd (congrArg Prod.fst hrun) nofun
  · intro counts _
    rw [h]

/-- Neither resume takes back what it enabled before a failure. -/
theorem runtimePower_balanced_iff (p : Power CsisResource Errno) (q : Power IsiClock Errno) :
    (ResumeBalanced mipiCsisRuntimeResume mipiCsisRuntimeSuspend p ↔
        FailsFirst csisOrder p.outcomes) ∧
      (ResumeBalanced (mxcIsiRuntimeResume mxcImx8mnClkOps) (mxcIsiRuntimeSuspend mxcImx8mnClkOps)
          q ↔ FailsFirst isiOrder q.outcomes) := by
  constructor
  · exact resumeBalanced_iff enables_mipiCsisRuntimeResume suspends_mipiCsis (.refl _) p
  · exact resumeBalanced_iff enables_mxcIsiRuntimeResume
      (suspends_of_disables disables_mxcImx8mnClkDisable) (by decide) q

/-- The second enable fails in either driver: the first one stays. -/
theorem failedResume_keeps_first :
    (mipiCsisRuntimeResume ⟨fun _ => 0, [none, some .eio]⟩).1 = .error .eio ∧
      (mipiCsisRuntimeResume ⟨fun _ => 0, [none, some .eio]⟩).2.counts .mipiPhyRegulator = 1 ∧
      (mxcIsiRuntimeResume mxcImx8mnClkOps ⟨fun _ => 0, [none, some .eio]⟩).1 = .error .eio ∧
      (mxcIsiRuntimeResume mxcImx8mnClkOps ⟨fun _ => 0, [none, some .eio]⟩).2.counts
        .clkDispAxi = 1 := by
  refine ⟨rfl, rfl, rfl, rfl⟩

end CameraPorting.Pipeline.RuntimePower
