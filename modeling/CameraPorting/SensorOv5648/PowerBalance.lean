import CameraPorting.Library.EnableCounts
import CameraPorting.SensorOv5648.PowerTransitions
import CameraPorting.SensorOv5648.RegisterImage

namespace CameraPorting.SensorOv5648.PowerBalance

open CameraPorting.Kernel.Media
open CameraPorting.Kernel.I2c
open CameraPorting.Library.EnableCounts
open CameraPorting.SensorOv5648.Modes
open CameraPorting.SensorOv5648.RegisterAccess
open CameraPorting.SensorOv5648.Sensor
open CameraPorting.SensorOv5648.PowerUp
open CameraPorting.SensorOv5648.PowerTransitions
open CameraPorting.SensorOv5648.RegisterImage

inductive Supply where
  | dovdd | avdd | dvdd | xvclk
  deriving DecidableEq

def counts (p : Supplies) : Supply → Nat
  | .dovdd => p.dovdd
  | .avdd => p.avdd
  | .dvdd => p.dvdd
  | .xvclk => p.xvclk

def power (p : Supplies) : Power Supply Errno := ⟨counts p, p.faults⟩

def ofPower (p : Power Supply Errno) : Supplies :=
  ⟨p.counts .dovdd, p.counts .avdd, p.counts .dvdd, p.counts .xvclk, p.outcomes⟩

def supplyOrder (hasAvdd : Bool) : List Supply :=
  if hasAvdd then [.dovdd, .avdd, .dvdd, .xvclk] else [.dovdd, .dvdd, .xvclk]

def bump : Supply → Supplies → Supplies
  | .dovdd, p => { p with dovdd := p.dovdd + 1 }
  | .avdd, p => { p with avdd := p.avdd + 1 }
  | .dvdd, p => { p with dvdd := p.dvdd + 1 }
  | .xvclk, p => { p with xvclk := p.xvclk + 1 }

def enableSupplies : List Supply → SensorRoutine Unit
  | [] => pure ()
  | r :: rs => do
      supplyEnable (bump r)
      enableSupplies rs

theorem supplyOrder_nodup (hasAvdd : Bool) : (supplyOrder hasAvdd).Nodup := by
  cases hasAvdd with
  | false => decide
  | true => decide

theorem power_bump (r : Supply) (p : Supplies) :
    power (bump r p) = ⟨increase (counts p) r, p.faults⟩ := by
  cases r <;>
  · simp only [power, bump, Power.mk.injEq, and_true]
    funext x
    cases x <;> rfl

theorem power_ofPower (p : Power Supply Errno) : power (ofPower p) = p := by
  obtain ⟨f, outcomes⟩ := p
  simp only [power, ofPower, Power.mk.injEq, and_true]
  funext x
  cases x <;> rfl

theorem ofPower_power (p : Supplies) : ofPower (power p) = p := rfl

theorem supplyEnable_refines (r : Supply) (s : Ov5648) :
    supplyEnable (bump r) s =
      ((enable r (power s.supplies)).1,
        withSupplies s (ofPower (enable r (power s.supplies)).2)) := by
  have hbump : bump r s.supplies = ofPower ⟨increase (counts s.supplies) r, s.supplies.faults⟩ := by
    rw [← power_bump, ofPower_power]
  unfold supplyEnable enable
  rcases hfaults : s.supplies.faults with _ | ⟨_ | e, rest⟩
  · simp only [power, hfaults, hbump]
    rfl
  · simp only [power, hfaults, hbump]
    rfl
  · simp only [power, hfaults]
    rfl

theorem enableSupplies_refines (rs : List Supply) (s : Ov5648) :
    enableSupplies rs s =
      ((enableInOrder rs (power s.supplies)).1,
        withSupplies s (ofPower (enableInOrder rs (power s.supplies)).2)) := by
  induction rs generalizing s with
  | nil => rfl
  | cons r rs ih =>
      have hfirst := supplyEnable_refines r s
      unfold enableSupplies
      rw [enableInOrder]
      rcases hrun : enable r (power s.supplies) with ⟨e | _, p⟩
      · rw [hrun] at hfirst
        exact driver_bind_error hfirst _
      · rw [hrun] at hfirst
        rw [driver_bind_ok hfirst, ih]
        have hp : power (withSupplies s (ofPower p)).supplies = p := power_ofPower p
        rw [hp]
        rfl

def powered (s : Ov5648) : Ov5648 :=
  withSupplies s (ofPower (enableInOrder (supplyOrder s.hasAvdd) (power s.supplies)).2)

theorem powerOn_eq (s : Ov5648) :
    powerOn s = (enableSupplies (supplyOrder s.hasAvdd) >>= fun _ => do
      modify fun s => withClient s (resetClient s.client)
      ov5648SensorInit) s := by
  unfold powerOn
  rw [driver_bind_ok (driver_get s)]
  cases s.hasAvdd with
  | false => simp [enableSupplies, supplyOrder, bind_assoc]; rfl
  | true => simp [enableSupplies, supplyOrder, bind_assoc]; rfl

/-- The power-up stops at the first supply that fails, or initialises the sensor with all
of them on. -/
theorem powerOn_cases (s : Ov5648) :
    powerOn s = match (enableInOrder (supplyOrder s.hasAvdd) (power s.supplies)).1 with
      | .ok () => ov5648SensorInit (withClient (powered s) (resetClient s.client))
      | .error e => (.error e, powered s) := by
  have hrefines := enableSupplies_refines (supplyOrder s.hasAvdd) s
  rw [powerOn_eq]
  rcases hrun : (enableInOrder (supplyOrder s.hasAvdd) (power s.supplies)).1 with e | _
  · rw [hrun] at hrefines
    exact driver_bind_error hrefines _
  · rw [hrun] at hrefines
    rw [driver_bind_ok hrefines]
    rfl

theorem sensorInit_supplies (s : Ov5648) :
    (ov5648SensorInit s).2.supplies = s.supplies ∧ (ov5648SensorInit s).2.hasAvdd = s.hasAvdd := by
  let P : Ov5648 → Prop := fun t => t.supplies = s.supplies ∧ t.hasAvdd = s.hasAvdd
  have hP : InitStable P :=
    { client := fun _ _ h => h
      reconfigure := fun t h => preserves_stateConfigure (P := P) (fun _ _ h => h)
        (fun _ _ _ h => h) (fun _ _ _ h => h) t.mode t.mbusCode t h }
  exact preserves_sensorInit hP s ⟨rfl, rfl⟩

/-- The counts a power-up ends with, whether it succeeds or not, are those of the supplies it
enabled. -/
theorem powerOn_counts (s : Ov5648) :
    counts (powerOn s).2.supplies =
        increaseAll (counts s.supplies) (enabled (supplyOrder s.hasAvdd) s.supplies.faults) ∧
      (powerOn s).2.hasAvdd = s.hasAvdd := by
  have hspec := (enableInOrder_spec (supplyOrder s.hasAvdd) (power s.supplies)).2
  have hpowered : counts (powered s).supplies =
      increaseAll (counts s.supplies) (enabled (supplyOrder s.hasAvdd) s.supplies.faults) :=
    (congrArg Power.counts (power_ofPower _)).trans hspec
  rw [powerOn_cases]
  rcases (enableInOrder (supplyOrder s.hasAvdd) (power s.supplies)).1 with e | _
  · exact ⟨hpowered, rfl⟩
  · obtain ⟨hsupplies, havdd⟩ :=
      sensorInit_supplies (withClient (powered s) (resetClient s.client))
    dsimp only
    rw [hsupplies, havdd]
    exact ⟨hpowered, rfl⟩

theorem powerOff_counts (s : Ov5648) :
    counts (powerOff s).supplies =
      decreaseAll (counts s.supplies) (supplyOrder s.hasAvdd).reverse := by
  funext r
  rw [decreaseAll_apply, List.count_reverse]
  unfold powerOff
  cases hasAvdd : s.hasAvdd <;> cases r <;> simp [counts, supplyOrder]

/-- The error of the step at which the power-up fails: of a supply, or of the
initialisation once all are on. -/
def powerUpError (s : Ov5648) : Option Errno :=
  match failure (supplyOrder s.hasAvdd) s.supplies.faults with
  | some e => some e
  | none =>
      match (ov5648SensorInit (withClient (powered s) (resetClient s.client))).1 with
      | .ok () => none
      | .error e => some e

/-- A power-up that fails gives the error of the step that did and leaves every count; one
that succeeds is undone by a power-down. -/
structure PowerBalanced (s : Ov5648) : Prop where
  failed : ∀ e t, ov5648SensorPower true s = (.error e, t) →
    powerUpError s = some e ∧ counts t.supplies = counts s.supplies
  cycled : ∀ t, ov5648SensorPower true s = (.ok (), t) →
    (ov5648SensorPower false t).1 = .ok () ∧
      counts (ov5648SensorPower false t).2.supplies = counts s.supplies

/-- Nobody has enabled a supply that the power-up does not get to. -/
def UnreachedOff (s : Ov5648) : Prop :=
  ∀ r ∈ supplyOrder s.hasAvdd, r ∉ enabled (supplyOrder s.hasAvdd) s.supplies.faults →
    counts s.supplies r = 0

instance (s : Ov5648) : Decidable (UnreachedOff s) :=
  inferInstanceAs (Decidable (∀ r ∈ _, _))

theorem powerOn_error (s : Ov5648) (e : Errno) :
    (powerOn s).1 = .error e ↔ powerUpError s = some e := by
  have hspec := (enableInOrder_spec (supplyOrder s.hasAvdd) (power s.supplies)).1
  rw [powerOn_cases, hspec]
  unfold powerUpError
  rcases hfailure : failure (supplyOrder s.hasAvdd) s.supplies.faults with _ | e'
  · change _ ↔ (match (ov5648SensorInit _).1 with | .ok () => none | .error e => some e) = some e
    simp only [power, hfailure]
    rcases (ov5648SensorInit (withClient (powered s) (resetClient s.client))).1 with e' | _
    · simp
    · simp
  · simp [power, hfailure]

/-- What the shutdown leaves of the counts after a power-up that got as far as it did. -/
theorem powerOff_powerOn_iff (s : Ov5648) :
    counts (powerOff (powerOn s).2).supplies = counts s.supplies ↔ UnreachedOff s := by
  obtain ⟨hcounts, havdd⟩ := powerOn_counts s
  have hprefix := enabled_prefix (supplyOrder s.hasAvdd) s.supplies.faults
  have hnodup := supplyOrder_nodup s.hasAvdd
  rw [powerOff_counts, havdd, hcounts, decreaseAll_increaseAll_iff
    (hnodup.sublist hprefix.sublist) (List.nodup_reverse.mpr hnodup)]
  · simp only [UnreachedOff, List.mem_reverse]
  · intro r hmem
    rw [List.mem_reverse]
    exact hprefix.subset hmem

theorem unreachedOff_of_ok {s : Ov5648} (h : (powerOn s).1 = .ok ()) : UnreachedOff s := by
  have hfailure : failure (supplyOrder s.hasAvdd) s.supplies.faults = none := by
    rcases hrun : failure (supplyOrder s.hasAvdd) s.supplies.faults with _ | e
    · rfl
    · have herror : powerUpError s = some e := by
        unfold powerUpError
        rw [hrun]
      rw [(powerOn_error s e).mpr herror] at h
      exact absurd h nofun
  intro r hmem hnot
  rw [enabled_of_failure_eq_none hfailure] at hnot
  exact absurd hmem hnot

/-- Power sequencing is balanced exactly when nobody else holds a supply that the power-up
did not get to. -/
theorem powerBalanced_iff (s : Ov5648) : PowerBalanced s ↔ UnreachedOff s := by
  rcases hrun : powerOn s with ⟨e | _, t⟩
  · have hpower : ov5648SensorPower true s = (.error e, powerOff t) := by
      unfold ov5648SensorPower
      rw [if_pos rfl, hrun]
    have herror := (powerOn_error s e).mp (by rw [hrun])
    have hoff := powerOff_powerOn_iff s
    rw [hrun] at hoff
    rw [← hoff]
    constructor
    · intro h
      exact (h.failed e _ hpower).2
    · intro h
      constructor
      · rintro e' t' hfail
        rw [hpower, Prod.mk.injEq, Except.error.injEq] at hfail
        obtain ⟨rfl, rfl⟩ := hfail
        exact ⟨herror, h⟩
      · rintro t' hok
        rw [hpower] at hok
        exact absurd (congrArg Prod.fst hok) nofun
  · have hpower : ov5648SensorPower true s = (.ok (), t) := by
      unfold ov5648SensorPower
      rw [if_pos rfl, hrun]
    have hunreached : UnreachedOff s := unreachedOff_of_ok (by rw [hrun])
    have hoff := (powerOff_powerOn_iff s).mpr hunreached
    rw [hrun] at hoff
    refine ⟨fun _ => hunreached, fun _ => ⟨?_, ?_⟩⟩
    · rintro e t' hfail
      rw [hpower] at hfail
      exact absurd (congrArg Prod.fst hfail) nofun
    · rintro t' hok
      rw [hpower, Prod.mk.injEq] at hok
      obtain ⟨-, rfl⟩ := hok
      exact ⟨rfl, hoff⟩

def sharedClockSensor : Ov5648 :=
  withSupplies probedSensor ⟨0, 0, 0, 1, [some .eio]⟩

/-- The shutdown takes the clock away from that device. -/
theorem sharedClock_disabled :
    (ov5648SensorPower true sharedClockSensor).1 = .error .eio ∧
      counts sharedClockSensor.supplies .xvclk = 1 ∧
      counts (ov5648SensorPower true sharedClockSensor).2.supplies .xvclk = 0 := by
  refine ⟨rfl, rfl, rfl⟩

end CameraPorting.SensorOv5648.PowerBalance
