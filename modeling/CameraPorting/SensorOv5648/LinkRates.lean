import CameraPorting.SensorOv5648.StreamBalance

namespace CameraPorting.SensorOv5648.LinkRates

open CameraPorting.Kernel.Media
open CameraPorting.Kernel.I2c
open CameraPorting.Library.Runs
open CameraPorting.SensorOv5648.Modes
open CameraPorting.SensorOv5648.RegisterAccess
open CameraPorting.SensorOv5648.Sensor
open CameraPorting.SensorOv5648.PowerUp
open CameraPorting.SensorOv5648.Transfers
open CameraPorting.SensorOv5648.PowerTransitions
open CameraPorting.SensorOv5648.RegisterImage
open CameraPorting.SensorOv5648.StreamBalance

inductive RateOp where
  | setFmt (which : FormatWhence) (format : MbusFramefmt)
  | sStream (call : StreamCall)
  | runtimeSuspend
  | runtimeResume

def rateStep (nearest : NearestSize) (d : Ov5648Device) : RateOp → Ov5648Device
  | .setFmt which format => { d with sensor := (ov5648SetFmt nearest which format d.sensor).1 }
  | .sStream call => streamStep d call
  | .runtimeSuspend => { d with sensor := (pmRuntimeSuspend d.sensor).2 }
  | .runtimeResume => { d with sensor := (pmRuntimeResume d.sensor).2 }

def currentRate (s : Ov5648) : Nat := ov5648ModeMipiClkRate s.xvclkRate s.mode s.mbusCode

def bitsPerSample (mbusCode : U32) : Nat := if is8Bit mbusCode then 8 else 10

/-- The rate controls describe the current mode and media bus code. -/
structure RatesDescribe (s : Ov5648) : Prop where
  linkFreq : ov5648LinkFreqMenu[s.linkFreq]? = some (currentRate s)
  listed : currentRate s ∈ s.linkFrequencies
  pixelRate : s.pixelRate = currentRate s * 2 * s.numDataLanes.toNat / bitsPerSample s.mbusCode

def codeRate (mbusCode : U32) : Nat := if is8Bit mbusCode then 168000000 else 210000000

/-- A format the endpoint has no link frequency for. -/
def Unachievable (s : Ov5648) (which : FormatWhence) (format : MbusFramefmt) : Prop :=
  which = .active ∧ codeRate (ov5648FindFormat format.code) ∉ s.linkFrequencies

structure SameState (s t : Ov5648) : Prop where
  mode : t.mode = s.mode
  mbusCode : t.mbusCode = s.mbusCode
  streaming : t.streaming = s.streaming
  ctrls : t.ctrls = s.ctrls
  linkFreq : t.linkFreq = s.linkFreq
  pixelRate : t.pixelRate = s.pixelRate

/-- What a step promises: the controls describe the state it leads to, and a format
that cannot be achieved is refused without a change. -/
def KeepsRates (nearest : NearestSize) (d : Ov5648Device) (op : RateOp) : Prop :=
  RatesDescribe (rateStep nearest d op).sensor ∧
    match op with
    | .setFmt which format => Unachievable d.sensor which format →
        (∃ e, (ov5648SetFmt nearest which format d.sensor).2.2 = .error e) ∧
          SameState d.sensor (ov5648SetFmt nearest which format d.sensor).1
    | _ => True

/-- The endpoint lists the rate the driver starts with, and the pixel rate fits its
control. -/
def EndpointFits (s : Ov5648) : Prop :=
  168000000 ∈ s.linkFrequencies ∧ s.numDataLanes.toNat ≤ 51

def RateOpFits (nearest : NearestSize) (d : Ov5648Device) : RateOp → Prop
  | .setFmt which format => which = .try ∨ SetFmtFails nearest d.sensor format ∨
      codeRate (ov5648FindFormat format.code) ∈ d.sensor.linkFrequencies
  | _ => True

theorem mipiClkRate_eq {mode : Ov5648Mode} {mbusCode : U32} (hmode : mode ∈ ov5648Modes)
    (hcode : mbusCode ∈ ov5648MbusCodes) :
    ov5648ModeMipiClkRate ov5648XvclkRate mode mbusCode = codeRate mbusCode := by
  unfold ov5648ModeMipiClkRate codeRate
  rw [pll1Config_of_mem hmode]
  rcases bits_of_mem_mbusCodes hcode with h8 | ⟨h8, h10⟩
  · rw [if_pos h8, if_pos h8]
    decide
  · rw [if_neg (Bool.eq_false_iff.mp h8), if_pos h10, if_neg (Bool.eq_false_iff.mp h8)]
    decide

theorem codeRate_mem_menu (mbusCode : U32) : codeRate mbusCode ∈ ov5648LinkFreqMenu := by
  unfold codeRate
  split
  · decide
  · decide

def linkAfter (mbusCode : U32) (s : Ov5648) : Ov5648 :=
  withLink s
    (if codeRate mbusCode ∈ s.linkFrequencies then ov5648LinkFreqMenu.idxOf (codeRate mbusCode)
      else s.linkFreq)
    (max 1 (min 2147483647
      (codeRate mbusCode * 2 * s.numDataLanes.toNat / bitsPerSample mbusCode)))

theorem setPixelRate_eq {mbusCode : U32} (hcode : mbusCode ∈ ov5648MbusCodes) (rate : Nat)
    (s : Ov5648) :
    (if is8Bit mbusCode then ov5648StateMipiConfigure.setPixelRate rate 8
      else if is10Bit mbusCode then ov5648StateMipiConfigure.setPixelRate rate 10
      else throw .einval : SensorRoutine Unit) s =
        (.ok (), withLink s s.linkFreq (max 1 (min 2147483647
          (rate * 2 * s.numDataLanes.toNat / if is8Bit mbusCode then 8 else 10)))) := by
  rcases bits_of_mem_mbusCodes hcode with h8 | ⟨h8, h10⟩
  · rw [if_pos h8, if_pos h8]
    rfl
  · rw [if_neg (Bool.eq_false_iff.mp h8), if_pos h10, if_neg (Bool.eq_false_iff.mp h8)]
    rfl

theorem stateMipiConfigure_eq {s : Ov5648} (hrate : s.xvclkRate = ov5648XvclkRate)
    {mode : Ov5648Mode} {mbusCode : U32} (hmode : mode ∈ ov5648Modes)
    (hcode : mbusCode ∈ ov5648MbusCodes) :
    ov5648StateMipiConfigure mode mbusCode s = (.ok (), linkAfter mbusCode s) := by
  have hmenu : ov5648LinkFreqMenu.idxOf (codeRate mbusCode) ≠ ov5648LinkFreqMenu.length :=
    Nat.ne_of_lt (List.idxOf_lt_length_iff.mpr (codeRate_mem_menu mbusCode))
  have hne : codeRate mbusCode ≠ 0 := by
    rw [← mipiClkRate_eq hmode hcode]
    exact mipiClkRate_ne_zero hmode hcode
  unfold ov5648StateMipiConfigure linkAfter bitsPerSample
  rw [driver_bind_ok (driver_get s), hrate, mipiClkRate_eq hmode hcode]
  dsimp only
  rw [if_neg hne]
  by_cases hlisted : codeRate mbusCode ∈ s.linkFrequencies
  · rw [if_pos ⟨hmenu, hlisted⟩, if_pos hlisted, driver_bind_ok (driver_modify _ s)]
    exact setPixelRate_eq hcode _ _
  · rw [if_neg (fun h => hlisted h.2), if_neg hlisted]
    exact setPixelRate_eq hcode _ _

theorem stateMipiConfigure_state {s : Ov5648} (hrate : s.xvclkRate = ov5648XvclkRate)
    {mode : Ov5648Mode} {mbusCode : U32} (hmode : mode ∈ ov5648Modes)
    (hcode : mbusCode ∈ ov5648MbusCodes) :
    (ov5648StateMipiConfigure mode mbusCode s).2 = linkAfter mbusCode s :=
  congrArg Prod.snd (stateMipiConfigure_eq hrate hmode hcode)

structure RateInvariant (s : Ov5648) : Prop extends RatesDescribe s where
  xvclkRate : s.xvclkRate = ov5648XvclkRate
  lanes_pos : 1 ≤ s.numDataLanes.toNat
  lanes_le : s.numDataLanes.toNat ≤ 51
  mode_mem : s.mode ∈ ov5648Modes
  code_mem : s.mbusCode ∈ ov5648MbusCodes

theorem RateInvariant.codeRate_listed {s : Ov5648} (h : RateInvariant s) :
    codeRate s.mbusCode ∈ s.linkFrequencies := by
  have hlisted := h.listed
  unfold currentRate at hlisted
  rwa [h.xvclkRate, mipiClkRate_eq h.mode_mem h.code_mem] at hlisted

theorem pixelRate_in_range {lanes : Nat} (hpos : 1 ≤ lanes) (hle : lanes ≤ 51)
    (mbusCode : U32) :
    max 1 (min 2147483647 (codeRate mbusCode * 2 * lanes / bitsPerSample mbusCode)) =
      codeRate mbusCode * 2 * lanes / bitsPerSample mbusCode := by
  unfold codeRate bitsPerSample
  split
  · omega
  · omega

theorem rateInvariant_configured {s : Ov5648} (hrate : s.xvclkRate = ov5648XvclkRate)
    (hpos : 1 ≤ s.numDataLanes.toNat) (hle : s.numDataLanes.toNat ≤ 51) {mode : Ov5648Mode}
    {mbusCode : U32} (hmode : mode ∈ ov5648Modes) (hcode : mbusCode ∈ ov5648MbusCodes)
    (hlisted : codeRate mbusCode ∈ s.linkFrequencies) :
    RateInvariant (withMode (linkAfter mbusCode s) mode mbusCode) := by
  have hcurrent : currentRate (withMode (linkAfter mbusCode s) mode mbusCode) =
      codeRate mbusCode := by
    change ov5648ModeMipiClkRate s.xvclkRate mode mbusCode = _
    rw [hrate, mipiClkRate_eq hmode hcode]
  refine
    { linkFreq := ?_
      listed := ?_
      pixelRate := ?_
      xvclkRate := hrate
      lanes_pos := hpos
      lanes_le := hle
      mode_mem := hmode
      code_mem := hcode }
  · rw [hcurrent]
    change ov5648LinkFreqMenu[if codeRate mbusCode ∈ s.linkFrequencies then
      ov5648LinkFreqMenu.idxOf (codeRate mbusCode) else s.linkFreq]? = _
    rw [if_pos hlisted, List.getElem?_idxOf (codeRate_mem_menu mbusCode)]
  · rw [hcurrent]
    exact hlisted
  · rw [hcurrent]
    exact pixelRate_in_range hpos hle mbusCode

theorem rateInvariant_powerStable : PowerStable RateInvariant where
  client _ _ h := { h with }
  supplies _ _ h := { h with }
  suspended _ _ h := { h with }
  reconfigure s h := by
    rcases hstreaming : s.streaming with _ | _
    · rcases stateConfigure_outcome h.xvclkRate hstreaming h.mode_mem h.code_mem with
        ⟨-, client, -, hrun⟩ | ⟨-, e, client, -, hrun⟩
      · rw [hrun, stateMipiConfigure_state (s := withClient s client) h.xvclkRate h.mode_mem
          h.code_mem]
        exact rateInvariant_configured (s := withClient s client) h.xvclkRate h.lanes_pos
          h.lanes_le h.mode_mem h.code_mem h.codeRate_listed
      · rw [hrun]
        exact { h with }
    · unfold ov5648StateConfigure
      rw [driver_bind_ok (driver_get s), hstreaming]
      exact h

theorem setFmt_keepsRates {nearest : NearestSize} {d : Ov5648Device}
    (h : RateInvariant d.sensor) {which : FormatWhence} {format : MbusFramefmt}
    (hfits : RateOpFits nearest d (.setFmt which format)) :
    KeepsRates nearest d (.setFmt which format) ∧
      RateInvariant (rateStep nearest d (.setFmt which format)).sensor := by
  have hinvariant : RateInvariant (ov5648SetFmt nearest which format d.sensor).1 ∧
      (Unachievable d.sensor which format →
        (∃ e, (ov5648SetFmt nearest which format d.sensor).2.2 = .error e) ∧
          SameState d.sensor (ov5648SetFmt nearest which format d.sensor).1) := by
    cases which with
    | «try» =>
        refine ⟨?_, fun hun => absurd hun.1 (by decide)⟩
        unfold ov5648SetFmt
        split
        · exact h
        · split
          · exact h
          · exact { h with }
    | active =>
        have hcodeMem := findFormat_mem format.code
        rcases setFmt_outcome nearest h.xvclkRate format with
          ⟨hok, mode, hmem, t, -, hrun, -, hcode, hstate⟩ | ⟨-, client, filled, e, hrun⟩
        · have hlisted : codeRate (ov5648FindFormat format.code) ∈ d.sensor.linkFrequencies := by
            rcases hfits with hfits | hfails | hlisted
            · exact absurd hfits (by decide)
            · exact absurd hfails hok
            · exact hlisted
          rw [hrun]
          refine ⟨?_, fun hun => absurd hlisted hun.2⟩
          rcases hstate with rfl | ⟨client, -, rfl⟩
          · exact h
          · rw [stateMipiConfigure_state (s := withClient d.sensor client) h.xvclkRate hmem
              hcodeMem]
            exact rateInvariant_configured (s := withClient d.sensor client) h.xvclkRate
              h.lanes_pos h.lanes_le hmem hcodeMem hlisted
        · rw [hrun]
          exact ⟨{ h with }, fun _ => ⟨⟨e, rfl⟩, ⟨rfl, rfl, rfl, rfl, rfl, rfl⟩⟩⟩
  exact ⟨⟨hinvariant.1.toRatesDescribe, hinvariant.2⟩, hinvariant.1⟩

theorem rateInvariant_sStream {d : Ov5648Device} (h : RateInvariant d.sensor)
    (call : StreamCall) : RateInvariant (streamStep d call).sensor :=
  preserves_sStream rateInvariant_powerStable (fun _ _ h => { h with }) call d h

theorem keepsRates_of_fits {nearest : NearestSize} {d : Ov5648Device}
    (h : RateInvariant d.sensor) {op : RateOp} (hfits : RateOpFits nearest d op) :
    KeepsRates nearest d op ∧ RateInvariant (rateStep nearest d op).sensor := by
  cases op with
  | setFmt which format => exact setFmt_keepsRates h hfits
  | sStream call =>
      have hnext := rateInvariant_sStream h call
      exact ⟨⟨hnext.toRatesDescribe, trivial⟩, hnext⟩
  | runtimeSuspend =>
      have hnext := preserves_pmRuntimeSuspend rateInvariant_powerStable d.sensor h
      exact ⟨⟨hnext.toRatesDescribe, trivial⟩, hnext⟩
  | runtimeResume =>
      have hnext := preserves_pmRuntimeResume rateInvariant_powerStable d.sensor h
      exact ⟨⟨hnext.toRatesDescribe, trivial⟩, hnext⟩

/-- A format change that does not fit is accepted though the endpoint has no rate for
it. -/
theorem fits_of_keepsRates {nearest : NearestSize} {d : Ov5648Device}
    (h : RateInvariant d.sensor) {op : RateOp} (hkeeps : KeepsRates nearest d op) :
    RateOpFits nearest d op := by
  cases op with
  | setFmt which format =>
      cases which with
      | «try» => exact .inl rfl
      | active =>
          by_cases hlisted : codeRate (ov5648FindFormat format.code) ∈ d.sensor.linkFrequencies
          · exact .inr (.inr hlisted)
          · obtain ⟨⟨e, herror⟩, -⟩ := hkeeps.2 ⟨rfl, hlisted⟩
            rcases setFmt_outcome nearest h.xvclkRate format with ⟨-, mode, -, t, -, hrun, -⟩ |
              ⟨hfails, -⟩
            · rw [hrun] at herror
              exact absurd herror nofun
            · exact .inr (.inl hfails)
  | sStream call => trivial
  | runtimeSuspend => trivial
  | runtimeResume => trivial

def probedWith (s : Ov5648) : Ov5648 :=
  { withMode (linkAfter mediaBusFmtSbggr8_1x8 s) ov5648Mode0 mediaBusFmtSbggr8_1x8 with
    pmEnabled := true
    suspended := true }

theorem probe_ok {fresh start : Ov5648} (hprobe : ov5648Probe fresh = (.ok (), start)) :
    ∃ s, s.xvclkRate = ov5648XvclkRate ∧ s.numDataLanes = fresh.numDataLanes ∧
      start = probedWith s := by
  unfold ov5648Probe at hprobe
  rw [driver_bind_ok (driver_get fresh)] at hprobe
  by_cases hrate : fresh.xvclkRate = ov5648XvclkRate
  · simp only [ne_eq, hrate, not_true_eq_false, if_false] at hprobe
    rcases hcheck : onClient ov5648ChipIdCheck fresh with ⟨e | _, checked⟩
    · rw [driver_bind_error hcheck] at hprobe
      exact absurd (congrArg Prod.fst hprobe) nofun
    · have hchecked : checked = withClient fresh checked.client :=
        (congrArg Prod.snd hcheck).symm.trans (congrArg (withClient fresh)
          (congrArg (fun r => r.2.client) hcheck))
      rw [driver_bind_ok hcheck, driver_bind_ok (driver_modify _ checked)] at hprobe
      have hrate' : (ov5648CtrlsInit checked).xvclkRate = ov5648XvclkRate := by
        rw [hchecked]
        exact hrate
      unfold ov5648StateInit at hprobe
      rcases hstreaming : (ov5648CtrlsInit checked).streaming with _ | _
      · have hmode : ov5648Mode0 ∈ ov5648Modes := by decide
        have hcode : mediaBusFmtSbggr8_1x8 ∈ ov5648MbusCodes := by decide
        rcases stateConfigure_outcome hrate' hstreaming hmode hcode with
          ⟨-, client, -, hrun⟩ | ⟨-, e, client, -, hrun⟩
        · rw [stateMipiConfigure_state (s := withClient (ov5648CtrlsInit checked) client) hrate'
            hmode hcode] at hrun
          rw [driver_bind_ok hrun] at hprobe
          refine ⟨withClient (ov5648CtrlsInit checked) client, hrate', ?_,
            (congrArg Prod.snd hprobe).symm⟩
          rw [hchecked]
          rfl
        · rw [driver_bind_error hrun] at hprobe
          exact absurd (congrArg Prod.fst hprobe) nofun
      · have hbusy : ov5648StateConfigure ov5648Mode0 mediaBusFmtSbggr8_1x8
            (ov5648CtrlsInit checked) = (.error .ebusy, ov5648CtrlsInit checked) := by
          unfold ov5648StateConfigure
          rw [driver_bind_ok (driver_get _), hstreaming]
          rfl
        rw [driver_bind_error hbusy] at hprobe
        exact absurd (congrArg Prod.fst hprobe) nofun
  · simp only [ne_eq, hrate, not_false_eq_true, if_true] at hprobe
    exact absurd (congrArg Prod.fst hprobe) nofun

/-- With its rate listed and few enough lanes, a probe establishes the invariant. -/
theorem rateInvariant_probed {s : Ov5648} (hrate : s.xvclkRate = ov5648XvclkRate)
    (hpos : 1 ≤ s.numDataLanes.toNat) (hfits : EndpointFits (probedWith s)) :
    RateInvariant (probedWith s) := by
  have h := rateInvariant_configured hrate hpos hfits.2
    (show ov5648Mode0 ∈ ov5648Modes by decide)
    (show mediaBusFmtSbggr8_1x8 ∈ ov5648MbusCodes by decide) hfits.1
  exact { h with }

theorem endpointFits_of_describes {s : Ov5648} (hrate : s.xvclkRate = ov5648XvclkRate)
    (h : RatesDescribe (probedWith s)) : EndpointFits (probedWith s) := by
  have hcurrent : currentRate (probedWith s) = 168000000 := by
    change ov5648ModeMipiClkRate s.xvclkRate ov5648Mode0 mediaBusFmtSbggr8_1x8 = _
    rw [hrate]
    decide
  refine ⟨?_, ?_⟩
  · rw [← hcurrent]
    exact h.listed
  · have hpixel := h.pixelRate
    rw [hcurrent] at hpixel
    change max 1 (min 2147483647 (168000000 * 2 * s.numDataLanes.toNat / 8)) =
      168000000 * 2 * s.numDataLanes.toNat / 8 at hpixel
    change s.numDataLanes.toNat ≤ 51
    omega

/-- On every endpoint the probe accepts, the rate controls describe the active format
in every state of a run, and every format without a rate is refused, exactly when
the endpoint fits and every format change that succeeds is to a listed rate. -/
theorem rates_described_iff (nearest : NearestSize) {fresh start : Ov5648}
    (hprobe : ov5648Probe fresh = (.ok (), start)) (hlanes : 1 ≤ fresh.numDataLanes.toNat)
    (ops : List RateOp) :
    RatesDescribe start ∧ Along (rateStep nearest) (KeepsRates nearest) (probedDevice start) ops ↔
      EndpointFits start ∧
        Along (rateStep nearest) (RateOpFits nearest) (probedDevice start) ops := by
  obtain ⟨s, hrate, hsame, rfl⟩ := probe_ok hprobe
  rw [← hsame] at hlanes
  have hruns : EndpointFits (probedWith s) →
      (Along (rateStep nearest) (KeepsRates nearest) (probedDevice (probedWith s)) ops ↔
        Along (rateStep nearest) (RateOpFits nearest) (probedDevice (probedWith s)) ops) := by
    intro hfits
    have hstart : RateInvariant (probedDevice (probedWith s)).sensor :=
      rateInvariant_probed hrate hlanes hfits
    exact along_iff_along (I := fun d => RateInvariant d.sensor) (E := fun _ _ => True)
      (fun _ _ h _ hop => keepsRates_of_fits h hop) (fun _ _ h _ hop => fits_of_keepsRates h hop)
      hstart (along_of_forall (fun _ _ => trivial) _ ops)
  constructor
  · rintro ⟨hdescribes, hkeeps⟩
    have hfits := endpointFits_of_describes hrate hdescribes
    exact ⟨hfits, (hruns hfits).mp hkeeps⟩
  · rintro ⟨hfits, hops⟩
    exact ⟨(rateInvariant_probed hrate hlanes hfits).toRatesDescribe, (hruns hfits).mpr hops⟩

/-- The board's sensor before its probe, with the rates its endpoint lists. -/
def freshSensor (linkFrequencies : List Nat) : Ov5648 :=
  { probedSensor with
    client := { probedSensor.client with
      chip := { probedSensor.client.chip with regs := probedSensor.client.chip.resetImage } }
    linkFrequencies := linkFrequencies
    pmEnabled := false
    suspended := false }

def boardStart (linkFrequencies : List Nat) : Ov5648 :=
  (ov5648Probe (freshSensor linkFrequencies)).2

theorem probe_boardStart {linkFrequencies : List Nat}
    (h : (ov5648Probe (freshSensor linkFrequencies)).1 = .ok ()) :
    ov5648Probe (freshSensor linkFrequencies) = (.ok (), boardStart linkFrequencies) := by
  rw [← h]
  rfl

def to10Bit : RateOp := .setFmt .active ⟨mediaBusFmtSbggr10_1x10, 1280, 720⟩

/-- An endpoint that lists both rates of the driver. -/
theorem rates_described_board :
    RatesDescribe (boardStart [168000000, 210000000]) ∧
      Along (rateStep leastError) (KeepsRates leastError)
        (probedDevice (boardStart [168000000, 210000000])) [to10Bit] := by
  have hprobe : ov5648Probe (freshSensor [168000000, 210000000]) =
      (.ok (), boardStart [168000000, 210000000]) := probe_boardStart (by decide +kernel)
  have hlisted : codeRate (ov5648FindFormat mediaBusFmtSbggr10_1x10) ∈
      (boardStart [168000000, 210000000]).linkFrequencies := by
    decide +kernel
  have hfits : EndpointFits (boardStart [168000000, 210000000]) := by
    unfold EndpointFits
    decide +kernel
  exact (rates_described_iff leastError hprobe (by decide) _).mpr
    ⟨hfits, .inr (.inr hlisted), trivial⟩

/-- An endpoint that lists only the rate of 8 bits: the 10-bit format is accepted, and
the link frequency control stays at the old rate. -/
theorem to10Bit_keeps_old_rate :
    RatesDescribe (boardStart [168000000]) ∧ ¬Along (rateStep leastError) (KeepsRates leastError)
      (probedDevice (boardStart [168000000])) [to10Bit] := by
  have hstart : RatesDescribe (boardStart [168000000]) :=
    ⟨by decide +kernel, by decide +kernel, by decide +kernel⟩
  have hrate : currentRate
      (rateStep leastError (probedDevice (boardStart [168000000])) to10Bit).sensor = 210000000 := by
    decide +kernel
  have hlist : (rateStep leastError (probedDevice (boardStart [168000000]))
      to10Bit).sensor.linkFrequencies = [168000000] := by
    decide +kernel
  refine ⟨hstart, ?_⟩
  rintro ⟨⟨hdescribes, -⟩, -⟩
  have hlisted := hdescribes.listed
  rw [hrate, hlist] at hlisted
  exact absurd hlisted (by decide)

end CameraPorting.SensorOv5648.LinkRates
