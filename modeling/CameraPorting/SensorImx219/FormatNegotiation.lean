import CameraPorting.SensorImx219.ProgrammedFormat

namespace CameraPorting.SensorImx219.FormatNegotiation

open CameraPorting.Kernel.Media
open CameraPorting.Kernel.I2c
open CameraPorting.Library.Runs
open CameraPorting.SensorImx219.Sensor hiding imx219GetFormatCode imx219GetPadFormat
  imx219SetPadFormat updateExposure updateLimits
open CameraPorting.SensorImx219.Driver
open CameraPorting.SensorImx219.StreamState
open CameraPorting.SensorImx219.ProgrammedFormat

/-- The order of the colour filter in its first two rows. -/
inductive BayerOrder where
  | rggb | grbg | gbrg | bggr
  deriving DecidableEq, Repr

def BayerOrder.mirrored : BayerOrder → BayerOrder
  | .rggb => .grbg
  | .grbg => .rggb
  | .gbrg => .bggr
  | .bggr => .gbrg

def BayerOrder.flipped : BayerOrder → BayerOrder
  | .rggb => .gbrg
  | .gbrg => .rggb
  | .grbg => .bggr
  | .bggr => .grbg

def orderOf (hflip vflip : Bool) : BayerOrder :=
  let order := if vflip then BayerOrder.rggb.flipped else .rggb
  if hflip then order.mirrored else order

theorem orderOf_inj {hflip vflip hflip' vflip' : Bool} :
    orderOf hflip vflip = orderOf hflip' vflip' ↔ hflip = hflip' ∧ vflip = vflip' := by
  revert hflip vflip hflip' vflip'
  decide

/-- The order a code stands for. -/
def codeOrder (code : U32) : Option BayerOrder :=
  if code = mediaBusFmtSrggb8_1x8 ∨ code = mediaBusFmtSrggb10_1x10 then some .rggb
  else if code = mediaBusFmtSgrbg8_1x8 ∨ code = mediaBusFmtSgrbg10_1x10 then some .grbg
  else if code = mediaBusFmtSgbrg8_1x8 ∨ code = mediaBusFmtSgbrg10_1x10 then some .gbrg
  else if code = mediaBusFmtSbggr8_1x8 ∨ code = mediaBusFmtSbggr10_1x10 then some .bggr
  else none

/-- Ten bits for a code that is in no row of the table. -/
def requestedDepth (code : U32) : Nat := if code ∈ raw8Codes then 8 else 10

/-- The order under the current values of the flips. -/
def currentOrder (s : Imx219Device) : BayerOrder :=
  orderOf (decide ((s.ctrls .hflip).cur ≠ 0)) (decide ((s.ctrls .vflip).cur ≠ 0))

/-- The order under the values last asked of the flips. -/
def askedOrder (s : Imx219Device) : BayerOrder :=
  orderOf (decide ((s.ctrls .hflip).val ≠ 0)) (decide ((s.ctrls .vflip).val ≠ 0))

/-- The flips are as they were last asked to be. -/
def FlipsCurrent (s : Imx219Device) : Prop :=
  ∀ id ∈ [Imx219Ctrl.hflip, .vflip], (s.ctrls id).val = 0 ↔ (s.ctrls id).cur = 0

instance (s : Imx219Device) : Decidable (FlipsCurrent s) :=
  inferInstanceAs (Decidable (∀ id ∈ _, (_ ↔ _)))

theorem askedOrder_eq_iff (s : Imx219Device) : askedOrder s = currentOrder s ↔ FlipsCurrent s := by
  simp [askedOrder, currentOrder, FlipsCurrent, orderOf_inj]

/-- The place of the flips in a group of four codes. -/
def flipIndex (s : Imx219Device) : Nat :=
  (if (s.ctrls .vflip).val = 0 then 0 else 2) + (if (s.ctrls .hflip).val = 0 then 0 else 1)

theorem flipIndex_lt (s : Imx219Device) : flipIndex s < 4 := by
  unfold flipIndex
  split <;> split <;> decide

def codeGroup (code : U32) : Nat := codeIndex code / 4

theorem getFormatCode_eq (s : Imx219Device) (code : U32) :
    imx219GetFormatCode s code = imx219Codes.getD (codeGroup code * 4 + flipIndex s) 0 := by
  unfold imx219GetFormatCode flipIndex codeGroup
  rw [Nat.add_assoc]

theorem codeGroup_lt (code : U32) : codeGroup code < 2 := by
  have hlt := codeIndex_lt code
  unfold codeGroup
  omega

theorem codeGroup_getFormatCode (s : Imx219Device) (code : U32) :
    codeGroup (imx219GetFormatCode s code) = codeGroup code := by
  have hgroup := codeGroup_lt code
  have hflips := flipIndex_lt s
  rw [getFormatCode_eq]
  change codeIndex (imx219Codes.getD _ 0) / 4 = codeGroup code
  rw [codeIndex_getD (by omega)]
  omega

theorem codeGroup_getD (code : U32) :
    codeGroup (imx219Codes.getD (codeIndex code) 0) = codeGroup code := by
  unfold codeGroup
  rw [codeIndex_getD (codeIndex_lt code)]

theorem getFormatCode_congr {s t : Imx219Device} (hflips : flipIndex t = flipIndex s)
    {code code' : U32} (hgroup : codeGroup code = codeGroup code') :
    imx219GetFormatCode t code = imx219GetFormatCode s code' := by
  rw [getFormatCode_eq, getFormatCode_eq, hflips, hgroup]

theorem codes_order : ∀ group < 2, ∀ hflip vflip : Bool,
    codeOrder (imx219Codes.getD
      (group * 4 + ((if vflip then 2 else 0) + if hflip then 1 else 0)) 0) =
        some (orderOf hflip vflip) := by
  decide

theorem codeOrder_getFormatCode (s : Imx219Device) (code : U32) :
    codeOrder (imx219GetFormatCode s code) = some (askedOrder s) := by
  have horder := codes_order (codeGroup code) (codeGroup_lt code)
    (decide ((s.ctrls .hflip).val ≠ 0)) (decide ((s.ctrls .vflip).val ≠ 0))
  rw [getFormatCode_eq]
  simpa [flipIndex, askedOrder] using horder

theorem codes_depth : ∀ i < 8,
    codeDepth (imx219Codes.getD i 0) = requestedDepth (imx219Codes.getD i 0) := by
  decide

theorem codeDepth_of_mem {code : U32} (hmem : code ∈ imx219Codes) :
    codeDepth code = requestedDepth code := by
  have hdepth := codes_depth (codeIndex code) (codeIndex_lt code)
  rwa [getD_codeIndex hmem] at hdepth

theorem codeDepth_getD_codeIndex (code : U32) :
    codeDepth (imx219Codes.getD (codeIndex code) 0) = requestedDepth code := by
  by_cases hmem : code ∈ imx219Codes
  · rw [getD_codeIndex hmem, codeDepth_of_mem hmem]
  · have hindex : codeIndex code = 0 := by
      unfold codeIndex
      rw [List.idxOf_of_notMem hmem]
      rfl
    have hraw8 : code ∉ raw8Codes := fun hraw8 =>
      hmem (show code ∈ raw10Codes ++ raw8Codes from List.mem_append_right _ hraw8)
    rw [hindex, requestedDepth, if_neg hraw8]
    decide

theorem codeDepth_getFormatCode (s : Imx219Device) (code : U32) :
    codeDepth (imx219GetFormatCode s code) = requestedDepth code := by
  rw [(formatCode_depth s code).2, codeDepth_getD_codeIndex]

theorem requestedDepth_inj {code code' : U32} :
    requestedDepth code = requestedDepth code' ↔ codeGroup code = codeGroup code' := by
  have hlt := codeIndex_lt code
  have hlt' := codeIndex_lt code'
  rw [← codeDepth_getD_codeIndex, ← codeDepth_getD_codeIndex, (codeDepth_getD _ hlt).2,
    (codeDepth_getD _ hlt').2]
  unfold codeGroup
  split <;> split <;> omega

theorem modeSize_inj : ∀ mode ∈ supportedModes, ∀ other ∈ supportedModes,
    imx219ModeSize mode = imx219ModeSize other → mode = other := by
  decide

/-- The format a reader is given, but for the order of the filter. -/
def storedFormat (which : FormatWhence) (s : Imx219Device) : MbusFramefmt :=
  match which with
  | .try => s.tryFmt
  | .active => imx219UpdatePadFormat s.mode s.fmt

theorem getPadFormat_eq (which : FormatWhence) (s : Imx219Device) :
    (imx219GetPadFormat which s).2 =
      { storedFormat which s with code := imx219GetFormatCode s (storedFormat which s).code } := by
  cases which with
  | «try» => rfl
  | active => rfl

structure SameRequest (a b : MbusFramefmt) : Prop where
  width : b.width = a.width
  height : b.height = a.height
  group : codeGroup b.code = codeGroup a.code

theorem SameRequest.refl (format : MbusFramefmt) : SameRequest format format := ⟨rfl, rfl, rfl⟩

theorem getPadFormat_of_sameRequest {which : FormatWhence} {format : MbusFramefmt}
    {s : Imx219Device} (h : SameRequest format (storedFormat which s)) :
    (imx219GetPadFormat which s).2 =
      { format with code := imx219GetFormatCode s format.code } := by
  rw [getPadFormat_eq, getFormatCode_congr rfl h.group]
  exact congrArg₂ (MbusFramefmt.mk _) h.width h.height

/-- What updating the limits leaves alone of the negotiation. -/
structure NegotiationKept (s t : Imx219Device) : Prop extends SameFormat s t where
  hflip : t.ctrls .hflip = s.ctrls .hflip
  vflip : t.ctrls .vflip = s.ctrls .vflip

theorem NegotiationKept.flipIndex {s t : Imx219Device} (h : NegotiationKept s t) :
    FormatNegotiation.flipIndex t = FormatNegotiation.flipIndex s := by
  unfold FormatNegotiation.flipIndex
  rw [h.hflip, h.vflip]

theorem negotiationKept_stableOn {ids : List Imx219Ctrl}
    (hids : ∀ flip ∈ [Imx219Ctrl.hflip, .vflip], flip ∉ ids) (s : Imx219Device) :
    StableOn ids (NegotiationKept s) where
  apply := ClientFree.preserves_applyCtrl fun _ _ ht => { ht with }
  ctrl t id ctrl hid _ _ ht := by
    have hflips : ∀ flip ∈ [Imx219Ctrl.hflip, .vflip], (withCtrl t id ctrl).ctrls flip =
        t.ctrls flip := by
      intro flip hflip
      apply withCtrl_of_ne t
      rintro rfl
      exact hids flip hflip hid
    exact
      { ht with
        hflip := (hflips .hflip (by simp)).trans ht.hflip
        vflip := (hflips .vflip (by simp)).trans ht.vflip }

theorem updateLimits_negotiationKept (mode : Imx219Mode) (s : Imx219Device) :
    NegotiationKept s (updateLimits mode s) :=
  updateLimits_stable (negotiationKept_stableOn (by decide) s) mode ⟨⟨rfl, rfl⟩, rfl, rfl⟩

section SetPadFormat

variable {nearest : NearestSize} {format : MbusFramefmt} {mode : Imx219Mode} {s : Imx219Device}

/-- The answer to a request, the mode for its size picked. -/
def answerFor (s : Imx219Device) (code : U32) (mode : Imx219Mode) : MbusFramefmt :=
  ⟨imx219GetFormatCode s code, mode.width, mode.height⟩

theorem filledFormat_eq (s : Imx219Device) (format : MbusFramefmt) (mode : Imx219Mode) :
    filledFormat s format mode = answerFor s format.code mode := by
  unfold filledFormat imx219UpdatePadFormat answerFor
  rw [getFormatCode_congr rfl (codeGroup_getD format.code)]

theorem setPadFormat_answer
    (hpick : nearest.pick imx219ModeSize supportedModes format.width format.height = some mode)
    (which : FormatWhence) :
    (imx219SetPadFormat nearest which format s).2 = answerFor s format.code mode := by
  rw [← filledFormat_eq]
  unfold imx219SetPadFormat
  dsimp only
  rw [hpick]
  dsimp only
  cases which with
  | «try» => rfl
  | active =>
      dsimp only
      split
      · rfl
      · rfl

theorem setPadFormat_try
    (hpick : nearest.pick imx219ModeSize supportedModes format.width format.height = some mode) :
    (imx219SetPadFormat nearest .try format s).1 =
      { s with tryFmt := answerFor s format.code mode } := by
  rw [← filledFormat_eq]
  unfold imx219SetPadFormat
  dsimp only
  rw [hpick]
  rfl

theorem setPadFormat_stored
    (hpick : nearest.pick imx219ModeSize supportedModes format.width format.height = some mode)
    (which : FormatWhence) :
    flipIndex (imx219SetPadFormat nearest which format s).1 = flipIndex s ∧
      storedFormat which (imx219SetPadFormat nearest which format s).1 =
        answerFor s format.code mode := by
  cases which with
  | «try» =>
      rw [setPadFormat_try hpick]
      exact ⟨rfl, rfl⟩
  | active =>
      rcases setPadFormat_active (s := s) hpick with ⟨-, hrun⟩ | ⟨hsame, hrun⟩
      · have hkept := updateLimits_negotiationKept mode
          (withMode s (filledFormat s format mode) mode)
        rw [hrun]
        refine ⟨hkept.flipIndex, ?_⟩
        unfold storedFormat
        dsimp only
        rw [hkept.mode, hkept.fmt, ← filledFormat_eq]
        rfl
      · rw [hrun]
        have hstored := not_or.mp hsame
        refine ⟨rfl, ?_⟩
        rw [← filledFormat_eq]
        unfold storedFormat imx219UpdatePadFormat
        dsimp only
        rw [not_not.mp hstored.1, not_not.mp hstored.2]
        rfl

end SetPadFormat

def setsFormat : Imx219Op → Bool
  | .setPadFormat .. => true
  | _ => false

/-- What may come between a format and its readers: any operation but a format, and
readers. -/
inductive LaterCall where
  | operation (op : Imx219Op) (h : setsFormat op = false)
  | getPadFormat (which : FormatWhence)

def laterStep (nearest : NearestSize) (s : Imx219Device) : LaterCall → Imx219Device
  | .operation op _ => imx219Step nearest s op
  | .getPadFormat which => (imx219GetPadFormat which s).1

/-- The stored formats, for both kinds of readers. -/
structure SameStored (s t : Imx219Device) : Prop extends SameFormat s t where
  tryFmt : t.tryFmt = s.tryFmt

theorem SameStored.storedFormat {s t : Imx219Device} (h : SameStored s t)
    (which : FormatWhence) :
    FormatNegotiation.storedFormat which t = FormatNegotiation.storedFormat which s := by
  cases which with
  | «try» => exact h.tryFmt
  | active => exact congrArg₂ imx219UpdatePadFormat h.mode h.fmt

theorem sameStored_controlStable (s : Imx219Device) : ControlStable (SameStored s) where
  apply := ClientFree.preserves_applyCtrl fun _ _ ht => { ht with }
  ctrl _ _ _ _ _ ht := { ht with }

theorem sameStored_streamStable (s : Imx219Device) : StreamStable (SameStored s) where
  write _ _ _ _ _ ht := { ht with }
  setup := (sameStored_controlStable s).setup
  grab _ _ ht := { ht with }
  powerUp _ ht := by
    unfold powerUp
    split
    · exact ht
    · exact { ht with }
  flags _ _ _ _ ht := { ht with }

theorem step_sameStored (nearest : NearestSize) {op : Imx219Op} (hop : setsFormat op = false)
    (s : Imx219Device) : SameStored s (imx219Step nearest s op) := by
  have hself : SameStored s s := ⟨⟨rfl, rfl⟩, rfl⟩
  cases op with
  | setPadFormat => exact absurd hop (by simp [setsFormat])
  | sCtrl id val => exact v4l2SCtrl_stable (sameStored_controlStable s) id val hself
  | setStream | suspend | resume | othersHold =>
      exact (sameStored_streamStable s).step nearest rfl hself

/-- A stored request survives all that comes between it and its readers. -/
theorem later_sameRequest (nearest : NearestSize) {which : FormatWhence}
    {format : MbusFramefmt} {s : Imx219Device} (h : SameRequest format (storedFormat which s))
    (calls : List LaterCall) :
    SameRequest format (storedFormat which (exec (laterStep nearest) s calls)) := by
  induction calls generalizing s with
  | nil => exact h
  | cons call calls ih =>
      rw [exec_cons]
      apply ih
      cases call with
      | operation op hop =>
          change SameRequest format (storedFormat which (imx219Step nearest s op))
          rw [(step_sameStored nearest hop s).storedFormat]
          exact h
      | getPadFormat reader =>
          cases reader with
          | active => exact h
          | «try» =>
              cases which with
              | active => exact h
              | «try» =>
                  exact ⟨h.width, h.height, (codeGroup_getFormatCode s s.tryFmt.code).trans h.group⟩

/-- What is expected of the answer to a request, with readers that come right after it
and after `calls`. -/
structure Negotiates (nearest : NearestSize) (which : FormatWhence) (format : MbusFramefmt)
    (s : Imx219Device) (calls : List LaterCall) (t : Imx219Device) (answer : MbusFramefmt) :
    Prop where
  size : ∃ mode ∈ supportedModes, (answer.width, answer.height) = imx219ModeSize mode ∧
    ∀ other ∈ supportedModes, sizeError format.width format.height (imx219ModeSize mode) ≤
      sizeError format.width format.height (imx219ModeSize other)
  depth : codeDepth answer.code = requestedDepth format.code
  order : codeOrder answer.code = some (currentOrder s)
  whence : ∀ other, (imx219SetPadFormat nearest other format s).2 = answer
  again : (imx219SetPadFormat nearest which answer t).2 = answer
  reported : (imx219GetPadFormat which t).2 = answer
  later_size : ∃ code, (imx219GetPadFormat which (exec (laterStep nearest) t calls)).2 =
    ⟨code, answer.width, answer.height⟩
  later_depth : codeDepth (imx219GetPadFormat which (exec (laterStep nearest) t calls)).2.code =
    requestedDepth format.code
  later_order : codeOrder (imx219GetPadFormat which (exec (laterStep nearest) t calls)).2.code =
    some (currentOrder (exec (laterStep nearest) t calls))
  tryKeeps : which = .try → t = { s with tryFmt := answer }

/-- Every request is answered as expected exactly when the flips were, at the request and
at the later reader, what they had last been asked to be: the driver takes the order from
values that a refused or failed change leaves behind. -/
theorem negotiates_iff {nearest : NearestSize} (hnearest : nearest.Minimises)
    (which : FormatWhence) (format : MbusFramefmt) (s : Imx219Device) (calls : List LaterCall) :
    Negotiates nearest which format s calls (imx219SetPadFormat nearest which format s).1
        (imx219SetPadFormat nearest which format s).2 ↔
      FlipsCurrent s ∧ FlipsCurrent (exec (laterStep nearest)
        (imx219SetPadFormat nearest which format s).1 calls) := by
  obtain ⟨mode, hmode, hpick⟩ := nearest.pick_mem imx219ModeSize
    (show supportedModes ≠ [] by decide) format.width format.height
  have hanswer := setPadFormat_answer (s := s) hpick
  have htry := setPadFormat_try (s := s) hpick
  obtain ⟨hflips, hstored⟩ := setPadFormat_stored (s := s) hpick which
  rw [hanswer which]
  have hsame : SameRequest (answerFor s format.code mode)
      (storedFormat which (imx219SetPadFormat nearest which format s).1) := by
    rw [hstored]
    exact .refl _
  have hread := getPadFormat_of_sameRequest hsame
  have hlater := getPadFormat_of_sameRequest (later_sameRequest nearest hsame calls)
  have horder : codeOrder (answerFor s format.code mode).code = some (askedOrder s) :=
    codeOrder_getFormatCode s format.code
  have hdepth : codeDepth (answerFor s format.code mode).code = requestedDepth format.code :=
    codeDepth_getFormatCode s format.code
  have hcode : ∀ t, flipIndex t = flipIndex s →
      imx219GetFormatCode t (answerFor s format.code mode).code =
        (answerFor s format.code mode).code := by
    intro t ht
    exact getFormatCode_congr ht (codeGroup_getFormatCode s format.code)
  constructor
  · intro h
    refine ⟨(askedOrder_eq_iff s).mp (Option.some.inj (horder.symm.trans h.order)), ?_⟩
    have hlast := h.later_order
    rw [hlater, codeOrder_getFormatCode] at hlast
    exact (askedOrder_eq_iff _).mp (Option.some.inj hlast)
  · rintro ⟨hnow, hthen⟩
    refine
      { size := ⟨mode, hmode, rfl, hnearest.pick_le hpick⟩
        depth := hdepth
        order := by rw [horder, (askedOrder_eq_iff s).mpr hnow]
        whence := hanswer
        again := ?_
        reported := ?_
        later_size := ⟨_, hlater⟩
        later_depth := ?_
        later_order := ?_
        tryKeeps := ?_ }
    · have hpicked := hnearest.pick_self modeSize_inj hmode
        (show imx219ModeSize mode = ((answerFor s format.code mode).width,
          (answerFor s format.code mode).height) from rfl)
      rw [setPadFormat_answer hpicked, answerFor, hcode _ hflips]
      rfl
    · rw [hread, hcode _ hflips]
    · have hmem : (answerFor s format.code mode).code ∈ imx219Codes :=
        (formatCode_depth s format.code).1
      rw [hlater, codeDepth_getFormatCode, ← codeDepth_of_mem hmem, hdepth]
    · rw [hlater, codeOrder_getFormatCode, (askedOrder_eq_iff _).mpr hthen]
    · rintro rfl
      exact htry

theorem negotiates_flipped :
    Negotiates leastError .active ⟨mediaBusFmtSbggr8_1x8, 1900, 1000⟩
      (exec (imx219Step leastError) (boardDevice []) [.sCtrl .vflip 1])
      [.operation (.sCtrl .hflip 1) rfl, .getPadFormat .try]
      (imx219SetPadFormat leastError .active ⟨mediaBusFmtSbggr8_1x8, 1900, 1000⟩
        (exec (imx219Step leastError) (boardDevice []) [.sCtrl .vflip 1])).1
      (imx219SetPadFormat leastError .active ⟨mediaBusFmtSbggr8_1x8, 1900, 1000⟩
        (exec (imx219Step leastError) (boardDevice []) [.sCtrl .vflip 1])).2 := by
  refine (negotiates_iff leastError_minimises .active _ _ _).mpr ⟨?_, ?_⟩
  · decide +kernel
  · decide +kernel

def flipWhileStreaming : List Imx219Op := [.setStream true none, .sCtrl .hflip 1]

/-- The code then follows the refused value. -/
theorem flipWhileStreaming_reported :
    ¬Negotiates leastError .active ⟨mediaBusFmtSrggb10_1x10, 3280, 2464⟩
      (exec (imx219Step leastError) (boardDevice []) flipWhileStreaming) []
      (imx219SetPadFormat leastError .active ⟨mediaBusFmtSrggb10_1x10, 3280, 2464⟩
        (exec (imx219Step leastError) (boardDevice []) flipWhileStreaming)).1
      (imx219SetPadFormat leastError .active ⟨mediaBusFmtSrggb10_1x10, 3280, 2464⟩
        (exec (imx219Step leastError) (boardDevice []) flipWhileStreaming)).2 := by
  intro h
  have horder := h.order
  revert horder
  decide +kernel

theorem flipsCurrent_stableOn {ids : List Imx219Ctrl}
    (hids : ∀ flip ∈ [Imx219Ctrl.hflip, .vflip], flip ∉ ids) : StableOn ids FlipsCurrent where
  apply := ClientFree.preserves_applyCtrl fun _ _ hs => hs
  ctrl s id ctrl hid _ _ hs := by
    intro flip hflip
    have hne : flip ≠ id := by
      rintro rfl
      exact hids flip hflip hid
    rw [withCtrl_of_ne s hne]
    exact hs flip hflip

theorem flipsCurrent_withCtrl {s : Imx219Device} (hs : FlipsCurrent s) {id : Imx219Ctrl}
    {ctrl : V4l2Ctrl} (hctrl : ctrl.val = 0 ↔ ctrl.cur = 0) :
    FlipsCurrent (withCtrl s id ctrl) := by
  intro flip hflip
  rcases eq_or_ne flip id with rfl | hid
  · rw [withCtrl_self]
    exact hctrl
  · rw [withCtrl_of_ne s hid]
    exact hs flip hflip

theorem flipsCurrent_streamStable : StreamStable FlipsCurrent where
  write _ _ _ _ _ hs := hs
  setup id s hs := by
    have hstable : StableOn [.exposure] FlipsCurrent := flipsCurrent_stableOn (by decide)
    exact preserves_imx219SetCtrl hstable (by simp) id _ (flipsCurrent_withCtrl hs Iff.rfl)
  grab grabbed s hs := by
    have hvflip : FlipsCurrent (withCtrl s .vflip ((s.ctrls .vflip).withGrabbed grabbed)) :=
      flipsCurrent_withCtrl hs (hs .vflip (by simp))
    exact flipsCurrent_withCtrl hvflip (hvflip .hflip (by simp))
  powerUp s hs := by
    unfold powerUp
    split
    · exact hs
    · exact hs
  flags _ _ _ _ hs := hs

/-- A change of a flip is neither refused nor failed. -/
def FlipTaken (s : Imx219Device) : Imx219Op → Prop
  | .sCtrl id val => id ∈ [Imx219Ctrl.hflip, .vflip] →
      ∃ v, validateNew (s.ctrls id) val = some v ∧
        (v4l2SetCtrl (imx219SetCtrl id) id v s).1 = .ok ()
  | _ => True

theorem flipsCurrent_taken {s : Imx219Device} (hs : FlipsCurrent s) {id : Imx219Ctrl}
    (hid : id ∈ [Imx219Ctrl.hflip, .vflip]) {val : Int}
    (hok : (v4l2SetCtrl (imx219SetCtrl id) id val s).1 = .ok ()) :
    FlipsCurrent (v4l2SetCtrl (imx219SetCtrl id) id val s).2 := by
  rcases v4l2SetCtrl_ok_inv hok with ⟨hval, hrun⟩ | ⟨t, hrun, hset⟩
  · rw [hrun]
    refine flipsCurrent_withCtrl hs ?_
    rw [hval]
    rfl
  · have happly : imx219SetCtrl id = applyCtrl id := by
      simp only [List.mem_cons, List.not_mem_nil, or_false] at hid
      rcases hid with rfl | rfl
      · rfl
      · rfl
    have hctrls : t.ctrls = (withCtrl s id ((s.ctrls id).withVal val)).ctrls := by
      rw [happly] at hrun
      exact (congrArg (fun r => r.2.ctrls) hrun).symm.trans (applyCtrl_ctrls id _)
    rw [hset]
    intro flip hflip
    rcases eq_or_ne flip id with rfl | hne
    · rw [withCtrl_self, hctrls, withCtrl_self]
      rfl
    · rw [withCtrl_of_ne t hne, hctrls, withCtrl_of_ne s hne]
      exact hs flip hflip

theorem flipsCurrent_step (nearest : NearestSize) {s : Imx219Device} (hs : FlipsCurrent s)
    {op : Imx219Op} (hop : FlipTaken s op) : FlipsCurrent (imx219Step nearest s op) := by
  cases op with
  | sCtrl id val =>
      change FlipsCurrent (v4l2SCtrl id val s)
      unfold v4l2SCtrl
      split
      · exact hs
      · by_cases hid : id ∈ [Imx219Ctrl.hflip, .vflip]
        · obtain ⟨v, hvalid, hok⟩ := hop hid
          rw [hvalid]
          exact flipsCurrent_taken hs hid hok
        · have hstable : StableOn [id, .exposure] FlipsCurrent := by
            refine flipsCurrent_stableOn fun flip hflip hmem => ?_
            rcases List.mem_cons.mp hmem with rfl | hmem
            · exact hid hflip
            · rw [List.mem_singleton.mp hmem] at hflip
              exact absurd hflip (by decide)
          split
          · exact hstable.ctrl s id _ (by simp) rfl rfl hs
          · exact preserves_v4l2SetCtrl hstable (preserves_imx219SetCtrl hstable (by simp) id)
              (by simp) _ s hs
  | setPadFormat which format =>
      obtain ⟨mode, -, hpick⟩ := nearest.pick_mem imx219ModeSize
        (show supportedModes ≠ [] by decide) format.width format.height
      change FlipsCurrent (imx219SetPadFormat nearest which format s).1
      cases which with
      | «try» =>
          rw [setPadFormat_try hpick]
          exact hs
      | active =>
          rcases setPadFormat_active (s := s) hpick with ⟨-, hrun⟩ | ⟨-, hrun⟩
          · rw [hrun]
            exact updateLimits_stable (flipsCurrent_stableOn (by decide)) mode hs
          · rwa [hrun]
  | setStream | suspend | resume | othersHold =>
      exact flipsCurrent_streamStable.step nearest rfl hs

/-- From probe on, the flips are as they were last asked to be while no change of a flip
is refused or fails. -/
theorem flipsCurrent_run (nearest : NearestSize) (client : Imx219Client)
    (tryFmt : MbusFramefmt) {ops : List Imx219Op}
    (h : Along (imx219Step nearest) FlipTaken (probedDevice client tryFmt) ops) :
    Always (imx219Step nearest) FlipsCurrent (probedDevice client tryFmt) ops := by
  have hstart : FlipsCurrent (probedDevice client tryFmt) := fun _ hflip => by
    simp only [List.mem_cons, List.not_mem_nil, or_false] at hflip
    rcases hflip with rfl | rfl
    · exact Iff.rfl
    · exact Iff.rfl
  exact always_of_along (fun s op hs hop => flipsCurrent_step nearest hs hop) hstart h

end CameraPorting.SensorImx219.FormatNegotiation
