import CameraPorting.Isi.FormatRoundTrip
import CameraPorting.Kernel.PadEnumeration
import CameraPorting.Pipeline.RawFormat
import CameraPorting.SensorImx219.FormatNegotiation
import CameraPorting.SensorOv5648.Enumeration

namespace CameraPorting.Pipeline.NodeEnumeration

open CameraPorting.Kernel.Media
open CameraPorting.Kernel.PadEnumeration
open CameraPorting.Isi.Device
open CameraPorting.Isi.Channel
open CameraPorting.Isi.Formats
open CameraPorting.Isi.Ioctls
open CameraPorting.Isi.FormatRoundTrip
open CameraPorting.Isi.FrameSizes
open CameraPorting.Csis.Receiver
open CameraPorting.SensorImx219.Sensor
open CameraPorting.SensorOv5648.Registers
open CameraPorting.SensorOv5648.Modes
open CameraPorting.SensorOv5648.Sensor
open CameraPorting.SensorOv5648.StreamRestore (poweredSensor)
open CameraPorting.SensorOv5648.Transfers
open CameraPorting.SensorOv5648.FormatProjection
open CameraPorting.SensorOv5648.Enumeration
open CameraPorting.SensorImx219.FormatNegotiation (modeSize_inj)
open CameraPorting.Pipeline.Sensors
open CameraPorting.Pipeline.RawFormat

/-- The enumerations of a subdev with state `ρ`: its sizes for a code, and its intervals for
a code and a size, each by index; and the interval it runs at. -/
structure PadEnums (ρ : Type) where
  enumFrameSize : ρ → U32 → U32 → Except Errno FrameSizeRange
  enumFrameInterval : ρ → MbusFramefmt → U32 → Except Errno V4l2Fract
  gFrameInterval : ρ → Except Errno V4l2Fract

def imx219EnumFrameSize (s : Imx219) (code index : U32) : Except Errno FrameSizeRange :=
  match supportedModes[index.toNat]? with
  | none => .error .einval
  | some mode =>
      if code ≠ imx219GetFormatCode s s.fmt.code then .error .einval
      else .ok (.exactly mode.width mode.height)

/-- The driver of the IMX219 has no operation for intervals. -/
def sensorEnums : PadEnums BoardSensor where
  enumFrameSize
    | .ov5648 _, _, index => ov5648EnumFrameSize index
    | .imx219 s, code, index => imx219EnumFrameSize s code index
  enumFrameInterval
    | .ov5648 _, mf, index => ov5648EnumFrameInterval mf.code mf.width mf.height index
    | .imx219 _, _, _ => .error .enoioctlcmd
  gFrameInterval
    | .ov5648 s => ov5648GFrameInterval s
    | .imx219 _ => .error .enoioctlcmd

def mipiCsisEnums {ρ : Type} (enums : PadEnums ρ) : PadEnums (CsiState ρ) where
  enumFrameSize state code index :=
    if !state.remoteSensor then .error .einval else enums.enumFrameSize state.sensor code index
  enumFrameInterval state mf index :=
    if !state.remoteSensor then .error .einval else enums.enumFrameInterval state.sensor mf index
  gFrameInterval state :=
    if !state.remoteSensor then .error .einval else enums.gFrameInterval state.sensor

/-- The capture node of a channel; `isMp` says whether its parent is compatible with
"fsl,imx8mp-isi", `remote` whether a remote pad and its subdev are found. -/
structure CaptureNode where
  id : Nat
  isMp : Bool
  remote : Bool

/-- The second channel of an i.MX8MP has lines of 2048 pixels at most. -/
def CaptureNode.Exceeds (node : CaptureNode) (width : U32) : Prop :=
  node.isMp = true ∧ isi2K < width ∧ node.id = 1

instance (node : CaptureNode) (width : U32) : Decidable (node.Exceeds width) :=
  inferInstanceAs (Decidable (_ ∧ _ ∧ _))

inductive FrmSize where
  | discrete (width height : U32)
  | stepwise (range : FrameSizeRange)
  deriving DecidableEq

section Ioctls

variable {ρ : Type} (enums : PadEnums ρ) (ops : PadOps ρ) (node : CaptureNode) (r : ρ)

def findRow (fourcc : U32) : Except Errno MxcIsiFmt :=
  match mxcIsiFindFormat (some fourcc) none 0 with
  | none => .error .einval
  | some fmt => if fmt.fourcc ≠ fourcc then .error .einval else .ok fmt

def mxcIsiCapEnumFramesizes (fourcc index : U32) : Except Errno FrmSize :=
  match findRow fourcc with
  | .error e => .error e
  | .ok fmt =>
      if !node.remote then .error .enodev
      else
        match enums.enumFrameSize r fmt.mbusCode index with
        | .error e => .error e
        | .ok range =>
            if node.Exceeds range.maxWidth ∨ node.Exceeds range.minWidth then .error .einval
            else if range.minWidth = range.maxWidth ∧ range.minHeight = range.maxHeight then
              .ok (.discrete range.minWidth range.minHeight)
            else .ok (.stepwise range)

def mxcIsiCapEnumFrameintervals (fourcc width height index : U32) : Except Errno V4l2Fract :=
  match findRow fourcc with
  | .error e => .error e
  | .ok fmt =>
      if !node.remote then .error .einval
      else
        match enums.enumFrameInterval r ⟨fmt.mbusCode, width, height⟩ index with
        | .error e => .error e
        | .ok interval => if node.Exceeds width then .error .einval else .ok interval

def mxcIsiCapGParm : Except Errno V4l2Fract :=
  if !node.remote then .error .enodev else enums.gFrameInterval r

def mxcIsiCapEnumFmt (index : U32) : ρ × Except Errno U32 :=
  if 0 < index.toNat then (r, .error .einval)
  else if !node.remote then (r, .error .einval)
  else
    match ops.getFmt r with
    | (r, .error e) => if e ≠ .enoioctlcmd then (r, .error .einval) else (r, offered 0)
    | (r, .ok mf) => (r, offered mf.code)
where
  /-- The pixel format for a code; the first of all for a code without a row. -/
  offered (code : U32) : Except Errno U32 :=
    match mxcIsiFindFormat none (some code) 0 with
    | none => .error .einval
    | some fmt => .ok fmt.fourcc

end Ioctls

def nodeSizes (node : CaptureNode) (csis : CsiState BoardSensor) (fourcc : U32) :
    U32 → Except Errno FrmSize :=
  mxcIsiCapEnumFramesizes (mipiCsisEnums sensorEnums) node csis fourcc

def nodeIntervals (node : CaptureNode) (csis : CsiState BoardSensor)
    (fourcc width height : U32) : U32 → Except Errno V4l2Fract :=
  mxcIsiCapEnumFrameintervals (mipiCsisEnums sensorEnums) node csis fourcc width height

def rowOf (fourcc : U32) : Option MxcIsiFmt :=
  mxcIsiOutFormats.find? fun fmt => fmt.fourcc == fourcc

theorem findRow_eq_ok {fourcc : U32} {fmt : MxcIsiFmt} :
    findRow fourcc = .ok fmt ↔ rowOf fourcc = some fmt := by
  have hfind : mxcIsiFindFormat (some fourcc) none 0 =
      some ((rowOf fourcc).getD mxcIsiOutFormat0) := by
    have hsame : (fun fmt : MxcIsiFmt => some fourcc == some fmt.fourcc ||
        (none : Option U32) == some fmt.mbusCode) = fun fmt => fmt.fourcc == fourcc := by
      funext fmt
      rw [show ((none : Option U32) == some fmt.mbusCode) = false from rfl, Bool.or_false]
      exact BEq.comm
    unfold mxcIsiFindFormat rowOf
    rw [if_neg (by decide), hsame]
    cases mxcIsiOutFormats.find? fun fmt => fmt.fourcc == fourcc with
    | none => rfl
    | some fmt => rfl
  unfold findRow
  rw [hfind]
  dsimp only
  rcases hrow : rowOf fourcc with _ | row
  · have hother : mxcIsiOutFormat0.fourcc ≠ fourcc := by
      intro h
      have hnone := List.find?_eq_none.mp hrow mxcIsiOutFormat0 (by decide)
      exact hnone (beq_iff_eq.mpr h)
    rw [Option.getD_none, if_pos hother]
    exact ⟨nofun, nofun⟩
  · have hfound := List.find?_some hrow
    have hsame : row.fourcc = fourcc := beq_iff_eq.mp hfound
    rw [Option.getD_some, if_neg (not_not.mpr hsame), Except.ok.injEq, Option.some.injEq]

def sensorSizes : BoardSensor → List (U32 × U32)
  | .ov5648 _ => ov5648Modes.map ov5648ModeSize
  | .imx219 _ => supportedModes.map imx219ModeSize

/-- The code for which a sensor has its sizes: the OV5648 does not look at it, the IMX219
has them for the active code only. -/
def CodeListed : BoardSensor → U32 → Prop
  | .ov5648 _, _ => True
  | .imx219 s, code => code = imx219GetFormatCode s s.fmt.code

theorem enumFrameSize_eq_ok {sensor : BoardSensor} {code index : U32} {range : FrameSizeRange} :
    sensorEnums.enumFrameSize sensor code index = .ok range ↔
      CodeListed sensor code ∧ ∃ size, (sensorSizes sensor)[index.toNat]? = some size ∧
        range = .exactly size.1 size.2 := by
  cases sensor with
  | ov5648 s =>
      change ov5648EnumFrameSize index = .ok range ↔
        True ∧ ∃ size, (ov5648Modes.map ov5648ModeSize)[index.toNat]? = some size ∧ _
      rw [enumFrameSize_eq, enumEntry_eq_ok, List.getElem?_map, List.getElem?_map, true_and]
      cases ov5648Modes[index.toNat]? with
      | none => exact ⟨nofun, fun ⟨size, h, _⟩ => absurd h nofun⟩
      | some mode =>
          constructor
          · intro h
            exact ⟨_, rfl, (Option.some.inj h).symm⟩
          · rintro ⟨size, hsize, rfl⟩
            rw [← Option.some.inj hsize]
            rfl
  | imx219 s =>
      change imx219EnumFrameSize s code index = .ok range ↔
        code = _ ∧ ∃ size, (supportedModes.map imx219ModeSize)[index.toNat]? = some size ∧ _
      unfold imx219EnumFrameSize
      rw [List.getElem?_map]
      cases supportedModes[index.toNat]? with
      | none => exact ⟨nofun, fun ⟨_, size, h, _⟩ => absurd h nofun⟩
      | some mode =>
          dsimp only
          by_cases hcode : code = imx219GetFormatCode s s.fmt.code
          · rw [if_neg (not_not.mpr hcode), Except.ok.injEq]
            constructor
            · intro h
              exact ⟨hcode, _, rfl, h.symm⟩
            · rintro ⟨-, size, hsize, rfl⟩
              rw [← Option.some.inj hsize]
              rfl
          · rw [if_pos hcode]
            exact ⟨nofun, fun h => absurd h.1 hcode⟩

/-- The links from the node to the sensor are there. -/
def Linked (node : CaptureNode) (csis : CsiState BoardSensor) : Prop :=
  node.remote = true ∧ csis.remoteSensor = true

theorem nodeSizes_eq_ok {node : CaptureNode} {csis : CsiState BoardSensor} {fourcc index : U32}
    {size : FrmSize} :
    nodeSizes node csis fourcc index = .ok size ↔
      ∃ fmt, rowOf fourcc = some fmt ∧ Linked node csis ∧
        CodeListed csis.sensor fmt.mbusCode ∧
        ∃ given, (sensorSizes csis.sensor)[index.toNat]? = some given ∧
          ¬node.Exceeds given.1 ∧ size = .discrete given.1 given.2 := by
  constructor
  · intro h
    unfold nodeSizes mxcIsiCapEnumFramesizes at h
    rcases hrow : findRow fourcc with e | fmt
    · rw [hrow] at h
      exact absurd h nofun
    rcases hremote : node.remote with _ | _
    · rw [hrow, hremote] at h
      exact absurd h nofun
    rcases hsensor : csis.remoteSensor with _ | _
    · simp only [hrow, hremote, mipiCsisEnums, hsensor, Bool.not_true, Bool.not_false,
        Bool.false_eq_true, if_false, if_true] at h
      exact absurd h nofun
    rcases hrange : sensorEnums.enumFrameSize csis.sensor fmt.mbusCode index with e | range
    · simp only [hrow, hremote, mipiCsisEnums, hsensor, hrange, Bool.not_true,
        Bool.false_eq_true, if_false] at h
      exact absurd h nofun
    obtain ⟨hcode, given, hgiven, rfl⟩ := enumFrameSize_eq_ok.mp hrange
    simp only [hrow, hremote, mipiCsisEnums, hsensor, hrange, Bool.not_true,
      Bool.false_eq_true, if_false, FrameSizeRange.exactly, or_self, and_self, if_true] at h
    by_cases hexceeds : node.Exceeds given.1
    · rw [if_pos hexceeds] at h
      exact absurd h nofun
    · rw [if_neg hexceeds] at h
      exact ⟨fmt, findRow_eq_ok.mp hrow, ⟨hremote, hsensor⟩, hcode, given, hgiven, hexceeds,
        (Except.ok.inj h).symm⟩
  · rintro ⟨fmt, hrow, ⟨hremote, hsensor⟩, hcode, given, hgiven, hexceeds, rfl⟩
    have hrange := enumFrameSize_eq_ok.mpr ⟨hcode, given, hgiven, rfl⟩
    unfold nodeSizes mxcIsiCapEnumFramesizes
    simp only [findRow_eq_ok.mpr hrow, hremote, mipiCsisEnums, hsensor, hrange, Bool.not_true,
      Bool.false_eq_true, if_false, FrameSizeRange.exactly, or_self, and_self, if_true]
    rw [if_neg hexceeds]

theorem mem_of_enumerates {table : List (U32 × U32)} (hlength : table.length ≤ 2 ^ 32)
    (size : U32 × U32) :
    (∃ index : U32, table[index.toNat]? = some size) ↔ size ∈ table := by
  rw [← enumerates_iff hlength]
  simp only [Enumerates, enumEntry_eq_ok]

theorem sensorSizes_length (sensor : BoardSensor) : (sensorSizes sensor).length ≤ 2 ^ 32 := by
  cases sensor with
  | ov5648 s => exact (by decide : (ov5648Modes.map ov5648ModeSize).length ≤ 2 ^ 32)
  | imx219 s => exact (by decide : (supportedModes.map imx219ModeSize).length ≤ 2 ^ 32)

theorem enumerates_node_iff {node : CaptureNode} {csis : CsiState BoardSensor}
    {fourcc width height : U32} :
    Enumerates (nodeSizes node csis fourcc) (.discrete width height) ↔
      ∃ fmt, rowOf fourcc = some fmt ∧ Linked node csis ∧
        CodeListed csis.sensor fmt.mbusCode ∧ (width, height) ∈ sensorSizes csis.sensor ∧
        ¬node.Exceeds width := by
  simp only [Enumerates, nodeSizes_eq_ok]
  constructor
  · rintro ⟨index, fmt, hrow, hlinked, hcode, given, hgiven, hexceeds, hsize⟩
    obtain ⟨rfl, rfl⟩ := FrmSize.discrete.inj hsize
    exact ⟨fmt, hrow, hlinked, hcode, List.mem_of_getElem? hgiven, hexceeds⟩
  · rintro ⟨fmt, hrow, hlinked, hcode, hmem, hexceeds⟩
    obtain ⟨index, hindex⟩ := (mem_of_enumerates (sensorSizes_length _) _).mpr hmem
    exact ⟨index, fmt, hrow, hlinked, hcode, _, hindex, hexceeds, rfl⟩

section Negotiation

variable {nearest : NearestSize}

theorem givenSize_self_iff (hnearest : nearest.Minimises) (sensor : BoardSensor)
    (width height : U32) :
    givenSize nearest sensor width height = some (width, height) ↔
      (width, height) ∈ sensorSizes sensor := by
  have hpicks : ∀ {α : Type} {size : α → U32 × U32} {modes : List α},
      (∀ mode ∈ modes, ∀ other ∈ modes, size mode = size other → mode = other) →
        ((nearest.pick size modes width height).map size = some (width, height) ↔
          (width, height) ∈ modes.map size) := by
    intro α size modes hinj
    rw [List.mem_map]
    constructor
    · intro h
      obtain ⟨mode, hpick, hsize⟩ := Option.map_eq_some_iff.mp h
      exact ⟨mode, List.mem_of_getElem? hpick, hsize⟩
    · rintro ⟨mode, hmode, hsize⟩
      rw [hnearest.pick_self hinj hmode hsize]
      exact congrArg some hsize
  cases sensor with
  | ov5648 s => exact hpicks mode_eq_of_size
  | imx219 s => exact hpicks modeSize_inj

/-- A start of a capture that is not scaled: the format is accepted, and the negotiation
ends with a source frame of its size. -/
structure StartsUnscaled (nearest : NearestSize) (node : CaptureNode)
    (csis : CsiState BoardSensor) (cap : MxcIsiCapDev) (pix : V4l2PixFormatMplane) : Prop where
  accepted : (mxcIsiCapSFmtMplane cap false pix).2.2 = .ok ()
  negotiated :
    (negotiate nearest node.remote csis (mxcIsiCapSFmtMplane cap false pix).1).2.2 = .ok ()
  width :
    (negotiate nearest node.remote csis (mxcIsiCapSFmtMplane cap false pix).1).2.1.srcF.width =
      pix.width
  height :
    (negotiate nearest node.remote csis (mxcIsiCapSFmtMplane cap false pix).1).2.1.srcF.height =
      pix.height

def askedFormat (pix : V4l2PixFormatMplane) : MbusFramefmt :=
  ⟨((rowOf pix.pixelformat).getD mxcIsiOutFormat0).mbusCode, pix.width, pix.height⟩

theorem negotiate_unscaled_iff {csis : CsiState BoardSensor} (hclock : Clocked csis.sensor)
    (remote : Bool) {cap : MxcIsiCapDev} {mf : MbusFramefmt}
    (hmf : mf = ⟨(frameFmt cap.dstF).mbusCode, cap.dstF.width, cap.dstF.height⟩) :
    ((negotiate nearest remote csis cap).2.2 = .ok () ∧
        (negotiate nearest remote csis cap).2.1.srcF.width = mf.width ∧
        (negotiate nearest remote csis cap).2.1.srcF.height = mf.height) ↔
      remote = true ∧ csis.remoteSensor = true ∧ ¬SensorRefuses nearest csis.sensor mf ∧
        givenSize nearest csis.sensor mf.width mf.height = some (mf.width, mf.height) := by
  rcases hremote : remote with _ | _
  · refine ⟨fun h => ?_, fun h => absurd h.1 Bool.false_ne_true⟩
    have hfails := h.1
    simp [negotiate, mxcIsiSourceFmtInit] at hfails
  rcases hsensor : csis.remoteSensor with _ | _
  · refine ⟨fun h => ?_, fun h => absurd h.2.1 Bool.false_ne_true⟩
    have hfails := h.1
    simp [negotiate, mxcIsiSourceFmtInit, mipiCsisPadOps, mipiCsisSetFmt, hsensor,
      callFailed] at hfails
  rcases csis_setFmt nearest hclock hsensor mf with
    ⟨hok, size, after, filled, hsize, hset, hafter, -, hactive⟩ | ⟨hrefuses, after, filled, hset⟩
  · rw [hmf] at hset
    rw [negotiate_accepted nearest hset hafter, sourceBounds_eq, hsize]
    have hwidth : cap.dstF.width = mf.width := (congrArg MbusFramefmt.width hmf).symm
    have hheight : cap.dstF.height = mf.height := (congrArg MbusFramefmt.height hmf).symm
    dsimp only [withSource, setFrameBounds]
    rw [hactive, hwidth, hheight]
    dsimp only
    constructor
    · rintro ⟨-, hw, hh⟩
      exact ⟨rfl, rfl, hok, congrArg some (Prod.ext hw hh)⟩
    · rintro ⟨-, -, -, hself⟩
      rw [Option.some.inj hself, if_neg]
      · exact ⟨rfl, rfl, rfl⟩
      · rintro (h | h)
        · exact absurd h (BitVec.lt_irrefl _)
        · exact absurd h (BitVec.lt_irrefl _)
  · refine ⟨fun h => ?_, fun h => absurd hrefuses h.2.2.1⟩
    rw [hmf] at hset
    have hfails := h.1
    simp [negotiate, mxcIsiSourceFmtInit, mipiCsisPadOps, hset, callFailed] at hfails

theorem sensorSizes_pos (sensor : BoardSensor) :
    ∀ size ∈ sensorSizes sensor, size.1 ≠ 0#32 ∧ size.2 ≠ 0#32 := by
  have hpos : (sensorSizes sensor).all (fun size => size.1 != 0#32 && size.2 != 0#32) = true := by
    cases sensor with
    | ov5648 s =>
        change (ov5648Modes.map ov5648ModeSize).all _ = true
        decide
    | imx219 s =>
        change (supportedModes.map imx219ModeSize).all _ = true
        decide
  intro size hsize
  have hboth := List.all_eq_true.mp hpos size hsize
  simpa using hboth

theorem askedFormat_eq {pix : V4l2PixFormatMplane} {fmt : MxcIsiFmt}
    (hrow : rowOf pix.pixelformat = some fmt) (hwidth : pix.width ≠ 0#32)
    (hheight : pix.height ≠ 0#32) (cap : MxcIsiCapDev) :
    askedFormat pix =
      ⟨(frameFmt (mxcIsiCapSFmtMplane cap false pix).1.dstF).mbusCode,
        (mxcIsiCapSFmtMplane cap false pix).1.dstF.width,
        (mxcIsiCapSFmtMplane cap false pix).1.dstF.height⟩ := by
  rw [sFmt_eq hwidth hheight hrow, askedFormat, hrow, fmt_storedFrame]
  rfl

theorem startsUnscaled_iff (hnearest : nearest.Minimises) (node : CaptureNode)
    {csis : CsiState BoardSensor} (hclock : Clocked csis.sensor) (cap : MxcIsiCapDev)
    (pix : V4l2PixFormatMplane) :
    StartsUnscaled nearest node csis cap pix ↔
      (∃ fmt, rowOf pix.pixelformat = some fmt) ∧ Linked node csis ∧
        ¬SensorRefuses nearest csis.sensor (askedFormat pix) ∧
        (pix.width, pix.height) ∈ sensorSizes csis.sensor := by
  -- an accepted format has a row and a size, and is then what the sensor is asked for
  have haccepted : ∀ fmt, rowOf pix.pixelformat = some fmt → pix.width ≠ 0#32 →
      pix.height ≠ 0#32 → (StartsUnscaled nearest node csis cap pix ↔
        node.remote = true ∧ csis.remoteSensor = true ∧
          ¬SensorRefuses nearest csis.sensor (askedFormat pix) ∧
          givenSize nearest csis.sensor pix.width pix.height = some (pix.width, pix.height)) := by
    intro fmt hrow hwidth hheight
    have hset := @sFmt_eq cap pix fmt hwidth hheight hrow
    have hiff := @negotiate_unscaled_iff nearest csis hclock node.remote
      (mxcIsiCapSFmtMplane cap false pix).1 _ (askedFormat_eq hrow hwidth hheight cap)
    constructor
    · intro h
      exact hiff.mp ⟨h.negotiated, h.width, h.height⟩
    · intro h
      obtain ⟨hnegotiated, hw, hh⟩ := hiff.mpr h
      exact ⟨congrArg (fun r => r.2.2) hset, hnegotiated, hw, hh⟩
  constructor
  · intro h
    have hfails := @sFmt_error false pix
    rcases hrow : rowOf pix.pixelformat with _ | fmt
    · obtain ⟨e, he⟩ := hfails (.inr (.inr (.inr hrow))) cap
      exact absurd ((congrArg (fun r => r.2.2) he).symm.trans h.accepted) nofun
    by_cases hwidth : pix.width = 0#32
    · obtain ⟨e, he⟩ := hfails (.inr (.inl hwidth)) cap
      exact absurd ((congrArg (fun r => r.2.2) he).symm.trans h.accepted) nofun
    by_cases hheight : pix.height = 0#32
    · obtain ⟨e, he⟩ := hfails (.inr (.inr (.inl hheight))) cap
      exact absurd ((congrArg (fun r => r.2.2) he).symm.trans h.accepted) nofun
    obtain ⟨hremote, hsensor, hrefuses, hgiven⟩ := (haccepted fmt hrow hwidth hheight).mp h
    exact ⟨⟨fmt, rfl⟩, ⟨hremote, hsensor⟩, hrefuses,
      (givenSize_self_iff hnearest _ _ _).mp hgiven⟩
  · rintro ⟨⟨fmt, hrow⟩, ⟨hremote, hsensor⟩, hrefuses, hmem⟩
    obtain ⟨hwidth, hheight⟩ := sensorSizes_pos csis.sensor _ hmem
    exact (haccepted fmt hrow hwidth hheight).mpr
      ⟨hremote, hsensor, hrefuses, (givenSize_self_iff hnearest _ _ _).mpr hmem⟩

/-- What the node enumerates is what it captures as it comes from the sensor: the sizes,
unless the channel is too narrow for them, and for the IMX219 with the code that is active. -/
theorem enumerated_iff_startsUnscaled (hnearest : nearest.Minimises) (node : CaptureNode)
    {csis : CsiState BoardSensor} (hclock : Clocked csis.sensor) (cap : MxcIsiCapDev)
    (pix : V4l2PixFormatMplane) :
    (Enumerates (nodeSizes node csis pix.pixelformat) (.discrete pix.width pix.height) ∧
        ¬SensorRefuses nearest csis.sensor (askedFormat pix)) ↔
      StartsUnscaled nearest node csis cap pix ∧
        CodeListed csis.sensor (askedFormat pix).code ∧ ¬node.Exceeds pix.width := by
  rw [enumerates_node_iff, startsUnscaled_iff hnearest node hclock]
  constructor
  · rintro ⟨⟨fmt, hrow, hlinked, hcode, hmem, hexceeds⟩, hrefuses⟩
    refine ⟨⟨⟨fmt, hrow⟩, hlinked, hrefuses, hmem⟩, ?_, hexceeds⟩
    rw [askedFormat, hrow]
    exact hcode
  · rintro ⟨⟨⟨fmt, hrow⟩, hlinked, hrefuses, hmem⟩, hcode, hexceeds⟩
    refine ⟨⟨fmt, hrow, hlinked, ?_, hmem, hexceeds⟩, hrefuses⟩
    rwa [askedFormat, hrow] at hcode

def boardNode : CaptureNode := ⟨0, true, true⟩

theorem enumerated_srggb10 :
    Enumerates (nodeSizes boardNode imx219Receiver v4l2PixFmtSrggb10) (.discrete 1920 1080) := by
  refine enumerates_node_iff.mpr ⟨outFmt v4l2PixFmtSrggb10 [16] mxcIsiOutFmtRaw10
    mediaBusFmtSrggb10_1x10, by decide +kernel, ⟨rfl, rfl⟩, ?_, ?_, ?_⟩
  · change _ = imx219GetFormatCode _ _
    decide +kernel
  · change _ ∈ supportedModes.map imx219ModeSize
    decide
  · decide

/-- The IMX219 of the board is listed with 1920x1080, and starts with it. -/
theorem startsUnscaled_srggb10 :
    StartsUnscaled leastError boardNode imx219Receiver boardCapture
      (pix1080p v4l2PixFmtSrggb10) :=
  have hclock : Clocked imx219Receiver.sensor := trivial
  ((enumerated_iff_startsUnscaled leastError_minimises boardNode hclock boardCapture
    (pix1080p v4l2PixFmtSrggb10)).mp ⟨enumerated_srggb10, id⟩).1

end Negotiation

section Listing

theorem widest_first (sensor : BoardSensor) :
    ∃ size, (sensorSizes sensor)[0]? = some size ∧ isi2K < size.1 := by
  cases sensor with
  | ov5648 s => exact ⟨(2592, 1944), rfl, by decide⟩
  | imx219 s => exact ⟨(3280, 2464), rfl, by decide⟩

/-- An application that counts the sizes up sees all that there are, but on the second
channel of an i.MX8MP: there the first is refused, and hides the ones that would fit. -/
theorem listed_iff (node : CaptureNode) (csis : CsiState BoardSensor) (fourcc : U32)
    (size : FrmSize) :
    Listed (nodeSizes node csis fourcc) size ↔
      Enumerates (nodeSizes node csis fourcc) size ∧ ¬(node.isMp = true ∧ node.id = 1) := by
  by_cases hnarrow : node.isMp = true ∧ node.id = 1
  · refine ⟨fun h => ?_, fun h => absurd hnarrow h.2⟩
    rcases hfirst : nodeSizes node csis fourcc 0 with e | first
    · exact absurd h (not_listed_of_error hfirst size)
    · obtain ⟨fmt, -, -, -, given, hgiven, hexceeds, -⟩ := nodeSizes_eq_ok.mp hfirst
      obtain ⟨wide, hwide, hwidth⟩ := widest_first csis.sensor
      have hsame : wide = given := Option.some.inj (hwide.symm.trans hgiven)
      rw [← hsame] at hexceeds
      exact absurd ⟨hnarrow.1, hwidth, hnarrow.2⟩ hexceeds
  · have hfits : ∀ width, ¬node.Exceeds width := fun width h => hnarrow ⟨h.1, h.2.2⟩
    have hinitial : InitialIndices (nodeSizes node csis fourcc) := by
      by_cases hopen : ∃ fmt, rowOf fourcc = some fmt ∧ Linked node csis ∧
          CodeListed csis.sensor fmt.mbusCode
      · obtain ⟨fmt, hrow, hlinked, hcode⟩ := hopen
        refine ⟨(sensorSizes csis.sensor).length, fun index => ?_⟩
        simp only [nodeSizes_eq_ok]
        constructor
        · rintro ⟨-, -, -, -, -, given, hgiven, -⟩
          exact (List.getElem?_eq_some_iff.mp hgiven).1
        · intro hindex
          exact ⟨_, fmt, hrow, hlinked, hcode, _, List.getElem?_eq_getElem hindex, hfits _, rfl⟩
      · refine ⟨0, fun index => ⟨?_, fun h => absurd h (Nat.not_lt_zero _)⟩⟩
        rintro ⟨size, hsize⟩
        obtain ⟨fmt, hrow, hlinked, hcode, -⟩ := nodeSizes_eq_ok.mp hsize
        exact absurd ⟨fmt, hrow, hlinked, hcode⟩ hopen
    rw [listed_iff_enumerates hinitial]
    exact (and_iff_left hnarrow).symm

end Listing

section Intervals

variable {nearest : NearestSize}

theorem negotiate_sensor {csis : CsiState BoardSensor} (hsensor : csis.remoteSensor = true)
    {cap : MxcIsiCapDev} {mf : MbusFramefmt}
    (hmf : mf = ⟨(frameFmt cap.dstF).mbusCode, cap.dstF.width, cap.dstF.height⟩) :
    (negotiate nearest true csis cap).1.sensor =
        ((sensorPadOps nearest).setFmt csis.sensor mf).1 ∧
      (negotiate nearest true csis cap).1.remoteSensor = true := by
  rw [hmf]
  rcases hset : (sensorPadOps nearest).setFmt csis.sensor
      ⟨(frameFmt cap.dstF).mbusCode, cap.dstF.width, cap.dstF.height⟩ with
    ⟨sensor, filled, e | _⟩
  · simp only [negotiate, mxcIsiSourceFmtInit, mipiCsisPadOps, mipiCsisSetFmt, hsensor, hset,
      callFailed]
    exact ⟨rfl, rfl⟩
  · rcases hrow : findCsisFormat filled.code with _ | row
    · simp only [negotiate, mxcIsiSourceFmtInit, mipiCsisPadOps, mipiCsisSetFmt,
        mipiCsisGetFmt, sensor_getFmt, hsensor, hset, hrow, callFailed, Bool.not_true,
        Bool.false_eq_true, if_false, sourceBounds_eq, and_self]
    · simp only [negotiate, mxcIsiSourceFmtInit, mipiCsisPadOps, mipiCsisSetFmt,
        mipiCsisGetFmt, sensor_getFmt, hsensor, hset, hrow, callFailed, Bool.not_true,
        Bool.false_eq_true, if_false, sourceBounds_eq, and_self]

theorem nodeIntervals_eq_ok {node : CaptureNode} {csis : CsiState BoardSensor}
    {fourcc width height index : U32} {interval : V4l2Fract} :
    nodeIntervals node csis fourcc width height index = .ok interval ↔
      ∃ fmt, rowOf fourcc = some fmt ∧ Linked node csis ∧
        sensorEnums.enumFrameInterval csis.sensor ⟨fmt.mbusCode, width, height⟩ index =
          .ok interval ∧ ¬node.Exceeds width := by
  constructor
  · intro h
    unfold nodeIntervals mxcIsiCapEnumFrameintervals at h
    rcases hrow : findRow fourcc with e | fmt
    · rw [hrow] at h
      exact absurd h nofun
    rcases hremote : node.remote with _ | _
    · rw [hrow, hremote] at h
      exact absurd h nofun
    rcases hsensor : csis.remoteSensor with _ | _
    · simp only [hrow, hremote, mipiCsisEnums, hsensor, Bool.not_true, Bool.not_false,
        Bool.false_eq_true, if_false, if_true] at h
      exact absurd h nofun
    rcases hgiven : sensorEnums.enumFrameInterval csis.sensor
        ⟨fmt.mbusCode, width, height⟩ index with e | given
    · simp only [hrow, hremote, mipiCsisEnums, hsensor, hgiven, Bool.not_true,
        Bool.false_eq_true, if_false] at h
      exact absurd h nofun
    · simp only [hrow, hremote, mipiCsisEnums, hsensor, hgiven, Bool.not_true,
        Bool.false_eq_true, if_false] at h
      by_cases hexceeds : node.Exceeds width
      · rw [if_pos hexceeds] at h
        exact absurd h nofun
      · rw [if_neg hexceeds] at h
        exact ⟨fmt, findRow_eq_ok.mp hrow, ⟨hremote, hsensor⟩, hgiven.trans h, hexceeds⟩
  · rintro ⟨fmt, hrow, ⟨hremote, hsensor⟩, hgiven, hexceeds⟩
    unfold nodeIntervals mxcIsiCapEnumFrameintervals
    simp only [findRow_eq_ok.mpr hrow, hremote, mipiCsisEnums, hsensor, hgiven, Bool.not_true,
      Bool.false_eq_true, if_false]
    rw [if_neg hexceeds]

/-- The interval that G_PARM reports once a start has negotiated the format. -/
def startedInterval (nearest : NearestSize) (node : CaptureNode) (csis : CsiState BoardSensor)
    (cap : MxcIsiCapDev) (pix : V4l2PixFormatMplane) : Except Errno V4l2Fract :=
  mxcIsiCapGParm (mipiCsisEnums sensorEnums) node
    (negotiate nearest node.remote csis (mxcIsiCapSFmtMplane cap false pix).1).1

theorem ov5648_taken (hnearest : nearest.Minimises) {s : Ov5648}
    (hrate : s.xvclkRate = ov5648XvclkRate) {mf : MbusFramefmt} (hok : ¬SetFmtFails nearest s mf)
    {mode : Ov5648Mode} (hmode : mode ∈ ov5648Modes)
    (hsize : ov5648ModeSize mode = (mf.width, mf.height)) :
    ∃ t, ((sensorPadOps nearest).setFmt (.ov5648 s) mf).1 = .ov5648 t ∧
      t.mode = mode ∧ t.mbusCode = ov5648FindFormat mf.code := by
  rcases setFmt_outcome nearest hrate mf with
    ⟨-, picked, -, t, hpick, hset, htmode, htcode, -⟩ | ⟨hfails, -⟩
  · have hself := hnearest.pick_self mode_eq_of_size hmode hsize
    refine ⟨t, ?_, htmode.trans (Option.some.inj (hpick.symm.trans hself)), htcode⟩
    change BoardSensor.ov5648 (ov5648SetFmt nearest .active mf s).1 = .ov5648 t
    rw [hset]
  · exact absurd hfails hok

theorem startedInterval_ov5648 (hnearest : nearest.Minimises) {node : CaptureNode}
    {csis : CsiState BoardSensor} (hlinked : Linked node csis) {s : Ov5648}
    (hs : csis.sensor = .ov5648 s) (hclock : Clocked csis.sensor) {pix : V4l2PixFormatMplane}
    (hok : ¬SensorRefuses nearest csis.sensor (askedFormat pix)) {fmt : MxcIsiFmt}
    (hrow : rowOf pix.pixelformat = some fmt) {mode : Ov5648Mode} (hmode : mode ∈ ov5648Modes)
    (hsize : ov5648ModeSize mode = (pix.width, pix.height)) (cap : MxcIsiCapDev) :
    startedInterval nearest node csis cap pix =
      modeInterval mode (ov5648FindFormat (askedFormat pix).code) := by
  obtain ⟨hremote, hsensor⟩ := hlinked
  have hmem : (pix.width, pix.height) ∈ sensorSizes csis.sensor := by
    rw [hs]
    exact List.mem_map.mpr ⟨mode, hmode, hsize⟩
  obtain ⟨hwidth, hheight⟩ := sensorSizes_pos csis.sensor _ hmem
  obtain ⟨hafter, hstill⟩ := @negotiate_sensor nearest csis hsensor
    (mxcIsiCapSFmtMplane cap false pix).1 _ (askedFormat_eq hrow hwidth hheight cap)
  rw [hs] at hok hclock hafter
  obtain ⟨t, ht, htmode, htcode⟩ :=
    ov5648_taken hnearest hclock hok hmode (show _ = ((askedFormat pix).width, _) from hsize)
  unfold startedInterval mxcIsiCapGParm
  rw [hremote]
  simp only [mipiCsisEnums, hstill, hafter, ht, Bool.not_true, Bool.false_eq_true, if_false]
  rw [← htcode, ← htmode]
  rfl

/-- The node lists an interval exactly for a format that the sensor delivers as it is, and
that is the interval which G_PARM reports once the format has started. -/
theorem interval_reported_iff (hnearest : nearest.Minimises) (node : CaptureNode)
    {csis : CsiState BoardSensor} (hclock : Clocked csis.sensor) (cap : MxcIsiCapDev)
    (pix : V4l2PixFormatMplane) (index : U32) (interval : V4l2Fract) :
    (nodeIntervals node csis pix.pixelformat pix.width pix.height index = .ok interval ∧
        ¬SensorRefuses nearest csis.sensor (askedFormat pix)) ↔
      index = 0 ∧ StartsUnscaled nearest node csis cap pix ∧
        Delivers csis.sensor (askedFormat pix).code ∧ ¬node.Exceeds pix.width ∧
        startedInterval nearest node csis cap pix = .ok interval := by
  rw [nodeIntervals_eq_ok, startsUnscaled_iff hnearest node hclock]
  rcases hs : csis.sensor with s | s
  · constructor
    · rintro ⟨⟨fmt, hrow, hlinked, hgiven, hexceeds⟩, hrefuses⟩
      obtain ⟨hindex, mode, hmode, ⟨hw, hh⟩, hinterval⟩ := enumFrameInterval_eq_ok.mp hgiven
      have hasked : (askedFormat pix).code = fmt.mbusCode := by
        rw [askedFormat, hrow]
        rfl
      have hcode : (askedFormat pix).code ∈ ov5648MbusCodes := by
        rw [hasked]
        exact (modeInterval_ok_iff mode _).mp ⟨interval, hinterval⟩
      have hsize : ov5648ModeSize mode = (pix.width, pix.height) := Prod.ext hw hh
      refine ⟨hindex, ⟨⟨fmt, hrow⟩, hlinked, hrefuses, List.mem_map.mpr ⟨mode, hmode, hsize⟩⟩,
        hcode, hexceeds, ?_⟩
      rw [← hs] at hrefuses
      rw [startedInterval_ov5648 hnearest hlinked hs hclock hrefuses hrow hmode hsize,
        findFormat_of_mem hcode, hasked]
      exact hinterval
    · rintro ⟨hindex, ⟨⟨fmt, hrow⟩, hlinked, hrefuses, hmem⟩, hcode, hexceeds, hstarted⟩
      obtain ⟨mode, hmode, hsize⟩ := List.mem_map.mp hmem
      have hasked : (askedFormat pix).code = fmt.mbusCode := by
        rw [askedFormat, hrow]
        rfl
      refine ⟨⟨fmt, hrow, hlinked, ?_, hexceeds⟩, hrefuses⟩
      rw [← hs] at hrefuses
      rw [startedInterval_ov5648 hnearest hlinked hs hclock hrefuses hrow hmode hsize,
        findFormat_of_mem hcode, hasked] at hstarted
      exact enumFrameInterval_eq_ok.mpr ⟨hindex, mode, hmode,
        ⟨congrArg Prod.fst hsize, congrArg Prod.snd hsize⟩, hstarted⟩
  · constructor
    · rintro ⟨⟨fmt, hrow, hlinked, hgiven, hexceeds⟩, hrefuses⟩
      exact absurd hgiven nofun
    · rintro ⟨-, ⟨⟨fmt, hrow⟩, ⟨hremote, hsensor⟩, hrefuses, hmem⟩, -, -, hstarted⟩
      obtain ⟨hwidth, hheight⟩ := sensorSizes_pos _ _ hmem
      obtain ⟨hafter, hstill⟩ := @negotiate_sensor nearest csis hsensor
        (mxcIsiCapSFmtMplane cap false pix).1 _ (askedFormat_eq hrow hwidth hheight cap)
      -- a sensor without the operation
      unfold startedInterval mxcIsiCapGParm at hstarted
      rw [hs] at hafter
      rw [hremote] at hstarted
      simp only [mipiCsisEnums, hstill, hafter, Bool.not_true, Bool.false_eq_true, if_false]
        at hstarted
      exact absurd hstarted nofun

def ov5648Receiver : CsiState BoardSensor where
  csisFmt := mipiCsisFormat0
  format := ⟨0, 0, 0⟩
  remoteSensor := true
  sensor := .ov5648 poweredSensor

/-- 1920x1080 in ten bits runs at 15 frames a second, and is listed so. -/
theorem interval_sbggr10 :
    startedInterval leastError boardNode ov5648Receiver boardCapture
      (pix1080p v4l2PixFmtSbggr10) = .ok ⟨1, 15⟩ := by
  have hclock : Clocked ov5648Receiver.sensor := by
    change poweredSensor.xvclkRate = ov5648XvclkRate
    decide +kernel
  have hinterval : nodeIntervals boardNode ov5648Receiver v4l2PixFmtSbggr10 1920 1080 0 =
      .ok ⟨1, 15⟩ := by
    decide +kernel
  have hrefuses : ¬SensorRefuses leastError ov5648Receiver.sensor
      (askedFormat (pix1080p v4l2PixFmtSbggr10)) := by
    have hfaults : poweredSensor.client.faults = [] := by decide +kernel
    have hidle : poweredSensor.streaming = false := by decide +kernel
    rintro (hstreaming | ⟨-, hfails⟩)
    · exact absurd (hidle.symm.trans hstreaming) Bool.false_ne_true
    · exact not_modeTransferFails hfaults hfails
  exact ((interval_reported_iff leastError_minimises boardNode hclock boardCapture
    (pix1080p v4l2PixFmtSbggr10) 0 ⟨1, 15⟩).mp ⟨hinterval, hrefuses⟩).2.2.2.2

end Intervals

section Offer

def sensorCodes : List U32 := ov5648MbusCodes ++ imx219Codes

theorem sensorCodes_found :
    (sensorCodes.all fun code => mxcIsiOutFormats.any fun fmt => fmt.mbusCode == code) = true := by
  decide +kernel

theorem sensorCodes_received :
    (sensorCodes.all fun code => (findCsisFormat code).isSome) = true := by
  decide +kernel

theorem findFormat_sensorCode {code : U32} (hcode : code ∈ sensorCodes) :
    ∃ fmt ∈ mxcIsiOutFormats, mxcIsiFindFormat none (some code) 0 = some fmt ∧
      fmt.mbusCode = code := by
  have hsame : (fun fmt : MxcIsiFmt => (none : Option U32) == some fmt.fourcc ||
      some code == some fmt.mbusCode) = fun fmt => fmt.mbusCode == code := by
    funext fmt
    rw [show ((none : Option U32) == some fmt.fourcc) = false from rfl, Bool.false_or]
    exact BEq.comm
  rcases hfind : mxcIsiOutFormats.find? (fun fmt => fmt.mbusCode == code) with _ | fmt
  · have hfound := List.all_eq_true.mp sensorCodes_found code hcode
    obtain ⟨fmt, hfmt, hmatch⟩ := List.any_eq_true.mp hfound
    exact absurd hmatch (List.find?_eq_none.mp hfind fmt hfmt)
  · have hmatch := List.find?_some hfind
    refine ⟨fmt, List.mem_of_find?_eq_some hfind, ?_, beq_iff_eq.mp hmatch⟩
    unfold mxcIsiFindFormat
    rw [if_neg (by decide), hsame, hfind]

theorem mem_sensorCodes {sensor : BoardSensor} {code : U32} (h : Delivers sensor code) :
    code ∈ sensorCodes := by
  unfold sensorCodes
  rw [List.mem_append]
  cases sensor with
  | ov5648 s => exact .inl h
  | imx219 s =>
      right
      have hindex : codeIndex code / 4 * 4 + (if s.vflip then 2 else 0) +
          (if s.hflip then 1 else 0) < imx219Codes.length := by
        have hlt := codeIndex_lt code
        change _ < 8
        split <;> split <;> omega
      have hget : imx219GetFormatCode s code = code := h
      unfold imx219GetFormatCode at hget
      rw [← hget]
      dsimp only
      rw [List.getD_eq_getElem?_getD, List.getElem?_eq_getElem hindex, Option.getD_some]
      exact List.getElem_mem hindex

theorem delivers_active (s : Imx219) :
    Delivers (.imx219 s) (activeFormat (.imx219 s)).code :=
  getFormatCode_getFormatCode s s.fmt.code

/-- ENUM_FMT offers the pixel format of the row and no other, and a capture with it ends in
agreement when it starts. -/
structure OffersOnly (nearest : NearestSize) (node : CaptureNode)
    (csis after : CsiState BoardSensor) (fmt : MxcIsiFmt) : Prop where
  offered : ∀ index, mxcIsiCapEnumFmt (mipiCsisPadOps (sensorPadOps nearest)) node csis index =
    if index = 0 then (after, .ok fmt.fourcc) else (csis, .error .einval)
  agrees : ∀ (cap : MxcIsiCapDev) (busy : Bool) (pix : V4l2PixFormatMplane),
    pix.pixelformat = fmt.fourcc → (mxcIsiCapSFmtMplane cap busy pix).2.2 = .ok () →
      (negotiate nearest node.remote after (mxcIsiCapSFmtMplane cap busy pix).1).2.2 = .ok () →
        RawAgreement fmt
          (negotiate nearest node.remote after (mxcIsiCapSFmtMplane cap busy pix).1).1
          (negotiate nearest node.remote after (mxcIsiCapSFmtMplane cap busy pix).1).2.1

/-- The node offers one pixel format, the one of the code that the sensor sends. Captured
in any size, it ends in agreement when it starts, and the sensor keeps its code. -/
theorem enumFmt_agrees (nearest : NearestSize) {node : CaptureNode} {csis : CsiState BoardSensor}
    (hclock : Clocked csis.sensor) (hlinked : Linked node csis)
    (hdelivers : Delivers csis.sensor (activeFormat csis.sensor).code) :
    ∃ fmt after, fmt.mbusCode = (activeFormat csis.sensor).code ∧
      OffersOnly nearest node csis after fmt := by
  have hcode := mem_sensorCodes hdelivers
  obtain ⟨fmt, hfmt, hfind, hmbus⟩ := findFormat_sensorCode hcode
  obtain ⟨hremote, hsensor⟩ := hlinked
  refine ⟨fmt, { csis with format := activeFormat csis.sensor }, hmbus, fun index => ?_,
    fun cap busy pix hfourcc hset hstart => ?_⟩
  · unfold mxcIsiCapEnumFmt
    rcases eq_or_ne index 0 with rfl | hindex
    · rw [if_neg (by decide), if_neg (by simp [hremote])]
      simp only [mipiCsisPadOps, csis_getFmt nearest hsensor, mxcIsiCapEnumFmt.offered, hfind,
        if_true]
    · have hpos : 0 < index.toNat :=
        Nat.pos_iff_ne_zero.mpr fun h => hindex (BitVec.eq_of_toNat_eq h)
      rw [if_pos hpos, if_neg hindex]
  · obtain ⟨hrow, hwidth, hheight⟩ := sFmt_ok hset hfmt hfourcc
    have hrequest : (⟨fmt.mbusCode, pix.width, pix.height⟩ : MbusFramefmt) =
        ⟨(frameFmt (mxcIsiCapSFmtMplane cap busy pix).1.dstF).mbusCode,
          (mxcIsiCapSFmtMplane cap busy pix).1.dstF.width,
          (mxcIsiCapSFmtMplane cap busy pix).1.dstF.height⟩ := by
      rw [frameFmt, hrow, hwidth, hheight]
      rfl
    have hgiven : givenCode csis.sensor fmt.mbusCode = fmt.mbusCode := by
      rw [hmbus]
      exact (givenCode_eq_iff csis.sensor _).mpr hdelivers
    have houtcome := @negotiate_outcome nearest node.remote
      { csis with format := activeFormat csis.sensor } hclock
      (mxcIsiCapSFmtMplane cap busy pix).1 _ hrequest
    rcases houtcome with ⟨-, hfails⟩ | ⟨-, -, hafter, hreceiver, hw, hh⟩
    · exact absurd hstart hfails
    · dsimp only at hafter hreceiver
      rw [hgiven] at hafter hreceiver
      have hreceived := List.all_eq_true.mp sensorCodes_received _ hcode
      rw [← hmbus] at hreceived
      obtain ⟨row, hfound⟩ := Option.isSome_iff_exists.mp hreceived
      exact ⟨hafter, by rw [hreceiver row hfound, hfound], hw, hh⟩

theorem enumFmt_board :
    ∃ fmt after, fmt.mbusCode = (activeFormat imx219Receiver.sensor).code ∧
      OffersOnly leastError boardNode imx219Receiver after fmt :=
  have hclock : Clocked imx219Receiver.sensor := trivial
  have hlinked : Linked boardNode imx219Receiver := ⟨rfl, rfl⟩
  enumFmt_agrees leastError hclock hlinked (delivers_active _)

end Offer

end CameraPorting.Pipeline.NodeEnumeration
