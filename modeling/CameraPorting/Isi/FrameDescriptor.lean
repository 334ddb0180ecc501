import CameraPorting.Isi.FrameSizes
import CameraPorting.Library.Runs

namespace CameraPorting.Isi.FrameDescriptor

open CameraPorting.Kernel.Media
open CameraPorting.Library.Runs
open CameraPorting.Isi.Device
open CameraPorting.Isi.Channel
open CameraPorting.Isi.Formats
open CameraPorting.Isi.Ioctls
open CameraPorting.Isi.FrameSizes

def mxcMaxPlanes : Nat := 3

structure V4l2Rect where
  left : U32
  top : U32
  width : U32
  height : U32
  deriving DecidableEq

/-- The selection targets; `other` is every one that no function knows. -/
inductive SelTarget where
  | crop | cropDefault | cropBounds | compose | composeDefault | composeBounds | other
  deriving DecidableEq

def setFrameCrop (f : MxcIsiFrame) (r : V4l2Rect) : MxcIsiFrame :=
  { f with hOff := r.left, vOff := r.top, cWidth := r.width, cHeight := r.height }

def enclosedRectangle (a b : V4l2Rect) : Bool :=
  if a.left.slt b.left || a.top.slt b.top then false
  else if b.left + b.width < a.left + a.width then false
  else if b.top + b.height < a.top + a.height then false
  else true

/-- `mxc_isi_cap_s_selection`. `typeOk` says that the buffer type is the capture type,
`le` and `ge` are the flags of the call. -/
def mxcIsiCapSSelection (cap : MxcIsiCapDev) (typeOk : Bool) (target : SelTarget) (le ge : Bool)
    (r : V4l2Rect) : MxcIsiCapDev × Ret :=
  let rect := r
  if typeOk = false then (cap, .error .einval)
  else if target ≠ .compose ∧ target ≠ .crop then (cap, .error .einval)
  else if le && !enclosedRectangle rect r then (cap, .error .erange)
  else if ge && !enclosedRectangle r rect then (cap, .error .erange)
  else if target = .compose then ({ cap with dstF := setFrameCrop cap.dstF rect }, .ok ())
  else ({ cap with srcF := setFrameCrop cap.srcF rect }, .ok ())

def mxcIsiCapGSelection (cap : MxcIsiCapDev) (typeOk : Bool) (target : SelTarget) :
    Except Errno V4l2Rect :=
  if typeOk = false then .error .einval
  else
    match target with
    | .composeDefault | .composeBounds => .ok ⟨0#32, 0#32, cap.dstF.oWidth, cap.dstF.oHeight⟩
    | .cropBounds | .cropDefault => .ok ⟨0#32, 0#32, cap.srcF.oWidth, cap.srcF.oHeight⟩
    | .compose => .ok ⟨cap.dstF.hOff, cap.dstF.vOff, cap.dstF.width, cap.dstF.height⟩
    | .crop => .ok ⟨cap.srcF.hOff, cap.srcF.vOff, cap.srcF.width, cap.srcF.height⟩
    | .other => .error .einval

/-- `mxc_isi_subdev_set_selection`; the rectangle of a `TRY` goes to the file handle. -/
def mxcIsiSubdevSetSelection (cap : MxcIsiCapDev) (target : SelTarget) (which : FormatWhence)
    (r : V4l2Rect) : MxcIsiCapDev × Ret :=
  match target, which with
  | .crop, .try => (cap, .ok ())
  | .crop, .active => ({ cap with srcF := setFrameCrop cap.srcF r }, .ok ())
  | .compose, .try => (cap, .ok ())
  | .compose, .active => ({ cap with dstF := setFrameCrop cap.dstF r }, .ok ())
  | _, _ => (cap, .error .einval)

/-- `mxc_isi_subdev_get_selection`, with the rectangle of the file handle. -/
def mxcIsiSubdevGetSelection (cap : MxcIsiCapDev) (target : SelTarget) (which : FormatWhence)
    (trySel : V4l2Rect) : Except Errno V4l2Rect :=
  match target, which with
  | .composeBounds, _ => .ok ⟨0#32, 0#32, cap.dstF.oWidth, cap.dstF.oHeight⟩
  | .cropBounds, _ => .ok ⟨0#32, 0#32, cap.srcF.oWidth, cap.srcF.oHeight⟩
  | .crop, .try | .compose, .try => .ok trySel
  | .crop, .active => .ok ⟨cap.srcF.hOff, cap.srcF.vOff, cap.srcF.width, cap.srcF.height⟩
  | .compose, .active => .ok ⟨cap.dstF.hOff, cap.dstF.vOff, cap.dstF.width, cap.dstF.height⟩
  | _, _ => .error .einval

/-- The calls on the nodes of a channel that deal with its frames. -/
inductive Call where
  | sFmt (busy : Bool) (pix : V4l2PixFormatMplane)
  | setFmt (busy : Bool) (pad : Nat) (which : FormatWhence) (mf : MbusFramefmt)
  | capSSelection (typeOk : Bool) (target : SelTarget) (le ge : Bool) (r : V4l2Rect)
  | capGSelection (typeOk : Bool) (target : SelTarget)
  | setSelection (target : SelTarget) (which : FormatWhence) (r : V4l2Rect)
  | getSelection (target : SelTarget) (which : FormatWhence) (trySel : V4l2Rect)

section Steps

variable (isMn : Bool)

def call (cap : MxcIsiCapDev) : Call → MxcIsiCapDev × Ret
  | .sFmt busy pix =>
      ((mxcIsiCapSFmtMplane cap busy pix).1, (mxcIsiCapSFmtMplane cap busy pix).2.2)
  | .setFmt busy pad _ mf => mxcIsiSubdevSetFmt cap busy isMn pad mf
  | .capSSelection typeOk target le ge r => mxcIsiCapSSelection cap typeOk target le ge r
  | .capGSelection typeOk target =>
      (cap, (mxcIsiCapGSelection cap typeOk target).map fun _ => ())
  | .setSelection target which r => mxcIsiSubdevSetSelection cap target which r
  | .getSelection target which trySel =>
      (cap, (mxcIsiSubdevGetSelection cap target which trySel).map fun _ => ())

def step (cap : MxcIsiCapDev) (c : Call) : MxcIsiCapDev := (call isMn cap c).1

end Steps

def sFmtRow (busy : Bool) (pix : V4l2PixFormatMplane) : Option MxcIsiFmt :=
  if busy ∨ pix.height = 0#32 ∨ pix.width = 0#32 then none
  else mxcIsiOutFormats.find? (fun fmt => fmt.fourcc == pix.pixelformat)

def setFmtRow (isMn busy : Bool) (pad : Nat) (mf : MbusFramefmt) : Option MxcIsiFmt :=
  if (pad < mxcIsiSdPadSourceMem ∧ busy) ∨ (isMn ∧ isi2K < mf.width) then none
  else mxcIsiOutFormats.find? (fun fmt => fmt.mbusCode == mf.code)

/-- The entries of the plane arrays that a call reads or writes: after the loop of
`set_fmt`, the one behind the last plane. -/
def planeIndices (isMn : Bool) : Call → List Nat
  | .sFmt busy pix =>
      match sFmtRow busy pix with
      | none => []
      | some fmt => if 1 < fmt.memplanes then List.range fmt.memplanes else [0]
  | .setFmt busy pad _ mf =>
      match setFmtRow isMn busy pad mf with
      | none => []
      | some fmt => if 1 < fmt.memplanes then List.range (fmt.memplanes + 1) else [0]
  | _ => []

/-- What the rest of the driver takes from the output frame. -/
structure Described (f : MxcIsiFrame) : Prop where
  row : ∃ fmt ∈ mxcIsiOutFormats, f.fmt = some fmt ∧ ∀ p, p < fmt.memplanes →
    f.width.toNat * fmt.depthAt p / 8 ≤ (f.bytesperline p).toNat ∧
      (f.bytesperline p).toNat * (planeLines fmt p f.height).toNat ≤ (f.sizeimage p).toNat
  width : f.width = f.oWidth
  height : f.height = f.oHeight
  width_ne : f.width ≠ 0#32
  height_ne : f.height ≠ 0#32

def isTry : Call → Bool
  | .setFmt _ _ which _ => which = .try
  | .setSelection _ which _ => which = .try
  | .getSelection _ which _ => which = .try
  | _ => false

/-- One call: a described frame, no entry outside the arrays, and no change by a `TRY` or
a call that is rejected. -/
structure CallKept (isMn : Bool) (cap : MxcIsiCapDev) (c : Call) : Prop where
  described : Described (step isMn cap c).dstF
  inBounds : ∀ i ∈ planeIndices isMn c, i < mxcMaxPlanes
  unchanged : isTry c = true ∨ (call isMn cap c).2 ≠ .ok () →
    (step isMn cap c).dstF = cap.dstF

/-- A format of one plane whose line and frame are counted in 32 bits. -/
def SingleFits (fmt : MxcIsiFmt) (width height : U32) : Prop :=
  width.toNat * fmt.depthAt 0 < 2 ^ 32 ∧
    height.toNat * (width.toNat * fmt.depthAt 0 / 8) < 2 ^ 32

/-- A plane of several: its bits are counted in 32 bits, and no larger pitch is asked
for than the width. -/
def PlaneFits (fmt : MxcIsiFmt) (width height : U32) (p : Nat) (bytesperline : U32) : Prop :=
  (bytesperline < width → width.toNat * 8 < 2 ^ 32) ∧
    (planeLines fmt p height ≠ 0#32 → bytesperline ≤ width ∧
      width.toNat * (planeLines fmt p height).toNat * 8 < 2 ^ 32)

def SFmtDescribes (fmt : MxcIsiFmt) (pix : V4l2PixFormatMplane) : Prop :=
  if 1 < fmt.memplanes then
    ∀ p, p < fmt.memplanes →
      PlaneFits fmt pix.width pix.height p (pix.planeFmt p).bytesperline
  else SingleFits fmt pix.width pix.height

def SetFmtDescribes (fmt : MxcIsiFmt) (mf : MbusFramefmt) : Prop :=
  fmt.memplanes = 1 ∧ mf.width ≠ 0#32 ∧ mf.height ≠ 0#32 ∧ SingleFits fmt mf.width mf.height

structure Framed (f : MxcIsiFrame) (fmt : MxcIsiFmt) (width height : U32) : Prop where
  fmt : f.fmt = some fmt
  oWidth : f.oWidth = width
  oHeight : f.oHeight = height
  cWidth : f.cWidth = width
  cHeight : f.cHeight = height
  width : f.width = width
  height : f.height = height

/-- What a call must meet: a format that is accepted describes its frame, of a `TRY` it is
the format that is there already, and a call that sets no format comes after one that did. -/
def Fits (isMn : Bool) (cap : MxcIsiCapDev) : Call → Prop
  | .sFmt busy pix =>
      match sFmtRow busy pix with
      | none => cap.dstF.oWidth ≠ 0#32
      | some fmt => SFmtDescribes fmt pix
  | .setFmt busy pad which mf =>
      match setFmtRow isMn busy pad mf with
      | none => cap.dstF.oWidth ≠ 0#32
      | some fmt => SetFmtDescribes fmt mf ∧
          (which = .try → Framed cap.dstF fmt mf.width mf.height)
  | _ => cap.dstF.oWidth ≠ 0#32

/-- A product that wraps is smaller than the number it stands for, also in bytes. -/
theorem wrapped_div_iff (n : Nat) : n / 8 ≤ n % 2 ^ 32 / 8 ↔ n < 2 ^ 32 := by
  omega

theorem wrapped_iff (n : Nat) : n ≤ n % 2 ^ 32 ↔ n < 2 ^ 32 := by
  omega

theorem outFormats_depth : ∀ fmt ∈ mxcIsiOutFormats, ∀ p, p < 3 → fmt.depthAt p ≤ 32 := by
  decide

theorem lineBytes_toNat {fmt : MxcIsiFmt} (hfmt : fmt ∈ mxcIsiOutFormats) (width : U32) :
    (lineBytes fmt width).toNat = width.toNat * fmt.depthAt 0 % 2 ^ 32 / 8 := by
  have hdepth := outFormats_depth fmt hfmt 0 (by decide)
  have hcast : (depthU32 fmt 0).toNat = fmt.depthAt 0 := by
    rw [depthU32, BitVec.toNat_ofNat]
    exact Nat.mod_eq_of_lt (by omega)
  rw [lineBytes, BitVec.toNat_udiv, BitVec.toNat_mul, hcast]
  rfl

/-- The line and the frame of a format of one plane are right exactly when neither
product wraps. -/
theorem single_iff {fmt : MxcIsiFmt} (hfmt : fmt ∈ mxcIsiOutFormats) (width height : U32) :
    (width.toNat * fmt.depthAt 0 / 8 ≤ (lineBytes fmt width).toNat ∧
      (lineBytes fmt width).toNat * height.toNat ≤ (height * lineBytes fmt width).toNat) ↔
      SingleFits fmt width height := by
  rw [BitVec.toNat_mul, Nat.mul_comm (lineBytes fmt width).toNat, wrapped_iff,
    lineBytes_toNat hfmt, wrapped_div_iff]
  unfold SingleFits
  constructor
  · rintro ⟨hline, hframe⟩
    rw [Nat.mod_eq_of_lt hline] at hframe
    exact ⟨hline, hframe⟩
  · rintro ⟨hline, hframe⟩
    refine ⟨hline, ?_⟩
    rw [Nat.mod_eq_of_lt hline]
    exact hframe

theorem sizePlane_pitch {fmt : MxcIsiFmt} {p : Nat} (hdepth : fmt.depthAt p = 8)
    {width height : U32} {plane : V4l2PlanePixFormat} (hwidth : width ≠ 0#32) :
    (sizePlane fmt width height p plane).bytesperline.toNat =
      if plane.bytesperline < width then width.toNat * 8 % 2 ^ 32 / 8
      else plane.bytesperline.toNat := by
  have hunit : depthU32 fmt p >>> 3 = 1#32 := by
    rw [depthU32, hdepth]
    rfl
  have hdiv : plane.bytesperline.sdiv 1#32 = plane.bytesperline := BitVec.sdiv_one
  have hcast : (depthU32 fmt p).toNat = 8 := by
    rw [depthU32, hdepth]
    rfl
  have hzero : plane.bytesperline = 0#32 → plane.bytesperline < width := by
    intro h
    rw [h]
    exact (BitVec.pos_iff_ne_zero width).mpr hwidth
  unfold sizePlane
  dsimp only
  rw [hunit, hdiv]
  by_cases hlt : plane.bytesperline < width
  · rw [if_pos (.inr hlt), if_pos hlt, BitVec.toNat_ushiftRight, BitVec.toNat_mul, hcast,
      Nat.shiftRight_eq_div_pow]
  · rw [if_neg (fun h => hlt (h.elim hzero id)), if_neg hlt]

theorem sizePlane_size {fmt : MxcIsiFmt} {p : Nat} (hdepth : fmt.depthAt p = 8)
    (width height : U32) (plane : V4l2PlanePixFormat) :
    (sizePlane fmt width height p plane).sizeimage.toNat =
      width.toNat * (planeLines fmt p height).toNat * 8 % 2 ^ 32 / 8 := by
  have hcast : (depthU32 fmt p).toNat = 8 := by
    rw [depthU32, hdepth]
    rfl
  unfold sizePlane
  dsimp only
  rw [BitVec.toNat_ushiftRight, BitVec.toNat_mul, BitVec.toNat_mul, hcast,
    Nat.shiftRight_eq_div_pow]
  congr 1
  exact Nat.mod_mul_mod _ _ _

/-- A plane of eight bits is right exactly when its bits are counted without a wrap and
no larger pitch was asked for. -/
theorem plane_iff {fmt : MxcIsiFmt} {p : Nat} (hdepth : fmt.depthAt p = 8) {width height : U32}
    (hwidth : width ≠ 0#32) (plane : V4l2PlanePixFormat) :
    (width.toNat * fmt.depthAt p / 8 ≤
        (sizePlane fmt width height p plane).bytesperline.toNat ∧
      (sizePlane fmt width height p plane).bytesperline.toNat *
        (planeLines fmt p height).toNat ≤
          (sizePlane fmt width height p plane).sizeimage.toNat) ↔
      PlaneFits fmt width height p plane.bytesperline := by
  rw [sizePlane_pitch hdepth hwidth, sizePlane_size hdepth, hdepth]
  unfold PlaneFits
  have hlines : planeLines fmt p height ≠ 0#32 ↔ 0 < (planeLines fmt p height).toNat := by
    rw [← BitVec.pos_iff_ne_zero]
    exact BitVec.lt_def
  rw [hlines]
  generalize (planeLines fmt p height).toNat = lines
  have hwhole : width.toNat * lines ≤ width.toNat * lines * 8 % 2 ^ 32 / 8 ↔
      width.toNat * lines * 8 < 2 ^ 32 := by
    rw [← wrapped_div_iff, Nat.mul_div_cancel _ (by decide)]
  by_cases hlt : plane.bytesperline < width
  · have hle : plane.bytesperline ≤ width := BitVec.le_of_lt hlt
    rw [if_pos hlt, wrapped_div_iff]
    constructor
    · rintro ⟨hpitch, hsize⟩
      rw [Nat.mod_eq_of_lt hpitch, Nat.mul_div_cancel _ (by decide), hwhole] at hsize
      exact ⟨fun _ => hpitch, fun _ => ⟨hle, hsize⟩⟩
    · rintro ⟨hpitch, hsize⟩
      have hwide := hpitch hlt
      refine ⟨hwide, ?_⟩
      rw [Nat.mod_eq_of_lt hwide, Nat.mul_div_cancel _ (by decide), hwhole]
      rcases Nat.eq_zero_or_pos lines with hzero | hpos
      · rw [hzero]
        exact Nat.zero_lt_of_lt hwide
      · exact (hsize hpos).2
  · have hge : width.toNat ≤ plane.bytesperline.toNat := BitVec.le_def.mp (BitVec.not_lt.mp hlt)
    rw [if_neg hlt, Nat.mul_div_cancel _ (by decide)]
    constructor
    · rintro ⟨-, hsize⟩
      refine ⟨fun h => absurd h hlt, fun hpos => ?_⟩
      have hbytes : width.toNat * lines * 8 % 2 ^ 32 / 8 ≤ width.toNat * lines := by
        have hmod := Nat.mod_le (width.toNat * lines * 8) (2 ^ 32)
        omega
      have hle : plane.bytesperline.toNat ≤ width.toNat :=
        Nat.le_of_mul_le_mul_right (hsize.trans hbytes) hpos
      refine ⟨BitVec.le_def.mpr hle, hwhole.mp ?_⟩
      rw [Nat.le_antisymm hle hge] at hsize
      exact hsize
    · rintro ⟨-, hsize⟩
      refine ⟨hge, ?_⟩
      rcases Nat.eq_zero_or_pos lines with hzero | hpos
      · rw [hzero]
        exact Nat.zero_le _
      · obtain ⟨hle, hwide⟩ := hsize hpos
        rw [Nat.le_antisymm (BitVec.le_def.mp hle) hge]
        exact hwhole.mpr hwide

section Writers

variable {isMn : Bool} {cap : MxcIsiCapDev}

theorem framed_setFrameBounds {f : MxcIsiFrame} {fmt : MxcIsiFmt} (hfmt : f.fmt = some fmt)
    (width height : U32) : Framed (setFrameBounds f width height) fmt width height :=
  ⟨hfmt, rfl, rfl, rfl, rfl, rfl, rfl⟩

theorem sFmt_none {busy : Bool} {pix : V4l2PixFormatMplane} (h : sFmtRow busy pix = none) :
    step isMn cap (.sFmt busy pix) = cap ∧ (call isMn cap (.sFmt busy pix)).2 ≠ .ok () := by
  change (mxcIsiCapSFmtMplane cap busy pix).1 = cap ∧
    (mxcIsiCapSFmtMplane cap busy pix).2.2 ≠ .ok ()
  unfold sFmtRow at h
  rcases busy with _ | _
  · by_cases hsize : pix.height = 0#32 ∨ pix.width = 0#32
    · simp only [mxcIsiCapSFmtMplane, if_pos hsize, Bool.false_eq_true, if_false]
      split <;> simp
    · rw [if_neg (by simpa using hsize)] at h
      simp [mxcIsiCapSFmtMplane, h]
  · simp [mxcIsiCapSFmtMplane]

theorem sFmt_some {busy : Bool} {pix : V4l2PixFormatMplane} {fmt : MxcIsiFmt}
    (h : sFmtRow busy pix = some fmt) :
    fmt ∈ mxcIsiOutFormats ∧ pix.width ≠ 0#32 ∧ pix.height ≠ 0#32 ∧
      (call isMn cap (.sFmt busy pix)).2 = .ok () ∧
      Framed (step isMn cap (.sFmt busy pix)).dstF fmt pix.width pix.height ∧
      if 1 < fmt.memplanes then ∀ p, p < fmt.memplanes →
        (step isMn cap (.sFmt busy pix)).dstF.bytesperline p =
            (sizePlane fmt pix.width pix.height p (pix.planeFmt p)).bytesperline ∧
          (step isMn cap (.sFmt busy pix)).dstF.sizeimage p =
            (sizePlane fmt pix.width pix.height p (pix.planeFmt p)).sizeimage
      else (step isMn cap (.sFmt busy pix)).dstF.bytesperline 0 = lineBytes fmt pix.width ∧
        (step isMn cap (.sFmt busy pix)).dstF.sizeimage 0 =
          pix.height * lineBytes fmt pix.width := by
  unfold sFmtRow at h
  split at h
  · exact absurd h nofun
  · rename_i hturned
    rw [not_or, not_or] at hturned
    obtain ⟨hbusy, hheight, hwidth⟩ := hturned
    have hfree : busy = false := Bool.eq_false_iff.mpr hbusy
    subst hfree
    have hsize : ¬(pix.height = 0#32 ∨ pix.width = 0#32) := fun hzero => hzero.elim hheight hwidth
    refine ⟨List.mem_of_find?_eq_some h, hwidth, hheight, ?_⟩
    change (mxcIsiCapSFmtMplane cap false pix).2.2 = .ok () ∧
      Framed (mxcIsiCapSFmtMplane cap false pix).1.dstF fmt pix.width pix.height ∧
      if 1 < fmt.memplanes then ∀ p, p < fmt.memplanes →
        (mxcIsiCapSFmtMplane cap false pix).1.dstF.bytesperline p = _ ∧
          (mxcIsiCapSFmtMplane cap false pix).1.dstF.sizeimage p = _
      else (mxcIsiCapSFmtMplane cap false pix).1.dstF.bytesperline 0 = _ ∧
        (mxcIsiCapSFmtMplane cap false pix).1.dstF.sizeimage 0 = _
    simp only [mxcIsiCapSFmtMplane, h, if_neg hsize, Bool.false_eq_true, if_false]
    refine ⟨trivial, framed_setFrameBounds ?_ _ _, ?_⟩
    · split <;> rfl
    · split
      · intro p hp
        simp [setFrameBounds, hp]
      · simp [setFrameBounds, lineBytes]

theorem setFmt_none {busy : Bool} {pad : Nat} {which : FormatWhence} {mf : MbusFramefmt}
    (h : setFmtRow isMn busy pad mf = none) :
    step isMn cap (.setFmt busy pad which mf) = cap ∧
      (call isMn cap (.setFmt busy pad which mf)).2 ≠ .ok () := by
  change (mxcIsiSubdevSetFmt cap busy isMn pad mf).1 = cap ∧
    (mxcIsiSubdevSetFmt cap busy isMn pad mf).2 ≠ .ok ()
  unfold setFmtRow at h
  by_cases hpad : pad < mxcIsiSdPadSourceMem ∧ busy
  · simp [mxcIsiSubdevSetFmt, if_pos hpad]
  · by_cases hmn : isMn ∧ isi2K < mf.width
    · simp only [mxcIsiSubdevSetFmt, if_neg hpad, if_pos hmn]
      split <;> simp
    · rw [if_neg (fun h => h.elim hpad hmn)] at h
      simp [mxcIsiSubdevSetFmt, if_neg hpad, h]

def setFmtFrame (f : MxcIsiFrame) (fmt : MxcIsiFmt) (mf : MbusFramefmt) : MxcIsiFrame :=
  setFrameBounds { f with
    fmt := some fmt
    bytesperline := Function.update f.bytesperline 0 (lineBytes fmt mf.width)
    sizeimage := Function.update f.sizeimage 0 (mf.height * lineBytes fmt mf.width) }
    mf.width mf.height

theorem framed_setFmtFrame (f : MxcIsiFrame) (fmt : MxcIsiFmt) (mf : MbusFramefmt) :
    Framed (setFmtFrame f fmt mf) fmt mf.width mf.height :=
  ⟨rfl, rfl, rfl, rfl, rfl, rfl, rfl⟩

theorem setFmtFrame_line (f : MxcIsiFrame) (fmt : MxcIsiFmt) (mf : MbusFramefmt) :
    (setFmtFrame f fmt mf).bytesperline 0 = lineBytes fmt mf.width := by
  simp [setFmtFrame, setFrameBounds]

theorem setFmtFrame_size (f : MxcIsiFrame) (fmt : MxcIsiFmt) (mf : MbusFramefmt) :
    (setFmtFrame f fmt mf).sizeimage 0 = mf.height * lineBytes fmt mf.width := by
  simp [setFmtFrame, setFrameBounds]

theorem setFmtFrame_same {f : MxcIsiFrame} {fmt : MxcIsiFmt} {mf : MbusFramefmt}
    (h : Framed f fmt mf.width mf.height) (hline : f.bytesperline 0 = lineBytes fmt mf.width)
    (hsize : f.sizeimage 0 = mf.height * lineBytes fmt mf.width) : setFmtFrame f fmt mf = f := by
  cases f
  obtain ⟨rfl, rfl, rfl, rfl, rfl, rfl, rfl⟩ := h
  dsimp only at hline hsize
  unfold setFmtFrame setFrameBounds
  dsimp only
  rw [← hsize, ← hline, Function.update_eq_self, Function.update_eq_self]

theorem setFmt_some {busy : Bool} {pad : Nat} {which : FormatWhence} {mf : MbusFramefmt}
    {fmt : MxcIsiFmt} (h : setFmtRow isMn busy pad mf = some fmt) :
    fmt ∈ mxcIsiOutFormats ∧ (call isMn cap (.setFmt busy pad which mf)).2 = .ok () ∧
      (fmt.memplanes ≠ 1 → fmt.memplanes = 3 ∧
        (step isMn cap (.setFmt busy pad which mf)).dstF.fmt = none) ∧
      (fmt.memplanes = 1 →
        (step isMn cap (.setFmt busy pad which mf)).dstF = setFmtFrame cap.dstF fmt mf) := by
  unfold setFmtRow at h
  split at h
  · exact absurd h nofun
  · rename_i hturned
    rw [not_or] at hturned
    obtain ⟨hpad, hmn⟩ := hturned
    refine ⟨List.mem_of_find?_eq_some h, ?_⟩
    change (mxcIsiSubdevSetFmt cap busy isMn pad mf).2 = .ok () ∧
      (fmt.memplanes ≠ 1 → fmt.memplanes = 3 ∧
        (mxcIsiSubdevSetFmt cap busy isMn pad mf).1.dstF.fmt = none) ∧
      (fmt.memplanes = 1 →
        (mxcIsiSubdevSetFmt cap busy isMn pad mf).1.dstF = setFmtFrame cap.dstF fmt mf)
    simp only [mxcIsiSubdevSetFmt, if_neg hpad, h, if_neg hmn]
    refine ⟨trivial, fun hplanes => ?_, fun hplanes => ?_⟩
    · have hthree : fmt.memplanes = 3 := by
        rcases (outFormats_findMbus h).2 with hone | hcode
        · exact absurd hone hplanes
        · have hrow : (mxcIsiOutFormats.find?
              (fun fmt => fmt.mbusCode == mediaBusFmtYuv8_1x24)).map MxcIsiFmt.memplanes =
                some 3 := by
            decide
          rw [hcode] at h
          rw [h] at hrow
          exact Option.some.inj hrow
      simp [hthree, setFrameBounds]
    · simp [hplanes, setFmtFrame, lineBytes]

def isSelection : Call → Bool
  | .sFmt _ _ => false
  | .setFmt _ _ _ _ => false
  | _ => true

theorem selection_cases {c : Call} (hc : isSelection c = true) :
    (step isMn cap c).dstF = cap.dstF ∨
      (isTry c = false ∧ (call isMn cap c).2 = .ok () ∧
        ∃ r, (step isMn cap c).dstF = setFrameCrop cap.dstF r) := by
  cases c with
  | sFmt busy pix => exact absurd hc Bool.false_ne_true
  | setFmt busy pad which mf => exact absurd hc Bool.false_ne_true
  | capSSelection typeOk target le ge r =>
      change (mxcIsiCapSSelection cap typeOk target le ge r).1.dstF = cap.dstF ∨
        (_ ∧ (mxcIsiCapSSelection cap typeOk target le ge r).2 = .ok () ∧
          ∃ r', (mxcIsiCapSSelection cap typeOk target le ge r).1.dstF = setFrameCrop cap.dstF r')
      unfold mxcIsiCapSSelection
      dsimp only
      split_ifs
      · exact .inl rfl
      · exact .inl rfl
      · exact .inl rfl
      · exact .inl rfl
      · exact .inr ⟨rfl, rfl, r, rfl⟩
      · exact .inl rfl
  | capGSelection typeOk target => exact .inl rfl
  | setSelection target which r =>
      cases target with
      | compose =>
          cases which with
          | «try» => exact .inl rfl
          | active => exact .inr ⟨rfl, rfl, r, rfl⟩
      | crop => cases which <;> exact .inl rfl
      | _ => exact .inl rfl
  | getSelection target which trySel => exact .inl rfl

theorem described_setFrameCrop {f : MxcIsiFrame} {r : V4l2Rect} :
    Described (setFrameCrop f r) ↔ Described f := by
  constructor
  · intro h
    exact ⟨h.row, h.width, h.height, h.width_ne, h.height_ne⟩
  · intro h
    exact ⟨h.row, h.width, h.height, h.width_ne, h.height_ne⟩

/-- A described frame; with one plane, its sizes are those the writers compute. -/
structure Settled (f : MxcIsiFrame) : Prop where
  described : Described f
  single : ∀ fmt, f.fmt = some fmt → fmt.memplanes = 1 →
    f.bytesperline 0 = lineBytes fmt f.width ∧ f.sizeimage 0 = f.height * lineBytes fmt f.width

/-- The states of a run: no format was set, or the frame is settled. -/
def Reached (cap : MxcIsiCapDev) : Prop :=
  cap.dstF.oWidth = 0#32 ∨ Settled cap.dstF

theorem Described.oWidth_ne {f : MxcIsiFrame} (h : Described f) : f.oWidth ≠ 0#32 := by
  rw [← h.width]
  exact h.width_ne

theorem described_single {f : MxcIsiFrame} {fmt : MxcIsiFmt} {width height : U32}
    (hmem : fmt ∈ mxcIsiOutFormats) (hplanes : fmt.memplanes = 1)
    (hframed : Framed f fmt width height) (hline : f.bytesperline 0 = lineBytes fmt width)
    (hsize : f.sizeimage 0 = height * lineBytes fmt width) :
    Described f ↔ width ≠ 0#32 ∧ height ≠ 0#32 ∧ SingleFits fmt width height := by
  rw [← single_iff hmem]
  constructor
  · rintro ⟨⟨row, -, hrow, hsizes⟩, -, -, hwidth, hheight⟩
    obtain rfl := Option.some.inj (hframed.fmt.symm.trans hrow)
    have hzero := hsizes 0 (by omega)
    rw [planeLines_zero, hline, hsize, hframed.width, hframed.height] at hzero
    rw [hframed.width] at hwidth
    rw [hframed.height] at hheight
    exact ⟨hwidth, hheight, hzero⟩
  · rintro ⟨hwidth, hheight, hzero⟩
    refine
      { row := ⟨fmt, hmem, hframed.fmt, fun p hp => ?_⟩
        width := hframed.width.trans hframed.oWidth.symm
        height := hframed.height.trans hframed.oHeight.symm
        width_ne := ?_
        height_ne := ?_ }
    · obtain rfl : p = 0 := by omega
      rw [planeLines_zero, hline, hsize, hframed.width, hframed.height]
      exact hzero
    · rw [hframed.width]
      exact hwidth
    · rw [hframed.height]
      exact hheight

theorem described_multi {f : MxcIsiFrame} {fmt : MxcIsiFmt} {width height : U32}
    {plane : Nat → V4l2PlanePixFormat} (hmem : fmt ∈ mxcIsiOutFormats)
    (hplanes : 1 < fmt.memplanes) (hwidth : width ≠ 0#32) (hheight : height ≠ 0#32)
    (hframed : Framed f fmt width height) (hsized : ∀ p, p < fmt.memplanes →
      f.bytesperline p = (sizePlane fmt width height p (plane p)).bytesperline ∧
        f.sizeimage p = (sizePlane fmt width height p (plane p)).sizeimage) :
    Described f ↔ ∀ p, p < fmt.memplanes →
      PlaneFits fmt width height p (plane p).bytesperline := by
  have hdepth : ∀ p, p < fmt.memplanes → fmt.depthAt p = 8 := by
    rcases outFormats_planes fmt hmem with hone | ⟨-, -, hdepth⟩
    · omega
    · exact hdepth
  constructor
  · rintro ⟨⟨row, -, hrow, hsizes⟩, -, -, -, -⟩ p hp
    obtain rfl := Option.some.inj (hframed.fmt.symm.trans hrow)
    have hplane := hsizes p hp
    rw [(hsized p hp).1, (hsized p hp).2, hframed.width, hframed.height] at hplane
    exact (plane_iff (hdepth p hp) hwidth (plane p)).mp hplane
  · intro hfits
    refine
      { row := ⟨fmt, hmem, hframed.fmt, fun p hp => ?_⟩
        width := hframed.width.trans hframed.oWidth.symm
        height := hframed.height.trans hframed.oHeight.symm
        width_ne := ?_
        height_ne := ?_ }
    · rw [(hsized p hp).1, (hsized p hp).2, hframed.width, hframed.height]
      exact (plane_iff (hdepth p hp) hwidth (plane p)).mpr (hfits p hp)
    · rw [hframed.width]
      exact hwidth
    · rw [hframed.height]
      exact hheight

theorem sFmt_exact {busy : Bool} {pix : V4l2PixFormatMplane} {fmt : MxcIsiFmt}
    (hrow : sFmtRow busy pix = some fmt) :
    Described (step isMn cap (.sFmt busy pix)).dstF ↔ SFmtDescribes fmt pix := by
  obtain ⟨hmem, hwidth, hheight, -, hframed, hsized⟩ :=
    @sFmt_some isMn cap busy pix fmt hrow
  unfold SFmtDescribes
  rcases outFormats_planes fmt hmem with hone | ⟨hmany, -⟩
  · rw [if_neg (by omega)] at hsized ⊢
    rw [described_single hmem hone hframed hsized.1 hsized.2]
    exact ⟨fun h => h.2.2, fun h => ⟨hwidth, hheight, h⟩⟩
  · rw [if_pos hmany] at hsized ⊢
    exact described_multi hmem hmany hwidth hheight hframed hsized

theorem setFmt_exact {busy : Bool} {pad : Nat} {which : FormatWhence} {mf : MbusFramefmt}
    {fmt : MxcIsiFmt} (hrow : setFmtRow isMn busy pad mf = some fmt) :
    Described (step isMn cap (.setFmt busy pad which mf)).dstF ↔ SetFmtDescribes fmt mf := by
  obtain ⟨hmem, -, hmany, hone⟩ :=
    @setFmt_some isMn cap busy pad which mf fmt hrow
  unfold SetFmtDescribes
  by_cases hplanes : fmt.memplanes = 1
  · rw [hone hplanes, described_single hmem hplanes (framed_setFmtFrame _ _ _)
      (setFmtFrame_line _ _ _) (setFmtFrame_size _ _ _)]
    exact ⟨fun h => ⟨hplanes, h⟩, fun h => h.2⟩
  · constructor
    · rintro ⟨⟨row, -, hlost, -⟩, -, -, -, -⟩
      rw [(hmany hplanes).2] at hlost
      exact absurd hlost nofun
    · rintro ⟨h, -⟩
      exact absurd h hplanes

theorem fits_selection {c : Call} (hc : isSelection c = true) :
    Fits isMn cap c ↔ cap.dstF.oWidth ≠ 0#32 := by
  cases c with
  | sFmt busy pix => exact absurd hc Bool.false_ne_true
  | setFmt busy pad which mf => exact absurd hc Bool.false_ne_true
  | _ => exact Iff.rfl

theorem Reached.settled (h : Reached cap) (hset : cap.dstF.oWidth ≠ 0#32) : Settled cap.dstF :=
  h.resolve_left hset

theorem kept_same {c : Call} (h : Reached cap) (hset : cap.dstF.oWidth ≠ 0#32)
    (hsame : step isMn cap c = cap) (hindices : planeIndices isMn c = []) :
    CallKept isMn cap c ∧ Reached (step isMn cap c) := by
  refine ⟨⟨?_, ?_, ?_⟩, ?_⟩
  · rw [hsame]
    exact (h.settled hset).described
  · rw [hindices]
    exact fun i hi => absurd hi List.not_mem_nil
  · intro _
    rw [hsame]
  · rw [hsame]
    exact h

theorem kept_sFmt (h : Reached cap) {busy : Bool} {pix : V4l2PixFormatMplane}
    (hfits : Fits isMn cap (.sFmt busy pix)) :
    CallKept isMn cap (.sFmt busy pix) ∧ Reached (step isMn cap (.sFmt busy pix)) := by
  change match sFmtRow busy pix with
    | none => cap.dstF.oWidth ≠ 0#32
    | some fmt => SFmtDescribes fmt pix at hfits
  rcases hrow : sFmtRow busy pix with _ | fmt
  · rw [hrow] at hfits
    refine kept_same h hfits (sFmt_none hrow).1 ?_
    simp [planeIndices, hrow]
  · rw [hrow] at hfits
    obtain ⟨hmem, -, -, hok, hframed, hsized⟩ := @sFmt_some isMn cap busy pix fmt hrow
    have hdescribed := (@sFmt_exact isMn cap busy pix fmt hrow).mpr hfits
    refine ⟨⟨hdescribed, ?_, ?_⟩, .inr ⟨hdescribed, ?_⟩⟩
    · intro i hi
      simp only [planeIndices, hrow] at hi
      rcases outFormats_planes fmt hmem with hone | ⟨hmany, hle, -⟩
      · rw [if_neg (by omega), List.mem_singleton] at hi
        rw [hi]
        decide
      · rw [if_pos hmany, List.mem_range] at hi
        exact lt_of_lt_of_le hi hle
    · rintro (htry | hrejected)
      · exact absurd htry Bool.false_ne_true
      · exact absurd hok hrejected
    · intro row hrow' hone
      obtain rfl := Option.some.inj (hframed.fmt.symm.trans hrow')
      rw [if_neg (by omega)] at hsized
      rw [hframed.width, hframed.height]
      exact hsized

theorem kept_setFmt (h : Reached cap) {busy : Bool} {pad : Nat} {which : FormatWhence}
    {mf : MbusFramefmt} (hfits : Fits isMn cap (.setFmt busy pad which mf)) :
    CallKept isMn cap (.setFmt busy pad which mf) ∧
      Reached (step isMn cap (.setFmt busy pad which mf)) := by
  change match setFmtRow isMn busy pad mf with
    | none => cap.dstF.oWidth ≠ 0#32
    | some fmt => SetFmtDescribes fmt mf ∧
        (which = .try → Framed cap.dstF fmt mf.width mf.height) at hfits
  rcases hrow : setFmtRow isMn busy pad mf with _ | fmt
  · rw [hrow] at hfits
    refine kept_same h hfits (setFmt_none hrow).1 ?_
    simp [planeIndices, hrow]
  · rw [hrow] at hfits
    obtain ⟨hfits, htry⟩ := hfits
    obtain ⟨-, hok, -, hframe⟩ := @setFmt_some isMn cap busy pad which mf fmt hrow
    have hdescribed := (@setFmt_exact isMn cap busy pad which mf fmt hrow).mpr hfits
    have hstep := hframe hfits.1
    refine ⟨⟨hdescribed, ?_, ?_⟩, .inr ⟨hdescribed, ?_⟩⟩
    · intro i hi
      have hone := hfits.1
      simp only [planeIndices, hrow, hone] at hi
      rw [if_neg (by decide), List.mem_singleton] at hi
      rw [hi]
      decide
    · rintro (hwhich | hrejected)
      · have hframed := htry (of_decide_eq_true hwhich)
        have hset : cap.dstF.oWidth ≠ 0#32 := by
          rw [hframed.oWidth]
          exact hfits.2.1
        obtain ⟨hline, hsize⟩ := (h.settled hset).single fmt hframed.fmt hfits.1
        rw [hframed.width] at hline hsize
        rw [hframed.height] at hsize
        rw [hstep]
        exact setFmtFrame_same hframed hline hsize
      · exact absurd hok hrejected
    · intro row hrow' hone
      rw [hstep] at hrow' ⊢
      have hframed := framed_setFmtFrame cap.dstF fmt mf
      obtain rfl := Option.some.inj (hframed.fmt.symm.trans hrow')
      rw [hframed.width, hframed.height]
      exact ⟨setFmtFrame_line _ _ _, setFmtFrame_size _ _ _⟩

theorem kept_selection (h : Reached cap) {c : Call} (hc : isSelection c = true)
    (hfits : Fits isMn cap c) : CallKept isMn cap c ∧ Reached (step isMn cap c) := by
  have hset := (fits_selection hc).mp hfits
  have hsettled := h.settled hset
  have hindices : planeIndices isMn c = [] := by
    cases c with
    | sFmt busy pix => exact absurd hc Bool.false_ne_true
    | setFmt busy pad which mf => exact absurd hc Bool.false_ne_true
    | _ => rfl
  have hbounds : ∀ i ∈ planeIndices isMn c, i < mxcMaxPlanes := by
    rw [hindices]
    exact fun i hi => absurd hi List.not_mem_nil
  rcases @selection_cases isMn cap c hc with hsame | ⟨hactive, hok, r, hcrop⟩
  · refine ⟨⟨?_, hbounds, fun _ => hsame⟩, .inr ?_⟩
    · rw [hsame]
      exact hsettled.described
    · rw [hsame]
      exact hsettled
  · refine ⟨⟨?_, hbounds, ?_⟩, .inr ?_⟩
    · rw [hcrop]
      exact described_setFrameCrop.mpr hsettled.described
    · rintro (htry | hrejected)
      · exact absurd (htry.symm.trans hactive).symm Bool.false_ne_true
      · exact absurd hok hrejected
    · rw [hcrop]
      exact ⟨described_setFrameCrop.mpr hsettled.described, hsettled.single⟩

theorem settled_step (h : Reached cap) {c : Call} (hfits : Fits isMn cap c) :
    CallKept isMn cap c ∧ Reached (step isMn cap c) := by
  rcases hc : isSelection c with _ | _
  · cases c with
    | sFmt busy pix => exact kept_sFmt h hfits
    | setFmt busy pad which mf => exact kept_setFmt h hfits
    | _ => exact absurd hc.symm Bool.false_ne_true
  · exact kept_selection h hc hfits

theorem set_of_same {c : Call} (hkept : CallKept isMn cap c)
    (hsame : (step isMn cap c).dstF.oWidth = cap.dstF.oWidth) : cap.dstF.oWidth ≠ 0#32 := by
  rw [← hsame]
  exact hkept.described.oWidth_ne

theorem fits_of_kept {c : Call} (hkept : CallKept isMn cap c) : Fits isMn cap c := by
  rcases hc : isSelection c with _ | _
  · cases c with
    | sFmt busy pix =>
        change match sFmtRow busy pix with
          | none => cap.dstF.oWidth ≠ 0#32
          | some fmt => SFmtDescribes fmt pix
        rcases hrow : sFmtRow busy pix with _ | fmt
        · refine set_of_same hkept ?_
          rw [(sFmt_none hrow).1]
        · exact (sFmt_exact hrow).mp hkept.described
    | setFmt busy pad which mf =>
        change match setFmtRow isMn busy pad mf with
          | none => cap.dstF.oWidth ≠ 0#32
          | some fmt => SetFmtDescribes fmt mf ∧
              (which = .try → Framed cap.dstF fmt mf.width mf.height)
        rcases hrow : setFmtRow isMn busy pad mf with _ | fmt
        · refine set_of_same hkept ?_
          rw [(setFmt_none hrow).1]
        · have hfits := (setFmt_exact hrow).mp hkept.described
          refine ⟨hfits, fun htry => ?_⟩
          have hsame := hkept.unchanged (.inl (decide_eq_true htry))
          obtain ⟨-, -, -, hframe⟩ := @setFmt_some isMn cap busy pad which mf fmt hrow
          rw [← hsame, hframe hfits.1]
          exact framed_setFmtFrame cap.dstF fmt mf
    | _ => exact absurd hc.symm Bool.false_ne_true
  · refine (fits_selection hc).mpr (set_of_same hkept ?_)
    rcases @selection_cases isMn cap c hc with hsame | ⟨-, -, r, hcrop⟩
    · rw [hsame]
    · rw [hcrop]
      rfl

end Writers

/-- The output frame of a device that was just registered is not described. From there
on, for every sequence of calls: each call leaves a described frame, stays in the plane
arrays, and changes nothing as a `TRY` or when it is rejected, exactly when each call
fits. -/
theorem frame_described_iff (isMn : Bool) (isi : MxcIsiDev) :
    ¬Described (mxcIsiRegisterCapDevice isi).dstF ∧
      ∀ calls, Along (step isMn) (CallKept isMn) (mxcIsiRegisterCapDevice isi) calls ↔
        Along (step isMn) (Fits isMn) (mxcIsiRegisterCapDevice isi) calls := by
  refine ⟨fun h => h.oWidth_ne rfl, fun calls => ?_⟩
  refine along_iff_along (I := Reached) (E := fun _ _ => True) (fun cap c hcap _ hfits => ?_)
    (fun cap c _ _ hkept => ?_) (.inl rfl) (along_of_forall (fun _ _ => trivial) _ calls)
  · exact settled_step hcap hfits
  · exact fits_of_kept hkept

/-- A planar format set on the subdev: its pitch goes behind the array. -/
theorem planarSetFmt_outOfBounds : ¬Along (step false) (CallKept false)
    (mxcIsiRegisterCapDevice boardCapture.isi)
    [.sFmt false ⟨640#32, 480#32, v4l2PixFmtYuyv, 0, fun _ => ⟨0#32, 0#32⟩⟩,
      .setFmt false mxcIsiSdPadSourceMem .active ⟨mediaBusFmtYuv8_1x24, 640#32, 480#32⟩] := by
  rintro ⟨-, hkept, -⟩
  exact absurd (hkept.inBounds 3 (by decide)) (by decide)

end CameraPorting.Isi.FrameDescriptor
