import CameraPorting.Isi.FrameSizes

namespace CameraPorting.Isi.FormatRoundTrip

open CameraPorting.Kernel.Media
open CameraPorting.Isi.Device
open CameraPorting.Isi.Formats
open CameraPorting.Isi.Ioctls
open CameraPorting.Isi.FrameSizes

def frameFormat (f : MxcIsiFrame) (pix : V4l2PixFormatMplane) : V4l2PixFormatMplane :=
  { width := f.oWidth
    height := f.oHeight
    pixelformat := (frameFmt f).fourcc
    numPlanes := (frameFmt f).memplanes
    planeFmt := fun i =>
      if i < (frameFmt f).memplanes then
        { sizeimage := f.sizeimage i, bytesperline := f.bytesperline i }
      else pix.planeFmt i }

def mxcIsiCapGFmtMplane (cap : MxcIsiCapDev) (pix : V4l2PixFormatMplane) :
    V4l2PixFormatMplane :=
  frameFormat cap.dstF pix

/-- Two formats are the same in all that their planes have. -/
structure SameFormat (pix pix' : V4l2PixFormatMplane) : Prop where
  width : pix.width = pix'.width
  height : pix.height = pix'.height
  pixelformat : pix.pixelformat = pix'.pixelformat
  numPlanes : pix.numPlanes = pix'.numPlanes
  planeFmt : ∀ i, i < pix'.numPlanes → pix.planeFmt i = pix'.planeFmt i

/-- G_FMT reports what S_FMT left in the caller's structure, S_FMT takes it again as it
is, and a refused S_FMT does not show. -/
def RoundTrips (cap : MxcIsiCapDev) (busy : Bool) (pix : V4l2PixFormatMplane) : Prop :=
  match mxcIsiCapSFmtMplane cap busy pix with
  | (cap', left, .ok ()) =>
      (∀ given, SameFormat (mxcIsiCapGFmtMplane cap' given) left) ∧
        ∀ again, SameFormat again left →
          ∃ cap'', mxcIsiCapSFmtMplane cap' false again = (cap'', again, .ok ())
  | (cap', _, .error _) => ∀ given, mxcIsiCapGFmtMplane cap' given = mxcIsiCapGFmtMplane cap given

def LinePlain (fmt : MxcIsiFmt) (width bpl : U32) : Prop :=
  bpl = 0#32 ∨ bpl.sdiv (depthU32 fmt 0 >>> 3) < width ∨ bpl = lineBytes fmt width

/-- A request of one plane whose lines are not padded and whose size in `u32` is less
than `2 ^ 29`. -/
def PlainRequest (pix : V4l2PixFormatMplane) : Prop :=
  pix.width ≠ 0#32 → pix.height ≠ 0#32 →
    ∀ fmt, mxcIsiOutFormats.find? (fun fmt => fmt.fourcc == pix.pixelformat) = some fmt →
      fmt.memplanes = 1 →
        LinePlain fmt pix.width (pix.planeFmt 0).bytesperline ∧
          pix.height * lineBytes fmt pix.width < 0x20000000#32

def sizedFormat (fmt : MxcIsiFmt) (pix : V4l2PixFormatMplane) : V4l2PixFormatMplane :=
  { pix with
    numPlanes := fmt.memplanes
    planeFmt := fun i =>
      if i < fmt.memplanes then sizePlane fmt pix.width pix.height i (pix.planeFmt i)
      else pix.planeFmt i }

def storedFrame (fmt : MxcIsiFmt) (pix : V4l2PixFormatMplane) (f : MxcIsiFrame) : MxcIsiFrame :=
  setFrameBounds
    (if 1 < fmt.memplanes then
      { f with
        fmt := some fmt
        bytesperline := fun i =>
          if i < fmt.memplanes then ((sizedFormat fmt pix).planeFmt i).bytesperline
          else f.bytesperline i
        sizeimage := fun i =>
          if i < fmt.memplanes then ((sizedFormat fmt pix).planeFmt i).sizeimage
          else f.sizeimage i }
    else
      { f with
        fmt := some fmt
        bytesperline := Function.update f.bytesperline 0 (lineBytes fmt pix.width)
        sizeimage := Function.update f.sizeimage 0 (pix.height * lineBytes fmt pix.width) })
    pix.width pix.height

theorem sFmt_eq {cap : MxcIsiCapDev} {pix : V4l2PixFormatMplane} {fmt : MxcIsiFmt}
    (hwidth : pix.width ≠ 0#32) (hheight : pix.height ≠ 0#32)
    (hfind : mxcIsiOutFormats.find? (fun fmt => fmt.fourcc == pix.pixelformat) = some fmt) :
    mxcIsiCapSFmtMplane cap false pix =
      ({ cap with pix := sizedFormat fmt pix, dstF := storedFrame fmt pix cap.dstF },
        sizedFormat fmt pix, .ok ()) := by
  have hsize : ¬(pix.height = 0#32 ∨ pix.width = 0#32) := by
    rintro (h | h)
    · exact hheight h
    · exact hwidth h
  simp only [mxcIsiCapSFmtMplane, Bool.false_eq_true, if_false, hfind, if_neg hsize]
  rfl

theorem fmt_storedFrame (fmt : MxcIsiFmt) (pix : V4l2PixFormatMplane) (f : MxcIsiFrame) :
    frameFmt (storedFrame fmt pix f) = fmt := by
  unfold storedFrame
  split
  · rfl
  · rfl

theorem planes_storedFrame {fmt : MxcIsiFmt} (hmany : 1 < fmt.memplanes)
    (pix : V4l2PixFormatMplane) (f : MxcIsiFrame) {i : Nat} (hi : i < fmt.memplanes) :
    (storedFrame fmt pix f).bytesperline i = ((sizedFormat fmt pix).planeFmt i).bytesperline ∧
      (storedFrame fmt pix f).sizeimage i = ((sizedFormat fmt pix).planeFmt i).sizeimage := by
  unfold storedFrame
  rw [if_pos hmany]
  exact ⟨if_pos hi, if_pos hi⟩

theorem plane_storedFrame {fmt : MxcIsiFmt} (hone : fmt.memplanes = 1)
    (pix : V4l2PixFormatMplane) (f : MxcIsiFrame) :
    (storedFrame fmt pix f).bytesperline 0 = lineBytes fmt pix.width ∧
      (storedFrame fmt pix f).sizeimage 0 = pix.height * lineBytes fmt pix.width := by
  have hsingle : ¬ 1 < fmt.memplanes := by omega
  unfold storedFrame
  rw [if_neg hsingle]
  constructor
  · exact Function.update_self 0 _ f.bytesperline
  · exact Function.update_self 0 _ f.sizeimage

/-- A report of a frame whose bounds are those of `left` is the same up to its planes. -/
theorem sameFormat_frameFormat_iff {f : MxcIsiFrame} {left : V4l2PixFormatMplane}
    (hwidth : f.oWidth = left.width) (hheight : f.oHeight = left.height)
    (hfourcc : (frameFmt f).fourcc = left.pixelformat)
    (hnum : left.numPlanes = (frameFmt f).memplanes) (given : V4l2PixFormatMplane) :
    SameFormat (frameFormat f given) left ↔
      ∀ i, i < left.numPlanes →
        f.bytesperline i = (left.planeFmt i).bytesperline ∧
          f.sizeimage i = (left.planeFmt i).sizeimage := by
  have hplanes : ∀ i, i < left.numPlanes → (frameFormat f given).planeFmt i =
      { sizeimage := f.sizeimage i, bytesperline := f.bytesperline i } := by
    intro i hi
    rw [hnum] at hi
    exact if_pos hi
  constructor
  · rintro ⟨-, -, -, -, hsame⟩ i hi
    have hplane := hsame i hi
    rw [hplanes i hi] at hplane
    constructor
    · exact congrArg V4l2PlanePixFormat.bytesperline hplane
    · exact congrArg V4l2PlanePixFormat.sizeimage hplane
  · intro hsame
    refine ⟨hwidth, hheight, hfourcc, hnum.symm, fun i hi => ?_⟩
    rw [hplanes i hi, (hsame i hi).1, (hsame i hi).2]

/-- The pixels of the first plane take whole bytes. -/
structure WholeBytes (fmt : MxcIsiFmt) : Prop where
  bytes : fmt.depthAt 0 = 8 * (fmt.depthAt 0 / 8)
  small : fmt.depthAt 0 < 2 ^ 32

theorem outFormats_wholeBytes {fmt : MxcIsiFmt} (hfmt : fmt ∈ mxcIsiOutFormats) :
    WholeBytes fmt := by
  have hall : ∀ fmt ∈ mxcIsiOutFormats,
      fmt.depthAt 0 = 8 * (fmt.depthAt 0 / 8) ∧ fmt.depthAt 0 < 2 ^ 32 := by
    decide
  exact ⟨(hall fmt hfmt).1, (hall fmt hfmt).2⟩

theorem toNat_depthU32 {fmt : MxcIsiFmt} {k : Nat} (hdepth : fmt.depthAt 0 = 8 * k)
    (hlt : fmt.depthAt 0 < 2 ^ 32) : (depthU32 fmt 0).toNat = 8 * k := by
  rw [depthU32, BitVec.toNat_ofNat, Nat.mod_eq_of_lt hlt, hdepth]

theorem eight_mul_mod_div (n : Nat) : 8 * n % 2 ^ 32 / 8 = n % 2 ^ 29 := by
  change 8 * n % (8 * 2 ^ 29) / 8 = _
  rw [Nat.mul_mod_mul_left, Nat.mul_div_cancel_left _ (by decide)]

theorem toNat_lineBytes {fmt : MxcIsiFmt} {k : Nat} (hdepth : fmt.depthAt 0 = 8 * k)
    (hlt : fmt.depthAt 0 < 2 ^ 32) (width : U32) :
    (lineBytes fmt width).toNat = width.toNat * k % 2 ^ 29 := by
  have hprod : width.toNat * (depthU32 fmt 0).toNat = 8 * (width.toNat * k) := by
    rw [toNat_depthU32 hdepth hlt, Nat.mul_left_comm]
  unfold lineBytes
  rw [BitVec.toNat_udiv, BitVec.toNat_mul, hprod]
  exact eight_mul_mod_div (width.toNat * k)

/-- The size computed from the dimensions loses the three bits that the division of the
product by eight leaves empty. -/
theorem toNat_computedSize {fmt : MxcIsiFmt} {k : Nat} (hdepth : fmt.depthAt 0 = 8 * k)
    (hlt : fmt.depthAt 0 < 2 ^ 32) (width height : U32) :
    ((width * height * depthU32 fmt 0) >>> 3).toNat =
      (height * lineBytes fmt width).toNat % 2 ^ 29 := by
  have hprod : width.toNat * height.toNat * (depthU32 fmt 0).toNat =
      8 * (height.toNat * (width.toNat * k)) := by
    rw [toNat_depthU32 hdepth hlt, Nat.mul_comm width.toNat height.toNat, Nat.mul_assoc,
      Nat.mul_left_comm width.toNat, Nat.mul_left_comm height.toNat]
  have hsize : ((width * height * depthU32 fmt 0) >>> 3).toNat =
      height.toNat * (width.toNat * k) % 2 ^ 29 := by
    rw [BitVec.toNat_ushiftRight, BitVec.toNat_mul, BitVec.toNat_mul, Nat.mod_mul_mod, hprod,
      Nat.shiftRight_eq_div_pow]
    exact eight_mul_mod_div (height.toNat * (width.toNat * k))
  have hline : (height * lineBytes fmt width).toNat % 2 ^ 29 =
      height.toNat * (width.toNat * k) % 2 ^ 29 := by
    rw [BitVec.toNat_mul, Nat.mod_mod_of_dvd _ (by decide), toNat_lineBytes hdepth hlt,
      Nat.mul_mod_mod]
  rw [hsize, hline]

theorem computedSize_eq_iff {fmt : MxcIsiFmt} (hfmt : WholeBytes fmt) (width height : U32) :
    (width * height * depthU32 fmt 0) >>> 3 = height * lineBytes fmt width ↔
      height * lineBytes fmt width < 0x20000000#32 := by
  obtain ⟨hdepth, hlt⟩ := hfmt
  rw [← BitVec.toNat_inj, toNat_computedSize hdepth hlt, Nat.mod_eq_iff_lt (by decide),
    BitVec.lt_def]
  rfl

theorem lineBytes_eq_shift (fmt : MxcIsiFmt) (width : U32) :
    (width * depthU32 fmt 0) >>> 3 = lineBytes fmt width := by
  apply BitVec.eq_of_toNat_eq
  rw [lineBytes, BitVec.toNat_ushiftRight, BitVec.toNat_udiv, Nat.shiftRight_eq_div_pow]
  rfl

theorem sizedLine_eq_iff (fmt : MxcIsiFmt) (width height : U32) (plane : V4l2PlanePixFormat) :
    (sizePlane fmt width height 0 plane).bytesperline = lineBytes fmt width ↔
      LinePlain fmt width plane.bytesperline := by
  unfold sizePlane LinePlain
  dsimp only
  rw [lineBytes_eq_shift]
  split_ifs with h
  · exact iff_of_true rfl (h.imp_right .inl)
  · rw [not_or] at h
    constructor
    · exact fun hline => .inr (.inr hline)
    · rintro (hzero | hshort | hline)
      · exact absurd hzero h.1
      · exact absurd hshort h.2
      · exact hline

theorem sizePlane_idem (fmt : MxcIsiFmt) (width height : U32) (i : Nat)
    (plane : V4l2PlanePixFormat) :
    sizePlane fmt width height i (sizePlane fmt width height i plane) =
      sizePlane fmt width height i plane := by
  unfold sizePlane
  dsimp only
  by_cases h : plane.bytesperline = 0#32 ∨
      plane.bytesperline.sdiv (depthU32 fmt i >>> 3) < width
  · simp only [if_pos h, ite_self]
  · simp only [if_neg h]

theorem sFmt_again {cap : MxcIsiCapDev} {pix again : V4l2PixFormatMplane} {fmt : MxcIsiFmt}
    (hwidth : pix.width ≠ 0#32) (hheight : pix.height ≠ 0#32)
    (hfind : mxcIsiOutFormats.find? (fun fmt => fmt.fourcc == pix.pixelformat) = some fmt)
    (hsame : SameFormat again (sizedFormat fmt pix)) :
    ∃ cap', mxcIsiCapSFmtMplane cap false again = (cap', again, .ok ()) := by
  obtain ⟨hw, hh, hfourcc, hnum, hplanes⟩ := hsame
  change again.width = pix.width at hw
  change again.height = pix.height at hh
  change again.pixelformat = pix.pixelformat at hfourcc
  change again.numPlanes = fmt.memplanes at hnum
  rw [← hw] at hwidth
  rw [← hh] at hheight
  rw [← hfourcc] at hfind
  have hsized : sizedFormat fmt again = again := by
    have hplane : (fun i => if i < fmt.memplanes then
        sizePlane fmt again.width again.height i (again.planeFmt i) else again.planeFmt i) =
          again.planeFmt := by
      funext i
      split_ifs with hi
      · have hleft : again.planeFmt i = sizePlane fmt pix.width pix.height i (pix.planeFmt i) :=
          (hplanes i hi).trans (if_pos hi)
        rw [hw, hh, hleft, sizePlane_idem]
      · rfl
    unfold sizedFormat
    rw [hplane, ← hnum]
  have hset := @sFmt_eq cap again fmt hwidth hheight hfind
  rw [hsized] at hset
  exact ⟨_, hset⟩

theorem planes_kept_iff {fmt : MxcIsiFmt} (hfmt : fmt ∈ mxcIsiOutFormats)
    (pix : V4l2PixFormatMplane) (f : MxcIsiFrame) :
    (∀ i, i < fmt.memplanes →
      (storedFrame fmt pix f).bytesperline i = ((sizedFormat fmt pix).planeFmt i).bytesperline ∧
        (storedFrame fmt pix f).sizeimage i = ((sizedFormat fmt pix).planeFmt i).sizeimage) ↔
      (fmt.memplanes = 1 → LinePlain fmt pix.width (pix.planeFmt 0).bytesperline ∧
        pix.height * lineBytes fmt pix.width < 0x20000000#32) := by
  rcases outFormats_planes fmt hfmt with hone | ⟨hmany, -, -⟩
  · have hplane : (sizedFormat fmt pix).planeFmt 0 =
        sizePlane fmt pix.width pix.height 0 (pix.planeFmt 0) := if_pos (by omega)
    obtain ⟨hline, hsize⟩ := plane_storedFrame hone pix f
    have hkept : (storedFrame fmt pix f).bytesperline 0 =
          ((sizedFormat fmt pix).planeFmt 0).bytesperline ∧
        (storedFrame fmt pix f).sizeimage 0 = ((sizedFormat fmt pix).planeFmt 0).sizeimage ↔
          LinePlain fmt pix.width (pix.planeFmt 0).bytesperline ∧
            pix.height * lineBytes fmt pix.width < 0x20000000#32 := by
      rw [hline, hsize, hplane, eq_comm, sizedLine_eq_iff,
          ← computedSize_eq_iff (outFormats_wholeBytes hfmt)]
      refine and_congr_right fun _ => ?_
      change _ = (pix.width * planeLines fmt 0 pix.height * depthU32 fmt 0) >>> 3 ↔ _
      rw [planeLines_zero, eq_comm]
    constructor
    · intro h _
      exact hkept.mp (h 0 (by omega))
    · intro h i hi
      have hzero : i = 0 := by omega
      subst hzero
      exact hkept.mpr (h hone)
  · constructor
    · intro _ hone
      omega
    · intro _ i hi
      exact planes_storedFrame hmany pix f hi

theorem sFmt_error {busy : Bool} {pix : V4l2PixFormatMplane}
    (h : busy = true ∨ pix.width = 0#32 ∨ pix.height = 0#32 ∨
      mxcIsiOutFormats.find? (fun fmt => fmt.fourcc == pix.pixelformat) = none)
    (cap : MxcIsiCapDev) : ∃ e, mxcIsiCapSFmtMplane cap busy pix = (cap, pix, .error e) := by
  unfold mxcIsiCapSFmtMplane
  split
  next => exact ⟨_, rfl⟩
  next hbusy =>
    split
    next => exact ⟨_, rfl⟩
    next fmt hfind =>
      have hsize : pix.height = 0#32 ∨ pix.width = 0#32 := by
        rcases h with hset | hwidth | hheight | hnone
        · exact absurd hset hbusy
        · exact .inr hwidth
        · exact .inl hheight
        · rw [hfind] at hnone
          exact absurd hnone nofun
      rw [if_pos hsize]
      exact ⟨_, rfl⟩

/-- The round trip fails for exactly those accepted requests of one plane that ask for
padded lines, or whose size does not fit the product in bits. -/
theorem roundTrips_iff (cap : MxcIsiCapDev) (busy : Bool) (pix : V4l2PixFormatMplane) :
    RoundTrips cap busy pix ↔ (busy = false → PlainRequest pix) := by
  by_cases hrefused : busy = true ∨ pix.width = 0#32 ∨ pix.height = 0#32 ∨
      mxcIsiOutFormats.find? (fun fmt => fmt.fourcc == pix.pixelformat) = none
  · obtain ⟨e, herror⟩ := sFmt_error hrefused cap
    unfold RoundTrips
    rw [herror]
    refine iff_of_true (fun _ => rfl) ?_
    intro hfree hwidth hheight fmt hfind
    rcases hrefused with hbusy | hzero | hzero | hnone
    · rw [hfree] at hbusy
      exact absurd hbusy nofun
    · exact absurd hzero hwidth
    · exact absurd hzero hheight
    · rw [hfind] at hnone
      exact absurd hnone nofun
  · simp only [not_or] at hrefused
    obtain ⟨hbusy, hwidth, hheight, hnone⟩ := hrefused
    obtain ⟨fmt, hfind⟩ := Option.ne_none_iff_exists'.mp hnone
    obtain rfl : busy = false := Bool.eq_false_iff.mpr hbusy
    have hfmt := List.mem_of_find?_eq_some hfind
    have hfourcc : fmt.fourcc = pix.pixelformat := by
      simpa using List.find?_some hfind
    unfold RoundTrips
    rw [sFmt_eq hwidth hheight hfind]
    have hsame := by
      refine @sameFormat_frameFormat_iff (storedFrame fmt pix cap.dstF) (sizedFormat fmt pix)
        rfl rfl ?_ ?_
      · rw [fmt_storedFrame]
        exact hfourcc
      · rw [fmt_storedFrame]
        rfl
    constructor
    · rintro ⟨hreport, -⟩ - - - fmt' hfind'
      obtain rfl : fmt = fmt' := Option.some.inj (hfind.symm.trans hfind')
      exact (planes_kept_iff hfmt pix cap.dstF).mp ((hsame pix).mp (hreport pix))
    · intro hplain
      have hplanes := (planes_kept_iff hfmt pix cap.dstF).mpr
        (hplain rfl hwidth hheight fmt hfind)
      constructor
      · intro given
        exact (hsame given).mpr hplanes
      · intro again hagain
        exact sFmt_again hwidth hheight hfind hagain

/-- A grey frame of 640 by 480 pixels whose lines are asked for at 1024 bytes. -/
theorem padded_lines_forgotten :
    let pix : V4l2PixFormatMplane :=
      { width := 640#32, height := 480#32, pixelformat := v4l2PixFmtGrey, numPlanes := 1
        planeFmt := fun _ => { sizeimage := 0#32, bytesperline := 1024#32 } }
    let (cap, left, ret) := mxcIsiCapSFmtMplane boardCapture false pix
    ret = .ok () ∧ (left.planeFmt 0).bytesperline = 1024#32 ∧
      ((mxcIsiCapGFmtMplane cap left).planeFmt 0).bytesperline = 640#32 ∧
      ¬ RoundTrips boardCapture false pix := by
  intro pix
  have hset := @sFmt_eq boardCapture pix mxcIsiOutFormat0 (by decide) (by decide) (by decide)
  rw [hset]
  refine ⟨rfl, by decide, by decide, ?_⟩
  unfold RoundTrips
  rw [hset]
  rintro ⟨hreport, -⟩
  have hplane := (hreport pix).planeFmt 0 (by decide)
  exact absurd (congrArg V4l2PlanePixFormat.bytesperline hplane) (by decide)

end CameraPorting.Isi.FormatRoundTrip
