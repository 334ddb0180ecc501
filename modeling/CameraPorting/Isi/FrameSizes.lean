import CameraPorting.Isi.Ioctls

namespace CameraPorting.Isi.FrameSizes

open CameraPorting.Kernel.Media
open CameraPorting.Isi.Device
open CameraPorting.Isi.Channel
open CameraPorting.Isi.Formats
open CameraPorting.Isi.Ioctls

/-- The bytes the channel writes into plane `p` of a frame: the pitch of plane 0
for every line. -/
def planeBytes (f : MxcIsiFrame) (fmt : MxcIsiFmt) (p : Nat) : Nat :=
  (f.bytesperline 0).toNat * (planeLines fmt p f.height).toNat

def FitsPlanes (f : MxcIsiFrame) (fmt : MxcIsiFmt) (sizes : Nat → U32) : Prop :=
  ∀ p, p < fmt.memplanes → planeBytes f fmt p ≤ (sizes p).toNat

/-- A frame that fits into what `cap_vb2_queue_setup` asks for it. -/
def SelfFitting (f : MxcIsiFrame) : Prop :=
  ∃ fmt, f.fmt = some fmt ∧ FitsPlanes f fmt (setupSize f fmt)

theorem planeLines_zero (fmt : MxcIsiFmt) (height : U32) :
    planeLines fmt 0 height = height := by
  simp [planeLines]

theorem le_ite_lt_left (a b : U32) : a.toNat ≤ (if a < b then b else a).toNat := by
  split
  · rename_i h
    exact Nat.le_of_lt (BitVec.lt_def.mp h)
  · exact Nat.le_refl _

theorem le_ite_lt_right (a b : U32) : b.toNat ≤ (if a < b then b else a).toNat := by
  split
  · exact Nat.le_refl _
  · rename_i h
    exact BitVec.le_def.mp (BitVec.not_lt.mp h)

theorem le_setupSize_sizeimage (f : MxcIsiFrame) (fmt : MxcIsiFmt) (i : Nat) :
    (f.sizeimage i).toNat ≤ (setupSize f fmt i).toNat :=
  le_ite_lt_right _ _

theorem getD_setupSizes {f : MxcIsiFrame} {fmt : MxcIsiFmt} {p : Nat} (hp : p < fmt.memplanes) :
    ((List.range fmt.memplanes).map (setupSize f fmt)).getD p 0 = setupSize f fmt p := by
  simp [List.getD, hp]

theorem le_setupSize_dimensions (f : MxcIsiFrame) {fmt : MxcIsiFmt} {i : Nat}
    (hdepth : fmt.depthAt i = 8) (hprod : f.width.toNat * f.height.toNat < 2 ^ 32) :
    f.width.toNat * (planeLines fmt i f.height).toNat ≤ (setupSize f fmt i).toNat := by
  have hwh : (f.width * f.height).toNat = f.width.toNat * f.height.toNat := by
    rw [BitVec.toNat_mul]
    exact Nat.mod_eq_of_lt hprod
  have hsize : (BitVec.ofNat 32 ((f.width * f.height).toNat * fmt.depthAt i / 8)).toNat =
      f.width.toNat * f.height.toNat := by
    rw [hwh, hdepth, Nat.mul_div_cancel _ (by decide), BitVec.toNat_ofNat]
    exact Nat.mod_eq_of_lt hprod
  have hplane : f.width.toNat * (planeLines fmt i f.height).toNat ≤
      (if i = 1 ∧ fmt.fourcc = v4l2PixFmtNv12 then
        BitVec.ofNat 32 ((f.width * f.height).toNat * fmt.depthAt i / 8) >>> 1
      else BitVec.ofNat 32 ((f.width * f.height).toNat * fmt.depthAt i / 8)).toNat := by
    unfold planeLines
    split
    · rw [BitVec.toNat_ushiftRight, BitVec.toNat_ushiftRight, hsize, Nat.shiftRight_eq_div_pow,
        Nat.shiftRight_eq_div_pow]
      exact Nat.mul_div_le_mul_div_assoc _ _ _
    · rw [hsize]
  exact Nat.le_trans hplane (le_ite_lt_left _ _)

theorem fitsPlanes_single {f : MxcIsiFrame} {fmt : MxcIsiFmt} (hplanes : fmt.memplanes = 1)
    (hsize : f.sizeimage 0 = f.height * f.bytesperline 0)
    (hprod : f.height.toNat * (f.bytesperline 0).toNat < 2 ^ 32) :
    FitsPlanes f fmt (setupSize f fmt) := by
  intro p hp
  have hzero : p = 0 := by omega
  subst hzero
  unfold planeBytes
  rw [planeLines_zero, Nat.mul_comm]
  refine Nat.le_trans (Nat.le_of_eq ?_) (le_setupSize_sizeimage f fmt 0)
  rw [hsize, BitVec.toNat_mul]
  exact (Nat.mod_eq_of_lt hprod).symm

theorem fitsPlanes_multi {f : MxcIsiFrame} {fmt : MxcIsiFmt}
    (hdepth : ∀ p, p < fmt.memplanes → fmt.depthAt p = 8)
    (hpitch : (f.bytesperline 0).toNat ≤ f.width.toNat)
    (hprod : f.width.toNat * f.height.toNat < 2 ^ 32) :
    FitsPlanes f fmt (setupSize f fmt) := by
  intro p hp
  calc planeBytes f fmt p
      ≤ f.width.toNat * (planeLines fmt p f.height).toNat := Nat.mul_le_mul_right _ hpitch
    _ ≤ (setupSize f fmt p).toNat := le_setupSize_dimensions f (hdepth p hp) hprod

theorem outFormats_planes : ∀ fmt ∈ mxcIsiOutFormats, fmt.memplanes = 1 ∨
    1 < fmt.memplanes ∧ fmt.memplanes ≤ 3 ∧ ∀ p, p < fmt.memplanes → fmt.depthAt p = 8 := by
  decide

/-- Looked up by media bus code, only one code gives a row of several planes: the
row of NV12 stands behind that of YUYV, which has the same code. -/
theorem outFormats_findMbus {code : U32} {fmt : MxcIsiFmt}
    (h : mxcIsiOutFormats.find? (fun fmt => fmt.mbusCode == code) = some fmt) :
    fmt ∈ mxcIsiOutFormats ∧ (fmt.memplanes = 1 ∨ code = mediaBusFmtYuv8_1x24) := by
  have hcode : fmt.mbusCode = code := by
    simpa using List.find?_some h
  subst hcode
  have hmem := List.mem_of_find?_eq_some h
  have hall : ∀ fmt ∈ mxcIsiOutFormats,
      mxcIsiOutFormats.find? (fun row => row.mbusCode == fmt.mbusCode) = some fmt →
        fmt.memplanes = 1 ∨ fmt.mbusCode = mediaBusFmtYuv8_1x24 := by
    decide
  exact ⟨hmem, hall fmt hmem h⟩

/-- The bytes of a line of one-plane format `fmt`, as the ioctls compute them. -/
def lineBytes (fmt : MxcIsiFmt) (width : U32) : U32 :=
  width * depthU32 fmt 0 / 8#32

/-- A request of S_FMT that a free queue accepts describes a frame that fits its
own sizes: no product exceeds 32 bits, and with several planes the pitch asked
for is no more than the width. -/
def SFmtFits (pix : V4l2PixFormatMplane) : Prop :=
  pix.width ≠ 0#32 → pix.height ≠ 0#32 →
    ∀ fmt, mxcIsiOutFormats.find? (fun fmt => fmt.fourcc == pix.pixelformat) = some fmt →
      if 1 < fmt.memplanes then
        (pix.planeFmt 0).bytesperline ≤ pix.width ∧
          pix.width.toNat * pix.height.toNat < 2 ^ 32
      else pix.height.toNat * (lineBytes fmt pix.width).toNat < 2 ^ 32

theorem sizePlane_pitch_le {fmt : MxcIsiFmt} {width height : U32} {plane : V4l2PlanePixFormat}
    (hdepth : fmt.depthAt 0 = 8) (h : plane.bytesperline ≤ width) :
    (sizePlane fmt width height 0 plane).bytesperline.toNat ≤ width.toNat := by
  unfold sizePlane
  dsimp only
  split
  · rw [BitVec.toNat_ushiftRight, BitVec.toNat_mul, Nat.shiftRight_eq_div_pow]
    have height8 : (depthU32 fmt 0).toNat = 8 := by
      rw [depthU32, hdepth]
      rfl
    rw [height8]
    have hmod := Nat.mod_le (width.toNat * 8) (2 ^ 32)
    omega
  · exact BitVec.le_def.mp h

theorem sFmt_accepted {cap : MxcIsiCapDev} {pix : V4l2PixFormatMplane} {fmt : MxcIsiFmt}
    (hfind : mxcIsiOutFormats.find? (fun fmt => fmt.fourcc == pix.pixelformat) = some fmt)
    (hwidth : pix.width ≠ 0#32) (hheight : pix.height ≠ 0#32) :
    let f := (mxcIsiCapSFmtMplane cap false pix).1.dstF
    f.fmt = some fmt ∧ f.width = pix.width ∧ f.height = pix.height ∧
      (fmt.memplanes = 1 → f.bytesperline 0 = lineBytes fmt pix.width ∧
        f.sizeimage 0 = pix.height * lineBytes fmt pix.width) ∧
      (1 < fmt.memplanes → f.bytesperline 0 =
        (sizePlane fmt pix.width pix.height 0 (pix.planeFmt 0)).bytesperline) := by
  have hsize : ¬(pix.height = 0#32 ∨ pix.width = 0#32) := by
    rintro (hzero | hzero)
    · exact hheight hzero
    · exact hwidth hzero
  simp only [mxcIsiCapSFmtMplane, hfind, if_neg hsize, Bool.false_eq_true, if_false]
  refine ⟨?_, rfl, rfl, ?_, ?_⟩
  · simp only [setFrameBounds]
    split <;> rfl
  · intro hone
    have hmany : ¬1 < fmt.memplanes := by omega
    simp [setFrameBounds, hmany, lineBytes]
  · intro hmany
    have hzero : 0 < fmt.memplanes := by omega
    simp [setFrameBounds, hmany, hzero]

theorem sFmt_refused {cap : MxcIsiCapDev} {busy : Bool} {pix : V4l2PixFormatMplane}
    (h : busy = true ∨ pix.width = 0#32 ∨ pix.height = 0#32 ∨
      mxcIsiOutFormats.find? (fun fmt => fmt.fourcc == pix.pixelformat) = none) :
    (mxcIsiCapSFmtMplane cap busy pix).1 = cap := by
  rcases h with rfl | hzero | hzero | hnone
  · rfl
  · simp only [mxcIsiCapSFmtMplane, if_pos (Or.inr hzero)]
    split
    · rfl
    · split <;> rfl
  · simp only [mxcIsiCapSFmtMplane, if_pos (Or.inl hzero)]
    split
    · rfl
    · split <;> rfl
  · simp only [mxcIsiCapSFmtMplane, hnone]
    split <;> rfl

theorem selfFitting_sFmt {cap : MxcIsiCapDev} {busy : Bool} {pix : V4l2PixFormatMplane}
    (h : SelfFitting cap.dstF) (hfits : busy = false → SFmtFits pix) :
    SelfFitting (mxcIsiCapSFmtMplane cap busy pix).1.dstF := by
  by_cases hrefused : busy = true ∨ pix.width = 0#32 ∨ pix.height = 0#32 ∨
      mxcIsiOutFormats.find? (fun fmt => fmt.fourcc == pix.pixelformat) = none
  · rw [sFmt_refused hrefused]
    exact h
  · simp only [not_or] at hrefused
    obtain ⟨hbusy, hwidth, hheight, hnone⟩ := hrefused
    obtain ⟨fmt, hfind⟩ := Option.ne_none_iff_exists'.mp hnone
    have hfree : busy = false := Bool.eq_false_iff.mpr hbusy
    subst hfree
    have hcond := hfits rfl hwidth hheight fmt hfind
    obtain ⟨hfmt, hw, hh, hsingle, hmulti⟩ := sFmt_accepted hfind hwidth hheight
    refine ⟨fmt, hfmt, ?_⟩
    rcases outFormats_planes fmt (List.mem_of_find?_eq_some hfind) with hone | ⟨hmany, -, hdepth⟩
    · obtain ⟨hpitch, hsize⟩ := hsingle hone
      rw [if_neg (by omega)] at hcond
      refine fitsPlanes_single hone ?_ ?_
      · rw [hsize, hh, hpitch]
      · rw [hh, hpitch]
        exact hcond
    · rw [if_pos hmany] at hcond
      refine fitsPlanes_multi hdepth ?_ ?_
      · rw [hmulti hmany, hw]
        exact sizePlane_pitch_le (hdepth 0 (by omega)) hcond.1
      · rw [hw, hh]
        exact hcond.2

/-- A `set_fmt` of the channel's subdev that is accepted describes a frame that
fits: its format has one plane, its product does not exceed 32 bits, and buffers
that exist already are large enough for it. -/
def SetFmtFits (sizes : Nat → U32) (busy isMn : Bool) (pad : Nat) (mf : MbusFramefmt) :
    Prop :=
  ¬(pad < mxcIsiSdPadSourceMem ∧ busy) → ¬(isMn ∧ isi2K < mf.width) →
    ∀ fmt, mxcIsiOutFormats.find? (fun fmt => fmt.mbusCode == mf.code) = some fmt →
      mf.code ≠ mediaBusFmtYuv8_1x24 ∧
        mf.height.toNat * (lineBytes fmt mf.width).toNat < 2 ^ 32 ∧
        (busy = true → mf.height.toNat * (lineBytes fmt mf.width).toNat ≤ (sizes 0).toNat)

theorem setFmt_accepted {cap : MxcIsiCapDev} {busy isMn : Bool} {pad : Nat}
    {mf : MbusFramefmt} {fmt : MxcIsiFmt} (hpad : ¬(pad < mxcIsiSdPadSourceMem ∧ busy))
    (hmn : ¬(isMn ∧ isi2K < mf.width)) (hplanes : fmt.memplanes = 1)
    (hfind : mxcIsiOutFormats.find? (fun fmt => fmt.mbusCode == mf.code) = some fmt) :
    let f := (mxcIsiSubdevSetFmt cap busy isMn pad mf).1.dstF
    f.fmt = some fmt ∧ f.height = mf.height ∧
      f.bytesperline 0 = lineBytes fmt mf.width ∧
      f.sizeimage 0 = mf.height * lineBytes fmt mf.width := by
  have hmany : ¬1 < fmt.memplanes := by omega
  simp only [mxcIsiSubdevSetFmt, if_neg hpad, hfind, if_neg hmn, if_neg hmany, setFrameBounds]
  refine ⟨trivial, trivial, ?_, ?_⟩
  · rw [Function.update_self, lineBytes]
  · rw [Function.update_self, lineBytes]

theorem setFmt_refused {cap : MxcIsiCapDev} {busy isMn : Bool} {pad : Nat}
    {mf : MbusFramefmt} (h : (pad < mxcIsiSdPadSourceMem ∧ busy) ∨
      (isMn ∧ isi2K < mf.width) ∨
        mxcIsiOutFormats.find? (fun fmt => fmt.mbusCode == mf.code) = none) :
    (mxcIsiSubdevSetFmt cap busy isMn pad mf).1 = cap := by
  rcases h with hpad | hmn | hnone
  · simp only [mxcIsiSubdevSetFmt, if_pos hpad]
  · simp only [mxcIsiSubdevSetFmt, if_pos hmn]
    split
    · rfl
    · split <;> rfl
  · simp only [mxcIsiSubdevSetFmt, hnone]
    split <;> rfl

theorem fits_setFmt {cap : MxcIsiCapDev} {sizes : Nat → U32} {busy isMn : Bool}
    {pad : Nat} {mf : MbusFramefmt} (h : SelfFitting cap.dstF)
    (hsizes : busy = true → FitsPlanes cap.dstF (frameFmt cap.dstF) sizes)
    (hfits : SetFmtFits sizes busy isMn pad mf) :
    let f := (mxcIsiSubdevSetFmt cap busy isMn pad mf).1.dstF
    SelfFitting f ∧ (busy = true → FitsPlanes f (frameFmt f) sizes) := by
  by_cases hrefused : (pad < mxcIsiSdPadSourceMem ∧ busy) ∨ (isMn ∧ isi2K < mf.width) ∨
      mxcIsiOutFormats.find? (fun fmt => fmt.mbusCode == mf.code) = none
  · rw [setFmt_refused hrefused]
    exact ⟨h, hsizes⟩
  · rw [not_or, not_or] at hrefused
    obtain ⟨hpad, hmn, hnone⟩ := hrefused
    obtain ⟨fmt, hfind⟩ := Option.ne_none_iff_exists'.mp hnone
    obtain ⟨hcode, hprod, hbusy⟩ := hfits hpad hmn fmt hfind
    have hplanes : fmt.memplanes = 1 := by
      rcases (outFormats_findMbus hfind).2 with hone | hyuv
      · exact hone
      · exact absurd hyuv hcode
    obtain ⟨hfmt, hheight, hpitch, hsize⟩ := setFmt_accepted hpad hmn hplanes hfind
    refine ⟨⟨fmt, hfmt, fitsPlanes_single hplanes ?_ ?_⟩, fun hb p hp => ?_⟩
    · rw [hsize, hheight, hpitch]
    · rw [hheight, hpitch]
      exact hprod
    · have hframe : frameFmt (mxcIsiSubdevSetFmt cap busy isMn pad mf).1.dstF = fmt := by
        rw [frameFmt, hfmt]
        rfl
      rw [hframe, hplanes] at hp
      have hzero : p = 0 := by omega
      subst hzero
      rw [planeBytes, planeLines_zero, hheight, hpitch, Nat.mul_comm]
      exact hbusy hb

end CameraPorting.Isi.FrameSizes
