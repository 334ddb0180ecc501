import CameraPorting.Isi.FormatRoundTrip
import CameraPorting.Isi.Mem2memOwnership
import CameraPorting.Library.RegisterFields

namespace CameraPorting.Isi.Mem2memFormats

open CameraPorting.Kernel.Media
open CameraPorting.Isi.Device
open CameraPorting.Isi.Channel
open CameraPorting.Isi.Formats
open CameraPorting.Isi.Ioctls
open CameraPorting.Isi.FrameSizes
open CameraPorting.Isi.FormatRoundTrip
open CameraPorting.Isi.Mem2mem
open CameraPorting.Isi.Mem2memOwnership (boardM2m)
open CameraPorting.Library.RegisterFields

/-- `mxc_isi_input_formats`; its rows have no media bus code. -/
def mxcIsiInputFormats : List MxcIsiFmt :=
  [outFmt v4l2PixFmtXbgr32 [32] 0x2#32 0#32,
    outFmt v4l2PixFmtRgb565 [16] 0x5#32 0#32,
    outFmt v4l2PixFmtYuv24 [24] 0x8#32 0#32,
    outFmt v4l2PixFmtYuyv [16] 0xd#32 0#32,
    outFmt v4l2PixFmtRgba32 [32] 0x4#32 0#32]

def m2mOutFormats : List MxcIsiFmt := mxcIsiOutFormats.take 9

def chnlMemRdCtrlImgTypeMask : U32 := 0xf0000000#32

/-- `CHNL_IN_BUF_PITCH_LINE_PITCH_MASK`, the line pitch of both pitch registers. -/
def linePitchMask : U32 := 0xffff#32

def mxcIsiM2mConfigSrc (isi : MxcIsiDev) (srcF : MxcIsiFrame) : MxcIsiDev :=
  let val := isi.regs .memRdCtrl &&& ~~~chnlMemRdCtrlImgTypeMask
  let regs := writel (val ||| (frameFmt srcF).color <<< 28) .memRdCtrl isi.regs
  let regs := writel (srcF.width ||| srcF.height <<< 16) .imgCfg regs
  { isi with regs := writel (srcF.bytesperline 0) .inBufPitch regs }

def mxcIsiM2mConfigDst (isi : MxcIsiDev) (dstF : MxcIsiFrame) : MxcIsiDev :=
  let val := isi.regs .imgCtrl &&& ~~~chnlImgCtrlFormatMask
  let regs := writel (val ||| (frameFmt dstF).color <<< 24) .imgCtrl isi.regs
  let val := regs .outBufPitch &&& ~~~linePitchMask
  { isi with regs := writel (val ||| dstF.bytesperline 0) .outBufPitch regs }

/-- The rule of both plane loops: a size that is asked for is kept, and `sized` is the
plane as S_FMT of the capture node sizes it. -/
def keepSize (plane sized : V4l2PlanePixFormat) : V4l2PlanePixFormat :=
  { sized with
    sizeimage := if plane.sizeimage = 0#32 then sized.sizeimage else plane.sizeimage }

def m2mSizedFormat (fmt : MxcIsiFmt) (pix : V4l2PixFormatMplane) : V4l2PixFormatMplane :=
  { pix with
    numPlanes := fmt.memplanes
    planeFmt := fun i =>
      if i < fmt.memplanes then
        keepSize (pix.planeFmt i) (sizePlane fmt pix.width pix.height i (pix.planeFmt i))
      else pix.planeFmt i }

def singlePlaneFrame (fmt : MxcIsiFmt) (pix : V4l2PixFormatMplane) (f : MxcIsiFrame) :
    MxcIsiFrame :=
  { f with
    fmt := some fmt
    bytesperline := Function.update f.bytesperline 0 (lineBytes fmt pix.width)
    sizeimage := Function.update f.sizeimage 0 (pix.height * lineBytes fmt pix.width) }

/-- `mxc_isi_m2m_s_fmt_vid_out`. The loop of the source has no case for the chroma plane
of NV12, which is not in its table. -/
def mxcIsiM2mSFmtVidOut (m : MxcIsiM2mDev) (busy : Bool) (pix : V4l2PixFormatMplane) :
    MxcIsiM2mDev × V4l2PixFormatMplane × Ret :=
  if busy then (m, pix, .error .ebusy)
  else
    match mxcIsiInputFormats.find? (fun fmt => fmt.fourcc == pix.pixelformat) with
    | none => (m, pix, .error .einval)
    | some fmt =>
        if pix.height = 0#32 ∨ pix.width = 0#32 then (m, pix, .error .einval)
        else
          let srcF := setFrameBounds (singlePlaneFrame fmt pix m.srcF) pix.width pix.height
          ({ m with srcF := srcF, isi := mxcIsiM2mConfigSrc m.isi srcF },
            m2mSizedFormat fmt pix, .ok ())

def mxcIsiM2mSFmtVidCap (m : MxcIsiM2mDev) (busy : Bool) (pix : V4l2PixFormatMplane) :
    MxcIsiM2mDev × V4l2PixFormatMplane × Ret :=
  if busy then (m, pix, .error .ebusy)
  else
    match m2mOutFormats.find? (fun fmt => fmt.fourcc == pix.pixelformat) with
    | none => (m, pix, .error .einval)
    | some fmt =>
        if pix.height = 0#32 ∨ pix.width = 0#32 then (m, pix, .error .einval)
        else if pix.pixelformat = v4l2PixFmtNv12 ∧ pix.width / 4#32 % 2#32 ≠ 0#32 then
          (m, pix, .error .einval)
        else if pix.pixelformat ≠ v4l2PixFmtXbgr32 ∧ pix.width % 2#32 ≠ 0#32 then
          (m, pix, .error .einval)
        else
          let left := m2mSizedFormat fmt pix
          let dstF := if 1 < fmt.memplanes then
              { m.dstF with
                fmt := some fmt
                bytesperline := fun i => if i < fmt.memplanes then
                  (left.planeFmt i).bytesperline else m.dstF.bytesperline i
                sizeimage := fun i => if i < fmt.memplanes then
                  (left.planeFmt i).sizeimage else m.dstF.sizeimage i }
            else singlePlaneFrame fmt pix m.dstF
          let dstF := setFrameBounds dstF pix.width pix.height
          ({ m with dstF := dstF, isi := mxcIsiM2mConfigDst m.isi dstF }, left, .ok ())

def mxcIsiM2mGFmtVidOut (m : MxcIsiM2mDev) (pix : V4l2PixFormatMplane) : V4l2PixFormatMplane :=
  frameFormat m.srcF pix

def mxcIsiM2mGFmtVidCap (m : MxcIsiM2mDev) (pix : V4l2PixFormatMplane) : V4l2PixFormatMplane :=
  frameFormat m.dstF pix

def frameOf (m : MxcIsiM2mDev) : QueueType → MxcIsiFrame
  | .output => m.srcF
  | .capture => m.dstF

def m2mVb2QueueSetup (m : MxcIsiM2mDev) (type : QueueType) (numBuffers : Nat) :
    Except Errno (List U32) :=
  if numBuffers < (if type = .capture then 3 else 1) then .error .einval
  else
    match (frameOf m type).fmt with
    | none => .error .einval
    | some fmt => .ok ((List.range fmt.memplanes).map (setupSize (frameOf m type) fmt))

def m2mVb2BufferPrepare (m : MxcIsiM2mDev) (type : QueueType) (buf : MxcIsiBuffer) : Ret :=
  let frame := frameOf m type
  if (List.range (frameFmt frame).memplanes).any fun i =>
      buf.planeSize i < frame.sizeimage i then
    .error .einval
  else .ok ()

/-- S_FMT of a queue: `f->type` names it, and the core calls the ioctl of that type. -/
def m2mSFmt : QueueType → MxcIsiM2mDev → Bool → V4l2PixFormatMplane →
    MxcIsiM2mDev × V4l2PixFormatMplane × Ret
  | .output => mxcIsiM2mSFmtVidOut
  | .capture => mxcIsiM2mSFmtVidCap

def m2mGFmt : QueueType → MxcIsiM2mDev → V4l2PixFormatMplane → V4l2PixFormatMplane
  | .output => mxcIsiM2mGFmtVidOut
  | .capture => mxcIsiM2mGFmtVidCap

/-- The line pitch in the register that S_FMT of a queue programs. -/
def programmedPitch (m : MxcIsiM2mDev) : QueueType → U32
  | .output => m.isi.regs .inBufPitch &&& linePitchMask
  | .capture => m.isi.regs .outBufPitch &&& linePitchMask

/-- The sizes of a stored frame cover what is transferred, also for every buffer that
prepare accepts, and G_FMT reports what S_FMT left in the caller's structure. -/
structure SizesSound (m : MxcIsiM2mDev) (type : QueueType) (left : V4l2PixFormatMplane) :
    Prop where
  covered : FitsPlanes (frameOf m type) (frameFmt (frameOf m type)) (frameOf m type).sizeimage
  transfer : ∀ buf, m2mVb2BufferPrepare m type buf = .ok () →
    ∀ p, p < (frameFmt (frameOf m type)).memplanes →
      (programmedPitch m type).toNat *
          (planeLines (frameFmt (frameOf m type)) p (frameOf m type).height).toNat ≤
        (buf.planeSize p).toNat
  reported : ∀ given, SameFormat (m2mGFmt type m given) left

def AcceptedSound (m : MxcIsiM2mDev) (type : QueueType) (busy : Bool)
    (pix : V4l2PixFormatMplane) : Prop :=
  match m2mSFmt type m busy pix with
  | (m', left, .ok ()) => SizesSound m' type left
  | (_, _, .error _) => True

def m2mFormats : QueueType → List MxcIsiFmt
  | .output => mxcIsiInputFormats
  | .capture => m2mOutFormats

structure Accepted (type : QueueType) (busy : Bool) (pix : V4l2PixFormatMplane)
    (fmt : MxcIsiFmt) : Prop where
  free : busy = false
  width : pix.width ≠ 0#32
  height : pix.height ≠ 0#32
  row : (m2mFormats type).find? (fun fmt => fmt.fourcc == pix.pixelformat) = some fmt
  even : type = .capture → pix.width % 2#32 = 0#32

/-- The lines of a request are not padded, the size of the frame fits 32 bits, and the
size asked for is none (then it has to fit 29 bits) or the one of the frame. -/
structure PlainM2mRequest (fmt : MxcIsiFmt) (pix : V4l2PixFormatMplane) : Prop where
  line : LinePlain fmt pix.width (pix.planeFmt 0).bytesperline
  small : pix.height.toNat * (lineBytes fmt pix.width).toNat < 2 ^ 32
  size :
    if (pix.planeFmt 0).sizeimage = 0#32 then
      pix.height * lineBytes fmt pix.width < 0x20000000#32
    else (pix.planeFmt 0).sizeimage = pix.height * lineBytes fmt pix.width

theorem m2mFormats_rows {type : QueueType} {fmt : MxcIsiFmt} (h : fmt ∈ m2mFormats type) :
    fmt.memplanes = 1 ∧ WholeBytes fmt ∧
      (type = .capture → fmt.fourcc ≠ v4l2PixFmtNv12 ∧ fmt.fourcc ≠ v4l2PixFmtXbgr32) := by
  have hinput : ∀ fmt ∈ mxcIsiInputFormats, fmt.memplanes = 1 ∧
      fmt.depthAt 0 = 8 * (fmt.depthAt 0 / 8) ∧ fmt.depthAt 0 < 2 ^ 32 := by
    decide
  have hout : ∀ fmt ∈ m2mOutFormats, fmt.memplanes = 1 ∧
      (fmt.depthAt 0 = 8 * (fmt.depthAt 0 / 8) ∧ fmt.depthAt 0 < 2 ^ 32) ∧
      fmt.fourcc ≠ v4l2PixFmtNv12 ∧ fmt.fourcc ≠ v4l2PixFmtXbgr32 := by
    decide
  cases type with
  | output =>
      obtain ⟨hone, hbytes, hsmall⟩ := hinput fmt h
      exact ⟨hone, ⟨hbytes, hsmall⟩, nofun⟩
  | capture =>
      obtain ⟨hone, ⟨hbytes, hsmall⟩, hfourcc⟩ := hout fmt h
      exact ⟨hone, ⟨hbytes, hsmall⟩, fun _ => hfourcc⟩

def m2mStoredFrame (fmt : MxcIsiFmt) (pix : V4l2PixFormatMplane) (f : MxcIsiFrame) :
    MxcIsiFrame :=
  setFrameBounds (singlePlaneFrame fmt pix f) pix.width pix.height

theorem and_toNat_le (x field : U32) : (x &&& field).toNat ≤ x.toNat := by
  rw [BitVec.toNat_and]
  exact Nat.and_le_left

theorem pitch_configSrc (isi : MxcIsiDev) (srcF : MxcIsiFrame) :
    ((mxcIsiM2mConfigSrc isi srcF).regs .inBufPitch &&& linePitchMask).toNat ≤
      (srcF.bytesperline 0).toNat :=
  and_toNat_le _ _

theorem pitch_configDst (isi : MxcIsiDev) (dstF : MxcIsiFrame) :
    ((mxcIsiM2mConfigDst isi dstF).regs .outBufPitch &&& linePitchMask).toNat ≤
      (dstF.bytesperline 0).toNat := by
  have hpitch : (mxcIsiM2mConfigDst isi dstF).regs .outBufPitch =
      (isi.regs .outBufPitch &&& ~~~linePitchMask) ||| dstF.bytesperline 0 := rfl
  rw [hpitch, update_and_within _ (by decide)]
  exact and_toNat_le _ _

theorem m2mSFmt_accepted {type : QueueType} {busy : Bool} {pix : V4l2PixFormatMplane}
    {fmt : MxcIsiFmt} (h : Accepted type busy pix fmt) (m : MxcIsiM2mDev) :
    ∃ m', m2mSFmt type m busy pix = (m', m2mSizedFormat fmt pix, .ok ()) ∧
      frameOf m' type = m2mStoredFrame fmt pix (frameOf m type) ∧
      (programmedPitch m' type).toNat ≤ ((frameOf m' type).bytesperline 0).toNat := by
  obtain ⟨rfl, hwidth, hheight, hrow, heven⟩ := h
  have hsize : ¬(pix.height = 0#32 ∨ pix.width = 0#32) := by
    rintro (h | h)
    · exact hheight h
    · exact hwidth h
  obtain ⟨hone, -, hfourcc⟩ := m2mFormats_rows (List.mem_of_find?_eq_some hrow)
  cases type with
  | output =>
      change mxcIsiInputFormats.find? _ = some fmt at hrow
      simp only [m2mSFmt, mxcIsiM2mSFmtVidOut, Bool.false_eq_true, if_false, hrow, if_neg hsize]
      exact ⟨_, rfl, rfl, pitch_configSrc _ _⟩
  | capture =>
      change m2mOutFormats.find? _ = some fmt at hrow
      have hpixelformat : fmt.fourcc = pix.pixelformat := by
        simpa using List.find?_some hrow
      obtain ⟨hnv12, -⟩ := hfourcc rfl
      have hchroma : ¬(pix.pixelformat = v4l2PixFmtNv12 ∧ pix.width / 4#32 % 2#32 ≠ 0#32) :=
        fun h => hnv12 (hpixelformat.trans h.1)
      have hodd : ¬(pix.pixelformat ≠ v4l2PixFmtXbgr32 ∧ pix.width % 2#32 ≠ 0#32) :=
        fun h => h.2 (heven rfl)
      have hsingle : ¬ 1 < fmt.memplanes := by omega
      simp only [m2mSFmt, mxcIsiM2mSFmtVidCap, Bool.false_eq_true, if_false, hrow, if_neg hsize,
        if_neg hchroma, if_neg hodd, if_neg hsingle]
      exact ⟨_, rfl, rfl, pitch_configDst _ _⟩

theorem m2mSFmt_refused {type : QueueType} {busy : Bool} {pix : V4l2PixFormatMplane}
    (h : ∀ fmt, ¬ Accepted type busy pix fmt) (m : MxcIsiM2mDev) :
    ∃ e, m2mSFmt type m busy pix = (m, pix, .error e) := by
  cases type with
  | output =>
      simp only [m2mSFmt, mxcIsiM2mSFmtVidOut]
      split
      next => exact ⟨_, rfl⟩
      next hbusy =>
        split
        next => exact ⟨_, rfl⟩
        next fmt hrow =>
          split
          next => exact ⟨_, rfl⟩
          next hsize =>
            rw [not_or] at hsize
            exact absurd ⟨Bool.eq_false_iff.mpr hbusy, hsize.2, hsize.1, hrow, nofun⟩ (h fmt)
  | capture =>
      simp only [m2mSFmt, mxcIsiM2mSFmtVidCap]
      split
      next => exact ⟨_, rfl⟩
      next hbusy =>
        split
        next => exact ⟨_, rfl⟩
        next fmt hrow =>
          split
          next => exact ⟨_, rfl⟩
          next hsize =>
            split
            next => exact ⟨_, rfl⟩
            next =>
              split
              next => exact ⟨_, rfl⟩
              next hodd =>
                rw [not_or] at hsize
                have hpixelformat : fmt.fourcc = pix.pixelformat := by
                  simpa using List.find?_some hrow
                obtain ⟨-, -, hfourcc⟩ :=
                  @m2mFormats_rows .capture fmt (List.mem_of_find?_eq_some hrow)
                have heven : pix.width % 2#32 = 0#32 := by
                  by_contra hne
                  exact hodd ⟨hpixelformat ▸ (hfourcc rfl).2, hne⟩
                exact absurd ⟨Bool.eq_false_iff.mpr hbusy, hsize.2, hsize.1, hrow, fun _ => heven⟩
                  (h fmt)

theorem fmt_m2mStoredFrame (fmt : MxcIsiFmt) (pix : V4l2PixFormatMplane) (f : MxcIsiFrame) :
    frameFmt (m2mStoredFrame fmt pix f) = fmt :=
  rfl

theorem plane_m2mStoredFrame (fmt : MxcIsiFmt) (pix : V4l2PixFormatMplane) (f : MxcIsiFrame) :
    (m2mStoredFrame fmt pix f).bytesperline 0 = lineBytes fmt pix.width ∧
      (m2mStoredFrame fmt pix f).sizeimage 0 = pix.height * lineBytes fmt pix.width := by
  constructor
  · exact Function.update_self 0 _ f.bytesperline
  · exact Function.update_self 0 _ f.sizeimage

theorem covered_iff {fmt : MxcIsiFmt} (hone : fmt.memplanes = 1) (pix : V4l2PixFormatMplane)
    (f : MxcIsiFrame) :
    FitsPlanes (m2mStoredFrame fmt pix f) fmt (m2mStoredFrame fmt pix f).sizeimage ↔
      pix.height.toNat * (lineBytes fmt pix.width).toNat < 2 ^ 32 := by
  obtain ⟨hline, hsize⟩ := plane_m2mStoredFrame fmt pix f
  have hplane : planeBytes (m2mStoredFrame fmt pix f) fmt 0 =
      pix.height.toNat * (lineBytes fmt pix.width).toNat := by
    unfold planeBytes
    rw [hline, planeLines_zero, Nat.mul_comm]
    rfl
  constructor
  · intro hfits
    have hle := hfits 0 (by omega)
    rw [hplane, hsize] at hle
    exact lt_of_le_of_lt hle (BitVec.isLt _)
  · intro hlt p hp
    have hzero : p = 0 := by omega
    subst hzero
    rw [hplane, hsize, BitVec.toNat_mul, Nat.mod_eq_of_lt hlt]

theorem m2mReported_iff {fmt : MxcIsiFmt} (hone : fmt.memplanes = 1) (hbytes : WholeBytes fmt)
    {pix : V4l2PixFormatMplane} (hfourcc : fmt.fourcc = pix.pixelformat) (f : MxcIsiFrame)
    (given : V4l2PixFormatMplane) :
    SameFormat (frameFormat (m2mStoredFrame fmt pix f) given) (m2mSizedFormat fmt pix) ↔
      LinePlain fmt pix.width (pix.planeFmt 0).bytesperline ∧
        if (pix.planeFmt 0).sizeimage = 0#32 then
          pix.height * lineBytes fmt pix.width < 0x20000000#32
        else (pix.planeFmt 0).sizeimage = pix.height * lineBytes fmt pix.width := by
  have hsame := @sameFormat_frameFormat_iff (m2mStoredFrame fmt pix f) (m2mSizedFormat fmt pix)
    rfl rfl hfourcc rfl given
  obtain ⟨hline, hsize⟩ := plane_m2mStoredFrame fmt pix f
  have hplane : (m2mSizedFormat fmt pix).planeFmt 0 =
      keepSize (pix.planeFmt 0)
        (sizePlane fmt pix.width pix.height 0 (pix.planeFmt 0)) := if_pos (by omega)
  have hcomputed : (sizePlane fmt pix.width pix.height 0 (pix.planeFmt 0)).sizeimage =
      (pix.width * pix.height * depthU32 fmt 0) >>> 3 := by
    change (pix.width * planeLines fmt 0 pix.height * depthU32 fmt 0) >>> 3 = _
    rw [planeLines_zero]
  have hkept : (m2mStoredFrame fmt pix f).bytesperline 0 =
        ((m2mSizedFormat fmt pix).planeFmt 0).bytesperline ∧
      (m2mStoredFrame fmt pix f).sizeimage 0 =
        ((m2mSizedFormat fmt pix).planeFmt 0).sizeimage ↔
      LinePlain fmt pix.width (pix.planeFmt 0).bytesperline ∧
        if (pix.planeFmt 0).sizeimage = 0#32 then
          pix.height * lineBytes fmt pix.width < 0x20000000#32
        else (pix.planeFmt 0).sizeimage = pix.height * lineBytes fmt pix.width := by
    rw [hline, hsize, hplane, eq_comm]
    refine and_congr (sizedLine_eq_iff fmt pix.width pix.height (pix.planeFmt 0)) ?_
    simp only [keepSize, hcomputed]
    split
    · rw [eq_comm]
      exact computedSize_eq_iff hbytes pix.width pix.height
    · exact eq_comm
  rw [hsame, ← hkept]
  constructor
  · intro h
    exact h 0 (by change 0 < fmt.memplanes; omega)
  · intro h i hi
    have hzero : i = 0 := by
      change i < fmt.memplanes at hi
      omega
    subst hzero
    exact h

/-- A buffer of the sizes that setup asks for passes prepare. -/
theorem prepare_of_setup {m : MxcIsiM2mDev} {type : QueueType} {numBuffers : Nat}
    {sizes : List U32} (hsetup : m2mVb2QueueSetup m type numBuffers = .ok sizes)
    {buf : MxcIsiBuffer} (hbuf : ∀ p, p < sizes.length → buf.planeSize p = sizes.getD p 0) :
    m2mVb2BufferPrepare m type buf = .ok () := by
  by_cases hfew : numBuffers < (if type = .capture then 3 else 1)
  · rw [m2mVb2QueueSetup, if_pos hfew] at hsetup
    cases hsetup
  rw [m2mVb2QueueSetup, if_neg hfew] at hsetup
  cases hfmt : (frameOf m type).fmt with
  | none =>
      rw [hfmt] at hsetup
      cases hsetup
  | some fmt =>
      rw [hfmt] at hsetup
      injection hsetup with hsizes
      subst hsizes
      have hframe : frameFmt (frameOf m type) = fmt := by
        rw [frameFmt, hfmt]
        rfl
      have hlarge : ∀ p, p < fmt.memplanes → ¬ buf.planeSize p < (frameOf m type).sizeimage p := by
        intro p hp
        rw [hbuf p (by simpa using hp), getD_setupSizes hp, BitVec.not_lt]
        exact BitVec.le_def.mpr (le_setupSize_sizeimage _ fmt p)
      rw [m2mVb2BufferPrepare, if_neg]
      rw [hframe]
      simpa using hlarge

theorem le_planeSize_of_prepare {m : MxcIsiM2mDev} {type : QueueType} {buf : MxcIsiBuffer}
    (h : m2mVb2BufferPrepare m type buf = .ok ()) {p : Nat}
    (hp : p < (frameFmt (frameOf m type)).memplanes) :
    ((frameOf m type).sizeimage p).toNat ≤ (buf.planeSize p).toNat := by
  unfold m2mVb2BufferPrepare at h
  dsimp only at h
  split at h
  · exact absurd h nofun
  next hfits =>
    by_contra hlt
    apply hfits
    rw [List.any_eq_true]
    refine ⟨p, List.mem_range.mpr hp, ?_⟩
    exact decide_eq_true (BitVec.lt_def.mpr (Nat.lt_of_not_le hlt))

theorem transfer_of_covered {m : MxcIsiM2mDev} {type : QueueType}
    (hfits : FitsPlanes (frameOf m type) (frameFmt (frameOf m type)) (frameOf m type).sizeimage)
    (hpitch : (programmedPitch m type).toNat ≤ ((frameOf m type).bytesperline 0).toNat)
    {buf : MxcIsiBuffer} (hprepare : m2mVb2BufferPrepare m type buf = .ok ()) {p : Nat}
    (hp : p < (frameFmt (frameOf m type)).memplanes) :
    (programmedPitch m type).toNat *
        (planeLines (frameFmt (frameOf m type)) p (frameOf m type).height).toNat ≤
      (buf.planeSize p).toNat :=
  calc _ ≤ planeBytes (frameOf m type) (frameFmt (frameOf m type)) p :=
        Nat.mul_le_mul_right _ hpitch
    _ ≤ ((frameOf m type).sizeimage p).toNat := hfits p hp
    _ ≤ (buf.planeSize p).toNat := le_planeSize_of_prepare hprepare hp

/-- S_FMT of either queue leaves sizes that cover the frame and that G_FMT reports, for
exactly the plain ones of the requests it accepts. -/
theorem acceptedSound_iff (m : MxcIsiM2mDev) (type : QueueType) (busy : Bool)
    (pix : V4l2PixFormatMplane) :
    AcceptedSound m type busy pix ↔
      ∀ fmt, Accepted type busy pix fmt → PlainM2mRequest fmt pix := by
  by_cases haccepted : ∃ fmt, Accepted type busy pix fmt
  · obtain ⟨fmt, h⟩ := haccepted
    obtain ⟨hone, hbytes, -⟩ := m2mFormats_rows (List.mem_of_find?_eq_some h.row)
    have hfourcc : fmt.fourcc = pix.pixelformat := by
      simpa using List.find?_some h.row
    obtain ⟨m', hset, hframe, hpitch⟩ := m2mSFmt_accepted h m
    have hreport : ∀ given, m2mGFmt type m' given =
        frameFormat (m2mStoredFrame fmt pix (frameOf m type)) given := by
      intro given
      rw [← hframe]
      cases type with
      | output => rfl
      | capture => rfl
    unfold AcceptedSound
    rw [hset]
    constructor
    · rintro ⟨hcovered, -, hreported⟩ fmt' h'
      obtain rfl : fmt = fmt' := Option.some.inj (h.row.symm.trans h'.row)
      rw [hframe, fmt_m2mStoredFrame] at hcovered
      have hsame := hreported pix
      rw [hreport] at hsame
      obtain ⟨hline, hsize⟩ := (m2mReported_iff hone hbytes hfourcc _ pix).mp hsame
      exact ⟨hline, (covered_iff hone pix _).mp hcovered, hsize⟩
    · intro hplain
      obtain ⟨hline, hsmall, hsize⟩ := hplain fmt h
      have hcovered : FitsPlanes (frameOf m' type) (frameFmt (frameOf m' type))
          (frameOf m' type).sizeimage := by
        rw [hframe, fmt_m2mStoredFrame]
        exact (covered_iff hone pix (frameOf m type)).mpr hsmall
      refine ⟨hcovered, ?_, fun given => ?_⟩
      · intro buf hprepare p hp
        exact transfer_of_covered hcovered hpitch hprepare hp
      · rw [hreport]
        exact (m2mReported_iff hone hbytes hfourcc _ given).mpr ⟨hline, hsize⟩
  · rw [not_exists] at haccepted
    obtain ⟨e, hset⟩ := m2mSFmt_refused haccepted m
    unfold AcceptedSound
    rw [hset]
    exact iff_of_true trivial fun fmt h => absurd h (haccepted fmt)

def greyFormat (width height bpl : U32) : V4l2PixFormatMplane :=
  { width := width, height := height, pixelformat := v4l2PixFmtGrey, numPlanes := 1
    planeFmt := fun _ => { sizeimage := 0#32, bytesperline := bpl } }

/-- The stored size of a frame of `2 ^ 16` by `2 ^ 16` pixels is zero, and padded lines
are not reported. -/
theorem wrapped_size_and_padded_lines :
    let large := m2mSFmt .capture boardM2m.dev false (greyFormat 65536#32 65536#32 0#32)
    let padded := m2mSFmt .capture boardM2m.dev false (greyFormat 640#32 480#32 1024#32)
    large.2.2 = .ok () ∧ large.1.dstF.bytesperline 0 = 65536#32 ∧
      large.1.dstF.sizeimage 0 = 0#32 ∧
      padded.2.2 = .ok () ∧ (padded.2.1.planeFmt 0).bytesperline = 1024#32 ∧
      ((m2mGFmt .capture padded.1 padded.2.1).planeFmt 0).bytesperline = 640#32 ∧
      ¬ AcceptedSound boardM2m.dev .capture false (greyFormat 65536#32 65536#32 0#32) ∧
      ¬ AcceptedSound boardM2m.dev .capture false (greyFormat 640#32 480#32 1024#32) := by
  have hlarge : Accepted .capture false (greyFormat 65536#32 65536#32 0#32) mxcIsiOutFormat0 :=
    ⟨rfl, by decide, by decide, by decide, by decide⟩
  have hpadded : Accepted .capture false (greyFormat 640#32 480#32 1024#32) mxcIsiOutFormat0 :=
    ⟨rfl, by decide, by decide, by decide, by decide⟩
  intro large padded
  refine ⟨by decide, by decide, by decide, by decide, by decide, by decide, ?_, ?_⟩
  · intro hsound
    obtain ⟨m', hset, hframe, -⟩ := m2mSFmt_accepted hlarge boardM2m.dev
    unfold AcceptedSound at hsound
    rw [hset] at hsound
    have hcovered := hsound.covered
    rw [hframe, fmt_m2mStoredFrame] at hcovered
    exact absurd ((covered_iff rfl _ _).mp hcovered) (by decide)
  · intro hsound
    obtain ⟨m', hset, hframe, -⟩ := m2mSFmt_accepted hpadded boardM2m.dev
    unfold AcceptedSound at hsound
    rw [hset] at hsound
    have hsame := hsound.reported (greyFormat 640#32 480#32 1024#32)
    have hplane := congrArg V4l2PlanePixFormat.bytesperline (hsame.planeFmt 0 (by decide))
    change ((frameFormat (frameOf m' .capture) _).planeFmt 0).bytesperline = _ at hplane
    rw [hframe] at hplane
    revert hplane
    decide

end CameraPorting.Isi.Mem2memFormats
