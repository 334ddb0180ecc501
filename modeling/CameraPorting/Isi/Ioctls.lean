import CameraPorting.Isi.Formats

namespace CameraPorting.Isi.Ioctls

open CameraPorting.Kernel.Media
open CameraPorting.Isi.Device
open CameraPorting.Isi.Channel
open CameraPorting.Isi.CaptureQueue
open CameraPorting.Isi.Formats

/-- `fmt->depth[i]` after its promotion, as it enters `u32` products. -/
def depthU32 (fmt : MxcIsiFmt) (i : Nat) : U32 :=
  BitVec.ofNat 32 (fmt.depthAt i)

/-- The lines of plane `i`: half the height for the chroma plane of NV12. -/
def planeLines (fmt : MxcIsiFmt) (i : Nat) (height : U32) : U32 :=
  if i = 1 ∧ fmt.fourcc = v4l2PixFmtNv12 then height >>> 1 else height

/-- One turn of the plane loop of `mxc_isi_cap_s_fmt_mplane`. The user's
`bytesperline` is an `int` here: it is divided as one, and its quotient compared
unsigned. -/
def sizePlane (fmt : MxcIsiFmt) (width height : U32) (i : Nat)
    (plane : V4l2PlanePixFormat) : V4l2PlanePixFormat :=
  let bpl := plane.bytesperline
  { bytesperline :=
      if bpl = 0#32 ∨ bpl.sdiv (depthU32 fmt i >>> 3) < width then
        (width * depthU32 fmt i) >>> 3
      else bpl
    sizeimage := (width * planeLines fmt i height * depthU32 fmt i) >>> 3 }

/-- `mxc_isi_cap_s_fmt_mplane`, with the format it leaves in the caller's
structure. `busy` is `vb2_is_busy`. -/
def mxcIsiCapSFmtMplane (cap : MxcIsiCapDev) (busy : Bool)
    (pix : V4l2PixFormatMplane) : MxcIsiCapDev × V4l2PixFormatMplane × Ret :=
  if busy then (cap, pix, .error .ebusy)
  else
    match mxcIsiOutFormats.find? (fun fmt => fmt.fourcc == pix.pixelformat) with
    | none => (cap, pix, .error .einval)
    | some fmt =>
        if pix.height = 0#32 ∨ pix.width = 0#32 then (cap, pix, .error .einval)
        else
          let pix := { pix with
            numPlanes := fmt.memplanes
            planeFmt := fun i =>
              if i < fmt.memplanes then
                sizePlane fmt pix.width pix.height i (pix.planeFmt i)
              else pix.planeFmt i }
          let dstF := { cap.dstF with fmt := some fmt }
          let dstF := if 1 < fmt.memplanes then
              { dstF with
                bytesperline := fun i => if i < fmt.memplanes then
                  (pix.planeFmt i).bytesperline else dstF.bytesperline i
                sizeimage := fun i => if i < fmt.memplanes then
                  (pix.planeFmt i).sizeimage else dstF.sizeimage i }
            else
              let bpl := pix.width * depthU32 fmt 0 / 8#32
              { dstF with
                bytesperline := Function.update dstF.bytesperline 0 bpl
                sizeimage := Function.update dstF.sizeimage 0 (pix.height * bpl) }
          ({ cap with pix := pix, dstF := setFrameBounds dstF pix.width pix.height },
            pix, .ok ())

def mxcIsiSdPadSourceMem : Nat := 12

/-- `mxc_isi_subdev_set_fmt`. With more than one plane the code after the loop
writes `bytesperline[memplanes]`; for three planes that is not an array entry but
the low half of the format pointer, which points to no row afterwards. `isMn`
says whether the parent is compatible with "fsl,imx8mn-isi". -/
def mxcIsiSubdevSetFmt (cap : MxcIsiCapDev) (busy isMn : Bool) (pad : Nat)
    (mf : MbusFramefmt) : MxcIsiCapDev × Ret :=
  if pad < mxcIsiSdPadSourceMem ∧ busy then (cap, .error .ebusy)
  else
    match mxcIsiOutFormats.find? (fun fmt => fmt.mbusCode == mf.code) with
    | none => (cap, .error .einval)
    | some fmt =>
        if isMn ∧ isi2K < mf.width then (cap, .error .einval)
        else
          let dstF := { cap.dstF with fmt := some fmt }
          let dstF := if 1 < fmt.memplanes then
              let dstF := { dstF with
                sizeimage := fun i => if i < fmt.memplanes then
                    (mf.width * planeLines fmt i mf.height * depthU32 fmt i) >>> 3
                  else dstF.sizeimage i }
              if fmt.memplanes < 3 then
                let bpl := (mf.width * depthU32 fmt fmt.memplanes) >>> 3
                { dstF with
                  bytesperline := Function.update dstF.bytesperline fmt.memplanes bpl }
              else { dstF with fmt := none }
            else
              let bpl := mf.width * depthU32 fmt 0 / 8#32
              { dstF with
                bytesperline := Function.update dstF.bytesperline 0 bpl
                sizeimage := Function.update dstF.sizeimage 0 (mf.height * bpl) }
          ({ cap with dstF := setFrameBounds dstF mf.width mf.height }, .ok ())

/-- The row the format pointer of a frame points to. A pointer to no row reads
memory the model does not have; it then takes row 0. -/
def frameFmt (f : MxcIsiFrame) : MxcIsiFmt :=
  f.fmt.getD mxcIsiOutFormat0

/-- `mxc_isi_source_fmt_init`. `remote` says whether a remote source pad and its
subdev are found. -/
def mxcIsiSourceFmtInit {ρ : Type} (ops : PadOps ρ) (remote : Bool) (r : ρ)
    (cap : MxcIsiCapDev) : ρ × MxcIsiCapDev × Ret :=
  if !remote then (r, cap, .error .einval)
  else
    let (r, _, ret) := ops.setFmt r
      ⟨(frameFmt cap.dstF).mbusCode, cap.dstF.width, cap.dstF.height⟩
    if callFailed ret then (r, cap, ret)
    else
      match ops.getFmt r with
      | (r, .error e) =>
          if e ≠ .enoioctlcmd then (r, cap, .error e)
          else sourceBounds r cap ⟨0#32, 0#32, 0#32⟩
      | (r, .ok mf) => sourceBounds r cap mf
where
  /-- The source frame takes the remote format, which must be no smaller than
  the output. -/
  sourceBounds (r : ρ) (cap : MxcIsiCapDev) (mf : MbusFramefmt) :
      ρ × MxcIsiCapDev × Ret :=
    let cap := { cap with
      srcF := setFrameBounds { cap.srcF with fmt := some (mxcIsiGetSrcFmt mf.code) }
        mf.width mf.height }
    if cap.srcF.width < cap.dstF.width ∨ cap.srcF.height < cap.dstF.height then
      (r, cap, .error .einval)
    else (r, cap, .ok ())

def configChannel (cap : MxcIsiCapDev) : MxcIsiCapDev :=
  { cap with
    isi := mxcIsiChannelConfig (mxcIsiChannelInit cap.isi) cap.srcF cap.dstF
      (frameFmt cap.srcF) (frameFmt cap.dstF) }

def mxcIsiConfigParm {ρ : Type} (ops : PadOps ρ) (remote : Bool) (r : ρ)
    (cap : MxcIsiCapDev) : ρ × MxcIsiCapDev × Ret :=
  match mxcIsiSourceFmtInit ops remote r cap with
  | (r, cap, .error _) => (r, cap, .error .einval)
  | (r, cap, .ok ()) => (r, configChannel cap, .ok ())

/-- The size `cap_vb2_queue_setup` asks for plane `i`. The product of width and
height is taken in `u32`, the rest in `unsigned long`. -/
def setupSize (f : MxcIsiFrame) (fmt : MxcIsiFmt) (i : Nat) : U32 :=
  let wh := (f.width * f.height).toNat
  let size : U32 := BitVec.ofNat 32 (wh * fmt.depthAt i / 8)
  let size := if i = 1 ∧ fmt.fourcc = v4l2PixFmtNv12 then size >>> 1 else size
  if size < f.sizeimage i then f.sizeimage i else size

def capVb2QueueSetup (cap : MxcIsiCapDev) : Except Errno (List U32) :=
  match cap.dstF.fmt with
  | none => .error .einval
  | some fmt => .ok ((List.range fmt.memplanes).map (setupSize cap.dstF fmt))

def capVb2BufferPrepare (cap : MxcIsiCapDev) (buf : MxcIsiBuffer) : Ret :=
  match cap.dstF.fmt with
  | none => .error .einval
  | some fmt =>
      if (List.range fmt.memplanes).any fun i => buf.planeSize i < cap.dstF.sizeimage i then
        .error .einval
      else .ok ()

end CameraPorting.Isi.Ioctls
