import CameraPorting.Kernel.Media

/-!
The capture class `V4L2` of the application: opening a video node, reading frames from
it and releasing it. The system calls take their outcome from outside; the calls whose
result the class does not look at and that leave nothing behind (`VIDIOC_G_FMT`,
`VIDIOC_S_CTRL`) are left out.
-/

namespace CameraPorting.App.CaptureClass

open CameraPorting.Kernel.Media

def frameNum : Nat := 3

structure V4l2Plane where
  length : U32
  memOffset : U32
  deriving DecidableEq, Repr

/-- `struct buffer`; a `start` of `none` is `MAP_FAILED`. -/
structure Buffer where
  start : Option Nat
  plane : V4l2Plane
  length : Nat

inductive SensorType where
  | ar0144 | ov5648 | imx219
  deriving DecidableEq, Repr

structure SensorProperties where
  imageWidth : U32
  imageHeight : U32
  imageFormat : U32
  deriving DecidableEq, Repr

def sensors : SensorType → SensorProperties
  | .ar0144 => ⟨1280, 800, v4l2PixFmtSbggr8⟩
  | .ov5648 => ⟨1280, 720, v4l2PixFmtSbggr8⟩
  | .imx219 => ⟨1920, 1080, v4l2PixFmtSgrbg8⟩

def v4l2CapVideoCaptureMplane : U32 := 0x00001000
def v4l2CapStreaming : U32 := 0x04000000

abbrev Frame := List U8

/-- The video node behind the descriptor: the format it settled on, the buffers it
granted, and which of these it owns. -/
structure VideoDevice where
  format : SensorProperties
  planes : List V4l2Plane
  queued : List Nat
  streaming : Bool
  frames : Nat → Frame

structure Mapping where
  start : Nat
  length : Nat
  memOffset : U32
  deriving DecidableEq, Repr

/-- What the process holds through the object. -/
structure System where
  descriptors : List Int
  mappings : List Mapping
  device : VideoDevice

structure V4l2 where
  mSensor : SensorType
  fd : Int
  isCamOpen : Bool
  buffers : Nat → Buffer
  mBuffers : Nat
  sys : System

def setBuffer (s : V4l2) (i : Nat) (buffer : Buffer) : V4l2 :=
  { s with buffers := Function.update s.buffers i buffer }

def setDevice (s : V4l2) (device : VideoDevice) : V4l2 :=
  { s with sys := { s.sys with device := device } }

/-- What the kernel answers to the system calls of one `open`. Mappings do not share
an address, and buffers do not share an offset. -/
structure OpenOutcome where
  opened : Option (Nat × VideoDevice)
  querycap : Option U32
  sFmt : Option SensorProperties
  reqbufs : Option (List V4l2Plane)
  querybuf : Nat → Bool
  mmap : Nat → Option Nat
  qbuf : Nat → Bool
  streamon : Bool
  mmap_injective : ∀ i j start, mmap i = some start → mmap j = some start → i = j
  offsets_nodup : ∀ planes, reqbufs = some planes → (planes.map V4l2Plane.memOffset).Nodup

/-- `::open`: a new descriptor and the node behind it, whose buffers and queue belong to
the descriptor. -/
def sysOpen (opened : Option (Nat × VideoDevice)) (s : V4l2) : V4l2 :=
  match opened with
  | none => { s with fd := -1 }
  | some (fd, device) => { s with
      fd := fd
      sys := { s.sys with
        descriptors := fd :: s.sys.descriptors
        device := { device with planes := [], queued := [], streaming := false } } }

def live (s : V4l2) : Bool := decide (s.fd ∈ s.sys.descriptors)

/-- The planes a buffer ioctl copies back, to the entry of `buffers` it was given. -/
def fillPlane (index entry : Nat) (s : V4l2) : V4l2 :=
  match s.sys.device.planes[index]? with
  | none => s
  | some plane => setBuffer s entry { s.buffers entry with plane := plane }

def setFormat (sFmt : Option SensorProperties) (s : V4l2) : Bool × V4l2 :=
  match live s, sFmt with
  | true, some format => (true, setDevice s { s.sys.device with format := format })
  | _, _ => (false, s)

def requestBuffer (reqbufs : Option (List V4l2Plane)) (s : V4l2) : Bool × V4l2 :=
  match live s, reqbufs with
  | true, some planes => (true, setDevice s { s.sys.device with planes := planes, queued := [] })
  | _, _ => (false, s)

def queryBuffer (querybuf : Bool) (mmap : Option Nat) (i : Nat) (s : V4l2) : Bool × V4l2 :=
  if live s && querybuf && decide (i < s.sys.device.planes.length) then
    let s := fillPlane i i s
    let plane := (s.buffers i).plane
    let s := setBuffer s i { s.buffers i with start := mmap, length := plane.length.toNat }
    match mmap with
    | none => (false, s)
    | some start => (true, { s with sys := { s.sys with
        mappings := ⟨start, plane.length.toNat, plane.memOffset⟩ :: s.sys.mappings } })
  else (false, s)

def ioctlQbuf (qbuf : Bool) (index entry : Nat) (s : V4l2) : Bool × V4l2 :=
  if live s && qbuf && decide (index < s.sys.device.planes.length) &&
      decide (index ∉ s.sys.device.queued) then
    (true, setDevice (fillPlane index entry s)
      { s.sys.device with queued := index :: s.sys.device.queued })
  else (false, s)

def queueBuffer (qbuf : Bool) (i : Nat) (s : V4l2) : Bool × V4l2 := ioctlQbuf qbuf i i s

def startStreaming (streamon : Bool) (s : V4l2) : Bool × V4l2 :=
  if live s && streamon then (true, setDevice s { s.sys.device with streaming := true })
  else (false, s)

def stopStreaming (streamoff : Bool) (s : V4l2) : Bool × V4l2 :=
  if live s && streamoff then
    (true, setDevice s { s.sys.device with streaming := false, queued := [] })
  else (false, s)

def queryTurn (o : OpenOutcome) (s : V4l2) (i : Nat) : V4l2 :=
  let s := setBuffer { s with mBuffers := i } i { s.buffers i with start := none }
  { (queryBuffer (o.querybuf i) (o.mmap i) i s).2 with mBuffers := i + 1 }

def queryBuffers (o : OpenOutcome) (s : V4l2) : V4l2 :=
  (List.range frameNum).foldl (queryTurn o) s

def queueBuffers (o : OpenOutcome) (s : V4l2) : V4l2 :=
  (List.range s.mBuffers).foldl (fun s i => (queueBuffer (o.qbuf i) i s).2) s

/-- `open`, from the format on: no result of the calls is looked at. -/
def setUp (o : OpenOutcome) (s : V4l2) : V4l2 :=
  let s := (setFormat o.sFmt s).2
  let s := (requestBuffer o.reqbufs s).2
  let s := queryBuffers o { s with mBuffers := 0 }
  let s := queueBuffers o s
  (startStreaming o.streamon s).2

def openNode (o : OpenOutcome) (s : V4l2) : Int × V4l2 :=
  match o.querycap with
  | none => (-1, s)
  | some capabilities =>
      if capabilities &&& v4l2CapVideoCaptureMplane ≠ v4l2CapVideoCaptureMplane then (-1, s)
      else if capabilities &&& v4l2CapStreaming ≠ v4l2CapStreaming then (-1, s)
      else (1, { setUp o s with isCamOpen := true })

def V4l2.open (sensor : SensorType) (o : OpenOutcome) (s : V4l2) : Int × V4l2 :=
  let s := sysOpen o.opened { s with mSensor := sensor }
  if s.fd < 0 then (-1, s) else openNode o s

/-- What the kernel answers in one `read`: the buffer it gives back with the frame in
it, and whether it takes the buffer again. -/
structure ReadOutcome where
  dqbuf : Option (Nat × Frame)
  qbuf : Bool

/-- `VIDIOC_DQBUF`, with the planes of an entry of `buffers`: only a buffer that the
kernel owns comes back. -/
def ioctlDqbuf (dqbuf : Option (Nat × Frame)) (entry : Nat) (s : V4l2) : Option Nat × V4l2 :=
  match dqbuf with
  | none => (none, s)
  | some (index, frame) =>
      if live s && s.sys.device.streaming && decide (index ∈ s.sys.device.queued) then
        (some index, setDevice (fillPlane index entry s)
          { s.sys.device with
            queued := s.sys.device.queued.erase index
            frames := Function.update s.sys.device.frames index frame })
      else (none, s)

def bufferAt (sys : System) (start : Nat) : Option Nat :=
  match sys.mappings.find? (fun m => m.start = start) with
  | none => none
  | some m =>
      if m.memOffset ∈ sys.device.planes.map V4l2Plane.memOffset then
        some ((sys.device.planes.map V4l2Plane.memOffset).idxOf m.memOffset)
      else none

def frameAt (sys : System) (start : Option Nat) : Option Frame :=
  start.bind fun start => (bufferAt sys start).map sys.device.frames

inductive ColorConversion where
  | bayerGR2RGB | bayerRG2RGB
  deriving DecidableEq, Repr

section Read

variable {Img : Type} (cvtColor : ColorConversion → U32 → U32 → Frame → Img)

/-- The image made of the frame at a pointer of `buffers`; none for the IMX219. -/
def convert (s : V4l2) (start : Option Nat) : Option Img :=
  let image := fun code => (frameAt s.sys start).map
    (cvtColor code (sensors s.mSensor).imageHeight (sensors s.mSensor).imageWidth)
  match s.mSensor with
  | .ar0144 => image .bayerGR2RGB
  | .ov5648 => image .bayerRG2RGB
  | .imx219 => none

/-- `read`, with the image it sets, if it sets one. The planes it hands to the kernel
are those of entry `0`, the index in a cleared `buff`. -/
def V4l2.read (o : ReadOutcome) (s : V4l2) : Bool × Option Img × V4l2 :=
  if s.isCamOpen = false then (false, none, s)
  else
    match ioctlDqbuf o.dqbuf 0 s with
    | (none, s) => (false, none, s)
    | (some index, s) =>
        let img := convert cvtColor s (s.buffers index).start
        match ioctlQbuf o.qbuf index 0 s with
        | (false, s) => (false, img, s)
        | (true, s) => (true, img, s)

end Read

/-- What the kernel answers in one `release`. A `close` that is interrupted may leave
the descriptor open. -/
structure ReleaseOutcome where
  streamoff : Bool
  munmap : Nat → Bool
  close : Bool

def munmap (ok : Bool) (i : Nat) (s : V4l2) : V4l2 :=
  match (s.buffers i).start, ok with
  | some start, true => { s with sys := { s.sys with
      mappings := s.sys.mappings.filter fun m =>
        !(decide (m.start = start) && decide (m.length = (s.buffers i).length)) } }
  | _, _ => s

def close (ok : Bool) (s : V4l2) : V4l2 :=
  if ok then { s with sys := { s.sys with descriptors := s.sys.descriptors.erase s.fd } } else s

def V4l2.release (o : ReleaseOutcome) (s : V4l2) : V4l2 :=
  if s.isCamOpen then
    let s := (stopStreaming o.streamoff s).2
    let s := (List.range s.mBuffers).foldl (fun s i => munmap (o.munmap i) i s) s
    { close o.close s with isCamOpen := false }
  else s

inductive Call where
  | open (sensor : SensorType) (o : OpenOutcome)
  | read (o : ReadOutcome)
  | release (o : ReleaseOutcome)

def step (s : V4l2) : Call → V4l2
  | .open sensor o => (V4l2.open sensor o s).2
  | .read o => (V4l2.read (fun _ _ _ frame => frame) o s).2.2
  | .release o => V4l2.release o s

/-- `V4L2::V4L2`. The other members are not initialised. -/
def construct (mSensor : SensorType) (buffers : Nat → Buffer) (mBuffers : Nat)
    (device : VideoDevice) : V4l2 :=
  { mSensor := mSensor
    fd := -1
    isCamOpen := false
    buffers := buffers
    mBuffers := mBuffers
    sys := ⟨[], [], device⟩ }

end CameraPorting.App.CaptureClass
