import CameraPorting.MediaDev.SensorRegistration

/-!
The media graph that the media device builds over its sensors, and the channels it takes
out again, translated from `imx8-media-dev.c`. The calls that create and set up a link
between pads that exist are taken to succeed.
-/

namespace CameraPorting.MediaDev.MediaGraph

open CameraPorting.Kernel.Media
open CameraPorting.MediaDev.SensorRegistration

def mxcIsiMaxDevs : Nat := 8
def mxcMipiCsi2MaxDevs : Nat := 2

def mxcIsiSdPadSinkMipi0Vc0 : Nat := 0
def mxcIsiSdPadSinkMipi1Vc0 : Nat := 4
def mxcIsiSdPadSourceMem : Nat := 12
def mxcIsiSdPadSourceDc0 : Nat := 13
def mxcIsiSdPadSourceDc1 : Nat := 14
def mxcIsiSdPadSinkParallelCsi : Nat := 15
def mxcMipiCsi2Vc0PadSource : Nat := 4
def mxcParallelCsiPadSource : Nat := 0
def mxcParallelCsiPadSink : Nat := 1

/-- The entities of the graph; a sensor goes by its entry. -/
inductive Entity where
  | isi (id : Nat)
  | vdev (id : Nat)
  | csi (id : Nat)
  | pcsi (dev : Nat)
  | sensor (index : Nat)
  deriving DecidableEq

def entityOf : Receiver → Entity
  | .csi id _ => .csi id
  | .pcsi dev => .pcsi dev

structure Pad where
  entity : Entity
  index : Nat
  deriving DecidableEq

structure Link where
  source : Pad
  sink : Pad
  deriving DecidableEq

def Link.touches (l : Link) (e : Entity) : Bool := l.source.entity = e || l.sink.entity = e

structure IsiInterface where
  inPort : Nat
  subInPort : Nat
  outPort : Nat
  deriving DecidableEq

/-- What the media device reads of its device tree: the available receiver nodes, the
available ISI nodes by alias id, and the property `parallel_csi`. Alias ids are in their
ranges and belong to one node, and the endpoint of a `csi` node has its alias id for its
port number. -/
structure DeviceTree where
  receivers : List ReceiverNode
  isis : List (Nat × IsiInterface)
  parallelCsi : Bool
  csi_id : ∀ node ∈ receivers, ∀ id vchannel, node.receiver = .csi id vchannel →
    id < mxcMipiCsi2MaxDevs ∧ (isVisited node = true → portOf node = id)
  receivers_nodup : (receivers.map fun node => entityOf node.receiver).Nodup
  isi_lt : ∀ isi ∈ isis, isi.1 < mxcIsiMaxDevs
  isi_nodup : (isis.map Prod.fst).Nodup

inductive ArrayEntry where
  | mxcIsi (i : Nat)
  | mipiCsi2 (i : Nat)
  | sensor (i : Nat)
  deriving DecidableEq

def ArrayEntry.inBounds : ArrayEntry → Prop
  | .mxcIsi i => i < mxcIsiMaxDevs
  | .mipiCsi2 i => i < mxcMipiCsi2MaxDevs
  | .sensor i => i < mxcMaxSensors

/-- The links, the entities that were unregistered, and the array entries that were
accessed. -/
structure Graph where
  links : List Link
  removed : List Entity
  accesses : List ArrayEntry

def emptyGraph : Graph := ⟨[], [], []⟩

def access (entry : ArrayEntry) (g : Graph) : Graph :=
  { g with accesses := entry :: g.accesses }

/-- `media_create_pad_link`, between pads that exist: a sensor is taken to have a source
pad for every virtual channel of its receiver. -/
def mediaCreatePadLink (source sink : Pad) (g : Graph) : Graph :=
  { g with links := g.links ++ [⟨source, sink⟩] }

def untilError {α : Type} (f : α → Graph → Graph × Ret) : List α → Graph → Graph × Ret
  | [], g => (g, .ok ())
  | x :: xs, g =>
      match f x g with
      | (g, .error e) => (g, .error e)
      | (g, .ok ()) => untilError f xs g

section Tree

variable (tree : DeviceTree)

def mipiCsi2 (id : Nat) : Option Bool :=
  tree.receivers.findSome? fun node =>
    match node.receiver with
    | .csi id' vchannel => if id' = id then some vchannel else none
    | .pcsi _ => none

/-- The parallel receivers, in the order of their registration. -/
def pcsidevs : List Nat :=
  tree.receivers.filterMap fun node =>
    match node.receiver with
    | .csi _ _ => none
    | .pcsi dev => some dev

/-- `pcsidev.sd`: each registration overwrites the one before. -/
def pcsidevSd : Option Nat := (pcsidevs tree).getLast?

/-- `find_entity_by_name` for the parallel receiver; all of them have one name. -/
def pcsiByName : Option Nat := (pcsidevs tree).head?

def mxcIsi (id : Nat) : Option IsiInterface := tree.isis.lookup id

def isiSourcePad : Nat → Option Nat
  | 0 => some mxcIsiSdPadSourceDc0
  | 1 => some mxcIsiSdPadSourceDc1
  | 2 => some mxcIsiSdPadSourceMem
  | _ => none

def virtualChannel (subInPort : Nat) : Nat :=
  if 1 ≤ subInPort ∧ subInPort ≤ 3 then subInPort else 0

def linkMipi (id csi sinkVc0 subInPort : Nat) (g : Graph) : Graph :=
  let g := access (.mipiCsi2 csi) g
  match mipiCsi2 tree csi with
  | none => g
  | some _ => mediaCreatePadLink
      ⟨.csi csi, mxcMipiCsi2Vc0PadSource + virtualChannel subInPort⟩
      ⟨.isi id, sinkVc0 + virtualChannel subInPort⟩ g

/-- The link of an ISI channel to the parallel receiver. -/
def linkParallel (id : Nat) (g : Graph) : Graph :=
  match pcsidevSd tree, pcsiByName tree with
  | some _, some dev => mediaCreatePadLink
      ⟨.pcsi dev, mxcParallelCsiPadSource⟩ ⟨.isi id, mxcIsiSdPadSinkParallelCsi⟩ g
  | _, _ => g

/-- One turn of the first loop of `mxc_md_create_links`. -/
def createIsiLinks (id : Nat) (g : Graph) : Graph × Ret :=
  let g := access (.mxcIsi id) g
  match mxcIsi tree id with
  | none => (g, .ok ())
  | some interface =>
      match isiSourcePad interface.outPort with
      | none => (g, .error .einval)
      | some sourcePad =>
          let g := mediaCreatePadLink ⟨.isi id, sourcePad⟩ ⟨.vdev id, 0⟩ g
          match interface.inPort with
          | 2 => (linkMipi tree id 0 mxcIsiSdPadSinkMipi0Vc0 interface.subInPort g, .ok ())
          | 3 => (linkMipi tree id 1 mxcIsiSdPadSinkMipi1Vc0 interface.subInPort g, .ok ())
          | 6 => (linkParallel tree id g, .ok ())
          | _ => (g, .error .einval)

/-- The pads of a receiver, with or without virtual channels. -/
def mipiVc (vchannel : Bool) : Nat := if vchannel then 4 else 1

/-- One turn of the second loop of `mxc_md_create_links`. -/
def createSensorLinks (t : SensorTable) (g : Graph) (i : Nat) : Graph :=
  let g := access (.sensor i) g
  let sensor := t.sensor i
  if !sensor.sd then g
  else if tree.parallelCsi && !sensor.mipiMode then
    match pcsidevSd tree, pcsiByName tree with
    | some _, some dev =>
        mediaCreatePadLink ⟨.sensor i, 0⟩ ⟨.pcsi dev, mxcParallelCsiPadSink⟩ g
    | _, _ => g
  else
    let g := access (.mipiCsi2 sensor.id) g
    match mipiCsi2 tree sensor.id with
    | none => g
    | some vchannel => (List.range (mipiVc vchannel)).foldl
        (fun g j => mediaCreatePadLink ⟨.sensor i, j⟩ ⟨.csi sensor.id, j⟩ g) g

def mxcMdCreateLinks (t : SensorTable) (g : Graph) : Graph × Ret :=
  match untilError (createIsiLinks tree) (List.range mxcIsiMaxDevs) g with
  | (g, .error e) => (g, .error e)
  | (g, .ok ()) => ((List.range t.numSensors).foldl (createSensorLinks tree t) g, .ok ())

def mediaEntityRemotePad (links : List Link) (pad : Pad) : Option Pad :=
  (links.find? fun l => l.source = pad || l.sink = pad).map fun l =>
    if l.source = pad then l.sink else l.source

/-- `v4l2_device_unregister_subdev`: the links of the entity go with it. -/
def unregister (e : Entity) (g : Graph) : Graph :=
  { g with
    links := g.links.filter fun l => !l.touches e
    removed := e :: g.removed }

def mxcMdDoClean (pad : Pad) (g : Graph) : Graph × Ret :=
  if g.links.any fun l => l.touches pad.entity then
    match mediaEntityRemotePad g.links pad with
    | none => (g, .error .enodev)
    | some remote => (unregister remote.entity g, .ok ())
  else (g, .ok ())

def mxcMdCleanChannel (t : SensorTable) (index : Nat) (g : Graph) : Graph × Ret :=
  let g := access (.mipiCsi2 index) g
  match mipiCsi2 tree index with
  | some vchannel => untilError
      (fun j => mxcMdDoClean ⟨.csi index, mxcMipiCsi2Vc0PadSource + j⟩)
      (List.range (mipiVc vchannel)) g
  | none =>
      if tree.parallelCsi && !(t.sensor index).mipiMode then
        match pcsidevSd tree with
        | none => (g, .error .enodev)
        | some dev => mxcMdDoClean ⟨.pcsi dev, mxcParallelCsiPadSource⟩ g
      else (g, .ok ())

def mxcMdCleanUnlinkChannels (t : SensorTable) (g : Graph) : Graph × Ret :=
  untilError (fun i g =>
    let g := access (.sensor i) g
    if (t.sensor i).sd then (g, .ok ()) else mxcMdCleanChannel tree t i g)
    (List.range t.numSensors) g

def bindSensors (bound : Nat → Bool) (t : SensorTable) : SensorTable :=
  { t with sensor := fun i =>
      if i < t.numSensors then { t.sensor i with sd := bound i } else t.sensor i }

def linked (bound : Nat → Bool) (t : SensorTable) : Graph × Ret :=
  mxcMdCreateLinks tree (bindSensors bound t) emptyGraph

/-- The graph after `mxc_md_clean_unlink_channels`, which a failure to link it skips. -/
def cleaned (bound : Nat → Bool) (t : SensorTable) : Graph :=
  match linked tree bound t with
  | (g, .error _) => g
  | (g, .ok ()) => (mxcMdCleanUnlinkChannels tree (bindSensors bound t) g).1

end Tree

end CameraPorting.MediaDev.MediaGraph
