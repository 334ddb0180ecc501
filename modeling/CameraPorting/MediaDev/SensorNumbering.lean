import CameraPorting.MediaDev.MediaGraph
import Mathlib.Tactic.IntervalCases

namespace CameraPorting.MediaDev.SensorNumbering

open CameraPorting.Kernel.Media
open CameraPorting.MediaDev.SensorRegistration
open CameraPorting.MediaDev.MediaGraph

/-- An interface that `mxc_md_create_links` knows. -/
def Supported (interface : IsiInterface) : Prop :=
  interface.outPort ≤ 2 ∧
    (interface.inPort = 2 ∨ interface.inPort = 3 ∨ interface.inPort = 6)

instance (interface : IsiInterface) : Decidable (Supported interface) :=
  inferInstanceAs (Decidable (_ ∧ _))

section Tree

variable (tree : DeviceTree)

def nodeAt (i : Nat) : Option ReceiverNode := (registered tree.receivers)[i]?

def feedEntity (interface : IsiInterface) : Option Entity :=
  match interface.inPort with
  | 2 => some (.csi 0)
  | 3 => some (.csi 1)
  | 6 => (pcsiByName tree).map .pcsi
  | _ => none

def feedChannel (interface : IsiInterface) : Nat :=
  if interface.inPort = 6 then 0 else virtualChannel interface.subInPort

/-- An ISI channel is fed by a receiver. -/
def Feeds (e : Entity) (id : Nat) : Prop :=
  ∃ interface, (id, interface) ∈ tree.isis ∧ feedEntity tree interface = some e

def FedBy (e : Entity) (id channel : Nat) : Prop :=
  ∃ interface, (id, interface) ∈ tree.isis ∧ feedEntity tree interface = some e ∧
    feedChannel interface = channel

def channels : Receiver → Nat
  | .csi _ vchannel => mipiVc vchannel
  | .pcsi _ => 1

/-- Each of the first channels of a receiver feeds one ISI channel, and no other channel
feeds any. -/
structure ChannelsFit (receiver : Receiver) : Prop where
  single : ∀ id id' channel, FedBy tree (entityOf receiver) id channel →
    FedBy tree (entityOf receiver) id' channel → id = id'
  lt : ∀ id channel, FedBy tree (entityOf receiver) id channel → channel < channels receiver
  first : ∀ id channel, FedBy tree (entityOf receiver) id channel → ∀ j < channel,
    ∃ id', FedBy tree (entityOf receiver) id' j

/-- The receiver that `mxc_md_clean_channel` takes for an entry. -/
def cleanedAt (i : Nat) : Option Entity :=
  match mipiCsi2 tree i with
  | some _ => some (.csi i)
  | none => if tree.parallelCsi then (pcsidevSd tree).map .pcsi else none

/-- The table and the links are those of the device tree. -/
structure LinkedRight (bound : Nat → Bool) (t : SensorTable) : Prop where
  entries : ∀ i ∈ t.accesses, i < mxcMaxSensors
  accesses : ∀ entry ∈ (linked tree bound t).1.accesses, entry.inBounds
  modes : ∀ i node, nodeAt tree i = some node →
    ((t.sensor i).mipiMode = true ↔ node.receiver.isCsi = true)
  links : ∀ i node, nodeAt tree i = some node → bound i = true → ∀ e,
    (∃ l ∈ (linked tree bound t).1.links, l.source.entity = .sensor i ∧ l.sink.entity = e) ↔
      e = entityOf node.receiver

/-- The channels that are taken out are those of the sensors that did not bind. -/
structure CleanedRight (bound : Nat → Bool) (t : SensorTable) : Prop where
  accesses : ∀ entry ∈ (cleaned tree bound t).accesses, entry.inBounds
  removed : ∀ e, e ∈ (cleaned tree bound t).removed ↔ ∃ id, e = .isi id ∧
    ∃ i node, nodeAt tree i = some node ∧ bound i = false ∧ Feeds tree (entityOf node.receiver) id

/-- The nodes with an endpoint find room in the table, no `csi` node without a sensor
comes between a registered `pcsi` node and the registered node before it, and where a
sensor binds, all interfaces are known and its `pcsi` receiver is the first one and
announced by `parallel_csi`. -/
structure Numbered (bound : Nat → Bool) : Prop where
  room : ∀ a node b, tree.receivers = a ++ node :: b → isVisited node = true →
    (registered a).length < mxcMaxSensors
  fresh : ∀ a node b, tree.receivers = a ++ node :: b → isRegistered node = true →
    node.receiver.isCsi = false → ¬Stale a
  supported : ∀ i node, nodeAt tree i = some node → bound i = true →
    ∀ isi ∈ tree.isis, Supported isi.2
  parallel : ∀ i node dev, nodeAt tree i = some node → bound i = true →
    node.receiver = .pcsi dev → tree.parallelCsi = true ∧ pcsiByName tree = some dev

/-- Where a sensor does not bind, all interfaces are known, its entry stands at the place
of its receiver, and the channels of the receiver are used from the first one on. -/
structure Cleanable (bound : Nat → Bool) : Prop where
  supported : ∀ i node, nodeAt tree i = some node → bound i = false →
    ∀ isi ∈ tree.isis, Supported isi.2
  lt : ∀ i node, nodeAt tree i = some node → bound i = false → i < mxcMipiCsi2MaxDevs
  place : ∀ i node, nodeAt tree i = some node → bound i = false →
    cleanedAt tree i = some (entityOf node.receiver)
  channels : ∀ i node, nodeAt tree i = some node → bound i = false →
    ChannelsFit tree node.receiver

end Tree

section Lists

theorem filter_getElem?_iff {α : Type} {p : α → Bool} {l : List α} {i : Nat} {x : α} :
    (l.filter p)[i]? = some x ↔
      ∃ a b, l = a ++ x :: b ∧ p x = true ∧ (a.filter p).length = i := by
  constructor
  · intro h
    induction l generalizing i with
    | nil => simp at h
    | cons y l ih =>
        rcases hy : p y with _ | _
        · rw [List.filter_cons_of_neg (by simp [hy])] at h
          obtain ⟨a, b, rfl, hx, hi⟩ := ih h
          exact ⟨y :: a, b, rfl, hx, by simp [hy, hi]⟩
        · rw [List.filter_cons_of_pos hy] at h
          cases i with
          | zero =>
              obtain rfl := Option.some.inj h
              exact ⟨[], l, rfl, hy, rfl⟩
          | succ i =>
              obtain ⟨a, b, rfl, hx, hi⟩ := ih h
              exact ⟨y :: a, b, rfl, hx, by simp [hy, hi]⟩
  · rintro ⟨a, b, rfl, hx, rfl⟩
    simp [List.filter_append, hx]

theorem lookup_iff {α : Type} {l : List (Nat × α)} (h : (l.map Prod.fst).Nodup) {k : Nat}
    {v : α} : l.lookup k = some v ↔ (k, v) ∈ l := by
  induction l with
  | nil => simp
  | cons entry l ih =>
      obtain ⟨k', v'⟩ := entry
      rw [List.map_cons, List.nodup_cons] at h
      by_cases hk : k = k'
      · subst hk
        have hnew : (k, v) ∉ l := fun hmem => h.1 (List.mem_map.mpr ⟨(k, v), hmem, rfl⟩)
        simp [hnew, eq_comm]
      · rw [List.lookup_cons, beq_false_of_ne hk]
        simp [hk, ih h.2]

end Lists

section Lookups

variable {tree : DeviceTree}

theorem nodeAt_iff {i : Nat} {node : ReceiverNode} :
    nodeAt tree i = some node ↔ ∃ a b, tree.receivers = a ++ node :: b ∧
      isRegistered node = true ∧ (registered a).length = i :=
  filter_getElem?_iff

theorem nodeAt_mem {i : Nat} {node : ReceiverNode} (h : nodeAt tree i = some node) :
    node ∈ tree.receivers ∧ isRegistered node = true :=
  List.mem_filter.mp (List.mem_of_getElem? h)

theorem isVisited_of_registered {node : ReceiverNode} (h : isRegistered node = true) :
    isVisited node = true := by
  unfold isRegistered at h
  unfold isVisited
  rcases hport : node.port with _ | _ | ep
  · rw [hport] at h
    exact h
  · rw [hport] at h
    exact h
  · rfl

theorem nodeAt_entity {i j : Nat} {node node' : ReceiverNode} (h : nodeAt tree i = some node)
    (h' : nodeAt tree j = some node')
    (he : entityOf node.receiver = entityOf node'.receiver) : i = j := by
  have hnodup : ((registered tree.receivers).map fun node => entityOf node.receiver).Nodup :=
    (List.filter_sublist.map _).nodup tree.receivers_nodup
  have hlt : i < ((registered tree.receivers).map fun node => entityOf node.receiver).length := by
    rw [List.length_map]
    exact (List.getElem?_eq_some_iff.mp h).1
  apply (List.getElem?_inj hlt hnodup).mp
  rw [List.getElem?_map, List.getElem?_map]
  unfold nodeAt at h h'
  rw [h, h', Option.map_some, Option.map_some, he]

theorem mipiCsi2_of_mem {node : ReceiverNode} (hmem : node ∈ tree.receivers) {id : Nat}
    {vchannel : Bool} (hnode : node.receiver = .csi id vchannel) :
    mipiCsi2 tree id = some vchannel := by
  unfold mipiCsi2
  rcases hfind : tree.receivers.findSome? _ with _ | vchannel'
  · have hnone := List.findSome?_eq_none_iff.mp hfind node hmem
    rw [hnode] at hnone
    simp at hnone
  · obtain ⟨node', hmem', hnode'⟩ := List.exists_of_findSome?_eq_some hfind
    rcases hreceiver : node'.receiver with ⟨id', v⟩ | dev
    · rw [hreceiver] at hnode'
      dsimp only at hnode'
      split at hnode'
      · rename_i hid
        subst hid
        have hsame := List.inj_on_of_nodup_map tree.receivers_nodup hmem hmem'
          (by rw [hnode, hreceiver]; rfl)
        subst hsame
        rw [hnode] at hreceiver
        obtain ⟨-, rfl⟩ := Receiver.csi.inj hreceiver
        exact hnode'.symm
      · exact absurd hnode' nofun
    · rw [hreceiver] at hnode'
      exact absurd hnode' nofun

theorem mxcIsi_iff {id : Nat} {interface : IsiInterface} :
    mxcIsi tree id = some interface ↔ (id, interface) ∈ tree.isis :=
  lookup_iff tree.isi_nodup

/-- A channel is fed by one receiver, by one of its channels. -/
theorem feeds_unique {e e' : Entity} {id : Nat} (h : Feeds tree e id) (h' : Feeds tree e' id) :
    e = e' := by
  obtain ⟨interface, hmem, hfeed⟩ := h
  obtain ⟨interface', hmem', hfeed'⟩ := h'
  have hsame := (mxcIsi_iff.mpr hmem).symm.trans (mxcIsi_iff.mpr hmem')
  obtain rfl := Option.some.inj hsame
  exact Option.some.inj (hfeed.symm.trans hfeed')

end Lookups

/-- A graph with new links, and accesses of some entries. -/
structure Extends (entries : ArrayEntry → Prop) (g g' : Graph) (new : List Link) : Prop where
  links : g'.links = g.links ++ new
  removed : g'.removed = g.removed
  accesses : ∀ entry ∈ g'.accesses, entry ∈ g.accesses ∨ entries entry

section Extension

variable {entries : ArrayEntry → Prop} {g g' g'' : Graph} {new new' : List Link}

theorem Extends.refl : Extends entries g g [] :=
  ⟨(List.append_nil _).symm, rfl, fun _ h => .inl h⟩

theorem Extends.trans (h : Extends entries g g' new) (h' : Extends entries g' g'' new') :
    Extends entries g g'' (new ++ new') where
  links := by rw [h'.links, h.links, List.append_assoc]
  removed := h'.removed.trans h.removed
  accesses := fun entry hentry => (h'.accesses entry hentry).elim (h.accesses entry) .inr

theorem Extends.mono {entries' : ArrayEntry → Prop} (h : Extends entries g g' new)
    (hsub : ∀ entry, entries entry → entries' entry) : Extends entries' g g' new :=
  ⟨h.links, h.removed, fun entry hentry => (h.accesses entry hentry).imp_right (hsub entry)⟩

theorem extends_access {entry : ArrayEntry} (hentry : entries entry) :
    Extends entries g (access entry g) [] where
  links := (List.append_nil _).symm
  removed := rfl
  accesses := fun other hother => by
    rcases List.mem_cons.mp hother with rfl | hother
    · exact .inr hentry
    · exact .inl hother

theorem extends_link (source sink : Pad) :
    Extends entries g (mediaCreatePadLink source sink g) [⟨source, sink⟩] :=
  ⟨rfl, rfl, fun _ h => .inl h⟩

theorem extends_foldl {α : Type} {f : Graph → α → Graph} {links : α → List Link}
    (xs : List α) (hf : ∀ x ∈ xs, ∀ g, Extends entries g (f g x) (links x)) (g : Graph) :
    Extends entries g (xs.foldl f g) (xs.flatMap links) := by
  induction xs generalizing g with
  | nil => exact Extends.refl
  | cons x xs ih =>
      have hx := hf x List.mem_cons_self g
      exact hx.trans (ih (fun y hy => hf y (List.mem_cons_of_mem x hy)) (f g x))

end Extension

section Links

variable (tree : DeviceTree)

def feedLinks (id : Nat) (interface : IsiInterface) : List Link :=
  match interface.inPort with
  | 2 => mipiLinks 0 mxcIsiSdPadSinkMipi0Vc0
  | 3 => mipiLinks 1 mxcIsiSdPadSinkMipi1Vc0
  | 6 =>
      match pcsiByName tree with
      | none => []
      | some dev => [⟨⟨.pcsi dev, mxcParallelCsiPadSource⟩, ⟨.isi id, mxcIsiSdPadSinkParallelCsi⟩⟩]
  | _ => []
where
  mipiLinks (csi sinkVc0 : Nat) : List Link :=
    match mipiCsi2 tree csi with
    | none => []
    | some _ => [⟨⟨.csi csi, mxcMipiCsi2Vc0PadSource + virtualChannel interface.subInPort⟩,
        ⟨.isi id, sinkVc0 + virtualChannel interface.subInPort⟩⟩]

/-- The links of an ISI channel: to its video node, and from its receiver. -/
def isiLinks (id : Nat) : List Link :=
  match mxcIsi tree id with
  | none => []
  | some interface =>
      (isiSourcePad interface.outPort).toList.map (fun pad => ⟨⟨.isi id, pad⟩, ⟨.vdev id, 0⟩⟩) ++
        feedLinks tree id interface

def sensorLinks (t : SensorTable) (i : Nat) : List Link :=
  if (t.sensor i).sd = false then []
  else if tree.parallelCsi && !(t.sensor i).mipiMode then
    match pcsiByName tree with
    | none => []
    | some dev => [⟨⟨.sensor i, 0⟩, ⟨.pcsi dev, mxcParallelCsiPadSink⟩⟩]
  else
    match mipiCsi2 tree (t.sensor i).id with
    | none => []
    | some vchannel => (List.range (mipiVc vchannel)).map fun j =>
        ⟨⟨.sensor i, j⟩, ⟨.csi (t.sensor i).id, j⟩⟩

variable {tree}

theorem pcsidevSd_some (h : pcsiByName tree ≠ none) : ∃ dev, pcsidevSd tree = some dev := by
  unfold pcsiByName at h
  unfold pcsidevSd
  rcases hdevs : pcsidevs tree with _ | ⟨dev, rest⟩
  · rw [hdevs] at h
    exact absurd rfl h
  · exact ⟨_, List.getLast?_eq_some_getLast (List.cons_ne_nil dev rest)⟩

theorem linkMipi_extends (id csi sinkVc0 : Nat) (hcsi : csi < mxcMipiCsi2MaxDevs)
    (interface : IsiInterface) (g : Graph) :
    Extends ArrayEntry.inBounds g (linkMipi tree id csi sinkVc0 interface.subInPort g)
      (feedLinks.mipiLinks tree id interface csi sinkVc0) := by
  unfold linkMipi feedLinks.mipiLinks
  dsimp only
  rcases mipiCsi2 tree csi with _ | vchannel
  · exact extends_access hcsi
  · exact (extends_access hcsi).trans (extends_link _ _)

theorem linkParallel_extends (id : Nat) (g : Graph) :
    Extends ArrayEntry.inBounds g (linkParallel tree id g)
      (match pcsiByName tree with
      | none => []
      | some dev =>
          [⟨⟨.pcsi dev, mxcParallelCsiPadSource⟩, ⟨.isi id, mxcIsiSdPadSinkParallelCsi⟩⟩]) := by
  unfold linkParallel
  rcases hname : pcsiByName tree with _ | dev
  · cases pcsidevSd tree <;> exact Extends.refl
  · obtain ⟨last, hlast⟩ := @pcsidevSd_some tree (by rw [hname]; exact nofun)
    rw [hlast]
    exact extends_link _ _

theorem isiSourcePad_some {outPort : Nat} (h : outPort ≤ 2) :
    ∃ pad, isiSourcePad outPort = some pad := by
  interval_cases outPort
  · exact ⟨_, rfl⟩
  · exact ⟨_, rfl⟩
  · exact ⟨_, rfl⟩

theorem isiSourcePad_none {outPort : Nat} (h : ¬outPort ≤ 2) : isiSourcePad outPort = none := by
  unfold isiSourcePad
  split
  · omega
  · omega
  · omega
  · rfl

theorem extends_vdev {id : Nat} (hid : id < mxcIsiMaxDevs) (pad : Nat) (g : Graph) :
    Extends ArrayEntry.inBounds g
      (mediaCreatePadLink ⟨.isi id, pad⟩ ⟨.vdev id, 0⟩ (access (.mxcIsi id) g))
      [⟨⟨.isi id, pad⟩, ⟨.vdev id, 0⟩⟩] :=
  (extends_access hid).trans (extends_link _ _)

theorem createIsiLinks_supported {id : Nat} (hid : id < mxcIsiMaxDevs)
    (h : ∀ interface, mxcIsi tree id = some interface → Supported interface) (g : Graph) :
    ∃ g', createIsiLinks tree id g = (g', .ok ()) ∧
      Extends ArrayEntry.inBounds g g' (isiLinks tree id) := by
  have haccess : Extends ArrayEntry.inBounds g (access (.mxcIsi id) g) [] := extends_access hid
  unfold createIsiLinks isiLinks
  dsimp only
  rcases hisi : mxcIsi tree id with _ | ⟨inPort, subInPort, outPort⟩
  · exact ⟨_, rfl, haccess⟩
  · obtain ⟨hout, hin⟩ := h _ hisi
    obtain ⟨pad, hpad⟩ := isiSourcePad_some hout
    dsimp only at hpad hin ⊢
    rw [hpad]
    have hnode := extends_vdev hid pad g
    rcases hin with rfl | rfl | rfl
    · exact ⟨_, rfl, hnode.trans (linkMipi_extends id 0 _ (by decide) ⟨2, subInPort, outPort⟩ _)⟩
    · exact ⟨_, rfl, hnode.trans (linkMipi_extends id 1 _ (by decide) ⟨3, subInPort, outPort⟩ _)⟩
    · exact ⟨_, rfl, hnode.trans (linkParallel_extends id _)⟩

theorem createIsiLinks_unsupported {id : Nat} (hid : id < mxcIsiMaxDevs)
    {interface : IsiInterface} (hisi : mxcIsi tree id = some interface)
    (h : ¬Supported interface) (g : Graph) :
    ∃ g' e new, createIsiLinks tree id g = (g', .error e) ∧
      Extends ArrayEntry.inBounds g g' new ∧ ∀ l ∈ new, l.source.entity = .isi id := by
  have haccess : Extends ArrayEntry.inBounds g (access (.mxcIsi id) g) [] := extends_access hid
  obtain ⟨inPort, subInPort, outPort⟩ := interface
  unfold createIsiLinks
  rw [hisi]
  dsimp only
  by_cases hout : outPort ≤ 2
  · obtain ⟨pad, hpad⟩ := isiSourcePad_some hout
    rw [hpad]
    have hnode := extends_vdev hid pad g
    have hin : ¬(inPort = 2 ∨ inPort = 3 ∨ inPort = 6) := fun hin => h ⟨hout, hin⟩
    refine ⟨_, .einval, _, ?_, hnode, ?_⟩
    · dsimp only
      split
      · exact absurd (.inl rfl) hin
      · exact absurd (.inr (.inl rfl)) hin
      · exact absurd (.inr (.inr rfl)) hin
      · rfl
    · rintro l hl
      obtain rfl := List.mem_singleton.mp hl
      rfl
  · rw [isiSourcePad_none hout]
    exact ⟨_, .einval, [], rfl, haccess, fun l hl => absurd hl List.not_mem_nil⟩

def sourceBase : Entity → Nat
  | .csi _ => mxcMipiCsi2Vc0PadSource
  | _ => mxcParallelCsiPadSource

theorem feedLinks_mem {id : Nat} {interface : IsiInterface} {l : Link}
    (hl : l ∈ feedLinks tree id interface) :
    feedEntity tree interface = some l.source.entity ∧
      l.source.index = sourceBase l.source.entity + feedChannel interface ∧
      l.sink.entity = .isi id := by
  obtain ⟨inPort, subInPort, outPort⟩ := interface
  unfold feedLinks at hl
  dsimp only at hl
  split at hl
  · unfold feedLinks.mipiLinks at hl
    split at hl
    · exact absurd hl List.not_mem_nil
    · obtain rfl := List.mem_singleton.mp hl
      exact ⟨rfl, rfl, rfl⟩
  · unfold feedLinks.mipiLinks at hl
    split at hl
    · exact absurd hl List.not_mem_nil
    · obtain rfl := List.mem_singleton.mp hl
      exact ⟨rfl, rfl, rfl⟩
  · split at hl
    · exact absurd hl List.not_mem_nil
    · rename_i dev hname
      obtain rfl := List.mem_singleton.mp hl
      refine ⟨?_, rfl, rfl⟩
      unfold feedEntity
      rw [hname]
      rfl
  · exact absurd hl List.not_mem_nil

theorem exists_feedLinks {interface : IsiInterface} {e : Entity}
    (he : feedEntity tree interface = some e)
    (hcsi : ∀ k, e = .csi k → mipiCsi2 tree k ≠ none) (id : Nat) :
    ∃ l ∈ feedLinks tree id interface, l.source = ⟨e, sourceBase e + feedChannel interface⟩ ∧
      l.sink.entity = .isi id := by
  obtain ⟨inPort, subInPort, outPort⟩ := interface
  unfold feedEntity at he
  unfold feedLinks
  dsimp only at he ⊢
  split at he
  · obtain rfl := Option.some.inj he
    obtain ⟨vchannel, hv⟩ := Option.ne_none_iff_exists'.mp (hcsi 0 rfl)
    unfold feedLinks.mipiLinks
    rw [hv]
    exact ⟨_, List.mem_singleton.mpr rfl, rfl, rfl⟩
  · obtain rfl := Option.some.inj he
    obtain ⟨vchannel, hv⟩ := Option.ne_none_iff_exists'.mp (hcsi 1 rfl)
    unfold feedLinks.mipiLinks
    rw [hv]
    exact ⟨_, List.mem_singleton.mpr rfl, rfl, rfl⟩
  · obtain ⟨dev, hname, rfl⟩ := Option.map_eq_some_iff.mp he
    rw [hname]
    exact ⟨_, List.mem_singleton.mpr rfl, rfl, rfl⟩
  · exact absurd he nofun

theorem mem_isiLinks {id : Nat} {l : Link} (hl : l ∈ isiLinks tree id) :
    ∃ interface, (id, interface) ∈ tree.isis ∧
      ((l.source.entity = .isi id ∧ l.sink.entity = .vdev id) ∨
        l ∈ feedLinks tree id interface) := by
  unfold isiLinks at hl
  rcases hisi : mxcIsi tree id with _ | interface
  · rw [hisi] at hl
    exact absurd hl List.not_mem_nil
  · rw [hisi] at hl
    refine ⟨interface, mxcIsi_iff.mp hisi, ?_⟩
    rcases List.mem_append.mp hl with hl | hl
    · obtain ⟨pad, -, rfl⟩ := List.mem_map.mp hl
      exact .inl ⟨rfl, rfl⟩
    · exact .inr hl

theorem isiLinks_source {id : Nat} {l : Link} (hl : l ∈ isiLinks tree id) (i : Nat) :
    l.source.entity ≠ .sensor i := by
  obtain ⟨interface, -, ⟨hsource, -⟩ | hfeed⟩ := mem_isiLinks hl
  · rw [hsource]
    exact nofun
  · intro hsensor
    have hentity := (feedLinks_mem hfeed).1
    rw [hsensor] at hentity
    unfold feedEntity at hentity
    split at hentity
    · exact absurd hentity nofun
    · exact absurd hentity nofun
    · obtain ⟨dev, -, hdev⟩ := Option.map_eq_some_iff.mp hentity
      exact absurd hdev nofun
    · exact absurd hentity nofun

/-- The first loop of `mxc_md_create_links`, over channels whose interfaces are known. -/
theorem isiLoop_supported {ids : List Nat} (hids : ∀ id ∈ ids, id < mxcIsiMaxDevs)
    (h : ∀ id ∈ ids, ∀ interface, mxcIsi tree id = some interface → Supported interface)
    (g : Graph) : ∃ g', untilError (createIsiLinks tree) ids g = (g', .ok ()) ∧
      Extends ArrayEntry.inBounds g g' (ids.flatMap (isiLinks tree)) := by
  induction ids generalizing g with
  | nil => exact ⟨g, rfl, Extends.refl⟩
  | cons id ids ih =>
      obtain ⟨g₁, hrun, hext⟩ := createIsiLinks_supported (hids id List.mem_cons_self)
        (h id List.mem_cons_self) g
      obtain ⟨g₂, hrest, hext'⟩ := ih (fun id' hid => hids id' (List.mem_cons_of_mem id hid))
        (fun id' hid => h id' (List.mem_cons_of_mem id hid)) g₁
      refine ⟨g₂, ?_, hext.trans hext'⟩
      unfold untilError
      rw [hrun]
      exact hrest

/-- The first loop of `mxc_md_create_links`, with a channel whose interface is not known. -/
theorem isiLoop_unsupported {ids : List Nat} (hids : ∀ id ∈ ids, id < mxcIsiMaxDevs)
    (h : ∃ id ∈ ids, ∃ interface, mxcIsi tree id = some interface ∧ ¬Supported interface)
    (g : Graph) : ∃ g' e new, untilError (createIsiLinks tree) ids g = (g', .error e) ∧
      Extends ArrayEntry.inBounds g g' new ∧ ∀ l ∈ new, ∀ i, l.source.entity ≠ .sensor i := by
  induction ids generalizing g with
  | nil =>
      obtain ⟨id, hid, -⟩ := h
      exact absurd hid List.not_mem_nil
  | cons id ids ih =>
      by_cases hfirst : ∀ interface, mxcIsi tree id = some interface → Supported interface
      · obtain ⟨g₁, hrun, hext⟩ := createIsiLinks_supported (hids id List.mem_cons_self) hfirst g
        obtain ⟨id', hid', interface, hisi, hbad⟩ := h
        have hrest : id' ∈ ids := by
          rcases List.mem_cons.mp hid' with rfl | hmem
          · exact absurd (hfirst interface hisi) hbad
          · exact hmem
        obtain ⟨g₂, e, new, hloop, hext', hnew⟩ :=
          ih (fun id hid => hids id (List.mem_cons_of_mem _ hid))
            ⟨id', hrest, interface, hisi, hbad⟩ g₁
        refine ⟨g₂, e, isiLinks tree id ++ new, ?_, hext.trans hext', fun l hl => ?_⟩
        · unfold untilError
          rw [hrun]
          exact hloop
        · rcases List.mem_append.mp hl with hl | hl
          · exact isiLinks_source hl
          · exact hnew l hl
      · simp only [not_forall] at hfirst
        obtain ⟨interface, hisi, hbad⟩ := hfirst
        obtain ⟨g₁, e, new, hrun, hext, hnew⟩ :=
          createIsiLinks_unsupported (hids id List.mem_cons_self) hisi hbad g
        refine ⟨g₁, e, new, ?_, hext, fun l hl i => ?_⟩
        · unfold untilError
          rw [hrun]
        · rw [hnew l hl]
          exact nofun

/-- One turn of the second loop, with the entries it accesses. -/
theorem createSensorLinks_extends {entries : ArrayEntry → Prop} {t : SensorTable} {i : Nat}
    (hsensor : entries (.sensor i))
    (hmipi : (t.sensor i).sd = true → (tree.parallelCsi && !(t.sensor i).mipiMode) = false →
      entries (.mipiCsi2 (t.sensor i).id)) (g : Graph) :
    Extends entries g (createSensorLinks tree t g i) (sensorLinks tree t i) := by
  have haccess : Extends entries g (access (.sensor i) g) [] := extends_access hsensor
  unfold createSensorLinks sensorLinks
  dsimp only
  rcases hsd : (t.sensor i).sd with _ | _
  · exact haccess
  · simp only [Bool.not_true, Bool.false_eq_true, Bool.true_eq_false, if_false]
    rcases hparallel : (tree.parallelCsi && !(t.sensor i).mipiMode) with _ | _
    · simp only [Bool.false_eq_true, if_false]
      have hboth : Extends entries g
          (access (.mipiCsi2 (t.sensor i).id) (access (.sensor i) g)) [] :=
        haccess.trans (extends_access (hmipi hsd hparallel))
      rcases mipiCsi2 tree (t.sensor i).id with _ | vchannel
      · exact hboth
      · have hturn : ∀ j ∈ List.range (mipiVc vchannel), ∀ g, Extends entries g
            (mediaCreatePadLink ⟨.sensor i, j⟩ ⟨.csi (t.sensor i).id, j⟩ g)
            [⟨⟨.sensor i, j⟩, ⟨.csi (t.sensor i).id, j⟩⟩] := fun j _ g => extends_link _ _
        have hloop := extends_foldl (List.range (mipiVc vchannel)) hturn
          (access (.mipiCsi2 (t.sensor i).id) (access (.sensor i) g))
        rw [← List.map_eq_flatMap] at hloop
        exact hboth.trans hloop
    · simp only [if_true]
      rcases hname : pcsiByName tree with _ | dev
      · cases pcsidevSd tree <;> exact haccess
      · obtain ⟨last, hlast⟩ := @pcsidevSd_some tree
          (by rw [hname]; exact Option.some_ne_none dev)
        rw [hlast]
        exact haccess.trans (extends_link _ _)

theorem sensorLinks_source {t : SensorTable} {i : Nat} {l : Link}
    (hl : l ∈ sensorLinks tree t i) : l.source.entity = .sensor i := by
  unfold sensorLinks at hl
  split_ifs at hl
  · exact absurd hl List.not_mem_nil
  · split at hl
    · exact absurd hl List.not_mem_nil
    · obtain rfl := List.mem_singleton.mp hl
      rfl
  · split at hl
    · exact absurd hl List.not_mem_nil
    · obtain ⟨j, -, rfl⟩ := List.mem_map.mp hl
      rfl

def graphLinks (tree : DeviceTree) (bound : Nat → Bool) (t : SensorTable) : List Link :=
  (List.range mxcIsiMaxDevs).flatMap (isiLinks tree) ++
    (List.range t.numSensors).flatMap (sensorLinks tree (bindSensors bound t))

/-- The graph of a tree whose interfaces are known, with the entries it accesses. -/
theorem linked_supported {entries : ArrayEntry → Prop} {bound : Nat → Bool} {t : SensorTable}
    (hsupported : ∀ isi ∈ tree.isis, Supported isi.2)
    (hisi : ∀ entry : ArrayEntry, entry.inBounds → entries entry)
    (hsensor : ∀ i < t.numSensors, entries (.sensor i))
    (hmipi : ∀ i < t.numSensors, ((bindSensors bound t).sensor i).sd = true →
      (tree.parallelCsi && !((bindSensors bound t).sensor i).mipiMode) = false →
      entries (.mipiCsi2 ((bindSensors bound t).sensor i).id)) :
    ∃ g, linked tree bound t = (g, .ok ()) ∧
      Extends entries emptyGraph g (graphLinks tree bound t) := by
  obtain ⟨g₁, hrun, hext⟩ := @isiLoop_supported tree (List.range mxcIsiMaxDevs)
    (fun id hid => List.mem_range.mp hid)
    (fun id _ interface h => hsupported (id, interface) (mxcIsi_iff.mp h)) emptyGraph
  have hturn : ∀ i ∈ List.range t.numSensors, ∀ g, Extends entries g
      (createSensorLinks tree (bindSensors bound t) g i)
      (sensorLinks tree (bindSensors bound t) i) := by
    intro i hi g
    have hlt := List.mem_range.mp hi
    exact createSensorLinks_extends (hsensor i hlt) (hmipi i hlt) g
  refine ⟨_, ?_, (hext.mono hisi).trans (extends_foldl (List.range t.numSensors) hturn g₁)⟩
  unfold linked mxcMdCreateLinks
  rw [hrun]
  rfl

/-- The graph of a tree with an interface that is not known has no link of a sensor. -/
theorem linked_unsupported (bound : Nat → Bool) (t : SensorTable)
    (h : ¬∀ isi ∈ tree.isis, Supported isi.2) :
    ∃ g e, linked tree bound t = (g, .error e) ∧
      (∀ entry ∈ g.accesses, entry.inBounds) ∧ g.removed = [] ∧
      ∀ l ∈ g.links, ∀ i, l.source.entity ≠ .sensor i := by
  simp only [not_forall] at h
  obtain ⟨⟨id, interface⟩, hmem, hbad⟩ := h
  obtain ⟨g, e, new, hrun, hext, hnew⟩ := @isiLoop_unsupported tree (List.range mxcIsiMaxDevs)
    (fun id hid => List.mem_range.mp hid)
    ⟨id, List.mem_range.mpr (tree.isi_lt _ hmem), interface, mxcIsi_iff.mpr hmem, hbad⟩
    emptyGraph
  refine ⟨g, e, ?_, ?_, hext.removed, ?_⟩
  · unfold linked mxcMdCreateLinks
    rw [hrun]
  · intro entry hentry
    exact (hext.accesses entry hentry).resolve_left List.not_mem_nil
  · rw [hext.links]
    exact hnew

end Links

section Numbering

variable {tree : DeviceTree} {bound : Nat → Bool} {t : SensorTable}

theorem lt_numSensors_iff (ht : Tabled tree.receivers t) {i : Nat} :
    i < t.numSensors ↔ ∃ node, nodeAt tree i = some node := by
  rw [ht.numSensors]
  unfold nodeAt
  rw [← Option.isSome_iff_exists]
  simp

theorem bindSensors_of_nodeAt (ht : Tabled tree.receivers t) {i : Nat} {node : ReceiverNode}
    (h : nodeAt tree i = some node) :
    (bindSensors bound t).sensor i = { t.sensor i with sd := bound i } :=
  if_pos ((lt_numSensors_iff ht).mpr ⟨node, h⟩)

/-- The accesses of the table are those that `Numbered.room` bounds. -/
theorem entries_iff (ht : Tabled tree.receivers t) :
    (∀ i ∈ t.accesses, i < mxcMaxSensors) ↔
      ∀ a node b, tree.receivers = a ++ node :: b → isVisited node = true →
        (registered a).length < mxcMaxSensors := by
  constructor
  · intro h a node b hsplit hnode
    exact h _ ((ht.accesses _).mpr ⟨a, node, b, hsplit, hnode, rfl⟩)
  · intro h i hi
    obtain ⟨a, node, b, hsplit, hnode, rfl⟩ := (ht.accesses i).mp hi
    exact h a node b hsplit hnode

/-- The modes of the entries are right when no `pcsi` node takes over a stale one. -/
theorem modes_iff (ht : Tabled tree.receivers t) :
    (∀ i node, nodeAt tree i = some node →
        ((t.sensor i).mipiMode = true ↔ node.receiver.isCsi = true)) ↔
      ∀ a node b, tree.receivers = a ++ node :: b → isRegistered node = true →
        node.receiver.isCsi = false → ¬Stale a := by
  constructor
  · intro h a node b hsplit hnode hpcsi hstale
    have hmode := h _ node (nodeAt_iff.mpr ⟨a, b, hsplit, hnode, rfl⟩)
    rw [(ht.entry a node b hsplit hnode).2, hpcsi] at hmode
    exact absurd (hmode.mp (.inr hstale)) Bool.false_ne_true
  · intro h i node hnode
    obtain ⟨a, b, hsplit, hnew, rfl⟩ := nodeAt_iff.mp hnode
    rw [(ht.entry a node b hsplit hnew).2, or_iff_left_iff_imp]
    intro hstale
    by_contra hpcsi
    exact h a node b hsplit hnew (Bool.eq_false_of_not_eq_true hpcsi) hstale

theorem id_of_nodeAt (ht : Tabled tree.receivers t) {i : Nat} {node : ReceiverNode}
    (h : nodeAt tree i = some node) : (t.sensor i).id = portOf node := by
  obtain ⟨a, b, hsplit, hnew, rfl⟩ := nodeAt_iff.mp h
  exact (ht.entry a node b hsplit hnew).1

theorem id_of_csi (ht : Tabled tree.receivers t) {i id : Nat} {vchannel : Bool}
    {node : ReceiverNode} (h : nodeAt tree i = some node)
    (hnode : node.receiver = .csi id vchannel) :
    (t.sensor i).id = id ∧ id < mxcMipiCsi2MaxDevs := by
  obtain ⟨hmem, hnew⟩ := nodeAt_mem h
  obtain ⟨hlt, hport⟩ := tree.csi_id node hmem id vchannel hnode
  exact ⟨(id_of_nodeAt ht h).trans (hport (isVisited_of_registered hnew)), hlt⟩

theorem graphLinks_sensor_iff {i : Nat} {l : Link} (hi : i < t.numSensors)
    (hl : l.source.entity = .sensor i) :
    l ∈ graphLinks tree bound t ↔ l ∈ sensorLinks tree (bindSensors bound t) i := by
  unfold graphLinks
  rw [List.mem_append, List.mem_flatMap, List.mem_flatMap]
  constructor
  · rintro (⟨id, -, hmem⟩ | ⟨j, -, hmem⟩)
    · exact absurd hl (isiLinks_source hmem i)
    · obtain rfl := Entity.sensor.inj ((sensorLinks_source hmem).symm.trans hl)
      exact hmem
  · intro hmem
    exact .inr ⟨i, List.mem_range.mpr hi, hmem⟩

theorem sensorLinks_csi (ht : Tabled tree.receivers t) {i id : Nat} {vchannel : Bool}
    {node : ReceiverNode} (h : nodeAt tree i = some node) (hbound : bound i = true)
    (hnode : node.receiver = .csi id vchannel) (hmode : (t.sensor i).mipiMode = true) :
    sensorLinks tree (bindSensors bound t) i =
      (List.range (mipiVc vchannel)).map fun j => ⟨⟨.sensor i, j⟩, ⟨.csi id, j⟩⟩ := by
  unfold sensorLinks
  rw [bindSensors_of_nodeAt ht h]
  dsimp only
  rw [hbound, hmode, (id_of_csi ht h hnode).1, mipiCsi2_of_mem (nodeAt_mem h).1 hnode]
  simp

theorem sensorLinks_pcsi (ht : Tabled tree.receivers t) {i dev : Nat}
    {node : ReceiverNode} (h : nodeAt tree i = some node) (hbound : bound i = true)
    (hmode : (t.sensor i).mipiMode = false) (hparallel : tree.parallelCsi = true)
    (hname : pcsiByName tree = some dev) :
    sensorLinks tree (bindSensors bound t) i =
      [⟨⟨.sensor i, 0⟩, ⟨.pcsi dev, mxcParallelCsiPadSink⟩⟩] := by
  unfold sensorLinks
  rw [bindSensors_of_nodeAt ht h]
  dsimp only
  rw [hbound, hmode, hparallel, hname]
  simp

/-- The sinks of the links of a bound sensor, where the numberings agree. -/
theorem sensorLinks_sinks (ht : Tabled tree.receivers t) (hn : Numbered tree bound) {i : Nat}
    {node : ReceiverNode} (h : nodeAt tree i = some node) (hbound : bound i = true)
    (e : Entity) :
    (∃ l ∈ sensorLinks tree (bindSensors bound t) i,
        l.source.entity = .sensor i ∧ l.sink.entity = e) ↔ e = entityOf node.receiver := by
  have hmode := (modes_iff ht).mpr hn.fresh i node h
  rcases hreceiver : node.receiver with ⟨id, vchannel⟩ | dev
  · rw [sensorLinks_csi ht h hbound hreceiver (hmode.mpr (by rw [hreceiver]; rfl))]
    constructor
    · rintro ⟨l, hl, -, rfl⟩
      obtain ⟨j, -, rfl⟩ := List.mem_map.mp hl
      rfl
    · rintro rfl
      have hzero : 0 ∈ List.range (mipiVc vchannel) := by cases vchannel <;> decide
      exact ⟨_, List.mem_map.mpr ⟨0, hzero, rfl⟩, rfl, rfl⟩
  · obtain ⟨hparallel, hname⟩ := hn.parallel i node dev h hbound hreceiver
    have hpcsi : (t.sensor i).mipiMode = false := by
      rw [hreceiver] at hmode
      exact Bool.eq_false_of_not_eq_true fun hset => Bool.false_ne_true (hmode.mp hset)
    rw [sensorLinks_pcsi ht h hbound hpcsi hparallel hname]
    constructor
    · rintro ⟨l, hl, -, rfl⟩
      obtain rfl := List.mem_singleton.mp hl
      rfl
    · rintro rfl
      exact ⟨_, List.mem_singleton.mpr rfl, rfl, rfl⟩

theorem parallel_of_sensorLinks {i dev : Nat} {l : Link}
    (hl : l ∈ sensorLinks tree (bindSensors bound t) i)
    (hsink : l.sink.entity = .pcsi dev) :
    tree.parallelCsi = true ∧ pcsiByName tree = some dev := by
  unfold sensorLinks at hl
  split_ifs at hl with hsd hparallel
  · exact absurd hl List.not_mem_nil
  · refine ⟨((Bool.and_eq_true _ _).mp hparallel).1, ?_⟩
    split at hl
    · exact absurd hl List.not_mem_nil
    · rename_i dev' hname
      obtain rfl := List.mem_singleton.mp hl
      rw [hname, Entity.pcsi.inj hsink]
  · split at hl
    · exact absurd hl List.not_mem_nil
    · obtain ⟨j, -, rfl⟩ := List.mem_map.mp hl
      exact absurd hsink nofun

theorem numSensors_le (ht : Tabled tree.receivers t) (hn : Numbered tree bound) :
    t.numSensors ≤ mxcMaxSensors := by
  by_contra hlt
  obtain ⟨node, h⟩ := (lt_numSensors_iff ht).mp (Nat.lt_of_not_le hlt)
  obtain ⟨a, b, hsplit, hnew, hi⟩ := nodeAt_iff.mp h
  have hroom := hn.room a node b hsplit (isVisited_of_registered hnew)
  omega

theorem linked_numbered (ht : Tabled tree.receivers t) (hn : Numbered tree bound)
    (hsupported : ∀ isi ∈ tree.isis, Supported isi.2) :
    ∃ g, linked tree bound t = (g, .ok ()) ∧
      Extends ArrayEntry.inBounds emptyGraph g (graphLinks tree bound t) := by
  refine linked_supported hsupported (fun _ h => h) ?_ ?_
  · intro i hi
    exact Nat.lt_of_lt_of_le hi (numSensors_le ht hn)
  · intro i hi hsd hmode
    obtain ⟨node, h⟩ := (lt_numSensors_iff ht).mp hi
    rw [bindSensors_of_nodeAt ht h] at hsd hmode ⊢
    dsimp only at hsd hmode ⊢
    rcases hreceiver : node.receiver with ⟨id, vchannel⟩ | dev
    · obtain ⟨hid, hlt⟩ := id_of_csi ht h hreceiver
      rw [hid]
      exact hlt
    · have hright := (modes_iff ht).mpr hn.fresh i node h
      rw [(hn.parallel i node dev h hsd hreceiver).1, Bool.true_and,
        Bool.not_eq_false'] at hmode
      rw [hreceiver] at hright
      exact absurd (hright.mp hmode) Bool.false_ne_true

theorem linkedRight_of_numbered (ht : Tabled tree.receivers t) (hn : Numbered tree bound) :
    LinkedRight tree bound t where
  entries := (entries_iff ht).mpr hn.room
  modes := (modes_iff ht).mpr hn.fresh
  accesses := by
    by_cases hsupported : ∀ isi ∈ tree.isis, Supported isi.2
    · obtain ⟨g, hrun, hext⟩ := linked_numbered ht hn hsupported
      rw [hrun]
      exact fun entry hentry => (hext.accesses entry hentry).resolve_left List.not_mem_nil
    · obtain ⟨g, e, hrun, haccesses, -⟩ := linked_unsupported bound t hsupported
      rw [hrun]
      exact haccesses
  links := fun i node h hbound e => by
    obtain ⟨g, hrun, hext⟩ := linked_numbered ht hn (hn.supported i node h hbound)
    have hi := (lt_numSensors_iff ht).mpr ⟨node, h⟩
    rw [hrun, hext.links, ← sensorLinks_sinks ht hn h hbound e]
    constructor
    · rintro ⟨l, hl, hsource, hsink⟩
      exact ⟨l, (graphLinks_sensor_iff hi hsource).mp hl, hsource, hsink⟩
    · rintro ⟨l, hl, hsource, hsink⟩
      exact ⟨l, (graphLinks_sensor_iff hi hsource).mpr hl, hsource, hsink⟩

theorem numbered_of_linkedRight (ht : Tabled tree.receivers t)
    (hr : LinkedRight tree bound t) : Numbered tree bound := by
  have hsupported : ∀ i node, nodeAt tree i = some node → bound i = true →
      ∀ isi ∈ tree.isis, Supported isi.2 := by
    intro i node h hbound
    by_contra hbad
    obtain ⟨g, e, hrun, -, -, hnone⟩ := linked_unsupported bound t hbad
    obtain ⟨l, hl, hsource, -⟩ := (hr.links i node h hbound _).mpr rfl
    rw [hrun] at hl
    exact hnone l hl i hsource
  refine ⟨(entries_iff ht).mp hr.entries, (modes_iff ht).mp hr.modes, hsupported, ?_⟩
  intro i node dev h hbound hreceiver
  obtain ⟨g, hrun, hext⟩ := @linked_supported tree (fun _ => True) bound t
    (hsupported i node h hbound) (fun _ _ => trivial) (fun _ _ => trivial)
    (fun _ _ _ _ => trivial)
  obtain ⟨l, hl, hsource, hsink⟩ := (hr.links i node h hbound (.pcsi dev)).mpr
    (by rw [hreceiver]; rfl)
  rw [hrun, hext.links] at hl
  have hi := (lt_numSensors_iff ht).mpr ⟨node, h⟩
  exact parallel_of_sensorLinks ((graphLinks_sensor_iff hi hsource).mp hl) hsink

end Numbering

end CameraPorting.MediaDev.SensorNumbering
