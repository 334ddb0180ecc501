import CameraPorting.MediaDev.ChannelCleaning
import CameraPorting.Isi.ChannelSharing
import Mathlib.Logic.Relation

namespace CameraPorting.MediaDev.CameraPaths

open CameraPorting.Kernel.Media
open CameraPorting.Library.Runs
open CameraPorting.MediaDev.SensorRegistration
open CameraPorting.MediaDev.MediaGraph
open CameraPorting.MediaDev.SensorNumbering
open CameraPorting.MediaDev.ChannelCleaning
open CameraPorting.Isi.ChannelSharing

def sinkPads : Entity → List Nat
  | .isi _ => [0, 1, 2, 3, 4, 5, 6, 7, 8, 9, 10, 11, mxcIsiSdPadSinkParallelCsi]
  | .csi _ => [0, 1, 2, 3]
  | .pcsi _ => [mxcParallelCsiPadSink]
  | .vdev _ => [0]
  | .sensor _ => []

/-- `mxc_isi_get_remote_source_pad`, and `csis_get_remote_sensor_pad`, which is the same. -/
def mxcIsiGetRemoteSourcePad (links : List Link) (e : Entity) : Option Pad :=
  (sinkPads e).findSome? fun i => mediaEntityRemotePad links ⟨e, i⟩

def mxcGetRemoteSubdev (links : List Link) (e : Entity) : Option Entity :=
  (mxcIsiGetRemoteSourcePad links e).map Pad.entity

def numLinks (links : List Link) (e : Entity) : Nat := links.countP fun l => l.touches e

def mediaLinks (links : List Link) (id : Nat) : MediaLinks where
  vdevNumLinks := numLinks links (.vdev id)
  sdNumLinks := numLinks links (.isi id)
  remote := (mxcGetRemoteSubdev links (.isi id)).map fun csi =>
    { numLinks := numLinks links csi
      remote := (mxcGetRemoteSubdev links csi).map (numLinks links) }

/-- A link ends at a sink pad of the entity. -/
def EndsAt (l : Link) (x y : Entity) : Prop :=
  ∃ p ∈ sinkPads x, (l.source = ⟨x, p⟩ ∧ l.sink.entity = y) ∨
    (l.sink = ⟨x, p⟩ ∧ l.source.entity = y)

theorem remotePad_cases {links : List Link} {pad pad' : Pad}
    (h : mediaEntityRemotePad links pad = some pad') :
    ∃ l ∈ links, (l.source = pad ∧ l.sink = pad') ∨ (l.sink = pad ∧ l.source = pad') := by
  unfold mediaEntityRemotePad at h
  obtain ⟨l, hfind, hpad⟩ := Option.map_eq_some_iff.mp h
  refine ⟨l, List.mem_of_find?_eq_some hfind, ?_⟩
  have hends := List.find?_some hfind
  simp only [Bool.or_eq_true, decide_eq_true_eq] at hends
  by_cases hsource : l.source = pad
  · rw [if_pos hsource] at hpad
    exact .inl ⟨hsource, hpad⟩
  · rw [if_neg hsource] at hpad
    exact .inr ⟨hends.resolve_left hsource, hpad⟩

theorem remotePad_isSome {links : List Link} {l : Link} (hl : l ∈ links) :
    ∃ pad, mediaEntityRemotePad links l.sink = some pad := by
  unfold mediaEntityRemotePad
  rcases hfind : links.find? _ with _ | l'
  · have hnone := List.find?_eq_none.mp hfind l hl
    simp at hnone
  · exact ⟨_, rfl⟩

theorem endsAt_of_remote {links : List Link} {x y : Entity}
    (h : mxcGetRemoteSubdev links x = some y) : ∃ l ∈ links, EndsAt l x y := by
  obtain ⟨pad, hpad, rfl⟩ := Option.map_eq_some_iff.mp h
  obtain ⟨p, hp, hremote⟩ := List.exists_of_findSome?_eq_some hpad
  obtain ⟨l, hl, ⟨hsource, hsink⟩ | ⟨hsink, hsource⟩⟩ := remotePad_cases hremote
  · exact ⟨l, hl, p, hp, .inl ⟨hsource, congrArg Pad.entity hsink⟩⟩
  · exact ⟨l, hl, p, hp, .inr ⟨hsink, congrArg Pad.entity hsource⟩⟩

/-- Where all links at the sink pads come from one entity, and there is one, the driver
finds this entity. -/
theorem remote_of_endsAt {links : List Link} {x y : Entity}
    (hall : ∀ l ∈ links, ∀ z, EndsAt l x z → z = y) {l : Link} (hl : l ∈ links)
    (hsink : l.sink.entity = x) (hpad : l.sink.index ∈ sinkPads x) :
    mxcGetRemoteSubdev links x = some y := by
  have hsome : ∃ pad, mxcIsiGetRemoteSourcePad links x = some pad := by
    rw [← Option.isSome_iff_exists]
    unfold mxcIsiGetRemoteSourcePad
    rw [List.findSome?_isSome_iff]
    obtain ⟨pad, hremote⟩ := remotePad_isSome hl
    refine ⟨l.sink.index, hpad, ?_⟩
    have hpad' : (⟨x, l.sink.index⟩ : Pad) = l.sink := by rw [← hsink]
    rw [hpad', hremote]
    rfl
  obtain ⟨pad, hfound⟩ := hsome
  have hremote : mxcGetRemoteSubdev links x = some pad.entity := by
    unfold mxcGetRemoteSubdev
    rw [hfound]
    rfl
  obtain ⟨l', hl', hends⟩ := endsAt_of_remote hremote
  rw [hremote, hall l' hl' _ hends]

/-- The links of the device tree: from a channel to its node, from a receiver to a channel,
and from a sensor to its receiver. -/
inductive TreeLink (tree : DeviceTree) (bound : Nat → Bool) : Link → Prop
  | node {id pad : Nat} (hpad : pad ∉ sinkPads (.isi id)) :
      TreeLink tree bound ⟨⟨.isi id, pad⟩, ⟨.vdev id, 0⟩⟩
  | feed {receiver : Receiver} {id channel pad : Nat}
      (hfeed : FedBy tree (entityOf receiver) id channel) (hpad : pad ∈ sinkPads (.isi id)) :
      TreeLink tree bound
        ⟨⟨entityOf receiver, sourceBase (entityOf receiver) + channel⟩, ⟨.isi id, pad⟩⟩
  | sensor {i j pad : Nat} {node : ReceiverNode} (hnode : nodeAt tree i = some node)
      (hbound : bound i = true) (hpad : pad ∈ sinkPads (entityOf node.receiver)) :
      TreeLink tree bound ⟨⟨.sensor i, j⟩, ⟨entityOf node.receiver, pad⟩⟩

section Links

variable {tree : DeviceTree} {bound : Nat → Bool} {t : SensorTable}

theorem virtualChannel_le (subInPort : Nat) : virtualChannel subInPort ≤ 3 := by
  unfold virtualChannel
  split <;> omega

theorem isiSourcePad_not_sink {outPort pad : Nat} (h : isiSourcePad outPort = some pad)
    (id : Nat) : pad ∉ sinkPads (.isi id) := by
  have hpad : 12 ≤ pad ∧ pad ≤ 14 := by
    unfold isiSourcePad at h
    split at h
    · obtain rfl := Option.some.inj h
      decide
    · obtain rfl := Option.some.inj h
      decide
    · obtain rfl := Option.some.inj h
      decide
    · exact absurd h (by simp)
  intro hmem
  simp only [sinkPads, mxcIsiSdPadSinkParallelCsi, List.mem_cons, List.not_mem_nil,
    or_false] at hmem
  omega

theorem treeLink_of_feed {id : Nat} {interface : IsiInterface}
    (hmem : (id, interface) ∈ tree.isis) {l : Link} (hl : l ∈ feedLinks tree id interface) :
    TreeLink tree bound l := by
  have hchannel := virtualChannel_le interface.subInPort
  have hmipi : ∀ csi sinkVc0, l ∈ feedLinks.mipiLinks tree id interface csi sinkVc0 →
      feedEntity tree interface = some (.csi csi) → interface.inPort ≠ 6 →
      sinkVc0 = mxcIsiSdPadSinkMipi0Vc0 ∨ sinkVc0 = mxcIsiSdPadSinkMipi1Vc0 →
      TreeLink tree bound l := by
    intro csi sinkVc0 hl hfeed hport hsink
    unfold feedLinks.mipiLinks at hl
    split at hl
    · exact absurd hl List.not_mem_nil
    · obtain rfl := List.mem_singleton.mp hl
      have hfed : FedBy tree (.csi csi) id (virtualChannel interface.subInPort) :=
        ⟨interface, hmem, hfeed, if_neg hport⟩
      refine @TreeLink.feed tree bound (.csi csi false) _ _ _ hfed ?_
      simp only [sinkPads, List.mem_cons, List.not_mem_nil]
      unfold mxcIsiSdPadSinkMipi0Vc0 mxcIsiSdPadSinkMipi1Vc0 at hsink
      omega
  obtain ⟨inPort, subInPort, outPort⟩ := interface
  unfold feedLinks at hl
  dsimp only at hl
  split at hl
  · exact hmipi 0 _ hl rfl (by simp) (.inl rfl)
  · exact hmipi 1 _ hl rfl (by simp) (.inr rfl)
  · split at hl
    · exact absurd hl List.not_mem_nil
    · rename_i dev hname
      obtain rfl := List.mem_singleton.mp hl
      have hfed : FedBy tree (.pcsi dev) id 0 := by
        refine ⟨_, hmem, ?_, rfl⟩
        unfold feedEntity
        rw [hname]
        rfl
      exact @TreeLink.feed tree bound (.pcsi dev) _ _ _ hfed (by simp [sinkPads])
  · exact absurd hl List.not_mem_nil

theorem treeLink_of_sensor (ht : Tabled tree.receivers t) (hn : Numbered tree bound) {i : Nat}
    (hi : i < t.numSensors) {l : Link} (hl : l ∈ sensorLinks tree (bindSensors bound t) i) :
    TreeLink tree bound l := by
  obtain ⟨node, h⟩ := (lt_numSensors_iff ht).mp hi
  have hbound := sensorLinks_sd hl
  rw [bindSensors_of_nodeAt ht h] at hbound
  change bound i = true at hbound
  have hmode := (modes_iff ht).mpr hn.fresh i node h
  rcases hreceiver : node.receiver with ⟨id, vchannel⟩ | dev
  · rw [sensorLinks_csi ht h hbound hreceiver (hmode.mpr (by rw [hreceiver]; rfl))] at hl
    obtain ⟨j, hj, rfl⟩ := List.mem_map.mp hl
    have hsink := @TreeLink.sensor tree bound i j j node h hbound
    rw [hreceiver] at hsink
    refine hsink ?_
    have hlt : j < 4 := by
      have hrange := List.mem_range.mp hj
      cases vchannel with
      | false => exact Nat.lt_trans hrange (by decide)
      | true => exact hrange
    simp only [entityOf, sinkPads, List.mem_cons, List.not_mem_nil]
    omega
  · obtain ⟨hparallel, hname⟩ := hn.parallel i node dev h hbound hreceiver
    have hpcsi : (t.sensor i).mipiMode = false := by
      rw [hreceiver] at hmode
      exact Bool.eq_false_of_not_eq_true fun hset => Bool.false_ne_true (hmode.mp hset)
    rw [sensorLinks_pcsi ht h hbound hpcsi hparallel hname] at hl
    obtain rfl := List.mem_singleton.mp hl
    have hsink := @TreeLink.sensor tree bound i 0 mxcParallelCsiPadSink node h hbound
    rw [hreceiver] at hsink
    exact hsink (List.mem_singleton.mpr rfl)

theorem treeLink_of_mem (ht : Tabled tree.receivers t) (hn : Numbered tree bound) {l : Link}
    (hl : l ∈ graphLinks tree bound t) : TreeLink tree bound l := by
  rcases List.mem_append.mp hl with hl | hl
  · obtain ⟨id, -, hl⟩ := List.mem_flatMap.mp hl
    unfold isiLinks at hl
    rcases hisi : mxcIsi tree id with _ | interface
    · rw [hisi] at hl
      exact absurd hl List.not_mem_nil
    · rw [hisi] at hl
      rcases List.mem_append.mp hl with hl | hl
      · obtain ⟨pad, hpad, rfl⟩ := List.mem_map.mp hl
        exact .node (isiSourcePad_not_sink (Option.mem_toList.mp hpad) id)
      · exact treeLink_of_feed (mxcIsi_iff.mp hisi) hl
  · obtain ⟨i, hi, hl⟩ := List.mem_flatMap.mp hl
    exact treeLink_of_sensor ht hn (List.mem_range.mp hi) hl

end Links

/-- The camera of a channel: the receiver that feeds it, and the entry of the sensor there,
which has bound. -/
structure Camera (tree : DeviceTree) (bound : Nat → Bool) (id i : Nat) (e : Entity) : Prop where
  node : ∃ node, nodeAt tree i = some node ∧ entityOf node.receiver = e
  bound : bound i = true
  feeds : Feeds tree e id

/-- Links of the device tree only, and all those of the channels that have a camera. -/
structure CameraGraph (tree : DeviceTree) (bound : Nat → Bool) (links : List Link) : Prop where
  tree_link : ∀ l ∈ links, TreeLink tree bound l
  node_link : ∀ id i e, Camera tree bound id i e →
    ∃ l ∈ links, l.source.entity = .isi id ∧ l.sink.entity = .vdev id
  feed_link : ∀ id i e, Camera tree bound id i e →
    ∃ l ∈ links, l.source.entity = e ∧ l.sink.entity = .isi id
  sensor_link : ∀ id i e, Camera tree bound id i e →
    ∃ l ∈ links, l.source.entity = .sensor i ∧ l.sink.entity = e

section Paths

variable {tree : DeviceTree} {bound : Nat → Bool} {links : List Link} {id id' i i' : Nat}
  {e e' : Entity}

theorem fedBy_pcsi {dev channel : Nat} (h : FedBy tree (.pcsi dev) id channel) : channel = 0 := by
  obtain ⟨interface, -, hfeed, rfl⟩ := h
  unfold feedEntity at hfeed
  split at hfeed
  · exact absurd (Option.some.inj hfeed) (by simp)
  · exact absurd (Option.some.inj hfeed) (by simp)
  · rename_i hport
    exact if_pos hport
  · exact absurd hfeed (by simp)

theorem source_not_sink {receiver : Receiver} {channel : Nat}
    (h : FedBy tree (entityOf receiver) id channel) :
    sourceBase (entityOf receiver) + channel ∉ sinkPads (entityOf receiver) := by
  cases receiver with
  | csi id' vchannel =>
      simp only [entityOf, sourceBase, sinkPads, mxcMipiCsi2Vc0PadSource, List.mem_cons,
        List.not_mem_nil, or_false]
      omega
  | pcsi dev =>
      rw [fedBy_pcsi h]
      simp [entityOf, sourceBase, sinkPads, mxcParallelCsiPadSource, mxcParallelCsiPadSink]

theorem endsAt_isi {l : Link} (hl : TreeLink tree bound l) (h : EndsAt l (.isi id) e) :
    ∃ receiver, e = entityOf receiver ∧ Feeds tree e id := by
  obtain ⟨p, hp, hends⟩ := h
  cases hl with
  | node hpad =>
      rcases hends with ⟨hsource, -⟩ | ⟨hsink, -⟩
      · obtain ⟨hid, rfl⟩ := Pad.mk.inj hsource
        exact absurd hp hpad
      · exact absurd (Pad.mk.inj hsink).1 (by simp)
  | @feed receiver id' channel pad hfeed hpad =>
      rcases hends with ⟨hsource, -⟩ | ⟨hsink, rfl⟩
      · exact absurd (Pad.mk.inj hsource).1 (entityOf_ne_isi _ _)
      · obtain rfl := Entity.isi.inj (Pad.mk.inj hsink).1
        exact ⟨receiver, rfl, fedBy_feeds hfeed⟩
  | sensor hnode hbound hpad =>
      rcases hends with ⟨hsource, -⟩ | ⟨hsink, -⟩
      · exact absurd (Pad.mk.inj hsource).1 (by simp)
      · exact absurd (Pad.mk.inj hsink).1 (entityOf_ne_isi _ _)

theorem endsAt_receiver {receiver : Receiver} {l : Link} (hl : TreeLink tree bound l)
    (h : EndsAt l (entityOf receiver) e) :
    ∃ i node, e = .sensor i ∧ nodeAt tree i = some node ∧ bound i = true ∧
      entityOf node.receiver = entityOf receiver := by
  obtain ⟨p, hp, hends⟩ := h
  cases hl with
  | node hpad =>
      rcases hends with ⟨hsource, -⟩ | ⟨hsink, -⟩
      · exact absurd (Pad.mk.inj hsource).1.symm (entityOf_ne_isi _ _)
      · exact absurd (Pad.mk.inj hsink).1.symm (entityOf_ne_vdev _ _)
  | feed hfeed hpad =>
      rcases hends with ⟨hsource, -⟩ | ⟨hsink, -⟩
      · obtain ⟨hentity, rfl⟩ := Pad.mk.inj hsource
        rw [← hentity] at hp
        exact absurd hp (source_not_sink hfeed)
      · exact absurd (Pad.mk.inj hsink).1.symm (entityOf_ne_isi _ _)
  | @sensor i j pad node hnode hbound hpad =>
      rcases hends with ⟨hsource, -⟩ | ⟨hsink, rfl⟩
      · exact absurd (Pad.mk.inj hsource).1.symm (entityOf_ne_sensor _ _)
      · exact ⟨i, node, rfl, hnode, hbound, (Pad.mk.inj hsink).1⟩

theorem sink_pad {l : Link} (hl : TreeLink tree bound l) :
    l.sink.index ∈ sinkPads l.sink.entity := by
  cases hl with
  | node hpad => exact List.mem_singleton.mpr rfl
  | feed hfeed hpad => exact hpad
  | sensor hnode hbound hpad => exact hpad

theorem remote_isi (hg : CameraGraph tree bound links) (h : Camera tree bound id i e) :
    mxcGetRemoteSubdev links (.isi id) = some e := by
  obtain ⟨l, hl, -, hsink⟩ := hg.feed_link id i e h
  have hpad := sink_pad (hg.tree_link l hl)
  rw [hsink] at hpad
  refine remote_of_endsAt (fun l' hl' z hends => ?_) hl hsink hpad
  obtain ⟨receiver, -, hfeeds⟩ := endsAt_isi (hg.tree_link l' hl') hends
  exact feeds_unique hfeeds h.feeds

theorem remote_receiver (hg : CameraGraph tree bound links) (h : Camera tree bound id i e) :
    mxcGetRemoteSubdev links e = some (.sensor i) := by
  obtain ⟨l, hl, -, hsink⟩ := hg.sensor_link id i e h
  have hpad := sink_pad (hg.tree_link l hl)
  rw [hsink] at hpad
  refine remote_of_endsAt (fun l' hl' z hends => ?_) hl hsink hpad
  obtain ⟨node, hnode, hentity⟩ := h.node
  rw [← hentity] at hends
  obtain ⟨j, node', rfl, hnode', -, hsame⟩ := endsAt_receiver (hg.tree_link l' hl') hends
  rw [nodeAt_entity hnode' hnode hsame]

theorem numLinks_ne_zero {l : Link} (hl : l ∈ links) (htouches : l.touches e = true) :
    numLinks links e ≠ 0 := by
  have hpos : 0 < numLinks links e := List.countP_pos_iff.mpr ⟨l, hl, htouches⟩
  omega

theorem isEntityLinkSetup_iff (m : MediaLinks) :
    isEntityLinkSetup m = true ↔ m.vdevNumLinks ≠ 0 ∧ m.sdNumLinks ≠ 0 ∧
      ∃ csi, m.remote = some csi ∧ csi.numLinks ≠ 0 ∧ ∃ n, csi.remote = some n ∧ n ≠ 0 := by
  unfold isEntityLinkSetup
  obtain ⟨vdevNumLinks, sdNumLinks, remote⟩ := m
  rcases remote with _ | ⟨numLinks, _ | n⟩
  · simp
  · simp
  · simp [and_assoc]

/-- The capture node finds its links set up exactly when its channel has a camera, and
follows them to the receiver and the sensor of the device tree. -/
theorem linkSetup_iff (hg : CameraGraph tree bound links) (id : Nat) :
    isEntityLinkSetup (mediaLinks links id) = true ↔ ∃ i e, Camera tree bound id i e := by
  rw [isEntityLinkSetup_iff]
  constructor
  · rintro ⟨-, -, csi, hcsi, -, n, hn, -⟩
    obtain ⟨e, hremote, rfl⟩ := Option.map_eq_some_iff.mp hcsi
    obtain ⟨sensor, hsensor, -⟩ := Option.map_eq_some_iff.mp hn
    obtain ⟨l, hl, hends⟩ := endsAt_of_remote hremote
    obtain ⟨receiver, rfl, hfeeds⟩ := endsAt_isi (hg.tree_link l hl) hends
    obtain ⟨l', hl', hends'⟩ := endsAt_of_remote hsensor
    obtain ⟨i, node, -, hnode, hbound, hentity⟩ := endsAt_receiver (hg.tree_link l' hl') hends'
    exact ⟨i, entityOf receiver, ⟨node, hnode, hentity⟩, hbound, hfeeds⟩
  · rintro ⟨i, e, h⟩
    obtain ⟨l, hl, hsource, hsink⟩ := hg.node_link id i e h
    obtain ⟨l', hl', hsource', hsink'⟩ := hg.sensor_link id i e h
    have hremote : (mediaLinks links id).remote =
        some ⟨numLinks links e, some (numLinks links (.sensor i))⟩ := by
      unfold mediaLinks
      dsimp only
      rw [remote_isi hg h, Option.map_some, remote_receiver hg h, Option.map_some]
    refine ⟨?_, ?_, _, hremote, ?_, _, rfl, ?_⟩
    · exact numLinks_ne_zero hl (touches_iff.mpr (.inr hsink))
    · exact numLinks_ne_zero hl (touches_iff.mpr (.inl hsource))
    · exact numLinks_ne_zero hl' (touches_iff.mpr (.inr hsink'))
    · exact numLinks_ne_zero hl' (touches_iff.mpr (.inl hsource'))

end Paths

section Cleaned

variable {tree : DeviceTree} {bound : Nat → Bool} {t : SensorTable}

theorem cameraGraph_of_swept {R : Nat → Prop} {g : Graph} (ht : Tabled tree.receivers t)
    (hn : Numbered tree bound) (hsupported : ∀ isi ∈ tree.isis, Supported isi.2)
    (hg : Swept (graphLinks tree bound t) R g)
    (hR : ∀ id i e, R id → ¬Camera tree bound id i e) : CameraGraph tree bound g.links where
  tree_link := fun l hl => treeLink_of_mem ht hn ((hg.links l).mp hl).1
  node_link := by
    intro id i e h
    obtain ⟨interface, hmem, -⟩ := h.feeds
    obtain ⟨pad, hpad⟩ := isiSourcePad_some (hsupported _ hmem).1
    refine ⟨⟨⟨.isi id, pad⟩, ⟨.vdev id, 0⟩⟩, (hg.links _).mpr ⟨?_, ?_⟩, rfl, rfl⟩
    · refine List.mem_append.mpr (.inl (List.mem_flatMap.mpr ⟨id, ?_, ?_⟩))
      · exact List.mem_range.mpr (tree.isi_lt _ hmem)
      · unfold isiLinks
        rw [mxcIsi_iff.mpr hmem]
        refine List.mem_append.mpr (.inl (List.mem_map.mpr ⟨pad, ?_, rfl⟩))
        exact Option.mem_toList.mpr hpad
    · intro id' hid'
      rw [Bool.eq_false_iff, ne_eq, touches_iff]
      rintro (hsame | hsame)
      · obtain rfl := Entity.isi.inj hsame
        exact hR id i e hid' h
      · exact absurd hsame (by simp)
  feed_link := by
    intro id i e h
    obtain ⟨node, hnode, rfl⟩ := h.node
    obtain ⟨interface, hmem, hfeed⟩ := h.feeds
    have hcsi : ∀ k, entityOf node.receiver = .csi k → mipiCsi2 tree k ≠ none := by
      intro k hk
      rcases hreceiver : node.receiver with ⟨k', vchannel⟩ | dev
      · rw [hreceiver] at hk
        obtain rfl := Entity.csi.inj hk
        rw [mipiCsi2_of_mem (nodeAt_mem hnode).1 hreceiver]
        exact Option.some_ne_none vchannel
      · rw [hreceiver] at hk
        exact absurd hk (by simp [entityOf])
    obtain ⟨l, hl, hsource, hsink⟩ := exists_feedLinks hfeed hcsi id
    refine ⟨l, (hg.links l).mpr ⟨?_, ?_⟩, congrArg Pad.entity hsource, hsink⟩
    · refine List.mem_append.mpr (.inl (List.mem_flatMap.mpr ⟨id, ?_, ?_⟩))
      · exact List.mem_range.mpr (tree.isi_lt _ hmem)
      · unfold isiLinks
        rw [mxcIsi_iff.mpr hmem]
        exact List.mem_append.mpr (.inr hl)
    · intro id' hid'
      rw [Bool.eq_false_iff, ne_eq, touches_iff, hsource, hsink]
      rintro (hsame | hsame)
      · exact absurd hsame (entityOf_ne_isi _ _)
      · obtain rfl := Entity.isi.inj hsame
        exact hR id i _ hid' h
  sensor_link := by
    intro id i e h
    obtain ⟨node, hnode, rfl⟩ := h.node
    obtain ⟨l, hl, hsource, hsink⟩ :=
      (sensorLinks_sinks ht hn hnode h.bound (entityOf node.receiver)).mpr rfl
    refine ⟨l, (hg.links l).mpr ⟨?_, ?_⟩, hsource, hsink⟩
    · refine List.mem_append.mpr (.inr (List.mem_flatMap.mpr ⟨i, ?_, hl⟩))
      exact List.mem_range.mpr ((lt_numSensors_iff ht).mpr ⟨node, hnode⟩)
    · intro id' _
      rw [Bool.eq_false_iff, ne_eq, touches_iff, hsource, hsink]
      rintro (hsame | hsame)
      · exact absurd hsame (by simp)
      · exact absurd hsame (entityOf_ne_isi _ _)

/-- A channel that is fed by the receiver of a sensor that has not bound. -/
def Unlinked (tree : DeviceTree) (bound : Nat → Bool) (id : Nat) : Prop :=
  ∃ i node, nodeAt tree i = some node ∧ bound i = false ∧ Feeds tree (entityOf node.receiver) id

theorem cleaned_swept (ht : Tabled tree.receivers t) (hn : Numbered tree bound)
    (hc : Cleanable tree bound) (hsupported : ∀ isi ∈ tree.isis, Supported isi.2) :
    Swept (graphLinks tree bound t) (Unlinked tree bound) (cleaned tree bound t) :=
  (swept_cleaned ht hn hc hsupported).congr (unboundBefore_numSensors ht)

theorem cleaned_cameraGraph (ht : Tabled tree.receivers t) (hn : Numbered tree bound)
    (hc : Cleanable tree bound) (hbound : ∃ i node, nodeAt tree i = some node ∧ bound i = true) :
    CameraGraph tree bound (cleaned tree bound t).links := by
  obtain ⟨i, node, hnode, hon⟩ := hbound
  have hsupported := hn.supported i node hnode hon
  refine cameraGraph_of_swept ht hn hsupported (cleaned_swept ht hn hc hsupported)
    (fun id j e hunlinked h => ?_)
  obtain ⟨k, node', hnode', hoff, hfeeds⟩ := hunlinked
  obtain ⟨node'', hnode'', rfl⟩ := h.node
  have hsame := nodeAt_entity hnode' hnode'' (feeds_unique hfeeds h.feeds)
  rw [hsame, h.bound] at hoff
  exact Bool.false_ne_true hoff.symm

/-- Over the graph of any device tree whose numberings agree: a capture node finds its links
set up exactly when its channel is fed by the receiver of a sensor that has bound, and then
follows them to this receiver and this sensor. -/
theorem camera_paths (h : registerSensorEntities tree.receivers = .ok t)
    (hn : Numbered tree bound) (hc : Cleanable tree bound)
    (hbound : ∃ i node, nodeAt tree i = some node ∧ bound i = true) (id : Nat) :
    (isEntityLinkSetup (mediaLinks (cleaned tree bound t).links id) = true ↔
        ∃ i e, Camera tree bound id i e) ∧
      ∀ i e, Camera tree bound id i e →
        mxcGetRemoteSubdev (cleaned tree bound t).links (.isi id) = some e ∧
          mxcGetRemoteSubdev (cleaned tree bound t).links e = some (.sensor i) := by
  have hg := cleaned_cameraGraph (tabled_registerSensorEntities h) hn hc hbound
  refine ⟨linkSetup_iff hg id, fun i e hcamera => ⟨?_, ?_⟩⟩
  · exact remote_isi hg hcamera
  · exact remote_receiver hg hcamera

end Cleaned

/-- Two entities with a link between them. -/
def Linked (links : List Link) (x y : Entity) : Prop :=
  ∃ l ∈ links, (l.source.entity = x ∧ l.sink.entity = y) ∨
    (l.sink.entity = x ∧ l.source.entity = y)

/-- The entities that a walk of the graph meets. -/
def Reaches (links : List Link) : Entity → Entity → Prop := Relation.ReflTransGen (Linked links)

/-- What belongs to a camera: its receiver, its sensor, and the channels that the receiver
feeds with their nodes. -/
def OfCamera (tree : DeviceTree) (i : Nat) (e x : Entity) : Prop :=
  x = e ∨ x = .sensor i ∨ ∃ id, Feeds tree e id ∧ (x = .isi id ∨ x = .vdev id)

section Walk

variable {tree : DeviceTree} {bound : Nat → Bool} {links : List Link} {id i : Nat} {e : Entity}

theorem ofCamera_isi (h : Camera tree bound id i e) (id' : Nat) :
    OfCamera tree i e (.isi id') ↔ Feeds tree e id' := by
  obtain ⟨node, -, rfl⟩ := h.node
  constructor
  · rintro (hsame | hsame | ⟨id'', hfeeds, hsame | hsame⟩)
    · exact absurd hsame.symm (entityOf_ne_isi _ _)
    · exact absurd hsame (by simp)
    · obtain rfl := Entity.isi.inj hsame
      exact hfeeds
    · exact absurd hsame (by simp)
  · intro hfeeds
    exact .inr (.inr ⟨id', hfeeds, .inl rfl⟩)

theorem ofCamera_vdev (h : Camera tree bound id i e) (id' : Nat) :
    OfCamera tree i e (.vdev id') ↔ Feeds tree e id' := by
  obtain ⟨node, -, rfl⟩ := h.node
  constructor
  · rintro (hsame | hsame | ⟨id'', hfeeds, hsame | hsame⟩)
    · exact absurd hsame.symm (entityOf_ne_vdev _ _)
    · exact absurd hsame (by simp)
    · exact absurd hsame (by simp)
    · obtain rfl := Entity.vdev.inj hsame
      exact hfeeds
  · intro hfeeds
    exact .inr (.inr ⟨id', hfeeds, .inr rfl⟩)

theorem ofCamera_receiver (receiver : Receiver) :
    OfCamera tree i e (entityOf receiver) ↔ entityOf receiver = e := by
  constructor
  · rintro (hsame | hsame | ⟨id', -, hsame | hsame⟩)
    · exact hsame
    · exact absurd hsame (entityOf_ne_sensor _ _)
    · exact absurd hsame (entityOf_ne_isi _ _)
    · exact absurd hsame (entityOf_ne_vdev _ _)
  · exact .inl

theorem ofCamera_sensor (h : Camera tree bound id i e) (j : Nat) :
    OfCamera tree i e (.sensor j) ↔ j = i := by
  obtain ⟨node, -, rfl⟩ := h.node
  constructor
  · rintro (hsame | hsame | ⟨id', -, hsame | hsame⟩)
    · exact absurd hsame.symm (entityOf_ne_sensor _ _)
    · exact Entity.sensor.inj hsame
    · exact absurd hsame (by simp)
    · exact absurd hsame (by simp)
  · rintro rfl
    exact .inr (.inl rfl)

theorem ofCamera_link (h : Camera tree bound id i e) {l : Link} (hl : TreeLink tree bound l) :
    OfCamera tree i e l.source.entity ↔ OfCamera tree i e l.sink.entity := by
  cases hl with
  | node hpad => exact (ofCamera_isi h _).trans (ofCamera_vdev h _).symm
  | feed hfeed hpad =>
      refine (ofCamera_receiver _).trans (Iff.trans ?_ (ofCamera_isi h _).symm)
      constructor
      · intro hsame
        rw [← hsame]
        exact fedBy_feeds hfeed
      · intro hfeeds
        exact feeds_unique (fedBy_feeds hfeed) hfeeds
  | sensor hnode hbound hpad =>
      refine (ofCamera_sensor h _).trans (Iff.trans ?_ (ofCamera_receiver _).symm)
      obtain ⟨node, hnode', rfl⟩ := h.node
      constructor
      · rintro rfl
        obtain rfl := Option.some.inj (hnode.symm.trans hnode')
        rfl
      · intro hsame
        exact nodeAt_entity hnode hnode' hsame

theorem Camera.of_feeds {id' : Nat} (h : Camera tree bound id i e) (hfeeds : Feeds tree e id') :
    Camera tree bound id' i e :=
  ⟨h.node, h.bound, hfeeds⟩

theorem Linked.symm {x y : Entity} (h : Linked links x y) : Linked links y x := by
  obtain ⟨l, hl, ⟨hsource, hsink⟩ | ⟨hsink, hsource⟩⟩ := h
  · exact ⟨l, hl, .inr ⟨hsink, hsource⟩⟩
  · exact ⟨l, hl, .inl ⟨hsource, hsink⟩⟩

theorem reaches_iff (hg : CameraGraph tree bound links) (h : Camera tree bound id i e)
    (x : Entity) : Reaches links (.vdev id) x ↔ OfCamera tree i e x := by
  constructor
  · intro hreaches
    induction hreaches with
    | refl => exact (ofCamera_vdev h id).mpr h.feeds
    | tail _ hlinked ih =>
        obtain ⟨l, hl, ⟨rfl, rfl⟩ | ⟨rfl, rfl⟩⟩ := hlinked
        · exact (ofCamera_link h (hg.tree_link l hl)).mp ih
        · exact (ofCamera_link h (hg.tree_link l hl)).mpr ih
  · have hnode : ∀ {id'}, Feeds tree e id' → Linked links (.isi id') (.vdev id') := by
      intro id' hfeeds
      obtain ⟨l, hl, hsource, hsink⟩ := hg.node_link id' i e (h.of_feeds hfeeds)
      exact ⟨l, hl, .inl ⟨hsource, hsink⟩⟩
    have hfeed : ∀ {id'}, Feeds tree e id' → Linked links e (.isi id') := by
      intro id' hfeeds
      obtain ⟨l, hl, hsource, hsink⟩ := hg.feed_link id' i e (h.of_feeds hfeeds)
      exact ⟨l, hl, .inl ⟨hsource, hsink⟩⟩
    have hsensor : Linked links e (.sensor i) := by
      obtain ⟨l, hl, hsource, hsink⟩ := hg.sensor_link id i e h
      exact ⟨l, hl, .inr ⟨hsink, hsource⟩⟩
    have hreceiver : Reaches links (.vdev id) e :=
      (Relation.ReflTransGen.single (hnode h.feeds).symm).tail (hfeed h.feeds).symm
    rintro (rfl | rfl | ⟨id', hfeeds, rfl | rfl⟩)
    · exact hreceiver
    · exact hreceiver.tail hsensor
    · exact hreceiver.tail (hfeed hfeeds)
    · exact (hreceiver.tail (hfeed hfeeds)).tail (hnode hfeeds)

end Walk

/-- The subdevs that run, and the counter `running` of each parallel receiver. -/
structure Subdevs where
  on : Entity → Bool
  running : Entity → U8

/-- `mxc_pcsi_s_stream`. Only a start from a counter of zero enables the receiver; a stop
that finds it at zero wraps it. -/
def mxcPcsiSStream (dev : Nat) (enable : Bool) (s : Subdevs) : Subdevs :=
  let running := s.running (.pcsi dev)
  if enable then
    { on := if running = 0#8 then Function.update s.on (.pcsi dev) true else s.on
      running := Function.update s.running (.pcsi dev) (running + 1#8) }
  else
    { on := if running = 0#8 then s.on else Function.update s.on (.pcsi dev) false
      running := Function.update s.running (.pcsi dev) (running - 1#8) }

/-- `v4l2_subdev_call(subdev, video, s_stream, enable)`, where it succeeds. The MIPI receiver
and the sensors count nothing; channels and nodes do not have the operation. -/
def subdevSStream (enable : Bool) (s : Subdevs) : Entity → Subdevs
  | .pcsi dev => mxcPcsiSStream dev enable s
  | .csi id => { s with on := Function.update s.on (.csi id) enable }
  | .sensor i => { s with on := Function.update s.on (.sensor i) enable }
  | .isi _ | .vdev _ => s

/-- `mxc_isi_pipeline_enable`, where all calls of `s_stream` succeed. -/
def mxcIsiPipelineEnable (walk : List Entity) (enable : Bool) (s : Subdevs) : Subdevs :=
  walk.foldl (subdevSStream enable) s

structure Streams where
  streaming : Nat → Bool
  subdevs : Subdevs

inductive StreamCall where
  | streamon (id : Nat)
  | streamoff (id : Nat)

/-- The streams of all capture nodes; `walk` gives the entities that the walk of the graph
meets from the node of a channel. -/
def streamStep (walk : Nat → List Entity) (s : Streams) : StreamCall → Streams
  | .streamon id =>
      { streaming := Function.update s.streaming id true
        subdevs := mxcIsiPipelineEnable (walk id) true s.subdevs }
  | .streamoff id =>
      { streaming := Function.update s.streaming id false
        subdevs := mxcIsiPipelineEnable (walk id) false s.subdevs }

def StreamCall.channel : StreamCall → Nat
  | .streamon id | .streamoff id => id

section Switching

variable {walk : List Entity} {x e : Entity} {enable : Bool} {s t : Subdevs}

end Switching

section Sharing

variable {tree : DeviceTree} {bound : Nat → Bool} {links : List Link}
  {walk : Nat → List Entity} {s : Streams}

end Sharing

section Board

variable {tree : DeviceTree} {bound : Nat → Bool} {t : SensorTable}

/-- A walk of the graph from a capture node with a camera meets its own receiver, the sensor
of this one, and the channels that it feeds with their nodes, and nothing of another camera. -/
theorem walk_meets_camera (h : registerSensorEntities tree.receivers = .ok t)
    (hn : Numbered tree bound) (hc : Cleanable tree bound) {id i : Nat} {e : Entity}
    (hcamera : Camera tree bound id i e) (x : Entity) :
    Reaches (cleaned tree bound t).links (.vdev id) x ↔ OfCamera tree i e x := by
  obtain ⟨node, hnode, -⟩ := hcamera.node
  have hbound : ∃ i node, nodeAt tree i = some node ∧ bound i = true :=
    ⟨i, node, hnode, hcamera.bound⟩
  exact reaches_iff (cleaned_cameraGraph (tabled_registerSensorEntities h) hn hc hbound)
    hcamera x

theorem camera_twoCameras {id : Nat} (hid : id < 2) (hbound : bound id = true) :
    Camera twoCameras bound id id (.csi id) := by
  match id, hid with
  | 0, _ => exact ⟨⟨_, rfl, rfl⟩, hbound, ⟨2, 0, 2⟩, by decide, rfl⟩
  | 1, _ => exact ⟨⟨_, rfl, rfl⟩, hbound, ⟨3, 0, 2⟩, by decide, rfl⟩

theorem camera_paths_twoCameras : ∃ t, registerSensorEntities twoCameras.receivers = .ok t ∧
    isEntityLinkSetup (mediaLinks (cleaned twoCameras (fun i => i == 0) t).links 0) = true ∧
    mxcGetRemoteSubdev (cleaned twoCameras (fun i => i == 0) t).links (.isi 0) =
        some (.csi 0) ∧
      mxcGetRemoteSubdev (cleaned twoCameras (fun i => i == 0) t).links (.csi 0) =
        some (.sensor 0) := by
  have hcamera : Camera twoCameras (fun i => i == 0) 0 0 (.csi 0) :=
    camera_twoCameras (by decide) rfl
  have hpaths := camera_paths rfl (numbered_twoCameras fun i => i == 0)
    (cleanable_twoCameras _) ⟨0, _, rfl, rfl⟩ 0
  exact ⟨_, rfl, hpaths.1.mpr ⟨0, .csi 0, hcamera⟩, hpaths.2 0 (.csi 0) hcamera⟩

theorem walk_meets_camera_twoCameras : ∃ t,
    registerSensorEntities twoCameras.receivers = .ok t ∧
      ¬Reaches (cleaned twoCameras (fun _ => true) t).links (.vdev 0) (.sensor 1) := by
  have hcamera : Camera twoCameras (fun _ => true) 0 0 (.csi 0) :=
    camera_twoCameras (by decide) rfl
  have hmeets := walk_meets_camera rfl (numbered_twoCameras fun _ => true)
    (cleanable_twoCameras _) hcamera (.sensor 1)
  refine ⟨_, rfl, fun hreaches => ?_⟩
  have hsame := (ofCamera_sensor hcamera 1).mp (hmeets.mp hreaches)
  exact absurd hsame (by decide)

end Board

end CameraPorting.MediaDev.CameraPaths
