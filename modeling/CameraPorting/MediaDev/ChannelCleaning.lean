import CameraPorting.MediaDev.SensorNumbering

namespace CameraPorting.MediaDev.ChannelCleaning

open CameraPorting.Kernel.Media
open CameraPorting.MediaDev.SensorRegistration
open CameraPorting.MediaDev.MediaGraph
open CameraPorting.MediaDev.SensorNumbering

section Loop

theorem untilError_concat {α : Type} (f : α → Graph → Graph × Ret) (xs : List α) (x : α)
    (g : Graph) : untilError f (xs ++ [x]) g =
      match untilError f xs g with
      | (g, .error e) => (g, .error e)
      | (g, .ok ()) => f x g := by
  induction xs generalizing g with
  | nil =>
      change (match f x g with
        | (g, .error e) => (g, .error e)
        | (g, .ok ()) => (g, .ok ())) = f x g
      rcases f x g with ⟨g', e | ⟨⟩⟩
      · rfl
      · rfl
  | cons y ys ih =>
      rw [List.cons_append]
      unfold untilError
      rcases f y g with ⟨g', e | ⟨⟩⟩
      · rfl
      · exact ih g'

theorem untilError_range {f : Nat → Graph → Graph × Ret} {P : Nat → Graph → Prop} {n : Nat}
    {g : Graph} (h0 : P 0 g)
    (hstep : ∀ i < n, ∀ g, P i g → ∃ g', f i g = (g', .ok ()) ∧ P (i + 1) g') :
    ∃ g', untilError f (List.range n) g = (g', .ok ()) ∧ P n g' := by
  induction n with
  | zero => exact ⟨g, rfl, h0⟩
  | succ n ih =>
      obtain ⟨g₁, hrun, hn⟩ := ih fun i hi => hstep i (Nat.lt_succ_of_lt hi)
      obtain ⟨g₂, hlast, hsucc⟩ := hstep n (Nat.lt_succ_self n) g₁ hn
      refine ⟨g₂, ?_, hsucc⟩
      rw [List.range_succ, untilError_concat, hrun]
      exact hlast

end Loop

structure Swept (links : List Link) (R : Nat → Prop) (g : Graph) : Prop where
  links : ∀ l, l ∈ g.links ↔ l ∈ links ∧ ∀ id, R id → l.touches (.isi id) = false
  removed : ∀ e, e ∈ g.removed ↔ ∃ id, e = .isi id ∧ R id
  accesses : ∀ entry ∈ g.accesses, entry.inBounds

section Sweep

variable {tree : DeviceTree} {links : List Link} {R R' : Nat → Prop} {g : Graph}

theorem Swept.congr (h : Swept links R g) (hR : ∀ id, R id ↔ R' id) : Swept links R' g where
  links := fun l => by simp only [h.links l, hR]
  removed := fun e => by simp only [h.removed e, hR]
  accesses := h.accesses

theorem Swept.access (h : Swept links R g) {entry : ArrayEntry} (hentry : entry.inBounds) :
    Swept links R (access entry g) where
  links := h.links
  removed := h.removed
  accesses := by
    intro other hother
    rcases List.mem_cons.mp hother with rfl | hother
    · exact hentry
    · exact h.accesses other hother

theorem Swept.unregister (h : Swept links R g) (id : Nat) :
    Swept links (fun id' => R id' ∨ id' = id) (unregister (.isi id) g) where
  links := by
    intro l
    unfold MediaGraph.unregister
    rw [List.mem_filter, h.links l, Bool.not_eq_true']
    constructor
    · rintro ⟨⟨hl, hkept⟩, hnew⟩
      refine ⟨hl, ?_⟩
      rintro id' (hid | rfl)
      · exact hkept id' hid
      · exact hnew
    · rintro ⟨hl, hkept⟩
      exact ⟨⟨hl, fun id' hid => hkept id' (.inl hid)⟩, hkept id (.inr rfl)⟩
  removed := by
    intro e
    unfold MediaGraph.unregister
    rw [List.mem_cons, h.removed e]
    constructor
    · rintro (rfl | ⟨id', rfl, hid⟩)
      · exact ⟨id, rfl, .inr rfl⟩
      · exact ⟨id', rfl, .inl hid⟩
    · rintro ⟨id', rfl, hid | rfl⟩
      · exact .inr ⟨id', rfl, hid⟩
      · exact .inl rfl
  accesses := h.accesses

/-- The links that touch a receiver are those of the channels that it feeds. -/
structure FeedsOnly (tree : DeviceTree) (links : List Link) (e : Entity) : Prop where
  of_touches : ∀ l ∈ links, l.touches e = true → ∃ id channel, FedBy tree e id channel ∧
    l.source = ⟨e, sourceBase e + channel⟩ ∧ l.sink.entity = .isi id
  exists_link : ∀ id channel, FedBy tree e id channel → ∃ l ∈ links,
    l.source = ⟨e, sourceBase e + channel⟩ ∧ l.sink.entity = .isi id
  ne_isi : ∀ id, e ≠ .isi id

theorem touches_iff {l : Link} {e : Entity} :
    l.touches e = true ↔ l.source.entity = e ∨ l.sink.entity = e := by
  simp [Link.touches]

/-- A link of a receiver is gone when the channel it feeds was taken out. -/
theorem touches_isi {e : Entity} (hf : FeedsOnly tree links e) {l : Link} {index id id' : Nat}
    (hsource : l.source = ⟨e, index⟩) (hsink : l.sink.entity = .isi id) :
    l.touches (.isi id') = true ↔ id = id' := by
  rw [touches_iff, hsource, hsink]
  constructor
  · rintro (h | h)
    · exact absurd h (hf.ne_isi id')
    · exact Entity.isi.inj h
  · rintro rfl
    exact .inr rfl

theorem fedBy_feeds {e : Entity} {id channel : Nat} (h : FedBy tree e id channel) :
    Feeds tree e id := by
  obtain ⟨interface, hmem, hfeed, -⟩ := h
  exact ⟨interface, hmem, hfeed⟩

theorem exists_fedBy {e : Entity} {id : Nat} (h : Feeds tree e id) :
    ∃ channel, FedBy tree e id channel := by
  obtain ⟨interface, hmem, hfeed⟩ := h
  exact ⟨_, interface, hmem, hfeed, rfl⟩

theorem fedBy_channel {e : Entity} {id channel channel' : Nat} (h : FedBy tree e id channel)
    (h' : FedBy tree e id channel') : channel = channel' := by
  obtain ⟨interface, hmem, -, hchannel⟩ := h
  obtain ⟨interface', hmem', -, hchannel'⟩ := h'
  have hsame := (mxcIsi_iff.mpr hmem).symm.trans (mxcIsi_iff.mpr hmem')
  obtain rfl := Option.some.inj hsame
  exact hchannel.symm.trans hchannel'

theorem remotePad_of_link {e : Entity} (hf : FeedsOnly tree links e)
    (hsingle : ∀ id id' channel, FedBy tree e id channel → FedBy tree e id' channel → id = id')
    (hsub : ∀ l ∈ g.links, l ∈ links) {id channel : Nat} (hid : FedBy tree e id channel)
    {l : Link} (hl : l ∈ g.links) (hsource : l.source = ⟨e, sourceBase e + channel⟩) :
    ∃ pad, mediaEntityRemotePad g.links ⟨e, sourceBase e + channel⟩ = some pad ∧
      pad.entity = .isi id := by
  unfold mediaEntityRemotePad
  rcases hfind : g.links.find? _ with _ | l'
  · have hnone := List.find?_eq_none.mp hfind l hl
    simp [hsource] at hnone
  · have hl' := List.mem_of_find?_eq_some hfind
    have hends := List.find?_some hfind
    simp only [Bool.or_eq_true, decide_eq_true_eq] at hends
    have htouches : l'.touches e = true := by
      rw [touches_iff]
      rcases hends with h | h
      · exact .inl (by rw [h])
      · exact .inr (by rw [h])
    obtain ⟨id', channel', hid', hsource', hsink'⟩ := hf.of_touches l' (hsub l' hl') htouches
    have hpad : l'.source = ⟨e, sourceBase e + channel⟩ := by
      rcases hends with h | h
      · exact h
      · rw [h] at hsink'
        exact absurd hsink' (hf.ne_isi id')
    have hchannel : channel' = channel := by
      have hindex := congrArg Pad.index (hsource'.symm.trans hpad)
      dsimp only at hindex
      omega
    subst hchannel
    refine ⟨l'.sink, ?_, ?_⟩
    · rw [Option.map_some, if_pos hpad]
    · rw [hsink', hsingle id' id channel' hid' hid]

/-- `mxc_md_do_clean` at the pad of the channel `j`, with the channels before it taken
out. -/
theorem mxcMdDoClean_swept {receiver : Receiver} {R₀ : Nat → Prop} {j : Nat}
    (hf : FeedsOnly tree links (entityOf receiver)) (hfit : ChannelsFit tree receiver)
    (hnew : ∀ id, R₀ id → ¬Feeds tree (entityOf receiver) id)
    (hg : Swept links (fun id => R₀ id ∨ ∃ k < j, FedBy tree (entityOf receiver) id k) g) :
    ∃ g', mxcMdDoClean ⟨entityOf receiver, sourceBase (entityOf receiver) + j⟩ g =
        (g', .ok ()) ∧
      Swept links (fun id => R₀ id ∨ ∃ k < j + 1, FedBy tree (entityOf receiver) id k) g' := by
  -- the link of a channel from the `j`-th on is still there
  have hkept : ∀ id channel, FedBy tree (entityOf receiver) id channel → j ≤ channel →
      ∃ l ∈ g.links, l.source =
        ⟨entityOf receiver, sourceBase (entityOf receiver) + channel⟩ := by
    intro id channel hid hj
    obtain ⟨l, hl, hsource, hsink⟩ := hf.exists_link id channel hid
    refine ⟨l, (hg.links l).mpr ⟨hl, ?_⟩, hsource⟩
    intro id' hid'
    refine Bool.eq_false_of_not_eq_true fun htouches => ?_
    obtain rfl := (touches_isi hf hsource hsink).mp htouches
    rcases hid' with hid' | ⟨k, hk, hid'⟩
    · exact hnew id hid' (fedBy_feeds hid)
    · have := fedBy_channel hid hid'
      omega
  have hsub : ∀ l ∈ g.links, l ∈ links := fun l hl => ((hg.links l).mp hl).1
  unfold mxcMdDoClean
  dsimp only
  by_cases hany : (g.links.any fun l => l.touches (entityOf receiver)) = true
  · rw [if_pos hany]
    obtain ⟨l, hl, htouches⟩ := List.any_eq_true.mp hany
    obtain ⟨hmem, hnot⟩ := (hg.links l).mp hl
    obtain ⟨id, channel, hid, hsource, hsink⟩ := hf.of_touches l hmem htouches
    have hj : j ≤ channel := by
      by_contra hlt
      have hgone := hnot id (.inr ⟨channel, Nat.lt_of_not_le hlt, hid⟩)
      rw [(touches_isi hf hsource hsink).mpr rfl] at hgone
      exact Bool.false_ne_true hgone.symm
    have hexists : ∃ id', FedBy tree (entityOf receiver) id' j := by
      rcases Nat.eq_or_lt_of_le hj with rfl | hlt
      · exact ⟨id, hid⟩
      · exact hfit.first id channel hid j hlt
    obtain ⟨id', hid'⟩ := hexists
    obtain ⟨l', hl', hsource'⟩ := hkept id' j hid' (Nat.le_refl j)
    obtain ⟨pad, hpad, hentity⟩ := remotePad_of_link hf hfit.single hsub hid' hl' hsource'
    refine ⟨unregister pad.entity g, by rw [hpad], ?_⟩
    rw [hentity]
    refine (hg.unregister id').congr fun id'' => ?_
    have hlast : id'' = id' ↔ FedBy tree (entityOf receiver) id'' j := by
      constructor
      · rintro rfl
        exact hid'
      · intro hid''
        exact hfit.single id'' id' j hid'' hid'
    rw [Nat.exists_lt_succ_right, hlast, or_assoc]
  · rw [if_neg hany]
    refine ⟨g, rfl, hg.congr fun id => ?_⟩
    rw [Nat.exists_lt_succ_right, ← or_assoc]
    refine (or_iff_left_of_imp fun hid => ?_).symm
    -- no link of the receiver is left, so this channel cannot be fed
    obtain ⟨l, hl, hsource⟩ := hkept id j hid (Nat.le_refl j)
    refine absurd (List.any_eq_true.mpr ⟨l, hl, ?_⟩) hany
    rw [touches_iff, hsource]
    exact .inl rfl

theorem feeds_iff_lt {receiver : Receiver} (hfit : ChannelsFit tree receiver) (id : Nat) :
    (∃ k < channels receiver, FedBy tree (entityOf receiver) id k) ↔
      Feeds tree (entityOf receiver) id := by
  constructor
  · rintro ⟨k, -, hid⟩
    exact fedBy_feeds hid
  · intro hid
    obtain ⟨k, hk⟩ := exists_fedBy hid
    exact ⟨k, hfit.lt id k hk, hk⟩

theorem channelLoop_swept {receiver : Receiver} {R₀ : Nat → Prop}
    (hf : FeedsOnly tree links (entityOf receiver)) (hfit : ChannelsFit tree receiver)
    (hnew : ∀ id, R₀ id → ¬Feeds tree (entityOf receiver) id) (hg : Swept links R₀ g) :
    ∃ g', untilError
        (fun j => mxcMdDoClean ⟨entityOf receiver, sourceBase (entityOf receiver) + j⟩)
        (List.range (channels receiver)) g = (g', .ok ()) ∧
      Swept links (fun id => R₀ id ∨ Feeds tree (entityOf receiver) id) g' := by
  have hstart : Swept links
      (fun id => R₀ id ∨ ∃ k < 0, FedBy tree (entityOf receiver) id k) g :=
    hg.congr fun id => by simp
  obtain ⟨g', hrun, hg'⟩ := @untilError_range
    (fun j => mxcMdDoClean ⟨entityOf receiver, sourceBase (entityOf receiver) + j⟩)
    (fun j => Swept links fun id => R₀ id ∨ ∃ k < j, FedBy tree (entityOf receiver) id k)
    (channels receiver) g hstart (fun j _ g hg => mxcMdDoClean_swept hf hfit hnew hg)
  exact ⟨g', hrun, hg'.congr fun id => by rw [feeds_iff_lt hfit]⟩

end Sweep

section Cleaning

variable {tree : DeviceTree} {bound : Nat → Bool} {t : SensorTable}

theorem entityOf_ne_isi (receiver : Receiver) (id : Nat) : entityOf receiver ≠ .isi id := by
  cases receiver <;> exact nofun

theorem entityOf_ne_vdev (receiver : Receiver) (id : Nat) : entityOf receiver ≠ .vdev id := by
  cases receiver <;> exact nofun

theorem entityOf_ne_sensor (receiver : Receiver) (i : Nat) :
    entityOf receiver ≠ .sensor i := by
  cases receiver <;> exact nofun

theorem sensorLinks_sd {i : Nat} {l : Link} (hl : l ∈ sensorLinks tree t i) :
    (t.sensor i).sd = true := by
  by_contra hsd
  unfold sensorLinks at hl
  rw [if_pos (Bool.eq_false_of_not_eq_true hsd)] at hl
  exact absurd hl List.not_mem_nil

/-- The receiver of a sensor that did not bind is linked to channels only. -/
theorem feedsOnly_unbound (ht : Tabled tree.receivers t) (hn : Numbered tree bound)
    {i : Nat} {node : ReceiverNode} (h : nodeAt tree i = some node) (hbound : bound i = false) :
    FeedsOnly tree (graphLinks tree bound t) (entityOf node.receiver) where
  ne_isi := entityOf_ne_isi node.receiver
  exists_link := by
    rintro id channel ⟨interface, hmem, hfeed, rfl⟩
    have hcsi : ∀ k, entityOf node.receiver = .csi k → mipiCsi2 tree k ≠ none := by
      intro k hk
      rcases hreceiver : node.receiver with ⟨k', vchannel⟩ | dev
      · rw [hreceiver] at hk
        obtain rfl := Entity.csi.inj hk
        rw [mipiCsi2_of_mem (nodeAt_mem h).1 hreceiver]
        exact nofun
      · rw [hreceiver] at hk
        exact absurd hk nofun
    obtain ⟨l, hl, hsource, hsink⟩ := exists_feedLinks hfeed hcsi id
    refine ⟨l, ?_, hsource, hsink⟩
    unfold graphLinks
    rw [List.mem_append, List.mem_flatMap]
    refine .inl ⟨id, List.mem_range.mpr (tree.isi_lt _ hmem), ?_⟩
    unfold isiLinks
    rw [mxcIsi_iff.mpr hmem]
    exact List.mem_append.mpr (.inr hl)
  of_touches := by
    intro l hl htouches
    rw [touches_iff] at htouches
    unfold graphLinks at hl
    rcases List.mem_append.mp hl with hl | hl
    · obtain ⟨id, -, hl⟩ := List.mem_flatMap.mp hl
      obtain ⟨interface, hmem, ⟨hsource, hsink⟩ | hfeed⟩ := mem_isiLinks hl
      · rw [hsource, hsink] at htouches
        rcases htouches with htouches | htouches
        · exact absurd htouches.symm (entityOf_ne_isi _ _)
        · exact absurd htouches.symm (entityOf_ne_vdev _ _)
      · obtain ⟨hentity, hindex, hsink⟩ := feedLinks_mem hfeed
        rcases htouches with htouches | htouches
        · refine ⟨id, feedChannel interface, ⟨interface, hmem, ?_, rfl⟩, ?_, hsink⟩
          · rw [hentity, htouches]
          · rw [← htouches, ← hindex]
        · rw [hsink] at htouches
          exact absurd htouches.symm (entityOf_ne_isi _ _)
    · obtain ⟨j, hj, hl⟩ := List.mem_flatMap.mp hl
      have hsource := sensorLinks_source hl
      rcases htouches with htouches | htouches
      · rw [hsource] at htouches
        exact absurd htouches.symm (entityOf_ne_sensor _ _)
      · -- a sensor is linked to its own receiver, and this one's did not bind
        obtain ⟨node', h'⟩ := (lt_numSensors_iff ht).mp (List.mem_range.mp hj)
        have hsd := sensorLinks_sd hl
        rw [bindSensors_of_nodeAt ht h'] at hsd
        have hsink := (sensorLinks_sinks ht hn h' hsd _).mp ⟨l, hl, hsource, rfl⟩
        obtain rfl := nodeAt_entity h h' (htouches.symm.trans hsink)
        rw [hbound] at hsd
        exact absurd hsd Bool.false_ne_true

def UnboundBefore (tree : DeviceTree) (bound : Nat → Bool) (n id : Nat) : Prop :=
  ∃ i < n, ∃ node, nodeAt tree i = some node ∧ bound i = false ∧
    Feeds tree (entityOf node.receiver) id

theorem unboundBefore_succ {i : Nat} {node : ReceiverNode} (h : nodeAt tree i = some node)
    (hbound : bound i = false) (id : Nat) :
    UnboundBefore tree bound (i + 1) id ↔
      UnboundBefore tree bound i id ∨ Feeds tree (entityOf node.receiver) id := by
  unfold UnboundBefore
  rw [Nat.exists_lt_succ_right]
  refine or_congr_right ⟨?_, fun hid => ⟨node, h, hbound, hid⟩⟩
  rintro ⟨node', h', -, hid⟩
  obtain rfl := Option.some.inj (h.symm.trans h')
  exact hid

theorem unboundBefore_succ_bound {i : Nat} (hbound : bound i = true) (id : Nat) :
    UnboundBefore tree bound (i + 1) id ↔ UnboundBefore tree bound i id := by
  unfold UnboundBefore
  rw [Nat.exists_lt_succ_right]
  refine or_iff_left ?_
  rintro ⟨node, -, hunbound, -⟩
  exact Bool.false_ne_true (hunbound.symm.trans hbound)

theorem not_feeds_of_unboundBefore {i id : Nat} {node : ReceiverNode}
    (h : nodeAt tree i = some node) (hid : UnboundBefore tree bound i id) :
    ¬Feeds tree (entityOf node.receiver) id := by
  obtain ⟨j, hj, node', h', -, hfeeds⟩ := hid
  intro hfeeds'
  have hsame := nodeAt_entity h' h (feeds_unique hfeeds hfeeds')
  omega

/-- `mxc_md_clean_channel` for an entry that stands at the place of its receiver. -/
theorem mxcMdCleanChannel_swept (ht : Tabled tree.receivers t) (hn : Numbered tree bound)
    (hc : Cleanable tree bound) {i : Nat} {node : ReceiverNode} {g : Graph}
    (h : nodeAt tree i = some node) (hbound : bound i = false)
    (hg : Swept (graphLinks tree bound t) (UnboundBefore tree bound i) g) :
    ∃ g', mxcMdCleanChannel tree (bindSensors bound t) i g = (g', .ok ()) ∧
      Swept (graphLinks tree bound t) (UnboundBefore tree bound (i + 1)) g' := by
  have hplace := hc.place i node h hbound
  have hentry : (ArrayEntry.mipiCsi2 i).inBounds := hc.lt i node h hbound
  obtain ⟨g', hrun, hg'⟩ := channelLoop_swept (feedsOnly_unbound ht hn h hbound)
    (hc.channels i node h hbound) (fun id => not_feeds_of_unboundBefore h) (hg.access hentry)
  refine ⟨g', ?_, hg'.congr fun id => (unboundBefore_succ h hbound id).symm⟩
  unfold mxcMdCleanChannel
  unfold cleanedAt at hplace
  dsimp only
  rcases hreceiver : node.receiver with ⟨id, vchannel⟩ | dev
  · rw [hreceiver] at hplace hrun
    have hi : mipiCsi2 tree i ≠ none := by
      intro hnone
      rw [hnone] at hplace
      dsimp only at hplace
      split_ifs at hplace
      obtain ⟨dev, -, hdev⟩ := Option.map_eq_some_iff.mp hplace
      exact absurd hdev nofun
    obtain ⟨vchannel', hv⟩ := Option.ne_none_iff_exists'.mp hi
    rw [hv] at hplace ⊢
    obtain rfl := Entity.csi.inj (Option.some.inj hplace)
    rw [mipiCsi2_of_mem (nodeAt_mem h).1 hreceiver] at hv
    obtain rfl := Option.some.inj hv
    exact hrun
  · rw [hreceiver] at hplace hrun
    rcases hi : mipiCsi2 tree i with _ | vchannel
    · rw [hi] at hplace
      dsimp only at hplace ⊢
      split_ifs at hplace with hparallel
      obtain ⟨dev', hsd, hdev⟩ := Option.map_eq_some_iff.mp hplace
      obtain rfl := Entity.pcsi.inj hdev
      have hmode : (t.sensor i).mipiMode = false := by
        have hright := (modes_iff ht).mpr hn.fresh i node h
        rw [hreceiver] at hright
        exact Bool.eq_false_of_not_eq_true fun hset => Bool.false_ne_true (hright.mp hset)
      rw [bindSensors_of_nodeAt ht h]
      dsimp only
      rw [hparallel, hmode, hsd]
      -- a `pcsi` receiver has one pad, the turn of which is the whole loop
      rw [show channels (.pcsi dev') = 0 + 1 from rfl, List.range_succ, untilError_concat] at hrun
      exact hrun
    · rw [hi] at hplace
      exact absurd (Option.some.inj hplace) nofun

theorem unboundBefore_numSensors (ht : Tabled tree.receivers t) (id : Nat) :
    UnboundBefore tree bound t.numSensors id ↔ ∃ i node, nodeAt tree i = some node ∧
      bound i = false ∧ Feeds tree (entityOf node.receiver) id := by
  constructor
  · rintro ⟨i, -, node, h⟩
    exact ⟨i, node, h⟩
  · rintro ⟨i, node, h, hrest⟩
    exact ⟨i, (lt_numSensors_iff ht).mpr ⟨node, h⟩, node, h, hrest⟩

/-- `mxc_md_clean_unlink_channels`, where the places of the entries are right. -/
theorem mxcMdCleanUnlinkChannels_swept (ht : Tabled tree.receivers t)
    (hn : Numbered tree bound) (hc : Cleanable tree bound) {g : Graph}
    (hg : Swept (graphLinks tree bound t) (UnboundBefore tree bound 0) g) :
    ∃ g', mxcMdCleanUnlinkChannels tree (bindSensors bound t) g = (g', .ok ()) ∧
      Swept (graphLinks tree bound t) (UnboundBefore tree bound t.numSensors) g' := by
  unfold mxcMdCleanUnlinkChannels
  refine @untilError_range _
    (fun i => Swept (graphLinks tree bound t) (UnboundBefore tree bound i)) _ _ hg ?_
  intro i hi g hg
  change i < t.numSensors at hi
  have hentry : (ArrayEntry.sensor i).inBounds :=
    Nat.lt_of_lt_of_le hi (numSensors_le ht hn)
  obtain ⟨node, h⟩ := (lt_numSensors_iff ht).mp hi
  dsimp only
  rw [bindSensors_of_nodeAt ht h]
  dsimp only
  rcases hbound : bound i with _ | _
  · rw [if_neg Bool.false_ne_true]
    exact mxcMdCleanChannel_swept ht hn hc h hbound (hg.access hentry)
  · rw [if_pos rfl]
    exact ⟨_, rfl, (hg.access hentry).congr fun id => (unboundBefore_succ_bound hbound id).symm⟩

theorem swept_linked {g : Graph}
    (hext : Extends ArrayEntry.inBounds emptyGraph g (graphLinks tree bound t)) :
    Swept (graphLinks tree bound t) (UnboundBefore tree bound 0) g where
  links := by
    intro l
    rw [hext.links]
    constructor
    · intro hl
      exact ⟨hl, fun id ⟨i, hi, _⟩ => absurd hi (Nat.not_lt_zero i)⟩
    · rintro ⟨hl, -⟩
      exact hl
  removed := by
    intro e
    rw [hext.removed]
    constructor
    · intro he
      exact absurd he List.not_mem_nil
    · rintro ⟨id, -, i, hi, -⟩
      exact absurd hi (Nat.not_lt_zero i)
  accesses := fun entry hentry => (hext.accesses entry hentry).resolve_left List.not_mem_nil

theorem swept_cleaned (ht : Tabled tree.receivers t) (hn : Numbered tree bound)
    (hc : Cleanable tree bound) (hsupported : ∀ isi ∈ tree.isis, Supported isi.2) :
    Swept (graphLinks tree bound t) (UnboundBefore tree bound t.numSensors)
      (cleaned tree bound t) := by
  obtain ⟨g, hrun, hext⟩ := linked_numbered ht hn hsupported
  obtain ⟨g', hclean, hg'⟩ := mxcMdCleanUnlinkChannels_swept ht hn hc (swept_linked hext)
  have hcleaned : cleaned tree bound t = g' := by
    unfold cleaned
    rw [hrun]
    dsimp only
    rw [hclean]
  rw [hcleaned]
  exact hg'

theorem cleanedRight_of_cleanable (ht : Tabled tree.receivers t) (hn : Numbered tree bound)
    (hc : Cleanable tree bound) : CleanedRight tree bound t := by
  by_cases hsupported : ∀ isi ∈ tree.isis, Supported isi.2
  · have hswept := swept_cleaned ht hn hc hsupported
    constructor
    · exact hswept.accesses
    · intro e
      rw [hswept.removed e]
      simp only [unboundBefore_numSensors ht]
  · -- the links fail, so no sensor can have an entry
    obtain ⟨g, err, hrun, haccesses, hremoved, -⟩ := linked_unsupported bound t hsupported
    have hcleaned : cleaned tree bound t = g := by
      unfold cleaned
      rw [hrun]
    constructor
    · rw [hcleaned]
      exact haccesses
    · intro e
      rw [hcleaned, hremoved]
      constructor
      · intro he
        exact absurd he List.not_mem_nil
      · rintro ⟨id, -, i, node, h, hbound, -⟩
        exact absurd (hc.supported i node h hbound) hsupported

/-- The table and the links are right exactly where the numberings agree, and the channels
of the unbound sensors are taken out where the places of their receivers do. -/
theorem graph_right {tree : DeviceTree} (bound : Nat → Bool) {t : SensorTable}
    (h : registerSensorEntities tree.receivers = .ok t) :
    (LinkedRight tree bound t ↔ Numbered tree bound) ∧
      (Numbered tree bound → Cleanable tree bound → CleanedRight tree bound t) := by
  have ht := tabled_registerSensorEntities h
  refine ⟨⟨numbered_of_linkedRight ht, linkedRight_of_numbered ht⟩, ?_⟩
  exact cleanedRight_of_cleanable ht

/-- Two receivers in the order of their ports, each with a sensor and an ISI channel. -/
def twoCameras : DeviceTree where
  receivers := [⟨.csi 0 false, some (some ⟨0, true, some true⟩)⟩,
    ⟨.csi 1 false, some (some ⟨1, true, some true⟩)⟩]
  isis := [(0, ⟨2, 0, 2⟩), (1, ⟨3, 0, 2⟩)]
  parallelCsi := false
  csi_id := by
    intro node hnode id vchannel hreceiver
    simp only [List.mem_cons, List.not_mem_nil, or_false] at hnode
    rcases hnode with rfl | rfl
    · obtain ⟨rfl, -⟩ := Receiver.csi.inj hreceiver
      decide
    · obtain ⟨rfl, -⟩ := Receiver.csi.inj hreceiver
      decide
  receivers_nodup := by decide
  isi_lt := by decide
  isi_nodup := by decide

theorem nodeAt_twoCameras {i : Nat} {node : ReceiverNode}
    (h : nodeAt twoCameras i = some node) :
    i < 2 ∧ node.receiver = .csi i false := by
  match i, h with
  | 0, h =>
      obtain rfl := Option.some.inj h
      exact ⟨by decide, rfl⟩
  | 1, h =>
      obtain rfl := Option.some.inj h
      exact ⟨by decide, rfl⟩

theorem fedBy_twoCameras {i id channel : Nat} (h : FedBy twoCameras (.csi i) id channel) :
    id = i ∧ channel = 0 := by
  obtain ⟨interface, hmem, hfeed, rfl⟩ := h
  simp only [twoCameras, List.mem_cons, Prod.mk.injEq, List.not_mem_nil, or_false] at hmem
  rcases hmem with ⟨rfl, rfl⟩ | ⟨rfl, rfl⟩
  · exact ⟨Entity.csi.inj (Option.some.inj hfeed), rfl⟩
  · exact ⟨Entity.csi.inj (Option.some.inj hfeed), rfl⟩

theorem numbered_twoCameras (bound : Nat → Bool) : Numbered twoCameras bound where
  room := by
    intro a node b hsplit _
    have hlength := congrArg List.length hsplit
    have hfilter := List.length_filter_le isRegistered a
    simp only [twoCameras, List.length_cons, List.length_nil, List.length_append] at hlength
    unfold registered mxcMaxSensors
    omega
  fresh := by
    intro a node b hsplit _ hpcsi
    have hmem : node ∈ twoCameras.receivers := by
      rw [hsplit]
      simp
    have hcsi : ∀ node ∈ twoCameras.receivers, node.receiver.isCsi = true := by decide
    exact absurd (hpcsi.symm.trans (hcsi node hmem)) Bool.false_ne_true
  supported := fun _ _ _ _ => by decide
  parallel := by
    intro i node dev h _ hreceiver
    rw [(nodeAt_twoCameras h).2] at hreceiver
    exact absurd hreceiver nofun

theorem cleanable_twoCameras (bound : Nat → Bool) : Cleanable twoCameras bound where
  supported := fun _ _ _ _ => by decide
  lt := fun i node h _ => (nodeAt_twoCameras h).1
  place := by
    intro i node h _
    obtain ⟨hi, hreceiver⟩ := nodeAt_twoCameras h
    rw [hreceiver]
    match i, hi with
    | 0, _ => rfl
    | 1, _ => rfl
  channels := by
    intro i node h _
    rw [(nodeAt_twoCameras h).2]
    constructor
    · intro id id' channel hid hid'
      rw [(fedBy_twoCameras hid).1, (fedBy_twoCameras hid').1]
    · intro id channel hid
      rw [(fedBy_twoCameras hid).2]
      exact Nat.zero_lt_one
    · intro id channel hid j hj
      rw [(fedBy_twoCameras hid).2] at hj
      exact absurd hj (Nat.not_lt_zero j)

theorem graph_right_twoCameras : ∃ t, registerSensorEntities twoCameras.receivers = .ok t ∧
    LinkedRight twoCameras (fun i => i == 0) t ∧
    CleanedRight twoCameras (fun i => i == 0) t := by
  have hn := numbered_twoCameras fun i => i == 0
  refine ⟨_, rfl, ?_, ?_⟩
  · exact (graph_right (fun i => i == 0) rfl).1.mpr hn
  · exact (graph_right (fun i => i == 0) rfl).2 hn (cleanable_twoCameras _)

/-- Two cameras, of which the one on the second receiver comes first. -/
def swappedReceivers : DeviceTree where
  receivers := [⟨.csi 1 false, some (some ⟨1, true, some true⟩)⟩,
    ⟨.csi 0 false, some (some ⟨0, true, some true⟩)⟩]
  isis := [(0, ⟨2, 0, 2⟩), (1, ⟨3, 0, 2⟩)]
  parallelCsi := false
  csi_id := by
    intro node hnode id vchannel hreceiver
    simp only [List.mem_cons, List.not_mem_nil, or_false] at hnode
    rcases hnode with rfl | rfl
    · obtain ⟨rfl, -⟩ := Receiver.csi.inj hreceiver
      decide
    · obtain ⟨rfl, -⟩ := Receiver.csi.inj hreceiver
      decide
  receivers_nodup := by decide
  isi_lt := by decide
  isi_nodup := by decide

/-- A parallel camera after a receiver to which no camera is connected. -/
def emptyReceiver : DeviceTree where
  receivers := [⟨.csi 0 false, some (some ⟨0, true, none⟩)⟩,
    ⟨.pcsi 0, some (some ⟨0, true, some true⟩)⟩]
  isis := [(0, ⟨6, 0, 2⟩)]
  parallelCsi := true
  csi_id := by
    intro node hnode id vchannel hreceiver
    simp only [List.mem_cons, List.not_mem_nil, or_false] at hnode
    rcases hnode with rfl | rfl
    · obtain ⟨rfl, -⟩ := Receiver.csi.inj hreceiver
      decide
    · exact absurd hreceiver nofun
  receivers_nodup := by decide
  isi_lt := by decide
  isi_nodup := by decide

/-- The channel of a camera that did not bind stays when the camera comes first but is on
the second receiver (that of the other camera goes), and a parallel camera is linked to the
MIPI receiver before it. -/
theorem numberings_differ :
    (∃ t, registerSensorEntities swappedReceivers.receivers = .ok t ∧
      ¬CleanedRight swappedReceivers (fun i => i == 1) t) ∧
    ∃ t, registerSensorEntities emptyReceiver.receivers = .ok t ∧
      (t.sensor 0).mipiMode = true ∧ ¬LinkedRight emptyReceiver (fun _ => true) t := by
  refine ⟨⟨_, rfl, fun h => ?_⟩, _, rfl, rfl, fun h => ?_⟩
  · have hremoved := (h.removed (.isi 1)).mpr ⟨1, rfl, 0, _, rfl, rfl, ⟨3, 0, 2⟩, by decide, rfl⟩
    change Entity.isi 1 ∈ [Entity.isi 0] at hremoved
    exact absurd hremoved (by decide)
  · exact absurd ((h.modes 0 _ rfl).mp rfl) Bool.false_ne_true

end Cleaning

end CameraPorting.MediaDev.ChannelCleaning
