import CameraPorting.Isi.Containment

namespace CameraPorting.Isi.DiscardBuffers

open CameraPorting.Kernel.Media
open CameraPorting.Isi.Device
open CameraPorting.Isi.Channel
open CameraPorting.Isi.CaptureQueue
open CameraPorting.Isi.BufferRotation
open CameraPorting.Isi.Formats
open CameraPorting.Isi.Ioctls
open CameraPorting.Isi.FrameSizes
open CameraPorting.Isi.Streaming
open CameraPorting.Isi.Containment
open CameraPorting.Library.Runs

/-- The address of plane `p`. -/
def planeOf (paddr : FrameAddr) : Nat → U32
  | 0 => paddr.y
  | 1 => paddr.cb
  | _ => paddr.cr

/-- While the queue streams, every discard node in a slot has been handed to the
channel with, for each plane of the programmed format, the address of a live
allocation that is large enough. An idle queue has no allocation. -/
structure DiscardValid (s : CaptureNode) : Prop where
  streaming : s.queueStreaming = true → ∃ fmt, s.configured.fmt = some fmt ∧
    ∀ k, BufRef.discard k ∈ s.cap.outActive → ∀ p, p < fmt.memplanes →
      ∃ a ∈ s.cap.dmaAllocs, a.dmaAddr = planeOf (s.cap.buf (.discard k)).paddr p ∧
        (s.configured.sizeimage p).toNat ≤ a.size
  idle : s.queueStreaming = false → s.cap.dmaAllocs = []

/-- The allocation of plane `i`. -/
def discardAlloc (cap : MxcIsiCapDev) (i : Nat) : DmaAlloc :=
  ⟨cap.discardBufferDma i, pageAlign (cap.discardSize i)⟩

theorem le_pageAlign (size : U32) : size.toNat ≤ pageAlign size := by
  unfold pageAlign
  omega

theorem foldl_erase_map {f : Nat → DmaAlloc} (l : List Nat) :
    l.foldl (fun allocs i => allocs.erase (f i)) (l.map f) = [] := by
  induction l with
  | nil => rfl
  | cons i l ih => rw [List.map_cons, List.foldl_cons, List.erase_cons_head, ih]

theorem freeDiscardBuffers_allocs {cap : MxcIsiCapDev} {n : Nat}
    (h : cap.dmaAllocs = (List.range n).map (discardAlloc cap)) :
    (freeDiscardBuffers cap n).dmaAllocs = [] := by
  change (List.range n).foldl (fun allocs i => allocs.erase (discardAlloc cap i))
    cap.dmaAllocs = []
  rw [h, foldl_erase_map]

/-- The allocation loop holds the allocations of the planes done so far; where one
fails, it has none left. -/
theorem allocDiscardBuffers_allocs (alloc : Nat → Option U32) (todo i : Nat)
    {cap : MxcIsiCapDev} (hallocs : cap.dmaAllocs = (List.range i).map (discardAlloc cap))
    (hsize : ∀ j, j < i → cap.discardSize j = cap.dstF.sizeimage j) :
    match allocDiscardBuffers alloc todo i cap with
    | (cap', .ok ()) => cap'.dmaAllocs = (List.range (i + todo)).map (discardAlloc cap') ∧
        ∀ j, j < i + todo → cap'.discardSize j = cap.dstF.sizeimage j
    | (cap', .error _) => cap'.dmaAllocs = [] := by
  induction todo generalizing i cap with
  | zero => exact ⟨hallocs, hsize⟩
  | succ todo ih =>
      have hold : ∀ (dma : Nat → U32), (∀ j, j < i → dma j = cap.discardBufferDma j) →
          (List.range i).map (discardAlloc cap) =
            (List.range i).map fun j => (⟨dma j, pageAlign (Function.update cap.discardSize i
              (cap.dstF.sizeimage i) j)⟩ : DmaAlloc) := by
        intro dma hdma
        refine List.map_congr_left fun j hj => ?_
        have hlt := List.mem_range.mp hj
        rw [discardAlloc, hdma j hlt, Function.update_of_ne (Nat.ne_of_lt hlt)]
      rw [show i + (todo + 1) = i + 1 + todo by omega]
      rcases halloc : alloc i with _ | dma
      · simp only [allocDiscardBuffers, halloc]
        apply freeDiscardBuffers_allocs
        exact hallocs.trans (hold cap.discardBufferDma fun _ _ => rfl)
      · simp only [allocDiscardBuffers, halloc]
        apply ih
        · rw [List.range_succ, List.map_append]
          dsimp only
          rw [hallocs, hold (Function.update cap.discardBufferDma i dma)
            fun j hj => Function.update_of_ne (Nat.ne_of_lt hj) _ _]
          simp [discardAlloc]
        · intro j hj
          rcases Nat.lt_succ_iff_lt_or_eq.mp hj with hlt | rfl
          · change Function.update cap.discardSize i _ j = _
            rw [Function.update_of_ne (Nat.ne_of_lt hlt)]
            exact hsize j hlt
          · exact Function.update_self _ _ _

/-- The data the two loops over the discard buffers use stays. -/
structure SameAllocs (cap cap' : MxcIsiCapDev) : Prop where
  pix : cap'.pix = cap.pix
  size : cap'.discardSize = cap.discardSize
  dma : cap'.discardBufferDma = cap.discardBufferDma
  allocs : cap'.dmaAllocs = cap.dmaAllocs

theorem sameAllocs_refl (cap : MxcIsiCapDev) : SameAllocs cap cap := ⟨rfl, rfl, rfl, rfl⟩

theorem SameAllocs.trans {a b c : MxcIsiCapDev} (hab : SameAllocs a b) (hbc : SameAllocs b c) :
    SameAllocs a c :=
  ⟨hbc.pix.trans hab.pix, hbc.size.trans hab.size, hbc.dma.trans hab.dma,
    hbc.allocs.trans hab.allocs⟩

/-- The discard nodes are marked, and those in a slot have the addresses of the
discard buffers. -/
structure Ready (cap : MxcIsiCapDev) : Prop where
  marked : ∀ k, (cap.buf (.discard k)).discard = true
  addrs : ∀ k, BufRef.discard k ∈ cap.outActive → ∀ p, p < cap.pix.numPlanes →
    planeOf (cap.buf (.discard k)).paddr p = cap.discardBufferDma p

/-- `mxc_isi_channel_set_outbuf` fills as many addresses as there are planes. -/
theorem planeOf_planeAddr {n : Nat} (hn : n ≤ 3) (dma : Nat → U32) (paddr : FrameAddr)
    {p : Nat} (hp : p < n) : planeOf (planeAddr n dma paddr) p = dma p := by
  rcases n with _ | _ | _ | _ | n
  · omega
  · obtain rfl : p = 0 := by omega
    rfl
  · rcases p with _ | _ | p
    · rfl
    · rfl
    · omega
  · rcases p with _ | _ | _ | p
    · rfl
    · rfl
    · rfl
    · omega
  · omega

/-- What an operation does that programs no discard node and puts none in a slot. -/
structure KeepsDiscards (cap cap' : MxcIsiCapDev) : Prop extends SameAllocs cap cap' where
  marked : ∀ k, (cap'.buf (.discard k)).discard = (cap.buf (.discard k)).discard
  paddr : ∀ k, (cap'.buf (.discard k)).paddr = (cap.buf (.discard k)).paddr
  active : ∀ k, BufRef.discard k ∈ cap'.outActive → BufRef.discard k ∈ cap.outActive

theorem KeepsDiscards.trans {a b c : MxcIsiCapDev} (hab : KeepsDiscards a b)
    (hbc : KeepsDiscards b c) : KeepsDiscards a c :=
  ⟨hab.toSameAllocs.trans hbc.toSameAllocs, fun k => (hbc.marked k).trans (hab.marked k),
    fun k => (hbc.paddr k).trans (hab.paddr k), fun k hk => hab.active k (hbc.active k hk)⟩

theorem KeepsDiscards.ready {cap cap' : MxcIsiCapDev} (h : KeepsDiscards cap cap')
    (hcap : Ready cap) : Ready cap' := by
  constructor
  · intro k
    rw [h.marked]
    exact hcap.marked k
  · intro k hk p hp
    rw [h.paddr, h.dma]
    rw [h.pix] at hp
    exact hcap.addrs k (h.active k hk) p hp

theorem keepsDiscards_setNode (cap : MxcIsiCapDev) (r : BufRef) (b : MxcIsiBuffer)
    (hdiscard : b.discard = (cap.buf r).discard) (hpaddr : b.paddr = (cap.buf r).paddr) :
    KeepsDiscards cap { cap with buf := Function.update cap.buf r b } := by
  refine ⟨⟨rfl, rfl, rfl, rfl⟩, fun k => ?_, fun k => ?_, fun _ hk => hk⟩
  · change (Function.update cap.buf r b (.discard k)).discard = _
    rcases eq_or_ne (BufRef.discard k) r with rfl | hne
    · rw [Function.update_self, hdiscard]
    · rw [Function.update_of_ne hne]
  · change (Function.update cap.buf r b (.discard k)).paddr = _
    rcases eq_or_ne (BufRef.discard k) r with rfl | hne
    · rw [Function.update_self, hpaddr]
    · rw [Function.update_of_ne hne]

theorem keepsDiscards_setUser (cap : MxcIsiCapDev) (i : Nat) (b : MxcIsiBuffer) :
    KeepsDiscards cap { cap with buf := Function.update cap.buf (.user i) b } :=
  ⟨⟨rfl, rfl, rfl, rfl⟩, fun _ => rfl, fun _ => rfl, fun _ hk => hk⟩

theorem ready_setOutbuf {cap : MxcIsiCapDev} (h : Ready cap) (hplanes : cap.pix.numPlanes ≤ 3)
    (r : BufRef) {active : List BufRef}
    (hactive : ∀ k, BufRef.discard k ∈ active → .discard k ∈ cap.outActive ∨ .discard k = r) :
    Ready { mxcIsiChannelSetOutbuf cap r with outActive := active } := by
  constructor
  · intro k
    change (Function.update cap.buf r _ (.discard k)).discard = true
    rcases eq_or_ne (BufRef.discard k) r with rfl | hne
    · rw [Function.update_self]
      exact h.marked k
    · rw [Function.update_of_ne hne]
      exact h.marked k
  · intro k hk p hp
    change planeOf (Function.update cap.buf r _ (.discard k)).paddr p = cap.discardBufferDma p
    rcases eq_or_ne (BufRef.discard k) r with rfl | hne
    · rw [Function.update_self]
      change planeOf (outbufAddr cap (cap.buf (.discard k))) p = _
      rw [outbufAddr, if_pos (h.marked k)]
      exact planeOf_planeAddr hplanes _ _ hp
    · rw [Function.update_of_ne hne]
      exact h.addrs k ((hactive k hk).resolve_right hne) p hp

/-- What the operations of a stream do: the discard nodes stay ready. -/
structure KeepsReady (cap cap' : MxcIsiCapDev) : Prop extends SameAllocs cap cap' where
  ready : cap.pix.numPlanes ≤ 3 → Ready cap → Ready cap'

theorem KeepsDiscards.keepsReady {cap cap' : MxcIsiCapDev} (h : KeepsDiscards cap cap') :
    KeepsReady cap cap' :=
  ⟨h.toSameAllocs, fun _ => h.ready⟩

theorem keepsReady_refl (cap : MxcIsiCapDev) : KeepsReady cap cap :=
  ⟨sameAllocs_refl cap, fun _ h => h⟩

theorem KeepsReady.trans {a b c : MxcIsiCapDev} (hab : KeepsReady a b) (hbc : KeepsReady b c) :
    KeepsReady a c := by
  refine ⟨hab.toSameAllocs.trans hbc.toSameAllocs, fun hplanes ha => ?_⟩
  apply hbc.ready
  · rw [hab.pix]
    exact hplanes
  · exact hab.ready hplanes ha

theorem KeepsReady.relink {cap cap' last : MxcIsiCapDev} (h : KeepsReady cap cap')
    (hsame : SameAllocs cap' last) (hbuf : last.buf = cap'.buf)
    (hactive : last.outActive = cap'.outActive) : KeepsReady cap last := by
  refine ⟨h.toSameAllocs.trans hsame, fun hplanes hcap => ?_⟩
  have hready := h.ready hplanes hcap
  constructor
  · intro k
    rw [hbuf]
    exact hready.marked k
  · intro k hk p hp
    rw [hactive] at hk
    rw [hsame.pix] at hp
    rw [hbuf, hsame.dma]
    exact hready.addrs k hk p hp

theorem keepsDiscards_setSequence (cap : MxcIsiCapDev) (r : BufRef) (n : U32) :
    KeepsDiscards cap (setSequence cap r n) :=
  keepsDiscards_setNode cap r _ rfl rfl

theorem keepsDiscards_setState (cap : MxcIsiCapDev) (r : BufRef) (st : Vb2BufferState) :
    KeepsDiscards cap (setState cap r st) :=
  keepsDiscards_setNode cap r _ rfl rfl

theorem keepsDiscards_retireOutbuf {cap : MxcIsiCapDev} {r : BufRef} {rest : List BufRef}
    (h : cap.outActive = r :: rest) : KeepsDiscards cap (retireOutbuf cap r rest) := by
  have hrest : ∀ k, BufRef.discard k ∈ rest → BufRef.discard k ∈ cap.outActive := by
    intro k hk
    rw [h]
    exact List.mem_cons_of_mem r hk
  rw [retireOutbuf]
  dsimp only
  split_ifs
  · exact ⟨⟨rfl, rfl, rfl, rfl⟩, fun _ => rfl, fun _ => rfl, hrest⟩
  · have hset := keepsDiscards_setState cap r .done
    exact ⟨⟨rfl, rfl, rfl, rfl⟩, hset.marked, hset.paddr, hrest⟩

theorem keepsReady_program {cap cap' : MxcIsiCapDev} (h : KeepsDiscards cap cap') (r : BufRef)
    {active : List BufRef}
    (hactive : ∀ k, BufRef.discard k ∈ active → .discard k ∈ cap'.outActive ∨ .discard k = r) :
    KeepsReady cap { mxcIsiChannelSetOutbuf cap' r with outActive := active } := by
  refine ⟨⟨h.pix, h.size, h.dma, h.allocs⟩, fun hplanes hready => ?_⟩
  apply ready_setOutbuf (h.ready hready)
  · rw [h.pix]
    exact hplanes
  · exact hactive

theorem mem_concat_node {active : List BufRef} {r : BufRef} (k : Fin 2)
    (h : BufRef.discard k ∈ active ++ [r]) : .discard k ∈ active ∨ .discard k = r := by
  rcases List.mem_append.mp h with h | h
  · exact .inl h
  · exact .inr (List.mem_singleton.mp h)

theorem keepsReady_refillOutbuf (cap : MxcIsiCapDev) : KeepsReady cap (refillOutbuf cap) := by
  rw [refillOutbuf]
  split
  · split
    · exact (keepsReady_refl cap).relink ⟨rfl, rfl, rfl, rfl⟩ rfl rfl
    · rename_i r rest hdiscard
      have hprogram := keepsReady_program (keepsDiscards_setSequence cap r cap.frameCount) r
        mem_concat_node
      exact hprogram.relink ⟨rfl, rfl, rfl, rfl⟩ rfl rfl
  · rename_i r rest hpending
    have hprogram := (keepsReady_program (keepsDiscards_setSequence cap r cap.frameCount) r
      mem_concat_node).trans (keepsDiscards_setState _ r .active).keepsReady
    exact hprogram.relink ⟨rfl, rfl, rfl, rfl⟩ rfl rfl

theorem keepsReady_frameWriteDone (cap : MxcIsiCapDev) :
    KeepsReady cap (mxcIsiCapFrameWriteDone cap) := by
  rw [mxcIsiCapFrameWriteDone]
  split
  · exact (keepsReady_refl cap).relink ⟨rfl, rfl, rfl, rfl⟩ rfl rfl
  · rename_i r rest hactive
    split_ifs
    · exact keepsReady_refl cap
    · exact (keepsDiscards_retireOutbuf hactive).keepsReady.trans (keepsReady_refillOutbuf _)

theorem keepsDiscards_onChannel (cap : MxcIsiCapDev) (isi : MxcIsiDev) :
    KeepsDiscards cap { cap with isi := isi } :=
  ⟨⟨rfl, rfl, rfl, rfl⟩, fun _ => rfl, fun _ => rfl, fun _ hk => hk⟩

theorem keepsReady_irqHandler (cap : MxcIsiCapDev) (status : U32) :
    KeepsReady cap (mxcIsiIrqHandler cap status) := by
  have hclean := (keepsDiscards_onChannel cap
    (mxcIsiCleanIrqStatus { cap.isi with status := status } status)).keepsReady
  rw [mxcIsiIrqHandler]
  dsimp only
  split_ifs
  · exact hclean
  · exact hclean.trans (keepsReady_frameWriteDone _)
  · exact hclean

theorem keepsDiscards_bufferQueue (cap : MxcIsiCapDev) (i : Nat) :
    KeepsDiscards cap (capVb2BufferQueue cap (.user i)) :=
  ⟨⟨rfl, rfl, rfl, rfl⟩, fun _ => rfl, fun _ => rfl, fun _ hk => hk⟩

theorem keepsDiscards_handOver (cap : MxcIsiCapDev) (queued : List Nat) :
    KeepsDiscards cap (handOver cap queued) := by
  induction queued generalizing cap with
  | nil => exact keepsDiscards_onChannel cap cap.isi
  | cons i queued ih => exact (keepsDiscards_bufferQueue cap i).trans (ih _)

theorem keepsDiscards_renumber (cap : MxcIsiCapDev) (r : BufRef) (n : U32) :
    KeepsDiscards cap (setState (setSequence cap r n) r .active) :=
  (keepsDiscards_setSequence cap r n).trans (keepsDiscards_setState _ r .active)

theorem keepsReady_startDiscard (cap : MxcIsiCapDev) : KeepsReady cap (startDiscard cap) := by
  rw [startDiscard]
  split
  · exact (keepsReady_refl cap).relink ⟨rfl, rfl, rfl, rfl⟩ rfl rfl
  · rename_i r rest hdiscard
    have hprogram := keepsReady_program (keepsDiscards_renumber cap r 0#32) r mem_concat_node
    exact hprogram.relink ⟨rfl, rfl, rfl, rfl⟩ rfl rfl

theorem keepsReady_startPending (cap : MxcIsiCapDev) : KeepsReady cap (startPending cap) := by
  rw [startPending]
  split
  · exact (keepsReady_refl cap).relink ⟨rfl, rfl, rfl, rfl⟩ rfl rfl
  · rename_i r rest hpending
    have hprogram := keepsReady_program (keepsDiscards_renumber cap r 1#32) r mem_concat_node
    exact hprogram.relink ⟨rfl, rfl, rfl, rfl⟩ rfl rfl

theorem ready_programOutbufs {cap : MxcIsiCapDev} (hactive : cap.outActive = [])
    (hplanes : cap.pix.numPlanes ≤ 3) :
    Ready (programOutbufs cap) ∧ SameAllocs cap (programOutbufs cap) := by
  have hmarked : Ready (addDiscard (addDiscard cap 0) 1) := by
    constructor
    · intro k
      rcases (by omega : k = 0 ∨ k = 1) with rfl | rfl <;> simp [addDiscard]
    · intro k hk
      change BufRef.discard k ∈ cap.outActive at hk
      rw [hactive] at hk
      exact absurd hk List.not_mem_nil
  have hslots := (keepsReady_startDiscard (addDiscard (addDiscard cap 0) 1)).trans
    (keepsReady_startPending _)
  have hready := hslots.ready hplanes hmarked
  rw [programOutbufs_eq]
  exact ⟨⟨hready.marked, hready.addrs⟩, ⟨hslots.pix, hslots.size, hslots.dma, hslots.allocs⟩⟩

theorem startStreaming_allocs {cap : MxcIsiCapDev} (hallocs : cap.dmaAllocs = [])
    (hactive : cap.outActive = []) (hplanes : cap.pix.numPlanes ≤ 3) (hostdata : Bool)
    (alloc : Nat → Option U32) (count : Nat) :
    match capVb2StartStreaming cap hostdata alloc count with
    | (cap', .ok ()) => Ready cap' ∧ cap'.pix = cap.pix ∧
        cap'.dmaAllocs = (List.range cap.pix.numPlanes).map (discardAlloc cap') ∧
        ∀ j, j < cap.pix.numPlanes → cap'.discardSize j = cap.dstF.sizeimage j
    | (cap', .error _) => cap'.pix = cap.pix ∧ cap'.dmaAllocs = [] ∧ cap'.outActive = [] := by
  rw [capVb2StartStreaming]
  split_ifs
  · exact ⟨rfl, hallocs, hactive⟩
  · exact ⟨rfl, hallocs, hactive⟩
  · have hloop := @allocDiscardBuffers_allocs alloc cap.pix.numPlanes 0 cap hallocs
      fun j hj => absurd hj (Nat.not_lt_zero j)
    obtain ⟨size, dma, allocs, hframe⟩ :=
      allocDiscardBuffers_frame alloc cap.pix.numPlanes 0 cap
    rcases hresult : allocDiscardBuffers alloc cap.pix.numPlanes 0 cap with ⟨cap', e | ⟨⟩⟩
    · rw [hresult] at hloop hframe
      change cap' = _ at hframe
      refine ⟨?_, hloop, ?_⟩
      · rw [hframe]
      · rw [hframe]
        exact hactive
    · rw [hresult] at hloop hframe
      change cap' = _ at hframe
      obtain ⟨hlive, hsizes⟩ := hloop
      rw [Nat.zero_add] at hlive hsizes
      have hpix : cap'.pix = cap.pix := by rw [hframe]
      obtain ⟨hready, hsame⟩ := @ready_programOutbufs cap' (by rw [hframe]; exact hactive)
        (by rw [hpix]; exact hplanes)
      refine ⟨hready, hsame.pix.trans hpix, ?_, ?_⟩
      · rw [hsame.allocs, hlive]
        refine List.map_congr_left fun i _ => ?_
        rw [discardAlloc, discardAlloc, hsame.dma, hsame.size]
      · intro j hj
        rw [hsame.size]
        exact hsizes j hj

theorem sameAllocs_foldl {step : MxcIsiCapDev → BufRef → MxcIsiCapDev}
    (hstep : ∀ cap r, SameAllocs cap (step cap r)) (nodes : List BufRef) (cap : MxcIsiCapDev) :
    SameAllocs cap (nodes.foldl step cap) := by
  induction nodes generalizing cap with
  | nil => exact sameAllocs_refl cap
  | cons r rest ih => exact (hstep cap r).trans (ih (step cap r))

theorem sameAllocs_drained (cap : MxcIsiCapDev) : SameAllocs cap (drained cap) := by
  have hreturn : ∀ cap r, SameAllocs cap (returnActive cap r) := by
    intro cap r
    rw [returnActive]
    split_ifs
    · exact sameAllocs_refl cap
    · exact ⟨rfl, rfl, rfl, rfl⟩
  have hdone : ∀ cap r, SameAllocs cap (vb2BufferDone cap r .error) :=
    fun _ _ => ⟨rfl, rfl, rfl, rfl⟩
  have hdisable : SameAllocs cap { cap with isi := mxcIsiChannelDisable cap.isi } :=
    ⟨rfl, rfl, rfl, rfl⟩
  exact (hdisable.trans (sameAllocs_foldl hreturn _ _)).trans (sameAllocs_foldl hdone _ _)

theorem stopStreaming_allocs {cap : MxcIsiCapDev}
    (h : cap.dmaAllocs = (List.range cap.pix.numPlanes).map (discardAlloc cap)) :
    (capVb2StopStreaming cap).dmaAllocs = [] ∧ (capVb2StopStreaming cap).pix = cap.pix := by
  have hsame := sameAllocs_drained cap
  have hlive : (drained cap).dmaAllocs =
      (List.range (drained cap).pix.numPlanes).map (discardAlloc (drained cap)) := by
    rw [hsame.allocs, hsame.pix, h]
    refine List.map_congr_left fun i _ => ?_
    rw [discardAlloc, discardAlloc, hsame.dma, hsame.size]
  have hfreed : (freeDiscardBuffers { drained cap with
      outActive := [], outPending := [], outDiscard := [] }
        (drained cap).pix.numPlanes).dmaAllocs = [] :=
    freeDiscardBuffers_allocs hlive
  exact ⟨hfreed, hsame.pix⟩

/-- The planes of the frame are among the discard buffers, and fit them. -/
def FrameCovered (f : MxcIsiFrame) (cap : MxcIsiCapDev) : Prop :=
  ∃ fmt, f.fmt = some fmt ∧ fmt.memplanes ≤ cap.pix.numPlanes ∧
    ∀ p, p < fmt.memplanes → (f.sizeimage p).toNat ≤ pageAlign (cap.discardSize p)

/-- The invariant of the runs. -/
structure Books (s : CaptureNode) : Prop where
  planes : s.cap.pix.numPlanes ≤ 3
  busy : s.queueStreaming = true ∨ s.prepared ≠ [] → s.busy = true
  idle : s.queueStreaming = false → s.cap.dmaAllocs = [] ∧ s.cap.outActive = []
  allocs : s.queueStreaming = true →
    s.cap.dmaAllocs = (List.range s.cap.pix.numPlanes).map (discardAlloc s.cap)
  ready : s.queueStreaming = true → Ready s.cap
  frame : s.queueStreaming = true → FrameCovered s.configured s.cap

theorem Books.valid {s : CaptureNode} (h : Books s) : DiscardValid s := by
  constructor
  · intro hstream
    obtain ⟨fmt, hfmt, hplanes, hsizes⟩ := h.frame hstream
    refine ⟨fmt, hfmt, fun k hk p hp => ?_⟩
    have hlt : p < s.cap.pix.numPlanes := lt_of_lt_of_le hp hplanes
    refine ⟨discardAlloc s.cap p, ?_, ((h.ready hstream).addrs k hk p hlt).symm, hsizes p hp⟩
    rw [h.allocs hstream]
    exact List.mem_map_of_mem (List.mem_range.mpr hlt)
  · intro hidle
    exact (h.idle hidle).1

theorem books_of_idle {s : CaptureNode} (hidle : s.queueStreaming = false)
    (hplanes : s.cap.pix.numPlanes ≤ 3) (hheld : s.prepared ≠ [] → s.busy = true)
    (hallocs : s.cap.dmaAllocs = []) (hactive : s.cap.outActive = []) : Books s := by
  have hnever : ∀ {P : Prop}, s.queueStreaming = true → P := fun hstream =>
    absurd (hidle.symm.trans hstream) Bool.false_ne_true
  refine ⟨hplanes, ?_, fun _ => ⟨hallocs, hactive⟩, hnever, hnever, hnever⟩
  rintro (hstream | hprepared)
  · exact hnever hstream
  · exact hheld hprepared

theorem Books.carry {s s' : CaptureNode} (h : Books s) (hkeep : KeepsReady s.cap s'.cap)
    (hqueue : s'.queueStreaming = s.queueStreaming) (hnum : s'.numBuffers = s.numBuffers)
    (hprepared : s'.prepared ≠ [] → s.busy = true)
    (hconfigured : s'.configured = s.configured)
    (hidle : s'.queueStreaming = false → s'.cap.outActive = []) : Books s' := by
  have hbusy : s'.busy = s.busy := by
    rw [CaptureNode.busy, CaptureNode.busy, hnum]
  constructor
  · rw [hkeep.pix]
    exact h.planes
  · rintro (hstream | hheld)
    · rw [hbusy]
      exact h.busy (.inl (hqueue.symm.trans hstream))
    · rw [hbusy]
      exact hprepared hheld
  · intro hfree
    refine ⟨?_, hidle hfree⟩
    rw [hkeep.allocs]
    exact (h.idle (hqueue.symm.trans hfree)).1
  · intro hstream
    rw [hkeep.allocs, h.allocs (hqueue.symm.trans hstream), hkeep.pix]
    refine List.map_congr_left fun i _ => ?_
    rw [discardAlloc, discardAlloc, hkeep.dma, hkeep.size]
  · intro hstream
    exact hkeep.ready h.planes (h.ready (hqueue.symm.trans hstream))
  · intro hstream
    obtain ⟨fmt, hfmt, hplanes, hsizes⟩ := h.frame (hqueue.symm.trans hstream)
    refine ⟨fmt, ?_, ?_, ?_⟩
    · rw [hconfigured]
      exact hfmt
    · rw [hkeep.pix]
      exact hplanes
    · intro p hp
      rw [hconfigured, hkeep.size]
      exact hsizes p hp

/-- The condition on the single calls: where STREAMON programs the channel and the
queue streams afterwards, S_FMT has set as many planes as the output format has,
and a queue that streamed before has discard buffers large enough. A start finds the
driver's lists empty. -/
def StartCovered (s : CaptureNode) : CaptureOp → Prop
  | .streamon env =>
      StartsClean s env ∧
        (Negotiates s.toPipeline env →
          if s.queueStreaming then FrameCovered s.cap.dstF s.cap
          else
            QueueStarts s.toPipeline { env.vb2 with queued := s.prepared } →
              ∃ fmt, s.cap.dstF.fmt = some fmt ∧ fmt.memplanes ≤ s.cap.pix.numPlanes)
  | _ => True

theorem outFormats_memplanes : ∀ fmt ∈ mxcIsiOutFormats, fmt.memplanes ≤ 3 := by
  decide

theorem numPlanes_sFmt {cap : MxcIsiCapDev} (h : cap.pix.numPlanes ≤ 3) (busy : Bool)
    (pix : V4l2PixFormatMplane) :
    (mxcIsiCapSFmtMplane cap busy pix).1.pix.numPlanes ≤ 3 := by
  rw [mxcIsiCapSFmtMplane]
  split
  · exact h
  · split
    · exact h
    · rename_i fmt hfmt
      split
      · exact h
      · exact outFormats_memplanes fmt (List.mem_of_find?_eq_some hfmt)

theorem books_sFmt {s : CaptureNode} (h : Books s) (pix : V4l2PixFormatMplane) :
    Books (captureStep s (.sFmt pix)) := by
  rcases hbusy : s.busy with _ | _
  · have hfree : s.queueStreaming = false := by
      rcases hqueue : s.queueStreaming with _ | _
      · rfl
      · rw [h.busy (.inl hqueue)] at hbusy
        cases hbusy
    obtain ⟨pix', dstF, hcap, hnode⟩ := captureStep_sFmt s pix
    have hplanes := numPlanes_sFmt h.planes s.busy pix
    rw [hcap] at hplanes
    rw [hnode]
    exact books_of_idle hfree hplanes (fun hp => h.busy (.inr hp)) (h.idle hfree).1
      (h.idle hfree).2
  · have hsame : captureStep s (.sFmt pix) = s := by
      change { s with cap := (mxcIsiCapSFmtMplane s.cap s.busy pix).1 } = s
      rw [sFmt_refused (.inl hbusy)]
    rw [hsame]
    exact h

theorem books_setFmt {s : CaptureNode} (h : Books s) (isMn : Bool) (pad : Nat)
    (mf : MbusFramefmt) : Books (captureStep s (.setFmt isMn pad mf)) := by
  obtain ⟨dstF, -, hnode⟩ := captureStep_setFmt s isMn pad mf
  rw [hnode]
  refine h.carry (KeepsDiscards.keepsReady ?_) rfl rfl (fun hp => h.busy (.inr hp)) rfl
    fun hidle => (h.idle hidle).2
  exact ⟨⟨rfl, rfl, rfl, rfl⟩, fun _ => rfl, fun _ => rfl, fun _ hk => hk⟩

theorem books_reqBufs {s : CaptureNode} (h : Books s) (granted : Nat) :
    Books (captureStep s (.reqBufs granted)) := by
  change Books (vb2CoreReqbufs s granted)
  rw [vb2CoreReqbufs]
  split_ifs with hqueue
  · exact h
  · have hidle : s.queueStreaming = false := Bool.eq_false_iff.mpr hqueue
    obtain ⟨hallocs, hactive⟩ := h.idle hidle
    dsimp only
    split
    · exact books_of_idle hidle h.planes (fun hheld => absurd rfl hheld) hallocs hactive
    · exact books_of_idle hidle h.planes (fun hheld => absurd rfl hheld) hallocs hactive

theorem books_qBuf {s : CaptureNode} (h : Books s) (i : Nat) (planes : List Vb2Plane) :
    Books (captureStep s (.qBuf i planes)) := by
  change Books (vb2CoreQbuf s i planes)
  rcases qbuf_cases s i planes with hrefused | ⟨hi, -, hresult⟩
  · rw [hrefused]
    exact h
  have hbusy : s.busy = true := by
    simp [CaptureNode.busy]
    omega
  have hset : KeepsReady s.cap (setPlanes s i planes).cap :=
    (keepsDiscards_setUser s.cap i _).keepsReady
  have hidle : ∀ cap : MxcIsiCapDev, cap.outActive = s.cap.outActive →
      s.queueStreaming = false → cap.outActive = [] :=
    fun cap hactive hfree => hactive.trans (h.idle hfree).2
  rcases hresult with hstay | hqueued | hprepared
  · rw [hstay]
    exact h.carry hset rfl rfl (fun _ => hbusy) rfl (hidle _ rfl)
  · rw [hqueued]
    exact h.carry (hset.trans (keepsDiscards_bufferQueue _ i).keepsReady) rfl rfl
      (fun _ => hbusy) rfl (hidle _ rfl)
  · rw [hprepared]
    exact h.carry hset rfl rfl (fun _ => hbusy) rfl (hidle _ rfl)

theorem books_frameDone {s : CaptureNode} (h : Books s) (status : U32) :
    Books (captureStep s (.frameDone status)) := by
  refine h.carry (keepsReady_irqHandler s.cap status) rfl rfl (fun hp => h.busy (.inr hp)) rfl ?_
  intro hidle
  have hactive := (h.idle hidle).2
  exact (irqHandler_idle s.cap status hactive).2.1.trans hactive

theorem books_cancel {s : CaptureNode} (h : Books s) {prepared : List Nat}
    (hprepared : prepared ≠ [] → s.busy = true) :
    Books { s with toPipeline := vb2QueueCancel s.toPipeline, prepared := prepared } := by
  rw [vb2QueueCancel]
  split_ifs with hqueue
  · obtain ⟨hallocs, hpix⟩ := stopStreaming_allocs (h.allocs hqueue)
    refine books_of_idle rfl ?_ hprepared hallocs rfl
    change (capVb2StopStreaming s.cap).pix.numPlanes ≤ 3
    rw [hpix]
    exact h.planes
  · exact h.carry (keepsReady_refl _) rfl rfl hprepared rfl fun hidle => (h.idle hidle).2

theorem books_onChannel {s : CaptureNode} (h : Books s) (isi : MxcIsiDev) :
    Books { s with cap := { s.cap with isi := isi } } :=
  h.carry (keepsDiscards_onChannel s.cap isi).keepsReady rfl rfl
    (fun hp => h.busy (.inr hp)) rfl fun hidle => (h.idle hidle).2

theorem books_streamoff {s : CaptureNode} (h : Books s) (walk : WalkEnv)
    (refuse : Option Errno) : Books (captureStep s (.streamoff walk refuse)) := by
  let walked := (mxcIsiPipelineEnable s.toPipeline walk false).1
  have hwalked : walked.cap = s.cap ∧ walked.queueStreaming = s.queueStreaming :=
    queue_pipelineEnable s.toPipeline walk false
  have hoff : Books { s with toPipeline := onChannel walked mxcIsiChannelDisable } := by
    refine h.carry ?_ hwalked.2 rfl (fun hp => h.busy (.inr hp)) rfl ?_
    · change KeepsReady s.cap { walked.cap with isi := mxcIsiChannelDisable walked.cap.isi }
      rw [hwalked.1]
      exact (keepsDiscards_onChannel s.cap _).keepsReady
    · intro hidle
      change walked.cap.outActive = []
      rw [hwalked.1]
      exact (h.idle (hwalked.2.symm.trans hidle)).2
  rcases refuse with _ | e
  · exact books_onChannel (@books_cancel _ hoff [] fun hne => absurd rfl hne) _
  · exact books_onChannel hoff _

theorem Books.reconfigure {s : CaptureNode} (h : Books s) {f : MxcIsiFrame}
    (hf : s.queueStreaming = true → FrameCovered f s.cap) : Books { s with configured := f } :=
  ⟨h.planes, h.busy, h.idle, h.allocs, h.ready, hf⟩

/-- The start of the queue, on a channel that was programmed from `dst_f`. -/
theorem books_start {s : CaptureNode} (h : Books s) (hidle : s.queueStreaming = false)
    (env : Vb2Env) (hqueued : env.queued = s.prepared) (hrefuse : env.refuse = none)
    (hcovered : QueueStarts s.toPipeline env →
      ∃ fmt, s.cap.dstF.fmt = some fmt ∧ fmt.memplanes ≤ s.cap.pix.numPlanes) :
    let q := (vb2IoctlStreamon s.toPipeline env).1
    Books { s with
      toPipeline := q
      prepared := if q.queueStreaming then [] else s.prepared
      configured := s.cap.dstF } := by
  have hfree : ¬s.queueStreaming = true := Bool.eq_false_iff.mp hidle
  let hand := handOver s.cap env.queued
  have hkeep := keepsDiscards_handOver s.cap env.queued
  have hdstF : hand.dstF = s.cap.dstF := (carried_handOver s.cap env.queued).dstF
  have hallocs : hand.dmaAllocs = [] := hkeep.allocs.trans (h.idle hidle).1
  have hactive : hand.outActive = [] := by
    rw [show hand.outActive = s.cap.outActive from outActive_handOver s.cap env.queued]
    exact (h.idle hidle).2
  have hpix : hand.pix = s.cap.pix := hkeep.pix
  have hplanes : hand.pix.numPlanes ≤ 3 := by
    rw [hpix]
    exact h.planes
  have hstart := startStreaming_allocs hallocs hactive hplanes env.hostdata env.alloc
    env.queued.length
  have hok := startStreaming_ok_iff hand env.hostdata env.alloc env.queued.length
  dsimp only
  rw [vb2IoctlStreamon, hrefuse]
  dsimp only
  rw [if_neg hfree]
  rcases hresult : capVb2StartStreaming hand env.hostdata env.alloc env.queued.length with
    ⟨cap', e | ⟨⟩⟩
  · rw [hresult] at hstart
    obtain ⟨hpix', hallocs', hactive'⟩ := hstart
    change Books { s with
      cap := cap'
      prepared := if s.queueStreaming then [] else s.prepared
      configured := s.cap.dstF }
    rw [if_neg hfree]
    refine books_of_idle hidle ?_ (fun hp => h.busy (.inr hp)) hallocs' hactive'
    change cap'.pix.numPlanes ≤ 3
    rw [hpix']
    exact hplanes
  · rw [hresult] at hstart hok
    obtain ⟨hready, hpix', hallocs', hsizes⟩ := hstart
    obtain ⟨hcount, hhost, halloc⟩ := hok.mp rfl
    rw [hpix] at halloc
    obtain ⟨fmt, hfmt, hmem⟩ := hcovered ⟨hrefuse, hcount, hhost, halloc⟩
    have hbusy : s.busy = true := by
      refine h.busy (.inr ?_)
      rw [← hqueued]
      rintro hnil
      rw [hnil] at hcount
      exact absurd hcount (by decide)
    have hnum : cap'.pix.numPlanes = s.cap.pix.numPlanes := by
      rw [hpix', hpix]
    change Books { s with
      cap := cap'
      queueStreaming := true
      prepared := []
      configured := s.cap.dstF }
    refine ⟨?_, fun _ => hbusy, nofun, fun _ => ?_, fun _ => hready,
      fun _ => ⟨fmt, hfmt, ?_, fun p hp => ?_⟩⟩
    · change cap'.pix.numPlanes ≤ 3
      rw [hpix']
      exact hplanes
    · change cap'.dmaAllocs = (List.range cap'.pix.numPlanes).map (discardAlloc cap')
      rw [hallocs', hnum, hpix]
    · change fmt.memplanes ≤ cap'.pix.numPlanes
      rw [hnum]
      exact hmem
    · change (s.cap.dstF.sizeimage p).toNat ≤ pageAlign (cap'.discardSize p)
      rw [hsizes p (by rw [hpix]; exact lt_of_lt_of_le hp hmem), hdstF]
      exact le_pageAlign _

theorem books_vb2IoctlStreamon {s : CaptureNode} (h : Books s) {env : Vb2Env}
    (hqueued : env.queued = s.prepared)
    (hcovered : if s.queueStreaming then FrameCovered s.cap.dstF s.cap
      else QueueStarts s.toPipeline env →
        ∃ fmt, s.cap.dstF.fmt = some fmt ∧ fmt.memplanes ≤ s.cap.pix.numPlanes) :
    let q := (vb2IoctlStreamon s.toPipeline env).1
    Books { s with
      toPipeline := q
      prepared := if q.queueStreaming then [] else s.prepared
      configured := s.cap.dstF } := by
  have hstay : (vb2IoctlStreamon s.toPipeline env).1 = s.toPipeline →
      (s.queueStreaming = true → FrameCovered s.cap.dstF s.cap) →
      Books { s with
        toPipeline := (vb2IoctlStreamon s.toPipeline env).1
        prepared := if (vb2IoctlStreamon s.toPipeline env).1.queueStreaming then []
          else s.prepared
        configured := s.cap.dstF } := by
    intro hsame hframe
    rw [hsame]
    refine (h.reconfigure hframe).carry (keepsReady_refl _) rfl rfl (fun hp => ?_) rfl
      fun hidle => (h.idle hidle).2
    refine h.busy (.inr fun hnil => hp ?_)
    change (if s.queueStreaming then [] else s.prepared) = []
    rw [hnil, ite_self]
  rcases hqueue : s.queueStreaming with _ | _
  · rw [if_neg (Bool.eq_false_iff.mp hqueue)] at hcovered
    rcases hrefuse : env.refuse with _ | e
    · exact books_start h hqueue env hqueued hrefuse hcovered
    · refine hstay ?_ fun hstream => ?_
      · rw [vb2IoctlStreamon, hrefuse]
      · rw [hqueue] at hstream
        cases hstream
  · rw [if_pos hqueue] at hcovered
    refine hstay ?_ fun _ => hcovered
    rw [vb2IoctlStreamon]
    split
    · rfl
    · rw [if_pos hqueue]

theorem books_streamon {s : CaptureNode} (h : Books s) (env : StreamonEnv)
    (hcovered : StartCovered s (.streamon env)) : Books (captureStep s (.streamon env)) := by
  change Books (streamonNode s env)
  obtain ⟨srcF, hcases⟩ := streamonNode_cases s env
  have hsrc : KeepsDiscards s.cap { s.cap with srcF := srcF } :=
    ⟨⟨rfl, rfl, rfl, rfl⟩, fun _ => rfl, fun _ => rfl, fun _ hk => hk⟩
  rcases hcases with ⟨-, hstep⟩ | ⟨hnegotiates, p, hqueue, ⟨isi, hcap⟩, -, hstep⟩
  · rw [hstep]
    refine h.carry hsrc.keepsReady rfl rfl (fun hp => h.busy (.inr fun hnil => hp ?_)) rfl
      fun hidle => (h.idle hidle).2
    change (if s.queueStreaming then [] else s.prepared) = []
    rw [hnil, ite_self]
  · let config := configChannel { s.cap with srcF := srcF }
    let vb2 : Vb2Env := { env.vb2 with queued := s.prepared }
    let q := (vb2IoctlStreamon { s.toPipeline with cap := config } vb2).1
    have hprogrammed : Books { s with cap := config } :=
      h.carry (hsrc.trans (keepsDiscards_onChannel _ _)).keepsReady rfl rfl
        (fun hp => h.busy (.inr hp)) rfl fun hidle => (h.idle hidle).2
    have hbooks := @books_vb2IoctlStreamon { s with cap := config } hprogrammed vb2 rfl
      (hcovered.2 hnegotiates)
    rw [hstep]
    refine hbooks.carry ?_ hqueue rfl (fun hp => hbooks.busy (.inr ?_)) rfl fun hidle => ?_
    · change KeepsReady q.cap p.cap
      rw [show p.cap = { q.cap with isi := isi } from hcap]
      exact (keepsDiscards_onChannel q.cap isi).keepsReady
    · change (if q.queueStreaming then [] else s.prepared) ≠ []
      rw [← show p.queueStreaming = q.queueStreaming from hqueue]
      exact hp
    · change p.cap.outActive = []
      rw [show p.cap = { q.cap with isi := isi } from hcap]
      exact (hbooks.idle (hqueue.symm.trans hidle)).2

theorem books_captureStep {s : CaptureNode} {op : CaptureOp} (h : Books s)
    (hcovered : StartCovered s op) : Books (captureStep s op) := by
  cases op with
  | sFmt pix => exact books_sFmt h pix
  | setFmt isMn pad mf => exact books_setFmt h isMn pad mf
  | reqBufs granted => exact books_reqBufs h granted
  | qBuf i planes => exact books_qBuf h i planes
  | streamon env => exact books_streamon h env hcovered
  | streamoff walk refuse => exact books_streamoff h walk refuse
  | frameDone status => exact books_frameDone h status

/-- The node of a channel after registration and the first open. -/
def registeredNode (isi : MxcIsiDev) : CaptureNode :=
  { cap := mxcIsiRegisterCapDevice isi
    queueStreaming := false
    csisSwitch := 0
    sensorSwitch := 0
    csisPm := 0
    numBuffers := 0
    sizes := []
    prepared := []
    configured := (mxcIsiRegisterCapDevice isi).dstF }

theorem books_registeredNode (isi : MxcIsiDev) : Books (registeredNode isi) :=
  books_of_idle rfl (Nat.zero_le 3) (fun hheld => absurd rfl hheld) rfl rfl

/-- In every run whose streams are covered, the discard nodes only ever hand valid
addresses to the channel, and a stop leaves no discard buffer allocated. -/
theorem discardValid_of_covered (isi : MxcIsiDev) (ops : List CaptureOp)
    (hops : Along captureStep StartCovered (registeredNode isi) ops) :
    Always captureStep DiscardValid (registeredNode isi) ops :=
  (always_of_along (fun _ _ h hcovered => books_captureStep h hcovered)
    (books_registeredNode isi) hops).imp fun _ h => h.valid

theorem discardValid_nv12 :
    DiscardValid (exec captureStep (registeredNode boardCapture.isi)
      (captureRun (nv12Request 640#32) nv12Planes)) :=
  (discardValid_of_covered boardCapture.isi (captureRun (nv12Request 640#32) nv12Planes)
    ⟨trivial, trivial, trivial, trivial,
      ⟨fun _ _ _ _ => rfl,
        fun _ _ => ⟨outFmt v4l2PixFmtNv12 [8, 8] mxcIsiOutFmtYuv420_2P8P mediaBusFmtYuyv8_1x16,
          by decide, by decide⟩⟩, trivial⟩).last

/-- Two buffers for the 1280x800 grey frames of a device without S_FMT. -/
def unformattedRun : List CaptureOp :=
  [.reqBufs 2, .qBuf 0 [⟨0x40000000#32, 1024000#32⟩], .qBuf 1 [⟨0x40100000#32, 1024000#32⟩],
    .streamon captureAnswers]

/-- Without S_FMT no discard buffer is allocated, and the first slot is given the
address zero. -/
theorem unformatted_discard_invalid :
    ¬ Always captureStep DiscardValid (registeredNode boardCapture.isi) unformattedRun := by
  intro h
  obtain ⟨fmt, hfmt, haddr⟩ := h.last.streaming (by decide)
  have hrow : (exec captureStep (registeredNode boardCapture.isi) unformattedRun).configured.fmt =
      some mxcIsiOutFormat0 := by
    decide
  cases hrow.symm.trans hfmt
  obtain ⟨a, ha, -⟩ := haddr 0 (by decide) 0 (by decide)
  have hnone : (exec captureStep (registeredNode boardCapture.isi) unformattedRun).cap.dmaAllocs =
      [] := by
    decide
  rw [hnone] at ha
  exact absurd ha List.not_mem_nil

end CameraPorting.Isi.DiscardBuffers
