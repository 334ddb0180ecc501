import CameraPorting.Isi.FrameSizes
import CameraPorting.Isi.Streaming

namespace CameraPorting.Isi.Containment

open CameraPorting.Kernel.Media
open CameraPorting.Isi.Device
open CameraPorting.Isi.Channel
open CameraPorting.Isi.CaptureQueue
open CameraPorting.Isi.BufferRotation
open CameraPorting.Isi.Formats
open CameraPorting.Isi.Ioctls
open CameraPorting.Isi.FrameSizes
open CameraPorting.Isi.Streaming
open CameraPorting.Library.Runs

/-- The pipeline with the state vb2 keeps for the queue: the number of buffers,
the least size of each plane, and the buffers queued before the stream starts.
`configured` is the frame the channel was last programmed with. -/
structure CaptureNode extends Pipeline where
  numBuffers : Nat
  sizes : List U32
  prepared : List Nat
  configured : MxcIsiFrame

def CaptureNode.busy (s : CaptureNode) : Bool := s.numBuffers != 0

def CaptureNode.size (s : CaptureNode) (p : Nat) : U32 := s.sizes.getD p 0

/-- The buffers of the queue are freed; new ones are allocated zeroed. -/
def freeBuffers (cap : MxcIsiCapDev) : MxcIsiCapDev :=
  { cap with buf := fun r => if r.isUser then zeroBuffer else cap.buf r }

/-- `vb2_core_reqbufs`, where `granted` buffers can be allocated. A queue that
streams is refused; the buffers of an earlier call are freed. -/
def vb2CoreReqbufs (s : CaptureNode) (granted : Nat) : CaptureNode :=
  if s.queueStreaming then s
  else
    let s := { s with numBuffers := 0, prepared := [], cap := freeBuffers s.cap }
    match capVb2QueueSetup s.cap with
    | .error _ => s
    | .ok sizes => { s with numBuffers := granted, sizes := sizes }

def vb2Holds (s : CaptureNode) (i : Nat) : Prop :=
  i ∈ s.prepared ∨
    (s.queueStreaming = true ∧ BufRef.user i ∈ s.cap.outPending ++ s.cap.outActive)

instance (s : CaptureNode) (i : Nat) : Decidable (vb2Holds s i) :=
  inferInstanceAs (Decidable (_ ∨ _))

/-- The check of vb2 that each plane has at least the size asked for. -/
def planesLongEnough (s : CaptureNode) (planes : List Vb2Plane) : Bool :=
  planes.length == s.sizes.length &&
    (List.range s.sizes.length).all fun p =>
      decide (s.size p ≤ ((planes[p]?.map Vb2Plane.length).getD 0))

/-- `vb2_core_qbuf`, of a buffer whose memory is `planes`. -/
def vb2CoreQbuf (s : CaptureNode) (i : Nat) (planes : List Vb2Plane) : CaptureNode :=
  if s.numBuffers ≤ i ∨ vb2Holds s i ∨ planesLongEnough s planes = false then s
  else
    let cap := { s.cap with
      buf := Function.update s.cap.buf (.user i)
        { s.cap.buf (.user i) with planes := planes } }
    match capVb2BufferPrepare cap (cap.buf (.user i)) with
    | .error _ => { s with cap := cap }
    | .ok () =>
        if s.queueStreaming then { s with cap := capVb2BufferQueue cap (.user i) }
        else { s with cap := cap, prepared := s.prepared ++ [i] }

/-- STREAMON, with the buffers prepared so far as those vb2 hands over. A start
that fails leaves them with vb2. -/
def streamonNode (s : CaptureNode) (env : StreamonEnv) : CaptureNode :=
  let env := { env with vb2 := { env.vb2 with queued := s.prepared } }
  let pipeline := (mxcIsiCapStreamon s.toPipeline env).1
  { s with
    toPipeline := pipeline
    prepared := if pipeline.queueStreaming then [] else s.prepared
    configured := match (mxcIsiConfigParm env.padOps env.remote () s.cap).2.2 with
      | .ok () => s.cap.dstF
      | .error _ => s.configured }

/-- STREAMOFF; accepted by vb2, it dequeues the prepared buffers as well. -/
def streamoffNode (s : CaptureNode) (walk : WalkEnv) (refuse : Option Errno) :
    CaptureNode :=
  { s with
    toPipeline := (mxcIsiCapStreamoff s.toPipeline walk refuse).1
    prepared := if refuse.isNone then [] else s.prepared }

/-- The calls on the capture node and its subdev, with the environment's answers,
and the frame-done interrupt. -/
inductive CaptureOp where
  | sFmt (pix : V4l2PixFormatMplane)
  | setFmt (isMn : Bool) (pad : Nat) (mf : MbusFramefmt)
  | reqBufs (granted : Nat)
  | qBuf (index : Nat) (planes : List Vb2Plane)
  | streamon (env : StreamonEnv)
  | streamoff (walk : WalkEnv) (refuse : Option Errno)
  | frameDone (status : U32)

def captureStep (s : CaptureNode) : CaptureOp → CaptureNode
  | .sFmt pix => { s with cap := (mxcIsiCapSFmtMplane s.cap s.busy pix).1 }
  | .setFmt isMn pad mf => { s with cap := (mxcIsiSubdevSetFmt s.cap s.busy isMn pad mf).1 }
  | .reqBufs granted => vb2CoreReqbufs s granted
  | .qBuf i planes => vb2CoreQbuf s i planes
  | .streamon env => streamonNode s env
  | .streamoff walk refuse => streamoffNode s walk refuse
  | .frameDone status => { s with cap := mxcIsiIrqHandler s.cap status }

/-- While the channel runs, what it writes into a plane of a user buffer, the
pitch it is programmed with for each line of the plane, fits the plane. -/
def Contained (s : CaptureNode) : Prop :=
  s.channelOn = true → ∀ i, BufRef.user i ∈ s.cap.outActive →
    ∀ p, p < (frameFmt s.configured).memplanes →
      (s.cap.isi.regs .outBufPitch).toNat *
          (planeLines (frameFmt s.configured) p s.configured.height).toNat ≤
        ((s.cap.buf (.user i)).planeSize p).toNat

/-- The buffers the driver has on its lists. -/
def linked (cap : MxcIsiCapDev) : List BufRef :=
  cap.outPending ++ cap.outActive ++ cap.outDiscard

/-- A STREAMON that hands buffers over finds none on the driver's lists. A start that
fails leaves its buffers there, and `list_add_tail` of a linked node, which the model
does not describe, corrupts the list. -/
def StartsClean (s : CaptureNode) (env : StreamonEnv) : Prop :=
  Negotiates s.toPipeline env → env.vb2.refuse = none → s.queueStreaming = false →
    s.prepared ≠ [] → linked s.cap = []

/-- The condition on the single calls of a run: an accepted format describes a
frame that fits its sizes and the buffers that exist, and a start finds the driver's
lists empty. -/
def FormatFits (s : CaptureNode) : CaptureOp → Prop
  | .sFmt pix => s.busy = false → SFmtFits pix
  | .setFmt isMn pad mf => SetFmtFits s.size s.busy isMn pad mf
  | .streamon env => StartsClean s env
  | _ => True

/-- What the queue operations of the driver do to formats, planes and lists: they
keep the formats, the pitch and the planes, and link no user buffer but those of
`queued`. -/
structure Carried (cap cap' : MxcIsiCapDev) (queued : List Nat) : Prop where
  dstF : cap'.dstF = cap.dstF
  pitch : cap'.isi.regs .outBufPitch = cap.isi.regs .outBufPitch
  planes : ∀ r, (cap'.buf r).planes = (cap.buf r).planes
  linked : ∀ i, BufRef.user i ∈ linked cap' → BufRef.user i ∈ linked cap ∨ i ∈ queued

theorem carried_refl (cap : MxcIsiCapDev) : Carried cap cap [] :=
  ⟨rfl, rfl, fun _ => rfl, fun _ h => .inl h⟩

theorem Carried.trans {a b c : MxcIsiCapDev} {q q' : List Nat} (hab : Carried a b q)
    (hbc : Carried b c q') : Carried a c (q ++ q') := by
  refine ⟨hbc.dstF.trans hab.dstF, hbc.pitch.trans hab.pitch,
    fun r => (hbc.planes r).trans (hab.planes r), fun i hi => ?_⟩
  rcases hbc.linked i hi with hb | hq
  · rcases hab.linked i hb with ha | hq
    · exact .inl ha
    · exact .inr (List.mem_append_left _ hq)
  · exact .inr (List.mem_append_right _ hq)

theorem pitch_channelEnable (isi : MxcIsiDev) (m2m : Bool) :
    (mxcIsiChannelEnable isi m2m).regs .outBufPitch = isi.regs .outBufPitch := by
  cases m2m <;> simp [mxcIsiChannelEnable, mxcIsiCleanIrqStatus, mxcIsiEnableIrq,
    mxcIsiM2mStartRead]

theorem pitch_channelDisable (isi : MxcIsiDev) :
    (mxcIsiChannelDisable isi).regs .outBufPitch = isi.regs .outBufPitch := by
  simp [mxcIsiChannelDisable, mxcIsiDisableIrq]

theorem pitch_writeOutbuf (slot : Option MxcIsiBufId) (paddr : FrameAddr) (regs : ChnlRegs) :
    writeOutbuf slot paddr regs .outBufPitch = regs .outBufPitch := by
  unfold writeOutbuf
  rcases slot with _ | ⟨_ | _⟩ <;> simp

theorem pitch_channelConfig (isi : MxcIsiDev) (srcF dstF : MxcIsiFrame)
    (srcFmt dstFmt : MxcIsiFmt) :
    (mxcIsiChannelConfig isi srcF dstF srcFmt dstFmt).regs .outBufPitch =
      dstF.bytesperline 0 := by
  simp [mxcIsiChannelConfig, mxcIsiChannelSetPanicThreshold, mxcIsiChannelSetAlpha,
    mxcIsiChannelSetFlip]

theorem carried_bufferQueue (cap : MxcIsiCapDev) (i : Nat) :
    Carried cap (capVb2BufferQueue cap (.user i)) [i] := by
  refine ⟨rfl, rfl, fun r => (sameNodes_bufferQueue cap (.user i) r).2, fun j hj => ?_⟩
  simp only [linked, capVb2BufferQueue, List.mem_append, List.mem_singleton,
    BufRef.user.injEq] at hj ⊢
  tauto

theorem carried_handOver (cap : MxcIsiCapDev) (queued : List Nat) :
    Carried cap (handOver cap queued) queued := by
  induction queued generalizing cap with
  | nil => exact carried_refl cap
  | cons i queued ih => exact (carried_bufferQueue cap i).trans (ih _)

theorem carried_setOutbuf (cap : MxcIsiCapDev) (r : BufRef) :
    Carried cap (mxcIsiChannelSetOutbuf cap r) [] :=
  ⟨rfl, pitch_writeOutbuf _ _ _, fun r' => (sameNodes_setOutbuf cap r r').2, fun _ h => .inl h⟩

theorem carried_setSequence (cap : MxcIsiCapDev) (r : BufRef) (n : U32) :
    Carried cap (setSequence cap r n) [] :=
  ⟨rfl, rfl, fun r' => (sameNodes_setSequence cap r n r').2, fun _ h => .inl h⟩

theorem carried_setState (cap : MxcIsiCapDev) (r : BufRef) (st : Vb2BufferState) :
    Carried cap (setState cap r st) [] :=
  ⟨rfl, rfl, fun r' => (sameNodes_setState cap r st r').2, fun _ h => .inl h⟩

theorem carried_startOutbuf (cap : MxcIsiCapDev) (r : BufRef) (n : U32) :
    Carried cap (startOutbuf cap r n) [] :=
  ((carried_setSequence cap r n).trans (carried_setState _ r _)).trans (carried_setOutbuf _ r)

theorem carried_addDiscard (cap : MxcIsiCapDev) (k : Fin 2) :
    Carried cap (addDiscard cap k) [] := by
  refine ⟨rfl, rfl, fun r => ?_, fun j hj => ?_⟩
  · by_cases hr : r = .discard k
    · subst hr
      simp [addDiscard]
    · simp [addDiscard, Function.update_of_ne hr]
  · simp only [linked, addDiscard, List.mem_append, List.mem_singleton,
      reduceCtorEq, or_false] at hj ⊢
    exact .inl hj

theorem Carried.relist {cap cap' : MxcIsiCapDev} {queued : List Nat} (h : Carried cap cap' queued)
    {pending active discard : List BufRef}
    (hlists : ∀ r, r ∈ pending ++ active ++ discard → r ∈ Containment.linked cap') :
    Carried cap { cap' with
      outPending := pending, outActive := active, outDiscard := discard } queued :=
  ⟨h.dstF, h.pitch, h.planes, fun i hi => h.linked i (hlists _ hi)⟩

theorem carried_retireOutbuf {cap : MxcIsiCapDev} {r : BufRef} {rest : List BufRef}
    (h : cap.outActive = r :: rest) : Carried cap (retireOutbuf cap r rest) [] := by
  have hrest : ∀ r', r' ∈ rest → r' ∈ linked cap := by
    intro r' hr'
    simp [linked, h, hr']
  unfold retireOutbuf
  dsimp only
  split
  · refine ⟨rfl, rfl, fun _ => rfl, fun i hi => .inl ?_⟩
    simp only [linked, List.mem_append, List.mem_singleton] at hi
    simp only [linked, h, List.mem_append, List.mem_cons]
    tauto
  · refine ⟨rfl, rfl, fun r' => (sameNodes_setState _ r .done r').2, fun i hi => .inl ?_⟩
    simp only [linked, vb2BufferDone, setState, List.mem_append] at hi
    simp only [linked, h, List.mem_append, List.mem_cons]
    tauto

theorem carried_refillOutbuf (cap : MxcIsiCapDev) : Carried cap (refillOutbuf cap) [] := by
  unfold refillOutbuf
  split
  · rename_i hpending
    split
    · exact ⟨rfl, rfl, fun _ => rfl, fun _ h => .inl h⟩
    · rename_i r rest hdiscard
      refine ((carried_setSequence cap r cap.frameCount).trans (carried_setOutbuf _ r)).relist
        fun r' hr' => ?_
      simp only [linked, mxcIsiChannelSetOutbuf, setSequence, hdiscard, List.mem_append,
        List.mem_cons, List.mem_nil_iff, or_false] at hr' ⊢
      tauto
  · rename_i r rest hpending
    refine (((carried_setSequence cap r cap.frameCount).trans
      (carried_setOutbuf _ r)).trans (carried_setState _ r .active)).relist fun r' hr' => ?_
    simp only [linked, mxcIsiChannelSetOutbuf, setSequence, setState, hpending,
      List.mem_append, List.mem_cons, List.mem_nil_iff, or_false] at hr' ⊢
    tauto

theorem carried_frameWriteDone (cap : MxcIsiCapDev) :
    Carried cap (mxcIsiCapFrameWriteDone cap) [] := by
  unfold mxcIsiCapFrameWriteDone
  split
  · exact ⟨rfl, rfl, fun _ => rfl, fun _ h => .inl h⟩
  · rename_i r rest hactive
    split
    · exact carried_refl cap
    · exact (carried_retireOutbuf hactive).trans (carried_refillOutbuf _)

theorem carried_irqHandler (cap : MxcIsiCapDev) (status : U32) :
    Carried cap (mxcIsiIrqHandler cap status) [] := by
  have hclean : Carried cap { cap with
      isi := mxcIsiCleanIrqStatus { cap.isi with status := status } status } [] :=
    ⟨rfl, by simp [mxcIsiCleanIrqStatus], fun _ => rfl, fun _ h => .inl h⟩
  unfold mxcIsiIrqHandler
  dsimp only
  split
  · split
    · exact hclean
    · exact hclean.trans (carried_frameWriteDone _)
  · exact hclean

/-- The two slots `cap_vb2_start_streaming` programs, one after the other. -/
def startDiscard (cap : MxcIsiCapDev) : MxcIsiCapDev :=
  match cap.outDiscard with
  | [] => warn cap .firstEntryOfEmpty
  | r :: rest =>
      let cap := startOutbuf cap r 0#32
      { cap with outDiscard := rest, outActive := cap.outActive ++ [r] }

def startPending (cap : MxcIsiCapDev) : MxcIsiCapDev :=
  match cap.outPending with
  | [] => warn cap .firstEntryOfEmpty
  | r :: rest =>
      let cap := startOutbuf cap r 1#32
      { cap with outPending := rest, outActive := cap.outActive ++ [r] }

theorem programOutbufs_eq (cap : MxcIsiCapDev) :
    programOutbufs cap =
      { startPending (startDiscard (addDiscard (addDiscard cap 0) 1)) with
        frameCount := 1#32 } := rfl

theorem carried_startDiscard (cap : MxcIsiCapDev) : Carried cap (startDiscard cap) [] := by
  unfold startDiscard
  split
  · exact ⟨rfl, rfl, fun _ => rfl, fun _ h => .inl h⟩
  · rename_i r rest hdiscard
    refine (carried_startOutbuf cap r 0#32).relist fun r' hr' => ?_
    simp only [linked, startOutbuf, mxcIsiChannelSetOutbuf, setSequence, setState, hdiscard,
      List.mem_append, List.mem_cons, List.mem_nil_iff, or_false] at hr' ⊢
    tauto

theorem carried_startPending (cap : MxcIsiCapDev) : Carried cap (startPending cap) [] := by
  unfold startPending
  split
  · exact ⟨rfl, rfl, fun _ => rfl, fun _ h => .inl h⟩
  · rename_i r rest hpending
    refine (carried_startOutbuf cap r 1#32).relist fun r' hr' => ?_
    simp only [linked, startOutbuf, mxcIsiChannelSetOutbuf, setSequence, setState, hpending,
      List.mem_append, List.mem_cons, List.mem_nil_iff, or_false] at hr' ⊢
    tauto

theorem carried_programOutbufs (cap : MxcIsiCapDev) :
    Carried cap (programOutbufs cap) [] := by
  have hslots := ((carried_addDiscard cap 0).trans (carried_addDiscard _ 1)).trans
    ((carried_startDiscard _).trans (carried_startPending _))
  rw [programOutbufs_eq]
  exact ⟨hslots.dstF, hslots.pitch, hslots.planes, hslots.linked⟩

theorem carried_startStreaming (cap : MxcIsiCapDev) (hostdata : Bool)
    (alloc : Nat → Option U32) (count : Nat) :
    Carried cap (capVb2StartStreaming cap hostdata alloc count).1 [] := by
  obtain ⟨size, dma, allocs, hframe⟩ :=
    allocDiscardBuffers_frame alloc cap.pix.numPlanes 0 cap
  have halloc : Carried cap (allocDiscardBuffers alloc cap.pix.numPlanes 0 cap).1 [] := by
    rw [hframe]
    exact ⟨rfl, rfl, fun _ => rfl, fun _ h => .inl h⟩
  unfold capVb2StartStreaming
  split
  · exact carried_refl cap
  · split
    · exact carried_refl cap
    · split
      · rename_i hloop
        rw [hloop] at halloc
        exact halloc
      · rename_i hloop
        rw [hloop] at halloc
        exact halloc.trans (carried_programOutbufs _)

theorem carried_stopStreaming (cap : MxcIsiCapDev) :
    Carried cap (capVb2StopStreaming cap) [] ∧ linked (capVb2StopStreaming cap) = [] := by
  have hframe := drainFrame_drained cap
  refine ⟨⟨hframe.dstF, ?_, fun r => (hframe.marks r).2, fun i hi => ?_⟩, rfl⟩
  · rw [isi_stopStreaming, pitch_channelDisable]
  · exact absurd hi List.not_mem_nil

/-- Every plane of the buffer has at least the size vb2 asked for. -/
def PlanesFit (size : Nat → U32) (b : MxcIsiBuffer) : Prop :=
  ∀ p, (size p).toNat ≤ (b.planeSize p).toNat

theorem PlanesFit.congr {size : Nat → U32} {b b' : MxcIsiBuffer} (h : PlanesFit size b)
    (hplanes : b'.planes = b.planes) : PlanesFit size b' := by
  intro p
  unfold MxcIsiBuffer.planeSize
  rw [hplanes]
  exact h p

theorem planesFit_of_longEnough {s : CaptureNode} {planes : List Vb2Plane}
    (h : planesLongEnough s planes = true) {b : MxcIsiBuffer} (hb : b.planes = planes) :
    PlanesFit s.size b := by
  simp only [planesLongEnough, Bool.and_eq_true, List.all_eq_true, List.mem_range,
    decide_eq_true_eq] at h
  intro p
  by_cases hp : p < s.sizes.length
  · rw [MxcIsiBuffer.planeSize, hb]
    exact BitVec.le_def.mp (h.2 p hp)
  · have hzero : s.size p = 0#32 := by
      simp [CaptureNode.size, List.getD, List.getElem?_eq_none (Nat.le_of_not_lt hp)]
    rw [hzero]
    exact Nat.zero_le _

/-- The invariant of the runs. The frame the ioctls keep fits what would be asked
for it and, once buffers exist, what was asked for them; buffers vb2 or the driver
holds have the planes asked for; a queue that streams has a channel programmed
with a frame that fits them. -/
structure Sized (s : CaptureNode) : Prop where
  frame : SelfFitting s.cap.dstF
  buffers : s.busy = true → FitsPlanes s.cap.dstF (frameFmt s.cap.dstF) s.size
  held : ∀ i, i ∈ s.prepared ∨ (s.queueStreaming = true ∧ BufRef.user i ∈ linked s.cap) →
    s.busy = true ∧ PlanesFit s.size (s.cap.buf (.user i))
  pitch : s.cap.isi.regs .outBufPitch = s.configured.bytesperline 0
  idle : s.queueStreaming = false → s.cap.outActive = []
  streaming : s.queueStreaming = true →
    s.busy = true ∧ FitsPlanes s.configured (frameFmt s.configured) s.size

theorem Sized.contained {s : CaptureNode} (h : Sized s) : Contained s := by
  intro _ i hi p hp
  have hstreaming : s.queueStreaming = true := by
    rcases hqueue : s.queueStreaming with _ | _
    · rw [h.idle hqueue] at hi
      exact absurd hi List.not_mem_nil
    · rfl
  have hlinked : BufRef.user i ∈ linked s.cap :=
    List.mem_append_left _ (List.mem_append_right _ hi)
  rw [h.pitch]
  calc planeBytes s.configured (frameFmt s.configured) p
      ≤ (s.size p).toNat := (h.streaming hstreaming).2 p hp
    _ ≤ ((s.cap.buf (.user i)).planeSize p).toNat := (h.held i (.inr ⟨hstreaming, hlinked⟩)).2 p

theorem sFmt_frame (cap : MxcIsiCapDev) (busy : Bool) (pix : V4l2PixFormatMplane) :
    ∃ pix' dstF, (mxcIsiCapSFmtMplane cap busy pix).1 =
      { cap with pix := pix', dstF := dstF } := by
  unfold mxcIsiCapSFmtMplane
  split
  · exact ⟨_, _, rfl⟩
  · split
    · exact ⟨_, _, rfl⟩
    · split <;> exact ⟨_, _, rfl⟩

theorem setFmt_frame (cap : MxcIsiCapDev) (busy isMn : Bool) (pad : Nat) (mf : MbusFramefmt) :
    ∃ dstF, (mxcIsiSubdevSetFmt cap busy isMn pad mf).1 = { cap with dstF := dstF } := by
  unfold mxcIsiSubdevSetFmt
  split
  · exact ⟨_, rfl⟩
  · split
    · exact ⟨_, rfl⟩
    · split <;> exact ⟨_, rfl⟩

/-- S_FMT of a node only changes its formats. -/
theorem captureStep_sFmt (s : CaptureNode) (pix : V4l2PixFormatMplane) :
    ∃ pix' dstF,
      (mxcIsiCapSFmtMplane s.cap s.busy pix).1 = { s.cap with pix := pix', dstF := dstF } ∧
        captureStep s (.sFmt pix) = { s with cap := { s.cap with pix := pix', dstF := dstF } } := by
  obtain ⟨pix', dstF, hcap⟩ := sFmt_frame s.cap s.busy pix
  refine ⟨pix', dstF, hcap, ?_⟩
  rw [← hcap]
  rfl

theorem captureStep_setFmt (s : CaptureNode) (isMn : Bool) (pad : Nat) (mf : MbusFramefmt) :
    ∃ dstF, (mxcIsiSubdevSetFmt s.cap s.busy isMn pad mf).1 = { s.cap with dstF := dstF } ∧
      captureStep s (.setFmt isMn pad mf) = { s with cap := { s.cap with dstF := dstF } } := by
  obtain ⟨dstF, hcap⟩ := setFmt_frame s.cap s.busy isMn pad mf
  refine ⟨dstF, hcap, ?_⟩
  rw [← hcap]
  rfl

theorem sized_sFmt {s : CaptureNode} {pix : V4l2PixFormatMplane} (h : Sized s)
    (hfits : FormatFits s (.sFmt pix)) : Sized (captureStep s (.sFmt pix)) := by
  have hframe : SelfFitting (mxcIsiCapSFmtMplane s.cap s.busy pix).1.dstF :=
    selfFitting_sFmt h.frame hfits
  have hbuffers : s.busy = true → FitsPlanes (mxcIsiCapSFmtMplane s.cap s.busy pix).1.dstF
      (frameFmt (mxcIsiCapSFmtMplane s.cap s.busy pix).1.dstF) s.size := by
    intro hbusy
    rw [sFmt_refused (.inl hbusy)]
    exact h.buffers hbusy
  obtain ⟨pix', dstF, hcap, hnode⟩ := captureStep_sFmt s pix
  rw [hcap] at hframe hbuffers
  rw [hnode]
  exact ⟨hframe, hbuffers, h.held, h.pitch, h.idle, h.streaming⟩

theorem sized_setFmt {s : CaptureNode} {isMn : Bool} {pad : Nat} {mf : MbusFramefmt}
    (h : Sized s) (hfits : FormatFits s (.setFmt isMn pad mf)) :
    Sized (captureStep s (.setFmt isMn pad mf)) := by
  obtain ⟨hframe, hbuffers⟩ := fits_setFmt h.frame h.buffers hfits
  obtain ⟨dstF, hcap, hnode⟩ := captureStep_setFmt s isMn pad mf
  rw [hcap] at hframe hbuffers
  rw [hnode]
  exact ⟨hframe, hbuffers, h.held, h.pitch, h.idle, h.streaming⟩

theorem reqbufs_idle {s : CaptureNode} (granted : Nat) (hqueue : s.queueStreaming = false)
    {fmt : MxcIsiFmt} (hfmt : s.cap.dstF.fmt = some fmt) :
    vb2CoreReqbufs s granted =
      { s with
        numBuffers := granted
        sizes := (List.range fmt.memplanes).map (setupSize s.cap.dstF fmt)
        prepared := []
        cap := freeBuffers s.cap } := by
  have hidle : ¬s.queueStreaming = true := Bool.eq_false_iff.mp hqueue
  have hsetup : capVb2QueueSetup (freeBuffers s.cap) =
      .ok ((List.range fmt.memplanes).map (setupSize s.cap.dstF fmt)) := by
    simp only [capVb2QueueSetup, freeBuffers, hfmt]
  simp only [vb2CoreReqbufs, if_neg hidle, hsetup]

theorem sized_reqBufs {s : CaptureNode} {granted : Nat} (h : Sized s) :
    Sized (captureStep s (.reqBufs granted)) := by
  change Sized (vb2CoreReqbufs s granted)
  by_cases hqueue : s.queueStreaming = true
  · rw [vb2CoreReqbufs, if_pos hqueue]
    exact h
  have hidle : s.queueStreaming = false := Bool.eq_false_iff.mpr hqueue
  obtain ⟨fmt, hfmt, hplanes⟩ := h.frame
  rw [reqbufs_idle granted hidle hfmt]
  refine ⟨⟨fmt, hfmt, hplanes⟩, fun _ p hp => ?_, fun i hi => ?_, h.pitch,
    fun _ => h.idle hidle, fun hstream => absurd hstream hqueue⟩
  · have hframe : frameFmt s.cap.dstF = fmt := by
      rw [frameFmt, hfmt]
      rfl
    change p < (frameFmt s.cap.dstF).memplanes at hp
    change planeBytes s.cap.dstF (frameFmt s.cap.dstF) p ≤
      (((List.range fmt.memplanes).map (setupSize s.cap.dstF fmt)).getD p 0).toNat
    rw [hframe] at hp ⊢
    rw [getD_setupSizes hp]
    exact hplanes p hp
  · rcases hi with hi | ⟨hstream, -⟩
    · exact absurd hi List.not_mem_nil
    · exact absurd hstream hqueue

/-- What the driver does to a node whose frame, pitch and queue state stay keeps
the invariant. -/
theorem Sized.carry {s s' : CaptureNode} (h : Sized s)
    (hcarried : Carried s.cap s'.cap s'.prepared)
    (hprepared : ∀ i, i ∈ s'.prepared → i ∈ s.prepared)
    (hbuffers : s'.numBuffers = s.numBuffers ∧ s'.sizes = s.sizes)
    (hconfigured : s'.configured = s.configured)
    (hqueue : s'.queueStreaming = true → s.queueStreaming = true)
    (hactive : s'.queueStreaming = false → s'.cap.outActive = []) : Sized s' := by
  have hbusy : s'.busy = s.busy := by
    unfold CaptureNode.busy
    rw [hbuffers.1]
  have hsize : s'.size = s.size := by
    funext p
    unfold CaptureNode.size
    rw [hbuffers.2]
  refine ⟨?_, ?_, fun i hi => ?_, ?_, hactive, fun hstream => ?_⟩
  · rw [hcarried.dstF]
    exact h.frame
  · rw [hcarried.dstF, hbusy, hsize]
    exact h.buffers
  · have hbefore : i ∈ s.prepared ∨ (s.queueStreaming = true ∧ BufRef.user i ∈ linked s.cap) := by
      rcases hi with hi | ⟨hstream, hi⟩
      · exact .inl (hprepared i hi)
      · rcases hcarried.linked i hi with hl | hq
        · exact .inr ⟨hqueue hstream, hl⟩
        · exact .inl (hprepared i hq)
    obtain ⟨hb, hplanes⟩ := h.held i hbefore
    rw [hbusy, hsize]
    exact ⟨hb, hplanes.congr (hcarried.planes _)⟩
  · rw [hcarried.pitch, hconfigured]
    exact h.pitch
  · rw [hbusy, hconfigured, hsize]
    exact h.streaming (hqueue hstream)

/-- A buffer given planes that are long enough. -/
def setPlanes (s : CaptureNode) (i : Nat) (planes : List Vb2Plane) : CaptureNode :=
  { s with cap := { s.cap with
      buf := Function.update s.cap.buf (.user i)
        { s.cap.buf (.user i) with planes := planes } } }

theorem sized_setPlanes {s : CaptureNode} {i : Nat} {planes : List Vb2Plane} (h : Sized s)
    (hplanes : planesLongEnough s planes = true) :
    Sized (setPlanes s i planes) ∧
      PlanesFit s.size ((setPlanes s i planes).cap.buf (.user i)) := by
  have hself : PlanesFit s.size ((setPlanes s i planes).cap.buf (.user i)) := by
    refine planesFit_of_longEnough hplanes ?_
    simp [setPlanes]
  refine ⟨⟨h.frame, h.buffers, fun j hj => ⟨(h.held j hj).1, ?_⟩, h.pitch, h.idle,
    h.streaming⟩, hself⟩
  by_cases hij : j = i
  · subst hij
    exact hself
  · refine (h.held j hj).2.congr ?_
    have hne : BufRef.user j ≠ .user i := fun heq => hij (BufRef.user.inj heq)
    simp [setPlanes, Function.update_of_ne hne]

theorem qbuf_cases (s : CaptureNode) (i : Nat) (planes : List Vb2Plane) :
    vb2CoreQbuf s i planes = s ∨
      (i < s.numBuffers ∧ planesLongEnough s planes = true ∧
        let t := setPlanes s i planes
        vb2CoreQbuf s i planes = t ∨
          vb2CoreQbuf s i planes = { t with cap := capVb2BufferQueue t.cap (.user i) } ∨
          vb2CoreQbuf s i planes = { t with prepared := t.prepared ++ [i] }) := by
  unfold vb2CoreQbuf
  split
  · exact .inl rfl
  · rename_i haccept
    simp only [not_or, Bool.not_eq_false] at haccept
    refine .inr ⟨by omega, haccept.2.2, ?_⟩
    dsimp only
    split
    · exact .inl rfl
    · split
      · exact .inr (.inl rfl)
      · exact .inr (.inr rfl)

theorem sized_qBuf {s : CaptureNode} {i : Nat} {planes : List Vb2Plane} (h : Sized s) :
    Sized (captureStep s (.qBuf i planes)) := by
  change Sized (vb2CoreQbuf s i planes)
  rcases qbuf_cases s i planes with hrefused | ⟨hi, hplanes, hresult⟩
  · rw [hrefused]
    exact h
  obtain ⟨hset, hself⟩ := sized_setPlanes (i := i) h hplanes
  have hbusy : s.busy = true := by
    simp [CaptureNode.busy]
    omega
  rcases hresult with hstay | hqueued | hprepared
  · rw [hstay]
    exact hset
  · rw [hqueued]
    have hcarried := carried_bufferQueue (setPlanes s i planes).cap i
    refine ⟨hset.frame, hset.buffers, fun j hj => ?_, hset.pitch, hset.idle, hset.streaming⟩
    have hbefore : (j ∈ s.prepared ∨
        (s.queueStreaming = true ∧ BufRef.user j ∈ linked (setPlanes s i planes).cap)) ∨
          j = i := by
      rcases hj with hj | ⟨hstream, hj⟩
      · exact .inl (.inl hj)
      · rcases hcarried.linked j hj with hl | hq
        · exact .inl (.inr ⟨hstream, hl⟩)
        · exact .inr (List.mem_singleton.mp hq)
    rcases hbefore with hbefore | rfl
    · obtain ⟨hb, hp⟩ := hset.held j hbefore
      exact ⟨hb, hp.congr (hcarried.planes _)⟩
    · exact ⟨hbusy, hself.congr (hcarried.planes _)⟩
  · rw [hprepared]
    refine ⟨hset.frame, hset.buffers, fun j hj => ?_, hset.pitch, hset.idle, hset.streaming⟩
    have hbefore : (j ∈ s.prepared ∨
        (s.queueStreaming = true ∧ BufRef.user j ∈ linked (setPlanes s i planes).cap)) ∨
          j = i := by
      rcases hj with hj | hj
      · rcases List.mem_append.mp hj with hj | hj
        · exact .inl (.inl hj)
        · exact .inr (List.mem_singleton.mp hj)
      · exact .inl (.inr hj)
    rcases hbefore with hbefore | rfl
    · exact hset.held j hbefore
    · exact ⟨hbusy, hself⟩

theorem outActive_handOver (cap : MxcIsiCapDev) (queued : List Nat) :
    (handOver cap queued).outActive = cap.outActive := by
  induction queued generalizing cap with
  | nil => rfl
  | cons i queued ih => exact ih (capVb2BufferQueue cap (.user i))

/-- What STREAMON of vb2 does to the lists: the queue starts with the buffers
handed over, or nothing becomes active. -/
theorem carried_vb2IoctlStreamon (s : Pipeline) (env : Vb2Env) :
    let q := (vb2IoctlStreamon s env).1
    Carried s.cap q.cap env.queued ∧
      ((q.queueStreaming = s.queueStreaming ∧ q.cap.outActive = s.cap.outActive) ∨
        (q.queueStreaming = true ∧ 2 ≤ env.queued.length ∧ env.refuse = none)) := by
  have hrefl : Carried s.cap s.cap env.queued :=
    ⟨rfl, rfl, fun _ => rfl, fun _ h => .inl h⟩
  unfold vb2IoctlStreamon
  split
  · exact ⟨hrefl, .inl ⟨rfl, rfl⟩⟩
  · rename_i hrefuse
    split
    · exact ⟨hrefl, .inl ⟨rfl, rfl⟩⟩
    · have hhand := carried_handOver s.cap env.queued
      have hstart := carried_startStreaming (handOver s.cap env.queued) env.hostdata env.alloc
        env.queued.length
      split
      · rename_i cap hok
        rw [hok] at hstart
        have hcarried := hhand.trans hstart
        rw [List.append_nil] at hcarried
        exact ⟨hcarried, .inr ⟨rfl, (startStreaming_ok hok).1, hrefuse⟩⟩
      · rename_i cap e herror
        rw [herror] at hstart
        have hcarried := hhand.trans hstart
        rw [List.append_nil] at hcarried
        refine ⟨hcarried, .inl ⟨rfl, ?_⟩⟩
        have hactive : cap.outActive = (handOver s.cap env.queued).outActive :=
          congrArg (fun q => q.active) (startStreaming_error herror).1
        exact hactive.trans (outActive_handOver _ _)

theorem queue_pipelineEnable (s : Pipeline) (env : WalkEnv) (enable : Bool) :
    (mxcIsiPipelineEnable s env enable).1.cap = s.cap ∧
      (mxcIsiPipelineEnable s env enable).1.queueStreaming = s.queueStreaming := by
  rw [(pipelineEnable_spec s env enable).1]
  exact ⟨rfl, rfl⟩

theorem queue_finishStreamon (r : Pipeline × Ret) :
    (∃ isi, (finishStreamon r).1.cap = { r.1.cap with isi := isi }) ∧
      (finishStreamon r).1.cap.isi.regs = r.1.cap.isi.regs := by
  unfold finishStreamon
  split <;> exact ⟨⟨_, rfl⟩, rfl⟩

theorem streamon_configured (s : Pipeline) (env : StreamonEnv) {r : Unit} {cap : MxcIsiCapDev}
    (hconfig : mxcIsiConfigParm env.padOps env.remote () s.cap = (r, cap, .ok ())) :
    let q := (vb2IoctlStreamon { s with cap := cap } env.vb2).1
    let p := (mxcIsiCapStreamon s env).1
    p.queueStreaming = q.queueStreaming ∧ (∃ isi, p.cap = { q.cap with isi := isi }) ∧
      p.cap.isi.regs .outBufPitch = q.cap.isi.regs .outBufPitch := by
  let walked := mxcIsiPipelineEnable (channelStarted s cap env.vb2) env.walk true
  have hstreamon : mxcIsiCapStreamon s env = finishStreamon walked := by
    unfold mxcIsiCapStreamon
    rw [hconfig]
    rfl
  have hwalked : walked.1.cap = (channelStarted s cap env.vb2).cap ∧
      walked.1.queueStreaming = (channelStarted s cap env.vb2).queueStreaming :=
    queue_pipelineEnable _ _ _
  obtain ⟨⟨isi, hcap⟩, hregs⟩ := queue_finishStreamon walked
  have hqueue := (finishStreamon_spec walked).2.1
  rw [hwalked.1] at hcap hregs
  dsimp only
  rw [hstreamon]
  refine ⟨hqueue.trans hwalked.2, ⟨isi, hcap⟩, ?_⟩
  rw [hregs]
  exact pitch_channelEnable _ _

theorem mem_of_mem_ite {b : Bool} {l : List Nat} {i : Nat} (h : i ∈ if b then [] else l) :
    i ∈ l := by
  cases b with
  | false => exact h
  | true => exact absurd h List.not_mem_nil

/-- STREAMON of a node. Either the negotiation fails, and only the source frame may
differ; or the channel is programmed, vb2 starts the queue, and nothing after that
touches more than the channel. -/
theorem streamonNode_cases (s : CaptureNode) (env : StreamonEnv) :
    ∃ srcF,
      (¬Negotiates s.toPipeline env ∧
        streamonNode s env = { s with
          cap := { s.cap with srcF := srcF }
          prepared := if s.queueStreaming then [] else s.prepared }) ∨
      (Negotiates s.toPipeline env ∧
        let q := (vb2IoctlStreamon
          { s.toPipeline with cap := configChannel { s.cap with srcF := srcF } }
          { env.vb2 with queued := s.prepared }).1
        ∃ p : Pipeline, p.queueStreaming = q.queueStreaming ∧
          (∃ isi, p.cap = { q.cap with isi := isi }) ∧
          p.cap.isi.regs .outBufPitch = q.cap.isi.regs .outBufPitch ∧
          streamonNode s env = { s with
            toPipeline := p
            prepared := if p.queueStreaming then [] else s.prepared
            configured := s.cap.dstF }) := by
  let env' : StreamonEnv := { env with vb2 := { env.vb2 with queued := s.prepared } }
  obtain ⟨srcF, hsource, hok⟩ := sourceFmtInit_spec s.toPipeline env'
  refine ⟨srcF, ?_⟩
  rcases hinit : mxcIsiSourceFmtInit env'.padOps env'.remote () s.cap with ⟨r, cap, e | ⟨⟩⟩
  · rw [hinit] at hsource hok
    change cap = _ at hsource
    have hconfig : mxcIsiConfigParm env'.padOps env'.remote () s.cap =
        (r, cap, .error .einval) := by
      unfold mxcIsiConfigParm
      rw [hinit]
    refine .inl ⟨fun hnegotiates => absurd (hok.mpr hnegotiates) nofun, ?_⟩
    unfold streamonNode mxcIsiCapStreamon
    dsimp only
    rw [hconfig, hsource]
  · rw [hinit] at hsource hok
    change cap = _ at hsource
    subst hsource
    have hconfig : mxcIsiConfigParm env'.padOps env'.remote () s.cap =
        (r, configChannel { s.cap with srcF := srcF }, .ok ()) := by
      unfold mxcIsiConfigParm
      rw [hinit]
    obtain ⟨hqueue, hcap, hpitch⟩ := streamon_configured s.toPipeline env' hconfig
    refine .inr ⟨hok.mp rfl, (mxcIsiCapStreamon s.toPipeline env').1, hqueue, hcap, hpitch, ?_⟩
    unfold streamonNode
    dsimp only
    rw [hconfig]

theorem sized_streamon {s : CaptureNode} {env : StreamonEnv} (h : Sized s)
    (hfits : FormatFits s (.streamon env)) : Sized (captureStep s (.streamon env)) := by
  change Sized (streamonNode s env)
  obtain ⟨srcF, ⟨-, hstep⟩ | ⟨hneg, p, hqueue, ⟨isi, hcap⟩, hpitch, hstep⟩⟩ :=
    streamonNode_cases s env
  · rw [hstep]
    refine h.carry ⟨rfl, rfl, fun _ => rfl, fun _ hi => .inl hi⟩ (fun _ => mem_of_mem_ite)
      ⟨rfl, rfl⟩ rfl (fun hq => hq) h.idle
  · let config := configChannel { s.cap with srcF := srcF }
    let vb2 : Vb2Env := { env.vb2 with queued := s.prepared }
    let q := (vb2IoctlStreamon { s.toPipeline with cap := config } vb2).1
    obtain ⟨hcarried, hstart⟩ := carried_vb2IoctlStreamon { s.toPipeline with cap := config } vb2
    have hlists : linked p.cap = linked q.cap ∧ p.cap.outActive = q.cap.outActive ∧
        p.cap.buf = q.cap.buf ∧ p.cap.dstF = q.cap.dstF := by
      have hp : p.cap = { q.cap with isi := isi } := hcap
      rw [hp]
      exact ⟨rfl, rfl, rfl, rfl⟩
    rw [hstep]
    have hdstF : p.cap.dstF = s.cap.dstF := hlists.2.2.2.trans hcarried.dstF
    have hbusy : s.queueStreaming = true ∨ 2 ≤ s.prepared.length → s.busy = true := by
      rintro (hstream | hcount)
      · exact (h.streaming hstream).1
      · obtain ⟨i, hi⟩ := List.exists_mem_of_length_pos (show 0 < s.prepared.length by omega)
        exact (h.held i (.inl hi)).1
    refine ⟨?_, fun hb => ?_, fun i hi => ?_, ?_, fun hidle => ?_, fun hstream => ?_⟩
    · change SelfFitting p.cap.dstF
      rw [hdstF]
      exact h.frame
    · change FitsPlanes p.cap.dstF (frameFmt p.cap.dstF) s.size
      rw [hdstF]
      exact h.buffers hb
    · have hbefore : i ∈ s.prepared ∨
          (s.queueStreaming = true ∧ BufRef.user i ∈ linked s.cap) := by
        rcases hi with hi | ⟨hstream, hi⟩
        · exact .inl (mem_of_mem_ite hi)
        · change p.queueStreaming = true at hstream
          change BufRef.user i ∈ linked p.cap at hi
          rw [hlists.1] at hi
          rcases hcarried.linked i hi with hl | hq
          · -- a buffer that was linked before: the queue streams already
            refine .inr ⟨?_, hl⟩
            rcases hidle : s.queueStreaming with _ | _
            · rw [show p.queueStreaming = q.queueStreaming from hqueue] at hstream
              rcases hstart with ⟨hsame, -⟩ | ⟨-, htwo, hrefuse⟩
              · exact hidle.symm.trans (hsame.symm.trans hstream)
              · change BufRef.user i ∈ linked s.cap at hl
                have hsome : s.prepared ≠ [] :=
                  List.length_pos_iff.mp (Nat.lt_of_lt_of_le Nat.two_pos htwo)
                rw [hfits hneg hrefuse hidle hsome] at hl
                exact absurd hl List.not_mem_nil
            · rfl
          · exact .inl hq
      obtain ⟨hb, hplanes⟩ := h.held i hbefore
      refine ⟨hb, hplanes.congr ?_⟩
      change (p.cap.buf (.user i)).planes = _
      rw [hlists.2.2.1]
      exact hcarried.planes _
    · change p.cap.isi.regs .outBufPitch = s.cap.dstF.bytesperline 0
      rw [show p.cap.isi.regs .outBufPitch = q.cap.isi.regs .outBufPitch from hpitch,
        show q.cap.isi.regs .outBufPitch = config.isi.regs .outBufPitch from hcarried.pitch]
      exact pitch_channelConfig _ _ _ _ _
    · change p.queueStreaming = false at hidle
      change p.cap.outActive = []
      rw [show p.queueStreaming = q.queueStreaming from hqueue] at hidle
      rcases hstart with ⟨hsame, hactive⟩ | ⟨hstarted, -⟩
      · rw [hlists.2.1]
        exact hactive.trans (h.idle (hsame.symm.trans hidle))
      · rw [show q.queueStreaming = true from hstarted] at hidle
        cases hidle
    · change p.queueStreaming = true at hstream
      rw [show p.queueStreaming = q.queueStreaming from hqueue] at hstream
      have hb : s.busy = true := by
        rcases hstart with ⟨hsame, -⟩ | ⟨-, hcount⟩
        · exact hbusy (.inl (hsame.symm.trans hstream))
        · exact hbusy (.inr hcount.1)
      exact ⟨hb, h.buffers hb⟩

theorem carried_onChannel (cap : MxcIsiCapDev) {isi : MxcIsiDev}
    (h : isi.regs .outBufPitch = cap.isi.regs .outBufPitch) :
    Carried cap { cap with isi := isi } [] :=
  ⟨rfl, h, fun _ => rfl, fun _ hi => .inl hi⟩

theorem carried_vb2IoctlStreamoff (s : Pipeline) (refuse : Option Errno) :
    let q := (vb2IoctlStreamoff s refuse).1
    Carried s.cap q.cap [] ∧ (q.queueStreaming = true → s.queueStreaming = true) ∧
      (q.cap.outActive = [] ∨
        q.cap.outActive = s.cap.outActive ∧ q.queueStreaming = s.queueStreaming) := by
  dsimp only
  rcases refuse with _ | e
  · change Carried s.cap (vb2QueueCancel s).cap [] ∧
      ((vb2QueueCancel s).queueStreaming = true → s.queueStreaming = true) ∧
      ((vb2QueueCancel s).cap.outActive = [] ∨
        (vb2QueueCancel s).cap.outActive = s.cap.outActive ∧
          (vb2QueueCancel s).queueStreaming = s.queueStreaming)
    unfold vb2QueueCancel
    split
    · exact ⟨(carried_stopStreaming s.cap).1, fun h => absurd h Bool.false_ne_true, .inl rfl⟩
    · exact ⟨carried_refl _, fun h => h, .inr ⟨rfl, rfl⟩⟩
  · exact ⟨carried_refl _, fun h => h, .inr ⟨rfl, rfl⟩⟩

theorem sized_streamoff {s : CaptureNode} {walk : WalkEnv} {refuse : Option Errno}
    (h : Sized s) : Sized (captureStep s (.streamoff walk refuse)) := by
  let walked := (mxcIsiPipelineEnable s.toPipeline walk false).1
  let off := onChannel walked mxcIsiChannelDisable
  let q := (vb2IoctlStreamoff off refuse).1
  have hwalked := queue_pipelineEnable s.toPipeline walk false
  have hoff : Carried s.cap off.cap [] ∧ off.queueStreaming = s.queueStreaming ∧
      off.cap.outActive = s.cap.outActive := by
    have hcap : off.cap = { s.cap with isi := mxcIsiChannelDisable s.cap.isi } := by
      change { walked.cap with isi := mxcIsiChannelDisable walked.cap.isi } = _
      rw [show walked.cap = s.cap from hwalked.1]
    rw [hcap]
    exact ⟨carried_onChannel _ (pitch_channelDisable _), hwalked.2, rfl⟩
  obtain ⟨hcarried, hqueue, hactive⟩ := carried_vb2IoctlStreamoff off refuse
  have hlast : Carried q.cap { q.cap with isi := { q.cap.isi with isStreaming := false } } [] :=
    carried_onChannel _ rfl
  have hall := (hoff.1.trans hcarried).trans hlast
  have hstep : captureStep s (.streamoff walk refuse) = { s with
      toPipeline := onChannel q fun isi => { isi with isStreaming := false }
      prepared := if refuse.isNone then [] else s.prepared } := rfl
  rw [hstep]
  refine h.carry ⟨hall.dstF, hall.pitch, hall.planes, fun i hi => ?_⟩ (fun i hi => ?_)
    ⟨rfl, rfl⟩ rfl (fun hq => ?_) (fun hidle => ?_)
  · exact .inl ((hall.linked i hi).resolve_right List.not_mem_nil)
  · exact mem_of_mem_ite hi
  · exact hoff.2.1.symm.trans (hqueue hq)
  · change q.cap.outActive = []
    change q.queueStreaming = false at hidle
    rcases hactive with hnil | ⟨hsame, hkept⟩
    · exact hnil
    · rw [show q.cap.outActive = off.cap.outActive from hsame, hoff.2.2]
      exact h.idle (hoff.2.1.symm.trans (hkept.symm.trans hidle))

theorem sized_frameDone {s : CaptureNode} {status : U32} (h : Sized s) :
    Sized (captureStep s (.frameDone status)) := by
  have hcarried := carried_irqHandler s.cap status
  refine h.carry ⟨hcarried.dstF, hcarried.pitch, hcarried.planes, fun i hi => ?_⟩
    (fun _ hi => hi) ⟨rfl, rfl⟩ rfl (fun hq => hq) (fun hidle => ?_)
  · exact .inl ((hcarried.linked i hi).resolve_right List.not_mem_nil)
  · have hactive := h.idle hidle
    exact (irqHandler_idle s.cap status hactive).2.1.trans hactive

theorem sized_captureStep {s : CaptureNode} {op : CaptureOp} (h : Sized s)
    (hfits : FormatFits s op) : Sized (captureStep s op) := by
  cases op with
  | sFmt pix => exact sized_sFmt h hfits
  | setFmt isMn pad mf => exact sized_setFmt h hfits
  | reqBufs granted => exact sized_reqBufs h
  | qBuf i planes => exact sized_qBuf h
  | streamon env => exact sized_streamon h hfits
  | streamoff walk refuse => exact sized_streamoff h
  | frameDone status => exact sized_frameDone h

/-- In every state of a run whose calls fit, each plane of each active user buffer
holds what the channel writes into it. -/
theorem contained_of_formatFits {s : CaptureNode} (hs : Sized s) (ops : List CaptureOp)
    (hops : Along captureStep FormatFits s ops) : Always captureStep Contained s ops :=
  (always_of_along (fun _ _ h hfits => sized_captureStep h hfits) hs hops).imp
    fun _ h => h.contained

def boardNode : CaptureNode :=
  { boardPipeline with
    numBuffers := 0
    sizes := []
    prepared := []
    configured := boardCapture.dstF }

theorem sized_boardNode : Sized boardNode := by
  refine ⟨⟨mxcIsiOutFormat0, rfl, fun p hp => ?_⟩, fun hbusy => ?_, fun i hi => ?_, rfl,
    fun _ => rfl, fun hstream => ?_⟩
  · change 0 * _ ≤ _
    rw [Nat.zero_mul]
    exact Nat.zero_le _
  · cases hbusy
  · rcases hi with hi | ⟨-, hi⟩ <;> exact absurd hi List.not_mem_nil
  · cases hstream

/-- A receiver that delivers 1280x800, and allocations that succeed. -/
def captureAnswers : StreamonEnv :=
  { boardAnswers [] with vb2 := ⟨none, [], true, fun _ => some 0x50000000#32⟩ }

def captureRun (pix : V4l2PixFormatMplane) (planes : List Vb2Plane) : List CaptureOp :=
  [.sFmt pix, .reqBufs 2, .qBuf 0 planes, .qBuf 1 planes, .streamon captureAnswers]

def nv12Request (bytesperline : U32) : V4l2PixFormatMplane :=
  { width := 640#32
    height := 480#32
    pixelformat := v4l2PixFmtNv12
    numPlanes := 2
    planeFmt := fun _ => ⟨0#32, bytesperline⟩ }

def nv12Planes : List Vb2Plane := [⟨0x40000000#32, 307200#32⟩, ⟨0x40100000#32, 153600#32⟩]

theorem sFmtFits_nv12 : SFmtFits (nv12Request 640#32) := by
  intro _ _ fmt hfmt
  have hrow : mxcIsiOutFormats.find? (fun fmt => fmt.fourcc == v4l2PixFmtNv12) =
      some (outFmt v4l2PixFmtNv12 [8, 8] mxcIsiOutFmtYuv420_2P8P mediaBusFmtYuyv8_1x16) := by
    decide
  cases hrow.symm.trans hfmt
  decide

theorem contained_nv12 :
    Contained (exec captureStep boardNode (captureRun (nv12Request 640#32) nv12Planes)) :=
  (contained_of_formatFits sized_boardNode (captureRun (nv12Request 640#32) nv12Planes)
    ⟨fun _ => sFmtFits_nv12, trivial, trivial, trivial, fun _ _ _ _ => rfl, trivial⟩).last

/-- A pitch beyond the width is programmed, but the plane sizes are computed from
the width. -/
theorem wide_pitch_not_contained :
    ¬ Always captureStep Contained boardNode
      (captureRun (nv12Request 1024#32) nv12Planes) := by
  intro h
  have hover := h.last (by decide) 0 (by decide) 0 (by decide)
  exact absurd hover (by decide)

end CameraPorting.Isi.Containment
