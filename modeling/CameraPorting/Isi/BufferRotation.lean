import CameraPorting.Isi.CaptureQueue
import CameraPorting.Library.Runs
import CameraPorting.Library.SlotRotation

namespace CameraPorting.Isi.BufferRotation

open CameraPorting.Kernel.Media
open CameraPorting.Isi.Device
open CameraPorting.Isi.Channel
open CameraPorting.Isi.CaptureQueue
open CameraPorting.Library.Runs
open CameraPorting.Library.SlotRotation

def isDiscard (r : BufRef) : Bool := !r.isUser

@[simp] theorem isDiscard_user (i : Nat) : isDiscard (.user i) = false := rfl

@[simp] theorem isDiscard_discard (k : Fin 2) : isDiscard (.discard k) = true := rfl

theorem not_isDiscard : (fun r => !isDiscard r) = BufRef.isUser := by
  funext r
  simp [isDiscard]

def discardNodes : List BufRef := [.discard 0, .discard 1]

/-- The rotation the lists of the capture device make up. -/
def bufRotation (cap : MxcIsiCapDev) : Rotation BufRef :=
  { pending := cap.outPending
    active := cap.outActive
    spare := cap.outDiscard
    completed := cap.completed.map Prod.fst
    starved := cap.faults.length }

/-- The `discard` flag is set in the nodes inside the device and in no buffer of
the queue. -/
def Marked (cap : MxcIsiCapDev) : Prop :=
  ∀ r, (cap.buf r).discard = isDiscard r

/-- Two states whose nodes carry the same `discard` flags and planes. -/
def SameNodes (cap cap' : MxcIsiCapDev) : Prop :=
  ∀ r, (cap'.buf r).discard = (cap.buf r).discard ∧
    (cap'.buf r).planes = (cap.buf r).planes

theorem sameNodes_refl (cap : MxcIsiCapDev) : SameNodes cap cap :=
  fun _ => ⟨rfl, rfl⟩

theorem SameNodes.trans {a b c : MxcIsiCapDev} (hab : SameNodes a b)
    (hbc : SameNodes b c) : SameNodes a c :=
  fun r => ⟨(hbc r).1.trans (hab r).1, (hbc r).2.trans (hab r).2⟩

theorem SameNodes.marked {cap cap' : MxcIsiCapDev} (h : SameNodes cap cap')
    (hcap : Marked cap) : Marked cap' :=
  fun r => (h r).1.trans (hcap r)

theorem nodes_update {bufs : BufRef → MxcIsiBuffer} {r : BufRef} {b : MxcIsiBuffer}
    (hdiscard : b.discard = (bufs r).discard) (hplanes : b.planes = (bufs r).planes)
    (r' : BufRef) :
    (Function.update bufs r b r').discard = (bufs r').discard ∧
      (Function.update bufs r b r').planes = (bufs r').planes := by
  by_cases hr : r' = r
  · subst hr
    rw [Function.update_self]
    exact ⟨hdiscard, hplanes⟩
  · rw [Function.update_of_ne hr]
    exact ⟨rfl, rfl⟩

theorem sameNodes_setSequence (cap : MxcIsiCapDev) (r : BufRef) (n : U32) :
    SameNodes cap (setSequence cap r n) :=
  nodes_update rfl rfl

theorem sameNodes_setState (cap : MxcIsiCapDev) (r : BufRef)
    (st : Vb2BufferState) : SameNodes cap (setState cap r st) :=
  nodes_update rfl rfl

theorem sameNodes_setOutbuf (cap : MxcIsiCapDev) (r : BufRef) :
    SameNodes cap (mxcIsiChannelSetOutbuf cap r) :=
  nodes_update rfl rfl

theorem sameNodes_startOutbuf (cap : MxcIsiCapDev) (r : BufRef) (n : U32) :
    SameNodes cap (startOutbuf cap r n) :=
  ((sameNodes_setSequence cap r n).trans (sameNodes_setState _ r _)).trans
    (sameNodes_setOutbuf _ r)

theorem sameNodes_retireOutbuf (cap : MxcIsiCapDev) (r : BufRef)
    (rest : List BufRef) : SameNodes cap (retireOutbuf cap r rest) := by
  unfold retireOutbuf
  dsimp only
  split
  · exact sameNodes_refl _
  · exact sameNodes_setState { cap with outActive := rest } r .done

theorem sameNodes_refillOutbuf (cap : MxcIsiCapDev) :
    SameNodes cap (refillOutbuf cap) := by
  unfold refillOutbuf
  split
  · split
    · exact sameNodes_refl _
    · rename_i r rest _
      exact (sameNodes_setSequence cap r cap.frameCount).trans
        (sameNodes_setOutbuf _ r)
  · rename_i r rest _
    exact ((sameNodes_setSequence cap r cap.frameCount).trans
      (sameNodes_setOutbuf _ r)).trans (sameNodes_setState _ r .active)

theorem sameNodes_frameWriteDone (cap : MxcIsiCapDev) :
    SameNodes cap (mxcIsiCapFrameWriteDone cap) := by
  unfold mxcIsiCapFrameWriteDone
  split
  · exact sameNodes_refl _
  · rename_i r rest _
    split
    · exact sameNodes_refl _
    · exact (sameNodes_retireOutbuf cap r rest).trans (sameNodes_refillOutbuf _)

theorem sameNodes_irqHandler (cap : MxcIsiCapDev) (status : U32) :
    SameNodes cap (mxcIsiIrqHandler cap status) := by
  unfold mxcIsiIrqHandler
  dsimp only
  split
  · split
    · exact sameNodes_refl _
    · exact sameNodes_frameWriteDone _
  · exact sameNodes_refl _

theorem sameNodes_bufferQueue (cap : MxcIsiCapDev) (r : BufRef) :
    SameNodes cap (capVb2BufferQueue cap r) := by
  refine nodes_update ?_ ?_ <;>
    · unfold mxcIsiUpdateBufPaddr
      split <;> rfl

theorem rotation_refillOutbuf (cap : MxcIsiCapDev) :
    bufRotation (refillOutbuf cap) = (bufRotation cap).refill := by
  rcases hpending : cap.outPending with _ | ⟨r, rest⟩
  · rcases hdiscard : cap.outDiscard with _ | ⟨r, rest⟩
    · simp [refillOutbuf, Rotation.refill, Rotation.fillSpare, Rotation.starve,
        warn, bufRotation, hpending, hdiscard]
    · simp [refillOutbuf, Rotation.refill, Rotation.fillSpare, bufRotation,
        mxcIsiChannelSetOutbuf, setSequence, hpending, hdiscard]
  · simp [refillOutbuf, Rotation.refill, Rotation.fillPending, bufRotation,
      mxcIsiChannelSetOutbuf, setSequence, setState, hpending]

theorem rotation_retireOutbuf {cap : MxcIsiCapDev} (h : Marked cap) (r : BufRef)
    (rest : List BufRef) :
    bufRotation (retireOutbuf cap r rest) =
      (bufRotation cap).retire isDiscard r rest := by
  unfold retireOutbuf Rotation.retire
  rw [← h r]
  dsimp only
  split
  · rfl
  · simp [bufRotation, vb2BufferDone, setState]

/-- Whether `mxc_isi_cap_frame_write_done` skips the interrupt. -/
def headSlotActive (cap : MxcIsiCapDev) : Bool :=
  match cap.outActive with
  | [] => false
  | r :: _ => slotActive cap.isi (cap.buf r).id

theorem rotation_frameWriteDone {cap : MxcIsiCapDev} (h : Marked cap) :
    bufRotation (mxcIsiCapFrameWriteDone cap) =
      if headSlotActive cap then bufRotation cap
      else (bufRotation cap).advance isDiscard := by
  unfold mxcIsiCapFrameWriteDone headSlotActive Rotation.advance
  rcases hactive : cap.outActive with _ | ⟨r, rest⟩
  · simp [bufRotation, warn, Rotation.starve, hactive]
  · change bufRotation (if slotActive cap.isi (cap.buf r).id then cap
      else refillOutbuf (retireOutbuf cap r rest)) = _
    split
    · rfl
    · rw [rotation_refillOutbuf, rotation_retireOutbuf h]
      simp [bufRotation, hactive]

theorem rotation_irqHandler {cap : MxcIsiCapDev} (h : Marked cap)
    (status : U32) :
    bufRotation (mxcIsiIrqHandler cap status) = bufRotation cap ∨
      bufRotation (mxcIsiIrqHandler cap status) = (bufRotation cap).advance isDiscard := by
  unfold mxcIsiIrqHandler
  dsimp only
  split
  · split
    · exact .inl rfl
    · rw [rotation_frameWriteDone (by exact h)]
      split
      · exact .inl rfl
      · exact .inr rfl
  · exact .inl rfl

theorem frameWriteDone_empty {cap : MxcIsiCapDev} (h : cap.outActive = []) :
    mxcIsiCapFrameWriteDone cap = warn cap .emptyActive := by
  simp [mxcIsiCapFrameWriteDone, h]

theorem irqHandler_idle (cap : MxcIsiCapDev) (status : U32)
    (h : cap.outActive = []) :
    (mxcIsiIrqHandler cap status).outPending = cap.outPending ∧
      (mxcIsiIrqHandler cap status).outActive = cap.outActive ∧
      (mxcIsiIrqHandler cap status).outDiscard = cap.outDiscard ∧
      (mxcIsiIrqHandler cap status).completed = cap.completed := by
  unfold mxcIsiIrqHandler
  dsimp only
  split
  · split
    · exact ⟨rfl, rfl, rfl, rfl⟩
    · rw [frameWriteDone_empty (by exact h)]
      exact ⟨rfl, rfl, rfl, rfl⟩
  · exact ⟨rfl, rfl, rfl, rfl⟩

theorem allocDiscardBuffers_frame (alloc : Nat → Option U32) (todo i : Nat)
    (cap : MxcIsiCapDev) :
    ∃ size dma allocs, (allocDiscardBuffers alloc todo i cap).1 =
      { cap with
        discardSize := size
        discardBufferDma := dma
        dmaAllocs := allocs } := by
  induction todo generalizing i cap with
  | zero => exact ⟨_, _, _, rfl⟩
  | succ todo ih =>
      unfold allocDiscardBuffers
      dsimp only
      split
      · exact ⟨_, _, _, rfl⟩
      · exact ih (i + 1) _

theorem allocDiscardBuffers_ok_iff (alloc : Nat → Option U32) (todo i : Nat)
    (cap : MxcIsiCapDev) :
    (allocDiscardBuffers alloc todo i cap).2 = .ok () ↔
      ∀ j, i ≤ j → j < i + todo → (alloc j).isSome = true := by
  induction todo generalizing i cap with
  | zero =>
      constructor
      · intro _ j hij hj
        omega
      · intro _
        rfl
  | succ todo ih =>
      unfold allocDiscardBuffers
      dsimp only
      split
      · rename_i hnone
        constructor
        · intro h
          cases h
        · intro h
          have hsome := h i (Nat.le_refl i) (by omega)
          rw [hnone] at hsome
          cases hsome
      · rename_i dma hdma
        rw [ih]
        constructor
        · intro h j hij hj
          rcases Nat.eq_or_lt_of_le hij with rfl | hlt
          · rw [hdma]
            rfl
          · exact h j hlt (by omega)
        · intro h j hij hj
          exact h j (by omega) (by omega)

theorem rotation_programOutbufs (cap : MxcIsiCapDev) :
    bufRotation (programOutbufs cap) = (bufRotation cap).start discardNodes := by
  rcases hdiscard : cap.outDiscard with _ | ⟨d, ds⟩ <;>
    rcases hpending : cap.outPending with _ | ⟨p, ps⟩ <;>
      simp [programOutbufs, addDiscard, startOutbuf, mxcIsiChannelSetOutbuf,
        setSequence, setState, warn, bufRotation, discardNodes, Rotation.start,
        Rotation.fillSpare, Rotation.fillPending, Rotation.starve, hdiscard,
        hpending]

theorem marked_addDiscard {cap : MxcIsiCapDev} (k : Fin 2) (r : BufRef)
    (h : r = .discard k ∨ (cap.buf r).discard = isDiscard r) :
    ((addDiscard cap k).buf r).discard = isDiscard r := by
  unfold addDiscard
  by_cases hr : r = .discard k
  · subst hr
    simp
  · rcases h with h | h
    · exact absurd h hr
    · simpa [Function.update_of_ne hr] using h

theorem sameNodes_programOutbufs (cap : MxcIsiCapDev) :
    SameNodes (addDiscard (addDiscard cap 0) 1) (programOutbufs cap) := by
  unfold programOutbufs
  intro r
  dsimp only
  split
  · split
    · exact ⟨rfl, rfl⟩
    · exact sameNodes_startOutbuf _ _ _ r
  · split
    · exact sameNodes_startOutbuf _ _ _ r
    · exact ⟨(sameNodes_startOutbuf _ _ _ r).1.trans (sameNodes_startOutbuf _ _ _ r).1,
        (sameNodes_startOutbuf _ _ _ r).2.trans (sameNodes_startOutbuf _ _ _ r).2⟩

theorem marked_programOutbufs {cap : MxcIsiCapDev}
    (h : ∀ i, (cap.buf (.user i)).discard = false) :
    Marked (programOutbufs cap) := by
  refine (sameNodes_programOutbufs cap).marked fun r => ?_
  rcases r with i | k
  · exact marked_addDiscard 1 _ (.inr (marked_addDiscard 0 _ (.inr (h i))))
  · by_cases hk : k = 1
    · exact marked_addDiscard 1 _ (.inl (by rw [hk]))
    · refine marked_addDiscard 1 _ (.inr (marked_addDiscard 0 _ (.inl ?_)))
      have : k = 0 := by omega
      rw [this]

theorem startStreaming_ok {cap started : MxcIsiCapDev} {hostdata : Bool}
    {alloc : Nat → Option U32} {count : Nat}
    (h : capVb2StartStreaming cap hostdata alloc count = (started, .ok ())) :
    2 ≤ count ∧ ∃ size dma allocs, started = programOutbufs { cap with
      discardSize := size
      discardBufferDma := dma
      dmaAllocs := allocs } := by
  unfold capVb2StartStreaming at h
  split at h
  · cases h
  rename_i hcount
  refine ⟨by omega, ?_⟩
  split at h
  · cases h
  obtain ⟨size, dma, allocs, hframe⟩ :=
    allocDiscardBuffers_frame alloc cap.pix.numPlanes 0 cap
  split at h
  · cases h
  · rename_i cap' hloop
    rw [hloop] at hframe
    rw [← (Prod.mk.inj h).1]
    exact ⟨size, dma, allocs, congrArg programOutbufs hframe⟩

theorem startStreaming_ok_iff (cap : MxcIsiCapDev) (hostdata : Bool)
    (alloc : Nat → Option U32) (count : Nat) :
    (capVb2StartStreaming cap hostdata alloc count).2 = .ok () ↔
      2 ≤ count ∧ hostdata = true ∧
        ∀ i, i < cap.pix.numPlanes → (alloc i).isSome = true := by
  unfold capVb2StartStreaming
  split
  · rename_i hcount
    constructor
    · intro h
      cases h
    · rintro ⟨hle, -⟩
      omega
  rename_i hcount
  cases hostdata with
  | false => simp
  | true =>
      have hloop := allocDiscardBuffers_ok_iff alloc cap.pix.numPlanes 0 cap
      simp only [Nat.zero_le, true_implies, Nat.zero_add] at hloop
      have hle : 2 ≤ count := by omega
      rcases hresult : allocDiscardBuffers alloc cap.pix.numPlanes 0 cap with ⟨cap', e | u⟩
      · rw [hresult] at hloop
        simpa [hle] using hloop
      · rw [hresult] at hloop
        simpa [hle] using hloop

theorem startStreaming_error {cap cap' : MxcIsiCapDev} {hostdata : Bool}
    {alloc : Nat → Option U32} {count : Nat} {e : Errno}
    (h : capVb2StartStreaming cap hostdata alloc count = (cap', .error e)) :
    bufRotation cap' = bufRotation cap ∧ SameNodes cap cap' := by
  unfold capVb2StartStreaming at h
  split at h
  · rw [← (Prod.mk.inj h).1]
    exact ⟨rfl, sameNodes_refl _⟩
  split at h
  · rw [← (Prod.mk.inj h).1]
    exact ⟨rfl, sameNodes_refl _⟩
  obtain ⟨size, dma, allocs, hframe⟩ :=
    allocDiscardBuffers_frame alloc cap.pix.numPlanes 0 cap
  split at h
  · rename_i cap'' e' hloop
    rw [hloop] at hframe
    change cap'' = _ at hframe
    rw [← (Prod.mk.inj h).1, hframe]
    exact ⟨rfl, sameNodes_refl _⟩
  · cases h

/-- The part of the state that draining a list leaves alone. -/
structure DrainFrame (cap cap' : MxcIsiCapDev) : Prop where
  marks : SameNodes cap cap'
  pending : cap'.outPending = cap.outPending
  faults : cap'.faults = cap.faults
  isi : cap'.isi = cap.isi
  dstF : cap'.dstF = cap.dstF

theorem DrainFrame.trans {a b c : MxcIsiCapDev} (hab : DrainFrame a b)
    (hbc : DrainFrame b c) : DrainFrame a c :=
  ⟨hab.marks.trans hbc.marks, hbc.pending.trans hab.pending,
    hbc.faults.trans hab.faults, hbc.isi.trans hab.isi, hbc.dstF.trans hab.dstF⟩

theorem drainFrame_vb2BufferDone (cap : MxcIsiCapDev) (r : BufRef)
    (st : Vb2BufferState) : DrainFrame cap (vb2BufferDone cap r st) :=
  ⟨sameNodes_setState cap r st, rfl, rfl, rfl, rfl⟩

theorem drainFrame_returnActive (cap : MxcIsiCapDev) (r : BufRef) :
    DrainFrame cap (returnActive cap r) := by
  unfold returnActive
  split
  · exact ⟨sameNodes_refl _, rfl, rfl, rfl, rfl⟩
  · exact drainFrame_vb2BufferDone cap r .error

theorem drainFrame_foldl {step : MxcIsiCapDev → BufRef → MxcIsiCapDev}
    (hstep : ∀ cap r, DrainFrame cap (step cap r)) (nodes : List BufRef)
    (cap : MxcIsiCapDev) : DrainFrame cap (nodes.foldl step cap) := by
  induction nodes generalizing cap with
  | nil => exact ⟨sameNodes_refl _, rfl, rfl, rfl, rfl⟩
  | cons r rest ih => exact (hstep cap r).trans (ih (step cap r))

theorem completed_foldl_returnActive (active : List BufRef) {cap : MxcIsiCapDev}
    (h : Marked cap) :
    (active.foldl returnActive cap).completed = cap.completed ++
      (active.filter BufRef.isUser).map (fun r => (r, .error)) := by
  induction active generalizing cap with
  | nil => simp
  | cons r rest ih =>
      rw [List.foldl_cons, ih ((drainFrame_returnActive cap r).marks.marked h)]
      unfold returnActive
      rw [h r]
      rcases hr : r.isUser <;> simp [vb2BufferDone, setState, isDiscard, hr]

theorem completed_foldl_vb2BufferDone (pending : List BufRef) (cap : MxcIsiCapDev) :
    (pending.foldl (fun cap r => vb2BufferDone cap r .error) cap).completed =
      cap.completed ++ pending.map (fun r => (r, .error)) := by
  induction pending generalizing cap with
  | nil => simp
  | cons r rest ih =>
      rw [List.foldl_cons, ih]
      simp [vb2BufferDone]

/-- The state `cap_vb2_stop_streaming` reaches before it empties the lists. -/
def drained (cap : MxcIsiCapDev) : MxcIsiCapDev :=
  let cap := { cap with isi := mxcIsiChannelDisable cap.isi }
  let cap := cap.outActive.foldl returnActive cap
  cap.outPending.foldl (fun cap r => vb2BufferDone cap r .error) cap

theorem drainFrame_drained (cap : MxcIsiCapDev) :
    DrainFrame { cap with isi := mxcIsiChannelDisable cap.isi } (drained cap) :=
  (drainFrame_foldl drainFrame_returnActive _ _).trans
    (drainFrame_foldl (fun cap r => drainFrame_vb2BufferDone cap r .error) _ _)

theorem isi_stopStreaming (cap : MxcIsiCapDev) :
    (capVb2StopStreaming cap).isi = mxcIsiChannelDisable cap.isi :=
  (drainFrame_drained cap).isi

/-- The buffers `cap_vb2_stop_streaming` gives back, in the order it does. -/
def remaining (cap : MxcIsiCapDev) : List BufRef :=
  cap.outActive.filter BufRef.isUser ++ cap.outPending

theorem stopStreaming_spec {cap : MxcIsiCapDev} (h : Marked cap) :
    SameNodes cap (capVb2StopStreaming cap) ∧
      bufRotation (capVb2StopStreaming cap) = (bufRotation cap).drain isDiscard ∧
      (capVb2StopStreaming cap).completed =
        cap.completed ++ (remaining cap).map (fun r => (r, .error)) := by
  let disabled := { cap with isi := mxcIsiChannelDisable cap.isi }
  have hdisabled : Marked disabled := h
  have hactive := drainFrame_foldl drainFrame_returnActive cap.outActive disabled
  have hframe := drainFrame_drained cap
  have hcompleted : (capVb2StopStreaming cap).completed =
      cap.completed ++ (remaining cap).map (fun r => (r, .error)) := by
    change ((cap.outActive.foldl returnActive disabled).outPending.foldl
      (fun cap r => vb2BufferDone cap r .error)
      (cap.outActive.foldl returnActive disabled)).completed = _
    rw [completed_foldl_vb2BufferDone, completed_foldl_returnActive cap.outActive hdisabled,
      hactive.pending]
    simp [remaining, disabled]
  refine ⟨hframe.marks, ?_, hcompleted⟩
  have hfaults : (capVb2StopStreaming cap).faults = cap.faults := hframe.faults
  unfold bufRotation Rotation.drain
  rw [hcompleted, hfaults, not_isDiscard]
  simp [capVb2StopStreaming, freeDiscardBuffers, remaining, Function.comp_def]

end CameraPorting.Isi.BufferRotation
