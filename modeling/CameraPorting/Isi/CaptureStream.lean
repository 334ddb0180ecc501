import CameraPorting.Isi.BufferRotation
import CameraPorting.Isi.Ioctls

/-!
Runs of the capture device between a successful stream start and the stop: vb2
queues buffers and the channel raises interrupts in any order. `buf_queue`, the
start, the stop and the interrupt handler are atomic steps. The source does not make
them so: the queue callbacks hold `isi_cap->slock`, the interrupt handler
`mxc_isi->slock`.
-/

namespace CameraPorting.Isi.CaptureStream

open CameraPorting.Kernel.Media
open CameraPorting.Isi.Device
open CameraPorting.Isi.CaptureQueue
open CameraPorting.Isi.BufferRotation
open CameraPorting.Isi.Formats
open CameraPorting.Isi.Ioctls
open CameraPorting.Library.Runs
open CameraPorting.Library.SlotRotation

inductive StreamOp where
  | bufQueue (index : Nat)
  | frameDone (status : U32)
  deriving DecidableEq, Repr

def streamStep (cap : MxcIsiCapDev) : StreamOp → MxcIsiCapDev
  | .bufQueue i => capVb2BufferQueue cap (.user i)
  | .frameDone status => mxcIsiIrqHandler cap status

def MayQueue (cap : MxcIsiCapDev) : StreamOp → Prop
  | .bufQueue i => BufRef.user i ∉ cap.outPending ++ cap.outActive
  | .frameDone _ => True

instance (cap : MxcIsiCapDev) : ∀ op, Decidable (MayQueue cap op)
  | .bufQueue i => inferInstanceAs (Decidable (BufRef.user i ∉ _))
  | .frameDone _ => inferInstanceAs (Decidable True)

def queuedIn : List StreamOp → List BufRef
  | [] => []
  | .bufQueue i :: ops => .user i :: queuedIn ops
  | .frameDone _ :: ops => queuedIn ops

/-- The invariant of a streaming capture device: two filled slots, the discard
nodes in the slots or in their own list, and no buffer held twice. -/
structure Rotating (cap : MxcIsiCapDev) : Prop where
  marked : Marked cap
  sorted : (bufRotation cap).Sorted isDiscard
  full : (bufRotation cap).Full isDiscard discardNodes
  held : ∀ i, cap.outPending.count (.user i) + cap.outActive.count (.user i) ≤ 1

/-- What a part of a run did: it completed `new`, took over `queued`, and met no
empty list. -/
structure Effect (cap cap' : MxcIsiCapDev) (queued new : List BufRef) : Prop where
  completed : cap'.completed.map Prod.fst = cap.completed.map Prod.fst ++ new
  users : ∀ r ∈ new, isDiscard r = false
  tally : ∀ i, (bufRotation cap').tally (.user i) =
    (bufRotation cap).tally (.user i) + queued.count (.user i)
  faults : cap'.faults.length = cap.faults.length

theorem effect_refl (cap : MxcIsiCapDev) : Effect cap cap [] [] :=
  ⟨(List.append_nil _).symm, fun _ h => absurd h List.not_mem_nil, fun _ => rfl, rfl⟩

theorem Effect.trans {a b c : MxcIsiCapDev} {q q' n n' : List BufRef}
    (hab : Effect a b q n) (hbc : Effect b c q' n') :
    Effect a c (q ++ q') (n ++ n') := by
  refine ⟨?_, ?_, ?_, hbc.faults.trans hab.faults⟩
  · rw [hbc.completed, hab.completed, List.append_assoc]
  · intro r hr
    rcases List.mem_append.mp hr with hr | hr
    · exact hab.users r hr
    · exact hbc.users r hr
  · intro i
    rw [hbc.tally, hab.tally, List.count_append]
    omega

theorem effect_of_delivers {cap cap' : MxcIsiCapDev} {new : List BufRef}
    (h : Rotation.Delivers isDiscard (bufRotation cap) (bufRotation cap') new)
    (hfaults : cap'.faults.length = cap.faults.length) :
    Effect cap cap' [] new :=
  ⟨h.completed, h.users, fun i => h.tally (.user i) rfl, hfaults⟩

theorem rotating_bufQueue {cap : MxcIsiCapDev} (h : Rotating cap) {i : Nat}
    (hi : BufRef.user i ∉ cap.outPending ++ cap.outActive) :
    Rotating (capVb2BufferQueue cap (.user i)) ∧
      Effect cap (capVb2BufferQueue cap (.user i)) [.user i] [] := by
  refine ⟨⟨?_, ?_, ?_, ?_⟩, ⟨?_, ?_, ?_, rfl⟩⟩
  · exact (sameNodes_bufferQueue cap (.user i)).marked h.marked
  · exact h.sorted.enqueue rfl
  · exact h.full.enqueue _
  · intro j
    have hheld := h.held j
    change (cap.outPending ++ [BufRef.user i]).count (.user j) +
      cap.outActive.count (.user j) ≤ 1
    rw [List.count_append]
    by_cases hij : i = j
    · subst hij
      have hzero : (cap.outPending ++ cap.outActive).count (.user i) = 0 :=
        List.count_eq_zero.mpr hi
      rw [List.count_append] at hzero
      simp only [List.count_singleton_self]
      omega
    · have hne : BufRef.user i ≠ .user j := fun h => hij (BufRef.user.inj h)
      rw [List.count_singleton, if_neg (by simpa using hne)]
      omega
  · exact (List.append_nil _).symm
  · exact fun _ hr => absurd hr List.not_mem_nil
  · exact fun j => Rotation.tally_enqueue (bufRotation cap) (.user i) (.user j)

theorem rotating_frameDone {cap : MxcIsiCapDev} (h : Rotating cap)
    (status : U32) :
    Rotating (mxcIsiIrqHandler cap status) ∧
      ∃ new, Effect cap (mxcIsiIrqHandler cap status) [] new := by
  have hmarked := (sameNodes_irqHandler cap status).marked h.marked
  rcases rotation_irqHandler h.marked status with hrot | hrot
  · refine ⟨⟨hmarked, by rw [hrot]; exact h.sorted, by rw [hrot]; exact h.full, ?_⟩,
      [], effect_of_delivers ?_ ?_⟩
    · intro i
      have hpending : (mxcIsiIrqHandler cap status).outPending = cap.outPending :=
        congrArg Rotation.pending hrot
      have hactive : (mxcIsiIrqHandler cap status).outActive = cap.outActive :=
        congrArg Rotation.active hrot
      rw [hpending, hactive]
      exact h.held i
    · rw [hrot]
      exact Rotation.delivers_refl
    · exact congrArg Rotation.starved hrot
  · obtain ⟨hfull, hstarved⟩ := h.full.advance h.sorted (List.cons_ne_nil _ _)
    obtain ⟨new, hnew⟩ := Rotation.exists_delivers_advance isDiscard (bufRotation cap)
    rw [← hrot] at hfull hstarved hnew
    refine ⟨⟨hmarked, by rw [hrot]; exact h.sorted.advance, hfull, ?_⟩, new,
      effect_of_delivers hnew hstarved⟩
    intro i
    have htally := hnew.tally (.user i) rfl
    have hcount := hnew.count_completed (.user i)
    have hspare := h.sorted.count_spare (isDiscard_user i)
    have hheld := h.held i
    simp only [Rotation.tally] at htally
    change (bufRotation (mxcIsiIrqHandler cap status)).pending.count _ +
      (bufRotation (mxcIsiIrqHandler cap status)).active.count _ ≤ 1
    change (bufRotation cap).pending.count _ + (bufRotation cap).active.count _ ≤ 1 at hheld
    omega

theorem rotating_streamStep {cap : MxcIsiCapDev} {op : StreamOp}
    (h : Rotating cap) (hop : MayQueue cap op) :
    Rotating (streamStep cap op) ∧
      ∃ new, Effect cap (streamStep cap op) (queuedIn [op]) new := by
  cases op with
  | bufQueue i => exact ⟨(rotating_bufQueue h hop).1, _, (rotating_bufQueue h hop).2⟩
  | frameDone status => exact rotating_frameDone h status

theorem queuedIn_cons (op : StreamOp) (ops : List StreamOp) :
    queuedIn (op :: ops) = queuedIn [op] ++ queuedIn ops := by
  cases op <;> rfl

theorem rotating_exec {cap : MxcIsiCapDev} {ops : List StreamOp}
    (h : Rotating cap) (hops : Along streamStep MayQueue cap ops) :
    Rotating (exec streamStep cap ops) ∧
      ∃ new, Effect cap (exec streamStep cap ops) (queuedIn ops) new := by
  induction ops generalizing cap with
  | nil => exact ⟨h, [], effect_refl cap⟩
  | cons op ops ih =>
      obtain ⟨hstep, new, heffect⟩ := rotating_streamStep h hops.1
      obtain ⟨hrun, new', heffect'⟩ := ih hstep hops.2
      refine ⟨hrun, new ++ new', ?_⟩
      rw [queuedIn_cons]
      exact heffect.trans heffect'

/-- A capture device whose queue may be started: nothing is in the slots, and
the pending buffers are distinct buffers of the queue. -/
structure Startable (cap : MxcIsiCapDev) : Prop where
  active : cap.outActive = []
  discard : cap.outDiscard = []
  pending : cap.outPending.Nodup
  users : ∀ r ∈ cap.outPending, r.isUser = true
  flags : ∀ i, (cap.buf (.user i)).discard = false

theorem rotating_startStreaming {cap started : MxcIsiCapDev} {hostdata : Bool}
    {alloc : Nat → Option U32} (h : Startable cap)
    (hstart : capVb2StartStreaming cap hostdata alloc cap.outPending.length =
      (started, .ok ())) :
    Rotating started ∧ Effect cap started [] [] := by
  obtain ⟨hcount, size, dma, allocs, rfl⟩ := startStreaming_ok hstart
  let loaded := { cap with
    discardSize := size, discardBufferDma := dma, dmaAllocs := allocs }
  have hrot := rotation_programOutbufs loaded
  have hsorted : (bufRotation loaded).Sorted isDiscard := by
    refine ⟨fun r hr => ?_, fun r hr => ?_⟩
    · simp [isDiscard, h.users r hr]
    · change r ∈ cap.outDiscard at hr
      rw [h.discard] at hr
      exact absurd hr List.not_mem_nil
  have hpending : cap.outPending ≠ [] := by
    intro hnil
    rw [hnil] at hcount
    exact absurd hcount (by decide)
  obtain ⟨hfull, hstarved⟩ := Rotation.full_start (q := bufRotation loaded)
    (a := .discard 0) (b := .discard 1) h.active h.discard hpending hsorted rfl
  have htally : ∀ i, (bufRotation (programOutbufs loaded)).tally (.user i) =
      (bufRotation cap).tally (.user i) := by
    intro i
    rw [hrot, Rotation.tally_start]
    simp [discardNodes, Rotation.tally, bufRotation, loaded]
  have hcompleted : (bufRotation (programOutbufs loaded)).completed =
      (bufRotation cap).completed := by
    rw [hrot, Rotation.start, Rotation.completed_fillPending, Rotation.completed_fillSpare]
    rfl
  have hsorted' : (bufRotation (programOutbufs loaded)).Sorted isDiscard := by
    rw [hrot]
    exact hsorted.start (by simp [discardNodes])
  refine ⟨⟨marked_programOutbufs h.flags, hsorted', ?_, ?_⟩, ⟨?_, ?_, ?_, ?_⟩⟩
  · rw [hrot]
    exact hfull
  · intro i
    have hi := htally i
    have hspare := hsorted'.count_spare (isDiscard_user i)
    have hactive : (bufRotation cap).active.count (.user i) = 0 := by
      simp [bufRotation, h.active]
    have hone : (bufRotation cap).pending.count (.user i) ≤ 1 :=
      List.nodup_iff_count_le_one.mp h.pending _
    have hdiscard : (bufRotation cap).spare.count (.user i) = 0 := by
      simp [bufRotation, h.discard]
    simp only [Rotation.tally, hcompleted] at hi
    change (bufRotation (programOutbufs loaded)).pending.count _ +
      (bufRotation (programOutbufs loaded)).active.count _ ≤ 1
    omega
  · exact hcompleted.trans (List.append_nil _).symm
  · exact fun _ hr => absurd hr List.not_mem_nil
  · exact htally
  · change (bufRotation (programOutbufs loaded)).starved = _
    rw [hrot]
    exact hstarved

theorem Rotating.nodup_remaining {cap : MxcIsiCapDev} (h : Rotating cap) :
    (remaining cap).Nodup := by
  refine List.nodup_iff_count_le_one.mpr fun r => ?_
  unfold remaining
  rw [List.count_append]
  cases r with
  | user i =>
      have hheld := h.held i
      rw [List.count_filter (BufRef.isUser_user i)]
      omega
  | discard k =>
      have hpending : cap.outPending.count (.discard k) = 0 :=
        h.sorted.count_pending (isDiscard_discard k)
      have hactive : (cap.outActive.filter BufRef.isUser).count (.discard k) = 0 := by
        refine List.count_eq_zero.mpr fun hmem => ?_
        have := (List.mem_filter.mp hmem).2
        rw [BufRef.isUser_discard] at this
        exact Bool.noConfusion this
      omega

theorem count_discardNodes (k : Fin 2) :
    discardNodes.count (.discard k) = 1 := by
  revert k
  decide

theorem Rotating.nodup {cap : MxcIsiCapDev} (h : Rotating cap) :
    (cap.outPending ++ cap.outActive ++ cap.outDiscard).Nodup := by
  refine List.nodup_iff_count_le_one.mpr fun r => ?_
  rw [List.count_append, List.count_append]
  cases r with
  | user i =>
      have hspare : cap.outDiscard.count (.user i) = 0 :=
        h.sorted.count_spare (isDiscard_user i)
      have hheld := h.held i
      omega
  | discard k =>
      have hpending : cap.outPending.count (.discard k) = 0 :=
        h.sorted.count_pending (isDiscard_discard k)
      have hspares : cap.outActive.count (.discard k) +
          cap.outDiscard.count (.discard k) = 1 :=
        (h.full.count_spares (isDiscard_discard k)).trans (count_discardNodes k)
      omega

theorem count_queuedIn_discard (ops : List StreamOp) (k : Fin 2) :
    (queuedIn ops).count (.discard k) = 0 := by
  induction ops with
  | nil => rfl
  | cons op ops ih =>
      cases op with
      | bufQueue i => simpa [queuedIn, List.count_cons] using ih
      | frameDone status => exact ih

/-- The multiset balance of a run that began with a startable queue. -/
theorem Effect.perm {cap final : MxcIsiCapDev} {ops : List StreamOp}
    {new : List BufRef} (heffect : Effect cap final (queuedIn ops) new)
    (h : Startable cap) (hfinal : Rotating final) :
    (cap.completed.map Prod.fst ++ cap.outPending ++ queuedIn ops).Perm
      (final.completed.map Prod.fst ++ final.outPending ++
        final.outActive.filter BufRef.isUser) := by
  refine List.perm_iff_count.mpr fun r => ?_
  simp only [List.count_append]
  cases r with
  | user i =>
      have htally := heffect.tally i
      have hspare : final.outDiscard.count (.user i) = 0 :=
        hfinal.sorted.count_spare (isDiscard_user i)
      rw [List.count_filter (BufRef.isUser_user i)]
      simp only [Rotation.tally, bufRotation, h.active, h.discard, List.count_nil] at htally
      omega
  | discard k =>
      have hpending : final.outPending.count (.discard k) = 0 :=
        hfinal.sorted.count_pending (isDiscard_discard k)
      have hpending' : cap.outPending.count (.discard k) = 0 := by
        refine List.count_eq_zero.mpr fun hmem => ?_
        exact Bool.noConfusion (h.users _ hmem)
      have hactive : (final.outActive.filter BufRef.isUser).count (.discard k) = 0 := by
        refine List.count_eq_zero.mpr fun hmem => ?_
        exact Bool.noConfusion (List.mem_filter.mp hmem).2
      have hnew : new.count (.discard k) = 0 := by
        refine List.count_eq_zero.mpr fun hmem => ?_
        exact Bool.noConfusion (heffect.users _ hmem)
      rw [heffect.completed, List.count_append, hnew, hpending, hpending', hactive,
        count_queuedIn_discard]

/-- The capture queue between start and stop, for every run in which vb2 queues
only buffers the driver does not hold: two buffers in the slots, each discard
node in the slots or in its own list and nowhere twice, no first entry taken of
an empty list, every buffer pending, active or completed as often as it was
queued; and the stop returns each buffer left exactly once. -/
theorem capture_rotation {cap started : MxcIsiCapDev} {hostdata : Bool}
    {alloc : Nat → Option U32} (h : Startable cap)
    (hstart : capVb2StartStreaming cap hostdata alloc cap.outPending.length =
      (started, .ok ()))
    (ops : List StreamOp) (hops : Along streamStep MayQueue started ops) :
    let final := exec streamStep started ops
    let stopped := capVb2StopStreaming final
    final.outActive.length = 2 ∧
      (∀ k, BufRef.discard k ∉ final.outPending ∧
        final.outActive.count (.discard k) + final.outDiscard.count (.discard k) = 1) ∧
      final.faults.length = cap.faults.length ∧
      (cap.completed.map Prod.fst ++ cap.outPending ++ queuedIn ops).Perm
        (final.completed.map Prod.fst ++ final.outPending ++
          final.outActive.filter BufRef.isUser) ∧
      stopped.outPending = [] ∧ stopped.outActive = [] ∧ stopped.outDiscard = [] ∧
      stopped.completed =
        final.completed ++ (remaining final).map (fun r => (r, .error)) ∧
      (remaining final).Nodup := by
  obtain ⟨hrotating, heffect⟩ := rotating_startStreaming h hstart
  obtain ⟨hfinal, new, hrun⟩ := rotating_exec hrotating hops
  have htotal := heffect.trans hrun
  refine ⟨hfinal.full.slots, fun k => ⟨?_, ?_⟩, htotal.faults, ?_, rfl, rfl, rfl,
    (stopStreaming_spec hfinal.marked).2.2, hfinal.nodup_remaining⟩
  · exact List.count_eq_zero.mp (hfinal.sorted.count_pending (isDiscard_discard k))
  · exact (hfinal.full.count_spares (isDiscard_discard k)).trans (count_discardNodes k)
  · exact htotal.perm h hfinal

/-- Buffers of the queue for NV12 frames of 640x480, each with memory of its own. -/
def boardBuffers : BufRef → MxcIsiBuffer
  | .user i =>
      { zeroBuffer with planes :=
          [⟨0x40000000#32 + 0x100000#32 * BitVec.ofNat 32 i, 307200#32⟩,
            ⟨0x60000000#32 + 0x100000#32 * BitVec.ofNat 32 i, 153600#32⟩] }
  | .discard _ => zeroBuffer

/-- The board's device after S_FMT, and with its buffers allocated. -/
def boardFormatted : MxcIsiCapDev :=
  { (mxcIsiCapSFmtMplane boardCapture false
      { width := 640#32
        height := 480#32
        pixelformat := v4l2PixFmtNv12
        numPlanes := 2
        planeFmt := fun _ => ⟨0#32, 640#32⟩ }).1 with
    buf := boardBuffers }

def boardAlloc (i : Nat) : Option U32 := some (0x50000000#32 + 0x100000#32 * BitVec.ofNat 32 i)

def boardQueued : MxcIsiCapDev :=
  exec streamStep boardFormatted [.bufQueue 0, .bufQueue 1]

def boardStarted : MxcIsiCapDev :=
  (capVb2StartStreaming boardQueued true boardAlloc 2).1

theorem startable_boardQueued : Startable boardQueued := by
  refine ⟨rfl, rfl, by decide, by decide, fun i => ?_⟩
  exact ((sameNodes_bufferQueue boardFormatted (.user 0)).trans
    (sameNodes_bufferQueue _ (.user 1)) (.user i)).1

theorem boardQueued_start :
    capVb2StartStreaming boardQueued true boardAlloc
      boardQueued.outPending.length = (boardStarted, .ok ()) := rfl

/-- A skipped interrupt, two completions, and a buffer queued again. -/
theorem capture_rotation_board :
    (exec streamStep boardStarted [.frameDone 0x20000100#32,
      .frameDone 0x20000200#32, .frameDone 0x20000100#32,
      .bufQueue 0]).outActive.length = 2 :=
  (capture_rotation startable_boardQueued boardQueued_start
    [.frameDone 0x20000100#32, .frameDone 0x20000200#32, .frameDone 0x20000100#32,
      .bufQueue 0] (by decide)).1

end CameraPorting.Isi.CaptureStream
