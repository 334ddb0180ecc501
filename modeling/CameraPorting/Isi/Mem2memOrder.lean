import CameraPorting.Isi.Mem2memJobs

/-!
What the jobs of the mem2mem node convert. The hardware reads the frame whose address is in
the input register and writes the slot whose turn it is; the buffers given back at the end
of the job are those of these two addresses, and both queues are served in order.
-/

namespace CameraPorting.Isi.Mem2memOrder

open CameraPorting.Kernel.Media
open CameraPorting.Isi.Device
open CameraPorting.Isi.Channel
open CameraPorting.Isi.CaptureQueue (outbufSlot slotActive)
open CameraPorting.Isi.SlotSafety
open CameraPorting.Isi.Mem2mem
open CameraPorting.Isi.Mem2memOwnership
open CameraPorting.Isi.Mem2memJobs
open CameraPorting.Library.Runs

/-- The buffers of a queue that were given back with a frame. -/
def doneOf (q : M2mQueueCtx) : List Nat :=
  (q.completed.filter fun c => c.2 == .done).map Prod.fst

/-- A job gives back one buffer of each queue: the one the hardware read from and the one
that it wrote to. -/
structure Converts (s s' : M2mNode) (i a : Nat) : Prop where
  src : s'.dev.src.completed = s.dev.src.completed ++ [(i, .done)]
  dst : s'.dev.dst.completed = s.dev.dst.completed ++ [(a, .done)]
  read : s.dev.isi.regs .inBufAddr = (s.dev.src.buf i).planeDmaAddr 0
  written : slotAddr s.dev.isi.regs s.nextSlot = bufAddr (s.dev.dst.buf a)

/-- A step gives back either no frame, and then it is not the end of a job without an abort,
or the two frames that the hardware converted. -/
def ConvertsFrames (s : M2mNode) (op : M2mOp) : Prop :=
  (doneOf (m2mStep s op).dev.src = doneOf s.dev.src ∧
      doneOf (m2mStep s op).dev.dst = doneOf s.dev.dst ∧
      ∀ status, op = .frameDone status → ¬EndsJob s status) ∨
    (∃ status, op = .frameDone status) ∧ ∃ i a, Converts s (m2mStep s op) i a

/-- Of the buffers handed over, the driver holds the last ones in order, and the frames given
back are of those before, in order. -/
def Fifo (q : M2mQueueCtx) (held : List Nat) : Prop :=
  ∃ before, q.handed = before ++ held ∧ (doneOf q).Sublist before

def Loaded (s : M2mNode) : Prop :=
  s.running = true → ∃ i rest, s.dev.src.ready = i :: rest ∧
    s.dev.isi.regs .inBufAddr = (s.dev.src.buf i).planeDmaAddr 0

structure Served (s : M2mNode) : Prop where
  src : Fifo s.dev.src s.dev.src.ready
  dst : Fifo s.dev.dst (s.dev.outActive ++ s.dev.dst.ready)
  loaded : Loaded s

section Queue

variable {q q' : M2mQueueCtx} {held rest : List Nat}

theorem doneOf_vb2BufferDone (q : M2mQueueCtx) (i : Nat) :
    doneOf (vb2BufferDone q i .done) = doneOf q ++ [i] ∧
      doneOf (vb2BufferDone q i .error) = doneOf q := by
  constructor
  · simp [doneOf, vb2BufferDone, setBuf]
  · simp [doneOf, vb2BufferDone, setBuf]

theorem doneOf_returnAll (is : List Nat) (q : M2mQueueCtx) :
    doneOf (returnAll q is) = doneOf q ∧ (returnAll q is).handed = q.handed := by
  unfold returnAll
  induction is generalizing q with
  | nil => exact ⟨rfl, rfl⟩
  | cons i is ih =>
      obtain ⟨hdone, hhanded⟩ := ih (vb2BufferDone q i .error)
      exact ⟨hdone.trans (doneOf_vb2BufferDone q i).2, hhanded⟩

theorem Fifo.frame (h : Fifo q held) (hhanded : q'.handed = q.handed)
    (hdone : doneOf q' = doneOf q) : Fifo q' held := by
  obtain ⟨before, hsplit, hsub⟩ := h
  exact ⟨before, hhanded.trans hsplit, hdone ▸ hsub⟩

theorem Fifo.drop (h : Fifo q held) (hhanded : q'.handed = q.handed)
    (hdone : doneOf q' = doneOf q) : Fifo q' [] := by
  obtain ⟨before, hsplit, hsub⟩ := h
  refine ⟨before ++ held, ?_, ?_⟩
  · rw [hhanded, hsplit, List.append_nil]
  · rw [hdone]
    exact hsub.trans (List.sublist_append_left _ _)

theorem Fifo.done {i : Nat} (h : Fifo q (i :: rest)) : Fifo (vb2BufferDone q i .done) rest := by
  obtain ⟨before, hsplit, hsub⟩ := h
  refine ⟨before ++ [i], ?_, ?_⟩
  · rw [List.append_assoc]
    exact hsplit
  · rw [(doneOf_vb2BufferDone q i).1]
    exact hsub.append (List.Sublist.refl _)

theorem enqueueAll_history (is : List Nat) (q : M2mQueueCtx) :
    (is.foldl enqueueInDriver q).handed = q.handed ++ is ∧
      doneOf (is.foldl enqueueInDriver q) = doneOf q := by
  induction is generalizing q with
  | nil => exact ⟨(List.append_nil _).symm, rfl⟩
  | cons i is ih =>
      obtain ⟨hhanded, hdone⟩ := ih (enqueueInDriver q i)
      refine ⟨?_, hdone⟩
      rw [List.foldl_cons, hhanded]
      exact List.append_assoc q.handed [i] is

theorem fifo_qbuf (h : Fifo q held) (i : Nat) (planes : List Vb2Plane) :
    Fifo (qbuf q i planes) (if q.streaming then held ++ [i] else held) ∧
      (qbuf q i planes).ready = (if q.streaming then q.ready ++ [i] else q.ready) ∧
      doneOf (qbuf q i planes) = doneOf q := by
  rcases hstreaming : q.streaming with _ | _
  · rw [qbuf_idle planes hstreaming]
    exact ⟨h.frame rfl rfl, rfl, rfl⟩
  · rw [qbuf_streaming planes hstreaming]
    obtain ⟨before, hsplit, hsub⟩ := h
    refine ⟨⟨before, ?_, hsub⟩, rfl, rfl⟩
    change q.handed ++ [i] = before ++ (held ++ [i])
    rw [hsplit, List.append_assoc]

theorem fifo_filled (h : Fifo q q.ready) (hready : q.ready = []) :
    Fifo (filled q) q.queued ∧ doneOf (filled q) = doneOf q := by
  obtain ⟨hhanded, hdone⟩ := enqueueAll_history q.queued { q with queued := [] }
  obtain ⟨before, hsplit, hsub⟩ := h
  rw [hready, List.append_nil] at hsplit
  refine ⟨⟨before, ?_, ?_⟩, hdone⟩
  · rw [← hsplit]
    exact hhanded
  · rw [filled, hdone]
    exact hsub

end Queue

section Steps

variable {s : M2mNode}

theorem loaded_of_idle (h : s.running = false) : Loaded s :=
  fun hrun => absurd (h.symm.trans hrun) Bool.false_ne_true

theorem convertsFrames_of_same {op : M2mOp}
    (hsrc : doneOf (m2mStep s op).dev.src = doneOf s.dev.src)
    (hdst : doneOf (m2mStep s op).dev.dst = doneOf s.dev.dst)
    (hop : ∀ status, op ≠ .frameDone status) : ConvertsFrames s op :=
  .inl ⟨hsrc, hdst, fun status heq => absurd heq (hop status)⟩

theorem served_qbuf (hbooks : M2mBooks s) (h : Served s) {type : QueueType} {i : Nat}
    {planes : List Vb2Plane} (howned : i ∉ (queueOf s.dev type).owned) :
    Served (m2mStep s (.qbuf type i planes)) ∧ ConvertsFrames s (.qbuf type i planes) := by
  cases type with
  | output =>
      obtain ⟨hfifo, hready, hdone⟩ := fifo_qbuf h.src i planes
      refine ⟨⟨?_, h.dst, fun hrun => ?_⟩, convertsFrames_of_same hdone rfl fun _ => nofun⟩
      · change Fifo (qbuf s.dev.src i planes) (qbuf s.dev.src i planes).ready
        rw [hready]
        exact hfifo
      · obtain ⟨k, rest, hcons, hread⟩ := h.loaded hrun
        have hk : k ≠ i := by
          rintro rfl
          refine howned (hbooks.src.owned.mem_iff.mpr ?_)
          rw [hcons]
          exact List.mem_cons_self
        refine ⟨k, if s.dev.src.streaming then rest ++ [i] else rest, ?_, ?_⟩
        · change (qbuf s.dev.src i planes).ready = _
          rw [hready, hcons]
          split
          · rfl
          · rfl
        · change s.dev.isi.regs .inBufAddr = ((qbuf s.dev.src i planes).buf k).planeDmaAddr 0
          rw [qbuf_buf_of_ne s.dev.src planes hk]
          exact hread
  | capture =>
      obtain ⟨hfifo, hready, hdone⟩ := fifo_qbuf h.dst i planes
      refine ⟨⟨h.src, ?_, h.loaded⟩, convertsFrames_of_same rfl hdone fun _ => nofun⟩
      change Fifo (qbuf s.dev.dst i planes) (s.dev.outActive ++ (qbuf s.dev.dst i planes).ready)
      rw [hready]
      split
      · rename_i hstreaming
        rw [if_pos hstreaming, List.append_assoc] at hfifo
        exact hfifo
      · rename_i hstreaming
        rw [if_neg hstreaming] at hfifo
        exact hfifo

theorem served_streamon_output (hbooks : M2mBooks s) (h : Served s) (refuse : Option Errno) :
    Served (m2mStep s (.streamon .output refuse)) ∧
      ConvertsFrames s (.streamon .output refuse) := by
  have hdev : (m2mStep s (.streamon .output refuse)).dev =
      (mxcIsiM2mStreamon s.dev .output refuse).1 := rfl
  have hrunning : (m2mStep s (.streamon .output refuse)).running = s.running := rfl
  rcases streamon_output s.dev refuse with hsame | ⟨hidle, hstart⟩
  · rw [hsame] at hdev
    refine ⟨⟨?_, ?_, ?_⟩, convertsFrames_of_same (by rw [hdev]) (by rw [hdev]) fun _ => nofun⟩
    · rw [hdev]
      exact h.src
    · rw [hdev]
      exact h.dst
    · unfold Loaded
      rw [hdev, hrunning]
      exact h.loaded
  · rw [hstart] at hdev
    have hready : s.dev.src.ready = [] := held_idle hbooks.srcQueued hbooks.src hidle
    obtain ⟨hfifo, hdone⟩ := fifo_filled h.src hready
    obtain ⟨-, hfilled⟩ := owned_filled hbooks.srcQueued hbooks.src hidle
    refine ⟨⟨?_, ?_, ?_⟩, convertsFrames_of_same (by rw [hdev]; exact hdone) (by rw [hdev])
      fun _ => nofun⟩
    · rw [hdev]
      change Fifo { filled s.dev.src with streaming := true } (filled s.dev.src).ready
      rw [hfilled]
      exact hfifo.frame rfl rfl
    · rw [hdev]
      exact h.dst
    · apply loaded_of_idle
      rw [hrunning]
      refine Bool.eq_false_of_not_eq_true fun hrun => ?_
      exact (hbooks.job hrun).1 hready

/-- A start of the CAPTURE queue that does something finds no job and hands over what was
queued, in order. -/
theorem streamon_capture_cases (hbooks : M2mBooks s) {refuse : Option Errno}
    (hf : SlotsFilled s (.streamon .capture refuse)) :
    (mxcIsiM2mStreamon s.dev .capture refuse).1 = s.dev ∨ (s.running = false ∧
      (mxcIsiM2mStreamon s.dev .capture refuse).1.src = s.dev.src ∧
      doneOf (mxcIsiM2mStreamon s.dev .capture refuse).1.dst = doneOf s.dev.dst ∧
      (Fifo s.dev.dst (s.dev.outActive ++ s.dev.dst.ready) →
        Fifo (mxcIsiM2mStreamon s.dev .capture refuse).1.dst
          ((mxcIsiM2mStreamon s.dev .capture refuse).1.outActive ++
            (mxcIsiM2mStreamon s.dev .capture refuse).1.dst.ready))) := by
  change _ ∨ (if s.dev.dst.streaming = true then _ else _) at hf
  unfold mxcIsiM2mStreamon
  rcases hup : upscales s.dev with _ | _
  · rw [if_neg Bool.false_ne_true]
    have hcond := hf.resolve_left (by rw [hup]; exact Bool.false_ne_true)
    obtain ⟨isi, hconfig, -⟩ := channelConfig_frame { s.dev with frameCount := 0#32 }
    dsimp only
    rw [hconfig]
    right
    rcases hidle : s.dev.dst.streaming with _ | _
    · have hrunning : s.running = false := by
        refine Bool.eq_false_of_not_eq_true fun hrun => ?_
        rw [(hbooks.streams (.inl hrun)).2] at hidle
        exact Bool.false_ne_true hidle.symm
      rw [hidle, if_neg Bool.false_ne_true] at hcond
      cases refuse with
      | some e => exact ⟨hrunning, rfl, rfl, fun hfifo => hfifo⟩
      | none =>
          have hhand := hbooks.handover hidle
          have hdone : doneOf (filled s.dev.dst) = doneOf s.dev.dst :=
            (enqueueAll_history s.dev.dst.queued { s.dev.dst with queued := [] }).2
          have hfifo : Fifo s.dev.dst (s.dev.outActive ++ s.dev.dst.ready) →
              Fifo (filled s.dev.dst) s.dev.dst.queued := by
            intro hfifo
            rw [hhand.active, List.nil_append] at hfifo
            exact (fifo_filled hfifo hhand.ready).1
          refine ⟨hrunning, ?_⟩
          rcases hlist : s.dev.dst.queued with _ | ⟨i, _ | ⟨j, rest⟩⟩
          · -- nothing was queued, and the start fails
            have hfail : m2mVb2StartStreaming
                { s.dev with frameCount := 0#32, isi := isi, dst := filled s.dev.dst } .capture
                (filled s.dev.dst).owned.length =
                  ({ s.dev with frameCount := 0#32, isi := isi, dst := filled s.dev.dst },
                    .error .einval) := by
              rw [hhand.filledOwned, hlist]
              rfl
            dsimp only
            rw [@vb2Streamon_idle { s.dev with frameCount := 0#32, isi := isi } _ _ hidle hfail]
            refine ⟨rfl, hdone, fun hheld => ?_⟩
            have hempty : s.dev.outActive ++ (filled s.dev.dst).ready = s.dev.dst.queued := by
              rw [hhand.active, hhand.filledReady, List.nil_append]
            change Fifo { filled s.dev.dst with owned := [], queued := s.dev.dst.queued }
              (s.dev.outActive ++ (filled s.dev.dst).ready)
            rw [hempty]
            exact (hfifo hheld).frame rfl rfl
          · rw [hlist] at hcond
            exact absurd rfl (hcond rfl)
          · have hij : i ≠ j := by
              have hnodup := hhand.held.nodup
              rw [hlist] at hnodup
              rintro rfl
              exact (List.nodup_cons.mp hnodup).1 List.mem_cons_self
            obtain ⟨m, hrun, hsrc, -, hhanded, hcompleted, -, -, hrest, -, hpaired⟩ :=
              @startStreaming_capture
                { s.dev with frameCount := 0#32, isi := isi, dst := filled s.dev.dst } i j rest
                (hhand.filledReady.trans hlist) hhand.active hij (i :: j :: rest).length
                (Nat.le_add_left 2 rest.length)
            have hactive : m.outActive = [i, j] := (hpaired s.running s.cancelling).active
            have hsame : doneOf m.dst = doneOf (filled s.dev.dst) := by
              unfold doneOf
              rw [hcompleted]
            rw [← hlist, ← hhand.filledOwned] at hrun
            dsimp only
            rw [@vb2Streamon_idle { s.dev with frameCount := 0#32, isi := isi } _ _ hidle hrun]
            refine ⟨hsrc, hsame.trans hdone, fun hheld => ?_⟩
            change Fifo { m.dst with streaming := true } (m.outActive ++ m.dst.ready)
            rw [hactive, hrest]
            have hqueue := hfifo hheld
            rw [hlist] at hqueue
            exact hqueue.frame hhanded hsame
    · rw [hidle, if_pos rfl] at hcond
      have hrunning : s.running = false :=
        Bool.eq_false_of_not_eq_true fun hrun => (hbooks.job hrun).2.2 hcond
      cases refuse with
      | some e => exact ⟨hrunning, rfl, rfl, fun hfifo => hfifo⟩
      | none =>
          have hkept : vb2Streamon { s.dev with frameCount := 0#32, isi := isi } .capture =
              ({ s.dev with frameCount := 0#32, isi := isi }, .ok ()) := if_pos hidle
          dsimp only
          rw [hkept]
          exact ⟨hrunning, rfl, rfl, fun hfifo => hfifo⟩
  · exact .inl rfl

theorem served_streamon_capture (hbooks : M2mBooks s) (h : Served s) {refuse : Option Errno}
    (hf : SlotsFilled s (.streamon .capture refuse)) :
    Served (m2mStep s (.streamon .capture refuse)) ∧
      ConvertsFrames s (.streamon .capture refuse) := by
  have hdev : (m2mStep s (.streamon .capture refuse)).dev =
      (mxcIsiM2mStreamon s.dev .capture refuse).1 := rfl
  have hrunning : (m2mStep s (.streamon .capture refuse)).running = s.running := rfl
  rcases streamon_capture_cases hbooks hf with hsame | ⟨hidle, hsrc, hdone, hfifo⟩
  · rw [hsame] at hdev
    refine ⟨⟨?_, ?_, ?_⟩, convertsFrames_of_same (by rw [hdev]) (by rw [hdev]) fun _ => nofun⟩
    · rw [hdev]
      exact h.src
    · rw [hdev]
      exact h.dst
    · unfold Loaded
      rw [hdev, hrunning]
      exact h.loaded
  · refine ⟨⟨?_, hfifo h.dst, loaded_of_idle hidle⟩,
      convertsFrames_of_same (by rw [hdev, hsrc]) hdone fun _ => nofun⟩
    rw [hdev, hsrc]
    exact h.src

theorem served_cancelJob (h : Served s) (type : QueueType) :
    Served (m2mStep s (.cancelJob type)) ∧ ConvertsFrames s (.cancelJob type) := by
  -- the input register keeps its address when the channel is disabled
  have hstep : ∀ isi : MxcIsiDev, isi.regs .inBufAddr = s.dev.isi.regs .inBufAddr →
      Served (if s.running then
        { s with dev := { s.dev with isi := isi, aborting := true }, cancelling := true }
        else { s with dev := { s.dev with isi := isi } }) := by
    intro isi hregs
    have hread : s.running = true → ∃ i rest, s.dev.src.ready = i :: rest ∧
        isi.regs .inBufAddr = (s.dev.src.buf i).planeDmaAddr 0 := by
      intro hrun
      rw [hregs]
      exact h.loaded hrun
    split
    · exact ⟨h.src, h.dst, hread⟩
    · exact ⟨h.src, h.dst, hread⟩
  have hlists : (cancelJob s type).dev.src = s.dev.src ∧
      (cancelJob s type).dev.dst = s.dev.dst := by
    unfold cancelJob
    cases type <;> dsimp only <;> split <;> exact ⟨rfl, rfl⟩
  refine ⟨?_, convertsFrames_of_same (congrArg doneOf hlists.1) (congrArg doneOf hlists.2)
    fun _ => nofun⟩
  cases type with
  | output => exact hstep s.dev.isi rfl
  | capture =>
      refine hstep (mxcIsiChannelDisable s.dev.isi) ?_
      simp [mxcIsiChannelDisable, mxcIsiDisableIrq]

theorem served_streamoff (hbooks : M2mBooks s) (h : Served s) {type : QueueType}
    (hop : M2mContract s (.streamoff type)) :
    Served (m2mStep s (.streamoff type)) ∧ ConvertsFrames s (.streamoff type) := by
  have hidle : s.running = false := hop
  let stopped := m2mVb2StopStreaming s.dev
  obtain ⟨hsrcDone, hsrcHanded⟩ := doneOf_returnAll s.dev.src.ready { s.dev.src with ready := [] }
  obtain ⟨hreadyDone, hreadyHanded⟩ :=
    doneOf_returnAll s.dev.dst.ready { s.dev.dst with ready := [] }
  obtain ⟨hactiveDone, hactiveHanded⟩ := doneOf_returnAll s.dev.outActive
    (returnAll { s.dev.dst with ready := [] } s.dev.dst.ready)
  obtain ⟨-, -, hsrcReady, hdstReady⟩ := stopStreaming_spec hbooks
  have hsrc : Fifo stopped.src [] ∧ doneOf stopped.src = doneOf s.dev.src :=
    ⟨h.src.drop hsrcHanded hsrcDone, hsrcDone⟩
  have hdst : Fifo stopped.dst [] ∧ doneOf stopped.dst = doneOf s.dev.dst :=
    ⟨h.dst.drop (hactiveHanded.trans hreadyHanded) (hactiveDone.trans hreadyDone),
      hactiveDone.trans hreadyDone⟩
  change Served { s with dev := v4l2M2mStreamoff s.dev type, cancelling := false } ∧ _
  by_cases hstreaming : (queueOf s.dev type).streaming = true
  · have hoff : v4l2M2mStreamoff s.dev type = setQueue stopped type
        { queueOf stopped type with
          streaming := false, queued := [], owned := [], ready := [] } := by
      unfold v4l2M2mStreamoff
      rw [if_pos hstreaming]
    have hstep : (m2mStep s (.streamoff type)).dev = v4l2M2mStreamoff s.dev type := rfl
    rw [hoff] at hstep ⊢
    cases type with
    | output =>
        refine ⟨⟨hsrc.1.frame rfl rfl, ?_, loaded_of_idle hidle⟩,
          convertsFrames_of_same (by rw [hstep]; exact hsrc.2) (by rw [hstep]; exact hdst.2)
            fun _ => nofun⟩
        change Fifo stopped.dst ([] ++ stopped.dst.ready)
        rw [hdstReady]
        exact hdst.1
    | capture =>
        refine ⟨⟨?_, hdst.1.frame rfl rfl, loaded_of_idle hidle⟩,
          convertsFrames_of_same (by rw [hstep]; exact hsrc.2) (by rw [hstep]; exact hdst.2)
            fun _ => nofun⟩
        change Fifo stopped.src stopped.src.ready
        rw [hsrcReady]
        exact hsrc.1
  · have hoff : v4l2M2mStreamoff s.dev type = setQueue s.dev type
        { queueOf s.dev type with streaming := false, queued := [], owned := [], ready := [] } := by
      unfold v4l2M2mStreamoff
      rw [if_neg hstreaming]
    have hstep : (m2mStep s (.streamoff type)).dev = v4l2M2mStreamoff s.dev type := rfl
    rw [hoff] at hstep ⊢
    cases type with
    | output =>
        exact ⟨⟨h.src.drop rfl rfl, h.dst, loaded_of_idle hidle⟩,
          convertsFrames_of_same (by rw [hstep]; rfl) (by rw [hstep]; rfl) fun _ => nofun⟩
    | capture =>
        have hheld := held_idle hbooks.dstQueued hbooks.dst
          (Bool.eq_false_of_not_eq_true hstreaming)
        obtain ⟨-, hactive⟩ := List.append_eq_nil_iff.mp hheld
        refine ⟨⟨h.src, ?_, loaded_of_idle hidle⟩,
          convertsFrames_of_same (by rw [hstep]; rfl) (by rw [hstep]; rfl) fun _ => nofun⟩
        change Fifo { s.dev.dst with streaming := false, queued := [], owned := [], ready := [] }
          (s.dev.outActive ++ [])
        rw [hactive]
        exact h.dst.drop rfl rfl

theorem served_deviceRun (h : Served s) (hop : M2mContract s .deviceRun) :
    Served (m2mStep s .deviceRun) ∧ ConvertsFrames s .deviceRun := by
  obtain ⟨-, -, hjob, -, -⟩ := hop
  unfold mxcIsiM2mJobReady at hjob
  rw [Bool.and_eq_true, decide_eq_true_eq, decide_eq_true_eq] at hjob
  obtain ⟨i, rest, hready⟩ := List.exists_cons_of_length_pos hjob.1
  have hrun : mxcIsiM2mDeviceRun s.dev =
      { mxcIsiChannelSetM2mSrcAddr s.dev i with
        isi := mxcIsiChannelEnable (mxcIsiChannelSetM2mSrcAddr s.dev i).isi
          (mxcIsiChannelSetM2mSrcAddr s.dev i).isi.m2mEnabled } := by
    unfold mxcIsiM2mDeviceRun
    rw [hready]
  have hdev : (m2mStep s .deviceRun).dev = mxcIsiM2mDeviceRun s.dev := rfl
  rw [hrun] at hdev
  refine ⟨⟨?_, ?_, fun _ => ⟨i, rest, ?_, ?_⟩⟩, convertsFrames_of_same
    (by rw [hdev]; rfl) (by rw [hdev]; rfl) fun _ => nofun⟩
  · rw [hdev]
    exact h.src.frame rfl rfl
  · rw [hdev]
    exact h.dst
  · rw [hdev]
    exact hready
  · rw [hdev]
    have hkept : ∀ (isi : MxcIsiDev) (m2m : Bool),
        (mxcIsiChannelEnable isi m2m).regs .inBufAddr = isi.regs .inBufAddr := by
      intro isi m2m
      cases m2m <;> simp [mxcIsiChannelEnable, mxcIsiCleanIrqStatus, mxcIsiEnableIrq,
        mxcIsiM2mStartRead]
    rw [hkept]
    simp [mxcIsiChannelSetM2mSrcAddr, setBuf, MxcIsiBuffer.planeDmaAddr]

/-- The end of a job: the source at the head of its list and the older active buffer. -/
theorem served_jobDone {status : U32} (hbooks : M2mBooks s) (h : Served s)
    (hrunning : s.running = true) (habort : s.dev.aborting = false) (hone : ReportsOne status)
    (hfree : slotActive { s.dev.isi with status := status } s.nextSlot = false) :
    ∃ i a, Converts s ⟨mxcIsiM2mFrameWriteDone (latched s.dev status), false, s.cancelling,
        otherSlot s.nextSlot⟩ i a ∧
      Served ⟨mxcIsiM2mFrameWriteDone (latched s.dev status), false, s.cancelling,
        otherSlot s.nextSlot⟩ := by
  obtain ⟨-, hdstReady, hout⟩ := hbooks.job hrunning
  obtain ⟨i, rest, hsrc, hread⟩ := h.loaded hrunning
  obtain ⟨c, pending, hdst⟩ := List.exists_cons_of_ne_nil hdstReady
  obtain ⟨a, b, hpaired⟩ := (hbooks.slots (.inl hrunning)).resolve_left hout
  have hactive := hpaired.active
  have hslot : outbufSlot (latched s.dev status).isi (s.dev.frameCount + 1#32) =
      some s.nextSlot := by
    rw [hpaired.counter] at hfree ⊢
    exact @outbufSlot_freed (latched s.dev status).isi hone s.dev.frameCount hfree
  obtain ⟨m, hrun, hm⟩ := @activateDst_some (retired (latched s.dev status) i rest a [b])
    (s.dev.frameCount + 1#32) c pending s.nextSlot hdst hslot
  have hdone : mxcIsiM2mFrameWriteDone (latched s.dev status) = m := by
    rw [@frameWriteDone_eq (latched s.dev status) habort i a rest [b] hsrc hactive]
    change (activateDst (retired (latched s.dev status) i rest a [b])
      (s.dev.frameCount + 1#32)).getD _ = m
    rw [hrun, Option.getD_some]
  rw [hdone]
  refine ⟨i, a, ⟨?_, hm.completed, hread, ?_⟩, ⟨?_, ?_, loaded_of_idle rfl⟩⟩
  · change m.src.completed = _
    rw [hm.src]
    rfl
  · rw [← hpaired.first]
    refine hpaired.programmed a ?_
    rw [hactive]
    exact List.mem_cons_self
  · have hheld := h.src
    rw [hsrc] at hheld
    have hstart : Fifo { s.dev.src with ready := rest } (i :: rest) := hheld.frame rfl rfl
    change Fifo m.src m.src.ready
    rw [hm.src]
    exact hstart.done
  · have hheld := h.dst
    rw [hactive, hdst] at hheld
    have hrest : Fifo (vb2BufferDone s.dev.dst a .done) (b :: c :: pending) := hheld.done
    have hsame : doneOf m.dst = doneOf (vb2BufferDone s.dev.dst a .done) := by
      unfold doneOf
      rw [hm.completed]
      rfl
    change Fifo m.dst (m.outActive ++ m.dst.ready)
    rw [hm.active, hm.ready]
    exact hrest.frame hm.handed hsame

theorem served_frameDone {status : U32} (hbooks : M2mBooks s) (h : Served s)
    (hop : M2mContract s (.frameDone status)) :
    Served (m2mStep s (.frameDone status)) ∧ ConvertsFrames s (.frameDone status) := by
  have hread : (mxcIsiCleanIrqStatus { s.dev.isi with status := status } status).regs
      .inBufAddr = s.dev.isi.regs .inBufAddr := by
    simp [mxcIsiCleanIrqStatus]
  have hstep : m2mStep s (.frameDone status) = frameDone s status := rfl
  by_cases hidle : s.running = false ∨ status &&& chnlStsFrmStrdMask = 0#32
  · have hends : ¬EndsJob s status := by
      rintro ⟨hrunning, hstored, -⟩
      rcases hidle with hidle | hidle
      · exact Bool.false_ne_true (hidle.symm.trans hrunning)
      · exact hstored hidle
    have hkept : Loaded { s with dev := latched s.dev status } := by
      intro hrun
      obtain ⟨i, rest, hready, haddr⟩ := h.loaded hrun
      exact ⟨i, rest, hready, hread.trans haddr⟩
    unfold ConvertsFrames
    rw [hstep, frameDone_idle hidle]
    refine ⟨⟨h.src, h.dst, hkept⟩, .inl ⟨rfl, rfl, fun status' heq => ?_⟩⟩
    obtain rfl := M2mOp.frameDone.inj heq
    exact hends
  · obtain ⟨hrun, hstored⟩ := not_or.mp hidle
    have hrunning := Bool.eq_true_of_not_eq_false hrun
    obtain ⟨hone, hfree⟩ := hop hrunning hstored
    unfold ConvertsFrames
    rw [hstep, frameDone_stored hrunning hstored hbooks.enabled]
    rcases habort : s.dev.aborting with _ | _
    · obtain ⟨i, a, hconverts, hserved⟩ := served_jobDone hbooks h hrunning habort hone hfree
      exact ⟨hserved, .inr ⟨⟨status, rfl⟩, i, a, hconverts⟩⟩
    · -- the job was aborted, and the buffers stay with the driver
      have hrun : mxcIsiM2mFrameWriteDone (latched s.dev status) =
          { latched s.dev status with isi := mxcIsiChannelDisable (latched s.dev status).isi } :=
        if_pos habort
      rw [hrun]
      refine ⟨⟨h.src, h.dst, loaded_of_idle rfl⟩, .inl ⟨rfl, rfl, fun status' heq => ?_⟩⟩
      rintro ⟨-, -, hcancelling⟩
      have hclear := hbooks.aborting hcancelling (hbooks.job hrunning).2.2
      exact Bool.false_ne_true (hclear.symm.trans habort)

theorem served_m2mStep {op : M2mOp} (hbooks : M2mBooks s) (h : Served s)
    (hop : M2mContract s op ∧ SlotsFilled s op) :
    Served (m2mStep s op) ∧ ConvertsFrames s op := by
  obtain ⟨hcontract, hfilled⟩ := hop
  cases op with
  | qbuf type i planes => exact served_qbuf hbooks h hcontract.2
  | streamon type refuse =>
      cases type with
      | output => exact served_streamon_output hbooks h refuse
      | capture => exact served_streamon_capture hbooks h hfilled
  | cancelJob type => exact served_cancelJob h type
  | streamoff type => exact served_streamoff hbooks h hcontract
  | deviceRun => exact served_deviceRun h hcontract
  | frameDone status => exact served_frameDone hbooks h hcontract

end Steps

theorem served_of_fresh {s : M2mNode} (h : FreshNode s) : Served s := by
  have hqueue : ∀ q : M2mQueueCtx, FreshQueue q → Fifo q [] := by
    intro q hq
    refine ⟨[], hq.handed, ?_⟩
    unfold doneOf
    rw [hq.completed]
    exact List.Sublist.refl _
  refine ⟨?_, ?_, loaded_of_idle h.running⟩
  · rw [h.src.ready]
    exact hqueue _ h.src
  · rw [h.active, h.dst.ready]
    exact hqueue _ h.dst

def EvenFrames (s : M2mNode) : Prop :=
  (doneOf s.dev.src).length = (doneOf s.dev.dst).length

theorem ConvertsFrames.even {s : M2mNode} {op : M2mOp} (h : ConvertsFrames s op)
    (heven : EvenFrames s) : EvenFrames (m2mStep s op) := by
  unfold EvenFrames at heven ⊢
  rcases h with ⟨hsrc, hdst, -⟩ | ⟨-, i, a, hconverts⟩
  · rw [hsrc, hdst]
    exact heven
  · unfold doneOf at heven ⊢
    rw [hconverts.src, hconverts.dst]
    simpa using heven

/-- The data path of the mem2mem node: whatever comes back with a frame is the source that
the hardware read and the destination that it wrote in the job that ends, and every job
that ends without an abort gives them back. -/
theorem frames_converted {s : M2mNode} (hs : FreshNode s) (ops : List M2mOp)
    (hops : Along m2mStep (fun s op => M2mContract s op ∧ SlotsFilled s op) s ops) :
    Along m2mStep ConvertsFrames s ops := by
  refine along_of_invariant (I := fun s => M2mBooks s ∧ Served s) ?_
    ⟨hs.books, served_of_fresh hs⟩ hops
  rintro s op ⟨hbooks, hserved⟩ hop
  obtain ⟨hnext, hconverts⟩ := served_m2mStep hbooks hserved hop
  exact ⟨hconverts, books_m2mStep hbooks hop, hnext⟩

theorem frames_converted_board :
    Along m2mStep ConvertsFrames boardM2m
      (m2mPrologue ++ [.deviceRun, .frameDone 0x20000200#32, .streamoff .capture]) :=
  frames_converted freshNode_boardM2m _ (by decide +kernel)

end CameraPorting.Isi.Mem2memOrder
