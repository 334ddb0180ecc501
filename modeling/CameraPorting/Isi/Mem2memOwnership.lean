import CameraPorting.Isi.Mem2mem

namespace CameraPorting.Isi.Mem2memOwnership

open CameraPorting.Kernel.Media
open CameraPorting.Isi.Device
open CameraPorting.Isi.Channel
open CameraPorting.Isi.CaptureQueue (outbufSlot slotActive)
open CameraPorting.Isi.Formats
open CameraPorting.Isi.SlotSafety
open CameraPorting.Isi.Mem2mem
open CameraPorting.Library.Runs

/-- The driver holds the buffers of a queue that it owns, each of them once, and a buffer
that was handed over is owned or was given back once. -/
structure Owned (q : M2mQueueCtx) (held : List Nat) : Prop where
  nodup : held.Nodup
  owned : q.owned.Perm held
  conserved : q.handed.Perm (q.owned ++ q.completed.map Prod.fst)

/-- Each buffer not given back is on exactly one of the three lists, `out_active` holds at
most two, and a job writes to a buffer that is on `out_active`. -/
structure BuffersOwned (s : M2mNode) : Prop where
  src : Owned s.dev.src s.dev.src.ready
  dst : Owned s.dev.dst (s.dev.dst.ready ++ s.dev.outActive)
  active : s.dev.outActive.length ≤ 2
  written : s.running = true → ∃ i ∈ s.dev.outActive,
    slotAddr s.dev.isi.regs s.nextSlot = bufAddr (s.dev.dst.buf i)

/-- A CAPTURE stream is started with no or with at least two buffers queued and not started
once more while buffers are active, and a job finds active buffers. -/
def SlotsFilled (s : M2mNode) : M2mOp → Prop
  | .streamon .capture refuse => upscales s.dev = true ∨
      if s.dev.dst.streaming then s.dev.outActive = []
      else refuse = none → s.dev.dst.queued.length ≠ 1
  | .deviceRun => s.dev.outActive ≠ []
  | _ => True

/-- What vb2 knows of a queue apart from its owned buffers. -/
structure Queued (q : M2mQueueCtx) : Prop where
  nodup : q.queued.Nodup
  idle : q.streaming = false → q.owned = []
  started : q.streaming = true → q.queued = []

/-- The two active buffers are in the two slots, the older one in the slot that the
hardware writes next, which is that of the frame counter. -/
structure Paired (s : M2mNode) (i j : Nat) : Prop where
  active : s.dev.outActive = [i, j]
  first : (s.dev.dst.buf i).id = s.nextSlot
  second : (s.dev.dst.buf j).id = otherSlot s.nextSlot
  counter : s.nextSlot = paritySlot s.dev.frameCount
  programmed : ∀ k ∈ s.dev.outActive,
    slotAddr s.dev.isi.regs (s.dev.dst.buf k).id = bufAddr (s.dev.dst.buf k)

/-- The invariant behind `BuffersOwned`. After a job that was aborted the slots do not
matter until the stop, which takes all buffers. -/
structure M2mBooks (s : M2mNode) : Prop where
  src : Owned s.dev.src s.dev.src.ready
  dst : Owned s.dev.dst (s.dev.dst.ready ++ s.dev.outActive)
  srcQueued : Queued s.dev.src
  dstQueued : Queued s.dev.dst
  enabled : s.dev.isi.m2mEnabled = true
  active : s.dev.outActive.length ≤ 2
  slots : s.running = true ∨ s.cancelling = false →
    s.dev.outActive = [] ∨ ∃ i j, Paired s i j
  job : s.running = true → s.dev.src.ready ≠ [] ∧ s.dev.dst.ready ≠ [] ∧ s.dev.outActive ≠ []
  streams : s.running = true ∨ s.cancelling = true →
    s.dev.src.streaming = true ∧ s.dev.dst.streaming = true
  aborting : s.cancelling = false → s.dev.outActive ≠ [] → s.dev.aborting = false

theorem M2mBooks.buffersOwned {s : M2mNode} (h : M2mBooks s) : BuffersOwned s where
  src := h.src
  dst := h.dst
  active := h.active
  written := by
    intro hrunning
    rcases h.slots (.inl hrunning) with hempty | ⟨i, j, hpaired⟩
    · exact absurd hempty (h.job hrunning).2.2
    · have hi : i ∈ s.dev.outActive := by
        rw [hpaired.active]
        exact List.mem_cons_self
      refine ⟨i, hi, ?_⟩
      rw [← hpaired.first]
      exact hpaired.programmed i hi

section Queue

variable {q q' : M2mQueueCtx} {held rest : List Nat}

theorem Owned.frame (h : Owned q held) (howned : q'.owned = q.owned)
    (hhanded : q'.handed = q.handed) (hcompleted : q'.completed = q.completed) :
    Owned q' held where
  nodup := h.nodup
  owned := howned ▸ h.owned
  conserved := by
    rw [hhanded, howned, hcompleted]
    exact h.conserved

theorem Owned.perm (h : Owned q held) {held' : List Nat} (hperm : held.Perm held') :
    Owned q held' :=
  ⟨hperm.nodup_iff.mp h.nodup, h.owned.trans hperm, h.conserved⟩

theorem owned_vb2BufferDone {i : Nat} (h : Owned q (i :: rest)) (state : Vb2BufferState) :
    Owned (vb2BufferDone q i state) rest where
  nodup := (List.nodup_cons.mp h.nodup).2
  owned := by
    have herase := h.owned.erase i
    rw [List.erase_cons_head] at herase
    exact herase
  conserved := by
    have hmem : i ∈ q.owned := h.owned.mem_iff.mpr List.mem_cons_self
    have hsplit : q.owned.Perm (i :: q.owned.erase i) := List.perm_cons_erase hmem
    change q.handed.Perm (q.owned.erase i ++ (q.completed ++ [(i, state)]).map Prod.fst)
    rw [List.map_append]
    calc q.handed
        _ |>.Perm (q.owned ++ q.completed.map Prod.fst) := h.conserved
        _ |>.Perm ((i :: q.owned.erase i) ++ q.completed.map Prod.fst) :=
          hsplit.append_right _
        _ |>.Perm (q.owned.erase i ++ (q.completed.map Prod.fst ++ [i])) := by
          rw [← List.append_assoc]
          exact (List.perm_append_singleton i _).symm

theorem owned_returnAll (is : List Nat) (h : Owned q (is ++ rest)) :
    Owned (returnAll q is) rest := by
  induction is generalizing q with
  | nil => exact h
  | cons i is ih => exact ih (owned_vb2BufferDone h .error)

theorem owned_enqueueInDriver {i : Nat} (h : Owned q held) (hi : i ∉ q.owned) :
    Owned (enqueueInDriver q i) (held ++ [i]) where
  nodup := by
    have hnot : i ∉ held := fun hmem => hi (h.owned.mem_iff.mpr hmem)
    rw [List.nodup_append]
    refine ⟨h.nodup, List.nodup_singleton i, ?_⟩
    rintro a ha b hb rfl
    exact hnot (List.mem_singleton.mp hb ▸ ha)
  owned := h.owned.append_right [i]
  conserved := by
    change (q.handed ++ [i]).Perm (q.owned ++ [i] ++ q.completed.map Prod.fst)
    rw [List.append_assoc]
    refine (h.conserved.append_right [i]).trans ?_
    rw [List.append_assoc]
    exact List.perm_append_comm.append_left _

theorem owned_enqueueAll {is : List Nat} (h : Owned q held) (his : is.Nodup)
    (hnew : ∀ i ∈ is, i ∉ q.owned) :
    Owned (is.foldl enqueueInDriver q) (held ++ is) := by
  induction is generalizing q held with
  | nil =>
      rw [List.append_nil]
      exact h
  | cons i is ih =>
      have hi := owned_enqueueInDriver h (hnew i List.mem_cons_self)
      obtain ⟨hnot, his'⟩ := List.nodup_cons.mp his
      have hlast := ih hi his' ?_
      · rw [List.append_assoc] at hlast
        exact hlast
      · intro k hk hmem
        rcases List.mem_append.mp hmem with hmem | hmem
        · exact hnew k (List.mem_cons_of_mem i hk) hmem
        · exact hnot (List.mem_singleton.mp hmem ▸ hk)

theorem enqueueAll_frame (is : List Nat) (q : M2mQueueCtx) :
    (is.foldl enqueueInDriver q).ready = q.ready ++ is ∧
      (is.foldl enqueueInDriver q).owned = q.owned ++ is ∧
      (is.foldl enqueueInDriver q).queued = q.queued ∧
      (is.foldl enqueueInDriver q).streaming = q.streaming := by
  induction is generalizing q with
  | nil => simp
  | cons i is ih =>
      obtain ⟨hready, howned, hqueued, hstreaming⟩ := ih (enqueueInDriver q i)
      refine ⟨?_, ?_, hqueued, hstreaming⟩
      · rw [List.foldl_cons, hready]
        exact List.append_assoc q.ready [i] is
      · rw [List.foldl_cons, howned]
        exact List.append_assoc q.owned [i] is

theorem returnAll_frame (is : List Nat) (q : M2mQueueCtx) :
    (returnAll q is).ready = q.ready ∧ (returnAll q is).queued = q.queued ∧
      (returnAll q is).streaming = q.streaming := by
  unfold returnAll
  induction is generalizing q with
  | nil => exact ⟨rfl, rfl, rfl⟩
  | cons i is ih => exact ih (vb2BufferDone q i .error)

theorem qbuf_buf_of_ne (q : M2mQueueCtx) {i k : Nat} (planes : List Vb2Plane) (hk : k ≠ i) :
    (qbuf q i planes).buf k = q.buf k := by
  unfold qbuf
  dsimp only
  split
  · exact (Function.update_of_ne hk _ _).trans (Function.update_of_ne hk _ _)
  · exact Function.update_of_ne hk _ _

theorem qbuf_streaming {i : Nat} (planes : List Vb2Plane) (h : q.streaming = true) :
    qbuf q i planes = enqueueInDriver (setBuf q i { q.buf i with planes := planes }) i :=
  if_pos h

theorem qbuf_idle {i : Nat} (planes : List Vb2Plane) (h : q.streaming = false) :
    qbuf q i planes = { setBuf q i { q.buf i with planes := planes } with
      queued := q.queued ++ [i] } := by
  unfold qbuf
  dsimp only
  rw [if_neg (by rw [show (setBuf q i _).streaming = q.streaming from rfl, h]; simp)]
  rfl

theorem queued_qbuf (h : Queued q) {i : Nat} (hi : i ∉ q.queued) (planes : List Vb2Plane) :
    Queued (qbuf q i planes) := by
  rcases hstreaming : q.streaming with _ | _
  · rw [qbuf_idle planes hstreaming]
    refine ⟨?_, h.idle, fun hstarted => ?_⟩
    · change (q.queued ++ [i]).Nodup
      rw [List.nodup_append]
      refine ⟨h.nodup, List.nodup_singleton i, ?_⟩
      rintro a ha b hb rfl
      exact hi (List.mem_singleton.mp hb ▸ ha)
    · change q.streaming = true at hstarted
      rw [hstreaming] at hstarted
      exact absurd hstarted Bool.false_ne_true
  · rw [qbuf_streaming planes hstreaming]
    refine ⟨h.nodup, fun hidle => ?_, fun _ => h.started hstreaming⟩
    change q.streaming = false at hidle
    rw [hstreaming] at hidle
    exact absurd hidle.symm Bool.false_ne_true

theorem held_idle (h : Queued q) (ho : Owned q held) (hidle : q.streaming = false) :
    held = [] := by
  have hperm := ho.owned
  rw [h.idle hidle] at hperm
  exact List.nil_perm.mp hperm

end Queue

section Slots

theorem otherSlot_paritySlot (n : U32) : otherSlot (paritySlot n) = paritySlot (n + 1#32) := by
  have hne := paritySlot_succ_ne n
  revert hne
  generalize paritySlot (n + 1#32) = x
  generalize paritySlot n = y
  cases x <;> cases y <;> simp [otherSlot]

theorem otherSlot_ne (slot : MxcIsiBufId) : otherSlot slot ≠ slot := by
  cases slot <;> exact nofun

@[simp] theorem otherSlot_otherSlot (slot : MxcIsiBufId) :
    otherSlot (otherSlot slot) = slot := by
  cases slot <;> rfl

theorem Paired.frame {s s' : M2mNode} {i j : Nat} (h : Paired s i j)
    (hactive : s'.dev.outActive = s.dev.outActive)
    (hbuf : ∀ k ∈ s.dev.outActive, s'.dev.dst.buf k = s.dev.dst.buf k)
    (hregs : ∀ slot, slotAddr s'.dev.isi.regs slot = slotAddr s.dev.isi.regs slot)
    (hslot : s'.nextSlot = s.nextSlot) (hcount : s'.dev.frameCount = s.dev.frameCount) :
    Paired s' i j where
  active := hactive.trans h.active
  first := by rw [hbuf i (by rw [h.active]; simp), hslot, h.first]
  second := by rw [hbuf j (by rw [h.active]; simp), hslot, h.second]
  counter := by rw [hslot, hcount, h.counter]
  programmed := by
    intro k hk
    rw [hactive] at hk
    rw [hbuf k hk, hregs]
    exact h.programmed k hk

/-- What moving a buffer to `out_active` does. -/
structure Activated (m m' : MxcIsiM2mDev) (i : Nat) (rest : List Nat)
    (slot : MxcIsiBufId) : Prop where
  ready : m'.dst.ready = rest
  active : m'.outActive = m.outActive ++ [i]
  id : (m'.dst.buf i).id = slot
  addr : slotAddr m'.isi.regs slot = bufAddr (m'.dst.buf i)
  others : ∀ k, k ≠ i → m'.dst.buf k = m.dst.buf k
  regs : ∀ slot', slot' ≠ slot → slotAddr m'.isi.regs slot' = slotAddr m.isi.regs slot'
  owned : m'.dst.owned = m.dst.owned
  handed : m'.dst.handed = m.dst.handed
  completed : m'.dst.completed = m.dst.completed
  queued : m'.dst.queued = m.dst.queued
  streaming : m'.dst.streaming = m.dst.streaming
  src : m'.src = m.src
  frameCount : m'.frameCount = m.frameCount
  aborting : m'.aborting = m.aborting
  enabled : m'.isi.m2mEnabled = m.isi.m2mEnabled

theorem activateDst_some {m : MxcIsiM2mDev} {n : U32} {i : Nat} {rest : List Nat}
    {slot : MxcIsiBufId} (hready : m.dst.ready = i :: rest)
    (hslot : outbufSlot m.isi n = some slot) :
    ∃ m', activateDst m n = some m' ∧ Activated m m' i rest slot := by
  unfold activateDst
  rw [hready]
  refine ⟨_, rfl, ?_⟩
  unfold mxcIsiChannelSetOutbuf setBuf
  simp only [Function.update_self, hslot, Option.getD_some]
  constructor
  case addr =>
    simp only [Function.update_self, slotAddr_writeOutbuf]
    exact (planeAddr_idem _ _ _).symm
  case others =>
    intro k hk
    exact (Function.update_of_ne hk _ _).trans (Function.update_of_ne hk _ _)
  case regs => exact fun slot' hslot' => slotAddr_writeOutbuf_ne hslot' _ _
  case id => simp
  all_goals rfl

theorem outbufSlot_zero (isi : MxcIsiDev) : outbufSlot isi 0#32 = some .buf1 :=
  if_pos (.inl rfl)

theorem outbufSlot_one (isi : MxcIsiDev) : outbufSlot isi 1#32 = some .buf2 := by
  unfold outbufSlot
  rw [if_neg (by simp), if_pos (.inl rfl)]

theorem slotAddr_channelDisable (isi : MxcIsiDev) (slot : MxcIsiBufId) :
    slotAddr (mxcIsiChannelDisable isi).regs slot = slotAddr isi.regs slot := by
  cases slot <;> simp [slotAddr, mxcIsiChannelDisable, mxcIsiDisableIrq]

theorem slotAddr_channelEnable (isi : MxcIsiDev) (m2m : Bool) (slot : MxcIsiBufId) :
    slotAddr (mxcIsiChannelEnable isi m2m).regs slot = slotAddr isi.regs slot := by
  cases m2m <;> cases slot <;>
    simp [slotAddr, mxcIsiChannelEnable, mxcIsiCleanIrqStatus, mxcIsiEnableIrq,
      mxcIsiM2mStartRead]

end Slots

section Steps

variable {s s' : M2mNode}

theorem M2mBooks.frame (h : M2mBooks s) (hsrc : Owned s'.dev.src s'.dev.src.ready)
    (hdst : Owned s'.dev.dst (s'.dev.dst.ready ++ s'.dev.outActive))
    (hsrcQueued : Queued s'.dev.src) (hdstQueued : Queued s'.dev.dst)
    (henabled : s'.dev.isi.m2mEnabled = s.dev.isi.m2mEnabled)
    (hactive : s'.dev.outActive = s.dev.outActive)
    (hrunning : s'.running = s.running) (hcancelling : s'.cancelling = s.cancelling)
    (haborting : s'.dev.aborting = s.dev.aborting)
    (hready : s.dev.src.ready ≠ [] → s.dev.dst.ready ≠ [] →
      s'.dev.src.ready ≠ [] ∧ s'.dev.dst.ready ≠ [])
    (hstreams : s.dev.src.streaming = true → s.dev.dst.streaming = true →
      s'.dev.src.streaming = true ∧ s'.dev.dst.streaming = true)
    (hpaired : ∀ i j, Paired s i j → Paired s' i j) : M2mBooks s' where
  src := hsrc
  dst := hdst
  srcQueued := hsrcQueued
  dstQueued := hdstQueued
  enabled := henabled.trans h.enabled
  active := by
    rw [hactive]
    exact h.active
  slots := by
    rw [hrunning, hcancelling, hactive]
    intro hs
    exact (h.slots hs).imp_right fun ⟨i, j, hij⟩ => ⟨i, j, hpaired i j hij⟩
  job := by
    rw [hrunning, hactive]
    intro hs
    obtain ⟨hsrc, hdst, hout⟩ := h.job hs
    obtain ⟨hsrc', hdst'⟩ := hready hsrc hdst
    exact ⟨hsrc', hdst', hout⟩
  streams := by
    rw [hrunning, hcancelling]
    intro hs
    obtain ⟨hsrc, hdst⟩ := h.streams hs
    exact hstreams hsrc hdst
  aborting := by
    rw [hcancelling, hactive, haborting]
    exact h.aborting

theorem not_mem_outActive (h : M2mBooks s) {i : Nat} (hi : i ∉ s.dev.dst.owned) :
    i ∉ s.dev.outActive :=
  fun hmem => hi (h.dst.owned.mem_iff.mpr (List.mem_append_right _ hmem))

theorem qbuf_ready_ne_nil {q : M2mQueueCtx} (i : Nat) (planes : List Vb2Plane)
    (hready : q.ready ≠ []) : (qbuf q i planes).ready ≠ [] := by
  rcases hstreaming : q.streaming with _ | _
  · rw [qbuf_idle planes hstreaming]
    exact hready
  · rw [qbuf_streaming planes hstreaming]
    exact List.append_ne_nil_of_left_ne_nil hready [i]

theorem qbuf_keeps_streaming (q : M2mQueueCtx) (i : Nat) (planes : List Vb2Plane) :
    (qbuf q i planes).streaming = q.streaming := by
  unfold qbuf
  dsimp only
  split
  · rfl
  · rfl

/-- The books of a queue whose ready list and active buffers are all that is held. -/
theorem owned_qbuf {q : M2mQueueCtx} {active : List Nat} (h : Owned q (q.ready ++ active))
    {i : Nat} (hi : i ∉ q.owned) (planes : List Vb2Plane) :
    Owned (qbuf q i planes) ((qbuf q i planes).ready ++ active) := by
  rcases hstreaming : q.streaming with _ | _
  · rw [qbuf_idle planes hstreaming]
    exact h.frame rfl rfl rfl
  · rw [qbuf_streaming planes hstreaming]
    have hq : Owned (setBuf q i { q.buf i with planes := planes }) (q.ready ++ active) :=
      h.frame rfl rfl rfl
    refine (owned_enqueueInDriver hq hi).perm ?_
    change (q.ready ++ active ++ [i]).Perm (q.ready ++ [i] ++ active)
    rw [List.append_assoc, List.append_assoc]
    exact List.perm_append_comm.append_left _

theorem books_qbuf (h : M2mBooks s) {type : QueueType} {i : Nat} {planes : List Vb2Plane}
    (hqueued : i ∉ (queueOf s.dev type).queued) (howned : i ∉ (queueOf s.dev type).owned) :
    M2mBooks (m2mStep s (.qbuf type i planes)) := by
  cases type with
  | output =>
      have hsrc : Owned s.dev.src (s.dev.src.ready ++ []) := by
        rw [List.append_nil]
        exact h.src
      have hbooks := owned_qbuf hsrc howned planes
      rw [List.append_nil] at hbooks
      exact h.frame hbooks h.dst (queued_qbuf h.srcQueued hqueued planes) h.dstQueued rfl rfl
        rfl rfl rfl (fun hs hd => ⟨qbuf_ready_ne_nil i planes hs, hd⟩)
        (fun hs hd => ⟨(qbuf_keeps_streaming s.dev.src i planes).trans hs, hd⟩)
        (fun _ _ hij => hij.frame rfl (fun _ _ => rfl) (fun _ => rfl) rfl rfl)
  | capture =>
      have hnot := not_mem_outActive h howned
      have hbuf : ∀ k ∈ s.dev.outActive, (qbuf s.dev.dst i planes).buf k = s.dev.dst.buf k := by
        intro k hk
        refine qbuf_buf_of_ne s.dev.dst planes ?_
        rintro rfl
        exact hnot hk
      exact h.frame h.src (owned_qbuf h.dst howned planes) h.srcQueued
        (queued_qbuf h.dstQueued hqueued planes) rfl rfl rfl rfl rfl
        (fun hs hd => ⟨hs, qbuf_ready_ne_nil i planes hd⟩)
        (fun hs hd => ⟨hs, (qbuf_keeps_streaming s.dev.dst i planes).trans hd⟩)
        (fun _ _ hij => hij.frame rfl hbuf (fun _ => rfl) rfl rfl)

def filled (q : M2mQueueCtx) : M2mQueueCtx :=
  q.queued.foldl enqueueInDriver { q with queued := [] }

theorem filled_frame (q : M2mQueueCtx) :
    (filled q).owned = q.owned ++ q.queued ∧ (filled q).queued = [] ∧
      (filled q).streaming = q.streaming :=
  (enqueueAll_frame q.queued { q with queued := [] }).2

theorem owned_filled {q : M2mQueueCtx} (hq : Queued q) (ho : Owned q q.ready)
    (hidle : q.streaming = false) :
    Owned (filled q) q.queued ∧ (filled q).ready = q.queued := by
  have hready : q.ready = [] := held_idle hq ho hidle
  have howned : q.owned = [] := hq.idle hidle
  obtain ⟨hframe, -⟩ := enqueueAll_frame q.queued { q with queued := [] }
  constructor
  · rw [hready] at ho
    have hempty : Owned { q with queued := [] } [] := ho.frame rfl rfl rfl
    refine owned_enqueueAll hempty hq.nodup fun i _ hi => ?_
    change i ∈ q.owned at hi
    rw [howned] at hi
    exact absurd hi List.not_mem_nil
  · refine hframe.trans ?_
    change q.ready ++ q.queued = q.queued
    rw [hready, List.nil_append]

theorem streamon_output (m : MxcIsiM2mDev) (refuse : Option Errno) :
    (mxcIsiM2mStreamon m .output refuse).1 = m ∨ (m.src.streaming = false ∧
      (mxcIsiM2mStreamon m .output refuse).1 =
        { m with src := { filled m.src with streaming := true } }) := by
  unfold mxcIsiM2mStreamon
  rcases upscales m with _ | _
  · cases refuse with
    | some e => exact .inl rfl
    | none =>
        change (vb2Streamon m .output).1 = m ∨ _ ∧ (vb2Streamon m .output).1 = _
        unfold vb2Streamon
        rcases hstreaming : m.src.streaming with _ | _
        · refine .inr ⟨rfl, ?_⟩
          change (if m.src.streaming = true then _ else _ : MxcIsiM2mDev × Ret).1 = _
          rw [hstreaming]
          rfl
        · refine .inl ?_
          change (if m.src.streaming = true then _ else _ : MxcIsiM2mDev × Ret).1 = _
          rw [hstreaming]
          rfl
  · exact .inl rfl

theorem books_streamon_output (h : M2mBooks s) (refuse : Option Errno) :
    M2mBooks (m2mStep s (.streamon .output refuse)) := by
  have hslot : ∀ m : MxcIsiM2mDev, m.dst = s.dev.dst →
      (if !s.dev.dst.streaming && m.dst.streaming then MxcIsiBufId.buf1 else s.nextSlot) =
        s.nextSlot := by
    intro m hm
    rw [hm, Bool.not_and_self]
    rfl
  change M2mBooks { s with
    dev := (mxcIsiM2mStreamon s.dev .output refuse).1
    nextSlot := if !s.dev.dst.streaming &&
        (mxcIsiM2mStreamon s.dev .output refuse).1.dst.streaming then .buf1 else s.nextSlot }
  rcases streamon_output s.dev refuse with hsame | ⟨hidle, hstart⟩
  · rw [hsame, hslot s.dev rfl]
    exact h
  · rw [hstart, hslot _ rfl]
    obtain ⟨howned, hready⟩ := owned_filled h.srcQueued h.src hidle
    obtain ⟨-, hqueued, -⟩ := filled_frame s.dev.src
    have hsrc : Owned { filled s.dev.src with streaming := true } (filled s.dev.src).ready := by
      rw [hready]
      exact howned.frame rfl rfl rfl
    have hsrcQueued : Queued { filled s.dev.src with streaming := true } := by
      refine ⟨?_, fun h => absurd h nofun, fun _ => hqueued⟩
      change (filled s.dev.src).queued.Nodup
      rw [hqueued]
      exact List.nodup_nil
    have hempty : s.dev.src.ready = [] := held_idle h.srcQueued h.src hidle
    exact h.frame hsrc h.dst hsrcQueued h.dstQueued rfl rfl rfl rfl rfl
      (fun hs _ => absurd hempty hs) (fun _ hd => ⟨rfl, hd⟩)
      (fun _ _ hij => hij.frame rfl (fun _ _ => rfl) (fun _ => rfl) rfl rfl)

theorem books_cancelJob (h : M2mBooks s) (type : QueueType) :
    M2mBooks (m2mStep s (.cancelJob type)) := by
  -- the channel may be disabled first; the slots keep their addresses
  have hdisabled : ∀ isi : MxcIsiDev, isi.m2mEnabled = s.dev.isi.m2mEnabled →
      (∀ slot, slotAddr isi.regs slot = slotAddr s.dev.isi.regs slot) →
      M2mBooks (if s.running then
        { s with dev := { s.dev with isi := isi, aborting := true }, cancelling := true }
        else { s with dev := { s.dev with isi := isi } }) := by
    intro isi henabled hregs
    by_cases hrunning : s.running = true
    · rw [if_pos hrunning]
      exact
        { src := h.src
          dst := h.dst
          srcQueued := h.srcQueued
          dstQueued := h.dstQueued
          enabled := henabled.trans h.enabled
          active := h.active
          slots := fun _ => (h.slots (.inl hrunning)).imp_right fun ⟨i, j, hij⟩ =>
            ⟨i, j, hij.frame rfl (fun _ _ => rfl) hregs rfl rfl⟩
          job := fun _ => h.job hrunning
          streams := fun _ => h.streams (.inl hrunning)
          aborting := fun hcancel => absurd hcancel nofun }
    · rw [if_neg hrunning]
      exact h.frame h.src h.dst h.srcQueued h.dstQueued henabled rfl rfl rfl rfl
        (fun hs hd => ⟨hs, hd⟩) (fun hs hd => ⟨hs, hd⟩)
        (fun _ _ hij => hij.frame rfl (fun _ _ => rfl) hregs rfl rfl)
  cases type with
  | output => exact hdisabled s.dev.isi rfl fun _ => rfl
  | capture => exact hdisabled _ rfl (slotAddr_channelDisable s.dev.isi)

theorem slotAddr_setM2mSrcAddr (m : MxcIsiM2mDev) (i : Nat) (slot : MxcIsiBufId) :
    slotAddr (mxcIsiChannelSetM2mSrcAddr m i).isi.regs slot = slotAddr m.isi.regs slot := by
  cases slot <;> simp [slotAddr, mxcIsiChannelSetM2mSrcAddr]

theorem books_deviceRun (h : M2mBooks s) (hop : M2mContract s .deviceRun)
    (hfilled : SlotsFilled s .deviceRun) : M2mBooks (m2mStep s .deviceRun) := by
  obtain ⟨hsrc, hdst, hjob, hidle, hcancel⟩ := hop
  unfold mxcIsiM2mJobReady at hjob
  rw [Bool.and_eq_true, decide_eq_true_eq, decide_eq_true_eq] at hjob
  have hsrcReady : s.dev.src.ready ≠ [] := List.length_pos_iff.mp hjob.1
  have hdstReady : s.dev.dst.ready ≠ [] := List.length_pos_iff.mp hjob.2
  obtain ⟨i, rest, hready⟩ := List.exists_cons_of_ne_nil hsrcReady
  have hrun : mxcIsiM2mDeviceRun s.dev =
      { mxcIsiChannelSetM2mSrcAddr s.dev i with
        isi := mxcIsiChannelEnable (mxcIsiChannelSetM2mSrcAddr s.dev i).isi
          (mxcIsiChannelSetM2mSrcAddr s.dev i).isi.m2mEnabled } := by
    unfold mxcIsiM2mDeviceRun
    rw [hready]
  change M2mBooks { s with dev := mxcIsiM2mDeviceRun s.dev, running := true }
  rw [hrun]
  exact
    { src := h.src.frame rfl rfl rfl
      dst := h.dst
      srcQueued := ⟨h.srcQueued.nodup, h.srcQueued.idle, h.srcQueued.started⟩
      dstQueued := h.dstQueued
      enabled := (m2mEnabled_channelEnable _ _).trans h.enabled
      active := h.active
      slots := fun _ => (h.slots (.inr hcancel)).imp_right fun ⟨i, j, hij⟩ =>
        ⟨i, j, hij.frame rfl (fun _ _ => rfl) (fun slot => (slotAddr_channelEnable _ _ slot).trans
          (slotAddr_setM2mSrcAddr s.dev _ slot)) rfl rfl⟩
      job := fun _ => ⟨hsrcReady, hdstReady, hfilled⟩
      streams := fun _ => ⟨hsrc, hdst⟩
      aborting := h.aborting }

theorem owned_stopped {q q' : M2mQueueCtx} (h : Owned q []) (howned : q'.owned = [])
    (hhanded : q'.handed = q.handed) (hcompleted : q'.completed = q.completed) :
    Owned q' [] := by
  have hempty : q.owned = [] := List.perm_nil.mp h.owned
  exact h.frame (howned.trans hempty.symm) hhanded hcompleted

theorem queued_stopped {q : M2mQueueCtx} (howned : q.owned = []) (hqueued : q.queued = []) :
    Queued q := by
  refine ⟨?_, fun _ => howned, fun _ => hqueued⟩
  rw [hqueued]
  exact List.nodup_nil

theorem stopStreaming_spec (h : M2mBooks s) :
    Owned (m2mVb2StopStreaming s.dev).src [] ∧ Owned (m2mVb2StopStreaming s.dev).dst [] ∧
      (m2mVb2StopStreaming s.dev).src.ready = [] ∧
      (m2mVb2StopStreaming s.dev).dst.ready = [] := by
  have hsrc : Owned { s.dev.src with ready := [] } (s.dev.src.ready ++ []) := by
    rw [List.append_nil]
    exact h.src.frame rfl rfl rfl
  have hdst : Owned { s.dev.dst with ready := [] } (s.dev.dst.ready ++ s.dev.outActive) :=
    h.dst.frame rfl rfl rfl
  have hactive : Owned (returnAll { s.dev.dst with ready := [] } s.dev.dst.ready)
      (s.dev.outActive ++ []) := by
    rw [List.append_nil]
    exact owned_returnAll _ hdst
  refine ⟨owned_returnAll _ hsrc, owned_returnAll _ hactive, ?_, ?_⟩
  · exact (returnAll_frame _ _).1
  · exact (returnAll_frame _ _).1.trans (returnAll_frame _ _).1

theorem queued_returnAll {q : M2mQueueCtx} (h : Queued q) (is : List Nat)
    (howned : (returnAll q is).owned = []) : Queued (returnAll q is) := by
  obtain ⟨-, hqueued, hstreaming⟩ := returnAll_frame is q
  refine ⟨?_, fun _ => howned, ?_⟩
  · rw [hqueued]
    exact h.nodup
  · rw [hqueued, hstreaming]
    exact h.started

/-- The two halves of the node when a stop has taken all buffers. -/
theorem books_stopped (hrunning : s.running = false) (hcancelling : s.cancelling = false)
    (hactive : s.dev.outActive = []) (henabled : s.dev.isi.m2mEnabled = true)
    (hsrc : Owned s.dev.src s.dev.src.ready) (hdst : Owned s.dev.dst s.dev.dst.ready)
    (hsrcQueued : Queued s.dev.src) (hdstQueued : Queued s.dev.dst) : M2mBooks s where
  src := hsrc
  dst := by
    rw [hactive, List.append_nil]
    exact hdst
  srcQueued := hsrcQueued
  dstQueued := hdstQueued
  enabled := henabled
  active := by
    rw [hactive]
    exact Nat.zero_le 2
  slots := fun _ => .inl hactive
  job := fun hrun => absurd (hrunning.symm.trans hrun) Bool.false_ne_true
  streams := fun hs => by
    rw [hrunning, hcancelling] at hs
    exact absurd hs (by simp)
  aborting := fun _ hne => absurd hactive hne

theorem books_stopStreaming (h : M2mBooks s) (hrunning : s.running = false)
    (type : QueueType) :
    M2mBooks { s with
      dev := setQueue (m2mVb2StopStreaming s.dev) type
        { queueOf (m2mVb2StopStreaming s.dev) type with
          streaming := false, queued := [], owned := [], ready := [] }
      cancelling := false } := by
  obtain ⟨hsrc, hdst, hsrcReady, hdstReady⟩ := stopStreaming_spec h
  have hsrcQueued : Queued (m2mVb2StopStreaming s.dev).src :=
    @queued_returnAll { s.dev.src with ready := [] }
      ⟨h.srcQueued.nodup, h.srcQueued.idle, h.srcQueued.started⟩ s.dev.src.ready
      (List.perm_nil.mp hsrc.owned)
  have hdstQueued : Queued (m2mVb2StopStreaming s.dev).dst := by
    obtain ⟨-, hqueued, hstreaming⟩ := returnAll_frame s.dev.dst.ready
      { s.dev.dst with ready := [] }
    obtain ⟨-, hqueued', hstreaming'⟩ := returnAll_frame s.dev.outActive
      (returnAll { s.dev.dst with ready := [] } s.dev.dst.ready)
    refine ⟨?_, fun _ => List.perm_nil.mp hdst.owned, fun hstarted => ?_⟩
    · exact (hqueued'.trans hqueued) ▸ h.dstQueued.nodup
    · exact (hqueued'.trans hqueued).trans
        (h.dstQueued.started ((hstreaming'.trans hstreaming).symm.trans hstarted))
  cases type with
  | output =>
      refine books_stopped hrunning rfl rfl h.enabled (owned_stopped hsrc rfl rfl rfl) ?_
        (queued_stopped rfl rfl) hdstQueued
      change Owned (m2mVb2StopStreaming s.dev).dst (m2mVb2StopStreaming s.dev).dst.ready
      rw [hdstReady]
      exact hdst
  | capture =>
      refine books_stopped hrunning rfl rfl h.enabled ?_ (owned_stopped hdst rfl rfl rfl)
        hsrcQueued (queued_stopped rfl rfl)
      change Owned (m2mVb2StopStreaming s.dev).src (m2mVb2StopStreaming s.dev).src.ready
      rw [hsrcReady]
      exact hsrc

/-- A stop waits for the job, and one of a queue that does not stream finds nothing. -/
theorem books_streamoff (h : M2mBooks s) {type : QueueType}
    (hop : M2mContract s (.streamoff type)) : M2mBooks (m2mStep s (.streamoff type)) := by
  change s.running = false at hop
  change M2mBooks { s with dev := v4l2M2mStreamoff s.dev type, cancelling := false }
  unfold v4l2M2mStreamoff
  dsimp only
  by_cases hstreaming : (queueOf s.dev type).streaming = true
  · rw [if_pos hstreaming]
    exact books_stopStreaming h hop type
  · rw [if_neg hstreaming]
    have hidle := Bool.eq_false_of_not_eq_true hstreaming
    have hcancelling : s.cancelling = false := by
      refine Bool.eq_false_of_not_eq_true fun hcancel => ?_
      obtain ⟨hsrc, hdst⟩ := h.streams (.inr hcancel)
      cases type with
      | output => exact hstreaming hsrc
      | capture => exact hstreaming hdst
    cases type with
    | output =>
        have hempty : s.dev.src.ready = [] := held_idle h.srcQueued h.src hidle
        have hsrc := h.src
        rw [hempty] at hsrc
        exact h.frame (owned_stopped hsrc rfl rfl rfl) h.dst (queued_stopped rfl rfl)
          h.dstQueued rfl rfl rfl hcancelling.symm rfl (fun hs _ => absurd hempty hs)
          (fun hs _ => absurd hs hstreaming)
          (fun _ _ hij => hij.frame rfl (fun _ _ => rfl) (fun _ => rfl) rfl rfl)
    | capture =>
        have hheld := held_idle h.dstQueued h.dst hidle
        have hdst := h.dst
        rw [hheld] at hdst
        obtain ⟨hready, hactive⟩ := List.append_eq_nil_iff.mp hheld
        exact books_stopped hop rfl hactive h.enabled h.src (owned_stopped hdst rfl rfl rfl)
          h.srcQueued (queued_stopped rfl rfl)

/-- The two buffers of a CAPTURE start are in the two slots. -/
theorem startStreaming_capture {m : MxcIsiM2mDev} {i j : Nat} {rest : List Nat}
    (hready : m.dst.ready = i :: j :: rest) (hactive : m.outActive = []) (hij : i ≠ j)
    {count : Nat} (hcount : 2 ≤ count) :
    ∃ m', m2mVb2StartStreaming m .capture count = (m', .ok ()) ∧
      m'.src = m.src ∧ m'.dst.owned = m.dst.owned ∧ m'.dst.handed = m.dst.handed ∧
      m'.dst.completed = m.dst.completed ∧ m'.dst.queued = m.dst.queued ∧
      m'.isi.m2mEnabled = m.isi.m2mEnabled ∧ m'.dst.ready = rest ∧ m'.aborting = false ∧
      ∀ running cancelling, Paired ⟨m', running, cancelling, .buf1⟩ i j := by
  obtain ⟨m₁, hrun₁, h₁⟩ := activateDst_some hready (outbufSlot_zero m.isi)
  obtain ⟨m₂, hrun₂, h₂⟩ := activateDst_some h₁.ready (outbufSlot_one m₁.isi)
  refine ⟨{ m₂ with frameCount := 1#32, aborting := false }, ?_, h₂.src.trans h₁.src,
    h₂.owned.trans h₁.owned, h₂.handed.trans h₁.handed, h₂.completed.trans h₁.completed,
    h₂.queued.trans h₁.queued, h₂.enabled.trans h₁.enabled, h₂.ready, rfl, ?_⟩
  · unfold m2mVb2StartStreaming
    dsimp only
    rw [if_neg (Nat.not_lt.mpr hcount), hrun₁]
    dsimp only
    rw [hrun₂]
  · intro running cancelling
    have hboth : m₂.outActive = [i, j] := by
      rw [h₂.active, h₁.active, hactive]
      rfl
    refine ⟨hboth, ?_, h₂.id, rfl, ?_⟩
    · change (m₂.dst.buf i).id = .buf1
      rw [h₂.others i hij]
      exact h₁.id
    · intro k hk
      change k ∈ m₂.outActive at hk
      rw [hboth] at hk
      change slotAddr m₂.isi.regs (m₂.dst.buf k).id = bufAddr (m₂.dst.buf k)
      simp only [List.mem_cons, List.not_mem_nil, or_false] at hk
      rcases hk with rfl | rfl
      · rw [h₂.others k hij, h₁.id, h₂.regs _ (by exact nofun)]
        exact h₁.addr
      · rw [h₂.id]
        exact h₂.addr

theorem channelConfig_frame (m : MxcIsiM2mDev) :
    ∃ isi : MxcIsiDev, channelConfig m = { m with isi := isi } ∧
      isi.m2mEnabled = m.isi.m2mEnabled := by
  unfold channelConfig
  split
  · exact ⟨_, rfl, m2mEnabled_channelConfig _ _ _ _ _⟩
  · exact ⟨m.isi, rfl, rfl⟩

theorem books_configured (h : M2mBooks s) (hactive : s.dev.outActive = []) {isi : MxcIsiDev}
    (henabled : isi.m2mEnabled = s.dev.isi.m2mEnabled) :
    M2mBooks { s with dev := { s.dev with frameCount := 0#32, isi := isi } } :=
  h.frame h.src h.dst h.srcQueued h.dstQueued henabled rfl rfl rfl rfl
    (fun hs hd => ⟨hs, hd⟩) (fun hs hd => ⟨hs, hd⟩)
    (fun _ _ hij => absurd (hactive.symm.trans hij.active) nofun)

/-- A CAPTURE queue that is idle takes the driver's answer to what it hands over. -/
theorem vb2Streamon_idle {m m' : MxcIsiM2mDev} {r : Ret} (hidle : m.dst.streaming = false)
    (hstart : m2mVb2StartStreaming { m with dst := filled m.dst } .capture
      (filled m.dst).owned.length = (m', r)) :
    vb2Streamon m .capture =
      match r with
      | .ok () => ({ m' with dst := { m'.dst with streaming := true } }, .ok ())
      | .error e =>
          ({ m' with dst := { m'.dst with owned := [], queued := m.dst.queued } }, .error e) := by
  change m2mVb2StartStreaming (setQueue m .capture (filled (queueOf m .capture))) .capture
    (filled (queueOf m .capture)).owned.length = _ at hstart
  unfold vb2Streamon
  change (if m.dst.streaming = true then _ else _ : MxcIsiM2mDev × Ret) = _
  rw [if_neg (by rw [hidle]; exact Bool.false_ne_true)]
  dsimp only
  rw [← filled, hstart]
  cases r with
  | ok _ => rfl
  | error e => rfl

/-- An idle CAPTURE queue hands over what was queued, and nothing is left from before. -/
structure Handover (m : MxcIsiM2mDev) : Prop where
  ready : m.dst.ready = []
  active : m.outActive = []
  held : Owned (filled m.dst) m.dst.queued
  filledReady : (filled m.dst).ready = m.dst.queued
  filledOwned : (filled m.dst).owned = m.dst.queued
  filledQueued : (filled m.dst).queued = []

theorem M2mBooks.handover (h : M2mBooks s) (hidle : s.dev.dst.streaming = false) :
    Handover s.dev := by
  obtain ⟨hready, hactive⟩ := List.append_eq_nil_iff.mp (held_idle h.dstQueued h.dst hidle)
  have hdst : Owned s.dev.dst s.dev.dst.ready := by
    have hdst := h.dst
    rw [hactive, List.append_nil] at hdst
    exact hdst
  obtain ⟨hheld, hfilled⟩ := owned_filled h.dstQueued hdst hidle
  obtain ⟨hown, hqueued, -⟩ := filled_frame s.dev.dst
  rw [h.dstQueued.idle hidle, List.nil_append] at hown
  exact ⟨hready, hactive, hheld, hfilled, hown, hqueued⟩

/-- With nothing queued the start fails, and there is nothing to take back. -/
theorem books_captureStart_empty (h : M2mBooks s) (hidle : s.dev.dst.streaming = false)
    (hlist : s.dev.dst.queued = []) {isi : MxcIsiDev}
    (henabled : isi.m2mEnabled = s.dev.isi.m2mEnabled) :
    M2mBooks { s with
      dev := (vb2Streamon { s.dev with frameCount := 0#32, isi := isi } .capture).1
      nextSlot := if !s.dev.dst.streaming &&
          (vb2Streamon { s.dev with frameCount := 0#32, isi := isi } .capture).1.dst.streaming
        then .buf1 else s.nextSlot } := by
  have hhand := h.handover hidle
  have hnone : Owned { filled s.dev.dst with owned := [], queued := [] }
      ((filled s.dev.dst).ready ++ s.dev.outActive) := by
    have hheld := hhand.held
    rw [hlist] at hheld
    rw [hhand.filledReady, hlist, hhand.active]
    exact owned_stopped hheld rfl rfl rfl
  have hempty : Queued { filled s.dev.dst with owned := [], queued := [] } :=
    queued_stopped rfl rfl
  have hfail : m2mVb2StartStreaming
      { s.dev with frameCount := 0#32, isi := isi, dst := filled s.dev.dst } .capture
      (filled s.dev.dst).owned.length =
        ({ s.dev with frameCount := 0#32, isi := isi, dst := filled s.dev.dst },
          .error .einval) := by
    rw [hhand.filledOwned, hlist]
    rfl
  rw [@vb2Streamon_idle { s.dev with frameCount := 0#32, isi := isi } _ _ hidle hfail]
  dsimp only
  rw [hlist]
  exact h.frame h.src hnone h.srcQueued hempty henabled rfl rfl rfl rfl
    (fun _ hd => absurd hhand.ready hd)
    (fun _ hd => absurd (hidle.symm.trans hd) Bool.false_ne_true)
    (fun i j hij => absurd (hij.active.symm.trans hhand.active) (List.cons_ne_nil i [j]))

/-- With two buffers queued the start fills both slots. -/
theorem books_captureStart_pair (h : M2mBooks s) (hidle : s.dev.dst.streaming = false)
    {i j : Nat} {rest : List Nat} (hlist : s.dev.dst.queued = i :: j :: rest) {isi : MxcIsiDev}
    (henabled : isi.m2mEnabled = s.dev.isi.m2mEnabled) :
    M2mBooks { s with
      dev := (vb2Streamon { s.dev with frameCount := 0#32, isi := isi } .capture).1
      nextSlot := if !s.dev.dst.streaming &&
          (vb2Streamon { s.dev with frameCount := 0#32, isi := isi } .capture).1.dst.streaming
        then .buf1 else s.nextSlot } := by
  have hhand := h.handover hidle
  have hheld := hhand.held
  rw [hlist] at hheld
  have hij : i ≠ j := by
    rintro rfl
    exact (List.nodup_cons.mp hheld.nodup).1 List.mem_cons_self
  have hstopped : ¬(s.running = true ∨ s.cancelling = true) := by
    intro hs
    rw [(h.streams hs).2] at hidle
    exact Bool.false_ne_true hidle.symm
  obtain ⟨m, hrun, hsrc, howned, hhanded, hcompleted, hqueued, henabledEq, hrest, habort,
      hpaired⟩ :=
    @startStreaming_capture
      { s.dev with frameCount := 0#32, isi := isi, dst := filled s.dev.dst } i j rest
      (hhand.filledReady.trans hlist) hhand.active hij (i :: j :: rest).length
      (Nat.le_add_left 2 rest.length)
  rw [← hlist, ← hhand.filledOwned] at hrun
  rw [@vb2Streamon_idle { s.dev with frameCount := 0#32, isi := isi } _ _ hidle hrun]
  have hpair := hpaired s.running s.cancelling
  have hheldNow : Owned m.dst (m.dst.ready ++ m.outActive) := by
    rw [hrest, hpair.active]
    exact (hheld.frame howned hhanded hcompleted).perm
      (List.perm_append_comm : ([i, j] ++ rest).Perm (rest ++ [i, j]))
  have hsrcNow : Owned m.src m.src.ready := by
    rw [hsrc]
    exact h.src
  have hsrcQueued : Queued m.src := by
    rw [hsrc]
    exact h.srcQueued
  have hdstQueued : Queued { m.dst with streaming := true } := by
    have hnone : m.dst.queued = [] := hqueued.trans hhand.filledQueued
    refine ⟨?_, fun hs => absurd hs.symm Bool.false_ne_true, fun _ => hnone⟩
    exact hnone ▸ List.nodup_nil
  have hslots : M2mBooks { s with
      dev := { m with dst := { m.dst with streaming := true } }
      nextSlot := .buf1 } :=
    { src := hsrcNow
      dst := hheldNow.frame rfl rfl rfl
      srcQueued := hsrcQueued
      dstQueued := hdstQueued
      enabled := henabledEq.trans (henabled.trans h.enabled)
      active := by
        change m.outActive.length ≤ 2
        rw [hpair.active]
        exact Nat.le_refl 2
      slots := fun _ => .inr ⟨i, j, hpair.frame rfl (fun _ _ => rfl) (fun _ => rfl) rfl rfl⟩
      job := fun hs => absurd (.inl hs) hstopped
      streams := fun hs => absurd hs hstopped
      aborting := fun _ _ => habort }
  have hnext : (!s.dev.dst.streaming && true) = true := by
    rw [hidle]
    rfl
  change M2mBooks { s with
    dev := { m with dst := { m.dst with streaming := true } }
    nextSlot := if !s.dev.dst.streaming && true then .buf1 else s.nextSlot }
  rw [hnext, if_pos rfl]
  exact hslots

/-- The start of the CAPTURE queue, with none or with at least two buffers. -/
theorem books_captureStart (h : M2mBooks s) (hidle : s.dev.dst.streaming = false)
    (hcount : s.dev.dst.queued.length ≠ 1) {isi : MxcIsiDev}
    (henabled : isi.m2mEnabled = s.dev.isi.m2mEnabled) :
    M2mBooks { s with
      dev := (vb2Streamon { s.dev with frameCount := 0#32, isi := isi } .capture).1
      nextSlot := if !s.dev.dst.streaming &&
          (vb2Streamon { s.dev with frameCount := 0#32, isi := isi } .capture).1.dst.streaming
        then .buf1 else s.nextSlot } := by
  rcases hlist : s.dev.dst.queued with _ | ⟨i, _ | ⟨j, rest⟩⟩
  · exact books_captureStart_empty h hidle hlist henabled
  · rw [hlist] at hcount
    exact absurd rfl hcount
  · exact books_captureStart_pair h hidle hlist henabled

theorem books_streamon_capture (h : M2mBooks s) {refuse : Option Errno}
    (hf : SlotsFilled s (.streamon .capture refuse)) :
    M2mBooks (m2mStep s (.streamon .capture refuse)) := by
  change M2mBooks { s with
    dev := (mxcIsiM2mStreamon s.dev .capture refuse).1
    nextSlot := if !s.dev.dst.streaming &&
        (mxcIsiM2mStreamon s.dev .capture refuse).1.dst.streaming then .buf1 else s.nextSlot }
  have hsame : (if !s.dev.dst.streaming && s.dev.dst.streaming then MxcIsiBufId.buf1
      else s.nextSlot) = s.nextSlot := by
    rw [Bool.not_and_self]
    rfl
  change _ ∨ (if s.dev.dst.streaming = true then _ else _) at hf
  unfold mxcIsiM2mStreamon
  rcases hup : upscales s.dev with _ | _
  · rw [if_neg Bool.false_ne_true]
    have hcond := hf.resolve_left (by rw [hup]; exact Bool.false_ne_true)
    obtain ⟨isi, hconfig, henabled⟩ := channelConfig_frame { s.dev with frameCount := 0#32 }
    dsimp only
    rw [hconfig]
    rcases hidle : s.dev.dst.streaming with _ | _
    · have hactive : s.dev.outActive = [] :=
        (List.append_eq_nil_iff.mp (held_idle h.dstQueued h.dst hidle)).2
      rw [hidle, if_neg Bool.false_ne_true] at hcond
      cases refuse with
      | some e =>
          have hconf := books_configured h hactive henabled
          rw [hidle] at hsame
          dsimp only
          rw [hidle, hsame]
          exact hconf
      | none =>
          have hstart := books_captureStart h hidle (hcond rfl) henabled
          rw [hidle] at hstart
          exact hstart
    · rw [hidle, if_pos rfl] at hcond
      have hconf := books_configured h hcond henabled
      rw [hidle] at hsame
      cases refuse with
      | some e => exact hconf
      | none =>
          have hkept : vb2Streamon { s.dev with frameCount := 0#32, isi := isi } .capture =
              ({ s.dev with frameCount := 0#32, isi := isi }, .ok ()) := if_pos hidle
          dsimp only
          rw [hkept]
          exact hconf
  · rw [if_pos rfl, hsame]
    exact h

end Steps

section FrameDone

variable {s : M2mNode} {status : U32}

/-- The device with the status of an interrupt latched and cleared. -/
def latched (m : MxcIsiM2mDev) (status : U32) : MxcIsiM2mDev :=
  { m with isi := mxcIsiCleanIrqStatus { m.isi with status := status } status }

theorem irqHandler_eq (m : MxcIsiM2mDev) (running : Bool) (status : U32) :
    mxcIsiIrqHandler m running status =
      if status &&& chnlStsFrmStrdMask ≠ 0#32 then
        if m.isi.m2mEnabled && running then mxcIsiM2mFrameWriteDone (latched m status)
        else latched m status
      else latched m status := rfl

theorem frameDone_idle
    (h : s.running = false ∨ status &&& chnlStsFrmStrdMask = 0#32) :
    frameDone s status = { s with dev := latched s.dev status } := by
  have hstored : (s.running && status &&& chnlStsFrmStrdMask != 0#32) = false := by
    rcases h with h | h
    · rw [h]
      rfl
    · rw [h, bne_self_eq_false, Bool.and_false]
  have hdev : mxcIsiIrqHandler s.dev s.running status = latched s.dev status := by
    rw [irqHandler_eq]
    rcases h with h | h
    · rw [h, Bool.and_false]
      simp
    · rw [if_neg (not_not.mpr h)]
  unfold frameDone
  dsimp only
  rw [hstored, hdev, Bool.false_and, Bool.not_false, Bool.and_true]
  rfl

theorem frameDone_stored (hrunning : s.running = true)
    (hstored : status &&& chnlStsFrmStrdMask ≠ 0#32) (henabled : s.dev.isi.m2mEnabled = true) :
    frameDone s status =
      ⟨mxcIsiM2mFrameWriteDone (latched s.dev status), false, s.cancelling,
        otherSlot s.nextSlot⟩ := by
  have hdev : mxcIsiIrqHandler s.dev s.running status =
      mxcIsiM2mFrameWriteDone (latched s.dev status) := by
    rw [irqHandler_eq, if_pos hstored, henabled, hrunning]
    rfl
  unfold frameDone
  dsimp only
  rw [hdev, hrunning, henabled, bne_iff_ne.mpr hstored]
  rfl

/-- The device at the end of a job, before the next destination buffer is moved. -/
def retired (m : MxcIsiM2mDev) (i : Nat) (rest : List Nat) (a : Nat) (active : List Nat) :
    MxcIsiM2mDev :=
  { m with
    src := vb2BufferDone { m.src with ready := rest } i .done
    dst := vb2BufferDone m.dst a .done
    outActive := active
    frameCount := m.frameCount + 1#32 }

theorem retireDst_cons {m : MxcIsiM2mDev} {a : Nat} {active : List Nat}
    (h : m.outActive = a :: active) :
    retireDst m = { m with dst := vb2BufferDone m.dst a .done, outActive := active } := by
  unfold retireDst
  rw [h]

/-- A job that is not aborted and finds a source and an active buffer. -/
theorem frameWriteDone_eq {m : MxcIsiM2mDev} (habort : m.aborting = false) {i a : Nat}
    {rest active : List Nat} (hready : m.src.ready = i :: rest)
    (hactive : m.outActive = a :: active) :
    mxcIsiM2mFrameWriteDone m =
      (activateDst (retired m i rest a active) (m.frameCount + 1#32)).getD
        (retired m i rest a active) := by
  unfold mxcIsiM2mFrameWriteDone
  rw [if_neg (ne_true_of_eq_false habort), hready]
  dsimp only
  rw [@retireDst_cons { m with src := vb2BufferDone { m.src with ready := rest } i .done }
    a active hactive]
  rfl

theorem queued_vb2BufferDone {q : M2mQueueCtx} (h : Queued q) (hs : q.streaming = true)
    (i : Nat) (state : Vb2BufferState) : Queued (vb2BufferDone q i state) :=
  ⟨h.nodup, fun hidle => absurd (hidle.symm.trans hs) Bool.false_ne_true, h.started⟩

theorem books_latched (h : M2mBooks s) :
    M2mBooks { s with dev := latched s.dev status } :=
  h.frame h.src h.dst h.srcQueued h.dstQueued rfl rfl rfl rfl rfl (fun hs hd => ⟨hs, hd⟩)
    (fun hs hd => ⟨hs, hd⟩)
    (fun _ _ hij => hij.frame rfl (fun _ _ => rfl)
      (slotAddr_cleanIrqStatus { s.dev.isi with status := status } status) rfl rfl)

theorem books_jobAborted (h : M2mBooks s) (hrunning : s.running = true)
    (habort : s.dev.aborting = true) :
    M2mBooks ⟨mxcIsiM2mFrameWriteDone (latched s.dev status), false, s.cancelling,
      otherSlot s.nextSlot⟩ := by
  have hrun : mxcIsiM2mFrameWriteDone (latched s.dev status) =
      { latched s.dev status with isi := mxcIsiChannelDisable (latched s.dev status).isi } :=
    if_pos habort
  have hcancelling : s.cancelling = true := by
    by_contra hnot
    have hclear := h.aborting (Bool.eq_false_of_not_eq_true hnot) (h.job hrunning).2.2
    exact Bool.false_ne_true (hclear.symm.trans habort)
  rw [hrun]
  exact
    { src := h.src
      dst := h.dst
      srcQueued := h.srcQueued
      dstQueued := h.dstQueued
      enabled := h.enabled
      active := h.active
      slots := fun hs => by
        rw [hcancelling] at hs
        exact absurd hs (by simp)
      job := fun hs => absurd hs Bool.false_ne_true
      streams := fun _ => h.streams (.inl hrunning)
      aborting := fun hs => absurd (hcancelling.symm.trans hs) nofun }

/-- The buffer in the freed slot and the one just set stay a pair, the other way round. -/
theorem paired_jobDone {a b c i : Nat} {rest pending : List Nat} {m : MxcIsiM2mDev}
    (hpaired : Paired s a b)
    (hm : Activated (retired (latched s.dev status) i rest a [b]) m c pending s.nextSlot)
    (hba : b ≠ a) (hbc : b ≠ c) :
    Paired ⟨m, false, s.cancelling, otherSlot s.nextSlot⟩ b c := by
  have hbuf : m.dst.buf b = s.dev.dst.buf b :=
    (hm.others b hbc).trans (Function.update_of_ne hba _ _)
  have hprogrammed := hpaired.programmed b (by rw [hpaired.active]; simp)
  refine ⟨hm.active, ?_, ?_, ?_, ?_⟩
  · change (m.dst.buf b).id = _
    rw [hbuf]
    exact hpaired.second
  · change (m.dst.buf c).id = otherSlot (otherSlot s.nextSlot)
    rw [otherSlot_otherSlot]
    exact hm.id
  · change otherSlot s.nextSlot = paritySlot m.frameCount
    rw [hm.frameCount, hpaired.counter]
    exact otherSlot_paritySlot s.dev.frameCount
  · intro k hk
    change k ∈ m.outActive at hk
    rw [hm.active] at hk
    change slotAddr m.isi.regs (m.dst.buf k).id = bufAddr (m.dst.buf k)
    rcases List.mem_append.mp hk with hk | hk
    · obtain rfl := List.mem_singleton.mp hk
      rw [hbuf, hpaired.second, hm.regs _ (otherSlot_ne _), ← hpaired.second]
      exact (slotAddr_cleanIrqStatus { s.dev.isi with status := status } status _).trans
        hprogrammed
    · obtain rfl := List.mem_singleton.mp hk
      rw [hm.id]
      exact hm.addr

/-- A job that ends turns the pair of active buffers. -/
theorem books_jobDone (h : M2mBooks s) (hrunning : s.running = true)
    (habort : s.dev.aborting = false) (hone : ReportsOne status)
    (hfree : slotActive { s.dev.isi with status := status } s.nextSlot = false) :
    M2mBooks ⟨mxcIsiM2mFrameWriteDone (latched s.dev status), false, s.cancelling,
      otherSlot s.nextSlot⟩ := by
  obtain ⟨hsrcReady, hdstReady, hout⟩ := h.job hrunning
  obtain ⟨hsrcStreams, hdstStreams⟩ := h.streams (.inl hrunning)
  obtain ⟨i, rest, hsrc⟩ := List.exists_cons_of_ne_nil hsrcReady
  obtain ⟨c, pending, hdst⟩ := List.exists_cons_of_ne_nil hdstReady
  obtain ⟨a, b, hpaired⟩ := (h.slots (.inl hrunning)).resolve_left hout
  have hactive := hpaired.active
  have hslot : outbufSlot (latched s.dev status).isi (s.dev.frameCount + 1#32) =
      some s.nextSlot := by
    rw [hpaired.counter] at hfree ⊢
    exact @outbufSlot_freed (latched s.dev status).isi hone s.dev.frameCount hfree
  obtain ⟨m, hrun, hm⟩ := @activateDst_some (retired (latched s.dev status) i rest a [b])
    (s.dev.frameCount + 1#32) c pending s.nextSlot hdst hslot
  rw [@frameWriteDone_eq (latched s.dev status) habort i a rest [b] hsrc hactive]
  change M2mBooks ⟨(activateDst (retired (latched s.dev status) i rest a [b])
    (s.dev.frameCount + 1#32)).getD _, false, s.cancelling, otherSlot s.nextSlot⟩
  rw [hrun, Option.getD_some]
  have hheld := h.dst
  rw [hdst, hactive] at hheld
  have hnodup := hheld.nodup
  have hba : b ≠ a := by
    rintro rfl
    simp [List.nodup_append] at hnodup
  have hbc : b ≠ c := by
    rintro rfl
    simp at hnodup
  have hsrcOwned : Owned m.src m.src.ready := by
    have hsrcHeld := h.src
    rw [hsrc] at hsrcHeld
    have hstart : Owned { s.dev.src with ready := rest } (i :: rest) :=
      hsrcHeld.frame rfl rfl rfl
    rw [hm.src]
    exact owned_vb2BufferDone hstart .done
  have hdstOwned : Owned m.dst (m.dst.ready ++ m.outActive) := by
    have hperm : (c :: pending ++ [a, b]).Perm (a :: (c :: pending ++ [b])) :=
      List.perm_middle
    have hdone := owned_vb2BufferDone (hheld.perm hperm) .done
    have hmoved : (c :: pending ++ [b]).Perm (pending ++ [b, c]) := by
      rw [show pending ++ [b, c] = (pending ++ [b]) ++ [c] by simp]
      exact (List.perm_append_singleton c (pending ++ [b])).symm
    rw [hm.ready, hm.active]
    exact (hdone.frame hm.owned hm.handed hm.completed).perm hmoved
  have hsrcQueued : Queued m.src := by
    rw [hm.src]
    exact @queued_vb2BufferDone { s.dev.src with ready := rest }
      ⟨h.srcQueued.nodup, h.srcQueued.idle, h.srcQueued.started⟩ hsrcStreams i .done
  have hmStreams : m.dst.streaming = true := hm.streaming.trans hdstStreams
  have hdstQueued : Queued m.dst := by
    have hempty : m.dst.queued = [] := hm.queued.trans (h.dstQueued.started hdstStreams)
    refine ⟨?_, fun hs => absurd (hs.symm.trans hmStreams) Bool.false_ne_true, fun _ => hempty⟩
    rw [hempty]
    exact List.nodup_nil
  exact
    { src := hsrcOwned
      dst := hdstOwned
      srcQueued := hsrcQueued
      dstQueued := hdstQueued
      enabled := hm.enabled.trans h.enabled
      active := by
        change m.outActive.length ≤ 2
        rw [hm.active]
        exact Nat.le_refl 2
      slots := fun _ => .inr ⟨b, c, paired_jobDone hpaired hm hba hbc⟩
      job := fun hs => absurd hs Bool.false_ne_true
      streams := fun _ => ⟨(congrArg M2mQueueCtx.streaming hm.src).trans hsrcStreams, hmStreams⟩
      aborting := fun _ _ => hm.aborting.trans habort }

theorem books_frameDone (h : M2mBooks s) (hop : M2mContract s (.frameDone status)) :
    M2mBooks (m2mStep s (.frameDone status)) := by
  change s.running = true → status &&& chnlStsFrmStrdMask ≠ 0#32 → _ at hop
  change M2mBooks (frameDone s status)
  by_cases hjob : s.running = true ∧ status &&& chnlStsFrmStrdMask ≠ 0#32
  · obtain ⟨hrunning, hstored⟩ := hjob
    obtain ⟨hone, hfree⟩ := hop hrunning hstored
    rw [frameDone_stored hrunning hstored h.enabled]
    rcases habort : s.dev.aborting with _ | _
    · exact books_jobDone h hrunning habort hone hfree
    · exact books_jobAborted h hrunning habort
  · have hidle : s.running = false ∨ status &&& chnlStsFrmStrdMask = 0#32 := by
      rcases hrunning : s.running with _ | _
      · exact .inl rfl
      · exact .inr (not_not.mp fun hstored => hjob ⟨hrunning, hstored⟩)
    rw [frameDone_idle hidle]
    exact books_latched h

end FrameDone

theorem books_m2mStep {s : M2mNode} {op : M2mOp} (h : M2mBooks s)
    (hop : M2mContract s op ∧ SlotsFilled s op) : M2mBooks (m2mStep s op) := by
  obtain ⟨hcontract, hfilled⟩ := hop
  cases op with
  | qbuf type i planes => exact books_qbuf h hcontract.1 hcontract.2
  | streamon type refuse =>
      cases type with
      | output => exact books_streamon_output h refuse
      | capture => exact books_streamon_capture h hfilled
  | cancelJob type => exact books_cancelJob h type
  | streamoff type => exact books_streamoff h hcontract
  | deviceRun => exact books_deviceRun h hcontract hfilled
  | frameDone status => exact books_frameDone h hcontract

structure FreshQueue (q : M2mQueueCtx) : Prop where
  streaming : q.streaming = false
  queued : q.queued = []
  owned : q.owned = []
  ready : q.ready = []
  handed : q.handed = []
  completed : q.completed = []

structure FreshNode (s : M2mNode) : Prop where
  src : FreshQueue s.dev.src
  dst : FreshQueue s.dev.dst
  active : s.dev.outActive = []
  enabled : s.dev.isi.m2mEnabled = true
  running : s.running = false
  cancelling : s.cancelling = false

theorem FreshQueue.held {q : M2mQueueCtx} (h : FreshQueue q) : Owned q q.ready where
  nodup := by
    rw [h.ready]
    exact List.nodup_nil
  owned := by rw [h.owned, h.ready]
  conserved := by
    rw [h.handed, h.owned, h.completed]
    rfl

theorem FreshNode.books {s : M2mNode} (h : FreshNode s) : M2mBooks s :=
  books_stopped h.running h.cancelling h.active h.enabled h.src.held h.dst.held
    (queued_stopped h.src.owned h.src.queued) (queued_stopped h.dst.owned h.dst.queued)

/-- Buffer ownership and the output slots in every run in which a job finds the slots
filled. -/
theorem buffers_owned {s : M2mNode} (hs : FreshNode s) (ops : List M2mOp)
    (hops : Along m2mStep (fun s op => M2mContract s op ∧ SlotsFilled s op) s ops) :
    Always m2mStep BuffersOwned s ops :=
  (always_of_along (fun _ _ => books_m2mStep) hs.books hops).imp
    fun _ => M2mBooks.buffersOwned

section Runs

instance (s : M2mNode) : ∀ op, Decidable (M2mContract s op)
  | .qbuf type i _ => inferInstanceAs
      (Decidable (i ∉ (queueOf s.dev type).queued ∧ i ∉ (queueOf s.dev type).owned))
  | .streamon type refuse => inferInstanceAs (Decidable (upscales s.dev = false →
      refuse = none → (queueOf s.dev type).streaming = false →
        ∀ i ∈ (queueOf s.dev type).queued, i ∉ (queueOf s.dev type).ready))
  | .cancelJob _ => inferInstanceAs (Decidable True)
  | .streamoff _ => inferInstanceAs (Decidable (s.running = false))
  | .deviceRun => inferInstanceAs (Decidable (s.dev.src.streaming = true ∧
      s.dev.dst.streaming = true ∧ mxcIsiM2mJobReady s.dev = true ∧ s.running = false ∧
      s.cancelling = false))
  | .frameDone status => inferInstanceAs (Decidable (s.running = true →
      status &&& chnlStsFrmStrdMask ≠ 0#32 →
      (status &&& 0x100#32 = 0#32 ↔ status &&& 0x200#32 ≠ 0#32) ∧
        slotActive { s.dev.isi with status := status } s.nextSlot = false))

instance (s : M2mNode) : ∀ op, Decidable (SlotsFilled s op)
  | .streamon .capture refuse => inferInstanceAs (Decidable (upscales s.dev = true ∨
      if s.dev.dst.streaming then s.dev.outActive = []
      else refuse = none → s.dev.dst.queued.length ≠ 1))
  | .streamon .output _ => inferInstanceAs (Decidable True)
  | .deviceRun => inferInstanceAs (Decidable (s.dev.outActive ≠ []))
  | .qbuf _ _ _ => inferInstanceAs (Decidable True)
  | .cancelJob _ => inferInstanceAs (Decidable True)
  | .streamoff _ => inferInstanceAs (Decidable True)
  | .frameDone _ => inferInstanceAs (Decidable True)

def freshQueue : M2mQueueCtx :=
  { buf := fun _ => zeroBuffer
    streaming := false
    queued := []
    owned := []
    ready := []
    handed := []
    completed := [] }

/-- The mem2mem node of the board's first channel, opened. -/
def boardM2m : M2mNode :=
  { dev :=
      { isi := { boardCapture.isi with m2mEnabled := true }
        srcF := boardCapture.dstF
        dstF := boardCapture.dstF
        src := freshQueue
        dst := freshQueue
        outActive := []
        frameCount := 0#32
        aborting := false }
    running := false
    cancelling := false
    nextSlot := .buf1 }

theorem freshNode_boardM2m : FreshNode boardM2m :=
  ⟨⟨rfl, rfl, rfl, rfl, rfl, rfl⟩, ⟨rfl, rfl, rfl, rfl, rfl, rfl⟩, rfl, rfl, rfl, rfl⟩

def m2mPrologue : List M2mOp :=
  [.qbuf .capture 0 [⟨0x1000#32, 0#32⟩], .qbuf .capture 1 [⟨0x2000#32, 0#32⟩],
    .qbuf .capture 2 [⟨0x3000#32, 0#32⟩], .qbuf .output 0 [⟨0x4000#32, 0#32⟩],
    .streamon .capture none, .streamon .output none]

theorem buffers_owned_boardM2m :
    Always m2mStep BuffersOwned boardM2m
      (m2mPrologue ++ [.deviceRun, .frameDone 0x20000200#32, .streamoff .capture]) :=
  buffers_owned freshNode_boardM2m _ (by decide +kernel)

/-- The OUTPUT queue is stopped and started again while the CAPTURE queue streams. -/
def outputRestart : List M2mOp :=
  m2mPrologue ++ [.streamoff .output, .qbuf .capture 0 [⟨0x1000#32, 0#32⟩],
    .qbuf .output 0 [⟨0x4000#32, 0#32⟩], .streamon .output none, .deviceRun]

/-- The job writes to a buffer that was given back. -/
theorem outputRestart_writes_returned :
    Along m2mStep M2mContract boardM2m outputRestart ∧
      ¬Always m2mStep BuffersOwned boardM2m outputRestart := by
  refine ⟨by decide +kernel, fun h => ?_⟩
  obtain ⟨i, hi, -⟩ := h.last.written (by decide +kernel)
  have hempty : (exec m2mStep boardM2m outputRestart).dev.outActive = [] := by decide +kernel
  rw [hempty] at hi
  exact absurd hi List.not_mem_nil

end Runs

end CameraPorting.Isi.Mem2memOwnership
