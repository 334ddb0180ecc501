import CameraPorting.Isi.Mem2memOwnership

namespace CameraPorting.Isi.Mem2memJobs

open CameraPorting.Kernel.Media
open CameraPorting.Isi.Device
open CameraPorting.Isi.Channel
open CameraPorting.Isi.CaptureQueue (outbufSlot slotActive)
open CameraPorting.Isi.SlotSafety
open CameraPorting.Isi.Mem2mem
open CameraPorting.Isi.Mem2memOwnership
open CameraPorting.Library.Runs

/-- One source and one destination buffer are done, and at most one ready destination
buffer is moved to the slot that was just written. -/
structure Accounted (s s' : M2mNode) : Prop where
  src : ∃ i, s'.dev.src.completed = s.dev.src.completed ++ [(i, .done)]
  dst : ∃ i, s'.dev.dst.completed = s.dev.dst.completed ++ [(i, .done)]
  moved : ∃ moved : List Nat, moved.length ≤ 1 ∧
    s.dev.dst.ready = moved ++ s'.dev.dst.ready ∧
    s'.dev.outActive = s.dev.outActive.tail ++ moved ∧
    ∀ i ∈ moved, (s'.dev.dst.buf i).id = s.nextSlot ∧
      slotAddr s'.dev.isi.regs s.nextSlot = bufAddr (s'.dev.dst.buf i)

def EndsJob (s : M2mNode) (status : U32) : Prop :=
  s.running = true ∧ status &&& chnlStsFrmStrdMask ≠ 0#32 ∧ s.cancelling = false

/-- Every job without an abort is accounted for. -/
def JobAccounted (s : M2mNode) (op : M2mOp) : Prop :=
  match op with
  | .frameDone status => EndsJob s status → Accounted s (m2mStep s op)
  | _ => True

/-- A job without an abort finds the flag of an earlier abort clear and a buffer active,
and the frame counter does not put the next buffer into the other slot. -/
def JobFits (s : M2mNode) : M2mOp → Prop
  | .frameDone status => EndsJob s status → s.dev.aborting = false ∧ s.dev.outActive ≠ [] ∧
      (s.dev.frameCount + 1#32 = 0#32 → s.nextSlot = .buf1) ∧
      (s.dev.frameCount + 1#32 = 1#32 → s.nextSlot = .buf2)
  | _ => True

/-- A job runs while both queues stream and have a buffer ready. -/
structure JobGuarded (s : M2mNode) : Prop where
  enabled : s.dev.isi.m2mEnabled = true
  ready : s.running = true → s.dev.src.ready ≠ [] ∧ s.dev.dst.ready ≠ []
  streams : s.running = true → s.dev.src.streaming = true ∧ s.dev.dst.streaming = true

section Frames

theorem activateDst_frame {m m' : MxcIsiM2mDev} {n : U32} (h : activateDst m n = some m') :
    m'.src = m.src ∧ m'.dst.completed = m.dst.completed ∧
      m'.isi.m2mEnabled = m.isi.m2mEnabled := by
  unfold activateDst at h
  split at h
  · exact absurd h nofun
  · obtain rfl := Option.some.inj h
    exact ⟨rfl, rfl, rfl⟩

theorem activateDst_getD_frame (m : MxcIsiM2mDev) (n : U32) :
    ((activateDst m n).getD m).src = m.src ∧
      ((activateDst m n).getD m).dst.completed = m.dst.completed ∧
      ((activateDst m n).getD m).isi.m2mEnabled = m.isi.m2mEnabled := by
  rcases h : activateDst m n with _ | m'
  · exact ⟨rfl, rfl, rfl⟩
  · exact activateDst_frame h

theorem retireDst_nil {m : MxcIsiM2mDev} (h : m.outActive = []) : retireDst m = m := by
  unfold retireDst
  rw [h]

theorem enabled_frameWriteDone (m : MxcIsiM2mDev) :
    (mxcIsiM2mFrameWriteDone m).isi.m2mEnabled = m.isi.m2mEnabled := by
  unfold mxcIsiM2mFrameWriteDone
  split
  · rfl
  · split
    · rfl
    · refine (activateDst_getD_frame _ _).2.2.trans ?_
      unfold retireDst
      split
      · rfl
      · rfl

theorem enabled_startStreaming (m : MxcIsiM2mDev) (type : QueueType) (count : Nat) :
    (m2mVb2StartStreaming m type count).1.isi.m2mEnabled = m.isi.m2mEnabled := by
  cases type with
  | output => rfl
  | capture =>
      unfold m2mVb2StartStreaming
      dsimp only
      split_ifs
      · rfl
      · rcases h₁ : activateDst m 0#32 with _ | m₁
        · rfl
        · dsimp only
          rcases h₂ : activateDst m₁ 1#32 with _ | m₂
          · exact (activateDst_frame h₁).2.2
          · exact (activateDst_frame h₂).2.2.trans (activateDst_frame h₁).2.2

theorem enabled_setQueue (m : MxcIsiM2mDev) (type : QueueType) (q : M2mQueueCtx) :
    (setQueue m type q).isi = m.isi := by
  cases type <;> rfl

theorem enabled_vb2Streamon (m : MxcIsiM2mDev) (type : QueueType) :
    (vb2Streamon m type).1.isi.m2mEnabled = m.isi.m2mEnabled := by
  unfold vb2Streamon
  dsimp only
  split_ifs
  · rfl
  · have hstart := enabled_startStreaming (setQueue m type
      ((queueOf m type).queued.foldl enqueueInDriver { queueOf m type with queued := [] })) type
      ((queueOf m type).queued.foldl enqueueInDriver
        { queueOf m type with queued := [] }).owned.length
    rw [enabled_setQueue] at hstart
    split
    · rename_i m' hrun
      rw [hrun] at hstart
      rw [enabled_setQueue]
      exact hstart
    · rename_i m' e hrun
      rw [hrun] at hstart
      rw [enabled_setQueue]
      exact hstart

theorem enabled_streamon (m : MxcIsiM2mDev) (type : QueueType) (refuse : Option Errno) :
    (mxcIsiM2mStreamon m type refuse).1.isi.m2mEnabled = m.isi.m2mEnabled := by
  obtain ⟨isi, hconfig, henabled⟩ := channelConfig_frame { m with frameCount := 0#32 }
  unfold mxcIsiM2mStreamon
  split_ifs
  · rfl
  · cases type with
    | output =>
        cases refuse with
        | some e => rfl
        | none => exact enabled_vb2Streamon m .output
    | capture =>
        dsimp only
        rw [hconfig]
        cases refuse with
        | some e => exact henabled
        | none => exact (enabled_vb2Streamon _ .capture).trans henabled

theorem streamon_streaming {m : MxcIsiM2mDev} {type : QueueType}
    (h : (queueOf m type).streaming = true) (refuse : Option Errno) :
    (mxcIsiM2mStreamon m type refuse).1.src = m.src ∧
      (mxcIsiM2mStreamon m type refuse).1.dst = m.dst := by
  obtain ⟨isi, hconfig, -⟩ := channelConfig_frame { m with frameCount := 0#32 }
  unfold mxcIsiM2mStreamon
  split_ifs
  · exact ⟨rfl, rfl⟩
  · cases type with
    | output =>
        cases refuse with
        | some e => exact ⟨rfl, rfl⟩
        | none =>
            have hkept : vb2Streamon m .output = (m, .ok ()) := if_pos h
            dsimp only
            rw [hkept]
            exact ⟨rfl, rfl⟩
    | capture =>
        dsimp only
        rw [hconfig]
        cases refuse with
        | some e => exact ⟨rfl, rfl⟩
        | none =>
            have hkept : vb2Streamon { m with frameCount := 0#32, isi := isi } .capture =
                ({ m with frameCount := 0#32, isi := isi }, .ok ()) := if_pos h
            dsimp only
            rw [hkept]
            exact ⟨rfl, rfl⟩

end Frames

section Guard

variable {s : M2mNode}

theorem jobGuarded_of_idle (henabled : s.dev.isi.m2mEnabled = true)
    (hrunning : s.running = false) : JobGuarded s :=
  ⟨henabled, fun h => absurd (hrunning.symm.trans h) Bool.false_ne_true,
    fun h => absurd (hrunning.symm.trans h) Bool.false_ne_true⟩

theorem isi_streamoff (m : MxcIsiM2mDev) (type : QueueType) :
    (v4l2M2mStreamoff m type).isi = m.isi := by
  unfold v4l2M2mStreamoff
  dsimp only
  rw [enabled_setQueue]
  split_ifs
  · rfl
  · rfl

theorem jobGuarded_step {op : M2mOp} (h : JobGuarded s) (hop : M2mContract s op) :
    JobGuarded (m2mStep s op) := by
  cases op with
  | qbuf type i planes =>
      cases type with
      | output =>
          refine ⟨h.enabled, fun hrun => ?_, fun hrun => ?_⟩
          · obtain ⟨hsrc, hdst⟩ := h.ready hrun
            exact ⟨qbuf_ready_ne_nil i planes hsrc, hdst⟩
          · obtain ⟨hsrc, hdst⟩ := h.streams hrun
            exact ⟨(qbuf_keeps_streaming s.dev.src i planes).trans hsrc, hdst⟩
      | capture =>
          refine ⟨h.enabled, fun hrun => ?_, fun hrun => ?_⟩
          · obtain ⟨hsrc, hdst⟩ := h.ready hrun
            exact ⟨hsrc, qbuf_ready_ne_nil i planes hdst⟩
          · obtain ⟨hsrc, hdst⟩ := h.streams hrun
            exact ⟨hsrc, (qbuf_keeps_streaming s.dev.dst i planes).trans hdst⟩
  | streamon type refuse =>
      have henabled := (enabled_streamon s.dev type refuse).trans h.enabled
      by_cases hrunning : s.running = true
      · obtain ⟨hsrc, hdst⟩ := h.streams hrunning
        have hqueue : (queueOf s.dev type).streaming = true := by
          cases type with
          | output => exact hsrc
          | capture => exact hdst
        obtain ⟨hsrcSame, hdstSame⟩ := streamon_streaming hqueue refuse
        refine ⟨henabled, fun _ => ?_, fun _ => ?_⟩
        · change (mxcIsiM2mStreamon s.dev type refuse).1.src.ready ≠ [] ∧
            (mxcIsiM2mStreamon s.dev type refuse).1.dst.ready ≠ []
          rw [hsrcSame, hdstSame]
          exact h.ready hrunning
        · change (mxcIsiM2mStreamon s.dev type refuse).1.src.streaming = true ∧
            (mxcIsiM2mStreamon s.dev type refuse).1.dst.streaming = true
          rw [hsrcSame, hdstSame]
          exact ⟨hsrc, hdst⟩
      · exact jobGuarded_of_idle henabled (Bool.eq_false_of_not_eq_true hrunning)
  | cancelJob type =>
      change JobGuarded (cancelJob s type)
      unfold cancelJob
      cases type with
      | output =>
          dsimp only
          split_ifs
          · exact ⟨h.enabled, h.ready, h.streams⟩
          · exact ⟨h.enabled, h.ready, h.streams⟩
      | capture =>
          dsimp only
          split_ifs
          · exact ⟨h.enabled, h.ready, h.streams⟩
          · exact ⟨h.enabled, h.ready, h.streams⟩
  | streamoff type =>
      refine jobGuarded_of_idle ?_ hop
      change (v4l2M2mStreamoff s.dev type).isi.m2mEnabled = true
      rw [isi_streamoff]
      exact h.enabled
  | deviceRun =>
      obtain ⟨hsrc, hdst, hjob, -, -⟩ := hop
      unfold mxcIsiM2mJobReady at hjob
      rw [Bool.and_eq_true, decide_eq_true_eq, decide_eq_true_eq] at hjob
      have hsrcReady : s.dev.src.ready ≠ [] := List.length_pos_iff.mp hjob.1
      obtain ⟨i, rest, hready⟩ := List.exists_cons_of_ne_nil hsrcReady
      change JobGuarded { s with dev := mxcIsiM2mDeviceRun s.dev, running := true }
      unfold mxcIsiM2mDeviceRun
      rw [hready]
      refine ⟨(m2mEnabled_channelEnable _ _).trans h.enabled, fun _ => ⟨hsrcReady, ?_⟩,
        fun _ => ⟨hsrc, hdst⟩⟩
      exact List.length_pos_iff.mp hjob.2
  | frameDone status =>
      change JobGuarded (frameDone s status)
      by_cases hidle : s.running = false ∨ status &&& chnlStsFrmStrdMask = 0#32
      · rw [frameDone_idle hidle]
        exact ⟨h.enabled, h.ready, h.streams⟩
      · obtain ⟨hrunning, hstored⟩ := not_or.mp hidle
        rw [frameDone_stored (Bool.eq_true_of_not_eq_false hrunning) hstored h.enabled]
        exact jobGuarded_of_idle ((enabled_frameWriteDone _).trans h.enabled) rfl

end Guard

section Accounts

variable {s : M2mNode} {status : U32}

theorem outbufSlot_iff {isi : MxcIsiDev} (hone : ReportsOne isi.status) {slot : MxcIsiBufId}
    (hfree : slotActive isi slot = false) (n : U32) :
    (outbufSlot isi n = some slot ↔ (n = 0#32 → slot = .buf1) ∧ (n = 1#32 → slot = .buf2)) ∧
      ∃ slot', outbufSlot isi n = some slot' := by
  have htwo := isBufActive_two hone
  unfold slotActive at hfree
  unfold outbufSlot
  rcases hactive : isBufActive isi 1 with _ | _
  · rw [hactive] at htwo
    cases slot with
    | buf1 =>
        by_cases h0 : n = 0#32
        · subst h0
          simp
        · by_cases h1 : n = 1#32
          · subst h1
            simp
          · simp [h0, h1, htwo]
    | buf2 =>
        rw [htwo, hactive] at hfree
        exact absurd hfree (by decide)
  · rw [hactive] at htwo
    cases slot with
    | buf1 =>
        rw [htwo, hactive] at hfree
        exact absurd hfree (by decide)
    | buf2 =>
        by_cases h0 : n = 0#32
        · subst h0
          simp
        · by_cases h1 : n = 1#32
          · subst h1
            simp
          · simp [h0, h1, htwo]

theorem ne_concat {α : Type} (l : List α) (x : α) : l ≠ l ++ [x] := by
  intro h
  have hlength := congrArg List.length h
  simp at hlength

theorem completed_frameWriteDone {m : MxcIsiM2mDev} (hactive : m.outActive = []) :
    (mxcIsiM2mFrameWriteDone m).dst.completed = m.dst.completed := by
  unfold mxcIsiM2mFrameWriteDone
  split
  · rfl
  · split
    · rfl
    · rename_i i rest _
      dsimp only
      rw [@retireDst_nil { m with src := vb2BufferDone { m.src with ready := rest } i .done }
        hactive]
      exact (activateDst_getD_frame _ _).2.1

theorem accounted_active (h : JobGuarded s) (hrunning : s.running = true)
    (habort : s.dev.aborting = false) (hone : ReportsOne status)
    (hfree : slotActive { s.dev.isi with status := status } s.nextSlot = false)
    {a : Nat} {active : List Nat} (hactive : s.dev.outActive = a :: active) :
    Accounted s ⟨mxcIsiM2mFrameWriteDone (latched s.dev status), false, s.cancelling,
        otherSlot s.nextSlot⟩ ↔
      (s.dev.frameCount + 1#32 = 0#32 → s.nextSlot = .buf1) ∧
        (s.dev.frameCount + 1#32 = 1#32 → s.nextSlot = .buf2) := by
  obtain ⟨hsrcReady, hdstReady⟩ := h.ready hrunning
  obtain ⟨i, rest, hsrc⟩ := List.exists_cons_of_ne_nil hsrcReady
  obtain ⟨c, pending, hdst⟩ := List.exists_cons_of_ne_nil hdstReady
  obtain ⟨hslot, slot, hchosen⟩ :=
    @outbufSlot_iff (latched s.dev status).isi hone s.nextSlot hfree (s.dev.frameCount + 1#32)
  obtain ⟨m, hrun, hm⟩ := @activateDst_some (retired (latched s.dev status) i rest a active)
    (s.dev.frameCount + 1#32) c pending slot hdst hchosen
  rw [@frameWriteDone_eq (latched s.dev status) habort i a rest active hsrc hactive]
  change Accounted s ⟨(activateDst (retired (latched s.dev status) i rest a active)
    (s.dev.frameCount + 1#32)).getD _, false, s.cancelling, otherSlot s.nextSlot⟩ ↔ _
  rw [hrun, Option.getD_some, ← hslot, hchosen, Option.some.injEq]
  constructor
  · rintro ⟨-, -, moved, -, hready, -, hplaced⟩
    change s.dev.dst.ready = moved ++ m.dst.ready at hready
    rw [hdst, hm.ready] at hready
    have hmoved : [c] = moved := @List.append_cancel_right _ _ pending _ hready
    rw [← hm.id]
    exact (hplaced c (hmoved ▸ List.mem_singleton.mpr rfl)).1
  · rintro rfl
    refine ⟨⟨i, ?_⟩, ⟨a, hm.completed⟩, [c], Nat.le_refl 1, ?_, ?_, ?_⟩
    · change m.src.completed = _
      rw [hm.src]
      rfl
    · change s.dev.dst.ready = [c] ++ m.dst.ready
      rw [hdst, hm.ready]
      rfl
    · change m.outActive = s.dev.outActive.tail ++ [c]
      rw [hm.active, hactive]
      rfl
    · intro k hk
      obtain rfl := List.mem_singleton.mp hk
      exact ⟨hm.id, hm.addr⟩

theorem accounted_iff (h : JobGuarded s) (hop : M2mContract s (.frameDone status))
    (hends : EndsJob s status) :
    Accounted s (m2mStep s (.frameDone status)) ↔
      s.dev.aborting = false ∧ s.dev.outActive ≠ [] ∧
        (s.dev.frameCount + 1#32 = 0#32 → s.nextSlot = .buf1) ∧
        (s.dev.frameCount + 1#32 = 1#32 → s.nextSlot = .buf2) := by
  obtain ⟨hrunning, hstored, -⟩ := hends
  obtain ⟨hone, hfree⟩ := hop hrunning hstored
  change Accounted s (frameDone s status) ↔ _
  rw [frameDone_stored hrunning hstored h.enabled]
  rcases habort : s.dev.aborting with _ | _
  · rcases hactive : s.dev.outActive with _ | ⟨a, active⟩
    · -- no buffer is active, so none is done
      constructor
      · rintro ⟨-, ⟨i, hdone⟩, -⟩
        have hsame := @completed_frameWriteDone (latched s.dev status) hactive
        exact absurd (hsame.symm.trans hdone) (ne_concat _ _)
      · rintro ⟨-, hne, -⟩
        exact absurd rfl hne
    · rw [accounted_active h hrunning habort hone hfree hactive]
      simp
  · -- the job is ended as an aborted one
    constructor
    · rintro ⟨⟨i, hdone⟩, -⟩
      have hrun : mxcIsiM2mFrameWriteDone (latched s.dev status) =
          { latched s.dev status with
            isi := mxcIsiChannelDisable (latched s.dev status).isi } := if_pos habort
      rw [hrun] at hdone
      exact absurd hdone (ne_concat _ _)
    · rintro ⟨hclear, -⟩
      exact absurd hclear nofun

end Accounts

/-- The jobs of a run are accounted for exactly when each of them finds the driver's state
put right. -/
theorem jobs_accounted_iff {s : M2mNode} (hs : FreshNode s) (ops : List M2mOp)
    (hops : Along m2mStep M2mContract s ops) :
    Along m2mStep JobAccounted s ops ↔ Along m2mStep JobFits s ops := by
  have hstart : JobGuarded s := jobGuarded_of_idle hs.enabled hs.running
  have hexact : ∀ s op, JobGuarded s → M2mContract s op → (JobAccounted s op ↔ JobFits s op) := by
    intro s op h hop
    cases op with
    | frameDone status => exact forall_congr' fun hends => accounted_iff h hop hends
    | qbuf type i planes => exact Iff.rfl
    | streamon type refuse => exact Iff.rfl
    | cancelJob type => exact Iff.rfl
    | streamoff type => exact Iff.rfl
    | deviceRun => exact Iff.rfl
  refine along_iff_along (fun s op h hop hfits => ?_) (fun s op h hop => (hexact s op h hop).mp)
    hstart hops
  exact ⟨(hexact s op h hop).mpr hfits, jobGuarded_step h hop⟩

section Runs

instance (s : M2mNode) : ∀ op, Decidable (JobFits s op)
  | .frameDone status => inferInstanceAs (Decidable ((s.running = true ∧
      status &&& chnlStsFrmStrdMask ≠ 0#32 ∧ s.cancelling = false) →
      s.dev.aborting = false ∧ s.dev.outActive ≠ [] ∧
      (s.dev.frameCount + 1#32 = 0#32 → s.nextSlot = .buf1) ∧
      (s.dev.frameCount + 1#32 = 1#32 → s.nextSlot = .buf2)))
  | .qbuf _ _ _ => inferInstanceAs (Decidable True)
  | .streamon _ _ => inferInstanceAs (Decidable True)
  | .cancelJob _ => inferInstanceAs (Decidable True)
  | .streamoff _ => inferInstanceAs (Decidable True)
  | .deviceRun => inferInstanceAs (Decidable True)

/-- A job that is aborted, a restart of both queues, and a job. -/
def restartedRun : List M2mOp :=
  m2mPrologue ++ [.deviceRun, .cancelJob .output, .frameDone 0x20000200#32,
    .streamoff .output, .streamoff .capture] ++ m2mPrologue ++
    [.deviceRun, .frameDone 0x20000200#32]

theorem jobs_accounted_restarted : Along m2mStep JobAccounted boardM2m restartedRun :=
  (jobs_accounted_iff freshNode_boardM2m restartedRun (by decide +kernel)).mpr
    (by decide +kernel)

/-- A job that is aborted, a restart of the OUTPUT queue alone, and a job. -/
def abortedRun : List M2mOp :=
  m2mPrologue ++ [.deviceRun, .cancelJob .output, .frameDone 0x20000200#32,
    .streamoff .output, .qbuf .capture 0 [⟨0x1000#32, 0#32⟩],
    .qbuf .output 0 [⟨0x4000#32, 0#32⟩], .streamon .output none, .deviceRun]

/-- The second job completes nothing. -/
theorem stickyAbort_completes_nothing :
    Along m2mStep M2mContract boardM2m (abortedRun ++ [.frameDone 0x20000100#32]) ∧
      ¬JobAccounted (exec m2mStep boardM2m abortedRun) (.frameDone 0x20000100#32) := by
  refine ⟨by decide +kernel, fun h => ?_⟩
  have hends : EndsJob (exec m2mStep boardM2m abortedRun) 0x20000100#32 := by
    refine ⟨?_, ?_, ?_⟩
    · decide +kernel
    · decide
    · decide +kernel
  obtain ⟨i, hdone⟩ := (h hends).src
  have hlength := congrArg List.length hdone
  rw [List.length_append, List.length_singleton] at hlength
  revert hlength
  decide +kernel

end Runs

end CameraPorting.Isi.Mem2memJobs
