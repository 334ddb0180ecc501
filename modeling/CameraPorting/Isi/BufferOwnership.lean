import CameraPorting.Isi.CaptureStream

namespace CameraPorting.Isi.BufferOwnership

open CameraPorting.Kernel.Media
open CameraPorting.Isi.Device
open CameraPorting.Isi.CaptureQueue
open CameraPorting.Isi.BufferRotation
open CameraPorting.Isi.CaptureStream
open CameraPorting.Isi.Formats
open CameraPorting.Library.Runs
open CameraPorting.Library.SlotRotation

/-- `owned` are the buffers vb2 counts in `owned_by_drv_count`, `queued` all it
ever handed over, `takenBack` those it took back after a failed start. -/
structure Vb2Capture where
  cap : MxcIsiCapDev
  owned : List BufRef
  streaming : Bool
  queued : List BufRef
  takenBack : List BufRef

inductive Vb2Op where
  | bufQueue (index : Nat)
  | startStreaming (hostdata : Bool) (alloc : Nat → Option U32)
  | frameDone (status : U32)
  | stopStreaming

/-- vb2 after the driver turned its device into `cap`: the buffers completed
meanwhile are its own again. -/
def settle (s : Vb2Capture) (cap : MxcIsiCapDev) : Vb2Capture :=
  { s with
    cap := cap
    owned := s.owned.diff ((cap.completed.drop s.cap.completed.length).map Prod.fst) }

def vb2Step (s : Vb2Capture) : Vb2Op → Vb2Capture
  | .bufQueue i =>
      { s with
        cap := capVb2BufferQueue s.cap (.user i)
        owned := s.owned ++ [.user i]
        queued := s.queued ++ [.user i] }
  | .startStreaming hostdata alloc =>
      match capVb2StartStreaming s.cap hostdata alloc s.owned.length with
      | (cap, .ok ()) => { s with cap := cap, streaming := true }
      | (cap, .error _) =>
          { s with cap := cap, owned := [], takenBack := s.takenBack ++ s.owned }
  | .frameDone status => settle s (mxcIsiIrqHandler s.cap status)
  | .stopStreaming =>
      { settle s (capVb2StopStreaming s.cap) with streaming := false }

/-- What vb2 promises: it hands over no buffer the driver owns, starts an idle
queue and stops a started one. -/
def Vb2Contract (s : Vb2Capture) : Vb2Op → Prop
  | .bufQueue i => BufRef.user i ∉ s.owned
  | .startStreaming _ _ => s.streaming = false
  | .frameDone _ => True
  | .stopStreaming => s.streaming = true

instance (s : Vb2Capture) : ∀ op, Decidable (Vb2Contract s op)
  | .bufQueue i => inferInstanceAs (Decidable (BufRef.user i ∉ s.owned))
  | .startStreaming _ _ => inferInstanceAs (Decidable (s.streaming = false))
  | .frameDone _ => inferInstanceAs (Decidable True)
  | .stopStreaming => inferInstanceAs (Decidable (s.streaming = true))

/-- The two sides agree on who owns what, and each buffer handed over is owned
by the driver or was given back once. -/
structure Ownership (s : Vb2Capture) : Prop where
  nodup : (s.cap.outPending ++ s.cap.outActive ++ s.cap.outDiscard).Nodup
  owned : s.owned.Perm ((s.cap.outPending ++ s.cap.outActive).filter BufRef.isUser)
  conserved : s.queued.Perm (s.owned ++ s.cap.completed.map Prod.fst ++ s.takenBack)

/-- The ownership after a step, where a stop leaves the driver no buffer. -/
def Balanced (s : Vb2Capture) (op : Vb2Op) : Prop :=
  Ownership (vb2Step s op) ∧ (op = .stopStreaming → (vb2Step s op).owned = [])

/-- A start either finds no buffer handed over, or succeeds. -/
def StartKeepsBuffers (s : Vb2Capture) : Vb2Op → Prop
  | .startStreaming hostdata alloc =>
      s.owned = [] ∨ 2 ≤ s.owned.length ∧ hostdata = true ∧
        ∀ i, i < s.cap.pix.numPlanes → (alloc i).isSome = true
  | _ => True

structure Books (s : Vb2Capture) : Prop where
  sorted : (bufRotation s.cap).Sorted isDiscard
  flags : ∀ i, (s.cap.buf (.user i)).discard = false
  distinct : s.owned.Nodup
  owned : s.owned.Perm ((s.cap.outPending ++ s.cap.outActive).filter BufRef.isUser)
  conserved : s.queued.Perm (s.owned ++ s.cap.completed.map Prod.fst ++ s.takenBack)
  idle : s.streaming = false → s.cap.outActive = [] ∧ s.cap.outDiscard = []
  running : s.streaming = true → Marked s.cap ∧
    (bufRotation s.cap).Full isDiscard discardNodes

theorem Books.count_user {s : Vb2Capture} (h : Books s) (i : Nat) :
    s.cap.outPending.count (.user i) + s.cap.outActive.count (.user i) =
      s.owned.count (.user i) := by
  rw [h.owned.count_eq, List.count_filter (BufRef.isUser_user i), List.count_append]

theorem Books.nodup {s : Vb2Capture} (h : Books s) :
    (s.cap.outPending ++ s.cap.outActive ++ s.cap.outDiscard).Nodup := by
  have hheld : ∀ i, s.cap.outPending.count (.user i) +
      s.cap.outActive.count (.user i) ≤ 1 := by
    intro i
    rw [h.count_user]
    exact List.nodup_iff_count_le_one.mp h.distinct (.user i)
  rcases hstreaming : s.streaming with _ | _
  · obtain ⟨hactive, hdiscard⟩ := h.idle hstreaming
    rw [hactive, hdiscard, List.append_nil, List.append_nil]
    refine List.nodup_iff_count_le_one.mpr fun r => ?_
    cases r with
    | user i => exact Nat.le_of_add_right_le (hheld i)
    | discard k =>
        have hpending : s.cap.outPending.count (.discard k) = 0 :=
          h.sorted.count_pending (isDiscard_discard k)
        omega
  · obtain ⟨hmarked, hfull⟩ := h.running hstreaming
    exact Rotating.nodup ⟨hmarked, h.sorted, hfull, hheld⟩

theorem Books.ownership {s : Vb2Capture} (h : Books s) : Ownership s :=
  ⟨h.nodup, h.owned, h.conserved⟩

structure Fresh (s : Vb2Capture) : Prop where
  lists : s.cap.outPending = [] ∧ s.cap.outActive = [] ∧ s.cap.outDiscard = []
  flags : ∀ i, (s.cap.buf (.user i)).discard = false
  books : s.owned = [] ∧ s.queued = [] ∧ s.takenBack = [] ∧ s.cap.completed = []
  streaming : s.streaming = false

theorem Fresh.books_hold {s : Vb2Capture} (h : Fresh s) : Books s := by
  obtain ⟨⟨hpending, hactive, hdiscard⟩, hflags, ⟨howned, hqueued, htaken, hdone⟩, hidle⟩ := h
  refine ⟨⟨?_, ?_⟩, hflags, ?_, ?_, ?_, fun _ => ⟨hactive, hdiscard⟩, ?_⟩
  · intro r hr
    change r ∈ s.cap.outPending at hr
    rw [hpending] at hr
    exact absurd hr List.not_mem_nil
  · intro r hr
    change r ∈ s.cap.outDiscard at hr
    rw [hdiscard] at hr
    exact absurd hr List.not_mem_nil
  · rw [howned]
    exact List.nodup_nil
  · rw [howned, hpending, hactive]
    rfl
  · rw [hqueued, howned, htaken, hdone]
    rfl
  · intro hstreaming
    rw [hidle] at hstreaming
    cases hstreaming

theorem books_bufQueue {s : Vb2Capture} (h : Books s) {i : Nat}
    (hi : BufRef.user i ∉ s.owned) : Books (vb2Step s (.bufQueue i)) := by
  have hmarks := sameNodes_bufferQueue s.cap (.user i)
  refine ⟨h.sorted.enqueue rfl, fun j => (hmarks _).1.trans (h.flags j), ?_, ?_, ?_,
    h.idle, fun hs => ⟨hmarks.marked (h.running hs).1, (h.running hs).2.enqueue _⟩⟩
  · exact List.nodup_append.mpr ⟨h.distinct, List.nodup_singleton _, by
      intro r hr r' hr' heq
      rw [List.mem_singleton.mp hr'] at heq
      exact hi (heq ▸ hr)⟩
  · refine List.perm_iff_count.mpr fun r => ?_
    have hcount := h.owned.count_eq r
    simp only [vb2Step, capVb2BufferQueue, List.filter_append, List.count_append] at hcount ⊢
    have hself : [BufRef.user i].filter BufRef.isUser = [.user i] := rfl
    rw [hself]
    omega
  · refine List.perm_iff_count.mpr fun r => ?_
    have hcount := h.conserved.count_eq r
    simp only [vb2Step, capVb2BufferQueue, List.count_append] at hcount ⊢
    omega

/-- What a settled step leaves of the books, when the driver delivered `new`. -/
theorem books_settle {s : Vb2Capture} (h : Books s) {cap : MxcIsiCapDev}
    {new : List BufRef}
    (hnew : Rotation.Delivers isDiscard (bufRotation s.cap) (bufRotation cap) new)
    (hsorted : (bufRotation cap).Sorted isDiscard) :
    (settle s cap).owned.Nodup ∧
      (settle s cap).owned.Perm ((cap.outPending ++ cap.outActive).filter BufRef.isUser) ∧
      s.queued.Perm
        ((settle s cap).owned ++ cap.completed.map Prod.fst ++ s.takenBack) := by
  have howned : (settle s cap).owned = s.owned.diff new := by
    have hcompleted : cap.completed.map Prod.fst =
        s.cap.completed.map Prod.fst ++ new := hnew.completed
    have hdrop := congrArg (List.drop s.cap.completed.length) hcompleted
    rw [← List.map_drop, List.drop_left' (by simp)] at hdrop
    simp only [settle]
    rw [hdrop]
  have huser : ∀ i, (s.owned.diff new).count (.user i) =
      cap.outPending.count (.user i) + cap.outActive.count (.user i) ∧
      new.count (.user i) ≤ s.owned.count (.user i) := by
    intro i
    have hbefore := h.count_user i
    have htally := hnew.tally (.user i) rfl
    have hcompleted := hnew.count_completed (.user i)
    have hspare := h.sorted.count_spare (isDiscard_user i)
    have hspare' := hsorted.count_spare (isDiscard_user i)
    simp only [Rotation.tally, bufRotation] at htally hcompleted hspare hspare'
    rw [List.count_diff]
    omega
  have hdiscard : ∀ k, new.count (.discard k) = 0 ∧ s.owned.count (.discard k) = 0 := by
    intro k
    refine ⟨List.count_eq_zero.mpr fun hmem => ?_, ?_⟩
    · exact Bool.noConfusion (hnew.users _ hmem)
    · rw [h.owned.count_eq]
      refine List.count_eq_zero.mpr fun hmem => ?_
      exact Bool.noConfusion (List.mem_filter.mp hmem).2
  rw [howned]
  refine ⟨h.distinct.diff, ?_, ?_⟩
  · refine List.perm_iff_count.mpr fun r => ?_
    cases r with
    | user i =>
        rw [(huser i).1, List.count_filter (BufRef.isUser_user i), List.count_append]
    | discard k =>
        rw [List.count_diff, (hdiscard k).2, Nat.zero_sub]
        refine (List.count_eq_zero.mpr fun hmem => ?_).symm
        exact Bool.noConfusion (List.mem_filter.mp hmem).2
  · refine List.perm_iff_count.mpr fun r => ?_
    have hcount := h.conserved.count_eq r
    have hcompleted : (cap.completed.map Prod.fst).count r =
        (s.cap.completed.map Prod.fst).count r + new.count r :=
      hnew.count_completed r
    simp only [List.count_append] at hcount ⊢
    rw [List.count_diff]
    cases r with
    | user i =>
        have hle := (huser i).2
        omega
    | discard k =>
        have hzero := hdiscard k
        omega

theorem books_frameDone {s : Vb2Capture} (h : Books s) (status : U32) :
    Books (vb2Step s (.frameDone status)) := by
  have hmarks := sameNodes_irqHandler s.cap status
  have hflags : ∀ i, ((mxcIsiIrqHandler s.cap status).buf (.user i)).discard = false :=
    fun i => (hmarks _).1.trans (h.flags i)
  rcases hstreaming : s.streaming with _ | _
  · obtain ⟨hactive, hdiscard⟩ := h.idle hstreaming
    obtain ⟨hpending', hactive', hdiscard', hcompleted'⟩ :=
      irqHandler_idle s.cap status hactive
    have hnew : Rotation.Delivers isDiscard (bufRotation s.cap)
        (bufRotation (mxcIsiIrqHandler s.cap status)) [] := by
      refine ⟨?_, fun _ hr => absurd hr List.not_mem_nil, fun r _ => ?_⟩
      · simp [bufRotation, hcompleted']
      · simp [Rotation.tally, bufRotation, hpending', hactive', hdiscard', hcompleted']
    have hsorted : (bufRotation (mxcIsiIrqHandler s.cap status)).Sorted isDiscard := by
      refine ⟨fun r hr => h.sorted.pending_user r ?_, fun r hr => h.sorted.spare_spare r ?_⟩
      · change r ∈ s.cap.outPending
        rw [← hpending']
        exact hr
      · change r ∈ s.cap.outDiscard
        rw [← hdiscard']
        exact hr
    obtain ⟨hdistinct, howned, hconserved⟩ := books_settle h hnew hsorted
    refine ⟨hsorted, hflags, hdistinct, howned, hconserved, fun _ => ?_, fun hs => ?_⟩
    · exact ⟨hactive'.trans hactive, hdiscard'.trans hdiscard⟩
    · exact absurd (hstreaming.symm.trans hs) Bool.false_ne_true
  · obtain ⟨hmarked, hfull⟩ := h.running hstreaming
    have hnext : ∃ new, Rotation.Delivers isDiscard (bufRotation s.cap)
          (bufRotation (mxcIsiIrqHandler s.cap status)) new ∧
        (bufRotation (mxcIsiIrqHandler s.cap status)).Sorted isDiscard ∧
        (bufRotation (mxcIsiIrqHandler s.cap status)).Full isDiscard discardNodes := by
      rcases rotation_irqHandler hmarked status with hrot | hrot <;> rw [hrot]
      · exact ⟨[], Rotation.delivers_refl, h.sorted, hfull⟩
      · obtain ⟨new, hnew⟩ := Rotation.exists_delivers_advance isDiscard (bufRotation s.cap)
        exact ⟨new, hnew, h.sorted.advance,
          (hfull.advance h.sorted (List.cons_ne_nil _ _)).1⟩
    obtain ⟨new, hnew, hsorted, hfull'⟩ := hnext
    obtain ⟨hdistinct, howned, hconserved⟩ := books_settle h hnew hsorted
    refine ⟨hsorted, hflags, hdistinct, howned, hconserved, fun hs => ?_,
      fun _ => ⟨hmarks.marked hmarked, hfull'⟩⟩
    exact absurd (hs.symm.trans hstreaming) Bool.false_ne_true

theorem books_stopStreaming {s : Vb2Capture} (h : Books s)
    (hstreaming : s.streaming = true) :
    Books (vb2Step s .stopStreaming) ∧ (vb2Step s .stopStreaming).owned = [] := by
  obtain ⟨hmarked, -⟩ := h.running hstreaming
  obtain ⟨hmarks, hrot, -⟩ := stopStreaming_spec hmarked
  have hsorted : (bufRotation (capVb2StopStreaming s.cap)).Sorted isDiscard := by
    rw [hrot]
    exact Rotation.sorted_drain
  have hnew := Rotation.delivers_drain h.sorted
  rw [← hrot] at hnew
  obtain ⟨hdistinct, howned, hconserved⟩ := books_settle h hnew hsorted
  refine ⟨⟨hsorted, fun i => (hmarks _).1.trans (h.flags i), hdistinct, howned,
    hconserved, fun _ => ⟨rfl, rfl⟩, fun hs => ?_⟩, List.perm_nil.mp howned⟩
  exact absurd hs Bool.false_ne_true

theorem Books.startable {s : Vb2Capture} (h : Books s) (hidle : s.streaming = false) :
    Startable s.cap := by
  obtain ⟨hactive, hdiscard⟩ := h.idle hidle
  have hnodup := h.nodup
  rw [hactive, hdiscard, List.append_nil, List.append_nil] at hnodup
  refine ⟨hactive, hdiscard, hnodup, fun r hr => ?_, h.flags⟩
  simpa [isDiscard] using h.sorted.pending_user r hr

theorem Books.owned_pending {s : Vb2Capture} (h : Books s)
    (hidle : s.streaming = false) : s.owned.Perm s.cap.outPending := by
  have hstart := h.startable hidle
  have howned := h.owned
  rw [hstart.active, List.append_nil] at howned
  rwa [List.filter_eq_self.mpr hstart.users] at howned

theorem vb2Step_started {s : Vb2Capture} {started : MxcIsiCapDev} {hostdata : Bool}
    {alloc : Nat → Option U32}
    (h : capVb2StartStreaming s.cap hostdata alloc s.owned.length = (started, .ok ())) :
    vb2Step s (.startStreaming hostdata alloc) =
      { s with cap := started, streaming := true } := by
  simp only [vb2Step, h]

theorem vb2Step_startFailed {s : Vb2Capture} {failed : MxcIsiCapDev} {hostdata : Bool}
    {alloc : Nat → Option U32} {e : Errno}
    (h : capVb2StartStreaming s.cap hostdata alloc s.owned.length = (failed, .error e)) :
    vb2Step s (.startStreaming hostdata alloc) =
      { s with cap := failed, owned := [], takenBack := s.takenBack ++ s.owned } := by
  simp only [vb2Step, h]

theorem books_started {s : Vb2Capture} (h : Books s) (hidle : s.streaming = false)
    {started : MxcIsiCapDev} {hostdata : Bool} {alloc : Nat → Option U32}
    (hstart : capVb2StartStreaming s.cap hostdata alloc s.owned.length =
      (started, .ok ())) :
    Books { s with cap := started, streaming := true } := by
  rw [(h.owned_pending hidle).length_eq] at hstart
  obtain ⟨hrotating, heffect⟩ := rotating_startStreaming (h.startable hidle) hstart
  have hcompleted : started.completed.map Prod.fst = s.cap.completed.map Prod.fst := by
    rw [heffect.completed, List.append_nil]
  refine ⟨hrotating.sorted, fun i => hrotating.marked (.user i), h.distinct, ?_, ?_,
    fun hs => absurd hs.symm Bool.false_ne_true,
    fun _ => ⟨hrotating.marked, hrotating.full⟩⟩
  · refine List.perm_iff_count.mpr fun r => ?_
    cases r with
    | user i =>
        have hbefore := h.count_user i
        have htally := heffect.tally i
        have hspare : started.outDiscard.count (.user i) = 0 :=
          hrotating.sorted.count_spare (isDiscard_user i)
        have hspare' : s.cap.outDiscard.count (.user i) = 0 :=
          h.sorted.count_spare (isDiscard_user i)
        change s.owned.count (.user i) =
          ((started.outPending ++ started.outActive).filter BufRef.isUser).count (.user i)
        rw [List.count_filter (BufRef.isUser_user i), List.count_append]
        simp only [Rotation.tally, bufRotation, hcompleted, List.count_nil] at htally
        omega
    | discard k =>
        rw [h.owned.count_eq]
        have hzero : ∀ l : List BufRef, (l.filter BufRef.isUser).count (.discard k) = 0 :=
          fun l => List.count_eq_zero.mpr fun hmem =>
            Bool.noConfusion (List.mem_filter.mp hmem).2
        rw [hzero, hzero]
  · change s.queued.Perm (s.owned ++ started.completed.map Prod.fst ++ s.takenBack)
    rw [hcompleted]
    exact h.conserved

theorem books_startFailed {s : Vb2Capture} (h : Books s) {failed : MxcIsiCapDev}
    {hostdata : Bool} {alloc : Nat → Option U32} {e : Errno}
    (hstart : capVb2StartStreaming s.cap hostdata alloc s.owned.length =
      (failed, .error e)) (howned : s.owned = []) :
    Books { s with cap := failed, owned := [], takenBack := s.takenBack ++ s.owned } := by
  obtain ⟨hrot, hmarks⟩ := startStreaming_error hstart
  have hpending : failed.outPending = s.cap.outPending := congrArg Rotation.pending hrot
  have hactive : failed.outActive = s.cap.outActive := congrArg Rotation.active hrot
  have hdiscard : failed.outDiscard = s.cap.outDiscard := congrArg Rotation.spare hrot
  have hcompleted : failed.completed.map Prod.fst = s.cap.completed.map Prod.fst :=
    congrArg Rotation.completed hrot
  refine ⟨?_, fun i => (hmarks _).1.trans (h.flags i), List.nodup_nil, ?_, ?_, ?_, ?_⟩
  · rw [hrot]
    exact h.sorted
  · change List.Perm [] ((failed.outPending ++ failed.outActive).filter BufRef.isUser)
    rw [hpending, hactive, ← howned]
    exact h.owned
  · change s.queued.Perm ([] ++ failed.completed.map Prod.fst ++ (s.takenBack ++ s.owned))
    rw [hcompleted, howned, List.append_nil]
    have hconserved := h.conserved
    rwa [howned] at hconserved
  · intro hs
    exact ⟨hactive.trans (h.idle hs).1, hdiscard.trans (h.idle hs).2⟩
  · intro hs
    refine ⟨hmarks.marked (h.running hs).1, ?_⟩
    rw [hrot]
    exact (h.running hs).2

theorem books_vb2Step {s : Vb2Capture} {op : Vb2Op} (h : Books s)
    (hop : Vb2Contract s op) (hkeep : StartKeepsBuffers s op) :
    Balanced s op ∧ Books (vb2Step s op) := by
  have hnext : Books (vb2Step s op) ∧
      (op = .stopStreaming → (vb2Step s op).owned = []) := by
    cases op with
    | bufQueue i => exact ⟨books_bufQueue h hop, fun heq => by cases heq⟩
    | frameDone status => exact ⟨books_frameDone h status, fun heq => by cases heq⟩
    | stopStreaming =>
        obtain ⟨hbooks, howned⟩ := books_stopStreaming h hop
        exact ⟨hbooks, fun _ => howned⟩
    | startStreaming hostdata alloc =>
        refine ⟨?_, fun heq => by cases heq⟩
        have hiff := startStreaming_ok_iff s.cap hostdata alloc s.owned.length
        rcases hstart : capVb2StartStreaming s.cap hostdata alloc s.owned.length with
          ⟨cap, e | u⟩
        · rw [hstart] at hiff
          rw [vb2Step_startFailed hstart]
          refine books_startFailed h hstart (hkeep.resolve_right fun hok => ?_)
          cases hiff.mpr hok
        · rw [vb2Step_started hstart]
          exact books_started h hop hstart
  exact ⟨⟨hnext.1.ownership, hnext.2⟩, hnext.1⟩

/-- A start that fails while buffers are handed over leaves them on
`out_pending`, where vb2 no longer counts them. -/
theorem startKeepsBuffers_of_balanced {s : Vb2Capture} {op : Vb2Op} (h : Books s)
    (hop : Vb2Contract s op) (hbalanced : Balanced s op) : StartKeepsBuffers s op := by
  cases op with
  | bufQueue i => trivial
  | frameDone status => trivial
  | stopStreaming => trivial
  | startStreaming hostdata alloc =>
      have hiff := startStreaming_ok_iff s.cap hostdata alloc s.owned.length
      have howned := hbalanced.1.owned
      rcases hstart : capVb2StartStreaming s.cap hostdata alloc s.owned.length with
        ⟨cap, e | u⟩
      · rw [vb2Step_startFailed hstart] at howned
        left
        change List.Perm [] ((cap.outPending ++ cap.outActive).filter BufRef.isUser)
          at howned
        obtain ⟨hrot, -⟩ := startStreaming_error hstart
        have hpending : cap.outPending = s.cap.outPending := congrArg Rotation.pending hrot
        have hactive : cap.outActive = s.cap.outActive := congrArg Rotation.active hrot
        rw [hpending, hactive] at howned
        exact List.perm_nil.mp (h.owned.trans howned.symm)
      · rw [hstart] at hiff
        exact .inr (hiff.mp rfl)

/-- Buffer ownership stays in step with vb2 through a run exactly when no start
of the run fails while buffers are handed over. -/
theorem ownership_iff_startKeepsBuffers {s : Vb2Capture} (hs : Fresh s)
    (ops : List Vb2Op) (hops : Along vb2Step Vb2Contract s ops) :
    Along vb2Step Balanced s ops ↔ Along vb2Step StartKeepsBuffers s ops :=
  along_iff_along (fun _ _ hI hE hC => books_vb2Step hI hE hC)
    (fun _ _ hI hE hQ => startKeepsBuffers_of_balanced hI hE hQ) hs.books_hold hops

def boardVb2 : Vb2Capture :=
  { cap := boardFormatted, owned := [], streaming := false, queued := [], takenBack := [] }

theorem fresh_boardVb2 : Fresh boardVb2 :=
  ⟨⟨rfl, rfl, rfl⟩, fun _ => rfl, ⟨rfl, rfl, rfl, rfl⟩, rfl⟩

def boardRun : List Vb2Op :=
  [.bufQueue 0, .bufQueue 1, .startStreaming true boardAlloc,
    .frameDone 0x20000200#32, .stopStreaming]

theorem ownership_boardRun : Along vb2Step Balanced boardVb2 boardRun := by
  refine (ownership_iff_startKeepsBuffers fresh_boardVb2 boardRun ?_).mpr ?_
  · decide
  · exact ⟨trivial, trivial, .inr ⟨by decide, rfl, fun _ _ => rfl⟩, trivial, trivial, trivial⟩

def failingRun : List Vb2Op :=
  [.bufQueue 0, .startStreaming true boardAlloc]

theorem failed_start_keeps_buffer :
    Along vb2Step Vb2Contract boardVb2 failingRun ∧
      ¬ Along vb2Step Balanced boardVb2 failingRun := by
  refine ⟨by decide, ?_⟩
  rintro ⟨-, ⟨hownership, -⟩, -⟩
  exact absurd hownership.owned.length_eq (by decide)

end CameraPorting.Isi.BufferOwnership
