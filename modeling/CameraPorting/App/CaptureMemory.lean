import CameraPorting.App.CaptureReads

namespace CameraPorting.App.CaptureMemory

open CameraPorting.Kernel.Media
open CameraPorting.Library.Runs
open CameraPorting.App.CaptureClass
open CameraPorting.App.CaptureResources
open CameraPorting.App.CaptureOpen
open CameraPorting.App.CaptureReads

def matrixBytes (sensor : SensorType) : Nat :=
  (sensors sensor).imageHeight.toNat * (sensors sensor).imageWidth.toNat

def MakesMatrix (s : V4l2) (o : ReadOutcome) (index : Nat) : Prop :=
  s.isCamOpen = true ∧ live s = true ∧ ∃ frame, Dequeues s o index frame

/-- The pointer of an entry is the start of a mapping of the buffer. -/
structure MappedAt (s : V4l2) (index : Nat) (m : Mapping) : Prop where
  valid : s.sys.mappings.find? (fun m' => decide (m'.start = m.start)) = some m
  start : (s.buffers index).start = some m.start
  length : (s.buffers index).length = m.length
  shows : bufferAt s.sys m.start = some index

def ReadSafe (s : V4l2) (o : ReadOutcome) : Prop :=
  ∀ index, MakesMatrix s o index → index < s.mBuffers ∧ ∃ m, MappedAt s index m ∧
    matrixBytes s.mSensor ≤ m.length

/-- The buffers that come back were mapped in `open`, and the kernel made them large
enough for an image of the sensor. -/
def ReadCovered (sensor : SensorType) (o : OpenOutcome) (s : V4l2) (r : ReadOutcome) : Prop :=
  ∀ index, MakesMatrix s r index → o.querybuf index = true ∧ o.mmap index ≠ none ∧
    ∃ plane, (o.reqbufs.getD [])[index]? = some plane ∧ matrixBytes sensor ≤ plane.length.toNat

section Reads

variable {Img : Type} (cvtColor : ColorConversion → U32 → U32 → Frame → Img)

theorem ioctlDqbuf_cases (o : ReadOutcome) (s : V4l2) :
    ioctlDqbuf o.dqbuf 0 s = (none, s) ∨
      ∃ index frame, live s = true ∧ Dequeues s o index frame ∧
        ioctlDqbuf o.dqbuf 0 s = (some index, setDevice (fillPlane index 0 s)
          { s.sys.device with
            queued := s.sys.device.queued.erase index
            frames := Function.update s.sys.device.frames index frame }) := by
  rcases hlive : live s with _ | _
  · refine .inl ?_
    unfold ioctlDqbuf
    rw [hlive]
    split <;> rfl
  · by_cases hgot : ∃ index frame, Dequeues s o index frame
    · obtain ⟨index, frame, hread⟩ := hgot
      refine .inr ⟨index, frame, rfl, hread, ?_⟩
      rw [hread.1]
      exact ioctlDqbuf_ok hlive hread.2.1 hread.2.2
    · refine .inl (ioctlDqbuf_fail fun index frame hread => hgot ⟨index, frame, hread⟩)

theorem readStep_idle {s : V4l2} {o : ReadOutcome} (h : ∀ index, ¬MakesMatrix s o index) :
    readStep cvtColor s o = s := by
  unfold readStep V4l2.read
  split
  · rfl
  · rename_i hopen
    rcases ioctlDqbuf_cases o s with hrun | ⟨index, frame, hlive, hread, -⟩
    · rw [hrun]
    · exact absurd ⟨Bool.eq_true_of_not_eq_false hopen, hlive, frame, hread⟩ (h index)

theorem ioctlQbuf_node (qbuf : Bool) (index : Nat) (s : V4l2) :
    (ioctlQbuf qbuf index 0 s).2.sys.device.planes = s.sys.device.planes ∧
      ∀ i ∈ (ioctlQbuf qbuf index 0 s).2.sys.device.queued,
        i = index ∨ i ∈ s.sys.device.queued := by
  unfold ioctlQbuf
  split
  · exact ⟨rfl, fun _ hi => List.mem_cons.mp hi⟩
  · exact ⟨rfl, fun _ hi => .inr hi⟩

theorem readStep_node (s : V4l2) (o : ReadOutcome) :
    (readStep cvtColor s o).sys.device.planes = s.sys.device.planes ∧
      ∀ i ∈ (readStep cvtColor s o).sys.device.queued, i ∈ s.sys.device.queued := by
  unfold readStep V4l2.read
  split
  · exact ⟨rfl, fun _ hi => hi⟩
  · rcases ioctlDqbuf_cases o s with hrun | ⟨index, frame, -, hread, hrun⟩
    · rw [hrun]
      exact ⟨rfl, fun _ hi => hi⟩
    · rw [hrun]
      dsimp only
      generalize ht : setDevice (fillPlane index 0 s)
        { s.sys.device with
          queued := s.sys.device.queued.erase index
          frames := Function.update s.sys.device.frames index frame } = t
      have hplanes : t.sys.device.planes = s.sys.device.planes := by
        rw [← ht]
        rfl
      have hqueued : ∀ i ∈ t.sys.device.queued, i ∈ s.sys.device.queued := by
        rw [← ht]
        exact fun _ hi => List.mem_of_mem_erase hi
      obtain ⟨hkept, hback⟩ := ioctlQbuf_node o.qbuf index t
      have hall : ∀ i ∈ (ioctlQbuf o.qbuf index 0 t).2.sys.device.queued,
          i ∈ s.sys.device.queued := by
        intro i hi
        rcases hback i hi with rfl | hmem
        · exact hread.2.2
        · exact hqueued i hmem
      rcases hqbuf : ioctlQbuf o.qbuf index 0 t with ⟨_ | _, u⟩
      · rw [hqbuf] at hkept hall
        exact ⟨hkept.trans hplanes, hall⟩
      · rw [hqbuf] at hkept hall
        exact ⟨hkept.trans hplanes, hall⟩

end Reads

structure OpenedWith (sensor : SensorType) (o : OpenOutcome) (s : V4l2) : Prop where
  mSensor : s.mSensor = sensor
  mBuffers : s.mBuffers = frameNum
  queued_lt : ∀ i ∈ s.sys.device.queued, i < frameNum
  start : ∀ i < frameNum, (s.buffers i).start = (openMapping o i).map Mapping.start
  mapped : ∀ i < frameNum, ∀ m, openMapping o i = some m → MappedAt s i m

theorem OpenedWith.read {sensor : SensorType} {o : OpenOutcome} {s : V4l2}
    (h : OpenedWith sensor o s) {Img : Type}
    (cvtColor : ColorConversion → U32 → U32 → Frame → Img) (r : ReadOutcome) :
    OpenedWith sensor o (readStep cvtColor s r) := by
  have hsame : SameHold s (readStep cvtColor s r) := sameHold_read cvtColor r s
  obtain ⟨hplanes, hqueued⟩ := readStep_node cvtColor s r
  refine
    { mSensor := hsame.mSensor.trans h.mSensor
      mBuffers := hsame.mBuffers.trans h.mBuffers
      queued_lt := fun i hi => h.queued_lt i (hqueued i hi)
      start := fun i hi => (hsame.start i).trans (h.start i hi)
      mapped := fun i hi m hm => ?_ }
  have hmapped := h.mapped i hi m hm
  refine
    { valid := by rw [hsame.mappings]; exact hmapped.valid
      start := (hsame.start i).trans hmapped.start
      length := (hsame.length i).trans hmapped.length
      shows := ?_ }
  have hshows := hmapped.shows
  unfold bufferAt at hshows ⊢
  rw [hsame.mappings, hplanes]
  exact hshows

/-- One read: the pointer is the start of a mapping that is large enough exactly when the
calls of `open` made one. -/
theorem OpenedWith.readSafe_iff {sensor : SensorType} {o : OpenOutcome} {s : V4l2}
    (h : OpenedWith sensor o s) (r : ReadOutcome) : ReadSafe s r ↔ ReadCovered sensor o s r := by
  constructor
  · intro hsafe index hmakes
    obtain ⟨-, m, hmapped, hbytes⟩ := hsafe index hmakes
    obtain ⟨-, -, frame, hread⟩ := hmakes
    have hlt := h.queued_lt index hread.2.2
    obtain ⟨made, hmade, -⟩ := Option.map_eq_some_iff.mp
      ((h.start index hlt).symm.trans hmapped.start)
    obtain ⟨hquery, hmmap, plane, hplane, hlength, -⟩ := openMapping_eq_some.mp hmade
    have hsame := (h.mapped index hlt made hmade).length
    refine ⟨hquery, by rw [hmmap]; exact nofun, plane, hplane, ?_⟩
    rw [← hlength, ← hsame, hmapped.length, ← h.mSensor]
    exact hbytes
  · intro hcovered index hmakes
    obtain ⟨hquery, hmmap, plane, hplane, hbytes⟩ := hcovered index hmakes
    obtain ⟨-, -, frame, hread⟩ := hmakes
    have hlt := h.queued_lt index hread.2.2
    obtain ⟨start, hstart⟩ := Option.ne_none_iff_exists'.mp hmmap
    have hmade : openMapping o index = some ⟨start, plane.length.toNat, plane.memOffset⟩ :=
      openMapping_eq_some.mpr ⟨hquery, hstart, plane, hplane, rfl, rfl⟩
    refine ⟨by rw [h.mBuffers]; exact hlt, _, h.mapped index hlt _ hmade, ?_⟩
    rw [h.mSensor]
    exact hbytes

theorem openedWith_setUp {sensor : SensorType} {o : OpenOutcome} {s : V4l2} {fd : Nat}
    {device : VideoDevice} (hopened : o.opened = some (fd, device)) :
    OpenedWith sensor o { setUp o (reached sensor o s) with isCamOpen := true } := by
  obtain ⟨hsensor, -, -, hnode⟩ := @setUp_reached sensor o s fd device hopened
  generalize setUp o (reached sensor o s) = t at hnode
  refine
    { mSensor := hnode.mSensor.trans hsensor
      mBuffers := hnode.mBuffers
      queued_lt := fun i hi => ((hnode.queued i).mp hi).1
      start := fun i hi => ?_
      mapped := fun i hi m hm => ?_ }
  · rw [← hnode.mapping i]
    exact hnode.start i hi
  · have hmade := (hnode.mapping i).trans hm
    have hstart : (t.buffers i).start = some m.start := by
      rw [hnode.start i hi, hmade]
      rfl
    exact
      { valid := find_opened hnode hi hm
        start := hstart
        length := hnode.length i hi m hmade
        shows := bufferAt_mapped hnode hi hstart }

def DescriptorsOk (s : V4l2) : Prop := ∀ fd ∈ s.sys.descriptors, 0 ≤ fd

theorem descriptorsOk_step {s : V4l2} (hs : DescriptorsOk s) (call : Call) :
    DescriptorsOk (step s call) := by
  cases call with
  | «open» sensor o =>
      obtain ⟨-, -, hreached⟩ := reached_hold sensor o s
      have hok : DescriptorsOk (reached sensor o s) := by
        unfold DescriptorsOk
        rcases hreached with ⟨-, -, hkept⟩ | ⟨-, hfd, hheld⟩
        · rw [hkept]
          exact hs
        · rw [hheld]
          exact List.forall_mem_cons.mpr ⟨hfd, hs⟩
      change DescriptorsOk (V4l2.open sensor o s).2
      rcases open_cases sensor o s with ⟨-, hrun⟩ | ⟨-, -, hrun⟩ | ⟨-, -, hrun⟩
      · rwa [hrun]
      · rwa [hrun]
      · have hkept := (setUp_spec o (reached sensor o s)).descriptors
        rw [hrun]
        generalize setUp o (reached sensor o s) = t at hkept
        change ∀ fd ∈ t.sys.descriptors, 0 ≤ fd
        rw [hkept]
        exact hok
  | read r =>
      change DescriptorsOk (V4l2.read (fun _ _ _ frame => frame) r s).2.2
      unfold DescriptorsOk
      rw [(sameHold_read _ r s).descriptors]
      exact hs
  | release r =>
      change DescriptorsOk (V4l2.release r s)
      rcases hopen : s.isCamOpen with _ | _
      · rwa [release_closed r hopen]
      · unfold DescriptorsOk
        rw [(release_open r hopen).2.1]
        split
        · exact fun fd hfd => hs fd (List.mem_of_mem_erase hfd)
        · exact hs

theorem open_fails_idle {sensor : SensorType} {o : OpenOutcome} {s : V4l2}
    (hs : DescriptorsOk s) (hfails : ¬(o.opened ≠ none ∧ Offers o.querycap)) (r : ReadOutcome)
    (index : Nat) : ¬MakesMatrix (V4l2.open sensor o s).2 r index := by
  rintro ⟨-, hlive, frame, -, hstreaming, -⟩
  rcases open_cases sensor o s with ⟨hnone, hrun⟩ | ⟨hsome, -, hrun⟩ | ⟨hsome, hoffers, -⟩
  · obtain ⟨-, -, ⟨-, hfd, hkept⟩ | ⟨hsome, -⟩⟩ := reached_hold sensor o s
    · rw [hrun] at hlive
      have hmem : (reached sensor o s).fd ∈ (reached sensor o s).sys.descriptors :=
        of_decide_eq_true hlive
      rw [hfd, hkept] at hmem
      exact absurd (hs _ hmem) (by decide)
    · exact hsome hnone
  · obtain ⟨⟨fd, device⟩, hopened⟩ := Option.ne_none_iff_exists'.mp hsome
    obtain ⟨-, hdevice, -⟩ := @setUp_reached sensor o s fd device hopened
    rw [hrun] at hstreaming
    change (reached sensor o s).sys.device.streaming = true at hstreaming
    rw [hdevice] at hstreaming
    exact Bool.false_ne_true hstreaming
  · exact hfails ⟨hsome, hoffers⟩

section Opened

variable {Img : Type} (cvtColor : ColorConversion → U32 → U32 → Frame → Img)

theorem along_of_idle {P : V4l2 → ReadOutcome → Prop} {s : V4l2}
    (hidle : ∀ r index, ¬MakesMatrix s r index) (hP : ∀ r, P s r) (reads : List ReadOutcome) :
    Along (readStep cvtColor) P s reads := by
  induction reads with
  | nil => trivial
  | cons r reads ih =>
      rw [along_cons, readStep_idle cvtColor (hidle r)]
      exact ⟨hP r, ih⟩

/-- After any calls on an object and an `open`, whatever the system calls do: every read
stays within a mapping of its buffer exactly when each buffer that comes back was mapped
in that `open` and is as large as an image of the sensor. -/
theorem reads_safe_iff (mSensor : SensorType) (buffers : Nat → Buffer) (mBuffers : Nat)
    (device : VideoDevice) (calls : List Call) (sensor : SensorType) (o : OpenOutcome)
    (reads : List ReadOutcome) :
    Along (readStep cvtColor) ReadSafe
        (V4l2.open sensor o (exec step (construct mSensor buffers mBuffers device) calls)).2
        reads ↔
      Along (readStep cvtColor) (ReadCovered sensor o)
        (V4l2.open sensor o (exec step (construct mSensor buffers mBuffers device) calls)).2
        reads := by
  have hany : Along step (fun _ _ => True) (construct mSensor buffers mBuffers device) calls :=
    along_of_forall (fun _ _ => trivial) _ calls
  have hdescriptors := exec_of_along (I := DescriptorsOk)
    (fun _ call hs _ => descriptorsOk_step hs call) (fun _ hfd => absurd hfd List.not_mem_nil) hany
  generalize exec step (construct mSensor buffers mBuffers device) calls = s at hdescriptors
  by_cases hsucceeds : o.opened ≠ none ∧ Offers o.querycap
  · have hopened : OpenedWith sensor o (V4l2.open sensor o s).2 := by
      rcases open_cases sensor o s with ⟨hnone, -⟩ | ⟨-, hrefused, -⟩ | ⟨-, -, hrun⟩
      · exact absurd hnone hsucceeds.1
      · exact absurd hsucceeds.2 hrefused
      · obtain ⟨⟨fd, device⟩, hfd⟩ := Option.ne_none_iff_exists'.mp hsucceeds.1
        rw [hrun]
        exact openedWith_setUp hfd
    refine along_iff_along (I := OpenedWith sensor o) (E := fun _ _ => True)
      (fun t r ht _ hcovered => ?_) (fun t r ht _ hsafe => (ht.readSafe_iff r).mp hsafe) hopened
      (along_of_forall (fun _ _ => trivial) _ reads)
    exact ⟨(ht.readSafe_iff r).mpr hcovered, ht.read cvtColor r⟩
  · have hidle := @open_fails_idle sensor o s hdescriptors hsucceeds
    have hsafe := along_of_idle cvtColor hidle
      (P := ReadSafe) (fun r index hmakes => absurd hmakes (hidle r index)) reads
    have hcovered := along_of_idle cvtColor hidle
      (P := ReadCovered sensor o) (fun r index hmakes => absurd hmakes (hidle r index)) reads
    exact ⟨fun _ => hcovered, fun _ => hsafe⟩

end Opened

def smallerImage : OpenOutcome where
  opened := some (5, ⟨⟨640, 480, v4l2PixFmtSbggr8⟩, [], [], false, fun _ => []⟩)
  querycap := some 0x04001000
  sFmt := some ⟨640, 480, v4l2PixFmtSbggr8⟩
  reqbufs := some [⟨307200, 0⟩, ⟨307200, 307200⟩, ⟨307200, 614400⟩]
  querybuf := fun _ => true
  mmap := fun i => some (4096 + 307200 * i)
  qbuf := fun _ => true
  streamon := true
  mmap_injective := by
    intro i j start hi hj
    have heq := hi.trans hj.symm
    simp only [Option.some.injEq] at heq
    omega
  offsets_nodup := by
    intro planes hplanes
    obtain rfl := Option.some.inj hplanes
    decide

/-- The first frame is read beyond the end of its buffer. -/
theorem smallerImage_overrun : ¬Along (readStep fun _ _ _ frame => frame) ReadSafe
    (V4l2.open .ov5648 smallerImage (construct .ov5648 (fun _ => ⟨none, ⟨0, 0⟩, 0⟩) 0
      ⟨⟨1280, 720, v4l2PixFmtSbggr8⟩, [], [], false, fun _ => []⟩)).2
    [⟨some (0, [7, 9]), true⟩] := by
  rintro ⟨hsafe, -⟩
  obtain ⟨-, m, hmapped, hbytes⟩ := hsafe 0
    ⟨by decide +kernel, by decide +kernel, [7, 9], rfl, by decide +kernel, by decide +kernel⟩
  rw [← hmapped.length] at hbytes
  revert hbytes
  decide +kernel

end CameraPorting.App.CaptureMemory
