import CameraPorting.App.CaptureOpen

namespace CameraPorting.App.CaptureReads

open CameraPorting.Kernel.Media
open CameraPorting.Library.Runs
open CameraPorting.App.CaptureClass
open CameraPorting.App.CaptureResources
open CameraPorting.App.CaptureOpen

/-- What a read of buffer `index` makes of the object, with its planes in entry `0`. -/
structure BufferRead (o : ReadOutcome) (index : Nat) (s t : V4l2) : Prop
    extends SameHold s t where
  planes : t.sys.device.planes = s.sys.device.planes
  streaming : t.sys.device.streaming = s.sys.device.streaming
  queued : t.sys.device.queued =
    if o.qbuf then index :: s.sys.device.queued.erase index else s.sys.device.queued.erase index
  entry : ∀ plane, s.sys.device.planes[index]? = some plane → (t.buffers 0).plane = plane
  others : ∀ i, i ≠ 0 → (t.buffers i).plane = (s.buffers i).plane

theorem fillPlane_others (index : Nat) (s : V4l2) {i : Nat} (hi : i ≠ 0) :
    ((fillPlane index 0 s).buffers i).plane = (s.buffers i).plane := by
  unfold fillPlane
  split
  · rfl
  · exact congrArg Buffer.plane (setBuffer_of_ne s hi _)

theorem ioctlDqbuf_ok {s : V4l2} {index : Nat} {frame : Frame} (hlive : live s = true)
    (hstreaming : s.sys.device.streaming = true) (hqueued : index ∈ s.sys.device.queued) :
    ioctlDqbuf (some (index, frame)) 0 s = (some index, setDevice (fillPlane index 0 s)
      { s.sys.device with
        queued := s.sys.device.queued.erase index
        frames := Function.update s.sys.device.frames index frame }) := by
  unfold ioctlDqbuf
  dsimp only
  rw [hlive, hstreaming, decide_eq_true hqueued]
  rfl

def Dequeues (s : V4l2) (o : ReadOutcome) (index : Nat) (frame : Frame) : Prop :=
  o.dqbuf = some (index, frame) ∧ s.sys.device.streaming = true ∧ index ∈ s.sys.device.queued

theorem ioctlDqbuf_fail {s : V4l2} {o : ReadOutcome}
    (h : ∀ index frame, ¬Dequeues s o index frame) : ioctlDqbuf o.dqbuf 0 s = (none, s) := by
  unfold ioctlDqbuf
  rcases hdqbuf : o.dqbuf with _ | ⟨index, frame⟩
  · rfl
  · dsimp only
    split
    · rename_i hcalls
      simp only [Bool.and_eq_true, decide_eq_true_eq] at hcalls
      exact absurd ⟨hdqbuf, hcalls.1.2, hcalls.2⟩ (h index frame)
    · rfl

section Reads

variable {Img : Type} (cvtColor : ColorConversion → U32 → U32 → Frame → Img)

def imageOf (mSensor : SensorType) (frame : Frame) : Option Img :=
  let image := fun code => some (cvtColor code (sensors mSensor).imageHeight
    (sensors mSensor).imageWidth frame)
  match mSensor with
  | .ar0144 => image .bayerGR2RGB
  | .ov5648 => image .bayerRG2RGB
  | .imx219 => none

theorem read_fail {s : V4l2} {o : ReadOutcome} (h : ∀ index frame, ¬Dequeues s o index frame) :
    V4l2.read cvtColor o s = (false, none, s) := by
  unfold V4l2.read
  rw [ioctlDqbuf_fail h]
  split <;> rfl

theorem read_ok {s : V4l2} {o : ReadOutcome} {index start : Nat} {frame : Frame}
    (hopen : s.isCamOpen = true) (hlive : live s = true) (hread : Dequeues s o index frame)
    (hnodup : s.sys.device.queued.Nodup) (hlt : index < s.sys.device.planes.length)
    (hstart : (s.buffers index).start = some start)
    (hshows : bufferAt s.sys start = some index) :
    (V4l2.read cvtColor o s).1 = o.qbuf ∧
      (V4l2.read cvtColor o s).2.1 = imageOf cvtColor s.mSensor frame ∧
      BufferRead o index s (V4l2.read cvtColor o s).2.2 := by
  obtain ⟨hdqbuf, hstreaming, hqueued⟩ := hread
  let t := setDevice (fillPlane index 0 s)
    { s.sys.device with
      queued := s.sys.device.queued.erase index
      frames := Function.update s.sys.device.frames index frame }
  have hrun : ioctlDqbuf o.dqbuf 0 s = (some index, t) := by
    rw [hdqbuf]
    exact ioctlDqbuf_ok hlive hstreaming hqueued
  have hsame : SameHold s t := (sameHold_fillPlane index 0 s).trans (sameHold_setDevice _ _)
  have hplanes : t.sys.device.planes = s.sys.device.planes := rfl
  have himage : convert cvtColor t (t.buffers index).start = imageOf cvtColor s.mSensor frame := by
    have hshown : bufferAt t.sys start = some index := by
      unfold bufferAt at hshows ⊢
      rw [hsame.mappings, hplanes]
      exact hshows
    have hframe : frameAt t.sys (some start) = some frame := by
      unfold frameAt
      rw [Option.bind_some, hshown, Option.map_some]
      change some (Function.update s.sys.device.frames index frame index) = some frame
      rw [Function.update_self]
    unfold convert imageOf
    rw [hsame.start index, hstart, hframe, hsame.mSensor]
    cases s.mSensor <;> rfl
  have hentry : ∀ plane, s.sys.device.planes[index]? = some plane →
      (t.buffers 0).plane = plane := fun plane hplane => (fillPlane_plane hplane 0).1
  have hothers : ∀ i, i ≠ 0 → (t.buffers i).plane = (s.buffers i).plane :=
    fun i hi => fillPlane_others index s hi
  have hunfold : V4l2.read cvtColor o s =
      ((ioctlQbuf o.qbuf index 0 t).1, convert cvtColor t (t.buffers index).start,
        (ioctlQbuf o.qbuf index 0 t).2) := by
    unfold V4l2.read
    rw [hopen, hrun]
    dsimp only
    rcases ioctlQbuf o.qbuf index 0 t with ⟨_ | _, u⟩
    · rfl
    · rfl
  rw [hunfold, himage]
  rcases hqbuf : o.qbuf with _ | _
  · have hkept : ioctlQbuf false index 0 t = (false, t) := by
      unfold ioctlQbuf
      rw [Bool.and_false]
      rfl
    rw [hkept]
    exact ⟨rfl, rfl,
      { hsame with
        planes := rfl
        streaming := rfl
        queued := by rw [hqbuf]; rfl
        entry := hentry
        others := hothers }⟩
  · have hfree : index ∉ t.sys.device.queued := List.Nodup.not_mem_erase hnodup
    have htaken : ioctlQbuf true index 0 t = (true, setDevice (fillPlane index 0 t)
        { t.sys.device with queued := index :: t.sys.device.queued }) := by
      unfold ioctlQbuf
      rw [show live t = true from hsame.live.trans hlive, decide_eq_true hfree,
        decide_eq_true (show index < t.sys.device.planes.length from hlt)]
      rfl
    rw [htaken]
    refine ⟨rfl, rfl,
      { (hsame.trans (sameHold_fillPlane index 0 t)).trans (sameHold_setDevice _ _) with
        planes := rfl
        streaming := rfl
        queued := by rw [hqbuf]; rfl
        entry := fun plane hplane =>
          (fillPlane_plane (show t.sys.device.planes[index]? = some plane from hplane) 0).1
        others := fun i hi => (fillPlane_others index t hi).trans (hothers i hi) }⟩

/-- One read: a success has every buffer back in the kernel and every plane in place;
and it succeeds exactly when it sets the image, of the frame it got. -/
def ReadKept (s : V4l2) (o : ReadOutcome) : Prop :=
  let r := V4l2.read cvtColor o s
  (r.1 = true → ∀ i < r.2.2.mBuffers, i ∈ r.2.2.sys.device.queued ∧
    r.2.2.sys.device.planes[i]? = some (r.2.2.buffers i).plane) ∧
  (r.1 = true ↔ ∃ index frame code, Dequeues s o index frame ∧
    r.2.1 = some (cvtColor code (sensors s.mSensor).imageHeight (sensors s.mSensor).imageWidth
      frame)) ∧
  (r.1 = false → r.2.1 = none)

def readStep (s : V4l2) (o : ReadOutcome) : V4l2 := (V4l2.read cvtColor o s).2.2

/-- A frame that comes back is in buffer `0` and its buffer is taken again; of the
IMX219, it is not taken again. -/
def ReadFits (s : V4l2) (o : ReadOutcome) : Prop :=
  ∀ index frame, Dequeues s o index frame →
    if s.mSensor = .imx219 then o.qbuf = false
    else index = 0 ∧ o.qbuf = true

end Reads

/-- An object that reads: its pointers show the buffers of the node. For all but the
IMX219 every buffer is the kernel's and every plane in place. -/
structure Reading (s : V4l2) : Prop where
  isCamOpen : s.isCamOpen = true
  live : CaptureClass.live s = true
  granted : s.mBuffers ≤ s.sys.device.planes.length
  offsets : (s.sys.device.planes.map V4l2Plane.memOffset).Nodup
  shows : ∀ i < s.mBuffers, ∃ start, (s.buffers i).start = some start ∧
    bufferAt s.sys start = some i
  queued_lt : ∀ i ∈ s.sys.device.queued, i < s.mBuffers
  queued_nodup : s.sys.device.queued.Nodup
  kept : s.mSensor ≠ .imx219 → ∀ i < s.mBuffers, i ∈ s.sys.device.queued ∧
    s.sys.device.planes[i]? = some (s.buffers i).plane

section Run

variable {Img : Type} (cvtColor : ColorConversion → U32 → U32 → Frame → Img)

theorem Reading.read {s : V4l2} (h : Reading s) {o : ReadOutcome} {index : Nat}
    {frame : Frame} (hread : Dequeues s o index frame) :
    (V4l2.read cvtColor o s).1 = o.qbuf ∧
      (V4l2.read cvtColor o s).2.1 = imageOf cvtColor s.mSensor frame ∧
      BufferRead o index s (V4l2.read cvtColor o s).2.2 := by
  have hlt := h.queued_lt index hread.2.2
  obtain ⟨start, hstart, hshows⟩ := h.shows index hlt
  exact read_ok cvtColor h.isCamOpen h.live hread h.queued_nodup (lt_of_lt_of_le hlt h.granted)
    hstart hshows

theorem read_none {s : V4l2} {o : ReadOutcome} (h : ∀ index frame, ¬Dequeues s o index frame) :
    ReadKept cvtColor s o ∧ ReadFits s o ∧ readStep cvtColor s o = s := by
  have hrun := read_fail cvtColor h
  unfold ReadKept readStep
  rw [hrun]
  refine ⟨⟨fun h => absurd h Bool.false_ne_true, ⟨fun h => absurd h Bool.false_ne_true, ?_⟩,
    fun _ => rfl⟩, fun index frame hread => absurd hread (h index frame), rfl⟩
  rintro ⟨_, _, _, -, hset⟩
  exact absurd hset nofun

/-- A buffer that comes back and is taken again leaves the kernel with the buffers it
had. -/
theorem mem_requeued {index : Nat} {queued : List Nat} (hqueued : index ∈ queued) (i : Nat) :
    i ∈ index :: queued.erase index ↔ i ∈ queued :=
  (List.perm_cons_erase hqueued).mem_iff.symm

theorem imageOf_some {mSensor : SensorType} (h : mSensor ≠ .imx219) (frame : Frame) :
    ∃ code, imageOf cvtColor mSensor frame = some (cvtColor code (sensors mSensor).imageHeight
      (sensors mSensor).imageWidth frame) := by
  cases mSensor with
  | ar0144 => exact ⟨.bayerGR2RGB, rfl⟩
  | ov5648 => exact ⟨.bayerRG2RGB, rfl⟩
  | imx219 => exact absurd rfl h

theorem BufferRead.reading {s t : V4l2} (h : Reading s) {o : ReadOutcome} {index : Nat}
    (hread : BufferRead o index s t) (hqueued : index ∈ s.sys.device.queued)
    (hplace : s.mSensor ≠ .imx219 → index = 0 ∧ o.qbuf = true) : Reading t where
  isCamOpen := hread.isCamOpen.trans h.isCamOpen
  live := hread.live.trans h.live
  granted := by
    rw [hread.planes, hread.mBuffers]
    exact h.granted
  offsets := by
    rw [hread.planes]
    exact h.offsets
  shows := by
    intro i hi
    rw [hread.mBuffers] at hi
    obtain ⟨start, hstart, hshows⟩ := h.shows i hi
    refine ⟨start, (hread.start i).trans hstart, ?_⟩
    unfold bufferAt at hshows ⊢
    rw [hread.mappings, hread.planes]
    exact hshows
  queued_lt := by
    intro i hi
    rw [hread.mBuffers]
    apply h.queued_lt
    rw [hread.queued] at hi
    split at hi
    · exact (mem_requeued hqueued i).mp hi
    · exact List.mem_of_mem_erase hi
  queued_nodup := by
    rw [hread.queued]
    split
    · exact (List.perm_cons_erase hqueued).nodup_iff.mp h.queued_nodup
    · exact h.queued_nodup.erase index
  kept := by
    intro hsensor i hi
    rw [hread.mSensor] at hsensor
    rw [hread.mBuffers] at hi
    obtain ⟨rfl, hqbuf⟩ := hplace hsensor
    obtain ⟨hmem, hplane⟩ := h.kept hsensor i hi
    rw [hread.queued, if_pos hqbuf, hread.planes]
    refine ⟨(mem_requeued hqueued i).mpr hmem, ?_⟩
    by_cases hzero : i = 0
    · subst hzero
      rw [hplane, hread.entry _ hplane]
    · rw [hread.others i hzero]
      exact hplane

theorem reading_step {s : V4l2} (h : Reading s) {o : ReadOutcome} (hfits : ReadFits s o) :
    ReadKept cvtColor s o ∧ Reading (readStep cvtColor s o) := by
  by_cases hgot : ∃ index frame, Dequeues s o index frame
  · obtain ⟨index, frame, hdequeues⟩ := hgot
    obtain ⟨hreturned, himage, hread⟩ := h.read cvtColor hdequeues
    have hcall := hfits index frame hdequeues
    have hreading : Reading (readStep cvtColor s o) :=
      hread.reading h hdequeues.2.2 fun hsensor => by
        rw [if_neg hsensor] at hcall
        exact hcall
    refine ⟨?_, hreading⟩
    unfold ReadKept
    dsimp only
    rw [hreturned, himage]
    by_cases hsensor : s.mSensor = .imx219
    · rw [if_pos hsensor] at hcall
      rw [hcall, hsensor]
      refine ⟨fun h => absurd h Bool.false_ne_true, ⟨fun h => absurd h Bool.false_ne_true, ?_⟩,
        fun _ => rfl⟩
      rintro ⟨_, _, _, -, hset⟩
      exact absurd hset nofun
    · rw [if_neg hsensor] at hcall
      obtain ⟨rfl, hqbuf⟩ := hcall
      obtain ⟨code, hcode⟩ := imageOf_some cvtColor hsensor frame
      rw [hqbuf]
      refine ⟨fun _ => ?_, ⟨fun _ => ⟨0, frame, code, hdequeues, hcode⟩, fun _ => rfl⟩,
        fun h => absurd h.symm Bool.false_ne_true⟩
      apply hreading.kept
      rw [show (readStep cvtColor s o).mSensor = s.mSensor from hread.mSensor]
      exact hsensor
  · have hnone : ∀ index frame, ¬Dequeues s o index frame :=
      fun index frame hread => hgot ⟨index, frame, hread⟩
    obtain ⟨hkept, -, hsame⟩ := read_none cvtColor hnone
    rw [hsame]
    exact ⟨hkept, h⟩

theorem plane_index {planes : List V4l2Plane} (h : (planes.map V4l2Plane.memOffset).Nodup)
    {i j : Nat} {plane : V4l2Plane} (hi : planes[i]? = some plane)
    (hj : planes[j]? = some plane) : i = j := by
  have hlt : i < (planes.map V4l2Plane.memOffset).length := by
    rw [List.length_map]
    exact (List.getElem?_eq_some_iff.mp hi).1
  apply (List.getElem?_inj hlt h).mp
  rw [List.getElem?_map, List.getElem?_map, hi, hj]

theorem readFits_of_kept {s : V4l2} (h : Reading s) {o : ReadOutcome}
    (hkept : ReadKept cvtColor s o) : ReadFits s o := by
  intro index frame hdequeues
  obtain ⟨hreturned, himage, hread⟩ := h.read cvtColor hdequeues
  unfold ReadKept at hkept
  dsimp only at hkept
  rw [hreturned, himage] at hkept
  obtain ⟨hall, hset, hfail⟩ := hkept
  have hlt := h.queued_lt index hdequeues.2.2
  by_cases hsensor : s.mSensor = .imx219
  · rw [if_pos hsensor]
    by_contra hqbuf
    obtain ⟨_, _, _, -, himg⟩ := hset.mp (Bool.eq_true_of_not_eq_false hqbuf)
    rw [hsensor] at himg
    exact absurd himg nofun
  · rw [if_neg hsensor]
    obtain ⟨code, hcode⟩ := imageOf_some cvtColor hsensor frame
    have hqbuf : o.qbuf = true := by
      by_contra hqbuf
      have hnone := hfail (Bool.eq_false_of_not_eq_true hqbuf)
      rw [hcode] at hnone
      exact absurd hnone nofun
    have hpos : 0 < (V4l2.read cvtColor o s).2.2.mBuffers := by
      rw [hread.mBuffers]
      omega
    have hplane := (hall hqbuf 0 hpos).2
    obtain ⟨-, hindex⟩ := h.kept hsensor index hlt
    rw [hread.planes, hread.entry _ hindex] at hplane
    exact ⟨plane_index h.offsets hindex hplane, hqbuf⟩

end Run

theorem find_mapping {new rest : List Mapping} {m : Mapping} (hm : m ∈ new)
    (hstart : ∀ m' ∈ new, m'.start = m.start → m' = m) :
    (new ++ rest).find? (fun m' => decide (m'.start = m.start)) = some m := by
  rw [List.find?_append]
  have hfound : new.find? (fun m' => decide (m'.start = m.start)) = some m := by
    rcases hfind : new.find? (fun m' => decide (m'.start = m.start)) with _ | m'
    · exact absurd (decide_eq_true rfl) (List.find?_eq_none.mp hfind m hm)
    · have hfacts := List.find?_some hfind
      simp only [decide_eq_true_eq] at hfacts
      rw [hfind, hstart m' (List.mem_of_find?_eq_some hfind) hfacts]
  rw [hfound]
  rfl

theorem offsets_nodup {o : OpenOutcome} {s t : V4l2} (h : NodeSetUp o s t) :
    (t.sys.device.planes.map V4l2Plane.memOffset).Nodup := by
  rw [h.planes]
  rcases hreqbufs : o.reqbufs with _ | planes
  · exact List.nodup_nil
  · exact o.offsets_nodup planes hreqbufs

theorem find_opened {o : OpenOutcome} {s t : V4l2} (h : NodeSetUp o s t) {i : Nat}
    {m : Mapping} (hi : i < frameNum) (hm : openMapping o i = some m) :
    t.sys.mappings.find? (fun m' => decide (m'.start = m.start)) = some m := by
  have hmmap := (openMapping_eq_some.mp hm).2.1
  rw [h.mappings]
  apply find_mapping
  · rw [List.mem_reverse, List.mem_filterMap]
    exact ⟨i, List.mem_range.mpr hi, (h.mapping i).trans hm⟩
  · intro m' hm' hsame
    rw [List.mem_reverse, List.mem_filterMap] at hm'
    obtain ⟨j, -, hj⟩ := hm'
    rw [h.mapping j] at hj
    have hmmap' := (openMapping_eq_some.mp hj).2.1
    rw [hsame] at hmmap'
    rw [o.mmap_injective j i _ hmmap' hmmap, hm] at hj
    exact (Option.some.inj hj).symm

theorem bufferAt_mapped {o : OpenOutcome} {s t : V4l2} (h : NodeSetUp o s t) {i start : Nat}
    (hi : i < frameNum) (hstart : (t.buffers i).start = some start) :
    bufferAt t.sys start = some i := by
  have hfound := (h.start i hi).symm.trans hstart
  obtain ⟨m, hm, rfl⟩ := Option.map_eq_some_iff.mp hfound
  rw [h.mapping i] at hm
  obtain ⟨-, -, plane, hplane, -, hoffset⟩ := openMapping_eq_some.mp hm
  have hentry : (t.sys.device.planes.map V4l2Plane.memOffset)[i]? = some m.memOffset := by
    rw [List.getElem?_map, h.planes, hplane, hoffset]
    rfl
  obtain ⟨hlt, hget⟩ := List.getElem?_eq_some_iff.mp hentry
  have hmem : m.memOffset ∈ t.sys.device.planes.map V4l2Plane.memOffset := by
    rw [← hget]
    exact List.getElem_mem hlt
  unfold bufferAt
  rw [find_opened h hi hm]
  change (if m.memOffset ∈ _ then _ else none) = _
  rw [if_pos hmem, ← hget, (offsets_nodup h).idxOf_getElem i hlt]

theorem reading_open {sensor : SensorType} {o : OpenOutcome} {s : V4l2}
    (hopen : (V4l2.open sensor o s).1 = 1)
    (hmapped : ∀ i < (V4l2.open sensor o s).2.mBuffers,
      ((V4l2.open sensor o s).2.buffers i).start ≠ none)
    (hqueued : ∀ i < (V4l2.open sensor o s).2.mBuffers,
      i ∈ (V4l2.open sensor o s).2.sys.device.queued) : Reading (V4l2.open sensor o s).2 := by
  rcases open_cases sensor o s with ⟨-, hrun⟩ | ⟨-, -, hrun⟩ | ⟨hsome, -, hrun⟩
  · rw [hrun] at hopen
    exact absurd (show (-1 : Int) = 1 from hopen) (by decide)
  · rw [hrun] at hopen
    exact absurd (show (-1 : Int) = 1 from hopen) (by decide)
  obtain ⟨⟨fd, device⟩, hopened⟩ := Option.ne_none_iff_exists'.mp hsome
  obtain ⟨-, -, hlive, hnode⟩ := @setUp_reached sensor o s fd device hopened
  rw [hrun] at hmapped hqueued ⊢
  generalize reached sensor o s = u at hlive hnode hmapped hqueued
  generalize setUp o u = t at hnode hmapped hqueued
  change ∀ i < t.mBuffers, (t.buffers i).start ≠ none at hmapped
  change ∀ i < t.mBuffers, i ∈ t.sys.device.queued at hqueued
  have hplanes : t.sys.device.planes = o.reqbufs.getD [] := hnode.planes
  have hlt : ∀ i < t.mBuffers, i < t.sys.device.planes.length := by
    intro i hi
    rw [hplanes]
    exact ((hnode.queued i).mp (hqueued i hi)).2.2
  refine
    { isCamOpen := rfl
      live := ?_
      granted := ?_
      offsets := ?_
      shows := fun i hi => ?_
      queued_lt := fun i hi => ?_
      queued_nodup := hnode.nodup
      kept := fun _ i hi => ⟨hqueued i hi, hnode.filled i (hqueued i hi)⟩ }
  · change decide (t.fd ∈ t.sys.descriptors) = true
    rw [hnode.fd, hnode.descriptors]
    exact hlive
  · change t.mBuffers ≤ t.sys.device.planes.length
    by_contra h
    exact absurd (hlt _ (not_le.mp h)) (lt_irrefl _)
  · change (t.sys.device.planes.map V4l2Plane.memOffset).Nodup
    exact offsets_nodup hnode
  · obtain ⟨start, hstart⟩ := Option.ne_none_iff_exists'.mp (hmapped i hi)
    refine ⟨start, hstart, bufferAt_mapped hnode ?_ hstart⟩
    rw [← hnode.mBuffers]
    exact hi
  · change i < t.mBuffers
    rw [hnode.mBuffers]
    exact ((hnode.queued i).mp hi).1

section Opened

variable {Img : Type} (cvtColor : ColorConversion → U32 → U32 → Frame → Img)

/-- From a successful open with every buffer mapped and queued, for every outcome of the
reads: each read keeps the buffers, the planes and the image straight exactly when no
frame comes back in another buffer than `0` or without its buffer being taken again, and
none of an IMX219 with its buffer taken again. -/
theorem reads_kept_iff (sensor : SensorType) (o : OpenOutcome) (s : V4l2)
    (hopen : (V4l2.open sensor o s).1 = 1)
    (hmapped : ∀ i < (V4l2.open sensor o s).2.mBuffers,
      ((V4l2.open sensor o s).2.buffers i).start ≠ none)
    (hqueued : ∀ i < (V4l2.open sensor o s).2.mBuffers,
      i ∈ (V4l2.open sensor o s).2.sys.device.queued) (reads : List ReadOutcome) :
    Along (readStep cvtColor) (ReadKept cvtColor) (V4l2.open sensor o s).2 reads ↔
      Along (readStep cvtColor) ReadFits (V4l2.open sensor o s).2 reads := by
  have hreading := reading_open hopen hmapped hqueued
  generalize (V4l2.open sensor o s).2 = t at hreading
  refine along_iff_along (I := Reading) (E := fun _ _ => True) (fun s o hs _ hfits => ?_)
    (fun s o hs _ hkept => ?_) hreading (along_of_forall (fun _ _ => trivial) t reads)
  · exact reading_step cvtColor hs hfits
  · exact readFits_of_kept cvtColor hs hkept

end Opened

/-- An object of the OV5648 that was opened, with three buffers in the kernel. -/
def opened : V4l2 :=
  (V4l2.open .ov5648 { streamRefused with streamon := true }
    (construct .ov5648 (fun _ => ⟨none, ⟨0, 0⟩, 0⟩) 0
      ⟨⟨1280, 720, v4l2PixFmtSbggr8⟩, [], [], false, fun _ => []⟩)).2

theorem reads_kept_once : Along (readStep fun _ _ _ frame => frame)
    (ReadKept fun _ _ _ frame => frame) opened [⟨none, true⟩, ⟨some (0, [7, 9]), true⟩] := by
  refine (reads_kept_iff (fun _ _ _ frame => frame) .ov5648
    { streamRefused with streamon := true }
    (construct .ov5648 (fun _ => ⟨none, ⟨0, 0⟩, 0⟩) 0
      ⟨⟨1280, 720, v4l2PixFmtSbggr8⟩, [], [], false, fun _ => []⟩)
    (by decide +kernel) (by decide +kernel) (by decide +kernel) _).mpr ⟨?_, ?_, trivial⟩
  · rintro _ _ ⟨hnone, -⟩
    exact absurd hnone nofun
  · rintro index frame ⟨hdqbuf, -⟩
    obtain ⟨rfl, rfl⟩ := Prod.mk.inj (Option.some.inj hdqbuf)
    exact ⟨rfl, rfl⟩

/-- The kernel gives its buffers back in turn, and the planes of the second one are
copied into the first entry. -/
theorem secondBuffer_misplaced : ¬Along (readStep fun _ _ _ frame => frame)
    (ReadKept fun _ _ _ frame => frame) opened
      [⟨some (0, [7, 9]), true⟩, ⟨some (1, [8, 6]), true⟩] := by
  rintro ⟨-, ⟨hkept, -⟩, -⟩
  have hplane := (hkept (by decide +kernel) 0 (by decide +kernel)).2
  exact absurd hplane (by decide +kernel)

end CameraPorting.App.CaptureReads
