import CameraPorting.App.CaptureClass
import CameraPorting.Library.Runs

namespace CameraPorting.App.CaptureResources

open CameraPorting.Kernel.Media
open CameraPorting.Library.Runs
open CameraPorting.App.CaptureClass

/-- What the ioctls leave alone: all the object holds, and where it keeps it. -/
structure SameHold (s t : V4l2) : Prop where
  mSensor : t.mSensor = s.mSensor
  fd : t.fd = s.fd
  isCamOpen : t.isCamOpen = s.isCamOpen
  mBuffers : t.mBuffers = s.mBuffers
  descriptors : t.sys.descriptors = s.sys.descriptors
  mappings : t.sys.mappings = s.sys.mappings
  start : ∀ i, (t.buffers i).start = (s.buffers i).start
  length : ∀ i, (t.buffers i).length = (s.buffers i).length

theorem SameHold.refl (s : V4l2) : SameHold s s :=
  ⟨rfl, rfl, rfl, rfl, rfl, rfl, fun _ => rfl, fun _ => rfl⟩

theorem SameHold.trans {s t u : V4l2} (h : SameHold s t) (h' : SameHold t u) : SameHold s u where
  mSensor := h'.mSensor.trans h.mSensor
  fd := h'.fd.trans h.fd
  isCamOpen := h'.isCamOpen.trans h.isCamOpen
  mBuffers := h'.mBuffers.trans h.mBuffers
  descriptors := h'.descriptors.trans h.descriptors
  mappings := h'.mappings.trans h.mappings
  start i := (h'.start i).trans (h.start i)
  length i := (h'.length i).trans (h.length i)

theorem SameHold.live {s t : V4l2} (h : SameHold s t) :
    CaptureClass.live t = CaptureClass.live s := by
  unfold CaptureClass.live
  rw [h.fd, h.descriptors]

theorem sameHold_setDevice (s : V4l2) (device : VideoDevice) : SameHold s (setDevice s device) :=
  ⟨rfl, rfl, rfl, rfl, rfl, rfl, fun _ => rfl, fun _ => rfl⟩

theorem sameHold_fillPlane (index entry : Nat) (s : V4l2) :
    SameHold s (fillPlane index entry s) := by
  unfold fillPlane
  split
  · exact SameHold.refl s
  · rename_i plane _
    have hentry : ∀ i, (Function.update s.buffers entry
        { s.buffers entry with plane := plane } i).start = (s.buffers i).start ∧
        (Function.update s.buffers entry
          { s.buffers entry with plane := plane } i).length = (s.buffers i).length := by
      intro i
      by_cases hi : i = entry
      · subst hi
        rw [Function.update_self]
        exact ⟨rfl, rfl⟩
      · rw [Function.update_of_ne hi]
        exact ⟨rfl, rfl⟩
    exact ⟨rfl, rfl, rfl, rfl, rfl, rfl, fun i => (hentry i).1, fun i => (hentry i).2⟩

theorem sameHold_setFormat (sFmt : Option SensorProperties) (s : V4l2) :
    SameHold s (setFormat sFmt s).2 := by
  unfold setFormat
  split
  · exact sameHold_setDevice s _
  · exact SameHold.refl s

theorem sameHold_requestBuffer (reqbufs : Option (List V4l2Plane)) (s : V4l2) :
    SameHold s (requestBuffer reqbufs s).2 := by
  unfold requestBuffer
  split
  · exact sameHold_setDevice s _
  · exact SameHold.refl s

theorem sameHold_ioctlQbuf (qbuf : Bool) (index entry : Nat) (s : V4l2) :
    SameHold s (ioctlQbuf qbuf index entry s).2 := by
  unfold ioctlQbuf
  split
  · exact (sameHold_fillPlane index entry s).trans (sameHold_setDevice _ _)
  · exact SameHold.refl s

theorem sameHold_startStreaming (streamon : Bool) (s : V4l2) :
    SameHold s (startStreaming streamon s).2 := by
  unfold startStreaming
  split
  · exact sameHold_setDevice s _
  · exact SameHold.refl s

theorem sameHold_stopStreaming (streamoff : Bool) (s : V4l2) :
    SameHold s (stopStreaming streamoff s).2 := by
  unfold stopStreaming
  split
  · exact sameHold_setDevice s _
  · exact SameHold.refl s

theorem sameHold_queueBuffers (o : OpenOutcome) (s : V4l2) :
    SameHold s (queueBuffers o s) := by
  have hloop : ∀ (indices : List Nat) (t : V4l2), SameHold s t →
      SameHold s (indices.foldl (fun s i => (queueBuffer (o.qbuf i) i s).2) t) := by
    intro indices
    induction indices with
    | nil => exact fun t ht => ht
    | cons i rest ih =>
        intro t ht
        exact ih _ (ht.trans (sameHold_ioctlQbuf (o.qbuf i) i i t))
  exact hloop _ s (SameHold.refl s)

theorem sameHold_ioctlDqbuf (dqbuf : Option (Nat × Frame)) (entry : Nat) (s : V4l2) :
    SameHold s (ioctlDqbuf dqbuf entry s).2 := by
  unfold ioctlDqbuf
  split
  · exact SameHold.refl s
  · split
    · exact (sameHold_fillPlane _ entry s).trans (sameHold_setDevice _ _)
    · exact SameHold.refl s

theorem sameHold_read {Img : Type} (cvtColor : ColorConversion → U32 → U32 → Frame → Img)
    (o : ReadOutcome) (s : V4l2) : SameHold s (V4l2.read cvtColor o s).2.2 := by
  unfold V4l2.read
  split
  · exact SameHold.refl s
  · have hdqbuf := sameHold_ioctlDqbuf o.dqbuf 0 s
    rcases hrun : ioctlDqbuf o.dqbuf 0 s with ⟨_ | index, t⟩
    · rw [hrun] at hdqbuf
      exact hdqbuf
    · rw [hrun] at hdqbuf
      have hqbuf := sameHold_ioctlQbuf o.qbuf index 0 t
      dsimp only
      rcases hrun' : ioctlQbuf o.qbuf index 0 t with ⟨_ | _, u⟩
      · rw [hrun'] at hqbuf
        exact hdqbuf.trans hqbuf
      · rw [hrun'] at hqbuf
        exact hdqbuf.trans hqbuf

/-- The plane that `query_buffer` gets of buffer `i`, when the call succeeds. -/
def queriedPlane (o : OpenOutcome) (s : V4l2) (i : Nat) : Option V4l2Plane :=
  if live s && o.querybuf i then s.sys.device.planes[i]? else none

/-- The mapping that `query_buffer` makes of buffer `i`, when its calls succeed. -/
def mappingOf (o : OpenOutcome) (s : V4l2) (i : Nat) : Option Mapping :=
  (queriedPlane o s i).bind fun plane =>
    (o.mmap i).map fun start => ⟨start, plane.length.toNat, plane.memOffset⟩

/-- What one turn of the loop over `query_buffer` does. -/
structure QueryTurn (o : OpenOutcome) (i : Nat) (s t : V4l2) : Prop where
  mSensor : t.mSensor = s.mSensor
  fd : t.fd = s.fd
  isCamOpen : t.isCamOpen = s.isCamOpen
  descriptors : t.sys.descriptors = s.sys.descriptors
  device : t.sys.device = s.sys.device
  mBuffers : t.mBuffers = i + 1
  others : ∀ j, j ≠ i → t.buffers j = s.buffers j
  start : (t.buffers i).start = (mappingOf o s i).map Mapping.start
  length : ∀ m, mappingOf o s i = some m → (t.buffers i).length = m.length
  plane : ∀ plane, queriedPlane o s i = some plane → (t.buffers i).plane = plane
  mappings : t.sys.mappings = (mappingOf o s i).toList ++ s.sys.mappings

@[simp] theorem setBuffer_self (s : V4l2) (i : Nat) (buffer : Buffer) :
    (setBuffer s i buffer).buffers i = buffer :=
  Function.update_self ..

theorem setBuffer_of_ne (s : V4l2) {i j : Nat} (h : j ≠ i) (buffer : Buffer) :
    (setBuffer s i buffer).buffers j = s.buffers j :=
  Function.update_of_ne h ..

/-- The calls of a turn succeed for a buffer that shows a plane. -/
theorem queriedPlane_isSome (o : OpenOutcome) (s : V4l2) (i : Nat) :
    (live s && o.querybuf i && decide (i < s.sys.device.planes.length)) =
      (queriedPlane o s i).isSome := by
  unfold queriedPlane
  rcases live s && o.querybuf i with _ | _
  · rfl
  · rw [Bool.true_and, if_pos rfl, Bool.eq_iff_iff, decide_eq_true_iff, Option.isSome_iff_ne_none,
      ne_eq, List.getElem?_eq_none_iff, not_le]

theorem planes_of_queriedPlane {o : OpenOutcome} {s : V4l2} {i : Nat} {plane : V4l2Plane}
    (h : queriedPlane o s i = some plane) : s.sys.device.planes[i]? = some plane := by
  unfold queriedPlane at h
  split at h
  · exact h
  · exact absurd h nofun

def cleared (s : V4l2) (i : Nat) : V4l2 :=
  setBuffer { s with mBuffers := i } i { s.buffers i with start := none }

theorem queryTurn_refused {o : OpenOutcome} {s : V4l2} {i : Nat}
    (h : queriedPlane o s i = none) : QueryTurn o i s (queryTurn o s i) := by
  have hcalls : (live (cleared s i) && o.querybuf i &&
      decide (i < (cleared s i).sys.device.planes.length)) = false := by
    change (live s && o.querybuf i && decide (i < s.sys.device.planes.length)) = false
    rw [queriedPlane_isSome, h]
    rfl
  have hmapping : mappingOf o s i = none := by
    unfold mappingOf
    rw [h]
    rfl
  have hstart : ((cleared s i).buffers i).start = none :=
    congrArg Buffer.start (setBuffer_self { s with mBuffers := i } i _)
  change QueryTurn o i s { (queryBuffer (o.querybuf i) (o.mmap i) i (cleared s i)).2 with
    mBuffers := i + 1 }
  unfold queryBuffer
  rw [hcalls, if_neg Bool.false_ne_true]
  exact
    { mSensor := rfl
      fd := rfl
      isCamOpen := rfl
      descriptors := rfl
      device := rfl
      mBuffers := rfl
      others := fun j hj => setBuffer_of_ne _ hj _
      start := by rw [hmapping]; exact hstart
      length := fun _ hm => absurd (hmapping.symm.trans hm) nofun
      plane := fun _ hp => absurd (h.symm.trans hp) nofun
      mappings := by rw [hmapping]; rfl }

theorem queryTurn_queried {o : OpenOutcome} {s : V4l2} {i : Nat} {plane : V4l2Plane}
    (h : queriedPlane o s i = some plane) : QueryTurn o i s (queryTurn o s i) := by
  have hcalls : (live (cleared s i) && o.querybuf i &&
      decide (i < (cleared s i).sys.device.planes.length)) = true := by
    change (live s && o.querybuf i && decide (i < s.sys.device.planes.length)) = true
    rw [queriedPlane_isSome, h]
    rfl
  have hmapping : mappingOf o s i =
      (o.mmap i).map fun start => ⟨start, plane.length.toNat, plane.memOffset⟩ := by
    unfold mappingOf
    rw [h]
    rfl
  let filled := setBuffer (cleared s i) i { (cleared s i).buffers i with plane := plane }
  have hfilled : fillPlane i i (cleared s i) = filled := by
    unfold fillPlane
    rw [show (cleared s i).sys.device.planes[i]? = some plane from planes_of_queriedPlane h]
  have hfilledPlane : (filled.buffers i).plane = plane :=
    congrArg Buffer.plane (setBuffer_self (cleared s i) i _)
  let kept := setBuffer filled i ⟨o.mmap i, plane, plane.length.toNat⟩
  have hkept : kept.buffers i = ⟨o.mmap i, plane, plane.length.toNat⟩ :=
    setBuffer_self filled i _
  have hothers : ∀ j, j ≠ i → kept.buffers j = s.buffers j := by
    intro j hj
    rw [setBuffer_of_ne filled hj, setBuffer_of_ne (cleared s i) hj]
    exact setBuffer_of_ne _ hj _
  have hstart : (kept.buffers i).start = (mappingOf o s i).map Mapping.start := by
    rw [hkept, hmapping, Option.map_map]
    exact Option.map_id'.symm
  have hlength : ∀ m, mappingOf o s i = some m → (kept.buffers i).length = m.length := by
    intro m hm
    rw [hmapping] at hm
    obtain ⟨start, -, rfl⟩ := Option.map_eq_some_iff.mp hm
    rw [hkept]
  have hplane : ∀ other, queriedPlane o s i = some other → (kept.buffers i).plane = other := by
    intro other hother
    rw [hkept]
    exact Option.some.inj (h.symm.trans hother)
  change QueryTurn o i s { (queryBuffer (o.querybuf i) (o.mmap i) i (cleared s i)).2 with
    mBuffers := i + 1 }
  unfold queryBuffer
  rw [hcalls, if_pos rfl, hfilled]
  dsimp only
  rw [hfilledPlane]
  split
  · rename_i hmmap
    exact
      { mSensor := rfl
        fd := rfl
        isCamOpen := rfl
        descriptors := rfl
        device := rfl
        mBuffers := rfl
        others := hothers
        start := hstart
        length := hlength
        plane := hplane
        mappings := by rw [hmapping, hmmap]; rfl }
  · rename_i start hmmap
    exact
      { mSensor := rfl
        fd := rfl
        isCamOpen := rfl
        descriptors := rfl
        device := rfl
        mBuffers := rfl
        others := hothers
        start := hstart
        length := hlength
        plane := hplane
        mappings := by rw [hmapping, hmmap]; rfl }

theorem queryTurn_spec (o : OpenOutcome) (s : V4l2) (i : Nat) :
    QueryTurn o i s (queryTurn o s i) := by
  rcases hqueried : queriedPlane o s i with _ | plane
  · exact queryTurn_refused hqueried
  · exact queryTurn_queried hqueried

/-- What the first `n` turns of the loop do together. -/
structure Queried (o : OpenOutcome) (n : Nat) (s t : V4l2) : Prop where
  mSensor : t.mSensor = s.mSensor
  fd : t.fd = s.fd
  isCamOpen : t.isCamOpen = s.isCamOpen
  descriptors : t.sys.descriptors = s.sys.descriptors
  device : t.sys.device = s.sys.device
  mBuffers : t.mBuffers = n
  start : ∀ i < n, (t.buffers i).start = (mappingOf o s i).map Mapping.start
  length : ∀ i < n, ∀ m, mappingOf o s i = some m → (t.buffers i).length = m.length
  plane : ∀ i < n, ∀ plane, queriedPlane o s i = some plane → (t.buffers i).plane = plane
  mappings : t.sys.mappings = ((List.range n).filterMap (mappingOf o s)).reverse ++ s.sys.mappings

theorem queryTurns_spec (o : OpenOutcome) {s : V4l2} (hzero : s.mBuffers = 0) (n : Nat) :
    Queried o n s ((List.range n).foldl (queryTurn o) s) := by
  induction n with
  | zero =>
      exact ⟨rfl, rfl, rfl, rfl, rfl, hzero, fun _ h => absurd h (Nat.not_lt_zero _),
        fun _ h => absurd h (Nat.not_lt_zero _), fun _ h => absurd h (Nat.not_lt_zero _), rfl⟩
  | succ n ih =>
      rw [List.range_succ, List.foldl_append]
      change Queried o (n + 1) s (queryTurn o ((List.range n).foldl (queryTurn o) s) n)
      generalize (List.range n).foldl (queryTurn o) s = t at ih
      have hturn := queryTurn_spec o t n
      have hplane : queriedPlane o t n = queriedPlane o s n := by
        unfold queriedPlane live
        rw [ih.fd, ih.descriptors, ih.device]
      have hmapping : mappingOf o t n = mappingOf o s n := by
        unfold mappingOf
        rw [hplane]
      have hcases : ∀ i < n + 1, i = n ∨ i ≠ n ∧ i < n := by omega
      exact
        { mSensor := hturn.mSensor.trans ih.mSensor
          fd := hturn.fd.trans ih.fd
          isCamOpen := hturn.isCamOpen.trans ih.isCamOpen
          descriptors := hturn.descriptors.trans ih.descriptors
          device := hturn.device.trans ih.device
          mBuffers := hturn.mBuffers
          start := by
            intro i hi
            rcases hcases i hi with rfl | ⟨hne, hlt⟩
            · rw [hturn.start, hmapping]
            · rw [hturn.others i hne, ih.start i hlt]
          length := by
            intro i hi m hm
            rcases hcases i hi with rfl | ⟨hne, hlt⟩
            · exact hturn.length m (hmapping.trans hm)
            · rw [hturn.others i hne, ih.length i hlt m hm]
          plane := by
            intro i hi plane hquery
            rcases hcases i hi with rfl | ⟨hne, hlt⟩
            · exact hturn.plane plane (hplane.trans hquery)
            · rw [hturn.others i hne, ih.plane i hlt plane hquery]
          mappings := by
            have hlast : (List.filterMap (mappingOf o s) [n]).reverse =
                (mappingOf o s n).toList := by
              rcases hm : mappingOf o s n with _ | m
              · simp [hm]
              · simp [hm]
            rw [hturn.mappings, ih.mappings, hmapping, List.range_succ, List.filterMap_append,
              List.reverse_append, hlast, List.append_assoc] }

def requested (o : OpenOutcome) (s : V4l2) : V4l2 :=
  { (requestBuffer o.reqbufs (setFormat o.sFmt s).2).2 with mBuffers := 0 }

theorem queryBuffers_spec (o : OpenOutcome) (s : V4l2) :
    Queried o frameNum (requested o s) (queryBuffers o (requested o s)) :=
  queryTurns_spec o rfl frameNum

/-- What the set-up of a node leaves the object with. -/
structure SetUp (o : OpenOutcome) (s t : V4l2) : Prop where
  mSensor : t.mSensor = s.mSensor
  fd : t.fd = s.fd
  descriptors : t.sys.descriptors = s.sys.descriptors
  mBuffers : t.mBuffers = frameNum
  start : ∀ i < frameNum, (t.buffers i).start = (mappingOf o (requested o s) i).map Mapping.start
  length : ∀ i < frameNum, ∀ m, mappingOf o (requested o s) i = some m →
    (t.buffers i).length = m.length
  mappings : t.sys.mappings =
    ((List.range frameNum).filterMap (mappingOf o (requested o s))).reverse ++ s.sys.mappings

theorem setUp_spec (o : OpenOutcome) (s : V4l2) : SetUp o s (setUp o s) := by
  have hrequested : SameHold s (requestBuffer o.reqbufs (setFormat o.sFmt s).2).2 :=
    (sameHold_setFormat o.sFmt s).trans (sameHold_requestBuffer o.reqbufs (setFormat o.sFmt s).2)
  have hmSensor : (requested o s).mSensor = s.mSensor := hrequested.mSensor
  have hfd : (requested o s).fd = s.fd := hrequested.fd
  have hdescriptors : (requested o s).sys.descriptors = s.sys.descriptors :=
    hrequested.descriptors
  have hmappings : (requested o s).sys.mappings = s.sys.mappings := hrequested.mappings
  have hqueried := queryBuffers_spec o s
  have hstarted : SameHold (queryBuffers o (requested o s)) (setUp o s) :=
    (sameHold_queueBuffers o (queryBuffers o (requested o s))).trans
      (sameHold_startStreaming o.streamon (queueBuffers o (queryBuffers o (requested o s))))
  generalize queryBuffers o (requested o s) = t at hqueried hstarted
  exact
    { mSensor := by rw [hstarted.mSensor, hqueried.mSensor, hmSensor]
      fd := by rw [hstarted.fd, hqueried.fd, hfd]
      descriptors := by rw [hstarted.descriptors, hqueried.descriptors, hdescriptors]
      mBuffers := by rw [hstarted.mBuffers, hqueried.mBuffers]
      start := fun i hi => by rw [hstarted.start, hqueried.start i hi]
      length := fun i hi m hm => by rw [hstarted.length, hqueried.length i hi m hm]
      mappings := by rw [hstarted.mappings, hqueried.mappings, hmappings] }

def Offers (querycap : Option U32) : Prop :=
  ∃ capabilities, querycap = some capabilities ∧
    capabilities &&& v4l2CapVideoCaptureMplane = v4l2CapVideoCaptureMplane ∧
    capabilities &&& v4l2CapStreaming = v4l2CapStreaming

def reached (sensor : SensorType) (o : OpenOutcome) (s : V4l2) : V4l2 :=
  sysOpen o.opened { s with mSensor := sensor }

theorem openNode_cases (o : OpenOutcome) (s : V4l2) :
    (¬Offers o.querycap ∧ openNode o s = (-1, s)) ∨
      (Offers o.querycap ∧ openNode o s = (1, { setUp o s with isCamOpen := true })) := by
  unfold openNode
  rcases o.querycap with _ | capabilities
  · refine .inl ⟨?_, rfl⟩
    rintro ⟨capabilities, h, -⟩
    exact absurd h nofun
  · dsimp only
    split
    · rename_i hmplane
      refine .inl ⟨?_, rfl⟩
      rintro ⟨other, h, hoffers, -⟩
      rw [← Option.some.inj h] at hoffers
      exact hmplane hoffers
    · rename_i hmplane
      split
      · rename_i hstreaming
        refine .inl ⟨?_, rfl⟩
        rintro ⟨other, h, -, hoffers⟩
        rw [← Option.some.inj h] at hoffers
        exact hstreaming hoffers
      · rename_i hstreaming
        exact .inr ⟨⟨capabilities, rfl, not_not.mp hmplane, not_not.mp hstreaming⟩, rfl⟩

theorem open_cases (sensor : SensorType) (o : OpenOutcome) (s : V4l2) :
    (o.opened = none ∧ V4l2.open sensor o s = (-1, reached sensor o s)) ∨
      (o.opened ≠ none ∧ ¬Offers o.querycap ∧
        V4l2.open sensor o s = (-1, reached sensor o s)) ∨
      (o.opened ≠ none ∧ Offers o.querycap ∧
        V4l2.open sensor o s = (1, { setUp o (reached sensor o s) with isCamOpen := true })) := by
  have hopen : V4l2.open sensor o s = if (reached sensor o s).fd < 0 then
      (-1, reached sensor o s) else openNode o (reached sensor o s) := rfl
  rw [hopen]
  rcases hopened : o.opened with _ | ⟨fd, device⟩
  · have hfd : (reached sensor o s).fd < 0 := by
      unfold reached
      rw [hopened]
      exact Int.negSucc_lt_zero 0
    exact .inl ⟨rfl, if_pos hfd⟩
  · have hfd : ¬(reached sensor o s).fd < 0 := by
      unfold reached
      rw [hopened]
      exact Int.not_lt.mpr (Int.natCast_nonneg fd)
    rw [if_neg hfd]
    rcases openNode_cases o (reached sensor o s) with ⟨hoffers, hrun⟩ | ⟨hoffers, hrun⟩
    · exact .inr (.inl ⟨nofun, hoffers, hrun⟩)
    · exact .inr (.inr ⟨nofun, hoffers, hrun⟩)

/-- The mappings that `munmap` of the first `n` entries frees. -/
def freed (ok : Nat → Bool) (s : V4l2) (n : Nat) (m : Mapping) : Bool :=
  (List.range n).any fun i => ok i && decide ((s.buffers i).start = some m.start) &&
    decide (m.length = (s.buffers i).length)

def withMappings (s : V4l2) (mappings : List Mapping) : V4l2 :=
  { s with sys := { s.sys with mappings := mappings } }

theorem munmaps_spec (ok : Nat → Bool) (s : V4l2) (n : Nat) :
    (List.range n).foldl (fun s i => munmap (ok i) i s) s =
      withMappings s (s.sys.mappings.filter fun m => !freed ok s n m) := by
  induction n with
  | zero =>
      change s = withMappings s (s.sys.mappings.filter fun _ => true)
      rw [List.filter_true]
      rfl
  | succ n ih =>
      rw [List.range_succ, List.foldl_append, ih]
      change munmap (ok n) n (withMappings s (s.sys.mappings.filter fun m => !freed ok s n m)) = _
      have hfreed : ∀ m, freed ok s (n + 1) m = (freed ok s n m ||
          (ok n && decide ((s.buffers n).start = some m.start) &&
            decide (m.length = (s.buffers n).length))) := by
        intro m
        unfold freed
        rw [List.range_succ, List.any_append, List.any_cons, List.any_nil, Bool.or_false]
      simp only [hfreed, Bool.not_or]
      unfold munmap
      have hbuffers : (withMappings s (s.sys.mappings.filter fun m => !freed ok s n m)).buffers =
          s.buffers := rfl
      rw [hbuffers]
      rcases hstart : (s.buffers n).start with _ | start
      · simp
      · rcases ok n with _ | _
        · simp
        · change withMappings s (List.filter _ (List.filter _ _)) = _
          rw [List.filter_filter]
          congr 2
          funext m
          rw [Bool.and_comm]
          congr 2
          rw [Bool.true_and]
          congr 1
          simp only [Option.some.injEq, eq_comm]

theorem release_open (o : ReleaseOutcome) {s : V4l2} (hopen : s.isCamOpen = true) :
    (V4l2.release o s).isCamOpen = false ∧
      (V4l2.release o s).sys.descriptors =
        (if o.close then s.sys.descriptors.erase s.fd else s.sys.descriptors) ∧
      (V4l2.release o s).sys.mappings =
        s.sys.mappings.filter fun m => !freed o.munmap s s.mBuffers m := by
  have hstop := sameHold_stopStreaming o.streamoff s
  unfold V4l2.release
  rw [if_pos hopen]
  dsimp only
  generalize (stopStreaming o.streamoff s).2 = t at hstop
  have hfreed : freed o.munmap t t.mBuffers = freed o.munmap s s.mBuffers := by
    funext m
    unfold freed
    simp only [hstop.mBuffers, hstop.start, hstop.length]
  rw [munmaps_spec, hfreed, hstop.mappings]
  unfold close
  refine ⟨rfl, ?_, ?_⟩
  · rw [← hstop.descriptors, ← hstop.fd]
    split <;> rfl
  · split <;> rfl

theorem release_closed (o : ReleaseOutcome) {s : V4l2} (hclosed : s.isCamOpen = false) :
    V4l2.release o s = s := by
  unfold V4l2.release
  rw [hclosed]
  rfl

/-- At most one descriptor, and at most one set of mappings. -/
def OwnsOne (s : V4l2) : Prop :=
  s.sys.descriptors.length ≤ 1 ∧ s.sys.mappings.length ≤ frameNum

def cleanRelease : ReleaseOutcome := ⟨true, fun _ => true, true⟩

/-- All that is held would be freed by a release. -/
def ReleaseFrees (s : V4l2) : Prop :=
  (V4l2.release cleanRelease s).sys.descriptors = [] ∧
    (V4l2.release cleanRelease s).sys.mappings = []

def Owned (s : V4l2) : Prop := OwnsOne s ∧ ReleaseFrees s

/-- What an open object holds: the descriptor in `fd`, and the mappings in `buffers`. -/
structure Holding (s : V4l2) : Prop where
  descriptors : s.sys.descriptors = [s.fd]
  fd_nonneg : 0 ≤ s.fd
  mBuffers : s.mBuffers = frameNum
  count : s.sys.mappings.length ≤ frameNum
  covered : ∀ m ∈ s.sys.mappings, ∃ i < frameNum,
    (s.buffers i).start = some m.start ∧ m.length = (s.buffers i).length
  mapped : ∀ i < frameNum, ∀ start, (s.buffers i).start = some start →
    ∃ m ∈ s.sys.mappings, m.start = start
  distinct : ∀ i < frameNum, ∀ j < frameNum, ∀ start, (s.buffers i).start = some start →
    (s.buffers j).start = some start → i = j

/-- What every call relies on: a closed object holds nothing. -/
structure HoldInvariant (s : V4l2) : Prop where
  closed : s.isCamOpen = false → s.sys.descriptors = [] ∧ s.sys.mappings = []
  opened : s.isCamOpen = true → Holding s

theorem HoldInvariant.owned {s : V4l2} (h : HoldInvariant s) : Owned s := by
  rcases hopen : s.isCamOpen with _ | _
  · obtain ⟨hdescriptors, hmappings⟩ := h.closed hopen
    unfold Owned OwnsOne ReleaseFrees
    rw [release_closed cleanRelease hopen, hdescriptors, hmappings]
    exact ⟨⟨Nat.zero_le 1, Nat.zero_le frameNum⟩, rfl, rfl⟩
  · have hholding := h.opened hopen
    obtain ⟨-, hdescriptors, hmappings⟩ := release_open cleanRelease hopen
    refine ⟨⟨?_, hholding.count⟩, ?_, ?_⟩
    · rw [hholding.descriptors]
      exact le_refl 1
    · rw [hdescriptors, hholding.descriptors]
      simp [cleanRelease]
    · rw [hmappings, List.filter_eq_nil_iff]
      intro m hm
      obtain ⟨i, hi, hstart, hlength⟩ := hholding.covered m hm
      rw [hholding.mBuffers, Bool.not_eq_true', Bool.not_eq_false]
      unfold freed
      rw [List.any_eq_true]
      refine ⟨i, List.mem_range.mpr hi, ?_⟩
      rw [hstart, hlength]
      simp [cleanRelease]

theorem holdInvariant_same {s t : V4l2} (hs : HoldInvariant s) (h : SameHold s t) :
    HoldInvariant t where
  closed hclosed := by
    rw [h.isCamOpen] at hclosed
    rw [h.descriptors, h.mappings]
    exact hs.closed hclosed
  opened hopen := by
    rw [h.isCamOpen] at hopen
    have hholding := hs.opened hopen
    exact
      { descriptors := by rw [h.descriptors, h.fd]; exact hholding.descriptors
        fd_nonneg := by rw [h.fd]; exact hholding.fd_nonneg
        mBuffers := by rw [h.mBuffers]; exact hholding.mBuffers
        count := by rw [h.mappings]; exact hholding.count
        covered := by
          simp only [h.mappings, h.start, h.length]
          exact hholding.covered
        mapped := by
          simp only [h.mappings, h.start]
          exact hholding.mapped
        distinct := by
          simp only [h.start]
          exact hholding.distinct }

theorem mappingOf_start {o : OpenOutcome} {s : V4l2} {i : Nat} {m : Mapping}
    (h : mappingOf o s i = some m) : o.mmap i = some m.start := by
  unfold mappingOf at h
  obtain ⟨plane, -, hmap⟩ := Option.bind_eq_some_iff.mp h
  obtain ⟨start, hstart, rfl⟩ := Option.map_eq_some_iff.mp hmap
  exact hstart

theorem holding_setUp {o : OpenOutcome} {s : V4l2} (hdescriptors : s.sys.descriptors = [s.fd])
    (hfd : 0 ≤ s.fd) (hmappings : s.sys.mappings = []) :
    Holding { setUp o s with isCamOpen := true } := by
  have hsetUp := setUp_spec o s
  generalize setUp o s = t at hsetUp
  have hmem : ∀ m ∈ t.sys.mappings, ∃ i < frameNum, mappingOf o (requested o s) i = some m := by
    intro m hm
    rw [hsetUp.mappings, hmappings, List.append_nil, List.mem_reverse, List.mem_filterMap] at hm
    obtain ⟨i, hi, h⟩ := hm
    exact ⟨i, List.mem_range.mp hi, h⟩
  have hstart : ∀ i < frameNum, ∀ start, (t.buffers i).start = some start →
      ∃ m, mappingOf o (requested o s) i = some m ∧ m.start = start := by
    intro i hi start h
    rw [hsetUp.start i hi] at h
    exact Option.map_eq_some_iff.mp h
  refine
    { descriptors := ?_
      fd_nonneg := ?_
      mBuffers := hsetUp.mBuffers
      count := ?_
      covered := ?_
      mapped := ?_
      distinct := ?_ }
  · change t.sys.descriptors = [t.fd]
    rw [hsetUp.descriptors, hsetUp.fd]
    exact hdescriptors
  · change 0 ≤ t.fd
    rw [hsetUp.fd]
    exact hfd
  · change t.sys.mappings.length ≤ frameNum
    rw [hsetUp.mappings, hmappings, List.append_nil, List.length_reverse]
    calc
      _ ≤ (List.range frameNum).length := List.length_filterMap_le _ _
      _ = frameNum := List.length_range
  · intro m hm
    obtain ⟨i, hi, h⟩ := hmem m hm
    refine ⟨i, hi, ?_, (hsetUp.length i hi m h).symm⟩
    rw [hsetUp.start i hi, h]
    rfl
  · intro i hi start h
    obtain ⟨m, hm, heq⟩ := hstart i hi start h
    refine ⟨m, ?_, heq⟩
    change m ∈ t.sys.mappings
    rw [hsetUp.mappings, List.mem_append, List.mem_reverse, List.mem_filterMap]
    exact .inl ⟨i, List.mem_range.mpr hi, hm⟩
  · intro i hi j hj start h h'
    obtain ⟨m, hm, heq⟩ := hstart i hi start h
    obtain ⟨m', hm', heq'⟩ := hstart j hj start h'
    refine o.mmap_injective i j start ?_ ?_
    · rw [mappingOf_start hm, heq]
    · rw [mappingOf_start hm', heq']

/-- A closed object is opened, and what reaches the node can use it; a release unmaps
and closes. -/
def CallFits (s : V4l2) : Call → Prop
  | .open _ o => s.isCamOpen = false ∧ (o.opened = none ∨ Offers o.querycap)
  | .read _ => True
  | .release o => s.isCamOpen = true → o.close = true ∧
      ∀ i < s.mBuffers, (s.buffers i).start ≠ none → o.munmap i = true

theorem reached_hold (sensor : SensorType) (o : OpenOutcome) (s : V4l2) :
    (reached sensor o s).isCamOpen = s.isCamOpen ∧
      (reached sensor o s).sys.mappings = s.sys.mappings ∧
      ((o.opened = none ∧ (reached sensor o s).fd = -1 ∧
          (reached sensor o s).sys.descriptors = s.sys.descriptors) ∨
        (o.opened ≠ none ∧ 0 ≤ (reached sensor o s).fd ∧ (reached sensor o s).sys.descriptors =
          (reached sensor o s).fd :: s.sys.descriptors)) := by
  unfold reached sysOpen
  rcases o.opened with _ | ⟨fd, device⟩
  · exact ⟨rfl, rfl, .inl ⟨rfl, rfl, rfl⟩⟩
  · exact ⟨rfl, rfl, .inr ⟨nofun, Int.natCast_nonneg fd, rfl⟩⟩

theorem holdInvariant_open {s : V4l2} (hs : HoldInvariant s) {sensor : SensorType}
    {o : OpenOutcome} (hfits : CallFits s (.open sensor o)) :
    HoldInvariant (V4l2.open sensor o s).2 := by
  obtain ⟨hclosed, hoffers⟩ := hfits
  obtain ⟨hdescriptors, hmappings⟩ := hs.closed hclosed
  obtain ⟨hopen, hsame, hreached⟩ := reached_hold sensor o s
  rcases open_cases sensor o s with ⟨hnone, hrun⟩ | ⟨hsome, hrefused, hrun⟩ | ⟨hsome, -, hrun⟩
  · rw [hrun]
    rcases hreached with ⟨-, -, hkept⟩ | ⟨hsome, -⟩
    · refine ⟨fun _ => ?_, fun h => absurd ((hopen.trans hclosed).symm.trans h) (by decide)⟩
      change (reached sensor o s).sys.descriptors = [] ∧ (reached sensor o s).sys.mappings = []
      rw [hkept, hsame]
      exact ⟨hdescriptors, hmappings⟩
    · exact absurd hnone hsome
  · rcases hoffers with hnone | hoffers
    · exact absurd hnone hsome
    · exact absurd hoffers hrefused
  · rw [hrun]
    rcases hreached with ⟨hnone, -⟩ | ⟨-, hfd, hheld⟩
    · exact absurd hnone hsome
    · refine ⟨fun h => absurd h.symm Bool.false_ne_true, fun _ => ?_⟩
      refine holding_setUp ?_ hfd ?_
      · rw [hheld, hdescriptors]
      · rw [hsame, hmappings]

theorem holdInvariant_release {s : V4l2} (hs : HoldInvariant s) {o : ReleaseOutcome}
    (hfits : CallFits s (.release o)) : HoldInvariant (V4l2.release o s) := by
  rcases hopen : s.isCamOpen with _ | _
  · rw [release_closed o hopen]
    exact hs
  · have hholding := hs.opened hopen
    obtain ⟨hclosed, hdescriptors, hmappings⟩ := release_open o hopen
    obtain ⟨hclose, hmunmap⟩ := hfits hopen
    refine ⟨fun _ => ⟨?_, ?_⟩, fun h => absurd (hclosed.symm.trans h) (by decide)⟩
    · rw [hdescriptors, hclose, hholding.descriptors]
      simp
    · rw [hmappings, List.filter_eq_nil_iff]
      intro m hm
      obtain ⟨i, hi, hstart, hlength⟩ := hholding.covered m hm
      rw [Bool.not_eq_true', Bool.not_eq_false]
      unfold freed
      rw [List.any_eq_true, hholding.mBuffers]
      refine ⟨i, List.mem_range.mpr hi, ?_⟩
      rw [hmunmap i (by rw [hholding.mBuffers]; exact hi) (by rw [hstart]; exact nofun), hstart,
        hlength]
      simp

/-- An object that is closed and holds something cannot free it. -/
theorem Owned.closed {s : V4l2} (h : Owned s) (hclosed : s.isCamOpen = false) :
    s.sys.descriptors = [] ∧ s.sys.mappings = [] := by
  have hfrees := h.2
  unfold ReleaseFrees at hfrees
  rw [release_closed cleanRelease hclosed] at hfrees
  exact hfrees

theorem callFits_of_open {s : V4l2} (hs : HoldInvariant s) {sensor : SensorType}
    {o : OpenOutcome} (howned : Owned (V4l2.open sensor o s).2) :
    CallFits s (.open sensor o) := by
  obtain ⟨hsame, -, hreached⟩ := reached_hold sensor o s
  rcases hopen : s.isCamOpen with _ | _
  · refine ⟨hopen, ?_⟩
    rcases open_cases sensor o s with ⟨hnone, -⟩ | ⟨hsome, -, hrun⟩ | ⟨-, hoffers, -⟩
    · exact .inl hnone
    · rw [hrun] at howned
      have hheld := (howned.closed (hsame.trans hopen)).1
      rcases hreached with ⟨hnone, -⟩ | ⟨-, -, hdescriptors⟩
      · exact .inl hnone
      · exact absurd (hdescriptors.symm.trans hheld) (List.cons_ne_nil _ _)
    · exact .inr hoffers
  · exfalso
    have hholding := hs.opened hopen
    have hold : ∀ t : V4l2, t.sys.descriptors = (reached sensor o s).sys.descriptors →
        t.fd = (reached sensor o s).fd → t.isCamOpen = true → ¬Owned t := by
      intro t hdescriptors hfd hstill howned
      rcases hreached with ⟨-, hminus, hkept⟩ | ⟨-, -, hmore⟩
      · have hfrees := howned.2.1
        obtain ⟨-, hleft, -⟩ := release_open cleanRelease hstill
        rw [hleft, hdescriptors, hkept, hholding.descriptors, hfd, hminus] at hfrees
        have hne : s.fd ≠ -1 := by
          have hnonneg := hholding.fd_nonneg
          omega
        simp [cleanRelease, hne] at hfrees
      · have hone := howned.1.1
        rw [hdescriptors, hmore, hholding.descriptors] at hone
        exact absurd hone (by simp)
    rcases open_cases sensor o s with ⟨-, hrun⟩ | ⟨-, -, hrun⟩ | ⟨-, -, hrun⟩
    · rw [hrun] at howned
      exact hold _ rfl rfl (hsame.trans hopen) howned
    · rw [hrun] at howned
      exact hold _ rfl rfl (hsame.trans hopen) howned
    · rw [hrun] at howned
      have hsetUp := setUp_spec o (reached sensor o s)
      generalize setUp o (reached sensor o s) = t at hsetUp howned
      exact hold { t with isCamOpen := true } hsetUp.descriptors hsetUp.fd rfl howned

theorem callFits_of_release {s : V4l2} (hs : HoldInvariant s) {o : ReleaseOutcome}
    (howned : Owned (V4l2.release o s)) : CallFits s (.release o) := by
  intro hopen
  have hholding := hs.opened hopen
  obtain ⟨hclosed, hdescriptors, hmappings⟩ := release_open o hopen
  obtain ⟨hnone, hunmapped⟩ := howned.closed hclosed
  constructor
  · by_contra hclose
    rw [hdescriptors, if_neg hclose, hholding.descriptors] at hnone
    exact List.cons_ne_nil _ _ hnone
  · intro i hi hstarted
    rw [hholding.mBuffers] at hi
    obtain ⟨start, hstart⟩ := Option.ne_none_iff_exists'.mp hstarted
    obtain ⟨m, hm, rfl⟩ := hholding.mapped i hi start hstart
    rw [hmappings, List.filter_eq_nil_iff] at hunmapped
    have hfreed := hunmapped m hm
    rw [Bool.not_eq_true', Bool.not_eq_false] at hfreed
    unfold freed at hfreed
    rw [List.any_eq_true] at hfreed
    obtain ⟨j, hj, hmatch⟩ := hfreed
    simp only [Bool.and_eq_true, decide_eq_true_eq] at hmatch
    rw [hholding.mBuffers] at hj
    have hsame := hholding.distinct i hi j (List.mem_range.mp hj) m.start hstart hmatch.1.2
    rw [hsame]
    exact hmatch.1.1

/-- From the constructor on, whatever the system calls do: the object holds at most one
descriptor and one set of mappings, all of which a release would free, after every call
of a run exactly when only a closed object is opened, a descriptor is only obtained of a
node that can be used, and a release unmaps and closes. -/
theorem captureOwned_iff (mSensor : SensorType) (buffers : Nat → Buffer) (mBuffers : Nat)
    (device : VideoDevice) (calls : List Call) :
    Always step Owned (construct mSensor buffers mBuffers device) calls ↔
      Along step CallFits (construct mSensor buffers mBuffers device) calls := by
  have hstart : HoldInvariant (construct mSensor buffers mBuffers device) :=
    ⟨fun _ => ⟨rfl, rfl⟩, fun h => absurd h Bool.false_ne_true⟩
  refine always_iff_along_of_exact (E := fun _ _ => True) (fun s hs => hs.owned)
    (fun s call hs _ hfits => ?_) (fun s call hs _ howned => ?_) hstart
    (along_of_forall (fun _ _ => trivial) _ calls)
  · cases call with
    | «open» sensor o => exact holdInvariant_open hs hfits
    | read o => exact holdInvariant_same hs (sameHold_read _ o s)
    | release o => exact holdInvariant_release hs hfits
  · cases call with
    | «open» sensor o => exact callFits_of_open hs howned
    | read o => trivial
    | release o => exact callFits_of_release hs howned

/-- A node that captures to single planes only. -/
def singlePlaneNode : OpenOutcome where
  opened := some (5, ⟨⟨1280, 800, v4l2PixFmtSbggr8⟩, [], [], false, fun _ => []⟩)
  querycap := some 0x04000001
  sFmt := none
  reqbufs := none
  querybuf := fun _ => false
  mmap := fun _ => none
  qbuf := fun _ => false
  streamon := false
  mmap_injective := nofun
  offsets_nodup := nofun

/-- An open that finds a node it cannot use keeps its descriptor, and a release does not
close it. -/
theorem singlePlaneNode_keepsDescriptor : ¬Always step Owned
    (construct .ar0144 (fun _ => ⟨none, ⟨0, 0⟩, 0⟩) 0
      ⟨⟨1280, 800, v4l2PixFmtSbggr8⟩, [], [], false, fun _ => []⟩)
    [.open .ar0144 singlePlaneNode, .release cleanRelease] := by
  intro howned
  have hheld : (exec step (construct .ar0144 (fun _ => ⟨none, ⟨0, 0⟩, 0⟩) 0
      ⟨⟨1280, 800, v4l2PixFmtSbggr8⟩, [], [], false, fun _ => []⟩)
      [.open .ar0144 singlePlaneNode, .release cleanRelease]).sys.descriptors = [5] := by
    decide +kernel
  have hclosed : (exec step (construct .ar0144 (fun _ => ⟨none, ⟨0, 0⟩, 0⟩) 0
      ⟨⟨1280, 800, v4l2PixFmtSbggr8⟩, [], [], false, fun _ => []⟩)
      [.open .ar0144 singlePlaneNode, .release cleanRelease]).isCamOpen = false := by
    decide +kernel
  have hnone := (howned.last.closed hclosed).1
  rw [hheld] at hnone
  exact List.cons_ne_nil _ _ hnone

end CameraPorting.App.CaptureResources
