import CameraPorting.App.CaptureResources

namespace CameraPorting.App.CaptureOpen

open CameraPorting.Kernel.Media
open CameraPorting.App.CaptureClass
open CameraPorting.App.CaptureResources

structure Queued (o : OpenOutcome) (n : Nat) (s t : V4l2) : Prop extends SameHold s t where
  format : t.sys.device.format = s.sys.device.format
  planes : t.sys.device.planes = s.sys.device.planes
  streaming : t.sys.device.streaming = s.sys.device.streaming
  queued : ∀ j, j ∈ t.sys.device.queued ↔ j ∈ s.sys.device.queued ∨
    j < n ∧ CaptureClass.live s = true ∧ o.qbuf j = true ∧ j < s.sys.device.planes.length
  plane : ∀ i plane, s.sys.device.planes[i]? = some plane → (s.buffers i).plane = plane →
    (t.buffers i).plane = plane
  filled : ∀ i, i ∈ t.sys.device.queued → i ∉ s.sys.device.queued →
    s.sys.device.planes[i]? = some (t.buffers i).plane
  nodup : s.sys.device.queued.Nodup → t.sys.device.queued.Nodup

theorem fillPlane_plane {index : Nat} {s : V4l2} {plane : V4l2Plane}
    (hplane : s.sys.device.planes[index]? = some plane) (entry : Nat) :
    ((fillPlane index entry s).buffers entry).plane = plane ∧
      ∀ i, i ≠ entry → (fillPlane index entry s).buffers i = s.buffers i := by
  unfold fillPlane
  rw [hplane]
  exact ⟨congrArg Buffer.plane (setBuffer_self s entry _), fun i hi => setBuffer_of_ne s hi _⟩

theorem queued_refused {o : OpenOutcome} {s t : V4l2} {n : Nat} (h : Queued o n s t)
    (hcalls : ¬(live s && o.qbuf n && decide (n < s.sys.device.planes.length) &&
      decide (n ∉ t.sys.device.queued)) = true) : Queued o (n + 1) s t := by
  simp only [Bool.and_eq_true, decide_eq_true_eq, not_and, not_not] at hcalls
  refine { h with queued := fun j => ?_ }
  rw [h.queued j]
  constructor
  · rintro (hmem | ⟨hj, hrest⟩)
    · exact .inl hmem
    · exact .inr ⟨Nat.lt_succ_of_lt hj, hrest⟩
  · rintro (hmem | ⟨hj, hreached, hqbuf, hlt⟩)
    · exact .inl hmem
    · rcases Nat.lt_succ_iff_lt_or_eq.mp hj with hj | rfl
      · exact .inr ⟨hj, hreached, hqbuf, hlt⟩
      · exact (h.queued j).mp (hcalls ⟨⟨hreached, hqbuf⟩, hlt⟩)

theorem queued_accepted {o : OpenOutcome} {s t u : V4l2} {n : Nat} (h : Queued o n s t)
    (hsame : SameHold s u) (hbuffers : u.buffers = (fillPlane n n t).buffers)
    (hdevice : u.sys.device = { t.sys.device with queued := n :: t.sys.device.queued })
    (hreached : live s = true) (hqbuf : o.qbuf n = true) (hlt : n < s.sys.device.planes.length)
    (hfree : n ∉ t.sys.device.queued) : Queued o (n + 1) s u := by
  have hlast : t.sys.device.planes[n]? = some s.sys.device.planes[n] := by
    rw [h.planes]
    exact List.getElem?_eq_getElem hlt
  obtain ⟨hentry, hothers⟩ := fillPlane_plane hlast n
  refine { hsame with
    format := (congrArg VideoDevice.format hdevice).trans h.format
    planes := (congrArg VideoDevice.planes hdevice).trans h.planes
    streaming := (congrArg VideoDevice.streaming hdevice).trans h.streaming
    queued := fun j => ?_
    plane := fun i plane hplane hkept => ?_
    filled := fun i hi hfresh => ?_
    nodup := fun hnodup => ?_ }
  · rw [hdevice, List.mem_cons, h.queued j]
    constructor
    · rintro (rfl | hmem | ⟨hj, hrest⟩)
      · exact .inr ⟨Nat.lt_succ_self j, hreached, hqbuf, hlt⟩
      · exact .inl hmem
      · exact .inr ⟨Nat.lt_succ_of_lt hj, hrest⟩
    · rintro (hmem | ⟨hj, hrest⟩)
      · exact .inr (.inl hmem)
      · rcases Nat.lt_succ_iff_lt_or_eq.mp hj with hj | rfl
        · exact .inr (.inr ⟨hj, hrest⟩)
        · exact .inl rfl
  · rw [hbuffers]
    by_cases hi : i = n
    · subst hi
      rw [hentry]
      exact Option.some.inj ((List.getElem?_eq_getElem hlt).symm.trans hplane)
    · rw [hothers i hi]
      exact h.plane i plane hplane hkept
  · rw [hbuffers]
    rw [hdevice] at hi
    by_cases hin : i = n
    · subst hin
      rw [hentry]
      exact List.getElem?_eq_getElem hlt
    · rw [hothers i hin]
      exact h.filled i ((List.mem_cons.mp hi).resolve_left hin) hfresh
  · rw [hdevice]
    exact List.nodup_cons.mpr ⟨hfree, h.nodup hnodup⟩

theorem queueTurns_spec (o : OpenOutcome) (s : V4l2) (n : Nat) :
    Queued o n s ((List.range n).foldl (fun s i => (queueBuffer (o.qbuf i) i s).2) s) := by
  induction n with
  | zero =>
      refine { SameHold.refl s with
        format := rfl
        planes := rfl
        streaming := rfl
        queued := fun j => ?_
        plane := fun _ _ _ h => h
        filled := fun i hi hfree => absurd hi hfree
        nodup := id }
      simp
  | succ n ih =>
      rw [List.range_succ, List.foldl_append]
      change Queued o (n + 1) s (queueBuffer (o.qbuf n) n
        ((List.range n).foldl (fun s i => (queueBuffer (o.qbuf i) i s).2) s)).2
      generalize (List.range n).foldl (fun s i => (queueBuffer (o.qbuf i) i s).2) s = t at ih
      have hsame := ih.toSameHold.trans (sameHold_ioctlQbuf (o.qbuf n) n n t)
      unfold queueBuffer ioctlQbuf
      unfold ioctlQbuf at hsame
      split
      · rename_i hcalls
        rw [if_pos hcalls] at hsame
        rw [show live t = live s from ih.live, ih.planes] at hcalls
        simp only [Bool.and_eq_true, decide_eq_true_eq] at hcalls
        obtain ⟨⟨⟨hreached, hqbuf⟩, hlt⟩, hfree⟩ := hcalls
        exact queued_accepted ih hsame rfl rfl hreached hqbuf hlt hfree
      · rename_i hcalls
        rw [show live t = live s from ih.live, ih.planes] at hcalls
        exact queued_refused ih hcalls

structure NodeSetUp (o : OpenOutcome) (s t : V4l2) : Prop extends SetUp o s t where
  format : t.sys.device.format = o.sFmt.getD s.sys.device.format
  planes : t.sys.device.planes = o.reqbufs.getD []
  queued : ∀ j, j ∈ t.sys.device.queued ↔
    j < frameNum ∧ o.qbuf j = true ∧ j < (o.reqbufs.getD []).length
  streaming : t.sys.device.streaming = o.streamon
  query : ∀ i, queriedPlane o (requested o s) i =
    if o.querybuf i then (o.reqbufs.getD [])[i]? else none
  plane : ∀ i < frameNum, ∀ plane, queriedPlane o (requested o s) i = some plane →
    (t.buffers i).plane = plane
  filled : ∀ i ∈ t.sys.device.queued, t.sys.device.planes[i]? = some (t.buffers i).plane
  nodup : t.sys.device.queued.Nodup

theorem requested_node {o : OpenOutcome} {s : V4l2} (hlive : live s = true)
    (hplanes : s.sys.device.planes = []) (hqueued : s.sys.device.queued = []) :
    live (requested o s) = true ∧ (requested o s).sys.device =
      { s.sys.device with
        format := o.sFmt.getD s.sys.device.format
        planes := o.reqbufs.getD [] } := by
  have hformat : (setFormat o.sFmt s).2 =
      setDevice s { s.sys.device with format := o.sFmt.getD s.sys.device.format } := by
    unfold setFormat
    rw [hlive]
    cases o.sFmt with
    | none => rfl
    | some format => rfl
  have hreached : live (setDevice s
      { s.sys.device with format := o.sFmt.getD s.sys.device.format }) = true := hlive
  unfold requested requestBuffer
  rw [hformat, hreached]
  cases o.reqbufs with
  | none =>
      refine ⟨hlive, ?_⟩
      rw [Option.getD_none, ← hplanes]
      rfl
  | some planes =>
      refine ⟨hlive, ?_⟩
      rw [Option.getD_some, ← hqueued]
      rfl

theorem setUp_node {o : OpenOutcome} {s : V4l2} (hlive : live s = true)
    (hplanes : s.sys.device.planes = []) (hqueued : s.sys.device.queued = [])
    (hstreaming : s.sys.device.streaming = false) : NodeSetUp o s (setUp o s) := by
  obtain ⟨hreached, hdevice⟩ := requested_node (o := o) hlive hplanes hqueued
  have hqueried := queryBuffers_spec o s
  have hqueuedTurns : Queued o frameNum (queryBuffers o (requested o s))
      (queueBuffers o (queryBuffers o (requested o s))) := by
    unfold queueBuffers
    rw [hqueried.mBuffers]
    exact queueTurns_spec o _ frameNum
  have hsetUp := setUp_spec o s
  change SetUp o s (startStreaming o.streamon
    (queueBuffers o (queryBuffers o (requested o s)))).2 at hsetUp
  change NodeSetUp o s (startStreaming o.streamon
    (queueBuffers o (queryBuffers o (requested o s)))).2
  generalize queryBuffers o (requested o s) = t at hqueried hqueuedTurns hsetUp
  generalize queueBuffers o t = u at hqueuedTurns hsetUp
  have hliveQueried : live t = true := by
    unfold live
    rw [hqueried.fd, hqueried.descriptors]
    exact hreached
  have hliveQueued : live u = true := hqueuedTurns.live.trans hliveQueried
  have hnode : t.sys.device = { s.sys.device with
      format := o.sFmt.getD s.sys.device.format
      planes := o.reqbufs.getD [] } := hqueried.device.trans hdevice
  have hstart : (startStreaming o.streamon u).2 = setDevice u
      { u.sys.device with streaming := o.streamon } := by
    unfold startStreaming
    rw [hliveQueued]
    cases hon : o.streamon with
    | true => rfl
    | false =>
        have hidle : u.sys.device.streaming = false := by
          rw [hqueuedTurns.streaming, hnode]
          exact hstreaming
        have hkept : setDevice u { u.sys.device with streaming := false } = u := by
          rw [← hidle]
          rfl
        exact hkept.symm
  rw [hstart] at hsetUp ⊢
  have hquery : ∀ i, queriedPlane o (requested o s) i =
      if o.querybuf i then (o.reqbufs.getD [])[i]? else none := by
    intro i
    unfold queriedPlane
    rw [hreached, hdevice, Bool.true_and]
  refine { hsetUp with
    format := ?_
    planes := ?_
    queued := fun j => ?_
    streaming := rfl
    query := hquery
    plane := fun i hi plane hplane => ?_
    filled := fun i hi => ?_
    nodup := ?_ }
  · change u.sys.device.format = _
    rw [hqueuedTurns.format, hnode]
  · change u.sys.device.planes = _
    rw [hqueuedTurns.planes, hnode]
  · change j ∈ u.sys.device.queued ↔ _
    rw [hqueuedTurns.queued j, hnode, hqueued]
    simp [hliveQueried]
  · change (u.buffers i).plane = plane
    refine hqueuedTurns.plane i plane ?_ (hqueried.plane i hi plane hplane)
    rw [hquery i] at hplane
    rw [hnode]
    split at hplane
    · exact hplane
    · exact absurd hplane nofun
  · change u.sys.device.planes[i]? = some (u.buffers i).plane
    rw [hqueuedTurns.planes]
    refine hqueuedTurns.filled i hi ?_
    rw [hnode, hqueued]
    exact List.not_mem_nil
  · change u.sys.device.queued.Nodup
    apply hqueuedTurns.nodup
    rw [hnode, hqueued]
    exact List.nodup_nil

def openMapping (o : OpenOutcome) (index : Nat) : Option Mapping :=
  (if o.querybuf index then (o.reqbufs.getD [])[index]? else none).bind fun plane =>
    (o.mmap index).map fun start => ⟨start, plane.length.toNat, plane.memOffset⟩

theorem openMapping_eq_some {o : OpenOutcome} {index : Nat} {m : Mapping} :
    openMapping o index = some m ↔ o.querybuf index = true ∧ o.mmap index = some m.start ∧
      ∃ plane, (o.reqbufs.getD [])[index]? = some plane ∧ m.length = plane.length.toNat ∧
        m.memOffset = plane.memOffset := by
  unfold openMapping
  cases o.querybuf index with
  | false => simp
  | true =>
      simp only [if_true, Option.bind_eq_some_iff, Option.map_eq_some_iff, true_and]
      constructor
      · rintro ⟨plane, hplane, start, hstart, rfl⟩
        exact ⟨hstart, plane, hplane, rfl, rfl⟩
      · rintro ⟨hstart, plane, hplane, hlength, hoffset⟩
        refine ⟨plane, hplane, m.start, hstart, ?_⟩
        rw [← hlength, ← hoffset]

theorem NodeSetUp.mapping {o : OpenOutcome} {s t : V4l2} (h : NodeSetUp o s t) (i : Nat) :
    mappingOf o (requested o s) i = openMapping o i := by
  unfold mappingOf openMapping
  rw [h.query i]

/-- What `open` promises of an open camera. -/
structure Ready (s : V4l2) : Prop where
  descriptor : s.fd ∈ s.sys.descriptors
  format : s.sys.device.format = sensors s.mSensor
  granted : s.sys.device.planes.length = frameNum
  mapped : ∀ i < s.mBuffers, ∃ start plane, (s.buffers i).start = some start ∧
    s.sys.device.planes[i]? = some plane ∧ (s.buffers i).length = plane.length.toNat ∧
      ⟨start, plane.length.toNat, plane.memOffset⟩ ∈ s.sys.mappings
  queued : ∀ i < s.mBuffers, i ∈ s.sys.device.queued
  streaming : s.sys.device.streaming = true

/-- A success is a camera that is ready, and a failure one that is not open. -/
def OpenKept (r : Int × V4l2) : Prop :=
  (r.1 = 1 ∧ r.2.isCamOpen = true ∧ Ready r.2) ∨ (r.1 = -1 ∧ r.2.isCamOpen = false)

/-- Every call after `VIDIOC_QUERYCAP` does what it was asked for. -/
structure CallsSucceed (sensor : SensorType) (o : OpenOutcome) : Prop where
  format : ∃ fd device, o.opened = some (fd, device) ∧ o.sFmt.getD device.format = sensors sensor
  reqbufs : ∃ planes, o.reqbufs = some planes ∧ planes.length = frameNum
  buffers : ∀ i < frameNum, o.querybuf i = true ∧ o.mmap i ≠ none ∧ o.qbuf i = true
  streamon : o.streamon = true

/-- An open that ends early is made of a closed object; in any other, the calls whose
results are not looked at succeed. -/
def OpenFits (s : V4l2) (sensor : SensorType) (o : OpenOutcome) : Prop :=
  (o.opened ≠ none ∧ Offers o.querycap ∧ CallsSucceed sensor o) ∨
    ((o.opened = none ∨ ¬Offers o.querycap) ∧ s.isCamOpen = false)

theorem setUp_reached {sensor : SensorType} {o : OpenOutcome} {s : V4l2} {fd : Nat}
    {device : VideoDevice} (hopened : o.opened = some (fd, device)) :
    (reached sensor o s).mSensor = sensor ∧
      (reached sensor o s).sys.device =
        { device with planes := [], queued := [], streaming := false } ∧
      live (reached sensor o s) = true ∧
      NodeSetUp o (reached sensor o s) (setUp o (reached sensor o s)) := by
  have hreached : (reached sensor o s).sys.descriptors =
      (reached sensor o s).fd :: s.sys.descriptors ∧ (reached sensor o s).mSensor = sensor ∧
      (reached sensor o s).sys.device =
        { device with planes := [], queued := [], streaming := false } := by
    unfold reached
    rw [hopened]
    exact ⟨rfl, rfl, rfl⟩
  obtain ⟨hdescriptors, hsensor, hdevice⟩ := hreached
  have hlive : live (reached sensor o s) = true := by
    unfold live
    rw [hdescriptors]
    exact decide_eq_true List.mem_cons_self
  exact ⟨hsensor, hdevice, hlive,
    setUp_node hlive (by rw [hdevice]) (by rw [hdevice]) (by rw [hdevice])⟩

theorem callsSucceed_of_ready {sensor : SensorType} {o : OpenOutcome} {s : V4l2} {fd : Nat}
    {device : VideoDevice} (hopened : o.opened = some (fd, device))
    (hready : Ready { setUp o (reached sensor o s) with isCamOpen := true }) :
    CallsSucceed sensor o := by
  obtain ⟨hsensor, hdevice, -, hnode⟩ := @setUp_reached sensor o s fd device hopened
  generalize setUp o (reached sensor o s) = t at hnode hready
  obtain ⟨-, hformat, hgranted, hmapped, hqueued, hon⟩ := hready
  have hcount : (o.reqbufs.getD []).length = frameNum := by
    rw [← hnode.planes]
    exact hgranted
  refine ⟨⟨fd, device, hopened, ?_⟩, ?_, fun i hi => ?_, ?_⟩
  · have hset := hnode.format
    rw [hdevice] at hset
    rw [← hset]
    have hkept : t.mSensor = sensor := hnode.mSensor.trans hsensor
    rw [← hkept]
    exact hformat
  · rcases hreqbufs : o.reqbufs with _ | planes
    · rw [hreqbufs] at hcount
      exact absurd hcount (by decide)
    · rw [hreqbufs] at hcount
      exact ⟨planes, rfl, hcount⟩
  · have hi' : i < t.mBuffers := by
      rw [hnode.mBuffers]
      exact hi
    obtain ⟨start, plane, hstart, -⟩ := hmapped i hi'
    have hfound := (hnode.start i hi).symm.trans hstart
    obtain ⟨m, hm, -⟩ := Option.map_eq_some_iff.mp hfound
    rw [hnode.mapping i] at hm
    obtain ⟨hquery, hmmap, -⟩ := openMapping_eq_some.mp hm
    have hqbuf := ((hnode.queued i).mp (hqueued i hi')).2.1
    exact ⟨hquery, Option.ne_none_iff_exists'.mpr ⟨_, hmmap⟩, hqbuf⟩
  · rw [← hnode.streaming]
    exact hon

theorem ready_of_callsSucceed {sensor : SensorType} {o : OpenOutcome} {s : V4l2} {fd : Nat}
    {device : VideoDevice} (hopened : o.opened = some (fd, device))
    (hcalls : CallsSucceed sensor o) :
    Ready { setUp o (reached sensor o s) with isCamOpen := true } := by
  obtain ⟨hsensor, hdevice, hlive, hnode⟩ := @setUp_reached sensor o s fd device hopened
  generalize setUp o (reached sensor o s) = t at hnode
  obtain ⟨⟨fd', device', hsame, hformat⟩, ⟨planes, hreqbufs, hcount⟩, hbuffers, hon⟩ := hcalls
  obtain ⟨rfl, rfl⟩ := Prod.mk.inj (Option.some.inj (hopened.symm.trans hsame))
  have hplanes : t.sys.device.planes = planes := by
    rw [hnode.planes, hreqbufs]
    rfl
  refine
    { descriptor := ?_
      format := ?_
      granted := ?_
      mapped := fun i hi => ?_
      queued := fun i hi => ?_
      streaming := ?_ }
  · change t.fd ∈ t.sys.descriptors
    rw [hnode.fd, hnode.descriptors]
    exact of_decide_eq_true hlive
  · change t.sys.device.format = sensors t.mSensor
    rw [hnode.format, hnode.mSensor, hsensor, hdevice]
    exact hformat
  · change t.sys.device.planes.length = frameNum
    rw [hplanes, hcount]
  · change i < t.mBuffers at hi
    rw [hnode.mBuffers] at hi
    obtain ⟨hquery, hmmap, -⟩ := hbuffers i hi
    obtain ⟨start, hstart⟩ := Option.ne_none_iff_exists'.mp hmmap
    have hlt : i < planes.length := by
      rw [hcount]
      exact hi
    have hm : mappingOf o (requested o (reached sensor o s)) i =
        some ⟨start, planes[i].length.toNat, planes[i].memOffset⟩ := by
      rw [hnode.mapping i, openMapping_eq_some, hreqbufs, Option.getD_some]
      exact ⟨hquery, hstart, planes[i], List.getElem?_eq_getElem hlt, rfl, rfl⟩
    refine ⟨start, planes[i], ?_, ?_, ?_, ?_⟩
    · change (t.buffers i).start = some start
      rw [hnode.start i hi, hm]
      rfl
    · change t.sys.device.planes[i]? = some planes[i]
      rw [hplanes]
      exact List.getElem?_eq_getElem hlt
    · exact hnode.length i hi _ hm
    · change _ ∈ t.sys.mappings
      rw [hnode.mappings, List.mem_append, List.mem_reverse, List.mem_filterMap]
      exact .inl ⟨i, List.mem_range.mpr hi, hm⟩
  · change i < t.mBuffers at hi
    rw [hnode.mBuffers] at hi
    refine (hnode.queued i).mpr ⟨hi, (hbuffers i hi).2.2, ?_⟩
    rw [hreqbufs, Option.getD_some, hcount]
    exact hi
  · change t.sys.device.streaming = true
    rw [hnode.streaming, hon]

theorem ready_iff {sensor : SensorType} {o : OpenOutcome} {s : V4l2} {fd : Nat}
    {device : VideoDevice} (hopened : o.opened = some (fd, device)) :
    Ready { setUp o (reached sensor o s) with isCamOpen := true } ↔ CallsSucceed sensor o :=
  ⟨callsSucceed_of_ready hopened, ready_of_callsSucceed hopened⟩

/-- Whatever the system calls do: `open` keeps its promise exactly when, of the calls
whose results it does not look at, each does what it was asked for, or it ends early on
an object that was closed. -/
theorem open_kept_iff (sensor : SensorType) (o : OpenOutcome) (s : V4l2) :
    OpenKept (V4l2.open sensor o s) ↔ OpenFits s sensor o := by
  have hsame := (reached_hold sensor o s).1
  have hearly : OpenKept (-1, reached sensor o s) ↔ s.isCamOpen = false := by
    unfold OpenKept
    constructor
    · rintro (⟨h, -⟩ | ⟨-, h⟩)
      · exact absurd (show (-1 : Int) = 1 from h) (by decide)
      · exact hsame.symm.trans h
    · intro h
      exact .inr ⟨rfl, hsame.trans h⟩
  rcases open_cases sensor o s with ⟨hnone, hrun⟩ | ⟨hsome, hrefused, hrun⟩ |
    ⟨hsome, hoffers, hrun⟩
  · rw [hrun, hearly]
    constructor
    · intro h
      exact .inr ⟨.inl hnone, h⟩
    · rintro (⟨h, -⟩ | ⟨-, h⟩)
      · exact absurd hnone h
      · exact h
  · rw [hrun, hearly]
    constructor
    · intro h
      exact .inr ⟨.inr hrefused, h⟩
    · rintro (⟨-, h, -⟩ | ⟨-, h⟩)
      · exact absurd h hrefused
      · exact h
  · obtain ⟨⟨fd, device⟩, hopened⟩ := Option.ne_none_iff_exists'.mp hsome
    have hready : Ready { setUp o (reached sensor o s) with isCamOpen := true } ↔
        CallsSucceed sensor o := ready_iff hopened
    rw [hrun]
    generalize setUp o (reached sensor o s) = t at hready
    constructor
    · rintro (⟨-, -, h⟩ | ⟨h, -⟩)
      · exact .inl ⟨hsome, hoffers, hready.mp h⟩
      · exact absurd h (show (1 : Int) ≠ -1 by decide)
    · rintro (⟨-, -, h⟩ | ⟨h | h, -⟩)
      · exact .inl ⟨rfl, rfl, hready.mpr h⟩
      · exact absurd h hsome
      · exact absurd hoffers h

def streamRefused : OpenOutcome where
  opened := some (5, ⟨⟨1280, 720, v4l2PixFmtSbggr8⟩, [], [], false, fun _ => []⟩)
  querycap := some 0x04001000
  sFmt := some (sensors .ov5648)
  reqbufs := some [⟨921600, 0⟩, ⟨921600, 921600⟩, ⟨921600, 1843200⟩]
  querybuf := fun _ => true
  mmap := fun i => some (4096 + 921600 * i)
  qbuf := fun _ => true
  streamon := false
  mmap_injective := by
    intro i j start hi hj
    have heq := hi.trans hj.symm
    simp only [Option.some.injEq] at heq
    omega
  offsets_nodup := by
    intro planes hplanes
    obtain rfl := Option.some.inj hplanes
    decide

/-- A camera that does not stream is reported open. -/
theorem streamRefused_reported : ¬OpenKept (V4l2.open .ov5648 streamRefused
    (construct .ov5648 (fun _ => ⟨none, ⟨0, 0⟩, 0⟩) 0
      ⟨⟨1280, 720, v4l2PixFmtSbggr8⟩, [], [], false, fun _ => []⟩)) := by
  have hopen : (V4l2.open .ov5648 streamRefused
      (construct .ov5648 (fun _ => ⟨none, ⟨0, 0⟩, 0⟩) 0
        ⟨⟨1280, 720, v4l2PixFmtSbggr8⟩, [], [], false, fun _ => []⟩)).2.isCamOpen = true := by
    decide +kernel
  have hidle : (V4l2.open .ov5648 streamRefused
      (construct .ov5648 (fun _ => ⟨none, ⟨0, 0⟩, 0⟩) 0
        ⟨⟨1280, 720, v4l2PixFmtSbggr8⟩, [], [], false, fun _ => []⟩)).2.sys.device.streaming =
          false := by
    decide +kernel
  rintro (⟨-, -, hready⟩ | ⟨-, hclosed⟩)
  · exact absurd (hidle.symm.trans hready.streaming) Bool.false_ne_true
  · exact absurd (hclosed.symm.trans hopen) Bool.false_ne_true

end CameraPorting.App.CaptureOpen
