import CameraPorting.MediaDev.CameraPaths

namespace CameraPorting.MediaDev.LateBinding

open CameraPorting.Kernel.Media
open CameraPorting.Library.Runs
open CameraPorting.MediaDev.SensorRegistration
open CameraPorting.MediaDev.MediaGraph
open CameraPorting.MediaDev.SensorNumbering
open CameraPorting.MediaDev.ChannelCleaning
open CameraPorting.MediaDev.CameraPaths

/-- The fields of `struct mxc_md` that the notifier changes; `bound` says for which entries
`sd` is set. -/
structure MxcMd where
  bound : Nat → Bool
  validNumSensors : Nat
  linkStatus : Bool
  graph : Graph

def idle : MxcMd where
  bound := fun _ => false
  validNumSensors := 0
  linkStatus := false
  graph := emptyGraph

section Driver

variable (tree : DeviceTree) (t : SensorTable)

/-- A channel is still in the array, but `find_entity_by_name` does not find its entity. -/
def isLost (g : Graph) (id : Nat) : Bool :=
  match mxcIsi tree id with
  | none => false
  | some interface => (isiSourcePad interface.outPort).isSome && g.removed.contains (.isi id)

/-- The first loop of `mxc_md_create_links`, over a graph of which channels may be lost. The
link of a lost channel fails, and the message about it reads the name of the entity at a null
pointer: this is `none`. -/
def createFoundLinks : List Nat → Graph → Option (Graph × Ret)
  | [], g => some (g, .ok ())
  | id :: ids, g =>
      if isLost tree g id then none
      else
        match createIsiLinks tree id g with
        | (g, .error e) => some (g, .error e)
        | (g, .ok ()) => createFoundLinks ids g

def subdevNotifierComplete (md : MxcMd) : Option (MxcMd × Ret) :=
  match createFoundLinks tree (List.range mxcIsiMaxDevs) md.graph with
  | none => none
  | some (g, .error e) => some ({ md with graph := g }, .error e)
  | some (g, .ok ()) =>
      let g := (List.range t.numSensors).foldl (createSensorLinks tree (bindSensors md.bound t)) g
      some ({ md with linkStatus := true, graph := g }, .ok ())

def subdevNotifierBound (i : Nat) (md : MxcMd) : MxcMd :=
  { md with
    bound := Function.update md.bound i true
    validNumSensors := md.validNumSensors + 1 }

/-- A sensor of the notifier appears: the kernel calls `bound`, and `complete` when it was the
last one. -/
def sensorAppears (md : MxcMd) (i : Nat) : Option (MxcMd × Ret) :=
  let md := subdevNotifierBound i md
  if (List.range t.numSensors).all md.bound then subdevNotifierComplete tree t md
  else some (md, .ok ())

/-- `v4l2_async_notifier_register`: the sensors that are there already appear at once. -/
def v4l2AsyncNotifierRegister : List Nat → MxcMd → Option (MxcMd × Ret)
  | [], md => some (md, .ok ())
  | i :: present, md =>
      match sensorAppears tree t md i with
      | none => none
      | some (md, .error e) => some (md, .error e)
      | some (md, .ok ()) => v4l2AsyncNotifierRegister present md

def unregisterIsi (g : Graph) (id : Nat) : Graph :=
  let g := access (.mxcIsi id) g
  if (mxcIsi tree id).isSome then unregister (.isi id) g else g

def mxcMdUnregisterAll (g : Graph) : Graph :=
  (List.range mxcIsiMaxDevs).foldl (unregisterIsi tree) g

def mxcMdUnregisterEntities (g : Graph) : Graph :=
  let g := mxcMdUnregisterAll tree g
  let g := (List.range mxcMipiCsi2MaxDevs).foldl (fun g id =>
    let g := access (.mipiCsi2 id) g
    if (mipiCsi2 tree id).isSome then unregister (.csi id) g else g) g
  match pcsidevSd tree with
  | none => g
  | some dev => unregister (.pcsi dev) g

/-- `mxc_md_probe` from the registration of the notifier on, where the sensors in `present`
are there. -/
def mxcMdProbe (present : List Nat) : Option (MxcMd × Ret) :=
  if t.numSensors = 0 then some (idle, .ok ())
  else
    match v4l2AsyncNotifierRegister tree t present idle with
    | none => none
    | some (md, .error e) => some (md, .error e)
    | some (md, .ok ()) =>
        if md.linkStatus then some (md, .ok ())
        else if 0 < md.validNumSensors then
          match subdevNotifierComplete tree t md with
          | none => none
          | some (md, .error e) =>
              some ({ md with graph := mxcMdUnregisterEntities tree md.graph }, .error e)
          | some (md, .ok ()) =>
              let cleaned := mxcMdCleanUnlinkChannels tree (bindSensors md.bound t) md.graph
              some ({ md with graph := cleaned.1 }, .ok ())
        else some ({ md with graph := mxcMdUnregisterAll tree md.graph }, .ok ())

/-- The media device after the probe; `none` is a null pointer that was dereferenced. -/
def appears (md : Option MxcMd) (i : Nat) : Option MxcMd :=
  md.bind fun md => (sensorAppears tree t md i).map Prod.fst

end Driver

section Links

variable {tree : DeviceTree} {t : SensorTable} {g g' : Graph} {md : MxcMd}

theorem isLost_congr (h : g'.removed = g.removed) (id : Nat) :
    isLost tree g' id = isLost tree g id := by
  unfold isLost
  rw [h]

theorem isLost_iff (hsupported : ∀ isi ∈ tree.isis, Supported isi.2) {id : Nat} :
    isLost tree g id = true ↔
      (∃ interface, (id, interface) ∈ tree.isis) ∧ Entity.isi id ∈ g.removed := by
  unfold isLost
  rcases hisi : mxcIsi tree id with _ | interface
  · constructor
    · intro h
      exact absurd h Bool.false_ne_true
    · rintro ⟨⟨interface, hmem⟩, -⟩
      rw [mxcIsi_iff.mpr hmem] at hisi
      exact absurd hisi (by simp)
  · have hmem := mxcIsi_iff.mp hisi
    obtain ⟨pad, hpad⟩ := isiSourcePad_some (hsupported _ hmem).1
    dsimp only at hpad ⊢
    rw [hpad, Option.isSome_some, Bool.true_and, List.contains_iff_mem]
    constructor
    · intro hremoved
      exact ⟨⟨interface, hmem⟩, hremoved⟩
    · rintro ⟨-, hremoved⟩
      exact hremoved

theorem createFoundLinks_found (hsupported : ∀ isi ∈ tree.isis, Supported isi.2)
    {ids : List Nat} (hids : ∀ id ∈ ids, id < mxcIsiMaxDevs)
    (hfound : ∀ id ∈ ids, isLost tree g id = false) :
    createFoundLinks tree ids g = some (untilError (createIsiLinks tree) ids g) := by
  induction ids generalizing g with
  | nil => rfl
  | cons id ids ih =>
      obtain ⟨g₁, hrun, hext⟩ := createIsiLinks_supported (hids id List.mem_cons_self)
        (fun interface h => hsupported (id, interface) (mxcIsi_iff.mp h)) g
      unfold createFoundLinks untilError
      rw [hfound id List.mem_cons_self, if_neg Bool.false_ne_true, hrun]
      refine ih (fun id' hid => hids id' (List.mem_cons_of_mem id hid)) (fun id' hid => ?_)
      rw [isLost_congr hext.removed]
      exact hfound id' (List.mem_cons_of_mem id hid)

theorem createFoundLinks_lost (hsupported : ∀ isi ∈ tree.isis, Supported isi.2)
    {ids : List Nat} (hids : ∀ id ∈ ids, id < mxcIsiMaxDevs)
    (hlost : ∃ id ∈ ids, isLost tree g id = true) : createFoundLinks tree ids g = none := by
  induction ids generalizing g with
  | nil =>
      obtain ⟨id, hid, -⟩ := hlost
      exact absurd hid List.not_mem_nil
  | cons id ids ih =>
      unfold createFoundLinks
      split
      · rfl
      · rename_i hfound
        obtain ⟨g₁, hrun, hext⟩ := createIsiLinks_supported (hids id List.mem_cons_self)
          (fun interface h => hsupported (id, interface) (mxcIsi_iff.mp h)) g
        obtain ⟨id', hid', hlost'⟩ := hlost
        have hrest : id' ∈ ids := by
          rcases List.mem_cons.mp hid' with rfl | hmem
          · exact absurd hlost' hfound
          · exact hmem
        rw [hrun]
        refine ih (fun id hid => hids id (List.mem_cons_of_mem _ hid)) ⟨id', hrest, ?_⟩
        rw [isLost_congr hext.removed]
        exact hlost'

theorem complete_lost (hsupported : ∀ isi ∈ tree.isis, Supported isi.2)
    (hlost : ∃ id, isLost tree md.graph id = true) :
    subdevNotifierComplete tree t md = none := by
  obtain ⟨id, hid⟩ := hlost
  obtain ⟨⟨interface, hmem⟩, -⟩ := (isLost_iff hsupported).mp hid
  unfold subdevNotifierComplete
  rw [createFoundLinks_lost hsupported (fun id hid => List.mem_range.mp hid)
    ⟨id, List.mem_range.mpr (tree.isi_lt _ hmem), hid⟩]

/-- A completion that finds all channels adds every link of the tree, whether the graph has
it already or not. -/
theorem complete_found (hsupported : ∀ isi ∈ tree.isis, Supported isi.2)
    (hfound : ∀ id, isLost tree md.graph id = false) :
    ∃ g, subdevNotifierComplete tree t md =
        some ({ md with linkStatus := true, graph := g }, .ok ()) ∧
      mxcMdCreateLinks tree (bindSensors md.bound t) md.graph = (g, .ok ()) ∧
      g.links = md.graph.links ++ graphLinks tree md.bound t ∧
      g.removed = md.graph.removed := by
  have hids : ∀ id ∈ List.range mxcIsiMaxDevs, id < mxcIsiMaxDevs :=
    fun id hid => List.mem_range.mp hid
  obtain ⟨g₁, hrun, hext⟩ := @isiLoop_supported tree (List.range mxcIsiMaxDevs) hids
    (fun id _ interface h => hsupported (id, interface) (mxcIsi_iff.mp h)) md.graph
  have hturn : ∀ i ∈ List.range t.numSensors, ∀ g, Extends (fun _ => True) g
      (createSensorLinks tree (bindSensors md.bound t) g i)
      (sensorLinks tree (bindSensors md.bound t) i) :=
    fun i _ g => createSensorLinks_extends trivial (fun _ _ => trivial) g
  have hsensors := extends_foldl (List.range t.numSensors) hturn g₁
  refine ⟨(List.range t.numSensors).foldl
    (createSensorLinks tree (bindSensors md.bound t)) g₁, ?_, ?_, ?_, ?_⟩
  · unfold subdevNotifierComplete
    rw [createFoundLinks_found hsupported hids (fun id _ => hfound id), hrun]
  · unfold mxcMdCreateLinks
    rw [hrun]
    rfl
  · rw [hsensors.links, hext.links, List.append_assoc]
    rfl
  · exact hsensors.removed.trans hext.removed

end Links

section Binding

variable {tree : DeviceTree} {t : SensorTable} {md : MxcMd}

def binds (sensors : List Nat) (md : MxcMd) : MxcMd :=
  { md with
    bound := fun i => md.bound i || decide (i ∈ sensors)
    validNumSensors := md.validNumSensors + sensors.length }

theorem bound_binds (sensors : List Nat) (md : MxcMd) (i : Nat) :
    (binds sensors md).bound i = (md.bound i || decide (i ∈ sensors)) := rfl

theorem binds_nil (md : MxcMd) : binds [] md = md := by
  unfold binds
  simp

theorem bound_binds_concat (pre : List Nat) (i : Nat) (md : MxcMd) :
    subdevNotifierBound i (binds pre md) = binds (pre ++ [i]) md := by
  unfold subdevNotifierBound binds
  congr 1
  · funext j
    by_cases hj : j = i
    · subst hj
      rw [Function.update_self]
      simp
    · rw [Function.update_of_ne hj]
      simp [hj]
  · rw [List.length_append, List.length_singleton]
    rfl

theorem sensorAppears_missing {i j : Nat} (hj : j < t.numSensors) (hne : j ≠ i)
    (hoff : md.bound j = false) :
    sensorAppears tree t md i = some (subdevNotifierBound i md, .ok ()) := by
  unfold sensorAppears
  refine if_neg ?_
  intro hall
  have hon := List.all_eq_true.mp hall j (List.mem_range.mpr hj)
  unfold subdevNotifierBound at hon
  dsimp only at hon
  rw [Function.update_of_ne hne, hoff] at hon
  exact Bool.false_ne_true hon

theorem appears_some (md : MxcMd) (i : Nat) :
    appears tree t (some md) i = (sensorAppears tree t md i).map Prod.fst := rfl

theorem exec_none (sensors : List Nat) : exec (appears tree t) none sensors = none := by
  induction sensors with
  | nil => rfl
  | cons i sensors ih => exact ih

theorem exec_missing {j : Nat} (hj : j < t.numSensors) (hoff : md.bound j = false)
    {sensors : List Nat} (hmissing : j ∉ sensors) :
    exec (appears tree t) (some md) sensors = some (binds sensors md) := by
  induction sensors using List.reverseRecOn with
  | nil => rw [exec_nil, binds_nil]
  | append_singleton pre i ih =>
      obtain ⟨hpre, hlast⟩ := not_or.mp (fun h => hmissing (List.mem_append.mpr h))
      have hne : j ≠ i := fun h => hlast (List.mem_singleton.mpr h)
      have hstill : (binds pre md).bound j = false := by
        rw [bound_binds, hoff, decide_eq_false hpre, Bool.or_false]
      rw [exec_concat, ih hpre, appears_some,
        sensorAppears_missing hj hne hstill, Option.map_some, bound_binds_concat]

theorem exec_last {sensors : List Nat} (hne : sensors ≠ []) (hnodup : sensors.Nodup)
    (hlt : ∀ i ∈ sensors, i < t.numSensors) (hoff : ∀ i ∈ sensors, md.bound i = false)
    (hall : ∀ i < t.numSensors, md.bound i = true ∨ i ∈ sensors) :
    exec (appears tree t) (some md) sensors =
      (subdevNotifierComplete tree t (binds sensors md)).map Prod.fst := by
  obtain ⟨pre, i, rfl⟩ := List.eq_nil_or_concat' sensors |>.resolve_left hne
  have hi : i ∈ pre ++ [i] := List.mem_append_right pre (List.mem_singleton.mpr rfl)
  have hnew : i ∉ pre := by
    intro hpre
    exact (List.nodup_append.mp hnodup).2.2 i hpre i (List.mem_singleton.mpr rfl) rfl
  have hcomplete : ∀ j < t.numSensors, (binds (pre ++ [i]) md).bound j = true := by
    intro j hj
    rw [bound_binds]
    rcases hall j hj with hon | hmem
    · rw [hon, Bool.true_or]
    · rw [decide_eq_true hmem, Bool.or_true]
  have hlast : sensorAppears tree t (binds pre md) i =
      subdevNotifierComplete tree t (binds (pre ++ [i]) md) := by
    unfold sensorAppears
    rw [bound_binds_concat]
    refine if_pos (List.all_eq_true.mpr fun j hj => ?_)
    exact hcomplete j (List.mem_range.mp hj)
  rw [exec_concat, exec_missing (hlt i hi) (hoff i hi) hnew, appears_some, hlast]

theorem sensorAppears_ok (hsupported : ∀ isi ∈ tree.isis, Supported isi.2) (md : MxcMd)
    (i : Nat) : sensorAppears tree t md i = none ∨
      ∃ md', sensorAppears tree t md i = some (md', .ok ()) := by
  unfold sensorAppears
  dsimp only
  split
  · by_cases hlost : ∃ id, isLost tree (subdevNotifierBound i md).graph id = true
    · exact .inl (complete_lost hsupported hlost)
    · simp only [not_exists, Bool.not_eq_true] at hlost
      obtain ⟨g, hrun, -⟩ := @complete_found tree t _ hsupported hlost
      exact .inr ⟨_, hrun⟩
  · exact .inr ⟨_, rfl⟩

theorem register_eq_exec (hsupported : ∀ isi ∈ tree.isis, Supported isi.2)
    (present : List Nat) (md : MxcMd) : v4l2AsyncNotifierRegister tree t present md =
      (exec (appears tree t) (some md) present).map fun md => (md, .ok ()) := by
  induction present generalizing md with
  | nil => rfl
  | cons i present ih =>
      unfold v4l2AsyncNotifierRegister
      rw [exec_cons, appears_some]
      rcases sensorAppears_ok hsupported md i with hnone | ⟨md', hsome⟩
      · rw [hnone, Option.map_none, exec_none]
        rfl
      · rw [hsome]
        exact ih md'

end Binding

def isPresent (present : List Nat) (i : Nat) : Bool := decide (i ∈ present)

/-- A channel that the probe unregisters. -/
def LostAtProbe (tree : DeviceTree) (present : List Nat) (id : Nat) : Prop :=
  if present = [] then ∃ interface, (id, interface) ∈ tree.isis
  else Unlinked tree (isPresent present) id

structure Probed (tree : DeviceTree) (t : SensorTable) (present : List Nat) (md : MxcMd) :
    Prop where
  bound : md.bound = isPresent present
  lost : ∀ id, isLost tree md.graph id = true ↔ LostAtProbe tree present id
  all : (∀ i < t.numSensors, i ∈ present) →
    md.graph.links = graphLinks tree (isPresent present) t
  none : present = [] → md.graph.links = []
  some : present ≠ [] → (∀ id, ¬LostAtProbe tree present id) → md.graph.links ≠ []

section Probe

variable {tree : DeviceTree} {t : SensorTable} {present late : List Nat} {md : MxcMd}

theorem numbered_of_all (hn : Numbered tree fun _ => true) (bound : Nat → Bool) :
    Numbered tree bound where
  room := hn.room
  fresh := hn.fresh
  supported := fun i node h _ => hn.supported i node h rfl
  parallel := fun i node dev h _ => hn.parallel i node dev h rfl

theorem graphLinks_congr {bound bound' : Nat → Bool}
    (h : ∀ i < t.numSensors, bound i = bound' i) :
    graphLinks tree bound t = graphLinks tree bound' t := by
  have hsame : bindSensors bound t = bindSensors bound' t := by
    unfold bindSensors
    congr 1
    funext i
    split
    · rename_i hi
      rw [h i hi]
    · rfl
  unfold graphLinks
  rw [hsame]

theorem graphLinks_ne_nil (ht : Tabled tree.receivers t) {bound : Nat → Bool}
    (hn : Numbered tree bound) {i : Nat} (hi : i < t.numSensors) (hbound : bound i = true) :
    graphLinks tree bound t ≠ [] := by
  obtain ⟨node, h⟩ := (lt_numSensors_iff ht).mp hi
  obtain ⟨l, hl, -⟩ := (sensorLinks_sinks ht hn h hbound (entityOf node.receiver)).mpr rfl
  refine List.ne_nil_of_mem (List.mem_append.mpr (.inr (List.mem_flatMap.mpr ⟨i, ?_, hl⟩)))
  exact List.mem_range.mpr hi

theorem not_isLost_empty (id : Nat) : isLost tree emptyGraph id = false := by
  unfold isLost
  split
  · rfl
  · exact Bool.and_false _

theorem unregisterAll_removed (ids : List Nat) (g : Graph) (e : Entity) :
    e ∈ (ids.foldl (unregisterIsi tree) g).removed ↔
      e ∈ g.removed ∨ ∃ id ∈ ids, (mxcIsi tree id).isSome = true ∧ e = .isi id := by
  induction ids generalizing g with
  | nil => simp
  | cons id ids ih =>
      rw [List.foldl_cons, ih]
      unfold unregisterIsi
      dsimp only
      cases hisi : (mxcIsi tree id).isSome with
      | false =>
          simp only [Bool.false_eq_true, if_false, List.exists_mem_cons_iff, hisi, false_and,
            false_or]
          rfl
      | true =>
          simp only [if_true, List.exists_mem_cons_iff, hisi, true_and, ← or_assoc]
          refine or_congr_left ?_
          unfold unregister
          rw [List.mem_cons, or_comm]
          rfl

theorem unregisterAll_links (ids : List Nat) {g : Graph} (h : g.links = []) :
    (ids.foldl (unregisterIsi tree) g).links = [] := by
  induction ids generalizing g with
  | nil => exact h
  | cons id ids ih =>
      refine ih ?_
      unfold unregisterIsi
      dsimp only
      split
      · unfold unregister access
        dsimp only
        rw [h]
        rfl
      · exact h

/-- All sensors are there: the notifier completes while it is registered. -/
theorem probe_all (hsupported : ∀ isi ∈ tree.isis, Supported isi.2) (hpos : 0 < t.numSensors)
    (hnodup : present.Nodup) (hlt : ∀ i ∈ present, i < t.numSensors)
    (hall : ∀ i < t.numSensors, i ∈ present) :
    ∃ md, mxcMdProbe tree t present = some (md, .ok ()) ∧ md.bound = isPresent present ∧
      md.graph.links = graphLinks tree (isPresent present) t ∧ md.graph.removed = [] := by
  have hne : present ≠ [] := List.ne_nil_of_mem (hall 0 hpos)
  have hlast := @exec_last tree t idle present hne hnodup hlt (fun _ _ => rfl)
    (fun i hi => .inr (hall i hi))
  obtain ⟨g, hrun, -, hlinks, hremoved⟩ :=
    @complete_found tree t (binds present idle) hsupported not_isLost_empty
  refine ⟨{ binds present idle with linkStatus := true, graph := g }, ?_, ?_, hlinks, hremoved⟩
  · unfold mxcMdProbe
    rw [if_neg (Nat.ne_of_gt hpos), register_eq_exec hsupported, hlast, hrun]
    rfl
  · rfl

/-- Some sensors are there: the probe links them and takes out the channels of the others. -/
theorem probe_some (hsupported : ∀ isi ∈ tree.isis, Supported isi.2) (hpresent : present ≠ [])
    {j : Nat} (hj : j < t.numSensors) (hmissing : j ∉ present) :
    ∃ md, mxcMdProbe tree t present = some (md, .ok ()) ∧ md.bound = isPresent present ∧
      md.graph = cleaned tree (isPresent present) t := by
  obtain ⟨g, hrun, hlink, -⟩ :=
    @complete_found tree t (binds present idle) hsupported not_isLost_empty
  have hcount : 0 < (binds present idle).validNumSensors := by
    unfold binds
    exact Nat.lt_of_lt_of_le (List.length_pos_iff.mpr hpresent) (Nat.le_add_left _ _)
  refine ⟨{ binds present idle with
    linkStatus := true
    graph := cleaned tree (isPresent present) t }, ?_, ?_, rfl⟩
  · have hlinked : linked tree (isPresent present) t = (g, .ok ()) := hlink
    unfold mxcMdProbe cleaned
    rw [if_neg (Nat.ne_of_gt (Nat.zero_lt_of_lt hj)), register_eq_exec hsupported,
      exec_missing hj rfl hmissing, hlinked]
    dsimp only [Option.map_some]
    rw [if_neg (by exact Bool.false_ne_true), if_pos hcount, hrun]
    rfl
  · rfl

theorem probe_none (hpos : 0 < t.numSensors) :
    ∃ md, mxcMdProbe tree t [] = some (md, .ok ()) ∧ md.bound = isPresent [] ∧
      md.graph = mxcMdUnregisterAll tree emptyGraph := by
  refine ⟨{ idle with graph := mxcMdUnregisterAll tree emptyGraph }, ?_, ?_, rfl⟩
  · unfold mxcMdProbe
    rw [if_neg (Nat.ne_of_gt hpos)]
    rfl
  · rfl

theorem isPresent_iff {i : Nat} : isPresent present i = true ↔ i ∈ present :=
  decide_eq_true_iff

theorem isPresent_false {i : Nat} : isPresent present i = false ↔ i ∉ present :=
  decide_eq_false_iff_not

theorem supported_of_all (ht : Tabled tree.receivers t) (hn : Numbered tree fun _ => true)
    (hpos : 0 < t.numSensors) : ∀ isi ∈ tree.isis, Supported isi.2 := by
  obtain ⟨node, h⟩ := (lt_numSensors_iff ht).mp hpos
  exact hn.supported 0 node h rfl

theorem lostAtProbe_iff (h : present ≠ []) (id : Nat) :
    LostAtProbe tree present id ↔ Unlinked tree (isPresent present) id := by
  unfold LostAtProbe
  rw [if_neg h]

theorem not_unlinked_all (ht : Tabled tree.receivers t) (hall : ∀ i < t.numSensors, i ∈ present)
    (id : Nat) : ¬Unlinked tree (isPresent present) id := by
  rintro ⟨i, node, h, hoff, -⟩
  exact isPresent_false.mp hoff (hall i ((lt_numSensors_iff ht).mpr ⟨node, h⟩))

theorem probed (ht : Tabled tree.receivers t) (hn : Numbered tree fun _ => true)
    (hc : Cleanable tree (isPresent present)) (hpos : 0 < t.numSensors)
    (hnodup : present.Nodup) (hlt : ∀ i ∈ present, i < t.numSensors) :
    ∃ md, mxcMdProbe tree t present = some (md, .ok ()) ∧ Probed tree t present md := by
  have hsupported := supported_of_all ht hn hpos
  by_cases hall : ∀ i < t.numSensors, i ∈ present
  · obtain ⟨md, hrun, hbound, hlinks, hremoved⟩ :=
      @probe_all tree t present hsupported hpos hnodup hlt hall
    have hne : present ≠ [] := List.ne_nil_of_mem (hall 0 hpos)
    refine ⟨md, hrun, hbound, fun id => ?_, fun _ => hlinks, fun h => absurd h hne, ?_⟩
    · rw [isLost_iff hsupported, hremoved, lostAtProbe_iff hne]
      constructor
      · rintro ⟨-, hmem⟩
        exact absurd hmem List.not_mem_nil
      · intro hunlinked
        exact absurd hunlinked (not_unlinked_all ht hall id)
    · intro _ _
      rw [hlinks]
      exact graphLinks_ne_nil ht (numbered_of_all hn _) hpos (isPresent_iff.mpr (hall 0 hpos))
  · simp only [not_forall] at hall
    obtain ⟨j, hj, hmissing⟩ := hall
    by_cases hpresent : present = []
    · subst hpresent
      obtain ⟨md, hrun, hbound, hgraph⟩ := @probe_none tree t hpos
      refine ⟨md, hrun, hbound, fun id => ?_, fun hall => absurd (hall j hj) hmissing,
        fun _ => ?_, fun h => absurd rfl h⟩
      · rw [isLost_iff hsupported, hgraph, mxcMdUnregisterAll, unregisterAll_removed]
        unfold LostAtProbe
        rw [if_pos rfl]
        constructor
        · rintro ⟨hmem, -⟩
          exact hmem
        · rintro ⟨interface, hmem⟩
          refine ⟨⟨interface, hmem⟩, .inr ⟨id, List.mem_range.mpr (tree.isi_lt _ hmem), ?_, rfl⟩⟩
          rw [mxcIsi_iff.mpr hmem]
          rfl
      · rw [hgraph]
        exact unregisterAll_links _ rfl
    · obtain ⟨md, hrun, hbound, hgraph⟩ := probe_some hsupported hpresent hj hmissing
      have hg := cleaned_swept ht (numbered_of_all hn _) hc hsupported
      rw [← hgraph] at hg
      refine ⟨md, hrun, hbound, fun id => ?_, fun hall => absurd (hall j hj) hmissing,
        fun h => absurd h hpresent, fun _ hlost => ?_⟩
      · rw [isLost_iff hsupported, hg.removed, lostAtProbe_iff hpresent]
        constructor
        · rintro ⟨-, id', hid, hunlinked⟩
          obtain rfl := Entity.isi.inj hid
          exact hunlinked
        · intro hunlinked
          obtain ⟨i, node, h, hoff, interface, hmem, hfeed⟩ := hunlinked
          exact ⟨⟨interface, hmem⟩, id, rfl, i, node, h, hoff, interface, hmem, hfeed⟩
      · obtain ⟨i, hi⟩ := List.exists_mem_of_ne_nil present hpresent
        obtain ⟨l, hl⟩ := List.exists_mem_of_ne_nil _
          (graphLinks_ne_nil ht (numbered_of_all hn _) (hlt i hi) (isPresent_iff.mpr hi))
        refine List.ne_nil_of_mem ((hg.links l).mpr ⟨hl, fun id hunlinked => ?_⟩)
        exact absurd ((lostAtProbe_iff hpresent id).mpr hunlinked) (hlost id)

theorem exec_late (hmd : Probed tree t present md) (hne : late ≠ [])
    (hnodup : (present ++ late).Nodup) (hlt : ∀ i ∈ present ++ late, i < t.numSensors)
    (hall : ∀ i < t.numSensors, i ∈ present ++ late) :
    exec (appears tree t) (some md) late =
      (subdevNotifierComplete tree t (binds late md)).map Prod.fst := by
  obtain ⟨-, hlate, hdisjoint⟩ := List.nodup_append.mp hnodup
  refine exec_last hne hlate (fun i hi => hlt i (List.mem_append_right present hi))
    (fun i hi => ?_) (fun i hi => ?_)
  · rw [hmd.bound]
    exact isPresent_false.mpr fun hpresent => hdisjoint i hpresent i hi rfl
  · rw [hmd.bound, isPresent_iff]
    exact List.mem_append.mp (hall i hi)

/-- The second completion reads at a null pointer where a channel is lost. -/
theorem exec_late_lost (hsupported : ∀ isi ∈ tree.isis, Supported isi.2)
    (hmd : Probed tree t present md) (hne : late ≠ []) (hnodup : (present ++ late).Nodup)
    (hlt : ∀ i ∈ present ++ late, i < t.numSensors)
    (hall : ∀ i < t.numSensors, i ∈ present ++ late)
    (hlost : ∃ id, LostAtProbe tree present id) :
    exec (appears tree t) (some md) late = none := by
  obtain ⟨id, hid⟩ := hlost
  have hnull := @complete_lost tree t (binds late md) hsupported ⟨id, (hmd.lost id).mpr hid⟩
  rw [exec_late hmd hne hnodup hlt hall, hnull, Option.map_none]

/-- Otherwise it makes all links of the tree, whether they are there already or not. -/
theorem exec_late_found (hsupported : ∀ isi ∈ tree.isis, Supported isi.2)
    (hmd : Probed tree t present md) (hne : late ≠ []) (hnodup : (present ++ late).Nodup)
    (hlt : ∀ i ∈ present ++ late, i < t.numSensors)
    (hall : ∀ i < t.numSensors, i ∈ present ++ late)
    (hfound : ∀ id, ¬LostAtProbe tree present id) :
    ∃ md', exec (appears tree t) (some md) late = some md' ∧
      md'.graph.links = md.graph.links ++ graphLinks tree (fun _ => true) t := by
  have hkept : ∀ id, isLost tree (binds late md).graph id = false := by
    intro id
    exact Bool.eq_false_of_not_eq_true fun hlost => hfound id ((hmd.lost id).mp hlost)
  obtain ⟨g, hcomplete, -, hlinks, -⟩ := @complete_found tree t _ hsupported hkept
  refine ⟨{ binds late md with linkStatus := true, graph := g }, ?_, hlinks.trans ?_⟩
  · rw [exec_late hmd hne hnodup hlt hall, hcomplete, Option.map_some]
  · refine congrArg _ (graphLinks_congr fun i hi => ?_)
    rw [bound_binds, hmd.bound, Bool.or_eq_true, isPresent_iff, decide_eq_true_iff]
    exact List.mem_append.mp (hall i hi)

/-- Over every order in which the sensors bind before and after the probe of the media device:
it reads a name at a null pointer exactly when the last sensor binds late and the probe has
unregistered a channel. -/
theorem late_binding_null_iff (h : registerSensorEntities tree.receivers = .ok t)
    (hn : Numbered tree fun _ => true) (hc : Cleanable tree (isPresent present))
    (hpos : 0 < t.numSensors) (hnodup : (present ++ late).Nodup)
    (hlt : ∀ i ∈ present ++ late, i < t.numSensors) :
    ∃ md, mxcMdProbe tree t present = some (md, .ok ()) ∧
      (exec (appears tree t) (some md) late = none ↔
        late ≠ [] ∧ (∀ i < t.numSensors, i ∈ present ++ late) ∧
          ∃ id, LostAtProbe tree present id) := by
  have ht := tabled_registerSensorEntities h
  have hsupported := supported_of_all ht hn hpos
  obtain ⟨md, hprobe, hmd⟩ := probed ht hn hc hpos (List.nodup_append.mp hnodup).1
    (fun i hi => hlt i (List.mem_append_left late hi))
  refine ⟨md, hprobe, ?_⟩
  constructor
  · intro hnull
    have hne : late ≠ [] := by
      rintro rfl
      exact absurd hnull (by simp)
    have hall : ∀ i < t.numSensors, i ∈ present ++ late := by
      by_contra hmissing
      simp only [not_forall, List.mem_append, not_or] at hmissing
      obtain ⟨j, hj, hpresent, hlate⟩ := hmissing
      have hoff : md.bound j = false := by
        rw [hmd.bound]
        exact isPresent_false.mpr hpresent
      rw [exec_missing hj hoff hlate] at hnull
      exact absurd hnull (by simp)
    refine ⟨hne, hall, ?_⟩
    by_contra hfound
    obtain ⟨md', hrun, -⟩ := exec_late_found hsupported hmd hne hnodup hlt hall
      (not_exists.mp hfound)
    rw [hrun] at hnull
    exact absurd hnull (by simp)
  · rintro ⟨hne, hall, hlost⟩
    exact exec_late_lost hsupported hmd hne hnodup hlt hall hlost

/-- Once all sensors have bound, in whatever order, the graph has every link of the device
tree exactly once if and only if none of them bound late, or all did and there is no
channel. -/
theorem linked_once_iff (h : registerSensorEntities tree.receivers = .ok t)
    (hn : Numbered tree fun _ => true) (hc : Cleanable tree (isPresent present))
    (hpos : 0 < t.numSensors) (hnodup : (present ++ late).Nodup)
    (hlt : ∀ i ∈ present ++ late, i < t.numSensors)
    (hall : ∀ i < t.numSensors, i ∈ present ++ late) :
    ∃ md, mxcMdProbe tree t present = some (md, .ok ()) ∧
      ((∃ md', exec (appears tree t) (some md) late = some md' ∧
          md'.graph.links = graphLinks tree (fun _ => true) t) ↔
        late = [] ∨ (present = [] ∧ tree.isis = [])) := by
  have ht := tabled_registerSensorEntities h
  have hsupported := supported_of_all ht hn hpos
  obtain ⟨md, hprobe, hmd⟩ := probed ht hn hc hpos (List.nodup_append.mp hnodup).1
    (fun i hi => hlt i (List.mem_append_left late hi))
  refine ⟨md, hprobe, ?_⟩
  constructor
  · rintro ⟨md', hrun, hlinks⟩
    by_cases hne : late = []
    · exact .inl hne
    · have hfound : ∀ id, ¬LostAtProbe tree present id := by
        intro id hlost
        rw [exec_late_lost hsupported hmd hne hnodup hlt hall ⟨id, hlost⟩] at hrun
        exact absurd hrun (by simp)
      obtain ⟨md'', hrun', hlinks'⟩ :=
        exec_late_found hsupported hmd hne hnodup hlt hall hfound
      obtain rfl := Option.some.inj (hrun.symm.trans hrun')
      rw [hlinks'] at hlinks
      have hempty : md.graph.links = [] := List.append_left_eq_self.mp hlinks
      have hpresent : present = [] := by
        by_contra hpresent
        exact hmd.some hpresent hfound hempty
      refine .inr ⟨hpresent, List.eq_nil_iff_forall_not_mem.mpr fun isi hisi => ?_⟩
      refine hfound isi.1 ?_
      unfold LostAtProbe
      rw [if_pos hpresent]
      exact ⟨isi.2, hisi⟩
  · rintro (rfl | ⟨hpresent, hisis⟩)
    · rw [List.append_nil] at hall
      refine ⟨md, rfl, ?_⟩
      rw [hmd.all hall]
      exact graphLinks_congr fun i hi => isPresent_iff.mpr (hall i hi)
    · have hne : late ≠ [] := by
        rintro rfl
        rw [hpresent] at hall
        exact absurd (hall 0 hpos) List.not_mem_nil
      have hfound : ∀ id, ¬LostAtProbe tree present id := by
        intro id hlost
        unfold LostAtProbe at hlost
        rw [if_pos hpresent, hisis] at hlost
        obtain ⟨interface, hmem⟩ := hlost
        exact absurd hmem List.not_mem_nil
      obtain ⟨md', hrun, hlinks⟩ := exec_late_found hsupported hmd hne hnodup hlt hall hfound
      refine ⟨md', hrun, ?_⟩
      rw [hlinks, hmd.none hpresent, List.nil_append]

theorem late_binding_null_twoCameras : ∃ t,
    registerSensorEntities twoCameras.receivers = .ok t ∧
      ∃ md, mxcMdProbe twoCameras t [0] = some (md, .ok ()) ∧
        exec (appears twoCameras t) (some md) [1] = none := by
  obtain ⟨md, hprobe, hnull⟩ := @late_binding_null_iff twoCameras _ [0] [1] rfl
    (numbered_twoCameras _) (cleanable_twoCameras _) (by decide) (by decide) (by decide)
  refine ⟨_, rfl, md, hprobe, hnull.mpr ⟨by decide, by decide, 1, ?_⟩⟩
  exact ⟨1, _, rfl, rfl, ⟨3, 0, 2⟩, by decide, rfl⟩

theorem linked_once_twoCameras : ∃ t,
    registerSensorEntities twoCameras.receivers = .ok t ∧
      ∃ md, mxcMdProbe twoCameras t [1, 0] = some (md, .ok ()) ∧
        ∃ md', exec (appears twoCameras t) (some md) [] = some md' ∧
          md'.graph.links = graphLinks twoCameras (fun _ => true) t := by
  obtain ⟨md, hprobe, honce⟩ := @linked_once_iff twoCameras _ [1, 0] [] rfl
    (numbered_twoCameras _) (cleanable_twoCameras _) (by decide) (by decide) (by decide)
    (by decide)
  exact ⟨_, rfl, md, hprobe, honce.mpr (.inl rfl)⟩

end Probe

end CameraPorting.MediaDev.LateBinding
