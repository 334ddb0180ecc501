import CameraPorting.Kernel.Media
import Mathlib.Logic.Function.Basic
import Mathlib.Data.List.Induction

namespace CameraPorting.MediaDev.SensorRegistration

open CameraPorting.Kernel.Media

def mxcMaxSensors : Nat := 3

/-- An available receiver node: a `csi` node with its alias id and whether it has virtual
channels, or a `pcsi` node, told apart from other ones by `dev`. -/
inductive Receiver where
  | csi (id : Nat) (vchannel : Bool)
  | pcsi (dev : Nat)
  deriving DecidableEq

def Receiver.isCsi : Receiver → Bool
  | .csi _ _ => true
  | .pcsi _ => false

/-- The endpoint of a receiver: what `v4l2_fwnode_endpoint_parse` makes of it, and the
sensor at its other end with whether its i2c client is there. -/
structure Endpoint where
  port : Nat
  parsed : Bool
  remote : Option Bool
  deriving DecidableEq

/-- A receiver node; its port child may be missing, and the endpoint of the port. -/
structure ReceiverNode where
  receiver : Receiver
  port : Option (Option Endpoint)
  deriving DecidableEq

structure MxcSensorInfo where
  id : Nat
  sd : Bool
  mipiMode : Bool
  deriving DecidableEq

structure SensorTable where
  sensor : Nat → MxcSensorInfo
  numSensors : Nat
  accesses : List Nat

def emptyTable : SensorTable where
  sensor := fun _ => ⟨0, false, false⟩
  numSensors := 0
  accesses := []

def writeEntry (t : SensorTable) (node : ReceiverNode) (port : Nat) : SensorTable :=
  let entry := { t.sensor t.numSensors with id := port }
  let entry := if node.receiver.isCsi then { entry with mipiMode := true } else entry
  { t with
    sensor := Function.update t.sensor t.numSensors entry
    accesses := t.numSensors :: t.accesses }

/-- One turn of the loop of `register_sensor_entities`; `index` and `num_sensors` move
together. -/
def registerSensor (t : SensorTable) (node : ReceiverNode) : Except Errno SensorTable :=
  match node.port with
  | none => .ok t
  | some none => .error .einval
  | some (some ep) =>
      if mxcMaxSensors ≤ ep.port || !ep.parsed then .error .einval
      else
        let t := writeEntry t node ep.port
        match ep.remote with
        | none => .ok t
        | some false => .error .eprobeDefer
        | some true => .ok { t with numSensors := t.numSensors + 1 }

def registerSensorEntities (nodes : List ReceiverNode) : Except Errno SensorTable :=
  nodes.foldlM registerSensor emptyTable

def isVisited (node : ReceiverNode) : Bool :=
  match node.port with
  | some (some _) => true
  | _ => false

/-- A node with a sensor at the other end. -/
def isRegistered (node : ReceiverNode) : Bool :=
  match node.port with
  | some (some ep) => ep.remote.isSome
  | _ => false

def portOf (node : ReceiverNode) : Nat :=
  match node.port with
  | some (some ep) => ep.port
  | _ => 0

def registered (nodes : List ReceiverNode) : List ReceiverNode :=
  nodes.filter isRegistered

/-- A `csi` node without a sensor comes after the last registered node. -/
def Stale (nodes : List ReceiverNode) : Prop :=
  ∃ a node b, nodes = a ++ node :: b ∧ node.receiver.isCsi = true ∧ isVisited node = true ∧
    isRegistered node = false ∧ registered b = []

theorem concat_split {α : Type} {pre : List α} {x : α} {a : List α} {n : α} {b : List α} :
    pre ++ [x] = a ++ n :: b ↔
      (a = pre ∧ n = x ∧ b = []) ∨ ∃ b', b = b' ++ [x] ∧ pre = a ++ n :: b' := by
  constructor
  · intro h
    rcases List.eq_nil_or_concat b with rfl | ⟨b', last, rfl⟩
    · obtain ⟨hpre, hlast⟩ := List.append_inj' h rfl
      exact .inl ⟨hpre.symm, (List.cons.inj hlast).1.symm, rfl⟩
    · have hsplit : pre ++ [x] = (a ++ n :: b') ++ [last] := by
        rw [h, List.concat_eq_append, List.append_assoc]
        rfl
      obtain ⟨hpre, hlast⟩ := List.append_inj' hsplit rfl
      obtain rfl := (List.cons.inj hlast).1
      exact .inr ⟨b', List.concat_eq_append, hpre⟩
  · rintro (⟨rfl, rfl, rfl⟩ | ⟨b', rfl, rfl⟩)
    · rfl
    · simp

theorem exists_split_concat {α : Type} {P : List α → α → Prop} (pre : List α) (x : α) :
    (∃ a n b, pre ++ [x] = a ++ n :: b ∧ P a n) ↔
      (∃ a n b, pre = a ++ n :: b ∧ P a n) ∨ P pre x := by
  constructor
  · rintro ⟨a, n, b, h, hP⟩
    rcases concat_split.mp h with ⟨rfl, rfl, -⟩ | ⟨b', -, hpre⟩
    · exact .inr hP
    · exact .inl ⟨a, n, b', hpre, hP⟩
  · rintro (⟨a, n, b, rfl, hP⟩ | hP)
    · exact ⟨a, n, b ++ [x], by simp, hP⟩
    · exact ⟨pre, x, [], rfl, hP⟩

theorem stale_nil : ¬Stale [] := by
  rintro ⟨a, node, b, h, -⟩
  simp at h

theorem stale_concat (nodes : List ReceiverNode) (node : ReceiverNode) :
    Stale (nodes ++ [node]) ↔ isRegistered node = false ∧
      ((node.receiver.isCsi = true ∧ isVisited node = true) ∨ Stale nodes) := by
  constructor
  · rintro ⟨a, m, b, h, hcsi, hvisited, hnew, hrest⟩
    rcases concat_split.mp h with ⟨rfl, rfl, rfl⟩ | ⟨b', rfl, hpre⟩
    · exact ⟨hnew, .inl ⟨hcsi, hvisited⟩⟩
    · simp only [registered, List.filter_append, List.append_eq_nil_iff] at hrest
      refine ⟨?_, .inr ⟨a, m, b', hpre, hcsi, hvisited, hnew, hrest.1⟩⟩
      simpa using hrest.2
  · rintro ⟨hlast, ⟨hcsi, hvisited⟩ | ⟨a, m, b, rfl, hcsi, hvisited, hnew, hrest⟩⟩
    · exact ⟨nodes, node, [], rfl, hcsi, hvisited, hlast, rfl⟩
    · refine ⟨a, m, b ++ [node], by simp, hcsi, hvisited, hnew, ?_⟩
      simp only [registered, List.filter_append] at hrest ⊢
      simp [hrest, hlast]

/-- What the table holds after the nodes `pre`. -/
structure Tabled (pre : List ReceiverNode) (t : SensorTable) : Prop where
  numSensors : t.numSensors = (registered pre).length
  entry : ∀ a node b, pre = a ++ node :: b → isRegistered node = true →
    (t.sensor (registered a).length).id = portOf node ∧
      ((t.sensor (registered a).length).mipiMode = true ↔
        node.receiver.isCsi = true ∨ Stale a)
  pending : (t.sensor t.numSensors).mipiMode = true ↔ Stale pre
  fresh : ∀ i, t.numSensors < i → (t.sensor i).mipiMode = false
  accesses : ∀ i, i ∈ t.accesses ↔
    ∃ a node b, pre = a ++ node :: b ∧ isVisited node = true ∧ i = (registered a).length

theorem tabled_nil : Tabled [] emptyTable where
  numSensors := rfl
  entry := fun a node b h => by simp at h
  pending := ⟨fun h => absurd h Bool.false_ne_true, fun h => absurd h stale_nil⟩
  fresh := fun _ _ => rfl
  accesses := fun i => by simp [emptyTable]

/-- A node that is passed over, one that only writes the entry, and one that is
registered. -/
theorem registerSensor_cases {t t' : SensorTable} {node : ReceiverNode}
    (h : registerSensor t node = .ok t') :
    (isVisited node = false ∧ isRegistered node = false ∧ t' = t) ∨
      (isVisited node = true ∧ isRegistered node = false ∧
        t' = writeEntry t node (portOf node)) ∨
      (isVisited node = true ∧ isRegistered node = true ∧ portOf node < mxcMaxSensors ∧
        t' = { writeEntry t node (portOf node) with numSensors := t.numSensors + 1 }) := by
  unfold registerSensor at h
  unfold isVisited isRegistered portOf
  rcases hport : node.port with _ | _ | ep
  · rw [hport] at h
    exact .inl ⟨rfl, rfl, (Except.ok.inj h).symm⟩
  · rw [hport] at h
    exact absurd h nofun
  · rw [hport] at h
    dsimp only at h
    split at h
    · exact absurd h nofun
    · rename_i hparsed
      rcases hremote : ep.remote with _ | client
      · rw [hremote] at h
        exact .inr (.inl ⟨rfl, by simp [hremote], (Except.ok.inj h).symm⟩)
      · cases client with
        | false =>
            rw [hremote] at h
            exact absurd h nofun
        | true =>
            rw [hremote] at h
            refine .inr (.inr ⟨rfl, by simp [hremote], ?_, (Except.ok.inj h).symm⟩)
            simp only [Bool.or_eq_true, decide_eq_true_eq, not_or, not_le] at hparsed
            exact hparsed.1

theorem registered_concat (pre : List ReceiverNode) (node : ReceiverNode) :
    (registered (pre ++ [node])).length =
      (registered pre).length + if isRegistered node then 1 else 0 := by
  cases hnode : isRegistered node <;> simp [registered, List.filter_append, hnode]

theorem split_lt {pre a : List ReceiverNode} {node : ReceiverNode} {b : List ReceiverNode}
    (hpre : pre = a ++ node :: b) (hnode : isRegistered node = true) :
    (registered a).length < (registered pre).length := by
  rw [hpre]
  simp [registered, List.filter_append, hnode]

theorem writeEntry_self (t : SensorTable) (node : ReceiverNode) (port : Nat) :
    ((writeEntry t node port).sensor t.numSensors).id = port ∧
      (((writeEntry t node port).sensor t.numSensors).mipiMode = true ↔
        node.receiver.isCsi = true ∨ (t.sensor t.numSensors).mipiMode = true) := by
  unfold writeEntry
  dsimp only
  rw [Function.update_self]
  cases node.receiver.isCsi <;> simp

theorem writeEntry_of_ne (t : SensorTable) (node : ReceiverNode) (port : Nat) {i : Nat}
    (hi : i ≠ t.numSensors) : (writeEntry t node port).sensor i = t.sensor i :=
  Function.update_of_ne hi _ _

theorem accesses_concat {pre : List ReceiverNode} {t : SensorTable} (ht : Tabled pre t)
    (node : ReceiverNode) (i : Nat) :
    (i ∈ t.accesses ∨ (isVisited node = true ∧ i = t.numSensors)) ↔
      ∃ a n b, pre ++ [node] = a ++ n :: b ∧ isVisited n = true ∧ i = (registered a).length := by
  rw [exists_split_concat (P := fun a n => isVisited n = true ∧ i = (registered a).length),
    ht.accesses i, ht.numSensors]

theorem entry_kept {pre a b : List ReceiverNode} {t : SensorTable} (ht : Tabled pre t)
    (node : ReceiverNode) (port : Nat) {n : ReceiverNode} (hpre : pre = a ++ n :: b)
    (hn : isRegistered n = true) :
    (writeEntry t node port).sensor (registered a).length =
      t.sensor (registered a).length := by
  apply writeEntry_of_ne
  rw [ht.numSensors]
  exact Nat.ne_of_lt (split_lt hpre hn)

theorem tabled_step {pre : List ReceiverNode} {t t' : SensorTable} {node : ReceiverNode}
    (ht : Tabled pre t) (h : registerSensor t node = .ok t') : Tabled (pre ++ [node]) t' := by
  have hcount := registered_concat pre node
  have haccesses := accesses_concat ht node
  have hself := writeEntry_self t node (portOf node)
  rcases registerSensor_cases h with ⟨hvisited, hnew, rfl⟩ | ⟨hvisited, hnew, rfl⟩ |
    ⟨hvisited, hnew, -, rfl⟩
  · rw [hnew, if_neg Bool.false_ne_true] at hcount
    refine
      { numSensors := ht.numSensors.trans hcount.symm
        entry := fun a n b hsplit hn => ?_
        pending := ?_
        fresh := ht.fresh
        accesses := fun i => ?_ }
    · rcases concat_split.mp hsplit with ⟨-, rfl, -⟩ | ⟨b', -, hpre⟩
      · exact absurd (hnew.symm.trans hn) Bool.false_ne_true
      · exact ht.entry a n b' hpre hn
    · rw [ht.pending, stale_concat, hnew, hvisited]
      simp
    · rw [← haccesses i, hvisited]
      simp
  · rw [hnew, if_neg Bool.false_ne_true] at hcount
    refine
      { numSensors := ht.numSensors.trans hcount.symm
        entry := fun a n b hsplit hn => ?_
        pending := ?_
        fresh := fun i hi => ?_
        accesses := fun i => ?_ }
    · rcases concat_split.mp hsplit with ⟨-, rfl, -⟩ | ⟨b', -, hpre⟩
      · exact absurd (hnew.symm.trans hn) Bool.false_ne_true
      · rw [entry_kept ht node _ hpre hn]
        exact ht.entry a n b' hpre hn
    · change ((writeEntry t node (portOf node)).sensor t.numSensors).mipiMode = true ↔ _
      rw [hself.2, ht.pending, stale_concat, hnew, hvisited]
      simp
    · rw [writeEntry_of_ne t node _ (Nat.ne_of_gt hi)]
      exact ht.fresh i hi
    · rw [← haccesses i, hvisited]
      simp [writeEntry, or_comm]
  · rw [hnew, if_pos rfl] at hcount
    refine
      { numSensors := ?_
        entry := fun a n b hsplit hn => ?_
        pending := ?_
        fresh := fun i hi => ?_
        accesses := fun i => ?_ }
    · rw [hcount, ← ht.numSensors]
    · rcases concat_split.mp hsplit with ⟨rfl, rfl, -⟩ | ⟨b', -, hpre⟩
      · rw [← ht.numSensors, ← ht.pending]
        exact hself
      · change ((writeEntry t node (portOf node)).sensor _).id = _ ∧
          (((writeEntry t node (portOf node)).sensor _).mipiMode = true ↔ _)
        rw [entry_kept ht node _ hpre hn]
        exact ht.entry a n b' hpre hn
    · change ((writeEntry t node (portOf node)).sensor (t.numSensors + 1)).mipiMode = true ↔ _
      rw [writeEntry_of_ne t node _ (Nat.succ_ne_self _), ht.fresh _ (Nat.lt_succ_self _),
        stale_concat, hnew]
      simp
    · change t.numSensors + 1 < i at hi
      change ((writeEntry t node (portOf node)).sensor i).mipiMode = false
      rw [writeEntry_of_ne t node _ (by omega)]
      exact ht.fresh i (by omega)
    · rw [← haccesses i, hvisited]
      simp [writeEntry, or_comm]

theorem tabled_registerSensorEntities {nodes : List ReceiverNode} {t : SensorTable}
    (h : registerSensorEntities nodes = .ok t) : Tabled nodes t := by
  unfold registerSensorEntities at h
  induction nodes using List.reverseRecOn generalizing t with
  | nil =>
      obtain rfl := Except.ok.inj h
      exact tabled_nil
  | append_singleton pre node ih =>
      rw [List.foldlM_append] at h
      rcases hpre : pre.foldlM registerSensor emptyTable with e | t'
      · rw [hpre] at h
        exact absurd h nofun
      · rw [hpre] at h
        refine tabled_step (ih hpre) ?_
        rw [← h]
        change _ = registerSensor t' node >>= pure
        rw [bind_pure]

end CameraPorting.MediaDev.SensorRegistration
