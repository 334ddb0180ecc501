import CameraPorting.Library.RegisterFields
import CameraPorting.Library.Runs

/-!
Event bits of a device. They latch as events are raised, and a driver clears those of the
words that it writes. A handler reads the latched word, and then serves it and writes it
back, in either order; others clear bits that nobody served.
-/

namespace CameraPorting.Library.LatchedEvents

open CameraPorting.Library.RegisterFields (Within within_iff)
open CameraPorting.Library.Runs

variable {w : Nat}

/-- How far a handler is that has read its word. -/
inductive Phase where
  | read | served | acked
  deriving DecidableEq, Repr

structure Handling (w : Nat) where
  status : BitVec w
  phase : Phase
  deriving DecidableEq, Repr

structure Latch (w : Nat) where
  pending : BitVec w
  handling : Option (Handling w)
  deriving DecidableEq, Repr

inductive LatchOp (w : Nat) where
  | raise (bits : BitVec w)
  | read
  | serve
  | ack
  | discard (word : BitVec w)

def latchStep (s : Latch w) : LatchOp w → Latch w
  | .raise bits => { s with pending := s.pending ||| bits }
  | .read =>
      match s.handling with
      | some _ => s
      | none => { s with handling := some ⟨s.pending, .read⟩ }
  | .serve =>
      match s.handling with
      | some ⟨status, .read⟩ => { s with handling := some ⟨status, .served⟩ }
      | some ⟨_, .acked⟩ => { s with handling := none }
      | some ⟨_, .served⟩ | none => s
  | .ack =>
      match s.handling with
      | some ⟨status, .read⟩ =>
          { pending := s.pending &&& ~~~status, handling := some ⟨status, .acked⟩ }
      | some ⟨status, .served⟩ => { pending := s.pending &&& ~~~status, handling := none }
      | some ⟨_, .acked⟩ | none => s
  | .discard word => { s with pending := s.pending &&& ~~~word }

def latched (s : Latch w) : LatchOp w → List (BitVec w)
  | .raise bits => [bits &&& ~~~s.pending]
  | .read | .serve | .ack | .discard _ => []

def served (s : Latch w) : LatchOp w → List (BitVec w)
  | .serve =>
      match s.handling with
      | some ⟨status, .read⟩ | some ⟨status, .acked⟩ => [status]
      | some ⟨_, .served⟩ | none => []
  | .raise _ | .read | .ack | .discard _ => []

/-- The bits that a step clears and nobody serves. -/
def discarded (s : Latch w) : LatchOp w → List (BitVec w)
  | .discard word => [s.pending &&& word]
  | .raise _ | .read | .serve | .ack => []

/-- Events that no handler has served: those that are pending, unless a handler has served
them and not yet written them back, and those of a word that was written back first. -/
def Latch.waiting (s : Latch w) : List (BitVec w) :=
  match s.handling with
  | some ⟨status, .served⟩ => [s.pending &&& ~~~status]
  | some ⟨status, .acked⟩ => [s.pending, status]
  | some ⟨_, .read⟩ | none => [s.pending]

def tally (k : Nat) (words : List (BitVec w)) : Nat :=
  words.countP fun v => v.getLsbD k

@[simp] theorem tally_nil (k : Nat) : tally k ([] : List (BitVec w)) = 0 := rfl

@[simp] theorem tally_cons (k : Nat) (v : BitVec w) (words : List (BitVec w)) :
    tally k (v :: words) = (v.getLsbD k).toNat + tally k words := by
  rw [tally, List.countP_cons, Nat.add_comm, tally]
  cases v.getLsbD k <;> rfl

theorem tally_append (k : Nat) (words words' : List (BitVec w)) :
    tally k (words ++ words') = tally k words + tally k words' :=
  List.countP_append

theorem toNat_or (v bits : BitVec w) (k : Nat) :
    ((v ||| bits).getLsbD k).toNat =
      (v.getLsbD k).toNat + ((bits &&& ~~~v).getLsbD k).toNat := by
  rcases Nat.lt_or_ge k w with hlt | hge
  · simp only [BitVec.getLsbD_or, BitVec.getLsbD_and, BitVec.getLsbD_not, hlt, decide_true]
    cases v.getLsbD k <;> cases bits.getLsbD k <;> rfl
  · simp only [BitVec.getLsbD_of_ge _ _ hge, Bool.toNat_false]

theorem toNat_split (v word : BitVec w) (k : Nat) :
    (v.getLsbD k).toNat =
      ((v &&& word).getLsbD k).toNat + ((v &&& ~~~word).getLsbD k).toNat := by
  rcases Nat.lt_or_ge k w with hlt | hge
  · simp only [BitVec.getLsbD_and, BitVec.getLsbD_not, hlt, decide_true]
    cases v.getLsbD k <;> cases word.getLsbD k <;> rfl
  · simp only [BitVec.getLsbD_of_ge _ _ hge, Bool.toNat_false]

theorem toNat_sub {u v : BitVec w} (h : Within u v) (k : Nat) :
    (v.getLsbD k).toNat = (u.getLsbD k).toNat + ((v &&& ~~~u).getLsbD k).toNat := by
  have hand : (v &&& u).getLsbD k = u.getLsbD k := by
    rw [BitVec.getLsbD_and]
    cases hu : u.getLsbD k with
    | false => rw [Bool.and_false]
    | true => rw [within_iff.mp h k hu, Bool.true_and]
  rw [toNat_split v u k, hand]

/-- The bits of `u` count neither before nor after. -/
theorem toNat_or_sub {u v : BitVec w} (h : Within u v) (bits : BitVec w) (k : Nat) :
    (((v ||| bits) &&& ~~~u).getLsbD k).toNat =
      ((v &&& ~~~u).getLsbD k).toNat + ((bits &&& ~~~v).getLsbD k).toNat := by
  have hbefore := toNat_sub h k
  have hafter := toNat_sub (h.or bits) k
  have hraised := toNat_or v bits k
  omega

theorem toNat_clear_sub {u v word : BitVec w} (h : Within u v) (hapart : u &&& word = 0#w)
    (k : Nat) :
    ((v &&& ~~~u).getLsbD k).toNat =
      ((v &&& word).getLsbD k).toNat + ((v &&& ~~~word &&& ~~~u).getLsbD k).toNat := by
  have hbefore := toNat_sub h k
  have hafter := toNat_sub (h.clear hapart) k
  have hsplit := toNat_split v word k
  omega

/-- The handler's word stays latched until the handler writes it back. -/
def Held (s : Latch w) : Prop :=
  match s.handling with
  | some ⟨status, .read⟩ | some ⟨status, .served⟩ => Within status s.pending
  | some ⟨_, .acked⟩ | none => True

/-- Nobody clears bits of a word that a handler has read and not written back. -/
def LeavesHandler (s : Latch w) : LatchOp w → Prop
  | .discard word =>
      match s.handling with
      | some ⟨status, .read⟩ | some ⟨status, .served⟩ => status &&& word = 0#w
      | some ⟨_, .acked⟩ | none => True
  | .raise _ | .read | .serve | .ack => True

theorem held_step {s : Latch w} (h : Held s) {op : LatchOp w} (hop : LeavesHandler s op) :
    Held (latchStep s op) := by
  obtain ⟨pending, _ | ⟨status, phase⟩⟩ := s
  · cases op with
    | raise | serve | ack | discard => trivial
    | read => exact .refl pending
  · cases phase with
    | read =>
        have hwithin : Within status pending := h
        cases op with
        | raise bits => exact hwithin.or bits
        | read | serve => exact hwithin
        | ack => trivial
        | discard word => exact hwithin.clear hop
    | served =>
        have hwithin : Within status pending := h
        cases op with
        | raise bits => exact hwithin.or bits
        | read | serve => exact hwithin
        | ack => trivial
        | discard word => exact hwithin.clear hop
    | acked => cases op <;> trivial

theorem waiting_raise {s : Latch w} (h : Held s) (bits : BitVec w) (k : Nat) :
    tally k (latchStep s (.raise bits)).waiting =
      tally k s.waiting + ((bits &&& ~~~s.pending).getLsbD k).toNat := by
  obtain ⟨pending, _ | ⟨status, phase⟩⟩ := s
  · have hraised := toNat_or pending bits k
    simp only [Latch.waiting, latchStep, tally_cons, tally_nil]
    omega
  · cases phase with
    | read | acked =>
        have hraised := toNat_or pending bits k
        simp only [Latch.waiting, latchStep, tally_cons, tally_nil]
        omega
    | served =>
        have hraised := toNat_or_sub (u := status) (v := pending) h bits k
        simp only [Latch.waiting, latchStep, tally_cons, tally_nil]
        omega

theorem waiting_read (s : Latch w) : (latchStep s .read).waiting = s.waiting := by
  obtain ⟨pending, _ | reading⟩ := s
  · rfl
  · rfl

theorem waiting_serve {s : Latch w} (h : Held s) (k : Nat) :
    tally k s.waiting = tally k (served s .serve) + tally k (latchStep s .serve).waiting := by
  obtain ⟨pending, _ | ⟨status, phase⟩⟩ := s
  · simp only [served, tally_nil, Nat.zero_add]
    rfl
  · cases phase with
    | read =>
        have hserved := toNat_sub (u := status) (v := pending) h k
        simp only [Latch.waiting, latchStep, served, tally_cons, tally_nil]
        omega
    | served | acked =>
        simp only [Latch.waiting, latchStep, served, tally_cons, tally_nil]
        omega

theorem waiting_ack {s : Latch w} (h : Held s) (k : Nat) :
    tally k (latchStep s .ack).waiting = tally k s.waiting := by
  obtain ⟨pending, _ | ⟨status, phase⟩⟩ := s
  · rfl
  · cases phase with
    | read =>
        have hcleared := toNat_sub (u := status) (v := pending) h k
        simp only [Latch.waiting, latchStep, tally_cons, tally_nil]
        omega
    | served | acked => rfl

theorem waiting_discard {s : Latch w} (h : Held s) {word : BitVec w}
    (hleaves : LeavesHandler s (.discard word)) (k : Nat) :
    tally k s.waiting =
      ((s.pending &&& word).getLsbD k).toNat + tally k (latchStep s (.discard word)).waiting := by
  obtain ⟨pending, _ | ⟨status, phase⟩⟩ := s
  · have hsplit := toNat_split pending word k
    simp only [Latch.waiting, latchStep, tally_cons, tally_nil]
    omega
  · cases phase with
    | read | acked =>
        have hsplit := toNat_split pending word k
        simp only [Latch.waiting, latchStep, tally_cons, tally_nil]
        omega
    | served =>
        have hsplit := toNat_clear_sub (u := status) (v := pending) h hleaves k
        simp only [Latch.waiting, latchStep, tally_cons, tally_nil]
        omega

/-- A step neither loses an event nor serves it twice. -/
theorem conserved_step {s : Latch w} (h : Held s) {op : LatchOp w} (hop : LeavesHandler s op)
    (k : Nat) :
    tally k s.waiting + tally k (latched s op) =
      tally k (served s op) + tally k (discarded s op) + tally k (latchStep s op).waiting := by
  cases op with
  | raise bits =>
      rw [waiting_raise h]
      simp only [latched, served, discarded, tally_cons, tally_nil]
      omega
  | read =>
      rw [waiting_read]
      simp only [latched, served, discarded, tally_nil]
      omega
  | serve =>
      rw [waiting_serve h]
      simp only [latched, discarded, tally_nil]
      omega
  | ack =>
      rw [waiting_ack h]
      simp only [latched, served, discarded, tally_nil]
      omega
  | discard word =>
      rw [waiting_discard h hop]
      simp only [latched, served, discarded, tally_cons, tally_nil]
      omega

/-- Over every interleaving in which nobody clears what a handler has read: each event that is
latched is served once, or discarded, or still waits. -/
theorem conserved {s : Latch w} (h : Held s) {ops : List (LatchOp w)}
    (hops : Along latchStep LeavesHandler s ops) (k : Nat) :
    tally k s.waiting + tally k (trace latchStep latched s ops) =
      tally k (trace latchStep served s ops) + tally k (trace latchStep discarded s ops) +
        tally k (exec latchStep s ops).waiting := by
  induction ops generalizing s with
  | nil => simp [trace]
  | cons op ops ih =>
      have hrest := ih (held_step h hops.1) hops.2
      have hstep := conserved_step h hops.1 k
      rw [trace, trace, trace, exec_cons, tally_append, tally_append, tally_append]
      omega

end CameraPorting.Library.LatchedEvents
