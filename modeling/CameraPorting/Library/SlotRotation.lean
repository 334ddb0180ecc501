import Mathlib.Data.List.Count
import Mathlib.Data.List.Perm.Basic

/-!
A rotation of nodes through a fixed number of slots. The oldest active node
leaves its slot; the slot is refilled with the oldest pending node or, when there
is none, with a spare one, and spare nodes go back to the spares when they
retire. With as many spares as slots a slot can always be refilled.
-/

namespace CameraPorting.Library.SlotRotation

variable {α : Type*}

/-- `starved` counts the attempts to take the first node of an empty list. -/
structure Rotation (α : Type*) where
  pending : List α
  active : List α
  spare : List α
  completed : List α
  starved : Nat

namespace Rotation

def enqueue (q : Rotation α) (a : α) : Rotation α :=
  { q with pending := q.pending ++ [a] }

def starve (q : Rotation α) : Rotation α :=
  { q with starved := q.starved + 1 }

def fillPending (q : Rotation α) : Rotation α :=
  match q.pending with
  | [] => q.starve
  | a :: rest => { q with pending := rest, active := q.active ++ [a] }

def fillSpare (q : Rotation α) : Rotation α :=
  match q.spare with
  | [] => q.starve
  | a :: rest => { q with spare := rest, active := q.active ++ [a] }

def refill (q : Rotation α) : Rotation α :=
  match q.pending with
  | [] => q.fillSpare
  | _ :: _ => q.fillPending

/-- The oldest active node `a` leaves, `rest` stays active. -/
def retire (isSpare : α → Bool) (q : Rotation α) (a : α) (rest : List α) :
    Rotation α :=
  if isSpare a then { q with active := rest, spare := q.spare ++ [a] }
  else { q with active := rest, completed := q.completed ++ [a] }

def advance (isSpare : α → Bool) (q : Rotation α) : Rotation α :=
  match q.active with
  | [] => q.starve
  | a :: rest => (q.retire isSpare a rest).refill

/-- The spares are handed out, and one slot is filled from them, one from the
pending nodes. -/
def start (spares : List α) (q : Rotation α) : Rotation α :=
  ({ q with spare := q.spare ++ spares }).fillSpare.fillPending

def drain (isSpare : α → Bool) (q : Rotation α) : Rotation α :=
  { q with
    pending := []
    active := []
    spare := []
    completed := q.completed ++ q.active.filter (fun a => !isSpare a) ++ q.pending }

theorem completed_fillSpare (q : Rotation α) :
    q.fillSpare.completed = q.completed := by
  unfold fillSpare
  split <;> rfl

theorem completed_fillPending (q : Rotation α) :
    q.fillPending.completed = q.completed := by
  unfold fillPending
  split <;> rfl

theorem completed_refill (q : Rotation α) :
    q.refill.completed = q.completed := by
  unfold refill
  split
  · exact completed_fillSpare q
  · exact completed_fillPending q

/-- How often a node occurs in the whole rotation. -/
def tally [DecidableEq α] (q : Rotation α) (a : α) : Nat :=
  q.pending.count a + q.active.count a + q.spare.count a + q.completed.count a

section Tally

variable [DecidableEq α] {isSpare : α → Bool}

theorem tally_enqueue (q : Rotation α) (b a : α) :
    (q.enqueue b).tally a = q.tally a + [b].count a := by
  simp only [tally, enqueue, List.count_append]
  omega

theorem tally_fillPending (q : Rotation α) (a : α) :
    q.fillPending.tally a = q.tally a := by
  unfold fillPending
  split
  · rfl
  · rename_i b rest hpending
    simp only [tally, hpending, List.count_append, List.count_cons, List.count_nil]
    omega

theorem tally_fillSpare (q : Rotation α) (a : α) :
    q.fillSpare.tally a = q.tally a := by
  unfold fillSpare
  split
  · rfl
  · rename_i b rest hspare
    simp only [tally, hspare, List.count_append, List.count_cons, List.count_nil]
    omega

theorem tally_refill (q : Rotation α) (a : α) : q.refill.tally a = q.tally a := by
  unfold refill
  split
  · exact tally_fillSpare q a
  · exact tally_fillPending q a

theorem tally_retire (q : Rotation α) {b : α} {rest : List α}
    (h : q.active = b :: rest) (a : α) :
    (q.retire isSpare b rest).tally a = q.tally a := by
  unfold retire
  split <;>
    · simp only [tally, h, List.count_append, List.count_cons, List.count_nil]
      omega

theorem tally_advance (q : Rotation α) (a : α) :
    (q.advance isSpare).tally a = q.tally a := by
  unfold advance
  split
  · rfl
  · rename_i b rest hactive
    rw [tally_refill, tally_retire q hactive]

theorem tally_start (spares : List α) (q : Rotation α) (a : α) :
    (q.start spares).tally a = q.tally a + spares.count a := by
  rw [start, tally_fillPending, tally_fillSpare]
  simp only [tally, List.count_append]
  omega

end Tally

/-- What holds of a rotation between any two of its operations: pending nodes
are no spares, and the list of spares holds only spares. -/
structure Sorted (isSpare : α → Bool) (q : Rotation α) : Prop where
  pending_user : ∀ a ∈ q.pending, isSpare a = false
  spare_spare : ∀ a ∈ q.spare, isSpare a = true

section Sorted

variable {isSpare : α → Bool} {q : Rotation α}

theorem Sorted.enqueue (h : q.Sorted isSpare) {a : α} (ha : isSpare a = false) :
    (q.enqueue a).Sorted isSpare := by
  refine ⟨?_, h.spare_spare⟩
  intro b hb
  rcases List.mem_append.mp hb with hb | hb
  · exact h.pending_user b hb
  · rw [List.mem_singleton.mp hb]
    exact ha

theorem Sorted.fillPending (h : q.Sorted isSpare) :
    q.fillPending.Sorted isSpare := by
  unfold Rotation.fillPending
  split
  · exact ⟨h.pending_user, h.spare_spare⟩
  · rename_i a rest hpending
    refine ⟨fun b hb => h.pending_user b ?_, h.spare_spare⟩
    rw [hpending]
    exact List.mem_cons_of_mem a hb

theorem Sorted.fillSpare (h : q.Sorted isSpare) : q.fillSpare.Sorted isSpare := by
  unfold Rotation.fillSpare
  split
  · exact ⟨h.pending_user, h.spare_spare⟩
  · rename_i a rest hspare
    refine ⟨h.pending_user, fun b hb => h.spare_spare b ?_⟩
    rw [hspare]
    exact List.mem_cons_of_mem a hb

theorem Sorted.retire (h : q.Sorted isSpare) (a : α) (rest : List α) :
    (q.retire isSpare a rest).Sorted isSpare := by
  unfold Rotation.retire
  split
  · rename_i ha
    refine ⟨h.pending_user, fun b hb => ?_⟩
    rcases List.mem_append.mp hb with hb | hb
    · exact h.spare_spare b hb
    · rw [List.mem_singleton.mp hb]
      exact ha
  · exact ⟨h.pending_user, h.spare_spare⟩

theorem Sorted.advance (h : q.Sorted isSpare) :
    (q.advance isSpare).Sorted isSpare := by
  unfold Rotation.advance
  split
  · exact ⟨h.pending_user, h.spare_spare⟩
  · rename_i a rest _
    unfold Rotation.refill
    split
    · exact (h.retire a rest).fillSpare
    · exact (h.retire a rest).fillPending

theorem Sorted.start (h : q.Sorted isSpare) {spares : List α}
    (hspares : ∀ a ∈ spares, isSpare a = true) :
    (q.start spares).Sorted isSpare := by
  refine Sorted.fillPending (Sorted.fillSpare ⟨h.pending_user, fun a ha => ?_⟩)
  rcases List.mem_append.mp ha with ha | ha
  · exact h.spare_spare a ha
  · exact hspares a ha

theorem sorted_drain : (q.drain isSpare).Sorted isSpare :=
  ⟨fun _ ha => absurd ha List.not_mem_nil, fun _ ha => absurd ha List.not_mem_nil⟩

end Sorted

/-- Every slot is filled, and the spares are all in the slots or in the list of
spares. -/
structure Full (isSpare : α → Bool) (spares : List α) (q : Rotation α) :
    Prop where
  slots : q.active.length = spares.length
  kept : (q.active.filter isSpare ++ q.spare).Perm spares

section Full

variable {isSpare : α → Bool} {spares : List α} {q : Rotation α}

theorem fillPending_cons {a : α} {rest : List α} (h : q.pending = a :: rest) :
    q.fillPending = { q with pending := rest, active := q.active ++ [a] } := by
  unfold fillPending
  rw [h]

theorem fillSpare_cons {a : α} {rest : List α} (h : q.spare = a :: rest) :
    q.fillSpare = { q with spare := rest, active := q.active ++ [a] } := by
  unfold fillSpare
  rw [h]

/-- One slot is empty, and the spares outnumber the spare nodes in the others:
the slot is refilled. -/
theorem full_refill (hq : q.Sorted isSpare)
    (hslots : q.active.length + 1 = spares.length)
    (hkept : (q.active.filter isSpare ++ q.spare).Perm spares) :
    q.refill.Full isSpare spares ∧ q.refill.starved = q.starved := by
  unfold refill
  split
  · have hlength := hkept.length_eq
    have hfilter := List.length_filter_le isSpare q.active
    rw [List.length_append] at hlength
    obtain ⟨a, rest, hspare⟩ : ∃ a rest, q.spare = a :: rest :=
      List.exists_cons_of_length_pos (by omega)
    have ha : isSpare a = true := hq.spare_spare a (by rw [hspare]; exact List.mem_cons_self)
    rw [fillSpare_cons hspare]
    refine ⟨⟨?_, ?_⟩, rfl⟩
    · simpa using hslots
    · rw [hspare] at hkept
      simpa [List.filter_append, ha] using hkept
  · rename_i a rest hpending
    have ha : isSpare a = false := hq.pending_user a (by rw [hpending]; exact List.mem_cons_self)
    rw [fillPending_cons hpending]
    refine ⟨⟨?_, ?_⟩, rfl⟩
    · simpa using hslots
    · simpa [List.filter_append, ha] using hkept

theorem Full.advance (hq : q.Sorted isSpare) (h : q.Full isSpare spares)
    (hspares : spares ≠ []) :
    (q.advance isSpare).Full isSpare spares ∧
      (q.advance isSpare).starved = q.starved := by
  unfold Rotation.advance
  split
  · rename_i hactive
    have hslots := h.slots
    rw [hactive] at hslots
    exact absurd (List.eq_nil_of_length_eq_zero hslots.symm) hspares
  · rename_i a rest hactive
    have hslots := h.slots
    have hkept := h.kept
    rw [hactive] at hslots hkept
    have hstarved : (q.retire isSpare a rest).starved = q.starved := by
      unfold Rotation.retire
      split <;> rfl
    rw [← hstarved]
    refine full_refill (hq.retire a rest) ?_ ?_
    · unfold Rotation.retire
      split <;> exact hslots
    · unfold Rotation.retire
      split
      · rename_i ha
        refine List.Perm.trans ?_ hkept
        rw [List.filter_cons_of_pos ha, ← List.append_assoc, List.cons_append]
        exact List.perm_append_singleton _ _
      · rename_i ha
        rwa [List.filter_cons_of_neg ha] at hkept

theorem Full.enqueue (h : q.Full isSpare spares) (a : α) :
    (q.enqueue a).Full isSpare spares :=
  ⟨h.slots, h.kept⟩

/-- Two slots filled from two spares and a first pending node. -/
theorem full_start {a b : α} (hactive : q.active = []) (hspare : q.spare = [])
    (hpending : q.pending ≠ []) (hq : q.Sorted isSpare)
    (ha : isSpare a = true) :
    (q.start [a, b]).Full isSpare [a, b] ∧
      (q.start [a, b]).starved = q.starved := by
  obtain ⟨c, rest, hcons⟩ := List.exists_cons_of_ne_nil hpending
  have hc : isSpare c = false := hq.pending_user c (by rw [hcons]; exact List.mem_cons_self)
  have hfill : q.start [a, b] =
      { q with pending := rest, spare := [b], active := [a, c] } := by
    simp [start, fillSpare, fillPending, hactive, hspare, hcons]
  rw [hfill]
  refine ⟨⟨rfl, ?_⟩, rfl⟩
  simp [ha, hc]

end Full

/-- From `q` to `q'` the nodes `new`, no spares, were completed, and no other
node entered or left. -/
structure Delivers [DecidableEq α] (isSpare : α → Bool) (q q' : Rotation α)
    (new : List α) : Prop where
  completed : q'.completed = q.completed ++ new
  users : ∀ a ∈ new, isSpare a = false
  tally : ∀ a, isSpare a = false → q'.tally a = q.tally a

section Delivers

variable [DecidableEq α] {isSpare : α → Bool} {q : Rotation α}

theorem delivers_refl : Delivers isSpare q q [] :=
  ⟨(List.append_nil _).symm, fun _ ha => absurd ha List.not_mem_nil, fun _ _ => rfl⟩

theorem Delivers.count_completed {q' : Rotation α} {new : List α}
    (h : Delivers isSpare q q' new) (a : α) :
    q'.completed.count a = q.completed.count a + new.count a := by
  rw [h.completed, List.count_append]

theorem exists_delivers_advance (isSpare : α → Bool) (q : Rotation α) :
    ∃ new, Delivers isSpare q (q.advance isSpare) new := by
  have htally : ∀ a, isSpare a = false → (q.advance isSpare).tally a = q.tally a :=
    fun a _ => tally_advance q a
  unfold advance at htally ⊢
  split at htally
  · exact ⟨[], (List.append_nil _).symm, fun _ ha => absurd ha List.not_mem_nil, htally⟩
  · rename_i a rest hactive
    by_cases ha : isSpare a
    · refine ⟨[], ?_, fun _ hb => absurd hb List.not_mem_nil, htally⟩
      rw [completed_refill, retire, if_pos ha, List.append_nil]
    · refine ⟨[a], ?_, ?_, htally⟩
      · rw [completed_refill, retire, if_neg ha]
      · intro b hb
        rw [List.mem_singleton.mp hb]
        exact Bool.eq_false_iff.mpr ha

theorem Sorted.count_spare (h : q.Sorted isSpare) {a : α}
    (ha : isSpare a = false) : q.spare.count a = 0 := by
  refine List.count_eq_zero.mpr fun hmem => ?_
  rw [h.spare_spare a hmem] at ha
  exact Bool.noConfusion ha

theorem Sorted.count_pending (h : q.Sorted isSpare) {a : α}
    (ha : isSpare a = true) : q.pending.count a = 0 := by
  refine List.count_eq_zero.mpr fun hmem => ?_
  rw [h.pending_user a hmem] at ha
  exact Bool.noConfusion ha

theorem Full.count_spares {spares : List α} (h : q.Full isSpare spares) {a : α}
    (ha : isSpare a = true) :
    q.active.count a + q.spare.count a = spares.count a := by
  rw [← h.kept.count_eq a, List.count_append, List.count_filter ha]

theorem delivers_drain (h : q.Sorted isSpare) :
    Delivers isSpare q (q.drain isSpare)
      (q.active.filter (fun a => !isSpare a) ++ q.pending) := by
  refine ⟨List.append_assoc _ _ _, ?_, ?_⟩
  · intro a ha
    rcases List.mem_append.mp ha with ha | ha
    · simpa using (List.mem_filter.mp ha).2
    · exact h.pending_user a ha
  · intro a ha
    have hspare := h.count_spare ha
    have hfilter : (q.active.filter (fun a => !isSpare a)).count a = q.active.count a :=
      List.count_filter (by simpa using ha)
    simp only [Rotation.tally, drain, List.count_append, List.count_nil, hfilter, hspare]
    omega

end Delivers

/-- The nodes in the order in which they leave: the slots first, then the pending ones. -/
def line (q : Rotation α) : List α := q.active ++ q.pending

/-- From `q` to `q'` the nodes `passed` left the line, first to last, and users among them
were completed; the users `queued` joined it at its end. -/
structure Passes (isSpare : α → Bool) (q q' : Rotation α) (passed queued : List α) :
    Prop where
  line : ∃ added, added.filter (fun a => !isSpare a) = queued ∧
    q.line ++ added = passed ++ q'.line
  completed : q'.completed = q.completed ++ passed.filter (fun a => !isSpare a)

/-- The users of a rotation in the order in which they were enqueued: those that left it,
then those in the line. -/
def history (isSpare : α → Bool) (q : Rotation α) : List α :=
  q.completed ++ q.line.filter (fun a => !isSpare a)

section Order

variable {isSpare : α → Bool} {q q' q'' : Rotation α} {passed passed' queued queued' : List α}

theorem passes_refl : Passes isSpare q q [] [] :=
  ⟨⟨[], rfl, List.append_nil _⟩, (List.append_nil _).symm⟩

theorem Passes.trans (h : Passes isSpare q q' passed queued)
    (h' : Passes isSpare q' q'' passed' queued') :
    Passes isSpare q q'' (passed ++ passed') (queued ++ queued') := by
  obtain ⟨⟨added, hadded, hline⟩, hcompleted⟩ := h
  obtain ⟨⟨added', hadded', hline'⟩, hcompleted'⟩ := h'
  refine ⟨⟨added ++ added', ?_, ?_⟩, ?_⟩
  · rw [List.filter_append, hadded, hadded']
  · rw [← List.append_assoc, hline, List.append_assoc, hline', List.append_assoc]
  · rw [hcompleted', hcompleted, List.filter_append, List.append_assoc]

theorem Passes.history (h : Passes isSpare q q' passed queued) :
    q'.history isSpare = q.history isSpare ++ queued := by
  obtain ⟨⟨added, rfl, hline⟩, hcompleted⟩ := h
  unfold Rotation.history
  rw [hcompleted, List.append_assoc, ← List.filter_append, ← hline, List.filter_append,
    List.append_assoc]

theorem passes_enqueue {a : α} (ha : isSpare a = false) :
    Passes isSpare q (q.enqueue a) [] [a] := by
  refine ⟨⟨[a], by simp [ha], ?_⟩, (List.append_nil _).symm⟩
  exact List.append_assoc _ _ _

/-- A refill moves the first pending node up; a spare joins at the end of a line in which
no node is pending. -/
theorem passes_refill (hq : q.Sorted isSpare) : Passes isSpare q q.refill [] [] := by
  unfold refill
  split
  · rename_i hpending
    unfold fillSpare
    split
    · exact ⟨⟨[], rfl, List.append_nil _⟩, (List.append_nil _).symm⟩
    · rename_i a rest hspare
      have ha : isSpare a = true := hq.spare_spare a (by rw [hspare]; exact List.mem_cons_self)
      refine ⟨⟨[a], by simp [ha], ?_⟩, (List.append_nil _).symm⟩
      simp [Rotation.line, hpending]
  · rename_i a rest hpending
    rw [fillPending_cons hpending]
    refine ⟨⟨[], rfl, ?_⟩, (List.append_nil _).symm⟩
    simp [Rotation.line, hpending]

theorem passes_retire {a : α} {rest : List α} (hactive : q.active = a :: rest) :
    Passes isSpare q (q.retire isSpare a rest) [a] [] := by
  unfold Rotation.retire
  split
  · rename_i ha
    refine ⟨⟨[], rfl, ?_⟩, by simp [ha]⟩
    simp [Rotation.line, hactive]
  · rename_i ha
    refine ⟨⟨[], rfl, ?_⟩, by simp [ha]⟩
    simp [Rotation.line, hactive]

theorem passes_advance (hq : q.Sorted isSpare) {a : α} {rest : List α}
    (hactive : q.active = a :: rest) : Passes isSpare q (q.advance isSpare) [a] [] := by
  have hstep : q.advance isSpare = (q.retire isSpare a rest).refill := by
    unfold Rotation.advance
    rw [hactive]
  rw [hstep]
  exact (passes_retire hactive).trans (passes_refill (hq.retire a rest))

theorem history_start {spares : List α} (hq : q.Sorted isSpare)
    (hspares : ∀ a ∈ spares, isSpare a = true) :
    (q.start spares).history isSpare = q.history isSpare := by
  have hpending : ∀ p : Rotation α, p.fillPending.history isSpare = p.history isSpare := by
    intro p
    unfold fillPending
    split
    · rfl
    · rename_i a rest hcons
      simp [Rotation.history, Rotation.line, hcons]
  have hspare : ∀ a ∈ q.spare ++ spares, isSpare a = true := by
    intro a ha
    rcases List.mem_append.mp ha with ha | ha
    · exact hq.spare_spare a ha
    · exact hspares a ha
  rw [start, hpending, fillSpare]
  split
  · rfl
  · rename_i a rest hcons
    have ha : isSpare a = true := hspare a (by
      change q.spare ++ spares = a :: rest at hcons
      rw [hcons]
      exact List.mem_cons_self)
    simp [Rotation.history, Rotation.line, ha]

/-- The last nodes leave in the order of the line as well. -/
theorem history_drain (hq : q.Sorted isSpare) :
    (q.drain isSpare).history isSpare = q.history isSpare ∧
      (q.drain isSpare).completed = q.history isSpare := by
  have hpending : q.pending.filter (fun a => !isSpare a) = q.pending :=
    List.filter_eq_self.mpr fun a ha => by simp [hq.pending_user a ha]
  constructor
  · simp [Rotation.history, Rotation.line, drain, hpending]
  · simp [Rotation.history, Rotation.line, drain, hpending]

end Order

end Rotation

end CameraPorting.Library.SlotRotation
