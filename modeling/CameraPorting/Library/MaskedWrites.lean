import Mathlib.Data.BitVec
import Mathlib.Logic.Function.Basic

/-!
Programs of masked register writes. A write owns the bits of its mask; what a
program leaves in a register is decided by the bits its writes own together.
Programs that own the same bits override each other, programs that share none
commute.
-/

namespace CameraPorting.Library.MaskedWrites

variable {A : Type*} [DecidableEq A] {w : Nat}

/-- A write of `bits` to the bits of `mask` at `addr`. -/
structure MaskedWrite (A : Type*) (w : Nat) where
  addr : A
  mask : BitVec w
  bits : BitVec w
  within : bits &&& ~~~mask = 0#w

/-- A write of the whole register. -/
def MaskedWrite.full (addr : A) (value : BitVec w) : MaskedWrite A w :=
  ⟨addr, BitVec.allOnes w, value, by simp⟩

/-- What the write makes of the register contents. -/
def MaskedWrite.apply (op : MaskedWrite A w) (regs : A → BitVec w) : A → BitVec w :=
  Function.update regs op.addr (regs op.addr &&& ~~~op.mask ||| op.bits)

def run (ops : List (MaskedWrite A w)) (regs : A → BitVec w) : A → BitVec w :=
  ops.foldl (fun regs op => op.apply regs) regs

/-- The bits of a register the program owns. -/
def touched (a : A) : List (MaskedWrite A w) → BitVec w
  | [] => 0#w
  | op :: ops => (if op.addr = a then op.mask else 0#w) ||| touched a ops

@[simp] theorem run_nil (regs : A → BitVec w) : run [] regs = regs := rfl

@[simp] theorem run_cons (op : MaskedWrite A w) (ops : List (MaskedWrite A w))
    (regs : A → BitVec w) : run (op :: ops) regs = run ops (op.apply regs) := rfl

theorem run_append (ops more : List (MaskedWrite A w)) (regs : A → BitVec w) :
    run (ops ++ more) regs = run more (run ops regs) :=
  List.foldl_append

@[simp] theorem apply_full (addr : A) (value : BitVec w) (regs : A → BitVec w) :
    (MaskedWrite.full addr value).apply regs = Function.update regs addr value := by
  simp [MaskedWrite.apply, MaskedWrite.full]

theorem touched_append (a : A) (ops more : List (MaskedWrite A w)) :
    touched a (ops ++ more) = touched a ops ||| touched a more := by
  induction ops with
  | nil => simp [touched]
  | cons op ops ih =>
      rw [List.cons_append, touched, touched, ih, BitVec.or_assoc]

theorem touched_eq_zero {ops : List (MaskedWrite A w)} {a : A}
    (h : ∀ op ∈ ops, op.addr ≠ a) : touched a ops = 0#w := by
  induction ops with
  | nil => rfl
  | cons op ops ih =>
      rw [touched, if_neg (h op List.mem_cons_self),
        ih fun op' hmem => h op' (List.mem_cons_of_mem op hmem), BitVec.or_self]

theorem touched_eq_allOnes {ops : List (MaskedWrite A w)} {op : MaskedWrite A w}
    (hmem : op ∈ ops) (hmask : op.mask = BitVec.allOnes w) :
    touched op.addr ops = BitVec.allOnes w := by
  induction ops with
  | nil => exact absurd hmem List.not_mem_nil
  | cons op' ops ih =>
      rw [touched]
      rcases List.mem_cons.mp hmem with rfl | hmem
      · rw [if_pos rfl, hmask, BitVec.allOnes_or]
      · rw [ih hmem, BitVec.or_allOnes]

omit [DecidableEq A] in
theorem MaskedWrite.getLsbD_bits (op : MaskedWrite A w) {i : Nat} (hi : i < w)
    (hmask : op.mask.getLsbD i = false) : op.bits.getLsbD i = false := by
  have hwithin : (op.bits &&& ~~~op.mask).getLsbD i = false := by
    rw [op.within]
    exact BitVec.getLsbD_zero
  rw [BitVec.getLsbD_and, BitVec.getLsbD_not, hmask, decide_eq_true hi] at hwithin
  rwa [Bool.not_false, Bool.and_true, Bool.and_true] at hwithin

theorem getLsbD_apply (op : MaskedWrite A w) (regs : A → BitVec w) (a : A) {i : Nat}
    (hi : i < w) :
    (op.apply regs a).getLsbD i =
      if op.addr = a ∧ op.mask.getLsbD i = true then op.bits.getLsbD i
      else (regs a).getLsbD i := by
  unfold MaskedWrite.apply
  by_cases ha : op.addr = a
  · subst ha
    rw [Function.update_self, BitVec.getLsbD_or, BitVec.getLsbD_and, BitVec.getLsbD_not]
    rcases hmask : op.mask.getLsbD i with _ | _
    · simp only [hi, op.getLsbD_bits hi hmask, decide_true, Bool.not_false, Bool.and_true,
        Bool.or_false, Bool.false_eq_true, and_false, if_false]
    · simp only [hi, decide_true, Bool.not_true, Bool.and_false, Bool.false_or,
        and_self, if_true]
  · rw [Function.update_of_ne (Ne.symm ha), if_neg]
    rintro ⟨heq, -⟩
    exact ha heq

theorem getLsbD_run_untouched {ops : List (MaskedWrite A w)} {a : A} {i : Nat} (hi : i < w)
    (h : (touched a ops).getLsbD i = false) (regs : A → BitVec w) :
    (run ops regs a).getLsbD i = (regs a).getLsbD i := by
  induction ops generalizing regs with
  | nil => rfl
  | cons op ops ih =>
      rw [touched, BitVec.getLsbD_or, Bool.or_eq_false_iff] at h
      rw [run_cons, ih h.2, getLsbD_apply op regs a hi, if_neg]
      rintro ⟨ha, hmask⟩
      rw [if_pos ha, hmask] at h
      exact Bool.noConfusion h.1

/-- A bit the program owns does not depend on what was there before. -/
theorem getLsbD_run_touched {ops : List (MaskedWrite A w)} {a : A} {i : Nat} (hi : i < w)
    (h : (touched a ops).getLsbD i = true) (regs regs' : A → BitVec w) :
    (run ops regs a).getLsbD i = (run ops regs' a).getLsbD i := by
  induction ops generalizing regs regs' with
  | nil =>
      rw [touched, BitVec.getLsbD_zero] at h
      exact Bool.noConfusion h
  | cons op ops ih =>
      rw [run_cons, run_cons]
      rcases hrest : (touched a ops).getLsbD i with _ | _
      · -- the last write that owns the bit is this one
        rw [touched, BitVec.getLsbD_or, hrest, Bool.or_false] at h
        have hown : op.addr = a ∧ op.mask.getLsbD i = true := by
          by_cases ha : op.addr = a
          · rw [if_pos ha] at h
            exact ⟨ha, h⟩
          · rw [if_neg ha, BitVec.getLsbD_zero] at h
            exact Bool.noConfusion h
        rw [getLsbD_run_untouched hi hrest, getLsbD_run_untouched hi hrest,
          getLsbD_apply op regs a hi, getLsbD_apply op regs' a hi, if_pos hown, if_pos hown]
      · exact ih hrest _ _

theorem run_untouched {ops : List (MaskedWrite A w)} {a : A} (h : touched a ops = 0#w)
    (regs : A → BitVec w) : run ops regs a = regs a := by
  refine BitVec.eq_of_getLsbD_eq fun i hi => getLsbD_run_untouched hi ?_ regs
  rw [h]
  exact BitVec.getLsbD_zero

theorem run_congr (ops : List (MaskedWrite A w)) {a : A} {regs regs' : A → BitVec w}
    (h : regs a = regs' a) : run ops regs a = run ops regs' a := by
  refine BitVec.eq_of_getLsbD_eq fun i hi => ?_
  rcases hown : (touched a ops).getLsbD i with _ | _
  · rw [getLsbD_run_untouched hi hown, getLsbD_run_untouched hi hown, h]
  · exact getLsbD_run_touched hi hown _ _

theorem run_determined {ops : List (MaskedWrite A w)} {a : A}
    (h : touched a ops = BitVec.allOnes w) (regs regs' : A → BitVec w) :
    run ops regs a = run ops regs' a := by
  refine BitVec.eq_of_getLsbD_eq fun i hi => getLsbD_run_touched hi ?_ regs regs'
  rw [h, BitVec.getLsbD_allOnes]
  exact decide_eq_true hi

/-- The first program owns every bit of the register that the second owns. -/
def Covers (a : A) (ops' ops : List (MaskedWrite A w)) : Prop :=
  ∀ i, (touched a ops).getLsbD i = true → (touched a ops').getLsbD i = true

/-- The programs share no bit of the register. -/
def Apart (a : A) (ops ops' : List (MaskedWrite A w)) : Prop :=
  ∀ i, (touched a ops).getLsbD i = true → (touched a ops').getLsbD i = false

theorem covers_of_eq {a : A} {ops ops' : List (MaskedWrite A w)}
    (h : touched a ops = touched a ops') : Covers a ops' ops := by
  intro i hi
  rwa [← h]

theorem covers_of_untouched {a : A} {ops ops' : List (MaskedWrite A w)}
    (h : touched a ops = 0#w) : Covers a ops' ops := by
  intro i hi
  rw [h, BitVec.getLsbD_zero] at hi
  exact Bool.noConfusion hi

theorem Covers.append {a : A} {ops ops' more more' : List (MaskedWrite A w)}
    (h : Covers a ops' ops) (hmore : Covers a more' more) :
    Covers a (ops' ++ more') (ops ++ more) := by
  intro i hi
  rw [touched_append, BitVec.getLsbD_or, Bool.or_eq_true] at hi ⊢
  rcases hi with hi | hi
  · exact .inl (h i hi)
  · exact .inr (hmore i hi)

theorem Apart.append_left {a : A} {ops more ops' : List (MaskedWrite A w)}
    (h : Apart a ops ops') (hmore : Apart a more ops') : Apart a (ops ++ more) ops' := by
  intro i hi
  rw [touched_append, BitVec.getLsbD_or, Bool.or_eq_true] at hi
  rcases hi with hi | hi
  · exact h i hi
  · exact hmore i hi

theorem Apart.of_covers {a : A} {ops ops' large large' : List (MaskedWrite A w)}
    (h : Apart a large large') (hleft : Covers a large ops) (hright : Covers a large' ops') :
    Apart a ops ops' := by
  intro i hi
  have hlarge : (touched a large').getLsbD i = false := h i (hleft i hi)
  rcases hown : (touched a ops').getLsbD i with _ | _
  · rfl
  · rw [hright i hown] at hlarge
    exact Bool.noConfusion hlarge

theorem run_override {ops ops' : List (MaskedWrite A w)} {a : A} (h : Covers a ops' ops)
    (regs : A → BitVec w) : run ops' (run ops regs) a = run ops' regs a := by
  refine BitVec.eq_of_getLsbD_eq fun i hi => ?_
  rcases hown' : (touched a ops').getLsbD i with _ | _
  · rw [getLsbD_run_untouched hi hown', getLsbD_run_untouched hi hown']
    rcases hown : (touched a ops).getLsbD i with _ | _
    · exact getLsbD_run_untouched hi hown _
    · rw [h i hown] at hown'
      exact Bool.noConfusion hown'
  · exact getLsbD_run_touched hi hown' _ _

/-- Programs that share no bit of the register commute at it. -/
theorem run_comm {ops ops' : List (MaskedWrite A w)} {a : A} (h : Apart a ops ops')
    (regs : A → BitVec w) : run ops' (run ops regs) a = run ops (run ops' regs) a := by
  refine BitVec.eq_of_getLsbD_eq fun i hi => ?_
  rcases hown : (touched a ops).getLsbD i with _ | _
  · rw [getLsbD_run_untouched hi hown]
    rcases hown' : (touched a ops').getLsbD i with _ | _
    · rw [getLsbD_run_untouched hi hown', getLsbD_run_untouched hi hown',
        getLsbD_run_untouched hi hown]
    · exact getLsbD_run_touched hi hown' _ _
  · rw [getLsbD_run_untouched hi (h i hown)]
    exact getLsbD_run_touched hi hown _ _

/-- To run a program again with other values, after a longer program that contains
it, is to have run the longer program with these values: what follows the
program there shares no bit with it. -/
theorem run_replace {front ops ops' back : List (MaskedWrite A w)} {a : A}
    (hcovers : Covers a ops' ops) (hapart : Apart a back ops') (regs : A → BitVec w) :
    run ops' (run (front ++ (ops ++ back)) regs) a = run (front ++ (ops' ++ back)) regs a := by
  simp only [run_append]
  calc run ops' (run back (run ops (run front regs))) a
      = run back (run ops' (run ops (run front regs))) a := run_comm hapart _
    _ = run back (run ops' (run front regs)) a :=
        run_congr back (run_override hcovers _)

/-- The registers and masks of a program, without the values. -/
def outline (ops : List (MaskedWrite A w)) : List (A × BitVec w) :=
  ops.map fun op => (op.addr, op.mask)

omit [DecidableEq A] in
theorem outline_append (ops more : List (MaskedWrite A w)) :
    outline (ops ++ more) = outline ops ++ outline more :=
  List.map_append

theorem touched_of_outline {ops ops' : List (MaskedWrite A w)} (a : A)
    (h : outline ops = outline ops') : touched a ops = touched a ops' := by
  induction ops generalizing ops' with
  | nil =>
      cases ops' with
      | nil => rfl
      | cons op' ops' => exact absurd h.symm (List.cons_ne_nil _ _)
  | cons op ops ih =>
      cases ops' with
      | nil => exact absurd h (List.cons_ne_nil _ _)
      | cons op' ops' =>
          simp only [outline, List.map_cons, List.cons.injEq, Prod.mk.injEq] at h
          obtain ⟨⟨haddr, hmask⟩, hrest⟩ := h
          rw [touched, touched, haddr, hmask, ih hrest]

theorem exists_of_getLsbD_touched {ops : List (MaskedWrite A w)} {a : A} {i : Nat}
    (h : (touched a ops).getLsbD i = true) :
    ∃ op ∈ ops, op.addr = a ∧ op.mask.getLsbD i = true := by
  induction ops with
  | nil =>
      rw [touched, BitVec.getLsbD_zero] at h
      exact Bool.noConfusion h
  | cons op ops ih =>
      rw [touched, BitVec.getLsbD_or, Bool.or_eq_true] at h
      rcases h with h | h
      · by_cases ha : op.addr = a
        · rw [if_pos ha] at h
          exact ⟨op, List.mem_cons_self, ha, h⟩
        · rw [if_neg ha, BitVec.getLsbD_zero] at h
          exact Bool.noConfusion h
      · obtain ⟨op', hmem, hop'⟩ := ih h
        exact ⟨op', List.mem_cons_of_mem op hmem, hop'⟩

/-- No entry of the one outline shares a bit with an entry of the other. -/
def outlinesApart (entries entries' : List (A × BitVec w)) : Bool :=
  entries.all fun p => entries'.all fun q => decide (p.1 = q.1 → p.2 &&& q.2 = 0#w)

theorem outlinesApart_iff {entries entries' : List (A × BitVec w)} :
    outlinesApart entries entries' = true ↔
      ∀ p ∈ entries, ∀ q ∈ entries', p.1 = q.1 → p.2 &&& q.2 = 0#w := by
  simp only [outlinesApart, List.all_eq_true, decide_eq_true_eq]

theorem apart_of_outlines {ops ops' : List (MaskedWrite A w)}
    (h : outlinesApart (outline ops) (outline ops') = true) (a : A) : Apart a ops ops' := by
  intro i hi
  rcases hi' : (touched a ops').getLsbD i with _ | _
  · rfl
  · obtain ⟨op, hmem, haddr, hmask⟩ := exists_of_getLsbD_touched hi
    obtain ⟨op', hmem', haddr', hmask'⟩ := exists_of_getLsbD_touched hi'
    have hzero : op.mask &&& op'.mask = 0#w :=
      outlinesApart_iff.mp h _ (List.mem_map_of_mem hmem) _ (List.mem_map_of_mem hmem')
        (haddr.trans haddr'.symm)
    have hbit : (op.mask &&& op'.mask).getLsbD i = true := by
      rw [BitVec.getLsbD_and, hmask, hmask']
      rfl
    rw [hzero, BitVec.getLsbD_zero] at hbit
    exact Bool.noConfusion hbit

/-- The registers hold what the program writes. -/
def Holds (ops : List (MaskedWrite A w)) (regs : A → BitVec w) : Prop :=
  ∀ op ∈ ops, regs op.addr &&& op.mask = op.bits

omit [DecidableEq A] in
theorem holds_cons {op : MaskedWrite A w} {ops : List (MaskedWrite A w)} {regs : A → BitVec w} :
    Holds (op :: ops) regs ↔ regs op.addr &&& op.mask = op.bits ∧ Holds ops regs :=
  List.forall_mem_cons

omit [DecidableEq A] in
theorem holds_full_cons {addr : A} {value : BitVec w} {ops : List (MaskedWrite A w)}
    {regs : A → BitVec w} :
    Holds (.full addr value :: ops) regs ↔ regs addr = value ∧ Holds ops regs := by
  simp [holds_cons, MaskedWrite.full]

theorem apply_of_holds {op : MaskedWrite A w} {regs : A → BitVec w}
    (h : regs op.addr &&& op.mask = op.bits) : op.apply regs = regs := by
  unfold MaskedWrite.apply
  rw [← h, ← BitVec.and_or_distrib_left, BitVec.or_comm, BitVec.or_not_self,
    BitVec.and_allOnes, Function.update_eq_self]

theorem run_of_holds {ops : List (MaskedWrite A w)} {regs : A → BitVec w}
    (h : Holds ops regs) : run ops regs = regs := by
  induction ops with
  | nil => rfl
  | cons op ops ih =>
      rw [holds_cons] at h
      rw [run_cons, apply_of_holds h.1, ih h.2]

/-- A register the program does not write may change. -/
theorem Holds.update {ops : List (MaskedWrite A w)} {regs : A → BitVec w} (h : Holds ops regs)
    {a : A} (ha : a ∉ ops.map MaskedWrite.addr) (value : BitVec w) :
    Holds ops (Function.update regs a value) := by
  intro op hmem
  have hne : op.addr ≠ a := by
    rintro rfl
    exact ha (List.mem_map_of_mem hmem)
  rw [Function.update_of_ne hne]
  exact h op hmem

theorem and_mask_apply (op : MaskedWrite A w) (regs : A → BitVec w) :
    op.apply regs op.addr &&& op.mask = op.bits := by
  refine BitVec.eq_of_getLsbD_eq fun i hi => ?_
  rw [BitVec.getLsbD_and, getLsbD_apply op regs op.addr hi]
  rcases hmask : op.mask.getLsbD i with _ | _
  · rw [Bool.and_false, op.getLsbD_bits hi hmask]
  · rw [if_pos ⟨rfl, rfl⟩, Bool.and_true]

theorem run_of_not_mem {ops : List (MaskedWrite A w)} {a : A}
    (ha : a ∉ ops.map MaskedWrite.addr) (regs : A → BitVec w) : run ops regs a = regs a := by
  apply run_untouched
  apply touched_eq_zero
  rintro op hmem rfl
  exact ha (List.mem_map_of_mem hmem)

theorem holds_run {ops : List (MaskedWrite A w)} (hnodup : (ops.map MaskedWrite.addr).Nodup)
    (regs : A → BitVec w) : Holds ops (run ops regs) := by
  induction ops generalizing regs with
  | nil => simp [Holds]
  | cons op ops ih =>
      rw [List.map_cons, List.nodup_cons] at hnodup
      rw [holds_cons, run_cons, run_of_not_mem hnodup.1, and_mask_apply]
      exact ⟨rfl, ih hnodup.2 _⟩

theorem run_outside {ops : List (MaskedWrite A w)} (hnodup : (ops.map MaskedWrite.addr).Nodup)
    {op : MaskedWrite A w} (hmem : op ∈ ops) (regs : A → BitVec w) :
    run ops regs op.addr &&& ~~~op.mask = regs op.addr &&& ~~~op.mask := by
  induction ops generalizing regs with
  | nil => exact absurd hmem List.not_mem_nil
  | cons first ops ih =>
      rw [List.map_cons, List.nodup_cons] at hnodup
      rw [run_cons]
      rcases List.mem_cons.mp hmem with rfl | hmem
      · rw [run_of_not_mem hnodup.1]
        simp [MaskedWrite.apply, BitVec.and_or_distrib_right, op.within, BitVec.and_assoc]
      · have hne : op.addr ≠ first.addr := by
          intro heq
          exact hnodup.1 (heq ▸ List.mem_map_of_mem hmem)
        rw [ih hnodup.2 hmem, MaskedWrite.apply, Function.update_of_ne hne]

omit [DecidableEq A] in
theorem addresses_of_outline {ops ops' : List (MaskedWrite A w)}
    (h : outline ops = outline ops') :
    ops.map MaskedWrite.addr = ops'.map MaskedWrite.addr := by
  have hfst := congrArg (List.map Prod.fst) h
  rwa [outline, outline, List.map_map, List.map_map] at hfst

omit [DecidableEq A] in
theorem MaskedWrite.eq_of_parts {op op' : MaskedWrite A w} (haddr : op.addr = op'.addr)
    (hmask : op.mask = op'.mask) (hbits : op.bits = op'.bits) : op = op' := by
  obtain ⟨addr, mask, bits, within⟩ := op
  obtain ⟨addr', mask', bits', within'⟩ := op'
  dsimp only at haddr hmask hbits
  subst haddr hmask hbits
  rfl

/-- Part of a program of the same outline leaves what another program wrote if and only
if it is part of that program too: no register is written twice. -/
theorem holds_run_prefix_iff {part new ops : List (MaskedWrite A w)} {regs : A → BitVec w}
    (hpart : part <+: new) (houtline : outline new = outline ops)
    (hnodup : (ops.map MaskedWrite.addr).Nodup) (h : Holds ops regs) :
    Holds ops (run part regs) ↔ part <+: ops := by
  constructor
  · intro hafter
    induction part generalizing new ops with
    | nil => exact List.nil_prefix
    | cons op part ih =>
        obtain ⟨rest, rfl⟩ := hpart
        cases ops with
        | nil => exact absurd houtline (List.cons_ne_nil _ _)
        | cons op' ops =>
            rw [List.cons_append, outline, outline, List.map_cons, List.map_cons,
              List.cons.injEq, Prod.mk.injEq] at houtline
            obtain ⟨⟨haddr, hmask⟩, houtline⟩ := houtline
            rw [List.map_cons, List.nodup_cons] at hnodup
            rw [holds_cons] at h hafter
            have hlater : touched op.addr part = 0#w := by
              refine touched_eq_zero fun later hmem heq => hnodup.1 ?_
              rw [← addresses_of_outline houtline, ← haddr, ← heq]
              exact List.mem_map_of_mem (List.mem_append_left rest hmem)
            have hbits : op.bits = op'.bits := by
              rw [← hafter.1, ← haddr, ← hmask, run_cons, run_untouched hlater, and_mask_apply]
            obtain rfl : op = op' := MaskedWrite.eq_of_parts haddr hmask hbits
            rw [run_cons, apply_of_holds h.1] at hafter
            rw [List.cons_prefix_cons]
            exact ⟨rfl, ih ⟨rest, rfl⟩ houtline hnodup.2 h.2 hafter.2⟩
  · rintro ⟨rest, rfl⟩
    have hpart : Holds part regs := fun op hmem => h op (List.mem_append_left rest hmem)
    rw [run_of_holds hpart]
    exact h

end CameraPorting.Library.MaskedWrites
