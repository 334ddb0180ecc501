import Mathlib.Data.BitVec

namespace CameraPorting.Library.RegisterFields

variable {w : Nat} {bits mask field : BitVec w}

theorem or_and_apart (x : BitVec w) (h : bits &&& field = 0#w) :
    (x ||| bits) &&& field = x &&& field := by
  rw [BitVec.and_or_distrib_right, h, BitVec.or_zero]

theorem clear_and_apart (x : BitVec w) (h : mask &&& field = 0#w) :
    (x &&& ~~~mask) &&& field = x &&& field := by
  refine BitVec.eq_of_getLsbD_eq fun i hi => ?_
  have hbit : (mask &&& field).getLsbD i = false := by
    rw [h, BitVec.getLsbD_zero]
  rw [BitVec.getLsbD_and] at hbit
  simp only [BitVec.getLsbD_and, BitVec.getLsbD_not, hi, decide_true, Bool.true_and]
  rcases hfield : field.getLsbD i with _ | _
  · rw [Bool.and_false, Bool.and_false]
  · rw [hfield, Bool.and_true] at hbit
    rw [hbit, Bool.not_false, Bool.and_true]

theorem clear_and_within (x : BitVec w) (h : field &&& ~~~mask = 0#w) :
    (x &&& ~~~mask) &&& field = 0#w := by
  rw [BitVec.and_assoc, BitVec.and_comm (~~~mask), h, BitVec.and_zero]

theorem update_and_within (x : BitVec w) (h : field &&& ~~~mask = 0#w) :
    ((x &&& ~~~mask) ||| bits) &&& field = bits &&& field := by
  rw [BitVec.and_or_distrib_right, clear_and_within x h, BitVec.zero_or]

theorem update_and_apart (x : BitVec w) (hmask : mask &&& field = 0#w)
    (hbits : bits &&& field = 0#w) : ((x &&& ~~~mask) ||| bits) &&& field = x &&& field := by
  rw [or_and_apart _ hbits, clear_and_apart x hmask]

theorem or_or_and_self (x y field : BitVec w) : ((x ||| field) ||| y) &&& field = field := by
  apply BitVec.eq_of_getLsbD_eq
  intro i _
  rw [BitVec.getLsbD_and, BitVec.getLsbD_or, BitVec.getLsbD_or]
  rcases field.getLsbD i with _ | _
  · rw [Bool.and_false]
  · rw [Bool.or_true, Bool.true_or, Bool.and_true]

theorem and_or_cancel (x field : BitVec w) : (x &&& field) ||| field = field := by
  apply BitVec.eq_of_getLsbD_eq
  intro i _
  rw [BitVec.getLsbD_or, BitVec.getLsbD_and]
  rcases field.getLsbD i with _ | _
  · rw [Bool.and_false, Bool.or_false]
  · rw [Bool.or_true]

/-- All bits of the one value are among those of the other. -/
def Within (x y : BitVec w) : Prop := x ||| y = y

instance (x y : BitVec w) : Decidable (Within x y) :=
  inferInstanceAs (Decidable (x ||| y = y))

theorem within_iff {x y : BitVec w} :
    Within x y ↔ ∀ i, x.getLsbD i = true → y.getLsbD i = true := by
  constructor
  · intro h i hi
    rw [← show x ||| y = y from h, BitVec.getLsbD_or, hi, Bool.true_or]
  · intro h
    apply BitVec.eq_of_getLsbD_eq
    intro i _
    rw [BitVec.getLsbD_or]
    rcases hx : x.getLsbD i with _ | _
    · rw [Bool.false_or]
    · rw [h i hx, Bool.true_or]

namespace Within

variable {x y : BitVec w}

theorem refl (x : BitVec w) : Within x x := BitVec.or_self

theorem or (h : Within x y) (bits : BitVec w) : Within x (y ||| bits) := by
  change x ||| (y ||| bits) = y ||| bits
  rw [← BitVec.or_assoc, show x ||| y = y from h]

theorem clear (h : Within x y) (hapart : x &&& mask = 0#w) : Within x (y &&& ~~~mask) := by
  rw [within_iff]
  intro i hx
  have hmask : mask.getLsbD i = false := by
    have hbit := congrArg (BitVec.getLsbD · i) hapart
    simpa [hx] using hbit
  have hlt : i < w := BitVec.lt_of_getLsbD hx
  rw [BitVec.getLsbD_and, within_iff.mp h i hx, BitVec.getLsbD_not, hmask, decide_eq_true hlt]
  rfl

end Within

theorem and_eq_iff_within {x : BitVec w} : x &&& field = field ↔ Within field x := by
  constructor
  · intro h
    change field ||| x = x
    calc field ||| x = (field &&& x) ||| x := by rw [BitVec.and_comm, h]
      _ = x := and_or_cancel field x
  · intro h
    apply BitVec.eq_of_getLsbD_eq
    intro i _
    rw [BitVec.getLsbD_and]
    rcases hi : field.getLsbD i with _ | _
    · rw [Bool.and_false]
    · rw [within_iff.mp h i hi, Bool.and_true]

theorem within_or_iff {x y z : BitVec w} : Within (x ||| y) z ↔ Within x z ∧ Within y z := by
  simp only [within_iff, BitVec.getLsbD_or, Bool.or_eq_true]
  constructor
  · intro h
    exact ⟨fun i hi => h i (.inl hi), fun i hi => h i (.inr hi)⟩
  · rintro ⟨hx, hy⟩ i (hi | hi)
    · exact hx i hi
    · exact hy i hi

theorem apart_of_within {x y : BitVec w} (h : Within x y) (hy : y &&& field = 0#w) :
    x &&& field = 0#w := by
  have hx : x &&& y = x := by
    rw [BitVec.and_comm, and_eq_iff_within]
    exact h
  rw [← hx, BitVec.and_assoc, hy, BitVec.and_zero]

theorem and_not_of_within {x y : BitVec w} (h : Within x y) : x &&& ~~~y = 0#w := by
  rw [← show x ||| y = y from h]
  apply BitVec.eq_of_getLsbD_eq
  intro i hi
  simp only [BitVec.getLsbD_and, BitVec.getLsbD_or, BitVec.getLsbD_not, hi, decide_true,
    BitVec.getLsbD_zero, Bool.true_and]
  rcases x.getLsbD i with _ | _
  · rfl
  · rfl

/-- Bits that are only ever added are within a value when all that is added is. -/
theorem within_foldl_or_iff {α : Type*} {bits : α → BitVec w} {items : List α}
    {start bound : BitVec w} :
    Within (items.foldl (fun acc p => acc ||| bits p) start) bound ↔
      Within start bound ∧ ∀ p ∈ items, Within (bits p) bound := by
  induction items generalizing start with
  | nil => simp
  | cons p items ih =>
      rw [List.foldl_cons, ih, within_or_iff, List.forall_mem_cons, and_assoc]

/-- Bits that a value has anyway do not show beside it. -/
theorem foldl_or_or_of_within {α : Type*} {bits : α → BitVec w} {items : List α}
    {bound : BitVec w} (h : ∀ p ∈ items, Within (bits p) bound) (start : BitVec w) :
    items.foldl (fun acc p => acc ||| bits p) start ||| bound = start ||| bound := by
  induction items generalizing start with
  | nil => rfl
  | cons p items ih =>
      obtain ⟨hp, hitems⟩ := List.forall_mem_cons.mp h
      rw [List.foldl_cons, ih hitems, BitVec.or_assoc, show bits p ||| bound = bound from hp]

/-- Two registers hold the same in a field. -/
def AgreeOn (field x y : BitVec w) : Prop := x &&& field = y &&& field

namespace AgreeOn

variable {x y : BitVec w}

theorem zero (x y : BitVec w) : AgreeOn 0#w x y := by
  change x &&& 0#w = y &&& 0#w
  rw [BitVec.and_zero, BitVec.and_zero]

theorem or (h : AgreeOn field x y) (bits : BitVec w) :
    AgreeOn field (x ||| bits) (y ||| bits) := by
  change (x ||| bits) &&& field = (y ||| bits) &&& field
  rw [BitVec.and_or_distrib_right, BitVec.and_or_distrib_right,
    show x &&& field = y &&& field from h]

theorem orIf (h : AgreeOn field x y) (set : Bool) (bits : BitVec w) :
    AgreeOn field (if set then x ||| bits else x) (if set then y ||| bits else y) := by
  cases set with
  | false => exact h
  | true => exact h.or bits

theorem clear (h : AgreeOn field x y) (mask : BitVec w) :
    AgreeOn (field ||| mask) (x &&& ~~~mask) (y &&& ~~~mask) := by
  apply BitVec.eq_of_getLsbD_eq
  intro i hi
  have hbit := congrArg (BitVec.getLsbD · i) (show x &&& field = y &&& field from h)
  simp only [BitVec.getLsbD_and] at hbit
  simp only [BitVec.getLsbD_and, BitVec.getLsbD_or, BitVec.getLsbD_not, hi, decide_true,
    Bool.true_and]
  rcases mask.getLsbD i with _ | _
  · simpa using hbit
  · simp

theorem update (h : AgreeOn field x y) (mask bits : BitVec w) :
    AgreeOn (field ||| mask) ((x &&& ~~~mask) ||| bits) ((y &&& ~~~mask) ||| bits) :=
  (h.clear mask).or bits

theorem mono {sub : BitVec w} (h : AgreeOn field x y) (hsub : Within sub field) :
    AgreeOn sub x y := by
  have hand : field &&& sub = sub := and_eq_iff_within.mpr hsub
  change x &&& sub = y &&& sub
  rw [← hand, ← BitVec.and_assoc, ← BitVec.and_assoc, show x &&& field = y &&& field from h]

end AgreeOn

end CameraPorting.Library.RegisterFields
