import Mathlib.Data.BitVec

namespace CameraPorting.Library.BitFields

variable {w m : Nat} {high low : Nat}

/-- The bits from `low` to `high`. -/
def fieldMask (w high low : Nat) : BitVec w :=
  (BitVec.allOnes w <<< low) &&& (BitVec.allOnes w >>> (w - 1 - high))

def slice (m high low : Nat) (v : BitVec w) : BitVec m :=
  ((v &&& fieldMask w high low) >>> low).setWidth m

def place (m high low : Nat) (v : BitVec w) : BitVec m :=
  ((v <<< low) &&& fieldMask w high low).setWidth m

/-- The value has no bit beyond the first `n`. -/
def Fits (n : Nat) (v : BitVec w) : Prop := v.toNat < 2 ^ n

instance (n : Nat) (v : BitVec w) : Decidable (Fits n v) :=
  inferInstanceAs (Decidable (v.toNat < 2 ^ n))

theorem Fits.getLsbD {n : Nat} {v : BitVec w} (h : Fits n v) {i : Nat} (hi : n ≤ i) :
    v.getLsbD i = false := by
  apply Nat.testBit_lt_two_pow
  exact lt_of_lt_of_le h (Nat.pow_le_pow_right Nat.two_pos hi)

theorem getLsbD_fieldMask (hhigh : high < w) (i : Nat) :
    (fieldMask w high low).getLsbD i = decide (low ≤ i ∧ i ≤ high) := by
  simp only [fieldMask, BitVec.getLsbD_and, BitVec.getLsbD_shiftLeft, BitVec.getLsbD_ushiftRight,
    BitVec.getLsbD_allOnes]
  grind

theorem getLsbD_slice (hhigh : high < w) (v : BitVec w) (i : Nat) :
    (slice m high low v).getLsbD i =
      (decide (i < m) && decide (low + i ≤ high) && v.getLsbD (low + i)) := by
  simp only [slice, BitVec.getLsbD_setWidth, BitVec.getLsbD_ushiftRight, BitVec.getLsbD_and,
    getLsbD_fieldMask hhigh]
  grind

theorem getLsbD_place (hhigh : high < w) (v : BitVec w) (i : Nat) :
    (place m high low v).getLsbD i =
      (decide (i < m) && decide (low ≤ i ∧ i ≤ high) && v.getLsbD (i - low)) := by
  simp only [place, BitVec.getLsbD_setWidth, BitVec.getLsbD_shiftLeft, BitVec.getLsbD_and,
    getLsbD_fieldMask hhigh]
  grind

theorem slice_or (m high low : Nat) (u v : BitVec w) :
    slice m high low (u ||| v) = slice m high low u ||| slice m high low v := by
  simp only [slice, BitVec.and_or_distrib_right, BitVec.ushiftRight_or_distrib,
    BitVec.setWidth_or]

/-- A value that fits a field is read back from it. -/
theorem slice_place {n : Nat} (hw : high < w) (hm : high < m) {v : BitVec w}
    (hv : Fits (high + 1 - low) v) : slice n high low (place m high low v) = v.setWidth n := by
  apply BitVec.eq_of_getLsbD_eq
  intro i hi
  rw [getLsbD_slice hm, getLsbD_place hw, Nat.add_sub_cancel_left, BitVec.getLsbD_setWidth]
  rcases Nat.lt_or_ge high (low + i) with hbeyond | hwithin
  · rw [hv.getLsbD (by omega)]
    simp
  · have hlow : low + i < m := by omega
    simp [hwithin, hlow]

theorem slice_place_apart {n high' low' : Nat} (hw : high < w) (hm : high' < m)
    (hapart : high < low' ∨ high' < low) (v : BitVec w) :
    slice n high' low' (place m high low v) = 0#n := by
  apply BitVec.eq_of_getLsbD_eq
  intro i _
  rw [getLsbD_slice hm, getLsbD_place hw, BitVec.getLsbD_zero]
  rcases Nat.lt_or_ge high' (low' + i) with hbeyond | hwithin
  · simp [hbeyond]
  · have houtside : ¬(low ≤ low' + i ∧ low' + i ≤ high) := by omega
    simp [houtside]

/-- The slice of a value goes back to where it came from. -/
theorem place_slice (hw : high < w) (hm : high < low + m) (v : BitVec w) :
    place w high low ((slice m high low v).setWidth w) = v &&& fieldMask w high low := by
  apply BitVec.eq_of_getLsbD_eq
  intro i hi
  rw [getLsbD_place hw, BitVec.getLsbD_setWidth, getLsbD_slice hw, BitVec.getLsbD_and,
    getLsbD_fieldMask hw]
  grind

section Updates

variable {mask v x : BitVec w}

theorem slice_of_apart (h : v &&& fieldMask w high low = 0#w) : slice m high low v = 0#m := by
  rw [slice, h, BitVec.zero_ushiftRight, BitVec.setWidth_zero]

/-- Clearing a mask clears the fields in it, and no field beside it. -/
theorem slice_clear_within (h : fieldMask w high low &&& ~~~mask = 0#w) :
    slice m high low (x &&& ~~~mask) = 0#m := by
  apply slice_of_apart
  rw [BitVec.and_assoc, BitVec.and_comm (~~~mask), h, BitVec.and_zero]

theorem slice_clear_apart (h : fieldMask w high low &&& mask = 0#w) :
    slice m high low (x &&& ~~~mask) = slice m high low x := by
  have hkept : ~~~mask &&& fieldMask w high low = fieldMask w high low := by
    apply BitVec.eq_of_getLsbD_eq
    intro i hi
    have hbit : (fieldMask w high low &&& mask).getLsbD i = false := by
      rw [h, BitVec.getLsbD_zero]
    rw [BitVec.getLsbD_and] at hbit
    rw [BitVec.getLsbD_and, BitVec.getLsbD_not, decide_eq_true hi, Bool.true_and]
    rcases hfield : (fieldMask w high low).getLsbD i with _ | _
    · rw [Bool.and_false]
    · rw [hfield, Bool.true_and] at hbit
      rw [hbit, Bool.not_false, Bool.true_and]
  rw [slice, slice, BitVec.and_assoc, hkept]

/-- An update replaces the fields in its mask and leaves those beside it. -/
theorem slice_update_within (h : fieldMask w high low &&& ~~~mask = 0#w) (bits : BitVec w) :
    slice m high low ((x &&& ~~~mask) ||| bits) = slice m high low bits := by
  rw [slice_or, slice_clear_within h, BitVec.zero_or]

theorem slice_update_apart {bits : BitVec w} (h : fieldMask w high low &&& mask = 0#w)
    (hbits : slice m high low bits = 0#m) :
    slice m high low ((x &&& ~~~mask) ||| bits) = slice m high low x := by
  rw [slice_or, slice_clear_apart h, hbits, BitVec.or_zero]

theorem slice_shiftLeft_self (hw : high < w) (hv : Fits (high + 1 - low) v) :
    slice w high low (v <<< low) = v := by
  apply BitVec.eq_of_getLsbD_eq
  intro i hi
  rw [getLsbD_slice hw, BitVec.getLsbD_shiftLeft, Nat.add_sub_cancel_left]
  rcases Nat.lt_or_ge high (low + i) with hbeyond | hwithin
  · rw [hv.getLsbD (by omega)]
    simp
  · have hlow : low + i < w := by omega
    simp [hi, hwithin, hlow]

theorem slice_shiftLeft_above (hw : high < w) {k : Nat} (hk : high < k) :
    slice m high low (v <<< k) = 0#m := by
  apply BitVec.eq_of_getLsbD_eq
  intro i _
  rw [getLsbD_slice hw, BitVec.getLsbD_shiftLeft, BitVec.getLsbD_zero]
  rcases Nat.lt_or_ge high (low + i) with hbeyond | hwithin
  · simp [hbeyond]
  · have hbelow : low + i < k := by omega
    simp [hbelow]

theorem slice_shiftLeft_below (hw : high < w) {k n : Nat} (hv : Fits n v) (hk : k + n ≤ low) :
    slice m high low (v <<< k) = 0#m := by
  apply BitVec.eq_of_getLsbD_eq
  intro i _
  rw [getLsbD_slice hw, BitVec.getLsbD_shiftLeft, BitVec.getLsbD_zero,
    hv.getLsbD (show n ≤ low + i - k by omega)]
  simp

theorem slice_of_fits (hw : high < w) {n : Nat} (hv : Fits n v) (hn : n ≤ low) :
    slice m high low v = 0#m := by
  have h : slice m high low (v <<< 0) = 0#m := slice_shiftLeft_below hw hv (by omega)
  rwa [BitVec.shiftLeft_zero] at h

theorem slice_self (hw : high < w) (hv : Fits (high + 1) v) : slice w high 0 v = v := by
  have h : slice w high 0 (v <<< 0) = v := slice_shiftLeft_self hw hv
  rwa [BitVec.shiftLeft_zero] at h

end Updates

theorem fieldMask_or {mid : Nat} (hw : high < w) (hmid : mid ≤ high) (hlow : low ≤ mid) :
    fieldMask w high (mid + 1) ||| fieldMask w mid low = fieldMask w high low := by
  apply BitVec.eq_of_getLsbD_eq
  intro i _
  rw [BitVec.getLsbD_or, getLsbD_fieldMask hw, getLsbD_fieldMask (hmid.trans_lt hw),
    getLsbD_fieldMask hw]
  grind

theorem and_fieldMask_of_fits (hw : high < w) {v : BitVec w} (hv : Fits (high + 1) v) :
    v &&& fieldMask w high 0 = v := by
  apply BitVec.eq_of_getLsbD_eq
  intro i _
  rw [BitVec.getLsbD_and, getLsbD_fieldMask hw]
  rcases Nat.lt_or_ge high i with hbeyond | hwithin
  · rw [hv.getLsbD hbeyond, Bool.false_and]
  · simp [hwithin]

end CameraPorting.Library.BitFields
