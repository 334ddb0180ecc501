import Mathlib.Data.BitVec
import Mathlib.Data.Nat.ModEq

namespace CameraPorting.Library.ByteMemory

section Cells

variable {a : Nat} {β : Type*}

def storeAll : List β → BitVec a → (BitVec a → β) → BitVec a → β
  | [], _, cells => cells
  | item :: rest, addr, cells => storeAll rest (addr + 1) (Function.update cells addr item)

def loadAll : Nat → BitVec a → (BitVec a → β) → List β
  | 0, _, _ => []
  | n + 1, addr, cells => cells addr :: loadAll n (addr + 1) cells

theorem length_loadAll (n : Nat) (addr : BitVec a) (cells : BitVec a → β) :
    (loadAll n addr cells).length = n := by
  induction n generalizing addr with
  | zero => rfl
  | succ n ih => rw [loadAll, List.length_cons, ih]

theorem add_one_add (addr : BitVec a) (i : Nat) :
    addr + 1 + BitVec.ofNat a i = addr + BitVec.ofNat a (i + 1) := by
  rw [BitVec.add_assoc, Nat.add_comm i 1, BitVec.ofNat_add]
  rfl

/-- The addresses come round again after `2 ^ a` items only. -/
theorem ne_add_ofNat (addr : BitVec a) {i : Nat} (hpos : 0 < i) (hi : i < 2 ^ a) :
    addr ≠ addr + BitVec.ofNat a i := by
  intro h
  have hzero : BitVec.ofNat a i = 0#a := by
    exact (BitVec.add_right_eq_self).mp h.symm
  have hmod : i % 2 ^ a = 0 := by
    simpa using congrArg BitVec.toNat hzero
  rw [Nat.mod_eq_of_lt hi] at hmod
  exact hpos.ne' hmod

theorem storeAll_of_ne {items : List β} {addr b : BitVec a}
    (h : ∀ i < items.length, b ≠ addr + BitVec.ofNat a i) (cells : BitVec a → β) :
    storeAll items addr cells b = cells b := by
  induction items generalizing addr cells with
  | nil => rfl
  | cons item rest ih =>
      have hhead : b ≠ addr := by
        simpa using h 0 (Nat.zero_lt_succ _)
      rw [storeAll, ih, Function.update_of_ne hhead]
      intro i hi
      rw [add_one_add]
      exact h (i + 1) (Nat.succ_lt_succ hi)

/-- What was stored is read back, as long as it does not go round over itself. -/
theorem loadAll_storeAll {items : List β} (hlength : items.length ≤ 2 ^ a) (addr : BitVec a)
    (cells : BitVec a → β) :
    loadAll items.length addr (storeAll items addr cells) = items := by
  induction items generalizing addr cells with
  | nil => rfl
  | cons item rest ih =>
      have hhead : storeAll rest (addr + 1) (Function.update cells addr item) addr = item := by
        rw [storeAll_of_ne, Function.update_self]
        intro i hi
        rw [add_one_add]
        exact ne_add_ofNat addr (Nat.succ_pos i) (lt_of_lt_of_le (Nat.succ_lt_succ hi) hlength)
      rw [List.length_cons, loadAll, storeAll, hhead, ih (Nat.le_of_succ_le hlength)]

end Cells

section Bytes

/-- The low `n` bytes of a number, the most significant one first. -/
def bigEndian : Nat → Nat → List (BitVec 8)
  | 0, _ => []
  | n + 1, v => BitVec.ofNat 8 (v / 256 ^ n) :: bigEndian n v

def ofBigEndian : List (BitVec 8) → Nat
  | [] => 0
  | b :: rest => 256 ^ rest.length * b.toNat + ofBigEndian rest

theorem byte_eq {w : Nat} (v : BitVec w) (i : Nat) :
    (v >>> (8 * i)).setWidth 8 = BitVec.ofNat 8 (v.toNat / 256 ^ i) := by
  apply BitVec.eq_of_toNat_eq
  rw [BitVec.toNat_setWidth, BitVec.toNat_ushiftRight, BitVec.toNat_ofNat,
    Nat.shiftRight_eq_div_pow, Nat.pow_mul]

theorem length_bigEndian (n v : Nat) : (bigEndian n v).length = n := by
  induction n with
  | zero => rfl
  | succ n ih => rw [bigEndian, List.length_cons, ih]

theorem ofBigEndian_bigEndian (n v : Nat) : ofBigEndian (bigEndian n v) = v % 256 ^ n := by
  induction n with
  | zero => rw [bigEndian, ofBigEndian, Nat.pow_zero, Nat.mod_one]
  | succ n ih =>
      calc ofBigEndian (bigEndian (n + 1) v)
        _ = 256 ^ n * (v / 256 ^ n % 256) + v % 256 ^ n := by
          rw [bigEndian, ofBigEndian, ih, length_bigEndian]
          rfl
        _ = v % (256 ^ n * 256) := by rw [Nat.mod_mul, Nat.add_comm]
        _ = v % 256 ^ (n + 1) := by rw [Nat.pow_succ]

theorem ofBigEndian_replicate_zero (k : Nat) (bytes : List (BitVec 8)) :
    ofBigEndian (List.replicate k 0#8 ++ bytes) = ofBigEndian bytes := by
  induction k with
  | zero => rfl
  | succ k ih =>
      rw [List.replicate_succ, List.cons_append, ofBigEndian, ih]
      simp

theorem take_bigEndian (n k v : Nat) :
    (bigEndian (n + k) v).take n = bigEndian n (v / 256 ^ k) := by
  induction n with
  | zero => rfl
  | succ n ih =>
      rw [Nat.succ_add, bigEndian, List.take_succ_cons, ih, bigEndian, Nat.div_div_eq_div_mul,
        ← Nat.pow_add, Nat.add_comm k n]

theorem bigEndian_mod {n m : Nat} (h : n ≤ m) (v : Nat) :
    bigEndian n (v % 256 ^ m) = bigEndian n v := by
  induction n with
  | zero => rfl
  | succ n ih =>
      have hbyte : BitVec.ofNat 8 (v % 256 ^ m / 256 ^ n) = BitVec.ofNat 8 (v / 256 ^ n) := by
        obtain ⟨j, rfl⟩ := Nat.exists_eq_add_of_le h
        apply BitVec.eq_of_toNat_eq
        rw [BitVec.toNat_ofNat, BitVec.toNat_ofNat, Nat.add_assoc, Nat.pow_add,
          Nat.mod_mul_right_div_self]
        exact Nat.mod_mod_of_dvd _ (Dvd.intro _ (Nat.pow_add 256 1 j).symm)
      rw [bigEndian, bigEndian, hbyte, ih (Nat.le_of_succ_le h)]

/-- Moved to the front of `n + k` bytes, the low `n` bytes of a number are the first ones. -/
theorem take_bigEndian_shifted (n k v : Nat) :
    (bigEndian (n + k) (v * 256 ^ k % 256 ^ (n + k))).take n = bigEndian n v := by
  rw [take_bigEndian, Nat.pow_add, Nat.mul_comm (256 ^ n), Nat.mul_comm v, Nat.mul_mod_mul_left,
    Nat.mul_div_cancel_left _ (Nat.pow_pos (by decide)), bigEndian_mod (Nat.le_refl n)]

end Bytes

end CameraPorting.Library.ByteMemory
