import Mathlib.Data.List.Nodup
import CameraPorting.Kernel.Media

namespace CameraPorting.Kernel.PadEnumeration

open CameraPorting.Kernel.Media

structure FrameSizeRange where
  minWidth : U32
  maxWidth : U32
  minHeight : U32
  maxHeight : U32
  deriving DecidableEq

def FrameSizeRange.exactly (width height : U32) : FrameSizeRange := ⟨width, width, height, height⟩

/-- The entry of a table for an index, `EINVAL` beyond its end. -/
def enumEntry {α : Type} (table : List α) (index : U32) : Except Errno α :=
  match table[index.toNat]? with
  | some entry => .ok entry
  | none => .error .einval

variable {α β : Type}

def Enumerates (enum : U32 → Except Errno α) (a : α) : Prop := ∃ index, enum index = .ok a

/-- No two indices have the same entry. -/
def EnumeratesOnce (enum : U32 → Except Errno α) : Prop :=
  ∀ index index' a, enum index = .ok a → enum index' = .ok a → index = index'

/-- The valid indices are those below a number of entries. -/
def InitialIndices (enum : U32 → Except Errno α) : Prop :=
  ∃ entries, ∀ index, (∃ a, enum index = .ok a) ↔ index.toNat < entries

/-- What an application finds that counts up until the first error. -/
def Listed (enum : U32 → Except Errno α) (a : α) : Prop :=
  ∃ index, enum index = .ok a ∧ ∀ earlier, earlier.toNat < index.toNat → ∃ b, enum earlier = .ok b

theorem listed_iff_enumerates {enum : U32 → Except Errno α} (h : InitialIndices enum) (a : α) :
    Listed enum a ↔ Enumerates enum a := by
  obtain ⟨entries, hentries⟩ := h
  constructor
  · rintro ⟨index, hindex, -⟩
    exact ⟨index, hindex⟩
  · rintro ⟨index, hindex⟩
    refine ⟨index, hindex, fun earlier hearlier => (hentries earlier).mpr ?_⟩
    exact hearlier.trans ((hentries index).mp ⟨a, hindex⟩)

theorem not_listed_of_error {enum : U32 → Except Errno α} {e : Errno} (h : enum 0 = .error e)
    (a : α) : ¬Listed enum a := by
  rintro ⟨index, hindex, hearlier⟩
  rcases Nat.eq_zero_or_pos index.toNat with hzero | hpos
  · have hfirst : index = 0 := BitVec.eq_of_toNat_eq hzero
    rw [hfirst, h] at hindex
    exact absurd hindex nofun
  · obtain ⟨b, hb⟩ := hearlier 0 hpos
    rw [h] at hb
    exact absurd hb nofun

theorem enumEntry_eq_ok {table : List α} {index : U32} {a : α} :
    enumEntry table index = .ok a ↔ table[index.toNat]? = some a := by
  unfold enumEntry
  cases table[index.toNat]? with
  | none => simp
  | some entry => simp

theorem enumEntry_map (f : α → β) (table : List α) (index : U32) :
    (enumEntry table index).map f = enumEntry (table.map f) index := by
  unfold enumEntry
  rw [List.getElem?_map]
  cases table[index.toNat]? with
  | none => rfl
  | some entry => rfl

theorem enumerates_iff {table : List α} (hlength : table.length ≤ 2 ^ 32) (a : α) :
    Enumerates (enumEntry table) a ↔ a ∈ table := by
  simp only [Enumerates, enumEntry_eq_ok, List.mem_iff_getElem?]
  constructor
  · rintro ⟨index, h⟩
    exact ⟨_, h⟩
  · rintro ⟨n, h⟩
    obtain ⟨hn, -⟩ := List.getElem?_eq_some_iff.mp h
    refine ⟨BitVec.ofNat 32 n, ?_⟩
    rwa [BitVec.toNat_ofNat, Nat.mod_eq_of_lt (hn.trans_le hlength)]

theorem enumeratesOnce_of_nodup {table : List α} (hnodup : table.Nodup) :
    EnumeratesOnce (enumEntry table) := by
  intro index index' a h h'
  rw [enumEntry_eq_ok] at h h'
  obtain ⟨hindex, -⟩ := List.getElem?_eq_some_iff.mp h
  apply BitVec.eq_of_toNat_eq
  rw [← List.getElem?_inj hindex hnodup, h, h']

theorem initialIndices_enumEntry (table : List α) : InitialIndices (enumEntry table) := by
  refine ⟨table.length, fun index => ?_⟩
  simp only [enumEntry_eq_ok, List.getElem?_eq_some_iff]
  constructor
  · rintro ⟨_, hindex, -⟩
    exact hindex
  · intro hindex
    exact ⟨_, hindex, rfl⟩

end CameraPorting.Kernel.PadEnumeration
