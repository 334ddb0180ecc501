import Mathlib.Data.BitVec
import Mathlib.Data.List.Basic

namespace CameraPorting.Kernel.Media

/-- The C type `u32`. -/
abbrev U32 := BitVec 32

/-- The membership tests of the code lists compare by equality. -/
instance : LawfulBEq U32 := inferInstance

/-- The C type `u8`. -/
abbrev U8 := BitVec 8

/-- The error numbers the drivers return. -/
inductive Errno where
  | eperm | eio | enomem | ebusy | enodev | einval | erange | enobufs | eremoteio | erestartsys
  | enoioctlcmd | eprobeDefer
  deriving DecidableEq, Repr

/-- `enum rpm_status`, for a device with runtime power management. -/
inductive RpmStatus where
  | active | suspended
  deriving DecidableEq, Repr

/-- The result of a driver function: `0`, or a negative error number. -/
abbrev Ret := Except Errno Unit

instance : DecidableEq Ret
  | .ok (), .ok () => isTrue rfl
  | .ok (), .error _ => isFalse nofun
  | .error _, .ok () => isFalse nofun
  | .error e, .error e' =>
      decidable_of_iff (e = e') ⟨fun h => h ▸ rfl, fun h => Except.error.inj h⟩

def v4l2PixFmtGrey : U32 := 0x59455247#32
def v4l2PixFmtY10 : U32 := 0x20303159#32
def v4l2PixFmtY12 : U32 := 0x20323159#32
def v4l2PixFmtSbggr8 : U32 := 0x31384142#32
def v4l2PixFmtSgbrg8 : U32 := 0x47524247#32
def v4l2PixFmtSgrbg8 : U32 := 0x47425247#32
def v4l2PixFmtSrggb8 : U32 := 0x42474752#32
def v4l2PixFmtSbggr10 : U32 := 0x30314742#32
def v4l2PixFmtSgbrg10 : U32 := 0x30314247#32
def v4l2PixFmtSgrbg10 : U32 := 0x30314142#32
def v4l2PixFmtSrggb10 : U32 := 0x30314752#32
def v4l2PixFmtSbggr12 : U32 := 0x32314742#32
def v4l2PixFmtSgbrg12 : U32 := 0x32314247#32
def v4l2PixFmtSgrbg12 : U32 := 0x32314142#32
def v4l2PixFmtSrggb12 : U32 := 0x32314752#32
def v4l2PixFmtRgb565 : U32 := 0x50424752#32
def v4l2PixFmtRgb24 : U32 := 0x33424752#32
def v4l2PixFmtBgr24 : U32 := 0x33524742#32
def v4l2PixFmtYuyv : U32 := 0x56595559#32
def v4l2PixFmtYuv24 : U32 := 0x33565559#32
def v4l2PixFmtYuv32 : U32 := 0x34565559#32
def v4l2PixFmtNv12 : U32 := 0x3231564e#32
def v4l2PixFmtYuv444m : U32 := 0x34324d59#32
def v4l2PixFmtRgb32 : U32 := 0x34424752#32
def v4l2PixFmtBgr32 : U32 := 0x34524742#32
def v4l2PixFmtXrgb32 : U32 := 0x34325842#32
def v4l2PixFmtXbgr32 : U32 := 0x34325258#32
def v4l2PixFmtArgb32 : U32 := 0x34324142#32
def v4l2PixFmtAbgr32 : U32 := 0x34325241#32
def v4l2PixFmtRgba32 : U32 := 0x34324241#32

def mediaBusFmtBgr888_1x24 : U32 := 0x1013#32
def mediaBusFmtRgb888_1x24 : U32 := 0x100a#32
def mediaBusFmtRgb565_1x16 : U32 := 0x1017#32
def mediaBusFmtY8_1x8 : U32 := 0x2001#32
def mediaBusFmtUyvy8_2x8 : U32 := 0x2006#32
def mediaBusFmtVyuy8_2x8 : U32 := 0x2007#32
def mediaBusFmtYuyv8_2x8 : U32 := 0x2008#32
def mediaBusFmtYvyu8_2x8 : U32 := 0x2009#32
def mediaBusFmtY10_1x10 : U32 := 0x200a#32
def mediaBusFmtYuyv8_1x16 : U32 := 0x2011#32
def mediaBusFmtY12_1x12 : U32 := 0x2013#32
def mediaBusFmtAyuv8_1x32 : U32 := 0x2017#32
def mediaBusFmtYuv8_1x24 : U32 := 0x2025#32
def mediaBusFmtSbggr8_1x8 : U32 := 0x3001#32
def mediaBusFmtSgbrg8_1x8 : U32 := 0x3013#32
def mediaBusFmtSgrbg8_1x8 : U32 := 0x3002#32
def mediaBusFmtSrggb8_1x8 : U32 := 0x3014#32
def mediaBusFmtSbggr10_1x10 : U32 := 0x3007#32
def mediaBusFmtSgbrg10_1x10 : U32 := 0x300e#32
def mediaBusFmtSgrbg10_1x10 : U32 := 0x300a#32
def mediaBusFmtSrggb10_1x10 : U32 := 0x300f#32
def mediaBusFmtSbggr12_1x12 : U32 := 0x3008#32
def mediaBusFmtSgbrg12_1x12 : U32 := 0x3010#32
def mediaBusFmtSgrbg12_1x12 : U32 := 0x3011#32
def mediaBusFmtSrggb12_1x12 : U32 := 0x3012#32

inductive FormatWhence where
  | try | active
  deriving DecidableEq, Repr

/-- The fields of `struct v4l2_mbus_framefmt` the drivers negotiate. -/
structure MbusFramefmt where
  code : U32
  width : U32
  height : U32
  deriving DecidableEq, Repr

/-- The pad operations `set_fmt` and `get_fmt` of a subdev with state `ρ`, for
the active format. -/
structure PadOps (ρ : Type) where
  setFmt : ρ → MbusFramefmt → ρ × MbusFramefmt × Ret
  getFmt : ρ → ρ × Except Errno MbusFramefmt

/-- `v4l2_find_nearest_size`, which is not part of the sources: it picks an entry
of a table that is not empty. -/
structure NearestSize where
  find : List (U32 × U32) → U32 → U32 → Nat
  inTable : ∀ sizes width height, sizes ≠ [] → find sizes width height < sizes.length

/-- The entry `v4l2_find_nearest_size` picks of a table of modes. -/
def NearestSize.pick {α : Type} (nearest : NearestSize) (size : α → U32 × U32)
    (modes : List α) (width height : U32) : Option α :=
  modes[nearest.find (modes.map size) width height]?

/-- The sum of the differences in width and height. -/
def sizeError (width height : U32) (size : U32 × U32) : Nat :=
  ((size.1.toNat : Int) - width.toNat).natAbs + ((size.2.toNat : Int) - height.toNat).natAbs

/-- The loop of the search from entry `i` on, with the best entry so far and its error: a
later entry is taken over an equal one, and an error of zero ends it. -/
def leastFrom (error : U32 × U32 → Nat) : List (U32 × U32) → (i best least : Nat) → Nat
  | [], _, best, _ => best
  | size :: sizes, i, best, least =>
      if least < error size then leastFrom error sizes (i + 1) best least
      else if error size = 0 then i
      else leastFrom error sizes (i + 1) i (error size)

theorem leastFrom_spec {error : U32 × U32 → Nat} {sizes done : List (U32 × U32)}
    {best least : Nat} (hbest : ∃ size, done[best]? = some size ∧ error size = least)
    (hleast : ∀ other ∈ done, least ≤ error other) :
    ∃ size, (done ++ sizes)[leastFrom error sizes done.length best least]? = some size ∧
      ∀ other ∈ done ++ sizes, error size ≤ error other := by
  induction sizes generalizing done best least with
  | nil =>
      obtain ⟨size, hsize, rfl⟩ := hbest
      rw [List.append_nil]
      exact ⟨size, hsize, hleast⟩
  | cons size sizes ih =>
      have hlast : (done ++ [size])[done.length]? = some size := List.getElem?_concat_length
      have hlength : done.length + 1 = (done ++ [size]).length := by simp
      unfold leastFrom
      split
      · rename_i hworse
        rw [List.append_cons, hlength]
        refine ih ?_ fun other hother => ?_
        · obtain ⟨found, hfound, herror⟩ := hbest
          obtain ⟨hlt, -⟩ := List.getElem?_eq_some_iff.mp hfound
          exact ⟨found, (List.getElem?_append_left hlt).trans hfound, herror⟩
        · rcases List.mem_append.mp hother with hother | hother
          · exact hleast other hother
          · rw [List.mem_singleton.mp hother]
            exact hworse.le
      · rename_i hbetter
        split
        · rename_i hzero
          refine ⟨size, ?_, fun other _ => by omega⟩
          rw [List.append_cons, List.getElem?_append_left (by simp)]
          exact hlast
        · rw [List.append_cons, hlength]
          refine ih ⟨size, hlast, rfl⟩ fun other hother => ?_
          rcases List.mem_append.mp hother with hother | hother
          · exact (Nat.le_of_not_lt hbetter).trans (hleast other hother)
          · rw [List.mem_singleton.mp hother]

/-- The search of the kernel. -/
def leastIndex (sizes : List (U32 × U32)) (width height : U32) : Nat :=
  match sizes with
  | [] => 0
  | size :: sizes =>
      let error := sizeError width height
      if error size = 0 then 0 else leastFrom error sizes 1 0 (error size)

theorem leastIndex_spec {sizes : List (U32 × U32)} (hne : sizes ≠ []) (width height : U32) :
    ∃ size, sizes[leastIndex sizes width height]? = some size ∧
      ∀ other ∈ sizes, sizeError width height size ≤ sizeError width height other := by
  obtain ⟨first, rest, rfl⟩ := List.exists_cons_of_ne_nil hne
  unfold leastIndex
  dsimp only
  split
  · rename_i hzero
    exact ⟨first, rfl, fun other _ => by omega⟩
  · refine @leastFrom_spec (sizeError width height) rest [first] 0 _ ⟨first, rfl, rfl⟩ ?_
    intro other hother
    rw [List.mem_singleton.mp hother]

def leastError : NearestSize where
  find := leastIndex
  inTable sizes width height hne := by
    obtain ⟨size, hsize, -⟩ := leastIndex_spec hne width height
    exact (List.getElem?_eq_some_iff.mp hsize).1

/-- What `v4l2_find_nearest_size` is documented to do: no entry of the table is nearer
than the one it picks. -/
def NearestSize.Minimises (nearest : NearestSize) : Prop :=
  ∀ sizes width height size, sizes[nearest.find sizes width height]? = some size →
    ∀ other ∈ sizes, sizeError width height size ≤ sizeError width height other

theorem leastError_minimises : leastError.Minimises := by
  intro sizes width height size hsize other hother
  obtain ⟨found, hfound, hleast⟩ := leastIndex_spec (List.ne_nil_of_mem hother) width height
  obtain rfl := Option.some.inj (hsize.symm.trans hfound)
  exact hleast other hother

theorem NearestSize.pick_mem {α : Type} (nearest : NearestSize) (size : α → U32 × U32)
    {modes : List α} (h : modes ≠ []) (width height : U32) :
    ∃ mode ∈ modes, nearest.pick size modes width height = some mode := by
  have hlt := nearest.inTable (modes.map size) width height (by simpa using h)
  rw [List.length_map] at hlt
  exact ⟨modes[nearest.find (modes.map size) width height], List.getElem_mem hlt,
    List.getElem?_eq_getElem hlt⟩

theorem sizeError_eq_zero {width height : U32} {size : U32 × U32}
    (h : sizeError width height size = 0) : size = (width, height) := by
  unfold sizeError at h
  have hwidth : size.1 = width := BitVec.eq_of_toNat_eq (by omega)
  have hheight : size.2 = height := BitVec.eq_of_toNat_eq (by omega)
  exact Prod.ext hwidth hheight

theorem sizeError_self (size : U32 × U32) : sizeError size.1 size.2 size = 0 := by
  unfold sizeError
  omega

section Minimises

variable {nearest : NearestSize} {α : Type} {size : α → U32 × U32} {modes : List α} {mode : α}

theorem NearestSize.Minimises.pick_le (h : nearest.Minimises) {width height : U32}
    (hpick : nearest.pick size modes width height = some mode) :
    ∀ other ∈ modes,
      sizeError width height (size mode) ≤ sizeError width height (size other) := by
  intro other hother
  refine h (modes.map size) width height _ ?_ _ (List.mem_map_of_mem hother)
  rw [List.getElem?_map]
  exact congrArg (Option.map size) hpick

theorem NearestSize.Minimises.pick_self (h : nearest.Minimises)
    (hinj : ∀ mode ∈ modes, ∀ other ∈ modes, size mode = size other → mode = other)
    (hmode : mode ∈ modes) {width height : U32} (hsize : size mode = (width, height)) :
    nearest.pick size modes width height = some mode := by
  obtain ⟨picked, hmem, hpick⟩ := nearest.pick_mem size (List.ne_nil_of_mem hmode) width height
  have hle := h.pick_le hpick mode hmode
  have hself : sizeError width height (size mode) = 0 := by
    rw [hsize]
    exact sizeError_self (width, height)
  rw [hself] at hle
  have hpicked := sizeError_eq_zero (Nat.le_zero.mp hle)
  rw [hpick, hinj picked hmem mode hmode (hpicked.trans hsize.symm)]

end Minimises

/-- `ret < 0 && ret != -ENOIOCTLCMD`, the drivers' test for a failed call of a
subdev operation that may be missing. -/
def callFailed : Ret → Bool
  | .ok () => false
  | .error e => e != .enoioctlcmd

end CameraPorting.Kernel.Media
