import CameraPorting.Isi.FrameDescriptor

namespace CameraPorting.Isi.Selections

open CameraPorting.Kernel.Media
open CameraPorting.Isi.Device
open CameraPorting.Isi.Formats
open CameraPorting.Isi.FrameDescriptor

/-- The two interfaces, the capture node with its own buffer type and the subdev with
`which` active. -/
inductive SelNode where
  | capture | subdev
  deriving DecidableEq

inductive SelPart where
  | crop | compose
  deriving DecidableEq

def target : SelPart → SelTarget
  | .crop => .crop
  | .compose => .compose

def boundsTarget : SelPart → SelTarget
  | .crop => .cropBounds
  | .compose => .composeBounds

def otherPart : SelPart → SelPart
  | .crop => .compose
  | .compose => .crop

/-- A set-selection, with the rectangle that it leaves in the caller's structure: the
capture node writes back the copy it took, the subdev writes nothing. -/
def setSelection (cap : MxcIsiCapDev) (node : SelNode) (part : SelPart) (le ge : Bool)
    (r : V4l2Rect) : MxcIsiCapDev × V4l2Rect × Ret :=
  let (cap, ret) := match node with
    | .capture => mxcIsiCapSSelection cap true (target part) le ge r
    | .subdev => mxcIsiSubdevSetSelection cap (target part) .active r
  (cap, r, ret)

/-- A get-selection. The subdev is asked for the active rectangle, so that the one of the
file handle plays no part. -/
def getSelection (cap : MxcIsiCapDev) (node : SelNode) (sel : SelTarget) (trySel : V4l2Rect) :
    Except Errno V4l2Rect :=
  match node with
  | .capture => mxcIsiCapGSelection cap true sel
  | .subdev => mxcIsiSubdevGetSelection cap sel .active trySel

structure Inside (a b : V4l2Rect) : Prop where
  left : b.left.toInt ≤ a.left.toInt
  top : b.top.toInt ≤ a.top.toInt
  right : a.left.toInt + a.width.toNat ≤ b.left.toInt + b.width.toNat
  bottom : a.top.toInt + a.height.toNat ≤ b.top.toInt + b.height.toNat

/-- A selection that is set is the one that is reported: it lies inside its bounds, keeps
to the flags of the call, and leaves the other target alone. -/
def SelectionKept (cap : MxcIsiCapDev) (node : SelNode) (part : SelPart) (le ge : Bool)
    (r : V4l2Rect) : Prop :=
  match setSelection cap node part le ge r with
  | (cap', left, .ok ()) => ∀ trySel,
      getSelection cap' node (target part) trySel = .ok left ∧
        (∃ bounds, getSelection cap' node (boundsTarget part) trySel = .ok bounds ∧
          Inside left bounds) ∧
        getSelection cap' node (target (otherPart part)) trySel =
          getSelection cap node (target (otherPart part)) trySel ∧
        (le = true → Inside left r) ∧ (ge = true → Inside r left)
  | (_, _, .error _) => True

def partFrame (cap : MxcIsiCapDev) : SelPart → MxcIsiFrame
  | .crop => cap.srcF
  | .compose => cap.dstF

def setPartFrame (cap : MxcIsiCapDev) (f : MxcIsiFrame) : SelPart → MxcIsiCapDev
  | .crop => { cap with srcF := f }
  | .compose => { cap with dstF := f }

def frameBounds (f : MxcIsiFrame) : V4l2Rect := ⟨0#32, 0#32, f.oWidth, f.oHeight⟩

theorem Inside.refl (r : V4l2Rect) : Inside r r :=
  ⟨le_refl _, le_refl _, le_refl _, le_refl _⟩

theorem enclosedRectangle_self (r : V4l2Rect) : enclosedRectangle r r = true := by
  simp [enclosedRectangle, BitVec.slt]

theorem setSelection_eq (cap : MxcIsiCapDev) (node : SelNode) (part : SelPart) (le ge : Bool)
    (r : V4l2Rect) :
    setSelection cap node part le ge r =
      (setPartFrame cap (setFrameCrop (partFrame cap part) r) part, r, .ok ()) := by
  cases node with
  | capture =>
      cases part with
      | crop => simp [setSelection, mxcIsiCapSSelection, target, enclosedRectangle_self,
          setPartFrame, partFrame]
      | compose => simp [setSelection, mxcIsiCapSSelection, target, enclosedRectangle_self,
          setPartFrame, partFrame]
  | subdev =>
      cases part with
      | crop => rfl
      | compose => rfl

theorem getSelection_part (cap : MxcIsiCapDev) (node : SelNode) (part : SelPart)
    (trySel : V4l2Rect) :
    getSelection cap node (target part) trySel =
      .ok ⟨(partFrame cap part).hOff, (partFrame cap part).vOff, (partFrame cap part).width,
        (partFrame cap part).height⟩ := by
  cases node with
  | capture =>
      cases part with
      | crop => rfl
      | compose => rfl
  | subdev =>
      cases part with
      | crop => rfl
      | compose => rfl

theorem getSelection_bounds (cap : MxcIsiCapDev) (node : SelNode) (part : SelPart)
    (trySel : V4l2Rect) :
    getSelection cap node (boundsTarget part) trySel =
      .ok (frameBounds (partFrame cap part)) := by
  cases node with
  | capture =>
      cases part with
      | crop => rfl
      | compose => rfl
  | subdev =>
      cases part with
      | crop => rfl
      | compose => rfl

theorem partFrame_setPartFrame (cap : MxcIsiCapDev) (f : MxcIsiFrame) (part : SelPart) :
    partFrame (setPartFrame cap f part) part = f ∧
      partFrame (setPartFrame cap f part) (otherPart part) = partFrame cap (otherPart part) := by
  cases part with
  | crop => exact ⟨rfl, rfl⟩
  | compose => exact ⟨rfl, rfl⟩

/-- A selection is kept exactly when it has the size that the getter reports anyway and
lies in the frame, which nobody checks. -/
theorem selectionKept_iff (cap : MxcIsiCapDev) (node : SelNode) (part : SelPart)
    (le ge : Bool) (r : V4l2Rect) :
    SelectionKept cap node part le ge r ↔
      r.width = (partFrame cap part).width ∧ r.height = (partFrame cap part).height ∧
        Inside r (frameBounds (partFrame cap part)) := by
  obtain ⟨hpart, hother⟩ :=
    partFrame_setPartFrame cap (setFrameCrop (partFrame cap part) r) part
  unfold SelectionKept
  rw [setSelection_eq]
  simp only [getSelection_part, getSelection_bounds, hpart, hother]
  constructor
  · intro h
    obtain ⟨hget, ⟨bounds, hbounds, hinside⟩, -⟩ := h r
    obtain rfl : frameBounds (setFrameCrop (partFrame cap part) r) = bounds :=
      Except.ok.inj hbounds
    have hsame := Except.ok.inj hget
    exact ⟨(congrArg V4l2Rect.width hsame).symm, (congrArg V4l2Rect.height hsame).symm, hinside⟩
  · rintro ⟨hwidth, hheight, hinside⟩ -
    refine ⟨?_, ⟨_, rfl, hinside⟩, trivial, fun _ => Inside.refl r, fun _ => Inside.refl r⟩
    change Except.ok (V4l2Rect.mk r.left r.top (partFrame cap part).width
      (partFrame cap part).height) = .ok r
    rw [← hwidth, ← hheight]

/-- A quarter of a frame of 640 by 480 pixels is set, and the whole frame reported. -/
theorem quarter_reported_whole :
    let cap := { boardCapture with dstF := setFrameBounds boardCapture.dstF 640#32 480#32 }
    let r : V4l2Rect := ⟨0#32, 0#32, 320#32, 240#32⟩
    (∀ node, (setSelection cap node .compose true false r).2.2 = .ok () ∧
      getSelection (setSelection cap node .compose true false r).1 node .compose r =
        .ok ⟨0#32, 0#32, 640#32, 480#32⟩ ∧
      ¬ SelectionKept cap node .compose true false r) := by
  intro cap r node
  have hget : getSelection (setSelection cap node .compose true false r).1 node .compose r =
      .ok ⟨0#32, 0#32, 640#32, 480#32⟩ := by
    rw [setSelection_eq]
    exact getSelection_part _ node .compose r
  refine ⟨?_, hget, ?_⟩
  · rw [setSelection_eq]
  · unfold SelectionKept
    rw [setSelection_eq] at hget ⊢
    intro hkept
    have hwidth := congrArg V4l2Rect.width (Except.ok.inj ((hkept r).1.symm.trans hget))
    exact absurd hwidth (by decide)

end CameraPorting.Isi.Selections
