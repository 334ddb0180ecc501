import CameraPorting.Isi.ChannelDecoding
import CameraPorting.Library.Runs

namespace CameraPorting.Isi.Controls

open CameraPorting.Kernel.Media
open CameraPorting.Library.Runs
open CameraPorting.Library.BitFields
open CameraPorting.Isi.Device
open CameraPorting.Isi.Channel
open CameraPorting.Isi.Formats
open CameraPorting.Isi.ChannelConfig
open CameraPorting.Isi.ChannelDecoding

inductive IsiNode where
  | capture | m2m
  deriving DecidableEq, Repr

inductive IsiCtrl where
  | hflip | vflip | alphaComponent
  deriving DecidableEq, Repr

/-- The channel with its lock, and the controls of its nodes: whether they are created, and
their current values. -/
structure ChannelControls where
  isi : MxcIsiDev
  slockHeld : Bool
  ready : IsiNode → Bool
  cur : IsiNode → IsiCtrl → Int

def withHflip (val : Int) (isi : MxcIsiDev) : MxcIsiDev := { isi with hflip := decide (0 < val) }

def withVflip (val : Int) (isi : MxcIsiDev) : MxcIsiDev := { isi with vflip := decide (0 < val) }

def withAlpha (val : Int) (isi : MxcIsiDev) : MxcIsiDev :=
  { isi with alpha := BitVec.ofInt 8 val, alphaen := true }

/-- `mxc_isi_s_ctrl`; its errors return with the lock held. -/
def mxcIsiSCtrl (id : IsiCtrl) (val : Int) (s : ChannelControls) : ChannelControls × Ret :=
  match id with
  | .alphaComponent =>
      if val < 0 ∨ 255 < val then ({ s with slockHeld := true }, .error .einval)
      else ({ s with isi := withAlpha val s.isi, slockHeld := false }, .ok ())
  | .hflip | .vflip => ({ s with slockHeld := true }, .error .einval)

def mxcIsiM2mSCtrl (id : IsiCtrl) (val : Int) (s : ChannelControls) : ChannelControls × Ret :=
  let unlock (r : MxcIsiDev × Ret) : ChannelControls × Ret :=
    ({ s with isi := r.1, slockHeld := false }, r.2)
  match id with
  | .hflip => unlock (if val < 0 then (s.isi, .error .einval) else (withHflip val s.isi, .ok ()))
  | .vflip => unlock (if val < 0 then (s.isi, .error .einval) else (withVflip val s.isi, .ok ()))
  | .alphaComponent => unlock (
      if val < 0 ∨ 255 < val then (s.isi, .error .einval) else (withAlpha val s.isi, .ok ()))

def nodeSCtrl : IsiNode → IsiCtrl → Int → ChannelControls → ChannelControls × Ret
  | .capture => mxcIsiSCtrl
  | .m2m => mxcIsiM2mSCtrl

/-- The controls that `mxc_isi_ctrls_create` and `mxc_isi_m2m_ctrls_create` create; the two
buffer numbers of the mem2mem node are read-only and left out. -/
def nodeCtrls : IsiNode → List IsiCtrl
  | .capture => [.alphaComponent]
  | .m2m => [.hflip, .vflip, .alphaComponent]

def defaultValue : IsiCtrl → Int
  | .hflip | .vflip | .alphaComponent => 0

/-- What the control framework makes of a value, by the type and the limits of the control. -/
def validValue (id : IsiCtrl) (val : Int) : Int :=
  match id with
  | .hflip | .vflip => if val = 0 then 0 else 1
  | .alphaComponent => max 0 (min 255 val)

/-- The creation of the controls of a node; `error` is what the handler reports. -/
def ctrlsCreate (node : IsiNode) (error : Option Errno) (s : ChannelControls) :
    ChannelControls × Ret :=
  if s.ready node then (s, .ok ())
  else
    match error with
    | some e => (s, .error e)
    | none => ({ s with
        ready := Function.update s.ready node true
        cur := Function.update s.cur node defaultValue }, .ok ())

def ctrlsDelete (node : IsiNode) (s : ChannelControls) : ChannelControls :=
  { s with ready := Function.update s.ready node false }

def setCur (node : IsiNode) (id : IsiCtrl) (val : Int) (s : ChannelControls) : ChannelControls :=
  { s with cur := Function.update s.cur node (Function.update (s.cur node) id val) }

/-- `VIDIOC_S_CTRL`: the driver is not called for the value that is current. -/
def sCtrl (node : IsiNode) (id : IsiCtrl) (val : Int) (s : ChannelControls) :
    ChannelControls × Ret :=
  if s.ready node = false ∨ id ∉ nodeCtrls node then (s, .error .einval)
  else if validValue id val = s.cur node id then (s, .ok ())
  else
    match nodeSCtrl node id (validValue id val) s with
    | (s, .error e) => (s, .error e)
    | (s, .ok ()) => (setCur node id (validValue id val) s, .ok ())

/-- What the nodes meet: their controls come and go with their registration, users set
them, and the channel is configured for a stream of either. -/
inductive ControlCall where
  | create (node : IsiNode) (error : Option Errno)
  | delete (node : IsiNode)
  | sCtrl (node : IsiNode) (id : IsiCtrl) (val : Int)
  | config (srcF dstF : MxcIsiFrame) (srcFmt dstFmt : MxcIsiFmt)

def controlCall (s : ChannelControls) : ControlCall → ChannelControls × Ret
  | .create node error => ctrlsCreate node error s
  | .delete node => (ctrlsDelete node s, .ok ())
  | .sCtrl node id val => sCtrl node id val s
  | .config srcF dstF srcFmt dstFmt =>
      ({ s with isi := mxcIsiChannelConfig s.isi srcF dstF srcFmt dstFmt }, .ok ())

/-- What users last asked for, at either node; an alpha that nobody asked for is off. -/
structure Asked where
  hflip : Bool
  vflip : Bool
  alpha : Option U8
  deriving DecidableEq, Repr

def Asked.set (a : Asked) (id : IsiCtrl) (val : Int) : Asked :=
  match id with
  | .hflip => { a with hflip := decide (0 < val) }
  | .vflip => { a with vflip := decide (0 < val) }
  | .alphaComponent => { a with alpha := some (BitVec.ofInt 8 val) }

def Asked.after (a : Asked) (ret : Ret) : ControlCall → Asked
  | .sCtrl _ id val =>
      match ret with
      | .ok () => a.set id (validValue id val)
      | .error _ => a
  | .create .. | .delete _ | .config .. => a

abbrev Watched := ChannelControls × Asked

def controlStep (w : Watched) (call : ControlCall) : Watched :=
  ((controlCall w.1 call).1, w.2.after (controlCall w.1 call).2 call)

/-- The channel is set as it was asked. -/
structure SetAsAsked (isi : MxcIsiDev) (a : Asked) : Prop where
  hflip : isi.hflip = a.hflip
  vflip : isi.vflip = a.vflip
  alpha : (if isi.alphaen then some isi.alpha else none) = a.alpha

instance (isi : MxcIsiDev) (a : Asked) : Decidable (SetAsAsked isi a) :=
  decidable_of_iff (isi.hflip = a.hflip ∧ isi.vflip = a.vflip ∧
      (if isi.alphaen then some isi.alpha else none) = a.alpha)
    ⟨fun ⟨hflip, vflip, alpha⟩ => ⟨hflip, vflip, alpha⟩, fun h => ⟨h.hflip, h.vflip, h.alpha⟩⟩

/-- Every configuration programs the channel as it was asked. -/
def ProgramsAsked (w : Watched) : Prop :=
  ∀ srcF dstF srcFmt dstFmt,
    let image := decodeImgCtrl
      ((mxcIsiChannelConfig w.1.isi srcF dstF srcFmt dstFmt).regs .imgCtrl)
    image.hflip = bit w.2.hflip ∧ image.vflip = bit w.2.vflip ∧
      image.alphaEnable = bit w.2.alpha.isSome ∧
      image.alpha = (w.2.alpha.getD 0#8).setWidth 32

theorem imgCtrl_fields (isi : MxcIsiDev) (srcF dstF : MxcIsiFrame) (srcFmt dstFmt : MxcIsiFmt) :
    let image := decodeImgCtrl
      ((mxcIsiChannelConfig isi srcF dstF srcFmt dstFmt).regs .imgCtrl)
    image.hflip = bit isi.hflip ∧ image.vflip = bit isi.vflip ∧
      image.alphaEnable = bit isi.alphaen ∧
      image.alpha = if isi.alphaen then isi.alpha.setWidth 32 else 0#32 := by
  obtain ⟨halpha, henable⟩ := alpha_fields (settings isi) srcF dstF srcFmt dstFmt
    (isi.regs .imgCtrl)
  obtain ⟨hvflip, hhflip⟩ := flip_fields (settings isi) srcF dstF srcFmt dstFmt
    (isi.regs .imgCtrl)
  rw [imgCtrl_channelConfig]
  exact ⟨hhflip, hvflip, henable, halpha⟩

theorem bit_inj {a b : Bool} : bit a = bit b ↔ a = b := by
  revert a b
  decide

theorem alphaField_iff {alphaen : Bool} {alpha : U8} {asked : Option U8} :
    (bit alphaen = bit asked.isSome ∧
        (if alphaen then alpha.setWidth 32 else 0#32) = (asked.getD 0#8).setWidth 32) ↔
      (if alphaen then some alpha else none) = asked := by
  rw [bit_inj]
  cases alphaen with
  | false =>
      cases asked with
      | none => simp
      | some v => simp
  | true =>
      cases asked with
      | none => simp
      | some v =>
          have hinj : alpha.setWidth 32 = v.setWidth 32 ↔ alpha = v := by
            constructor
            · intro h
              have hback := congrArg (BitVec.setWidth 8) h
              simpa using hback
            · rintro rfl
              rfl
          simp [hinj]

theorem programsAsked_iff (w : Watched) : ProgramsAsked w ↔ SetAsAsked w.1.isi w.2 := by
  constructor
  · intro h
    obtain ⟨hhflip, hvflip, henable, hvalue⟩ := h zeroFrame zeroFrame mxcIsiOutFormat0
      mxcIsiOutFormat0
    obtain ⟨hh, hv, he, ha⟩ := imgCtrl_fields w.1.isi zeroFrame zeroFrame mxcIsiOutFormat0
      mxcIsiOutFormat0
    refine ⟨bit_inj.mp (hh.symm.trans hhflip), bit_inj.mp (hv.symm.trans hvflip), ?_⟩
    exact alphaField_iff.mp ⟨he.symm.trans henable, ha.symm.trans hvalue⟩
  · rintro ⟨hhflip, hvflip, halpha⟩ srcF dstF srcFmt dstFmt
    obtain ⟨hh, hv, henable, hvalue⟩ := imgCtrl_fields w.1.isi srcF dstF srcFmt dstFmt
    obtain ⟨henabled, hasked⟩ := alphaField_iff.mpr halpha
    exact ⟨hh.trans (congrArg bit hhflip), hv.trans (congrArg bit hvflip),
      henable.trans henabled, hvalue.trans hasked⟩

def channelSet : IsiCtrl → Int → MxcIsiDev → MxcIsiDev
  | .hflip => withHflip
  | .vflip => withVflip
  | .alphaComponent => withAlpha

theorem validValue_mem (id : IsiCtrl) (val : Int) :
    0 ≤ validValue id val ∧ validValue id val ≤ 255 := by
  cases id with
  | hflip | vflip =>
      change 0 ≤ (if val = 0 then (0 : Int) else 1) ∧ (if val = 0 then (0 : Int) else 1) ≤ 255
      split
      · omega
      · omega
  | alphaComponent =>
      change 0 ≤ max 0 (min 255 val) ∧ max 0 (min 255 val) ≤ 255
      omega

/-- The drivers take every value that the control framework lets through. -/
theorem nodeSCtrl_valid {node : IsiNode} {id : IsiCtrl} (hid : id ∈ nodeCtrls node) (val : Int)
    (s : ChannelControls) :
    nodeSCtrl node id (validValue id val) s =
      ({ s with isi := channelSet id (validValue id val) s.isi, slockHeld := false }, .ok ()) := by
  obtain ⟨hmin, hmax⟩ := validValue_mem id val
  have hlimits : ¬(validValue id val < 0 ∨ 255 < validValue id val) := by omega
  have hnat : ¬validValue id val < 0 := by omega
  cases node with
  | capture =>
      simp only [nodeCtrls, List.mem_singleton] at hid
      subst hid
      simp only [nodeSCtrl, mxcIsiSCtrl, if_neg hlimits]
      rfl
  | m2m =>
      cases id with
      | hflip | vflip =>
          simp only [nodeSCtrl, mxcIsiM2mSCtrl, if_neg hnat]
          rfl
      | alphaComponent =>
          simp only [nodeSCtrl, mxcIsiM2mSCtrl, if_neg hlimits]
          rfl

def Offers (s : ChannelControls) (node : IsiNode) (id : IsiCtrl) : Prop :=
  s.ready node = true ∧ id ∈ nodeCtrls node

instance (s : ChannelControls) (node : IsiNode) (id : IsiCtrl) : Decidable (Offers s node id) :=
  inferInstanceAs (Decidable (_ ∧ _))

theorem sCtrl_cases (node : IsiNode) (id : IsiCtrl) (val : Int) (s : ChannelControls) :
    (¬Offers s node id ∧ sCtrl node id val s = (s, .error .einval)) ∨
      (Offers s node id ∧ validValue id val = s.cur node id ∧
        sCtrl node id val s = (s, .ok ())) ∨
      (Offers s node id ∧ validValue id val ≠ s.cur node id ∧
        sCtrl node id val s = (setCur node id (validValue id val)
          { s with isi := channelSet id (validValue id val) s.isi, slockHeld := false },
          .ok ())) := by
  unfold sCtrl
  by_cases hoffers : Offers s node id
  · obtain ⟨hready, hid⟩ := hoffers
    have hhas : ¬(s.ready node = false ∨ id ∉ nodeCtrls node) := by
      rw [hready]
      simpa using hid
    rw [if_neg hhas]
    by_cases hcur : validValue id val = s.cur node id
    · rw [if_pos hcur]
      exact .inr (.inl ⟨⟨hready, hid⟩, hcur, rfl⟩)
    · rw [if_neg hcur, nodeSCtrl_valid hid]
      exact .inr (.inr ⟨⟨hready, hid⟩, hcur, rfl⟩)
  · have hnone : s.ready node = false ∨ id ∉ nodeCtrls node := by
      by_contra hhas
      rw [not_or, Bool.not_eq_false, not_not] at hhas
      exact hoffers hhas
    rw [if_pos hnone]
    exact .inl ⟨hoffers, rfl⟩

def SetTo (isi : MxcIsiDev) (val : Int) : IsiCtrl → Prop
  | .hflip => isi.hflip = decide (0 < val)
  | .vflip => isi.vflip = decide (0 < val)
  | .alphaComponent => isi.alphaen = true ∧ isi.alpha = BitVec.ofInt 8 val

instance (isi : MxcIsiDev) (val : Int) : (id : IsiCtrl) → Decidable (SetTo isi val id)
  | .hflip => inferInstanceAs (Decidable (_ = _))
  | .vflip => inferInstanceAs (Decidable (_ = _))
  | .alphaComponent => inferInstanceAs (Decidable (_ ∧ _))

/-- The control of the node already has the value, so that the driver is not called, while the
channel has another one. -/
def Swallowed (s : ChannelControls) : ControlCall → Prop
  | .sCtrl node id val => Offers s node id ∧ validValue id val = s.cur node id ∧
      ¬SetTo s.isi (validValue id val) id
  | .create .. | .delete _ | .config .. => False

instance (s : ChannelControls) : (call : ControlCall) → Decidable (Swallowed s call)
  | .sCtrl _ _ _ => inferInstanceAs (Decidable (_ ∧ _ ∧ ¬_))
  | .create .. | .delete _ | .config .. => .isFalse id

theorem setAsAsked_channelSet {isi : MxcIsiDev} {a : Asked} (h : SetAsAsked isi a) (id : IsiCtrl)
    (val : Int) : SetAsAsked (channelSet id val isi) (a.set id val) := by
  cases id with
  | hflip => exact ⟨rfl, h.vflip, h.alpha⟩
  | vflip => exact ⟨h.hflip, rfl, h.alpha⟩
  | alphaComponent => exact ⟨h.hflip, h.vflip, rfl⟩

theorem setAsAsked_set_iff {isi : MxcIsiDev} {a : Asked} (h : SetAsAsked isi a) (id : IsiCtrl)
    (val : Int) : SetAsAsked isi (a.set id val) ↔ SetTo isi val id := by
  cases id with
  | hflip => exact ⟨fun hset => hset.hflip, fun hset => ⟨hset, h.vflip, h.alpha⟩⟩
  | vflip => exact ⟨fun hset => hset.vflip, fun hset => ⟨h.hflip, hset, h.alpha⟩⟩
  | alphaComponent =>
      constructor
      · intro hset
        have halpha := hset.alpha
        change (if isi.alphaen then some isi.alpha else none) = some (BitVec.ofInt 8 val) at halpha
        split at halpha
        · rename_i henabled
          exact ⟨henabled, Option.some.inj halpha⟩
        · exact absurd halpha (by simp)
      · rintro ⟨henabled, hvalue⟩
        refine ⟨h.hflip, h.vflip, ?_⟩
        change (if isi.alphaen then some isi.alpha else none) = some (BitVec.ofInt 8 val)
        rw [if_pos henabled, hvalue]

theorem ctrlsCreate_isi (node : IsiNode) (error : Option Errno) (s : ChannelControls) :
    (ctrlsCreate node error s).1.isi = s.isi ∧
      (ctrlsCreate node error s).1.slockHeld = s.slockHeld := by
  unfold ctrlsCreate
  split
  · exact ⟨rfl, rfl⟩
  · cases error with
    | some e => exact ⟨rfl, rfl⟩
    | none => exact ⟨rfl, rfl⟩

theorem setAsAsked_config {isi : MxcIsiDev} {a : Asked} (h : SetAsAsked isi a)
    (srcF dstF : MxcIsiFrame) (srcFmt dstFmt : MxcIsiFmt) :
    SetAsAsked (mxcIsiChannelConfig isi srcF dstF srcFmt dstFmt) a := by
  have hset := settings_programsOnly (programsOnly_channelConfig isi srcF dstF srcFmt dstFmt)
  refine ⟨?_, ?_, ?_⟩
  · exact (congrArg ChannelSettings.hflip hset).trans h.hflip
  · exact (congrArg ChannelSettings.vflip hset).trans h.vflip
  · have henabled := congrArg ChannelSettings.alphaen hset
    have hvalue := congrArg ChannelSettings.alpha hset
    change (mxcIsiChannelConfig isi srcF dstF srcFmt dstFmt).alphaen = isi.alphaen at henabled
    change (mxcIsiChannelConfig isi srcF dstF srcFmt dstFmt).alpha = isi.alpha at hvalue
    rw [henabled, hvalue]
    exact h.alpha

/-- One call leaves the channel as it was asked exactly when it is not swallowed. -/
theorem setAsAsked_step_iff {w : Watched} (h : SetAsAsked w.1.isi w.2) (call : ControlCall) :
    SetAsAsked (controlStep w call).1.isi (controlStep w call).2 ↔ ¬Swallowed w.1 call := by
  cases call with
  | create node error =>
      have hkept := (ctrlsCreate_isi node error w.1).1
      refine iff_of_true ?_ id
      change SetAsAsked (ctrlsCreate node error w.1).1.isi w.2
      rwa [hkept]
  | delete node => exact iff_of_true h id
  | config srcF dstF srcFmt dstFmt => exact iff_of_true (setAsAsked_config h _ _ _ _) id
  | sCtrl node id val =>
      have hstep : controlStep w (.sCtrl node id val) = ((sCtrl node id val w.1).1,
        w.2.after (sCtrl node id val w.1).2 (.sCtrl node id val)) := rfl
      rw [hstep]
      rcases sCtrl_cases node id val w.1 with
        ⟨hnone, hrun⟩ | ⟨hoffers, hcur, hrun⟩ | ⟨hoffers, hnew, hrun⟩
      · rw [hrun]
        exact iff_of_true h fun hswallowed => hnone hswallowed.1
      · rw [hrun]
        change SetAsAsked w.1.isi (w.2.set id (validValue id val)) ↔ _
        rw [setAsAsked_set_iff h]
        constructor
        · intro hset hswallowed
          exact hswallowed.2.2 hset
        · intro hswallowed
          by_contra hset
          exact hswallowed ⟨hoffers, hcur, hset⟩
      · rw [hrun]
        exact iff_of_true (setAsAsked_channelSet h id _) fun hswallowed => hnew hswallowed.2.1

theorem slock_step {w : Watched} (h : w.1.slockHeld = false) (call : ControlCall) :
    (controlStep w call).1.slockHeld = false := by
  cases call with
  | create node error => exact (ctrlsCreate_isi node error w.1).2.trans h
  | delete node => exact h
  | config srcF dstF srcFmt dstFmt => exact h
  | sCtrl node id val =>
      change (sCtrl node id val w.1).1.slockHeld = false
      rcases sCtrl_cases node id val w.1 with ⟨-, hrun⟩ | ⟨-, -, hrun⟩ | ⟨-, -, hrun⟩
      · rw [hrun]
        exact h
      · rw [hrun]
        exact h
      · rw [hrun]
        rfl

/-- Over every run: no call returns with the lock held, and every configuration programs the
flips and the alpha as they were last asked for, at either node, exactly when no value is
swallowed. -/
theorem controls_programmed_iff {start : Watched} (hlock : start.1.slockHeld = false)
    (hset : SetAsAsked start.1.isi start.2) (calls : List ControlCall) :
    Always controlStep (fun w => w.1.slockHeld = false) start calls ∧
      (Always controlStep ProgramsAsked start calls ↔
        Along controlStep (fun w call => ¬Swallowed w.1 call) start calls) := by
  have hany : Along controlStep (fun _ _ => True) start calls :=
    along_of_forall (fun _ _ => trivial) start calls
  constructor
  · exact always_of_along (fun w call h _ => slock_step h call) hlock hany
  · refine always_iff_along_of_exact (I := fun w => SetAsAsked w.1.isi w.2)
      (E := fun _ _ => True) (fun w h => (programsAsked_iff w).mpr h)
      (fun w call h _ hkept => (setAsAsked_step_iff h call).mpr hkept)
      (fun w call h _ hafter => ?_) hset hany
    exact (setAsAsked_step_iff h call).mp ((programsAsked_iff _).mp hafter)

def boardControls : Watched :=
  ({ isi := boardCapture.isi, slockHeld := false, ready := fun _ => false,
     cur := fun _ => defaultValue },
   { hflip := false, vflip := false, alpha := none })

theorem boardControls_setAsAsked : SetAsAsked boardControls.1.isi boardControls.2 := by
  decide

def bothNodes : List ControlCall :=
  [.create .capture none, .create .m2m none, .sCtrl .m2m .hflip 1,
    .sCtrl .capture .alphaComponent 128, .sCtrl .m2m .alphaComponent 20]

theorem bothNodes_programmed : Always controlStep ProgramsAsked boardControls bothNodes := by
  have hkept : Along controlStep (fun w call => ¬Swallowed w.1 call) boardControls bothNodes := by
    decide
  exact (controls_programmed_iff rfl boardControls_setAsAsked bothNodes).2.mpr hkept

/-- The value that the capture node still has is lost. -/
example : ¬Along controlStep (fun w call => ¬Swallowed w.1 call) boardControls
    (bothNodes ++ [.sCtrl .capture .alphaComponent 128]) := by
  decide

structure Untouched (isi : MxcIsiDev) : Prop where
  hflip : isi.hflip = false
  vflip : isi.vflip = false
  alphaen : isi.alphaen = false

/-- The channel is as the controls of the node say, but for an alpha that is still off. -/
structure Coherent (node : IsiNode) (s : ChannelControls) : Prop where
  flips : ∀ id ∈ [IsiCtrl.hflip, .vflip], id ∈ nodeCtrls node → SetTo s.isi (s.cur node id) id
  alpha : SetTo s.isi (s.cur node .alphaComponent) .alphaComponent ∨
    s.cur node .alphaComponent = 0 ∧ s.isi.alphaen = false

/-- The calls of an application that uses one node of the channel, whose controls stay. -/
def OnlyNode (node : IsiNode) : ControlCall → Prop
  | .create .. | .config .. => True
  | .delete other => other ≠ node
  | .sCtrl other _ _ => other = node

instance (node : IsiNode) : (call : ControlCall) → Decidable (OnlyNode node call)
  | .create .. | .config .. => .isTrue trivial
  | .delete _ => inferInstanceAs (Decidable (_ ≠ _))
  | .sCtrl _ _ _ => inferInstanceAs (Decidable (_ = _))

def NodeInv (node : IsiNode) (s : ChannelControls) : Prop :=
  if s.ready node then Coherent node s else Untouched s.isi

/-- An alpha of 0 before any other: the control has this value from its creation on. -/
def FirstAlphaZero (s : ChannelControls) : ControlCall → Prop
  | .sCtrl node .alphaComponent val =>
      s.ready node = true ∧ validValue .alphaComponent val = 0 ∧ s.isi.alphaen = false
  | _ => False

instance (s : ChannelControls) : (call : ControlCall) → Decidable (FirstAlphaZero s call)
  | .sCtrl _ .alphaComponent _ => inferInstanceAs (Decidable (_ ∧ _ ∧ _))
  | .sCtrl _ .hflip _ | .sCtrl _ .vflip _ | .create .. | .delete _ | .config .. => .isFalse id

theorem alpha_mem (node : IsiNode) : IsiCtrl.alphaComponent ∈ nodeCtrls node := by
  cases node with
  | capture => decide
  | m2m => decide

/-- On a node alone, only a first alpha of 0 is swallowed. -/
theorem swallowed_iff {node : IsiNode} {s : ChannelControls} (hinv : NodeInv node s)
    {call : ControlCall} (honly : OnlyNode node call) :
    Swallowed s call ↔ FirstAlphaZero s call := by
  cases call with
  | create | delete | config => exact Iff.rfl
  | sCtrl other id val =>
      obtain rfl : other = node := honly
      cases id with
      | alphaComponent =>
          constructor
          · rintro ⟨⟨hready, -⟩, hcur, hunset⟩
            rw [NodeInv, if_pos hready] at hinv
            rcases hinv.alpha with hset | ⟨hzero, hoff⟩
            · rw [← hcur] at hset
              exact absurd hset hunset
            · exact ⟨hready, hcur.trans hzero, hoff⟩
          · rintro ⟨hready, hzero, hoff⟩
            rw [NodeInv, if_pos hready] at hinv
            have hunset : ∀ val, ¬SetTo s.isi val .alphaComponent := by
              intro val hset
              have hon : s.isi.alphaen = true := hset.1
              exact Bool.false_ne_true (hoff.symm.trans hon)
            rcases hinv.alpha with hset | ⟨hcur, -⟩
            · exact absurd hset (hunset _)
            · exact ⟨⟨hready, alpha_mem other⟩, hzero.trans hcur.symm, hunset _⟩
      | hflip | vflip =>
          refine iff_of_false ?_ id
          rintro ⟨⟨hready, hid⟩, hcur, hunset⟩
          rw [NodeInv, if_pos hready] at hinv
          rw [hcur] at hunset
          exact hunset (hinv.flips _ (by simp) hid)

theorem setTo_channelSet (id : IsiCtrl) (val : Int) (isi : MxcIsiDev) :
    SetTo (channelSet id val isi) val id := by
  cases id with
  | hflip | vflip => rfl
  | alphaComponent => exact ⟨rfl, rfl⟩

theorem setTo_channelSet_of_ne {id other : IsiCtrl} (hne : other ≠ id) (val : Int)
    {isi : MxcIsiDev} {kept : Int} :
    SetTo (channelSet id val isi) kept other ↔ SetTo isi kept other := by
  cases id <;> cases other <;> first | exact absurd rfl hne | exact Iff.rfl

theorem alphaen_channelSet {id : IsiCtrl} (hne : id ≠ .alphaComponent) (val : Int)
    (isi : MxcIsiDev) : (channelSet id val isi).alphaen = isi.alphaen := by
  cases id with
  | hflip | vflip => rfl
  | alphaComponent => exact absurd rfl hne

theorem nodeInv_created {node : IsiNode} {s : ChannelControls} (huntouched : Untouched s.isi) :
    Coherent node { s with
      ready := Function.update s.ready node true
      cur := Function.update s.cur node defaultValue } := by
  have hcur : ∀ id, Function.update s.cur node defaultValue node id = 0 := by
    intro id
    rw [Function.update_self]
    cases id <;> rfl
  refine ⟨fun id hid _ => ?_, .inr ⟨hcur _, huntouched.alphaen⟩⟩
  simp only [List.mem_cons, List.not_mem_nil, or_false] at hid
  dsimp only
  rw [hcur]
  rcases hid with rfl | rfl
  · exact huntouched.hflip
  · exact huntouched.vflip

theorem coherent_set {node : IsiNode} {s : ChannelControls} (h : Coherent node s) (id : IsiCtrl)
    (val : Int) :
    Coherent node (setCur node id val
      { s with isi := channelSet id val s.isi, slockHeld := false }) := by
  have hcur : ∀ other, (setCur node id val
      { s with isi := channelSet id val s.isi, slockHeld := false }).cur node other =
        if other = id then val else s.cur node other := by
    intro other
    change Function.update s.cur node (Function.update (s.cur node) id val) node other = _
    rw [Function.update_self, Function.update_apply]
  have hset : ∀ other, SetTo s.isi (s.cur node other) other ∨ other = id →
      SetTo (channelSet id val s.isi) ((setCur node id val
        { s with isi := channelSet id val s.isi, slockHeld := false }).cur node other) other := by
    intro other hother
    rw [hcur]
    by_cases hsame : other = id
    · subst hsame
      rw [if_pos rfl]
      exact setTo_channelSet other val s.isi
    · rw [if_neg hsame, setTo_channelSet_of_ne hsame]
      exact hother.resolve_right hsame
  constructor
  · intro other hother hmem
    exact hset other (.inl (h.flips other hother hmem))
  · rcases h.alpha with halpha | ⟨hzero, hoff⟩
    · exact .inl (hset _ (.inl halpha))
    · by_cases hsame : IsiCtrl.alphaComponent = id
      · exact .inl (hset _ (.inr hsame))
      · refine .inr ⟨?_, ?_⟩
        · rw [hcur, if_neg hsame]
          exact hzero
        · exact (alphaen_channelSet (Ne.symm hsame) val s.isi).trans hoff

theorem nodeInv_of_kept {node : IsiNode} {s t : ChannelControls}
    (hready : t.ready node = s.ready node) (hcur : t.cur node = s.cur node)
    (hset : settings t.isi = settings s.isi) (h : NodeInv node s) : NodeInv node t := by
  have hhflip : t.isi.hflip = s.isi.hflip := congrArg ChannelSettings.hflip hset
  have hvflip : t.isi.vflip = s.isi.vflip := congrArg ChannelSettings.vflip hset
  have henabled : t.isi.alphaen = s.isi.alphaen := congrArg ChannelSettings.alphaen hset
  have hvalue : t.isi.alpha = s.isi.alpha := congrArg ChannelSettings.alpha hset
  have hsetTo : ∀ val id, SetTo t.isi val id ↔ SetTo s.isi val id := by
    intro val id
    cases id with
    | hflip => exact iff_of_eq (congrArg (· = _) hhflip)
    | vflip => exact iff_of_eq (congrArg (· = _) hvflip)
    | alphaComponent =>
        change t.isi.alphaen = true ∧ t.isi.alpha = _ ↔ s.isi.alphaen = true ∧ s.isi.alpha = _
        rw [henabled, hvalue]
  unfold NodeInv at h ⊢
  rw [hready]
  split
  · rename_i hon
    rw [if_pos hon] at h
    refine ⟨fun id hid hmem => ?_, ?_⟩
    · rw [hcur, hsetTo]
      exact h.flips id hid hmem
    · rw [hcur, hsetTo, henabled]
      exact h.alpha
  · rename_i hoff
    rw [if_neg hoff] at h
    exact ⟨hhflip.trans h.hflip, hvflip.trans h.vflip, henabled.trans h.alphaen⟩

theorem nodeInv_step {node : IsiNode} {s : ChannelControls} (h : NodeInv node s)
    {call : ControlCall} (honly : OnlyNode node call) : NodeInv node (controlCall s call).1 := by
  cases call with
  | config srcF dstF srcFmt dstFmt =>
      have hset : settings (mxcIsiChannelConfig s.isi srcF dstF srcFmt dstFmt) = settings s.isi :=
        settings_programsOnly (programsOnly_channelConfig s.isi srcF dstF srcFmt dstFmt)
      have hkept : NodeInv node
          { s with isi := mxcIsiChannelConfig s.isi srcF dstF srcFmt dstFmt } :=
        nodeInv_of_kept (s := s) rfl rfl hset h
      exact hkept
  | delete other =>
      have hkept : (ctrlsDelete other s).ready node = s.ready node :=
        Function.update_of_ne (Ne.symm honly) ..
      change NodeInv node (ctrlsDelete other s)
      exact nodeInv_of_kept hkept rfl rfl h
  | create other error =>
      change NodeInv node (ctrlsCreate other error s).1
      unfold ctrlsCreate
      split
      · exact h
      · rename_i hother
        cases error with
        | some e => exact h
        | none =>
            by_cases hsame : other = node
            · subst hsame
              rw [NodeInv, if_neg hother] at h
              rw [NodeInv, if_pos (Function.update_self ..)]
              exact nodeInv_created h
            · have hready : Function.update s.ready other true node = s.ready node :=
                Function.update_of_ne (Ne.symm hsame) ..
              have hcur : Function.update s.cur other defaultValue node = s.cur node :=
                Function.update_of_ne (Ne.symm hsame) ..
              exact nodeInv_of_kept hready hcur rfl h
  | sCtrl other id val =>
      obtain rfl : other = node := honly
      change NodeInv other (sCtrl other id val s).1
      rcases sCtrl_cases other id val s with ⟨-, hrun⟩ | ⟨-, -, hrun⟩ | ⟨hoffers, -, hrun⟩
      · rwa [hrun]
      · rwa [hrun]
      · rw [NodeInv, if_pos hoffers.1] at h
        have hset := coherent_set h id (validValue id val)
        rw [hrun]
        exact (if_pos hoffers.1).mpr hset

/-- Where one node alone is used, every configuration programs the flips and the alpha as
they were last asked for, unless the first alpha asked for is 0. -/
theorem oneNode_programmed_iff (node : IsiNode) {start : Watched}
    (hinv : NodeInv node start.1) (hset : SetAsAsked start.1.isi start.2)
    {calls : List ControlCall}
    (honly : Along controlStep (fun _ call => OnlyNode node call) start calls) :
    Always controlStep ProgramsAsked start calls ↔
      Along controlStep (fun w call => ¬FirstAlphaZero w.1 call) start calls := by
  refine always_iff_along_of_exact (I := fun w => NodeInv node w.1 ∧ SetAsAsked w.1.isi w.2)
    (E := fun _ call => OnlyNode node call) (fun w h => (programsAsked_iff w).mpr h.2)
    (fun w call h honly hkept => ?_) (fun w call h honly hafter => ?_) ⟨hinv, hset⟩ honly
  · rw [← swallowed_iff h.1 honly] at hkept
    exact ⟨nodeInv_step h.1 honly, (setAsAsked_step_iff h.2 call).mpr hkept⟩
  · rw [← swallowed_iff h.1 honly]
    exact (setAsAsked_step_iff h.2 call).mp ((programsAsked_iff _).mp hafter)

def alphaAndBack : List ControlCall :=
  [.create .m2m none, .sCtrl .m2m .vflip 1, .sCtrl .m2m .alphaComponent 128,
    .sCtrl .m2m .alphaComponent 0, .sCtrl .m2m .vflip 0]

theorem alphaAndBack_programmed : Always controlStep ProgramsAsked boardControls alphaAndBack := by
  have hinv : NodeInv .m2m boardControls.1 := (if_neg Bool.false_ne_true).mpr ⟨rfl, rfl, rfl⟩
  have honly : Along controlStep (fun _ call => OnlyNode .m2m call) boardControls
      alphaAndBack := by
    decide
  have hkept : Along controlStep (fun w call => ¬FirstAlphaZero w.1 call) boardControls
      alphaAndBack := by
    decide
  exact (oneNode_programmed_iff .m2m hinv boardControls_setAsAsked honly).mpr hkept

end CameraPorting.Isi.Controls
