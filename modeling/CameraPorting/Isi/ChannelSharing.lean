import CameraPorting.Kernel.Media
import CameraPorting.Library.Runs
import Mathlib.Data.Finset.Card

namespace CameraPorting.Isi.ChannelSharing

open CameraPorting.Kernel.Media
open CameraPorting.Library.Runs

/-- The subdev at the other end of an enabled link, and the subdev behind that one,
each with its `num_links`. -/
structure RemoteSubdev where
  numLinks : Nat
  remote : Option Nat
  deriving DecidableEq

/-- The media links of the capture node: the links of its video device and of its
subdev, and what `mxc_get_remote_subdev` finds. -/
structure MediaLinks where
  vdevNumLinks : Nat
  sdNumLinks : Nat
  remote : Option RemoteSubdev
  deriving DecidableEq

/-- The counters and flags of a channel, with the references its nodes hold: the
runtime PM counters of the two devices, the files with a `v4l2_fh`, and the calls that
bring the channel up and down. -/
structure Channel where
  usageCount : Int
  m2mEnabled : Bool
  isLinkSetup : Bool
  links : MediaLinks
  capPm : Int
  m2mPm : Int
  capFhs : Finset Nat
  m2mFhs : Finset Nat
  inits : Nat
  deinits : Nat
  deriving DecidableEq

def isEntityLinkSetup (links : MediaLinks) : Bool :=
  if links.vdevNumLinks = 0 ∨ links.sdNumLinks = 0 then false
  else
    match links.remote with
    | none => false
    | some csi =>
        if csi.numLinks = 0 then false
        else
          match csi.remote with
          | none => false
          | some sensorNumLinks => decide (sensorNumLinks ≠ 0)

def mxcIsiChannelInit (s : Channel) : Channel := { s with inits := s.inits + 1 }

def mxcIsiChannelDeinit (s : Channel) : Channel := { s with deinits := s.deinits + 1 }

/-- What the calls of one capture `open` come to: whether `v4l2_fh_open` gets its
memory, and the result of `s_power`. -/
structure CaptureOpenOutcome where
  fhOpen : Bool
  sPower : Ret

def mxcIsiCaptureOpen (file : Nat) (o : CaptureOpenOutcome) (s : Channel) : Channel × Ret :=
  let s := { s with isLinkSetup := isEntityLinkSetup s.links }
  if s.isLinkSetup = false then (s, .ok ())
  else if s.m2mEnabled then (s, .error .ebusy)
  else
    match s.links.remote with
    | none => (s, .error .enodev)
    | some _ =>
        if o.fhOpen = false then (s, .error .enomem)
        else
          let s := { s with capFhs := insert file s.capFhs }
          let s := { s with capPm := s.capPm + 1 }
          match o.sPower with
          | .error e => ({ s with capPm := s.capPm - 1 }, .error e)
          | .ok () =>
              ({ s with usageCount := s.usageCount + 1, m2mEnabled := false }, .ok ())

def vb2FopRelease (file : Nat) (s : Channel) : Channel :=
  { s with capFhs := s.capFhs.erase file }

def mxcIsiCaptureRelease (file : Nat) (sPower : Ret) (s : Channel) : Channel × Ret :=
  if s.isLinkSetup = false then (s, .ok ())
  else
    match s.links.remote with
    | none => ({ s with capPm := s.capPm - 1 }, .error .eperm)
    | some _ =>
        let s := vb2FopRelease file s
        let s := if 0 < s.usageCount then
            let s := { s with usageCount := s.usageCount - 1 }
            if s.usageCount = 0 then mxcIsiChannelDeinit s else s
          else s
        ({ s with capPm := s.capPm - 1 }, sPower)

/-- What the calls of one mem2mem `open` come to: whether the lock is taken without a
signal, whether the context gets its memory, and the result of `v4l2_m2m_ctx_init`. -/
structure M2mOpenOutcome where
  lock : Bool
  kzalloc : Bool
  ctxInit : Ret

def mxcIsiM2mOpen (file : Nat) (o : M2mOpenOutcome) (s : Channel) : Channel × Ret :=
  if 0 < s.usageCount then (s, .error .ebusy)
  else if o.lock = false then (s, .error .erestartsys)
  else if o.kzalloc = false then (s, .error .enomem)
  else
    match o.ctxInit with
    | .error e => (s, .error e)
    | .ok () =>
        let s := { s with m2mFhs := insert file s.m2mFhs }
        let s := { s with m2mPm := s.m2mPm + 1 }
        let s := { s with usageCount := s.usageCount + 1 }
        let s := if s.usageCount = 1 then mxcIsiChannelInit s else s
        ({ s with m2mEnabled := true }, .ok ())

def mxcIsiM2mRelease (file : Nat) (s : Channel) : Channel :=
  let s := { s with m2mFhs := s.m2mFhs.erase file }
  let s := { s with usageCount := s.usageCount - 1 }
  let s := if s.usageCount = 0 then mxcIsiChannelDeinit s else s
  { s with m2mEnabled := false, m2mPm := s.m2mPm - 1 }

/-- A channel with the handles that are open on its nodes: those of the capture node
whose `open` enabled the channel, the other ones of the capture node, and those of the
mem2mem node. -/
structure Sharing where
  chan : Channel
  enabling : Finset Nat
  plain : Finset Nat
  m2ms : Finset Nat

inductive Call where
  | setLinks (links : MediaLinks)
  | captureOpen (file : Nat) (o : CaptureOpenOutcome)
  | captureRelease (file : Nat) (sPower : Ret)
  | m2mOpen (file : Nat) (o : M2mOpenOutcome)
  | m2mRelease (file : Nat)

/-- A handle of the capture node is there when `open` returns `0`; it enabled the channel
when it was counted. -/
def captured (s : Sharing) (file : Nat) (r : Channel × Ret) : Sharing :=
  match r with
  | (chan, .error _) => { s with chan := chan }
  | (chan, .ok ()) =>
      if chan.usageCount = s.chan.usageCount then
        { s with chan := chan, plain := insert file s.plain }
      else { s with chan := chan, enabling := insert file s.enabling }

def m2mOpened (s : Sharing) (file : Nat) (r : Channel × Ret) : Sharing :=
  match r with
  | (chan, .error _) => { s with chan := chan }
  | (chan, .ok ()) => { s with chan := chan, m2ms := insert file s.m2ms }

def step (s : Sharing) : Call → Sharing
  | .setLinks links => { s with chan := { s.chan with links := links } }
  | .captureOpen file o => captured s file (mxcIsiCaptureOpen file o s.chan)
  | .captureRelease file sPower =>
      { s with
        chan := (mxcIsiCaptureRelease file sPower s.chan).1
        enabling := s.enabling.erase file
        plain := s.plain.erase file }
  | .m2mOpen file o => m2mOpened s file (mxcIsiM2mOpen file o s.chan)
  | .m2mRelease file =>
      { s with chan := mxcIsiM2mRelease file s.chan, m2ms := s.m2ms.erase file }

def probed (links : MediaLinks) : Sharing where
  chan :=
    { usageCount := 0
      m2mEnabled := false
      isLinkSetup := false
      links := links
      capPm := 0
      m2mPm := 0
      capFhs := ∅
      m2mFhs := ∅
      inits := 0
      deinits := 0 }
  enabling := ∅
  plain := ∅
  m2ms := ∅

/-- A file is opened once, and released while it is open. -/
def Permitted (s : Sharing) : Call → Prop
  | .setLinks _ => True
  | .captureOpen file _ => file ∉ s.enabling ∧ file ∉ s.plain
  | .captureRelease file _ => file ∈ s.enabling ∨ file ∈ s.plain
  | .m2mOpen file _ => file ∉ s.m2ms
  | .m2mRelease file => file ∈ s.m2ms

instance (s : Sharing) : ∀ c, Decidable (Permitted s c)
  | .setLinks _ => .isTrue trivial
  | .captureOpen file _ => inferInstanceAs (Decidable (file ∉ s.enabling ∧ file ∉ s.plain))
  | .captureRelease file _ => inferInstanceAs (Decidable (file ∈ s.enabling ∨ file ∈ s.plain))
  | .m2mOpen file _ => inferInstanceAs (Decidable (file ∉ s.m2ms))
  | .m2mRelease file => inferInstanceAs (Decidable (file ∈ s.m2ms))

def users (s : Sharing) : Nat := s.enabling.card + s.m2ms.card

/-- The references are those of the open handles, and the nodes exclude each other. -/
structure Accounted (s : Sharing) : Prop where
  usage : s.chan.usageCount = users s
  capPm : s.chan.capPm = s.enabling.card
  m2mPm : s.chan.m2mPm = s.m2ms.card
  capFhs : s.chan.capFhs = s.enabling
  m2mFhs : s.chan.m2mFhs = s.m2ms
  exclusive : (s.enabling = ∅ ∧ s.plain = ∅) ∨ s.m2ms = ∅

def openResult (s : Sharing) : Call → Option Ret
  | .captureOpen file o => some (mxcIsiCaptureOpen file o s.chan).2
  | .m2mOpen file o => some (mxcIsiM2mOpen file o s.chan).2
  | _ => none

/-- One call: the references are still accounted for, an `open` that fails leaves none
behind, and the channel is brought down exactly when the last handle that enabled it
goes. -/
structure CallKept (s : Sharing) (c : Call) : Prop where
  accounted : Accounted (step s c)
  failed : ∀ e, openResult s c = some (.error e) →
    step s c = { s with chan := { s.chan with isLinkSetup := (step s c).chan.isLinkSetup } }
  deinit : (step s c).chan.deinits =
    s.chan.deinits + if 0 < users s ∧ users (step s c) = 0 then 1 else 0

/-- What a call must meet: `s_power` does not fail in an `open` that gets to it, the
nodes exclude each other also where an `open` does not enable the channel, and at a
`release` the flag is that of the handle and its remote subdev is there. -/
def Fits (s : Sharing) : Call → Prop
  | .captureOpen _ o =>
      if isEntityLinkSetup s.chan.links then
        s.chan.m2mEnabled = true ∨ o.fhOpen = false ∨ o.sPower = .ok ()
      else s.chan.m2mEnabled = false
  | .captureRelease file _ =>
      if file ∈ s.enabling then s.chan.isLinkSetup = true ∧ s.chan.links.remote ≠ none
      else s.chan.isLinkSetup = false
  | .m2mOpen _ o =>
      s.plain = ∅ ∨ 0 < s.chan.usageCount ∨ o.lock = false ∨ o.kzalloc = false ∨
        o.ctxInit ≠ .ok ()
  | _ => True

instance (s : Sharing) : ∀ c, Decidable (Fits s c)
  | .setLinks _ => .isTrue trivial
  | .captureOpen _ o => inferInstanceAs (Decidable (if isEntityLinkSetup s.chan.links then
      s.chan.m2mEnabled = true ∨ o.fhOpen = false ∨ o.sPower = .ok ()
      else s.chan.m2mEnabled = false))
  | .captureRelease file _ => inferInstanceAs (Decidable (if file ∈ s.enabling then
      s.chan.isLinkSetup = true ∧ s.chan.links.remote ≠ none else s.chan.isLinkSetup = false))
  | .m2mOpen _ o => inferInstanceAs (Decidable (s.plain = ∅ ∨ 0 < s.chan.usageCount ∨
      o.lock = false ∨ o.kzalloc = false ∨ o.ctxInit ≠ .ok ()))
  | .m2mRelease _ => .isTrue trivial

structure Shared (s : Sharing) : Prop extends Accounted s where
  busy : s.chan.m2mEnabled = true ↔ s.m2ms ≠ ∅
  single : s.m2ms.card ≤ 1
  apart : ∀ file ∈ s.plain, file ∉ s.enabling

theorem shared_probed (links : MediaLinks) : Shared (probed links) where
  usage := rfl
  capPm := rfl
  m2mPm := rfl
  capFhs := rfl
  m2mFhs := rfl
  exclusive := .inr rfl
  busy := ⟨fun h => absurd h Bool.false_ne_true, fun h => absurd rfl h⟩
  single := Nat.zero_le 1
  apart := fun _ h => absurd h (Finset.notMem_empty _)

theorem isEntityLinkSetup_remote {links : MediaLinks} (h : isEntityLinkSetup links = true) :
    ∃ csi, links.remote = some csi := by
  unfold isEntityLinkSetup at h
  split at h
  · exact absurd h Bool.false_ne_true
  · rcases hremote : links.remote with _ | csi
    · rw [hremote] at h
      exact absurd h Bool.false_ne_true
    · exact ⟨csi, rfl⟩

theorem captureOpen_cases (file : Nat) (o : CaptureOpenOutcome) (s : Channel) :
    (isEntityLinkSetup s.links = false ∧
      mxcIsiCaptureOpen file o s = ({ s with isLinkSetup := false }, .ok ())) ∨
    (isEntityLinkSetup s.links = true ∧ (s.m2mEnabled = true ∨ o.fhOpen = false) ∧
      ∃ e, mxcIsiCaptureOpen file o s = ({ s with isLinkSetup := true }, .error e)) ∨
    (isEntityLinkSetup s.links = true ∧ s.m2mEnabled = false ∧ o.fhOpen = true ∧
      ∃ e, o.sPower = .error e ∧ mxcIsiCaptureOpen file o s =
        ({ s with isLinkSetup := true, capFhs := insert file s.capFhs }, .error e)) ∨
    (isEntityLinkSetup s.links = true ∧ s.m2mEnabled = false ∧ o.fhOpen = true ∧
      o.sPower = .ok () ∧ mxcIsiCaptureOpen file o s =
        ({ s with
            isLinkSetup := true
            capFhs := insert file s.capFhs
            capPm := s.capPm + 1
            usageCount := s.usageCount + 1 }, .ok ())) := by
  unfold mxcIsiCaptureOpen
  rcases hsetup : isEntityLinkSetup s.links with _ | _
  · exact .inl ⟨rfl, rfl⟩
  · refine .inr ?_
    obtain ⟨csi, hremote⟩ := isEntityLinkSetup_remote hsetup
    rcases hbusy : s.m2mEnabled with _ | _
    · rcases hfh : o.fhOpen with _ | _
      · exact .inl ⟨rfl, .inr rfl, .enomem, by simp [hremote]⟩
      · rcases hpower : o.sPower with e | _
        · exact .inr (.inl ⟨rfl, rfl, rfl, e, rfl, by simp [hremote]⟩)
        · exact .inr (.inr ⟨rfl, rfl, rfl, rfl, by simp [hremote]⟩)
    · exact .inl ⟨rfl, .inl rfl, .ebusy, by simp⟩

theorem m2mOpen_cases (file : Nat) (o : M2mOpenOutcome) (s : Channel) :
    ((0 < s.usageCount ∨ o.lock = false ∨ o.kzalloc = false ∨ o.ctxInit ≠ .ok ()) ∧
      ∃ e, mxcIsiM2mOpen file o s = (s, .error e)) ∨
    (s.usageCount ≤ 0 ∧ o.lock = true ∧ o.kzalloc = true ∧ o.ctxInit = .ok () ∧
      ∃ inits, mxcIsiM2mOpen file o s =
        ({ s with
            m2mFhs := insert file s.m2mFhs
            m2mPm := s.m2mPm + 1
            usageCount := s.usageCount + 1
            m2mEnabled := true
            inits := inits }, .ok ())) := by
  unfold mxcIsiM2mOpen
  by_cases husage : 0 < s.usageCount
  · exact .inl ⟨.inl husage, .ebusy, if_pos husage⟩
  · rw [if_neg husage]
    rcases hlock : o.lock with _ | _
    · exact .inl ⟨.inr (.inl rfl), .erestartsys, rfl⟩
    · rcases halloc : o.kzalloc with _ | _
      · exact .inl ⟨.inr (.inr (.inl rfl)), .enomem, rfl⟩
      · rcases hctx : o.ctxInit with e | _
        · exact .inl ⟨.inr (.inr (.inr (by rintro ⟨⟩))), e, rfl⟩
        · refine .inr ⟨not_lt.mp husage, rfl, rfl, rfl, ?_⟩
          by_cases hfirst : s.usageCount + 1 = 1
          · exact ⟨s.inits + 1, by simp [hfirst, mxcIsiChannelInit]⟩
          · exact ⟨s.inits, by simp [hfirst]⟩

theorem captureRelease_cases (file : Nat) (sPower : Ret) (s : Channel) :
    (s.isLinkSetup = false ∧ mxcIsiCaptureRelease file sPower s = (s, .ok ())) ∨
    (s.isLinkSetup = true ∧ s.links.remote = none ∧
      (mxcIsiCaptureRelease file sPower s).1 = { s with capPm := s.capPm - 1 }) ∨
    (s.isLinkSetup = true ∧ s.links.remote ≠ none ∧
      (mxcIsiCaptureRelease file sPower s).1 =
        { s with
          capFhs := s.capFhs.erase file
          usageCount := if 0 < s.usageCount then s.usageCount - 1 else s.usageCount
          capPm := s.capPm - 1
          deinits := s.deinits + if s.usageCount = 1 then 1 else 0 }) := by
  unfold mxcIsiCaptureRelease
  rcases hsetup : s.isLinkSetup with _ | _
  · exact .inl ⟨rfl, rfl⟩
  · refine .inr ?_
    rcases hremote : s.links.remote with _ | csi
    · exact .inl ⟨rfl, rfl, rfl⟩
    · refine .inr ⟨rfl, nofun, ?_⟩
      by_cases husage : 0 < s.usageCount
      · by_cases hlast : s.usageCount = 1
        · simp [vb2FopRelease, mxcIsiChannelDeinit, hsetup, hlast]
        · have hmore : s.usageCount - 1 ≠ 0 := by omega
          simp [vb2FopRelease, hsetup, husage, hlast, hmore]
      · have hlast : s.usageCount ≠ 1 := by omega
        simp [vb2FopRelease, hsetup, husage, hlast]

theorem m2mRelease_eq (file : Nat) (s : Channel) :
    mxcIsiM2mRelease file s =
      { s with
        m2mFhs := s.m2mFhs.erase file
        usageCount := s.usageCount - 1
        m2mEnabled := false
        m2mPm := s.m2mPm - 1
        deinits := s.deinits + if s.usageCount = 1 then 1 else 0 } := by
  unfold mxcIsiM2mRelease
  by_cases hlast : s.usageCount = 1
  · simp [mxcIsiChannelDeinit, hlast]
  · have hmore : s.usageCount - 1 ≠ 0 := by omega
    simp [hlast, hmore]

theorem deinit_last {n m : Nat} (hmn : m + 1 = n) (k : Nat) :
    (k + if ((n : Nat) : Int) = 1 then 1 else 0) = k + if 0 < n ∧ m = 0 then 1 else 0 := by
  congr 1
  apply if_congr _ rfl rfl
  omega

theorem deinit_none {n m : Nat} (hnm : n ≤ m) (k : Nat) :
    k = k + if 0 < n ∧ m = 0 then 1 else 0 := by
  rw [if_neg (by omega), Nat.add_zero]

section Steps

variable {s : Sharing}

theorem Shared.idle (h : Shared s) (hbusy : s.chan.m2mEnabled = false) : s.m2ms = ∅ := by
  by_contra hm2ms
  rw [h.busy.mpr hm2ms] at hbusy
  exact absurd hbusy.symm Bool.false_ne_true

theorem Shared.relinked (h : Shared s) (isLinkSetup : Bool) (links : MediaLinks) :
    Shared { s with chan := { s.chan with isLinkSetup := isLinkSetup, links := links } } where
  usage := h.usage
  capPm := h.capPm
  m2mPm := h.m2mPm
  capFhs := h.capFhs
  m2mFhs := h.m2mFhs
  exclusive := h.exclusive
  busy := h.busy
  single := h.single
  apart := h.apart

theorem shared_captureOpen (h : Shared s) {file : Nat} {o : CaptureOpenOutcome}
    (hpermitted : Permitted s (.captureOpen file o)) (hfits : Fits s (.captureOpen file o)) :
    CallKept s (.captureOpen file o) ∧ Shared (step s (.captureOpen file o)) := by
  obtain ⟨hnew, hplain⟩ := hpermitted
  change (if isEntityLinkSetup s.chan.links then
    s.chan.m2mEnabled = true ∨ o.fhOpen = false ∨ o.sPower = .ok ()
    else s.chan.m2mEnabled = false) at hfits
  rcases captureOpen_cases file o s.chan with ⟨hsetup, hrun⟩ | ⟨hsetup, -, e, hrun⟩ |
    ⟨hsetup, hidle, hfh, e, hpower, hrun⟩ | ⟨hsetup, hidle, hfh, hpower, hrun⟩
  · have hstep : step s (.captureOpen file o) =
        { s with
          chan := { s.chan with isLinkSetup := false }
          plain := insert file s.plain } := by
      change captured s file (mxcIsiCaptureOpen file o s.chan) = _
      rw [hrun]
      exact if_pos rfl
    rw [hsetup, if_neg Bool.false_ne_true] at hfits
    have hshared : Shared (step s (.captureOpen file o)) := by
      rw [hstep]
      refine { h with exclusive := .inr (h.idle hfits), apart := fun f hf => ?_ }
      rcases Finset.mem_insert.mp hf with rfl | hf
      · exact hnew
      · exact h.apart f hf
    refine ⟨⟨hshared.toAccounted, fun e he => ?_, ?_⟩, hshared⟩
    · change some (mxcIsiCaptureOpen file o s.chan).2 = _ at he
      rw [hrun] at he
      exact absurd he nofun
    · rw [hstep]
      exact deinit_none le_rfl _
  · have hstep : step s (.captureOpen file o) =
        { s with chan := { s.chan with isLinkSetup := true } } := by
      change captured s file (mxcIsiCaptureOpen file o s.chan) = _
      rw [hrun]
      rfl
    have hshared : Shared (step s (.captureOpen file o)) := by
      rw [hstep]
      exact h.relinked true s.chan.links
    refine ⟨⟨hshared.toAccounted, fun e he => ?_, ?_⟩, hshared⟩
    · rw [hstep]
    · rw [hstep]
      exact deinit_none le_rfl _
  · rw [hsetup, if_pos rfl, hidle, hfh, hpower] at hfits
    simp at hfits
  · have hstep : step s (.captureOpen file o) =
        { s with
          chan := { s.chan with
            isLinkSetup := true
            capFhs := insert file s.chan.capFhs
            capPm := s.chan.capPm + 1
            usageCount := s.chan.usageCount + 1 }
          enabling := insert file s.enabling } := by
      change captured s file (mxcIsiCaptureOpen file o s.chan) = _
      rw [hrun]
      exact if_neg (by simp)
    have hcard : (insert file s.enabling).card = s.enabling.card + 1 :=
      Finset.card_insert_of_notMem hnew
    have hshared : Shared (step s (.captureOpen file o)) := by
      rw [hstep]
      refine
        { h with
          usage := ?_
          capPm := ?_
          capFhs := ?_
          exclusive := .inr (h.idle hidle)
          apart := fun f hf => ?_ }
      · have husage := h.usage
        simp only [users, hcard] at husage ⊢
        push_cast at husage ⊢
        omega
      · have hpm := h.capPm
        simp only [hcard]
        push_cast
        omega
      · exact congrArg (insert file) h.capFhs
      · intro hmem
        rcases Finset.mem_insert.mp hmem with rfl | hmem
        · exact hplain hf
        · exact h.apart f hf hmem
    refine ⟨⟨hshared.toAccounted, fun e he => ?_, ?_⟩, hshared⟩
    · change some (mxcIsiCaptureOpen file o s.chan).2 = _ at he
      rw [hrun] at he
      exact absurd he nofun
    · rw [hstep]
      refine deinit_none ?_ _
      simp only [users, hcard]
      omega

theorem shared_captureRelease (h : Shared s) {file : Nat} {sPower : Ret}
    (hfits : Fits s (.captureRelease file sPower)) :
    CallKept s (.captureRelease file sPower) ∧ Shared (step s (.captureRelease file sPower)) := by
  change (if file ∈ s.enabling then s.chan.isLinkSetup = true ∧ s.chan.links.remote ≠ none
    else s.chan.isLinkSetup = false) at hfits
  have hapart : ∀ f ∈ s.plain.erase file, f ∉ s.enabling.erase file := fun f hf hmem =>
    h.apart f (Finset.mem_of_mem_erase hf) (Finset.mem_of_mem_erase hmem)
  have hnone : ∀ e, openResult s (.captureRelease file sPower) ≠ some (.error e) := fun _ => nofun
  by_cases hmem : file ∈ s.enabling
  · rw [if_pos hmem] at hfits
    obtain ⟨hsetup, hremote⟩ := hfits
    have hcard : (s.enabling.erase file).card + 1 = s.enabling.card :=
      Finset.card_erase_add_one hmem
    have hm2ms : s.m2ms = ∅ := by
      rcases h.exclusive with ⟨hempty, -⟩ | hempty
      · rw [hempty] at hmem
        exact absurd hmem (Finset.notMem_empty file)
      · exact hempty
    have husage := h.usage
    have hpm := h.capPm
    rcases captureRelease_cases file sPower s.chan with ⟨hoff, -⟩ | ⟨-, hgone, -⟩ | ⟨-, -, hrun⟩
    · exact absurd (hoff.symm.trans hsetup) Bool.false_ne_true
    · exact absurd hgone hremote
    · have hstep : step s (.captureRelease file sPower) =
          { s with
            chan := { s.chan with
              capFhs := s.chan.capFhs.erase file
              usageCount := if 0 < s.chan.usageCount then s.chan.usageCount - 1
                else s.chan.usageCount
              capPm := s.chan.capPm - 1
              deinits := s.chan.deinits + if s.chan.usageCount = 1 then 1 else 0 }
            enabling := s.enabling.erase file
            plain := s.plain.erase file } := by
        change { s with
          chan := (mxcIsiCaptureRelease file sPower s.chan).1
          enabling := s.enabling.erase file
          plain := s.plain.erase file } = _
        rw [hrun]
      have hpositive : 0 < s.chan.usageCount := by
        rw [husage, users, ← hcard]
        omega
      have hshared : Shared (step s (.captureRelease file sPower)) := by
        rw [hstep]
        refine
          { h with
            usage := ?_
            capPm := ?_
            capFhs := congrArg (fun fhs => fhs.erase file) h.capFhs
            exclusive := .inr hm2ms
            apart := hapart }
        · simp only [users, ← hcard] at husage ⊢
          rw [if_pos hpositive, husage]
          push_cast
          omega
        · simp only [← hcard] at hpm ⊢
          rw [hpm]
          push_cast
          omega
      refine ⟨⟨hshared.toAccounted, fun e he => absurd he (hnone e), ?_⟩, hshared⟩
      rw [hstep, husage]
      refine deinit_last ?_ _
      simp only [users]
      omega
  · rw [if_neg hmem] at hfits
    rcases captureRelease_cases file sPower s.chan with ⟨-, hrun⟩ | ⟨hsetup, -⟩ | ⟨hsetup, -⟩
    · have hstep : step s (.captureRelease file sPower) =
          { s with plain := s.plain.erase file } := by
        change { s with
          chan := (mxcIsiCaptureRelease file sPower s.chan).1
          enabling := s.enabling.erase file
          plain := s.plain.erase file } = _
        rw [hrun, Finset.erase_eq_of_notMem hmem]
      have hshared : Shared (step s (.captureRelease file sPower)) := by
        rw [hstep]
        refine { h with exclusive := ?_, apart := fun f hf => ?_ }
        · rcases h.exclusive with ⟨henabling, hplain⟩ | hm2ms
          · exact .inl ⟨henabling, by simp [hplain]⟩
          · exact .inr hm2ms
        · exact h.apart f (Finset.mem_of_mem_erase hf)
      refine ⟨⟨hshared.toAccounted, fun e he => absurd he (hnone e), ?_⟩, hshared⟩
      rw [hstep]
      exact deinit_none le_rfl _
    · exact absurd (hfits.symm.trans hsetup) Bool.false_ne_true
    · exact absurd (hfits.symm.trans hsetup) Bool.false_ne_true

theorem Shared.unused (h : Shared s) (husage : s.chan.usageCount ≤ 0) :
    s.enabling = ∅ ∧ s.m2ms = ∅ := by
  rw [h.usage, users] at husage
  constructor
  · exact Finset.card_eq_zero.mp (by omega)
  · exact Finset.card_eq_zero.mp (by omega)

theorem shared_m2mOpen (h : Shared s) {file : Nat} {o : M2mOpenOutcome}
    (hpermitted : Permitted s (.m2mOpen file o)) (hfits : Fits s (.m2mOpen file o)) :
    CallKept s (.m2mOpen file o) ∧ Shared (step s (.m2mOpen file o)) := by
  change s.plain = ∅ ∨ 0 < s.chan.usageCount ∨ o.lock = false ∨ o.kzalloc = false ∨
    o.ctxInit ≠ .ok () at hfits
  rcases m2mOpen_cases file o s.chan with ⟨-, e, hrun⟩ | ⟨husage, hlock, halloc, hctx, inits, hrun⟩
  · have hstep : step s (.m2mOpen file o) = s := by
      change m2mOpened s file (mxcIsiM2mOpen file o s.chan) = s
      rw [hrun]
      rfl
    refine ⟨⟨?_, fun e he => ?_, ?_⟩, ?_⟩
    · rw [hstep]
      exact h.toAccounted
    · rw [hstep]
    · rw [hstep]
      exact deinit_none le_rfl _
    · rw [hstep]
      exact h
  · have hstep : step s (.m2mOpen file o) =
        { s with
          chan := { s.chan with
            m2mFhs := insert file s.chan.m2mFhs
            m2mPm := s.chan.m2mPm + 1
            usageCount := s.chan.usageCount + 1
            m2mEnabled := true
            inits := inits }
          m2ms := insert file s.m2ms } := by
      change m2mOpened s file (mxcIsiM2mOpen file o s.chan) = _
      rw [hrun]
      rfl
    have hplain : s.plain = ∅ := by
      rcases hfits with hplain | hrest
      · exact hplain
      · rw [hlock, halloc, hctx] at hrest
        simp only [Bool.true_eq_false, ne_eq, not_true_eq_false, or_self, or_false] at hrest
        omega
    obtain ⟨henabling, hm2ms⟩ := h.unused husage
    have hcard : (insert file s.m2ms).card = s.m2ms.card + 1 :=
      Finset.card_insert_of_notMem hpermitted
    have hcount := h.usage
    have hpm := h.m2mPm
    have hshared : Shared (step s (.m2mOpen file o)) := by
      rw [hstep]
      refine
        { h with
          usage := ?_
          m2mPm := ?_
          m2mFhs := congrArg (insert file) h.m2mFhs
          exclusive := .inl ⟨henabling, hplain⟩
          busy := ⟨fun _ => Finset.insert_ne_empty file s.m2ms, fun _ => rfl⟩
          single := ?_ }
      · simp only [users, hcard] at hcount ⊢
        push_cast at hcount ⊢
        omega
      · simp only [hcard]
        push_cast
        omega
      · simp [hm2ms]
    refine ⟨⟨hshared.toAccounted, fun e he => ?_, ?_⟩, hshared⟩
    · change some (mxcIsiM2mOpen file o s.chan).2 = _ at he
      rw [hrun] at he
      exact absurd he nofun
    · rw [hstep]
      refine deinit_none ?_ _
      simp only [users, hcard]
      omega

theorem shared_m2mRelease (h : Shared s) {file : Nat}
    (hpermitted : Permitted s (.m2mRelease file)) :
    CallKept s (.m2mRelease file) ∧ Shared (step s (.m2mRelease file)) := by
  have hmem : file ∈ s.m2ms := hpermitted
  have hstep : step s (.m2mRelease file) =
      { s with
        chan := { s.chan with
          m2mFhs := s.chan.m2mFhs.erase file
          usageCount := s.chan.usageCount - 1
          m2mEnabled := false
          m2mPm := s.chan.m2mPm - 1
          deinits := s.chan.deinits + if s.chan.usageCount = 1 then 1 else 0 }
        m2ms := s.m2ms.erase file } := by
    change { s with chan := mxcIsiM2mRelease file s.chan, m2ms := s.m2ms.erase file } = _
    rw [m2mRelease_eq]
  have hcard : (s.m2ms.erase file).card + 1 = s.m2ms.card := Finset.card_erase_add_one hmem
  have hlast : s.m2ms.erase file = ∅ := by
    have hsingle := h.single
    exact Finset.card_eq_zero.mp (by omega)
  have hcount := h.usage
  have hpm := h.m2mPm
  have hshared : Shared (step s (.m2mRelease file)) := by
    rw [hstep]
    refine
      { h with
        usage := ?_
        m2mPm := ?_
        m2mFhs := congrArg (fun fhs => fhs.erase file) h.m2mFhs
        exclusive := .inr hlast
        busy := ⟨fun h => absurd h Bool.false_ne_true, fun h => absurd hlast h⟩
        single := ?_ }
    · simp only [users, ← hcard] at hcount ⊢
      push_cast at hcount ⊢
      omega
    · simp only [← hcard] at hpm ⊢
      push_cast at hpm ⊢
      omega
    · simp [hlast]
  refine ⟨⟨hshared.toAccounted, fun e => nofun, ?_⟩, hshared⟩
  rw [hstep, hcount]
  refine deinit_last ?_ _
  simp only [users]
  omega

theorem shared_step (h : Shared s) {c : Call} (hpermitted : Permitted s c) (hfits : Fits s c) :
    CallKept s c ∧ Shared (step s c) := by
  cases c with
  | setLinks links =>
      have hshared : Shared (step s (.setLinks links)) := h.relinked s.chan.isLinkSetup links
      exact ⟨⟨hshared.toAccounted, fun e => nofun, deinit_none le_rfl _⟩, hshared⟩
  | captureOpen file o => exact shared_captureOpen h hpermitted hfits
  | captureRelease file sPower => exact shared_captureRelease h hfits
  | m2mOpen file o => exact shared_m2mOpen h hpermitted hfits
  | m2mRelease file => exact shared_m2mRelease h hpermitted

theorem fits_of_accounted (h : Shared s) {c : Call} (hpermitted : Permitted s c)
    (hkept : Accounted (step s c)) : Fits s c := by
  cases c with
  | setLinks links => trivial
  | captureOpen file o =>
      obtain ⟨hnew, -⟩ := hpermitted
      change if isEntityLinkSetup s.chan.links then
        s.chan.m2mEnabled = true ∨ o.fhOpen = false ∨ o.sPower = .ok ()
        else s.chan.m2mEnabled = false
      have hstep : step s (.captureOpen file o) =
        captured s file (mxcIsiCaptureOpen file o s.chan) := rfl
      rw [hstep] at hkept
      rcases captureOpen_cases file o s.chan with ⟨hsetup, hrun⟩ | ⟨hsetup, hturned, -⟩ |
        ⟨hsetup, hidle, hfh, e, hpower, hrun⟩ | ⟨hsetup, -, -, hpower, -⟩
      · rw [hsetup, if_neg Bool.false_ne_true]
        have hopened : captured s file ({ s.chan with isLinkSetup := false }, .ok ()) =
            { s with
              chan := { s.chan with isLinkSetup := false }
              plain := insert file s.plain } := if_pos rfl
        rw [hrun, hopened] at hkept
        by_contra hbusy
        have hm2ms := h.busy.mp (Bool.eq_true_of_not_eq_false hbusy)
        rcases hkept.exclusive with ⟨-, hplain⟩ | hempty
        · exact absurd hplain (Finset.insert_ne_empty file s.plain)
        · exact absurd hempty hm2ms
      · rw [hsetup, if_pos rfl]
        exact hturned.imp_right .inl
      · rw [hrun] at hkept
        have hfhs : insert file s.chan.capFhs = s.enabling := hkept.capFhs
        rw [← hfhs] at hnew
        exact absurd (Finset.mem_insert_self file s.chan.capFhs) hnew
      · rw [hsetup, if_pos rfl]
        exact .inr (.inr hpower)
  | captureRelease file sPower =>
      change if file ∈ s.enabling then s.chan.isLinkSetup = true ∧ s.chan.links.remote ≠ none
        else s.chan.isLinkSetup = false
      have hfhs : (mxcIsiCaptureRelease file sPower s.chan).1.capFhs = s.enabling.erase file :=
        hkept.capFhs
      have hpm : (mxcIsiCaptureRelease file sPower s.chan).1.capPm = (s.enabling.erase file).card :=
        hkept.capPm
      by_cases hmem : file ∈ s.enabling
      · rw [if_pos hmem]
        have hheld : file ∈ s.chan.capFhs := by
          rw [h.capFhs]
          exact hmem
        rcases captureRelease_cases file sPower s.chan with ⟨-, hrun⟩ | ⟨-, -, hrun⟩ |
          ⟨hsetup, hremote, -⟩
        · rw [hrun] at hfhs
          have hheld' : file ∈ s.enabling.erase file := hfhs ▸ hheld
          exact absurd hheld' (Finset.notMem_erase file s.enabling)
        · rw [hrun] at hfhs
          have hheld' : file ∈ s.enabling.erase file := hfhs ▸ hheld
          exact absurd hheld' (Finset.notMem_erase file s.enabling)
        · exact ⟨hsetup, hremote⟩
      · rw [if_neg hmem]
        rw [Finset.erase_eq_of_notMem hmem, ← h.capPm] at hpm
        rcases captureRelease_cases file sPower s.chan with ⟨hsetup, -⟩ | ⟨-, -, hrun⟩ |
          ⟨-, -, hrun⟩
        · exact hsetup
        · rw [hrun] at hpm
          change s.chan.capPm - 1 = s.chan.capPm at hpm
          omega
        · rw [hrun] at hpm
          change s.chan.capPm - 1 = s.chan.capPm at hpm
          omega
  | m2mOpen file o =>
      change s.plain = ∅ ∨ 0 < s.chan.usageCount ∨ o.lock = false ∨ o.kzalloc = false ∨
        o.ctxInit ≠ .ok ()
      rcases m2mOpen_cases file o s.chan with ⟨hturned, -⟩ | ⟨-, -, -, -, inits, hrun⟩
      · exact .inr hturned
      · have hstep : step s (.m2mOpen file o) =
          m2mOpened s file (mxcIsiM2mOpen file o s.chan) := rfl
        rw [hstep, hrun] at hkept
        rcases hkept.exclusive with ⟨-, hplain⟩ | hempty
        · exact .inl hplain
        · exact absurd hempty (Finset.insert_ne_empty file s.m2ms)
  | m2mRelease file => trivial

end Steps

/-- From the probe on, with the links set up and taken down at will, for every order of
`open` and `release` on the two nodes and every result of their calls: the accounts are
kept in every call exactly when every call fits. -/
theorem sharing_kept_iff (links : MediaLinks) (calls : List Call)
    (hpermitted : Along step Permitted (probed links) calls) :
    Along step CallKept (probed links) calls ↔ Along step Fits (probed links) calls := by
  refine along_iff_along (I := Shared) (E := Permitted) (fun s c hs hc hfits => ?_)
    (fun s c hs hc hkept => ?_) (shared_probed links) hpermitted
  · exact shared_step hs hc hfits
  · exact fits_of_accounted hs hc hkept.accounted

def linked : MediaLinks := ⟨1, 1, some ⟨2, some 1⟩⟩

/-- Two capture handles that come and go, and a mem2mem handle after them. -/
theorem sharing_kept_inTurn : Along step CallKept (probed linked)
    [.captureOpen 1 ⟨true, .ok ()⟩, .captureOpen 2 ⟨true, .ok ()⟩,
      .m2mOpen 3 ⟨true, true, .ok ()⟩, .captureRelease 1 (.ok ()), .captureRelease 2 (.ok ()),
      .m2mOpen 3 ⟨true, true, .ok ()⟩, .captureOpen 1 ⟨true, .ok ()⟩, .m2mRelease 3] :=
  (sharing_kept_iff linked _ (by decide)).mpr (by decide)

/-- A handle is open when the links are taken down, and a second `open` clears the flag:
the `release` of the first handle gives nothing back. -/
theorem clearedFlag_leaks : ¬Along step CallKept (probed linked)
    [.captureOpen 1 ⟨true, .ok ()⟩, .setLinks ⟨1, 1, none⟩, .captureOpen 2 ⟨true, .ok ()⟩,
      .captureRelease 1 (.ok ())] := by
  rintro ⟨-, -, -, hkept, -⟩
  exact absurd hkept.accounted.usage (by decide)

end CameraPorting.Isi.ChannelSharing
