import CameraPorting.Isi.CaptureStream

namespace CameraPorting.Isi.SlotSafety

open CameraPorting.Kernel.Media
open CameraPorting.Isi.Device
open CameraPorting.Isi.Channel
open CameraPorting.Isi.CaptureQueue
open CameraPorting.Isi.BufferRotation
open CameraPorting.Isi.CaptureStream
open CameraPorting.Library.Runs
open CameraPorting.Library.SlotRotation

def slotAddr (regs : ChnlRegs) : MxcIsiBufId → FrameAddr
  | .buf1 => ⟨regs .outBuf1AddrY, regs .outBuf1AddrU, regs .outBuf1AddrV⟩
  | .buf2 => ⟨regs .outBuf2AddrY, regs .outBuf2AddrU, regs .outBuf2AddrV⟩

def Programmed (cap : MxcIsiCapDev) (r : BufRef) : Prop :=
  slotAddr cap.isi.regs (cap.buf r).id = outbufAddr cap (cap.buf r)

theorem slotAddr_writeOutbuf (slot : MxcIsiBufId) (paddr : FrameAddr)
    (regs : ChnlRegs) : slotAddr (writeOutbuf (some slot) paddr regs) slot = paddr := by
  cases slot <;> simp [slotAddr, writeOutbuf]

theorem slotAddr_writeOutbuf_ne {slot slot' : MxcIsiBufId} (h : slot' ≠ slot)
    (paddr : FrameAddr) (regs : ChnlRegs) :
    slotAddr (writeOutbuf (some slot) paddr regs) slot' = slotAddr regs slot' := by
  cases slot <;> cases slot' <;> simp [slotAddr, writeOutbuf] at h ⊢

theorem slotAddr_cleanIrqStatus (isi : MxcIsiDev) (val : U32) (slot : MxcIsiBufId) :
    slotAddr (mxcIsiCleanIrqStatus isi val).regs slot = slotAddr isi.regs slot := by
  cases slot <;> simp [slotAddr, mxcIsiCleanIrqStatus]

theorem planeAddr_idem (n : Nat) (dma : Nat → U32) (paddr : FrameAddr) :
    planeAddr n dma (planeAddr n dma paddr) = planeAddr n dma paddr := by
  unfold planeAddr
  dsimp only
  split
  · rfl
  · split <;> rfl

structure SamePlanes (cap cap' : MxcIsiCapDev) : Prop where
  pix : cap'.pix = cap.pix
  dma : cap'.discardBufferDma = cap.discardBufferDma

theorem SamePlanes.trans {a b c : MxcIsiCapDev} (hab : SamePlanes a b)
    (hbc : SamePlanes b c) : SamePlanes a c :=
  ⟨hbc.pix.trans hab.pix, hbc.dma.trans hab.dma⟩

theorem SamePlanes.outbufAddr {cap cap' : MxcIsiCapDev} (h : SamePlanes cap cap')
    (b : MxcIsiBuffer) : outbufAddr cap' b = outbufAddr cap b := by
  unfold CaptureQueue.outbufAddr
  rw [h.pix, h.dma]

theorem Programmed.frame {cap cap' : MxcIsiCapDev} {r : BufRef}
    (h : Programmed cap r) (hplanes : SamePlanes cap cap')
    (hbuf : cap'.buf r = cap.buf r)
    (hregs : slotAddr cap'.isi.regs (cap.buf r).id = slotAddr cap.isi.regs (cap.buf r).id) :
    Programmed cap' r := by
  unfold Programmed
  rw [hbuf, hregs, hplanes.outbufAddr]
  exact h

structure Programs (cap cap' : MxcIsiCapDev) (r : BufRef) (slot : MxcIsiBufId) :
    Prop where
  id : (cap'.buf r).id = slot
  programmed : Programmed cap' r
  others : ∀ r', r' ≠ r → cap'.buf r' = cap.buf r'
  regs : ∀ slot', slot' ≠ slot →
    slotAddr cap'.isi.regs slot' = slotAddr cap.isi.regs slot'
  planes : SamePlanes cap cap'
  writes : cap'.addrWrites = cap.addrWrites ++ [slot]
  reported : slotActive cap'.isi = slotActive cap.isi

theorem programs_setOutbuf {cap : MxcIsiCapDev} {r : BufRef} {slot : MxcIsiBufId}
    (h : outbufSlot cap.isi (cap.buf r).sequence = some slot) :
    Programs cap (mxcIsiChannelSetOutbuf cap r) r slot := by
  unfold mxcIsiChannelSetOutbuf
  dsimp only
  rw [h]
  refine ⟨?_, ?_, ?_, ?_, ⟨rfl, rfl⟩, rfl, rfl⟩
  · simp
  · unfold Programmed
    simp only [Function.update_self, Option.getD_some, slotAddr_writeOutbuf]
    unfold outbufAddr
    dsimp only
    split
    · exact (planeAddr_idem _ _ _).symm
    · exact (planeAddr_idem _ _ _).symm
  · intro r' hr'
    exact Function.update_of_ne hr' _ _
  · intro slot' hslot'
    exact slotAddr_writeOutbuf_ne hslot' _ _

theorem Programs.of_update {cap cap' : MxcIsiCapDev} {r : BufRef}
    {slot : MxcIsiBufId} {b : MxcIsiBuffer}
    (h : Programs { cap with buf := Function.update cap.buf r b } cap' r slot) :
    Programs cap cap' r slot := by
  refine ⟨h.id, h.programmed, ?_, h.regs, ⟨h.planes.pix, h.planes.dma⟩, h.writes,
    h.reported⟩
  intro r' hr'
  exact (h.others r' hr').trans (Function.update_of_ne hr' _ _)

theorem Programs.setState {cap cap' : MxcIsiCapDev} {r : BufRef}
    {slot : MxcIsiBufId} (h : Programs cap cap' r slot) (st : Vb2BufferState) :
    Programs cap (setState cap' r st) r slot := by
  refine ⟨?_, ?_, ?_, h.regs, ⟨h.planes.pix, h.planes.dma⟩, h.writes,
    h.reported⟩
  · simpa [CaptureQueue.setState] using h.id
  · have hprogrammed := h.programmed
    unfold Programmed at hprogrammed ⊢
    simp only [CaptureQueue.setState, Function.update_self]
    exact hprogrammed
  · intro r' hr'
    exact (Function.update_of_ne hr' _ _).trans (h.others r' hr')

theorem programs_startOutbuf {cap : MxcIsiCapDev} {r : BufRef} {n : U32}
    {slot : MxcIsiBufId} (h : outbufSlot cap.isi n = some slot) :
    Programs cap (startOutbuf cap r n) r slot := by
  unfold startOutbuf
  refine Programs.of_update (Programs.of_update (programs_setOutbuf ?_))
  simpa [setSequence, CaptureQueue.setState] using h

def nextOutbuf (cap : MxcIsiCapDev) : Option BufRef :=
  match cap.outPending with
  | [] => cap.outDiscard.head?
  | r :: _ => some r

theorem refillOutbuf_spec {cap : MxcIsiCapDev} {r : BufRef} {slot : MxcIsiBufId}
    (hnext : nextOutbuf cap = some r)
    (hslot : outbufSlot cap.isi cap.frameCount = some slot) :
    Programs cap (refillOutbuf cap) r slot ∧
      (refillOutbuf cap).outActive = cap.outActive ++ [r] ∧
      (refillOutbuf cap).frameCount = cap.frameCount ∧
      (refillOutbuf cap).completed = cap.completed := by
  have hset : Programs cap
      (mxcIsiChannelSetOutbuf (setSequence cap r cap.frameCount) r) r slot := by
    refine Programs.of_update (programs_setOutbuf ?_)
    simpa [setSequence] using hslot
  unfold nextOutbuf at hnext
  unfold refillOutbuf
  rcases hpending : cap.outPending with _ | ⟨p, ps⟩
  · rw [hpending] at hnext
    rcases hdiscard : cap.outDiscard with _ | ⟨d, ds⟩
    · rw [hdiscard] at hnext
      cases hnext
    · rw [hdiscard] at hnext
      cases hnext
      exact ⟨⟨hset.id, hset.programmed, hset.others, hset.regs,
        ⟨hset.planes.pix, hset.planes.dma⟩, hset.writes, hset.reported⟩, rfl, rfl, rfl⟩
  · rw [hpending] at hnext
    cases hnext
    have hstate := hset.setState .active
    exact ⟨⟨hstate.id, hstate.programmed, hstate.others, hstate.regs,
      ⟨hstate.planes.pix, hstate.planes.dma⟩, hstate.writes, hstate.reported⟩, rfl, rfl, rfl⟩

/-- The status word reports one hardware buffer active, and one only. -/
def ReportsOne (status : U32) : Prop :=
  status &&& 0x100#32 = 0#32 ↔ status &&& 0x200#32 ≠ 0#32

theorem isBufActive_two {isi : MxcIsiDev} (h : ReportsOne isi.status) :
    isBufActive isi 2 = !isBufActive isi 1 := by
  unfold ReportsOne at h
  unfold isBufActive
  by_cases hbit : isi.status &&& 0x100#32 = 0#32
  · have hother := h.mp hbit
    cases isi.bufActiveReverse <;> simp [hbit, hother]
  · have hother : isi.status &&& 0x200#32 = 0#32 := not_not.mp fun hne => hbit (h.mpr hne)
    cases isi.bufActiveReverse <;> simp [hbit, hother]

/-- The slot whose buffer is next to finish when the frame counter is `n`. -/
def paritySlot (n : U32) : MxcIsiBufId :=
  if n.toNat % 2 = 1 then .buf1 else .buf2

theorem toNat_succ_mod_two (n : U32) : (n + 1#32).toNat % 2 = (n.toNat + 1) % 2 := by
  rw [BitVec.toNat_add]
  change (n.toNat + 1) % 4294967296 % 2 = _
  omega

theorem paritySlot_succ_ne (n : U32) : paritySlot (n + 1#32) ≠ paritySlot n := by
  unfold paritySlot
  rw [toNat_succ_mod_two]
  rcases Nat.mod_two_eq_zero_or_one n.toNat with hn | hn
  · have hsucc : (n.toNat + 1) % 2 = 1 := by omega
    simp [hn, hsucc]
  · have hsucc : (n.toNat + 1) % 2 = 0 := by omega
    simp [hn, hsucc]

theorem paritySlot_succ_succ (n : U32) :
    paritySlot (n + 1#32 + 1#32) = paritySlot n := by
  have hfirst := paritySlot_succ_ne n
  have hsecond := paritySlot_succ_ne (n + 1#32)
  revert hfirst hsecond
  generalize paritySlot (n + 1#32 + 1#32) = x
  generalize paritySlot (n + 1#32) = y
  generalize paritySlot n = z
  cases x <;> cases y <;> cases z <;> simp

/-- The buffer programmed next takes the slot that was just freed, at the two
special sequence numbers as well. -/
theorem outbufSlot_freed {isi : MxcIsiDev} (hone : ReportsOne isi.status) (n : U32)
    (hfree : slotActive isi (paritySlot n) = false) :
    outbufSlot isi (n + 1#32) = some (paritySlot n) := by
  have htwo := isBufActive_two hone
  have hmod := toNat_succ_mod_two n
  unfold paritySlot at hfree ⊢
  unfold outbufSlot
  rcases Nat.mod_two_eq_zero_or_one n.toNat with hn | hn
  · have hne : n + 1#32 ≠ 0#32 := by
      intro heq
      rw [heq] at hmod
      change 0 % 2 = _ at hmod
      omega
    rcases hactive : isBufActive isi 1 with _ | _
    · rw [hactive] at htwo
      simp [slotActive, hn, htwo] at hfree
    · rw [hactive] at htwo
      simp [hn, hne, htwo]
  · have hne : n + 1#32 ≠ 1#32 := by
      intro heq
      rw [heq] at hmod
      change 1 % 2 = _ at hmod
      omega
    rcases hactive : isBufActive isi 1 with _ | _
    · rw [hactive] at htwo
      simp [hn, hne, htwo]
    · simp [slotActive, hn, hactive] at hfree

/-- The invariant on slots: the two active buffers sit in the two slots, the
oldest one in the slot of the frame counter's parity. -/
structure Slotted (cap : MxcIsiCapDev) : Prop where
  slots : ∃ a b, cap.outActive = [a, b] ∧
    (cap.buf a).id = paritySlot cap.frameCount ∧
    (cap.buf b).id = paritySlot (cap.frameCount + 1#32)
  programmed : ∀ r ∈ cap.outActive, Programmed cap r

theorem retireOutbuf_spec (cap : MxcIsiCapDev) (a : BufRef) (rest : List BufRef) :
    (∀ r, r ≠ a → (retireOutbuf cap a rest).buf r = cap.buf r) ∧
      (retireOutbuf cap a rest).isi = cap.isi ∧
      (retireOutbuf cap a rest).outActive = rest ∧
      (retireOutbuf cap a rest).outPending = cap.outPending ∧
      (retireOutbuf cap a rest).frameCount = cap.frameCount + 1#32 ∧
      (retireOutbuf cap a rest).addrWrites = cap.addrWrites ∧
      SamePlanes cap (retireOutbuf cap a rest) ∧
      (retireOutbuf cap a rest).completed =
        cap.completed ++ (if (cap.buf a).discard then [] else [(a, .done)]) := by
  unfold retireOutbuf
  dsimp only
  split
  · exact ⟨fun _ _ => rfl, rfl, rfl, rfl, rfl, rfl, ⟨rfl, rfl⟩, (List.append_nil _).symm⟩
  · exact ⟨fun r hr => Function.update_of_ne hr _ _, rfl, rfl, rfl, rfl, rfl,
      ⟨rfl, rfl⟩, rfl⟩

/-- A freed slot always finds a node to hold, and not the one still active. -/
theorem exists_nextOutbuf {cap : MxcIsiCapDev} (h : Rotating cap) {a b : BufRef}
    (hactive : cap.outActive = [a, b]) :
    ∃ r, nextOutbuf (retireOutbuf cap a [b]) = some r ∧ r ≠ b := by
  have hnodup := h.nodup
  rw [hactive] at hnodup
  have hab : a ≠ b := by
    rintro rfl
    exact absurd (List.nodup_append.mp (List.nodup_append.mp hnodup).1).2.1 (by simp)
  have hrot := rotation_retireOutbuf h.marked a [b]
  have hpending : (retireOutbuf cap a [b]).outPending = cap.outPending :=
    (retireOutbuf_spec cap a [b]).2.2.2.1
  unfold nextOutbuf
  rw [hpending]
  rcases hcons : cap.outPending with _ | ⟨p, ps⟩
  · have hdiscard : (retireOutbuf cap a [b]).outDiscard =
        cap.outDiscard ++ if isDiscard a then [a] else [] := by
      change (bufRotation (retireOutbuf cap a [b])).spare = _
      rw [hrot, Rotation.retire]
      split <;> simp [bufRotation]
    have hlength : (cap.outActive.filter isDiscard ++ cap.outDiscard).length = 2 :=
      h.full.kept.length_eq
    rw [hactive] at hlength
    have hne : (retireOutbuf cap a [b]).outDiscard ≠ [] := by
      rw [hdiscard]
      rcases ha : isDiscard a with _ | _
      · rcases hb : isDiscard b with _ | _ <;>
          · simp [ha, hb] at hlength
            intro hnil
            simp at hnil
            simp [hnil] at hlength
      · simp
    obtain ⟨r, rest, hr⟩ := List.exists_cons_of_ne_nil hne
    refine ⟨r, by simp [hr], ?_⟩
    rintro rfl
    have hmem : r ∈ cap.outDiscard ++ if isDiscard a then [a] else [] := by
      rw [← hdiscard, hr]
      exact List.mem_cons_self
    rcases List.mem_append.mp hmem with hmem | hmem
    · exact (List.nodup_append.mp hnodup).2.2 r (by simp) r hmem rfl
    · split at hmem
      · exact hab (List.mem_singleton.mp hmem).symm
      · exact absurd hmem List.not_mem_nil
  · refine ⟨p, rfl, ?_⟩
    rintro rfl
    rw [hcons] at hnodup
    exact (List.nodup_append.mp (List.nodup_append.mp hnodup).1).2.2 p (by simp) p
      (by simp) rfl

/-- From `cap` to `cap'` no address register of a slot reported active was
written, and no buffer in such a slot completed. -/
def LeavesActiveSlots (cap cap' : MxcIsiCapDev) : Prop :=
  ∃ writes done, cap'.addrWrites = cap.addrWrites ++ writes ∧
    cap'.completed = cap.completed ++ done ∧
    (∀ slot ∈ writes, slotActive cap'.isi slot = false) ∧
    (∀ slot, slotActive cap'.isi slot = true →
      slotAddr cap'.isi.regs slot = slotAddr cap.isi.regs slot) ∧
    ∀ c ∈ done, c.2 = .done ∧ slotActive cap'.isi (cap.buf c.1).id = false

theorem leavesActiveSlots_of_eq {cap cap' : MxcIsiCapDev}
    (hwrites : cap'.addrWrites = cap.addrWrites)
    (hdone : cap'.completed = cap.completed)
    (hregs : ∀ slot, slotAddr cap'.isi.regs slot = slotAddr cap.isi.regs slot) :
    LeavesActiveSlots cap cap' := by
  refine ⟨[], [], ?_, ?_, fun _ h => absurd h List.not_mem_nil, fun slot _ => hregs slot,
    fun _ h => absurd h List.not_mem_nil⟩
  · rw [hwrites, List.append_nil]
  · rw [hdone, List.append_nil]

theorem slotted_frameWriteDone {cap : MxcIsiCapDev} (hrot : Rotating cap)
    (h : Slotted cap) (hone : ReportsOne cap.isi.status) :
    Slotted (mxcIsiCapFrameWriteDone cap) ∧
      LeavesActiveSlots cap (mxcIsiCapFrameWriteDone cap) := by
  obtain ⟨a, b, hactive, ha, hb⟩ := h.slots
  have hstep : mxcIsiCapFrameWriteDone cap =
      if slotActive cap.isi (cap.buf a).id then cap
      else refillOutbuf (retireOutbuf cap a [b]) := by
    simp [mxcIsiCapFrameWriteDone, hactive]
  by_cases hactiveSlot : slotActive cap.isi (cap.buf a).id
  · rw [hstep, if_pos hactiveSlot]
    exact ⟨h, leavesActiveSlots_of_eq rfl rfl fun _ => rfl⟩
  rw [hstep, if_neg hactiveSlot]
  have hskip : slotActive cap.isi (cap.buf a).id = false :=
    Bool.eq_false_iff.mpr hactiveSlot
  obtain ⟨hbuf, hisi, hrest, -, hcount, hwrites, hplanes, hdone⟩ :=
    retireOutbuf_spec cap a [b]
  obtain ⟨r, hnext, hrb⟩ := exists_nextOutbuf hrot hactive
  have hnodup := hrot.nodup
  rw [hactive] at hnodup
  have hab : b ≠ a := by
    rintro rfl
    exact absurd (List.nodup_append.mp (List.nodup_append.mp hnodup).1).2.1 (by simp)
  have hslot : outbufSlot (retireOutbuf cap a [b]).isi
      (retireOutbuf cap a [b]).frameCount = some (paritySlot cap.frameCount) := by
    rw [hisi, hcount]
    exact outbufSlot_freed hone _ (ha ▸ hskip)
  obtain ⟨hprograms, hactive', hcount', hdone'⟩ := refillOutbuf_spec hnext hslot
  rw [hrest] at hactive'
  rw [hcount] at hcount'
  have hbufb : (refillOutbuf (retireOutbuf cap a [b])).buf b = cap.buf b :=
    (hprograms.others b hrb.symm).trans (hbuf b hab)
  refine ⟨⟨⟨b, r, hactive', ?_, ?_⟩, ?_⟩, ?_⟩
  · rw [hbufb, hcount', hb]
  · rw [hprograms.id, hcount', paritySlot_succ_succ]
  · intro x hx
    rw [hactive'] at hx
    rcases List.mem_append.mp hx with hx | hx
    · rw [List.mem_singleton.mp hx]
      have hb' := h.programmed b (by rw [hactive]; simp)
      refine hb'.frame (hplanes.trans hprograms.planes) hbufb ?_
      rw [hprograms.regs, hisi]
      rw [hb]
      exact paritySlot_succ_ne _
    · rw [List.mem_singleton.mp hx]
      exact hprograms.programmed
  · refine ⟨[paritySlot cap.frameCount], if (cap.buf a).discard then [] else [(a, .done)],
      ?_, ?_, ?_, ?_, ?_⟩
    · exact hprograms.writes.trans (congrArg (· ++ _) hwrites)
    · exact hdone'.trans hdone
    · intro slot hmem
      rw [List.mem_singleton.mp hmem, hprograms.reported, hisi, ← ha]
      exact hskip
    · intro slot hslotActive
      refine (hprograms.regs slot ?_).trans (by rw [hisi])
      rintro rfl
      rw [hprograms.reported, hisi, ← ha, hskip] at hslotActive
      exact Bool.false_ne_true hslotActive
    · intro c hc
      split at hc
      · exact absurd hc List.not_mem_nil
      · rw [List.mem_singleton.mp hc, hprograms.reported, hisi]
        exact ⟨rfl, hskip⟩

/-- A frame-done interrupt reports one hardware buffer active. -/
def ReportsOneSlot : StreamOp → Prop
  | .bufQueue _ => True
  | .frameDone status => status &&& chnlStsFrmStrdMask ≠ 0#32 → ReportsOne status

instance : ∀ op, Decidable (ReportsOneSlot op)
  | .bufQueue _ => inferInstanceAs (Decidable True)
  | .frameDone status =>
      inferInstanceAs (Decidable (status &&& chnlStsFrmStrdMask ≠ 0#32 →
        (status &&& 0x100#32 = 0#32 ↔ status &&& 0x200#32 ≠ 0#32)))

theorem slotted_bufQueue {cap : MxcIsiCapDev} (h : Slotted cap) {i : Nat}
    (hi : BufRef.user i ∉ cap.outPending ++ cap.outActive) :
    Slotted (capVb2BufferQueue cap (.user i)) := by
  have hbuf : ∀ r ∈ cap.outActive, (capVb2BufferQueue cap (.user i)).buf r = cap.buf r := by
    intro r hr
    refine Function.update_of_ne ?_ _ _
    rintro rfl
    exact hi (List.mem_append_right _ hr)
  obtain ⟨a, b, hactive, ha, hb⟩ := h.slots
  refine ⟨⟨a, b, hactive, ?_, ?_⟩, fun r hr => ?_⟩
  · rw [hbuf a (by rw [hactive]; simp)]
    exact ha
  · rw [hbuf b (by rw [hactive]; simp)]
    exact hb
  · exact (h.programmed r hr).frame ⟨rfl, rfl⟩ (hbuf r hr) rfl

theorem slotted_irqHandler {cap : MxcIsiCapDev} (hrot : Rotating cap)
    (h : Slotted cap) {status : U32} (hone : ReportsOneSlot (.frameDone status)) :
    Slotted (mxcIsiIrqHandler cap status) ∧
      LeavesActiveSlots cap (mxcIsiIrqHandler cap status) := by
  let latched := { cap with
    isi := mxcIsiCleanIrqStatus { cap.isi with status := status } status }
  have hregs : ∀ slot, slotAddr latched.isi.regs slot = slotAddr cap.isi.regs slot :=
    slotAddr_cleanIrqStatus { cap.isi with status := status } status
  have hlatched : Slotted latched := by
    exact ⟨h.slots, fun r hr => (h.programmed r hr).frame ⟨rfl, rfl⟩ rfl (hregs _)⟩
  have hrotLatched : Rotating latched := ⟨hrot.marked, hrot.sorted, hrot.full, hrot.held⟩
  unfold mxcIsiIrqHandler
  dsimp only
  split
  · rename_i hstored
    split
    · exact ⟨hlatched, leavesActiveSlots_of_eq rfl rfl hregs⟩
    · obtain ⟨hslotted, writes, done, hwrites, hcompleted, hfree, haddr, hdone⟩ :=
        slotted_frameWriteDone hrotLatched hlatched (hone hstored)
      refine ⟨hslotted, writes, done, hwrites, hcompleted, hfree, fun slot hslot => ?_, hdone⟩
      exact (haddr slot hslot).trans (hregs slot)
  · exact ⟨hlatched, leavesActiveSlots_of_eq rfl rfl hregs⟩

/-- The two buffers in the slots have different slots, and each slot's address
registers hold the plane addresses of its buffer. -/
def SlotsMatch (cap : MxcIsiCapDev) : Prop :=
  ∃ a b, cap.outActive = [a, b] ∧ (cap.buf a).id ≠ (cap.buf b).id ∧
    ∀ r ∈ cap.outActive, Programmed cap r

theorem Slotted.slotsMatch {cap : MxcIsiCapDev} (h : Slotted cap) : SlotsMatch cap := by
  obtain ⟨a, b, hactive, ha, hb⟩ := h.slots
  refine ⟨a, b, hactive, ?_, h.programmed⟩
  rw [ha, hb]
  exact (paritySlot_succ_ne _).symm

theorem slotted_streamStep {cap : MxcIsiCapDev} {op : StreamOp} (hrot : Rotating cap)
    (h : Slotted cap) (hop : MayQueue cap op ∧ ReportsOneSlot op) :
    LeavesActiveSlots cap (streamStep cap op) ∧
      Rotating (streamStep cap op) ∧ Slotted (streamStep cap op) := by
  have hnext := (rotating_streamStep hrot hop.1).1
  cases op with
  | bufQueue i =>
      exact ⟨leavesActiveSlots_of_eq rfl rfl fun _ => rfl, hnext, slotted_bufQueue h hop.1⟩
  | frameDone status =>
      obtain ⟨hslotted, hleaves⟩ := slotted_irqHandler hrot h hop.2
      exact ⟨hleaves, hnext, hslotted⟩

/-- The stream start fills slot 1 with a discard buffer and slot 2 with the
first pending one. -/
theorem slotted_programOutbufs {cap : MxcIsiCapDev} (hactive : cap.outActive = [])
    (hdiscard : cap.outDiscard = []) {u : BufRef} {rest : List BufRef}
    (hpending : cap.outPending = u :: rest) (hu : u.isUser = true) :
    Slotted (programOutbufs cap) := by
  have hne : u ≠ .discard 0 := by
    rintro rfl
    exact Bool.noConfusion hu
  let loaded := addDiscard (addDiscard cap 0) 1
  let first := startOutbuf loaded (.discard 0) 0#32
  let between := { first with
    outDiscard := [.discard 1], outActive := [BufRef.discard 0] }
  let second := startOutbuf between u 1#32
  have hfirst : Programs loaded first (.discard 0) .buf1 :=
    programs_startOutbuf (by simp [outbufSlot])
  have hsecond : Programs between second u .buf2 :=
    programs_startOutbuf (by simp [outbufSlot])
  have hstarted : programOutbufs cap = { second with
      outPending := rest, outActive := [.discard 0, u], frameCount := 1#32 } := by
    unfold programOutbufs
    simp [addDiscard, hdiscard, hactive, hpending, second, between, first, loaded,
      startOutbuf, setSequence, setState, mxcIsiChannelSetOutbuf]
  have hbuf : second.buf (.discard 0) = first.buf (.discard 0) :=
    hsecond.others _ hne.symm
  have hbetween : Programmed between (.discard 0) := hfirst.programmed
  have hold : Programmed second (.discard 0) := by
    refine hbetween.frame hsecond.planes hbuf ?_
    refine hsecond.regs _ ?_
    rw [show (between.buf (.discard 0)).id = .buf1 from hfirst.id]
    decide
  rw [hstarted]
  refine ⟨⟨.discard 0, u, rfl, ?_, ?_⟩, ?_⟩
  · exact (congrArg MxcIsiBuffer.id hbuf).trans hfirst.id
  · change (second.buf u).id = paritySlot (1#32 + 1#32)
    rw [hsecond.id]
    decide
  · intro r hr
    rcases List.mem_cons.mp hr with rfl | hr
    · exact hold
    · rw [List.mem_singleton.mp hr]
      exact hsecond.programmed

/-- Slot safety of every streaming run whose frame-done interrupts report one
hardware buffer active: at all times the slots hold what their address registers
say, and a slot reported active is neither reprogrammed nor completed. -/
theorem slots_safe {cap started : MxcIsiCapDev} {hostdata : Bool}
    {alloc : Nat → Option U32} (h : Startable cap)
    (hstart : capVb2StartStreaming cap hostdata alloc cap.outPending.length =
      (started, .ok ()))
    (ops : List StreamOp)
    (hops : Along streamStep (fun cap op => MayQueue cap op ∧ ReportsOneSlot op)
      started ops) :
    Always streamStep SlotsMatch started ops ∧
      Along streamStep (fun cap op => LeavesActiveSlots cap (streamStep cap op))
        started ops := by
  have hrotating := (rotating_startStreaming h hstart).1
  have hslotted : Slotted started := by
    obtain ⟨hcount, size, dma, allocs, rfl⟩ := startStreaming_ok hstart
    obtain ⟨u, rest, hcons⟩ := List.exists_cons_of_length_pos
      (show 0 < cap.outPending.length by omega)
    exact slotted_programOutbufs h.active h.discard hcons
      (h.users u (by rw [hcons]; exact List.mem_cons_self))
  have hinit : Rotating started ∧ Slotted started := ⟨hrotating, hslotted⟩
  constructor
  · have halways := always_of_along (I := fun cap => Rotating cap ∧ Slotted cap)
      (fun cap op hI hop => (slotted_streamStep hI.1 hI.2 hop).2) hinit hops
    exact halways.imp fun cap hcap => hcap.2.slotsMatch
  · exact along_of_invariant (I := fun cap => Rotating cap ∧ Slotted cap)
      (fun cap op hI hop => slotted_streamStep hI.1 hI.2 hop) hinit hops

/-- The board run of two completions, one of them after a skipped interrupt. -/
theorem slots_safe_board :
    Always streamStep SlotsMatch boardStarted [.frameDone 0x20000100#32,
      .frameDone 0x20000200#32, .frameDone 0x20000100#32, .bufQueue 0] :=
  (slots_safe startable_boardQueued boardQueued_start
    [.frameDone 0x20000100#32, .frameDone 0x20000200#32, .frameDone 0x20000100#32,
      .bufQueue 0] (by decide)).1

end CameraPorting.Isi.SlotSafety
