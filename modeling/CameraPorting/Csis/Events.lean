import CameraPorting.Kernel.Media
import CameraPorting.Library.LatchedEvents

/-!
The interrupt of the MIPI CSI-2 receiver: its event counters and the packet buffer for data
beside the image. The handler's accesses to the device interleave with everything else.
-/

namespace CameraPorting.Csis.Events

open CameraPorting.Kernel.Media
open CameraPorting.Library.LatchedEvents
open CameraPorting.Library.RegisterFields (Within and_eq_iff_within)
open CameraPorting.Library.Runs

def mipiCsisIntsrcEvenBefore : U32 := 1 <<< 31
def mipiCsisIntsrcEvenAfter : U32 := 1 <<< 30
def mipiCsisIntsrcEven : U32 := 3 <<< 30
def mipiCsisIntsrcOddBefore : U32 := 1 <<< 29
def mipiCsisIntsrcOddAfter : U32 := 1 <<< 28
def mipiCsisIntsrcNonImageData : U32 := 0xf <<< 28
def mipiCsisIntsrcFrameStart : U32 := 1 <<< 24
def mipiCsisIntsrcFrameEnd : U32 := 1 <<< 20
def mipiCsisIntsrcErrSotHs : U32 := 1 <<< 16
def mipiCsisIntsrcErrLostFs : U32 := 1 <<< 12
def mipiCsisIntsrcErrLostFe : U32 := 1 <<< 8
def mipiCsisIntsrcErrOver : U32 := 1 <<< 4
def mipiCsisIntsrcErrEcc : U32 := 1 <<< 2
def mipiCsisIntsrcErrCrc : U32 := 1 <<< 1
def mipiCsisIntsrcErrUnknown : U32 := 1 <<< 0
def mipiCsisIntsrcErrors : U32 := 0xfffff

def mipiCsisPktdataOdd : Nat := 0x2000
def mipiCsisPktdataEven : Nat := 0x3000
def mipiCsisPktdataSize : U32 := 4096

structure MipiCsisEvent where
  mask : U32
  name : String
  counter : U32
  deriving DecidableEq, Repr

def mipiCsisEvents : List MipiCsisEvent :=
  [⟨mipiCsisIntsrcErrSotHs, "SOT Error", 0⟩,
    ⟨mipiCsisIntsrcErrLostFs, "Lost Frame Start Error", 0⟩,
    ⟨mipiCsisIntsrcErrLostFe, "Lost Frame End Error", 0⟩,
    ⟨mipiCsisIntsrcErrOver, "FIFO Overflow Error", 0⟩,
    ⟨mipiCsisIntsrcErrEcc, "ECC Error", 0⟩,
    ⟨mipiCsisIntsrcErrCrc, "CRC Error", 0⟩,
    ⟨mipiCsisIntsrcErrUnknown, "Unknown Error", 0⟩,
    ⟨mipiCsisIntsrcEvenBefore, "Non-image data before even frame", 0⟩,
    ⟨mipiCsisIntsrcEvenAfter, "Non-image data after even frame", 0⟩,
    ⟨mipiCsisIntsrcOddBefore, "Non-image data before odd frame", 0⟩,
    ⟨mipiCsisIntsrcOddAfter, "Non-image data after odd frame", 0⟩,
    ⟨mipiCsisIntsrcFrameStart, "Frame Start", 0⟩,
    ⟨mipiCsisIntsrcFrameEnd, "Frame End", 0⟩]

/-- `struct csis_pktbuf`; the buffer is NULL or at an address. -/
structure CsisPktbuf where
  data : Option Nat
  len : U32
  deriving DecidableEq, Repr

/-- `mipi_csis_irq_handler` between its two accesses to `INTSRC`. -/
structure CsisIrq where
  status : U32
  updated : Bool
  deriving DecidableEq, Repr

/-- What the interrupt uses of `struct csi_state`, with the register `INTSRC` and the module
parameter `debug`. -/
structure CsisEvents where
  intsrc : U32
  irq : Option CsisIrq
  events : List MipiCsisEvent
  pktBuf : CsisPktbuf
  debug : Bool
  deriving DecidableEq, Repr

structure PktCopy where
  data : Nat
  offset : Nat
  len : U32
  deriving DecidableEq, Repr

def pktCopy (status : U32) (pktbuf : CsisPktbuf) : CsisPktbuf × List PktCopy :=
  match pktbuf.data with
  | some data =>
      if status &&& mipiCsisIntsrcNonImageData ≠ 0#32 then
        let offset := if status &&& mipiCsisIntsrcEven ≠ 0#32 then mipiCsisPktdataEven
          else mipiCsisPktdataOdd
        ({ pktbuf with data := none }, [⟨data, offset, pktbuf.len⟩])
      else (pktbuf, [])
  | none => (pktbuf, [])

/-- The condition under which the interrupt updates the counters. -/
def counts (debug : Bool) (status : U32) : Bool :=
  decide (status &&& mipiCsisIntsrcErrors ≠ 0#32) || debug

def updateCounters (status : U32) (events : List MipiCsisEvent) : List MipiCsisEvent :=
  events.map fun event =>
    if status &&& event.mask = 0#32 then event else { event with counter := event.counter + 1 }

/-- The part of `mipi_csis_irq_handler` under the lock, once it has read `status`. -/
def irqUpdate (status : U32) (s : CsisEvents) : CsisEvents :=
  { s with
    irq := some ⟨status, true⟩
    pktBuf := (pktCopy status s.pktBuf).1
    events := if counts s.debug status then updateCounters status s.events else s.events }

def mipiCsisClearCounters (s : CsisEvents) : CsisEvents :=
  { s with events := s.events.map fun event => { event with counter := 0 } }

def mipiCsisSRxBuffer (buf : Option Nat) (size : U32) (s : CsisEvents) : CsisEvents :=
  { s with pktBuf := ⟨buf, if size < mipiCsisPktdataSize then size else mipiCsisPktdataSize⟩ }

/-- The lines of `mipi_csis_log_counters`, which prints the counters as signed. -/
def mipiCsisLogCounters (nonErrors : Bool) (s : CsisEvents) : List (String × Int) :=
  let n := if nonErrors then s.events.length else s.events.length - 4
  ((s.events.take n).reverse.filter fun event => decide (0#32 < event.counter) || s.debug).map
    fun event => (event.name, event.counter.toInt)

/-- What happens to the receiver, in any order: it raises events, the handler takes its three
steps, `mipi_csis_clean_irq` writes back a word it read, and the subdev operations and the
module parameter do their part under the lock. -/
inductive EventCall where
  | raise (bits : U32)
  | irqRead
  | irqUpdate
  | irqWrite
  | cleanIrq (word : U32)
  | clearCounters
  | sRxBuffer (buf : Option Nat) (size : U32)
  | setDebug (debug : Bool)

def eventStep (s : CsisEvents) : EventCall → CsisEvents
  | .raise bits => { s with intsrc := s.intsrc ||| bits }
  | .irqRead =>
      match s.irq with
      | some _ => s
      | none => { s with irq := some ⟨s.intsrc, false⟩ }
  | .irqUpdate =>
      match s.irq with
      | some ⟨status, false⟩ => irqUpdate status s
      | some ⟨_, true⟩ | none => s
  | .irqWrite =>
      match s.irq with
      | some ⟨status, true⟩ => { s with intsrc := s.intsrc &&& ~~~status, irq := none }
      | some ⟨_, false⟩ | none => s
  | .cleanIrq word => { s with intsrc := s.intsrc &&& ~~~word }
  | .clearCounters => mipiCsisClearCounters s
  | .sRxBuffer buf size => mipiCsisSRxBuffer buf size s
  | .setDebug debug => { s with debug := debug }

/-- The handler as one of the general kind, which serves a word before it writes it back. -/
def latchOf (s : CsisEvents) : Latch 32 :=
  ⟨s.intsrc, s.irq.map fun irq => ⟨irq.status, if irq.updated then .served else .read⟩⟩

def latchOps (s : CsisEvents) : EventCall → List (LatchOp 32)
  | .raise bits => [.raise bits]
  | .irqRead => [.read]
  | .irqUpdate => [.serve]
  | .irqWrite =>
      match s.irq with
      | some ⟨_, true⟩ => [.ack]
      | some ⟨_, false⟩ | none => []
  | .cleanIrq word => [.discard word]
  | .clearCounters | .sRxBuffer .. | .setDebug _ => []

def raised (s : CsisEvents) : EventCall → List U32
  | .raise bits => [bits &&& ~~~s.intsrc]
  | _ => []

/-- The words that interrupts deal with, and whether their events are counted. -/
def dealt (s : CsisEvents) : EventCall → List (U32 × Bool)
  | .irqUpdate =>
      match s.irq with
      | some ⟨status, false⟩ => [(status, counts s.debug status)]
      | some ⟨_, true⟩ | none => []
  | _ => []

def cleaned (s : CsisEvents) : EventCall → List U32
  | .cleanIrq word => [s.intsrc &&& word]
  | _ => []

/-- Events that are pending and that no interrupt has dealt with. -/
def waiting (s : CsisEvents) : U32 :=
  match s.irq with
  | some ⟨status, true⟩ => s.intsrc &&& ~~~status
  | some ⟨_, false⟩ | none => s.intsrc

def countedWords (s : CsisEvents) (calls : List EventCall) : List U32 :=
  ((trace eventStep dealt s calls).filter fun d => d.2).map Prod.fst

def passedWords (s : CsisEvents) (calls : List EventCall) : List U32 :=
  ((trace eventStep dealt s calls).filter fun d => !d.2).map Prod.fst

def hits (mask : U32) (words : List U32) : Nat :=
  words.countP fun v => decide (v &&& mask ≠ 0#32)

/-- The counters are not cleared, and `mipi_csis_clean_irq` leaves the bits alone that a
running handler has read. -/
def Counting (s : CsisEvents) : EventCall → Prop
  | .cleanIrq word => ∀ irq ∈ s.irq, irq.status &&& word = 0#32
  | .clearCounters => False
  | .raise _ | .irqRead | .irqUpdate | .irqWrite | .sRxBuffer .. | .setDebug _ => True

instance (s : CsisEvents) : (call : EventCall) → Decidable (Counting s call)
  | .cleanIrq _ => inferInstanceAs (Decidable (∀ irq ∈ s.irq, _))
  | .clearCounters => .isFalse id
  | .raise _ | .irqRead | .irqUpdate | .irqWrite | .sRxBuffer .. | .setDebug _ => .isTrue trivial

theorem latchOf_step (s : CsisEvents) (call : EventCall) :
    latchOf (eventStep s call) = exec latchStep (latchOf s) (latchOps s call) := by
  obtain ⟨intsrc, _ | ⟨status, _ | _⟩, events, pktBuf, debug⟩ := s
  · cases call <;> rfl
  · cases call <;> rfl
  · cases call <;> rfl

theorem leavesHandler_of_counting {s : CsisEvents} {call : EventCall} (h : Counting s call) :
    Along latchStep LeavesHandler (latchOf s) (latchOps s call) := by
  obtain ⟨intsrc, irq, events, pktBuf, debug⟩ := s
  cases call with
  | raise | irqRead | irqUpdate => exact ⟨trivial, trivial⟩
  | clearCounters | sRxBuffer | setDebug => trivial
  | irqWrite =>
      rcases irq with _ | ⟨status, _ | _⟩
      · trivial
      · trivial
      · exact ⟨trivial, trivial⟩
  | cleanIrq word =>
      rcases irq with _ | ⟨status, _ | _⟩
      · exact ⟨trivial, trivial⟩
      · exact ⟨h _ rfl, trivial⟩
      · exact ⟨h _ rfl, trivial⟩

theorem single_bits : ∀ event ∈ mipiCsisEvents, ∃ k < 32, event.mask = BitVec.twoPow 32 k := by
  decide

theorem hits_twoPow {k : Nat} (hk : k < 32) (words : List U32) :
    hits (BitVec.twoPow 32 k) words = tally k words := by
  refine List.countP_congr fun v _ => ?_
  rw [decide_eq_true_iff, BitVec.and_twoPow]
  cases v.getLsbD k with
  | false => simp
  | true =>
      have hbit : BitVec.twoPow 32 k ≠ 0#32 := by
        intro hzero
        have hget := congrArg (BitVec.getLsbD · k) hzero
        simp [hk] at hget
      simpa using hbit

theorem trace_served (s : CsisEvents) (calls : List EventCall) :
    trace latchStep served (latchOf s) (trace eventStep latchOps s calls) =
      (trace eventStep dealt s calls).map Prod.fst := by
  have hserved : ∀ s call, (dealt s call).map Prod.fst =
      trace latchStep served (latchOf s) (latchOps s call) := by
    rintro ⟨intsrc, _ | ⟨status, _ | _⟩, events, pktBuf, debug⟩ call
    · cases call <;> rfl
    · cases call <;> rfl
    · cases call <;> rfl
  rw [← trace_view latchOf_step hserved]
  exact trace_map Prod.fst s calls

theorem trace_latched (s : CsisEvents) (calls : List EventCall) :
    trace latchStep latched (latchOf s) (trace eventStep latchOps s calls) =
      trace eventStep raised s calls := by
  have hlatched : ∀ s call, raised s call =
      trace latchStep latched (latchOf s) (latchOps s call) := by
    rintro ⟨intsrc, _ | ⟨status, _ | _⟩, events, pktBuf, debug⟩ call
    · cases call <;> rfl
    · cases call <;> rfl
    · cases call <;> rfl
  exact (trace_view latchOf_step hlatched s calls).symm

theorem trace_discarded (s : CsisEvents) (calls : List EventCall) :
    trace latchStep discarded (latchOf s) (trace eventStep latchOps s calls) =
      trace eventStep cleaned s calls := by
  have hdiscarded : ∀ s call, cleaned s call =
      trace latchStep discarded (latchOf s) (latchOps s call) := by
    rintro ⟨intsrc, _ | ⟨status, _ | _⟩, events, pktBuf, debug⟩ call
    · cases call <;> rfl
    · cases call <;> rfl
    · cases call <;> rfl
  exact (trace_view latchOf_step hdiscarded s calls).symm

theorem waiting_latchOf (s : CsisEvents) : (latchOf s).waiting = [waiting s] := by
  obtain ⟨intsrc, _ | ⟨status, _ | _⟩, events, pktBuf, debug⟩ := s <;> rfl

theorem hits_dealt (mask : U32) (s : CsisEvents) (calls : List EventCall) :
    hits mask ((trace eventStep dealt s calls).map Prod.fst) =
      hits mask (countedWords s calls) + hits mask (passedWords s calls) := by
  rw [hits, hits, hits, countedWords, passedWords, List.countP_map, List.countP_map,
    List.countP_map]
  exact List.countP_eq_countP_filter_add _ _ _

def MipiCsisEvent.plus (event : MipiCsisEvent) (words : List U32) : MipiCsisEvent :=
  { event with counter := event.counter + BitVec.ofNat 32 (hits event.mask words) }

theorem MipiCsisEvent.plus_nil (event : MipiCsisEvent) : event.plus [] = event := by
  change { event with counter := event.counter + 0#32 } = event
  rw [BitVec.add_zero]

theorem MipiCsisEvent.plus_append (event : MipiCsisEvent) (words words' : List U32) :
    event.plus (words ++ words') = (event.plus words).plus words' := by
  change { event with counter := _ + BitVec.ofNat 32 (hits _ (words ++ words')) } =
    ({ event with counter := _ + BitVec.ofNat 32 (hits _ words) +
        BitVec.ofNat 32 (hits _ words') } : MipiCsisEvent)
  rw [hits, List.countP_append, BitVec.ofNat_add, BitVec.add_assoc]
  rfl

theorem updateCounters_eq (status : U32) (events : List MipiCsisEvent) :
    updateCounters status events = events.map fun event => event.plus [status] := by
  refine List.map_congr_left fun event _ => ?_
  rw [MipiCsisEvent.plus, hits, List.countP_singleton]
  by_cases hhit : status &&& event.mask = 0#32
  · rw [if_pos hhit]
    simp [hhit]
  · rw [if_neg hhit]
    simp [hhit]

theorem events_step {s : CsisEvents} {call : EventCall} (hcall : Counting s call) :
    (eventStep s call).events = s.events.map fun event =>
      event.plus (((dealt s call).filter fun d => d.2).map Prod.fst) := by
  have hkept : s.events = s.events.map fun event => event.plus [] := by
    rw [List.map_congr_left fun event _ => event.plus_nil, List.map_id']
  obtain ⟨intsrc, irq, events, pktBuf, debug⟩ := s
  cases call with
  | raise | irqRead | irqWrite | cleanIrq | sRxBuffer | setDebug =>
      rcases irq with _ | ⟨status, _ | _⟩ <;> exact hkept
  | clearCounters => exact hcall.elim
  | irqUpdate =>
      rcases irq with _ | ⟨status, _ | _⟩
      · exact hkept
      · change (if counts debug status then updateCounters status events else events) =
          events.map fun event => event.plus
            (([(status, counts debug status)].filter fun d => d.2).map Prod.fst)
        rw [updateCounters_eq]
        cases counts debug status with
        | false => exact hkept
        | true => rfl
      · exact hkept

/-- The counters move by the words that are counted. -/
theorem events_exec {s : CsisEvents} {calls : List EventCall}
    (hcalls : Along eventStep Counting s calls) :
    (exec eventStep s calls).events =
      s.events.map fun event => event.plus (countedWords s calls) := by
  induction calls generalizing s with
  | nil =>
      change s.events = s.events.map fun event => event.plus []
      rw [List.map_congr_left fun event _ => event.plus_nil, List.map_id']
  | cons call calls ih =>
      rw [exec_cons, ih hcalls.2, events_step hcalls.1, List.map_map]
      refine List.map_congr_left fun event _ => ?_
      rw [Function.comp_apply, ← MipiCsisEvent.plus_append, countedWords, countedWords, trace,
        List.filter_append, List.map_append]

theorem passed_error {mask : U32} (hmask : mask &&& mipiCsisIntsrcErrors = mask)
    (s : CsisEvents) (calls : List EventCall) : hits mask (passedWords s calls) = 0 := by
  have hdealt : ∀ d ∈ trace eventStep dealt s calls, d.2 = false →
      d.1 &&& mipiCsisIntsrcErrors = 0#32 := by
    refine forall_mem_trace (I := fun _ => True) (fun s call _ => ⟨?_, trivial⟩) trivial calls
    obtain ⟨intsrc, _ | ⟨status, _ | _⟩, events, pktBuf, debug⟩ := s
    · cases call <;> simp [dealt]
    · cases call <;> simp +contextual [dealt, counts]
    · cases call <;> simp [dealt]
  rw [hits, List.countP_eq_zero]
  intro word hword
  obtain ⟨d, hd, rfl⟩ := List.mem_map.mp hword
  obtain ⟨hd, hpassed⟩ := List.mem_filter.mp hd
  have hnone := hdealt d hd (by simpa using hpassed)
  rw [decide_eq_true_iff, not_not, ← hmask, BitVec.and_comm mask, ← BitVec.and_assoc, hnone,
    BitVec.zero_and]

/-- What becomes of an event: those that waited and those raised since are counted, or dealt
with uncounted, or cleaned away, or still wait. -/
structure Accounted (mask : U32) (s : CsisEvents) (calls : List EventCall) : Prop where
  conserved : hits mask [waiting s] + hits mask (trace eventStep raised s calls) =
    hits mask (countedWords s calls) + hits mask (passedWords s calls) +
      hits mask (trace eventStep cleaned s calls) +
        hits mask [waiting (exec eventStep s calls)]
  error_counted : mask &&& mipiCsisIntsrcErrors = mask → hits mask (passedWords s calls) = 0

/-- A handler that has not written its word back finds it latched. -/
def IrqHeld (s : CsisEvents) : Prop :=
  ∀ irq ∈ s.irq, irq.status &&& s.intsrc = irq.status

instance (s : CsisEvents) : Decidable (IrqHeld s) :=
  inferInstanceAs (Decidable (∀ irq ∈ s.irq, _))

theorem held_latchOf {s : CsisEvents} (h : IrqHeld s) : Held (latchOf s) := by
  have hwithin : ∀ irq ∈ s.irq, Within irq.status s.intsrc := by
    intro irq hirq
    rw [← and_eq_iff_within, BitVec.and_comm]
    exact h irq hirq
  obtain ⟨intsrc, _ | ⟨status, _ | _⟩, events, pktBuf, debug⟩ := s
  · trivial
  · exact hwithin _ rfl
  · exact hwithin _ rfl

/-- The lines that the counters give after the words. -/
def countedLines (debug : Bool) (words : List U32) : List (String × Int) :=
  let lines := mipiCsisEvents.reverse.map fun event =>
    (event.name, BitVec.ofNat 32 (hits event.mask words))
  (lines.filter fun line => decide (0#32 < line.2) || debug).map fun line => (line.1, line.2.toInt)

theorem counters_zero : ∀ event ∈ mipiCsisEvents, event.counter = 0#32 := by
  decide

theorem logCounters_plus {s : CsisEvents} {words : List U32}
    (h : s.events = mipiCsisEvents.map fun event => event.plus words) :
    mipiCsisLogCounters true s = countedLines s.debug words := by
  have hlines : (s.events.reverse.map fun event => (event.name, event.counter)) =
      mipiCsisEvents.reverse.map fun event =>
        (event.name, BitVec.ofNat 32 (hits event.mask words)) := by
    rw [h, ← List.map_reverse, List.map_map]
    refine List.map_congr_left fun event hevent => ?_
    have hzero := counters_zero event (List.mem_reverse.mp hevent)
    change (event.name, event.counter + BitVec.ofNat 32 _) = _
    rw [hzero, BitVec.zero_add]
  rw [mipiCsisLogCounters, if_pos rfl, List.take_length, countedLines, ← hlines, List.filter_map,
    List.map_map]
  rfl

/-- From the clearing of the counters on, in every interleaving of the receiver, the handler and
the subdev operations: the log has the exact counts of the words that were counted, and no
event is lost or counted twice. -/
theorem events_conserved {s : CsisEvents} (hheld : IrqHeld s) (hclear : s.events = mipiCsisEvents)
    {calls : List EventCall} (hcalls : Along eventStep Counting s calls) :
    mipiCsisLogCounters true (exec eventStep s calls) =
        countedLines (exec eventStep s calls).debug (countedWords s calls) ∧
      ∀ event ∈ mipiCsisEvents, Accounted event.mask s calls := by
  constructor
  · exact logCounters_plus (hclear ▸ events_exec hcalls)
  · intro event hevent
    obtain ⟨k, hk, hmask⟩ := single_bits event hevent
    refine ⟨?_, fun herror => passed_error herror s calls⟩
    have hops := along_view latchOf_step (fun _ _ => leavesHandler_of_counting) hcalls
    have hall := conserved (held_latchOf hheld) hops k
    rw [trace_latched, trace_served, trace_discarded, ← exec_view latchOf_step,
      waiting_latchOf, waiting_latchOf] at hall
    rw [hmask, ← hits_dealt]
    simpa only [hits_twoPow hk] using hall

def probedEvents : CsisEvents :=
  { intsrc := 0, irq := none, events := mipiCsisEvents, pktBuf := ⟨none, 0⟩, debug := false }

/-- An error that comes again while the handler runs, and a frame that ends before the handler
is done. -/
def busyHandler : List EventCall :=
  [.raise (mipiCsisIntsrcErrCrc ||| mipiCsisIntsrcFrameStart), .irqRead,
    .raise (mipiCsisIntsrcErrCrc ||| mipiCsisIntsrcFrameEnd), .irqUpdate, .irqWrite, .irqRead,
    .irqUpdate, .irqWrite]

theorem events_conserved_busyHandler :
    mipiCsisLogCounters true (exec eventStep probedEvents busyHandler) =
        countedLines (exec eventStep probedEvents busyHandler).debug
          (countedWords probedEvents busyHandler) ∧
      ∀ event ∈ mipiCsisEvents, Accounted event.mask probedEvents busyHandler := by
  have hheld : IrqHeld probedEvents := by decide
  have hcalls : Along eventStep Counting probedEvents busyHandler := by decide
  exact events_conserved hheld rfl hcalls

/-- The frame that ended without an error was not counted. -/
example : mipiCsisLogCounters true (exec eventStep probedEvents busyHandler) =
    [("Frame Start", 1), ("CRC Error", 1)] := by
  decide

/-- The packet buffer that is registered, with its length. -/
def CsisPktbuf.entry (pktbuf : CsisPktbuf) : List (Nat × U32) :=
  pktbuf.data.toList.map fun data => (data, pktbuf.len)

/-- The buffers that are handed over with `s_rx_buffer`, with the length it reports. -/
def handed (_ : CsisEvents) : EventCall → List (Nat × U32)
  | .sRxBuffer buf size =>
      CsisPktbuf.entry ⟨buf, if size < mipiCsisPktdataSize then size else mipiCsisPktdataSize⟩
  | _ => []

def copied (s : CsisEvents) : EventCall → List PktCopy
  | .irqUpdate =>
      match s.irq with
      | some ⟨status, false⟩ => (pktCopy status s.pktBuf).2
      | some ⟨_, true⟩ | none => []
  | _ => []

/-- The buffers that others replace before anything is copied into them. -/
def replaced (s : CsisEvents) : EventCall → List (Nat × U32)
  | .sRxBuffer .. => s.pktBuf.entry
  | _ => []

def PktCopy.entry (copy : PktCopy) : Nat × U32 := (copy.data, copy.len)

theorem pktCopy_entry (status : U32) (pktbuf : CsisPktbuf) :
    pktbuf.entry =
      (pktCopy status pktbuf).2.map PktCopy.entry ++ (pktCopy status pktbuf).1.entry := by
  obtain ⟨_ | data, len⟩ := pktbuf
  · rfl
  · unfold pktCopy
    dsimp only
    split <;> rfl

/-- What a step does to the buffers: those at hand and handed over are copied into, replaced,
or stay registered, in this order where nothing is replaced. -/
theorem buffers_step (s : CsisEvents) (call : EventCall) :
    s.pktBuf.entry ++ handed s call =
      (copied s call).map PktCopy.entry ++ replaced s call ++ (eventStep s call).pktBuf.entry := by
  cases call with
  | sRxBuffer buf size => rfl
  | irqUpdate =>
      obtain ⟨intsrc, _ | ⟨status, _ | _⟩, events, pktBuf, debug⟩ := s
      · exact List.append_nil _
      · change pktBuf.entry ++ [] = (pktCopy status pktBuf).2.map PktCopy.entry ++ [] ++
          (pktCopy status pktBuf).1.entry
        rw [List.append_nil, List.append_nil]
        exact pktCopy_entry status pktBuf
      · exact List.append_nil _
  | raise | irqRead | irqWrite | cleanIrq | clearCounters | setDebug =>
      obtain ⟨intsrc, _ | ⟨status, _ | _⟩, events, pktBuf, debug⟩ := s <;> exact List.append_nil _

theorem copied_sublist (s : CsisEvents) (calls : List EventCall) :
    List.Sublist ((trace eventStep copied s calls).map PktCopy.entry)
      (s.pktBuf.entry ++ trace eventStep handed s calls) := by
  induction calls generalizing s with
  | nil => exact List.nil_sublist _
  | cons call calls ih =>
      rw [trace, trace, List.map_append, ← List.append_assoc, buffers_step, List.append_assoc,
        List.append_assoc]
      refine List.Sublist.append_left ?_ _
      exact (ih (eventStep s call)).trans (List.sublist_append_right ..)

theorem buffers_perm (s : CsisEvents) (calls : List EventCall) :
    List.Perm (s.pktBuf.entry ++ trace eventStep handed s calls)
      ((trace eventStep copied s calls).map PktCopy.entry ++
        (trace eventStep replaced s calls ++ (exec eventStep s calls).pktBuf.entry)) := by
  induction calls generalizing s with
  | nil => simp [trace]
  | cons call calls ih =>
      rw [trace, trace, trace, List.map_append, ← List.append_assoc, buffers_step, exec_cons,
        List.append_assoc, List.append_assoc, List.append_assoc]
      refine List.Perm.append_left _ (((ih (eventStep s call)).append_left _).trans ?_)
      rw [List.append_assoc (replaced s call)]
      exact List.perm_append_comm_assoc ..

/-- The registered buffer is no longer than a page. -/
def PageFits (s : CsisEvents) : Prop := ∀ entry ∈ s.pktBuf.entry, entry.2 ≤ mipiCsisPktdataSize

instance (s : CsisEvents) : Decidable (PageFits s) :=
  inferInstanceAs (Decidable (∀ entry ∈ s.pktBuf.entry, _))

theorem handed_fits (s : CsisEvents) (call : EventCall) :
    ∀ entry ∈ handed s call, entry.2 ≤ mipiCsisPktdataSize := by
  cases call with
  | sRxBuffer buf size =>
      intro entry hentry
      obtain ⟨data, -, rfl⟩ := List.mem_map.mp hentry
      dsimp only
      split
      · rename_i hlt
        exact BitVec.le_of_lt hlt
      · exact BitVec.le_refl _
  | raise | irqRead | irqUpdate | irqWrite | cleanIrq | clearCounters | setDebug =>
      intro entry hentry
      exact absurd hentry List.not_mem_nil

theorem pktCopy_offset (status : U32) (pktbuf : CsisPktbuf) :
    ∀ copy ∈ (pktCopy status pktbuf).2,
      copy.offset = mipiCsisPktdataOdd ∨ copy.offset = mipiCsisPktdataEven := by
  obtain ⟨_ | data, len⟩ := pktbuf
  · intro copy hcopy
    exact absurd hcopy List.not_mem_nil
  · unfold pktCopy
    dsimp only
    split
    · intro copy hcopy
      obtain rfl := List.mem_singleton.mp hcopy
      dsimp only
      split
      · exact .inr rfl
      · exact .inl rfl
    · intro copy hcopy
      exact absurd hcopy List.not_mem_nil

theorem copied_offset (s : CsisEvents) (call : EventCall) :
    ∀ copy ∈ copied s call,
      copy.offset = mipiCsisPktdataOdd ∨ copy.offset = mipiCsisPktdataEven := by
  obtain ⟨intsrc, irq, events, pktBuf, debug⟩ := s
  cases call with
  | irqUpdate =>
      rcases irq with _ | ⟨status, _ | _⟩
      · exact fun copy hcopy => absurd hcopy List.not_mem_nil
      · exact pktCopy_offset status pktBuf
      · exact fun copy hcopy => absurd hcopy List.not_mem_nil
  | raise | irqRead | irqWrite | cleanIrq | clearCounters | sRxBuffer | setDebug =>
      exact fun copy hcopy => absurd hcopy List.not_mem_nil

/-- Over every run, each packet buffer that is handed over is copied into once, or replaced
before, or still registered; the copies come in the order of the buffers, and none reads
beyond the page of the frame's parity. -/
theorem buffers_filled {s : CsisEvents} (hfits : PageFits s) (calls : List EventCall) :
    List.Perm (s.pktBuf.entry ++ trace eventStep handed s calls)
        ((trace eventStep copied s calls).map PktCopy.entry ++
          (trace eventStep replaced s calls ++ (exec eventStep s calls).pktBuf.entry)) ∧
      List.Sublist ((trace eventStep copied s calls).map PktCopy.entry)
        (s.pktBuf.entry ++ trace eventStep handed s calls) ∧
      ∀ copy ∈ trace eventStep copied s calls, copy.len ≤ mipiCsisPktdataSize ∧
        (copy.offset = mipiCsisPktdataOdd ∨ copy.offset = mipiCsisPktdataEven) := by
  have hhanded : ∀ entry ∈ trace eventStep handed s calls, entry.2 ≤ mipiCsisPktdataSize :=
    forall_mem_trace (I := fun _ => True) (fun s call _ => ⟨handed_fits s call, trivial⟩)
      trivial calls
  have hoffset : ∀ copy ∈ trace eventStep copied s calls,
      copy.offset = mipiCsisPktdataOdd ∨ copy.offset = mipiCsisPktdataEven :=
    forall_mem_trace (I := fun _ => True) (fun s call _ => ⟨copied_offset s call, trivial⟩)
      trivial calls
  refine ⟨buffers_perm s calls, copied_sublist s calls, fun copy hcopy => ?_⟩
  refine ⟨?_, hoffset copy hcopy⟩
  have hentry := (copied_sublist s calls).mem (List.mem_map_of_mem hcopy)
  rcases List.mem_append.mp hentry with hbefore | hafter
  · exact hfits _ hbefore
  · exact hhanded _ hafter

/-- Two buffers of which the first is replaced before the interrupt comes to the copy. -/
def twoBuffers : List EventCall :=
  [.sRxBuffer (some 0x1000) 8192, .raise mipiCsisIntsrcOddAfter, .irqRead,
    .sRxBuffer (some 0x9000) 64, .irqUpdate, .irqWrite]

theorem buffers_filled_twoBuffers :
    List.Perm (trace eventStep handed probedEvents twoBuffers)
        ((trace eventStep copied probedEvents twoBuffers).map PktCopy.entry ++
          (trace eventStep replaced probedEvents twoBuffers ++
            (exec eventStep probedEvents twoBuffers).pktBuf.entry)) := by
  have hfits : PageFits probedEvents := by decide
  exact (buffers_filled hfits twoBuffers).1

end CameraPorting.Csis.Events
