import CameraPorting.Kernel.I2c
import CameraPorting.Library.ByteMemory

namespace CameraPorting.Kernel.I2cMessages

open CameraPorting.Kernel.Media
open CameraPorting.Kernel.I2c
open CameraPorting.Library.ByteMemory

def putUnalignedBe16 (val : U16) : List U8 := [(val >>> 8).setWidth 8, val.setWidth 8]

def putUnalignedBe32 (val : U32) : List U8 :=
  [(val >>> 24).setWidth 8, (val >>> 16).setWidth 8, (val >>> 8).setWidth 8, val.setWidth 8]

def getUnalignedBe32 (buf : List U8) : U32 :=
  (buf.getD 0 0).setWidth 32 <<< 24 ||| (buf.getD 1 0).setWidth 32 <<< 16 |||
    (buf.getD 2 0).setWidth 32 <<< 8 ||| (buf.getD 3 0).setWidth 32

theorem putUnalignedBe16_eq (val : U16) : putUnalignedBe16 val = bigEndian 2 val.toNat := by
  change _ = [BitVec.ofNat 8 (val.toNat / 256 ^ 1), BitVec.ofNat 8 (val.toNat / 256 ^ 0)]
  rw [← byte_eq, ← byte_eq, Nat.mul_zero, BitVec.ushiftRight_zero]
  rfl

theorem putUnalignedBe32_eq (val : U32) : putUnalignedBe32 val = bigEndian 4 val.toNat := by
  change _ = [BitVec.ofNat 8 (val.toNat / 256 ^ 3), BitVec.ofNat 8 (val.toNat / 256 ^ 2),
    BitVec.ofNat 8 (val.toNat / 256 ^ 1), BitVec.ofNat 8 (val.toNat / 256 ^ 0)]
  rw [← byte_eq, ← byte_eq, ← byte_eq, ← byte_eq, Nat.mul_zero, BitVec.ushiftRight_zero]
  rfl

theorem toNat_append_byte {w : Nat} (v : BitVec w) (b : U8) :
    (v ++ b).toNat = 256 * v.toNat + b.toNat := by
  rw [BitVec.toNat_append, ← Nat.shiftLeft_add_eq_or_of_lt b.isLt, Nat.shiftLeft_eq, Nat.mul_comm]

theorem getUnalignedBe32_toNat {buf : List U8} (h : buf.length = 4) :
    (getUnalignedBe32 buf).toNat = ofBigEndian buf := by
  obtain ⟨a, b, c, d, rfl⟩ : ∃ a b c d, buf = [a, b, c, d] := List.length_eq_four.mp h
  have hjoin : getUnalignedBe32 [a, b, c, d] = (((a ++ b) ++ c) ++ d : BitVec 32) := by
    apply BitVec.eq_of_getLsbD_eq
    intro i hi
    simp [getUnalignedBe32]
    grind
  rw [hjoin, toNat_append_byte, toNat_append_byte, toNat_append_byte]
  simp only [ofBigEndian, List.length_cons, List.length_nil]
  omega

inductive I2cMsg where
  | write (buf : List U8)
  | read (len : Nat)
  deriving DecidableEq, Repr

/-- A device of byte registers. The first two bytes it is sent are the address of a
register, which moves on by one with every further byte either way. -/
structure RegisterDevice where
  regs : U16 → U8
  address : U16

def RegisterDevice.message : I2cMsg → RegisterDevice → List U8 × RegisterDevice
  | .write (high :: low :: data), device =>
      ([], ⟨storeAll data (high ++ low) device.regs, (high ++ low) + BitVec.ofNat 16 data.length⟩)
  | .write _, device => ([], device)
  | .read len, device =>
      (loadAll len device.address device.regs,
        { device with address := device.address + BitVec.ofNat 16 len })

def RegisterDevice.stored (device : RegisterDevice) (reg : U16) (bytes : List U8) :
    RegisterDevice :=
  ⟨storeAll bytes reg device.regs, reg + BitVec.ofNat 16 bytes.length⟩

theorem message_write (device : RegisterDevice) (reg : U16) (bytes : List U8) :
    device.message (.write (bigEndian 2 reg.toNat ++ bytes)) = ([], device.stored reg bytes) := by
  have hreg : BitVec.ofNat 8 (reg.toNat / 256 ^ 1) ++ BitVec.ofNat 8 (reg.toNat / 256 ^ 0) =
      reg := by
    apply BitVec.eq_of_toNat_eq
    rw [toNat_append_byte, BitVec.toNat_ofNat, BitVec.toNat_ofNat]
    omega
  change ([], RegisterDevice.mk (storeAll bytes (_ ++ _) _) (_ ++ _ + _)) = _
  rw [hreg]
  rfl

/-- The messages of one transfer in turn, with all the bytes that the device gives. -/
def RegisterDevice.messages : List I2cMsg → RegisterDevice → List U8 × RegisterDevice
  | [], device => ([], device)
  | msg :: rest, device =>
      let (data, device) := device.message msg
      let (more, device) := device.messages rest
      (data ++ more, device)

structure I2cBus where
  device : RegisterDevice
  transfers : List (List I2cMsg)

abbrev BusClient := I2cClient I2cBus

def I2cBus.after (bus : I2cBus) (msgs : List I2cMsg) : I2cBus :=
  ⟨(bus.device.messages msgs).2, msgs :: bus.transfers⟩

/-- `i2c_transfer`, with the bytes it reads; the count it returns is that of the messages.
A transfer that fails does not reach the device. -/
def i2cTransferMessages (msgs : List I2cMsg) : Driver BusClient (List U8) := fun client =>
  match i2cTransfer client with
  | (.ok (), client) =>
      (.ok (client.chip.device.messages msgs).1, { client with chip := client.chip.after msgs })
  | (.error e, client) => (.error e, client)

/-- `i2c_master_send`; the count it returns is that of the bytes. -/
def i2cMasterSend (buf : List U8) : Driver BusClient Unit := fun client =>
  match i2cTransferMessages [.write buf] client with
  | (.ok _, client) => (.ok (), client)
  | (.error e, client) => (.error e, client)

/-- Whether the next transfer goes through decides about everything it does. -/
theorem i2cTransferMessages_run (msgs : List I2cMsg) (client : BusClient) :
    (NoFault 1 client.faults ∧ i2cTransferMessages msgs client =
        (.ok (client.chip.device.messages msgs).1,
          ⟨client.chip.after msgs, client.faults.drop 1⟩)) ∨
      (¬NoFault 1 client.faults ∧ ∃ e, i2cTransferMessages msgs client =
        (.error e, ⟨client.chip, client.faults.drop 1⟩)) := by
  unfold i2cTransferMessages
  rcases i2cTransfer_run client with ⟨hok, hrun⟩ | ⟨hfault, e, hrun⟩
  · rw [hrun]
    exact .inl ⟨hok, rfl⟩
  · rw [hrun]
    exact .inr ⟨hfault, e, rfl⟩

end CameraPorting.Kernel.I2cMessages
