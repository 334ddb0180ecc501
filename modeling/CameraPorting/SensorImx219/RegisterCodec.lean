import CameraPorting.Kernel.I2cMessages
import CameraPorting.SensorImx219.Driver

namespace CameraPorting.SensorImx219.RegisterCodec

open CameraPorting.Kernel.Media
open CameraPorting.Kernel.I2c
open CameraPorting.Kernel.I2cMessages
open CameraPorting.Library.ByteMemory
open CameraPorting.SensorImx219.RegisterLists
open CameraPorting.SensorImx219.Driver (Imx219Client storeBytes)

def imx219ReadReg (reg : U16) (len : Nat) : Driver BusClient U32 := fun client =>
  let addrBuf : List U8 := [(reg >>> 8).setWidth 8, (reg &&& 0xff#16).setWidth 8]
  if 4 < len then (.error .einval, client)
  else
    match i2cTransferMessages [.write addrBuf, .read len] client with
    -- the bytes fill the end of a buffer of zeros
    | (.ok data, client) =>
        (.ok (getUnalignedBe32 (List.replicate (4 - len) 0 ++ data)), client)
    | (.error _, client) => (.error .eio, client)

def imx219WriteReg (reg : U16) (len : Nat) (val : U32) : Driver BusClient Unit := fun client =>
  if 4 < len then (.error .einval, client)
  else
    let buf := putUnalignedBe16 reg ++ putUnalignedBe32 (val <<< (8 * (4 - len)))
    match i2cMasterSend (buf.take (len + 2)) client with
    | (.ok (), client) => (.ok (), client)
    | (.error _, client) => (.error .eio, client)

def imx219WriteRegs : List Imx219Reg → Driver BusClient Unit
  | [] => pure ()
  | ⟨address, val⟩ :: rest => do
      imx219WriteReg address 1 (val.setWidth 32)
      imx219WriteRegs rest

def imx219RegChipId : U16 := 0x0000#16
def imx219ChipId : U32 := 0x0219

def imx219IdentifyModule : Driver BusClient Unit := do
  let val ← imx219ReadReg imx219RegChipId 2
  if val ≠ imx219ChipId then throw .eio

/-- The shift moves the bytes of the value to the front of its buffer. -/
theorem writeBuffer_eq {len : Nat} (hlen : len ≤ 4) (reg : U16) (val : U32) :
    (putUnalignedBe16 reg ++ putUnalignedBe32 (val <<< (8 * (4 - len)))).take (len + 2) =
      bigEndian 2 reg.toNat ++ bigEndian len val.toNat := by
  obtain ⟨k, hk⟩ := Nat.exists_eq_add_of_le hlen
  have hshift : (val <<< (8 * k)).toNat = val.toNat * 256 ^ k % 256 ^ (len + k) := by
    rw [BitVec.toNat_shiftLeft, Nat.shiftLeft_eq, Nat.pow_mul, ← hk]
    rfl
  rw [putUnalignedBe16_eq, putUnalignedBe32_eq, hk, Nat.add_sub_cancel_left, hshift,
    Nat.add_comm len 2, ← take_bigEndian_shifted len k val.toNat]
  exact @List.take_length_add_append _ (bigEndian 2 reg.toNat) _ len

theorem addrBuf_eq (reg : U16) :
    [(reg >>> 8).setWidth 8, (reg &&& 0xff#16).setWidth 8] = bigEndian 2 reg.toNat := by
  rw [← putUnalignedBe16_eq, putUnalignedBe16]
  have hlow : (reg &&& 0xff#16).setWidth 8 = reg.setWidth 8 := by
    rw [BitVec.setWidth_and]
    exact BitVec.and_allOnes
  rw [hlow]

theorem writeReg_run {len : Nat} (hlen : len ≤ 4) (reg : U16) (val : U32) (client : BusClient) :
    (NoFault 1 client.faults ∧ imx219WriteReg reg len val client =
        (.ok (), ⟨client.chip.after
            [.write (bigEndian 2 reg.toNat ++ bigEndian len val.toNat)],
          client.faults.drop 1⟩)) ∨
      (¬NoFault 1 client.faults ∧ imx219WriteReg reg len val client =
        (.error .eio, ⟨client.chip, client.faults.drop 1⟩)) := by
  unfold imx219WriteReg i2cMasterSend
  dsimp only
  rw [if_neg (Nat.not_lt.mpr hlen), writeBuffer_eq hlen]
  rcases i2cTransferMessages_run
    [.write (bigEndian 2 reg.toNat ++ bigEndian len val.toNat)] client with
    ⟨hok, hrun⟩ | ⟨hfault, e, hrun⟩
  · rw [hrun]
    exact .inl ⟨hok, rfl⟩
  · rw [hrun]
    exact .inr ⟨hfault, rfl⟩

theorem after_write_device (bus : I2cBus) (reg : U16) (bytes : List U8) :
    (bus.after [.write (bigEndian 2 reg.toNat ++ bytes)]).device = bus.device.stored reg bytes := by
  unfold I2cBus.after RegisterDevice.messages
  rw [message_write]
  rfl

/-- A write that succeeds has sent its bytes, and they have reached the device. -/
theorem writeReg_inv {len : Nat} (hlen : len ≤ 4) {reg : U16} {val : U32}
    {client after : BusClient} (hrun : imx219WriteReg reg len val client = (.ok (), after)) :
    after.chip.device = client.chip.device.stored reg (bigEndian len val.toNat) ∧
      after.chip.transfers =
        [.write (bigEndian 2 reg.toNat ++ bigEndian len val.toNat)] :: client.chip.transfers := by
  rcases writeReg_run hlen reg val client with ⟨-, hwritten⟩ | ⟨-, hfailed⟩
  · obtain ⟨-, rfl⟩ := Prod.mk.inj (hwritten.symm.trans hrun)
    exact ⟨after_write_device client.chip reg _, rfl⟩
  · exact absurd (congrArg Prod.fst (hfailed.symm.trans hrun)) nofun

theorem readReg_run {len : Nat} (hlen : len ≤ 4) (reg : U16) (client : BusClient) :
    (imx219ReadReg reg len client).1 = if NoFault 1 client.faults then
      .ok (BitVec.ofNat 32 (ofBigEndian (loadAll len reg client.chip.device.regs)))
    else .error .eio := by
  have hbytes : (client.chip.device.messages
      [.write (bigEndian 2 reg.toNat), .read len]).1 =
        loadAll len reg client.chip.device.regs := by
    unfold RegisterDevice.messages
    rw [← List.append_nil (bigEndian 2 reg.toNat), message_write]
    change loadAll len (reg + 0#16) _ ++ [] = _
    rw [BitVec.add_zero, List.append_nil]
    rfl
  have hbuf : (List.replicate (4 - len) 0#8 ++
      loadAll len reg client.chip.device.regs).length = 4 := by
    rw [List.length_append, List.length_replicate, length_loadAll]
    omega
  have hval : getUnalignedBe32 (List.replicate (4 - len) 0#8 ++
      loadAll len reg client.chip.device.regs) =
        BitVec.ofNat 32 (ofBigEndian (loadAll len reg client.chip.device.regs)) := by
    apply BitVec.eq_of_toNat_eq
    rw [← ofBigEndian_replicate_zero (4 - len), ← getUnalignedBe32_toNat hbuf,
      BitVec.ofNat_toNat, BitVec.setWidth_eq]
  unfold imx219ReadReg
  dsimp only
  rw [if_neg (Nat.not_lt.mpr hlen), addrBuf_eq]
  rcases i2cTransferMessages_run [.write (bigEndian 2 reg.toNat), .read len] client with
    ⟨hok, hrun⟩ | ⟨hfault, e, hrun⟩
  · rw [hrun, if_pos hok, hbytes]
    exact congrArg Except.ok hval
  · rw [hrun, if_neg hfault]

def storeReg (device : RegisterDevice) (reg : Imx219Reg) : RegisterDevice :=
  ⟨Function.update device.regs reg.address reg.val, reg.address + 1⟩

/-- Where a list of writes stops: after its first `n` ones, of which none fails, because the
next one fails or there is none. -/
structure StopsAfter (list : List Imx219Reg) (client : BusClient) (n : Nat) : Prop where
  le : n ≤ list.length
  first : ∃ t, imx219WriteRegs (list.take n) client = (.ok (), t) ∧
    ∀ reg, list[n]? = some reg →
      (imx219WriteReg reg.address 1 (reg.val.setWidth 32) t).1 = .error .eio
  device : (imx219WriteRegs list client).2.chip.device =
    (list.take n).foldl storeReg client.chip.device
  result : (imx219WriteRegs list client).1 = if n = list.length then .ok () else .error .eio

theorem stored_byte (device : RegisterDevice) (reg : Imx219Reg) :
    device.stored reg.address (bigEndian 1 (reg.val.setWidth 32 : U32).toNat) =
      storeReg device reg := by
  have hbyte : bigEndian 1 (reg.val.setWidth 32 : U32).toNat = [reg.val] := by
    rw [BitVec.toNat_setWidth_of_le (by decide)]
    simp [bigEndian]
  rw [hbyte]
  rfl

theorem writeRegs_cons (reg : Imx219Reg) (rest : List Imx219Reg) (client : BusClient) :
    (∃ t, NoFault 1 client.faults ∧
        imx219WriteReg reg.address 1 (reg.val.setWidth 32) client = (.ok (), t) ∧
        imx219WriteRegs (reg :: rest) client = imx219WriteRegs rest t ∧
        t.chip.device = storeReg client.chip.device reg ∧ t.faults = client.faults.drop 1) ∨
      (¬NoFault 1 client.faults ∧
        (imx219WriteReg reg.address 1 (reg.val.setWidth 32) client).1 = .error .eio ∧
        imx219WriteRegs (reg :: rest) client =
          (.error .eio, ⟨client.chip, client.faults.drop 1⟩)) := by
  rcases writeReg_run (show 1 ≤ 4 by decide) reg.address (reg.val.setWidth 32) client with
    ⟨hok, hrun⟩ | ⟨hfault, hrun⟩
  · refine .inl ⟨_, hok, hrun, driver_bind_ok hrun _, ?_, rfl⟩
    rw [← stored_byte]
    exact after_write_device client.chip reg.address _
  · exact .inr ⟨hfault, congrArg Prod.fst hrun, driver_bind_error hrun _⟩

theorem writeRegs_stopsAfter (list : List Imx219Reg) (client : BusClient) :
    ∃ n, StopsAfter list client n := by
  induction list generalizing client with
  | nil => exact ⟨0, Nat.le_refl 0, ⟨client, rfl, nofun⟩, rfl, rfl⟩
  | cons reg rest ih =>
      rcases writeRegs_cons reg rest client with
        ⟨t, -, hwrite, hrest, hdevice, -⟩ | ⟨-, hwrite, hrun⟩
      · obtain ⟨n, hstops⟩ := ih t
        obtain ⟨u, hfirst, hnext⟩ := hstops.first
        refine ⟨n + 1, Nat.succ_le_succ hstops.le, ⟨u, ?_, hnext⟩, ?_, ?_⟩
        · exact (driver_bind_ok hwrite _).trans hfirst
        · rw [hrest, hstops.device, hdevice]
          rfl
        · rw [hrest, hstops.result]
          simp
      · refine ⟨0, Nat.zero_le _, ⟨client, rfl, fun next hnext => ?_⟩, ?_, ?_⟩
        · rw [← Option.some.inj hnext]
          exact hwrite
        · rw [hrun]
          rfl
        · rw [hrun]
          rfl

theorem writeRegs_noFault {list : List Imx219Reg} {client : BusClient}
    (hok : NoFault list.length client.faults) :
    (imx219WriteRegs list client).1 = .ok () ∧
      (imx219WriteRegs list client).2.chip.device = list.foldl storeReg client.chip.device := by
  induction list generalizing client with
  | nil => exact ⟨rfl, rfl⟩
  | cons reg rest ih =>
      rw [List.length_cons, Nat.add_comm, noFault_add] at hok
      rcases writeRegs_cons reg rest client with
        ⟨t, -, -, hrest, hdevice, hfaults⟩ | ⟨hfault, -⟩
      · rw [← hfaults] at hok
        rw [hrest, List.foldl_cons, ← hdevice]
        exact ih hok.2
      · exact absurd hok.1 hfault

def oneByteWrites : U16 → List U8 → List Imx219Reg
  | _, [] => []
  | reg, byte :: rest => ⟨reg, byte⟩ :: oneByteWrites (reg + 1) rest

theorem length_oneByteWrites (reg : U16) (bytes : List U8) :
    (oneByteWrites reg bytes).length = bytes.length := by
  induction bytes generalizing reg with
  | nil => rfl
  | cons byte rest ih => rw [oneByteWrites, List.length_cons, List.length_cons, ih]

theorem foldl_oneByteWrites {bytes : List U8} (hbytes : bytes ≠ []) (reg : U16)
    (device : RegisterDevice) :
    (oneByteWrites reg bytes).foldl storeReg device = device.stored reg bytes := by
  induction bytes generalizing reg device with
  | nil => exact absurd rfl hbytes
  | cons byte rest ih =>
      rw [oneByteWrites, List.foldl_cons]
      rcases rest with _ | ⟨next, rest⟩
      · rfl
      · rw [ih (List.cons_ne_nil next rest), RegisterDevice.stored, add_one_add]
        rfl

theorem chipId_iff (high low : U8) :
    BitVec.ofNat 32 (ofBigEndian [high, low]) = imx219ChipId ↔ high = 0x02#8 ∧ low = 0x19#8 := by
  have hhigh := high.isLt
  have hlow := low.isLt
  rw [← BitVec.toNat_inj, ← BitVec.toNat_inj, ← BitVec.toNat_inj]
  change (256 ^ 1 * high.toNat + (256 ^ 0 * low.toNat + 0)) % 2 ^ 32 = 0x219 ↔
    high.toNat = 2 ∧ low.toNat = 0x19
  omega

/-- The module is the one it should be exactly when its first two registers hold the id. -/
theorem identifyModule_ok_iff (client : BusClient) :
    (imx219IdentifyModule client).1 = .ok () ↔ NoFault 1 client.faults ∧
      client.chip.device.regs 0x0000#16 = 0x02#8 ∧ client.chip.device.regs 0x0001#16 = 0x19#8 := by
  have hread := readReg_run (show 2 ≤ 4 by decide) imx219RegChipId client
  rcases hrun : imx219ReadReg imx219RegChipId 2 client with ⟨e | val, t⟩
  · rw [hrun] at hread
    have hfault : ¬NoFault 1 client.faults := by
      intro hok
      rw [if_pos hok] at hread
      exact absurd hread nofun
    rw [imx219IdentifyModule, driver_bind_error hrun]
    exact ⟨nofun, fun h => absurd h.1 hfault⟩
  · rw [hrun] at hread
    have hok : NoFault 1 client.faults := by
      by_contra hfault
      rw [if_neg hfault] at hread
      exact absurd hread nofun
    rw [if_pos hok] at hread
    rw [imx219IdentifyModule, driver_bind_ok hrun, ← chipId_iff]
    change _ ↔ _ ∧ BitVec.ofNat 32 (ofBigEndian (loadAll 2 imx219RegChipId _)) = _
    rw [← Except.ok.inj hread]
    by_cases hval : val = imx219ChipId
    · rw [if_neg (not_not.mpr hval)]
      exact ⟨fun _ => ⟨hok, hval⟩, fun _ => rfl⟩
    · rw [if_pos hval]
      exact ⟨nofun, fun h => absurd h.2 hval⟩

/-- The two models of the sensor hold the same registers and wait for the same transfers. -/
structure Sees (bus : BusClient) (client : Imx219Client) : Prop where
  regs : bus.chip.device.regs = client.chip.regs
  faults : bus.faults = client.faults

theorem storeBytes_eq (val : U32) (len : Nat) (reg : U16) (regs : U16 → U8) :
    storeBytes val len reg regs = storeAll (bigEndian len val.toNat) reg regs := by
  induction len generalizing reg regs with
  | zero => rfl
  | succ len ih =>
      rw [storeBytes, byte_eq, ih]
      rfl

/-- The driver's model of a write is that of its bytes, whatever the value and the outcome. -/
theorem simulates_writeReg (reg : U16) (len : Nat) (val : U32) :
    Simulates Sees (imx219WriteReg reg len val) (Driver.imx219WriteReg reg len val) := by
  intro bus client h
  rcases Nat.lt_or_ge 4 len with hlong | hlen
  · rw [Driver.writeReg_tooLong hlong]
    unfold imx219WriteReg
    rw [if_pos hlong]
    exact ⟨rfl, h⟩
  · obtain ⟨after, hfaults, -, hdriver⟩ := Driver.writeReg_run hlen reg val client
    rw [← h.faults] at hfaults hdriver
    rcases writeReg_run hlen reg val bus with ⟨hok, hrun⟩ | ⟨hfault, hrun⟩
    · obtain ⟨-, hdriver, hregs⟩ := hdriver.resolve_right fun hfailed => hfailed.1 hok
      rw [hrun, hdriver]
      refine ⟨rfl, ?_, hfaults.symm⟩
      change (bus.chip.after _).device.regs = _
      rw [after_write_device, hregs, storeBytes_eq, ← h.regs]
      rfl
    · obtain ⟨-, hdriver, hregs⟩ := hdriver.resolve_left fun hwritten => hfault hwritten.1
      rw [hrun, hdriver]
      exact ⟨rfl, h.regs.trans hregs.symm, hfaults.symm⟩

theorem simulates_writeRegs (list : List Imx219Reg) :
    Simulates Sees (imx219WriteRegs list) (Driver.imx219WriteRegs list) := by
  induction list with
  | nil => exact simulates_pure ()
  | cons reg rest ih =>
      exact simulates_bind (simulates_writeReg reg.address 1 (reg.val.setWidth 32)) fun _ => ih

/-- What a write of `val` to `len` registers from `reg` on has done. -/
structure Written (reg : U16) (len : Nat) (val : U32) (client after : BusClient) : Prop where
  sent : after.chip.transfers =
    [.write (bigEndian 2 reg.toNat ++ bigEndian len val.toNat)] :: client.chip.transfers
  oneByOne : ∀ other : BusClient, other.chip.device = client.chip.device →
    NoFault len other.faults →
      (imx219WriteRegs (oneByteWrites reg (bigEndian len val.toNat)) other).1 = .ok () ∧
        (imx219WriteRegs (oneByteWrites reg (bigEndian len val.toNat)) other).2.chip.device =
          after.chip.device
  others : ∀ r, (∀ i < len, r ≠ reg + BitVec.ofNat 16 i) →
    after.chip.device.regs r = client.chip.device.regs r
  readBack : (imx219ReadReg reg len after).1 =
    if NoFault 1 after.faults then .ok val else .error .eio

theorem written_of_run {reg : U16} {len : Nat} {val : U32} {client after : BusClient}
    (hpos : 1 ≤ len) (hlen : len ≤ 4) (hval : val.toNat < 256 ^ len)
    (hrun : imx219WriteReg reg len val client = (.ok (), after)) :
    Written reg len val client after := by
  obtain ⟨hdevice, hsent⟩ := writeReg_inv hlen hrun
  have hlength : (bigEndian len val.toNat).length = len := length_bigEndian len val.toNat
  have hnonempty : bigEndian len val.toNat ≠ [] := by
    apply List.ne_nil_of_length_pos
    rwa [hlength]
  refine ⟨hsent, fun other hother hok => ?_, fun r hr => ?_, ?_⟩
  · have hone := @writeRegs_noFault (oneByteWrites reg (bigEndian len val.toNat)) other
      (by rwa [length_oneByteWrites, hlength])
    rw [foldl_oneByteWrites hnonempty, hother, ← hdevice] at hone
    exact hone
  · rw [hdevice]
    apply storeAll_of_ne
    rwa [hlength]
  · have hload : loadAll len reg after.chip.device.regs = bigEndian len val.toNat := by
      have hsmall : (bigEndian len val.toNat).length ≤ 2 ^ 16 := by
        rw [hlength]
        exact hlen.trans (by decide)
      have hback := loadAll_storeAll hsmall reg client.chip.device.regs
      rw [hlength] at hback
      rw [hdevice]
      exact hback
    rw [readReg_run hlen, hload, ofBigEndian_bigEndian, Nat.mod_eq_of_lt hval, BitVec.ofNat_toNat,
      BitVec.setWidth_eq]

/-- Writes and reads of registers agree byte by byte, and a list of writes stops at the first
one that fails. -/
theorem register_codec :
    (∀ (reg : U16) (len : Nat) (val : U32) (client after : BusClient), 1 ≤ len → len ≤ 4 →
      val.toNat < 256 ^ len → imx219WriteReg reg len val client = (.ok (), after) →
        Written reg len val client after) ∧
      ∀ (list : List Imx219Reg) (client : BusClient), ∃ n, StopsAfter list client n :=
  ⟨fun _ _ _ _ _ hpos hlen hval hrun => written_of_run hpos hlen hval hrun,
    writeRegs_stopsAfter⟩

def blankClient : BusClient := ⟨⟨⟨fun _ => 0#8, 0#16⟩, []⟩, []⟩

/-- Four bytes that go round the end of the addresses. -/
theorem register_codec_wrapped :
    Written 0xfffe#16 4 0x01020304 blankClient
      (imx219WriteReg 0xfffe#16 4 0x01020304 blankClient).2 :=
  register_codec.1 0xfffe#16 4 0x01020304 blankClient _ (by decide) (by decide) (by decide) rfl

end CameraPorting.SensorImx219.RegisterCodec
