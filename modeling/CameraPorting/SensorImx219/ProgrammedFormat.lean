import CameraPorting.Library.MaskedWrites
import CameraPorting.SensorImx219.StreamState

namespace CameraPorting.SensorImx219.ProgrammedFormat

open CameraPorting.Kernel.Media
open CameraPorting.Kernel.I2c
open CameraPorting.Library.Runs
open CameraPorting.Library.MaskedWrites
open CameraPorting.SensorImx219.Sensor hiding imx219GetFormatCode imx219GetPadFormat
  imx219SetPadFormat updateExposure updateLimits
open CameraPorting.SensorImx219.RegisterLists
open CameraPorting.SensorImx219.Driver
open CameraPorting.SensorImx219.StreamState

/-- A register list as a program of whole-register writes. -/
def regOps (list : List Imx219Reg) : List (MaskedWrite U16 8) :=
  list.map fun reg => MaskedWrite.full reg.address reg.val

/-- The list `imx219_set_framefmt` writes for a code. -/
def framefmtRegs (code : U32) : List Imx219Reg :=
  if code ∈ raw8Codes then raw8FramefmtRegs
  else if code ∈ raw10Codes then raw10FramefmtRegs
  else []

/-- The mode list and the frame-format list of a mode and a code. -/
def programRegs (mode : Imx219Mode) (code : U32) : List Imx219Reg :=
  imx219RegList mode ++ framefmtRegs code

def codeDepth (code : U32) : Nat :=
  if code ∈ raw8Codes then 8
  else if code ∈ raw10Codes then 10
  else 0

theorem raw_of_mem_codes {code : U32} (h : code ∈ imx219Codes) :
    code ∈ raw8Codes ∨ (code ∉ raw8Codes ∧ code ∈ raw10Codes) := by
  have hsplit : code ∈ raw10Codes ++ raw8Codes := h
  rcases Decidable.em (code ∈ raw8Codes) with hraw8 | hraw8
  · exact .inl hraw8
  · exact .inr ⟨hraw8, (List.mem_append.mp hsplit).resolve_right hraw8⟩

theorem code_depth {code : U32} (h : code ∈ imx219Codes) :
    (framefmtRegs code = raw10FramefmtRegs ∧ codeDepth code = 10) ∨
      (framefmtRegs code = raw8FramefmtRegs ∧ codeDepth code = 8) := by
  unfold framefmtRegs codeDepth
  rcases raw_of_mem_codes h with hraw8 | ⟨hraw8, hraw10⟩
  · rw [if_pos hraw8, if_pos hraw8]
    exact .inr ⟨rfl, rfl⟩
  · rw [if_neg hraw8, if_neg hraw8, if_pos hraw10, if_pos hraw10]
    exact .inl ⟨rfl, rfl⟩

/-- The registers hold what the list writes, but for the one that starts and stops the
stream. -/
def Programmed (list : List Imx219Reg) (regs : U16 → U8) : Prop :=
  ∀ reg ∈ list, reg.address ≠ imx219RegModeSelect →
    regs reg.address = run (regOps list) (fun _ => 0) reg.address

theorem touched_regOps {list : List Imx219Reg} {reg : Imx219Reg} (hmem : reg ∈ list) :
    touched reg.address (regOps list) = BitVec.allOnes 8 :=
  touched_eq_allOnes (show MaskedWrite.full reg.address reg.val ∈ regOps list from
    List.mem_map.mpr ⟨reg, hmem, rfl⟩) rfl

/-- A list that was written is programmed, and stays so while its registers are kept. -/
theorem programmed_of_run {list : List Imx219Reg} {regs before : U16 → U8}
    (h : ∀ reg ∈ list, reg.address ≠ imx219RegModeSelect →
      regs reg.address = run (regOps list) before reg.address) : Programmed list regs := by
  intro reg hmem hselect
  rw [h reg hmem hselect]
  exact run_determined (touched_regOps hmem) before _

theorem Programmed.congr {list : List Imx219Reg} {regs regs' : U16 → U8}
    (h : Programmed list regs)
    (hkept : ∀ reg ∈ list, reg.address ≠ imx219RegModeSelect →
      regs' reg.address = regs reg.address) : Programmed list regs' := by
  intro reg hmem hselect
  rw [hkept reg hmem hselect]
  exact h reg hmem hselect

/-- The registers from `reg` on that a value of `len` bytes goes to. -/
def writtenRegs : Nat → U16 → List U16
  | 0, _ => []
  | len + 1, reg => reg :: writtenRegs len (reg + 1)

theorem storeBytes_kept (val : U32) {len : Nat} {reg r : U16} (h : r ∉ writtenRegs len reg)
    (regs : U16 → U8) : storeBytes val len reg regs r = regs r := by
  induction len generalizing reg regs with
  | zero => rfl
  | succ len ih =>
      rw [writtenRegs, List.mem_cons, not_or] at h
      rw [storeBytes, ih h.2, Function.update_of_ne h.1]

def KeepsReg (r : U16) (x : Driver Imx219Client Unit) : Prop :=
  ∀ client, (x client).2.chip.regs r = client.chip.regs r

theorem keepsReg_writeReg {len : Nat} {reg r : U16} (h : r ∉ writtenRegs len reg) (val : U32) :
    KeepsReg r (imx219WriteReg reg len val) := by
  intro client
  rcases Nat.lt_or_ge 4 len with hlong | hlen
  · rw [writeReg_tooLong hlong]
  · obtain ⟨after, -, -, ⟨-, hrun, hregs⟩ | ⟨-, hrun, hregs⟩⟩ := writeReg_run hlen reg val client
    · rw [hrun, hregs]
      exact storeBytes_kept val h _
    · rw [hrun, hregs]

theorem keepsReg_modeSelect {r : U16} (h : r ≠ imx219RegModeSelect) (val : U32) :
    KeepsReg r (imx219WriteReg imx219RegModeSelect 1 val) :=
  keepsReg_writeReg (by simpa [writtenRegs] using h) val

theorem writeReg_regs {reg : U16} {len : Nat} {val : U32} {client after : Imx219Client}
    (hrun : imx219WriteReg reg len val client = (.ok (), after)) :
    after.chip.regs = storeBytes val len reg client.chip.regs := by
  rcases Nat.lt_or_ge 4 len with hlong | hlen
  · exact absurd (congrArg Prod.fst ((writeReg_tooLong hlong reg val client).symm.trans hrun)) nofun
  · obtain ⟨_, -, -, ⟨-, hok, hregs⟩ | ⟨-, herror, -⟩⟩ := writeReg_run hlen reg val client
    · obtain ⟨-, rfl⟩ := Prod.mk.inj (hok.symm.trans hrun)
      exact hregs
    · exact absurd (congrArg Prod.fst (herror.symm.trans hrun)) nofun

theorem storeBytes_byte (val : U8) (reg : U16) (regs : U16 → U8) :
    storeBytes (val.setWidth 32) 1 reg regs = Function.update regs reg val := by
  have hval : ((val.setWidth 32 : U32) >>> (8 * 0)).setWidth 8 = val := by
    rw [Nat.mul_zero, BitVec.ushiftRight_zero, BitVec.setWidth_setWidth_of_le _ (by decide),
      BitVec.setWidth_eq]
  change Function.update regs reg (((val.setWidth 32 : U32) >>> (8 * 0)).setWidth 8) = _
  rw [hval]

theorem writeRegs_regs {list : List Imx219Reg} {client after : Imx219Client}
    (hrun : imx219WriteRegs list client = (.ok (), after)) :
    after.chip.regs = run (regOps list) client.chip.regs := by
  induction list generalizing client with
  | nil =>
      obtain ⟨-, rfl⟩ := Prod.mk.inj hrun
      rfl
  | cons reg rest ih =>
      obtain ⟨_, t, hwrite, hrest⟩ := driver_bind_inv hrun
      rw [ih hrest, writeReg_regs hwrite, storeBytes_byte]
      change _ = run (regOps rest) ((MaskedWrite.full reg.address reg.val).apply _)
      rw [apply_full]

def ctrlRegs : List U16 :=
  [0x0157#16, 0x0158#16, 0x0159#16, 0x015a#16, 0x015b#16, 0x0160#16, 0x0161#16, 0x0172#16,
    0x0600#16, 0x0601#16, 0x0602#16, 0x0603#16, 0x0604#16, 0x0605#16, 0x0606#16, 0x0607#16,
    0x0608#16, 0x0609#16]

theorem writeCtrl_cases (id : Imx219Ctrl) (s : Imx219Device) :
    writeCtrl id s = throw .einval ∨
      ∃ len reg val, writtenRegs len reg ⊆ ctrlRegs ∧
        writeCtrl id s = imx219WriteReg reg len val := by
  cases id with
  | pixelRate | hblank => exact .inl rfl
  | analogueGain => exact .inr ⟨1, imx219RegAnalogGain, _, by decide, rfl⟩
  | exposure => exact .inr ⟨2, imx219RegExposure, _, by decide, rfl⟩
  | digitalGain => exact .inr ⟨2, imx219RegDigitalGain, _, by decide, rfl⟩
  | testPattern => exact .inr ⟨2, imx219RegTestPattern, _, by decide, rfl⟩
  | hflip | vflip => exact .inr ⟨1, imx219RegOrientation, _, by decide, rfl⟩
  | vblank => exact .inr ⟨2, imx219RegVts, _, by decide, rfl⟩
  | testPatternRed => exact .inr ⟨2, imx219RegTestpRed, _, by decide, rfl⟩
  | testPatternGreenr => exact .inr ⟨2, imx219RegTestpGreenr, _, by decide, rfl⟩
  | testPatternBlue => exact .inr ⟨2, imx219RegTestpBlue, _, by decide, rfl⟩
  | testPatternGreenb => exact .inr ⟨2, imx219RegTestpGreenb, _, by decide, rfl⟩

theorem keepsReg_writeCtrl {r : U16} (hr : r ∉ ctrlRegs) (id : Imx219Ctrl) (s : Imx219Device) :
    KeepsReg r (writeCtrl id s) := by
  rcases writeCtrl_cases id s with hrun | ⟨len, reg, val, hmem, hrun⟩
  · rw [hrun]
    exact fun _ => rfl
  · rw [hrun]
    exact keepsReg_writeReg (fun h => hr (hmem h)) val

/-- What setting the controls leaves of the format and the registers that program it. -/
structure SameProgram (s t : Imx219Device) : Prop where
  mode : t.mode = s.mode
  fmt : t.fmt = s.fmt
  streaming : t.streaming = s.streaming
  pmRefs : t.pmRefs = s.pmRefs
  regs : ∀ r, r ∉ ctrlRegs → r ≠ imx219RegModeSelect →
    t.client.chip.regs r = s.client.chip.regs r

theorem SameProgram.refl (s : Imx219Device) : SameProgram s s :=
  ⟨rfl, rfl, rfl, rfl, fun _ _ _ => rfl⟩

theorem sameProgram_controlStable (s : Imx219Device) : ControlStable (SameProgram s) where
  apply id t ht := by
    unfold applyCtrl
    split
    · refine { ht with regs := fun r hr hselect => ?_ }
      change (writeCtrl id t t.client).2.chip.regs r = _
      rw [keepsReg_writeCtrl hr id t t.client]
      exact ht.regs r hr hselect
    · exact ht
  ctrl _ _ _ _ _ ht := { ht with }

theorem modeLists_notCtrl : ∀ mode ∈ supportedModes,
    ∀ reg ∈ imx219RegList mode, reg.address ∉ ctrlRegs := by
  decide +kernel

theorem framefmtLists_notCtrl : ∀ reg ∈ raw10FramefmtRegs ++ raw8FramefmtRegs,
    reg.address ∉ ctrlRegs := by
  decide +kernel

theorem programRegs_notCtrl {mode : Imx219Mode} (hmode : mode ∈ supportedModes) {code : U32}
    (hcode : code ∈ imx219Codes) : ∀ reg ∈ programRegs mode code, reg.address ∉ ctrlRegs := by
  intro reg hmem
  rcases List.mem_append.mp hmem with hmem | hmem
  · exact modeLists_notCtrl mode hmode reg hmem
  · apply framefmtLists_notCtrl reg
    rcases code_depth hcode with ⟨hregs, -⟩ | ⟨hregs, -⟩
    · rw [hregs] at hmem
      exact List.mem_append_left _ hmem
    · rw [hregs] at hmem
      exact List.mem_append_right _ hmem

theorem programmed_same {s t : Imx219Device} (h : SameProgram s t)
    (hmode : s.mode ∈ supportedModes) (hcode : s.fmt.code ∈ imx219Codes)
    (hs : Programmed (programRegs s.mode s.fmt.code) s.client.chip.regs) :
    Programmed (programRegs t.mode t.fmt.code) t.client.chip.regs := by
  rw [h.mode, h.fmt]
  exact hs.congr fun reg hmem hselect =>
    h.regs reg.address (programRegs_notCtrl hmode hcode reg hmem) hselect

theorem setFramefmt_eq {code : U32} (hcode : code ∈ imx219Codes) :
    imx219SetFramefmt code = imx219WriteRegs (framefmtRegs code) := by
  unfold imx219SetFramefmt framefmtRegs
  rcases raw_of_mem_codes hcode with hraw8 | ⟨hraw8, hraw10⟩
  · rw [if_pos hraw8, if_pos hraw8]
  · rw [if_neg hraw8, if_neg hraw8, if_pos hraw10, if_pos hraw10]

theorem onClient_inv {x : Driver Imx219Client Unit} {s t : Imx219Device}
    (hrun : onClient x s = (.ok (), t)) :
    ∃ client, x s.client = (.ok (), client) ∧ t = withClient s client := by
  obtain ⟨hok, rfl⟩ := Prod.mk.inj hrun
  exact ⟨(x s.client).2, Prod.ext hok rfl, rfl⟩

theorem startStreaming_programmed {s t : Imx219Device} (hmode : s.mode ∈ supportedModes)
    (hcode : s.fmt.code ∈ imx219Codes) (hrun : imx219StartStreaming s = (.ok (), t)) :
    t.mode = s.mode ∧ t.fmt = s.fmt ∧ t.streaming = s.streaming ∧ t.pmRefs = s.pmRefs ∧
      Programmed (programRegs t.mode t.fmt.code) t.client.chip.regs := by
  unfold imx219StartStreaming at hrun
  rw [driver_bind_ok (driver_get s)] at hrun
  obtain ⟨_, t₁, hlist, hrun⟩ := driver_bind_inv hrun
  obtain ⟨_, t₂, hframefmt, hrun⟩ := driver_bind_inv hrun
  obtain ⟨_, t₃, hctrls, hlast⟩ := driver_bind_inv hrun
  obtain ⟨client₁, hwrites₁, rfl⟩ := onClient_inv hlist
  obtain ⟨client₂, hwrites₂, rfl⟩ := onClient_inv hframefmt
  obtain ⟨client₄, hwrite, rfl⟩ := onClient_inv hlast
  rw [setFramefmt_eq hcode] at hwrites₂
  have hregs : client₂.chip.regs =
      run (regOps (programRegs s.mode s.fmt.code)) s.client.chip.regs := by
    change _ = run ((imx219RegList s.mode ++ framefmtRegs s.fmt.code).map _) _
    rw [List.map_append, run_append]
    change _ = run (regOps (framefmtRegs s.fmt.code)) (run (regOps (imx219RegList s.mode)) _)
    rw [← writeRegs_regs hwrites₁]
    exact writeRegs_regs hwrites₂
  have hsetup : SameProgram (withClient (withClient s client₁) client₂) t₃ := by
    have hstable := preserves_handlerSetup
      (sameProgram_controlStable (withClient (withClient s client₁) client₂)) imx219Ctrls _
      (SameProgram.refl _)
    rwa [hctrls] at hstable
  refine ⟨hsetup.mode, hsetup.fmt, hsetup.streaming, hsetup.pmRefs, ?_⟩
  change Programmed (programRegs t₃.mode t₃.fmt.code) client₄.chip.regs
  rw [hsetup.mode, hsetup.fmt]
  refine programmed_of_run (fun reg hmem hselect => ?_ : ∀ reg ∈ programRegs s.mode s.fmt.code,
    reg.address ≠ imx219RegModeSelect → client₄.chip.regs reg.address =
      run (regOps (programRegs s.mode s.fmt.code)) s.client.chip.regs reg.address)
  have hkept : client₄.chip.regs reg.address = t₃.client.chip.regs reg.address := by
    have hkeeps := keepsReg_modeSelect hselect imx219ModeStreaming t₃.client
    rwa [hwrite] at hkeeps
  rw [hkept, hsetup.regs reg.address (programRegs_notCtrl hmode hcode reg hmem) hselect]
  exact congrFun hregs reg.address

def sentWidth (regs : U16 → U8) : U32 := (regs 0x016c#16 ++ regs 0x016d#16).setWidth 32

/-- The height that the output-size registers hold. -/
def sentHeight (regs : U16 → U8) : U32 := (regs 0x016e#16 ++ regs 0x016f#16).setWidth 32

/-- The bits of a pixel that the data-format registers hold. -/
def sentDepth (regs : U16 → U8) : Nat := (regs 0x018c#16).toNat

/-- What the list of every mode writes to the output-size registers, with either
frame-format list after it. -/
theorem modeLists_size : ∀ mode ∈ supportedModes,
    ∀ last ∈ [raw10FramefmtRegs, raw8FramefmtRegs],
      sentWidth (run (regOps (imx219RegList mode ++ last)) fun _ => 0) = mode.width ∧
        sentHeight (run (regOps (imx219RegList mode ++ last)) fun _ => 0) = mode.height := by
  decide +kernel

theorem framefmtLists_depth : ∀ mode ∈ supportedModes,
    sentDepth (run (regOps (imx219RegList mode ++ raw10FramefmtRegs)) fun _ => 0) = 10 ∧
      sentDepth (run (regOps (imx219RegList mode ++ raw8FramefmtRegs)) fun _ => 0) = 8 := by
  decide +kernel

def sentRegs : List U16 := [0x016c#16, 0x016d#16, 0x016e#16, 0x016f#16, 0x018c#16]

theorem sentRegs_written : ∀ mode ∈ supportedModes,
    ∀ last ∈ [raw10FramefmtRegs, raw8FramefmtRegs],
      sentRegs ⊆ (imx219RegList mode ++ last).map Imx219Reg.address := by
  decide +kernel

theorem sentRegs_notCtrl {r : U16} (hr : r ∈ sentRegs) :
    r ∉ ctrlRegs ∧ r ≠ imx219RegModeSelect := by
  simp only [sentRegs, List.mem_cons, List.not_mem_nil, or_false] at hr
  rcases hr with rfl | rfl | rfl | rfl | rfl <;> decide

theorem sent_congr {regs regs' : U16 → U8} (h : ∀ r ∈ sentRegs, regs r = regs' r) :
    sentWidth regs = sentWidth regs' ∧ sentHeight regs = sentHeight regs' ∧
      sentDepth regs = sentDepth regs' := by
  have hwidth := h 0x016c#16 (by simp [sentRegs])
  have hwidthLow := h 0x016d#16 (by simp [sentRegs])
  have hheight := h 0x016e#16 (by simp [sentRegs])
  have hheightLow := h 0x016f#16 (by simp [sentRegs])
  have hdepth := h 0x018c#16 (by simp [sentRegs])
  unfold sentWidth sentHeight sentDepth
  rw [hwidth, hwidthLow, hheight, hheightLow, hdepth]
  exact ⟨rfl, rfl, rfl⟩

/-- A programmed sensor sends frames of the size of the mode and of the depth of the
code. -/
theorem Programmed.sent {mode : Imx219Mode} {code : U32} {regs : U16 → U8}
    (h : Programmed (programRegs mode code) regs) (hmode : mode ∈ supportedModes)
    (hcode : code ∈ imx219Codes) : sentWidth regs = mode.width ∧
      sentHeight regs = mode.height ∧ sentDepth regs = codeDepth code := by
  have hvalues : ∀ last ∈ [raw10FramefmtRegs, raw8FramefmtRegs], framefmtRegs code = last →
      ∀ r ∈ sentRegs, regs r = run (regOps (imx219RegList mode ++ last)) (fun _ => 0) r := by
    rintro last hlast rfl r hr
    obtain ⟨reg, hmem, rfl⟩ := List.mem_map.mp (sentRegs_written mode hmode _ hlast hr)
    exact h reg hmem (sentRegs_notCtrl hr).2
  rcases code_depth hcode with ⟨hlist, hdepth⟩ | ⟨hlist, hdepth⟩
  · obtain ⟨hw, hh, hd⟩ := sent_congr (hvalues _ (by simp) hlist)
    obtain ⟨hwidth, hheight⟩ := modeLists_size mode hmode raw10FramefmtRegs (by simp)
    rw [hw, hh, hd, hdepth]
    exact ⟨hwidth, hheight, (framefmtLists_depth mode hmode).1⟩
  · obtain ⟨hw, hh, hd⟩ := sent_congr (hvalues _ (by simp) hlist)
    obtain ⟨hwidth, hheight⟩ := modeLists_size mode hmode raw8FramefmtRegs (by simp)
    rw [hw, hh, hd, hdepth]
    exact ⟨hwidth, hheight, (framefmtLists_depth mode hmode).2⟩

theorem codeDepth_getD : ∀ i < 8, imx219Codes.getD i 0 ∈ imx219Codes ∧
    codeDepth (imx219Codes.getD i 0) = if i < 4 then 10 else 8 := by
  decide

theorem formatCode_depth (s : Imx219Device) (code : U32) :
    imx219GetFormatCode s code ∈ imx219Codes ∧
      codeDepth (imx219GetFormatCode s code) =
        codeDepth (imx219Codes.getD (codeIndex code) 0) := by
  have hlt := codeIndex_lt code
  have hindex : codeIndex code / 4 * 4 + (if (s.ctrls .vflip).val = 0 then 0 else 2) +
      (if (s.ctrls .hflip).val = 0 then 0 else 1) < 8 := by
    split <;> split <;> omega
  obtain ⟨hmem, hdepth⟩ := codeDepth_getD _ hindex
  refine ⟨hmem, ?_⟩
  change codeDepth (imx219Codes.getD _ 0) = _
  rw [hdepth, (codeDepth_getD _ hlt).2]
  have hgroup : codeIndex code / 4 * 4 + (if (s.ctrls .vflip).val = 0 then 0 else 2) +
      (if (s.ctrls .hflip).val = 0 then 0 else 1) < 4 ↔ codeIndex code < 4 := by
    split <;> split <;> omega
  simp only [hgroup]

theorem filledFormat_depth (s : Imx219Device) (format : MbusFramefmt) (mode : Imx219Mode) :
    (filledFormat s format mode).code ∈ imx219Codes ∧
      codeDepth (filledFormat s format mode).code =
        codeDepth (imx219Codes.getD (codeIndex format.code) 0) := by
  have hcode := formatCode_depth s (imx219Codes.getD (codeIndex format.code) 0)
  rw [getD_codeIndex (codeDepth_getD _ (codeIndex_lt _)).1] at hcode
  exact hcode

/-- What is reported is what the sensor was programmed for and sends. -/
structure FormatSent (s : Imx219Device) : Prop where
  programmed : Programmed (programRegs s.mode s.fmt.code) s.client.chip.regs
  width : (imx219GetPadFormat .active s).2.width = sentWidth s.client.chip.regs
  height : (imx219GetPadFormat .active s).2.height = sentHeight s.client.chip.regs
  depth : codeDepth (imx219GetPadFormat .active s).2.code = sentDepth s.client.chip.regs

def FormatOk (s : Imx219Device) : Prop := s.streaming = true → FormatSent s

/-- What every step relies on: a streaming sensor is also held in use. -/
structure FormatInvariant (s : Imx219Device) : Prop where
  sent : FormatOk s
  mode_mem : s.mode ∈ supportedModes
  code_mem : s.fmt.code ∈ imx219Codes
  refs : 0 ≤ s.pmRefs
  streaming_refs : s.streaming = true → 0 < s.pmRefs

theorem formatSent_of_programmed {s : Imx219Device} (hmode : s.mode ∈ supportedModes)
    (hcode : s.fmt.code ∈ imx219Codes)
    (h : Programmed (programRegs s.mode s.fmt.code) s.client.chip.regs) : FormatSent s := by
  obtain ⟨hwidth, hheight, hdepth⟩ := h.sent hmode hcode
  refine ⟨h, hwidth.symm, hheight.symm, ?_⟩
  rw [hdepth]
  change codeDepth (imx219GetFormatCode s s.fmt.code) = _
  rw [(formatCode_depth s s.fmt.code).2, getD_codeIndex hcode]

theorem formatInvariant_same {s t : Imx219Device} (hs : FormatInvariant s)
    (h : SameProgram s t) : FormatInvariant t where
  sent hstreaming := by
    rw [h.streaming] at hstreaming
    refine formatSent_of_programmed (by rw [h.mode]; exact hs.mode_mem)
      (by rw [h.fmt]; exact hs.code_mem) ?_
    exact programmed_same h hs.mode_mem hs.code_mem (hs.sent hstreaming).programmed
  mode_mem := by rw [h.mode]; exact hs.mode_mem
  code_mem := by rw [h.fmt]; exact hs.code_mem
  refs := by rw [h.pmRefs]; exact hs.refs
  streaming_refs := by rw [h.streaming, h.pmRefs]; exact hs.streaming_refs

theorem formatInvariant_idle {t : Imx219Device} (hstreaming : t.streaming = false)
    (hmode : t.mode ∈ supportedModes) (hcode : t.fmt.code ∈ imx219Codes)
    (hrefs : 0 ≤ t.pmRefs) : FormatInvariant t where
  sent h := absurd (hstreaming.symm.trans h) (by decide)
  mode_mem := hmode
  code_mem := hcode
  refs := hrefs
  streaming_refs h := absurd (hstreaming.symm.trans h) (by decide)

theorem supportedModes_width : ∀ mode ∈ supportedModes, ∀ other ∈ supportedModes,
    other.width = mode.width → other = mode := by
  decide

/-- An active format for a streaming sensor asks for the mode and the depth it already
has. -/
def FormatKept (nearest : NearestSize) (s : Imx219Device) : Imx219Op → Prop
  | .setPadFormat .active format => s.streaming = true → ∀ mode,
      nearest.pick imx219ModeSize supportedModes format.width format.height = some mode →
        s.mode = mode ∧
          codeDepth (imx219Codes.getD (codeIndex format.code) 0) = codeDepth s.fmt.code
  | _ => True

theorem programRegs_depth {mode : Imx219Mode} {code code' : U32} (hcode : code ∈ imx219Codes)
    (hcode' : code' ∈ imx219Codes) (h : codeDepth code = codeDepth code') :
    programRegs mode code = programRegs mode code' := by
  unfold programRegs
  rcases code_depth hcode with ⟨hlist, hdepth⟩ | ⟨hlist, hdepth⟩
  · rcases code_depth hcode' with ⟨hlist', -⟩ | ⟨-, hdepth'⟩
    · rw [hlist, hlist']
    · rw [hdepth, hdepth'] at h
      exact absurd h (by decide)
  · rcases code_depth hcode' with ⟨-, hdepth'⟩ | ⟨hlist', -⟩
    · rw [hdepth, hdepth'] at h
      exact absurd h (by decide)
    · rw [hlist, hlist']

theorem updateLimits_sameProgram (mode : Imx219Mode) (s : Imx219Device) :
    SameProgram s (updateLimits mode s) :=
  updateLimits_stable ((sameProgram_controlStable s).stableOn _) mode (SameProgram.refl s)

theorem setPadFormat_keeps {nearest : NearestSize} {s : Imx219Device}
    (hs : FormatInvariant s) {format : MbusFramefmt}
    (hkept : FormatKept nearest s (.setPadFormat .active format)) :
    FormatInvariant (imx219SetPadFormat nearest .active format s).1 := by
  obtain ⟨mode, hmode, hpick⟩ := nearest.pick_mem imx219ModeSize
    (show supportedModes ≠ [] by decide) format.width format.height
  rcases setPadFormat_active (s := s) hpick with ⟨-, hrun⟩ | ⟨-, hrun⟩
  · rw [hrun]
    refine formatInvariant_same ?_ (updateLimits_sameProgram mode _)
    have hcode := filledFormat_depth s format mode
    rcases hstreaming : s.streaming with _ | _
    · exact formatInvariant_idle hstreaming hmode hcode.1 hs.refs
    · obtain ⟨rfl, hdepth⟩ := hkept hstreaming mode hpick
      have hsame : codeDepth (filledFormat s format s.mode).code = codeDepth s.fmt.code :=
        hcode.2.trans hdepth
      refine ⟨fun _ => ?_, hmode, hcode.1, hs.refs, hs.streaming_refs⟩
      refine formatSent_of_programmed hmode hcode.1 ?_
      change Programmed (programRegs s.mode (filledFormat s format s.mode).code) _
      rw [programRegs_depth hcode.1 hs.code_mem hsame]
      exact (hs.sent hstreaming).programmed
  · rw [hrun]
    exact hs

/-- A format for a streaming sensor that asks for another mode or depth is stored, and
the registers keep the old one. -/
theorem formatKept_of_ok {nearest : NearestSize} {s : Imx219Device} (hs : FormatInvariant s)
    {format : MbusFramefmt} (hok : FormatOk (imx219SetPadFormat nearest .active format s).1) :
    FormatKept nearest s (.setPadFormat .active format) := by
  intro hstreaming mode hpick
  obtain ⟨picked, hmode, hpicked⟩ := nearest.pick_mem imx219ModeSize
    (show supportedModes ≠ [] by decide) format.width format.height
  obtain rfl := Option.some.inj (hpick.symm.trans hpicked)
  have hcode := filledFormat_depth s format mode
  rcases setPadFormat_active (s := s) hpick with ⟨-, hrun⟩ | ⟨hchanges, -⟩
  · have hsame := updateLimits_sameProgram mode (withMode s (filledFormat s format mode) mode)
    rw [hrun] at hok
    have hsent := (hok (hsame.streaming.trans hstreaming)).programmed
    rw [hsame.mode, hsame.fmt] at hsent
    obtain ⟨hwidth, -, hdepth⟩ := hsent.sent hmode hcode.1
    obtain ⟨hold, -, holdDepth⟩ :=
      (hs.sent hstreaming).programmed.sent hs.mode_mem hs.code_mem
    obtain ⟨hregs, -, hregsDepth⟩ := sent_congr fun r hr =>
      (hsame.regs r (sentRegs_notCtrl hr).1 (sentRegs_notCtrl hr).2).symm
    refine ⟨supportedModes_width mode hmode s.mode hs.mode_mem ?_, ?_⟩
    · exact hold.symm.trans (hregs.trans hwidth)
    · exact hcode.2.symm.trans (hdepth.symm.trans (hregsDepth.symm.trans holdDepth))
  · unfold FormatChanges at hchanges
    rw [not_or, not_not, not_not] at hchanges
    refine ⟨hchanges.1, ?_⟩
    rw [hchanges.2]
    exact hcode.2.symm

/-- The stored format. -/
structure SameFormat (s t : Imx219Device) : Prop where
  mode : t.mode = s.mode
  fmt : t.fmt = s.fmt

theorem sameFormat_clientFree (s : Imx219Device) : ClientFree (SameFormat s) :=
  fun _ _ ht => { ht with }

theorem sameFormat_controlStable (s : Imx219Device) : ControlStable (SameFormat s) where
  apply := (sameFormat_clientFree s).preserves_applyCtrl
  ctrl _ _ _ _ _ ht := { ht with }

theorem startStreaming_sameFormat (s : Imx219Device) :
    SameFormat s (imx219StartStreaming s).2 :=
  startStreaming_stable (sameFormat_controlStable s) (sameFormat_clientFree s) s ⟨rfl, rfl⟩

/-- A stream that starts has programmed what is stored; one that does not start, or
stops, sends nothing. -/
theorem setStream_format {s : Imx219Device} (hs : FormatInvariant s) (enable : Bool)
    (denied : Option Errno) : FormatInvariant (imx219SetStream enable denied s).2 := by
  have hrefs := hs.refs
  unfold imx219SetStream
  by_cases hsame : s.streaming = enable
  · rw [if_pos hsame]
    exact hs
  · rw [if_neg hsame]
    cases enable with
    | false =>
        rw [if_neg Bool.false_ne_true]
        have hheld := hs.streaming_refs (Bool.not_eq_false _ ▸ hsame)
        refine formatInvariant_idle rfl hs.mode_mem hs.code_mem ?_
        change 0 ≤ s.pmRefs - 1
        omega
    | true =>
        rw [if_pos rfl]
        have hidle : s.streaming = false := Bool.eq_false_iff.mpr hsame
        cases denied with
        | some e =>
            refine formatInvariant_idle hidle hs.mode_mem hs.code_mem ?_
            change 0 ≤ s.pmRefs + 1 - 1
            omega
        | none =>
            have hgot : SameFormat s (pmRuntimeGet s) := by
              unfold pmRuntimeGet powerUp
              split
              · exact ⟨rfl, rfl⟩
              · exact ⟨rfl, rfl⟩
            have hmode : (pmRuntimeGet s).mode ∈ supportedModes := by
              rw [hgot.mode]
              exact hs.mode_mem
            have hcode : (pmRuntimeGet s).fmt.code ∈ imx219Codes := by
              rw [hgot.fmt]
              exact hs.code_mem
            have hformat := startStreaming_sameFormat (pmRuntimeGet s)
            have hstream := startStreaming_sameStreamState (pmRuntimeGet s)
            dsimp only
            rcases hrun : imx219StartStreaming (pmRuntimeGet s) with ⟨e | _, t⟩
            · rw [hrun] at hformat hstream
              have hpmRefs : t.pmRefs = s.pmRefs + 1 := hstream.pmRefs
              have hoff : t.streaming = false := by
                rw [hstream.streaming]
                exact (powerUp_sameStreamState s).streaming.trans hidle
              refine formatInvariant_idle hoff ?_ ?_ ?_
              · change t.mode ∈ supportedModes
                rw [hformat.mode]
                exact hmode
              · change t.fmt.code ∈ imx219Codes
                rw [hformat.fmt]
                exact hcode
              · change 0 ≤ t.pmRefs - 1
                omega
            · obtain ⟨hsameMode, hsameFmt, -, -, hprogrammed⟩ :=
                startStreaming_programmed hmode hcode hrun
              rw [hrun] at hstream
              have hpmRefs : t.pmRefs = s.pmRefs + 1 := hstream.pmRefs
              have hmodeAfter : t.mode ∈ supportedModes := by
                rw [hsameMode]
                exact hmode
              have hcodeAfter : t.fmt.code ∈ imx219Codes := by
                rw [hsameFmt]
                exact hcode
              refine ⟨fun _ => formatSent_of_programmed hmodeAfter hcodeAfter hprogrammed,
                hmodeAfter, hcodeAfter, ?_, fun _ => ?_⟩
              · change 0 ≤ t.pmRefs
                omega
              · change 0 < t.pmRefs
                omega

theorem stopStreaming_sameProgram (s : Imx219Device) :
    SameProgram s (imx219StopStreaming s) where
  mode := rfl
  fmt := rfl
  streaming := rfl
  pmRefs := rfl
  regs _ _ hselect := keepsReg_modeSelect hselect imx219ModeStandby s.client

theorem resume_format {s : Imx219Device} (hs : FormatInvariant s) :
    FormatInvariant (imx219Resume s).2 := by
  have hformat := startStreaming_sameFormat s
  have hstream := startStreaming_sameStreamState s
  unfold imx219Resume
  split
  · rename_i hstreaming
    rcases hrun : imx219StartStreaming s with ⟨e | _, t⟩
    · rw [hrun] at hformat hstream
      refine formatInvariant_idle rfl ?_ ?_ ?_
      · change t.mode ∈ supportedModes
        rw [hformat.mode]
        exact hs.mode_mem
      · change t.fmt.code ∈ imx219Codes
        rw [hformat.fmt]
        exact hs.code_mem
      · change 0 ≤ t.pmRefs
        rw [hstream.pmRefs]
        exact hs.refs
    · obtain ⟨hsameMode, hsameFmt, -, hsameRefs, hprogrammed⟩ :=
        startStreaming_programmed hs.mode_mem hs.code_mem hrun
      have hmode : t.mode ∈ supportedModes := by
        rw [hsameMode]
        exact hs.mode_mem
      have hcode : t.fmt.code ∈ imx219Codes := by
        rw [hsameFmt]
        exact hs.code_mem
      refine ⟨fun _ => formatSent_of_programmed hmode hcode hprogrammed, hmode, hcode, ?_,
        fun _ => ?_⟩
      · rw [hsameRefs]
        exact hs.refs
      · rw [hsameRefs]
        exact hs.streaming_refs hstreaming
  · exact hs

theorem format_step {nearest : NearestSize} {s : Imx219Device} (hs : FormatInvariant s)
    {op : Imx219Op} (hop : FormatKept nearest s op) :
    FormatInvariant (imx219Step nearest s op) := by
  cases op with
  | sCtrl id val =>
      exact formatInvariant_same hs
        (v4l2SCtrl_stable (sameProgram_controlStable s) id val (SameProgram.refl s))
  | setPadFormat which format =>
      cases which with
      | active => exact setPadFormat_keeps hs hop
      | «try» =>
          refine formatInvariant_same hs ?_
          change SameProgram s (imx219SetPadFormat nearest .try format s).1
          unfold imx219SetPadFormat
          dsimp only
          split
          · exact SameProgram.refl s
          · exact ⟨rfl, rfl, rfl, rfl, fun _ _ _ => rfl⟩
  | setStream enable denied => exact setStream_format hs enable denied
  | suspend =>
      change FormatInvariant (imx219Suspend s)
      unfold imx219Suspend
      split
      · exact formatInvariant_same hs (stopStreaming_sameProgram s)
      · exact hs
  | resume => exact resume_format hs
  | othersHold held =>
      cases held with
      | false => exact formatInvariant_same hs ⟨rfl, rfl, rfl, rfl, fun _ _ _ => rfl⟩
      | true =>
          rcases hstreaming : s.streaming with _ | _
          · refine formatInvariant_idle ?_ ?_ ?_ ?_
            · exact (powerUp_sameStreamState s).streaming.trans hstreaming
            · change (powerUp s).mode ∈ supportedModes
              unfold powerUp
              split <;> exact hs.mode_mem
            · change (powerUp s).fmt.code ∈ imx219Codes
              unfold powerUp
              split <;> exact hs.code_mem
            · change 0 ≤ (powerUp s).pmRefs
              rw [(powerUp_sameStreamState s).pmRefs]
              exact hs.refs
          · have hheld : inUse s = true := by
              have hrefs := hs.streaming_refs hstreaming
              unfold inUse
              rw [decide_eq_true hrefs, Bool.or_true]
            have hpowered : powerUp s = s := by
              unfold powerUp
              rw [if_pos hheld]
            change FormatInvariant { powerUp s with othersHold := true }
            rw [hpowered]
            exact formatInvariant_same hs ⟨rfl, rfl, rfl, rfl, fun _ _ _ => rfl⟩

/-- From probe on, whatever fails: what is reported while streaming is what is
programmed and sent exactly when every active format for a streaming sensor asks for
the mode and the depth it already has. -/
theorem format_sent_iff (nearest : NearestSize) (client : Imx219Client)
    (tryFmt : MbusFramefmt) (ops : List Imx219Op) :
    Always (imx219Step nearest) FormatOk (probedDevice client tryFmt) ops ↔
      Along (imx219Step nearest) (FormatKept nearest) (probedDevice client tryFmt) ops := by
  have hstart : FormatInvariant (probedDevice client tryFmt) := by
    refine formatInvariant_idle rfl ?_ ?_ (le_refl 0)
    · change imx219Mode0 ∈ supportedModes
      decide
    · change mediaBusFmtSrggb10_1x10 ∈ imx219Codes
      decide
  refine always_iff_along_of_exact (E := fun _ _ => True) (fun s hs => hs.sent)
    (fun s op hs _ hop => format_step hs hop) (fun s op hs _ hok => ?_) hstart
    (along_of_forall (fun _ _ => trivial) _ ops)
  cases op with
  | setPadFormat which format =>
      cases which with
      | active => exact formatKept_of_ok hs hok
      | «try» => trivial
  | sCtrl | setStream | suspend | resume | othersHold => trivial

/-- Eight bits asked of a sensor that streams ten. -/
def depthWhileStreaming : List Imx219Op :=
  [.setStream true none, .setPadFormat .active ⟨mediaBusFmtSrggb8_1x8, 3280, 2464⟩]

theorem depthWhileStreaming_reported : ¬Always (imx219Step leastError) FormatOk
    (probedDevice ⟨⟨fun _ => 0#8, fun _ => 0#8, []⟩, []⟩ ⟨mediaBusFmtSrggb10_1x10, 3280, 2464⟩)
    depthWhileStreaming := by
  intro hok
  have hlast := hok.last
  have hstreaming : (exec (imx219Step leastError) (probedDevice
      ⟨⟨fun _ => 0#8, fun _ => 0#8, []⟩, []⟩ ⟨mediaBusFmtSrggb10_1x10, 3280, 2464⟩)
      depthWhileStreaming).streaming = true := by
    decide +kernel
  have hdepth : codeDepth (imx219GetPadFormat .active (exec (imx219Step leastError) (probedDevice
        ⟨⟨fun _ => 0#8, fun _ => 0#8, []⟩, []⟩ ⟨mediaBusFmtSrggb10_1x10, 3280, 2464⟩)
        depthWhileStreaming)).2.code ≠
      sentDepth (exec (imx219Step leastError) (probedDevice
        ⟨⟨fun _ => 0#8, fun _ => 0#8, []⟩, []⟩ ⟨mediaBusFmtSrggb10_1x10, 3280, 2464⟩)
        depthWhileStreaming).client.chip.regs := by
    decide +kernel
  exact hdepth (hlast hstreaming).depth

end CameraPorting.SensorImx219.ProgrammedFormat
