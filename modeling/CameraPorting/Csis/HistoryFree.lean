import CameraPorting.Csis.StreamProgramming
import CameraPorting.Library.RegisterFields
import CameraPorting.Library.Runs

/-!
What the start of a stream programs, and what it takes over from the operations
before it. The fields of the receiver are written anew; the fields of the gasket and
the HDR shadow bits keep what earlier programmings have put there.
-/

namespace CameraPorting.Csis.HistoryFree

open CameraPorting.Kernel.Media
open CameraPorting.Csis.Receiver
open CameraPorting.Csis.StreamProgramming
open CameraPorting.Library.RegisterFields
open CameraPorting.Library.Runs

variable {ρ : Type}

/-- What the driver programs a stream from. -/
structure Settings where
  csisFmt : CsisPixFormat
  width : U32
  height : U32
  hdr : Bool
  numLanes : U32
  hsSettle : U32
  clkSettle : U32
  deriving DecidableEq, Repr

def settings (conf : CsiConf ρ) : Settings :=
  ⟨conf.state.csisFmt, conf.state.format.width, conf.state.format.height, conf.hdr,
    conf.numLanes, conf.hsSettle, conf.clkSettle⟩

/-- The MIPI data type of a format, as `fmt_reg` has it. -/
def mipiDataType (fmt : CsisPixFormat) : U32 := fmt.fmtReg >>> 2

/-- The fields of the gasket and of the receiver that a stream depends on. -/
structure StreamFields where
  dataType : U32
  dualComp : U32
  gasketEnable : U32
  hsize : U32
  vsize : U32
  format : U32
  pixelMode : U32
  resolution : U32
  laneNr : U32
  hdrMode : U32
  hdrShadow : U32
  lanesEnable : U32
  hsSettle : U32
  sclks : U32
  deriving DecidableEq, Repr

def streamFields (dev : CsiDev ρ) : StreamFields where
  dataType := dev.gasket .ctrl &&& gasketCtrlDataTypeMask
  dualComp := dev.gasket .ctrl &&& gasketCtrlDualCompEnable
  gasketEnable := dev.gasket .ctrl &&& gasketCtrlEnable
  hsize := dev.gasket .hsize
  vsize := dev.gasket .vsize
  format := dev.regs .ispconfigCh0 &&& mipiCsisIspcfgFmtMask
  pixelMode := dev.regs .ispconfigCh0 &&& mipiCsisIspconfigPixelModeMask
  resolution := dev.regs .ispresolCh0
  laneNr := dev.regs .cmnCtrl &&& mipiCsisCmnCtrlLaneNrMask
  hdrMode := dev.regs .cmnCtrl &&& mipiCsisCmnCtrlHdrMode
  hdrShadow := dev.regs .cmnCtrl &&& cmnCtrlHdrShadow
  lanesEnable := dev.regs .dphyctrl &&& mipiCsisDphyctrlEnable
  hsSettle := dev.regs .dphyctrl &&& mipiCsisDphyctrlHssMask
  sclks := dev.regs .dphyctrl &&& mipiCsisDphyctrlSclksMask

/-- The fields that a programming adds to instead of writing them anew. -/
@[ext]
structure Leftovers where
  dataType : U32
  dualComp : U32
  size : U32 × U32
  hdrShadow : U32
  sclks : U32
  deriving DecidableEq, Repr

def leftovers (dev : CsiDev ρ) : Leftovers where
  dataType := dev.gasket .ctrl &&& gasketCtrlDataTypeMask
  dualComp := dev.gasket .ctrl &&& gasketCtrlDualCompEnable
  size := (dev.gasket .hsize, dev.gasket .vsize)
  hdrShadow := dev.regs .cmnCtrl &&& cmnCtrlHdrShadow
  sclks := dev.regs .dphyctrl &&& mipiCsisDphyctrlSclksMask

/-- The bits a programming puts in the lane field of `CMN_CTRL` and above. -/
def Settings.laneBits (p : Settings) : U32 := (p.numLanes - 1#32) <<< 8

def Settings.settleBits (p : Settings) : U32 := p.hsSettle <<< 24 ||| p.clkSettle <<< 22

def Settings.typeBits (p : Settings) : U32 := gasketCtrlDataType (mipiDataType p.csisFmt)

def Settings.dualBits (p : Settings) : U32 :=
  if mipiDataType p.csisFmt = gasketCtrlDataTypeYuv422_8 then gasketCtrlDualCompEnable else 0

def Settings.shadowBits (p : Settings) : U32 :=
  (p.laneBits &&& cmnCtrlHdrShadow) ||| (if p.hdr then cmnCtrlHdrShadow else 0)

def Settings.sclksBits (p : Settings) : U32 := p.settleBits &&& mipiCsisDphyctrlSclksMask

/-- The gasket sizes are only written when neither is zero. -/
def Settings.sizeOver (size : U32 × U32) (p : Settings) : U32 × U32 :=
  if p.width = 0 ∨ p.height = 0 then size else (p.width, p.height)

/-- What `disp_mix_gasket_config` and `mipi_csis_set_params` make of the leftovers. -/
def Leftovers.program (l : Leftovers) (p : Settings) : Leftovers where
  dataType := l.dataType ||| p.typeBits
  dualComp := l.dualComp ||| p.dualBits
  size := p.sizeOver l.size
  hdrShadow := l.hdrShadow ||| p.shadowBits
  sclks := l.sclks ||| p.sclksBits

/-- The fields of a stream that starts with these settings and leftovers. -/
def fieldsOf (p : Settings) (l : Leftovers) : StreamFields where
  dataType := l.dataType
  dualComp := l.dualComp
  gasketEnable := gasketCtrlEnable
  hsize := l.size.1
  vsize := l.size.2
  format := p.csisFmt.fmtReg &&& mipiCsisIspcfgFmtMask
  pixelMode := if p.csisFmt.fmtReg = mipiCsisIspcfgFmtYcbcr422_8bit then
      pixelModeDualPixelMode <<< 12
    else 0
  resolution := p.width ||| p.height <<< 16
  laneNr := p.laneBits &&& mipiCsisCmnCtrlLaneNrMask
  hdrMode := mipiCsisCmnCtrlHdrMode
  hdrShadow := l.hdrShadow
  lanesEnable := ((1#32 <<< (p.numLanes + 1#32)) - 1#32) &&& mipiCsisDphyctrlEnable
  hsSettle := p.settleBits &&& mipiCsisDphyctrlHssMask
  sclks := l.sclks

theorem gasketFmtVal_mem : ∀ fmt ∈ mipiCsisFormats,
    gasketFmtVal fmt.code = some (mipiDataType fmt) := by
  decide

/-- The bits that a programming adds to the gasket control register. -/
def gasketBits (fmt : CsisPixFormat) : U32 :=
  (if mipiDataType fmt = gasketCtrlDataTypeYuv422_8 then gasketCtrlDualCompEnable else 0) |||
    gasketCtrlDataType (mipiDataType fmt)

theorem leftovers_swReset (dev : CsiDev ρ) :
    leftovers (mipiCsisSwReset dev) = leftovers dev := by
  simp only [leftovers, mipiCsisSwReset, mipiCsisWrite_gasket, mipiCsisWrite_regs_self]
  rw [or_and_apart _ (by decide), mipiCsisWrite_regs_ne (by decide)]

theorem leftovers_enableInterrupts (on : Bool) (dev : CsiDev ρ) :
    leftovers (mipiCsisEnableInterrupts on dev) = leftovers dev := by
  simp [leftovers, mipiCsisEnableInterrupts, mipiCsisCleanIrq]

theorem systemEnable_cmnCtrl (on : Bool) (dev : CsiDev ρ) {field : U32}
    (h : mipiCsisCmnCtrlEnable &&& field = 0) :
    (mipiCsisSystemEnable on dev).regs .cmnCtrl &&& field = dev.regs .cmnCtrl &&& field := by
  cases on
  · simp [mipiCsisSystemEnable, clear_and_apart _ h]
  · simp [mipiCsisSystemEnable, or_and_apart _ h]

theorem systemEnable_dphyctrl (on : Bool) (dev : CsiDev ρ) {field : U32}
    (h : mipiCsisDphyctrlEnable &&& field = 0) :
    (mipiCsisSystemEnable on dev).regs .dphyctrl &&& field = dev.regs .dphyctrl &&& field := by
  cases on
  · simp [mipiCsisSystemEnable, clear_and_apart _ h]
  · have hbits : ∀ x : U32, (x &&& mipiCsisDphyctrlEnable) &&& field = 0 := by
      intro x
      rw [BitVec.and_assoc, h]
      exact BitVec.and_zero
    simp [mipiCsisSystemEnable, or_and_apart _ (hbits _), clear_and_apart _ h]

theorem leftovers_systemEnable (on : Bool) (dev : CsiDev ρ) :
    leftovers (mipiCsisSystemEnable on dev) = leftovers dev := by
  simp only [leftovers]
  rw [systemEnable_cmnCtrl on dev (by decide), systemEnable_dphyctrl on dev (by decide)]
  cases on <;> rfl

theorem gasketEnable_ctrl (on : Bool) (dev : CsiDev ρ) {field : U32}
    (h : gasketCtrlEnable &&& field = 0) :
    (dispMixGasketEnable on dev).gasket .ctrl &&& field = dev.gasket .ctrl &&& field := by
  cases on
  · simp [dispMixGasketEnable, regmapUpdateBits, clear_and_apart _ h]
  · simp [dispMixGasketEnable, regmapUpdateBits, or_and_apart _ h, clear_and_apart _ h]

theorem leftovers_gasketEnable (on : Bool) (dev : CsiDev ρ) :
    leftovers (dispMixGasketEnable on dev) = leftovers dev := by
  simp only [leftovers]
  rw [gasketEnable_ctrl on dev (by decide), gasketEnable_ctrl on dev (by decide)]
  cases on <;> simp [dispMixGasketEnable, regmapUpdateBits]

theorem gasketBits_dataType : ∀ fmt ∈ mipiCsisFormats,
    gasketBits fmt &&& gasketCtrlDataTypeMask = gasketCtrlDataType (mipiDataType fmt) := by
  decide

theorem gasketBits_dualComp : ∀ fmt ∈ mipiCsisFormats,
    gasketBits fmt &&& gasketCtrlDualCompEnable =
      if mipiDataType fmt = gasketCtrlDataTypeYuv422_8 then gasketCtrlDualCompEnable else 0 := by
  decide

theorem setParams_hdrShadow (dev : CsiDev ρ) :
    (mipiCsisSetParams dev).regs .cmnCtrl &&& cmnCtrlHdrShadow =
      (dev.regs .cmnCtrl &&& cmnCtrlHdrShadow) |||
        (settings dev.toCsiConf).shadowBits := by
  rw [mipiCsisSetParams_cmnCtrl, BitVec.and_or_distrib_right, or_and_apart _ (by decide),
    or_and_apart _ (by decide), BitVec.and_or_distrib_right, clear_and_apart _ (by decide),
    BitVec.or_assoc]
  congr 2
  change _ = if dev.hdr = true then cmnCtrlHdrShadow else 0
  split_ifs <;> decide

theorem setParams_sclks (dev : CsiDev ρ) :
    (mipiCsisSetParams dev).regs .dphyctrl &&& mipiCsisDphyctrlSclksMask =
      (dev.regs .dphyctrl &&& mipiCsisDphyctrlSclksMask) |||
        (settings dev.toCsiConf).sclksBits := by
  rw [mipiCsisSetParams_dphyctrl, BitVec.and_or_distrib_right, clear_and_apart _ (by decide)]
  rfl

theorem leftovers_program {dev : CsiDev ρ} (h : dev.state.csisFmt ∈ mipiCsisFormats) :
    leftovers (mipiCsisSetParams (dispMixGasketConfig dev)) =
      (leftovers dev).program (settings dev.toCsiConf) := by
  have hval := gasketFmtVal_mem _ h
  have hctrl : (dispMixGasketConfig dev).gasket .ctrl =
      dev.gasket .ctrl ||| gasketBits dev.state.csisFmt := dispMixGasketConfig_ctrl hval
  have htype := gasketBits_dataType _ h
  have hdual := gasketBits_dualComp _ h
  have hsize : ((dispMixGasketConfig dev).gasket .hsize, (dispMixGasketConfig dev).gasket .vsize) =
      (settings dev.toCsiConf).sizeOver (dev.gasket .hsize, dev.gasket .vsize) := by
    rw [dispMixGasketConfig_hsize hval, dispMixGasketConfig_vsize hval, Settings.sizeOver]
    change _ = if dev.state.format.width = 0 ∨ dev.state.format.height = 0 then _ else _
    split_ifs <;> rfl
  simp only [leftovers, mipiCsisSetParams_gasket, setParams_hdrShadow, setParams_sclks,
    dispMixGasketConfig_regs, dispMixGasketConfig_toCsiConf, hsize, hctrl]
  rw [BitVec.and_or_distrib_right, BitVec.and_or_distrib_right, htype, hdual]
  rfl

theorem leftovers_startStream {dev : CsiDev ρ} (h : dev.state.csisFmt ∈ mipiCsisFormats) :
    leftovers (mipiCsisStartStream dev) =
      (leftovers dev).program (settings dev.toCsiConf) := by
  rw [mipiCsisStartStream, leftovers_enableInterrupts, leftovers_gasketEnable,
    leftovers_systemEnable, @leftovers_program ρ (mipiCsisSwReset dev) h, leftovers_swReset]
  rfl

theorem ispconfigOf_format (fmtReg val : U32) :
    ispconfigOf fmtReg val &&& mipiCsisIspcfgFmtMask = fmtReg &&& mipiCsisIspcfgFmtMask := by
  rw [ispconfigOf]
  split_ifs <;>
    rw [or_and_apart _ (by decide), clear_and_apart _ (by decide),
      update_and_within _ (by decide)]

theorem ispconfigOf_pixelMode (fmtReg val : U32) :
    ispconfigOf fmtReg val &&& mipiCsisIspconfigPixelModeMask =
      if fmtReg = mipiCsisIspcfgFmtYcbcr422_8bit then pixelModeDualPixelMode <<< 12 else 0 := by
  rw [ispconfigOf]
  split_ifs <;>
    rw [update_and_within _ (by decide)] <;> decide

theorem setParams_ispconfig (dev : CsiDev ρ) {field : U32}
    (h : mipiCsisIspcfgAlign32bit &&& field = 0) :
    (mipiCsisSetParams dev).regs .ispconfigCh0 &&& field =
      ispconfigOf dev.state.csisFmt.fmtReg (dev.regs .ispconfigCh0) &&& field := by
  rw [mipiCsisSetParams_ispconfigCh0]
  split_ifs
  · exact or_and_apart _ h
  · exact clear_and_apart _ h

theorem setParams_laneNr (dev : CsiDev ρ) :
    (mipiCsisSetParams dev).regs .cmnCtrl &&& mipiCsisCmnCtrlLaneNrMask =
      (settings dev.toCsiConf).laneBits &&& mipiCsisCmnCtrlLaneNrMask := by
  rw [mipiCsisSetParams_cmnCtrl]
  split_ifs <;>
    rw [or_and_apart _ (by decide), or_and_apart _ (by decide), or_and_apart _ (by decide),
      update_and_within _ (by decide)] <;> rfl

theorem setParams_hdrMode (dev : CsiDev ρ) :
    (mipiCsisSetParams dev).regs .cmnCtrl &&& mipiCsisCmnCtrlHdrMode =
      mipiCsisCmnCtrlHdrMode := by
  rw [mipiCsisSetParams_cmnCtrl, BitVec.or_assoc]
  exact or_or_and_self _ _ _

theorem systemEnable_lanes (dev : CsiDev ρ) :
    (mipiCsisSystemEnable true dev).regs .dphyctrl &&& mipiCsisDphyctrlEnable =
      ((1#32 <<< (dev.numLanes + 1#32)) - 1#32) &&& mipiCsisDphyctrlEnable := by
  simp only [mipiCsisSystemEnable, if_true, mipiCsisWrite_regs_self, mipiCsisWrite_toCsiConf]
  rw [update_and_within _ (by decide), BitVec.and_assoc, BitVec.and_self]

theorem gasketEnable_enable (dev : CsiDev ρ) :
    (dispMixGasketEnable true dev).gasket .ctrl &&& gasketCtrlEnable = gasketCtrlEnable := by
  simp only [dispMixGasketEnable, regmapUpdateBits, if_true, regmapWrite_gasket_self]
  rw [update_and_within _ (by decide)]
  decide

/-- The stream that starts is decided by the settings and what is left over. -/
theorem streamFields_startStream {dev : CsiDev ρ} (h : dev.state.csisFmt ∈ mipiCsisFormats) :
    streamFields (mipiCsisStartStream dev) =
      fieldsOf (settings dev.toCsiConf) ((leftovers dev).program (settings dev.toCsiConf)) := by
  rw [← leftovers_startStream h]
  have hconfig : ∀ field, mipiCsisIspcfgAlign32bit &&& field = 0 →
      (mipiCsisStartStream dev).regs .ispconfigCh0 &&& field =
        ispconfigOf dev.state.csisFmt.fmtReg (dev.regs .ispconfigCh0) &&& field := by
    intro field hfield
    rw [mipiCsisStartStream_regs (by decide) (by decide) (by decide) (by decide),
      setParams_ispconfig _ hfield, dispMixGasketConfig_toCsiConf, dispMixGasketConfig_regs,
      mipiCsisSwReset, mipiCsisWrite_regs_ne (by decide), mipiCsisWrite_toCsiConf]
  have hresol : (mipiCsisStartStream dev).regs .ispresolCh0 =
      dev.state.format.width ||| dev.state.format.height <<< 16 := by
    rw [mipiCsisStartStream_regs (by decide) (by decide) (by decide) (by decide),
      mipiCsisSetParams_ispresolCh0, dispMixGasketConfig_toCsiConf]
    rfl
  have hcmn : ∀ field, mipiCsisCmnCtrlEnable &&& field = 0 →
      (mipiCsisStartStream dev).regs .cmnCtrl &&& field =
        (mipiCsisSetParams (dispMixGasketConfig (mipiCsisSwReset dev))).regs .cmnCtrl &&&
          field := by
    intro field hfield
    rw [mipiCsisStartStream, mipiCsisEnableInterrupts_regs (by decide) (by decide),
      dispMixGasketEnable_regs, systemEnable_cmnCtrl _ _ hfield]
  have hdphy : (mipiCsisStartStream dev).regs .dphyctrl =
      (mipiCsisSystemEnable true
        (mipiCsisSetParams (dispMixGasketConfig (mipiCsisSwReset dev)))).regs .dphyctrl := by
    rw [mipiCsisStartStream, mipiCsisEnableInterrupts_regs (by decide) (by decide),
      dispMixGasketEnable_regs]
  have hlanes : (mipiCsisStartStream dev).regs .dphyctrl &&& mipiCsisDphyctrlEnable =
      ((1#32 <<< (dev.numLanes + 1#32)) - 1#32) &&& mipiCsisDphyctrlEnable := by
    rw [hdphy, systemEnable_lanes, mipiCsisSetParams_toCsiConf, dispMixGasketConfig_toCsiConf]
    rfl
  have hsettle : (mipiCsisStartStream dev).regs .dphyctrl &&& mipiCsisDphyctrlHssMask =
      (settings dev.toCsiConf).settleBits &&& mipiCsisDphyctrlHssMask := by
    rw [hdphy, systemEnable_dphyctrl _ _ (by decide), mipiCsisSetParams_dphyctrl,
      update_and_within _ (by decide), dispMixGasketConfig_toCsiConf]
    rfl
  have henable : (mipiCsisStartStream dev).gasket .ctrl &&& gasketCtrlEnable =
      gasketCtrlEnable := gasketEnable_enable _
  rw [streamFields, fieldsOf, hconfig _ (by decide), hconfig _ (by decide), hresol, henable,
    ispconfigOf_format, ispconfigOf_pixelMode, hcmn _ (by decide), hcmn _ (by decide),
    setParams_laneNr, setParams_hdrMode, hlanes, hsettle, dispMixGasketConfig_toCsiConf]
  rfl

/-- The settings an operation programs the receiver from, if it programs it. -/
def programs (dev : CsiDev ρ) : CsisOp → List Settings
  | .sStream true => [settings dev.toCsiConf]
  | .sFmt fmt =>
      match csisSFmtRow fmt.format with
      | none => []
      | some row => [{ settings dev.toCsiConf with
          csisFmt := row, width := fmt.width, height := fmt.height }]
  | _ => []

/-- The programmings of a history, in order. -/
def programmings (ops : PadOps ρ) (dev : CsiDev ρ) (history : List CsisOp) : List Settings :=
  trace (csisStep ops) programs dev history

theorem leftovers_csisStep (ops : PadOps ρ) {dev : CsiDev ρ}
    (h : dev.state.csisFmt ∈ mipiCsisFormats) (op : CsisOp) :
    leftovers (csisStep ops dev op) =
      (programs dev op).foldl Leftovers.program (leftovers dev) := by
  cases op with
  | setFmt mf => rfl
  | getFmt => rfl
  | sHdr enable => rfl
  | reset => exact leftovers_swReset dev
  | sStream enable =>
      cases enable
      · change leftovers (mipiCsisStopStream dev) = leftovers dev
        rw [mipiCsisStopStream, leftovers_gasketEnable, leftovers_systemEnable,
          leftovers_enableInterrupts]
      · exact leftovers_startStream h
  | sFmt fmt =>
      rw [csisStep, csisSFmt, programs]
      rcases hrow : csisSFmtRow fmt.format with _ | row
      · rfl
      · dsimp only
        rw [leftovers_program (csisSFmtRow_mem hrow)]
        rfl

/-- What a history leaves over is what its programmings have made of the leftovers. -/
theorem leftovers_exec (ops : PadOps ρ) {dev : CsiDev ρ}
    (h : dev.state.csisFmt ∈ mipiCsisFormats) (history : List CsisOp) :
    leftovers (exec (csisStep ops) dev history) =
      (programmings ops dev history).foldl Leftovers.program (leftovers dev) := by
  refine exec_of_trace (I := fun dev => dev.state.csisFmt ∈ mipiCsisFormats) ?_ h history
  intro dev op h
  exact ⟨leftovers_csisStep ops h op, csisStep_csisFmt ops h op⟩

theorem exec_csisFmt (ops : PadOps ρ) {dev : CsiDev ρ}
    (h : dev.state.csisFmt ∈ mipiCsisFormats) (history : List CsisOp) :
    (exec (csisStep ops) dev history).state.csisFmt ∈ mipiCsisFormats := by
  induction history generalizing dev with
  | nil => exact h
  | cons op history ih => exact ih (csisStep_csisFmt ops h op)

theorem exec_fixedPart (ops : PadOps ρ) (dev : CsiDev ρ) (history : List CsisOp) :
    fixedPart (exec (csisStep ops) dev history).toCsiConf = fixedPart dev.toCsiConf := by
  induction history generalizing dev with
  | nil => rfl
  | cons op history ih => rw [exec_cons, ih, csisStep_fixedPart]

def Settings.fixedPart (p : Settings) : U32 × U32 × U32 := (p.numLanes, p.hsSettle, p.clkSettle)

theorem programmings_wellFormed (ops : PadOps ρ) {dev : CsiDev ρ}
    (h : dev.state.csisFmt ∈ mipiCsisFormats) (history : List CsisOp) :
    ∀ p ∈ programmings ops dev history,
      p.csisFmt ∈ mipiCsisFormats ∧
        p.fixedPart = StreamProgramming.fixedPart dev.toCsiConf := by
  refine forall_mem_trace (I := fun dev' => dev'.state.csisFmt ∈ mipiCsisFormats ∧
    StreamProgramming.fixedPart dev'.toCsiConf = StreamProgramming.fixedPart dev.toCsiConf)
    ?_ ⟨h, rfl⟩ history
  rintro dev' op ⟨hfmt, hfixed⟩
  refine ⟨?_, csisStep_csisFmt ops hfmt op, (csisStep_fixedPart ops dev' op).trans hfixed⟩
  cases op with
  | setFmt mf => exact List.forall_mem_nil _
  | getFmt => exact List.forall_mem_nil _
  | sHdr enable => exact List.forall_mem_nil _
  | reset => exact List.forall_mem_nil _
  | sStream enable =>
      cases enable
      · exact List.forall_mem_nil _
      · exact List.forall_mem_singleton.mpr ⟨hfmt, hfixed⟩
  | sFmt fmt =>
      rw [programs]
      rcases hrow : csisSFmtRow fmt.format with _ | row
      · exact List.forall_mem_nil _
      · exact List.forall_mem_singleton.mpr ⟨csisSFmtRow_mem hrow, hfixed⟩

theorem fieldsOf_inj {p : Settings} {l l' : Leftovers} :
    fieldsOf p l = fieldsOf p l' ↔ l = l' := by
  constructor
  · intro h
    rcases l with ⟨_, _, ⟨_, _⟩, _, _⟩
    rcases l' with ⟨_, _, ⟨_, _⟩, _, _⟩
    simp only [fieldsOf, StreamFields.mk.injEq] at h
    simp [h]
  · rintro rfl
    rfl

theorem foldl_dataType (progs : List Settings) (l : Leftovers) :
    (progs.foldl Leftovers.program l).dataType =
      progs.foldl (fun acc p => acc ||| p.typeBits) l.dataType :=
  (List.foldl_hom Leftovers.dataType fun _ _ => rfl).symm

theorem foldl_dualComp (progs : List Settings) (l : Leftovers) :
    (progs.foldl Leftovers.program l).dualComp =
      progs.foldl (fun acc p => acc ||| p.dualBits) l.dualComp :=
  (List.foldl_hom Leftovers.dualComp fun _ _ => rfl).symm

theorem foldl_size (progs : List Settings) (l : Leftovers) :
    (progs.foldl Leftovers.program l).size =
      progs.foldl (fun size p => p.sizeOver size) l.size :=
  (List.foldl_hom Leftovers.size fun _ _ => rfl).symm

theorem foldl_hdrShadow (progs : List Settings) (l : Leftovers) :
    (progs.foldl Leftovers.program l).hdrShadow =
      progs.foldl (fun acc p => acc ||| p.shadowBits) l.hdrShadow :=
  (List.foldl_hom Leftovers.hdrShadow fun _ _ => rfl).symm

theorem foldl_sclks (progs : List Settings) (l : Leftovers) :
    (progs.foldl Leftovers.program l).sclks =
      progs.foldl (fun acc p => acc ||| p.sclksBits) l.sclks :=
  (List.foldl_hom Leftovers.sclks fun _ _ => rfl).symm

/-- A format whose data type is among the bits of another adds no dual component bit
that the other lacks. -/
theorem dualBits_within : ∀ fmt ∈ mipiCsisFormats, ∀ fmt' ∈ mipiCsisFormats,
    Within (gasketCtrlDataType (mipiDataType fmt)) (gasketCtrlDataType (mipiDataType fmt')) →
      mipiDataType fmt = gasketCtrlDataTypeYuv422_8 →
        mipiDataType fmt' = gasketCtrlDataTypeYuv422_8 := by
  decide

theorem Settings.dualBits_of_typeBits {p final : Settings} (hp : p.csisFmt ∈ mipiCsisFormats)
    (hfinal : final.csisFmt ∈ mipiCsisFormats) (h : Within p.typeBits final.typeBits) :
    Within p.dualBits final.dualBits := by
  by_cases htype : mipiDataType p.csisFmt = gasketCtrlDataTypeYuv422_8
  · rw [Settings.dualBits, Settings.dualBits, if_pos htype,
      if_pos (dualBits_within _ hp _ hfinal h htype)]
    exact BitVec.or_self
  · rw [Settings.dualBits, if_neg htype]
    exact BitVec.zero_or

theorem foldl_shadowBits {progs : List Settings} {final : Settings} {start : U32}
    (hlanes : ∀ p ∈ progs, p.numLanes = final.numLanes)
    (hstart : start ||| cmnCtrlHdrShadow = cmnCtrlHdrShadow) :
    progs.foldl (fun acc p => acc ||| p.shadowBits) start ||| final.shadowBits =
      if progs.any Settings.hdr || final.hdr then cmnCtrlHdrShadow
      else start ||| (final.laneBits &&& cmnCtrlHdrShadow) := by
  induction progs generalizing start with
  | nil =>
      rcases hhdr : final.hdr with _ | _
      · simp [Settings.shadowBits, hhdr]
      · simp [Settings.shadowBits, hhdr, and_or_cancel, hstart]
  | cons p progs ih =>
      obtain ⟨hp, hprogs⟩ := List.forall_mem_cons.mp hlanes
      have hlane : p.laneBits = final.laneBits := by
        rw [Settings.laneBits, Settings.laneBits, hp]
      have hbits : p.shadowBits ||| cmnCtrlHdrShadow = cmnCtrlHdrShadow := by
        rw [Settings.shadowBits]
        split_ifs <;> simp [and_or_cancel]
      rw [List.foldl_cons, ih hprogs (by rw [BitVec.or_assoc, hbits, hstart]), List.any_cons]
      rcases hhdr : p.hdr with _ | _
      · rw [Settings.shadowBits, hhdr, hlane]
        simp [BitVec.or_assoc]
      · have hset : p.shadowBits = cmnCtrlHdrShadow := by
          rw [Settings.shadowBits, hhdr]
          exact and_or_cancel _ _
        rw [hset, hstart, BitVec.or_comm, and_or_cancel]
        simp

/-- What a history may have programmed before, so that a stream with the settings
`final` does not show it: no data type with a bit that the final one lacks, no HDR
programming if the final one is without HDR, no size if the final one is not written. -/
structure SameTraces (dev : CsiDev ρ) (final : Settings) (progs progs' : List Settings) :
    Prop where
  powerOn : Within (dev.gasket .ctrl &&& gasketCtrlDataTypeMask) final.typeBits
  types : ∀ p ∈ progs ++ progs', Within p.typeBits final.typeBits
  shadow : (progs.any Settings.hdr || final.hdr) = (progs'.any Settings.hdr || final.hdr) ∨
    Within cmnCtrlHdrShadow (dev.regs .cmnCtrl ||| final.laneBits)
  sizes : (final.width ≠ 0 ∧ final.height ≠ 0) ∨
    progs.foldl Settings.sizeOver (dev.gasket .hsize, dev.gasket .vsize) =
      progs'.foldl Settings.sizeOver (dev.gasket .hsize, dev.gasket .vsize)

theorem ite_shadow_iff {b b' : Bool} {x : U32} :
    ((if b then cmnCtrlHdrShadow else x) = if b' then cmnCtrlHdrShadow else x) ↔
      b = b' ∨ x = cmnCtrlHdrShadow := by
  cases b <;> cases b' <;> simp [eq_comm]

theorem sizeOver_eq_iff {final : Settings} {size size' : U32 × U32} :
    final.sizeOver size = final.sizeOver size' ↔
      (final.width ≠ 0 ∧ final.height ≠ 0) ∨ size = size' := by
  simp only [Settings.sizeOver]
  split_ifs with h
  · constructor
    · intro hsize
      exact .inr hsize
    · rintro (⟨hwidth, hheight⟩ | hsize)
      · exact absurd h (not_or.mpr ⟨hwidth, hheight⟩)
      · exact hsize
  · simp only [true_iff]
    exact .inl (not_or.mp h)

/-- The data type field of the stream that starts is the final one exactly when all
that was put there before is among its bits. -/
theorem dataType_iff {progs : List Settings} {l : Leftovers} {final : Settings} :
    ((progs.foldl Leftovers.program l).program final).dataType = final.typeBits ↔
      Within l.dataType final.typeBits ∧ ∀ p ∈ progs, Within p.typeBits final.typeBits := by
  rw [← within_foldl_or_iff, ← foldl_dataType]
  rfl

theorem hdrShadow_eq {progs : List Settings} {dev : CsiDev ρ} {final : Settings}
    (hlanes : ∀ p ∈ progs, p.numLanes = final.numLanes) :
    ((progs.foldl Leftovers.program (leftovers dev)).program final).hdrShadow =
      if progs.any Settings.hdr || final.hdr then cmnCtrlHdrShadow
      else (dev.regs .cmnCtrl ||| final.laneBits) &&& cmnCtrlHdrShadow := by
  rw [BitVec.and_or_distrib_right,
    ← foldl_shadowBits hlanes (and_or_cancel (dev.regs .cmnCtrl) cmnCtrlHdrShadow)]
  exact congrArg (· ||| final.shadowBits) (foldl_hdrShadow progs (leftovers dev))

theorem dualComp_eq {progs : List Settings} {l : Leftovers} {final : Settings}
    (hwell : ∀ p ∈ progs, p.csisFmt ∈ mipiCsisFormats) (hfinal : final.csisFmt ∈ mipiCsisFormats)
    (htypes : ∀ p ∈ progs, Within p.typeBits final.typeBits) :
    ((progs.foldl Leftovers.program l).program final).dualComp =
      l.dualComp ||| final.dualBits := by
  rw [← foldl_or_or_of_within fun p hp =>
    Settings.dualBits_of_typeBits (hwell p hp) hfinal (htypes p hp)]
  exact congrArg (· ||| final.dualBits) (foldl_dualComp progs l)

theorem sclks_eq {progs : List Settings} {l : Leftovers} {final : Settings}
    (hsettle : ∀ p ∈ progs, p.settleBits = final.settleBits) :
    ((progs.foldl Leftovers.program l).program final).sclks = l.sclks ||| final.sclksBits := by
  have hwithin : ∀ p ∈ progs, Within p.sclksBits final.sclksBits := by
    intro p hp
    rw [Settings.sclksBits, hsettle p hp]
    exact BitVec.or_self
  rw [← foldl_or_or_of_within hwithin]
  exact congrArg (· ||| final.sclksBits) (foldl_sclks progs l)

theorem program_eq_iff {dev : CsiDev ρ} {final : Settings} {progs progs' : List Settings}
    (hfinal : final.csisFmt ∈ mipiCsisFormats)
    (hwell : ∀ p ∈ progs, p.csisFmt ∈ mipiCsisFormats ∧ p.fixedPart = final.fixedPart)
    (hwell' : ∀ p ∈ progs', p.csisFmt ∈ mipiCsisFormats ∧ p.fixedPart = final.fixedPart) :
    ((progs.foldl Leftovers.program (leftovers dev)).program final =
        (progs'.foldl Leftovers.program (leftovers dev)).program final ∧
      ((progs.foldl Leftovers.program (leftovers dev)).program final).dataType =
        final.typeBits) ↔
      SameTraces dev final progs progs' := by
  have hlanes : ∀ {p : Settings}, p.fixedPart = final.fixedPart → p.numLanes = final.numLanes :=
    fun h => congrArg Prod.fst h
  have hsettle : ∀ {p : Settings}, p.fixedPart = final.fixedPart →
      p.settleBits = final.settleBits := by
    intro p h
    rw [Settings.settleBits, Settings.settleBits, show p.hsSettle = final.hsSettle from
      congrArg (·.2.1) h, show p.clkSettle = final.clkSettle from congrArg (·.2.2) h]
  have hshadow := @hdrShadow_eq ρ progs dev final fun p hp => hlanes (hwell p hp).2
  have hshadow' := @hdrShadow_eq ρ progs' dev final fun p hp => hlanes (hwell' p hp).2
  have hsize : ∀ progs : List Settings,
      ((progs.foldl Leftovers.program (leftovers dev)).program final).size =
        final.sizeOver (progs.foldl Settings.sizeOver (dev.gasket .hsize, dev.gasket .vsize)) :=
    fun progs => congrArg final.sizeOver (foldl_size progs (leftovers dev))
  constructor
  · rintro ⟨heq, htype⟩
    obtain ⟨hpower, htypes⟩ := dataType_iff.mp htype
    rw [heq] at htype
    obtain ⟨-, htypes'⟩ := dataType_iff.mp htype
    have hshadows := congrArg Leftovers.hdrShadow heq
    rw [hshadow, hshadow', ite_shadow_iff, and_eq_iff_within] at hshadows
    have hsizes := congrArg Leftovers.size heq
    rw [hsize, hsize, sizeOver_eq_iff] at hsizes
    refine ⟨hpower, ?_, hshadows, hsizes⟩
    intro p hp
    rcases List.mem_append.mp hp with hp | hp
    · exact htypes p hp
    · exact htypes' p hp
  · rintro ⟨hpower, htypes, hshadows, hsizes⟩
    obtain ⟨htypes, htypes'⟩ := List.forall_mem_append.mp htypes
    have htype := (@dataType_iff progs (leftovers dev) final).mpr ⟨hpower, htypes⟩
    have htype' := (@dataType_iff progs' (leftovers dev) final).mpr ⟨hpower, htypes'⟩
    have hdual := @dualComp_eq progs (leftovers dev) final (fun p hp => (hwell p hp).1) hfinal
      htypes
    have hdual' := @dualComp_eq progs' (leftovers dev) final (fun p hp => (hwell' p hp).1)
      hfinal htypes'
    have hsclks := @sclks_eq progs (leftovers dev) final fun p hp => hsettle (hwell p hp).2
    have hsclks' := @sclks_eq progs' (leftovers dev) final fun p hp => hsettle (hwell' p hp).2
    refine ⟨Leftovers.ext (htype.trans htype'.symm) (hdual.trans hdual'.symm) ?_ ?_
      (hsclks.trans hsclks'.symm), htype⟩
    · rw [hsize, hsize]
      exact sizeOver_eq_iff.mpr hsizes
    · rw [hshadow, hshadow', ite_shadow_iff, and_eq_iff_within]
      exact hshadows

/-- The start of a stream does not show how its settings came about, and the gasket
gets the data type of the format, exactly when the two histories have the same
traces. -/
theorem historyFree_iff (ops : PadOps ρ) {board : CsisBoard ρ} {dev : CsiDev ρ}
    (hprobe : mipiCsisProbe board = .ok dev) (history history' : List CsisOp)
    (hsame : settings (exec (csisStep ops) dev history).toCsiConf =
      settings (exec (csisStep ops) dev history').toCsiConf) :
    (streamFields (mipiCsisStartStream (exec (csisStep ops) dev history)) =
        streamFields (mipiCsisStartStream (exec (csisStep ops) dev history')) ∧
      (streamFields (mipiCsisStartStream (exec (csisStep ops) dev history))).dataType =
        gasketCtrlDataType
          (mipiDataType (exec (csisStep ops) dev history).state.csisFmt)) ↔
      SameTraces dev (settings (exec (csisStep ops) dev history).toCsiConf)
        (programmings ops dev history) (programmings ops dev history') := by
  have hfmt : dev.state.csisFmt ∈ mipiCsisFormats := by
    rw [mipiCsisProbe] at hprobe
    split_ifs at hprobe
    rw [← Except.ok.inj hprobe]
    exact List.mem_cons_self
  have hfixed : (settings (exec (csisStep ops) dev history).toCsiConf).fixedPart =
      fixedPart dev.toCsiConf :=
    exec_fixedPart ops dev history
  rw [streamFields_startStream (exec_csisFmt ops hfmt history),
    streamFields_startStream (exec_csisFmt ops hfmt history'), ← hsame, fieldsOf_inj,
    leftovers_exec ops hfmt, leftovers_exec ops hfmt,
    ← program_eq_iff (exec_csisFmt ops hfmt history)]
  · rfl
  · rw [hfixed]
    exact programmings_wellFormed ops hfmt history
  · rw [hfixed]
    exact programmings_wellFormed ops hfmt history'

/-- A receiver with two of four lanes, all registers clear, and a sensor that takes
every format. -/
def board : CsisBoard Unit where
  sensor := ()
  remoteSensor := true
  maxNumLanes := 4
  numLanes := 2
  hsSettle := 13
  clkSettle := 2
  wclkExt := true
  regs := fun _ => 0
  gasket := fun _ => 0

def boardDev : CsiDev Unit where
  state := ⟨mipiCsisFormat0, ⟨mipiCsisFormat0.code, 1920, 1080⟩, true, ()⟩
  hdr := false
  numLanes := 2
  hsSettle := 13
  clkSettle := 2
  wclkExt := true
  regs := board.regs
  gasket := board.gasket

def anyFormat : PadOps Unit where
  setFmt := fun _ mf => ((), mf, .ok ())
  getFmt := fun _ => ((), .ok ⟨mediaBusFmtYuyv8_2x8, 1920, 1080⟩)

/-- `VVCSIOC_S_FMT` for full HD frames. -/
def sFmt1080p (format : U32) : CsisOp := .sFmt ⟨format.setWidth 64, 1920, 1080⟩

theorem historyFree_iff_raw8 :
    streamFields (mipiCsisStartStream (exec (csisStep anyFormat) boardDev
        [sFmt1080p v4l2PixFmtSbggr8, .sStream true, .sStream false,
          sFmt1080p v4l2PixFmtSrggb8])) =
      streamFields (mipiCsisStartStream (exec (csisStep anyFormat) boardDev
        [sFmt1080p v4l2PixFmtSrggb8])) :=
  ((@historyFree_iff Unit anyFormat board boardDev rfl _ _ (by decide)).mpr
    ⟨by decide, by decide, by decide, by decide⟩).1

/-- After a 12-bit format the gasket has a 10-bit one with the bits of both types. -/
theorem raw12_leaves_type :
    settings (exec (csisStep anyFormat) boardDev
        [sFmt1080p v4l2PixFmtSrggb12, sFmt1080p v4l2PixFmtSrggb10]).toCsiConf =
      settings (exec (csisStep anyFormat) boardDev
        [sFmt1080p v4l2PixFmtSrggb10]).toCsiConf ∧
    streamFields (mipiCsisStartStream (exec (csisStep anyFormat) boardDev
        [sFmt1080p v4l2PixFmtSrggb12, sFmt1080p v4l2PixFmtSrggb10])) ≠
      streamFields (mipiCsisStartStream (exec (csisStep anyFormat) boardDev
        [sFmt1080p v4l2PixFmtSrggb10])) ∧
    (streamFields (mipiCsisStartStream (exec (csisStep anyFormat) boardDev
        [sFmt1080p v4l2PixFmtSrggb12, sFmt1080p v4l2PixFmtSrggb10]))).dataType ≠
      gasketCtrlDataType (mipiDataType (exec (csisStep anyFormat) boardDev
        [sFmt1080p v4l2PixFmtSrggb12, sFmt1080p v4l2PixFmtSrggb10]).state.csisFmt) := by
  decide

end CameraPorting.Csis.HistoryFree
