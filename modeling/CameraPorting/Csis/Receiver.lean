import CameraPorting.Kernel.Media
import Mathlib.Data.List.Basic

namespace CameraPorting.Csis.Receiver

open CameraPorting.Kernel.Media

def mipiCsisIspcfgFmtYcbcr422_8bit : U32 := 0x1e <<< 2
def mipiCsisIspcfgFmtRgb888 : U32 := 0x24 <<< 2
def mipiCsisIspcfgFmtRaw8 : U32 := 0x2a <<< 2
def mipiCsisIspcfgFmtRaw10 : U32 := 0x2b <<< 2
def mipiCsisIspcfgFmtRaw12 : U32 := 0x2c <<< 2

structure CsisPixFormat where
  code : U32
  fmtReg : U32
  dataAlignment : U8
  deriving DecidableEq, Repr

def mipiCsisFormat0 : CsisPixFormat := ⟨mediaBusFmtYuyv8_2x8, mipiCsisIspcfgFmtYcbcr422_8bit, 16⟩

def mipiCsisFormats : List CsisPixFormat :=
  [mipiCsisFormat0,
    ⟨mediaBusFmtRgb888_1x24, mipiCsisIspcfgFmtRgb888, 24⟩,
    ⟨mediaBusFmtUyvy8_2x8, mipiCsisIspcfgFmtYcbcr422_8bit, 16⟩,
    ⟨mediaBusFmtVyuy8_2x8, mipiCsisIspcfgFmtYcbcr422_8bit, 16⟩,
    ⟨mediaBusFmtSbggr8_1x8, mipiCsisIspcfgFmtRaw8, 8⟩,
    ⟨mediaBusFmtSgbrg8_1x8, mipiCsisIspcfgFmtRaw8, 8⟩,
    ⟨mediaBusFmtSgrbg8_1x8, mipiCsisIspcfgFmtRaw8, 8⟩,
    ⟨mediaBusFmtSrggb8_1x8, mipiCsisIspcfgFmtRaw8, 8⟩,
    ⟨mediaBusFmtSbggr10_1x10, mipiCsisIspcfgFmtRaw10, 16⟩,
    ⟨mediaBusFmtSgbrg10_1x10, mipiCsisIspcfgFmtRaw10, 16⟩,
    ⟨mediaBusFmtSgrbg10_1x10, mipiCsisIspcfgFmtRaw10, 16⟩,
    ⟨mediaBusFmtSrggb10_1x10, mipiCsisIspcfgFmtRaw10, 16⟩,
    ⟨mediaBusFmtSbggr12_1x12, mipiCsisIspcfgFmtRaw12, 16⟩,
    ⟨mediaBusFmtSgbrg12_1x12, mipiCsisIspcfgFmtRaw12, 16⟩,
    ⟨mediaBusFmtSgrbg12_1x12, mipiCsisIspcfgFmtRaw12, 16⟩,
    ⟨mediaBusFmtSrggb12_1x12, mipiCsisIspcfgFmtRaw12, 16⟩,
    ⟨mediaBusFmtY8_1x8, mipiCsisIspcfgFmtRaw8, 8⟩,
    ⟨mediaBusFmtY10_1x10, mipiCsisIspcfgFmtRaw10, 16⟩,
    ⟨mediaBusFmtY12_1x12, mipiCsisIspcfgFmtRaw12, 16⟩]

def findCsisFormat (code : U32) : Option CsisPixFormat :=
  mipiCsisFormats.find? fun fmt => fmt.code == code

/-- The format part of `struct csi_state`, with the sensor behind the receiver.
`remoteSensor` says whether the pad and the subdev of the sensor are found. -/
structure CsiState (ρ : Type) where
  csisFmt : CsisPixFormat
  format : MbusFramefmt
  remoteSensor : Bool
  sensor : ρ

/-- `mipi_csis_set_fmt`; a code without a row is replaced by that of row 0 in the
caller's structure. -/
def mipiCsisSetFmt {ρ : Type} (ops : PadOps ρ) (state : CsiState ρ) (mf : MbusFramefmt) :
    CsiState ρ × MbusFramefmt × Ret :=
  if !state.remoteSensor then (state, mf, .error .einval)
  else
    match ops.setFmt state.sensor mf with
    | (sensor, mf, .error _) => ({ state with sensor := sensor }, mf, .error .einval)
    | (sensor, mf, .ok ()) =>
        match findCsisFormat mf.code with
        | some fmt => ({ state with sensor := sensor, csisFmt := fmt }, mf, .ok ())
        | none => ({ state with sensor := sensor, csisFmt := mipiCsisFormat0 },
            { mf with code := mipiCsisFormat0.code }, .ok ())

def mipiCsisGetFmt {ρ : Type} (ops : PadOps ρ) (state : CsiState ρ) :
    CsiState ρ × Except Errno MbusFramefmt :=
  if !state.remoteSensor then (state, .error .einval)
  else
    match ops.getFmt state.sensor with
    | (sensor, .error e) => ({ state with sensor := sensor }, .error e)
    | (sensor, .ok mf) => ({ state with sensor := sensor, format := mf }, .ok mf)

def mipiCsisPadOps {ρ : Type} (ops : PadOps ρ) : PadOps (CsiState ρ) where
  setFmt := mipiCsisSetFmt ops
  getFmt := mipiCsisGetFmt ops

end CameraPorting.Csis.Receiver
