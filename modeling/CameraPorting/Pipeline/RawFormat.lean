import CameraPorting.Pipeline.Sensors
import CameraPorting.Csis.Receiver
import CameraPorting.Isi.FrameSizes

namespace CameraPorting.Pipeline.RawFormat

open CameraPorting.Kernel.Media
open CameraPorting.Isi.Device
open CameraPorting.Isi.Formats
open CameraPorting.Isi.Ioctls
open CameraPorting.Isi.FrameSizes
open CameraPorting.Csis.Receiver
open CameraPorting.SensorImx219.Sensor
open CameraPorting.Pipeline.Sensors

/-- A Bayer or grey row of the output formats. -/
def RawRow (fmt : MxcIsiFmt) : Prop :=
  fmt.color = mxcIsiOutFmtRaw8 ∨ fmt.color = mxcIsiOutFmtRaw10 ∨ fmt.color = mxcIsiOutFmtRaw12

instance (fmt : MxcIsiFmt) : Decidable (RawRow fmt) :=
  inferInstanceAs (Decidable (_ ∨ _ ∨ _))

/-- The three drivers agree on the format of the row. -/
structure RawAgreement (fmt : MxcIsiFmt) (csis : CsiState BoardSensor) (cap : MxcIsiCapDev) :
    Prop where
  code : (activeFormat csis.sensor).code = fmt.mbusCode
  receiver : findCsisFormat fmt.mbusCode = some csis.csisFmt
  width : cap.srcF.width = (activeFormat csis.sensor).width
  height : cap.srcF.height = (activeFormat csis.sensor).height

def negotiate (nearest : NearestSize) (remote : Bool) (csis : CsiState BoardSensor)
    (cap : MxcIsiCapDev) : CsiState BoardSensor × MxcIsiCapDev × Ret :=
  mxcIsiSourceFmtInit (mipiCsisPadOps (sensorPadOps nearest)) remote csis cap

/-- A negotiation that succeeds ends in agreement, and one for a code the sensor
cannot deliver fails. -/
def AgreesEndToEnd (nearest : NearestSize) (remote : Bool) (csis : CsiState BoardSensor)
    (cap : MxcIsiCapDev) (fmt : MxcIsiFmt) : Prop :=
  ((negotiate nearest remote csis cap).2.2 = .ok () →
      RawAgreement fmt (negotiate nearest remote csis cap).1
        (negotiate nearest remote csis cap).2.1) ∧
    (¬Delivers csis.sensor fmt.mbusCode → (negotiate nearest remote csis cap).2.2 ≠ .ok ())

/-- What makes the negotiation fail: a missing link, a sensor that refuses, or a
sensor mode smaller than the output. -/
def Refused (nearest : NearestSize) (remote : Bool) (csis : CsiState BoardSensor)
    (request : MbusFramefmt) : Prop :=
  remote = false ∨ csis.remoteSensor = false ∨ SensorRefuses nearest csis.sensor request ∨
    ∃ size, givenSize nearest csis.sensor request.width request.height = some size ∧
      (size.1 < request.width ∨ size.2 < request.height)

theorem csis_setFmt (nearest : NearestSize) {csis : CsiState BoardSensor}
    (hclock : Clocked csis.sensor) (hremote : csis.remoteSensor = true) (mf : MbusFramefmt) :
    (¬SensorRefuses nearest csis.sensor mf ∧ ∃ size after filled,
        givenSize nearest csis.sensor mf.width mf.height = some size ∧
        mipiCsisSetFmt (sensorPadOps nearest) csis mf = (after, filled, .ok ()) ∧
        after.remoteSensor = true ∧
        (∀ row, findCsisFormat (givenCode csis.sensor mf.code) = some row →
          after.csisFmt = row) ∧
        activeFormat after.sensor = ⟨givenCode csis.sensor mf.code, size.1, size.2⟩) ∨
      (SensorRefuses nearest csis.sensor mf ∧ ∃ after filled,
        mipiCsisSetFmt (sensorPadOps nearest) csis mf = (after, filled, .error .einval)) := by
  unfold mipiCsisSetFmt
  rw [if_neg (by simp [hremote])]
  rcases sensor_setFmt nearest hclock mf with
    ⟨hok, size, sensor, filled, hsize, hset, hcode, hactive⟩ | ⟨hrefuses, sensor, filled, e, hset⟩
  · refine .inl ⟨hok, size, ?_⟩
    rw [hset]
    dsimp only
    rw [hcode]
    rcases findCsisFormat (givenCode csis.sensor mf.code) with _ | row
    · refine ⟨_, _, hsize, rfl, hremote, ?_, hactive⟩
      intro row hrow
      exact absurd hrow.symm (Option.some_ne_none row)
    · refine ⟨_, _, hsize, rfl, hremote, fun row' hrow => ?_, hactive⟩
      exact Option.some.inj hrow
  · exact .inr ⟨hrefuses, _, _, by rw [hset]⟩

theorem csis_getFmt (nearest : NearestSize) {csis : CsiState BoardSensor}
    (hremote : csis.remoteSensor = true) :
    mipiCsisGetFmt (sensorPadOps nearest) csis =
      ({ csis with format := activeFormat csis.sensor }, .ok (activeFormat csis.sensor)) := by
  unfold mipiCsisGetFmt
  rw [if_neg (by simp [hremote]), sensor_getFmt]

theorem negotiate_accepted (nearest : NearestSize) {csis after : CsiState BoardSensor}
    {cap : MxcIsiCapDev} {filled : MbusFramefmt}
    (hset : mipiCsisSetFmt (sensorPadOps nearest) csis
      ⟨(frameFmt cap.dstF).mbusCode, cap.dstF.width, cap.dstF.height⟩ = (after, filled, .ok ()))
    (hremote : after.remoteSensor = true) :
    negotiate nearest true csis cap = mxcIsiSourceFmtInit.sourceBounds
      { after with format := activeFormat after.sensor } cap (activeFormat after.sensor) := by
  simp only [negotiate, mxcIsiSourceFmtInit, mipiCsisPadOps, hset, csis_getFmt nearest hremote,
    callFailed, Bool.not_true, Bool.false_eq_true, if_false]

def withSource (cap : MxcIsiCapDev) (mf : MbusFramefmt) : MxcIsiCapDev :=
  { cap with
    srcF := setFrameBounds { cap.srcF with fmt := some (mxcIsiGetSrcFmt mf.code) }
      mf.width mf.height }

theorem sourceBounds_eq {ρ : Type} (r : ρ) (cap : MxcIsiCapDev) (mf : MbusFramefmt) :
    mxcIsiSourceFmtInit.sourceBounds r cap mf = (r, withSource cap mf,
      if mf.width < cap.dstF.width ∨ mf.height < cap.dstF.height then .error .einval
      else .ok ()) := by
  unfold mxcIsiSourceFmtInit.sourceBounds
  change (if mf.width < cap.dstF.width ∨ mf.height < cap.dstF.height then
    (r, withSource cap mf, (.error .einval : Ret)) else (r, withSource cap mf, .ok ())) = _
  split
  · rfl
  · rfl

/-- The negotiation fails when it is refused; else it ends with the code and the size
the sensor takes. -/
theorem negotiate_outcome (nearest : NearestSize) (remote : Bool)
    {csis : CsiState BoardSensor} (hclock : Clocked csis.sensor) {cap : MxcIsiCapDev}
    {request : MbusFramefmt}
    (hrequest : request =
      ⟨(frameFmt cap.dstF).mbusCode, cap.dstF.width, cap.dstF.height⟩) :
    (Refused nearest remote csis request ∧ (negotiate nearest remote csis cap).2.2 ≠ .ok ()) ∨
      (¬Refused nearest remote csis request ∧
        (negotiate nearest remote csis cap).2.2 = .ok () ∧
        (activeFormat (negotiate nearest remote csis cap).1.sensor).code =
          givenCode csis.sensor request.code ∧
        (∀ row, findCsisFormat (givenCode csis.sensor request.code) = some row →
          (negotiate nearest remote csis cap).1.csisFmt = row) ∧
        (negotiate nearest remote csis cap).2.1.srcF.width =
          (activeFormat (negotiate nearest remote csis cap).1.sensor).width ∧
        (negotiate nearest remote csis cap).2.1.srcF.height =
          (activeFormat (negotiate nearest remote csis cap).1.sensor).height) := by
  rcases hlink : remote with _ | _
  · exact .inl ⟨.inl rfl, fun hok => nomatch hok⟩
  rcases hsensor : csis.remoteSensor with _ | _
  · refine .inl ⟨.inr (.inl hsensor), fun hok => ?_⟩
    simp only [negotiate, mxcIsiSourceFmtInit, mipiCsisPadOps, mipiCsisSetFmt, hsensor,
      callFailed] at hok
    exact nomatch hok
  rcases csis_setFmt nearest hclock hsensor request with
    ⟨hok, size, after, filled, hsize, hset, hremote, hrow, hactive⟩ |
    ⟨hrefuses, after, filled, hset⟩
  · rw [hrequest] at hset
    rw [negotiate_accepted nearest hset hremote]
    have hcap : cap.dstF.width = request.width ∧ cap.dstF.height = request.height := by
      rw [hrequest]
      exact ⟨rfl, rfl⟩
    rw [sourceBounds_eq, hcap.1, hcap.2]
    dsimp only [withSource, setFrameBounds]
    rw [hactive]
    by_cases hsmall : size.1 < request.width ∨ size.2 < request.height
    · rw [if_pos hsmall]
      exact .inl ⟨.inr (.inr (.inr ⟨size, hsize, hsmall⟩)), fun hok => nomatch hok⟩
    · rw [if_neg hsmall]
      refine .inr ⟨?_, rfl, rfl, hrow, rfl, rfl⟩
      rintro (h | h | h | ⟨other, hother, h⟩)
      · exact Bool.noConfusion h
      · exact Bool.noConfusion (hsensor.symm.trans h)
      · exact hok h
      · rw [hsize, Option.some.injEq] at hother
        rw [← hother] at h
        exact hsmall h
  · rw [hrequest] at hset
    refine .inl ⟨.inr (.inr (.inl hrefuses)), fun hok => ?_⟩
    simp only [negotiate, mxcIsiSourceFmtInit, mipiCsisPadOps, hset, callFailed] at hok
    exact nomatch hok

theorem sFmt_ok {cap : MxcIsiCapDev} {busy : Bool} {pix : V4l2PixFormatMplane}
    (hset : (mxcIsiCapSFmtMplane cap busy pix).2.2 = .ok ()) {fmt : MxcIsiFmt}
    (hrow : fmt ∈ mxcIsiOutFormats) (hfourcc : pix.pixelformat = fmt.fourcc) :
    (mxcIsiCapSFmtMplane cap busy pix).1.dstF.fmt = some fmt ∧
      (mxcIsiCapSFmtMplane cap busy pix).1.dstF.width = pix.width ∧
      (mxcIsiCapSFmtMplane cap busy pix).1.dstF.height = pix.height := by
  have hfirst : ∀ row ∈ mxcIsiOutFormats,
      mxcIsiOutFormats.find? (fun other => other.fourcc == row.fourcc) = some row := by
    decide +kernel
  have hfind := hfirst fmt hrow
  rw [← hfourcc] at hfind
  have hfree : busy = false := by
    rcases hbusy : busy with _ | _
    · rfl
    · rw [hbusy] at hset
      simp only [mxcIsiCapSFmtMplane, hfind, if_true, reduceCtorEq] at hset
  subst hfree
  have hsize : ¬(pix.height = 0#32 ∨ pix.width = 0#32) := by
    intro hzero
    simp only [mxcIsiCapSFmtMplane, hfind, if_pos hzero, Bool.false_eq_true, if_false,
      reduceCtorEq] at hset
  rw [not_or] at hsize
  obtain ⟨hfmt, hwidth, hheight, -⟩ := sFmt_accepted hfind hsize.2 hsize.1
  exact ⟨hfmt, hwidth, hheight⟩

theorem csisRow_of_raw {fmt : MxcIsiFmt} (hrow : fmt ∈ mxcIsiOutFormats) (hraw : RawRow fmt) :
    ∃ row, findCsisFormat fmt.mbusCode = some row := by
  have hall : ∀ fmt ∈ mxcIsiOutFormats, RawRow fmt →
      (findCsisFormat fmt.mbusCode).isSome = true := by
    decide +kernel
  exact Option.isSome_iff_exists.mp (hall fmt hrow hraw)

/-- After an S_FMT with a raw format, a stream start ends in agreement or fails, as it
should, exactly when the sensor can deliver the code of the format or the
negotiation is refused for another reason: no driver compares the codes. -/
theorem agreesEndToEnd_iff (nearest : NearestSize) {before : MxcIsiCapDev} {busy : Bool}
    {pix : V4l2PixFormatMplane} (hset : (mxcIsiCapSFmtMplane before busy pix).2.2 = .ok ())
    {fmt : MxcIsiFmt} (hrow : fmt ∈ mxcIsiOutFormats) (hraw : RawRow fmt)
    (hfourcc : pix.pixelformat = fmt.fourcc) {cap : MxcIsiCapDev}
    (hdst : cap.dstF = (mxcIsiCapSFmtMplane before busy pix).1.dstF) (remote : Bool)
    {csis : CsiState BoardSensor} (hclock : Clocked csis.sensor) :
    AgreesEndToEnd nearest remote csis cap fmt ↔
      Delivers csis.sensor fmt.mbusCode ∨
        Refused nearest remote csis ⟨fmt.mbusCode, pix.width, pix.height⟩ := by
  obtain ⟨hfmt, hwidth, hheight⟩ := sFmt_ok hset hrow hfourcc
  have hrequest : (⟨fmt.mbusCode, pix.width, pix.height⟩ : MbusFramefmt) =
      ⟨(frameFmt cap.dstF).mbusCode, cap.dstF.width, cap.dstF.height⟩ := by
    rw [frameFmt, hdst, hfmt, hwidth, hheight]
    rfl
  rcases negotiate_outcome nearest remote hclock hrequest with
    ⟨hrefused, hfails⟩ | ⟨haccepted, hok, hcode, hreceiver, hw, hh⟩
  · constructor
    · intro _
      exact .inr hrefused
    · intro _
      exact ⟨fun hok => absurd hok hfails, fun _ => hfails⟩
  · constructor
    · intro hagrees
      left
      by_contra hundelivered
      exact hagrees.2 hundelivered hok
    · rintro (hdelivers | hrefused)
      · have hgiven : givenCode csis.sensor fmt.mbusCode = fmt.mbusCode :=
          (givenCode_eq_iff csis.sensor fmt.mbusCode).mpr hdelivers
        refine ⟨fun _ => ⟨?_, ?_, hw, hh⟩, fun hundelivered => absurd hdelivers hundelivered⟩
        · rw [hcode, hgiven]
        · obtain ⟨row, hfound⟩ := csisRow_of_raw hrow hraw
          dsimp only at hreceiver
          rw [hgiven] at hreceiver
          rw [hreceiver row hfound, hfound]
      · exact absurd hrefused haccepted

def imx219Receiver : CsiState BoardSensor where
  csisFmt := mipiCsisFormat0
  format := ⟨0, 0, 0⟩
  remoteSensor := true
  sensor := .imx219
    { fmt := ⟨mediaBusFmtSrggb10_1x10, 3280, 2464⟩
      tryFmt := ⟨mediaBusFmtSrggb10_1x10, 3280, 2464⟩
      mode := ⟨3280, 2464, imx219Vts15fps⟩
      hflip := false
      vflip := false
      vblank := ⟨4, 63071, 1, 1062, 1062⟩
      exposure := ⟨4, 3522, 1, 1600, 1600⟩
      hblank := ⟨168, 168, 1, 168, 168⟩ }

def bayerRow (fourcc code : U32) : MxcIsiFmt := outFmt fourcc [8] mxcIsiOutFmtRaw8 code

def pix1080p (fourcc : U32) : V4l2PixFormatMplane :=
  ⟨1920, 1080, fourcc, 1, fun _ => ⟨0, 0⟩⟩

theorem sFmt_1080p_bggr :
    (mxcIsiCapSFmtMplane boardCapture false (pix1080p v4l2PixFmtSbggr8)).2.2 = .ok () := by
  decide +kernel

theorem sFmt_1080p_rggb :
    (mxcIsiCapSFmtMplane boardCapture false (pix1080p v4l2PixFmtSrggb8)).2.2 = .ok () := by
  decide +kernel

/-- BA81 at 1920x1080 starts, with a sensor that sends RGGB. -/
theorem bggr_from_rggb_sensor :
    (mxcIsiCapSFmtMplane boardCapture false (pix1080p v4l2PixFmtSbggr8)).2.2 = .ok () ∧
      ¬AgreesEndToEnd leastError true imx219Receiver
        (mxcIsiCapSFmtMplane boardCapture false (pix1080p v4l2PixFmtSbggr8)).1
        (bayerRow v4l2PixFmtSbggr8 mediaBusFmtSbggr8_1x8) := by
  refine ⟨sFmt_1080p_bggr, fun hagrees => ?_⟩
  have hok : (negotiate leastError true imx219Receiver
      (mxcIsiCapSFmtMplane boardCapture false (pix1080p v4l2PixFmtSbggr8)).1).2.2 = .ok () := by
    decide +kernel
  have hcode : (activeFormat (negotiate leastError true imx219Receiver
      (mxcIsiCapSFmtMplane boardCapture false (pix1080p v4l2PixFmtSbggr8)).1).1.sensor).code =
        mediaBusFmtSrggb8_1x8 := by
    decide +kernel
  have hne : mediaBusFmtSrggb8_1x8 ≠ mediaBusFmtSbggr8_1x8 := by decide
  exact hne (hcode.symm.trans (hagrees.1 hok).code)

/-- RGGB on the same sensor ends in agreement. -/
theorem rggb_agrees :
    AgreesEndToEnd leastError true imx219Receiver
      (mxcIsiCapSFmtMplane boardCapture false (pix1080p v4l2PixFmtSrggb8)).1
      (bayerRow v4l2PixFmtSrggb8 mediaBusFmtSrggb8_1x8) := by
  have hdelivers : Delivers imx219Receiver.sensor
      (bayerRow v4l2PixFmtSrggb8 mediaBusFmtSrggb8_1x8).mbusCode := by
    change imx219GetFormatCode _ _ = _
    decide +kernel
  have hclock : Clocked imx219Receiver.sensor := trivial
  exact (agreesEndToEnd_iff leastError sFmt_1080p_rggb (by decide) (by decide) rfl rfl true
    hclock).mpr (.inl hdelivers)

end CameraPorting.Pipeline.RawFormat
