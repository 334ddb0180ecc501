import CameraPorting.Isi.Channel
import CameraPorting.Isi.Formats
import CameraPorting.Library.RegisterFields

namespace CameraPorting.Isi.Scaling

open CameraPorting.Kernel.Media
open CameraPorting.Isi.Device
open CameraPorting.Isi.Channel
open CameraPorting.Isi.Formats
open CameraPorting.Library.RegisterFields

/-- `decx` after the range tests; the other branch divides by the size alone. -/
def axisDecimation (src dst : U32) : U32 :=
  let dec := src / dst
  if 1#32 < dec then
    if dec < 4#32 then 2#32 else if dec < 8#32 then 4#32 else 8#32
  else 1#32

def axisDivisors (src dst : U32) : List U32 :=
  [dst, dst * axisDecimation src dst]

def maxScaleFactor : Nat := 0x3fff

def decXField (isi : MxcIsiDev) : Nat := ((isi.regs .imgCtrl &&& chnlImgCtrlDecXMask) >>> 10).toNat

def decYField (isi : MxcIsiDev) : Nat := ((isi.regs .imgCtrl &&& chnlImgCtrlDecYMask) >>> 8).toNat

/-- An axis is scaled from `src` to `dst` by the decimation `2 ^ dec` and the factor
`scale`. -/
structure AxisScaled (src dst : U32) (dec scale : Nat) : Prop where
  divides : ∀ v ∈ axisDivisors src dst, v ≠ 0
  decimation : (axisDecimation src dst).toNat = 2 ^ dec ∧ dec ≤ 3
  factor : scale = min (src.toNat * 4096 / (dst.toNat * 2 ^ dec)) maxScaleFactor

/-- The channel scales from the source to the output frame. -/
def ScalerProgrammed (isi : MxcIsiDev) (srcF dstF : MxcIsiFrame) : Prop :=
  if dstF.height = srcF.height ∧ dstF.width = srcF.width then
    isi.regs .scaleFactor = 0x10001000#32 ∧ decXField isi = 0 ∧ decYField isi = 0
  else
    ∃ xscale yscale, (isi.regs .scaleFactor).toNat = xscale + yscale * 2 ^ 16 ∧
      AxisScaled srcF.width dstF.width (decXField isi) xscale ∧
      AxisScaled srcF.height dstF.height (decYField isi) yscale

theorem toNat_mul_lt {a b : U32} (h : a.toNat * b.toNat < 2 ^ 32) :
    (a * b).toNat = a.toNat * b.toNat := by
  rw [BitVec.toNat_mul, Nat.mod_eq_of_lt h]

theorem toNat_scale {src dst d : U32} (hsrc : src.toNat < 8192) (hdst : dst.toNat < 8192)
    (hd : d.toNat ≤ 8) :
    (src * 0x1000#32 / (dst * d)).toNat = src.toNat * 4096 / (dst.toNat * d.toNat) := by
  have hnum : src.toNat * (0x1000#32).toNat < 2 ^ 32 := by
    simp only [BitVec.toNat_ofNat]
    omega
  have hden : dst.toNat * d.toNat < 2 ^ 32 := by
    calc dst.toNat * d.toNat ≤ 8192 * 8 := Nat.mul_le_mul (by omega) hd
      _ < 2 ^ 32 := by decide
  rw [BitVec.toNat_udiv, toNat_mul_lt hnum, toNat_mul_lt hden]
  rfl

theorem scale_le_iff {src dst k : Nat} (hdst : 0 < dst) :
    src * 4096 / (dst * 2 ^ k) ≤ maxScaleFactor ↔ src < 4 * (dst * 2 ^ k) := by
  have hpos : 0 < dst * 2 ^ k := Nat.mul_pos hdst (Nat.two_pow_pos k)
  rw [← Nat.lt_succ_iff, Nat.div_lt_iff_lt_mul hpos]
  simp only [maxScaleFactor]
  omega

/-- The branches of the range tests: the decimation is a power of two, and the
factor that comes with it. -/
theorem axisScaling_cases {src dst : U32} (hsrc : src.toNat < 8192) (hpos : 0 < dst.toNat)
    (hle : dst.toNat ≤ src.toNat) :
    ∃ k, k ≤ 3 ∧ (axisScaling src dst).1 = BitVec.ofNat 32 k ∧
      (axisDecimation src dst).toNat = 2 ^ k ∧
      (axisScaling src dst).2.toNat = src.toNat * 4096 / (dst.toNat * 2 ^ k) ∧
      (src.toNat * 4096 / (dst.toNat * 2 ^ k) ≤ maxScaleFactor ↔
        src.toNat < 32 * dst.toNat) := by
  have hdst : dst.toNat < 8192 := lt_of_le_of_lt hle hsrc
  have hdec (bound : U32) : src / dst < bound ↔ src.toNat < bound.toNat * dst.toNat := by
    rw [BitVec.lt_def, BitVec.toNat_udiv, Nat.div_lt_iff_lt_mul hpos]
  have hdown : 1#32 < src / dst ↔ ¬ src / dst < 2#32 := by
    rw [BitVec.lt_def, BitVec.lt_def]
    simp only [BitVec.toNat_ofNat]
    omega
  unfold axisScaling axisDecimation
  dsimp only
  by_cases h2 : src / dst < 2#32
  · rw [if_neg (fun h => hdown.mp h h2), if_neg (fun h => hdown.mp h h2)]
    have hlt := (hdec 2#32).mp h2
    refine ⟨0, by decide, rfl, rfl, ?_, ?_⟩
    · have hscale := toNat_scale (d := 1#32) hsrc hdst (by decide)
      rwa [BitVec.mul_one] at hscale
    · rw [scale_le_iff hpos]
      simp only [BitVec.toNat_ofNat] at hlt
      omega
  · rw [if_pos (hdown.mpr h2), if_pos (hdown.mpr h2)]
    by_cases h4 : src / dst < 4#32
    · rw [if_pos h4, if_pos h4]
      have hlt := (hdec 4#32).mp h4
      refine ⟨1, by decide, rfl, rfl, toNat_scale hsrc hdst (by decide), ?_⟩
      rw [scale_le_iff hpos]
      simp only [BitVec.toNat_ofNat] at hlt
      omega
    · rw [if_neg h4, if_neg h4]
      by_cases h8 : src / dst < 8#32
      · rw [if_pos h8, if_pos h8]
        have hlt := (hdec 8#32).mp h8
        refine ⟨2, by decide, rfl, rfl, toNat_scale hsrc hdst (by decide), ?_⟩
        rw [scale_le_iff hpos]
        simp only [BitVec.toNat_ofNat] at hlt
        omega
      · rw [if_neg h8, if_neg h8]
        refine ⟨3, by decide, rfl, rfl, toNat_scale hsrc hdst (by decide), ?_⟩
        rw [scale_le_iff hpos]
        omega

theorem toNat_pack {lo hi : U32} (hlo : lo.toNat < 2 ^ 16) (hhi : hi.toNat < 2 ^ 16) :
    (lo ||| hi <<< 16).toNat = lo.toNat + hi.toNat * 2 ^ 16 := by
  have hshift : (hi <<< 16).toNat = hi.toNat <<< 16 := by
    rw [BitVec.toNat_shiftLeft, Nat.mod_eq_of_lt]
    rw [Nat.shiftLeft_eq]
    omega
  rw [BitVec.toNat_or, hshift, Nat.or_comm, ← Nat.shiftLeft_add_eq_or_of_lt hlo,
    Nat.shiftLeft_eq, Nat.add_comm]

def clampScale (scale : U32) : U32 :=
  if isiDownscaleThreshold < scale then isiDownscaleThreshold else scale

theorem toNat_clampScale (scale : U32) :
    (clampScale scale).toNat = min scale.toNat 0x4000 := by
  change _ = min scale.toNat isiDownscaleThreshold.toNat
  unfold clampScale
  split_ifs with h
  · rw [Nat.min_eq_right (Nat.le_of_lt (BitVec.lt_def.mp h))]
  · rw [Nat.min_eq_left (Nat.le_of_not_lt fun hlt => h (BitVec.lt_def.mpr hlt))]

theorem toNat_clampScale_lt (scale : U32) : (clampScale scale).toNat < 2 ^ 16 := by
  rw [toNat_clampScale]
  omega

/-- The clamp is one above the largest factor, so an axis is scaled exactly when its
factor fits without it. -/
theorem axisScaled_iff {src dst : U32} (hsrc : src.toNat < 8192) (hle : dst.toNat ≤ src.toNat)
    {scale : Nat} (hscale : scale = (clampScale (axisScaling src dst).2).toNat) :
    AxisScaled src dst (axisScaling src dst).1.toNat scale ↔ src.toNat < 32 * dst.toNat := by
  constructor
  · rintro ⟨hdiv, ⟨hdec, _⟩, hfactor⟩
    have hpos : 0 < dst.toNat := by
      rcases Nat.eq_zero_or_pos dst.toNat with hzero | hpos
      · exact absurd (BitVec.eq_of_toNat_eq hzero) (hdiv dst (by simp [axisDivisors]))
      · exact hpos
    obtain ⟨k, hk, hfield, -, hvalue, hfit⟩ := axisScaling_cases hsrc hpos hle
    have hkNat : (axisScaling src dst).1.toNat = k := by
      rw [hfield, BitVec.toNat_ofNat, Nat.mod_eq_of_lt (by omega)]
    rw [hkNat] at hfactor
    rw [hscale, toNat_clampScale, hvalue] at hfactor
    apply hfit.mp
    simp only [maxScaleFactor] at hfactor ⊢
    omega
  · intro hlt
    have hpos : 0 < dst.toNat := by omega
    obtain ⟨k, hk, hfield, hdec, hvalue, hfit⟩ := axisScaling_cases hsrc hpos hle
    have hkNat : (axisScaling src dst).1.toNat = k := by
      rw [hfield, BitVec.toNat_ofNat, Nat.mod_eq_of_lt (by omega)]
    have hle := hfit.mpr hlt
    rw [hkNat]
    refine ⟨?_, ⟨hdec, hk⟩, ?_⟩
    · have hne : dst.toNat * (axisDecimation src dst).toNat < 2 ^ 32 := by
        calc dst.toNat * (axisDecimation src dst).toNat ≤ 8192 * 2 ^ 3 := by
              rw [hdec]
              exact Nat.mul_le_mul (by omega) (Nat.pow_le_pow_right (by decide) hk)
          _ < 2 ^ 32 := by decide
      intro v hv hzero
      simp only [axisDivisors, List.mem_cons, List.not_mem_nil, or_false] at hv
      rcases hv with rfl | rfl
      · rw [hzero] at hpos
        exact absurd hpos (by decide)
      · have hprod : (dst * axisDecimation src dst).toNat = 0 := by
          rw [hzero]
          rfl
        rw [toNat_mul_lt hne, hdec] at hprod
        rcases Nat.mul_eq_zero.mp hprod with h | h
        · omega
        · exact absurd h (Nat.pos_iff_ne_zero.mp (Nat.two_pow_pos k))
    · rw [hscale, toNat_clampScale, hvalue]
      simp only [maxScaleFactor] at hle ⊢
      omega

theorem axisScaling_dec_le (src dst : U32) :
    ∃ k, k ≤ 3 ∧ (axisScaling src dst).1 = BitVec.ofNat 32 k := by
  unfold axisScaling
  dsimp only
  split_ifs
  · exact ⟨1, by decide, rfl⟩
  · exact ⟨2, by decide, rfl⟩
  · exact ⟨3, by decide, rfl⟩
  · exact ⟨0, by decide, rfl⟩

theorem channelSetScaling_scaled {isi : MxcIsiDev} {srcF dstF : MxcIsiFrame}
    (h : ¬ (dstF.height = srcF.height ∧ dstF.width = srcF.width)) :
    let isi' := mxcIsiChannelSetScaling isi srcF dstF
    (isi'.regs .scaleFactor).toNat =
        (clampScale (axisScaling srcF.width dstF.width).2).toNat +
          (clampScale (axisScaling srcF.height dstF.height).2).toNat * 2 ^ 16 ∧
      decXField isi' = (axisScaling srcF.width dstF.width).1.toNat ∧
      decYField isi' = (axisScaling srcF.height dstF.height).1.toNat := by
  dsimp only
  obtain ⟨kx, hkx, hx⟩ := axisScaling_dec_le srcF.width dstF.width
  obtain ⟨ky, hky, hy⟩ := axisScaling_dec_le srcF.height dstF.height
  have hfields : ∀ kx ≤ 3, ∀ ky ≤ 3,
      (((BitVec.ofNat 32 kx <<< 10 ||| BitVec.ofNat 32 ky <<< 8) &&& chnlImgCtrlDecXMask) >>>
          10).toNat = (BitVec.ofNat 32 kx).toNat ∧
        (((BitVec.ofNat 32 kx <<< 10 ||| BitVec.ofNat 32 ky <<< 8) &&& chnlImgCtrlDecYMask) >>>
          8).toNat = (BitVec.ofNat 32 ky).toNat := by
    decide
  have himg : (mxcIsiChannelSetScaling isi srcF dstF).regs .imgCtrl =
      ((isi.regs .imgCtrl ||| chnlImgCtrlYcbcrModeMask) &&&
          ~~~(chnlImgCtrlDecXMask ||| chnlImgCtrlDecYMask)) |||
        ((axisScaling srcF.width dstF.width).1 <<< 10 |||
          (axisScaling srcF.height dstF.height).1 <<< 8) := by
    unfold mxcIsiChannelSetScaling
    rw [if_neg h]
    rfl
  refine ⟨?_, ?_, ?_⟩
  · rw [← toNat_pack (toNat_clampScale_lt _) (toNat_clampScale_lt _)]
    unfold mxcIsiChannelSetScaling
    rw [if_neg h]
    rfl
  · unfold decXField
    rw [himg, update_and_within _ (by decide), hx, hy]
    exact (hfields kx hkx ky hky).1
  · unfold decYField
    rw [himg, update_and_within _ (by decide), hx, hy]
    exact (hfields kx hkx ky hky).2

theorem channelSetScaling_equal {isi : MxcIsiDev} {srcF dstF : MxcIsiFrame}
    (h : dstF.height = srcF.height ∧ dstF.width = srcF.width) :
    let isi' := mxcIsiChannelSetScaling isi srcF dstF
    isi'.regs .scaleFactor = 0x10001000#32 ∧ decXField isi' = 0 ∧ decYField isi' = 0 := by
  have hset : mxcIsiChannelSetScaling isi srcF dstF =
      mxcIsiChannelClearScaling { isi with scale := false } := if_pos h
  dsimp only
  rw [hset]
  refine ⟨rfl, ?_, ?_⟩
  · change (((isi.regs .imgCtrl &&& ~~~(chnlImgCtrlDecXMask ||| chnlImgCtrlDecYMask)) &&&
      chnlImgCtrlDecXMask) >>> 10).toNat = 0
    rw [clear_and_within _ (by decide)]
    rfl
  · change (((isi.regs .imgCtrl &&& ~~~(chnlImgCtrlDecXMask ||| chnlImgCtrlDecYMask)) &&&
      chnlImgCtrlDecYMask) >>> 8).toNat = 0
    rw [clear_and_within _ (by decide)]
    rfl

/-- The channel scales as asked exactly for the ratios below 32: from there on the clamp
does not fit the field, and at an empty output the division has no value. -/
theorem scalerProgrammed_iff (isi : MxcIsiDev) {srcF dstF : MxcIsiFrame}
    (hwidth : srcF.width.toNat < 8192) (hheight : srcF.height.toNat < 8192)
    (hdstW : dstF.width.toNat ≤ srcF.width.toNat)
    (hdstH : dstF.height.toNat ≤ srcF.height.toNat) :
    ScalerProgrammed (mxcIsiChannelSetScaling isi srcF dstF) srcF dstF ↔
      (dstF.height = srcF.height ∧ dstF.width = srcF.width) ∨
        (srcF.width.toNat < 32 * dstF.width.toNat ∧
          srcF.height.toNat < 32 * dstF.height.toNat) := by
  by_cases hequal : dstF.height = srcF.height ∧ dstF.width = srcF.width
  · unfold ScalerProgrammed
    rw [if_pos hequal]
    exact iff_of_true (channelSetScaling_equal hequal) (.inl hequal)
  · obtain ⟨hfactor, hx, hy⟩ := @channelSetScaling_scaled isi srcF dstF hequal
    have haxisX := fun scale => @axisScaled_iff srcF.width dstF.width hwidth hdstW scale
    have haxisY := fun scale => @axisScaled_iff srcF.height dstF.height hheight hdstH scale
    unfold ScalerProgrammed
    rw [if_neg hequal, hx, hy, hfactor]
    have hxlt := toNat_clampScale_lt (axisScaling srcF.width dstF.width).2
    constructor
    · rintro ⟨xscale, yscale, hsum, hscaledX, hscaledY⟩
      have hle : xscale ≤ maxScaleFactor := by
        rw [hscaledX.factor]
        exact Nat.min_le_right _ _
      simp only [maxScaleFactor] at hle
      have hxscale : xscale = (clampScale (axisScaling srcF.width dstF.width).2).toNat := by
        omega
      have hyscale : yscale = (clampScale (axisScaling srcF.height dstF.height).2).toNat := by
        omega
      exact .inr ⟨(haxisX _ hxscale).mp hscaledX, (haxisY _ hyscale).mp hscaledY⟩
    · rintro (h | ⟨hxratio, hyratio⟩)
      · exact absurd h hequal
      · exact ⟨_, _, rfl, (haxisX _ rfl).mpr hxratio, (haxisY _ rfl).mpr hyratio⟩

/-- Half of a full sensor frame. -/
theorem scalerProgrammed_half :
    ScalerProgrammed
      (mxcIsiChannelSetScaling boardCapture.isi (setFrameBounds zeroFrame 2592#32 1944#32)
        (setFrameBounds zeroFrame 1280#32 960#32))
      (setFrameBounds zeroFrame 2592#32 1944#32) (setFrameBounds zeroFrame 1280#32 960#32) := by
  refine (scalerProgrammed_iff boardCapture.isi ?_ ?_ ?_ ?_).mpr (.inr ⟨?_, ?_⟩) <;> decide

/-- At a ratio of 40 both factors are one above the largest. -/
theorem fortieth_scaler_overflows :
    let srcF := setFrameBounds zeroFrame 1280#32 800#32
    let dstF := setFrameBounds zeroFrame 32#32 20#32
    let isi := mxcIsiChannelSetScaling boardCapture.isi srcF dstF
    srcF.width.toNat < 8192 ∧ srcF.height.toNat < 8192 ∧
      dstF.width.toNat ≤ srcF.width.toNat ∧ dstF.height.toNat ≤ srcF.height.toNat ∧
      isi.regs .scaleFactor = 0x40004000#32 ∧ ¬ ScalerProgrammed isi srcF dstF := by
  intro srcF dstF isi
  have hfactor : isi.regs .scaleFactor = 0x40004000#32 := by decide
  have hscaled : ¬ (dstF.height = srcF.height ∧ dstF.width = srcF.width) := by decide
  refine ⟨by decide, by decide, by decide, by decide, hfactor, fun hprogrammed => ?_⟩
  unfold ScalerProgrammed at hprogrammed
  rw [if_neg hscaled, hfactor] at hprogrammed
  obtain ⟨xscale, yscale, hsum, hx, hy⟩ := hprogrammed
  have hxle : xscale ≤ maxScaleFactor := hx.factor ▸ Nat.min_le_right _ _
  have hyle : yscale ≤ maxScaleFactor := hy.factor ▸ Nat.min_le_right _ _
  simp only [maxScaleFactor] at hxle hyle
  simp only [BitVec.toNat_ofNat] at hsum
  omega

end CameraPorting.Isi.Scaling
