import CameraPorting.Isi.Ioctls
import CameraPorting.Isi.BufferRotation

/-!
The stream state machine of the capture node: the vb2 queue, the channel, the
CSI receiver and the sensor are switched one after the other by STREAMON,
STREAMOFF and the close of the node.
-/

namespace CameraPorting.Isi.Streaming

open CameraPorting.Kernel.Media
open CameraPorting.Isi.Device
open CameraPorting.Isi.Channel
open CameraPorting.Isi.CaptureQueue
open CameraPorting.Isi.BufferRotation
open CameraPorting.Isi.Formats
open CameraPorting.Isi.Ioctls
open CameraPorting.Library.Runs

/-- `csisSwitch` and `sensorSwitch` count successful calls of `s_stream`, on minus
off; `csisPm` is the runtime-PM references `mipi_csis_s_stream` holds. -/
structure Pipeline where
  cap : MxcIsiCapDev
  queueStreaming : Bool
  csisSwitch : Int
  sensorSwitch : Int
  csisPm : Int

inductive PipelineSubdev where
  | isi | csis | sensor
  deriving DecidableEq, Repr

/-- What the environment answers to a walk: whether its allocation succeeds, the
subdevs it meets, and the result of the sensor's `s_stream`. The order is the media
core's own; its walk returns an entity only once. -/
structure WalkEnv where
  walkInit : Bool
  order : List PipelineSubdev
  sensor : Ret
  csis_once : order.count .csis = 1
  sensor_once : order.count .sensor = 1

def switchDelta (enable : Bool) : Int :=
  if enable then 1 else -1

/-- `mipi_csis_s_stream`; it ignores the result of `pm_runtime_get_sync`. -/
def mipiCsisSStream (s : Pipeline) (enable : Bool) : Pipeline × Ret :=
  ({ s with
    csisSwitch := s.csisSwitch + switchDelta enable
    csisPm := s.csisPm + switchDelta enable }, .ok ())

def sensorSStream (s : Pipeline) (enable : Bool) (ret : Ret) : Pipeline × Ret :=
  match ret with
  | .ok () => ({ s with sensorSwitch := s.sensorSwitch + switchDelta enable }, .ok ())
  | .error e => (s, .error e)

/-- `v4l2_subdev_call(subdev, video, s_stream, enable)`; the channel's subdev has
no video operations. -/
def subdevSStream (s : Pipeline) (env : WalkEnv) (enable : Bool) :
    PipelineSubdev → Pipeline × Ret
  | .isi => (s, .error .enoioctlcmd)
  | .csis => mipiCsisSStream s enable
  | .sensor => sensorSStream s enable env.sensor

/-- The walk of `mxc_isi_pipeline_enable`; it returns the last result. -/
def walkSubdevs (env : WalkEnv) (enable : Bool) :
    List PipelineSubdev → Pipeline → Ret → Pipeline × Ret
  | [], s, ret => (s, ret)
  | sd :: rest, s, _ =>
      let (s, ret) := subdevSStream s env enable sd
      if callFailed ret then (s, ret) else walkSubdevs env enable rest s ret

def mxcIsiPipelineEnable (s : Pipeline) (env : WalkEnv) (enable : Bool) :
    Pipeline × Ret :=
  if !env.walkInit then (s, .error .enomem)
  else walkSubdevs env enable env.order s (.ok ())

/-- What STREAMON meets in vb2: `refuse` stands for its own checks (queue owner,
buffer type, no buffers), `queued` are the buffers it hands to the driver, the
rest is what the driver's start meets. -/
structure Vb2Env where
  refuse : Option Errno
  queued : List Nat
  hostdata : Bool
  alloc : Nat → Option U32

def handOver (cap : MxcIsiCapDev) (queued : List Nat) : MxcIsiCapDev :=
  queued.foldl (fun cap i => capVb2BufferQueue cap (.user i)) cap

def vb2IoctlStreamon (s : Pipeline) (env : Vb2Env) : Pipeline × Ret :=
  match env.refuse with
  | some e => (s, .error e)
  | none =>
      if s.queueStreaming then (s, .ok ())
      else
        match capVb2StartStreaming (handOver s.cap env.queued) env.hostdata env.alloc
            env.queued.length with
        | (cap, .ok ()) => ({ s with cap := cap, queueStreaming := true }, .ok ())
        | (cap, .error e) => ({ s with cap := cap }, .error e)

def vb2QueueCancel (s : Pipeline) : Pipeline :=
  if s.queueStreaming then
    { s with cap := capVb2StopStreaming s.cap, queueStreaming := false }
  else s

def vb2IoctlStreamoff (s : Pipeline) (refuse : Option Errno) : Pipeline × Ret :=
  match refuse with
  | some e => (s, .error e)
  | none => (vb2QueueCancel s, .ok ())

def onChannel (s : Pipeline) (f : MxcIsiDev → MxcIsiDev) : Pipeline :=
  { s with cap := { s.cap with isi := f s.cap.isi } }

/-- What the environment answers to one STREAMON. `remote`, `setFmt` and `getFmt`
are the outcomes of the negotiation in `mxc_isi_source_fmt_init`. -/
structure StreamonEnv where
  remote : Bool
  setFmt : Ret
  getFmt : Except Errno MbusFramefmt
  vb2 : Vb2Env
  walk : WalkEnv

def StreamonEnv.padOps (env : StreamonEnv) : PadOps Unit :=
  { setFmt := fun _ mf => ((), mf, env.setFmt)
    getFmt := fun _ => ((), env.getFmt) }

def mxcIsiCapStreamon (s : Pipeline) (env : StreamonEnv) : Pipeline × Ret :=
  match mxcIsiConfigParm env.padOps env.remote () s.cap with
  | (_, cap, .error e) => ({ s with cap := cap }, .error e)
  | (_, cap, .ok ()) =>
      let (s, _) := vb2IoctlStreamon { s with cap := cap } env.vb2
      let s := onChannel s fun isi => mxcIsiChannelEnable isi isi.m2mEnabled
      let (s, ret) := mxcIsiPipelineEnable s env.walk true
      if callFailed ret then (s, ret)
      else (onChannel s fun isi => { isi with isStreaming := true }, .ok ())

def mxcIsiCapStreamoff (s : Pipeline) (walk : WalkEnv) (refuse : Option Errno) :
    Pipeline × Ret :=
  let (s, _) := mxcIsiPipelineEnable s walk false
  let s := onChannel s mxcIsiChannelDisable
  let (s, ret) := vb2IoctlStreamoff s refuse
  (onChannel s fun isi => { isi with isStreaming := false }, ret)

/-- `mxc_isi_capture_release`, of the file that owns the vb2 queue. `usageCount`
is the channel's count before the call. -/
def mxcIsiCaptureRelease (s : Pipeline) (isLinkSetup remote : Bool)
    (usageCount : Nat) : Pipeline :=
  if !isLinkSetup || !remote then s
  else
    let s := vb2QueueCancel s
    if usageCount = 1 then onChannel s mxcIsiChannelDeinit else s

inductive NodeOp where
  | streamon (env : StreamonEnv)
  | streamoff (walk : WalkEnv) (refuse : Option Errno)
  | lastClose (isLinkSetup remote : Bool) (usageCount : Nat)

def nodeStep (s : Pipeline) : NodeOp → Pipeline
  | .streamon env => (mxcIsiCapStreamon s env).1
  | .streamoff walk refuse => (mxcIsiCapStreamoff s walk refuse).1
  | .lastClose isLinkSetup remote usageCount =>
      mxcIsiCaptureRelease s isLinkSetup remote usageCount

def Pipeline.channelOn (s : Pipeline) : Bool := channelEnabled s.cap.isi

/-- The four layers agree on whether the pipeline streams. -/
structure LayersAgree (s : Pipeline) : Prop where
  channel : s.channelOn = s.queueStreaming
  flag : s.cap.isi.isStreaming = s.queueStreaming
  subdevs : s.queueStreaming = true ↔ s.csisSwitch = 1 ∧ s.sensorSwitch = 1
  pm : s.csisPm = if s.queueStreaming then 1 else 0

structure SameLayers (s s' : Pipeline) : Prop where
  queue : s'.queueStreaming = s.queueStreaming
  channel : s'.channelOn = s.channelOn
  flag : s'.cap.isi.isStreaming = s.cap.isi.isStreaming
  csis : s'.csisSwitch = s.csisSwitch
  sensor : s'.sensorSwitch = s.sensorSwitch
  pm : s'.csisPm = s.csisPm

/-- What a call has to respect: the layers agree after it, a STREAMON that fails
changes none of them, and one that succeeds leaves the pipeline streaming. -/
def Respects (s : Pipeline) (op : NodeOp) : Prop :=
  LayersAgree (nodeStep s op) ∧
    match op with
    | .streamon env =>
        match (mxcIsiCapStreamon s env).2 with
        | .ok () => (nodeStep s op).queueStreaming = true
        | .error _ => SameLayers s (nodeStep s op)
    | _ => True

/-- The sensor's `s_stream(1)` does not fail, and leaves it switched on once. -/
def SwitchesOn (s : Pipeline) (ret : Ret) : Prop :=
  callFailed ret = false ∧
    s.sensorSwitch + (if ret = .ok () then 1 else 0) = 1

/-- vb2 accepts STREAMON, and the driver's start succeeds. -/
def QueueStarts (s : Pipeline) (env : Vb2Env) : Prop :=
  env.refuse = none ∧ 2 ≤ env.queued.length ∧ env.hostdata = true ∧
    ∀ i, i < s.cap.pix.numPlanes → (env.alloc i).isSome = true

/-- The format the receiver reports, zero when it has no `get_fmt`. -/
def StreamonEnv.negotiated (env : StreamonEnv) : MbusFramefmt :=
  match env.getFmt with
  | .ok mf => mf
  | .error _ => ⟨0#32, 0#32, 0#32⟩

/-- The format negotiation succeeds: neither call to the remote subdev fails, and
its frame is no smaller than the output. -/
def Negotiates (s : Pipeline) (env : StreamonEnv) : Prop :=
  env.remote = true ∧ callFailed env.setFmt = false ∧
    (∀ e, env.getFmt = .error e → e = .enoioctlcmd) ∧
    s.cap.dstF.width ≤ env.negotiated.width ∧
    s.cap.dstF.height ≤ env.negotiated.height

/-- The subdevs of a walk that are called: those up to a sensor that fails. -/
def WalkEnv.calledOf (env : WalkEnv) (subdevs : List PipelineSubdev) : List PipelineSubdev :=
  if callFailed env.sensor then subdevs.takeWhile (· ≠ .sensor) else subdevs

def WalkEnv.reaches (env : WalkEnv) : Bool :=
  env.walkInit && (env.calledOf env.order).contains .csis

/-- STREAMON is refused before it switches anything; or it finds the pipeline idle
and everything it calls succeeds; or the pipeline streams and the walk does not
reach the receiver. -/
def StreamonFits (s : Pipeline) (env : StreamonEnv) : Prop :=
  ¬ Negotiates s env ∨
    if s.queueStreaming then env.walk.reaches = false
    else QueueStarts s env.vb2 ∧ env.walk.walkInit = true ∧ SwitchesOn s env.walk.sensor

def CallFits (s : Pipeline) : NodeOp → Prop
  | .streamon env => StreamonFits s env
  | .streamoff walk refuse =>
      if s.queueStreaming then walk.reaches = true ∧ refuse = none
      else walk.reaches = false
  | .lastClose isLinkSetup remote _ =>
      s.queueStreaming = false ∨ isLinkSetup = false ∨ remote = false

theorem WalkEnv.count_calledOf (env : WalkEnv) (subdevs : List PipelineSubdev) :
    (env.calledOf subdevs).count .csis ≤ subdevs.count .csis := by
  unfold WalkEnv.calledOf
  split
  · exact (List.takeWhile_sublist _).count_le _
  · exact le_rfl

theorem WalkEnv.count_csis (env : WalkEnv) :
    (env.calledOf env.order).count .csis =
      if (env.calledOf env.order).contains .csis then 1 else 0 := by
  have hle := env.count_calledOf env.order
  rw [env.csis_once] at hle
  by_cases hmem : PipelineSubdev.csis ∈ env.calledOf env.order
  · rw [if_pos (List.contains_iff_mem.mpr hmem)]
    exact le_antisymm hle (List.count_pos_iff.mpr hmem)
  · rw [if_neg (fun h => hmem (List.contains_iff_mem.mp h))]
    exact List.count_eq_zero.mpr hmem

theorem walkSubdevs_spec (env : WalkEnv) (enable : Bool) (subdevs : List PipelineSubdev)
    (s : Pipeline) (ret : Ret) (hret : callFailed ret = false) :
    (walkSubdevs env enable subdevs s ret).1 =
        { s with
          csisSwitch := s.csisSwitch + (env.calledOf subdevs).count .csis * switchDelta enable
          csisPm := s.csisPm + (env.calledOf subdevs).count .csis * switchDelta enable
          sensorSwitch := s.sensorSwitch +
            if env.sensor = .ok () then subdevs.count .sensor * switchDelta enable else 0 } ∧
      callFailed (walkSubdevs env enable subdevs s ret).2 =
        (callFailed env.sensor && subdevs.contains .sensor) := by
  induction subdevs generalizing s ret with
  | nil => simp [walkSubdevs, WalkEnv.calledOf, hret]
  | cons sd rest ih =>
      cases sd with
      | isi =>
          have hstep := ih s (.error .enoioctlcmd) rfl
          have hcalled : (env.calledOf (.isi :: rest)).count .csis =
              (env.calledOf rest).count .csis := by
            unfold WalkEnv.calledOf
            split <;> simp
          simpa [walkSubdevs, subdevSStream, callFailed, hcalled] using hstep
      | csis =>
          have hstep := ih (mipiCsisSStream s enable).1 (.ok ()) rfl
          have hcalled : (env.calledOf (.csis :: rest)).count .csis =
              (env.calledOf rest).count .csis + 1 := by
            unfold WalkEnv.calledOf
            split <;> simp
          have hsum (x : Int) : x + switchDelta enable +
              (env.calledOf rest).count .csis * switchDelta enable =
                x + ((env.calledOf rest).count .csis + 1) * switchDelta enable := by
            rw [add_assoc, add_mul, one_mul, add_comm (switchDelta enable)]
          simpa [walkSubdevs, subdevSStream, mipiCsisSStream, callFailed, hcalled, hsum]
            using hstep
      | sensor =>
          rcases hfailed : callFailed env.sensor with _ | _
          · -- the walk goes on, with the sensor switched if it has the operation
            have hstep := ih (sensorSStream s enable env.sensor).1 env.sensor hfailed
            rcases hsensor : env.sensor with e | ⟨⟩
            · rw [hsensor] at hstep hfailed
              simpa [walkSubdevs, subdevSStream, sensorSStream, hsensor, hfailed,
                WalkEnv.calledOf] using hstep
            · have hsum (x : Int) : x + switchDelta enable +
                  rest.count .sensor * switchDelta enable =
                    x + (rest.count .sensor + 1) * switchDelta enable := by
                rw [add_assoc, add_mul, one_mul, add_comm (switchDelta enable)]
              rw [hsensor] at hstep
              simpa [walkSubdevs, subdevSStream, sensorSStream, hsensor, callFailed,
                WalkEnv.calledOf, hsum] using hstep
          · -- the walk ends here
            rcases hsensor : env.sensor with e | ⟨⟩
            · rw [hsensor] at hfailed
              simp [walkSubdevs, subdevSStream, sensorSStream, hsensor, hfailed,
                WalkEnv.calledOf]
            · rw [hsensor] at hfailed
              cases hfailed

def Pipeline.switched (s : Pipeline) (env : WalkEnv) (enable : Bool) : Pipeline :=
  { s with
    csisSwitch := s.csisSwitch + if env.reaches then switchDelta enable else 0
    csisPm := s.csisPm + if env.reaches then switchDelta enable else 0
    sensorSwitch := s.sensorSwitch +
      if env.walkInit ∧ env.sensor = .ok () then switchDelta enable else 0 }

theorem pipelineEnable_spec (s : Pipeline) (env : WalkEnv) (enable : Bool) :
    (mxcIsiPipelineEnable s env enable).1 = s.switched env enable ∧
      callFailed (mxcIsiPipelineEnable s env enable).2 =
        (!env.walkInit || callFailed env.sensor) := by
  unfold mxcIsiPipelineEnable Pipeline.switched WalkEnv.reaches
  rcases hwalk : env.walkInit with _ | _
  · simp [callFailed]
  · obtain ⟨hwalked, hfailed⟩ :=
      walkSubdevs_spec env enable env.order s (.ok ()) rfl
    have hsensor : env.order.contains .sensor = true :=
      List.contains_iff_mem.mpr (List.count_pos_iff.mp (by rw [env.sensor_once]; decide))
    rw [env.count_csis, env.sensor_once] at hwalked
    rw [hsensor, Bool.and_true] at hfailed
    refine ⟨?_, by simpa using hfailed⟩
    simp only [Bool.not_true, Bool.false_eq_true, if_false, hwalked, Bool.true_and, true_and]
    split <;> simp

theorem WalkEnv.reaches_of_ok {env : WalkEnv} (hwalk : env.walkInit = true)
    (hsensor : callFailed env.sensor = false) : env.reaches = true := by
  unfold WalkEnv.reaches WalkEnv.calledOf
  rw [hwalk, hsensor]
  simp only [Bool.true_and, Bool.false_eq_true, if_false]
  exact List.contains_iff_mem.mpr (List.count_pos_iff.mp (by rw [env.csis_once]; decide))

theorem WalkEnv.failed_of_missed {env : WalkEnv} (hmissed : env.reaches = false) :
    (!env.walkInit || callFailed env.sensor) = true := by
  rcases hwalk : env.walkInit with _ | _
  · rfl
  rcases hsensor : callFailed env.sensor with _ | _
  · rw [WalkEnv.reaches_of_ok hwalk hsensor] at hmissed
    cases hmissed
  · rfl

theorem sourceBounds_spec (cap : MxcIsiCapDev) (mf : MbusFramefmt) :
    ∃ srcF, (mxcIsiSourceFmtInit.sourceBounds () cap mf).2.1 = { cap with srcF := srcF } ∧
      ((mxcIsiSourceFmtInit.sourceBounds () cap mf).2.2 = .ok () ↔
        cap.dstF.width ≤ mf.width ∧ cap.dstF.height ≤ mf.height) := by
  unfold mxcIsiSourceFmtInit.sourceBounds
  dsimp only
  split
  · rename_i hsmall
    refine ⟨_, rfl, ?_⟩
    constructor
    · intro h
      cases h
    · rintro ⟨hwidth, hheight⟩
      rcases hsmall with h | h
      · exact absurd hwidth (BitVec.not_le.mpr h)
      · exact absurd hheight (BitVec.not_le.mpr h)
  · rename_i hfits
    refine ⟨_, rfl, ?_⟩
    simp only [true_iff]
    exact ⟨BitVec.not_lt.mp fun h => hfits (.inl h), BitVec.not_lt.mp fun h => hfits (.inr h)⟩

theorem sourceFmtInit_spec (s : Pipeline) (env : StreamonEnv) :
    ∃ srcF, (mxcIsiSourceFmtInit env.padOps env.remote () s.cap).2.1 =
        { s.cap with srcF := srcF } ∧
      ((mxcIsiSourceFmtInit env.padOps env.remote () s.cap).2.2 = .ok () ↔
        Negotiates s env) := by
  unfold mxcIsiSourceFmtInit Negotiates
  rcases hremote : env.remote with _ | _
  · exact ⟨s.cap.srcF, rfl, by simp⟩
  dsimp only [StreamonEnv.padOps]
  rcases hset : callFailed env.setFmt with _ | _
  swap
  · refine ⟨s.cap.srcF, rfl, ?_⟩
    rcases hret : env.setFmt with e | ⟨⟩
    · simp
    · rw [hret] at hset
      cases hset
  rcases hget : env.getFmt with e | mf
  · by_cases he : e = .enoioctlcmd
    · subst he
      obtain ⟨srcF, hcap, hok⟩ := sourceBounds_spec s.cap ⟨0#32, 0#32, 0#32⟩
      refine ⟨srcF, by simpa using hcap, ?_⟩
      simpa [StreamonEnv.negotiated, hget] using hok
    · exact ⟨s.cap.srcF, by simp [he], by simp [he]⟩
  · obtain ⟨srcF, hcap, hok⟩ := sourceBounds_spec s.cap mf
    refine ⟨srcF, by simpa using hcap, ?_⟩
    simpa [StreamonEnv.negotiated, hget] using hok

theorem streamon_refused {s : Pipeline} {env : StreamonEnv} (h : ¬ Negotiates s env) :
    SameLayers s (mxcIsiCapStreamon s env).1 ∧
      (mxcIsiCapStreamon s env).2 = .error .einval := by
  obtain ⟨srcF, hcap, hok⟩ := sourceFmtInit_spec s env
  unfold mxcIsiCapStreamon mxcIsiConfigParm
  rcases hinit : mxcIsiSourceFmtInit env.padOps env.remote () s.cap with ⟨r, cap, e | ⟨⟩⟩
  · rw [hinit] at hcap
    change cap = _ at hcap
    subst hcap
    exact ⟨⟨rfl, rfl, rfl, rfl, rfl, rfl⟩, rfl⟩
  · rw [hinit] at hok
    exact absurd (hok.mp rfl) h

theorem pix_handOver (cap : MxcIsiCapDev) (queued : List Nat) :
    (handOver cap queued).pix = cap.pix := by
  induction queued generalizing cap with
  | nil => rfl
  | cons i queued ih => exact ih (capVb2BufferQueue cap (.user i))

theorem vb2IoctlStreamon_running {s : Pipeline} (h : s.queueStreaming = true)
    (env : Vb2Env) : (vb2IoctlStreamon s env).1 = s := by
  unfold vb2IoctlStreamon
  split
  · rfl
  · rw [if_pos h]

theorem vb2IoctlStreamon_idle {s : Pipeline} (h : s.queueStreaming = false)
    (env : Vb2Env) :
    ((vb2IoctlStreamon s env).1.queueStreaming = true ↔ QueueStarts s env) ∧
      (vb2IoctlStreamon s env).1.csisSwitch = s.csisSwitch ∧
      (vb2IoctlStreamon s env).1.sensorSwitch = s.sensorSwitch ∧
      (vb2IoctlStreamon s env).1.csisPm = s.csisPm := by
  have hiff := startStreaming_ok_iff (handOver s.cap env.queued) env.hostdata env.alloc
    env.queued.length
  rw [pix_handOver] at hiff
  unfold vb2IoctlStreamon QueueStarts
  rcases hrefuse : env.refuse with _ | e
  · rw [← hiff]
    simp only [h, Bool.false_eq_true, if_false, true_and]
    rcases hstart : capVb2StartStreaming (handOver s.cap env.queued) env.hostdata env.alloc
      env.queued.length with ⟨cap, e | ⟨⟩⟩ <;> simp
  · simp [h]

def channelStarted (s : Pipeline) (cap : MxcIsiCapDev) (env : Vb2Env) : Pipeline :=
  onChannel (vb2IoctlStreamon { s with cap := cap } env).1
    fun isi => mxcIsiChannelEnable isi isi.m2mEnabled

/-- After a successful negotiation STREAMON enables the channel whatever vb2
answered, and then walks the pipeline. -/
theorem streamon_negotiated {s : Pipeline} {env : StreamonEnv} (h : Negotiates s env) :
    ∃ cap, cap.pix = s.cap.pix ∧ cap.isi.isStreaming = s.cap.isi.isStreaming ∧
      mxcIsiCapStreamon s env =
        let r := mxcIsiPipelineEnable (channelStarted s cap env.vb2) env.walk true
        if callFailed r.2 then r
        else (onChannel r.1 fun isi => { isi with isStreaming := true }, .ok ()) := by
  obtain ⟨srcF, hcap, hok⟩ := sourceFmtInit_spec s env
  unfold mxcIsiCapStreamon mxcIsiConfigParm
  rcases hinit : mxcIsiSourceFmtInit env.padOps env.remote () s.cap with ⟨r, cap, e | ⟨⟩⟩
  · rw [hinit] at hok
    cases hok.mpr h
  · rw [hinit] at hcap
    change cap = _ at hcap
    subst hcap
    refine ⟨_, ?_, ?_, rfl⟩
    · rfl
    · exact isStreaming_channelConfig _ _ _ _ _

theorem channelOn_channelStarted (s : Pipeline) (cap : MxcIsiCapDev) (env : Vb2Env) :
    (channelStarted s cap env).channelOn = true :=
  channelEnabled_channelEnable _ _

/-- The four layers of an idle or streaming pipeline, with the receiver switched
as often as it holds references. -/
structure Settled (s : Pipeline) : Prop where
  agree : LayersAgree s
  csis : s.csisSwitch = s.csisPm

theorem layersAgree_of_same {s s' : Pipeline} (h : LayersAgree s)
    (hsame : SameLayers s s') : LayersAgree s' := by
  refine ⟨?_, ?_, ?_, ?_⟩
  · rw [hsame.channel, hsame.queue]
    exact h.channel
  · rw [hsame.flag, hsame.queue]
    exact h.flag
  · rw [hsame.queue, hsame.csis, hsame.sensor]
    exact h.subdevs
  · rw [hsame.pm, hsame.queue]
    exact h.pm

theorem settled_of_same {s s' : Pipeline} (h : Settled s) (hsame : SameLayers s s') :
    Settled s' :=
  ⟨layersAgree_of_same h.agree hsame, by rw [hsame.csis, hsame.pm]; exact h.csis⟩

theorem respects_of_same {s : Pipeline} {env : StreamonEnv} (h : Settled s) {e : Errno}
    (hsame : SameLayers s (mxcIsiCapStreamon s env).1)
    (herror : (mxcIsiCapStreamon s env).2 = .error e) :
    Respects s (.streamon env) ∧ Settled (nodeStep s (.streamon env)) := by
  refine ⟨⟨layersAgree_of_same h.agree hsame, ?_⟩, settled_of_same h hsame⟩
  change match (mxcIsiCapStreamon s env).2 with
    | .ok () => _
    | .error _ => _
  rw [herror]
  exact hsame

theorem respects_streamon {s : Pipeline} {env : StreamonEnv} (h : Settled s)
    (hfits : StreamonFits s env) :
    Respects s (.streamon env) ∧ Settled (nodeStep s (.streamon env)) := by
  by_cases hneg : Negotiates s env
  swap
  · obtain ⟨hsame, herror⟩ := streamon_refused hneg
    exact respects_of_same h hsame herror
  obtain ⟨cap, hpix, hflag, hstreamon⟩ := streamon_negotiated hneg
  obtain ⟨hwalked, hfailed⟩ :=
    pipelineEnable_spec (channelStarted s cap env.vb2) env.walk true
  have hcall := hfits.resolve_left fun hn => hn hneg
  rcases hqueue : s.queueStreaming with _ | _
  · -- an idle pipeline, everything succeeds
    simp only [hqueue, Bool.false_eq_true, if_false] at hcall
    obtain ⟨hstarts, hwalk, hsensor, honce⟩ := hcall
    have hstarts' : QueueStarts { s with cap := cap } env.vb2 := by
      refine ⟨hstarts.1, hstarts.2.1, hstarts.2.2.1, ?_⟩
      rw [show ({ s with cap := cap } : Pipeline).cap.pix = s.cap.pix from hpix]
      exact hstarts.2.2.2
    obtain ⟨hstarted, hcsis, hsensor', hpm⟩ :=
      vb2IoctlStreamon_idle (s := { s with cap := cap }) hqueue env.vb2
    have hreaches := WalkEnv.reaches_of_ok hwalk hsensor
    rw [hwalk, hsensor] at hfailed
    have hfailed' : callFailed (mxcIsiPipelineEnable (channelStarted s cap env.vb2)
        env.walk true).2 = false := hfailed
    simp only [hwalked, hfailed', Bool.false_eq_true, if_false, Pipeline.switched, hreaches,
      hwalk, true_and, if_true] at hstreamon
    have hpm0 : s.csisPm = 0 := by
      rw [h.agree.pm, hqueue]
      rfl
    have hqueue' : (channelStarted s cap env.vb2).queueStreaming = true :=
      hstarted.mpr hstarts'
    have hcsis0 : s.csisSwitch = 0 := h.csis.trans hpm0
    have hcsis1 : (channelStarted s cap env.vb2).csisSwitch + switchDelta true = 1 := by
      change (vb2IoctlStreamon { s with cap := cap } env.vb2).1.csisSwitch + 1 = 1
      rw [hcsis]
      change s.csisSwitch + 1 = 1
      omega
    have hpm1 : (channelStarted s cap env.vb2).csisPm + switchDelta true = 1 := by
      change (vb2IoctlStreamon { s with cap := cap } env.vb2).1.csisPm + 1 = 1
      rw [hpm]
      change s.csisPm + 1 = 1
      omega
    have hsensor1 : (channelStarted s cap env.vb2).sensorSwitch +
        (if env.walk.sensor = .ok () then switchDelta true else 0) = 1 := by
      change (vb2IoctlStreamon { s with cap := cap } env.vb2).1.sensorSwitch +
        (if env.walk.sensor = .ok () then 1 else 0) = 1
      rw [hsensor']
      exact honce
    have hagree : LayersAgree (nodeStep s (.streamon env)) := by
      change LayersAgree (mxcIsiCapStreamon s env).1
      rw [hstreamon]
      refine ⟨?_, ?_, ?_, ?_⟩
      · exact (channelOn_channelStarted s cap env.vb2).trans hqueue'.symm
      · exact hqueue'.symm
      · exact ⟨fun _ => ⟨hcsis1, hsensor1⟩, fun _ => hqueue'⟩
      · change (channelStarted s cap env.vb2).csisPm + switchDelta true = _
        rw [hpm1]
        exact (if_pos hqueue').symm
    refine ⟨⟨hagree, ?_⟩, hagree, ?_⟩
    · change match (mxcIsiCapStreamon s env).2 with
        | .ok () => (mxcIsiCapStreamon s env).1.queueStreaming = true
        | .error _ => _
      rw [hstreamon]
      exact hqueue'
    · change (mxcIsiCapStreamon s env).1.csisSwitch = (mxcIsiCapStreamon s env).1.csisPm
      rw [hstreamon]
      exact hcsis1.trans hpm1.symm
  · -- a streaming pipeline, and the walk ends before the receiver
    simp only [hqueue, if_true] at hcall
    have hmissed := WalkEnv.failed_of_missed hcall
    rw [hmissed] at hfailed
    have hnot : ¬ (env.walk.walkInit = true ∧ env.walk.sensor = .ok ()) := by
      rintro ⟨hwalk, hsensor⟩
      rw [hwalk, hsensor] at hmissed
      cases hmissed
    simp only [Pipeline.switched, hcall, Bool.false_eq_true, if_false, if_neg hnot,
      Int.add_zero] at hwalked
    simp only [hfailed, if_true] at hstreamon
    have hstarted : (vb2IoctlStreamon { s with cap := cap } env.vb2).1 =
        { s with cap := cap } := by
      refine vb2IoctlStreamon_running ?_ env.vb2
      exact hqueue
    have hsame : SameLayers s (mxcIsiCapStreamon s env).1 := by
      rw [hstreamon, hwalked]
      unfold channelStarted
      rw [hstarted]
      refine ⟨rfl, ?_, ?_, rfl, rfl, rfl⟩
      · rw [h.agree.channel, hqueue]
        exact channelEnabled_channelEnable _ _
      · exact (isStreaming_channelEnable _ _).trans hflag
    rcases hret : (mxcIsiPipelineEnable (channelStarted s cap env.vb2) env.walk true).2
      with e | ⟨⟩
    · exact respects_of_same h hsame ((congrArg Prod.snd hstreamon).trans hret)
    · rw [hret] at hfailed
      cases hfailed

theorem vb2QueueCancel_spec (s : Pipeline) :
    (vb2QueueCancel s).queueStreaming = false ∧
      (vb2QueueCancel s).channelOn = (!s.queueStreaming && s.channelOn) ∧
      (vb2QueueCancel s).csisSwitch = s.csisSwitch ∧
      (vb2QueueCancel s).csisPm = s.csisPm ∧
      (vb2QueueCancel s).cap.isi.isStreaming = s.cap.isi.isStreaming := by
  unfold vb2QueueCancel
  rcases hqueue : s.queueStreaming with _ | _
  · exact ⟨hqueue, rfl, rfl, rfl, rfl⟩
  · refine ⟨rfl, ?_, rfl, rfl, ?_⟩
    · change channelEnabled (capVb2StopStreaming s.cap).isi = false
      rw [isi_stopStreaming, channelEnabled_channelDisable]
    · change (capVb2StopStreaming s.cap).isi.isStreaming = _
      rw [isi_stopStreaming]
      rfl

theorem streamoff_spec (s : Pipeline) (walk : WalkEnv) (refuse : Option Errno) :
    (mxcIsiCapStreamoff s walk refuse).1.channelOn = false ∧
      (mxcIsiCapStreamoff s walk refuse).1.cap.isi.isStreaming = false ∧
      (mxcIsiCapStreamoff s walk refuse).1.queueStreaming =
        (s.queueStreaming && refuse.isSome) ∧
      (mxcIsiCapStreamoff s walk refuse).1.csisSwitch =
        s.csisSwitch - (if walk.reaches then 1 else 0) ∧
      (mxcIsiCapStreamoff s walk refuse).1.csisPm =
        s.csisPm - (if walk.reaches then 1 else 0) := by
  let walked := (mxcIsiPipelineEnable s walk false).1
  let off := onChannel walked mxcIsiChannelDisable
  have hwalked : walked.queueStreaming = s.queueStreaming ∧
      walked.csisSwitch = s.csisSwitch - (if walk.reaches then 1 else 0) ∧
      walked.csisPm = s.csisPm - (if walk.reaches then 1 else 0) := by
    simp only [walked, (pipelineEnable_spec s walk false).1, Pipeline.switched]
    rcases hwalk : walk.reaches with _ | _
    · simp
    · exact ⟨trivial, rfl, rfl⟩
  have hoff : off.channelOn = false := channelEnabled_channelDisable _
  obtain ⟨hqueue, hchannel, hcsis, hpm, -⟩ := vb2QueueCancel_spec off
  rcases refuse with _ | e
  · refine ⟨?_, rfl, ?_, ?_, ?_⟩
    · change (vb2QueueCancel off).channelOn = false
      rw [hchannel, hoff, Bool.and_false]
    · exact hqueue.trans (Bool.and_false _).symm
    · exact hcsis.trans hwalked.2.1
    · exact hpm.trans hwalked.2.2
  · exact ⟨hoff, rfl, hwalked.1.trans (Bool.and_true _).symm, hwalked.2.1, hwalked.2.2⟩

theorem respects_streamoff {s : Pipeline} {walk : WalkEnv} {refuse : Option Errno}
    (h : Settled s) (hfits : CallFits s (.streamoff walk refuse)) :
    Respects s (.streamoff walk refuse) ∧ Settled (nodeStep s (.streamoff walk refuse)) := by
  obtain ⟨hchannel, hflag, hqueue, hcsis, hpm⟩ := streamoff_spec s walk refuse
  have hpm0 := h.agree.pm
  have hbalance := h.csis
  have hdown : (nodeStep s (.streamoff walk refuse)).queueStreaming = false ∧
      (nodeStep s (.streamoff walk refuse)).csisPm = 0 := by
    change (mxcIsiCapStreamoff s walk refuse).1.queueStreaming = false ∧
      (mxcIsiCapStreamoff s walk refuse).1.csisPm = 0
    rw [hqueue, hpm]
    unfold CallFits at hfits
    rcases hs : s.queueStreaming with _ | _
    · rw [hs] at hfits hpm0
      simp only [Bool.false_eq_true, if_false] at hfits hpm0
      rw [hfits, hpm0]
      exact ⟨rfl, rfl⟩
    · rw [hs] at hfits hpm0
      simp only [if_true] at hfits hpm0
      rw [hfits.1, hfits.2, hpm0]
      exact ⟨rfl, rfl⟩
  have hcsis' : (nodeStep s (.streamoff walk refuse)).csisSwitch =
      (nodeStep s (.streamoff walk refuse)).csisPm := by
    change (mxcIsiCapStreamoff s walk refuse).1.csisSwitch = _
    rw [hcsis, hbalance]
    exact hpm.symm
  have hagree : LayersAgree (nodeStep s (.streamoff walk refuse)) := by
    refine ⟨hchannel.trans hdown.1.symm, hflag.trans hdown.1.symm, ?_, ?_⟩
    · rw [hdown.1, hcsis', hdown.2]
      simp
    · rw [hdown.1, hdown.2]
      rfl
  exact ⟨⟨hagree, trivial⟩, hagree, hcsis'⟩

theorem release_idle {s : Pipeline} (h : s.channelOn = false)
    (hqueue : s.queueStreaming = false) (isLinkSetup remote : Bool) (usageCount : Nat) :
    SameLayers s (mxcIsiCaptureRelease s isLinkSetup remote usageCount) := by
  have hcancel : vb2QueueCancel s = s := by
    unfold vb2QueueCancel
    rw [if_neg (by rw [hqueue]; exact Bool.false_ne_true)]
  unfold mxcIsiCaptureRelease
  split
  · exact ⟨rfl, rfl, rfl, rfl, rfl, rfl⟩
  · rw [hcancel]
    dsimp only
    split
    · refine ⟨rfl, ?_, rfl, rfl, rfl, rfl⟩
      rw [h]
      exact channelEnabled_channelDeinit _
    · exact ⟨rfl, rfl, rfl, rfl, rfl, rfl⟩

theorem respects_lastClose {s : Pipeline} {isLinkSetup remote : Bool} {usageCount : Nat}
    (h : Settled s) (hfits : CallFits s (.lastClose isLinkSetup remote usageCount)) :
    Respects s (.lastClose isLinkSetup remote usageCount) ∧
      Settled (nodeStep s (.lastClose isLinkSetup remote usageCount)) := by
  have hsame : SameLayers s (mxcIsiCaptureRelease s isLinkSetup remote usageCount) := by
    rcases hfits with hqueue | hlink
    · exact release_idle (h.agree.channel.trans hqueue) hqueue _ _ _
    · unfold mxcIsiCaptureRelease
      have hskip : (!isLinkSetup || !remote) = true := by
        rcases hlink with hlink | hlink <;> simp [hlink]
      rw [if_pos hskip]
      exact ⟨rfl, rfl, rfl, rfl, rfl, rfl⟩
  exact ⟨⟨layersAgree_of_same h.agree hsame, trivial⟩, settled_of_same h hsame⟩

theorem respects_nodeStep {s : Pipeline} {op : NodeOp} (h : Settled s)
    (hfits : CallFits s op) : Respects s op ∧ Settled (nodeStep s op) := by
  cases op with
  | streamon env => exact respects_streamon h hfits
  | streamoff walk refuse => exact respects_streamoff h hfits
  | lastClose isLinkSetup remote usageCount => exact respects_lastClose h hfits

def finishStreamon (r : Pipeline × Ret) : Pipeline × Ret :=
  if callFailed r.2 then r
  else (onChannel r.1 fun isi => { isi with isStreaming := true }, .ok ())

theorem finishStreamon_spec (r : Pipeline × Ret) :
    (finishStreamon r).1.channelOn = r.1.channelOn ∧
      (finishStreamon r).1.queueStreaming = r.1.queueStreaming ∧
      (finishStreamon r).1.csisPm = r.1.csisPm ∧
      (finishStreamon r).1.sensorSwitch = r.1.sensorSwitch ∧
      ((finishStreamon r).2 = .ok () → callFailed r.2 = false) := by
  unfold finishStreamon
  split
  · rename_i hfailed
    refine ⟨rfl, rfl, rfl, rfl, fun hok => ?_⟩
    rw [hok] at hfailed
    exact absurd hfailed Bool.false_ne_true
  · rename_i hfailed
    exact ⟨rfl, rfl, rfl, rfl, fun _ => Bool.eq_false_iff.mpr hfailed⟩

/-- The layers STREAMON leaves after a successful negotiation, from those vb2
leaves, and when it reports success. -/
theorem streamon_layers {s : Pipeline} {env : StreamonEnv} (h : Negotiates s env) :
    ∃ cap : MxcIsiCapDev, cap.pix = s.cap.pix ∧
      let q := (vb2IoctlStreamon { s with cap := cap } env.vb2).1
      let r := mxcIsiCapStreamon s env
      r.1.channelOn = true ∧ r.1.queueStreaming = q.queueStreaming ∧
        r.1.csisPm = q.csisPm + (if env.walk.reaches then 1 else 0) ∧
        (env.walk.walkInit = true → r.1.sensorSwitch =
          q.sensorSwitch + if env.walk.sensor = .ok () then 1 else 0) ∧
        (r.2 = .ok () → env.walk.walkInit = true ∧ callFailed env.walk.sensor = false) := by
  obtain ⟨cap, hpix, -, hstreamon⟩ := streamon_negotiated h
  refine ⟨cap, hpix, ?_⟩
  let walked := mxcIsiPipelineEnable (channelStarted s cap env.vb2) env.walk true
  have hfinish : mxcIsiCapStreamon s env = finishStreamon walked := hstreamon
  obtain ⟨hchannel, hqueue, hpm, hsensor, hok⟩ := finishStreamon_spec walked
  have hon := channelOn_channelStarted s cap env.vb2
  dsimp only
  rw [hfinish, hchannel, hqueue, hpm, hsensor]
  obtain ⟨hwalked, hfailed⟩ :=
    pipelineEnable_spec (channelStarted s cap env.vb2) env.walk true
  change walked.1 = _ at hwalked
  change callFailed walked.2 = _ at hfailed
  rw [hwalked]
  refine ⟨hon, rfl, rfl, fun hwalk => ?_, fun hret => ?_⟩
  · simp only [Pipeline.switched, hwalk, true_and]
    rfl
  · have hnone := hok hret
    rw [hfailed, Bool.or_eq_false_iff] at hnone
    exact ⟨by simpa using hnone.1, hnone.2⟩

theorem streamonFits_of_respects {s : Pipeline} {env : StreamonEnv} (h : Settled s)
    (hrespects : Respects s (.streamon env)) : StreamonFits s env := by
  by_cases hneg : Negotiates s env
  swap
  · exact .inl hneg
  right
  obtain ⟨cap, hpix, hon, hqueue', hpm', hsensor', hok⟩ := streamon_layers hneg
  obtain ⟨hagree, hresult⟩ := hrespects
  change LayersAgree (mxcIsiCapStreamon s env).1 at hagree
  change match (mxcIsiCapStreamon s env).2 with
    | .ok () => (mxcIsiCapStreamon s env).1.queueStreaming = true
    | .error _ => SameLayers s (mxcIsiCapStreamon s env).1 at hresult
  have hstreams : (mxcIsiCapStreamon s env).1.queueStreaming = true :=
    hagree.channel.symm.trans hon
  have hpmOne : (mxcIsiCapStreamon s env).1.csisPm = 1 := by
    rw [hagree.pm, hstreams]
    rfl
  have hpmBefore := h.agree.pm
  rcases hqueue : s.queueStreaming with _ | _
  · -- the channel is on, so the queue streams and the receiver holds its reference
    obtain ⟨hstarted, -, hsensorKept, hpmKept⟩ :=
      vb2IoctlStreamon_idle (s := { s with cap := cap }) hqueue env.vb2
    rw [hpmKept] at hpm'
    rw [hqueue] at hpmBefore
    obtain ⟨hrefuse, hcount, hhost, halloc⟩ := hstarted.mp (hqueue'.symm.trans hstreams)
    have hsucceeds : (mxcIsiCapStreamon s env).2 = .ok () := by
      rcases hret : (mxcIsiCapStreamon s env).2 with e | ⟨⟩
      · rw [hret] at hresult
        have hkept := hresult.queue
        rw [hstreams, hqueue] at hkept
        cases hkept
      · rfl
    obtain ⟨hwalk, hsensor⟩ := hok hsucceeds
    rw [if_neg Bool.false_ne_true]
    refine ⟨⟨hrefuse, hcount, hhost, fun i hi => halloc i ?_⟩, hwalk, hsensor, ?_⟩
    · change i < cap.pix.numPlanes
      rw [hpix]
      exact hi
    · have hone := (hagree.subdevs.mp hstreams).2
      rw [hsensor' hwalk, hsensorKept] at hone
      exact hone
  · -- a second switch of the receiver would take a second reference
    rw [vb2IoctlStreamon_running (s := { s with cap := cap }) hqueue] at hpm'
    rw [hqueue] at hpmBefore
    rw [if_pos rfl]
    rcases hwalk : env.walk.reaches with _ | _
    · rfl
    · rw [hwalk, hpmOne] at hpm'
      change (1 : Int) = s.csisPm + 1 at hpm'
      simp only [if_true] at hpmBefore
      omega

theorem callFits_of_respects {s : Pipeline} {op : NodeOp} (h : Settled s)
    (hrespects : Respects s op) : CallFits s op := by
  have hpmBefore := h.agree.pm
  cases op with
  | streamon env => exact streamonFits_of_respects h hrespects
  | streamoff walk refuse =>
      obtain ⟨hchannel, -, hqueue, -, hpm⟩ := streamoff_spec s walk refuse
      have hagree : LayersAgree (mxcIsiCapStreamoff s walk refuse).1 := hrespects.1
      have hdown : (mxcIsiCapStreamoff s walk refuse).1.queueStreaming = false :=
        hagree.channel.symm.trans hchannel
      have hpmAfter := hagree.pm
      rw [hdown, hpm] at hpmAfter
      change if s.queueStreaming = true then walk.reaches = true ∧ refuse = none
        else walk.reaches = false
      rcases hs : s.queueStreaming with _ | _
      · rw [hs] at hpmBefore
        rw [if_neg Bool.false_ne_true]
        rcases hwalk : walk.reaches with _ | _
        · rfl
        · rw [hwalk] at hpmAfter
          simp only [Bool.false_eq_true, if_false, if_true] at hpmAfter hpmBefore
          omega
      · rw [hs] at hpmBefore hqueue
        rw [if_pos rfl]
        constructor
        · rcases hwalk : walk.reaches with _ | _
          · rw [hwalk] at hpmAfter
            simp only [Bool.false_eq_true, if_false, if_true] at hpmAfter hpmBefore
            omega
          · rfl
        · rcases refuse with _ | e
          · rfl
          · rw [hdown] at hqueue
            cases hqueue
  | lastClose isLinkSetup remote usageCount =>
      have hagree : LayersAgree (mxcIsiCaptureRelease s isLinkSetup remote usageCount) :=
        hrespects.1
      rcases hs : s.queueStreaming with _ | _
      · exact .inl hs
      · right
        by_contra hset
        have hskip : (!isLinkSetup || !remote) = false := by
          rcases isLinkSetup with _ | _ <;> rcases remote with _ | _ <;> simp at hset ⊢
        obtain ⟨hqueue, -, -, hpm, -⟩ := vb2QueueCancel_spec s
        have hafter : (mxcIsiCaptureRelease s isLinkSetup remote usageCount).csisPm = 1 ∧
            (mxcIsiCaptureRelease s isLinkSetup remote usageCount).queueStreaming = false := by
          rw [hs] at hpmBefore
          unfold mxcIsiCaptureRelease
          rw [hskip]
          simp only [Bool.false_eq_true, if_false]
          split
          · exact ⟨hpm.trans hpmBefore, hqueue⟩
          · exact ⟨hpm.trans hpmBefore, hqueue⟩
        have hpmAfter := hagree.pm
        rw [hafter.1, hafter.2] at hpmAfter
        exact absurd hpmAfter (by decide)

/-- The layers of the pipeline agree through a run, with errors leaving them as
they were, exactly when every call of the run fits the state it finds. -/
theorem layers_agree_iff_callFits {s : Pipeline} (hs : Settled s) (ops : List NodeOp) :
    Along nodeStep Respects s ops ↔ Along nodeStep CallFits s ops := by
  have hall : Along nodeStep (fun _ _ => True) s ops :=
    along_of_forall (fun _ _ => trivial) s ops
  exact along_iff_along (fun _ _ hI _ hC => respects_nodeStep hI hC)
    (fun _ _ hI _ hQ => callFits_of_respects hI hQ) hs hall

def boardPipeline : Pipeline :=
  { cap := boardCapture
    queueStreaming := false
    csisSwitch := 0
    sensorSwitch := 0
    csisPm := 0 }

theorem settled_boardPipeline : Settled boardPipeline :=
  ⟨⟨by decide, rfl, by decide, rfl⟩, rfl⟩

/-- A walk from the capture node, whose last entities come first. -/
def boardWalk : WalkEnv :=
  { walkInit := true
    order := [.sensor, .csis, .isi]
    sensor := .ok ()
    csis_once := rfl
    sensor_once := rfl }

def boardAnswers (queued : List Nat) : StreamonEnv :=
  { remote := true
    setFmt := .ok ()
    getFmt := .ok ⟨mediaBusFmtY8_1x8, 1280#32, 800#32⟩
    vb2 := ⟨none, queued, true, fun _ => none⟩
    walk := boardWalk }

theorem layers_agree_board :
    Along nodeStep Respects boardPipeline
      [.streamon (boardAnswers [0, 1]), .streamoff boardWalk none,
        .lastClose true true 1] := by
  refine (layers_agree_iff_callFits settled_boardPipeline _).mpr ⟨.inr ?_, ?_, .inl ?_, trivial⟩
  · refine ⟨⟨rfl, by decide, rfl, fun i hi => absurd hi (Nat.not_lt_zero i)⟩, rfl, rfl, rfl⟩
  · exact ⟨rfl, rfl⟩
  · rfl

/-- STREAMON with no buffer queued: the start fails, the channel runs all the
same, and the call reports success. -/
theorem streamon_drops_start_failure :
    ¬ Along nodeStep Respects boardPipeline [.streamon (boardAnswers [])] := by
  rintro ⟨⟨hagree, -⟩, -⟩
  have hchannel : (nodeStep boardPipeline (.streamon (boardAnswers []))).channelOn = true := by
    decide
  have hqueue : (nodeStep boardPipeline (.streamon (boardAnswers []))).queueStreaming = false := by
    decide
  have hsame := hagree.channel
  rw [hchannel, hqueue] at hsame
  cases hsame

end CameraPorting.Isi.Streaming
