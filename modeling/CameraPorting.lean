import CameraPorting.Library.Runs
import CameraPorting.Isi.BufferOwnership
import CameraPorting.Isi.SlotSafety
import CameraPorting.Isi.Streaming
import CameraPorting.Isi.Ioctls
import CameraPorting.Isi.FrameSizes
import CameraPorting.Isi.Containment
import CameraPorting.SensorOv5648.RegisterImage
import CameraPorting.Pipeline.RawFormat
import CameraPorting.SensorOv5648.Transfers
import CameraPorting.SensorImx219.Sensor
import CameraPorting.SensorOv5648.PowerTransitions
import CameraPorting.SensorOv5648.StreamBalance
import CameraPorting.SensorOv5648.StreamRestore
import CameraPorting.SensorOv5648.LinkRates
import CameraPorting.SensorImx219.Driver
import CameraPorting.SensorImx219.StreamState
import CameraPorting.SensorImx219.TimingControls
import CameraPorting.SensorImx219.TimingRuns
import CameraPorting.SensorImx219.ProgrammedFormat
import CameraPorting.App.CaptureClass
import CameraPorting.App.CaptureResources
import CameraPorting.App.CaptureOpen
import CameraPorting.App.CaptureReads
import CameraPorting.Isi.ChannelSharing
import CameraPorting.Isi.FrameDescriptor
import CameraPorting.MediaDev.ChannelCleaning
import CameraPorting.MediaDev.SensorNumbering
import CameraPorting.Isi.Mem2mem
import CameraPorting.Isi.Mem2memOwnership
import CameraPorting.Isi.Mem2memJobs
import CameraPorting.Csis.HistoryFree
import CameraPorting.Isi.DiscardBuffers
import CameraPorting.Isi.Scaling
import CameraPorting.Isi.ChannelConfig
import CameraPorting.Isi.FormatRoundTrip
import CameraPorting.Isi.Mem2memFormats
import CameraPorting.Isi.Selections
import CameraPorting.SensorOv5648.FormatProjection
import CameraPorting.SensorOv5648.FormatAtomicity
import CameraPorting.Library.BitFields
import CameraPorting.SensorOv5648.ModeDecoding
import CameraPorting.SensorOv5648.Pll1Clock
import CameraPorting.SensorOv5648.ExposureGain
import CameraPorting.Library.EnableCounts
import CameraPorting.SensorOv5648.PowerBalance
import CameraPorting.Pipeline.RuntimePower
import CameraPorting.SensorOv5648.Enumeration
import CameraPorting.SensorImx219.FormatNegotiation
import CameraPorting.SensorImx219.Enumeration
import CameraPorting.SensorImx219.FormatReset
import CameraPorting.App.CaptureMemory
import CameraPorting.Library.ByteMemory
import CameraPorting.Kernel.I2cMessages
import CameraPorting.SensorImx219.RegisterCodec
import CameraPorting.Isi.FrameOrder
import CameraPorting.Isi.Mem2memOrder
import CameraPorting.Isi.ChannelDecoding
import CameraPorting.Library.Unwinding
import CameraPorting.SensorImx219.Lifecycle
import CameraPorting.SensorOv5648.Lifecycle
import CameraPorting.Pipeline.ClockAccounting
import CameraPorting.Pipeline.NodeEnumeration
import CameraPorting.Pipeline.SensorRefinement
import CameraPorting.Isi.Controls
import CameraPorting.Library.LatchedEvents
import CameraPorting.Csis.Events
import CameraPorting.MediaDev.CameraPaths
import CameraPorting.MediaDev.LateBinding
