import DeviceManager.Transition
import DeviceManager.History
import DeviceManager.WorkerThread
import DeviceManager.Queue
import DeviceManager.Log
import DeviceManager.QueueStep
import DeviceManager.Linearization
import DeviceManager.Ledger
import DeviceManager.Delta
import DeviceManager.Accounting
import DeviceManager.Planning
import DeviceManager.Newest
import DeviceManager.Forgotten
import DeviceManager.Overtaking
import DeviceManager.Records
import DeviceManager.Gate
import DeviceManager.Convergence
import DeviceManager.Manager
import DeviceManager.ManagerStep
import DeviceManager.Posts
import DeviceManager.Rounds
import DeviceManager.Shutdown
import DeviceManager.DesiredMap
import DeviceManager.Startup
import DeviceManager.Landing
import DeviceManager.OpenGate
import DeviceManager.Disabled
import DeviceManager.FrameCodec
import DeviceManager.Persistence
import DeviceManager.Retry
import DeviceManager.Readback
import DeviceManager.SingleGroup
import DeviceManager.ProcessCalls
import DeviceManager.ExitNotice
import DeviceManager.ConfirmedRead
import DeviceManager.Wedging
import DeviceManager.FrameGrammar
import DeviceManager.SmitFrames
import DeviceManager.HipnucSoundness
import DeviceManager.ScanSegments
import DeviceManager.ScanPublishing
import DeviceManager.Ch020Sessions
import DeviceManager.SmitSessions
import DeviceManager.ModbusRead
import DeviceManager.BatteryBookkeeping
import DeviceManager.BatteryDebounce
import DeviceManager.SocSpikes
import DeviceManager.ScanOrder
import DeviceManager.DecoderBound
import DeviceManager.PublishGrid
import DeviceManager.PagerAlternation
import DeviceManager.ProcessParameters
import DeviceManager.SuffixMinimum
import DeviceManager.CircleMinTracker
import DeviceManager.Ch020Stamps
import DeviceManager.RoundedWindow
import DeviceManager.OradarScan
import DeviceManager.Stretches
import DeviceManager.OradarReading
import DeviceManager.SerialNotices
import DeviceManager.PixelAxes
import DeviceManager.FrameConversion
import DeviceManager.FrameCalibration
import DeviceManager.FramePublishing
import DeviceManager.PublishedCalibration
import DeviceManager.ConnectionEvents
import DeviceManager.ShiftRegister
import DeviceManager.Bursts
import DeviceManager.OrdUtils
import DeviceManager.BigEndian
import DeviceManager.OrdFrames
import DeviceManager.DropOldest
import DeviceManager.OrdSession
import DeviceManager.Tiles
import DeviceManager.OrdBlocks
import DeviceManager.OrdPackets
import DeviceManager.OrdFilter
import DeviceManager.OrdNetwork
import DeviceManager.Application
import DeviceManager.RosApi
import DeviceManager.ByteImage
import DeviceManager.OtpDecode
import DeviceManager.OtpImage
import DeviceManager.CallLog
import DeviceManager.OtpAccess
import DeviceManager.OtpSensor
import DeviceManager.Triples
import DeviceManager.V4l2Capture
import DeviceManager.V4l2Ledger
import DeviceManager.Mailbox
import DeviceManager.OrdCommands
import DeviceManager.OrdSettings
import DeviceManager.OrdScans
import DeviceManager.V4l2Queue
