import Srcpd.Types
import Srcpd.Transition.Core
import Srcpd.Transition.Loop
import Srcpd.Queue.Ring
import Srcpd.Queue.Producers
import Srcpd.Pool.Known
import Srcpd.Schedule.Cycle
import Srcpd.Dcc.Line
import Srcpd.Dcc.Packet
import Srcpd.Motorola.Packet
import Srcpd.Command.Gl
import Srcpd.Command.Queues
import Srcpd.Command.InfoSm
import Srcpd.Driver.GlCommand
import Srcpd.Driver.Terminate
import Srcpd.Ddl.Translate
import Srcpd.Ddl.State
import Srcpd.Ddl.PacketQueue
import Srcpd.Ddl.TranslateV3
import Srcpd.Ddl.V3Restart
import Srcpd.Ddl.Nmra
import Srcpd.Ddl.MultiFunc
import Srcpd.Ddl.NmraPool
import Srcpd.Ddl.MultiFuncSends
import Srcpd.Ddl.MultiFuncLength
import Srcpd.Ddl.Maerklin
import Srcpd.Ddl.MaerklinPool
import Srcpd.Ddl.Motorola
import Srcpd.Ddl.Refresh
import Srcpd.Ddl.Bus
import Srcpd.Ddl.V3Path
import Srcpd.Ddl.V3Length
import Srcpd.Time.Clock
import Srcpd.Time.Ticks
import Srcpd.Driver.Selectrix
import Srcpd.Feedback.Fb
import Srcpd.Feedback.Debounce
import Srcpd.Memory.LinkedList
import Srcpd.Session.Sessions
import Srcpd.Driver.Terminated
import Srcpd.Info.Frames
import Srcpd.Info.Client
import Srcpd.Info.Text
import Srcpd.Info.Announce
import Srcpd.Command.Scan
import Srcpd.Command.Handlers
import Srcpd.Command.Isolation
import Srcpd.Info.Protocols
import Srcpd.Session.Replies
import Srcpd.Session.Commands
import Srcpd.Session.Wait
import Srcpd.Session.CmdClient
import Srcpd.Transition.Sweep
import Srcpd.Lock.Timed
import Srcpd.Lock.Ga
import Srcpd.Lock.Gl
import Srcpd.Info.Views
import Srcpd.Ddl.Protocols
import Srcpd.Driver.M605x
import Srcpd.Ddl.DelayedGa
import Srcpd.Config.Walk
import Srcpd.Driver.Loconet
import Srcpd.Driver.LoconetSlots
import Srcpd.Bits.Merge
import Srcpd.Driver.Li100Reports
import Srcpd.Driver.Li100Gl
import Srcpd.Timer.Table
import Srcpd.Driver.DelayedOff
import Srcpd.Session.Buffers
import Srcpd.Command.Speed
import Srcpd.Session.Polls
import Srcpd.Session.Check
import Srcpd.Command.GaTable
import Srcpd.Driver.Inits
import Srcpd.Driver.Loopback
import Srcpd.Feedback.Modul
import Srcpd.Driver.Li100Pom
import Srcpd.Driver.IbGl
import Srcpd.Session.GlLine
import Srcpd.Session.SmStatus
import Srcpd.Ddl.Accessory
import Srcpd.Ddl.MotorolaRuns
import Srcpd.Ddl.ReversalCode
import Srcpd.Search.Backtrack
import Srcpd.Ddl.TranslateV2
import Srcpd.Dcc.Program
import Srcpd.Ddl.Program
import Srcpd.Ddl.ProgramRead
import Srcpd.Driver.IbReport
import Srcpd.Session.SocketReadline
import Srcpd.Driver.Li100Answer
import Srcpd.Driver.Li100Handlers
import Srcpd.Driver.LoconetSerial
import Srcpd.Driver.DccAddress
import Srcpd.Driver.SxDecoder
import Srcpd.Driver.ZimoAnswer
import Srcpd.Driver.ZimoGl
import Srcpd.Driver.I2cDev
import Srcpd.Driver.DcCar
import Srcpd.Driver.SxBus
import Srcpd.Bits.Digits
import Srcpd.Ddl.MaerklinAccessory
import Srcpd.Ddl.RefreshThread
import Srcpd.Ddl.RefreshPower
import Srcpd.Driver.SxFeedback
import Srcpd.Session.Handshake
import Srcpd.Driver.LoconetText
import Srcpd.Transition.Family
import Srcpd.Feedback.S88
import Srcpd.Driver.IbPower
import Srcpd.Line.Read
import Srcpd.Driver.IbEvents
import Srcpd.Ddl.TrackRuns
import Srcpd.Ddl.TrackArrival
import Srcpd.Feedback.Levels
import Srcpd.Feedback.Hsi88
import Srcpd.Ddl.GlRuns
import Srcpd.Ddl.GlArrival
