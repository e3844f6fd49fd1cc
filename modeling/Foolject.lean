import Foolject.Lib.Transition
import Foolject.VNClib.NetMsg
import Foolject.VNClib.Params
import Foolject.VNClib.AddParam
import Foolject.VNClib.Channel
import Foolject.VNClib.RecvFraming
import Foolject.VNClib.SendFraming
import Foolject.VNClib.Fields
import Foolject.VNClib.Settings
import Foolject.VNClib.RoundTrip
import Foolject.Redundancy.Basic
import Foolject.Redundancy.Negotiate
import Foolject.Redundancy.Lan
import Foolject.Redundancy.Regular
import Foolject.Redundancy.Pairing
import Foolject.Redundancy.QuitNotice
import Foolject.Redundancy.AtMostOnePrimary
import Foolject.Redundancy.Groups
import Foolject.Redundancy.Heartbeat
import Foolject.Redundancy.Undecodable
import Foolject.Redundancy.Threads
import Foolject.Redundancy.TakeOver
import Foolject.Redundancy.Fencing
import Foolject.Redundancy.Connected
import Foolject.Redundancy.RoleHistory
import Foolject.Lib.Transducer
import Foolject.Telecom.Events
import Foolject.Telecom.Counters
import Foolject.Telecom.IdleLine
import Foolject.Telecom.Maintenance
import Foolject.Telecom.Handlers
import Foolject.Telecom.Reports
import Foolject.Telecom.Release
import Foolject.Telecom.ExitReason
import Foolject.Telecom.Direction
import Foolject.VNClib.Walk
import Foolject.VNClib.Capacity
import Foolject.VNClib.AddParams
import Foolject.VNClib.RecvSlots
import Foolject.VNClib.SendSlots
import Foolject.VNClib.SendView
import Foolject.VNClib.Delivery
import Foolject.VNClib.Handshake
import Foolject.VNClib.Listener
import Foolject.VNClib.Replies
import Foolject.VNClib.Queue
import Foolject.VNClib.Datagrams
import Foolject.Lib.InetAddr
import Foolject.VNClib.Broadcast
import Foolject.VNClib.Getters
import Foolject.Lib.File
import Foolject.VNClib.Lookups
import Foolject.VNClib.HeaderFields
import Foolject.Telecom.Commands
import Foolject.Telecom.PlayFile
import Foolject.Telecom.Api
import Foolject.Foolbear.Wave
import Foolject.Foolbear.WaveChunks
import Foolject.Foolbear.Tiff
import Foolject.Foolbear.Elements
import Foolject.Foolbear.ElementLookup
import Foolject.Foolbear.MakePath
import Foolject.Lib.Acceptor
import Foolject.Lib.Family
import Foolject.Hmp.Channel
import Foolject.Hmp.Loop
import Foolject.Hmp.FaxRouting
import Foolject.Hmp.CodecRequests
import Foolject.Hmp.Dispatch
import Foolject.Kill.KillProcess
import Foolject.Reload.Restart
import Foolject.Reload.Controls
import Foolject.Lib.Chain
import Foolject.VNClib.QueueNodes
import Foolject.VNClib.ParamIds
import Foolject.Foolbear.ElementFrame
import Foolject.Telecom.LineList
import Foolject.Lib.MultiString
import Foolject.Reload.Sources
import Foolject.Reload.Installation
import Foolject.Reload.Arguments
import Foolject.VNClib.QueueGroup
import Foolject.VNClib.Routing
import Foolject.VNClib.EndToEnd
import Foolject.Lib.Dialogue
import Foolject.Hmp.CommandLine
import Foolject.Hmp.Orders
import Foolject.Hmp.Registration
import Foolject.Hmp.Overrun
import Foolject.Telecom.Devices
import Foolject.Telecom.WorkThread
import Foolject.Redundancy.Wire
import Foolject.Redundancy.Detection
import Foolject.Redundancy.Shutdown
import Foolject.Hmp.References
import Foolject.Kill.ProcessInfo
import Foolject.Kill.Ownership
import Foolject.Kill.Program
import Foolject.Kill.Search
