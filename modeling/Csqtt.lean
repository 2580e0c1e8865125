import Csqtt.Core.HashTable
import Csqtt.Core.Resequencing
import Csqtt.Core.Serial
import Csqtt.Core.Transducer
import Csqtt.Engine.Packet
import Csqtt.Engine.PacketRange
import Csqtt.Proofs.PacketRange
import Csqtt.Engine.FlowFrame
import Csqtt.Engine.FlowReassembler
import Csqtt.Proofs.ReassemblerPending
import Csqtt.Proofs.ReassemblerTimer
import Csqtt.Proofs.ReassemblerTagged
import Csqtt.Proofs.ReassemblerOrder
import Csqtt.Proofs.ReassemblerConservation
import Csqtt.Proofs.ReassemblerWindow
import Csqtt.Engine.Dispatcher
import Csqtt.Proofs.OutboundFraming
import Csqtt.Proofs.ReturnReorder
import Csqtt.Core.ArrayQueue
import Csqtt.Engine.StripedScheduler
import Csqtt.Proofs.UplinkRun
import Csqtt.Proofs.UplinkTotality
import Csqtt.Proofs.UplinkOrder
import Csqtt.Core.BitRing
import Csqtt.Engine.ReplayWindow
import Csqtt.Proofs.ReplayWindow
import Csqtt.Proofs.RtpReplay
import Csqtt.Engine.Obfs
import Csqtt.Engine.ObfsCiphers
import Csqtt.Engine.ObfsUnwrap
import Csqtt.Proofs.NonceUse
import Csqtt.Proofs.ObfsRoundTrip
import Csqtt.Core.Tlv
import Csqtt.Engine.StunCodec
import Csqtt.Engine.StunBounds
import Csqtt.Engine.StunMessage
import Csqtt.Engine.TurnInner
import Csqtt.Engine.TransportWriter
import Csqtt.Engine.ChannelDataWire
import Csqtt.Engine.WriterFlush
import Csqtt.Engine.TurnCore
import Csqtt.Proofs.TurnStream
import Csqtt.Engine.ActivePaths
import Csqtt.Proofs.ActivePaths
import Csqtt.Engine.CredentialCache
import Csqtt.Proofs.CredentialCache
import Csqtt.Engine.WorkerLoop
import Csqtt.Proofs.WorkerLoop
import Csqtt.Proofs.StunCodec
import Csqtt.Proofs.StunBounds
import Csqtt.Proofs.XorAddress
import Csqtt.Proofs.TurnLifecycle
import Csqtt.Proofs.TurnEvents
import Csqtt.Proofs.TurnRetransmission
import Csqtt.Proofs.TurnIntegrity
import Csqtt.Proofs.TurnLease
import Csqtt.Engine.TurnIngress
import Csqtt.Proofs.TurnIngress
import Csqtt.Proofs.TurnIngressWakes
import Csqtt.Proofs.TurnProgress
import Csqtt.Engine.PacketQueue
import Csqtt.Engine.WorkerChannels
import Csqtt.Engine.SelectiveFec
import Csqtt.Core.RecencyTable
import Csqtt.Core.RoundRobin
import Csqtt.Proofs.WorkerRegistry
import Csqtt.Engine.WorkerDispatch
import Csqtt.Proofs.DispatchRun
import Csqtt.Proofs.ChunkStability
import Csqtt.Proofs.StaleWorkers
import Csqtt.Proofs.SparePlacement
import Csqtt.Proofs.SpareProtocol
import Csqtt.Proofs.TransportLocators
import Csqtt.Core.TokenBucket
import Csqtt.Proofs.DuplicateRate
import Csqtt.Proofs.QuicFlows
import Csqtt.Proofs.Striping
import Csqtt.Core.Interleaving
import Csqtt.Helper.DataPathGuard
import Csqtt.Helper.GuardPoints
import Csqtt.Helper.GuardRun
import Csqtt.Proofs.GuardSteps
import Csqtt.Proofs.RecycleExclusion
import Csqtt.Proofs.PauseGate
import Csqtt.Proofs.RebindWatch
import Csqtt.Proofs.RebindEscalation
import Csqtt.Proofs.RememberedHandover
import Csqtt.Proofs.PauseLift
import Csqtt.Proofs.DeferredHeal
import Csqtt.Engine.Idle
import Csqtt.Proofs.IdleMode
import Csqtt.Proofs.IdleEpochs
import Csqtt.Engine.Repair
import Csqtt.Proofs.RepairEscalation
import Csqtt.Engine.RepairRun
import Csqtt.Proofs.RepairRestart
import Csqtt.Core.Notify
import Csqtt.Engine.QueueRun
import Csqtt.Proofs.QueueWake
import Csqtt.Engine.PacketPool
import Csqtt.Proofs.PoolConservation
import Csqtt.Engine.BridgeRun
import Csqtt.Proofs.BridgeWake
import Csqtt.Core.Delimited
import Csqtt.Core.Text
import Csqtt.Core.Weight
import Csqtt.Engine.GetConf
import Csqtt.Engine.TurnEndpoint
import Csqtt.Engine.WorkerGroups
import Csqtt.Proofs.GetConf
import Csqtt.Proofs.TurnEndpoint
import Csqtt.Proofs.WorkerGroups
import Csqtt.Helper.DnsResolver
import Csqtt.Proofs.DnsResolver
import Csqtt.Engine.RebindEpoch
import Csqtt.Proofs.RebindEpoch
import Csqtt.Engine.TeardownRun
import Csqtt.Proofs.TeardownRun
import Csqtt.Engine.Registering
import Csqtt.Proofs.Registering
import Csqtt.Proofs.TurnControl
import Csqtt.Engine.TurnTask
import Csqtt.Proofs.TurnTold
import Csqtt.Proofs.TurnTask
import Csqtt.Engine.ConfigFlight
import Csqtt.Proofs.ConfigFlight
import Csqtt.Engine.EngineLives
import Csqtt.Proofs.EngineLives
import Csqtt.Proofs.EngineIsolation
import Csqtt.Engine.Goodbye
import Csqtt.Proofs.Goodbye
import Csqtt.Helper.ActionRun
import Csqtt.Helper.HostDns
import Csqtt.Helper.CallHashes
import Csqtt.Proofs.ActionRun
import Csqtt.Proofs.HostDns
import Csqtt.Proofs.DnsFlights
import Csqtt.Proofs.CallHashes
import Csqtt.Engine.Logging
import Csqtt.Proofs.Logging
import Csqtt.Proofs.QueueResume
import Csqtt.Proofs.ChannelDataRoundTrip
import Csqtt.Proofs.SocketSends
import Csqtt.Proofs.WriterFlush
import Csqtt.Proofs.WorkerJourney
import Csqtt.Proofs.WriterRun
import Csqtt.Proofs.WriterTrace
import Csqtt.Proofs.WillingNetwork
import Csqtt.Engine.UplinkPressure
import Csqtt.Proofs.UplinkBalance
import Csqtt.Proofs.UplinkPressure
import Csqtt.Engine.Protocol
import Csqtt.Proofs.StreamCommands
import Csqtt.Engine.ReaderLoop
import Csqtt.Proofs.ReaderLoop
import Csqtt.Socks5.RelayCopy
import Csqtt.Proofs.RelayCopy
import Csqtt.Engine.StallDetector
import Csqtt.Proofs.StallDetector
import Csqtt.Proofs.UplinkBurst
import Csqtt.Engine.UdpBatch
import Csqtt.Proofs.UdpBatch
import Csqtt.Socks5.Handshake
import Csqtt.Proofs.Handshake
import Csqtt.Core.Access
import Csqtt.Socks5.UdpHeader
import Csqtt.Proofs.UdpHeader
import Csqtt.Socks5.UdpAssoc
import Csqtt.Proofs.UdpTargets
import Csqtt.Proofs.UdpAssoc
import Csqtt.Engine.Dns
import Csqtt.Proofs.Dns
import Csqtt.Proofs.DnsCache
import Csqtt.Helper.CsqttLink
import Csqtt.Proofs.CsqttLink
import Csqtt.Core.Checked
import Csqtt.Engine.CaptchaSlider
import Csqtt.Proofs.CaptchaSlider
import Csqtt.Proofs.SliderSeams
import Csqtt.Build.Canons
import Csqtt.Proofs.Canons
import Csqtt.Build.Bundle
import Csqtt.Proofs.Bundle
