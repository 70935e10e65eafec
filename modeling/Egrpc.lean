import Egrpc.Support.Runs
import Egrpc.Support.BoundedLoop
import Egrpc.Support.StreamReader
import Egrpc.Support.Bytes
import Egrpc.Support.StdHeap
import Egrpc.Support.Ledger
import Egrpc.Support.Multimap
import Egrpc.Wire
import Egrpc.PercentEncoding
import Egrpc.GrpcTimeout
import Egrpc.MessageScanner
import Egrpc.MessageScannerParse
import Egrpc.RequestHeaders
import Egrpc.RequestMetadata
import Egrpc.Base64
import Egrpc.Base64Texts
import Egrpc.ResponseMetadata
import Egrpc.CallState
import Egrpc.CallStateLifecycle
import Egrpc.CallStateVerdict
import Egrpc.CallStateHeads
import Egrpc.CallStateMetadata
import Egrpc.ReceiveMemory
import Egrpc.TimerHeap
import Egrpc.TimerTable
import Egrpc.PollTimeout
import Egrpc.TlsSocket
import Egrpc.TlsSocketConnect
import Egrpc.TlsSocketSafety
import Egrpc.TlsSocketBytes
import Egrpc.Http2Session
import Egrpc.Http2SessionInvariant
import Egrpc.Http2SessionOutput
import Egrpc.Http2Streams
import Egrpc.KeepaliveClock
import Egrpc.ChannelImpl
import Egrpc.CreateChannel
import Egrpc.InterimResponses
import Egrpc.ChannelServing
import Egrpc.ChannelTearDown
import Egrpc.ChannelFlush
import Egrpc.ChannelPhases
import Egrpc.ChannelRuns
import Egrpc.ChannelSafety
import Egrpc.KeepaliveRuns
import Egrpc.KeepaliveDetection
import Egrpc.OutputBuffer
import Egrpc.ChannelWatch
import Egrpc.ChannelKeepalive
import Egrpc.KeepaliveRearm
import Egrpc.ChannelRefusal
import Egrpc.ChannelHistory
import Egrpc.EventThread
import Egrpc.OpQueue
import Egrpc.ChannelProcess
import Egrpc.SendPath
import Egrpc.ClientContext
import Egrpc.ChannelShutdown
import Egrpc.ShutdownMutex
import Egrpc.ChannelWaiting
import Egrpc.ChannelConstruction
import Egrpc.ChannelTransport
import Egrpc.ChannelTraffic
import Egrpc.ChannelSilence
import Egrpc.ChannelSecurity
import Egrpc.ChannelReplies
import Egrpc.ChannelResults
import Egrpc.ChannelCallers
import Egrpc.ChannelDraining
import Egrpc.ConnectDeadline
import Egrpc.CustomChannel
import Egrpc.CompletionQueue
import Egrpc.BlockingUnaryCall
