import H9d.Core.LabeledMachine
import H9d.Core.BitSlice
import H9d.Core.Outcome
import H9d.Core.Buffer
import H9d.Core.Call
import H9d.Core.Json
import H9d.Core.Future
import H9d.Core.Heap
import H9d.Core.Wakeup
import H9d.Core.Lines
import H9d.Core.OrderedMap
import H9d.Core.MapOfMaps
import H9d.Core.Stoi
import H9d.Model.H9Frame
import H9d.Model.H9FrameComparator
import H9d.Model.FrameSubject
import H9d.Soundness.FrameSubject
import H9d.Model.RawNode
import H9d.Soundness.FrameCodec
import H9d.Soundness.FramePromise
import H9d.Model.Bus
import H9d.Soundness.BusStep
import H9d.Soundness.BusDelivery
import H9d.Soundness.SendPromise
import H9d.Soundness.ForeignReply
import H9d.Model.RegisterTraffic
import H9d.Soundness.SequenceNumbers
import H9d.Soundness.RegisterTraffic
import H9d.Model.TCPClientThread
import H9d.Soundness.AsyncMessages
import H9d.Model.SlcanDriver
import H9d.Soundness.SlcanAnswers
import H9d.Soundness.SlcanGrammar
import H9d.Soundness.SlcanLines
import H9d.Soundness.SlcanStream
import H9d.Model.Jsonrpcpp
import H9d.Model.NodeDescLoader
import H9d.Model.Node
import H9d.Model.NodeMgr
import H9d.Model.NodeUpdates
import H9d.Soundness.NodeDescriptions
import H9d.Core.WorkQueue
import H9d.Model.DevRegistry
import H9d.Model.DevWorkers
import H9d.Soundness.DevRegistry
import H9d.Soundness.DevWorkers
import H9d.Model.FirmwareUploader
import H9d.Soundness.FirmwareUpload
import H9d.Soundness.PageRestarts
import H9d.Model.VirtualPyNode
import H9d.Soundness.VirtualPyNode
import H9d.Model.CliCache
import H9d.Soundness.CliCache
import H9d.Model.MetricsCollector
import H9d.Model.API
import H9d.Model.TCPReceiver
import H9d.Soundness.TCPReassembly
import H9d.Model.TCPServer
import H9d.Soundness.CounterTree
import H9d.Soundness.RegisterOutcomes
import H9d.Soundness.ApiAnswers
import H9d.Soundness.NodeArray
import H9d.Soundness.Handlers
import H9d.Soundness.Requests
import H9d.Soundness.Authentication
import H9d.Model.FrameJson
import H9d.Soundness.FrameJson
import H9d.Soundness.SendFrameRequests
import H9d.Soundness.FrameRelay
import H9d.Soundness.BatchAnswers
import H9d.Model.Bridge
import H9d.Soundness.Bridge
import H9d.Model.TCPSocket
import H9d.Model.ClientLifetime
import H9d.Soundness.ClientStep
import H9d.Soundness.ClientReaping
import H9d.Soundness.ObserverLifetime
import H9d.Soundness.ClientErrors
import H9d.Core.BigEndian
import H9d.Soundness.RegisterReplies
import H9d.Soundness.RegisterWrites
import H9d.Model.RegisterBuffers
import H9d.Soundness.RegisterReads
import H9d.Soundness.RegisterBuffers
import H9d.Soundness.NodeReset
import H9d.Soundness.SendFrameDeterminacy
import H9d.Model.TCPSender
import H9d.Soundness.TCPSending
import H9d.Soundness.ReplyClassification
import H9d.Soundness.NodeRefusals
import H9d.Soundness.ExactParameters
import H9d.Model.TCPConnection
import H9d.Soundness.TCPClosing
import H9d.Model.TransportDrivers
import H9d.Soundness.TransportDrivers
import H9d.Soundness.ComparatorOrder
import H9d.Core.IntelHex
import H9d.Core.Placement
import H9d.Model.H9fwupload
import H9d.Soundness.IntelHexImages
import H9d.Model.NodeFlash
import H9d.Soundness.NodeFlash
import H9d.Soundness.CorruptedFiles
import H9d.Soundness.UploadBounds
import H9d.Core.PointerArray
import H9d.Model.NodeTable
import H9d.Soundness.NodesList
import H9d.Soundness.DescriptionReloads
import H9d.Soundness.DescriptionFiles
import H9d.Model.DevStates
import H9d.Soundness.CarriedBytes
import H9d.Soundness.UnusedBytes
import H9d.Core.CString
import H9d.Model.CLIParsingDriver
import H9d.Soundness.EscapedBlanks
import H9d.Core.Decimal
import H9d.Core.LongestMatch
import H9d.Model.CliLexer
import H9d.Soundness.CompletedNames
import H9d.Core.UIntMap
import H9d.Model.RegisterLookups
import H9d.Soundness.RegisterLookups
import H9d.Soundness.BitNumbers
import H9d.Soundness.WorkerExceptions
import H9d.Model.H9sniffer
import H9d.Soundness.SniffedBits
import H9d.Core.Cut
import H9d.Model.H9Configurator
import H9d.Soundness.ParsedUris
import H9d.Model.BusCounters
import H9d.Soundness.CounterPaths
import H9d.Soundness.CounterPlaces
import H9d.Model.CliParser
import H9d.Soundness.NamedObjects
import H9d.Core.JsonText
import H9d.Model.JsonrpcParser
import H9d.Soundness.JsonrpcParser
import H9d.Soundness.JsonrpcCodec
import H9d.Model.JSONTCPSocket
import H9d.Soundness.JSONTCPSocket
import H9d.Model.H9Connector
import H9d.Soundness.Subscriptions
import H9d.Soundness.SentMessages
import H9d.Soundness.Sessions
import H9d.Core.ByteBits
import H9d.Model.RegisterFile
import H9d.Soundness.RegisterFile
import H9d.Core.Tally
import H9d.Model.BusMetrics
import H9d.Soundness.BusMetrics
import H9d.Core.Monitor
import H9d.Model.NodesThread
import H9d.Soundness.NodesThread
import H9d.Model.PyH9
import H9d.Soundness.PyH9
import H9d.Core.CallLog
import H9d.Model.RegisterService
import H9d.Soundness.RegisterService
import H9d.Model.DevLoader
import H9d.Soundness.DevLoader
import H9d.Core.Responder
import H9d.Model.H9cli
import H9d.Soundness.CliNames
import H9d.Soundness.H9cli
import H9d.Model.FrameSubscribers
import H9d.Soundness.FrameSubscribers
import H9d.Core.Utf8
import H9d.Soundness.BusWaits
import H9d.Soundness.ErrorTexts
import H9d.Soundness.ResultTexts
import H9d.Soundness.ThreadAnswers
