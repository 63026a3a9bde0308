import MetaProtocolProxy.BigEndian
import MetaProtocolProxy.DubboMessage
import MetaProtocolProxy.Codec
import MetaProtocolProxy.DubboProtocol
import MetaProtocolProxy.Resumable
import MetaProtocolProxy.DubboCodec
import MetaProtocolProxy.DubboChunking
import MetaProtocolProxy.Decoder
import MetaProtocolProxy.Downstream
import MetaProtocolProxy.ActiveMessage
import MetaProtocolProxy.Router
import MetaProtocolProxy.FilterChain
import MetaProtocolProxy.ConnectionManager
import MetaProtocolProxy.Correlation
import MetaProtocolProxy.Hessian2Objects
import MetaProtocolProxy.CompactHessian2
import MetaProtocolProxy.DubboProxy
import MetaProtocolProxy.DubboReply
import MetaProtocolProxy.DubboMetadata
import MetaProtocolProxy.DubboResult
import MetaProtocolProxy.MetadataViews
import MetaProtocolProxy.DubboAttachment
import MetaProtocolProxy.DubboInvocation
import MetaProtocolProxy.DubboParameters
import MetaProtocolProxy.RouteMatcher
import MetaProtocolProxy.WeightedRouting
import MetaProtocolProxy.Chunking
import MetaProtocolProxy.Exchange
import MetaProtocolProxy.RouterLife
import MetaProtocolProxy.ResponseLife
import MetaProtocolProxy.Reading
import MetaProtocolProxy.LifeCycle
import MetaProtocolProxy.UpstreamDiscipline
import MetaProtocolProxy.ExactlyOneAnswer
import MetaProtocolProxy.MessageLeak
import MetaProtocolProxy.Oneway
import MetaProtocolProxy.UpstreamBytes
import MetaProtocolProxy.LocalReply
import MetaProtocolProxy.PausedResponse
import MetaProtocolProxy.Retry
import MetaProtocolProxy.FilterOrder
import MetaProtocolProxy.OnewayRelease
import MetaProtocolProxy.Conservation
import MetaProtocolProxy.Locality
import MetaProtocolProxy.Moves
import MetaProtocolProxy.Resting
import MetaProtocolProxy.Ownership
import MetaProtocolProxy.Interleaving
import MetaProtocolProxy.Heartbeats
import MetaProtocolProxy.ThriftReading
import MetaProtocolProxy.ThriftFrames
import MetaProtocolProxy.ThriftMessage
import MetaProtocolProxy.ThriftProtocol
import MetaProtocolProxy.ThriftMachine
import MetaProtocolProxy.ThriftStack
import MetaProtocolProxy.ThriftChunking
import MetaProtocolProxy.BinaryProtocol
import MetaProtocolProxy.ThriftTranscription
import MetaProtocolProxy.ThriftPassthrough
import MetaProtocolProxy.ThriftReply
import MetaProtocolProxy.Loops
import MetaProtocolProxy.Termination
import MetaProtocolProxy.ThriftTermination
import MetaProtocolProxy.Record
import MetaProtocolProxy.Recording
import MetaProtocolProxy.Rejection
import MetaProtocolProxy.EndsOnce
import MetaProtocolProxy.Course
import MetaProtocolProxy.Deeds
import MetaProtocolProxy.Census
import MetaProtocolProxy.Ledger
import MetaProtocolProxy.Silence
import MetaProtocolProxy.Recut
import MetaProtocolProxy.Provenance
import MetaProtocolProxy.NextHop
import MetaProtocolProxy.Relay
import MetaProtocolProxy.ConnectionReuse
import MetaProtocolProxy.ThriftRelay
import MetaProtocolProxy.ClientStream
import MetaProtocolProxy.Drain
import MetaProtocolProxy.Observer
