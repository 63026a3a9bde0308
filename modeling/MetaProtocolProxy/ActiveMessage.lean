import MetaProtocolProxy.Decoder
import MetaProtocolProxy.Downstream

/-!
# Active messages

An `ActiveMessage` is a request from the client and everything done for it : its
filters, the upstream request of the router, and the decoder of the response
(`active_message.h`, `router_impl.h`). The functions of a message see the message and
the connection it came from (`Stream`), and no other message.

`decoderCalls` and `encoderCalls` record which filters were called, by their position in
the chain.
-/

namespace MetaProtocolProxy

/-- What `upstreamData` says of a response. -/
inductive UpstreamResponseStatus where
  | moreData | complete | reset | retry
deriving DecidableEq, Repr

/-- `PoolFailureReason` of a connection pool. -/
inductive PoolFailureReason where
  | overflow | localConnectionFailure | remoteConnectionFailure | timeout
deriving DecidableEq, Repr

/-- A connection of the pool, while it is lent to a request : the bytes the upstream has
sent that nobody has read, and what was written to it. -/
structure UpstreamConnection where
  buffer : Bytes
  isOpen : Bool := true
  written : List Bytes := []
deriving DecidableEq, Repr

/-- `Router::UpstreamRequest`. Its metadata is that of the message. -/
structure UpstreamRequest where
  /-- A handle is held : the pool still owes a callback. -/
  connPoolHandle : Bool := false
  connData : Option UpstreamConnection := none
  upstreamHost : Option Host := none
  requestComplete : Bool := false
  responseStarted : Bool := false
  responseComplete : Bool := false
  streamReset : Bool := false
deriving DecidableEq, Repr

/-- `Router`. `returned` records the connections given back to the pool, `closed` those it
has closed with `NoFlush`, and `cancelled` counts the cancelled handles. -/
structure Router where
  upstreamRequest : Option UpstreamRequest := none
  upstreamRequestBuffer : Bytes := []
  filterComplete : Bool := false
  returned : List UpstreamConnection := []
  closed : List UpstreamConnection := []
  cancelled : ℕ := 0
deriving DecidableEq, Repr

/-- `ActiveResponseDecoder`, with the state of its own codec. -/
structure ActiveResponseDecoder (σ : Type) where
  codec : σ
  decoder : DecoderBase := {}
  metadata : Option Metadata := none
  complete : Bool := false
  responseStatus : UpstreamResponseStatus := .moreData

/-- `ActiveMessage` : a request with all that the filters and the router keep for it. -/
structure ActiveMessage (σ : Type) where
  id : ℕ
  metadata : Option Metadata := none
  responseDecoder : Option (ActiveResponseDecoder σ) := none
  cachedRoute : Option (Option RouteEntry) := none
  filterAction : Bool := false
  encoderFilterAction : Bool := false
  pendingStreamDecoded : Bool := false
  localResponseSent : Bool := false
  router : Router := {}
  decoderCalls : List ℕ := []
  encoderCalls : List ℕ := []
  destroyed : Bool := false

/-- A message and the connection it came from. -/
structure Stream (σ : Type) where
  message : ActiveMessage σ
  downstream : Downstream σ

namespace Stream

variable {σ : Type}

/-! ## Changes of one part -/

/-- A change of the connection. -/
def onDownstream (f : Downstream σ → Downstream σ) (s : Stream σ) : Stream σ :=
  { s with downstream := f s.downstream }

/-- A place where the process would have stopped. -/
def panic (site : String) (s : Stream σ) : Stream σ :=
  s.onDownstream (Downstream.panic site)

/-- An `ASSERT` in the code of a message. -/
def assert (condition : Bool) (site : String) (s : Stream σ) : Stream σ :=
  s.onDownstream (Downstream.assert condition site)

/-- A counter goes up. -/
def inc (stat : Stat) (s : Stream σ) : Stream σ :=
  s.onDownstream (Downstream.inc stat)

/-- A change of the message. -/
def onMessage (f : ActiveMessage σ → ActiveMessage σ) (s : Stream σ) : Stream σ :=
  { s with message := f s.message }

/-- A change of its router. -/
def onRouter (f : Router → Router) (s : Stream σ) : Stream σ :=
  s.onMessage fun m => { m with router := f m.router }

/-- A change of the upstream request, if there is one. -/
def onRequest (f : UpstreamRequest → UpstreamRequest) (s : Stream σ) : Stream σ :=
  s.onRouter fun r => { r with upstreamRequest := r.upstreamRequest.map f }

/-- A change of its response decoder, if there is one. -/
def onResponseDecoder (f : ActiveResponseDecoder σ → ActiveResponseDecoder σ) (s : Stream σ) :
    Stream σ :=
  s.onMessage fun m => { m with responseDecoder := m.responseDecoder.map f }

/-! ## Callbacks of the filters -/

/-- `ActiveMessage::requestId`. -/
def requestId (s : Stream σ) : UInt64 :=
  match s.message.metadata with
  | some metadata => metadata.requestId
  | none => 0

/-- `ActiveMessage::route`, which asks the configuration once. -/
def route (cfg : Config σ) (s : Stream σ) : Option RouteEntry × Stream σ :=
  match s.message.cachedRoute with
  | some route => (route, s)
  | none =>
    match s.message.metadata with
    | some metadata =>
      let route := cfg.route s.message.id metadata
      (route, s.onMessage fun m => { m with cachedRoute := some route })
    | none => (none, s)

/-- `deferredMessage` of the message itself. -/
def deferredMessage (s : Stream σ) : Stream σ :=
  s.onDownstream (Downstream.deferredMessage s.message.id)

/-- `ActiveMessage::resetStream`. -/
def resetStream (s : Stream σ) : Stream σ :=
  s.deferredMessage

/-- `ActiveMessage::onReset`. -/
def onReset (s : Stream σ) : Stream σ :=
  s.deferredMessage

/-- `ActiveMessage::resetDownstreamConnection`. -/
def resetDownstreamConnection (s : Stream σ) : Stream σ :=
  s.onDownstream (Downstream.close .noFlush)

/-- `ActiveMessage::sendLocalReply` with an `AppException`. -/
def sendLocalReply (cfg : Config σ) (error : Error) (endStream : Bool) (s : Stream σ) :
    Stream σ :=
  match s.message.metadata with
  | none => s.panic "ASSERT(metadata_)"
  | some metadata =>
    let s := s.onDownstream
      (Downstream.sendLocalReply cfg s.message.id metadata error endStream)
    if endStream then s else s.onMessage fun m => { m with localResponseSent := true }

/-- `ActiveMessage::onError`. -/
def onError (cfg : Config σ) (what : String) (s : Stream σ) : Stream σ :=
  let s := s.onMessage fun m => { m with metadata := some (m.metadata.getD {}) }
  (s.sendLocalReply cfg ⟨.badResponse, what⟩ false).deferredMessage

/-- `ActiveMessage::startUpstreamResponse`. -/
def startUpstreamResponse (cfg : Config σ) (s : Stream σ) : Stream σ :=
  let s := s.assert s.message.responseDecoder.isNone "ASSERT(response_decoder_ == nullptr)"
  s.onMessage fun m => { m with responseDecoder := some { codec := cfg.codec.init } }

/-- The counter of a request of its kind. -/
def countRequest (metadata : Metadata) (s : Stream σ) : Stream σ :=
  match metadata.messageType with
  | .request => s.inc .requestTwoway
  | .oneway => s.inc .requestOneway
  | _ => s

/-- `ActiveMessage::finalizeRequest`. -/
def finalizeRequest (s : Stream σ) : Stream σ :=
  let s := (s.onMessage fun m => { m with pendingStreamDecoded := false }).inc .request
  match s.message.metadata with
  | none => s.panic "null metadata_ in finalizeRequest"
  | some metadata =>
    let s := s.countRequest metadata
    if s.message.localResponseSent ∨ metadata.messageType = .oneway then s.deferredMessage else s

end Stream

end MetaProtocolProxy
