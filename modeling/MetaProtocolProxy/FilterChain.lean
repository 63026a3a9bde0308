import MetaProtocolProxy.Router

/-!
# Filter chains and responses

How a message runs through its decoder filters, pauses and goes on
(`ActiveMessage::applyDecoderFilters`, `ActiveMessageDecoderFilter::continueDecoding`), and
how a response runs through the response decoder, the encoder filters and the router
(`ActiveResponseDecoder`, `ActiveMessage::upstreamData`, `Router::onUpstreamData`).

`continueDecoding` ends in a call of `ConnectionManager::continueDecoding`, which reads
more messages. It is cut there : `Stream.continueDecoding` also says whether the
connection is to go on.
-/

namespace MetaProtocolProxy

/-- Where the iteration over a chain starts again. -/
inductive FilterIterationStartState where
  | alwaysStartFromNext | canStartFromCurrent
deriving DecidableEq, Repr

/-- `commonDecodePrefix` and `commonEncodePrefix` : the position of the first filter to call,
from the one that continues. -/
def commonPrefix (filter : Option ℕ) (state : FilterIterationStartState) : ℕ :=
  match filter with
  | none => 0
  | some position => if state = .canStartFromCurrent then position else position + 1

/-- The filter that is called next, and the filters behind it. -/
theorem getElem?_of_cons_eq_drop {chain filters : List Filter} {filter : Filter} {position : ℕ}
    (h : filter :: filters = chain.drop position) :
    chain[position]? = some filter ∧ filters = chain.drop (position + 1) := by
  constructor
  · rw [← List.head?_drop, ← h]
    rfl
  · rw [← List.tail_drop, ← h]
    rfl

/-- An exception on the way from the response decoder to `upstreamData`. -/
inductive ResponseException where
  | downstreamConnectionClose
  | envoyException (what : String)
deriving DecidableEq, Repr

namespace Stream

variable {σ : Type}

/-! ## Filters -/

/-- One callback used by a filter; `drain` takes bytes off the message it handles. -/
def act (cfg : Config σ) (drain : ℕ → Stream σ → Stream σ) (a : FilterAct) (s : Stream σ) :
    Stream σ :=
  match a with
  | .sendLocalReply error endStream => s.sendLocalReply cfg error endStream
  | .resetStream => s.resetStream
  | .resetDownstreamConnection => s.resetDownstreamConnection
  | .drainOriginMessage length => drain length s

/-- The callbacks of a filter, one after the other. -/
def acts (cfg : Config σ) (drain : ℕ → Stream σ → Stream σ) (as : List FilterAct)
    (s : Stream σ) : Stream σ :=
  as.foldl (fun s a => s.act cfg drain a) s

/-- `Metadata` with bytes taken off its original message. -/
def drained (length : ℕ) (metadata : Metadata) : Metadata :=
  { metadata with originMessage := metadata.originMessage.drop length }

/-- A decoder filter takes bytes off the request. -/
def drainRequest (length : ℕ) (s : Stream σ) : Stream σ :=
  s.onMessage fun m => { m with metadata := m.metadata.map (drained length) }

/-- An encoder filter takes bytes off the response. -/
def drainResponse (length : ℕ) (s : Stream σ) : Stream σ :=
  s.onResponseDecoder fun d => { d with metadata := d.metadata.map (drained length) }

/-- `onMessageDecoded` of the filter at a position. -/
def filterOnMessageDecoded (cfg : Config σ) (filter : Filter) (position : ℕ) (s : Stream σ) :
    FilterStatus × Stream σ :=
  let earlier := s.message.decoderCalls.count position
  let s := s.onMessage fun m => { m with decoderCalls := m.decoderCalls ++ [position] }
  match filter with
  | .router => s.routerOnMessageDecoded cfg
  | .custom react =>
    let reaction := react s.message.id earlier (s.message.metadata.getD {})
    (reaction.status, s.acts cfg drainRequest reaction.acts)

/-- `onMessageEncoded` of the filter at a position. -/
def filterOnMessageEncoded (cfg : Config σ) (filter : Filter) (position : ℕ) (s : Stream σ) :
    FilterStatus × Stream σ :=
  let earlier := s.message.encoderCalls.count position
  let s := s.onMessage fun m => { m with encoderCalls := m.encoderCalls ++ [position] }
  match filter with
  | .router => s.routerOnMessageEncoded
  | .custom react =>
    let reaction := react s.message.id earlier
      ((s.message.responseDecoder.bind (·.metadata)).getD {})
    (reaction.status, s.acts cfg drainResponse reaction.acts)

/-! ## Decoder filters -/

/-- The loop of `applyDecoderFilters`, over the filters from a position on. -/
def decoderFilterLoop (cfg : Config σ) : List Filter → ℕ → Stream σ → FilterStatus × Stream σ
  | [], _, s => (.continue, s.onMessage fun m => { m with filterAction := false })
  | filter :: rest, position, s =>
    match s.filterOnMessageDecoded cfg filter position with
    | (status, s) =>
      if s.message.localResponseSent then
        (.continue, s.onMessage fun m => { m with filterAction := false })
      else if status ≠ .continue then (status, s)
      else decoderFilterLoop cfg rest (position + 1) s

/-- `applyDecoderFilters`, from a position. -/
def applyDecoderFilters (cfg : Config σ) (start : ℕ) (s : Stream σ) : FilterStatus × Stream σ :=
  if s.message.filterAction = false then
    (.continue, s.panic "ASSERT(filter_action_ != nullptr)")
  else if s.message.localResponseSent then
    (.continue, s.onMessage fun m => { m with filterAction := false })
  else s.decoderFilterLoop cfg (cfg.decoderFilters.drop start) start

/-- `ActiveMessage::onStreamDecoded`. -/
def onStreamDecoded (cfg : Config σ) (metadata : Metadata) (s : Stream σ) : Stream σ :=
  let s := (s.inc .requestDecodingSuccess).onMessage fun m =>
    { m with metadata := some metadata, filterAction := true }
  match s.applyDecoderFilters cfg (commonPrefix none .canStartFromCurrent) with
  | (.stopIteration, s) => s.onMessage fun m => { m with pendingStreamDecoded := true }
  | (_, s) => s.finalizeRequest

/-- `ActiveMessageDecoderFilter::continueDecoding` of the filter at a position, and whether
the connection goes on. -/
def continueDecoding (cfg : Config σ) (position : ℕ) (s : Stream σ) : Bool × Stream σ :=
  match s.message.metadata with
  | none => (false, s.panic "ASSERT(parent_.metadata())")
  | some metadata =>
    let state : FilterIterationStartState :=
      if metadata.originMessage.length ≠ 0 then .canStartFromCurrent else .alwaysStartFromNext
    match s.applyDecoderFilters cfg (commonPrefix (some position) state) with
    | (.continue, s) => (true, if s.message.pendingStreamDecoded then s.finalizeRequest else s)
    | (_, s) => (false, s)

/-! ## Encoder filters -/

/-- The loop of `applyEncoderFilters`, over the filters from a position on. -/
def encoderFilterLoop (cfg : Config σ) : List Filter → ℕ → Stream σ → FilterStatus × Stream σ
  | [], _, s => (.continue, s.onMessage fun m => { m with encoderFilterAction := false })
  | filter :: rest, position, s =>
    match s.filterOnMessageEncoded cfg filter position with
    | (status, s) =>
      if s.message.localResponseSent then
        (.continue, s.onMessage fun m => { m with encoderFilterAction := false })
      else if status ≠ .continue then (status, s)
      else encoderFilterLoop cfg rest (position + 1) s

/-- `applyEncoderFilters`, from a position. -/
def applyEncoderFilters (cfg : Config σ) (start : ℕ) (s : Stream σ) : FilterStatus × Stream σ :=
  if s.message.encoderFilterAction = false then
    (.continue, s.panic "ASSERT(encoder_filter_action_ != nullptr)")
  else if s.message.localResponseSent then
    (.continue, s.onMessage fun m => { m with encoderFilterAction := false })
  else s.encoderFilterLoop cfg (cfg.encoderFilters.drop start) start

/-- `ActiveMessageEncoderFilter::continueEncoding` of the filter at a position. -/
def continueEncoding (cfg : Config σ) (position : ℕ) (s : Stream σ) : Stream σ :=
  match s.message.metadata with
  | none => s.panic "ASSERT(parent_.metadata())"
  | some metadata =>
    let state : FilterIterationStartState :=
      if metadata.originMessage.length ≠ 0 then .canStartFromCurrent else .alwaysStartFromNext
    (s.applyEncoderFilters cfg (commonPrefix (some position) state)).2

/-! ## The response decoder -/

/-- `applyMessageEncodedFilters`. -/
def applyMessageEncodedFilters (cfg : Config σ) (s : Stream σ) : FilterStatus × Stream σ :=
  let s := s.onMessage fun m => { m with encoderFilterAction := true }
  match s.applyEncoderFilters cfg (commonPrefix none .canStartFromCurrent) with
  | (.retry, s) =>
    (.retry, s.onResponseDecoder fun d =>
      { d with responseStatus := .retry, decoder := d.decoder.reset })
  | (status, s) => (status, s)

/-- The counters of a forwarded response. -/
def countResponse (metadata : Metadata) (s : Stream σ) : Stream σ :=
  let s := (s.inc .response).inc .responseDecodingSuccess
  let s := if metadata.messageType = .error then s.inc .responseBusinessException else s
  if metadata.responseStatus = .ok then s.inc .responseSuccess else s.inc .responseError

/-- The write of a forwarded response. -/
def forwardResponse (metadata : Metadata) (s : Stream σ) : Stream σ :=
  s.onDownstream (Downstream.write
    ⟨some s.message.id, .upstreamResponse metadata, metadata.originMessage, false⟩)

/-- `ActiveResponseDecoder::onStreamDecoded` up to the status of the encoder filters. -/
def encodeResponse (cfg : Config σ) (metadata : Metadata) (s : Stream σ) :
    FilterStatus × Stream σ :=
  let s := s.assert (metadata.messageType = .response ∨ metadata.messageType = .error)
    "ASSERT(Response || Error)"
  let s := s.onResponseDecoder fun d => { d with metadata := some metadata }
  s.applyMessageEncodedFilters cfg

/-- `ActiveResponseDecoder::onStreamDecoded`, and the exception it ends with. The metadata
that is forwarded is what the filters have left of the decoded one. -/
def onResponseDecoded (cfg : Config σ) (metadata : Metadata) (s : Stream σ) :
    Option ResponseException × Stream σ :=
  match s.encodeResponse cfg metadata with
  | (status, s) =>
    if status ≠ .continue then
      (none, s.onResponseDecoder fun d => { d with responseStatus := .complete })
    else if s.downstream.state ≠ .open then (some .downstreamConnectionClose, s)
    else
      let metadata := (s.message.responseDecoder.bind (·.metadata)).getD metadata
      (none, ((s.forwardResponse metadata).countResponse metadata).onResponseDecoder fun d =>
        { d with complete := true, responseStatus := .complete })

/-- `ActiveResponseDecoder::onData`, after the callback has returned. -/
def responseDecoded (data : Bytes) (s : Stream σ) :
    Bytes × Except ResponseException UpstreamResponseStatus × Stream σ :=
  let s := s.onResponseDecoder fun d => { d with decoder := d.decoder.complete }
  match s.message.responseDecoder with
  | none => (data, .ok .moreData, s.panic "null response_decoder_")
  | some decoder =>
    (data, .ok decoder.responseStatus,
      s.assert (decoder.complete || data.isEmpty) "ASSERT(complete_ || underflow)")

/-- `ActiveResponseDecoder::onData` : the rest of the data, the status or the exception. -/
def responseDecoderOnData (cfg : Config σ) (data : Bytes) (s : Stream σ) :
    Bytes × Except ResponseException UpstreamResponseStatus × Stream σ :=
  match s.message.responseDecoder with
  | none => (data, .ok .moreData, s.panic "ASSERT(response_decoder_ != nullptr)")
  | some responseDecoder =>
    match responseDecoder.decoder.decode cfg.codec responseDecoder.codec data with
    | (decoder, codec, data, decoded) =>
      let s := s.onResponseDecoder fun d => { d with decoder, codec }
      match decoded with
      | .waitForData => (data, .ok responseDecoder.responseStatus, s)
      | .heartbeat _ => (data, .ok .moreData, s.panic "NOT_IMPLEMENTED in onHeartbeat")
      | .throw (.exception what) => (data, .error (.envoyException what), s)
      | .throw (.panic site) => (data, .ok .moreData, s.panic site)
      | .stream metadata =>
        match s.onResponseDecoded cfg metadata with
        | (some ex, s) => (data, .error ex, s)
        | (none, s) => s.responseDecoded data

/-- `ActiveResponseDecoder::requestId`. -/
def responseRequestId (s : Stream σ) : UInt64 :=
  match s.message.responseDecoder.bind (·.metadata) with
  | some metadata => metadata.requestId
  | none => 0

/-- The handler of an `EnvoyException` in `upstreamData`. -/
def onResponseException (cfg : Config σ) (what : String) (s : Stream σ) : Stream σ :=
  (s.inc .responseDecodingError).onError cfg what

/-- `ActiveMessage::upstreamData` : the rest of the buffer and the status. -/
def upstreamData (cfg : Config σ) (buffer : Bytes) (s : Stream σ) :
    Bytes × UpstreamResponseStatus × Stream σ :=
  match s.responseDecoderOnData cfg buffer with
  | (buffer, .ok .complete, s) =>
    if s.requestId ≠ s.responseRequestId then
      (buffer, .reset, s.onResponseException cfg
        ("meta protocol " ++ cfg.applicationProtocol ++ " response: request ID is not equal, " ++
          toString s.requestId ++ ":" ++ toString s.responseRequestId))
    else (buffer, .complete, s.deferredMessage)
  | (buffer, .ok .retry, s) => (buffer, .retry, s.onMessage fun m =>
      { m with responseDecoder := none })
  | (buffer, .ok status, s) => (buffer, status, s)
  | (buffer, .error .downstreamConnectionClose, s) =>
    (buffer, .reset, s.onReset.inc .responseErrorCausedConnectionClose)
  | (buffer, .error (.envoyException what), s) =>
    (buffer, .reset, s.onResponseException cfg what)

/-! ## The router's side -/

/-- The bytes `onUpstreamData` leaves stay in the buffer of the connection. -/
def leaveUpstreamData (data : Bytes) (s : Stream σ) : Stream σ :=
  s.onRequest fun r => { r with connData := r.connData.map fun c => { c with buffer := data } }

/-- `Router::onUpstreamData` up to `upstreamData` : the response is started with the first
data. -/
def startResponse (cfg : Config σ) (s : Stream σ) : Stream σ :=
  let s := s.assert (!s.message.router.upstreamRequest.any (·.responseComplete))
    "ASSERT(!upstream_request_->response_complete_)"
  if s.message.router.upstreamRequest.any (·.responseStarted) then s
  else (s.startUpstreamResponse cfg).onRequest fun r => { r with responseStarted := true }

/-- `Router::onUpstreamData`. -/
def onUpstreamData (cfg : Config σ) (data : Bytes) (endStream : Bool) (s : Stream σ) : Stream σ :=
  match s.message.router.upstreamRequest with
  | none => s.panic "null upstream_request_ in onUpstreamData"
  | some _ =>
    match (s.startResponse cfg).upstreamData cfg data with
    | (data, status, s) =>
      let s := s.leaveUpstreamData data
      match status with
      | .complete => s.onResponseComplete.cleanup
      | .reset => s.resetUpstreamStream cfg
      | .moreData | .retry =>
        if endStream then
          (s.onResetStream cfg .remoteConnectionFailure).onResponseComplete.cleanup
        else s

/-- The destructor of `ActiveMessage`. Of the filters only the router has something to
clean up. -/
def destroy (cfg : Config σ) (s : Stream σ) : Stream σ :=
  let s := s.onDownstream (Downstream.dec .requestActive)
  let s :=
    if cfg.decoderFilters.any Filter.isRouter || cfg.encoderFilters.any Filter.isRouter then
      s.routerOnDestroy cfg
    else s
  s.onMessage fun m => { m with destroyed := true }

end Stream

end MetaProtocolProxy
