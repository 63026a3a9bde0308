import MetaProtocolProxy.ActiveMessage

/-!
# The router

`Router` and its `UpstreamRequest` (`router_impl.cc`), as functions of the message they
belong to. The pool calls back inside `newConnection`, or later; the callbacks that go
on with the filter chain are in `FilterChain`, the others are here.
-/

namespace MetaProtocolProxy

namespace Stream

variable {σ : Type}

/-! ## The upstream request -/

/-- The address of the selected host, in the text of an error. -/
def withHost (f : Host → Stream σ → Stream σ) (s : Stream σ) : Stream σ :=
  match s.message.router.upstreamRequest.bind (·.upstreamHost) with
  | some host => f host s
  | none => s.panic "null upstream_host_"

/-- The error reply for a reason. -/
def resetReply (cfg : Config σ) (reason : PoolFailureReason) (s : Stream σ) : Stream σ :=
  match reason with
  | .overflow =>
    s.sendLocalReply cfg
      ⟨.unspecified, "meta protocol upstream request: too many connections"⟩ false
  | .localConnectionFailure =>
    s.withHost fun host s => s.sendLocalReply cfg
      ⟨.unspecified,
        "meta protocol upstream request: local connection failure '" ++ host ++ "'"⟩ false
  | .remoteConnectionFailure =>
    s.withHost fun host s => s.sendLocalReply cfg
      ⟨.unspecified,
        "meta protocol upstream request: remote connection failure '" ++ host ++ "'"⟩ false
  | .timeout =>
    s.withHost fun host s => s.sendLocalReply cfg
      ⟨.unspecified,
        "meta protocol upstream request: connection failure '" ++ host ++ "' due to timeout"⟩ false

/-- `UpstreamRequest::onResetStream`. A oneway request gets no response, and is released. -/
def onResetStream (cfg : Config σ) (reason : PoolFailureReason) (s : Stream σ) : Stream σ :=
  match s.message.metadata with
  | none => s.panic "null metadata_ in onResetStream"
  | some metadata =>
    if metadata.messageType = .oneway then s.resetStream
    else
      let s := s.resetReply cfg reason
      let responseComplete := s.message.router.upstreamRequest.any (·.responseComplete)
      if s.message.router.filterComplete ∧ ¬responseComplete then s.resetStream else s

/-- `Router::onEvent`, for the two events that close the upstream connection. -/
def onUpstreamEvent (cfg : Config σ) (event : ConnectionEvent) (s : Stream σ) : Stream σ :=
  match s.message.router.upstreamRequest with
  | none => s
  | some request =>
    if request.responseComplete then s
    else if request.streamReset ∧ event = .localClose then s
    else
      match event with
      | .remoteClose => s.onResetStream cfg .remoteConnectionFailure
      | .localClose => s.onResetStream cfg .localConnectionFailure

/-- The upstream connection is closed, and reports it. -/
def upstreamClosed (cfg : Config σ) (event : ConnectionEvent) (s : Stream σ) : Stream σ :=
  (s.onRequest fun r =>
    { r with connData := r.connData.map fun c => { c with isOpen := false } }).onUpstreamEvent
    cfg event

/-- Closing an upstream connection reports a local close before it returns. -/
def closeUpstream (cfg : Config σ) (connection : UpstreamConnection) (s : Stream σ) : Stream σ :=
  if connection.isOpen then s.onUpstreamEvent cfg .localClose else s

/-- A pending handle is cancelled. -/
def cancelHandle (request : UpstreamRequest) (s : Stream σ) : Stream σ :=
  if request.connPoolHandle then
    ((s.assert request.connData.isNone "ASSERT(!conn_data_)").onRouter
      fun r => { r with cancelled := r.cancelled + 1 }).onRequest
      fun r => { r with connPoolHandle := false }
  else s

/-- A connection is closed with `NoFlush` and given up. -/
def closeConnection (cfg : Config σ) (request : UpstreamRequest) (s : Stream σ) : Stream σ :=
  match request.connData with
  | some connection =>
    ((s.onRouter fun r => { r with closed := r.closed ++ [connection] }).closeUpstream cfg
      connection).onRequest fun r => { r with connData := none }
  | none => s

/-- `UpstreamRequest::resetStream`. -/
def resetUpstreamStream (cfg : Config σ) (s : Stream σ) : Stream σ :=
  match s.message.router.upstreamRequest with
  | none => s.panic "null upstream_request_ in resetStream"
  | some request =>
    ((s.onRequest fun r => { r with streamReset := true }).cancelHandle request).closeConnection
      cfg request

/-- `UpstreamRequest::onResponseComplete` : the connection goes back to the pool as it is. -/
def onResponseComplete (s : Stream σ) : Stream σ :=
  let connection := s.message.router.upstreamRequest.bind (·.connData)
  (s.onRequest fun r => { r with responseComplete := true, connData := none }).onRouter
    fun r => { r with returned := r.returned ++ connection.toList }

/-- `Router::cleanup`. -/
def cleanup (s : Stream σ) : Stream σ :=
  s.onRouter fun r => { r with upstreamRequest := none }

/-- `UpstreamRequest::encodeData` : the whole buffer is written to the connection. -/
def encodeData (s : Stream σ) : Stream σ :=
  match s.message.router.upstreamRequest with
  | none => s.panic "null upstream_request_ in encodeData"
  | some request =>
    let s := s.assert request.connData.isSome "ASSERT(conn_data_)"
    let s := s.assert (!request.connPoolHandle) "ASSERT(!conn_pool_handle_)"
    let data := s.message.router.upstreamRequestBuffer
    (s.onRequest fun r =>
      { r with connData := r.connData.map fun c =>
          { c with written := if c.isOpen then c.written ++ [data] else c.written } }).onRouter
      fun r => { r with upstreamRequestBuffer := [] }

/-- `UpstreamRequest::onRequestComplete`. -/
def onRequestComplete (s : Stream σ) : Stream σ :=
  s.onRequest fun r => { r with requestComplete := true }

/-- `UpstreamRequest::onUpstreamHostSelected`. -/
def onUpstreamHostSelected (host : Host) (s : Stream σ) : Stream σ :=
  s.onRequest fun r => { r with upstreamHost := some host }

/-- `onPoolReady` up to `onRequestStart`. -/
def onPoolReadyConnection (host : Host) (leftover : Bytes) (s : Stream σ) : Stream σ :=
  (s.onUpstreamHostSelected host).onRequest fun r =>
    { r with connData := some { buffer := leftover }, connPoolHandle := false }

/-- `onPoolFailure` up to `continueDecoding`. -/
def onPoolFailureReset (cfg : Config σ) (reason : PoolFailureReason) (host : Host)
    (s : Stream σ) : Stream σ :=
  let s := s.onRequest fun r => { r with connPoolHandle := false }
  let s := (s.onUpstreamHostSelected host).onResetStream cfg reason
  s.onRouter fun r => { r with upstreamRequestBuffer := [] }

/-- `UpstreamRequest::start`. A callback inside `newConnection` finds no handle, so it does
not go on with the filter chain : the chain is still being run. -/
def startRequest (cfg : Config σ) (pool : PoolStart) (s : Stream σ) : FilterStatus × Stream σ :=
  match pool with
  | .pending => (.stopIteration, s.onRequest fun r => { r with connPoolHandle := true })
  | .ready host leftover =>
    (.continue, (s.onPoolReadyConnection host leftover).onRequestComplete.encodeData)
  | .overflow host => (.continue, s.onPoolFailureReset cfg .overflow host)

/-! ## The filter -/

/-- `Router::onMessageDecoded` once there is a pool : the original message is moved out of
the metadata, and a new upstream request started. -/
def routeTo (cfg : Config σ) (pool : PoolStart) (metadata : Metadata) (s : Stream σ) :
    FilterStatus × Stream σ :=
  let s := s.onMessage fun m =>
    { m with
      metadata := some { metadata with originMessage := [] }
      router := { m.router with
        upstreamRequest := some {}
        upstreamRequestBuffer := m.router.upstreamRequestBuffer ++ metadata.originMessage } }
  s.startRequest cfg pool

/-- `Router::onMessageDecoded`. -/
def routerOnMessageDecoded (cfg : Config σ) (s : Stream σ) : FilterStatus × Stream σ :=
  match s.message.metadata with
  | none => (.stopIteration, s.panic "null metadata in onMessageDecoded")
  | some metadata =>
    match s.route cfg with
    | (none, s) =>
      (.stopIteration, s.sendLocalReply cfg
        ⟨.routeNotFound, "meta protocol router: no cluster match for request '" ++
          toString metadata.requestId ++ "'"⟩ false)
    | (some entry, s) =>
      match cfg.getThreadLocalCluster s.message.id entry.clusterName with
      | none =>
        (.stopIteration, s.sendLocalReply cfg
          ⟨.clusterNotFound,
            "meta protocol router: unknown cluster '" ++ entry.clusterName ++ "'"⟩ false)
      | some cluster =>
        if cluster.maintenanceMode then
          (.stopIteration, s.sendLocalReply cfg
            ⟨.unspecified, "meta protocol router: maintenance mode for cluster '" ++
              entry.clusterName ++ "'"⟩ false)
        else
          match cluster.tcpConnPool with
          | none =>
            (.stopIteration, s.sendLocalReply cfg
              ⟨.noHealthyUpstream, "meta protocol router: no healthy upstream for '" ++
                entry.clusterName ++ "'"⟩ false)
          | some pool => s.routeTo cfg pool metadata

/-- `Router::onMessageEncoded`. The result is reported to the selected host. -/
def routerOnMessageEncoded (s : Stream σ) : FilterStatus × Stream σ :=
  match s.message.router.upstreamRequest with
  | none => (.continue, s)
  | some _ => (.continue, s.withHost fun _ s => s)

/-- `Router::onDestroy`. -/
def routerOnDestroy (cfg : Config σ) (s : Stream σ) : Stream σ :=
  match s.message.router.upstreamRequest with
  | some _ => (s.resetUpstreamStream cfg).cleanup
  | none => s.cleanup

end Stream

end MetaProtocolProxy
