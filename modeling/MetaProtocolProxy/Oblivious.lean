import MetaProtocolProxy.ConnectionManager

/-!
# What does not look at the filters that were called

A message records which of its filters were called, by their positions, and whether a chain is
being run (`Log`). Only the loops over the filters and what starts them look at the log. Everything
else does the same whatever the log is, and leaves it as it is (`Oblivious`) : the callbacks of the
filters, the router, the counters, and the destructor.
-/

namespace MetaProtocolProxy

variable {σ : Type}

/-- What a message records of its chains of filters. -/
structure Log where
  decoderCalls : List ℕ
  encoderCalls : List ℕ
  filterAction : Bool
  encoderFilterAction : Bool

/-- The record of the calls of a message. -/
def ActiveMessage.log (m : ActiveMessage σ) : Log :=
  ⟨m.decoderCalls, m.encoderCalls, m.filterAction, m.encoderFilterAction⟩

/-- The message with another record of its calls. -/
def ActiveMessage.withLog (log : Log) (m : ActiveMessage σ) : ActiveMessage σ :=
  { m with
    decoderCalls := log.decoderCalls
    encoderCalls := log.encoderCalls
    filterAction := log.filterAction
    encoderFilterAction := log.encoderFilterAction }

namespace Stream

/-- The stream with another record of the calls. -/
def withLog (log : Log) (s : Stream σ) : Stream σ :=
  s.onMessage (·.withLog log)

@[simp] theorem metadata_withLog (log : Log) (s : Stream σ) :
    (s.withLog log).message.metadata = s.message.metadata :=
  rfl

@[simp] theorem router_withLog (log : Log) (s : Stream σ) :
    (s.withLog log).message.router = s.message.router :=
  rfl

/-- A part of the program that does not look at the log, and leaves it. -/
def Oblivious (f : Stream σ → Stream σ) : Prop :=
  ∀ log s, f (s.withLog log) = (f s).withLog log

/-- The same, of one with a result. -/
def Oblivious' {α : Type*} (f : Stream σ → α × Stream σ) : Prop :=
  ∀ log s, f (s.withLog log) = (f s).map id (withLog log)

variable {cfg : Config σ} {f g : Stream σ → Stream σ}

/-- One after the other. -/
theorem Oblivious.comp (hg : Oblivious g) (hf : Oblivious f) : Oblivious (g ∘ f) := fun log s =>
  (congrArg g (hf log s)).trans (hg log (f s))

/-- The connection has no part of the record. -/
theorem oblivious_onDownstream (f : Downstream σ → Downstream σ) : Oblivious (onDownstream f) :=
  fun _ _ => rfl

theorem oblivious_onRouter (f : Router → Router) : Oblivious (σ := σ) (onRouter f) :=
  fun _ _ => rfl

theorem oblivious_onRequest (f : UpstreamRequest → UpstreamRequest) :
    Oblivious (σ := σ) (onRequest f) :=
  fun _ _ => rfl

theorem oblivious_onResponseDecoder (f : ActiveResponseDecoder σ → ActiveResponseDecoder σ) :
    Oblivious (onResponseDecoder f) :=
  fun _ _ => rfl

/-- A branch on what is not in the record. -/
theorem Oblivious.ite {p : Stream σ → Prop} [∀ s, Decidable (p s)]
    (hp : ∀ log s, p (s.withLog log) ↔ p s) (hf : Oblivious f) (hg : Oblivious g) :
    Oblivious fun s => if p s then f s else g s := by
  intro log s
  by_cases h : p s
  · simp only [if_pos h, if_pos ((hp log s).mpr h), hf log s]
  · simp only [if_neg h, if_neg (mt (hp log s).mp h), hg log s]

theorem oblivious_id : Oblivious (σ := σ) fun s => s :=
  fun _ _ => rfl

theorem oblivious_panic (site : String) : Oblivious (σ := σ) (panic site) :=
  fun _ _ => rfl

theorem oblivious_deferredMessage : Oblivious (σ := σ) deferredMessage :=
  fun _ _ => rfl

/-- The route is looked up, or cached. -/
theorem oblivious_route : Oblivious' (route cfg) := by
  rintro log ⟨⟨_, _ | metadata, _, _ | route⟩, d⟩ <;> rfl

/-- A local reply is only noted. -/
theorem oblivious_sendLocalReply (error : Error) (endStream : Bool) :
    Oblivious (sendLocalReply cfg error endStream) := by
  intro log s
  unfold sendLocalReply
  rw [metadata_withLog]
  cases s.message.metadata with
  | none => rfl
  | some metadata => cases endStream <;> rfl

theorem oblivious_onError (what : String) : Oblivious (onError cfg what) := fun log s =>
  congrArg deferredMessage (oblivious_sendLocalReply ⟨.badResponse, what⟩ false log
    (s.onMessage fun m => { m with metadata := some (m.metadata.getD {}) }))

theorem oblivious_startUpstreamResponse : Oblivious (startUpstreamResponse cfg) :=
  fun _ _ => rfl

theorem oblivious_countRequest (metadata : Metadata) :
    Oblivious (σ := σ) (countRequest metadata) := by
  intro log s
  unfold countRequest
  cases metadata.messageType <;> rfl

/-- The end of the decoder filters. -/
theorem oblivious_finalizeRequest : Oblivious (σ := σ) finalizeRequest := by
  intro log s
  have hsettle : ∀ metadata : Metadata, Oblivious fun t : Stream σ =>
      if t.message.localResponseSent = true ∨ metadata.messageType = .oneway then t.deferredMessage
      else t := fun metadata =>
    Oblivious.ite (fun _ _ => Iff.rfl) oblivious_deferredMessage oblivious_id
  unfold finalizeRequest
  dsimp only
  rw [show (((s.withLog log).onMessage fun m =>
      { m with pendingStreamDecoded := false }).inc .request).message.metadata =
      s.message.metadata from rfl,
    show ((s.onMessage fun m => { m with pendingStreamDecoded := false }).inc
      .request).message.metadata = s.message.metadata from rfl]
  cases s.message.metadata with
  | none => rfl
  | some metadata =>
    exact ((hsettle metadata).comp (oblivious_countRequest metadata)) log
      ((s.onMessage fun m => { m with pendingStreamDecoded := false }).inc .request)

theorem oblivious_withHost {f : Host → Stream σ → Stream σ} (hf : ∀ host, Oblivious (f host)) :
    Oblivious (withHost f) := by
  intro log s
  unfold withHost
  rw [router_withLog]
  cases s.message.router.upstreamRequest.bind (·.upstreamHost) with
  | none => rfl
  | some host => exact hf host log s

/-- The reply to a reset by the upstream. -/
theorem oblivious_resetReply (reason : PoolFailureReason) : Oblivious (resetReply cfg reason) := by
  cases reason with
  | overflow => exact oblivious_sendLocalReply _ _
  | localConnectionFailure => exact oblivious_withHost fun _ => oblivious_sendLocalReply _ _
  | remoteConnectionFailure => exact oblivious_withHost fun _ => oblivious_sendLocalReply _ _
  | timeout => exact oblivious_withHost fun _ => oblivious_sendLocalReply _ _

/-- A reset by the upstream. -/
theorem oblivious_onResetStream (reason : PoolFailureReason) :
    Oblivious (onResetStream cfg reason) := by
  intro log s
  unfold onResetStream
  rw [metadata_withLog]
  cases s.message.metadata with
  | none => rfl
  | some metadata =>
    have hrelease : Oblivious fun t : Stream σ =>
        if t.message.router.filterComplete ∧
            ¬t.message.router.upstreamRequest.any (·.responseComplete) then t.resetStream
        else t :=
      Oblivious.ite (fun _ _ => Iff.rfl) oblivious_deferredMessage oblivious_id
    have hreply := hrelease.comp (@oblivious_resetReply _ cfg reason)
    exact Oblivious.ite (p := fun _ => metadata.messageType = .oneway) (fun _ _ => Iff.rfl)
      oblivious_deferredMessage hreply log s

/-- An event of the upstream connection. -/
theorem oblivious_onUpstreamEvent (event : ConnectionEvent) :
    Oblivious (onUpstreamEvent cfg event) := by
  intro log s
  unfold onUpstreamEvent
  rw [router_withLog]
  cases s.message.router.upstreamRequest with
  | none => rfl
  | some request =>
    dsimp only
    split_ifs
    · rfl
    · rfl
    · cases event <;> exact oblivious_onResetStream _ log s

theorem oblivious_upstreamClosed (event : ConnectionEvent) :
    Oblivious (upstreamClosed cfg event) :=
  (oblivious_onUpstreamEvent event).comp (oblivious_onRequest _)

theorem oblivious_closeUpstream (connection : UpstreamConnection) :
    Oblivious (closeUpstream cfg connection) :=
  Oblivious.ite (fun _ _ => Iff.rfl) (oblivious_onUpstreamEvent _) oblivious_id

theorem oblivious_cancelHandle (request : UpstreamRequest) :
    Oblivious (σ := σ) (cancelHandle request) :=
  Oblivious.ite (fun _ _ => Iff.rfl) (fun _ _ => rfl) oblivious_id

/-- A connection that is closed and given up. -/
theorem oblivious_closeConnection (request : UpstreamRequest) :
    Oblivious (closeConnection cfg request) := by
  intro log s
  unfold closeConnection
  cases request.connData with
  | none => rfl
  | some connection =>
    exact ((oblivious_onRequest _).comp ((oblivious_closeUpstream connection).comp
      (oblivious_onRouter _))) log s

/-- A reset of the upstream request. -/
theorem oblivious_resetUpstreamStream : Oblivious (resetUpstreamStream cfg) := by
  intro log s
  unfold resetUpstreamStream
  rw [router_withLog]
  cases s.message.router.upstreamRequest with
  | none => rfl
  | some request =>
    exact ((oblivious_closeConnection request).comp ((oblivious_cancelHandle request).comp
      (oblivious_onRequest _))) log s

/-- A connection that is given back. -/
theorem oblivious_onResponseComplete : Oblivious (σ := σ) onResponseComplete :=
  fun _ _ => rfl

theorem oblivious_cleanup : Oblivious (σ := σ) cleanup :=
  fun _ _ => rfl

/-- The request is written. -/
theorem oblivious_encodeData : Oblivious (σ := σ) encodeData := by
  intro log s
  unfold encodeData
  rw [router_withLog]
  cases s.message.router.upstreamRequest <;> rfl

/-- A connection of the pool. -/
theorem oblivious_onPoolReadyConnection (host : Host) (leftover : Bytes) :
    Oblivious (σ := σ) (onPoolReadyConnection host leftover) :=
  fun _ _ => rfl

/-- A failure of the pool. -/
theorem oblivious_onPoolFailureReset (reason : PoolFailureReason) (host : Host) :
    Oblivious (onPoolFailureReset cfg reason host) :=
  (oblivious_onRouter _).comp ((oblivious_onResetStream reason).comp
    ((oblivious_onRequest _).comp (oblivious_onRequest _)))

/-- The upstream request is started. -/
theorem oblivious_startRequest (pool : PoolStart) : Oblivious' (startRequest cfg pool) := by
  cases pool with
  | pending => exact fun _ _ => rfl
  | ready host leftover =>
    have hready := oblivious_encodeData.comp ((oblivious_onRequest (σ := σ) fun r =>
      { r with requestComplete := true }).comp (oblivious_onPoolReadyConnection host leftover))
    exact fun log s => congrArg (FilterStatus.continue, ·) (hready log s)
  | overflow host =>
    exact fun log s => congrArg (FilterStatus.continue, ·)
      (oblivious_onPoolFailureReset .overflow host log s)

/-- A request that is routed. -/
theorem oblivious_routeTo (pool : PoolStart) (metadata : Metadata) :
    Oblivious' (routeTo cfg pool metadata) := fun log s =>
  oblivious_startRequest pool log (s.onMessage fun m =>
    { m with
      metadata := some { metadata with originMessage := [] }
      router := { m.router with
        upstreamRequest := some {}
        upstreamRequestBuffer := m.router.upstreamRequestBuffer ++ metadata.originMessage } })

/-- The router, called with a request. -/
theorem oblivious_routerOnMessageDecoded : Oblivious' (routerOnMessageDecoded cfg) := by
  intro log s
  unfold routerOnMessageDecoded
  rw [metadata_withLog, oblivious_route]
  cases s.message.metadata with
  | none => rfl
  | some metadata =>
    dsimp only
    generalize s.route cfg = r
    obtain ⟨_ | entry, t⟩ := r
    · exact congrArg (FilterStatus.stopIteration, ·) (oblivious_sendLocalReply _ _ log t)
    dsimp only [Prod.map, id]
    rw [show (t.withLog log).message.id = t.message.id from rfl]
    cases cfg.getThreadLocalCluster t.message.id entry.clusterName with
    | none => exact congrArg (FilterStatus.stopIteration, ·) (oblivious_sendLocalReply _ _ log t)
    | some cluster =>
      dsimp only
      split_ifs
      · exact congrArg (FilterStatus.stopIteration, ·) (oblivious_sendLocalReply _ _ log t)
      · cases cluster.tcpConnPool with
        | none =>
          exact congrArg (FilterStatus.stopIteration, ·) (oblivious_sendLocalReply _ _ log t)
        | some pool => exact oblivious_routeTo pool metadata log t

/-- The router, called with a response. -/
theorem oblivious_routerOnMessageEncoded : Oblivious' (σ := σ) routerOnMessageEncoded := by
  intro log s
  unfold routerOnMessageEncoded
  rw [router_withLog]
  cases s.message.router.upstreamRequest with
  | none => rfl
  | some request => exact congrArg (FilterStatus.continue, ·) (oblivious_withHost
      (fun _ => oblivious_id) log s)

/-- The router, when its message is destroyed. -/
theorem oblivious_routerOnDestroy : Oblivious (routerOnDestroy cfg) := by
  intro log s
  unfold routerOnDestroy
  rw [router_withLog]
  cases s.message.router.upstreamRequest with
  | none => rfl
  | some request => exact (oblivious_cleanup.comp oblivious_resetUpstreamStream) log s

/-- A callback of a filter. -/
theorem oblivious_act {drain : ℕ → Stream σ → Stream σ}
    (hdrain : ∀ length, Oblivious (drain length)) (a : FilterAct) :
    Oblivious (act cfg drain a) := by
  cases a with
  | sendLocalReply error endStream => exact oblivious_sendLocalReply error endStream
  | resetStream => exact oblivious_deferredMessage
  | resetDownstreamConnection => exact oblivious_onDownstream _
  | drainOriginMessage length => exact hdrain length

/-- The callbacks of a filter, one after the other. -/
theorem oblivious_acts {drain : ℕ → Stream σ → Stream σ}
    (hdrain : ∀ length, Oblivious (drain length)) :
    ∀ as : List FilterAct, Oblivious (acts cfg drain as)
  | [] => oblivious_id
  | a :: as => (oblivious_acts hdrain as).comp (oblivious_act hdrain a)

theorem oblivious_drainRequest (length : ℕ) : Oblivious (σ := σ) (drainRequest length) :=
  fun _ _ => rfl

theorem oblivious_drainResponse (length : ℕ) : Oblivious (σ := σ) (drainResponse length) :=
  fun _ _ => rfl

theorem oblivious_countResponse (metadata : Metadata) :
    Oblivious (σ := σ) (countResponse metadata) := by
  intro log s
  unfold countResponse
  split_ifs <;> rfl

/-- A response that is forwarded. -/
theorem oblivious_forwardResponse (metadata : Metadata) :
    Oblivious (σ := σ) (forwardResponse metadata) :=
  fun _ _ => rfl

theorem oblivious_onResponseException (what : String) :
    Oblivious (onResponseException cfg what) :=
  (oblivious_onError what).comp (oblivious_onDownstream _)

theorem oblivious_leaveUpstreamData (data : Bytes) :
    Oblivious (σ := σ) (leaveUpstreamData data) :=
  fun _ _ => rfl

/-- The response decoder is started by the first chunk. -/
theorem oblivious_startResponse : Oblivious (startResponse cfg) := by
  have hstart : Oblivious fun s : Stream σ =>
      if s.message.router.upstreamRequest.any (·.responseStarted) then s
      else (s.startUpstreamResponse cfg).onRequest fun r => { r with responseStarted := true } :=
    Oblivious.ite (fun _ _ => Iff.rfl) oblivious_id
      ((oblivious_onRequest _).comp oblivious_startUpstreamResponse)
  exact fun log s => hstart log (s.assert _ _)

/-- The end of a message. -/
theorem oblivious_destroy : Oblivious (destroy cfg) := by
  intro log s
  unfold destroy
  dsimp only
  split_ifs
  · exact congrArg (onMessage fun m => { m with destroyed := true })
      (oblivious_routerOnDestroy log (s.onDownstream (Downstream.dec .requestActive)))
  · rfl

end Stream
end MetaProtocolProxy
