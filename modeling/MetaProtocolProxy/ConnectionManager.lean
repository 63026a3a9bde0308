import Mathlib.Logic.Function.Basic
import MetaProtocolProxy.FilterChain
import MetaProtocolProxy.Transition

/-!
# The connection manager

`ConnectionManager` (`conn_manager.cc`) : a client connection with its request decoder
and its messages, and what every event does to it. `Event` lists what Envoy can call
the connection or one of its messages with, and `Enabled` when : the pool calls back
only for a handle it gave out, an upstream connection delivers nothing once it is
closed, a filter continues only where it has stopped the iteration, and the deferred
deletion destroys a message once.

`delivered` and `decodingFailed` record what the request decoder called back with, and
that an exception has ended a `dispatch`.
-/

namespace MetaProtocolProxy

/-- A callback of the request decoder. -/
inductive Delivery where
  | stream (metadata : Metadata)
  | heartbeat (metadata : Metadata)
deriving DecidableEq, Repr

/-- `ConnectionManager`, with all the messages it has created. -/
structure ConnectionManager (σ : Type) where
  downstream : Downstream σ
  requestBuffer : Bytes := []
  decoder : DecoderBase := {}
  stopped : Bool := false
  halfClosed : Bool := false
  messages : ℕ → ActiveMessage σ := fun i => { id := i }
  created : ℕ := 0
  delivered : List Delivery := []
  decodingFailed : Bool := false

namespace ConnectionManager

variable {σ : Type}

/-- A connection nothing has happened on. -/
def new (cfg : Config σ) : ConnectionManager σ :=
  { downstream := { codec := cfg.codec.init } }

/-- A change of the connection. -/
def onDownstream (f : Downstream σ → Downstream σ) (cm : ConnectionManager σ) :
    ConnectionManager σ :=
  { cm with downstream := f cm.downstream }

/-- A message together with the connection. -/
def stream (i : ℕ) (cm : ConnectionManager σ) : Stream σ :=
  ⟨cm.messages i, cm.downstream⟩

/-- Puts back what a message did. -/
def setStream (i : ℕ) (s : Stream σ) (cm : ConnectionManager σ) : ConnectionManager σ :=
  { cm with downstream := s.downstream, messages := Function.update cm.messages i s.message }

/-- A change of a message together with the connection. -/
def onStream (i : ℕ) (f : Stream σ → Stream σ) (cm : ConnectionManager σ) : ConnectionManager σ :=
  cm.setStream i (f (cm.stream i))

@[simp] theorem stream_setStream (i : ℕ) (s : Stream σ) (cm : ConnectionManager σ) :
    (cm.setStream i s).stream i = s := by
  simp [stream, setStream]

@[simp] theorem setStream_setStream (i : ℕ) (s s' : Stream σ) (cm : ConnectionManager σ) :
    (cm.setStream i s).setStream i s' = cm.setStream i s' := by
  simp [setStream]

/-! ## Callbacks of the decoder -/

/-- `newStream`, and the message is decoded. -/
def newStream (cfg : Config σ) (metadata : Metadata) (cm : ConnectionManager σ) :
    ConnectionManager σ :=
  let id := cm.created
  let cm := { cm with created := id + 1, delivered := cm.delivered ++ [Delivery.stream metadata] }
  let cm := cm.onDownstream fun d =>
    { (d.inc .requestActive) with activeMessageList := id :: d.activeMessageList }
  (cm.setStream id ⟨{ id }, cm.downstream⟩).onStream id (Stream.onStreamDecoded cfg metadata)

/-- `onHeartbeat`, and what it ends with. -/
def onHeartbeat (cfg : Config σ) (metadata : Metadata) (cm : ConnectionManager σ) :
    Except Fault Unit × ConnectionManager σ :=
  let cm := { cm with delivered := cm.delivered ++ [Delivery.heartbeat metadata] }
  let cm := cm.onDownstream (Downstream.inc .requestEvent)
  if cm.downstream.state ≠ .open then (.ok (), cm)
  else
    match cfg.codec.encode cm.downstream.codec { metadata with messageType := .heartbeat } with
    | .error fault => (.error fault, cm)
    | .ok bytes => (.ok (), cm.onDownstream (Downstream.write ⟨none, .heartbeat, bytes, false⟩))

/-- A heartbeat is noted and counted, and may be answered. Nothing else is touched. -/
theorem onHeartbeat_spec (cfg : Config σ) (metadata : Metadata) (cm : ConnectionManager σ) :
    ∃ ws : List Write,
      (cm.onHeartbeat cfg metadata).2 =
        { cm with
          delivered := cm.delivered ++ [Delivery.heartbeat metadata]
          downstream := { (cm.downstream.inc .requestEvent) with
            written := cm.downstream.written ++ ws } } ∧
      ∀ w ∈ ws, w.message = none ∧ w.reply = .heartbeat := by
  unfold onHeartbeat
  dsimp only
  split
  · exact ⟨[], by simp [onDownstream, Downstream.inc], by simp⟩
  · split
    · exact ⟨[], by simp [onDownstream, Downstream.inc], by simp⟩
    · rename_i bytes _
      exact ⟨[⟨none, .heartbeat, bytes, false⟩], rfl, by simp⟩

/-! ## Reading messages -/

/-- The handler of an `EnvoyException` in `dispatch`. -/
def onDecodingError (cm : ConnectionManager σ) : ConnectionManager σ :=
  { cm.onDownstream fun d =>
      ((d.close .noFlush).inc .requestDecodingError).resetAllMessages true with
    decodingFailed := true }

/-- `decoder_->onData` on the request buffer, up to the callback. -/
def decode (cfg : Config σ) (cm : ConnectionManager σ) : ConnectionManager σ × Decoded :=
  match cm.decoder.decode cfg.codec cm.downstream.codec cm.requestBuffer with
  | (decoder, codec, requestBuffer, decoded) =>
    ({ cm with decoder, requestBuffer, downstream := { cm.downstream with codec } }, decoded)

/-- The message is complete. -/
def complete (cm : ConnectionManager σ) : ConnectionManager σ :=
  { cm with decoder := cm.decoder.complete }

/-- The loop of `dispatch`, for `fuel` calls of the decoder. -/
def dispatchLoop (cfg : Config σ) : ℕ → ConnectionManager σ → ConnectionManager σ
  | 0, cm => cm
  | fuel + 1, cm =>
    match cm.decode cfg with
    | (cm, .waitForData) => cm
    | (cm, .throw (.exception _)) => cm.onDecodingError
    | (cm, .throw (.panic site)) => cm.onDownstream (Downstream.panic site)
    | (cm, .stream metadata) =>
      let cm := (cm.newStream cfg metadata).complete
      if cm.requestBuffer = [] then cm else dispatchLoop cfg fuel cm
    | (cm, .heartbeat metadata) =>
      match cm.onHeartbeat cfg metadata with
      | (.error (.exception _), cm) => cm.onDecodingError
      | (.error (.panic site), cm) => cm.onDownstream (Downstream.panic site)
      | (.ok (), cm) =>
        let cm := cm.complete
        if cm.requestBuffer = [] then cm else dispatchLoop cfg fuel cm

/-- `dispatch`. A message takes at least one byte, so the loop ends within the buffer. -/
def dispatch (cfg : Config σ) (cm : ConnectionManager σ) : ConnectionManager σ :=
  if cm.requestBuffer = [] then cm
  else if cm.stopped then cm
  else dispatchLoop cfg (cm.requestBuffer.length + 1) cm

/-- What one turn of the loop does, and whether the loop may go on behind it. -/
inductive Turn (cfg : Config σ) (cm : ConnectionManager σ) : ConnectionManager σ → Bool → Prop
  | wait (h : (cm.decode cfg).2 = .waitForData) : Turn cfg cm (cm.decode cfg).1 false
  | error {what : String} (h : (cm.decode cfg).2 = .throw (.exception what)) :
      Turn cfg cm (cm.decode cfg).1.onDecodingError false
  | panic {site : String} (h : (cm.decode cfg).2 = .throw (.panic site)) :
      Turn cfg cm ((cm.decode cfg).1.onDownstream (Downstream.panic site)) false
  | stream {metadata : Metadata} (h : (cm.decode cfg).2 = .stream metadata) :
      Turn cfg cm ((cm.decode cfg).1.newStream cfg metadata).complete true
  | heartbeat {metadata : Metadata} (h : (cm.decode cfg).2 = .heartbeat metadata)
      (hreply : ((cm.decode cfg).1.onHeartbeat cfg metadata).1 = .ok ()) :
      Turn cfg cm ((cm.decode cfg).1.onHeartbeat cfg metadata).2.complete true
  | heartbeatError {metadata : Metadata} (h : (cm.decode cfg).2 = .heartbeat metadata)
      {what : String}
      (hreply : ((cm.decode cfg).1.onHeartbeat cfg metadata).1 = .error (.exception what)) :
      Turn cfg cm ((cm.decode cfg).1.onHeartbeat cfg metadata).2.onDecodingError false
  | heartbeatPanic {metadata : Metadata} (h : (cm.decode cfg).2 = .heartbeat metadata)
      {site : String}
      (hreply : ((cm.decode cfg).1.onHeartbeat cfg metadata).1 = .error (.panic site)) :
      Turn cfg cm
        (((cm.decode cfg).1.onHeartbeat cfg metadata).2.onDownstream (Downstream.panic site)) false

/-- There is always a turn. -/
theorem exists_turn (cfg : Config σ) (cm : ConnectionManager σ) :
    ∃ cm' again, Turn cfg cm cm' again := by
  cases hdecoded : (cm.decode cfg).2 with
  | waitForData => exact ⟨_, _, .wait hdecoded⟩
  | throw fault =>
    cases fault with
    | exception what => exact ⟨_, _, .error hdecoded⟩
    | panic site => exact ⟨_, _, .panic hdecoded⟩
  | stream metadata => exact ⟨_, _, .stream hdecoded⟩
  | heartbeat metadata =>
    cases hreply : ((cm.decode cfg).1.onHeartbeat cfg metadata).1 with
    | ok _ => exact ⟨_, _, .heartbeat hdecoded hreply⟩
    | error fault =>
      cases fault with
      | exception what => exact ⟨_, _, .heartbeatError hdecoded hreply⟩
      | panic site => exact ⟨_, _, .heartbeatPanic hdecoded hreply⟩

/-- The loop takes a turn, and goes on unless the turn or the empty buffer ends it. -/
theorem dispatchLoop_turn {cfg : Config σ} {cm cm' : ConnectionManager σ} {again : Bool}
    (h : Turn cfg cm cm' again) (fuel : ℕ) : dispatchLoop cfg (fuel + 1) cm =
      if again then
        if cm'.requestBuffer = [] then cm' else dispatchLoop cfg fuel cm'
      else cm' := by
  have hdecode : cm.decode cfg = ((cm.decode cfg).1, (cm.decode cfg).2) := rfl
  have hheartbeat : ∀ metadata, (cm.decode cfg).1.onHeartbeat cfg metadata =
      (((cm.decode cfg).1.onHeartbeat cfg metadata).1,
        ((cm.decode cfg).1.onHeartbeat cfg metadata).2) := fun _ => rfl
  rw [dispatchLoop, hdecode]
  cases h with
  | wait hdecoded | error hdecoded | panic hdecoded | stream hdecoded => rw [hdecoded]; rfl
  | heartbeat hdecoded hreply | heartbeatError hdecoded hreply
  | heartbeatPanic hdecoded hreply =>
    rw [hdecoded]
    dsimp only
    rw [hheartbeat, hreply]
    rfl

section Turn

variable {cfg : Config σ} {P Q : ConnectionManager σ → Prop} (hend : ∀ {cm}, P cm → Q cm)
  (hagain : ∀ {cm cm'}, P cm → Turn cfg cm cm' true → P cm')
  (hstop : ∀ {cm cm'}, P cm → Turn cfg cm cm' false → Q cm')
include hend hagain hstop

/-- The rule of the loop : what every turn keeps holds when it ends. -/
theorem dispatchLoop_rule : ∀ (fuel : ℕ) {cm : ConnectionManager σ}, P cm →
    Q (dispatchLoop cfg fuel cm)
  | 0, _, h => hend h
  | fuel + 1, cm, h => by
    obtain ⟨cm', again, hturn⟩ := exists_turn cfg cm
    rw [dispatchLoop_turn hturn]
    cases again with
    | false => exact hstop h hturn
    | true =>
      have hnext := hagain h hturn
      rw [if_pos rfl]
      split_ifs
      · exact hend hnext
      · exact dispatchLoop_rule fuel hnext

theorem dispatch_rule {cm : ConnectionManager σ} (h : P cm) : Q (cm.dispatch cfg) := by
  unfold dispatch
  split_ifs
  · exact hend h
  · exact hend h
  · exact dispatchLoop_rule hend hagain hstop _ h

end Turn

/-- Closing the connection with everything pending on it. -/
def resetAndClose (cm : ConnectionManager σ) : ConnectionManager σ :=
  cm.onDownstream fun d => (d.resetAllMessages false).close .flushWrite

/-- `ConnectionManager::onData`. -/
def onData (cfg : Config σ) (data : Bytes) (endStream : Bool) (cm : ConnectionManager σ) :
    ConnectionManager σ :=
  let cm := { cm with requestBuffer := cm.requestBuffer ++ data }
  let cm := cm.dispatch cfg
  if endStream then
    if cm.stopped then
      match cm.downstream.activeMessageList with
      | [] => cm.onDownstream (Downstream.panic "ASSERT(!active_message_list_.empty())")
      | front :: _ =>
        if (cm.messages front).metadata.any (fun m => m.messageType = .oneway) then
          { cm with halfClosed := true }
        else cm.resetAndClose
    else cm.resetAndClose
  else cm

/-- `ConnectionManager::continueDecoding`. -/
def continueDecoding (cfg : Config σ) (cm : ConnectionManager σ) : ConnectionManager σ :=
  let cm := { cm with stopped := false }
  let cm := cm.dispatch cfg
  if ¬cm.stopped ∧ cm.halfClosed then cm.resetAndClose else cm

/-- What `onData` and `continueDecoding` do behind their `dispatch`. -/
inductive AfterDispatch (cm : ConnectionManager σ) : ConnectionManager σ → Prop
  | more : AfterDispatch cm cm
  | reset : AfterDispatch cm cm.resetAndClose
  | halfClose (hstopped : cm.stopped = true) : AfterDispatch cm { cm with halfClosed := true }
  | assert (hstopped : cm.stopped = true) : AfterDispatch cm
      (cm.onDownstream (Downstream.panic "ASSERT(!active_message_list_.empty())"))

theorem onData_after (cfg : Config σ) (data : Bytes) (endStream : Bool)
    (cm : ConnectionManager σ) :
    AfterDispatch ({ cm with requestBuffer := cm.requestBuffer ++ data }.dispatch cfg)
      (cm.onData cfg data endStream) := by
  unfold onData
  dsimp only
  generalize dispatch cfg _ = cm'
  split
  · split
    · rename_i hstopped
      split
      · exact .assert hstopped
      · split
        · exact .halfClose hstopped
        · exact .reset
    · exact .reset
  · exact .more

theorem continueDecoding_after (cfg : Config σ) (cm : ConnectionManager σ) :
    AfterDispatch ({ cm with stopped := false }.dispatch cfg) (cm.continueDecoding cfg) := by
  unfold continueDecoding
  dsimp only
  split
  · exact .reset
  · exact .more

/-- The messages are left as they are. -/
theorem AfterDispatch.messages {cm cm' : ConnectionManager σ} (h : AfterDispatch cm cm') :
    cm'.messages = cm.messages ∧ cm'.created = cm.created := by
  cases h <;> exact ⟨rfl, rfl⟩

/-! ## Events -/

/-- What can happen to a connection from outside. A filter that has paused can do nothing but go
on. -/
inductive Event where
  /-- Bytes from the client, the last ones if `endStream`. -/
  | downstreamData (data : Bytes) (endStream : Bool)
  /-- The client connection is closed. -/
  | downstreamClose (event : ConnectionEvent)
  | poolReady (message : ℕ) (host : Host) (leftover : Bytes)
  | poolFailure (message : ℕ) (reason : PoolFailureReason) (host : Host)
  /-- Bytes from the upstream, behind those left in the buffer of the connection. -/
  | upstreamData (message : ℕ) (data : Bytes) (endStream : Bool)
  | upstreamClose (message : ℕ) (event : ConnectionEvent)
  /-- The filter at a position goes on after it has stopped the iteration. -/
  | continueDecoding (message : ℕ) (position : ℕ)
  | continueEncoding (message : ℕ) (position : ℕ)
  /-- The deferred deletion of a message. -/
  | release (message : ℕ)
deriving DecidableEq, Repr

/-- The message goes on with its decoder filters from a position, and then the connection
with its bytes. -/
def continueMessage (cfg : Config σ) (i position : ℕ) (cm : ConnectionManager σ) :
    ConnectionManager σ :=
  match (cm.stream i).continueDecoding cfg position with
  | (true, s) => (cm.setStream i s).continueDecoding cfg
  | (false, s) => cm.setStream i s

theorem continueMessage_eq {cfg : Config σ} {i position : ℕ} {cm : ConnectionManager σ}
    {s : Stream σ} (h : (cm.stream i).continueDecoding cfg position = (true, s)) :
    cm.continueMessage cfg i position = (cm.setStream i s).continueDecoding cfg := by
  unfold continueMessage
  rw [h]

/-- The position of the router, which is the filter that continues after a callback of the
pool. -/
def routerPosition (cfg : Config σ) : ℕ :=
  cfg.decoderFilters.findIdx Filter.isRouter

/-- `UpstreamRequest::onPoolReady`, called back for a handle. -/
def onPoolReady (cfg : Config σ) (i : ℕ) (host : Host) (leftover : Bytes)
    (cm : ConnectionManager σ) : ConnectionManager σ :=
  let cm := cm.onStream i (Stream.onPoolReadyConnection host leftover)
  let cm := cm.continueMessage cfg i (routerPosition cfg)
  cm.onStream i fun s => s.onRequestComplete.encodeData

/-- `UpstreamRequest::onPoolFailure`, called back for a handle. Only after a connection
error does it go on with the filter chain. -/
def onPoolFailure (cfg : Config σ) (i : ℕ) (reason : PoolFailureReason) (host : Host)
    (cm : ConnectionManager σ) : ConnectionManager σ :=
  let cm := cm.onStream i (Stream.onPoolFailureReset cfg reason host)
  match reason with
  | .overflow => cm
  | .timeout | .localConnectionFailure | .remoteConnectionFailure =>
    cm.continueMessage cfg i (routerPosition cfg)

/-- The connection lent to a message, if there is one. -/
def upstreamConnection (i : ℕ) (cm : ConnectionManager σ) : Option UpstreamConnection :=
  (cm.messages i).router.upstreamRequest.bind (·.connData)

/-- What is left in the buffer of the connection lent to a message. -/
def upstreamBuffer (i : ℕ) (cm : ConnectionManager σ) : Bytes :=
  (cm.upstreamConnection i).elim [] (·.buffer)

/-- A message holds a handle of the pool. -/
def Pooling (i : ℕ) (cm : ConnectionManager σ) : Prop :=
  (cm.messages i).router.upstreamRequest.any (·.connPoolHandle) = true

/-- A message holds an upstream connection that is open. -/
def Waiting (i : ℕ) (cm : ConnectionManager σ) : Prop :=
  (cm.upstreamConnection i).any (·.isOpen) = true

instance (i : ℕ) (cm : ConnectionManager σ) : Decidable (cm.Pooling i) :=
  inferInstanceAs (Decidable (_ = _))

instance (i : ℕ) (cm : ConnectionManager σ) : Decidable (cm.Waiting i) :=
  inferInstanceAs (Decidable (_ = _))

/-- The filter at a position is not the router, and the last of its chain that was called. -/
def pausedAt (filters : List Filter) (calls : List ℕ) (position : ℕ) : Bool :=
  calls.getLast? = some position ∧ filters[position]?.any (fun f => !f.isRouter) = true

/-- When Envoy can call with an event, for a message only until it is destroyed. -/
def Permitted (cfg : Config σ) (cm : ConnectionManager σ) : Event → Prop
  | .downstreamData _ _ => cm.downstream.state = .open
  | .downstreamClose _ => cm.downstream.state ≠ .closed
  | .poolReady i _ _ | .poolFailure i _ _ =>
    i < cm.created ∧ (cm.messages i).destroyed = false ∧ cm.Pooling i
  | .upstreamData i _ _ | .upstreamClose i _ =>
    i < cm.created ∧ (cm.messages i).destroyed = false ∧ cm.Waiting i
  | .continueDecoding i position =>
    i < cm.created ∧ (cm.messages i).destroyed = false ∧ (cm.messages i).filterAction = true ∧
      pausedAt cfg.decoderFilters (cm.messages i).decoderCalls position = true
  | .continueEncoding i position =>
    i < cm.created ∧ (cm.messages i).destroyed = false ∧
      (cm.messages i).encoderFilterAction = true ∧
      pausedAt cfg.encoderFilters (cm.messages i).encoderCalls position = true
  | .release i =>
    i < cm.created ∧ (cm.messages i).destroyed = false ∧ i ∈ cm.downstream.deferredDelete

instance (cfg : Config σ) (cm : ConnectionManager σ) :
    (e : Event) → Decidable (cm.Permitted cfg e)
  | .downstreamData _ _ => inferInstanceAs (Decidable (_ = _))
  | .downstreamClose _ => inferInstanceAs (Decidable (_ ≠ _))
  | .poolReady _ _ _ | .poolFailure _ _ _ | .upstreamData _ _ _ | .upstreamClose _ _
  | .release _ => inferInstanceAs (Decidable (_ ∧ _ ∧ _))
  | .continueDecoding _ _ | .continueEncoding _ _ => inferInstanceAs (Decidable (_ ∧ _ ∧ _ ∧ _))

/-- A process that has stopped is not called. -/
def Enabled (cfg : Config σ) (cm : ConnectionManager σ) (e : Event) : Prop :=
  cm.downstream.fault = none ∧ cm.Permitted cfg e

instance (cfg : Config σ) (cm : ConnectionManager σ) (e : Event) :
    Decidable (cm.Enabled cfg e) :=
  inferInstanceAs (Decidable (_ ∧ _))

/-- What an event does. -/
def step (cfg : Config σ) (cm : ConnectionManager σ) : Event → ConnectionManager σ
  | .downstreamData data endStream => cm.onData cfg data endStream
  | .downstreamClose event => cm.onDownstream (Downstream.closed event)
  | .poolReady i host leftover => cm.onPoolReady cfg i host leftover
  | .poolFailure i reason host => cm.onPoolFailure cfg i reason host
  | .upstreamData i data endStream =>
    cm.onStream i (Stream.onUpstreamData cfg (cm.upstreamBuffer i ++ data) endStream)
  | .upstreamClose i event => cm.onStream i (Stream.upstreamClosed cfg event)
  | .continueDecoding i position => cm.continueMessage cfg i position
  | .continueEncoding i position => cm.onStream i (Stream.continueEncoding cfg position)
  | .release i => cm.onStream i (Stream.destroy cfg)

/-- The connection as a transition system. -/
def system (cfg : Config σ) : Transition (ConnectionManager σ) Event where
  Enabled := Enabled cfg
  step := step cfg

instance (cfg : Config σ) (cm : ConnectionManager σ) (e : Event) :
    Decidable ((system cfg).Enabled cm e) :=
  inferInstanceAs (Decidable (cm.Enabled cfg e))

/-- The states a connection can come to. -/
def Reachable (cfg : Config σ) (cm : ConnectionManager σ) : Prop :=
  ∃ es, (system cfg).Admissible (new cfg) es ∧ cm = (system cfg).run (new cfg) es

/-- Messages carry their own number, and only messages that exist are answered. -/
structure Numbered (cm : ConnectionManager σ) : Prop where
  id : ∀ i, (cm.messages i).id = i
  written : ∀ w ∈ cm.downstream.written, ∀ i, w.message = some i → i < cm.created

theorem Numbered.stream_id {cm : ConnectionManager σ} (h : cm.Numbered) (i : ℕ) :
    (cm.stream i).message.id = i :=
  h.id i

/-- A new message comes to the front of the list, and is decoded. -/
theorem newStream_eq (cfg : Config σ) (metadata : Metadata) (cm : ConnectionManager σ) :
    cm.newStream cfg metadata =
      { cm with
        created := cm.created + 1
        delivered := cm.delivered ++ [Delivery.stream metadata]
        downstream := ((⟨{ id := cm.created }, { (cm.downstream.inc .requestActive) with
          activeMessageList := cm.created :: cm.downstream.activeMessageList }⟩ :
            Stream σ).onStreamDecoded cfg metadata).downstream
        messages := Function.update cm.messages cm.created
          ((⟨{ id := cm.created }, { (cm.downstream.inc .requestActive) with
            activeMessageList := cm.created :: cm.downstream.activeMessageList }⟩ :
              Stream σ).onStreamDecoded cfg metadata).message } := by
  simp [newStream, onDownstream, onStream, setStream, stream, Downstream.inc]

end ConnectionManager

end MetaProtocolProxy
