import Mathlib.Logic.Relation
import MetaProtocolProxy.Rejection
import MetaProtocolProxy.Views

/-!
# The deeds of a message

Between its first callback and its end a message does seven things (`Deed`) : it changes its own
flags, panics, counts an incident, hands itself to deferred deletion, closes the connection, sends
a local reply, or forwards a response. Every function of a message is a sequence of deeds (`Acts`),
but for those that finalize or destroy it (`onStreamDecoded_acts`, `continueDecoding_acts`,
`destroy_acts`). So what each deed keeps needs no second look at the functions.
-/

namespace MetaProtocolProxy

variable {σ : Type} {cfg : Config σ}

/-- A counter that goes with no write. -/
def Stat.isIncident : Stat → Bool
  | .responseDecodingError | .responseErrorCausedConnectionClose => true
  | _ => false

/-- No handle of the pool besides a connection. -/
def UpstreamRequest.Exclusive (r : UpstreamRequest) : Prop :=
  r.connPoolHandle = true → r.connData = none

/-- The upstream request of a message, if there is one, is exclusive. -/
def ActiveMessage.Exclusive (m : ActiveMessage σ) : Prop :=
  ∀ r, m.router.upstreamRequest = some r → r.Exclusive

/-- From `m` to `m'` the message is neither finalized nor destroyed, and its request stays the
same up to the bytes taken off it. -/
structure ActiveMessage.Still (m m' : ActiveMessage σ) : Prop where
  id : m'.id = m.id
  pending : m'.pendingStreamDecoded = m.pendingStreamDecoded
  destroyed : m'.destroyed = m.destroyed
  metadata : ∀ metadata, m.metadata = some metadata →
    ∃ originMessage, m'.metadata = some { metadata with originMessage }
  exclusive : m.Exclusive → m'.Exclusive

theorem ActiveMessage.Still.refl (m : ActiveMessage σ) : m.Still m :=
  ⟨rfl, rfl, rfl, fun metadata h => ⟨metadata.originMessage, h⟩, fun h => h⟩

theorem ActiveMessage.Still.trans {m m' m'' : ActiveMessage σ} (h : m.Still m')
    (h' : m'.Still m'') : m.Still m'' := by
  refine ⟨h'.id.trans h.id, h'.pending.trans h.pending, h'.destroyed.trans h.destroyed,
    fun metadata hm => ?_, fun hm => h'.exclusive (h.exclusive hm)⟩
  obtain ⟨originMessage, hm'⟩ := h.metadata metadata hm
  obtain ⟨originMessage', hm''⟩ := h'.metadata _ hm'
  exact ⟨originMessage', hm''⟩

/-- What leaves these fields alone leaves the message what it is. -/
theorem ActiveMessage.Still.of_eq {m m' : ActiveMessage σ} (hid : m'.id = m.id)
    (hpending : m'.pendingStreamDecoded = m.pendingStreamDecoded)
    (hdestroyed : m'.destroyed = m.destroyed) (hmetadata : m'.metadata = m.metadata)
    (hrequest : m'.router.upstreamRequest = m.router.upstreamRequest) : m.Still m' :=
  ⟨hid, hpending, hdestroyed, fun metadata h => ⟨metadata.originMessage, hmetadata.trans h⟩,
    fun h r hr => h r (hrequest.symm.trans hr)⟩

namespace Downstream

/-- What sending a local reply comes to : nothing where the connection is not open, a panic of the
codec, an exception of the codec, or a write. -/
theorem sendLocalReply_cases (cfg : Config σ) (i : ℕ) (metadata : Metadata) (error : Error)
    (endStream : Bool) (d : Downstream σ) :
    (d.state ≠ .open ∧ d.sendLocalReply cfg i metadata error endStream = d) ∨
      d.state = .open ∧
        ((∃ site, d.sendLocalReply cfg i metadata error endStream = d.panic site) ∨
        (d.sendLocalReply cfg i metadata error endStream = inc .localResponseError
          { d with state := if endStream then .closing else .open }) ∨
        ∃ bytes, cfg.codec.onError d.codec metadata error = .ok bytes ∧
          d.sendLocalReply cfg i metadata error endStream = inc .localResponseBusinessException
            { d with
              state := if endStream then .closing else .open
              written := d.written ++ [⟨some i, .localReply error, bytes, endStream⟩] }) := by
  unfold sendLocalReply
  by_cases hopen : d.state = .open
  swap
  · rw [if_pos hopen]
    exact Or.inl ⟨hopen, rfl⟩
  rw [if_neg (not_not.mpr hopen)]
  refine Or.inr ⟨hopen, ?_⟩
  obtain ⟨codec, state, written, activeMessageList, deferredDelete, stats, fault⟩ := d
  obtain rfl : state = .open := hopen
  cases cfg.codec.onError codec metadata error with
  | error fault =>
    cases fault with
    | panic site => exact Or.inl ⟨site, rfl⟩
    | exception what =>
      refine Or.inr (Or.inl ?_)
      cases endStream <;> rfl
  | ok bytes =>
    refine Or.inr (Or.inr ⟨bytes, rfl, ?_⟩)
    cases endStream <;> rfl

/-- A response is written for message `i`, and counted. -/
def respond (i : ℕ) (metadata : Metadata) (d : Downstream σ) : Downstream σ :=
  let d := d.write ⟨some i, .upstreamResponse metadata, metadata.originMessage, false⟩
  let d := (d.inc .response).inc .responseDecodingSuccess
  let d := if metadata.messageType = .error then d.inc .responseBusinessException else d
  if metadata.responseStatus = .ok then d.inc .responseSuccess else d.inc .responseError

end Downstream

namespace Stream

/-- One thing a message does. -/
inductive Deed (cfg : Config σ) (s : Stream σ) : Stream σ → Prop
  | onMessage {f : ActiveMessage σ → ActiveMessage σ} (h : s.message.Still (f s.message)) :
      Deed cfg s (s.onMessage f)
  | panic (site : String) : Deed cfg s (s.panic site)
  | inc {stat : Stat} (h : stat.isIncident = true) : Deed cfg s (s.inc stat)
  | deferredMessage : Deed cfg s s.deferredMessage
  | close (type : ConnectionCloseType) : Deed cfg s (s.onDownstream (Downstream.close type))
  | sendLocalReply (error : Error) (endStream : Bool) :
      Deed cfg s (s.sendLocalReply cfg error endStream)
  | respond (metadata : Metadata) (h : s.downstream.state = .open) :
      Deed cfg s ((s.forwardResponse metadata).countResponse metadata)

/-- From `s` to another state by deeds of the message. -/
abbrev Acts (cfg : Config σ) : Stream σ → Stream σ → Prop :=
  Relation.ReflTransGen (Deed cfg)

/-- A deed is a sequence of one. -/
theorem Deed.acts {s t : Stream σ} (h : Deed cfg s t) : Acts cfg s t :=
  .single h

/-- A deed leaves the message what it is. -/
theorem Deed.still {s t : Stream σ} (h : Deed cfg s t) : s.message.Still t.message := by
  cases h with
  | onMessage h => exact h
  | sendLocalReply error endStream =>
    rw [message_sendLocalReply]
    exact .of_eq rfl rfl rfl rfl rfl
  | respond metadata h =>
    rw [message_countResponse]
    exact .refl _
  | _ => exact .refl _

/-- So do all its deeds. -/
theorem Acts.still {s t : Stream σ} (h : Acts cfg s t) : s.message.Still t.message := by
  induction h with
  | refl => exact .refl _
  | tail _ hd ih => exact ih.trans hd.still

/-- A response that is forwarded and counted. -/
theorem downstream_respond (metadata : Metadata) (s : Stream σ) :
    ((s.forwardResponse metadata).countResponse metadata).downstream =
      s.downstream.respond s.message.id metadata := by
  unfold countResponse Downstream.respond
  dsimp only
  split_ifs <;> rfl

theorem codec_respond (metadata : Metadata) (s : Stream σ) :
    ((s.forwardResponse metadata).countResponse metadata).downstream.codec =
      s.downstream.codec :=
  (quiet_countResponse metadata _).codec

/-- No deed touches the codec of the requests. -/
theorem Deed.codec {s t : Stream σ} (h : Deed cfg s t) :
    t.downstream.codec = s.downstream.codec := by
  cases h with
  | deferredMessage => exact Downstream.codec_deferredMessage _ _
  | close type => exact Downstream.codec_close _ _
  | sendLocalReply error endStream => exact (quiet_sendLocalReply _ _ _ _).codec
  | respond metadata h => exact codec_respond metadata s
  | _ => rfl

theorem Acts.codec {s t : Stream σ} (h : Acts cfg s t) :
    t.downstream.codec = s.downstream.codec := by
  induction h with
  | refl => rfl
  | tail _ hd ih => exact hd.codec.trans ih

/-! ## Changes of the message -/

/-- A change of the message that leaves it what it is. -/
theorem acts_onMessage {f : ActiveMessage σ → ActiveMessage σ} {s : Stream σ}
    (hid : (f s.message).id = s.message.id)
    (hpending : (f s.message).pendingStreamDecoded = s.message.pendingStreamDecoded)
    (hdestroyed : (f s.message).destroyed = s.message.destroyed)
    (hmetadata : (f s.message).metadata = s.message.metadata)
    (hrequest : (f s.message).router.upstreamRequest = s.message.router.upstreamRequest) :
    Acts cfg s (s.onMessage f) :=
  (Deed.onMessage (.of_eq hid hpending hdestroyed hmetadata hrequest)).acts

/-- A change of the router that leaves its upstream request exclusive. -/
theorem acts_onRouter_of {f : Router → Router} {s : Stream σ}
    (hf : s.message.Exclusive → (s.onRouter f).message.Exclusive) : Acts cfg s (s.onRouter f) :=
  (Deed.onMessage (f := fun m => { m with router := f m.router })
    ⟨rfl, rfl, rfl, fun metadata h => ⟨metadata.originMessage, h⟩, hf⟩).acts

theorem acts_onRouter {f : Router → Router} (hf : ∀ r, (f r).upstreamRequest = r.upstreamRequest)
    (s : Stream σ) : Acts cfg s (s.onRouter f) :=
  acts_onMessage rfl rfl rfl rfl (hf _)

/-- A change of the upstream request that keeps it exclusive. -/
theorem acts_onRequest {f : UpstreamRequest → UpstreamRequest}
    (hf : ∀ r : UpstreamRequest, r.Exclusive → (f r).Exclusive) (s : Stream σ) :
    Acts cfg s (s.onRequest f) := by
  refine acts_onRouter_of fun h r' hr' => ?_
  obtain ⟨r, hr, rfl⟩ := Option.map_eq_some_iff.mp hr'
  exact hf r (h r hr)

theorem acts_onResponseDecoder (f : ActiveResponseDecoder σ → ActiveResponseDecoder σ)
    (s : Stream σ) : Acts cfg s (s.onResponseDecoder f) :=
  acts_onMessage rfl rfl rfl rfl rfl

theorem acts_assert (condition : Bool) (site : String) (s : Stream σ) :
    Acts cfg s (s.assert condition site) := by
  cases condition with
  | false => exact (Deed.panic site).acts
  | true => exact .refl

/-! ## Replies -/

/-- The reply to an error. -/
theorem acts_onError (what : String) (s : Stream σ) : Acts cfg s (s.onError cfg what) := by
  have hmetadata :
      Acts cfg s (s.onMessage fun m => { m with metadata := some (m.metadata.getD {}) }) := by
    refine (Deed.onMessage ⟨rfl, rfl, rfl, fun metadata h => ?_, id⟩).acts
    exact ⟨metadata.originMessage, by simp [h]⟩
  exact (hmetadata.tail (.sendLocalReply _ _)).tail .deferredMessage

theorem acts_onResponseException (what : String) (s : Stream σ) :
    Acts cfg s (s.onResponseException cfg what) :=
  (Deed.inc rfl).acts.trans (acts_onError what _)

theorem acts_startUpstreamResponse (s : Stream σ) :
    Acts cfg s (s.startUpstreamResponse cfg) := by
  unfold startUpstreamResponse
  exact (acts_assert _ _ s).trans (acts_onMessage rfl rfl rfl rfl rfl)

/-! ## The router -/

theorem acts_withHost {f : Host → Stream σ → Stream σ} (hf : ∀ host s, Acts cfg s (f host s))
    (s : Stream σ) : Acts cfg s (s.withHost f) := by
  unfold withHost
  split
  · exact hf _ s
  · exact (Deed.panic _).acts

/-- The reply to a reset by the upstream. -/
theorem acts_resetReply (reason : PoolFailureReason) (s : Stream σ) :
    Acts cfg s (s.resetReply cfg reason) := by
  cases reason with
  | overflow => exact (Deed.sendLocalReply _ _).acts
  | _ => exact acts_withHost (fun _ _ => (Deed.sendLocalReply _ _).acts) s

/-- A reset by the upstream. -/
theorem acts_onResetStream (reason : PoolFailureReason) (s : Stream σ) :
    Acts cfg s (s.onResetStream cfg reason) := by
  unfold onResetStream
  split
  · exact (Deed.panic _).acts
  · split
    · exact Deed.deferredMessage.acts
    · dsimp only
      split
      · exact (acts_resetReply reason s).tail .deferredMessage
      · exact acts_resetReply reason s

/-- An event of the upstream connection. -/
theorem acts_onUpstreamEvent (event : ConnectionEvent) (s : Stream σ) :
    Acts cfg s (s.onUpstreamEvent cfg event) := by
  unfold onUpstreamEvent
  split
  · exact .refl
  · split_ifs
    · exact .refl
    · exact .refl
    · cases event <;> exact acts_onResetStream _ s

theorem acts_upstreamClosed (event : ConnectionEvent) (s : Stream σ) :
    Acts cfg s (s.upstreamClosed cfg event) :=
  (acts_onRequest (by intro r h hh; simp [h hh]) s).trans (acts_onUpstreamEvent event _)

theorem acts_cancelHandle (request : UpstreamRequest) (s : Stream σ) :
    Acts cfg s (s.cancelHandle request) := by
  unfold cancelHandle
  split
  · exact (acts_assert _ _ s).trans ((acts_onRouter (by intro r; rfl) _).trans
      (acts_onRequest (by rintro r - ⟨⟩) _))
  · exact .refl

/-- A connection that is closed and given up. -/
theorem acts_closeConnection (request : UpstreamRequest) (s : Stream σ) :
    Acts cfg s (s.closeConnection cfg request) := by
  unfold closeConnection
  split
  · rename_i connection _
    have hclosed : Acts cfg s
        (s.onRouter fun r => { r with closed := r.closed ++ [connection] }) :=
      acts_onRouter (by intro r; rfl) s
    refine Relation.ReflTransGen.trans ?_ (acts_onRequest (by intro r _ _; rfl) _)
    unfold closeUpstream
    split
    · exact hclosed.trans (acts_onUpstreamEvent _ _)
    · exact hclosed
  · exact .refl

/-- A reset of the upstream request. -/
theorem acts_resetUpstreamStream (s : Stream σ) : Acts cfg s (s.resetUpstreamStream cfg) := by
  unfold resetUpstreamStream
  split
  · exact (Deed.panic _).acts
  · exact (acts_onRequest (by intro r h; exact h) s).trans
      ((acts_cancelHandle _ _).trans (acts_closeConnection _ _))

/-- A connection that is given back. -/
theorem acts_onResponseComplete (s : Stream σ) : Acts cfg s s.onResponseComplete := by
  unfold onResponseComplete
  exact (acts_onRequest (by intro r _ _; rfl) s).trans (acts_onRouter (by intro r; rfl) _)

theorem acts_onRequestComplete (s : Stream σ) : Acts cfg s s.onRequestComplete :=
  acts_onRequest (by intro r h; exact h) s

theorem acts_cleanup (s : Stream σ) : Acts cfg s s.cleanup :=
  acts_onRouter_of fun _ _ hr => by cases hr

/-- The request is written. -/
theorem acts_encodeData (s : Stream σ) : Acts cfg s s.encodeData := by
  unfold encodeData
  split
  · exact (Deed.panic _).acts
  · exact (acts_assert _ _ s).trans
      ((acts_assert _ _ _).trans ((acts_onRequest (by intro r h hh; simp [h hh]) _).trans
        (acts_onRouter (by intro r; rfl) _)))

/-- A connection of the pool. -/
theorem acts_onPoolReadyConnection (host : Host) (leftover : Bytes) (s : Stream σ) :
    Acts cfg s (s.onPoolReadyConnection host leftover) :=
  (acts_onRequest (by intro r h; exact h) s).trans (acts_onRequest (by rintro r - ⟨⟩) _)

/-- A failure of the pool. -/
theorem acts_onPoolFailureReset (reason : PoolFailureReason) (host : Host) (s : Stream σ) :
    Acts cfg s (s.onPoolFailureReset cfg reason host) := by
  unfold onPoolFailureReset
  exact (acts_onRequest (by rintro r - ⟨⟩) s).trans
    ((acts_onRequest (by intro r h; exact h) _).trans
      ((acts_onResetStream _ _).trans (acts_onRouter (by intro r; rfl) _)))

/-- A request that has no connection is started. -/
theorem acts_startRequest (pool : PoolStart) {s : Stream σ} {r : UpstreamRequest}
    (hr : s.message.router.upstreamRequest = some r) (hdata : r.connData = none) :
    Acts cfg s (s.startRequest cfg pool).2 := by
  cases pool with
  | pending =>
    show Acts cfg s (s.onRequest fun r => { r with connPoolHandle := true })
    refine acts_onRouter_of fun _ r' hr' _ => ?_
    obtain ⟨r'', hr'', rfl⟩ := Option.map_eq_some_iff.mp hr'
    obtain rfl := Option.some.inj (hr.symm.trans hr'')
    exact hdata
  | ready host leftover =>
    exact (acts_onPoolReadyConnection _ _ s).trans
      ((acts_onRequestComplete _).trans (acts_encodeData _))
  | overflow host => exact acts_onPoolFailureReset _ _ s

/-- The route is looked up, or cached. -/
theorem acts_route (s : Stream σ) : Acts cfg s (s.route cfg).2 := by
  unfold route
  split
  · exact .refl
  · split
    · dsimp only
      exact acts_onMessage rfl rfl rfl rfl rfl
    · exact .refl

/-- A request that is routed. -/
theorem acts_routeTo (pool : PoolStart) {metadata : Metadata} {s : Stream σ}
    (h : s.message.metadata = some metadata) : Acts cfg s (s.routeTo cfg pool metadata).2 := by
  unfold routeTo
  refine (Deed.onMessage ⟨rfl, rfl, rfl, fun metadata' h' => ?_, fun _ r hr => ?_⟩).acts.trans
    (acts_startRequest _ rfl rfl)
  · obtain rfl : metadata = metadata' := Option.some.inj (h.symm.trans h')
    exact ⟨[], rfl⟩
  · obtain rfl := Option.some.inj hr
    exact fun _ => rfl

/-- The router, called with a request. -/
theorem acts_routerOnMessageDecoded (s : Stream σ) :
    Acts cfg s (s.routerOnMessageDecoded cfg).2 := by
  unfold routerOnMessageDecoded
  cases hm : s.message.metadata with
  | none => exact (Deed.panic _).acts
  | some metadata =>
    have hroute : Acts cfg s (s.route cfg).2 := acts_route s
    have hkept := (metadata_route cfg s).trans hm
    generalize s.route cfg = r at hroute hkept ⊢
    obtain ⟨_ | entry, t⟩ := r
    · exact hroute.tail (.sendLocalReply _ _)
    · dsimp only at hroute hkept ⊢
      split
      · exact hroute.tail (.sendLocalReply _ _)
      · split
        · exact hroute.tail (.sendLocalReply _ _)
        · split
          · exact hroute.tail (.sendLocalReply _ _)
          · exact hroute.trans (acts_routeTo _ hkept)

/-- The router, called with a response. -/
theorem acts_routerOnMessageEncoded (s : Stream σ) : Acts cfg s s.routerOnMessageEncoded.2 := by
  unfold routerOnMessageEncoded
  split
  · exact .refl
  · exact acts_withHost (fun _ _ => .refl) s

/-- The router, when its message is destroyed. -/
theorem acts_routerOnDestroy (s : Stream σ) : Acts cfg s (s.routerOnDestroy cfg) := by
  unfold routerOnDestroy
  split
  · exact (acts_resetUpstreamStream s).trans (acts_cleanup _)
  · exact acts_cleanup s

/-! ## Filters -/

/-- The callbacks of a filter, one after the other. -/
theorem acts_acts {drain : ℕ → Stream σ → Stream σ} (hdrain : ∀ n s, Acts cfg s (drain n s))
    (as : List FilterAct) : ∀ s : Stream σ, Acts cfg s (s.acts cfg drain as) := by
  induction as with
  | nil => exact fun _ => .refl
  | cons a as ih =>
    intro s
    have hact : Acts cfg s (s.act cfg drain a) := by
      cases a with
      | sendLocalReply error endStream => exact (Deed.sendLocalReply _ _).acts
      | resetStream => exact Deed.deferredMessage.acts
      | resetDownstreamConnection => exact (Deed.close _).acts
      | drainOriginMessage length => exact hdrain _ s
    exact hact.trans (ih _)

theorem acts_drainRequest (n : ℕ) (s : Stream σ) : Acts cfg s (s.drainRequest n) := by
  refine (Deed.onMessage ⟨rfl, rfl, rfl, fun metadata h => ?_, id⟩).acts
  exact ⟨metadata.originMessage.drop n, by simp [h, drained]⟩

/-- A decoder filter. -/
theorem acts_filterOnMessageDecoded (filter : Filter) (position : ℕ) (s : Stream σ) :
    Acts cfg s (s.filterOnMessageDecoded cfg filter position).2 := by
  unfold filterOnMessageDecoded
  refine (acts_onMessage (f := fun m => { m with decoderCalls := m.decoderCalls ++ [position] })
    rfl rfl rfl rfl rfl).trans ?_
  cases filter with
  | router => exact acts_routerOnMessageDecoded _
  | custom react => exact acts_acts acts_drainRequest _ _

/-- An encoder filter. -/
theorem acts_filterOnMessageEncoded (filter : Filter) (position : ℕ) (s : Stream σ) :
    Acts cfg s (s.filterOnMessageEncoded cfg filter position).2 := by
  unfold filterOnMessageEncoded
  refine (acts_onMessage (f := fun m => { m with encoderCalls := m.encoderCalls ++ [position] })
    rfl rfl rfl rfl rfl).trans ?_
  cases filter with
  | router => exact acts_routerOnMessageEncoded _
  | custom react => exact acts_acts (fun _ _ => acts_onResponseDecoder _ _) _ _

/-- The decoder filters, one after the other. -/
theorem acts_decoderFilterLoop : ∀ (filters : List Filter) (position : ℕ) (s : Stream σ),
    Acts cfg s (s.decoderFilterLoop cfg filters position).2
  | [], _, _ => by
    unfold decoderFilterLoop
    dsimp only
    exact acts_onMessage rfl rfl rfl rfl rfl
  | filter :: filters, position, s => by
    unfold decoderFilterLoop
    have hfilter : Acts cfg s (s.filterOnMessageDecoded cfg filter position).2 :=
      acts_filterOnMessageDecoded filter position s
    generalize s.filterOnMessageDecoded cfg filter position = r at hfilter ⊢
    obtain ⟨status, t⟩ := r
    dsimp only at hfilter ⊢
    split_ifs
    · dsimp only
      exact hfilter.trans (acts_onMessage rfl rfl rfl rfl rfl)
    · exact hfilter
    · exact hfilter.trans (acts_decoderFilterLoop filters (position + 1) t)

/-- The decoder filters from a position on. -/
theorem acts_applyDecoderFilters (start : ℕ) (s : Stream σ) :
    Acts cfg s (s.applyDecoderFilters cfg start).2 := by
  unfold applyDecoderFilters
  split_ifs
  · exact (Deed.panic _).acts
  · dsimp only
    exact acts_onMessage rfl rfl rfl rfl rfl
  · exact acts_decoderFilterLoop _ _ s

/-- The encoder filters, one after the other. -/
theorem acts_encoderFilterLoop : ∀ (filters : List Filter) (position : ℕ) (s : Stream σ),
    Acts cfg s (s.encoderFilterLoop cfg filters position).2
  | [], _, _ => by
    unfold encoderFilterLoop
    dsimp only
    exact acts_onMessage rfl rfl rfl rfl rfl
  | filter :: filters, position, s => by
    unfold encoderFilterLoop
    have hfilter : Acts cfg s (s.filterOnMessageEncoded cfg filter position).2 :=
      acts_filterOnMessageEncoded filter position s
    generalize s.filterOnMessageEncoded cfg filter position = r at hfilter ⊢
    obtain ⟨status, t⟩ := r
    dsimp only at hfilter ⊢
    split_ifs
    · dsimp only
      exact hfilter.trans (acts_onMessage rfl rfl rfl rfl rfl)
    · exact hfilter
    · exact hfilter.trans (acts_encoderFilterLoop filters (position + 1) t)

theorem acts_applyEncoderFilters (start : ℕ) (s : Stream σ) :
    Acts cfg s (s.applyEncoderFilters cfg start).2 := by
  unfold applyEncoderFilters
  split_ifs
  · exact (Deed.panic _).acts
  · dsimp only
    exact acts_onMessage rfl rfl rfl rfl rfl
  · exact acts_encoderFilterLoop _ _ s

theorem acts_continueEncoding (position : ℕ) (s : Stream σ) :
    Acts cfg s (s.continueEncoding cfg position) := by
  unfold continueEncoding
  split
  · exact (Deed.panic _).acts
  · exact acts_applyEncoderFilters _ s

/-! ## Responses -/

/-- The encoder filters, called with a response. -/
theorem acts_encodeResponse (metadata : Metadata) (s : Stream σ) :
    Acts cfg s (s.encodeResponse cfg metadata).2 := by
  unfold encodeResponse applyMessageEncodedFilters
  dsimp only
  generalize hset : (s.assert _ _).onResponseDecoder _ = t
  have ht : Acts cfg s t := hset ▸ (acts_assert _ _ s).trans (acts_onResponseDecoder _ _)
  have hstart : Acts cfg s (t.onMessage fun m => { m with encoderFilterAction := true }) :=
    ht.trans (acts_onMessage rfl rfl rfl rfl rfl)
  have happly := hstart.trans (acts_applyEncoderFilters (commonPrefix none .canStartFromCurrent) _)
  generalize (t.onMessage fun m => { m with encoderFilterAction := true }).applyEncoderFilters cfg
    (commonPrefix none .canStartFromCurrent) = r at happly ⊢
  obtain ⟨_ | _ | _, u⟩ := r
  · exact happly
  · exact happly
  · exact happly.trans (acts_onResponseDecoder _ _)

/-- A decoded response. -/
theorem acts_onResponseDecoded (metadata : Metadata) (s : Stream σ) :
    Acts cfg s (s.onResponseDecoded cfg metadata).2 := by
  have hencode : Acts cfg s (s.encodeResponse cfg metadata).2 := acts_encodeResponse metadata s
  unfold onResponseDecoded
  generalize s.encodeResponse cfg metadata = r at hencode ⊢
  obtain ⟨status, t⟩ := r
  dsimp only at hencode ⊢
  split
  · exact hencode.trans (acts_onResponseDecoder _ _)
  · by_cases hopen : t.downstream.state = .open
    · rw [if_neg (not_not.mpr hopen)]
      exact (hencode.tail (.respond _ hopen)).trans (acts_onResponseDecoder _ _)
    · rw [if_pos hopen]
      exact hencode

theorem acts_responseDecoded (data : Bytes) (s : Stream σ) :
    Acts cfg s (s.responseDecoded data).2.2 := by
  unfold responseDecoded
  dsimp only
  split
  · exact (acts_onResponseDecoder _ s).tail (.panic _)
  · exact (acts_onResponseDecoder _ s).trans (acts_assert _ _ _)

/-- A chunk for the response decoder. -/
theorem acts_responseDecoderOnData (data : Bytes) (s : Stream σ) :
    Acts cfg s (s.responseDecoderOnData cfg data).2.2 := by
  unfold responseDecoderOnData
  split
  · exact (Deed.panic _).acts
  rename_i responseDecoder _
  dsimp only
  obtain ⟨decoder, codec, rest, decoded⟩ :=
    responseDecoder.decoder.decode cfg.codec responseDecoder.codec data
  have hset : Acts cfg s (s.onResponseDecoder fun d => { d with decoder, codec }) :=
    acts_onResponseDecoder _ s
  rcases decoded with _ | metadata | metadata | what | site
  · exact hset
  · exact hset.tail (.panic _)
  · have hdecoded := hset.trans (acts_onResponseDecoded metadata _)
    dsimp only at hdecoded ⊢
    generalize (s.onResponseDecoder fun d => { d with decoder, codec }).onResponseDecoded cfg
      metadata = r at hdecoded ⊢
    obtain ⟨_ | ex, t⟩ := r
    · exact hdecoded.trans (acts_responseDecoded _ _)
    · exact hdecoded
  · exact hset
  · exact hset.tail (.panic _)

/-- The status of a chunk. -/
theorem acts_upstreamData (data : Bytes) (s : Stream σ) :
    Acts cfg s (s.upstreamData cfg data).2.2 := by
  have hdata : Acts cfg s (s.responseDecoderOnData cfg data).2.2 :=
    acts_responseDecoderOnData data s
  unfold upstreamData
  generalize s.responseDecoderOnData cfg data = r at hdata ⊢
  obtain ⟨rest, (_ | what) | (_ | _ | _ | _), t⟩ := r
  · exact (hdata.tail .deferredMessage).tail (.inc rfl)
  · exact hdata.trans (acts_onResponseException _ _)
  · exact hdata
  · dsimp only
    split
    · exact hdata.trans (acts_onResponseException _ _)
    · exact hdata.tail .deferredMessage
  · exact hdata
  · dsimp only
    exact hdata.trans (acts_onMessage rfl rfl rfl rfl rfl)

theorem acts_startResponse (s : Stream σ) : Acts cfg s (s.startResponse cfg) := by
  unfold startResponse
  dsimp only
  split
  · exact acts_assert _ _ s
  · exact (acts_assert _ _ s).trans
      ((acts_startUpstreamResponse _).trans (acts_onRequest (by intro r h; exact h) _))

/-- A chunk from the upstream. -/
theorem acts_onUpstreamData (data : Bytes) (endStream : Bool) (s : Stream σ) :
    Acts cfg s (s.onUpstreamData cfg data endStream) := by
  unfold onUpstreamData
  split
  · exact (Deed.panic _).acts
  have hdata : Acts cfg s ((s.startResponse cfg).upstreamData cfg data).2.2 :=
    (acts_startResponse s).trans (acts_upstreamData data _)
  generalize (s.startResponse cfg).upstreamData cfg data = r at hdata ⊢
  obtain ⟨rest, status, t⟩ := r
  have hleave : Acts cfg s (t.leaveUpstreamData rest) :=
    hdata.trans (acts_onRequest (by intro r h hh; simp [h hh]) t)
  dsimp only at hleave ⊢
  cases status with
  | complete => exact hleave.trans ((acts_onResponseComplete _).trans (acts_cleanup _))
  | reset => exact hleave.trans (acts_resetUpstreamStream _)
  | moreData | retry =>
    dsimp only
    split
    · exact hleave.trans ((acts_onResetStream _ _).trans
        ((acts_onResponseComplete _).trans (acts_cleanup _)))
    · exact hleave

/-! ## Birth, finalization and destruction -/

/-- The message with the request it was decoded from, in front of its first filter. -/
def decoded (metadata : Metadata) (s : Stream σ) : Stream σ :=
  (s.inc .requestDecodingSuccess).onMessage fun m =>
    { m with metadata := some metadata, filterAction := true }

/-- The message waits for a filter to go on. -/
def pause (s : Stream σ) : Stream σ :=
  s.onMessage fun m => { m with pendingStreamDecoded := true }

/-- The decoder filters run until one pauses the message, or it is finalized. -/
theorem onStreamDecoded_acts (cfg : Config σ) (metadata : Metadata) (s : Stream σ) :
    ∃ t, Acts cfg (s.decoded metadata) t ∧
      (s.onStreamDecoded cfg metadata = t.pause ∨
        s.onStreamDecoded cfg metadata = t.finalizeRequest) := by
  obtain ⟨t, ht⟩ : ∃ t, t = s.decoded metadata := ⟨_, rfl⟩
  have happly : Acts cfg t (t.applyDecoderFilters cfg (commonPrefix none .canStartFromCurrent)).2 :=
    acts_applyDecoderFilters _ t
  rw [← ht]
  unfold decoded at ht
  unfold onStreamDecoded
  dsimp only
  rw [← ht]
  generalize t.applyDecoderFilters cfg (commonPrefix none .canStartFromCurrent) = r at happly ⊢
  obtain ⟨_ | _ | _, u⟩ := r
  · exact ⟨u, happly, Or.inr rfl⟩
  · exact ⟨u, happly, Or.inl rfl⟩
  · exact ⟨u, happly, Or.inr rfl⟩

/-- A filter goes on, and at the end of the chain a message that waited for it is finalized. -/
theorem continueDecoding_acts (cfg : Config σ) (position : ℕ) (s : Stream σ) :
    ∃ t, Acts cfg s t ∧ ((s.continueDecoding cfg position).2 = t ∨
      t.message.pendingStreamDecoded = true ∧
        (s.continueDecoding cfg position).2 = t.finalizeRequest) := by
  unfold continueDecoding
  split
  · exact ⟨_, (Deed.panic _).acts, Or.inl rfl⟩
  rename_i metadata _
  dsimp only
  generalize commonPrefix _ _ = start
  have happly : Acts cfg s (s.applyDecoderFilters cfg start).2 := acts_applyDecoderFilters start s
  generalize s.applyDecoderFilters cfg start = r at happly ⊢
  obtain ⟨_ | _ | _, t⟩ := r
  · refine ⟨t, happly, ?_⟩
    dsimp only
    split
    · exact Or.inr ⟨‹_›, rfl⟩
    · exact Or.inl rfl
  · exact ⟨t, happly, Or.inl rfl⟩
  · exact ⟨t, happly, Or.inl rfl⟩

theorem destroy_acts (cfg : Config σ) (s : Stream σ) :
    ∃ t, Acts cfg (s.onDownstream (Downstream.dec .requestActive)) t ∧
      s.destroy cfg = t.onMessage fun m => { m with destroyed := true } := by
  unfold destroy
  dsimp only
  split
  · exact ⟨_, acts_routerOnDestroy _, rfl⟩
  · exact ⟨_, .refl, rfl⟩

end Stream

end MetaProtocolProxy
