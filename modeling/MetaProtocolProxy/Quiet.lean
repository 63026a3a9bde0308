import MetaProtocolProxy.ConnectionManager

/-!
# What a message writes

Whatever a message does, it keeps its number, its request id and the codec of its
connection, and what it writes are local replies to itself (`Quiet`) ; but data from the
upstream can also forward a response (`Forwards`), and does so exactly if it completes
one that the encoder filters let through to an open client connection
(`onUpstreamData_written`).
-/

namespace MetaProtocolProxy

variable {σ : Type}

namespace Downstream

/-- Every message that was listed still is, as active or for deferred deletion, and none comes
back from deferred deletion. -/
def Retains (d d' : Downstream σ) : Prop :=
  ∀ i, (i ∈ d.deferredDelete → i ∈ d'.deferredDelete) ∧
    (i ∈ d.activeMessageList → i ∈ d'.activeMessageList ∨ i ∈ d'.deferredDelete)

theorem Retains.of_eq {d d' : Downstream σ} (ha : d'.activeMessageList = d.activeMessageList)
    (hd : d'.deferredDelete = d.deferredDelete) : Retains d d' :=
  fun _ => ⟨fun h => hd ▸ h, fun h => Or.inl (ha ▸ h)⟩

theorem Retains.trans {d d' d'' : Downstream σ} (h : Retains d d') (h' : Retains d' d'') :
    Retains d d'' :=
  fun i => ⟨fun hi => (h' i).1 ((h i).1 hi), fun hi =>
    ((h i).2 hi).elim (fun hi => (h' i).2 hi) fun hi => Or.inr ((h' i).1 hi)⟩

/-- A message that is handed over stays listed. -/
theorem retains_deferredMessage (i : ℕ) (d : Downstream σ) : Retains d (d.deferredMessage i) := by
  unfold deferredMessage
  split
  · refine fun j => ⟨fun hj => List.mem_append_left _ hj, fun hj => ?_⟩
    by_cases hij : j = i
    · exact Or.inr (by simp [hij])
    · exact Or.inl ((List.mem_erase_of_ne hij).mpr hj)
  · exact .of_eq rfl rfl

/-- A message that is handed over is there afterwards. -/
theorem mem_deferredMessage {i : ℕ} {d : Downstream σ}
    (h : i ∈ d.activeMessageList ∨ i ∈ d.deferredDelete) :
    i ∈ (d.deferredMessage i).deferredDelete := by
  unfold deferredMessage
  by_cases hi : i ∈ d.activeMessageList
  · rw [if_pos hi]
    exact List.mem_append_right _ (List.mem_singleton_self _)
  · rw [if_neg hi]
    exact h.resolve_left hi

/-- What counting and releasing keep, resetting everything keeps. -/
theorem resetAllMessages_of {P : Downstream σ → Prop} (hinc : ∀ d stat, P d → P (d.inc stat))
    (hrelease : ∀ d i, P d → P (d.deferredMessage i)) (localReset : Bool) {d : Downstream σ}
    (h : P d) : P (d.resetAllMessages localReset) := by
  have hfold : ∀ (l : List ℕ) (d : Downstream σ), P d → P (l.foldl (fun d message =>
      (d.inc (if localReset then .cxDestroyLocalWithActiveRq else .cxDestroyRemoteWithActiveRq)
        ).deferredMessage message) d) := by
    intro l
    induction l with
    | nil => exact fun _ h => h
    | cons i l ih => exact fun d h => ih _ (hrelease _ i (hinc d _ h))
  exact hfold _ d h

/-- So do all messages when they are reset. -/
theorem retains_resetAllMessages (localReset : Bool) (d : Downstream σ) :
    Retains d (d.resetAllMessages localReset) :=
  resetAllMessages_of (fun _ _ h => h.trans (.of_eq rfl rfl))
    (fun _ i h => h.trans (retains_deferredMessage i _)) localReset (.of_eq rfl rfl)

theorem retains_close (type : ConnectionCloseType) (d : Downstream σ) :
    Retains d (d.close type) := by
  cases type <;> simp only [close]
  · split <;> exact .of_eq rfl rfl
  · split
    · exact .of_eq rfl rfl
    · have hstate : d.Retains { d with state := .closed } := .of_eq rfl rfl
      exact hstate.trans (retains_resetAllMessages _ _)

/-- A local reply may close the connection, which keeps the messages. -/
theorem retains_sendLocalReply (cfg : Config σ) (i : ℕ) (metadata : Metadata) (error : Error)
    (endStream : Bool) (d : Downstream σ) :
    Retains d (d.sendLocalReply cfg i metadata error endStream) := by
  have hclose : ∀ (d' : Downstream σ) (stat : Stat), Retains d d' →
      Retains d ((if endStream then d'.close .flushWrite else d').inc stat) := by
    intro d' stat h
    split
    · exact (h.trans (retains_close _ _)).trans (.of_eq rfl rfl)
    · exact h.trans (.of_eq rfl rfl)
  unfold sendLocalReply
  split
  · exact .of_eq rfl rfl
  · split
    · exact .of_eq rfl rfl
    · exact hclose d _ (.of_eq rfl rfl)
    · exact hclose (d.write _) _ (.of_eq rfl rfl)

end Downstream

/-- A local reply to a message that does not end the stream. -/
def Write.isLocalReply (i : ℕ) (w : Write) : Bool :=
  w.message = some i && !w.endStream && match w.reply with
    | .localReply _ => true
    | _ => false

namespace Stream

/-! ## What does not forward -/

/-- A message with a local reply knows that it has one. -/
def Replied (s : Stream σ) : Prop :=
  ∀ w ∈ s.downstream.written, w.isLocalReply s.message.id = true →
    s.message.localResponseSent = true

/-- From `s` to `s'` the message keeps its number and its request id, the codec of the
connection its state and its messages, and whatever was written is a local reply to the
message, which it knows of. -/
structure Quiet (s s' : Stream σ) : Prop where
  id : s'.message.id = s.message.id
  requestId : s'.requestId = s.requestId
  codec : s'.downstream.codec = s.downstream.codec
  sent : s.message.localResponseSent = true → s'.message.localResponseSent = true
  replied : s.Replied → s'.Replied
  retains : s.downstream.Retains s'.downstream
  written : ∃ ws, s'.downstream.written = s.downstream.written ++ ws ∧
    ∀ w ∈ ws, w.message = some s.message.id ∧ ∃ error, w.reply = .localReply error

theorem Quiet.refl (s : Stream σ) : Quiet s s :=
  ⟨rfl, rfl, rfl, fun h => h, fun h => h, .of_eq rfl rfl, [], by simp, by simp⟩

theorem Quiet.trans {s s' s'' : Stream σ} (h : Quiet s s') (h' : Quiet s' s'') : Quiet s s'' := by
  obtain ⟨ws, hws, hall⟩ := h.written
  obtain ⟨ws', hws', hall'⟩ := h'.written
  refine ⟨h'.id.trans h.id, h'.requestId.trans h.requestId, h'.codec.trans h.codec,
    fun hs => h'.sent (h.sent hs), fun hs => h'.replied (h.replied hs),
    h.retains.trans h'.retains, ws ++ ws', ?_, fun w hw => ?_⟩
  · rw [hws', hws, List.append_assoc]
  · rcases List.mem_append.mp hw with hw | hw
    · exact hall w hw
    · exact h.id ▸ hall' w hw

/-- A change of the connection that writes nothing. -/
theorem quiet_onDownstream {f : Downstream σ → Downstream σ} {s : Stream σ}
    (h : (f s.downstream).written = s.downstream.written)
    (hc : (f s.downstream).codec = s.downstream.codec)
    (hr : s.downstream.Retains (f s.downstream)) : Quiet s (s.onDownstream f) :=
  ⟨rfl, rfl, hc, fun hs => hs, fun hs w hw => hs w (h ▸ hw), hr, [],
    by simpa [onDownstream] using h, by simp⟩

/-- A change of the message that keeps its number and its id. -/
theorem quiet_onMessage {f : ActiveMessage σ → ActiveMessage σ} {s : Stream σ}
    (hid : (f s.message).id = s.message.id)
    (hmetadata : ((f s.message).metadata.getD {}).requestId =
      (s.message.metadata.getD {}).requestId)
    (hsent : s.message.localResponseSent = true → (f s.message).localResponseSent = true) :
    Quiet s (s.onMessage f) := by
  refine ⟨hid, ?_, rfl, hsent, fun hs w hw hlocal => hsent (hs w hw (hid ▸ hlocal)),
    .of_eq rfl rfl, [], by simp [onMessage], by simp⟩
  have hget : ∀ t : Stream σ, t.requestId = (t.message.metadata.getD {}).requestId := by
    intro t
    unfold requestId
    cases t.message.metadata <;> rfl
  rw [hget, hget]
  exact hmetadata

theorem quiet_onRouter (f : Router → Router) (s : Stream σ) : Quiet s (s.onRouter f) :=
  quiet_onMessage rfl rfl id

theorem quiet_onRequest (f : UpstreamRequest → UpstreamRequest) (s : Stream σ) :
    Quiet s (s.onRequest f) :=
  quiet_onRouter _ s

theorem quiet_onResponseDecoder (f : ActiveResponseDecoder σ → ActiveResponseDecoder σ)
    (s : Stream σ) : Quiet s (s.onResponseDecoder f) :=
  quiet_onMessage rfl rfl id

theorem quiet_panic (site : String) (s : Stream σ) : Quiet s (s.panic site) :=
  quiet_onDownstream rfl rfl (.of_eq rfl rfl)

theorem quiet_assert (condition : Bool) (site : String) (s : Stream σ) :
    Quiet s (s.assert condition site) := by
  have hassert : ∀ d : Downstream σ, d.assert condition site = d ∨
      d.assert condition site = d.panic site := by
    intro d
    unfold Downstream.assert
    split
    · exact Or.inl rfl
    · exact Or.inr rfl
  rcases hassert s.downstream with h | h
  · exact quiet_onDownstream (by rw [h]) (by rw [h]) (.of_eq (by rw [h]) (by rw [h]))
  · exact quiet_onDownstream (by rw [h]; rfl) (by rw [h]; rfl)
      (.of_eq (by rw [h]; rfl) (by rw [h]; rfl))

theorem quiet_inc (stat : Stat) (s : Stream σ) : Quiet s (s.inc stat) :=
  quiet_onDownstream rfl rfl (.of_eq rfl rfl)

end Stream

namespace Downstream

theorem written_deferredMessage (i : ℕ) (d : Downstream σ) :
    (d.deferredMessage i).written = d.written := by
  unfold deferredMessage
  split <;> rfl

theorem codec_deferredMessage (i : ℕ) (d : Downstream σ) :
    (d.deferredMessage i).codec = d.codec := by
  unfold deferredMessage
  split <;> rfl

/-- A view that `deferredMessage` and the counters do not change, `resetAllMessages` does not
change. -/
theorem resetAllMessages_keeps {α : Type*} (view : Downstream σ → α)
    (hinc : ∀ stat d, view (d.inc stat) = view d)
    (hdeferred : ∀ i d, view (d.deferredMessage i) = view d) (localReset : Bool)
    (d : Downstream σ) : view (d.resetAllMessages localReset) = view d :=
  resetAllMessages_of (P := fun e => view e = view d) (fun e stat h => (hinc stat e).trans h)
    (fun e i h => (hdeferred i e).trans h) localReset rfl

/-- Resetting everything leaves no active message. -/
theorem active_resetAllMessages (localReset : Bool) (d : Downstream σ) :
    (d.resetAllMessages localReset).activeMessageList = [] := by
  have hfold : ∀ (l : List ℕ) (d : Downstream σ), d.activeMessageList = l →
      (l.foldl (fun d message =>
        (d.inc (if localReset then .cxDestroyLocalWithActiveRq else .cxDestroyRemoteWithActiveRq)
          ).deferredMessage message) d).activeMessageList = [] := by
    intro l
    induction l with
    | nil => exact fun _ h => h
    | cons i l ih =>
      intro d h
      refine ih _ ?_
      simp [deferredMessage, inc, h]
  exact hfold _ d rfl

theorem state_deferredMessage (i : ℕ) (d : Downstream σ) :
    (d.deferredMessage i).state = d.state := by
  unfold deferredMessage
  split <;> rfl

theorem state_resetAllMessages (localReset : Bool) (d : Downstream σ) :
    (d.resetAllMessages localReset).state = d.state :=
  resetAllMessages_keeps state (fun _ _ => rfl) state_deferredMessage localReset d

theorem written_resetAllMessages (localReset : Bool) (d : Downstream σ) :
    (d.resetAllMessages localReset).written = d.written :=
  resetAllMessages_keeps written (fun _ _ => rfl) written_deferredMessage localReset d

theorem codec_resetAllMessages (localReset : Bool) (d : Downstream σ) :
    (d.resetAllMessages localReset).codec = d.codec :=
  resetAllMessages_keeps codec (fun _ _ => rfl) codec_deferredMessage localReset d

theorem written_closed (event : ConnectionEvent) (d : Downstream σ) :
    (d.closed event).written = d.written :=
  written_resetAllMessages _ _

theorem codec_closed (event : ConnectionEvent) (d : Downstream σ) :
    (d.closed event).codec = d.codec :=
  codec_resetAllMessages _ _

theorem written_close (type : ConnectionCloseType) (d : Downstream σ) :
    (d.close type).written = d.written := by
  cases type <;> simp only [close]
  · split <;> rfl
  · split
    · rfl
    · exact written_closed _ _

theorem codec_close (type : ConnectionCloseType) (d : Downstream σ) :
    (d.close type).codec = d.codec := by
  cases type <;> simp only [close]
  · split <;> rfl
  · split
    · rfl
    · exact codec_closed _ _

theorem codec_sendLocalReply (cfg : Config σ) (i : ℕ) (metadata : Metadata) (error : Error)
    (endStream : Bool) (d : Downstream σ) :
    (d.sendLocalReply cfg i metadata error endStream).codec = d.codec := by
  unfold sendLocalReply
  split
  · rfl
  · split
    · rfl
    · cases endStream <;> simp [inc, codec_close]
    · cases endStream <;> simp [inc, write, codec_close]

end Downstream

namespace Stream

/-- Handing over the message. -/
theorem quiet_deferredMessage (s : Stream σ) : Quiet s s.deferredMessage :=
  quiet_onDownstream (Downstream.written_deferredMessage _ _) (Downstream.codec_deferredMessage _ _)
    (Downstream.retains_deferredMessage _ _)

/-- Closing the connection. -/
theorem quiet_resetDownstreamConnection (s : Stream σ) : Quiet s s.resetDownstreamConnection :=
  quiet_onDownstream (Downstream.written_close _ _) (Downstream.codec_close _ _)
    (Downstream.retains_close _ _)

/-- A local reply writes one thing at most. -/
theorem written_sendLocalReply (cfg : Config σ) (i : ℕ) (metadata : Metadata) (error : Error)
    (endStream : Bool) (d : Downstream σ) :
    ∃ ws, (d.sendLocalReply cfg i metadata error endStream).written = d.written ++ ws ∧
      ∀ w ∈ ws, w.message = some i ∧ w.reply = .localReply error ∧ w.endStream = endStream := by
  unfold Downstream.sendLocalReply
  split
  · exact ⟨[], by simp, by simp⟩
  · cases cfg.codec.onError d.codec metadata error with
    | error fault =>
      cases fault with
      | panic site => exact ⟨[], by simp [Downstream.panic], by simp⟩
      | exception what =>
        refine ⟨[], ?_, by simp⟩
        cases endStream <;> simp [Downstream.inc, Downstream.written_close]
    | ok bytes =>
      refine ⟨[⟨some i, .localReply error, bytes, endStream⟩], ?_, by simp⟩
      cases endStream <;> simp [Downstream.inc, Downstream.write, Downstream.written_close]

/-- A local reply is quiet : the message knows of it. -/
theorem quiet_sendLocalReply (cfg : Config σ) (error : Error) (endStream : Bool) (s : Stream σ) :
    Quiet s (s.sendLocalReply cfg error endStream) := by
  unfold sendLocalReply
  cases hm : s.message.metadata with
  | none => exact quiet_panic _ s
  | some metadata =>
    have hcodec := Downstream.codec_sendLocalReply cfg s.message.id metadata error endStream
      s.downstream
    have hretains := Downstream.retains_sendLocalReply cfg s.message.id metadata error endStream
      s.downstream
    obtain ⟨ws, hws, hall⟩ :=
      written_sendLocalReply cfg s.message.id metadata error endStream s.downstream
    have hlocal : ∀ w ∈ ws, w.message = some s.message.id ∧ ∃ error, w.reply = .localReply error :=
      fun w hw => ⟨(hall w hw).1, error, (hall w hw).2.1⟩
    cases endStream with
    | false =>
      exact ⟨rfl, rfl, hcodec, fun _ => rfl, fun _ _ _ _ => rfl, hretains, ws, hws, hlocal⟩
    | true =>
      refine ⟨rfl, rfl, hcodec, fun h => h, fun hs w hw hreply => ?_, hretains, ws, hws, hlocal⟩
      replace hw : w ∈ s.downstream.written ++ ws := hws ▸ hw
      rcases List.mem_append.mp hw with hw | hw
      · exact hs w hw hreply
      · simp [Write.isLocalReply, (hall w hw).2.2] at hreply

/-- So is the reply to an error. -/
theorem quiet_onError (cfg : Config σ) (what : String) (s : Stream σ) :
    Quiet s (s.onError cfg what) := by
  have hmetadata :
    Quiet s (s.onMessage fun m => { m with metadata := some (m.metadata.getD {}) }) :=
    quiet_onMessage rfl rfl id
  exact (hmetadata.trans (quiet_sendLocalReply _ _ _ _)).trans (quiet_deferredMessage _)

theorem quiet_startUpstreamResponse (cfg : Config σ) (s : Stream σ) :
    Quiet s (s.startUpstreamResponse cfg) := by
  unfold startUpstreamResponse
  exact (quiet_assert _ _ s).trans (quiet_onMessage rfl rfl id)

theorem quiet_countRequest (metadata : Metadata) (s : Stream σ) :
    Quiet s (s.countRequest metadata) := by
  unfold countRequest
  split
  · exact quiet_inc _ _
  · exact quiet_inc _ _
  · exact .refl _

/-- The end of the decoder filters. -/
theorem quiet_finalizeRequest (s : Stream σ) : Quiet s s.finalizeRequest := by
  have h0 :
    Quiet s ((s.onMessage fun m => { m with pendingStreamDecoded := false }).inc .request) :=
    (quiet_onMessage rfl rfl id).trans (quiet_inc _ _)
  unfold finalizeRequest
  generalize (s.onMessage fun m => { m with pendingStreamDecoded := false }).inc .request =
    t at h0 ⊢
  refine h0.trans ?_
  dsimp only
  split
  · exact quiet_panic _ _
  · split
    · exact (quiet_countRequest _ _).trans (quiet_deferredMessage _)
    · exact quiet_countRequest _ _

/-! ### The router -/

theorem quiet_withHost {f : Host → Stream σ → Stream σ} (hf : ∀ host s, Quiet s (f host s))
    (s : Stream σ) : Quiet s (s.withHost f) := by
  unfold withHost
  split
  · exact hf _ _
  · exact quiet_panic _ _

/-- The reply to a reset by the upstream. -/
theorem quiet_resetReply (cfg : Config σ) (reason : PoolFailureReason) (s : Stream σ) :
    Quiet s (s.resetReply cfg reason) := by
  cases reason
  case overflow => exact quiet_sendLocalReply _ _ _ _
  all_goals exact quiet_withHost (fun _ _ => quiet_sendLocalReply _ _ _ _) s

/-- A reset by the upstream. -/
theorem quiet_onResetStream (cfg : Config σ) (reason : PoolFailureReason) (s : Stream σ) :
    Quiet s (s.onResetStream cfg reason) := by
  unfold onResetStream
  split
  · exact quiet_panic _ _
  · split
    · exact quiet_deferredMessage _
    · dsimp only
      split
      · exact (quiet_resetReply _ _ _).trans (quiet_deferredMessage _)
      · exact quiet_resetReply _ _ _

/-- An event of the upstream connection. -/
theorem quiet_onUpstreamEvent (cfg : Config σ) (event : ConnectionEvent) (s : Stream σ) :
    Quiet s (s.onUpstreamEvent cfg event) := by
  unfold onUpstreamEvent
  split
  · exact .refl _
  · split_ifs
    · exact .refl _
    · exact .refl _
    · cases event <;> exact quiet_onResetStream _ _ _

theorem quiet_upstreamClosed (cfg : Config σ) (event : ConnectionEvent) (s : Stream σ) :
    Quiet s (s.upstreamClosed cfg event) :=
  (quiet_onRequest _ s).trans (quiet_onUpstreamEvent _ _ _)

theorem quiet_cancelHandle (request : UpstreamRequest) (s : Stream σ) :
    Quiet s (s.cancelHandle request) := by
  unfold cancelHandle
  split
  · exact (quiet_assert _ _ _).trans ((quiet_onRouter _ _).trans (quiet_onRequest _ _))
  · exact .refl _

/-- A connection that is closed and given up. -/
theorem quiet_closeConnection (cfg : Config σ) (request : UpstreamRequest) (s : Stream σ) :
    Quiet s (s.closeConnection cfg request) := by
  unfold closeConnection
  split
  · refine Quiet.trans ?_ (quiet_onRequest _ _)
    unfold closeUpstream
    split
    · exact (quiet_onRouter _ _).trans (quiet_onUpstreamEvent _ _ _)
    · exact quiet_onRouter _ _
  · exact .refl _

/-- A reset of the upstream request. -/
theorem quiet_resetUpstreamStream (cfg : Config σ) (s : Stream σ) :
    Quiet s (s.resetUpstreamStream cfg) := by
  unfold resetUpstreamStream
  split
  · exact quiet_panic _ _
  · exact (quiet_onRequest _ _).trans
      ((quiet_cancelHandle _ _).trans (quiet_closeConnection _ _ _))

/-- A connection that is given back. -/
theorem quiet_onResponseComplete (s : Stream σ) : Quiet s s.onResponseComplete := by
  unfold onResponseComplete
  exact (quiet_onRequest _ s).trans (quiet_onRouter _ _)

theorem quiet_cleanup (s : Stream σ) : Quiet s s.cleanup :=
  quiet_onRouter _ s

/-- The request is written. -/
theorem quiet_encodeData (s : Stream σ) : Quiet s s.encodeData := by
  unfold encodeData
  split
  · exact quiet_panic _ _
  · exact (quiet_assert _ _ _).trans
      ((quiet_assert _ _ _).trans ((quiet_onRequest _ _).trans (quiet_onRouter _ _)))

/-- A connection of the pool. -/
theorem quiet_onPoolReadyConnection (host : Host) (leftover : Bytes) (s : Stream σ) :
    Quiet s (s.onPoolReadyConnection host leftover) :=
  (quiet_onRequest _ s).trans (quiet_onRequest _ _)

/-- A failure of the pool. -/
theorem quiet_onPoolFailureReset (cfg : Config σ) (reason : PoolFailureReason) (host : Host)
    (s : Stream σ) : Quiet s (s.onPoolFailureReset cfg reason host) := by
  unfold onPoolFailureReset
  exact (quiet_onRequest _ s).trans
    ((quiet_onRequest _ _).trans ((quiet_onResetStream _ _ _).trans (quiet_onRouter _ _)))

/-- The upstream request is started. -/
theorem quiet_startRequest (cfg : Config σ) (pool : PoolStart) (s : Stream σ) :
    Quiet s (s.startRequest cfg pool).2 := by
  cases pool with
  | pending => exact quiet_onRequest _ s
  | ready host leftover =>
    exact (quiet_onPoolReadyConnection _ _ s).trans
      ((quiet_onRequest _ _).trans (quiet_encodeData _))
  | overflow host => exact quiet_onPoolFailureReset _ _ _ s

/-- The route is looked up, or cached. -/
theorem quiet_route (cfg : Config σ) (s : Stream σ) : Quiet s (s.route cfg).2 := by
  unfold route
  cases s.message.cachedRoute with
  | some route => exact .refl _
  | none =>
    cases hm : s.message.metadata with
    | some metadata =>
      dsimp only
      exact quiet_onMessage rfl rfl id
    | none => exact .refl _

theorem metadata_route (cfg : Config σ) (s : Stream σ) :
    (s.route cfg).2.message.metadata = s.message.metadata := by
  unfold route
  split
  · rfl
  · split <;> rfl

/-- A request that is routed. -/
theorem quiet_routeTo (cfg : Config σ) (pool : PoolStart) {metadata : Metadata} {s : Stream σ}
    (h : s.message.metadata = some metadata) : Quiet s (s.routeTo cfg pool metadata).2 := by
  unfold routeTo
  refine Quiet.trans (quiet_onMessage rfl ?_ id) (quiet_startRequest _ _ _)
  rw [h]
  rfl

/-- The router, called with a request. -/
theorem quiet_routerOnMessageDecoded (cfg : Config σ) (s : Stream σ) :
    Quiet s (s.routerOnMessageDecoded cfg).2 := by
  unfold routerOnMessageDecoded
  cases hm : s.message.metadata with
  | none => exact quiet_panic _ _
  | some metadata =>
    have hroute := quiet_route cfg s
    have hkept := (metadata_route cfg s).trans hm
    generalize s.route cfg = r at hroute hkept ⊢
    obtain ⟨_ | entry, t⟩ := r
    · exact hroute.trans (quiet_sendLocalReply _ _ _ _)
    dsimp only at hroute hkept ⊢
    refine hroute.trans ?_
    cases cfg.getThreadLocalCluster t.message.id entry.clusterName with
    | none => exact quiet_sendLocalReply _ _ _ _
    | some cluster =>
      dsimp only
      split
      · exact quiet_sendLocalReply _ _ _ _
      · cases cluster.tcpConnPool with
        | none => exact quiet_sendLocalReply _ _ _ _
        | some pool => exact quiet_routeTo _ _ hkept

/-- The router, called with a response. -/
theorem quiet_routerOnMessageEncoded (s : Stream σ) : Quiet s s.routerOnMessageEncoded.2 := by
  unfold routerOnMessageEncoded
  split
  · exact .refl _
  · exact quiet_withHost (fun _ _ => .refl _) _

/-- The router, when its message is destroyed. -/
theorem quiet_routerOnDestroy (cfg : Config σ) (s : Stream σ) :
    Quiet s (s.routerOnDestroy cfg) := by
  unfold routerOnDestroy
  split
  · exact (quiet_resetUpstreamStream _ _).trans (quiet_cleanup _)
  · exact quiet_cleanup _

/-! ### Filter chains -/

/-- The callbacks of a filter, one after the other. -/
theorem quiet_acts {cfg : Config σ} {drain : ℕ → Stream σ → Stream σ}
    (hdrain : ∀ n s, Quiet s (drain n s)) (as : List FilterAct) :
    ∀ s : Stream σ, Quiet s (s.acts cfg drain as) := by
  induction as with
  | nil => exact fun s => .refl s
  | cons a as ih =>
    intro s
    have hact : Quiet s (s.act cfg drain a) := by
      cases a with
      | sendLocalReply error endStream => exact quiet_sendLocalReply _ _ _ _
      | resetStream => exact quiet_deferredMessage _
      | resetDownstreamConnection => exact quiet_resetDownstreamConnection _
      | drainOriginMessage length => exact hdrain _ _
    exact hact.trans (ih _)

theorem quiet_drainRequest (n : ℕ) (s : Stream σ) : Quiet s (s.drainRequest n) := by
  refine quiet_onMessage rfl ?_ id
  cases s.message.metadata <;> rfl

/-- A decoder filter. -/
theorem quiet_filterOnMessageDecoded (cfg : Config σ) (filter : Filter) (position : ℕ)
    (s : Stream σ) : Quiet s (s.filterOnMessageDecoded cfg filter position).2 := by
  unfold filterOnMessageDecoded
  cases filter with
  | router => exact (quiet_onMessage rfl rfl id).trans (quiet_routerOnMessageDecoded _ _)
  | custom react => exact (quiet_onMessage rfl rfl id).trans (quiet_acts quiet_drainRequest _ _)

/-- An encoder filter. -/
theorem quiet_filterOnMessageEncoded (cfg : Config σ) (filter : Filter) (position : ℕ)
    (s : Stream σ) : Quiet s (s.filterOnMessageEncoded cfg filter position).2 := by
  unfold filterOnMessageEncoded
  cases filter with
  | router => exact (quiet_onMessage rfl rfl id).trans (quiet_routerOnMessageEncoded _)
  | custom react =>
    exact (quiet_onMessage rfl rfl id).trans
      (quiet_acts (fun _ _ => quiet_onResponseDecoder _ _) _ _)

/-- The decoder filters, one after the other. -/
theorem quiet_decoderFilterLoop (cfg : Config σ) :
    ∀ (filters : List Filter) (position : ℕ) (s : Stream σ),
      Quiet s (s.decoderFilterLoop cfg filters position).2
  | [], _, s => by
    unfold decoderFilterLoop
    dsimp only
    exact quiet_onMessage rfl rfl id
  | filter :: filters, position, s => by
    unfold decoderFilterLoop
    have h := quiet_filterOnMessageDecoded cfg filter position s
    generalize s.filterOnMessageDecoded cfg filter position = r at h ⊢
    obtain ⟨status, t⟩ := r
    dsimp only at h ⊢
    split_ifs
    · dsimp only
      exact h.trans (quiet_onMessage rfl rfl id)
    · exact h
    · exact h.trans (quiet_decoderFilterLoop cfg filters (position + 1) t)

/-- The decoder filters from a position on. -/
theorem quiet_applyDecoderFilters (cfg : Config σ) (start : ℕ) (s : Stream σ) :
    Quiet s (s.applyDecoderFilters cfg start).2 := by
  unfold applyDecoderFilters
  split_ifs
  · exact quiet_panic _ _
  · dsimp only
    exact quiet_onMessage rfl rfl id
  · exact quiet_decoderFilterLoop _ _ _ _

/-- A message that goes on. -/
theorem quiet_continueDecoding (cfg : Config σ) (position : ℕ) (s : Stream σ) :
    Quiet s (s.continueDecoding cfg position).2 := by
  unfold continueDecoding
  split
  · exact quiet_panic _ _
  · dsimp only
    generalize commonPrefix _ _ = start
    have h := quiet_applyDecoderFilters cfg start s
    generalize s.applyDecoderFilters cfg start = r at h ⊢
    obtain ⟨_ | _ | _, t⟩ := r
    · dsimp only at h ⊢
      split_ifs
      · exact h.trans (quiet_finalizeRequest _)
      · exact h
    · exact h
    · exact h

/-- The encoder filters, one after the other. -/
theorem quiet_encoderFilterLoop (cfg : Config σ) :
    ∀ (filters : List Filter) (position : ℕ) (s : Stream σ),
      Quiet s (s.encoderFilterLoop cfg filters position).2
  | [], _, s => by
    unfold encoderFilterLoop
    dsimp only
    exact quiet_onMessage rfl rfl id
  | filter :: filters, position, s => by
    unfold encoderFilterLoop
    have h := quiet_filterOnMessageEncoded cfg filter position s
    generalize s.filterOnMessageEncoded cfg filter position = r at h ⊢
    obtain ⟨status, t⟩ := r
    dsimp only at h ⊢
    split_ifs
    · dsimp only
      exact h.trans (quiet_onMessage rfl rfl id)
    · exact h
    · exact h.trans (quiet_encoderFilterLoop cfg filters (position + 1) t)

theorem quiet_applyEncoderFilters (cfg : Config σ) (start : ℕ) (s : Stream σ) :
    Quiet s (s.applyEncoderFilters cfg start).2 := by
  unfold applyEncoderFilters
  split_ifs
  · exact quiet_panic _ _
  · dsimp only
    exact quiet_onMessage rfl rfl id
  · exact quiet_encoderFilterLoop _ _ _ _

/-- A response that goes on. -/
theorem quiet_continueEncoding (cfg : Config σ) (position : ℕ) (s : Stream σ) :
    Quiet s (s.continueEncoding cfg position) := by
  unfold continueEncoding
  split
  · exact quiet_panic _ _
  · exact quiet_applyEncoderFilters _ _ _

/-! ## What forwards -/

/-- The id of the response that is being handled. -/
def responseId (s : Stream σ) : Option UInt64 :=
  (s.message.responseDecoder.bind (·.metadata)).map (·.requestId)

theorem responseId_sendLocalReply (cfg : Config σ) (error : Error) (endStream : Bool)
    (s : Stream σ) : (s.sendLocalReply cfg error endStream).responseId = s.responseId := by
  unfold sendLocalReply
  split
  · rfl
  · dsimp only
    split <;> rfl

/-- Taking bytes off a response leaves its id. -/
theorem responseId_drainResponse (n : ℕ) (s : Stream σ) :
    (s.drainResponse n).responseId = s.responseId := by
  simp only [responseId, drainResponse, onResponseDecoder, onMessage]
  rcases s.message.responseDecoder with _ | ⟨codec, decoder, _ | metadata, complete, status⟩ <;> rfl

/-- So do the callbacks of a filter. -/
theorem responseId_acts (cfg : Config σ) (as : List FilterAct) :
    ∀ s : Stream σ, (s.acts cfg drainResponse as).responseId = s.responseId := by
  induction as with
  | nil => exact fun s => rfl
  | cons a as ih =>
    intro s
    refine (ih (s.act cfg drainResponse a)).trans ?_
    cases a with
    | sendLocalReply error endStream => exact responseId_sendLocalReply _ _ _ _
    | resetStream => rfl
    | resetDownstreamConnection => rfl
    | drainOriginMessage length => exact responseId_drainResponse _ _

theorem responseId_filterOnMessageEncoded (cfg : Config σ) (filter : Filter) (position : ℕ)
    (s : Stream σ) :
    (s.filterOnMessageEncoded cfg filter position).2.responseId = s.responseId := by
  unfold filterOnMessageEncoded
  cases filter with
  | router =>
    dsimp only
    unfold routerOnMessageEncoded
    split
    · rfl
    · dsimp only
      unfold withHost
      split <;> rfl
  | custom react => exact responseId_acts _ _ _

theorem responseId_encoderFilterLoop (cfg : Config σ) :
    ∀ (filters : List Filter) (position : ℕ) (s : Stream σ),
      (s.encoderFilterLoop cfg filters position).2.responseId = s.responseId
  | [], _, _ => rfl
  | filter :: filters, position, s => by
    unfold encoderFilterLoop
    have h := responseId_filterOnMessageEncoded cfg filter position s
    generalize s.filterOnMessageEncoded cfg filter position = r at h ⊢
    obtain ⟨status, t⟩ := r
    dsimp only at h ⊢
    split_ifs
    · exact h
    · exact h
    · exact (responseId_encoderFilterLoop cfg filters (position + 1) t).trans h

theorem responseId_applyMessageEncodedFilters (cfg : Config σ) (s : Stream σ) :
    (s.applyMessageEncodedFilters cfg).2.responseId = s.responseId := by
  have happly : ∀ (start : ℕ) (t : Stream σ),
      (t.applyEncoderFilters cfg start).2.responseId = t.responseId := by
    intro start t
    unfold applyEncoderFilters
    split_ifs
    · rfl
    · rfl
    · exact responseId_encoderFilterLoop _ _ _ _
  unfold applyMessageEncodedFilters
  have h := happly (commonPrefix none .canStartFromCurrent)
    (s.onMessage fun m => { m with encoderFilterAction := true })
  dsimp only
  generalize (s.onMessage fun m => { m with encoderFilterAction := true }).applyEncoderFilters cfg
    (commonPrefix none .canStartFromCurrent) = r at h ⊢
  obtain ⟨_ | _ | _, t⟩ := r
  · exact h
  · exact h
  · refine Eq.trans ?_ h
    simp only [responseId, onResponseDecoder, onMessage]
    rcases t.message.responseDecoder with _ | ⟨codec, decoder, _ | metadata, complete, status⟩ <;>
      rfl

theorem quiet_applyMessageEncodedFilters (cfg : Config σ) (s : Stream σ) :
    Quiet s (s.applyMessageEncodedFilters cfg).2 := by
  unfold applyMessageEncodedFilters
  have hset : Quiet s (s.onMessage fun m => { m with encoderFilterAction := true }) :=
    quiet_onMessage rfl rfl id
  have h := hset.trans (quiet_applyEncoderFilters cfg (commonPrefix none .canStartFromCurrent) _)
  dsimp only
  generalize (s.onMessage fun m => { m with encoderFilterAction := true }).applyEncoderFilters cfg
    (commonPrefix none .canStartFromCurrent) = r at h ⊢
  obtain ⟨_ | _ | _, t⟩ := r
  · exact h
  · exact h
  · exact h.trans (quiet_onResponseDecoder _ _)

/-- The encoder filters, called with a response. -/
theorem quiet_encodeResponse (cfg : Config σ) (metadata : Metadata) (s : Stream σ) :
    Quiet s (s.encodeResponse cfg metadata).2 :=
  (quiet_assert _ _ s).trans
    ((quiet_onResponseDecoder _ _).trans (quiet_applyMessageEncodedFilters _ _))

/-- The id of a response is not changed by the encoder filters. -/
theorem responseId_encodeResponse (cfg : Config σ) (metadata : Metadata) {s : Stream σ}
    (h : s.message.responseDecoder.isSome) :
    (s.encodeResponse cfg metadata).2.responseId = some metadata.requestId := by
  refine (responseId_applyMessageEncodedFilters _ _).trans ?_
  obtain ⟨decoder, hdecoder⟩ := Option.isSome_iff_exists.mp h
  simp [responseId, onResponseDecoder, onMessage, assert, onDownstream, hdecoder]

/-- From `s` to `s'` a response with the id `r` is forwarded, between local replies. -/
structure Forwards (r : UInt64) (s s' : Stream σ) : Prop where
  id : s'.message.id = s.message.id
  requestId : s'.requestId = s.requestId
  codec : s'.downstream.codec = s.downstream.codec
  sent : s.message.localResponseSent = true → s'.message.localResponseSent = true
  replied : s.Replied → s'.Replied
  written : ∃ ws ws' metadata, s'.downstream.written = s.downstream.written ++ ws ++
      [⟨some s.message.id, .upstreamResponse metadata, metadata.originMessage, false⟩] ++ ws' ∧
    metadata.requestId = r ∧
    ∀ w ∈ ws ++ ws', w.message = some s.message.id ∧ ∃ error, w.reply = .localReply error

/-- Being quiet in front of forwarding. -/
theorem Quiet.forwards {r : UInt64} {s s' s'' : Stream σ} (h : Quiet s s')
    (h' : Forwards r s' s'') : Forwards r s s'' := by
  obtain ⟨ws, hws, hall⟩ := h.written
  obtain ⟨ws₁, ws₂, metadata, hws', hr, hall'⟩ := h'.written
  refine ⟨h'.id.trans h.id, h'.requestId.trans h.requestId, h'.codec.trans h.codec,
    fun hs => h'.sent (h.sent hs), fun hs => h'.replied (h.replied hs), ws ++ ws₁, ws₂, metadata,
    ?_, hr, ?_⟩
  · rw [hws', hws, h.id]
    simp only [List.append_assoc]
  · intro w hw
    rw [List.append_assoc] at hw
    rcases List.mem_append.mp hw with hw | hw
    · exact hall w hw
    · exact h.id ▸ hall' w hw

/-- Being quiet behind it. -/
theorem Forwards.quiet {r : UInt64} {s s' s'' : Stream σ} (h : Forwards r s s')
    (h' : Quiet s' s'') : Forwards r s s'' := by
  obtain ⟨ws₁, ws₂, metadata, hws, hr, hall⟩ := h.written
  obtain ⟨ws, hws', hall'⟩ := h'.written
  refine ⟨h'.id.trans h.id, h'.requestId.trans h.requestId, h'.codec.trans h.codec,
    fun hs => h'.sent (h.sent hs), fun hs => h'.replied (h.replied hs), ws₁, ws₂ ++ ws, metadata,
    ?_, hr, ?_⟩
  · rw [hws', hws]
    simp only [List.append_assoc]
  · intro w hw
    rw [← List.append_assoc] at hw
    rcases List.mem_append.mp hw with hw | hw
    · exact hall w hw
    · exact h.id ▸ hall' w hw

theorem quiet_countResponse (metadata : Metadata) (s : Stream σ) :
    Quiet s (s.countResponse metadata) := by
  have hinc : ∀ (c : Prop) [Decidable c] (a b : Stat) (t : Stream σ),
      Quiet t (if c then t.inc a else t.inc b) := by
    intro c _ a b t
    split <;> exact quiet_inc _ _
  have herror : ∀ (c : Prop) [Decidable c] (a : Stat) (t : Stream σ),
      Quiet t (if c then t.inc a else t) := by
    intro c _ a t
    split
    · exact quiet_inc _ _
    · exact .refl _
  exact (quiet_inc _ s).trans ((quiet_inc _ _).trans ((herror _ _ _).trans (hinc _ _ _ _)))

/-- A decoded response is forwarded exactly if the encoder filters let it through and leave
the client connection open. -/
theorem onResponseDecoded_written (cfg : Config σ) (metadata : Metadata) {s : Stream σ}
    (hs : s.message.responseDecoder.isSome) :
    if (s.encodeResponse cfg metadata).1 = .continue ∧
        (s.encodeResponse cfg metadata).2.downstream.state = .open then
      Forwards metadata.requestId s (s.onResponseDecoded cfg metadata).2
    else Quiet s (s.onResponseDecoded cfg metadata).2 := by
  have hquiet := quiet_encodeResponse cfg metadata s
  have hid := responseId_encodeResponse cfg metadata hs
  unfold onResponseDecoded
  generalize s.encodeResponse cfg metadata = r at hquiet hid ⊢
  obtain ⟨status, t⟩ := r
  dsimp only at hquiet hid ⊢
  by_cases hstatus : status = .continue
  swap
  · rw [if_neg (by tauto), if_pos hstatus]
    exact hquiet.trans (quiet_onResponseDecoder _ _)
  rw [if_neg (not_not.mpr hstatus)]
  by_cases hopen : t.downstream.state = .open
  swap
  · rw [if_neg (by tauto), if_pos hopen]
    exact hquiet
  rw [if_pos ⟨hstatus, hopen⟩, if_neg (not_not.mpr hopen)]
  obtain ⟨metadata', hmetadata', hr⟩ : ∃ metadata',
      t.message.responseDecoder.bind (·.metadata) = some metadata' ∧
        metadata'.requestId = metadata.requestId :=
    Option.map_eq_some_iff.mp hid
  rw [hmetadata', Option.getD_some]
  have hforward : Forwards metadata.requestId t (t.forwardResponse metadata') := by
    refine ⟨rfl, rfl, rfl, fun h => h, fun hs w hw hlocal => ?_, [], [], metadata',
      by simp [forwardResponse, onDownstream, Downstream.write], hr, by simp⟩
    rcases List.mem_append.mp hw with hw | hw
    · exact hs w hw hlocal
    · rw [List.mem_singleton.mp hw] at hlocal
      simp [Write.isLocalReply] at hlocal
  exact hquiet.forwards
    (hforward.quiet ((quiet_countResponse _ _).trans (quiet_onResponseDecoder _ _)))

theorem quiet_startResponse (cfg : Config σ) (s : Stream σ) : Quiet s (s.startResponse cfg) := by
  unfold startResponse
  have hassert := quiet_assert (!s.message.router.upstreamRequest.any (·.responseComplete))
    "ASSERT(!upstream_request_->response_complete_)" s
  dsimp only
  split
  · exact hassert
  · exact hassert.trans ((quiet_startUpstreamResponse _ _).trans (quiet_onRequest _ _))

theorem quiet_onResponseException (cfg : Config σ) (what : String) (s : Stream σ) :
    Quiet s (s.onResponseException cfg what) :=
  (quiet_inc _ s).trans (quiet_onError _ _ _)

/-- What the response decoder does once the callback has returned. -/
theorem quiet_responseDecoded (data : Bytes) (s : Stream σ) :
    Quiet s (s.responseDecoded data).2.2 := by
  have hcomplete := quiet_onResponseDecoder
    (fun d => { d with decoder := d.decoder.complete }) s
  unfold responseDecoded
  dsimp only
  split
  · exact hcomplete.trans (quiet_panic _ _)
  · exact hcomplete.trans (quiet_assert _ _ _)

/-- The response that the data completes, with what is left of the stream for it : what
`onUpstreamData` has when the response decoder calls back. -/
def completedResponse (cfg : Config σ) (data : Bytes) (s : Stream σ) :
    Option (Metadata × Stream σ) :=
  match (s.startResponse cfg).message.responseDecoder with
  | none => none
  | some responseDecoder =>
    match responseDecoder.decoder.decode cfg.codec responseDecoder.codec data with
    | (decoder, codec, _, .stream metadata) =>
      some (metadata, (s.startResponse cfg).onResponseDecoder fun d => { d with decoder, codec })
    | _ => none

/-- The data completes a response that the encoder filters let through to an open client
connection. -/
def forwarding (cfg : Config σ) (data : Bytes) (s : Stream σ) : Option Metadata :=
  match s.completedResponse cfg data with
  | none => none
  | some (metadata, t) =>
    if (t.encodeResponse cfg metadata).1 = .continue ∧
        (t.encodeResponse cfg metadata).2.downstream.state = .open then some metadata
    else none

/-- What is written for a chunk. -/
theorem responseDecoderOnData_written (cfg : Config σ) (data : Bytes) (s : Stream σ) :
    match s.forwarding cfg data with
    | some metadata => Forwards metadata.requestId (s.startResponse cfg)
        ((s.startResponse cfg).responseDecoderOnData cfg data).2.2
    | none => Quiet (s.startResponse cfg)
        ((s.startResponse cfg).responseDecoderOnData cfg data).2.2 := by
  unfold forwarding completedResponse responseDecoderOnData
  generalize s.startResponse cfg = t
  rcases hdecoder : t.message.responseDecoder with _ | responseDecoder
  · exact quiet_panic _ _
  dsimp only
  rcases responseDecoder.decoder.decode cfg.codec responseDecoder.codec data with
    ⟨decoder, codec, rest, decoded⟩
  have hset := quiet_onResponseDecoder (fun d => { d with decoder, codec }) t
  cases decoded with
  | waitForData => exact hset
  | heartbeat metadata => exact hset.trans (quiet_panic _ _)
  | throw fault =>
    cases fault with
    | exception what => exact hset
    | panic site => exact hset.trans (quiet_panic _ _)
  | stream metadata =>
    dsimp only
    have hsome :
      (t.onResponseDecoder fun d => { d with decoder, codec }).message.responseDecoder.isSome := by
      simp [onResponseDecoder, onMessage, hdecoder]
    have hwritten := onResponseDecoded_written cfg metadata hsome
    generalize t.onResponseDecoder _ = u at hset hwritten ⊢
    generalize u.onResponseDecoded cfg metadata = r at hwritten ⊢
    obtain ⟨ex, v⟩ := r
    split_ifs at hwritten ⊢ with h
    · have hforward := hset.forwards hwritten
      cases ex with
      | some ex => exact hforward
      | none => exact hforward.quiet (quiet_responseDecoded _ _)
    · have hquiet := hset.trans hwritten
      cases ex with
      | some ex => exact hquiet
      | none => exact hquiet.trans (quiet_responseDecoded _ _)

theorem upstreamData_quiet (cfg : Config σ) (data : Bytes) (s : Stream σ) :
    Quiet (s.responseDecoderOnData cfg data).2.2 (s.upstreamData cfg data).2.2 := by
  unfold upstreamData
  rcases s.responseDecoderOnData cfg data with ⟨rest, (_ | what) | (_ | _ | _ | _), t⟩
  · exact (quiet_deferredMessage _).trans (quiet_inc _ _)
  · exact quiet_onResponseException _ _ _
  · exact .refl _
  · dsimp only
    split
    · exact quiet_onResponseException _ _ _
    · exact quiet_deferredMessage _
  · exact .refl _
  · dsimp only
    exact quiet_onMessage rfl rfl id

/-- Behind `upstreamData` nothing is forwarded. -/
theorem onUpstreamData_quiet (cfg : Config σ) (data : Bytes) (endStream : Bool) {s : Stream σ}
    (hs : s.message.router.upstreamRequest.isSome) :
    Quiet ((s.startResponse cfg).upstreamData cfg data).2.2
      (s.onUpstreamData cfg data endStream) := by
  obtain ⟨request, hrequest⟩ := Option.isSome_iff_exists.mp hs
  unfold onUpstreamData
  rw [hrequest]
  rcases (s.startResponse cfg).upstreamData cfg data with ⟨rest, status, t⟩
  have hleave : Quiet t (t.leaveUpstreamData rest) := quiet_onRequest _ t
  refine hleave.trans ?_
  have hmore : ∀ u : Stream σ, Quiet u (if endStream = true then
      (u.onResetStream cfg .remoteConnectionFailure).onResponseComplete.cleanup else u) := by
    intro u
    split
    · exact (quiet_onResetStream _ _ _).trans
        ((quiet_onResponseComplete _).trans (quiet_cleanup _))
    · exact .refl _
  cases status with
  | complete => exact (quiet_onResponseComplete _).trans (quiet_cleanup _)
  | reset => exact quiet_resetUpstreamStream _ _
  | moreData => exact hmore _
  | retry => exact hmore _

/-- Data from the upstream forwards at most one response, and does so before its id has been
compared. -/
theorem onUpstreamData_written (cfg : Config σ) (data : Bytes) (endStream : Bool)
    {s : Stream σ} (hs : s.message.router.upstreamRequest.isSome) :
    match s.forwarding cfg data with
    | some metadata => Forwards metadata.requestId s (s.onUpstreamData cfg data endStream)
    | none => Quiet s (s.onUpstreamData cfg data endStream) := by
  have hstart := quiet_startResponse cfg s
  have hdata := responseDecoderOnData_written cfg data s
  have hafter := (upstreamData_quiet cfg data (s.startResponse cfg)).trans
    (onUpstreamData_quiet cfg data endStream hs)
  cases hf : s.forwarding cfg data with
  | none =>
    rw [hf] at hdata
    exact hstart.trans (hdata.trans hafter)
  | some metadata =>
    rw [hf] at hdata
    exact hstart.forwards (hdata.quiet hafter)

/-- A response leaves the codec of the requests alone. -/
theorem codec_onUpstreamData (cfg : Config σ) (data : Bytes) (endStream : Bool) (s : Stream σ) :
    (s.onUpstreamData cfg data endStream).downstream.codec = s.downstream.codec := by
  cases hr : s.message.router.upstreamRequest with
  | none =>
    unfold onUpstreamData
    rw [hr]
    exact (quiet_panic _ s).codec
  | some request =>
    have hdata := onUpstreamData_written cfg data endStream (s := s) (by rw [hr]; rfl)
    split at hdata
    · exact hdata.codec
    · exact hdata.codec

/-- What is written for a new message. -/
theorem onStreamDecoded_written (cfg : Config σ) (metadata : Metadata) (s : Stream σ) :
    (s.onStreamDecoded cfg metadata).message.id = s.message.id ∧
      (s.onStreamDecoded cfg metadata).downstream.codec = s.downstream.codec ∧
      (s.Replied → (s.onStreamDecoded cfg metadata).Replied) ∧
      ∃ ws, (s.onStreamDecoded cfg metadata).downstream.written = s.downstream.written ++ ws ∧
        ∀ w ∈ ws, w.message = some s.message.id ∧ ∃ error, w.reply = .localReply error := by
  obtain ⟨t, ht⟩ : ∃ t, t = (s.inc .requestDecodingSuccess).onMessage fun m =>
    { m with metadata := some metadata, filterAction := true } := ⟨_, rfl⟩
  have h : Quiet t (s.onStreamDecoded cfg metadata) := by
    unfold onStreamDecoded
    dsimp only
    rw [← ht]
    have happly := quiet_applyDecoderFilters cfg (commonPrefix none .canStartFromCurrent) t
    generalize t.applyDecoderFilters cfg (commonPrefix none .canStartFromCurrent) = r at happly ⊢
    obtain ⟨_ | _ | _, u⟩ := r
    · exact happly.trans (quiet_finalizeRequest _)
    · exact happly.trans (quiet_onMessage rfl rfl id)
    · exact happly.trans (quiet_finalizeRequest _)
  subst ht
  exact ⟨h.id, h.codec, h.replied, h.written⟩

/-- The end of a message. -/
theorem quiet_destroy (cfg : Config σ) (s : Stream σ) : Quiet s (s.destroy cfg) := by
  have hdec : Quiet s (s.onDownstream (Downstream.dec .requestActive)) :=
    quiet_onDownstream rfl rfl (.of_eq rfl rfl)
  unfold destroy
  dsimp only
  split
  · exact hdec.trans ((quiet_routerOnDestroy _ _).trans (quiet_onMessage rfl rfl id))
  · exact hdec.trans (quiet_onMessage rfl rfl id)

end Stream

end MetaProtocolProxy
