import MetaProtocolProxy.Correlation
import MetaProtocolProxy.Course
import MetaProtocolProxy.DubboProxy

/-!
# The order of the decoder filters

A filter that stops the iteration goes on with `continueDecoding`, which starts from the next
filter if the bytes of the message have been taken, and else from the filter that goes on.
The router takes the bytes, so the iteration goes on behind it, but a filter in front of it
is called again. The filters of every message are called once each and in the order of the
chain, and behind each filter that goes on the next one is called, exactly if no filter goes on
while the bytes are there (`inOrder_iff`).
-/

namespace MetaProtocolProxy

variable {σ : Type}

/-! ## Messages whose filters do not run -/

namespace ActiveMessage

/-- The message holds a handle of the pool. -/
def pooling (m : ActiveMessage σ) : Bool :=
  m.router.upstreamRequest.any (·.connPoolHandle)

/-- The bytes of the message that nobody has taken. -/
def unconsumed (m : ActiveMessage σ) : Bytes :=
  (m.metadata.map (·.originMessage)).getD []

theorem pooling_of_none {m : ActiveMessage σ} (h : m.router.upstreamRequest = none) :
    m.pooling = false := by
  rw [pooling, h]
  rfl

/-- From `m` to `m'` no decoder filter is called, no upstream request is made and no handle taken,
and no bytes come back. -/
structure Rests (m m' : ActiveMessage σ) : Prop where
  calls : m'.decoderCalls = m.decoderCalls
  filterAction : m'.filterAction = m.filterAction
  sent : m.localResponseSent = true → m'.localResponseSent = true
  request : m'.router.upstreamRequest.isSome → m.router.upstreamRequest.isSome
  pooling : m'.pooling = true → m.pooling = true
  unconsumed : m.unconsumed = [] → m'.unconsumed = []

theorem Rests.refl (m : ActiveMessage σ) : Rests m m :=
  ⟨rfl, rfl, fun h => h, fun h => h, fun h => h, fun h => h⟩

theorem Rests.trans {m m' m'' : ActiveMessage σ} (h : Rests m m') (h' : Rests m' m'') :
    Rests m m'' :=
  ⟨h'.calls.trans h.calls, h'.filterAction.trans h.filterAction, fun hs => h'.sent (h.sent hs),
    fun hr => h.request (h'.request hr), fun hp => h.pooling (h'.pooling hp),
    fun hu => h'.unconsumed (h.unconsumed hu)⟩

/-- What the running of the decoder filters can be seen by. -/
def decoding (m : ActiveMessage σ) : List ℕ × Bool × Router × Bytes :=
  (m.decoderCalls, m.filterAction, m.router, m.unconsumed)

theorem blind_decoding : Blind (decoding (σ := σ)) where
  metadata m := by
    unfold decoding unconsumed
    cases m.metadata <;> rfl
  responseDecoder _ _ := rfl
  localResponseSent _ _ := rfl
  encoderCalls _ _ := rfl
  encoderFilterAction _ _ := rfl

theorem Rests.of_decoding {m m' : ActiveMessage σ} (h : m'.decoding = m.decoding)
    (hs : m.localResponseSent = true → m'.localResponseSent = true) : Rests m m' := by
  obtain ⟨hcalls, hrest⟩ := Prod.mk.inj h
  obtain ⟨haction, hrest⟩ := Prod.mk.inj hrest
  obtain ⟨hrouter, hunconsumed⟩ := Prod.mk.inj hrest
  exact ⟨hcalls, haction, hs, fun hr => hrouter ▸ hr, fun hp => by
    unfold ActiveMessage.pooling at hp ⊢
    rwa [← hrouter], fun hu => hunconsumed.trans hu⟩

end ActiveMessage

namespace Stream

open ActiveMessage (Rests blind_decoding)

theorem rests_sendLocalReply (cfg : Config σ) (error : Error) (endStream : Bool) (s : Stream σ) :
    s.message.Rests (s.sendLocalReply cfg error endStream).message :=
  .of_decoding (view_sendLocalReply blind_decoding _ _ _ _) (quiet_sendLocalReply _ _ _ _).sent

/-- A change of the upstream request that takes no handle. -/
theorem rests_onRequest (f : UpstreamRequest → UpstreamRequest) (s : Stream σ)
    (hf : ∀ r, (f r).connPoolHandle = true → r.connPoolHandle = true) :
    s.message.Rests (s.onRequest f).message := by
  refine ⟨rfl, rfl, id, fun hr => ?_, fun hp => ?_, id⟩
  · simpa [onRequest, onRouter, onMessage] using hr
  unfold ActiveMessage.pooling onRequest onRouter onMessage at *
  cases hr : s.message.router.upstreamRequest with
  | none => simp [hr] at hp
  | some r =>
    simp only [hr, Option.map_some, Option.any_some] at hp ⊢
    exact hf r hp

/-- A change of the router that keeps its upstream request. -/
theorem rests_onRouter (f : Router → Router) (s : Stream σ)
    (hf : ∀ r, (f r).upstreamRequest = r.upstreamRequest) :
    s.message.Rests (s.onRouter f).message := by
  refine ⟨rfl, rfl, id, fun hr => ?_, fun hp => ?_, id⟩
  · unfold onRouter onMessage at hr
    rwa [hf] at hr
  unfold ActiveMessage.pooling onRouter onMessage at *
  rwa [hf] at hp

theorem rests_withHost {f : Host → Stream σ → Stream σ}
    (hf : ∀ (host : Host) (s : Stream σ), s.message.Rests (f host s).message) (s : Stream σ) :
    s.message.Rests (s.withHost f).message := by
  unfold withHost
  split
  · exact hf _ _
  · exact .refl _

theorem rests_onResetStream (cfg : Config σ) (reason : PoolFailureReason) (s : Stream σ) :
    s.message.Rests (s.onResetStream cfg reason).message := by
  have hreply : s.message.Rests (s.resetReply cfg reason).message := by
    cases reason
    case overflow => exact rests_sendLocalReply _ _ _ _
    all_goals exact rests_withHost (fun _ _ => rests_sendLocalReply _ _ _ _) s
  unfold onResetStream
  split
  · exact .refl _
  · split
    · exact .refl _
    · dsimp only
      split
      · exact hreply
      · exact hreply

theorem rests_onUpstreamEvent (cfg : Config σ) (event : ConnectionEvent) (s : Stream σ) :
    s.message.Rests (s.onUpstreamEvent cfg event).message := by
  unfold onUpstreamEvent
  split
  · exact .refl _
  · split_ifs
    · exact .refl _
    · exact .refl _
    · cases event <;> exact rests_onResetStream _ _ _

theorem rests_upstreamClosed (cfg : Config σ) (event : ConnectionEvent) (s : Stream σ) :
    s.message.Rests (s.upstreamClosed cfg event).message :=
  (rests_onRequest _ s (by exact fun _ h => h)).trans (rests_onUpstreamEvent _ _ _)

theorem rests_resetUpstreamStream (cfg : Config σ) (s : Stream σ) :
    s.message.Rests (s.resetUpstreamStream cfg).message := by
  unfold resetUpstreamStream
  split
  · exact .refl _
  rename_i request hrequest
  refine (rests_onRequest (fun r => { r with streamReset := true }) s
    (by exact fun _ h => h)).trans ?_
  generalize s.onRequest (fun r => { r with streamReset := true }) = t
  have hcancel : t.message.Rests (t.cancelHandle request).message := by
    unfold cancelHandle
    split
    · exact (rests_onRouter _ (t.assert request.connData.isNone "ASSERT(!conn_data_)")
        (by exact fun _ => rfl)).trans (rests_onRequest _ _ (by rintro _ ⟨⟩))
    · exact .refl _
  refine hcancel.trans ?_
  generalize t.cancelHandle request = u
  unfold closeConnection
  split
  · refine Rests.trans ?_ (rests_onRequest _ _ (by exact fun _ h => h))
    unfold closeUpstream
    split
    · exact (rests_onRouter _ u (by exact fun _ => rfl)).trans (rests_onUpstreamEvent _ _ _)
    · exact rests_onRouter _ u (by exact fun _ => rfl)
  · exact .refl _

theorem rests_cleanup (s : Stream σ) : s.message.Rests s.cleanup.message :=
  ⟨rfl, rfl, id, by rintro ⟨⟩, by rintro ⟨⟩, id⟩

theorem rests_onResponseComplete (s : Stream σ) : s.message.Rests s.onResponseComplete.message :=
  (rests_onRequest (fun r => { r with responseComplete := true, connData := none }) s
    (by exact fun _ h => h)).trans (rests_onRouter _ _ (by exact fun _ => rfl))

theorem rests_encodeData (s : Stream σ) : s.message.Rests s.encodeData.message := by
  unfold encodeData
  split
  · exact .refl _
  · dsimp only
    rename_i request _
    exact (rests_onRequest _ ((s.assert request.connData.isSome "ASSERT(conn_data_)").assert
      (!request.connPoolHandle) "ASSERT(!conn_pool_handle_)") (by exact fun _ h => h)).trans
        (rests_onRouter _ _ (by exact fun _ => rfl))

/-- Once the pool has called back the handle is gone. -/
theorem rests_onPoolReadyConnection (host : Host) (leftover : Bytes) (s : Stream σ) :
    s.message.Rests (s.onPoolReadyConnection host leftover).message ∧
      (s.onPoolReadyConnection host leftover).message.pooling = false := by
  refine ⟨(rests_onRequest _ s (by exact fun _ h => h)).trans
    (rests_onRequest _ _ (by rintro _ ⟨⟩)), ?_⟩
  unfold ActiveMessage.pooling onPoolReadyConnection onUpstreamHostSelected onRequest onRouter
    onMessage
  cases hr : s.message.router.upstreamRequest <;> simp [hr]

theorem rests_onPoolFailureReset (cfg : Config σ) (reason : PoolFailureReason) (host : Host)
    (s : Stream σ) : s.message.Rests (s.onPoolFailureReset cfg reason host).message ∧
      (s.onPoolFailureReset cfg reason host).message.pooling = false := by
  have hhandle : (s.onRequest fun r => { r with connPoolHandle := false }).message.pooling =
    false := by
    unfold ActiveMessage.pooling onRequest onRouter onMessage
    cases hr : s.message.router.upstreamRequest <;> simp [hr]
  have hset := rests_onRequest (fun r => { r with connPoolHandle := false }) s (by rintro _ ⟨⟩)
  unfold onPoolFailureReset
  dsimp only
  generalize s.onRequest (fun r => { r with connPoolHandle := false }) = t at hhandle hset ⊢
  have hreset := (rests_onRequest (fun r => { r with upstreamHost := some host }) t
    (by exact fun _ h => h)).trans
    (rests_onResetStream cfg reason (t.onUpstreamHostSelected host))
  have hrest := hreset.trans (rests_onRouter (fun r => { r with upstreamRequestBuffer := [] })
    ((t.onUpstreamHostSelected host).onResetStream cfg reason) (by exact fun _ => rfl))
  exact ⟨hset.trans hrest, Bool.eq_false_iff.mpr fun hp => by
    rw [hrest.pooling hp] at hhandle
    cases hhandle⟩

theorem rests_destroy (cfg : Config σ) (s : Stream σ) :
    s.message.Rests (s.destroy cfg).message := by
  have hrouter : ∀ t : Stream σ, t.message.Rests (t.routerOnDestroy cfg).message := by
    intro t
    unfold routerOnDestroy
    split
    · exact (rests_resetUpstreamStream _ _).trans (rests_cleanup _)
    · exact rests_cleanup _
  unfold destroy
  dsimp only
  split
  · exact (hrouter (s.onDownstream (Downstream.dec .requestActive))).trans
      ⟨rfl, rfl, id, id, id, id⟩
  · exact ⟨rfl, rfl, id, id, id, id⟩

theorem rests_continueEncoding (cfg : Config σ) (position : ℕ) (s : Stream σ) :
    s.message.Rests (s.continueEncoding cfg position).message :=
  .of_decoding (view_continueEncoding blind_decoding _ _ _) (quiet_continueEncoding _ _ _).sent

theorem rests_finalizeRequest (s : Stream σ) : s.message.Rests s.finalizeRequest.message := by
  have hcount : ∀ (metadata : Metadata) (t : Stream σ),
      (t.countRequest metadata).message = t.message := by
    intro metadata t
    unfold countRequest
    split <;> rfl
  unfold finalizeRequest
  dsimp only
  split
  · exact ⟨rfl, rfl, id, id, id, id⟩
  · split
    · exact (congrArg _ (hcount _ _)).mpr ⟨rfl, rfl, id, id, id, id⟩
    · rw [hcount]
      exact ⟨rfl, rfl, id, id, id, id⟩

/-- Handling data of the upstream up to its status. -/
theorem rests_upstreamData (cfg : Config σ) (data : Bytes) (s : Stream σ) :
    s.message.Rests ((s.startResponse cfg).upstreamData cfg data).2.2.message := by
  have hstart : s.message.Rests (s.startResponse cfg).message := by
    unfold startResponse
    dsimp only
    split
    · exact .refl _
    · refine Rests.trans ?_ (rests_onRequest _ _ (by exact fun _ h => h))
      exact .of_decoding (view_startUpstreamResponse blind_decoding _ _)
        (quiet_startUpstreamResponse _ _).sent
  refine hstart.trans (.of_decoding (view_upstreamData blind_decoding _ _ _) fun hs => ?_)
  refine (upstreamData_quiet cfg data _).sent ?_
  have hwritten := responseDecoderOnData_written cfg data s
  split at hwritten
  · exact hwritten.sent hs
  · exact hwritten.sent hs

theorem rests_onUpstreamData (cfg : Config σ) (data : Bytes) (endStream : Bool) (s : Stream σ) :
    s.message.Rests (s.onUpstreamData cfg data endStream).message := by
  have hdata := rests_upstreamData cfg data s
  unfold onUpstreamData
  split
  · exact .refl _
  generalize (s.startResponse cfg).upstreamData cfg data = r at hdata ⊢
  obtain ⟨rest, status, t⟩ := r
  have hleave := hdata.trans (rests_onRequest (fun r =>
    { r with connData := r.connData.map fun c => { c with buffer := rest } }) t
    (by exact fun _ h => h))
  have hmore : s.message.Rests (if endStream = true then
      ((t.leaveUpstreamData rest).onResetStream cfg
        .remoteConnectionFailure).onResponseComplete.cleanup
      else t.leaveUpstreamData rest).message := by
    split
    · exact hleave.trans ((rests_onResetStream _ _ _).trans
        ((rests_onResponseComplete _).trans (rests_cleanup _)))
    · exact hleave
  cases status with
  | complete => exact hleave.trans ((rests_onResponseComplete _).trans (rests_cleanup _))
  | reset => exact hleave.trans (rests_resetUpstreamStream _ _)
  | moreData => exact hmore
  | retry => exact hmore

end Stream

/-! ## Running the filters -/

/-- At most one filter of the chain is the router. -/
def Config.OneRouter (cfg : Config σ) : Prop :=
  cfg.decoderFilters.countP Filter.isRouter ≤ 1

instance (cfg : Config σ) : Decidable cfg.OneRouter :=
  inferInstanceAs (Decidable (_ ≤ _))

theorem Config.OneRouter.position_eq {cfg : Config σ} (h : cfg.OneRouter) {position : ℕ}
    (hposition : cfg.decoderFilters[position]?.any Filter.isRouter = true) :
    position = ConnectionManager.routerPosition cfg := by
  obtain ⟨f, hf, hrouter⟩ := (Option.any_eq_true _ _).mp hposition
  obtain ⟨hlt, rfl⟩ := List.getElem?_eq_some_iff.mp hf
  have hle : ConnectionManager.routerPosition cfg ≤ position := by
    by_contra hne
    have hnot := List.not_of_lt_findIdx (Nat.not_le.mp hne)
    cases hrouter.symm.trans hnot
  rcases Nat.lt_or_eq_of_le hle with hless | heq
  · exfalso
    have hfirst := @List.findIdx_getElem _ Filter.isRouter cfg.decoderFilters
      (Nat.lt_trans hless hlt)
    have hbefore : 0 < (cfg.decoderFilters.take position).countP Filter.isRouter :=
      List.countP_pos_iff.mpr ⟨_, List.mem_take_iff_getElem.mpr
        ⟨_, Nat.lt_min.mpr ⟨hless, Nat.lt_trans hless hlt⟩, rfl⟩, hfirst⟩
    have hafter : 0 < (cfg.decoderFilters.drop position).countP Filter.isRouter :=
      List.countP_pos_iff.mpr ⟨_, List.mem_drop_iff_getElem.mpr ⟨0, by simpa using hlt, rfl⟩,
        by simpa using hrouter⟩
    have hcount := h
    unfold OneRouter at hcount
    rw [← List.take_append_drop position cfg.decoderFilters, List.countP_append] at hcount
    omega
  · exact heq.symm

namespace ActiveMessage

/-- The decoder filters have been called once each, in the order of the chain, and all of them if
the chain has been gone through without a local reply. -/
structure InOrder (cfg : Config σ) (m : ActiveMessage σ) : Prop where
  calls : m.decoderCalls = List.range m.decoderCalls.length
  le : m.decoderCalls.length ≤ cfg.decoderFilters.length
  through : m.filterAction = false → m.localResponseSent = false →
    m.decoderCalls.length = cfg.decoderFilters.length

/-- A message that holds a handle was stopped by the router, which has taken its bytes. -/
def Held (cfg : Config σ) (m : ActiveMessage σ) : Prop :=
  m.pooling = true → m.filterAction = true ∧
    m.decoderCalls.getLast? = some (ConnectionManager.routerPosition cfg) ∧ m.unconsumed = []

/-- From `m` to `m'` the chain has gone on behind the filter at a position : the next filter has
been called next, or the chain has come to its end. -/
def GoesOn (cfg : Config σ) (position : ℕ) (m m' : ActiveMessage σ) : Prop :=
  (position + 1 < cfg.decoderFilters.length →
    m.decoderCalls ++ [position + 1] <+: m'.decoderCalls) ∧
  (cfg.decoderFilters.length ≤ position + 1 →
    m'.decoderCalls = m.decoderCalls ∧ m'.filterAction = false)

instance (cfg : Config σ) (position : ℕ) (m m' : ActiveMessage σ) :
    Decidable (GoesOn cfg position m m') :=
  inferInstanceAs (Decidable ((_ → _) ∧ (_ → _)))

theorem GoesOn.rests {cfg : Config σ} {position : ℕ} {m₀ m m' m'' : ActiveMessage σ}
    (h : GoesOn cfg position m m') (h₀ : m.decoderCalls = m₀.decoderCalls) (hr : Rests m' m'') :
    GoesOn cfg position m₀ m'' := by
  unfold GoesOn at *
  rw [hr.calls, hr.filterAction, ← h₀]
  exact h

theorem InOrder.rests {cfg : Config σ} {m m' : ActiveMessage σ} (h : m.InOrder cfg)
    (hr : Rests m m') : m'.InOrder cfg := by
  obtain ⟨hcalls, hle, hthrough⟩ := h
  refine ⟨by rw [hr.calls]; exact hcalls, by rw [hr.calls]; exact hle, fun ha hs => ?_⟩
  rw [hr.calls]
  refine hthrough (hr.filterAction ▸ ha) (Bool.eq_false_iff.mpr fun hsent => ?_)
  rw [hr.sent hsent] at hs
  cases hs

theorem Held.rests {cfg : Config σ} {m m' : ActiveMessage σ} (h : m.Held cfg) (hr : Rests m m') :
    m'.Held cfg := by
  intro hp
  obtain ⟨haction, hlast, hunconsumed⟩ := h (hr.pooling hp)
  exact ⟨hr.filterAction.trans haction, by rw [hr.calls]; exact hlast, hr.unconsumed hunconsumed⟩

end ActiveMessage

namespace Stream

open ActiveMessage (Rests InOrder Held)

/-- What the other filters cannot change of a message. -/
theorem blind_running : ActiveMessage.Blind (σ := σ)
    (fun m => (m.decoderCalls, m.filterAction, m.pooling)) :=
  ⟨fun _ => rfl, fun _ _ => rfl, fun _ _ => rfl, fun _ _ => rfl, fun _ _ => rfl⟩

/-- A request holds a handle only while the pool has to connect first. -/
theorem startRequest_running (cfg : Config σ) (pool : PoolStart) (s : Stream σ) :
    (s.startRequest cfg pool).2.message.decoderCalls = s.message.decoderCalls ∧
      (s.startRequest cfg pool).2.message.filterAction = s.message.filterAction ∧
      ((s.startRequest cfg pool).2.message.pooling = true →
        (s.startRequest cfg pool).1 = .stopIteration ∧
        (s.startRequest cfg pool).2.message.unconsumed = s.message.unconsumed ∧
        (s.startRequest cfg pool).2.message.localResponseSent = s.message.localResponseSent) := by
  cases pool with
  | pending => exact ⟨rfl, rfl, fun _ => ⟨rfl, rfl, rfl⟩⟩
  | ready host leftover =>
    obtain ⟨hready, hnone⟩ := rests_onPoolReadyConnection host leftover s
    have hencode := (rests_onRequest (fun r => { r with requestComplete := true })
      (s.onPoolReadyConnection host leftover) (by exact fun _ h => h)).trans (rests_encodeData _)
    have hall := hready.trans hencode
    refine ⟨hall.calls, hall.filterAction, fun h => ?_⟩
    cases (hencode.pooling h).symm.trans hnone
  | overflow host =>
    obtain ⟨hreset, hnone⟩ := rests_onPoolFailureReset cfg .overflow host s
    exact ⟨hreset.calls, hreset.filterAction, fun h => by cases h.symm.trans hnone⟩

/-- The router takes a handle only if it stops the iteration, and then it has taken the bytes and
sent no reply. -/
theorem routerOnMessageDecoded_running (cfg : Config σ) {s : Stream σ}
    (hp : s.message.pooling = false) :
    (s.routerOnMessageDecoded cfg).2.message.decoderCalls = s.message.decoderCalls ∧
      (s.routerOnMessageDecoded cfg).2.message.filterAction = s.message.filterAction ∧
      ((s.routerOnMessageDecoded cfg).2.message.pooling = true →
        (s.routerOnMessageDecoded cfg).1 = .stopIteration ∧
        (s.routerOnMessageDecoded cfg).2.message.unconsumed = [] ∧
        (s.routerOnMessageDecoded cfg).2.message.localResponseSent =
          s.message.localResponseSent) := by
  have hroute : (s.route cfg).2.message.decoderCalls = s.message.decoderCalls ∧
      (s.route cfg).2.message.filterAction = s.message.filterAction ∧
      (s.route cfg).2.message.pooling = s.message.pooling ∧
      (s.route cfg).2.message.localResponseSent = s.message.localResponseSent := by
    unfold route
    split
    · exact ⟨rfl, rfl, rfl, rfl⟩
    · split <;> exact ⟨rfl, rfl, rfl, rfl⟩
  unfold routerOnMessageDecoded
  split
  · exact ⟨rfl, rfl, fun h => by cases h.symm.trans hp⟩
  rename_i metadata hmetadata
  generalize s.route cfg = r at hroute ⊢
  obtain ⟨entry, t⟩ := r
  obtain ⟨hcalls, haction, hpooling, hsent⟩ := hroute
  dsimp only at hcalls haction hpooling hsent
  have hreply : ∀ error, (t.sendLocalReply cfg error false).message.decoderCalls =
        s.message.decoderCalls ∧
      (t.sendLocalReply cfg error false).message.filterAction = s.message.filterAction ∧
      ((t.sendLocalReply cfg error false).message.pooling = true → False) := by
    intro error
    have hrest := rests_sendLocalReply cfg error false t
    refine ⟨hrest.calls.trans hcalls, hrest.filterAction.trans haction, fun h => ?_⟩
    cases (hrest.pooling h).symm.trans (hpooling.trans hp)
  cases entry with
  | none =>
    obtain ⟨hcalls', haction', hnone⟩ := hreply _
    exact ⟨hcalls', haction', fun h => (hnone h).elim⟩
  | some entry =>
    dsimp only
    split
    · obtain ⟨hcalls', haction', hnone⟩ := hreply _
      exact ⟨hcalls', haction', fun h => (hnone h).elim⟩
    · split
      · obtain ⟨hcalls', haction', hnone⟩ := hreply _
        exact ⟨hcalls', haction', fun h => (hnone h).elim⟩
      · split
        · obtain ⟨hcalls', haction', hnone⟩ := hreply _
          exact ⟨hcalls', haction', fun h => (hnone h).elim⟩
        · rename_i pool _
          obtain ⟨hcalls', haction', hstart⟩ := startRequest_running cfg pool
            (t.onMessage fun m =>
              { m with
                metadata := some { metadata with originMessage := [] }
                router := { m.router with
                  upstreamRequest := some {}
                  upstreamRequestBuffer :=
                    m.router.upstreamRequestBuffer ++ metadata.originMessage } })
          refine ⟨hcalls'.trans hcalls, haction'.trans haction, fun h => ?_⟩
          obtain ⟨hstatus, hunconsumed, hsent'⟩ := hstart h
          exact ⟨hstatus, hunconsumed, hsent'.trans hsent⟩

/-- A filter is called once, and only the router can take a handle. -/
theorem filterOnMessageDecoded_running (cfg : Config σ) (filter : Filter) (position : ℕ)
    {s : Stream σ} (hp : s.message.pooling = false) :
    (s.filterOnMessageDecoded cfg filter position).2.message.decoderCalls =
        s.message.decoderCalls ++ [position] ∧
      (s.filterOnMessageDecoded cfg filter position).2.message.filterAction =
        s.message.filterAction ∧
      ((s.filterOnMessageDecoded cfg filter position).2.message.pooling = true →
        filter.isRouter = true ∧
        (s.filterOnMessageDecoded cfg filter position).1 = .stopIteration ∧
        (s.filterOnMessageDecoded cfg filter position).2.message.unconsumed = [] ∧
        (s.filterOnMessageDecoded cfg filter position).2.message.localResponseSent =
          s.message.localResponseSent) := by
  unfold filterOnMessageDecoded
  cases filter with
  | router =>
    obtain ⟨hcalls, haction, hpooling⟩ := routerOnMessageDecoded_running cfg
      (s := s.onMessage fun m => { m with decoderCalls := m.decoderCalls ++ [position] }) hp
    exact ⟨hcalls, haction, fun h => ⟨rfl, hpooling h⟩⟩
  | custom react =>
    have hview := @view_acts _ _ _ blind_running cfg drainRequest (fun _ _ => rfl)
      (react s.message.id (s.message.decoderCalls.count position)
        (s.message.metadata.getD {})).acts
      (s.onMessage fun m => { m with decoderCalls := m.decoderCalls ++ [position] })
    obtain ⟨hcalls, hrest⟩ := Prod.mk.inj hview
    obtain ⟨haction, hpooling⟩ := Prod.mk.inj hrest
    refine ⟨hcalls, haction, fun h => ?_⟩
    have hnone : (s.onMessage fun m =>
        { m with decoderCalls := m.decoderCalls ++ [position] }).message.pooling = false := hp
    rw [← hpooling] at hnone
    cases h.symm.trans hnone

/-- Running the filters from a position on. -/
theorem decoderFilterLoop_running {cfg : Config σ} (hc : cfg.OneRouter) :
    ∀ (filters : List Filter) (position : ℕ) {s : Stream σ},
      filters = cfg.decoderFilters.drop position → s.message.filterAction = true →
      s.message.localResponseSent = false → s.message.pooling = false →
      (s.decoderFilterLoop cfg filters position).2.message.Held cfg ∧
      (filters ≠ [] → s.message.decoderCalls ++ [position] <+:
        (s.decoderFilterLoop cfg filters position).2.message.decoderCalls) ∧
      (s.message.decoderCalls = List.range position → position ≤ cfg.decoderFilters.length →
        (s.decoderFilterLoop cfg filters position).2.message.InOrder cfg)
  | [], position, s, hdrop, _, _, hp => by
    refine ⟨fun h => ?_, fun h => absurd rfl h, fun hcalls hle => ?_⟩
    · exact absurd (hp.symm.trans h) (by decide)
    · have hend : position = cfg.decoderFilters.length :=
        Nat.le_antisymm hle (List.drop_eq_nil_iff.mp hdrop.symm)
      have hlength : s.message.decoderCalls.length = position := by rw [hcalls, List.length_range]
      unfold decoderFilterLoop
      refine ⟨?_, ?_, fun _ _ => hlength.trans hend⟩
      · change s.message.decoderCalls = List.range s.message.decoderCalls.length
        rw [hlength]
        exact hcalls
      · exact Nat.le_of_eq (hlength.trans hend)
  | filter :: filters, position, s, hdrop, ha, hs, hp => by
    obtain ⟨hposition, hrest⟩ := getElem?_of_cons_eq_drop hdrop
    obtain ⟨hcalled, haction, hpooling⟩ := filterOnMessageDecoded_running cfg filter position hp
    unfold decoderFilterLoop
    generalize s.filterOnMessageDecoded cfg filter position = r at hcalled haction hpooling ⊢
    obtain ⟨status, t⟩ := r
    dsimp only at hcalled haction hpooling ⊢
    rw [ha] at haction
    rw [hs] at hpooling
    have hnext : s.message.decoderCalls = List.range position →
        position ≤ cfg.decoderFilters.length →
        t.message.decoderCalls = List.range (position + 1) ∧
          position + 1 ≤ cfg.decoderFilters.length := by
      intro hcalls _
      refine ⟨?_, (List.getElem?_eq_some_iff.mp hposition).1⟩
      rw [hcalled, hcalls, List.range_succ]
    have hinOrder : ∀ m : ActiveMessage σ, m.decoderCalls = t.message.decoderCalls →
        (m.filterAction = true ∨ m.localResponseSent = true) →
        s.message.decoderCalls = List.range position → position ≤ cfg.decoderFilters.length →
        m.InOrder cfg := by
      intro m hm hstopped hcalls hle
      obtain ⟨hcalls', hle'⟩ := hnext hcalls hle
      have hlength : m.decoderCalls.length = position + 1 := by
        rw [hm, hcalls', List.length_range]
      refine ⟨?_, hlength ▸ hle', fun ha' hs' => ?_⟩
      · rw [hlength, hm, hcalls']
      · rcases hstopped with h | h
        · cases h.symm.trans ha'
        · cases h.symm.trans hs'
    by_cases hsent : t.message.localResponseSent = true
    · rw [if_pos hsent]
      refine ⟨fun h => ?_, fun _ => ?_, hinOrder _ rfl (Or.inr hsent)⟩
      · cases hsent.symm.trans (hpooling h).2.2.2
      · exact hcalled ▸ List.prefix_refl _
    rw [if_neg hsent]
    by_cases hstatus : status ≠ .continue
    · rw [if_pos hstatus]
      refine ⟨fun h => ?_, fun _ => hcalled ▸ List.prefix_refl _, hinOrder _ rfl (Or.inl haction)⟩
      obtain ⟨hrouter, -, hunconsumed, -⟩ := hpooling h
      have hthere : position = ConnectionManager.routerPosition cfg :=
        hc.position_eq (by rw [hposition]; exact hrouter)
      refine ⟨haction, ?_, hunconsumed⟩
      rw [hcalled, List.getLast?_concat, hthere]
    · rw [if_neg hstatus]
      have hnone : t.message.pooling = false := by
        refine Bool.eq_false_iff.mpr fun h => ?_
        exact hstatus (by rw [(hpooling h).2.1]; decide)
      obtain ⟨hheld, hpre, hin⟩ := decoderFilterLoop_running hc filters (position + 1) hrest
        haction (by simpa using hsent) hnone
      refine ⟨hheld, fun _ => ?_, fun hcalls hle => ?_⟩
      · by_cases hnil : filters = []
        · subst hnil
          unfold decoderFilterLoop
          exact hcalled ▸ List.prefix_refl _
        · rw [← hcalled]
          exact (List.prefix_append _ _).trans (hpre hnil)
      · obtain ⟨hcalls', hle'⟩ := hnext hcalls hle
        exact hin hcalls' hle'

theorem applyDecoderFilters_running {cfg : Config σ} (hc : cfg.OneRouter) (start : ℕ)
    {s : Stream σ} (hp : s.message.pooling = false) :
    (s.applyDecoderFilters cfg start).2.message.Held cfg ∧
      (s.message.filterAction = true → s.message.localResponseSent = false →
        start < cfg.decoderFilters.length → s.message.decoderCalls ++ [start] <+:
          (s.applyDecoderFilters cfg start).2.message.decoderCalls) ∧
      (s.message.InOrder cfg → (s.message.localResponseSent = true ∨
          s.message.decoderCalls = List.range start ∧ start ≤ cfg.decoderFilters.length) →
        (s.applyDecoderFilters cfg start).2.message.InOrder cfg) := by
  have hheld : ∀ m : ActiveMessage σ, m.pooling = s.message.pooling → m.Held cfg := by
    intro m hm h
    cases h.symm.trans (hm.trans hp)
  unfold applyDecoderFilters
  by_cases ha : s.message.filterAction = false
  · rw [if_pos ha]
    exact ⟨hheld _ rfl, fun h => (by cases h.symm.trans ha), fun hin _ => hin⟩
  rw [if_neg ha]
  by_cases hs : s.message.localResponseSent = true
  · rw [if_pos hs]
    refine ⟨hheld _ rfl, fun _ h => (by cases hs.symm.trans h), fun hin _ => ?_⟩
    exact ⟨hin.calls, hin.le, fun _ h => (by cases hs.symm.trans h)⟩
  rw [if_neg hs]
  obtain ⟨hheld', hprefix, hin⟩ :=
    decoderFilterLoop_running hc (cfg.decoderFilters.drop start) start rfl (by simpa using ha)
      (by simpa using hs) hp
  refine ⟨hheld', fun _ _ hlt => hprefix ?_, fun _ hstart => ?_⟩
  · simpa [List.drop_eq_nil_iff] using hlt
  · obtain ⟨hcalls, hle⟩ := hstart.resolve_left hs
    exact hin hcalls hle

/-- A message that is decoded. -/
theorem onStreamDecoded_running {cfg : Config σ} (hc : cfg.OneRouter) (metadata : Metadata)
    {s : Stream σ} (hcalls : s.message.decoderCalls = []) (hp : s.message.pooling = false) :
    (s.onStreamDecoded cfg metadata).message.Held cfg ∧
      (s.onStreamDecoded cfg metadata).message.InOrder cfg := by
  obtain ⟨hheld, -, hin⟩ := applyDecoderFilters_running hc 0
    (s := (s.inc .requestDecodingSuccess).onMessage fun m =>
      { m with metadata := some metadata, filterAction := true }) hp
  have hcalls' : ((s.inc .requestDecodingSuccess).onMessage fun m =>
      { m with metadata := some metadata, filterAction := true }).message.decoderCalls = [] :=
        hcalls
  replace hin := hin ⟨by rw [hcalls']; rfl, by rw [hcalls']; exact Nat.zero_le _, by rintro ⟨⟩⟩
    (Or.inr ⟨hcalls', Nat.zero_le _⟩)
  unfold onStreamDecoded
  dsimp only
  rw [show commonPrefix none .canStartFromCurrent = 0 from rfl]
  generalize ((s.inc .requestDecodingSuccess).onMessage fun m =>
    { m with metadata := some metadata, filterAction := true }).applyDecoderFilters cfg 0 = r
    at hheld hin ⊢
  obtain ⟨_ | _ | _, t⟩ := r
  · exact ⟨hheld.rests (rests_finalizeRequest t), hin.rests (rests_finalizeRequest t)⟩
  · have hrest : t.message.Rests { t.message with pendingStreamDecoded := true } :=
      ⟨rfl, rfl, id, id, id, id⟩
    exact ⟨hheld.rests hrest, hin.rests hrest⟩
  · exact ⟨hheld.rests (rests_finalizeRequest t), hin.rests (rests_finalizeRequest t)⟩

theorem range_of_inOrder {cfg : Config σ} {m : ActiveMessage σ} (h : m.InOrder cfg) {position : ℕ}
    (hlast : m.decoderCalls.getLast? = some position) :
    m.decoderCalls = List.range (position + 1) := by
  have hcalls := h.calls
  rw [hcalls, List.getLast?_range] at hlast
  split at hlast
  · cases hlast
  · rename_i hne
    have hlength : m.decoderCalls.length = position + 1 := by
      have := Option.some.inj hlast
      omega
    rw [hcalls, hlength]

/-- Where the chain is taken up when the filter at a position goes on. -/
def resumption (position : ℕ) (metadata : Metadata) : ℕ :=
  commonPrefix (some position)
    (if metadata.originMessage.length ≠ 0 then .canStartFromCurrent else .alwaysStartFromNext)

theorem resumption_of_nil (position : ℕ) {metadata : Metadata}
    (h : metadata.originMessage = []) : resumption position metadata = position + 1 := by
  rw [resumption, if_neg (by simp [h])]
  rfl

theorem resumption_of_ne_nil (position : ℕ) {metadata : Metadata}
    (h : metadata.originMessage ≠ []) : resumption position metadata = position := by
  rw [resumption, if_pos (by simpa using h)]
  rfl

/-- What goes on is the run of the filters. -/
theorem rests_continueDecoding (cfg : Config σ) (position : ℕ) {s : Stream σ}
    {metadata : Metadata} (h : s.message.metadata = some metadata) :
    (s.applyDecoderFilters cfg (resumption position metadata)).2.message.Rests
      (s.continueDecoding cfg position).2.message := by
  unfold continueDecoding resumption
  rw [h]
  dsimp only
  generalize s.applyDecoderFilters cfg _ = r
  obtain ⟨_ | _ | _, t⟩ := r
  · dsimp only
    split
    · exact rests_finalizeRequest t
    · exact .refl _
  · exact .refl _
  · exact .refl _

/-- A message goes on from the filter that was called last. -/
theorem continueDecoding_running {cfg : Config σ} (hc : cfg.OneRouter) {position : ℕ}
    {s : Stream σ} (hp : s.message.pooling = false) :
    (s.continueDecoding cfg position).2.message.Held cfg ∧
      (s.message.unconsumed ≠ [] → s.message.filterAction = true →
        s.message.localResponseSent = false → position < cfg.decoderFilters.length →
        s.message.decoderCalls ++ [position] <+:
          (s.continueDecoding cfg position).2.message.decoderCalls) ∧
      (s.message.InOrder cfg → s.message.decoderCalls.getLast? = some position →
        (s.message.unconsumed = [] ∨ s.message.localResponseSent = true) →
        (s.continueDecoding cfg position).2.message.InOrder cfg) := by
  cases hmetadata : s.message.metadata with
  | none =>
    unfold continueDecoding
    rw [hmetadata]
    refine ⟨fun h => ?_, fun h => ?_, fun hin _ _ => hin⟩
    · cases h.symm.trans hp
    · simp [ActiveMessage.unconsumed, hmetadata] at h
  | some metadata =>
    have hunconsumed : s.message.unconsumed = metadata.originMessage := by
      simp [ActiveMessage.unconsumed, hmetadata]
    have hrest := rests_continueDecoding cfg position hmetadata
    obtain ⟨hheld, hprefix, hin⟩ :=
      applyDecoderFilters_running hc (resumption position metadata) hp
    rw [hunconsumed]
    refine ⟨hheld.rests hrest, fun hne ha hs hlt => ?_, fun hino hlast hor => ?_⟩
    · rw [resumption_of_ne_nil position hne] at hprefix hrest
      rw [hrest.calls]
      exact hprefix ha hs hlt
    · refine (hin hino ?_).rests hrest
      rcases hor with hempty | hs
      · have hcalls := range_of_inOrder hino hlast
        have hle := hino.le
        rw [hcalls, List.length_range] at hle
        rw [resumption_of_nil position hempty]
        exact Or.inr ⟨hcalls, hle⟩
      · exact Or.inl hs

/-- A local reply is not taken back. -/
theorem applyDecoderFilters_sent (cfg : Config σ) (start : ℕ) {s : Stream σ}
    (h : s.message.localResponseSent = true) :
    (s.applyDecoderFilters cfg start).2.message.localResponseSent = true := by
  unfold applyDecoderFilters
  split
  · exact h
  · exact h

/-- Running the filters behind a position calls the next one, if there is one. -/
theorem applyDecoderFilters_goesOn {cfg : Config σ} (hc : cfg.OneRouter) {position : ℕ}
    {s : Stream σ} (hp : s.message.pooling = false) (ha : s.message.filterAction = true)
    (hs : s.message.localResponseSent = false) :
    s.message.GoesOn cfg position (s.applyDecoderFilters cfg (position + 1)).2.message := by
  refine ⟨(applyDecoderFilters_running hc (position + 1) hp).2.1 ha hs, fun hend => ?_⟩
  have hnil : cfg.decoderFilters.drop (position + 1) = [] := List.drop_eq_nil_iff.mpr hend
  unfold applyDecoderFilters
  rw [if_neg (by simp [ha]), if_neg (by simp [hs]), hnil]
  exact ⟨rfl, rfl⟩

/-- A message whose bytes have been taken goes on behind the filter that goes on. -/
theorem continueDecoding_goesOn {cfg : Config σ} (hc : cfg.OneRouter) {position : ℕ}
    {s : Stream σ} (hm : s.message.metadata.isSome) (hp : s.message.pooling = false)
    (ha : s.message.filterAction = true)
    (hu : s.message.unconsumed = [] ∨ s.message.localResponseSent = true)
    (hsent : (s.continueDecoding cfg position).2.message.localResponseSent = false) :
    s.message.GoesOn cfg position (s.continueDecoding cfg position).2.message := by
  obtain ⟨metadata, hmetadata⟩ := Option.isSome_iff_exists.mp hm
  have hrest := rests_continueDecoding cfg position hmetadata
  have hs : s.message.localResponseSent = false := by
    refine Bool.eq_false_iff.mpr fun h => ?_
    cases (hrest.sent (applyDecoderFilters_sent cfg _ h)).symm.trans hsent
  have hempty : metadata.originMessage = [] := by
    have hunconsumed := hu.resolve_right (by simp [hs])
    simpa [ActiveMessage.unconsumed, hmetadata] using hunconsumed
  rw [resumption_of_nil position hempty] at hrest
  exact (applyDecoderFilters_goesOn hc hp ha hs).rests rfl hrest

end Stream

namespace ConnectionManager

/-! ## Runs -/

/-- No filter goes on while nobody has taken the bytes of its message, unless the message has a
local reply. -/
def Consumed (cm : ConnectionManager σ) : Event → Prop
  | .continueDecoding i _ =>
    (cm.messages i).unconsumed = [] ∨ (cm.messages i).localResponseSent = true
  | _ => True

/-- The message that goes on by an event, and the position of the filter behind which it does : a
filter calls `continueDecoding`, or the pool calls back and the router does. -/
def goesOn (cfg : Config σ) : Event → Option (ℕ × ℕ)
  | .continueDecoding i position => some (i, position)
  | .poolReady i _ _ => some (i, routerPosition cfg)
  | .poolFailure i reason _ => if reason = .overflow then none else some (i, routerPosition cfg)
  | .downstreamData _ _ | .downstreamClose _ | .upstreamData _ _ _ | .upstreamClose _ _
  | .continueEncoding _ _ | .release _ => none

/-- A message that goes on is taken up by the next filter of the chain, whatever has become of its
bytes, unless it has a local reply. -/
def Resumes (cfg : Config σ) (cm : ConnectionManager σ) (e : Event) : Prop :=
  ∀ p ∈ goesOn cfg e, ((cm.step cfg e).messages p.1).localResponseSent = false →
    (cm.messages p.1).GoesOn cfg p.2 ((cm.step cfg e).messages p.1)

instance (cfg : Config σ) (cm : ConnectionManager σ) (e : Event) :
    Decidable (cm.Resumes cfg e) :=
  inferInstanceAs (Decidable (∀ _ ∈ goesOn cfg e, _))

/-- What holds of every message, is not changed by the connection, and holds of a message that is
made, holds when the connection has read. -/
theorem dispatch_keeps {cfg : Config σ} {P : ConnectionManager σ → Prop}
    (hsame : ∀ cm cm' : ConnectionManager σ, cm'.messages = cm.messages →
      cm'.created = cm.created → P cm → P cm')
    (hnew : ∀ cm metadata, P cm → P (newStream cfg metadata cm)) {cm : ConnectionManager σ}
    (h : P cm) : P (cm.dispatch cfg) := by
  have hheartbeat : ∀ {cm cm' : ConnectionManager σ} metadata, P cm →
      cm'.messages = (cm.onHeartbeat cfg metadata).2.messages →
      cm'.created = (cm.onHeartbeat cfg metadata).2.created → P cm' := by
    intro cm cm' metadata h hm hc
    obtain ⟨ws, hcm, -⟩ := onHeartbeat_spec cfg metadata cm
    rw [hcm] at hm hc
    exact hsame cm cm' hm hc h
  have hturn : ∀ {cm cm' : ConnectionManager σ} {again : Bool}, P cm → Turn cfg cm cm' again →
      P cm' := by
    intro cm cm' again h hturn
    have hdecode : P (cm.decode cfg).1 := hsame cm _ rfl rfl h
    cases hturn with
    | wait => exact hdecode
    | error | panic => exact hsame (cm.decode cfg).1 _ rfl rfl hdecode
    | @stream metadata =>
      exact hsame ((cm.decode cfg).1.newStream cfg metadata) _ rfl rfl (hnew _ metadata hdecode)
    | heartbeat | heartbeatError | heartbeatPanic => exact hheartbeat _ hdecode rfl rfl
  exact dispatch_rule (fun h => h) hturn hturn h

/-- What holds of the messages there are. -/
def Everywhere (p : ActiveMessage σ → Prop) (cm : ConnectionManager σ) : Prop :=
  ∀ i < cm.created, p (cm.messages i)

theorem Everywhere.of_eq {p : ActiveMessage σ → Prop} {cm cm' : ConnectionManager σ}
    (h : cm.Everywhere p) (hm : cm'.messages = cm.messages) (hc : cm'.created = cm.created) :
    cm'.Everywhere p := by
  intro i hi
  rw [hm]
  exact h i (hc ▸ hi)

theorem Everywhere.setStream {p : ActiveMessage σ → Prop} {cm : ConnectionManager σ}
    (h : cm.Everywhere p) {i : ℕ} {s : Stream σ} (hs : p s.message) :
    (cm.setStream i s).Everywhere p := by
  intro j hj
  by_cases hij : j = i
  · subst hij
    simpa [ConnectionManager.setStream] using hs
  · simpa [ConnectionManager.setStream, Function.update_of_ne hij] using h j hj

theorem Everywhere.newStream {p : ActiveMessage σ → Prop} {cfg : Config σ}
    (hp : ∀ (s : Stream σ) metadata, s.message.decoderCalls = [] →
      s.message.router.upstreamRequest = none → p (s.onStreamDecoded cfg metadata).message)
    (cm : ConnectionManager σ) (metadata : Metadata) (h : cm.Everywhere p) :
    (cm.newStream cfg metadata).Everywhere p := by
  rw [newStream_eq]
  intro j hj
  dsimp only at hj ⊢
  by_cases hij : j = cm.created
  · subst hij
    rw [Function.update_self]
    exact hp _ _ rfl rfl
  · rw [Function.update_of_ne hij]
    exact h j (by omega)

section Everywhere

variable {p : ActiveMessage σ → Prop} {cfg : Config σ}
  (hbirth : ∀ (s : Stream σ) metadata, s.message.decoderCalls = [] →
    s.message.router.upstreamRequest = none → p (s.onStreamDecoded cfg metadata).message)

include hbirth

theorem Everywhere.dispatch {cm : ConnectionManager σ} (h : cm.Everywhere p) :
    (cm.dispatch cfg).Everywhere p :=
  dispatch_keeps (P := fun cm => cm.Everywhere p) (fun _ _ hm hc h => h.of_eq hm hc)
    (fun cm metadata h => Everywhere.newStream hbirth cm metadata h) h

theorem Everywhere.continueDecoding {cm : ConnectionManager σ} (h : cm.Everywhere p) :
    (cm.continueDecoding cfg).Everywhere p := by
  have hgo : ({ cm with stopped := false } : ConnectionManager σ).Everywhere p := h
  obtain ⟨hm, hc⟩ := (continueDecoding_after cfg cm).messages
  exact (hgo.dispatch hbirth).of_eq hm hc

theorem Everywhere.onData {cm : ConnectionManager σ} (h : cm.Everywhere p) (data : Bytes)
    (endStream : Bool) : (cm.onData cfg data endStream).Everywhere p := by
  have hbuffer : ({ cm with requestBuffer := cm.requestBuffer ++ data } :
    ConnectionManager σ).Everywhere p := h
  obtain ⟨hm, hc⟩ := (onData_after cfg data endStream cm).messages
  exact (hbuffer.dispatch hbirth).of_eq hm hc

/-- A message goes on with its filters, and then the connection. -/
theorem Everywhere.continueMessage {cm : ConnectionManager σ} (h : cm.Everywhere p) {i position : ℕ}
    (hi : p ((cm.stream i).continueDecoding cfg position).2.message) :
    (cm.continueMessage cfg i position).Everywhere p := by
  unfold ConnectionManager.continueMessage
  generalize (cm.stream i).continueDecoding cfg position = r at hi ⊢
  obtain ⟨_ | _, s⟩ := r
  · exact h.setStream hi
  · exact (h.setStream hi).continueDecoding hbirth

end Everywhere

/-- A filter that has stopped the iteration is the last that was called, and not the router. -/
theorem of_pausedAt {cfg : Config σ} {m : ActiveMessage σ} {position : ℕ}
    (hpaused : pausedAt cfg.decoderFilters m.decoderCalls position = true) :
    m.decoderCalls.getLast? = some position ∧ position ≠ routerPosition cfg := by
  obtain ⟨hlast, hany⟩ := of_decide_eq_true hpaused
  refine ⟨hlast, ?_⟩
  rintro rfl
  obtain ⟨f, hf, hnot⟩ := (Option.any_eq_true _ _).mp hany
  obtain ⟨hlt, rfl⟩ := List.getElem?_eq_some_iff.mp hf
  have hfirst : cfg.decoderFilters[routerPosition cfg].isRouter = true :=
    List.findIdx_getElem (w := hlt)
  simp [hfirst] at hnot

/-- So its message holds no handle. -/
theorem pooling_of_pausedAt {cfg : Config σ} {m : ActiveMessage σ} (h : m.Held cfg) {position : ℕ}
    (hpaused : pausedAt cfg.decoderFilters m.decoderCalls position = true) : m.pooling = false := by
  obtain ⟨hlast, hne⟩ := of_pausedAt hpaused
  refine Bool.eq_false_iff.mpr fun hp => ?_
  obtain ⟨-, hrouter, -⟩ := h hp
  exact hne (Option.some.inj (hlast.symm.trans hrouter))

/-- What resting keeps, and what holds of a message that is made or goes on, every event keeps. -/
theorem everywhere_step {cfg : Config σ} {p : ActiveMessage σ → Prop}
    (hrests : ∀ {m m' : ActiveMessage σ}, p m → m.Rests m' → p m')
    (hbirth : ∀ (s : Stream σ) metadata, s.message.decoderCalls = [] →
      s.message.router.upstreamRequest = none → p (s.onStreamDecoded cfg metadata).message)
    {cm : ConnectionManager σ} {e : Event}
    (hcontinue : ∀ i position (s : Stream σ), i < cm.created → (e = .continueDecoding i position ∨
        position = routerPosition cfg ∧ cm.Pooling i) →
      (cm.messages i).Rests s.message → s.message.pooling = false →
      p (s.continueDecoding cfg position).2.message)
    (hheld : cm.Everywhere (·.Held cfg)) (h : cm.Everywhere p) (he : cm.Enabled cfg e) :
    (cm.step cfg e).Everywhere p := by
  have hpermitted := he.2
  have hself : ∀ {i : ℕ} {s : Stream σ}, i < cm.created → (cm.messages i).Rests s.message →
      (cm.setStream i s).Everywhere p := fun hi hr => h.setStream (hrests (h _ hi) hr)
  have hcall : ∀ {i : ℕ} {s : Stream σ}, i < cm.created → cm.Pooling i →
      (cm.messages i).Rests s.message → s.message.pooling = false →
      ((cm.setStream i s).continueMessage cfg i (routerPosition cfg)).Everywhere p := by
    intro i s hi hp hr hnone
    refine Everywhere.continueMessage hbirth (hself hi hr) ?_
    rw [stream_setStream]
    exact hcontinue i _ s hi (Or.inr ⟨rfl, hp⟩) hr hnone
  cases e with
  | downstreamData data endStream => exact Everywhere.onData hbirth h data endStream
  | downstreamClose event => exact h
  | poolReady i host leftover =>
    obtain ⟨hi, -, hp⟩ := hpermitted
    obtain ⟨hr, hnone⟩ := Stream.rests_onPoolReadyConnection host leftover (cm.stream i)
    have hgone := hcall hi hp hr hnone
    change (((cm.onStream i _).continueMessage cfg i _).onStream i _).Everywhere p
    have hcreated := (@silent_onPoolReady _ cfg _ _ hi host leftover).created
    refine hgone.setStream (hrests (hgone i (Nat.lt_of_lt_of_le hi hcreated)) ?_)
    · exact (Stream.rests_onRequest (fun r => { r with requestComplete := true })
        (stream i _) (by exact fun _ h => h)).trans
        (Stream.rests_encodeData _)
  | poolFailure i reason host =>
    obtain ⟨hi, -, hp⟩ := hpermitted
    obtain ⟨hr, hnone⟩ := Stream.rests_onPoolFailureReset cfg reason host (cm.stream i)
    change (onPoolFailure cfg i reason host cm).Everywhere p
    unfold onPoolFailure
    cases reason
    case overflow => exact hself hi hr
    all_goals exact hcall hi hp hr hnone
  | upstreamData i data endStream =>
    exact hself hpermitted.1 (Stream.rests_onUpstreamData _ _ _ (cm.stream i))
  | upstreamClose i event =>
      exact hself hpermitted.1 (Stream.rests_upstreamClosed _ _ (cm.stream i))
  | continueDecoding i position =>
    obtain ⟨hi, -, -, hpaused⟩ := hpermitted
    exact Everywhere.continueMessage hbirth h (hcontinue i position (cm.stream i) hi (Or.inl rfl)
      (.refl _) (pooling_of_pausedAt (hheld i hi) hpaused))
  | continueEncoding i position =>
    exact hself hpermitted.1 (Stream.rests_continueEncoding _ _ (cm.stream i))
  | release i => exact hself hpermitted.1 (Stream.rests_destroy _ (cm.stream i))

/-- A message that waits for the pool has been stopped by the router. -/
theorem held_step {cfg : Config σ} (hc : cfg.OneRouter) {cm : ConnectionManager σ} {e : Event}
    (h : cm.Everywhere (·.Held cfg)) (he : cm.Enabled cfg e) :
    (cm.step cfg e).Everywhere (·.Held cfg) :=
  everywhere_step (fun hm hr => hm.rests hr)
    (fun _ metadata hcalls hr => (Stream.onStreamDecoded_running hc metadata hcalls
      (ActiveMessage.pooling_of_none hr)).1)
    (fun _ _ _ _ _ _ hp => (Stream.continueDecoding_running hc hp).1) h h he

/-- A message that has been made is not changed by what the connection reads. -/
theorem messages_dispatch (cfg : Config σ) {cm : ConnectionManager σ} {i : ℕ}
    (hi : i < cm.created) : (cm.dispatch cfg).messages i = cm.messages i := by
  have hkept : i < (cm.dispatch cfg).created ∧ (cm.dispatch cfg).messages i = cm.messages i := by
    refine dispatch_keeps (P := fun cm' => i < cm'.created ∧ cm'.messages i = cm.messages i)
      (fun _ _ hm hcreated h => ⟨hcreated ▸ h.1, hm ▸ h.2⟩) (fun cm' metadata h => ?_) ⟨hi, rfl⟩
    rw [newStream_eq]
    refine ⟨Nat.lt_succ_of_lt h.1, ?_⟩
    dsimp only
    rw [Function.update_of_ne (Nat.ne_of_lt h.1)]
    exact h.2
  exact hkept.2

/-- A message goes on with its filters, and no other message does. -/
theorem messages_continueMessage {cfg : Config σ} {cm : ConnectionManager σ} {i j position : ℕ}
    (hi : i < cm.created) : (cm.continueMessage cfg j position).messages i =
      (cm.setStream j ((cm.stream j).continueDecoding cfg position).2).messages i := by
  unfold continueMessage
  generalize (cm.stream j).continueDecoding cfg position = r
  obtain ⟨_ | _, s⟩ := r
  · rfl
  · obtain ⟨hm, -⟩ := (continueDecoding_after cfg (cm.setStream j s)).messages
    dsimp only
    rw [hm]
    exact @messages_dispatch _ cfg { cm.setStream j s with stopped := false } i hi

theorem messages_continueMessage_self {cfg : Config σ} {cm : ConnectionManager σ} {i position : ℕ}
    (hi : i < cm.created) : (cm.continueMessage cfg i position).messages i =
      ((cm.stream i).continueDecoding cfg position).2.message := by
  rw [messages_continueMessage hi]
  exact Function.update_self _ _ _

/-- Messages whose filters have run in order stay so by an event exactly if it makes no filter
go on in front of bytes that nobody has taken. -/
theorem inOrder_step {cfg : Config σ} (hc : cfg.OneRouter) {cm : ConnectionManager σ} {e : Event}
    (hheld : cm.Everywhere (·.Held cfg)) (h : cm.Everywhere (·.InOrder cfg))
    (he : cm.Enabled cfg e) :
    (cm.step cfg e).Everywhere (·.InOrder cfg) ↔ cm.Consumed e := by
  constructor
  · intro hafter
    cases e with
    | continueDecoding i position =>
      obtain ⟨-, hi, -, haction, hpaused⟩ := he
      obtain ⟨hlast, hany⟩ := of_decide_eq_true hpaused
      by_contra hnot
      obtain ⟨hunconsumed, hsent⟩ := not_or.mp hnot
      obtain ⟨f, hf, -⟩ := (Option.any_eq_true _ _).mp hany
      obtain ⟨hlt, -⟩ := List.getElem?_eq_some_iff.mp hf
      obtain ⟨-, hpre, -⟩ := @Stream.continueDecoding_running _ _ hc position
        (cm.stream i) (pooling_of_pausedAt (hheld i hi) hpaused)
      have hagain := hpre hunconsumed haction (Bool.eq_false_iff.mpr hsent) hlt
      have hnow : i < (cm.continueMessage cfg i position).created :=
        Nat.lt_of_lt_of_le hi (silent_continueMessage cfg hi position).created
      have horder := hafter i hnow
      change ActiveMessage.InOrder cfg ((cm.continueMessage cfg i position).messages i) at horder
      rw [messages_continueMessage_self hi] at horder
      have hcalls := Stream.range_of_inOrder (h i hi) hlast
      have hrange := horder.calls
      rw [show (cm.stream i).message = cm.messages i from rfl, hcalls] at hagain
      have hlength : position + 1 <
          ((cm.stream i).continueDecoding cfg position).2.message.decoderCalls.length := by
        have hle := hagain.length_le
        rw [List.length_append, List.length_range] at hle
        exact hle
      have hget := hagain.getElem (i := position + 1) (by simp)
      rw [List.getElem_append_right (by simp)] at hget
      have hget' :
        ((cm.stream i).continueDecoding cfg position).2.message.decoderCalls[position + 1]?
          = some position := by
        rw [List.getElem?_eq_getElem hlength, ← hget]
        simp
      rw [hrange, List.getElem?_range hlength] at hget'
      exact absurd (Option.some.inj hget') (by omega)
    | _ => exact trivial
  · intro hconsumed
    refine everywhere_step (fun hm hr => hm.rests hr)
      (fun _ metadata hcalls hr => (Stream.onStreamDecoded_running hc metadata hcalls
        (ActiveMessage.pooling_of_none hr)).2)
      (fun i position s hi hor hr hp => ?_) hheld h he
    obtain ⟨-, -, hin⟩ := @Stream.continueDecoding_running _ _ hc position _ hp
    refine hin ((h i hi).rests hr) ?_ ?_
    · rw [hr.calls]
      rcases hor with rfl | ⟨rfl, hpooling⟩
      · obtain ⟨-, -, -, -, hpaused⟩ := he
        exact (of_decide_eq_true hpaused).1
      · exact (hheld i hi hpooling).2.1
    · rcases hor with rfl | ⟨rfl, hpooling⟩
      · exact hconsumed.imp hr.unconsumed hr.sent
      · exact Or.inl (hr.unconsumed (hheld i hi hpooling).2.2)

/-- What is known of the messages of a run whose filters have run in order. -/
structure Resuming (cfg : Config σ) (cm : ConnectionManager σ) : Prop where
  proper : Proper (fun _ => True) (fun _ => True) cm
  held : cm.Everywhere (·.Held cfg)
  inOrder : cm.Everywhere (·.InOrder cfg)

theorem Resuming.metadata {cfg : Config σ} {cm : ConnectionManager σ} (h : Resuming cfg cm) {i : ℕ}
    (hi : i < cm.created) : (cm.messages i).metadata.isSome := by
  obtain ⟨request, hrequest⟩ := h.proper.exists_request hi
  obtain ⟨-, originMessage, hmetadata⟩ := h.proper.request i request hrequest
  rw [hmetadata]
  rfl

theorem Resuming.step {cfg : Config σ} (hc : cfg.OneRouter) {cm : ConnectionManager σ} {e : Event}
    (h : Resuming cfg cm) (he : cm.Enabled cfg e) (hconsumed : cm.Consumed e) :
    Resuming cfg (cm.step cfg e) :=
  ⟨(OnCourse.step (course_created 0) cfg.codec.keeps_true ⟨h.proper, Nat.zero_le _⟩ he.2).proper,
    held_step hc h.held he, (inOrder_step hc h.held h.inOrder he).mpr hconsumed⟩

/-- A message that the pool calls back goes on behind the router. -/
theorem Resuming.calledBack {cfg : Config σ} (hc : cfg.OneRouter) {cm : ConnectionManager σ}
    (h : Resuming cfg cm) {i : ℕ} (hi : i < cm.created) (hpooling : cm.Pooling i) {s : Stream σ}
    (hacts : Stream.Acts cfg (cm.stream i) s) (hrest : (cm.messages i).Rests s.message)
    (hnone : s.message.pooling = false) {m : ActiveMessage σ}
    (hm : (((cm.setStream i s).continueMessage cfg i (routerPosition cfg)).messages i).Rests m)
    (hsent : m.localResponseSent = false) :
    (cm.messages i).GoesOn cfg (routerPosition cfg) m := by
  have hset : ((cm.setStream i s).continueMessage cfg i (routerPosition cfg)).messages i =
      (s.continueDecoding cfg (routerPosition cfg)).2.message := by
    rw [messages_continueMessage_self (by exact hi), stream_setStream]
  rw [hset] at hm
  obtain ⟨haction, -, hunconsumed⟩ := h.held i hi hpooling
  obtain ⟨metadata, hmetadata⟩ := Option.isSome_iff_exists.mp (h.metadata hi)
  obtain ⟨originMessage, hkept⟩ := hacts.still.metadata metadata hmetadata
  have hgo := @Stream.continueDecoding_goesOn _ _ hc (routerPosition cfg) s (by rw [hkept]; rfl)
    hnone (hrest.filterAction.trans haction) (Or.inl (hrest.unconsumed hunconsumed))
    (Bool.eq_false_iff.mpr fun hs => by cases (hm.sent hs).symm.trans hsent)
  exact hgo.rests hrest.calls hm

end ConnectionManager

end MetaProtocolProxy
