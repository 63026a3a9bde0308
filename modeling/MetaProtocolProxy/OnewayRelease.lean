import MetaProtocolProxy.FilterOrder
import MetaProtocolProxy.Oneway
import MetaProtocolProxy.UpstreamBytes

/-!
# The release of a oneway request

A oneway request is handed to deferred deletion when its bytes have been written, and its
destruction closes the connection that it still holds. It holds the connection until the upstream
ends the exchange : the router is not called again, so nothing else takes the connection from the
message (`written_step`), and the end of the exchange does (`not_written_of_severs`). So the release
of a completed oneway request leaves its connection alone exactly if the upstream has ended the
exchange between the write and the release (`oneway_kept_iff`).
-/

namespace MetaProtocolProxy

variable {σ : Type} {cfg : Config σ}

/-! ## Behind the router -/

namespace ActiveMessage

/-- The last filter that was called is the router, or one behind it. -/
def Behind (cfg : Config σ) (m : ActiveMessage σ) : Prop :=
  ∃ position, m.decoderCalls.getLast? = some position ∧
    ConnectionManager.routerPosition cfg ≤ position

/-- A message with an upstream request is behind its router. -/
def Routed (cfg : Config σ) (m : ActiveMessage σ) : Prop :=
  m.router.upstreamRequest.isSome → m.Behind cfg

theorem Behind.of_calls {m m' : ActiveMessage σ} (h : m.Behind cfg)
    (hcalls : m'.decoderCalls = m.decoderCalls) : m'.Behind cfg := by
  unfold Behind
  rw [hcalls]
  exact h

theorem Routed.rests {m m' : ActiveMessage σ} (h : m.Routed cfg) (hr : Rests m m') :
    m'.Routed cfg :=
  fun hrequest => (h (hr.request hrequest)).of_calls hr.calls

theorem blind_router : Blind (σ := σ) (fun m => m.router) :=
  ⟨fun _ => rfl, fun _ _ => rfl, fun _ _ => rfl, fun _ _ => rfl, fun _ _ => rfl⟩

end ActiveMessage

namespace Stream

open ActiveMessage (Routed blind_router)

/-- No filter but the router changes the router's state. -/
theorem router_custom (react : ℕ → ℕ → Metadata → Reaction) (position : ℕ) (s : Stream σ) :
    (s.filterOnMessageDecoded cfg (.custom react) position).2.message.router =
      s.message.router := by
  unfold filterOnMessageDecoded
  exact @view_acts _ _ _ blind_router cfg drainRequest (fun _ _ => rfl) _
    (s.onMessage fun m => { m with decoderCalls := m.decoderCalls ++ [position] })

/-- Behind the router the filters leave its state alone. -/
theorem router_decoderFilterLoop (hc : cfg.OneRouter) :
    ∀ (filters : List Filter) (position : ℕ) (s : Stream σ),
      filters = cfg.decoderFilters.drop position →
      ConnectionManager.routerPosition cfg < position →
      (s.decoderFilterLoop cfg filters position).2.message.router = s.message.router
  | [], _, _, _, _ => rfl
  | filter :: filters, position, s, hdrop, hlt => by
    obtain ⟨hposition, hrest⟩ := getElem?_of_cons_eq_drop hdrop
    have hfilter : (s.filterOnMessageDecoded cfg filter position).2.message.router =
        s.message.router := by
      cases filter with
      | router =>
        have hthere : position = ConnectionManager.routerPosition cfg :=
          hc.position_eq (by rw [hposition]; rfl)
        exact absurd hthere (Nat.ne_of_gt hlt)
      | custom react => exact router_custom react position s
    unfold decoderFilterLoop
    generalize s.filterOnMessageDecoded cfg filter position = r at hfilter ⊢
    obtain ⟨status, t⟩ := r
    dsimp only at hfilter ⊢
    split_ifs
    · exact hfilter
    · exact hfilter
    · exact (router_decoderFilterLoop hc filters (position + 1) t hrest
        (Nat.lt_succ_of_lt hlt)).trans hfilter

theorem router_applyDecoderFilters (hc : cfg.OneRouter) {start : ℕ}
    (hlt : ConnectionManager.routerPosition cfg < start) (s : Stream σ) :
    (s.applyDecoderFilters cfg start).2.message.router = s.message.router := by
  unfold applyDecoderFilters
  split_ifs
  · rfl
  · rfl
  · exact router_decoderFilterLoop hc _ start s rfl hlt

/-- Running the filters of a message, in front of its router or behind it. -/
theorem routed_decoderFilterLoop (hc : cfg.OneRouter) :
    ∀ (filters : List Filter) (position : ℕ) {s : Stream σ},
      filters = cfg.decoderFilters.drop position → s.message.pooling = false →
      s.message.localResponseSent = false → s.message.Routed cfg →
      (s.message.router.upstreamRequest.isSome →
        ConnectionManager.routerPosition cfg < position) →
      (s.decoderFilterLoop cfg filters position).2.message.Routed cfg
  | [], _, _, _, _, _, hr, _ => hr
  | filter :: filters, position, s, hdrop, hp, hs, hr, hbehind => by
    obtain ⟨hposition, hrest⟩ := getElem?_of_cons_eq_drop hdrop
    obtain ⟨hcalls, -, hpooling⟩ := filterOnMessageDecoded_running cfg filter position hp
    have hlt :
        (s.filterOnMessageDecoded cfg filter position).2.message.router.upstreamRequest.isSome →
          ConnectionManager.routerPosition cfg ≤ position := by
      cases filter with
      | router =>
        exact fun _ => Nat.le_of_eq (hc.position_eq (by rw [hposition]; rfl)).symm
      | custom react =>
        rw [router_custom]
        exact fun h => Nat.le_of_lt (hbehind h)
    unfold decoderFilterLoop
    generalize s.filterOnMessageDecoded cfg filter position = r at hcalls hpooling hlt ⊢
    obtain ⟨status, t⟩ := r
    dsimp only at hcalls hpooling hlt ⊢
    have hrouted : t.message.Routed cfg := fun h =>
      ⟨position, by rw [hcalls, List.getLast?_concat], hlt h⟩
    split_ifs with hsent hstatus
    · exact hrouted
    · exact hrouted
    · refine routed_decoderFilterLoop hc filters (position + 1) hrest ?_ (by simpa using hsent)
        hrouted fun h => Nat.lt_succ_of_le (hlt h)
      refine Bool.eq_false_iff.mpr fun h => hstatus ?_
      rw [(hpooling h).2.1]
      decide

theorem routed_applyDecoderFilters (hc : cfg.OneRouter) {start : ℕ} {s : Stream σ}
    (hp : s.message.pooling = false) (hr : s.message.Routed cfg)
    (hbehind : s.message.router.upstreamRequest.isSome →
      ConnectionManager.routerPosition cfg < start) :
    (s.applyDecoderFilters cfg start).2.message.Routed cfg := by
  unfold applyDecoderFilters
  split_ifs with haction hsent
  · exact hr
  · exact hr
  · exact routed_decoderFilterLoop hc _ start rfl hp (by simpa using hsent) hr hbehind

theorem routed_onStreamDecoded (hc : cfg.OneRouter) (metadata : Metadata) {s : Stream σ}
    (hnone : s.message.router.upstreamRequest = none) :
    (s.onStreamDecoded cfg metadata).message.Routed cfg := by
  obtain ⟨t, ht⟩ : ∃ t, t = s.decoded metadata := ⟨_, rfl⟩
  have hnone' : t.message.router.upstreamRequest = none := by
    rw [ht]
    exact hnone
  have happly :
      (t.applyDecoderFilters cfg (commonPrefix none .canStartFromCurrent)).2.message.Routed cfg :=
    routed_applyDecoderFilters hc (ActiveMessage.pooling_of_none hnone')
      (fun h => by rw [hnone'] at h; cases h) (fun h => by rw [hnone'] at h; cases h)
  unfold decoded at ht
  unfold onStreamDecoded
  dsimp only
  rw [← ht]
  generalize t.applyDecoderFilters cfg (commonPrefix none .canStartFromCurrent) = r at happly ⊢
  obtain ⟨_ | _ | _, t⟩ := r
  · exact happly.rests (rests_finalizeRequest t)
  · exact happly
  · exact happly.rests (rests_finalizeRequest t)

/-- The chain is taken up behind the router. -/
def TakesUpBehind (cfg : Config σ) (position : ℕ) (s : Stream σ) : Prop :=
  ∀ metadata, s.message.metadata = some metadata →
    ConnectionManager.routerPosition cfg < resumption position metadata

theorem routed_continueDecoding (hc : cfg.OneRouter) {position : ℕ} {s : Stream σ}
    (hp : s.message.pooling = false) (hr : s.message.Routed cfg)
    (hbehind : s.message.router.upstreamRequest.isSome → s.TakesUpBehind cfg position) :
    (s.continueDecoding cfg position).2.message.Routed cfg := by
  cases hm : s.message.metadata with
  | none =>
    unfold continueDecoding
    rw [hm]
    exact hr
  | some metadata =>
    exact (routed_applyDecoderFilters hc hp hr fun h => hbehind h metadata hm).rests
      (rests_continueDecoding cfg position hm)

/-- A message that goes on behind its router keeps its connection. -/
theorem router_continueDecoding (hc : cfg.OneRouter) {position : ℕ} {s : Stream σ}
    (hbehind : s.TakesUpBehind cfg position) :
    (s.continueDecoding cfg position).2.message.router = s.message.router := by
  unfold continueDecoding
  split
  · rfl
  rename_i metadata hm
  dsimp only
  have hrouter := router_applyDecoderFilters hc (hbehind metadata hm) s
  unfold resumption at hrouter
  generalize s.applyDecoderFilters cfg _ = r at hrouter ⊢
  obtain ⟨_ | _ | _, t⟩ := r
  · dsimp only at hrouter ⊢
    split
    · rw [message_finalizeRequest]
      exact hrouter
    · exact hrouter
  · exact hrouter
  · exact hrouter

end Stream

namespace ActiveMessage

/-- The connection that is lent to a message. -/
def connection (m : ActiveMessage σ) : Option UpstreamConnection :=
  m.router.upstreamRequest.bind (·.connData)

/-- The message holds an open connection that its request has been written to. -/
def Written (m : ActiveMessage σ) : Prop :=
  m.connection.any (fun c => c.isOpen && !c.written.isEmpty) = true

instance (m : ActiveMessage σ) : Decidable m.Written :=
  inferInstanceAs (Decidable (_ = _))

theorem Written.exists {m : ActiveMessage σ} (h : m.Written) :
    ∃ r c, m.router.upstreamRequest = some r ∧ r.connData = some c ∧ c.isOpen = true ∧
      c.written ≠ [] := by
  obtain ⟨c, hc, hwritten⟩ := (Option.any_eq_true _ _).mp h
  obtain ⟨r, hr, hdata⟩ := Option.bind_eq_some_iff.mp hc
  obtain ⟨hopen, hne⟩ := (Bool.and_eq_true _ _).mp hwritten
  exact ⟨r, c, hr, hdata, hopen, by simpa using hne⟩

theorem Written.of_connData {m : ActiveMessage σ} {r : UpstreamRequest} {c : UpstreamConnection}
    (hr : m.router.upstreamRequest = some r) (hdata : r.connData = some c)
    (hopen : c.isOpen = true) (hne : c.written ≠ []) : m.Written := by
  simp [Written, connection, hr, hdata, hopen, hne]

theorem Written.of_router {m m' : ActiveMessage σ} (h : m.Written) (hr : m'.router = m.router) :
    m'.Written := by
  unfold Written connection
  rw [hr]
  exact h

theorem not_written_of_none {m : ActiveMessage σ} (h : m.connection = none) : ¬m.Written := by
  simp [Written, h]

end ActiveMessage

namespace Stream

open ActiveMessage (blind_router)

/-! ## What the upstream does to the connection -/

theorem router_onResetStream (reason : PoolFailureReason) (s : Stream σ) :
    (s.onResetStream cfg reason).message.router = s.message.router := by
  have hreply : (s.resetReply cfg reason).message.router = s.message.router := by
    have hhost : ∀ f : Host → Error, (s.withHost fun host s => s.sendLocalReply cfg (f host) false
        ).message.router = s.message.router := by
      intro f
      unfold withHost
      split
      · exact view_sendLocalReply blind_router _ _ _ _
      · rfl
    cases reason with
    | overflow => exact view_sendLocalReply blind_router _ _ _ _
    | _ => exact hhost _
  unfold onResetStream
  split
  · rfl
  · split
    · rfl
    · dsimp only
      split
      · exact hreply
      · exact hreply

theorem router_onUpstreamEvent (event : ConnectionEvent) (s : Stream σ) :
    (s.onUpstreamEvent cfg event).message.router = s.message.router := by
  unfold onUpstreamEvent
  split
  · rfl
  · split_ifs
    · rfl
    · rfl
    · cases event <;> exact router_onResetStream _ s

/-- A request is written to a connection that is open. -/
theorem written_encodeData {s : Stream σ} {r : UpstreamRequest} {c : UpstreamConnection}
    (hr : s.message.router.upstreamRequest = some r) (hdata : r.connData = some c)
    (hopen : c.isOpen = true) : s.onRequestComplete.encodeData.message.Written := by
  have hrequest : s.onRequestComplete.message.router.upstreamRequest =
      some { r with requestComplete := true } := by
    simp [onRequestComplete, onRequest, onRouter, onMessage, hr]
  unfold encodeData
  rw [hrequest]
  simp [ActiveMessage.Written, ActiveMessage.connection, onRequest, onRouter, onMessage, assert,
    onDownstream, hrequest, hdata, hopen]

/-- A message whose handle has failed keeps the connection that it holds. -/
theorem written_onPoolFailureReset (reason : PoolFailureReason) (host : Host) {s : Stream σ}
    (hw : s.message.Written) : (s.onPoolFailureReset cfg reason host).message.Written := by
  obtain ⟨r, c, hr, hdata, hopen, hne⟩ := hw.exists
  unfold onPoolFailureReset
  refine ActiveMessage.Written.of_connData (c := c) (r := { r with
    connPoolHandle := false, upstreamHost := some host }) ?_ hdata hopen hne
  dsimp only
  unfold onRouter onMessage
  dsimp only
  rw [router_onResetStream]
  simp [onUpstreamHostSelected, onRequest, onRouter, onMessage, hr]

/-- A connection that is closed is not open. -/
theorem not_written_upstreamClosed (event : ConnectionEvent) (s : Stream σ) :
    ¬(s.upstreamClosed cfg event).message.Written := by
  intro h
  obtain ⟨r, c, hr, hdata, hopen, -⟩ := h.exists
  unfold upstreamClosed at hr
  rw [router_onUpstreamEvent] at hr
  obtain ⟨r', -, rfl⟩ := Option.map_eq_some_iff.mp hr
  obtain ⟨c', -, rfl⟩ := Option.map_eq_some_iff.mp hdata
  cases hopen

theorem not_written_resetUpstreamStream (s : Stream σ) :
    ¬(s.resetUpstreamStream cfg).message.Written := by
  refine ActiveMessage.not_written_of_none ?_
  unfold resetUpstreamStream ActiveMessage.connection
  cases hr : s.message.router.upstreamRequest with
  | none => simp [panic, onDownstream, hr]
  | some request =>
    dsimp only
    unfold closeConnection
    cases hdata : request.connData with
    | none =>
      unfold cancelHandle
      by_cases hhandle : request.connPoolHandle = true <;>
        simp [hhandle, assert, onDownstream, onRequest, onRouter, onMessage, hr, hdata]
    | some connection => simp [onRequest, onRouter, onMessage]

/-- The end of an exchange takes the connection from the message. -/
theorem not_written_onUpstreamData {data : Bytes} {endStream : Bool} {s : Stream σ}
    (h : endStream = true ∨ ((s.startResponse cfg).upstreamData cfg data).2.1 = .complete ∨
      ((s.startResponse cfg).upstreamData cfg data).2.1 = .reset)
    (hsome : s.message.router.upstreamRequest.isSome) :
    ¬(s.onUpstreamData cfg data endStream).message.Written := by
  unfold onUpstreamData
  split
  · rename_i hnone
    rw [hnone] at hsome
    cases hsome
  generalize (s.startResponse cfg).upstreamData cfg data = result at h ⊢
  obtain ⟨rest, status, t⟩ := result
  have hcleanup : ∀ u : Stream σ, ¬u.cleanup.message.Written := fun u =>
    ActiveMessage.not_written_of_none rfl
  cases status with
  | complete => exact hcleanup _
  | reset => exact not_written_resetUpstreamStream _
  | moreData | retry =>
    obtain rfl : endStream = true := by simpa using h
    exact hcleanup _

/-- Data that does not end the exchange leaves the message its connection. -/
theorem remains_onUpstreamData {data : Bytes} {s : Stream σ} (hw : s.message.Written)
    (h : ¬(((s.startResponse cfg).upstreamData cfg data).2.1 = .complete ∨
      ((s.startResponse cfg).upstreamData cfg data).2.1 = .reset)) :
    (s.onUpstreamData cfg data false).message.Written := by
  obtain ⟨r, c, hr, hdata, hopen, hne⟩ := hw.exists
  obtain ⟨r', hrouter, hconn⟩ := router_upstreamData cfg data hr
  have hleave : ∀ (rest : Bytes) (t : Stream σ),
      t.message.router = { s.message.router with upstreamRequest := some r' } →
      (t.leaveUpstreamData rest).message.Written := by
    intro rest t ht
    refine ActiveMessage.Written.of_connData (c := { c with buffer := rest }) (r := { r' with
      connData := r'.connData.map fun c => { c with buffer := rest } }) ?_ ?_ hopen hne
    · simp [leaveUpstreamData, onRequest, onRouter, onMessage, ht]
    · simp [hconn, hdata]
  unfold onUpstreamData
  rw [hr]
  dsimp only
  generalize (s.startResponse cfg).upstreamData cfg data = result at h hrouter ⊢
  obtain ⟨rest, status, t⟩ := result
  cases status with
  | complete => exact absurd (Or.inl rfl) h
  | reset => exact absurd (Or.inr rfl) h
  | moreData => exact hleave rest t hrouter
  | retry => exact hleave rest t hrouter

end Stream

namespace ConnectionManager

/-- Where a message goes on, it goes on behind its router if it has an upstream request. -/
theorem takesUpBehind {cm : ConnectionManager σ} {e : Event}
    (hheld : cm.Everywhere (·.Held cfg)) (hrouted : cm.Everywhere (·.Routed cfg))
    (he : cm.Enabled cfg e) {i position : ℕ} {s : Stream σ} (hi : i < cm.created)
    (hor : e = .continueDecoding i position ∨ position = routerPosition cfg ∧ cm.Pooling i)
    (hr : (cm.messages i).Rests s.message) (hsome : s.message.router.upstreamRequest.isSome) :
    s.TakesUpBehind cfg position := by
  intro metadata hm
  rcases hor with rfl | ⟨rfl, hpooling⟩
  · obtain ⟨-, -, -, -, hpaused⟩ := he
    obtain ⟨hlast, hne⟩ := of_pausedAt hpaused
    obtain ⟨position', hlast', hle⟩ := hrouted i hi (hr.request hsome)
    obtain rfl : position = position' := Option.some.inj (hlast.symm.trans hlast')
    have hlt := Nat.lt_of_le_of_ne hle (Ne.symm hne)
    by_cases hempty : metadata.originMessage = []
    · rw [Stream.resumption_of_nil position hempty]
      exact Nat.lt_succ_of_lt hlt
    · rw [Stream.resumption_of_ne_nil position hempty]
      exact hlt
  · obtain ⟨-, -, hunconsumed⟩ := hheld i hi hpooling
    have hempty : metadata.originMessage = [] := by
      simpa [ActiveMessage.unconsumed, hm] using hr.unconsumed hunconsumed
    rw [Stream.resumption_of_nil _ hempty]
    exact Nat.lt_succ_self _

/-- Every message with an upstream request is behind its router. -/
theorem routed_step (hc : cfg.OneRouter) {cm : ConnectionManager σ} {e : Event}
    (hheld : cm.Everywhere (·.Held cfg)) (h : cm.Everywhere (·.Routed cfg))
    (he : cm.Enabled cfg e) : (cm.step cfg e).Everywhere (·.Routed cfg) :=
  everywhere_step (fun hm hr => hm.rests hr)
    (fun _ metadata _ hnone => Stream.routed_onStreamDecoded hc metadata hnone)
    (fun i _ _ hi hor hr hp => Stream.routed_continueDecoding hc hp ((h i hi).rests hr)
      (takesUpBehind hheld h he hi hor hr)) hheld h he

/-! ## The connection of a message -/

/-- The upstream ends the exchange of message `i` : it closes the connection, it ends its data, or
it sends what the response is complete with, or rejected for. -/
def Severs (cfg : Config σ) (i : ℕ) (cm : ConnectionManager σ) : Event → Prop
  | .upstreamClose j _ => j = i
  | .upstreamData j data endStream => j = i ∧ (endStream = true ∨
    cm.responseStatus cfg i data = .complete ∨ cm.responseStatus cfg i data = .reset)
  | .downstreamData _ _ | .downstreamClose _ | .poolReady _ _ _ | .poolFailure _ _ _
  | .continueDecoding _ _ | .continueEncoding _ _ | .release _ => False

end ConnectionManager

namespace ConnectionManager

/-! ## Steps -/

/-- A message that exists is changed by its own events only. -/
theorem messages_step {cm : ConnectionManager σ} {e : Event} {i : ℕ} (hi : i < cm.created)
    (he : e.message ≠ some i) : (cm.step cfg e).messages i = cm.messages i := by
  have hset : ∀ {cm' : ConnectionManager σ} {j : ℕ} {s : Stream σ}, j ≠ i →
      (cm'.setStream j s).messages i = cm'.messages i := fun hj =>
    Function.update_of_ne hj.symm _ _
  have hcontinue : ∀ {cm' : ConnectionManager σ} {j : ℕ} (position : ℕ), i < cm'.created →
      j ≠ i → (cm'.continueMessage cfg j position).messages i = cm'.messages i :=
    fun position hi' hj => (messages_continueMessage hi').trans (hset hj)
  cases e with
  | downstreamData data endStream =>
    obtain ⟨hm, -⟩ := (onData_after cfg data endStream cm).messages
    exact (congrFun hm i).trans
      (@messages_dispatch _ cfg { cm with requestBuffer := cm.requestBuffer ++ data } i hi)
  | downstreamClose event => rfl
  | poolReady j host leftover =>
    have hj : j ≠ i := fun h => he (by rw [h]; rfl)
    exact (hset hj).trans ((hcontinue _ (by exact hi) hj).trans (hset hj))
  | poolFailure j reason host =>
    have hj : j ≠ i := fun h => he (by rw [h]; rfl)
    unfold ConnectionManager.step onPoolFailure
    cases reason with
    | overflow => exact hset hj
    | _ => exact (hcontinue _ (by exact hi) hj).trans (hset hj)
  | continueDecoding j position =>
    exact hcontinue position hi fun h => he (by rw [h]; rfl)
  | upstreamData j _ _ | upstreamClose j _ | continueEncoding j _ | release j =>
    exact hset fun h => he (by rw [h]; rfl)

/-- The end of an exchange takes the connection from its message. -/
theorem not_written_of_severs {cm : ConnectionManager σ} {e : Event} (he : cm.Enabled cfg e)
    {i : ℕ} (h : cm.Severs cfg i e) : ¬((cm.step cfg e).messages i).Written := by
  cases e with
  | upstreamClose j event =>
    obtain rfl : j = i := h
    have hmessage : (cm.step cfg (.upstreamClose j event)).messages j =
        ((cm.stream j).upstreamClosed cfg event).message := Function.update_self _ _ _
    rw [hmessage]
    exact Stream.not_written_upstreamClosed event _
  | upstreamData j data endStream =>
    obtain ⟨rfl, hends⟩ := h
    obtain ⟨-, -, -, hwaiting⟩ := he
    have hsome : (cm.stream j).message.router.upstreamRequest.isSome := by
      obtain ⟨c, hc, -⟩ := (Option.any_eq_true _ _).mp hwaiting
      obtain ⟨r, hr, -⟩ := Option.bind_eq_some_iff.mp hc
      exact Option.isSome_iff_exists.mpr ⟨r, hr⟩
    have hmessage : (cm.step cfg (.upstreamData j data endStream)).messages j =
        ((cm.stream j).onUpstreamData cfg (cm.upstreamBuffer j ++ data) endStream).message :=
      Function.update_self _ _ _
    rw [hmessage]
    exact Stream.not_written_onUpstreamData hends hsome
  | downstreamData _ _ | downstreamClose _ | poolReady _ _ _ | poolFailure _ _ _
  | continueDecoding _ _ | continueEncoding _ _ | release _ => cases h

/-- Nothing else but the release of the message does. -/
theorem written_step (hc : cfg.OneRouter) {cm : ConnectionManager σ} {e : Event}
    (hheld : cm.Everywhere (·.Held cfg)) (hrouted : cm.Everywhere (·.Routed cfg))
    (he : cm.Enabled cfg e) {i : ℕ} (hi : i < cm.created) (hw : (cm.messages i).Written)
    (hsevers : ¬cm.Severs cfg i e) (hrelease : e ≠ .release i) :
    ((cm.step cfg e).messages i).Written := by
  by_cases hown : e.message = some i
  swap
  · rw [messages_step hi hown]
    exact hw
  obtain ⟨r, c, hr, hdata, hopen, hne⟩ := hw.exists
  have calledBack : ∀ {s : Stream σ}, cm.Pooling i → (cm.messages i).Rests s.message →
      s.message.router.upstreamRequest.isSome →
      (((cm.setStream i s).continueMessage cfg i (routerPosition cfg)).messages i).router =
        s.message.router := by
    intro s hpooling hrest hsome
    rw [messages_continueMessage_self (by exact hi), stream_setStream]
    exact Stream.router_continueDecoding hc
      (takesUpBehind hheld hrouted he hi (Or.inr ⟨rfl, hpooling⟩) hrest hsome)
  cases e with
  | downstreamData data endStream => cases hown
  | downstreamClose event => cases hown
  | upstreamClose j event => exact absurd (Option.some.inj hown) hsevers
  | release j => exact absurd (congrArg Event.release (Option.some.inj hown)) hrelease
  | upstreamData j data endStream =>
    obtain rfl : j = i := Option.some.inj hown
    obtain ⟨hend, hstatus⟩ := not_or.mp fun h => hsevers ⟨rfl, h⟩
    obtain rfl : endStream = false := by simpa using hend
    have hmessage : (cm.step cfg (.upstreamData j data false)).messages j =
        ((cm.stream j).onUpstreamData cfg (cm.upstreamBuffer j ++ data) false).message :=
      Function.update_self _ _ _
    rw [hmessage]
    exact Stream.remains_onUpstreamData hw hstatus
  | continueEncoding j position =>
    obtain rfl : j = i := Option.some.inj hown
    have hmessage : (cm.step cfg (.continueEncoding j position)).messages j =
        ((cm.stream j).continueEncoding cfg position).message := Function.update_self _ _ _
    rw [hmessage]
    exact hw.of_router (Stream.view_continueEncoding ActiveMessage.blind_router _ _ _)
  | continueDecoding j position =>
    obtain rfl : j = i := Option.some.inj hown
    change ((cm.continueMessage cfg j position).messages j).Written
    rw [messages_continueMessage_self hi]
    refine hw.of_router (Stream.router_continueDecoding (s := cm.stream j) hc ?_)
    refine takesUpBehind hheld hrouted he hi (Or.inl rfl) (.refl _) ?_
    exact Option.isSome_iff_exists.mpr ⟨r, hr⟩
  | poolReady j host leftover =>
    obtain rfl : j = i := Option.some.inj hown
    obtain ⟨-, -, -, hpooling⟩ := he
    obtain ⟨hrest, -⟩ := Stream.rests_onPoolReadyConnection host leftover (cm.stream j)
    obtain ⟨r', hr', hdata'⟩ : ∃ r', ((cm.stream j).onPoolReadyConnection host leftover
        ).message.router.upstreamRequest = some r' ∧
          r'.connData = some { buffer := leftover } := by
      refine ⟨{ r with
        upstreamHost := some host, connData := some { buffer := leftover }
        connPoolHandle := false }, ?_, rfl⟩
      simp [Stream.onPoolReadyConnection, Stream.onUpstreamHostSelected, Stream.onRequest,
        Stream.onRouter, Stream.onMessage, stream, hr]
    have hrouter := calledBack hpooling hrest (by rw [hr']; rfl)
    have hmessage : (cm.step cfg (.poolReady j host leftover)).messages j =
        ((((cm.onStream j (Stream.onPoolReadyConnection host leftover)).continueMessage cfg j
          (routerPosition cfg)).stream j).onRequestComplete.encodeData).message :=
      Function.update_self _ _ _
    rw [hmessage]
    exact Stream.written_encodeData ((congrArg _ hrouter).trans hr') hdata' rfl
  | poolFailure j reason host =>
    obtain rfl : j = i := Option.some.inj hown
    obtain ⟨-, -, -, hpooling⟩ := he
    obtain ⟨hrest, -⟩ := Stream.rests_onPoolFailureReset cfg reason host (cm.stream j)
    have hw' : ((cm.stream j).onPoolFailureReset cfg reason host).message.Written :=
      Stream.written_onPoolFailureReset reason host hw
    have hset : ((cm.setStream j ((cm.stream j).onPoolFailureReset cfg reason host)).messages
        j).Written := by
      rw [ConnectionManager.setStream]
      simpa using hw'
    unfold ConnectionManager.step onPoolFailure
    cases reason with
    | overflow => exact hset
    | _ =>
      obtain ⟨r', -, hr', -⟩ := hw'.exists
      exact hw'.of_router (calledBack hpooling hrest (by rw [hr']; rfl))

end ConnectionManager

namespace ConnectionManager

/-! ## Runs -/

theorem destroyed_setStream {cm : ConnectionManager σ} {i j : ℕ} {s : Stream σ}
    (h : (cm.messages i).destroyed = true)
    (hs : j = i → (cm.messages j).destroyed = true → s.message.destroyed = true) :
    ((cm.setStream j s).messages i).destroyed = true := by
  unfold ConnectionManager.setStream
  dsimp only
  by_cases hji : j = i
  · subst hji
    rw [Function.update_self]
    exact hs rfl h
  · rw [Function.update_of_ne (Ne.symm hji)]
    exact h

theorem unborn_setStream {cm : ConnectionManager σ} {n i : ℕ} {s : Stream σ}
    (h : ∀ j, n ≤ j → (cm.messages j).connection = none) (hi : i < n) :
    ∀ j, n ≤ j → ((cm.setStream i s).messages j).connection = none := by
  intro j hj
  unfold ConnectionManager.setStream
  dsimp only
  rw [Function.update_of_ne (by omega)]
  exact h j hj

/-- A message that has been destroyed stays so. -/
theorem course_destroyed {I : σ → Prop} {R : Metadata → Prop} (i : ℕ) : Course cfg I R
    fun cm : ConnectionManager σ => i < cm.created ∧ (cm.messages i).destroyed = true where
  read h _ _ _ := h
  go h := h
  halfClose h := h
  panic h _ := h
  deed _ h _ _ _ hd := ⟨h.1, destroyed_setStream h.2 fun _ => hd.still.destroyed.trans⟩
  newStream := by
    intro cm _ h metadata _ s _
    have hold : ∀ t : Stream σ,
        (((cm.newMessage metadata).setStream cm.created t).messages i).destroyed = true := by
      intro t
      refine destroyed_setStream (i := i) ?_ fun hj => absurd hj (Nat.ne_of_gt h.1)
      unfold newMessage
      dsimp only
      rw [Function.update_of_ne (Nat.ne_of_lt h.1)]
      exact h.2
    exact ⟨⟨Nat.lt_succ_of_lt h.1, hold _⟩, Nat.lt_succ_of_lt h.1, hold _⟩
  finalizeRequest _ h _ _ _ := by
    refine ⟨h.1, destroyed_setStream h.2 fun _ => ?_⟩
    rw [Stream.message_finalizeRequest]
    exact id
  destroy _ h _ _ _ _ _ := ⟨h.1, destroyed_setStream h.2 fun _ _ => rfl⟩
  onHeartbeat := by
    intro cm _ h metadata _
    obtain ⟨ws, hcm, -⟩ := onHeartbeat_spec cfg metadata cm
    rw [hcm]
    exact h
  onDecodingError h := h
  resetAndClose h := h
  closed h _ := h

/-- A message that does not exist yet holds nothing. -/
theorem course_unborn {I : σ → Prop} {R : Metadata → Prop} : Course cfg I R
    fun cm : ConnectionManager σ => ∀ j, cm.created ≤ j → (cm.messages j).connection = none where
  read h _ _ _ := h
  go h := h
  halfClose h := h
  panic h _ := h
  deed _ h _ hi _ _ := unborn_setStream h hi
  newStream := by
    intro cm _ h metadata _ s _
    have hold : ∀ j, cm.created + 1 ≤ j → ((cm.newMessage metadata).messages j).connection =
        none := by
      intro j hj
      unfold newMessage
      dsimp only
      rw [Function.update_of_ne (by omega)]
      exact h j (by omega)
    exact ⟨unborn_setStream hold (Nat.lt_succ_self _), unborn_setStream hold (Nat.lt_succ_self _)⟩
  finalizeRequest _ h _ hi _ := unborn_setStream h hi
  destroy _ h _ hi _ _ _ := unborn_setStream h hi
  onHeartbeat := by
    intro cm _ h metadata _
    obtain ⟨ws, hcm, -⟩ := onHeartbeat_spec cfg metadata cm
    rw [hcm]
    exact h
  onDecodingError h := h
  resetAndClose h := h
  closed h _ := h

/-- A oneway request that has been sent, with no error reply, no reset by the upstream, and the
client still there. -/
def Completed (i : ℕ) (cm : ConnectionManager σ) : Prop :=
  cm.downstream.state = .open ∧ (cm.messages i).metadata.any Metadata.isOneway = true ∧
    (cm.messages i).localResponseSent = false ∧
    (cm.messages i).router.upstreamRequest.any (·.streamReset) = false

/-- Releasing a completed oneway request closes no open connection it was written to. -/
def KeepsConnection (cfg : Config σ) (i : ℕ) (cm : ConnectionManager σ) : Prop :=
  cm.Completed i →
    ∀ c ∈ ((cm.step cfg (.release i)).messages i).router.closed.drop
        (cm.messages i).router.closed.length,
      c.isOpen = true → c.written = []

/-- Between the event that writes the request of message `i` to a connection, and the end of the
run, the upstream has ended the exchange. -/
def SeveredSince (cfg : Config σ) (i : ℕ) (es : List Event) : Prop :=
  ∀ es₁ e es₂, es = es₁ ++ e :: es₂ →
    ¬(((system cfg).run (new cfg) es₁).messages i).Written →
    (((system cfg).run (new cfg) (es₁ ++ [e])).messages i).Written →
      ∃ es₃ e' es₄, es₂ = es₃ ++ e' :: es₄ ∧
        ((system cfg).run (new cfg) (es₁ ++ e :: es₃)).Severs cfg i e'

/-- The destruction of a message closes the connection it holds. -/
theorem closed_destroy (hrouter : Filter.router ∈ cfg.decoderFilters) (s : Stream σ) :
    (s.destroy cfg).message.router.closed = s.message.router.closed ++
      (s.message.router.upstreamRequest.bind (·.connData)).toList := by
  have hany : (cfg.decoderFilters.any Filter.isRouter ||
      cfg.encoderFilters.any Filter.isRouter) = true := by
    rw [List.any_eq_true.mpr ⟨.router, hrouter, rfl⟩, Bool.true_or]
  unfold Stream.destroy
  dsimp only
  rw [if_pos hany]
  unfold Stream.routerOnDestroy
  cases hr : s.message.router.upstreamRequest with
  | none =>
    rw [show (s.onDownstream (Downstream.dec .requestActive)).message.router.upstreamRequest = none
      from hr]
    simp [Stream.cleanup, Stream.onRouter, Stream.onMessage, Stream.onDownstream]
  | some r =>
    rw [show (s.onDownstream (Downstream.dec .requestActive)).message.router.upstreamRequest =
      some r from hr]
    exact Stream.closed_resetUpstreamStream cfg
      (s := s.onDownstream (Downstream.dec .requestActive)) hr

/-- The release of a completed request keeps its connection if the message no longer holds it. -/
theorem keepsConnection_iff (hrouter : Filter.router ∈ cfg.decoderFilters) {i : ℕ}
    {cm : ConnectionManager σ} :
    cm.KeepsConnection cfg i ↔ (cm.Completed i → ¬(cm.messages i).Written) := by
  have hclosed : ((cm.step cfg (.release i)).messages i).router.closed =
      (cm.messages i).router.closed ++ (cm.messages i).connection.toList := by
    have hmessage : (cm.step cfg (.release i)).messages i =
        ((cm.stream i).destroy cfg).message := Function.update_self _ _ _
    rw [hmessage]
    exact closed_destroy hrouter (cm.stream i)
  unfold KeepsConnection ActiveMessage.Written
  rw [hclosed, List.drop_left]
  cases (cm.messages i).connection <;> simp

/-- What is known of the messages of a run. -/
theorem held_run (hc : cfg.OneRouter) {es : List Event} (h : (system cfg).Admissible (new cfg) es) :
    ((system cfg).run (new cfg) es).Everywhere (·.Held cfg) ∧
      ((system cfg).run (new cfg) es).Everywhere (·.Routed cfg) :=
  Transition.history (P := fun _ cm => cm.Everywhere (·.Held cfg) ∧ cm.Everywhere (·.Routed cfg))
    ⟨fun _ hi => absurd hi (Nat.not_lt_zero _), fun _ hi => absurd hi (Nat.not_lt_zero _)⟩
    (fun _ _ _ he hcm => ⟨held_step hc hcm.1 he, routed_step hc hcm.1 hcm.2 he⟩) es h

/-- A message that is released at the end of a run has not been released before. -/
theorem ne_release {es₁ es₂ : List Event} {e : Event} {i : ℕ}
    (h : (system cfg).Admissible (new cfg) (es₁ ++ e :: es₂ ++ [.release i])) :
    e ≠ .release i := by
  rintro rfl
  rw [List.append_assoc, Transition.admissible_append] at h
  obtain ⟨hes₁, hrelease, hes₂⟩ := h
  obtain ⟨hes₂, hagain, -⟩ := Transition.admissible_append.mp hes₂
  have hproper := ((course_created 0).run cfg.codec.keeps_true (Nat.zero_le _) hes₁).proper
  have hstep := OnCourse.step (course_created 0) cfg.codec.keeps_true ⟨hproper, Nat.zero_le _⟩
    hrelease.2
  have hdestroyed :
      ((((system cfg).run (new cfg) es₁).step cfg (.release i)).messages i).destroyed =
      true := by
    unfold step onStream ConnectionManager.setStream
    dsimp only
    rw [Function.update_self]
    unfold Stream.destroy
    rfl
  have hrun := OnCourse.run (course_destroyed i) cfg.codec.keeps_true
    ⟨hstep.proper, hrelease.2.1, hdestroyed⟩ hes₂
  cases hrun.prop.2.symm.trans hagain.2.2.1

/-- What the message of a run holds, it holds until the upstream ends the exchange. -/
theorem written_run (hc : cfg.OneRouter) {es₁ : List Event} {i : ℕ}
    (hw : (((system cfg).run (new cfg) es₁).messages i).Written) {es₂ : List Event}
    (h : (system cfg).Admissible (new cfg) (es₁ ++ es₂))
    (hquiet : ∀ es₃ e es₄, es₂ = es₃ ++ e :: es₄ → e ≠ .release i ∧
      ¬((system cfg).run (new cfg) (es₁ ++ es₃)).Severs cfg i e) :
    (((system cfg).run (new cfg) (es₁ ++ es₂)).messages i).Written := by
  induction es₂ using List.reverseRecOn with
  | nil => simpa using hw
  | append_singleton es₂ e ih =>
    rw [← List.append_assoc] at h ⊢
    obtain ⟨hes, he, -⟩ := Transition.admissible_append.mp h
    have hbefore := ih hes fun es₃ e' es₄ hes₂ =>
      hquiet es₃ e' (es₄ ++ [e]) (by rw [hes₂]; simp)
    have hi : i < ((system cfg).run (new cfg) (es₁ ++ es₂)).created := by
      by_contra hge
      have hunborn := (course_unborn.run cfg.codec.keeps_true (fun _ _ => rfl) hes).prop
      exact ActiveMessage.not_written_of_none (hunborn i (Nat.not_lt.mp hge)) hbefore
    obtain ⟨hheld, hrouted⟩ := held_run hc hes
    obtain ⟨hrelease, hsevers⟩ := hquiet es₂ e [] rfl
    rw [Transition.run_append]
    exact written_step hc hheld hrouted he hi hbefore hsevers hrelease

/-- For every chain of filters : the release of a completed oneway request leaves the connection
that it was written to alone exactly if the upstream has ended the exchange in between. -/
theorem oneway_kept_iff (hc : cfg.OneRouter) (hrouter : Filter.router ∈ cfg.decoderFilters)
    {es : List Event} {i : ℕ} (h : (system cfg).Admissible (new cfg) (es ++ [.release i])) :
    ((system cfg).run (new cfg) es).KeepsConnection cfg i ↔
      (((system cfg).run (new cfg) es).Completed i → SeveredSince cfg i es) := by
  rw [keepsConnection_iff hrouter]
  refine imp_congr_right fun _ => ⟨fun hnot es₁ e es₂ hes _ hw => ?_, fun hsevered hw => ?_⟩
  · by_contra hnone
    subst hes
    refine hnot ?_
    rw [List.append_cons es₁ e es₂] at h ⊢
    refine written_run hc hw (Transition.admissible_append.mp h).1 fun es₃ e' es₄ hes₂ =>
      ⟨?_, fun hsevers => hnone ⟨es₃, e', es₄, hes₂, ?_⟩⟩
    · refine @ne_release _ cfg (es₁ ++ [e] ++ es₃) es₄ e' i ?_
      rwa [List.append_assoc _ es₃, ← hes₂]
    · rwa [List.append_cons es₁ e es₃]
  · have hnew : ¬(((system cfg).run (new cfg) []).messages i).Written :=
      ActiveMessage.not_written_of_none rfl
    obtain ⟨es₁, e, es₂, rfl, hbefore, hsince⟩ := Transition.exists_since
      (P := fun cm : ConnectionManager σ => (cm.messages i).Written) hnew es hw
    obtain ⟨es₃, e', es₄, rfl, hsevers⟩ := hsevered es₁ e es₂ rfl hbefore (hsince [] es₂ rfl)
    have henabled : ((system cfg).run (new cfg) (es₁ ++ e :: es₃)).Enabled cfg e' := by
      have hes : es₁ ++ e :: (es₃ ++ e' :: es₄) = es₁ ++ e :: es₃ ++ e' :: es₄ := by simp
      rw [hes] at h
      exact (Transition.admissible_append.mp (Transition.admissible_append.mp h).1).2.1
    have hafter := hsince (es₃ ++ [e']) es₄ (by simp)
    have hes : es₁ ++ e :: (es₃ ++ [e']) = es₁ ++ e :: es₃ ++ [e'] := by simp
    rw [hes, Transition.run_append] at hafter
    exact not_written_of_severs henabled hsevers hafter

instance (cfg : Config σ) (i : ℕ) (cm : ConnectionManager σ) :
    Decidable (cm.KeepsConnection cfg i) :=
  inferInstanceAs (Decidable (_ ∧ _ ∧ _ ∧ _ → _))

/-- The upstream closes the connection before the request is released. -/
theorem oneway_kept_closed :
    ((system (DubboExample.config (some (.ready "host" [])))).run
        (new (DubboExample.config (some (.ready "host" []))))
        [.downstreamData (DubboExample.oneway 1) false, .upstreamClose 0 .remoteClose]
      ).KeepsConnection (DubboExample.config (some (.ready "host" []))) 0 ↔
    (((system (DubboExample.config (some (.ready "host" [])))).run
        (new (DubboExample.config (some (.ready "host" []))))
        [.downstreamData (DubboExample.oneway 1) false, .upstreamClose 0 .remoteClose]
      ).Completed 0 →
      SeveredSince (DubboExample.config (some (.ready "host" []))) 0
        [.downstreamData (DubboExample.oneway 1) false, .upstreamClose 0 .remoteClose]) :=
  oneway_kept_iff (by decide) List.mem_cons_self (by decide +kernel)

/-- A oneway request that is sent and released at once closes its connection. -/
theorem not_oneway_kept_sent :
    (system (DubboExample.config (some (.ready "host" [])))).Admissible
        (new (DubboExample.config (some (.ready "host" [])))) sent ∧
      ¬((system (DubboExample.config (some (.ready "host" [])))).run
        (new (DubboExample.config (some (.ready "host" []))))
        [.downstreamData (DubboExample.oneway 1) false]).KeepsConnection
          (DubboExample.config (some (.ready "host" []))) 0 := by
  decide +kernel

end ConnectionManager

end MetaProtocolProxy
