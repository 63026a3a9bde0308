import MetaProtocolProxy.Record

/-!
# What a message puts on record

Every function of a message keeps to a record of calls and local replies. The router sends one
local reply at most, a filter what its reaction says, and the filters behind a local reply
are not called (`proceeds_decoderFilterLoop`). A message that has a local reply gets another only
for a failure of its upstream (`Spares`).
-/

namespace MetaProtocolProxy

variable {σ : Type} {cfg : Config σ}

/-- The local reply that a callback asks for. -/
def FilterAct.reply : FilterAct → Option (Error × Bool)
  | .sendLocalReply error endStream => some (error, endStream)
  | .resetStream | .resetDownstreamConnection | .drainOriginMessage _ => none

/-- The local replies that leave the stream open have a text. -/
def Worded (rs : List (Error × Bool)) : Prop :=
  ∀ r ∈ rs, r.2 = false → r.1.message ≠ ""

/-- At most one local reply. -/
structure Single (rs : List (Error × Bool)) : Prop where
  length : rs.length ≤ 1
  worded : Worded rs

/-- A decoder filter that sends a local reply sends one. -/
def Config.RepliesOnce (cfg : Config σ) : Prop :=
  ∀ react, Filter.custom react ∈ cfg.decoderFilters → ∀ i earlier metadata,
    Single ((react i earlier metadata).acts.filterMap FilterAct.reply)

/-- The last decoder filter that was called for the message is the one that has sent the local
reply, to the request that the message has but for the bytes taken off it since. -/
def ActiveMessage.Rejected (cfg : Config σ) (m : ActiveMessage σ) : Prop :=
  ∃ (position : ℕ) (filter : Filter) (s : Stream σ), cfg.decoderFilters[position]? = some filter ∧
    s.message.localResponseSent = false ∧
    (s.filterOnMessageDecoded cfg filter position).2.message.localResponseSent = true ∧
    m.decoderCalls = s.message.decoderCalls ++ [position] ∧ m.id = s.message.id ∧
    ∀ metadata, s.message.metadata = some metadata →
      ∃ originMessage, m.metadata = some { metadata with originMessage }

namespace Stream

/-! ## What calls no filter and sends nothing -/

theorem proceeds_onRouter (f : Router → Router) (s : Stream σ) :
    Proceeds cfg s [] [] (s.onRouter f) :=
  .onMessage .refl (.of_eq rfl rfl rfl rfl rfl)

theorem proceeds_onRequest (f : UpstreamRequest → UpstreamRequest) (s : Stream σ) :
    Proceeds cfg s [] [] (s.onRequest f) :=
  proceeds_onRouter _ s

theorem proceeds_onResponseDecoder (f : ActiveResponseDecoder σ → ActiveResponseDecoder σ)
    (s : Stream σ) : Proceeds cfg s [] [] (s.onResponseDecoder f) :=
  .onMessage .refl (.of_eq rfl rfl rfl rfl rfl)

theorem proceeds_assert (condition : Bool) (site : String) (s : Stream σ) :
    Proceeds cfg s [] [] (s.assert condition site) := by
  cases condition with
  | false => exact Proceeds.refl.panic site
  | true => exact .refl

theorem proceeds_countRequest (metadata : Metadata) (s : Stream σ) :
    Proceeds cfg s [] [] (s.countRequest metadata) := by
  unfold countRequest
  split
  · exact .inc .refl (by decide)
  · exact .inc .refl (by decide)
  · exact .refl

theorem proceeds_cancelHandle (request : UpstreamRequest) (s : Stream σ) :
    Proceeds cfg s [] [] (s.cancelHandle request) := by
  unfold cancelHandle
  split
  · exact ((proceeds_assert _ _ s).then (proceeds_onRouter _ _)).then (proceeds_onRequest _ _)
  · exact .refl

/-- A request that is reset is not told of the close of its own connection, so it sends nothing. -/
theorem proceeds_resetUpstreamStream (cfg : Config σ) (s : Stream σ) :
    Proceeds cfg s [] [] (s.resetUpstreamStream cfg) := by
  unfold resetUpstreamStream
  cases hr : s.message.router.upstreamRequest with
  | none => exact Proceeds.refl.panic _
  | some request =>
    dsimp only
    have hreset : ((s.onRequest fun r => { r with streamReset := true }).cancelHandle
        request).message.router.upstreamRequest.all (·.streamReset) = true := by
      unfold cancelHandle
      split <;> simp [onRequest, onRouter, onMessage, assert, onDownstream, hr]
    have hcancel : Proceeds cfg s [] []
        ((s.onRequest fun r => { r with streamReset := true }).cancelHandle request) :=
      (proceeds_onRequest _ s).then (proceeds_cancelHandle request _)
    generalize (s.onRequest fun r => { r with streamReset := true }).cancelHandle request = t
      at hreset hcancel ⊢
    unfold closeConnection
    split
    · rename_i connection _
      rw [closeUpstream_of_streamReset cfg connection (s := t.onRouter fun r =>
        { r with closed := r.closed ++ [connection] }) hreset]
      exact (hcancel.then (proceeds_onRouter _ t)).then (proceeds_onRequest _ _)
    · exact hcancel

theorem proceeds_cleanup (s : Stream σ) : Proceeds cfg s [] [] s.cleanup :=
  proceeds_onRouter _ s

theorem proceeds_onResponseComplete (s : Stream σ) :
    Proceeds cfg s [] [] s.onResponseComplete := by
  unfold onResponseComplete
  exact (proceeds_onRequest _ s).then (proceeds_onRouter _ _)

theorem proceeds_encodeData (s : Stream σ) : Proceeds cfg s [] [] s.encodeData := by
  unfold encodeData
  split
  · exact Proceeds.refl.panic _
  · dsimp only
    exact (((proceeds_assert _ _ s).then (proceeds_assert _ _ _)).then
      (proceeds_onRequest _ _)).then (proceeds_onRouter _ _)

theorem proceeds_onPoolReadyConnection (host : Host) (leftover : Bytes) (s : Stream σ) :
    Proceeds cfg s [] [] (s.onPoolReadyConnection host leftover) :=
  (proceeds_onRequest _ s).then (proceeds_onRequest _ _)

theorem proceeds_routerOnDestroy (cfg : Config σ) (s : Stream σ) :
    Proceeds cfg s [] [] (s.routerOnDestroy cfg) := by
  unfold routerOnDestroy
  split
  · exact (proceeds_resetUpstreamStream cfg s).then (proceeds_cleanup _)
  · exact proceeds_cleanup s

theorem proceeds_destroy (cfg : Config σ) (s : Stream σ) :
    Proceeds cfg s [] [] (s.destroy cfg) := by
  have hdec : Proceeds cfg s [] [] (s.onDownstream (Downstream.dec .requestActive)) :=
    .dec .refl (by decide)
  unfold destroy
  dsimp only
  split
  · exact (hdec.then (proceeds_routerOnDestroy _ _)).onMessage (.of_eq rfl rfl rfl rfl rfl)
  · exact hdec.onMessage (.of_eq rfl rfl rfl rfl rfl)

theorem proceeds_routerOnMessageEncoded (s : Stream σ) :
    Proceeds cfg s [] [] s.routerOnMessageEncoded.2 := by
  unfold routerOnMessageEncoded withHost
  split
  · exact .refl
  · split
    · exact .refl
    · exact Proceeds.refl.panic _

theorem proceeds_startResponse (cfg : Config σ) (s : Stream σ) :
    Proceeds cfg s [] [] (s.startResponse cfg) := by
  have hassert : Proceeds cfg s [] []
      (s.assert (!s.message.router.upstreamRequest.any (·.responseComplete))
        "ASSERT(!upstream_request_->response_complete_)") := proceeds_assert _ _ s
  unfold startResponse
  dsimp only
  split
  · exact hassert
  · exact ((hassert.then (proceeds_assert _ _ _)).onMessage (.of_eq rfl rfl rfl rfl rfl)).then
      (proceeds_onRequest _ _)

theorem proceeds_countResponse (metadata : Metadata) (s : Stream σ) :
    Proceeds cfg s [] [] (s.countResponse metadata) := by
  have htwo : Proceeds cfg s [] [] ((s.inc .response).inc .responseDecodingSuccess) :=
    (Proceeds.refl.inc (by decide)).inc (by decide)
  have hlast : ∀ t : Stream σ, Proceeds cfg t [] [] (if metadata.responseStatus = .ok then
      t.inc .responseSuccess else t.inc .responseError) := by
    intro t
    split
    · exact .inc .refl (by decide)
    · exact .inc .refl (by decide)
  unfold countResponse
  dsimp only
  refine Proceeds.then ?_ (hlast _)
  split
  · exact htwo.inc (by decide)
  · exact htwo

theorem proceeds_responseDecoded (data : Bytes) (s : Stream σ) :
    Proceeds cfg s [] [] (s.responseDecoded data).2.2 := by
  have hcomplete : Proceeds cfg s [] []
      (s.onResponseDecoder fun d => { d with decoder := d.decoder.complete }) :=
    proceeds_onResponseDecoder _ s
  unfold responseDecoded
  dsimp only
  split
  · exact hcomplete.panic _
  · exact hcomplete.then (proceeds_assert _ _ _)

/-! ## The replies of the router -/

/-- At most one local reply, which has a text and leaves the stream open. -/
def Brief (rs : List (Error × Bool)) : Prop :=
  rs = [] ∨ ∃ error : Error, error.message ≠ "" ∧ rs = [(error, false)]

theorem Brief.single {rs : List (Error × Bool)} (h : Brief rs) : Single rs := by
  rcases h with rfl | ⟨error, he, rfl⟩
  · exact ⟨Nat.zero_le 1, by simp [Worded]⟩
  · exact ⟨Nat.le_refl 1, by simpa [Worded] using he⟩

/-- No response is waited for. -/
def Oneway (s : Stream σ) : Prop :=
  s.message.metadata.any (·.messageType = .oneway) = true

instance (s : Stream σ) : Decidable s.Oneway :=
  inferInstanceAs (Decidable (_ = _))

theorem Proceeds.oneway {s t : Stream σ} {cs : List ℕ} {rs : List (Error × Bool)}
    (h : Proceeds cfg s cs rs t) (hs : s.Oneway) : t.Oneway := by
  obtain ⟨metadata, hm, htype⟩ := (Option.any_eq_true _ _).mp hs
  obtain ⟨originMessage, ht⟩ := h.metadata hm
  unfold Oneway
  rw [ht]
  exact htype

theorem proceeds_reply {error : Error} (he : error.message ≠ "") (s : Stream σ) :
    ∃ rs, Brief rs ∧ Proceeds cfg s [] rs (s.sendLocalReply cfg error false) :=
  ⟨_, Or.inr ⟨error, he, rfl⟩, Proceeds.refl.sendLocalReply error false⟩

theorem proceeds_resetReply (cfg : Config σ) (reason : PoolFailureReason) (s : Stream σ) :
    ∃ rs, Brief rs ∧ Proceeds cfg s [] rs (s.resetReply cfg reason) := by
  have hhost : ∀ text : Host → Error, (∀ host, (text host).message ≠ "") →
      ∃ rs, Brief rs ∧ Proceeds cfg s [] rs
        (s.withHost fun host s => s.sendLocalReply cfg (text host) false) := by
    intro text htext
    unfold withHost
    split
    · exact proceeds_reply (htext _) s
    · exact ⟨[], Or.inl rfl, Proceeds.refl.panic _⟩
  cases reason with
  | overflow => exact proceeds_reply (by decide) s
  | _ => exact hhost _ fun host => by simp

/-- A oneway request is given up without a local reply. -/
theorem proceeds_onResetStream (cfg : Config σ) (reason : PoolFailureReason) (s : Stream σ) :
    ∃ rs, Brief rs ∧ Proceeds cfg s [] rs (s.onResetStream cfg reason) ∧ (s.Oneway → rs = []) := by
  unfold onResetStream
  split
  · exact ⟨[], Or.inl rfl, Proceeds.refl.panic _, fun _ => rfl⟩
  · rename_i metadata hm
    split
    · exact ⟨[], Or.inl rfl, Proceeds.refl.deferredMessage, fun _ => rfl⟩
    · rename_i htype
      obtain ⟨rs, hbrief, hreply⟩ := proceeds_resetReply cfg reason s
      refine ⟨rs, hbrief, ?_, fun hone => absurd ?_ htype⟩
      · dsimp only
        split
        · exact hreply.deferredMessage
        · exact hreply
      · simpa [Oneway, hm] using hone

theorem proceeds_upstreamClosed (cfg : Config σ) (event : ConnectionEvent) (s : Stream σ) :
    ∃ rs, Brief rs ∧ Proceeds cfg s [] rs (s.upstreamClosed cfg event) ∧ (s.Oneway → rs = []) := by
  unfold upstreamClosed
  have hset : Proceeds cfg s [] [] (s.onRequest fun r =>
      { r with connData := r.connData.map fun c => { c with isOpen := false } }) :=
    proceeds_onRequest _ s
  generalize s.onRequest (fun r =>
    { r with connData := r.connData.map fun c => { c with isOpen := false } }) = t at hset ⊢
  have hreset : ∀ reason, ∃ rs, Brief rs ∧ Proceeds cfg s [] rs (t.onResetStream cfg reason) ∧
      (s.Oneway → rs = []) := by
    intro reason
    obtain ⟨rs, hbrief, h, hone⟩ := proceeds_onResetStream cfg reason t
    exact ⟨rs, hbrief, hset.before h, fun hs => hone (hset.oneway hs)⟩
  unfold onUpstreamEvent
  split
  · exact ⟨[], Or.inl rfl, hset, fun _ => rfl⟩
  · split_ifs
    · exact ⟨[], Or.inl rfl, hset, fun _ => rfl⟩
    · exact ⟨[], Or.inl rfl, hset, fun _ => rfl⟩
    · cases event with
      | remoteClose => exact hreset _
      | localClose => exact hreset _

theorem proceeds_onPoolFailureReset (cfg : Config σ) (reason : PoolFailureReason) (host : Host)
    (s : Stream σ) : ∃ rs, Brief rs ∧
      Proceeds cfg s [] rs (s.onPoolFailureReset cfg reason host) ∧ (s.Oneway → rs = []) := by
  unfold onPoolFailureReset
  have hset : Proceeds cfg s [] [] ((s.onRequest fun r =>
      { r with connPoolHandle := false }).onUpstreamHostSelected host) :=
    (proceeds_onRequest _ s).then (proceeds_onRequest _ _)
  dsimp only
  generalize (s.onRequest fun r => { r with connPoolHandle := false }).onUpstreamHostSelected host
    = t at hset ⊢
  obtain ⟨rs, hbrief, h, hone⟩ := proceeds_onResetStream cfg reason t
  exact ⟨rs, hbrief, (hset.before h).then (proceeds_onRouter _ _),
    fun hs => hone (hset.oneway hs)⟩

theorem proceeds_startRequest (cfg : Config σ) (pool : PoolStart) (s : Stream σ) :
    ∃ rs, Brief rs ∧ Proceeds cfg s [] rs (s.startRequest cfg pool).2 := by
  cases pool with
  | pending => exact ⟨[], Or.inl rfl, proceeds_onRequest _ s⟩
  | ready host leftover =>
    exact ⟨[], Or.inl rfl, ((proceeds_onPoolReadyConnection host leftover s).then
      (proceeds_onRequest _ _)).then (proceeds_encodeData _)⟩
  | overflow host =>
    obtain ⟨rs, hbrief, h, -⟩ := proceeds_onPoolFailureReset cfg .overflow host s
    exact ⟨rs, hbrief, h⟩

theorem proceeds_route (cfg : Config σ) (s : Stream σ) : Proceeds cfg s [] [] (s.route cfg).2 := by
  unfold route
  split
  · exact .refl
  · split
    · dsimp only
      exact .onMessage .refl (.of_eq rfl rfl rfl rfl rfl)
    · exact .refl

/-- The bytes of the request go over to the router. -/
theorem proceeds_routeTo (cfg : Config σ) (pool : PoolStart) {metadata : Metadata} {s : Stream σ}
    (hm : s.message.metadata = some metadata) :
    ∃ rs, Brief rs ∧ Proceeds cfg s [] rs (s.routeTo cfg pool metadata).2 := by
  unfold routeTo
  dsimp only
  have hkept : ∀ metadata', s.message.metadata = some metadata' →
      ∃ originMessage, some { metadata with originMessage := [] } =
        some { metadata' with originMessage } := by
    intro metadata' hm'
    cases hm.symm.trans hm'
    exact ⟨[], rfl⟩
  have htake : Proceeds cfg s [] [] (s.onMessage fun m =>
      { m with
        metadata := some { metadata with originMessage := [] }
        router := { m.router with
          upstreamRequest := some {}
          upstreamRequestBuffer := m.router.upstreamRequestBuffer ++ metadata.originMessage } }) :=
    .onMessage .refl ⟨rfl, rfl, rfl, rfl, hkept⟩
  obtain ⟨rs, hbrief, h⟩ := proceeds_startRequest cfg pool _
  exact ⟨rs, hbrief, htake.before h⟩

theorem proceeds_routerOnMessageDecoded (cfg : Config σ) (s : Stream σ) :
    ∃ rs, Brief rs ∧ Proceeds cfg s [] rs (s.routerOnMessageDecoded cfg).2 := by
  unfold routerOnMessageDecoded
  split
  · exact ⟨[], Or.inl rfl, Proceeds.refl.panic _⟩
  rename_i metadata hm
  have hroute := proceeds_route cfg s
  have hm' : (s.route cfg).2.message.metadata = some metadata :=
    (metadata_route cfg s).trans hm
  generalize s.route cfg = r at hroute hm' ⊢
  obtain ⟨entry, t⟩ := r
  have hreply : ∀ {error : Error}, error.message ≠ "" →
      ∃ rs, Brief rs ∧ Proceeds cfg s [] rs (t.sendLocalReply cfg error false) := by
    intro error he
    obtain ⟨rs, hbrief, h⟩ : ∃ rs, Brief rs ∧ Proceeds cfg t [] rs _ := proceeds_reply he t
    exact ⟨rs, hbrief, hroute.before h⟩
  cases entry with
  | none => exact hreply (by simp)
  | some entry =>
    dsimp only
    split
    · exact hreply (by simp)
    · split
      · exact hreply (by simp)
      · split
        · exact hreply (by simp)
        · rename_i pool _
          obtain ⟨rs, hbrief, h⟩ := proceeds_routeTo cfg pool hm'
          exact ⟨rs, hbrief, hroute.before h⟩

/-! ## The filters -/

theorem proceeds_acts {drain : ℕ → Stream σ → Stream σ}
    (hdrain : ∀ n s, Proceeds cfg s [] [] (drain n s)) (as : List FilterAct) :
    ∀ s : Stream σ,
      Proceeds cfg s [] (as.filterMap FilterAct.reply) (s.acts cfg drain as) := by
  induction as with
  | nil => exact fun s => .refl
  | cons a as ih =>
    intro s
    have hrest := ih (s.act cfg drain a)
    cases a with
    | sendLocalReply error endStream =>
      exact (Proceeds.refl.sendLocalReply error endStream).trans hrest
    | resetStream => exact Proceeds.refl.deferredMessage.before hrest
    | resetDownstreamConnection => exact (Proceeds.refl.close .noFlush).before hrest
    | drainOriginMessage length => exact (hdrain length s).before hrest

theorem proceeds_drainRequest (n : ℕ) (s : Stream σ) :
    Proceeds cfg s [] [] (s.drainRequest n) := by
  refine .onMessage .refl ⟨rfl, rfl, rfl, rfl, fun metadata h => ?_⟩
  rw [h]
  exact ⟨_, rfl⟩

theorem proceeds_filterOnMessageDecoded (cfg : Config σ) (filter : Filter) (position : ℕ)
    (s : Stream σ) : ∃ rs,
      Proceeds cfg s [position] rs (s.filterOnMessageDecoded cfg filter position).2 ∧
      (cfg.RepliesOnce → filter ∈ cfg.decoderFilters → Single rs) := by
  unfold filterOnMessageDecoded
  have hcall : Proceeds cfg s [position] [] (s.onMessage fun m =>
    { m with decoderCalls := m.decoderCalls ++ [position] }) := Proceeds.refl.call position
  cases filter with
  | router =>
    obtain ⟨rs, hbrief, h⟩ := proceeds_routerOnMessageDecoded cfg
      (s.onMessage fun m => { m with decoderCalls := m.decoderCalls ++ [position] })
    exact ⟨rs, hcall.trans h, fun _ _ => hbrief.single⟩
  | custom react =>
    exact ⟨_, hcall.trans (proceeds_acts proceeds_drainRequest _ _),
      fun hc hmem => hc react hmem _ _ _⟩

theorem proceeds_filterOnMessageEncoded (cfg : Config σ) (filter : Filter) (position : ℕ)
    (s : Stream σ) :
    ∃ rs, Proceeds cfg s [] rs (s.filterOnMessageEncoded cfg filter position).2 := by
  unfold filterOnMessageEncoded
  have hcall : Proceeds cfg s [] []
      (s.onMessage fun m => { m with encoderCalls := m.encoderCalls ++ [position] }) :=
    .onMessage .refl (.of_eq rfl rfl rfl rfl rfl)
  cases filter with
  | router => exact ⟨[], hcall.then (proceeds_routerOnMessageEncoded _)⟩
  | custom react =>
    exact ⟨_, hcall.before (proceeds_acts (fun _ _ => proceeds_onResponseDecoder _ _) _ _)⟩

theorem proceeds_encoderFilterLoop (cfg : Config σ) :
    ∀ (filters : List Filter) (position : ℕ) (s : Stream σ),
      ∃ rs, Proceeds cfg s [] rs (s.encoderFilterLoop cfg filters position).2
  | [], _, s => by
    unfold encoderFilterLoop
    dsimp only
    exact ⟨[], .onMessage .refl (.of_eq rfl rfl rfl rfl rfl)⟩
  | filter :: filters, position, s => by
    unfold encoderFilterLoop
    obtain ⟨rs, h⟩ := proceeds_filterOnMessageEncoded cfg filter position s
    generalize s.filterOnMessageEncoded cfg filter position = r at h ⊢
    obtain ⟨status, t⟩ := r
    dsimp only at h ⊢
    split_ifs
    · dsimp only
      exact ⟨rs, h.onMessage (.of_eq rfl rfl rfl rfl rfl)⟩
    · exact ⟨rs, h⟩
    · obtain ⟨rs', h'⟩ := proceeds_encoderFilterLoop cfg filters (position + 1) t
      exact ⟨rs ++ rs', h.trans h'⟩

/-- Once a local reply was sent, no encoder filter is called that could send another. -/
theorem proceeds_applyEncoderFilters (cfg : Config σ) (start : ℕ) (s : Stream σ) :
    ∃ rs, Proceeds cfg s [] rs (s.applyEncoderFilters cfg start).2 ∧
      (s.message.localResponseSent = true → rs = []) := by
  unfold applyEncoderFilters
  split_ifs with haction hsent
  · exact ⟨[], Proceeds.refl.panic _, fun _ => rfl⟩
  · dsimp only
    exact ⟨[], .onMessage .refl (.of_eq rfl rfl rfl rfl rfl), fun _ => rfl⟩
  · obtain ⟨rs, h⟩ := proceeds_encoderFilterLoop cfg (cfg.encoderFilters.drop start) start s
    exact ⟨rs, h, fun hs => absurd hs hsent⟩

theorem proceeds_continueEncoding (cfg : Config σ) (position : ℕ) (s : Stream σ) :
    ∃ rs, Proceeds cfg s [] rs (s.continueEncoding cfg position) ∧
      (s.message.localResponseSent = true → rs = []) := by
  unfold continueEncoding
  split
  · exact ⟨[], Proceeds.refl.panic _, fun _ => rfl⟩
  · exact proceeds_applyEncoderFilters _ _ _

theorem proceeds_encodeResponse (cfg : Config σ) (metadata : Metadata) (s : Stream σ) :
    ∃ rs, Proceeds cfg s [] rs (s.encodeResponse cfg metadata).2 ∧
      (s.message.localResponseSent = true → rs = []) := by
  unfold encodeResponse applyMessageEncodedFilters
  have hset : Proceeds cfg s [] [] (((s.assert
      (metadata.messageType = .response ∨ metadata.messageType = .error)
      "ASSERT(Response || Error)").onResponseDecoder fun d =>
        { d with metadata := some metadata }).onMessage fun m =>
          { m with encoderFilterAction := true }) :=
    ((proceeds_assert _ _ s).then (proceeds_onResponseDecoder _ _)).onMessage
      (.of_eq rfl rfl rfl rfl rfl)
  dsimp only at hset ⊢
  generalize onMessage _ _ = t at hset ⊢
  obtain ⟨rs, h, hnone⟩ :=
    proceeds_applyEncoderFilters cfg (commonPrefix none .canStartFromCurrent) t
  have hsame : s.message.localResponseSent = true → rs = [] := fun hs => hnone (hset.flag hs)
  generalize t.applyEncoderFilters cfg (commonPrefix none .canStartFromCurrent) = r at h ⊢
  obtain ⟨_ | _ | _, u⟩ := r
  · exact ⟨rs, hset.before h, hsame⟩
  · exact ⟨rs, hset.before h, hsame⟩
  · exact ⟨rs, (hset.before h).then (proceeds_onResponseDecoder _ _), hsame⟩

/-! ## Data of the upstream -/

theorem proceeds_onResponseDecoded (cfg : Config σ) (metadata : Metadata) (s : Stream σ) :
    ∃ rs, Proceeds cfg s [] rs (s.onResponseDecoded cfg metadata).2 ∧
      (s.message.localResponseSent = true → rs = []) := by
  obtain ⟨rs, h, hnone⟩ := proceeds_encodeResponse cfg metadata s
  unfold onResponseDecoded
  generalize s.encodeResponse cfg metadata = r at h ⊢
  obtain ⟨status, t⟩ := r
  dsimp only at h ⊢
  split_ifs
  · exact ⟨rs, h.then (proceeds_onResponseDecoder _ _), hnone⟩
  · exact ⟨rs, h, hnone⟩
  · exact ⟨rs, ((h.forward _).then (proceeds_countResponse _ _)).then
      (proceeds_onResponseDecoder _ _), hnone⟩

theorem proceeds_responseDecoderOnData (cfg : Config σ) (data : Bytes) (s : Stream σ) :
    ∃ rs, Proceeds cfg s [] rs (s.responseDecoderOnData cfg data).2.2 ∧
      (s.message.localResponseSent = true → rs = []) := by
  unfold responseDecoderOnData
  split
  · exact ⟨[], Proceeds.refl.panic _, fun _ => rfl⟩
  rename_i responseDecoder _
  rcases responseDecoder.decoder.decode cfg.codec responseDecoder.codec data with
    ⟨decoder, codec, rest, decoded⟩
  have hset : Proceeds cfg s [] [] (s.onResponseDecoder fun d => { d with decoder, codec }) :=
    proceeds_onResponseDecoder _ s
  dsimp only
  split
  · exact ⟨[], hset, fun _ => rfl⟩
  · exact ⟨[], hset.panic _, fun _ => rfl⟩
  · exact ⟨[], hset, fun _ => rfl⟩
  · exact ⟨[], hset.panic _, fun _ => rfl⟩
  · rename_i metadata
    obtain ⟨rs, h, hnone⟩ := proceeds_onResponseDecoded cfg metadata
      (s.onResponseDecoder fun d => { d with decoder, codec })
    generalize (s.onResponseDecoder fun d => { d with decoder, codec }).onResponseDecoded cfg
      metadata = r at h ⊢
    obtain ⟨_ | ex, t⟩ := r
    · exact ⟨rs, (hset.before h).then (proceeds_responseDecoded _ _), hnone⟩
    · exact ⟨rs, hset.before h, hnone⟩

/-- The router has no local reply to the data : the response is not complete and its upstream goes
on, or it is complete and has the id of the request, or it is cut off. To a oneway request the
router does not reply that the upstream has ended. -/
def Spares (cfg : Config σ) (data : Bytes) (endStream : Bool) (s : Stream σ) : Prop :=
  match (s.startResponse cfg).responseDecoderOnData cfg data with
  | (_, .error .downstreamConnectionClose, _) => True
  | (_, .error (.envoyException _), _) => False
  | (_, .ok .complete, t) => t.requestId = t.responseRequestId
  | (_, .ok .reset, _) => True
  | (_, .ok .moreData, _) | (_, .ok .retry, _) => endStream = true → s.Oneway

theorem proceeds_onError (cfg : Config σ) (what : String) (s : Stream σ) :
    Proceeds cfg s [] [(⟨.badResponse, what⟩, false)] (s.onError cfg what) := by
  have hkept : ∀ metadata, s.message.metadata = some metadata →
      ∃ originMessage, some (s.message.metadata.getD {}) =
        some { metadata with originMessage } := by
    intro metadata hm
    rw [hm]
    exact ⟨metadata.originMessage, rfl⟩
  exact ((Proceeds.refl.onMessage ⟨rfl, rfl, rfl, rfl, hkept⟩).sendLocalReply
    ⟨.badResponse, what⟩ false).deferredMessage

theorem proceeds_responseException (cfg : Config σ) (what : String) (rest : Bytes) (s : Stream σ) :
    ∃ rs, Proceeds cfg s [] rs
      (((s.onResponseException cfg what).leaveUpstreamData rest).resetUpstreamStream cfg) := by
  have herror : Proceeds cfg s [] _ (s.onResponseException cfg what) :=
    (Proceeds.refl.inc (show Stat.responseDecodingError ≠ .request by decide)).trans
      (proceeds_onError cfg what (s.inc .responseDecodingError))
  exact ⟨_, (herror.then (proceeds_onRequest _ _)).then (proceeds_resetUpstreamStream cfg _)⟩

/-- A response that is not complete where the upstream ends. -/
theorem proceeds_endOfUpstream (cfg : Config σ) (endStream : Bool) (s : Stream σ) :
    ∃ rs, Proceeds cfg s [] rs (if endStream then
        (s.onResetStream cfg .remoteConnectionFailure).onResponseComplete.cleanup else s) ∧
      ((endStream = true → s.Oneway) → rs = []) := by
  split
  · rename_i hend
    obtain ⟨rs, -, h, hone⟩ := proceeds_onResetStream cfg .remoteConnectionFailure s
    exact ⟨rs, (h.then (proceeds_onResponseComplete _)).then (proceeds_cleanup _),
      fun hend' => hone (hend' hend)⟩
  · exact ⟨[], .refl, fun _ => rfl⟩

/-- A message with a local reply gets another one only for a failure of its upstream. -/
theorem proceeds_onUpstreamData (cfg : Config σ) (data : Bytes) (endStream : Bool) (s : Stream σ) :
    ∃ rs, Proceeds cfg s [] rs (s.onUpstreamData cfg data endStream) ∧
      (s.message.localResponseSent = true → s.Spares cfg data endStream → rs = []) := by
  have hstart := proceeds_startResponse cfg s
  obtain ⟨rs, h, hnone⟩ := proceeds_responseDecoderOnData cfg data (s.startResponse cfg)
  replace h := hstart.before h
  replace hnone : s.message.localResponseSent = true → rs = [] := fun hs => hnone (hstart.flag hs)
  have hexception : ∀ (t : Stream σ) (what : String) (rest : Bytes), Proceeds cfg s [] rs t →
      ∃ rs', Proceeds cfg s [] rs'
        (((t.onResponseException cfg what).leaveUpstreamData rest).resetUpstreamStream cfg) := by
    intro t what rest ht
    obtain ⟨rs', h'⟩ := proceeds_responseException cfg what rest t
    exact ⟨rs ++ rs', ht.trans h'⟩
  have hmore : ∀ t : Stream σ, Proceeds cfg s [] rs t → ∃ rs', Proceeds cfg s [] rs'
        (if endStream then (t.onResetStream cfg .remoteConnectionFailure).onResponseComplete.cleanup
          else t) ∧
      (s.message.localResponseSent = true → (endStream = true → s.Oneway) → rs' = []) := by
    intro t ht
    obtain ⟨rs', h', hone⟩ := proceeds_endOfUpstream cfg endStream t
    refine ⟨rs ++ rs', ht.trans h', fun hs hend => ?_⟩
    rw [hnone hs, hone fun he => ht.oneway (hend he), List.append_nil]
  unfold onUpstreamData Spares
  split
  · exact ⟨[], Proceeds.refl.panic _, fun _ _ => rfl⟩
  unfold upstreamData
  generalize (s.startResponse cfg).responseDecoderOnData cfg data = r at h ⊢
  obtain ⟨rest, result, t⟩ := r
  cases result with
  | error ex =>
    cases ex with
    | downstreamConnectionClose =>
      refine ⟨rs, ?_, fun hs _ => hnone hs⟩
      exact ((h.deferredMessage.inc (by decide)).then (proceeds_onRequest _ _)).then
        (proceeds_resetUpstreamStream cfg _)
    | envoyException what =>
      obtain ⟨rs', h'⟩ := hexception t what rest h
      exact ⟨rs', h', fun _ hf => hf.elim⟩
  | ok status =>
    cases status with
    | complete =>
      dsimp only
      by_cases hid : t.requestId ≠ t.responseRequestId
      · rw [if_pos hid]
        obtain ⟨rs', h'⟩ := hexception t _ rest h
        exact ⟨rs', h', fun _ heq => absurd heq hid⟩
      · rw [if_neg hid]
        refine ⟨rs, ?_, fun hs _ => hnone hs⟩
        exact ((h.deferredMessage.then (proceeds_onRequest _ _)).then
          (proceeds_onResponseComplete _)).then (proceeds_cleanup _)
    | reset =>
      refine ⟨rs, ?_, fun hs _ => hnone hs⟩
      exact (h.then (proceeds_onRequest _ _)).then (proceeds_resetUpstreamStream cfg _)
    | moreData => exact hmore _ (h.then (proceeds_onRequest _ _))
    | retry =>
      exact hmore _ ((h.onMessage (.of_eq rfl rfl rfl rfl rfl)).then (proceeds_onRequest _ _))

/-! ## Running the decoder filters -/

theorem proceeds_decoderFilterLoop (cfg : Config σ) :
    ∀ (filters : List Filter) (position : ℕ) {s : Stream σ},
      filters = cfg.decoderFilters.drop position → s.message.metadata.isSome →
      s.message.localResponseSent = false →
      ∃ cs rs, Proceeds cfg s cs rs (s.decoderFilterLoop cfg filters position).2 ∧
        (cfg.RepliesOnce → Worded rs ∧ (s.Known →
          (s.decoderFilterLoop cfg filters position).2.localReplies.length ≤ 1)) ∧
        ((s.decoderFilterLoop cfg filters position).2.message.localResponseSent = true →
          (s.decoderFilterLoop cfg filters position).1 = .continue ∧
            (s.decoderFilterLoop cfg filters position).2.message.Rejected cfg)
  | [], position, s, _, _, hs => by
    unfold decoderFilterLoop
    dsimp only
    refine ⟨[], [], .onMessage .refl (.of_eq rfl rfl rfl rfl rfl),
      fun _ => ⟨by simp [Worded], fun hknown => ?_⟩, fun h => ?_⟩
    · exact (hknown hs).1
    · cases hs.symm.trans h
  | filter :: filters, position, s, hdrop, hm, hs => by
    obtain ⟨hposition, hrest⟩ := getElem?_of_cons_eq_drop hdrop
    have hmem : filter ∈ cfg.decoderFilters := List.mem_of_getElem? hposition
    obtain ⟨rs, h, hsingle⟩ := proceeds_filterOnMessageDecoded cfg filter position s
    unfold decoderFilterLoop
    cases hcall : s.filterOnMessageDecoded cfg filter position with
    | mk status t =>
      rw [hcall] at h
      dsimp only at h ⊢
      have honce : cfg.RepliesOnce → Worded rs ∧ (s.Known → t.localReplies.length ≤ 1) :=
        fun hc => ⟨(hsingle hc hmem).worded,
          fun hknown => h.atMost hknown hs (hsingle hc hmem).length⟩
      by_cases hsent : t.message.localResponseSent = true
      · rw [if_pos hsent]
        dsimp only
        refine ⟨[position], rs, h.onMessage (.of_eq rfl rfl rfl rfl rfl), honce, fun _ => ⟨rfl, ?_⟩⟩
        exact ⟨position, filter, s, hposition, hs, by rw [hcall]; exact hsent, h.calls, h.id,
          fun _ => h.metadata⟩
      rw [if_neg hsent]
      by_cases hstatus : status ≠ .continue
      · rw [if_pos hstatus]
        exact ⟨[position], rs, h, honce, fun h => absurd h hsent⟩
      · rw [if_neg hstatus]
        obtain ⟨originMessage, hm'⟩ := h.metadata (Option.some_get hm).symm
        obtain ⟨cs', rs', h', honce', hlast⟩ := proceeds_decoderFilterLoop cfg filters
          (position + 1) hrest (Option.isSome_iff_exists.mpr ⟨_, hm'⟩) (by simpa using hsent)
        refine ⟨[position] ++ cs', rs ++ rs', h.trans h', fun hc => ⟨fun r hr => ?_,
          fun hknown => (honce' hc).2 (h.known hknown)⟩, hlast⟩
        rcases List.mem_append.mp hr with hr | hr
        · exact (honce hc).1 r hr
        · exact (honce' hc).1 r hr

/-- What running the decoder filters of a message does, from where they start. A message with a
local reply calls none. -/
theorem proceeds_applyDecoderFilters (cfg : Config σ) (start : ℕ) {s : Stream σ}
    (hm : s.message.metadata.isSome) :
    ∃ cs rs, Proceeds cfg s cs rs (s.applyDecoderFilters cfg start).2 ∧
      (s.message.localResponseSent = true → cs = [] ∧ rs = []) ∧
      (s.message.localResponseSent = false →
        (cfg.RepliesOnce → Worded rs ∧
          (s.Known → (s.applyDecoderFilters cfg start).2.localReplies.length ≤ 1)) ∧
        ((s.applyDecoderFilters cfg start).2.message.localResponseSent = true →
          (s.applyDecoderFilters cfg start).1 = .continue ∧
            (s.applyDecoderFilters cfg start).2.message.Rejected cfg)) := by
  unfold applyDecoderFilters
  split_ifs with haction hsent
  · refine ⟨[], [], Proceeds.refl.panic _, fun _ => ⟨rfl, rfl⟩, fun hs => ⟨fun _ =>
      ⟨by simp [Worded], fun hknown => (hknown hs).1⟩, fun h => ?_⟩⟩
    cases hs.symm.trans h
  · dsimp only
    exact ⟨[], [], .onMessage .refl (.of_eq rfl rfl rfl rfl rfl), fun _ => ⟨rfl, rfl⟩,
      fun hs => by cases hs.symm.trans hsent⟩
  · obtain ⟨cs, rs, h, honce, hlast⟩ := proceeds_decoderFilterLoop cfg
      (cfg.decoderFilters.drop start) start rfl hm (by simpa using hsent)
    exact ⟨cs, rs, h, fun hs => absurd hs hsent, fun _ => ⟨honce, hlast⟩⟩

end Stream

end MetaProtocolProxy
