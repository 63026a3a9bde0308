import MetaProtocolProxy.ConnectionManager

/-!
# What a view of a message does not see

Handling a response changes a few fields of its message, so a view of the message that sees
none of them is the same behind it (`Blind`). What the router does for a message changes a
few more (`Outside`).
-/

namespace MetaProtocolProxy

variable {σ : Type} {α : Type*} {view : ActiveMessage σ → α}

/-- A view of a message that does not see how a response to it is handled. -/
structure ActiveMessage.Blind (view : ActiveMessage σ → α) : Prop where
  metadata : ∀ m, view { m with metadata := some (m.metadata.getD {}) } = view m
  responseDecoder : ∀ m responseDecoder, view { m with responseDecoder } = view m
  localResponseSent : ∀ m localResponseSent, view { m with localResponseSent } = view m
  encoderCalls : ∀ m encoderCalls, view { m with encoderCalls } = view m
  encoderFilterAction : ∀ m encoderFilterAction, view { m with encoderFilterAction } = view m

namespace Stream

open ActiveMessage (Blind)

/-! ## Local replies -/

/-- A local reply is only noted. -/
theorem view_sendLocalReply (h : Blind view) (cfg : Config σ) (error : Error) (endStream : Bool)
    (s : Stream σ) : view (s.sendLocalReply cfg error endStream).message = view s.message := by
  unfold sendLocalReply
  split
  · rfl
  · dsimp only
    split
    · rfl
    · exact h.localResponseSent _ _

theorem view_onError (h : Blind view) (cfg : Config σ) (what : String) (s : Stream σ) :
    view (s.onError cfg what).message = view s.message :=
  (view_sendLocalReply h _ _ _ _).trans (h.metadata _)

/-- A response that cannot be read is answered with an error. -/
theorem view_onResponseException (h : Blind view) (cfg : Config σ) (what : String) (s : Stream σ) :
    view (s.onResponseException cfg what).message = view s.message :=
  view_onError h _ _ _

/-- The callbacks of a filter change no more than what they take off the message. -/
theorem view_acts (h : Blind view) (cfg : Config σ) {drain : ℕ → Stream σ → Stream σ}
    (hdrain : ∀ n s, view (drain n s).message = view s.message) (as : List FilterAct) :
    ∀ s : Stream σ, view (s.acts cfg drain as).message = view s.message := by
  induction as with
  | nil => exact fun s => rfl
  | cons a as ih =>
    intro s
    refine (ih _).trans ?_
    cases a with
    | sendLocalReply error endStream => exact view_sendLocalReply h _ _ _ _
    | resetStream => rfl
    | resetDownstreamConnection => rfl
    | drainOriginMessage length => exact hdrain _ _

/-! ## Encoder filters -/

theorem view_onResponseDecoder (h : Blind view)
    (f : ActiveResponseDecoder σ → ActiveResponseDecoder σ) (s : Stream σ) :
    view (s.onResponseDecoder f).message = view s.message :=
  h.responseDecoder _ _

/-- The router only looks at a response. -/
theorem message_routerOnMessageEncoded (s : Stream σ) :
    s.routerOnMessageEncoded.2.message = s.message := by
  unfold routerOnMessageEncoded withHost
  split
  · rfl
  · split <;> rfl

theorem view_filterOnMessageEncoded (h : Blind view) (cfg : Config σ) (filter : Filter)
    (position : ℕ) (s : Stream σ) :
    view (s.filterOnMessageEncoded cfg filter position).2.message = view s.message := by
  refine Eq.trans ?_ (h.encoderCalls s.message (s.message.encoderCalls ++ [position]))
  unfold filterOnMessageEncoded
  cases filter with
  | router => exact congrArg view (message_routerOnMessageEncoded _)
  | custom react => exact view_acts h cfg (fun n s => view_onResponseDecoder h _ s) _ _

/-- The encoder filters, one after the other. -/
theorem view_encoderFilterLoop (h : Blind view) (cfg : Config σ) :
    ∀ (filters : List Filter) (position : ℕ) (s : Stream σ),
      view (s.encoderFilterLoop cfg filters position).2.message = view s.message
  | [], _, _ => h.encoderFilterAction _ _
  | filter :: filters, position, s => by
    unfold encoderFilterLoop
    have hfilter := view_filterOnMessageEncoded h cfg filter position s
    generalize s.filterOnMessageEncoded cfg filter position = r at hfilter ⊢
    obtain ⟨status, t⟩ := r
    dsimp only at hfilter ⊢
    split
    · exact (h.encoderFilterAction _ _).trans hfilter
    · split
      · exact hfilter
      · exact (view_encoderFilterLoop h cfg filters (position + 1) t).trans hfilter

/-- The encoder filters from a position on. -/
theorem view_applyEncoderFilters (h : Blind view) (cfg : Config σ) (start : ℕ) (s : Stream σ) :
    view (s.applyEncoderFilters cfg start).2.message = view s.message := by
  unfold applyEncoderFilters
  split
  · rfl
  · split
    · exact h.encoderFilterAction _ _
    · exact view_encoderFilterLoop h _ _ _ _

theorem view_continueEncoding (h : Blind view) (cfg : Config σ) (position : ℕ) (s : Stream σ) :
    view (s.continueEncoding cfg position).message = view s.message := by
  unfold continueEncoding
  split
  · rfl
  · exact view_applyEncoderFilters h _ _ _

/-! ## Responses -/

/-- The encoder filters, called with a response. -/
theorem view_encodeResponse (h : Blind view) (cfg : Config σ) (metadata : Metadata) (s : Stream σ) :
    view (s.encodeResponse cfg metadata).2.message = view s.message := by
  unfold encodeResponse applyMessageEncodedFilters
  dsimp only
  generalize hset : (s.assert _ _).onResponseDecoder _ = t
  have ht : view t.message = view s.message := hset ▸ view_onResponseDecoder h _ _
  have happly := (view_applyEncoderFilters h cfg (commonPrefix none .canStartFromCurrent)
    (t.onMessage fun m => { m with encoderFilterAction := true })).trans
    ((h.encoderFilterAction _ _).trans ht)
  generalize (t.onMessage fun m => { m with encoderFilterAction := true }).applyEncoderFilters cfg
    (commonPrefix none .canStartFromCurrent) = r at happly ⊢
  obtain ⟨_ | _ | _, u⟩ := r
  · exact happly
  · exact happly
  · exact (view_onResponseDecoder h _ _).trans happly

/-- What is counted is no part of the message. -/
theorem message_countResponse (metadata : Metadata) (s : Stream σ) :
    (s.countResponse metadata).message = s.message := by
  unfold countResponse
  dsimp only
  split_ifs <;> rfl

/-- A decoded response. -/
theorem view_onResponseDecoded (h : Blind view) (cfg : Config σ) (metadata : Metadata)
    (s : Stream σ) : view (s.onResponseDecoded cfg metadata).2.message = view s.message := by
  have hencode := view_encodeResponse h cfg metadata s
  unfold onResponseDecoded
  generalize s.encodeResponse cfg metadata = r at hencode ⊢
  obtain ⟨status, t⟩ := r
  dsimp only at hencode ⊢
  split
  · exact (view_onResponseDecoder h _ _).trans hencode
  · split
    · exact hencode
    · refine (view_onResponseDecoder h _ _).trans ?_
      rw [message_countResponse]
      exact hencode

theorem view_responseDecoded (h : Blind view) (data : Bytes) (s : Stream σ) :
    view (s.responseDecoded data).2.2.message = view s.message := by
  unfold responseDecoded
  dsimp only
  split <;> exact view_onResponseDecoder h _ s

/-- A chunk for the response decoder. -/
theorem view_responseDecoderOnData (h : Blind view) (cfg : Config σ) (data : Bytes)
    (s : Stream σ) : view (s.responseDecoderOnData cfg data).2.2.message = view s.message := by
  unfold responseDecoderOnData
  split
  · rfl
  rename_i responseDecoder hdecoder
  dsimp only
  obtain ⟨decoder, codec, rest, decoded⟩ :=
    responseDecoder.decoder.decode cfg.codec responseDecoder.codec data
  have hset := view_onResponseDecoder h (fun d => { d with decoder, codec }) s
  rcases decoded with _ | metadata | metadata | what | site
  · exact hset
  · exact hset
  · have hdecoded := (view_onResponseDecoded h cfg metadata
      (s.onResponseDecoder fun d => { d with decoder, codec })).trans hset
    dsimp only at hdecoded ⊢
    generalize (s.onResponseDecoder fun d => { d with decoder, codec }).onResponseDecoded cfg
      metadata = r at hdecoded ⊢
    obtain ⟨_ | ex, t⟩ := r
    · exact (view_responseDecoded h _ _).trans hdecoded
    · exact hdecoded
  · exact hset
  · exact hset

/-- The status of a chunk. -/
theorem view_upstreamData (h : Blind view) (cfg : Config σ) (data : Bytes) (s : Stream σ) :
    view (s.upstreamData cfg data).2.2.message = view s.message := by
  have hdata := view_responseDecoderOnData h cfg data s
  unfold upstreamData
  generalize s.responseDecoderOnData cfg data = r at hdata ⊢
  obtain ⟨rest, (_ | what) | (_ | _ | _ | _), t⟩ := r
  · exact hdata
  · exact (view_onResponseException h _ _ _).trans hdata
  · exact hdata
  · dsimp only
    split
    · exact (view_onResponseException h _ _ _).trans hdata
    · exact hdata
  · exact hdata
  · exact (h.responseDecoder _ _).trans hdata

theorem view_startUpstreamResponse (h : Blind view) (cfg : Config σ) (s : Stream σ) :
    view (s.startUpstreamResponse cfg).message = view s.message :=
  h.responseDecoder _ _

end Stream

end MetaProtocolProxy
