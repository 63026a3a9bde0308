import MetaProtocolProxy.Chunking

/-!
# A connection at rest

`dispatch` is called with no new bytes whenever a message goes on. Behind every event the
bytes of a Dubbo connection are of no use without more of them : there are none, or the
codec waits for more, or it has thrown and throws again (`resting_run`). So such a call
delivers nothing (`Resting.dispatch`).
-/

namespace MetaProtocolProxy

namespace Dubbo.DubboCodec

variable {hessian : Hessian2}

/-- What a call of `decode` ends with, it ends with again. -/
inductive Repeats (hessian : Hessian2) (s : State) (buffer : Bytes) : Decoding State → Prop
  | wait {s' buffer'} (h : decode hessian s' buffer' = ⟨s', buffer', .waitForData⟩) :
      Repeats hessian s buffer ⟨s', buffer', .waitForData⟩
  | throw {s' buffer' fault} (h : decode hessian s' buffer' = ⟨s', buffer', .throw fault⟩) :
      Repeats hessian s buffer ⟨s', buffer', .throw fault⟩
  | done {buffer' metadata} (hle : buffer'.length ≤ buffer.length)
      (hlt : s = none → buffer'.length < buffer.length) :
      Repeats hessian s buffer ⟨none, buffer', .done metadata⟩

theorem repeats_data {machine : DecoderStateMachine} {context : Context} {s : State}
    {whole buffer : Bytes} (hs : machine.state = .onDecodeStreamData)
    (hc : machine.context = some context) (hle : buffer.length ≤ whole.length)
    (hlt : s = none → buffer.length < whole.length) :
    Repeats hessian s whole (decode hessian (some machine) buffer) := by
  rcases hd : decodeData hessian buffer context machine.metadata with fault | _ | metadata
  · rw [decode_data_error hs hc hd]
    exact .throw (decode_data_error hs hc hd)
  · rw [decode_data_none hs hc hd]
    exact .wait (decode_data_none hs hc hd)
  · have hdrop : (buffer.drop context.bodySize).length ≤ buffer.length := by
      rw [List.length_drop]
      exact Nat.sub_le _ _
    rw [decode_data_done hs hc hd]
    exact .done (Nat.le_trans hdrop hle) fun h => Nat.lt_of_le_of_lt hdrop (hlt h)

theorem repeats_header {machine : DecoderStateMachine} {s : State} {buffer : Bytes}
    (hs : machine.state = .onDecodeStreamHeader) :
    Repeats hessian s buffer (decode hessian (some machine) buffer) := by
  rcases hd : decodeHeader buffer machine.metadata with fault | _ | ⟨context, metadata⟩
  · rw [decode_header_error hs hd]
    exact .throw (decode_header_error hs hd)
  · rw [decode_header_none hs hd]
    exact .wait (decode_header_none hs hd)
  have hspec := decodeHeader_spec hd
  have hlength : context.headerSize ≤ buffer.length := hspec.headerSize ▸ hspec.length
  have hpos : 0 < context.headerSize := hspec.headerSize ▸ Nat.succ_pos _
  have hdrop : ∀ n, (buffer.drop (context.headerSize + n)).length < buffer.length := by
    intro n
    rw [List.length_drop]
    omega
  cases hb : metadata.messageType.isHeartbeat with
  | false =>
    rw [decode_header hs hd hb]
    exact repeats_data rfl rfl (Nat.le_of_lt (hdrop 0)) fun _ => hdrop 0
  | true =>
    by_cases hshort : buffer.length < context.headerSize + context.bodySize
    · rw [decode_heartbeat_short hs hd hb hshort]
      refine .wait ?_
      have hs' : { machine with metadata, context := some context }.state =
          .onDecodeStreamHeader := hs
      exact decode_heartbeat_short hs' (decodeHeader_again hd) hb hshort
    · rw [decode_heartbeat hs hd hb (Nat.not_lt.mp hshort)]
      exact .done (Nat.le_of_lt (hdrop _)) fun _ => hdrop _

theorem repeats_decode (hessian : Hessian2) {s : State} (hs : Sound s) (buffer : Bytes) :
    Repeats hessian s buffer (decode hessian s buffer) := by
  cases hs with
  | idle => exact decode_none ▸ repeats_header rfl
  | header hs ht => exact repeats_header hs
  | data hs hc hb he ht hf => exact repeats_data hs hc (Nat.le_refl _) (by rintro ⟨⟩)

/-- The Dubbo codec comes to rest. -/
theorem steady_round (hessian : Hessian2) :
    Resumable.Steady (codec hessian).round Sound (· = none) where
  wait := by
    intro s b s' b' hs hr
    have hrepeats := repeats_decode hessian hs b
    have hsound := (regular_decode hessian hs b).sound
    simp only [Codec.round, codec] at hr ⊢
    generalize decode hessian s b = decoding at hrepeats hsound hr
    cases hrepeats with
    | wait h =>
      cases hr
      exact ⟨hsound, by rw [h]; rfl⟩
    | throw h => cases hr
    | done hle hlt => cases hr
  emit := by
    intro s b metadata s' b' hs hr
    have hrepeats := repeats_decode hessian hs b
    simp only [Codec.round, codec] at hr
    generalize decode hessian s b = decoding at hrepeats hr
    cases hrepeats with
    | wait h => cases hr
    | throw h => cases hr
    | done hle hlt =>
      cases hr
      exact ⟨.idle, rfl, hle, hlt⟩
  fail := by
    intro s b s' b' hs hr
    have hrepeats := repeats_decode hessian hs b
    have hsound := (regular_decode hessian hs b).sound
    simp only [Codec.round, codec] at hr ⊢
    generalize decode hessian s b = decoding at hrepeats hsound hr
    cases hrepeats with
    | wait h => cases hr
    | throw h =>
      cases hr
      exact ⟨hsound, by rw [h]; rfl⟩
    | done hle hlt => cases hr

end Dubbo.DubboCodec

namespace ConnectionManager

variable {σ : Type} {cfg : Config σ} {cm : ConnectionManager σ}

/-- A call of `dispatch` with no new bytes finds none, or waits, or throws again. -/
structure Resting (cfg : Config σ) (cm : ConnectionManager σ) : Prop where
  ready : cm.decoder.Ready
  bytes : cm.requestBuffer = [] ∨
    cfg.codec.decode cm.downstream.codec cm.requestBuffer =
      ⟨cm.downstream.codec, cm.requestBuffer, .waitForData⟩ ∨
    cm.decodingFailed = true ∧ ∃ what,
      cfg.codec.decode cm.downstream.codec cm.requestBuffer =
        ⟨cm.downstream.codec, cm.requestBuffer, .throw (.exception what)⟩

theorem Resting.of_eq {cm' : ConnectionManager σ} (h : Resting cfg cm)
    (hcodec : cm'.downstream.codec = cm.downstream.codec)
    (hbuffer : cm'.requestBuffer = cm.requestBuffer) (hdecoder : cm'.decoder.Ready)
    (hfailed : cm'.decodingFailed = cm.decodingFailed) : Resting cfg cm' := by
  refine ⟨hdecoder, ?_⟩
  rw [hcodec, hbuffer, hfailed]
  exact h.bytes

/-- A call of `dispatch` with no new bytes delivers nothing. -/
theorem Resting.dispatch (h : Resting cfg cm) : ∃ decoder : DecoderBase, decoder.Ready ∧
    (cm.dispatch cfg = { cm with decoder } ∨
      cm.decodingFailed = true ∧ cm.dispatch cfg = { cm with decoder }.onDecodingError) := by
  unfold ConnectionManager.dispatch
  split_ifs with hnil hstopped
  · exact ⟨cm.decoder, h.ready, Or.inl rfl⟩
  · exact ⟨cm.decoder, h.ready, Or.inl rfl⟩
  obtain ⟨decoder, hdecode, hready⟩ :=
    DecoderBase.decode_of_ready h.ready cfg.codec cm.downstream.codec cm.requestBuffer
  unfold dispatchLoop decode
  rw [hdecode]
  rcases h.bytes with hbytes | hbytes | ⟨hfailed, what, hbytes⟩
  · exact absurd hbytes hnil
  · rw [hbytes] at hready ⊢
    exact ⟨decoder, hready (by simp), Or.inl rfl⟩
  · rw [hbytes] at hready ⊢
    exact ⟨decoder, hready (by simp), Or.inr ⟨hfailed, rfl⟩⟩

/-- In every state of a run a Dubbo connection is at rest. -/
theorem resting_run {hessian : Dubbo.Hessian2} {cfg : Config Dubbo.DubboCodec.State}
    (hc : cfg.codec = Dubbo.DubboCodec.codec hessian) (es : List Event) :
    Resting cfg ((system cfg).run (new cfg) es) := by
  have hfed := fed_run_dubbo hc es
  generalize (system cfg).run (new cfg) es = cm at hfed ⊢
  obtain ⟨⟨hready, -, -⟩, p, ha, hp⟩ := hfed
  rw [hc] at hp
  obtain ⟨hsound, hrests⟩ :=
    hp.rests (Dubbo.DubboCodec.steady_round hessian) .idle rfl
  refine ⟨hready, ?_⟩
  rw [ha.state, ha.buffer, ha.failed, hc]
  have hregular := Dubbo.DubboCodec.regular_decode hessian hsound p.buffer
  unfold Resumable.Rests Codec.round at hrests
  simp only [Dubbo.DubboCodec.codec] at hrests ⊢
  generalize Dubbo.DubboCodec.decode hessian p.state p.buffer = decoding at hregular hrests ⊢
  obtain ⟨s, b, status⟩ := decoding
  rcases hrests with ⟨-, hnil⟩ | hwait | ⟨hfailed, hfail⟩
  · exact Or.inl hnil
  · cases status with
    | waitForData =>
      obtain ⟨rfl, rfl⟩ := Resumable.Round.wait.inj hwait
      exact Or.inr (Or.inl rfl)
    | done metadata => cases hwait
    | throw fault => cases hwait
  · cases status with
    | waitForData => cases hfail
    | done metadata => cases hfail
    | throw fault =>
      obtain ⟨rfl, rfl⟩ := Resumable.Round.fail.inj hfail
      obtain ⟨what, rfl, -⟩ := hregular.exception rfl
      exact Or.inr (Or.inr ⟨hfailed, what, rfl⟩)

end ConnectionManager

end MetaProtocolProxy
