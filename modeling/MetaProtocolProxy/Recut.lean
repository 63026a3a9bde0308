import MetaProtocolProxy.Silence
import MetaProtocolProxy.Termination
import MetaProtocolProxy.ThriftTermination

/-!
# The cuts in a client's stream

What a client sends arrives in chunks that it does not choose. If two runs differ in nothing but
the places where these chunks were cut (`Cuts`), a connection comes to the same state in both, with
everything that was written, counted and kept for its messages (`recut_run`). Only the generic
decoder remembers, after an exception, whether it had waited before (`Alike`).

This is a bisimulation : from states that are alike an event leads to states that are alike
(`Alike.step`), and two chunks one after the other lead where both do at once (`alike_append`). It
holds for every chain of filters, with the Dubbo and with the Thrift codec.
-/

namespace MetaProtocolProxy

variable {σ : Type}

/-- A codec for which the place of a cut is invisible until it throws, that throws nothing but
exceptions, and takes a byte for every message. -/
structure Codec.Streams (codec : Codec σ) (I K : σ → Prop) (R : Metadata → Prop)
    (begun : σ → Bool) (fresh : σ → Prop) : Prop where
  flows : codec.Flows I R
  takes : codec.Takes I begun
  cuttable : Resumable.Cuttable codec.round K fresh
  init : K codec.init

/-- What is known of the states of a codec in three ways is known in one. -/
theorem Codec.streams {codec : Codec σ} {I J K : σ → Prop} {R : Metadata → Prop}
    {begun : σ → Bool} {fresh : σ → Prop} (hf : codec.Flows I R) (ht : codec.Takes J begun)
    (hc : Resumable.Cuttable codec.round K fresh) (hk : K codec.init) :
    codec.Streams (fun s => I s ∧ J s) K R begun fresh where
  flows :=
    { init := ⟨hf.init, ht.init⟩
      decode := fun hs buffer => ⟨hf.decode hs.1 buffer, (ht.decode hs.2 buffer).inv⟩
      done := fun hs => hf.done hs.1
      originMessage := hf.originMessage
      throw := fun hs => hf.throw hs.1
      heartbeat := fun hs => hf.heartbeat hs.1 }
  takes :=
    { init := ⟨hf.init, ht.init⟩
      fresh := ht.fresh
      decode := fun hs buffer =>
        have htakes := ht.decode hs.2 buffer
        ⟨⟨hf.decode hs.1 buffer, htakes.inv⟩, htakes.le, htakes.begins, htakes.done⟩ }
  cuttable := hc
  init := hk

/-- A decoder that waits for data. -/
theorem DecoderBase.decode_waitForData {codec : Codec σ} {decoder : DecoderBase}
    (h : decoder.Ready) {s : σ} {data : Bytes} (hd : (codec.decode s data).status = .waitForData) :
    (decoder.decode codec s data).1 = ⟨some .waitForData, false, true⟩ := by
  have hstart : ∃ state, state ≠ .done ∧
      (if decoder.decodeStarted then decoder else decoder.start) = ⟨some state, false, true⟩ := by
    obtain ⟨machine, stream, started⟩ := decoder
    obtain ⟨rfl, hstarted, hdone⟩ := h
    cases started with
    | false => exact ⟨.onDecodeStreamData, by decide, rfl⟩
    | true =>
      cases machine with
      | none => exact absurd rfl (hstarted rfl)
      | some state => exact ⟨state, fun h => hdone (congrArg some h), rfl⟩
  obtain ⟨state, hdone, hstart⟩ := hstart
  unfold DecoderBase.decode
  dsimp only
  rw [hstart]
  generalize codec.decode s data = d at hd ⊢
  obtain ⟨s', data', status⟩ := d
  obtain rfl : status = .waitForData := hd
  cases state with
  | done => exact absurd rfl hdone
  | waitForData | onDecodeStreamData => rfl

namespace ConnectionManager

variable {cfg : Config σ} {I K : σ → Prop} {R : Metadata → Prop} {begun : σ → Bool}
  {fresh : σ → Prop} {cm cm' t t' : ConnectionManager σ} {received : Bytes}

/-! ## Turns as a function -/

/-- What a turn does behind a heartbeat. -/
def afterHeartbeat (cm : ConnectionManager σ) : Except Fault Unit → ConnectionManager σ × Bool
  | .error (.exception _) => (cm.onDecodingError, false)
  | .error (.panic site) => (cm.onDownstream (Downstream.panic site), false)
  | .ok () => (cm.complete, true)

/-- What a turn does with what was decoded, and whether the loop may go on behind it. -/
def handle (cfg : Config σ) (cm : ConnectionManager σ) : Decoded → ConnectionManager σ × Bool
  | .waitForData => (cm, false)
  | .throw (.exception _) => (cm.onDecodingError, false)
  | .throw (.panic site) => (cm.onDownstream (Downstream.panic site), false)
  | .stream metadata => ((cm.newStream cfg metadata).complete, true)
  | .heartbeat metadata =>
    (cm.onHeartbeat cfg metadata).2.afterHeartbeat (cm.onHeartbeat cfg metadata).1

theorem Turn.handle {again : Bool} (h : Turn cfg cm t again) :
    (cm.decode cfg).1.handle cfg (cm.decode cfg).2 = (t, again) := by
  cases h with
  | wait hdecoded | error hdecoded | panic hdecoded | stream hdecoded => rw [hdecoded]; rfl
  | heartbeat hdecoded hreply | heartbeatError hdecoded hreply
  | heartbeatPanic hdecoded hreply =>
    rw [hdecoded, ConnectionManager.handle, hreply]
    rfl

theorem turn_iff {again : Bool} : Turn cfg cm t again ↔
    (cm.decode cfg).1.handle cfg (cm.decode cfg).2 = (t, again) := by
  refine ⟨Turn.handle, fun h => ?_⟩
  obtain ⟨t', again', hturn⟩ := exists_turn cfg cm
  cases hturn.handle.symm.trans h
  exact hturn

/-- The decoder and the buffer are in the hands of `decode` alone, and a complete message leaves a
decoder that starts afresh. -/
theorem handle_with (cfg : Config σ) (cm : ConnectionManager σ) (decoded : Decoded)
    (decoder : DecoderBase) (requestBuffer : Bytes) :
    { cm with decoder, requestBuffer }.handle cfg decoded =
      ({ (cm.handle cfg decoded).1 with
          decoder := if (cm.handle cfg decoded).2 then {} else decoder
          requestBuffer }, (cm.handle cfg decoded).2) := by
  rcases decoded with _ | metadata | metadata | what | site
  · rfl
  · have hheartbeat : { cm with decoder, requestBuffer }.onHeartbeat cfg metadata =
        ((cm.onHeartbeat cfg metadata).1,
          { (cm.onHeartbeat cfg metadata).2 with decoder, requestBuffer }) := by
      unfold onHeartbeat
      dsimp only [onDownstream]
      split
      · rfl
      · split <;> rfl
    rw [ConnectionManager.handle, ConnectionManager.handle, hheartbeat]
    rcases (cm.onHeartbeat cfg metadata).1 with (_ | _) | _ <;> rfl
  · rfl
  · rfl
  · rfl

theorem requestBuffer_handle (cfg : Config σ) (cm : ConnectionManager σ) (decoded : Decoded) :
    (cm.handle cfg decoded).1.requestBuffer = cm.requestBuffer :=
  congrArg (fun r : ConnectionManager σ × Bool => r.1.requestBuffer)
    (handle_with cfg cm decoded cm.decoder cm.requestBuffer)

theorem decoder_handle (cfg : Config σ) (cm : ConnectionManager σ) (decoded : Decoded) :
    (cm.handle cfg decoded).1.decoder =
      if (cm.handle cfg decoded).2 then {} else cm.decoder :=
  congrArg (fun r : ConnectionManager σ × Bool => r.1.decoder)
    (handle_with cfg cm decoded cm.decoder cm.requestBuffer)

/-! ## States that are alike -/

/-- The same, but for the decoder after an exception. -/
structure Alike (cm cm' : ConnectionManager σ) : Prop where
  eq : cm' = { cm with decoder := cm'.decoder }
  ready : cm.decoder.Ready
  ready' : cm'.decoder.Ready
  decoder : cm.decodingFailed = false → cm'.decoder = cm.decoder

/-- The same but for what the next round is called with, and that round is the same. -/
structure ReadsAlike (cfg : Config σ) (cm cm' : ConnectionManager σ) : Prop where
  eq : cm' = { cm with
    decoder := cm'.decoder, requestBuffer := cm'.requestBuffer
    downstream := { cm.downstream with codec := cm'.downstream.codec } }
  ready : cm.decoder.Ready
  ready' : cm'.decoder.Ready
  round : cfg.codec.round cm.downstream.codec cm.requestBuffer =
    cfg.codec.round cm'.downstream.codec cm'.requestBuffer

theorem Alike.refl (h : cm.decoder.Ready) : Alike cm cm :=
  ⟨rfl, h, h, fun _ => rfl⟩

theorem Alike.decodingFailed (h : Alike cm cm') : cm'.decodingFailed = cm.decodingFailed := by
  rw [h.eq]

theorem Alike.trans {cm'' : ConnectionManager σ} (h : Alike cm cm') (h' : Alike cm' cm'') :
    Alike cm cm'' := by
  refine ⟨h'.eq.trans ?_, h.ready, h'.ready', fun hf => ?_⟩
  · rw [h.eq]
  · exact (h'.decoder (h.decodingFailed.trans hf)).trans (h.decoder hf)

theorem Alike.symm (h : Alike cm cm') : Alike cm' cm := by
  refine ⟨?_, h.ready', h.ready, fun hf => ?_⟩
  · rw [h.eq]
  · exact (h.decoder (h.decodingFailed.symm.trans hf)).symm

theorem Alike.readsAlike (h : Alike cm cm') : ReadsAlike cfg cm cm' := by
  refine ⟨?_, h.ready, h.ready', ?_⟩ <;> rw [h.eq]

theorem ReadsAlike.symm (h : ReadsAlike cfg cm cm') : ReadsAlike cfg cm' cm := by
  refine ⟨?_, h.ready', h.ready, h.round.symm⟩
  rw [h.eq]

/-- A call of a decoder that is ready, and what it leaves for the next one. -/
theorem decode_of_ready (cfg : Config σ) (h : cm.decoder.Ready) : ∃ decoder, cm.decode cfg =
    ({ cm with
        decoder
        requestBuffer := (cfg.codec.decode cm.downstream.codec cm.requestBuffer).buffer
        downstream := { cm.downstream with
          codec := (cfg.codec.decode cm.downstream.codec cm.requestBuffer).codec } },
      (cfg.codec.decode cm.downstream.codec cm.requestBuffer).status.decoded) ∧
    ((∀ metadata, (cfg.codec.decode cm.downstream.codec cm.requestBuffer).status =
      .done metadata → metadata.messageType = .heartbeat) → decoder.Ready) ∧
    ((cfg.codec.decode cm.downstream.codec cm.requestBuffer).status = .waitForData →
      decoder = ⟨some .waitForData, false, true⟩) := by
  obtain ⟨decoder, hdecode, hready⟩ :=
    DecoderBase.decode_of_ready h cfg.codec cm.downstream.codec cm.requestBuffer
  refine ⟨decoder, ?_, hready, fun hwait => ?_⟩
  · unfold decode
    rw [hdecode]
  · have hwaiting := DecoderBase.decode_waitForData h hwait
    rw [hdecode] at hwaiting
    exact hwaiting

/-- What a turn leaves is ready. -/
theorem ready_turn (h : cm.decoder.Ready) {again : Bool} (hturn : Turn cfg cm t again) :
    t.decoder.Ready := by
  obtain ⟨decoder, hdecode, hready, -⟩ := decode_of_ready cfg h
  have hhandle := hturn.handle
  rw [hdecode] at hhandle
  have hdecoder := decoder_handle cfg (cm.decode cfg).1 (cm.decode cfg).2
  rw [hdecode, hhandle] at hdecoder
  cases again with
  | true => exact hdecoder ▸ DecoderBase.ready_complete {}
  | false =>
    refine hdecoder ▸ hready fun metadata hstatus => ?_
    by_contra hne
    rw [hstatus] at hhandle
    simp [DecodeStatus.decoded, hne, ConnectionManager.handle] at hhandle

theorem state_onDecodingError (cm : ConnectionManager σ) :
    cm.onDecodingError.downstream.state = .closed := by
  have hclose : (cm.downstream.close .noFlush).state = .closed := by
    unfold Downstream.close
    dsimp only
    split
    · assumption
    · exact Downstream.state_resetAllMessages _ _
  exact (Downstream.state_resetAllMessages _ _).trans hclose

/-- A turn that ends the loop waits, or an exception closes the connection. -/
theorem turn_false (hc : cfg.codec.Flows I R) (hready : cm.decoder.Ready)
    (hi : I cm.downstream.codec) (hturn : Turn cfg cm t false) :
    (t = (cm.decode cfg).1 ∧ ∃ s b, cfg.codec.decode cm.downstream.codec cm.requestBuffer =
      ⟨s, b, .waitForData⟩) ∨ t.decodingFailed = true ∧ t.downstream.state = .closed := by
  obtain ⟨decoder, hdecode, -⟩ := decode_of_ready cfg hready
  have hhandle := hturn.handle
  have hkeep := hc.decode hi cm.requestBuffer
  have hthrow := fun fault => @Codec.Flows.throw _ _ _ _ hc _ cm.requestBuffer fault hi
  have hdone := fun metadata => @Codec.Keeps.done _ _ _ _ hc.toKeeps _ cm.requestBuffer metadata hi
  rw [hdecode] at hhandle ⊢
  rcases hd : cfg.codec.decode cm.downstream.codec cm.requestBuffer with ⟨s, b, status⟩
  rw [hd] at hhandle hkeep hthrow hdone
  cases status with
  | waitForData => exact Or.inl ⟨(congrArg Prod.fst hhandle).symm, s, b, rfl⟩
  | throw fault =>
    obtain ⟨what, rfl⟩ := hthrow fault rfl
    obtain rfl : onDecodingError _ = t := congrArg Prod.fst hhandle
    exact Or.inr ⟨rfl, state_onDecodingError _⟩
  | done metadata =>
    by_cases hheartbeat : metadata.messageType = .heartbeat
    · have hi' : I { cm with
          decoder, requestBuffer := b
          downstream := { cm.downstream with codec := s } }.downstream.codec := hkeep
      obtain ⟨cm', hreply, -⟩ := kept_onHeartbeat hc hi' (hdone metadata rfl)
      simp [DecodeStatus.decoded, hheartbeat, ConnectionManager.handle, hreply,
        afterHeartbeat] at hhandle
    · simp [DecodeStatus.decoded, hheartbeat, ConnectionManager.handle] at hhandle

/-- From states that read alike the loop takes the same turn. -/
theorem ReadsAlike.turn (hc : cfg.codec.Flows I R) (h : ReadsAlike cfg cm cm')
    (hi : I cm.downstream.codec) (hi' : I cm'.downstream.codec) {again : Bool}
    (hturn : Turn cfg cm t again) : ∃ t', Turn cfg cm' t' again ∧ Alike t t' := by
  obtain ⟨decoder, hdecode, -, hwait⟩ := decode_of_ready cfg h.ready
  obtain ⟨decoder', hdecode', -, hwait'⟩ := decode_of_ready cfg h.ready'
  have hround := h.round
  have hthrow := fun fault => @Codec.Flows.throw _ _ _ _ hc _ cm.requestBuffer fault hi
  have hthrow' := fun fault => @Codec.Flows.throw _ _ _ _ hc _ cm'.requestBuffer fault hi'
  have hhandle := hturn.handle
  have hsame : (cm'.decode cfg).1 = { (cm.decode cfg).1 with decoder := decoder' } ∧
      (cm.decode cfg).1.handle cfg (cm'.decode cfg).2 =
        (cm.decode cfg).1.handle cfg (cm.decode cfg).2 := by
    rw [hdecode, hdecode', h.eq]
    unfold Codec.round Decoding.round at hround
    generalize cfg.codec.decode cm.downstream.codec cm.requestBuffer = d at hround hthrow ⊢
    generalize cfg.codec.decode cm'.downstream.codec cm'.requestBuffer = d' at hround hthrow' ⊢
    obtain ⟨s, b, status⟩ := d
    obtain ⟨s', b', status'⟩ := d'
    cases status with
    | waitForData => cases status' <;> simp_all
    | done metadata => cases status' <;> simp_all
    | throw fault =>
      cases status' with
      | throw fault' =>
        obtain ⟨what, rfl⟩ := hthrow fault rfl
        obtain ⟨what', rfl⟩ := hthrow' fault' rfl
        cases hround
        exact ⟨rfl, rfl⟩
      | waitForData | done => simp_all
  obtain ⟨hcm, hdecoded⟩ := hsame
  have hwith := handle_with cfg (cm.decode cfg).1 (cm'.decode cfg).2 decoder'
    (cm.decode cfg).1.requestBuffer
  rw [hdecoded, hhandle] at hwith
  have hturn' : Turn cfg cm' _ again := turn_iff.mpr (hcm ▸ hwith)
  refine ⟨_, hturn', ?_, ready_turn h.ready hturn, ready_turn h.ready' hturn', fun hf => ?_⟩
  · have hbuffer := requestBuffer_handle cfg (cm.decode cfg).1 (cm.decode cfg).2
    rw [hhandle] at hbuffer
    rw [← hbuffer]
  · have hdecoder := decoder_handle cfg (cm.decode cfg).1 (cm.decode cfg).2
    rw [hhandle] at hdecoder
    cases again with
    | true => exact hdecoder.symm
    | false =>
      rcases turn_false hc h.ready hi hturn with ⟨-, s, b, hd⟩ | ⟨hfailed, -⟩
      · rw [Codec.round, Codec.round, hd] at hround
        rcases hd' : cfg.codec.decode cm'.downstream.codec cm'.requestBuffer with
          ⟨s', b', _ | _ | _⟩ <;> rw [hd'] at hround <;> cases hround
        refine (hwait' (congrArg Decoding.status hd')).trans (hdecoder.trans ?_).symm
        rw [hdecode]
        exact hwait (congrArg Decoding.status hd)
      · rw [hf] at hfailed
        cases hfailed

/-! ## The loop -/

section Streams

variable (hs : cfg.codec.Streams I K R begun fresh)
include hs

theorem ReadsAlike.ends {r : ConnectionManager σ} (hends : Loops.Ends (Dispatches cfg) cm r) :
    ∀ {cm' : ConnectionManager σ}, ReadsAlike cfg cm cm' → I cm.downstream.codec →
      I cm'.downstream.codec → ∃ r', Loops.Ends (Dispatches cfg) cm' r' ∧ Alike r r' := by
  have hbuffer : ∀ {t t' : ConnectionManager σ}, Alike t t' →
      t'.requestBuffer = t.requestBuffer := fun h => by rw [h.eq]
  induction hends with
  | stop hturn =>
    intro cm' h hi hi'
    cases hturn with
    | stop hturn =>
      obtain ⟨t', hturn', halike⟩ := h.turn hs.flows hi hi' hturn
      exact ⟨t', .stop (.stop hturn'), halike⟩
    | underflow hturn hb =>
      obtain ⟨t', hturn', halike⟩ := h.turn hs.flows hi hi' hturn
      exact ⟨t', .stop (.underflow hturn' ((hbuffer halike).trans hb)), halike⟩
  | again hturn _ ih =>
    intro cm' h hi hi'
    cases hturn with
    | again hturn hb =>
      obtain ⟨t', hturn', halike⟩ := h.turn hs.flows hi hi' hturn
      obtain ⟨_, htakes, -⟩ := takes_turn hs.takes hi hturn
      obtain ⟨_, htakes', -⟩ := takes_turn hs.takes hi' hturn'
      obtain ⟨r', hends', hr⟩ := ih halike.readsAlike htakes.inv htakes'.inv
      refine ⟨r', .again (.again hturn' ?_) hends', hr⟩
      rwa [hbuffer halike]

/-- The loop does with one buffer what it ends with. -/
theorem dispatchLoop_eq (hi : I cm.downstream.codec) {r : ConnectionManager σ}
    (hends : Loops.Ends (Dispatches cfg) cm r) :
    dispatchLoop cfg (cm.requestBuffer.length + 1) cm = r :=
  follows_dispatchLoop.unique (ends_dispatchLoop hs.takes hi) hends

theorem ReadsAlike.dispatchLoop (h : ReadsAlike cfg cm cm') (hi : I cm.downstream.codec)
    (hi' : I cm'.downstream.codec) :
    Alike (dispatchLoop cfg (cm.requestBuffer.length + 1) cm)
      (dispatchLoop cfg (cm'.requestBuffer.length + 1) cm') := by
  obtain ⟨r', hends', halike⟩ := ReadsAlike.ends hs (ends_dispatchLoop hs.takes hi) h hi hi'
  rwa [dispatchLoop_eq hs hi' hends']

theorem Alike.dispatch (h : Alike cm cm') (hi : I cm.downstream.codec) :
    Alike (cm.dispatch cfg) (cm'.dispatch cfg) := by
  have hbuffer : cm'.requestBuffer = cm.requestBuffer := by rw [h.eq]
  have hstopped : cm'.stopped = cm.stopped := by rw [h.eq]
  have hcodec : cm'.downstream.codec = cm.downstream.codec := by rw [h.eq]
  have hloop := ReadsAlike.dispatchLoop hs h.readsAlike hi (hcodec.symm ▸ hi)
  unfold ConnectionManager.dispatch
  rw [hbuffer] at hloop ⊢
  rw [hstopped]
  split_ifs
  · exact h
  · exact h
  · exact hloop

/-! ## More bytes -/

/-- With more bytes behind the buffer. -/
def give (x : Bytes) (cm : ConnectionManager σ) : ConnectionManager σ :=
  { cm with requestBuffer := cm.requestBuffer ++ x }

omit hs in
theorem give_give (x y : Bytes) (cm : ConnectionManager σ) :
    (cm.give x).give y = cm.give (x ++ y) := by
  simp [give]

/-- A message that is complete is complete with more bytes behind it. -/
theorem turn_give (hready : cm.decoder.Ready) (hk : K cm.downstream.codec)
    (hturn : Turn cfg cm t true) (x : Bytes) :
    Turn cfg (cm.give x) (t.give x) true ∧ K t.downstream.codec := by
  obtain ⟨decoder, hdecode, -⟩ := decode_of_ready cfg hready
  have hready' : (cm.give x).decoder.Ready := hready
  obtain ⟨decoder', hdecode', -⟩ := decode_of_ready cfg hready'
  have hhandle := hturn.handle
  have hcodec := (turnReads hturn).codec
  rw [hdecode] at hhandle hcodec
  have hemit : ∃ metadata s b, cfg.codec.decode cm.downstream.codec cm.requestBuffer =
      ⟨s, b, .done metadata⟩ := by
    rcases hd : cfg.codec.decode cm.downstream.codec cm.requestBuffer with
      ⟨s, b, _ | metadata | what | site⟩
    · simp [hd, DecodeStatus.decoded, ConnectionManager.handle] at hhandle
    · exact ⟨metadata, s, b, rfl⟩
    · simp [hd, DecodeStatus.decoded, ConnectionManager.handle] at hhandle
    · simp [hd, DecodeStatus.decoded, ConnectionManager.handle] at hhandle
  obtain ⟨metadata, s, b, hd⟩ := hemit
  have hround : cfg.codec.round cm.downstream.codec cm.requestBuffer = .emit metadata s b := by
    rw [Codec.round, hd]
    rfl
  obtain ⟨hk', -, -, -, hmore⟩ := hs.cuttable.emit hk hround
  have hd' : cfg.codec.decode cm.downstream.codec (cm.requestBuffer ++ x) =
      ⟨s, b ++ x, .done metadata⟩ := by
    have hround' := hmore x
    unfold Codec.round Decoding.round at hround'
    rcases hd' : cfg.codec.decode cm.downstream.codec (cm.requestBuffer ++ x) with
      ⟨s', b', _ | metadata' | fault⟩ <;> rw [hd'] at hround' <;> cases hround'
    rfl
  rw [hd] at hdecode hhandle hcodec
  refine ⟨turn_iff.mpr ?_, hcodec ▸ hk'⟩
  have hbuffer := requestBuffer_handle cfg (cm.decode cfg).1 (cm.decode cfg).2
  have hdecoder := decoder_handle cfg (cm.decode cfg).1 (cm.decode cfg).2
  have hwith := handle_with cfg (cm.decode cfg).1 (cm.decode cfg).2 decoder' (b ++ x)
  rw [hdecode] at hbuffer hdecoder hwith
  dsimp only at hbuffer hdecoder hwith hhandle
  rw [hhandle] at hbuffer hdecoder hwith
  rw [hdecode']
  change ConnectionManager.handle cfg { cm with
      decoder := decoder'
      requestBuffer := (cfg.codec.decode cm.downstream.codec (cm.requestBuffer ++ x)).buffer
      downstream := { cm.downstream with
        codec := (cfg.codec.decode cm.downstream.codec (cm.requestBuffer ++ x)).codec } }
    (cfg.codec.decode cm.downstream.codec (cm.requestBuffer ++ x)).status.decoded = _
  rw [hd']
  refine hwith.trans ?_
  rw [if_pos rfl] at hdecoder ⊢
  rw [give, ← hdecoder, hbuffer]

omit hs in
theorem ready_ends {r : ConnectionManager σ} (hends : Loops.Ends (Dispatches cfg) cm r)
    (hready : cm.decoder.Ready) : r.decoder.Ready := by
  induction hends with
  | stop hturn => cases hturn with
    | stop hturn | underflow hturn => exact ready_turn hready hturn
  | again hturn _ ih => cases hturn with
    | again hturn => exact ih (ready_turn hready hturn)

omit hs in
theorem dispatch_eq (hb : cm.requestBuffer ≠ []) (hstopped : cm.stopped = false) :
    cm.dispatch cfg = dispatchLoop cfg (cm.requestBuffer.length + 1) cm := by
  simp [ConnectionManager.dispatch, hb, hstopped]

/-- More bytes behind the buffer are read as if they had come when the loop was at its end. -/
theorem alike_give {r : ConnectionManager σ} (hends : Loops.Ends (Dispatches cfg) cm r)
    (hready : cm.decoder.Ready) (hi : I cm.downstream.codec) (hk : K cm.downstream.codec)
    (hstopped : r.stopped = false) (hopen : r.downstream.state = .open) (x : Bytes) :
    ∃ r', Loops.Ends (Dispatches cfg) (cm.give x) r' ∧ Alike r' ((r.give x).dispatch cfg) := by
  induction hends with
  | @stop cm r hturn =>
    cases hturn with
    | stop hturn =>
      obtain ⟨hr, s, b, hd⟩ | ⟨-, hclosed⟩ := turn_false hs.flows hready hi hturn
      swap
      · rw [hopen] at hclosed
        cases hclosed
      obtain ⟨decoder, hdecode, -⟩ := decode_of_ready cfg hready
      obtain ⟨_, htakes, -⟩ := takes_turn hs.takes hi hturn
      have hround : cfg.codec.round cm.downstream.codec cm.requestBuffer = .wait s b := by
        rw [Codec.round, hd]
        rfl
      rw [hdecode, hd] at hr
      have hrest := ready_turn hready hturn
      have hreads : ReadsAlike cfg (r.give x) (cm.give x) := by
        refine ⟨?_, hrest, hready, ?_⟩
        · rw [hr]
          rfl
        · rw [hr]
          exact ((hs.cuttable.wait hk hround).2 x).symm
      by_cases hnil : (r.give x).requestBuffer = []
      · obtain rfl : x = [] := (List.append_eq_nil_iff.mp hnil).2
        have hgive : ∀ cm : ConnectionManager σ, cm.give [] = cm := fun cm => by simp [give]
        rw [hgive] at hnil
        rw [hgive, hgive, ConnectionManager.dispatch, if_pos hnil]
        exact ⟨r, .stop (.stop hturn), .refl hrest⟩
      · have hir : I (r.give x).downstream.codec := htakes.inv
        obtain ⟨r', hends', halike⟩ := ReadsAlike.ends hs (ends_dispatchLoop hs.takes hir)
          hreads hir hi
        rw [dispatch_eq hnil hstopped]
        exact ⟨r', hends', halike.symm⟩
    | underflow hturn hb =>
      obtain ⟨hturn', -⟩ := turn_give hs hready hk hturn x
      obtain ⟨_, htakes, -⟩ := takes_turn hs.takes hi hturn
      have hrest := ready_turn hready hturn
      by_cases hnil : (r.give x).requestBuffer = []
      · rw [ConnectionManager.dispatch, if_pos hnil]
        exact ⟨r.give x, .stop (.underflow hturn' hnil), .refl hrest⟩
      · have hir : I (r.give x).downstream.codec := htakes.inv
        have hends := ends_dispatchLoop hs.takes hir
        rw [dispatch_eq hnil hstopped]
        exact ⟨_, .again (.again hturn' hnil) hends, .refl (ready_ends hends hrest)⟩
  | @again cm t r hturn _ ih =>
    cases hturn with
    | again hturn hb =>
      obtain ⟨hturn', hk'⟩ := turn_give hs hready hk hturn x
      obtain ⟨_, htakes, -⟩ := takes_turn hs.takes hi hturn
      obtain ⟨r', hends', halike⟩ := ih (ready_turn hready hturn) htakes.inv hk' hstopped hopen
      refine ⟨r', .again (.again hturn' ?_) hends', halike⟩
      simp [give, hb]

theorem alike_dispatch_give (hready : cm.decoder.Ready) (hi : I cm.downstream.codec)
    (hk : K cm.downstream.codec) (hstopped : cm.stopped = false)
    (hstopped' : (cm.dispatch cfg).stopped = false)
    (hopen : (cm.dispatch cfg).downstream.state = .open) (x : Bytes) :
    Alike ((cm.give x).dispatch cfg) (((cm.dispatch cfg).give x).dispatch cfg) := by
  by_cases hnil : cm.requestBuffer = []
  · have hdispatch : cm.dispatch cfg = cm := by rw [ConnectionManager.dispatch, if_pos hnil]
    rw [hdispatch]
    exact Alike.dispatch hs (.refl hready) hi
  · have hends := ends_dispatchLoop hs.takes hi
    rw [← dispatch_eq hnil hstopped] at hends
    obtain ⟨r', hends', halike⟩ := alike_give hs hends hready hi hk hstopped' hopen x
    have hb : (cm.give x).requestBuffer ≠ [] := by simp [give, hnil]
    have hix : I (cm.give x).downstream.codec := hi
    rw [dispatch_eq hb hstopped, dispatchLoop_eq hs hix hends']
    exact halike

/-! ## Events -/

omit hs in
/-- What does not touch the decoder leads from states that are alike to states that are alike. -/
theorem Alike.map (h : Alike cm cm') {f : ConnectionManager σ → ConnectionManager σ}
    (hf : ∀ cm decoder, f { cm with decoder } = { f cm with decoder })
    (hfailed : ∀ cm, (f cm).decodingFailed = cm.decodingFailed) : Alike (f cm) (f cm') := by
  have hdecoder : ∀ cm, (f cm).decoder = cm.decoder := fun cm =>
    congrArg (·.decoder) (hf cm cm.decoder)
  refine ⟨?_, (hdecoder cm).symm ▸ h.ready, (hdecoder cm').symm ▸ h.ready', fun hnot => ?_⟩
  · rw [hdecoder, h.eq]
    exact hf cm _
  · rw [hdecoder, hdecoder]
    exact h.decoder ((hfailed cm).symm.trans hnot)

omit hs in
theorem onData_eq {data : Bytes} (hstopped : ((cm.give data).dispatch cfg).stopped = false)
    (endStream : Bool) : cm.onData cfg data endStream =
      if endStream then ((cm.give data).dispatch cfg).resetAndClose
      else (cm.give data).dispatch cfg := by
  unfold ConnectionManager.onData
  dsimp only
  rw [show { cm with requestBuffer := cm.requestBuffer ++ data } = cm.give data from rfl, hstopped]
  rfl

theorem stopped_dispatch_give (h : Fed cfg I True received cm) (data : Bytes) :
    ((cm.give data).dispatch cfg).stopped = false :=
  (h.dispatch hs.flows (fun _ => trivial) data).ordered.stopped

theorem Alike.onData (h : Alike cm cm') (hfed : Fed cfg I True received cm) (data : Bytes)
    (endStream : Bool) : Alike (cm.onData cfg data endStream) (cm'.onData cfg data endStream) := by
  have hi : I (cm.give data).downstream.codec := hfed.ordered.sound
  have hgive : Alike (cm.give data) (cm'.give data) := h.map (fun _ _ => rfl) fun _ => rfl
  have hdispatch := Alike.dispatch hs hgive hi
  have hstopped := stopped_dispatch_give hs hfed data
  have hstopped' : ((cm'.give data).dispatch cfg).stopped = false := by
    rw [hdispatch.eq]
    exact hstopped
  rw [onData_eq hstopped, onData_eq hstopped']
  split
  · exact hdispatch.map (fun _ _ => rfl) fun _ => rfl
  · exact hdispatch

theorem Alike.continueDecoding (h : Alike cm cm') (hi : I cm.downstream.codec) :
    Alike (cm.continueDecoding cfg) (cm'.continueDecoding cfg) := by
  have hgo : Alike { cm with stopped := false } { cm' with stopped := false } :=
    h.map (f := fun cm => { cm with stopped := false }) (fun _ _ => rfl) fun _ => rfl
  have hdispatch := Alike.dispatch hs hgo hi
  unfold ConnectionManager.continueDecoding
  dsimp only
  generalize ConnectionManager.dispatch cfg { cm with stopped := false } = r at hdispatch ⊢
  generalize ConnectionManager.dispatch cfg { cm' with stopped := false } = r' at hdispatch ⊢
  have hstopped : r'.stopped = r.stopped := by rw [hdispatch.eq]
  have hhalf : r'.halfClosed = r.halfClosed := by rw [hdispatch.eq]
  rw [hstopped, hhalf]
  split
  · exact hdispatch.map (fun _ _ => rfl) fun _ => rfl
  · exact hdispatch

theorem Alike.continueMessage (h : Alike cm cm') (hi : I cm.downstream.codec) (i position : ℕ) :
    Alike (cm.continueMessage cfg i position) (cm'.continueMessage cfg i position) := by
  have hstream : cm'.stream i = cm.stream i := by
    rw [h.eq]
    rfl
  have hquiet := Stream.quiet_continueDecoding cfg position (cm.stream i)
  unfold ConnectionManager.continueMessage
  rw [hstream]
  generalize (cm.stream i).continueDecoding cfg position = r at hquiet ⊢
  obtain ⟨_ | _, s⟩ := r
  · exact h.map (f := fun cm => cm.setStream i s) (fun _ _ => rfl) fun _ => rfl
  · have hset : Alike (cm.setStream i s) (cm'.setStream i s) := h.map (fun _ _ => rfl) fun _ => rfl
    have hi' : I (cm.setStream i s).downstream.codec := hquiet.codec.symm ▸ hi
    exact Alike.continueDecoding hs hset hi'

/-- An event leads from states that are alike to states that are alike. -/
theorem Alike.step (h : Alike cm cm') (hfed : Fed cfg I True received cm) (e : Event) :
    Alike (step cfg cm e) (step cfg cm' e) := by
  have hi := hfed.ordered.sound
  cases e with
  | downstreamData data endStream => exact h.onData hs hfed data endStream
  | poolReady i host leftover =>
    have hready : Alike (cm.onStream i (Stream.onPoolReadyConnection host leftover))
        (cm'.onStream i (Stream.onPoolReadyConnection host leftover)) :=
      h.map (fun _ _ => rfl) fun _ => rfl
    have hi' : I (cm.onStream i (Stream.onPoolReadyConnection host leftover)).downstream.codec :=
      (Stream.quiet_onPoolReadyConnection host leftover (cm.stream i)).codec.symm ▸ hi
    have hcontinue := hready.continueMessage hs hi' i (routerPosition cfg)
    exact hcontinue.map (f := fun cm => cm.onStream i fun s => s.onRequestComplete.encodeData)
      (fun _ _ => rfl) fun _ => rfl
  | poolFailure i reason host =>
    have hreset : Alike (cm.onStream i (Stream.onPoolFailureReset cfg reason host))
        (cm'.onStream i (Stream.onPoolFailureReset cfg reason host)) :=
      h.map (fun _ _ => rfl) fun _ => rfl
    have hi' : I (cm.onStream i (Stream.onPoolFailureReset cfg reason host)).downstream.codec :=
      (Stream.quiet_onPoolFailureReset cfg reason host (cm.stream i)).codec.symm ▸ hi
    unfold ConnectionManager.step onPoolFailure
    cases reason
    case overflow => exact hreset
    all_goals exact hreset.continueMessage hs hi' i (routerPosition cfg)
  | continueDecoding i position => exact h.continueMessage hs hi i position
  | downstreamClose event =>
    exact h.map (f := onDownstream (Downstream.closed event)) (fun _ _ => rfl) fun _ => rfl
  | upstreamData i data endStream =>
    exact h.map (f := fun cm =>
      cm.onStream i (Stream.onUpstreamData cfg (cm.upstreamBuffer i ++ data) endStream))
        (fun _ _ => rfl) fun _ => rfl
  | upstreamClose i event =>
    exact h.map (f := onStream i (Stream.upstreamClosed cfg event)) (fun _ _ => rfl) fun _ => rfl
  | continueEncoding i position =>
    exact h.map (f := onStream i (Stream.continueEncoding cfg position)) (fun _ _ => rfl)
      fun _ => rfl
  | release i => exact h.map (f := onStream i (Stream.destroy cfg)) (fun _ _ => rfl) fun _ => rfl

/-! ## Runs -/

/-- A chunk from the client is cut in two. -/
inductive Event.Cut : Event → Event → Event → Prop
  | downstreamData (data data' : Bytes) (endStream : Bool) :
    Cut (.downstreamData (data ++ data') endStream) (.downstreamData data false)
      (.downstreamData data' endStream)

omit hs in
/-- An exception closes the connection for good. -/
theorem course_closed : Course cfg I R fun cm : ConnectionManager σ =>
    cm.decodingFailed = true → cm.downstream.state = .closed where
  read h _ _ _ := h
  go h := h
  halfClose h := h
  panic h _ := h
  deed _ h _ _ _ hd hfailed := hd.onward.closed (h hfailed)
  newStream _ h _ _ _ hacts :=
    ⟨fun hfailed => hacts.onward.closed (h hfailed),
      fun hfailed => (Stream.onward_finalizeRequest _).closed (hacts.onward.closed (h hfailed))⟩
  finalizeRequest _ h _ _ _ hfailed := (Stream.onward_finalizeRequest _).closed (h hfailed)
  destroy _ h _ _ _ _ hacts hfailed := hacts.onward.closed (h hfailed)
  onHeartbeat := by
    intro cm _ h metadata _
    obtain ⟨ws, hcm, -⟩ := onHeartbeat_spec cfg metadata cm
    rw [hcm]
    exact h
  onDecodingError _ _ := state_onDecodingError _
  resetAndClose h hfailed := (Downstream.onward_close .flushWrite _).closed
    ((Downstream.onward_resetAllMessages false _).closed (h hfailed))
  closed h event hfailed := (Downstream.onward_closed event _).closed (h hfailed)

/-- What is known of the states of a run. -/
structure Streaming (cfg : Config σ) (I : σ → Prop) (R : Metadata → Prop)
    (cm : ConnectionManager σ) : Prop where
  course : OnCourse I R (fun cm => cm.decodingFailed = true → cm.downstream.state = .closed) cm
  fed : ∃ received, Fed cfg I True received cm

theorem streaming_new : Streaming cfg I R (new cfg) :=
  ⟨⟨proper_new hs.flows.toKeeps, by rintro ⟨⟩⟩, [], fed_new hs.flows⟩

theorem Streaming.step (h : Streaming cfg I R cm) {e : Event} (he : cm.Permitted cfg e) :
    Streaming cfg I R (step cfg cm e) := by
  obtain ⟨received, hfed⟩ := h.fed
  exact ⟨h.course.step course_closed hs.flows.toKeeps he, _,
    fed_step hs.flows hfed (fun _ => trivial) e⟩

/-- Two chunks do what they do in one. -/
theorem Streaming.cut (h : Streaming cfg I R cm) {e e₁ e₂ : Event} (hcut : Event.Cut e e₁ e₂)
    (he₁ : cm.Enabled cfg e₁) (he₂ : (ConnectionManager.step cfg cm e₁).Enabled cfg e₂) :
    cm.Enabled cfg e ∧
      Alike (ConnectionManager.step cfg (ConnectionManager.step cfg cm e₁) e₂)
        (ConnectionManager.step cfg cm e) := by
  cases hcut with
  | downstreamData data data' endStream =>
    obtain ⟨received, hfed⟩ := h.fed
    have hstep := stopped_dispatch_give hs hfed data
    have hwhole := stopped_dispatch_give hs hfed (data ++ data')
    have hfed' := hfed.dispatch hs.flows (fun _ => trivial) data
    have hlast := stopped_dispatch_give hs hfed' data'
    have hfirst : ConnectionManager.step cfg cm (.downstreamData data false) =
        (cm.give data).dispatch cfg := onData_eq hstep false
    have hsecond : ConnectionManager.step cfg ((cm.give data).dispatch cfg)
        (.downstreamData data' endStream) = _ := onData_eq hlast endStream
    have hboth : ConnectionManager.step cfg cm (.downstreamData (data ++ data') endStream) = _ :=
      onData_eq hwhole endStream
    have hopen : cm.downstream.state = .open := he₁.2
    have hopen' : ((cm.give data).dispatch cfg).downstream.state = .open := hfirst ▸ he₂.2
    have hk : K cm.downstream.codec := by
      obtain ⟨p, hat, hp⟩ := hfed.progress
      rw [hat.state]
      refine hp.inv hs.cuttable hs.init (hat.failed ▸ ?_)
      by_contra hfailed
      rw [h.course.prop (by simpa using hfailed)] at hopen
      cases hopen
    have hgive : Ordered I (cm.give data) :=
      ⟨hfed.ordered.ready, hfed.ordered.sound, hfed.ordered.stopped⟩
    have halike := (alike_dispatch_give hs hgive.ready hgive.sound hk hgive.stopped hstep hopen'
      data').symm
    rw [give_give] at halike
    refine ⟨he₁, ?_⟩
    rw [hfirst, hsecond, hboth]
    cases endStream with
    | false => exact halike
    | true => exact halike.map (f := resetAndClose) (fun _ _ => rfl) fun _ => rfl

/-- Where the chunks of the client were cut makes no difference : the connection comes to the same
state, but for the decoder. -/
theorem recut_run {es es' : List Event} (h : Transition.InPieces Event.Cut es es')
    (hes : (system cfg).Admissible (new cfg) es) :
    (system cfg).Admissible (new cfg) es' ∧
      Alike ((system cfg).run (new cfg) es) ((system cfg).run (new cfg) es') := by
  refine Transition.agree_run_pieces (S := system cfg) (A := Alike) (J := Streaming cfg I R)
    (fun _ _ _ => Alike.trans) (fun _ _ hcm he => hcm.step hs he.2)
    (fun _ _ e halike he => ?_) (fun _ _ e hcm halike _ => ?_)
    (fun _ _ _ _ hcut hcm he₁ he₂ => hcm.cut hs hcut he₁ he₂) h (streaming_new hs) ?_ hes
  · rw [halike.eq]
    cases e <;> exact he
  · obtain ⟨received, hfed⟩ := hcm.fed
    exact halike.step hs hfed e
  · exact .refl ⟨rfl, by rintro ⟨⟩, by simp [new]⟩

end Streams

/-! ## The codecs -/

/-- With the Dubbo codec and every chain of filters. -/
theorem recut_run_dubbo {hessian : Dubbo.Hessian2} (hl : hessian.Local)
    {cfg : Config Dubbo.DubboCodec.State} (hc : cfg.codec = Dubbo.DubboCodec.codec hessian)
    {es es' : List Event} (h : Transition.InPieces Event.Cut es es')
    (hes : (system cfg).Admissible (new cfg) es) :
    (system cfg).Admissible (new cfg) es' ∧
      Alike ((system cfg).run (new cfg) es) ((system cfg).run (new cfg) es') := by
  have hcuttable := (Dubbo.DubboCodec.splittable_round hl).cuttable
  have htakes := Dubbo.DubboCodec.takes_codec hessian
  rw [← hc] at hcuttable htakes
  refine recut_run (Codec.streams (flows_dubbo hc) htakes hcuttable ?_) h hes
  rw [hc]
  exact ⟨.idle, Dubbo.DubboCodec.hungry_none⟩

/-- Two requests, of which the first comes in three chunks and the second in two. -/
theorem recut_run_dubbo_requests :
    (system (DubboExample.config none)).Admissible (new (DubboExample.config none))
        [.downstreamData (DubboExample.request 1 ++ DubboExample.request 2) false] ∧
      Alike ((system (DubboExample.config none)).run (new (DubboExample.config none))
          [.downstreamData ((DubboExample.request 1).take 5) false,
            .downstreamData ((DubboExample.request 1).drop 5) false,
            .downstreamData (DubboExample.request 2) false])
        ((system (DubboExample.config none)).run (new (DubboExample.config none))
          [.downstreamData (DubboExample.request 1 ++ DubboExample.request 2) false]) :=
  recut_run_dubbo Dubbo.Hessian2.compact_local rfl
    (.cut (.downstreamData _ _ false)
      (.cut (.downstreamData (DubboExample.request 1) (DubboExample.request 2) false)
        (.cons _ .nil)))
    (by decide +kernel)

/-- With the Thrift codec, every transport and protocol that keep their promises, and every chain
of filters. -/
theorem recut_run_thrift {τ π : Type} {t : Thrift.Transport τ} {p : Thrift.Protocol π}
    (ht : t.Local) (htp : t.Progress) (hl : p.Local) (hp : p.Progress) (hy : p.Typed)
    {transport : τ} {protocol : π} {cfg : Config (Thrift.ThriftCodec.State τ π)}
    (hc : cfg.codec = Thrift.ThriftCodec.codec t p transport protocol)
    {es es' : List Event} (h : Transition.InPieces Event.Cut es es')
    (hes : (system cfg).Admissible (new cfg) es) :
    (system cfg).Admissible (new cfg) es' ∧
      Alike ((system cfg).run (new cfg) es) ((system cfg).run (new cfg) es') := by
  have hflows := Thrift.ThriftCodec.flows_codec ht htp hl hp transport protocol hy
  have htakes := Thrift.ThriftCodec.takes_codec htp hp transport protocol
  have hcuttable := Thrift.ThriftCodec.cuttable_round ht htp hl hp transport protocol
  rw [← hc] at hflows htakes hcuttable
  refine recut_run (Codec.streams hflows htakes hcuttable ?_) h hes
  rw [hc]
  exact Thrift.ThriftCodec.sound_idle rfl rfl

open Thrift Thrift.ThriftExample Thrift.FramedTransport in
/-- A call that is cut behind its header. -/
theorem recut_run_thrift_call :
    (system config).Admissible (new config)
        [.downstreamData ((frame (call 1)).take 13 ++ (frame (call 1)).drop 13) false] ∧
      Alike ((system config).run (new config)
          [.downstreamData ((frame (call 1)).take 13) false,
            .downstreamData ((frame (call 1)).drop 13) false])
        ((system config).run (new config)
          [.downstreamData ((frame (call 1)).take 13 ++ (frame (call 1)).drop 13) false]) :=
  recut_run_thrift Thrift.FramedTransport.local_transport Thrift.FramedTransport.progress_transport
    Thrift.BinaryProtocol.local_protocol Thrift.BinaryProtocol.progress_protocol
    Thrift.BinaryProtocol.typed_protocol rfl (.cut (.downstreamData _ _ false) (.cons _ .nil))
    (by decide +kernel)

end ConnectionManager

end MetaProtocolProxy
