import MetaProtocolProxy.DubboCodec
import MetaProtocolProxy.Resumable

/-!
# Chunks of a Dubbo stream

One call of `decode` is a round of a resumable decoder (`Codec.round`). The rounds of the
Dubbo codec do not depend on where the stream was cut (`splittable_round`) : a complete
header is read from its own bytes, an incomplete heartbeat is parsed again to the same
metadata, and a complete body is accepted or rejected whatever follows it.
-/

namespace MetaProtocolProxy

open Resumable (Round)

/-- The end of a call of `decode` as the end of a round : the text of an exception is left
out. -/
def Decoding.round {σ : Type} (decoding : Decoding σ) : Round UInt8 σ Metadata :=
  match decoding.status with
  | .waitForData => .wait decoding.codec decoding.buffer
  | .done metadata => .emit metadata decoding.codec decoding.buffer
  | .throw _ => .fail decoding.codec decoding.buffer

/-- A call of `decode` as a round. -/
def Codec.round {σ : Type} (codec : Codec σ) (s : σ) (buffer : Bytes) : Round UInt8 σ Metadata :=
  (codec.decode s buffer).round

namespace Dubbo.DubboCodec

variable {hessian : Hessian2} {buffer : Bytes}

/-- A machine that waits for a body waits for one that is not empty. -/
def Hungry (s : State) : Prop :=
  ∀ machine context, s = some machine → machine.state = .onDecodeStreamData →
    machine.context = some context → 0 < context.bodySize

theorem hungry_none : Hungry none := by
  rintro _ _ ⟨⟩

theorem hungry_header {machine : DecoderStateMachine}
    (hs : machine.state = .onDecodeStreamHeader) : Hungry (some machine) := by
  rintro _ _ ⟨⟩ hd
  rw [hs] at hd
  cases hd

theorem hungry_data {machine : DecoderStateMachine} {context : Context}
    (hc : machine.context = some context) (hsize : 0 < context.bodySize) :
    Hungry (some machine) := by
  rintro _ _ ⟨⟩ - hc'
  obtain rfl := Option.some.inj (hc.symm.trans hc')
  exact hsize

/-- What a call of `decode` from a sound state can do, and what it does with more bytes
behind the buffer. -/
inductive Outcome (hessian : Hessian2) (s : State) (buffer : Bytes) : Decoding State → Prop
  | wait {s' buffer'} (hhungry : Hungry s')
      (hmore : ∀ x, decode hessian s (buffer ++ x) = decode hessian s' (buffer' ++ x)) :
      Outcome hessian s buffer ⟨s', buffer', .waitForData⟩
  | done {buffer' metadata} (hlen : buffer'.length < buffer.length)
      (hmore : ∀ x, decode hessian s (buffer ++ x) = ⟨none, buffer' ++ x, .done metadata⟩) :
      Outcome hessian s buffer ⟨none, buffer', .done metadata⟩
  | throw {s' buffer' what}
      (hmore : ∀ x, (∃ what', decode hessian s (buffer ++ x) =
          ⟨s', buffer' ++ x, .throw (.exception what')⟩) ∧
        ∃ what', decode hessian s' (buffer' ++ x) =
          ⟨s', buffer' ++ x, .throw (.exception what')⟩) :
      Outcome hessian s buffer ⟨s', buffer', .throw (.exception what)⟩

section Data

variable {machine : DecoderStateMachine} {context : Context}
  (hs : machine.state = .onDecodeStreamData) (hc : machine.context = some context)

include hs hc in
/-- A body that is accepted is accepted with the same bytes whatever follows it. -/
theorem decode_data_done_append (hl : hessian.Local) {metadata : MessageMetadata}
    (h : decodeData hessian buffer context machine.metadata = .ok (some metadata)) (x : Bytes) :
    decode hessian (some machine) (buffer ++ x) =
      ⟨none, buffer.drop context.bodySize ++ x,
        .done (toMetadataWithContext metadata
          { context with originMessage := context.originMessage ++
              buffer.take context.bodySize } {})⟩ := by
  have hb : context.bodySize ≤ buffer.length := by
    by_contra hb
    rw [decodeData_of_short (by omega)] at h
    cases h
  have hx : decodeData hessian (buffer ++ x) context machine.metadata = .ok (some metadata) :=
    decodeData_local hl hb (by rw [List.length_append]; omega)
      (List.take_append_of_le_length hb).symm h
  rw [decode_data_done hs hc hx, List.drop_append_of_le_length hb,
    List.take_append_of_le_length hb]

include hs hc in
/-- A body that is rejected is rejected whatever follows it. -/
theorem decode_data_error_append (hl : hessian.Local)
    (hb : machine.metadata.messageType.isHeartbeat = false)
    (he : machine.metadata.messageType ≠ .exception) {fault : Fault}
    (h : decodeData hessian buffer context machine.metadata = .error fault) (x : Bytes) :
    ∃ what, decode hessian (some machine) (buffer ++ x) =
      ⟨some machine, buffer ++ x, .throw (.exception what)⟩ := by
  have hlen : context.bodySize ≤ buffer.length := by
    by_contra hlen
    rw [decodeData_of_short (by omega)] at h
    cases h
  have hlenx : context.bodySize ≤ (buffer ++ x).length := by
    rw [List.length_append]
    omega
  cases hx : decodeData hessian (buffer ++ x) context machine.metadata with
  | ok result =>
    rw [decodeData_local hl hlenx hlen (List.take_append_of_le_length hlen) hx] at h
    cases h
  | error fault' =>
    obtain ⟨what, rfl, -⟩ := decodeData_error hb he hx
    exact ⟨what, decode_data_error hs hc hx⟩

include hs hc in
/-- The outcome of a call that has a body to decode. Of an empty body the machine only
knows that the frame it belongs to is not empty (`hlen`). -/
theorem outcome_data (hl : hessian.Local)
    (hb : machine.metadata.messageType.isHeartbeat = false)
    (he : machine.metadata.messageType ≠ .exception) {s : State} {whole : Bytes}
    (hwhole : ∀ x, decode hessian s (whole ++ x) = decode hessian (some machine) (buffer ++ x))
    (hlen : buffer.length < whole.length ∨ buffer.length = whole.length ∧ 0 < context.bodySize) :
    Outcome hessian s whole (decode hessian (some machine) buffer) := by
  cases hd : decodeData hessian buffer context machine.metadata with
  | error fault =>
    obtain ⟨what, rfl, -⟩ := decodeData_error hb he hd
    rw [decode_data_error hs hc hd]
    refine .throw fun x => ?_
    have hx := decode_data_error_append hs hc hl hb he hd x
    exact ⟨hwhole x ▸ hx, hx⟩
  | ok result =>
    cases result with
    | none =>
      have hshort : buffer.length < context.bodySize := by
        by_contra hshort
        exact decodeData_ne_none (Nat.not_lt.mp hshort) _ hd
      rw [decode_data_none hs hc hd]
      exact .wait (hungry_data hc (by omega)) hwhole
    | some metadata =>
      have hx := decode_data_done_append hs hc hl hd
      have h0 := hx []
      simp only [List.append_nil] at h0
      rw [h0]
      refine .done ?_ fun x => (hwhole x).trans (hx x)
      rw [List.length_drop]
      have hshort : context.bodySize ≤ buffer.length := by
        by_contra hshort
        rw [decodeData_of_short (by omega)] at hd
        cases hd
      omega

end Data

/-- The outcome of a call that has a header to decode. -/
theorem outcome_header (hl : hessian.Local) {machine : DecoderStateMachine}
    (hs : machine.state = .onDecodeStreamHeader) :
    Outcome hessian (some machine) buffer (decode hessian (some machine) buffer) := by
  by_cases hshort : buffer.length < messageSize
  · rw [decode_header_none hs (decodeHeader_of_short hshort _)]
    exact .wait (hungry_header hs) fun x => rfl
  have happend := fun x => decodeHeader_append (Nat.not_lt.mp hshort) x machine.metadata
  rcases hd : decodeHeader buffer machine.metadata with fault | _ | ⟨context, metadata⟩
  · obtain ⟨what, rfl, -⟩ := decodeHeader_error hd
    rw [decode_header_error hs hd]
    refine .throw fun x => ?_
    have hx : decode hessian (some machine) (buffer ++ x) = _ :=
      decode_header_error hs ((happend x).trans hd)
    exact ⟨⟨what, hx⟩, ⟨what, hx⟩⟩
  · exact absurd hd (decodeHeader_ne_none (Nat.not_lt.mp hshort) _)
  have hspec := decodeHeader_spec hd
  have hx := fun x => (happend x).trans hd
  cases hb : metadata.messageType.isHeartbeat with
  | false =>
    have hlen : context.headerSize ≤ buffer.length := hspec.headerSize ▸ hspec.length
    rw [decode_header hs hd hb]
    refine outcome_data rfl rfl hl hb hspec.messageType (fun x => ?_) (Or.inl ?_)
    · rw [decode_header hs (hx x) hb, List.drop_append_of_le_length hlen,
        List.take_append_of_le_length hlen]
    · have hpos : 0 < context.headerSize := hspec.headerSize ▸ Nat.succ_pos _
      rw [List.length_drop]
      omega
  | true =>
    by_cases hl : buffer.length < context.headerSize + context.bodySize
    · rw [decode_heartbeat_short hs hd hb hl]
      refine .wait (hungry_header hs) fun x => ?_
      have hagain := decodeHeader_again (hx x)
      have hs' : { machine with metadata, context := some context }.state =
          .onDecodeStreamHeader := hs
      by_cases hl' : (buffer ++ x).length < context.headerSize + context.bodySize
      · rw [decode_heartbeat_short hs (hx x) hb hl', decode_heartbeat_short hs' hagain hb hl']
      · rw [decode_heartbeat hs (hx x) hb (Nat.not_lt.mp hl'),
          decode_heartbeat hs' hagain hb (Nat.not_lt.mp hl')]
    · have hlen := Nat.not_lt.mp hl
      have hpos : 0 < context.headerSize := hspec.headerSize ▸ Nat.succ_pos _
      rw [decode_heartbeat hs hd hb hlen]
      refine .done ?_ fun x => ?_
      · rw [List.length_drop]
        omega
      · rw [decode_heartbeat hs (hx x) hb (by rw [List.length_append]; omega),
          List.drop_append_of_le_length hlen, List.take_append_of_le_length hlen]

theorem Outcome.of_eq {s t : State} {d : Decoding State}
    (h : ∀ b, decode hessian s b = decode hessian t b) (ho : Outcome hessian s buffer d) :
    Outcome hessian t buffer d := by
  cases ho with
  | wait hhungry hmore => exact .wait hhungry fun x => h _ ▸ hmore x
  | done hlen hmore => exact .done hlen fun x => h _ ▸ hmore x
  | throw hmore => exact .throw fun x => h (buffer ++ x) ▸ hmore x

/-- What a call of `decode` can end with. -/
theorem decode_outcome (hl : hessian.Local) {s : State} (hs : Sound s) (hh : Hungry s)
    (buffer : Bytes) : Outcome hessian s buffer (decode hessian s buffer) := by
  cases hs with
  | idle =>
    have ho : Outcome hessian (some {}) buffer (decode hessian (some {}) buffer) :=
      outcome_header hl rfl
    exact ho.of_eq fun _ => decode_none.symm
  | header hs ht => exact outcome_header hl hs
  | data hs hc hb he ht hf =>
    exact outcome_data hs hc hl hb he (fun x => rfl) (Or.inr ⟨rfl, hh _ _ rfl hs hc⟩)

/-- The place where a Dubbo stream is cut is invisible to the codec. -/
theorem splittable_round (hl : hessian.Local) :
    Resumable.Splittable (codec hessian).round (fun s => Sound s ∧ Hungry s) (fun _ => True) where
  wait := by
    rintro s b s' b' ⟨hs, hh⟩ hr
    have ho := decode_outcome hl hs hh b
    have hregular := regular_decode hessian hs b
    simp only [Codec.round, codec] at hr ⊢
    generalize decode hessian s b = d at ho hregular hr
    cases ho with
    | wait hhungry hmore =>
      cases hr
      exact ⟨⟨hregular.sound, hhungry⟩, fun x => by rw [hmore x]⟩
    | done => cases hr
    | throw => cases hr
  emit := by
    rintro s b o s' b' ⟨hs, hh⟩ hr
    have ho := decode_outcome hl hs hh b
    simp only [Codec.round, codec] at hr ⊢
    generalize decode hessian s b = d at ho hr
    cases ho with
    | wait => cases hr
    | done hlen hmore =>
      cases hr
      exact ⟨⟨.idle, hungry_none⟩, trivial, Nat.le_of_lt hlen, fun _ => hlen,
        fun x => by rw [hmore x]; rfl⟩
    | throw => cases hr
  fail := by
    rintro s b s' b' ⟨hs, hh⟩ hr x
    have ho := decode_outcome hl hs hh b
    simp only [Codec.round, codec] at hr ⊢
    generalize decode hessian s b = d at ho hr
    cases ho with
    | wait => cases hr
    | done => cases hr
    | throw hmore =>
      cases hr
      obtain ⟨⟨what, h⟩, what', h'⟩ := hmore x
      exact ⟨by rw [h]; rfl, by rw [h']; rfl⟩

end Dubbo.DubboCodec

end MetaProtocolProxy
