import MetaProtocolProxy.Termination
import MetaProtocolProxy.ThriftChunking

/-!
# The Thrift decoder comes to an end

More than half of the states of the Thrift machine read nothing, so its loop does not end for want
of bytes alone. Every state does read, or takes an element off a count, or comes closer to a read,
so its turns go down in `measure`, whatever the counts and however deep the values are nested
(`ends_run`). The begin of a message takes a byte, so the codec takes one for every message
(`ThriftCodec.takes_codec`), and the loop of `dispatch` ends, too (`decoding_terminates`).
-/

namespace MetaProtocolProxy.Thrift

variable {τ π : Type} {p : Protocol π} {t : Transport τ}

/-! ## The machine -/

namespace DecoderStateMachine

variable {machine : DecoderStateMachine π} {buffer : Bytes} {outcome : Outcome π}

/-- A turn of the loop of `run`. -/
inductive RunTurn (p : Protocol π) : DecoderStateMachine π × Bytes →
    Outcome π ⊕ DecoderStateMachine π × Bytes → Prop
  | done {machine : DecoderStateMachine π} {buffer : Bytes} (hs : machine.state = .done) :
      RunTurn p (machine, buffer) (.inl (machine, buffer, .ok .done))
  | throw {machine machine' : DecoderStateMachine π} {buffer buffer' : Bytes} {fault : Fault}
      (hs : machine.state ≠ .done)
      (h : machine.handleState p buffer = (machine', buffer', .error fault)) :
      RunTurn p (machine, buffer) (.inl (machine', buffer', .error fault))
  | wait {machine machine' : DecoderStateMachine π} {buffer buffer' : Bytes}
      (hs : machine.state ≠ .done)
      (h : machine.handleState p buffer = (machine', buffer', .ok .waitForData)) :
      RunTurn p (machine, buffer) (.inl (machine', buffer', .ok .waitForData))
  | step {machine machine' : DecoderStateMachine π} {buffer buffer' : Bytes} {next : ProtocolState}
      (hs : machine.state ≠ .done)
      (h : machine.handleState p buffer = (machine', buffer', .ok next))
      (hnext : next ≠ .waitForData) :
      RunTurn p (machine, buffer) (.inr ({ machine' with state := next }, buffer'))

theorem descends_run (hp : p.Progress) : Loops.Descends (RunTurn p)
    (fun a => Disciplined a.1.state a.1.stack) (fun a => a.1.measure a.2) where
  total := by
    rintro ⟨machine, buffer⟩ -
    by_cases hs : machine.state = .done
    · exact ⟨_, .done hs⟩
    · rcases h : machine.handleState p buffer with ⟨machine', buffer', fault | next⟩
      · exact ⟨_, .throw hs h⟩
      · by_cases hnext : next = .waitForData
        · exact ⟨_, .wait hs (hnext ▸ h)⟩
        · exact ⟨_, .step hs h hnext⟩
  again := by
    rintro ⟨machine, buffer⟩ _ hd hturn
    cases hturn with
    | step hs h hnext =>
      obtain ⟨hlt, hd'⟩ := measure_handleState hp hd h hnext
      exact ⟨hd', hlt⟩

theorem follows_runFor :
    Loops.Follows (RunTurn p) (fun fuel a => runFor p fuel a.1 a.2) where
  stop hturn fuel := by
    cases hturn with
    | done hs => exact if_pos hs
    | throw hs h => dsimp only; rw [runFor, if_neg hs, h]
    | wait hs h =>
      dsimp only
      rw [runFor, if_neg hs, h]
      exact if_pos rfl
  again hturn fuel := by
    cases hturn with
    | step hs h hnext =>
      dsimp only
      rw [runFor, if_neg hs, h]
      exact if_neg hnext

/-- The loop of a machine in order ends, and as `run` does. -/
theorem ends_run (hp : p.Progress) (hd : Disciplined machine.state machine.stack)
    (buffer : Bytes) : Loops.Ends (RunTurn p) (machine, buffer) (machine.run p buffer) :=
  (descends_run hp).ends_of_fuel follows_runFor (machine.measure buffer + 1)
    (a := (machine, buffer))
    hd (Nat.lt_succ_self _)

/-- What a run takes off the buffer : at least a byte if it takes the machine behind the begin of
the message. -/
structure RunTakes (machine : DecoderStateMachine π) (buffer : Bytes) (outcome : Outcome π) :
    Prop where
  stack : Disciplined outcome.1.state outcome.1.stack
  le : outcome.2.1.length ≤ buffer.length
  begins : machine.state = .messageBegin → outcome.1.state ≠ .messageBegin →
    outcome.2.1.length < buffer.length
  done : ∀ {next}, outcome.2.2 = .ok next → next ≠ .waitForData → outcome.1.state = .done

/-- A turn that ends the loop leaves the machine and the buffer as they are. -/
theorem runTakes_stop (hd : Disciplined machine.state machine.stack)
    (h : RunTurn p (machine, buffer) (.inl outcome)) : RunTakes machine buffer outcome := by
  have hhandled := handled_handleState p machine buffer
  cases h with
  | done hs => exact ⟨hd, Nat.le_refl _, fun h h' => absurd h h', fun _ _ => hs⟩
  | throw hs h =>
    rw [h] at hhandled
    cases hhandled with
    | throw => exact ⟨hd, Nat.le_refl _, fun h h' => absurd h h', by rintro _ ⟨⟩⟩
    | stuck hstuck => exact absurd hstuck (hd.not_stuck hs)
  | wait hs h =>
    rw [h] at hhandled
    cases hhandled with
    | wait =>
      exact ⟨hd, Nat.le_refl _, fun h h' => absurd h h', by rintro _ ⟨⟩ h; exact absurd rfl h⟩
    | step hcontrol => exact absurd rfl (hcontrol.disciplined hd).ne.2.1

theorem runTakes_of_ends (hp : p.Progress) {a : DecoderStateMachine π × Bytes}
    (h : Loops.Ends (RunTurn p) a outcome) (hd : Disciplined a.1.state a.1.stack) :
    RunTakes a.1 a.2 outcome := by
  induction h with
  | stop hturn => exact runTakes_stop hd hturn
  | again hturn _ ih =>
    cases hturn with
    | @step machine machine' buffer buffer' next hs h hnext =>
      have hhandled := handled_handleState p machine buffer
      rw [h] at hhandled
      cases hhandled with
      | wait => exact absurd rfl hnext
      | step hcontrol _ hlength =>
        obtain ⟨hstack, hle, -, hdone⟩ := ih (hcontrol.disciplined hd)
        have hlength := hlength hp
        dsimp only at hle ⊢
        refine ⟨hstack, by omega, fun hbegin _ => ?_, hdone⟩
        rw [hbegin] at hcontrol
        rw [hcontrol.reads_of_messageBegin, Bool.toNat_true] at hlength
        omega

theorem runTakes_run (hp : p.Progress) (hd : Disciplined machine.state machine.stack)
    (buffer : Bytes) : RunTakes machine buffer (machine.run p buffer) :=
  runTakes_of_ends hp (ends_run hp hd buffer) hd

end DecoderStateMachine

/-! ## The codec -/

namespace ThriftCodec

/-- No frame has ended, and the machine is in order. -/
structure Orderly (s : State τ π) : Prop where
  ended : s.frameEnded = false
  machine : ∀ {machine}, s.stateMachine = some machine → Disciplined machine.state machine.stack

/-- The begin of a message has been read. -/
def begun (s : State τ π) : Bool :=
  s.frameStarted && s.stateMachine.any fun machine => machine.state ≠ .messageBegin

section Takes

variable {s s₀ : State τ π} {buffer data data' : Bytes}
  {machine machine' : DecoderStateMachine π}

theorem begun_ran (h : begun (s.ran machine) = true) : machine.state ≠ .messageBegin := by
  simp only [begun, State.ran, Option.any_some, Bool.and_eq_true, decide_eq_true_eq] at h
  exact h.2

/-- A call that ends in the middle of a message. -/
theorem takes_ran (hended : s.frameEnded = false)
    (hd : Disciplined machine'.state machine'.stack) (hle : data'.length ≤ buffer.length)
    (hlt : begun s₀ = false → machine'.state ≠ .messageBegin → data'.length < buffer.length)
    {status : DecodeStatus} (hstatus : ∀ metadata, status ≠ .done metadata) (transport : τ) :
    Decoding.Takes Orderly begun s₀ buffer ⟨{ s.ran machine' with transport }, data', status⟩ where
  inv := ⟨hended, by rintro _ ⟨⟩; exact hd⟩
  le := hle
  begins hfresh hbegun := hlt hfresh (begun_ran (s := { s with transport }) hbegun)
  done h := absurd h (hstatus _)

/-- The end of a frame. -/
theorem takes_endFrame (ht : t.Progress) (hended : s.frameEnded = false)
    (hd : Disciplined machine'.state machine'.stack) (hle : data'.length ≤ buffer.length)
    (hlt : begun s₀ = false → data'.length < buffer.length) :
    Decoding.Takes Orderly begun s₀ buffer (endFrame t (s.ran machine') data' machine') := by
  unfold endFrame
  rcases hend : t.decodeFrameEnd (s.ran machine').transport data'
    with what | _ | ⟨⟨⟩, transport, rest⟩
  · exact takes_ran hended hd hle (fun h _ => hlt h) (by rintro _ ⟨⟩) s.transport
  · exact takes_ran hended hd hle (fun h _ => hlt h) (by rintro _ ⟨⟩) s.transport
  · have hrest := ht.decodeFrameEnd hend
    have hle' : rest.length ≤ buffer.length := Nat.le_trans hrest hle
    have hlt' : begun s₀ = false → rest.length < buffer.length :=
      fun h => Nat.lt_of_le_of_lt hrest (hlt h)
    dsimp only
    cases toMetadataWithMessage t transport machine'.metadata machine'.originMessage with
    | error fault => exact takes_ran hended hd hle' (fun h _ => hlt' h) (by rintro _ ⟨⟩) transport
    | ok metadata =>
      exact ⟨⟨rfl, by rintro _ ⟨⟩⟩, hle', by rintro - ⟨⟩, fun _ => ⟨rfl, hlt'⟩⟩

/-- The machine inside a frame. If nothing of its message has been taken yet, it reads the begin
of the message. -/
theorem takes_runMachine (ht : t.Progress) (hp : p.Progress) (hended : s.frameEnded = false)
    (hd : Disciplined machine.state machine.stack)
    (hfresh : begun s₀ = false → machine.state = .messageBegin)
    (hle : data.length ≤ buffer.length) :
    Decoding.Takes Orderly begun s₀ buffer (runMachine t p s data machine) := by
  have hrun := DecoderStateMachine.runTakes_run hp hd data
  unfold runMachine
  generalize machine.run p data = outcome at hrun ⊢
  obtain ⟨machine', data', result⟩ := outcome
  have hle' : data'.length ≤ buffer.length := Nat.le_trans hrun.le hle
  have hlt : begun s₀ = false → machine'.state ≠ .messageBegin → data'.length < buffer.length :=
    fun h h' => Nat.lt_of_lt_of_le (hrun.begins (hfresh h) h') hle
  cases result with
  | error fault => exact takes_ran hended hrun.stack hle' hlt (by rintro _ ⟨⟩) s.transport
  | ok next =>
    dsimp only
    split_ifs with hwait hne
    · exact takes_ran hended hrun.stack hle' hlt (by rintro _ ⟨⟩) s.transport
    · exact takes_ran hended hrun.stack hle' hlt (by rintro _ ⟨⟩) s.transport
    · have hdone : machine'.state = .done := hrun.done rfl hwait
      exact takes_endFrame ht hended hrun.stack hle' fun h => hlt h (by simp [hdone])

/-- A call that does not come into a frame. -/
theorem takes_idle (hs : Orderly s) (hstarted : s.frameStarted = false) {s' : State τ π}
    (hle : data.length ≤ buffer.length) {status : DecodeStatus}
    (hsame : s'.frameEnded = s.frameEnded ∧ s'.stateMachine = s.stateMachine ∧
      s'.frameStarted = s.frameStarted) (hstatus : ∀ metadata, status ≠ .done metadata) :
    Decoding.Takes Orderly begun s buffer ⟨s', data, status⟩ where
  inv := ⟨hsame.1.trans hs.ended, fun h => hs.machine (hsame.2.1.symm.trans h)⟩
  le := hle
  begins _ h := by simp [begun, hsame.2.2, hstarted] at h
  done h := absurd h (hstatus _)

theorem takes_startFrame (ht : t.Progress) (hp : p.Progress) (hs : Orderly s)
    (hstarted : s.frameStarted = false) (buffer : Bytes) :
    Decoding.Takes Orderly begun s buffer (startFrame t p s buffer) := by
  unfold startFrame
  dsimp only
  rcases hstart : t.decodeFrameStart (s.metadata.getD {}) s.transport buffer
    with what | _ | ⟨metadata, transport, rest⟩
  · exact takes_idle hs hstarted (Nat.le_refl _) ⟨rfl, rfl, rfl⟩ (by rintro _ ⟨⟩)
  · exact takes_idle hs hstarted (Nat.le_refl _) ⟨rfl, rfl, rfl⟩ (by rintro _ ⟨⟩)
  · have hle : rest.length ≤ buffer.length := (ht.decodeFrameStart _) hstart
    dsimp only
    unfold enterFrame
    cases forceProtocol p metadata s.protocol with
    | error what =>
      exact takes_idle hs hstarted hle ⟨rfl, rfl, rfl⟩ (by rintro _ ⟨⟩)
    | ok protocol =>
      dsimp only
      rcases metadata.appException with _ | ⟨type, message⟩
      · exact takes_runMachine ht hp hs.ended (by simp [Disciplined]) (fun _ => rfl) hle
      · exact takes_idle hs hstarted hle ⟨rfl, rfl, rfl⟩ (by rintro _ ⟨⟩)

/-- A Thrift message takes at least a byte of its begin. -/
theorem takes_codec (ht : t.Progress) (hp : p.Progress) (transport : τ) (protocol : π) :
    (codec t p transport protocol).Takes Orderly begun where
  init := ⟨rfl, by rintro _ ⟨⟩⟩
  fresh := rfl
  decode {s} hs buffer := by
    change Decoding.Takes Orderly begun s buffer (decode t p s buffer)
    unfold decode
    rw [hs.ended, if_neg (by simp)]
    cases hstarted : s.frameStarted with
    | false =>
      rw [if_pos (by simp)]
      exact takes_startFrame ht hp hs hstarted buffer
    | true =>
      rw [if_neg (by simp)]
      cases hmachine : s.stateMachine with
      | none => exact takes_none hs buffer _
      | some machine =>
        refine takes_runMachine ht hp hs.ended (hs.machine hmachine) (fun hfresh => ?_)
          (Nat.le_refl _)
        simpa [begun, hstarted, hmachine] using hfresh

end Takes

end ThriftCodec

open DecoderStateMachine (RunTurn)
open ConnectionManager (DecodingTerminates History)

/-- The loop of the Thrift machine ends in every state that it comes to, and so does the loop of
`dispatch` around a Thrift or a Dubbo codec, and every message completed has taken a byte off the
buffer. -/
theorem decoding_terminates (hp : p.Progress) (ht : t.Progress) :
    (∀ {machine : DecoderStateMachine π} {buffer : Bytes}, Reached p machine buffer →
      Loops.Ends (RunTurn p) (machine, buffer) (machine.run p buffer)) ∧
    (∀ (transport : τ) (protocol : π) (cfg : Config (ThriftCodec.State τ π)),
      cfg.codec = ThriftCodec.codec t p transport protocol →
      DecodingTerminates cfg ∧
        ∀ {received cm counts since}, History cfg received cm counts since →
          ∀ {machine}, cm.downstream.codec.stateMachine = some machine → ∀ buffer : Bytes,
            Loops.Ends (RunTurn p) (machine, buffer) (machine.run p buffer)) ∧
    ∀ (hessian : Dubbo.Hessian2) (cfg : Config Dubbo.DubboCodec.State),
      cfg.codec = Dubbo.DubboCodec.codec hessian → DecodingTerminates cfg := by
  refine ⟨fun h => DecoderStateMachine.ends_run hp h.disciplined _, ?_, ?_⟩
  · intro transport protocol cfg hcodec
    have htakes : cfg.codec.Takes ThriftCodec.Orderly ThriftCodec.begun :=
      hcodec ▸ ThriftCodec.takes_codec ht hp transport protocol
    refine ⟨ConnectionManager.decodingTerminates htakes, fun h _ hmachine buffer => ?_⟩
    exact DecoderStateMachine.ends_run hp ((h.accounted htakes).1.machine hmachine) buffer
  · intro hessian cfg hcodec
    have htakes : cfg.codec.Takes Dubbo.DubboCodec.Sound Dubbo.DubboCodec.begun :=
      hcodec ▸ Dubbo.DubboCodec.takes_codec hessian
    exact ConnectionManager.decodingTerminates htakes

open ThriftExample in
theorem decoding_terminates_framed :
    Loops.Ends (RunTurn BinaryProtocol.protocol) ({ proto := (), metadata := {} }, call 1)
        (DecoderStateMachine.run BinaryProtocol.protocol { proto := (), metadata := {} }
          (call 1)) ∧
      DecodingTerminates config ∧ DecodingTerminates (DubboExample.config none) :=
  have h := @decoding_terminates Unit Unit BinaryProtocol.protocol FramedTransport.transport
    BinaryProtocol.progress_protocol FramedTransport.progress_transport
  ⟨h.1 (.chunk (.start () {}) (call 1)), (h.2.1 () () config rfl).1,
    h.2.2 .compact (DubboExample.config none) rfl⟩

end MetaProtocolProxy.Thrift
