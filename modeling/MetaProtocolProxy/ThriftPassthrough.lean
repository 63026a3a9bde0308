import MetaProtocolProxy.ThriftChunking
import MetaProtocolProxy.ThriftTranscription

/-!
# Passing a Thrift message through

With `passthrough_enabled_` the machine does not read the values of a message. Behind the begin of
the message it moves as many bytes as the frame still has, and goes to the end of the message. It
comes to the end with the same metadata as the machine that reads every value, the bytes it moves
are the body of the message, and their count does not wrap around (`feed_passed`).

But the begin of the message, which has been read off the buffer by then, is only written where the
values are read. The original message is the body without its header, so the two machines do not
leave the same behind (`passthrough_agrees_iff`).
-/

namespace MetaProtocolProxy.Thrift

variable {π : Type} {p : Protocol π}

namespace DecoderStateMachine

/-! ## The two ways to read a message -/

section Modes

variable (passthroughEnabled : Bool) (p : Protocol π)

/-- `messageBegin`, with `passthrough_enabled_` set or not. -/
def messageBeginWith (machine : DecoderStateMachine π) (buffer : Bytes) : Outcome π :=
  let total := buffer.length
  match p.readMessageBegin machine.metadata machine.proto buffer with
  | .error what => (machine, buffer, .error (.exception what))
  | .ok none => (machine, buffer, .ok .waitForData)
  | .ok (some (metadata, proto, buffer)) =>
    let machine :=
      { machine with proto, metadata, stack := [{ returnState := .messageEnd }] }
    if passthroughEnabled then
      match metadata.frameSize with
      | none => (machine, buffer, .error (.panic "bad_optional_access"))
      | some frameSize =>
        ({ machine with bodyBytes := frameSize - UInt32.ofNat (total - buffer.length) }, buffer,
          .ok .passthroughData)
    else (machine.write (p.writeMessageBegin proto metadata), buffer, .ok .structBegin)

/-- `handleState`. Only the begin of a message looks at `passthrough_enabled_`. -/
def handleStateWith (machine : DecoderStateMachine π) (buffer : Bytes) : Outcome π :=
  if machine.state = .messageBegin then machine.messageBeginWith passthroughEnabled p buffer
  else machine.handleState p buffer

/-- The loop of `run`, for `fuel` states. -/
def runForWith : ℕ → DecoderStateMachine π → Bytes → Outcome π
  | 0, machine, buffer => (machine, buffer, .ok machine.state)
  | fuel + 1, machine, buffer =>
    if machine.state = .done then (machine, buffer, .ok .done)
    else
      match machine.handleStateWith passthroughEnabled p buffer with
      | (machine, buffer, .error fault) => (machine, buffer, .error fault)
      | (machine, buffer, .ok nextState) =>
        if nextState = .waitForData then (machine, buffer, .ok .waitForData)
        else runForWith fuel { machine with state := nextState } buffer

/-- `run`. -/
def runWith (machine : DecoderStateMachine π) (buffer : Bytes) : Outcome π :=
  runForWith passthroughEnabled p (machine.measure buffer + 1) machine buffer

end Modes

/-- The machine that does not pass through is the one that the codec runs. -/
theorem handleStateWith_false (machine : DecoderStateMachine π) (buffer : Bytes) :
    machine.handleStateWith false p buffer = machine.handleState p buffer := by
  unfold handleStateWith
  split_ifs with hs
  · rw [handleState, hs]
    rfl
  · rfl

theorem runForWith_false (fuel : ℕ) (machine : DecoderStateMachine π) (buffer : Bytes) :
    runForWith false p fuel machine buffer = runFor p fuel machine buffer := by
  induction fuel generalizing machine buffer with
  | zero => rfl
  | succ fuel ih =>
    rw [runForWith, runFor, handleStateWith_false]
    rcases machine.handleState p buffer with ⟨machine', buffer', fault | next⟩
    · rfl
    · dsimp only
      rw [ih]

theorem runWith_false : runWith false p = run p := by
  funext machine buffer
  exact runForWith_false _ machine buffer

/-! ## Chunks -/

/-- `run` for one chunk after the other, each behind what is left of those before. An exception is
the end. -/
def feed (run : DecoderStateMachine π → Bytes → Outcome π) :
    List Bytes → DecoderStateMachine π → Bytes → Outcome π
  | [], machine, buffer => (machine, buffer, .ok machine.state)
  | chunk :: chunks, machine, buffer =>
    match run machine (buffer ++ chunk) with
    | (machine, buffer, .error fault) => (machine, buffer, .error fault)
    | (machine, buffer, .ok _) => feed run chunks machine buffer

/-- What a run ends with, and what it ends with when there are more bytes behind the buffer. -/
inductive Resumes (run : DecoderStateMachine π → Bytes → Outcome π)
    (I : DecoderStateMachine π → Prop) (machine : DecoderStateMachine π) (buffer : Bytes) :
    Outcome π → Prop
  | wait {machine' buffer'} (hs : I machine')
      (hmore : ∀ x, run machine (buffer ++ x) = run machine' (buffer' ++ x)) :
      Resumes run I machine buffer (machine', buffer', .ok .waitForData)
  | done {machine' buffer'} (hdone : machine'.state = .done)
      (hstays : ∀ x, run machine' x = (machine', x, .ok .done))
      (hmore : ∀ x, run machine (buffer ++ x) = (machine', buffer' ++ x, .ok .done)) :
      Resumes run I machine buffer (machine', buffer', .ok .done)
  | error {machine' buffer' fault}
      (hmore : ∀ x, run machine (buffer ++ x) = (machine', buffer' ++ x, .error fault)) :
      Resumes run I machine buffer (machine', buffer', .error fault)

section Feed

variable {run : DecoderStateMachine π → Bytes → Outcome π} {I : DecoderStateMachine π → Prop}
  {machine machine' : DecoderStateMachine π} {buffer buffer' : Bytes} {outcome : Outcome π}

/-- What holds behind a step holds before it. -/
theorem Resumes.of_step (hstep : ∀ x, run machine (buffer ++ x) = run machine' (buffer' ++ x))
    (h : Resumes run I machine' buffer' outcome) : Resumes run I machine buffer outcome := by
  cases h with
  | wait hs hmore => exact .wait hs fun x => (hstep x).trans (hmore x)
  | done hdone hstays hmore => exact .done hdone hstays fun x => (hstep x).trans (hmore x)
  | error hmore => exact .error fun x => (hstep x).trans (hmore x)

/-- A machine that is done takes no chunk. -/
theorem feed_done (hdone : machine.state = .done)
    (hstays : ∀ x, run machine x = (machine, x, .ok .done)) (chunks : List Bytes)
    (buffer : Bytes) : feed run chunks machine buffer =
      (machine, buffer ++ chunks.flatten, .ok .done) := by
  induction chunks generalizing buffer with
  | nil => simp [feed, hdone]
  | cons chunk chunks ih =>
    rw [feed, hstays]
    simpa using ih (buffer ++ chunk)

/-- The chunks come to the same end as all of their bytes at once. Behind an exception bytes may be
left that have not been given to the machine. -/
theorem feed_eq (hrun : ∀ machine buffer, I machine →
      Resumes run I machine buffer (run machine buffer)) :
    ∀ (chunks : List Bytes) (machine : DecoderStateMachine π) (buffer : Bytes), I machine →
      chunks ≠ [] → ∃ later : Bytes,
        (feed run chunks machine buffer).1 = (run machine (buffer ++ chunks.flatten)).1 ∧
        (feed run chunks machine buffer).2.1 ++ later =
          (run machine (buffer ++ chunks.flatten)).2.1 ∧
        ∀ next, (run machine (buffer ++ chunks.flatten)).2.2 = .ok next → later = [] := by
  intro chunks
  induction chunks with
  | nil => exact fun _ _ _ h => absurd rfl h
  | cons chunk chunks ih =>
    intro machine buffer hI _
    rw [feed, List.flatten_cons, ← List.append_assoc]
    have hround := hrun machine (buffer ++ chunk) hI
    generalize houtcome : run machine (buffer ++ chunk) = outcome at hround
    cases hround with
    | @wait machine' buffer' hs hmore =>
      rw [hmore]
      rcases eq_or_ne chunks [] with rfl | hne
      · have hrest : run machine' buffer' = (machine', buffer', .ok .waitForData) := by
          have hmore' := hmore []
          rw [List.append_nil, List.append_nil] at hmore'
          rw [← hmore', houtcome]
        refine ⟨[], ?_⟩
        simp [feed, hrest]
      · exact ih machine' buffer' hs hne
    | @done machine' buffer' hdone hstays hmore =>
      rw [hmore]
      refine ⟨[], ?_⟩
      simp [feed_done hdone hstays]
    | @error machine' buffer' fault hmore =>
      rw [hmore]
      exact ⟨chunks.flatten, rfl, rfl, fun _ h => by cases h⟩

end Feed

/-! ## The machine that passes through -/

/-- The states of the machine that passes through. -/
def Passing (machine : DecoderStateMachine π) : Prop :=
  machine.state ∈ [.messageBegin, .passthroughData, .messageEnd, .done]

section Passing

variable {machine : DecoderStateMachine π}

theorem runForWith_done (fuel : ℕ) (hs : machine.state = .done) (buffer : Bytes) :
    runForWith true p fuel machine buffer = (machine, buffer, .ok .done) := by
  cases fuel with
  | zero => rw [runForWith, hs]
  | succ fuel => rw [runForWith, if_pos hs]

/-- The loop from the end of the message. -/
theorem runForWith_messageEnd (fuel : ℕ) (hs : machine.state = .messageEnd) (buffer : Bytes) :
    runForWith true p (fuel + 1) machine buffer =
      machine.read p.readMessageEnd buffer fun _ machine =>
        ({ machine.write (p.writeMessageEnd machine.proto) with state := .done }, .ok .done) := by
  have hhandle : machine.handleStateWith true p buffer = machine.messageEnd p buffer := by
    rw [handleStateWith, if_neg (by simp [hs]), handleState, hs]
  rw [runForWith, if_neg (by simp [hs]), hhandle, messageEnd]
  unfold read
  rcases p.readMessageEnd machine.proto buffer with what | _ | ⟨⟨⟩, proto, rest⟩
  · rfl
  · rfl
  · exact runForWith_done fuel rfl rest

/-- The loop from the data that is passed through. -/
theorem runForWith_passthroughData (fuel : ℕ) (hs : machine.state = .passthroughData)
    (buffer : Bytes) :
    runForWith true p (fuel + 1) machine buffer =
      if machine.bodyBytes.toNat > buffer.length then (machine, buffer, .ok .waitForData)
      else
        runForWith true p fuel
          { machine.write (buffer.take machine.bodyBytes.toNat) with state := .messageEnd }
          (buffer.drop machine.bodyBytes.toNat) := by
  have hhandle : machine.handleStateWith true p buffer = machine.passthroughData buffer := by
    rw [handleStateWith, if_neg (by simp [hs]), handleState, hs]
  rw [runForWith, if_neg (by simp [hs]), hhandle, passthroughData]
  split_ifs with hlength
  · rfl
  · rfl

theorem runWith_messageEnd (hs : machine.state = .messageEnd) (buffer : Bytes) :
    runWith true p machine buffer =
      machine.read p.readMessageEnd buffer fun _ machine =>
        ({ machine.write (p.writeMessageEnd machine.proto) with state := .done }, .ok .done) :=
  runForWith_messageEnd _ hs buffer

/-- Two states are enough from the data that is passed through. -/
theorem runForWith_enough (fuel : ℕ) (hs : machine.state = .passthroughData) (buffer : Bytes) :
    runForWith true p (fuel + 2) machine buffer = runWith true p machine buffer := by
  obtain ⟨fuel', hfuel⟩ : ∃ fuel', machine.measure buffer + 1 = fuel' + 2 := by
    refine ⟨machine.measure buffer - 1, ?_⟩
    have hweight : weight machine.state = 2 := by rw [hs]; rfl
    unfold measure
    omega
  rw [runWith, hfuel, runForWith_passthroughData (fuel + 1) hs,
    runForWith_passthroughData (fuel' + 1) hs, runForWith_messageEnd fuel rfl,
    runForWith_messageEnd fuel' rfl]

theorem runWith_passthroughData (hs : machine.state = .passthroughData) (buffer : Bytes) :
    runWith true p machine buffer =
      if machine.bodyBytes.toNat > buffer.length then (machine, buffer, .ok .waitForData)
      else
        runWith true p
          { machine.write (buffer.take machine.bodyBytes.toNat) with state := .messageEnd }
          (buffer.drop machine.bodyBytes.toNat) := by
  rw [← runForWith_enough 0 hs, runForWith_passthroughData 1 hs, runWith_messageEnd rfl,
    runForWith_messageEnd 0 rfl]

/-- The bytes of the frame behind the begin of the message are passed through. -/
theorem runWith_messageBegin (hp : p.Progress) (hs : machine.state = .messageBegin)
    (buffer : Bytes) :
    runWith true p machine buffer =
      match p.readMessageBegin machine.metadata machine.proto buffer with
      | .error what => (machine, buffer, .error (.exception what))
      | .ok none => (machine, buffer, .ok .waitForData)
      | .ok (some (metadata, proto, rest)) =>
        match metadata.frameSize with
        | none =>
          ({ machine with proto, metadata, stack := [{ returnState := .messageEnd }] }, rest,
            .error (.panic "bad_optional_access"))
        | some frameSize =>
          runWith true p
            { machine with
              proto, metadata, stack := [{ returnState := .messageEnd }]
              state := .passthroughData
              bodyBytes := frameSize - UInt32.ofNat (buffer.length - rest.length) } rest := by
  rw [runWith, runForWith, if_neg (by simp [hs]), handleStateWith, if_pos hs, messageBeginWith]
  rcases hr : p.readMessageBegin machine.metadata machine.proto buffer
    with what | _ | ⟨metadata, proto, rest⟩
  · rfl
  · rfl
  · obtain ⟨fuel, hfuel⟩ : ∃ fuel, machine.measure buffer = fuel + 2 := by
      refine ⟨machine.measure buffer - 2, ?_⟩
      have hlength := hp.readMessageBegin _ hr
      unfold measure
      omega
    rw [hfuel]
    dsimp only
    rw [if_pos rfl]
    cases metadata.frameSize with
    | none => rfl
    | some frameSize =>
      dsimp only
      rw [if_neg (by simp)]
      exact runForWith_enough fuel rfl rest

theorem passing_messageEnd (hl : p.Local) (hs : machine.state = .messageEnd) (buffer : Bytes) :
    Resumes (runWith true p) Passing machine buffer (runWith true p machine buffer) := by
  have hmore := @runWith_messageEnd _ p machine hs
  rw [hmore buffer]
  unfold read at hmore ⊢
  rcases hr : p.readMessageEnd machine.proto buffer with what | _ | ⟨⟨⟩, proto, rest⟩
  · exact .error fun x => by rw [hmore, hl.readMessageEnd.error hr x]
  · exact .wait (by simp [Passing, hs]) fun x => rfl
  · exact .done rfl (fun x => runForWith_done _ rfl x) fun x => by
      rw [hmore, hl.readMessageEnd.ok hr x]

theorem passing_passthroughData (hl : p.Local) (hs : machine.state = .passthroughData)
    (buffer : Bytes) :
    Resumes (runWith true p) Passing machine buffer (runWith true p machine buffer) := by
  have hmore := @runWith_passthroughData _ p machine hs
  rw [hmore buffer]
  split_ifs with hlength
  · exact .wait (by simp [Passing, hs]) fun x => rfl
  · refine .of_step (fun x => ?_) (passing_messageEnd hl rfl _)
    rw [hmore, if_neg (by rw [List.length_append]; omega),
      List.take_append_of_le_length (by omega), List.drop_append_of_le_length (by omega)]

theorem passing_messageBegin (hl : p.Local) (hp : p.Progress) (hs : machine.state = .messageBegin)
    (buffer : Bytes) :
    Resumes (runWith true p) Passing machine buffer (runWith true p machine buffer) := by
  have hmore := runWith_messageBegin hp hs
  rw [hmore buffer]
  rcases hr : p.readMessageBegin machine.metadata machine.proto buffer
    with what | _ | ⟨metadata, proto, rest⟩
  · exact .error fun x => by rw [hmore, (hl.readMessageBegin _).error hr x]
  · exact .wait (by simp [Passing, hs]) fun x => rfl
  · have hlength : ∀ x : Bytes, (buffer ++ x).length - (rest ++ x).length =
        buffer.length - rest.length := fun x => by
      rw [List.length_append, List.length_append, Nat.add_sub_add_right]
    have hmore' := fun x => hmore (buffer ++ x)
    dsimp only
    cases hframe : metadata.frameSize with
    | none => exact .error fun x => by rw [hmore', (hl.readMessageBegin _).ok hr x]; simp [hframe]
    | some frameSize =>
      refine .of_step (fun x => ?_) (passing_passthroughData hl rfl _)
      rw [hmore', (hl.readMessageBegin _).ok hr x]
      dsimp only
      rw [hframe, hlength]

/-- The place where the stream is cut is invisible to the machine that passes through. -/
theorem resumes_passing (hl : p.Local) (hp : p.Progress) (machine : DecoderStateMachine π)
    (buffer : Bytes) (h : Passing machine) :
    Resumes (runWith true p) Passing machine buffer (runWith true p machine buffer) := by
  simp only [Passing, List.mem_cons, List.not_mem_nil, or_false] at h
  rcases h with hs | hs | hs | hs
  · exact passing_messageBegin hl hp hs buffer
  · exact passing_passthroughData hl hs buffer
  · exact passing_messageEnd hl hs buffer
  · have hdone : ∀ x, runWith true p machine x = (machine, x, .ok .done) :=
      fun x => runForWith_done _ hs x
    rw [hdone]
    exact .done hs hdone fun x => hdone _

/-- And to the one that reads every value. -/
theorem resumes_reading (hl : p.Local) (hp : p.Progress) (machine : DecoderStateMachine π)
    (buffer : Bytes) (h : Sound p machine) :
    Resumes (runWith false p) (Sound p) machine buffer (runWith false p machine buffer) := by
  rw [runWith_false]
  have hrun := run_outcome hl hp _ machine buffer rfl h
  generalize machine.run p buffer = outcome at hrun ⊢
  cases hrun with
  | wait hs hmore => exact .wait hs hmore
  | done hs hdone _ _ hmore =>
    refine .done hdone (fun x => ?_) hmore
    rw [run_eq hp hs.stack, if_pos hdone]
  | throw _ hmore => exact .error hmore

end Passing

end DecoderStateMachine

/-! ## Messages -/

section Message

variable {s₀ s : π} {message : Message}

/-- The begin of a message. -/
def Message.header (p : Protocol π) (s : π) (message : Message) : Bytes :=
  p.writeMessageBegin s (message.metadata {})

/-- What is behind the begin of a message. -/
def Message.body (p : Protocol π) (s : π) (message : Message) : Bytes :=
  (Value.struct message.structName message.fields).encode p s ++ p.writeMessageEnd s

theorem Message.encode_eq : message.encode p s = message.header p s ++ message.body p s :=
  rfl

/-- The begin of a message is read with the message's metadata. -/
theorem readMessageBegin_header (hr : p.RoundTrip s₀ s) (hm : message.WellFormed)
    (metadata : MessageMetadata) (rest : Bytes) :
    p.readMessageBegin metadata s₀ (message.header p s ++ rest) =
      .ok (some (message.metadata metadata, s, rest)) :=
  hr.messageBegin metadata (message.metadata {}) message.name message.sequenceId message.type rest
    rfl rfl rfl hm.1

theorem Message.header_ne_nil (hp : p.Progress) (hr : p.RoundTrip s₀ s) (hm : message.WellFormed) :
    message.header p s ≠ [] := by
  intro hnil
  have hread := readMessageBegin_header hr hm {} []
  rw [hnil] at hread
  exact absurd (hp.readMessageBegin _ hread) (Nat.lt_irrefl 0)

namespace DecoderStateMachine

/-- The machine behind the data that is passed through. -/
def passed (p : Protocol π) (s : π) (message : Message) (metadata : MessageMetadata) :
    DecoderStateMachine π where
  proto := s
  metadata := message.metadata metadata
  state := .messageEnd
  stack := [{ returnState := .messageEnd }]
  bodyBytes := UInt32.ofNat (message.body p s).length
  originMessage := message.body p s

/-- Where the size of the frame is the size of the message, what is passed through is the body. -/
theorem runWith_message (hp : p.Progress) (hr : p.RoundTrip s₀ s) (hm : message.WellFormed)
    {metadata : MessageMetadata}
    (hframe : metadata.frameSize = some (UInt32.ofNat (message.encode p s).length))
    (hsize : (message.encode p s).length < 2 ^ 32) (rest : Bytes) :
    runWith true p { proto := s₀, metadata } (message.encode p s ++ rest) =
      runWith true p (passed p s message metadata) rest := by
  rw [Message.encode_eq, List.length_append] at hframe hsize
  have hheader : (message.header p s ++ (message.body p s ++ rest)).length -
      (message.body p s ++ rest).length = (message.header p s).length := by
    rw [List.length_append, Nat.add_sub_cancel]
  have hbody : UInt32.ofNat ((message.header p s).length + (message.body p s).length) -
      UInt32.ofNat (message.header p s).length = UInt32.ofNat (message.body p s).length := by
    rw [Nat.add_comm, UInt32.ofNat_add, UInt32.add_sub_cancel]
  have hcount : (UInt32.ofNat (message.body p s).length).toNat = (message.body p s).length := by
    rw [UInt32.toNat_ofNat']
    exact Nat.mod_eq_of_lt (by omega)
  rw [Message.encode_eq, List.append_assoc, runWith_messageBegin hp rfl]
  dsimp only
  rw [readMessageBegin_header hr hm]
  have hframe' : (message.metadata metadata).frameSize = metadata.frameSize := rfl
  dsimp only
  rw [hframe', hframe, hheader]
  dsimp only
  rw [hbody, runWith_passthroughData rfl]
  dsimp only
  rw [hcount, if_neg (by rw [List.length_append]; omega), List.take_left, List.drop_left]
  rfl

/-- The machine that passes through leaves behind what the one that reads every value leaves, and
the count of the bytes it moves has not wrapped around below zero, where it would be larger than
the frame. -/
structure Agrees (reading passing : Outcome π) : Prop where
  originMessage : passing.1.originMessage = reading.1.originMessage
  metadata : passing.1.metadata = reading.1.metadata
  buffer : passing.2.1 = reading.2.1
  bodyBytes : ∀ frameSize, passing.1.metadata.frameSize = some frameSize →
    passing.1.bodyBytes ≤ frameSize

/-- A count that has not wrapped around. -/
theorem body_le (hsize : (message.encode p s).length < 2 ^ 32) :
    UInt32.ofNat (message.body p s).length ≤ UInt32.ofNat (message.encode p s).length := by
  have hlength : (message.body p s).length ≤ (message.encode p s).length := by
    rw [Message.encode_eq, List.length_append]
    exact Nat.le_add_left _ _
  rw [UInt32.le_iff_toNat_le, UInt32.toNat_ofNat', UInt32.toNat_ofNat',
    Nat.mod_eq_of_lt (Nat.lt_of_le_of_lt hlength hsize), Nat.mod_eq_of_lt hsize]
  exact hlength

theorem chunks_ne_nil (hp : p.Progress) (hr : p.RoundTrip s₀ s) (hm : message.WellFormed)
    {chunks : List Bytes} {rest : Bytes} (hchunks : chunks.flatten = message.encode p s ++ rest) :
    chunks ≠ [] := by
  rintro rfl
  have hnil : message.header p s ++ (message.body p s ++ rest) = [] := by
    rw [← List.append_assoc, ← Message.encode_eq, ← hchunks]
    rfl
  exact Message.header_ne_nil hp hr hm (List.append_eq_nil_iff.mp hnil).1

section Chunks

variable (hl : p.Local) (hp : p.Progress) (hr : p.RoundTrip s₀ s) (hm : message.WellFormed)
  {metadata : MessageMetadata}
  (hframe : metadata.frameSize = some (UInt32.ofNat (message.encode p s).length))
  (hsize : (message.encode p s).length < 2 ^ 32) {chunks : List Bytes} {rest : Bytes}
  (hchunks : chunks.flatten = message.encode p s ++ rest)
include hl hp hr hm hchunks

/-- The machine that reads every value has written the message. -/
theorem feed_reading :
    (feed (runWith false p) chunks { proto := s₀, metadata } []).1 =
        midway s (message.metadata metadata) .done [] (message.encode p s) ∧
      (feed (runWith false p) chunks { proto := s₀, metadata } []).2.1 = rest := by
  obtain ⟨later, hmachine, hbuffer, hlater⟩ := feed_eq (resumes_reading hl hp) chunks
    { proto := s₀, metadata } [] (sound_new s₀ metadata) (chunks_ne_nil hp hr hm hchunks)
  rw [List.nil_append, hchunks, runWith_false, run_message hp hr hm] at hmachine hbuffer hlater
  rw [hlater _ rfl, List.append_nil] at hbuffer
  rw [runWith_false]
  exact ⟨hmachine, hbuffer⟩

include hframe hsize

theorem feed_passing : ∃ later : Bytes,
    (feed (runWith true p) chunks { proto := s₀, metadata } []).1 =
        (runWith true p (passed p s message metadata) rest).1 ∧
      (feed (runWith true p) chunks { proto := s₀, metadata } []).2.1 ++ later =
        (runWith true p (passed p s message metadata) rest).2.1 ∧
      ∀ next, (runWith true p (passed p s message metadata) rest).2.2 = .ok next → later = [] := by
  have hfeed := feed_eq (resumes_passing hl hp) chunks { proto := s₀, metadata } []
    (by simp [Passing]) (chunks_ne_nil hp hr hm hchunks)
  rwa [List.nil_append, hchunks, runWith_message hp hr hm hframe hsize] at hfeed

/-- The machine that passes through has written the body of the message. Only where the end of the
message is read behind it, it has written that end, too. -/
theorem feed_passed :
    (feed (runWith true p) chunks { proto := s₀, metadata } []).1.metadata =
        message.metadata metadata ∧
      (feed (runWith true p) chunks { proto := s₀, metadata } []).1.bodyBytes =
        UInt32.ofNat (message.body p s).length ∧
      ((∃ s' rest', p.readMessageEnd s rest = .ok (some ((), s', rest')) ∧
          (feed (runWith true p) chunks { proto := s₀, metadata } []).1.originMessage =
            message.body p s ++ p.writeMessageEnd s' ∧
          (feed (runWith true p) chunks { proto := s₀, metadata } []).2.1 = rest') ∨
        (∀ end', p.readMessageEnd s rest ≠ .ok (some end')) ∧
          (feed (runWith true p) chunks { proto := s₀, metadata } []).1.originMessage =
            message.body p s) := by
  obtain ⟨later, hmachine, hbuffer, hlater⟩ :=
    feed_passing hl hp hr hm hframe hsize hchunks
  rw [hmachine]
  rw [runWith_messageEnd rfl] at hmachine hbuffer hlater ⊢
  unfold read at hbuffer hlater ⊢
  have hproto : (passed p s message metadata).proto = s := rfl
  rw [hproto] at hbuffer hlater ⊢
  rcases hread : p.readMessageEnd s rest with what | _ | ⟨⟨⟩, s', rest'⟩
  · exact ⟨rfl, rfl, Or.inr ⟨by rintro _ ⟨⟩, rfl⟩⟩
  · exact ⟨rfl, rfl, Or.inr ⟨by rintro _ ⟨⟩, rfl⟩⟩
  · rw [hread] at hbuffer hlater
    rw [hlater _ rfl, List.append_nil] at hbuffer
    exact ⟨rfl, rfl, Or.inl ⟨s', rest', rfl, rfl, hbuffer⟩⟩

end Chunks

end DecoderStateMachine

end Message

open DecoderStateMachine

/-- The machine that passes a message through agrees with the one that reads every value exactly
where the end of the message is read without a byte, and the bytes written for it behind the body
stand for the begin of the message, which is not written. -/
theorem passthrough_agrees_iff {s₀ s : π} (hl : p.Local) (hp : p.Progress) (hr : p.RoundTrip s₀ s)
    {message : Message} (hm : message.WellFormed) {metadata : MessageMetadata}
    (hframe : metadata.frameSize = some (UInt32.ofNat (message.encode p s).length))
    (hsize : (message.encode p s).length < 2 ^ 32) {chunks : List Bytes} {rest : Bytes}
    (hchunks : chunks.flatten = message.encode p s ++ rest) :
    Agrees (feed (runWith false p) chunks { proto := s₀, metadata } [])
        (feed (runWith true p) chunks { proto := s₀, metadata } []) ↔
      ∃ s', p.readMessageEnd s rest = .ok (some ((), s', rest)) ∧
        message.header p s ++ message.body p s = message.body p s ++ p.writeMessageEnd s' := by
  obtain ⟨hreading, hreadingRest⟩ := @feed_reading _ p s₀ s message hl hp hr hm metadata _ _ hchunks
  obtain ⟨hmetadata, hbodyBytes, hending⟩ := feed_passed hl hp hr hm hframe hsize hchunks
  constructor
  · intro h
    have horigin := h.originMessage
    rw [hreading] at horigin
    rcases hending with ⟨s', rest', hread, hwritten, hrest'⟩ | ⟨-, hwritten⟩
    · have hrest : rest' = rest := by rw [← hrest', h.buffer, hreadingRest]
      exact ⟨s', hrest ▸ hread, (hwritten.symm.trans horigin).symm⟩
    · have hnil : message.header p s = [] :=
        List.self_eq_append_left.mp (hwritten.symm.trans horigin)
      exact absurd hnil (Message.header_ne_nil hp hr hm)
  · rintro ⟨s', hread, hwrap⟩
    rcases hending with ⟨s'', rest', hread', hwritten, hrest'⟩ | ⟨hunread, -⟩
    · rw [hread] at hread'
      cases hread'
      refine ⟨?_, ?_, hrest'.trans hreadingRest.symm, fun frameSize hsome => ?_⟩
      · rw [hwritten, hreading, ← hwrap]
        rfl
      · rw [hmetadata, hreading]
        rfl
      · rw [hmetadata] at hsome
        rw [hbodyBytes, ← Option.some.inj (hframe.symm.trans hsome)]
        exact body_le hsize
    · exact absurd hread (hunread _)

namespace ThriftExample

/-- What the transport knows of a frame with the message in it. -/
def framed : MessageMetadata :=
  { frameSize := some (UInt32.ofNat bytes.length) }

/-- The message in two chunks, cut in its name, and a byte behind it. -/
def cut : List Bytes :=
  [bytes.take 9, bytes.drop 9 ++ [1]]

end ThriftExample

open ThriftExample in
theorem passthrough_agrees_iff_cut :
    Agrees (feed (runWith false BinaryProtocol.protocol) cut { proto := (), metadata := framed } [])
        (feed (runWith true BinaryProtocol.protocol) cut { proto := (), metadata := framed } []) ↔
      ∃ s', BinaryProtocol.protocol.readMessageEnd () [1] = .ok (some ((), s', [1])) ∧
        message.header BinaryProtocol.protocol () ++ message.body BinaryProtocol.protocol () =
          message.body BinaryProtocol.protocol () ++ BinaryProtocol.protocol.writeMessageEnd s' :=
  passthrough_agrees_iff BinaryProtocol.local_protocol BinaryProtocol.progress_protocol
    BinaryProtocol.roundTrip_protocol wellFormed_message rfl (by decide +kernel) (by decide +kernel)

open ThriftExample in
/-- What is left of the message has no header. -/
theorem not_agrees_cut :
    ¬Agrees
      (feed (runWith false BinaryProtocol.protocol) cut { proto := (), metadata := framed } [])
      (feed (runWith true BinaryProtocol.protocol) cut { proto := (), metadata := framed } []) := by
  intro h
  have hshort : (feed (runWith true BinaryProtocol.protocol) cut
      { proto := (), metadata := framed } []).1.originMessage ≠
      (feed (runWith false BinaryProtocol.protocol) cut
        { proto := (), metadata := framed } []).1.originMessage := by
    decide +kernel
  exact hshort h.originMessage

end MetaProtocolProxy.Thrift
