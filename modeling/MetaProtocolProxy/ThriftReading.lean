import MetaProtocolProxy.ThriftGrammar

/-!
# Reading the grammar

The handlers of the state machine take the steps of the grammar : a handler that neither waits nor
fails has taken one (`moves_handleState`), and one that can be taken is taken
(`handleState_of_move`). So a machine comes to the end exactly where a message of the grammar
ends, and has written its parts (`run_message_iff`).
-/

namespace MetaProtocolProxy.Thrift

variable {π α : Type} {p : Protocol π}

namespace DecoderStateMachine

variable {machine : DecoderStateMachine π} {buffer : Bytes}

/-! ## The steps that are taken -/

/-- The tape of a machine with a buffer. -/
def tape (machine : DecoderStateMachine π) (buffer : Bytes) : Tape π :=
  ⟨machine.proto, buffer, machine.originMessage⟩

/-- The machine with another stack and tape. -/
def moved (machine : DecoderStateMachine π) (stack : List Frame) (t : Tape π) :
    DecoderStateMachine π :=
  { machine with proto := t.protocol, stack, originMessage := t.written }

/-- What a handler can end with : it waits, fails, or takes a step. -/
inductive Moves (p : Protocol π) (machine : DecoderStateMachine π) (buffer : Bytes) :
    Outcome π → Prop
  | wait {machine' buffer'} : Moves p machine buffer (machine', buffer', .ok .waitForData)
  | error {machine' buffer' fault} : Moves p machine buffer (machine', buffer', .error fault)
  | move {next stack t} (h : Move p machine.state machine.stack (machine.tape buffer) next stack
      t) :
      Moves p machine buffer (machine.moved stack t, t.buffer, .ok next)

theorem moves_read {r : Reader π α}
    {use : α → DecoderStateMachine π → DecoderStateMachine π × Except Fault ProtocolState}
    (h : ∀ {a proto rest}, r machine.proto buffer = .ok (some (a, proto, rest)) →
      Moves p machine buffer
        ((use a { machine with proto }).1, rest, (use a { machine with proto }).2)) :
    Moves p machine buffer (machine.read r buffer use) := by
  unfold read
  rcases hr : r machine.proto buffer with what | _ | ⟨a, proto, rest⟩
  · exact .error
  · exact .wait
  · exact h hr

/-- A handler that reads and writes one part. -/
theorem moves_part {r : Reader π α} {next : ProtocolState} (w : π → α → Bytes)
    (stack : α → List Frame)
    {use : α → DecoderStateMachine π → DecoderStateMachine π × Except Fault ProtocolState}
    (huse : ∀ a proto, use a { machine with proto } =
      (machine.moved (stack a) ⟨proto, buffer, machine.originMessage ++ w proto a⟩, .ok next))
    (hmove : ∀ {a t}, Transcribes r w (machine.tape buffer) a t →
      Move p machine.state machine.stack (machine.tape buffer) next (stack a) t) :
    Moves p machine buffer (machine.read r buffer use) := by
  refine moves_read fun {a proto rest} hr => ?_
  have hm : Move p machine.state machine.stack (machine.tape buffer) next (stack a)
      ⟨proto, rest, machine.originMessage ++ w proto a⟩ := hmove ⟨hr, rfl⟩
  rw [huse]
  exact .move hm

/-- The end of a value. -/
theorem moves_end {r : Reader π Unit} (w : π → Bytes)
    {write : DecoderStateMachine π → DecoderStateMachine π}
    (hwrite : ∀ machine : DecoderStateMachine π, write machine =
      { machine with originMessage := machine.originMessage ++ w machine.proto })
    (hmove : ∀ {frame below t t'}, Transcribes r (fun s _ => w s) t () t' →
      Move p machine.state (frame :: below) t frame.returnState below t') :
    Moves p machine buffer
      (machine.read r buffer fun _ machine => (write machine).popReturnState) := by
  refine moves_read fun {a proto rest} hr => ?_
  unfold popReturnState
  rw [hwrite]
  cases hstack : machine.stack with
  | nil => exact .error
  | cons frame below =>
    have hm : Move p machine.state machine.stack (machine.tape buffer) frame.returnState below
        ⟨proto, rest, machine.originMessage ++ w proto⟩ := by
      rw [hstack]
      exact hmove ⟨hr, rfl⟩
    exact .move hm

/-- What the handler of a value can end with. -/
inductive MovesValue (p : Protocol π) (machine : DecoderStateMachine π) (buffer : Bytes)
    (type : FieldType) (returnState : ProtocolState) : Outcome π → Prop
  | wait {machine' buffer'} :
      MovesValue p machine buffer type returnState (machine', buffer', .ok .waitForData)
  | error {machine' buffer' fault} :
      MovesValue p machine buffer type returnState (machine', buffer', .error fault)
  | move {next pushed t} (h : MoveValue p returnState type (machine.tape buffer) next pushed t) :
      MovesValue p machine buffer type returnState
        (machine.moved (pushed ++ machine.stack) t, t.buffer, .ok next)

theorem movesValue_primitive {type : FieldType} {returnState : ProtocolState} {r : Reader π α}
    {w : π → α → Bytes}
    (h : ∀ {a t}, Transcribes r w (machine.tape buffer) a t →
      ParsesPrimitive p type (machine.tape buffer) t) :
    MovesValue p machine buffer type returnState
      (machine.read r buffer fun value machine =>
        (machine.write (w machine.proto value), .ok returnState)) := by
  unfold read
  rcases hr : r machine.proto buffer with what | _ | ⟨a, proto, rest⟩
  · exact .error
  · exact .wait
  · have hp : ParsesPrimitive p type (machine.tape buffer)
        ⟨proto, rest, machine.originMessage ++ w proto a⟩ := h ⟨hr, rfl⟩
    exact .move (.primitive hp)

theorem movesValue_handleValue (type : FieldType) (returnState : ProtocolState) :
    MovesValue p machine buffer type returnState
      (machine.handleValue p buffer type returnState) := by
  cases type with
  | bool => exact movesValue_primitive .bool
  | byte => exact movesValue_primitive .byte
  | i16 => exact movesValue_primitive .i16
  | i32 => exact movesValue_primitive .i32
  | i64 => exact movesValue_primitive .i64
  | double => exact movesValue_primitive .double
  | string => exact movesValue_primitive .string
  | struct => exact .move .struct
  | map => exact .move .map
  | list => exact .move .list
  | set => exact .move .set
  | stop | void | unnamed => exact .error

/-- A value that is not counted. -/
theorem moves_value {frame : Frame} {below : List Frame} {type : FieldType}
    {returnState : ProtocolState} (hstack : machine.stack = frame :: below)
    (hmove : ∀ {next pushed t}, MoveValue p returnState type (machine.tape buffer) next pushed t →
      Move p machine.state (frame :: below) (machine.tape buffer) next
        (pushed ++ frame :: below) t) :
    Moves p machine buffer (machine.handleValue p buffer type returnState) := by
  have hvalue := @movesValue_handleValue _ p machine buffer type returnState
  generalize machine.handleValue p buffer type returnState = outcome at hvalue ⊢
  cases hvalue with
  | wait => exact .wait
  | error => exact .error
  | move h => exact .move (hstack ▸ hmove h)

/-- A value that is counted. -/
theorem moves_countDown {frame : Frame} {below : List Frame} {type : FieldType}
    {returnState : ProtocolState} (hstack : machine.stack = frame :: below)
    (hmove : ∀ {next pushed t}, MoveValue p returnState type (machine.tape buffer) next pushed t →
      Move p machine.state (frame :: below) (machine.tape buffer) next
        (pushed ++ frame.next :: below) t) :
    Moves p machine buffer
      (countDown below.length (machine.handleValue p buffer type returnState)) := by
  have hvalue := @movesValue_handleValue _ p machine buffer type returnState
  generalize machine.handleValue p buffer type returnState = outcome at hvalue ⊢
  cases hvalue with
  | wait => exact .wait
  | error => exact .error
  | @move next pushed t h =>
    unfold countDown
    dsimp only
    split
    · rename_i hnext
      exact hnext ▸ .wait
    · have hdecrement : (machine.moved (pushed ++ machine.stack) t).decrement below.length =
          machine.moved (pushed ++ frame.next :: below) t := by
        have hdown := @stack_decrement _ (machine.moved (pushed ++ machine.stack) t) frame pushed
          below (by rw [moved, hstack])
        rw [moved, moved, ← hdown]
        rfl
      rw [hdecrement]
      exact .move (hstack ▸ hmove h)

/-- The end of a container. -/
theorem moves_pop {frame : Frame} {below : List Frame} (hstack : machine.stack = frame :: below)
    (hmove : Move p machine.state (frame :: below) (machine.tape buffer) frame.returnState below
      (machine.tape buffer)) : Moves p machine buffer (machine.pop buffer) := by
  unfold pop popReturnState
  rw [hstack]
  exact .move (hstack ▸ hmove)

/-- The next element of a list or a set. -/
theorem moves_element {state : ProtocolState} (hstate : state ∈ [.listValue, .setValue])
    (hs : machine.state = state) :
    Moves p machine buffer (machine.elementValue p buffer state) := by
  unfold elementValue
  cases hstack : machine.stack with
  | nil => exact .error
  | cons frame below =>
    dsimp only
    split
    · rename_i hr
      refine moves_pop hstack (.exhausted ?_ hr)
      rw [hs]
      exact List.mem_append_left [.mapKey] hstate
    · rename_i hr
      exact moves_countDown hstack fun h => hs ▸ .element hstate hr h

/-- Every handler behind the begin of a message takes a step, if it does not wait or fail. -/
theorem moves_handleState (hbegin : machine.state ≠ .messageBegin)
    (hpass : machine.state ≠ .passthroughData) :
    Moves p machine buffer (machine.handleState p buffer) := by
  unfold handleState
  cases hs : machine.state with
  | stopIteration | waitForData | done => exact .error
  | messageBegin => exact absurd hs hbegin
  | passthroughData => exact absurd hs hpass
  | messageEnd =>
    exact moves_part (fun s _ => p.writeMessageEnd s) (fun _ => machine.stack) (fun _ _ => rfl)
      fun h => hs ▸ .messageEnd h
  | structBegin =>
    exact moves_part p.writeStructBegin (fun _ => machine.stack) (fun _ _ => rfl)
      fun h => hs ▸ .structBegin h
  | structEnd =>
    exact moves_end p.writeStop (fun _ => by simp [write, Protocol.writeStop]) fun h =>
      hs ▸ .structEnd h
  | fieldBegin =>
    refine moves_read fun {a proto rest} hr => ?_
    obtain ⟨name, elemType, id⟩ := a
    dsimp only
    split
    · rename_i htype
      subst htype
      have hm : Move p machine.state machine.stack (machine.tape buffer) .structEnd machine.stack
          ⟨proto, rest, machine.originMessage⟩ :=
        hs ▸ .fieldStop ⟨hr, (List.append_nil _).symm⟩
      exact .move hm
    · rename_i htype
      have hm : Move p machine.state machine.stack (machine.tape buffer) .fieldValue
          ({ returnState := .fieldEnd, elemType } :: machine.stack)
          ⟨proto, rest, machine.originMessage ++ p.writeFieldBegin proto name elemType id⟩ :=
        hs ▸ .fieldBegin htype ⟨hr, rfl⟩
      exact .move hm
  | fieldValue =>
    dsimp only
    unfold fieldValue
    cases hstack : machine.stack with
    | nil => exact .error
    | cons frame below => exact moves_value hstack fun h => hs ▸ .fieldValue h
  | fieldEnd =>
    refine moves_read fun {a proto rest} hr => ?_
    unfold popReturnState
    cases hstack : machine.stack with
    | nil => exact .error
    | cons frame below =>
      have hm : Move p machine.state machine.stack (machine.tape buffer) .fieldBegin below
          ⟨proto, rest, machine.originMessage ++ p.writeFieldEnd proto⟩ := by
        rw [hs, hstack]
        exact .fieldEnd ⟨hr, rfl⟩
      exact .move hm
  | mapBegin =>
    exact moves_part (fun s a => p.writeMapBegin s a.1 a.2.1 a.2.2)
      (fun a => ⟨.mapEnd, a.1, a.2.1, a.2.2⟩ :: machine.stack) (fun _ _ => rfl)
      fun h => hs ▸ .mapBegin h
  | mapKey =>
    dsimp only
    unfold mapKey
    cases hstack : machine.stack with
    | nil => exact .error
    | cons frame below =>
      dsimp only
      split
      · rename_i hr
        exact moves_pop hstack (.exhausted (by simp [hs]) hr)
      · rename_i hr
        exact moves_value hstack fun h => hs ▸ .mapKey hr h
  | mapValue =>
    dsimp only
    unfold mapValue
    cases hstack : machine.stack with
    | nil => exact .error
    | cons frame below =>
      dsimp only
      split
      · exact .error
      · rename_i hr
        exact moves_countDown hstack fun h => hs ▸ .mapValue hr h
  | mapEnd => exact moves_end p.writeMapEnd (fun _ => rfl) fun h => hs ▸ .mapEnd h
  | listBegin =>
    exact moves_part (fun s a => p.writeListBegin s a.1 a.2)
      (fun a => ⟨.listEnd, a.1, .stop, a.2⟩ :: machine.stack)
      (fun _ _ => rfl) fun h => hs ▸ .listBegin h
  | listValue => exact moves_element (by simp) hs
  | listEnd => exact moves_end p.writeListEnd (fun _ => rfl) fun h => hs ▸ .listEnd h
  | setBegin =>
    exact moves_part (fun s a => p.writeSetBegin s a.1 a.2)
      (fun a => ⟨.setEnd, a.1, .stop, a.2⟩ :: machine.stack)
      (fun _ _ => rfl) fun h => hs ▸ .setBegin h
  | setValue => exact moves_element (by simp) hs
  | setEnd => exact moves_end p.writeSetEnd (fun _ => rfl) fun h => hs ▸ .setEnd h

/-! ## Where a step can be taken -/

theorem read_of_transcribes {r : Reader π α} {w : π → α → Bytes} {a : α} {t : Tape π}
    (h : Transcribes r w (machine.tape buffer) a t)
    (use : α → DecoderStateMachine π → DecoderStateMachine π × Except Fault ProtocolState) :
    machine.read r buffer use =
      ((use a { machine with proto := t.protocol }).1, t.buffer,
        (use a { machine with proto := t.protocol }).2) := by
  have hread : r machine.proto buffer = .ok (some (a, t.protocol, t.buffer)) := h.read
  rw [read, hread]

/-- A handler that reads and writes one part. -/
theorem part_of_transcribes {r : Reader π α} {w : π → α → Bytes} {a : α} {t : Tape π}
    (h : Transcribes r w (machine.tape buffer) a t) {next : ProtocolState} {stack : List Frame}
    {use : α → DecoderStateMachine π → DecoderStateMachine π × Except Fault ProtocolState}
    (huse : use a { machine with proto := t.protocol } =
      (machine.moved stack ⟨t.protocol, buffer, machine.originMessage ++ w t.protocol a⟩,
        .ok next)) :
    machine.read r buffer use = (machine.moved stack t, t.buffer, .ok next) := by
  rw [read_of_transcribes h, huse, moved, moved, h.written]
  rfl

/-- A value that is read at once. -/
theorem primitive_of_transcribes {r : Reader π α} {w : π → α → Bytes} {a : α} {t : Tape π}
    (h : Transcribes r w (machine.tape buffer) a t) (returnState : ProtocolState) :
    (machine.read r buffer fun value machine =>
        (machine.write (w machine.proto value), .ok returnState)) =
      (machine.moved machine.stack t, t.buffer, .ok returnState) :=
  part_of_transcribes h rfl

theorem handleValue_of_move {type : FieldType} {returnState next : ProtocolState}
    {pushed : List Frame} {t : Tape π}
    (h : MoveValue p returnState type (machine.tape buffer) next pushed t) :
    machine.handleValue p buffer type returnState =
      (machine.moved (pushed ++ machine.stack) t, t.buffer, .ok next) := by
  cases h with
  | primitive h =>
    cases h with
    | bool h | byte h | i16 h | i32 h | i64 h | double h | string h =>
      exact primitive_of_transcribes h returnState
  | struct | map | list | set => rfl

theorem countDown_of_move {frame : Frame} {below : List Frame}
    (hstack : machine.stack = frame :: below) {type : FieldType}
    {returnState next : ProtocolState} (hreturn : returnState ≠ .waitForData)
    {pushed : List Frame} {t : Tape π}
    (h : MoveValue p returnState type (machine.tape buffer) next pushed t) :
    countDown below.length (machine.handleValue p buffer type returnState) =
      (machine.moved (pushed ++ frame.next :: below) t, t.buffer, .ok next) := by
  have hnext : next ≠ .waitForData := by
    cases h with
    | primitive => exact hreturn
    | _ => simp
  have hdown := @stack_decrement _ (machine.moved (pushed ++ machine.stack) t) frame pushed
    below (by rw [moved, hstack])
  rw [handleValue_of_move h, countDown, if_neg hnext]
  rw [moved, moved, ← hdown]
  rfl

/-- The end of a value is read, and the frame on top of the stack popped. -/
theorem end_of_transcribes {frame : Frame} {below : List Frame}
    (hstack : machine.stack = frame :: below) {r : Reader π Unit} (w : π → Bytes)
    {write : DecoderStateMachine π → DecoderStateMachine π}
    (hwrite : ∀ machine : DecoderStateMachine π, write machine =
      { machine with originMessage := machine.originMessage ++ w machine.proto }) {t : Tape π}
    (h : Transcribes r (fun s _ => w s) (machine.tape buffer) () t) :
    (machine.read r buffer fun _ machine => (write machine).popReturnState) =
      (machine.moved below t, t.buffer, .ok frame.returnState) := by
  refine part_of_transcribes h ?_
  rw [hwrite, popReturnState, hstack]
  rfl

/-- A step that can be taken is taken. -/
theorem handleState_of_move {next : ProtocolState} {stack : List Frame} {t : Tape π}
    (h : Move p machine.state machine.stack (machine.tape buffer) next stack t) :
    machine.handleState p buffer = (machine.moved stack t, t.buffer, .ok next) := by
  generalize hs : machine.state = state, hstack : machine.stack = stack₀,
    htape : machine.tape buffer = t₀ at h
  rw [handleState, hs]
  cases h with
  | messageEnd h =>
    subst htape hstack
    unfold messageEnd
    exact part_of_transcribes h rfl
  | structBegin h =>
    subst htape hstack
    unfold structBegin
    exact part_of_transcribes h rfl
  | structEnd h =>
    subst htape
    exact end_of_transcribes hstack p.writeStop (fun _ => by simp [write, Protocol.writeStop]) h
  | fieldStop h =>
    subst htape hstack
    unfold fieldBegin
    refine part_of_transcribes h ?_
    simp [moved]
  | fieldBegin htype h =>
    subst htape hstack
    unfold fieldBegin
    exact part_of_transcribes h (if_neg htype)
  | fieldValue h =>
    subst htape
    unfold fieldValue
    rw [hstack]
    dsimp only
    rw [handleValue_of_move h, hstack]
  | fieldEnd h =>
    subst htape
    unfold fieldEnd
    refine part_of_transcribes h ?_
    rw [popReturnState, hstack]
    rfl
  | listBegin h =>
    subst htape hstack
    unfold listBegin
    exact part_of_transcribes h rfl
  | mapBegin h =>
    subst htape hstack
    unfold mapBegin
    exact part_of_transcribes h rfl
  | setBegin h =>
    subst htape hstack
    unfold setBegin
    exact part_of_transcribes h rfl
  | listEnd h =>
    subst htape
    exact end_of_transcribes hstack p.writeListEnd (fun _ => rfl) h
  | mapEnd h =>
    subst htape
    exact end_of_transcribes hstack p.writeMapEnd (fun _ => rfl) h
  | setEnd h =>
    subst htape
    exact end_of_transcribes hstack p.writeSetEnd (fun _ => rfl) h
  | @exhausted _ frame _ _ hstate hr =>
    subst htape
    have hpop : machine.pop buffer =
        (machine.moved stack (machine.tape buffer), buffer, .ok frame.returnState) := by
      rw [pop, popReturnState, hstack]
      rfl
    simp only [List.mem_cons, List.not_mem_nil, or_false] at hstate
    rcases hstate with rfl | rfl | rfl
    · dsimp only
      rw [listValue, elementValue, hstack]
      dsimp only
      rw [if_pos hr, hpop]
      rfl
    · dsimp only
      rw [setValue, elementValue, hstack]
      dsimp only
      rw [if_pos hr, hpop]
      rfl
    · dsimp only
      rw [mapKey, hstack]
      dsimp only
      rw [if_pos hr, hpop]
      rfl
  | element hstate hr h =>
    subst htape
    simp only [List.mem_cons, List.not_mem_nil, or_false] at hstate
    rcases hstate with rfl | rfl
    · dsimp only
      rw [listValue, elementValue, hstack]
      dsimp only
      rw [if_neg hr, countDown_of_move hstack (by simp) h]
    · dsimp only
      rw [setValue, elementValue, hstack]
      dsimp only
      rw [if_neg hr, countDown_of_move hstack (by simp) h]
  | mapKey hr h =>
    subst htape
    dsimp only
    rw [mapKey, hstack]
    dsimp only
    rw [if_neg hr, handleValue_of_move h, hstack]
  | mapValue hr h =>
    subst htape
    dsimp only
    rw [mapValue, hstack]
    dsimp only
    rw [if_neg hr, countDown_of_move hstack (by simp) h]

/-! ## Runs -/

/-- A machine that is done with its message. -/
def finished (machine : DecoderStateMachine π) (t : Tape π) : DecoderStateMachine π :=
  { machine.moved [] t with state := .done }

/-- A machine reads what is left. -/
theorem run_of_rest (hp : p.Progress) {t : Tape π} : ∀ (n : ℕ) {machine : DecoderStateMachine π}
    {buffer : Bytes}, machine.measure buffer = n → Disciplined machine.state machine.stack →
      Rest p machine.state machine.stack (machine.tape buffer) t →
        machine.run p buffer = (machine.finished t, t.buffer, .ok .done) := by
  intro n
  induction n using Nat.strongRecOn with
  | ind n ih =>
    intro machine buffer hn hd hrest
    rw [run_eq hp hd]
    by_cases hdone : machine.state = .done
    · rw [if_pos hdone]
      obtain ⟨proto, metadata, state, stack, bodyBytes, originMessage⟩ := machine
      obtain rfl : state = .done := hdone
      cases hrest with
      | done => rfl
      | frame h => cases h
    obtain ⟨next, stack, t₁, hmove, hleft⟩ := move_of_rest hd hdone hrest
    have hstep := handleState_of_move hmove
    have hne : next ≠ .waitForData := by
      rintro rfl
      cases hleft with
      | frame h => cases h
    rw [if_neg hdone, hstep]
    dsimp only
    rw [if_neg hne]
    obtain ⟨hlt, hnext⟩ := measure_handleState hp hd hstep hne
    exact ih _ (hn ▸ hlt) rfl hnext hleft

/-- No step goes back to the begin of the message. -/
theorem ne_messageBegin_of_move {state next : ProtocolState} {stack stack' : List Frame}
    {t t' : Tape π} (hd : Disciplined state stack) (hm : Move p state stack t next stack' t') :
    next ≠ .messageBegin := by
  have hawaits : ∀ {state : ProtocolState}, state.Awaits → state ≠ .messageBegin := by
    rintro _ h rfl
    simp [ProtocolState.Awaits] at h
  have hvalue : ∀ {returnState type t next pushed t'},
      MoveValue p returnState type t next pushed t' → returnState ≠ .messageBegin →
        next ≠ .messageBegin := by
    intro _ _ _ _ _ _ h hreturn
    cases h with
    | primitive => exact hreturn
    | _ => simp
  cases hm with
  | structEnd | listEnd | mapEnd | setEnd => exact hawaits hd.1
  | fieldValue h => exact hvalue h (by rw [hd.1]; simp)
  | exhausted hs hr =>
    simp only [List.mem_cons, List.not_mem_nil, or_false] at hs
    rcases hs with rfl | rfl | rfl <;> rw [hd.1] <;> simp
  | element hs hr h =>
    simp only [List.mem_cons, List.not_mem_nil, or_false] at hs
    rcases hs with rfl | rfl <;> exact hvalue h (by simp)
  | mapKey hr h | mapValue hr h => exact hvalue h (by simp)
  | _ => simp

/-- What a machine has read when it is done was left to read. -/
theorem rest_of_run (hp : p.Progress) {machine' : DecoderStateMachine π} {buffer' : Bytes} :
    ∀ (n : ℕ) {machine : DecoderStateMachine π} {buffer : Bytes}, machine.measure buffer = n →
      Disciplined machine.state machine.stack → machine.state ≠ .messageBegin →
      machine.run p buffer = (machine', buffer', .ok .done) →
        Rest p machine.state machine.stack (machine.tape buffer) (machine'.tape buffer') ∧
          machine' = machine.finished (machine'.tape buffer') := by
  intro n
  induction n using Nat.strongRecOn with
  | ind n ih =>
    intro machine buffer hn hd hbegin hrun
    rw [run_eq hp hd] at hrun
    by_cases hdone : machine.state = .done
    · rw [if_pos hdone] at hrun
      have hnil := hd.eq_nil (by simp [hdone])
      obtain ⟨proto, metadata, state, stack, bodyBytes, originMessage⟩ := machine
      obtain rfl : state = .done := hdone
      obtain rfl : stack = [] := hnil
      cases hrun
      exact ⟨.done, rfl⟩
    rw [if_neg hdone] at hrun
    have hmoves := @moves_handleState _ p machine buffer hbegin hd.ne.2.2
    generalize hstep : machine.handleState p buffer = outcome at hmoves hrun
    cases hmoves with
    | wait => cases hrun
    | error => cases hrun
    | @move next stack t hmove =>
      dsimp only at hrun
      split at hrun
      · cases hrun
      rename_i hne
      obtain ⟨hlt, hnext⟩ := measure_handleState hp hd hstep hne
      obtain ⟨hrest, hfinished⟩ :=
        ih _ (hn ▸ hlt) rfl hnext (ne_messageBegin_of_move hd hmove) hrun
      exact ⟨rest_of_move hd hmove hrest, hfinished⟩

/-- A new machine comes to the end where a message of the grammar ends, and has written its
parts. -/
theorem run_message_iff (hp : p.Progress) {proto : π} {metadata : MessageMetadata}
    {machine' : DecoderStateMachine π} {buffer buffer' : Bytes} :
    run p { proto, metadata } buffer = (machine', buffer', .ok .done) ↔
      ∃ metadata' t, ParsesMessage p metadata metadata' ⟨proto, buffer, []⟩ t ∧
        machine' = finished { proto, metadata := metadata' } t ∧ buffer' = t.buffer := by
  rw [run_eq hp (by simp [Disciplined]), if_neg (by simp)]
  have hhandle : handleState p { proto, metadata } buffer =
    messageBegin p { proto, metadata } buffer :=
    rfl
  rw [hhandle, messageBegin_eq]
  dsimp only
  constructor
  · intro hrun
    rcases hr : p.readMessageBegin metadata proto buffer with what | _ | ⟨metadata', proto', rest⟩
    · rw [hr] at hrun
      cases hrun
    · rw [hr] at hrun
      cases hrun
    · rw [hr] at hrun
      obtain ⟨hrest, hfinished⟩ := rest_of_run hp _ rfl
        (by simp [Disciplined, write, ProtocolState.Awaits])
        (by simp) hrun
      cases hrest with
      | frame h hrest =>
        cases h with
        | structBegin hvalue =>
          cases hrest with
          | messageEnd hend =>
            exact ⟨metadata', _, ⟨_, _, ⟨hr, rfl⟩, hvalue, hend⟩, hfinished, rfl⟩
  · rintro ⟨metadata', t, ⟨t₁, t₂, hbegin, hvalue, hend⟩, rfl, rfl⟩
    obtain ⟨hread, hwritten⟩ := hbegin
    obtain ⟨proto', rest, written⟩ := t₁
    dsimp only at hread hwritten
    subst hwritten
    rw [hread]
    have hrest : Rest p .structBegin [{ returnState := .messageEnd }] _ t :=
      .frame (.structBegin hvalue) (.messageEnd hend)
    exact run_of_rest hp _ rfl (by simp [Disciplined, write, ProtocolState.Awaits]) hrest

end DecoderStateMachine

end MetaProtocolProxy.Thrift
