import Mathlib.Data.List.Forall2
import MetaProtocolProxy.BinaryProtocol
import MetaProtocolProxy.ThriftMachine

/-!
# The stack of the Thrift machine

The stack of the state machine is a word of a small grammar (`Disciplined`). Inside a struct, a
list, a set or a map the head of the stack says which state the value goes back to, and the stack
below is one that this state may find. Between the elements of a container the head is the frame
of the container, and at the value of a field it is the frame of the field.

Every step keeps the grammar (`Control.disciplined`), and a machine whose stack is a word of it is
not stuck (`Disciplined.not_stuck`). So in every state a machine comes to, over any bytes in any
chunks, no assertion on the stack fails and no count goes below zero (`stack_inOrder`).

Every step reads a byte, takes an element off a count or comes closer to a read or to the end of
a value (`Control.cost_lt`), so the loop of the machine ends (`DecoderStateMachine.run_eq`).
-/

namespace MetaProtocolProxy.Thrift

/-! ## The grammar -/

/-- The states behind a value. -/
def ProtocolState.Awaits (state : ProtocolState) : Prop :=
  state ∈ [.messageEnd, .fieldEnd, .listValue, .setValue, .mapKey, .mapValue]

/-- The states inside a value, in which the head of the stack says where to go back to. -/
def ProtocolState.Inside (state : ProtocolState) : Prop :=
  state ∈ [.structBegin, .fieldBegin, .structEnd, .listBegin, .listEnd, .setBegin, .setEnd,
    .mapBegin, .mapEnd]

/-- The stacks that belong to a state. -/
def Disciplined : ProtocolState → List Frame → Prop
  | state, [] => state ∈ [.messageBegin, .messageEnd, .done]
  | state, frame :: below =>
    match state with
    | .structBegin | .fieldBegin | .structEnd | .listBegin | .listEnd | .setBegin | .setEnd
    | .mapBegin | .mapEnd => frame.returnState.Awaits ∧ Disciplined frame.returnState below
    | .fieldValue | .fieldEnd => frame.returnState = .fieldEnd ∧ Disciplined .fieldBegin below
    | .listValue => frame.returnState = .listEnd ∧ Disciplined .listEnd below
    | .setValue => frame.returnState = .setEnd ∧ Disciplined .setEnd below
    | .mapKey => frame.returnState = .mapEnd ∧ Disciplined .mapEnd below
    | .mapValue =>
      frame.returnState = .mapEnd ∧ frame.remaining ≠ 0 ∧ Disciplined .mapEnd below
    | .messageBegin | .messageEnd | .done | .stopIteration | .waitForData | .passthroughData =>
      False

namespace Disciplined

variable {state : ProtocolState} {stack below : List Frame} {frame : Frame}

theorem inside_iff (hs : state.Inside) : Disciplined state (frame :: below) ↔
    frame.returnState.Awaits ∧ Disciplined frame.returnState below := by
  simp only [ProtocolState.Inside, List.mem_cons, List.not_mem_nil, or_false] at hs
  rcases hs with rfl | rfl | rfl | rfl | rfl | rfl | rfl | rfl | rfl <;> exact Iff.rfl

/-- Inside a value the stack is not empty. -/
theorem exists_of_inside (h : Disciplined state stack) (hs : state.Inside) :
    ∃ frame below, stack = frame :: below := by
  cases stack with
  | nil =>
    simp only [Disciplined, List.mem_cons, List.not_mem_nil, or_false] at h
    rcases h with rfl | rfl | rfl <;> simp [ProtocolState.Inside] at hs
  | cons frame below => exact ⟨frame, below, rfl⟩

/-- One state inside a value for another. -/
theorem of_inside (h : Disciplined state stack) (hs : state.Inside) {state' : ProtocolState}
    (hs' : state'.Inside) : Disciplined state' stack := by
  obtain ⟨frame, below, rfl⟩ := h.exists_of_inside hs
  exact (inside_iff hs').mpr ((inside_iff hs).mp h)

/-- A value pushes the frame of the state it goes back to. -/
theorem value (returnState : ProtocolState) {next : ProtocolState} {type : FieldType}
    {pushed : List Frame} (h : Disciplined returnState stack) (hr : returnState.Awaits)
    (hv : Control.Value returnState type next pushed) :
    Disciplined next (pushed ++ stack) := by
  cases hv with
  | primitive => exact h
  | _ => exact ⟨hr, h⟩

/-- The stack of the end of a message is empty. -/
theorem eq_nil (h : Disciplined state stack) (hs : state ∈ [.messageBegin, .messageEnd, .done]) :
    stack = [] := by
  cases stack with
  | nil => rfl
  | cons frame below =>
    simp only [List.mem_cons, List.not_mem_nil, or_false] at hs
    rcases hs with rfl | rfl | rfl <;> exact h.elim

/-- No state is one that only stops the loop. -/
theorem ne (h : Disciplined state stack) :
    state ≠ .stopIteration ∧ state ≠ .waitForData ∧ state ≠ .passthroughData := by
  refine ⟨?_, ?_, ?_⟩ <;> rintro rfl <;> cases stack <;> simp [Disciplined] at h

/-- A word of the grammar is not stuck. -/
theorem not_stuck (h : Disciplined state stack) (hs : state ≠ .done) :
    ¬Control.Stuck state stack := by
  intro hstuck
  cases hstuck with
  | empty hs' =>
    simp only [Disciplined, List.mem_cons, List.not_mem_nil, or_false] at h
    rcases h with rfl | rfl | rfl <;> simp at hs'
  | mapValue hr => exact h.2.1 hr
  | notReached hs' =>
    simp only [List.mem_cons, List.not_mem_nil, or_false] at hs'
    rcases hs' with rfl | rfl | rfl
    · exact h.ne.1 rfl
    · exact h.ne.2.1 rfl
    · exact hs rfl

end Disciplined

/-- Every step keeps the grammar. -/
theorem Control.disciplined {state next : ProtocolState} {stack stack' : List Frame} {reads : Bool}
    (hc : Control state stack next stack' reads) (h : Disciplined state stack) :
    Disciplined next stack' := by
  have hawaits : ∀ {state : ProtocolState},
      state ∈ [.messageEnd, .fieldEnd, .listValue, .setValue, .mapKey, .mapValue] →
        state.Awaits := id
  cases hc with
  | messageBegin => exact ⟨hawaits (by simp), by simp [Disciplined]⟩
  | passthroughData => exact absurd rfl h.ne.2.2
  | messageEnd =>
    rw [h.eq_nil (by simp)]
    simp [Disciplined]
  | structBegin | fieldStop =>
    exact h.of_inside (by simp [ProtocolState.Inside]) (by simp [ProtocolState.Inside])
  | structEnd | listEnd | mapEnd | setEnd => exact h.2
  | fieldBegin => exact ⟨rfl, h⟩
  | listBegin | setBegin | mapBegin =>
    exact ⟨rfl, h.of_inside (by simp [ProtocolState.Inside]) (by simp [ProtocolState.Inside])⟩
  | fieldValue hv =>
    obtain ⟨hr, hbelow⟩ := h
    rw [hr] at hv
    exact Disciplined.value .fieldEnd ⟨hr, hbelow⟩ (hawaits (by simp)) hv
  | fieldEnd => exact h.2
  | exhausted hs hr =>
    simp only [List.mem_cons, List.not_mem_nil, or_false] at hs
    rcases hs with rfl | rfl | rfl <;> exact h.1 ▸ h.2
  | element hs hr hv =>
    simp only [List.mem_cons, List.not_mem_nil, or_false] at hs
    rcases hs with rfl | rfl
    · exact Disciplined.value .listValue h (hawaits (by simp)) hv
    · exact Disciplined.value .setValue h (hawaits (by simp)) hv
  | mapKey hr hv =>
    exact Disciplined.value .mapValue ⟨h.1, hr, h.2⟩ (hawaits (by simp)) hv
  | mapValue hr hv =>
    exact Disciplined.value .mapKey ⟨h.1, h.2.2⟩ (hawaits (by simp)) hv

/-! ## Counting -/

/-- A frame that stays is the same, or has one element less left. -/
def Frame.Counted (frame frame' : Frame) : Prop :=
  frame' = frame ∨ frame' = frame.next ∧ frame'.remaining.toNat + 1 = frame.remaining.toNat

theorem Frame.remaining_next {frame : Frame} (h : frame.remaining ≠ 0) :
    frame.next.remaining.toNat + 1 = frame.remaining.toNat := by
  have hpos : 0 < frame.remaining.toNat :=
    Nat.pos_of_ne_zero fun hz => h (UInt32.toNat_inj.mp hz)
  have hle : (1 : UInt32) ≤ frame.remaining := UInt32.le_iff_toNat_le.mpr hpos
  change (frame.remaining - 1).toNat + 1 = _
  rw [UInt32.toNat_sub_of_le _ _ hle]
  exact Nat.sub_add_cancel hpos

theorem Frame.counted_next {frame : Frame} (h : frame.remaining ≠ 0) : frame.Counted frame.next :=
  Or.inr ⟨rfl, remaining_next h⟩

/-- From one stack to the next frames are pushed or popped, and those below stay. -/
def Counts (stack stack' : List Frame) : Prop :=
  ∃ front front' rest rest', stack = front ++ rest ∧ stack' = front' ++ rest' ∧
    (front = [] ∨ front' = []) ∧ List.Forall₂ Frame.Counted rest rest'

theorem counted_refl (stack : List Frame) : List.Forall₂ Frame.Counted stack stack :=
  List.forall₂_same.mpr fun _ _ => Or.inl rfl

/-- No step makes a count wrap around. -/
theorem Control.counts {state next : ProtocolState} {stack stack' : List Frame} {reads : Bool}
    (hc : Control state stack next stack' reads) (h : Disciplined state stack) :
    Counts stack stack' := by
  have hpush : ∀ pushed stack, Counts stack (pushed ++ stack) := fun pushed stack =>
    ⟨[], pushed, stack, stack, rfl, rfl, Or.inl rfl, counted_refl stack⟩
  have hpop : ∀ frame below, Counts (frame :: below) below := fun frame below =>
    ⟨[frame], [], below, below, rfl, rfl, Or.inr rfl, counted_refl below⟩
  have hcount : ∀ (pushed : List Frame) {frame : Frame} (below : List Frame), frame.remaining ≠ 0 →
      Counts (frame :: below) (pushed ++ frame.next :: below) := fun pushed frame below hr =>
    ⟨[], pushed, frame :: below, frame.next :: below, rfl, rfl, Or.inl rfl,
      .cons (Frame.counted_next hr) (counted_refl below)⟩
  cases hc with
  | messageBegin =>
    rw [h.eq_nil (by simp)]
    exact hpush [_] []
  | messageEnd | passthroughData | structBegin | fieldStop => exact hpush [] _
  | fieldBegin | listBegin | setBegin | mapBegin => exact hpush [_] _
  | structEnd | listEnd | mapEnd | setEnd | fieldEnd | exhausted => exact hpop _ _
  | fieldValue | mapKey => exact hpush _ _
  | element _ hr | mapValue hr => exact hcount _ _ hr

/-! ## The loop ends -/

open DecoderStateMachine (weight cost)

theorem weight_le (state : ProtocolState) : weight state ≤ 4 := by
  cases state <;> decide

@[simp] theorem cost_nil : cost [] = 0 :=
  rfl

@[simp] theorem cost_cons (frame : Frame) (stack : List Frame) :
    cost (frame :: stack) = 2 * frame.remaining.toNat + 1 + cost stack :=
  List.sum_cons

/-- A value is closer to a read, or to the state behind it. -/
theorem Control.Value.cost_le {returnState next : ProtocolState} {type : FieldType}
    {pushed : List Frame} (h : Control.Value returnState type next pushed) (stack : List Frame) :
    cost (pushed ++ stack) + weight next ≤ cost stack + max (weight returnState) 2 := by
  cases h with
  | primitive => exact Nat.add_le_add_left (Nat.le_max_left _ _) _
  | _ =>
    have hmax := Nat.le_max_right (weight returnState) 2
    simp only [List.singleton_append, cost_cons, UInt32.toNat_zero, weight]
    omega

/-- A step reads, or comes closer to a read. -/
theorem Control.cost_lt {state next : ProtocolState} {stack stack' : List Frame} {reads : Bool}
    (hc : Control state stack next stack' reads) (h : Disciplined state stack) :
    cost stack' + weight next < 2 ^ 34 * reads.toNat + cost stack + weight state := by
  have hpop : ∀ {frame : Frame} {below : List Frame}, weight state = 4 →
      cost below + weight frame.returnState <
        2 ^ 34 * false.toNat + cost (frame :: below) + weight state := by
    intro frame below hs
    have hle := weight_le frame.returnState
    rw [hs, cost_cons]
    omega
  have hsize : ∀ remaining : UInt32, remaining.toNat < 2 ^ 32 := UInt32.toNat_lt
  have hmap : weight .mapKey = 4 ∧ weight .mapValue = 3 ∧ weight .fieldEnd = 3 := ⟨rfl, rfl, rfl⟩
  cases hc with
  | structEnd | listEnd | mapEnd | setEnd => exact hpop rfl
  | exhausted hs _ =>
    simp only [List.mem_cons, List.not_mem_nil, or_false] at hs
    rcases hs with rfl | rfl | rfl <;> exact hpop rfl
  | @listBegin _ _ remaining | @setBegin _ _ remaining | @mapBegin _ _ _ remaining =>
    have hlt := hsize remaining
    simp only [cost_cons, weight, Bool.toNat_true]
    omega
  | fieldValue hv =>
    have hle := hv.cost_le
    rw [h.1, hmap.2.2] at hle
    exact Nat.lt_of_le_of_lt (hle _) (by simp [weight])
  | mapKey _ hv =>
    have hle := hv.cost_le
    rw [hmap.2.1] at hle
    exact Nat.lt_of_le_of_lt (hle _) (by simp [weight])
  | @element _ frame below _ _ hs hr hv =>
    have hle := hv.cost_le (frame.next :: below)
    have hcount := Frame.remaining_next hr
    have hstate : weight state = 4 := by
      simp only [List.mem_cons, List.not_mem_nil, or_false] at hs
      rcases hs with rfl | rfl <;> rfl
    simp only [cost_cons, hstate] at hle ⊢
    omega
  | @mapValue frame below _ _ hr hv =>
    have hle := hv.cost_le (frame.next :: below)
    have hcount := Frame.remaining_next hr
    simp only [cost_cons, hmap.1, hmap.2.1] at hle ⊢
    omega
  | _ =>
    simp only [weight, cost_cons, cost_nil, Bool.toNat_true, Bool.toNat_false, UInt32.toNat_zero]
    omega

namespace DecoderStateMachine

variable {π : Type} {p : Protocol π} {machine machine' : DecoderStateMachine π}
  {buffer buffer' : Bytes}

/-- Every step of the loop goes down in `measure`. -/
theorem measure_handleState (hp : p.Progress) (hd : Disciplined machine.state machine.stack)
    {next : ProtocolState} (h : machine.handleState p buffer = (machine', buffer', .ok next))
    (hnext : next ≠ .waitForData) :
    measure { machine' with state := next } buffer' < machine.measure buffer ∧
      Disciplined next machine'.stack := by
  have hhandled := handled_handleState p machine buffer
  rw [h] at hhandled
  cases hhandled with
  | wait => exact absurd rfl hnext
  | step hcontrol _ hlength =>
    have hlt := hcontrol.cost_lt hd
    have hle := hlength hp
    refine ⟨?_, hcontrol.disciplined hd⟩
    unfold measure
    dsimp only
    omega

/-- Fuel above `measure` is enough. -/
theorem runFor_congr (hp : p.Progress) : ∀ (fuel fuel' : ℕ) (machine : DecoderStateMachine π)
    (buffer : Bytes), Disciplined machine.state machine.stack →
      machine.measure buffer < fuel → machine.measure buffer < fuel' →
      runFor p fuel machine buffer = runFor p fuel' machine buffer := by
  intro fuel
  induction fuel with
  | zero => intro _ _ _ _ h; exact absurd h (Nat.not_lt_zero _)
  | succ fuel ih =>
    intro fuel' machine buffer hd hlt hlt'
    obtain ⟨fuel', rfl⟩ : ∃ n, fuel' = n + 1 := ⟨fuel' - 1, by omega⟩
    unfold runFor
    split_ifs with hdone
    · rfl
    · rcases h : machine.handleState p buffer with ⟨machine', buffer', fault | next⟩
      · rfl
      · dsimp only
        split_ifs with hnext
        · rfl
        · obtain ⟨hmeasure, hd'⟩ := measure_handleState hp hd h hnext
          exact ih fuel' _ _ hd' (by omega) (by omega)

/-- The loop of the source. -/
theorem run_eq (hp : p.Progress) (hd : Disciplined machine.state machine.stack) (buffer : Bytes) :
    machine.run p buffer =
      if machine.state = .done then (machine, buffer, .ok .done)
      else
        match machine.handleState p buffer with
        | (machine, buffer, .error fault) => (machine, buffer, .error fault)
        | (machine, buffer, .ok nextState) =>
          if nextState = .waitForData then (machine, buffer, .ok .waitForData)
          else run p { machine with state := nextState } buffer := by
  rw [run, runFor]
  split_ifs with hdone
  · rfl
  · rcases h : machine.handleState p buffer with ⟨machine', buffer', fault | next⟩
    · rfl
    · dsimp only
      split_ifs with hnext
      · rfl
      · obtain ⟨hmeasure, hd'⟩ := measure_handleState hp hd h hnext
        exact runFor_congr hp _ _ _ _ hd' hmeasure (Nat.lt_succ_self _)

end DecoderStateMachine

/-! ## Runs -/

variable {π : Type} {p : Protocol π} {machine machine' : DecoderStateMachine π}
  {buffer buffer' : Bytes}

/-- What a machine started in `MessageBegin` comes to with its buffer, over any bytes in any
chunks, step by step. -/
inductive Reached (p : Protocol π) : DecoderStateMachine π → Bytes → Prop
  | start (proto : π) (metadata : MessageMetadata) : Reached p { proto, metadata } []
  | chunk {machine : DecoderStateMachine π} {buffer : Bytes} (h : Reached p machine buffer)
      (data : Bytes) : Reached p machine (buffer ++ data)
  | wait {machine machine' : DecoderStateMachine π} {buffer buffer' : Bytes}
      (h : Reached p machine buffer)
      (hs : machine.state ≠ .done)
      (hwait : machine.handleState p buffer = (machine', buffer', .ok .waitForData)) :
      Reached p machine' buffer'
  | step {machine machine' : DecoderStateMachine π} {buffer buffer' : Bytes} {next : ProtocolState}
      (h : Reached p machine buffer) (hs : machine.state ≠ .done)
      (hstep : machine.handleState p buffer = (machine', buffer', .ok next))
      (hnext : next ≠ .waitForData) : Reached p { machine' with state := next } buffer'

namespace DecoderStateMachine

/-- What a step of a machine in order can do : it waits as it is, throws an exception, or takes a
step of `Control` to a state in order. -/
theorem handleState_of_disciplined (h : Disciplined machine.state machine.stack)
    (hs : machine.state ≠ .done) {result : Except Fault ProtocolState}
    (hstep : machine.handleState p buffer = (machine', buffer', result)) :
    (result = .ok .waitForData ∧ machine' = machine ∧ buffer' = buffer) ∨
      (∃ what, result = .error (.exception what)) ∨
      ∃ next reads, result = .ok next ∧ next ≠ .waitForData ∧
        Control machine.state machine.stack next machine'.stack reads ∧
        Disciplined next machine'.stack := by
  have hhandled := handled_handleState p machine buffer
  rw [hstep] at hhandled
  cases hhandled with
  | wait => exact Or.inl ⟨rfl, rfl, rfl⟩
  | throw => exact Or.inr (Or.inl ⟨_, rfl⟩)
  | stuck hstuck => exact absurd hstuck (h.not_stuck hs)
  | step hcontrol =>
    have hnext := hcontrol.disciplined h
    exact Or.inr (Or.inr ⟨_, _, rfl, hnext.ne.2.1, hcontrol, hnext⟩)

end DecoderStateMachine

theorem Reached.disciplined (h : Reached p machine buffer) :
    Disciplined machine.state machine.stack := by
  induction h with
  | start => simp [Disciplined]
  | chunk _ _ ih => exact ih
  | wait _ hs hwait ih =>
    rcases DecoderStateMachine.handleState_of_disciplined ih hs hwait with
      ⟨-, rfl, -⟩ | ⟨what, ⟨⟩⟩ | ⟨next, reads, hnext, hne, -⟩
    · exact ih
    · cases hnext
      exact absurd rfl hne
  | step _ hs hstep hnext ih =>
    rcases DecoderStateMachine.handleState_of_disciplined ih hs hstep with
      ⟨⟨⟩, -⟩ | ⟨what, ⟨⟩⟩ | ⟨next, reads, ⟨⟩, -, -, hdisciplined⟩
    · exact absurd rfl hnext
    · exact hdisciplined

/-- The stack is the one that belongs to the state. -/
structure InOrder (machine : DecoderStateMachine π) : Prop where
  stack : Disciplined machine.state machine.stack
  state : machine.state ≠ .stopIteration ∧ machine.state ≠ .waitForData
  empty : machine.state ∈ [.messageEnd, .done] → machine.stack = []

/-- In every state that a machine comes to, over any bytes, in any chunks and with any protocol,
the stack is in order, and the next step fails no assertion, does not reach the default of
`handleState`, and lets no count go below zero. -/
theorem stack_inOrder (h : Reached p machine buffer) :
    InOrder machine ∧ (machine.state ≠ .done →
      (∀ fault, (machine.handleState p buffer).2.2 = .error fault →
        ∃ what, fault = .exception what) ∧
      ∀ next, (machine.handleState p buffer).2.2 = .ok next →
        Counts machine.stack (machine.handleState p buffer).1.stack) := by
  have hstack := h.disciplined
  refine ⟨⟨hstack, ⟨hstack.ne.1, hstack.ne.2.1⟩, fun hs => hstack.eq_nil ?_⟩, fun hs => ?_⟩
  · exact List.mem_cons_of_mem _ hs
  rcases hstep : machine.handleState p buffer with ⟨machine', buffer', result⟩
  rcases DecoderStateMachine.handleState_of_disciplined hstack hs hstep with
    ⟨rfl, rfl, -⟩ | ⟨what, rfl⟩ | ⟨next, reads, rfl, -, hcontrol, -⟩
  · refine ⟨by rintro _ ⟨⟩, fun _ _ => ?_⟩
    exact ⟨[], [], _, _, rfl, rfl, Or.inl rfl, counted_refl _⟩
  · refine ⟨?_, by rintro _ ⟨⟩⟩
    rintro _ ⟨⟩
    exact ⟨what, rfl⟩
  · exact ⟨by rintro _ ⟨⟩, fun _ _ => hcontrol.counts hstack⟩

/-- A call of `m` whose only argument is a list of two numbers, without these. -/
def ThriftExample.listCall : Bytes :=
  BinaryProtocol.protocol.writeMessageBegin ()
      { methodName := some [0x6d], sequenceId := some 1, messageType := some .call } ++
    (BinaryProtocol.protocol.writeFieldBegin () [] .list 1 ++
      BinaryProtocol.protocol.writeListBegin () .i32 2)

/-- The machine and the buffer so many steps later. -/
def ThriftExample.stepped : ℕ → DecoderStateMachine Unit × Bytes
  | 0 => ({ proto := (), metadata := {} }, ThriftExample.listCall)
  | n + 1 =>
    match (ThriftExample.stepped n).1.handleState BinaryProtocol.protocol
        (ThriftExample.stepped n).2 with
    | (machine, buffer, .ok next) => ({ machine with state := next }, buffer)
    | (machine, buffer, .error _) => (machine, buffer)

theorem reached_stepped {n : ℕ} (next : ProtocolState)
    (h : Reached BinaryProtocol.protocol (ThriftExample.stepped n).1 (ThriftExample.stepped n).2)
    (hs : (ThriftExample.stepped n).1.state ≠ .done)
    (hstep : ((ThriftExample.stepped n).1.handleState BinaryProtocol.protocol
      (ThriftExample.stepped n).2).2.2 = .ok next) (hnext : next ≠ .waitForData) :
    Reached BinaryProtocol.protocol (ThriftExample.stepped (n + 1)).1
      (ThriftExample.stepped (n + 1)).2 := by
  unfold ThriftExample.stepped
  generalize ThriftExample.stepped n = s at h hs hstep ⊢
  rcases hresult : s.1.handleState BinaryProtocol.protocol s.2 with ⟨machine, buffer, result⟩
  rw [hresult] at hstep
  obtain rfl : result = .ok next := hstep
  exact .step h hs hresult hnext

/-- Inside of the list the machine has three frames on its stack. -/
theorem reached_listValue : Reached BinaryProtocol.protocol (ThriftExample.stepped 5).1
    (ThriftExample.stepped 5).2 := by
  have h₀ : Reached BinaryProtocol.protocol (ThriftExample.stepped 0).1
      (ThriftExample.stepped 0).2 := .chunk (.start () {}) ThriftExample.listCall
  have h₁ := reached_stepped .structBegin h₀ (by decide) rfl (by decide)
  have h₂ := reached_stepped .fieldBegin h₁ (by decide) rfl (by decide)
  have h₃ := reached_stepped .fieldValue h₂ (by decide) rfl (by decide)
  have h₄ := reached_stepped .listBegin h₃ (by decide) rfl (by decide)
  exact reached_stepped .listValue h₄ (by decide) rfl (by decide)

theorem stack_inOrder_listValue :
    InOrder (ThriftExample.stepped 5).1 ∧ ((ThriftExample.stepped 5).1.state ≠ .done →
      (∀ fault, ((ThriftExample.stepped 5).1.handleState BinaryProtocol.protocol
          (ThriftExample.stepped 5).2).2.2 = .error fault → ∃ what, fault = .exception what) ∧
      ∀ next, ((ThriftExample.stepped 5).1.handleState BinaryProtocol.protocol
          (ThriftExample.stepped 5).2).2.2 = .ok next →
        Counts (ThriftExample.stepped 5).1.stack
          ((ThriftExample.stepped 5).1.handleState BinaryProtocol.protocol
            (ThriftExample.stepped 5).2).1.stack) :=
  stack_inOrder reached_listValue

end MetaProtocolProxy.Thrift
