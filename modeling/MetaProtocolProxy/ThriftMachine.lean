import Mathlib.Algebra.GroupWithZero.Nat
import Mathlib.Tactic.SplitIfs
import MetaProtocolProxy.ThriftProtocol

/-!
# The state machine of the Thrift codec

`DecoderStateMachine` of `thrift_codec.cc` reads a message part by part and writes every part it
has read behind the original message. Values may be nested, so it keeps a stack of frames that
say where to go back to, and how many elements are left.

What a step does to the state and the stack is the relation `Control`, whatever the protocol
reads. It is the abstract machine below the handlers (`handled_handleState`).

The protocol and the metadata are references to what the codec owns : the machine has them while
it runs, and the codec takes them back.

`run` is a loop without a bound in the source. Here it has `measure` for one, which is enough for
a machine whose stack is in order.
-/

namespace MetaProtocolProxy.Thrift

/-! ## The machine -/

/-- The states of the Thrift state machine. -/
inductive ProtocolState where
  | stopIteration | waitForData | passthroughData | messageBegin | messageEnd | structBegin
  | structEnd | fieldBegin | fieldValue | fieldEnd | mapBegin | mapKey | mapValue | mapEnd
  | listBegin | listValue | listEnd | setBegin | setValue | setEnd | done
deriving DecidableEq, Repr

/-- Where to go back to behind a nested value, the types of the elements of a container, and how
many of them are left. -/
structure Frame where
  returnState : ProtocolState
  elemType : FieldType := .stop
  valueType : FieldType := .stop
  remaining : UInt32 := 0
deriving DecidableEq, Repr

/-- The machine. The back of the stack of the source is the head of the list. -/
structure DecoderStateMachine (π : Type) where
  proto : π
  metadata : MessageMetadata
  state : ProtocolState := .messageBegin
  stack : List Frame := []
  bodyBytes : UInt32 := 0
  originMessage : Bytes := []

/-- `passthrough_enabled_`, which nothing sets. -/
def passthroughEnabled : Bool :=
  false

variable {π α : Type}

namespace DecoderStateMachine

/-- A state handler leaves the machine and the buffer behind, and names the next state. -/
abbrev Outcome (π : Type) :=
  DecoderStateMachine π × Bytes × Except Fault ProtocolState

/-- What is written goes behind the original message. -/
def write (machine : DecoderStateMachine π) (bytes : Bytes) : DecoderStateMachine π :=
  { machine with originMessage := machine.originMessage ++ bytes }

/-- A container is entered. -/
def push (machine : DecoderStateMachine π) (frame : Frame) : DecoderStateMachine π :=
  { machine with stack := frame :: machine.stack }

/-- A read, and what is done with its value. A handler reads once, so nothing has been done where
more data is needed. -/
def read (r : Reader π α) (machine : DecoderStateMachine π) (buffer : Bytes)
    (use : α → DecoderStateMachine π → DecoderStateMachine π × Except Fault ProtocolState) :
    Outcome π :=
  match r machine.proto buffer with
  | .error what => (machine, buffer, .error (.exception what))
  | .ok none => (machine, buffer, .ok .waitForData)
  | .ok (some (a, proto, buffer)) =>
    let (machine, next) := use a { machine with proto }
    (machine, buffer, next)

/-- `popReturnState`. -/
def popReturnState (machine : DecoderStateMachine π) :
    DecoderStateMachine π × Except Fault ProtocolState :=
  match machine.stack with
  | [] => (machine, .error (.panic "ASSERT(!stack_.empty())"))
  | frame :: stack => ({ machine with stack }, .ok frame.returnState)

/-- A frame is popped without reading. -/
def pop (machine : DecoderStateMachine π) (buffer : Bytes) : Outcome π :=
  let (machine, next) := machine.popReturnState
  (machine, buffer, next)

/-- `stack_[index].remaining_--`, for an index from the bottom of the stack. -/
def decrement (index : ℕ) (machine : DecoderStateMachine π) : DecoderStateMachine π :=
  { machine with
    stack := machine.stack.modify (machine.stack.length - 1 - index) fun frame =>
      { frame with remaining := frame.remaining - 1 } }

/-- An element has been taken, unless more data is needed. -/
def countDown (index : ℕ) : Outcome π → Outcome π
  | (machine, buffer, .ok nextState) =>
    if nextState = .waitForData then (machine, buffer, .ok nextState)
    else (machine.decrement index, buffer, .ok nextState)
  | (machine, buffer, .error fault) => (machine, buffer, .error fault)

section States

variable (p : Protocol π) (machine : DecoderStateMachine π) (buffer : Bytes)

/-- `handleValue` : a primitive value is read and written, and for any other the state to go back
to is pushed. -/
def handleValue (elemType : FieldType) (returnState : ProtocolState) : Outcome π :=
  let transcribe {α : Type} (r : Reader π α) (w : π → α → Bytes) : Outcome π :=
    machine.read r buffer fun value machine =>
      (machine.write (w machine.proto value), .ok returnState)
  match elemType with
  | .bool => transcribe p.readBool p.writeBool
  | .byte => transcribe p.readByte p.writeByte
  | .i16 => transcribe p.readInt16 p.writeInt16
  | .i32 => transcribe p.readInt32 p.writeInt32
  | .i64 => transcribe p.readInt64 p.writeInt64
  | .double => transcribe p.readDouble p.writeDouble
  | .string => transcribe p.readString p.writeString
  | .struct => (machine.push { returnState }, buffer, .ok .structBegin)
  | .map => (machine.push { returnState }, buffer, .ok .mapBegin)
  | .list => (machine.push { returnState }, buffer, .ok .listBegin)
  | .set => (machine.push { returnState }, buffer, .ok .setBegin)
  | .stop | .void | .unnamed _ _ =>
    (machine, buffer, .error (.exception s!"unknown field type {elemType.toUInt8.toInt8}"))

/-- `passthroughData`. -/
def passthroughData : Outcome π :=
  if machine.bodyBytes.toNat > buffer.length then (machine, buffer, .ok .waitForData)
  else
    (machine.write (buffer.take machine.bodyBytes.toNat), buffer.drop machine.bodyBytes.toNat,
      .ok .messageEnd)

/-- `messageBegin`. -/
def messageBegin : Outcome π :=
  let total := buffer.length
  match p.readMessageBegin machine.metadata machine.proto buffer with
  | .error what => (machine, buffer, .error (.exception what))
  | .ok none => (machine, buffer, .ok .waitForData)
  | .ok (some (metadata, proto, buffer)) =>
    let machine :=
      { machine with proto, metadata, stack := [{ returnState := .messageEnd }] }
    if passthroughEnabled then
      match metadata.frameSize with
      | none => (machine, buffer, .error (.panic "bad_optional_access"))
      | some frameSize =>
        ({ machine with bodyBytes := frameSize - UInt32.ofNat (total - buffer.length) }, buffer,
          .ok .passthroughData)
    else (machine.write (p.writeMessageBegin proto metadata), buffer, .ok .structBegin)

/-- `messageEnd`. -/
def messageEnd : Outcome π :=
  machine.read p.readMessageEnd buffer fun _ machine =>
    (machine.write (p.writeMessageEnd machine.proto), .ok .done)

/-- `structBegin`. -/
def structBegin : Outcome π :=
  machine.read p.readStructBegin buffer fun name machine =>
    (machine.write (p.writeStructBegin machine.proto name), .ok .fieldBegin)

/-- `structEnd`. -/
def structEnd : Outcome π :=
  machine.read p.readStructEnd buffer fun _ machine =>
    ((machine.write (p.writeFieldBegin machine.proto [] .stop 0)).write
      (p.writeStructEnd machine.proto)).popReturnState

/-- `fieldBegin`. -/
def fieldBegin : Outcome π :=
  machine.read p.readFieldBegin buffer fun (name, fieldType, fieldId) machine =>
    if fieldType = .stop then (machine, .ok .structEnd)
    else
      ((machine.push { returnState := .fieldEnd, elemType := fieldType }).write
        (p.writeFieldBegin machine.proto name fieldType fieldId), .ok .fieldValue)

/-- `fieldValue`. -/
def fieldValue : Outcome π :=
  match machine.stack with
  | [] => (machine, buffer, .error (.panic "ASSERT(!stack_.empty())"))
  | frame :: _ => machine.handleValue p buffer frame.elemType frame.returnState

/-- `fieldEnd`. What `popReturnState` returns is not used. -/
def fieldEnd : Outcome π :=
  machine.read p.readFieldEnd buffer fun _ machine =>
    match machine.popReturnState with
    | (machine, .error fault) => (machine, .error fault)
    | (machine, .ok _) => (machine.write (p.writeFieldEnd machine.proto), .ok .fieldBegin)

/-- `listBegin`. -/
def listBegin : Outcome π :=
  machine.read p.readListBegin buffer fun (elemType, size) machine =>
    ((machine.push { returnState := .listEnd, elemType, remaining := size }).write
      (p.writeListBegin machine.proto elemType size), .ok .listValue)

/-- `listValue` and `setValue` : the next element, or the end. -/
def elementValue (state : ProtocolState) : Outcome π :=
  match machine.stack with
  | [] => (machine, buffer, .error (.panic "ASSERT(!stack_.empty())"))
  | frame :: below =>
    if frame.remaining = 0 then machine.pop buffer
    else countDown below.length (machine.handleValue p buffer frame.elemType state)

/-- `listValue`. -/
def listValue : Outcome π :=
  machine.elementValue p buffer .listValue

/-- `listEnd`. -/
def listEnd : Outcome π :=
  machine.read p.readListEnd buffer fun _ machine =>
    (machine.write (p.writeListEnd machine.proto)).popReturnState

/-- `mapBegin`. -/
def mapBegin : Outcome π :=
  machine.read p.readMapBegin buffer fun (keyType, valueType, size) machine =>
    ((machine.push
        { returnState := .mapEnd, elemType := keyType, valueType, remaining := size }).write
      (p.writeMapBegin machine.proto keyType valueType size), .ok .mapKey)

/-- `mapKey`. -/
def mapKey : Outcome π :=
  match machine.stack with
  | [] => (machine, buffer, .error (.panic "ASSERT(!stack_.empty())"))
  | frame :: _ =>
    if frame.remaining = 0 then machine.pop buffer
    else machine.handleValue p buffer frame.elemType .mapValue

/-- `mapValue`. -/
def mapValue : Outcome π :=
  match machine.stack with
  | [] => (machine, buffer, .error (.panic "ASSERT(!stack_.empty())"))
  | frame :: below =>
    if frame.remaining = 0 then
      (machine, buffer, .error (.panic "ASSERT(stack_[index].remaining_ != 0)"))
    else countDown below.length (machine.handleValue p buffer frame.valueType .mapKey)

/-- `mapEnd`. -/
def mapEnd : Outcome π :=
  machine.read p.readMapEnd buffer fun _ machine =>
    (machine.write (p.writeMapEnd machine.proto)).popReturnState

/-- `setBegin`. -/
def setBegin : Outcome π :=
  machine.read p.readSetBegin buffer fun (elemType, size) machine =>
    ((machine.push { returnState := .setEnd, elemType, remaining := size }).write
      (p.writeSetBegin machine.proto elemType size), .ok .setValue)

/-- `setValue`. -/
def setValue : Outcome π :=
  machine.elementValue p buffer .setValue

/-- `setEnd`. -/
def setEnd : Outcome π :=
  machine.read p.readSetEnd buffer fun _ machine =>
    (machine.write (p.writeSetEnd machine.proto)).popReturnState

/-- `handleState`. -/
def handleState : Outcome π :=
  match machine.state with
  | .passthroughData => machine.passthroughData buffer
  | .messageBegin => machine.messageBegin p buffer
  | .structBegin => machine.structBegin p buffer
  | .structEnd => machine.structEnd p buffer
  | .fieldBegin => machine.fieldBegin p buffer
  | .fieldValue => machine.fieldValue p buffer
  | .fieldEnd => machine.fieldEnd p buffer
  | .listBegin => machine.listBegin p buffer
  | .listValue => machine.listValue p buffer
  | .listEnd => machine.listEnd p buffer
  | .mapBegin => machine.mapBegin p buffer
  | .mapKey => machine.mapKey p buffer
  | .mapValue => machine.mapValue p buffer
  | .mapEnd => machine.mapEnd p buffer
  | .setBegin => machine.setBegin p buffer
  | .setValue => machine.setValue p buffer
  | .setEnd => machine.setEnd p buffer
  | .messageEnd => machine.messageEnd p buffer
  | .stopIteration | .waitForData | .done =>
    (machine, buffer, .error (.panic "NOT_REACHED in handleState"))

end States

/-! ## The loop -/

/-- The loop of `run`, for `fuel` states. -/
def runFor (p : Protocol π) : ℕ → DecoderStateMachine π → Bytes → Outcome π
  | 0, machine, buffer => (machine, buffer, .ok machine.state)
  | fuel + 1, machine, buffer =>
    if machine.state = .done then (machine, buffer, .ok .done)
    else
      match machine.handleState p buffer with
      | (machine, buffer, .error fault) => (machine, buffer, .error fault)
      | (machine, buffer, .ok nextState) =>
        if nextState = .waitForData then (machine, buffer, .ok .waitForData)
        else runFor p fuel { machine with state := nextState } buffer

/-- How far a state is from one that reads a byte, or from the end. -/
def weight : ProtocolState → ℕ
  | .structBegin | .messageEnd => 1
  | .passthroughData => 2
  | .mapValue | .fieldEnd => 3
  | .fieldValue | .listValue | .mapKey | .setValue => 4
  | .structEnd | .listEnd | .mapEnd | .setEnd => 4
  | _ => 0

/-- The elements a frame waits for, and its end. -/
def cost (stack : List Frame) : ℕ :=
  (stack.map fun frame => 2 * frame.remaining.toNat + 1).sum

/-- A bound on the steps of the loop. -/
def measure (machine : DecoderStateMachine π) (buffer : Bytes) : ℕ :=
  2 ^ 34 * buffer.length + cost machine.stack + weight machine.state

/-- `run`. -/
def run (p : Protocol π) (machine : DecoderStateMachine π) (buffer : Bytes) : Outcome π :=
  runFor p (machine.measure buffer + 1) machine buffer

end DecoderStateMachine

/-! ## The control of the machine -/

/-- The frames a value of a type pushes, and the state behind it. -/
inductive Control.Value (returnState : ProtocolState) :
    FieldType → ProtocolState → List Frame → Prop
  | primitive {type : FieldType}
      (h : type ∈ [.bool, .byte, .i16, .i32, .i64, .double, .string]) :
      Value returnState type returnState []
  | struct : Value returnState .struct .structBegin [{ returnState }]
  | map : Value returnState .map .mapBegin [{ returnState }]
  | list : Value returnState .list .listBegin [{ returnState }]
  | set : Value returnState .set .setBegin [{ returnState }]

/-- One element less is left. -/
def Frame.next (frame : Frame) : Frame :=
  { frame with remaining := frame.remaining - 1 }

/-- What a step does to the state and the stack, and whether it reads a byte. -/
inductive Control : ProtocolState → List Frame → ProtocolState → List Frame → Bool → Prop
  | messageBegin {stack} :
      Control .messageBegin stack .structBegin [{ returnState := .messageEnd }] true
  | passthroughData {stack} : Control .passthroughData stack .messageEnd stack false
  | messageEnd {stack} : Control .messageEnd stack .done stack false
  | structBegin {stack} : Control .structBegin stack .fieldBegin stack false
  | structEnd {frame below} : Control .structEnd (frame :: below) frame.returnState below false
  | fieldStop {stack} : Control .fieldBegin stack .structEnd stack true
  | fieldBegin {stack elemType} :
      Control .fieldBegin stack .fieldValue ({ returnState := .fieldEnd, elemType } :: stack) true
  | fieldValue {frame below next pushed}
      (h : Control.Value frame.returnState frame.elemType next pushed) :
      Control .fieldValue (frame :: below) next (pushed ++ frame :: below) false
  | fieldEnd {frame below} : Control .fieldEnd (frame :: below) .fieldBegin below false
  | listBegin {stack elemType remaining} :
      Control .listBegin stack .listValue
        ({ returnState := .listEnd, elemType, remaining } :: stack) true
  | listEnd {frame below} : Control .listEnd (frame :: below) frame.returnState below false
  | mapBegin {stack elemType valueType remaining} :
      Control .mapBegin stack .mapKey
        ({ returnState := .mapEnd, elemType, valueType, remaining } :: stack) true
  | mapEnd {frame below} : Control .mapEnd (frame :: below) frame.returnState below false
  | setBegin {stack elemType remaining} :
      Control .setBegin stack .setValue
        ({ returnState := .setEnd, elemType, remaining } :: stack) true
  | setEnd {frame below} : Control .setEnd (frame :: below) frame.returnState below false
  /-- No element is left. -/
  | exhausted {state frame below} (hs : state ∈ [.listValue, .setValue, .mapKey])
      (hr : frame.remaining = 0) :
      Control state (frame :: below) frame.returnState below false
  | element {state frame below next pushed} (hs : state ∈ [.listValue, .setValue])
      (hr : frame.remaining ≠ 0) (h : Control.Value state frame.elemType next pushed) :
      Control state (frame :: below) next (pushed ++ frame.next :: below) false
  | mapKey {frame below next pushed} (hr : frame.remaining ≠ 0)
      (h : Control.Value .mapValue frame.elemType next pushed) :
      Control .mapKey (frame :: below) next (pushed ++ frame :: below) false
  | mapValue {frame below next pushed} (hr : frame.remaining ≠ 0)
      (h : Control.Value .mapKey frame.valueType next pushed) :
      Control .mapValue (frame :: below) next (pushed ++ frame.next :: below) false

/-- The begin of a message reads. -/
theorem Control.reads_of_messageBegin {stack next stack' reads}
    (h : Control .messageBegin stack next stack' reads) : reads = true := by
  generalize hs : ProtocolState.messageBegin = state at h
  cases h with
  | messageBegin => rfl
  | exhausted hs' | element hs' => simp [← hs] at hs'
  | _ => cases hs

/-- The state and the stack of an assertion that fails, or of a branch that is not reached. -/
inductive Control.Stuck : ProtocolState → List Frame → Prop
  | empty {state}
      (h : state ∈ [.structEnd, .fieldValue, .fieldEnd, .listValue, .listEnd, .mapKey, .mapValue,
        .mapEnd, .setValue, .setEnd]) : Stuck state []
  | mapValue {frame below} (hr : frame.remaining = 0) : Stuck .mapValue (frame :: below)
  | notReached {state stack} (h : state ∈ [.stopIteration, .waitForData, .done]) :
      Stuck state stack

namespace DecoderStateMachine

/-- What a handler `f` of the state of a machine can do : it waits or throws and has done nothing,
takes a step, or is stuck. A step and an exception are the same with more bytes behind the buffer.
Only the begin of a message changes the metadata. -/
inductive Handled (p : Protocol π) (machine : DecoderStateMachine π) (f : Bytes → Outcome π)
    (buffer : Bytes) : Outcome π → Prop
  | wait : Handled p machine f buffer (machine, buffer, .ok .waitForData)
  | step {machine' buffer' next reads}
      (hcontrol : Control machine.state machine.stack next machine'.stack reads)
      (hmetadata : machine.state ≠ .messageBegin → machine'.metadata = machine.metadata)
      (hlength : p.Progress → buffer'.length + reads.toNat ≤ buffer.length)
      (hmore : p.Local → ∀ x, f (buffer ++ x) = (machine', buffer' ++ x, .ok next)) :
      Handled p machine f buffer (machine', buffer', .ok next)
  | throw {what}
      (hmore : p.Local → ∀ x, f (buffer ++ x) = (machine, buffer ++ x, .error (.exception what))) :
      Handled p machine f buffer (machine, buffer, .error (.exception what))
  | stuck {machine' buffer' fault} (h : Control.Stuck machine.state machine.stack) :
      Handled p machine f buffer (machine', buffer', .error fault)

section Handled

variable {p : Protocol π} {machine : DecoderStateMachine π} {buffer : Bytes}

/-- A handler that reads once. -/
theorem handled_read (reads : Bool) {r : Reader π α}
    {use : α → DecoderStateMachine π → DecoderStateMachine π × Except Fault ProtocolState}
    (hl : p.Local → r.Local)
    (hp : p.Progress → ∀ {s b a s' b'}, r s b = .ok (some (a, s', b')) →
      b'.length + reads.toNat ≤ b.length)
    (huse : ∀ a proto, (∃ machine' next, use a { machine with proto } = (machine', .ok next) ∧
        machine'.metadata = machine.metadata ∧
        Control machine.state machine.stack next machine'.stack reads) ∨
      ∃ machine' fault, use a { machine with proto } = (machine', .error fault) ∧
        Control.Stuck machine.state machine.stack) :
    Handled p machine (fun buffer => machine.read r buffer use) buffer
      (machine.read r buffer use) := by
  unfold read
  rcases hr : r machine.proto buffer with what | _ | ⟨a, proto, buffer'⟩
  · exact .throw fun h x => by rw [(hl h).error hr x]
  · exact .wait
  · have hmore : p.Local → ∀ x, r machine.proto (buffer ++ x) =
      .ok (some (a, proto, buffer' ++ x)) :=
      fun h x => (hl h).ok hr x
    dsimp only
    rcases huse a proto with
      ⟨machine', next, hnext, hmetadata, hcontrol⟩ | ⟨machine', fault, hfault, hstuck⟩
    · rw [hnext]
      refine .step hcontrol (fun _ => hmetadata) (fun h => hp h hr) fun h x => ?_
      rw [hmore h x]
      dsimp only
      rw [hnext]
    · rw [hfault]
      exact .stuck hstuck

/-- What a value can do. -/
inductive HandledValue (p : Protocol π) (machine : DecoderStateMachine π) (type : FieldType)
    (returnState : ProtocolState) (buffer : Bytes) : Outcome π → Prop
  | wait : HandledValue p machine type returnState buffer (machine, buffer, .ok .waitForData)
  | step {machine' buffer' next pushed} (hvalue : Control.Value returnState type next pushed)
      (hstack : machine'.stack = pushed ++ machine.stack)
      (hmetadata : machine'.metadata = machine.metadata)
      (hlength : p.Progress → buffer'.length ≤ buffer.length)
      (hmore : p.Local → ∀ x, machine.handleValue p (buffer ++ x) type returnState =
        (machine', buffer' ++ x, .ok next)) :
      HandledValue p machine type returnState buffer (machine', buffer', .ok next)
  | throw {what}
      (hmore : p.Local → ∀ x, machine.handleValue p (buffer ++ x) type returnState =
        (machine, buffer ++ x, .error (.exception what))) :
      HandledValue p machine type returnState buffer (machine, buffer, .error (.exception what))

theorem handledValue_primitive {type : FieldType} {returnState : ProtocolState}
    {r : Reader π α} {w : π → α → Bytes}
    (hf : ∀ buffer, machine.handleValue p buffer type returnState =
      machine.read r buffer fun value machine =>
        (machine.write (w machine.proto value), .ok returnState))
    (ht : type ∈ [.bool, .byte, .i16, .i32, .i64, .double, .string])
    (hl : p.Local → r.Local) (hp : p.Progress → r.Drains) :
    HandledValue p machine type returnState buffer
      (machine.handleValue p buffer type returnState) := by
  rw [hf]
  unfold read
  rcases hr : r machine.proto buffer with what | _ | ⟨a, proto, buffer'⟩
  · refine .throw fun h x => ?_
    rw [hf, read, (hl h).error hr x]
  · exact .wait
  · refine .step (.primitive ht) rfl rfl (fun h => hp h hr) fun h x => ?_
    rw [hf, read, (hl h).ok hr x]

theorem handled_handleValue (type : FieldType) (returnState : ProtocolState) :
    HandledValue p machine type returnState buffer
      (machine.handleValue p buffer type returnState) := by
  cases type with
  | bool => exact handledValue_primitive (fun _ => rfl) (by simp) (·.readBool) (·.readBool)
  | byte => exact handledValue_primitive (fun _ => rfl) (by simp) (·.readByte) (·.readByte)
  | i16 => exact handledValue_primitive (fun _ => rfl) (by simp) (·.readInt16) (·.readInt16)
  | i32 => exact handledValue_primitive (fun _ => rfl) (by simp) (·.readInt32) (·.readInt32)
  | i64 => exact handledValue_primitive (fun _ => rfl) (by simp) (·.readInt64) (·.readInt64)
  | double => exact handledValue_primitive (fun _ => rfl) (by simp) (·.readDouble) (·.readDouble)
  | string => exact handledValue_primitive (fun _ => rfl) (by simp) (·.readString) (·.readString)
  | struct => exact .step .struct rfl rfl (fun _ => Nat.le_refl _) fun _ _ => rfl
  | map => exact .step .map rfl rfl (fun _ => Nat.le_refl _) fun _ _ => rfl
  | list => exact .step .list rfl rfl (fun _ => Nat.le_refl _) fun _ _ => rfl
  | set => exact .step .set rfl rfl (fun _ => Nat.le_refl _) fun _ _ => rfl
  | stop | void | unnamed => exact .throw fun _ _ => rfl

/-- A handler that reads an end, writes it, and goes back. -/
theorem handled_end {r : Reader π Unit} (w : DecoderStateMachine π → DecoderStateMachine π)
    (hw : ∀ machine, (w machine).stack = machine.stack ∧ (w machine).metadata = machine.metadata)
    (hl : p.Local → r.Local) (hp : p.Progress → r.Drains)
    (hcontrol : ∀ frame below, Control machine.state (frame :: below) frame.returnState below false)
    (hstuck : Control.Stuck machine.state []) :
    Handled p machine
      (fun buffer => machine.read r buffer fun _ machine => (w machine).popReturnState) buffer
      (machine.read r buffer fun _ machine => (w machine).popReturnState) := by
  refine handled_read false hl (fun h _ _ _ _ _ hr => hp h hr) fun _ proto => ?_
  unfold popReturnState
  rw [(hw _).1]
  cases hstack : machine.stack with
  | nil => exact Or.inr ⟨_, _, rfl, hstuck⟩
  | cons frame below => exact Or.inl ⟨_, _, rfl, (hw _).2, hcontrol frame below⟩

theorem stack_decrement {frame : Frame} {pushed below : List Frame}
    (hstack : machine.stack = pushed ++ frame :: below) :
    (machine.decrement below.length).stack = pushed ++ frame.next :: below := by
  have hindex : machine.stack.length - 1 - below.length = pushed.length := by
    rw [hstack, List.length_append, List.length_cons]
    omega
  rw [decrement, hindex]
  dsimp only
  rw [hstack, List.modify_eq_take_drop, List.take_left, List.drop_left]
  rfl

/-- A value of an element that counts down. -/
theorem handled_countDown {frame : Frame} {below : List Frame} {type : FieldType}
    {returnState : ProtocolState} (hstack : machine.stack = frame :: below)
    (hne : returnState ≠ .waitForData)
    (hcontrol : ∀ next pushed, Control.Value returnState type next pushed →
      Control machine.state (frame :: below) next (pushed ++ frame.next :: below) false) :
    Handled p machine
      (fun buffer => countDown below.length (machine.handleValue p buffer type returnState)) buffer
      (countDown below.length (machine.handleValue p buffer type returnState)) := by
  have hvalue := @handled_handleValue _ p machine buffer type returnState
  generalize houtcome : machine.handleValue p buffer type returnState = outcome at hvalue ⊢
  cases hvalue with
  | wait => exact .wait
  | throw hmore =>
    exact .throw fun h x => by rw [hmore h x]; rfl
  | @step machine' buffer' next pushed hvalue hpushed hmetadata hlength hmore =>
    have hnext : next ≠ .waitForData := by
      cases hvalue with
      | primitive h => exact hne
      | _ => simp
    have hcount : ∀ b, countDown below.length (machine', b, .ok next) =
        (machine'.decrement below.length, b, .ok next) := fun b => if_neg hnext
    rw [hcount]
    have hstep : Control machine.state machine.stack next (machine'.decrement below.length).stack
        false := by
      rw [hstack, stack_decrement (hpushed.trans (by rw [hstack]))]
      exact hcontrol next pushed hvalue
    exact .step hstep (fun _ => hmetadata) hlength fun h x => by rw [hmore h x, hcount]

/-- A value that is no element, or an element that is not counted. -/
theorem handled_value {frame : Frame} {below : List Frame} {type : FieldType}
    {returnState : ProtocolState} (hstack : machine.stack = frame :: below)
    (hcontrol : ∀ next pushed, Control.Value returnState type next pushed →
      Control machine.state (frame :: below) next (pushed ++ frame :: below) false) :
    Handled p machine (fun buffer => machine.handleValue p buffer type returnState) buffer
      (machine.handleValue p buffer type returnState) := by
  have hvalue := @handled_handleValue _ p machine buffer type returnState
  generalize houtcome : machine.handleValue p buffer type returnState = outcome at hvalue ⊢
  cases hvalue with
  | wait => exact .wait
  | throw hmore => exact .throw hmore
  | @step machine' _ next pushed hvalue hpushed hmetadata hlength hmore =>
    have hstep : Control machine.state machine.stack next machine'.stack false := by
      rw [hpushed, hstack]
      exact hcontrol next pushed hvalue
    exact .step hstep (fun _ => hmetadata) hlength hmore

/-- A container with no element left is gone back from without a read. -/
theorem handled_pop {frame : Frame} {below : List Frame} (hstack : machine.stack = frame :: below)
    (hcontrol : Control machine.state (frame :: below) frame.returnState below false) :
    Handled p machine machine.pop buffer (machine.pop buffer) := by
  have hpop : ∀ buffer, machine.pop buffer =
      ({ machine with stack := below }, buffer, .ok frame.returnState) := by
    intro buffer
    rw [pop, popReturnState, hstack]
  rw [hpop]
  exact .step (hstack ▸ hcontrol) (fun _ => rfl) (fun _ => Nat.le_refl _) fun _ x => hpop _

/-- The begin of a message, which is not passed through. -/
theorem messageBegin_eq (buffer : Bytes) : machine.messageBegin p buffer =
    match p.readMessageBegin machine.metadata machine.proto buffer with
    | .error what => (machine, buffer, .error (.exception what))
    | .ok none => (machine, buffer, .ok .waitForData)
    | .ok (some (metadata, proto, buffer)) =>
      ({ machine with proto, metadata, stack := [{ returnState := .messageEnd }] }.write
        (p.writeMessageBegin proto metadata), buffer, .ok .structBegin) :=
  rfl

/-- The begin of a message clears the stack. -/
theorem handled_messageBegin (hs : machine.state = .messageBegin) :
    Handled p machine (machine.messageBegin p) buffer (machine.messageBegin p buffer) := by
  rw [messageBegin_eq]
  rcases hr : p.readMessageBegin machine.metadata machine.proto buffer
    with what | _ | ⟨metadata, proto, buffer'⟩
  · exact .throw fun h x => by rw [messageBegin_eq, (h.readMessageBegin _).error hr x]
  · exact .wait
  · have hcontrol : Control machine.state machine.stack .structBegin
        [{ returnState := .messageEnd }] true := hs ▸ .messageBegin
    refine .step hcontrol (fun h => absurd hs h) (fun h => h.readMessageBegin _ hr)
      fun h x => ?_
    rw [messageBegin_eq, (h.readMessageBegin _).ok hr x]

/-- The next element of a list or a set. -/
theorem handled_elementValue (hs : machine.state ∈ [.listValue, .setValue]) :
    Handled p machine (fun buffer => machine.elementValue p buffer machine.state) buffer
      (machine.elementValue p buffer machine.state) := by
  have hs' : machine.state = .listValue ∨ machine.state = .setValue := by simpa using hs
  have hne : machine.state ≠ .waitForData := by
    rcases hs' with h | h <;> simp [h]
  unfold elementValue
  cases hstack : machine.stack with
  | nil =>
    refine .stuck (hstack ▸ .empty ?_)
    rcases hs' with h | h <;> simp [h]
  | cons frame below =>
    dsimp only
    split
    · rename_i hr
      refine handled_pop hstack (.exhausted ?_ hr)
      rcases hs' with h | h <;> simp [h]
    · rename_i hr
      exact handled_countDown hstack hne fun _ _ h => .element hs hr h

/-- What the handler of the state of a machine can do. -/
theorem handled_handleState (p : Protocol π) (machine : DecoderStateMachine π) (buffer : Bytes) :
    Handled p machine (machine.handleState p) buffer (machine.handleState p buffer) := by
  have hhandler : ∀ f : Bytes → Outcome π, machine.handleState p = f →
      Handled p machine f buffer (f buffer) →
      Handled p machine (machine.handleState p) buffer (machine.handleState p buffer) :=
    fun f hf h => hf ▸ h
  cases hs : machine.state
  case stopIteration | waitForData | done =>
    rw [handleState, hs]
    exact .stuck (hs ▸ .notReached (by simp))
  case passthroughData =>
    refine hhandler machine.passthroughData (by funext; simp only [handleState, hs]) ?_
    unfold passthroughData
    split
    · exact .wait
    · rename_i hlength
      have hcontrol : Control machine.state machine.stack .messageEnd machine.stack false :=
        hs ▸ .passthroughData
      refine .step hcontrol (fun _ => rfl) (fun _ => ?_) fun _ x => ?_
      · rw [List.length_drop]
        exact Nat.sub_le _ _
      · rw [if_neg (by rw [List.length_append]; omega), List.take_append_of_le_length (by omega),
          List.drop_append_of_le_length (by omega)]
  case messageBegin =>
    exact hhandler _ (by funext; simp only [handleState, hs]) (handled_messageBegin hs)
  case messageEnd =>
    refine hhandler (machine.messageEnd p) (by funext; simp only [handleState, hs]) ?_
    exact handled_read false (·.readMessageEnd)
      (fun h _ _ _ _ _ hr => h.readMessageEnd hr)
      fun _ _ => Or.inl ⟨_, _, rfl, rfl, hs ▸ .messageEnd⟩
  case structBegin =>
    refine hhandler (machine.structBegin p) (by funext; simp only [handleState, hs]) ?_
    exact handled_read false (·.readStructBegin)
      (fun h _ _ _ _ _ hr => h.readStructBegin hr)
      fun _ _ => Or.inl ⟨_, _, rfl, rfl, hs ▸ .structBegin⟩
  case structEnd =>
    refine hhandler (machine.structEnd p) (by funext; simp only [handleState, hs]) ?_
    exact handled_end (fun machine =>
      (machine.write (p.writeFieldBegin machine.proto [] .stop 0)).write
        (p.writeStructEnd machine.proto)) (fun _ => ⟨rfl, rfl⟩) (·.readStructEnd) (·.readStructEnd)
      (fun _ _ => hs ▸ .structEnd) (hs ▸ .empty (by simp))
  case fieldBegin =>
    refine hhandler (machine.fieldBegin p) (by funext; simp only [handleState, hs]) ?_
    refine handled_read true (·.readFieldBegin)
      (fun h _ _ _ _ _ hr => h.readFieldBegin hr) ?_
    rintro ⟨name, fieldType, fieldId⟩ proto
    by_cases ht : fieldType = .stop
    · exact Or.inl ⟨_, _, if_pos ht, rfl, hs ▸ .fieldStop⟩
    · exact Or.inl ⟨_, _, if_neg ht, rfl, hs ▸ .fieldBegin⟩
  case fieldValue =>
    refine hhandler (machine.fieldValue p) (by funext; simp only [handleState, hs]) ?_
    unfold fieldValue
    cases hstack : machine.stack with
    | nil => exact .stuck (hstack ▸ hs ▸ .empty (by simp))
    | cons frame below => exact handled_value hstack fun _ _ h => hs ▸ .fieldValue h
  case fieldEnd =>
    refine hhandler (machine.fieldEnd p) (by funext; simp only [handleState, hs]) ?_
    refine handled_read false (·.readFieldEnd)
      (fun h _ _ _ _ _ hr => h.readFieldEnd hr) fun _ proto => ?_
    unfold popReturnState
    cases hstack : machine.stack with
    | nil => exact Or.inr ⟨_, _, rfl, hs ▸ .empty (by simp)⟩
    | cons frame below => exact Or.inl ⟨_, _, rfl, rfl, hs ▸ .fieldEnd⟩
  case mapBegin =>
    refine hhandler (machine.mapBegin p) (by funext; simp only [handleState, hs]) ?_
    exact handled_read true (·.readMapBegin) (fun h _ _ _ _ _ hr => h.readMapBegin hr)
      fun _ _ => Or.inl ⟨_, _, rfl, rfl, hs ▸ .mapBegin⟩
  case mapKey =>
    refine hhandler (machine.mapKey p) (by funext; simp only [handleState, hs]) ?_
    unfold mapKey
    cases hstack : machine.stack with
    | nil => exact .stuck (hstack ▸ hs ▸ .empty (by simp))
    | cons frame below =>
      dsimp only
      split
      · rename_i hr
        exact handled_pop hstack (.exhausted (by simp [hs]) hr)
      · rename_i hr
        exact handled_value hstack fun _ _ h => hs ▸ .mapKey hr h
  case mapValue =>
    refine hhandler (machine.mapValue p) (by funext; simp only [handleState, hs]) ?_
    unfold mapValue
    cases hstack : machine.stack with
    | nil => exact .stuck (hstack ▸ hs ▸ .empty (by simp))
    | cons frame below =>
      dsimp only
      split
      · rename_i hr
        exact .stuck (hstack ▸ hs ▸ .mapValue hr)
      · rename_i hr
        exact handled_countDown hstack (by simp) fun _ _ h => hs ▸ .mapValue hr h
  case mapEnd =>
    refine hhandler (machine.mapEnd p) (by funext; simp only [handleState, hs]) ?_
    exact handled_end (fun machine => machine.write (p.writeMapEnd machine.proto))
      (fun _ => ⟨rfl, rfl⟩) (·.readMapEnd) (·.readMapEnd) (fun _ _ => hs ▸ .mapEnd)
      (hs ▸ .empty (by simp))
  case listBegin =>
    refine hhandler (machine.listBegin p) (by funext; simp only [handleState, hs]) ?_
    exact handled_read true (·.readListBegin)
      (fun h _ _ _ _ _ hr => h.readListBegin hr) fun _ _ => Or.inl ⟨_, _, rfl, rfl, hs ▸ .listBegin⟩
  case listValue =>
    refine hhandler (machine.listValue p) (by funext; simp only [handleState, hs]) ?_
    have h := @handled_elementValue _ p machine buffer (by simp [hs])
    rw [hs] at h
    exact h
  case listEnd =>
    refine hhandler (machine.listEnd p) (by funext; simp only [handleState, hs]) ?_
    exact handled_end (fun machine => machine.write (p.writeListEnd machine.proto))
      (fun _ => ⟨rfl, rfl⟩) (·.readListEnd) (·.readListEnd) (fun _ _ => hs ▸ .listEnd)
      (hs ▸ .empty (by simp))
  case setBegin =>
    refine hhandler (machine.setBegin p) (by funext; simp only [handleState, hs]) ?_
    exact handled_read true (·.readSetBegin) (fun h _ _ _ _ _ hr => h.readSetBegin hr)
      fun _ _ => Or.inl ⟨_, _, rfl, rfl, hs ▸ .setBegin⟩
  case setValue =>
    refine hhandler (machine.setValue p) (by funext; simp only [handleState, hs]) ?_
    have h := @handled_elementValue _ p machine buffer (by simp [hs])
    rw [hs] at h
    exact h
  case setEnd =>
    refine hhandler (machine.setEnd p) (by funext; simp only [handleState, hs]) ?_
    exact handled_end (fun machine => machine.write (p.writeSetEnd machine.proto))
      (fun _ => ⟨rfl, rfl⟩) (·.readSetEnd) (·.readSetEnd) (fun _ _ => hs ▸ .setEnd)
      (hs ▸ .empty (by simp))

end Handled

end DecoderStateMachine

end MetaProtocolProxy.Thrift
