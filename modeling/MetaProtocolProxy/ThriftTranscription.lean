import MetaProtocolProxy.ThriftCodec
import MetaProtocolProxy.ThriftStack

/-!
# What the Thrift machine writes

The encoding of a message is what the writes of the protocol make of it, one after the other
(`Message.encode`). The machine reads a message with the matching reads, and writes what it has
read, so it comes to the end of the message with the same bytes behind the original message.

A value that is a struct or a container is read between the state of its begin and the state that
the frame on the head of the stack names. In between the stack below that frame is not touched, so
the induction is over the value, for any stack (`Value.steps`).
-/

namespace MetaProtocolProxy.Thrift

variable {π : Type}

/-! ## Encodings -/

section Encode

variable (p : Protocol π) (s : π)

/-- The bytes of a primitive value. -/
def Primitive.encode : Primitive → Bytes
  | .bool value => p.writeBool s value
  | .byte value => p.writeByte s value
  | .i16 value => p.writeInt16 s value
  | .i32 value => p.writeInt32 s value
  | .i64 value => p.writeInt64 s value
  | .double bits => p.writeDouble s bits
  | .string value => p.writeString s value

theorem Value.type_ne_stop (value : Value) : value.type ≠ .stop := by
  cases value with
  | primitive value => cases value <;> simp [Value.type, Primitive.type]
  | _ => simp [Value.type]

mutual

/-- The bytes of a value. -/
def Value.encode : Value → Bytes
  | .primitive value => value.encode p s
  | .struct name fields =>
    p.writeStructBegin s name ++ (fields.encode ++
      (p.writeFieldBegin s [] .stop 0 ++ p.writeStructEnd s))
  | .map keyType valueType entries =>
    p.writeMapBegin s keyType valueType (UInt32.ofNat entries.length) ++
      (entries.encode ++ p.writeMapEnd s)
  | .list elemType elements =>
    p.writeListBegin s elemType (UInt32.ofNat elements.length) ++
      (elements.encode ++ p.writeListEnd s)
  | .set elemType elements =>
    p.writeSetBegin s elemType (UInt32.ofNat elements.length) ++
      (elements.encode ++ p.writeSetEnd s)

/-- The bytes of the fields of a struct, without the stop. -/
def Fields.encode : Fields → Bytes
  | .nil => []
  | .cons name id value rest =>
    p.writeFieldBegin s name value.type id ++ (value.encode ++ (p.writeFieldEnd s ++ rest.encode))

/-- The bytes of the elements of a list or a set. -/
def Elements.encode : Elements → Bytes
  | .nil => []
  | .cons value rest => value.encode ++ rest.encode

/-- The bytes of the entries of a map. -/
def Entries.encode : Entries → Bytes
  | .nil => []
  | .cons key value rest => key.encode ++ (value.encode ++ rest.encode)

end

/-- What a message says about itself. -/
def Message.metadata (message : Message) (metadata : MessageMetadata) : MessageMetadata :=
  { metadata with
    methodName := some message.name
    sequenceId := some message.sequenceId
    messageType := some message.type }

/-- The bytes of a message. -/
def Message.encode (message : Message) : Bytes :=
  p.writeMessageBegin s (message.metadata {}) ++
    ((Value.struct message.structName message.fields).encode p s ++ p.writeMessageEnd s)

end Encode

/-- Every part of a message is well formed. -/
def Message.WellFormed (message : Message) : Prop :=
  message.name.length < 2 ^ 31 ∧ message.fields.WellFormed

/-! ## Steps -/

/-- The loop of the machine comes from one state to another. -/
inductive Steps (p : Protocol π) :
    DecoderStateMachine π → Bytes → DecoderStateMachine π → Bytes → Prop
  | refl (machine : DecoderStateMachine π) (buffer : Bytes) : Steps p machine buffer machine buffer
  | head {machine machine' machine'' : DecoderStateMachine π} {buffer buffer' buffer'' : Bytes}
      {next : ProtocolState} (hs : machine.state ≠ .done)
      (h : machine.handleState p buffer = (machine', buffer', .ok next))
      (hnext : next ≠ .waitForData)
      (htail : Steps p { machine' with state := next } buffer' machine'' buffer'') :
      Steps p machine buffer machine'' buffer''

namespace Steps

variable {p : Protocol π} {machine machine' machine'' : DecoderStateMachine π}
  {buffer buffer' buffer'' : Bytes}

theorem single {next : ProtocolState} (hs : machine.state ≠ .done)
    (h : machine.handleState p buffer = (machine', buffer', .ok next))
    (hnext : next ≠ .waitForData) :
    Steps p machine buffer { machine' with state := next } buffer' :=
  .head hs h hnext (.refl _ _)

theorem trans (h : Steps p machine buffer machine' buffer')
    (h' : Steps p machine' buffer' machine'' buffer'') :
      Steps p machine buffer machine'' buffer'' := by
  induction h with
  | refl => exact h'
  | head hs hstep hnext _ ih => exact .head hs hstep hnext (ih h')

/-- The loop goes on from where the steps have come to. -/
theorem run_eq (hp : p.Progress) (h : Steps p machine buffer machine' buffer')
    (hd : Disciplined machine.state machine.stack) :
    machine.run p buffer = machine'.run p buffer' := by
  induction h with
  | refl => rfl
  | head hs hstep hnext _ ih =>
    have hd' := (DecoderStateMachine.measure_handleState hp hd hstep hnext).2
    rw [DecoderStateMachine.run_eq hp hd, if_neg hs, hstep]
    dsimp only
    rw [if_neg hnext]
    exact ih hd'

end Steps

/-! ## Parts of a message -/

/-- The machine in the middle of a message. -/
def midway (s : π) (metadata : MessageMetadata) (state : ProtocolState) (stack : List Frame)
    (originMessage : Bytes) : DecoderStateMachine π :=
  { proto := s, metadata, state, stack, originMessage }

namespace DecoderStateMachine

/-- A step between two states in the middle of a message. -/
theorem steps_midway {p : Protocol π} {s : π} {metadata : MessageMetadata}
    {state next : ProtocolState} {stack stack' : List Frame} {origin origin' buffer rest : Bytes}
    (h : handleState p (midway s metadata state stack origin) buffer =
      (midway s metadata state stack' origin', rest, .ok next))
    (hs : state ≠ .done) (hnext : next ≠ .waitForData) :
    Steps p (midway s metadata state stack origin) buffer (midway s metadata next stack' origin')
      rest :=
  .single hs h hnext

section Parts

variable {p : Protocol π} {s₀ s : π} (hr : p.RoundTrip s₀ s) (metadata : MessageMetadata)
  (stack : List Frame) (origin : Bytes) (rest : Bytes)
include hr

theorem steps_structBegin (name : Bytes) :
    Steps p (midway s metadata .structBegin stack origin) (p.writeStructBegin s name ++ rest)
      (midway s metadata .fieldBegin stack (origin ++ p.writeStructBegin s name)) rest := by
  obtain ⟨name', hread, hwrite⟩ := hr.structBegin name rest
  refine steps_midway ?_ (by simp) (by simp)
  simp [handleState, structBegin, midway, read, write, hread, hwrite]

theorem steps_fieldBegin (name : Bytes) {type : FieldType} {id : Int16} (ht : type ≠ .stop)
    (hid : 0 ≤ id) :
    Steps p (midway s metadata .fieldBegin stack origin) (p.writeFieldBegin s name type id ++ rest)
      (midway s metadata .fieldValue ({ returnState := .fieldEnd, elemType := type } :: stack)
        (origin ++ p.writeFieldBegin s name type id)) rest := by
  obtain ⟨name', hread, hwrite⟩ := hr.fieldBegin name type id rest ht hid
  refine steps_midway ?_ (by simp) (by simp)
  simp [handleState, fieldBegin, midway, read, write, push, hread, hwrite, ht]

/-- The end of a struct, which is read in two steps and written in one. -/
theorem steps_structEnd (returnState : ProtocolState) (hreturn : returnState ≠ .waitForData) :
    Steps p (midway s metadata .fieldBegin ({ returnState } :: stack) origin)
      (p.writeFieldBegin s [] .stop 0 ++ p.writeStructEnd s ++ rest)
      (midway s metadata returnState stack
        (origin ++ (p.writeFieldBegin s [] .stop 0 ++ p.writeStructEnd s))) rest := by
  obtain ⟨name, id, hread⟩ := hr.fieldStop (p.writeStructEnd s ++ rest)
  have hend := hr.structEnd rest
  have hstop : Steps p (midway s metadata .fieldBegin ({ returnState } :: stack) origin)
      (p.writeFieldBegin s [] .stop 0 ++ p.writeStructEnd s ++ rest)
      (midway s metadata .structEnd ({ returnState } :: stack) origin)
      (p.writeStructEnd s ++ rest) := by
    refine steps_midway ?_ (by simp) (by simp)
    simp [handleState, fieldBegin, midway, read, hread]
  refine hstop.trans (steps_midway ?_ (by simp) hreturn)
  simp [handleState, structEnd, midway, read, write, popReturnState, hend]

theorem steps_fieldEnd (frame : Frame) :
    Steps p (midway s metadata .fieldEnd (frame :: stack) origin) (p.writeFieldEnd s ++ rest)
      (midway s metadata .fieldBegin stack (origin ++ p.writeFieldEnd s)) rest := by
  have hread := hr.fieldEnd rest
  refine steps_midway ?_ (by simp) (by simp)
  simp [handleState, fieldEnd, midway, read, write, popReturnState, hread]

/-- The begin of a list. -/
theorem steps_listBegin (elemType : FieldType) {size : UInt32} (hsize : size.toNat < 2 ^ 31) :
    Steps p (midway s metadata .listBegin stack origin)
      (p.writeListBegin s elemType size ++ rest)
      (midway s metadata .listValue
        ({ returnState := .listEnd, elemType, remaining := size } :: stack)
        (origin ++ p.writeListBegin s elemType size)) rest := by
  have hread := hr.listBegin elemType size rest hsize
  refine steps_midway ?_ (by simp) (by simp)
  simp [handleState, listBegin, midway, read, write, push, hread]

theorem steps_listEnd (returnState : ProtocolState) (hreturn : returnState ≠ .waitForData) :
    Steps p (midway s metadata .listEnd ({ returnState } :: stack) origin)
      (p.writeListEnd s ++ rest)
      (midway s metadata returnState stack (origin ++ p.writeListEnd s)) rest := by
  have hread := hr.listEnd rest
  refine steps_midway ?_ (by simp) hreturn
  simp [handleState, listEnd, midway, read, write, popReturnState, hread]

theorem steps_setBegin (elemType : FieldType) {size : UInt32} (hsize : size.toNat < 2 ^ 31) :
    Steps p (midway s metadata .setBegin stack origin)
      (p.writeSetBegin s elemType size ++ rest)
      (midway s metadata .setValue
        ({ returnState := .setEnd, elemType, remaining := size } :: stack)
        (origin ++ p.writeSetBegin s elemType size)) rest := by
  have hread := hr.setBegin elemType size rest hsize
  refine steps_midway ?_ (by simp) (by simp)
  simp [handleState, setBegin, midway, read, write, push, hread]

theorem steps_setEnd (returnState : ProtocolState) (hreturn : returnState ≠ .waitForData) :
    Steps p (midway s metadata .setEnd ({ returnState } :: stack) origin)
      (p.writeSetEnd s ++ rest)
      (midway s metadata returnState stack (origin ++ p.writeSetEnd s)) rest := by
  have hread := hr.setEnd rest
  refine steps_midway ?_ (by simp) hreturn
  simp [handleState, setEnd, midway, read, write, popReturnState, hread]

theorem steps_mapBegin (keyType valueType : FieldType) {size : UInt32}
    (hsize : size.toNat < 2 ^ 31) :
    Steps p (midway s metadata .mapBegin stack origin)
      (p.writeMapBegin s keyType valueType size ++ rest)
      (midway s metadata .mapKey
        ({ returnState := .mapEnd, elemType := keyType, valueType, remaining := size } :: stack)
        (origin ++ p.writeMapBegin s keyType valueType size)) rest := by
  have hread := hr.mapBegin keyType valueType size rest hsize
  refine steps_midway ?_ (by simp) (by simp)
  simp [handleState, mapBegin, midway, read, write, push, hread]

theorem steps_mapEnd (returnState : ProtocolState) (hreturn : returnState ≠ .waitForData) :
    Steps p (midway s metadata .mapEnd ({ returnState } :: stack) origin)
      (p.writeMapEnd s ++ rest)
      (midway s metadata returnState stack (origin ++ p.writeMapEnd s)) rest := by
  have hread := hr.mapEnd rest
  refine steps_midway ?_ (by simp) hreturn
  simp [handleState, mapEnd, midway, read, write, popReturnState, hread]

end Parts

/-! ## Values -/

/-- The machine reads a value and writes it, and is in `returnState` then, whatever is on the stack
below by the time. -/
def Reads (p : Protocol π) (s : π) (value : Value) : Prop :=
  ∀ (metadata : MessageMetadata) (state returnState : ProtocolState) (stack : List Frame)
    (origin rest : Bytes), returnState ≠ .waitForData → ∃ next pushed origin' rest',
      (midway s metadata state stack origin).handleValue p (value.encode p s ++ rest) value.type
          returnState =
        (midway s metadata state (pushed ++ stack) origin', rest', .ok next) ∧
      next ≠ .waitForData ∧ ∀ stack', Steps p (midway s metadata next (pushed ++ stack') origin')
        rest'
        (midway s metadata returnState stack' (origin ++ value.encode p s)) rest

section Values

variable {p : Protocol π} {s₀ s : π}

theorem reads_primitive (hr : p.RoundTrip s₀ s) (value : Primitive)
    (hv : (Value.primitive value).WellFormed) : Reads p s (.primitive value) := by
  intro metadata state returnState stack origin rest hreturn
  refine ⟨returnState, [], origin ++ value.encode p s, rest, ?_, hreturn, fun _ => .refl _ _⟩
  have htranscribe : ∀ {α : Type} {r : Reader π α} {w : π → α → Bytes} {a : α},
      r s (w s a ++ rest) = .ok (some (a, s, rest)) →
        (midway s metadata state stack origin).read r (w s a ++ rest)
            (fun value machine => (machine.write (w machine.proto value), .ok returnState)) =
          (midway s metadata state stack (origin ++ w s a), rest, .ok returnState) := by
    intro α r w a hread
    simp [read, midway, write, hread]
  cases value with
  | bool value => exact htranscribe (hr.bool value rest)
  | byte value => exact htranscribe (hr.byte value rest)
  | i16 value => exact htranscribe (hr.int16 value rest)
  | i32 value => exact htranscribe (hr.int32 value rest)
  | i64 value => exact htranscribe (hr.int64 value rest)
  | double bits => exact htranscribe (hr.double bits rest)
  | string value => exact htranscribe (hr.string value rest hv)

/-- A value that is not primitive : the machine pushes the state it goes back to, and reads the
value in the states of its own. -/
theorem reads_of_steps {value : Value} {begin : ProtocolState} (hbegin : begin ≠ .waitForData)
    (hvalue : ∀ (machine : DecoderStateMachine π) buffer returnState,
      machine.handleValue p buffer value.type returnState =
        (machine.push { returnState }, buffer, .ok begin))
    (hsteps : ∀ metadata returnState stack origin rest, returnState ≠ .waitForData →
      Steps p (midway s metadata begin ({ returnState } :: stack) origin) (value.encode p s ++ rest)
        (midway s metadata returnState stack (origin ++ value.encode p s)) rest) :
    Reads p s value := by
  intro metadata state returnState stack origin rest hreturn
  refine ⟨begin, [{ returnState }], origin, value.encode p s ++ rest, hvalue _ _ _, hbegin,
    fun stack' => ?_⟩
  exact hsteps metadata returnState stack' origin rest hreturn

/-- The value of a field. -/
theorem steps_fieldValue {value : Value} (h : Reads p s value) (metadata : MessageMetadata)
    (stack : List Frame) (origin rest : Bytes) :
    Steps p
      (midway s metadata .fieldValue
        ({ returnState := .fieldEnd, elemType := value.type } :: stack) origin)
      (value.encode p s ++ rest)
      (midway s metadata .fieldEnd ({ returnState := .fieldEnd, elemType := value.type } :: stack)
        (origin ++ value.encode p s)) rest := by
  obtain ⟨next, pushed, origin', rest', hvalue, hnext, hsteps⟩ :=
    h metadata .fieldValue .fieldEnd ({ returnState := .fieldEnd, elemType := value.type } :: stack)
      origin rest (by simp)
  exact .head (by simp [midway]) hvalue hnext (hsteps _)

theorem decrement_midway {metadata : MessageMetadata} {state : ProtocolState} {frame : Frame}
    {pushed below : List Frame} {origin : Bytes} :
    (midway s metadata state (pushed ++ frame :: below) origin).decrement below.length =
      midway s metadata state (pushed ++ frame.next :: below) origin := by
  have hstack := @stack_decrement _ (midway s metadata state (pushed ++ frame :: below) origin)
    frame pushed below rfl
  rw [midway, ← hstack]
  rfl

/-- A value that counts. -/
theorem steps_counted {value : Value} (h : Reads p s value) {metadata : MessageMetadata}
    {state returnState : ProtocolState} {frame : Frame} {below : List Frame} {origin rest : Bytes}
    (hstate : handleState p (midway s metadata state (frame :: below) origin)
        (value.encode p s ++ rest) =
      countDown below.length ((midway s metadata state (frame :: below) origin).handleValue p
        (value.encode p s ++ rest) value.type returnState))
    (hs : state ≠ .done) (hreturn : returnState ≠ .waitForData) :
    Steps p (midway s metadata state (frame :: below) origin) (value.encode p s ++ rest)
      (midway s metadata returnState (frame.next :: below) (origin ++ value.encode p s)) rest := by
  obtain ⟨next, pushed, origin', rest', hvalue, hnext, hsteps⟩ :=
    h metadata state returnState (frame :: below) origin rest hreturn
  have hcount : handleState p (midway s metadata state (frame :: below) origin)
      (value.encode p s ++ rest) =
        (midway s metadata state (pushed ++ frame.next :: below) origin', rest', .ok next) := by
    rw [hstate, hvalue, countDown, if_neg hnext, decrement_midway]
  exact .head hs hcount hnext (hsteps _)

/-- An element of a list or a set. -/
theorem steps_element {value : Value} (h : Reads p s value) {state : ProtocolState}
    (hs : state ∈ [.listValue, .setValue]) (metadata : MessageMetadata) {frame : Frame}
    (htype : value.type = frame.elemType) (hremaining : frame.remaining ≠ 0) (below : List Frame)
    (origin rest : Bytes) :
    Steps p (midway s metadata state (frame :: below) origin) (value.encode p s ++ rest)
      (midway s metadata state (frame.next :: below) (origin ++ value.encode p s)) rest := by
  simp only [List.mem_cons, List.not_mem_nil, or_false] at hs
  refine steps_counted h ?_ ?_ ?_
  · rw [htype]
    rcases hs with rfl | rfl <;> exact if_neg hremaining
  · rcases hs with rfl | rfl <;> simp
  · rcases hs with rfl | rfl <;> simp

/-- A container with no element left. -/
theorem steps_exhausted {state : ProtocolState} (hs : state ∈ [.listValue, .setValue, .mapKey])
    (metadata : MessageMetadata) {frame : Frame} (hremaining : frame.remaining = 0)
    (hreturn : frame.returnState ≠ .waitForData) (below : List Frame) (origin rest : Bytes) :
    Steps p (midway s metadata state (frame :: below) origin) rest
      (midway s metadata frame.returnState below origin) rest := by
  simp only [List.mem_cons, List.not_mem_nil, or_false] at hs
  refine steps_midway ?_ ?_ hreturn
  · rcases hs with rfl | rfl | rfl <;> exact if_pos hremaining
  · rcases hs with rfl | rfl | rfl <;> simp

/-- The key and the value of an entry. -/
theorem steps_entry {key value : Value} (hkey : Reads p s key) (hvalue : Reads p s value)
    (metadata : MessageMetadata) {frame : Frame} (hkeyType : key.type = frame.elemType)
    (hvalueType : value.type = frame.valueType) (hremaining : frame.remaining ≠ 0)
    (below : List Frame) (origin rest : Bytes) :
    Steps p (midway s metadata .mapKey (frame :: below) origin)
      (key.encode p s ++ (value.encode p s ++ rest))
      (midway s metadata .mapKey (frame.next :: below)
        (origin ++ (key.encode p s ++ value.encode p s))) rest := by
  obtain ⟨next, pushed, origin', rest', hread, hnext, hsteps⟩ :=
    hkey metadata .mapKey .mapValue (frame :: below) origin (value.encode p s ++ rest) (by simp)
  have hstep : handleState p (midway s metadata .mapKey (frame :: below) origin)
      (key.encode p s ++ (value.encode p s ++ rest)) =
        (midway s metadata .mapKey (pushed ++ frame :: below) origin', rest', .ok next) := by
    rw [hkeyType] at hread
    rw [← hread]
    exact if_neg hremaining
  refine (Steps.head (by simp [midway]) hstep hnext (hsteps _)).trans ?_
  rw [← List.append_assoc]
  refine steps_counted hvalue ?_ (by simp) (by simp)
  rw [hvalueType]
  exact if_neg hremaining

/-- The machine reads the fields of a struct and writes them. -/
def ReadsFields (p : Protocol π) (s : π) (fields : Fields) : Prop :=
  ∀ (metadata : MessageMetadata) (stack : List Frame) (origin rest : Bytes),
    Steps p (midway s metadata .fieldBegin stack origin) (fields.encode p s ++ rest)
      (midway s metadata .fieldBegin stack (origin ++ fields.encode p s)) rest

theorem steps_struct (hr : p.RoundTrip s₀ s) (name : Bytes) {fields : Fields}
    (h : ReadsFields p s fields) (metadata : MessageMetadata) (stack : List Frame)
    (origin rest : Bytes) {returnState : ProtocolState} (hreturn : returnState ≠ .waitForData) :
    Steps p (midway s metadata .structBegin ({ returnState } :: stack) origin)
      ((Value.struct name fields).encode p s ++ rest)
      (midway s metadata returnState stack (origin ++ (Value.struct name fields).encode p s))
      rest := by
  simp only [Value.encode, List.append_assoc]
  refine (steps_structBegin hr metadata _ origin _ name).trans ?_
  refine (h metadata _ _ _).trans ?_
  have hend := steps_structEnd hr metadata stack
    (origin ++ p.writeStructBegin s name ++ fields.encode p s) rest returnState hreturn
  simpa only [List.append_assoc] using hend

/-- The machine reads the elements of a container and writes them, and is at its end then. -/
def ReadsElements (p : Protocol π) (s : π) (elements : Elements) : Prop :=
  ∀ (metadata : MessageMetadata) (state : ProtocolState) (frame : Frame) (below : List Frame)
    (origin rest : Bytes), state ∈ [.listValue, .setValue] → elements.WellFormed frame.elemType →
      frame.remaining.toNat = elements.length → frame.returnState ≠ .waitForData →
      Steps p (midway s metadata state (frame :: below) origin) (elements.encode p s ++ rest)
        (midway s metadata frame.returnState below (origin ++ elements.encode p s)) rest

/-- The machine reads the entries of a map and writes them, and is at its end then. -/
def ReadsEntries (p : Protocol π) (s : π) (entries : Entries) : Prop :=
  ∀ (metadata : MessageMetadata) (frame : Frame) (below : List Frame) (origin rest : Bytes),
    entries.WellFormed frame.elemType frame.valueType →
      frame.remaining.toNat = entries.length → frame.returnState ≠ .waitForData →
      Steps p (midway s metadata .mapKey (frame :: below) origin) (entries.encode p s ++ rest)
        (midway s metadata frame.returnState below (origin ++ entries.encode p s)) rest

/-- A count that is not through goes down with the elements. -/
theorem remaining_cons {frame : Frame} {n : ℕ} (h : frame.remaining.toNat = n + 1) :
    frame.remaining ≠ 0 ∧ frame.next.remaining.toNat = n := by
  have hne : frame.remaining ≠ 0 := by
    rintro hz
    rw [hz] at h
    cases h
  have hcount := Frame.remaining_next hne
  exact ⟨hne, by omega⟩

theorem toNat_size {n : ℕ} (h : n < 2 ^ 31) : (UInt32.ofNat n).toNat = n := by
  rw [UInt32.toNat_ofNat']
  exact Nat.mod_eq_of_lt (Nat.lt_trans h (by decide))

mutual

theorem reads_value (hr : p.RoundTrip s₀ s) : ∀ value : Value, value.WellFormed → Reads p s value
  | .primitive value, hv => reads_primitive hr value hv
  | .struct name fields, hv =>
    @reads_of_steps _ _ _ (.struct name fields) .structBegin (by simp) (fun _ _ _ => rfl)
      fun metadata returnState stack origin rest hreturn =>
        steps_struct hr name (reads_fields hr fields hv) metadata stack origin rest hreturn
  | .map keyType valueType entries, hv => by
    refine @reads_of_steps _ _ _ (.map keyType valueType entries) .mapBegin (by simp)
      (fun _ _ _ => rfl) fun metadata returnState stack origin rest hreturn => ?_
    have hsize := toNat_size hv.1
    simp only [Value.encode, List.append_assoc]
    refine (steps_mapBegin hr metadata _ origin _ keyType valueType (hsize.trans_lt hv.1)).trans ?_
    refine (reads_entries hr entries metadata _ _ _ _ hv.2 hsize (by simp)).trans ?_
    have hend := steps_mapEnd hr metadata stack
      (origin ++ p.writeMapBegin s keyType valueType (UInt32.ofNat entries.length) ++
        entries.encode p s) rest returnState hreturn
    simpa only [List.append_assoc] using hend
  | .list elemType elements, hv => by
    refine @reads_of_steps _ _ _ (.list elemType elements) .listBegin (by simp)
      (fun _ _ _ => rfl) fun metadata returnState stack origin rest hreturn => ?_
    have hsize := toNat_size hv.1
    simp only [Value.encode, List.append_assoc]
    refine (steps_listBegin hr metadata _ origin _ elemType (hsize.trans_lt hv.1)).trans ?_
    refine (reads_elements hr elements metadata .listValue _ _ _ _ (by simp) hv.2 hsize
      (by simp)).trans ?_
    have hend := steps_listEnd hr metadata stack
      (origin ++ p.writeListBegin s elemType (UInt32.ofNat elements.length) ++
        elements.encode p s) rest returnState hreturn
    simpa only [List.append_assoc] using hend
  | .set elemType elements, hv => by
    refine @reads_of_steps _ _ _ (.set elemType elements) .setBegin (by simp)
      (fun _ _ _ => rfl) fun metadata returnState stack origin rest hreturn => ?_
    have hsize := toNat_size hv.1
    simp only [Value.encode, List.append_assoc]
    refine (steps_setBegin hr metadata _ origin _ elemType (hsize.trans_lt hv.1)).trans ?_
    refine (reads_elements hr elements metadata .setValue _ _ _ _ (by simp) hv.2 hsize
      (by simp)).trans ?_
    have hend := steps_setEnd hr metadata stack
      (origin ++ p.writeSetBegin s elemType (UInt32.ofNat elements.length) ++
        elements.encode p s) rest returnState hreturn
    simpa only [List.append_assoc] using hend

theorem reads_fields (hr : p.RoundTrip s₀ s) : ∀ fields : Fields, fields.WellFormed →
    ReadsFields p s fields
  | .nil, _ => fun metadata stack origin rest => by
    simpa only [Fields.encode, List.append_nil, List.nil_append] using .refl _ _
  | .cons name id value fields, hv => fun metadata stack origin rest => by
    simp only [Fields.encode, List.append_assoc]
    refine (steps_fieldBegin hr metadata stack origin _ name value.type_ne_stop hv.1).trans ?_
    refine (steps_fieldValue (reads_value hr value hv.2.1) metadata stack _ _).trans ?_
    refine (steps_fieldEnd hr metadata stack _ _ _).trans ?_
    have hrest := reads_fields hr fields hv.2.2 metadata stack
      (origin ++ p.writeFieldBegin s name value.type id ++ value.encode p s ++ p.writeFieldEnd s)
      rest
    simpa only [List.append_assoc] using hrest

theorem reads_elements (hr : p.RoundTrip s₀ s) : ∀ elements : Elements,
    ReadsElements p s elements
  | .nil => fun metadata state frame below origin rest hs _ hremaining hreturn => by
    have hzero : frame.remaining = 0 := UInt32.toNat_inj.mp hremaining
    have hs' : state ∈ [.listValue, .setValue, .mapKey] := by
      simp only [List.mem_cons, List.not_mem_nil, or_false] at hs ⊢
      rcases hs with rfl | rfl <;> simp
    simpa only [Elements.encode, List.append_nil, List.nil_append] using
      steps_exhausted hs' metadata hzero hreturn below origin rest
  | .cons value elements =>
    fun metadata state frame below origin rest hs hv hremaining hreturn => by
    obtain ⟨hne, hcount⟩ := remaining_cons hremaining
    simp only [Elements.encode, List.append_assoc]
    have helement := steps_element (reads_value hr value hv.2.1) hs metadata hv.1 hne below origin
    refine (helement _).trans ?_
    have hrest := reads_elements hr elements metadata state frame.next below
      (origin ++ value.encode p s) rest hs hv.2.2 hcount hreturn
    rwa [List.append_assoc] at hrest

theorem reads_entries (hr : p.RoundTrip s₀ s) : ∀ entries : Entries,
    ReadsEntries p s entries
  | .nil => fun metadata frame below origin rest _ hremaining hreturn => by
    have hzero : frame.remaining = 0 := UInt32.toNat_inj.mp hremaining
    simpa only [Entries.encode, List.append_nil, List.nil_append] using
      steps_exhausted (by simp) metadata hzero hreturn below origin rest
  | .cons key value entries => fun metadata frame below origin rest hv hremaining hreturn => by
    obtain ⟨hne, hcount⟩ := remaining_cons hremaining
    simp only [Entries.encode, List.append_assoc]
    refine (steps_entry (reads_value hr key hv.2.1) (reads_value hr value hv.2.2.2.1) metadata hv.1
      hv.2.2.1 hne below origin _).trans ?_
    have hrest := reads_entries hr entries metadata frame.next below
      (origin ++ (key.encode p s ++ value.encode p s)) rest hv.2.2.2.2 hcount hreturn
    simp only [List.append_assoc] at hrest ⊢
    exact hrest

end

end Values

/-! ## Messages -/

/-- The begin of a message. -/
theorem steps_messageBegin {p : Protocol π} {s₀ s : π} (hr : p.RoundTrip s₀ s) (message : Message)
    (hname : message.name.length < 2 ^ 31) (metadata : MessageMetadata) (rest : Bytes) :
    Steps p { proto := s₀, metadata } (p.writeMessageBegin s (message.metadata {}) ++ rest)
      (midway s (message.metadata metadata) .structBegin [{ returnState := .messageEnd }]
        (p.writeMessageBegin s (message.metadata {}))) rest := by
  have hread := hr.messageBegin metadata (message.metadata {}) message.name message.sequenceId
    message.type rest rfl rfl rfl hname
  have hwrite : p.writeMessageBegin s (message.metadata metadata) =
      p.writeMessageBegin s (message.metadata {}) := hr.messageHeader rfl rfl rfl
  have hstep : handleState p { proto := s₀, metadata }
      (p.writeMessageBegin s (message.metadata {}) ++ rest) =
        (midway s (message.metadata metadata) .messageBegin [{ returnState := .messageEnd }]
          (p.writeMessageBegin s (message.metadata {})), rest, .ok .structBegin) := by
    change messageBegin p { proto := s₀, metadata } _ = _
    rw [messageBegin_eq]
    dsimp only
    rw [hread, ← hwrite]
    rfl
  exact .single (by simp) hstep (by simp)

/-- The machine comes to the end of a message, and leaves what follows it. -/
theorem run_message {p : Protocol π} {s₀ s : π} (hp : p.Progress) (hr : p.RoundTrip s₀ s)
    {message : Message} (hm : message.WellFormed) (metadata : MessageMetadata) (rest : Bytes) :
    run p { proto := s₀, metadata } (message.encode p s ++ rest) =
      (midway s (message.metadata metadata) .done [] (message.encode p s), rest, .ok .done) := by
  have hsteps : Steps p { proto := s₀, metadata } (message.encode p s ++ rest)
      (midway s (message.metadata metadata) .done [] (message.encode p s)) rest := by
    rw [Message.encode, List.append_assoc, List.append_assoc]
    refine (steps_messageBegin hr message hm.1 metadata _).trans ?_
    refine (steps_struct hr message.structName (reads_fields hr message.fields hm.2) _ [] _ _
      (by simp)).trans ?_
    have hread := hr.messageEnd rest
    refine steps_midway ?_ (by simp) (by simp)
    simp [handleState, messageEnd, midway, read, write, hread]
  have hd : Disciplined ({ proto := s₀, metadata } : DecoderStateMachine π).state [] := by
    simp [Disciplined]
  rw [hsteps.run_eq hp hd, run_eq hp (by simp [midway, Disciplined])]
  exact if_pos rfl

end DecoderStateMachine

/-! ## The codec -/

/-- The type of a message for the rest of the proxy. -/
def MessageType.generic : MessageType → MetaProtocolProxy.MessageType
  | .call => .request
  | .reply => .response
  | .oneway => .oneway
  | .exception => .error

namespace ThriftCodec

/-- What the codec reports of a message. -/
structure Reports (message : Message) (originMessage : Bytes) (metadata : Metadata) : Prop where
  method : metadata.getString "method" = .ok (stringOf message.name)
  requestId : metadata.requestId = message.sequenceId.toInt64.toUInt64
  messageType : metadata.messageType = message.type.generic
  originMessage : metadata.originMessage = originMessage

theorem toMetadataWithMessage_message {τ : Type} {t : Transport τ} {transport : τ}
    (message : Message) (metadata : MessageMetadata) {bytes originMessage : Bytes}
    (h : t.encodeFrame transport (message.metadata metadata) bytes = .ok originMessage) :
    ∃ generic, toMetadataWithMessage t transport (message.metadata metadata) bytes = .ok generic ∧
      Reports message originMessage generic := by
  have hmethod : (({} : Metadata).putString "method" (stringOf message.name)).getString "method" =
      .ok (stringOf message.name) := getString_putString _ _ _ rfl
  unfold toMetadataWithMessage
  rw [h]
  unfold toMetadata Message.metadata
  rcases message with ⟨name, sequenceId, type, structName, fields⟩
  cases type <;> exact ⟨_, rfl, hmethod, rfl, rfl, rfl⟩

/-- A codec that finds a message in a frame reports it. -/
theorem decode_message {p : Protocol π} {s₀ s : π} (hp : p.Progress) (hr : p.RoundTrip s₀ s)
    {message : Message} (hm : message.WellFormed) {τ : Type} {t : Transport τ} {codec : State τ π}
    {metadata : MessageMetadata} {transport transport' : τ} {data rest rest' originMessage : Bytes}
    (hstarted : codec.frameStarted = false) (hended : codec.frameEnded = false)
    (hstart : t.decodeFrameStart (codec.metadata.getD {}) codec.transport data =
      .ok (some (metadata, transport, message.encode p s ++ rest)))
    (hforce : forceProtocol p metadata codec.protocol = .ok s₀)
    (happ : metadata.appException = none)
    (hend : t.decodeFrameEnd transport rest = .ok (some ((), transport', rest')))
    (hframe : t.encodeFrame transport' (message.metadata metadata) (message.encode p s) =
      .ok originMessage) :
    ∃ generic, decode t p codec data =
        ⟨{ transport := transport', protocol := s }, rest', .done generic⟩ ∧
      Reports message originMessage generic := by
  obtain ⟨generic, hgeneric, hreports⟩ := toMetadataWithMessage_message message metadata hframe
  have hrun := DecoderStateMachine.run_message hp hr hm metadata rest
  refine ⟨generic, ?_, hreports⟩
  rw [decode_start hended hstarted hstart hforce happ, runMachine_done hrun,
    endFrame_done hend hgeneric]
  rfl

end ThriftCodec

/-- The machine comes to the end of every message, whatever follows it, and has written what it
has read. A codec that finds the message in a frame reports it. -/
theorem transcribed {p : Protocol π} {s₀ s : π} (hp : p.Progress) (hr : p.RoundTrip s₀ s)
    {message : Message} (hm : message.WellFormed) :
    (∀ (metadata : MessageMetadata) (rest : Bytes), ∃ machine : DecoderStateMachine π,
      DecoderStateMachine.run p { proto := s₀, metadata } (message.encode p s ++ rest) =
        (machine, rest, .ok .done) ∧
      machine.state = .done ∧ machine.originMessage = message.encode p s) ∧
    ∀ {τ : Type} {t : Transport τ} {codec : ThriftCodec.State τ π} {metadata : MessageMetadata}
      {transport transport' : τ} {data rest rest' originMessage : Bytes},
      codec.frameStarted = false → codec.frameEnded = false →
      t.decodeFrameStart (codec.metadata.getD {}) codec.transport data =
        .ok (some (metadata, transport, message.encode p s ++ rest)) →
      ThriftCodec.forceProtocol p metadata codec.protocol = .ok s₀ → metadata.appException = none →
      t.decodeFrameEnd transport rest = .ok (some ((), transport', rest')) →
      t.encodeFrame transport' (message.metadata metadata) (message.encode p s) =
        .ok originMessage →
      ∃ generic, (ThriftCodec.decode t p codec data).status = .done generic ∧
        (ThriftCodec.decode t p codec data).buffer = rest' ∧
        ThriftCodec.Reports message originMessage generic := by
  refine ⟨fun metadata rest => ⟨_, DecoderStateMachine.run_message hp hr hm metadata rest, rfl,
    rfl⟩,
    ?_⟩
  intro τ t codec metadata transport transport' data rest rest' originMessage hstarted hended hstart
    hforce happ hend hframe
  obtain ⟨generic, hdecode, hreports⟩ :=
    ThriftCodec.decode_message hp hr hm hstarted hended hstart hforce happ hend hframe
  exact ⟨generic, by rw [hdecode], by rw [hdecode], hreports⟩

namespace ThriftExample

/-- A call with one argument, which maps a string to a list of booleans. -/
def message : Message where
  name := [0x6d]
  sequenceId := 1
  type := .call
  structName := []
  fields := .cons [] 1
    (.map .string .list
      (.cons (.primitive (.string [0x6b])) (.list .bool (.cons (.primitive (.bool true)) .nil))
        .nil))
    .nil

theorem wellFormed_message : message.WellFormed := by
  simp [message, Message.WellFormed, Fields.WellFormed, Value.WellFormed, Entries.WellFormed,
    Elements.WellFormed, Entries.length, Elements.length, Value.type, Primitive.type]

/-- Its encoding. -/
def bytes : Bytes :=
  message.encode BinaryProtocol.protocol ()

end ThriftExample

open ThriftExample FramedTransport in
theorem transcribed_message :
    (∃ machine : DecoderStateMachine Unit,
      DecoderStateMachine.run BinaryProtocol.protocol { proto := (), metadata := {} }
          (bytes ++ [1]) = (machine, [1], .ok .done) ∧
        machine.state = .done ∧ machine.originMessage = bytes) ∧
    ∃ generic,
      (ThriftCodec.decode FramedTransport.transport BinaryProtocol.protocol
        { transport := (), protocol := () } (frame bytes ++ [1])).status = .done generic ∧
      (ThriftCodec.decode FramedTransport.transport BinaryProtocol.protocol
        { transport := (), protocol := () } (frame bytes ++ [1])).buffer = [1] ∧
      ThriftCodec.Reports message (frame bytes) generic :=
  have hpos : bytes ≠ [] := by decide +kernel
  have hmax : bytes.length ≤ maxFrameSize := by decide +kernel
  have h := transcribed BinaryProtocol.progress_protocol BinaryProtocol.roundTrip_protocol
    wellFormed_message
  ⟨h.1 {} [1], h.2 rfl rfl (decodeFrameStart_frame hpos hmax {} () [1]) rfl rfl rfl
    (encodeFrame_eq hpos hmax () _)⟩

end MetaProtocolProxy.Thrift
