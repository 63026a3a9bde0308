import MetaProtocolProxy.ThriftStack

/-!
# The grammar of the Thrift machine

A protocol says what a Thrift message is : the begin of a message, a struct, whose values may be
nested in any way, and the end of a message (`ParsesMessage`). This is a recursive grammar, and
knows nothing of states and stacks.

The state machine reads the grammar with a stack. What it still has to read, from a state with a
stack, is the rest of the value on top, and then the rest of what is below (`Rest`). A step
(`Move`) reads a part of it, and leaves what is behind that part : whatever is left behind a step
was left before it (`rest_of_move`), and where something is left there is a step
(`move_of_rest`).
-/

namespace MetaProtocolProxy.Thrift

variable {π α : Type} {p : Protocol π}

/-! ## The grammar -/

/-- Between two reads : the state of the protocol, the bytes that are left, and those that were
written. -/
structure Tape (π : Type) where
  protocol : π
  buffer : Bytes
  written : Bytes

/-- A part of a message is read, and written behind what was written before. -/
structure Transcribes (r : Reader π α) (w : π → α → Bytes) (t : Tape π) (a : α) (t' : Tape π) :
    Prop where
  read : r t.protocol t.buffer = .ok (some (a, t'.protocol, t'.buffer))
  written : t'.written = t.written ++ w t'.protocol a

/-- The end of a struct is read in two parts and written in one. -/
def Protocol.writeStop (p : Protocol π) (s : π) : Bytes :=
  p.writeFieldBegin s [] .stop 0 ++ p.writeStructEnd s

/-- Between two tapes there is a value that is read at once. -/
inductive ParsesPrimitive (p : Protocol π) : FieldType → Tape π → Tape π → Prop
  | bool {t value t'} (h : Transcribes p.readBool p.writeBool t value t') :
      ParsesPrimitive p .bool t t'
  | byte {t value t'} (h : Transcribes p.readByte p.writeByte t value t') :
      ParsesPrimitive p .byte t t'
  | i16 {t value t'} (h : Transcribes p.readInt16 p.writeInt16 t value t') :
      ParsesPrimitive p .i16 t t'
  | i32 {t value t'} (h : Transcribes p.readInt32 p.writeInt32 t value t') :
      ParsesPrimitive p .i32 t t'
  | i64 {t value t'} (h : Transcribes p.readInt64 p.writeInt64 t value t') :
      ParsesPrimitive p .i64 t t'
  | double {t value t'} (h : Transcribes p.readDouble p.writeDouble t value t') :
      ParsesPrimitive p .double t t'
  | string {t value t'} (h : Transcribes p.readString p.writeString t value t') :
      ParsesPrimitive p .string t t'

mutual

/-- Between two tapes there is a value of a type. -/
inductive ParsesValue (p : Protocol π) : FieldType → Tape π → Tape π → Prop
  | primitive {type t t'} (h : ParsesPrimitive p type t t') : ParsesValue p type t t'
  | struct {name t t₁ t₂ t'} (hbegin : Transcribes p.readStructBegin p.writeStructBegin t name t₁)
      (hfields : ParsesFields p t₁ t₂)
      (hend : Transcribes p.readStructEnd (fun s _ => p.writeStop s) t₂ () t') :
      ParsesValue p .struct t t'
  | map {keyType valueType size t t₁ t₂ t'}
      (hbegin : Transcribes p.readMapBegin (fun s a => p.writeMapBegin s a.1 a.2.1 a.2.2) t
        (keyType, valueType, size) t₁)
      (hentries : ParsesEntries p keyType valueType size.toNat t₁ t₂)
      (hend : Transcribes p.readMapEnd (fun s _ => p.writeMapEnd s) t₂ () t') :
      ParsesValue p .map t t'
  | list {elemType size t t₁ t₂ t'}
      (hbegin : Transcribes p.readListBegin (fun s a => p.writeListBegin s a.1 a.2) t
        (elemType, size) t₁)
      (helements : ParsesElements p elemType size.toNat t₁ t₂)
      (hend : Transcribes p.readListEnd (fun s _ => p.writeListEnd s) t₂ () t') :
      ParsesValue p .list t t'
  | set {elemType size t t₁ t₂ t'}
      (hbegin : Transcribes p.readSetBegin (fun s a => p.writeSetBegin s a.1 a.2) t
        (elemType, size) t₁)
      (helements : ParsesElements p elemType size.toNat t₁ t₂)
      (hend : Transcribes p.readSetEnd (fun s _ => p.writeSetEnd s) t₂ () t') :
      ParsesValue p .set t t'

/-- Between two tapes there are fields, up to a stop. -/
inductive ParsesFields (p : Protocol π) : Tape π → Tape π → Prop
  | stop {name id t t'}
      (h : Transcribes p.readFieldBegin (fun _ _ => []) t (name, .stop, id) t') :
      ParsesFields p t t'
  | cons {name type id t t₁ t₂ t₃ t'} (htype : type ≠ .stop)
      (hbegin : Transcribes p.readFieldBegin (fun s a => p.writeFieldBegin s a.1 a.2.1 a.2.2) t
        (name, type, id) t₁)
      (hvalue : ParsesValue p type t₁ t₂)
      (hend : Transcribes p.readFieldEnd (fun s _ => p.writeFieldEnd s) t₂ () t₃)
      (hrest : ParsesFields p t₃ t') : ParsesFields p t t'

/-- Between two tapes there are so many elements. -/
inductive ParsesElements (p : Protocol π) : FieldType → ℕ → Tape π → Tape π → Prop
  | nil {type t} : ParsesElements p type 0 t t
  | cons {type n t t₁ t'} (hvalue : ParsesValue p type t t₁)
      (hrest : ParsesElements p type n t₁ t') : ParsesElements p type (n + 1) t t'

/-- Between two tapes there are so many entries. -/
inductive ParsesEntries (p : Protocol π) : FieldType → FieldType → ℕ → Tape π → Tape π → Prop
  | nil {keyType valueType t} : ParsesEntries p keyType valueType 0 t t
  | cons {keyType valueType n t t₁ t₂ t'} (hkey : ParsesValue p keyType t t₁)
      (hvalue : ParsesValue p valueType t₁ t₂)
      (hrest : ParsesEntries p keyType valueType n t₂ t') :
      ParsesEntries p keyType valueType (n + 1) t t'

end

/-- Between two tapes there is a message, which says `metadata'` about itself. -/
def ParsesMessage (p : Protocol π) (metadata metadata' : MessageMetadata) (t t' : Tape π) : Prop :=
  ∃ t₁ t₂, Transcribes (p.readMessageBegin metadata) p.writeMessageBegin t metadata' t₁ ∧
    ParsesValue p .struct t₁ t₂ ∧
    Transcribes p.readMessageEnd (fun s _ => p.writeMessageEnd s) t₂ () t'

/-! ## What is left to read -/

/-- Between two tapes there is what a machine in a state reads until the frame on top of the stack
is popped. -/
inductive Remains (p : Protocol π) : ProtocolState → Frame → Tape π → Tape π → Prop
  | structBegin {frame t t'} (h : ParsesValue p .struct t t') : Remains p .structBegin frame t t'
  | mapBegin {frame t t'} (h : ParsesValue p .map t t') : Remains p .mapBegin frame t t'
  | listBegin {frame t t'} (h : ParsesValue p .list t t') : Remains p .listBegin frame t t'
  | setBegin {frame t t'} (h : ParsesValue p .set t t') : Remains p .setBegin frame t t'
  | fieldBegin {frame t t₁ t'} (hfields : ParsesFields p t t₁)
      (hend : Transcribes p.readStructEnd (fun s _ => p.writeStop s) t₁ () t') :
      Remains p .fieldBegin frame t t'
  | structEnd {frame t t'}
      (hend : Transcribes p.readStructEnd (fun s _ => p.writeStop s) t () t') :
      Remains p .structEnd frame t t'
  | fieldValue {frame t t₁ t'} (hvalue : ParsesValue p frame.elemType t t₁)
      (hend : Transcribes p.readFieldEnd (fun s _ => p.writeFieldEnd s) t₁ () t') :
      Remains p .fieldValue frame t t'
  | fieldEnd {frame t t'}
      (hend : Transcribes p.readFieldEnd (fun s _ => p.writeFieldEnd s) t () t') :
      Remains p .fieldEnd frame t t'
  | listValue {frame t t'} (h : ParsesElements p frame.elemType frame.remaining.toNat t t') :
      Remains p .listValue frame t t'
  | setValue {frame t t'} (h : ParsesElements p frame.elemType frame.remaining.toNat t t') :
      Remains p .setValue frame t t'
  | mapKey {frame t t'}
      (h : ParsesEntries p frame.elemType frame.valueType frame.remaining.toNat t t') :
      Remains p .mapKey frame t t'
  | mapValue {frame n t t₁ t'} (hn : frame.remaining.toNat = n + 1)
      (hvalue : ParsesValue p frame.valueType t t₁)
      (hrest : ParsesEntries p frame.elemType frame.valueType n t₁ t') :
      Remains p .mapValue frame t t'
  | listEnd {frame t t'} (hend : Transcribes p.readListEnd (fun s _ => p.writeListEnd s) t () t') :
      Remains p .listEnd frame t t'
  | setEnd {frame t t'} (hend : Transcribes p.readSetEnd (fun s _ => p.writeSetEnd s) t () t') :
      Remains p .setEnd frame t t'
  | mapEnd {frame t t'} (hend : Transcribes p.readMapEnd (fun s _ => p.writeMapEnd s) t () t') :
      Remains p .mapEnd frame t t'

/-- The state behind the frame on top of the stack. A field goes back to the next one. -/
def ProtocolState.behind (state : ProtocolState) (frame : Frame) : ProtocolState :=
  match state with
  | .fieldValue | .fieldEnd => .fieldBegin
  | _ => frame.returnState

/-- Between two tapes there is what a machine in a state reads until it is done. -/
inductive Rest (p : Protocol π) : ProtocolState → List Frame → Tape π → Tape π → Prop
  | done {t} : Rest p .done [] t t
  | messageEnd {t t'} (h : Transcribes p.readMessageEnd (fun s _ => p.writeMessageEnd s) t () t') :
      Rest p .messageEnd [] t t'
  | frame {state frame below t t₁ t'} (h : Remains p state frame t t₁)
      (hrest : Rest p (state.behind frame) below t₁ t') : Rest p state (frame :: below) t t'

/-! ## Steps -/

/-- What a step at a value does : a primitive value is read at once, and any other begins. -/
inductive MoveValue (p : Protocol π) (returnState : ProtocolState) :
    FieldType → Tape π → ProtocolState → List Frame → Tape π → Prop
  | primitive {type t t'} (h : ParsesPrimitive p type t t') :
      MoveValue p returnState type t returnState [] t'
  | struct {t} : MoveValue p returnState .struct t .structBegin [{ returnState }] t
  | map {t} : MoveValue p returnState .map t .mapBegin [{ returnState }] t
  | list {t} : MoveValue p returnState .list t .listBegin [{ returnState }] t
  | set {t} : MoveValue p returnState .set t .setBegin [{ returnState }] t

/-- What a step behind the begin of a message does. -/
inductive Move (p : Protocol π) :
    ProtocolState → List Frame → Tape π → ProtocolState → List Frame → Tape π → Prop
  | messageEnd {stack t t'}
      (h : Transcribes p.readMessageEnd (fun s _ => p.writeMessageEnd s) t () t') :
      Move p .messageEnd stack t .done stack t'
  | structBegin {stack t name t'} (h : Transcribes p.readStructBegin p.writeStructBegin t name t') :
      Move p .structBegin stack t .fieldBegin stack t'
  | structEnd {frame below t t'}
      (h : Transcribes p.readStructEnd (fun s _ => p.writeStop s) t () t') :
      Move p .structEnd (frame :: below) t frame.returnState below t'
  | fieldStop {stack t name id t'}
      (h : Transcribes p.readFieldBegin (fun _ _ => []) t (name, .stop, id) t') :
      Move p .fieldBegin stack t .structEnd stack t'
  | fieldBegin {stack t name elemType id t'} (htype : elemType ≠ .stop)
      (h : Transcribes p.readFieldBegin (fun s a => p.writeFieldBegin s a.1 a.2.1 a.2.2) t
        (name, elemType, id) t') :
      Move p .fieldBegin stack t .fieldValue
        ({ returnState := .fieldEnd, elemType } :: stack) t'
  | fieldValue {frame below t next pushed t'}
      (h : MoveValue p frame.returnState frame.elemType t next pushed t') :
      Move p .fieldValue (frame :: below) t next (pushed ++ frame :: below) t'
  | fieldEnd {frame below t t'}
      (h : Transcribes p.readFieldEnd (fun s _ => p.writeFieldEnd s) t () t') :
      Move p .fieldEnd (frame :: below) t .fieldBegin below t'
  | listBegin {stack t elemType remaining t'}
      (h : Transcribes p.readListBegin (fun s a => p.writeListBegin s a.1 a.2) t
        (elemType, remaining) t') :
      Move p .listBegin stack t .listValue
        ({ returnState := .listEnd, elemType, remaining } :: stack) t'
  | listEnd {frame below t t'}
      (h : Transcribes p.readListEnd (fun s _ => p.writeListEnd s) t () t') :
      Move p .listEnd (frame :: below) t frame.returnState below t'
  | mapBegin {stack t elemType valueType remaining t'}
      (h : Transcribes p.readMapBegin (fun s a => p.writeMapBegin s a.1 a.2.1 a.2.2) t
        (elemType, valueType, remaining) t') :
      Move p .mapBegin stack t .mapKey
        ({ returnState := .mapEnd, elemType, valueType, remaining } :: stack) t'
  | mapEnd {frame below t t'} (h : Transcribes p.readMapEnd (fun s _ => p.writeMapEnd s) t () t') :
      Move p .mapEnd (frame :: below) t frame.returnState below t'
  | setBegin {stack t elemType remaining t'}
      (h : Transcribes p.readSetBegin (fun s a => p.writeSetBegin s a.1 a.2) t
        (elemType, remaining) t') :
      Move p .setBegin stack t .setValue
        ({ returnState := .setEnd, elemType, remaining } :: stack) t'
  | setEnd {frame below t t'} (h : Transcribes p.readSetEnd (fun s _ => p.writeSetEnd s) t () t') :
      Move p .setEnd (frame :: below) t frame.returnState below t'
  | exhausted {state frame below t} (hs : state ∈ [.listValue, .setValue, .mapKey])
      (hr : frame.remaining = 0) : Move p state (frame :: below) t frame.returnState below t
  | element {state frame below t next pushed t'} (hs : state ∈ [.listValue, .setValue])
      (hr : frame.remaining ≠ 0) (h : MoveValue p state frame.elemType t next pushed t') :
      Move p state (frame :: below) t next (pushed ++ frame.next :: below) t'
  | mapKey {frame below t next pushed t'} (hr : frame.remaining ≠ 0)
      (h : MoveValue p .mapValue frame.elemType t next pushed t') :
      Move p .mapKey (frame :: below) t next (pushed ++ frame :: below) t'
  | mapValue {frame below t next pushed t'} (hr : frame.remaining ≠ 0)
      (h : MoveValue p .mapKey frame.valueType t next pushed t') :
      Move p .mapValue (frame :: below) t next (pushed ++ frame.next :: below) t'

section Rest

variable {state next returnState : ProtocolState} {stack stack' pushed : List Frame}
  {type : FieldType} {t t₁ t' : Tape π}

/-- Behind a step at a value there is what is left of it. -/
theorem parsesValue_of_move (hv : MoveValue p returnState type t next pushed t₁)
    (h : Rest p next (pushed ++ stack) t₁ t') :
    ∃ t₂, ParsesValue p type t t₂ ∧ Rest p returnState stack t₂ t' := by
  cases hv with
  | primitive hv => exact ⟨t₁, .primitive hv, h⟩
  | struct | map | list | set =>
    cases h with
    | frame h hrest =>
      cases h
      exact ⟨_, ‹_›, hrest⟩

/-- A value can be stepped into. -/
theorem move_of_parsesValue (hv : ParsesValue p type t t₁) (h : Rest p returnState stack t₁ t') :
    ∃ next pushed t₂, MoveValue p returnState type t next pushed t₂ ∧
      Rest p next (pushed ++ stack) t₂ t' := by
  have hnested : ∀ {begin : ProtocolState} {frame : Frame}, Remains p begin frame t t₁ →
      begin.behind frame = returnState → Rest p begin (frame :: stack) t t' :=
    fun hremains hbehind => .frame hremains (hbehind ▸ h)
  cases hv with
  | primitive hv => exact ⟨_, _, _, .primitive hv, h⟩
  | struct hbegin hfields hend =>
    exact ⟨_, _, _, .struct, hnested (.structBegin (.struct hbegin hfields hend)) rfl⟩
  | map hbegin hentries hend =>
    exact ⟨_, _, _, .map, hnested (.mapBegin (.map hbegin hentries hend)) rfl⟩
  | list hbegin helements hend =>
    exact ⟨_, _, _, .list, hnested (.listBegin (.list hbegin helements hend)) rfl⟩
  | set hbegin helements hend =>
    exact ⟨_, _, _, .set, hnested (.setBegin (.set hbegin helements hend)) rfl⟩

/-- What is left behind a step is left before it, behind what the step reads. -/
theorem rest_of_move (hd : Disciplined state stack) (hm : Move p state stack t next stack' t₁)
    (h : Rest p next stack' t₁ t') : Rest p state stack t t' := by
  cases hm with
  | messageEnd hread =>
    cases h with
    | done => exact .messageEnd hread
    | frame h => cases h
  | structBegin hread =>
    cases h with
    | frame h hrest =>
      cases h with
      | fieldBegin hfields hend => exact .frame (.structBegin (.struct hread hfields hend)) hrest
  | structEnd hread => exact .frame (.structEnd hread) h
  | fieldStop hread =>
    cases h with
    | frame h hrest =>
      cases h with
      | structEnd hend => exact .frame (.fieldBegin (.stop hread) hend) hrest
  | fieldBegin htype hread =>
    cases h with
    | frame h hrest =>
      cases h with
      | fieldValue hvalue hend =>
        cases hrest with
        | frame h hrest =>
          cases h with
          | fieldBegin hfields hstop =>
            exact .frame (.fieldBegin (.cons htype hread hvalue hend hfields) hstop) hrest
  | @fieldValue frame below _ _ _ _ hvalue =>
    obtain ⟨t₂, hparses, hrest⟩ := parsesValue_of_move hvalue h
    rw [hd.1] at hrest
    cases hrest with
    | frame h hrest =>
      cases h with
      | fieldEnd hend => exact .frame (.fieldValue hparses hend) hrest
  | fieldEnd hread => exact .frame (.fieldEnd hread) h
  | listBegin hread =>
    cases h with
    | frame h hrest =>
      cases h with
      | listValue helements =>
        cases hrest with
        | frame h hrest =>
          cases h with
          | listEnd hend => exact .frame (.listBegin (.list hread helements hend)) hrest
  | listEnd hread => exact .frame (.listEnd hread) h
  | mapBegin hread =>
    cases h with
    | frame h hrest =>
      cases h with
      | mapKey hentries =>
        cases hrest with
        | frame h hrest =>
          cases h with
          | mapEnd hend => exact .frame (.mapBegin (.map hread hentries hend)) hrest
  | mapEnd hread => exact .frame (.mapEnd hread) h
  | setBegin hread =>
    cases h with
    | frame h hrest =>
      cases h with
      | setValue helements =>
        cases hrest with
        | frame h hrest =>
          cases h with
          | setEnd hend => exact .frame (.setBegin (.set hread helements hend)) hrest
  | setEnd hread => exact .frame (.setEnd hread) h
  | @exhausted _ frame _ _ hs hr =>
    have hzero : frame.remaining.toNat = 0 := by rw [hr]; rfl
    simp only [List.mem_cons, List.not_mem_nil, or_false] at hs
    rcases hs with rfl | rfl | rfl
    · exact .frame (.listValue (hzero ▸ .nil)) h
    · exact .frame (.setValue (hzero ▸ .nil)) h
    · exact .frame (.mapKey (hzero ▸ .nil)) h
  | @element _ frame _ _ _ _ _ hs hr hvalue =>
    obtain ⟨t₂, hparses, hrest⟩ := parsesValue_of_move hvalue h
    have hcount := Frame.remaining_next hr
    simp only [List.mem_cons, List.not_mem_nil, or_false] at hs
    rcases hs with rfl | rfl
    · cases hrest with
      | frame h hrest =>
        cases h with
        | listValue helements => exact .frame (.listValue (hcount ▸ .cons hparses helements)) hrest
    · cases hrest with
      | frame h hrest =>
        cases h with
        | setValue helements => exact .frame (.setValue (hcount ▸ .cons hparses helements)) hrest
  | @mapKey frame _ _ _ _ _ hr hvalue =>
    obtain ⟨t₂, hparses, hrest⟩ := parsesValue_of_move hvalue h
    cases hrest with
    | frame h hrest =>
      cases h with
      | mapValue hn hvalue hentries =>
        exact .frame (.mapKey (hn ▸ .cons hparses hvalue hentries)) hrest
  | @mapValue frame _ _ _ _ _ hr hvalue =>
    obtain ⟨t₂, hparses, hrest⟩ := parsesValue_of_move hvalue h
    cases hrest with
    | frame h hrest =>
      cases h with
      | mapKey hentries =>
        exact .frame (.mapValue (Frame.remaining_next hr).symm hparses hentries) hrest

/-- A container is through, or there is another element. -/
theorem ParsesElements.cases {frame : Frame}
    (h : ParsesElements p type frame.remaining.toNat t t') :
    frame.remaining = 0 ∧ t' = t ∨ frame.remaining ≠ 0 ∧ ∃ t₁, ParsesValue p type t t₁ ∧
      ParsesElements p type frame.next.remaining.toNat t₁ t' := by
  by_cases hr : frame.remaining = 0
  · rw [hr] at h
    cases h
    exact Or.inl ⟨hr, rfl⟩
  · rw [← Frame.remaining_next hr] at h
    cases h with
    | cons hvalue hrest => exact Or.inr ⟨hr, _, hvalue, hrest⟩

theorem ParsesEntries.cases {frame : Frame} {keyType valueType : FieldType}
    (h : ParsesEntries p keyType valueType frame.remaining.toNat t t') :
    frame.remaining = 0 ∧ t' = t ∨ frame.remaining ≠ 0 ∧ ∃ t₁ t₂, ParsesValue p keyType t t₁ ∧
      ParsesValue p valueType t₁ t₂ ∧
      ParsesEntries p keyType valueType frame.next.remaining.toNat t₂ t' := by
  by_cases hr : frame.remaining = 0
  · rw [hr] at h
    cases h
    exact Or.inl ⟨hr, rfl⟩
  · rw [← Frame.remaining_next hr] at h
    cases h with
    | cons hkey hvalue hrest => exact Or.inr ⟨hr, _, _, hkey, hvalue, hrest⟩

/-- Where something is left to read there is a step, and the rest is left behind it. -/
theorem move_of_rest (hd : Disciplined state stack) (hs : state ≠ .done)
    (h : Rest p state stack t t') :
    ∃ next stack' t₁, Move p state stack t next stack' t₁ ∧ Rest p next stack' t₁ t' := by
  cases h with
  | done => exact absurd rfl hs
  | messageEnd hread => exact ⟨_, _, _, .messageEnd hread, .done⟩
  | @frame _ frame below _ t₂ _ h hrest =>
    cases h with
    | structBegin h =>
      cases h with
      | primitive h => cases h
      | struct hbegin hfields hend =>
        exact ⟨_, _, _, .structBegin hbegin, .frame (.fieldBegin hfields hend) hrest⟩
    | mapBegin h =>
      cases h with
      | primitive h => cases h
      | map hbegin hentries hend =>
        exact ⟨_, _, _, .mapBegin hbegin, .frame (.mapKey hentries) (.frame (.mapEnd hend) hrest)⟩
    | listBegin h =>
      cases h with
      | primitive h => cases h
      | list hbegin helements hend =>
        exact ⟨_, _, _, .listBegin hbegin,
          .frame (.listValue helements) (.frame (.listEnd hend) hrest)⟩
    | setBegin h =>
      cases h with
      | primitive h => cases h
      | set hbegin helements hend =>
        exact ⟨_, _, _, .setBegin hbegin,
          .frame (.setValue helements) (.frame (.setEnd hend) hrest)⟩
    | fieldBegin hfields hend =>
      cases hfields with
      | stop hread => exact ⟨_, _, _, .fieldStop hread, .frame (.structEnd hend) hrest⟩
      | cons htype hbegin hvalue hfield hfields =>
        exact ⟨_, _, _, .fieldBegin htype hbegin, .frame (.fieldValue hvalue hfield)
          (.frame (.fieldBegin hfields hend) hrest)⟩
    | structEnd hend => exact ⟨_, _, _, .structEnd hend, hrest⟩
    | @fieldValue _ _ t₃ _ hvalue hend =>
      have hfield : Rest p frame.returnState (frame :: below) t₃ t' := by
        rw [hd.1]
        exact .frame (.fieldEnd hend) hrest
      obtain ⟨next, pushed, t₁, hmove, hleft⟩ := move_of_parsesValue hvalue hfield
      exact ⟨_, _, _, .fieldValue hmove, hleft⟩
    | fieldEnd hend => exact ⟨_, _, _, .fieldEnd hend, hrest⟩
    | listValue h =>
      obtain ⟨hr, rfl⟩ | ⟨hr, t₃, hvalue, helements⟩ := h.cases
      · exact ⟨_, _, _, .exhausted (by simp) hr, hrest⟩
      · have hnext : Rest p .listValue (frame.next :: below) t₃ t' :=
          .frame (.listValue helements) hrest
        obtain ⟨next, pushed, t₁, hmove, hleft⟩ := move_of_parsesValue hvalue hnext
        exact ⟨_, _, _, .element (by simp) hr hmove, hleft⟩
    | setValue h =>
      obtain ⟨hr, rfl⟩ | ⟨hr, t₃, hvalue, helements⟩ := h.cases
      · exact ⟨_, _, _, .exhausted (by simp) hr, hrest⟩
      · have hnext : Rest p .setValue (frame.next :: below) t₃ t' :=
          .frame (.setValue helements) hrest
        obtain ⟨next, pushed, t₁, hmove, hleft⟩ := move_of_parsesValue hvalue hnext
        exact ⟨_, _, _, .element (by simp) hr hmove, hleft⟩
    | mapKey h =>
      obtain ⟨hr, rfl⟩ | ⟨hr, t₃, t₄, hkey, hvalue, hentries⟩ := h.cases
      · exact ⟨_, _, _, .exhausted (by simp) hr, hrest⟩
      · obtain ⟨next, pushed, t₁, hmove, hleft⟩ := move_of_parsesValue hkey
          (.frame (.mapValue (Frame.remaining_next hr).symm hvalue hentries) hrest)
        exact ⟨_, _, _, .mapKey hr hmove, hleft⟩
    | @mapValue _ n _ t₃ _ hn hvalue hentries =>
      obtain ⟨-, hr, -⟩ := hd
      have hcount : frame.next.remaining.toNat = n :=
        Nat.succ.inj ((Frame.remaining_next hr).trans hn)
      have hnext : Rest p .mapKey (frame.next :: below) t₃ t' := by
        refine .frame (.mapKey ?_) hrest
        rw [hcount]
        exact hentries
      obtain ⟨next, pushed, t₁, hmove, hleft⟩ := move_of_parsesValue hvalue hnext
      exact ⟨_, _, _, .mapValue hr hmove, hleft⟩
    | listEnd hend => exact ⟨_, _, _, .listEnd hend, hrest⟩
    | setEnd hend => exact ⟨_, _, _, .setEnd hend, hrest⟩
    | mapEnd hend => exact ⟨_, _, _, .mapEnd hend, hrest⟩

end Rest

end MetaProtocolProxy.Thrift
