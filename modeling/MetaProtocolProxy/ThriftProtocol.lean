import MetaProtocolProxy.ThriftMessage

/-!
# Thrift protocols and transports

`Protocol` and `Transport` (`protocol.h`, `transport.h`) are the interfaces of what reads and
writes the parts of a Thrift message and the frames around it. Their implementations belong to
Envoy, so both are parameters here, with a state of their own : the automatic ones keep what
they have detected.

A read that needs more data changes nothing, and one that succeeds takes its bytes off the
front of the buffer. A write adds bytes at the end of a buffer. What else the codec relies on
is said by `Local`, `Progress`, `Typed` and `RoundTrip`.
-/

namespace MetaProtocolProxy.Thrift

/-- A read : the value, the state behind it and the bytes that are left, or nothing when more
data is needed, or the text of an `EnvoyException`. -/
abbrev Reader (π α : Type) :=
  π → Bytes → Except String (Option (α × π × Bytes))

namespace Reader

variable {π α : Type}

/-- What has been read or rejected does not depend on what follows it. -/
structure Local (r : Reader π α) : Prop where
  ok : ∀ {s b a s' b'}, r s b = .ok (some (a, s', b')) →
    ∀ x, r s (b ++ x) = .ok (some (a, s', b' ++ x))
  error : ∀ {s b what}, r s b = .error what → ∀ x, r s (b ++ x) = .error what

/-- The buffer does not grow. -/
def Drains (r : Reader π α) : Prop :=
  ∀ {s b a s' b'}, r s b = .ok (some (a, s', b')) → b'.length ≤ b.length

/-- At least one byte is read. -/
def Consumes (r : Reader π α) : Prop :=
  ∀ {s b a s' b'}, r s b = .ok (some (a, s', b')) → b'.length < b.length

end Reader

/-- `Protocol`. -/
structure Protocol (π : Type) where
  type : π → ProtocolType
  setType : ProtocolType → π → π
  readMessageBegin : MessageMetadata → Reader π MessageMetadata
  readMessageEnd : Reader π Unit
  readStructBegin : Reader π Bytes
  readStructEnd : Reader π Unit
  readFieldBegin : Reader π (Bytes × FieldType × Int16)
  readFieldEnd : Reader π Unit
  readMapBegin : Reader π (FieldType × FieldType × UInt32)
  readMapEnd : Reader π Unit
  readListBegin : Reader π (FieldType × UInt32)
  readListEnd : Reader π Unit
  readSetBegin : Reader π (FieldType × UInt32)
  readSetEnd : Reader π Unit
  readBool : Reader π Bool
  readByte : Reader π UInt8
  readInt16 : Reader π Int16
  readInt32 : Reader π Int32
  readInt64 : Reader π Int64
  readDouble : Reader π UInt64
  readString : Reader π Bytes
  writeMessageBegin : π → MessageMetadata → Bytes
  writeMessageEnd : π → Bytes
  writeStructBegin : π → Bytes → Bytes
  writeStructEnd : π → Bytes
  writeFieldBegin : π → Bytes → FieldType → Int16 → Bytes
  writeFieldEnd : π → Bytes
  writeMapBegin : π → FieldType → FieldType → UInt32 → Bytes
  writeMapEnd : π → Bytes
  writeListBegin : π → FieldType → UInt32 → Bytes
  writeListEnd : π → Bytes
  writeSetBegin : π → FieldType → UInt32 → Bytes
  writeSetEnd : π → Bytes
  writeBool : π → Bool → Bytes
  writeByte : π → UInt8 → Bytes
  writeInt16 : π → Int16 → Bytes
  writeInt32 : π → Int32 → Bytes
  writeInt64 : π → Int64 → Bytes
  writeDouble : π → UInt64 → Bytes
  writeString : π → Bytes → Bytes

/-- `Transport`. -/
structure Transport (τ : Type) where
  decodeFrameStart : MessageMetadata → Reader τ MessageMetadata
  decodeFrameEnd : Reader τ Unit
  encodeFrame : τ → MessageMetadata → Bytes → Except String Bytes

variable {π τ : Type}

/-! ## What is assumed of them -/

/-- No read depends on what follows what it reads. -/
structure Protocol.Local (p : Protocol π) : Prop where
  readMessageBegin : ∀ metadata, (p.readMessageBegin metadata).Local
  readMessageEnd : p.readMessageEnd.Local
  readStructBegin : p.readStructBegin.Local
  readStructEnd : p.readStructEnd.Local
  readFieldBegin : p.readFieldBegin.Local
  readFieldEnd : p.readFieldEnd.Local
  readMapBegin : p.readMapBegin.Local
  readMapEnd : p.readMapEnd.Local
  readListBegin : p.readListBegin.Local
  readListEnd : p.readListEnd.Local
  readSetBegin : p.readSetBegin.Local
  readSetEnd : p.readSetEnd.Local
  readBool : p.readBool.Local
  readByte : p.readByte.Local
  readInt16 : p.readInt16.Local
  readInt32 : p.readInt32.Local
  readInt64 : p.readInt64.Local
  readDouble : p.readDouble.Local
  readString : p.readString.Local

/-- No read makes the buffer longer, and those of the begin of a message, of a field and of a
container take a byte off. Every other may be empty, also a boolean, which may be a part of the
begin of its field. -/
structure Protocol.Progress (p : Protocol π) : Prop where
  readMessageBegin : ∀ metadata, (p.readMessageBegin metadata).Consumes
  readMessageEnd : p.readMessageEnd.Drains
  readStructBegin : p.readStructBegin.Drains
  readStructEnd : p.readStructEnd.Drains
  readFieldBegin : p.readFieldBegin.Consumes
  readFieldEnd : p.readFieldEnd.Drains
  readMapBegin : p.readMapBegin.Consumes
  readMapEnd : p.readMapEnd.Drains
  readListBegin : p.readListBegin.Consumes
  readListEnd : p.readListEnd.Drains
  readSetBegin : p.readSetBegin.Consumes
  readSetEnd : p.readSetEnd.Drains
  readBool : p.readBool.Drains
  readByte : p.readByte.Drains
  readInt16 : p.readInt16.Drains
  readInt32 : p.readInt32.Drains
  readInt64 : p.readInt64.Drains
  readDouble : p.readDouble.Drains
  readString : p.readString.Drains

/-- The begin of a message has a message type. -/
def Protocol.Typed (p : Protocol π) : Prop :=
  ∀ {metadata s b metadata' s' b'},
    p.readMessageBegin metadata s b = .ok (some (metadata', s', b')) → metadata'.messageType ≠ none

/-- What a protocol in the state `s` writes is what it reads back, and a protocol in the state
`s₀` that reads the begin of such a message is in the state `s` then. Names of structs and
fields need not be written. -/
structure Protocol.RoundTrip (p : Protocol π) (s₀ s : π) : Prop where
  messageBegin : ∀ metadata written name sequenceId type rest,
    written.methodName = some name → written.sequenceId = some sequenceId →
      written.messageType = some type → name.length < 2 ^ 31 →
      p.readMessageBegin metadata s₀ (p.writeMessageBegin s written ++ rest) =
        .ok (some ({ metadata with
          methodName := some name, sequenceId := some sequenceId, messageType := some type }, s,
            rest))
  messageHeader : ∀ {written written' : MessageMetadata},
    written.methodName = written'.methodName → written.sequenceId = written'.sequenceId →
      written.messageType = written'.messageType →
      p.writeMessageBegin s written = p.writeMessageBegin s written'
  messageEnd : ∀ rest, p.readMessageEnd s (p.writeMessageEnd s ++ rest) = .ok (some ((), s, rest))
  structBegin : ∀ name rest, ∃ name',
    p.readStructBegin s (p.writeStructBegin s name ++ rest) = .ok (some (name', s, rest)) ∧
      p.writeStructBegin s name' = p.writeStructBegin s name
  structEnd : ∀ rest, p.readStructEnd s (p.writeStructEnd s ++ rest) = .ok (some ((), s, rest))
  fieldBegin : ∀ name type (id : Int16) rest, type ≠ .stop → 0 ≤ id → ∃ name',
    p.readFieldBegin s (p.writeFieldBegin s name type id ++ rest) =
        .ok (some ((name', type, id), s, rest)) ∧
      p.writeFieldBegin s name' type id = p.writeFieldBegin s name type id
  fieldStop : ∀ rest, ∃ name id,
    p.readFieldBegin s (p.writeFieldBegin s [] .stop 0 ++ rest) =
      .ok (some ((name, .stop, id), s, rest))
  fieldEnd : ∀ rest, p.readFieldEnd s (p.writeFieldEnd s ++ rest) = .ok (some ((), s, rest))
  mapBegin : ∀ keyType valueType (size : UInt32) rest, size.toNat < 2 ^ 31 →
    p.readMapBegin s (p.writeMapBegin s keyType valueType size ++ rest) =
      .ok (some ((keyType, valueType, size), s, rest))
  mapEnd : ∀ rest, p.readMapEnd s (p.writeMapEnd s ++ rest) = .ok (some ((), s, rest))
  listBegin : ∀ elemType (size : UInt32) rest, size.toNat < 2 ^ 31 →
    p.readListBegin s (p.writeListBegin s elemType size ++ rest) =
      .ok (some ((elemType, size), s, rest))
  listEnd : ∀ rest, p.readListEnd s (p.writeListEnd s ++ rest) = .ok (some ((), s, rest))
  setBegin : ∀ elemType (size : UInt32) rest, size.toNat < 2 ^ 31 →
    p.readSetBegin s (p.writeSetBegin s elemType size ++ rest) =
      .ok (some ((elemType, size), s, rest))
  setEnd : ∀ rest, p.readSetEnd s (p.writeSetEnd s ++ rest) = .ok (some ((), s, rest))
  bool : ∀ value rest, p.readBool s (p.writeBool s value ++ rest) = .ok (some (value, s, rest))
  byte : ∀ value rest, p.readByte s (p.writeByte s value ++ rest) = .ok (some (value, s, rest))
  int16 : ∀ value rest, p.readInt16 s (p.writeInt16 s value ++ rest) = .ok (some (value, s, rest))
  int32 : ∀ value rest, p.readInt32 s (p.writeInt32 s value ++ rest) = .ok (some (value, s, rest))
  int64 : ∀ value rest, p.readInt64 s (p.writeInt64 s value ++ rest) = .ok (some (value, s, rest))
  double : ∀ bits rest, p.readDouble s (p.writeDouble s bits ++ rest) = .ok (some (bits, s, rest))
  string : ∀ value rest, value.length < 2 ^ 31 →
    p.readString s (p.writeString s value ++ rest) = .ok (some (value, s, rest))

/-- The begin and the end of a frame do not depend on what follows them. -/
structure Transport.Local (t : Transport τ) : Prop where
  decodeFrameStart : ∀ metadata, (t.decodeFrameStart metadata).Local
  decodeFrameEnd : t.decodeFrameEnd.Local

/-- The begin and the end of a frame come off the front of the buffer. -/
structure Transport.Progress (t : Transport τ) : Prop where
  decodeFrameStart : ∀ metadata, (t.decodeFrameStart metadata).Drains
  decodeFrameEnd : t.decodeFrameEnd.Drains

end MetaProtocolProxy.Thrift
