import Mathlib.Algebra.Group.Nat.Defs
import MetaProtocolProxy.Codec

/-!
# Thrift messages

The enumerations of the Thrift side of the proxy and what a transport and a protocol say about
a message (`thrift.h`, `metadata.h`), and the values a message is made of.

A string of Thrift is a string of bytes. Where one comes to the generic `Metadata`, or from an
error, it is read with one character for a byte.
-/

namespace MetaProtocolProxy.Thrift

/-! ## Enumerations -/

/-- The protocols a transport can name. -/
inductive ProtocolType where
  | binary | laxBinary | compact | twitter | auto
deriving DecidableEq, Repr

/-- `ProtocolNames::fromType`. -/
def ProtocolType.name : ProtocolType → String
  | .binary => "binary"
  | .laxBinary => "binary/non-strict"
  | .compact => "compact"
  | .twitter => "twitter"
  | .auto => "auto"

/-- `MessageType` of a Thrift message. -/
inductive MessageType where
  | call | reply | exception | oneway
deriving DecidableEq, Repr

/-- The bytes of the field types with a name. -/
def namedFieldTypes : List UInt8 :=
  [0, 1, 2, 3, 4, 6, 8, 10, 11, 12, 13, 14, 15]

/-- The type of a field. A protocol casts the byte it reads, so a byte without a name is kept. -/
inductive FieldType where
  | stop | void | bool | byte | double | i16 | i32 | i64 | string | struct | map | set | list
  | unnamed (value : UInt8) (h : value ∉ namedFieldTypes)
deriving DecidableEq, Repr

/-- The number of a field type. -/
def FieldType.toUInt8 : FieldType → UInt8
  | .stop => 0
  | .void => 1
  | .bool => 2
  | .byte => 3
  | .double => 4
  | .i16 => 6
  | .i32 => 8
  | .i64 => 10
  | .string => 11
  | .struct => 12
  | .map => 13
  | .set => 14
  | .list => 15
  | .unnamed value _ => value

/-- The cast of a byte. -/
def FieldType.ofUInt8 (value : UInt8) : FieldType :=
  if h : value ∉ namedFieldTypes then .unnamed value h
  else
    match value.toNat with
    | 0 => .stop
    | 1 => .void
    | 2 => .bool
    | 3 => .byte
    | 4 => .double
    | 6 => .i16
    | 8 => .i32
    | 10 => .i64
    | 11 => .string
    | 12 => .struct
    | 13 => .map
    | 14 => .set
    | _ => .list

@[simp] theorem FieldType.ofUInt8_toUInt8 (type : FieldType) :
    FieldType.ofUInt8 type.toUInt8 = type := by
  cases type with
  | unnamed value h => simp [toUInt8, ofUInt8, h]
  | _ => rfl

/-- `AppExceptionType`. -/
inductive AppExceptionType where
  | unknown | unknownMethod | invalidMessageType | wrongMethodName | badSequenceId | missingResult
  | internalError | protocolError | invalidTransform | invalidProtocol | unsupportedClientType
  | loadShedding | timeout | injectedFailure | checksumMismatch | interruption
deriving DecidableEq, Repr

/-- The number of an exception type. -/
def AppExceptionType.toNat : AppExceptionType → ℕ :=
  AppExceptionType.ctorIdx

/-! ## Metadata -/

/-- `MessageMetadata`, with what the codec reads of it. -/
structure MessageMetadata where
  frameSize : Option UInt32 := none
  protocol : Option ProtocolType := none
  methodName : Option Bytes := none
  sequenceId : Option Int32 := none
  messageType : Option MessageType := none
  appException : Option (AppExceptionType × Bytes) := none
deriving DecidableEq, Repr

/-- The characters of a string of bytes. -/
def stringOf (bytes : Bytes) : String :=
  String.ofList (bytes.map fun b => Char.ofNat b.toNat)

/-- The bytes of a string of such characters. -/
def bytesOf (s : String) : Bytes :=
  s.toList.map fun c => UInt8.ofNat c.toNat

theorem bytesOf_stringOf (bytes : Bytes) : bytesOf (stringOf bytes) = bytes := by
  have hbyte : ∀ b : UInt8, UInt8.ofNat (Char.ofNat b.toNat).toNat = b := by
    have hall : ∀ n : Fin 256,
        UInt8.ofNat (Char.ofNat (UInt8.ofFin n).toNat).toNat = UInt8.ofFin n := by
      decide +kernel
    exact fun b => hall b.toFin
  simp [bytesOf, stringOf, Function.comp_def, hbyte]

theorem stringOf_inj {a b : Bytes} (h : stringOf a = stringOf b) : a = b := by
  rw [← bytesOf_stringOf a, h, bytesOf_stringOf]

/-! ## Values -/

/-- A value that is read at once. A floating point number is its bits. -/
inductive Primitive where
  | bool (value : Bool)
  | byte (value : UInt8)
  | i16 (value : Int16)
  | i32 (value : Int32)
  | i64 (value : Int64)
  | double (bits : UInt64)
  | string (value : Bytes)
deriving DecidableEq, Repr

/-- The field type of a primitive value. -/
def Primitive.type : Primitive → FieldType
  | .bool _ => .bool
  | .byte _ => .byte
  | .i16 _ => .i16
  | .i32 _ => .i32
  | .i64 _ => .i64
  | .double _ => .double
  | .string _ => .string

mutual

/-- The values of Thrift, in any nesting. -/
inductive Value where
  | primitive (value : Primitive)
  | struct (name : Bytes) (fields : Fields)
  | map (keyType valueType : FieldType) (entries : Entries)
  | list (elemType : FieldType) (elements : Elements)
  | set (elemType : FieldType) (elements : Elements)

/-- The fields of a struct. -/
inductive Fields where
  | nil
  | cons (name : Bytes) (id : Int16) (value : Value) (rest : Fields)

/-- The elements of a list or a set. -/
inductive Elements where
  | nil
  | cons (value : Value) (rest : Elements)

/-- The entries of a map. -/
inductive Entries where
  | nil
  | cons (key value : Value) (rest : Entries)

end

/-- The field type of a value. -/
def Value.type : Value → FieldType
  | .primitive value => value.type
  | .struct _ _ => .struct
  | .map _ _ _ => .map
  | .list _ _ => .list
  | .set _ _ => .set

/-- How many elements there are. -/
def Elements.length : Elements → ℕ
  | .nil => 0
  | .cons _ rest => rest.length + 1

/-- How many entries there are. -/
def Entries.length : Entries → ℕ
  | .nil => 0
  | .cons _ _ rest => rest.length + 1

mutual

/-- The elements of a container are of its types, and neither the sizes, which are written as an
`int32`, nor the numbers of the fields are negative. -/
def Value.WellFormed : Value → Prop
  | .primitive (.string value) => value.length < 2 ^ 31
  | .primitive _ => True
  | .struct _ fields => fields.WellFormed
  | .map keyType valueType entries =>
    entries.length < 2 ^ 31 ∧ entries.WellFormed keyType valueType
  | .list elemType elements => elements.length < 2 ^ 31 ∧ elements.WellFormed elemType
  | .set elemType elements => elements.length < 2 ^ 31 ∧ elements.WellFormed elemType

/-- No field has a negative id, and every value is well formed. -/
def Fields.WellFormed : Fields → Prop
  | .nil => True
  | .cons _ id value rest => 0 ≤ id ∧ value.WellFormed ∧ rest.WellFormed

/-- Every element has the type of the list, and is well formed. -/
def Elements.WellFormed (elemType : FieldType) : Elements → Prop
  | .nil => True
  | .cons value rest =>
    value.type = elemType ∧ value.WellFormed ∧ rest.WellFormed elemType

/-- Every key and value has its type in the map, and is well formed. -/
def Entries.WellFormed (keyType valueType : FieldType) : Entries → Prop
  | .nil => True
  | .cons key value rest =>
    key.type = keyType ∧ key.WellFormed ∧ value.type = valueType ∧ value.WellFormed ∧
      rest.WellFormed keyType valueType

end

/-- A message : its name, its number, its type and the struct of its arguments. -/
structure Message where
  name : Bytes
  sequenceId : Int32
  type : MessageType
  structName : Bytes
  fields : Fields

end MetaProtocolProxy.Thrift
