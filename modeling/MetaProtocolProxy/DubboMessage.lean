import Mathlib.Data.Nat.Notation

/-!
# Dubbo messages

The enumerations and records of the Dubbo side of the proxy : what a header and a
body say before the generic `Metadata` is filled from them (`message.h`,
`message_impl.h`, `metadata.h`).

An `enum class` over `uint8_t` holds any byte a `static_cast` puts into it, so the
enumerations that are cast from the wire keep the bytes without a name
(`ResponseStatus.unnamed`, `SerializationType.unnamed`, `RpcResponseType.unnamed`).
-/

namespace MetaProtocolProxy

/-- What a C++ call can end with instead of a value. -/
inductive Fault where
  /-- An `EnvoyException`, with its text. -/
  | exception (what : String)
  /-- The process stops : a failed `ASSERT`, a not-reached or not-implemented branch, a
  dereferenced null pointer, or an exception nobody catches. -/
  | panic (site : String)
deriving DecidableEq, Repr

/-- An `EnvoyException` that says something. -/
def Fault.IsException (fault : Fault) : Prop :=
  ∃ what, fault = .exception what ∧ what ≠ ""

/-- The bytes of an Envoy buffer. -/
abbrev Bytes := List UInt8

namespace Dubbo

/-- `ProtocolType`. -/
inductive ProtocolType where
  | dubbo
deriving DecidableEq, Repr

/-- `SerializationType`. -/
inductive SerializationType where
  | hessian2
  | unnamed (value : UInt8)
deriving DecidableEq, Repr

/-- `MessageType` of a Dubbo message. -/
inductive MessageType where
  | response | request | oneway | exception | heartbeatRequest | heartbeatResponse
deriving DecidableEq, Repr

/-- Requests and responses with the event bit. -/
def MessageType.isHeartbeat : MessageType → Bool
  | .heartbeatRequest | .heartbeatResponse => true
  | _ => false

/-- What a client sends. -/
def MessageType.isRequest : MessageType → Bool
  | .request | .oneway | .heartbeatRequest => true
  | _ => false

/-- `ResponseStatus`, with the numbers of the protocol. -/
inductive ResponseStatus where
  | ok | clientTimeout | serverTimeout | badRequest | badResponse | serviceNotFound
  | serviceError | serverError | clientError | serverThreadpoolExhaustedError
  | unnamed (value : UInt8)
deriving DecidableEq, Repr

/-- `RpcResponseType` : what the body of a response holds. -/
inductive RpcResponseType where
  | responseWithException | responseWithValue | responseWithNullValue
  | responseWithExceptionWithAttachments | responseValueWithAttachments
  | responseNullValueWithAttachments
  | unnamed (value : UInt8)
deriving DecidableEq, Repr

/-! ## Casts from and to the wire -/

/-- `static_cast<SerializationType>` of a byte. -/
def SerializationType.ofUInt8 : UInt8 → SerializationType
  | 2 => .hessian2
  | value => .unnamed value

/-- The number of a serialization type. -/
def SerializationType.toUInt8 : SerializationType → UInt8
  | .hessian2 => 2
  | .unnamed value => value

/-- `static_cast<ResponseStatus>` of a byte. -/
def ResponseStatus.ofUInt8 : UInt8 → ResponseStatus
  | 20 => .ok
  | 30 => .clientTimeout
  | 31 => .serverTimeout
  | 40 => .badRequest
  | 50 => .badResponse
  | 60 => .serviceNotFound
  | 70 => .serviceError
  | 80 => .serverError
  | 90 => .clientError
  | 100 => .serverThreadpoolExhaustedError
  | value => .unnamed value

/-- The number of a response status. -/
def ResponseStatus.toUInt8 : ResponseStatus → UInt8
  | .ok => 20
  | .clientTimeout => 30
  | .serverTimeout => 31
  | .badRequest => 40
  | .badResponse => 50
  | .serviceNotFound => 60
  | .serviceError => 70
  | .serverError => 80
  | .clientError => 90
  | .serverThreadpoolExhaustedError => 100
  | .unnamed value => value

/-- The response type of a number, which may be none. -/
def RpcResponseType.ofUInt8 : UInt8 → RpcResponseType
  | 0 => .responseWithException
  | 1 => .responseWithValue
  | 2 => .responseWithNullValue
  | 3 => .responseWithExceptionWithAttachments
  | 4 => .responseValueWithAttachments
  | 5 => .responseNullValueWithAttachments
  | value => .unnamed value

/-- The number of a response type. -/
def RpcResponseType.toUInt8 : RpcResponseType → UInt8
  | .responseWithException => 0
  | .responseWithValue => 1
  | .responseWithNullValue => 2
  | .responseWithExceptionWithAttachments => 3
  | .responseValueWithAttachments => 4
  | .responseNullValueWithAttachments => 5
  | .unnamed value => value

/-- `static_cast<RpcResponseType>` of an `int32_t` : the underlying type has eight bits. -/
def RpcResponseType.ofInt32 (value : Int32) : RpcResponseType :=
  RpcResponseType.ofUInt8 value.toUInt32.toUInt8

/-! ## Records -/

/-- `ContextImpl` : sizes of the frame being decoded, and its bytes moved out of the
buffer so far. -/
structure Context where
  headerSize : ℕ
  bodySize : ℕ
  isHeartbeat : Bool
  originMessage : Bytes
deriving DecidableEq, Repr

/-- `RpcInvocationImpl`. `parsedSize` is where the delayed decoder of the parameters and
the attachment starts in the original message. -/
structure RpcInvocation where
  serviceName : String
  methodName : String
  serviceVersion : Option String
  serviceGroup : Option String := none
  parsedSize : ℕ
deriving DecidableEq, Repr

/-- `MessageMetadata`, with its initial values. -/
structure MessageMetadata where
  isTwoWay : Bool := false
  messageType : MessageType := .request
  protoType : ProtocolType := .dubbo
  responseStatus : Option ResponseStatus := none
  timeout : Option UInt32 := none
  invocationInfo : Option RpcInvocation := none
  serializationType : SerializationType := .hessian2
  protocolVersion : UInt8 := 1
  requestId : Int64 := 0
deriving DecidableEq, Repr

/-- `RpcResultImpl`. -/
structure RpcResult where
  hasException : Bool
deriving DecidableEq, Repr

end Dubbo

end MetaProtocolProxy
