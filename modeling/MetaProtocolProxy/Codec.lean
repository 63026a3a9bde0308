import MetaProtocolProxy.DubboMessage

/-!
# The generic codec interface

`Metadata` is what every layer of the proxy reads about a message (`codec/codec.h`,
`codec_impl.h`), and `Codec` is the interface a protocol implements for the proxy.
The model is generic in the codec : a codec is a state with three functions, and
what a protocol does is a value of this type.

`std::any` is closed here over the types the two codecs put into the properties, so
an `any_cast` to another type is a match that falls through.
-/

namespace MetaProtocolProxy

/-- The types of a message that the proxy knows of. -/
inductive MessageType where
  | request | response | oneway | heartbeat | error
deriving DecidableEq, Repr

/-- Whether a response reports success. -/
inductive ResponseStatus where
  | ok | error
deriving DecidableEq, Repr

/-- The errors that a local reply can report. -/
inductive ErrorType where
  | routeNotFound | clusterNotFound | noHealthyUpstream | badResponse | unspecified
deriving DecidableEq, Repr

/-- `AppException` : an error and its text. -/
structure Error where
  type : ErrorType
  message : String
deriving DecidableEq, Repr

/-! ## Properties -/

/-- The values the codecs store in a `std::any`. -/
inductive AnyValue where
  | string (value : String)
  | bool (value : Bool)
  | uint8 (value : UInt8)
  | uint32 (value : UInt32)
  | optionalUInt32 (value : Option UInt32)
  | rpcInvocation (value : Dubbo.RpcInvocation)
  | protocolType (value : Dubbo.ProtocolType)
  | messageType (value : Dubbo.MessageType)
  | serializationType (value : Dubbo.SerializationType)
  | responseStatus (value : Dubbo.ResponseStatus)
deriving DecidableEq, Repr

/-- `PropertiesImpl` : a map from keys to values. -/
abbrev Properties := List (String × AnyValue)

namespace Properties

/-- The value of a key. -/
def get (properties : Properties) (key : String) : Option AnyValue :=
  properties.lookup key

/-- `std::map::insert` : a key that is there keeps its value. -/
def put (properties : Properties) (key : String) (value : AnyValue) : Properties :=
  match properties.get key with
  | some _ => properties
  | none => properties ++ [(key, value)]

/-- The value of a string key. A value of another type is a `bad_any_cast`. -/
def getString (properties : Properties) (key : String) : Except Fault String :=
  match properties.get key with
  | some (.string value) => .ok value
  | some _ => .error (.panic "bad_any_cast")
  | none => .ok ""

/-- What was put first under a key stays there. -/
theorem get_put (properties : Properties) (key : String) (value : AnyValue) (key' : String) :
    (properties.put key value).get key' =
      (properties.get key').or (if key' = key then some value else none) := by
  unfold put
  split
  · rename_i value' h
    by_cases hk : key' = key
    · rw [if_pos hk, hk, h, Option.some_or]
    · rw [if_neg hk, Option.or_none]
  · simp only [get, List.lookup_append, List.lookup_cons, List.lookup_nil]
    by_cases hk : key' = key
    · simp [hk]
    · have hbeq : (key' == key) = false := by simpa using hk
      simp [hk, hbeq]

@[simp] theorem get_nil (key : String) : get [] key = none :=
  rfl

end Properties

/-! ## Metadata -/

/-- `MetadataImpl`, with its initial values. -/
structure Metadata where
  properties : Properties := []
  originMessage : Bytes := []
  messageType : MessageType := .request
  responseStatus : ResponseStatus := .ok
  requestId : UInt64 := 0
  headerSize : ℕ := 0
  bodySize : ℕ := 0
  headers : List (String × String) := []
deriving DecidableEq, Repr

namespace Metadata

/-- A property that is there keeps its value. -/
def put (metadata : Metadata) (key : String) (value : AnyValue) : Metadata :=
  { metadata with properties := metadata.properties.put key value }

/-- The value of a property. -/
def get (metadata : Metadata) (key : String) : Option AnyValue :=
  metadata.properties.get key

/-- A string property is also a routing header, which replaces the one of that key. -/
def putString (metadata : Metadata) (key value : String) : Metadata :=
  let metadata := metadata.put key (.string value)
  { metadata with
    headers := metadata.headers.filter (fun h => h.1 ≠ key.toLower) ++ [(key.toLower, value)] }

/-- The value of a string property. -/
def getString (metadata : Metadata) (key : String) : Except Fault String :=
  metadata.properties.getString key

end Metadata

/-! ## Codecs -/

/-- How a call of `decode` ends. -/
inductive DecodeStatus where
  | waitForData
  | done (metadata : Metadata)
  | throw (fault : Fault)
deriving DecidableEq, Repr

/-- What `decode` leaves behind : the codec, the bytes still in the buffer, and how the
call ended. A codec keeps its state and the buffer also when it throws. -/
structure Decoding (σ : Type) where
  codec : σ
  buffer : Bytes
  status : DecodeStatus

/-- A codec with states in `σ`. `decode` is handed a fresh `Metadata`, so it returns the
one it fills. -/
structure Codec (σ : Type) where
  init : σ
  decode : σ → Bytes → Decoding σ
  encode : σ → Metadata → Except Fault Bytes
  onError : σ → Metadata → Error → Except Fault Bytes

namespace Codec

variable {σ : Type}

/-- What a codec keeps between two calls : `I` of its state, and `R` of the messages it
accepts, whatever is taken off their bytes. -/
structure Keeps (codec : Codec σ) (I : σ → Prop) (R : Metadata → Prop) : Prop where
  init : I codec.init
  decode : ∀ {s}, I s → ∀ buffer, I (codec.decode s buffer).codec
  done : ∀ {s buffer metadata}, I s →
    (codec.decode s buffer).status = .done metadata → R metadata
  originMessage : ∀ {metadata}, R metadata → ∀ originMessage, R { metadata with originMessage }

/-- A codec that throws nothing but exceptions, and has a reply to every message it accepts. -/
structure Replies (codec : Codec σ) (I : σ → Prop) (R : Metadata → Prop) : Prop where
  throw : ∀ {s buffer fault}, I s → (codec.decode s buffer).status = .throw fault →
    fault.IsException
  onError : ∀ {s metadata error}, I s → R metadata → error.message ≠ "" →
    ∃ bytes, codec.onError s metadata error = .ok bytes
  heartbeat : ∀ {s metadata}, I s → R metadata →
    ∃ bytes, codec.encode s { metadata with messageType := .heartbeat } = .ok bytes

/-- A codec that `dispatch` can call : it throws nothing but exceptions, and every heartbeat it
accepts is answered. -/
structure Flows (codec : Codec σ) (I : σ → Prop) (R : Metadata → Prop) : Prop
    extends codec.Keeps I R where
  throw : ∀ {s buffer fault}, I s → (codec.decode s buffer).status = .throw fault →
    ∃ what, fault = .exception what
  heartbeat : ∀ {s metadata}, I s → R metadata →
    ∃ bytes, codec.encode s { metadata with messageType := .heartbeat } = .ok bytes

theorem Keeps.flows {codec : Codec σ} {I : σ → Prop} {R : Metadata → Prop}
    (hk : codec.Keeps I R) (hr : codec.Replies I R) : codec.Flows I R where
  toKeeps := hk
  throw hs hd := by
    obtain ⟨what, hwhat, -⟩ := hr.throw hs hd
    exact ⟨what, hwhat⟩
  heartbeat := hr.heartbeat

/-- Of any codec nothing has to be known. -/
theorem keeps_true (codec : Codec σ) : codec.Keeps (fun _ => True) (fun _ => True) :=
  ⟨trivial, fun _ _ => trivial, fun _ _ => trivial, fun _ _ => trivial⟩

end Codec

end MetaProtocolProxy
