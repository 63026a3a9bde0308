import MetaProtocolProxy.BigEndian
import MetaProtocolProxy.ThriftProtocol

/-!
# The strict binary protocol

A protocol and two transports that do what Envoy's do, to run the codec with. A part of a message
is a header of fixed length that says how long the part is (`Reader.sized`), so nothing is read
before all of it is there, and what is read does not depend on what follows.

The framed transport puts the size of a message in front of it, and the unframed one nothing.
-/

namespace MetaProtocolProxy.Thrift

open BigEndian

/-! ## Parts of known length -/

namespace Reader

variable {π α : Type}

/-- A part of a message : `size` of its first `n` bytes is how long it is, and `parse` is what it
says. -/
def sized (n : ℕ) (size : Bytes → Except String ℕ) (parse : Bytes → Except String α) :
    Reader π α :=
  fun s b =>
    if b.length < n then .ok none
    else
      match size (b.take n) with
      | .error what => .error what
      | .ok m =>
        if b.length < m then .ok none
        else
          match parse (b.take m) with
          | .error what => .error what
          | .ok a => .ok (some (a, s, b.drop m))

/-- A part of a fixed length. -/
def fixed (n : ℕ) (parse : Bytes → Except String α) : Reader π α :=
  sized n (fun _ => .ok n) parse

variable {n : ℕ} {size : Bytes → Except String ℕ} {parse : Bytes → Except String α}

theorem local_sized : (sized n size parse : Reader π α).Local := by
  have htake : ∀ {k : ℕ} {b : Bytes}, ¬b.length < k → ∀ x : Bytes, ¬(b ++ x).length < k ∧
      (b ++ x).take k = b.take k ∧ (b ++ x).drop k = b.drop k ++ x := by
    intro k b hk x
    have hle : k ≤ b.length := Nat.not_lt.mp hk
    refine ⟨?_, List.take_append_of_le_length hle, List.drop_append_of_le_length hle⟩
    rw [List.length_append]
    omega
  constructor
  · intro s b a s' b' h x
    unfold sized at h ⊢
    split at h
    · cases h
    rename_i hn
    obtain ⟨hn', htake', -⟩ := htake hn x
    rw [if_neg hn', htake']
    rcases hsize : size (b.take n) with what | m
    · rw [hsize] at h
      cases h
    · rw [hsize] at h
      dsimp only at h ⊢
      split at h
      · cases h
      rename_i hm
      obtain ⟨hm', htakem, hdrop⟩ := htake hm x
      rw [if_neg hm', htakem, hdrop]
      rcases hparse : parse (b.take m) with what | a'
      · rw [hparse] at h
        cases h
      · rw [hparse] at h
        cases h
        rfl
  · intro s b what h x
    unfold sized at h ⊢
    split at h
    · cases h
    rename_i hn
    obtain ⟨hn', htake', -⟩ := htake hn x
    rw [if_neg hn', htake']
    rcases hsize : size (b.take n) with what' | m
    · rw [hsize] at h
      cases h
      rfl
    · rw [hsize] at h
      dsimp only at h ⊢
      split at h
      · cases h
      rename_i hm
      obtain ⟨hm', htakem, -⟩ := htake hm x
      rw [if_neg hm', htakem]
      rcases hparse : parse (b.take m) with what' | a'
      · rw [hparse] at h
        cases h
        rfl
      · rw [hparse] at h
        cases h

/-- What has been read is as long as its header says. -/
theorem of_sized {s s' : π} {b b' : Bytes} {a : α}
    (h : sized n size parse s b = .ok (some (a, s', b'))) :
    ∃ m, size (b.take n) = .ok m ∧ m ≤ b.length ∧ b' = b.drop m ∧ parse (b.take m) = .ok a := by
  unfold sized at h
  split at h
  · cases h
  rcases hsize : size (b.take n) with what | m
  · rw [hsize] at h
    cases h
  · rw [hsize] at h
    dsimp only at h
    split at h
    · cases h
    rename_i hm
    rcases hparse : parse (b.take m) with what | a'
    · rw [hparse] at h
      cases h
    · rw [hparse] at h
      cases h
      exact ⟨m, rfl, Nat.not_lt.mp hm, rfl, hparse⟩

theorem drains_sized : (sized n size parse : Reader π α).Drains := by
  intro s b a s' b' h
  obtain ⟨m, -, -, rfl, -⟩ := of_sized h
  rw [List.length_drop]
  exact Nat.sub_le _ _

theorem consumes_sized (hpos : ∀ header m, size header = .ok m → 0 < m) :
    (sized n size parse : Reader π α).Consumes := by
  intro s b a s' b' h
  obtain ⟨m, hsize, hm, rfl, -⟩ := of_sized h
  have hlt := hpos _ _ hsize
  rw [List.length_drop]
  omega

theorem local_fixed : (fixed n parse : Reader π α).Local :=
  local_sized

theorem drains_fixed : (fixed n parse : Reader π α).Drains :=
  drains_sized

theorem consumes_fixed (hpos : 0 < n) : (fixed n parse : Reader π α).Consumes :=
  consumes_sized fun _ _ h => by cases h; exact hpos

/-- A whole part is read, and what follows it is left. -/
theorem sized_append {x : Bytes} {a : α} (hn : n ≤ x.length)
    (hsize : size (x.take n) = .ok x.length)
    (hparse : parse x = .ok a) (s : π) (rest : Bytes) :
    sized n size parse s (x ++ rest) = .ok (some (a, s, rest)) := by
  have hlength : ¬(x ++ rest).length < x.length := by simp
  unfold sized
  rw [if_neg (by rw [List.length_append]; omega), List.take_append_of_le_length hn, hsize]
  dsimp only
  rw [if_neg hlength, List.take_left, hparse, List.drop_left]

theorem fixed_append {x : Bytes} {a : α} (hn : x.length = n) (hparse : parse x = .ok a) (s : π)
    (rest : Bytes) : fixed n parse s (x ++ rest) = .ok (some (a, s, rest)) :=
  sized_append (Nat.le_of_eq hn.symm) (by rw [hn]) hparse s rest

/-- A part that is empty. -/
theorem local_ok (a : α) : Reader.Local fun (s : π) b => .ok (some (a, s, b)) :=
  ⟨fun h x => by cases h; rfl, fun h => by cases h⟩

theorem drains_ok (a : α) : Reader.Drains fun (s : π) b => .ok (some (a, s, b)) :=
  fun h => by cases h; exact Nat.le_refl _

end Reader

/-! ## The protocol -/

/-- The number of a message type. -/
def MessageType.toUInt8 : MessageType → UInt8
  | .call => 1
  | .reply => 2
  | .exception => 3
  | .oneway => 4

/-- The message type of a number, which may be none. -/
def MessageType.ofUInt8 (value : UInt8) : Option MessageType :=
  match value.toNat with
  | 1 => some .call
  | 2 => some .reply
  | 3 => some .exception
  | 4 => some .oneway
  | _ => none

namespace BinaryProtocol

/-- The length in the four bytes from `off`, behind `n` bytes. -/
def sizeAt (off n : ℕ) (header : Bytes) : Except String ℕ :=
  .ok (n + peek 4 off header)

/-- The version and the type of a message are checked before its name is waited for. -/
def sizeMessageBegin (header : Bytes) : Except String ℕ :=
  if peek 2 0 header ≠ 0x8001 then .error s!"invalid binary protocol version {peek 2 0 header}"
  else
    match MessageType.ofUInt8 (header.getD 3 0) with
    | none => .error s!"invalid binary protocol message type {(header.getD 3 0).toInt8}"
    | some _ => sizeAt 4 12 header

/-- The type, the name and the number of a message. -/
def parseMessageBegin (metadata : MessageMetadata) (bytes : Bytes) :
    Except String MessageMetadata :=
  .ok { metadata with
    methodName := some ((bytes.drop 8).take (peek 4 4 bytes))
    messageType := MessageType.ofUInt8 (bytes.getD 3 0)
    sequenceId := some (UInt32.ofNat (peek 4 (8 + peek 4 4 bytes) bytes)).toInt32 }

/-- The length of a field begin : a stop has no id behind it. -/
def sizeFieldBegin (header : Bytes) : Except String ℕ :=
  if header = [FieldType.stop.toUInt8] then .ok 1 else .ok 3

/-- The type and the id of a field. A stop has the id 0. -/
def parseFieldBegin : Bytes → Except String (Bytes × FieldType × Int16)
  | [_] => .ok ([], .stop, 0)
  | type :: id =>
    let id := (UInt16.ofNat (ofBytes id)).toInt16
    if id < 0 then .error s!"invalid binary protocol field id {id}"
    else .ok ([], .ofUInt8 type, id)
  | [] => .error ""

/-- A size, which is not negative. -/
def parseSize (bytes : Bytes) : Except String UInt32 :=
  if 2 ^ 31 ≤ ofBytes bytes then .error "negative binary protocol size"
  else .ok (UInt32.ofNat (ofBytes bytes))

/-- The types of the keys and values of a map, and its size. -/
def parseMapBegin (bytes : Bytes) : Except String (FieldType × FieldType × UInt32) :=
  (parseSize (bytes.drop 2)).map fun size =>
    (.ofUInt8 (bytes.getD 0 0), .ofUInt8 (bytes.getD 1 0), size)

/-- The type of the elements of a list or a set, and its size. -/
def parseListBegin (bytes : Bytes) : Except String (FieldType × UInt32) :=
  (parseSize (bytes.drop 1)).map fun size => (.ofUInt8 (bytes.getD 0 0), size)

/-- A boolean of one byte. -/
def parseBool (bytes : Bytes) : Except String Bool :=
  .ok (ofBytes bytes ≠ 0)

/-- A byte. -/
def parseByte (bytes : Bytes) : Except String UInt8 :=
  .ok (UInt8.ofNat (ofBytes bytes))

/-- A number of two bytes. -/
def parseInt16 (bytes : Bytes) : Except String Int16 :=
  .ok (UInt16.ofNat (ofBytes bytes)).toInt16

/-- A number of four bytes. -/
def parseInt32 (bytes : Bytes) : Except String Int32 :=
  .ok (UInt32.ofNat (ofBytes bytes)).toInt32

/-- A number of eight bytes. -/
def parseInt64 (bytes : Bytes) : Except String Int64 :=
  .ok (UInt64.ofNat (ofBytes bytes)).toInt64

/-- A double, as its eight bytes. -/
def parseDouble (bytes : Bytes) : Except String UInt64 :=
  .ok (UInt64.ofNat (ofBytes bytes))

/-- A string behind its length. -/
def parseString (bytes : Bytes) : Except String Bytes :=
  .ok (bytes.drop 4)

/-- The strict binary protocol. Names of structs and fields are not written. -/
def protocol : Protocol Unit where
  type _ := .binary
  setType _ s := s
  readMessageBegin metadata := .sized 12 sizeMessageBegin (parseMessageBegin metadata)
  readMessageEnd s b := .ok (some ((), s, b))
  readStructBegin s b := .ok (some ([], s, b))
  readStructEnd s b := .ok (some ((), s, b))
  readFieldBegin := .sized 1 sizeFieldBegin parseFieldBegin
  readFieldEnd s b := .ok (some ((), s, b))
  readMapBegin := .fixed 6 parseMapBegin
  readMapEnd s b := .ok (some ((), s, b))
  readListBegin := .fixed 5 parseListBegin
  readListEnd s b := .ok (some ((), s, b))
  readSetBegin := .fixed 5 parseListBegin
  readSetEnd s b := .ok (some ((), s, b))
  readBool := .fixed 1 parseBool
  readByte := .fixed 1 parseByte
  readInt16 := .fixed 2 parseInt16
  readInt32 := .fixed 4 parseInt32
  readInt64 := .fixed 8 parseInt64
  readDouble := .fixed 8 parseDouble
  readString := .sized 4 (sizeAt 0 4) parseString
  writeMessageBegin _ metadata :=
    toBytes 2 0x8001 ++ [0, (metadata.messageType.getD .call).toUInt8] ++
      toBytes 4 (metadata.methodName.getD []).length ++ metadata.methodName.getD [] ++
      toBytes 4 (metadata.sequenceId.getD 0).toUInt32.toNat
  writeMessageEnd _ := []
  writeStructBegin _ _ := []
  writeStructEnd _ := []
  writeFieldBegin _ _ type id :=
    if type = .stop then [FieldType.stop.toUInt8] else type.toUInt8 :: toBytes 2 id.toUInt16.toNat
  writeFieldEnd _ := []
  writeMapBegin _ keyType valueType size :=
    [keyType.toUInt8, valueType.toUInt8] ++ toBytes 4 size.toNat
  writeMapEnd _ := []
  writeListBegin _ elemType size := elemType.toUInt8 :: toBytes 4 size.toNat
  writeListEnd _ := []
  writeSetBegin _ elemType size := elemType.toUInt8 :: toBytes 4 size.toNat
  writeSetEnd _ := []
  writeBool _ value := toBytes 1 value.toNat
  writeByte _ value := toBytes 1 value.toNat
  writeInt16 _ value := toBytes 2 value.toUInt16.toNat
  writeInt32 _ value := toBytes 4 value.toUInt32.toNat
  writeInt64 _ value := toBytes 8 value.toUInt64.toNat
  writeDouble _ bits := toBytes 8 bits.toNat
  writeString _ value := toBytes 4 value.length ++ value

/-! ### What the codec relies on -/

theorem local_protocol : protocol.Local where
  readMessageBegin metadata :=
    @Reader.local_sized _ _ 12 sizeMessageBegin (parseMessageBegin metadata)
  readMessageEnd := Reader.local_ok _
  readStructBegin := Reader.local_ok _
  readStructEnd := Reader.local_ok _
  readFieldBegin := Reader.local_sized
  readFieldEnd := Reader.local_ok _
  readMapBegin := Reader.local_fixed
  readMapEnd := Reader.local_ok _
  readListBegin := Reader.local_fixed
  readListEnd := Reader.local_ok _
  readSetBegin := Reader.local_fixed
  readSetEnd := Reader.local_ok _
  readBool := @Reader.local_fixed _ _ 1 parseBool
  readByte := @Reader.local_fixed _ _ 1 parseByte
  readInt16 := @Reader.local_fixed _ _ 2 parseInt16
  readInt32 := @Reader.local_fixed _ _ 4 parseInt32
  readInt64 := @Reader.local_fixed _ _ 8 parseInt64
  readDouble := @Reader.local_fixed _ _ 8 parseDouble
  readString := @Reader.local_sized _ _ 4 (sizeAt 0 4) parseString

theorem sizeMessageBegin_ok {header : Bytes} {m : ℕ} (h : sizeMessageBegin header = .ok m) :
    12 ≤ m ∧ MessageType.ofUInt8 (header.getD 3 0) ≠ none := by
  unfold sizeMessageBegin at h
  split at h
  · cases h
  split at h
  · cases h
  rename_i type htype
  cases h
  exact ⟨Nat.le_add_right _ _, by rw [htype]; simp⟩

theorem progress_protocol : protocol.Progress where
  readMessageBegin metadata :=
    @Reader.consumes_sized _ _ 12 sizeMessageBegin (parseMessageBegin metadata) fun _ _ h =>
      Nat.lt_of_lt_of_le (by decide) (sizeMessageBegin_ok h).1
  readMessageEnd := Reader.drains_ok _
  readStructBegin := Reader.drains_ok _
  readStructEnd := Reader.drains_ok _
  readFieldBegin := Reader.consumes_sized fun header m h => by
    unfold sizeFieldBegin at h
    split at h <;> cases h <;> decide
  readFieldEnd := Reader.drains_ok _
  readMapBegin := Reader.consumes_fixed (by decide)
  readMapEnd := Reader.drains_ok _
  readListBegin := Reader.consumes_fixed (by decide)
  readListEnd := Reader.drains_ok _
  readSetBegin := Reader.consumes_fixed (by decide)
  readSetEnd := Reader.drains_ok _
  readBool := @Reader.drains_fixed _ _ 1 parseBool
  readByte := @Reader.drains_fixed _ _ 1 parseByte
  readInt16 := @Reader.drains_fixed _ _ 2 parseInt16
  readInt32 := @Reader.drains_fixed _ _ 4 parseInt32
  readInt64 := @Reader.drains_fixed _ _ 8 parseInt64
  readDouble := @Reader.drains_fixed _ _ 8 parseDouble
  readString := @Reader.drains_sized _ _ 4 (sizeAt 0 4) parseString

theorem typed_protocol : protocol.Typed := by
  intro metadata s b metadata' s' b' h
  obtain ⟨m, hsize, -, -, hparse⟩ :=
    @Reader.of_sized _ _ 12 sizeMessageBegin (parseMessageBegin metadata) _ _ _ _ _ h
  obtain ⟨hm, htype⟩ := sizeMessageBegin_ok hsize
  cases hparse
  have hbyte : (b.take m).getD 3 0 = (b.take 12).getD 3 0 := by
    simp only [List.getD_eq_getElem?_getD]
    rw [List.getElem?_take_of_lt (by omega), List.getElem?_take_of_lt (by omega)]
  rw [hbyte]
  exact htype

/-! ### Reading what was written -/

/-- A number in a part of a fixed length. -/
theorem fixed_toBytes {α : Type} (n value : ℕ) (parse : Bytes → Except String α) {a : α}
    (hvalue : value < 256 ^ n) (hparse : ∀ bytes, ofBytes bytes = value → parse bytes = .ok a)
    (s : Unit) (rest : Bytes) :
    Reader.fixed n parse s (toBytes n value ++ rest) = .ok (some (a, s, rest)) :=
  Reader.fixed_append (length_toBytes n value) (hparse _ (ofBytes_toBytes hvalue)) s rest

theorem parseSize_toBytes {size : UInt32} (h : size.toNat < 2 ^ 31) :
    parseSize (toBytes 4 size.toNat) = .ok size := by
  have hvalue : ofBytes (toBytes 4 size.toNat) = size.toNat := ofBytes_toBytes size.toNat_lt
  rw [parseSize, hvalue, if_neg (Nat.not_le.mpr h), UInt32.ofNat_toNat]

theorem fixed_listBegin (elemType : FieldType) {size : UInt32} (h : size.toNat < 2 ^ 31) (s : Unit)
    (rest : Bytes) :
    Reader.fixed 5 parseListBegin s (elemType.toUInt8 :: toBytes 4 size.toNat ++ rest) =
      .ok (some ((elemType, size), s, rest)) := by
  refine Reader.fixed_append (by simp) ?_ s rest
  rw [parseListBegin, List.drop_one, List.tail_cons, parseSize_toBytes h]
  simp [Except.map]

theorem sized_string {value : Bytes} (h : value.length < 256 ^ 4) (s : Unit) (rest : Bytes) :
    Reader.sized 4 (sizeAt 0 4) parseString s (toBytes 4 value.length ++ value ++ rest) =
      .ok (some (value, s, rest)) := by
  refine Reader.sized_append (by simp) ?_ ?_ s rest
  · have hpeek := peek_toBytes h []
    rw [List.append_nil] at hpeek
    rw [List.take_left' (by simp), sizeAt, hpeek]
    simp
  · rw [parseString, List.drop_left' (by simp)]

theorem fixed_mapBegin (keyType valueType : FieldType) {size : UInt32} (h : size.toNat < 2 ^ 31)
    (s : Unit) (rest : Bytes) :
    Reader.fixed 6 parseMapBegin s
        ([keyType.toUInt8, valueType.toUInt8] ++ toBytes 4 size.toNat ++ rest) =
      .ok (some ((keyType, valueType, size), s, rest)) := by
  have hdrop : ([keyType.toUInt8, valueType.toUInt8] ++ toBytes 4 size.toNat).drop 2 =
      toBytes 4 size.toNat := rfl
  refine Reader.fixed_append (by simp) ?_ s rest
  rw [parseMapBegin, hdrop, parseSize_toBytes h]
  simp [Except.map]

theorem parseFieldBegin_cons {type : UInt8} {id : Bytes} (h : id ≠ []) :
    parseFieldBegin (type :: id) =
      if (UInt16.ofNat (ofBytes id)).toInt16 < 0 then
        .error s!"invalid binary protocol field id {(UInt16.ofNat (ofBytes id)).toInt16}"
      else .ok ([], .ofUInt8 type, (UInt16.ofNat (ofBytes id)).toInt16) := by
  cases id with
  | nil => exact absurd rfl h
  | cons b id => rfl

/-- The begin of a field, unless it is the last one. -/
theorem sized_fieldBegin {type : FieldType} {id : Int16} (htype : type ≠ .stop) (hid : 0 ≤ id)
    (s : Unit) (rest : Bytes) :
    Reader.sized 1 sizeFieldBegin parseFieldBegin s
        (type.toUInt8 :: toBytes 2 id.toUInt16.toNat ++ rest) =
      .ok (some (([], type, id), s, rest)) := by
  have hbyte : type.toUInt8 ≠ FieldType.stop.toUInt8 := fun h => htype (by
    rw [← FieldType.ofUInt8_toUInt8 type, h, FieldType.ofUInt8_toUInt8])
  have hvalue : ofBytes (toBytes 2 id.toUInt16.toNat) = id.toUInt16.toNat :=
    ofBytes_toBytes id.toUInt16.toNat_lt
  refine Reader.sized_append (by simp) ?_ ?_ s rest
  · rw [List.take_succ_cons, List.take_zero, sizeFieldBegin, if_neg (by simpa using hbyte)]
    simp
  · rw [parseFieldBegin_cons (by simp [toBytes]), hvalue, UInt16.ofNat_toNat,
      Int16.toInt16_toUInt16, if_neg (Int16.not_lt.mpr hid), FieldType.ofUInt8_toUInt8]

@[simp] theorem MessageType.ofUInt8_toUInt8 (type : MessageType) :
    MessageType.ofUInt8 type.toUInt8 = some type := by
  cases type <;> rfl

theorem sized_messageBegin (metadata : MessageMetadata) {name : Bytes}
    (hlength : name.length < 256 ^ 4) (sequenceId : Int32) (type : MessageType) (s : Unit)
    (rest : Bytes) :
    Reader.sized 12 sizeMessageBegin (parseMessageBegin metadata) s
        (toBytes 2 0x8001 ++ [0, type.toUInt8] ++ toBytes 4 name.length ++ name ++
          toBytes 4 sequenceId.toUInt32.toNat ++ rest) =
      .ok (some ({ metadata with
        methodName := some name, sequenceId := some sequenceId, messageType := some type },
        s, rest)) := by
  generalize hx : toBytes 2 0x8001 ++ [0, type.toUInt8] ++ toBytes 4 name.length ++ name ++
    toBytes 4 sequenceId.toUInt32.toNat = x
  have hlen : x.length = 12 + name.length := by
    rw [← hx]
    simp only [List.length_append, length_toBytes, List.length_cons, List.length_nil]
    omega
  have hversion : peek 2 0 x = 0x8001 := by
    rw [← hx]
    rfl
  have htype : x.getD 3 0 = type.toUInt8 := by
    rw [← hx]
    rfl
  have hsize : peek 4 4 x = name.length := by
    rw [← hx, List.append_assoc, List.append_assoc, peek_append_right (by simp),
      peek_toBytes hlength]
  have hname : (x.drop 8).take name.length = name := by
    rw [← hx, List.append_assoc, List.drop_left' (by simp), List.take_left]
  have hid : peek 4 (8 + name.length) x = sequenceId.toUInt32.toNat := by
    rw [← hx, peek_append_right (by simp; omega), ← List.append_nil (toBytes _ _),
      peek_toBytes sequenceId.toUInt32.toNat_lt]
  refine Reader.sized_append (by omega) ?_ ?_ s rest
  · have htype' : (x.take 12).getD 3 0 = type.toUInt8 := by
      rw [← htype, List.getD_eq_getElem?_getD, List.getD_eq_getElem?_getD,
        List.getElem?_take_of_lt (by decide)]
    rw [sizeMessageBegin, peek_take (by decide), hversion, if_neg (by simp), htype',
      MessageType.ofUInt8_toUInt8]
    dsimp only
    rw [sizeAt, peek_take (by decide), hsize, hlen]
  · rw [parseMessageBegin, hsize, hname, hid, htype, MessageType.ofUInt8_toUInt8,
      UInt32.ofNat_toNat, Int32.toInt32_toUInt32]

theorem roundTrip_protocol : protocol.RoundTrip () () where
  messageBegin metadata written name sequenceId type rest hname hid htype hlength := by
    have hbegin := sized_messageBegin metadata (Nat.lt_trans hlength (by decide)) sequenceId type ()
      rest
    simp only [protocol, hname, hid, htype, Option.getD_some]
    exact hbegin
  messageHeader := by
    intro written written' hname hid htype
    simp only [protocol, hname, hid, htype]
  messageEnd _ := rfl
  structBegin name rest := ⟨[], rfl, rfl⟩
  structEnd _ := rfl
  fieldBegin name type id rest htype hid := by
    refine ⟨[], ?_, rfl⟩
    change protocol.readFieldBegin () ((if type = .stop then _ else _) ++ rest) = _
    rw [if_neg htype]
    exact sized_fieldBegin htype hid () rest
  fieldStop rest := by
    have hstop := @Reader.sized_append _ _ 1 sizeFieldBegin parseFieldBegin
      [FieldType.stop.toUInt8] ([], .stop, 0) (Nat.le_refl 1) rfl rfl () rest
    exact ⟨[], 0, hstop⟩
  fieldEnd _ := rfl
  mapBegin keyType valueType size rest h := by
    simpa only [protocol] using fixed_mapBegin keyType valueType h () rest
  mapEnd _ := rfl
  listBegin elemType size rest h := by
    simpa only [protocol] using fixed_listBegin elemType h () rest
  listEnd _ := rfl
  setBegin elemType size rest h := by
    simpa only [protocol] using fixed_listBegin elemType h () rest
  setEnd _ := rfl
  bool value rest := by
    simp only [protocol]
    refine fixed_toBytes 1 value.toNat parseBool (by cases value <;> decide) (fun bytes h => ?_) ()
      rest
    rw [parseBool, h]
    cases value <;> rfl
  byte value rest := by
    simp only [protocol]
    exact fixed_toBytes 1 value.toNat parseByte value.toNat_lt
      (fun bytes h => by rw [parseByte, h, UInt8.ofNat_toNat]) () rest
  int16 value rest := by
    simp only [protocol]
    exact fixed_toBytes 2 value.toUInt16.toNat parseInt16 value.toUInt16.toNat_lt
      (fun bytes h => by rw [parseInt16, h, UInt16.ofNat_toNat, Int16.toInt16_toUInt16]) () rest
  int32 value rest := by
    simp only [protocol]
    exact fixed_toBytes 4 value.toUInt32.toNat parseInt32 value.toUInt32.toNat_lt
      (fun bytes h => by rw [parseInt32, h, UInt32.ofNat_toNat, Int32.toInt32_toUInt32]) () rest
  int64 value rest := by
    simp only [protocol]
    exact fixed_toBytes 8 value.toUInt64.toNat parseInt64 value.toUInt64.toNat_lt
      (fun bytes h => by rw [parseInt64, h, UInt64.ofNat_toNat, Int64.toInt64_toUInt64]) () rest
  double bits rest := by
    simp only [protocol]
    exact fixed_toBytes 8 bits.toNat parseDouble bits.toNat_lt
      (fun bytes h => by rw [parseDouble, h, UInt64.ofNat_toNat]) () rest
  string value rest hlength := by
    simpa only [protocol] using sized_string (Nat.lt_trans hlength (by decide)) () rest

end BinaryProtocol

/-! ## The transports -/

namespace FramedTransport

/-- The largest frame. -/
def maxFrameSize : ℕ :=
  0xFA0000

/-- The size in front of a frame. -/
def parseFrameStart (metadata : MessageMetadata) (bytes : Bytes) :
    Except String MessageMetadata :=
  if ofBytes bytes = 0 ∨ maxFrameSize < ofBytes bytes then
    .error s!"invalid thrift framed transport frame size {ofBytes bytes}"
  else .ok { metadata with frameSize := some (UInt32.ofNat (ofBytes bytes)) }

/-- A frame around a message. -/
def frame (message : Bytes) : Bytes :=
  toBytes 4 message.length ++ message

/-- The size of a message stands in front of it. -/
def transport : Transport Unit where
  decodeFrameStart metadata := .fixed 4 (parseFrameStart metadata)
  decodeFrameEnd s b := .ok (some ((), s, b))
  encodeFrame _ _ message :=
    if message = [] ∨ maxFrameSize < message.length then
      .error s!"invalid thrift framed transport frame size {message.length}"
    else .ok (frame message)

theorem local_transport : transport.Local where
  decodeFrameStart _ := Reader.local_fixed
  decodeFrameEnd := Reader.local_ok _

theorem progress_transport : transport.Progress where
  decodeFrameStart _ := Reader.drains_fixed
  decodeFrameEnd := Reader.drains_ok _

theorem decodeFrameStart_toBytes {n : ℕ} (hpos : n ≠ 0) (hmax : n ≤ maxFrameSize)
    (metadata : MessageMetadata) (s : Unit) (rest : Bytes) :
    transport.decodeFrameStart metadata s (toBytes 4 n ++ rest) =
      .ok (some ({ metadata with frameSize := some (UInt32.ofNat n) }, s, rest)) := by
  have hlt : n < 256 ^ 4 := Nat.lt_of_le_of_lt hmax (by decide)
  have hparse : parseFrameStart metadata (toBytes 4 n) =
      .ok { metadata with frameSize := some (UInt32.ofNat n) } := by
    rw [parseFrameStart, ofBytes_toBytes hlt, if_neg (not_or.mpr ⟨hpos, Nat.not_lt.mpr hmax⟩)]
  exact Reader.fixed_append (length_toBytes 4 _) hparse s rest

theorem decodeFrameStart_frame {message : Bytes} (hpos : message ≠ [])
    (hmax : message.length ≤ maxFrameSize) (metadata : MessageMetadata) (s : Unit) (rest : Bytes) :
    transport.decodeFrameStart metadata s (frame message ++ rest) =
      .ok (some ({ metadata with frameSize := some (UInt32.ofNat message.length) }, s,
        message ++ rest)) := by
  rw [frame, List.append_assoc]
  exact decodeFrameStart_toBytes (mt List.length_eq_zero_iff.mp hpos) hmax metadata s _

theorem encodeFrame_eq {message : Bytes} (hpos : message ≠ [])
    (hmax : message.length ≤ maxFrameSize) (s : Unit) (metadata : MessageMetadata) :
    transport.encodeFrame s metadata message = .ok (frame message) :=
  if_neg (not_or.mpr ⟨hpos, Nat.not_lt.mpr hmax⟩)

end FramedTransport

namespace UnframedTransport

/-- Nothing stands in front of a message or behind it. -/
def transport : Transport Unit where
  decodeFrameStart metadata s b := if b = [] then .ok none else .ok (some (metadata, s, b))
  decodeFrameEnd s b := .ok (some ((), s, b))
  encodeFrame _ _ message := .ok message

end UnframedTransport

/-! ## An example -/

namespace ThriftExample

/-- A call of `m`, with no arguments. -/
def call (sequenceId : Int32) : Bytes :=
  BinaryProtocol.protocol.writeMessageBegin ()
      { methodName := some [0x6d], sequenceId := some sequenceId, messageType := some .call } ++
    BinaryProtocol.protocol.writeFieldBegin () [] .stop 0

end ThriftExample

end MetaProtocolProxy.Thrift
