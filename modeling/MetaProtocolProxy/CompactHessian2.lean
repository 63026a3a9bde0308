import MetaProtocolProxy.DubboCodec
import MetaProtocolProxy.Hessian2Objects

/-!
# The compact forms of Hessian2

A reader and a writer for the short forms of the Hessian2 grammar : an integer in one
byte (`x80` to `xbf`, around `x90`) or in two (`xc0` to `xcf`, around `xc8`), and a string
of at most 31 ASCII characters behind its length. Of the objects it reads these two, and an
untyped map of strings (`H`, the entries, `Z`). Every other form reads as null.

They satisfy what the codec assumes of the library (`compact_local`,
`compact_roundTrip`), and are small enough to run.
-/

namespace MetaProtocolProxy.Dubbo

namespace CompactHessian2

/-- A string in its short form. -/
def decodeString : Bytes → Option String × ℕ
  | [] => (none, 0)
  | n :: rest =>
    if n.toNat < 32 ∧ n.toNat ≤ rest.length ∧ (rest.take n.toNat).all (·.toNat < 128) = true then
      (some (String.ofList ((rest.take n.toNat).map fun b => Char.ofNat b.toNat)), n.toNat + 1)
    else (none, 0)

/-- An integer in one or two bytes. -/
def decodeInt32 : Bytes → Option Int32 × ℕ
  | [] => (none, 0)
  | c :: rest =>
    if 0x80 ≤ c.toNat ∧ c.toNat ≤ 0xbf then (some (Int32.ofInt (c.toNat - 0x90)), 1)
    else
      match rest with
      | [] => (none, 0)
      | b :: _ =>
        if 0xc0 ≤ c.toNat ∧ c.toNat ≤ 0xcf then
          (some (Int32.ofInt ((c.toNat - 0xc8) * 256 + b.toNat)), 2)
        else (none, 0)

/-- A number of a byte, in one byte where it is small. -/
def encodeUInt8 (value : UInt8) : Bytes :=
  if value.toNat ≤ 47 then [0x90 + value] else [0xc8, value]

/-- The bytes of a string behind its length, in the shortest of the three forms. -/
def encodeString (value : String) : Bytes :=
  let bytes := value.toList.flatMap String.utf8EncodeChar
  let n := value.length
  if n < 32 then UInt8.ofNat n :: bytes
  else if n < 1024 then UInt8.ofNat (0x30 + n / 256) :: UInt8.ofNat n :: bytes
  else 0x53 :: UInt8.ofNat (n / 256) :: UInt8.ofNat n :: bytes

end CompactHessian2

/-- The compact forms, as a Hessian2 library. -/
def Hessian2.compact : Hessian2 where
  decodeString := CompactHessian2.decodeString
  decodeInt32 := CompactHessian2.decodeInt32
  encodeUInt8 := CompactHessian2.encodeUInt8
  encodeString := CompactHessian2.encodeString

theorem Hessian2.compact_local : Hessian2.compact.Local where
  decodeString := by
    intro b value n h
    simp only [Hessian2.compact] at h ⊢
    cases b with
    | nil => cases h
    | cons k rest =>
      simp only [CompactHessian2.decodeString] at h
      split_ifs at h with hk
      · cases h
        refine ⟨by simpa using hk.2.1, fun c hc hlen => ?_⟩
        cases c with
        | nil => simp at hlen
        | cons k' rest' =>
          obtain ⟨rfl, htake⟩ : k = k' ∧ rest.take k.toNat = rest'.take k.toNat := by
            simpa using hc
          have hlen' : k.toNat ≤ rest'.length := by simpa using hlen
          rw [CompactHessian2.decodeString, if_pos ⟨hk.1, hlen', htake ▸ hk.2.2⟩, htake]
      · cases h
  decodeInt32 := by
    intro b value n h
    simp only [Hessian2.compact] at h ⊢
    rcases b with _ | ⟨k, _ | ⟨l, rest⟩⟩
    · cases h
    · simp only [CompactHessian2.decodeInt32] at h
      split_ifs at h with hk
      · cases h
        refine ⟨by simp, fun c hc hlen => ?_⟩
        cases c with
        | nil => simp at hlen
        | cons k' rest' =>
          obtain rfl : k = k' := by simpa using hc
          simp only [CompactHessian2.decodeInt32, if_pos hk]
      · cases h
    · simp only [CompactHessian2.decodeInt32] at h
      split_ifs at h with hk hk'
      · cases h
        refine ⟨by simp, fun c hc hlen => ?_⟩
        cases c with
        | nil => simp at hlen
        | cons k' rest' =>
          obtain rfl : k = k' := by simpa using hc
          simp only [CompactHessian2.decodeInt32, if_pos hk]
      · cases h
        refine ⟨by simp, fun c hc hlen => ?_⟩
        rcases c with _ | ⟨k', _ | ⟨l', rest'⟩⟩
        · simp at hlen
        · simp at hlen
        · obtain ⟨rfl, rfl⟩ : k = k' ∧ l = l' := by simpa using hc
          simp only [CompactHessian2.decodeInt32, if_neg hk, if_pos hk']
      · cases h

theorem Hessian2.compact_roundTrip : Hessian2.compact.RoundTrip where
  decodeInt32_encodeUInt8 := by
    intro value rest
    have hvalue : value.toNat < 256 := value.toNat_lt
    simp only [Hessian2.compact, CompactHessian2.encodeUInt8]
    by_cases h : value.toNat ≤ 47
    · have hsum : (0x90 + value).toNat = 0x90 + value.toNat := by
        rw [UInt8.toNat_add]
        exact Nat.mod_eq_of_lt (by simp; omega)
      rw [if_pos h]
      simp only [List.cons_append, List.nil_append, CompactHessian2.decodeInt32, hsum,
        if_pos (show 0x80 ≤ 0x90 + value.toNat ∧ 0x90 + value.toNat ≤ 0xbf by omega)]
      simp [Int32.ofInt_eq_ofNat]
    · rw [if_neg h]
      simp [CompactHessian2.decodeInt32, Int32.ofInt_eq_ofNat]

/-! ## Objects -/

/-- The objects that are read : strings, numbers, and maps of strings. -/
inductive CompactObject where
  | string (value : String)
  | integer (value : Int32)
  | untypedMap (entries : List (String × String))
deriving DecidableEq, Repr

namespace CompactObject

/-- The text of a string object. -/
def toString : CompactObject → Option String
  | .string value => some value
  | _ => none

/-- The entries are emplaced one after the other. -/
def toUntypedMap : CompactObject → Option (UntypedMap toString)
  | .untypedMap entries =>
    some (entries.foldl (fun map e => map.emplaceEntry e.1 (.string e.1, .string e.2) rfl) {})
  | _ => none

end CompactObject

namespace CompactHessian2

/-- The entries of a map up to its end, at most `fuel` of them. -/
def decodeEntries : ℕ → Bytes → Option (List (String × String)) × ℕ
  | 0, _ => (none, 0)
  | fuel + 1, bytes =>
    if bytes.head? = some 0x5a then (some [], 1)
    else
      match decodeString bytes with
      | (none, n) => (none, n)
      | (some key, n) =>
        match decodeString (bytes.drop n) with
        | (none, m) => (none, n + m)
        | (some value, m) =>
          match decodeEntries fuel (bytes.drop (n + m)) with
          | (some entries, k) => (some ((key, value) :: entries), n + m + k)
          | (none, k) => (none, n + m + k)

/-- An object in front of the bytes, with its length. -/
def decodeObject (bytes : Bytes) : Option CompactObject × ℕ :=
  if bytes.head? = some 0x48 then
    let (entries, n) := decodeEntries bytes.length (bytes.drop 1)
    (entries.map .untypedMap, n + 1)
  else
    match decodeString bytes with
    | (some value, n) => (some (.string value), n)
    | (none, _) =>
      let (value, n) := decodeInt32 bytes
      (value.map .integer, n)

end CompactHessian2

/-- The objects of the compact forms. -/
def Hessian2.compactObjects : Hessian2.Objects CompactObject where
  decodeObject := CompactHessian2.decodeObject
  ofString := .string
  toString := CompactObject.toString
  toUntypedMap := CompactObject.toUntypedMap
  toString_ofString _ := rfl

end MetaProtocolProxy.Dubbo
