import Mathlib.Algebra.Group.Nat.Defs
import MetaProtocolProxy.DubboMessage

/-!
# The types of the parameters

The body of a request gives the types of its parameters in one string of JVM descriptors, and
`getParametersNumber` (`hessian_utils.cc`) counts them in one pass over its bytes, with a flag for
the name of a class. Inside a name nothing is counted, whatever its bytes are
(`scan_name`), so between two descriptors the flag is down, and every descriptor counts one
(`scan_descriptors`).
-/

namespace MetaProtocolProxy.Dubbo

namespace HessianUtils

/-- What the loop keeps : the count, and whether it is inside the name of a class. -/
structure Scan where
  count : UInt32 := 0
  next : Bool := false
deriving DecidableEq, Repr

/-- The letters of the primitive types. -/
def primitiveLetters : Bytes :=
  ['V', 'Z', 'B', 'C', 'D', 'F', 'I', 'J', 'S'].map Char.toUInt8

/-- The mark of a dimension of an array. -/
def arrayMark : UInt8 := '['.toUInt8

/-- The mark in front of the name of a class. -/
def objectBegin : UInt8 := 'L'.toUInt8

/-- The mark behind it. -/
def objectEnd : UInt8 := ';'.toUInt8

/-- One turn of the loop. -/
def scan (s : Scan) (ch : UInt8) : Scan :=
  if ch = arrayMark then s
  else if s.next ∧ ch ≠ objectEnd then s
  else if ch ∈ primitiveLetters then { s with count := s.count + 1 }
  else if ch = objectBegin then { count := s.count + 1, next := true }
  else if ch = objectEnd then { s with next := false }
  else s

/-- `getParametersNumber`. -/
def getParametersNumber (parametersType : Bytes) : UInt32 :=
  if parametersType = [] then 0 else (parametersType.foldl scan {}).count

/-- The loop finds nothing in an empty string. -/
theorem getParametersNumber_eq (parametersType : Bytes) :
    getParametersNumber parametersType = (parametersType.foldl scan {}).count := by
  unfold getParametersNumber
  split
  · rename_i h
    rw [h]
    rfl
  · rfl

end HessianUtils

/-! ## Descriptors -/

open HessianUtils

/-- A primitive type, or a class with a name that holds no semicolon. -/
inductive BaseType where
  | primitive (letter : UInt8) (h : letter ∈ primitiveLetters)
  | object (name : Bytes) (h : objectEnd ∉ name)

/-- A JVM type descriptor : an array of so many dimensions of a base type. -/
structure Descriptor where
  dimensions : ℕ
  base : BaseType

/-- The bytes of a type without its dimensions. -/
def BaseType.bytes : BaseType → Bytes
  | .primitive letter _ => [letter]
  | .object name _ => objectBegin :: name ++ [objectEnd]

/-- The bytes of a descriptor. -/
def Descriptor.bytes (descriptor : Descriptor) : Bytes :=
  List.replicate descriptor.dimensions arrayMark ++ descriptor.base.bytes

namespace HessianUtils

theorem scan_arrayMark (s : Scan) : scan s arrayMark = s :=
  if_pos rfl

/-- Outside a name a primitive letter counts. -/
theorem scan_primitive {letter : UInt8} (h : letter ∈ primitiveLetters) (count : UInt32) :
    scan ⟨count, false⟩ letter = ⟨count + 1, false⟩ := by
  have hmark : letter ≠ arrayMark := by
    rintro rfl
    exact absurd h (by decide)
  rw [scan, if_neg hmark, if_neg (by simp), if_pos h]

theorem scan_objectBegin (count : UInt32) :
    scan ⟨count, false⟩ objectBegin = ⟨count + 1, true⟩ := by
  rw [scan, if_neg (by decide), if_neg (by simp), if_neg (by decide), if_pos rfl]

theorem scan_objectEnd (count : UInt32) : scan ⟨count, true⟩ objectEnd = ⟨count, false⟩ := by
  rw [scan, if_neg (by decide), if_neg (by simp), if_neg (by decide), if_neg (by decide),
    if_pos rfl]

theorem scan_dimensions (s : Scan) (n : ℕ) : (List.replicate n arrayMark).foldl scan s = s := by
  induction n with
  | zero => rfl
  | succ n ih => rw [List.replicate_succ, List.foldl_cons, scan_arrayMark, ih]

/-- Inside the name of a class nothing counts, letters and array marks included. -/
theorem scan_name {name : Bytes} (h : objectEnd ∉ name) (count : UInt32) :
    name.foldl scan ⟨count, true⟩ = ⟨count, true⟩ := by
  induction name with
  | nil => rfl
  | cons ch name ih =>
    obtain ⟨hch, hname⟩ := List.ne_and_not_mem_of_not_mem_cons h
    have hstay : scan ⟨count, true⟩ ch = ⟨count, true⟩ := by
      unfold scan
      split
      · rfl
      · rw [if_pos ⟨rfl, Ne.symm hch⟩]
    rw [List.foldl_cons, hstay, ih hname]

theorem scan_base (base : BaseType) (count : UInt32) :
    base.bytes.foldl scan ⟨count, false⟩ = ⟨count + 1, false⟩ := by
  cases base with
  | primitive letter h => exact scan_primitive h count
  | object name h =>
    rw [BaseType.bytes, List.cons_append, List.foldl_cons, scan_objectBegin, List.foldl_append,
      scan_name h, List.foldl_cons, scan_objectEnd, List.foldl_nil]

/-- A descriptor counts one, and leaves the flag down. -/
theorem scan_descriptor (descriptor : Descriptor) (count : UInt32) :
    descriptor.bytes.foldl scan ⟨count, false⟩ = ⟨count + 1, false⟩ := by
  rw [Descriptor.bytes, List.foldl_append, scan_dimensions, scan_base]

theorem scan_descriptors (descriptors : List Descriptor) : ∀ count : UInt32,
    (descriptors.flatMap Descriptor.bytes).foldl scan ⟨count, false⟩ =
      ⟨count + UInt32.ofNat descriptors.length, false⟩ := by
  induction descriptors with
  | nil => simp
  | cons descriptor descriptors ih =>
    intro count
    have hlength : count + 1 + UInt32.ofNat descriptors.length =
        count + UInt32.ofNat (descriptors.length + 1) := by
      rw [UInt32.ofNat_add, UInt32.add_assoc, UInt32.add_comm 1]
      rfl
    rw [List.flatMap_cons, List.foldl_append, scan_descriptor, ih, hlength, List.length_cons]

/-- Up to the range of the counter, the descriptors are counted. -/
theorem getParametersNumber_flatMap (descriptors : List Descriptor) :
    getParametersNumber (descriptors.flatMap Descriptor.bytes) =
      UInt32.ofNat descriptors.length := by
  rw [getParametersNumber_eq, scan_descriptors, UInt32.zero_add]

/-- The number of parameters is that of the descriptors, and those of two lists add up. -/
theorem getParametersNumber_descriptors (descriptors descriptors' : List Descriptor)
    (h : descriptors.length < 2 ^ 32) :
    (getParametersNumber (descriptors.flatMap Descriptor.bytes)).toNat = descriptors.length ∧
      getParametersNumber
          (descriptors.flatMap Descriptor.bytes ++ descriptors'.flatMap Descriptor.bytes) =
        getParametersNumber (descriptors.flatMap Descriptor.bytes) +
          getParametersNumber (descriptors'.flatMap Descriptor.bytes) := by
  constructor
  · rw [getParametersNumber_flatMap]
    exact UInt32.toNat_ofNat_of_lt' h
  · rw [← List.flatMap_append, getParametersNumber_flatMap, getParametersNumber_flatMap,
      getParametersNumber_flatMap, List.length_append, UInt32.ofNat_add]

/-- `[[I` and `LLIZ[;`, and `J`. -/
theorem getParametersNumber_descriptors_names :
    (getParametersNumber ("[[ILLIZ[;".toList.map Char.toUInt8)).toNat = 2 ∧
      getParametersNumber ("[[ILLIZ[;J".toList.map Char.toUInt8) =
        getParametersNumber ("[[ILLIZ[;".toList.map Char.toUInt8) +
          getParametersNumber ("J".toList.map Char.toUInt8) :=
  getParametersNumber_descriptors
    [⟨2, .primitive 'I'.toUInt8 (by decide)⟩,
      ⟨0, .object ("LIZ[".toList.map Char.toUInt8) (by decide)⟩]
    [⟨0, .primitive 'J'.toUInt8 (by decide)⟩] (by decide)

end HessianUtils

end MetaProtocolProxy.Dubbo
