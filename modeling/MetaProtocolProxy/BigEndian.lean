import Mathlib.Data.List.Induction
import Mathlib.Tactic.Ring

/-!
# Big-endian numbers in byte strings

`ofBytes` reads a byte string as a number, most significant byte first, and
`toBytes k n` writes the low `k` bytes of `n`. Reading what was written gives the
number back as long as it fits (`ofBytes_toBytes`). `peek` reads a number in the middle
of a byte string without removing it : it sees nothing behind its own bytes
(`peek_append`, `peek_take`).
-/

namespace BigEndian

/-- The number a byte string denotes, most significant byte first. -/
def ofBytes (bs : List UInt8) : ℕ :=
  bs.foldl (fun acc b => acc * 256 + b.toNat) 0

/-- The low `k` bytes of `n`, most significant byte first. -/
def toBytes : ℕ → ℕ → List UInt8
  | 0, _ => []
  | k + 1, n => toBytes k (n / 256) ++ [UInt8.ofNat n]

/-- The number written in the `k` bytes of `bs` from offset `off`. -/
def peek (k off : ℕ) (bs : List UInt8) : ℕ :=
  ofBytes ((bs.drop off).take k)

@[simp] theorem length_toBytes : ∀ k n : ℕ, (toBytes k n).length = k
  | 0, _ => rfl
  | k + 1, n => by simp [toBytes, length_toBytes k]

@[simp] theorem ofBytes_nil : ofBytes [] = 0 :=
  rfl

/-- The last byte is the least significant one. -/
theorem ofBytes_concat (bs : List UInt8) (b : UInt8) :
    ofBytes (bs ++ [b]) = ofBytes bs * 256 + b.toNat := by
  simp [ofBytes]

theorem ofBytes_lt (bs : List UInt8) : ofBytes bs < 256 ^ bs.length := by
  induction bs using List.reverseRecOn with
  | nil => simp
  | append_singleton bs b ih =>
    have hb : b.toNat < 256 := b.toNat_lt
    rw [ofBytes_concat, List.length_append, List.length_singleton, pow_succ]
    omega

/-- Reading a number of `k` bytes back. -/
theorem ofBytes_toBytes : ∀ {k n : ℕ}, n < 256 ^ k → ofBytes (toBytes k n) = n
  | 0, n, h => by
    obtain rfl : n = 0 := by simpa using h
    rfl
  | k + 1, n, h => by
    have hd : n / 256 < 256 ^ k := by
      rw [pow_succ] at h
      omega
    rw [toBytes, ofBytes_concat, ofBytes_toBytes hd, UInt8.toNat_ofNat']
    omega

theorem peek_lt (k off : ℕ) (bs : List UInt8) : peek k off bs < 256 ^ k := by
  refine (ofBytes_lt _).trans_le (Nat.pow_le_pow_right (by decide) ?_)
  simp

/-- A number that lies within `bs` does not depend on what follows `bs`. -/
theorem peek_append {k off : ℕ} {bs : List UInt8} (h : off + k ≤ bs.length) (xs : List UInt8) :
    peek k off (bs ++ xs) = peek k off bs := by
  unfold peek
  rw [List.drop_append_of_le_length (by omega), List.take_append_of_le_length]
  simp
  omega

/-- A number that lies within the first `n` bytes is read from those bytes. -/
theorem peek_take {k off n : ℕ} (h : off + k ≤ n) (bs : List UInt8) :
    peek k off (bs.take n) = peek k off bs := by
  unfold peek
  rw [List.drop_take, List.take_take, Nat.min_eq_left (by omega)]

/-- The number right behind a prefix of known length. -/
theorem peek_append_right {k off : ℕ} {xs : List UInt8} (h : xs.length = off) (ys : List UInt8) :
    peek k off (xs ++ ys) = peek k 0 ys := by
  unfold peek
  rw [← h, List.drop_left, List.drop_zero]

/-- A number written at the front is the number read at the front. -/
theorem peek_toBytes {k n : ℕ} (h : n < 256 ^ k) (xs : List UInt8) :
    peek k 0 (toBytes k n ++ xs) = n := by
  unfold peek
  rw [List.drop_zero, List.take_append_of_le_length (by simp), List.take_of_length_le (by simp),
    ofBytes_toBytes h]

end BigEndian
