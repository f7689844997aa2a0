import Mathlib.Algebra.Order.Ring.Nat
import Mathlib.Data.List.Basic
import Mathlib.Tactic.Ring

/-!
# Numbers as bytes

A number of a fixed width is written with its highest byte first.  Written fields can be
read again where they stand in a longer string, counted from either end.
-/

namespace SetProtocol.BigEndian

/-- The lowest `width` bytes of a number. -/
def encode : ℕ → ℕ → List UInt8
  | 0, _ => []
  | width + 1, value => encode width (value / 256) ++ [UInt8.ofNat value]

def decode (bytes : List UInt8) : ℕ :=
  bytes.foldl (fun value byte => 256 * value + byte.toNat) 0

variable {width value other : ℕ} {before field behind : List UInt8}

@[simp]
theorem length_encode (width value : ℕ) : (encode width value).length = width := by
  induction width generalizing value with
  | zero => rfl
  | succ width ih => rw [encode, List.length_append, ih, List.length_singleton]

theorem decode_encode (hvalue : value < 256 ^ width) :
    decode (encode width value) = value := by
  induction width generalizing value with
  | zero =>
      rw [pow_zero, Nat.lt_one_iff] at hvalue
      exact hvalue.symm
  | succ width ih =>
      have hhigh : value / 256 < 256 ^ width := by
        apply Nat.div_lt_of_lt_mul
        rw [← pow_succ']
        exact hvalue
      have hlast := ih hhigh
      rw [decode] at hlast
      rw [encode, decode, List.foldl_append, hlast, List.foldl_cons, List.foldl_nil,
        UInt8.toNat_ofNat']
      exact Nat.div_add_mod value 256

theorem encode_inj (hvalue : value < 256 ^ width) (hother : other < 256 ^ width)
    (heq : encode width value = encode width other) : value = other := by
  rw [← decode_encode hvalue, heq, decode_encode hother]

/-! ## Fields of a string -/

/-- The bytes from a position on. -/
def read (bytes : List UInt8) (start count : ℕ) : List UInt8 :=
  (bytes.drop start).take count

theorem read_field (before field behind : List UInt8) :
    read (before ++ field ++ behind) before.length field.length = field := by
  rw [read, List.append_assoc, List.drop_left, List.take_left]

theorem read_zero_length (field behind : List UInt8) :
    read (field ++ behind) 0 field.length = field := by
  rw [read, List.drop_zero, List.take_left]

end SetProtocol.BigEndian
