import SetProtocol.Arithmetic.SafeMath

/-!
# Unchecked arithmetic

Sums and differences that the compiler does not check wrap around.  The same code can be
run on a machine that stops instead: what returns there has computed no number that wraps.
-/

namespace SetProtocol

open Transaction

/-- What becomes of a number outside of 256 bits. -/
inductive Overflow
  | wraps
  | stops
  deriving DecidableEq, Repr

namespace Overflow

def add (overflow : Overflow) (a b : ℕ) : Outcome ℕ :=
  match overflow with
  | wraps => .ok ((a + b) % 2 ^ 256)
  | stops => if a + b ≤ maxUint256 then .ok (a + b) else .error "overflow"

def sub (overflow : Overflow) (a b : ℕ) : Outcome ℕ :=
  match overflow with
  | wraps => .ok ((a + (2 ^ 256 - b)) % 2 ^ 256)
  | stops => if b ≤ a then .ok (a - b) else .error "underflow"

def mul (overflow : Overflow) (a b : ℕ) : Outcome ℕ :=
  match overflow with
  | wraps => .ok (a * b % 2 ^ 256)
  | stops => if a * b ≤ maxUint256 then .ok (a * b) else .error "overflow"

variable {a b : ℕ}

theorem add_of_le (overflow : Overflow) (hfits : a + b ≤ maxUint256) :
    overflow.add a b = .ok (a + b) := by
  cases overflow with
  | wraps =>
      rw [maxUint256] at hfits
      rw [add, Nat.mod_eq_of_lt (by omega)]
  | stops => rw [add, if_pos hfits]

theorem sub_of_le (overflow : Overflow) (hle : b ≤ a) (hfits : a ≤ maxUint256) :
    overflow.sub a b = .ok (a - b) := by
  cases overflow with
  | wraps =>
      rw [maxUint256] at hfits
      have hwhole : a + (2 ^ 256 - b) = a - b + 2 ^ 256 := by omega
      rw [sub, hwhole, Nat.add_mod_right, Nat.mod_eq_of_lt (by omega)]
  | stops => rw [sub, if_pos hle]

theorem mul_of_le (overflow : Overflow) (hfits : a * b ≤ maxUint256) :
    overflow.mul a b = .ok (a * b) := by
  cases overflow with
  | wraps =>
      rw [maxUint256] at hfits
      rw [mul, Nat.mod_eq_of_lt (by omega)]
  | stops => rw [mul, if_pos hfits]

end Overflow

end SetProtocol
