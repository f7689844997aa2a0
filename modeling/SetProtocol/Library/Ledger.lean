import Mathlib.Logic.Function.Basic
import Mathlib.Data.Nat.Init
import Mathlib.Tactic.Common

/-!
# Balances

A ledger gives every holder a balance.  A payment debits its source and then
credits its target, so that a payment to oneself changes nothing.
-/

namespace SetProtocol.Ledger

variable {H : Type*} [DecidableEq H]

def credit (ledger : H → ℕ) (target : H) (amount : ℕ) : H → ℕ :=
  Function.update ledger target (ledger target + amount)

def debit (ledger : H → ℕ) (source : H) (amount : ℕ) : H → ℕ :=
  Function.update ledger source (ledger source - amount)

def move (ledger : H → ℕ) (source target : H) (amount : ℕ) : H → ℕ :=
  credit (debit ledger source amount) target amount

variable {ledger : H → ℕ} {source target holder : H} {amount : ℕ}

@[simp]
theorem credit_self : credit ledger target amount target = ledger target + amount := by
  simp [credit]

@[simp]
theorem credit_of_ne (hne : holder ≠ target) :
    credit ledger target amount holder = ledger holder := by
  simp [credit, hne]

@[simp]
theorem debit_self : debit ledger source amount source = ledger source - amount := by
  simp [debit]

@[simp]
theorem debit_of_ne (hne : holder ≠ source) :
    debit ledger source amount holder = ledger holder := by
  simp [debit, hne]

@[simp]
theorem credit_zero (ledger : H → ℕ) (target : H) : credit ledger target 0 = ledger := by
  simp [credit]

theorem le_credit (ledger : H → ℕ) (target holder : H) (amount : ℕ) :
    ledger holder ≤ credit ledger target amount holder := by
  by_cases heq : holder = target
  · subst heq
    simp
  · simp [heq]

theorem move_source (hne : source ≠ target) :
    move ledger source target amount source = ledger source - amount := by
  simp [move, hne]

theorem move_target (hne : source ≠ target) :
    move ledger source target amount target = ledger target + amount := by
  simp [move, hne.symm]

theorem move_of_ne (hsource : holder ≠ source) (htarget : holder ≠ target) :
    move ledger source target amount holder = ledger holder := by
  simp [move, hsource, htarget]

theorem move_self (hamount : amount ≤ ledger source) :
    move ledger source source amount = ledger := by
  funext holder
  by_cases heq : holder = source
  · subst heq
    simp [move, Nat.sub_add_cancel hamount]
  · simp [move, heq]

end SetProtocol.Ledger
