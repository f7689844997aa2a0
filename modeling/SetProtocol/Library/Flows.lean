import Mathlib.Algebra.Group.Pi.Basic
import Mathlib.Algebra.Order.Group.Int
import Mathlib.Tactic.Ring
import SetProtocol.Library.Ledger

/-!
# Flows

What comes in and goes out, by asset and holder.  Some of the holders are watched, and of the
others nothing is said, so that a payment between two of these is no flow at all.  The flows of
two changes, one after the other, add up.
-/

namespace SetProtocol.Flows

variable {T H : Type*} [DecidableEq T] [DecidableEq H]

/-- By asset and holder. -/
abbrev Flow (T H : Type*) := T → H → ℤ

def income (asset : T) (holder : H) (amount : ℕ) : Flow T H := fun other account =>
  if other = asset ∧ account = holder then amount else 0

def payment (asset : T) (source target : H) (amount : ℕ) : Flow T H :=
  income asset target amount - income asset source amount

/-- The balances of the watched holders change by the flow. -/
def Shifts (watched : H → Prop) (before after : T → H → ℕ) (flow : Flow T H) : Prop :=
  ∀ asset holder, watched holder →
    (after asset holder : ℤ) = before asset holder + flow asset holder

variable {watched : H → Prop} {before middle after : T → H → ℕ} {first second : Flow T H}
variable {asset : T} {source target holder : H} {amount : ℕ}

theorem income_of_ne {other : T} {account : H} (hne : account ≠ holder) :
    income asset holder amount other account = 0 :=
  if_neg fun h => hne h.2

theorem income_nonneg (asset : T) (holder : H) (amount : ℕ) : 0 ≤ income asset holder amount := by
  intro other account
  unfold income
  split
  · exact Int.natCast_nonneg amount
  · exact le_rfl

@[simp]
theorem income_zero : income asset holder 0 = 0 := by
  funext other account
  simp [income]

theorem income_add (more : ℕ) : income asset holder (amount + more) =
    income asset holder amount + income asset holder more := by
  funext other account
  simp only [income, Pi.add_apply]
  split
  · exact Nat.cast_add amount more
  · rfl

omit [DecidableEq T] [DecidableEq H] in
theorem Shifts.refl (watched : H → Prop) (before : T → H → ℕ) :
    Shifts watched before before 0 := by
  intro asset holder _
  exact (add_zero _).symm

omit [DecidableEq T] [DecidableEq H] in
theorem Shifts.trans (hfirst : Shifts watched before middle first)
    (hsecond : Shifts watched middle after second) :
    Shifts watched before after (first + second) := by
  intro asset holder hwatched
  rw [hsecond asset holder hwatched, hfirst asset holder hwatched, add_assoc]
  rfl

omit [DecidableEq T] [DecidableEq H] in
/-- Only what the watched holders get and give matters. -/
theorem Shifts.congr (hshifts : Shifts watched before after first)
    (hsame : ∀ asset holder, watched holder → first asset holder = second asset holder) :
    Shifts watched before after second := by
  intro asset holder hwatched
  rw [hshifts asset holder hwatched, hsame asset holder hwatched]

/-- A payment within one ledger. -/
theorem shifts_move (watched : H → Prop) (hfunds : amount ≤ before asset source) (target : H) :
    Shifts watched before
      (Function.update before asset (Ledger.move (before asset) source target amount))
      (payment asset source target amount) := by
  intro other account _
  by_cases hasset : other = asset
  · subst hasset
    rw [Function.update_self]
    by_cases hself : source = target
    · subst hself
      rw [Ledger.move_self hfunds, payment, sub_self]
      exact (add_zero _).symm
    · simp only [payment, income, Pi.sub_apply, true_and]
      by_cases hsource : account = source
      · subst hsource
        rw [Ledger.move_source hself, if_neg hself, if_pos rfl, Nat.cast_sub hfunds]
        ring
      · rw [if_neg hsource]
        by_cases htarget : account = target
        · subst htarget
          rw [Ledger.move_target hself, if_pos rfl, Nat.cast_add]
          ring
        · rw [Ledger.move_of_ne hsource htarget, if_neg htarget]
          ring
  · rw [Function.update_of_ne hasset]
    simp [payment, income, hasset]

/-- A holder who pays nothing does not lose. -/
theorem Shifts.le_of_paid (hpaid : Shifts watched before after
      (first - income asset source amount)) (hfirst : 0 ≤ first)
    (hwatched : watched holder) (hne : holder ≠ source) (other : T) :
    before other holder ≤ after other holder := by
  have hshift := hpaid other holder hwatched
  rw [Pi.sub_apply, Pi.sub_apply, income_of_ne hne, sub_zero] at hshift
  have hnonneg : 0 ≤ first other holder := hfirst other holder
  omega

end SetProtocol.Flows
