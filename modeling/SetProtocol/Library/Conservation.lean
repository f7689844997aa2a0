import Mathlib.Algebra.BigOperators.Group.Finset.Basic
import Mathlib.Algebra.BigOperators.Group.Finset.Piecewise
import Mathlib.Algebra.Order.BigOperators.Group.Finset
import SetProtocol.Library.Ledger

/-!
# Balances that add up

A ledger adds up to a total if finitely many holders have all of it.  Payments keep the
total, and what is credited or debited changes it by as much.  No balance exceeds the
total, so that whatever a holder gives up can be taken from the total as well.
-/

namespace SetProtocol.Ledger

variable {H : Type*} [DecidableEq H]

/-- Finitely many holders have the whole total. -/
def SumsTo (ledger : H → ℕ) (total : ℕ) : Prop :=
  ∃ holders : Finset H, (∀ holder ∉ holders, ledger holder = 0) ∧
    ∑ holder ∈ holders, ledger holder = total

variable {ledger : H → ℕ} {total amount : ℕ} {source target holder : H}

omit [DecidableEq H] in
theorem sumsTo_empty : SumsTo (fun _ : H => 0) 0 :=
  ⟨∅, fun _ _ => rfl, rfl⟩

/-- Any larger set of holders sums up to the same. -/
theorem SumsTo.with_holder (hsums : SumsTo ledger total) (account : H) :
    ∃ holders : Finset H, account ∈ holders ∧ (∀ holder ∉ holders, ledger holder = 0) ∧
      ∑ holder ∈ holders, ledger holder = total := by
  obtain ⟨holders, houtside, hsum⟩ := hsums
  refine ⟨insert account holders, Finset.mem_insert_self account holders,
    fun holder hholder => houtside holder fun hmem =>
      hholder (Finset.mem_insert_of_mem hmem), ?_⟩
  by_cases haccount : account ∈ holders
  · rw [Finset.insert_eq_of_mem haccount]
    exact hsum
  · rw [Finset.sum_insert haccount, houtside account haccount, Nat.zero_add]
    exact hsum

theorem SumsTo.balance_le (hsums : SumsTo ledger total) (account : H) :
    ledger account ≤ total := by
  obtain ⟨holders, haccount, -, rfl⟩ := hsums.with_holder account
  exact Finset.single_le_sum (fun _ _ => Nat.zero_le _) haccount

/-- Changing one balance changes the total by as much. -/
theorem SumsTo.update (hsums : SumsTo ledger total) (account : H) (balance : ℕ) :
    SumsTo (Function.update ledger account balance) (total - ledger account + balance) := by
  obtain ⟨holders, haccount, houtside, rfl⟩ := hsums.with_holder account
  refine ⟨holders, fun holder hholder => ?_, ?_⟩
  · have hne : holder ≠ account := fun heq => hholder (heq ▸ haccount)
    rw [Function.update_of_ne hne]
    exact houtside holder hholder
  · rw [Finset.sum_update_of_mem haccount, ← Finset.add_sum_erase holders ledger haccount,
      Nat.add_sub_cancel_left, Finset.sdiff_singleton_eq_erase, Nat.add_comm]

theorem SumsTo.credit (hsums : SumsTo ledger total) (target : H) (amount : ℕ) :
    SumsTo (Ledger.credit ledger target amount) (total + amount) := by
  have hupdated := hsums.update target (ledger target + amount)
  rwa [← Nat.add_assoc, Nat.sub_add_cancel (hsums.balance_le target)] at hupdated

theorem SumsTo.debit (hsums : SumsTo ledger total) (hamount : amount ≤ ledger source) :
    SumsTo (Ledger.debit ledger source amount) (total - amount) := by
  have hupdated := hsums.update source (ledger source - amount)
  have hbalance := hsums.balance_le source
  have htotal : total - ledger source + (ledger source - amount) = total - amount := by omega
  rwa [htotal] at hupdated

theorem SumsTo.move (hsums : SumsTo ledger total) (hamount : amount ≤ ledger source)
    (target : H) : SumsTo (Ledger.move ledger source target amount) total := by
  have hmoved := (hsums.debit hamount).credit target amount
  rwa [Nat.sub_add_cancel (hamount.trans (hsums.balance_le source))] at hmoved

end SetProtocol.Ledger
