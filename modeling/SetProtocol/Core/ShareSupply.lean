import SetProtocol.Core.Chain
import SetProtocol.Library.Conservation

/-!
# Shares and their supply

The balances of a SetToken's shares add up to its total supply.  Transfers of any token
keep that, and minting and burning change both sides alike.
-/

namespace SetProtocol.Chain

open Transaction Ledger

variable {chain middle next : Chain} {token source target module account : Address}
variable {quantity : ℕ}

/-- The balances of every token add up to what they added up to before. -/
def Conserves (chain next : Chain) : Prop :=
  ∀ token total, SumsTo (chain.balances token) total → SumsTo (next.balances token) total

theorem Conserves.refl (chain : Chain) : Conserves chain chain := fun _ _ hsums => hsums

theorem Conserves.trans (hfirst : Conserves chain middle) (hsecond : Conserves middle next) :
    Conserves chain next :=
  fun token total hsums => hsecond token total (hfirst token total hsums)

theorem conserves_move (hfunds : quantity ≤ chain.balanceOf token source) :
    Conserves chain (chain.withLedger token
      (Ledger.move (chain.balances token) source target quantity)) := by
  intro other total hsums
  by_cases heq : other = token
  · subst heq
    simpa [withLedger] using hsums.move hfunds target
  · simpa [withLedger, heq] using hsums

theorem conserves_moveTokens
    (hcall : chain.moveTokens token source target quantity = .ok next) :
    Conserves chain next := by
  obtain ⟨hfunds, rfl⟩ := moveTokens_eq_ok.mp hcall
  exact conserves_move hfunds

theorem conserves_transferFrom
    (hcall : chain.transferFrom token source target quantity = .ok next) :
    Conserves chain next := by
  by_cases hquantity : 0 < quantity
  · obtain ⟨-, hfunds, rfl⟩ := transferFrom_eq_ok hquantity hcall
    exact conserves_move hfunds
  · rw [transferFrom, if_neg hquantity, pure_eq_ok] at hcall
    exact hcall ▸ Conserves.refl chain

theorem conserves_strictInvokeTransfer
    (hcall : chain.strictInvokeTransfer module token target quantity = .ok next) :
    Conserves chain next := by
  by_cases hquantity : 0 < quantity
  · obtain ⟨-, hfunds, rfl⟩ := strictInvokeTransfer_eq_ok hquantity hcall
    exact conserves_move hfunds
  · rw [strictInvokeTransfer, if_neg hquantity, pure_eq_ok] at hcall
    exact hcall ▸ Conserves.refl chain

/-- The shares that accounts have are those that were issued. -/
def Supplied (chain : Chain) : Prop :=
  SumsTo (chain.balances chain.setTokenAddress) chain.setToken.totalSupply

theorem Supplied.balance_le (hsupplied : chain.Supplied) (account : Address) :
    chain.balanceOf chain.setTokenAddress account ≤ chain.setToken.totalSupply :=
  SumsTo.balance_le hsupplied account

theorem Supplied.of_conserves (hsupplied : chain.Supplied) (hconserves : Conserves chain next)
    (haddress : next.setTokenAddress = chain.setTokenAddress)
    (hsupply : next.setToken.totalSupply = chain.setToken.totalSupply) : next.Supplied := by
  rw [Supplied, haddress, hsupply]
  exact hconserves _ _ hsupplied

theorem Supplied.mint (hsupplied : chain.Supplied)
    (hcall : chain.mint module account quantity = .ok next) : next.Supplied := by
  obtain ⟨-, -, rfl⟩ := mint_eq_ok hcall
  simpa [Supplied, withSetToken, withLedger] using SumsTo.credit hsupplied account quantity

theorem Supplied.burn (hsupplied : chain.Supplied)
    (hcall : chain.burn module account quantity = .ok next) : next.Supplied := by
  obtain ⟨-, hfunds, -, rfl⟩ := burn_eq_ok hcall
  simpa [Supplied, withSetToken, withLedger] using SumsTo.debit hsupplied hfunds

end SetProtocol.Chain
