import SetProtocol.Core.Chain
import SetProtocol.Library.Coupling

/-!
# Chains that agree on some tokens

What a module does with one token does not depend on who holds the others.  Two
chains are alike on a set of tokens if only the ledgers of other tokens differ;
the helpers treat alike chains alike.
-/

namespace SetProtocol.Chain

open Transaction

/-- Everything but the ledgers of other tokens is the same. -/
structure Alike (tokens : Address → Prop) (chain other : Chain) : Prop where
  controller : other.controller = chain.controller
  setTokenAddress : other.setTokenAddress = chain.setTokenAddress
  setToken : other.setToken = chain.setToken
  ledger : ∀ token, tokens token → other.balances token = chain.balances token

variable {tokens : Address → Prop} {chain other : Chain}
variable {token source target module account : Address} {quantity : ℕ}

theorem Alike.withLedger (halike : Alike tokens chain other) (token : Address)
    (ledger : Address → ℕ) :
    Alike tokens (chain.withLedger token ledger) (other.withLedger token ledger) := by
  refine ⟨halike.controller, halike.setTokenAddress, halike.setToken, fun held hheld => ?_⟩
  by_cases heq : held = token
  · subst heq
    simp [Chain.withLedger]
  · simpa [Chain.withLedger, heq] using halike.ledger held hheld

theorem Alike.withSetToken (halike : Alike tokens chain other) (setToken : SetToken) :
    Alike tokens (chain.withSetToken setToken) (other.withSetToken setToken) :=
  ⟨halike.controller, halike.setTokenAddress, rfl, halike.ledger⟩

theorem Alike.balanceOf (halike : Alike tokens chain other) (htoken : tokens token)
    (holder : Address) : other.balanceOf token holder = chain.balanceOf token holder :=
  congrFun (halike.ledger token htoken) holder

theorem Alike.heldBalance (halike : Alike tokens chain other) (htoken : tokens token) :
    other.heldBalance token = chain.heldBalance token := by
  rw [Chain.heldBalance, halike.setTokenAddress]
  exact halike.balanceOf htoken _

theorem coupled_moveTokens (htoken : tokens token) (halike : Alike tokens chain other) :
    Coupled (Alike tokens) (chain.moveTokens token source target quantity)
      (other.moveTokens token source target quantity) := by
  unfold moveTokens
  rw [halike.balanceOf htoken, halike.ledger token htoken]
  exact Coupled.bind_same fun _ _ => coupled_pure (halike.withLedger token _)

theorem coupled_transferFrom (htoken : tokens token) (halike : Alike tokens chain other) :
    Coupled (Alike tokens) (chain.transferFrom token source target quantity)
      (other.transferFrom token source target quantity) := by
  unfold transferFrom
  refine Coupled.ite (fun _ => ?_) fun _ => coupled_pure halike
  refine (coupled_moveTokens htoken halike).bind fun moved result hmoved => ?_
  rw [hmoved.balanceOf htoken, halike.balanceOf htoken]
  exact Coupled.bind_same fun _ _ => Coupled.bind_same fun _ _ => coupled_pure hmoved

theorem coupled_strictInvokeTransfer (htoken : tokens token)
    (halike : Alike tokens chain other) :
    Coupled (Alike tokens) (chain.strictInvokeTransfer module token target quantity)
      (other.strictInvokeTransfer module token target quantity) := by
  unfold strictInvokeTransfer
  refine Coupled.ite (fun hquantity => ?_) fun _ => coupled_pure halike
  have hinvoke : Coupled (Alike tokens) (chain.invokeTransfer module token target quantity)
      (other.invokeTransfer module token target quantity) := by
    unfold invokeTransfer
    rw [halike.setToken, halike.controller, halike.setTokenAddress]
    exact Coupled.ite (fun _ => Coupled.bind_same fun _ _ => coupled_moveTokens htoken halike)
      fun _ => coupled_pure halike
  refine hinvoke.bind fun moved result hmoved => ?_
  rw [hmoved.heldBalance htoken, halike.heldBalance htoken]
  exact Coupled.bind_same fun _ _ => Coupled.bind_same fun _ _ => coupled_pure hmoved

theorem coupled_payProtocolFeeFromSetToken (htoken : tokens token)
    (halike : Alike tokens chain other) :
    Coupled (Alike tokens) (chain.payProtocolFeeFromSetToken module token quantity)
      (other.payProtocolFeeFromSetToken module token quantity) := by
  rw [payProtocolFeeFromSetToken_eq, payProtocolFeeFromSetToken_eq, halike.controller]
  exact coupled_strictInvokeTransfer htoken halike

theorem coupled_mint (hshare : tokens chain.setTokenAddress)
    (halike : Alike tokens chain other) :
    Coupled (Alike tokens) (chain.mint module account quantity)
      (other.mint module account quantity) := by
  unfold mint
  rw [halike.setToken, halike.controller, halike.setTokenAddress,
    halike.balanceOf hshare, halike.ledger _ hshare]
  exact Coupled.bind_same fun _ _ => Coupled.bind_same fun _ _ => Coupled.bind_same fun _ _ =>
    Coupled.bind_same fun _ _ => coupled_pure ((halike.withLedger _ _).withSetToken _)

theorem coupled_burn (hshare : tokens chain.setTokenAddress)
    (halike : Alike tokens chain other) :
    Coupled (Alike tokens) (chain.burn module account quantity)
      (other.burn module account quantity) := by
  unfold burn
  rw [halike.setToken, halike.controller, halike.setTokenAddress,
    halike.balanceOf hshare, halike.ledger _ hshare]
  exact Coupled.bind_same fun _ _ => Coupled.bind_same fun _ _ => Coupled.bind_same fun _ _ =>
    Coupled.bind_same fun _ _ => coupled_pure ((halike.withLedger _ _).withSetToken _)

end SetProtocol.Chain
