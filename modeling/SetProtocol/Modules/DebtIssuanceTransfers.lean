import SetProtocol.Modules.DebtIssuanceModule

/-!
# What issuance and redemption move

The amounts of the equity are taken from or paid to one account, and those of the debt the
other way around.  The modules of external positions are called in between, and leave the
account alone.
-/

namespace SetProtocol.DebtIssuanceModule

open Transaction

variable {E : Type} {hooks : Hooks E} {world next : World E}
variable {module sender account component : Address} {quantity amount : ℕ}
variable {isIssue isEquity : Bool} {components : List ComponentUnits}

/-- The call of one external position module. -/
def componentHook (hooks : Hooks E) (quantity : ℕ) (component : Address)
    (isIssue isEquity : Bool) (world : World E) (hook : Address) : Outcome (World E) :=
  if isIssue = true then hooks.componentIssueHook hook quantity component isEquity world
  else hooks.componentRedeemHook hook quantity component isEquity world

/-- The modules of external positions leave the balances of an account alone. -/
structure Spares (hooks : Hooks E) (account : Address) : Prop where
  address : ∀ {quantity component isIssue isEquity world hook next},
    componentHook hooks quantity component isIssue isEquity world hook = .ok next →
      next.setTokenAddress = world.setTokenAddress
  balance : ∀ {quantity component isIssue isEquity world hook next},
    account ≠ world.setTokenAddress →
    componentHook hooks quantity component isIssue isEquity world hook = .ok next →
      ∀ token, next.balanceOf token account = world.balanceOf token account

/-- What an account holds of each token. -/
def accountBalance (account : Address) (world : World E) (token : Address) : ℕ :=
  world.balanceOf token account

theorem Spares.hooks_address (hspares : Spares hooks account)
    (hcall : executeExternalPositionHooks hooks world quantity component isIssue isEquity =
      .ok next) : next.setTokenAddress = world.setTokenAddress := by
  have hstep : ∀ hook ∈ world.setToken.getExternalPositionModules component,
      ∀ before after : World E, before.setTokenAddress = world.setTokenAddress →
        componentHook hooks quantity component isIssue isEquity before hook = .ok after →
          after.setTokenAddress = world.setTokenAddress := by
    intro hook _ before after hbefore hturn
    exact (hspares.address hturn).trans hbefore
  exact foldlM_preserves hstep rfl hcall

theorem Spares.hooks_balance (hspares : Spares hooks account)
    (haccount : account ≠ world.setTokenAddress)
    (hcall : executeExternalPositionHooks hooks world quantity component isIssue isEquity =
      .ok next) : accountBalance account next = accountBalance account world := by
  have hstep : ∀ hook ∈ world.setToken.getExternalPositionModules component,
      ∀ before after : World E,
        (before.setTokenAddress = world.setTokenAddress ∧
          accountBalance account before = accountBalance account world) →
        componentHook hooks quantity component isIssue isEquity before hook = .ok after →
          after.setTokenAddress = world.setTokenAddress ∧
            accountBalance account after = accountBalance account world := by
    intro hook _ before after hbefore hturn
    rw [← hbefore.1] at haccount ⊢
    rw [← hbefore.2]
    refine ⟨hspares.address hturn, ?_⟩
    funext token
    exact hspares.balance haccount hturn token
  exact (foldlM_preserves hstep ⟨rfl, rfl⟩ hcall).2

/-- An account that pays for a component, before the modules are called. -/
theorem paid_then_hooks (hspares : Spares hooks account) (hamount : 0 < amount)
    (hcall : (do
      let chain ← world.transferFrom component account world.setTokenAddress amount
      executeExternalPositionHooks hooks (world.withChain chain) quantity component isIssue
        isEquity) = .ok next) :
    accountBalance account world component = accountBalance account next component + amount ∧
      ∀ other, other ≠ component →
        accountBalance account next other = accountBalance account world other := by
  rw [bind_eq_ok] at hcall
  obtain ⟨chain, hpaid, hhooks⟩ := hcall
  obtain ⟨hother, hfunds, rfl⟩ := Chain.transferFrom_eq_ok hamount hpaid
  have hspared := hspares.hooks_balance (by exact hother) hhooks
  rw [hspared]
  constructor
  · change world.balanceOf component account =
      Chain.balanceOf (world.withLedger component _) component account + amount
    rw [Chain.balanceOf_withLedger_self, Ledger.move_source hother]
    exact (Nat.sub_add_cancel hfunds).symm
  · intro other hne
    simp [accountBalance, World.withChain, Chain.balanceOf, Chain.withLedger, hne]

/-- An account that is paid a component, after the modules are called. -/
theorem hooks_then_received (hspares : Spares hooks account) (hamount : 0 < amount)
    (hcall : (do
      let world ← executeExternalPositionHooks hooks world quantity component isIssue isEquity
      let chain ← world.strictInvokeTransfer module component account amount
      pure (world.withChain chain)) = .ok next) :
    accountBalance account next component = accountBalance account world component + amount ∧
      ∀ other, other ≠ component →
        accountBalance account next other = accountBalance account world other := by
  simp only [bind_eq_ok, pure_eq_ok] at hcall
  obtain ⟨hooked, hhooks, chain, hreceived, rfl⟩ := hcall
  obtain ⟨hother, -, rfl⟩ := Chain.strictInvokeTransfer_eq_ok hamount hreceived
  have haccount : account ≠ world.setTokenAddress := by
    rw [← hspares.hooks_address hhooks]
    exact hother.symm
  rw [← hspares.hooks_balance haccount hhooks]
  constructor
  · change Chain.balanceOf (hooked.withLedger component _) component account =
      hooked.balanceOf component account + amount
    rw [Chain.balanceOf_withLedger_self]
    exact Ledger.move_target hother
  · intro other hne
    simp [accountBalance, World.withChain, Chain.balanceOf, Chain.withLedger, hne]

/-- A loop over the components, each turn of which moves an amount of its component. -/
theorem foldlM_moves {body : World E → ComponentUnits → Outcome (World E)}
    (effect : ComponentUnits → ℕ → ℕ → Prop)
    (hdistinct : (components.map ComponentUnits.component).Nodup)
    (hturn : ∀ units ∈ components, ∀ before after, body before units = .ok after →
      effect units (accountBalance account before units.component)
        (accountBalance account after units.component) ∧
      ∀ other, other ≠ units.component →
        accountBalance account after other = accountBalance account before other)
    (hcall : components.foldlM body world = .ok next) :
    ∀ units ∈ components, effect units (accountBalance account world units.component)
      (accountBalance account next units.component) :=
  (foldlM_keyed ComponentUnits.component (accountBalance account) (fun _ => True) effect
    (fun units hmem before after _ hbody => ⟨trivial, hturn units hmem before after hbody⟩)
    hdistinct trivial hcall).2.1

/-! ## Issuance -/

/-- The issuer brings the equity. -/
theorem resolveEquityPositions_collects (hspares : Spares hooks sender)
    (hdistinct : (components.map ComponentUnits.component).Nodup) {target : Address}
    (hcall : resolveEquityPositions hooks module world sender quantity target true
      components = .ok next) :
    ∀ units ∈ components, accountBalance sender world units.component =
      accountBalance sender next units.component + units.equity := by
  apply foldlM_moves (fun units before after => before = after + units.equity) hdistinct _ hcall
  intro units _ before after hturn
  unfold resolveEquityPosition at hturn
  by_cases hamount : 0 < units.equity
  · rw [if_pos hamount, if_pos rfl] at hturn
    exact paid_then_hooks hspares hamount hturn
  · rw [if_neg hamount, pure_eq_ok] at hturn
    subst hturn
    exact ⟨by omega, fun _ _ => rfl⟩

/-- And is given the debt. -/
theorem resolveDebtPositions_returns (hspares : Spares hooks sender)
    (hdistinct : (components.map ComponentUnits.component).Nodup)
    (hcall : resolveDebtPositions hooks module world sender quantity true components =
      .ok next) :
    ∀ units ∈ components, accountBalance sender next units.component =
      accountBalance sender world units.component + units.debt := by
  apply foldlM_moves (fun units before after => after = before + units.debt) hdistinct _ hcall
  intro units _ before after hturn
  unfold resolveDebtPosition at hturn
  by_cases hamount : 0 < units.debt
  · rw [if_pos hamount, if_pos rfl] at hturn
    exact hooks_then_received hspares hamount hturn
  · rw [if_neg hamount, pure_eq_ok] at hturn
    subst hturn
    exact ⟨by omega, fun _ _ => rfl⟩

/-! ## Redemption -/

/-- The redeemer brings the debt. -/
theorem resolveDebtPositions_collects (hspares : Spares hooks sender)
    (hdistinct : (components.map ComponentUnits.component).Nodup)
    (hcall : resolveDebtPositions hooks module world sender quantity false components =
      .ok next) :
    ∀ units ∈ components, accountBalance sender world units.component =
      accountBalance sender next units.component + units.debt := by
  apply foldlM_moves (fun units before after => before = after + units.debt) hdistinct _ hcall
  intro units _ before after hturn
  unfold resolveDebtPosition at hturn
  by_cases hamount : 0 < units.debt
  · rw [if_pos hamount, if_neg Bool.false_ne_true] at hturn
    exact paid_then_hooks hspares hamount hturn
  · rw [if_neg hamount, pure_eq_ok] at hturn
    subst hturn
    exact ⟨by omega, fun _ _ => rfl⟩

/-- And whoever the shares are redeemed for is given the equity. -/
theorem resolveEquityPositions_returns {target : Address} (hspares : Spares hooks target)
    (hdistinct : (components.map ComponentUnits.component).Nodup)
    (hcall : resolveEquityPositions hooks module world sender quantity target false
      components = .ok next) :
    ∀ units ∈ components, accountBalance target next units.component =
      accountBalance target world units.component + units.equity := by
  apply foldlM_moves (fun units before after => after = before + units.equity) hdistinct _ hcall
  intro units _ before after hturn
  unfold resolveEquityPosition at hturn
  by_cases hamount : 0 < units.equity
  · rw [if_pos hamount, if_neg Bool.false_ne_true] at hturn
    exact hooks_then_received hspares hamount hturn
  · rw [if_neg hamount, pure_eq_ok] at hturn
    subst hturn
    exact ⟨by omega, fun _ _ => rfl⟩

end SetProtocol.DebtIssuanceModule
