import SetProtocol.Modules.DebtIssuanceBacking

/-!
# Supply accounting of issuance and redemption

The collateral of an issuance is charged for the quantity and its fee, and the
fee is minted later.  Minting of the protocol's part stands inside of the check
for the manager's part, so a split that leaves the manager nothing leaves the
protocol nothing either.
-/

namespace SetProtocol.DebtIssuanceModule

open Transaction PreciseUnitMath

variable {E : Type} {hooks : Hooks E} {module : Address}
variable {world next : World E} {sender target : Address} {quantity : ℕ}

/-- Nothing that issuance accounts for has changed. -/
structure Unaccounted (world next : World E) : Prop where
  setTokenAddress : next.setTokenAddress = world.setTokenAddress
  totalSupply : next.setToken.totalSupply = world.setToken.totalSupply
  issuanceSettings : next.issuanceSettings = world.issuanceSettings
  controller : next.controller = world.controller

theorem Unaccounted.refl (world : World E) : Unaccounted world world :=
  ⟨rfl, rfl, rfl, rfl⟩

theorem Unaccounted.trans {first second third : World E}
    (hfirst : Unaccounted first second) (hsecond : Unaccounted second third) :
    Unaccounted first third where
  setTokenAddress := hsecond.setTokenAddress.trans hfirst.setTokenAddress
  totalSupply := hsecond.totalSupply.trans hfirst.totalSupply
  issuanceSettings := hsecond.issuanceSettings.trans hfirst.issuanceSettings
  controller := hsecond.controller.trans hfirst.controller

/-- Hooks neither mint nor burn shares, and reconfigure neither this module nor the
Controller. -/
structure QuietHooks (hooks : Hooks E) : Prop where
  invokePreIssueHook : ∀ hook quantity caller target world next,
    hooks.invokePreIssueHook hook quantity caller target world = .ok next →
      Unaccounted world next
  moduleIssueHook : ∀ hook quantity world next,
    hooks.moduleIssueHook hook quantity world = .ok next → Unaccounted world next
  moduleRedeemHook : ∀ hook quantity world next,
    hooks.moduleRedeemHook hook quantity world = .ok next → Unaccounted world next
  componentIssueHook : ∀ hook quantity component isEquity world next,
    hooks.componentIssueHook hook quantity component isEquity world = .ok next →
      Unaccounted world next
  componentRedeemHook : ∀ hook quantity component isEquity world next,
    hooks.componentRedeemHook hook quantity component isEquity world = .ok next →
      Unaccounted world next

/-! ## Moving components mints nothing -/

section Moving

variable (hquiet : QuietHooks hooks)

/-- A loop each turn of which accounts for nothing. -/
theorem unaccounted_foldlM {A : Type} {body : World E → A → Outcome (World E)}
    {items : List A}
    (hbody : ∀ item ∈ items, ∀ state after, body state item = .ok after →
      Unaccounted state after)
    (hfold : items.foldlM body world = .ok next) : Unaccounted world next :=
  foldlM_preserves (fun item hitem state after hstate hturn =>
    hstate.trans (hbody item hitem state after hturn)) (Unaccounted.refl world) hfold

theorem unaccounted_balances (balances : Address → Address → ℕ) :
    Unaccounted world (world.withChain { world.toChain with balances := balances }) :=
  ⟨rfl, rfl, rfl, rfl⟩

include hquiet

theorem unaccounted_preIssueHooks {hooked : World E}
    (hmanager : callManagerPreIssueHooks hooks world quantity sender target = .ok hooked)
    (hmodules : callModulePreIssueHooks hooks hooked quantity = .ok next) :
    Unaccounted world next := by
  have hfirst : Unaccounted world hooked := by
    simp only [callManagerPreIssueHooks] at hmanager
    split at hmanager
    · exact hquiet.invokePreIssueHook _ _ _ _ _ _ hmanager
    · rw [pure_eq_ok] at hmanager
      exact hmanager ▸ Unaccounted.refl world
  exact hfirst.trans (unaccounted_foldlM (fun hook _ state after hturn =>
    hquiet.moduleIssueHook hook quantity state after hturn) hmodules)

theorem unaccounted_externalPositionHooks {component : Address}
    {isIssue isEquity : Bool}
    (hcall : executeExternalPositionHooks hooks world quantity component isIssue isEquity =
      .ok next) : Unaccounted world next := by
  refine unaccounted_foldlM (fun hook _ state after hturn => ?_) hcall
  cases isIssue with
  | true => exact hquiet.componentIssueHook hook quantity component isEquity _ _ hturn
  | false => exact hquiet.componentRedeemHook hook quantity component isEquity _ _ hturn

theorem unaccounted_transferIn {token : Address} {amount : ℕ} {isEquity isIssue : Bool}
    (hcall : (do
      let chain ← world.transferFrom token sender world.setTokenAddress amount
      executeExternalPositionHooks hooks (world.withChain chain) quantity token isIssue
        isEquity) = .ok next) : Unaccounted world next := by
  rw [bind_eq_ok] at hcall
  obtain ⟨chain, htransfer, hhooks⟩ := hcall
  obtain ⟨balances, rfl⟩ := Chain.transferFrom_frame htransfer
  exact (unaccounted_balances balances).trans
    (unaccounted_externalPositionHooks hquiet hhooks)

theorem unaccounted_transferOut {token : Address} {amount : ℕ} {isEquity isIssue : Bool}
    (hcall : (do
      let hooked ← executeExternalPositionHooks hooks world quantity token isIssue isEquity
      let chain ← hooked.strictInvokeTransfer module token target amount
      pure (hooked.withChain chain)) = Except.ok next) : Unaccounted world next := by
  simp only [bind_eq_ok, pure_eq_ok] at hcall
  obtain ⟨hooked, hhooks, chain, htransfer, rfl⟩ := hcall
  obtain ⟨balances, rfl⟩ := Chain.strictInvokeTransfer_frame htransfer
  exact (unaccounted_externalPositionHooks hquiet hhooks).trans
    (unaccounted_balances balances)

theorem unaccounted_resolveEquityPositions {isIssue : Bool}
    {required : List ComponentUnits}
    (hcall : resolveEquityPositions hooks module world sender quantity target isIssue
      required = .ok next) : Unaccounted world next := by
  refine unaccounted_foldlM (fun units _ state after hturn => ?_) hcall
  unfold resolveEquityPosition at hturn
  split at hturn
  · cases isIssue with
    | true => exact unaccounted_transferIn hquiet hturn
    | false => exact unaccounted_transferOut hquiet hturn
  · rw [pure_eq_ok] at hturn
    exact hturn ▸ Unaccounted.refl state

theorem unaccounted_resolveDebtPositions {isIssue : Bool} {required : List ComponentUnits}
    (hcall : resolveDebtPositions hooks module world sender quantity isIssue required =
      .ok next) : Unaccounted world next := by
  refine unaccounted_foldlM (fun units _ state after hturn => ?_) hcall
  unfold resolveDebtPosition at hturn
  split at hturn
  · cases isIssue with
    | true => exact unaccounted_transferOut hquiet hturn
    | false => exact unaccounted_transferIn hquiet hturn
  · rw [pure_eq_ok] at hturn
    exact hturn ▸ Unaccounted.refl state

end Moving

/-! ## Minting the fees -/

/-- The share ledger after both recipients have got their part of the total fee. -/
def creditFees (world : World E) (totalFee protocolFee : ℕ) (ledger : Address → ℕ) :
    Address → ℕ :=
  Ledger.credit
    (Ledger.credit ledger world.issuanceSettings.feeRecipient (totalFee - protocolFee))
    world.controller.feeRecipient protocolFee

theorem mint_accounts {chain minted : Chain} {account : Address} {amount : ℕ}
    (hcall : chain.mint module account amount = .ok minted) :
    minted.setTokenAddress = chain.setTokenAddress ∧
      minted.controller = chain.controller ∧
      minted.setToken.totalSupply = chain.setToken.totalSupply + amount ∧
      minted.balances chain.setTokenAddress =
        Ledger.credit (chain.balances chain.setTokenAddress) account amount := by
  obtain ⟨-, -, rfl⟩ := Chain.mint_eq_ok hcall
  refine ⟨rfl, rfl, rfl, ?_⟩
  simp [Chain.withSetToken, Chain.withLedger]

/-- Fees are minted in full if the manager gets any, and not at all otherwise. -/
theorem resolveFees_accounts {managerFee protocolFee : ℕ}
    (hcall : resolveFees module world managerFee protocolFee = .ok next) :
    next.setTokenAddress = world.setTokenAddress ∧
      (0 < managerFee →
        next.setToken.totalSupply =
          world.setToken.totalSupply + (managerFee + protocolFee) ∧
        next.balances world.setTokenAddress =
          Ledger.credit (Ledger.credit (world.balances world.setTokenAddress)
            world.issuanceSettings.feeRecipient managerFee)
            world.controller.feeRecipient protocolFee) ∧
      (managerFee = 0 → next = world) := by
  unfold resolveFees at hcall
  split at hcall
  · rename_i hpositive
    rw [bind_eq_ok] at hcall
    obtain ⟨chain, hmanager, hcall⟩ := hcall
    obtain ⟨haddress, -, hsupply, hledger⟩ := mint_accounts hmanager
    refine ⟨?_, fun _ => ?_, fun hzero => absurd hzero hpositive.ne'⟩
    · split at hcall
      · simp only [bind_eq_ok, pure_eq_ok] at hcall
        obtain ⟨final, hprotocol, rfl⟩ := hcall
        exact (mint_accounts hprotocol).1.trans haddress
      · rw [pure_eq_ok] at hcall
        exact hcall ▸ haddress
    · split at hcall
      · simp only [bind_eq_ok, pure_eq_ok] at hcall
        obtain ⟨final, hprotocol, rfl⟩ := hcall
        obtain ⟨-, -, hsupply', hledger'⟩ := mint_accounts hprotocol
        rw [haddress, hledger] at hledger'
        refine ⟨?_, hledger'⟩
        change final.setToken.totalSupply = _
        omega
      · rename_i hnone
        have hzero : protocolFee = 0 := by omega
        rw [pure_eq_ok] at hcall
        subst hcall
        rw [hzero, Ledger.credit_zero]
        exact ⟨hsupply, hledger⟩
  · rename_i hnone
    rw [pure_eq_ok] at hcall
    subst hcall
    exact ⟨rfl, fun hpositive => absurd hpositive hnone, fun _ => rfl⟩

/-! ## The accounts of one issuance and one redemption -/

/-- The fee on a quantity, which the settings hand to manager and protocol. -/
def totalFee (rate quantity : ℕ) : ℕ := rate * quantity / preciseUnit

/-- The protocol's part of a fee, by the split on the Controller. -/
def protocolShare (module : Address) (world : World E) (fee : ℕ) : ℕ :=
  fee * world.controller.getModuleFee module protocolFeeSplitIndex / preciseUnit

/-- Collateral is charged for the quantity and its fee; exactly these shares are
minted, the quantity to the receiver and the fee to its two recipients. -/
def IssueAccounted (hooks : Hooks E) (module : Address) (world : World E)
    (sender : Address) (quantity : ℕ) (target : Address) (next : World E) : Prop :=
  let fee := totalFee world.issuanceSettings.managerIssueFee quantity
  ∃ collected fees,
    collectForIssue hooks module world sender quantity target = .ok (collected, fees) ∧
    fees.totalQuantity = quantity + fee ∧
    next.setToken.totalSupply = world.setToken.totalSupply + (quantity + fee) ∧
    next.balances world.setTokenAddress =
      Ledger.credit (creditFees world fee (protocolShare module world fee)
        (collected.balances world.setTokenAddress)) target quantity

/-- The quantity is burnt and collateral is released for it net of the fee, which is
minted to its two recipients. -/
def RedeemAccounted (hooks : Hooks E) (module : Address) (world : World E)
    (sender : Address) (quantity : ℕ) (target : Address) (next : World E) : Prop :=
  let fee := totalFee world.issuanceSettings.managerRedeemFee quantity
  ∃ released fees,
    releaseForRedeem hooks module world sender quantity target = .ok (released, fees) ∧
    fees.totalQuantity = quantity - fee ∧
    next.setToken.totalSupply + (quantity - fee) = world.setToken.totalSupply ∧
    next.balances world.setTokenAddress =
      creditFees world fee (protocolShare module world fee)
        (released.balances world.setTokenAddress)

/-- Fees that are charged in one place and split in another. -/
structure Split (module : Address) (world : World E) (rate quantity : ℕ)
    (fees : TotalFees) : Prop where
  protocolFee : fees.protocolFee = protocolShare module world (totalFee rate quantity)
  managerFee : fees.managerFee + fees.protocolFee = totalFee rate quantity

theorem collectForIssue_eq_ok {collected : World E} {fees : TotalFees}
    (hquiet : QuietHooks hooks)
    (hcall : collectForIssue hooks module world sender quantity target =
      .ok (collected, fees)) :
    Unaccounted world collected ∧
      Split module world world.issuanceSettings.managerIssueFee quantity fees ∧
      fees.totalQuantity =
        quantity + totalFee world.issuanceSettings.managerIssueFee quantity := by
  simp only [collectForIssue, bind_eq_ok, pure_eq_ok, require_eq_ok, exists_const,
    Prod.mk.injEq] at hcall
  obtain ⟨_, -, -, hooked, hmanager, ready, hmodules, _, hfees, required, -,
    equity, hequity, debt, hdebt, rfl, rfl⟩ := hcall
  have hready := unaccounted_preIssueHooks hquiet hmanager hmodules
  obtain ⟨fee, hfee, hprotocol, hsplit, htotal, -⟩ := calculateTotalFees_eq_ok hfees
  rw [hready.issuanceSettings] at hfee
  rw [hready.controller] at hprotocol
  refine ⟨(hready.trans (unaccounted_resolveEquityPositions hquiet hequity)).trans
    (unaccounted_resolveDebtPositions hquiet hdebt), ⟨?_, ?_⟩, ?_⟩
  · rw [hprotocol, hfee]
    rfl
  · rw [hsplit, hfee]
    rfl
  · rw [htotal rfl, hfee]
    rfl

theorem releaseForRedeem_eq_ok {released : World E} {fees : TotalFees}
    (hquiet : QuietHooks hooks)
    (hcall : releaseForRedeem hooks module world sender quantity target =
      .ok (released, fees)) :
    released.setTokenAddress = world.setTokenAddress ∧
      released.setToken.totalSupply + quantity = world.setToken.totalSupply ∧
      released.issuanceSettings = world.issuanceSettings ∧
      released.controller = world.controller ∧
      Split module world world.issuanceSettings.managerRedeemFee quantity fees ∧
      fees.totalQuantity +
        totalFee world.issuanceSettings.managerRedeemFee quantity = quantity := by
  simp only [releaseForRedeem, bind_eq_ok, pure_eq_ok, require_eq_ok, exists_const,
    Prod.mk.injEq] at hcall
  obtain ⟨_, -, -, ready, hmodules, chain, hburn, _, hfees, required, -, debt, hdebt,
    equity, hequity, rfl, rfl⟩ := hcall
  have hready : Unaccounted world ready := unaccounted_foldlM
    (fun hook _ state after hturn => hquiet.moduleRedeemHook hook quantity state after hturn)
    hmodules
  obtain ⟨-, -, hsupply, rfl⟩ := Chain.burn_eq_ok hburn
  obtain ⟨fee, hfee, hprotocol, hsplit, -, htotal⟩ := calculateTotalFees_eq_ok hfees
  have hfinal := (unaccounted_resolveDebtPositions hquiet hdebt).trans
    (unaccounted_resolveEquityPositions hquiet hequity)
  simp only [Bool.false_eq_true, if_false, World.withChain, Chain.withSetToken,
    Chain.withLedger, hready.issuanceSettings, hready.controller] at hfee hprotocol
  rw [hready.totalSupply] at hsupply
  refine ⟨hfinal.setTokenAddress.trans hready.setTokenAddress, ?_,
    hfinal.issuanceSettings.trans hready.issuanceSettings,
    hfinal.controller.trans hready.controller, ⟨?_, ?_⟩, ?_⟩
  · rw [hfinal.totalSupply]
    simp only [World.withChain, Chain.withSetToken, hready.totalSupply]
    exact Nat.sub_add_cancel hsupply
  · rw [hprotocol, hfee]
    rfl
  · rw [hsplit, hfee]
    rfl
  · have hnet := htotal rfl
    rw [hfee] at hnet
    exact hnet

/-- The manager is left something exactly when the split is short of the whole. -/
theorem managerFee_pos_iff {rate : ℕ} {fees : TotalFees}
    (hbound : world.controller.getModuleFee module protocolFeeSplitIndex ≤ preciseUnit)
    (hsplit : Split module world rate quantity fees)
    (hfee : 0 < totalFee rate quantity) :
    0 < fees.managerFee ↔
      world.controller.getModuleFee module protocolFeeSplitIndex < preciseUnit := by
  have hmanager := hsplit.managerFee
  rw [hsplit.protocolFee, protocolShare] at hmanager
  constructor
  · intro hpositive
    refine lt_of_le_of_ne hbound fun hfull => ?_
    rw [hfull, Nat.mul_div_cancel _ preciseUnit_pos] at hmanager
    omega
  · intro hshort
    have hless : totalFee rate quantity *
        world.controller.getModuleFee module protocolFeeSplitIndex / preciseUnit <
          totalFee rate quantity := by
      rw [Nat.div_lt_iff_lt_mul preciseUnit_pos]
      exact Nat.mul_lt_mul_of_pos_left hshort hfee
    omega

theorem issue_accounted_iff (hquiet : QuietHooks hooks)
    (hbound : world.controller.getModuleFee module protocolFeeSplitIndex ≤ preciseUnit)
    (hcall : issue hooks module world sender quantity target = .ok next) :
    IssueAccounted hooks module world sender quantity target next ↔
      world.controller.getModuleFee module protocolFeeSplitIndex < preciseUnit ∨
        totalFee world.issuanceSettings.managerIssueFee quantity = 0 := by
  simp only [issue, bind_eq_ok, pure_eq_ok] at hcall
  obtain ⟨⟨collected, fees⟩, hcollect, charged, hresolve, chain, hmint, rfl⟩ := hcall
  dsimp only at hresolve
  obtain ⟨hcollected, hsplit, htotal⟩ := collectForIssue_eq_ok hquiet hcollect
  obtain ⟨haddress, hminted, hunminted⟩ := resolveFees_accounts hresolve
  obtain ⟨-, -, hsupply, hledger⟩ := mint_accounts hmint
  rw [haddress, hcollected.setTokenAddress] at hledger
  have hmanager := hsplit.managerFee
  have hwhole := fun hfee => managerFee_pos_iff hbound hsplit hfee
  constructor
  · rintro ⟨_, _, -, -, hgrowth, -⟩
    change chain.setToken.totalSupply = _ at hgrowth
    by_cases hfee : totalFee world.issuanceSettings.managerIssueFee quantity = 0
    · exact Or.inr hfee
    · left
      rw [← hwhole (Nat.pos_of_ne_zero hfee)]
      by_contra hnone
      have hsame := hunminted (by omega)
      rw [hsame, hcollected.totalSupply] at hsupply
      omega
  · intro hcondition
    refine ⟨collected, fees, hcollect, htotal, ?_⟩
    change chain.setToken.totalSupply = _ ∧ chain.balances world.setTokenAddress = _
    by_cases hfee : totalFee world.issuanceSettings.managerIssueFee quantity = 0
    · have hsame := hunminted (by omega)
      rw [hsame, hcollected.totalSupply] at hsupply
      rw [hsame] at hledger
      refine ⟨by omega, ?_⟩
      rw [hledger, hfee]
      simp [creditFees, protocolShare]
    · have hpositive := (hwhole (Nat.pos_of_ne_zero hfee)).mpr
        (hcondition.resolve_right hfee)
      obtain ⟨hfees, hcredited⟩ := hminted hpositive
      rw [hcollected.totalSupply] at hfees
      rw [hcollected.setTokenAddress, hcollected.issuanceSettings,
        hcollected.controller] at hcredited
      refine ⟨by omega, ?_⟩
      have hpart : fees.managerFee =
          totalFee world.issuanceSettings.managerIssueFee quantity - protocolShare module
            world (totalFee world.issuanceSettings.managerIssueFee quantity) := by
        rw [← hsplit.protocolFee]
        omega
      rw [hledger, hcredited, hpart, hsplit.protocolFee]
      rfl

theorem redeem_accounted_iff (hquiet : QuietHooks hooks)
    (hbound : world.controller.getModuleFee module protocolFeeSplitIndex ≤ preciseUnit)
    (hcall : redeem hooks module world sender quantity target = .ok next) :
    RedeemAccounted hooks module world sender quantity target next ↔
      world.controller.getModuleFee module protocolFeeSplitIndex < preciseUnit ∨
        totalFee world.issuanceSettings.managerRedeemFee quantity = 0 := by
  simp only [redeem, bind_eq_ok] at hcall
  obtain ⟨⟨released, fees⟩, hrelease, hresolve⟩ := hcall
  dsimp only at hresolve
  obtain ⟨haddress, hsupply, hsettings, hcontroller, hsplit, htotal⟩ :=
    releaseForRedeem_eq_ok hquiet hrelease
  obtain ⟨-, hminted, hunminted⟩ := resolveFees_accounts hresolve
  have hmanager := hsplit.managerFee
  have hwhole := fun hfee => managerFee_pos_iff hbound hsplit hfee
  constructor
  · rintro ⟨_, _, -, -, hshrink, -⟩
    by_cases hfee : totalFee world.issuanceSettings.managerRedeemFee quantity = 0
    · exact Or.inr hfee
    · left
      rw [← hwhole (Nat.pos_of_ne_zero hfee)]
      by_contra hnone
      rw [hunminted (by omega)] at hshrink
      omega
  · intro hcondition
    refine ⟨released, fees, hrelease, by omega, ?_⟩
    by_cases hfee : totalFee world.issuanceSettings.managerRedeemFee quantity = 0
    · rw [hunminted (by omega)]
      refine ⟨by omega, ?_⟩
      rw [hfee]
      simp [creditFees, protocolShare]
    · have hpositive := (hwhole (Nat.pos_of_ne_zero hfee)).mpr
        (hcondition.resolve_right hfee)
      obtain ⟨hfees, hcredited⟩ := hminted hpositive
      rw [haddress, hsettings, hcontroller] at hcredited
      refine ⟨by omega, ?_⟩
      have hpart : fees.managerFee =
          totalFee world.issuanceSettings.managerRedeemFee quantity - protocolShare module
            world (totalFee world.issuanceSettings.managerRedeemFee quantity) := by
        rw [← hsplit.protocolFee]
        omega
      rw [hcredited, hpart, hsplit.protocolFee]
      rfl

/-- Shares paid for or withheld are minted exactly when the protocol's split leaves
the manager a part, or there is no fee to split. -/
theorem supply_accounted_iff (hquiet : QuietHooks hooks)
    (hbound : world.controller.getModuleFee module protocolFeeSplitIndex ≤ preciseUnit) :
    (∀ next, issue hooks module world sender quantity target = .ok next →
      (IssueAccounted hooks module world sender quantity target next ↔
        world.controller.getModuleFee module protocolFeeSplitIndex < preciseUnit ∨
          totalFee world.issuanceSettings.managerIssueFee quantity = 0)) ∧
    ∀ next, redeem hooks module world sender quantity target = .ok next →
      (RedeemAccounted hooks module world sender quantity target next ↔
        world.controller.getModuleFee module protocolFeeSplitIndex < preciseUnit ∨
          totalFee world.issuanceSettings.managerRedeemFee quantity = 0) :=
  ⟨fun _ hcall => issue_accounted_iff hquiet hbound hcall,
    fun _ hcall => redeem_accounted_iff hquiet hbound hcall⟩

theorem quietHooks_passing : QuietHooks (passingHooks : Hooks E) where
  invokePreIssueHook := by rintro _ _ _ _ world _ ⟨⟩; exact Unaccounted.refl world
  moduleIssueHook := by rintro _ _ world _ ⟨⟩; exact Unaccounted.refl world
  moduleRedeemHook := by rintro _ _ world _ ⟨⟩; exact Unaccounted.refl world
  componentIssueHook := by rintro _ _ _ _ world _ ⟨⟩; exact Unaccounted.refl world
  componentRedeemHook := by rintro _ _ _ _ world _ ⟨⟩; exact Unaccounted.refl world

/-- The small world with the whole fee going to the protocol. -/
def fullSplitWorld : World Unit :=
  smallWorld.withChain { smallWorld.toChain with
    controller := smallWorld.controller.setFee 5 protocolFeeSplitIndex preciseUnit }

/-- A fee of one percent on a hundred shares, all of it for the manager. -/
theorem supply_accounted_without_split :
    (∀ next, issue passingHooks 5 smallWorld 3 100 3 = .ok next →
      (IssueAccounted passingHooks 5 smallWorld 3 100 3 next ↔
        smallWorld.controller.getModuleFee 5 protocolFeeSplitIndex < preciseUnit ∨
          totalFee smallWorld.issuanceSettings.managerIssueFee 100 = 0)) ∧
    ∀ next, redeem passingHooks 5 smallWorld 3 100 3 = .ok next →
      (RedeemAccounted passingHooks 5 smallWorld 3 100 3 next ↔
        smallWorld.controller.getModuleFee 5 protocolFeeSplitIndex < preciseUnit ∨
          totalFee smallWorld.issuanceSettings.managerRedeemFee 100 = 0) :=
  supply_accounted_iff quietHooks_passing (by decide)

/-- A hundred shares are issued at one percent, all of it for the protocol: the
issuer pays for the fee, and nobody gets it. -/
theorem issue_unaccounted_at_full_split :
    ¬∀ next, issue passingHooks 5 fullSplitWorld 3 100 3 = .ok next →
      IssueAccounted passingHooks 5 fullSplitWorld 3 100 3 next := by
  intro hall
  have hsupply : (issue passingHooks 5 fullSplitWorld 3 100 3).map
      (fun next => next.setToken.totalSupply) = .ok 110 := by rfl
  cases hcall : issue passingHooks 5 fullSplitWorld 3 100 3 with
  | error reason =>
      rw [hcall] at hsupply
      cases hsupply
  | ok next =>
      rw [hcall] at hsupply
      obtain ⟨_, _, -, -, hgrowth, -⟩ := hall next hcall
      have hminted : next.setToken.totalSupply = 110 := Except.ok.inj hsupply
      rw [hminted] at hgrowth
      revert hgrowth
      decide

end SetProtocol.DebtIssuanceModule
