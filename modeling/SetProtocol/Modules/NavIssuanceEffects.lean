import SetProtocol.Modules.NavIssuanceModule

/-!
# What issuance and redemption do

The equations of the two flows: what their amounts are computed from, what their
hooks may do, and which calls they make on the SetToken and on the tokens.
-/

namespace SetProtocol.NavIssuanceModule

open Transaction PreciseUnitMath

variable {E : Type} {externals : Externals E}
variable {module sender reserveAsset target : Address}
variable {world next : World E} {chain reached : Chain} {info : ActionInfo}

/-! ## Amounts -/

theorem getFees_eq_ok {quantity shareIndex directIndex managerIndex : ℕ}
    {protocolFees managerFee netFlow : ℕ}
    (hcall : getFees module world quantity shareIndex directIndex managerIndex =
      .ok (protocolFees, managerFee, netFlow)) :
    protocolFees + managerFee + netFlow = quantity := by
  simp only [getFees, bind_eq_ok, preciseMul_eq_ok, SafeMath.sub_eq_ok, pure_eq_ok,
    Prod.mk.injEq] at hcall
  obtain ⟨_, -, _, -, _, -, _, ⟨hprotocol, rfl⟩, _, ⟨hmanager, rfl⟩, rfl, rfl, rfl⟩ := hcall
  omega

/-- The multiplier that spreads the positions over another supply. -/
def spreadMultiplier (setToken : SetToken) (supply : ℕ) : ℤ :=
  (setToken.positionMultiplier * setToken.totalSupply).tdiv supply

/-- Spreading rounds the multiplier down. -/
theorem spreadMultiplier_mul_le {setToken : SetToken} {supply : ℕ}
    (hmultiplier : 0 ≤ setToken.positionMultiplier) (hsupply : 0 < supply) :
    spreadMultiplier setToken supply * supply ≤
      setToken.positionMultiplier * setToken.totalSupply := by
  rw [spreadMultiplier,
    Int.tdiv_eq_ediv_of_nonneg (mul_nonneg hmultiplier (Int.natCast_nonneg _))]
  exact Int.ediv_mul_le _ (by exact_mod_cast hsupply.ne')

theorem rescaledMultiplier_eq_ok {setToken : SetToken} {supply : ℕ} {multiplier : ℤ}
    (hsupply : 0 < supply)
    (hcall : rescaledMultiplier setToken setToken.totalSupply supply = .ok multiplier) :
    multiplier = spreadMultiplier setToken supply := by
  simp only [rescaledMultiplier, bind_eq_ok, SafeCast.toInt256_eq_ok,
    SignedSafeMath.mul_eq_ok] at hcall
  obtain ⟨_, ⟨-, rfl⟩, _, ⟨-, rfl⟩, _, ⟨-, rfl⟩, hdivided⟩ := hcall
  exact ((SignedSafeMath.div_eq_ok_of_pos (by exact_mod_cast hsupply)).mp hdivided).symm

/-- What the default position of a token promises to all shares together. -/
def trackedBalance (setToken : SetToken) (token : Address) : ℕ :=
  setToken.totalSupply * setToken.defaultRealUnit token / preciseUnit

theorem existingReserve_eq_ok {setToken : SetToken} {existing : ℕ}
    (hcall : existingReserve setToken reserveAsset setToken.totalSupply = .ok existing) :
    existing = trackedBalance setToken reserveAsset := by
  simp only [existingReserve, bind_eq_ok, preciseMul_eq_ok] at hcall
  obtain ⟨_, hunit, _, hcast, -, rfl⟩ := hcall
  rw [trackedBalance, SetToken.defaultRealUnit_of_ok hunit hcast, Nat.mul_comm]

/-- The old positions are spread over the new supply, the payment goes into the
reserve position, and nothing is rounded up. -/
theorem createIssuanceInfo_eq_ok {quantity : ℕ}
    (hcall : createIssuanceInfo externals module world reserveAsset quantity = .ok info) :
    info.protocolFees + info.managerFee + info.netFlowQuantity = quantity ∧
      getSetTokenMintQuantity externals world reserveAsset info.netFlowQuantity
        world.setToken.totalSupply = .ok info.setTokenQuantity ∧
      0 < world.setToken.totalSupply + info.setTokenQuantity ∧
      info.newPositionMultiplier = spreadMultiplier world.setToken
        (world.setToken.totalSupply + info.setTokenQuantity) ∧
      (world.setToken.totalSupply + info.setTokenQuantity) * info.newReservePositionUnit ≤
        (trackedBalance world.setToken reserveAsset + info.netFlowQuantity) *
          preciseUnit := by
  simp only [createIssuanceInfo, getIssuePositionMultiplier, getIssuePositionUnit,
    bind_eq_ok, pure_eq_ok, SafeMath.add_eq_ok, preciseDiv_eq_ok] at hcall
  obtain ⟨⟨protocolFees, managerFee, netFlow⟩, hfees, minted, hminted, _,
    ⟨_, ⟨-, rfl⟩, multiplier, hmultiplier, rfl⟩, _,
    ⟨existing, hexisting, _, ⟨-, rfl⟩, -, hsupply, rfl⟩, rfl⟩ := hcall
  obtain rfl := existingReserve_eq_ok hexisting
  change 0 < minted + world.setToken.totalSupply at hsupply
  obtain rfl := rescaledMultiplier_eq_ok hsupply hmultiplier
  rw [Nat.add_comm world.setToken.totalSupply]
  refine ⟨getFees_eq_ok hfees, hminted, hsupply, rfl, ?_⟩
  rw [Nat.mul_comm]
  exact Nat.div_mul_le_self _ _

/-- A redemption pays out of the reserve position and spreads the others over the
supply that is left. -/
theorem createRedemptionInfo_eq_ok {quantity : ℕ}
    (hcall : createRedemptionInfo externals module world reserveAsset quantity = .ok info) :
    getRedeemReserveQuantity externals world reserveAsset quantity =
        .ok (info.protocolFees + info.managerFee + info.netFlowQuantity) ∧
      quantity ≤ world.setToken.totalSupply ∧
      0 < world.setToken.totalSupply - quantity ∧
      info.newPositionMultiplier =
        spreadMultiplier world.setToken (world.setToken.totalSupply - quantity) ∧
      info.protocolFees + info.managerFee + info.netFlowQuantity ≤
        trackedBalance world.setToken reserveAsset ∧
      (world.setToken.totalSupply - quantity) * info.newReservePositionUnit ≤
        (trackedBalance world.setToken reserveAsset -
          (info.protocolFees + info.managerFee + info.netFlowQuantity)) * preciseUnit := by
  simp only [createRedemptionInfo, getRedeemPositionMultiplier, getRedeemPositionUnit,
    bind_eq_ok, pure_eq_ok, SafeMath.add_eq_ok, SafeMath.sub_eq_ok, preciseDiv_eq_ok,
    require_eq_ok] at hcall
  obtain ⟨pre, hpre, ⟨protocolFees, managerFee, netFlow⟩, hfees, _,
    ⟨_, ⟨hquantity, rfl⟩, multiplier, hmultiplier, -, -, rfl⟩, _,
    ⟨existing, hexisting, _, ⟨-, rfl⟩, _, ⟨-, rfl⟩, -, hcovered, _, ⟨-, rfl⟩, -, hsupply,
      rfl⟩, rfl⟩ := hcall
  obtain rfl := existingReserve_eq_ok hexisting
  change 0 < world.setToken.totalSupply - quantity at hsupply
  obtain rfl := rescaledMultiplier_eq_ok hsupply hmultiplier
  have hpaid : netFlow + protocolFees + managerFee =
      protocolFees + managerFee + netFlow := by omega
  rw [hpaid] at hcovered ⊢
  refine ⟨?_, hquantity, hsupply, rfl, hcovered, ?_⟩
  · rw [hpre, getFees_eq_ok hfees]
  · rw [Nat.mul_comm]
    exact Nat.div_mul_le_self _ _

/-! ## Hooks -/

/-- Whatever a hook of these contracts does relates the worlds before and after it. -/
structure HooksKeep (externals : Externals E) (kept : World E → World E → Prop) : Prop where
  preIssue : ∀ hook reserveAsset quantity caller target world next,
    externals.invokePreIssueHook hook reserveAsset quantity caller target world = .ok next →
      kept world next
  preRedeem : ∀ hook quantity caller target world next,
    externals.invokePreRedeemHook hook quantity caller target world = .ok next →
      kept world next

variable {kept : World E → World E → Prop}

theorem kept_by_preIssueHooks (hhooks : HooksKeep externals kept)
    (hrefl : ∀ world, kept world world) {quantity : ℕ}
    (hcall : callPreIssueHooks externals world reserveAsset quantity sender target =
      .ok next) : kept world next := by
  simp only [callPreIssueHooks] at hcall
  split at hcall
  · exact hhooks.preIssue _ _ _ _ _ _ _ hcall
  · rw [pure_eq_ok] at hcall
    exact hcall ▸ hrefl world

theorem kept_by_preRedeemHooks (hhooks : HooksKeep externals kept)
    (hrefl : ∀ world, kept world world) {quantity : ℕ}
    (hcall : callPreRedeemHooks externals world quantity sender target = .ok next) :
    kept world next := by
  simp only [callPreRedeemHooks] at hcall
  split at hcall
  · exact hhooks.preRedeem _ _ _ _ _ _ hcall
  · rw [pure_eq_ok] at hcall
    exact hcall ▸ hrefl world

/-! ## The two flows -/

/-- The payments move balances only. -/
theorem transferCollateralAndHandleFees_frame
    (hcall : transferCollateralAndHandleFees world sender reserveAsset info = .ok chain) :
    ∃ balances, chain = { world.toChain with balances := balances } := by
  simp only [transferCollateralAndHandleFees, bind_eq_ok] at hcall
  obtain ⟨received, hreceived, charged, hcharged, hpaid⟩ := hcall
  obtain ⟨_, rfl⟩ := Chain.transferFrom_frame hreceived
  have hfee : ∀ {before after : Chain} {recipient : Address} {fee : ℕ},
      (if 0 < fee then before.transferFrom reserveAsset sender recipient fee
        else .ok before) = .ok after →
      ∃ balances, after = { before with balances := balances } := by
    intro before after recipient fee hafter
    split at hafter
    · exact Chain.transferFrom_frame hafter
    · cases hafter
      exact ⟨_, rfl⟩
  obtain ⟨_, rfl⟩ := hfee hcharged
  obtain ⟨_, rfl⟩ := hfee hpaid
  exact ⟨_, rfl⟩

theorem editPositions_eq_ok :
    editPositions module chain reserveAsset info = .ok reached ↔
      ∃ rescaled, chain.setToken.editPositionMultiplier chain.controller module
          info.newPositionMultiplier = .ok rescaled ∧
        ∃ edited, Position.editDefaultPosition rescaled chain.controller module reserveAsset
            info.newReservePositionUnit = .ok edited ∧
          chain.withSetToken edited = reached := by
  simp only [editPositions, bind_eq_ok, pure_eq_ok]

/-- An issuance takes the payments, edits the positions and mints. -/
theorem issue_eq_ok {quantity minReceived : ℕ}
    (hcall : issue externals module world sender reserveAsset quantity minReceived target =
      .ok next) :
    ∃ hooked info paid edited minted,
      callPreIssueHooks externals world reserveAsset quantity sender target = .ok hooked ∧
      createIssuanceInfo externals module hooked reserveAsset quantity = .ok info ∧
      transferCollateralAndHandleFees hooked sender reserveAsset info = .ok paid ∧
      editPositions module paid reserveAsset info = .ok edited ∧
      edited.mint module target info.setTokenQuantity = .ok minted ∧
      hooked.withChain minted = next := by
  simp only [issue, handleIssueStateUpdates, bind_eq_ok, pure_eq_ok] at hcall
  obtain ⟨-, -, -, -, hooked, hhooked, info, hinfo, -, -, paid, hpaid, minted,
    ⟨edited, hedited, hminted⟩, hnext⟩ := hcall
  exact ⟨hooked, info, paid, edited, minted, hhooked, hinfo, hpaid, hedited, hminted, hnext⟩

/-- A redemption burns, makes its payments and edits the positions. -/
theorem redeem_eq_ok {quantity minReceived : ℕ}
    (hcall : redeem externals module world sender reserveAsset quantity minReceived target =
      .ok next) :
    ∃ hooked info burnt paid charged edited,
      callPreRedeemHooks externals world quantity sender target = .ok hooked ∧
      createRedemptionInfo externals module hooked reserveAsset quantity = .ok info ∧
      hooked.burn module sender quantity = .ok burnt ∧
      burnt.strictInvokeTransfer module reserveAsset target info.netFlowQuantity =
        .ok paid ∧
      handleRedemptionFees module hooked paid reserveAsset info = .ok charged ∧
      editPositions module charged reserveAsset info = .ok edited ∧
      hooked.withChain edited = next := by
  simp only [redeem, bind_eq_ok, pure_eq_ok] at hcall
  obtain ⟨-, -, -, -, hooked, hhooked, info, hinfo, -, -, burnt, hburnt, paid, hpaid,
    charged, hcharged, edited, hedited, hnext⟩ := hcall
  exact ⟨hooked, info, burnt, paid, charged, edited, hhooked, hinfo, hburnt, hpaid, hcharged,
    hedited, hnext⟩

end SetProtocol.NavIssuanceModule
