import SetProtocol.Modules.AaveV3LeverageDebt
import SetProtocol.Modules.MorphoLeverageBacking

/-!
# Removing a leverage module

A leverage module that leaves a SetToken should leave no debt behind, and should be
listed for no component.  The callback of the Morpho module syncs and looks at nothing;
the one of the Aave module looks at the debt of the assets that are enabled by then, and
its sync writes nothing once there are no shares.
-/

namespace SetProtocol

open Transaction PreciseUnitMath Venue

variable {P : Type}

/-- A leverage module, with its storage for the SetToken. -/
inductive LeverageModule (P : Type)
  | morpho (morpho : MorphoLeverageModule.Morpho P)
      (params : MorphoLeverageModule.MarketParams)
  | aave (aave : AaveV3LeverageModule.Aave P)
      (underlyingToReserveTokens : Address → AaveV3LeverageModule.ReserveTokens)
      (enabled : AaveV3LeverageModule.EnabledAssets)

namespace LeverageModule

/-- The module's callback, and what it leaves of its storage. -/
def removeModule (unregister : Address → Venue P → Outcome (Venue P)) (module : Address)
    (venue : Venue P) : LeverageModule P → Outcome (Venue P × LeverageModule P)
  | .morpho protocol params => do
    let (next, cleared) ←
      MorphoLeverageModule.removeModule protocol unregister module params venue
    pure (next, .morpho protocol cleared)
  | .aave protocol underlyingToReserveTokens enabled => do
    let (next, cleared) ← AaveV3LeverageModule.removeModule protocol unregister module
      underlyingToReserveTokens enabled venue
    pure (next, .aave protocol underlyingToReserveTokens cleared)

/-- `removeModule` of the SetToken. -/
def leaveSetToken (unregister : Address → Venue P → Outcome (Venue P)) (module : Address)
    (venue : Venue P) (sender : Address) (leverage : LeverageModule P) :
    Outcome (Venue P × LeverageModule P) := do
  venue.setToken.validateRemoveModule sender module
  let (called, cleared) ← leverage.removeModule unregister module venue
  let setToken ← called.setToken.forgetModule module
  pure (called.withChain (called.withSetToken setToken), cleared)

/-- The SetToken owes nothing: in no market of Morpho, of no debt token of Aave. -/
def NoBorrow (venue : Venue P) : LeverageModule P → Prop
  | .morpho protocol _ => ∀ market,
      (protocol.position venue.protocols market venue.setTokenAddress).borrowShares = 0
  | .aave protocol _ _ => ∀ debtToken,
      protocol.debtBalance venue.protocols venue.timestamp debtToken venue.setTokenAddress = 0

/-- There is neither debt nor an external position that the callback misses. -/
def FreeOfPositions (module : Address) (venue : Venue P) : LeverageModule P → Prop
  | .morpho protocol params =>
      (∀ market,
        (protocol.position venue.protocols market venue.setTokenAddress).borrowShares = 0) ∧
      (venue.setToken.totalSupply = 0 ∨ params.collateralToken = params.loanToken ∨
        (protocol.position venue.protocols params venue.setTokenAddress).collateral *
          preciseUnit < venue.setToken.totalSupply) ∧
      ∀ component, component ≠ params.collateralToken → component ≠ params.loanToken →
        module ∉ venue.setToken.getExternalPositionModules component
  | .aave protocol underlyingToReserveTokens enabled =>
      (∀ debtToken, (∀ asset ∈ enabled.borrowAssets,
          (underlyingToReserveTokens asset).variableDebtToken ≠ debtToken) →
        protocol.debtBalance venue.protocols venue.timestamp debtToken venue.setTokenAddress =
          0) ∧
      ∀ component, module ∈ venue.setToken.getExternalPositionModules component →
        0 < venue.setToken.totalSupply ∧ component ∈ enabled.borrowAssets

/-- Aave leaves debts alone when an asset is disabled as collateral. -/
def KeepsDebt : LeverageModule P → Prop
  | .morpho _ _ => True
  | .aave protocol _ _ => ∀ timestamp asset account useAsCollateral protocols after,
      protocol.setUserUseReserveAsCollateral timestamp asset account useAsCollateral protocols =
        .ok after →
      ∀ debtToken, protocol.debtBalance after timestamp debtToken account =
        protocol.debtBalance protocols timestamp debtToken account

end LeverageModule

/-- The accounts at the protocols are the same. -/
structure SameAccounts (venue next : Venue P) : Prop where
  setTokenAddress : next.setTokenAddress = venue.setTokenAddress
  timestamp : next.timestamp = venue.timestamp
  protocols : next.protocols = venue.protocols

/-- An issuance module writes to its own storage only when another module leaves it. -/
def KeepsVenue (unregister : Address → Venue P → Outcome (Venue P)) : Prop :=
  ∀ module venue next, unregister module venue = .ok next →
    SameSetToken venue next ∧ next.protocols = venue.protocols

variable {unregister : Address → Venue P → Outcome (Venue P)} {module sender : Address}
variable {venue next : Venue P}

theorem unregisterFromModules_same (hunregister : KeepsVenue unregister) :
    SameSetToken venue (venue.unregisterFromModules unregister) ∧
      (venue.unregisterFromModules unregister).protocols = venue.protocols :=
  run_preserves
    (fun state => SameSetToken venue state ∧ state.protocols = venue.protocols)
    (fun module _ state next hstate hcall => by
      obtain ⟨hsame, hprotocols⟩ := hunregister module state next hcall
      exact ⟨hstate.1.trans hsame, hprotocols.trans hstate.2⟩)
    ⟨SameSetToken.refl venue, rfl⟩

/-! ## What the Morpho sync leaves listed -/

namespace MorphoLeverageModule

variable {morpho : Morpho P} {params : MarketParams}

theorem toAssetsUp_eq_zero_iff {shares totalAssets totalShares assets : ℕ}
    (hcall : toAssetsUp shares totalAssets totalShares = .ok assets) :
    assets = 0 ↔ shares = 0 := by
  simp only [toAssetsUp, mulDivUp, bind_eq_ok, SafeMath.add_eq_ok, SafeMath.mul_eq_ok,
    SafeMath.sub_eq_ok, SafeMath.div_eq_ok, virtualAssets] at hcall
  obtain ⟨_, ⟨-, rfl⟩, allShares, -, _, ⟨-, rfl⟩, _, ⟨hone, rfl⟩, _, ⟨-, rfl⟩, hpositive,
    rfl⟩ := hcall
  rw [Nat.div_eq_zero_iff]
  constructor
  · intro hsmall
    by_contra hshares
    have hproduct : 0 < shares * (totalAssets + 1) :=
      Nat.mul_pos (Nat.pos_of_ne_zero hshares) (Nat.succ_pos _)
    omega
  · rintro rfl
    rw [Nat.zero_mul]
    omega

theorem getCollateralAndBorrowPositions_eq_ok {supply : ℕ} {units : ℤ × ℤ}
    (hcall : getCollateralAndBorrowPositions morpho params venue supply = .ok units) :
    (units.1 = 0 ↔ supply = 0 ∨
      (morpho.position venue.protocols params venue.setTokenAddress).collateral *
        preciseUnit < supply) ∧
    (units.2 = 0 ↔ supply = 0 ∨
      (morpho.position venue.protocols params venue.setTokenAddress).borrowShares = 0) := by
  unfold getCollateralAndBorrowPositions at hcall
  split at hcall
  · rename_i hnone
    rw [pure_eq_ok] at hcall
    subst hcall
    simp [hnone]
  · rename_i hsupply
    simp only [getCollateralAndBorrowBalances, bind_eq_ok, pure_eq_ok, preciseDiv_eq_ok,
      preciseDivCeil_eq_ok, SafeCast.toInt256_eq_ok, SignedSafeMath.mul_eq_ok] at hcall
    obtain ⟨_, ⟨market, -, debt, hdebt, rfl⟩, _, ⟨-, hpositive, rfl⟩, _, ⟨-, rfl⟩, _,
      ⟨-, -, rfl⟩, _, ⟨-, rfl⟩, _, ⟨-, rfl⟩, rfl⟩ := hcall
    dsimp only at *
    have hceil : debt * preciseUnit ⌈/⌉ supply = 0 ↔ debt = 0 := by
      rw [← Nat.le_zero, ceilDiv_le_iff_le_mul hpositive, Nat.mul_zero, Nat.le_zero,
        Nat.mul_eq_zero, or_iff_left preciseUnit_pos.ne']
    constructor
    · rw [Int.natCast_eq_zero, Nat.div_eq_zero_iff]
    · rw [mul_neg_one, neg_eq_zero, Int.natCast_eq_zero, hceil, toAssetsUp_eq_zero_iff hdebt,
        or_iff_right hsupply]

/-- After a sync the module is listed for the tokens of the market as the balances say,
and for other components as before. -/
theorem listed_after_syncPositions (hkept : Bookkept venue.setToken)
    (hcall : syncPositions morpho module params venue = .ok next) :
    SameAccounts venue next ∧
      (module ∈ next.setToken.getExternalPositionModules params.loanToken ↔
        ¬(venue.setToken.totalSupply = 0 ∨ (morpho.position venue.protocols params
          venue.setTokenAddress).borrowShares = 0)) ∧
      (params.collateralToken ≠ params.loanToken →
        (module ∈ next.setToken.getExternalPositionModules params.collateralToken ↔
          ¬(venue.setToken.totalSupply = 0 ∨ (morpho.position venue.protocols params
            venue.setTokenAddress).collateral * preciseUnit <
              venue.setToken.totalSupply))) ∧
      ∀ other, other ≠ params.collateralToken → other ≠ params.loanToken →
        (module ∈ next.setToken.getExternalPositionModules other ↔
          module ∈ venue.setToken.getExternalPositionModules other) := by
  simp only [syncPositions, bind_eq_ok, pure_eq_ok] at hcall
  obtain ⟨_, -, units, hunits, collateral, hcollateral, borrowed, hborrowed, rfl⟩ := hcall
  obtain ⟨hcollateralUnit, hborrowUnit⟩ := getCollateralAndBorrowPositions_eq_ok hunits
  obtain ⟨honly, -, -⟩ := Position.updateExternalPosition_eq_ok hkept hcollateral
  obtain ⟨hlistedCollateral, hothers⟩ := Position.mem_modules_of_update hkept hcollateral
  obtain ⟨hlistedLoan, hothers'⟩ :=
    Position.mem_modules_of_update (honly.bookkept hkept) hborrowed
  refine ⟨⟨rfl, rfl, rfl⟩, hlistedLoan.trans (not_congr hborrowUnit), fun hdiffer => ?_,
    fun other hcollateralToken hloanToken => ?_⟩
  · exact (hothers' _ hdiffer).trans (hlistedCollateral.trans (not_congr hcollateralUnit))
  · exact (hothers' other hloanToken).trans (hothers other hcollateralToken)

end MorphoLeverageModule

/-! ## What a removal leaves behind -/

namespace LeverageModule

variable {leverage cleared : LeverageModule P}

/-- Storage of the SetToken that is not written by a removal itself. -/
theorem leaveSetToken_eq_ok
    (hcall : leaveSetToken unregister module venue sender leverage = .ok (next, cleared)) :
    ∃ called, leverage.removeModule unregister module venue = .ok (called, cleared) ∧
      SameAccounts called next ∧
      next.setToken.getExternalPositionModules =
        called.setToken.getExternalPositionModules := by
  simp only [leaveSetToken, SetToken.forgetModule, bind_eq_ok, pure_eq_ok,
    Prod.mk.injEq] at hcall
  obtain ⟨_, -, ⟨called, _⟩, hcalled, _, ⟨_, -, rfl⟩, rfl, rfl⟩ := hcall
  exact ⟨called, hcalled, ⟨rfl, rfl, rfl⟩, rfl⟩

theorem morpho_leavesNothing_iff {protocol : MorphoLeverageModule.Morpho P}
    {params : MorphoLeverageModule.MarketParams} {called : Venue P}
    (hkept : Bookkept venue.setToken) (hunregister : KeepsVenue unregister)
    (hcall : (LeverageModule.morpho protocol params).removeModule unregister module venue =
      .ok (called, cleared)) :
    (NoBorrow called (.morpho protocol params) ∧
        ∀ component, module ∉ called.setToken.getExternalPositionModules component) ↔
      FreeOfPositions module venue (.morpho protocol params) := by
  simp only [removeModule, MorphoLeverageModule.removeModule, MorphoLeverageModule.sync,
    bind_eq_ok, pure_eq_ok, Prod.mk.injEq] at hcall
  obtain ⟨⟨_, _⟩, ⟨_, -, synced, ⟨_, -, hsynced⟩, rfl, rfl⟩, rfl, rfl⟩ := hcall
  obtain ⟨hsame, hloan, hcollateral, hothers⟩ :=
    MorphoLeverageModule.listed_after_syncPositions hkept hsynced
  obtain ⟨hunregistered, hprotocols⟩ :
      SameSetToken synced (synced.unregisterFromModules unregister) ∧
        (synced.unregisterFromModules unregister).protocols = synced.protocols :=
    unregisterFromModules_same hunregister
  simp only [NoBorrow, FreeOfPositions, hunregistered.setToken, hunregistered.setTokenAddress,
    hprotocols, hsame.setTokenAddress, hsame.protocols]
  refine and_congr_right fun hnoBorrow => ⟨fun hnone => ⟨?_, ?_⟩, fun hfree component => ?_⟩
  · by_contra hleft
    rw [not_or, not_or] at hleft
    have hlisted := hnone params.collateralToken
    rw [hcollateral hleft.2.1, not_not] at hlisted
    exact hlisted.elim hleft.1 hleft.2.2
  · intro component hcollateralToken hloanToken
    rw [← hothers component hcollateralToken hloanToken]
    exact hnone component
  · obtain ⟨hmarket, hother⟩ := hfree
    by_cases hloanToken : component = params.loanToken
    · rw [hloanToken, hloan, not_not]
      exact Or.inr (hnoBorrow params)
    · by_cases hcollateralToken : component = params.collateralToken
      · subst hcollateralToken
        rw [hcollateral hloanToken, not_not]
        obtain hsupply | hsame | hsmall := hmarket
        · exact Or.inl hsupply
        · exact absurd hsame hloanToken
        · exact Or.inr hsmall
      · rw [hothers component hcollateralToken hloanToken]
        exact hother component hcollateralToken hloanToken

theorem updateUseReserveAsCollateral_keeps {aave : AaveV3LeverageModule.Aave P}
    {underlyingToReserveTokens : Address → AaveV3LeverageModule.ReserveTokens}
    {enabled : AaveV3LeverageModule.EnabledAssets} {useAsCollateral : Bool} {asset : Address}
    (hdebt : KeepsDebt (.aave aave underlyingToReserveTokens enabled))
    (hcall : AaveV3LeverageModule.updateUseReserveAsCollateral aave module
      underlyingToReserveTokens useAsCollateral venue asset = .ok next) :
    SameSetToken venue next ∧ ∀ debtToken,
      aave.debtBalance next.protocols next.timestamp debtToken next.setTokenAddress =
        aave.debtBalance venue.protocols venue.timestamp debtToken venue.setTokenAddress := by
  unfold AaveV3LeverageModule.updateUseReserveAsCollateral at hcall
  split at hcall
  · simp only [bind_eq_ok, pure_eq_ok] at hcall
    obtain ⟨_, -, protocols, hset, rfl⟩ := hcall
    exact ⟨⟨rfl, rfl, rfl⟩, hdebt _ _ _ _ _ _ hset⟩
  · rw [pure_eq_ok] at hcall
    subst hcall
    exact ⟨SameSetToken.refl venue, fun _ => rfl⟩

/-- The removal has synced, found no debt of an enabled asset, and left the rest alone. -/
theorem aave_removeModule_eq_ok {aave : AaveV3LeverageModule.Aave P}
    {underlyingToReserveTokens : Address → AaveV3LeverageModule.ReserveTokens}
    {enabled left : AaveV3LeverageModule.EnabledAssets}
    (hunregister : KeepsVenue unregister)
    (hdebt : KeepsDebt (.aave aave underlyingToReserveTokens enabled))
    (hcall : AaveV3LeverageModule.removeModule aave unregister module
      underlyingToReserveTokens enabled venue = .ok (next, left)) :
    ∃ synced, AaveV3LeverageModule.sync aave module underlyingToReserveTokens enabled venue =
        .ok synced ∧
      (∀ asset ∈ enabled.borrowAssets, AaveV3LeverageModule.borrowBalance aave
        underlyingToReserveTokens synced asset = 0) ∧
      SameSetToken synced next ∧ ∀ debtToken,
        aave.debtBalance next.protocols next.timestamp debtToken next.setTokenAddress =
          aave.debtBalance synced.protocols synced.timestamp debtToken
            synced.setTokenAddress := by
  simp only [AaveV3LeverageModule.removeModule, bind_eq_ok, pure_eq_ok,
    Prod.mk.injEq] at hcall
  obtain ⟨_, -, synced, hsynced, flags, hflags, disabled, hdisabled, rfl, -⟩ := hcall
  refine ⟨synced, hsynced, ?_, ?_⟩
  · have hbody : ∀ asset ∈ enabled.borrowAssets, ∀ before after : Address → Bool, True →
        (do
          require (AaveV3LeverageModule.borrowBalance aave underlyingToReserveTokens synced
            asset = 0) "VDR"
          pure (Function.update before asset false) : Outcome (Address → Bool)) =
            .ok after →
        True ∧ AaveV3LeverageModule.borrowBalance aave underlyingToReserveTokens synced
          asset = 0 ∧ ∀ other, AaveV3LeverageModule.borrowBalance aave
            underlyingToReserveTokens synced other = 0 → AaveV3LeverageModule.borrowBalance
              aave underlyingToReserveTokens synced other = 0 := by
      intro asset _ before after _ hturn
      simp only [bind_eq_ok, require_eq_ok] at hturn
      obtain ⟨_, hnone, -⟩ := hturn
      exact ⟨trivial, hnone, fun _ hother => hother⟩
    exact (foldlM_settles hbody trivial hflags).2.1
  · have hbody : ∀ asset ∈ enabled.collateralAssets, ∀ state after,
        (SameSetToken synced state ∧ ∀ debtToken,
          aave.debtBalance state.protocols state.timestamp debtToken state.setTokenAddress =
            aave.debtBalance synced.protocols synced.timestamp debtToken
              synced.setTokenAddress) →
        AaveV3LeverageModule.updateUseReserveAsCollateral aave module
          underlyingToReserveTokens false state asset = .ok after →
        SameSetToken synced after ∧ ∀ debtToken,
          aave.debtBalance after.protocols after.timestamp debtToken after.setTokenAddress =
            aave.debtBalance synced.protocols synced.timestamp debtToken
              synced.setTokenAddress := by
      intro asset _ state after hstate hturn
      obtain ⟨hturnSame, hturnDebt⟩ := updateUseReserveAsCollateral_keeps hdebt hturn
      exact ⟨hstate.1.trans hturnSame, fun debtToken =>
        (hturnDebt debtToken).trans (hstate.2 debtToken)⟩
    obtain ⟨hsame, hsameDebt⟩ :=
      foldlM_preserves hbody ⟨SameSetToken.refl synced, fun _ => rfl⟩ hdisabled
    have hunregistered : SameSetToken disabled (disabled.unregisterFromModules unregister) ∧
        (disabled.unregisterFromModules unregister).protocols = disabled.protocols :=
      unregisterFromModules_same hunregister
    refine ⟨hsame.trans hunregistered.1, fun debtToken => ?_⟩
    rw [hunregistered.1.timestamp, hunregistered.1.setTokenAddress, hunregistered.2]
    exact hsameDebt debtToken

/-- With no debt of the listed assets, what remains is the debt of other tokens. -/
theorem all_zero_iff_of_assets {debt : Address → ℕ} {token : Address → Address}
    {assets : List Address} (hnone : ∀ asset ∈ assets, debt (token asset) = 0) :
    (∀ debtToken, debt debtToken = 0) ↔
      ∀ debtToken, (∀ asset ∈ assets, token asset ≠ debtToken) → debt debtToken = 0 := by
  refine ⟨fun hall debtToken _ => hall debtToken, fun hothers debtToken => ?_⟩
  by_cases hasset : ∃ asset ∈ assets, token asset = debtToken
  · obtain ⟨asset, hmem, rfl⟩ := hasset
    exact hnone asset hmem
  · exact hothers debtToken fun asset hmem heq => hasset ⟨asset, hmem, heq⟩

theorem aave_leavesNothing_iff {protocol : AaveV3LeverageModule.Aave P}
    {underlyingToReserveTokens : Address → AaveV3LeverageModule.ReserveTokens}
    {enabled : AaveV3LeverageModule.EnabledAssets} {called : Venue P}
    (hkept : Bookkept venue.setToken) (hunregister : KeepsVenue unregister)
    (hdebt : KeepsDebt (.aave protocol underlyingToReserveTokens enabled))
    (hcall : (LeverageModule.aave protocol underlyingToReserveTokens enabled).removeModule
      unregister module venue = .ok (called, cleared)) :
    (NoBorrow called (.aave protocol underlyingToReserveTokens enabled) ∧
        ∀ component, module ∉ called.setToken.getExternalPositionModules component) ↔
      FreeOfPositions module venue (.aave protocol underlyingToReserveTokens enabled) := by
  simp only [removeModule, bind_eq_ok, pure_eq_ok, Prod.mk.injEq] at hcall
  obtain ⟨⟨_, left⟩, hremoved, rfl, rfl⟩ := hcall
  obtain ⟨synced, hsynced, hnone, hsame, hsameDebt⟩ :=
    aave_removeModule_eq_ok hunregister hdebt hremoved
  simp only [NoBorrow, FreeOfPositions, hsameDebt, hsame.setToken]
  obtain ⟨hsupply, rfl⟩ | ⟨hsupply, edited, rfl, heffect⟩ :=
    AaveV3LeverageModule.sync_eq_ok hkept hsynced
  · -- without shares the sync wrote nothing
    refine and_congr (all_zero_iff_of_assets hnone) (forall_congr' fun component => ?_)
    simp [hsupply]
  · have hunlisted : ∀ asset ∈ enabled.borrowAssets,
        module ∉ edited.getExternalPositionModules asset := by
      intro asset hmem
      have hdebtless : AaveV3LeverageModule.borrowBalance protocol underlyingToReserveTokens
          venue asset = 0 := hnone asset hmem
      rw [(heffect.isSynced asset hmem).listed_iff, not_not,
        AaveV3LeverageModule.syncedUnit, hdebtless]
      simp
    refine and_congr (all_zero_iff_of_assets hnone) (forall_congr' fun component => ?_)
    by_cases hmem : component ∈ enabled.borrowAssets
    · exact iff_of_true (hunlisted component hmem) fun _ => ⟨hsupply, hmem⟩
    · change module ∉ edited.getExternalPositionModules component ↔ _
      rw [heffect.bookkept.mem_externalPositionModules, heffect.others component hmem,
        ← hkept.mem_externalPositionModules]
      simp [hmem]

/-- A removal leaves neither debt nor a listing exactly if there was none that the
module's callback misses. -/
theorem leavesNothing_iff (hkept : Bookkept venue.setToken)
    (hunregister : KeepsVenue unregister) (hdebt : leverage.KeepsDebt)
    (hcall : leaveSetToken unregister module venue sender leverage = .ok (next, cleared)) :
    (leverage.NoBorrow next ∧
        ∀ component, module ∉ next.setToken.getExternalPositionModules component) ↔
      leverage.FreeOfPositions module venue := by
  obtain ⟨called, hcalled, hsame, hmodules⟩ := leaveSetToken_eq_ok hcall
  have hnoBorrow : leverage.NoBorrow next ↔ leverage.NoBorrow called := by
    cases leverage <;>
      simp only [NoBorrow, hsame.protocols, hsame.timestamp, hsame.setTokenAddress]
  rw [hnoBorrow, hmodules]
  cases leverage with
  | morpho protocol params => exact morpho_leavesNothing_iff hkept hunregister hcalled
  | aave protocol underlyingToReserveTokens enabled =>
    exact aave_leavesNothing_iff hkept hunregister hdebt hcalled

/-- No module of the SetToken knows of the leaving one. -/
def noRegistration {P : Type} (_ : Address) (_ : Venue P) : Outcome (Venue P) :=
  .error "Module not registered."

theorem keepsVenue_noRegistration : KeepsVenue (@noRegistration P) :=
  fun _ _ _ hcall => nomatch hcall

/-- Levered by a hundred units, and then left by the module. -/
theorem removal_poolVenue : ∃ levered,
    MorphoLeverageModule.lever MorphoLeverageModule.poolMorpho
      MorphoLeverageModule.parityExchanges 5 MorphoLeverageModule.poolParams
      MorphoLeverageModule.poolVenue 7 (MorphoLeverageModule.parityOrder 100) = .ok levered ∧
    ∃ left, leaveSetToken noRegistration 5 levered 7
      (.morpho MorphoLeverageModule.poolMorpho MorphoLeverageModule.poolParams) = .ok left ∧
      left.1.protocols.borrowShares ≠ 0 ∧
      5 ∈ left.1.setToken.getExternalPositionModules 10 := by
  obtain ⟨levered, hlever, hleft⟩ := returns_iff.mp (by decide +kernel :
    Returns (MorphoLeverageModule.lever MorphoLeverageModule.poolMorpho
      MorphoLeverageModule.parityExchanges 5 MorphoLeverageModule.poolParams
      MorphoLeverageModule.poolVenue 7 (MorphoLeverageModule.parityOrder 100))
      fun levered => Returns (leaveSetToken noRegistration 5 levered 7
        (.morpho MorphoLeverageModule.poolMorpho MorphoLeverageModule.poolParams))
          fun left => left.1.protocols.borrowShares ≠ 0 ∧
            5 ∈ left.1.setToken.getExternalPositionModules 10)
  exact ⟨levered, hlever, returns_iff.mp hleft⟩

/-- Everything for the redemption of all shares. -/
def redeemableVenue (venue : Venue (Address → ℕ)) : Venue (Address → ℕ) :=
  venue.withChain { venue.toChain with
    balances := fun token holder =>
      if token = 9 ∧ holder = 3 then 1000 * 10 ^ 18
      else if token = 11 ∧ holder = 9 then 101000 else 0 }

/-- All shares are redeemed, and then the module leaves. -/
theorem removal_redeemableVenue : ∃ synced,
    AaveV3LeverageModule.sync AaveV3LeverageModule.debtLedger 6
      AaveV3LeverageModule.ledgerReserves AaveV3LeverageModule.borrowEleven
      AaveV3LeverageModule.indebtedVenue = .ok synced ∧
    ∃ redeemed, AaveV3LeverageModule.DebtCall.perform AaveV3LeverageModule.debtLedger 6 5
      AaveV3LeverageModule.ledgerReserves AaveV3LeverageModule.borrowEleven
      (.redeem (1000 * 10 ^ 18) [11] 3) (redeemableVenue synced) = .ok redeemed ∧
    ∃ left, leaveSetToken noRegistration 6 redeemed 7
      (.aave AaveV3LeverageModule.debtLedger AaveV3LeverageModule.ledgerReserves
        AaveV3LeverageModule.borrowEleven) = .ok left ∧
      6 ∈ left.1.setToken.getExternalPositionModules 11 := by
  obtain ⟨synced, hsynced, hrest⟩ := returns_iff.mp (by decide +kernel :
    Returns (AaveV3LeverageModule.sync AaveV3LeverageModule.debtLedger 6
      AaveV3LeverageModule.ledgerReserves AaveV3LeverageModule.borrowEleven
      AaveV3LeverageModule.indebtedVenue) fun synced =>
        Returns (AaveV3LeverageModule.DebtCall.perform AaveV3LeverageModule.debtLedger 6 5
          AaveV3LeverageModule.ledgerReserves AaveV3LeverageModule.borrowEleven
          (.redeem (1000 * 10 ^ 18) [11] 3) (redeemableVenue synced)) fun redeemed =>
            Returns (leaveSetToken noRegistration 6 redeemed 7
              (.aave AaveV3LeverageModule.debtLedger AaveV3LeverageModule.ledgerReserves
                AaveV3LeverageModule.borrowEleven)) fun left =>
                  6 ∈ left.1.setToken.getExternalPositionModules 11)
  obtain ⟨redeemed, hredeemed, hleft⟩ := returns_iff.mp hrest
  exact ⟨synced, hsynced, redeemed, hredeemed, returns_iff.mp hleft⟩

theorem leavesNothing_levered_pool : ∃ levered left,
    leaveSetToken noRegistration 5 levered 7
      (.morpho MorphoLeverageModule.poolMorpho MorphoLeverageModule.poolParams) = .ok left ∧
    ((NoBorrow left.1 (.morpho MorphoLeverageModule.poolMorpho
        MorphoLeverageModule.poolParams) ∧
      ∀ component, 5 ∉ left.1.setToken.getExternalPositionModules component) ↔
    FreeOfPositions 5 levered (.morpho MorphoLeverageModule.poolMorpho
      MorphoLeverageModule.poolParams)) := by
  obtain ⟨levered, hlever, left, hleft, -⟩ := removal_poolVenue
  exact ⟨levered, left, hleft, leavesNothing_iff
    (MorphoLeverageModule.bookkept_after_lever hlever) keepsVenue_noRegistration trivial
    hleft⟩

/-- The Morpho module leaves with its debt, the Aave module with the stale position of
a SetToken without shares. -/
theorem leftovers_after_removal :
    (¬∀ venue left, Bookkept venue.setToken →
      leaveSetToken noRegistration 5 venue 7
        (.morpho MorphoLeverageModule.poolMorpho MorphoLeverageModule.poolParams) =
          .ok left →
      NoBorrow left.1 (.morpho MorphoLeverageModule.poolMorpho
        MorphoLeverageModule.poolParams)) ∧
    ¬∀ venue left, Bookkept venue.setToken →
      leaveSetToken noRegistration 6 venue 7
        (.aave AaveV3LeverageModule.debtLedger AaveV3LeverageModule.ledgerReserves
          AaveV3LeverageModule.borrowEleven) = .ok left →
      ∀ component, 6 ∉ left.1.setToken.getExternalPositionModules component := by
  constructor
  · intro hall
    obtain ⟨levered, hlever, left, hleft, hdebt, -⟩ := removal_poolVenue
    exact hdebt (hall levered left (MorphoLeverageModule.bookkept_after_lever hlever) hleft
      MorphoLeverageModule.poolParams)
  · intro hall
    obtain ⟨synced, hsynced, redeemed, hredeemed, left, hleft, hlisted⟩ :=
      removal_redeemableVenue
    have hborrow : (11 : Address) ∈ AaveV3LeverageModule.borrowEleven.borrowAssets := by
      decide
    have hmatching : AaveV3LeverageModule.DebtCall.Matching 11
        (.redeem (1000 * 10 ^ 18) [11] 3) := (rfl : List.count 11 [11] = 1)
    obtain ⟨hkept, hcovered⟩ := AaveV3LeverageModule.covered_after_sync
      AaveV3LeverageModule.bookkept_indebtedVenue hborrow hsynced (Or.inl (by decide))
    have hkeptReady : Bookkept (redeemableVenue synced).setToken := hkept
    have hcoveredReady : AaveV3LeverageModule.Covered AaveV3LeverageModule.debtLedger 6
        AaveV3LeverageModule.ledgerReserves (redeemableVenue synced) 11 := hcovered
    obtain ⟨hkeptRedeemed, -⟩ := AaveV3LeverageModule.covered_after_call
      (AaveV3LeverageModule.exactDebt_debtLedger 11) hborrow hmatching
      hkeptReady hcoveredReady hredeemed
    exact hall redeemed left hkeptRedeemed hleft 11 hlisted

end LeverageModule

end SetProtocol
