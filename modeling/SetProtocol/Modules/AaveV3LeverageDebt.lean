import SetProtocol.Core.SetTokenCreator
import SetProtocol.Modules.AaveV3LeverageModule

/-!
# Debt positions on Aave

A debt position covers the debt if its unit times the supply is at least the debt.
Syncing makes every enabled borrow asset covered: spreading the debt rounds the unit
up, and so does the way over the virtual unit.  Issuing then borrows a floor and
redeeming repays a ceiling, so the debt stays covered.
-/

namespace SetProtocol.AaveV3LeverageModule

open Transaction PreciseUnitMath Venue

variable {P : Type} {aave : Aave P} {module : Address}
variable {underlyingToReserveTokens : Address → ReserveTokens} {enabled : EnabledAssets}
variable {venue next : Venue P} {asset borrowAsset : Address}

/-! ## What syncing writes -/

/-- The external units, and what they are read with, are the same. -/
structure SameExternals (setToken next : SetToken) : Prop where
  bookkept : Bookkept next
  totalSupply : next.totalSupply = setToken.totalSupply
  positionMultiplier : next.positionMultiplier = setToken.positionMultiplier
  externalUnits : next.externalPositionVirtualUnit = setToken.externalPositionVirtualUnit

theorem SameExternals.trans {setToken middle last : SetToken}
    (hfirst : SameExternals setToken middle) (hsecond : SameExternals middle last) :
    SameExternals setToken last :=
  ⟨hsecond.bookkept, hsecond.totalSupply.trans hfirst.totalSupply,
    hsecond.positionMultiplier.trans hfirst.positionMultiplier,
    hsecond.externalUnits.trans hfirst.externalUnits⟩

theorem syncCollateralAsset_sameExternals {setToken edited : SetToken}
    (hkept : Bookkept setToken)
    (hcall : syncCollateralAsset module underlyingToReserveTokens venue setToken asset =
      .ok edited) : SameExternals setToken edited := by
  simp only [syncCollateralAsset, bind_eq_ok] at hcall
  obtain ⟨_, -, _, -, _, -, hedited⟩ := hcall
  split at hedited
  · obtain ⟨hsupply, hmultiplier, hunits⟩ := Position.externalUnits_of_editDefault hedited
    exact ⟨hkept.editDefaultPosition hedited, hsupply, hmultiplier, hunits⟩
  · rw [pure_eq_ok] at hedited
    subst hedited
    exact ⟨hkept, rfl, rfl, rfl⟩

/-- The unit that a sync writes for an asset. -/
def syncedUnit (aave : Aave P) (underlyingToReserveTokens : Address → ReserveTokens)
    (venue : Venue P) (asset : Address) : ℤ :=
  -((borrowBalance aave underlyingToReserveTokens venue asset * preciseUnit ⌈/⌉
    venue.setToken.totalSupply : ℕ) : ℤ)

theorem getBorrowPosition_eq_ok {unit : ℤ}
    (hcall : getBorrowPosition aave underlyingToReserveTokens venue asset
      venue.setToken.totalSupply = .ok unit) :
    unit = syncedUnit aave underlyingToReserveTokens venue asset := by
  simp only [getBorrowPosition, bind_eq_ok, preciseDivCeil_eq_ok, SafeCast.toInt256_eq_ok,
    SignedSafeMath.mul_eq_ok] at hcall
  obtain ⟨_, ⟨-, -, rfl⟩, _, ⟨-, rfl⟩, -, rfl⟩ := hcall
  rw [syncedUnit, mul_neg_one]

/-- The external position of an asset is as a sync leaves it. -/
structure IsSynced (aave : Aave P) (module : Address)
    (underlyingToReserveTokens : Address → ReserveTokens) (venue : Venue P)
    (asset : Address) (setToken : SetToken) : Prop where
  realUnit_le : setToken.externalRealUnit asset module ≤
    syncedUnit aave underlyingToReserveTokens venue asset
  listed_iff : module ∈ setToken.getExternalPositionModules asset ↔
    syncedUnit aave underlyingToReserveTokens venue asset ≠ 0

/-- What a sync leaves alone. -/
structure OthersKept (module : Address) (borrowAssets : List Address) (venue : Venue P)
    (setToken : SetToken) : Prop where
  bookkept : Bookkept setToken
  totalSupply : setToken.totalSupply = venue.setToken.totalSupply
  positionMultiplier : setToken.positionMultiplier = venue.setToken.positionMultiplier
  others : ∀ asset, asset ∉ borrowAssets →
    setToken.externalPositionVirtualUnit asset module =
      venue.setToken.externalPositionVirtualUnit asset module

/-- A synced SetToken, as seen from the one that a sync began with. -/
structure SyncEffect (aave : Aave P) (module : Address)
    (underlyingToReserveTokens : Address → ReserveTokens) (borrowAssets : List Address)
    (venue : Venue P) (setToken : SetToken) : Prop
    extends OthersKept module borrowAssets venue setToken where
  isSynced : ∀ asset ∈ borrowAssets,
    IsSynced aave module underlyingToReserveTokens venue asset setToken

/-- Body of the loop: the asset is synced, and what was synced before stays so. -/
theorem syncBorrowAsset_eq_ok {setToken edited : SetToken} (hkept : Bookkept setToken)
    (hsupply : setToken.totalSupply = venue.setToken.totalSupply)
    (hcall : syncBorrowAsset aave module underlyingToReserveTokens venue setToken
      borrowAsset = .ok edited) :
    Position.OnlyExternal borrowAsset module setToken edited ∧
      IsSynced aave module underlyingToReserveTokens venue borrowAsset edited ∧
      ∀ other, IsSynced aave module underlyingToReserveTokens venue other setToken →
        IsSynced aave module underlyingToReserveTokens venue other edited := by
  simp only [syncBorrowAsset, bind_eq_ok] at hcall
  obtain ⟨unit, hunit, hedited⟩ := hcall
  rw [hsupply] at hunit
  obtain rfl := getBorrowPosition_eq_ok hunit
  obtain ⟨honly, hle, -⟩ := Position.updateExternalPosition_eq_ok hkept hedited
  obtain ⟨hlisted, hlistedOther⟩ := Position.mem_modules_of_update hkept hedited
  have hsynced : IsSynced aave module underlyingToReserveTokens venue borrowAsset edited :=
    ⟨hle, hlisted⟩
  refine ⟨honly, hsynced, fun other hother => ?_⟩
  by_cases heq : other = borrowAsset
  · exact heq ▸ hsynced
  · refine ⟨?_, (hlistedOther other heq).trans hother.listed_iff⟩
    rw [SetToken.externalRealUnit, honly.positionMultiplier,
      honly.externalUnits other module (Or.inl heq)]
    exact hother.realUnit_le

/-- A sync of no shares writes nothing. -/
theorem sync_eq_ok (hkept : Bookkept venue.setToken)
    (hcall : sync aave module underlyingToReserveTokens enabled venue = .ok next) :
    (venue.setToken.totalSupply = 0 ∧ next = venue) ∨
      (0 < venue.setToken.totalSupply ∧ ∃ synced,
        next = venue.withChain (venue.withSetToken synced) ∧
        SyncEffect aave module underlyingToReserveTokens enabled.borrowAssets venue
          synced) := by
  simp only [sync, bind_eq_ok] at hcall
  obtain ⟨_, -, hsynced⟩ := hcall
  split at hsynced
  · rename_i hsupply
    simp only [bind_eq_ok, pure_eq_ok] at hsynced
    obtain ⟨collateralSynced, hcollateral, synced, hborrow, rfl⟩ := hsynced
    refine Or.inr ⟨hsupply, synced, rfl, ?_⟩
    have hsame : SameExternals venue.setToken collateralSynced :=
      foldlM_preserves (fun asset _ setToken edited hbefore hedited =>
          hbefore.trans (syncCollateralAsset_sameExternals hbefore.bookkept hedited))
        ⟨hkept, rfl, rfl, rfl⟩ hcollateral
    have hbody : ∀ borrowAsset ∈ enabled.borrowAssets, ∀ setToken edited,
        OthersKept module enabled.borrowAssets venue setToken →
        syncBorrowAsset aave module underlyingToReserveTokens venue setToken borrowAsset =
          .ok edited →
        OthersKept module enabled.borrowAssets venue edited ∧
          IsSynced aave module underlyingToReserveTokens venue borrowAsset edited ∧
          ∀ other, IsSynced aave module underlyingToReserveTokens venue other setToken →
            IsSynced aave module underlyingToReserveTokens venue other edited := by
      intro borrowAsset hmem setToken edited hbefore hedited
      obtain ⟨honly, hdone, hkeep⟩ :=
        syncBorrowAsset_eq_ok hbefore.bookkept hbefore.totalSupply hedited
      refine ⟨⟨honly.bookkept hbefore.bookkept, honly.totalSupply.trans hbefore.totalSupply,
        honly.positionMultiplier.trans hbefore.positionMultiplier, fun asset hasset => ?_⟩,
        hdone, hkeep⟩
      have hne : asset ≠ borrowAsset := fun heq => hasset (heq ▸ hmem)
      rw [honly.externalUnits asset module (Or.inl hne), hbefore.others asset hasset]
    have hstart : OthersKept module enabled.borrowAssets venue collateralSynced :=
      ⟨hsame.bookkept, hsame.totalSupply, hsame.positionMultiplier,
        fun asset _ => by rw [hsame.externalUnits]⟩
    obtain ⟨hothers, hsyncedAll, -⟩ := foldlM_settles hbody hstart hborrow
    exact ⟨hothers, hsyncedAll⟩
  · rename_i hnone
    rw [pure_eq_ok] at hsynced
    exact Or.inl ⟨Nat.eq_zero_of_not_pos hnone, hsynced.symm⟩

/-! ## Covered debt -/

/-- The unit of a debt position, without its sign. -/
def debtUnit (module : Address) (setToken : SetToken) (asset : Address) : ℕ :=
  (-setToken.externalRealUnit asset module).toNat

theorem debtUnit_le_natAbs {setToken : SetToken} : debtUnit module setToken asset ≤
    (setToken.externalRealUnit asset module).natAbs := by
  rw [debtUnit]
  omega

/-- The position promises at least the debt. -/
def Covered (aave : Aave P) (module : Address)
    (underlyingToReserveTokens : Address → ReserveTokens) (venue : Venue P)
    (asset : Address) : Prop :=
  preciseUnit * borrowBalance aave underlyingToReserveTokens venue asset ≤
    debtUnit module venue.setToken asset * venue.setToken.totalSupply

theorem covered_after_sync (hkept : Bookkept venue.setToken)
    (hborrow : borrowAsset ∈ enabled.borrowAssets)
    (hcall : sync aave module underlyingToReserveTokens enabled venue = .ok next)
    (hbefore : 0 < venue.setToken.totalSupply ∨
      Covered aave module underlyingToReserveTokens venue borrowAsset) :
    Bookkept next.setToken ∧
      Covered aave module underlyingToReserveTokens next borrowAsset := by
  obtain ⟨hnone, rfl⟩ | ⟨hsupply, synced, rfl, heffect⟩ := sync_eq_ok hkept hcall
  · exact ⟨hkept, hbefore.resolve_left (by omega)⟩
  · refine ⟨heffect.bookkept, ?_⟩
    have hunit : borrowBalance aave underlyingToReserveTokens venue borrowAsset *
        preciseUnit ⌈/⌉ venue.setToken.totalSupply ≤ debtUnit module synced borrowAsset := by
      have hle := (heffect.isSynced borrowAsset hborrow).realUnit_le
      rw [syncedUnit] at hle
      rw [debtUnit]
      omega
    calc preciseUnit * borrowBalance aave underlyingToReserveTokens venue borrowAsset
        = borrowBalance aave underlyingToReserveTokens venue borrowAsset * preciseUnit :=
          Nat.mul_comm _ _
      _ ≤ borrowBalance aave underlyingToReserveTokens venue borrowAsset * preciseUnit ⌈/⌉
            venue.setToken.totalSupply * venue.setToken.totalSupply :=
          Backing.le_ceilDiv_mul _ hsupply
      _ ≤ debtUnit module synced borrowAsset * synced.totalSupply := by
          rw [heffect.totalSupply]
          exact Nat.mul_le_mul_right _ hunit

/-! ## Hooks -/

/-- Without interest the debt of an asset only changes by what is borrowed and repaid of
it, and the pool takes no more than the debt. -/
structure ExactDebt (aave : Aave P) (underlyingToReserveTokens : Address → ReserveTokens)
    (asset : Address) : Prop where
  borrow : ∀ timestamp borrowed amount account protocols after,
    aave.borrow timestamp borrowed amount account protocols = .ok after →
    aave.debtBalance after timestamp (underlyingToReserveTokens asset).variableDebtToken
        account =
      aave.debtBalance protocols timestamp
        (underlyingToReserveTokens asset).variableDebtToken account +
      if borrowed = asset then amount else 0
  repay : ∀ timestamp repaid amount account protocols after paid,
    aave.repay timestamp repaid amount account protocols = .ok (after, paid) →
    aave.debtBalance after timestamp (underlyingToReserveTokens asset).variableDebtToken
        account =
      aave.debtBalance protocols timestamp
        (underlyingToReserveTokens asset).variableDebtToken account -
      if repaid = asset then amount else 0

theorem componentDebtUnit_eq_ok {setToken : SetToken} {unit : ℕ}
    (hcall : componentDebtUnit module setToken asset = .ok unit) :
    setToken.externalRealUnit asset module < 0 ∧ unit = debtUnit module setToken asset := by
  simp only [componentDebtUnit, bind_eq_ok, require_eq_ok, SignedSafeMath.mul_eq_ok,
    SafeCast.toUint256_eq_ok] at hcall
  obtain ⟨debt, hdebt, _, hnegative, _, ⟨-, rfl⟩, hunit⟩ := hcall
  obtain rfl := SetToken.getExternalPositionRealUnit_eq_ok hdebt
  refine ⟨hnegative, ?_⟩
  rw [debtUnit]
  omega

theorem componentIssueHook_eq_ok {sender component : Address} {quantity : ℕ}
    (hexact : ExactDebt aave underlyingToReserveTokens asset)
    (hcall : componentIssueHook aave module venue sender quantity component false =
      .ok next) :
    SameSetToken venue next ∧
      borrowBalance aave underlyingToReserveTokens next asset =
        borrowBalance aave underlyingToReserveTokens venue asset +
          if component = asset then
            debtUnit module venue.setToken asset * quantity / preciseUnit
          else 0 := by
  simp only [componentIssueHook, if_true, bind_eq_ok, preciseMul_eq_ok] at hcall
  obtain ⟨_, -, unit, hunit, _, ⟨-, rfl⟩, hborrow⟩ := hcall
  obtain ⟨-, rfl⟩ := componentDebtUnit_eq_ok hunit
  obtain ⟨_, _, chain, hexecuted, hmoved, rfl⟩ := invokeReceiving_eq_ok hborrow
  simp only [bind_eq_ok, pure_eq_ok, Prod.mk.injEq] at hexecuted
  obtain ⟨after, hborrowed, rfl, -⟩ := hexecuted
  have hsame := sameSetToken_of_moveTokens hmoved after
    (protocolCall aave module .borrow component
      (debtUnit module venue.setToken component * quantity / preciseUnit))
  refine ⟨hsame, ?_⟩
  have hdebt := hexact.borrow _ _ _ _ _ _ hborrowed
  rw [borrowBalance, hsame.timestamp, hsame.setTokenAddress]
  refine hdebt.trans ?_
  rw [borrowBalance]
  split
  · rename_i heq
    rw [heq]
  · rfl

theorem componentRedeemHook_eq_ok {sender component : Address} {quantity : ℕ}
    (hexact : ExactDebt aave underlyingToReserveTokens asset)
    (hcall : componentRedeemHook aave module venue sender quantity component false =
      .ok next) :
    SameSetToken venue next ∧
      borrowBalance aave underlyingToReserveTokens next asset =
        borrowBalance aave underlyingToReserveTokens venue asset -
          if component = asset then
            debtUnit module venue.setToken asset * quantity ⌈/⌉ preciseUnit
          else 0 := by
  simp only [componentRedeemHook, if_true, bind_eq_ok, preciseMulCeil_eq_ok] at hcall
  obtain ⟨_, -, unit, hunit, _, ⟨-, rfl⟩, hrepay⟩ := hcall
  obtain ⟨-, rfl⟩ := componentDebtUnit_eq_ok hunit
  obtain ⟨protocols, paid, chain, hexecuted, -, hmoved, rfl⟩ := invokePaying_eq_ok hrepay
  have hsame := sameSetToken_of_moveTokens hmoved protocols
    (protocolCall aave module .repay component
      (debtUnit module venue.setToken component * quantity ⌈/⌉ preciseUnit))
  refine ⟨hsame, ?_⟩
  have hdebt := hexact.repay _ _ _ _ _ _ _ hexecuted
  rw [borrowBalance, hsame.timestamp, hsame.setTokenAddress]
  refine hdebt.trans ?_
  rw [borrowBalance]
  split
  · rename_i heq
    rw [heq]
  · rfl

/-- The hooks of an issuance, each run once for its component. -/
theorem issueHooks_eq_ok {sender : Address} {quantity : ℕ} {components : List Address}
    (hexact : ExactDebt aave underlyingToReserveTokens asset)
    (hcall : components.foldlM (fun venue component =>
      componentIssueHook aave module venue sender quantity component false) venue =
        .ok next) :
    SameSetToken venue next ∧
      borrowBalance aave underlyingToReserveTokens next asset =
        borrowBalance aave underlyingToReserveTokens venue asset +
          components.count asset *
            (debtUnit module venue.setToken asset * quantity / preciseUnit) := by
  induction components generalizing venue with
  | nil =>
    rw [List.foldlM_nil, pure_eq_ok] at hcall
    subst hcall
    exact ⟨SameSetToken.refl venue, by simp⟩
  | cons component components ih =>
    rw [List.foldlM_cons, bind_eq_ok] at hcall
    obtain ⟨middle, hmiddle, hrest⟩ := hcall
    obtain ⟨hsame, hdebt⟩ := componentIssueHook_eq_ok hexact hmiddle
    obtain ⟨hsameRest, hdebtRest⟩ := ih hrest
    refine ⟨hsame.trans hsameRest, ?_⟩
    rw [hdebtRest, hdebt, hsame.setToken, List.count_cons]
    by_cases heq : component = asset
    · simp only [heq, if_true, beq_self_eq_true]
      ring
    · simp [heq]

theorem redeemHooks_eq_ok {sender : Address} {quantity : ℕ} {components : List Address}
    (hexact : ExactDebt aave underlyingToReserveTokens asset)
    (hcall : components.foldlM (fun venue component =>
      componentRedeemHook aave module venue sender quantity component false) venue =
        .ok next) :
    SameSetToken venue next ∧
      borrowBalance aave underlyingToReserveTokens next asset =
        borrowBalance aave underlyingToReserveTokens venue asset -
          components.count asset *
            (debtUnit module venue.setToken asset * quantity ⌈/⌉ preciseUnit) := by
  induction components generalizing venue with
  | nil =>
    rw [List.foldlM_nil, pure_eq_ok] at hcall
    subst hcall
    exact ⟨SameSetToken.refl venue, by simp⟩
  | cons component components ih =>
    rw [List.foldlM_cons, bind_eq_ok] at hcall
    obtain ⟨middle, hmiddle, hrest⟩ := hcall
    obtain ⟨hsame, hdebt⟩ := componentRedeemHook_eq_ok hexact hmiddle
    obtain ⟨hsameRest, hdebtRest⟩ := ih hrest
    refine ⟨hsame.trans hsameRest, ?_⟩
    rw [hdebtRest, hdebt, hsame.setToken, List.count_cons, Nat.sub_sub]
    by_cases heq : component = asset
    · simp only [heq, if_true, beq_self_eq_true]
      congr 1
      ring
    · simp [heq]

/-! ## Histories -/

/-- Issuances and redemptions with the debt hooks of the listed components, syncs, and
tokens that come and go in between. -/
inductive DebtCall
  | issue (quantity : ℕ) (components : List Address) (target : Address)
  | redeem (quantity : ℕ) (components : List Address) (holder : Address)
  | sync
  | transfers (balances : Address → Address → ℕ)

/-- The issuance module mints after the hooks, and burns before them. -/
def DebtCall.perform (aave : Aave P) (module issuanceModule : Address)
    (underlyingToReserveTokens : Address → ReserveTokens) (enabled : EnabledAssets) :
    DebtCall → Venue P → Outcome (Venue P)
  | .issue quantity components target, venue => do
    let hooked ← components.foldlM (fun venue component =>
      componentIssueHook aave module venue issuanceModule quantity component false) venue
    let chain ← hooked.mint issuanceModule target quantity
    pure (hooked.withChain chain)
  | .redeem quantity components holder, venue => do
    let chain ← venue.burn issuanceModule holder quantity
    components.foldlM (fun venue component =>
      componentRedeemHook aave module venue issuanceModule quantity component false)
      (venue.withChain chain)
  | .sync, venue => AaveV3LeverageModule.sync aave module underlyingToReserveTokens enabled venue
  | .transfers balances, venue => pure (venue.withChain { venue.toChain with balances := balances })

/-- The supply changes by the quantity that the hook of the asset runs with. -/
def DebtCall.Matching (asset : Address) : DebtCall → Prop
  | .issue _ components _ | .redeem _ components _ => components.count asset = 1
  | .sync | .transfers _ => True

theorem covered_after_issue {unit debt supply quantity : ℕ}
    (hcovered : preciseUnit * debt ≤ unit * supply) :
    preciseUnit * (debt + unit * quantity / preciseUnit) ≤ unit * (supply + quantity) := by
  rw [Nat.mul_add, Nat.mul_add]
  exact Nat.add_le_add hcovered (Nat.mul_div_le _ _)

theorem covered_after_redeem {unit debt supply quantity : ℕ}
    (hcovered : preciseUnit * debt ≤ unit * supply) :
    preciseUnit * (debt - unit * quantity ⌈/⌉ preciseUnit) ≤ unit * (supply - quantity) := by
  have hrepaid : unit * quantity ≤ unit * quantity ⌈/⌉ preciseUnit * preciseUnit :=
    Backing.le_ceilDiv_mul _ preciseUnit_pos
  rw [Nat.mul_sub, Nat.mul_sub, Nat.mul_comm preciseUnit (_ ⌈/⌉ _)]
  exact tsub_le_tsub hcovered hrepaid

theorem covered_after_call {issuanceModule : Address} {call : DebtCall}
    (hexact : ExactDebt aave underlyingToReserveTokens borrowAsset)
    (hborrow : borrowAsset ∈ enabled.borrowAssets) (hmatching : call.Matching borrowAsset)
    (hkept : Bookkept venue.setToken)
    (hcovered : Covered aave module underlyingToReserveTokens venue borrowAsset)
    (hcall : call.perform aave module issuanceModule underlyingToReserveTokens enabled venue =
      .ok next) :
    Bookkept next.setToken ∧
      Covered aave module underlyingToReserveTokens next borrowAsset := by
  cases call with
  | issue quantity components target =>
    simp only [DebtCall.perform, bind_eq_ok, pure_eq_ok] at hcall
    obtain ⟨hooked, hhooked, chain, hminted, rfl⟩ := hcall
    obtain ⟨hsame, hdebt⟩ := issueHooks_eq_ok hexact hhooked
    obtain ⟨-, -, rfl⟩ := Chain.mint_eq_ok hminted
    rw [hmatching, Nat.one_mul] at hdebt
    have hkeptHooked : Bookkept hooked.setToken := by rwa [hsame.setToken]
    refine ⟨hkeptHooked.of_same_positions rfl rfl rfl, ?_⟩
    change preciseUnit * borrowBalance aave underlyingToReserveTokens hooked borrowAsset ≤
      debtUnit module hooked.setToken borrowAsset * (hooked.setToken.totalSupply + quantity)
    rw [hdebt, hsame.setToken]
    exact covered_after_issue hcovered
  | redeem quantity components holder =>
    simp only [DebtCall.perform, bind_eq_ok] at hcall
    obtain ⟨chain, hburnt, hhooked⟩ := hcall
    obtain ⟨hsame, hdebt⟩ := redeemHooks_eq_ok hexact hhooked
    obtain ⟨-, -, -, rfl⟩ := Chain.burn_eq_ok hburnt
    rw [hmatching, Nat.one_mul] at hdebt
    refine ⟨?_, ?_⟩
    · rw [hsame.setToken]
      exact hkept.of_same_positions rfl rfl rfl
    · rw [Covered, hdebt, hsame.setToken]
      exact covered_after_redeem hcovered
  | sync => exact covered_after_sync hkept hborrow hcall (Or.inr hcovered)
  | transfers balances =>
    rw [DebtCall.perform, pure_eq_ok] at hcall
    subst hcall
    exact ⟨hkept, hcovered⟩

/-- After a sync the debt stays covered, whatever is issued, redeemed and synced. -/
theorem covered_of_history {issuanceModule : Address} {synced : Venue P}
    {calls : List DebtCall}
    (hexact : ExactDebt aave underlyingToReserveTokens borrowAsset)
    (hkept : Bookkept venue.setToken) (hborrow : borrowAsset ∈ enabled.borrowAssets)
    (hsupply : 0 < venue.setToken.totalSupply)
    (hsync : sync aave module underlyingToReserveTokens enabled venue = .ok synced)
    (hmatching : ∀ call ∈ calls, call.Matching borrowAsset) :
    let final := run (DebtCall.perform aave module issuanceModule underlyingToReserveTokens
      enabled) calls synced
    preciseUnit * borrowBalance aave underlyingToReserveTokens final borrowAsset ≤
      (final.setToken.externalRealUnit borrowAsset module).natAbs *
        final.setToken.totalSupply := by
  have hstart := covered_after_sync hkept hborrow hsync (Or.inl hsupply)
  obtain ⟨-, hcovered⟩ := run_preserves
    (fun venue : Venue P => Bookkept venue.setToken ∧
      Covered aave module underlyingToReserveTokens venue borrowAsset)
    (fun call hcall _ _ hbefore hperform => covered_after_call hexact hborrow
      (hmatching call hcall) hbefore.1 hbefore.2 hperform) hstart
  exact hcovered.trans (Nat.mul_le_mul_right _ debtUnit_le_natAbs)

/-- A pool with one account, which keeps the debts by their tokens. -/
def debtLedger : Aave (Address → ℕ) where
  pool := 30
  debtBalance debts _ debtToken _ := debts debtToken
  usageAsCollateralEnabled _ _ _ := false
  setUserUseReserveAsCollateral _ _ _ _ debts := .ok debts
  borrow _ asset amount _ debts :=
    .ok (Function.update debts (asset + 100) (debts (asset + 100) + amount))
  repay _ asset amount _ debts :=
    .ok (Function.update debts (asset + 100) (debts (asset + 100) - amount),
      min amount (debts (asset + 100)))

def ledgerReserves (asset : Address) : ReserveTokens := ⟨asset + 200, asset + 100⟩

theorem exactDebt_debtLedger (asset : Address) :
    ExactDebt debtLedger ledgerReserves asset := by
  constructor
  · intro timestamp borrowed amount account debts after hcall
    cases hcall
    by_cases heq : borrowed = asset
    · simp [debtLedger, ledgerReserves, heq]
    · have hne : asset + 100 ≠ borrowed + 100 := fun hsame =>
        heq (Nat.add_right_cancel hsame).symm
      simp [debtLedger, ledgerReserves, heq, Function.update_of_ne hne]
  · intro timestamp repaid amount account debts after paid hcall
    cases hcall
    by_cases heq : repaid = asset
    · simp [debtLedger, ledgerReserves, heq]
    · have hne : asset + 100 ≠ repaid + 100 := fun hsame =>
        heq (Nat.add_right_cancel hsame).symm
      simp [debtLedger, ledgerReserves, heq, Function.update_of_ne hne]

/-- A debt that does not divide evenly, and has no position yet. -/
def indebtedVenue : Venue (Address → ℕ) where
  controller := { Controller.deploy 1 2 with
    isSet := fun setToken => setToken == 9
    isModule := fun module => module == 5 || module == 6 }
  setTokenAddress := 9
  setToken := { SetToken.deploy [10] [50] [5] 7 with
    modules := [5, 6]
    moduleStates := fun module =>
      if module = 5 ∨ module = 6 then .INITIALIZED else .NONE
    totalSupply := 1000 * 10 ^ 18 }
  balances := fun token holder => if token = 11 ∧ holder = 30 then 10 ^ 9 else 0
  timestamp := 1
  protocols := fun debtToken => if debtToken = 111 then 100001 else 0
  protocolCalls := []

theorem bookkept_indebtedVenue : Bookkept indebtedVenue.setToken :=
  (SetTokenCreator.bookkept_deploy rfl (by decide) (by decide) :
    Bookkept (SetToken.deploy [10] [50] [5] 7)).of_same_positions rfl rfl rfl

def borrowEleven : EnabledAssets := ⟨[], [11], fun _ => false, fun asset => asset == 11⟩

theorem covered_of_history_uneven_debt : ∃ synced,
    sync debtLedger 6 ledgerReserves borrowEleven indebtedVenue = .ok synced ∧
      let final := run (DebtCall.perform debtLedger 6 5 ledgerReserves borrowEleven)
        [.issue (10 * 10 ^ 18) [11] 3, .redeem (5 * 10 ^ 18) [11] 3, .sync] synced
      preciseUnit * borrowBalance debtLedger ledgerReserves final 11 ≤
        (final.setToken.externalRealUnit 11 6).natAbs * final.setToken.totalSupply := by
  obtain ⟨synced, hsync, -⟩ := returns_iff.mp (by decide +kernel :
    Returns (sync debtLedger 6 ledgerReserves borrowEleven indebtedVenue) fun _ => True)
  refine ⟨synced, hsync, covered_of_history (exactDebt_debtLedger 11) bookkept_indebtedVenue
    (by decide) (by decide) hsync ?_⟩
  intro call hcall
  simp only [List.mem_cons, List.not_mem_nil, or_false] at hcall
  obtain rfl | rfl | rfl := hcall
  · exact (rfl : List.count 11 [11] = 1)
  · exact (rfl : List.count 11 [11] = 1)
  · trivial

end SetProtocol.AaveV3LeverageModule
