import SetProtocol.Modules.NavIssuanceEffects
import SetProtocol.Core.SetTokenCreator
import Mathlib.Algebra.BigOperators.Ring.List

/-!
# Issuing and redeeming at once

Every computation of the module rounds in favour of the Set, but for one: the
valuation of an issuance rounds down, and a lower valuation mints more shares.
Shares that are redeemed as soon as they were issued therefore return at most what
was paid, net of fees and premium, and their part of the value that the valuation
has rounded away.
-/

namespace SetProtocol.NavIssuanceModule

open Transaction PreciseUnitMath SetValuer

variable {E : Type} {externals : Externals E} {oracle : Oracle}
variable {module sender reserveAsset target : Address}
variable {world next : World E} {chain reached : Chain} {info : ActionInfo}

/-! ## Amounts -/

/-- The part of a payment that is kept as premium. -/
def premiumValue (world : World E) (netFlow : ℕ) : ℕ :=
  netFlow * world.navIssuanceSettings.premiumPercentage / preciseUnit

/-- An amount of the reserve asset in precise units. -/
def normalized (externals : Externals E) (reserveAsset : Address) (amount : ℕ) : ℕ :=
  amount * preciseUnit / reserveBaseUnits externals reserveAsset

/-- The minted shares are worth at most the payment less the premium, at the
perceived value of all shares together with the payment. -/
theorem getSetTokenMintQuantity_le {netFlow supply minted : ℕ}
    (hcall : getSetTokenMintQuantity externals world reserveAsset netFlow supply =
      .ok minted) :
    premiumValue world netFlow ≤ netFlow ∧ 0 < reserveBaseUnits externals reserveAsset ∧
      ∃ valuation, getValuation externals world reserveAsset = .ok valuation ∧
        minted * (supply * valuation / preciseUnit +
            normalized externals reserveAsset netFlow) ≤
          normalized externals reserveAsset (netFlow - premiumValue world netFlow) *
            (supply + minted) := by
  simp only [getSetTokenMintQuantity, bind_eq_ok, preciseMul_eq_ok, preciseDiv_eq_ok,
    SafeMath.sub_eq_ok, SafeMath.add_eq_ok] at hcall
  obtain ⟨_, ⟨-, rfl⟩, valuation, hvaluation, _, ⟨-, hbase, rfl⟩, _, ⟨hpremium, rfl⟩, _,
    ⟨-, -, rfl⟩, _, ⟨-, rfl⟩, _, ⟨-, rfl⟩, _, ⟨hcovered, rfl⟩, _, ⟨-, rfl⟩, -, hpositive,
    hminted⟩ := hcall
  refine ⟨hpremium, hbase, valuation, hvaluation, ?_⟩
  change (normalized externals reserveAsset (netFlow - premiumValue world netFlow) * supply /
    preciseUnit) * preciseUnit / (supply * valuation / preciseUnit +
      normalized externals reserveAsset netFlow -
        normalized externals reserveAsset (netFlow - premiumValue world netFlow)) =
      minted at hminted
  change normalized externals reserveAsset (netFlow - premiumValue world netFlow) ≤
    supply * valuation / preciseUnit + normalized externals reserveAsset netFlow at hcovered
  generalize normalized externals reserveAsset (netFlow - premiumValue world netFlow) =
    counted at *
  generalize supply * valuation / preciseUnit +
    normalized externals reserveAsset netFlow = grown at *
  have hspread : minted * (grown - counted) ≤ counted * supply := by
    rw [← hminted]
    exact (Nat.div_mul_le_self _ _).trans (Nat.div_mul_le_self _ _)
  calc minted * grown = minted * (grown - counted) + minted * counted := by
        rw [← Nat.mul_add, Nat.sub_add_cancel hcovered]
    _ ≤ counted * supply + minted * counted := Nat.add_le_add_right hspread _
    _ = counted * (supply + minted) := by ring

/-- What a redemption pays is at most the redeemed shares' part of the valuation. -/
theorem createRedemptionInfo_le {quantity : ℕ}
    (hcall : createRedemptionInfo externals module world reserveAsset quantity = .ok info) :
    ∃ valuation, getValuation externals world reserveAsset = .ok valuation ∧
      info.netFlowQuantity * (preciseUnit * preciseUnit) ≤
        quantity * valuation * reserveBaseUnits externals reserveAsset := by
  simp only [createRedemptionInfo, getRedeemReserveQuantity, bind_eq_ok, preciseMul_eq_ok,
    preciseMulCeil_eq_ok, SafeMath.sub_eq_ok, pure_eq_ok] at hcall
  obtain ⟨_, ⟨valuation, hvaluation, _, ⟨-, rfl⟩, _, ⟨-, rfl⟩, _, ⟨-, rfl⟩, -, rfl⟩,
    ⟨protocolFees, managerFee, netFlow⟩, hfees, _, -, _, -, rfl⟩ := hcall
  refine ⟨valuation, hvaluation, ?_⟩
  have hnet := getFees_eq_ok hfees
  have hless : netFlow ≤ quantity * valuation / preciseUnit *
      reserveBaseUnits externals reserveAsset / preciseUnit := by
    have hpaid := hnet.le.trans (Nat.sub_le _ _)
    exact (Nat.le_add_left netFlow _).trans hpaid
  generalize reserveBaseUnits externals reserveAsset = baseUnits at *
  calc netFlow * (preciseUnit * preciseUnit)
      ≤ quantity * valuation / preciseUnit * baseUnits / preciseUnit *
          (preciseUnit * preciseUnit) := Nat.mul_le_mul_right _ hless
    _ = quantity * valuation / preciseUnit * baseUnits / preciseUnit * preciseUnit *
          preciseUnit := (Nat.mul_assoc _ _ _).symm
    _ ≤ quantity * valuation / preciseUnit * baseUnits * preciseUnit :=
        Nat.mul_le_mul_right _ (Nat.div_mul_le_self _ _)
    _ = quantity * valuation / preciseUnit * preciseUnit * baseUnits := by ring
    _ ≤ quantity * valuation * baseUnits :=
        Nat.mul_le_mul_right _ (Nat.div_mul_le_self _ _)

/-- Two worlds in which the same valuer sees the same positions. -/
def SamePricing (world next : World E) : Prop :=
  next.setToken = world.setToken ∧ next.controller = world.controller ∧
    next.navIssuanceSettings = world.navIssuanceSettings

theorem SamePricing.refl (world : World E) : SamePricing world world := ⟨rfl, rfl, rfl⟩

/-! ## What the shares are worth afterwards -/

section Edit

variable {setToken rescaled edited : SetToken} {controller : Controller}
variable {multiplier : ℤ} {supply grown payment unit : ℕ} {component : Address}

/-- The grown supply is owed no more of a component than the old one, except for the
payment. -/
theorem unit_after_edit_le (hkept : Bookkept setToken)
    (hrescaled : setToken.editPositionMultiplier controller module multiplier =
      .ok rescaled)
    (hedited : Position.editDefaultPosition rescaled controller module reserveAsset unit =
      .ok edited)
    (hspread : multiplier * grown ≤ setToken.positionMultiplier * supply)
    (hreserve : grown * unit ≤
      supply * setToken.defaultRealUnit reserveAsset + payment) :
    (grown * edited.defaultRealUnit component : ℚ) ≤
      supply * exactUnit setToken component +
        if component = reserveAsset then (payment : ℚ) else 0 := by
  have hrekept := hkept.editPositionMultiplier hrescaled
  obtain ⟨-, hreserveUnit, hothers⟩ :=
    Position.defaultRealUnit_of_edit hrekept.multiplier_pos hedited
  obtain ⟨-, -, rfl⟩ := SetToken.editPositionMultiplier_eq_ok.mp hrescaled
  by_cases heq : component = reserveAsset
  · subst heq
    have hless : edited.defaultRealUnit component ≤ unit := by
      rw [hreserveUnit]
      exact Rounding.thereAndBack_le preciseUnit_pos _ _
    have howed : (grown * edited.defaultRealUnit component : ℚ) ≤
        supply * setToken.defaultRealUnit component + payment := by
      exact_mod_cast (Nat.mul_le_mul_left grown hless).trans hreserve
    have hexact := defaultRealUnit_le_exactUnit hkept component
    rw [if_pos rfl]
    refine howed.trans (add_le_add_left ?_ _)
    gcongr
  · have hexact := defaultRealUnit_le_exactUnit hrekept component
    have hvirtual : (0 : ℚ) ≤ setToken.defaultPositionVirtualUnit component := by
      exact_mod_cast (hkept.positions component).default_nonneg
    have hspreadQ : (multiplier * grown : ℚ) ≤ setToken.positionMultiplier * supply := by
      exact_mod_cast hspread
    rw [hothers component heq, if_neg heq, add_zero]
    calc (grown * SetToken.defaultRealUnit _ component : ℚ)
        ≤ grown * (setToken.defaultPositionVirtualUnit component * multiplier /
            preciseUnit) := by
          exact mul_le_mul_of_nonneg_left hexact (Nat.cast_nonneg _)
      _ = setToken.defaultPositionVirtualUnit component * (multiplier * grown) /
            preciseUnit := by ring
      _ ≤ setToken.defaultPositionVirtualUnit component *
            (setToken.positionMultiplier * supply) / preciseUnit := by gcongr
      _ = supply * exactUnit setToken component := by
          rw [exactUnit]
          ring

/-- Editing a default position opens no external one. -/
theorem externalModules_of_edit
    (hedited : Position.editDefaultPosition setToken controller module reserveAsset unit =
      .ok edited) (component : Address) :
    edited.getExternalPositionModules component =
      setToken.getExternalPositionModules component := by
  obtain ⟨_, _, _, -, -, rfl, -⟩ := Position.editDefaultPosition_eq_ok hedited
  by_cases heq : component = reserveAsset
  · subst heq
    simp [SetToken.getExternalPositionModules, SetToken.withPosition]
  · simp [SetToken.getExternalPositionModules, SetToken.withPosition,
      SetToken.withComponents, heq]

/-- What a valuation sees of all shares together has grown by no more than the
payment. -/
theorem valuation_after_edit_le {total value : ℕ} (hkept : Bookkept setToken)
    (hnone : ∀ component, setToken.getExternalPositionModules component = [])
    (hrescaled : setToken.editPositionMultiplier controller module multiplier =
      .ok rescaled)
    (hedited : Position.editDefaultPosition rescaled controller module reserveAsset unit =
      .ok edited)
    (hspread : multiplier * grown ≤ setToken.positionMultiplier * supply)
    (hreserve : grown * unit ≤
      supply * setToken.defaultRealUnit reserveAsset + payment)
    (hvalue : calculateSetTokenValuation oracle { edited with totalSupply := total }
      reserveAsset = .ok value) :
    (grown * value : ℚ) ≤ supply * exactValuation oracle setToken reserveAsset +
      payment * (unitWorth oracle reserveAsset * quoteRate oracle reserveAsset) := by
  have hedkept := (hkept.editPositionMultiplier hrescaled).editDefaultPosition hedited
  have hednone : ∀ component, edited.getExternalPositionModules component = [] := by
    intro component
    rw [externalModules_of_edit hedited component]
    obtain ⟨-, -, rfl⟩ := SetToken.editPositionMultiplier_eq_ok.mp hrescaled
    exact hnone component
  have hless := (calculateSetTokenValuation_le ?_ ?_ hvalue).1
  case refine_1 => exact fun component _ => hednone component
  case refine_2 => exact fun component _ => realUnit_nonneg hedkept component
  change (value : ℚ) ≤ (edited.components.map fun component =>
    edited.defaultRealUnit component * unitWorth oracle component).sum *
      quoteRate oracle reserveAsset at hless
  -- the components of the reserve, old and new ones, weigh at most what the old ones do
  have hold : (edited.components.map fun component =>
      supply * exactUnit setToken component * unitWorth oracle component).sum ≤
      (setToken.components.map fun component =>
        supply * exactUnit setToken component * unitWorth oracle component).sum := by
    refine Index.sum_le_of_support hedkept.components.nodup hkept.components.nodup
      (fun component => ?_) fun component _ hweight => ?_
    · have hunit := exactUnit_nonneg hkept component
      have hworth := unitWorth_nonneg oracle component
      positivity
    · by_contra habsent
      rw [exactUnit_of_not_mem hkept habsent] at hweight
      simp at hweight
  have hpaid : (edited.components.map fun component =>
      (if component = reserveAsset then (payment : ℚ) else 0) *
        unitWorth oracle component).sum ≤
      payment * unitWorth oracle reserveAsset := by
    have hsum : (edited.components.map fun component =>
        (if component = reserveAsset then (payment : ℚ) else 0) *
          unitWorth oracle component).sum ≤
        ([reserveAsset].map fun component =>
          (if component = reserveAsset then (payment : ℚ) else 0) *
            unitWorth oracle component).sum := by
      refine Index.sum_le_of_support hedkept.components.nodup (List.nodup_singleton _)
        (fun component => ?_) fun component _ hweight => ?_
      · have hworth := unitWorth_nonneg oracle component
        positivity
      · by_contra hother
        rw [List.mem_singleton] at hother
        simp [hother] at hweight
    simpa using hsum
  have hrate := quoteRate_nonneg oracle reserveAsset
  calc (grown * value : ℚ)
      ≤ grown * ((edited.components.map fun component =>
          edited.defaultRealUnit component * unitWorth oracle component).sum *
            quoteRate oracle reserveAsset) := by gcongr
    _ = (edited.components.map fun component =>
          grown * edited.defaultRealUnit component * unitWorth oracle component).sum *
            quoteRate oracle reserveAsset := by
        rw [← mul_assoc, ← List.sum_map_mul_left]
        simp only [mul_assoc]
    _ ≤ (edited.components.map fun component =>
          (supply * exactUnit setToken component +
            if component = reserveAsset then (payment : ℚ) else 0) *
              unitWorth oracle component).sum * quoteRate oracle reserveAsset := by
        refine mul_le_mul_of_nonneg_right (List.sum_le_sum fun component _ => ?_) hrate
        exact mul_le_mul_of_nonneg_right
          (unit_after_edit_le hkept hrescaled hedited hspread hreserve)
          (unitWorth_nonneg oracle component)
    _ ≤ ((setToken.components.map fun component =>
          supply * exactUnit setToken component * unitWorth oracle component).sum +
            payment * unitWorth oracle reserveAsset) *
              quoteRate oracle reserveAsset := by
        refine mul_le_mul_of_nonneg_right ?_ hrate
        simp only [add_mul, List.sum_map_add]
        exact add_le_add hold hpaid
    _ = _ := by
        simp only [exactValuation, mul_assoc, List.sum_map_mul_left, add_mul]

end Edit

/-! ## The round trip -/

/-- Exact worth, in the reserve asset, of all shares together with a payment. -/
def exactWorth (externals : Externals E) (oracle : Oracle) (world : World E)
    (reserveAsset : Address) (netFlow : ℕ) : ℚ :=
  (world.setToken.totalSupply * exactValuation oracle world.setToken reserveAsset +
    (netFlow * preciseUnit : ℕ) *
      (unitWorth oracle reserveAsset * quoteRate oracle reserveAsset)) *
    reserveBaseUnits externals reserveAsset / (preciseUnit * preciseUnit)

/-- The same as an issuance computes it, from the rounded valuation of a share. -/
def perceivedWorth (externals : Externals E) (world : World E) (reserveAsset : Address)
    (netFlow valuation : ℕ) : ℚ :=
  (world.setToken.totalSupply * valuation / preciseUnit +
    normalized externals reserveAsset netFlow : ℕ) *
    reserveBaseUnits externals reserveAsset / preciseUnit

/-- The newly minted shares' part of the worth that an issuance does not see. -/
def hiddenShare (externals : Externals E) (oracle : Oracle) (world : World E)
    (reserveAsset : Address) (netFlow valuation minted : ℕ) : ℚ :=
  minted / (world.setToken.totalSupply + minted) *
    (exactWorth externals oracle world reserveAsset netFlow -
      perceivedWorth externals world reserveAsset netFlow valuation)

/-- The bound of `getSetTokenMintQuantity_le` in the reserve asset. -/
theorem minted_perceivedWorth_le {netFlow supply minted : ℕ}
    (hsupply : world.setToken.totalSupply = supply)
    (hcall : getSetTokenMintQuantity externals world reserveAsset netFlow supply =
      .ok minted) :
    premiumValue world netFlow ≤ netFlow ∧ ∃ valuation,
      getValuation externals world reserveAsset = .ok valuation ∧
        minted * perceivedWorth externals world reserveAsset netFlow valuation ≤
          (netFlow - premiumValue world netFlow) * (supply + minted) := by
  obtain ⟨hpremium, -, valuation, hvaluation, hless⟩ := getSetTokenMintQuantity_le hcall
  refine ⟨hpremium, valuation, hvaluation, ?_⟩
  have hscale : (0 : ℚ) < preciseUnit := by exact_mod_cast preciseUnit_pos
  have hcounted : (normalized externals reserveAsset
      (netFlow - premiumValue world netFlow) *
        reserveBaseUnits externals reserveAsset : ℚ) ≤
      (netFlow - premiumValue world netFlow) * preciseUnit := by
    rw [← Nat.cast_sub hpremium]
    exact_mod_cast Nat.div_mul_le_self _ _
  have hlessQ : (minted * (supply * valuation / preciseUnit +
      normalized externals reserveAsset netFlow : ℕ) : ℚ) ≤
      normalized externals reserveAsset (netFlow - premiumValue world netFlow) *
        (supply + minted) := by
    exact_mod_cast hless
  rw [perceivedWorth, hsupply, mul_div_assoc', div_le_iff₀ hscale]
  generalize (supply * valuation / preciseUnit +
    normalized externals reserveAsset netFlow : ℕ) = perceived at *
  calc (minted * (perceived * reserveBaseUnits externals reserveAsset) : ℚ)
      = minted * perceived * reserveBaseUnits externals reserveAsset := by ring
    _ ≤ normalized externals reserveAsset (netFlow - premiumValue world netFlow) *
          (supply + minted) * reserveBaseUnits externals reserveAsset := by gcongr
    _ = normalized externals reserveAsset (netFlow - premiumValue world netFlow) *
          reserveBaseUnits externals reserveAsset * (supply + minted) := by ring
    _ ≤ (netFlow - premiumValue world netFlow) * preciseUnit * (supply + minted) := by
        gcongr
    _ = (netFlow - premiumValue world netFlow) * (supply + minted) * preciseUnit := by ring

/-- The tracked reserve and a payment, in precise units. -/
theorem reserve_le (setToken : SetToken) (token : Address) (payment : ℕ) :
    (trackedBalance setToken token + payment) * preciseUnit ≤
      setToken.totalSupply * setToken.defaultRealUnit token + payment * preciseUnit := by
  rw [Nat.add_mul]
  exact Nat.add_le_add_right (Nat.div_mul_le_self _ _) _

/-- What is paid back, where the shares are worth no more than the old ones and the
payment. -/
theorem redeemed_le {netFlow valuation minted later back : ℕ}
    (htotal : 0 < world.setToken.totalSupply + minted)
    (hpaid : (minted * perceivedWorth externals world reserveAsset netFlow valuation : ℚ) ≤
      (netFlow - premiumValue world netFlow) * (world.setToken.totalSupply + minted))
    (hback : back * (preciseUnit * preciseUnit) ≤
      minted * later * reserveBaseUnits externals reserveAsset)
    (hworth : ((world.setToken.totalSupply + minted : ℕ) * later : ℚ) ≤
      world.setToken.totalSupply * exactValuation oracle world.setToken reserveAsset +
        (netFlow * preciseUnit : ℕ) *
          (unitWorth oracle reserveAsset * quoteRate oracle reserveAsset)) :
    (back : ℚ) ≤ netFlow - premiumValue world netFlow +
      hiddenShare externals oracle world reserveAsset netFlow valuation minted := by
  refine Backing.round_trip_gain (by exact_mod_cast htotal) hpaid ?_
  have hscale : (0 : ℚ) < preciseUnit := by exact_mod_cast preciseUnit_pos
  have hbackQ : (back * (preciseUnit * preciseUnit) : ℚ) ≤
      minted * later * reserveBaseUnits externals reserveAsset := by
    exact_mod_cast hback
  rw [exactWorth, mul_div_assoc', le_div_iff₀ (mul_pos hscale hscale)]
  push_cast at hworth ⊢
  generalize (world.setToken.totalSupply * exactValuation oracle world.setToken reserveAsset +
    netFlow * preciseUnit *
      (unitWorth oracle reserveAsset * quoteRate oracle reserveAsset) : ℚ) = worth at *
  generalize (preciseUnit * preciseUnit : ℚ) = scale at *
  calc (back * (world.setToken.totalSupply + minted) * scale : ℚ)
      = back * scale * (world.setToken.totalSupply + minted) := by ring
    _ ≤ minted * later * reserveBaseUnits externals reserveAsset *
          (world.setToken.totalSupply + minted) := by gcongr
    _ = minted * reserveBaseUnits externals reserveAsset *
          ((world.setToken.totalSupply + minted) * later) := by ring
    _ ≤ minted * reserveBaseUnits externals reserveAsset * worth := by gcongr
    _ = minted * (worth * reserveBaseUnits externals reserveAsset) := by ring

/-- Whoever issues and redeems at once gets back at most the payment, less fees and
premium, and the shares' part of what the valuation has rounded away.  There is no
profit unless that part outweighs fees and premium. -/
theorem round_trip_le {issued redeemed : World E} {account : Address}
    {quantity minted minSetToken minReserve : ℕ} (hkept : Bookkept world.setToken)
    (hnone : ∀ component, world.setToken.getExternalPositionModules component = [])
    (hquiet : HooksKeep externals SamePricing)
    (hvaluer : externals.calculateSetTokenValuation (getSetValuer world) =
      calculateSetTokenValuation oracle)
    (hissue : issue externals module world account reserveAsset quantity minSetToken account =
      .ok issued)
    (hminted : issued.setToken.totalSupply = world.setToken.totalSupply + minted)
    (hredeem : redeem externals module issued account reserveAsset minted minReserve account =
      .ok redeemed) :
    ∃ atIssue issueInfo atRedeem redeemInfo valuation,
      callPreIssueHooks externals world reserveAsset quantity account account =
        .ok atIssue ∧
      createIssuanceInfo externals module atIssue reserveAsset quantity = .ok issueInfo ∧
      callPreRedeemHooks externals issued minted account account = .ok atRedeem ∧
      createRedemptionInfo externals module atRedeem reserveAsset minted =
        .ok redeemInfo ∧
      getValuation externals world reserveAsset = .ok valuation ∧
      issueInfo.protocolFees + issueInfo.managerFee + issueInfo.netFlowQuantity = quantity ∧
      (redeemInfo.netFlowQuantity : ℚ) ≤
        issueInfo.netFlowQuantity - premiumValue world issueInfo.netFlowQuantity +
          hiddenShare externals oracle world reserveAsset issueInfo.netFlowQuantity valuation
            minted ∧
      (hiddenShare externals oracle world reserveAsset issueInfo.netFlowQuantity valuation
          minted <
          issueInfo.protocolFees + issueInfo.managerFee +
            premiumValue world issueInfo.netFlowQuantity + 1 →
        redeemInfo.netFlowQuantity ≤ quantity) := by
  obtain ⟨atIssue, issueInfo, paid, spread, grown, hbefore, hissueInfo, htransfer, hspread,
    hgrown, hissued⟩ := issue_eq_ok hissue
  obtain ⟨htokenBefore, hcontrollerBefore, hsettingsBefore⟩ :=
    kept_by_preIssueHooks hquiet SamePricing.refl hbefore
  obtain ⟨atRedeem, redeemInfo, -, -, -, -, hbetween, hredeemInfo, -⟩ := redeem_eq_ok hredeem
  obtain ⟨htokenBetween, hcontrollerBetween, hsettingsBetween⟩ :=
    kept_by_preRedeemHooks hquiet SamePricing.refl hbetween
  obtain ⟨_, rfl⟩ := transferCollateralAndHandleFees_frame htransfer
  obtain ⟨rescaled, hrescaled, edited, hedited, rfl⟩ := editPositions_eq_ok.mp hspread
  obtain ⟨-, -, rfl⟩ := Chain.mint_eq_ok hgrown
  have htoken : issued.setToken =
      { edited with totalSupply := edited.totalSupply + issueInfo.setTokenQuantity } := by
    rw [← hissued]
    rfl
  have hcontroller : issued.controller = atIssue.controller := by
    rw [← hissued]
    rfl
  have hsettings : issued.navIssuanceSettings = atIssue.navIssuanceSettings := by
    rw [← hissued]
    rfl
  rw [← htokenBefore] at hkept hnone
  obtain ⟨hfees, hmint, htotal, hmultiplier, hunit⟩ := createIssuanceInfo_eq_ok hissueInfo
  -- the hooks let the same valuer see the same positions
  have hvaluerOf : ∀ later : World E, later.controller = world.controller →
      later.navIssuanceSettings = world.navIssuanceSettings →
      getValuation externals later reserveAsset =
        calculateSetTokenValuation oracle later.setToken reserveAsset := by
    intro later hlater hlaterSettings
    rw [getValuation, ← hvaluer, getSetValuer, getSetValuer, hlater, hlaterSettings]
  have hsupply : edited.totalSupply = atIssue.setToken.totalSupply := by
    obtain ⟨_, _, _, -, -, rfl, -⟩ := Position.editDefaultPosition_eq_ok hedited
    obtain ⟨-, -, rfl⟩ := SetToken.editPositionMultiplier_eq_ok.mp hrescaled
    rfl
  have hquantity : issueInfo.setTokenQuantity = minted := by
    rw [htoken, hsupply, htokenBefore] at hminted
    exact Nat.add_left_cancel hminted
  rw [hquantity] at hmint htotal hmultiplier hunit
  have hspread := spreadMultiplier_mul_le hkept.multiplier_pos.le htotal
  rw [← hmultiplier] at hspread
  have hreserve := hunit.trans (reserve_le atIssue.setToken reserveAsset _)
  obtain ⟨hpremium, valuation, hvaluation, hpaid⟩ := minted_perceivedWorth_le rfl hmint
  obtain ⟨later, hlater, hback⟩ := createRedemptionInfo_le hredeemInfo
  have hpremiums : premiumValue atIssue issueInfo.netFlowQuantity =
      premiumValue world issueInfo.netFlowQuantity := by
    rw [premiumValue, hsettingsBefore, premiumValue]
  have hperceived : perceivedWorth externals atIssue reserveAsset
      issueInfo.netFlowQuantity valuation =
      perceivedWorth externals world reserveAsset issueInfo.netFlowQuantity valuation := by
    rw [perceivedWorth, htokenBefore, perceivedWorth]
  rw [hvaluerOf atRedeem (by rw [hcontrollerBetween, hcontroller, hcontrollerBefore])
    (by rw [hsettingsBetween, hsettings, hsettingsBefore]), htokenBetween, htoken] at hlater
  have hworth := valuation_after_edit_le hkept hnone hrescaled hedited hspread hreserve hlater
  have hvaluationHere : getValuation externals world reserveAsset = .ok valuation := by
    rw [hvaluerOf atIssue hcontrollerBefore hsettingsBefore, htokenBefore] at hvaluation
    rw [hvaluerOf world rfl rfl, hvaluation]
  rw [hpremiums, hperceived, htokenBefore] at hpaid
  rw [htokenBefore] at htotal hworth
  have hbound := redeemed_le htotal hpaid hback hworth
  refine ⟨atIssue, issueInfo, atRedeem, redeemInfo, valuation, hbefore, hissueInfo, hbetween,
    hredeemInfo, hvaluationHere, hfees, hbound, fun hsmall => ?_⟩
  have hfeesQ : (issueInfo.protocolFees + issueInfo.managerFee + issueInfo.netFlowQuantity : ℚ) =
      quantity := by
    exact_mod_cast hfees
  have hnext : (redeemInfo.netFlowQuantity : ℚ) < quantity + 1 := by linarith
  exact Nat.lt_succ_iff.mp (by exact_mod_cast hnext)

/-- Any two tokens trade at a thousandth of the master quote asset. -/
def thousandthOracle : Oracle := ⟨20, fun _ _ => .ok (10 ^ 15), fun _ => 18⟩

def plainExternals : Externals Unit where
  calculateSetTokenValuation _ := calculateSetTokenValuation thousandthOracle
  decimals _ := 18
  invokePreIssueHook _ _ _ _ _ world := .ok world
  invokePreRedeemHook _ _ _ _ world := .ok world

/-- One share of three components, each worth a fraction more than the valuation sees,
without fees or premium. -/
def thousandthWorld : World Unit where
  controller := { Controller.deploy 1 2 with
    isSet := fun setToken => setToken == 9
    isModule := fun module => module == 5 }
  setTokenAddress := 9
  setToken := { SetToken.deploy [10, 11, 12] [1900, 1500, 1500] [5] 7 with
    moduleStates := fun module => if module = 5 then .INITIALIZED else .NONE
    totalSupply := 10 ^ 18 }
  balances := fun token holder =>
    if token = 10 ∧ holder = 3 then 310
    else if token ∈ [10, 11, 12] ∧ holder = 9 then 1900 else 0
  timestamp := 1
  navIssuanceSettings := { noSettings with minSetTokenSupply := 1 }
  isReserveAsset := fun token => token == 10
  environment := ()

/-- Three shares in a hundred are minted for 310 and pay back 413. -/
theorem issue_redeem_thousandthWorld : ∃ issued redeemed,
    issue plainExternals 5 thousandthWorld 3 10 310 0 3 = .ok issued ∧
      issued.setToken.totalSupply =
        thousandthWorld.setToken.totalSupply + 103333333333333333 ∧
      issued.balanceOf 10 3 = 0 ∧
      redeem plainExternals 5 issued 3 10 103333333333333333 0 3 = .ok redeemed ∧
      redeemed.balanceOf 10 3 = 413 := by
  obtain ⟨issued, hissue, hsupply, hspent, hreturns⟩ := returns_iff.mp (by decide +kernel :
    Returns (issue plainExternals 5 thousandthWorld 3 10 310 0 3) fun issued =>
      issued.setToken.totalSupply =
        thousandthWorld.setToken.totalSupply + 103333333333333333 ∧
      issued.balanceOf 10 3 = 0 ∧
      Returns (redeem plainExternals 5 issued 3 10 103333333333333333 0 3)
        fun redeemed => redeemed.balanceOf 10 3 = 413)
  obtain ⟨redeemed, hredeem, hreceived⟩ := returns_iff.mp hreturns
  exact ⟨issued, redeemed, hissue, hsupply, hspent, hredeem, hreceived⟩

theorem thousandthWorld_externalModules (component : Address) :
    thousandthWorld.setToken.getExternalPositionModules component = [] := by
  change (thousandthWorld.setToken.componentPositions component).externalPositionModules = []
  simp only [thousandthWorld, SetToken.deploy, List.zip_cons_cons, List.foldl_cons,
    Function.update_apply, List.zip_nil_left, List.foldl_nil]
  split_ifs <;> rfl

theorem bookkept_thousandthWorld : Bookkept thousandthWorld.setToken :=
  (SetTokenCreator.bookkept_deploy rfl (by decide) (by decide) :
    Bookkept (SetToken.deploy [10, 11, 12] [1900, 1500, 1500] [5] 7)).of_same_positions
      rfl rfl rfl

theorem hooksKeep_plainExternals : HooksKeep plainExternals SamePricing where
  preIssue _ _ _ _ _ _ _ hcall := by
    cases hcall
    exact SamePricing.refl _
  preRedeem _ _ _ _ _ _ hcall := by
    cases hcall
    exact SamePricing.refl _

theorem round_trip_le_thousandthWorld : ∃ (issued atRedeem : World Unit)
    (issueInfo redeemInfo : ActionInfo) (valuation : ℕ),
    issue plainExternals 5 thousandthWorld 3 10 310 0 3 = .ok issued ∧
      createRedemptionInfo plainExternals 5 atRedeem 10 103333333333333333 =
        .ok redeemInfo ∧
      (redeemInfo.netFlowQuantity : ℚ) ≤
        issueInfo.netFlowQuantity - premiumValue thousandthWorld issueInfo.netFlowQuantity +
          hiddenShare plainExternals thousandthOracle thousandthWorld 10
            issueInfo.netFlowQuantity valuation 103333333333333333 := by
  obtain ⟨issued, redeemed, hissue, hsupply, -, hredeem, -⟩ := issue_redeem_thousandthWorld
  obtain ⟨atIssue, issueInfo, atRedeem, redeemInfo, valuation, -, -, -, hinfo, -, -, hbound,
    -⟩ := round_trip_le bookkept_thousandthWorld thousandthWorld_externalModules
      hooksKeep_plainExternals rfl hissue hsupply hredeem
  exact ⟨issued, atRedeem, issueInfo, redeemInfo, valuation, hissue, hinfo, hbound⟩

/-- The issuer gets back more than was paid. -/
theorem round_trip_gains : ∃ issued redeemed,
    issue plainExternals 5 thousandthWorld 3 10 310 0 3 = .ok issued ∧
      issued.setToken.totalSupply =
        thousandthWorld.setToken.totalSupply + 103333333333333333 ∧
      redeem plainExternals 5 issued 3 10 103333333333333333 0 3 = .ok redeemed ∧
      310 < redeemed.balanceOf 10 3 - issued.balanceOf 10 3 := by
  obtain ⟨issued, redeemed, hissue, hsupply, hspent, hredeem, hreceived⟩ :=
    issue_redeem_thousandthWorld
  refine ⟨issued, redeemed, hissue, hsupply, hredeem, ?_⟩
  rw [hspent, hreceived]
  decide

end SetProtocol.NavIssuanceModule
