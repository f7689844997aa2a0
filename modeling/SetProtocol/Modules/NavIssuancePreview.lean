import SetProtocol.Modules.NavIssuanceEffects
import SetProtocol.Core.SetValuer

/-!
# The preview of a redemption

`redeem` validates and then executes.  `isRedeemValid` repeats the validations with
the net quantity where `redeem` checks the quantity with its fees, so the preview is
right exactly if the reserve covers the fees whenever it covers the net quantity.
-/

namespace SetProtocol.NavIssuanceModule

open Transaction PreciseUnitMath

variable {E : Type} {externals : Externals E}
variable {module sender reserveAsset target : Address}
variable {world next : World E} {quantity minReceived : ℕ} {info : ActionInfo}

/-! ## Validation and execution -/

/-- What `redeem` validates before it moves anything. -/
def validatedRedemption (externals : Externals E) (module : Address) (world : World E)
    (reserveAsset : Address) (setTokenQuantity minReserveReceiveQuantity : ℕ) :
    Outcome ActionInfo := do
  world.validateOnlyValidAndInitializedSet module
  validateCommon world reserveAsset setTokenQuantity
  let redeemInfo ←
    createRedemptionInfo externals module world reserveAsset setTokenQuantity
  validateRedemptionInfo world minReserveReceiveQuantity redeemInfo
  pure redeemInfo

/-- What `redeem` does with validated amounts. -/
def executeRedemption (module : Address) (world : World E) (sender reserveAsset : Address)
    (setTokenQuantity : ℕ) (target : Address) (redeemInfo : ActionInfo) :
    Outcome (World E) := do
  let burnt ← world.burn module sender setTokenQuantity
  let paid ← burnt.strictInvokeTransfer module reserveAsset target
    redeemInfo.netFlowQuantity
  let charged ← handleRedemptionFees module world paid reserveAsset redeemInfo
  let edited ← editPositions module charged reserveAsset redeemInfo
  pure (world.withChain edited)

theorem callPreRedeemHooks_of_none
    (hhook : world.navIssuanceSettings.managerRedemptionHook = zeroAddress) :
    callPreRedeemHooks externals world quantity sender target = .ok world := by
  simp only [callPreRedeemHooks, hhook, ne_eq, not_true_eq_false, if_false]
  rfl

/-- Without a hook, `redeem` is its validations followed by its execution. -/
theorem redeem_eq (hhook : world.navIssuanceSettings.managerRedemptionHook = zeroAddress) :
    redeem externals module world sender reserveAsset quantity minReceived target =
      validatedRedemption externals module world reserveAsset quantity minReceived >>=
        executeRedemption module world sender reserveAsset quantity target := by
  simp only [redeem, validatedRedemption, executeRedemption,
    callPreRedeemHooks_of_none hhook, bind_assoc, ok_bind, pure_bind]

/-! ## The preview -/

theorem rescaledMultiplier_supply_pos {setToken : SetToken} {previous supply : ℕ}
    {multiplier : ℤ}
    (hcall : rescaledMultiplier setToken previous supply = .ok multiplier) :
    0 < supply ∧ (previous : ℤ) ≤ maxInt256 := by
  simp only [rescaledMultiplier, bind_eq_ok, SafeCast.toInt256_eq_ok] at hcall
  obtain ⟨_, ⟨hfits, -⟩, _, -, _, ⟨-, rfl⟩, hdivided⟩ := hcall
  refine ⟨Nat.pos_of_ne_zero ?_, hfits⟩
  rintro rfl
  simp [SignedSafeMath.div] at hdivided

/-- The preview is positive if the quantity is valid and the reserve covers the net
payment. -/
theorem isRedeemValid_eq_ok :
    isRedeemValid externals module world reserveAsset quantity = .ok true ↔
      0 < quantity ∧ world.isReserveAsset reserveAsset = true ∧
      world.navIssuanceSettings.minSetTokenSupply + quantity ≤ maxUint256 ∧
      world.navIssuanceSettings.minSetTokenSupply + quantity ≤
        world.setToken.totalSupply ∧
      ∃ expected, getExpectedReserveRedeemQuantity externals module world reserveAsset
          quantity = .ok expected ∧
        ∃ existing, existingReserve world.setToken reserveAsset world.setToken.totalSupply =
            .ok existing ∧ expected ≤ existing := by
  unfold isRedeemValid getExpectedReserveRedeemQuantity
  split
  · rename_i hinvalid
    simp only [pure_eq_ok, Bool.false_eq_true, false_iff]
    rintro ⟨hquantity, hreserve, -⟩
    rcases hinvalid with rfl | hnone
    · exact hquantity.false
    · rw [hnone] at hreserve
      cases hreserve
  · rename_i hvalid
    rw [not_or, Bool.not_eq_false] at hvalid
    simp only [bind_eq_ok, SafeMath.add_eq_ok, pure_eq_ok, Nat.pos_of_ne_zero hvalid.1,
      hvalid.2, true_and]
    constructor
    · rintro ⟨_, ⟨hfits, rfl⟩, hrest⟩
      split at hrest
      · cases hrest
      · rename_i hsupply
        simp only [bind_eq_ok, pure_eq_ok, decide_eq_true_eq] at hrest
        obtain ⟨total, htotal, fees, hfees, existing, hexisting, hcovered⟩ := hrest
        exact ⟨hfits, not_lt.mp hsupply, fees.2.2, ⟨total, htotal, fees, hfees, rfl⟩, existing,
          hexisting, hcovered⟩
    · rintro ⟨hfits, hsupply, _, ⟨total, htotal, fees, hfees, rfl⟩, existing, hexisting,
        hcovered⟩
      refine ⟨_, ⟨hfits, rfl⟩, ?_⟩
      rw [if_neg (not_lt.mpr hsupply)]
      simp only [bind_eq_ok, pure_eq_ok, decide_eq_true_eq]
      exact ⟨total, htotal, fees, hfees, existing, hexisting, hcovered⟩

theorem getRedeemPositionMultiplier_fst {setToken : SetToken} {previous supply : ℕ}
    {multiplier : ℤ}
    (hcall : getRedeemPositionMultiplier setToken quantity previous =
      .ok (supply, multiplier)) :
    quantity ≤ previous ∧ supply = previous - quantity ∧ 0 < supply ∧
      (previous : ℤ) ≤ maxInt256 := by
  simp only [getRedeemPositionMultiplier, bind_eq_ok, SafeMath.sub_eq_ok, require_eq_ok,
    pure_eq_ok, Prod.mk.injEq] at hcall
  obtain ⟨_, ⟨hquantity, rfl⟩, rescaled, hrescaled, -, -, rfl, rfl⟩ := hcall
  obtain ⟨hpositive, hfits⟩ := rescaledMultiplier_supply_pos hrescaled
  exact ⟨hquantity, rfl, hpositive, hfits⟩

/-- A reserve that covers the payment with its fees gives a new unit. -/
theorem getRedeemPositionUnit_of_covered {setToken : SetToken}
    {netFlow protocolFees managerFee existing supply : ℕ} (hsupply : 0 < supply)
    (hexisting : existingReserve setToken reserveAsset setToken.totalSupply = .ok existing)
    (hcovered : netFlow + protocolFees + managerFee ≤ existing) :
    ∃ unit, getRedeemPositionUnit setToken reserveAsset setToken.totalSupply netFlow
      protocolFees managerFee supply = .ok unit := by
  have hfits : existing * preciseUnit ≤ maxUint256 := by
    simp only [existingReserve, bind_eq_ok, preciseMul_eq_ok] at hexisting
    obtain ⟨_, -, unit, -, hproduct, rfl⟩ := hexisting
    exact (Nat.div_mul_le_self _ _).trans hproduct
  have hmax : existing ≤ maxUint256 :=
    (Nat.le_mul_of_pos_right existing preciseUnit_pos).trans hfits
  simp only [getRedeemPositionUnit, bind_eq_ok, SafeMath.add_eq_ok, SafeMath.sub_eq_ok,
    require_eq_ok, preciseDiv_eq_ok]
  exact ⟨_, existing, hexisting, _, ⟨by omega, rfl⟩, _, ⟨hcovered.trans hmax, rfl⟩, (),
    hcovered, _, ⟨hcovered, rfl⟩,
    (Nat.mul_le_mul_right _ (Nat.sub_le _ _)).trans hfits, hsupply, rfl⟩

/-- Where the multiplier is fine, the validations pass if the quantity is valid and the
reserve covers the payment together with its fees. -/
theorem validatedRedemption_eq_ok {rescaled : ℕ × ℤ}
    (hinitialized : world.isSetValidAndInitialized module)
    (hmultiplier : getRedeemPositionMultiplier world.setToken quantity
      world.setToken.totalSupply = .ok rescaled) :
    (∃ info, validatedRedemption externals module world reserveAsset quantity 0 = .ok info) ↔
      0 < quantity ∧ world.isReserveAsset reserveAsset = true ∧
      world.navIssuanceSettings.minSetTokenSupply + quantity ≤
        world.setToken.totalSupply ∧
      (∃ expected, getExpectedReserveRedeemQuantity externals module world reserveAsset
        quantity = .ok expected) ∧
      ∃ total, getRedeemReserveQuantity externals world reserveAsset quantity =
          .ok total ∧
        ∃ existing, existingReserve world.setToken reserveAsset world.setToken.totalSupply =
            .ok existing ∧ total ≤ existing := by
  obtain ⟨supply, multiplier⟩ := rescaled
  obtain ⟨hquantity, rfl, hsupply, -⟩ := getRedeemPositionMultiplier_fst hmultiplier
  simp only [validatedRedemption, Chain.validateOnlyValidAndInitializedSet, validateCommon,
    createRedemptionInfo, validateRedemptionInfo, getExpectedReserveRedeemQuantity,
    hmultiplier, hinitialized, bind_eq_ok, require_eq_ok, pure_eq_ok]
  constructor
  · rintro ⟨info, -, -, -, ⟨-, hpositive, hreserve⟩, -, ⟨total, htotal, fees, hfees, pair,
      hpair, unit, hunit, rfl⟩, -, ⟨-, hminimum, -⟩, -⟩
    cases hpair
    change world.navIssuanceSettings.minSetTokenSupply ≤
      world.setToken.totalSupply - quantity at hminimum
    refine ⟨hpositive, hreserve, by omega, ⟨_, total, htotal, fees, hfees, rfl⟩, total, htotal,
      ?_⟩
    simp only [getRedeemPositionUnit, bind_eq_ok, SafeMath.add_eq_ok, require_eq_ok] at hunit
    obtain ⟨existing, hexisting, _, ⟨-, rfl⟩, _, ⟨-, rfl⟩, -, hcovered, -⟩ := hunit
    have hsum := getFees_eq_ok hfees
    exact ⟨existing, hexisting, by omega⟩
  · rintro ⟨hpositive, hreserve, hminimum, ⟨_, total, htotal, ⟨protocolFees, managerFee,
      netFlow⟩, hfees, rfl⟩, _, htotal', existing, hexisting, hcovered⟩
    cases htotal.symm.trans htotal'
    have hsum := getFees_eq_ok hfees
    have hpaid : netFlow + protocolFees + managerFee ≤ existing := by omega
    obtain ⟨unit, hunit⟩ := getRedeemPositionUnit_of_covered hsupply hexisting hpaid
    exact ⟨_, (), trivial, (), ⟨(), hpositive, hreserve⟩, _, ⟨total, htotal, _, hfees, _,
      rfl, unit, hunit, rfl⟩, (), ⟨(), Nat.le_sub_of_add_le hminimum, Nat.zero_le _⟩, rfl⟩

/-! ## The payment -/

/-- An account that receives no fee gets nothing of them. -/
theorem balanceOf_of_handleRedemptionFees {chain reached : Chain} {holder : Address}
    (hself : holder ≠ chain.setTokenAddress)
    (hprotocol : holder ≠ chain.controller.feeRecipient)
    (hmanager : holder ≠ world.navIssuanceSettings.feeRecipient)
    (hcall : handleRedemptionFees module world chain reserveAsset info = .ok reached) :
    reached.balanceOf reserveAsset holder = chain.balanceOf reserveAsset holder := by
  simp only [handleRedemptionFees, Chain.payProtocolFeeFromSetToken_eq,
    Chain.strictInvokeTransfer_if_pos, bind_eq_ok] at hcall
  obtain ⟨charged, hcharged, hpaid⟩ := hcall
  have hchargedBalance := (Chain.balanceOf_of_strictInvokeTransfer hcharged).2 holder hself
    hprotocol
  obtain ⟨_, rfl⟩ := Chain.strictInvokeTransfer_frame hcharged
  have hpaidBalance := (Chain.balanceOf_of_strictInvokeTransfer hpaid).2 holder hself hmanager
  rw [hpaidBalance, hchargedBalance]

theorem getExpectedReserveRedeemQuantity_of_info
    (hinfo : createRedemptionInfo externals module world reserveAsset quantity = .ok info) :
    getExpectedReserveRedeemQuantity externals module world reserveAsset quantity =
      .ok info.netFlowQuantity := by
  simp only [createRedemptionInfo, bind_eq_ok, pure_eq_ok] at hinfo
  obtain ⟨total, htotal, fees, hfees, -, -, -, -, rfl⟩ := hinfo
  simp only [getExpectedReserveRedeemQuantity, bind_eq_ok, pure_eq_ok]
  exact ⟨total, htotal, fees, hfees, rfl⟩

/-- The receiver of a redemption gets just what the view of the module says: the transfer
to it raises its balance by as much, and no fee touches it unless it receives fees. -/
def PaysExpected (externals : Externals E) (module : Address) (world : World E)
    (sender reserveAsset : Address) (quantity : ℕ) (target : Address) (next : World E) :
    Prop :=
  ∃ expected burnt paid,
    getExpectedReserveRedeemQuantity externals module world reserveAsset quantity =
      .ok expected ∧
    world.burn module sender quantity = .ok burnt ∧
    burnt.strictInvokeTransfer module reserveAsset target expected = .ok paid ∧
    paid.balanceOf reserveAsset target = burnt.balanceOf reserveAsset target + expected ∧
    (target ≠ world.setTokenAddress → target ≠ world.controller.feeRecipient →
      target ≠ world.navIssuanceSettings.feeRecipient →
      next.balanceOf reserveAsset target = paid.balanceOf reserveAsset target)

theorem paysExpected_of_redeem
    (hhook : world.navIssuanceSettings.managerRedemptionHook = zeroAddress)
    (hcall : redeem externals module world sender reserveAsset quantity minReceived target =
      .ok next) :
    PaysExpected externals module world sender reserveAsset quantity target next := by
  obtain ⟨hooked, info, burnt, paid, charged, edited, hhooked, hinfo, hburnt, hpaid, hcharged,
    hedited, rfl⟩ := redeem_eq_ok hcall
  cases (callPreRedeemHooks_of_none hhook).symm.trans hhooked
  obtain ⟨hreceived, -⟩ := Chain.balanceOf_of_strictInvokeTransfer hpaid
  refine ⟨info.netFlowQuantity, burnt, paid, getExpectedReserveRedeemQuantity_of_info hinfo,
    hburnt, hpaid, hreceived, fun hself hprotocol hmanager => ?_⟩
  have hframe : paid.setTokenAddress = world.setTokenAddress ∧
      paid.controller = world.controller := by
    obtain ⟨-, -, -, rfl⟩ := Chain.burn_eq_ok hburnt
    obtain ⟨_, rfl⟩ := Chain.strictInvokeTransfer_frame hpaid
    exact ⟨rfl, rfl⟩
  obtain ⟨_, -, _, -, rfl⟩ := editPositions_eq_ok.mp hedited
  rw [← hframe.1] at hself
  rw [← hframe.2] at hprotocol
  change charged.balanceOf reserveAsset target = _
  exact balanceOf_of_handleRedemptionFees hself hprotocol hmanager hcharged

/-! ## The preview and the redemption -/

/-- The preview is positive exactly if the validations pass, after which `redeem` only has to
move what was validated, and a redemption pays what the view says. -/
structure PreviewAgrees (externals : Externals E) (module : Address) (world : World E)
    (sender reserveAsset : Address) (quantity : ℕ) (target : Address) : Prop where
  sound : isRedeemValid externals module world reserveAsset quantity = .ok true →
    ∃ info, validatedRedemption externals module world reserveAsset quantity 0 = .ok info ∧
      redeem externals module world sender reserveAsset quantity 0 target =
        executeRedemption module world sender reserveAsset quantity target info
  complete : (∃ info, validatedRedemption externals module world reserveAsset quantity 0 =
    .ok info) → isRedeemValid externals module world reserveAsset quantity = .ok true
  pays : ∀ next,
    redeem externals module world sender reserveAsset quantity 0 target = .ok next →
      PaysExpected externals module world sender reserveAsset quantity target next

/-- The tracked reserve covers the fees of a valid quantity if it covers the payment net
of them. -/
def FeesCovered (externals : Externals E) (module : Address) (world : World E)
    (reserveAsset : Address) (quantity : ℕ) : Prop :=
  0 < quantity → world.isReserveAsset reserveAsset = true →
    world.navIssuanceSettings.minSetTokenSupply + quantity ≤ world.setToken.totalSupply →
    ∀ total expected existing,
      getRedeemReserveQuantity externals world reserveAsset quantity = .ok total →
      getExpectedReserveRedeemQuantity externals module world reserveAsset quantity =
        .ok expected →
      existingReserve world.setToken reserveAsset world.setToken.totalSupply =
        .ok existing →
      expected ≤ existing → total ≤ existing

/-- Where the multiplier is fine, the preview agrees with the redemption exactly if the
fees are covered. -/
theorem previewAgrees_iff {rescaled : ℕ × ℤ}
    (hinitialized : world.isSetValidAndInitialized module)
    (hhook : world.navIssuanceSettings.managerRedemptionHook = zeroAddress)
    (hmultiplier : getRedeemPositionMultiplier world.setToken quantity
      world.setToken.totalSupply = .ok rescaled) :
    PreviewAgrees externals module world sender reserveAsset quantity target ↔
      FeesCovered externals module world reserveAsset quantity := by
  have hvalid := @validatedRedemption_eq_ok _ externals _ reserveAsset _ _ _ hinitialized
    hmultiplier
  have hsmall : world.setToken.totalSupply ≤ maxUint256 := by
    obtain ⟨-, -, -, hfits⟩ := getRedeemPositionMultiplier_fst hmultiplier
    have hint : (maxInt256 : ℤ) ≤ maxUint256 := by decide
    exact_mod_cast hfits.trans hint
  constructor
  · rintro ⟨hsound, -, -⟩ hpositive hreserve hminimum total expected existing htotal hexpected
      hexisting hcovered
    obtain ⟨info, hpasses, -⟩ := hsound (isRedeemValid_eq_ok.mpr ⟨hpositive, hreserve,
      hminimum.trans hsmall, hminimum, expected, hexpected, existing, hexisting, hcovered⟩)
    obtain ⟨-, -, -, -, _, htotal', _, hexisting', hfees⟩ := hvalid.mp ⟨info, hpasses⟩
    cases htotal.symm.trans htotal'
    cases hexisting.symm.trans hexisting'
    exact hfees
  · intro hfees
    refine ⟨fun hpreview => ?_, fun hpasses => ?_, fun next => paysExpected_of_redeem hhook⟩
    · obtain ⟨hpositive, hreserve, -, hminimum, expected, hexpected, existing, hexisting,
        hcovered⟩ := isRedeemValid_eq_ok.mp hpreview
      obtain ⟨total, htotal⟩ : ∃ total, getRedeemReserveQuantity externals world reserveAsset
          quantity = .ok total := by
        simp only [getExpectedReserveRedeemQuantity, bind_eq_ok] at hexpected
        exact ⟨_, hexpected.choose_spec.1⟩
      obtain ⟨info, hpasses⟩ := hvalid.mpr ⟨hpositive, hreserve, hminimum,
        ⟨expected, hexpected⟩, total, htotal, existing, hexisting,
        hfees hpositive hreserve hminimum total expected existing htotal hexpected hexisting
          hcovered⟩
      exact ⟨info, hpasses, by rw [redeem_eq hhook, hpasses, ok_bind]⟩
    · obtain ⟨hpositive, hreserve, hminimum, ⟨expected, hexpected⟩, total, htotal, existing,
        hexisting, hcovered⟩ := hvalid.mp hpasses
      have hless : expected ≤ total := by
        simp only [getExpectedReserveRedeemQuantity, bind_eq_ok, pure_eq_ok] at hexpected
        obtain ⟨_, htotal', ⟨protocolFees, managerFee, netFlow⟩, hpaid, rfl⟩ := hexpected
        cases htotal.symm.trans htotal'
        have hsum := getFees_eq_ok hpaid
        change netFlow ≤ total
        omega
      exact isRedeemValid_eq_ok.mpr ⟨hpositive, hreserve, hminimum.trans hsmall, hminimum,
        expected, hexpected, existing, hexisting, hless.trans hcovered⟩

/-- All tokens trade at par, and redemptions pay a tenth to the manager. -/
def parityValuer : Externals Unit where
  calculateSetTokenValuation _ := SetValuer.calculateSetTokenValuation
    ⟨20, fun _ _ => .ok preciseUnit, fun _ => 18⟩
  decimals _ := 18
  invokePreIssueHook _ _ _ _ _ world := .ok world
  invokePreRedeemHook _ _ _ _ world := .ok world

def feeWorld : World Unit where
  controller := { Controller.deploy 1 2 with
    isSet := fun setToken => setToken == 9
    isModule := fun module => module == 5 }
  setTokenAddress := 9
  setToken := { SetToken.deploy [10, 11] [100, 50] [5] 7 with
    moduleStates := fun module => if module = 5 then .INITIALIZED else .NONE
    totalSupply := 1000 * 10 ^ 18 }
  balances := fun token holder =>
    if holder = 9 then (if token = 10 then 100000 else if token = 11 then 50000 else 0)
    else if token = 9 ∧ holder = 3 then 670 * 10 ^ 18 else 0
  timestamp := 1
  navIssuanceSettings := { noSettings with
    managerFees := fun index => if index = 1 then 10 ^ 17 else 0
    feeRecipient := 4
    minSetTokenSupply := 1 }
  isReserveAsset := fun token => token == 10
  environment := ()

theorem getRedeemPositionMultiplier_feeWorld : ∃ rescaled,
    getRedeemPositionMultiplier feeWorld.setToken (670 * 10 ^ 18)
      feeWorld.setToken.totalSupply = .ok rescaled := by
  obtain ⟨rescaled, hrescaled, -⟩ := returns_iff.mp (by decide +kernel :
    Returns (getRedeemPositionMultiplier feeWorld.setToken (670 * 10 ^ 18)
      feeWorld.setToken.totalSupply) fun _ => True)
  exact ⟨rescaled, hrescaled⟩

theorem previewAgrees_feeWorld :
    PreviewAgrees parityValuer 5 feeWorld 3 10 (670 * 10 ^ 18) 3 ↔
      FeesCovered parityValuer 5 feeWorld 10 (670 * 10 ^ 18) := by
  obtain ⟨rescaled, hrescaled⟩ := getRedeemPositionMultiplier_feeWorld
  exact previewAgrees_iff (by decide) rfl hrescaled

/-- A reserve of 100000 covers the net payment of 90450, but not the 100500 with fees. -/
theorem preview_misleads :
    isRedeemValid parityValuer 5 feeWorld 10 (670 * 10 ^ 18) = .ok true ∧
      670 * 10 ^ 18 ≤ feeWorld.balanceOf feeWorld.setTokenAddress 3 ∧
      trackedBalance feeWorld.setToken 10 ≤ feeWorld.heldBalance 10 ∧
      redeem parityValuer 5 feeWorld 3 10 (670 * 10 ^ 18) 0 3 =
        .error "Must be greater than total available collateral" := by
  refine ⟨?_, by decide, by decide, reverts_iff.mp (by decide +kernel)⟩
  obtain ⟨valid, hvalid, rfl⟩ := returns_iff.mp (by decide +kernel :
    Returns (isRedeemValid parityValuer 5 feeWorld 10 (670 * 10 ^ 18)) fun valid =>
      valid = true)
  exact hvalid

end SetProtocol.NavIssuanceModule
