import SetProtocol.Library.Potential
import SetProtocol.Modules.BasicIssuanceSolvency
import SetProtocol.Modules.StreamingFeeBacking

/-!
# Issuance under a streaming fee

One SetToken with the basic issuance module and the streaming fee module.  Accruing rounds
the units down after the supply was raised, and what it rounds away the SetToken is short
of.  The shortage is counted as a potential: issuance, redemption and transfers never raise
it, and an accrual raises it by at most the supply.
-/

namespace SetProtocol.FeeBearingIssuance

open Transaction PreciseUnitMath Backing
open BasicIssuanceModule (PreIssueHooks HooksKeep Keeps surplus)
open StreamingFeeModule (FeeState accruedFee reducedMultiplier reducedUnit oneYearInSeconds)

/-- What the calls of the two modules read and write. -/
structure World (E : Type) extends BasicIssuanceModule.World E where
  feeState : FeeState

variable {E : Type} {hooks : PreIssueHooks E} {world next : World E} {chain after : Chain}
variable {issuanceModule feeModule component : Address}

def World.issuance (world : World E) : BasicIssuanceModule.World E := world.toWorld

def World.fees (world : World E) : StreamingFeeModule.World :=
  { toChain := world.toChain, feeState := world.feeState }

def World.withIssuance (world : World E) (issuance : BasicIssuanceModule.World E) : World E :=
  { world with toWorld := issuance }

def World.withFees (world : World E) (fees : StreamingFeeModule.World) : World E :=
  { world.withIssuance (world.issuance.withChain fees.toChain) with feeState := fees.feeState }

/-- Everybody issues, redeems, transfers and accrues, the manager changes the fee, and time
passes. -/
inductive Call
  | issuance (call : BasicIssuanceModule.Call)
  | accrueFee
  | updateStreamingFee (sender : Address) (newFee : ℕ)
  | updateFeeRecipient (sender newFeeRecipient : Address)
  | pass (seconds : ℕ)

def performFees (feeModule : Address) :
    Call → StreamingFeeModule.World → Outcome StreamingFeeModule.World
  | .issuance _ => fun world => .ok world
  | .accrueFee => fun world => StreamingFeeModule.accrueFee feeModule world
  | .updateStreamingFee sender newFee => fun world =>
      StreamingFeeModule.updateStreamingFee feeModule world sender newFee
  | .updateFeeRecipient sender newFeeRecipient => fun world =>
      StreamingFeeModule.updateFeeRecipient feeModule world sender newFeeRecipient
  | .pass seconds => fun world =>
      .ok (world.withChain { world.toChain with timestamp := world.timestamp + seconds })

def perform (hooks : PreIssueHooks E) (issuanceModule feeModule : Address) (call : Call)
    (world : World E) : Outcome (World E) :=
  match call with
  | .issuance call => do
      let issuance ← BasicIssuanceModule.perform hooks issuanceModule call world.issuance
      pure (world.withIssuance issuance)
  | call => do
      let fees ← performFees feeModule call world.fees
      pure (world.withFees fees)

/-- Nobody calls from the account of the SetToken itself. -/
def FromOutside (setToken : Address) : Call → Prop
  | .issuance call => call.caller ≠ setToken
  | _ => True

instance (setToken : Address) : DecidablePred (FromOutside setToken)
  | .issuance call => inferInstanceAs (Decidable (call.caller ≠ setToken))
  | .accrueFee => .isTrue trivial
  | .updateStreamingFee _ _ => .isTrue trivial
  | .updateFeeRecipient _ _ => .isTrue trivial
  | .pass _ => .isTrue trivial

/-! ## One accrual -/

/-- A step that may leave each component short by some loss, and keeps the rest in order. -/
structure Loses (loss : ℕ) (chain after : Chain) : Prop where
  setTokenAddress : after.setTokenAddress = chain.setTokenAddress
  components : after.setToken.components = chain.setToken.components
  bookkept : Bookkept chain.setToken → Bookkept after.setToken
  supplied : chain.Supplied → after.Supplied
  surplus_le : Bookkept chain.setToken → ∀ component ∈ chain.setToken.components,
    surplus chain component - loss ≤ surplus after component

theorem Loses.of_keeps (hkeeps : Keeps chain after) : Loses 0 chain after where
  setTokenAddress := hkeeps.setTokenAddress
  components := hkeeps.components
  bookkept := fun hkept => by
    rw [hkeeps.setToken]
    exact hkept.of_same_positions rfl rfl rfl
  supplied := hkeeps.supplied
  surplus_le := fun _ component hcomponent => by
    simpa using hkeeps.surplus_le component hcomponent

theorem reducedMultiplier_mul_le {setToken : SetToken} (hkept : Bookkept setToken)
    (fee : ℕ) : reducedMultiplier setToken fee * preciseUnitInt ≤
      setToken.positionMultiplier * (preciseUnit - fee : ℕ) := by
  have hmultiplier := hkept.multiplier_pos.le
  rw [reducedMultiplier, Int.tdiv_eq_ediv_of_nonneg (by positivity)]
  exact Int.ediv_mul_le _ preciseUnitInt_pos.ne'

/-- The old unit, before it was rounded down, is less than one more. -/
theorem reducedUnit_mul_le {setToken : SetToken} (hkept : Bookkept setToken) (fee : ℕ)
    (component : Address) :
    reducedUnit setToken fee component * preciseUnit ≤
      (setToken.defaultRealUnit component + 1) * (preciseUnit - fee) := by
  have hpositive := preciseUnitInt_pos
  have hvirtual : 0 ≤ setToken.defaultPositionVirtualUnit component :=
    (hkept.positions component).default_nonneg
  have hmultiplier := hkept.multiplier_pos.le
  have hless : setToken.defaultPositionVirtualUnit component * setToken.positionMultiplier ≤
      ((setToken.defaultRealUnit component : ℤ) + 1) * preciseUnitInt := by
    rw [SetToken.defaultRealUnit, realUnit, Int.toNat_of_nonneg
      (Int.ediv_nonneg (mul_nonneg hvirtual hmultiplier) hpositive.le)]
    exact (Int.lt_ediv_add_one_mul_self _ hpositive).le
  have hreduced : (0 : ℤ) ≤ reducedMultiplier setToken fee :=
    Int.tdiv_nonneg (by positivity) hpositive.le
  have hlowered : (reducedUnit setToken fee component : ℤ) * preciseUnitInt ≤
      setToken.defaultPositionVirtualUnit component * reducedMultiplier setToken fee := by
    rw [reducedUnit, realUnit, Int.toNat_of_nonneg
      (Int.ediv_nonneg (mul_nonneg hvirtual hreduced) hpositive.le)]
    exact Int.ediv_mul_le _ hpositive.ne'
  zify
  rw [cast_preciseUnit]
  refine le_of_mul_le_mul_right ?_ hpositive
  calc (reducedUnit setToken fee component : ℤ) * preciseUnitInt * preciseUnitInt
      ≤ setToken.defaultPositionVirtualUnit component * reducedMultiplier setToken fee *
          preciseUnitInt := mul_le_mul_of_nonneg_right hlowered hpositive.le
    _ = setToken.defaultPositionVirtualUnit component *
          (reducedMultiplier setToken fee * preciseUnitInt) := mul_assoc _ _ _
    _ ≤ setToken.defaultPositionVirtualUnit component *
          (setToken.positionMultiplier * (preciseUnit - fee : ℕ)) :=
        mul_le_mul_of_nonneg_left (reducedMultiplier_mul_le hkept fee) hvirtual
    _ = setToken.defaultPositionVirtualUnit component * setToken.positionMultiplier *
          (preciseUnit - fee : ℕ) := (mul_assoc _ _ _).symm
    _ ≤ ((setToken.defaultRealUnit component : ℤ) + 1) * preciseUnitInt *
          (preciseUnit - fee : ℕ) := mul_le_mul_of_nonneg_right hless (Int.natCast_nonneg _)
    _ = ((setToken.defaultRealUnit component : ℤ) + 1) * (preciseUnit - fee : ℕ) *
          preciseUnitInt := by ring

/-- Minting the fee gives nothing away. -/
theorem loses_of_minted {fees : StreamingFeeModule.World} {feeQuantity managerFee protocolFee : ℕ}
    (hcall : StreamingFeeModule.mintManagerAndProtocolFee feeModule fees feeQuantity =
      .ok (chain, managerFee, protocolFee)) :
    (fees.Supplied → chain.Supplied) ∧
      ∀ token, fees.heldBalance token ≤ chain.heldBalance token := by
  simp only [StreamingFeeModule.mintManagerAndProtocolFee, bind_eq_ok, pure_eq_ok,
    Prod.mk.injEq] at hcall
  obtain ⟨share, -, _, -, managed, hmanager, final, hprotocol, rfl, -, -⟩ := hcall
  obtain ⟨-, -, hheld⟩ := Chain.mint_holdings hmanager
  split at hprotocol
  · obtain ⟨-, -, hheld'⟩ := Chain.mint_holdings hprotocol
    exact ⟨fun hsupplied => (hsupplied.mint hmanager).mint hprotocol,
      fun token => (hheld token).trans (hheld' token)⟩
  · cases hprotocol
    exact ⟨fun hsupplied => hsupplied.mint hmanager, hheld⟩

theorem loses_of_accrueFee {fees accrued : StreamingFeeModule.World}
    (hcall : StreamingFeeModule.accrueFee feeModule fees = .ok accrued) :
    Loses fees.setToken.totalSupply fees.toChain accrued.toChain := by
  obtain ⟨hless, haddress, hsetToken, -⟩ := StreamingFeeModule.accrueFee_eq_ok hcall
  have hparts : (Bookkept fees.setToken → Bookkept accrued.setToken) ∧
      (fees.Supplied → accrued.Supplied) ∧
      ∀ token, fees.heldBalance token ≤ accrued.heldBalance token := by
    simp only [StreamingFeeModule.accrueFee, bind_eq_ok, pure_eq_ok] at hcall
    obtain ⟨_, -, reached, hreached, rfl⟩ := hcall
    split at hreached
    · simp only [bind_eq_ok] at hreached
      obtain ⟨fee, -, quantity, -, ⟨minted, managerFee, protocolFee⟩, hminted, hedited⟩ :=
        hreached
      obtain ⟨-, -, hmintedToken, -⟩ :=
        StreamingFeeModule.mintManagerAndProtocolFee_eq_ok hminted
      obtain ⟨hsupplied, hheld⟩ := loses_of_minted hminted
      simp only [StreamingFeeModule.editPositionMultiplier, bind_eq_ok, pure_eq_ok] at hedited
      obtain ⟨_, -, _, -, _, -, edited, hedit, rfl⟩ := hedited
      have hsupply : edited.totalSupply = minted.setToken.totalSupply := by
        obtain ⟨-, -, rfl⟩ := SetToken.editPositionMultiplier_eq_ok.mp hedit
        rfl
      refine ⟨fun hkept => ?_, fun hbefore => ?_, hheld⟩
      · have hmintedKept : Bookkept minted.setToken := by
          rw [hmintedToken]
          exact hkept.of_same_positions rfl rfl rfl
        exact hmintedKept.editPositionMultiplier hedit
      · exact (hsupplied hbefore).of_conserves (Chain.Conserves.refl _) rfl hsupply
    · cases hreached
      exact ⟨id, id, fun _ => le_rfl⟩
  obtain ⟨hkeeps, hsupplied, hheld⟩ := hparts
  refine ⟨haddress, by rw [hsetToken], hkeeps, hsupplied, fun hkept component _ => ?_⟩
  have howed := inflated_owed_le fees.setToken.totalSupply preciseUnit_pos hless.le
    (reducedUnit_mul_le hkept (accruedFee fees) component)
  have hunit := StreamingFeeModule.defaultRealUnit_of_accrual hcall component
  have hscaled := Nat.mul_le_mul_right preciseUnit (hheld component)
  unfold surplus
  rw [hunit, hsetToken]
  zify at howed hscaled
  linarith

/-! ## The shortage over a history -/

/-- The supply whenever a fee accrues. -/
def dust : Call → World E → ℕ
  | .accrueFee, world => world.setToken.totalSupply
  | .updateStreamingFee _ _, world => world.setToken.totalSupply
  | _, _ => 0

theorem Loses.of_same (haddress : after.setTokenAddress = chain.setTokenAddress)
    (hsetToken : after.setToken = chain.setToken) (hbalances : after.balances = chain.balances) :
    Loses 0 chain after where
  setTokenAddress := haddress
  components := by rw [hsetToken]
  bookkept := fun hkept => hsetToken ▸ hkept
  supplied := by
    unfold Chain.Supplied
    rw [haddress, hsetToken, hbalances]
    exact id
  surplus_le := fun _ component _ => by
    simp [surplus, Chain.heldBalance, haddress, hsetToken, hbalances]

theorem perform_loses (hhooks : HooksKeep hooks) (hkept : Bookkept world.setToken)
    {call : Call} (houtside : FromOutside world.setTokenAddress call)
    (hcall : perform hooks issuanceModule feeModule call world = .ok next) :
    Loses (dust call world) world.toChain next.toChain := by
  cases call with
  | issuance call =>
      simp only [perform, bind_eq_ok, pure_eq_ok] at hcall
      obtain ⟨issued, hissued, rfl⟩ := hcall
      exact Loses.of_keeps
        (BasicIssuanceModule.perform_keeps hhooks hkept.components.nodup houtside hissued)
  | accrueFee =>
      simp only [perform, performFees, bind_eq_ok, pure_eq_ok] at hcall
      obtain ⟨accrued, haccrued, rfl⟩ := hcall
      exact loses_of_accrueFee haccrued
  | updateStreamingFee sender newFee =>
      simp only [perform, performFees, StreamingFeeModule.updateStreamingFee, bind_eq_ok,
        pure_eq_ok] at hcall
      obtain ⟨_, ⟨_, -, _, -, _, -, accrued, haccrued, rfl⟩, rfl⟩ := hcall
      exact loses_of_accrueFee haccrued
  | updateFeeRecipient sender newFeeRecipient =>
      simp only [perform, performFees, StreamingFeeModule.updateFeeRecipient, bind_eq_ok,
        pure_eq_ok] at hcall
      obtain ⟨_, ⟨_, -, _, -, _, -, rfl⟩, rfl⟩ := hcall
      exact Loses.of_same rfl rfl rfl
  | pass seconds =>
      simp only [perform, performFees, ok_bind, pure_eq_ok] at hcall
      subst hcall
      exact Loses.of_same rfl rfl rfl

/-- What the calls of a history do to the SetToken as a whole. -/
structure InOrder (world state : World E) : Prop where
  setTokenAddress : state.setTokenAddress = world.setTokenAddress
  components : state.setToken.components = world.setToken.components
  bookkept : Bookkept state.setToken
  supplied : state.Supplied

theorem InOrder.perform {state : World E} (hhooks : HooksKeep hooks)
    (horder : InOrder world state) {call : Call}
    (houtside : FromOutside world.setTokenAddress call)
    (hcall : perform hooks issuanceModule feeModule call state = .ok next) :
    InOrder world next := by
  have hloses := perform_loses hhooks horder.bookkept
    (by rw [horder.setTokenAddress]; exact houtside) hcall
  exact ⟨hloses.setTokenAddress.trans horder.setTokenAddress,
    hloses.components.trans horder.components, hloses.bookkept horder.bookkept,
    hloses.supplied horder.supplied⟩

/-- After any history the shares of all accounts make up the supply, and each component is
short by at most the supplies that fees accrued on, in units of `1e-18`.  Only who redeems
the last shares may meet the shortage. -/
theorem shortage_of_history (hhooks : HooksKeep hooks) (hkept : Bookkept world.setToken)
    (hsupplied : world.Supplied) (hbacked : world.Collateralized) (calls : List Call)
    (houtside : ∀ call ∈ calls, FromOutside world.setTokenAddress call) :
    let final := run (perform hooks issuanceModule feeModule) calls world
    let shortage := spent (perform hooks issuanceModule feeModule) dust calls world
    final.Supplied ∧ ∀ component ∈ final.setToken.components,
      final.setToken.totalSupply * final.setToken.defaultRealUnit component ≤
          final.heldBalance component * preciseUnit + shortage ∧
        ∀ quantity ≤ final.setToken.totalSupply,
          shortage ≤ (final.setToken.totalSupply - quantity) *
            final.setToken.defaultRealUnit component →
          BasicIssuanceModule.payout final.setToken quantity component ≤
            final.heldBalance component := by
  intro final shortage
  have hstart : InOrder world world := ⟨rfl, rfl, hkept, hsupplied⟩
  have horder : InOrder world final := run_preserves (InOrder world)
    (fun call hmem state after hstate hcall =>
      hstate.perform hhooks (houtside call hmem) hcall) hstart
  refine ⟨horder.supplied, fun component hcomponent => ?_⟩
  rw [horder.components] at hcomponent
  have hpotential : surplus world.toChain component - 1 * shortage ≤
      surplus final.toChain component :=
    run_potential (InOrder world) (fun state => surplus state.toChain component)
      (fun call hmem state after hstate hcall => by
        have hloses := perform_loses hhooks hstate.bookkept
          (by rw [hstate.setTokenAddress]; exact houtside call hmem) hcall
        refine ⟨hstate.perform hhooks (houtside call hmem) hcall, ?_⟩
        rw [one_mul]
        exact hloses.surplus_le hstate.bookkept component
          (by rw [hstate.components]; exact hcomponent)) hstart
  have hnonneg := BasicIssuanceModule.surplus_nonneg_iff.mpr hbacked component hcomponent
  have hshort : final.setToken.totalSupply * final.setToken.defaultRealUnit component ≤
      final.heldBalance component * preciseUnit + shortage := by
    apply BasicIssuanceModule.neg_le_surplus_iff.mp
    linarith
  refine ⟨hshort, fun quantity hquantity hleft => ?_⟩
  have hparts : final.setToken.totalSupply * final.setToken.defaultRealUnit component =
      quantity * final.setToken.defaultRealUnit component +
        (final.setToken.totalSupply - quantity) *
          final.setToken.defaultRealUnit component := by
    rw [← Nat.add_mul, Nat.add_sub_cancel' hquantity]
  have hpaid : quantity * final.setToken.defaultRealUnit component ≤
      final.heldBalance component * preciseUnit := by omega
  exact Nat.div_le_of_le_mul ((Nat.mul_comm _ _).trans_ge hpaid)

/-- A SetToken of 50 wei a share, under one percent a year. -/
def chargedWorld : World Unit where
  controller := { Controller.deploy 1 2 with
    isSet := fun setToken => setToken == 9
    isModule := fun module => module == 5 || module == 6 }
  setTokenAddress := 9
  setToken := { SetToken.deploy [10] [50] [5, 6] 7 with
    moduleStates := fun module => if module = 5 ∨ module = 6 then .INITIALIZED else .NONE }
  balances := fun token holder => if token = 10 then (if holder = 9 then 0 else 10 ^ 6) else 0
  timestamp := 0
  managerIssuanceHook := zeroAddress
  environment := ()
  feeState := ⟨4, 10 ^ 17, 10 ^ 16, 0⟩

def noHooks : PreIssueHooks Unit := fun _ _ _ _ world => .ok world

theorem bookkept_chargedWorld : Bookkept chargedWorld.setToken := by
  have hdeployed : Bookkept (SetToken.deploy [10] [50] [5, 6] 7) :=
    SetTokenCreator.bookkept_deploy (by decide) (by decide) (by decide)
  exact hdeployed.of_same_positions rfl rfl rfl

theorem supplied_chargedWorld : chargedWorld.Supplied := by
  have hledger : chargedWorld.balances chargedWorld.setTokenAddress = fun _ => 0 := rfl
  rw [Chain.Supplied, hledger]
  exact Ledger.sumsTo_empty

/-- A thousand shares, and fees after each of two years. -/
def twoYears : List Call :=
  [.issuance (.issue 3 (10 ^ 21) 3), .pass oneYearInSeconds, .accrueFee,
    .pass oneYearInSeconds, .updateStreamingFee 7 (10 ^ 15),
    .issuance (.redeem 3 (10 ^ 18) 3)]

theorem shortage_of_twoYears :
    let final := run (perform noHooks 5 6) twoYears chargedWorld
    let shortage := spent (perform noHooks 5 6) dust twoYears chargedWorld
    final.Supplied ∧ ∀ component ∈ final.setToken.components,
      final.setToken.totalSupply * final.setToken.defaultRealUnit component ≤
          final.heldBalance component * preciseUnit + shortage ∧
        ∀ quantity ≤ final.setToken.totalSupply,
          shortage ≤ (final.setToken.totalSupply - quantity) *
            final.setToken.defaultRealUnit component →
          BasicIssuanceModule.payout final.setToken quantity component ≤
            final.heldBalance component :=
  shortage_of_history BasicIssuanceModule.hooksKeep_none bookkept_chargedWorld
    supplied_chargedWorld (fun component _ => (Nat.zero_mul _).trans_le (Nat.zero_le _)) twoYears (by decide)

/-! ## The fee over a history -/

/-- How often fees have accrued. -/
def accrual : Call → World E → ℕ
  | .accrueFee, _ => 1
  | .updateStreamingFee _ _, _ => 1
  | _, _ => 0

/-- The scale of a multiplier times a fee percentage a year. -/
def feeScale : ℤ := preciseUnitInt * oneYearInSeconds

/-- The fee stays within its maximum, and the multiplier only falls. -/
structure Dilutes (world state : World E) : Prop where
  maximum : state.feeState.maxStreamingFeePercentage = world.feeState.maxStreamingFeePercentage
  percentage : state.feeState.streamingFeePercentage ≤ world.feeState.maxStreamingFeePercentage
  collected : state.feeState.lastStreamingFeeTimestamp ≤ state.timestamp
  multiplier_le : state.setToken.positionMultiplier ≤ world.setToken.positionMultiplier

/-- The multiplier, and what the fee could have taken of it by the last collection. -/
def undiluted (world state : World E) : ℤ :=
  state.setToken.positionMultiplier * feeScale +
    world.setToken.positionMultiplier * world.feeState.maxStreamingFeePercentage *
      state.feeState.lastStreamingFeeTimestamp

/-- Hooks run at the time of their block. -/
def HooksAtOnce (hooks : PreIssueHooks E) : Prop :=
  ∀ hook quantity caller target world next,
    hooks hook quantity caller target world = .ok next → next.timestamp = world.timestamp

theorem timestamp_of_issuance (hatOnce : HooksAtOnce hooks) {call : BasicIssuanceModule.Call}
    {issuance issued : BasicIssuanceModule.World E}
    (hcall : BasicIssuanceModule.perform hooks issuanceModule call issuance = .ok issued) :
    issued.timestamp = issuance.timestamp := by
  cases call with
  | issue sender quantity target =>
      simp only [BasicIssuanceModule.perform, BasicIssuanceModule.issue, bind_eq_ok,
        pure_eq_ok] at hcall
      obtain ⟨_, -, _, -, hooked, hhooked, required, -, collected, hcollect, minted, hmint,
        rfl⟩ := hcall
      have hhook : hooked.timestamp = issuance.timestamp := by
        unfold BasicIssuanceModule.callPreIssueHooks at hhooked
        split at hhooked
        · exact hatOnce _ _ _ _ _ _ hhooked
        · rw [pure_eq_ok] at hhooked
          rw [hhooked]
      have hcollected : collected.timestamp = hooked.timestamp :=
        @foldlM_preserves _ _ _ (fun state : Chain => state.timestamp = hooked.timestamp) _ _
          (fun entry _ state after hstate hturn => by
            obtain ⟨_, rfl⟩ := Chain.transferFrom_frame hturn
            exact hstate) _ _ rfl hcollect
      obtain ⟨-, -, rfl⟩ := Chain.mint_eq_ok hmint
      exact hcollected.trans hhook
  | redeem sender quantity target =>
      simp only [BasicIssuanceModule.perform, BasicIssuanceModule.redeem, bind_eq_ok,
        pure_eq_ok] at hcall
      obtain ⟨_, -, _, -, burnt, hburn, paid, hpay, rfl⟩ := hcall
      have hpaid : paid.timestamp = burnt.timestamp :=
        @foldlM_preserves _ _ _ (fun state : Chain => state.timestamp = burnt.timestamp) _ _
          (fun component _ state after hstate hturn => by
            obtain ⟨_, rfl⟩ := Chain.strictInvokeTransfer_frame
              (BasicIssuanceModule.payComponent_eq_ok hturn).2
            exact hstate) _ _ rfl hpay
      obtain ⟨-, -, -, rfl⟩ := Chain.burn_eq_ok hburn
      exact hpaid
  | transfer token sender target quantity =>
      simp only [BasicIssuanceModule.perform, bind_eq_ok, pure_eq_ok] at hcall
      obtain ⟨moved, hmoved, rfl⟩ := hcall
      obtain ⟨-, rfl⟩ := Chain.moveTokens_eq_ok.mp hmoved
      rfl
  | removeModule sender =>
      simp only [BasicIssuanceModule.perform, BasicIssuanceModule.leaveSetToken,
        BasicIssuanceModule.removeModule, bind_eq_ok, reduceCtorEq, false_and,
        exists_false, and_false] at hcall

theorem terms_of_accrueFee {fees accrued : StreamingFeeModule.World}
    (hcall : StreamingFeeModule.accrueFee feeModule fees = .ok accrued) :
    accrued.timestamp = fees.timestamp ∧
      accrued.feeState = { fees.feeState with lastStreamingFeeTimestamp := fees.timestamp } := by
  simp only [StreamingFeeModule.accrueFee, bind_eq_ok, pure_eq_ok] at hcall
  obtain ⟨_, -, reached, hreached, rfl⟩ := hcall
  refine ⟨?_, rfl⟩
  change reached.timestamp = _
  split at hreached
  · simp only [StreamingFeeModule.mintManagerAndProtocolFee,
      StreamingFeeModule.editPositionMultiplier, bind_eq_ok, pure_eq_ok] at hreached
    obtain ⟨_, -, _, -, _, ⟨_, -, _, -, managed, hmanager, final, hprotocol, rfl⟩, _, -, _, -,
      _, -, _, -, rfl⟩ := hreached
    obtain ⟨-, -, rfl⟩ := Chain.mint_eq_ok hmanager
    split at hprotocol
    · obtain ⟨-, -, rfl⟩ := Chain.mint_eq_ok hprotocol
      rfl
    · cases hprotocol
      rfl
  · cases hreached
    rfl

theorem feeScale_pos : 0 < feeScale := by decide

/-- An accrual takes no more than the maximum does in the time, and one unit of rounding. -/
theorem multiplier_of_accrueFee {fees accrued : StreamingFeeModule.World} {maximum : ℕ}
    (hkept : Bookkept fees.setToken)
    (hpercentage : fees.feeState.streamingFeePercentage ≤ maximum)
    (hcollected : fees.feeState.lastStreamingFeeTimestamp ≤ fees.timestamp)
    (hcall : StreamingFeeModule.accrueFee feeModule fees = .ok accrued) :
    accrued.setToken.positionMultiplier ≤ fees.setToken.positionMultiplier ∧
      fees.setToken.positionMultiplier * feeScale -
          fees.setToken.positionMultiplier * maximum *
            ((fees.timestamp : ℤ) - fees.feeState.lastStreamingFeeTimestamp) - feeScale ≤
        accrued.setToken.positionMultiplier * feeScale := by
  obtain ⟨hless, -, hsetToken, -⟩ := StreamingFeeModule.accrueFee_eq_ok hcall
  have hpositive := preciseUnitInt_pos
  have hmultiplier := hkept.multiplier_pos
  have hremaining : ((preciseUnit - accruedFee fees : ℕ) : ℤ) =
      preciseUnitInt - accruedFee fees := by
    rw [Nat.cast_sub hless.le, cast_preciseUnit]
  rw [hsetToken]
  change reducedMultiplier fees.setToken (accruedFee fees) ≤ _ ∧
    _ ≤ reducedMultiplier fees.setToken (accruedFee fees) * feeScale
  have hupper := reducedMultiplier_mul_le hkept (accruedFee fees)
  have hlower : fees.setToken.positionMultiplier * (preciseUnit - accruedFee fees : ℕ) ≤
      (reducedMultiplier fees.setToken (accruedFee fees) + 1) * preciseUnitInt := by
    rw [reducedMultiplier, Int.tdiv_eq_ediv_of_nonneg (by positivity)]
    exact (Int.lt_ediv_add_one_mul_self _ hpositive).le
  rw [hremaining] at hupper hlower
  constructor
  · refine le_of_mul_le_mul_right (hupper.trans ?_) hpositive
    exact mul_le_mul_of_nonneg_left (sub_le_self _ (Int.natCast_nonneg _)) hmultiplier.le
  · have hfee : (accruedFee fees : ℤ) * oneYearInSeconds ≤
        maximum * ((fees.timestamp : ℤ) - fees.feeState.lastStreamingFeeTimestamp) := by
      have hfloor : accruedFee fees * oneYearInSeconds ≤
          (fees.timestamp - fees.feeState.lastStreamingFeeTimestamp) * maximum :=
        (Nat.div_mul_le_self _ _).trans (Nat.mul_le_mul_left _ hpercentage)
      zify [hcollected] at hfloor
      linarith
    have htaken := mul_le_mul_of_nonneg_left hfee hmultiplier.le
    have hscaled := mul_le_mul_of_nonneg_right hlower
      (show (0 : ℤ) ≤ oneYearInSeconds from Int.natCast_nonneg _)
    unfold feeScale
    linarith

theorem dilutes_of_accrueFee {state : World E} {accrued : StreamingFeeModule.World}
    (hkept : Bookkept state.setToken) (hdilutes : Dilutes world state)
    (hcall : StreamingFeeModule.accrueFee feeModule state.fees = .ok accrued) :
    Dilutes world (state.withFees accrued) ∧
      undiluted world state - feeScale ≤ undiluted world (state.withFees accrued) := by
  obtain ⟨htimestamp, hfeeState⟩ := terms_of_accrueFee hcall
  obtain ⟨hless, hfalls⟩ := multiplier_of_accrueFee hkept hdilutes.percentage
    hdilutes.collected hcall
  refine ⟨⟨?_, ?_, ?_, hless.trans hdilutes.multiplier_le⟩, ?_⟩
  · change accrued.feeState.maxStreamingFeePercentage = _
    rw [hfeeState]
    exact hdilutes.maximum
  · change accrued.feeState.streamingFeePercentage ≤ _
    rw [hfeeState]
    exact hdilutes.percentage
  · change accrued.feeState.lastStreamingFeeTimestamp ≤ accrued.timestamp
    rw [hfeeState, htimestamp]
  · have hcollected : (0 : ℤ) ≤
        (state.timestamp : ℤ) - state.feeState.lastStreamingFeeTimestamp :=
      sub_nonneg.mpr (Nat.cast_le.mpr hdilutes.collected)
    have hmore := mul_le_mul_of_nonneg_right
      (mul_le_mul_of_nonneg_right hdilutes.multiplier_le
        (Int.natCast_nonneg world.feeState.maxStreamingFeePercentage)) hcollected
    change _ ≤ accrued.setToken.positionMultiplier * feeScale +
      world.setToken.positionMultiplier * world.feeState.maxStreamingFeePercentage *
        accrued.feeState.lastStreamingFeeTimestamp
    rw [hfeeState]
    change state.setToken.positionMultiplier * feeScale - state.setToken.positionMultiplier *
      world.feeState.maxStreamingFeePercentage *
        ((state.timestamp : ℤ) - state.feeState.lastStreamingFeeTimestamp) - feeScale ≤ _ at hfalls
    change _ ≤ accrued.setToken.positionMultiplier * feeScale +
      world.setToken.positionMultiplier * world.feeState.maxStreamingFeePercentage *
        (state.timestamp : ℤ)
    unfold undiluted
    linarith

theorem perform_dilutes {state : World E} (hhooks : HooksKeep hooks)
    (hatOnce : HooksAtOnce hooks) (hkept : Bookkept state.setToken)
    (hdilutes : Dilutes world state) {call : Call}
    (houtside : FromOutside state.setTokenAddress call)
    (hcall : perform hooks issuanceModule feeModule call state = .ok next) :
    Dilutes world next ∧
      undiluted world state - feeScale * accrual call state ≤ undiluted world next := by
  cases call with
  | issuance call =>
      simp only [perform, bind_eq_ok, pure_eq_ok] at hcall
      obtain ⟨issued, hissued, rfl⟩ := hcall
      have hkeeps :=
        BasicIssuanceModule.perform_keeps hhooks hkept.components.nodup houtside hissued
      have htimestamp := timestamp_of_issuance hatOnce hissued
      have hmultiplier : issued.setToken.positionMultiplier =
          state.setToken.positionMultiplier := by
        rw [hkeeps.setToken]
      refine ⟨⟨hdilutes.maximum, hdilutes.percentage, ?_, ?_⟩, ?_⟩
      · exact hdilutes.collected.trans_eq htimestamp.symm
      · exact hmultiplier.trans_le hdilutes.multiplier_le
      · change _ ≤ issued.setToken.positionMultiplier * feeScale + _
        rw [hmultiplier]
        exact sub_le_self _ (mul_nonneg feeScale_pos.le (Int.natCast_nonneg _))
  | accrueFee =>
      simp only [perform, performFees, bind_eq_ok, pure_eq_ok] at hcall
      obtain ⟨accrued, haccrued, rfl⟩ := hcall
      simpa [accrual] using dilutes_of_accrueFee hkept hdilutes haccrued
  | updateStreamingFee sender newFee =>
      simp only [perform, performFees, StreamingFeeModule.updateStreamingFee, bind_eq_ok,
        require_eq_ok, pure_eq_ok] at hcall
      obtain ⟨_, ⟨_, -, _, -, _, hnewFee, accrued, haccrued, rfl⟩, rfl⟩ := hcall
      obtain ⟨hafter, hfalls⟩ := dilutes_of_accrueFee hkept hdilutes haccrued
      refine ⟨⟨hafter.maximum, ?_, hafter.collected, hafter.multiplier_le⟩, ?_⟩
      · exact (hnewFee.le.trans_eq hdilutes.maximum)
      · rw [accrual, Nat.cast_one, mul_one]
        exact hfalls
  | updateFeeRecipient sender newFeeRecipient =>
      simp only [perform, performFees, StreamingFeeModule.updateFeeRecipient, bind_eq_ok,
        pure_eq_ok] at hcall
      obtain ⟨_, ⟨_, -, _, -, _, -, rfl⟩, rfl⟩ := hcall
      refine ⟨⟨hdilutes.maximum, hdilutes.percentage, hdilutes.collected,
        hdilutes.multiplier_le⟩, ?_⟩
      simp only [accrual, Nat.cast_zero, mul_zero, sub_zero]
      exact le_rfl
  | pass seconds =>
      simp only [perform, performFees, ok_bind, pure_eq_ok] at hcall
      subst hcall
      refine ⟨⟨hdilutes.maximum, hdilutes.percentage,
        hdilutes.collected.trans (Nat.le_add_right _ _), hdilutes.multiplier_le⟩, ?_⟩
      simp only [accrual, Nat.cast_zero, mul_zero, sub_zero]
      exact le_rfl

/-- Whoever accrues how often, and whatever the manager sets the fee to: the multiplier never
rises, and over a time it loses no more than the maximal fee does as simple interest, and
one unit for each accrual. -/
theorem dilution_of_history (hhooks : HooksKeep hooks) (hatOnce : HooksAtOnce hooks)
    (hkept : Bookkept world.setToken) (hsupplied : world.Supplied)
    (hpercentage :
      world.feeState.streamingFeePercentage ≤ world.feeState.maxStreamingFeePercentage)
    (hcollected : world.feeState.lastStreamingFeeTimestamp ≤ world.timestamp)
    (calls : List Call) (houtside : ∀ call ∈ calls, FromOutside world.setTokenAddress call) :
    let final := run (perform hooks issuanceModule feeModule) calls world
    let accruals := spent (perform hooks issuanceModule feeModule) accrual calls world
    let elapsed : ℤ := final.timestamp - world.feeState.lastStreamingFeeTimestamp
    final.setToken.positionMultiplier ≤ world.setToken.positionMultiplier ∧
      world.setToken.positionMultiplier *
          (feeScale - world.feeState.maxStreamingFeePercentage * elapsed) ≤
        (final.setToken.positionMultiplier + accruals) * feeScale := by
  intro final accruals elapsed
  have hstart : InOrder world world ∧ Dilutes world world :=
    ⟨⟨rfl, rfl, hkept, hsupplied⟩, ⟨rfl, hpercentage, hcollected, le_rfl⟩⟩
  have hstep : ∀ call ∈ calls, ∀ state after, InOrder world state ∧ Dilutes world state →
      perform hooks issuanceModule feeModule call state = .ok after →
      (InOrder world after ∧ Dilutes world after) ∧
        undiluted world state - feeScale * accrual call state ≤ undiluted world after := by
    rintro call hmem state after ⟨horder, hdilutes⟩ hcall
    obtain ⟨hafter, hfalls⟩ := perform_dilutes hhooks hatOnce horder.bookkept hdilutes
      (by rw [horder.setTokenAddress]; exact houtside call hmem) hcall
    exact ⟨⟨horder.perform hhooks (houtside call hmem) hcall, hafter⟩, hfalls⟩
  have hfinal : Dilutes world final := (run_preserves
    (fun state => InOrder world state ∧ Dilutes world state)
    (fun call hmem state after hstate hcall => (hstep call hmem state after hstate hcall).1)
    hstart).2
  have hpotential : undiluted world world - feeScale * accruals ≤ undiluted world final :=
    run_potential (fun state => InOrder world state ∧ Dilutes world state) (undiluted world)
      hstep hstart
  refine ⟨hfinal.multiplier_le, ?_⟩
  have hlater : world.setToken.positionMultiplier *
      world.feeState.maxStreamingFeePercentage * final.feeState.lastStreamingFeeTimestamp ≤
        world.setToken.positionMultiplier * world.feeState.maxStreamingFeePercentage *
          final.timestamp :=
    mul_le_mul_of_nonneg_left (Nat.cast_le.mpr hfinal.collected)
      (mul_nonneg hkept.multiplier_pos.le (Int.natCast_nonneg _))
  unfold undiluted at hpotential
  change _ * (feeScale - _ * ((final.timestamp : ℤ) - _)) ≤ _
  linarith

theorem dilution_of_twoYears :
    let final := run (perform noHooks 5 6) twoYears chargedWorld
    let accruals := spent (perform noHooks 5 6) accrual twoYears chargedWorld
    final.setToken.positionMultiplier ≤ 10 ^ 18 ∧
      10 ^ 18 * (feeScale - 10 ^ 17 * ((final.timestamp : ℤ) - 0)) ≤
        (final.setToken.positionMultiplier + accruals) * feeScale :=
  dilution_of_history BasicIssuanceModule.hooksKeep_none
    (by
      rintro _ _ _ _ _ _ ⟨⟩
      rfl) bookkept_chargedWorld supplied_chargedWorld (by decide) (by decide) twoYears (by decide)

end SetProtocol.FeeBearingIssuance
