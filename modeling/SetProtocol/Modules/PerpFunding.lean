import SetProtocol.Modules.PerpV2BasisTradingModule
import SetProtocol.Library.Journal

/-!
# Tracked funding

`settledFunding` is meant to be a replay of the funding events of the account: what Perp
settles is added, not below zero, and what the manager takes out is subtracted.  A call
breaks this if it settles a payment that it has not tracked, or tracks one that it does
not go on to settle.
-/

namespace SetProtocol.PerpV2BasisTradingModule

open Transaction PreciseUnitMath UnitConversionUtils Journal
open PerpV2LeverageModuleV2 (replicates withdrawCollateral updateCollateralPositions
  executePositionTrades editCollateralUnit formatAdjustments)

variable {P : Type}

/-- What an event makes of the tracked funding. -/
def applyEvent (tracked : ℕ) : FundingEvent → ℕ
  | .settled payment => (tracked + payment).toNat
  | .withdrawn quantity => tracked - quantity

/-- What Perp promises: trades and withdrawals settle the whole pending payment, deposits
none of it. -/
structure SettlesFunding (perp : Perp P) : Prop where
  trade : ∀ params protocol result, perp.openPosition params protocol = .ok result →
    perp.getAllPendingFundingPayment result.1 = 0
  withdraw : ∀ quantity protocol next, 0 < quantity →
    perp.withdraw quantity protocol = .ok next → perp.getAllPendingFundingPayment next = 0
  deposit : ∀ quantity protocol next, perp.deposit quantity protocol = .ok next →
    perp.getAllPendingFundingPayment next = perp.getAllPendingFundingPayment protocol

/-- The calls of the manager and of the issuance module.  Between them anything may
happen to the chain and to Perp, where funding accrues. -/
inductive FundingCall (P : Type)
  | trade (sender baseToken : Address) (baseQuantityUnits : ℤ)
      (quoteBoundQuantityUnits : ℕ)
  | tradeAndTrackFunding (sender baseToken : Address) (baseQuantityUnits : ℤ)
      (quoteBoundQuantityUnits : ℕ)
  | deposit (sender : Address) (collateralQuantityUnits : ℕ)
  | withdraw (sender : Address) (collateralQuantityUnits : ℕ)
  | withdrawFundingAndAccrueFees (sender : Address) (notionalFunding : ℕ)
  | moduleIssueHook (sender : Address) (setTokenQuantity : ℕ)
  | moduleRedeemHook (sender : Address) (setTokenQuantity : ℕ)
  | outside (chain : Chain) (protocol : P)

def performFunding (perp : Perp P) (module : Address) (call : FundingCall P)
    (world : World P) : Outcome (World P) :=
  match call with
  | .trade sender baseToken baseQuantityUnits quoteBoundQuantityUnits =>
      trade perp module world sender baseToken baseQuantityUnits quoteBoundQuantityUnits
  | .tradeAndTrackFunding sender baseToken baseQuantityUnits quoteBoundQuantityUnits =>
      tradeAndTrackFunding perp module world sender baseToken baseQuantityUnits
        quoteBoundQuantityUnits
  | .deposit sender collateralQuantityUnits =>
      deposit perp module world sender collateralQuantityUnits
  | .withdraw sender collateralQuantityUnits =>
      withdraw perp module world sender collateralQuantityUnits
  | .withdrawFundingAndAccrueFees sender notionalFunding =>
      withdrawFundingAndAccrueFees perp module world sender notionalFunding
  | .moduleIssueHook sender setTokenQuantity =>
      moduleIssueHook perp module world sender setTokenQuantity
  | .moduleRedeemHook sender setTokenQuantity =>
      moduleRedeemHook perp module world sender setTokenQuantity
  | .outside chain protocol =>
      .ok { world with toChain := chain, protocol := protocol }

/-- The events from one state to a later one, replayed on the tracked funding. -/
def Replays (start world : World P) : Prop :=
  ∃ events, world.fundingEvents = start.fundingEvents ++ events ∧
    world.settledFunding = replay applyEvent start.settledFunding events

/-- Settling the pending payment would not change the tracked funding. -/
def NothingToTrack (perp : Perp P) (world : World P) : Prop :=
  perp.getAllPendingFundingPayment world.protocol = 0 ∨
    world.settledFunding = 0 ∧ 0 ≤ perp.getAllPendingFundingPayment world.protocol

/-- A listed position exceeds one position unit, so that a hook trades. -/
def HasPosition (perp : Perp P) (world : World P) : Prop :=
  ∃ baseToken ∈ world.positions,
    PerpV2LeverageModuleV2.ExceedsUnit perp world.toWorld baseToken

/-- The call tracks the pending payment exactly if it settles it. -/
def TracksWhatSettles (perp : Perp P) (call : FundingCall P) (world : World P) : Prop :=
  match call with
  | .trade .. => NothingToTrack perp world
  | .withdrawFundingAndAccrueFees _ notionalFunding =>
      notionalFunding = 0 ∨ NothingToTrack perp world ∨
        (decimalScale perp.collateralDecimals : ℤ) ≤
          world.settledFunding - perp.getAllPendingFundingPayment world.protocol
  | .moduleIssueHook .. =>
      NothingToTrack perp world ∨
        replicates perp world.toWorld ∧ HasPosition perp world
  | .moduleRedeemHook .. =>
      NothingToTrack perp world ∨ ¬replicates perp world.toWorld ∨ HasPosition perp world
  | _ => True

/-! ## What Perp settles -/

variable {perp : Perp P} {module sender : Address} {payment other : ℤ}

/-- The events between two states amount to one payment. -/
structure Settles (perp : Perp P) (payment : ℤ) (account next : PerpAccount P) : Prop where
  events : ∃ events, next.fundingEvents = account.fundingEvents ++ events ∧
    ∀ tracked, replay applyEvent tracked events = applyEvent tracked (.settled payment)
  pending : perp.getAllPendingFundingPayment next.protocol =
    perp.getAllPendingFundingPayment account.protocol + payment

@[simp]
theorem applyEvent_zero (tracked : ℕ) : applyEvent tracked (.settled 0) = tracked := by
  simp [applyEvent]

theorem Settles.refl (account : PerpAccount P) : Settles perp 0 account account := by
  refine ⟨⟨[], (List.append_nil _).symm, fun tracked => ?_⟩, (add_zero _).symm⟩
  rw [replay_nil, applyEvent_zero]

/-- At most one of two payments counts, since the first settles all there is. -/
theorem Settles.trans {account middle next : PerpAccount P}
    (hfirst : Settles perp payment account middle) (hsecond : Settles perp other middle next)
    (honce : payment = 0 ∨ other = 0) : Settles perp (payment + other) account next := by
  obtain ⟨earlier, hearlier, hbefore⟩ := hfirst.events
  obtain ⟨later, hlater, hafter⟩ := hsecond.events
  refine ⟨⟨earlier ++ later, ?_, fun tracked => ?_⟩, ?_⟩
  · rw [hlater, hearlier, List.append_assoc]
  · rw [replay_append, hbefore, hafter]
    rcases honce with rfl | rfl
    · rw [applyEvent_zero, zero_add]
    · rw [applyEvent_zero, add_zero]
  · rw [hsecond.pending, hfirst.pending, add_assoc]

/-- One call of Perp. -/
theorem settles_of_call {account next : PerpAccount P}
    (hevents : next.fundingEvents = account.fundingEvents ++
      [PerpAccount.settledBy perp account.protocol next.protocol]) :
    Settles perp (perp.getAllPendingFundingPayment next.protocol -
      perp.getAllPendingFundingPayment account.protocol) account next := by
  refine ⟨⟨_, hevents, fun tracked => replay_singleton⟩, ?_⟩
  rw [add_sub_cancel]

/-- A call that settles everything. -/
theorem settles_all {account next : PerpAccount P}
    (hevents : next.fundingEvents = account.fundingEvents ++
      [PerpAccount.settledBy perp account.protocol next.protocol])
    (hpending : perp.getAllPendingFundingPayment next.protocol = 0) :
    Settles perp (-perp.getAllPendingFundingPayment account.protocol) account next := by
  have hsettles := settles_of_call hevents
  rwa [hpending, zero_sub] at hsettles

section Parent

variable {parent next : PerpV2LeverageModuleV2.World P}

/-- A trade settles the whole pending payment. -/
theorem executeTrade_settles (hperp : SettlesFunding perp) {actionInfo : PerpActionInfo}
    {deltaQuote : ℕ}
    (hcall : PerpV2LeverageModuleV2.executeTrade perp module parent actionInfo =
      .ok (next, deltaQuote)) :
    Settles perp (-perp.getAllPendingFundingPayment parent.protocol) parent.toPerpAccount
        next.toPerpAccount ∧
      next = parent.withAccount next.toPerpAccount := by
  simp only [PerpV2LeverageModuleV2.executeTrade, bind_eq_ok, pure_eq_ok,
    Prod.mk.injEq] at hcall
  obtain ⟨⟨account, base, quote⟩, htraded, rfl, rfl⟩ := hcall
  obtain ⟨hopened, hevents, -⟩ := PerpAccount.executeTrade_eq_ok htraded
  exact ⟨settles_all hevents (hperp.trade _ _ _ hopened), rfl⟩

/-- A withdrawal settles it as well, unless there is nothing to withdraw. -/
theorem withdrawCollateral_settles (hperp : SettlesFunding perp) {quantity : ℕ}
    (hcall : withdrawCollateral perp module parent quantity = .ok next) :
    Settles perp (if quantity = 0 then 0
        else -perp.getAllPendingFundingPayment parent.protocol) parent.toPerpAccount
      next.toPerpAccount := by
  rw [withdrawCollateral] at hcall
  split at hcall
  · rename_i hzero
    rw [Except.ok.injEq] at hcall
    rw [if_pos hzero, hcall]
    exact Settles.refl _
  · rename_i hpositive
    simp only [bind_eq_ok, pure_eq_ok] at hcall
    obtain ⟨account, hwithdrawn, rfl⟩ := hcall
    obtain ⟨hcalled, hevents, -⟩ := PerpAccount.invokeWithdraw_eq_ok hwithdrawn
    rw [if_neg hpositive]
    exact settles_all hevents
      (hperp.withdraw _ _ _ (Nat.pos_of_ne_zero hpositive) hcalled)

/-- Once all is settled, a withdrawal settles nothing. -/
theorem withdrawCollateral_settles_nothing (hperp : SettlesFunding perp) {quantity : ℕ}
    (hsettled : perp.getAllPendingFundingPayment parent.protocol = 0)
    (hcall : withdrawCollateral perp module parent quantity = .ok next) :
    Settles perp 0 parent.toPerpAccount next.toPerpAccount := by
  have hsettles := withdrawCollateral_settles hperp hcall
  rwa [hsettled, neg_zero, ite_self] at hsettles

theorem depositCollateral_settles_nothing (hperp : SettlesFunding perp) {quantity : ℕ}
    (hcall : PerpV2LeverageModuleV2.depositCollateral perp module parent quantity =
      .ok next) : Settles perp 0 parent.toPerpAccount next.toPerpAccount := by
  simp only [PerpV2LeverageModuleV2.depositCollateral, bind_eq_ok, pure_eq_ok] at hcall
  obtain ⟨account, hdeposited, rfl⟩ := hcall
  obtain ⟨hcalled, hevents, -⟩ := PerpAccount.invokeDeposit_eq_ok hdeposited
  have hsettles := settles_of_call hevents
  rwa [hperp.deposit _ _ _ hcalled, sub_self] at hsettles

/-- Editing positions of the SetToken settles nothing. -/
theorem settles_withChain {account : PerpAccount P} {chain : Chain}
    (hsettles : Settles perp payment account parent.toPerpAccount) :
    Settles perp payment account (parent.withChain chain).toPerpAccount :=
  ⟨hsettles.events, hsettles.pending⟩

theorem updateCollateralPositions_eq_ok {balance : ℕ}
    (hcall : updateCollateralPositions perp module parent balance = .ok next) :
    ∃ chain, next = parent.withChain chain := by
  simp only [updateCollateralPositions, PerpV2LeverageModuleV2.updateExternalPositionUnit,
    bind_eq_ok, pure_eq_ok] at hcall
  obtain ⟨_, -, _, -, _, -, _, -, _, -, _, -, rfl⟩ := hcall
  exact ⟨_, rfl⟩

theorem accrueProtocolFee_settles_nothing (hperp : SettlesFunding perp) {quantity : ℕ}
    (hsettled : perp.getAllPendingFundingPayment parent.protocol = 0)
    (hcall : PerpV2LeverageModuleV2.accrueProtocolFee perp module parent quantity =
      .ok next) : Settles perp 0 parent.toPerpAccount next.toPerpAccount := by
  simp only [PerpV2LeverageModuleV2.accrueProtocolFee, bind_eq_ok, pure_eq_ok] at hcall
  obtain ⟨_, -, _, -, withdrawn, hwithdrawn, _, -, rfl⟩ := hcall
  exact settles_withChain (withdrawCollateral_settles_nothing hperp hsettled hwithdrawn)

/-- A trade of the manager settles the whole pending payment. -/
theorem trade_settles (hperp : SettlesFunding perp) {baseToken : Address} {units : ℤ}
    {bound : ℕ}
    (hcall : PerpV2LeverageModuleV2.trade perp module parent sender baseToken units bound =
      .ok next) :
    Settles perp (-perp.getAllPendingFundingPayment parent.protocol) parent.toPerpAccount
      next.toPerpAccount := by
  simp only [PerpV2LeverageModuleV2.trade, bind_eq_ok] at hcall
  obtain ⟨_, -, actionInfo, -, ⟨traded, deltaQuote⟩, htraded, charged, hcharged,
    hupdated⟩ := hcall
  obtain ⟨hsettles, -⟩ := executeTrade_settles hperp htraded
  have hsettled : perp.getAllPendingFundingPayment traded.protocol = 0 := by
    rw [hsettles.pending, add_neg_cancel]
  have hfee := accrueProtocolFee_settles_nothing hperp hsettled hcharged
  rw [(PerpV2LeverageModuleV2.updatePositionList_eq_ok hupdated).1]
  have htotal := hsettles.trans hfee (Or.inr rfl)
  rw [add_zero] at htotal
  exact ⟨htotal.events, htotal.pending⟩

/-- So does replicating a position. -/
theorem replicatePosition_settles (hperp : SettlesFunding perp) {quantity totalSupply : ℤ}
    {isIssue : Bool} {progress result : PerpV2LeverageModuleV2.World P × ℤ}
    {position : PositionNotionalInfo}
    (hcall : PerpV2LeverageModuleV2.replicatePosition perp module quantity totalSupply
      isIssue false progress position = .ok result) :
    Settles perp (-perp.getAllPendingFundingPayment progress.1.protocol)
      progress.1.toPerpAccount result.1.toPerpAccount := by
  simp only [PerpV2LeverageModuleV2.replicatePosition, Bool.false_eq_true, if_false,
    bind_eq_ok, pure_eq_ok] at hcall
  obtain ⟨_, -, _, -, _, -, actionInfo, -, ⟨traded, deltaQuote⟩, htraded, _, -, _, -,
    rfl⟩ := hcall
  exact (executeTrade_settles hperp htraded).1

/-- The first position settles the whole pending payment, the others find nothing. -/
theorem replicatePositions_settles (hperp : SettlesFunding perp)
    {quantity totalSupply : ℤ} {isIssue : Bool}
    {progress result : PerpV2LeverageModuleV2.World P × ℤ}
    {positions : List PositionNotionalInfo}
    (hcall : positions.foldlM (PerpV2LeverageModuleV2.replicatePosition perp module quantity
      totalSupply isIssue false) progress = .ok result) :
    Settles perp (if positions = [] then 0
        else -perp.getAllPendingFundingPayment progress.1.protocol)
      progress.1.toPerpAccount result.1.toPerpAccount := by
  induction positions generalizing progress with
  | nil =>
      rw [List.foldlM_nil, pure_eq_ok] at hcall
      subst hcall
      rw [if_pos rfl]
      exact Settles.refl _
  | cons position positions ih =>
      rw [List.foldlM_cons, bind_eq_ok] at hcall
      obtain ⟨middle, hturn, hrest⟩ := hcall
      have hfirst := replicatePosition_settles hperp hturn
      have hlater := ih hrest
      rw [hfirst.pending, add_neg_cancel, neg_zero, ite_self] at hlater
      rw [if_neg (List.cons_ne_nil _ _)]
      have htotal := hfirst.trans hlater (Or.inr rfl)
      rwa [add_zero] at htotal

/-- The hooks settle the pending payment if a listed position is left to trade. -/
theorem executePositionTrades_settles (hperp : SettlesFunding perp) {quantity : ℕ}
    {isIssue : Bool} {unit : ℤ}
    (hcall : executePositionTrades perp module parent quantity isIssue false =
      .ok (next, unit)) :
    Settles perp (if ∃ baseToken ∈ parent.positions,
          PerpV2LeverageModuleV2.ExceedsUnit perp parent baseToken then
        -perp.getAllPendingFundingPayment parent.protocol else 0)
      parent.toPerpAccount next.toPerpAccount := by
  simp only [executePositionTrades, bind_eq_ok, pure_eq_ok, Prod.mk.injEq] at hcall
  obtain ⟨synced, hsynced, _, -, _, -, _, -, _, -, ⟨traded, value⟩, htraded, _, -, rfl,
    -⟩ := hcall
  obtain ⟨hsame, hperm⟩ := PerpV2LeverageModuleV2.syncPositionList_eq_ok hsynced
  have hsettles := replicatePositions_settles hperp htraded
  have hprotocol : synced.toPerpAccount = parent.toPerpAccount := by rw [hsame]; rfl
  have hnone : PerpAccount.getPositionNotionalInfo perp synced.toPerpAccount
      synced.positions = [] ↔ ¬∃ baseToken ∈ parent.positions,
        PerpV2LeverageModuleV2.ExceedsUnit perp parent baseToken := by
    rw [PerpAccount.getPositionNotionalInfo, List.map_eq_nil_iff]
    constructor
    · rintro hempty ⟨baseToken, hmem, hexceeds⟩
      rw [hempty, List.nil_perm, List.filter_eq_nil_iff] at hperm
      exact hperm baseToken hmem (by simpa using hexceeds)
    · intro habsent
      rw [List.filter_eq_nil_iff.mpr fun baseToken hmem => ?_] at hperm
      · exact hperm.eq_nil
      · intro hexceeds
        exact habsent ⟨baseToken, hmem, by simpa using hexceeds⟩
  rw [hprotocol] at hsettles hnone
  by_cases htrades : ∃ baseToken ∈ parent.positions,
      PerpV2LeverageModuleV2.ExceedsUnit perp parent baseToken
  · rw [if_pos htrades]
    rwa [if_neg (fun hempty => hnone.mp hempty htrades)] at hsettles
  · rw [if_neg htrades]
    rwa [if_pos (hnone.mpr htrades)] at hsettles

theorem editCollateralUnit_settles {unit : ℤ} {traded : PerpV2LeverageModuleV2.World P}
    (hsettles : Settles perp payment parent.toPerpAccount traded.toPerpAccount)
    (hcall : editCollateralUnit perp module traded unit = .ok next) :
    Settles perp payment parent.toPerpAccount next.toPerpAccount := by
  simp only [editCollateralUnit, bind_eq_ok, pure_eq_ok] at hcall
  obtain ⟨_, -, rfl⟩ := hcall
  exact settles_withChain hsettles

theorem moduleIssueHook_settles (hperp : SettlesFunding perp) {quantity : ℕ}
    (hcall : PerpV2LeverageModuleV2.moduleIssueHook perp module parent sender quantity =
      .ok next) :
    Settles perp (if replicates perp parent ∧ ∃ baseToken ∈ parent.positions,
          PerpV2LeverageModuleV2.ExceedsUnit perp parent baseToken then
        -perp.getAllPendingFundingPayment parent.protocol else 0)
      parent.toPerpAccount next.toPerpAccount := by
  cases PerpV2LeverageModuleV2.replicated_of_issue hcall with
  | idle hidle =>
      rw [if_neg (fun hboth => hidle hboth.1)]
      exact Settles.refl _
  | traded hreplicates htraded hedited =>
      simp only [hreplicates, true_and]
      exact editCollateralUnit_settles (executePositionTrades_settles hperp htraded) hedited

/-- Both positions of the collateral are set per share. -/
theorem supply_pos_of_updateCollateralPositions {balance : ℕ}
    (hcall : updateCollateralPositions perp module parent balance = .ok next) :
    0 < parent.setToken.totalSupply := by
  rw [Nat.pos_iff_ne_zero]
  intro hzero
  simp only [updateCollateralPositions, PerpV2LeverageModuleV2.updateExternalPositionUnit,
    bind_eq_ok] at hcall
  obtain ⟨⟨setToken, oldUnit, newUnit⟩, hedited, _, -, supply, hsupply, unit, hunit, -⟩ :=
    hcall
  obtain ⟨-, -, hdefault⟩ := Position.calculateAndEditDefaultPosition_eq_ok.mp hedited
  obtain ⟨_, _, _, -, -, rfl, -⟩ := Position.editDefaultPosition_eq_ok hdefault
  obtain ⟨-, rfl⟩ := SafeCast.toInt256_eq_ok.mp hsupply
  change preciseDivInt _ (parent.setToken.totalSupply : ℤ) = .ok unit at hunit
  simp [preciseDivInt, bind_eq_ok, SignedSafeMath.div, hzero] at hunit

end Parent

/-! ## What the module tracks -/

variable {world start next tracked : World P}

theorem updateSettledFunding_eq_ok (hcall : updateSettledFunding perp world = .ok tracked) :
    tracked = { world with
      settledFunding := applyEvent world.settledFunding
        (.settled (-perp.getAllPendingFundingPayment world.protocol)) } ∧
      (world.settledFunding ≤ maxUint256 → tracked.settledFunding ≤ maxUint256) := by
  simp only [updateSettledFunding, getUpdatedSettledFunding, bind_eq_ok, neg_eq_ok,
    pure_eq_ok] at hcall
  obtain ⟨newSettledFunding, ⟨_, ⟨-, rfl⟩, hfunding⟩, rfl⟩ := hcall
  have hvalue : newSettledFunding = applyEvent world.settledFunding
      (.settled (-perp.getAllPendingFundingPayment world.protocol)) ∧
      (world.settledFunding ≤ maxUint256 → newSettledFunding ≤ maxUint256) := by
    rw [applyEvent]
    split at hfunding
    · simp only [bind_eq_ok, SafeCast.toUint256_eq_ok, SafeMath.add_eq_ok] at hfunding
      omega
    · simp only [bind_eq_ok] at hfunding
      obtain ⟨payment, habs, hfunding⟩ := hfunding
      have hpayment := abs_eq_ok habs
      split at hfunding
      · rw [SafeMath.sub_eq_ok] at hfunding
        omega
      · rw [pure_eq_ok] at hfunding
        omega
  exact ⟨by rw [← hvalue.1], hvalue.2⟩

theorem nothingToTrack_iff :
    NothingToTrack perp world ↔ applyEvent world.settledFunding
        (.settled (-perp.getAllPendingFundingPayment world.protocol)) =
      world.settledFunding := by
  rw [NothingToTrack, applyEvent]
  omega

/-- A call is a replay if the tracked funding follows the payment, and the events after
it. -/
theorem replays_iff_of_events {account : PerpAccount P} {later : List FundingEvent}
    (hsettles : Settles perp payment world.toPerpAccount account)
    (hlater : next.fundingEvents = account.fundingEvents ++ later) :
    Replays world next ↔ next.settledFunding =
      replay applyEvent (applyEvent world.settledFunding (.settled payment)) later := by
  obtain ⟨events, hevents, hreplay⟩ := hsettles.events
  rw [hevents, List.append_assoc] at hlater
  constructor
  · rintro ⟨others, hothers, hfunding⟩
    rw [hlater, List.append_cancel_left_eq] at hothers
    rw [hfunding, ← hothers, replay_append, hreplay]
  · intro hfunding
    exact ⟨events ++ later, hlater, by rw [hfunding, replay_append, hreplay]⟩

/-- The call is a replay if it has tracked what it settles. -/
theorem replays_iff_of_settles
    (hsettles : Settles perp payment world.toPerpAccount next.toPerpAccount) :
    Replays world next ↔
      next.settledFunding = applyEvent world.settledFunding (.settled payment) :=
  replays_iff_of_events hsettles (List.append_nil _).symm

/-- The same if the pending payment was tracked before. -/
theorem replays_iff_of_tracked {parent : PerpV2LeverageModuleV2.World P}
    (htracked : updateSettledFunding perp world = .ok tracked)
    (hsettles : Settles perp payment tracked.toPerpAccount parent.toPerpAccount) :
    Replays world (tracked.withParent parent) ↔
      applyEvent world.settledFunding
          (.settled (-perp.getAllPendingFundingPayment world.protocol)) =
        applyEvent world.settledFunding (.settled payment) := by
  obtain ⟨rfl, -⟩ := updateSettledFunding_eq_ok htracked
  exact replays_iff_of_settles hsettles

/-! ## Each call -/

theorem trade_replays_iff (hperp : SettlesFunding perp) {baseToken : Address} {units : ℤ}
    {bound : ℕ} (hcall : trade perp module world sender baseToken units bound = .ok next) :
    Replays world next ↔ NothingToTrack perp world := by
  simp only [trade, bind_eq_ok, pure_eq_ok] at hcall
  obtain ⟨traded, htraded, rfl⟩ := hcall
  have hsettles := trade_settles hperp htraded
  rw [@replays_iff_of_settles P perp _ world (world.withParent traded) hsettles,
    nothingToTrack_iff]
  exact eq_comm

theorem tradeAndTrackFunding_replays (hperp : SettlesFunding perp) {baseToken : Address}
    {units : ℤ} {bound : ℕ}
    (hcall : tradeAndTrackFunding perp module world sender baseToken units bound =
      .ok next) : Replays world next := by
  simp only [tradeAndTrackFunding, trade, bind_eq_ok, pure_eq_ok] at hcall
  obtain ⟨_, -, tracked, htracked, traded, htraded, rfl⟩ := hcall
  have hsettles := trade_settles hperp htraded
  obtain ⟨hsame, -⟩ := updateSettledFunding_eq_ok htracked
  rw [replays_iff_of_tracked htracked hsettles, hsame]

theorem deposit_replays (hperp : SettlesFunding perp) {units : ℕ}
    (hcall : deposit perp module world sender units = .ok next) : Replays world next := by
  simp only [deposit, PerpV2LeverageModuleV2.deposit,
    PerpV2LeverageModuleV2.depositAndUpdatePositions, bind_eq_ok, pure_eq_ok] at hcall
  obtain ⟨_, ⟨_, -, _, -, _, -, _, -, _, -, quantity, -, deposited, hdeposited, hupdated⟩,
    rfl⟩ := hcall
  obtain ⟨chain, rfl⟩ := updateCollateralPositions_eq_ok hupdated
  have hsettles : Settles perp 0 world.toPerpAccount (deposited.withChain chain).toPerpAccount :=
    settles_withChain (depositCollateral_settles_nothing hperp hdeposited)
  rw [@replays_iff_of_settles P perp _ world (world.withParent (deposited.withChain chain))
    hsettles, applyEvent_zero]
  rfl

/-- A quantity per share of at least one share is withdrawn, which settles. -/
theorem withdraw_replays (hperp : SettlesFunding perp) {units : ℕ}
    (hcall : withdraw perp module world sender units = .ok next) : Replays world next := by
  simp only [withdraw, PerpV2LeverageModuleV2.withdrawAndUpdatePositions, bind_eq_ok,
    require_eq_ok, pure_eq_ok] at hcall
  obtain ⟨_, -, _, hunits, tracked, htracked, updated, ⟨quantity, hquantity, withdrawn,
    hwithdrawn, hupdated⟩, rfl⟩ := hcall
  obtain ⟨hsame, -⟩ := updateSettledFunding_eq_ok htracked
  have hsettles := withdrawCollateral_settles hperp hwithdrawn
  have hsupply := supply_pos_of_updateCollateralPositions hupdated
  rw [PerpV2LeverageModuleV2.withdrawCollateral_setToken hwithdrawn] at hsupply
  obtain ⟨-, hquantity⟩ := preciseMulCeil_eq_ok.mp hquantity
  have hpositive : quantity ≠ 0 := by
    intro hzero
    have hbound := (ceilDiv_le_iff_le_smul preciseUnit_pos).mp hquantity.le
    rw [hzero, smul_zero] at hbound
    exact (Nat.mul_pos hunits hsupply).not_ge hbound
  obtain ⟨chain, rfl⟩ := updateCollateralPositions_eq_ok hupdated
  rw [if_neg hpositive] at hsettles
  rw [replays_iff_of_tracked htracked (settles_withChain hsettles), hsame]

/-- Without enough tracked funding nothing is withdrawn, and nothing settles. -/
theorem cappedFunding_eq_ok {settledFunding notionalFunding capped : ℕ}
    (hcall : cappedFunding perp settledFunding notionalFunding = .ok capped) :
    0 < decimalScale perp.collateralDecimals ∧
      capped * decimalScale perp.collateralDecimals ≤ settledFunding ∧
      (0 < notionalFunding →
        (capped = 0 ↔ settledFunding < decimalScale perp.collateralDecimals)) := by
  simp only [cappedFunding, bind_eq_ok, fromPreciseUnitToDecimals_eq_ok, pure_eq_ok] at hcall
  obtain ⟨_, ⟨hscale, rfl⟩, hcapped⟩ := hcall
  have hle := Nat.div_mul_le_self settledFunding (decimalScale perp.collateralDecimals)
  have hzero : settledFunding / decimalScale perp.collateralDecimals = 0 ↔
      settledFunding < decimalScale perp.collateralDecimals := Nat.div_eq_zero_iff_lt hscale
  refine ⟨hscale, ?_, fun hpositive => ?_⟩
  · split at hcapped
    · rwa [← hcapped]
    · rw [← hcapped]
      exact (Nat.mul_le_mul_right _ (by omega)).trans hle
  · split at hcapped
    · rw [← hcapped, hzero]
    · omega

/-- Collecting funding leaves what is tracked alone, and settles if anything is
withdrawn. -/
theorem collectFunding_eq_ok (hperp : SettlesFunding perp) {quantity : ℕ}
    (hcall : collectFunding perp module world quantity = .ok next) :
    next.settledFunding = world.settledFunding ∧
      Settles perp (if quantity = 0 then 0
        else -perp.getAllPendingFundingPayment world.protocol) world.toPerpAccount
        next.toPerpAccount := by
  simp only [collectFunding, bind_eq_ok, pure_eq_ok] at hcall
  obtain ⟨withdrawn, hwithdrawn, charged, hcharged, updated, hupdated, rfl⟩ := hcall
  obtain ⟨chain, rfl⟩ := updateCollateralPositions_eq_ok hupdated
  have hsettles := withdrawCollateral_settles hperp hwithdrawn
  have hfees : ∃ charges, charged = (world.withParent withdrawn).withChain charges := by
    simp only [handleFees] at hcharged
    split at hcharged
    · simp only [bind_eq_ok, pure_eq_ok] at hcharged
      obtain ⟨_, -, _, -, _, -, _, -, charges, -, rfl⟩ := hcharged
      exact ⟨charges, rfl⟩
    · rw [pure_eq_ok] at hcharged
      exact ⟨withdrawn.toChain, hcharged ▸ rfl⟩
  obtain ⟨charges, rfl⟩ := hfees
  exact ⟨rfl, settles_withChain (settles_withChain hsettles)⟩

/-- The final subtraction takes out no more than is tracked. -/
theorem subtractFunding_returns (hperp : SettlesFunding perp) {collected : World P}
    {notionalFunding capped : ℕ} (hbound : tracked.settledFunding ≤ maxUint256)
    (hcapped : cappedFunding perp tracked.settledFunding notionalFunding = .ok capped)
    (hcollected : collectFunding perp module tracked capped = .ok collected) :
    ∃ next, subtractFunding perp collected capped = .ok next := by
  obtain ⟨-, hle, -⟩ := cappedFunding_eq_ok hcapped
  obtain ⟨hsame, -⟩ := collectFunding_eq_ok hperp hcollected
  rw [← hsame] at hle
  have hscaled : toPreciseUnitsFromDecimals capped perp.collateralDecimals =
      .ok (capped * decimalScale perp.collateralDecimals) :=
    toPreciseUnitsFromDecimals_eq_ok.mpr ⟨hle.trans (hsame ▸ hbound), rfl⟩
  simp only [subtractFunding, hscaled, ok_bind, SafeMath.sub_eq_ok.mpr ⟨hle, rfl⟩]
  exact ⟨_, rfl⟩

theorem withdrawFundingAndAccrueFees_replays_iff (hperp : SettlesFunding perp)
    {notionalFunding : ℕ}
    (hcall : withdrawFundingAndAccrueFees perp module world sender notionalFunding =
      .ok next) :
    Replays world next ↔
      TracksWhatSettles perp (.withdrawFundingAndAccrueFees sender notionalFunding)
        world := by
  simp only [withdrawFundingAndAccrueFees, bind_eq_ok] at hcall
  obtain ⟨_, -, hcall⟩ := hcall
  simp only [TracksWhatSettles]
  split at hcall
  · rename_i hzero
    rw [pure_eq_ok] at hcall
    subst hcall
    have hsettles := @replays_iff_of_settles P perp 0 world world (Settles.refl _)
    rw [applyEvent_zero] at hsettles
    simp [hsettles, hzero]
  · rename_i hpositive
    simp only [subtractFunding, bind_eq_ok, toPreciseUnitsFromDecimals_eq_ok,
      SafeMath.sub_eq_ok, pure_eq_ok] at hcall
    obtain ⟨tracked, htracked, capped, hcapped, collected, hcollected, _, ⟨-, rfl⟩, _,
      ⟨-, rfl⟩, rfl⟩ := hcall
    obtain ⟨hscale, -, hnone⟩ := cappedFunding_eq_ok hcapped
    replace hnone := hnone (Nat.pos_of_ne_zero hpositive)
    obtain ⟨hsame, hsettles⟩ := collectFunding_eq_ok hperp hcollected
    obtain ⟨hworld, -⟩ := updateSettledFunding_eq_ok htracked
    have hfunding : tracked.settledFunding = applyEvent world.settledFunding
        (.settled (-perp.getAllPendingFundingPayment world.protocol)) := by rw [hworld]
    have haccount : tracked.toPerpAccount = world.toPerpAccount := by rw [hworld]
    rw [haccount] at hsettles
    rw [replays_iff_of_events hsettles rfl, replay_singleton, hsame, hfunding]
    rw [hfunding, applyEvent] at hnone
    by_cases hcollects : capped = 0
    · have hless := hnone.mp hcollects
      rw [if_pos hcollects, hcollects, Nat.zero_mul, applyEvent_zero]
      simp only [nothingToTrack_iff, applyEvent, Nat.sub_zero]
      constructor
      · exact fun hnothing => Or.inr (Or.inl hnothing)
      · rintro (hzero | hnothing | henough)
        · exact absurd hzero hpositive
        · exact hnothing
        · omega
    · have hless := mt hnone.mpr hcollects
      rw [if_neg hcollects]
      exact iff_of_true rfl (Or.inr (Or.inr (by omega)))

/-- Tracking is a replay if either the positions settle as well, or nothing changes. -/
theorem replays_iff_of_trades {parent : PerpV2LeverageModuleV2.World P} {trades : Prop}
    [Decidable trades] (htracked : updateSettledFunding perp world = .ok tracked)
    (hsettles : Settles perp (if trades then
        -perp.getAllPendingFundingPayment tracked.protocol else 0)
      tracked.toPerpAccount parent.toPerpAccount) :
    Replays world (tracked.withParent parent) ↔ NothingToTrack perp world ∨ trades := by
  obtain ⟨hworld, -⟩ := updateSettledFunding_eq_ok htracked
  rw [replays_iff_of_tracked htracked hsettles, nothingToTrack_iff]
  by_cases htrades : trades
  · rw [if_pos htrades, hworld]
    exact iff_of_true rfl (Or.inr htrades)
  · rw [if_neg htrades, applyEvent_zero, or_iff_left htrades]

theorem moduleIssueHook_replays_iff (hperp : SettlesFunding perp) {quantity : ℕ}
    (hcall : moduleIssueHook perp module world sender quantity = .ok next) :
    Replays world next ↔ TracksWhatSettles perp (.moduleIssueHook sender quantity) world := by
  simp only [moduleIssueHook, bind_eq_ok, pure_eq_ok] at hcall
  obtain ⟨_, -, tracked, htracked, hooked, hhooked, rfl⟩ := hcall
  obtain ⟨hworld, -⟩ := updateSettledFunding_eq_ok htracked
  have hparent : tracked.toWorld = world.toWorld := by rw [hworld]
  have hsettles := moduleIssueHook_settles hperp hhooked
  rw [replays_iff_of_trades htracked hsettles, hparent]
  exact Iff.rfl

theorem moduleRedeemHook_replays_iff (hperp : SettlesFunding perp) {quantity : ℕ}
    (hcall : moduleRedeemHook perp module world sender quantity = .ok next) :
    Replays world next ↔
      TracksWhatSettles perp (.moduleRedeemHook sender quantity) world := by
  simp only [moduleRedeemHook, bind_eq_ok] at hcall
  obtain ⟨_, -, hcall⟩ := hcall
  simp only [TracksWhatSettles]
  split at hcall
  · rename_i hreplicates
    simp only [bind_eq_ok, pure_eq_ok] at hcall
    obtain ⟨tracked, htracked, ⟨traded, unit⟩, htraded, netFees, -, edited, hedited,
      rfl⟩ := hcall
    obtain ⟨hworld, -⟩ := updateSettledFunding_eq_ok htracked
    have hparent : tracked.toWorld = world.toWorld := by rw [hworld]
    have hsettles := editCollateralUnit_settles
      (executePositionTrades_settles hperp htraded) hedited
    rw [replays_iff_of_trades htracked hsettles, hparent]
    simp only [hreplicates, not_true_eq_false, false_or]
    exact Iff.rfl
  · rename_i hnone
    rw [pure_eq_ok] at hcall
    subst hcall
    have hsettles := @replays_iff_of_settles P perp 0 world world (Settles.refl _)
    rw [applyEvent_zero] at hsettles
    exact iff_of_true (hsettles.mpr rfl) (Or.inr (Or.inl hnone))

theorem perform_replays_iff (hperp : SettlesFunding perp) {call : FundingCall P}
    (hcall : performFunding perp module call world = .ok next) :
    Replays world next ↔ TracksWhatSettles perp call world := by
  cases call with
  | trade sender baseToken units bound => exact trade_replays_iff hperp hcall
  | tradeAndTrackFunding sender baseToken units bound =>
      exact iff_of_true (tradeAndTrackFunding_replays hperp hcall) trivial
  | deposit sender units => exact iff_of_true (deposit_replays hperp hcall) trivial
  | withdraw sender units => exact iff_of_true (withdraw_replays hperp hcall) trivial
  | withdrawFundingAndAccrueFees sender notionalFunding =>
      exact withdrawFundingAndAccrueFees_replays_iff hperp hcall
  | moduleIssueHook sender quantity => exact moduleIssueHook_replays_iff hperp hcall
  | moduleRedeemHook sender quantity => exact moduleRedeemHook_replays_iff hperp hcall
  | outside chain protocol =>
      simp only [performFunding, Except.ok.injEq] at hcall
      subst hcall
      exact iff_of_true ⟨[], (List.append_nil _).symm, rfl⟩ trivial

/-- No call makes more of the tracked funding than a machine word holds. -/
theorem perform_bounded (hperp : SettlesFunding perp) {call : FundingCall P}
    (hcall : performFunding perp module call world = .ok next)
    (hbound : world.settledFunding ≤ maxUint256) : next.settledFunding ≤ maxUint256 := by
  cases call with
  | trade sender baseToken units bound =>
      simp only [performFunding, trade, bind_eq_ok, pure_eq_ok] at hcall
      obtain ⟨traded, -, rfl⟩ := hcall
      exact hbound
  | tradeAndTrackFunding sender baseToken units bound =>
      simp only [performFunding, tradeAndTrackFunding, trade, bind_eq_ok,
        pure_eq_ok] at hcall
      obtain ⟨_, -, tracked, htracked, traded, -, rfl⟩ := hcall
      exact (updateSettledFunding_eq_ok htracked).2 hbound
  | deposit sender units =>
      simp only [performFunding, deposit, bind_eq_ok, pure_eq_ok] at hcall
      obtain ⟨deposited, -, rfl⟩ := hcall
      exact hbound
  | withdraw sender units =>
      simp only [performFunding, withdraw, bind_eq_ok, pure_eq_ok] at hcall
      obtain ⟨_, -, _, -, tracked, htracked, withdrawn, -, rfl⟩ := hcall
      exact (updateSettledFunding_eq_ok htracked).2 hbound
  | withdrawFundingAndAccrueFees sender notionalFunding =>
      simp only [performFunding, withdrawFundingAndAccrueFees, bind_eq_ok] at hcall
      obtain ⟨_, -, hcall⟩ := hcall
      split at hcall
      · rw [pure_eq_ok] at hcall
        exact hcall ▸ hbound
      · simp only [subtractFunding, bind_eq_ok, SafeMath.sub_eq_ok, pure_eq_ok] at hcall
        obtain ⟨tracked, htracked, _, -, collected, hcollected, _, -, _, ⟨-, rfl⟩, rfl⟩ :=
          hcall
        obtain ⟨hsame, -⟩ := collectFunding_eq_ok hperp hcollected
        exact (Nat.sub_le _ _).trans
          (hsame ▸ (updateSettledFunding_eq_ok htracked).2 hbound)
  | moduleIssueHook sender quantity =>
      simp only [performFunding, moduleIssueHook, bind_eq_ok, pure_eq_ok] at hcall
      obtain ⟨_, -, tracked, htracked, hooked, -, rfl⟩ := hcall
      exact (updateSettledFunding_eq_ok htracked).2 hbound
  | moduleRedeemHook sender quantity =>
      simp only [performFunding, moduleRedeemHook, bind_eq_ok] at hcall
      obtain ⟨_, -, hcall⟩ := hcall
      split at hcall
      · simp only [bind_eq_ok, pure_eq_ok] at hcall
        obtain ⟨tracked, htracked, _, -, _, -, _, -, rfl⟩ := hcall
        exact (updateSettledFunding_eq_ok htracked).2 hbound
      · rw [pure_eq_ok] at hcall
        exact hcall ▸ hbound
  | outside chain protocol =>
      simp only [performFunding, Except.ok.injEq] at hcall
      exact hcall ▸ hbound

/-! ## Whole runs -/

/-- Whatever is withdrawn as funding, the last step of the withdrawal does not revert. -/
def SubtractsTracked (perp : Perp P) (module : Address) (world : World P) : Prop :=
  ∀ notionalFunding tracked capped collected,
    updateSettledFunding perp world = .ok tracked →
    cappedFunding perp tracked.settledFunding notionalFunding = .ok capped →
    collectFunding perp module tracked capped = .ok collected →
    ∃ next, subtractFunding perp collected capped = .ok next

/-- The tracked funding is what the funding events come to, call by call and from the
start, and can always be withdrawn. -/
structure FundingTracked (perp : Perp P) (module : Address) (calls : List (FundingCall P))
    (start : World P) : Prop where
  eachCall : ∀ earlier call, earlier ++ [call] <+: calls →
    Replays (run (performFunding perp module) earlier start)
      (run (performFunding perp module) (earlier ++ [call]) start)
  fromStart : ∀ earlier, earlier <+: calls →
    Replays start (run (performFunding perp module) earlier start)
  subtraction : ∀ earlier, earlier <+: calls →
    SubtractsTracked perp module (run (performFunding perp module) earlier start)

theorem Replays.refl (world : World P) : Replays world world :=
  ⟨[], (List.append_nil _).symm, rfl⟩

theorem Replays.trans {middle : World P} (hfirst : Replays start middle)
    (hsecond : Replays middle next) : Replays start next := by
  obtain ⟨earlier, hearlier, hmiddle⟩ := hfirst
  obtain ⟨later, hlater, hnext⟩ := hsecond
  refine ⟨earlier ++ later, ?_, ?_⟩
  · rw [hlater, hearlier, List.append_assoc]
  · rw [hnext, hmiddle, replay_append]

/-- A Perp without positions: collateral, profits and a pending payment. -/
structure Vault where
  collateral : ℤ
  owed : ℤ
  pending : ℤ
  deriving DecidableEq

/-- Settling moves the pending payment into the profits. -/
def Vault.settleFunding (vault : Vault) : Vault :=
  { vault with owed := vault.owed - vault.pending, pending := 0 }

def vaultPerp : Perp Vault where
  collateralToken := 10
  collateralDecimals := 6
  perpVault := 20
  getBase _ _ := 0
  getQuote _ _ := 0
  owedRealizedPnl := Vault.owed
  getAllPendingFundingPayment := Vault.pending
  getBalance := Vault.collateral
  hasPool _ _ := true
  deposit amount vault := .ok { vault with collateral := vault.collateral + amount }
  withdraw amount vault := .ok
    { vault.settleFunding with collateral := vault.collateral - amount }
  openPosition params vault := .ok (vault.settleFunding, params.amount, params.amount)
  swap params _ := .ok (params.amount, params.amount)

theorem settlesFunding_vaultPerp : SettlesFunding vaultPerp where
  trade params protocol result hcall := by
    simp only [vaultPerp, Except.ok.injEq] at hcall
    subst hcall
    rfl
  withdraw quantity protocol next _ hcall := by
    simp only [vaultPerp, Except.ok.injEq] at hcall
    subst hcall
    rfl
  deposit quantity protocol next hcall := by
    simp only [vaultPerp, Except.ok.injEq] at hcall
    subst hcall
    rfl

/-- Ten shares with hundred dollars in the vault, and half of a millionth to come. -/
def accruingWorld : World Vault where
  controller := { Controller.deploy 1 2 with
    isSet := fun setToken => setToken == 9
    isModule := fun module => module == 5 }
  setTokenAddress := 9
  setToken := { SetToken.deploy [10] [1000000] [5] 7 with
    modules := [5]
    moduleStates := fun module => if module = 5 then .INITIALIZED else .NONE
    totalSupply := 10000000000000000000 }
  balances := fun token holder =>
    if token = 10 ∧ (holder = 9 ∨ holder = 20) then 100000000 else 0
  timestamp := 1
  protocol := ⟨100000000, 0, -500000000000⟩
  fundingEvents := []
  positions := []
  maxPerpPositionsPerSet := 2
  feeSettings := ⟨8, 100000000000000000, 100000000000000000⟩
  settledFunding := 0

def withdrawOneTwice : List (FundingCall Vault) :=
  [.withdrawFundingAndAccrueFees 7 1, .withdrawFundingAndAccrueFees 7 1]

end SetProtocol.PerpV2BasisTradingModule
