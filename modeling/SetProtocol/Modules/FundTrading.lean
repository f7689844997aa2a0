import SetProtocol.Core.PositionCredit
import SetProtocol.Modules.FeeBearingIssuance
import SetProtocol.Modules.TradeModule

/-!
# Trading a fund

The SetToken of a streaming fee is also traded by its manager.  A trade recomputes the
positions of both tokens from what is held, so that whatever the exchange did, neither is
short afterwards.  Hence a history of issuance, fees and trades leaves every component short
by no more than the fees alone would.
-/

namespace SetProtocol.FundTrading

open Transaction PreciseUnitMath
open BasicIssuanceModule (PreIssueHooks HooksKeep surplus)
open TradeModule (Exchanges TradeInfo)

variable {E P : Type}

/-! ## Recomputed positions -/

variable {outlays next : Outlays P} {module component : Address} {previousBalance : ℕ}

/-- What recomputing one position does to the chain. -/
structure Recomputed (component : Address) (chain after : Chain) : Prop where
  setTokenAddress : after.setTokenAddress = chain.setTokenAddress
  balances : after.balances = chain.balances
  totalSupply : after.setToken.totalSupply = chain.setToken.totalSupply
  bookkept : Bookkept after.setToken
  covered : 0 ≤ surplus after component
  others : ∀ other, other ≠ component → surplus after other = surplus chain other
  units : ∀ other, other ≠ component →
    after.setToken.defaultRealUnit other = chain.setToken.defaultRealUnit other

theorem recomputed_of_update {result : Outlays P × ℕ} (hkept : Bookkept outlays.setToken)
    (hcall : outlays.updateDefaultPosition module component outlays.setToken.totalSupply
      previousBalance = .ok result) : Recomputed component outlays.toChain result.1.toChain := by
  simp only [Outlays.updateDefaultPosition, bind_eq_ok, pure_eq_ok] at hcall
  obtain ⟨⟨setToken, oldUnit, newUnit⟩, hrecomputed, rfl⟩ := hcall
  obtain ⟨-, -, hedit⟩ := Position.calculateAndEditDefaultPosition_eq_ok.mp hrecomputed
  obtain ⟨-, -, hothers⟩ := Position.defaultRealUnit_of_edit hkept.multiplier_pos hedit
  have hsupply := Position.totalSupply_of_edit hedit
  refine ⟨rfl, rfl, hsupply, hkept.editDefaultPosition hedit, ?_, fun other hother => ?_,
    hothers⟩
  · have howed := Position.covered_of_recomputed hkept.multiplier_pos hrecomputed
    change 0 ≤ (outlays.heldBalance component * preciseUnit -
      setToken.totalSupply * setToken.defaultRealUnit component : ℤ)
    rw [hsupply]
    zify at howed
    linarith
  · change (outlays.heldBalance other * preciseUnit -
      setToken.totalSupply * setToken.defaultRealUnit other : ℤ) = _
    rw [hsupply, hothers other hother]
    rfl

/-- Unless nothing is left, the position was tracked before. -/
theorem tracked_of_update {result : Outlays P × ℕ}
    (hcall : outlays.updateDefaultPosition module component outlays.setToken.totalSupply
      previousBalance = .ok result) :
    outlays.setToken.totalSupply * outlays.setToken.defaultRealUnit component / preciseUnit ≤
        previousBalance ∨ outlays.heldBalance component = 0 := by
  simp only [Outlays.updateDefaultPosition, bind_eq_ok, pure_eq_ok] at hcall
  obtain ⟨⟨setToken, oldUnit, newUnit⟩, hrecomputed, rfl⟩ := hcall
  obtain ⟨⟨unit, hunit, hcast⟩, hnew, -⟩ :=
    Position.calculateAndEditDefaultPosition_eq_ok.mp hrecomputed
  rw [SetToken.defaultRealUnit_of_ok hunit hcast, Nat.mul_comm]
  split at hnew
  · obtain ⟨-, htracked, -⟩ := Position.calculateDefaultEditPositionUnit_eq_ok.mp hnew
    exact Or.inl htracked
  · next hnone => exact Or.inr (Nat.eq_zero_of_not_pos hnone)

/-! ## One trade -/

/-- What a swap may do: it leaves the SetToken and its other balances alone, and moves no
tokens out of thin air.  What it takes and gives in the traded tokens is up to it. -/
structure Swapped (sendToken : Address) (before after : Surroundings P) : Prop where
  setTokenAddress : after.setTokenAddress = before.setTokenAddress
  setToken : after.setToken = before.setToken
  conserves : Chain.Conserves before.toChain after.toChain
  others : ∀ token, token ≠ sendToken → before.heldBalance token ≤ after.heldBalance token

/-- The exchanges that adapters call only swap. -/
def SwapsOnly (exchanges : Exchanges P) : Prop :=
  ∀ adapter sendToken receiveToken setToken quantity minimum data protocols invocation before
    after,
    exchanges.getTradeCalldata adapter sendToken receiveToken setToken quantity minimum data
      protocols = .ok invocation →
    exchanges.execute invocation before = .ok after → Swapped sendToken before after

variable {exchanges : Exchanges P} {sender sendToken receiveToken : Address}
variable {exchangeName : String} {sendQuantity minReceiveQuantity : ℕ} {data : Bytes}

/-- A token that was tracked before the trade, unless none of it is left. -/
def TrackedOrGone (chain after : Chain) (token : Address) : Prop :=
  chain.setToken.totalSupply * chain.setToken.defaultRealUnit token / preciseUnit ≤
    chain.heldBalance token ∨ after.heldBalance token = 0

/-- What a trade leaves behind. -/
structure Traded (sendToken receiveToken : Address) (chain after : Chain) : Prop where
  setTokenAddress : after.setTokenAddress = chain.setTokenAddress
  bookkept : Bookkept after.setToken
  supplied : chain.Supplied → after.Supplied
  sent : 0 ≤ surplus after sendToken
  received : 0 ≤ surplus after receiveToken
  others : ∀ token, token ≠ sendToken → token ≠ receiveToken →
    surplus chain token ≤ surplus after token
  sent_tracked : TrackedOrGone chain after sendToken
  received_tracked : receiveToken ≠ sendToken → TrackedOrGone chain after receiveToken

theorem surplus_mono {chain after : Chain} {token : Address}
    (hsetToken : after.setToken = chain.setToken)
    (hheld : chain.heldBalance token ≤ after.heldBalance token) :
    surplus chain token ≤ surplus after token := by
  have hscaled := Nat.mul_le_mul_right preciseUnit hheld
  unfold surplus
  rw [hsetToken]
  zify at hscaled
  linarith

theorem traded_of_ok (hswaps : SwapsOnly exchanges) (hkept : Bookkept outlays.setToken)
    (hcall : TradeModule.trade exchanges module outlays sender exchangeName sendToken
      sendQuantity receiveToken minReceiveQuantity data = .ok next) :
    Traded sendToken receiveToken outlays.toChain next.toChain := by
  simp only [TradeModule.trade, bind_eq_ok] at hcall
  obtain ⟨_, -, tradeInfo, hinfo, _, -, traded, htraded, exchangedQuantity, -, charged,
    hcharged, hupdated⟩ := hcall
  have hterms : tradeInfo.sendToken = sendToken ∧ tradeInfo.receiveToken = receiveToken ∧
      tradeInfo.setTotalSupply = outlays.setToken.totalSupply ∧
      tradeInfo.preTradeSendTokenBalance = outlays.heldBalance sendToken ∧
      tradeInfo.preTradeReceiveTokenBalance = outlays.heldBalance receiveToken := by
    simp only [TradeModule.createTradeInfo, bind_eq_ok, pure_eq_ok] at hinfo
    obtain ⟨_, -, _, -, _, -, rfl⟩ := hinfo
    exact ⟨rfl, rfl, rfl, rfl, rfl⟩
  obtain ⟨hsend, hreceive, hsupply, hpreSend, hpreReceive⟩ := hterms
  -- the exchange
  have hswapped : Swapped sendToken outlays.toSurroundings traded.toSurroundings := by
    simp only [TradeModule.executeTrade, Surroundings.invokeApprove, Surroundings.invoke,
      bind_eq_ok, pure_eq_ok] at htraded
    obtain ⟨approved, ⟨_, -, rfl⟩, invocation, hcalldata, swapped, ⟨_, -, _, -, hexecute⟩,
      rfl⟩ := htraded
    rw [hsend, hreceive] at hcalldata
    have hswap := hswaps _ _ _ _ _ _ _ _ _ _ _ hcalldata hexecute
    exact ⟨hswap.setTokenAddress, hswap.setToken, hswap.conserves, hswap.others⟩
  -- the protocol fee, in the token received
  obtain ⟨hchargedAddress, hchargedToken, hconserves, hothers⟩ :
      charged.setTokenAddress = traded.setTokenAddress ∧
        charged.setToken = traded.setToken ∧
        Chain.Conserves traded.toChain charged.toChain ∧
        ∀ token, token ≠ receiveToken →
          charged.heldBalance token = traded.heldBalance token := by
    simp only [TradeModule.accrueProtocolFee, bind_eq_ok, pure_eq_ok,
      Chain.payProtocolFeeFromSetToken_eq] at hcharged
    obtain ⟨fee, -, chain, hpaid, rfl⟩ := hcharged
    rw [hreceive] at hpaid
    obtain ⟨-, -, hothers⟩ := Chain.heldBalance_of_strictInvokeTransfer hpaid
    have hconserves := Chain.conserves_strictInvokeTransfer hpaid
    obtain ⟨_, rfl⟩ := Chain.strictInvokeTransfer_frame hpaid
    exact ⟨rfl, rfl, hconserves, hothers⟩
  have hsame : charged.setToken = outlays.setToken := hchargedToken.trans hswapped.setToken
  -- the two positions
  simp only [TradeModule.updateSetTokenPositions, bind_eq_ok, pure_eq_ok] at hupdated
  obtain ⟨⟨sent, sentBalance⟩, hsent, ⟨received, receivedBalance⟩, hreceived, _, -, _, -,
    rfl⟩ := hupdated
  rw [hsend, hsupply, ← hsame, hpreSend] at hsent
  have hchargedKept : Bookkept charged.setToken := hsame ▸ hkept
  have hfirst := recomputed_of_update hchargedKept hsent
  have hsentSupply : outlays.setToken.totalSupply = sent.setToken.totalSupply := by
    rw [hfirst.totalSupply, hsame]
  rw [hreceive, hsupply, hsentSupply, hpreReceive] at hreceived
  have hsecond := recomputed_of_update hfirst.bookkept hreceived
  have haddress : received.setTokenAddress = charged.setTokenAddress :=
    hsecond.setTokenAddress.trans hfirst.setTokenAddress
  have hheld : ∀ token, received.heldBalance token = charged.heldBalance token := by
    intro token
    rw [Chain.heldBalance, haddress, hsecond.balances, hfirst.balances]
    rfl
  refine ⟨?_, hsecond.bookkept, fun hsupplied => ?_, ?_, hsecond.covered,
    fun token hsendOther hreceiveOther => ?_, ?_, fun hother => ?_⟩
  · rw [haddress, hchargedAddress, hswapped.setTokenAddress]
  · have hcharge : charged.Supplied :=
      hsupplied.of_conserves (hswapped.conserves.trans hconserves)
        (hchargedAddress.trans hswapped.setTokenAddress) (by rw [hsame])
    unfold Chain.Supplied at hcharge ⊢
    rw [haddress, hsecond.balances, hfirst.balances, hsecond.totalSupply, hfirst.totalSupply]
    exact hcharge
  · by_cases heq : sendToken = receiveToken
    · exact heq ▸ hsecond.covered
    · rw [hsecond.others sendToken heq]
      exact hfirst.covered
  · rw [hsecond.others token hreceiveOther, hfirst.others token hsendOther]
    refine surplus_mono hsame ?_
    rw [hothers token hreceiveOther]
    exact hswapped.others token hsendOther
  · have htracked := tracked_of_update hsent
    rw [hsame, ← hheld] at htracked
    exact htracked
  · have htracked := tracked_of_update hreceived
    rw [hfirst.units receiveToken hother, hfirst.totalSupply, hsame] at htracked
    refine htracked.imp id fun hnone => ?_
    rw [Chain.heldBalance, hsecond.balances, hsecond.setTokenAddress]
    exact hnone

/-- Whatever the exchange does, a trade that goes through leaves both tokens covered.  It
only goes through if each of them was covered up to a rounding before, or if none of it is
left: a position that is short can be sold off but not traded. -/
theorem trade_covers (hswaps : SwapsOnly exchanges) (hkept : Bookkept outlays.setToken)
    (hcall : TradeModule.trade exchanges module outlays sender exchangeName sendToken
      sendQuantity receiveToken minReceiveQuantity data = .ok next) :
    Bookkept next.setToken ∧ ∀ token, token = sendToken ∨ token = receiveToken →
      next.setToken.totalSupply * next.setToken.defaultRealUnit token ≤
          next.heldBalance token * preciseUnit ∧
        TrackedOrGone outlays.toChain next.toChain token := by
  have htraded := traded_of_ok hswaps hkept hcall
  have hcovered : ∀ token, 0 ≤ surplus next.toChain token →
      next.setToken.totalSupply * next.setToken.defaultRealUnit token ≤
        next.heldBalance token * preciseUnit := by
    intro token hsurplus
    unfold surplus at hsurplus
    zify
    linarith
  refine ⟨htraded.bookkept, ?_⟩
  rintro token (rfl | rfl)
  · exact ⟨hcovered _ htraded.sent, htraded.sent_tracked⟩
  · refine ⟨hcovered _ htraded.received, ?_⟩
    by_cases heq : token = sendToken
    · exact heq ▸ htraded.sent_tracked
    · exact htraded.received_tracked heq

/-- The exchange at account 20 takes what it may of token 10, and pays as much of token 11. -/
def bartering : Exchanges Unit where
  registry := fun _ _ => 21
  weth := 30
  execute := fun _ surroundings => do
    let quantity := surroundings.allowances 10 20
    let taken ← surroundings.moveTokens 10 surroundings.setTokenAddress 20 quantity
    let paid ← taken.transferFrom 11 20 surroundings.setTokenAddress quantity
    pure (surroundings.withChain paid)
  getSpender := fun _ => 20
  getTradeCalldata := fun _ fromToken _ _ _ _ _ _ => do
    require (fromToken = 10) "UniswapV2Library: INVALID_PATH"
    pure ⟨20, 0, []⟩

theorem swapsOnly_bartering : SwapsOnly bartering := by
  intro _ sendToken _ _ _ _ _ _ _ before after hcalldata hexecute
  simp only [bartering, bind_eq_ok, require_eq_ok, pure_eq_ok] at hcalldata hexecute
  obtain ⟨_, hsend, -⟩ := hcalldata
  obtain ⟨taken, htaken, paid, hpaid, rfl⟩ := hexecute
  have hconserves := (Chain.conserves_moveTokens htaken).trans
    (Chain.conserves_transferFrom hpaid)
  obtain ⟨-, rfl⟩ := Chain.moveTokens_eq_ok.mp htaken
  obtain ⟨hreceived, hothers⟩ := Chain.heldBalance_of_transferFrom hpaid
  obtain ⟨_, rfl⟩ := Chain.transferFrom_frame hpaid
  refine ⟨rfl, rfl, hconserves, fun token htoken => ?_⟩
  rw [hsend] at htoken
  rw [← @Chain.heldBalance_withLedger_of_ne before.toChain _ _ _ htoken]
  by_cases heq : token = 11
  · subst heq
    exact (Nat.le_add_right _ _).trans_eq hreceived.symm
  · exact (hothers token heq).ge

/-- Two shares are out, and the SetToken holds two of token 10. -/
def barterWorld : Outlays Unit where
  controller := { Controller.deploy 1 2 with
    isSet := fun setToken => setToken == 9
    isModule := fun module => module == 5 || module == 6 || module == 8 }
  setTokenAddress := 9
  setToken := { SetToken.deploy [10] [10 ^ 18] [5, 6, 8] 7 with
    moduleStates := fun module =>
      if module = 5 ∨ module = 6 ∨ module = 8 then .INITIALIZED else .NONE
    totalSupply := 2 * 10 ^ 18 }
  balances := fun token holder =>
    if token = 9 then (if holder = 3 then 2 * 10 ^ 18 else 0)
    else if token = 10 then (if holder = 9 then 2 * 10 ^ 18 else 10 ^ 21)
    else if token = 11 ∧ holder = 20 then 10 ^ 21 else 0
  timestamp := 0
  protocols := ()
  ether := fun _ => 0
  allowances := fun _ _ => 0
  spends := []

theorem bookkept_barterWorld : Bookkept barterWorld.setToken := by
  have hdeployed : Bookkept (SetToken.deploy [10] [10 ^ 18] [5, 6, 8] 7) :=
    SetTokenCreator.bookkept_deploy (by decide) (by decide) (by decide)
  exact hdeployed.of_same_positions rfl rfl rfl

theorem trade_covers_barter :
    ∃ next, TradeModule.trade bartering 8 barterWorld 7 "barter" 10 (10 ^ 17) 11 0 [] =
        .ok next ∧
      Bookkept next.setToken ∧ ∀ token, token = 10 ∨ token = 11 →
        next.setToken.totalSupply * next.setToken.defaultRealUnit token ≤
            next.heldBalance token * preciseUnit ∧
          TrackedOrGone barterWorld.toChain next.toChain token := by
  obtain ⟨next, hcall, -⟩ := returns_iff.mp (by decide +kernel :
    Returns (TradeModule.trade bartering 8 barterWorld 7 "barter" 10 (10 ^ 17) 11 0 [])
      (fun next => next.heldBalance 11 = 2 * 10 ^ 17))
  exact ⟨next, hcall, trade_covers swapsOnly_bartering bookkept_barterWorld hcall⟩

/-! ## Histories -/

/-- What the calls of all three modules read and write. -/
structure World (E P : Type) extends Outlays P where
  managerIssuanceHook : Address
  environment : E
  feeState : StreamingFeeModule.FeeState

def World.fund (world : World E P) : FeeBearingIssuance.World E where
  toChain := world.toChain
  managerIssuanceHook := world.managerIssuanceHook
  environment := world.environment
  feeState := world.feeState

def World.withFund (world : World E P) (fund : FeeBearingIssuance.World E) : World E P where
  toOutlays := world.toOutlays.withChain fund.toChain
  managerIssuanceHook := fund.managerIssuanceHook
  environment := fund.environment
  feeState := fund.feeState

inductive Call
  | fund (call : FeeBearingIssuance.Call)
  | trade (sender : Address) (exchangeName : String) (sendToken : Address)
      (sendQuantity : ℕ) (receiveToken : Address) (minReceiveQuantity : ℕ) (data : Bytes)

/-- The addresses of the modules. -/
structure Modules where
  issuance : Address
  fee : Address
  trade : Address

def perform (hooks : PreIssueHooks E) (exchanges : Exchanges P) (modules : Modules) :
    Call → World E P → Outcome (World E P)
  | .fund call => fun world => do
      let fund ← FeeBearingIssuance.perform hooks modules.issuance modules.fee call world.fund
      pure (world.withFund fund)
  | .trade sender exchangeName sendToken sendQuantity receiveToken minReceiveQuantity data =>
      fun world => do
        let outlays ← TradeModule.trade exchanges modules.trade world.toOutlays sender
          exchangeName sendToken sendQuantity receiveToken minReceiveQuantity data
        pure { world with toOutlays := outlays }

def FromOutside (setToken : Address) : Call → Prop
  | .fund call => FeeBearingIssuance.FromOutside setToken call
  | _ => True

/-- Fees only accrue in calls of the fee module. -/
def dust : Call → World E P → ℕ
  | .fund call, world => FeeBearingIssuance.dust call world.fund
  | .trade .., _ => 0

/-- The SetToken is in order, and short of no token by more than a bound. -/
structure ShortOf (address : Address) (bound : ℕ) (world : World E P) : Prop where
  setTokenAddress : world.setTokenAddress = address
  bookkept : Bookkept world.setToken
  supplied : world.Supplied
  short : ∀ token, -(bound : ℤ) ≤ surplus world.toChain token

variable {hooks : PreIssueHooks E} {modules : Modules} {world after : World E P}

theorem surplus_nonneg_of_not_mem {chain : Chain} {token : Address}
    (hkept : Bookkept chain.setToken) (habsent : token ∉ chain.setToken.components) :
    0 ≤ surplus chain token := by
  have hunit := hkept.defaultRealUnit_of_not_mem habsent
  rw [surplus, hunit, Nat.cast_zero, mul_zero, sub_zero, ← Nat.cast_mul]
  exact Int.natCast_nonneg _

theorem perform_shortOf {address : Address} {bound : ℕ} (hhooks : HooksKeep hooks)
    (hswaps : SwapsOnly exchanges) {call : Call} (houtside : FromOutside address call)
    (hshort : ShortOf address bound world)
    (hcall : perform hooks exchanges modules call world = .ok after) :
    ShortOf address (bound + dust call world) after := by
  cases call with
  | fund call =>
      simp only [perform, bind_eq_ok, pure_eq_ok] at hcall
      obtain ⟨fund, hfund, rfl⟩ := hcall
      have hloses := FeeBearingIssuance.perform_loses hhooks hshort.bookkept
        (hshort.setTokenAddress.symm ▸ houtside) hfund
      have hkept := hloses.bookkept hshort.bookkept
      refine ⟨hloses.setTokenAddress.trans hshort.setTokenAddress, hkept,
        hloses.supplied hshort.supplied, fun token => ?_⟩
      change _ ≤ surplus fund.toChain token
      by_cases hmem : token ∈ world.setToken.components
      · have hfalls := hloses.surplus_le hshort.bookkept token hmem
        have hbound := hshort.short token
        change surplus world.toChain token - _ ≤ _ at hfalls
        rw [dust]
        push_cast
        linarith
      · have habsent : token ∉ fund.setToken.components := by
          rw [hloses.components]
          exact hmem
        exact (Int.neg_nonpos_of_nonneg (Int.natCast_nonneg _)).trans
          (surplus_nonneg_of_not_mem hkept habsent)
  | trade sender exchangeName sendToken sendQuantity receiveToken minReceiveQuantity data =>
      simp only [perform, bind_eq_ok, pure_eq_ok] at hcall
      obtain ⟨outlays, htrade, rfl⟩ := hcall
      have htraded := traded_of_ok hswaps hshort.bookkept htrade
      refine ⟨htraded.setTokenAddress.trans hshort.setTokenAddress, htraded.bookkept,
        htraded.supplied hshort.supplied, fun token => ?_⟩
      rw [dust, Nat.add_zero]
      have hnonpos : -(bound : ℤ) ≤ 0 := Int.neg_nonpos_of_nonneg (Int.natCast_nonneg bound)
      by_cases hsent : token = sendToken
      · exact hnonpos.trans (hsent ▸ htraded.sent)
      · by_cases hreceived : token = receiveToken
        · exact hnonpos.trans (hreceived ▸ htraded.received)
        · exact (hshort.short token).trans (htraded.others token hsent hreceived)

/-- Whatever is issued, redeemed, charged and traded, in any order and on whatever exchanges:
the books are in order, the shares make up the supply, and no component is short by more
than the fees have rounded away. -/
theorem solvency_of_history (hhooks : HooksKeep hooks) (hswaps : SwapsOnly exchanges)
    (hkept : Bookkept world.setToken) (hsupplied : world.Supplied)
    (hbacked : world.Collateralized) (calls : List Call)
    (houtside : ∀ call ∈ calls, FromOutside world.setTokenAddress call) :
    let final := run (perform hooks exchanges modules) calls world
    Bookkept final.setToken ∧ final.Supplied ∧ ∀ component ∈ final.setToken.components,
      final.setToken.totalSupply * final.setToken.defaultRealUnit component ≤
        final.heldBalance component * preciseUnit +
          spent (perform hooks exchanges modules) dust calls world := by
  have hstart : ShortOf world.setTokenAddress 0 world := by
    refine ⟨rfl, hkept, hsupplied, fun token => ?_⟩
    rw [Nat.cast_zero, neg_zero]
    by_cases hmem : token ∈ world.setToken.components
    · exact BasicIssuanceModule.surplus_nonneg_iff.mpr hbacked token hmem
    · exact surplus_nonneg_of_not_mem hkept hmem
  have hstep : ∀ call ∈ calls, ∀ bound state next,
      ShortOf world.setTokenAddress bound state →
      perform hooks exchanges modules call state = .ok next →
      ShortOf world.setTokenAddress (bound + dust call state) next :=
    fun call hmem _ _ _ hstate hcall =>
      perform_shortOf hhooks hswaps (houtside call hmem) hstate hcall
  have hfinal := run_within (ShortOf world.setTokenAddress) hstep hstart
  rw [Nat.zero_add] at hfinal
  exact ⟨hfinal.bookkept, hfinal.supplied, fun component _ =>
    BasicIssuanceModule.neg_le_surplus_iff.mp (hfinal.short component)⟩

instance (setToken : Address) : DecidablePred (FromOutside setToken)
  | .fund call => inferInstanceAs (Decidable (FeeBearingIssuance.FromOutside setToken call))
  | .trade .. => .isTrue trivial

def barterFund : World Unit Unit where
  toOutlays := barterWorld
  managerIssuanceHook := zeroAddress
  environment := ()
  feeState := ⟨4, 10 ^ 17, 10 ^ 16, 0⟩

/-- Shares are issued, the fund is traded, and a fee accrues before somebody leaves. -/
def barterYear : List Call :=
  [.fund (.issuance (.issue 4 (10 ^ 18) 4)), .trade 7 "barter" 10 (10 ^ 17) 11 0 [],
    .fund (.pass StreamingFeeModule.oneYearInSeconds), .fund .accrueFee,
    .fund (.issuance (.redeem 4 (10 ^ 18) 4))]

theorem supplied_barterFund : barterFund.Supplied := by
  have hledger : barterFund.balances barterFund.setTokenAddress =
      Ledger.credit (fun _ => 0) 3 (2 * 10 ^ 18) := by
    funext holder
    by_cases heq : holder = 3 <;> simp [barterFund, barterWorld, Ledger.credit, heq]
  have hcredited := Ledger.sumsTo_empty.credit (3 : Address) (2 * 10 ^ 18)
  rw [Nat.zero_add] at hcredited
  rw [Chain.Supplied, hledger]
  exact hcredited

theorem collateralized_barterFund : barterFund.Collateralized := by
  intro component hcomponent
  obtain rfl := List.mem_singleton.mp hcomponent
  unfold Backing.Backed
  decide +kernel

theorem solvency_of_barterYear :
    let final := run (perform FeeBearingIssuance.noHooks bartering ⟨5, 6, 8⟩) barterYear
      barterFund
    Bookkept final.setToken ∧ final.Supplied ∧ ∀ component ∈ final.setToken.components,
      final.setToken.totalSupply * final.setToken.defaultRealUnit component ≤
        final.heldBalance component * preciseUnit +
          spent (perform FeeBearingIssuance.noHooks bartering ⟨5, 6, 8⟩) dust barterYear
            barterFund :=
  solvency_of_history BasicIssuanceModule.hooksKeep_none swapsOnly_bartering
    bookkept_barterWorld supplied_barterFund collateralized_barterFund barterYear (by decide)

end SetProtocol.FundTrading
