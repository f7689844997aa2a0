import SetProtocol.Modules.PerpRounding
import SetProtocol.Modules.PerpV2BasisTradingModule
import SetProtocol.Modules.SlippageIssuanceModule

/-!
# Previews of Perp issuance

The hooks of the Perp modules replicate positions for shares that have collateral in the
vault, and store the account value of a share.  The previews simulate the same trades, but
look for open positions, and take the account to be worth nothing where there are none.
The amounts that are previewed are those that move as long as both look at the same.
-/

namespace SetProtocol.PerpV2LeverageModuleV2

open Transaction PreciseUnitMath UnitConversionUtils
open SlippageIssuanceModule (Adjusts Overwrites unitAdjustment)

variable {P : Type}

/-! ## Quotes -/

/-- The trade that replicates a position. -/
def replicationTrade (setTokenQuantity totalSupply : ℤ) (isIssue : Bool)
    (position : PositionNotionalInfo) : Outcome PerpActionInfo := do
  let baseUnit ← preciseDivInt position.baseBalance totalSupply
  let baseTradeNotionalQuantity ← preciseMulInt baseUnit setTokenQuantity
  let traded ← (
    if isIssue = true then .ok baseTradeNotionalQuantity
    else neg baseTradeNotionalQuantity)
  createActionInfoNotional position.baseToken traded 0

/-- Each trade moves the quote that it is simulated to move before all of them. -/
def TradesAsQuoted (perp : Perp P) (module : Address) (setTokenQuantity totalSupply : ℤ)
    (isIssue : Bool) (quoted : World P) : World P → List PositionNotionalInfo → Prop
  | _, [] => True
  | current, position :: positions =>
      ∀ actionInfo traded deltaQuote,
        replicationTrade setTokenQuantity totalSupply isIssue position = .ok actionInfo →
        executeTrade perp module current actionInfo = .ok (traded, deltaQuote) →
          (∀ deltaBase simulated,
            quoted.simulateTrade perp module actionInfo = .ok (deltaBase, simulated) →
              simulated = deltaQuote) ∧
          TradesAsQuoted perp module setTokenQuantity totalSupply isIssue quoted traded
            positions

/-- `simulateTrade` returns the quote of `executeTrade`, for each position. -/
def QuotesAgree (perp : Perp P) (module : Address) (world : World P)
    (setTokenQuantity : ℕ) (isIssue : Bool) : Prop :=
  ∀ synced, syncPositionList perp world = .ok synced →
    TradesAsQuoted perp module setTokenQuantity synced.setToken.totalSupply isIssue synced
      synced (synced.getPositionNotionalInfo perp synced.positions)

variable {perp : Perp P} {module : Address} {world next simulated : World P}
variable {setTokenQuantity : ℕ} {isIssue : Bool} {unit told value announced : ℤ}

theorem replicatePositions_agree {quantity supply : ℤ} {quoted current traded : World P}
    {positions : List PositionNotionalInfo}
    (hquoted : TradesAsQuoted perp module quantity supply isIssue quoted current positions)
    {start : ℤ}
    (hexecuted : positions.foldlM
      (replicatePosition perp module quantity supply isIssue false) (current, start) =
        .ok (traded, value))
    (hsimulated : positions.foldlM
      (replicatePosition perp module quantity supply isIssue true) (quoted, start) =
        .ok (simulated, announced)) : announced = value := by
  induction positions generalizing current start with
  | nil =>
      rw [List.foldlM_nil, pure_eq_ok, Prod.mk.injEq] at hexecuted hsimulated
      rw [← hexecuted.2, hsimulated.2]
  | cons position positions ih =>
      rw [List.foldlM_cons, bind_eq_ok] at hexecuted hsimulated
      obtain ⟨⟨executed, middle⟩, hturn, hrest⟩ := hexecuted
      obtain ⟨⟨same, told⟩, hquote, hothers⟩ := hsimulated
      simp only [replicatePosition, Bool.false_eq_true, if_false, bind_eq_ok, pure_eq_ok,
        Prod.mk.injEq] at hturn
      obtain ⟨baseUnit, hbase, notional, hnotional, base, hsign, actionInfo, hinfo,
        ⟨after, deltaQuote⟩, htraded, delta, hdelta, moved, hmoved, rfl, rfl⟩ := hturn
      simp only [replicatePosition, hbase, hnotional, hsign, hinfo, ok_bind, if_true,
        bind_eq_ok, pure_eq_ok, Prod.mk.injEq] at hquote
      obtain ⟨⟨_, announcedQuote⟩, ⟨⟨deltaBase, _⟩, hswap, rfl, rfl⟩, hquote⟩ := hquote
      have htrade : replicationTrade quantity supply isIssue position = .ok actionInfo := by
        rw [replicationTrade, hbase, ok_bind, hnotional, ok_bind, hsign, ok_bind, hinfo]
      obtain ⟨hsame, hrests⟩ := hquoted actionInfo after deltaQuote htrade htraded
      obtain rfl := hsame deltaBase _ hswap
      obtain ⟨_, hcast, _, hsum, rfl, rfl⟩ := hquote
      rw [hdelta, Except.ok.injEq] at hcast
      subst hcast
      rw [hmoved, Except.ok.injEq] at hsum
      subst hsum
      exact ih hrests hrest hothers

theorem valueOfPositionTrades_agree
    (hquotes : QuotesAgree perp module world setTokenQuantity isIssue)
    (hexecuted : valueOfPositionTrades perp module world setTokenQuantity isIssue false =
      .ok (next, value))
    (hsimulated : valueOfPositionTrades perp module world setTokenQuantity isIssue true =
      .ok (simulated, announced)) : announced = value := by
  simp only [valueOfPositionTrades, bind_eq_ok, SafeCast.toInt256_eq_ok] at hexecuted
  obtain ⟨synced, hsynced, _, ⟨hfits, rfl⟩, partialUnit, hpartial, start, hstart, _,
    ⟨hsupply, rfl⟩, hexecuted⟩ := hexecuted
  have hquantity := SafeCast.toInt256_eq_ok.mpr ⟨hfits, rfl⟩
  have hshares := SafeCast.toInt256_eq_ok.mpr ⟨hsupply, rfl⟩
  simp only [valueOfPositionTrades, hsynced, hquantity, hpartial, hstart, hshares,
    ok_bind] at hsimulated
  exact replicatePositions_agree (hquotes synced hsynced) hexecuted hsimulated

/-- Issuers and redeemers are told the unit that they are going to be charged or paid. -/
theorem executePositionTrades_agree
    (hquotes : QuotesAgree perp module world setTokenQuantity isIssue)
    (hexecuted : executePositionTrades perp module world setTokenQuantity isIssue false =
      .ok (next, unit))
    (hsimulated : executePositionTrades perp module world setTokenQuantity isIssue true =
      .ok (simulated, told)) : told = unit := by
  obtain ⟨value, hvalue, hunit⟩ := executePositionTrades_eq_ok hexecuted
  obtain ⟨announced, hannounced, htold⟩ := executePositionTrades_eq_ok hsimulated
  obtain rfl := valueOfPositionTrades_agree hquotes hvalue hannounced
  rw [hunit, Except.ok.injEq] at htold
  exact htold.symm

theorem executePositionTrades_setToken {isSimulation : Bool}
    (hcall : executePositionTrades perp module world setTokenQuantity isIssue isSimulation =
      .ok (next, unit)) : next.setToken = world.setToken := by
  obtain ⟨value, hvalue, -⟩ := executePositionTrades_eq_ok hcall
  exact valueOfPositionTrades_setToken hvalue

/-! ## Accounts without open positions -/

theorem accountValueUnit_nonneg
    (hcall : accountValueUnit perp value setTokenQuantity isIssue = .ok unit) : 0 ≤ unit := by
  by_cases hworthless : value ≤ 0
  · rw [accountValueUnit, if_pos hworthless, Except.ok.injEq] at hcall
    exact hcall.le
  · have hvalue : ((value.toNat : ℕ) : ℤ) = value := Int.toNat_of_nonneg (by omega)
    rw [← hvalue] at hcall
    have hpositive : 0 < value.toNat := by omega
    rw [(accountValueUnit_eq_ok hpositive hcall).2]
    exact Int.natCast_nonneg _

theorem executePositionTrades_nonneg {isSimulation : Bool}
    (hcall : executePositionTrades perp module world setTokenQuantity isIssue isSimulation =
      .ok (next, unit)) : 0 ≤ unit := by
  obtain ⟨value, -, hunit⟩ := executePositionTrades_eq_ok hcall
  exact accountValueUnit_nonneg hunit

/-- Collateral, profits, funding and quote come to nothing. -/
def Worthless (perp : Perp P) (world : World P) : Prop :=
  ∀ accountInfo, getAccountInfo perp world = .ok accountInfo →
    accountInfo.collateralBalance + accountInfo.owedRealizedPnl +
      accountInfo.pendingFundingPayments + accountInfo.netQuoteBalance ≤ 0

theorem tdiv_nonpos {numerator denominator : ℤ} (hnumerator : numerator ≤ 0)
    (hdenominator : 0 ≤ denominator) : numerator.tdiv denominator ≤ 0 := by
  have hneg := Int.tdiv_nonneg (Int.neg_nonneg_of_nonpos hnumerator) hdenominator
  rw [Int.neg_tdiv] at hneg
  omega

theorem partialUnit_nonpos (hsupply : 0 < world.setToken.totalSupply)
    (hworthless : Worthless perp world)
    (hcall : calculatePartialAccountValuePositionUnit perp world = .ok unit) : unit ≤ 0 := by
  simp only [calculatePartialAccountValuePositionUnit, bind_eq_ok, SafeCast.toInt256_eq_ok,
    SignedSafeMath.add_eq_ok] at hcall
  obtain ⟨accountInfo, hinfo, _, ⟨-, rfl⟩, _, ⟨-, rfl⟩, _, ⟨-, rfl⟩, _, ⟨-, rfl⟩, hunit⟩ := hcall
  obtain ⟨-, rfl⟩ := (preciseDivInt_eq_ok (Nat.cast_pos.mpr hsupply)).mp hunit
  apply tdiv_nonpos _ (Int.natCast_nonneg _)
  exact mul_nonpos_of_nonpos_of_nonneg (hworthless accountInfo hinfo) preciseUnitInt_pos.le

/-- Such an account gives a share nothing, if no position is open. -/
theorem unit_of_worthless (hsupply : 0 < world.setToken.totalSupply)
    (hnone : world.positions = []) (hworthless : Worthless perp world)
    (hcall : executePositionTrades perp module world setTokenQuantity isIssue false =
      .ok (next, unit)) : unit = 0 := by
  obtain ⟨value, hvalue, hunit⟩ := executePositionTrades_eq_ok hcall
  have hsynced : syncPositionList perp world = .ok world := by
    rw [syncPositionList, hnone]
    rfl
  simp only [valueOfPositionTrades, hsynced, ok_bind, PerpAccount.getPositionNotionalInfo,
    hnone, List.map_nil, List.foldlM_nil, bind_eq_ok, pure_eq_ok, Prod.mk.injEq,
    SafeCast.toInt256_eq_ok, preciseMulInt_eq_ok] at hvalue
  obtain ⟨_, ⟨-, rfl⟩, partialUnit, hpartial, _, ⟨-, rfl⟩, _, -, -, rfl⟩ := hvalue
  have hnonpos := partialUnit_nonpos hsupply hworthless hpartial
  have hworth : (partialUnit * setTokenQuantity).tdiv preciseUnitInt ≤ 0 :=
    tdiv_nonpos (mul_nonpos_of_nonpos_of_nonneg hnonpos (Int.natCast_nonneg _))
      preciseUnitInt_pos.le
  rw [accountValueUnit, if_pos hworth, Except.ok.injEq] at hunit
  exact hunit.symm

/-! ## The guards -/

/-- The hooks and the previews look at the same: the position of the collateral is an asset
and listed exactly if there is something to replicate.  A SetToken without the collateral
has nothing to announce. -/
def GuardsAgree (perp : Perp P) (module : Address) (world : World P) : Prop :=
  perp.collateralToken ∈ world.setToken.components →
    (module ∈ world.setToken.getExternalPositionModules perp.collateralToken ∧
        0 ≤ world.setToken.externalRealUnit perp.collateralToken module ∧
        (world.positions ≠ [] ∨ Worthless perp world)) ∨
      (module ∉ world.setToken.getExternalPositionModules perp.collateralToken ∧
        world.setToken.externalRealUnit perp.collateralToken module = 0 ∧
        world.positions = [])

/-- What a hook writes, for a unit that is announced beforehand. -/
def Writes (perp : Perp P) (module : Address) (world : World P) (after : SetToken)
    (told : ℤ) : Prop :=
  (¬replicates perp world ∧ after = world.setToken) ∨
    (replicates perp world ∧ ∃ unit, 0 ≤ unit ∧
      Overwrites world.setToken after perp.collateralToken module unit ∧
      (world.positions ≠ [] → told = unit) ∧
      (world.positions = [] → Worthless perp world → unit = 0))

variable {after : SetToken}

theorem replicates_of_mem (hsupply : 0 < world.setToken.totalSupply)
    (hlisted : module ∈ world.setToken.getExternalPositionModules perp.collateralToken) :
    replicates perp world := by
  refine ⟨hsupply.ne', ?_⟩
  rw [Position.hasExternalPosition, decide_eq_true_eq]
  exact List.length_pos_of_mem hlisted

/-- Under the same guards a hook adjusts the units as it announces. -/
theorem Writes.adjusts (hwrites : Writes perp module world after told)
    (hguards : GuardsAgree perp module world)
    (hsupply : 0 < world.setToken.totalSupply)
    (hdistinct :
      (world.setToken.getExternalPositionModules perp.collateralToken).Nodup)
    (hnothing : world.positions = [] → told = 0) :
    Adjusts world.setToken after
      (unitAdjustment world.setToken perp.collateralToken module told) := by
  have hunseen : (perp.collateralToken ∈ world.setToken.components →
      module ∉ world.setToken.getExternalPositionModules perp.collateralToken) →
      Adjusts world.setToken after fun _ => 0 := by
    intro hunlisted
    rcases hwrites with ⟨-, rfl⟩ | ⟨-, unit, -, hoverwrites, -⟩
    · exact Adjusts.none rfl (fun _ _ => rfl) fun _ _ => rfl
    · exact hoverwrites.adjusts_none hunlisted
  by_cases hcomponent : perp.collateralToken ∈ world.setToken.components
  · rcases hguards hcomponent with ⟨hlisted, hstored, hopen⟩ | ⟨hnew, hstored, hnone⟩
    · rcases hwrites with ⟨hidle, -⟩ | ⟨-, unit, hunit, hoverwrites, htold, hworthless⟩
      · exact absurd (replicates_of_mem hsupply hlisted) hidle
      · have hannounced : told = unit := by
          by_cases hnone : world.positions = []
          · rw [hnothing hnone, hworthless hnone (hopen.resolve_left (absurd hnone))]
          · exact htold hnone
        rw [hannounced]
        exact hoverwrites.adjusts hlisted hdistinct hstored hunit
    · apply (hunseen fun _ => hnew).congr
      intro component _
      rw [unitAdjustment, hnothing hnone, hstored, sub_zero, ite_self]
  · apply (hunseen fun hmem => absurd hmem hcomponent).congr
    intro component hmem
    have hother : component ≠ perp.collateralToken := fun hsame => hcomponent (hsame ▸ hmem)
    rw [unitAdjustment, if_neg hother]

/-- One entry of a list of zeros. -/
theorem set_zeros {keys : List Address} {key : Address} (hmem : key ∈ keys)
    (hdistinct : keys.Nodup) (entry : ℤ) :
    (keys.map fun _ => (0 : ℤ)).set (keys.idxOf key) entry =
      keys.map fun other => if other = key then entry else 0 := by
  induction keys with
  | nil => exact absurd hmem List.not_mem_nil
  | cons first keys ih =>
      rw [List.nodup_cons] at hdistinct
      rw [List.map_cons, List.map_cons]
      by_cases hfirst : first = key
      · subst hfirst
        rw [List.idxOf_cons_self, List.set_cons_zero, if_pos rfl]
        congr 1
        apply List.map_congr_left
        intro other hother
        rw [if_neg fun hsame : other = first => hdistinct.1 (hsame ▸ hother)]
      · have hrest := (List.mem_cons.mp hmem).resolve_left (Ne.symm hfirst)
        rw [List.idxOf_cons_ne _ hfirst, List.set_cons_succ, if_neg hfirst,
          ih hrest hdistinct.2]

/-- The announcement has one entry for each component. -/
theorem formatAdjustments_eq_ok {setToken : SetToken} (hdistinct : setToken.components.Nodup)
    {equities debts : List ℤ}
    (hcall : formatAdjustments perp module setToken told = .ok (equities, debts)) :
    equities =
        setToken.components.map (unitAdjustment setToken perp.collateralToken module told) ∧
      debts = setToken.components.map fun _ => 0 := by
  simp only [formatAdjustments, PerpAccount.formatAdjustments, bind_eq_ok, pure_eq_ok,
    Prod.mk.injEq] at hcall
  obtain ⟨_, hread, entries, hentries, rfl, rfl⟩ := hcall
  obtain rfl := SetToken.getExternalPositionRealUnit_eq_ok hread
  refine ⟨?_, rfl⟩
  by_cases hmem : perp.collateralToken ∈ setToken.components
  · simp only [AddressArrayUtils.indexOf_of_mem hmem, if_true, bind_eq_ok, pure_eq_ok,
      SignedSafeMath.sub_eq_ok] at hentries
    obtain ⟨_, ⟨-, rfl⟩, rfl⟩ := hentries
    exact set_zeros hmem hdistinct _
  · simp only [AddressArrayUtils.indexOf_of_not_mem hmem, Bool.false_eq_true, if_false,
      Except.ok.injEq] at hentries
    rw [← hentries]
    apply List.map_congr_left
    intro component hcomponent
    have hother : component ≠ perp.collateralToken := fun hsame => hmem (hsame ▸ hcomponent)
    rw [unitAdjustment, if_neg hother]

/-! ## The leverage module -/

variable {equities debts : List ℤ} {traded : World P}

/-- The unit that both previews of the module find, as they guard it. -/
def previewedUnit (perp : Perp P) (module : Address) (world : World P)
    (setTokenQuantity : ℕ) (isIssue : Bool) : Outcome (World P × ℤ) :=
  if 0 < world.positions.length then
    executePositionTrades perp module world setTokenQuantity isIssue true
  else .ok (world, 0)

theorem previewedUnit_of_none (hnone : world.positions = [])
    (hcall : previewedUnit perp module world setTokenQuantity isIssue =
      .ok (simulated, told)) : simulated = world ∧ told = 0 := by
  simp only [previewedUnit, hnone, List.length_nil, lt_irrefl, if_false, Except.ok.injEq,
    Prod.mk.injEq] at hcall
  exact ⟨hcall.1.symm, hcall.2.symm⟩

theorem previewedUnit_of_open (hopen : world.positions ≠ [])
    (hcall : previewedUnit perp module world setTokenQuantity isIssue =
      .ok (simulated, told)) :
    executePositionTrades perp module world setTokenQuantity isIssue true =
      .ok (simulated, told) := by
  rwa [previewedUnit, if_pos (List.length_pos_iff.mpr hopen)] at hcall

theorem previewedUnit_setToken
    (hcall : previewedUnit perp module world setTokenQuantity isIssue =
      .ok (simulated, told)) : simulated.setToken = world.setToken := by
  by_cases hnone : world.positions = []
  · rw [(previewedUnit_of_none hnone hcall).1]
  · exact executePositionTrades_setToken (previewedUnit_of_open hnone hcall)

theorem editCollateralUnit_overwrites
    (hmultiplier : world.setToken.positionMultiplier = preciseUnitInt)
    (hsame : traded.setToken = world.setToken)
    (hcall : editCollateralUnit perp module traded unit = .ok next) :
    Overwrites world.setToken next.setToken perp.collateralToken module unit := by
  simp only [editCollateralUnit, bind_eq_ok, pure_eq_ok] at hcall
  obtain ⟨edited, hedited, rfl⟩ := hcall
  rw [hsame] at hedited
  exact SlippageIssuanceModule.overwrites_of_edit hmultiplier hedited

/-- The trades of a hook and the edit after them, for the unit that was previewed. -/
theorem writes_of_trades (hmultiplier : world.setToken.positionMultiplier = preciseUnitInt)
    (hquotes : QuotesAgree perp module world setTokenQuantity isIssue)
    (hreplicates : replicates perp world)
    (htold : previewedUnit perp module world setTokenQuantity isIssue =
      .ok (simulated, told))
    (htraded : executePositionTrades perp module world setTokenQuantity isIssue false =
      .ok (traded, unit))
    (hedited : editCollateralUnit perp module traded unit = .ok next) :
    Writes perp module world next.setToken told := by
  have hoverwrites := editCollateralUnit_overwrites hmultiplier
    (executePositionTrades_setToken htraded) hedited
  refine Or.inr ⟨hreplicates, unit, executePositionTrades_nonneg htraded, hoverwrites, ?_, ?_⟩
  · intro hopen
    exact executePositionTrades_agree hquotes htraded (previewedUnit_of_open hopen htold)
  · intro hnone hworthless
    exact unit_of_worthless (Nat.pos_of_ne_zero hreplicates.1) hnone hworthless htraded

theorem Replicated.writes (hmultiplier : world.setToken.positionMultiplier = preciseUnitInt)
    (hquotes : QuotesAgree perp module world setTokenQuantity isIssue)
    (htold : previewedUnit perp module world setTokenQuantity isIssue =
      .ok (simulated, told))
    (hreplicated : Replicated perp module world setTokenQuantity isIssue next) :
    Writes perp module world next.setToken told := by
  cases hreplicated with
  | idle hidle => exact Or.inl ⟨hidle, rfl⟩
  | traded hreplicates htraded hedited =>
      exact writes_of_trades hmultiplier hquotes hreplicates htold htraded hedited

end SetProtocol.PerpV2LeverageModuleV2

namespace SetProtocol.PerpV2BasisTradingModule

open Transaction PreciseUnitMath UnitConversionUtils
open PerpV2LeverageModuleV2 (QuotesAgree Writes previewedUnit replicates
  executePositionTrades)

/-! ## The basis trading module -/

variable {P : Type} {perp : Perp P} {module sender : Address} {world next : World P}
variable {setTokenQuantity settledFunding totalSupply : ℕ} {feeSettings : FeeState}
variable {unit netFees told : ℤ} {simulated : World P}

theorem updateSettledFunding_keeps (hcall : updateSettledFunding perp world = .ok next) :
    getUpdatedSettledFunding perp world = .ok next.settledFunding ∧
      next.toWorld = world.toWorld := by
  simp only [updateSettledFunding, bind_eq_ok, pure_eq_ok] at hcall
  obtain ⟨settledFunding, hsettled, rfl⟩ := hcall
  exact ⟨hsettled, rfl⟩

/-- A fee is never turned into a debt, and nothing stays nothing. -/
theorem calculateNetFeesPositionUnit_sign (hunit : 0 ≤ unit)
    (hcall : calculateNetFeesPositionUnit perp feeSettings totalSupply unit settledFunding =
      .ok netFees) : 0 ≤ netFees ∧ (unit = 0 → netFees = 0) := by
  rw [calculateNetFeesPositionUnit] at hcall
  split at hcall
  · rw [Except.ok.injEq] at hcall
    exact ⟨hcall ▸ hunit, fun hzero => hcall ▸ hzero⟩
  · simp only [bind_eq_ok, SafeCast.toInt256_eq_ok, SignedSafeMath.sub_eq_ok,
      pure_eq_ok] at hcall
    obtain ⟨_, -, _, -, fee, -, _, ⟨-, rfl⟩, _, ⟨-, rfl⟩, rfl⟩ := hcall
    constructor
    · split <;> omega
    · intro hzero
      split <;> omega

theorem moduleIssueHook_writes
    (hmultiplier : world.setToken.positionMultiplier = preciseUnitInt)
    (hquotes : QuotesAgree perp module world.toWorld setTokenQuantity true)
    {parent : PerpV2LeverageModuleV2.World P}
    (htold : previewedUnit perp module world.toWorld setTokenQuantity true =
      .ok (parent, told))
    (hcall : moduleIssueHook perp module world sender setTokenQuantity = .ok next) :
    Writes perp module world.toWorld next.setToken told := by
  simp only [moduleIssueHook, bind_eq_ok, pure_eq_ok] at hcall
  obtain ⟨_, -, tracked, htracked, hooked, hhooked, rfl⟩ := hcall
  rw [(updateSettledFunding_keeps htracked).2] at hhooked
  exact (PerpV2LeverageModuleV2.replicated_of_issue hhooked).writes hmultiplier hquotes htold

/-- The unit that the preview of a redemption finds. -/
def previewedNetFees (perp : Perp P) (module : Address) (world : World P)
    (setTokenQuantity : ℕ) : Outcome (World P × ℤ) :=
  if 0 < world.positions.length then do
    let updatedSettledFunding ← getUpdatedSettledFunding perp world
    let (simulated, newExternalPositionUnit) ←
      executePositionTrades perp module world.toWorld setTokenQuantity false true
    let netFees ← calculateNetFeesPositionUnit perp world.feeSettings
      simulated.setToken.totalSupply newExternalPositionUnit updatedSettledFunding
    pure (world.withParent simulated, netFees)
  else .ok (world, 0)

theorem previewedNetFees_of_none (hnone : world.positions = [])
    (hcall : previewedNetFees perp module world setTokenQuantity = .ok (simulated, told)) :
    simulated = world ∧ told = 0 := by
  simp only [previewedNetFees, hnone, List.length_nil, lt_irrefl, if_false, Except.ok.injEq,
    Prod.mk.injEq] at hcall
  exact ⟨hcall.1.symm, hcall.2.symm⟩

theorem previewedNetFees_setToken
    (hcall : previewedNetFees perp module world setTokenQuantity = .ok (simulated, told)) :
    simulated.setToken = world.setToken := by
  by_cases hnone : world.positions = []
  · rw [(previewedNetFees_of_none hnone hcall).1]
  · simp only [previewedNetFees, List.length_pos_iff.mpr hnone, if_true, bind_eq_ok,
      pure_eq_ok, Prod.mk.injEq] at hcall
    obtain ⟨_, -, ⟨parent, _⟩, hsimulated, _, -, rfl, -⟩ := hcall
    exact PerpV2LeverageModuleV2.executePositionTrades_setToken hsimulated

theorem moduleRedeemHook_writes
    (hmultiplier : world.setToken.positionMultiplier = preciseUnitInt)
    (hquotes : QuotesAgree perp module world.toWorld setTokenQuantity false)
    (htold : previewedNetFees perp module world setTokenQuantity = .ok (simulated, told))
    (hcall : moduleRedeemHook perp module world sender setTokenQuantity = .ok next) :
    Writes perp module world.toWorld next.setToken told := by
  simp only [moduleRedeemHook, bind_eq_ok] at hcall
  obtain ⟨_, -, hcall⟩ := hcall
  split at hcall
  · rename_i hreplicates
    simp only [bind_eq_ok, pure_eq_ok] at hcall
    obtain ⟨tracked, htracked, ⟨traded, unit⟩, htraded, netFees, hnetFees, edited, hedited,
      rfl⟩ := hcall
    obtain ⟨hsettled, hsame⟩ := updateSettledFunding_keeps htracked
    rw [hsame] at htraded
    have hnonneg := PerpV2LeverageModuleV2.executePositionTrades_nonneg htraded
    have hshares := PerpV2LeverageModuleV2.executePositionTrades_setToken htraded
    obtain ⟨hfees, hnothing⟩ := calculateNetFeesPositionUnit_sign hnonneg hnetFees
    have hoverwrites := PerpV2LeverageModuleV2.editCollateralUnit_overwrites hmultiplier
      hshares hedited
    refine Or.inr ⟨hreplicates, netFees, hfees, hoverwrites, ?_, ?_⟩
    · intro hopen
      simp only [previewedNetFees, List.length_pos_iff.mpr hopen, if_true, hsettled, ok_bind,
        bind_eq_ok, pure_eq_ok, Prod.mk.injEq] at htold
      obtain ⟨⟨parent, announced⟩, hsimulated, _, hannounced, -, rfl⟩ := htold
      obtain rfl := PerpV2LeverageModuleV2.executePositionTrades_agree hquotes htraded hsimulated
      rw [PerpV2LeverageModuleV2.executePositionTrades_setToken hsimulated, ← hshares,
        hnetFees, Except.ok.injEq] at hannounced
      exact hannounced.symm
    · intro hnone hworthless
      exact hnothing (PerpV2LeverageModuleV2.unit_of_worthless
        (Nat.pos_of_ne_zero hreplicates.1) hnone hworthless htraded)
  · rw [pure_eq_ok] at hcall
    exact Or.inl ⟨‹_›, by rw [hcall]⟩

end SetProtocol.PerpV2BasisTradingModule

namespace SetProtocol.PerpPreviews

open Transaction PreciseUnitMath
open DebtIssuanceModule (calculateTotalFees)
open SlippageIssuanceModule
open PerpV2LeverageModuleV2 (QuotesAgree GuardsAgree Writes previewedUnit)
open PerpV2BasisTradingModule (previewedNetFees)

/-! ## The issuance module with a Perp module -/

variable {P : Type}

/-- What the Perp modules store for the SetToken, and Perp itself. -/
structure PerpStorage (P : Type) where
  protocol : P
  fundingEvents : List FundingEvent
  positions : List Address
  maxPerpPositionsPerSet : ℕ
  feeSettings : PerpV2BasisTradingModule.FeeState
  settledFunding : ℕ

/-- What a Perp module sees. -/
def perpWorld (world : DebtIssuanceModule.World (PerpStorage P)) :
    PerpV2BasisTradingModule.World P where
  toChain := world.toChain
  protocol := world.environment.protocol
  fundingEvents := world.environment.fundingEvents
  positions := world.environment.positions
  maxPerpPositionsPerSet := world.environment.maxPerpPositionsPerSet
  feeSettings := world.environment.feeSettings
  settledFunding := world.environment.settledFunding

/-- What it leaves behind. -/
def withPerpWorld (world : DebtIssuanceModule.World (PerpStorage P))
    (next : PerpV2BasisTradingModule.World P) :
    DebtIssuanceModule.World (PerpStorage P) where
  toChain := next.toChain
  issuanceSettings := world.issuanceSettings
  environment := {
    protocol := next.protocol
    fundingEvents := next.fundingEvents
    positions := next.positions
    maxPerpPositionsPerSet := next.maxPerpPositionsPerSet
    feeSettings := next.feeSettings
    settledFunding := next.settledFunding }

/-- The module that is registered. -/
inductive PerpModule
  | leverage
  | basisTrading
  deriving DecidableEq

variable (perp : Perp P) (module issuanceModule : Address)

def PerpModule.moduleIssueHook (kind : PerpModule) (quantity : ℕ)
    (world : PerpV2BasisTradingModule.World P) :
    Outcome (PerpV2BasisTradingModule.World P) :=
  match kind with
  | .leverage => do
      let hooked ← PerpV2LeverageModuleV2.moduleIssueHook perp module world.toWorld
        issuanceModule quantity
      pure (world.withParent hooked)
  | .basisTrading =>
      PerpV2BasisTradingModule.moduleIssueHook perp module world issuanceModule quantity

def PerpModule.moduleRedeemHook (kind : PerpModule) (quantity : ℕ)
    (world : PerpV2BasisTradingModule.World P) :
    Outcome (PerpV2BasisTradingModule.World P) :=
  match kind with
  | .leverage => do
      let hooked ← PerpV2LeverageModuleV2.moduleRedeemHook perp module world.toWorld
        issuanceModule quantity
      pure (world.withParent hooked)
  | .basisTrading =>
      PerpV2BasisTradingModule.moduleRedeemHook perp module world issuanceModule quantity

/-- Inherited by the basis trading module. -/
def getIssuanceAdjustments (quantity : ℕ) (world : PerpV2BasisTradingModule.World P) :
    Outcome (PerpV2BasisTradingModule.World P × List ℤ × List ℤ) := do
  let (simulated, adjustments) ←
    PerpV2LeverageModuleV2.getIssuanceAdjustments perp module world.toWorld quantity
  pure (world.withParent simulated, adjustments)

def PerpModule.getRedemptionAdjustments (kind : PerpModule) (quantity : ℕ)
    (world : PerpV2BasisTradingModule.World P) :
    Outcome (PerpV2BasisTradingModule.World P × List ℤ × List ℤ) :=
  match kind with
  | .leverage => do
      let (simulated, adjustments) ←
        PerpV2LeverageModuleV2.getRedemptionAdjustments perp module world.toWorld quantity
      pure (world.withParent simulated, adjustments)
  | .basisTrading =>
      PerpV2BasisTradingModule.getRedemptionAdjustments perp module world quantity

/-- Inherited by the basis trading module. -/
def componentIssueHook (quantity : ℕ) (component : Address) (isEquity : Bool)
    (world : PerpV2BasisTradingModule.World P) :
    Outcome (PerpV2BasisTradingModule.World P) := do
  let hooked ← PerpV2LeverageModuleV2.componentIssueHook perp module world.toWorld
    issuanceModule quantity component isEquity
  pure (world.withParent hooked)

/-- Inherited by the basis trading module. -/
def componentRedeemHook (quantity : ℕ) (component : Address) (isEquity : Bool)
    (world : PerpV2BasisTradingModule.World P) :
    Outcome (PerpV2BasisTradingModule.World P) := do
  let hooked ← PerpV2LeverageModuleV2.componentRedeemHook perp module world.toWorld
    issuanceModule quantity component isEquity
  pure (world.withParent hooked)

/-- A call of the issuance module to the Perp module. -/
def throughPerp (call : PerpV2BasisTradingModule.World P →
      Outcome (PerpV2BasisTradingModule.World P))
    (world : DebtIssuanceModule.World (PerpStorage P)) :
    Outcome (DebtIssuanceModule.World (PerpStorage P)) := do
  let next ← call (perpWorld world)
  pure (withPerpWorld world next)

/-- A question of the issuance module to the Perp module. -/
def askPerp (call : PerpV2BasisTradingModule.World P →
      Outcome (PerpV2BasisTradingModule.World P × List ℤ × List ℤ))
    (world : DebtIssuanceModule.World (PerpStorage P)) :
    Outcome (DebtIssuanceModule.World (PerpStorage P) × List ℤ × List ℤ) := do
  let (next, adjustments) ← call (perpWorld world)
  pure (withPerpWorld world next, adjustments)

/-- The contracts around the issuance module: the Perp module, and others that may have
positions in other components. -/
def perpHooks (kind : PerpModule) (others : HooksV2 (PerpStorage P)) :
    HooksV2 (PerpStorage P) where
  invokePreIssueHook := others.invokePreIssueHook
  moduleIssueHook hook quantity :=
    if hook = module then throughPerp (kind.moduleIssueHook perp module issuanceModule quantity)
    else others.moduleIssueHook hook quantity
  moduleRedeemHook hook quantity :=
    if hook = module then throughPerp (kind.moduleRedeemHook perp module issuanceModule quantity)
    else others.moduleRedeemHook hook quantity
  componentIssueHook hook quantity component isEquity :=
    if hook = module then
      throughPerp (componentIssueHook perp module issuanceModule quantity component isEquity)
    else others.componentIssueHook hook quantity component isEquity
  componentRedeemHook hook quantity component isEquity :=
    if hook = module then
      throughPerp (componentRedeemHook perp module issuanceModule quantity component isEquity)
    else others.componentRedeemHook hook quantity component isEquity
  getIssuanceAdjustments hook quantity :=
    if hook = module then askPerp (getIssuanceAdjustments perp module quantity)
    else others.getIssuanceAdjustments hook quantity
  getRedemptionAdjustments hook quantity :=
    if hook = module then askPerp (kind.getRedemptionAdjustments perp module quantity)
    else others.getRedemptionAdjustments hook quantity

/-! ## What is announced -/

variable {perp module issuanceModule}
variable {kind : PerpModule} {others : HooksV2 (PerpStorage P)} {quantity : ℕ}
variable {world : DebtIssuanceModule.World (PerpStorage P)}
variable {simulated hooked : PerpV2BasisTradingModule.World P}
variable {equities debts : List ℤ} {told : ℤ}

/-- A SetToken that the Perp module alone is called for. -/
structure Registered (perp : Perp P) (module : Address)
    (world : DebtIssuanceModule.World (PerpStorage P)) : Prop where
  hooks : world.issuanceSettings.moduleIssuanceHooks = [module]
  supply : 0 < world.setToken.totalSupply
  multiplier : world.setToken.positionMultiplier = preciseUnitInt
  components : world.setToken.components.Nodup
  modules : (world.setToken.getExternalPositionModules perp.collateralToken).Nodup

/-- The trades of an issuance or a redemption move the quotes of their simulations. -/
def AsQuoted (perp : Perp P) (module issuanceModule : Address)
    (world : DebtIssuanceModule.World (PerpStorage P)) (quantity : ℕ) (isIssue : Bool) :
    Prop :=
  ∀ fees, calculateTotalFees issuanceModule world quantity isIssue = .ok fees →
    QuotesAgree perp module (perpWorld world).toWorld fees.totalQuantity isIssue

theorem announces_of_writes (hset : Registered perp module world)
    (hguards : GuardsAgree perp module (perpWorld world).toWorld)
    (hwrites : Writes perp module (perpWorld world).toWorld hooked.setToken told)
    (hsame : simulated.setToken = world.setToken)
    (hnothing : world.environment.positions = [] → told = 0)
    (hformat : PerpV2LeverageModuleV2.formatAdjustments perp module simulated.setToken told =
      .ok (equities, debts)) :
    Announces world (withPerpWorld world simulated) (withPerpWorld world hooked) equities
      debts := by
  rw [hsame] at hformat
  obtain ⟨hequities, hdebts⟩ :=
    PerpV2LeverageModuleV2.formatAdjustments_eq_ok hset.components hformat
  exact ⟨hsame, _, hequities, hdebts,
    hwrites.adjusts hguards hset.supply hset.modules hnothing⟩

theorem previewedUnit_of_adjustments {isIssue : Bool} {parent : PerpV2LeverageModuleV2.World P}
    {start : PerpV2LeverageModuleV2.World P}
    (hcall : (do
      let (simulated, newExternalPositionUnit) ←
        previewedUnit perp module start quantity isIssue
      let adjustments ← PerpV2LeverageModuleV2.formatAdjustments perp module
        simulated.setToken newExternalPositionUnit
      pure (simulated, adjustments)) = .ok (parent, equities, debts)) :
    ∃ told, previewedUnit perp module start quantity isIssue = .ok (parent, told) ∧
      PerpV2LeverageModuleV2.formatAdjustments perp module parent.setToken told =
        .ok (equities, debts) := by
  simp only [bind_eq_ok, pure_eq_ok, Prod.mk.injEq] at hcall
  obtain ⟨⟨_, told⟩, htold, _, hformat, rfl, rfl⟩ := hcall
  exact ⟨told, htold, hformat⟩

theorem issuance_announced (hset : Registered perp module world)
    (hguards : GuardsAgree perp module (perpWorld world).toWorld)
    (hquotes : QuotesAgree perp module (perpWorld world).toWorld quantity true)
    {asked ready : DebtIssuanceModule.World (PerpStorage P)}
    (hasked : (perpHooks perp module issuanceModule kind others).getIssuanceAdjustments module
      quantity world = .ok (asked, equities, debts))
    (hhooked : (perpHooks perp module issuanceModule kind others).moduleIssueHook module
      quantity world = .ok ready) : Announces world asked ready equities debts := by
  simp only [perpHooks, if_true, askPerp, throughPerp, getIssuanceAdjustments, bind_eq_ok,
    pure_eq_ok, Prod.mk.injEq] at hasked hhooked
  obtain ⟨⟨_, _⟩, ⟨⟨parent, _⟩, hpreview, rfl, rfl⟩, rfl, rfl⟩ := hasked
  obtain ⟨hooked, hhooked, rfl⟩ := hhooked
  obtain ⟨told, htold, hformat⟩ := previewedUnit_of_adjustments hpreview
  have hwrites : Writes perp module (perpWorld world).toWorld hooked.setToken told := by
    cases kind with
    | leverage =>
        simp only [PerpModule.moduleIssueHook, bind_eq_ok, pure_eq_ok] at hhooked
        obtain ⟨next, hnext, rfl⟩ := hhooked
        exact (PerpV2LeverageModuleV2.replicated_of_issue hnext).writes hset.multiplier hquotes
          htold
    | basisTrading =>
        exact PerpV2BasisTradingModule.moduleIssueHook_writes hset.multiplier hquotes htold
          hhooked
  exact announces_of_writes hset hguards hwrites
    (PerpV2LeverageModuleV2.previewedUnit_setToken htold)
    (fun hnone => (PerpV2LeverageModuleV2.previewedUnit_of_none hnone htold).2) hformat

theorem redemption_announced (hset : Registered perp module world)
    (hguards : GuardsAgree perp module (perpWorld world).toWorld)
    (hquotes : QuotesAgree perp module (perpWorld world).toWorld quantity false)
    {asked ready : DebtIssuanceModule.World (PerpStorage P)}
    (hasked : (perpHooks perp module issuanceModule kind others).getRedemptionAdjustments
      module quantity world = .ok (asked, equities, debts))
    (hhooked : (perpHooks perp module issuanceModule kind others).moduleRedeemHook module
      quantity world = .ok ready) : Announces world asked ready equities debts := by
  simp only [perpHooks, if_true, askPerp, throughPerp, bind_eq_ok, pure_eq_ok,
    Prod.mk.injEq] at hasked hhooked
  obtain ⟨⟨_, _⟩, hpreview, rfl, rfl⟩ := hasked
  obtain ⟨hooked, hhooked, rfl⟩ := hhooked
  cases kind with
  | leverage =>
      simp only [PerpModule.getRedemptionAdjustments, bind_eq_ok, pure_eq_ok,
        Prod.mk.injEq] at hpreview
      obtain ⟨⟨parent, _⟩, hpreview, rfl, rfl⟩ := hpreview
      obtain ⟨told, htold, hformat⟩ := previewedUnit_of_adjustments hpreview
      simp only [PerpModule.moduleRedeemHook, bind_eq_ok, pure_eq_ok] at hhooked
      obtain ⟨next, hnext, rfl⟩ := hhooked
      have hwrites := (PerpV2LeverageModuleV2.replicated_of_redeem hnext).writes hset.multiplier
        hquotes htold
      exact announces_of_writes hset hguards hwrites
        (PerpV2LeverageModuleV2.previewedUnit_setToken htold)
        (fun hnone => (PerpV2LeverageModuleV2.previewedUnit_of_none hnone htold).2) hformat
  | basisTrading =>
      simp only [PerpModule.getRedemptionAdjustments,
        PerpV2BasisTradingModule.getRedemptionAdjustments, bind_eq_ok, pure_eq_ok,
        Prod.mk.injEq] at hpreview
      obtain ⟨⟨parent, told⟩, htold, _, hformat, rfl, rfl⟩ := hpreview
      have hwrites := PerpV2BasisTradingModule.moduleRedeemHook_writes hset.multiplier hquotes
        htold hhooked
      exact announces_of_writes hset hguards hwrites
        (PerpV2BasisTradingModule.previewedNetFees_setToken htold)
        (fun hnone => (PerpV2BasisTradingModule.previewedNetFees_of_none hnone htold).2) hformat

/-- The Perp module moves collateral between the SetToken and the vault alone. -/
structure MovesCollateral (perp : Perp P) (world next : PerpV2LeverageModuleV2.World P) :
    Prop where
  address : next.setTokenAddress = world.setTokenAddress
  balance : ∀ account, account ≠ world.setTokenAddress → account ≠ perp.perpVault →
    ∀ token, next.balanceOf token account = world.balanceOf token account

theorem MovesCollateral.of_moveTokens {parent next : PerpV2LeverageModuleV2.World P}
    {source target : Address} {amount : ℕ} {chain : Chain}
    (hmoved : parent.moveTokens perp.collateralToken source target amount = .ok chain)
    (hsource : source = parent.setTokenAddress ∨ source = perp.perpVault)
    (htarget : target = parent.setTokenAddress ∨ target = perp.perpVault)
    (hnext : next.toChain = chain) : MovesCollateral perp parent next := by
  obtain ⟨-, rfl⟩ := Chain.moveTokens_eq_ok.mp hmoved
  constructor
  · rw [hnext]
    rfl
  · intro account haddress hvault token
    rw [hnext]
    have hpayer : account ≠ source := by rcases hsource with rfl | rfl <;> assumption
    have hpayee : account ≠ target := by rcases htarget with rfl | rfl <;> assumption
    by_cases htoken : token = perp.collateralToken
    · rw [htoken, Chain.balanceOf_withLedger_self, Ledger.move_of_ne hpayer hpayee]
      rfl
    · simp [Chain.balanceOf, Chain.withLedger, htoken]

theorem componentIssueHook_moves {parent next : PerpV2LeverageModuleV2.World P}
    {component : Address} {isEquity : Bool}
    (hcall : PerpV2LeverageModuleV2.componentIssueHook perp module parent issuanceModule
      quantity component isEquity = .ok next) : MovesCollateral perp parent next := by
  simp only [PerpV2LeverageModuleV2.componentIssueHook, bind_eq_ok] at hcall
  obtain ⟨_, -, hcall⟩ := hcall
  split at hcall
  · simp only [PerpV2LeverageModuleV2.depositCollateral, PerpAccount.invokeDeposit, bind_eq_ok,
      pure_eq_ok] at hcall
    obtain ⟨_, -, _, -, _, -, _, ⟨_, -, _, -, _, hmoved, rfl⟩, rfl⟩ := hcall
    exact MovesCollateral.of_moveTokens hmoved (Or.inl rfl) (Or.inr rfl) rfl
  · rw [pure_eq_ok] at hcall
    subst hcall
    exact ⟨rfl, fun _ _ _ _ => rfl⟩

theorem componentRedeemHook_moves {parent next : PerpV2LeverageModuleV2.World P}
    {component : Address} {isEquity : Bool}
    (hcall : PerpV2LeverageModuleV2.componentRedeemHook perp module parent issuanceModule
      quantity component isEquity = .ok next) : MovesCollateral perp parent next := by
  simp only [PerpV2LeverageModuleV2.componentRedeemHook, bind_eq_ok] at hcall
  obtain ⟨_, -, hcall⟩ := hcall
  have hidle : MovesCollateral perp parent parent := ⟨rfl, fun _ _ _ _ => rfl⟩
  split at hcall
  · simp only [bind_eq_ok] at hcall
    obtain ⟨_, -, _, -, withdrawn, -, hcall⟩ := hcall
    rw [PerpV2LeverageModuleV2.withdrawCollateral] at hcall
    split at hcall
    · cases hcall
      exact hidle
    · simp only [PerpAccount.invokeWithdraw, bind_eq_ok, pure_eq_ok] at hcall
      obtain ⟨_, ⟨_, -, _, -, _, hmoved, rfl⟩, rfl⟩ := hcall
      exact MovesCollateral.of_moveTokens hmoved (Or.inr rfl) (Or.inl rfl) rfl
  · rw [pure_eq_ok] at hcall
    exact hcall ▸ hidle

/-- Of the hooks of external positions, those of the Perp module leave everybody else's
balances alone. -/
theorem spares_perpHooks {account : Address} (hvault : account ≠ perp.perpVault)
    (hothers : DebtIssuanceModule.Spares others.toHooks account) :
    DebtIssuanceModule.Spares (perpHooks perp module issuanceModule kind others).toHooks
      account := by
  have hmoves : ∀ {quantity component isIssue isEquity world next}, 
      DebtIssuanceModule.componentHook
        (perpHooks perp module issuanceModule kind others).toHooks quantity component isIssue
        isEquity world module = .ok next →
        MovesCollateral perp (perpWorld world).toWorld (perpWorld next).toWorld := by
    intro quantity component isIssue isEquity world next hcall
    cases isIssue with
    | true =>
        simp only [DebtIssuanceModule.componentHook, perpHooks, if_true, throughPerp,
          componentIssueHook, bind_eq_ok, pure_eq_ok] at hcall
        obtain ⟨_, ⟨hooked, hhooked, rfl⟩, rfl⟩ := hcall
        exact componentIssueHook_moves hhooked
    | false =>
        simp only [DebtIssuanceModule.componentHook, perpHooks, if_true, throughPerp,
          componentRedeemHook, Bool.false_eq_true, if_false, bind_eq_ok, pure_eq_ok] at hcall
        obtain ⟨_, ⟨hooked, hhooked, rfl⟩, rfl⟩ := hcall
        exact componentRedeemHook_moves hhooked
  have hother : ∀ {quantity component isIssue isEquity world hook}, hook ≠ module →
      DebtIssuanceModule.componentHook
        (perpHooks perp module issuanceModule kind others).toHooks quantity component isIssue
        isEquity world hook =
      DebtIssuanceModule.componentHook others.toHooks quantity component isIssue isEquity
        world hook := by
    intro quantity component isIssue isEquity world hook hne
    simp only [DebtIssuanceModule.componentHook, perpHooks, hne, if_false]
  constructor
  · intro quantity component isIssue isEquity world hook next hcall
    by_cases hhook : hook = module
    · subst hhook
      exact (hmoves hcall).address
    · rw [hother hhook] at hcall
      exact hothers.address hcall
  · intro quantity component isIssue isEquity world hook next haccount hcall
    by_cases hhook : hook = module
    · subst hhook
      exact (hmoves hcall).balance account haccount hvault
    · rw [hother hhook] at hcall
      exact hothers.balance haccount hcall

/-- While hooks and previews look at the same, the amounts that a preview returns are those
that are then moved, between the SetToken, its caller and the vault. -/
theorem amounts_as_previewed (hset : Registered perp module world) (hidle : Idle others)
    (hguards : GuardsAgree perp module (perpWorld world).toWorld) :
    (AsQuoted perp module issuanceModule world quantity true →
      IssuesAsPreviewed (perpHooks perp module issuanceModule kind others) issuanceModule
        world quantity) ∧
    (AsQuoted perp module issuanceModule world quantity false →
      RedeemsAsPreviewed (perpHooks perp module issuanceModule kind others) issuanceModule
        world quantity) ∧
    ∀ account, account ≠ perp.perpVault → DebtIssuanceModule.Spares others.toHooks account →
      DebtIssuanceModule.Spares (perpHooks perp module issuanceModule kind others).toHooks
        account := by
  have hsame : Idle (perpHooks perp module issuanceModule kind others) := hidle
  refine ⟨?_, ?_, fun _ => spares_perpHooks⟩
  · intro hquotes
    apply issuesAsPreviewed hsame hset.hooks hset.components
    intro fees asked equities debts hooked hfees hasked hhooked
    exact issuance_announced hset hguards (hquotes fees hfees) hasked hhooked
  · intro hquotes
    apply redeemsAsPreviewed hset.hooks hset.components
    intro fees asked equities debts hooked hfees hasked hhooked
    exact redemption_announced hset hguards (hquotes fees hfees) hasked hhooked

/-! ## A share with a position, and one without -/

theorem tradesAsQuoted_flatPerp {quantity supply : ℤ} {isIssue : Bool}
    {quoted current : PerpV2LeverageModuleV2.World PerpV2LeverageModuleV2.FlatAccount}
    {positions : List PositionNotionalInfo} :
    PerpV2LeverageModuleV2.TradesAsQuoted PerpV2LeverageModuleV2.flatPerp module quantity
      supply isIssue quoted current positions := by
  induction positions generalizing current with
  | nil => trivial
  | cons position positions ih =>
      intro actionInfo traded deltaQuote _ hexecuted
      refine ⟨?_, ih⟩
      intro deltaBase simulated hsimulated
      simp only [PerpV2LeverageModuleV2.executeTrade, PerpAccount.executeTrade, bind_eq_ok,
        pure_eq_ok, Prod.mk.injEq, PerpV2LeverageModuleV2.flatPerp] at hexecuted
      simp only [PerpAccount.simulateTrade, bind_eq_ok, Except.ok.injEq, Prod.mk.injEq,
        PerpV2LeverageModuleV2.flatPerp] at hsimulated
      obtain ⟨_, -, -, rfl⟩ := hsimulated
      obtain ⟨⟨_, _, quote⟩, ⟨_, -, ⟨_, _, _⟩, hopened, -, -, rfl⟩, -, rfl⟩ := hexecuted
      split at hopened
      · simp only [Except.ok.injEq, Prod.mk.injEq] at hopened
        exact hopened.2.2
      · cases hopened

/-- The hooks of nobody. -/
def noOthers : HooksV2 (PerpStorage PerpV2LeverageModuleV2.FlatAccount) where
  toHooks := DebtIssuanceModule.passingHooks
  getIssuanceAdjustments _ _ world := .ok (world, [], [])
  getRedemptionAdjustments _ _ world := .ok (world, [], [])

/-- Three shares with a long position, fees of one percent, and funding that was tracked. -/
def openWorld : DebtIssuanceModule.World
    (PerpStorage PerpV2LeverageModuleV2.FlatAccount) where
  toChain := { PerpV2LeverageModuleV2.flatWorld.toChain with
    balances := fun token holder =>
      if token = 9 ∧ holder = 30 then 3000000000000000000
      else if token = 10 ∧ (holder = 20 ∨ holder = 30) then 1000000
      else 0 }
  issuanceSettings := { DebtIssuanceModule.noSettings with
    managerIssueFee := 10000000000000000
    managerRedeemFee := 10000000000000000
    feeRecipient := 7
    moduleIssuanceHooks := [5] }
  environment := {
    protocol := PerpV2LeverageModuleV2.flatWorld.protocol
    fundingEvents := []
    positions := [11]
    maxPerpPositionsPerSet := 2
    feeSettings := ⟨7, 100000000000000000, 100000000000000000⟩
    settledFunding := 300000000000000000 }

/-- The same shares before any position was opened. -/
def closedWorld : DebtIssuanceModule.World
    (PerpStorage PerpV2LeverageModuleV2.FlatAccount) :=
  { openWorld with
    environment := { openWorld.environment with
      protocol := ⟨1000000, 0, 0⟩
      positions := [] } }

theorem registered_openWorld :
    Registered PerpV2LeverageModuleV2.flatPerp 5 openWorld where
  hooks := rfl
  supply := by decide
  multiplier := rfl
  components := by decide
  modules := by decide

theorem spares_noOthers (account : Address) :
    DebtIssuanceModule.Spares noOthers.toHooks account := by
  constructor
  · intro quantity component isIssue isEquity world hook next hcall
    cases isIssue <;> cases hcall <;> rfl
  · intro quantity component isIssue isEquity world hook next _ hcall
    cases isIssue <;> cases hcall <;> exact fun _ => rfl

theorem idle_noOthers : Idle noOthers := by
  intro hook quantity caller target world next hcall
  cases hcall
  rfl

/-- An issuer brings the 336667 units of collateral that are previewed, and a redeemer is
paid 320099, less a part of the funding. -/
theorem amounts_as_previewed_openWorld :
    (∃ asked quote ready fees pulled,
      getRequiredComponentIssuanceUnitsOffChain
          (perpHooks PerpV2LeverageModuleV2.flatPerp 5 6 .basisTrading noOthers) 6 openWorld
          1000000000000000000 = .ok (asked, quote) ∧
        quote.map DebtIssuanceModule.ComponentUnits.equity = [336667] ∧
        prepareForIssue
          (perpHooks PerpV2LeverageModuleV2.flatPerp 5 6 .basisTrading noOthers) 6 openWorld
          30 1000000000000000000 [10] [1000000] 31 = .ok (ready, ⟨fees, quote⟩) ∧
        pullEquity (perpHooks PerpV2LeverageModuleV2.flatPerp 5 6 .basisTrading noOthers) 6
          ready 30 31 ⟨fees, quote⟩ = .ok pulled ∧
        ∀ units ∈ quote, DebtIssuanceModule.accountBalance 30 ready units.component =
          DebtIssuanceModule.accountBalance 30 pulled units.component + units.equity) ∧
    ∃ asked quote ready fees,
      getRequiredComponentRedemptionUnitsOffChain
          (perpHooks PerpV2LeverageModuleV2.flatPerp 5 6 .basisTrading noOthers) 6 openWorld
          1000000000000000000 = .ok (asked, quote) ∧
        quote.map DebtIssuanceModule.ComponentUnits.equity = [320099] ∧
        prepareForRedeem
          (perpHooks PerpV2LeverageModuleV2.flatPerp 5 6 .basisTrading noOthers) 6 openWorld
          30 1000000000000000000 [10] [1] = .ok (ready, ⟨fees, quote⟩) := by
  have hpreviews := @amounts_as_previewed PerpV2LeverageModuleV2.FlatAccount
    PerpV2LeverageModuleV2.flatPerp 5 6 .basisTrading noOthers 1000000000000000000 openWorld
    registered_openWorld idle_noOthers
    (fun _ => Or.inl ⟨by decide, by decide, Or.inl (by decide)⟩)
  constructor
  · obtain ⟨⟨asked, quote⟩, hquote, hamounts⟩ := returns_iff.mp (by decide +kernel :
      Returns (getRequiredComponentIssuanceUnitsOffChain
        (perpHooks PerpV2LeverageModuleV2.flatPerp 5 6 .basisTrading noOthers) 6 openWorld
        1000000000000000000) fun result =>
          result.2.map DebtIssuanceModule.ComponentUnits.equity = [336667])
    obtain ⟨next, hissued, -⟩ := returns_iff.mp (by decide +kernel :
      Returns (issueWithSlippage
        (perpHooks PerpV2LeverageModuleV2.flatPerp 5 6 .basisTrading noOthers) 6 openWorld 30
        1000000000000000000 [10] [1000000] 31) fun _ => True)
    obtain ⟨ready, fees, pulled, _, hprepared, -, hpulled, -, hmoves⟩ :=
      hpreviews.1 (fun _ _ _ _ => tradesAsQuoted_flatPerp) _ _ _ _ _ _ _ hquote hissued
    have hspares := hpreviews.2.2 30 (by decide) (spares_noOthers 30)
    exact ⟨asked, quote, ready, fees, pulled, hquote, hamounts, hprepared, hpulled,
      fun units hunits => (hmoves hspares units hunits).1⟩
  · obtain ⟨⟨asked, quote⟩, hquote, hamounts⟩ := returns_iff.mp (by decide +kernel :
      Returns (getRequiredComponentRedemptionUnitsOffChain
        (perpHooks PerpV2LeverageModuleV2.flatPerp 5 6 .basisTrading noOthers) 6 openWorld
        1000000000000000000) fun result =>
          result.2.map DebtIssuanceModule.ComponentUnits.equity = [320099])
    obtain ⟨next, hredeemed, -⟩ := returns_iff.mp (by decide +kernel :
      Returns (redeemWithSlippage
        (perpHooks PerpV2LeverageModuleV2.flatPerp 5 6 .basisTrading noOthers) 6 openWorld 30
        1000000000000000000 [10] [1] 31) fun _ => True)
    obtain ⟨ready, fees, _, _, hprepared, -⟩ :=
      hpreviews.2.1 (fun _ _ _ _ => tradesAsQuoted_flatPerp) _ _ _ _ _ _ _ hquote hredeemed
    exact ⟨asked, quote, ready, fees, hquote, hamounts, hprepared⟩

/-- While no position is open, an issuer is told to bring nothing, and brings 336667 units
of collateral. -/
theorem issuance_previewed_at_nothing :
    ¬∀ (world : DebtIssuanceModule.World
          (PerpStorage PerpV2LeverageModuleV2.FlatAccount)) (quantity : ℕ),
      Registered PerpV2LeverageModuleV2.flatPerp 5 world →
      AsQuoted PerpV2LeverageModuleV2.flatPerp 5 6 world quantity true →
      AsQuoted PerpV2LeverageModuleV2.flatPerp 5 6 world quantity false →
        IssuesAsPreviewed
            (perpHooks PerpV2LeverageModuleV2.flatPerp 5 6 .leverage noOthers) 6 world
            quantity ∧
          RedeemsAsPreviewed
            (perpHooks PerpV2LeverageModuleV2.flatPerp 5 6 .leverage noOthers) 6 world
            quantity := by
  intro hclaim
  have hpreviews := hclaim closedWorld 1000000000000000000
    ⟨rfl, by decide, rfl, by decide, by decide⟩ (fun _ _ _ _ => tradesAsQuoted_flatPerp)
    (fun _ _ _ _ => tradesAsQuoted_flatPerp)
  obtain ⟨⟨asked, quote⟩, hquote, htold⟩ := returns_iff.mp (by decide +kernel :
    Returns (getRequiredComponentIssuanceUnitsOffChain
      (perpHooks PerpV2LeverageModuleV2.flatPerp 5 6 .leverage noOthers) 6 closedWorld
      1000000000000000000) fun result =>
        result.2.map DebtIssuanceModule.ComponentUnits.equity = [0])
  obtain ⟨next, hissued, -⟩ := returns_iff.mp (by decide +kernel :
    Returns (issueWithSlippage
      (perpHooks PerpV2LeverageModuleV2.flatPerp 5 6 .leverage noOthers) 6 closedWorld 30
      1000000000000000000 [10] [1000000] 31) fun _ => True)
  obtain ⟨ready, fees, _, _, hprepared, -⟩ := hpreviews.1 _ _ _ _ _ _ _ hquote hissued
  obtain ⟨result, hresult, hcharged⟩ := returns_iff.mp (by decide +kernel :
    Returns (prepareForIssue
      (perpHooks PerpV2LeverageModuleV2.flatPerp 5 6 .leverage noOthers) 6 closedWorld 30
      1000000000000000000 [10] [1000000] 31) fun result =>
        result.2.components.map DebtIssuanceModule.ComponentUnits.equity = [336667])
  rw [hprepared, Except.ok.injEq] at hresult
  rw [← hresult] at hcharged
  exact absurd (htold.symm.trans hcharged) (by decide)

end SetProtocol.PerpPreviews
