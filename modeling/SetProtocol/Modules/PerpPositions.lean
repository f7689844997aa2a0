import SetProtocol.Modules.PerpRounding
import SetProtocol.Library.Index

/-!
# The list of Perp positions

Issuance and redemption replicate the listed positions, so that a position that is not
listed is lost to shares.  A trade lists its base token, and a balance of at most one
position unit is taken off the list as dust.  What is dust is decided by the total supply
of that moment, and the list does not come back to it when the supply shrinks.
-/

namespace SetProtocol.PerpV2LeverageModuleV2

open Transaction PreciseUnitMath UnitConversionUtils Index

variable {P : Type}

/-- Perp as the module relies on it: a trade moves the quantity that was asked for, of its
own base token alone, and a withdrawal moves no base token. -/
structure FillsExactly (perp : Perp P) : Prop where
  filled : ∀ params protocol next deltaBase deltaQuote,
    perp.openPosition params protocol = .ok (next, deltaBase, deltaQuote) →
      perp.getBase params.baseToken next = perp.getBase params.baseToken protocol +
        if params.isBaseToQuote = true then -(params.amount : ℤ) else params.amount
  others : ∀ params protocol next deltaBase deltaQuote,
    perp.openPosition params protocol = .ok (next, deltaBase, deltaQuote) →
      ∀ other, other ≠ params.baseToken →
        perp.getBase other next = perp.getBase other protocol
  withdraw : ∀ quantity protocol next, perp.withdraw quantity protocol = .ok next →
    ∀ other, perp.getBase other next = perp.getBase other protocol

/-- The calls that base balances and the supply depend on.  A hook is followed by the mint
or the burn of the issuance module. -/
inductive PositionCall (P : Type)
  | trade (sender baseToken : Address) (baseQuantityUnits : ℤ)
      (quoteBoundQuantityUnits : ℕ)
  | issue (issuanceModule account : Address) (setTokenQuantity : ℕ)
  | redeem (issuanceModule account : Address) (setTokenQuantity : ℕ)
  /-- What Perp stores after a liquidation. -/
  | liquidate (protocol : P)

def performPosition (perp : Perp P) (module : Address) (call : PositionCall P)
    (world : World P) : Outcome (World P) :=
  match call with
  | .trade sender baseToken baseQuantityUnits quoteBoundQuantityUnits =>
      trade perp module world sender baseToken baseQuantityUnits quoteBoundQuantityUnits
  | .issue issuanceModule account setTokenQuantity => do
      let hooked ← moduleIssueHook perp module world issuanceModule setTokenQuantity
      let chain ← hooked.mint issuanceModule account setTokenQuantity
      pure (hooked.withChain chain)
  | .redeem issuanceModule account setTokenQuantity => do
      let hooked ← moduleRedeemHook perp module world issuanceModule setTokenQuantity
      let chain ← hooked.burn issuanceModule account setTokenQuantity
      pure (hooked.withChain chain)
  | .liquidate protocol => .ok { world with protocol := protocol }

/-- Liquidations move balances towards zero. -/
def TowardsZero (perp : Perp P) (call : PositionCall P) (world : World P) : Prop :=
  match call with
  | .liquidate protocol => ∀ baseToken,
      0 ≤ perp.getBase baseToken protocol ∧
          perp.getBase baseToken protocol ≤ perp.getBase baseToken world.protocol ∨
        perp.getBase baseToken world.protocol ≤ perp.getBase baseToken protocol ∧
          perp.getBase baseToken protocol ≤ 0
  | _ => True

/-- More than one position unit, were there this many shares. -/
def ExceedsUnitAt (perp : Perp P) (protocol : P) (totalSupply : ℕ) (baseToken : Address) :
    Prop :=
  1 < (perp.getBase baseToken protocol * preciseUnitInt).tdiv totalSupply ∨
    (perp.getBase baseToken protocol * preciseUnitInt).tdiv totalSupply < -1

instance (perp : Perp P) (protocol : P) (totalSupply : ℕ) (baseToken : Address) :
    Decidable (ExceedsUnitAt perp protocol totalSupply baseToken) :=
  inferInstanceAs (Decidable (_ ∨ _))

/-- No position is forgotten that would be more than dust at this supply. -/
def Complete (perp : Perp P) (totalSupply : ℕ) (world : World P) : Prop :=
  Covers world.positions (ExceedsUnitAt perp world.protocol totalSupply)

/-! ## Dust -/

variable {perp : Perp P} {module : Address} {world next : World P}
variable {totalSupply larger : ℕ} {baseToken : Address} {protocol : P}

theorem exceedsUnitAt_iff (hsupply : 0 < totalSupply) :
    ExceedsUnitAt perp protocol totalSupply baseToken ↔
      2 * totalSupply ≤ (perp.getBase baseToken protocol).natAbs * preciseUnit := by
  have hmagnitude : ((perp.getBase baseToken protocol * preciseUnitInt).tdiv
      totalSupply).natAbs =
        (perp.getBase baseToken protocol).natAbs * preciseUnit / totalSupply := by
    rw [Int.natAbs_tdiv, Int.natAbs_mul, ← cast_preciseUnit, Int.natAbs_natCast,
      Int.natAbs_natCast]
    rfl
  rw [← Nat.le_div_iff_mul_le hsupply, ← hmagnitude, ExceedsUnitAt]
  omega

/-- Dust at some supply is dust at a larger one. -/
theorem ExceedsUnitAt.of_le (hsupply : 0 < totalSupply) (hle : totalSupply ≤ larger)
    (hexceeds : ExceedsUnitAt perp protocol larger baseToken) :
    ExceedsUnitAt perp protocol totalSupply baseToken := by
  rw [exceedsUnitAt_iff (hsupply.trans_le hle)] at hexceeds
  rw [exceedsUnitAt_iff hsupply]
  omega

theorem exceedsUnitAt_congr {other : P}
    (hsame : perp.getBase baseToken other = perp.getBase baseToken protocol) :
    ExceedsUnitAt perp other totalSupply baseToken ↔
      ExceedsUnitAt perp protocol totalSupply baseToken := by
  rw [ExceedsUnitAt, ExceedsUnitAt, hsame]

/-! ## What the calls leave alone -/

theorem executeTrade_bases (hperp : FillsExactly perp) {actionInfo : PerpActionInfo}
    {deltaQuote : ℕ}
    (hcall : executeTrade perp module world actionInfo = .ok (next, deltaQuote)) :
    ∀ other, other ≠ actionInfo.baseToken →
      perp.getBase other next.protocol = perp.getBase other world.protocol := by
  simp only [executeTrade, bind_eq_ok, pure_eq_ok, Prod.mk.injEq] at hcall
  obtain ⟨⟨account, deltaBase, quote⟩, htraded, rfl, -⟩ := hcall
  exact hperp.others _ _ _ _ _ (PerpAccount.executeTrade_eq_ok htraded).1

theorem withdrawCollateral_frame (hperp : FillsExactly perp) {quantity : ℕ}
    (hcall : withdrawCollateral perp module world quantity = .ok next) :
    next.positions = world.positions ∧
      ∀ other, perp.getBase other next.protocol = perp.getBase other world.protocol := by
  rw [withdrawCollateral] at hcall
  split at hcall
  · rw [Except.ok.injEq] at hcall
    subst hcall
    exact ⟨rfl, fun _ => rfl⟩
  · simp only [bind_eq_ok, pure_eq_ok] at hcall
    obtain ⟨account, hwithdrawn, rfl⟩ := hcall
    exact ⟨rfl, hperp.withdraw _ _ _ (PerpAccount.invokeWithdraw_eq_ok hwithdrawn).1⟩

theorem accrueProtocolFee_frame (hperp : FillsExactly perp) {quantity : ℕ}
    (hcall : accrueProtocolFee perp module world quantity = .ok next) :
    next.positions = world.positions ∧ next.setToken = world.setToken ∧
      ∀ other, perp.getBase other next.protocol = perp.getBase other world.protocol := by
  simp only [accrueProtocolFee, bind_eq_ok, pure_eq_ok] at hcall
  obtain ⟨_, -, fee, -, withdrawn, hwithdrawn, chain, hpaid, rfl⟩ := hcall
  obtain ⟨hpositions, hbases⟩ := withdrawCollateral_frame hperp hwithdrawn
  have hkept : chain.setToken = withdrawn.setToken := by
    rw [Chain.payProtocolFeeFromSetToken_eq] at hpaid
    obtain ⟨balances, rfl⟩ := Chain.strictInvokeTransfer_frame hpaid
    rfl
  exact ⟨hpositions, hkept.trans (withdrawCollateral_setToken hwithdrawn), hbases⟩

theorem createAndValidateActionInfo_baseToken {baseQuantityUnits : ℤ} {bound : ℕ}
    {actionInfo : PerpActionInfo}
    (hcall : createAndValidateActionInfo perp world baseToken baseQuantityUnits bound =
      .ok actionInfo) : actionInfo.baseToken = baseToken := by
  simp only [createAndValidateActionInfo, createActionInfoNotional, bind_eq_ok,
    pure_eq_ok] at hcall
  obtain ⟨_, -, _, -, _, -, _, -, _, -, _, -, _, -, _, -, rfl⟩ := hcall
  rfl

/-- A position is traded in its own base token. -/
theorem replicatePosition_bases (hperp : FillsExactly perp)
    {setTokenQuantity supply : ℤ} {isIssue : Bool} {progress result : World P × ℤ}
    {position : PositionNotionalInfo}
    (hcall : replicatePosition perp module setTokenQuantity supply isIssue false
      progress position = .ok result) :
    ∀ other, other ≠ position.baseToken →
      perp.getBase other result.1.protocol = perp.getBase other progress.1.protocol := by
  simp only [replicatePosition, createActionInfoNotional, Bool.false_eq_true, if_false,
    bind_eq_ok, pure_eq_ok] at hcall
  obtain ⟨_, -, _, -, _, -, _, ⟨_, -, rfl⟩, ⟨traded, deltaQuote⟩, htraded, _, -, _, -,
    rfl⟩ := hcall
  exact executeTrade_bases hperp htraded

/-! ## What the calls keep -/

/-- Only balances of listed tokens have changed. -/
structure SameUnlisted (perp : Perp P) (world next : World P) : Prop where
  positions : next.positions = world.positions
  bases : ∀ other ∉ world.positions,
    perp.getBase other next.protocol = perp.getBase other world.protocol

theorem Complete.keep (hcomplete : Complete perp totalSupply world)
    (hpositions : next.positions = world.positions)
    (hbases : ∀ other ∉ world.positions,
      perp.getBase other next.protocol = perp.getBase other world.protocol) :
    Complete perp totalSupply next := by
  rw [Complete, hpositions]
  refine hcomplete.mono fun other hexceeds hnew => ?_
  rwa [exceedsUnitAt_congr (hbases other hnew)] at hexceeds

/-- Pruning drops what is dust now, and dust for a larger supply all the more. -/
theorem syncPositionList_complete (hcomplete : Complete perp larger world)
    (hsupply : 0 < world.setToken.totalSupply)
    (hle : world.setToken.totalSupply ≤ larger)
    (hcall : syncPositionList perp world = .ok next) : Complete perp larger next := by
  obtain ⟨hnext, hperm⟩ := syncPositionList_eq_ok hcall
  have hprotocol : next.protocol = world.protocol := by rw [hnext]; rfl
  rw [Complete, hprotocol]
  apply hcomplete.prune hperm
  intro other hexceeds
  rw [decide_eq_true_eq]
  exact hexceeds.of_le hsupply hle

theorem replicatePositions_sameUnlisted (hperp : FillsExactly perp)
    {setTokenQuantity supply value issued : ℤ} {isIssue : Bool}
    (hcall : (world.getPositionNotionalInfo perp world.positions).foldlM
      (replicatePosition perp module setTokenQuantity supply isIssue false)
      (world, issued) = .ok (next, value)) : SameUnlisted perp world next := by
  let same : World P × ℤ → Prop := fun progress => SameUnlisted perp world progress.1
  have hstart : same (world, issued) := ⟨rfl, fun _ _ => rfl⟩
  have hsame : same (next, value) := by
    refine foldlM_preserves ?_ hstart hcall
    intro position hposition progress result hprogress hturn
    have hpositions := (replicatePosition_frame hturn).2
    refine ⟨hpositions.trans hprogress.positions, fun other hother => ?_⟩
    have hne : other ≠ position.baseToken := by
      rintro rfl
      obtain ⟨baseToken, hmem, rfl⟩ := List.mem_map.mp hposition
      exact hother hmem
    rw [replicatePosition_bases hperp hturn other hne, hprogress.bases other hother]
  exact hsame

theorem executePositionTrades_complete (hperp : FillsExactly perp) {isIssue : Bool}
    {setTokenQuantity : ℕ} {unit : ℤ} (hcomplete : Complete perp larger world)
    (hsupply : 0 < world.setToken.totalSupply)
    (hle : world.setToken.totalSupply ≤ larger)
    (hcall : executePositionTrades perp module world setTokenQuantity isIssue false =
      .ok (next, unit)) : Complete perp larger next := by
  simp only [executePositionTrades, bind_eq_ok, pure_eq_ok, Prod.mk.injEq] at hcall
  obtain ⟨synced, hsynced, _, -, _, -, _, -, _, -, ⟨traded, value⟩, htraded, _, -, rfl,
    -⟩ := hcall
  have hsame := replicatePositions_sameUnlisted hperp htraded
  exact (syncPositionList_complete hcomplete hsupply hle hsynced).keep hsame.positions
    hsame.bases

theorem editCollateralUnit_complete {unit : ℤ} (hcomplete : Complete perp larger world)
    (hcall : editCollateralUnit perp module world unit = .ok next) :
    Complete perp larger next := by
  simp only [editCollateralUnit, bind_eq_ok, pure_eq_ok] at hcall
  obtain ⟨_, -, rfl⟩ := hcall
  exact hcomplete.keep rfl fun _ _ => rfl

theorem Replicated.complete (hperp : FillsExactly perp) {setTokenQuantity : ℕ}
    {isIssue : Bool} (hcomplete : Complete perp larger world)
    (hle : world.setToken.totalSupply ≤ larger)
    (hreplicated : Replicated perp module world setTokenQuantity isIssue next) :
    Complete perp larger next := by
  cases hreplicated with
  | idle hidle => exact hcomplete
  | traded hreplicates htraded hedited =>
      have hsupply := Nat.pos_of_ne_zero hreplicates.1
      exact editCollateralUnit_complete
        (executePositionTrades_complete hperp hcomplete hsupply hle htraded) hedited

/-- The token that was traded is looked at, the others are as before. -/
theorem trade_complete (hperp : FillsExactly perp) {sender : Address} {units : ℤ}
    {bound : ℕ} (hcomplete : Complete perp larger world)
    (hle : world.setToken.totalSupply ≤ larger)
    (hcall : trade perp module world sender baseToken units bound = .ok next) :
    Complete perp larger next := by
  simp only [trade, bind_eq_ok] at hcall
  obtain ⟨_, -, actionInfo, hinfo, ⟨traded, deltaQuote⟩, htraded, charged, hcharged,
    hupdated⟩ := hcall
  obtain ⟨hpositions, hshares, hbases⟩ := accrueProtocolFee_frame hperp hcharged
  obtain ⟨hchain, hsame⟩ := executeTrade_frame htraded
  have hlisted : charged.positions = world.positions := hpositions.trans hsame
  have hsupply : charged.setToken.totalSupply = world.setToken.totalSupply := by
    rw [hshares, hchain]
  have hothers : ∀ other, other ≠ baseToken →
      perp.getBase other charged.protocol = perp.getBase other world.protocol := by
    intro other hother
    rw [hbases, executeTrade_bases hperp htraded other]
    rwa [createAndValidateActionInfo_baseToken hinfo]
  obtain ⟨hnext, hcases⟩ := updatePositionList_eq_ok hupdated
  have hprotocol : next.protocol = charged.protocol := by rw [hnext]; rfl
  rw [Complete, hprotocol]
  have hfewer : ∀ other, other ≠ baseToken →
      ExceedsUnitAt perp charged.protocol larger other →
        ExceedsUnitAt perp world.protocol larger other :=
    fun other hother => (exceedsUnitAt_congr (hothers other hother)).mp
  rcases hcases with ⟨hmem, hkept⟩ | ⟨hpositive, hdust, hperm⟩ | ⟨hnew, hpushed⟩
  · rw [hkept, hlisted]
    refine hcomplete.mono fun other hexceeds hother => hfewer other ?_ hexceeds
    rintro rfl
    exact hother (hlisted ▸ hmem)
  · -- what is dust now is dust at the larger supply
    have hsmall : ¬ExceedsUnitAt perp charged.protocol larger baseToken := fun hexceeds =>
      hdust (hexceeds.of_le hpositive (hsupply.trans_le hle))
    rw [hlisted] at hperm
    refine Covers.remove (hcomplete.mono fun other hexceeds _ => hfewer other ?_ hexceeds)
      hperm hsmall
    rintro rfl
    exact hsmall hexceeds
  · rw [hpushed, hlisted]
    exact hcomplete.push (hlisted ▸ hnew) hfewer

theorem performPosition_complete (hperp : FillsExactly perp) (call : PositionCall P)
    (hcomplete : Complete perp larger world)
    (hle : world.setToken.totalSupply ≤ larger) (hlarger : 0 < larger)
    (hzero : TowardsZero perp call world)
    (hcall : performPosition perp module call world = .ok next) :
    Complete perp larger next := by
  cases call with
  | trade sender baseToken units bound => exact trade_complete hperp hcomplete hle hcall
  | issue issuanceModule account setTokenQuantity =>
      simp only [performPosition, bind_eq_ok, pure_eq_ok] at hcall
      obtain ⟨hooked, hhooked, chain, -, rfl⟩ := hcall
      exact ((replicated_of_issue hhooked).complete hperp hcomplete hle).keep rfl
        fun _ _ => rfl
  | redeem issuanceModule account setTokenQuantity =>
      simp only [performPosition, bind_eq_ok, pure_eq_ok] at hcall
      obtain ⟨hooked, hhooked, chain, -, rfl⟩ := hcall
      exact ((replicated_of_redeem hhooked).complete hperp hcomplete hle).keep rfl
        fun _ _ => rfl
  | liquidate protocol =>
      simp only [performPosition, Except.ok.injEq] at hcall
      subst hcall
      refine hcomplete.mono fun other hexceeds _ => ?_
      rw [exceedsUnitAt_iff hlarger] at hexceeds ⊢
      refine hexceeds.trans (Nat.mul_le_mul_right _ ?_)
      have htowards := hzero other
      change (perp.getBase other protocol).natAbs ≤ (perp.getBase other world.protocol).natAbs
      omega

/-- The largest supply before, between and after the calls. -/
def largestSupply (perp : Perp P) (module : Address) : List (PositionCall P) → World P → ℕ
  | [], world => world.setToken.totalSupply
  | call :: calls, world =>
      max world.setToken.totalSupply
        (largestSupply perp module calls (settle (performPosition perp module call) world))

theorem supply_le_largestSupply (calls : List (PositionCall P)) (world : World P) :
    world.setToken.totalSupply ≤ largestSupply perp module calls world := by
  cases calls with
  | nil => exact le_refl _
  | cons call calls => exact le_max_left _ _

theorem run_complete (hperp : FillsExactly perp) {calls : List (PositionCall P)}
    (hlarger : 0 < larger) (hlargest : largestSupply perp module calls world ≤ larger)
    (hcomplete : Complete perp larger world)
    (hzero : ∀ earlier call, earlier ++ [call] <+: calls →
      TowardsZero perp call (run (performPosition perp module) earlier world)) :
    Complete perp larger (run (performPosition perp module) calls world) := by
  induction calls generalizing world with
  | nil => exact hcomplete
  | cons call calls ih =>
      rw [largestSupply, max_le_iff] at hlargest
      rw [run_cons]
      apply ih hlargest.2
      · cases hcall : performPosition perp module call world with
        | error reason => rwa [settle_of_error hcall]
        | ok next =>
            rw [settle_of_ok hcall]
            have hfirst := hzero [] call (List.prefix_append [call] calls)
            exact performPosition_complete hperp call hcomplete hlargest.1 hlarger hfirst
              hcall
      · intro earlier other hearlier
        have hlater := hzero (call :: earlier) other ((List.prefix_cons_inj call).mpr hearlier)
        rwa [run_cons] at hlater

/-- In every run the list has no duplicates, and has every base token of which there is
more than one position unit at the largest supply so far. -/
theorem positions_complete_of_run (hperp : FillsExactly perp) {start : World P}
    {calls : List (PositionCall P)} (hsupply : 0 < start.setToken.totalSupply)
    (hnodup : start.positions.Nodup)
    (hlisted : ∀ baseToken, ExceedsUnit perp start baseToken → baseToken ∈ start.positions)
    (hzero : ∀ earlier call, earlier ++ [call] <+: calls →
      TowardsZero perp call (run (performPosition perp module) earlier start)) :
    (run (performPosition perp module) calls start).positions.Nodup ∧
      ∀ baseToken,
        ExceedsUnitAt perp (run (performPosition perp module) calls start).protocol
            (largestSupply perp module calls start) baseToken →
          baseToken ∈ (run (performPosition perp module) calls start).positions := by
  have hfirst := @supply_le_largestSupply P perp module calls start
  have hstart : Complete perp (largestSupply perp module calls start) start :=
    ⟨hnodup, fun baseToken hexceeds => hlisted baseToken (hexceeds.of_le hsupply hfirst)⟩
  have hfinal := run_complete hperp (hsupply.trans_le hfirst) (le_refl _) hstart hzero
  exact ⟨hfinal.nodup, hfinal.mem_of_due⟩

theorem flatPerp_openPosition_eq_ok {params : OpenPositionParams} {account next : FlatAccount}
    {deltaBase deltaQuote : ℕ}
    (hcall : flatPerp.openPosition params account = .ok (next, deltaBase, deltaQuote)) :
    params.baseToken = 11 ∧ next.base = account.base +
      if params.isBaseToQuote = true then -(params.amount : ℤ) else params.amount := by
  simp only [flatPerp] at hcall
  split at hcall
  · rename_i hpool
    simp only [Except.ok.injEq, Prod.mk.injEq] at hcall
    obtain ⟨rfl, -, -⟩ := hcall
    refine ⟨hpool, ?_⟩
    split <;> simp
  · cases hcall

theorem fillsExactly_flatPerp : FillsExactly flatPerp where
  filled params account next deltaBase deltaQuote hcall := by
    obtain ⟨hpool, hbase⟩ := flatPerp_openPosition_eq_ok hcall
    simp only [flatPerp, hpool, if_true, hbase]
  others params account next deltaBase deltaQuote hcall other hother := by
    obtain ⟨hpool, -⟩ := flatPerp_openPosition_eq_ok hcall
    rw [hpool] at hother
    simp only [flatPerp, hother, if_false]
  withdraw quantity account next hcall other := by
    simp only [flatPerp, Except.ok.injEq] at hcall
    subst hcall
    rfl

/-- One share without a position. -/
def unusedWorld : World FlatAccount :=
  { flatWorld with
    setToken := { flatWorld.setToken with totalSupply := 1000000000000000000 }
    balances := fun token holder =>
      if token = 9 ∧ holder = 30 then 1000000000000000000
      else flatWorld.balances token holder
    protocol := ⟨1000000, 0, 0⟩
    positions := [] }

/-- A hundred units are bought, all but one are sold, and half of the share is redeemed. -/
def buySellRedeem : List (PositionCall FlatAccount) :=
  [.trade 7 11 100 0, .trade 7 11 (-99) 0, .redeem 6 30 500000000000000000]

theorem not_exceedsUnit_unusedWorld (baseToken : Address) :
    ¬ExceedsUnit flatPerp unusedWorld baseToken := by
  simp [ExceedsUnit, flatPerp, unusedWorld]

theorem noLiquidation_buySellRedeem {calls : List (PositionCall FlatAccount)}
    (hcalls : calls <+: buySellRedeem) (earlier : List (PositionCall FlatAccount))
    (call : PositionCall FlatAccount) (hearlier : earlier ++ [call] <+: calls)
    (world : World FlatAccount) : TowardsZero flatPerp call world := by
  have hmem : call ∈ buySellRedeem :=
    (hearlier.trans hcalls).subset (List.mem_append_right earlier List.mem_cons_self)
  cases call with
  | liquidate protocol => simp [buySellRedeem] at hmem
  | _ => trivial

/-- The position that was bought is listed. -/
theorem positions_complete_of_purchase :
    11 ∈ (run (performPosition flatPerp 5) (buySellRedeem.take 1) unusedWorld).positions := by
  have hcomplete := @positions_complete_of_run FlatAccount flatPerp 5 fillsExactly_flatPerp
    unusedWorld (buySellRedeem.take 1) (by decide) List.nodup_nil
    (fun baseToken hexceeds => absurd hexceeds (not_exceedsUnit_unusedWorld baseToken))
    (fun earlier call hearlier =>
      noLiquidation_buySellRedeem (List.take_prefix 1 _) earlier call hearlier _)
  exact hcomplete.2 11 (by decide +kernel)

/-- One unit is taken off the list as dust, and is two units of what is left after the
redemption. -/
theorem dust_is_forgotten :
    FillsExactly flatPerp ∧ 0 < unusedWorld.setToken.totalSupply ∧
      unusedWorld.positions.Nodup ∧
      (∀ baseToken, ExceedsUnit flatPerp unusedWorld baseToken →
        baseToken ∈ unusedWorld.positions) ∧
      (∀ earlier call, earlier ++ [call] <+: buySellRedeem →
        TowardsZero flatPerp call
          (run (performPosition flatPerp 5) earlier unusedWorld)) ∧
      0 < (run (performPosition flatPerp 5) buySellRedeem unusedWorld).setToken.totalSupply ∧
      ¬∀ baseToken,
        ExceedsUnit flatPerp (run (performPosition flatPerp 5) buySellRedeem unusedWorld)
            baseToken →
          baseToken ∈
            (run (performPosition flatPerp 5) buySellRedeem unusedWorld).positions := by
  refine ⟨fillsExactly_flatPerp, by decide, List.nodup_nil,
    fun baseToken hexceeds => absurd hexceeds (not_exceedsUnit_unusedWorld baseToken),
    fun earlier call hearlier =>
      noLiquidation_buySellRedeem (List.prefix_refl _) earlier call hearlier _,
    by decide +kernel, fun hclaim => ?_⟩
  exact absurd (hclaim 11 (by decide +kernel)) (by decide +kernel)

end SetProtocol.PerpV2LeverageModuleV2
