import SetProtocol.Modules.PerpV2LeverageModuleV2
import SetProtocol.Core.UnitRoundTrip

/-!
# What issuers pay for the account value they create

The hooks of the module turn an account value into a unit of the collateral, and the unit
back into a quantity.  A unit is rounded up for issuers, but then cut down to the decimals
of the collateral and again when it is stored, and whatever is lost is lost once for each
share.  Redeemers are paid by the same steps, all of which round down.
-/

namespace SetProtocol.PerpV2LeverageModuleV2

open Transaction PreciseUnitMath UnitConversionUtils Rounding

variable {P : Type}

/-- The account value that a quantity of shares is given, before it becomes a unit. -/
def valueOfPositionTrades (perp : Perp P) (module : Address) (world : World P)
    (setTokenQuantity : ℕ) (isIssue isSimulation : Bool) : Outcome (World P × ℤ) := do
  let synced ← syncPositionList perp world
  let setTokenQuantityInt ← SafeCast.toInt256 setTokenQuantity
  let partialUnit ← calculatePartialAccountValuePositionUnit perp synced
  let accountValueIssued ← preciseMulInt partialUnit setTokenQuantityInt
  let positionInfo := synced.getPositionNotionalInfo perp synced.positions
  let totalSupply ← SafeCast.toInt256 synced.setToken.totalSupply
  positionInfo.foldlM
    (replicatePosition perp module setTokenQuantityInt totalSupply isIssue isSimulation)
    (synced, accountValueIssued)

/-- What issuers have the SetToken deposit, for the unit that is stored. -/
def usdcTransferIn (perp : Perp P) (module : Address) (world : World P)
    (setTokenQuantity : ℕ) : Outcome ℕ := do
  let externalPositionUnit ←
    world.setToken.getExternalPositionRealUnit perp.collateralToken module
  let unit ← SafeCast.toUint256 externalPositionUnit
  preciseMulCeil setTokenQuantity unit

/-- What redeemers have the SetToken withdraw. -/
def usdcTransferOut (perp : Perp P) (module : Address) (world : World P)
    (setTokenQuantity : ℕ) : Outcome ℕ := do
  let externalPositionUnit ←
    world.setToken.getExternalPositionRealUnit perp.collateralToken module
  let unit ← SafeCast.toUint256 externalPositionUnit
  preciseMul setTokenQuantity unit

/-- The least unit of the collateral that, stored and read back, makes the shares pay for
a value. -/
def payingUnit (multiplier decimals setTokenQuantity value : ℕ) : ℕ :=
  leastReadable preciseUnit multiplier
    ((value ⌈/⌉ decimalScale decimals - 1) * preciseUnit / setTokenQuantity + 1)

/-- The value of one share, rounded up, is enough for the paying unit. -/
def PaysInFull (multiplier decimals setTokenQuantity value : ℕ) : Prop :=
  (payingUnit multiplier decimals setTokenQuantity value * decimalScale decimals - 1) *
    setTokenQuantity < value * preciseUnit

instance (multiplier decimals setTokenQuantity value : ℕ) :
    Decidable (PaysInFull multiplier decimals setTokenQuantity value) :=
  inferInstanceAs (Decidable (_ < _))

/-! ## The roundings -/

section Roundings

variable {multiplier decimals setTokenQuantity value : ℕ}

theorem payingUnit_pos (hmultiplier : 0 < multiplier) :
    0 < payingUnit multiplier decimals setTokenQuantity value := by
  rw [payingUnit, leastReadable]
  have hone : 0 < ((value ⌈/⌉ decimalScale decimals - 1) * preciseUnit / setTokenQuantity + 1) *
      preciseUnit := Nat.mul_pos (Nat.succ_pos _) preciseUnit_pos
  rw [lt_ceilDiv_iff preciseUnit_pos, zero_mul]
  refine Nat.mul_pos ?_ hmultiplier
  rwa [lt_ceilDiv_iff hmultiplier, zero_mul]

/-- Each rounding, from the deposit back to the value of a share, becomes a bound on what
was rounded. -/
theorem value_le_deposit_iff (hmultiplier : 0 < multiplier) (hdecimals : decimals ≤ 18)
    (hquantity : 0 < setTokenQuantity) (hvalue : 0 < value) :
    value ≤ (setTokenQuantity * thereAndBack preciseUnit multiplier
          (value * preciseUnit ⌈/⌉ setTokenQuantity / decimalScale decimals) ⌈/⌉ preciseUnit) *
        decimalScale decimals ↔
      PaysInFull multiplier decimals setTokenQuantity value := by
  have hscale := decimalScale_pos hdecimals
  have hwhole : 0 < value ⌈/⌉ decimalScale decimals := by
    rwa [lt_ceilDiv_iff hscale, zero_mul]
  have hunit : 0 < payingUnit multiplier decimals setTokenQuantity value *
      decimalScale decimals := Nat.mul_pos (payingUnit_pos hmultiplier) hscale
  rw [Nat.mul_comm _ (decimalScale decimals), ← ceilDiv_le_iff_le_mul hscale,
    succ_le_ceilDiv_iff preciseUnit_pos hwhole, Nat.mul_comm setTokenQuantity,
    ← Nat.div_lt_iff_lt_mul hquantity, ← Nat.add_one_le_iff,
    le_thereAndBack_iff preciseUnit_pos hmultiplier, Nat.le_div_iff_mul_le hscale,
    PaysInFull, ← succ_le_ceilDiv_iff hquantity hunit, payingUnit]

theorem withdrawal_le_value (hdecimals : decimals ≤ 18) :
    setTokenQuantity * thereAndBack preciseUnit multiplier
        (value * preciseUnit / setTokenQuantity / decimalScale decimals) / preciseUnit *
      decimalScale decimals ≤ value := by
  have hscale := decimalScale_pos hdecimals
  set unit := value * preciseUnit / setTokenQuantity / decimalScale decimals
  have hback := thereAndBack_le preciseUnit_pos multiplier unit
  refine Nat.le_of_mul_le_mul_right ?_ preciseUnit_pos
  calc setTokenQuantity * thereAndBack preciseUnit multiplier unit / preciseUnit *
        decimalScale decimals * preciseUnit
      = setTokenQuantity * thereAndBack preciseUnit multiplier unit / preciseUnit *
          preciseUnit * decimalScale decimals := by ring
    _ ≤ setTokenQuantity * thereAndBack preciseUnit multiplier unit *
          decimalScale decimals := Nat.mul_le_mul_right _ (Nat.div_mul_le_self _ _)
    _ ≤ setTokenQuantity * unit * decimalScale decimals :=
      Nat.mul_le_mul_right _ (Nat.mul_le_mul_left _ hback)
    _ = unit * decimalScale decimals * setTokenQuantity := by ring
    _ ≤ value * preciseUnit / setTokenQuantity * setTokenQuantity :=
      Nat.mul_le_mul_right _ (Nat.div_mul_le_self _ _)
    _ ≤ value * preciseUnit := Nat.div_mul_le_self _ _

/-- Nothing is lost of a collateral with 18 decimals before any fee was collected. -/
theorem paysInFull_of_precise (hvalue : 0 < value) :
    PaysInFull preciseUnit 18 setTokenQuantity value := by
  have hone : decimalScale 18 = 1 := by decide
  rw [PaysInFull, payingUnit, leastReadable_self preciseUnit_pos, hone, ceilDiv_one,
    Nat.mul_one, Nat.add_sub_cancel]
  calc (value - 1) * preciseUnit / setTokenQuantity * setTokenQuantity
      ≤ (value - 1) * preciseUnit := Nat.div_mul_le_self _ _
    _ < value * preciseUnit :=
      Nat.mul_lt_mul_of_pos_right (Nat.sub_lt hvalue Nat.one_pos) preciseUnit_pos

end Roundings

/-! ## The unit that the hooks store -/

variable {perp : Perp P} {module : Address} {world next : World P}
variable {setTokenQuantity value : ℕ} {isIssue isSimulation : Bool}

/-- The trades do not touch the shares. -/
theorem valueOfPositionTrades_setToken {accountValueIssued : ℤ}
    (hcall : valueOfPositionTrades perp module world setTokenQuantity isIssue isSimulation =
      .ok (next, accountValueIssued)) : next.setToken = world.setToken := by
  simp only [valueOfPositionTrades, bind_eq_ok] at hcall
  obtain ⟨synced, hsynced, _, -, _, -, issued, -, _, -, htraded⟩ := hcall
  let sameShares : World P × ℤ → Prop := fun progress =>
    progress.1.setToken = world.setToken
  have hstart : sameShares (synced, issued) := by
    change synced.setToken = world.setToken
    rw [(syncPositionList_eq_ok hsynced).1]
    rfl
  have hsame : sameShares (next, accountValueIssued) := by
    refine foldlM_preserves ?_ hstart htraded
    intro position _ progress result hprogress hturn
    have hchain := (replicatePosition_frame hturn).1
    exact (congrArg Chain.setToken hchain).trans hprogress
  exact hsame

theorem executePositionTrades_eq_ok {unit : ℤ}
    (hcall : executePositionTrades perp module world setTokenQuantity isIssue isSimulation =
      .ok (next, unit)) :
    ∃ accountValueIssued,
      valueOfPositionTrades perp module world setTokenQuantity isIssue isSimulation =
        .ok (next, accountValueIssued) ∧
      accountValueUnit perp accountValueIssued setTokenQuantity isIssue = .ok unit := by
  simp only [executePositionTrades, bind_eq_ok, SafeCast.toInt256_eq_ok, pure_eq_ok,
    Prod.mk.injEq] at hcall
  obtain ⟨synced, hsynced, _, ⟨hfits, rfl⟩, partialUnit, hpartial, _, hissued, _, hsupply,
    ⟨traded, accountValueIssued⟩, htraded, _, hunit, rfl, rfl⟩ := hcall
  refine ⟨accountValueIssued, ?_, hunit⟩
  simp only [valueOfPositionTrades, bind_eq_ok, SafeCast.toInt256_eq_ok]
  exact ⟨synced, hsynced, _, ⟨hfits, rfl⟩, partialUnit, hpartial, _, hissued, _, hsupply,
    htraded⟩


/-- The unit before it is stored. -/
def unitOfValue (decimals setTokenQuantity value : ℕ) (isIssue : Bool) : ℕ :=
  (if isIssue = true then value * preciseUnit ⌈/⌉ setTokenQuantity
    else value * preciseUnit / setTokenQuantity) / decimalScale decimals

theorem accountValueUnit_eq_ok {unit : ℤ} (hvalue : 0 < value)
    (hcall : accountValueUnit perp value setTokenQuantity isIssue = .ok unit) :
    0 < setTokenQuantity ∧
      unit = unitOfValue perp.collateralDecimals setTokenQuantity value isIssue := by
  have hpositive : ¬(value : ℤ) ≤ 0 := by omega
  simp only [accountValueUnit, hpositive, if_false, bind_eq_ok] at hcall
  obtain ⟨precise, hprecise, hunit⟩ := hcall
  cases isIssue with
  | true =>
      obtain ⟨hquantity, rfl⟩ := preciseDivCeilInt_eq_ok_of_nonneg hprecise
      exact ⟨hquantity, fromPreciseUnitToDecimalsInt_of_nat hunit⟩
  | false =>
      obtain ⟨hquantity, rfl⟩ := preciseDivInt_eq_ok_of_nonneg (Nat.cast_nonneg value)
        (Nat.cast_nonneg setTokenQuantity) hprecise
      rw [← cast_preciseUnit, ← Nat.cast_mul, ← Int.natCast_ediv] at hunit
      exact ⟨Nat.cast_pos.mp hquantity, fromPreciseUnitToDecimalsInt_of_nat hunit⟩

/-- Storing a unit, and reading it. -/
theorem editCollateralUnit_reads {unit : ℕ} {back : ℤ}
    (hmultiplier : 0 < world.setToken.positionMultiplier)
    (hcall : editCollateralUnit perp module world unit = .ok next)
    (hread : next.setToken.getExternalPositionRealUnit perp.collateralToken module =
      .ok back) :
    back = thereAndBack preciseUnit world.setToken.positionMultiplier.toNat unit := by
  simp only [editCollateralUnit, bind_eq_ok, pure_eq_ok] at hcall
  obtain ⟨edited, hedited, rfl⟩ := hcall
  obtain ⟨-, virtualUnit, hvirtual, rfl⟩ := SetToken.editExternalPositionUnit_eq_ok.mp hedited
  obtain ⟨rfl, -, -⟩ := SetToken.convertRealToVirtualUnit_sign hmultiplier hvirtual
  obtain ⟨-, rfl⟩ := SetToken.convertVirtualToRealUnit_eq_ok.mp hread
  rw [← SetToken.unitBack_natCast hmultiplier]
  simp [World.withChain, World.withAccount, PerpAccount.withChain, Chain.withSetToken,
    SetToken.externalPositionVirtualUnit, SetToken.withExternalPosition,
    SetToken.withPosition, SetToken.unitBack, SetToken.virtualUnitOf]

/-- What happens between the hooks of a module and of a component leaves the multiplier and
the stored unit of the collateral. -/
structure KeepsCollateralUnit (perp : Perp P) (module : Address) (hooked between : World P) :
    Prop where
  positionMultiplier : between.setToken.positionMultiplier =
    hooked.setToken.positionMultiplier
  virtualUnit : between.setToken.externalPositionVirtualUnit perp.collateralToken module =
    hooked.setToken.externalPositionVirtualUnit perp.collateralToken module

theorem KeepsCollateralUnit.reads {hooked between : World P}
    (hkeeps : KeepsCollateralUnit perp module hooked between) :
    between.setToken.getExternalPositionRealUnit perp.collateralToken module =
      hooked.setToken.getExternalPositionRealUnit perp.collateralToken module := by
  rw [SetToken.getExternalPositionRealUnit, SetToken.getExternalPositionRealUnit,
    SetToken.convertVirtualToRealUnit, SetToken.convertVirtualToRealUnit,
    hkeeps.positionMultiplier, hkeeps.virtualUnit]

/-- What both hooks of the module store for the account value. -/
theorem storedUnit_of_hook {traded hooked between : World P} {back : ℤ}
    (hmultiplier : 0 < world.setToken.positionMultiplier) (hvalue : 0 < value)
    (hreplicates : replicates perp world)
    (htrades : valueOfPositionTrades perp module world setTokenQuantity isIssue false =
      .ok (traded, value))
    (hhook : Replicated perp module world setTokenQuantity isIssue hooked)
    (hkeeps : KeepsCollateralUnit perp module hooked between)
    (hread : between.setToken.getExternalPositionRealUnit perp.collateralToken module =
      .ok back) :
    0 < setTokenQuantity ∧
      back = thereAndBack preciseUnit world.setToken.positionMultiplier.toNat
        (unitOfValue perp.collateralDecimals setTokenQuantity value isIssue) := by
  cases hhook with
  | idle hidle => exact absurd hreplicates hidle
  | traded _ hexecuted hedited =>
      obtain ⟨issued, hissued, hunit⟩ := executePositionTrades_eq_ok hexecuted
      rw [htrades, Except.ok.injEq, Prod.mk.injEq] at hissued
      obtain ⟨rfl, rfl⟩ := hissued
      obtain ⟨hquantity, rfl⟩ := accountValueUnit_eq_ok hvalue hunit
      have hshares := valueOfPositionTrades_setToken htrades
      rw [← hshares] at hmultiplier ⊢
      rw [hkeeps.reads] at hread
      exact ⟨hquantity, editCollateralUnit_reads hmultiplier hedited hread⟩

theorem componentIssueHook_eq_ok {sender : Address}
    (hcall : componentIssueHook perp module world sender setTokenQuantity
      perp.collateralToken true = .ok next) :
    ∃ deposited, usdcTransferIn perp module world setTokenQuantity = .ok deposited ∧
      depositCollateral perp module world deposited = .ok next := by
  simp only [componentIssueHook, if_true, bind_eq_ok] at hcall
  obtain ⟨_, -, back, hread, unit, hcast, deposited, hdeposited, hcall⟩ := hcall
  refine ⟨deposited, ?_, hcall⟩
  rw [usdcTransferIn, hread, ok_bind, hcast, ok_bind, hdeposited]

theorem componentRedeemHook_eq_ok {sender : Address}
    (hcall : componentRedeemHook perp module world sender setTokenQuantity
      perp.collateralToken true = .ok next) :
    ∃ withdrawn, usdcTransferOut perp module world setTokenQuantity = .ok withdrawn ∧
      withdrawCollateral perp module world withdrawn = .ok next := by
  simp only [componentRedeemHook, if_true, bind_eq_ok] at hcall
  obtain ⟨_, -, back, hread, unit, hcast, withdrawn, hwithdrawn, hcall⟩ := hcall
  refine ⟨withdrawn, ?_, hcall⟩
  rw [usdcTransferOut, hread, ok_bind, hcast, ok_bind, hwithdrawn]

/-- Issuers pay at least the account value that they create exactly if the paying unit is
reached; redeemers never receive more than they remove. -/
theorem collateral_of_accountValue
    (hmultiplier : 0 < world.setToken.positionMultiplier)
    (hdecimals : perp.collateralDecimals ≤ 18) (hvalue : 0 < value)
    (hreplicates : replicates perp world) :
    (∀ traded hooked between final sender caller,
      valueOfPositionTrades perp module world setTokenQuantity true false =
        .ok (traded, value) →
      moduleIssueHook perp module world sender setTokenQuantity = .ok hooked →
      KeepsCollateralUnit perp module hooked between →
      componentIssueHook perp module between caller setTokenQuantity perp.collateralToken
        true = .ok final →
        ∃ deposited,
          usdcTransferIn perp module between setTokenQuantity = .ok deposited ∧
          depositCollateral perp module between deposited = .ok final ∧
          (value ≤ deposited * 10 ^ (18 - perp.collateralDecimals) ↔
            PaysInFull world.setToken.positionMultiplier.toNat perp.collateralDecimals
              setTokenQuantity value)) ∧
    ∀ traded hooked between final sender caller,
      valueOfPositionTrades perp module world setTokenQuantity false false =
        .ok (traded, value) →
      moduleRedeemHook perp module world sender setTokenQuantity = .ok hooked →
      KeepsCollateralUnit perp module hooked between →
      componentRedeemHook perp module between caller setTokenQuantity perp.collateralToken
        true = .ok final →
        ∃ withdrawn,
          usdcTransferOut perp module between setTokenQuantity = .ok withdrawn ∧
          withdrawCollateral perp module between withdrawn = .ok final ∧
          withdrawn * 10 ^ (18 - perp.collateralDecimals) ≤ value := by
  have hscale : 10 ^ (18 - perp.collateralDecimals) =
      decimalScale perp.collateralDecimals := by rw [decimalScale, if_pos hdecimals]
  have hfactor : 0 < world.setToken.positionMultiplier.toNat := by omega
  rw [hscale]
  constructor
  · intro traded hooked between final sender caller htrades hhook hkeeps hissued
    obtain ⟨deposited, hamount, hdeposited⟩ := componentIssueHook_eq_ok hissued
    refine ⟨deposited, hamount, hdeposited, ?_⟩
    simp only [usdcTransferIn, bind_eq_ok, SafeCast.toUint256_eq_ok, preciseMulCeil_eq_ok]
      at hamount
    obtain ⟨back, hread, stored, hcast, -, rfl⟩ := hamount
    obtain ⟨hquantity, hback⟩ := storedUnit_of_hook hmultiplier hvalue hreplicates htrades
      (replicated_of_issue hhook) hkeeps hread
    rw [hcast, Nat.cast_inj] at hback
    rw [hback, unitOfValue, if_pos rfl]
    exact value_le_deposit_iff hfactor hdecimals hquantity hvalue
  · intro traded hooked between final sender caller htrades hhook hkeeps hredeemed
    obtain ⟨withdrawn, hamount, hwithdrawn⟩ := componentRedeemHook_eq_ok hredeemed
    refine ⟨withdrawn, hamount, hwithdrawn, ?_⟩
    simp only [usdcTransferOut, bind_eq_ok, SafeCast.toUint256_eq_ok, preciseMul_eq_ok]
      at hamount
    obtain ⟨back, hread, stored, hcast, -, rfl⟩ := hamount
    obtain ⟨hquantity, hback⟩ := storedUnit_of_hook hmultiplier hvalue hreplicates htrades
      (replicated_of_redeem hhook) hkeeps hread
    rw [hcast, Nat.cast_inj] at hback
    rw [hback, unitOfValue, if_neg Bool.false_ne_true]
    exact withdrawal_le_value hdecimals

/-- One base token that trades at ten quote, without slippage. -/
structure FlatAccount where
  collateral : ℤ
  base : ℤ
  quote : ℤ

def flatPerp : Perp FlatAccount where
  collateralToken := 10
  collateralDecimals := 6
  perpVault := 20
  getBase token account := if token = 11 then account.base else 0
  getQuote token account := if token = 11 then account.quote else 0
  owedRealizedPnl _ := 0
  getAllPendingFundingPayment _ := 0
  getBalance := FlatAccount.collateral
  hasPool token _ := token == 11
  deposit amount account := .ok { account with collateral := account.collateral + amount }
  withdraw amount account := .ok { account with collateral := account.collateral - amount }
  openPosition params account :=
    let sign : ℤ := if params.isBaseToQuote = true then -1 else 1
    if params.baseToken = 11 then
      .ok ({ account with
          base := account.base + sign * params.amount
          quote := account.quote - sign * (10 * params.amount) },
        params.amount, 10 * params.amount)
    else .error "no pool"
  swap params _ := .ok (params.amount, 10 * params.amount)

/-- Three shares with one dollar in the vault, and a long position of three tenths. -/
def flatWorld : World FlatAccount where
  controller := { Controller.deploy 1 2 with
    isSet := fun setToken => setToken == 9
    isModule := fun module => module == 5 || module == 6 }
  setTokenAddress := 9
  setToken := { SetToken.deploy [] [] [5, 6] 7 with
    modules := [5, 6]
    moduleStates := fun module =>
      if module = 5 ∨ module = 6 then .INITIALIZED else .NONE
    totalSupply := 3000000000000000000
    components := [10]
    componentPositions := fun component => if component = 10
      then ⟨0, [5], fun module =>
          if module = 5 then ⟨333333, []⟩ else SetToken.noExternalPosition⟩
      else SetToken.noPosition }
  balances := fun token holder =>
    if token = 10 ∧ (holder = 9 ∨ holder = 20) then 1000000 else 0
  timestamp := 1
  protocol := ⟨1000000, 300000000000000000, -3000000000000000000⟩
  fundingEvents := []
  positions := [11]
  maxPerpPositionsPerSet := 2

/-- One of the three shares is burnt. -/
def burnShare (world : World FlatAccount) : World FlatAccount :=
  { world with setToken := { world.setToken with totalSupply := 2000000000000000000 } }

/-- One share, to issuers, and to redeemers whose share is burnt between the hooks. -/
theorem collateral_of_accountValue_share :
    (∃ hooked final deposited,
      moduleIssueHook flatPerp 5 flatWorld 6 1000000000000000000 = .ok hooked ∧
      componentIssueHook flatPerp 5 hooked 6 1000000000000000000 10 true = .ok final ∧
      usdcTransferIn flatPerp 5 hooked 1000000000000000000 = .ok deposited ∧
      (333333333333333334 ≤ deposited * 10 ^ 12 ↔
        PaysInFull 1000000000000000000 6 1000000000000000000 333333333333333334)) ∧
    ∃ hooked final withdrawn,
      moduleRedeemHook flatPerp 5 flatWorld 6 1000000000000000000 = .ok hooked ∧
      componentRedeemHook flatPerp 5 (burnShare hooked) 6 1000000000000000000 10 true =
        .ok final ∧
      usdcTransferOut flatPerp 5 (burnShare hooked) 1000000000000000000 = .ok withdrawn ∧
      withdrawn * 10 ^ 12 ≤ 333333333333333334 := by
  have hpays := @collateral_of_accountValue FlatAccount flatPerp 5 flatWorld
    1000000000000000000 333333333333333334 (by decide) (by decide) (by decide)
    (by decide +kernel)
  constructor
  · obtain ⟨traded, htraded, hvalue⟩ := returns_iff.mp (by decide +kernel :
      Returns (valueOfPositionTrades flatPerp 5 flatWorld 1000000000000000000 true false)
        fun result => result.2 = 333333333333333334)
    obtain ⟨hooked, hhooked, hissues⟩ := returns_iff.mp (by decide +kernel :
      Returns (moduleIssueHook flatPerp 5 flatWorld 6 1000000000000000000) fun hooked =>
        Returns (componentIssueHook flatPerp 5 hooked 6 1000000000000000000 10 true)
          fun _ => True)
    obtain ⟨final, hfinal, -⟩ := returns_iff.mp hissues
    obtain ⟨traded, value⟩ := traded
    change value = 333333333333333334 at hvalue
    rw [hvalue] at htraded
    obtain ⟨deposited, hamount, -, hiff⟩ :=
      hpays.1 traded hooked hooked final 6 6 htraded hhooked ⟨rfl, rfl⟩ hfinal
    exact ⟨hooked, final, deposited, hhooked, hfinal, hamount, hiff⟩
  · obtain ⟨traded, htraded, hvalue⟩ := returns_iff.mp (by decide +kernel :
      Returns (valueOfPositionTrades flatPerp 5 flatWorld 1000000000000000000 false false)
        fun result => result.2 = 333333333333333334)
    obtain ⟨hooked, hhooked, hredeems⟩ := returns_iff.mp (by decide +kernel :
      Returns (moduleRedeemHook flatPerp 5 flatWorld 6 1000000000000000000) fun hooked =>
        Returns (componentRedeemHook flatPerp 5 (burnShare hooked) 6 1000000000000000000 10
          true) fun _ => True)
    obtain ⟨final, hfinal, -⟩ := returns_iff.mp hredeems
    obtain ⟨traded, value⟩ := traded
    change value = 333333333333333334 at hvalue
    rw [hvalue] at htraded
    obtain ⟨withdrawn, hamount, -, hle⟩ :=
      hpays.2 traded hooked (burnShare hooked) final 6 6 htraded hhooked ⟨rfl, rfl⟩ hfinal
    exact ⟨hooked, final, withdrawn, hhooked, hfinal, hamount, hle⟩

/-- The issuer of a share deposits a third of a dollar less what falls below its decimals. -/
theorem issuer_underpays :
    ¬∀ (world : World FlatAccount) (setTokenQuantity value : ℕ)
      (traded hooked final : World FlatAccount) (deposited : ℕ),
      0 < world.setToken.positionMultiplier → 0 < value → replicates flatPerp world →
      valueOfPositionTrades flatPerp 5 world setTokenQuantity true false =
        .ok (traded, value) →
      moduleIssueHook flatPerp 5 world 6 setTokenQuantity = .ok hooked →
      componentIssueHook flatPerp 5 hooked 6 setTokenQuantity flatPerp.collateralToken
        true = .ok final →
      usdcTransferIn flatPerp 5 hooked setTokenQuantity = .ok deposited →
      value ≤ deposited * 10 ^ (18 - flatPerp.collateralDecimals) := by
  intro hclaim
  obtain ⟨⟨traded, value⟩, htraded, hvalue⟩ := returns_iff.mp (by decide +kernel :
    Returns (valueOfPositionTrades flatPerp 5 flatWorld 1000000000000000000 true false)
      fun result => result.2 = 333333333333333334)
  obtain ⟨hooked, hhooked, hissues⟩ := returns_iff.mp (by decide +kernel :
    Returns (moduleIssueHook flatPerp 5 flatWorld 6 1000000000000000000) fun hooked =>
      Returns (componentIssueHook flatPerp 5 hooked 6 1000000000000000000 10 true) fun _ =>
        Returns (usdcTransferIn flatPerp 5 hooked 1000000000000000000) fun deposited =>
          deposited = 333333)
  obtain ⟨final, hfinal, hpays⟩ := returns_iff.mp hissues
  obtain ⟨deposited, hdeposited, rfl⟩ := returns_iff.mp hpays
  change value = 333333333333333334 at hvalue
  rw [hvalue] at htraded
  have hpaid := hclaim flatWorld 1000000000000000000 333333333333333334 traded hooked final
    333333 (by decide) (by decide) (by decide +kernel) htraded hhooked hfinal hdeposited
  exact absurd hpaid (by decide)

end SetProtocol.PerpV2LeverageModuleV2
