import SetProtocol.Core.SetTokenCreator
import SetProtocol.Modules.DebtIssuanceModuleV2

/-!
# Issuance quotes

The views of versions 2 and 3 quote the equity by what the SetToken holds instead of by
its position units.  For a backed Set that is never less, and the debt is the same.  The
buffer of version 3 is added without a check, to what is quoted and to what is moved.  A
quoted amount ends far below the last word, so that a few wei never make it wrap around.
-/

namespace SetProtocol.DebtIssuanceModuleV2

open Transaction PreciseUnitMath DebtIssuanceModule

variable {E : Type} {hooks : Hooks E} {world ready collected paid state next : World E}
variable {module sender target component : Address} {quantity buffer : ℕ}
variable {incoming outgoing : ℕ → ℕ}

/-! ## What is quoted -/

/-- The equity unit of a component by the balance. -/
def balanceEquityUnits (chain : Chain) (component : Address) : ℕ :=
  chain.heldBalance component * preciseUnit / chain.setToken.totalSupply +
    Tally.total (chain.setToken.getExternalPositionModules component)
      (chain.setToken.externalEquityUnit component)

theorem totalUnitsFromBalance_eq_ok {chain : Chain} {units : ComponentUnits}
    (hcall : totalIssuanceUnitsFromBalance chain component = .ok units) :
    units = ⟨component, balanceEquityUnits chain component,
      debtUnits chain.setToken component⟩ := by
  simp only [totalIssuanceUnitsFromBalance, Position.getDefaultPositionUnit, bind_eq_ok,
    preciseDiv_eq_ok, SafeCast.toInt256_eq_ok, SignedSafeMath.mul_eq_ok,
    SafeCast.toUint256_eq_ok, pure_eq_ok] at hcall
  obtain ⟨_, ⟨-, -, rfl⟩, _, ⟨-, rfl⟩, ⟨equity, debt⟩, hloop, equityUnit, hequity, _,
    ⟨-, rfl⟩, debtUnit, hdebt, rfl⟩ := hcall
  obtain ⟨hequities, hdebts⟩ := addExternalUnit_foldlM hloop
  change equity = _ + _ at hequities
  change debt = 0 - _ at hdebts
  change equity = _ at hequity
  rw [ComponentUnits.mk.injEq, balanceEquityUnits, debtUnits]
  refine ⟨rfl, ?_, ?_⟩ <;> omega

/-- The quote of version 2: in order, the equity by the balances, the debt by the
units. -/
theorem issuanceQuote_eq_ok {quote : List ComponentUnits}
    (hsupply : 0 < world.setToken.totalSupply)
    (hquote : getRequiredComponentIssuanceUnits module world quantity = .ok quote) :
    ∃ fees, calculateTotalFees module world quantity true = .ok fees ∧
      quote.map ComponentUnits.component = world.setToken.components ∧
      ∀ units ∈ quote,
        units.equity = balanceEquityUnits world.toChain units.component *
          fees.totalQuantity ⌈/⌉ preciseUnit ∧
        units.debt = debtUnits world.setToken units.component * fees.totalQuantity /
          preciseUnit ∧
        units.equity ≤ maxUint256 ⌈/⌉ preciseUnit := by
  simp only [getRequiredComponentIssuanceUnits, bind_eq_ok, if_neg hsupply.ne',
    getTotalIssuanceUnitsFromBalances] at hquote
  obtain ⟨fees, hfees, totals, htotals, hrequired⟩ := hquote
  refine ⟨fees, hfees, ?_, fun units hunits => ?_⟩
  · calc quote.map ComponentUnits.component = totals.map ComponentUnits.component :=
        map_of_mapM_eq_ok ComponentUnits.component ComponentUnits.component
          (fun total _ units hunits => by rw [requiredUnits_eq_ok hunits]) hrequired
      _ = world.setToken.components.map id :=
        map_of_mapM_eq_ok id ComponentUnits.component
          (fun component _ total htotal => by
            rw [totalUnitsFromBalance_eq_ok htotal, id]) htotals
      _ = world.setToken.components := List.map_id _
  · obtain ⟨total, htotal, hcharged⟩ := mem_of_mapM_eq_ok hrequired hunits
    obtain ⟨component, -, htotal⟩ := mem_of_mapM_eq_ok htotals htotal
    have hfits : units.equity ≤ maxUint256 ⌈/⌉ preciseUnit := by
      simp only [requiredIssuanceUnits, if_true, bind_eq_ok, preciseMulCeil_eq_ok,
        pure_eq_ok] at hcharged
      obtain ⟨_, ⟨hfits, rfl⟩, _, -, rfl⟩ := hcharged
      exact (gc_mul_ceilDiv preciseUnit_pos).monotone_l hfits
    obtain rfl := totalUnitsFromBalance_eq_ok htotal
    obtain rfl := requiredUnits_eq_ok hcharged
    exact ⟨notional_issue _ _, notionalDebt_issue _ _, hfits⟩

/-- What is backed holds at least its units. -/
theorem equityUnits_le (hsupply : 0 < world.setToken.totalSupply)
    (hbacked : world.setToken.totalSupply * world.setToken.defaultRealUnit component ≤
      world.heldBalance component * preciseUnit) :
    equityUnits world.setToken component ≤ balanceEquityUnits world.toChain component := by
  refine Nat.add_le_add_right ?_ _
  rw [Nat.le_div_iff_mul_le hsupply, Nat.mul_comm]
  exact hbacked

/-! ## What is moved -/

/-- The hooks of external positions leave the issuer's own balances alone. -/
structure SparesIssuer (hooks : Hooks E) (sender : Address) : Prop where
  address : ∀ hook quantity component isEquity world next,
    hooks.componentIssueHook hook quantity component isEquity world = .ok next →
      next.setTokenAddress = world.setTokenAddress
  balance : ∀ hook quantity component isEquity world next,
    hooks.componentIssueHook hook quantity component isEquity world = .ok next →
      ∀ token, next.balanceOf token sender = world.balanceOf token sender

/-- What the issuer holds of each token. -/
def issuerBalance (sender : Address) (state : World E) (token : Address) : ℕ :=
  state.balanceOf token sender

theorem externalHooks_spare (hspares : SparesIssuer hooks sender) {isEquity : Bool}
    (hcall : executeExternalPositionHooks hooks state quantity component true isEquity =
      .ok next) :
    next.setTokenAddress = state.setTokenAddress ∧
      issuerBalance sender next = issuerBalance sender state := by
  have hstep : ∀ hook ∈ state.setToken.getExternalPositionModules component,
      ∀ before after : World E,
      (before.setTokenAddress = state.setTokenAddress ∧
        issuerBalance sender before = issuerBalance sender state) →
      (if true = true then
        hooks.componentIssueHook hook quantity component isEquity before
      else hooks.componentRedeemHook hook quantity component isEquity before) = .ok after →
      after.setTokenAddress = state.setTokenAddress ∧
        issuerBalance sender after = issuerBalance sender state := by
    rintro hook - before after ⟨hbefore, hsame⟩ hturn
    rw [if_pos rfl] at hturn
    refine ⟨(hspares.address _ _ _ _ _ _ hturn).trans hbefore, ?_⟩
    rw [← hsame]
    funext token
    exact hspares.balance _ _ _ _ _ _ hturn token
  exact foldlM_preserves hstep ⟨rfl, rfl⟩ hcall

/-- What the issuer brings for an equity amount. -/
def broughtIn (incoming : ℕ → ℕ) (equity : ℕ) : ℕ := if 0 < equity then incoming equity else 0

theorem takeEquity_moves {prepared : Prepared}
    (hdistinct : (prepared.components.map ComponentUnits.component).Nodup)
    (hspares : SparesIssuer hooks sender) (hsender : sender ≠ ready.setTokenAddress)
    (hcall : takeEquityForIssue incoming outgoing hooks module ready sender target prepared =
      .ok collected) :
    collected.setTokenAddress = ready.setTokenAddress ∧
      ∀ units ∈ prepared.components,
        issuerBalance sender ready units.component =
          issuerBalance sender collected units.component +
            broughtIn incoming units.equity := by
  obtain ⟨haddress, hmoved, -⟩ := foldlM_keyed ComponentUnits.component (issuerBalance sender)
    (fun state : World E => state.setTokenAddress = ready.setTokenAddress)
    (fun units before after => before = after + broughtIn incoming units.equity)
    (fun units _ state after haddress hturn => by
      unfold resolveEquityPosition at hturn
      by_cases hpositive : 0 < units.equity
      · simp only [hpositive, if_true, bind_eq_ok, Chain.moveTokens_eq_ok] at hturn
        obtain ⟨_, ⟨hfunds, rfl⟩, -, -, hhooks⟩ := hturn
        rw [haddress] at hhooks
        obtain ⟨hafter, hspared⟩ := externalHooks_spare hspares hhooks
        refine ⟨hafter.trans haddress, ?_, fun other hother => ?_⟩
        · rw [hspared, broughtIn, if_pos hpositive]
          change state.balanceOf units.component sender =
            Chain.balanceOf (state.withLedger units.component _) units.component sender + _
          rw [Chain.balanceOf_withLedger_self, Ledger.move_source hsender]
          exact (Nat.sub_add_cancel hfunds).symm
        · rw [hspared]
          simp [issuerBalance, World.withChain, Chain.balanceOf, Chain.withLedger, hother]
      · rw [if_neg hpositive, pure_eq_ok] at hturn
        subst hturn
        exact ⟨haddress, by rw [broughtIn, if_neg hpositive, Nat.add_zero], fun _ _ => rfl⟩)
    hdistinct rfl hcall
  exact ⟨haddress, hmoved⟩

theorem payDebt_moves {prepared : Prepared}
    (hdistinct : (prepared.components.map ComponentUnits.component).Nodup)
    (hspares : SparesIssuer hooks sender) (hsender : sender ≠ collected.setTokenAddress)
    (hcall : payDebtForIssue hooks module collected sender prepared = .ok paid) :
    ∀ units ∈ prepared.components,
      issuerBalance sender paid units.component =
        issuerBalance sender collected units.component + units.debt := by
  obtain ⟨-, hmoved, -⟩ := foldlM_keyed ComponentUnits.component (issuerBalance sender)
    (fun state : World E => state.setTokenAddress = collected.setTokenAddress)
    (fun units before after => after = before + units.debt)
    (fun units _ state after haddress hturn => by
      unfold resolveDebtPosition at hturn
      by_cases hpositive : 0 < units.debt
      · simp only [hpositive, if_true, bind_eq_ok, Chain.invokeTransfer,
          Chain.moveTokens_eq_ok, pure_eq_ok] at hturn
        obtain ⟨hooked, hhooks, _, ⟨_, -, hfunds, rfl⟩, _, -, rfl⟩ := hturn
        obtain ⟨hafter, hspared⟩ := externalHooks_spare hspares hhooks
        have hother : sender ≠ hooked.setTokenAddress := by
          rw [hafter, haddress]
          exact hsender
        refine ⟨hafter.trans haddress, ?_, fun other hne => ?_⟩
        · rw [← hspared]
          change Chain.balanceOf (hooked.withLedger units.component _) units.component sender =
            hooked.balanceOf units.component sender + _
          rw [Chain.balanceOf_withLedger_self]
          exact Ledger.move_target hother.symm
        · rw [← hspared]
          simp [issuerBalance, World.withChain, Chain.balanceOf, Chain.withLedger, hne]
      · rw [if_neg hpositive, pure_eq_ok] at hturn
        subst hturn
        exact ⟨haddress, by omega, fun _ _ => rfl⟩)
    hdistinct rfl hcall
  exact hmoved

/-! ## Quote and call -/

/-- Nothing that the amounts depend on changes between the quote and the call. -/
structure Unsynced (world ready : World E) : Prop where
  setToken : ready.setToken = world.setToken
  controller : ready.controller = world.controller
  issuanceSettings : ready.issuanceSettings = world.issuanceSettings
  setTokenAddress : ready.setTokenAddress = world.setTokenAddress

/-- The issuer brings at most what was quoted of each component, and is paid exactly the
debt that was quoted. -/
def Suffices (sender : Address) (ready collected paid : World E)
    (quote : List ComponentUnits) : Prop :=
  ∀ units ∈ quote,
    issuerBalance sender ready units.component ≤
        issuerBalance sender collected units.component + units.equity ∧
      issuerBalance sender paid units.component =
        issuerBalance sender collected units.component + units.debt

/-- The equity that a call charges for a component, before any buffer. -/
def chargedEquity (world : World E) (totalQuantity : ℕ) (component : Address) : ℕ :=
  equityUnits world.setToken component * totalQuantity ⌈/⌉ preciseUnit

/-- The equity that is quoted for it, before any buffer. -/
def quotedEquity (world : World E) (totalQuantity : ℕ) (component : Address) : ℕ :=
  balanceEquityUnits world.toChain component * totalQuantity ⌈/⌉ preciseUnit

/-- What a call works with. -/
theorem prepareForIssue_eq_ok {prepared : Prepared} (hkept : Bookkept world.setToken)
    (hunsynced : Unsynced world ready)
    (hcall : prepareForIssue hooks module world sender quantity target =
      .ok (ready, prepared)) :
    calculateTotalFees module world quantity true = .ok prepared.fees ∧
      prepared.components.map ComponentUnits.component = world.setToken.components ∧
      ∀ units ∈ prepared.components,
        units.equity =
          chargedEquity world prepared.fees.totalQuantity units.component ∧
        units.debt = debtUnits world.setToken units.component *
          prepared.fees.totalQuantity / preciseUnit := by
  simp only [prepareForIssue, bind_eq_ok, pure_eq_ok, Prod.mk.injEq] at hcall
  obtain ⟨_, -, _, -, hooked, -, state, -, fees, hfees, required, hrequired, final, -, rfl,
    rfl⟩ := hcall
  rw [hunsynced.setToken] at hrequired
  have hfeesSame : calculateTotalFees module world quantity true = .ok fees := by
    rw [← hfees]
    simp only [calculateTotalFees, hunsynced.controller, hunsynced.issuanceSettings]
  obtain ⟨hcomponents, hunits⟩ := requiredComponentUnits_eq_ok hkept hrequired
  refine ⟨hfeesSame, hcomponents, fun units hmem => ?_⟩
  obtain ⟨hequity, hdebt⟩ := hunits units hmem
  rw [notional_issue] at hequity
  rw [notionalDebt_issue] at hdebt
  exact ⟨hequity, hdebt⟩

/-- A quote that adds to the equity of version 2 suffices exactly if what it says of each
component covers what is moved for it. -/
theorem suffices_iff {quote : List ComponentUnits} {prepared : Prepared} {shown : ℕ → ℕ}
    (hkept : Bookkept world.setToken) (hsupply : 0 < world.setToken.totalSupply)
    (hsender : sender ≠ world.setTokenAddress) (hspares : SparesIssuer hooks sender)
    (hunsynced : Unsynced world ready)
    (hquote : getRequiredComponentIssuanceUnits module world quantity = .ok quote)
    (hprepared : prepareForIssue hooks module world sender quantity target =
      .ok (ready, prepared))
    (htaken : takeEquityForIssue incoming outgoing hooks module ready sender target prepared =
      .ok collected)
    (hpaid : payDebtForIssue hooks module collected sender prepared = .ok paid) :
    Suffices sender ready collected paid
        (quote.map fun units => { units with equity := shown units.equity }) ↔
      ∀ component ∈ world.setToken.components,
        broughtIn incoming (chargedEquity world prepared.fees.totalQuantity component) ≤
          shown (quotedEquity world prepared.fees.totalQuantity component) := by
  obtain ⟨hfees, hcomponents, hcharged⟩ := prepareForIssue_eq_ok hkept hunsynced hprepared
  obtain ⟨fees, hfeesQuote, hlisted, hquoted⟩ := issuanceQuote_eq_ok hsupply hquote
  obtain rfl := Except.ok.inj (hfees.symm.trans hfeesQuote)
  have hdistinct : (prepared.components.map ComponentUnits.component).Nodup := by
    rw [hcomponents]
    exact hkept.components.nodup
  have hready : sender ≠ ready.setTokenAddress := by
    rw [hunsynced.setTokenAddress]
    exact hsender
  obtain ⟨haddress, hbrought⟩ := takeEquity_moves hdistinct hspares hready htaken
  have hcollected : sender ≠ collected.setTokenAddress := by
    rw [haddress]
    exact hready
  have hgiven := payDebt_moves hdistinct hspares hcollected hpaid
  -- every quoted component is charged
  have heach : ∀ units ∈ quote, issuerBalance sender ready units.component =
        issuerBalance sender collected units.component + broughtIn incoming
          (chargedEquity world prepared.fees.totalQuantity units.component) ∧
      issuerBalance sender paid units.component =
        issuerBalance sender collected units.component + units.debt := by
    intro units hmem
    have hmemComponent : units.component ∈
        prepared.components.map ComponentUnits.component := by
      rw [hcomponents, ← hlisted]
      exact List.mem_map_of_mem hmem
    obtain ⟨charge, hcharge, hname⟩ := List.mem_map.mp hmemComponent
    obtain ⟨hequity, hdebt⟩ := hcharged charge hcharge
    have hin := hbrought charge hcharge
    have hout := hgiven charge hcharge
    rw [hequity, hname] at hin
    rw [hdebt, hname, ← (hquoted units hmem).2.1] at hout
    exact ⟨hin, hout⟩
  constructor
  · intro hsuffices component hmem
    rw [← hlisted] at hmem
    obtain ⟨units, hunits, rfl⟩ := List.mem_map.mp hmem
    have hcovered := (hsuffices _ (List.mem_map_of_mem hunits)).1
    change issuerBalance sender ready units.component ≤
      issuerBalance sender collected units.component + shown units.equity at hcovered
    rw [(heach units hunits).1, (hquoted units hunits).1] at hcovered
    exact Nat.le_of_add_le_add_left hcovered
  · intro hcovers units hmem
    obtain ⟨plain, hplain, rfl⟩ := List.mem_map.mp hmem
    have hcomponent : plain.component ∈ world.setToken.components :=
      hlisted ▸ List.mem_map_of_mem hplain
    refine ⟨?_, (heach plain hplain).2⟩
    change issuerBalance sender ready plain.component ≤
      issuerBalance sender collected plain.component + shown plain.equity
    rw [(heach plain hplain).1, (hquoted plain hplain).1]
    exact Nat.add_le_add_left (hcovers _ hcomponent) _

/-- What is charged is at most what is quoted, and neither comes near the end of a word. -/
theorem charged_le_quoted {quote : List ComponentUnits} {fees : TotalFees}
    (hsupply : 0 < world.setToken.totalSupply) (hbacked : world.Collateralized)
    (hfees : calculateTotalFees module world quantity true = .ok fees)
    (hquote : getRequiredComponentIssuanceUnits module world quantity = .ok quote)
    (hlisted : component ∈ world.setToken.components) :
    chargedEquity world fees.totalQuantity component ≤
        quotedEquity world fees.totalQuantity component ∧
      quotedEquity world fees.totalQuantity component ≤ maxUint256 ⌈/⌉ preciseUnit := by
  obtain ⟨fees', hfees', hcomponents, hquoted⟩ := issuanceQuote_eq_ok hsupply hquote
  obtain rfl := Except.ok.inj (hfees.symm.trans hfees')
  have hunits := equityUnits_le hsupply (hbacked component hlisted)
  refine ⟨(gc_mul_ceilDiv preciseUnit_pos).monotone_l (Nat.mul_le_mul_right _ hunits), ?_⟩
  rw [← hcomponents] at hlisted
  obtain ⟨units, hmem, rfl⟩ := List.mem_map.mp hlisted
  obtain ⟨hequity, -, hfits⟩ := hquoted units hmem
  rw [quotedEquity, ← hequity]
  exact hfits

end SetProtocol.DebtIssuanceModuleV2

namespace SetProtocol.DebtIssuanceModuleV3

open Transaction PreciseUnitMath DebtIssuanceModule
open DebtIssuanceModuleV2 (Suffices SparesIssuer Unsynced Prepared broughtIn chargedEquity
  quotedEquity prepareForIssue takeEquityForIssue payDebtForIssue)

variable {E : Type} {hooks : Hooks E} {world ready : World E}
variable {module sender target : Address} {quantity buffer : ℕ}

/-- The buffer wraps around in what is quoted, but not in what is moved. -/
def BufferWraps (world : World E) (totalQuantity buffer : ℕ) (component : Address) : Prop :=
  0 < chargedEquity world totalQuantity component ∧
    chargedEquity world totalQuantity component + buffer < 2 ^ 256 ∧
    2 ^ 256 ≤ quotedEquity world totalQuantity component + buffer

/-- The amount shown for an equity amount. -/
def shownEquity (buffer equity : ℕ) : ℕ :=
  if 0 < equity then addUnchecked equity buffer else equity

theorem shownQuote_eq_ok {quote : List ComponentUnits}
    (hquote : getRequiredComponentIssuanceUnits buffer module world quantity = .ok quote) :
    ∃ plain, DebtIssuanceModuleV2.getRequiredComponentIssuanceUnits module world quantity =
        .ok plain ∧
      quote = plain.map fun units =>
        { units with equity := shownEquity buffer units.equity } := by
  simp only [getRequiredComponentIssuanceUnits, bind_eq_ok, pure_eq_ok] at hquote
  obtain ⟨plain, hplain, rfl⟩ := hquote
  refine ⟨plain, hplain, List.map_congr_left fun units _ => ?_⟩
  unfold shownEquity
  split <;> rfl

/-- Added to both, the buffer keeps an amount at most another unless it wraps around in
the larger one only. -/
theorem broughtIn_le_shown_iff {charged shown : ℕ} (hbuffer : buffer ≤ maxUint256)
    (hle : charged ≤ shown) (hshown : shown ≤ maxUint256) :
    broughtIn (fun amount => addUnchecked amount buffer) charged ≤ shownEquity buffer shown ↔
      ¬(0 < charged ∧ charged + buffer < 2 ^ 256 ∧ 2 ^ 256 ≤ shown + buffer) := by
  rw [maxUint256] at hbuffer hshown
  rw [broughtIn, shownEquity, addUnchecked, addUnchecked]
  by_cases hpositive : 0 < charged
  · rw [if_pos hpositive, if_pos (hpositive.trans_le hle)]
    by_cases hcharged : charged + buffer < 2 ^ 256
    · rw [Nat.mod_eq_of_lt hcharged]
      by_cases hfits : shown + buffer < 2 ^ 256
      · rw [Nat.mod_eq_of_lt hfits]
        omega
      · have hwrapped : (shown + buffer) % 2 ^ 256 = shown + buffer - 2 ^ 256 := by
          rw [Nat.mod_eq_sub_mod (not_lt.mp hfits), Nat.mod_eq_of_lt (by omega)]
        rw [hwrapped]
        omega
    · have hfits : 2 ^ 256 ≤ shown + buffer := (not_lt.mp hcharged).trans (by omega)
      rw [Nat.mod_eq_sub_mod (not_lt.mp hcharged), Nat.mod_eq_of_lt (by omega),
        Nat.mod_eq_sub_mod hfits, Nat.mod_eq_of_lt (by omega)]
      omega
  · rw [if_neg hpositive]
    simp [hpositive]

theorem plainQuote_suffices {prepared : Prepared} {quote : List ComponentUnits}
    {collected paid : World E} (hkept : Bookkept world.setToken)
    (hsupply : 0 < world.setToken.totalSupply) (hbacked : world.Collateralized)
    (hsender : sender ≠ world.setTokenAddress) (hspares : SparesIssuer hooks sender)
    (hunsynced : Unsynced world ready)
    (hprepared : prepareForIssue hooks module world sender quantity target =
      .ok (ready, prepared))
    (hquote : DebtIssuanceModuleV2.getRequiredComponentIssuanceUnits module world quantity =
      .ok quote)
    (htaken : takeEquityForIssue id id hooks module ready sender target prepared =
      .ok collected)
    (hpaid : payDebtForIssue hooks module collected sender prepared = .ok paid) :
    Suffices sender ready collected paid quote := by
  obtain ⟨hfees, -⟩ := DebtIssuanceModuleV2.prepareForIssue_eq_ok hkept hunsynced hprepared
  have hplain : (quote.map fun units => { units with equity := id units.equity }) = quote :=
    List.map_id quote
  rw [← hplain, DebtIssuanceModuleV2.suffices_iff hkept hsupply hsender hspares hunsynced hquote
    hprepared htaken hpaid]
  intro component hlisted
  have hle := (DebtIssuanceModuleV2.charged_le_quoted hsupply hbacked hfees hquote hlisted).1
  rw [broughtIn, id_eq, id_eq]
  split
  · exact hle
  · exact Nat.zero_le _

theorem shownQuote_suffices_iff {prepared : Prepared} {quote : List ComponentUnits}
    {collected paid : World E} (hkept : Bookkept world.setToken)
    (hsupply : 0 < world.setToken.totalSupply) (hbacked : world.Collateralized)
    (hsender : sender ≠ world.setTokenAddress) (hspares : SparesIssuer hooks sender)
    (hbuffer : buffer ≤ maxUint256) (hunsynced : Unsynced world ready)
    (hprepared : prepareForIssue hooks module world sender quantity target =
      .ok (ready, prepared))
    (hquote : getRequiredComponentIssuanceUnits buffer module world quantity = .ok quote)
    (htaken : takeEquityForIssue (fun amount => addUnchecked amount buffer)
      (fun amount => subUnchecked amount buffer) hooks module ready sender target prepared =
        .ok collected)
    (hpaid : payDebtForIssue hooks module collected sender prepared = .ok paid) :
    Suffices sender ready collected paid quote ↔
      ∀ component ∈ world.setToken.components,
        ¬BufferWraps world prepared.fees.totalQuantity buffer component := by
  obtain ⟨hfees, -⟩ := DebtIssuanceModuleV2.prepareForIssue_eq_ok hkept hunsynced hprepared
  obtain ⟨plain, hplain, rfl⟩ := shownQuote_eq_ok hquote
  rw [DebtIssuanceModuleV2.suffices_iff hkept hsupply hsender hspares hunsynced hplain hprepared
    htaken hpaid]
  refine forall₂_congr fun component hlisted => ?_
  obtain ⟨hle, hfits⟩ :=
    DebtIssuanceModuleV2.charged_le_quoted hsupply hbacked hfees hplain hlisted
  rw [BufferWraps]
  exact broughtIn_le_shown_iff hbuffer hle (hfits.trans (ceilDiv_le_self _ preciseUnit_pos))

/-- Half a word is more than any buffer, and leaves room for whatever is quoted. -/
theorem not_bufferWraps {quote : List ComponentUnits} {fees : TotalFees} {component : Address}
    (hsupply : 0 < world.setToken.totalSupply) (hbacked : world.Collateralized)
    (hbuffer : buffer ≤ 2 ^ 255) (hfees : calculateTotalFees module world quantity true = .ok fees)
    (hquote : DebtIssuanceModuleV2.getRequiredComponentIssuanceUnits module world quantity =
      .ok quote) (hlisted : component ∈ world.setToken.components) :
    ¬BufferWraps world fees.totalQuantity buffer component := by
  rintro ⟨-, -, hwraps⟩
  have hfits :=
    (DebtIssuanceModuleV2.charged_le_quoted hsupply hbacked hfees hquote hlisted).2
  have hroom : maxUint256 ⌈/⌉ preciseUnit + 2 ^ 255 < 2 ^ 256 := by decide +kernel
  omega

/-- One share of one unit of token 10, with a hundred held, and an issuer with all other
units that a token can have. -/
def surplusWorld : World Unit where
  controller := { Controller.deploy 1 2 with
    isSet := fun setToken => setToken == 9
    isModule := fun module => module == 5 }
  setTokenAddress := 9
  setToken := { SetToken.deploy [10] [1] [5] 7 with
    moduleStates := fun module => if module = 5 then .INITIALIZED else .NONE
    totalSupply := 1000000000000000000 }
  balances := fun token holder =>
    if token = 10 then
      if holder = 9 then 100 else if holder = 3 then maxUint256 - 100 else 0
    else 0
  timestamp := 0
  issuanceSettings := noSettings
  environment := ()

theorem sparesIssuer_passing : SparesIssuer (passingHooks : Hooks Unit) sender where
  address := by rintro _ _ _ _ _ _ ⟨⟩; rfl
  balance := by rintro _ _ _ _ _ _ ⟨⟩ _; rfl

theorem bookkept_surplusWorld : Bookkept surplusWorld.setToken :=
  (SetTokenCreator.bookkept_deploy rfl (by decide) (by decide) :
    Bookkept (SetToken.deploy [10] [1] [5] 7)).of_same_positions rfl rfl rfl

theorem collateralized_surplusWorld : surplusWorld.Collateralized := by
  intro component hcomponent
  rw [List.mem_singleton.mp hcomponent, Backing.Backed]
  decide +kernel

/-- Some bound on the buffer is needed: if it wraps around in the quoted three hundred but not
in the charged three, 196 are quoted and all but a hundred of the token's units taken. -/
theorem quote_wraps_around : ∃ quote ready prepared collected paid,
    getRequiredComponentIssuanceUnits (maxUint256 - 103) 5 surplusWorld
      3000000000000000000 = .ok quote ∧
    prepareForIssue passingHooks 5 surplusWorld 3 3000000000000000000 4 =
      .ok (ready, prepared) ∧
    takeEquityForIssue (fun amount => addUnchecked amount (maxUint256 - 103))
      (fun amount => subUnchecked amount (maxUint256 - 103)) passingHooks 5 ready 3 4
        prepared = .ok collected ∧
    payDebtForIssue passingHooks 5 collected 3 prepared = .ok paid ∧
    ¬Suffices 3 ready collected paid quote := by
  obtain ⟨quote, hquote, hequity, hcomponent⟩ := returns_iff.mp (by decide +kernel :
    Returns (getRequiredComponentIssuanceUnits (maxUint256 - 103) 5 surplusWorld
      3000000000000000000) fun quote => quote.map ComponentUnits.equity = [196] ∧
        quote.map ComponentUnits.component = [10])
  obtain ⟨⟨ready, prepared⟩, hprepared, hrest⟩ := returns_iff.mp (by decide +kernel :
    Returns (prepareForIssue passingHooks 5 surplusWorld 3 3000000000000000000 4)
      fun result => Returns (takeEquityForIssue
        (fun amount => addUnchecked amount (maxUint256 - 103))
        (fun amount => subUnchecked amount (maxUint256 - 103)) passingHooks 5 result.1 3 4
          result.2) fun collected => Returns (payDebtForIssue passingHooks 5 collected 3
            result.2) fun _ => result.1.balanceOf 10 3 = maxUint256 - 100 ∧
              collected.balanceOf 10 3 = 0)
  obtain ⟨collected, hcollected, hrest⟩ := returns_iff.mp hrest
  obtain ⟨paid, hpaid, hbefore, hafter⟩ := returns_iff.mp hrest
  refine ⟨quote, ready, prepared, collected, paid, hquote, hprepared, hcollected, hpaid,
    fun hsuffices => ?_⟩
  obtain ⟨units, rfl⟩ := List.length_eq_one_iff.mp
    ((List.length_map _).symm.trans (congrArg List.length hequity))
  have hshort := (hsuffices units (List.mem_singleton_self units)).1
  obtain hunits := List.singleton_inj.mp hcomponent
  obtain hshown := List.singleton_inj.mp hequity
  rw [hunits, hshown] at hshort
  change ready.balanceOf 10 3 ≤ collected.balanceOf 10 3 + 196 at hshort
  change ready.balanceOf 10 3 = _ at hbefore
  change collected.balanceOf 10 3 = 0 at hafter
  rw [hbefore, hafter] at hshort
  exact absurd hshort (by decide)

end SetProtocol.DebtIssuanceModuleV3
