import SetProtocol.Core.RebalanceTargets
import SetProtocol.Core.SetTokenCreator
import SetProtocol.Core.ShareSupply
import SetProtocol.Modules.BasicIssuanceModule
import SetProtocol.Modules.DebtIssuanceBacking

/-!
# Solvency of basic issuance

For each component the SetToken has a surplus: what it holds beyond what all shares
together are owed.  No issuance, redemption or transfer lowers it, since amounts round in
favour of the SetToken.  Hence the components suffice for all shares at any time, nobody
draws out more than was put in for the shares that are left, and every holder can redeem
what it has.
-/

namespace SetProtocol.BasicIssuanceModule

open Transaction PreciseUnitMath
open DebtIssuanceModule (DefaultOnly)

variable {E : Type} {hooks : PreIssueHooks E} {world next : World E}
variable {chain middle after : Chain} {module sender target component holder : Address}
variable {quantity : ℕ}

/-! ## The surplus -/

/-- What is held of a component beyond what the shares are owed, in units of `1e-18`. -/
def surplus (chain : Chain) (component : Address) : ℤ :=
  chain.heldBalance component * preciseUnit -
    chain.setToken.totalSupply * chain.setToken.defaultRealUnit component

theorem neg_le_surplus_iff {shortage : ℕ} {component : Address} :
    -(shortage : ℤ) ≤ surplus chain component ↔
      chain.setToken.totalSupply * chain.setToken.defaultRealUnit component ≤
        chain.heldBalance component * preciseUnit + shortage := by
  unfold surplus
  zify
  constructor
  · intro hsurplus
    linarith
  · intro howed
    linarith

theorem surplus_nonneg_iff :
    (∀ component ∈ chain.setToken.components, 0 ≤ surplus chain component) ↔
      chain.Collateralized := by
  unfold Chain.Collateralized Backing.Backed
  apply forall₂_congr
  intro component _
  have hshort := @neg_le_surplus_iff chain 0 component
  rwa [Nat.cast_zero, neg_zero, Nat.add_zero] at hshort

/-- A step that only moves tokens and changes the supply, and gives no component away. -/
structure Keeps (chain after : Chain) : Prop where
  setTokenAddress : after.setTokenAddress = chain.setTokenAddress
  controller : after.controller = chain.controller
  setToken : after.setToken =
    { chain.setToken with totalSupply := after.setToken.totalSupply }
  surplus_le : ∀ component ∈ chain.setToken.components,
    surplus chain component ≤ surplus after component
  supplied : chain.Supplied → after.Supplied

namespace Keeps

theorem refl (chain : Chain) : Keeps chain chain :=
  ⟨rfl, rfl, rfl, fun _ _ => le_rfl, id⟩

theorem components (hkeeps : Keeps chain after) :
    after.setToken.components = chain.setToken.components := by
  rw [hkeeps.setToken]

theorem trans (hfirst : Keeps chain middle) (hsecond : Keeps middle after) :
    Keeps chain after where
  setTokenAddress := hsecond.setTokenAddress.trans hfirst.setTokenAddress
  controller := hsecond.controller.trans hfirst.controller
  setToken := by rw [hsecond.setToken, hfirst.setToken]
  surplus_le := fun component hcomponent =>
    (hfirst.surplus_le component hcomponent).trans
      (hsecond.surplus_le component (by rwa [hfirst.components]))
  supplied := fun hsupplied => hsecond.supplied (hfirst.supplied hsupplied)

theorem defaultRealUnit (hkeeps : Keeps chain after) (component : Address) :
    after.setToken.defaultRealUnit component = chain.setToken.defaultRealUnit component := by
  rw [hkeeps.setToken]
  rfl

theorem guard (hkeeps : Keeps chain after) :
    after.setToken.onlyModuleWhenLockedOnlyLocker after.controller module =
      chain.setToken.onlyModuleWhenLockedOnlyLocker chain.controller module := by
  rw [hkeeps.setToken, hkeeps.controller]
  rfl

theorem isSetValidAndInitialized_iff (hkeeps : Keeps chain after) :
    after.isSetValidAndInitialized module ↔ chain.isSetValidAndInitialized module := by
  unfold Chain.isSetValidAndInitialized
  rw [hkeeps.controller, hkeeps.setTokenAddress, hkeeps.setToken]

/-- Moving balances keeps what it takes nothing of the SetToken from. -/
theorem of_balances {balances : Address → Address → ℕ}
    (hconserves : Chain.Conserves chain { chain with balances := balances })
    (hheld : ∀ token, chain.heldBalance token ≤
      Chain.heldBalance { chain with balances := balances } token) :
    Keeps chain { chain with balances := balances } where
  setTokenAddress := rfl
  controller := rfl
  setToken := rfl
  surplus_le := by
    intro component _
    have hle := hheld component
    unfold surplus
    zify at hle
    have hscaled := mul_le_mul_of_nonneg_right hle
      (show (0 : ℤ) ≤ preciseUnit from Int.natCast_nonneg _)
    exact Int.sub_le_sub_right hscaled _
  supplied := fun hsupplied => hsupplied.of_conserves hconserves rfl rfl

end Keeps

/-! ## Issuing -/

/-- What issuing takes of a component. -/
def due (setToken : SetToken) (quantity : ℕ) (component : Address) : ℕ :=
  setToken.defaultRealUnit component * quantity ⌈/⌉ preciseUnit

/-- What redeeming pays of a component. -/
def payout (setToken : SetToken) (quantity : ℕ) (component : Address) : ℕ :=
  quantity * setToken.defaultRealUnit component / preciseUnit

theorem componentUnitsForIssue_eq_ok {setToken : SetToken} {entry : Address × ℕ}
    (hcall : componentUnitsForIssue setToken quantity component = .ok entry) :
    entry = (component, due setToken quantity component) := by
  simp only [componentUnitsForIssue, bind_eq_ok, preciseMulCeil_eq_ok, pure_eq_ok] at hcall
  obtain ⟨_, -, unit, hunit, cast, hcast, _, ⟨-, rfl⟩, rfl⟩ := hcall
  rw [due, SetToken.defaultRealUnit_of_ok hunit hcast]

theorem getRequiredComponentUnitsForIssue_eq_ok {required : List (Address × ℕ)}
    (hcall : getRequiredComponentUnitsForIssue module chain quantity = .ok required) :
    required = chain.setToken.components.map fun component =>
      (component, due chain.setToken quantity component) := by
  simp only [getRequiredComponentUnitsForIssue, bind_eq_ok] at hcall
  obtain ⟨_, -, hmap⟩ := hcall
  have hsame := map_of_mapM_eq_ok
    (fun component => (component, due chain.setToken quantity component)) id
    (fun component _ entry hentry => componentUnitsForIssue_eq_ok hentry) hmap
  rwa [List.map_id] at hsame

/-- The components come in, each in full. -/
theorem collect_eq_ok {required : List (Address × ℕ)}
    (hnodup : (required.map Prod.fst).Nodup)
    (hcall : required.foldlM (collectComponent sender) chain = .ok after) :
    (∃ balances, after = { chain with balances := balances }) ∧
      Chain.Conserves chain after ∧
      (∀ entry ∈ required,
        after.heldBalance entry.1 = chain.heldBalance entry.1 + entry.2) := by
  obtain ⟨⟨hframe, hconserves⟩, hheld, -⟩ := foldlM_keyed Prod.fst Chain.heldBalance
    (fun state : Chain => (∃ balances, state = { chain with balances := balances }) ∧
      Chain.Conserves chain state)
    (fun entry before now => now = before + entry.2) (fun entry _ state following hstate hturn => by
      obtain ⟨hsame, hkept⟩ := hstate
      obtain ⟨hraised, hothers⟩ := Chain.heldBalance_of_transferFrom hturn
      refine ⟨⟨?_, hkept.trans (Chain.conserves_transferFrom hturn)⟩, hraised, hothers⟩
      obtain ⟨_, rfl⟩ := hsame
      obtain ⟨_, rfl⟩ := Chain.transferFrom_frame hturn
      exact ⟨_, rfl⟩) hnodup ⟨⟨_, rfl⟩, Chain.Conserves.refl chain⟩ hcall
  exact ⟨hframe, hconserves, hheld⟩

theorem keeps_of_minted (hnodup : chain.setToken.components.Nodup)
    (hcollect : (chain.setToken.components.map fun component =>
      (component, due chain.setToken quantity component)).foldlM (collectComponent sender)
        chain = .ok middle)
    (hmint : middle.mint module target quantity = .ok after) : Keeps chain after := by
  have hkeys : ((chain.setToken.components.map fun component =>
      (component, due chain.setToken quantity component)).map Prod.fst) =
        chain.setToken.components := by
    rw [List.map_map]
    exact List.map_id _
  obtain ⟨⟨_, hframe⟩, hconserves, hheld⟩ := collect_eq_ok (by rwa [hkeys]) hcollect
  obtain ⟨haddress, hsetToken, hraised⟩ := Chain.mint_holdings hmint
  have hcontroller : after.controller = middle.controller := by
    obtain ⟨-, -, rfl⟩ := Chain.mint_eq_ok hmint
    rfl
  subst hframe
  refine ⟨haddress, hcontroller, by rw [hsetToken], fun component hcomponent => ?_,
    fun hsupplied => (hsupplied.of_conserves hconserves rfl rfl).mint hmint⟩
  have hpaid := hheld _ (List.mem_map_of_mem hcomponent)
  have hmore := hraised component
  have hcovers := Backing.le_ceilDiv_mul
    (chain.setToken.defaultRealUnit component * quantity) preciseUnit_pos
  have hunit : after.setToken.defaultRealUnit component =
      chain.setToken.defaultRealUnit component := by
    rw [hsetToken]
    rfl
  have hheldScaled : (chain.heldBalance component + due chain.setToken quantity component) *
      preciseUnit ≤ after.heldBalance component * preciseUnit :=
    Nat.mul_le_mul_right _ (hpaid ▸ hmore)
  change _ ≤ due chain.setToken quantity component * preciseUnit at hcovers
  unfold surplus
  rw [hunit, hsetToken]
  push_cast
  zify at hheldScaled hcovers
  linarith

/-! ## Redeeming -/

/-- The computation of a payout stays within its integers. -/
def PayoutFits (setToken : SetToken) (quantity : ℕ) (component : Address) : Prop :=
  FitsInt256 (setToken.defaultPositionVirtualUnit component * setToken.positionMultiplier) ∧
    quantity * setToken.defaultRealUnit component ≤ maxUint256

theorem payComponent_eq_ok (hcall : payComponent module target quantity chain component =
    .ok after) :
    PayoutFits chain.setToken quantity component ∧
      chain.strictInvokeTransfer module component target
        (payout chain.setToken quantity component) = .ok after := by
  simp only [payComponent, bind_eq_ok, preciseMul_eq_ok] at hcall
  obtain ⟨_, -, unit, hunit, cast, hcast, _, ⟨hfits, rfl⟩, htransfer⟩ := hcall
  have hsame := SetToken.defaultRealUnit_of_ok hunit hcast
  rw [PayoutFits, payout, hsame]
  exact ⟨⟨(SetToken.convertVirtualToRealUnit_eq_ok.mp hunit).1, hfits⟩, htransfer⟩

/-- A payout that fits is made, if there are funds for it. -/
theorem payComponent_returns (hkept : Bookkept chain.setToken)
    (hnone : chain.setToken.getExternalPositionModules component = [])
    (hguard : chain.setToken.onlyModuleWhenLockedOnlyLocker chain.controller module = .ok ())
    (htarget : target ≠ chain.setTokenAddress)
    (hfits : PayoutFits chain.setToken quantity component)
    (hfunds : payout chain.setToken quantity component ≤ chain.heldBalance component) :
    ∃ next, payComponent module target quantity chain component = .ok next := by
  obtain ⟨paid, hpaid⟩ : ∃ paid, chain.strictInvokeTransfer module component target
      (payout chain.setToken quantity component) = .ok paid :=
    Chain.strictInvokeTransfer_returns hguard (fun _ => htarget.symm) hfunds
  refine ⟨paid, ?_⟩
  simp only [payComponent, bind_eq_ok, require_eq_ok, preciseMul_eq_ok,
    Position.hasExternalPosition_eq_false]
  exact ⟨(), hnone, _, (RebalanceTargets.readable_iff hkept).mpr hfits.1, _,
    SafeCast.toUint256_eq_ok.mpr rfl, _, ⟨hfits.2, rfl⟩, hpaid⟩

/-- What a receiver gets of a component, out of what the SetToken holds. -/
structure Paid (setToken : SetToken) (quantity : ℕ) (target component : Address)
    (before now : ℕ × ℕ) : Prop where
  fits : PayoutFits setToken quantity component
  funds : payout setToken quantity component ≤ before.1
  held : now.1 = before.1 - payout setToken quantity component
  received : now.2 = before.2 + payout setToken quantity component

/-- Each component goes out once, in the quantity that its unit says. -/
theorem pay_eq_ok {setToken : SetToken} {components : List Address}
    (hnodup : components.Nodup) (hsetToken : chain.setToken = setToken)
    (hcall : components.foldlM (payComponent module target quantity) chain = .ok after) :
    (∃ balances, after = { chain with balances := balances }) ∧
      Chain.Conserves chain after ∧
      ∀ component ∈ components, Paid setToken quantity target component
        (chain.heldBalance component, chain.balanceOf component target)
        (after.heldBalance component, after.balanceOf component target) := by
  obtain ⟨⟨hframe, hconserves⟩, hpaid, -⟩ := foldlM_keyed id
    (fun (state : Chain) token => (state.heldBalance token, state.balanceOf token target))
    (fun state : Chain => (∃ balances, state = { chain with balances := balances }) ∧
      Chain.Conserves chain state)
    (Paid setToken quantity target)
    (fun component _ state following hstate hturn => by
      obtain ⟨hfits, hpaid⟩ := payComponent_eq_ok hturn
      obtain ⟨⟨_, hsame⟩, hkept⟩ := hstate
      have hstored : state.setToken = setToken := by rw [hsame, hsetToken]
      rw [hstored] at hpaid hfits
      obtain ⟨hfunds, hlowered, -⟩ := Chain.heldBalance_of_strictInvokeTransfer hpaid
      obtain ⟨hreceived, -⟩ := Chain.balanceOf_of_strictInvokeTransfer hpaid
      refine ⟨⟨?_, hkept.trans (Chain.conserves_strictInvokeTransfer hpaid)⟩,
        ⟨hfits, hfunds, hlowered, hreceived⟩, fun other hother => ?_⟩
      · obtain ⟨_, rfl⟩ := Chain.strictInvokeTransfer_frame hpaid
        exact ⟨_, by rw [hsame]⟩
      · have hledger := Chain.ledger_of_strictInvokeTransfer hother hpaid
        obtain ⟨_, rfl⟩ := Chain.strictInvokeTransfer_frame hpaid
        exact Prod.ext (congrFun hledger _) (congrFun hledger _))
    (by rwa [List.map_id]) ⟨⟨_, rfl⟩, Chain.Conserves.refl chain⟩ hcall
  exact ⟨hframe, hconserves, hpaid⟩

theorem keeps_of_paid (hnodup : chain.setToken.components.Nodup)
    (hsender : sender ≠ chain.setTokenAddress)
    (hburn : chain.burn module sender quantity = .ok middle)
    (hpay : middle.setToken.components.foldlM (payComponent module target quantity) middle =
      .ok after) : Keeps chain after := by
  obtain ⟨haddress, hquantity, hsetToken, hheld⟩ := Chain.burn_holdings hburn
  have hcontroller : middle.controller = chain.controller := by
    obtain ⟨-, -, -, rfl⟩ := Chain.burn_eq_ok hburn
    rfl
  have hcomponents : middle.setToken.components = chain.setToken.components := by
    rw [hsetToken]
  obtain ⟨⟨_, hframe⟩, hconserves, hpaid⟩ :=
    pay_eq_ok (hcomponents ▸ hnodup) rfl hpay
  have hsupplied : chain.Supplied → after.Supplied := fun hsupplied =>
    (hsupplied.burn hburn).of_conserves hconserves (by rw [hframe]) (by rw [hframe])
  have hstored : after.setToken = middle.setToken := by rw [hframe]
  refine ⟨by rw [hframe]; exact haddress, by rw [hframe]; exact hcontroller,
    by rw [hstored, hsetToken], fun component hcomponent => ?_, hsupplied⟩
  obtain ⟨-, hfunds, hlowered, -⟩ := hpaid component (hcomponents ▸ hcomponent)
  dsimp only at hfunds hlowered
  have hsame : middle.heldBalance component = chain.heldBalance component :=
    hheld component fun hself => absurd hself hsender
  have hunit : ∀ setToken : SetToken, setToken = middle.setToken →
      setToken.defaultRealUnit component = chain.setToken.defaultRealUnit component := by
    rintro setToken rfl
    rw [hsetToken]
    rfl
  have hsupply : after.setToken.totalSupply = chain.setToken.totalSupply - quantity := by
    rw [hstored, hsetToken]
  have hrounded : payout middle.setToken quantity component * preciseUnit ≤
      quantity * chain.setToken.defaultRealUnit component := by
    rw [payout, hunit _ rfl]
    exact Nat.div_mul_le_self _ _
  unfold surplus
  rw [hunit _ hstored, hsupply, hlowered, hsame]
  rw [hsame] at hfunds
  push_cast [hfunds, hquantity]
  zify at hrounded
  linarith

/-! ## Histories -/

/-- Everybody issues and redeems, holders transfer tokens, and the manager tries to get rid
of the module. -/
inductive Call
  | issue (sender : Address) (quantity : ℕ) (target : Address)
  | redeem (sender : Address) (quantity : ℕ) (target : Address)
  | transfer (token sender target : Address) (quantity : ℕ)
  | removeModule (sender : Address)

def Call.caller : Call → Address
  | issue sender _ _ => sender
  | redeem sender _ _ => sender
  | transfer _ sender _ _ => sender
  | removeModule sender => sender

def perform (hooks : PreIssueHooks E) (module : Address) :
    Call → World E → Outcome (World E)
  | .issue sender quantity target => fun world =>
      issue hooks module world sender quantity target
  | .redeem sender quantity target => fun world =>
      redeem module world sender quantity target
  | .transfer token sender target quantity => fun world => do
      let chain ← world.moveTokens token sender target quantity
      pure (world.withChain chain)
  | .removeModule sender => fun world => leaveSetToken module world sender

/-- What the hooks of managers do is of the same kind: they have no way to take anything
out of the SetToken. -/
def HooksKeep (hooks : PreIssueHooks E) : Prop :=
  ∀ hook quantity caller target world next,
    hooks hook quantity caller target world = .ok next → Keeps world.toChain next.toChain

theorem keeps_of_moveTokens {token : Address} (hsender : sender ≠ chain.setTokenAddress)
    (hcall : chain.moveTokens token sender target quantity = .ok after) :
    Keeps chain after := by
  have hconserves := Chain.conserves_moveTokens hcall
  obtain ⟨-, rfl⟩ := Chain.moveTokens_eq_ok.mp hcall
  refine Keeps.of_balances hconserves fun other => ?_
  by_cases heq : other = token
  · subst heq
    change _ ≤ Chain.heldBalance (chain.withLedger other _) other
    rw [Chain.heldBalance_withLedger_self, Ledger.move]
    refine le_of_eq_of_le ?_ (Ledger.le_credit _ _ _ _)
    exact (Ledger.debit_of_ne hsender.symm).symm
  · exact (Chain.heldBalance_withLedger_of_ne heq).symm.le

theorem perform_keeps (hhooks : HooksKeep hooks)
    (hnodup : world.setToken.components.Nodup) {call : Call}
    (houtside : call.caller ≠ world.setTokenAddress)
    (hcall : perform hooks module call world = .ok next) :
    Keeps world.toChain next.toChain := by
  cases call with
  | issue sender quantity target =>
      simp only [perform, issue, bind_eq_ok, pure_eq_ok] at hcall
      obtain ⟨_, -, _, -, hooked, hhooked, required, hrequired, collected, hcollect, minted,
        hmint, rfl⟩ := hcall
      have hkept : Keeps world.toChain hooked.toChain := by
        unfold callPreIssueHooks at hhooked
        split at hhooked
        · exact hhooks _ _ _ _ _ _ hhooked
        · rw [pure_eq_ok] at hhooked
          exact hhooked ▸ Keeps.refl _
      obtain rfl := getRequiredComponentUnitsForIssue_eq_ok hrequired
      exact hkept.trans (keeps_of_minted (hkept.components ▸ hnodup) hcollect hmint)
  | redeem sender quantity target =>
      simp only [perform, redeem, bind_eq_ok, pure_eq_ok] at hcall
      obtain ⟨_, -, _, -, burnt, hburn, paid, hpay, rfl⟩ := hcall
      exact keeps_of_paid hnodup houtside hburn hpay
  | transfer token sender target quantity =>
      simp only [perform, bind_eq_ok, pure_eq_ok] at hcall
      obtain ⟨moved, hmoved, rfl⟩ := hcall
      exact keeps_of_moveTokens houtside hmoved
  | removeModule sender =>
      simp only [perform, leaveSetToken, removeModule, bind_eq_ok, reduceCtorEq, false_and,
        exists_false, and_false] at hcall

variable (module) in
theorem keeps_of_history (hhooks : HooksKeep hooks)
    (hnodup : world.setToken.components.Nodup) (calls : List Call)
    (houtside : ∀ call ∈ calls, call.caller ≠ world.setTokenAddress) :
    Keeps world.toChain (run (perform hooks module) calls world).toChain := by
  refine run_preserves (fun state : World E => Keeps world.toChain state.toChain) ?_
    (Keeps.refl _)
  intro call hcall state after hstate hperform
  refine hstate.trans (perform_keeps hhooks (hstate.components ▸ hnodup) ?_ hperform)
  rw [hstate.setTokenAddress]
  exact houtside call hcall

/-- Over every history the SetToken takes in, of each component, at least what the shares
that were added are owed.  Where the supply is what it was, nothing was drawn out. -/
theorem holdings_of_history (hhooks : HooksKeep hooks)
    (hnodup : world.setToken.components.Nodup) (calls : List Call)
    (houtside : ∀ call ∈ calls, call.caller ≠ world.setTokenAddress) :
    ∀ component ∈ world.setToken.components,
      (((run (perform hooks module) calls world).setToken.totalSupply : ℤ) -
          world.setToken.totalSupply) * world.setToken.defaultRealUnit component ≤
        (((run (perform hooks module) calls world).heldBalance component : ℤ) -
          world.heldBalance component) * preciseUnit := by
  intro component hcomponent
  have hkeeps := keeps_of_history module hhooks hnodup calls houtside
  have hsurplus := hkeeps.surplus_le component hcomponent
  unfold surplus at hsurplus
  rw [hkeeps.defaultRealUnit] at hsurplus
  linarith

/-! ## Redeeming what one has -/

/-- A SetToken in the care of this module: nobody else has locked it, it has default
positions only, and it holds what its shares are owed. -/
structure Solvent (module : Address) (chain : Chain) : Prop where
  initialized : chain.isSetValidAndInitialized module
  unlocked : chain.setToken.onlyModuleWhenLockedOnlyLocker chain.controller module = .ok ()
  bookkept : Bookkept chain.setToken
  default_only : DefaultOnly chain.setToken
  collateralized : chain.Collateralized
  supplied : chain.Supplied

theorem Solvent.of_keeps (hsolvent : Solvent module chain) (hkeeps : Keeps chain after) :
    Solvent module after where
  initialized := hkeeps.isSetValidAndInitialized_iff.mpr hsolvent.initialized
  unlocked := hkeeps.guard.trans hsolvent.unlocked
  bookkept := by
    rw [hkeeps.setToken]
    exact hsolvent.bookkept.of_same_positions rfl rfl rfl
  default_only := by
    rw [hkeeps.setToken]
    exact hsolvent.default_only
  collateralized := by
    rw [← surplus_nonneg_iff, hkeeps.components]
    intro component hcomponent
    exact (surplus_nonneg_iff.mpr hsolvent.collateralized component hcomponent).trans
      (hkeeps.surplus_le component hcomponent)
  supplied := hkeeps.supplied hsolvent.supplied

/-- What a redemption leaves behind: each component went out once and in full. -/
structure Redeemed (chain : Chain) (quantity : ℕ) (target : Address) (after : Chain) :
    Prop where
  supply : after.setToken.totalSupply + quantity = chain.setToken.totalSupply
  paid : ∀ component ∈ chain.setToken.components, component ≠ chain.setTokenAddress →
    Paid chain.setToken quantity target component
      (chain.heldBalance component, chain.balanceOf component target)
      (after.heldBalance component, after.balanceOf component target)

theorem redeemed_of_paid {burnt : Chain} (hnodup : chain.setToken.components.Nodup)
    (hburn : chain.burn module sender quantity = .ok burnt)
    (hpay : burnt.setToken.components.foldlM (payComponent module target quantity) burnt =
      .ok after) : Redeemed chain quantity target after := by
  obtain ⟨-, -, hsupply, hburnt⟩ := Chain.burn_eq_ok hburn
  have hsetToken : burnt.setToken =
      { chain.setToken with totalSupply := chain.setToken.totalSupply - quantity } := by
    rw [hburnt]
    rfl
  have hcomponents : burnt.setToken.components = chain.setToken.components := by
    rw [hsetToken]
  obtain ⟨⟨_, hframe⟩, -, hpaid⟩ := pay_eq_ok (hcomponents ▸ hnodup) rfl hpay
  refine ⟨?_, fun component hcomponent hother => ?_⟩
  · rw [hframe]
    change burnt.setToken.totalSupply + quantity = _
    rw [hsetToken]
    exact Nat.sub_add_cancel hsupply
  · have hledger : burnt.balances component = chain.balances component := by
      rw [hburnt]
      simp [Chain.withSetToken, Chain.withLedger, hother]
    have hheld : burnt.heldBalance component = chain.heldBalance component := by
      rw [Chain.heldBalance, hledger, hburnt]
      rfl
    have htarget : burnt.balanceOf component target = chain.balanceOf component target :=
      congrFun hledger target
    have hturn := hpaid component (hcomponents ▸ hcomponent)
    rw [hheld, htarget, hsetToken] at hturn
    exact ⟨hturn.fits, hturn.funds, hturn.held, hturn.received⟩

/-- A solvent SetToken has the funds for every payout, and nothing else stands in its way
than the size of the numbers. -/
theorem payouts_return (hsolvent : Solvent module chain)
    (hsender : sender ≠ chain.setTokenAddress) (htarget : target ≠ chain.setTokenAddress)
    (hburn : chain.burn module sender quantity = .ok middle)
    (hfits : ∀ component ∈ chain.setToken.components,
      PayoutFits chain.setToken quantity component) :
    ∃ paid, middle.setToken.components.foldlM (payComponent module target quantity) middle =
      .ok paid := by
  obtain ⟨haddress, hquantity, hsetToken, hheld⟩ := Chain.burn_holdings hburn
  have hcontroller : middle.controller = chain.controller := by
    obtain ⟨-, -, -, rfl⟩ := Chain.burn_eq_ok hburn
    rfl
  have hcomponents : middle.setToken.components = chain.setToken.components := by
    rw [hsetToken]
  have hkept : Bookkept middle.setToken := by
    rw [hsetToken]
    exact hsolvent.bookkept.of_same_positions rfl rfl rfl
  refine foldlM_returns id
    (fun state : Chain => ∃ balances, state = { middle with balances := balances })
    (fun component state =>
      payout middle.setToken quantity component ≤ state.heldBalance component) ?_
    (by rw [List.map_id, hcomponents]; exact hsolvent.bookkept.components.nodup) ⟨_, rfl⟩ ?_
  · rintro component hcomponent state ⟨balances, rfl⟩ hfunds
    have hlisted : component ∈ chain.setToken.components := hcomponents ▸ hcomponent
    have hnone : middle.setToken.getExternalPositionModules component = [] := by
      rw [hsetToken]
      exact hsolvent.default_only component hlisted
    have hguard : middle.setToken.onlyModuleWhenLockedOnlyLocker middle.controller module =
        .ok () := by
      rw [hsetToken, hcontroller]
      exact hsolvent.unlocked
    have hturnFits : PayoutFits middle.setToken quantity component := by
      rw [hsetToken]
      exact hfits component hlisted
    obtain ⟨paid, hpaid⟩ : ∃ paid, payComponent module target quantity
        { middle with balances := balances } component = .ok paid :=
      payComponent_returns hkept hnone hguard (haddress ▸ htarget) hturnFits hfunds
    obtain ⟨-, htransfer⟩ := payComponent_eq_ok hpaid
    obtain ⟨_, hframe⟩ := Chain.strictInvokeTransfer_frame htransfer
    refine ⟨paid, hpaid, ⟨_, hframe⟩, fun other hother hlater => ?_⟩
    have hledger := Chain.ledger_of_strictInvokeTransfer hother htransfer
    subst hframe
    exact hlater.trans_eq (congrFun hledger.symm _)
  · intro component hcomponent
    rw [hheld component fun hself => absurd hself hsender, hsetToken]
    exact (hsolvent.collateralized component (hcomponents ▸ hcomponent)).affordable quantity
      preciseUnit_pos (Nat.div_mul_le_self _ _) hquantity

/-- Holders redeem what they have, unless the numbers are too large to multiply. -/
theorem redeem_returns_iff (hsolvent : Solvent module world.toChain)
    (hzero : sender ≠ zeroAddress) (hsender : sender ≠ world.setTokenAddress)
    (htarget : target ≠ world.setTokenAddress) (hquantity : 0 < quantity)
    (hshares : quantity ≤ world.balanceOf world.setTokenAddress sender) :
    (∃ next, redeem module world sender quantity target = .ok next ∧
        Redeemed world.toChain quantity target next.toChain) ↔
      ∀ component ∈ world.setToken.components,
        PayoutFits world.setToken quantity component := by
  constructor
  · rintro ⟨next, hcall, -⟩ component hcomponent
    simp only [redeem, bind_eq_ok, pure_eq_ok] at hcall
    obtain ⟨_, -, _, -, burnt, hburn, paid, hpay, -⟩ := hcall
    obtain ⟨-, -, hsetToken, -⟩ := Chain.burn_holdings hburn
    have hcomponents : burnt.setToken.components = world.setToken.components := by
      rw [hsetToken]
    obtain ⟨-, -, hpaid⟩ :=
      pay_eq_ok (hcomponents ▸ hsolvent.bookkept.components.nodup) rfl hpay
    have hturn := (hpaid component (hcomponents ▸ hcomponent)).fits
    rwa [hsetToken] at hturn
  · intro hfits
    have hsupply := hshares.trans (hsolvent.supplied.balance_le sender)
    obtain ⟨burnt, hburn⟩ : ∃ burnt, world.burn module sender quantity = .ok burnt := by
      simp only [Chain.burn, bind_eq_ok, require_eq_ok, SafeMath.sub_eq_ok, pure_eq_ok]
      exact ⟨_, (), hsolvent.unlocked, (), hzero, (), hshares, _, ⟨hsupply, rfl⟩, rfl⟩
    obtain ⟨paid, hpay⟩ := payouts_return hsolvent hsender htarget hburn hfits
    refine ⟨world.withChain paid, ?_,
      redeemed_of_paid hsolvent.bookkept.components.nodup hburn hpay⟩
    simp only [redeem, Chain.validateOnlyValidAndInitializedSet, bind_eq_ok, require_eq_ok,
      pure_eq_ok]
    exact ⟨(), hsolvent.initialized, (), hquantity, burnt, hburn, paid, hpay, rfl⟩

/-- Whatever others have done in the meantime, and whatever the manager has tried, a holder
takes out every component in full. -/
theorem redeemable_after_history (hhooks : HooksKeep hooks)
    (hsolvent : Solvent module world.toChain) (calls : List Call)
    (houtside : ∀ call ∈ calls, call.caller ≠ world.setTokenAddress)
    (hzero : sender ≠ zeroAddress) (hsender : sender ≠ world.setTokenAddress)
    (htarget : target ≠ world.setTokenAddress) (hquantity : 0 < quantity)
    (hshares : quantity ≤ (run (perform hooks module) calls world).balanceOf
      world.setTokenAddress sender) :
    (∃ next, redeem module (run (perform hooks module) calls world) sender quantity target =
        .ok next ∧
        Redeemed (run (perform hooks module) calls world).toChain quantity target
          next.toChain) ↔
      ∀ component ∈ world.setToken.components,
        PayoutFits world.setToken quantity component := by
  have hkeeps := keeps_of_history module hhooks
    hsolvent.bookkept.components.nodup calls houtside
  have hsame := redeem_returns_iff (hsolvent.of_keeps hkeeps) hzero
    (hkeeps.setTokenAddress ▸ hsender) (hkeeps.setTokenAddress ▸ htarget) hquantity
    (by rwa [hkeeps.setTokenAddress])
  rw [hsame, hkeeps.components]
  unfold PayoutFits
  simp only [hkeeps.defaultRealUnit]
  rw [hkeeps.setToken]
  rfl

/-! ## From the beginning -/

/-- The constructor writes default positions only. -/
theorem getExternalPositionModules_deploy {components modules : List Address} {units : List ℤ}
    {manager : Address} (component : Address) :
    (SetToken.deploy components units modules manager).getExternalPositionModules component =
      [] := by
  unfold SetToken.getExternalPositionModules SetToken.deploy
  dsimp only
  generalize components.zip units = entries
  refine List.foldlRecOn (motive := fun positions : Address → ComponentPosition =>
    (positions component).externalPositionModules = []) entries _ rfl ?_
  intro positions hpositions entry _
  by_cases heq : component = entry.1
  · subst heq
    rw [Function.update_self]
    exact hpositions
  · rw [Function.update_of_ne heq]
    exact hpositions

/-- A SetToken that nobody has issued yet is solvent, once this module is in charge. -/
theorem solvent_of_new {components modules : List Address} {units : List ℤ}
    {manager : Address} {states : Address → ModuleState}
    (hlength : components.length = units.length) (hnodup : components.Nodup)
    (hunits : ∀ entry ∈ components.zip units, 0 < entry.2)
    (hsetToken : chain.setToken =
      { SetToken.deploy components units modules manager with moduleStates := states })
    (hinitialized : chain.isSetValidAndInitialized module)
    (henabled : chain.controller.isModule module = true)
    (hempty : ∀ account, chain.balanceOf chain.setTokenAddress account = 0) :
    Solvent module chain where
  initialized := hinitialized
  unlocked := by
    obtain ⟨-, hstate⟩ := hinitialized
    have hopen : chain.setToken.isLocked = false := by
      rw [hsetToken]
      rfl
    simp [SetToken.onlyModuleWhenLockedOnlyLocker, SetToken.validateOnlyModule,
      SetToken.validateWhenLockedOnlyLocker, hstate, henabled, hopen, require]
    rfl
  bookkept := by
    have hdeployed : Bookkept (SetToken.deploy components units modules manager) :=
      SetTokenCreator.bookkept_deploy hlength hnodup hunits
    rw [hsetToken]
    exact hdeployed.of_same_positions rfl rfl rfl
  default_only := by
    intro component _
    rw [hsetToken]
    exact @getExternalPositionModules_deploy components modules units manager component
  collateralized := by
    intro component _
    rw [Backing.Backed, hsetToken]
    exact (Nat.zero_mul _).trans_le (Nat.zero_le _)
  supplied := by
    have hledger : chain.balances chain.setTokenAddress = fun _ => 0 := funext hempty
    rw [Chain.Supplied, hledger, hsetToken]
    exact Ledger.sumsTo_empty

/-- A component of two units a share, before anybody has issued. -/
def newWorld : World Unit where
  controller := { Controller.deploy 1 2 with
    isSet := fun setToken => setToken == 9
    isModule := fun module => module == 5 }
  setTokenAddress := 9
  setToken := { SetToken.deploy [10] [2 * 10 ^ 18] [5] 7 with
    moduleStates := fun module => if module = 5 then .INITIALIZED else .NONE }
  balances := fun token holder => if token = 10 then (if holder = 9 then 0 else 1000) else 0
  timestamp := 0
  managerIssuanceHook := zeroAddress
  environment := ()

theorem solvent_newWorld : Solvent 5 newWorld.toChain :=
  solvent_of_new (by decide) (by decide) (by decide) rfl (by decide) (by decide)
    (fun _ => rfl)

theorem hooksKeep_none : HooksKeep (fun _ _ _ _ world => .ok world : PreIssueHooks E) := by
  rintro _ _ _ _ world _ ⟨⟩
  exact Keeps.refl world.toChain

/-- The calls of three accounts: shares are issued, passed on and redeemed. -/
def someCalls : List Call :=
  [.issue 3 7 3, .transfer 9 3 6 5, .removeModule 7, .redeem 3 1 3]

theorem holdings_of_history_someCalls :
    (((run (perform (fun _ _ _ _ world => .ok world) 5) someCalls newWorld).setToken.totalSupply
        : ℤ) - newWorld.setToken.totalSupply) * newWorld.setToken.defaultRealUnit 10 ≤
      (((run (perform (fun _ _ _ _ world => .ok world) 5) someCalls newWorld).heldBalance 10
        : ℤ) - newWorld.heldBalance 10) * preciseUnit :=
  holdings_of_history hooksKeep_none solvent_newWorld.bookkept.components.nodup someCalls
    (by decide) 10 (by decide)

theorem redeemable_after_someCalls :
    ∃ next, redeem 5 (run (perform (fun _ _ _ _ world => .ok world) 5) someCalls newWorld) 6 5 6 =
        .ok next ∧
      Redeemed (run (perform (fun _ _ _ _ world => .ok world) 5) someCalls newWorld).toChain 5 6
        next.toChain := by
  refine (redeemable_after_history hooksKeep_none solvent_newWorld someCalls (by decide)
    (by decide) (by decide) (by decide) (by decide) (by decide +kernel)).mpr ?_
  intro component hcomponent
  rw [List.mem_singleton.mp hcomponent]
  exact ⟨by decide, by decide⟩

end SetProtocol.BasicIssuanceModule
